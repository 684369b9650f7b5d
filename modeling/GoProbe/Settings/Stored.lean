import GoProbe.Json.Decode
import GoProbe.Settings.Basic

/-!
# Settings as JSON

All settings are written out; each may be left out when read.
-/

namespace GoProbe

open Json (Decoder Row)

namespace ResolverSettings

def toJson (settings : ResolverSettings) : Json :=
  .object [("kind", .string settings.kind.tag), ("dump_suffix", .string settings.dumpSuffix),
    ("command", .orNull .string settings.command), ("args", .listOf .string settings.args),
    ("int_size", .nat settings.intSize)]

def decoder : Decoder ResolverSettings :=
  let absent : ResolverSettings := {}
  .record do
    return { kind := ← .fieldOr "kind" absent.kind (.enumeration ResolverKind.ofTag?)
             dumpSuffix := ← .fieldOr "dump_suffix" absent.dumpSuffix .string
             command := ← .optional "command" .string
             args := ← .listOr "args" .string
             intSize := ← .fieldOr "int_size" absent.intSize .nat32 }

end ResolverSettings

namespace ProbeSettings

def toJson (settings : ProbeSettings) : Json :=
  .object [("backend", .string settings.backend.tag), ("id_policy", .string settings.idPolicy.tag),
    ("hash_bucket_bits", .nat settings.hashBucketBits),
    ("max_trace_length", .nat settings.maxTraceLength),
    ("counter_table_name", .string settings.counterTableName),
    ("trace_parameter_name", .string settings.traceParameterName),
    ("table_file_name", .string settings.tableFileName),
    ("output_root", .orNull .string settings.outputRoot),
    ("exclude_patterns", .listOf .string settings.excludePatterns)]

def decoder : Decoder ProbeSettings :=
  let absent : ProbeSettings := {}
  .record do
    return { backend := ← .fieldOr "backend" absent.backend (.enumeration BackendKind.ofTag?)
             idPolicy := ← .fieldOr "id_policy" absent.idPolicy (.enumeration IdPolicyKind.ofTag?)
             hashBucketBits := ← .fieldOr "hash_bucket_bits" absent.hashBucketBits .nat32
             maxTraceLength := ← .fieldOr "max_trace_length" absent.maxTraceLength .nat64
             counterTableName := ← .fieldOr "counter_table_name" absent.counterTableName .string
             traceParameterName :=
               ← .fieldOr "trace_parameter_name" absent.traceParameterName .string
             tableFileName := ← .fieldOr "table_file_name" absent.tableFileName .string
             outputRoot := ← .optional "output_root" .string
             excludePatterns :=
               ← .fieldOr "exclude_patterns" absent.excludePatterns (.list .string) }

end ProbeSettings

namespace Settings

def toJson (settings : Settings) : Json :=
  .object [("oracle", settings.resolver.toJson), ("instrument", settings.probe.toJson)]

def decoder : Decoder Settings :=
  .record do
    return { resolver := ← .fieldOr "oracle" {} ResolverSettings.decoder
             probe := ← .fieldOr "instrument" {} ProbeSettings.decoder }

end Settings

end GoProbe
