import GoProbe.Settings.Validity
import GoProbe.Toml.Decode
import GoProbe.Word

/-!
# Settings files

Settings are written in TOML, in the tables `oracle` and `instrument`. Every setting may be left
out; names that mean nothing are skipped.
-/

namespace GoProbe

open Toml (Decoder Row)

/-- The name of a settings file. -/
def settingsFileName : String := ".seedprobe.toml"

/-- Why a text gives no settings. -/
inductive SettingsError where
  /-- It is not TOML, or it does not have the form of settings. -/
  | malformed
  | invalid (fault : SettingsFault)
  /-- A resolver program is asked for and none is named. -/
  | commandUnset
deriving DecidableEq, Repr, Inhabited

namespace SettingsError

def message : SettingsError → String
  | malformed => "Failed to parse " ++ settingsFileName
  | invalid fault => fault.message
  | commandUnset => "oracle.command is not set"

end SettingsError

namespace ResolverSettings

def tomlDecoder : Decoder ResolverSettings :=
  let absent : ResolverSettings := {}
  .record do
    return { kind := ← .fieldOr "kind" absent.kind (.enumeration ResolverKind.ofTag?)
             dumpSuffix := ← .fieldOr "dump_suffix" absent.dumpSuffix .string
             command := ← .optional "command" .string
             args := ← .fieldOr "args" absent.args (.list .string)
             intSize := ← .fieldOr "int_size" absent.intSize (.nat (wordCount 32)) }

end ResolverSettings

namespace ProbeSettings

def tomlDecoder : Decoder ProbeSettings :=
  let absent : ProbeSettings := {}
  .record do
    return { backend := ← .fieldOr "backend" absent.backend (.enumeration BackendKind.ofTag?)
             idPolicy := ← .fieldOr "id_policy" absent.idPolicy (.enumeration IdPolicyKind.ofTag?)
             hashBucketBits :=
               ← .fieldOr "hash_bucket_bits" absent.hashBucketBits (.nat (wordCount 32))
             maxTraceLength :=
               ← .fieldOr "max_trace_length" absent.maxTraceLength (.nat (wordCount 64))
             counterTableName := ← .fieldOr "counter_table_name" absent.counterTableName .string
             traceParameterName :=
               ← .fieldOr "trace_parameter_name" absent.traceParameterName .string
             tableFileName := ← .fieldOr "table_file_name" absent.tableFileName .string
             outputRoot := ← .optional "output_root" .string
             excludePatterns :=
               ← .fieldOr "exclude_patterns" absent.excludePatterns (.list .string) }

end ProbeSettings

namespace Settings

def tomlDecoder : Decoder Settings :=
  .record do
    return { resolver := ← .fieldOr "oracle" {} ResolverSettings.tomlDecoder
             probe := ← .fieldOr "instrument" {} ProbeSettings.tomlDecoder }

/-- The settings that a text spells, if they are valid. -/
def ofToml [Toml.Dialect] (text : String) : Except SettingsError Settings :=
  match (Toml.Dialect.parse text).bind fun entries => tomlDecoder (.table .header entries) with
  | none => .error .malformed
  | some settings =>
    match settings.fault? with
    | some fault => .error (.invalid fault)
    | none => .ok settings

end Settings

end GoProbe
