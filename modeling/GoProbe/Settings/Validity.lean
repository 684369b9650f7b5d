import GoProbe.Pattern
import GoProbe.Settings.Basic
import GoProbe.Text.Identifier
import GoProbe.Text.Quoted

/-!
# Valid settings

What settings have to satisfy beyond their types. The first rule that is broken is reported.
-/

namespace GoProbe

/-- A rule that settings break. -/
inductive SettingsFault where
  | intSize (given : Nat)
  | commandMissing
  | dumpSuffixEmpty
  | hashBucketBits (given : Nat)
  | hashBucketBitsForTrace
  | maxTraceLength
  | counterTableName (given : String)
  | traceParameterName (given : String)
  | tableFileName (given : String)
  /-- The pattern by its place in the list, counted from one. -/
  | excludePattern (number : Nat) (given : String) (err : PatternError)
deriving DecidableEq, Repr, Inhabited

namespace SettingsFault

def message : SettingsFault → String
  | intSize given => s!"oracle.int_size must be 32 or 64, got {given}"
  | commandMissing => "oracle.command is required when oracle.kind = \"command\""
  | dumpSuffixEmpty => "oracle.dump_suffix must not be empty"
  | hashBucketBits given =>
    s!"instrument.hash_bucket_bits must be between 1 and 32, got {given}"
  | hashBucketBitsForTrace =>
    "instrument.hash_bucket_bits must be at most 16 for the trace backend"
  | maxTraceLength => "instrument.max_trace_length must be positive"
  | counterTableName given =>
    "instrument.counter_table_name is not a valid identifier: " ++ Text.quoted given
  | traceParameterName given =>
    "instrument.trace_parameter_name is not a valid identifier: " ++ Text.quoted given
  | tableFileName given =>
    "instrument.table_file_name must be a non-test .go file, got " ++ Text.quoted given
  | excludePattern number given err =>
    s!"Invalid exclude pattern #{number}: '{given}' - {err.message}"

end SettingsFault

/-- Whether a text ends in another. -/
def endsWith (text ending : String) : Bool :=
  ending.toList.isSuffixOf text.toList

namespace ResolverSettings

/-- The first rule that the settings break. -/
def fault? (settings : ResolverSettings) : Option SettingsFault :=
  if settings.intSize ≠ 32 ∧ settings.intSize ≠ 64 then some (.intSize settings.intSize)
  else if settings.kind = .command ∧ settings.command.isNone then some .commandMissing
  else if settings.dumpSuffix.isEmpty then some .dumpSuffixEmpty
  else none

end ResolverSettings

/-- The first text that is no pattern; `number` counts the texts. -/
def patternFault? (number : Nat) : List String → Option SettingsFault
  | [] => none
  | text :: rest =>
    match Pattern.ofText text with
    | .ok _ => patternFault? (number + 1) rest
    | .error err => some (.excludePattern number text err)

namespace ProbeSettings

/-- The first rule that the settings break. -/
def fault? (settings : ProbeSettings) : Option SettingsFault :=
  if settings.hashBucketBits < 1 ∨ 32 < settings.hashBucketBits then
    some (.hashBucketBits settings.hashBucketBits)
  else if settings.backend = .trace ∧ settings.idPolicy = .hashed ∧
      16 < settings.hashBucketBits then
    some .hashBucketBitsForTrace
  else if settings.maxTraceLength = 0 then some .maxTraceLength
  else if !Text.isIdentifier settings.counterTableName then
    some (.counterTableName settings.counterTableName)
  else if !Text.isIdentifier settings.traceParameterName then
    some (.traceParameterName settings.traceParameterName)
  else if !endsWith settings.tableFileName ".go" || endsWith settings.tableFileName "_test.go" then
    some (.tableFileName settings.tableFileName)
  else patternFault? 1 settings.excludePatterns

end ProbeSettings

namespace Settings

/-- The first rule that the settings break. -/
def fault? (settings : Settings) : Option SettingsFault :=
  settings.resolver.fault?.or settings.probe.fault?

end Settings

end GoProbe
