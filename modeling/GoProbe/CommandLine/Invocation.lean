import GoProbe.CommandLine.Switch
import GoProbe.Dict
import GoProbe.Settings.Validity
import GoProbe.Word

/-!
# Invocations

An invocation is what the arguments of a command say. Arguments are read from left to right:

* `--name value` and `--name=value`, `-l value`, `-lvalue` and `-l=value` give a switch its value;
  letters without values may stand together.
* What starts with a dash is a switch and never the value of the switch before it, a dash alone
  apart. After `--` nothing is a switch. Nothing but switches and their values is known.
* A value in an argument of its own is looked at when the next switch comes or the arguments end,
  so that an argument that is not known is reported before it.

What was not given is then taken from the environment, and what still is missing is reported last.
-/

namespace GoProbe

/-- Why arguments are no invocation. -/
inductive UsageError where
  /-- A switch without a value, or with one that is not among those it may have. -/
  | invalidValue
  /-- A value that is no number in range. -/
  | notNumber
  | unknownArgument
  /-- A value for a switch that has none. -/
  | surplusValue
  | repeated
  | missing
  /-- Help is asked for. -/
  | help
  /-- The version is asked for. -/
  | version
deriving DecidableEq, Repr, Inhabited

namespace UsageError

def message : UsageError → String
  | invalidValue => "a switch lacks its value or has an invalid one"
  | notNumber => "a value is not a number in range"
  | unknownArgument => "unknown argument"
  | surplusValue => "a value for a switch that takes none"
  | repeated => "a switch is given twice"
  | missing => "--targets and --results are required"
  | help => "--targets FILE --results FILE [SWITCHES]"
  | version => "0.4.0"

end UsageError

/-- What has been given so far. -/
structure Draft where
  targets : Option String := none
  results : Option String := none
  backend : Option BackendKind := none
  idPolicy : Option IdPolicyKind := none
  maxTraceLength : Option Nat := none
  outputRoot : Option String := none
  resolverCommand : Option String := none
  dumpSuffix : Option String := none
  settingsFile : Option String := none
  jobs : Option Nat := none
  verbosity : Nat := 0
deriving DecidableEq, Repr, Inhabited

/-! ## Values -/

/-- A path has at least one character. -/
def pathValue (text : String) : Except UsageError String :=
  if text == "" then .error .invalidValue else .ok text

/-- A number of 64 bits in decimal digits, with or without a plus sign. -/
def numberValue (text : String) : Except UsageError Nat :=
  let digits := match text.toList with
    | '+' :: rest => rest
    | chars => chars
  if digits.isEmpty || !digits.all Char.isDigit then .error .notNumber
  else
    let value := digits.foldl (fun n c => 10 * n + (c.toNat - '0'.toNat)) 0
    if value < wordCount 64 then .ok value else .error .notNumber

/-- One of several words. -/
def wordValue {α : Type} (ofTag? : String → Option α) (text : String) : Except UsageError α :=
  match ofTag? text with
  | some value => .ok value
  | none => .error .invalidValue

namespace Draft

/-- Whether a switch has its value. -/
def has (draft : Draft) : Switch → Bool
  | .targets => draft.targets.isSome
  | .results => draft.results.isSome
  | .backend => draft.backend.isSome
  | .idPolicy => draft.idPolicy.isSome
  | .maxTraceLength => draft.maxTraceLength.isSome
  | .outputRoot => draft.outputRoot.isSome
  | .resolverCommand => draft.resolverCommand.isSome
  | .dumpSuffix => draft.dumpSuffix.isSome
  | .settingsFile => draft.settingsFile.isSome
  | .jobs => draft.jobs.isSome
  | .verbose => false
  | .help => false
  | .version => false

/-- Gives a switch its value, once. -/
def put (draft : Draft) (switch : Switch) (text : String) : Except UsageError Draft := do
  if draft.has switch then throw .repeated
  match switch with
  | .targets => return { draft with targets := some (← pathValue text) }
  | .results => return { draft with results := some (← pathValue text) }
  | .backend => return { draft with backend := some (← wordValue BackendKind.ofTag? text) }
  | .idPolicy => return { draft with idPolicy := some (← wordValue IdPolicyKind.ofTag? text) }
  | .maxTraceLength => return { draft with maxTraceLength := some (← numberValue text) }
  | .outputRoot => return { draft with outputRoot := some (← pathValue text) }
  | .resolverCommand => return { draft with resolverCommand := some text }
  | .dumpSuffix => return { draft with dumpSuffix := some text }
  | .settingsFile => return { draft with settingsFile := some (← pathValue text) }
  | .jobs => return { draft with jobs := some (← numberValue text) }
  | .verbose => throw .surplusValue
  | .help => throw .surplusValue
  | .version => throw .surplusValue

/-- The highest verbosity. -/
def maxVerbosity : Nat := 255

/-- Sets a switch that has no value. -/
def flag (draft : Draft) : Switch → Except UsageError Draft
  | .verbose => .ok { draft with verbosity := min maxVerbosity (draft.verbosity + 1) }
  | .help => .error .help
  | .version => .error .version
  | _ => .error .invalidValue

end Draft

/-! ## Arguments -/

/-- A switch that waits for its value, or whose value was not looked at yet. -/
structure Pending where
  switch : Switch
  value : Option String := none

structure Reading where
  draft : Draft := {}
  pending : Option Pending := none

namespace Reading

/-- Takes the value of a switch that stands pending. -/
def settle (reading : Reading) : Except UsageError Draft :=
  match reading.pending with
  | none => .ok reading.draft
  | some ⟨switch, some text⟩ => reading.draft.put switch text
  | some ⟨_, none⟩ => .error .invalidValue

/-- A switch that has a value, which may be attached to it. -/
def valued (reading : Reading) (switch : Switch) : Option String → Except UsageError Reading
  | none => do return { draft := ← reading.settle, pending := some { switch } }
  | some text => do return { draft := ← (← reading.settle).put switch text }

/-- A switch that has no value. -/
def flag (reading : Reading) (switch : Switch) : Except UsageError Reading := do
  return { draft := ← (← reading.settle).flag switch }

/-- Reads `name` or `name=value`, from an argument that starts with two dashes. -/
def long (command : Command) (reading : Reading) (text : List Char) : Except UsageError Reading :=
  let name := String.ofList (text.takeWhile (· != '='))
  let value := match text.dropWhile (· != '=') with
    | _ :: value => some (String.ofList value)
    | [] => none
  match command.byName? name with
  | none => .error .unknownArgument
  | some switch =>
    if switch.takesValue then reading.valued switch value
    else if value.isSome then .error .surplusValue
    else reading.flag switch

/-- Reads the letters of an argument that starts with one dash. -/
def letters (command : Command) (reading : Reading) : List Char → Except UsageError Reading
  | [] => .ok reading
  | c :: rest =>
    match command.byLetter? c with
    | none => .error .unknownArgument
    | some switch =>
      if switch.takesValue then
        reading.valued switch <| match rest with
          | [] => none
          | '=' :: value => some (String.ofList value)
          | value => some (String.ofList value)
      else do letters command (← reading.flag switch) rest

/-- Reads an argument that is no switch. -/
def plain (reading : Reading) (text : String) : Except UsageError Reading :=
  match reading.pending with
  | some ⟨switch, none⟩ => .ok { reading with pending := some ⟨switch, some text⟩ }
  | _ => .error .unknownArgument

/-- Reads all arguments. -/
def all (command : Command) (reading : Reading) : List String → Except UsageError Reading
  | [] => .ok reading
  | arg :: rest =>
    match arg.toList with
    | ['-', '-'] => if rest.isEmpty then .ok reading else .error .unknownArgument
    | '-' :: '-' :: text => do all command (← reading.long command text) rest
    | '-' :: c :: text => do all command (← reading.letters command (c :: text)) rest
    | _ => do all command (← reading.plain arg) rest

end Reading

/-! ## Environment -/

/-- The variables of the environment. -/
abbrev Environment := Dict String

namespace Draft

/-- Takes what was not given from the environment. -/
def complete (environment : Environment) (draft : Draft) : List Switch → Except UsageError Draft
  | [] => .ok draft
  | switch :: rest =>
    match draft.has switch, switch.environmentName?.bind environment.get? with
    | false, some text => do complete environment (← draft.put switch text) rest
    | _, _ => complete environment draft rest

end Draft

/-! ## Invocations -/

structure Invocation where
  targets : String
  results : String
  backend : Option BackendKind
  idPolicy : Option IdPolicyKind
  maxTraceLength : Option Nat
  outputRoot : Option String
  resolverCommand : Option String
  dumpSuffix : Option String
  settingsFile : Option String
  jobs : Nat
  verbosity : Nat
deriving DecidableEq, Repr, Inhabited

namespace Draft

/-- The invocation, if nothing is missing. -/
def finish (draft : Draft) : Except UsageError Invocation :=
  match draft.targets, draft.results with
  | some targets, some results =>
    .ok {
      targets
      results
      backend := draft.backend
      idPolicy := draft.idPolicy
      maxTraceLength := draft.maxTraceLength
      outputRoot := draft.outputRoot
      resolverCommand := draft.resolverCommand
      dumpSuffix := draft.dumpSuffix
      settingsFile := draft.settingsFile
      jobs := draft.jobs.getD 0
      verbosity := draft.verbosity }
  | _, _ => .error .missing

end Draft

namespace Invocation

/-- What the arguments of a command say. -/
def ofArgs (command : Command) (environment : Environment) (args : List String) :
    Except UsageError Invocation := do
  let reading ← Reading.all command {} args
  let draft ← reading.settle
  (← draft.complete environment command.switches).finish

/-- How much is logged. -/
def logLevel (invocation : Invocation) : String :=
  match invocation.verbosity with
  | 0 => "warn"
  | 1 => "info"
  | 2 => "debug"
  | _ => "trace"

/-- The settings with what the invocation says put over them. -/
def override (invocation : Invocation) (settings : Settings) : Settings :=
  let resolver := settings.resolver
  let probe := settings.probe
  { resolver := {
      resolver with
      kind := if invocation.resolverCommand.isSome then .command else resolver.kind
      command := invocation.resolverCommand.or resolver.command
      dumpSuffix := invocation.dumpSuffix.getD resolver.dumpSuffix }
    probe := {
      probe with
      backend := invocation.backend.getD probe.backend
      idPolicy := invocation.idPolicy.getD probe.idPolicy
      maxTraceLength := invocation.maxTraceLength.getD probe.maxTraceLength
      outputRoot := invocation.outputRoot.or probe.outputRoot } }

end Invocation

end GoProbe
