import GoProbe.Settings.Basic

/-!
# Switches

The two commands, `analyze` and `instrument`, and the switches that each of them knows. A switch
has a long name; some have a letter, and some take their value from a variable of the environment
when it is not given.
-/

namespace GoProbe

inductive Command where
  | analyze
  | instrument
deriving DecidableEq, Repr, Inhabited

inductive Switch where
  | targets
  | results
  | backend
  | idPolicy
  | maxTraceLength
  | outputRoot
  | resolverCommand
  | dumpSuffix
  | settingsFile
  | jobs
  | verbose
  | help
  | version
deriving DecidableEq, Repr, Inhabited

namespace Switch

def longName : Switch → String
  | targets => "targets"
  | results => "results"
  | backend => "backend"
  | idPolicy => "id-policy"
  | maxTraceLength => "max-trace-length"
  | outputRoot => "output-root"
  | resolverCommand => "oracle-command"
  | dumpSuffix => "dump-suffix"
  | settingsFile => "config"
  | jobs => "jobs"
  | verbose => "verbose"
  | help => "help"
  | version => "version"

def letter? : Switch → Option Char
  | jobs => some 'j'
  | verbose => some 'v'
  | help => some 'h'
  | version => some 'V'
  | _ => none

/-- The variable that a value is taken from when the switch is not given. -/
def environmentName? : Switch → Option String
  | backend => some "SEEDPROBE_BACKEND"
  | resolverCommand => some "SEEDPROBE_ORACLE_COMMAND"
  | settingsFile => some "SEEDPROBE_CONFIG"
  | jobs => some "SEEDPROBE_JOBS"
  | _ => none

/-- Whether the switch has a value. -/
def takesValue : Switch → Bool
  | verbose => false
  | help => false
  | version => false
  | _ => true

end Switch

namespace Command

/-- The switches of a command, in the order in which the environment is looked at. -/
def switches : Command → List Switch
  | analyze =>
    [.targets, .results, .resolverCommand, .dumpSuffix, .settingsFile, .jobs, .verbose, .help,
      .version]
  | instrument =>
    [.targets, .results, .backend, .idPolicy, .maxTraceLength, .outputRoot, .resolverCommand,
      .dumpSuffix, .settingsFile, .jobs, .verbose, .help, .version]

/-- The switch with a long name. -/
def byName? (command : Command) (name : String) : Option Switch :=
  command.switches.find? fun switch => switch.longName == name

/-- The switch with a letter. -/
def byLetter? (command : Command) (letter : Char) : Option Switch :=
  command.switches.find? fun switch => switch.letter? == some letter

end Command

end GoProbe
