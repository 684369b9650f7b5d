import GoProbe.CommandLine.Run
import GoProbe.Disk.Stored
import GoProbe.Probe.Hash
import GoProbe.Shell.System
import GoProbe.Toml.Reader

/-!
# The program

The first argument names the command and the others are its arguments. The host comes from
standard input as JSON, and the host after the command goes to standard output; what went wrong is
told on standard error.
-/

namespace GoProbe

/-- The command with a name. -/
def Command.ofName? : String → Option Command
  | "analyze" => some .analyze
  | "instrument" => some .instrument
  | _ => none

/-- The variables of the environment that switches look at. -/
def readEnvironment : IO Environment := do
  let mut environment : Environment := {}
  for name in Command.instrument.switches.filterMap Switch.environmentName? do
    if let some value ← IO.getEnv name then environment := environment.insert name value
  return environment

open Standard in
/-- Runs a command on the host that standard input describes. -/
def runOnInput (command : Command) (invocation : Invocation) : IO UInt32 := do
  match Host.decoder.ofText (← (← IO.getStdin).readToEnd) with
  | .error _ =>
    IO.eprintln "Error: standard input describes no host"
    return 1
  | .ok host =>
    let (outcome, host) := (invocation.run command).run.run host
    IO.println host.toJson.pretty
    match outcome with
    | .ok _ => return 0
    | .error failure =>
      IO.eprintln failure.message
      return 1

end GoProbe

open GoProbe in
def main (args : List String) : IO UInt32 := do
  match args with
  | [] =>
    IO.eprintln "Error: no command"
    return 2
  | name :: args =>
    match Command.ofName? name with
    | none =>
      IO.eprintln s!"Error: unknown command {name}"
      return 2
    | some command =>
      match Invocation.ofArgs command (← readEnvironment) args with
      | .ok invocation => runOnInput command invocation
      | .error err =>
        IO.eprintln s!"Error: {err.message}"
        return 2
