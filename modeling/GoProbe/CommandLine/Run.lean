import GoProbe.Analysis.Batch
import GoProbe.CommandLine.Invocation
import GoProbe.Module.Probed
import GoProbe.Settings.Discovery

/-!
# Running a command

Each command finds its settings, reads a request, works on it and writes a report. The report is
written last, so a command that fails before writes none. A failure says in what step it arose.
-/

namespace GoProbe

structure CommandFailure where
  /-- What was being done. -/
  context : String
  /-- What went wrong; settings that the invocation makes invalid have no other cause. -/
  cause : Option Failure := none
deriving DecidableEq, Repr, Inhabited

namespace CommandFailure

def message (failure : CommandFailure) : String :=
  match failure.cause with
  | none => s!"Error: {failure.context}"
  | some cause => s!"Error: {failure.context}\n\nCaused by:\n    {cause.message}"

end CommandFailure

/-- A command at work; what it has done before it fails stays done. -/
abbrev CommandRun := ExceptT CommandFailure (StateM Host)

namespace CommandRun

/-- Does one step of a command. -/
def step {α : Type} (context : String) (work : Run α) : CommandRun α :=
  ExceptT.mk do
    return (← work.run).mapError fun failure => { context, cause := some failure }

end CommandRun

namespace Invocation

variable [Faults] [Toml.Dialect]

/-- The settings before the invocation is put over them. -/
def baseSettings (invocation : Invocation) : CommandRun Settings := do
  match invocation.settingsFile with
  | some path =>
    CommandRun.step s!"Failed to load configuration from {path}" (Run.loadSettings path)
  | none =>
    let host ← get
    return host.discoverSettings host.workDir.path

/-- Settings with the invocation put over them, if they are valid. -/
def validSettings (invocation : Invocation) (settings : Settings) :
    Except CommandFailure Settings :=
  let settings := invocation.override settings
  match settings.fault? with
  | some fault => .error { context := s!"Invalid configuration: {fault.message}" }
  | none => .ok settings

/-- The settings of the invocation. -/
def settings (invocation : Invocation) : CommandRun Settings := do
  invocation.validSettings (← invocation.baseSettings)

variable [Programs]

/-- The resolver that the settings ask for. -/
def resolver (settings : Settings) : CommandRun Resolver := do
  let host ← get
  CommandRun.step "Failed to set up the oracle"
    (Run.ofExcept id (Resolver.ofSettings host settings.resolver))

/-- Analyses the requested files. -/
def analyze (invocation : Invocation) : CommandRun Unit := do
  let settings ← invocation.settings
  let request ← CommandRun.step s!"Failed to read targets from {invocation.targets}"
    (Run.readJson invocation.targets BatchRequest.decoder)
  let resolver ← resolver settings
  let host ← get
  let report ← CommandRun.step "Analysis failed"
    (Run.ofExcept id (request.report resolver settings.resolver.intSize host))
  CommandRun.step s!"Failed to write results to {invocation.results}"
    (Run.writeJson invocation.results report.toJson)

variable [WordHash]

/-- Probes the requested package; the report is not written yet. -/
def probed (invocation : Invocation) : CommandRun ProbeReport := do
  let settings ← invocation.settings
  let request ← CommandRun.step s!"Failed to read target from {invocation.targets}"
    (Run.readJson invocation.targets ProbeRequest.decoder)
  let resolver ← resolver settings
  CommandRun.step s!"Failed to instrument {request.package}"
    (Run.probe resolver request settings.probe)

/-- Probes the requested package. -/
def instrument (invocation : Invocation) : CommandRun Unit := do
  let report ← invocation.probed
  CommandRun.step s!"Failed to write result to {invocation.results}"
    (Run.writeJson invocation.results report.toJson)

/-- Runs a command. -/
def run (command : Command) (invocation : Invocation) : CommandRun Unit :=
  match command with
  | .analyze => invocation.analyze
  | .instrument => invocation.instrument

end Invocation

end GoProbe
