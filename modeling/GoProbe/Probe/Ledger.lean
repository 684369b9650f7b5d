import GoProbe.Dict
import GoProbe.Probe.Backend
import GoProbe.Probe.Id
import GoProbe.Probe.Placement

/-!
# Probing runs

A run works with one backend, one id policy and one list of tracked functions. It places probes in
one declaration after another, and its ledger keeps how many probes there are and which ids belong
to which tracked function. Each probe takes the next id and enters it for the function that is
current. An id that the probe cannot carry ends the declaration there and then: the id stays counted
and entered, the function stays current, and the run can go on with the next declaration.
-/

namespace GoProbe

/-- Why probes could not be placed. -/
inductive ProbeError where
  | noSources
  | packageMismatch (file package expected : String)
  | idTooLarge (id : Nat)
  | nameTaken (file : String)
deriving DecidableEq, Repr, Inhabited

namespace ProbeError

def message : ProbeError → String
  | noSources => "Instrumentation error: package has no Go source files"
  | packageMismatch file package expected =>
    s!"Instrumentation error: {file} declares package {package} but the package is {expected}"
  | idTooLarge id => s!"Instrumentation error: probe id {id} does not fit the uint16 trace"
  | nameTaken file => s!"Instrumentation error: package already contains a file named {file}"

end ProbeError

/-- What a run has done so far. -/
structure Ledger where
  /-- How many probes have been placed. -/
  placed : Nat := 0
  /-- The tracked function that probes belong to. -/
  current : Option String := none
  /-- The ids of each tracked function, in the order of placement. -/
  counters : Dict (List Nat) := .empty
deriving Inhabited

/-- What a run keeps fixed. -/
structure ProbePlan where
  backend : Backend
  policy : IdPolicy
  /-- Functions by name, methods by receiver and name. -/
  tracked : List String
deriving DecidableEq, Repr, Inhabited

/-- A computation on the ledger; the ledger outlives a failure. -/
abbrev Probing := ExceptT ProbeError (StateM Ledger)

namespace Ledger

/-- Counts one more probe and enters its id for the current function. -/
def enter (ledger : Ledger) (id : Nat) : Ledger :=
  { ledger with
    placed := ledger.placed + 1
    counters :=
      match ledger.current with
      | some name => ledger.counters.append name [id]
      | none => ledger.counters }

end Ledger

/-- From here on probes belong to `owner`. -/
def Probing.own (owner : Option String) : Probing Unit :=
  modify fun ledger => { ledger with current := owner }

namespace ProbePlan

/-- The plan that the settings ask for. -/
def ofSettings (settings : ProbeSettings) (tracked : List String) : ProbePlan :=
  { backend := settings.backendOf, policy := settings.policy, tracked }

def isTracked (plan : ProbePlan) (name : String) : Bool :=
  plan.tracked.contains name

variable [WordHash]

/-- The next probe. Its number is used up also if it cannot carry its id. -/
def emit (plan : ProbePlan) : Probing Stmt := do
  let id := plan.policy.id ((← get).placed + 1)
  modify (·.enter id)
  if plan.backend.holds id then return plan.backend.probe id
  else throw (.idTooLarge id)

/-- Probes a function; `none` if it is left as it is. -/
def probeFunc (plan : ProbePlan) (func : FuncDecl) : Probing (Option Patch) := do
  let some body := func.body | return none
  let name := func.qualifiedName
  let tracked := plan.isTracked name
  if !plan.backend.covers tracked then return none
  Probing.own (if tracked then some name else none)
  let body ← Stmt.placeBody plan.emit body
  Probing.own none
  return some (plan.backend.finalize func { func with body := some body })

/-- Probes a declaration of a file. -/
def probeDecl (plan : ProbePlan) : Decl → Probing (List Decl)
  | .func func => do
    match ← plan.probeFunc func with
    | some patch => return patch.decls
    | none => return [.func func]
  | .gen decl => do
    if decl.kind != .imports && plan.backend.covers false then
      Probing.own none
      return [.gen (← decl.place plan.emit)]
    else return [.gen decl]

/-- Probes the declarations of a file one after another. -/
def probeFile (plan : ProbePlan) (file : SourceFile) : Probing SourceFile := do
  let decls ← file.decls.mapM plan.probeDecl
  return { file with decls := decls.flatten }

end ProbePlan

end GoProbe
