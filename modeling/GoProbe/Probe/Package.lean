import GoProbe.Probe.Ledger
import GoProbe.Tree.Printer

/-!
# Probing a package

All files of a package are probed in one run, in the given order, and printed. The files must
agree on the package name, and a file that the backend adds must not take the name of another.
-/

namespace GoProbe

/-- A file of a package by name. -/
structure NamedSource where
  name : String
  file : SourceFile
deriving Inhabited

/-- A file as text. -/
structure PrintedFile where
  name : String
  text : String
deriving DecidableEq, Repr, Inhabited

structure ProbedPackage where
  name : String
  /-- The probed files, then those of the backend. -/
  files : List PrintedFile
  counters : Dict (List Nat)
  probes : Nat
deriving Inhabited

/-- The package name that all files declare. -/
def packageName (sources : List NamedSource) : Except ProbeError String :=
  match sources with
  | [] => .error .noSources
  | first :: _ =>
    match sources.find? fun source => source.file.packageName != first.file.packageName with
    | some other =>
      .error (.packageMismatch other.name other.file.packageName first.file.packageName)
    | none => .ok first.file.packageName

variable [WordHash]

namespace ProbePlan

/-- Probes the files in order. -/
def probeSources (plan : ProbePlan) (sources : List NamedSource) : Probing (List NamedSource) :=
  sources.mapM fun source => do return { source with file := ← plan.probeFile source.file }

end ProbePlan

/-- Probes a package as the settings ask. -/
def probePackage (sources : List NamedSource) (settings : ProbeSettings) (tracked : List String) :
    Except ProbeError ProbedPackage := do
  let package ← packageName sources
  let plan := ProbePlan.ofSettings settings tracked
  let (outcome, ledger) := (plan.probeSources sources).run.run {}
  let probed ← outcome
  let support := plan.backend.supportFiles package
  match support.find? fun file => sources.any (·.name == file.name) with
  | some file => throw (.nameTaken file.name)
  | none =>
    return {
      name := package
      files := probed.map (fun source => ⟨source.name, source.file.print⟩) ++
        support.map (fun file => ⟨file.name, file.file.print⟩)
      counters := ledger.counters
      probes := ledger.placed }

end GoProbe
