import Mathlib
import GoProbe.Probe.Hash
import GoProbe.Proofs.ProbingRuns

/-!
# Traced copies stand beside their functions

The trace backend adds to a file and changes nothing in it. `Decl.TracedBeside` says what it adds:
directly after each tracked function that has a body there is one more function, its traced copy.
All other declarations have nothing added after them, and every declaration of the file is still
there, in order and as it was.

A step says what can stand in place of one declaration (`DeclStep.traced`), and a file is such a
step after another. Which declarations have been added can be told from the result alone
(`Decl.withoutTraced`).
-/

namespace GoProbe

open Placing (next)

/-! ## Copies -/

/-- What the traced copy of a function has in common with it. -/
structure FuncDecl.TracedAs (func copy : FuncDecl) : Prop where
  name : copy.name = "__traced_" ++ func.name ++ "__"
  receiver : copy.receiver = func.receiver
  typeParams : copy.typeParams = func.typeParams
  results : copy.signature.results = func.signature.results
  position : copy.position = func.position

theorem Backend.finalize_trace (parameter : String) (maxLength : Nat) (func : FuncDecl)
    (body : Option Block) :
    ∃ copy, ((trace parameter maxLength).finalize func { func with body }).decls =
        [.func func, .func copy] ∧ func.TracedAs copy :=
  ⟨_, rfl, rfl, rfl, rfl, rfl, rfl⟩

namespace Decl

/-- Whether this is a tracked function with a body. -/
def isTraced (tracked : List String) : Decl → Bool
  | .func f => f.body.isSome && tracked.contains f.qualifiedName
  | .gen _ => false

/-- `output` is `decls` with a traced copy directly after each function that is traced. -/
inductive TracedBeside (tracked : List String) : List Decl → List Decl → Prop where
  | nil : TracedBeside tracked [] []
  | kept {decl : Decl} {decls output : List Decl} (hkept : decl.isTraced tracked = false)
      (hrest : TracedBeside tracked decls output) :
      TracedBeside tracked (decl :: decls) (decl :: output)
  | traced {f copy : FuncDecl} {decls output : List Decl}
      (htraced : (Decl.func f).isTraced tracked = true) (hcopy : f.TracedAs copy)
      (hrest : TracedBeside tracked decls output) :
      TracedBeside tracked (.func f :: decls) (.func f :: .func copy :: output)

/-- The declarations without those that directly follow a function that is traced. -/
def withoutTraced (tracked : List String) : List Decl → List Decl
  | [] => []
  | [decl] => [decl]
  | decl :: next :: rest =>
    if decl.isTraced tracked then decl :: withoutTraced tracked rest
    else decl :: withoutTraced tracked (next :: rest)

variable {tracked : List String}

theorem withoutTraced_cons_of_kept {decl : Decl} (hkept : decl.isTraced tracked = false)
    (output : List Decl) :
    withoutTraced tracked (decl :: output) = decl :: withoutTraced tracked output := by
  cases output with
  | nil => rfl
  | cons next rest => simp [withoutTraced, hkept]

theorem TracedBeside.withoutTraced_eq {decls output : List Decl}
    (h : TracedBeside tracked decls output) : withoutTraced tracked output = decls := by
  induction h with
  | nil => rfl
  | kept hkept _ ih => rw [withoutTraced_cons_of_kept hkept, ih]
  | traced htraced _ _ ih => rw [withoutTraced, if_pos htraced, ih]

end Decl

/-! ## Files -/

namespace ProbePlan

variable {plan : ProbePlan} {parameter : String} {maxLength : Nat}

theorem bodyToProbe?_trace (hbackend : plan.backend = .trace parameter maxLength)
    (func : FuncDecl) :
    (plan.bodyToProbe? func).isSome = (Decl.func func).isTraced plan.tracked := by
  simp only [bodyToProbe?, hbackend, Backend.covers, isTracked, Decl.isTraced]
  cases plan.tracked.contains func.qualifiedName <;> simp

variable [WordHash]

/-- A declaration stays as it is, and a traced function gets its copy. -/
theorem DeclStep.traced {decl : Decl} {decls : List Decl} {before after : Ledger}
    (hbackend : plan.backend = .trace parameter maxLength)
    (hstep : plan.DeclStep before decl decls after) :
    decl.isTraced plan.tracked = false ∧ decls = [decl] ∨
      ∃ func copy, decl = .func func ∧ decl.isTraced plan.tracked = true ∧
        decls = [.func func, .func copy] ∧ func.TracedAs copy := by
  cases hstep with
  | @keptFunc func hkept =>
    left
    rw [← bodyToProbe?_trace hbackend, hkept]
    exact ⟨rfl, rfl⟩
  | keptGen _ => exact .inl ⟨rfl, rfl⟩
  | @func func body hbody =>
    right
    obtain ⟨copy, hdecls, hcopy⟩ := Backend.finalize_trace parameter maxLength func
      (some (Stmt.placeBody (next plan.probe) body before.placed).1)
    refine ⟨func, copy, rfl, ?_, ?_, hcopy⟩
    · rw [← bodyToProbe?_trace hbackend, hbody, Option.isSome_some]
    · rw [hbackend, hdecls]
  | gen hprobed => simp [hbackend, Backend.covers] at hprobed

theorem tracedBeside_of_each (hbackend : plan.backend = .trace parameter maxLength)
    {steps : List (Decl × List Decl)} {before after : Ledger}
    (hrun : Probing.Each plan.probeDecl before steps after) :
    Decl.TracedBeside plan.tracked (steps.map Prod.fst) (steps.flatMap Prod.snd) := by
  induction hrun with
  | nil => exact .nil
  | cons hstep _ ih =>
    rcases (declStep_of_probeDecl hstep).traced hbackend with
      ⟨hkept, rfl⟩ | ⟨func, copy, rfl, htraced, rfl, hcopy⟩
    · exact .kept hkept ih
    · exact .traced htraced hcopy ih

/-- With the trace backend a probed file has the declarations of the file, in order and as they
are, and directly after each tracked function with a body its traced copy. Without the copies it is
the file itself. -/
theorem tracedBeside_probeFile {file probed : SourceFile} {before after : Ledger}
    (hbackend : plan.backend = .trace parameter maxLength)
    (hrun : (plan.probeFile file).runOn before = (.ok probed, after)) :
    Decl.TracedBeside plan.tracked file.decls probed.decls ∧
      { probed with decls := Decl.withoutTraced plan.tracked probed.decls } = file := by
  obtain ⟨steps, hsteps, hdecls, rfl⟩ := probeFile_ok hrun
  have hbeside := tracedBeside_of_each hbackend hsteps
  rw [hdecls] at hbeside
  exact ⟨hbeside, by rw [hbeside.withoutTraced_eq]⟩

end ProbePlan

open Standard in
theorem ProbePlan.tracedBeside_probeFile_sample :
    ∃ probed after,
      (probeFile ⟨.trace "trace" 8, .sequential, ["init", "g"]⟩
          ⟨"p", "p", NamedSource.samplePackage.flatMap (·.file.decls)⟩).runOn {} =
        (.ok probed, after) ∧ probed.decls.length = 6 ∧
      Decl.TracedBeside ["init", "g"] (NamedSource.samplePackage.flatMap (·.file.decls))
        probed.decls := by
  obtain ⟨probed, after, hrun, hlength⟩ : ∃ probed after,
      (probeFile ⟨.trace "trace" 8, .sequential, ["init", "g"]⟩
          ⟨"p", "p", NamedSource.samplePackage.flatMap (·.file.decls)⟩).runOn {} =
        (.ok probed, after) ∧ probed.decls.length = 6 := ⟨_, _, rfl, rfl⟩
  exact ⟨probed, after, hrun, hlength, (tracedBeside_probeFile rfl hrun).1⟩

end GoProbe
