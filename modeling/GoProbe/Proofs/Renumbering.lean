import Mathlib
import GoProbe.Proofs.ProbeReplacement

/-!
# Numbers that start later

A placement sees its numbers through the probes only. One that starts with a later number builds
the same tree as one that starts earlier and has the later probes in place of its own
(`Placing.Shifted`). The two go in lockstep (`Placing.shifting`), since a placement puts parts
together without looking at numbers.

The table backend is such a placement for whole files (`SourceFile.place`), since it refuses no id
and covers all functions.
-/

namespace GoProbe

open Placing (next)

/-! ## Shifted placements -/

namespace Placing

/-- Started `shift` numbers later, `work` does what `other` does. -/
def Shifted {α : Type} (shift : Nat) (work other : Placing α) : Prop :=
  ∀ placed, work (placed + shift) = ((other placed).1, (other placed).2 + shift)

/-- Single probes are shifted, and so is what is put together of shifted parts. -/
def shifting (probe : Nat → Stmt) (shift : Nat) :
    Lockstep (next probe) (next fun number => probe (number + shift)) where
  Rel := Shifted shift
  next placed := by rw [next_apply, next_apply, Nat.add_right_comm]
  pure _ _ := rfl
  bind hwork hrest placed := by
    rw [bind_apply, bind_apply, hwork placed]
    exact hrest _ _

end Placing

/-! ## Declarations and files -/

section

variable {m n : Type → Type} [Monad m] [Monad n]

def FuncDecl.place (next : m Stmt) (func : FuncDecl) : m FuncDecl :=
  match func.body with
  | none => return func
  | some body => do return { func with body := some (← Stmt.placeBody next body) }

/-- Only imports have no place for probes. -/
def Decl.place (next : m Stmt) : Decl → m Decl
  | .func f => do return .func (← f.place next)
  | .gen decl => do
    if decl.kind != .imports then return .gen (← decl.place next) else return .gen decl

def SourceFile.place (next : m Stmt) (file : SourceFile) : m SourceFile := do
  return { file with decls := ← file.decls.mapM (Decl.place next) }

variable {next : m Stmt} {other : n Stmt} (lockstep : Lockstep next other)

theorem FuncDecl.place_lockstep (func : FuncDecl) :
    lockstep.Rel (func.place next) (func.place other) := by
  unfold FuncDecl.place
  cases func.body with
  | none => exact lockstep.pure _
  | some body => exact lockstep.map (Stmt.placeBody_lockstep lockstep body) _

theorem Decl.place_lockstep (decl : Decl) :
    lockstep.Rel (decl.place next) (decl.place other) := by
  cases decl with
  | func f => exact lockstep.map (f.place_lockstep lockstep) _
  | gen decl =>
    simp only [Decl.place]
    split
    · exact lockstep.map (decl.place_lockstep lockstep) _
    · exact lockstep.pure _

theorem SourceFile.place_lockstep [LawfulMonad m] [LawfulMonad n] (file : SourceFile) :
    lockstep.Rel (file.place next) (file.place other) :=
  lockstep.map (lockstep.mapM fun decl _ => decl.place_lockstep lockstep) _

end

/-! ## Replacement in a file -/

section

variable (new : Stmt → Option Stmt)

def FuncDecl.replace (func : FuncDecl) : FuncDecl :=
  { func with body := func.body.map (Stmt.replaceList new) }

/-- Leaves imports alone, as placement does. -/
def Decl.replace : Decl → Decl
  | .func f => .func (f.replace new)
  | .gen decl => .gen (if decl.kind != .imports then decl.replace new else decl)

def SourceFile.replace (file : SourceFile) : SourceFile :=
  { file with decls := file.decls.map (Decl.replace new) }

end

section

open Backend (idsOf_cons_eq_nil)
open Placing (Mapped)

variable [WordHash] (plan : ProbePlan) (new : Nat → Stmt)

theorem FuncDecl.replace_place {func : FuncDecl}
    (hfree : plan.backend.idsOf (func.walkParts everywhere) = []) :
    Mapped (FuncDecl.replace (plan.backend.replacing new)) (func.place (next plan.probe))
      (func.place (next fun number => new (plan.policy.id number))) := by
  rw [FuncDecl.idsOf_walkParts, List.append_eq_nil_iff] at hfree
  obtain ⟨name, receiver, typeParams, signature, body, position⟩ := func
  cases body with
  | none => exact .pure rfl
  | some body => exact (Stmt.replaceList_placeBody plan new hfree.2).map fun _ => rfl

theorem Decl.replace_place {decl : Decl}
    (hfree : plan.backend.idsOf (decl.walk everywhere) = []) :
    Mapped (Decl.replace (plan.backend.replacing new)) (decl.place (next plan.probe))
      (decl.place (next fun number => new (plan.policy.id number))) := by
  cases decl with
  | func f =>
    rw [Decl.idsOf_walk_func] at hfree
    exact (f.replace_place plan new hfree).map fun _ => rfl
  | gen decl =>
    rw [Decl.walk, idsOf_cons_eq_nil] at hfree
    have hkind (placed : Nat) : (decl.place (next plan.probe) placed).1.kind = decl.kind := by
      cases decl
      rfl
    simp only [Decl.place]
    split
    · next himports =>
      refine (decl.replace_place plan new hfree.2).bind fun placed => .pure ?_
      rw [Decl.replace, hkind, if_pos himports]
    · next himports =>
      refine .pure ?_
      rw [Decl.replace, if_neg himports]

/-- Other probes in the places of those of a file. -/
theorem SourceFile.replace_place {file : SourceFile}
    (hfree : plan.backend.idsOf (file.walk everywhere) = []) :
    Mapped (SourceFile.replace (plan.backend.replacing new)) (file.place (next plan.probe))
      (file.place (next fun number => new (plan.policy.id number))) := by
  rw [SourceFile.walk, Backend.idsOf_flatMap, List.flatMap_eq_nil_iff] at hfree
  exact (Mapped.mapM fun decl hdecl => decl.replace_place plan new (hfree decl hdecl)).map
    fun _ => rfl

end

/-! ## The table backend -/

/-- The work succeeds with what `f` makes of the placed tree, and counts the numbers of the
placement. -/
def Probing.Places {α β : Type} (work : Probing β) (f : α → β) (placing : Placing α) : Prop :=
  ∀ before, ∃ after, work.runOn before = (.ok (f (placing before.placed).1), after) ∧
    after.placed = (placing before.placed).2

namespace Probing.Places

variable {α β γ : Type}

theorem pure {f : α → β} (a : α) : Places (Pure.pure (f a)) f (Pure.pure a) :=
  fun before => ⟨before, rfl, rfl⟩

theorem map {work : Probing β} {f : α → β} {placing : Placing α} (hwork : work.Places f placing)
    (g : β → γ) : (work >>= fun b => Pure.pure (g b)).Places (g ∘ f) placing := by
  intro before
  obtain ⟨after, hrun, hafter⟩ := hwork before
  exact ⟨after, runOn_bind_ok.2 ⟨_, _, hrun, rfl⟩, hafter⟩

theorem mapM {ι : Type} {work : ι → Probing β} {f : α → β} {placing : ι → Placing α}
    (hwork : ∀ item, (work item).Places f (placing item)) (items : List ι) :
    (items.mapM work).Places (List.map f) (items.mapM placing) := by
  induction items with
  | nil => exact .pure (f := List.map f) []
  | cons item items ih =>
    intro before
    obtain ⟨between, hrun, hbetween⟩ := hwork item before
    obtain ⟨after, hrest, hafter⟩ := ih between
    rw [List.mapM_cons]
    refine ⟨after, runOn_bind_ok.2 ⟨_, _, hrun, runOn_bind_ok.2 ⟨_, _, hrest, ?_⟩⟩, ?_⟩
    · simp [List.mapM_cons, hbetween]
    · simp [List.mapM_cons, hafter, hbetween]

end Probing.Places

namespace ProbePlan

open Probing (Places)

variable {plan : ProbePlan} {tableName fileName : String}

theorem bodyToProbe?_table (hbackend : plan.backend = .table tableName fileName)
    (func : FuncDecl) : plan.bodyToProbe? func = func.body := by
  simp [bodyToProbe?, hbackend, Backend.covers]

variable [WordHash]

theorem places_probeFunc (hbackend : plan.backend = .table tableName fileName)
    (func : FuncDecl) :
    (plan.probeFunc func).Places (fun placed => func.body.map fun _ => .replace placed)
      (func.place (next plan.probe)) := by
  intro before
  cases hbody : func.body with
  | none =>
    refine ⟨before, probeFunc_ok.2 (.inl ⟨?_, rfl, rfl⟩), ?_⟩
    · rw [bodyToProbe?_table hbackend, hbody]
    · simp [FuncDecl.place, hbody]
  | some body =>
    refine ⟨_, probeFunc_ok.2 (.inr ⟨body, ?_, firstRefused?_table hbackend _ _, ?_, rfl⟩), ?_⟩
    · rw [bodyToProbe?_table hbackend, hbody]
    · simp [FuncDecl.place, hbody, hbackend, Backend.finalize]
    · simp [FuncDecl.place, hbody, Ledger.advance]

theorem places_probeDecl (hbackend : plan.backend = .table tableName fileName) (decl : Decl) :
    (plan.probeDecl decl).Places ([·]) (decl.place (next plan.probe)) := by
  cases decl with
  | func f =>
    intro before
    obtain ⟨after, hrun, hafter⟩ := places_probeFunc hbackend f before
    refine ⟨after, Probing.runOn_bind_ok.2 ⟨_, after, hrun, ?_⟩, hafter⟩
    cases hbody : f.body <;> simp [Decl.place, FuncDecl.place, hbody, Patch.decls]
  | gen decl =>
    rw [probeDecl, Decl.place, hbackend, Backend.covers, Bool.and_true]
    split
    · intro before
      rw [← bind_assoc]
      exact ⟨_, Probing.runOn_bind_ok.2 ⟨_, _, (own_ok (decl.place_lockstep plan.entering)
        (.inl rfl)).2 ⟨firstRefused?_table hbackend _ _, rfl, rfl⟩, rfl⟩, rfl⟩
    · exact .pure (f := ([·])) _

/-- The table backend does what placement does. -/
theorem places_probeFile (hbackend : plan.backend = .table tableName fileName)
    (file : SourceFile) : (plan.probeFile file).Places id (file.place (next plan.probe)) := by
  intro before
  obtain ⟨after, hrun, hafter⟩ := Places.mapM (places_probeDecl hbackend) file.decls before
  refine ⟨after, Probing.runOn_bind_ok.2 ⟨_, after, hrun, ?_⟩, hafter⟩
  simp [SourceFile.place, ← List.flatMap_def]

end ProbePlan

end GoProbe
