import Mathlib
import GoProbe.Probe.Package
import GoProbe.Proofs.ProbeForm

/-!
# What a probing run can do

A run takes its probes one by one, and each of them can end it. It does what a placement that only
counts does, up to the first number that is refused (`ProbePlan.entering`), so the trees and numbers
of a run are known from counting placements, and its ledger from the number that it comes to
(`runOn_own`).

A run that succeeds is taken apart step by step.

* A function is left as it is, or replaced by what the backend makes of its placed body
  (`probeFunc_ok`). `DeclStep` lists what can happen to a declaration.
* `Probing.Each` is a run over many items, each with what came of it. A file is such a run over its
  declarations, and so is a package over the declarations of all its files (`probeSources_ok`).
-/

namespace GoProbe

open Placing (next)

/-- The copy of the function that has the probes. -/
def Patch.probed : Patch → FuncDecl
  | replace probed => probed
  | shadow _ probed => probed

@[simp] theorem Backend.body_probed_finalize (backend : Backend) (func probed : FuncDecl) :
    (backend.finalize func probed).probed.body = probed.body := by
  cases backend <;> rfl

/-! ## Steps -/

namespace Probing

variable {α β : Type}

/-- The outcome of the work and the ledger after it. -/
def runOn (work : Probing α) (ledger : Ledger) : Except ProbeError α × Ledger :=
  work.run.run ledger

@[simp] theorem runOn_pure (a : α) (ledger : Ledger) :
    (pure a : Probing α).runOn ledger = (.ok a, ledger) := rfl

theorem runOn_pure_ok {a b : α} {before after : Ledger} :
    (pure a : Probing α).runOn before = (.ok b, after) ↔ a = b ∧ before = after := by
  simp

/-- The second part starts from the ledger that the first has left, unless the first has failed. -/
theorem runOn_bind (work : Probing α) (next : α → Probing β) (before : Ledger) :
    (work >>= next).runOn before =
      match work.runOn before with
      | (.ok a, between) => (next a).runOn between
      | (.error err, between) => (.error err, between) := by
  simp only [runOn, ExceptT.run_bind, StateT.run_bind]
  rcases work.run.run before with ⟨_ | _, _⟩ <;> rfl

theorem runOn_bind_ok {work : Probing α} {next : α → Probing β} {before after : Ledger} {b : β} :
    (work >>= next).runOn before = (.ok b, after) ↔
      ∃ a between, work.runOn before = (.ok a, between) ∧
        (next a).runOn between = (.ok b, after) := by
  rw [runOn_bind]
  rcases work.runOn before with ⟨err | a, between⟩ <;> simp

/-- Work on item after item, each item with what came of it. -/
inductive Each (work : α → Probing β) : Ledger → List (α × β) → Ledger → Prop where
  | nil (ledger : Ledger) : Each work ledger [] ledger
  | cons {item : α} {result : β} {steps : List (α × β)} {before between after : Ledger}
      (hstep : (work item).runOn before = (.ok result, between))
      (hsteps : Each work between steps after) :
      Each work before ((item, result) :: steps) after

theorem Each.append {work : α → Probing β} {left right : List (α × β)}
    {before between after : Ledger} (hleft : Each work before left between)
    (hright : Each work between right after) : Each work before (left ++ right) after := by
  induction hleft with
  | nil => exact hright
  | cons hstep _ ih => exact .cons hstep (ih hright)

theorem each_of_mapM {work : α → Probing β} {items : List α} {results : List β}
    {before after : Ledger} (h : (items.mapM work).runOn before = (.ok results, after)) :
    ∃ steps, Each work before steps after ∧ steps.map Prod.fst = items ∧
      steps.map Prod.snd = results := by
  induction items generalizing before results with
  | nil =>
    obtain ⟨rfl, rfl⟩ := runOn_pure_ok.1 h
    exact ⟨[], .nil before, rfl, rfl⟩
  | cons item items ih =>
    simp only [List.mapM_cons, runOn_bind_ok] at h
    obtain ⟨result, between, hstep, rest, _, hrest, hpure⟩ := h
    obtain ⟨rfl, rfl⟩ := runOn_pure_ok.1 hpure
    obtain ⟨steps, hsteps, rfl, rfl⟩ := ih hrest
    exact ⟨(item, result) :: steps, .cons hstep hsteps, rfl, rfl⟩

end Probing

/-! ## Entering probes -/

namespace Dict

variable {α : Type}

/-- Appending changes the binding of one key only. -/
theorem get?_append (dict : Dict (List α)) (key other : String) (values : List α) :
    (dict.append key values).get? other =
      if other = key then some ((dict.get? key).getD [] ++ values) else dict.get? other :=
  dict.get?_insert key other _

theorem append_append (dict : Dict (List α)) (key : String) (first second : List α) :
    (dict.append key first).append key second = dict.append key (first ++ second) := by
  refine ext_get? fun other => ?_
  rw [get?_append, get?_append, get?_append, if_pos rfl, get?_append]
  split <;> simp

end Dict

namespace IdPolicy

theorem range'_append_between {first mid last : Nat} (hfirst : first ≤ mid) (hlast : mid ≤ last) :
    List.range' (first + 1) (mid - first) ++ List.range' (mid + 1) (last - mid) =
      List.range' (first + 1) (last - first) := by
  have hmid : mid + 1 = first + 1 + (mid - first) := by omega
  have hcount : last - first = mid - first + (last - mid) := by omega
  rw [hcount, hmid, List.range'_append_1]

variable [WordHash] (policy : IdPolicy)

@[simp] theorem idsBetween_self (placed : Nat) : policy.idsBetween placed placed = [] := by
  simp [idsBetween]

theorem idsBetween_succ (placed : Nat) :
    policy.idsBetween placed (placed + 1) = [policy.id (placed + 1)] := by
  simp [idsBetween]

theorem length_idsBetween (first last : Nat) :
    (policy.idsBetween first last).length = last - first := by
  simp [idsBetween]

theorem idsBetween_append {first mid last : Nat} (hfirst : first ≤ mid) (hlast : mid ≤ last) :
    policy.idsBetween first mid ++ policy.idsBetween mid last = policy.idsBetween first last := by
  rw [idsBetween, idsBetween, idsBetween, ← List.map_append, range'_append_between hfirst hlast]

end IdPolicy

namespace Ledger

@[simp] theorem placed_enter (ledger : Ledger) (id : Nat) :
    (ledger.enter id).placed = ledger.placed + 1 := rfl

/-- Enters ids one after another. -/
def enterAll (ledger : Ledger) (ids : List Nat) : Ledger := ids.foldl enter ledger

theorem enterAll_append (ledger : Ledger) (first second : List Nat) :
    ledger.enterAll (first ++ second) = (ledger.enterAll first).enterAll second :=
  List.foldl_append

theorem placed_enterAll (ledger : Ledger) (ids : List Nat) :
    (ledger.enterAll ids).placed = ledger.placed + ids.length := by
  induction ids generalizing ledger with
  | nil => rfl
  | cons id ids ih =>
    change ((ledger.enter id).enterAll ids).placed = _
    rw [ih, placed_enter, List.length_cons]
    omega

theorem placed_enterAll_idsBetween [WordHash] (ledger : Ledger) (policy : IdPolicy) {last : Nat}
    (hlast : ledger.placed ≤ last) :
    (ledger.enterAll (policy.idsBetween ledger.placed last)).placed = last := by
  rw [placed_enterAll, policy.length_idsBetween]
  omega

/-- Counts the probes up to number `last`, for the function `owner` if there is one. -/
def advance [WordHash] (ledger : Ledger) (policy : IdPolicy) (owner : Option String)
    (last : Nat) : Ledger :=
  { placed := last
    current := owner
    counters :=
      match owner with
      | some name => ledger.counters.append name (policy.idsBetween ledger.placed last)
      | none => ledger.counters }

/-- No function is current any more. -/
def leave (ledger : Ledger) : Ledger := { ledger with current := none }

@[simp] theorem placed_leave (ledger : Ledger) : ledger.leave.placed = ledger.placed := rfl

@[simp] theorem counters_leave (ledger : Ledger) : ledger.leave.counters = ledger.counters := rfl

/-- Ids that are entered one by one are the end of their function's list. -/
theorem enterAll_own {ids : List Nat} (hids : ids ≠ []) (ledger : Ledger) (name : String) :
    { ledger with current := some name }.enterAll ids =
      { placed := ledger.placed + ids.length
        current := some name
        counters := ledger.counters.append name ids } := by
  induction ids generalizing ledger with
  | nil => exact absurd rfl hids
  | cons id ids ih =>
    change { ledger.enter id with
      current := some name
      counters := ledger.counters.append name [id] }.enterAll ids = _
    cases ids with
    | nil => rfl
    | cons other rest =>
      rw [ih (by simp) { ledger.enter id with counters := ledger.counters.append name [id] },
        Dict.append_append, enter, List.length_cons, Nat.add_assoc, Nat.add_comm 1]
      rfl

theorem enterAll_none (ids : List Nat) (ledger : Ledger) :
    { ledger with current := none }.enterAll ids =
      { placed := ledger.placed + ids.length, current := none, counters := ledger.counters } := by
  induction ids generalizing ledger with
  | nil => rfl
  | cons id ids ih =>
    change { ledger.enter id with current := none, counters := ledger.counters }.enterAll ids = _
    rw [ih { ledger.enter id with counters := ledger.counters }, enter, List.length_cons,
      Nat.add_assoc, Nat.add_comm 1]

/-- What is entered for an owner, when there is something to enter, advances the ledger. -/
theorem enterAll_eq_advance [WordHash] (ledger : Ledger) (policy : IdPolicy)
    {owner : Option String} {last : Nat} (hlast : ledger.placed ≤ last)
    (howner : owner = none ∨ ledger.placed < last) :
    { ledger with current := owner }.enterAll (policy.idsBetween ledger.placed last) =
      ledger.advance policy owner last := by
  have hplaced : ledger.placed + (last - ledger.placed) = last := by omega
  cases owner with
  | none => rw [enterAll_none, policy.length_idsBetween, hplaced, advance]
  | some name =>
    have hlt : ledger.placed < last := by simpa using howner
    have hids : policy.idsBetween ledger.placed last ≠ [] := by
      rw [← List.length_pos_iff, policy.length_idsBetween]
      omega
    rw [enterAll_own hids, policy.length_idsBetween, hplaced, advance]

end Ledger

namespace ProbePlan

variable {plan : ProbePlan}

/-- The function that the probes of `func` belong to. -/
def owner? (plan : ProbePlan) (func : FuncDecl) : Option String :=
  if plan.isTracked func.qualifiedName then some func.qualifiedName else none

/-- The body of `func`, if `func` gets probes. -/
def bodyToProbe? (plan : ProbePlan) (func : FuncDecl) : Option Block :=
  if plan.backend.covers (plan.isTracked func.qualifiedName) then func.body else none

theorem body_of_bodyToProbe? {func : FuncDecl} {body : Block}
    (h : plan.bodyToProbe? func = some body) : func.body = some body := by
  rw [bodyToProbe?] at h
  split at h
  · exact h
  · cases h

variable [WordHash]

/-- The first number from `first + 1` to `last` whose id no probe can carry. -/
def firstRefused? (plan : ProbePlan) (first last : Nat) : Option Nat :=
  (List.range' (first + 1) (last - first)).find? fun number =>
    !plan.backend.holds (plan.policy.id number)

theorem firstRefused?_self (plan : ProbePlan) (placed : Nat) :
    plan.firstRefused? placed placed = none := by
  simp [firstRefused?]

theorem firstRefused?_succ (plan : ProbePlan) (placed : Nat) :
    plan.firstRefused? placed (placed + 1) =
      if plan.backend.holds (plan.policy.id (placed + 1)) then none else some (placed + 1) := by
  cases h : plan.backend.holds (plan.policy.id (placed + 1)) <;> simp [firstRefused?, h]

theorem firstRefused?_append (plan : ProbePlan) {first mid last : Nat} (hfirst : first ≤ mid)
    (hlast : mid ≤ last) :
    plan.firstRefused? first last =
      (plan.firstRefused? first mid).or (plan.firstRefused? mid last) := by
  rw [firstRefused?, ← IdPolicy.range'_append_between hfirst hlast, List.find?_append]
  rfl

theorem lt_of_firstRefused? {first last number : Nat}
    (h : plan.firstRefused? first last = some number) : first < number := by
  have hmem := List.mem_of_find?_eq_some h
  rw [List.mem_range'_1] at hmem
  omega

/-- What a placement comes to when its ids are entered, up to the first that is refused. -/
def settle {α : Type} (plan : ProbePlan) (ledger : Ledger) (placed : α × Nat) :
    Except ProbeError α × Ledger :=
  match plan.firstRefused? ledger.placed placed.2 with
  | none => (.ok placed.1, ledger.enterAll (plan.policy.idsBetween ledger.placed placed.2))
  | some number =>
    (.error (.idTooLarge (plan.policy.id number)),
      ledger.enterAll (plan.policy.idsBetween ledger.placed number))

theorem runOn_emit (plan : ProbePlan) (ledger : Ledger) :
    plan.emit.runOn ledger =
      plan.settle ledger (plan.probe (ledger.placed + 1), ledger.placed + 1) := by
  have hrun : plan.emit.runOn ledger =
      (if plan.backend.holds (plan.policy.id (ledger.placed + 1)) then
        .ok (plan.probe (ledger.placed + 1))
      else .error (.idTooLarge (plan.policy.id (ledger.placed + 1))),
        ledger.enter (plan.policy.id (ledger.placed + 1))) := by
    change Probing.runOn (if plan.backend.holds (plan.policy.id (ledger.placed + 1)) then
      return plan.backend.probe (plan.policy.id (ledger.placed + 1))
      else throw (.idTooLarge (plan.policy.id (ledger.placed + 1))))
      (ledger.enter (plan.policy.id (ledger.placed + 1))) = _
    split <;> rfl
  rw [hrun, settle, firstRefused?_succ]
  split
  · rw [IdPolicy.idsBetween_succ]
    rfl
  · dsimp only
    rw [IdPolicy.idsBetween_succ]
    rfl

/-- The second part of a placement goes on where the first has stopped, unless that was refused. -/
theorem settle_bind {α β : Type} (plan : ProbePlan) {ledger : Ledger} {first : α × Nat}
    {second : β × Nat} (hfirst : ledger.placed ≤ first.2) (hsecond : first.2 ≤ second.2) :
    plan.settle ledger second =
      match plan.settle ledger first with
      | (.ok _, between) => plan.settle between second
      | (.error err, between) => (.error err, between) := by
  have hplaced := ledger.placed_enterAll_idsBetween plan.policy hfirst
  simp only [settle, plan.firstRefused?_append hfirst hsecond]
  cases plan.firstRefused? ledger.placed first.2 with
  | some number => rfl
  | none =>
    dsimp only [Option.none_or]
    rw [hplaced]
    cases hrefused : plan.firstRefused? first.2 second.2 with
    | none =>
      dsimp only
      rw [← Ledger.enterAll_append, plan.policy.idsBetween_append hfirst hsecond]
    | some number =>
      have hnumber := (lt_of_firstRefused? hrefused).le
      dsimp only
      rw [← Ledger.enterAll_append, plan.policy.idsBetween_append hfirst hnumber]

/-- A run goes in lockstep with a placement that counts: it settles what that places. -/
def entering (plan : ProbePlan) : Lockstep plan.emit (next plan.probe) where
  Rel work placing := ∀ ledger : Ledger, ledger.placed ≤ (placing ledger.placed).2 ∧
    work.runOn ledger = plan.settle ledger (placing ledger.placed)
  next ledger := ⟨Nat.le_succ _, plan.runOn_emit ledger⟩
  pure a ledger := by
    refine ⟨le_rfl, ?_⟩
    rw [Placing.pure_apply, settle, firstRefused?_self]
    dsimp only
    rw [IdPolicy.idsBetween_self]
    rfl
  bind {α β work placing rest placingRest} hwork hrest ledger := by
    obtain ⟨hfirst, hrun⟩ := hwork ledger
    have hplaced := ledger.placed_enterAll_idsBetween plan.policy hfirst
    obtain ⟨hsecond, -⟩ := hrest (placing ledger.placed).1
      (ledger.enterAll (plan.policy.idsBetween ledger.placed (placing ledger.placed).2))
    rw [hplaced] at hsecond
    rw [Placing.bind_apply]
    refine ⟨hfirst.trans hsecond, ?_⟩
    rw [Probing.runOn_bind, hrun, plan.settle_bind hfirst hsecond]
    cases hrefused : plan.firstRefused? ledger.placed (placing ledger.placed).2 with
    | some number => simp only [settle, hrefused]
    | none =>
      obtain ⟨-, hlast⟩ := hrest (placing ledger.placed).1
        (ledger.enterAll (plan.policy.idsBetween ledger.placed (placing ledger.placed).2))
      rw [hplaced] at hlast
      simp only [settle, hrefused] at hlast ⊢
      exact hlast

/-- Work that is done for an owner advances the ledger to its last number, or to the first that is
refused. An owner with nothing to enter would get no entry, so its work has to place a probe. -/
theorem runOn_own {α : Type} {work : Probing α} {placing : Placing α}
    (h : plan.entering.Rel work placing) {owner : Option String}
    (howner : owner = none ∨ ∀ placed, placed < (placing placed).2) (before : Ledger) :
    (Probing.own owner >>= fun _ => work).runOn before =
      match plan.firstRefused? before.placed (placing before.placed).2 with
      | none =>
        (.ok (placing before.placed).1,
          before.advance plan.policy owner (placing before.placed).2)
      | some number =>
        (.error (.idTooLarge (plan.policy.id number)),
          before.advance plan.policy owner number) := by
  obtain ⟨hplaced, hrun⟩ := h { before with current := owner }
  change work.runOn { before with current := owner } = _
  rw [hrun, settle]
  cases hrefused : plan.firstRefused? before.placed (placing before.placed).2 with
  | none =>
    dsimp only
    rw [before.enterAll_eq_advance plan.policy hplaced (howner.imp_right (· _))]
  | some number =>
    have hlt := lt_of_firstRefused? hrefused
    dsimp only
    rw [before.enterAll_eq_advance plan.policy hlt.le (.inr hlt)]

/-- Probes are placed and counted when none of their ids is refused. -/
theorem own_ok {α : Type} {work : Probing α} {placing : Placing α}
    (h : plan.entering.Rel work placing) {owner : Option String}
    (howner : owner = none ∨ ∀ placed, placed < (placing placed).2) {before after : Ledger}
    {a : α} :
    (Probing.own owner >>= fun _ => work).runOn before = (.ok a, after) ↔
      plan.firstRefused? before.placed (placing before.placed).2 = none ∧
        (placing before.placed).1 = a ∧
        before.advance plan.policy owner (placing before.placed).2 = after := by
  rw [runOn_own h howner]
  cases plan.firstRefused? before.placed (placing before.placed).2 <;> simp

/-- A body is placed for its owner, and then there is no owner any more. -/
theorem probeFunc_eq (plan : ProbePlan) (func : FuncDecl) :
    plan.probeFunc func =
      match plan.bodyToProbe? func with
      | none => pure none
      | some body => do
        let body ← Probing.own (plan.owner? func) >>= fun _ => Stmt.placeBody plan.emit body
        Probing.own none
        return some (plan.backend.finalize func { func with body := some body }) := by
  unfold probeFunc bodyToProbe?
  cases hbody : func.body with
  | none => simp
  | some body =>
    cases hcovers : plan.backend.covers (plan.isTracked func.qualifiedName) <;>
      simp [hcovers, owner?]

/-- What comes of a function: it is left as it is, or its body is placed for its owner. When that
fails, the owner stays current. -/
theorem runOn_probeFunc (plan : ProbePlan) (func : FuncDecl) (before : Ledger) :
    (plan.probeFunc func).runOn before =
      match plan.bodyToProbe? func with
      | none => (.ok none, before)
      | some body =>
        match plan.firstRefused? before.placed
            (Stmt.placeBody (next plan.probe) body before.placed).2 with
        | none =>
          (.ok (some (plan.backend.finalize func
            { func with body := some (Stmt.placeBody (next plan.probe) body before.placed).1 })),
            (before.advance plan.policy (plan.owner? func)
              (Stmt.placeBody (next plan.probe) body before.placed).2).leave)
        | some number =>
          (.error (.idTooLarge (plan.policy.id number)),
            before.advance plan.policy (plan.owner? func) number) := by
  rw [probeFunc_eq]
  cases plan.bodyToProbe? func with
  | none => rfl
  | some body =>
    dsimp only
    rw [Probing.runOn_bind, runOn_own (Stmt.placeBody_lockstep plan.entering body)
      (.inr (Stmt.lt_placeBody_snd plan.probe body))]
    cases plan.firstRefused? before.placed
      (Stmt.placeBody (next plan.probe) body before.placed).2 <;> rfl

/-- A function is left as it is, or replaced by what the backend makes of its placed body. -/
theorem probeFunc_ok {func : FuncDecl} {result : Option Patch} {before after : Ledger} :
    (plan.probeFunc func).runOn before = (.ok result, after) ↔
      plan.bodyToProbe? func = none ∧ result = none ∧ after = before ∨
      ∃ body, plan.bodyToProbe? func = some body ∧
        plan.firstRefused? before.placed
          (Stmt.placeBody (next plan.probe) body before.placed).2 = none ∧
        result = some (plan.backend.finalize func
          { func with body := some (Stmt.placeBody (next plan.probe) body before.placed).1 }) ∧
        after = (before.advance plan.policy (plan.owner? func)
          (Stmt.placeBody (next plan.probe) body before.placed).2).leave := by
  rw [runOn_probeFunc]
  cases plan.bodyToProbe? func with
  | none => simp [eq_comm]
  | some body =>
    cases hheld : plan.firstRefused? before.placed
        (Stmt.placeBody (next plan.probe) body before.placed).2 with
    | none => simp [hheld, eq_comm]
    | some number => simp [hheld]

/-- The patch of a function with this body, and the ledger that counts its probes. -/
theorem patch_of_probeFunc {func : FuncDecl} {body : Block} {patch : Patch}
    {before after : Ledger} (hbody : func.body = some body)
    (hrun : (plan.probeFunc func).runOn before = (.ok (some patch), after)) :
    patch = plan.backend.finalize func
        { func with body := some (Stmt.placeBody (next plan.probe) body before.placed).1 } ∧
      after = (before.advance plan.policy (plan.owner? func)
        (Stmt.placeBody (next plan.probe) body before.placed).2).leave := by
  rcases probeFunc_ok.1 hrun with ⟨-, hnone, -⟩ | ⟨other, hother, -, hpatch, hafter⟩
  · cases hnone
  · obtain rfl : other = body := by
      rw [body_of_bodyToProbe? hother] at hbody
      exact Option.some.inj hbody
    exact ⟨Option.some.inj hpatch, hafter⟩

/-- What a successful run can do to one declaration. -/
inductive DeclStep (plan : ProbePlan) (before : Ledger) : Decl → List Decl → Ledger → Prop where
  | keptFunc {func : FuncDecl} (hkept : plan.bodyToProbe? func = none) :
      DeclStep plan before (.func func) [.func func] before
  | keptGen {decl : GenDecl}
      (hkept : (decl.kind != .imports && plan.backend.covers false) = false) :
      DeclStep plan before (.gen decl) [.gen decl] before
  | func {func : FuncDecl} {body : Block} (hbody : plan.bodyToProbe? func = some body) :
      DeclStep plan before (.func func)
        (plan.backend.finalize func
          { func with body := some (Stmt.placeBody (next plan.probe) body before.placed).1 }).decls
        (before.advance plan.policy (plan.owner? func)
          (Stmt.placeBody (next plan.probe) body before.placed).2).leave
  | gen {decl : GenDecl} (hprobed : (decl.kind != .imports && plan.backend.covers false) = true) :
      DeclStep plan before (.gen decl) [.gen (decl.place (next plan.probe) before.placed).1]
        (before.advance plan.policy none (decl.place (next plan.probe) before.placed).2)

theorem declStep_of_probeDecl {decl : Decl} {decls : List Decl} {before after : Ledger}
    (h : (plan.probeDecl decl).runOn before = (.ok decls, after)) :
    plan.DeclStep before decl decls after := by
  cases decl with
  | func func =>
    rw [probeDecl, Probing.runOn_bind_ok] at h
    obtain ⟨result, between, hfunc, hdecls⟩ := h
    rcases probeFunc_ok.1 hfunc with ⟨hkept, rfl, rfl⟩ | ⟨body, hbody, -, rfl, rfl⟩
    · obtain ⟨rfl, rfl⟩ := Probing.runOn_pure_ok.1 hdecls
      exact .keptFunc hkept
    · obtain ⟨rfl, rfl⟩ := Probing.runOn_pure_ok.1 hdecls
      exact .func hbody
  | gen decl =>
    rw [probeDecl] at h
    cases hprobed : decl.kind != .imports && plan.backend.covers false with
    | false =>
      rw [hprobed] at h
      obtain ⟨rfl, rfl⟩ := Probing.runOn_pure_ok.1 h
      exact .keptGen hprobed
    | true =>
      rw [hprobed, if_pos rfl, ← bind_assoc, Probing.runOn_bind_ok] at h
      obtain ⟨placed, between, hplaced, hdecls⟩ := h
      obtain ⟨-, rfl, rfl⟩ := (own_ok (decl.place_lockstep plan.entering) (.inl rfl)).1 hplaced
      obtain ⟨rfl, rfl⟩ := Probing.runOn_pure_ok.1 hdecls
      exact .gen hprobed

/-! ## Files and packages -/

theorem probeFile_ok {file probed : SourceFile} {before after : Ledger}
    (h : (plan.probeFile file).runOn before = (.ok probed, after)) :
    ∃ steps, Probing.Each plan.probeDecl before steps after ∧
      steps.map Prod.fst = file.decls ∧
      probed = { file with decls := steps.flatMap Prod.snd } := by
  rw [probeFile, Probing.runOn_bind_ok] at h
  obtain ⟨decls, between, hdecls, hprobed⟩ := h
  obtain ⟨rfl, rfl⟩ := Probing.runOn_pure_ok.1 hprobed
  obtain ⟨steps, hsteps, hfst, rfl⟩ := Probing.each_of_mapM hdecls
  exact ⟨steps, hsteps, hfst, rfl⟩

/-- The files of a package one after another are the run of all their declarations. -/
theorem probeSources_ok {sources probed : List NamedSource} {before after : Ledger}
    (h : (plan.probeSources sources).runOn before = (.ok probed, after)) :
    ∃ steps, Probing.Each plan.probeDecl before steps after ∧
      steps.map Prod.fst = sources.flatMap (·.file.decls) ∧
      steps.flatMap Prod.snd = probed.flatMap (·.file.decls) := by
  obtain ⟨files, hfiles, rfl, rfl⟩ := Probing.each_of_mapM h
  clear h
  induction hfiles with
  | nil ledger => exact ⟨[], .nil ledger, rfl, rfl⟩
  | @cons source probed files _ _ _ hfile _ ih =>
    obtain ⟨rest, hrest, hrestFst, hrestSnd⟩ := ih
    rw [Probing.runOn_bind_ok] at hfile
    obtain ⟨file, between, hfile, hprobed⟩ := hfile
    obtain ⟨rfl, rfl⟩ := Probing.runOn_pure_ok.1 hprobed
    obtain ⟨steps, hsteps, hfst, rfl⟩ := probeFile_ok hfile
    refine ⟨steps ++ rest, hsteps.append hrest, ?_, ?_⟩
    · simp [hfst, hrestFst]
    · simp [hrestSnd]

end ProbePlan

section

variable [WordHash]

/-- The name comes first, then the run, and the files of the backend come last. -/
theorem probePackage_eq (sources : List NamedSource) (settings : ProbeSettings)
    (tracked : List String) :
    probePackage sources settings tracked =
      match packageName sources with
      | .error err => .error err
      | .ok name =>
        match ((ProbePlan.ofSettings settings tracked).probeSources sources).runOn {} with
        | (.error err, _) => .error err
        | (.ok probed, ledger) =>
          match (settings.backendOf.supportFiles name).find? fun file =>
              sources.any (·.name == file.name) with
          | some file => .error (.nameTaken file.name)
          | none =>
            .ok
              { name
                files := probed.map (fun source => ⟨source.name, source.file.print⟩) ++
                  (settings.backendOf.supportFiles name).map
                    (fun file => ⟨file.name, file.file.print⟩)
                counters := ledger.counters
                probes := ledger.placed } := by
  unfold probePackage
  cases packageName sources with
  | error err => rfl
  | ok name =>
    dsimp only [bind, Except.bind]
    rw [← Probing.runOn]
    rcases ((ProbePlan.ofSettings settings tracked).probeSources sources).runOn {} with
      ⟨err | probed, ledger⟩
    · rfl
    · rfl

/-- A probed package holds the printed files of the run and what its ledger has kept. -/
theorem probePackage_ok {sources : List NamedSource} {settings : ProbeSettings}
    {tracked : List String} {package : ProbedPackage}
    (h : probePackage sources settings tracked = .ok package) :
    ∃ probed ledger,
      ((ProbePlan.ofSettings settings tracked).probeSources sources).runOn {} =
        (.ok probed, ledger) ∧
      package.counters = ledger.counters ∧ package.probes = ledger.placed ∧
      package.files = probed.map (fun source => ⟨source.name, source.file.print⟩) ++
        (settings.backendOf.supportFiles package.name).map
          (fun file => ⟨file.name, file.file.print⟩) := by
  rw [probePackage_eq] at h
  split at h
  · cases h
  · split at h
    · cases h
    · next probed ledger hrun =>
      split at h
      · cases h
      · cases h
        exact ⟨probed, ledger, hrun, rfl, rfl, rfl⟩

end

/-- A result is known by what is read off it. -/
theorem exists_ok_of_toOption {ε α β : Type} {result : Except ε α} {read : α → β} {b : β}
    (h : result.toOption.map read = some b) : ∃ a, result = .ok a ∧ read a = b := by
  cases result with
  | error err => cases h
  | ok a => exact ⟨a, rfl, Option.some.inj h⟩

theorem eq_error_of_map {ε α : Type} {result : Except ε α} {err : ε}
    (h : (result.map fun _ => ()) = .error err) : result = .error err := by
  cases result with
  | error other =>
    cases h
    rfl
  | ok a => cases h

/-- A package of two files that both declare `init`, with a closure outside of functions and a
function without body. -/
def NamedSource.samplePackage : List NamedSource :=
  [⟨"a.go", ⟨"p", "p",
    [.func (.sample "init"),
     .gen ⟨.vars, [.value [{ name := "v" }] none [.funcLit ⟨[], []⟩ []]], false⟩]⟩⟩,
   ⟨"b.go", ⟨"p", "p",
    [.func (.sample "init"), .func { FuncDecl.sample "g" with body := none }]⟩⟩]

end GoProbe
