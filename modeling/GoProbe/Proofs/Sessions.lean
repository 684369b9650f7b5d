import Mathlib
import GoProbe.Probe.Hash
import GoProbe.Proofs.Attribution
import GoProbe.Proofs.Renumbering

/-!
# Sessions

In a session files and single functions are probed one after another, with one ledger. A call can
fail halfway; the next call then starts from the ledger that it has left.

`Probing.Confined` says what work may have to do with the ledger: it reads the count and nothing
else, and it makes entries for the functions that it owns. The parts of a call are confined, so the
call is (`confined_answer`). What a call leaves behind is then known from the same call on a ledger
without entries, and over a session the ledger only grows (`continues_ledgerAfter`).
-/

namespace GoProbe

open Placing (next)

/-! ## Ledgers -/

namespace Ledger

/-- `ledger` has the count of `alone`, and its entries after those of `base`. -/
structure Above (base : Dict (List Nat)) (alone ledger : Ledger) : Prop where
  placed : ledger.placed = alone.placed
  counters (name : String) : ledger.counters.get? name =
    Option.merge (· ++ ·) (base.get? name) (alone.counters.get? name)

/-- Numbers are used up and not given back, and functions that are not owned keep their entries. -/
structure Grows (owned : String → Prop) (before after : Ledger) : Prop where
  placed_le : before.placed ≤ after.placed
  kept {name : String} (hother : ¬ owned name) :
    after.counters.get? name = before.counters.get? name

/-- All entries are still there, with more at their ends. -/
structure Continues (before after : Ledger) : Prop where
  placed_le : before.placed ≤ after.placed
  extended {name : String} {ids : List Nat} (hids : before.counters.get? name = some ids) :
    ∃ more, after.counters.get? name = some (ids ++ more)

theorem above_counters (ledger : Ledger) :
    Above ledger.counters { placed := ledger.placed } ledger where
  placed := rfl
  counters name := by rw [Dict.get?_empty, Option.merge_none_right]

theorem Above.advance [WordHash] {base : Dict (List Nat)} {alone ledger : Ledger}
    (h : Above base alone ledger) (policy : IdPolicy) (owner : Option String) (last : Nat) :
    Above base (alone.advance policy owner last) (ledger.advance policy owner last) where
  placed := rfl
  counters name := by
    cases owner with
    | none => exact h.counters name
    | some owner =>
      rw [counters_advance_some, counters_advance_some, Dict.get?_append, Dict.get?_append,
        h.placed]
      split
      · next heq =>
        rw [heq, h.counters]
        cases base.get? owner <;> cases alone.counters.get? owner <;> simp
      · exact h.counters name

variable {owned : String → Prop} {before between after : Ledger}

theorem Grows.refl (owned : String → Prop) (ledger : Ledger) : Grows owned ledger ledger where
  placed_le := le_rfl
  kept _ := rfl

theorem Grows.trans (hleft : Grows owned before between) (hright : Grows owned between after) :
    Grows owned before after where
  placed_le := hleft.placed_le.trans hright.placed_le
  kept hother := (hright.kept hother).trans (hleft.kept hother)

theorem Grows.advance [WordHash] {owner : Option String} {last : Nat}
    (howner : ∀ name ∈ owner, owned name)
    (hlast : before.placed ≤ last) (policy : IdPolicy) :
    Grows owned before (before.advance policy owner last) where
  placed_le := hlast
  kept {name} hother := by
    cases owner with
    | none => rfl
    | some owner =>
      have hne : name ≠ owner := fun heq => hother (heq ▸ howner owner rfl)
      rw [counters_advance_some, Dict.get?_append, if_neg hne]

theorem Continues.refl (ledger : Ledger) : Continues ledger ledger where
  placed_le := le_rfl
  extended hids := ⟨[], by simpa using hids⟩

theorem Continues.trans (hleft : Continues before between) (hright : Continues between after) :
    Continues before after where
  placed_le := hleft.placed_le.trans hright.placed_le
  extended hids := by
    obtain ⟨first, hfirst⟩ := hleft.extended hids
    obtain ⟨second, hsecond⟩ := hright.extended hfirst
    exact ⟨first ++ second, by rw [hsecond, List.append_assoc]⟩

/-- What comes after the entries of a ledger leaves them as they are. -/
theorem Above.continues {alone : Ledger} (habove : Above before.counters alone after)
    (hplaced : before.placed ≤ alone.placed) : Continues before after where
  placed_le := habove.placed ▸ hplaced
  extended {name ids} hids := by
    rw [habove.counters, hids]
    cases alone.counters.get? name with
    | none => exact ⟨[], by simp⟩
    | some more => exact ⟨more, rfl⟩

end Ledger

/-! ## Confined work -/

namespace Probing

open Ledger (Above Grows)

variable {α β : Type} {owned : String → Prop}

/-- The work does not see which entries there are, and makes entries for owned names only. -/
structure Confined (owned : String → Prop) (work : Probing α) : Prop where
  alike {base : Dict (List Nat)} {alone ledger : Ledger} (h : Above base alone ledger) :
    (work.runOn ledger).1 = (work.runOn alone).1 ∧
      Above base (work.runOn alone).2 (work.runOn ledger).2
  grows (before : Ledger) : Grows owned before (work.runOn before).2

namespace Confined

theorem mono {wider : String → Prop} {work : Probing α} (hwork : work.Confined owned)
    (hwider : ∀ name, owned name → wider name) : work.Confined wider where
  alike h := hwork.alike h
  grows before :=
    { placed_le := (hwork.grows before).placed_le
      kept := fun hother => (hwork.grows before).kept (mt (hwider _) hother) }

theorem pure (owned : String → Prop) (a : α) : (Pure.pure a : Probing α).Confined owned where
  alike h := ⟨rfl, h⟩
  grows before := .refl owned before

theorem bind {work : Probing α} {next : α → Probing β} (hwork : work.Confined owned)
    (hnext : ∀ a, (next a).Confined owned) : (work >>= next).Confined owned where
  alike {base alone ledger} h := by
    have hfirst := hwork.alike h
    rw [runOn_bind, runOn_bind]
    revert hfirst
    rcases work.runOn ledger with ⟨outcome, between⟩
    rcases work.runOn alone with ⟨other, betweenAlone⟩
    rintro ⟨houtcome, habove⟩
    obtain rfl : outcome = other := houtcome
    cases outcome with
    | error err => exact ⟨rfl, habove⟩
    | ok a => exact (hnext a).alike habove
  grows before := by
    have hfirst := hwork.grows before
    rw [runOn_bind]
    revert hfirst
    rcases work.runOn before with ⟨err | a, between⟩
    · exact id
    · exact fun hfirst => hfirst.trans ((hnext a).grows between)

/-- Which function is current is not seen from outside. -/
theorem leave (owned : String → Prop) : (own none).Confined owned where
  alike h := ⟨rfl, h.placed, h.counters⟩
  grows _ := ⟨le_rfl, fun _ => rfl⟩

theorem map {work : Probing α} (hwork : work.Confined owned) (f : α → β) :
    (work >>= fun a => Pure.pure (f a)).Confined owned :=
  hwork.bind fun a => .pure owned (f a)

theorem mapM {work : α → Probing β} {items : List α}
    (hwork : ∀ item ∈ items, (work item).Confined owned) : (items.mapM work).Confined owned := by
  induction items with
  | nil => exact .pure owned []
  | cons item items ih =>
    rw [List.forall_mem_cons] at hwork
    rw [List.mapM_cons]
    exact hwork.1.bind fun result => (ih hwork.2).map _

end Confined

end Probing

namespace ProbePlan

open Probing (Confined)

variable {plan : ProbePlan}

/-- The tracked functions that these declarations declare with a body. -/
def Owns (plan : ProbePlan) (decls : List Decl) (name : String) : Prop :=
  name ∈ plan.tracked ∧ ∃ decl ∈ decls, decl.declares name

theorem owns_of_owner? {func : FuncDecl} {body : Block} (hbody : func.body = some body) :
    ∀ name ∈ plan.owner? func, plan.Owns [.func func] name := by
  intro name hname
  simp only [owner?, Option.mem_def, Option.ite_none_right_eq_some, Option.some.injEq,
    isTracked_iff] at hname
  obtain ⟨htracked, rfl⟩ := hname
  exact ⟨htracked, _, List.mem_singleton_self _, Decl.declares_func.2 ⟨by simp [hbody], rfl⟩⟩

variable [WordHash]

/-- Whatever function is current, an owner is set before the first probe. -/
theorem confined_own {α : Type} {owned : String → Prop} {owner : Option String}
    {work : Probing α} {placing : Placing α} (hwork : plan.entering.Rel work placing)
    (hplaced : owner = none ∨ ∀ placed, placed < (placing placed).2)
    (howner : ∀ name ∈ owner, owned name) :
    (Probing.own owner >>= fun _ => work).Confined owned where
  alike {base alone ledger} h := by
    rw [runOn_own hwork hplaced, runOn_own hwork hplaced, h.placed]
    split
    · exact ⟨rfl, h.advance _ _ _⟩
    · exact ⟨rfl, h.advance _ _ _⟩
  grows before := by
    rw [runOn_own hwork hplaced]
    split
    · exact .advance howner (hwork before).1 _
    · next number hnumber => exact .advance howner (lt_of_firstRefused? hnumber).le _

theorem confined_probeFunc (plan : ProbePlan) (func : FuncDecl) :
    (plan.probeFunc func).Confined (plan.Owns [.func func]) := by
  rw [probeFunc_eq]
  cases hbody : plan.bodyToProbe? func with
  | none => exact .pure _ _
  | some body =>
    exact (confined_own (Stmt.placeBody_lockstep plan.entering body)
      (.inr (Stmt.lt_placeBody_snd plan.probe body))
      (owns_of_owner? (body_of_bodyToProbe? hbody))).bind fun placed => (Confined.leave _).map _

theorem confined_probeDecl (plan : ProbePlan) (decl : Decl) :
    (plan.probeDecl decl).Confined (plan.Owns [decl]) := by
  cases decl with
  | func f =>
    refine (plan.confined_probeFunc f).bind fun result => ?_
    cases result with
    | none => exact .pure _ _
    | some patch => exact .pure _ _
  | gen decl =>
    rw [probeDecl]
    split
    · rw [← bind_assoc]
      exact (confined_own (decl.place_lockstep plan.entering) (.inl rfl) (by simp)).map _
    · exact .pure _ _

theorem confined_probeFile (plan : ProbePlan) (file : SourceFile) :
    (plan.probeFile file).Confined (plan.Owns file.decls) := by
  refine (Confined.mapM fun decl hdecl => ?_).map _
  refine (plan.confined_probeDecl decl).mono ?_
  rintro name ⟨htracked, other, hother, hdeclares⟩
  rw [List.mem_singleton] at hother
  exact ⟨htracked, decl, hdecl, hother ▸ hdeclares⟩

end ProbePlan

/-! ## Calls -/

/-- What a session is asked to probe. -/
inductive ProbeCall where
  | file (file : SourceFile)
  | func (func : FuncDecl)

/-- What a call that succeeds returns. -/
inductive ProbeAnswer where
  | file (probed : SourceFile)
  | func (patch : Option Patch)

namespace ProbeCall

def decls : ProbeCall → List Decl
  | file f => f.decls
  | func f => [.func f]

/-- The answer with `probe`'s statements for probes, where every function gets them. -/
def place (probe : Nat → Stmt) : ProbeCall → Placing ProbeAnswer
  | file f => do return .file (← f.place (next probe))
  | func f => do
    let probed ← f.place (next probe)
    return .func (f.body.map fun _ => .replace probed)

theorem place_shifted (probe : Nat → Stmt) (shift : Nat) (call : ProbeCall) :
    Placing.Shifted shift (call.place probe) (call.place fun number => probe (number + shift)) := by
  let lockstep := Placing.shifting probe shift
  cases call with
  | file f => exact lockstep.map (f.place_lockstep lockstep) _
  | func f => exact lockstep.map (f.place_lockstep lockstep) _

end ProbeCall

/-- Changes the copy of the function that has the probes. -/
def Patch.mapProbed (f : FuncDecl → FuncDecl) : Patch → Patch
  | replace probed => replace (f probed)
  | shadow func probed => shadow func (f probed)

def ProbeAnswer.replace (new : Stmt → Option Stmt) : ProbeAnswer → ProbeAnswer
  | file probed => file (probed.replace new)
  | func patch => func (patch.map (Patch.mapProbed (FuncDecl.replace new)))

/-- Other probes in the places of those of an answer. -/
theorem ProbeCall.replace_place [WordHash] (plan : ProbePlan) (new : Nat → Stmt) {call : ProbeCall}
    (hfree : plan.backend.idsOf (call.decls.flatMap (Decl.walk everywhere)) = []) :
    Placing.Mapped (ProbeAnswer.replace (plan.backend.replacing new)) (call.place plan.probe)
      (call.place fun number => new (plan.policy.id number)) := by
  cases call with
  | file f => exact (f.replace_place plan new hfree).map fun _ => rfl
  | func f =>
    rw [decls, List.flatMap_singleton, Decl.idsOf_walk_func] at hfree
    refine (f.replace_place plan new hfree).map fun probed => ?_
    cases f.body <;> rfl

namespace ProbePlan

open Probing (Confined Places)
open Ledger (Above Continues)

variable [WordHash] {plan other : ProbePlan}

def answer (plan : ProbePlan) : ProbeCall → Probing ProbeAnswer
  | .file file => do return .file (← plan.probeFile file)
  | .func func => do return .func (← plan.probeFunc func)

theorem confined_answer (plan : ProbePlan) (call : ProbeCall) :
    (plan.answer call).Confined (plan.Owns call.decls) := by
  cases call with
  | file file => exact (plan.confined_probeFile file).map _
  | func func => exact (plan.confined_probeFunc func).map _

theorem places_answer {tableName fileName : String}
    (hbackend : plan.backend = .table tableName fileName) (call : ProbeCall) :
    (plan.answer call).Places id (call.place plan.probe) := by
  cases call with
  | file file => exact (places_probeFile hbackend file).map _
  | func func => exact (places_probeFunc hbackend func).map _

/-- Of the list of tracked functions only the members matter. -/
theorem answer_congr (hbackend : other.backend = plan.backend)
    (hpolicy : other.policy = plan.policy)
    (htracked : ∀ name, name ∈ other.tracked ↔ name ∈ plan.tracked) :
    other.answer = plan.answer := by
  obtain ⟨backend, policy, tracked⟩ := plan
  obtain ⟨otherBackend, otherPolicy, others⟩ := other
  obtain rfl : backend = otherBackend := hbackend.symm
  obtain rfl : policy = otherPolicy := hpolicy.symm
  have hisTracked (name : String) : others.contains name = tracked.contains name := by
    rw [Bool.eq_iff_iff]
    simpa using htracked name
  have hfunc : probeFunc ⟨backend, policy, others⟩ = probeFunc ⟨backend, policy, tracked⟩ := by
    funext func
    simp only [probeFunc, isTracked, hisTracked]
    rfl
  have hdecl : probeDecl ⟨backend, policy, others⟩ = probeDecl ⟨backend, policy, tracked⟩ := by
    funext decl
    cases decl with
    | func f => simp only [probeDecl, hfunc]
    | gen decl => rfl
  funext call
  cases call with
  | file file => simp only [answer, probeFile, hdecl]
  | func func => simp only [answer, hfunc]

/-! ## Runs of calls -/

/-- The ledger after a call, whatever came of it. -/
def afterCall (plan : ProbePlan) (ledger : Ledger) (call : ProbeCall) : Ledger :=
  ((plan.answer call).runOn ledger).2

/-- The ledger of a session after these calls. -/
def ledgerAfter (plan : ProbePlan) (calls : List ProbeCall) : Ledger :=
  calls.foldl plan.afterCall {}

theorem continues_afterCall (plan : ProbePlan) (ledger : Ledger) (call : ProbeCall) :
    Continues ledger (plan.afterCall ledger call) :=
  ((plan.confined_answer call).alike ledger.above_counters).2.continues
    ((plan.confined_answer call).grows { placed := ledger.placed }).placed_le

theorem continues_foldl (plan : ProbePlan) (ledger : Ledger) (calls : List ProbeCall) :
    Continues ledger (calls.foldl plan.afterCall ledger) := by
  induction calls generalizing ledger with
  | nil => exact .refl ledger
  | cons call calls ih => exact (plan.continues_afterCall ledger call).trans (ih _)

theorem continues_ledgerAfter (plan : ProbePlan) (calls more : List ProbeCall) :
    Continues (plan.ledgerAfter calls) (plan.ledgerAfter (calls ++ more)) := by
  rw [ledgerAfter, ledgerAfter, List.foldl_append]
  exact plan.continues_foldl _ more

theorem probe_sequential (hpolicy : plan.policy = .sequential) :
    plan.probe = plan.backend.probe := by
  funext number
  rw [probe, hpolicy]
  rfl

/-- With a table and ids that count on, a later start only makes the ids larger. -/
theorem answer_table {tableName fileName : String}
    (hbackend : plan.backend = .table tableName fileName) (hpolicy : plan.policy = .sequential)
    (call : ProbeCall) (ledger : Ledger) :
    ((plan.answer call).runOn ledger).1 =
      .ok (call.place (fun id => plan.backend.probe (id + ledger.placed)) 0).1 := by
  obtain ⟨after, hrun, -⟩ := places_answer hbackend call ledger
  have hshift := call.place_shifted plan.probe ledger.placed 0
  rw [Nat.zero_add] at hshift
  rw [hrun, hshift, probe_sequential hpolicy]
  rfl

theorem replace_place_sequential (hpolicy : plan.policy = .sequential) {call : ProbeCall}
    (hfree : plan.backend.Free (call.decls.flatMap (Decl.walk everywhere))) (new : Nat → Stmt) :
    (call.place plan.backend.probe 0).1.replace (plan.backend.replacing new) =
      (call.place new 0).1 := by
  have hplace := ProbeCall.replace_place plan new (Backend.free_iff.1 hfree) 0
  rw [probe_sequential hpolicy, hpolicy] at hplace
  exact (congrArg Prod.fst hplace).symm

/-- Whatever the calls of a session have been, and even if some have failed, the next call comes out
as it does on a ledger that has the count and no entries. What it enters there, for tracked
functions that it has to probe itself, goes to the ends of the entries of the session. With a table
and ids that count on, it answers as a first call does, with all ids larger by the count. -/
theorem answer_ledgerAfter (hbackend : other.backend = plan.backend)
    (hpolicy : other.policy = plan.policy)
    (htracked : ∀ name, name ∈ other.tracked ↔ name ∈ plan.tracked)
    (calls : List ProbeCall) (call : ProbeCall) {count : Nat}
    (hcount : (plan.ledgerAfter calls).placed = count)
    {outcome : Except ProbeError ProbeAnswer} {given : Ledger}
    (halone : (other.answer call).runOn { placed := count } = (outcome, given)) :
    ((plan.answer call).runOn (plan.ledgerAfter calls)).1 = outcome ∧
    (plan.ledgerAfter (calls ++ [call])).placed = given.placed ∧
    (∀ name, (plan.ledgerAfter (calls ++ [call])).counters.get? name =
      Option.merge (· ++ ·) ((plan.ledgerAfter calls).counters.get? name)
        (given.counters.get? name)) ∧
    (∀ name ids, given.counters.get? name = some ids → plan.Owns call.decls name) ∧
    (∀ more, Continues (plan.ledgerAfter calls) (plan.ledgerAfter (calls ++ more))) ∧
    ∀ tableName fileName, plan.backend = .table tableName fileName → plan.policy = .sequential →
      ((plan.answer call).runOn {}).1 = .ok (call.place plan.backend.probe 0).1 ∧
      outcome = .ok (call.place (fun id => plan.backend.probe (id + count)) 0).1 ∧
      (plan.backend.Free (call.decls.flatMap (Decl.walk everywhere)) →
        outcome = .ok ((call.place plan.backend.probe 0).1.replace
          (plan.backend.replacing fun id => plan.backend.probe (id + count)))) := by
  subst hcount
  rw [answer_congr hbackend hpolicy htracked] at halone
  have hconfined := plan.confined_answer call
  obtain ⟨houtcome, habove⟩ := hconfined.alike (plan.ledgerAfter calls).above_counters
  have hgrows := hconfined.grows { placed := (plan.ledgerAfter calls).placed }
  rw [halone] at houtcome habove hgrows
  have hafter : plan.ledgerAfter (calls ++ [call]) =
      ((plan.answer call).runOn (plan.ledgerAfter calls)).2 := by
    rw [ledgerAfter, List.foldl_append]
    rfl
  rw [hafter]
  refine ⟨houtcome, habove.placed, habove.counters, fun name ids hids => ?_,
    plan.continues_ledgerAfter calls, fun tableName fileName htable hsequential => ?_⟩
  · by_contra hother
    rw [hgrows.kept hother] at hids
    cases hids
  · have hlater := answer_table htable hsequential call (plan.ledgerAfter calls)
    rw [houtcome] at hlater
    refine ⟨answer_table htable hsequential call {}, hlater, fun hfree => ?_⟩
    rw [replace_place_sequential hsequential hfree]
    exact hlater

end ProbePlan

open Standard in
/-- The first call stops at the fourth id, which is too large for a trace, and leaves its function
current. -/
theorem ProbePlan.answer_ledgerAfter_sample :
    ∃ plan other : ProbePlan, ∃ first second : ProbeCall, ∃ outcome given,
      ((plan.answer first).runOn {}).1 = .error (.idTooLarge 119435) ∧
      (plan.ledgerAfter [first]).placed = 4 ∧
      (plan.ledgerAfter [first]).current = some "f" ∧
      (other.answer second).runOn { placed := 4 } = (outcome, given) ∧
      ((plan.answer second).runOn (plan.ledgerAfter [first])).1 = outcome ∧
      (plan.ledgerAfter [first, second]).counters.get? "f" =
        some [39317, 11696, 18497, 119435] ∧
      (plan.ledgerAfter [first, second]).counters.get? "g" = some [22845] := by
  let plan : ProbePlan := ⟨.trace "trace" 8, .hashed 17, ["f", "g"]⟩
  let other : ProbePlan := ⟨.trace "trace" 8, .hashed 17, ["g", "f"]⟩
  let first : ProbeCall := .func (.sample "f")
  let second : ProbeCall := .func { FuncDecl.sample "g" with body := some [.return []] }
  have hcount : (plan.ledgerAfter [first]).placed = 4 := by decide +kernel
  have htracked : ∀ name, name ∈ other.tracked ↔ name ∈ plan.tracked := by
    intro name
    simp [plan, other, or_comm]
  have hbackend : other.backend = plan.backend := rfl
  have hpolicy : other.policy = plan.policy := rfl
  obtain ⟨houtcome, -, hentries, -, -, -⟩ :=
    answer_ledgerAfter hbackend hpolicy htracked [first] second hcount rfl
  refine ⟨plan, other, first, second, _, _, ?_, hcount, by decide +kernel, rfl, houtcome, ?_, ?_⟩
  · exact eq_error_of_map (by decide +kernel)
  · exact (hentries "f").trans (by decide +kernel)
  · exact (hentries "g").trans (by decide +kernel)

end GoProbe
