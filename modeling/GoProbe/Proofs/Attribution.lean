import Mathlib
import GoProbe.Proofs.ReadingOrder

/-!
# Which function a probe belongs to

The counters of a package list, for each tracked function, the ids of the probes in the probed
copies of the declarations that have its name and a body. There can be several such declarations;
their ids follow each other in the order of the files.

A step says what one declaration adds (`DeclStep.get?_counters`), and a run adds what its steps add
(`get?_counters_of_each`). Under the sequential policy the ids of a package are all different, so
an id names the step that it comes from (`step_unique`).
-/

namespace GoProbe

open Placing (next)

/-! ## Declarations and their bodies -/

namespace Decl

/-- Whether this is the declaration of a function with that name and with a body. -/
def declares (name : String) : Decl → Bool
  | .func f => f.body.isSome && f.qualifiedName == name
  | .gen _ => false

/-- The body of the last declaration. Of all that stands in place of a function, the probed copy
comes last. -/
def lastBody (decls : List Decl) : Block :=
  match decls.getLast? with
  | some (.func f) => f.body.getD []
  | _ => []

theorem declares_func {f : FuncDecl} {name : String} :
    declares name (.func f) = true ↔ f.body.isSome ∧ f.qualifiedName = name := by
  simp [declares]

end Decl

theorem Backend.lastBody_finalize (backend : Backend) (func probed : FuncDecl) :
    Decl.lastBody (backend.finalize func probed).decls = probed.body.getD [] := by
  cases backend <;> rfl

theorem Backend.covers_true (backend : Backend) : backend.covers true = true := by
  cases backend <;> rfl

namespace Ledger

variable [WordHash] (ledger : Ledger) (policy : IdPolicy) (last : Nat)

@[simp] theorem counters_advance_none :
    (ledger.advance policy none last).counters = ledger.counters := rfl

@[simp] theorem counters_advance_some (name : String) :
    (ledger.advance policy (some name) last).counters =
      ledger.counters.append name (policy.idsBetween ledger.placed last) := rfl

end Ledger

/-! ## What a run attributes -/

namespace ProbePlan

variable {plan : ProbePlan}

theorem isTracked_iff {name : String} : plan.isTracked name = true ↔ name ∈ plan.tracked := by
  simp [isTracked]

variable [WordHash]

/-- A step adds the ids of the probed body to the list of its function, if that is tracked. -/
theorem DeclStep.get?_counters {decl : Decl} {decls : List Decl} {before after : Ledger}
    (hstep : plan.DeclStep before decl decls after)
    (hfree : plan.backend.idsOf (decl.walk everywhere) = []) (name : String) :
    after.counters.get? name =
      if name ∈ plan.tracked ∧ decl.declares name then
        some ((before.counters.get? name).getD [] ++
          plan.backend.idsOf (Stmt.walkList everywhere (Decl.lastBody decls)))
      else before.counters.get? name := by
  cases hstep with
  | keptGen _ => simp [Decl.declares]
  | gen _ => simp [Decl.declares]
  | @keptFunc func hkept =>
    rw [if_neg]
    rintro ⟨htracked, hdeclares⟩
    obtain ⟨hbody, rfl⟩ := Decl.declares_func.1 hdeclares
    rw [bodyToProbe?, isTracked_iff.2 htracked, Backend.covers_true, if_pos rfl] at hkept
    simp [hkept] at hbody
  | @func func body hbody =>
    have hfunc := body_of_bodyToProbe? hbody
    rw [Decl.idsOf_walk_func, FuncDecl.idsOf_walkParts, List.append_eq_nil_iff, hfunc] at hfree
    have hids : plan.policy.idsBetween before.placed
          (Stmt.placeBody (next plan.probe) body before.placed).2 =
        plan.backend.idsOf
          (Stmt.walkList everywhere (Stmt.placeBody (next plan.probe) body before.placed).1) := by
      rw [Stmt.placeBody_snd, IdPolicy.idsBetween_add]
      exact (ProbePlan.idsOf_placeBody hfree.2 before.placed).symm
    rw [Backend.lastBody_finalize, Option.getD_some, ← hids, Ledger.counters_leave, owner?]
    by_cases htracked : func.qualifiedName ∈ plan.tracked
    · rw [if_pos (isTracked_iff.2 htracked), Ledger.counters_advance_some, Dict.get?_append]
      by_cases hname : name = func.qualifiedName
      · subst hname
        rw [if_pos rfl, if_pos ⟨htracked, Decl.declares_func.2 ⟨by simp [hfunc], rfl⟩⟩]
      · rw [if_neg hname, if_neg fun h => hname (Decl.declares_func.1 h.2).2.symm]
    · rw [if_neg (mt isTracked_iff.1 htracked), Ledger.counters_advance_none, if_neg]
      rintro ⟨hname, hdeclares⟩
      obtain ⟨-, rfl⟩ := Decl.declares_func.1 hdeclares
      exact htracked hname

end ProbePlan

/-- The ids in the probed bodies of all declarations of a function, in order. -/
def Backend.idsGivenTo (backend : Backend) (name : String) (steps : List (Decl × List Decl)) :
    List Nat :=
  (steps.filter fun step => step.1.declares name).flatMap fun step =>
    backend.idsOf (Stmt.walkList everywhere (Decl.lastBody step.2))

namespace Backend

variable {backend : Backend} {name : String} {steps : List (Decl × List Decl)}

theorem idsGivenTo_cons_of_pos {step : Decl × List Decl} (h : step.1.declares name) :
    backend.idsGivenTo name (step :: steps) =
      backend.idsOf (Stmt.walkList everywhere (Decl.lastBody step.2)) ++
        backend.idsGivenTo name steps := by
  simp [idsGivenTo, h]

theorem idsGivenTo_cons_of_neg {step : Decl × List Decl} (h : ¬ step.1.declares name) :
    backend.idsGivenTo name (step :: steps) = backend.idsGivenTo name steps := by
  simp [idsGivenTo, h]

theorem idsGivenTo_eq_nil (h : ¬ ∃ step ∈ steps, step.1.declares name) :
    backend.idsGivenTo name steps = [] := by
  have hnone : steps.filter (fun step => step.1.declares name) = [] := by
    simpa [List.filter_eq_nil_iff] using h
  rw [idsGivenTo, hnone, List.flatMap_nil]

end Backend

namespace ProbePlan

variable [WordHash] {plan : ProbePlan}

/-- A run adds to the list of a tracked function what its declarations hold. -/
theorem get?_counters_of_each {steps : List (Decl × List Decl)} {before after : Ledger}
    (hrun : Probing.Each plan.probeDecl before steps after)
    (hfree : ∀ step ∈ steps, plan.backend.idsOf (step.1.walk everywhere) = []) (name : String) :
    after.counters.get? name =
      if name ∈ plan.tracked ∧ ∃ step ∈ steps, step.1.declares name then
        some ((before.counters.get? name).getD [] ++ plan.backend.idsGivenTo name steps)
      else before.counters.get? name := by
  induction hrun with
  | nil ledger => simp
  | @cons decl decls steps _ _ _ hstep _ ih =>
    rw [List.forall_mem_cons] at hfree
    rw [ih hfree.2, (declStep_of_probeDecl hstep).get?_counters hfree.1 name]
    by_cases htracked : name ∈ plan.tracked
    · by_cases hdecl : decl.declares name <;> by_cases hrest : ∃ step ∈ steps, step.1.declares name
      · rw [if_pos ⟨htracked, hrest⟩, if_pos ⟨htracked, hdecl⟩,
          if_pos ⟨htracked, _, List.mem_cons_self, hdecl⟩, Backend.idsGivenTo_cons_of_pos hdecl,
          Option.getD_some, List.append_assoc]
      · rw [if_neg (fun h => hrest h.2), if_pos ⟨htracked, hdecl⟩,
          if_pos ⟨htracked, _, List.mem_cons_self, hdecl⟩, Backend.idsGivenTo_cons_of_pos hdecl,
          Backend.idsGivenTo_eq_nil hrest, List.append_nil]
      · have hsome : ∃ step ∈ (decl, decls) :: steps, step.1.declares name := by
          simpa using Or.inr hrest
        rw [if_pos ⟨htracked, hrest⟩, if_neg (fun h => hdecl h.2), if_pos ⟨htracked, hsome⟩,
          Backend.idsGivenTo_cons_of_neg hdecl]
      · have hnone : ¬ ∃ step ∈ (decl, decls) :: steps, step.1.declares name := by
          simpa [hdecl] using hrest
        rw [if_neg (fun h => hrest h.2), if_neg (fun h => hdecl h.2), if_neg (fun h => hnone h.2)]
    · rw [if_neg (fun h => htracked h.1), if_neg (fun h => htracked h.1),
        if_neg (fun h => htracked h.1)]

end ProbePlan

/-! ## Ids that name their step -/

namespace Backend

variable {backend : Backend} {name : String} {steps : List (Decl × List Decl)}

/-- The ids in all that stands in place of a declaration. -/
def idsOfStep (backend : Backend) (step : Decl × List Decl) : List Nat :=
  backend.idsOf (step.2.flatMap (Decl.walk everywhere))

theorem sublist_lastBody (backend : Backend) (step : Decl × List Decl) :
    (backend.idsOf (Stmt.walkList everywhere (Decl.lastBody step.2))).Sublist
      (backend.idsOfStep step) := by
  unfold Decl.lastBody
  split
  · next f hlast =>
    obtain ⟨others, hdecls⟩ := List.getLast?_eq_some_iff.1 hlast
    rw [idsOfStep, hdecls, List.flatMap_append, List.flatMap_singleton, idsOf_append,
      Decl.idsOf_walk_func, FuncDecl.idsOf_walkParts]
    exact (List.sublist_append_right _ _).trans (List.sublist_append_right _ _)
  · exact List.nil_sublist _

theorem sublist_idsGivenTo (backend : Backend) (name : String)
    (steps : List (Decl × List Decl)) :
    (backend.idsGivenTo name steps).Sublist (steps.flatMap backend.idsOfStep) :=
  (List.Sublist.flatMap_right _ fun step _ => backend.sublist_lastBody step).trans
    (List.filter_sublist.flatMap _)

theorem mem_idsGivenTo {id : Nat} (h : id ∈ backend.idsGivenTo name steps) :
    ∃ step ∈ steps, step.1.declares name ∧ id ∈ backend.idsOfStep step := by
  obtain ⟨step, hstep, hid⟩ := List.mem_flatMap.1 h
  rw [List.mem_filter] at hstep
  exact ⟨step, hstep.1, hstep.2, (backend.sublist_lastBody step).subset hid⟩

/-- When the ids of a run are all different, an id stands in one step only. -/
theorem step_unique (hnodup : (steps.flatMap backend.idsOfStep).Nodup)
    {step other : Decl × List Decl} (hstep : step ∈ steps) (hother : other ∈ steps) {id : Nat}
    (hid : id ∈ backend.idsOfStep step) (hid' : id ∈ backend.idsOfStep other) : step = other := by
  by_contra hne
  have hdisjoint := (List.nodup_flatMap.1 hnodup).2
  have hsymm : Std.Symm (Function.onFun List.Disjoint backend.idsOfStep) :=
    ⟨fun _ _ h => List.Disjoint.symm h⟩
  exact hdisjoint.forall hstep hother hne hid hid'

/-- Ids that belong to a function stand in none of the other declarations. -/
theorem declares_of_mem (hnodup : (steps.flatMap backend.idsOfStep).Nodup)
    {step : Decl × List Decl} (hstep : step ∈ steps) {id : Nat}
    (hgiven : id ∈ backend.idsGivenTo name steps) (hid : id ∈ backend.idsOfStep step) :
    step.1.declares name := by
  obtain ⟨other, hother, hdeclares, hid'⟩ := mem_idsGivenTo hgiven
  rw [step_unique hnodup hstep hother hid hid']
  exact hdeclares

end Backend

theorem Decl.declares_unique {decl : Decl} {name other : String} (hname : decl.declares name)
    (hother : decl.declares other) : name = other := by
  cases decl with
  | gen decl => cases hname
  | func f => rw [← (declares_func.1 hname).2, (declares_func.1 hother).2]

/-- The ids of two functions are different. -/
theorem Backend.disjoint_idsGivenTo {backend : Backend} {steps : List (Decl × List Decl)}
    (hnodup : (steps.flatMap backend.idsOfStep).Nodup) {name other : String}
    (hne : name ≠ other) :
    (backend.idsGivenTo name steps).Disjoint (backend.idsGivenTo other steps) := by
  intro id hname hother
  obtain ⟨step, hstep, hdeclares, hid⟩ := mem_idsGivenTo hother
  exact hne (Decl.declares_unique (declares_of_mem hnodup hstep hname hid) hdeclares)

/-! ## The counters of a package -/

/-- Under the sequential policy the ids of a run are all different. -/
theorem ProbePlan.nodup_of_each [WordHash] {plan : ProbePlan} {steps : List (Decl × List Decl)}
    {before after : Ledger} (hrun : Probing.Each plan.probeDecl before steps after)
    (hfree : ∀ step ∈ steps, plan.backend.idsOf (step.1.walk everywhere) = [])
    (hsequential : plan.policy = .sequential) : (steps.flatMap plan.backend.idsOfStep).Nodup := by
  obtain ⟨count, -, hreads⟩ := reads_of_each hrun hfree
  rw [List.flatMap_assoc, Backend.idsOf_flatMap, hsequential, IdPolicy.idsFrom,
    IdPolicy.map_id_sequential] at hreads
  exact hreads ▸ List.nodup_range'

/-- The counters of a package have an entry for each tracked function that some file declares with
a body. It lists the ids of the probes in the probed bodies of all its declarations, in order.
Under the sequential policy these ids are all different, and they stand nowhere else. -/
theorem probePackage_counters [WordHash] {sources : List NamedSource} {settings : ProbeSettings}
    {tracked : List String} {package : ProbedPackage}
    (hfree : ∀ source ∈ sources, settings.backendOf.Free (source.file.walk everywhere))
    (hrun : probePackage sources settings tracked = .ok package) :
    ∃ probed ledger steps,
      ((ProbePlan.ofSettings settings tracked).probeSources sources).runOn {} =
        (.ok probed, ledger) ∧
      Probing.Each (ProbePlan.ofSettings settings tracked).probeDecl {} steps ledger ∧
      steps.map Prod.fst = sources.flatMap (·.file.decls) ∧
      steps.flatMap Prod.snd = probed.flatMap (·.file.decls) ∧
      (∀ name, package.counters.get? name =
        if name ∈ tracked ∧ ∃ decl ∈ sources.flatMap (·.file.decls), decl.declares name then
          some (settings.backendOf.idsGivenTo name steps)
        else none) ∧
      (settings.idPolicy = .sequential → ∀ name ids, package.counters.get? name = some ids →
        ids.Nodup ∧
        (∀ other otherIds, package.counters.get? other = some otherIds → name ≠ other →
          ids.Disjoint otherIds) ∧
        ∀ step ∈ steps, ¬ step.1.declares name →
          ids.Disjoint (settings.backendOf.idsOfStep step)) := by
  obtain ⟨probed, ledger, hprobed, hcounters, -, -⟩ := probePackage_ok hrun
  obtain ⟨steps, hsteps, hfst, hsnd⟩ := ProbePlan.probeSources_ok hprobed
  have hfree := Backend.free_of_sources hfree hfst
  have hdeclared (name : String) : (∃ step ∈ steps, step.1.declares name) ↔
      ∃ decl ∈ sources.flatMap (·.file.decls), decl.declares name := by
    rw [← hfst]
    simp
  have hget (name : String) : package.counters.get? name =
      if name ∈ tracked ∧ ∃ decl ∈ sources.flatMap (·.file.decls), decl.declares name then
        some (settings.backendOf.idsGivenTo name steps)
      else none := by
    rw [hcounters, ProbePlan.get?_counters_of_each hsteps hfree name]
    simp only [hdeclared]
    rfl
  refine ⟨probed, ledger, steps, hprobed, hsteps, hfst, hsnd, hget, fun hsequential => ?_⟩
  have hnodup : (steps.flatMap settings.backendOf.idsOfStep).Nodup :=
    ProbePlan.nodup_of_each hsteps hfree
      (by simp [ProbePlan.ofSettings, ProbeSettings.policy, hsequential])
  have hgiven {name : String} {ids : List Nat} (h : package.counters.get? name = some ids) :
      ids = settings.backendOf.idsGivenTo name steps := by
    rw [hget] at h
    split at h
    · exact (Option.some.inj h).symm
    · cases h
  intro name ids hids
  obtain rfl := hgiven hids
  refine ⟨hnodup.sublist (Backend.sublist_idsGivenTo _ name steps), ?_, ?_⟩
  · intro other otherIds hother hne
    obtain rfl := hgiven hother
    exact Backend.disjoint_idsGivenTo hnodup hne
  · intro step hstep hdeclares id hid hid'
    exact hdeclares (Backend.declares_of_mem hnodup hstep hid hid')

open Standard in
theorem probePackage_counters_sample :
    ∃ package steps,
      probePackage NamedSource.samplePackage { backend := .trace } ["init", "g"] = .ok package ∧
      steps.map Prod.fst = NamedSource.samplePackage.flatMap (·.file.decls) ∧
      package.counters.get? "init" =
        some ((ProbeSettings.backendOf { backend := .trace }).idsGivenTo "init" steps) ∧
      package.counters.get? "g" = none := by
  obtain ⟨package, hrun, -⟩ : ∃ package,
      probePackage NamedSource.samplePackage { backend := .trace } ["init", "g"] = .ok package ∧
        package.probes = 22 :=
    exists_ok_of_toOption (by decide +kernel)
  obtain ⟨_, _, steps, -, -, hfst, -, hget, -⟩ :=
    probePackage_counters (Backend.free_samplePackage _) hrun
  refine ⟨package, steps, hrun, hfst, ?_, ?_⟩
  · rw [hget, if_pos (by decide)]
  · rw [hget, if_neg (by decide)]

end GoProbe
