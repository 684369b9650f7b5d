import Mathlib
import GoProbe.Proofs.Attribution
import GoProbe.Proofs.Renumbering

/-!
# Tracking under the table backend

The table backend probes every function, tracked or not. The list of tracked functions says only
whose ids are entered in the ledger.

So a run that tracks some functions is the run that tracks all of them, seen through a filter.
`Probing.Filtered` says this of a piece of work: on the restricted ledger it has the same outcome,
and it leaves the restriction of what it leaves on the whole one. It is a lockstep
(`ProbePlan.filtering`), so it passes from single probes to declarations, files and packages
(`probePackage_eq_restrict`), and two lists of tracked functions are compared by way of the list of
all.
-/

namespace GoProbe

/-! ## Restricting entries -/

namespace Dict

variable {α : Type}

/-- The bindings of the keys in `names`. -/
def restrict (dict : Dict α) (names : List String) : Dict α where
  entries := dict.entries.filter fun entry => names.contains entry.1
  sorted := dict.sorted.filter _

@[simp] theorem restrict_empty (names : List String) :
    (empty : Dict α).restrict names = empty := rfl

theorem lookup_filter (names : List String) (key : String) (entries : List (String × α)) :
    (entries.filter fun entry => names.contains entry.1).lookup key =
      if key ∈ names then entries.lookup key else none := by
  induction entries with
  | nil => simp
  | cons entry rest ih =>
    obtain ⟨k, value⟩ := entry
    by_cases hk : k ∈ names
    · rw [List.filter_cons_of_pos (by simpa using hk), lookup_cons_eq_ite, lookup_cons_eq_ite, ih]
      by_cases hkey : key = k
      · simp [hkey, hk]
      · simp [hkey]
    · rw [List.filter_cons_of_neg (by simpa using hk), ih, lookup_cons_eq_ite]
      by_cases hkey : key = k
      · simp [hkey, hk]
      · simp [hkey]

theorem get?_restrict (dict : Dict α) (names : List String) (key : String) :
    (dict.restrict names).get? key = if key ∈ names then dict.get? key else none :=
  lookup_filter names key dict.entries

/-- Entries under a key that is left out do not show. -/
theorem restrict_append {α : Type} (dict : Dict (List α)) (names : List String) (key : String)
    (values : List α) :
    (dict.append key values).restrict names =
      if key ∈ names then (dict.restrict names).append key values else dict.restrict names := by
  refine Dict.ext_get? fun other => ?_
  by_cases hkey : key ∈ names
  · rw [if_pos hkey, get?_restrict, get?_append, get?_append, get?_restrict, get?_restrict,
      if_pos hkey]
    by_cases hother : other = key
    · simp [hother, hkey]
    · simp [hother]
  · rw [if_neg hkey, get?_restrict, get?_append, get?_restrict]
    by_cases hother : other = key
    · simp [hother, hkey]
    · simp [hother]

end Dict

namespace Ledger

/-- The ledger with the entries of the functions in `names` only, and no other one current. -/
def restrict (ledger : Ledger) (names : List String) : Ledger :=
  { ledger with
    current := ledger.current.filter (names.contains ·)
    counters := ledger.counters.restrict names }

/-- Entries for a function that is left out are not made at all. -/
theorem restrict_enter (ledger : Ledger) (names : List String) (id : Nat) :
    (ledger.enter id).restrict names = (ledger.restrict names).enter id := by
  obtain ⟨placed, current, counters⟩ := ledger
  cases current with
  | none => rfl
  | some owner =>
    by_cases howner : owner ∈ names
    · simp [enter, restrict, Dict.restrict_append, howner, Option.filter_some]
    · simp [enter, restrict, Dict.restrict_append, howner, Option.filter_some]

end Ledger

/-! ## Runs on a restricted ledger -/

/-- On the restricted ledger `other` has the outcome of `work`, and leaves the restriction of what
`work` leaves. -/
def Probing.Filtered {α : Type} (names : List String) (work other : Probing α) : Prop :=
  ∀ ledger, other.runOn (ledger.restrict names) =
    ((work.runOn ledger).1, (work.runOn ledger).2.restrict names)

namespace ProbePlan

open Probing (Filtered)

variable {plan : ProbePlan} {tableName fileName : String}

/-- The plan with another list of tracked functions. -/
def tracking (plan : ProbePlan) (names : List String) : ProbePlan :=
  { plan with tracked := names }

theorem owner?_tracking {func : FuncDecl} (htracked : func.qualifiedName ∈ plan.tracked)
    (names : List String) :
    (plan.tracking names).owner? func = (plan.owner? func).filter (names.contains ·) := by
  have hall : plan.isTracked func.qualifiedName = true := isTracked_iff.2 htracked
  rw [owner?, owner?, hall, if_pos rfl, Option.filter_some]
  rfl

theorem filtered_own (names : List String) (owner : Option String) :
    Filtered names (Probing.own owner) (Probing.own (owner.filter (names.contains ·))) :=
  fun _ => rfl

variable [WordHash]

/-- Neither the probes nor the refused ids depend on what is tracked. -/
theorem filtered_emit (plan : ProbePlan) (names : List String) :
    Filtered names plan.emit (plan.tracking names).emit := by
  intro ledger
  let id := plan.policy.id (ledger.placed + 1)
  change Probing.runOn (if plan.backend.holds id then return plan.backend.probe id
      else throw (.idTooLarge id)) ((ledger.restrict names).enter id) =
    ((Probing.runOn (if plan.backend.holds id then return plan.backend.probe id
      else throw (.idTooLarge id)) (ledger.enter id)).1,
      (Probing.runOn (if plan.backend.holds id then return plan.backend.probe id
        else throw (.idTooLarge id)) (ledger.enter id)).2.restrict names)
  rw [← Ledger.restrict_enter]
  split <;> rfl

/-- A run goes in lockstep with one that tracks only functions in `names`. -/
def filtering (plan : ProbePlan) (names : List String) :
    Lockstep plan.emit (plan.tracking names).emit where
  Rel := Filtered names
  next := plan.filtered_emit names
  pure _ _ := rfl
  bind {_ _ work _ _ _} hwork hrest ledger := by
    rw [Probing.runOn_bind, Probing.runOn_bind, hwork ledger]
    rcases work.runOn ledger with ⟨err | a, between⟩
    · rfl
    · exact hrest a between

theorem filtered_probeFunc (hbackend : plan.backend = .table tableName fileName)
    {func : FuncDecl} (htracked : func.qualifiedName ∈ plan.tracked) (names : List String) :
    Filtered names (plan.probeFunc func) ((plan.tracking names).probeFunc func) := by
  let lockstep := plan.filtering names
  have hother : (plan.tracking names).backend = .table tableName fileName := hbackend
  have hbody : (plan.tracking names).bodyToProbe? func = plan.bodyToProbe? func := by
    rw [bodyToProbe?_table hbackend, bodyToProbe?_table hother]
  rw [probeFunc_eq, probeFunc_eq, hbody]
  cases plan.bodyToProbe? func with
  | none => exact lockstep.pure none
  | some body =>
    rw [owner?_tracking htracked]
    exact lockstep.bind (lockstep.bind (filtered_own names _) fun _ =>
      Stmt.placeBody_lockstep lockstep body) fun _ => lockstep.map (filtered_own names none) _

theorem filtered_probeDecl (hbackend : plan.backend = .table tableName fileName) {decl : Decl}
    (htracked : ∀ func, decl = .func func → func.qualifiedName ∈ plan.tracked)
    (names : List String) :
    Filtered names (plan.probeDecl decl) ((plan.tracking names).probeDecl decl) := by
  let lockstep := plan.filtering names
  cases decl with
  | func func =>
    refine lockstep.bind (filtered_probeFunc hbackend (htracked func rfl) names) fun result => ?_
    cases result with
    | none => exact lockstep.pure _
    | some patch => exact lockstep.pure _
  | gen decl =>
    have hcovers : (plan.tracking names).backend.covers false = plan.backend.covers false := rfl
    rw [probeDecl, probeDecl, hcovers]
    split
    · exact lockstep.bind (filtered_own names none) fun _ =>
        lockstep.map (decl.place_lockstep lockstep) _
    · exact lockstep.pure _

theorem filtered_probeFile (hbackend : plan.backend = .table tableName fileName)
    {file : SourceFile} (htracked : ∀ func ∈ file.functions, func.qualifiedName ∈ plan.tracked)
    (names : List String) :
    Filtered names (plan.probeFile file) ((plan.tracking names).probeFile file) := by
  let lockstep := plan.filtering names
  refine lockstep.map (lockstep.mapM fun decl hdecl => ?_) _
  refine filtered_probeDecl hbackend (fun func hfunc => htracked func ?_) names
  exact List.mem_filterMap.2 ⟨decl, hdecl, hfunc ▸ rfl⟩

theorem filtered_probeSources (hbackend : plan.backend = .table tableName fileName)
    {sources : List NamedSource}
    (htracked : ∀ source ∈ sources, ∀ func ∈ source.file.functions,
      func.qualifiedName ∈ plan.tracked) (names : List String) :
    Filtered names (plan.probeSources sources) ((plan.tracking names).probeSources sources) :=
  (plan.filtering names).mapM fun source hsource =>
    (plan.filtering names).map (filtered_probeFile hbackend (htracked source hsource) names) _

end ProbePlan

/-! ## Packages -/

/-- The names of all functions and methods that the files declare. -/
def functionNames (sources : List NamedSource) : List String :=
  sources.flatMap fun source => source.file.functions.map FuncDecl.qualifiedName

theorem mem_functionNames {sources : List NamedSource} {source : NamedSource} {func : FuncDecl}
    (hsource : source ∈ sources) (hfunc : func ∈ source.file.functions) :
    func.qualifiedName ∈ functionNames sources :=
  List.mem_flatMap.2 ⟨source, hsource, List.mem_map_of_mem hfunc⟩

/-- The package with the counters of the functions in `names` only. -/
def ProbedPackage.restrict (package : ProbedPackage) (names : List String) : ProbedPackage :=
  { package with counters := package.counters.restrict names }

/-- Tracking some functions is tracking all of them and looking at some. -/
theorem probePackage_eq_restrict [WordHash] {settings : ProbeSettings}
    (htable : settings.backend = .table) (sources : List NamedSource) (tracked : List String) :
    probePackage sources settings tracked =
      (probePackage sources settings (functionNames sources)).map (·.restrict tracked) := by
  have hbackend : (ProbePlan.ofSettings settings (functionNames sources)).backend =
      .table settings.counterTableName settings.tableFileName := by
    simp [ProbePlan.ofSettings, ProbeSettings.backendOf, htable]
  have hrun := ProbePlan.filtered_probeSources hbackend
    (fun _ hsource _ hfunc => mem_functionNames hsource hfunc) tracked {}
  rw [probePackage_eq, probePackage_eq]
  cases packageName sources with
  | error err => rfl
  | ok name =>
    have hplan : (ProbePlan.ofSettings settings (functionNames sources)).tracking tracked =
        ProbePlan.ofSettings settings tracked := rfl
    have hempty : ({} : Ledger).restrict tracked = {} := rfl
    rw [hplan, hempty] at hrun
    simp only [hrun]
    rcases ((ProbePlan.ofSettings settings (functionNames sources)).probeSources sources).runOn {}
      with ⟨err | probed, ledger⟩
    · rfl
    · dsimp only
      split <;> rfl

/-- Of the names only the set counts. -/
theorem Dict.restrict_congr {α : Type} (dict : Dict α) {names others : List String}
    (h : ∀ name, name ∈ names ↔ name ∈ others) : dict.restrict names = dict.restrict others :=
  Dict.ext_get? fun key => by simp only [Dict.get?_restrict, h]

/-- Under the table backend the list of tracked functions decides which counters are listed and
nothing else: two lists give the same error, or the same files, the same number of probes, and the
same ids for each function that is in both. The counters are those of the run that tracks every
function, restricted to the list, so its order and repetitions in it do not matter. -/
theorem probePackage_tracked [WordHash] {settings : ProbeSettings}
    (htable : settings.backend = .table) (sources : List NamedSource) (first second : List String) :
    (match probePackage sources settings first, probePackage sources settings second with
      | .ok package, .ok other =>
        package.name = other.name ∧ package.files = other.files ∧
          package.probes = other.probes ∧
          ∀ name ∈ first, name ∈ second →
            package.counters.get? name = other.counters.get? name
      | .error err, .error other => err = other
      | _, _ => False) ∧
    probePackage sources settings first =
      (probePackage sources settings (functionNames sources)).map (·.restrict first) ∧
    ((∀ name, name ∈ first ↔ name ∈ second) →
      probePackage sources settings first = probePackage sources settings second) := by
  refine ⟨?_, probePackage_eq_restrict htable sources first, fun hsame => ?_⟩
  · rw [probePackage_eq_restrict htable sources first,
      probePackage_eq_restrict htable sources second]
    cases probePackage sources settings (functionNames sources) with
    | error err => rfl
    | ok package =>
      refine ⟨rfl, rfl, rfl, fun name hfirst hsecond => ?_⟩
      simp only [ProbedPackage.restrict, Dict.get?_restrict, if_pos hfirst, if_pos hsecond]
  · have hrestrict : (ProbedPackage.restrict · first) = (ProbedPackage.restrict · second) :=
      funext fun package => by
        rw [ProbedPackage.restrict, ProbedPackage.restrict,
          Dict.restrict_congr package.counters hsame]
    rw [probePackage_eq_restrict htable sources first,
      probePackage_eq_restrict htable sources second, hrestrict]

open Standard in
theorem probePackage_tracked_sample :
    ∃ package other,
      probePackage NamedSource.samplePackage {} ["init"] = .ok package ∧
      probePackage NamedSource.samplePackage {} ["g", "init", "init"] = .ok other ∧
      package.files = other.files ∧ package.probes = other.probes ∧
      package.counters.get? "init" = other.counters.get? "init" ∧
      package.counters.get? "init" ≠ none := by
  obtain ⟨package, hpackage, hids⟩ : ∃ package,
      probePackage NamedSource.samplePackage {} ["init"] = .ok package ∧
        (package.counters.get? "init").isSome = true :=
    exists_ok_of_toOption (by decide +kernel)
  obtain ⟨other, hother, -⟩ : ∃ other,
      probePackage NamedSource.samplePackage {} ["g", "init", "init"] = .ok other ∧
        other.probes = 23 := exists_ok_of_toOption (by decide +kernel)
  have htable : ({} : ProbeSettings).backend = .table := rfl
  have hboth :=
    probePackage_tracked htable NamedSource.samplePackage ["init"] ["g", "init", "init"]
  rw [hpackage, hother] at hboth
  obtain ⟨⟨-, hfiles, hprobes, hcounters⟩, -⟩ := hboth
  exact ⟨package, other, hpackage, hother, hfiles, hprobes,
    hcounters "init" (by decide) (by decide), Option.isSome_iff_ne_none.1 hids⟩

end GoProbe
