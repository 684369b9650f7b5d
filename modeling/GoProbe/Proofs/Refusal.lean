import Mathlib
import GoProbe.Probe.Hash
import GoProbe.Proofs.ProbeCount
import GoProbe.Proofs.ProbingRuns
import GoProbe.Settings.Validity

/-!
# When a package is refused

A run can only fail at a probe, and only because of its id. `ProbePlan.Takes` says of a piece of
work how many numbers it uses up, and that it succeeds exactly when a probe can carry the ids of
all of them. The numbers of the parts add up (`Takes.bind`, `Takes.mapM`), so the count of a
package is known from its trees, before any probe is placed.

Valid settings leave one case in which ids can be too large: the trace backend with ids that count
on without end. What remains are the names of the package and of its files.
-/

namespace GoProbe

open Placing (next)

/-! ## Ids that probes can carry -/

namespace IdPolicy

/-- Sixteen bits fit the trace, whatever word they are cut from. -/
theorem lowBits_le_maxTraceId {bits : Nat} (hbits : bits ≤ 16) (word : UInt64) :
    lowBits bits word ≤ Backend.maxTraceId := by
  have hpow : 2 ^ bits ≤ 2 ^ 16 := Nat.pow_le_pow_right (by decide) hbits
  have hlt : word.toNat % 2 ^ bits < 2 ^ bits := Nat.mod_lt _ (Nat.two_pow_pos bits)
  have hmax : 2 ^ 16 = Backend.maxTraceId + 1 := by decide
  rw [lowBits, if_pos (by omega)]
  change word.toNat % 2 ^ bits ≤ Backend.maxTraceId
  omega

end IdPolicy

namespace ProbePlan

variable [WordHash]

/-- Probes can carry the ids of the numbers from `first + 1` to `last`. -/
def Holds (plan : ProbePlan) (first last : Nat) : Prop :=
  ∀ number, first < number → number ≤ last → plan.backend.holds (plan.policy.id number) = true

variable {plan : ProbePlan}

theorem firstRefused?_eq_none_iff {first last : Nat} :
    plan.firstRefused? first last = none ↔ plan.Holds first last := by
  simp only [firstRefused?, List.find?_eq_none, List.mem_range'_1, Bool.not_eq_true',
    Bool.not_eq_false, Holds]
  constructor
  · intro h number hfirst hlast
    exact h number (by omega)
  · intro h number hnumber
    exact h number (by omega) (by omega)

theorem holds_self (plan : ProbePlan) (placed : Nat) : plan.Holds placed placed := by
  intro number hfirst hlast
  omega

/-- The numbers of two pieces of work that follow each other. -/
theorem holds_add {placed first second : Nat} :
    plan.Holds placed (placed + (first + second)) ↔
      plan.Holds placed (placed + first) ∧
        plan.Holds (placed + first) (placed + first + second) := by
  constructor
  · intro h
    exact ⟨fun number hfirst hlast => h number hfirst (by omega),
      fun number hfirst hlast => h number (by omega) (by omega)⟩
  · rintro ⟨hleft, hright⟩ number hfirst hlast
    by_cases hnumber : number ≤ placed + first
    · exact hleft number hfirst hnumber
    · exact hright number (by omega) (by omega)

/-! ## Counting the work -/

/-- The work uses up `count` numbers. It succeeds if probes can carry all their ids, and fails if
not. -/
structure Takes {α : Type} (plan : ProbePlan) (work : Probing α) (count : Nat) : Prop where
  ok {before : Ledger} (hholds : plan.Holds before.placed (before.placed + count)) :
    ∃ a after, work.runOn before = (.ok a, after) ∧ after.placed = before.placed + count
  fails {before : Ledger} (hrefused : ¬ plan.Holds before.placed (before.placed + count)) :
    ∃ err after, work.runOn before = (.error err, after)

variable {α β : Type}

theorem Takes.error_iff {work : Probing α} {count : Nat} (hwork : plan.Takes work count)
    {before : Ledger} :
    (∃ err after, work.runOn before = (.error err, after)) ↔
      ¬ plan.Holds before.placed (before.placed + count) := by
  constructor
  · rintro ⟨err, after, hrun⟩ hholds
    obtain ⟨a, _, hok, -⟩ := hwork.ok hholds
    rw [hrun] at hok
    cases hok
  · exact hwork.fails

theorem Takes.pure (plan : ProbePlan) (a : α) : plan.Takes (Pure.pure a : Probing α) 0 where
  ok {before} _ := ⟨a, before, rfl, rfl⟩
  fails {before} hrefused := absurd (plan.holds_self before.placed) hrefused

theorem Takes.bind {work : Probing α} {next : α → Probing β} {first second : Nat}
    (hwork : plan.Takes work first) (hnext : ∀ a, plan.Takes (next a) second) :
    plan.Takes (work >>= next) (first + second) where
  ok {before} hholds := by
    rw [holds_add] at hholds
    obtain ⟨a, between, hrun, hbetween⟩ := hwork.ok hholds.1
    obtain ⟨b, after, hrest, hafter⟩ := (hnext a).ok (hbetween ▸ hholds.2)
    exact ⟨b, after, Probing.runOn_bind_ok.2 ⟨a, between, hrun, hrest⟩, by omega⟩
  fails {before} hrefused := by
    rw [Probing.runOn_bind]
    by_cases hfirst : plan.Holds before.placed (before.placed + first)
    · obtain ⟨a, between, hrun, hbetween⟩ := hwork.ok hfirst
      rw [hrun]
      refine (hnext a).fails fun hsecond => hrefused (holds_add.2 ⟨hfirst, ?_⟩)
      rwa [hbetween] at hsecond
    · obtain ⟨err, between, hrun⟩ := hwork.fails hfirst
      rw [hrun]
      exact ⟨err, between, rfl⟩

theorem Takes.map {work : Probing α} {count : Nat} (hwork : plan.Takes work count) (f : α → β) :
    plan.Takes (work >>= fun a => Pure.pure (f a)) count :=
  hwork.bind fun a => Takes.pure plan (f a)

theorem Takes.mapM {work : α → Probing β} {count : α → Nat}
    (hwork : ∀ item, plan.Takes (work item) (count item)) (items : List α) :
    plan.Takes (items.mapM work) (items.map count).sum := by
  induction items with
  | nil => exact Takes.pure plan []
  | cons item items ih =>
    rw [List.mapM_cons, List.map_cons, List.sum_cons]
    exact (hwork item).bind fun result => ih.map (result :: ·)

theorem Takes.own {owner : Option String} {work : Probing α} {placing : Placing α} {count : Nat}
    (hwork : plan.entering.Rel work placing)
    (howner : owner = none ∨ ∀ placed, placed < (placing placed).2)
    (hcount : ∀ placed, (placing placed).2 = placed + count) :
    plan.Takes (Probing.own owner >>= fun _ => work) count where
  ok {before} hholds := by
    refine ⟨_, _, (own_ok hwork howner).2 ⟨?_, rfl, rfl⟩, hcount before.placed⟩
    rwa [hcount, firstRefused?_eq_none_iff]
  fails {before} hrefused := by
    rw [← firstRefused?_eq_none_iff, ← hcount, ← Ne, Option.ne_none_iff_exists'] at hrefused
    obtain ⟨number, hnumber⟩ := hrefused
    rw [runOn_own hwork howner, hnumber]
    exact ⟨_, _, rfl⟩

theorem Takes.leave (plan : ProbePlan) : plan.Takes (Probing.own none) 0 where
  ok {before} _ := ⟨(), before.leave, rfl, rfl⟩
  fails {before} hrefused := absurd (plan.holds_self before.placed) hrefused

/-- How many probes a declaration gets. -/
def probesOf (plan : ProbePlan) : Decl → Nat
  | .func func =>
    (plan.bodyToProbe? func).elim 0 fun body => Stmt.probeCount (Stmt.normalizeList body)
  | .gen decl =>
    if decl.kind != .imports && plan.backend.covers false then armCount decl.normalize.arms else 0

theorem takes_probeFunc (plan : ProbePlan) (func : FuncDecl) :
    plan.Takes (plan.probeFunc func) (plan.probesOf (.func func)) := by
  rw [probeFunc_eq, probesOf]
  cases plan.bodyToProbe? func with
  | none => exact Takes.pure plan none
  | some body =>
    exact (Takes.own (Stmt.placeBody_lockstep plan.entering body)
      (.inr (Stmt.lt_placeBody_snd plan.probe body)) (Stmt.placeBody_snd plan.probe body)).bind
        fun placed => (Takes.leave plan).map _

theorem takes_probeDecl (plan : ProbePlan) (decl : Decl) :
    plan.Takes (plan.probeDecl decl) (plan.probesOf decl) := by
  cases decl with
  | func func =>
    change plan.Takes _ (plan.probesOf (.func func) + 0)
    refine (plan.takes_probeFunc func).bind fun result => ?_
    cases result with
    | none => exact Takes.pure plan _
    | some patch => exact Takes.pure plan _
  | gen decl =>
    rw [probeDecl, probesOf]
    split
    · rw [← bind_assoc]
      exact (Takes.own (decl.place_lockstep plan.entering) (.inl rfl)
        (Node.gen decl).counts).map _
    · exact Takes.pure plan _

theorem takes_probeFile (plan : ProbePlan) (file : SourceFile) :
    plan.Takes (plan.probeFile file) (file.decls.map plan.probesOf).sum :=
  (Takes.mapM plan.takes_probeDecl file.decls).map _

theorem takes_probeSources (plan : ProbePlan) (sources : List NamedSource) :
    plan.Takes (plan.probeSources sources)
      (sources.map fun source => (source.file.decls.map plan.probesOf).sum).sum := by
  refine Takes.mapM (fun source => ?_) sources
  exact (plan.takes_probeFile source.file).map _

end ProbePlan

/-! ## Tracked functions -/

/-- The probes of a function that is tracked and has a body. -/
def FuncDecl.trackedProbes (tracked : List String) (func : FuncDecl) : Nat :=
  if func.qualifiedName ∈ tracked then
    func.body.elim 0 fun body => Stmt.probeCount (Stmt.normalizeList body)
  else 0

/-- The probes of all tracked functions of a package. -/
def NamedSource.trackedProbes (tracked : List String) (sources : List NamedSource) : Nat :=
  ((sources.flatMap (·.file.functions)).map (FuncDecl.trackedProbes tracked)).sum

namespace ProbePlan

variable {plan : ProbePlan} {parameter : String} {maxLength : Nat}

/-- The trace backend places probes in tracked functions only. -/
theorem sum_probesOf (hbackend : plan.backend = .trace parameter maxLength) (file : SourceFile) :
    (file.decls.map plan.probesOf).sum =
      (file.functions.map (FuncDecl.trackedProbes plan.tracked)).sum := by
  unfold SourceFile.functions
  induction file.decls with
  | nil => rfl
  | cons decl decls ih =>
    cases decl with
    | func func =>
      simp only [List.map_cons, List.sum_cons, List.filterMap_cons, ih]
      congr 1
      simp only [probesOf, bodyToProbe?, FuncDecl.trackedProbes, hbackend, Backend.covers,
        isTracked, List.contains_iff_mem]
      split <;> rfl
    | gen decl => simp [probesOf, hbackend, Backend.covers, ih]

theorem takes_probeSources_trace [WordHash] (hbackend : plan.backend = .trace parameter maxLength)
    (sources : List NamedSource) :
    plan.Takes (plan.probeSources sources)
      (NamedSource.trackedProbes plan.tracked sources) := by
  have hcount : NamedSource.trackedProbes plan.tracked sources =
      (sources.map fun source => (source.file.decls.map plan.probesOf).sum).sum := by
    simp only [sum_probesOf hbackend, NamedSource.trackedProbes]
    induction sources with
    | nil => rfl
    | cons source sources ih => simp [ih]
  rw [hcount]
  exact plan.takes_probeSources sources

end ProbePlan

/-! ## Valid settings -/

namespace ProbeSettings

variable {settings : ProbeSettings}

theorem bits_le_of_valid (hvalid : settings.fault? = none) (hbackend : settings.backend = .trace)
    (hpolicy : settings.idPolicy = .hashed) : settings.hashBucketBits ≤ 16 := by
  by_contra hbits
  have hrule : settings.backend = .trace ∧ settings.idPolicy = .hashed ∧
      16 < settings.hashBucketBits := ⟨hbackend, hpolicy, by omega⟩
  unfold fault? at hvalid
  split at hvalid <;> cases hvalid

/-- Under valid settings a probe can carry every hash. -/
theorem holds_lowBits (hvalid : settings.fault? = none) (hpolicy : settings.idPolicy = .hashed)
    (word : UInt64) :
    settings.backendOf.holds (IdPolicy.lowBits settings.hashBucketBits word) = true := by
  unfold backendOf
  cases hbackend : settings.backend with
  | table => rfl
  | trace =>
    have hbits := bits_le_of_valid hvalid hbackend hpolicy
    simpa [Backend.holds] using IdPolicy.lowBits_le_maxTraceId hbits word

end ProbeSettings

namespace ProbePlan

variable [WordHash]

/-- A table takes any id, and a trace takes hashes that are cut to fit. -/
theorem holds_ofSettings {settings : ProbeSettings} (hvalid : settings.fault? = none)
    (hsafe : settings.backend = .table ∨ settings.idPolicy = .hashed) (tracked : List String)
    (first last : Nat) : (ofSettings settings tracked).Holds first last := by
  intro number _ _
  cases hpolicy : settings.idPolicy with
  | hashed =>
    have hid : settings.policy.id number =
        IdPolicy.lowBits settings.hashBucketBits (WordHash.hash number.toUInt64) := by
      rw [ProbeSettings.policy, hpolicy]
      rfl
    change settings.backendOf.holds (settings.policy.id number) = true
    rw [hid]
    exact ProbeSettings.holds_lowBits hvalid hpolicy _
  | sequential =>
    have hbackend : settings.backend = .table := by simpa [hpolicy] using hsafe
    change settings.backendOf.holds (settings.policy.id number) = true
    rw [ProbeSettings.backendOf, hbackend]
    rfl

/-- A trace holds as many probes as it has ids. -/
theorem holds_counting_iff {plan : ProbePlan} {parameter : String} {maxLength count : Nat}
    (hbackend : plan.backend = .trace parameter maxLength) (hpolicy : plan.policy = .sequential) :
    plan.Holds 0 count ↔ count ≤ Backend.maxTraceId := by
  have hid (number : Nat) : plan.backend.holds (plan.policy.id number) = true ↔
      number ≤ Backend.maxTraceId := by
    simp [hbackend, hpolicy, Backend.holds, IdPolicy.id]
  simp only [Holds, hid]
  constructor
  · intro h
    rcases Nat.eq_zero_or_pos count with rfl | hpos
    · exact Nat.zero_le _
    · exact h count hpos le_rfl
  · intro h number _ hlast
    exact hlast.trans h

end ProbePlan

/-! ## The names of a package -/

theorem packageName_error_iff {sources : List NamedSource} :
    (∃ err, packageName sources = .error err) ↔
      sources = [] ∨ ∃ source ∈ sources, ∃ other ∈ sources,
        source.file.packageName ≠ other.file.packageName := by
  cases sources with
  | nil => simp [packageName]
  | cons first rest =>
    simp only [packageName, reduceCtorEq, false_or]
    split
    · next other hother =>
      have hne : other.file.packageName ≠ first.file.packageName := by
        simpa using List.find?_some hother
      simp only [Except.error.injEq, exists_eq', true_iff]
      exact ⟨other, List.mem_of_find?_eq_some hother, first, List.mem_cons_self, hne⟩
    · next hnone =>
      have hsame : ∀ source ∈ first :: rest,
          source.file.packageName = first.file.packageName := by
        simpa using hnone
      simp only [reduceCtorEq, exists_false, false_iff]
      rintro ⟨source, hsource, other, hother, hne⟩
      exact hne ((hsame source hsource).trans (hsame other hother).symm)

/-- The backend brings a file whose name one of the sources has. -/
theorem ProbeSettings.supportFiles_taken_iff (settings : ProbeSettings) (package : String)
    (sources : List NamedSource) :
    (∃ file, (settings.backendOf.supportFiles package).find? (fun file =>
        sources.any (·.name == file.name)) = some file) ↔
      settings.backend = .table ∧ ∃ source ∈ sources, source.name = settings.tableFileName := by
  unfold ProbeSettings.backendOf
  cases settings.backend with
  | table => simp [Backend.supportFiles]
  | trace => simp [Backend.supportFiles]

/-! ## The package -/

section

variable [WordHash]

theorem probePackage_error_iff_parts (sources : List NamedSource) (settings : ProbeSettings)
    (tracked : List String) :
    (∃ err, probePackage sources settings tracked = .error err) ↔
      (∃ err, packageName sources = .error err) ∨
      (settings.backend = .table ∧ ∃ source ∈ sources, source.name = settings.tableFileName) ∨
      ∃ err after, ((ProbePlan.ofSettings settings tracked).probeSources sources).runOn {} =
        (.error err, after) := by
  rw [probePackage_eq]
  cases packageName sources with
  | error err => simp
  | ok name =>
    rw [← settings.supportFiles_taken_iff name sources]
    rcases ((ProbePlan.ofSettings settings tracked).probeSources sources).runOn {} with
      ⟨err | probed, ledger⟩
    · simp
    · simp only [reduceCtorEq, exists_false, Prod.mk.injEq, false_and, false_or, or_false]
      split
      · next file hfile => simpa using ⟨file, hfile⟩
      · next hfile => simp [hfile]

/-- Under valid settings a run fails only when a trace runs out of ids. -/
theorem ProbePlan.probeSources_error_iff {settings : ProbeSettings}
    (hvalid : settings.fault? = none) (tracked : List String) (sources : List NamedSource) :
    (∃ err after, ((ofSettings settings tracked).probeSources sources).runOn {} =
        (.error err, after)) ↔
      settings.backend = .trace ∧ settings.idPolicy = .sequential ∧
        65535 < NamedSource.trackedProbes tracked sources := by
  by_cases hsafe : settings.backend = .table ∨ settings.idPolicy = .hashed
  · rw [(takes_probeSources _ sources).error_iff]
    have hholds := holds_ofSettings hvalid hsafe tracked
    constructor
    · intro hrefused
      exact absurd (hholds _ _) hrefused
    · rintro ⟨hbackend, hpolicy, -⟩
      simp [hbackend, hpolicy] at hsafe
  · obtain ⟨hbackend, hpolicy⟩ : settings.backend = .trace ∧ settings.idPolicy = .sequential := by
      cases hbackend : settings.backend <;> cases hpolicy : settings.idPolicy <;>
        simp_all
    have htrace : (ofSettings settings tracked).backend =
        .trace settings.traceParameterName settings.maxTraceLength := by
      simp [ofSettings, ProbeSettings.backendOf, hbackend]
    have hsequential : (ofSettings settings tracked).policy = .sequential := by
      simp [ofSettings, ProbeSettings.policy, hpolicy]
    rw [(takes_probeSources_trace htrace sources).error_iff, Nat.zero_add,
      holds_counting_iff htrace hsequential, Nat.not_le]
    exact ⟨fun h => ⟨hbackend, hpolicy, h⟩, fun h => h.2.2⟩

/-- Probing a package under valid settings fails exactly if there are no files, if two files are
of different packages, if the table would take the name of a file, or if the tracked functions have
more probes than a trace has ids. Hashes never make a run fail, and neither do tables. -/
theorem probePackage_error_iff {settings : Settings} (hvalid : settings.fault? = none)
    (sources : List NamedSource) (tracked : List String) :
    ((∃ err, probePackage sources settings.probe tracked = .error err) ↔
      sources = [] ∨
      (∃ source ∈ sources, ∃ other ∈ sources,
        source.file.packageName ≠ other.file.packageName) ∨
      (settings.probe.backend = .table ∧
        ∃ source ∈ sources, source.name = settings.probe.tableFileName) ∨
      (settings.probe.backend = .trace ∧ settings.probe.idPolicy = .sequential ∧
        65535 < NamedSource.trackedProbes tracked sources)) ∧
    (settings.probe.backend = .table ∨ settings.probe.idPolicy = .hashed →
      ∀ before, ∃ probed after,
        ((ProbePlan.ofSettings settings.probe tracked).probeSources sources).runOn before =
          (.ok probed, after)) ∧
    (settings.probe.idPolicy = .hashed → ∀ word,
      settings.probe.backendOf.holds
        (IdPolicy.lowBits settings.probe.hashBucketBits word) = true) := by
  have hvalid : settings.probe.fault? = none := (Option.or_eq_none_iff.1 hvalid).2
  refine ⟨?_, fun hsafe before => ?_, fun hpolicy word => ?_⟩
  · rw [probePackage_error_iff_parts, packageName_error_iff,
      ProbePlan.probeSources_error_iff hvalid, or_assoc]
  · have hholds := ProbePlan.holds_ofSettings hvalid hsafe tracked
    obtain ⟨probed, after, hrun, -⟩ := (ProbePlan.takes_probeSources _ sources).ok (hholds _ _)
    exact ⟨probed, after, hrun⟩
  · exact ProbeSettings.holds_lowBits hvalid hpolicy word

end

open Standard in
theorem probePackage_error_iff_sample :
    ({ probe := { backend := .trace, idPolicy := .hashed } } : Settings).fault? = none ∧
      ¬ ∃ err, probePackage NamedSource.samplePackage { backend := .trace, idPolicy := .hashed }
        ["init"] = .error err := by
  have hvalid : ({ probe := { backend := .trace, idPolicy := .hashed } } : Settings).fault? =
      none := by decide
  refine ⟨hvalid, ?_⟩
  rw [(probePackage_error_iff hvalid NamedSource.samplePackage ["init"]).1]
  simp [NamedSource.samplePackage]

end GoProbe
