import Mathlib
import GoProbe.CommandLine.Run
import GoProbe.Proofs.IsolatedRuns
import GoProbe.Toml.Reader

/-!
# How a command can end

A command looks at the host, probes the package (`Invocation.probed`) and writes its report last.

* Looking changes nothing. `LooksOnly` says so of a computation and is handed on from step to step,
  so a command that fails before its run leaves the host as it was (`probed_cases`).
* A report is found where it was written (`writeJson_ok`), and one that cannot be written leaves at
  most new directories and a part of it (`writeJson_error`).
* The copy is kept as soon as the run succeeds. So a command that fails leaves no copy and no file,
  unless it is the report that cannot be written: then the copy is left without a report
  (`instrument_outcomes`, `instrument_leaves_copy`).

All this holds whatever goes wrong on the host and whatever programs it has.
-/

namespace GoProbe

variable {host mid after : Host}

/-! ## Reports -/

namespace Host

/-- A path leads to a file that holds this text. -/
def HoldsText (host : Host) (path text : String) : Prop :=
  ∃ place executable, host.locate true path = .ok (.node place (.file text.toUTF8 executable))

theorem HoldsText.readText [Faults] {path text : String} (h : host.HoldsText path text)
    (hallow : host.allow (.read path) = .ok ()) : host.readText path = .ok text := by
  obtain ⟨place, executable, hlocate⟩ := h
  have hread : host.read path = .ok text.toUTF8 := by
    rw [Host.read, hallow, hlocate]
    rfl
  have htext : String.fromUTF8? text.toUTF8 = some text := by
    unfold String.fromUTF8?
    exact dif_pos text.isValidUTF8
  rw [Host.readText, hread]
  simp only [bind, Except.bind, htext]
  rfl

end Host

namespace Run

open Host

variable [Faults]

theorem ensureDir_cases (hwf : host.WellFormed) {path : String} {outcome : Except Failure Unit}
    (h : host.perform (ensureDir path) = (outcome, after)) :
    after.WellFormed ∧ host.Gains after fun _ => True := by
  rw [ensureDir, perform_bind_ok perform_get] at h
  cases hexists : host.pathExists path with
  | true =>
    rw [hexists] at h
    cases h
    exact ⟨hwf, .refl _ _⟩
  | false =>
    rw [hexists] at h
    obtain ⟨result, hmake, -⟩ := perform_onDisk h
    obtain ⟨hmade, hgains, -⟩ := makeDirs_spec hwf hmake
    exact ⟨hmade, hgains.mono fun _ _ => trivial⟩

theorem writeText_cases {path text : String} {outcome : Except Failure Unit}
    (h : host.perform (writeText path text) = (outcome, after)) :
    (∃ failure, outcome = .error failure ∧ after = host) ∨
      ∃ written, host.PutsFile path written after ∧ (outcome = .ok () → written = text.toUTF8) := by
  obtain ⟨result, hwrite, rfl⟩ := perform_onDisk h
  rcases write_cases hwrite with ⟨err, rfl, rfl⟩ | ⟨written, hputs, hwritten⟩
  · exact .inl ⟨_, rfl, rfl⟩
  · exact .inr ⟨written, hputs, fun hok => hwritten (mapError_eq_ok_iff.1 hok)⟩

/-- A value goes to a file beside the others of the working directory as a text does. -/
theorem perform_writeJson {path : String} (hparent : Path.parent? path = some "") (value : Json) :
    host.perform (writeJson path value) =
      host.perform (writeText path (value.pretty ++ "\n")) := by
  unfold writeJson
  rw [hparent]
  rfl

theorem perform_writeText_absent {path : String} {place : Place} (text : String)
    (h : host.locate true path = .ok (.absent place))
    (hfault : Faults.fault? host (.write path) = none) :
    host.perform (writeText path text) =
      (.ok (), host.putNode place (.file text.toUTF8 false)) := by
  have hwrite : host.perform (OnDisk.write path text.toUTF8) =
      (.ok (), host.putNode place (.file text.toUTF8 false)) := by
    rw [OnDisk.write, perform_bind_ok perform_get, h]
    show host.perform (OnDisk.fill (.write path) place text.toUTF8 false) = _
    rw [OnDisk.fill, perform_bind_ok perform_get, hfault]
    rfl
  exact perform_onDisk_eq hwrite

theorem perform_writeText_dir {path : String} {place : Place} (text : String)
    (h : host.locate true path = .ok (.node place .dir)) :
    host.perform (writeText path text) = (.error (.disk path .isDirectory), host) := by
  have hwrite : host.perform (OnDisk.write path text.toUTF8) = (.error .isDirectory, host) := by
    rw [OnDisk.write, perform_bind_ok perform_get, h]
    rfl
  exact perform_onDisk_eq hwrite

/-- A value is written where its path leads, once there is a directory for it. -/
theorem writeJson_cases (hwf : host.WellFormed) {path : String} {value : Json}
    {outcome : Except Failure Unit}
    (h : host.perform (writeJson path value) = (outcome, after)) :
    ∃ made, made.WellFormed ∧ (host.Gains made fun _ => True) ∧
      ((∃ failure, outcome = .error failure ∧ after = made) ∨
        ∃ written, made.PutsFile path written after ∧
          (outcome = .ok () → written = (value.pretty ++ "\n").toUTF8)) := by
  unfold writeJson at h
  generalize value.pretty ++ "\n" = text at h ⊢
  generalize Path.parent? path = above at h
  cases above with
  | none => exact ⟨host, hwf, .refl _ _, writeText_cases h⟩
  | some parent =>
    dsimp only at h
    split at h
    · rcases perform_bind_cases h with ⟨failure, hensure, rfl⟩ | ⟨_, made, hensure, hrest⟩
      · obtain ⟨hafter, hgains⟩ := ensureDir_cases hwf hensure
        exact ⟨after, hafter, hgains, .inl ⟨failure, rfl, rfl⟩⟩
      · obtain ⟨hmade, hgains⟩ := ensureDir_cases hwf hensure
        exact ⟨made, hmade, hgains, writeText_cases hrest⟩
    · exact ⟨host, hwf, .refl _ _, writeText_cases h⟩

/-- What was written is found there, and directories are where they were. -/
theorem writeJson_ok (hwf : host.WellFormed) {path : String} {value : Json}
    (h : host.perform (writeJson path value) = (.ok (), after)) :
    after.HoldsText path (value.pretty ++ "\n") ∧
      ∀ place, host.disk.node? place = some .dir → after.disk.node? place = some .dir := by
  obtain ⟨made, hmade, hgains, ⟨_, hfail, -⟩ | ⟨written, hputs, hwritten⟩⟩ := writeJson_cases hwf h
  · cases hfail
  · obtain rfl := hwritten rfl
    exact ⟨hputs.exists_locate hmade, fun place hdir =>
      hputs.keeps hmade place .dir (hgains.node?_of_some hdir) rfl⟩

/-- A value that cannot be written leaves at most new directories and a part of it. -/
theorem writeJson_error (hwf : host.WellFormed) {path : String} {value : Json} {failure : Failure}
    (h : host.perform (writeJson path value) = (.error failure, after)) :
    host.BreaksOff path after ∧
      ∀ place, host.disk.node? place = some .dir → after.disk.node? place = some .dir := by
  obtain ⟨made, hmade, hgains, ⟨_, -, rfl⟩ | ⟨part, hputs, -⟩⟩ := writeJson_cases hwf h
  · exact ⟨⟨after, hmade, hgains, .inl rfl⟩, fun place => hgains.node?_of_some⟩
  · exact ⟨⟨made, hmade, hgains, .inr ⟨part, hputs⟩⟩, fun place hdir =>
      hputs.keeps hmade place .dir (hgains.node?_of_some hdir) rfl⟩

end Run

/-! ## Steps that only look -/

namespace Host

variable {ε α β : Type}

/-- The computation leaves every host as it is. -/
def LooksOnly (work : ExceptT ε (StateM Host) α) : Prop :=
  ∀ host : Host, (host.perform work).2 = host

theorem looksOnly_pure (a : α) : LooksOnly (pure a : ExceptT ε (StateM Host) α) := fun _ => rfl

theorem looksOnly_get : LooksOnly (get : ExceptT ε (StateM Host) Host) := fun _ => rfl

theorem looksOnly_liftM (result : Except ε α) :
    LooksOnly (liftM result : ExceptT ε (StateM Host) α) := by
  intro host
  rw [perform_liftM]

theorem looksOnly_ofExcept (wrap : ε → Failure) (result : Except ε α) :
    LooksOnly (Run.ofExcept wrap result) := by
  intro host
  rw [perform_ofExcept]

theorem LooksOnly.bind_cases {work : ExceptT ε (StateM Host) α}
    {next : α → ExceptT ε (StateM Host) β} {outcome : Except ε β} (hwork : LooksOnly work)
    (h : host.perform (work >>= next) = (outcome, after)) :
    (∃ err, outcome = .error err ∧ after = host) ∨
      ∃ a, host.perform work = (.ok a, host) ∧ host.perform (next a) = (outcome, after) := by
  have hlast := hwork host
  rcases perform_bind_cases h with ⟨err, hfail, rfl⟩ | ⟨a, last, hok, hnext⟩
  · rw [hfail] at hlast
    exact .inl ⟨err, rfl, hlast⟩
  · rw [hok] at hlast
    obtain rfl : last = host := hlast
    exact .inr ⟨a, hok, hnext⟩

theorem LooksOnly.bind {work : ExceptT ε (StateM Host) α} {next : α → ExceptT ε (StateM Host) β}
    (hwork : LooksOnly work) (hnext : ∀ a, LooksOnly (next a)) : LooksOnly (work >>= next) := by
  intro host
  cases h : host.perform (work >>= next) with
  | mk outcome last =>
    rcases hwork.bind_cases h with ⟨err, -, hsame⟩ | ⟨a, -, hrun⟩
    · exact hsame
    · exact (congrArg Prod.snd hrun).symm.trans (hnext a host)

/-- A step of a command does what its work does. -/
theorem perform_step {context : String} {work : Run α} {result : Except Failure α}
    (h : host.perform work = (result, after)) :
    host.perform (CommandRun.step context work) =
      (result.mapError fun failure => { context, cause := some failure }, after) := by
  simp only [perform, CommandRun.step, ExceptT.run_mk, StateT.run_bind] at h ⊢
  rw [h]
  rfl

theorem step_cases {context : String} {work : Run α} {outcome : Except CommandFailure α}
    (h : host.perform (CommandRun.step context work) = (outcome, after)) :
    ∃ result, host.perform work = (result, after) ∧
      outcome = result.mapError fun failure => { context, cause := some failure } := by
  cases hwork : host.perform work with
  | mk result last =>
    cases (perform_step hwork).symm.trans h
    exact ⟨result, rfl, rfl⟩

theorem LooksOnly.step {context : String} {work : Run α} (hwork : LooksOnly work) :
    LooksOnly (CommandRun.step context work) := by
  intro host
  cases h : host.perform (CommandRun.step context work) with
  | mk outcome last =>
    obtain ⟨result, hrun, -⟩ := step_cases h
    exact (congrArg Prod.snd hrun).symm.trans (hwork host)

variable [Faults]

theorem looksOnly_readText (path : String) : LooksOnly (Run.readText path) :=
  looksOnly_get.bind fun _ => looksOnly_ofExcept _ _

theorem looksOnly_readJson (path : String) (decoder : Json.Decoder α) :
    LooksOnly (Run.readJson path decoder) :=
  (looksOnly_readText path).bind fun _ => looksOnly_ofExcept _ _

theorem looksOnly_loadSettings [Toml.Dialect] (path : String) : LooksOnly (Run.loadSettings path) :=
  (looksOnly_readText path).bind fun _ => looksOnly_ofExcept _ _

end Host

/-! ## How a command can end -/

namespace Invocation

open Host Run

/-- A report names a copy that was made for it. -/
structure NamesCopy (host : Host) (report : ProbeReport) (copy : Place) (after : Host) : Prop where
  named : report.moduleCopy = copy.path
  fresh : host.disk.node? copy = none
  dir : after.disk.node? copy = some .dir

theorem exists_namesCopy_of_probe [Faults] [WordHash] (hwf : host.WellFormed) {resolver : Resolver}
    {request : ProbeRequest} {settings : ProbeSettings} {report : ProbeReport}
    (h : host.perform (probe resolver request settings) = (.ok report, after)) :
    after.WellFormed ∧ ∃ copy, NamesCopy host report copy after := by
  obtain ⟨root, relative, sources, package, copy, mid, _, hprepares, hcopy, hfilled, hadded⟩ :=
    probe_ok hwf h
  rcases hprepares.writeAdded_cases hadded with
    ⟨-, -, -, rfl⟩ | ⟨-, text, result, -, -, hwrite, hresult⟩
  · exact ⟨hfilled.wellFormed, copy.place, hcopy, hfilled.fresh, hfilled.dir⟩
  · cases result with
    | error failure => cases hresult
    | ok path =>
      obtain ⟨hafter, hkeeps⟩ := ModuleCopy.write_ok hfilled.wellFormed hwrite
      exact ⟨hafter, copy.place, hcopy, hfilled.fresh, hkeeps _ _ hfilled.dir rfl⟩

variable [Faults] [Toml.Dialect] {invocation : Invocation}

theorem looksOnly_settings (invocation : Invocation) : LooksOnly invocation.settings := by
  refine LooksOnly.bind ?_ fun _ => looksOnly_liftM _
  unfold baseSettings
  split
  · exact (looksOnly_loadSettings _).step
  · exact looksOnly_get.bind fun _ => looksOnly_pure _

variable [Programs]

omit [Toml.Dialect] in
theorem looksOnly_resolver (settings : Settings) : LooksOnly (resolver settings) :=
  looksOnly_get.bind fun _ => (looksOnly_ofExcept _ _).step

omit [Toml.Dialect] in
theorem ofSettings_of_resolver {settings : Settings} {found : Resolver}
    (h : host.perform (resolver settings) = (.ok found, after)) :
    Resolver.ofSettings host settings.resolver = .ok found := by
  rw [resolver, perform_bind_ok perform_get] at h
  obtain ⟨result, hresult, hok⟩ := step_cases h
  obtain rfl := mapError_eq_ok_iff.1 hok.symm
  rw [perform_ofExcept] at hresult
  exact mapError_eq_ok_iff.1 (congrArg Prod.fst hresult)

variable [WordHash]

theorem perform_instrument {report : ProbeReport} {result : Except Failure Unit}
    (hprobed : host.perform invocation.probed = (.ok report, mid))
    (hwrite : mid.perform (writeJson invocation.results report.toJson) = (result, after)) :
    host.perform invocation.instrument =
      (result.mapError fun failure =>
        { context := s!"Failed to write result to {invocation.results}", cause := some failure },
        after) := by
  rw [instrument, perform_bind_ok hprobed, perform_step hwrite]

/-- What a command finds when it looks at the host. -/
structure Starts (host : Host) (invocation : Invocation) (settings : Settings)
    (request : ProbeRequest) (resolver : Resolver) : Prop where
  configured : host.perform invocation.settings = (.ok settings, host)
  requested : host.perform (readJson invocation.targets ProbeRequest.decoder) = (.ok request, host)
  resolved : Resolver.ofSettings host settings.resolver = .ok resolver

theorem perform_probed {settings : Settings} {request : ProbeRequest} {resolver : Resolver}
    {report : ProbeReport} (h : Starts host invocation settings request resolver)
    (hrun : host.perform (probe resolver request settings.probe) = (.ok report, after)) :
    host.perform invocation.probed = (.ok report, after) := by
  have hresolver : host.perform (Invocation.resolver settings) = (.ok resolver, host) := by
    rw [Invocation.resolver, perform_bind_ok perform_get, perform_step (perform_ofExcept _ _),
      h.resolved]
    rfl
  rw [probed, perform_bind_ok h.configured, perform_bind_ok (perform_step h.requested),
    perform_bind_ok hresolver]
  exact perform_step hrun

/-- Before its run a command changes nothing. -/
theorem probed_cases {outcome : Except CommandFailure ProbeReport}
    (h : host.perform invocation.probed = (outcome, after)) :
    (∃ failure, outcome = .error failure ∧ after = host) ∨
      ∃ settings request resolver result, Starts host invocation settings request resolver ∧
        host.perform (probe resolver request settings.probe) = (result, after) ∧
        outcome = result.mapError fun failure =>
          { context := s!"Failed to instrument {request.package}", cause := some failure } := by
  rcases (looksOnly_settings invocation).bind_cases h with hfail | ⟨settings, hsettings, hread⟩
  · exact .inl hfail
  rcases (looksOnly_readJson _ _).step.bind_cases hread with hfail | ⟨request, hrequest, hresolve⟩
  · exact .inl hfail
  rcases (looksOnly_resolver settings).bind_cases hresolve with hfail | ⟨found, hfound, hprobe⟩
  · exact .inl hfail
  obtain ⟨result, hrun, houtcome⟩ := step_cases hprobe
  obtain ⟨_, hrequested, hok⟩ := step_cases hrequest
  obtain rfl := mapError_eq_ok_iff.1 hok.symm
  exact .inr ⟨settings, request, found, result,
    ⟨hsettings, hrequested, ofSettings_of_resolver hfound⟩, hrun, houtcome⟩

theorem exists_namesCopy (hwf : host.WellFormed) {report : ProbeReport}
    (h : host.perform invocation.probed = (.ok report, after)) :
    after.WellFormed ∧ ∃ copy, NamesCopy host report copy after := by
  rcases probed_cases h with ⟨_, hfail, -⟩ | ⟨settings, request, resolver, result, -, hrun, hok⟩
  · cases hfail
  · obtain rfl := mapError_eq_ok_iff.1 hok.symm
    exact exists_namesCopy_of_probe hwf hrun

/-- The report of a command cannot be written. -/
def FailsOnReport (host : Host) (invocation : Invocation) : Prop :=
  ∃ report mid failure last, host.perform invocation.probed = (.ok report, mid) ∧
    mid.perform (writeJson invocation.results report.toJson) = (.error failure, last)

/-- The file that the backend adds cannot be written. -/
def FailsOnTable (host : Host) (invocation : Invocation) : Prop :=
  ∃ settings request resolver, Starts host invocation settings request resolver ∧
    FailsOnAdded host resolver request settings.probe

/-- What a command leaves that fails before its report: nothing new, or what its run leaves. -/
def LeavesNothing (host : Host) (invocation : Invocation) (after : Host) : Prop :=
  after = host ∨ ∃ settings request resolver, Starts host invocation settings request resolver ∧
    LeavesNoCopy host resolver request settings.probe after

theorem probed_error (hwf : host.WellFormed) {failure : CommandFailure}
    (h : host.perform invocation.probed = (.error failure, after)) :
    LeavesNothing host invocation after ∧
      (¬ FailsOnTable host invocation → host.Gains after fun _ => True) := by
  rcases probed_cases h with
    ⟨_, -, rfl⟩ | ⟨settings, request, resolver, result, hstarts, hrun, herr⟩
  · exact ⟨.inl rfl, fun _ => .refl _ _⟩
  · cases result with
    | ok report => cases herr
    | error cause =>
      refine ⟨.inr ⟨settings, request, resolver, hstarts, leavesNoCopy_of_error hwf hrun⟩,
        fun htable => ?_⟩
      have hadded : ¬ FailsOnAdded host resolver request settings.probe :=
        fun hadded => htable ⟨settings, request, resolver, hstarts, hadded⟩
      exact (gains_of_error hwf hrun (.inl hadded)).mono fun _ _ => trivial

/-- A command that succeeds leaves its report, and the report names a new copy. A command that fails
leaves no copy and, unless it is a file of the backend that cannot be written, every file as it was.
This is not so if its report cannot be written: then it fails, and the copy stays without a
report. -/
theorem instrument_outcomes (hwf : host.WellFormed) {outcome : Except CommandFailure Unit}
    (h : host.perform invocation.instrument = (outcome, after)) :
    (outcome = .ok () → ∃ report mid copy, host.perform invocation.probed = (.ok report, mid) ∧
      after.HoldsText invocation.results (report.toJson.pretty ++ "\n") ∧
      NamesCopy host report copy after) ∧
    (∀ failure, outcome = .error failure → ¬ FailsOnReport host invocation →
      LeavesNothing host invocation after ∧
      (¬ FailsOnTable host invocation → host.Gains after fun _ => True)) ∧
    (FailsOnReport host invocation → ∃ report mid copy failure,
      host.perform invocation.probed = (.ok report, mid) ∧
      outcome = .error { context := s!"Failed to write result to {invocation.results}",
                         cause := some failure } ∧
      mid.BreaksOff invocation.results after ∧ NamesCopy host report copy after) := by
  rw [instrument] at h
  rcases perform_bind_cases h with ⟨failure, hprobed, rfl⟩ | ⟨report, mid, hprobed, hstep⟩
  · refine ⟨fun hok => (by cases hok), fun _ _ _ => probed_error hwf hprobed, ?_⟩
    rintro ⟨_, _, _, _, hok, -⟩
    cases hprobed.symm.trans hok
  · obtain ⟨result, hwrite, rfl⟩ := step_cases hstep
    obtain ⟨hmid, copy, hnamed, hfresh, hdir⟩ := exists_namesCopy hwf hprobed
    cases result with
    | ok _ =>
      obtain ⟨hread, hkeeps⟩ := writeJson_ok hmid hwrite
      refine ⟨fun _ => ⟨report, mid, copy, hprobed, hread, hnamed, hfresh, hkeeps _ hdir⟩,
        fun _ herr => (by cases herr), ?_⟩
      rintro ⟨_, _, _, _, hprobed', hfail⟩
      cases hprobed.symm.trans hprobed'
      cases hwrite.symm.trans hfail
    | error failure =>
      obtain ⟨hbreaks, hkeeps⟩ := writeJson_error hmid hwrite
      refine ⟨fun hok => (by cases hok), fun _ _ hnot => ?_, fun _ => ?_⟩
      · exact absurd ⟨report, mid, failure, after, hprobed, hwrite⟩ hnot
      · exact ⟨report, mid, copy, failure, hprobed, rfl, hbreaks, hnamed, hfresh, hkeeps _ hdir⟩

end Invocation

/-! ## A command on the sample -/

namespace SampleHost

scoped instance dialect : Toml.Dialect := Standard.dialect

/-- The host of the sample has no programs. -/
scoped instance programs : Programs := ⟨fun _ _ => none, fun _ _ _ => .error .notFound⟩

end SampleHost

namespace Invocation

open Host Run SampleHost

/-- A command that probes the sample's package. -/
def sampleInvocation (results : String) : Invocation :=
  { (default : Invocation) with targets := "t.json", results }

/-- What a command on the sample looks up. -/
theorem looks_sample :
    sampleModule.perform (sampleInvocation "").settings = (.ok {}, sampleModule) ∧
      sampleModule.perform (readJson "t.json" ProbeRequest.decoder) =
        (.ok { package := "p" }, sampleModule) ∧
      Path.parent? "r.json" = some "" ∧
      (sampleWritten "ut_cover_table.go").locate true "r.json" = .ok (.absent ["r.json"]) ∧
      Path.parent? "p" = some "" ∧
      (sampleWritten "ut_cover_table.go").locate true "p" = .ok (.node ["p"] .dir) ∧
      (sampleWritten "ut_cover_table.go").disk.node? (sampleCopy "tmp") = some .dir ∧
      "Failed to write result to " ++ "p" = "Failed to write result to p" := by
  decide +kernel

theorem exists_probed_sample (results : String) : ∃ report,
    sampleModule.perform (sampleInvocation results).probed =
      (.ok report, sampleWritten "ut_cover_table.go") := by
  obtain ⟨report, hrun⟩ := exists_probe_default
  have hstarts : Starts sampleModule (sampleInvocation results) {} { package := "p" }
      sampleResolver :=
    ⟨looks_sample.1, looks_sample.2.1, rfl⟩
  exact ⟨report, perform_probed hstarts hrun⟩

theorem instrument_outcomes_sample :
    sampleModule.WellFormed ∧ ∃ after report copy,
      sampleModule.perform (sampleInvocation "r.json").instrument = (.ok (), after) ∧
      after.readText "r.json" = .ok ((ProbeReport.toJson report).pretty ++ "\n") ∧
      NamesCopy sampleModule report copy after := by
  obtain ⟨hwf, -⟩ := found_sample
  obtain ⟨-, -, hparent, habsent, -⟩ := looks_sample
  obtain ⟨report, hprobed⟩ := exists_probed_sample "r.json"
  have hwrite := perform_writeText_absent (report.toJson.pretty ++ "\n") habsent rfl
  rw [← perform_writeJson hparent] at hwrite
  have hrun := perform_instrument hprobed hwrite
  obtain ⟨report, _, copy, -, hread, hcopy⟩ := (instrument_outcomes hwf hrun).1 rfl
  exact ⟨hwf, _, report, copy, hrun, hread.readText rfl, hcopy⟩

/-- Where a directory stands no report can be written. The command fails, and its copy stays. -/
theorem instrument_leaves_copy :
    sampleModule.WellFormed ∧
      sampleModule.disk.node? (sampleCopy "tmp") = none ∧ ∃ after,
      sampleModule.perform (sampleInvocation "p").instrument =
        (.error ⟨"Failed to write result to p", some (.disk "p" .isDirectory)⟩, after) ∧
      after.disk.node? (sampleCopy "tmp") = some .dir := by
  obtain ⟨-, -, -, -, hparent, hdir, hcopy, hcontext⟩ := looks_sample
  refine ⟨found_sample.1, rfl, sampleWritten "ut_cover_table.go", ?_, hcopy⟩
  obtain ⟨report, hprobed⟩ := exists_probed_sample "p"
  have hwrite := perform_writeText_dir (report.toJson.pretty ++ "\n") hdir
  rw [← perform_writeJson hparent] at hwrite
  rw [perform_instrument hprobed hwrite, ← hcontext]
  rfl

end Invocation

end GoProbe
