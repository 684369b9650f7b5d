import Mathlib
import GoProbe.Proofs.NamedRequests
import GoProbe.Proofs.ProbedCopies
import GoProbe.Proofs.Refusal

/-!
# The steps of a probing run

A run that probes a package looks at the host first and changes nothing by it (`Run.Prepares`). Then
it delivers: it copies the module and writes the files of the package into the copy, first the
probed sources, last the file that the backend adds.

`probe_cases` and `deliver_cases` say how a run can end. It fails before it has written anything, or
with its copy removed, or all sources are in the copy (`ModuleCopy.Filled`) and what is left to do
is to write the file that the backend adds.
-/

namespace GoProbe

variable {host mid after : Host}

/-! ## The files of a probed package -/

namespace ProbedPackage

variable {sources : List NamedSource} {settings : ProbeSettings} {tracked : List String}
  {package : ProbedPackage}

/-- The files of a package that stem from its sources. -/
def probedFiles (package : ProbedPackage) (sources : List NamedSource) : List PrintedFile :=
  package.files.take sources.length

/-- The files of a package that the backend has added. -/
def addedFiles (package : ProbedPackage) (sources : List NamedSource) : List PrintedFile :=
  package.files.drop sources.length

theorem files_eq (package : ProbedPackage) (sources : List NamedSource) :
    package.files = package.probedFiles sources ++ package.addedFiles sources :=
  (List.take_append_drop sources.length package.files).symm

variable [WordHash]

theorem map_name_probeSources {plan : ProbePlan} {probed : List NamedSource} {before after : Ledger}
    (h : (plan.probeSources sources).runOn before = (.ok probed, after)) :
    probed.map (·.name) = sources.map (·.name) := by
  obtain ⟨steps, hsteps, rfl, rfl⟩ := Probing.each_of_mapM h
  clear h
  induction hsteps with
  | nil ledger => rfl
  | @cons source result rest _ _ _ hstep _ ih =>
    rw [Probing.runOn_bind_ok] at hstep
    obtain ⟨file, between, -, hresult⟩ := hstep
    obtain ⟨rfl, rfl⟩ := Probing.runOn_pure_ok.1 hresult
    simp only [List.map_cons, ih]

/-- The probed files have the names of the sources, in their order. A table comes with one more
file, whose name no source has, and a trace with none. -/
theorem files_of_probePackage (h : probePackage sources settings tracked = .ok package) :
    (package.probedFiles sources).map (·.name) = sources.map (·.name) ∧
      (settings.backend = .trace ∧ package.addedFiles sources = [] ∨
        settings.backend = .table ∧
          (∃ text, package.addedFiles sources = [⟨settings.tableFileName, text⟩]) ∧
          ∀ source ∈ sources, source.name ≠ settings.tableFileName) := by
  obtain ⟨probed, ledger, hrun, -, -, hfiles⟩ := probePackage_ok h
  have hnames := map_name_probeSources hrun
  have hlength : (probed.map fun source => PrintedFile.mk source.name source.file.print).length =
      sources.length := by
    simpa using congrArg List.length hnames
  have hprobed : package.probedFiles sources =
      probed.map fun source => ⟨source.name, source.file.print⟩ := by
    rw [probedFiles, hfiles, ← hlength, List.take_left]
  have hadded : package.addedFiles sources =
      (settings.backendOf.supportFiles package.name).map fun file =>
        ⟨file.name, file.file.print⟩ := by
    rw [addedFiles, hfiles, ← hlength, List.drop_left]
  have htaken : ¬ (settings.backend = .table ∧
      ∃ source ∈ sources, source.name = settings.tableFileName) := by
    intro htaken
    obtain ⟨err, herr⟩ := (probePackage_error_iff_parts sources settings tracked).2
      (.inr (.inl htaken))
    cases herr.symm.trans h
  refine ⟨?_, ?_⟩
  · rw [hprobed, List.map_map, ← hnames]
    rfl
  · rw [hadded]
    unfold ProbeSettings.backendOf
    cases hbackend : settings.backend with
    | trace => exact .inl ⟨rfl, rfl⟩
    | table =>
      refine .inr ⟨rfl, ⟨_, rfl⟩, fun source hsource hname => ?_⟩
      exact htaken ⟨hbackend, source, hsource, hname⟩

end ProbedPackage

/-! ## What is looked at first -/

theorem mapError_eq_ok_iff {ε ε' α : Type} {f : ε → ε'} {result : Except ε α} {a : α} :
    result.mapError f = .ok a ↔ result = .ok a := by
  cases result <;> simp [Except.mapError]

theorem map_of_mapM_eq_ok {ε α β : Type} {f : α → Except ε β} {g : β → α} {items : List α}
    {results : List β} (hf : ∀ a b, f a = .ok b → g b = a) (h : items.mapM f = .ok results) :
    results.map g = items := by
  induction items generalizing results with
  | nil =>
    cases h
    rfl
  | cons item items ih =>
    obtain ⟨b, rest, hitem, hrest, rfl⟩ := mapM_cons_eq_ok_iff.1 h
    rw [List.map_cons, hf item b hitem, ih hrest]

namespace Host

theorem prefix_of_moduleRoot? [Faults] {start root : Place}
    (h : host.moduleRoot? start = some root) : root <+: start := by
  obtain ⟨count, -, rfl⟩ := List.mem_map.1 (List.mem_of_find?_eq_some h)
  exact List.take_prefix count start

/-- Nothing stands at a place and below it. -/
def Lacks (host : Host) (place : Place) : Prop :=
  ∀ other, place <+: other → host.disk.node? other = none

theorem lacks_without {place : Place} (hne : place ≠ []) : (host.without place).Lacks place := by
  intro other hother
  refine Disk.node?_remove_below ?_ hother
  rintro rfl
  exact hne (List.prefix_nil.1 hother)

/-- A place that a path leads to is where its own path leads. -/
theorem locate_path_of_place [Faults] (hwf : host.WellFormed) {path : String} {place : Place}
    (h : host.place path = .ok place) :
    ∃ node, host.locate true place.path = .ok (.node place node) := by
  obtain ⟨node, hlocate⟩ := ModuleCopy.exists_of_place h
  refine ⟨node, Disk.locate_path hwf.disk (hwf.stands hlocate).node? ?_⟩
  rintro target rfl
  exact Disk.locate_ne_link hlocate target rfl

end Host

namespace Run

open Host ModuleCopy

variable [Faults]

/-- What a run finds out before it changes anything: the package in its module, the trees of its
sources and what they are probed to. -/
structure Prepares [WordHash] (host : Host) (resolver : Resolver) (request : ProbeRequest)
    (settings : ProbeSettings) (root relative : Place) (sources : List NamedSource)
    (package : ProbedPackage) : Prop where
  found : host.place request.package = .ok (root ++ relative)
  belongs : host.moduleRoot? (root ++ relative) = some root
  loaded : host.perform (resolvedSources resolver (Place.path (root ++ relative))
    settings.excludePatterns) = (.ok sources, host)
  probed : probePackage sources settings request.tracked = .ok package

theorem findModule_bind_cases {β : Type} {path : String} {next : Place → Run β}
    {outcome : Except Failure β}
    (h : host.perform (findModule path >>= next) = (outcome, after)) :
    (∃ failure, outcome = .error failure ∧ after = host) ∨
      ∃ root relative, host.place path = .ok (root ++ relative) ∧
        host.moduleRoot? (root ++ relative) = some root ∧
        host.perform (next root) = (outcome, after) := by
  rw [findModule, bind_assoc] at h
  rcases placeOf_bind_cases h with hfail | ⟨start, hstart, hrest⟩
  · exact .inl hfail
  rw [bind_assoc, perform_bind_ok perform_get] at hrest
  cases hroot : host.moduleRoot? start with
  | none =>
    rw [hroot] at hrest
    cases hrest
    exact .inl ⟨_, rfl, rfl⟩
  | some root =>
    rw [hroot] at hrest
    obtain ⟨relative, rfl⟩ := prefix_of_moduleRoot? hroot
    exact .inr ⟨root, relative, hstart, hroot, hrest⟩

/-- Listing the sources changes nothing, and lists files of the directory, each once. -/
theorem sourceNames_cases {dir : String} {exclude : List String}
    {outcome : Except Failure (List String)}
    (h : host.perform (sourceNames dir exclude) = (outcome, after)) :
    after = host ∧ ∀ names, outcome = .ok names →
      ∃ place, host.place dir = .ok place ∧ names.Sublist (host.fileNames place) := by
  rw [sourceNames] at h
  rcases ofExcept_bind_cases h with ⟨failure, rfl, rfl⟩ | ⟨excluded, -, hrest⟩
  · exact ⟨rfl, fun _ hok => by cases hok⟩
  rw [perform_bind_ok perform_get] at hrest
  rcases ofExcept_bind_cases hrest with ⟨failure, rfl, rfl⟩ | ⟨listed, hlisted, hrest⟩
  · exact ⟨rfl, fun _ hok => by cases hok⟩
  cases hrest
  refine ⟨rfl, fun names hok => ?_⟩
  cases hok
  obtain ⟨place, hplace, hrest⟩ := bind_eq_ok_iff.1 hlisted
  obtain ⟨_, -, hreturn⟩ := bind_eq_ok_iff.1 hrest
  cases hreturn
  exact ⟨place, hplace, List.filter_sublist⟩

/-- Loading the sources changes nothing, and keeps their names. -/
theorem resolvedSources_cases {resolver : Resolver} {dir : String} {exclude : List String}
    {outcome : Except Failure (List NamedSource)}
    (h : host.perform (resolvedSources resolver dir exclude) = (outcome, after)) :
    after = host ∧ ∀ sources, outcome = .ok sources →
      ∃ place, host.place dir = .ok place ∧
        (sources.map (·.name)).Sublist (host.fileNames place) := by
  rw [resolvedSources] at h
  rcases perform_bind_cases h with ⟨failure, hnames, rfl⟩ | ⟨names, last, hnames, hrest⟩
  · exact ⟨(sourceNames_cases hnames).1, fun _ hok => by cases hok⟩
  obtain ⟨rfl, hplace⟩ := sourceNames_cases hnames
  rw [perform_bind_ok perform_get, perform_ofExcept] at hrest
  cases hrest
  refine ⟨rfl, fun sources hok => ?_⟩
  obtain ⟨place, hplace, hsublist⟩ := hplace names rfl
  refine ⟨place, hplace, ?_⟩
  have hnames : sources.map (·.name) = names := by
    refine map_of_mapM_eq_ok (fun name source hsource => ?_) (mapError_eq_ok_iff.1 hok)
    obtain ⟨file, -, hreturn⟩ := bind_eq_ok_iff.1 hsource
    cases hreturn
    rfl
  rw [hnames]
  exact hsublist

/-! ## Delivering -/

/-- The path below which a run makes its copy, and the paths above it. -/
def outputPaths (host : Host) (settings : ProbeSettings) : List String :=
  let outputRoot := settings.outputRoot.getD host.tempDir
  Path.ancestors (outputRoot.length + 1) outputRoot

/-- A copy of the module at `root` is made. -/
def MakesCopy (host : Host) (settings : ProbeSettings) (root : Place) (copy : ModuleCopy) : Prop :=
  ∃ copied,
    host.perform (create root.path (settings.outputRoot.getD host.tempDir)) = (.ok copy, copied)

/-- The module has been copied and the probed sources are written. -/
def WritesSources (host : Host) (settings : ProbeSettings) (root relative : Place)
    (files : List PrintedFile) (copy : ModuleCopy) (mid : Host) : Prop :=
  ∃ copied paths,
    host.perform (create root.path (settings.outputRoot.getD host.tempDir)) = (.ok copy, copied) ∧
    copied.perform (copy.writeFiles ("/".intercalate relative) files) = (.ok paths, mid)

theorem ne_nil_of_create (hwf : host.WellFormed) {root outputRoot : String} {copy : ModuleCopy}
    (h : host.perform (create root outputRoot) = (.ok copy, after)) : copy.place ≠ [] := by
  obtain ⟨made, -, -, ⟨_, hfail, -⟩ | ⟨_, _, base, hok, -, hopens, -⟩⟩ := create_cases hwf h
  · cases hfail
  · cases hok
    exact hopens.ne_nil

/-- Files are written one after another, so the first of them are written, or none of the others
is. -/
theorem writeFiles_append_cases {β : Type} {copy : ModuleCopy} {relative : String}
    {files others : List PrintedFile} {b : β} {outcome : Except Failure β}
    (h : host.perform (do let _ ← copy.writeFiles relative (files ++ others); return b : Run β) =
      (outcome, after)) :
    (∃ failure, outcome = .error failure ∧
        host.perform (copy.writeFiles relative files) = (.error failure, after)) ∨
      ∃ paths mid, host.perform (copy.writeFiles relative files) = (.ok paths, mid) ∧
        ((∃ failure, outcome = .error failure ∧
            mid.perform (copy.writeFiles relative others) = (.error failure, after)) ∨
          ∃ more, outcome = .ok b ∧
            mid.perform (copy.writeFiles relative others) = (.ok more, after)) := by
  rw [writeFiles, List.mapM_append, bind_assoc] at h
  rcases perform_bind_cases h with ⟨failure, hfiles, rfl⟩ | ⟨paths, mid, hfiles, hrest⟩
  · exact .inl ⟨failure, rfl, hfiles⟩
  refine .inr ⟨paths, mid, hfiles, ?_⟩
  rw [bind_assoc] at hrest
  rcases perform_bind_cases hrest with ⟨failure, hothers, rfl⟩ | ⟨more, last, hothers, hreturn⟩
  · exact .inl ⟨failure, rfl, hothers⟩
  · cases hreturn
    exact .inr ⟨more, rfl, hothers⟩

theorem perform_writeFiles_singleton {copy : ModuleCopy} {relative : String} {file : PrintedFile}
    {outcome : Except Failure (List String)}
    (h : host.perform (copy.writeFiles relative [file]) = (outcome, after)) :
    ∃ result, host.perform (copy.write (Path.join relative file.name) file.text) =
        (result, after) ∧ outcome = result.map ([·]) := by
  rw [writeFiles, List.mapM_cons] at h
  rcases perform_bind_cases h with ⟨failure, hwrite, rfl⟩ | ⟨path, mid, hwrite, hrest⟩
  · exact ⟨_, hwrite, rfl⟩
  · rw [List.mapM_nil, pure_bind, perform_pure] at hrest
    cases hrest
    exact ⟨_, hwrite, rfl⟩

theorem perform_deliver {settings : ProbeSettings} {root dir : Place} {package : ProbedPackage}
    {copy : ModuleCopy} {paths : List String}
    (hcreate : host.perform (create root.path (settings.outputRoot.getD host.tempDir)) =
      (.ok copy, mid))
    (hwrite : mid.perform (copy.writeFiles (root.relativePath dir) package.files) =
      (.ok paths, after)) :
    host.perform (deliver settings root dir package) =
      (.ok ⟨Path.join copy.path (root.relativePath dir), copy.path, package.counters⟩, after) := by
  rw [deliver, perform_bind_ok perform_get, perform_bind_ok hcreate]
  refine perform_orRemove_ok ?_
  rw [perform_bind_ok hwrite, perform_pure]

/-! ## What was found out -/

variable [WordHash]

namespace Prepares

variable {resolver : Resolver} {request : ProbeRequest} {settings : ProbeSettings}
  {root relative : Place} {sources : List NamedSource} {package : ProbedPackage}
  (hwf : host.WellFormed)
  (h : Prepares host resolver request settings root relative sources package)
include hwf h

theorem named : Place.Named (root ++ relative) := by
  obtain ⟨node, hlocate⟩ := exists_of_place h.found
  exact hwf.disk.named _ _ (hwf.stands hlocate).node?

/-- The sources are files of the package, and have different names. -/
theorem sublist_fileNames :
    (sources.map (·.name)).Sublist (host.fileNames (root ++ relative)) := by
  obtain ⟨-, hnames⟩ := resolvedSources_cases h.loaded
  obtain ⟨place, hplace, hsublist⟩ := hnames sources rfl
  obtain ⟨_, hlocate⟩ := exists_of_place hplace
  obtain ⟨_, hpath⟩ := locate_path_of_place hwf h.found
  cases hlocate.symm.trans hpath
  exact hsublist

/-- The probed files replace files of the package, each one of its own. -/
theorem probedFiles_spec :
    (∀ file ∈ package.probedFiles sources, Place.Named (Path.pieces file.name) ∧
      ∃ content executable, host.disk.node? (root ++ (relative ++ Path.pieces file.name)) =
        some (.file content executable)) ∧
      ((package.probedFiles sources).map (·.name)).Nodup := by
  have hsublist := h.sublist_fileNames hwf
  rw [← (ProbedPackage.files_of_probePackage h.probed).1] at hsublist
  refine ⟨fun file hfile => ?_, hsublist.nodup (nodup_fileNames hwf _)⟩
  obtain ⟨content, executable, hnode⟩ :=
    (mem_fileNames hwf).1 (hsublist.subset (List.mem_map_of_mem hfile))
  have hname : Path.IsName file.name := hwf.disk.named _ _ hnode _ (by simp)
  rw [Path.pieces_name hname, ← List.append_assoc]
  exact ⟨Place.named_singleton.2 hname, content, executable, hnode⟩

end Prepares

/-! ## The steps of a run -/

/-- A run that gets ready goes on to copy the module; before that it changes nothing. -/
theorem probe_cases {resolver : Resolver} {request : ProbeRequest} {settings : ProbeSettings}
    {outcome : Except Failure ProbeReport}
    (h : host.perform (probe resolver request settings) = (outcome, after)) :
    (∃ failure, outcome = .error failure ∧ after = host) ∨
      ∃ root relative sources package,
        Prepares host resolver request settings root relative sources package ∧
        host.perform (deliver settings root (root ++ relative) package) = (outcome, after) := by
  rw [probe] at h
  rcases findModule_bind_cases h with hfail | ⟨root, relative, hfound, hroot, hrest⟩
  · exact .inl hfail
  rcases placeOf_bind_cases hrest with hfail | ⟨dir, hdir, hrest⟩
  · exact .inl hfail
  cases hdir.symm.trans hfound
  rcases perform_bind_cases hrest with
    ⟨failure, hsources, rfl⟩ | ⟨sources, last, hsources, hprobing⟩
  · exact .inl ⟨failure, rfl, (resolvedSources_cases hsources).1⟩
  obtain ⟨rfl, -⟩ := resolvedSources_cases hsources
  rcases ofExcept_bind_cases hprobing with hfail | ⟨package, hpackage, hdeliver⟩
  · exact .inl hfail
  · exact .inr ⟨root, relative, sources, package, ⟨hfound, hroot, hsources, hpackage⟩, hdeliver⟩

/-- What gets ready is delivered. -/
theorem perform_probe_of_prepares {resolver : Resolver} {request : ProbeRequest}
    {settings : ProbeSettings} {root relative : Place} {sources : List NamedSource}
    {package : ProbedPackage}
    (h : Prepares host resolver request settings root relative sources package) :
    host.perform (probe resolver request settings) =
      host.perform (deliver settings root (root ++ relative) package) := by
  have hplaceOf := perform_placeOf_ok h.found
  have hmodule : host.perform (findModule request.package) = (.ok root, host) := by
    rw [findModule, perform_bind_ok hplaceOf, perform_bind_ok perform_get, h.belongs]
    rfl
  have hpackage : host.perform (ofExcept .probing (probePackage sources settings request.tracked)) =
      (.ok package, host) := by
    rw [perform_ofExcept, h.probed]
    rfl
  rw [probe, perform_bind_ok hmodule, perform_bind_ok hplaceOf, perform_bind_ok h.loaded,
    perform_bind_ok hpackage]

/-- What is left to write when the sources are written: under a trace nothing, and else the file of
the table, which is none of them. -/
theorem Prepares.writeAdded_cases {resolver : Resolver} {request : ProbeRequest}
    {settings : ProbeSettings} {root relative : Place} {sources : List NamedSource}
    {package : ProbedPackage}
    (h : Prepares host resolver request settings root relative sources package)
    {copy : ModuleCopy} {path : String} {outcome : Except Failure (List String)}
    (hadded : mid.perform (copy.writeFiles path (package.addedFiles sources)) = (outcome, after)) :
    (settings.backend = .trace ∧ package.addedFiles sources = [] ∧ outcome = .ok [] ∧ after = mid) ∨
      settings.backend = .table ∧ ∃ text result,
        package.addedFiles sources = [⟨settings.tableFileName, text⟩] ∧
        (∀ file ∈ package.probedFiles sources, file.name ≠ settings.tableFileName) ∧
        mid.perform (copy.write (Path.join path settings.tableFileName) text) = (result, after) ∧
        outcome = result.map ([·]) := by
  obtain ⟨hnames, ⟨htrace, hnone⟩ | ⟨htable, ⟨text, hfile⟩, hapart⟩⟩ :=
    ProbedPackage.files_of_probePackage h.probed
  · rw [hnone] at hadded
    cases hadded
    exact .inl ⟨htrace, hnone, rfl, rfl⟩
  · rw [hfile] at hadded
    obtain ⟨result, hwrite, hresult⟩ := perform_writeFiles_singleton hadded
    refine .inr ⟨htable, text, result, hfile, fun file hmem => ?_, hwrite, hresult⟩
    have hsource := List.mem_map_of_mem (f := (·.name)) hmem
    rw [hnames] at hsource
    obtain ⟨source, hsource, heq⟩ := List.mem_map.1 hsource
    exact heq ▸ hapart source hsource

section Deliver

variable {resolver : Resolver} {request : ProbeRequest} {settings : ProbeSettings}
  {root relative : Place} {sources : List NamedSource} {package : ProbedPackage}
  (hwf : host.WellFormed)
  (h : Prepares host resolver request settings root relative sources package)
include hwf h

theorem Prepares.locate_root : ∃ node, host.locate true root.path = .ok (.node root node) := by
  obtain ⟨node, hlocate⟩ := exists_of_place h.found
  have hnode := (hwf.stands hlocate).node?
  rcases hwf.disk.node?_above (List.prefix_append root relative) hnode with hdir | heq
  · exact ⟨.dir, Disk.locate_path hwf.disk hdir (by simp)⟩
  · have hpath := locate_path_of_place hwf h.found
    rwa [← heq] at hpath

/-- The module is copied and the sources are written, or nothing of the copy is left. -/
theorem filled_or_removed {copy : ModuleCopy} {copied last : Host}
    {result : Except Failure (List String)}
    (hcreate : host.perform (create root.path (settings.outputRoot.getD host.tempDir)) =
      (.ok copy, copied))
    (hwrite : copied.perform (copy.writeFiles ("/".intercalate relative)
      (package.probedFiles sources)) = (result, last)) :
    (∃ paths, result = .ok paths ∧ Filled host (outputPaths host settings) root relative copy.place
        (package.probedFiles sources) last) ∨
      ∃ failure, result = .error failure ∧
        host.Gains (last.without copy.place)
          ((last.without copy.place).OnWay (outputPaths host settings)) := by
  obtain ⟨made, hmade, hgains, ⟨_, hfail, -⟩ | ⟨place, _, base, hok, hplace, hopens, hholds⟩⟩ :=
    create_cases hwf hcreate
  · cases hfail
  cases hok
  -- The module is found where it was found before.
  obtain rfl : root = place := by
    obtain ⟨node, hroot⟩ := h.locate_root hwf
    obtain ⟨_, hlocate⟩ := exists_of_place hplace
    cases (hgains.keepsAll.locate hwf hroot).symm.trans hlocate
    rfl
  have hrelative := (Place.named_append.1 (h.named hwf)).2
  obtain ⟨hfiles, hnodup⟩ := h.probedFiles_spec hwf
  rcases writeFiles_cases hholds.toWithin hrelative (fun file hfile => (hfiles file hfile).1) hnodup
    hwrite with ⟨paths, rfl, hwithin, hwrites⟩ | ⟨failure, rfl, hwithin⟩
  · exact .inl ⟨paths, rfl, hmade, hgains, hopens, hholds, hwithin, hwrites⟩
  · exact .inr ⟨failure, rfl, (hwithin.without_same hmade hopens).1.gains hgains⟩

/-- How a run ends that got ready: nothing of a copy is left, or all hangs on the files that the
backend adds. -/
theorem deliver_cases {outcome : Except Failure ProbeReport}
    (hrun : host.perform (deliver settings root (root ++ relative) package) = (outcome, after)) :
    (∃ failure, outcome = .error failure ∧
        host.Gains after (after.OnWay (outputPaths host settings)) ∧
        ∀ copy, MakesCopy host settings root copy → after.Lacks copy.place) ∨
      ∃ copy mid, WritesSources host settings root relative (package.probedFiles sources) copy mid ∧
        Filled host (outputPaths host settings) root relative copy.place
          (package.probedFiles sources) mid ∧
        ((∃ failure last, outcome = .error failure ∧ after = last.without copy.place ∧
            mid.perform (copy.writeFiles ("/".intercalate relative) (package.addedFiles sources)) =
              (.error failure, last)) ∨
          ∃ paths report, outcome = .ok report ∧ report.moduleCopy = copy.path ∧
            mid.perform (copy.writeFiles ("/".intercalate relative) (package.addedFiles sources)) =
              (.ok paths, after)) := by
  rw [deliver, perform_bind_ok perform_get] at hrun
  rcases perform_bind_cases hrun with ⟨failure, hcreate, rfl⟩ | ⟨copy, copied, hcreate, hrest⟩
  · obtain ⟨made, -, hgains, ⟨_, -, hsame⟩ | ⟨_, _, _, hok, -⟩⟩ := create_cases hwf hcreate
    · refine .inl ⟨failure, rfl, hsame.gains hgains, fun copy ⟨_, hcopy⟩ => ?_⟩
      cases hcreate.symm.trans hcopy
    · cases hok
  rw [relativePath_append, package.files_eq sources] at hrest
  rcases orRemove_cases hrest with ⟨report, rfl, hwork⟩ | ⟨failure, last, rfl, hwork, rfl⟩
  · rcases writeFiles_append_cases hwork with
      ⟨_, hfail, -⟩ | ⟨paths, mid, hfiles, ⟨_, hfail, -⟩ | ⟨more, hreport, hothers⟩⟩
    · cases hfail
    · cases hfail
    · rcases filled_or_removed hwf h hcreate hfiles with ⟨_, -, hfilled⟩ | ⟨_, hfail, -⟩
      · cases hreport
        exact .inr ⟨copy, mid, ⟨copied, paths, hcreate, hfiles⟩, hfilled,
          .inr ⟨more, _, rfl, rfl, hothers⟩⟩
      · cases hfail
  · rcases writeFiles_append_cases hwork with
      ⟨_, hfail, hfiles⟩ | ⟨paths, mid, hfiles, ⟨_, hfail, hothers⟩ | ⟨_, hok, -⟩⟩
    · rcases filled_or_removed hwf h hcreate hfiles with ⟨_, hok, -⟩ | ⟨_, -, hgains⟩
      · cases hok
      · refine .inl ⟨failure, rfl, hgains, fun other ⟨_, hother⟩ => ?_⟩
        cases hcreate.symm.trans hother
        exact lacks_without (ne_nil_of_create hwf hcreate)
    · rcases filled_or_removed hwf h hcreate hfiles with ⟨_, -, hfilled⟩ | ⟨_, hnot, -⟩
      · cases hfail
        exact .inr ⟨copy, mid, ⟨copied, paths, hcreate, hfiles⟩, hfilled,
          .inl ⟨failure, last, rfl, rfl, hothers⟩⟩
      · cases hnot
    · cases hok

end Deliver

/-- A run that succeeds has filled a copy and written the files that the backend adds. -/
theorem probe_ok (hwf : host.WellFormed) {resolver : Resolver} {request : ProbeRequest}
    {settings : ProbeSettings} {report : ProbeReport}
    (h : host.perform (probe resolver request settings) = (.ok report, after)) :
    ∃ (root relative : Place) (sources : List NamedSource) (package : ProbedPackage)
      (copy : ModuleCopy) (mid : Host) (paths : List String),
      Prepares host resolver request settings root relative sources package ∧
      report.moduleCopy = copy.path ∧
      Filled host (outputPaths host settings) root relative copy.place
        (package.probedFiles sources) mid ∧
      mid.perform (copy.writeFiles ("/".intercalate relative) (package.addedFiles sources)) =
        (.ok paths, after) := by
  rcases probe_cases h with ⟨_, hfail, -⟩ | ⟨root, relative, sources, package, hprepares, hdeliver⟩
  · cases hfail
  rcases deliver_cases hwf hprepares hdeliver with
    ⟨_, hfail, -⟩ | ⟨copy, mid, -, hfilled, ⟨_, _, hfail, -⟩ | ⟨paths, _, hok, hcopy, hadded⟩⟩
  · cases hfail
  · cases hfail
  · cases hok
    exact ⟨root, relative, sources, package, copy, mid, paths, hprepares, hcopy, hfilled, hadded⟩

end Run

end GoProbe
