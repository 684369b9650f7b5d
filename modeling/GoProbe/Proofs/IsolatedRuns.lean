import Mathlib
import GoProbe.Probe.Hash
import GoProbe.Proofs.ProbeSteps

/-!
# Runs and what they leave

A run that succeeds leaves every node as it was and a faithful copy of the module
(`probe_isolated`). This holds of everything up to the file that the backend adds. The name of that
file comes from the settings and may lead out of the copy or to a file in it, and then a run
overwrites what stands there (`probe_overwrites_module`).

A run that fails leaves every node as it was and nothing of a copy, whatever goes wrong on the host
(`probe_failure_leaves_nothing`). Only a file that the backend adds may leave more than the output
paths, where its name leads out of the copy: directories, and what was written of the file before it
was broken off.

Both are shown at work on one module, with a link beside its source. Its host has a device on which
nothing fits any more.
-/

namespace GoProbe

variable {host mid after : Host}

namespace Run

open Host ModuleCopy

/-! ## Isolated runs -/

/-- A file has a place of its own in a directory: its name spells names below it, and nothing stands
there. -/
def HasOwnPlace (host : Host) (dir : Place) (name : String) : Prop :=
  Place.Named (Path.pieces name) ∧ host.disk.node? (dir ++ Path.pieces name) = none

section Isolated

variable [Faults] [WordHash] {resolver : Resolver} {request : ProbeRequest}
  {settings : ProbeSettings} (hwf : host.WellFormed)
include hwf

/-- A run that succeeds changes nothing outside of a new copy of the module, and the copy is
faithful, up to the file that the backend adds. All of it is so if that file has a place of its own
in the package. -/
theorem probe_isolated {report : ProbeReport}
    (h : host.perform (probe resolver request settings) = (.ok report, after)) :
    ∃ (root relative : Place) (sources : List NamedSource) (package : ProbedPackage)
      (copy : ModuleCopy) (mid : Host) (paths : List String),
      Prepares host resolver request settings root relative sources package ∧
      report.moduleCopy = copy.path ∧ host.disk.node? copy.place = none ∧
      Isolated host copy.place mid ∧
      Faithful host root relative copy.place (package.probedFiles sources) [] mid ∧
      mid.perform (copy.writeFiles ("/".intercalate relative) (package.addedFiles sources)) =
        (.ok paths, after) ∧
      ((settings.backend = .table →
          HasOwnPlace host (root ++ relative) settings.tableFileName) →
        Isolated host copy.place after ∧
        Faithful host root relative copy.place (package.probedFiles sources)
          (package.addedFiles sources) after) := by
  obtain ⟨root, relative, sources, package, copy, mid, paths, hprepares, hcopy, hfilled, hadded⟩ :=
    probe_ok hwf h
  obtain ⟨hfiles, -⟩ := hprepares.probedFiles_spec hwf
  have hreplaced := fun file hfile => (hfiles file hfile).2
  have hmid : Faithful host root relative copy.place (package.probedFiles sources) [] mid :=
    Filled.faithful hwf (by rwa [List.append_nil]) hreplaced (List.forall_mem_nil _)
  refine ⟨root, relative, sources, package, copy, mid, paths, hprepares, hcopy, hfilled.fresh,
    hfilled.isolated, hmid, hadded, fun hown => ?_⟩
  rcases hprepares.writeAdded_cases hadded with
    ⟨-, hnone, -, rfl⟩ | ⟨htable, text, result, hfile, hother, hwrite, hresult⟩
  · rw [hnone]
    exact ⟨hfilled.isolated, hmid⟩
  · cases result with
    | error failure => cases hresult
    | ok path =>
      obtain ⟨hname, hplace⟩ := hown htable
      have hrelative := (Place.named_append.1 (hprepares.named hwf)).2
      have hafter := hfilled.write ⟨settings.tableFileName, text⟩ hrelative hname hother hwrite
      rw [hfile]
      refine ⟨hafter.isolated, hafter.faithful hwf hreplaced ?_⟩
      rw [List.forall_mem_singleton, ← List.append_assoc]
      exact hplace

end Isolated

/-! ## A module with a link -/

end Run

namespace SampleHost

/-- On the device at `/usb` a file is broken off after three bytes. -/
scoped instance faults : Faults where
  fault? _ action :=
    let path := match action with
      | .write path => path
      | .copy _ target => target
      | _ => ""
    if "/usb/".toList.isPrefixOf path.toList then
      some { cause := .other "No space left on device (os error 28)", written := some 3 }
    else none

scoped instance wordHash : WordHash := Standard.wordHash

end SampleHost

namespace Run

open Host ModuleCopy SampleHost

/-- The tree of the sample's source. -/
def sampleTree : String :=
  "\x7b\"package_name\":\"p\",\"package_path\":\"m/p\"\x7d"

def sampleResolver : Resolver := .dump ".ast.json"

/-- The text of the sample's table. -/
def sampleTable : String := "package p\n\nvar __ut_cover_tab__ = make(map[string]int)\n"

/-- What stands in a module of one package: the one source with its tree, a link to the source, and
a request to probe the package. -/
def sampleNodes : List (Place × DiskNode) :=
  [(["go.mod"], .file "module m\n".toUTF8 false),
   (["p"], .dir),
   (["p", "a.go"], .file "package p\n".toUTF8 true),
   (["p", "a.go.ast.json"], .file sampleTree.toUTF8 false),
   (["p", "b.txt"], .link "a.go"),
   (["t.json"], .file "\x7b\"targetModulePath\":\"p\"\x7d".toUTF8 false)]

def sampleModule : Host := { disk := { nodes := sampleNodes } }

/-- The source of the sample with its tree. -/
def sampleSources : Except Failure (List NamedSource) := do
  return [{ name := "a.go", file := ← sampleResolver.load sampleModule "/p/a.go" }]

/-- The files to which the sample is probed. -/
def sampleProbed (settings : ProbeSettings) : Except Failure (List PrintedFile) := do
  let sources ← sampleSources
  let package ← (probePackage sources settings []).mapError .probing
  return package.files

/-- The files to which the sample is probed, with the name of the table's file. -/
def sampleFiles (table : String) : List PrintedFile :=
  [⟨"a.go", "package p\n"⟩, ⟨table, sampleTable⟩]

/-- The place of the copy of the sample below an output directory. -/
def sampleCopy (output : String) : Place := [output, "seedprobe-000001"]

/-- What is copied of the sample: all its nodes, and the new output directory. -/
def sampleEntries (output : String) : List (Place × DiskNode) :=
  ([], .dir) :: sampleNodes ++ [([output], .dir)]

/-- The sample with an output directory and an empty directory for its copy. -/
def sampleOpened (output : String) : Host where
  disk := { nodes := sampleNodes ++ [([output], .dir), (sampleCopy output, .dir)] }
  serial := 1

/-- The sample with its copy, in which the link is a file. -/
def sampleCopied : Host where
  disk := { nodes := (sampleOpened "tmp").disk.nodes ++ [
    (sampleCopy "tmp" ++ ["go.mod"], .file "module m\n".toUTF8 false),
    (sampleCopy "tmp" ++ ["p"], .dir),
    (sampleCopy "tmp" ++ ["p", "a.go"], .file "package p\n".toUTF8 true),
    (sampleCopy "tmp" ++ ["p", "a.go.ast.json"], .file sampleTree.toUTF8 false),
    (sampleCopy "tmp" ++ ["p", "b.txt"], .file "package p\n".toUTF8 true),
    (sampleCopy "tmp" ++ ["t.json"], .file "\x7b\"targetModulePath\":\"p\"\x7d".toUTF8 false),
    (sampleCopy "tmp" ++ ["tmp"], .dir)] }
  serial := 1

/-- The sample is well formed, its package stands below its root, and there is a place in it for a
table. -/
theorem found_sample : sampleModule.WellFormed ∧
    sampleModule.place "p" = .ok ["p"] ∧ sampleModule.place "/p" = .ok ["p"] ∧
    sampleModule.moduleRoot? ["p"] = some [] ∧ Place.relativePath [] ["p"] = "p" ∧
    Path.join "/p" "a.go" = "/p/a.go" ∧
    Place.Named (Path.pieces "ut_cover_table.go") ∧
    sampleModule.disk.node? (["p"] ++ Path.pieces "ut_cover_table.go") = none := by
  decide +kernel

theorem sourceNames_sample :
    sampleModule.perform (sourceNames "/p" ["*_test.go"]) = (.ok ["a.go"], sampleModule) := by
  obtain ⟨-, -, hplace, -⟩ := found_sample
  have hnames : sampleModule.fileNames ["p"] = ["a.go", "a.go.ast.json"] := by
    -- The names stand in order, so there is nothing to sort.
    rw [fileNames, List.mergeSort_of_pairwise]
    · decide +kernel
    · decide +kernel
  have hfiles : sampleModule.listFiles "/p" = .ok ["a.go", "a.go.ast.json"] := by
    rw [listFiles, hplace, ← hnames]
    rfl
  have hkept : ((["*_test.go"].mapM Pattern.ofText).map fun excluded =>
      ["a.go", "a.go.ast.json"].filter (isSourceName excluded)) = .ok ["a.go"] := by
    decide +kernel
  rw [sourceNames]
  cases hpatterns : ["*_test.go"].mapM Pattern.ofText with
  | error err =>
    rw [hpatterns] at hkept
    cases hkept
  | ok excluded =>
    rw [hpatterns] at hkept
    have hfilter : ["a.go", "a.go.ast.json"].filter (isSourceName excluded) = ["a.go"] :=
      Except.ok.inj hkept
    rw [perform_bind_ok (perform_ofExcept _ _), perform_bind_ok perform_get, hfiles,
      perform_bind_ok (perform_ofExcept _ _), hfilter]
    rfl

theorem perform_resolvedSources_sample {sources : List NamedSource}
    (h : sampleSources = .ok sources) :
    sampleModule.perform (resolvedSources sampleResolver "/p" ["*_test.go"]) =
      (.ok sources, sampleModule) := by
  obtain ⟨file, hload, hsources⟩ := bind_eq_ok_iff.1 h
  obtain ⟨-, -, -, -, -, hpath, -⟩ := found_sample
  rw [resolvedSources, perform_bind_ok sourceNames_sample, perform_bind_ok perform_get,
    perform_ofExcept, ← hsources]
  simp only [List.mapM_cons, hpath, hload]
  rfl

theorem prepares_sample {settings : ProbeSettings} {files : List PrintedFile}
    (hexclude : settings.excludePatterns = ["*_test.go"])
    (h : sampleProbed settings = .ok files) :
    ∃ sources package, package.files = files ∧
      Prepares sampleModule sampleResolver { package := "p" } settings [] ["p"] sources
        package := by
  obtain ⟨sources, hsources, hrest⟩ := bind_eq_ok_iff.1 h
  obtain ⟨package, hpackage, hfiles⟩ := bind_eq_ok_iff.1 hrest
  obtain ⟨-, hplace, -, hroot, -⟩ := found_sample
  refine ⟨sources, package, Except.ok.inj hfiles, hplace, hroot, ?_,
    mapError_eq_ok_iff.1 hpackage⟩
  rw [hexclude]
  exact perform_resolvedSources_sample hsources

/-- A run on the sample gets as far as a directory for the copy, and then takes the entries one by
one. -/
theorem create_sample {path output : String}
    (houtput : path = "/tmp" ∧ output = "tmp" ∨ path = "/usb" ∧ output = "usb") :
    sampleModule.perform (create (Place.path []) path) =
        (sampleOpened output).perform
          (orRemove (sampleCopy output) (copyEntries [] (sampleCopy output))) ∧
      (sampleOpened output).disk.copied [] (sampleCopy output) = sampleEntries output := by
  let made : Host := { disk := { nodes := sampleNodes ++ [([output], .dir)] } }
  have hmake : sampleModule.perform (onDisk path (.makeDirs path)) = (.ok (), made) ∧
      made.place path = .ok [output] ∧ made.place (Place.path []) = .ok [] ∧
      made.perform (onDisk (Place.path [output]) (.makeTemp [output] copyStem)) =
        (.ok (sampleCopy output), sampleOpened output) := by
    rcases houtput with ⟨rfl, rfl⟩ | ⟨rfl, rfl⟩ <;> decide +kernel
  obtain ⟨hmade, hplace, hroot, htemp⟩ := hmake
  refine ⟨perform_create hmade hplace hroot htemp, ?_⟩
  rw [Disk.copied, List.mergeSort_of_pairwise]
  · rcases houtput with ⟨rfl, rfl⟩ | ⟨rfl, rfl⟩ <;> decide +kernel
  · rcases houtput with ⟨rfl, rfl⟩ | ⟨rfl, rfl⟩ <;> decide +kernel

/-- All entries are taken below `/tmp`. The device at `/usb` is full. -/
theorem takes_sample :
    (sampleOpened "tmp").perform ((sampleEntries "tmp").mapM (take [] (sampleCopy "tmp"))) =
        (.ok [0, 1, 0, 1, 1, 1, 1, 0], sampleCopied) ∧
      ((sampleOpened "usb").perform
        ((sampleEntries "usb").mapM (take [] (sampleCopy "usb")))).1 =
          .error (.disk "/go.mod" (.other "No space left on device (os error 28)")) := by
  decide +kernel

theorem create_sample_ok :
    sampleModule.perform (create (Place.path []) "/tmp") =
      (.ok ⟨sampleCopy "tmp", 5⟩, sampleCopied) := by
  obtain ⟨hcreate, hcopied⟩ := create_sample (.inl ⟨rfl, rfl⟩)
  rw [hcreate, perform_copyEntries_ok hcopied takes_sample.1]
  rfl

theorem create_sample_error : ∃ after, sampleModule.perform (create (Place.path []) "/usb") =
    (.error (.disk "/go.mod" (.other "No space left on device (os error 28)")), after) := by
  obtain ⟨hcreate, hcopied⟩ := create_sample (.inr ⟨rfl, rfl⟩)
  obtain ⟨last, hentries⟩ : ∃ last, (sampleOpened "usb").perform
      ((sampleEntries "usb").mapM (take [] (sampleCopy "usb"))) =
        (.error (.disk "/go.mod" (.other "No space left on device (os error 28)")), last) :=
    ⟨_, by rw [← takes_sample.2]⟩
  exact ⟨_, by rw [hcreate, perform_copyEntries_error hcopied hentries]⟩

/-- Writes the files of the probed sample into its copy. -/
def writeSample (table : String) : Run (List String) :=
  ModuleCopy.writeFiles ⟨sampleCopy "tmp", 5⟩ "p" (sampleFiles table)

/-- The sample with its copy, when the files of the package are written. -/
def sampleWritten (table : String) : Host :=
  (sampleCopied.perform (writeSample table)).2

theorem exists_probe_sample {settings : ProbeSettings} {table : String}
    (houtput : settings.outputRoot = none)
    (hexclude : settings.excludePatterns = ["*_test.go"])
    (hfiles : sampleProbed settings = .ok (sampleFiles table))
    (hwritten : (sampleCopied.perform (writeSample table)).1.toBool = true) :
    ∃ report, sampleModule.perform
      (probe sampleResolver { package := "p" } settings) = (.ok report, sampleWritten table) := by
  obtain ⟨sources, package, hpackage, hprepares⟩ := prepares_sample hexclude hfiles
  obtain ⟨-, -, -, -, hrelative, -⟩ := found_sample
  have hcreate : sampleModule.perform
      (create (Place.path []) (settings.outputRoot.getD sampleModule.tempDir)) =
        (.ok ⟨sampleCopy "tmp", 5⟩, sampleCopied) := by
    rw [houtput]
    exact create_sample_ok
  unfold sampleWritten
  cases hwrite : sampleCopied.perform (writeSample table) with
  | mk outcome after =>
    rw [hwrite] at hwritten
    cases outcome with
    | error failure => cases hwritten
    | ok paths =>
      rw [writeSample, ← hrelative, ← hpackage] at hwrite
      exact ⟨_, (perform_probe_of_prepares hprepares).trans (perform_deliver hcreate hwrite)⟩

/-- What the sample is probed to, with a table in the package or over the source of the module. -/
theorem probed_sample :
    (sampleProbed {} = .ok (sampleFiles "ut_cover_table.go") ∧
      (sampleCopied.perform (writeSample "ut_cover_table.go")).1.toBool = true) ∧
    (sampleProbed { outputRoot := some "/usb" } = .ok (sampleFiles "ut_cover_table.go") ∧
      outputPaths sampleModule { outputRoot := some "/usb" } = ["/usb", "/"]) ∧
    (({ tableFileName := "../../../p/a.go" } : ProbeSettings).fault? = none ∧
      sampleProbed { tableFileName := "../../../p/a.go" } =
        .ok (sampleFiles "../../../p/a.go") ∧
      (sampleCopied.perform (writeSample "../../../p/a.go")).1.toBool = true ∧
      (sampleWritten "../../../p/a.go").disk.node? ["p", "a.go"] =
        some (.file sampleTable.toUTF8 true)) := by
  decide +kernel

theorem exists_probe_default : ∃ report, sampleModule.perform
    (probe sampleResolver { package := "p" } {}) =
      (.ok report, sampleWritten "ut_cover_table.go") := by
  obtain ⟨⟨hfiles, hwritten⟩, -⟩ := probed_sample
  exact exists_probe_sample rfl rfl hfiles hwritten

theorem probe_isolated_sample :
    sampleModule.WellFormed ∧
      HasOwnPlace sampleModule ["p"] "ut_cover_table.go" ∧
      ∃ report after root relative sources package copy,
        sampleModule.perform (probe sampleResolver { package := "p" } {}) =
          (.ok report, after) ∧
        Isolated sampleModule copy after ∧
        Faithful sampleModule root relative copy
          (ProbedPackage.probedFiles package sources)
          (ProbedPackage.addedFiles package sources) after := by
  obtain ⟨hwf, hdir, -, -, -, -, hown⟩ := found_sample
  obtain ⟨report, hrun⟩ := exists_probe_default
  obtain ⟨root, relative, sources, package, copy, -, -, hprepares, -, -, -, -, -, hall⟩ :=
    probe_isolated hwf hrun
  have hplace : root ++ relative = ["p"] := Except.ok.inj (hprepares.found.symm.trans hdir)
  obtain ⟨hisolated, hfaithful⟩ := hall fun _ => hplace ▸ hown
  exact ⟨hwf, hown, report, _, root, relative, sources, package, copy.place, hrun, hisolated,
    hfaithful⟩

/-- A valid name for the table's file leads to a source of the module, which is lost. -/
theorem probe_overwrites_module :
    ({ tableFileName := "../../../p/a.go" } : ProbeSettings).fault? = none ∧
      sampleModule.WellFormed ∧
      sampleModule.disk.node? ["p", "a.go"] = some (.file "package p\n".toUTF8 true) ∧
      ∃ report after,
        sampleModule.perform (probe sampleResolver { package := "p" }
          { tableFileName := "../../../p/a.go" }) = (.ok report, after) ∧
        after.disk.node? ["p", "a.go"] = some (.file sampleTable.toUTF8 true) := by
  obtain ⟨-, -, hvalid, hfiles, hwritten, hlost⟩ := probed_sample
  refine ⟨hvalid, found_sample.1, rfl, ?_⟩
  obtain ⟨report, hrun⟩ := exists_probe_sample rfl rfl hfiles hwritten
  exact ⟨report, _, hrun, hlost⟩

end Run

/-! ## Failed runs -/

namespace Run

open Host ModuleCopy

section Failed

variable [Faults] [WordHash] {resolver : Resolver} {request : ProbeRequest}
  {settings : ProbeSettings}

/-- What a run leaves that made no copy, or removed it: all nodes that there were, up to one file,
new directories perhaps, and nothing of a copy. -/
structure LeavesNoCopy (host : Host) (resolver : Resolver) (request : ProbeRequest)
    (settings : ProbeSettings) (after : Host) : Prop where
  kept : ∃ spoilt, host.GainsBut after spoilt
  removed : ∀ root relative sources package copy,
    Prepares host resolver request settings root relative sources package →
    MakesCopy host settings root copy → after.Lacks copy.place

/-- All sources are written, but a file that the backend adds cannot be. -/
def FailsOnAdded (host : Host) (resolver : Resolver) (request : ProbeRequest)
    (settings : ProbeSettings) : Prop :=
  ∃ root relative sources package copy mid failure last,
    Prepares host resolver request settings root relative sources package ∧
    WritesSources host settings root relative (package.probedFiles sources) copy mid ∧
    mid.perform (copy.writeFiles ("/".intercalate relative) (package.addedFiles sources)) =
      (.error failure, last)

variable (hwf : host.WellFormed)
include hwf

/-- When a file that the backend adds cannot be written, the copy is removed. All is as before up to
that file, or up to the output paths if the file has its place in the copy. -/
theorem removed_of_added_error {root relative : Place} {sources : List NamedSource}
    {package : ProbedPackage} {copy : ModuleCopy} {last : Host} {failure : Failure}
    (hprepares : Prepares host resolver request settings root relative sources package)
    (hfilled : Filled host (outputPaths host settings) root relative copy.place
      (package.probedFiles sources) mid)
    (hadded : mid.perform (copy.writeFiles ("/".intercalate relative)
      (package.addedFiles sources)) = (.error failure, last)) :
    (∃ spoilt, host.GainsBut (last.without copy.place) spoilt) ∧
      (Place.Named (Path.pieces settings.tableFileName) →
        host.Gains (last.without copy.place)
          ((last.without copy.place).OnWay (outputPaths host settings))) := by
  rcases hprepares.writeAdded_cases hadded with
    ⟨-, -, hok, -⟩ | ⟨-, text, result, -, -, hwrite, hresult⟩
  · cases hok
  · cases result with
    | ok path => cases hresult
    | error cause =>
      have hbreaks := breaksOff_of_write hfilled.wellFormed hwrite
      have hrelative := (Place.named_append.1 (hprepares.named hwf)).2
      exact ⟨hfilled.removed_of_breaksOff hwf hbreaks, fun hname =>
        hfilled.removed_of_named ⟨settings.tableFileName, text⟩ hrelative hname hwrite⟩

theorem leavesNoCopy_of_error {failure : Failure}
    (h : host.perform (probe resolver request settings) = (.error failure, after)) :
    LeavesNoCopy host resolver request settings after := by
  constructor
  · rcases probe_cases h with ⟨_, -, rfl⟩ | ⟨root, relative, sources, package, hprepares, hdeliver⟩
    · exact ⟨[], (Gains.refl after fun _ => True).but []⟩
    rcases deliver_cases hwf hprepares hdeliver with
      ⟨_, -, hgains, -⟩ | ⟨copy, mid, -, hfilled, ⟨_, last, -, rfl, hadded⟩ | ⟨_, _, hok, -⟩⟩
    · exact ⟨[], hgains.but []⟩
    · exact (removed_of_added_error hwf hprepares hfilled hadded).1
    · cases hok
  · intro root relative sources package copy hprepares hmakes
    rw [perform_probe_of_prepares hprepares] at h
    rcases deliver_cases hwf hprepares h with
      ⟨_, -, -, hlacks⟩ |
      ⟨other, mid, ⟨copied, _, hcreate, -⟩, -, ⟨_, last, -, rfl, -⟩ | ⟨_, _, hok, -⟩⟩
    · exact hlacks copy hmakes
    · obtain ⟨_, hother⟩ := hmakes
      cases hcreate.symm.trans hother
      exact lacks_without (ne_nil_of_create hwf hcreate)
    · cases hok

theorem gains_of_error {failure : Failure}
    (h : host.perform (probe resolver request settings) = (.error failure, after))
    (hadded : ¬ FailsOnAdded host resolver request settings ∨
      Place.Named (Path.pieces settings.tableFileName)) :
    host.Gains after (after.OnWay (outputPaths host settings)) := by
  rcases probe_cases h with ⟨_, -, rfl⟩ | ⟨root, relative, sources, package, hprepares, hdeliver⟩
  · exact .refl _ _
  rcases deliver_cases hwf hprepares hdeliver with
    ⟨_, -, hgains, -⟩ | ⟨copy, mid, hwrites, hfilled, ⟨cause, last, -, rfl, hfail⟩ | ⟨_, _, hok, -⟩⟩
  · exact hgains
  · rcases hadded with hnot | hname
    · exact absurd ⟨root, relative, sources, package, copy, mid, cause, last, hprepares, hwrites,
        hfail⟩ hnot
    · exact (removed_of_added_error hwf hprepares hfilled hfail).2 hname
  · cases hok

/-- A run that fails leaves every node as it was, no new file and nothing of a copy, and all that is
new is the directory below which the copy was to be made, with what was missing above it. Only if it
fails on a file that the backend adds, and the name of that file is no name in the copy, may there
be more directories, and a part of that file. -/
theorem probe_failure_leaves_nothing {failure : Failure}
    (h : host.perform (probe resolver request settings) = (.error failure, after)) :
    LeavesNoCopy host resolver request settings after ∧
      (¬ FailsOnAdded host resolver request settings ∨
          Place.Named (Path.pieces settings.tableFileName) →
        host.Gains after (after.OnWay (outputPaths host settings))) :=
  ⟨leavesNoCopy_of_error hwf h, gains_of_error hwf h⟩

end Failed

open SampleHost

theorem probe_failure_leaves_nothing_sample :
    sampleModule.WellFormed ∧ ∃ after,
      sampleModule.perform
        (probe sampleResolver { package := "p" } { outputRoot := some "/usb" }) =
          (.error (.disk "/go.mod" (.other "No space left on device (os error 28)")), after) ∧
      LeavesNoCopy sampleModule sampleResolver { package := "p" } { outputRoot := some "/usb" }
        after ∧
      sampleModule.Gains after (after.OnWay ["/usb", "/"]) := by
  obtain ⟨hwf, -, -, -, -, -, hname, -⟩ := found_sample
  obtain ⟨-, ⟨hfiles, hpaths⟩, -⟩ := probed_sample
  obtain ⟨sources, package, -, hprepares⟩ := prepares_sample rfl hfiles
  obtain ⟨after, hcreate⟩ := create_sample_error
  have hrun : sampleModule.perform
      (probe sampleResolver { package := "p" } { outputRoot := some "/usb" }) =
        (.error (.disk "/go.mod" (.other "No space left on device (os error 28)")), after) := by
    rw [perform_probe_of_prepares hprepares, deliver, perform_bind_ok perform_get]
    exact perform_bind_error hcreate
  obtain ⟨hleaves, hgains⟩ := probe_failure_leaves_nothing hwf hrun
  exact ⟨hwf, after, hrun, hleaves, hpaths ▸ hgains (.inr hname)⟩

end Run

end GoProbe
