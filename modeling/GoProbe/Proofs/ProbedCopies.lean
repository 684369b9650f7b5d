import Mathlib
import GoProbe.Module.Probed
import GoProbe.Proofs.Accounting
import GoProbe.Proofs.CopiedModules
import GoProbe.Proofs.ProbingRuns

/-!
# Probed copies of modules

Sources are written to places in the copy of their module (`writeFiles_cases`). So all there is
outside of the copy stays (`Filled.isolated`), and in it each file of the module is found again,
unless it was written anew (`Filled.faithful`).

A file that is written last may have any name. `Filled.write` is for one that spells a place in the
copy, and `Filled.removed_of_breaksOff` for any that cannot be written to its end.
-/

namespace GoProbe

variable {host mid after : Host}

/-! ## The files of a directory -/

namespace Host

theorem mem_fileNames (hwf : host.WellFormed) {dir : Place} {name : String} :
    name ∈ host.fileNames dir ↔
      ∃ content executable, host.disk.node? (dir ++ [name]) = some (.file content executable) := by
  have hnode : ∀ node, (name, node) ∈ host.disk.children dir ↔
      host.disk.node? (dir ++ [name]) = some node := by
    intro node
    rw [Disk.mem_children, hwf.disk.mem_nodes_iff]
    exact and_iff_right (by simp)
  rw [fileNames, List.mem_mergeSort, List.mem_filterMap]
  constructor
  · rintro ⟨⟨other, node⟩, hmem, hname⟩
    cases node with
    | file content executable =>
      cases hname
      exact ⟨content, executable, (hnode _).1 hmem⟩
    | dir => cases hname
    | link target => cases hname
  · rintro ⟨content, executable, hfile⟩
    exact ⟨_, (hnode _).2 hfile, rfl⟩

theorem nodup_fileNames (hwf : host.WellFormed) (dir : Place) : (host.fileNames dir).Nodup := by
  rw [fileNames, (List.mergeSort_perm _ _).nodup_iff]
  refine List.pairwise_filterMap.2 ((hwf.disk.pairwise_children dir).imp ?_)
  intro a b hne name hname other hother heq
  dsimp only at hname hother
  split at hname
  · split at hother
    · cases hname
      cases hother
      exact hne heq
    · cases hother
  · cases hname

end Host

/-! ## Written files -/

namespace Host

/-- Files were written below a directory, each under its name, and directories may have been made
for them. -/
structure Writes (host : Host) (dir : Place) (files : List PrintedFile) (after : Host) : Prop where
  written : ∀ file ∈ files, ∃ executable,
    after.disk.node? (dir ++ Path.pieces file.name) = some (.file file.text.toUTF8 executable)
  others : ∀ place, (∀ file ∈ files, place ≠ dir ++ Path.pieces file.name) →
    after.disk.node? place = host.disk.node? place ∨
      host.disk.node? place = none ∧ after.disk.node? place = some .dir

namespace Writes

variable {dir : Place} {files : List PrintedFile} {file : PrintedFile}

theorem nil (host : Host) (dir : Place) : host.Writes dir [] host :=
  ⟨List.forall_mem_nil _, fun _ _ => .inl rfl⟩

/-- A file that was there is there still, unless it was written. -/
theorem node?_of_some (h : host.Writes dir files after) {place : Place} {node : DiskNode}
    (hplace : ∀ file ∈ files, place ≠ dir ++ Path.pieces file.name)
    (hnode : host.disk.node? place = some node) : after.disk.node? place = some node := by
  rcases h.others place hplace with hsame | ⟨hnone, -⟩
  · rw [hsame, hnode]
  · cases hnone.symm.trans hnode

theorem concat (h : host.Writes dir files mid) (h' : mid.Writes dir [file] after)
    (hname : ∀ other ∈ files, other.name ≠ file.name) :
    host.Writes dir (files ++ [file]) after := by
  have hapart : ∀ other ∈ files, dir ++ Path.pieces other.name ≠ dir ++ Path.pieces file.name := by
    intro other hother heq
    refine hname other hother ?_
    rw [← Path.intercalate_pieces other.name, List.append_cancel_left heq, Path.intercalate_pieces]
  constructor
  · intro other hother
    rcases List.mem_append.1 hother with hother | hother
    · obtain ⟨executable, hnode⟩ := h.written other hother
      refine ⟨executable, h'.node?_of_some ?_ hnode⟩
      rw [List.forall_mem_singleton]
      exact hapart other hother
    · exact h'.written other hother
  · intro place hplace
    obtain ⟨hfiles, hfile⟩ := List.forall_mem_append.1 hplace
    rcases h'.others place hfile with hsame | ⟨hnone, hdir⟩
    · rw [hsame]
      exact h.others place hfiles
    · rcases h.others place hfiles with hsame | ⟨-, hdir'⟩
      · exact .inr ⟨hsame ▸ hnone, hdir⟩
      · cases hnone.symm.trans hdir'

end Writes

end Host

namespace ModuleCopy

open Host

variable {copy : ModuleCopy}

/-- The path of a file of a package in the copy. -/
theorem join_pieces {relative : Place} {file : PrintedFile} (hcopy : copy.place.Named)
    (hrelative : relative.Named) (hname : Place.Named (Path.pieces file.name)) :
    Path.join copy.path (Path.join ("/".intercalate relative) file.name) =
      (copy.place ++ (relative ++ Path.pieces file.name)).path := by
  have hjoin := Place.join_intercalate hrelative hname (Path.pieces_ne_nil file.name)
  rw [Path.intercalate_pieces] at hjoin
  rw [hjoin]
  refine Place.join_path hcopy (Place.named_append.2 ⟨hrelative, hname⟩) ?_
  exact List.append_ne_nil_of_right_ne_nil _ (Path.pieces_ne_nil file.name)

section Writing

variable [Faults]

theorem onDisk_write_cases {target : String} {content : ByteArray}
    {outcome : Except Failure String}
    (h : host.perform (do Run.onDisk target (OnDisk.write target content); return target) =
      (outcome, after)) :
    (∃ failure, outcome = .error failure ∧ after = host) ∨
      ∃ written, host.PutsFile target written after ∧
        ((∃ path, outcome = .ok path) → written = content) := by
  obtain ⟨result, hwrite, hok⟩ := perform_onDisk_return h
  rcases Host.write_cases hwrite with ⟨err, rfl, rfl⟩ | ⟨written, hputs, hwritten⟩
  · cases outcome with
    | error failure => exact .inl ⟨failure, rfl, rfl⟩
    | ok path => cases hok ⟨path, rfl⟩
  · exact .inr ⟨written, hputs, fun hpath => hwritten (hok hpath)⟩

/-- A text is written where its path leads, once the directories above it are made. -/
theorem write_cases {relative text : String} {outcome : Except Failure String}
    (h : host.perform (copy.write relative text) = (outcome, after)) :
    ∃ made, (made = host ∧ Path.parent? (Path.join copy.path relative) = none ∨
        ∃ parent result, Path.parent? (Path.join copy.path relative) = some parent ∧
          host.perform (OnDisk.makeDirs parent) = (result, made)) ∧
      ((∃ failure, outcome = .error failure ∧ after = made) ∨
        ∃ written, made.PutsFile (Path.join copy.path relative) written after ∧
          ((∃ path, outcome = .ok path) → written = text.toUTF8)) := by
  unfold write at h
  -- Only what the paths lead to counts here, not how they are spelled.
  generalize Path.join copy.path relative = target at h ⊢
  dsimp only at h
  generalize Path.parent? target = above at h ⊢
  cases above with
  | none => exact ⟨host, .inl ⟨rfl, rfl⟩, onDisk_write_cases h⟩
  | some parent =>
    rcases perform_bind_cases h with ⟨failure, hmake, rfl⟩ | ⟨_, made, hmake, hrest⟩
    · obtain ⟨result, hmake, -⟩ := perform_onDisk hmake
      exact ⟨after, .inr ⟨parent, result, rfl, hmake⟩, .inl ⟨failure, rfl, rfl⟩⟩
    · exact ⟨made, .inr ⟨parent, _, rfl, perform_onDisk_ok hmake⟩, onDisk_write_cases hrest⟩

/-- Whatever the path, directories are made first, and then a file is written or not. -/
theorem write_made_cases (hwf : host.WellFormed) {relative text : String}
    {outcome : Except Failure String}
    (h : host.perform (copy.write relative text) = (outcome, after)) :
    ∃ made, made.WellFormed ∧ (host.Gains made fun _ => True) ∧
      ((∃ failure, outcome = .error failure ∧ after = made) ∨
        ∃ written, made.PutsFile (Path.join copy.path relative) written after) := by
  obtain ⟨made, hparent, hwrite⟩ := write_cases h
  refine ⟨made, ?_⟩
  rw [← and_assoc]
  refine ⟨?_, hwrite.imp_right fun ⟨written, hputs, _⟩ => ⟨written, hputs⟩⟩
  rcases hparent with ⟨rfl, -⟩ | ⟨parent, result, -, hmake⟩
  · exact ⟨hwf, .refl _ _⟩
  · obtain ⟨hmade, hgains, -⟩ := makeDirs_spec hwf hmake
    exact ⟨hmade, hgains.mono fun _ _ => trivial⟩

/-- Whatever the path, a text that cannot be written leaves at most new directories and a part of
it. -/
theorem breaksOff_of_write (hwf : host.WellFormed) {relative text : String} {failure : Failure}
    (h : host.perform (copy.write relative text) = (.error failure, after)) :
    host.BreaksOff (Path.join copy.path relative) after := by
  obtain ⟨made, hmade, hgains, ⟨_, -, rfl⟩ | hputs⟩ := write_made_cases hwf h
  · exact ⟨after, hmade, hgains, .inl rfl⟩
  · exact ⟨made, hmade, hgains, .inr hputs⟩

/-- Whatever the path, a text that is written replaces a file or stands where nothing stood. -/
theorem write_ok (hwf : host.WellFormed) {relative text path : String}
    (h : host.perform (copy.write relative text) = (.ok path, after)) :
    after.WellFormed ∧ host.disk.Keeps after.disk := by
  obtain ⟨made, hmade, hgains, ⟨_, hfail, -⟩ | ⟨written, hputs⟩⟩ := write_made_cases hwf h
  · cases hfail
  · refine ⟨hputs.wellFormed hmade, fun place node hnode hfile => ?_⟩
    exact hputs.keeps hmade place node (hgains.node?_of_some hnode) hfile

section Inside

variable {base : Host} {relative : Place} {file : PrintedFile}

/-- A file with a proper name is written into the package of the copy. -/
theorem writes_write (h : base.Within copy.place host) (hrelative : relative.Named)
    (hname : Place.Named (Path.pieces file.name)) {outcome : Except Failure String}
    (hrun : host.perform (copy.write (Path.join ("/".intercalate relative) file.name) file.text) =
      (outcome, after)) :
    base.Within copy.place after ∧
      ∀ path, outcome = .ok path → host.Writes (copy.place ++ relative) [file] after := by
  have hcopy := h.wellFormed.disk.named _ _ h.dir
  obtain ⟨front, last, hpieces⟩ :=
    (Path.pieces file.name).eq_nil_or_concat'.resolve_left (Path.pieces_ne_nil file.name)
  have hnamed : Place.Named (copy.place ++ (relative ++ Path.pieces file.name)) :=
    Place.named_append.2 ⟨hcopy, Place.named_append.2 ⟨hrelative, hname⟩⟩
  obtain ⟨made, hmake, hwrite⟩ := write_cases hrun
  rw [join_pieces hcopy hrelative hname] at hmake hwrite
  -- The directory above the file is made below the copy.
  obtain ⟨hwithin, hgains⟩ : base.Within copy.place made ∧ host.Gains made fun _ => True := by
    have hplace : copy.place ++ (relative ++ Path.pieces file.name) =
        copy.place ++ (relative ++ front) ++ [last] := by
      simp [hpieces]
    have hparent := Place.parent?_path (hplace ▸ hnamed)
    rw [← hplace] at hparent
    rcases hmake with ⟨-, hnone⟩ | ⟨parent, result, hsome, hmake⟩
    · cases hnone.symm.trans hparent
    · cases hsome.symm.trans hparent
      have hdir : Place.Named (copy.place ++ (relative ++ front)) := by
        rw [hplace] at hnamed
        exact (Place.named_append.1 hnamed).1
      obtain ⟨hwithin, hgains, -⟩ := h.makeDirs (Path.descends_path hdir) hdir hmake
      exact ⟨hwithin, hgains.mono fun _ _ => trivial⟩
  rcases hwrite with
    ⟨failure, rfl, rfl⟩ | ⟨written, ⟨found, executable, hfound, hfree, rfl⟩, hwritten⟩
  · exact ⟨hwithin, fun _ hok => by cases hok⟩
  · have hstands := hwithin.wellFormed.stands hfound
    have hplace := hwithin.place_of_leads (Path.leads_path hnamed) hnamed hfound
    have hne := (free_place hstands hfree).1
    refine ⟨hwithin.putFile hstands hfree hplace _ _, fun path hok => ?_⟩
    obtain rfl := hwritten ⟨path, hok⟩
    constructor
    · rw [List.forall_mem_singleton, List.append_assoc, ← hplace]
      exact ⟨executable, node?_putNode_self hne⟩
    · intro place hother
      rw [List.forall_mem_singleton, List.append_assoc, ← hplace] at hother
      rw [node?_putNode_of_ne hne hother]
      exact (hgains.nodes place).imp_right fun ⟨hnone, hdir, _⟩ => ⟨hnone, hdir⟩

end Inside

/-- Files with proper and different names are all written into the package of the copy. -/
theorem writeFiles_cases {base : Host} {relative : Place} {files : List PrintedFile}
    (h : base.Within copy.place host) (hrelative : relative.Named)
    (hnames : ∀ file ∈ files, Place.Named (Path.pieces file.name))
    (hnodup : (files.map (·.name)).Nodup) {outcome : Except Failure (List String)}
    (hrun : host.perform (copy.writeFiles ("/".intercalate relative) files) = (outcome, after)) :
    (∃ paths, outcome = .ok paths ∧ base.Within copy.place after ∧
        host.Writes (copy.place ++ relative) files after) ∨
      ∃ failure, outcome = .error failure ∧ base.Within copy.place after := by
  let reached : List PrintedFile → Host → Prop := fun done current =>
    base.Within copy.place current ∧ host.Writes (copy.place ++ relative) done current
  have hstep : ∀ done file rest current outcome next, files = done ++ file :: rest →
      reached done current →
      current.perform (copy.write (Path.join ("/".intercalate relative) file.name) file.text) =
        (outcome, next) →
      (∀ path, outcome = .ok path → reached (done ++ [file]) next) ∧
        ∀ failure, outcome = .error failure → base.Within copy.place next := by
    intro done file rest current outcome next hfiles ⟨hwithin, hdone⟩ hwrite
    obtain ⟨hnext, hwrites⟩ :=
      writes_write hwithin hrelative (hnames file (by simp [hfiles])) hwrite
    refine ⟨fun path hok => ⟨hnext, hdone.concat (hwrites path hok) ?_⟩, fun _ _ => hnext⟩
    intro other hother heq
    rw [hfiles, List.map_append, List.map_cons] at hnodup
    have hapart := List.disjoint_of_nodup_append hnodup (List.mem_map_of_mem hother)
    exact hapart (heq ▸ List.mem_cons_self)
  exact mapM_cases hstep ⟨h, .nil host _⟩ hrun

end Writing

/-! ## Isolated and faithful copies -/

/-- All nodes are kept, and what is new is in the copy or a directory. -/
structure Isolated (host : Host) (copy : Place) (after : Host) : Prop extends
    Host.KeepsAll host after where
  inside : ∀ place node, after.disk.node? place = some node →
    host.disk.node? place = some node ∨ copy <+: place ∨ node = .dir

/-- Outside of the copy there are only new directories, then and when more are made. -/
theorem Isolated.outside_cases {copy place : Place} {way : Place → Prop}
    (h : Isolated host copy mid) (hgains : mid.Gains after way) (hplace : ¬ copy <+: place) :
    after.disk.node? place = host.disk.node? place ∨
      host.disk.node? place = none ∧ after.disk.node? place = some .dir := by
  cases hhost : host.disk.node? place with
  | some node => exact .inl (hgains.node?_of_some (h.nodes place node hhost))
  | none =>
    rcases hgains.nodes place with hsame | ⟨-, hdir, -⟩
    · rw [hsame]
      cases hnode : mid.disk.node? place with
      | none => exact .inl rfl
      | some node =>
        rcases h.inside place node hnode with hold | hbelow | rfl
        · cases hhost.symm.trans hold
        · exact absurd hbelow hplace
        · exact .inr ⟨rfl, rfl⟩
    · exact .inr ⟨rfl, hdir⟩

/-- The copy holds the probed files of a package and, where the module has nothing, those that were
added. It holds everything else of the module, version control apart, and no other files. -/
structure Faithful (host : Host) (root relative copy : Place) (probed added : List PrintedFile)
    (after : Host) : Prop where
  written : ∀ file ∈ probed ++ added, ∃ executable,
    after.disk.node? (copy ++ (relative ++ Path.pieces file.name)) =
      some (.file file.text.toUTF8 executable)
  replaced : ∀ file ∈ probed, ∃ content executable,
    host.disk.node? (root ++ (relative ++ Path.pieces file.name)) = some (.file content executable)
  apart : ∀ file ∈ added, host.disk.node? (root ++ (relative ++ Path.pieces file.name)) = none
  copied : ∀ rel node, host.disk.node? (root ++ rel) = some node →
    root.getLast? ≠ some versionControlName → versionControlName ∉ rel →
    (∀ file ∈ probed, rel ≠ relative ++ Path.pieces file.name) →
    ∃ copied, after.disk.node? (copy ++ rel) = some copied ∧ IsCopyOf host (root ++ rel) node copied
  origin : ∀ rel node, after.disk.node? (copy ++ rel) = some node → node ≠ .dir →
    (∃ file ∈ probed ++ added, rel = relative ++ Path.pieces file.name) ∨
      ∃ original, host.disk.node? (root ++ rel) = some original ∧
        IsCopyOf host (root ++ rel) original node

theorem IsCopyOf.mono {base : Host} {place : Place} {node copied : DiskNode}
    (h : IsCopyOf base place node copied) (hwf : host.WellFormed) (hkept : host.KeepsAll base) :
    IsCopyOf host place node copied := by
  refine ⟨h.plain, fun target hlink => ?_⟩
  obtain ⟨hfile, hfound⟩ := h.linked target hlink
  exact ⟨hfile, fun other found hlocate => hfound other found (hkept.locate hwf hlocate)⟩

/-- A copy of the module was made below a directory to which `paths` lead, and files of the package
were written to it. -/
inductive Filled (host : Host) (paths : List String) (root relative copy : Place)
    (files : List PrintedFile) (after : Host) : Prop where
  | intro {made base copied : Host} (made_wellFormed : made.WellFormed)
      (gains : host.Gains made (made.OnWay paths)) (opens : made.Opens copy base)
      (holds : Holds base root copy (base.disk.copied root copy) copied)
      (within : base.Within copy after) (writes : copied.Writes (copy ++ relative) files after)

namespace Filled

variable {paths : List String} {root relative place : Place} {files : List PrintedFile}

theorem fresh (h : Filled host paths root relative place files after) :
    host.disk.node? place = none := by
  obtain ⟨-, hgains, hopens, -, -, -⟩ := h
  rcases hgains.nodes place with hsame | ⟨hnone, -⟩
  · rw [← hsame, hopens.fresh]
  · exact hnone

theorem dir (h : Filled host paths root relative place files after) :
    after.disk.node? place = some .dir := by
  obtain ⟨-, -, -, -, hwithin, -⟩ := h
  exact hwithin.dir

theorem wellFormed (h : Filled host paths root relative place files after) : after.WellFormed := by
  obtain ⟨-, -, -, -, hwithin, -⟩ := h
  exact hwithin.wellFormed

theorem isolated (h : Filled host paths root relative place files after) :
    Isolated host place after := by
  obtain ⟨hmade, hgains, hopens, -, hwithin, -⟩ := h
  have hbase := hwithin.keepsAll (fun _ => hopens.node?_below hmade) hopens.dir
  refine ⟨(hgains.keepsAll.trans hopens.keepsAll).trans hbase, fun other node hnode => ?_⟩
  by_cases hother : place <+: other
  · exact .inr (.inl hother)
  · have hne : other ≠ place := by
      rintro rfl
      exact hother List.prefix_rfl
    rw [hwithin.outside other hother, hopens.others other hne] at hnode
    rcases hgains.nodes other with hsame | ⟨-, hdir, -⟩
    · exact .inl (hsame ▸ hnode)
    · cases hdir.symm.trans hnode
      exact .inr (.inr rfl)

/-- What a copy holds beside directories stems from the module as it was. -/
theorem exists_original {made base copied : Host} {rel : Place} {node : DiskNode}
    (hwf : host.WellFormed) (hgains : host.Gains made (made.OnWay paths))
    (hopens : made.Opens place base)
    (hholds : Holds base root place (base.disk.copied root place) copied)
    (hnode : copied.disk.node? (place ++ rel) = some node) (hdir : node ≠ .dir) :
    ∃ original, host.disk.node? (root ++ rel) = some original ∧
      IsCopyOf host (root ++ rel) original node := by
  have hne : rel ≠ [] := by
    rintro rfl
    rw [List.append_nil, hholds.dir] at hnode
    cases hnode
    exact hdir rfl
  obtain ⟨original, horiginal, hcopied, hcopyOf⟩ := hholds.original rel node hne hnode
  have hplain : original ≠ .dir := by
    rintro rfl
    exact hdir (hcopyOf.plain (by simp))
  have hplace : root ++ rel ≠ place := by
    intro heq
    exact (isCopied_append_iff.1 hcopied).1 (heq ▸ List.prefix_rfl)
  rw [hopens.others _ hplace] at horiginal
  refine ⟨original, ?_, hcopyOf.mono hwf (hgains.keepsAll.trans hopens.keepsAll)⟩
  rcases hgains.nodes (root ++ rel) with hsame | ⟨-, hnew, -⟩
  · rw [← hsame, horiginal]
  · cases hnew.symm.trans horiginal
    exact absurd rfl hplain

theorem faithful {probed added : List PrintedFile} (hwf : host.WellFormed)
    (h : Filled host paths root relative place (probed ++ added) after)
    (hreplaced : ∀ file ∈ probed, ∃ content executable,
      host.disk.node? (root ++ (relative ++ Path.pieces file.name)) =
        some (.file content executable))
    (hapart : ∀ file ∈ added,
      host.disk.node? (root ++ (relative ++ Path.pieces file.name)) = none) :
    Faithful host root relative place probed added after := by
  obtain ⟨hmade, hgains, hopens, hholds, hwithin, hwrites⟩ := h
  have hkept := hgains.keepsAll.trans hopens.keepsAll
  refine ⟨?_, hreplaced, hapart, ?_, ?_⟩
  · intro file hfile
    obtain ⟨executable, hnode⟩ := hwrites.written file hfile
    exact ⟨executable, by rwa [List.append_assoc] at hnode⟩
  · intro rel node hnode hroot hrel hprobed
    have houtside : ¬ place <+: root ++ rel := by
      intro hbelow
      have hnone := hmade.disk.node?_eq_none_below hopens.fresh hbelow
      cases hnone.symm.trans (hgains.node?_of_some hnode)
    have hcopied : isCopied root place (root ++ rel) = true := by
      refine isCopied_append_iff.2 ⟨houtside, hroot, fun name hname heq => ?_⟩
      exact hrel (heq ▸ hname)
    obtain ⟨copied, hcopy, hcopyOf⟩ :=
      hholds.node?_copied hopens.wellFormed (hkept.nodes _ _ hnode) hcopied
    refine ⟨copied, hwrites.node?_of_some (fun file hfile heq => ?_) hcopy,
      hcopyOf.mono hwf hkept⟩
    rw [List.append_assoc, List.append_cancel_left_eq] at heq
    rcases List.mem_append.1 hfile with hfile | hfile
    · exact hprobed file hfile heq
    · cases (hapart file hfile).symm.trans (heq ▸ hnode)
  · intro rel node hnode hdir
    by_cases hfile : ∃ file ∈ probed ++ added, rel = relative ++ Path.pieces file.name
    · exact .inl hfile
    · have hothers : ∀ file ∈ probed ++ added, place ++ rel ≠
          place ++ relative ++ Path.pieces file.name := by
        intro file hmem heq
        rw [List.append_assoc, List.append_cancel_left_eq] at heq
        exact hfile ⟨file, hmem, heq⟩
      rcases hwrites.others (place ++ rel) hothers with hsame | ⟨-, hnew⟩
      · exact .inr (exists_original hwf hgains hopens hholds (hsame ▸ hnode) hdir)
      · cases hnew.symm.trans hnode
        exact absurd rfl hdir

/-- One more file, under a proper name that none of the others has. -/
theorem write [Faults] {copy : ModuleCopy} (file : PrintedFile) (hrelative : relative.Named)
    (h : Filled host paths root relative copy.place files mid)
    (hname : Place.Named (Path.pieces file.name)) (hother : ∀ other ∈ files, other.name ≠ file.name)
    {path : String}
    (hrun : mid.perform (copy.write (Path.join ("/".intercalate relative) file.name) file.text) =
      (.ok path, after)) :
    Filled host paths root relative copy.place (files ++ [file]) after := by
  obtain ⟨hmade, hgains, hopens, hholds, hwithin, hwrites⟩ := h
  obtain ⟨hafter, hwritten⟩ := writes_write hwithin hrelative hname hrun
  exact ⟨hmade, hgains, hopens, hholds, hafter, hwrites.concat (hwritten path rfl) hother⟩

/-- If the copy is removed after a file under a proper name, written or not, nothing is left of
it. -/
theorem removed_of_named [Faults] {copy : ModuleCopy} (file : PrintedFile)
    (hrelative : relative.Named) (h : Filled host paths root relative copy.place files mid)
    (hname : Place.Named (Path.pieces file.name)) {outcome : Except Failure String}
    (hrun : mid.perform (copy.write (Path.join ("/".intercalate relative) file.name) file.text) =
      (outcome, after)) :
    host.Gains (after.without copy.place) ((after.without copy.place).OnWay paths) := by
  obtain ⟨hmade, hgains, hopens, -, hwithin, -⟩ := h
  obtain ⟨hafter, -⟩ := writes_write hwithin hrelative hname hrun
  exact (hafter.without_same hmade hopens).1.gains hgains

/-- When the copy is removed, there is nothing where it stood, as before. -/
theorem node?_removed (hwf : host.WellFormed)
    (h : Filled host paths root relative place files mid) (last : Host) {below : Place}
    (hbelow : place <+: below) :
    (last.without place).disk.node? below = host.disk.node? below := by
  have hne : below ≠ [] := by
    rintro rfl
    have hfresh := h.fresh
    rw [List.prefix_nil.1 hbelow] at hfresh
    cases hfresh
  rw [hwf.disk.node?_eq_none_below h.fresh hbelow]
  exact Disk.node?_remove_below hne hbelow

/-- If the copy is removed after a file that was broken off, under whatever name, all is as before
up to that file. -/
theorem removed_of_breaksOff (hwf : host.WellFormed)
    (h : Filled host paths root relative place files mid) {path : String}
    (hbreaks : mid.BreaksOff path after) :
    ∃ spoilt, host.GainsBut (after.without place) spoilt := by
  have hisolated := h.isolated
  obtain ⟨made, hmade, hgains, rfl | ⟨part, found, executable, hfound, hfree, rfl⟩⟩ := hbreaks
  · refine ⟨[], hgains.workDir.trans hisolated.workDir, hgains.tempDir.trans hisolated.tempDir,
      fun other => ?_⟩
    by_cases hother : place <+: other
    · exact .inl (h.node?_removed hwf _ hother)
    · rw [Host.without, Disk.node?_remove_apart hother]
      exact (hisolated.outside_cases hgains hother).imp_right .inl
  have hstands := hmade.stands hfound
  have hne := (free_place hstands hfree).1
  refine ⟨found.place, hgains.workDir.trans hisolated.workDir,
    hgains.tempDir.trans hisolated.tempDir, fun other => ?_⟩
  by_cases hother : place <+: other
  · exact .inl (h.node?_removed hwf _ hother)
  rw [Host.without, Disk.node?_remove_apart hother]
  rcases eq_or_ne other found.place with rfl | hapart
  · refine .inr (.inr ⟨rfl, ⟨_, node?_putNode_self hne, rfl⟩, fun node hnode => ?_⟩)
    have hkept := hgains.node?_of_some (hisolated.nodes _ _ hnode)
    rw [hstands.node?] at hkept
    rcases hfree with hnone | ⟨content, executable, hfile⟩
    · cases hnone.symm.trans hkept
    · cases hfile.symm.trans hkept
      rfl
  · rw [node?_putNode_of_ne hne hapart]
    exact (hisolated.outside_cases hgains hother).imp_right .inl

end Filled

end ModuleCopy

end GoProbe
