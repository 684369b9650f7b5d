import Mathlib
import GoProbe.Module.Copy
import GoProbe.Proofs.HostRuns

/-!
# What a copy of a module holds

While a copy is made, everything outside of its directory stays as it is (`Host.Within`): the copy
holds no links, so the paths of its targets lead to places in it and nowhere else. The second group
says what the copy holds (`ModuleCopy.Holds`): each node that was copied, and nothing that was not.
One copied node keeps this (`holds_take`), and so do all of them (`create_cases`), unless the copy
is removed again.
-/

namespace GoProbe

namespace Path

variable {place rel : Place}

/-- The path leads to the place, and the paths above it lead to places above that one. -/
structure Descends (path : String) (place : Place) : Prop where
  leads : Leads path place
  above : ∀ above ∈ ancestors (path.length + 1) path, ∃ dir, dir <+: place ∧ Leads above dir

theorem descends_path (h : place.Named) : Descends place.path place := by
  refine ⟨leads_path h, fun above habove => ?_⟩
  obtain ⟨dir, hdir, rfl⟩ := Place.mem_ancestors_path h habove
  exact ⟨dir, hdir, leads_path (h.above hdir)⟩

theorem descends_join (h : Place.Named (place ++ rel)) (hne : place ≠ []) :
    Descends (join place.path ("/".intercalate rel)) (place ++ rel) :=
  ⟨leads_join h hne, fun _ => leads_of_mem_ancestors h hne⟩

theorem Leads.ne_empty {path : String} (h : Leads path place) : path ≠ "" := by
  rintro rfl
  exact absurd h.absolute (by decide)

end Path

namespace Host

variable {host mid after : Host}

/-! ## Work below one directory -/

/-- Below the directory `copy`, in which there are no links, there may be anything. All else is as
on `base`. -/
structure Within (base : Host) (copy : Place) (host : Host) : Prop where
  wellFormed : host.WellFormed
  workDir : host.workDir = base.workDir
  tempDir : host.tempDir = base.tempDir
  outside : ∀ place, ¬ copy <+: place → host.disk.node? place = base.disk.node? place
  dir : host.disk.node? copy = some .dir
  unlinked : ∀ rel target, host.disk.node? (copy ++ rel) ≠ some (.link target)

namespace Within

variable {base host after : Host} {copy rel : Place} (h : base.Within copy host)
include h

theorem node?_ne_link {above : Place} (habove : above <+: copy ++ rel) (target : String) :
    host.disk.node? above ≠ some (.link target) := by
  rcases List.prefix_or_prefix_of_prefix habove (List.prefix_append copy rel) with hcopy | hbelow
  · rcases h.wellFormed.disk.node?_above hcopy h.dir with hdir | rfl
    · simp [hdir]
    · simp [h.dir]
  · obtain ⟨rest, rfl⟩ := hbelow
    exact h.unlinked rest target

/-- A path into the copy leads to where it says. -/
theorem place_of_leads {follow : Bool} {path : String} {found : Found}
    (hleads : Path.Leads path (copy ++ rel)) (hnamed : Place.Named (copy ++ rel))
    (hlocate : host.locate follow path = .ok found) : found.place = copy ++ rel :=
  Disk.place_of_leads hleads hnamed (fun _ target habove => h.node?_ne_link habove target) hlocate

theorem putFile {found : Found} (hstands : found.Stands host.disk) (hfree : found.IsFree)
    (hplace : found.place = copy ++ rel) (content : ByteArray) (executable : Bool) :
    base.Within copy (host.putNode found.place (.file content executable)) := by
  obtain ⟨hne, hdir⟩ := free_place hstands hfree
  have hcopy : copy ≠ found.place := by
    intro heq
    exact hdir (heq ▸ h.dir)
  refine ⟨h.wellFormed.putNode hstands hfree, h.workDir, h.tempDir, ?_, ?_, ?_⟩
  · intro place hplace'
    have hother : place ≠ found.place := by
      rintro rfl
      exact hplace' (hplace ▸ List.prefix_append copy rel)
    rw [node?_putNode_of_ne hne hother]
    exact h.outside place hplace'
  · rw [node?_putNode_of_ne hne hcopy]
    exact h.dir
  · intro other target
    rcases eq_or_ne (copy ++ other) found.place with heq | hother
    · rw [heq, node?_putNode_self hne]
      simp
    · rw [node?_putNode_of_ne hne hother]
      exact h.unlinked other target

/-- Directories that are made on the way to a place in the copy are in the copy. -/
theorem gains (hafter : after.WellFormed) (hgains : host.Gains after (· <+: copy ++ rel)) :
    base.Within copy after := by
  refine ⟨hafter, hgains.workDir.trans h.workDir, hgains.tempDir.trans h.tempDir, ?_,
    hgains.node?_of_some h.dir, ?_⟩
  · intro place hplace
    rcases hgains.nodes place with hsame | ⟨hnone, -, hway⟩
    · rw [hsame]
      exact h.outside place hplace
    · -- Above the copy there is nothing new, since the copy is there already.
      rcases List.prefix_or_prefix_of_prefix hway (List.prefix_append copy rel) with habove | hbelow
      · rcases h.wellFormed.disk.node?_above habove h.dir with hdir | rfl
        · cases hnone.symm.trans hdir
        · cases hnone.symm.trans h.dir
      · exact absurd hbelow hplace
  · intro other target hlink
    rcases hgains.nodes (copy ++ other) with hsame | ⟨-, hdir, -⟩
    · exact h.unlinked other target (hsame ▸ hlink)
    · cases hdir.symm.trans hlink

theorem makeDirs [Faults] {path : String} (hpath : Path.Descends path (copy ++ rel))
    (hnamed : Place.Named (copy ++ rel)) {outcome : Except DiskError Unit}
    (hrun : host.perform (OnDisk.makeDirs path) = (outcome, after)) :
    base.Within copy after ∧ host.Gains after (· <+: copy ++ rel) ∧
      (outcome = .ok () → after.disk.node? (copy ++ rel) = some .dir) := by
  obtain ⟨hafter, hgains, hdir⟩ := makeDirs_spec h.wellFormed hrun
  have hlinks : ∀ above target, above <+: copy ++ rel →
      after.disk.node? above ≠ some (.link target) := by
    intro above target habove hlink
    rcases hgains.nodes above with hsame | ⟨-, hnew, -⟩
    · exact h.node?_ne_link habove target (hsame ▸ hlink)
    · cases hnew.symm.trans hlink
  have hway : host.Gains after (· <+: copy ++ rel) := by
    refine hgains.mono fun place hplace => ?_
    obtain ⟨above, habove, hlocate⟩ := hplace
    obtain ⟨dir, hprefixed, hleads⟩ := hpath.above above habove
    have hplace : place = dir := Disk.place_of_leads hleads (hnamed.above hprefixed)
      (fun other target hother => hlinks other target (hother.trans hprefixed)) hlocate
    exact hplace ▸ hprefixed
  refine ⟨h.gains hafter hway, hway, fun hok => ?_⟩
  obtain ⟨place, hlocate⟩ := hdir hok hpath.leads.ne_empty
  have hplace : place = copy ++ rel := Disk.place_of_leads hpath.leads hnamed
    (fun other target hother => hlinks other target hother) hlocate
  exact hplace ▸ (hafter.stands hlocate).node?

/-- A directory that was empty at first. -/
theorem keepsAll (hempty : ∀ rel, rel ≠ [] → base.disk.node? (copy ++ rel) = none)
    (hdir : base.disk.node? copy = some .dir) : base.KeepsAll host := by
  refine ⟨h.workDir, h.tempDir, fun place node hnode => ?_⟩
  by_cases hplace : copy <+: place
  · obtain ⟨rel, rfl⟩ := hplace
    rcases eq_or_ne rel [] with rfl | hne
    · rw [List.append_nil] at hnode ⊢
      rw [h.dir, ← hdir, hnode]
    · cases (hempty rel hne).symm.trans hnode
  · rw [h.outside place hplace, hnode]

end Within

/-! ## A new directory -/

/-- A new directory is all in which the host `base` differs from `made`. -/
structure Opens (made : Host) (copy : Place) (base : Host) : Prop where
  wellFormed : base.WellFormed
  workDir : base.workDir = made.workDir
  tempDir : base.tempDir = made.tempDir
  fresh : made.disk.node? copy = none
  dir : base.disk.node? copy = some .dir
  others : ∀ place, place ≠ copy → base.disk.node? place = made.disk.node? place

namespace Opens

variable {made base host : Host} {copy rel : Place} (h : made.Opens copy base)
include h

theorem ne_nil : copy ≠ [] := by
  rintro rfl
  cases h.fresh

theorem keepsAll : made.KeepsAll base := by
  refine ⟨h.workDir, h.tempDir, fun place node hnode => ?_⟩
  rw [h.others place, hnode]
  rintro rfl
  cases h.fresh.symm.trans hnode

theorem node?_below (hmade : made.WellFormed) (hne : rel ≠ []) :
    base.disk.node? (copy ++ rel) = none := by
  rw [h.others (copy ++ rel) (by simpa using hne)]
  exact hmade.disk.node?_eq_none_below h.fresh (List.prefix_append copy rel)

theorem within (hmade : made.WellFormed) : base.Within copy base := by
  refine ⟨h.wellFormed, rfl, rfl, fun _ _ => rfl, h.dir, fun rel target hlink => ?_⟩
  rcases eq_or_ne rel [] with rfl | hne
  · rw [List.append_nil, h.dir] at hlink
    cases hlink
  · cases (h.node?_below hmade hne).symm.trans hlink

end Opens

theorem makeTemp_cases [Faults] (hwf : host.WellFormed) {dir : Place} {stem : String}
    (hdir : host.disk.node? dir = some .dir) (hstem : '/' ∉ stem.toList)
    {outcome : Except DiskError Place}
    (h : host.perform (OnDisk.makeTemp dir stem) = (outcome, after)) :
    (∃ err, outcome = .error err ∧ after = host) ∨
      ∃ copy, outcome = .ok copy ∧ host.Opens copy after := by
  rw [OnDisk.makeTemp, perform_bind_ok perform_get] at h
  rcases liftM_bind_cases h with hfail | ⟨_, -, h⟩
  · exact .inl hfail
  cases h
  let number := OnDisk.freeNumber host.disk dir stem (host.disk.nodes.length + 1) (host.serial + 1)
  have hne : dir ++ [stem ++ OnDisk.suffix number] ≠ [] := by simp
  have hothers : ∀ place, place ≠ dir ++ [stem ++ OnDisk.suffix number] →
      (host.disk.put (dir ++ [stem ++ OnDisk.suffix number]) .dir).node? place =
        host.disk.node? place :=
    fun place hplace => Disk.node?_put_of_ne hne hplace
  have hfresh := OnDisk.node?_freeNumber host.disk dir stem (host.serial + 1)
  refine .inr ⟨_, rfl, ⟨hwf.disk.put hdir (OnDisk.isName_suffix hstem) (.inl rfl), ?_⟩, rfl, rfl,
    hfresh, Disk.node?_put_self hne, hothers⟩
  refine (hothers host.workDir ?_).trans hwf.workDir
  intro heq
  rw [← heq, hwf.workDir] at hfresh
  cases hfresh

/-! ## A removed directory -/

/-- The host without a place and all below it. -/
def without (host : Host) (place : Place) : Host :=
  { host with disk := host.disk.remove place }

/-- Two hosts that no path tells apart. -/
structure Same (host after : Host) : Prop where
  workDir : after.workDir = host.workDir
  tempDir : after.tempDir = host.tempDir
  nodes : after.disk.node? = host.disk.node?

namespace Same

theorem refl (host : Host) : host.Same host := ⟨rfl, rfl, rfl⟩

theorem locate (h : host.Same after) (follow : Bool) (path : String) :
    after.locate follow path = host.locate follow path := by
  rw [Host.locate, Host.locate, h.workDir]
  exact Disk.locate_congr h.nodes _ _ _

theorem gains (h : mid.Same after) {paths : List String}
    (hgains : host.Gains mid (mid.OnWay paths)) : host.Gains after (after.OnWay paths) := by
  refine ⟨h.workDir.trans hgains.workDir, h.tempDir.trans hgains.tempDir, fun place => ?_⟩
  rw [h.nodes]
  refine (hgains.nodes place).imp_right ?_
  rintro ⟨hnone, hdir, path, hpath, hlocate⟩
  exact ⟨hnone, hdir, path, hpath, (h.locate true path).trans hlocate⟩

end Same

/-- A new directory that is removed leaves nothing. -/
theorem Within.without_same {made base : Host} {copy : Place} (hmade : made.WellFormed)
    (hopens : made.Opens copy base) (h : base.Within copy host) :
    made.Same (host.without copy) ∧ (host.without copy).WellFormed := by
  have hnodes : (host.without copy).disk.node? = made.disk.node? := by
    funext place
    show (host.disk.remove copy).node? place = _
    by_cases hplace : copy <+: place
    · have hne : place ≠ [] := by
        rintro rfl
        exact hopens.ne_nil (List.prefix_nil.1 hplace)
      rw [Disk.node?_remove_below hne hplace,
        hmade.disk.node?_eq_none_below hopens.fresh hplace]
    · have hne : place ≠ copy := by
        rintro rfl
        exact hplace List.prefix_rfl
      rw [Disk.node?_remove_apart hplace, h.outside place hplace, hopens.others place hne]
  have hworkDir : (host.without copy).workDir = made.workDir := h.workDir.trans hopens.workDir
  refine ⟨⟨hworkDir, h.tempDir.trans hopens.tempDir, hnodes⟩,
    ⟨h.wellFormed.disk.remove hopens.ne_nil, ?_⟩⟩
  rw [hnodes, hworkDir]
  exact hmade.workDir

end Host

namespace ModuleCopy

open Host

/-! ## What is copied -/

theorem isCopied_append_iff {root copy rel : Place} :
    isCopied root copy (root ++ rel) = true ↔ ¬ copy <+: root ++ rel ∧
      root.getLast? ≠ some versionControlName ∧ ∀ name ∈ rel, name ≠ versionControlName := by
  simp only [isCopied, List.drop_left, Bool.and_eq_true, Bool.not_eq_true', bne_iff_ne, ne_eq,
    List.isPrefixOf_iff_prefix, List.prefix_append, true_and, List.all_eq_true, and_assoc,
    Bool.eq_false_iff]

theorem exists_of_isCopied {root copy place : Place} (h : isCopied root copy place = true) :
    ∃ rel, place = root ++ rel := by
  simp only [isCopied, Bool.and_eq_true, List.isPrefixOf_iff_prefix] at h
  obtain ⟨rel, rfl⟩ := h.1.1.1
  exact ⟨rel, rfl⟩

/-- With a place, those between it and the module are copied. -/
theorem isCopied_above {root copy front rel : Place} (hfront : front <+: rel)
    (h : isCopied root copy (root ++ rel) = true) : isCopied root copy (root ++ front) = true := by
  rw [isCopied_append_iff] at h ⊢
  obtain ⟨hcopy, hroot, hnames⟩ := h
  refine ⟨fun hbelow => hcopy (hbelow.trans ?_), hroot, fun name hname => ?_⟩
  · exact (List.prefix_append_right_inj root).2 hfront
  · exact hnames name (hfront.subset hname)

theorem mem_copied {disk : Disk} {root copy : Place} {entry : Place × DiskNode} :
    entry ∈ disk.copied root copy ↔ entry ∈ disk.entries ∧ isCopied root copy entry.1 = true := by
  rw [Disk.copied, List.mem_mergeSort, List.mem_filter]

/-- What a copy has of a node: the node itself, and of a link a file, which is the one that the link
led to. -/
structure IsCopyOf (host : Host) (place : Place) (node copied : DiskNode) : Prop where
  plain : (∀ target, node ≠ .link target) → copied = node
  linked : ∀ target, node = .link target → copied.isFile = true ∧
    ∀ other found, host.locate true place.path = .ok (.node other found) → copied = found

/-- The directory `copy` holds copies of nodes of the module at `root`, and at least of those that
are done. -/
structure Holds (base : Host) (root copy : Place) (done : List (Place × DiskNode)) (host : Host) :
    Prop extends Host.Within base copy host where
  original : ∀ rel copied, rel ≠ [] → host.disk.node? (copy ++ rel) = some copied →
    ∃ node, base.disk.node? (root ++ rel) = some node ∧ isCopied root copy (root ++ rel) = true ∧
      IsCopyOf base (root ++ rel) node copied
  copied : ∀ rel node, (root ++ rel, node) ∈ done → base.disk.node? (root ++ rel) = some node →
    ∃ copied, host.disk.node? (copy ++ rel) = some copied ∧ IsCopyOf base (root ++ rel) node copied

section Take

variable {base host after : Host} {root copy rel : Place} {node : DiskNode}
  {done : List (Place × DiskNode)}

theorem isCopyOf_dir (base : Host) (place : Place) : IsCopyOf base place .dir .dir :=
  ⟨fun _ => rfl, fun _ h => by cases h⟩

/-- The directories on the way to a directory of the module are directories of the module. -/
theorem Holds.gains (hbase : base.WellFormed) (h : Holds base root copy done host)
    (hnode : base.disk.node? (root ++ rel) = some .dir)
    (hcopied : isCopied root copy (root ++ rel) = true) (hafter : after.WellFormed)
    (hgains : host.Gains after (· <+: copy ++ rel)) : Holds base root copy done after := by
  refine ⟨h.toWithin.gains hafter hgains, ?_, ?_⟩
  · intro front copied hne hfront
    rcases hgains.nodes (copy ++ front) with hsame | ⟨-, hnew, hway⟩
    · exact h.original front copied hne (hsame ▸ hfront)
    · cases hnew.symm.trans hfront
      have hfrontrel : front <+: rel := (List.prefix_append_right_inj copy).1 hway
      have hdir : base.disk.node? (root ++ front) = some .dir := by
        rcases hbase.disk.node?_above ((List.prefix_append_right_inj root).2 hfrontrel) hnode with
          hdir | heq
        · exact hdir
        · rw [heq, hnode]
      exact ⟨.dir, hdir, isCopied_above hfrontrel hcopied, isCopyOf_dir base _⟩
  · intro other node hmem hother
    obtain ⟨copied, hcopy, hcopyOf⟩ := h.copied other node hmem hother
    exact ⟨copied, hgains.node?_of_some hcopy, hcopyOf⟩

/-- One more node. -/
theorem Holds.concat (h : Holds base root copy done host)
    (hnode : base.disk.node? (root ++ rel) = some node) {copied : DiskNode}
    (hcopy : host.disk.node? (copy ++ rel) = some copied)
    (hcopyOf : IsCopyOf base (root ++ rel) node copied) :
    Holds base root copy (done ++ [(root ++ rel, node)]) host := by
  refine ⟨h.toWithin, h.original, fun other original hmem hother => ?_⟩
  rcases List.mem_append.1 hmem with hdone | hlast
  · exact h.copied other original hdone hother
  · obtain ⟨hplace, rfl⟩ := Prod.mk.inj (List.mem_singleton.1 hlast)
    obtain rfl := List.append_cancel_left hplace
    exact ⟨copied, hcopy, hcopyOf⟩

/-- Once all is done, every node that is to be copied is there. -/
theorem Holds.node?_copied (hbase : base.WellFormed)
    (h : Holds base root copy (base.disk.copied root copy) host)
    (hnode : base.disk.node? (root ++ rel) = some node)
    (hcopied : isCopied root copy (root ++ rel) = true) :
    ∃ copied, host.disk.node? (copy ++ rel) = some copied ∧
      IsCopyOf base (root ++ rel) node copied := by
  exact h.copied rel node (mem_copied.2 ⟨hbase.disk.mem_entries_iff.2 hnode, hcopied⟩) hnode

/-! ## Copying -/

theorem relativePath_append (root rel : Place) :
    root.relativePath (root ++ rel) = "/".intercalate rel := by
  rw [Place.relativePath, List.drop_left]

variable {made : Host}

theorem named_target (hopens : made.Opens copy base)
    (hnode : base.disk.node? (root ++ rel) = some node) : Place.Named (copy ++ rel) := by
  have hrel := (Place.named_append.1 (hopens.wellFormed.disk.named _ _ hnode)).2
  exact Place.named_append.2 ⟨hopens.wellFormed.disk.named _ _ hopens.dir, hrel⟩

variable (hmade : made.WellFormed) (hopens : made.Opens copy base)
include hmade hopens

theorem holds_nil : Holds base root copy [] base := by
  refine ⟨hopens.within hmade, fun rel copied hne hcopied => ?_, fun _ _ hmem => ?_⟩
  · cases (hopens.node?_below hmade hne).symm.trans hcopied
  · cases hmem

/-- What a path of the module led to when the copy was empty, it leads to still. -/
theorem locate_base (h : base.Within copy host) {path : String} {place : Place} {found : DiskNode}
    (hlocate : base.locate true path = .ok (.node place found)) :
    host.locate true path = .ok (.node place found) :=
  (h.keepsAll (fun _ => hopens.node?_below hmade) hopens.dir).locate hopens.wellFormed hlocate

/-- A file or a link is copied as the file that its path leads to. -/
theorem isCopyOf_file (h : base.Within copy host)
    (hnode : base.disk.node? (root ++ rel) = some node) {place : Place} {content : ByteArray}
    {executable : Bool}
    (hsource : host.locate true (root ++ rel).path = .ok (.node place (.file content executable))) :
    IsCopyOf base (root ++ rel) node (.file content executable) := by
  have hfound : ∀ other found, base.locate true (root ++ rel).path = .ok (.node other found) →
      DiskNode.file content executable = found := by
    intro other found hlocate
    cases hsource.symm.trans (locate_base hmade hopens h hlocate)
    rfl
  refine ⟨fun hlink => ?_, fun target _ => ⟨rfl, hfound⟩⟩
  exact hfound _ node (Disk.locate_path hopens.wellFormed.disk hnode hlink)

section Target

variable [Faults] (h : Holds base root copy done host)
  (hnode : base.disk.node? (root ++ rel) = some node)
  (hcopied : isCopied root copy (root ++ rel) = true) {target : String}
  (htarget : Path.Descends target (copy ++ rel)) {result : Except DiskError Unit}
include h hnode hcopied htarget

omit hmade in
theorem holds_makeDirs (hdir : node = .dir)
    (hrun : host.perform (OnDisk.makeDirs target) = (result, after)) :
    base.Within copy after ∧
      (result = .ok () → Holds base root copy (done ++ [(root ++ rel, node)]) after) := by
  subst hdir
  obtain ⟨hwithin, hgains, hmade'⟩ := h.makeDirs htarget (named_target hopens hnode) hrun
  have hafter := h.gains hopens.wellFormed hnode hcopied hwithin.wellFormed hgains
  exact ⟨hwithin, fun hok => hafter.concat hnode (hmade' hok) (isCopyOf_dir base _)⟩

theorem holds_copyFile
    (hrun : host.perform (OnDisk.copyFile (root ++ rel).path target) = (result, after)) :
    base.Within copy after ∧
      (result = .ok () → Holds base root copy (done ++ [(root ++ rel, node)]) after) := by
  rcases copyFile_cases hrun with
    ⟨err, rfl, rfl⟩ |
    ⟨place, content, executable, found, written, hsource, hfound, hfree, rfl, hwritten⟩
  · exact ⟨h.toWithin, fun hok => by cases hok⟩
  have hstands := h.wellFormed.stands hfound
  have hplace := h.place_of_leads htarget.leads (named_target hopens hnode) hfound
  have hne := (free_place hstands hfree).1
  have hcopyOf := isCopyOf_file hmade hopens h.toWithin hnode hsource
  have hwithin := h.putFile hstands hfree hplace written executable
  refine ⟨hwithin, fun hok => ?_⟩
  obtain rfl := hwritten hok
  have hself : (host.putNode found.place (.file written executable)).disk.node? (copy ++ rel) =
      some (.file written executable) := by
    rw [← hplace]
    exact node?_putNode_self hne
  have hother : ∀ other, other ≠ rel →
      (host.putNode found.place (.file written executable)).disk.node? (copy ++ other) =
        host.disk.node? (copy ++ other) := by
    intro other hother
    refine node?_putNode_of_ne hne ?_
    rw [hplace, Ne, List.append_cancel_left_eq]
    exact hother
  refine Holds.concat ⟨hwithin, ?_, ?_⟩ hnode hself hcopyOf
  · intro other copied hotherne hnode'
    rcases eq_or_ne other rel with rfl | hrel
    · cases hself.symm.trans hnode'
      exact ⟨node, hnode, hcopied, hcopyOf⟩
    · exact h.original other copied hotherne (hother other hrel ▸ hnode')
  · intro other original hmem horiginal
    rcases eq_or_ne other rel with rfl | hrel
    · cases hnode.symm.trans horiginal
      exact ⟨_, hself, hcopyOf⟩
    · rw [hother other hrel]
      exact h.copied other original hmem horiginal

end Target

variable [Faults]

omit hmade hopens in
/-- The walk through a module goes on, or it ends there. -/
theorem walk_bind_cases {β : Type} {place : Place} {action : DiskAction} {next : Run β}
    {outcome : Except Failure β}
    (h : host.perform (do Run.walk root place action; next) = (outcome, after)) :
    (∃ failure, outcome = .error failure ∧ after = host) ∨
      host.perform next = (outcome, after) := by
  rw [Run.walk, bind_assoc, perform_bind_ok perform_get] at h
  exact (ofExcept_bind_cases h).imp_right fun ⟨_, _, hnext⟩ => hnext

/-- One node is copied, or what has been done stays below the copy. -/
theorem holds_take (h : Holds base root copy done host)
    (hnode : base.disk.node? (root ++ rel) = some node)
    (hcopied : isCopied root copy (root ++ rel) = true) {outcome : Except Failure Nat}
    (hrun : host.perform (take root copy (root ++ rel, node)) = (outcome, after)) :
    base.Within copy after ∧
      ∀ count, outcome = .ok count →
        Holds base root copy (done ++ [(root ++ rel, node)]) after := by
  have htarget := Path.descends_join (named_target hopens hnode) hopens.ne_nil
  rw [← relativePath_append root rel] at htarget
  rw [take] at hrun
  rcases walk_bind_cases hrun with ⟨_, rfl, rfl⟩ | hrun
  · exact ⟨h.toWithin, fun _ hok => by cases hok⟩
  cases node with
  | dir =>
    rcases perform_bind_cases hrun with ⟨failure, hmake, rfl⟩ | ⟨_, made, hmake, hrest⟩
    · obtain ⟨result, hmake, -⟩ := perform_onDisk hmake
      exact ⟨(holds_makeDirs hopens h hnode hcopied htarget rfl hmake).1, fun _ hok => by cases hok⟩
    obtain ⟨hwithin, hholds⟩ :=
      holds_makeDirs hopens h hnode hcopied htarget rfl (perform_onDisk_ok hmake)
    rcases walk_bind_cases hrest with ⟨_, rfl, rfl⟩ | hreturn
    · exact ⟨hwithin, fun _ hok => by cases hok⟩
    · cases hreturn
      exact ⟨hwithin, fun _ _ => hholds rfl⟩
  | file content executable =>
    obtain ⟨result, hcopy, hok⟩ := perform_onDisk_return hrun
    obtain ⟨hwithin, hholds⟩ := holds_copyFile hmade hopens h hnode hcopied htarget hcopy
    exact ⟨hwithin, fun count hcount => hholds (hok ⟨count, hcount⟩)⟩
  | link target =>
    obtain ⟨result, hcopy, hok⟩ := perform_onDisk_return hrun
    obtain ⟨hwithin, hholds⟩ := holds_copyFile hmade hopens h hnode hcopied htarget hcopy
    exact ⟨hwithin, fun count hcount => hholds (hok ⟨count, hcount⟩)⟩

/-- What is to be copied is copied, or what has been done stays below the copy. -/
theorem holds_copied {outcome : Except Failure (List Nat)}
    (hrun : base.perform ((base.disk.copied root copy).mapM (take root copy)) = (outcome, after)) :
    (∃ counts, outcome = .ok counts ∧
        Holds base root copy (base.disk.copied root copy) after) ∨
      ∃ failure, outcome = .error failure ∧ base.Within copy after := by
  refine mapM_cases ?_ (holds_nil hmade hopens) hrun
  intro done entry rest host outcome after hitems hdone hrun
  obtain ⟨place, node⟩ := entry
  have hmem : (place, node) ∈ base.disk.copied root copy := by simp [hitems]
  obtain ⟨hnodes, hcopied⟩ := mem_copied.1 hmem
  obtain ⟨rel, rfl⟩ := exists_of_isCopied hcopied
  have hnode := hopens.wellFormed.disk.mem_entries_iff.1 hnodes
  obtain ⟨hwithin, hholds⟩ := holds_take hmade hopens hdone hnode hcopied hrun
  exact ⟨hholds, fun _ _ => hwithin⟩

end Take

variable {host after : Host}

section Removing

variable {α : Type} {copy : Place} {work : Run α}

theorem perform_orRemove_ok {a : α} (h : host.perform work = (.ok a, after)) :
    host.perform (orRemove copy work) = (.ok a, after) :=
  perform_tryCatch_ok h

theorem perform_orRemove_error {failure : Failure}
    (h : host.perform work = (.error failure, after)) :
    host.perform (orRemove copy work) = (.error failure, after.without copy) :=
  perform_tryCatch_error h

theorem orRemove_cases {outcome : Except Failure α}
    (h : host.perform (orRemove copy work) = (outcome, after)) :
    (∃ a, outcome = .ok a ∧ host.perform work = (.ok a, after)) ∨
      ∃ failure mid, outcome = .error failure ∧ host.perform work = (.error failure, mid) ∧
        after = mid.without copy := by
  cases hwork : host.perform work with
  | mk result mid =>
    cases result with
    | ok a =>
      cases (perform_orRemove_ok hwork).symm.trans h
      exact .inl ⟨a, rfl, rfl⟩
    | error failure =>
      cases (perform_orRemove_error hwork).symm.trans h
      exact .inr ⟨failure, mid, rfl, rfl, rfl⟩

end Removing

variable [Faults]

theorem perform_placeOf (path : String) :
    host.perform (Run.placeOf path) = ((host.place path).mapError (.disk path), host) := by
  rw [Run.placeOf, perform_bind_ok perform_get, perform_ofExcept]

theorem perform_placeOf_ok {path : String} {place : Place} (h : host.place path = .ok place) :
    host.perform (Run.placeOf path) = (.ok place, host) := by
  rw [perform_placeOf, h]
  rfl

/-- A path leads to a place, from which the run goes on, or the run ends. -/
theorem placeOf_bind_cases {β : Type} {path : String} {next : Place → Run β}
    {outcome : Except Failure β}
    (h : host.perform (Run.placeOf path >>= next) = (outcome, after)) :
    (∃ failure, outcome = .error failure ∧ after = host) ∨
      ∃ place, host.place path = .ok place ∧ host.perform (next place) = (outcome, after) := by
  rw [Run.placeOf, bind_assoc, perform_bind_ok perform_get] at h
  exact ofExcept_bind_cases h

theorem exists_of_place {path : String} {place : Place} (h : host.place path = .ok place) :
    ∃ node, host.locate true path = .ok (.node place node) := by
  rw [Host.place] at h
  cases hallow : host.allow (.look path) with
  | error err =>
    rw [hallow] at h
    cases h
  | ok _ =>
    cases hlocate : host.locate true path with
    | error err =>
      rw [hallow, hlocate] at h
      cases h
    | ok found =>
      rw [hallow, hlocate] at h
      cases found with
      | absent other => cases h
      | node other node =>
        cases h
        exact ⟨node, rfl⟩

/-- The new directory is filled, or it is removed again. -/
theorem orRemove_copyEntries_cases {made base : Host} {root copy : Place} (hmade : made.WellFormed)
    (hopens : made.Opens copy base) {outcome : Except Failure ModuleCopy}
    (h : base.perform (orRemove copy (copyEntries root copy)) = (outcome, after)) :
    (∃ failure, outcome = .error failure ∧ made.Same after) ∨
      ∃ files, outcome = .ok ⟨copy, files⟩ ∧
        Holds base root copy (base.disk.copied root copy) after := by
  rcases orRemove_cases h with ⟨a, rfl, hwork⟩ | ⟨failure, last, rfl, hwork, rfl⟩
  · rw [copyEntries, perform_bind_ok perform_get] at hwork
    rcases perform_bind_cases hwork with ⟨_, -, hfail⟩ | ⟨counts, last, hcounts, hreturn⟩
    · cases hfail
    cases hreturn
    rcases holds_copied hmade hopens hcounts with ⟨_, -, hholds⟩ | ⟨_, hfail, -⟩
    · exact .inr ⟨_, rfl, hholds⟩
    · cases hfail
  · rw [copyEntries, perform_bind_ok perform_get] at hwork
    rcases perform_bind_cases hwork with ⟨_, hcounts, -⟩ | ⟨_, _, -, hreturn⟩
    · rcases holds_copied hmade hopens hcounts with ⟨_, hok, -⟩ | ⟨_, -, hwithin⟩
      · cases hok
      · exact .inl ⟨failure, rfl, (hwithin.without_same hmade hopens).1⟩
    · cases hreturn

/-- A module is copied to a new directory, or nothing is left but the directory in which the copy
was to be made. -/
theorem create_cases (hwf : host.WellFormed) {root outputRoot : String}
    {outcome : Except Failure ModuleCopy}
    (h : host.perform (create root outputRoot) = (outcome, after)) :
    ∃ made, made.WellFormed ∧
      host.Gains made (made.OnWay (Path.ancestors (outputRoot.length + 1) outputRoot)) ∧
      ((∃ failure, outcome = .error failure ∧ made.Same after) ∨
        ∃ place copy base, outcome = .ok copy ∧ made.place root = .ok place ∧
          made.Opens copy.place base ∧
          Holds base place copy.place (base.disk.copied place copy.place) after) := by
  rw [create] at h
  rcases perform_bind_cases h with ⟨failure, hmake, rfl⟩ | ⟨_, made, hmake, hrest⟩
  · obtain ⟨result, hmake, -⟩ := perform_onDisk hmake
    obtain ⟨hmade, hgains, -⟩ := makeDirs_spec hwf hmake
    exact ⟨after, hmade, hgains, .inl ⟨failure, rfl, .refl after⟩⟩
  obtain ⟨hmade, hgains, hdir⟩ := makeDirs_spec hwf (perform_onDisk_ok hmake)
  refine ⟨made, hmade, hgains, ?_⟩
  rcases placeOf_bind_cases hrest with ⟨failure, rfl, rfl⟩ | ⟨output, houtput, hrest⟩
  · exact .inl ⟨failure, rfl, .refl after⟩
  rcases placeOf_bind_cases hrest with ⟨failure, rfl, rfl⟩ | ⟨place, hplace, hrest⟩
  · exact .inl ⟨failure, rfl, .refl after⟩
  have houtputDir : made.disk.node? output = some .dir := by
    obtain ⟨node, hlocate⟩ := exists_of_place houtput
    have hne : outputRoot ≠ "" := (Disk.locate_eq_ok_iff.1 hlocate).1
    obtain ⟨other, hother⟩ := hdir rfl hne
    cases hlocate.symm.trans hother
    exact (hmade.stands hlocate).node?
  have hstem : '/' ∉ copyStem.toList := by decide +kernel
  rcases perform_bind_cases hrest with ⟨failure, htemp, rfl⟩ | ⟨copy, base, htemp, hrest⟩
  · obtain ⟨result, htemp, hfail⟩ := perform_onDisk htemp
    rcases makeTemp_cases hmade houtputDir hstem htemp with ⟨_, -, rfl⟩ | ⟨_, rfl, -⟩
    · exact .inl ⟨failure, rfl, .refl after⟩
    · cases hfail
  obtain ⟨_, hfail, -⟩ | ⟨_, hcopy, hopens⟩ :=
    makeTemp_cases hmade houtputDir hstem (perform_onDisk_ok htemp)
  · cases hfail
  cases hcopy
  rcases orRemove_copyEntries_cases hmade hopens hrest with
    ⟨failure, rfl, hsame⟩ | ⟨files, rfl, hholds⟩
  · exact .inl ⟨failure, rfl, hsame⟩
  · exact .inr ⟨place, ⟨copy, files⟩, base, rfl, hplace, hopens, hholds⟩

/-! ## Runs step by step -/

section Steps

variable {made opened : Host} {root output copy : Place}

theorem perform_create {rootPath outputRoot : String}
    (hmake : host.perform (Run.onDisk outputRoot (.makeDirs outputRoot)) = (.ok (), made))
    (houtput : made.place outputRoot = .ok output) (hroot : made.place rootPath = .ok root)
    (htemp : made.perform (Run.onDisk output.path (.makeTemp output copyStem)) =
      (.ok copy, opened)) :
    host.perform (create rootPath outputRoot) =
      opened.perform (orRemove copy (copyEntries root copy)) := by
  rw [create, perform_bind_ok hmake, perform_bind_ok (perform_placeOf_ok houtput),
    perform_bind_ok (perform_placeOf_ok hroot), perform_bind_ok htemp]

variable {entries : List (Place × DiskNode)} (hentries : host.disk.copied root copy = entries)
include hentries

theorem perform_copyEntries_ok {counts : List Nat}
    (h : host.perform (entries.mapM (take root copy)) = (.ok counts, after)) :
    host.perform (orRemove copy (copyEntries root copy)) =
      (.ok ⟨copy, counts.foldl (· + ·) 0⟩, after) := by
  refine perform_orRemove_ok ?_
  rw [copyEntries, perform_bind_ok perform_get, hentries, perform_bind_ok h, perform_pure]

theorem perform_copyEntries_error {failure : Failure}
    (h : host.perform (entries.mapM (take root copy)) = (.error failure, after)) :
    host.perform (orRemove copy (copyEntries root copy)) =
      (.error failure, after.without copy) := by
  refine perform_orRemove_error ?_
  rw [copyEntries, perform_bind_ok perform_get, hentries, perform_bind_error h]

end Steps

end ModuleCopy

end GoProbe
