import Mathlib
import GoProbe.Failure
import GoProbe.Proofs.Locating

/-!
# What computations do to a host

`Host.perform` says what a computation comes to and what it leaves. It is taken apart at each step
(`perform_bind_cases`), and each operation on the disk has a lemma that says all it can do
(`write_cases`, `makeDir_cases`, `copyFile_cases`): it fails and leaves the host as it was, or it
puts one node where its path leads. A file that is broken off holds a part of its content then.

Hosts that hang together stay so (`Host.WellFormed`). `Host.KeepsAll` says that all nodes are where
they were, and `Host.Gains` that what is new are directories. Making a directory with all above it
gains only directories that the paths above it lead to (`makeDirs_spec`).
-/

namespace GoProbe

deriving instance DecidableEq for Found
deriving instance DecidableEq for Host

/-- A file can be written there: nothing or a file was found. -/
def Found.IsFree (found : Found) : Prop :=
  found.node? = none ∨ ∃ content executable, found.node? = some (.file content executable)

namespace Host

/-! ## Runs -/

section Runs

variable {ε α β : Type} {host mid after : Host} {outcome : Except ε β}

/-- What a computation comes to on a host, and the host afterwards. -/
def perform {ε α : Type} (host : Host) (work : ExceptT ε (StateM Host) α) : Except ε α × Host :=
  work.run.run host

@[simp] theorem perform_pure (a : α) :
    host.perform (pure a : ExceptT ε (StateM Host) α) = (.ok a, host) := rfl

@[simp] theorem perform_throw (err : ε) :
    host.perform (throw err : ExceptT ε (StateM Host) α) = (.error err, host) := rfl

@[simp] theorem perform_get :
    host.perform (get : ExceptT ε (StateM Host) Host) = (.ok host, host) := rfl

@[simp] theorem perform_modify (change : Host → Host) :
    host.perform (modify change : ExceptT ε (StateM Host) PUnit) = (.ok ⟨⟩, change host) := rfl

@[simp] theorem perform_liftM (result : Except ε α) :
    host.perform (liftM result : ExceptT ε (StateM Host) α) = (result, host) := by
  cases result <;> rfl

theorem perform_bind_ok {work : ExceptT ε (StateM Host) α} {next : α → ExceptT ε (StateM Host) β}
    {a : α} (h : host.perform work = (.ok a, mid)) :
    host.perform (work >>= next) = mid.perform (next a) := by
  simp only [perform, ExceptT.run_bind, StateT.run_bind] at h ⊢
  rw [h]
  rfl

theorem perform_bind_error {work : ExceptT ε (StateM Host) α}
    {next : α → ExceptT ε (StateM Host) β} {err : ε}
    (h : host.perform work = (.error err, mid)) :
    host.perform (work >>= next) = (.error err, mid) := by
  simp only [perform, ExceptT.run_bind, StateT.run_bind] at h ⊢
  rw [h]
  rfl

/-- Of two computations one after the other, the first fails, or the second goes on from where it
ended. -/
theorem perform_bind_cases {work : ExceptT ε (StateM Host) α}
    {next : α → ExceptT ε (StateM Host) β} (h : host.perform (work >>= next) = (outcome, after)) :
    (∃ err, host.perform work = (.error err, after) ∧ outcome = .error err) ∨
      ∃ a mid, host.perform work = (.ok a, mid) ∧ mid.perform (next a) = (outcome, after) := by
  cases hwork : host.perform work with
  | mk result mid =>
    cases result with
    | error err =>
      rw [perform_bind_error hwork] at h
      cases h
      exact .inl ⟨err, rfl, rfl⟩
    | ok a =>
      rw [perform_bind_ok hwork] at h
      exact .inr ⟨a, mid, rfl, h⟩

/-- A result is taken, or it ends the computation. -/
theorem liftM_bind_cases {result : Except ε α} {next : α → ExceptT ε (StateM Host) β}
    (h : host.perform (liftM result >>= next) = (outcome, after)) :
    (∃ err, outcome = .error err ∧ after = host) ∨
      ∃ a, result = .ok a ∧ host.perform (next a) = (outcome, after) := by
  rcases perform_bind_cases h with ⟨err, hresult, rfl⟩ | ⟨a, mid, hresult, hnext⟩
  · rw [perform_liftM] at hresult
    cases hresult
    exact .inl ⟨err, rfl, rfl⟩
  · rw [perform_liftM] at hresult
    cases hresult
    exact .inr ⟨a, rfl, hnext⟩

theorem perform_tryCatch_ok {work : ExceptT ε (StateM Host) α}
    {handle : ε → ExceptT ε (StateM Host) α} {a : α} (h : host.perform work = (.ok a, mid)) :
    host.perform (tryCatch work handle) = (.ok a, mid) := by
  rw [perform, ExceptT.run] at h
  change (ExceptT.tryCatch work handle).run.run host = _
  rw [ExceptT.tryCatch, ExceptT.run_mk, StateT.run_bind, h]
  rfl

theorem perform_tryCatch_error {work : ExceptT ε (StateM Host) α}
    {handle : ε → ExceptT ε (StateM Host) α} {err : ε}
    (h : host.perform work = (.error err, mid)) :
    host.perform (tryCatch work handle) = mid.perform (handle err) := by
  rw [perform, ExceptT.run] at h
  change (ExceptT.tryCatch work handle).run.run host = _
  rw [ExceptT.tryCatch, ExceptT.run_mk, StateT.run_bind, h]
  rfl

end Runs

/-! ## Hosts that hang together -/

/-- The host with a node put to a place. -/
def putNode (host : Host) (place : Place) (node : DiskNode) : Host :=
  { host with disk := host.disk.put place node }

variable {host mid after : Host}

/-- The disk hangs together, and the working directory is one. -/
structure WellFormed (host : Host) : Prop where
  disk : host.disk.WellFormed
  workDir : host.disk.node? host.workDir = some .dir

instance (host : Host) : Decidable host.WellFormed :=
  decidable_of_iff (host.disk.WellFormed ∧ host.disk.node? host.workDir = some .dir)
    ⟨fun h => ⟨h.1, h.2⟩, fun h => ⟨h.1, h.2⟩⟩

theorem node?_putNode_self {place : Place} {node : DiskNode} (hne : place ≠ []) :
    (host.putNode place node).disk.node? place = some node :=
  Disk.node?_put_self hne

theorem node?_putNode_of_ne {place other : Place} {node : DiskNode} (hne : place ≠ [])
    (hother : other ≠ place) :
    (host.putNode place node).disk.node? other = host.disk.node? other :=
  Disk.node?_put_of_ne hne hother

section Put

variable {found : Found} {node : DiskNode} (hstands : found.Stands host.disk)
  (hfree : found.IsFree)
include hstands hfree

/-- Nothing is put to the root or in the place of a directory. -/
theorem free_place : found.place ≠ [] ∧ host.disk.node? found.place ≠ some .dir := by
  have hdir : host.disk.node? found.place ≠ some .dir := by
    rw [hstands.node?]
    rcases hfree with hnone | ⟨content, executable, hfile⟩
    · simp [hnone]
    · simp [hfile]
  exact ⟨fun hnil => hdir (by rw [hnil, Disk.node?_root]), hdir⟩

theorem keeps_putNode : host.disk.Keeps (host.putNode found.place node).disk := by
  obtain ⟨hne, -⟩ := free_place hstands hfree
  intro place kept hkept hfile
  rw [node?_putNode_of_ne hne, hkept]
  rintro rfl
  rw [hstands.node?] at hkept
  rcases hfree with hnone | ⟨content, executable, hfound⟩
  · cases hnone.symm.trans hkept
  · cases hfound.symm.trans hkept
    cases hfile

theorem WellFormed.putNode (h : host.WellFormed) : (host.putNode found.place node).WellFormed := by
  obtain ⟨hne, hdir⟩ := free_place hstands hfree
  obtain ⟨dir, name, hplace, hdirNode, hname⟩ : ∃ dir name, found.place = dir ++ [name] ∧
      host.disk.node? dir = some .dir ∧ Path.IsName name := by
    rcases hfree with hnone | ⟨content, executable, hfile⟩
    · exact hstands.dir hnone
    · obtain ⟨dir, name, hplace⟩ := found.place.eq_nil_or_concat'.resolve_left hne
      have hnode := hstands.node?
      rw [hfile, hplace] at hnode
      exact ⟨dir, name, hplace, h.disk.parents dir name _ hnode,
        h.disk.named _ _ hnode name (by simp)⟩
  constructor
  · show (host.disk.put found.place node).WellFormed
    rw [hplace] at hdir ⊢
    exact h.disk.put hdirNode hname (.inr hdir)
  · exact keeps_putNode hstands hfree _ _ h.workDir rfl

/-- What was put to the end of a path is found there. -/
theorem locate_putNode (h : host.WellFormed) {follow : Bool} {path : String}
    (hlocate : host.locate follow path = .ok found) (hlink : ∀ target, node ≠ .link target) :
    (host.putNode found.place node).locate true path = .ok (.node found.place node) := by
  exact Disk.locate_of_keeps (keeps_putNode hstands hfree) h.disk h.workDir hlocate
    (node?_putNode_self (free_place hstands hfree).1) hlink

end Put

theorem WellFormed.stands (h : host.WellFormed) {follow : Bool} {path : String} {found : Found}
    (hlocate : host.locate follow path = .ok found) : found.Stands host.disk :=
  Disk.locate_stands h.disk h.workDir hlocate

/-- A file with this content was put to where a path leads. -/
def PutsFile (host : Host) (path : String) (content : ByteArray) (after : Host) : Prop :=
  ∃ found executable, host.locate true path = .ok found ∧ found.IsFree ∧
    after = host.putNode found.place (.file content executable)

namespace PutsFile

variable {path : String} {content : ByteArray} (h : host.PutsFile path content after)
  (hwf : host.WellFormed)
include h hwf

theorem wellFormed : after.WellFormed := by
  obtain ⟨found, executable, hfound, hfree, rfl⟩ := h
  exact hwf.putNode (hwf.stands hfound) hfree

/-- Directories and links stay. -/
theorem keeps : host.disk.Keeps after.disk := by
  obtain ⟨found, executable, hfound, hfree, rfl⟩ := h
  exact keeps_putNode (hwf.stands hfound) hfree

theorem exists_locate : ∃ place executable,
    after.locate true path = .ok (.node place (.file content executable)) := by
  obtain ⟨found, executable, hfound, hfree, rfl⟩ := h
  exact ⟨found.place, executable,
    locate_putNode (hwf.stands hfound) hfree hwf hfound (by simp)⟩

end PutsFile

/-! ## What is kept -/

/-- Every node is still where it was. -/
structure KeepsAll (host after : Host) : Prop where
  workDir : after.workDir = host.workDir
  tempDir : after.tempDir = host.tempDir
  nodes : ∀ place node, host.disk.node? place = some node → after.disk.node? place = some node

namespace KeepsAll

theorem refl (host : Host) : host.KeepsAll host := ⟨rfl, rfl, fun _ _ => id⟩

theorem trans (h : host.KeepsAll mid) (h' : mid.KeepsAll after) : host.KeepsAll after :=
  ⟨h'.workDir.trans h.workDir, h'.tempDir.trans h.tempDir,
    fun place node hnode => h'.nodes place node (h.nodes place node hnode)⟩

/-- What a path led to it leads to still. -/
theorem locate (h : host.KeepsAll after) (hwf : host.WellFormed) {path : String} {place : Place}
    {node : DiskNode} (hlocate : host.locate true path = .ok (.node place node)) :
    after.locate true path = .ok (.node place node) := by
  rw [Host.locate, h.workDir]
  have hnode : host.disk.node? place = some node := (hwf.stands hlocate).node?
  have hlink (target : String) : node ≠ .link target := by
    rintro rfl
    exact Disk.locate_ne_link hlocate target rfl
  exact Disk.locate_of_keeps (fun place node hnode _ => h.nodes place node hnode) hwf.disk
    hwf.workDir hlocate (h.nodes place node hnode) hlink

end KeepsAll

/-! ## New directories -/

/-- All nodes are kept, and what is new are directories where `way` allows one. -/
structure Gains (host after : Host) (way : Place → Prop) : Prop where
  workDir : after.workDir = host.workDir
  tempDir : after.tempDir = host.tempDir
  nodes : ∀ place, after.disk.node? place = host.disk.node? place ∨
    host.disk.node? place = none ∧ after.disk.node? place = some .dir ∧ way place

namespace Gains

variable {way way' : Place → Prop}

theorem refl (host : Host) (way : Place → Prop) : host.Gains host way :=
  ⟨rfl, rfl, fun _ => .inl rfl⟩

theorem mono (h : host.Gains after way) (hway : ∀ place, way place → way' place) :
    host.Gains after way' :=
  ⟨h.workDir, h.tempDir, fun place => (h.nodes place).imp_right
    fun ⟨hnone, hdir, hplace⟩ => ⟨hnone, hdir, hway place hplace⟩⟩

theorem trans (h : host.Gains mid way) (h' : mid.Gains after way) : host.Gains after way := by
  refine ⟨h'.workDir.trans h.workDir, h'.tempDir.trans h.tempDir, fun place => ?_⟩
  rcases h'.nodes place with hsame | ⟨hnone, hdir, hplace⟩
  · rw [hsame]
    exact h.nodes place
  · rcases h.nodes place with hsame | ⟨-, hmid, -⟩
    · exact .inr ⟨hsame ▸ hnone, hdir, hplace⟩
    · cases hnone.symm.trans hmid

theorem node?_of_some (h : host.Gains after way) {place : Place} {node : DiskNode}
    (hnode : host.disk.node? place = some node) : after.disk.node? place = some node := by
  rcases h.nodes place with hsame | ⟨hnone, -⟩
  · rw [hsame, hnode]
  · cases hnone.symm.trans hnode

theorem keepsAll (h : host.Gains after way) : host.KeepsAll after :=
  ⟨h.workDir, h.tempDir, fun _ _ => h.node?_of_some⟩

end Gains

/-- All nodes are kept and what is new are directories, but at one place a file may have been
written or broken off. -/
structure GainsBut (host after : Host) (spoilt : Place) : Prop where
  workDir : after.workDir = host.workDir
  tempDir : after.tempDir = host.tempDir
  nodes : ∀ place, after.disk.node? place = host.disk.node? place ∨
    (host.disk.node? place = none ∧ after.disk.node? place = some .dir) ∨
    (place = spoilt ∧ (∃ node, after.disk.node? place = some node ∧ node.isFile = true) ∧
      ∀ node, host.disk.node? place = some node → node.isFile = true)

theorem Gains.but {way : Place → Prop} (h : host.Gains after way) (spoilt : Place) :
    host.GainsBut after spoilt :=
  ⟨h.workDir, h.tempDir, fun place => (h.nodes place).imp_right
    fun ⟨hnone, hdir, _⟩ => .inl ⟨hnone, hdir⟩⟩

/-- What is left where a file cannot be written: new directories, and perhaps a part of the file. -/
def BreaksOff (host : Host) (path : String) (after : Host) : Prop :=
  ∃ made, made.WellFormed ∧ (host.Gains made fun _ => True) ∧
    (after = made ∨ ∃ part, made.PutsFile path part after)

/-- The place is one to which a path of the list leads. -/
def OnWay (host : Host) (paths : List String) (place : Place) : Prop :=
  ∃ path ∈ paths, host.locate true path = .ok (.node place .dir)

theorem OnWay.mono {paths others : List String} {place : Place} (h : host.OnWay paths place)
    (hpaths : paths ⊆ others) : host.OnWay others place :=
  h.imp fun _ ⟨hpath, hlocate⟩ => ⟨hpaths hpath, hlocate⟩

/-- Directories on the way come one after another. -/
theorem Gains.trans_onWay {paths others : List String} (hmid : mid.WellFormed)
    (h : host.Gains mid (mid.OnWay others)) (h' : mid.Gains after (after.OnWay paths)) :
    host.Gains after (after.OnWay (paths ++ others)) := by
  have hfirst : host.Gains mid (after.OnWay (paths ++ others)) := by
    refine h.mono ?_
    rintro place ⟨path, hpath, hlocate⟩
    exact ⟨path, List.mem_append_right _ hpath, h'.keepsAll.locate hmid hlocate⟩
  exact hfirst.trans (h'.mono fun _ hway => hway.mono (List.subset_append_left _ _))

/-! ## Single operations -/

section Operations

variable [Faults]

/-- A file is left as it is, or filled, if only with a part of its content. -/
theorem fill_cases {action : DiskAction} {place : Place} {content : ByteArray} {executable : Bool}
    {outcome : Except DiskError Unit}
    (h : host.perform (OnDisk.fill action place content executable) = (outcome, after)) :
    (∃ err, outcome = .error err ∧ after = host) ∨
      ∃ written, after = host.putNode place (.file written executable) ∧
        (outcome = .ok () → written = content) := by
  rw [OnDisk.fill, perform_bind_ok perform_get] at h
  split at h
  · cases h
    exact .inr ⟨content, rfl, fun _ => rfl⟩
  · cases h
    exact .inl ⟨_, rfl, rfl⟩
  · cases h
    exact .inr ⟨_, rfl, fun hok => by cases hok⟩

/-- A file is left as it is, or something of its content stands where its path leads, and all of it
if that goes well. -/
theorem write_cases {path : String} {content : ByteArray} {outcome : Except DiskError Unit}
    (h : host.perform (OnDisk.write path content) = (outcome, after)) :
    (∃ err, outcome = .error err ∧ after = host) ∨
      ∃ written, host.PutsFile path written after ∧ (outcome = .ok () → written = content) := by
  rw [OnDisk.write, perform_bind_ok perform_get] at h
  rcases liftM_bind_cases h with hfail | ⟨found, hfound, h⟩
  · exact .inl hfail
  cases found with
  | absent place =>
    refine (fill_cases h).imp_right fun ⟨written, hafter, hwritten⟩ => ?_
    exact ⟨written, ⟨_, false, hfound, .inl rfl, hafter⟩, hwritten⟩
  | node place node =>
    cases node with
    | file old executable =>
      refine (fill_cases h).imp_right fun ⟨written, hafter, hwritten⟩ => ?_
      exact ⟨written, ⟨_, executable, hfound, .inr ⟨old, executable, rfl⟩, hafter⟩, hwritten⟩
    | dir =>
      cases h
      exact .inl ⟨_, rfl, rfl⟩
    | link target =>
      cases h
      exact .inl ⟨_, rfl, rfl⟩

theorem copyFile_cases {source target : String} {outcome : Except DiskError Unit}
    (h : host.perform (OnDisk.copyFile source target) = (outcome, after)) :
    (∃ err, outcome = .error err ∧ after = host) ∨
      ∃ place content executable found written,
        host.locate true source = .ok (.node place (.file content executable)) ∧
        host.locate true target = .ok found ∧ found.IsFree ∧
        after = host.putNode found.place (.file written executable) ∧
        (outcome = .ok () → written = content) := by
  rw [OnDisk.copyFile, perform_bind_ok perform_get] at h
  rcases liftM_bind_cases h with hfail | ⟨found, hsource, h⟩
  · exact .inl hfail
  cases found with
  | absent place =>
    cases h
    exact .inl ⟨_, rfl, rfl⟩
  | node place node =>
    cases node with
    | dir =>
      cases h
      exact .inl ⟨_, rfl, rfl⟩
    | link target =>
      cases h
      exact .inl ⟨_, rfl, rfl⟩
    | file content executable =>
      dsimp only at h
      rw [perform_bind_ok perform_get] at h
      rcases liftM_bind_cases h with hfail | ⟨found, htarget, h⟩
      · exact .inl hfail
      cases found with
      | absent other =>
        refine (fill_cases h).imp_right fun ⟨written, hafter, hwritten⟩ => ?_
        exact ⟨place, content, executable, _, written, hsource, htarget, .inl rfl, hafter, hwritten⟩
      | node other node =>
        cases node with
        | file old mode =>
          refine (fill_cases h).imp_right fun ⟨written, hafter, hwritten⟩ => ?_
          exact ⟨place, content, executable, _, written, hsource, htarget, .inr ⟨old, mode, rfl⟩,
            hafter, hwritten⟩
        | dir =>
          cases h
          exact .inl ⟨_, rfl, rfl⟩
        | link target =>
          cases h
          exact .inl ⟨_, rfl, rfl⟩

theorem makeDir_cases {path : String} {outcome : Except DiskError Unit}
    (h : host.perform (OnDisk.makeDir path) = (outcome, after)) :
    (∃ err, outcome = .error err ∧ after = host) ∨
      ∃ place, host.locate false (OnDisk.trimSlashes path) = .ok (.absent place) ∧
        outcome = .ok () ∧ after = host.putNode place .dir := by
  rw [OnDisk.makeDir, perform_bind_ok perform_get] at h
  rcases liftM_bind_cases h with hfail | ⟨_, -, h⟩
  · exact .inl hfail
  rw [perform_bind_ok perform_get] at h
  rcases liftM_bind_cases h with hfail | ⟨found, hfound, h⟩
  · exact .inl hfail
  cases found with
  | absent place =>
    cases h
    exact .inr ⟨place, hfound, rfl, rfl⟩
  | node place node =>
    cases h
    exact .inl ⟨_, rfl, rfl⟩

/-! ## Making directories -/

/-- What is seen to be a directory is one. -/
theorem exists_of_isDir {path : String} (h : host.isDir path = true) :
    ∃ place, host.locate true path = .ok (.node place .dir) := by
  rw [isDir, seen?] at h
  split at h
  · rw [Host.node?] at h
    cases hlocate : host.locate true path with
    | error err => simp [hlocate] at h
    | ok found =>
      cases found with
      | absent place => simp [hlocate] at h
      | node place node => cases node <;> simp [hlocate, DiskNode.isDir] at h ⊢
  · cases h

/-- A directory that is made is the only new thing, and its path leads to it. -/
theorem makeDir_ok (hwf : host.WellFormed) {path : String}
    (h : host.perform (OnDisk.makeDir path) = (.ok (), after)) :
    after.WellFormed ∧ host.Gains after (after.OnWay [path]) ∧
      ∃ place, after.locate true path = .ok (.node place .dir) := by
  rcases makeDir_cases h with ⟨err, hfail, -⟩ | ⟨place, hlocate, -, rfl⟩
  · cases hfail
  · have hstands := hwf.stands hlocate
    have hfree : (Found.absent place).IsFree := .inl rfl
    have hne : place ≠ [] := (free_place hstands hfree).1
    have hdir : (host.putNode place .dir).locate true path = .ok (.node place .dir) :=
      Disk.locate_of_trimSlashes (locate_putNode hstands hfree hwf hlocate (by simp))
    refine ⟨hwf.putNode hstands hfree, ⟨rfl, rfl, fun other => ?_⟩, place, hdir⟩
    rcases eq_or_ne other place with rfl | hother
    · exact .inr ⟨hstands.node?, node?_putNode_self hne, path, List.mem_singleton_self path, hdir⟩
    · exact .inl (node?_putNode_of_ne hne hother)

theorem makeDir_error {path : String} {err : DiskError}
    (h : host.perform (OnDisk.makeDir path) = (.error err, after)) : after = host := by
  rcases makeDir_cases h with ⟨_, -, rfl⟩ | ⟨_, -, hok, -⟩
  · rfl
  · cases hok

/-- A failure is let pass where the path leads to a directory. -/
theorem unlessDir_cases {path : String} {err : DiskError} {outcome : Except DiskError Unit}
    (h : host.perform (do if !(← get).isDir path then throw err : OnDisk Unit) = (outcome, after)) :
    after = host ∧ (outcome = .ok () → host.isDir path = true) := by
  rw [perform_bind_ok perform_get] at h
  cases hdir : host.isDir path with
  | true =>
    rw [hdir] at h
    cases h
    exact ⟨rfl, fun _ => rfl⟩
  | false =>
    rw [hdir] at h
    cases h
    exact ⟨rfl, fun hok => by cases hok⟩

/-- A directory is made, or it is there, or that is the failure. -/
theorem makeDir_unlessDir_cases {path : String} {outcome : Except DiskError Unit}
    (h : host.perform (tryCatch (OnDisk.makeDir path)
      fun err => do if !(← get).isDir path then throw err) = (outcome, after)) :
    (host.perform (OnDisk.makeDir path) = (.ok (), after) ∧ outcome = .ok ()) ∨
      after = host ∧ (outcome = .ok () → host.isDir path = true) := by
  cases hmake : host.perform (OnDisk.makeDir path) with
  | mk result made =>
    cases result with
    | ok _ =>
      rw [perform_tryCatch_ok hmake] at h
      cases h
      exact .inl ⟨rfl, rfl⟩
    | error err =>
      rw [perform_tryCatch_error hmake, makeDir_error hmake] at h
      exact .inr (unlessDir_cases h)

/-- The first directory of a list is made at once, or after those above it, or not at all. -/
theorem makeMissing_cons_cases {path : String} {above : List String} (hempty : path ≠ "")
    {outcome : Except DiskError Unit}
    (h : host.perform (OnDisk.makeMissing (path :: above)) = (outcome, after)) :
    (∃ cause, host.perform (OnDisk.makeMissing above) = (.error cause, after) ∧
        outcome = .error cause) ∨
      ∃ mid, (mid = host ∨ host.perform (OnDisk.makeMissing above) = (.ok (), mid)) ∧
        ((mid.perform (OnDisk.makeDir path) = (.ok (), after) ∧ outcome = .ok ()) ∨
          after = mid ∧ (outcome = .ok () → mid.isDir path = true)) := by
  rw [OnDisk.makeMissing.eq_3 path above hempty] at h
  cases hmake : host.perform (OnDisk.makeDir path) with
  | mk result made =>
    cases result with
    | ok _ =>
      rw [perform_tryCatch_ok hmake] at h
      cases h
      exact .inr ⟨host, .inl rfl, .inl ⟨hmake, rfl⟩⟩
    | error err =>
      rw [perform_tryCatch_error hmake, makeDir_error hmake] at h
      cases err with
      | notFound =>
        rcases perform_bind_cases h with ⟨cause, habove, rfl⟩ | ⟨_, mid, habove, hagain⟩
        · exact .inl ⟨cause, habove, rfl⟩
        · exact .inr ⟨mid, .inr habove, makeDir_unlessDir_cases hagain⟩
      | notDirectory => exact .inr ⟨host, .inl rfl, .inr (unlessDir_cases h)⟩
      | isDirectory => exact .inr ⟨host, .inl rfl, .inr (unlessDir_cases h)⟩
      | alreadyThere => exact .inr ⟨host, .inl rfl, .inr (unlessDir_cases h)⟩
      | tooManyLinks => exact .inr ⟨host, .inl rfl, .inr (unlessDir_cases h)⟩
      | notText => exact .inr ⟨host, .inl rfl, .inr (unlessDir_cases h)⟩
      | invalid => exact .inr ⟨host, .inl rfl, .inr (unlessDir_cases h)⟩
      | other text => exact .inr ⟨host, .inl rfl, .inr (unlessDir_cases h)⟩

theorem makeMissing_spec (hwf : host.WellFormed) {paths : List String}
    {outcome : Except DiskError Unit}
    (h : host.perform (OnDisk.makeMissing paths) = (outcome, after)) :
    after.WellFormed ∧ host.Gains after (after.OnWay paths) ∧
      (outcome = .ok () → ∀ path ∈ paths.head?, path ≠ "" →
        ∃ place, after.locate true path = .ok (.node place .dir)) := by
  induction paths generalizing host outcome after with
  | nil =>
    cases h
    exact ⟨hwf, .refl _ _, by simp⟩
  | cons path above ih =>
    by_cases hempty : path = ""
    · subst hempty
      cases h
      exact ⟨hwf, .refl _ _, by simp⟩
    rcases makeMissing_cons_cases hempty h with ⟨cause, habove, rfl⟩ | ⟨mid, hmid, hend⟩
    · obtain ⟨hafter, hgains, -⟩ := ih hwf habove
      exact ⟨hafter, hgains.mono fun _ hway => hway.mono (List.subset_cons_self _ _), by simp⟩
    obtain ⟨hmid, hgains⟩ : mid.WellFormed ∧ host.Gains mid (mid.OnWay above) := by
      rcases hmid with rfl | habove
      · exact ⟨hwf, .refl _ _⟩
      · obtain ⟨hmid, hgains, -⟩ := ih hwf habove
        exact ⟨hmid, hgains⟩
    rcases hend with ⟨hmake, rfl⟩ | ⟨rfl, hdir⟩
    · obtain ⟨hafter, hgains', hdir⟩ := makeDir_ok hmid hmake
      exact ⟨hafter, hgains.trans_onWay hmid hgains', by simp [hdir]⟩
    · refine ⟨hmid, hgains.mono fun _ hway => hway.mono (List.subset_cons_self _ _), fun hok => ?_⟩
      simp [exists_of_isDir (hdir hok)]

theorem makeDirs_spec (hwf : host.WellFormed) {path : String} {outcome : Except DiskError Unit}
    (h : host.perform (OnDisk.makeDirs path) = (outcome, after)) :
    after.WellFormed ∧ host.Gains after (after.OnWay (Path.ancestors (path.length + 1) path)) ∧
      (outcome = .ok () → path ≠ "" →
        ∃ place, after.locate true path = .ok (.node place .dir)) := by
  obtain ⟨hafter, hgains, hdir⟩ := makeMissing_spec hwf h
  refine ⟨hafter, hgains, fun hok => hdir hok path ?_⟩
  simp [Path.ancestors]

end Operations

/-! ## Steps of a run -/

section Steps

variable {α β ε : Type}

/-- An operation on the disk fails in a run as it does alone. -/
theorem perform_onDisk_eq {path : String} {work : OnDisk α} {result : Except DiskError α}
    (h : host.perform work = (result, after)) :
    host.perform (Run.onDisk path work) = (result.mapError (.disk path), after) := by
  simp only [perform, Run.onDisk, ExceptT.run_mk, StateT.run_bind] at h ⊢
  rw [h]
  rfl

theorem perform_onDisk {path : String} {work : OnDisk α} {outcome : Except Failure α}
    (h : host.perform (Run.onDisk path work) = (outcome, after)) :
    ∃ result, host.perform work = (result, after) ∧ outcome = result.mapError (.disk path) := by
  cases hwork : host.perform work with
  | mk result made =>
    cases (perform_onDisk_eq hwork).symm.trans h
    exact ⟨result, rfl, rfl⟩

theorem perform_onDisk_ok {path : String} {work : OnDisk α} {a : α}
    (h : host.perform (Run.onDisk path work) = (.ok a, after)) :
    host.perform work = (.ok a, after) := by
  obtain ⟨result, hwork, houtcome⟩ := perform_onDisk h
  cases result with
  | error err => cases houtcome
  | ok b =>
    cases houtcome
    exact hwork

/-- An operation on the disk, after which a value is returned. -/
theorem perform_onDisk_return {path : String} {work : OnDisk Unit} {b : β}
    {outcome : Except Failure β}
    (h : host.perform (do Run.onDisk path work; return b : Run β) = (outcome, after)) :
    ∃ result, host.perform work = (result, after) ∧ ((∃ b, outcome = .ok b) → result = .ok ()) := by
  rcases perform_bind_cases h with ⟨failure, hwork, rfl⟩ | ⟨_, mid, hwork, h⟩
  · obtain ⟨result, hwork, -⟩ := perform_onDisk hwork
    exact ⟨result, hwork, fun ⟨_, hok⟩ => by cases hok⟩
  · cases h
    exact ⟨.ok (), perform_onDisk_ok hwork, fun _ => rfl⟩

theorem perform_ofExcept (wrap : ε → Failure) (result : Except ε α) :
    host.perform (Run.ofExcept wrap result) = (result.mapError wrap, host) := by
  cases result <;> rfl

theorem ofExcept_bind_cases {wrap : ε → Failure} {result : Except ε α}
    {next : α → Run β} {outcome : Except Failure β}
    (h : host.perform (Run.ofExcept wrap result >>= next) = (outcome, after)) :
    (∃ failure, outcome = .error failure ∧ after = host) ∨
      ∃ a, result = .ok a ∧ host.perform (next a) = (outcome, after) := by
  cases result with
  | error err =>
    rw [perform_bind_error (perform_ofExcept wrap _)] at h
    cases h
    exact .inl ⟨_, rfl, rfl⟩
  | ok a =>
    rw [perform_bind_ok (perform_ofExcept wrap _)] at h
    exact .inr ⟨a, rfl, h⟩

/-- A loop over a list: what each step hands on holds after all of them, and what a step leaves when
it fails is what the loop leaves. -/
theorem mapM_cases {items : List α} {work : α → ExceptT ε (StateM Host) β}
    {reached : List α → Host → Prop} {left : Host → Prop} {outcome : Except ε (List β)}
    (step : ∀ done item rest host outcome after, items = done ++ item :: rest → reached done host →
      host.perform (work item) = (outcome, after) →
      (∀ b, outcome = .ok b → reached (done ++ [item]) after) ∧
        ∀ err, outcome = .error err → left after)
    (hstart : reached [] host) (h : host.perform (items.mapM work) = (outcome, after)) :
    (∃ results, outcome = .ok results ∧ reached items after) ∨
      ∃ err, outcome = .error err ∧ left after := by
  have hloop : ∀ rest done host outcome, items = done ++ rest → reached done host →
      host.perform (rest.mapM work) = (outcome, after) →
      (∃ results, outcome = .ok results ∧ reached items after) ∨
        ∃ err, outcome = .error err ∧ left after := by
    intro rest
    induction rest with
    | nil =>
      intro done host outcome hitems hdone h
      rw [List.mapM_nil, perform_pure] at h
      cases h
      rw [List.append_nil] at hitems
      exact .inl ⟨[], rfl, hitems ▸ hdone⟩
    | cons item rest ih =>
      intro done host outcome hitems hdone h
      rw [List.mapM_cons] at h
      rcases perform_bind_cases h with ⟨err, hitem, rfl⟩ | ⟨b, mid, hitem, h⟩
      · exact .inr ⟨err, rfl, (step done item rest host _ after hitems hdone hitem).2 err rfl⟩
      · have hmid := (step done item rest host _ mid hitems hdone hitem).1 b rfl
        rcases perform_bind_cases h with ⟨err, hrest, rfl⟩ | ⟨results, last, hrest, h⟩
        · exact ih (done ++ [item]) mid _ (by simp [hitems]) hmid hrest
        · rw [perform_pure] at h
          cases h
          obtain ⟨_, -, hall⟩ | ⟨err, hfail, -⟩ :=
            ih (done ++ [item]) mid _ (by simp [hitems]) hmid hrest
          · exact .inl ⟨_, rfl, hall⟩
          · cases hfail
  exact hloop items [] host outcome rfl hstart h

end Steps

end Host

end GoProbe
