import Mathlib
import GoProbe.Proofs.DiskNodes

/-!
# Where paths lead

`Advances` spells out the steps of a path up to its end or to a link, one case for each kind of
step, and `advance_eq_ok_iff` says that these are the steps that are taken. What follows about
single steps is by induction over it; `locateFrom_induction` is the induction over the links.

What a path leads to is there: `locate_stands` says that a node that was found is on the disk, and
that a place that was found empty stands in a directory.

Two disks that have the same directories and links lead a path to the same place, whatever stands at
its end (`locate_of_keeps`). This one statement gives what is found after a node was put to the end
of a path, and that a node is found again after others have come.

The path of a place leads to it (`locate_path`). Where no link is on the way a path that spells the
names of a place leads nowhere else (`place_of_leads`).
-/

namespace GoProbe

/-! ## What is found -/

namespace Found

def place : Found → Place
  | node place _ => place
  | absent place => place

def node? : Found → Option DiskNode
  | node _ n => some n
  | absent _ => none

@[simp] theorem place_node (p : Place) (n : DiskNode) : (node p n).place = p := rfl
@[simp] theorem place_absent (p : Place) : (absent p).place = p := rfl
@[simp] theorem node?_node (p : Place) (n : DiskNode) : (node p n).node? = some n := rfl
@[simp] theorem node?_absent (p : Place) : (absent p).node? = none := rfl

/-- What was found is on the disk; where nothing was found, there is a directory for it. -/
structure Stands (disk : Disk) (found : Found) : Prop where
  node? : disk.node? found.place = found.node?
  dir : found.node? = none → ∃ dir name, found.place = dir ++ [name] ∧
    disk.node? dir = some .dir ∧ Path.IsName name

theorem stands_node {disk : Disk} {p : Place} {n : DiskNode} (h : disk.node? p = some n) :
    (node p n).Stands disk :=
  ⟨h, fun hnone => absurd hnone (Option.some_ne_none n)⟩

end Found

namespace Disk

variable {disk after : Disk} {follow : Bool} {dir place workDir : Place} {name : String}
  {steps rest : List String} {node : DiskNode}

/-! ## Single steps -/

theorem advance_nil : disk.advance follow dir [] = .ok (.done (.node dir .dir)) := rfl

theorem advance_dot : disk.advance follow dir ("." :: rest) = disk.advance follow dir rest := rfl

theorem advance_dots :
    disk.advance follow dir (".." :: rest) = disk.advance follow dir.dropLast rest := rfl

section Names

variable (hdot : name ≠ ".") (hdots : name ≠ "..")
include hdot hdots

theorem advance_none (h : disk.node? (dir ++ [name]) = none) :
    disk.advance follow dir (name :: rest) =
      if rest.isEmpty then .ok (.done (.absent (dir ++ [name]))) else .error .notFound := by
  rw [advance.eq_4 disk follow dir name rest hdot hdots, h]

theorem advance_dir (h : disk.node? (dir ++ [name]) = some .dir) :
    disk.advance follow dir (name :: rest) = disk.advance follow (dir ++ [name]) rest := by
  rw [advance.eq_4 disk follow dir name rest hdot hdots, h]

theorem advance_file {content : ByteArray} {executable : Bool}
    (h : disk.node? (dir ++ [name]) = some (.file content executable)) :
    disk.advance follow dir (name :: rest) =
      if rest.isEmpty then .ok (.done (.node (dir ++ [name]) (.file content executable)))
      else .error .notDirectory := by
  rw [advance.eq_4 disk follow dir name rest hdot hdots, h]

theorem advance_link {target : String} (h : disk.node? (dir ++ [name]) = some (.link target)) :
    disk.advance follow dir (name :: rest) =
      if rest.isEmpty && !follow then .ok (.done (.node (dir ++ [name]) (.link target)))
      else .ok (.link dir target rest) := by
  rw [advance.eq_4 disk follow dir name rest hdot hdots, h]

end Names

/-- How steps lead from a directory to an end or to a link. -/
inductive Advances (disk : Disk) (follow : Bool) : Place → List String → Progress → Prop where
  | nil (dir : Place) : Advances disk follow dir [] (.done (.node dir .dir))
  | dot {dir : Place} {rest : List String} {progress : Progress}
      (h : Advances disk follow dir rest progress) : Advances disk follow dir ("." :: rest) progress
  | dots {dir : Place} {rest : List String} {progress : Progress}
      (h : Advances disk follow dir.dropLast rest progress) :
      Advances disk follow dir (".." :: rest) progress
  | dir {dir : Place} {name : String} {rest : List String} {progress : Progress}
      (hdot : name ≠ ".") (hdots : name ≠ "..") (hnode : disk.node? (dir ++ [name]) = some .dir)
      (h : Advances disk follow (dir ++ [name]) rest progress) :
      Advances disk follow dir (name :: rest) progress
  /-- The last name leads to anything but a directory, and to a link only if it is not followed. -/
  | last {dir : Place} {name : String} {found : Found} (hdot : name ≠ ".") (hdots : name ≠ "..")
      (hplace : found.place = dir ++ [name]) (hnode : disk.node? (dir ++ [name]) = found.node?)
      (hdir : found.node? ≠ some .dir)
      (hlink : follow = true → ∀ target, found.node? ≠ some (.link target)) :
      Advances disk follow dir [name] (.done found)
  | link {dir : Place} {name target : String} {rest : List String} (hdot : name ≠ ".")
      (hdots : name ≠ "..") (hnode : disk.node? (dir ++ [name]) = some (.link target))
      (hgoes : rest ≠ [] ∨ follow = true) :
      Advances disk follow dir (name :: rest) (.link dir target rest)

theorem advances_of_advance {progress : Progress}
    (h : disk.advance follow dir steps = .ok progress) :
    disk.Advances follow dir steps progress := by
  induction steps generalizing dir with
  | nil =>
    cases h
    exact .nil dir
  | cons step rest ih =>
    by_cases hdot : step = "."
    · rw [hdot, advance_dot] at h
      exact hdot ▸ .dot (ih h)
    by_cases hdots : step = ".."
    · rw [hdots, advance_dots] at h
      exact hdots ▸ .dots (ih h)
    cases hnode : disk.node? (dir ++ [step]) with
    | none =>
      rw [advance_none hdot hdots hnode] at h
      split at h
      · next hrest =>
        cases h
        rw [List.isEmpty_iff.1 hrest]
        exact .last hdot hdots rfl hnode (by simp) (by simp)
      · cases h
    | some node =>
      cases node with
      | dir =>
        rw [advance_dir hdot hdots hnode] at h
        exact .dir hdot hdots hnode (ih h)
      | file content executable =>
        rw [advance_file hdot hdots hnode] at h
        split at h
        · next hrest =>
          cases h
          rw [List.isEmpty_iff.1 hrest]
          exact .last hdot hdots rfl hnode (by simp) (by simp)
        · cases h
      | link target =>
        rw [advance_link hdot hdots hnode] at h
        split at h
        · next hends =>
          cases h
          obtain ⟨hrest, hfollow⟩ := Bool.and_eq_true_iff.1 hends
          rw [List.isEmpty_iff.1 hrest]
          exact .last hdot hdots rfl hnode (by simp) (by simp at hfollow; simp [hfollow])
        · next hgoes =>
          cases h
          exact .link hdot hdots hnode (by simpa [or_iff_not_imp_left] using hgoes)

/-- A step that ends at a name. -/
theorem advance_last {found : Found} (hdot : name ≠ ".") (hdots : name ≠ "..")
    (hplace : found.place = dir ++ [name]) (hnode : disk.node? (dir ++ [name]) = found.node?)
    (hdir : found.node? ≠ some .dir)
    (hlink : follow = true → ∀ target, found.node? ≠ some (.link target)) :
    disk.advance follow dir [name] = .ok (.done found) := by
  cases found with
  | absent place =>
    obtain rfl : place = dir ++ [name] := hplace
    rw [advance_none hdot hdots hnode]
    rfl
  | node place node =>
    obtain rfl : place = dir ++ [name] := hplace
    cases node with
    | dir => exact absurd rfl hdir
    | file content executable =>
      rw [advance_file hdot hdots hnode]
      rfl
    | link target =>
      have hfollow : follow = false := by
        by_contra hfollow
        exact hlink (by simpa using hfollow) target rfl
      rw [advance_link hdot hdots hnode, hfollow]
      rfl

/-- Steps that do not fail are taken one by one. -/
theorem advance_eq_ok_iff {progress : Progress} :
    disk.advance follow dir steps = .ok progress ↔ disk.Advances follow dir steps progress := by
  refine ⟨advances_of_advance, fun h => ?_⟩
  induction h with
  | nil dir => rfl
  | dot _ ih => rw [advance_dot, ih]
  | dots _ ih => rw [advance_dots, ih]
  | dir hdot hdots hnode _ ih => rw [advance_dir hdot hdots hnode, ih]
  | last hdot hdots hplace hnode hdir hlink =>
    exact advance_last hdot hdots hplace hnode hdir hlink
  | link hdot hdots hnode hgoes =>
    rw [advance_link hdot hdots hnode, if_neg]
    simpa [or_iff_not_imp_left] using hgoes

/-! ## What is found is there -/

theorem isStep_of_mem_stepsOf {path step : String} (h : step ∈ stepsOf path) :
    Path.IsStep step := by
  have hpieces : ∀ step ∈ (Path.pieces path).filter (· != ""), Path.IsStep step := by
    intro step hstep
    obtain ⟨hmem, hne⟩ := List.mem_filter.1 hstep
    exact ⟨by simpa using hne, Path.no_slash_of_mem_pieces hmem⟩
  simp only [stepsOf] at h
  split at h
  · rcases List.mem_append.1 h with h | h
    · exact hpieces step h
    · rw [List.mem_singleton.1 h]
      exact ⟨by decide, by decide⟩
  · exact hpieces step h

theorem WellFormed.dropLast (h : disk.WellFormed) (hdir : disk.node? dir = some .dir) :
    disk.node? dir.dropLast = some .dir := by
  rcases dir.eq_nil_or_concat' with rfl | ⟨front, last, rfl⟩
  · exact hdir
  · rw [List.dropLast_concat]
    exact h.parents front last _ hdir

/-- The steps lead to something that is there, or to a link in a directory. -/
theorem advance_stands (h : disk.WellFormed) (hdir : disk.node? dir = some .dir)
    (hsteps : ∀ step ∈ steps, Path.IsStep step) {progress : Progress}
    (hadvance : disk.advance follow dir steps = .ok progress) :
    (∃ found, progress = .done found ∧ found.Stands disk) ∨
      ∃ base target rest, progress = .link base target rest ∧ disk.node? base = some .dir ∧
        ∀ step ∈ rest, Path.IsStep step := by
  rw [advance_eq_ok_iff] at hadvance
  induction hadvance with
  | nil dir => exact .inl ⟨_, rfl, Found.stands_node hdir⟩
  | dot _ ih => exact ih hdir (List.forall_mem_cons.1 hsteps).2
  | dots _ ih => exact ih (h.dropLast hdir) (List.forall_mem_cons.1 hsteps).2
  | dir _ _ hnode _ ih => exact ih hnode (List.forall_mem_cons.1 hsteps).2
  | @last dir name found hdot hdots hplace hnode _ _ =>
    have hstep : Path.IsStep name := hsteps name List.mem_cons_self
    refine .inl ⟨found, rfl, ?_, fun _ => ⟨dir, name, hplace, hdir, ?_⟩⟩
    · rw [hplace, hnode]
    · exact ⟨hstep.1, hdot, hdots, hstep.2⟩
  | link => exact .inr ⟨_, _, _, rfl, hdir, (List.forall_mem_cons.1 hsteps).2⟩

theorem isStep_of_mem_target {target : String} (hrest : ∀ step ∈ rest, Path.IsStep step) :
    ∀ step ∈ stepsOf target ++ rest, Path.IsStep step :=
  List.forall_mem_append.2 ⟨fun _ => isStep_of_mem_stepsOf, hrest⟩

/-- The directory from which the steps of a link are taken. -/
theorem node?_linkBase (target : String) (hdir : disk.node? dir = some .dir) :
    disk.node? (if Path.isAbsolute target then [] else dir) = some .dir := by
  split
  · rfl
  · exact hdir

/-- A path that does not fail either ends or goes on behind a link, so what holds at its end and is
handed back over each link holds of it. -/
theorem locateFrom_induction {found : Found} {motive : Nat → Place → List String → Prop}
    (done : ∀ links dir steps, disk.advance follow dir steps = .ok (.done found) →
      motive links dir steps)
    (link : ∀ links dir steps base target rest,
      disk.advance follow dir steps = .ok (.link base target rest) → target ≠ "" →
      motive links (if Path.isAbsolute target then [] else base) (stepsOf target ++ rest) →
      motive (links + 1) dir steps)
    {links : Nat} (h : disk.locateFrom follow links dir steps = .ok found) :
    motive links dir steps := by
  induction links generalizing dir steps with
  | zero =>
    rw [locateFrom] at h
    split at h
    · cases h
    · next hadvance =>
      cases h
      exact done 0 dir steps hadvance
    · cases h
  | succ links ih =>
    rw [locateFrom] at h
    split at h
    · cases h
    · next hadvance =>
      cases h
      exact done (links + 1) dir steps hadvance
    · next base target rest hadvance =>
      dsimp only at h
      split at h
      · cases h
      · next htarget =>
        exact link links dir steps base target rest hadvance (by simpa using htarget) (ih h)

/-- The end of a path. -/
theorem locateFrom_of_done {links : Nat} {found : Found}
    (h : disk.advance follow dir steps = .ok (.done found)) :
    disk.locateFrom follow links dir steps = .ok found := by
  rw [locateFrom, h]

/-- A path that goes on behind a link. -/
theorem locateFrom_of_link {links : Nat} {base : Place} {target : String}
    (h : disk.advance follow dir steps = .ok (.link base target rest)) (htarget : target ≠ "") :
    disk.locateFrom follow (links + 1) dir steps =
      disk.locateFrom follow links (if Path.isAbsolute target then [] else base)
        (stepsOf target ++ rest) := by
  rw [locateFrom, h]
  exact if_neg (by simpa using htarget)

theorem locateFrom_stands (h : disk.WellFormed) {links : Nat}
    (hdir : disk.node? dir = some .dir) (hsteps : ∀ step ∈ steps, Path.IsStep step) {found : Found}
    (hfound : disk.locateFrom follow links dir steps = .ok found) : found.Stands disk := by
  refine locateFrom_induction (motive := fun _ dir steps => disk.node? dir = some .dir →
    (∀ step ∈ steps, Path.IsStep step) → found.Stands disk) ?_ ?_ hfound hdir hsteps
  · intro _ dir steps hadvance hdir hsteps
    rcases advance_stands h hdir hsteps hadvance with ⟨_, hdone, hstands⟩ | ⟨_, _, _, hlink, -⟩
    · cases hdone
      exact hstands
    · cases hlink
  · intro _ dir steps base target rest hadvance _ ih hdir hsteps
    rcases advance_stands h hdir hsteps hadvance with ⟨_, hdone, -⟩ | ⟨_, _, _, hlink, hbase, hrest⟩
    · cases hdone
    · cases hlink
      exact ih (node?_linkBase target hbase) (isStep_of_mem_target hrest)

/-- A path that leads somewhere is not empty. -/
theorem locate_eq_ok_iff {path : String} {found : Found} :
    disk.locate workDir follow path = .ok found ↔ path ≠ "" ∧
      disk.locateFrom follow maxLinks (if Path.isAbsolute path then [] else workDir)
        (stepsOf path) = .ok found := by
  rw [locate]
  by_cases hpath : path = ""
  · simp [hpath]
  · simp [hpath]

/-- What a path leads to is there. -/
theorem locate_stands (h : disk.WellFormed) (hdir : disk.node? workDir = some .dir) {path : String}
    {found : Found} (hfound : disk.locate workDir follow path = .ok found) : found.Stands disk :=
  locateFrom_stands h (node?_linkBase path hdir) (fun _ => isStep_of_mem_stepsOf)
    (locate_eq_ok_iff.1 hfound).2

/-! ## Disks with the same directories and links -/

/-- All directories and links of a disk are there afterwards. -/
def Keeps (disk after : Disk) : Prop :=
  ∀ place node, disk.node? place = some node → node.isFile = false → after.node? place = some node

/-- A node at the end of a path, which is no link. -/
theorem advances_name (hdot : name ≠ ".") (hdots : name ≠ "..")
    (hnode : disk.node? (dir ++ [name]) = some node) (hlink : ∀ target, node ≠ .link target) :
    disk.Advances follow dir [name] (.done (.node (dir ++ [name]) node)) := by
  by_cases hdir : node = .dir
  · subst hdir
    exact .dir hdot hdots hnode (.nil _)
  · exact .last hdot hdots rfl hnode (by simpa using hdir) (by simpa using fun _ => hlink)

theorem advance_link_of_keeps (hkeeps : disk.Keeps after) {base : Place} {target : String}
    (hadvance : disk.advance follow dir steps = .ok (.link base target rest)) :
    after.advance true dir steps = .ok (.link base target rest) := by
  rw [advance_eq_ok_iff] at hadvance ⊢
  generalize hend : Progress.link base target rest = progress at hadvance ⊢
  induction hadvance with
  | nil => cases hend
  | dot _ ih => exact .dot (ih hend)
  | dots _ ih => exact .dots (ih hend)
  | dir hdot hdots hnode _ ih => exact .dir hdot hdots (hkeeps _ _ hnode rfl) (ih hend)
  | last => cases hend
  | link hdot hdots hnode _ => exact .link hdot hdots (hkeeps _ _ hnode rfl) (.inr rfl)

theorem advance_done_of_keeps (hkeeps : disk.Keeps after) (h : disk.WellFormed)
    (hdir : disk.node? dir = some .dir) {found : Found}
    (hadvance : disk.advance follow dir steps = .ok (.done found))
    (hnode : after.node? found.place = some node) (hlink : ∀ target, node ≠ .link target) :
    after.advance true dir steps = .ok (.done (.node found.place node)) := by
  rw [advance_eq_ok_iff] at hadvance ⊢
  generalize hend : Progress.done found = progress at hadvance
  induction hadvance with
  | nil dir =>
    cases hend
    rw [Found.place_node] at hnode ⊢
    cases hnode.symm.trans (hkeeps dir .dir hdir rfl)
    exact .nil dir
  | dot _ ih => exact .dot (ih hdir hend)
  | dots _ ih => exact .dots (ih (h.dropLast hdir) hend)
  | dir hdot hdots hstep _ ih => exact .dir hdot hdots (hkeeps _ _ hstep rfl) (ih hstep hend)
  | last hdot hdots hplace _ _ _ =>
    cases hend
    rw [hplace] at hnode ⊢
    exact advances_name hdot hdots hnode hlink
  | link => cases hend

/-- Where directories and links are kept, a path leads to the same place. -/
theorem locate_of_keeps (hkeeps : disk.Keeps after) (h : disk.WellFormed)
    (hdir : disk.node? workDir = some .dir) {path : String} {found : Found}
    (hlocate : disk.locate workDir follow path = .ok found)
    (hnode : after.node? found.place = some node) (hlink : ∀ target, node ≠ .link target) :
    after.locate workDir true path = .ok (.node found.place node) := by
  obtain ⟨hpath, hlocate⟩ := locate_eq_ok_iff.1 hlocate
  refine locate_eq_ok_iff.2 ⟨hpath, ?_⟩
  refine locateFrom_induction (motive := fun links dir steps => disk.node? dir = some .dir →
    (∀ step ∈ steps, Path.IsStep step) →
    after.locateFrom true links dir steps = .ok (.node found.place node)) ?_ ?_ hlocate
    (node?_linkBase path hdir) (fun _ => isStep_of_mem_stepsOf)
  · intro links dir steps hadvance hdir _
    exact locateFrom_of_done (advance_done_of_keeps hkeeps h hdir hadvance hnode hlink)
  · intro links dir steps base target rest hadvance htarget ih hdir hsteps
    rw [locateFrom_of_link (advance_link_of_keeps hkeeps hadvance) htarget]
    rcases advance_stands h hdir hsteps hadvance with ⟨_, hdone, -⟩ | ⟨_, _, _, hlink, hbase, hrest⟩
    · cases hdone
    · cases hlink
      exact ih (node?_linkBase target hbase) (isStep_of_mem_target hrest)

/-- A path that is followed to its end leads to no link. -/
theorem advance_ne_link {found : Found} (h : disk.advance true dir steps = .ok (.done found))
    (target : String) : found.node? ≠ some (.link target) := by
  rw [advance_eq_ok_iff] at h
  generalize hend : Progress.done found = progress at h
  induction h with
  | nil =>
    cases hend
    simp
  | dot _ ih => exact ih hend
  | dots _ ih => exact ih hend
  | dir _ _ _ _ ih => exact ih hend
  | last _ _ _ _ _ hlink =>
    cases hend
    exact hlink rfl target
  | link => cases hend

theorem locate_ne_link {path : String} {found : Found}
    (h : disk.locate workDir true path = .ok found) (target : String) :
    found.node? ≠ some (.link target) := by
  refine locateFrom_induction (motive := fun _ _ _ => found.node? ≠ some (.link target)) ?_ ?_
    (locate_eq_ok_iff.1 h).2
  · intro _ dir steps hadvance
    exact advance_ne_link hadvance target
  · intro _ dir steps base target rest _ _ ih
    exact ih

/-- Disks with the same nodes lead every path to the same place. -/
theorem locate_congr (h : disk.node? = after.node?) (workDir : Place) (follow : Bool)
    (path : String) : disk.locate workDir follow path = after.locate workDir follow path := by
  have hadvance : ∀ dir steps, disk.advance follow dir steps = after.advance follow dir steps := by
    intro dir steps
    induction steps generalizing dir with
    | nil => rfl
    | cons step more ih =>
      by_cases hdot : step = "."
      · rw [hdot, advance_dot, advance_dot, ih]
      by_cases hdots : step = ".."
      · rw [hdots, advance_dots, advance_dots, ih]
      rw [advance.eq_4 _ _ _ _ _ hdot hdots, advance.eq_4 _ _ _ _ _ hdot hdots, h]
      simp only [ih]
  have hfrom : ∀ links dir steps,
      disk.locateFrom follow links dir steps = after.locateFrom follow links dir steps := by
    intro links
    induction links with
    | zero =>
      intro dir steps
      rw [locateFrom, locateFrom, hadvance]
    | succ links ih =>
      intro dir steps
      rw [locateFrom, locateFrom, hadvance]
      simp only [ih]
  rw [locate, locate, hfrom]

/-! ## The path of a place -/

/-- Steps down through directories. -/
theorem advance_append (h : disk.WellFormed) {names : List String}
    (hnode : disk.node? (dir ++ names) = some .dir) :
    disk.advance follow dir (names ++ rest) = disk.advance follow (dir ++ names) rest := by
  induction names generalizing dir with
  | nil => rw [List.nil_append, List.append_nil]
  | cons step more ih =>
    rw [show dir ++ step :: more = dir ++ [step] ++ more by simp] at hnode ⊢
    have hstep : Path.IsName step := h.named _ _ hnode step (by simp)
    have hdir : disk.node? (dir ++ [step]) = some .dir := by
      rcases eq_or_ne more [] with rfl | hne
      · rwa [List.append_nil] at hnode
      · exact h.dir_of_append hne hnode
    rw [List.cons_append, advance_dir hstep.ne_dot hstep.ne_dots hdir, ih hnode]

/-- A directory is found by every path that spells its names. -/
theorem locate_of_leads (h : disk.WellFormed) {path : String} (hleads : Path.Leads path place)
    (hpath : path ≠ "") (hnode : disk.node? place = some .dir) :
    disk.locate workDir follow path = .ok (.node place .dir) := by
  refine locate_eq_ok_iff.2 ⟨hpath, locateFrom_of_done ?_⟩
  rw [if_pos hleads.absolute]
  have hend : ∀ rest, disk.advance follow [] (place ++ rest) = disk.advance follow place rest :=
    fun rest => advance_append h hnode
  rcases hleads.steps with hsteps | hsteps
  · rw [hsteps, ← List.append_nil place, hend, advance_nil, List.append_nil]
  · rw [hsteps, hend, advance_dot, advance_nil]

/-- What stands at a place is found by the path of the place. -/
theorem locate_path (h : disk.WellFormed) (hnode : disk.node? place = some node)
    (hlink : ∀ target, node ≠ .link target) :
    disk.locate workDir follow place.path = .ok (.node place node) := by
  have hnamed := h.named place node hnode
  rcases place.eq_nil_or_concat' with rfl | ⟨dir, name, rfl⟩
  · cases hnode
    exact locate_of_leads h (Path.leads_path hnamed) (Place.path_ne_empty []) rfl
  · have hname : Path.IsName name := hnamed name (by simp)
    refine locate_eq_ok_iff.2 ⟨Place.path_ne_empty _, locateFrom_of_done ?_⟩
    have hdown : disk.advance follow [] (dir ++ [name]) = disk.advance follow ([] ++ dir) [name] :=
      advance_append h (h.parents dir name node hnode)
    rw [if_pos (Place.isAbsolute_path _), Place.stepsOf_path hnamed (by simp), hdown]
    exact advance_eq_ok_iff.2 (advances_name hname.ne_dot hname.ne_dots hnode hlink)

/-- Where no link is on the way, the names of a place lead to it only. -/
theorem advance_place {names : List String} (hnamed : Place.Named names)
    (hlinks : ∀ above target, above <+: names → disk.node? (dir ++ above) ≠ some (.link target))
    (hrest : rest = [] ∨ rest = ["."]) {progress : Progress}
    (h : disk.advance follow dir (names ++ rest) = .ok progress) :
    ∃ found, progress = .done found ∧ found.place = dir ++ names := by
  rw [advance_eq_ok_iff] at h
  induction names generalizing dir with
  | nil =>
    rw [List.append_nil]
    rcases hrest with rfl | rfl
    · cases h
      exact ⟨_, rfl, rfl⟩
    · rw [← advance_eq_ok_iff, List.nil_append, advance_dot, advance_nil] at h
      cases h
      exact ⟨_, rfl, rfl⟩
  | cons step more ih =>
    have hstep : Path.IsName step := hnamed step List.mem_cons_self
    rw [List.cons_append] at h
    generalize hsteps : more ++ rest = steps at h
    cases h with
    | dot => exact absurd rfl hstep.ne_dot
    | dots => exact absurd rfl hstep.ne_dots
    | dir _ _ _ h =>
      subst hsteps
      rw [show dir ++ step :: more = dir ++ [step] ++ more by simp]
      refine ih (fun name hname => hnamed name (List.mem_cons_of_mem _ hname)) ?_ h
      intro above target habove
      rw [show dir ++ [step] ++ above = dir ++ step :: above by simp]
      exact hlinks (step :: above) target (List.cons_prefix_cons.2 ⟨rfl, habove⟩)
    | last _ _ hplace =>
      rw [(List.append_eq_nil_iff.1 hsteps).1]
      exact ⟨_, rfl, hplace⟩
    | link _ _ hnode =>
      exact absurd hnode (hlinks [step] _ (List.cons_prefix_cons.2 ⟨rfl, List.nil_prefix⟩))

theorem place_of_leads {path : String} (hleads : Path.Leads path place) (hnamed : place.Named)
    (hlinks : ∀ above target, above <+: place → disk.node? above ≠ some (.link target))
    {found : Found} (h : disk.locate workDir follow path = .ok found) : found.place = place := by
  obtain ⟨-, h⟩ := locate_eq_ok_iff.1 h
  rw [if_pos hleads.absolute] at h
  have hend : ∀ progress, disk.advance follow [] (stepsOf path) = .ok progress →
      ∃ found, progress = .done found ∧ found.place = place := by
    intro progress hadvance
    rcases hleads.steps with hsteps | hsteps
    · rw [hsteps, ← List.append_nil place] at hadvance
      exact advance_place hnamed hlinks (.inl rfl) hadvance
    · rw [hsteps] at hadvance
      exact advance_place hnamed hlinks (.inr rfl) hadvance
  rw [locateFrom] at h
  split at h
  · cases h
  · next hadvance =>
    cases h
    obtain ⟨_, hdone, hplace⟩ := hend _ hadvance
    cases hdone
    exact hplace
  · next hadvance =>
    obtain ⟨_, hdone, -⟩ := hend _ hadvance
    cases hdone

/-! ## Slashes at the end -/

theorem advance_dot_end (h : disk.advance true dir steps = .ok (.done (.node place .dir))) :
    disk.advance true dir (steps ++ ["."]) = .ok (.done (.node place .dir)) := by
  rw [advance_eq_ok_iff] at h ⊢
  generalize hend : Progress.done (.node place .dir) = progress at h ⊢
  induction h with
  | nil dir => exact .dot (.nil dir)
  | dot _ ih => exact .dot (ih hend)
  | dots _ ih => exact .dots (ih hend)
  | dir hdot hdots hnode _ ih => exact .dir hdot hdots hnode (ih hend)
  | last _ _ _ _ hdir _ =>
    cases hend
    exact absurd rfl hdir
  | link => cases hend

theorem advance_link_append {base : Place} {target : String} (more : List String)
    (h : disk.advance true dir steps = .ok (.link base target rest)) :
    disk.advance true dir (steps ++ more) = .ok (.link base target (rest ++ more)) := by
  rw [advance_eq_ok_iff] at h ⊢
  generalize hend : Progress.link base target rest = progress at h
  induction h with
  | nil => cases hend
  | dot _ ih => exact .dot (ih hend)
  | dots _ ih => exact .dots (ih hend)
  | dir hdot hdots hnode _ ih => exact .dir hdot hdots hnode (ih hend)
  | last => cases hend
  | link hdot hdots hnode _ =>
    cases hend
    exact .link hdot hdots hnode (.inr rfl)

/-- A dot at the end of a path that leads to a directory changes nothing. -/
theorem locateFrom_dot_end {links : Nat}
    (h : disk.locateFrom true links dir steps = .ok (.node place .dir)) :
    disk.locateFrom true links dir (steps ++ ["."]) = .ok (.node place .dir) := by
  refine locateFrom_induction (motive := fun links dir steps =>
    disk.locateFrom true links dir (steps ++ ["."]) = .ok (.node place .dir)) ?_ ?_ h
  · intro links dir steps hadvance
    exact locateFrom_of_done (advance_dot_end hadvance)
  · intro links dir steps base target rest hadvance htarget ih
    rw [locateFrom_of_link (advance_link_append ["."] hadvance) htarget, ← List.append_assoc]
    exact ih

theorem splitChars_concat (sep : Char) (cs : List Char) :
    Path.splitChars sep (cs ++ [sep]) = Path.splitChars sep cs ++ [[]] := by
  induction cs with
  | nil => simp [Path.splitChars]
  | cons c rest ih =>
    rw [List.cons_append, Path.splitChars, ih, Path.splitChars]
    cases hsplit : Path.splitChars sep rest with
    | nil =>
      rw [Path.splitChars_eq_splitOn] at hsplit
      exact absurd hsplit (List.splitOn_ne_nil _ _)
    | cons piece pieces =>
      rw [List.cons_append]
      dsimp only
      split <;> rfl

/-- Slashes at the end add no step. -/
theorem filter_pieces_slashes (cs : List Char) {slashes : List Char}
    (h : ∀ c ∈ slashes, c = '/') :
    ((Path.splitChars '/' (cs ++ slashes)).map String.ofList).filter (· != "") =
      ((Path.splitChars '/' cs).map String.ofList).filter (· != "") := by
  induction slashes using List.reverseRecOn with
  | nil => rw [List.append_nil]
  | append_singleton slashes slash ih =>
    obtain ⟨hslashes, hslash⟩ := List.forall_mem_append.1 h
    rw [List.forall_mem_singleton.1 hslash, ← List.append_assoc, splitChars_concat, List.map_append,
      List.filter_append, ih hslashes]
    simp

/-- A path with the slashes at its end cut off has the same start and the same steps, but for a
dot. -/
theorem trimSlashes_spec (path : String) :
    Path.isAbsolute (OnDisk.trimSlashes path) = Path.isAbsolute path ∧
      (stepsOf path = stepsOf (OnDisk.trimSlashes path) ∨
        stepsOf path = stepsOf (OnDisk.trimSlashes path) ++ ["."]) := by
  rw [OnDisk.trimSlashes]
  split
  · exact ⟨rfl, .inl rfl⟩
  · next hchars =>
    generalize hkept : (path.toList.reverse.dropWhile (· == '/')).reverse = kept
    generalize hcut : (path.toList.reverse.takeWhile (· == '/')).reverse = cut
    have hpath : path.toList = kept ++ cut := by
      rw [← hkept, ← hcut, ← List.reverse_append, List.takeWhile_append_dropWhile,
        List.reverse_reverse]
    have hslashes : ∀ c ∈ cut, c = '/' := by
      intro c hc
      rw [← hcut, List.mem_reverse] at hc
      simpa using List.mem_takeWhile_imp hc
    have hne : kept ≠ [] := by
      rw [← hkept, Ne, List.reverse_eq_nil_iff]
      exact hchars
    have hlast : kept.getLast? ≠ some '/' := by
      rw [← hkept, List.getLast?_reverse]
      intro hhead
      have := List.head?_dropWhile_not (· == '/') path.toList.reverse
      simp [hhead] at this
    have hkeptEnd : (kept.getLast? == some '/') = false := beq_eq_false_iff_ne.2 hlast
    refine ⟨?_, ?_⟩
    · obtain ⟨c, cs, rfl⟩ := List.exists_cons_of_ne_nil hne
      rw [Path.isAbsolute, Path.isAbsolute, hpath, String.toList_ofList, List.cons_append,
        List.head?_cons, List.head?_cons]
    · simp only [stepsOf, Path.pieces, String.toList_ofList, hpath, hkeptEnd,
        filter_pieces_slashes kept hslashes]
      split
      · exact .inr rfl
      · exact .inl rfl

/-- A directory that is found without the slashes at the end of a path is found with them. -/
theorem locate_of_trimSlashes {path : String}
    (h : disk.locate workDir true (OnDisk.trimSlashes path) = .ok (.node place .dir)) :
    disk.locate workDir true path = .ok (.node place .dir) := by
  obtain ⟨habsolute, hsteps⟩ := trimSlashes_spec path
  obtain ⟨hpath, h⟩ := locate_eq_ok_iff.1 h
  rw [habsolute] at h
  have hpath' : path ≠ "" := by
    rintro rfl
    exact hpath (by decide)
  refine locate_eq_ok_iff.2 ⟨hpath', ?_⟩
  rcases hsteps with hsteps | hsteps
  · rwa [hsteps]
  · rw [hsteps]
    exact locateFrom_dot_end h

end Disk

end GoProbe
