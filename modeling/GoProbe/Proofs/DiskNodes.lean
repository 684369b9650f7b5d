import Mathlib
import GoProbe.Disk.Host
import GoProbe.Proofs.PlacePaths

/-!
# What a disk holds

A disk is looked at through `Disk.node?` only. The first group says what putting a node and removing
a tree do to it (`node?_put`, `node?_remove`). The second is about disks that hang together
(`Disk.WellFormed`): every node stands in a directory, under a name that a path can spell. Putting a
node into a directory and removing a tree keep this, and it can be decided (`wellFormed_iff`). The
third says what stands in a directory (`mem_children`). The last group is about temporary names: the
one that `OnDisk.freeNumber` finds is free, since there are more names to try than nodes.
-/

namespace GoProbe

deriving instance DecidableEq for DiskNode
deriving instance DecidableEq for Disk

namespace Disk

variable {disk : Disk} {place other dir : Place} {node : DiskNode} {name : String}

/-! ## Nodes -/

@[simp] theorem node?_root (disk : Disk) : disk.node? [] = some .dir := rfl

theorem node?_eq_lookup (hne : place ≠ []) : disk.node? place = disk.nodes.lookup place := by
  obtain ⟨first, rest, rfl⟩ := List.exists_cons_of_ne_nil hne
  rfl

theorem mem_nodes_of_node? (hne : place ≠ []) (hnode : disk.node? place = some node) :
    (place, node) ∈ disk.nodes := by
  rw [node?_eq_lookup hne] at hnode
  obtain ⟨before, after, hnodes, -⟩ := List.lookup_eq_some_iff.1 hnode
  simp [hnodes]

theorem lookup_node_cons (place other : Place) (node : DiskNode) (nodes : List (Place × DiskNode)) :
    ((place, node) :: nodes).lookup other =
      if other = place then some node else nodes.lookup other := by
  by_cases h : other = place
  · simp [h]
  · have hbeq : (other == place) = false := beq_eq_false_iff_ne.2 h
    simp only [List.lookup_cons, hbeq, h, if_false]

theorem lookup_putNode (place other : Place) (node : DiskNode) (nodes : List (Place × DiskNode)) :
    (putNode place node nodes).lookup other =
      if other = place then some node else nodes.lookup other := by
  induction nodes with
  | nil => rw [putNode, lookup_node_cons]
  | cons entry rest ih =>
    obtain ⟨p, n⟩ := entry
    rw [putNode]
    by_cases hp : p = place
    · rw [if_pos (by simpa using hp), hp, lookup_node_cons, lookup_node_cons]
      split <;> rfl
    · rw [if_neg (by simpa using hp), lookup_node_cons, lookup_node_cons, ih]
      by_cases h : other = p
      · rw [if_pos h, if_pos h, if_neg (h ▸ hp)]
      · rw [if_neg h, if_neg h]

theorem node?_put (hne : place ≠ []) :
    (disk.put place node).node? other = if other = place then some node else disk.node? other := by
  rw [put, if_neg (by simpa using hne)]
  rcases eq_or_ne other [] with rfl | hother
  · rw [if_neg hne.symm, node?_root, node?_root]
  · rw [node?_eq_lookup hother, node?_eq_lookup hother, lookup_putNode]

theorem node?_put_self (hne : place ≠ []) : (disk.put place node).node? place = some node := by
  rw [node?_put hne, if_pos rfl]

theorem node?_put_of_ne (hne : place ≠ []) (hother : other ≠ place) :
    (disk.put place node).node? other = disk.node? other := by
  rw [node?_put hne, if_neg hother]

theorem lookup_remove (disk : Disk) (place other : Place) :
    (disk.remove place).nodes.lookup other =
      if place <+: other then none else disk.nodes.lookup other := by
  show (disk.nodes.filter fun entry => !place.isPrefixOf entry.1).lookup other = _
  generalize disk.nodes = nodes
  induction nodes with
  | nil => simp
  | cons entry rest ih =>
    obtain ⟨p, n⟩ := entry
    by_cases hp : place <+: p
    · rw [List.filter_cons_of_neg (by simpa using hp), ih, lookup_node_cons]
      by_cases h : other = p
      · rw [if_pos (h ▸ hp), if_pos (h ▸ hp)]
      · rw [if_neg h]
    · have hkeep : place.isPrefixOf p = false := by
        rw [Bool.eq_false_iff, Ne, List.isPrefixOf_iff_prefix]
        exact hp
      rw [List.filter_cons_of_pos (by simp [hkeep]), lookup_node_cons, lookup_node_cons, ih]
      by_cases h : other = p
      · rw [if_pos h, if_pos h, if_neg (h ▸ hp)]
      · rw [if_neg h, if_neg h]

theorem node?_remove_below (hother : other ≠ []) (h : place <+: other) :
    (disk.remove place).node? other = none := by
  rw [node?_eq_lookup hother, lookup_remove, if_pos h]

theorem node?_remove_apart (h : ¬ place <+: other) :
    (disk.remove place).node? other = disk.node? other := by
  rcases eq_or_ne other [] with rfl | hother
  · rfl
  · rw [node?_eq_lookup hother, node?_eq_lookup hother, lookup_remove, if_neg h]

/-! ## Disks that hang together -/

/-- Every node has one entry, a name that paths can spell, and a directory in which it stands. -/
structure WellFormed (disk : Disk) : Prop where
  nodup : (disk.nodes.map (·.1)).Nodup
  root : [] ∉ disk.nodes.map (·.1)
  named : ∀ place node, disk.node? place = some node → place.Named
  parents : ∀ dir name node, disk.node? (dir ++ [name]) = some node → disk.node? dir = some .dir

theorem map_fst_putNode (place : Place) (node : DiskNode) (nodes : List (Place × DiskNode)) :
    (putNode place node nodes).map (·.1) =
      if place ∈ nodes.map (·.1) then nodes.map (·.1) else nodes.map (·.1) ++ [place] := by
  induction nodes with
  | nil => simp [putNode]
  | cons entry rest ih =>
    obtain ⟨p, n⟩ := entry
    rw [putNode]
    by_cases hp : p = place
    · simp [hp]
    · have hp' : place ≠ p := fun h => hp h.symm
      rw [if_neg (by simpa using hp), List.map_cons, List.map_cons, ih]
      simp only [List.mem_cons, hp', false_or]
      split <;> rfl

namespace WellFormed

variable (h : disk.WellFormed)
include h

/-- What stands above a node is a directory. -/
theorem dir_of_append {names : List String} (hne : names ≠ [])
    (hnode : disk.node? (dir ++ names) = some node) : disk.node? dir = some .dir := by
  induction names using List.reverseRecOn generalizing node with
  | nil => exact absurd rfl hne
  | append_singleton front last ih =>
    rw [← List.append_assoc] at hnode
    have hfront := h.parents _ _ _ hnode
    rcases eq_or_ne front [] with rfl | hfrontne
    · rwa [List.append_nil] at hfront
    · exact ih hfrontne hfront

theorem node?_above (hpre : dir <+: place) (hnode : disk.node? place = some node) :
    disk.node? dir = some .dir ∨ dir = place := by
  obtain ⟨names, rfl⟩ := hpre
  rcases eq_or_ne names [] with rfl | hne
  · exact .inr (List.append_nil dir).symm
  · exact .inl (h.dir_of_append hne hnode)

theorem node?_eq_none_below (hnone : disk.node? dir = none) (hpre : dir <+: place) :
    disk.node? place = none := by
  by_contra hsome
  obtain ⟨node, hnode⟩ := Option.ne_none_iff_exists'.1 hsome
  rcases h.node?_above hpre hnode with hdir | rfl
  · simp [hnone] at hdir
  · simp [hnone] at hnode

theorem mem_nodes_iff : (place, node) ∈ disk.nodes ↔ place ≠ [] ∧ disk.node? place = some node := by
  have hlookup : ∀ nodes : List (Place × DiskNode), (nodes.map (·.1)).Nodup →
      ((place, node) ∈ nodes ↔ nodes.lookup place = some node) := by
    intro nodes hnodup
    induction nodes with
    | nil => simp
    | cons entry rest ih =>
      obtain ⟨p, n⟩ := entry
      obtain ⟨hnot, hrest⟩ := List.nodup_cons.1 hnodup
      rw [lookup_node_cons, List.mem_cons, Prod.mk.injEq, ih hrest]
      by_cases hp : place = p
      · subst hp
        have hnone : rest.lookup place ≠ some node := fun hmem =>
          hnot (List.mem_map.2 ⟨_, (ih hrest).2 hmem, rfl⟩)
        rw [if_pos rfl, Option.some.injEq]
        simp [hnone, eq_comm]
      · simp [hp]
  constructor
  · intro hmem
    have hne : place ≠ [] := fun hnil => h.root (List.mem_map.2 ⟨_, hmem, hnil⟩)
    exact ⟨hne, by rw [node?_eq_lookup hne]; exact (hlookup _ h.nodup).1 hmem⟩
  · rintro ⟨hne, hnode⟩
    exact mem_nodes_of_node? hne hnode

theorem mem_entries_iff : (place, node) ∈ disk.entries ↔ disk.node? place = some node := by
  rw [entries, List.mem_cons, h.mem_nodes_iff]
  by_cases hplace : place = []
  · subst hplace
    simp [node?_root, eq_comm]
  · simp [hplace]

/-- A node that is put into a directory, in the place of a directory only if it is one. -/
theorem put (hdir : disk.node? dir = some .dir) (hname : Path.IsName name)
    (hnode : node = .dir ∨ disk.node? (dir ++ [name]) ≠ some .dir) :
    (disk.put (dir ++ [name]) node).WellFormed := by
  have hne : dir ++ [name] ≠ [] := by simp
  have hput : disk.put (dir ++ [name]) node =
      { nodes := putNode (dir ++ [name]) node disk.nodes } :=
    if_neg (by simp)
  constructor
  · rw [hput, map_fst_putNode]
    split
    · exact h.nodup
    · next hnot => exact List.nodup_append.2 ⟨h.nodup, List.nodup_singleton _, by
        intro a ha b hb hab
        exact hnot (List.mem_singleton.1 hb ▸ hab ▸ ha)⟩
  · rw [hput, map_fst_putNode]
    split
    · exact h.root
    · simp [List.mem_append, h.root]
  · intro place other hplace
    rw [node?_put hne] at hplace
    split at hplace
    · next heq =>
      rw [heq]
      exact Place.named_append.2 ⟨h.named dir _ hdir, Place.named_singleton.2 hname⟩
    · exact h.named place other hplace
  · intro above last other hplace
    have habove : disk.node? above = some .dir := by
      rw [node?_put hne] at hplace
      split at hplace
      · next heq =>
        obtain ⟨rfl, -⟩ := List.append_inj' heq rfl
        exact hdir
      · exact h.parents above last other hplace
    rw [node?_put hne]
    split
    · next heq =>
      rcases hnode with rfl | hnot
      · rfl
      · exact absurd (heq ▸ habove) hnot
    · exact habove

theorem remove (hne : place ≠ []) : (disk.remove place).WellFormed := by
  have hsublist : ((disk.remove place).nodes.map (·.1)).Sublist (disk.nodes.map (·.1)) :=
    List.filter_sublist.map _
  have hold : ∀ other node, (disk.remove place).node? other = some node →
      ¬ place <+: other ∧ disk.node? other = some node := by
    intro other node hother
    by_cases hpre : place <+: other
    · have hotherne : other ≠ [] := by
        rintro rfl
        exact hne (List.prefix_nil.1 hpre)
      rw [node?_remove_below hotherne hpre] at hother
      cases hother
    · exact ⟨hpre, by rwa [node?_remove_apart hpre] at hother⟩
  constructor
  · exact h.nodup.sublist hsublist
  · exact fun hmem => h.root (hsublist.subset hmem)
  · intro other node hother
    exact h.named other node (hold other node hother).2
  · intro dir name node hnode
    obtain ⟨hpre, hnode⟩ := hold _ _ hnode
    have hdir : ¬ place <+: dir := fun hdir => hpre (hdir.trans (List.prefix_append dir [name]))
    rw [node?_remove_apart hdir]
    exact h.parents dir name node hnode

end WellFormed

/-- Whether a disk hangs together can be told from its entries. -/
theorem wellFormed_iff : disk.WellFormed ↔
    (disk.nodes.map (·.1)).Nodup ∧ [] ∉ disk.nodes.map (·.1) ∧
      ∀ entry ∈ disk.nodes, Place.Named entry.1 ∧ disk.node? entry.1.dropLast = some .dir := by
  constructor
  · intro h
    refine ⟨h.nodup, h.root, ?_⟩
    rintro ⟨place, node⟩ hmem
    obtain ⟨hne, hnode⟩ := h.mem_nodes_iff.1 hmem
    obtain ⟨dir, name, rfl⟩ := place.eq_nil_or_concat'.resolve_left hne
    exact ⟨h.named _ _ hnode, by rw [List.dropLast_concat]; exact h.parents dir name node hnode⟩
  · rintro ⟨hnodup, hroot, hentries⟩
    refine ⟨hnodup, hroot, fun place node hnode => ?_, fun dir name node hnode => ?_⟩
    · rcases eq_or_ne place [] with rfl | hne
      · exact List.forall_mem_nil _
      · exact (hentries _ (mem_nodes_of_node? hne hnode)).1
    · have hdir := (hentries _ (mem_nodes_of_node? (by simp) hnode)).2
      rwa [List.dropLast_concat] at hdir

instance (disk : Disk) : Decidable disk.WellFormed := decidable_of_iff' _ wellFormed_iff

/-! ## Directories -/

theorem childName?_eq_some_iff : childName? dir place = some name ↔ place = dir ++ [name] := by
  rw [childName?]
  rcases place.eq_nil_or_concat' with rfl | ⟨front, last, rfl⟩
  · simp
  · rw [List.dropLast_concat, List.getLast?_concat]
    by_cases hdir : front = dir
    · simp [hdir]
    · have hne : front ++ [last] ≠ dir ++ [name] := by
        intro heq
        exact hdir (List.append_inj' heq rfl).1
      simp [hdir, hne]

theorem mem_children : (name, node) ∈ disk.children dir ↔ (dir ++ [name], node) ∈ disk.nodes := by
  rw [children, List.mem_filterMap]
  constructor
  · rintro ⟨⟨place, other⟩, hmem, hchild⟩
    obtain ⟨child, hname, heq⟩ := Option.map_eq_some_iff.1 hchild
    cases heq
    rwa [← childName?_eq_some_iff.1 hname]
  · intro hmem
    refine ⟨_, hmem, ?_⟩
    rw [childName?_eq_some_iff.2 rfl, Option.map_some]

/-- The nodes in a directory have different names. -/
theorem WellFormed.pairwise_children (h : disk.WellFormed) (dir : Place) :
    (disk.children dir).Pairwise fun a b => a.1 ≠ b.1 := by
  have hplaces : disk.nodes.Pairwise fun a b => a.1 ≠ b.1 := List.pairwise_map.1 h.nodup
  refine List.pairwise_filterMap.2 (hplaces.imp ?_)
  intro a b hne child hchild other hother heq
  obtain ⟨name, hname, rfl⟩ := Option.map_eq_some_iff.1 hchild
  obtain ⟨name', hname', rfl⟩ := Option.map_eq_some_iff.1 hother
  cases heq
  exact hne ((childName?_eq_some_iff.1 hname).trans (childName?_eq_some_iff.1 hname').symm)

end Disk

/-! ## Temporary names -/

namespace OnDisk

open Disk

variable {disk : Disk} {dir : Place} {stem : String}

theorem toList_suffix (number : Nat) :
    (suffix number).toList =
      List.replicate (6 - (toString number).length) '0' ++ Nat.toDigits 10 number := by
  have hzeros (count : Nat) : ("".pushn '0' count).toList = List.replicate count '0' := by
    induction count with
    | zero => rfl
    | succ count ih =>
      rw [String.pushn, Nat.repeat, ← String.pushn, String.toList_push, ih, List.replicate_succ']
  rw [suffix, String.toList_append, hzeros, Nat.toString_eq_repr, Nat.toList_repr]

theorem suffix_injective : Function.Injective suffix := by
  have hvalue (number : Nat) : Nat.ofDigitChars 10 (suffix number).toList 0 = number := by
    rw [toList_suffix, Nat.ofDigitChars_append, Nat.ofDigitChars_replicate_zero, Nat.mul_zero]
    exact Nat.ofDigitChars_toDigits (by decide) (by decide)
  intro a b hab
  rw [← hvalue a, hab, hvalue]

/-- A temporary name is one that a disk can have. -/
theorem isName_suffix {number : Nat} (hstem : '/' ∉ stem.toList) :
    Path.IsName (stem ++ suffix number) := by
  have hchars : ∀ c ∈ (suffix number).toList, c.isDigit = true := by
    rw [toList_suffix, List.forall_mem_append]
    refine ⟨fun c hc => ?_, fun c hc => Nat.isDigit_of_mem_toDigits (by decide) (by decide) hc⟩
    rw [List.eq_of_mem_replicate hc]
    rfl
  obtain ⟨c, rest, hdigits⟩ :=
    List.exists_cons_of_ne_nil (Nat.toDigits_ne_nil (n := number) (b := 10))
  have hmem : c ∈ (suffix number).toList := by simp [toList_suffix, hdigits]
  have hdigit : ∀ text : String, (∀ c ∈ text.toList, c.isDigit = false) →
      stem ++ suffix number ≠ text := by
    rintro text htext rfl
    have hfalse := htext c (by simp [hmem])
    rw [hchars c hmem] at hfalse
    cases hfalse
  refine ⟨hdigit _ (by simp), hdigit _ (by simp), hdigit _ (by simp), ?_⟩
  rw [String.toList_append, List.mem_append, not_or]
  exact ⟨hstem, fun hslash => absurd (hchars '/' hslash) (by decide)⟩

/-- If the number that is found is taken, so are all that were tried. -/
theorem isSome_of_freeNumber (tries number : Nat)
    (h : (disk.node? (dir ++ [stem ++ suffix (freeNumber disk dir stem tries number)])).isSome) :
    ∀ i < tries, (disk.node? (dir ++ [stem ++ suffix (number + i)])).isSome := by
  induction tries generalizing number with
  | zero => simp
  | succ tries ih =>
    intro i hi
    rw [freeNumber] at h
    split at h
    · next htaken =>
      cases i with
      | zero => exact htaken
      | succ i =>
        have hrest := ih (number + 1) h i (by omega)
        rwa [show number + 1 + i = number + (i + 1) by omega] at hrest
    · next hfree => exact absurd h hfree

/-- The name that is found is free. -/
theorem node?_freeNumber (disk : Disk) (dir : Place) (stem : String) (number : Nat) :
    disk.node? (dir ++ [stem ++
      suffix (freeNumber disk dir stem (disk.nodes.length + 1) number)]) = none := by
  by_contra hsome
  have htaken := isSome_of_freeNumber _ number (Option.isSome_iff_ne_none.2 hsome)
  let tried := (List.range (disk.nodes.length + 1)).map fun i =>
    dir ++ [stem ++ suffix (number + i)]
  have hnodup : tried.Nodup := by
    refine List.nodup_range.map ?_
    intro a b hab
    have hsuffix : suffix (number + a) = suffix (number + b) := by simpa using hab
    have := suffix_injective hsuffix
    omega
  have hsubset : tried ⊆ disk.nodes.map (·.1) := by
    intro place hplace
    obtain ⟨i, hi, rfl⟩ := List.mem_map.1 hplace
    obtain ⟨node, hnode⟩ := Option.isSome_iff_exists.1 (htaken i (List.mem_range.1 hi))
    exact List.mem_map.2 ⟨_, mem_nodes_of_node? (by simp) hnode, rfl⟩
  have hlength := (hnodup.subperm hsubset).length_le
  simp [tried] at hlength

end OnDisk

end GoProbe
