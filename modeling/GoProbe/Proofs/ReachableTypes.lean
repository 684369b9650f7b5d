import Mathlib
import GoProbe.Proofs.TypePools

/-!
# Pools without clashes

A type brings more into a pool than itself: the types it is made of (`ResolvedType.tree`), and for
each named one among them the anonymous type underneath, whose name is made up from the shape
(`ResolvedType.anonymous`). Together these are the types that it *reaches*.

What a pool holds is the entry of some reached type; for this no condition is needed
(`exists_reach_of_get?_ofTypes`). Which one it is depends on the order as soon as two reached types
have one name. A look-up that hits also skips all parts of the type that is entered, so that it
takes a second argument to see that nothing is left out: an entry refers to keys only, and if the
entries under the names of the reached types are their own, then the keys can be followed down the
type (`contains_reach`).

If names tell the reached types apart, then the pool is just the entries of the reached types
(`ofTypes_of_assigned`), and neither order nor repetitions matter.
-/

namespace GoProbe

/-! ## The types that a type reaches -/

namespace ResolvedType

/-- The anonymous type under a named type: its shape alone, called by the literal that spells it. -/
def anonymous (type : ResolvedType) : ResolvedType where
  name := type.literalName
  origin := none
  shape := type.shape
  methods := []

theorem isNamed_anonymous (type : ResolvedType) : type.anonymous.isNamed = false := rfl

theorem entry_of_isNamed {type : ResolvedType} (h : type.isNamed = true) :
    type.entry =
      .named type.name (type.origin.map (·.path)) type.implementsError type.literalName := by
  rw [entry_eq_outline, outline, if_pos h]

theorem entry_of_not_isNamed {type : ResolvedType} (h : type.isNamed = false) :
    type.entry = type.shape.outline type.name := by
  rw [entry_eq_outline, outline, h]
  rfl

theorem entry_anonymous (type : ResolvedType) :
    type.anonymous.entry = type.shape.outline type.literalName :=
  entry_of_not_isNamed type.isNamed_anonymous

@[simp] theorem name_entry (type : ResolvedType) : type.entry.name = type.name := by
  rw [entry_eq_outline, name_outline]

/-- The type, and if it is named the anonymous type underneath. -/
def forms (type : ResolvedType) : List ResolvedType :=
  if type.isNamed then [type, type.anonymous] else [type]

theorem mem_forms {type form : ResolvedType} :
    form ∈ type.forms ↔ form = type ∨ type.isNamed = true ∧ form = type.anonymous := by
  rw [forms]
  by_cases hnamed : type.isNamed = true
  · simp [hnamed]
  · simp [hnamed]

end ResolvedType

mutual

/-- The types that a type is made of, itself first. -/
def ResolvedType.tree : ResolvedType → List ResolvedType
  | ⟨name, origin, shape, methods⟩ => ⟨name, origin, shape, methods⟩ :: shape.tree

/-- The types that a shape is made of. -/
def TypeShape.tree : TypeShape → List ResolvedType
  | .array element _ => element.tree
  | .slice element => element.tree
  | .map key element => key.tree ++ element.tree
  | .chan element _ => element.tree
  | .pointer element => element.tree
  | .struct fields => ResolvedField.treeList fields
  | .basic _ => []
  | .interface _ => []
  | .func => []
  | .typeParam => []

def ResolvedField.treeList : List ResolvedField → List ResolvedType
  | [] => []
  | ⟨_, type, _⟩ :: rest => type.tree ++ ResolvedField.treeList rest

end

/-- All that a pool can come to describe when a type is entered: the types it is made of, and the
anonymous types under the named ones. -/
def ResolvedType.reach (type : ResolvedType) : List ResolvedType :=
  type.tree.flatMap ResolvedType.forms

def TypeShape.reach (shape : TypeShape) : List ResolvedType :=
  shape.tree.flatMap ResolvedType.forms

def ResolvedField.reachList (fields : List ResolvedField) : List ResolvedType :=
  (ResolvedField.treeList fields).flatMap ResolvedType.forms

namespace ResolvedType

variable {type other : ResolvedType}

theorem reach_eq (type : ResolvedType) : type.reach = type.forms ++ type.shape.reach := by
  obtain ⟨name, origin, shape, methods⟩ := type
  rw [reach, tree, List.flatMap_cons, TypeShape.reach]

theorem mem_tree_self (type : ResolvedType) : type ∈ type.tree := by
  obtain ⟨name, origin, shape, methods⟩ := type
  rw [tree]
  exact List.mem_cons_self

theorem anonymous_mem_reach (h : other ∈ type.tree) (hnamed : other.isNamed = true) :
    other.anonymous ∈ type.reach :=
  List.mem_flatMap.2 ⟨other, h, mem_forms.2 (.inr ⟨hnamed, rfl⟩)⟩

/-- A named type that is reached is one of those in the tree. -/
theorem mem_tree_of_isNamed (h : other ∈ type.reach) (hnamed : other.isNamed = true) :
    other ∈ type.tree := by
  obtain ⟨source, hsource, hform⟩ := List.mem_flatMap.1 h
  rcases mem_forms.1 hform with rfl | ⟨-, rfl⟩
  · exact hsource
  · cases hnamed.symm.trans source.isNamed_anonymous

end ResolvedType

/-! ## Only entries of reached types -/

/-- Every entry of the list is that of one of the types. -/
def DescribedBy (entries : List TypeEntry) (types : List ResolvedType) : Prop :=
  ∀ entry ∈ entries, ∃ type ∈ types, type.entry = entry

namespace DescribedBy

variable {entries others : List TypeEntry} {types more : List ResolvedType}

theorem append (h : DescribedBy entries types) (h' : DescribedBy others more) :
    DescribedBy (entries ++ others) (types ++ more) := by
  intro entry hentry
  rcases List.mem_append.1 hentry with hentry | hentry
  · obtain ⟨type, htype, rfl⟩ := h entry hentry
    exact ⟨type, List.mem_append_left _ htype, rfl⟩
  · obtain ⟨type, htype, rfl⟩ := h' entry hentry
    exact ⟨type, List.mem_append_right _ htype, rfl⟩

theorem above {type : ResolvedType} (h : DescribedBy entries more) :
    DescribedBy (Pooling.above type.entry entries) (type :: more) := by
  intro entry hentry
  rcases List.mem_cons.1 hentry with rfl | hentry
  · exact ⟨type, List.mem_cons_self, rfl⟩
  · obtain ⟨other, hother, rfl⟩ := h entry (List.mem_filter.1 hentry).1
    exact ⟨other, List.mem_cons_of_mem _ hother, rfl⟩

end DescribedBy

/-- A type and its parts, if those parts are dealt with. -/
theorem ResolvedType.describedBy_footprint {type : ResolvedType}
    (h : DescribedBy type.shape.parts type.shape.reach) :
    DescribedBy type.footprint type.reach := by
  obtain ⟨name, origin, shape, methods⟩ := type
  rw [ResolvedType.footprint, ← ResolvedType.entry_eq_outline, ResolvedType.reach_eq,
    ResolvedType.parts, ResolvedType.forms]
  by_cases hnamed : ResolvedType.isNamed ⟨name, origin, shape, methods⟩ = true
  · rw [if_pos hnamed, if_pos hnamed,
      ← ResolvedType.entry_anonymous ⟨name, origin, shape, methods⟩]
    exact h.above.above
  · rw [if_neg hnamed, if_neg hnamed]
    exact h.above

mutual

theorem ResolvedType.footprint_describedBy : ∀ type : ResolvedType,
    DescribedBy type.footprint type.reach
  | ⟨_, _, shape, _⟩ => ResolvedType.describedBy_footprint (TypeShape.parts_describedBy shape)

theorem TypeShape.parts_describedBy : ∀ shape : TypeShape, DescribedBy shape.parts shape.reach
  | .basic _ | .interface _ | .func | .typeParam => by
    intro entry hentry
    rw [TypeShape.parts] at hentry
    cases hentry
  | .array element _ | .slice element | .chan element _ | .pointer element => by
    rw [TypeShape.parts, TypeShape.reach, TypeShape.tree]
    exact ResolvedType.footprint_describedBy element
  | .map key element => by
    rw [TypeShape.parts, TypeShape.reach, TypeShape.tree, List.flatMap_append]
    exact (ResolvedType.footprint_describedBy key).append
      (ResolvedType.footprint_describedBy element)
  | .struct fields => by
    rw [TypeShape.parts, TypeShape.reach, TypeShape.tree]
    exact ResolvedField.partsList_describedBy fields

theorem ResolvedField.partsList_describedBy : ∀ fields : List ResolvedField,
    DescribedBy (ResolvedField.partsList fields) (ResolvedField.reachList fields)
  | [] => by
    intro entry hentry
    rw [ResolvedField.partsList] at hentry
    cases hentry
  | ⟨_, type, _⟩ :: rest => by
    rw [ResolvedField.partsList, ResolvedField.reachList, ResolvedField.treeList,
      List.flatMap_append]
    exact (ResolvedType.footprint_describedBy type).append
      (ResolvedField.partsList_describedBy rest)

end

namespace TypePool

variable {types : List ResolvedType}

/-- What stands in the pool of some types is the entry of a reached type of that name. -/
theorem exists_reach_of_get?_ofTypes {key : String} {entry : TypeEntry}
    (h : (ofTypes types).get? key = some entry) :
    ∃ type ∈ types.flatMap ResolvedType.reach, type.name = key ∧ type.entry = entry := by
  have hname : entry.name = key := (inOrder_ofTypes types).keyed key entry h
  rcases (addAll_grown inOrder_empty types).added key entry h with hempty | hadded
  · cases hempty
  · obtain ⟨source, hsource, hentry⟩ := List.mem_flatMap.1 hadded
    obtain ⟨type, htype, rfl⟩ := source.footprint_describedBy entry hentry
    rw [ResolvedType.name_entry] at hname
    exact ⟨type, List.mem_flatMap.2 ⟨source, hsource, htype⟩, hname, rfl⟩

end TypePool

/-! ## All reached types -/

/-- Under the name of each of the types there is no entry but its own. -/
def TypePool.Owned (pool : TypePool) (types : List ResolvedType) : Prop :=
  ∀ type ∈ types, ∀ entry, pool.get? type.name = some entry → entry = type.entry

theorem TypePool.Owned.mono {pool : TypePool} {types more : List ResolvedType}
    (h : pool.Owned more) (hsub : types ⊆ more) : pool.Owned types :=
  fun type htype => h type (hsub htype)

section

variable {pool : TypePool}

/-- The key of an owned type leads to the keys that its entry refers to. -/
theorem TypePool.Owned.contains_references (hclosed : pool.Closed) {type : ResolvedType}
    {types : List ResolvedType} (howned : pool.Owned types) (htype : type ∈ types)
    (h : pool.contains type.name = true) :
    ∀ name ∈ type.entry.references, pool.contains name = true := by
  obtain ⟨entry, hentry⟩ := Option.isSome_iff_exists.1 h
  obtain rfl := howned type htype entry hentry
  exact hclosed type.name type.entry hentry

/-- The key of a type leads to the keys of the parts of its shape, for a named type by way of the
anonymous type underneath. -/
theorem ResolvedType.contains_forms (hclosed : pool.Closed) {type : ResolvedType}
    (howned : pool.Owned type.forms) (h : pool.contains type.name = true) :
    (∀ form ∈ type.forms, pool.contains form.name = true) ∧
      ∃ name, ∀ part ∈ (type.shape.outline name).references, pool.contains part = true := by
  have hparts := howned.contains_references hclosed (mem_forms.2 (.inl rfl)) h
  by_cases hnamed : type.isNamed = true
  · rw [entry_of_isNamed hnamed] at hparts
    have hunder : pool.contains type.anonymous.name = true := hparts _ List.mem_cons_self
    have hparts' := howned.contains_references hclosed (mem_forms.2 (.inr ⟨hnamed, rfl⟩)) hunder
    rw [entry_anonymous] at hparts'
    refine ⟨?_, type.literalName, hparts'⟩
    intro form hform
    rcases mem_forms.1 hform with rfl | ⟨-, rfl⟩
    · exact h
    · exact hunder
  · rw [Bool.not_eq_true] at hnamed
    rw [entry_of_not_isNamed hnamed] at hparts
    refine ⟨?_, type.name, hparts⟩
    intro form hform
    rcases mem_forms.1 hform with rfl | ⟨hnamed', -⟩
    · exact h
    · cases hnamed.symm.trans hnamed'

mutual

theorem ResolvedType.contains_reach (hclosed : pool.Closed) : ∀ type : ResolvedType,
    pool.Owned type.reach → pool.contains type.name = true →
      ∀ other ∈ type.reach, pool.contains other.name = true
  | ⟨name, origin, shape, methods⟩ => by
    intro howned h
    rw [ResolvedType.reach_eq] at howned ⊢
    obtain ⟨hforms, outlined, hparts⟩ :=
      ResolvedType.contains_forms hclosed (howned.mono (List.subset_append_left _ _)) h
    have hshape := TypeShape.contains_reach hclosed shape outlined
      (howned.mono (List.subset_append_right _ _)) hparts
    exact List.forall_mem_append.2 ⟨hforms, hshape⟩

theorem TypeShape.contains_reach (hclosed : pool.Closed) : ∀ (shape : TypeShape) (name : String),
    pool.Owned shape.reach →
    (∀ part ∈ (shape.outline name).references, pool.contains part = true) →
      ∀ other ∈ shape.reach, pool.contains other.name = true
  | .basic _, _ | .interface _, _ | .func, _ | .typeParam, _ => by
    intro _ _ other hother
    rw [TypeShape.reach, TypeShape.tree] at hother
    cases hother
  | .array element _, _ | .slice element, _ | .chan element _, _ | .pointer element, _ => by
    intro howned hparts
    rw [TypeShape.reach, TypeShape.tree] at howned ⊢
    exact ResolvedType.contains_reach hclosed element howned (hparts _ List.mem_cons_self)
  | .map key element, _ => by
    intro howned hparts
    rw [TypeShape.reach, TypeShape.tree, List.flatMap_append] at howned ⊢
    have hkey := ResolvedType.contains_reach hclosed key
      (howned.mono (List.subset_append_left _ _)) (hparts _ List.mem_cons_self)
    have helement := ResolvedType.contains_reach hclosed element
      (howned.mono (List.subset_append_right _ _))
      (hparts _ (List.mem_cons_of_mem _ List.mem_cons_self))
    exact List.forall_mem_append.2 ⟨hkey, helement⟩
  | .struct fields, name => by
    intro howned hparts
    rw [TypeShape.reach, TypeShape.tree] at howned ⊢
    refine ResolvedField.contains_reachList hclosed fields howned ?_
    intro field hfield
    refine hparts _ ?_
    simp only [TypeShape.outline, TypeEntry.references, List.map_map]
    exact List.mem_map.2 ⟨field, hfield, rfl⟩

theorem ResolvedField.contains_reachList (hclosed : pool.Closed) : ∀ fields : List ResolvedField,
    pool.Owned (ResolvedField.reachList fields) →
    (∀ field ∈ fields, pool.contains field.type.name = true) →
      ∀ other ∈ ResolvedField.reachList fields, pool.contains other.name = true
  | [] => by
    intro _ _ other hother
    rw [ResolvedField.reachList, ResolvedField.treeList] at hother
    cases hother
  | ⟨_, type, _⟩ :: rest => by
    intro howned hfields
    rw [ResolvedField.reachList, ResolvedField.treeList, List.flatMap_append] at howned ⊢
    rw [List.forall_mem_cons] at hfields
    have htype := ResolvedType.contains_reach hclosed type
      (howned.mono (List.subset_append_left _ _)) hfields.1
    have hrest := ResolvedField.contains_reachList hclosed rest
      (howned.mono (List.subset_append_right _ _)) hfields.2
    exact List.forall_mem_append.2 ⟨htype, hrest⟩

end

end

/-! ## Pools of types that names tell apart -/

namespace TypePool

variable {types : List ResolvedType} {typeOf : String → ResolvedType}

/-- If one assignment of types to names covers all reached types, then the entries of the pool are
theirs, each type's under its name. -/
theorem get?_ofTypes_iff (h : ∀ type ∈ types.flatMap ResolvedType.reach, typeOf type.name = type)
    {key : String} {entry : TypeEntry} :
    (ofTypes types).get? key = some entry ↔
      ∃ type ∈ types.flatMap ResolvedType.reach, type.name = key ∧ type.entry = entry := by
  have howned : (ofTypes types).Owned (types.flatMap ResolvedType.reach) := by
    intro type htype entry hentry
    obtain ⟨other, hother, hname, rfl⟩ := exists_reach_of_get?_ofTypes hentry
    rw [← h type htype, ← h other hother, hname]
  constructor
  · exact exists_reach_of_get?_ofTypes
  · rintro ⟨type, htype, rfl, rfl⟩
    obtain ⟨source, hsource, hreach⟩ := List.mem_flatMap.1 htype
    have hkey : (ofTypes types).contains source.name = true :=
      (addAll_grown inOrder_empty types).bound _ (List.mem_map_of_mem hsource)
    have hsub : source.reach ⊆ types.flatMap ResolvedType.reach :=
      fun other hother => List.mem_flatMap.2 ⟨source, hsource, hother⟩
    have hcontains := source.contains_reach (inOrder_ofTypes types).closed (howned.mono hsub) hkey
      type hreach
    obtain ⟨found, hfound⟩ := Option.isSome_iff_exists.1 hcontains
    rw [hfound, howned type htype found hfound]

/-- If one assignment of types to names covers all reached types, then the pool has one entry for
each of them, the one that the type has in a pool of its own, and nothing else. The same types in
any order and with any repetitions give the same pool. -/
theorem ofTypes_of_assigned (typeOf : String → ResolvedType) (types : List ResolvedType)
    (h : ∀ type ∈ types.flatMap ResolvedType.reach, typeOf type.name = type) :
    (∀ key entry, (ofTypes types).get? key = some entry ↔
      ∃ type ∈ types.flatMap ResolvedType.reach, type.name = key ∧ type.entry = entry) ∧
    ∀ others : List ResolvedType, (∀ type, type ∈ others ↔ type ∈ types) →
      ofTypes others = ofTypes types := by
  refine ⟨fun key entry => get?_ofTypes_iff h, ?_⟩
  intro others hothers
  have hreach : ∀ type, type ∈ others.flatMap ResolvedType.reach ↔
      type ∈ types.flatMap ResolvedType.reach := by
    intro type
    simp only [List.mem_flatMap, hothers]
  have h' : ∀ type ∈ others.flatMap ResolvedType.reach, typeOf type.name = type :=
    fun type htype => h type ((hreach type).1 htype)
  refine Dict.ext_get? fun key => Option.ext fun entry => ?_
  rw [get?_ofTypes_iff h', get?_ofTypes_iff h]
  simp only [hreach]

end TypePool

/-- An error struct with a part that is declared over a basic type. -/
def ResolvedType.sampleFault : ResolvedType where
  name := "geo.Fault"
  origin := some ⟨"example.com/geo", "geo"⟩
  shape := .struct [⟨"Line", .basic "int", true⟩,
    ⟨"Trace", ⟨"[]geo.Code", none, .slice code, []⟩, true⟩]
  methods := ResolvedType.error.methods
where
  code : ResolvedType := ⟨"geo.Code", some ⟨"example.com/geo", "geo"⟩, .basic "int", []⟩

namespace TypePool

/-- The type of a name, among all that the sample reaches. -/
def sampleTypeOf (name : String) : ResolvedType :=
  (([.sampleFault, .error].flatMap ResolvedType.reach).find? (·.name == name)).getD default

theorem ofTypes_of_assigned_sample :
    (∀ type ∈ [.sampleFault, .error].flatMap ResolvedType.reach,
      sampleTypeOf type.name = type) ∧
    ofTypes [.error, .sampleFault, .error] = ofTypes [.sampleFault, .error] ∧
    (ofTypes [.sampleFault, .error]).get? "struct\x7bLine int; Trace []geo.Code\x7d" =
      some ResolvedType.sampleFault.anonymous.entry := by
  have hassigned : ∀ type ∈ [.sampleFault, .error].flatMap ResolvedType.reach,
      sampleTypeOf type.name = type := by
    intro type htype
    fin_cases htype <;> rfl
  obtain ⟨hentries, hsame⟩ := ofTypes_of_assigned sampleTypeOf [.sampleFault, .error] hassigned
  refine ⟨hassigned, hsame _ ?_, ?_⟩
  · intro type
    simp only [List.mem_cons, List.not_mem_nil, or_false]
    tauto
  · refine (hentries _ _).2 ⟨ResolvedType.sampleFault.anonymous, ?_, rfl, rfl⟩
    exact List.mem_flatMap.2 ⟨ResolvedType.sampleFault, List.mem_cons_self,
      ResolvedType.anonymous_mem_reach ResolvedType.sampleFault.mem_tree_self rfl⟩

end TypePool

end GoProbe
