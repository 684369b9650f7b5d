import Mathlib
import GoProbe.Analysis.Seeds
import GoProbe.Proofs.Addresses

/-!
# Seeds are the constants as written

The seeds of a body are read off its tree without a walk: `Node.Spells` says at which address a
constant is spelled, by a sign together with the literal behind it, or by a literal that no such
sign takes up. The addresses in written order give the list of the constants.

There are two groups.

* The walk for seeds does not go into a sign with its literal. Nothing but the literal is lost by
  this (`Node.at?_below_unit`), so the walk finds what is spelled, and no more
  (`Node.spells_iff`, `exists_spelled`).
* The buckets. Two lists say which type a constant has (`untypedDefaults`) and which types there are
  buckets for (`basicTypes`). A constant goes to the end of the bucket of its type (`get?_addSeed`),
  so the bucket of a type holds its values in order, and buckets of two lists are joined type by
  type (`bucket?_append`).
-/

namespace GoProbe

/-! ## Constants at their places -/

/-- A sign, the literal directly behind it and their common value. -/
def Expr.IsUnit (x : Expr) (constant : Constant) : Prop :=
  ∃ op lit, (op = .neg ∨ op = .plus) ∧ x = .unary op (.basicLit lit) (some constant)

theorem Expr.isSignedLiteral_iff {x : Expr} :
    x.isSignedLiteral = true ↔ ∃ constant, x.IsUnit constant := by
  constructor
  · intro h
    rw [Expr.isSignedLiteral.eq_def] at h
    split at h
    · exact ⟨_, _, _, .inl rfl, rfl⟩
    · exact ⟨_, _, _, .inr rfl, rfl⟩
    · cases h
  · rintro ⟨constant, op, lit, rfl | rfl, rfl⟩ <;> rfl

/-- What an expression spells as one unit is the value of a sign with its literal, or that of a
literal. -/
theorem Expr.seed?_eq_some_iff {x : Expr} {constant : Constant} :
    x.seed? = some constant ↔
      x.IsUnit constant ∨ ∃ lit, x = .basicLit lit ∧ lit.constant = some constant := by
  constructor
  · intro h
    rw [Expr.seed?.eq_def] at h
    split at h
    · exact .inr ⟨_, rfl, h⟩
    · exact .inl ⟨_, _, .inl rfl, by rw [h]⟩
    · exact .inl ⟨_, _, .inr rfl, by rw [h]⟩
    · cases h
  · rintro (⟨op, lit, rfl | rfl, rfl⟩ | ⟨lit, rfl, h⟩)
    · rfl
    · rfl
    · exact h

namespace Node

variable {root : Node} {address : Address} {constant : Constant}

/-- The constant is spelled at the address: by a sign and its literal as one unit, or by a literal
that is not the operand of such a unit. -/
inductive Spells (root : Node) (address : Address) (constant : Constant) : Prop
  | unit {x : Expr} (hat : root.at? address = some (.expr x)) (hunit : x.IsUnit constant)
  | literal {lit : BasicLit} (hat : root.at? address = some (.expr (.basicLit lit)))
    (hconstant : lit.constant = some constant)
    (hfree : ∀ outer place x whole, address = outer ++ [place] →
      root.at? outer = some (.expr x) → ¬ x.IsUnit whole)

/-- Below a sign with its literal there is nothing but the literal. -/
theorem at?_below_unit {x : Expr} {place : Nat} {rest : Address} {found : Node}
    (hunit : x.IsUnit constant) (h : (Node.expr x).at? (place :: rest) = some found) :
    rest = [] ∧ ∃ lit, found = .expr (.basicLit lit) := by
  obtain ⟨op, lit, -, rfl⟩ := hunit
  obtain ⟨part, hpart, hfound⟩ := at?_cons.1 h
  obtain rfl : part = .expr (.basicLit lit) := List.mem_singleton.1 (List.mem_of_getElem? hpart)
  cases rest with
  | nil =>
    cases hfound
    exact ⟨rfl, lit, rfl⟩
  | cons next rest => simp [at?_cons, parts, Expr.parts] at hfound

theorem enters_eq_false_iff {node : Node} :
    node.enters (fun x => !x.isSignedLiteral) = false ↔
      ∃ x whole, node = .expr x ∧ x.IsUnit whole := by
  cases node <;> simp [enters, Expr.isSignedLiteral_iff]

/-- The walk for seeds comes to an address unless it leads into a sign with its literal. -/
theorem entered_iff (root : Node) (address : Address) :
    root.Entered (fun x => !x.isSignedLiteral) address ↔
      ∀ outer place rest x whole, address = outer ++ place :: rest →
        root.at? outer = some (.expr x) → ¬ x.IsUnit whole := by
  constructor
  · intro h outer place rest x whole heq hat hunit
    have hfalse := enters_eq_false_iff.2 ⟨x, whole, rfl, hunit⟩
    exact Bool.false_ne_true (hfalse.symm.trans (h outer place rest heq _ hat))
  · intro h outer place rest heq node hat
    by_contra hnot
    obtain ⟨x, whole, rfl, hunit⟩ := enters_eq_false_iff.1 (Bool.eq_false_iff.2 hnot)
    exact h outer place rest x whole heq hat hunit

/-- The walk for seeds finds a constant at the address exactly if it is spelled there. -/
theorem spells_iff :
    root.Spells address constant ↔
      ∃ x, root.at? address = some (.expr x) ∧
        root.Entered (fun x => !x.isSignedLiteral) address ∧ x.seed? = some constant := by
  rw [entered_iff]
  constructor
  · rintro (⟨hat, hunit⟩ | ⟨hat, hconstant, hfree⟩)
    · refine ⟨_, hat, ?_, Expr.seed?_eq_some_iff.2 (.inl hunit)⟩
      rintro outer place rest y whole rfl houter hwhole
      -- below a unit there are literals only, so no other unit
      rw [at?_append, houter] at hat
      obtain ⟨-, lit, hlit⟩ := at?_below_unit hwhole hat
      obtain ⟨op, other, -, rfl⟩ := hunit
      cases hlit
    · refine ⟨_, hat, ?_, Expr.seed?_eq_some_iff.2 (.inr ⟨_, rfl, hconstant⟩)⟩
      rintro outer place rest y whole rfl houter hwhole
      rw [at?_append, houter] at hat
      obtain ⟨rfl, -⟩ := at?_below_unit hwhole hat
      exact hfree outer place y whole rfl houter hwhole
  · rintro ⟨x, hat, hentered, hseed⟩
    rcases Expr.seed?_eq_some_iff.1 hseed with hunit | ⟨lit, rfl, hconstant⟩
    · exact .unit hat hunit
    · exact .literal hat hconstant fun outer place y whole => hentered outer place [] y whole

/-- The constant that a node spells as one unit. -/
def seed? : Node → Option Constant
  | expr x => x.seed?
  | _ => none

theorem seed?_eq_some_iff {node : Node} :
    node.seed? = some constant ↔ ∃ x, node = .expr x ∧ x.seed? = some constant := by
  cases node <;> simp [seed?]

end Node

theorem seedsOf_eq (nodes : List Node) : seedsOf nodes = nodes.filterMap Node.seed? :=
  List.filterMap_congr fun node _ => by cases node <;> rfl

/-- The walk for seeds lists what is spelled in the tree, in written order. -/
theorem exists_spelled (root : Node) :
    ∃ placed, ListsAll root.Spells placed ∧
      placed.map (·.2) = seedsOf (root.walk fun x => !x.isSignedLiteral) := by
  obtain ⟨nodes, hnodes, hwalk⟩ := root.exists_placed fun x => !x.isSignedLiteral
  have hseeds := hnodes.filterMap Node.seed?
  refine ⟨_, ⟨hseeds.ordered, ?_⟩, ?_⟩
  · intro address constant
    rw [hseeds.mem_iff, Node.spells_iff]
    constructor
    · rintro ⟨node, ⟨hat, hentered⟩, hseed⟩
      obtain ⟨x, rfl, hx⟩ := Node.seed?_eq_some_iff.1 hseed
      exact ⟨x, hat, hentered, hx⟩
    · rintro ⟨x, hat, hentered, hx⟩
      exact ⟨.expr x, ⟨hat, hentered⟩, hx⟩
  · rw [ListsAll.map_snd_filterMap, hwalk, seedsOf_eq]

/-! ## Types of constants -/

/-- Go's basic types with their two aliases. -/
def basicTypes : List String :=
  ["bool", "string", "int", "int8", "int16", "int32", "int64", "uint", "uint8", "uint16", "uint32",
    "uint64", "uintptr", "float32", "float64", "complex64", "complex128", "byte", "rune"]

/-- The kinds of untyped constants and their default types. -/
def untypedDefaults : List (String × String) :=
  [("untyped bool", "bool"), ("untyped rune", "rune"), ("untyped int", "int"),
    ("untyped float", "float64"), ("untyped complex", "complex128"), ("untyped string", "string")]

theorem isPrimitiveName_iff {name : String} : isPrimitiveName name = true ↔ name ∈ basicTypes := by
  have hperm : primitiveNames.Perm basicTypes := by decide
  rw [isPrimitiveName, List.contains_iff_mem, hperm.mem_iff]

/-- The constant has the type; an untyped one has its default type. -/
def Constant.HasType (constant : Constant) (typeName : String) : Prop :=
  (constant.typeName, typeName) ∈ untypedDefaults ∨
    constant.typeName ∉ untypedDefaults.map Prod.fst ∧ typeName = constant.typeName

instance (constant : Constant) (typeName : String) : Decidable (constant.HasType typeName) :=
  inferInstanceAs (Decidable (_ ∨ _))

theorem Constant.hasType_iff {constant : Constant} {typeName : String} :
    constant.HasType typeName ↔ typeName = defaultTypeName constant.typeName := by
  rw [HasType]
  generalize constant.typeName = name
  unfold defaultTypeName
  split
  · simp [untypedDefaults]
  · simp [untypedDefaults]
  · simp [untypedDefaults]
  · simp [untypedDefaults]
  · simp [untypedDefaults]
  · simp [untypedDefaults]
  · simp_all [untypedDefaults]

/-! ## Buckets -/

/-- The values of the constants of a type, in order. -/
def valuesOf (typeName : String) (constants : List Constant) : List String :=
  (constants.filter (·.HasType typeName)).map (·.value)

/-- The bucket of a type: its values, if it is a basic type and there are any. -/
def bucket? (typeName : String) (constants : List Constant) : Option (List String) :=
  if typeName ∈ basicTypes ∧ valuesOf typeName constants ≠ [] then
    some (valuesOf typeName constants)
  else none

variable {typeName : String} {constants : List Constant} {values : List String}

theorem valuesOf_ne_nil_iff :
    valuesOf typeName constants ≠ [] ↔ ∃ constant ∈ constants, constant.HasType typeName := by
  simp [valuesOf]

theorem bucket?_eq_some_iff :
    bucket? typeName constants = some values ↔
      typeName ∈ basicTypes ∧ (∃ constant ∈ constants, constant.HasType typeName) ∧
        values = valuesOf typeName constants := by
  rw [bucket?, ← valuesOf_ne_nil_iff, ← and_assoc, eq_comm (a := values)]
  split
  · next h => simp [h]
  · next h => simp [h]

/-- Buckets are joined type by type. -/
theorem bucket?_append (typeName : String) (left right : List Constant) :
    bucket? typeName (left ++ right) =
      (bucket? typeName left).merge (· ++ ·) (bucket? typeName right) := by
  have hvalues : valuesOf typeName (left ++ right) =
      valuesOf typeName left ++ valuesOf typeName right := by
    rw [valuesOf, List.filter_append, List.map_append, ← valuesOf, ← valuesOf]
  rw [bucket?, bucket?, bucket?, hvalues]
  by_cases hbasic : typeName ∈ basicTypes
  · cases valuesOf typeName left <;> cases valuesOf typeName right <;> simp [hbasic]
  · simp [hbasic]

/-- One constant goes to the end of its bucket. -/
theorem get?_addSeed (buckets : Dict (List String)) (constant : Constant) (typeName : String) :
    (addSeed buckets constant).get? typeName =
      (buckets.get? typeName).merge (· ++ ·) (bucket? typeName [constant]) := by
  have hvalues : valuesOf typeName [constant] =
      if constant.HasType typeName then [constant.value] else [] := by
    rw [valuesOf, List.filter_singleton]
    split <;> simp_all
  rw [bucket?, hvalues, addSeed]
  by_cases htype : constant.HasType typeName
  · rw [← Constant.hasType_iff.1 htype]
    by_cases hbasic : typeName ∈ basicTypes
    · rw [if_pos (isPrimitiveName_iff.2 hbasic), Dict.append, Dict.get?_insert]
      cases buckets.get? typeName <;> simp [htype, hbasic]
    · simp [hbasic, mt isPrimitiveName_iff.1 hbasic]
  · have hne : typeName ≠ defaultTypeName constant.typeName := mt Constant.hasType_iff.2 htype
    split
    · simp [Dict.append, Dict.get?_insert, hne]
    · simp

theorem get?_foldl_addSeed (buckets : Dict (List String)) (constants : List Constant)
    (typeName : String) :
    (constants.foldl addSeed buckets).get? typeName =
      (buckets.get? typeName).merge (· ++ ·) (bucket? typeName constants) := by
  induction constants generalizing buckets with
  | nil => simp [bucket?, valuesOf]
  | cons constant constants ih =>
    have hcons : bucket? typeName (constant :: constants) = _ :=
      bucket?_append typeName [constant] constants
    rw [List.foldl_cons, ih, get?_addSeed, hcons]
    exact (Option.associative_merge fun left right : List String => left ++ right).assoc _ _ _

/-- The harvest of a body has the buckets of its seeds. -/
theorem get?_harvest (body : Block) (typeName : String) :
    (harvest body).get? typeName =
      bucket? typeName (seedsOf ((Node.block body).walk fun x => !x.isSignedLiteral)) := by
  rw [harvest, get?_foldl_addSeed]
  exact Option.merge_none_left

theorem seedsOf_walk_append (left right : Block) (into : Expr → Bool) :
    seedsOf ((Node.block (left ++ right)).walk into) =
      seedsOf ((Node.block left).walk into) ++ seedsOf ((Node.block right).walk into) := by
  have hblock (body : Block) :
      seedsOf ((Node.block body).walk into) = seedsOf (Stmt.walkList into body) := rfl
  rw [hblock, hblock, hblock, Stmt.walkList_eq, List.map_append, List.flatMap_append,
    ← Stmt.walkList_eq, ← Stmt.walkList_eq, seedsOf, List.filterMap_append, ← seedsOf, ← seedsOf]

/-- Harvesting loses, invents and reorders nothing. The buckets of a body are those of the constants
spelled in it, in written order: a type has one exactly if it is a basic type and some constant has
it, and there are the values of its constants. So the buckets of two lists of statements are joined
type by type. -/
theorem harvest_buckets :
    (∀ body : Block, ∃ placed, ListsAll (Node.block body).Spells placed ∧
      ∀ typeName values, (harvest body).get? typeName = some values ↔
        typeName ∈ basicTypes ∧
          (∃ constant ∈ placed.map (·.2), constant.HasType typeName) ∧
          values = valuesOf typeName (placed.map (·.2))) ∧
    ∀ (left right : Block) (typeName : String),
      (harvest (left ++ right)).get? typeName =
        ((harvest left).get? typeName).merge (· ++ ·) ((harvest right).get? typeName) := by
  constructor
  · intro body
    obtain ⟨placed, hplaced, hseeds⟩ := exists_spelled (.block body)
    refine ⟨placed, hplaced, fun typeName values => ?_⟩
    rw [hseeds, get?_harvest, bucket?_eq_some_iff]
  · intro left right typeName
    rw [get?_harvest, get?_harvest, get?_harvest, seedsOf_walk_append, bucket?_append]

end GoProbe
