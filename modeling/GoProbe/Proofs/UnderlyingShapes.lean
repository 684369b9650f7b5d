import Mathlib
import GoProbe.Proofs.ReachableTypes
import GoProbe.Proofs.SupportedSignatures

/-!
# What stands under a named type

The entry of a named type points to the anonymous type underneath by the literal that spells its
shape. That entry is written first and the one of the named type afterwards, both by name, so the
shape survives only if nothing else takes the name of the literal.

A type that is called by its own literal replaces its own shape: a pointer type, a struct or
interface without a name of its own, and every function type or type parameter, whose literal is
just their name. If their methods make them errors, then their entry points to itself.

Otherwise the shape is found, as long as no type of the tree is called like the literal except
unnamed ones of the same kind (`underlying_of_named`). The literals that are made up for other types
do no harm: those of different kinds start differently (`spelledKind_literalName`).
-/

namespace GoProbe

/-! ## Kinds -/

/-- The kinds of pool entries. -/
inductive TypeKind where
  | named
  | interface
  | primitive
  | struct
  | array
  | slice
  | map
  | chan
  | pointer
deriving DecidableEq

def TypeEntry.kind : TypeEntry → TypeKind
  | .named _ _ _ _ => .named
  | .interface _ _ => .interface
  | .primitive _ => .primitive
  | .struct _ _ => .struct
  | .array _ _ _ => .array
  | .slice _ _ => .slice
  | .map _ _ _ => .map
  | .chan _ _ _ => .chan
  | .pointer _ _ => .pointer

/-- The kind of entry that describes the shape. -/
def TypeShape.kind : TypeShape → TypeKind
  | .basic _ => .primitive
  | .array _ _ => .array
  | .slice _ => .slice
  | .map _ _ => .map
  | .chan _ _ => .chan
  | .pointer _ => .pointer
  | .struct _ => .struct
  | .interface _ => .interface
  | .func => .interface
  | .typeParam => .interface

@[simp] theorem TypeShape.kind_outline (shape : TypeShape) (name : String) :
    (shape.outline name).kind = shape.kind := by
  cases shape <;> rfl

theorem TypeShape.kind_ne_named (shape : TypeShape) : shape.kind ≠ .named := by
  cases shape <;> simp [TypeShape.kind]

namespace ResolvedType

variable {type : ResolvedType}

theorem kind_entry_of_not_isNamed (h : type.isNamed = false) :
    type.entry.kind = type.shape.kind := by
  rw [entry_of_not_isNamed h, TypeShape.kind_outline]

theorem isNamed_of_kind (h : type.entry.kind = .named) : type.isNamed = true := by
  by_contra hnamed
  rw [Bool.not_eq_true] at hnamed
  rw [kind_entry_of_not_isNamed hnamed] at h
  exact type.shape.kind_ne_named h

end ResolvedType

/-! ## Literals of different kinds differ -/

/-- How the literals of each kind start; the first that fits decides. -/
def literalStarts : List (String × TypeKind) :=
  [("[]", .slice), ("[", .array), ("map[", .map), ("chan ", .chan), ("chan<-", .chan),
    ("<-chan", .chan), ("*", .pointer), ("struct\x7b", .struct), ("interface\x7b", .interface)]

/-- The kind of type that a literal spells. A text without any of the starts is a plain name. -/
def spelledKind (text : String) : TypeKind :=
  ((literalStarts.find? fun start => start.1.toList.isPrefixOf text.toList).map (·.2)).getD
    .primitive

theorem spelledKind_array (length : UInt64) (element : String) :
    spelledKind ("[" ++ toString length ++ "]" ++ element) = .array := by
  have htext : (toString length).toList = Nat.toDigits 10 length.toNat := by
    show (toString length.toNat).toList = _
    exact Nat.toList_repr
  obtain ⟨digit, digits, hdigits⟩ :=
    List.exists_cons_of_ne_nil (Nat.toDigits_ne_nil (n := length.toNat) (b := 10))
  have hdigit : digit.isDigit = true :=
    Nat.isDigit_of_mem_toDigits (by decide) (by decide) (hdigits ▸ List.mem_cons_self)
  -- The first digit keeps the literal apart from that of a slice.
  have hne : ']' ≠ digit := by
    rintro rfl
    cases hdigit
  simp [spelledKind, literalStarts, htext, hdigits, hne]

/-- A literal spells the kind of its shape. Function types and type parameters have none. -/
theorem ResolvedType.spelledKind_literalName {type : ResolvedType}
    (hliteral : type.literalName ≠ type.name)
    (hbasic : ∀ underlying, type.shape = .basic underlying → spelledKind underlying = .primitive) :
    spelledKind type.literalName = type.shape.kind := by
  obtain ⟨name, origin, shape, methods⟩ := type
  cases shape with
  | basic underlying => exact hbasic underlying rfl
  | array element length => exact spelledKind_array length element.name
  | chan element direction =>
    cases direction <;> simp [literalName, spelledKind, literalStarts, TypeShape.kind]
  | slice _ | map _ _ | pointer _ | struct _ | interface _ =>
    simp [literalName, spelledKind, literalStarts, TypeShape.kind]
  | func | typeParam => exact absurd rfl hliteral

/-! ## Following a named entry -/

namespace ResolvedType

variable {type source : ResolvedType}

/-- No basic type of the tree is called like a literal of another kind. -/
def PlainBasics (type : ResolvedType) : Prop :=
  ∀ part ∈ type.tree, ∀ underlying, part.shape = .basic underlying →
    spelledKind underlying = .primitive

/-- No type of the tree is called by the literal of `source`, but for unnamed ones of its kind. -/
def SparesLiteral (type source : ResolvedType) : Prop :=
  ∀ part ∈ type.tree, part.name = source.literalName →
    part.isNamed = false ∧ part.shape.kind = source.shape.kind

/-- A named type whose literal is spared is not called by it. -/
theorem SparesLiteral.literalName_ne (h : type.SparesLiteral source) {part : ResolvedType}
    (hpart : part ∈ type.tree) (hnamed : part.isNamed = true)
    (hliteral : part.literalName = source.literalName) : part.literalName ≠ part.name := by
  intro hname
  cases hnamed.symm.trans (h part hpart (hname.symm.trans hliteral)).1

/-- All that is reached under a literal that is spared has the kind of its shape. -/
theorem SparesLiteral.kind_entry (h : type.SparesLiteral source) (hbasics : type.PlainBasics)
    (hsource : source ∈ type.tree) (hnamed : source.isNamed = true) {other : ResolvedType}
    (hother : other ∈ type.reach) (hname : other.name = source.literalName) :
    other.entry.kind = source.shape.kind := by
  obtain ⟨part, hpart, hform⟩ := List.mem_flatMap.1 hother
  rcases mem_forms.1 hform with rfl | ⟨hpart', rfl⟩
  · obtain ⟨hunnamed, hkind⟩ := h other hpart hname
    rw [kind_entry_of_not_isNamed hunnamed, hkind]
  · -- Two literals that are made up alike are of one kind.
    have hliteral : part.literalName = source.literalName := hname
    have hspelled := spelledKind_literalName (h.literalName_ne hpart hpart' hliteral)
      (hbasics part hpart)
    have hspelled' := spelledKind_literalName (h.literalName_ne hsource hnamed rfl)
      (hbasics source hsource)
    rw [entry_anonymous, TypeShape.kind_outline, ← hspelled, hliteral, hspelled']

/-- A named entry in the pool of a type is that of a named type in its tree, and points to the
literal of that type. It points to itself exactly if the type is called by its literal. If the tree
spares the literal, then it points elsewhere, to an entry of the kind of the type's shape. -/
theorem underlying_of_named (type : ResolvedType) {key : String} {entry : TypeEntry}
    (hentry : (TypePool.ofTypes [type]).get? key = some entry) (hnamed : entry.kind = .named) :
    ∃ source ∈ type.tree, source.isNamed = true ∧ source.name = key ∧ source.entry = entry ∧
      entry.references = [source.literalName] ∧
      ∃ under, (TypePool.ofTypes [type]).get? source.literalName = some under ∧
        (under = entry ↔ source.literalName = key) ∧
        (type.PlainBasics → type.SparesLiteral source →
          source.literalName ≠ key ∧ under.kind = source.shape.kind) := by
  have hpool := TypePool.inOrder_ofTypes [type]
  obtain ⟨source, hreach, rfl, rfl⟩ := TypePool.exists_reach_of_get?_ofTypes hentry
  rw [List.flatMap_singleton] at hreach
  have hisNamed := isNamed_of_kind hnamed
  have hsource := mem_tree_of_isNamed hreach hisNamed
  have hrefs : source.entry.references = [source.literalName] := by
    rw [entry_of_isNamed hisNamed]
    rfl
  have hkey : (TypePool.ofTypes [type]).contains source.literalName = true := by
    refine hpool.closed _ _ hentry _ ?_
    rw [hrefs]
    exact List.mem_cons_self
  obtain ⟨under, hunder⟩ := Option.isSome_iff_exists.1 hkey
  refine ⟨source, hsource, hisNamed, rfl, rfl, hrefs, under, hunder, ?_, ?_⟩
  · constructor
    · rintro rfl
      have hname := hpool.keyed _ _ hunder
      rw [name_entry] at hname
      exact hname.symm
    · intro hname
      rw [hname, hentry] at hunder
      exact (Option.some.inj hunder).symm
  · intro hbasics hspares
    refine ⟨hspares.literalName_ne hsource hisNamed rfl, ?_⟩
    obtain ⟨other, hother, hname, rfl⟩ := TypePool.exists_reach_of_get?_ofTypes hunder
    rw [List.flatMap_singleton] at hother
    exact hspares.kind_entry hbasics hsource hisNamed hother hname

theorem underlying_of_named_fault :
    (TypePool.ofTypes [sampleFault]).get? "geo.Fault" =
        some (.named "geo.Fault" (some "example.com/geo") true
          "struct\x7bLine int; Trace []geo.Code\x7d") ∧
      sampleFault.PlainBasics ∧
      sampleFault.SparesLiteral sampleFault ∧
      ∃ under, (TypePool.ofTypes [sampleFault]).get?
          "struct\x7bLine int; Trace []geo.Code\x7d" = some under ∧ under.kind = .struct := by
  have hbasics : sampleFault.PlainBasics := by
    intro part hpart underlying hshape
    fin_cases hpart <;> cases hshape <;> decide
  have hspares : sampleFault.SparesLiteral sampleFault := by
    intro part hpart hname
    fin_cases hpart <;> exact absurd hname (by decide)
  obtain ⟨source, hsource, -, hname, -, -, under, hunder, -, hshape⟩ :=
    underlying_of_named sampleFault
      (show (TypePool.ofTypes [sampleFault]).get? "geo.Fault" = some _ from rfl) rfl
  obtain rfl : source = sampleFault :=
    List.inj_on_of_nodup_map (f := ResolvedType.name) (by decide) hsource
      sampleFault.mem_tree_self hname
  exact ⟨rfl, hbasics, hspares, under, hunder, (hshape hbasics hspares).2⟩

/-- The pointer to a struct type of package `geo`; its methods make it an error. -/
def faultPointer : ResolvedType where
  name := "*geo.Fault"
  origin := none
  shape := .pointer (geoFault "example.com/geo" [])
  methods := error.methods

/-- A struct with two error fields: the literal that `error` is declared with, and `error`. -/
def errorFields : ResolvedType where
  name := "struct\x7bOwn interface\x7bError() string\x7d; Any error\x7d"
  origin := none
  shape := .struct [⟨"Own", errorLiteral, true⟩, ⟨"Any", error, true⟩]
  methods := []

/-- Names tell the types of the tree apart. -/
def NamesApart (type : ResolvedType) : Prop :=
  ∀ part ∈ type.tree, ∀ other ∈ type.tree, part.name = other.name → part = other

/-- Shapes can get lost although names tell the types of the tree apart. The entry of an error type
that is a pointer points to itself, and nothing in the pool says that it is a pointer. Beside its
own literal `error` does not reach its shape either: there is no interface in the pool. -/
theorem shapes_lost :
    (faultPointer.NamesApart ∧
      (TypePool.ofTypes [faultPointer]).get? "*geo.Fault" =
        some (.named "*geo.Fault" none true "*geo.Fault")) ∧
    errorFields.NamesApart ∧
      (TypePool.ofTypes [errorFields]).get? "error" =
        some (.named "error" none true "interface\x7bError() string\x7d") ∧
      (TypePool.ofTypes [errorFields]).get? "interface\x7bError() string\x7d" =
        some (.named "interface\x7bError() string\x7d" none true
          "interface\x7bError() string\x7d") := by
  refine ⟨⟨?_, rfl⟩, ?_, rfl, rfl⟩
  · intro part hpart other hother
    exact List.inj_on_of_nodup_map (by decide) hpart hother
  · intro part hpart other hother
    exact List.inj_on_of_nodup_map (by decide) hpart hother

end ResolvedType

end GoProbe
