import Mathlib
import GoProbe.Proofs.ReachableTypes
import GoProbe.Proofs.SupportedSignatures

/-!
# The types of supported signatures

Generated code can make values of the basic types in `primitiveNames`. The check of a signature
does not look at this list: an entry is primitive if the type has a basic shape, no package and no
`Error` method (`ResolvedType.IsPredeclared`), whatever it is called.

So the slots of a supported signature have predeclared basic types, or errors among the results, as
long as they do not clash; and their names are in the list only if the resolver keeps to it. Without
any condition, each slot shares its name with such a type that the signature reaches.
-/

namespace GoProbe

/-! ## Predeclared types -/

theorem TypeShape.isPrimitive_outline (shape : TypeShape) (name : String) :
    (shape.outline name).isPrimitive = shape.isBasic := by
  cases shape <;> rfl

theorem TypeShape.isError_outline (shape : TypeShape) (name : String) :
    (shape.outline name).isError = false := by
  cases shape <;> rfl

namespace ResolvedType

variable {type : ResolvedType}

/-- A basic type without a package, and no error. -/
structure IsPredeclared (type : ResolvedType) : Prop where
  isBasic : type.shape.isBasic = true
  origin : type.origin = none
  noError : type.implementsError = false

theorem IsPredeclared.isNamed_eq_false (h : type.IsPredeclared) : type.isNamed = false := by
  rw [isNamed, h.noError, h.origin]
  rfl

theorem isPredeclared_iff :
    type.IsPredeclared ↔ type.isNamed = false ∧ type.shape.isBasic = true := by
  constructor
  · intro h
    exact ⟨h.isNamed_eq_false, h.isBasic⟩
  · rintro ⟨hnamed, hbasic⟩
    rw [isNamed, hbasic, Bool.and_true, Bool.or_eq_false_iff, Option.isSome_eq_false_iff,
      Option.isNone_iff_eq_none] at hnamed
    exact ⟨hbasic, hnamed.2, hnamed.1⟩

theorem isPrimitive_entry_iff : type.entry.isPrimitive = true ↔ type.IsPredeclared := by
  rw [isPredeclared_iff]
  by_cases hnamed : type.isNamed = true
  · rw [entry_of_isNamed hnamed, hnamed]
    simp [TypeEntry.isPrimitive]
  · rw [Bool.not_eq_true] at hnamed
    rw [entry_of_not_isNamed hnamed, TypeShape.isPrimitive_outline]
    exact (and_iff_right hnamed).symm

theorem isError_entry (type : ResolvedType) : type.entry.isError = type.implementsError := by
  by_cases hnamed : type.isNamed = true
  · rw [entry_of_isNamed hnamed]
    rfl
  · rw [Bool.not_eq_true] at hnamed
    rw [entry_of_not_isNamed hnamed, TypeShape.isError_outline]
    rw [isNamed, Bool.or_eq_false_iff] at hnamed
    exact hnamed.1.symm

end ResolvedType

/-! ## Slots -/

namespace FuncDecl

variable {func : FuncDecl}

/-- Every parameter has a type of the one sort, and every result a type of the other. -/
def SlotsBy (func : FuncDecl) (parameter result : ResolvedType → Prop) : Prop :=
  (∀ field ∈ func.signature.params, ∃ type, field.resolved = some type ∧ parameter type) ∧
  ∀ field ∈ func.signature.results, ∃ type, field.resolved = some type ∧ result type

theorem SlotsBy.imp {parameter parameter' result result' : ResolvedType → Prop}
    (h : func.SlotsBy parameter result)
    (hparameter : ∀ type ∈ func.slotTypes, parameter type → parameter' type)
    (hresult : ∀ type ∈ func.slotTypes, result type → result' type) :
    func.SlotsBy parameter' result' := by
  constructor
  · intro field hfield
    obtain ⟨type, htype, hsort⟩ := h.1 field hfield
    have hslot : type ∈ func.slotTypes := Field.mem_types (List.mem_append_left _ hfield) htype
    exact ⟨type, htype, hparameter type hslot hsort⟩
  · intro field hfield
    obtain ⟨type, htype, hsort⟩ := h.2 field hfield
    have hslot : type ∈ func.slotTypes := Field.mem_types (List.mem_append_right _ hfield) htype
    exact ⟨type, htype, hresult type hslot hsort⟩

/-- Described each alone, the types fit if they are predeclared, or errors among the results. -/
theorem fitsBy_entry_iff :
    func.FitsBy (fun type => some type.entry) ↔
      func.SlotsBy ResolvedType.IsPredeclared
        fun type => type.IsPredeclared ∨ type.implementsError = true := by
  simp only [FitsBy, SlotsBy, Option.some.injEq, exists_eq_left',
    ResolvedType.isPrimitive_entry_iff, ResolvedType.isError_entry]

/-- Signatures whose slots do not clash are judged by the types themselves. -/
theorem exists_checkSupport_iff_of_agrees (h : func.slotTypes.Pairwise ResolvedType.Agrees) :
    (∃ pool, func.checkSupport = .ok pool) ↔
      func.IsPlain ∧ func.SlotsBy ResolvedType.IsPredeclared
        fun type => type.IsPredeclared ∨ type.implementsError = true := by
  constructor
  · rintro ⟨pool, hpool⟩
    obtain ⟨hplain, rfl, hfits⟩ := checkSupport_eq_ok_iff.1 hpool
    refine ⟨hplain, fitsBy_entry_iff.1 (fitsBy_congr ?_ hfits)⟩
    exact fun type htype => TypePool.get?_ofTypes_of_agrees h htype
  · rintro ⟨hplain, hslots⟩
    refine ⟨_, checkSupport_eq_ok_iff.2 ⟨hplain, rfl, ?_⟩⟩
    refine fitsBy_congr ?_ (fitsBy_entry_iff.2 hslots)
    exact fun type htype => (TypePool.get?_ofTypes_of_agrees h htype).symm

/-- Each slot of a supported signature shares its name with a type of the right sort that the
signature reaches, if not with itself. -/
theorem slotsBy_of_checkSupport {pool : TypePool} (h : func.checkSupport = .ok pool) :
    func.SlotsBy
      (fun type => ∃ source ∈ func.slotTypes.flatMap ResolvedType.reach,
        source.name = type.name ∧ source.IsPredeclared)
      fun type => ∃ source ∈ func.slotTypes.flatMap ResolvedType.reach,
        source.name = type.name ∧ (source.IsPredeclared ∨ source.implementsError = true) := by
  obtain ⟨-, rfl, hfits⟩ := checkSupport_eq_ok_iff.1 h
  have hslots : func.SlotsBy
      (fun type => ∃ entry, (TypePool.ofTypes func.slotTypes).get? type.name = some entry ∧
        entry.isPrimitive = true)
      fun type => ∃ entry, (TypePool.ofTypes func.slotTypes).get? type.name = some entry ∧
        (entry.isPrimitive = true ∨ entry.isError = true) := hfits
  refine hslots.imp ?_ ?_
  · rintro type - ⟨entry, hentry, hprimitive⟩
    obtain ⟨source, hsource, hname, rfl⟩ := TypePool.exists_reach_of_get?_ofTypes hentry
    exact ⟨source, hsource, hname, ResolvedType.isPrimitive_entry_iff.1 hprimitive⟩
  · rintro type - ⟨entry, hentry, hfit⟩
    obtain ⟨source, hsource, hname, rfl⟩ := TypePool.exists_reach_of_get?_ofTypes hentry
    rw [ResolvedType.isPrimitive_entry_iff, ResolvedType.isError_entry] at hfit
    exact ⟨source, hsource, hname, hfit⟩

/-- Each slot of a supported signature shares its name with a predeclared type, or for a result
with an error, that the signature reaches. Where the slots do not clash, a plain function is
supported exactly if the slots themselves have such types, by whatever names. So if the predeclared
types among them are called as in the list of primitive names, then the parameters, and the results
that are no errors, are predeclared types of these names. -/
theorem supported_slots (func : FuncDecl) :
    (∀ pool, func.checkSupport = .ok pool →
      func.SlotsBy
        (fun type => ∃ source ∈ func.slotTypes.flatMap ResolvedType.reach,
          source.name = type.name ∧ source.IsPredeclared)
        fun type => ∃ source ∈ func.slotTypes.flatMap ResolvedType.reach,
          source.name = type.name ∧ (source.IsPredeclared ∨ source.implementsError = true)) ∧
    (func.slotTypes.Pairwise ResolvedType.Agrees →
      ((∃ pool, func.checkSupport = .ok pool) ↔
        func.IsPlain ∧ func.SlotsBy ResolvedType.IsPredeclared
          fun type => type.IsPredeclared ∨ type.implementsError = true) ∧
      ((∀ type ∈ func.slotTypes, type.IsPredeclared → type.name ∈ primitiveNames) →
        ∀ pool, func.checkSupport = .ok pool →
          func.SlotsBy (fun type => type.IsPredeclared ∧ type.name ∈ primitiveNames)
            fun type => type.implementsError = false →
              type.IsPredeclared ∧ type.name ∈ primitiveNames)) := by
  refine ⟨fun pool hpool => slotsBy_of_checkSupport hpool, ?_⟩
  intro hagrees
  refine ⟨exists_checkSupport_iff_of_agrees hagrees, ?_⟩
  intro hnames pool hpool
  obtain ⟨-, hslots⟩ := (exists_checkSupport_iff_of_agrees hagrees).1 ⟨pool, hpool⟩
  refine hslots.imp ?_ ?_
  · intro type htype hpredeclared
    exact ⟨hpredeclared, hnames type htype hpredeclared⟩
  · intro type htype hsort hnoError
    have hpredeclared : type.IsPredeclared := hsort.resolve_right (by simp [hnoError])
    exact ⟨hpredeclared, hnames type htype hpredeclared⟩

theorem supported_slots_sample :
    (ofSlots [.basic "int"] [.basic "rune", .error]).slotTypes.Pairwise ResolvedType.Agrees ∧
      (∃ pool, (ofSlots [.basic "int"] [.basic "rune", .error]).checkSupport = .ok pool) ∧
      (ofSlots [.basic "int"] [.basic "rune", .error]).SlotsBy
        (fun type => type.IsPredeclared ∧ type.name ∈ primitiveNames)
        fun type => type.implementsError = false →
          type.IsPredeclared ∧ type.name ∈ primitiveNames := by
  have hagrees : (ofSlots [.basic "int"] [.basic "rune", .error]).slotTypes.Pairwise
      ResolvedType.Agrees := by decide
  have hnames : ∀ type ∈ (ofSlots [.basic "int"] [.basic "rune", .error]).slotTypes,
      type.IsPredeclared → type.name ∈ primitiveNames := by
    intro type htype hpredeclared
    fin_cases htype
    · decide
    · decide
    · cases hpredeclared.isBasic
  obtain ⟨pool, hpool⟩ :
      ∃ pool, (ofSlots [.basic "int"] [.basic "rune", .error]).checkSupport = .ok pool := ⟨_, rfl⟩
  exact ⟨hagrees, ⟨pool, hpool⟩, ((supported_slots _).2 hagrees).2 hnames pool hpool⟩

/-- Other types get through too. A parameter may be of type `unsafe.Pointer`, which has a basic
shape and no package; and beside an error type of one package `geo` a result may be of a struct
type of another package `geo`, which is no error. -/
theorem supported_other_types :
    ((∃ pool, (ofSlots [.basic "unsafe.Pointer"] []).checkSupport = .ok pool) ∧
      "unsafe.Pointer" ∉ primitiveNames) ∧
    (∃ pool, (ofSlots [] [.geoFault "example.com/a/geo" ResolvedType.error.methods,
        .geoFault "example.com/b/geo" []]).checkSupport = .ok pool) ∧
      (ResolvedType.geoFault "example.com/b/geo" []).implementsError = false ∧
      ¬ (ResolvedType.geoFault "example.com/b/geo" []).IsPredeclared := by
  refine ⟨⟨⟨_, rfl⟩, by decide⟩, ⟨_, rfl⟩, rfl, ?_⟩
  intro hpredeclared
  cases hpredeclared.isBasic

end FuncDecl

end GoProbe
