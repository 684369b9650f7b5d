import Mathlib
import GoProbe.Analysis.Support
import GoProbe.Proofs.TypePools

/-!
# Which signatures are supported

The check of a signature enters the types of its slots into one pool and looks each of them up
right after. Entries are never changed later, so the verdict can be read off the pool of the whole
signature (`checkSupport_eq_ok_iff`): each slot is judged by what stands there under the name of
its type.

That is the type's own entry, unless an earlier slot left another one under this name. A type
leaves its own entry and those of its parts; a named type also leaves the anonymous type
underneath, under a name that is made up from its shape. `ResolvedType.Agrees` rules out such a
clash, and then each slot is judged by its type alone.
-/

namespace GoProbe

/-- Two steps come through if both do. -/
theorem bind_eq_ok_iff {ε α β : Type} {first : Except ε α} {next : α → Except ε β} {b : β} :
    first >>= next = .ok b ↔ ∃ a, first = .ok a ∧ next a = .ok b := by
  cases first with
  | error err => simp [bind, Except.bind]
  | ok a => simp [bind, Except.bind]

namespace Field

/-- The types of the fields that have one. -/
def types (fields : List Field) : List ResolvedType :=
  fields.filterMap (·.resolved)

theorem types_append (fields others : List Field) :
    types (fields ++ others) = types fields ++ types others :=
  List.filterMap_append

theorem mem_types {fields : List Field} {field : Field} {type : ResolvedType} (h : field ∈ fields)
    (htype : field.resolved = some type) : type ∈ types fields :=
  List.mem_filterMap.2 ⟨field, h, htype⟩

theorem types_cons {field : Field} {type : ResolvedType} (h : field.resolved = some type)
    (rest : List Field) : types (field :: rest) = type :: types rest :=
  List.filterMap_cons_some h

end Field

/-! ## One kind of slot -/

namespace SlotKind

variable {kind : SlotKind} {index : Nat} {field : Field} {rest : List Field}
  {pool after : TypePool}

theorem accept_none (h : field.resolved = none) :
    kind.accept index (field :: rest) pool = .error (.unresolved ⟨kind, index⟩) := by
  rw [accept, h]

/-- One step of the check. -/
theorem accept_some (hpool : pool.InOrder) {type : ResolvedType}
    (h : field.resolved = some type) :
    kind.accept index (field :: rest) pool =
      if ((type.addTo pool).get? type.name).any kind.fits then
        kind.accept (index + 1) rest (type.addTo pool)
      else .error (.unsupported (kind.misfit index field type.name)) := by
  rw [accept, h]
  simp only [ResolvedType.enter_run hpool]

/-- The fields are accepted if each has a type and, in the pool of all of them, an entry that
fits. -/
theorem accept_eq_ok_iff (hpool : pool.InOrder) {fields : List Field} :
    kind.accept index fields pool = .ok after ↔
      after = pool.addAll (Field.types fields) ∧
        ∀ field ∈ fields, ∃ type, field.resolved = some type ∧
          ∃ entry, after.get? type.name = some entry ∧ kind.fits entry = true := by
  induction fields generalizing index pool with
  | nil =>
    simp only [accept, Except.ok.injEq, List.not_mem_nil, false_implies, implies_true, and_true]
    exact eq_comm
  | cons field rest ih =>
    rw [List.forall_mem_cons]
    cases hresolved : field.resolved with
    | none =>
      rw [accept_none hresolved]
      simp
    | some type =>
      have hgrown := ResolvedType.addTo_grown hpool type
      rw [accept_some hpool hresolved, Field.types_cons hresolved]
      obtain ⟨entry, hentry⟩ :=
        Option.isSome_iff_exists.1 (hgrown.bound type.name List.mem_cons_self)
      -- Later fields leave the entry of this one alone.
      have hkept : (type.addTo pool).addAll (Field.types rest) = after →
          after.get? type.name = some entry := by
        rintro rfl
        exact (TypePool.addAll_grown hgrown.inOrder _).kept _ _ hentry
      have hfirst : pool.addAll (type :: Field.types rest) =
          (type.addTo pool).addAll (Field.types rest) := rfl
      rw [hentry, Option.any_some, hfirst]
      by_cases hfits : kind.fits entry = true
      · rw [if_pos hfits, ih hgrown.inOrder]
        constructor
        · rintro ⟨hafter, hrest⟩
          exact ⟨hafter, ⟨type, rfl, entry, hkept hafter.symm, hfits⟩, hrest⟩
        · rintro ⟨hafter, -, hrest⟩
          exact ⟨hafter, hrest⟩
      · rw [if_neg hfits]
        constructor
        · intro h
          cases h
        · rintro ⟨hafter, ⟨other, hother, found, hfound, hfound'⟩, -⟩
          cases hother
          rw [hkept hafter.symm] at hfound
          cases hfound
          exact absurd hfound' hfits

theorem result_fits_iff {entry : TypeEntry} :
    result.fits entry = true ↔ entry.isPrimitive = true ∨ entry.isError = true := by
  simp [fits]

theorem inOrder_of_accept (hpool : pool.InOrder) {fields : List Field}
    (h : kind.accept index fields pool = .ok after) : after.InOrder := by
  obtain ⟨rfl, -⟩ := (accept_eq_ok_iff hpool).1 h
  exact (TypePool.addAll_grown hpool _).inOrder

end SlotKind

/-! ## Whole signatures -/

namespace FuncDecl

/-- The function is no method, has no type parameters and no variadic parameter. -/
structure IsPlain (func : FuncDecl) : Prop where
  receiver : func.receiver = none
  typeParams : func.typeParams = []
  fixed : func.isVariadic = false

/-- The types of the slots, parameters first. -/
def slotTypes (func : FuncDecl) : List ResolvedType :=
  Field.types (func.signature.params ++ func.signature.results)

/-- Every parameter is primitive, and every result primitive or an error, if `entryOf` describes
the types. -/
def FitsBy (func : FuncDecl) (entryOf : ResolvedType → Option TypeEntry) : Prop :=
  (∀ field ∈ func.signature.params, ∃ type, field.resolved = some type ∧
    ∃ entry, entryOf type = some entry ∧ entry.isPrimitive = true) ∧
  ∀ field ∈ func.signature.results, ∃ type, field.resolved = some type ∧
    ∃ entry, entryOf type = some entry ∧ (entry.isPrimitive = true ∨ entry.isError = true)

variable {func : FuncDecl}

theorem checkSupport_of_isPlain (h : func.IsPlain) :
    func.checkSupport = (do
      let pool ← SlotKind.parameter.accept 0 func.signature.params .empty
      SlotKind.result.accept 0 func.signature.results pool) := by
  rw [checkSupport, h.receiver, h.typeParams, h.fixed]
  rfl

theorem isPlain_or_unsupported (func : FuncDecl) :
    func.IsPlain ∨ ∃ reason, func.checkSupport = .error (.unsupported reason) := by
  by_cases hreceiver : func.receiver.isSome = true
  · exact .inr ⟨.receiver, by rw [checkSupport, if_pos hreceiver]⟩
  by_cases hparams : func.typeParams.isEmpty = true
  · by_cases hvariadic : func.isVariadic = true
    · refine .inr ⟨.variadic, ?_⟩
      rw [checkSupport, if_neg hreceiver, hparams, hvariadic]
      rfl
    · refine .inl ⟨?_, List.isEmpty_iff.1 hparams, Bool.eq_false_iff.2 hvariadic⟩
      exact Option.not_isSome_iff_eq_none.1 hreceiver
  · refine .inr ⟨.typeParameters, ?_⟩
    rw [checkSupport, if_neg hreceiver, Bool.eq_false_iff.2 hparams]
    rfl

theorem isPlain_of_checkSupport {pool : TypePool} (h : func.checkSupport = .ok pool) :
    func.IsPlain := by
  rcases func.isPlain_or_unsupported with hplain | ⟨reason, hreason⟩
  · exact hplain
  · cases hreason.symm.trans h

/-- A signature is supported if the entries in the pool of all its types fit; that pool is the
outcome. -/
theorem checkSupport_eq_ok_iff {pool : TypePool} :
    func.checkSupport = .ok pool ↔
      func.IsPlain ∧ pool = .ofTypes func.slotTypes ∧
        func.FitsBy fun type => pool.get? type.name := by
  have hslots : TypePool.ofTypes func.slotTypes =
      (TypePool.ofTypes (Field.types func.signature.params)).addAll
        (Field.types func.signature.results) := by
    rw [slotTypes, Field.types_append, TypePool.ofTypes, TypePool.addAll_append]
    rfl
  -- The results leave alone what stands under the types of the parameters.
  have hsame : ∀ field ∈ func.signature.params, ∀ type, field.resolved = some type →
      (TypePool.ofTypes func.slotTypes).get? type.name =
        (TypePool.ofTypes (Field.types func.signature.params)).get? type.name := by
    intro field hfield type htype
    rw [slotTypes, Field.types_append]
    exact TypePool.get?_ofTypes_append (Field.mem_types hfield htype) _
  constructor
  · intro h
    have hplain := isPlain_of_checkSupport h
    rw [checkSupport_of_isPlain hplain, bind_eq_ok_iff] at h
    obtain ⟨between, hparams, hresults⟩ := h
    obtain ⟨rfl, hfit⟩ := (SlotKind.accept_eq_ok_iff TypePool.inOrder_empty).1 hparams
    obtain ⟨rfl, hfit'⟩ := (SlotKind.accept_eq_ok_iff (TypePool.inOrder_ofTypes _)).1 hresults
    refine ⟨hplain, hslots.symm, ?_, ?_⟩
    · intro field hfield
      obtain ⟨type, htype, entry, hentry, hfits⟩ := hfit field hfield
      rw [← hslots]
      exact ⟨type, htype, entry, (hsame field hfield type htype).trans hentry, hfits⟩
    · intro field hfield
      obtain ⟨type, htype, entry, hentry, hfits⟩ := hfit' field hfield
      exact ⟨type, htype, entry, hentry, SlotKind.result_fits_iff.1 hfits⟩
  · rintro ⟨hplain, rfl, hparams, hresults⟩
    rw [checkSupport_of_isPlain hplain, bind_eq_ok_iff]
    refine ⟨.ofTypes (Field.types func.signature.params),
      (SlotKind.accept_eq_ok_iff TypePool.inOrder_empty).2 ⟨rfl, ?_⟩,
      (SlotKind.accept_eq_ok_iff (TypePool.inOrder_ofTypes _)).2 ⟨hslots, ?_⟩⟩
    · intro field hfield
      obtain ⟨type, htype, entry, hentry, hfits⟩ := hparams field hfield
      exact ⟨type, htype, entry, (hsame field hfield type htype).symm.trans hentry, hfits⟩
    · intro field hfield
      obtain ⟨type, htype, entry, hentry, hfits⟩ := hresults field hfield
      exact ⟨type, htype, entry, hentry, SlotKind.result_fits_iff.2 hfits⟩

end FuncDecl

/-! ## Slots that do not clash -/

/-- Nothing that `earlier` leaves in a pool stands for `later` with another description. -/
def ResolvedType.Agrees (earlier later : ResolvedType) : Prop :=
  ∀ entry ∈ earlier.footprint, entry.name = later.name → entry = later.entry

instance : DecidableRel ResolvedType.Agrees := fun earlier later =>
  inferInstanceAs (Decidable (∀ entry ∈ earlier.footprint, entry.name = later.name →
    entry = later.entry))

theorem TypePool.get?_ofTypes_of_agrees {types : List ResolvedType}
    (h : types.Pairwise ResolvedType.Agrees) {type : ResolvedType} (htype : type ∈ types) :
    (TypePool.ofTypes types).get? type.name = some type.entry := by
  obtain ⟨earlier, later, rfl⟩ := List.append_of_mem htype
  rcases TypePool.get?_ofTypes earlier later type with hown | ⟨entry, hentry, hname, hfound⟩
  · exact hown
  · obtain ⟨source, hsource, hleft⟩ := List.mem_flatMap.1 hentry
    have hagrees := (List.pairwise_append.1 h).2.2 source hsource type List.mem_cons_self
    rw [hfound, hagrees entry hleft hname]

namespace FuncDecl

theorem fitsBy_congr {func : FuncDecl} {entryOf descriptionOf : ResolvedType → Option TypeEntry}
    (h : ∀ type ∈ func.slotTypes, entryOf type = descriptionOf type) (hfits : func.FitsBy entryOf) :
    func.FitsBy descriptionOf := by
  have hslot : ∀ field ∈ func.signature.params ++ func.signature.results, ∀ type,
      field.resolved = some type → entryOf type = descriptionOf type := by
    intro field hfield type htype
    exact h type (Field.mem_types hfield htype)
  constructor
  · intro field hfield
    obtain ⟨type, htype, entry, hentry, hprimitive⟩ := hfits.1 field hfield
    have hsame := hslot field (List.mem_append_left _ hfield) type htype
    exact ⟨type, htype, entry, hsame ▸ hentry, hprimitive⟩
  · intro field hfield
    obtain ⟨type, htype, entry, hentry, hfit⟩ := hfits.2 field hfield
    have hsame := hslot field (List.mem_append_right _ hfield) type htype
    exact ⟨type, htype, entry, hsame ▸ hentry, hfit⟩

/-- A function is supported exactly if it is plain and the entries under the names of its types,
in the pool of its whole signature, are primitive for parameters, and primitive or errors for
results. What stands there is the type's own entry, or one that an earlier slot left under this
name; if earlier slots leave no other description, the types may be described each alone. -/
theorem exists_checkSupport_iff (func : FuncDecl) :
    ((∃ pool, func.checkSupport = .ok pool) ↔
      func.IsPlain ∧ func.FitsBy fun type => (TypePool.ofTypes func.slotTypes).get? type.name) ∧
    (∀ earlier type later, func.slotTypes = earlier ++ type :: later →
      (TypePool.ofTypes func.slotTypes).get? type.name = some type.entry ∨
        ∃ entry ∈ earlier.flatMap ResolvedType.footprint, entry.name = type.name ∧
          (TypePool.ofTypes func.slotTypes).get? type.name = some entry) ∧
    (func.slotTypes.Pairwise ResolvedType.Agrees →
      ((∃ pool, func.checkSupport = .ok pool) ↔
        func.IsPlain ∧ func.FitsBy fun type => some type.entry)) := by
  have hshared : (∃ pool, func.checkSupport = .ok pool) ↔
      func.IsPlain ∧ func.FitsBy fun type => (TypePool.ofTypes func.slotTypes).get? type.name := by
    constructor
    · rintro ⟨pool, hpool⟩
      obtain ⟨hplain, rfl, hfits⟩ := checkSupport_eq_ok_iff.1 hpool
      exact ⟨hplain, hfits⟩
    · rintro ⟨hplain, hfits⟩
      exact ⟨_, checkSupport_eq_ok_iff.2 ⟨hplain, rfl, hfits⟩⟩
  refine ⟨hshared, ?_, ?_⟩
  · intro earlier type later hsplit
    rw [hsplit]
    exact TypePool.get?_ofTypes earlier later type
  intro hagrees
  have hown : ∀ type ∈ func.slotTypes,
      (TypePool.ofTypes func.slotTypes).get? type.name = some type.entry :=
    fun type htype => TypePool.get?_ofTypes_of_agrees hagrees htype
  rw [hshared]
  constructor
  · rintro ⟨hplain, hfits⟩
    exact ⟨hplain, fitsBy_congr hown hfits⟩
  · rintro ⟨hplain, hfits⟩
    exact ⟨hplain, fitsBy_congr (fun type htype => (hown type htype).symm) hfits⟩

/-- A function with unnamed slots of these types. -/
def ofSlots (params results : List ResolvedType) : FuncDecl where
  name := "F"
  receiver := none
  typeParams := []
  signature := { params := params.map slot, results := results.map slot }
  body := some []
  position := ⟨1, 1⟩
where
  slot (type : ResolvedType) : Field :=
    { names := [], type := .name type.name, tag := none, resolved := some type }

theorem exists_checkSupport_iff_sample :
    (ofSlots [.basic "int"] [.basic "int", .error, .error]).slotTypes.Pairwise
        ResolvedType.Agrees ∧
      ((∃ pool, (ofSlots [.basic "int"] [.basic "int", .error, .error]).checkSupport = .ok pool) ↔
        (ofSlots [.basic "int"] [.basic "int", .error, .error]).IsPlain ∧
        (ofSlots [.basic "int"] [.basic "int", .error, .error]).FitsBy
          fun type => some type.entry) := by
  have hagrees : (ofSlots [.basic "int"] [.basic "int", .error, .error]).slotTypes.Pairwise
      ResolvedType.Agrees := by decide
  exact ⟨hagrees, (exists_checkSupport_iff _).2.2 hagrees⟩

end FuncDecl

/-- The type literal that `error` is declared with; it is an error too. -/
def ResolvedType.errorLiteral : ResolvedType :=
  { ResolvedType.error with name := "interface\x7bError() string\x7d" }

/-- A struct type of a package called `geo`. -/
def ResolvedType.geoFault (path : String) (methods : List MethodSignature) : ResolvedType where
  name := "geo.Fault"
  origin := some ⟨path, "geo"⟩
  shape := .struct [⟨"Line", .basic "int", true⟩]
  methods := methods

/-- Other slots can decide. Beside `error` its own literal is refused, although it is an error: the
pool has it as the anonymous type under `error`. Beside an error type of one package `geo` a plain
struct type of another package `geo` is let through, since both have one name. -/
theorem FuncDecl.checkSupport_clash :
    ((FuncDecl.ofSlots [] [.error, .errorLiteral]).checkSupport =
        .error (.unsupported (.result 1 "interface\x7bError() string\x7d")) ∧
      (FuncDecl.ofSlots [] [.error, .errorLiteral]).IsPlain ∧
      (FuncDecl.ofSlots [] [.error, .errorLiteral]).FitsBy fun type => some type.entry) ∧
    (∃ pool, (FuncDecl.ofSlots [] [.geoFault "example.com/a/geo" ResolvedType.error.methods,
        .geoFault "example.com/b/geo" []]).checkSupport = .ok pool) ∧
      ¬ (FuncDecl.ofSlots [] [.geoFault "example.com/a/geo" ResolvedType.error.methods,
        .geoFault "example.com/b/geo" []]).FitsBy fun type => some type.entry := by
  refine ⟨⟨rfl, ⟨rfl, rfl, rfl⟩, ?_, ?_⟩, ⟨_, rfl⟩, ?_⟩
  · intro field hfield
    cases hfield
  · intro field hfield
    obtain ⟨type, htype, rfl⟩ := List.mem_map.1 hfield
    refine ⟨type, rfl, _, rfl, .inr ?_⟩
    rcases List.mem_pair.1 htype with rfl | rfl <;> rfl
  · rintro ⟨-, hresults⟩
    have hslot := hresults (FuncDecl.ofSlots.slot (.geoFault "example.com/b/geo" []))
      (List.mem_map_of_mem (List.mem_pair.2 (.inr rfl)))
    obtain ⟨type, htype, entry, hentry, hfits⟩ := hslot
    cases htype
    cases hentry
    rcases hfits with hprimitive | herror
    · cases hprimitive
    · cases herror

end GoProbe
