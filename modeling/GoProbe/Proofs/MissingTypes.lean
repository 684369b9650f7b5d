import Mathlib
import GoProbe.Proofs.Accounting

/-!
# When a report fails

A report fails for one reason only: the check of a candidate comes to a slot without a type. The
check goes over the parameters and then the results, and leaves the function out at the first slot
that does not fit; so a missing type counts only if all slots before it have types that fit
(`FuncDecl.StopsAt`).

The failure of a run is put together from those of its parts: the fields of one kind
(`accept_eq_unresolved_iff`), the signature (`checkSupport_eq_unresolved_iff`), the candidates in
their order (`mapM_eq_error_iff`). The making of a record never adds one, since a supported function
has all its types.
-/

namespace GoProbe

/-- Two steps fail if the first does, or the second after it. -/
theorem bind_eq_error_iff {ε α β : Type} {first : Except ε α} {next : α → Except ε β} {err : ε} :
    first >>= next = .error err ↔
      first = .error err ∨ ∃ a, first = .ok a ∧ next a = .error err := by
  cases first with
  | error other => simp [bind, Except.bind]
  | ok a => simp [bind, Except.bind]

theorem mapError_eq_error_iff {ε ε' α : Type} {result : Except ε α} {wrap : ε → ε'} {err : ε'} :
    result.mapError wrap = .error err ↔ ∃ inner, result = .error inner ∧ wrap inner = err := by
  cases result <;> simp [Except.mapError]

/-! ## One kind of slot -/

/-- The field has a type whose entry in the pool fits the kind of slot. -/
def Field.FitsIn (field : Field) (kind : SlotKind) (pool : TypePool) : Prop :=
  ∃ type, field.resolved = some type ∧
    ∃ entry, pool.get? type.name = some entry ∧ kind.fits entry = true

namespace SlotKind

variable {kind : SlotKind} {index : Nat} {fields : List Field} {pool : TypePool} {slot : Slot}

/-- The check finds a type missing if it comes through up to this field. -/
theorem accept_eq_unresolved_iff (hpool : pool.InOrder) :
    kind.accept index fields pool = .error (.unresolved slot) ↔
      ∃ earlier field later after, fields = earlier ++ field :: later ∧ field.resolved = none ∧
        kind.accept index earlier pool = .ok after ∧ slot = ⟨kind, index + earlier.length⟩ := by
  induction fields generalizing index pool with
  | nil => simp [accept]
  | cons first rest ih =>
    cases hresolved : first.resolved with
    | none =>
      rw [accept_none hresolved, Except.error.injEq, Rejection.unresolved.injEq]
      constructor
      · rintro rfl
        exact ⟨[], first, rest, pool, rfl, hresolved, rfl, rfl⟩
      · rintro ⟨earlier, field, later, after, hfields, -, haccept, rfl⟩
        cases earlier with
        | nil => rfl
        | cons other earlier =>
          obtain ⟨rfl, -⟩ := List.cons.inj hfields
          rw [accept_none hresolved] at haccept
          cases haccept
    | some type =>
      have hgrown := ResolvedType.addTo_grown hpool type
      rw [accept_some hpool hresolved]
      constructor
      · intro h
        split at h
        · next hfits =>
          obtain ⟨earlier, field, later, after, rfl, hfield, haccept, rfl⟩ :=
            (ih hgrown.inOrder).1 h
          refine ⟨first :: earlier, field, later, after, rfl, hfield, ?_, ?_⟩
          · rw [accept_some hpool hresolved, if_pos hfits]
            exact haccept
          · rw [List.length_cons, Nat.add_right_comm, Nat.add_assoc]
        · cases h
      · rintro ⟨earlier, field, later, after, hfields, hfield, haccept, rfl⟩
        cases earlier with
        | nil =>
          obtain ⟨rfl, -⟩ := List.cons.inj hfields
          cases hfield.symm.trans hresolved
        | cons other earlier =>
          obtain ⟨rfl, rfl⟩ := List.cons.inj hfields
          rw [accept_some hpool hresolved] at haccept
          split at haccept
          · next hfits =>
            rw [if_pos hfits, ih hgrown.inOrder]
            refine ⟨earlier, field, later, after, rfl, hfield, haccept, ?_⟩
            rw [List.length_cons, Nat.add_right_comm, Nat.add_assoc]
          · cases haccept

end SlotKind

/-! ## Signatures -/

/-- An item of two lists in a row stands in the first, or in the second after all of the first. -/
theorem exists_append_split_iff {α : Type} {first second : List α} {P : List α → α → Prop} :
    (∃ before item after, first ++ second = before ++ item :: after ∧ P before item) ↔
      (∃ before item after, first = before ++ item :: after ∧ P before item) ∨
        ∃ before item after, second = before ++ item :: after ∧ P (first ++ before) item := by
  constructor
  · rintro ⟨before, item, after, hsplit, hitem⟩
    rcases List.append_eq_append_iff.1 hsplit with ⟨more, rfl, rfl⟩ | ⟨more, rfl, hmore⟩
    · exact .inr ⟨more, item, after, rfl, hitem⟩
    · cases more with
      | nil =>
        rw [List.append_nil]
        exact .inr ⟨[], item, after, hmore.symm, by rwa [List.append_nil]⟩
      | cons other more =>
        obtain ⟨rfl, rfl⟩ := List.cons.inj hmore
        exact .inl ⟨before, item, more, rfl, hitem⟩
  · rintro (⟨before, item, after, rfl, hitem⟩ | ⟨before, item, after, rfl, hitem⟩)
    · exact ⟨before, item, after ++ second, by simp, hitem⟩
    · exact ⟨first ++ before, item, after, by simp, hitem⟩

namespace Field

/-- The first `count` fields fit as parameters and the others as results, in the pool of all. -/
def AllFit (count : Nat) (fields : List Field) : Prop :=
  (∀ param ∈ fields.take count, param.FitsIn .parameter (.ofTypes (types fields))) ∧
  ∀ result ∈ fields.drop count, result.FitsIn .result (.ofTypes (types fields))

/-- Later fields do not change whether a field fits. -/
theorem fitsIn_append_iff {fields more : List Field} {field : Field} {kind : SlotKind}
    (h : field ∈ fields) :
    field.FitsIn kind (.ofTypes (types (fields ++ more))) ↔
      field.FitsIn kind (.ofTypes (types fields)) := by
  refine exists_congr fun type => and_congr_right fun htype => ?_
  rw [types_append, TypePool.get?_ofTypes_append (mem_types h htype)]

/-- Parameters fit if the check comes through. -/
theorem allFit_iff_of_length_le {count : Nat} {fields : List Field} (h : fields.length ≤ count) :
    AllFit count fields ↔ ∃ after, SlotKind.parameter.accept 0 fields .empty = .ok after := by
  simp only [SlotKind.accept_eq_ok_iff TypePool.inOrder_empty, exists_eq_left]
  rw [AllFit, List.take_of_length_le h, List.drop_of_length_le h]
  simp only [List.not_mem_nil, false_implies, implies_true, and_true]
  rfl

/-- All parameters and some results fit if the check comes through both. -/
theorem allFit_append_iff {params results : List Field} :
    AllFit params.length (params ++ results) ↔
      ∃ between, SlotKind.parameter.accept 0 params .empty = .ok between ∧
        ∃ after, SlotKind.result.accept 0 results between = .ok after := by
  have hpool : TypePool.ofTypes (types (params ++ results)) =
      (TypePool.ofTypes (types params)).addAll (types results) := by
    rw [types_append]
    exact TypePool.addAll_append .empty _ _
  have hparams : (∀ param ∈ params,
      param.FitsIn .parameter (.ofTypes (types (params ++ results)))) ↔
        ∀ param ∈ params, param.FitsIn .parameter (.ofTypes (types params)) :=
    forall₂_congr fun param hparam => fitsIn_append_iff hparam
  rw [AllFit, List.take_left, List.drop_left, hparams, hpool]
  constructor
  · rintro ⟨hfits, hfits'⟩
    exact ⟨_, (SlotKind.accept_eq_ok_iff TypePool.inOrder_empty).2 ⟨rfl, hfits⟩,
      _, (SlotKind.accept_eq_ok_iff (TypePool.inOrder_ofTypes _)).2 ⟨rfl, hfits'⟩⟩
  · rintro ⟨between, hbetween, after, hafter⟩
    obtain ⟨rfl, hfits⟩ := (SlotKind.accept_eq_ok_iff TypePool.inOrder_empty).1 hbetween
    obtain ⟨rfl, hfits'⟩ := (SlotKind.accept_eq_ok_iff (TypePool.inOrder_ofTypes _)).1 hafter
    exact ⟨hfits, hfits'⟩

end Field

namespace FuncDecl

variable {func : FuncDecl} {slot : Slot}

/-- The slot of the field at a place among the parameters and results. -/
def slotAt (func : FuncDecl) (place : Nat) : Slot :=
  if place < func.signature.params.length then ⟨.parameter, place⟩
  else ⟨.result, place - func.signature.params.length⟩

/-- The verdict on the function needs the type of a slot that has none: the function is plain, and
all fields before the slot have types that fit. -/
structure StopsAt (func : FuncDecl) (slot : Slot) : Prop where
  plain : func.IsPlain
  missing : ∃ earlier field later,
    func.signature.params ++ func.signature.results = earlier ++ field :: later ∧
      field.resolved = none ∧ slot = func.slotAt earlier.length ∧
      Field.AllFit func.signature.params.length earlier

theorem slotAt_parameter {earlier later : List Field} {field : Field}
    (h : func.signature.params = earlier ++ field :: later) :
    func.slotAt earlier.length = ⟨.parameter, earlier.length⟩ := by
  rw [slotAt, if_pos]
  rw [h, List.length_append, List.length_cons]
  omega

theorem slotAt_result (func : FuncDecl) (earlier : List Field) :
    func.slotAt (func.signature.params ++ earlier).length = ⟨.result, earlier.length⟩ := by
  rw [slotAt, List.length_append, if_neg (by omega), Nat.add_sub_cancel_left]

/-- The check of a plain function finds a type missing among the parameters, or among the results
after all parameters have come through. -/
theorem checkSupport_eq_unresolved_iff_of_isPlain (hplain : func.IsPlain) :
    func.checkSupport = .error (.unresolved slot) ↔
      (∃ earlier field later, func.signature.params = earlier ++ field :: later ∧
        field.resolved = none ∧ slot = func.slotAt earlier.length ∧
        Field.AllFit func.signature.params.length earlier) ∨
      ∃ earlier field later, func.signature.results = earlier ++ field :: later ∧
        field.resolved = none ∧ slot = func.slotAt (func.signature.params ++ earlier).length ∧
        Field.AllFit func.signature.params.length (func.signature.params ++ earlier) := by
  rw [checkSupport_of_isPlain hplain, bind_eq_error_iff,
    SlotKind.accept_eq_unresolved_iff TypePool.inOrder_empty]
  refine or_congr ?_ ?_
  · refine exists₃_congr fun earlier field later => ?_
    rw [exists_and_left]
    refine and_congr_right fun hparams => ?_
    have hlength : earlier.length ≤ func.signature.params.length := by
      rw [hparams, List.length_append]
      omega
    rw [exists_and_left, exists_and_right, slotAt_parameter hparams, Nat.zero_add,
      Field.allFit_iff_of_length_le hlength, and_comm (a := ∃ _, _)]
  · simp only [slotAt_result, Field.allFit_append_iff]
    constructor
    · rintro ⟨between, hparams, hresults⟩
      have hbetween := SlotKind.inOrder_of_accept TypePool.inOrder_empty hparams
      obtain ⟨earlier, field, later, after, hsplit, hfield, haccept, rfl⟩ :=
        (SlotKind.accept_eq_unresolved_iff hbetween).1 hresults
      rw [Nat.zero_add]
      exact ⟨earlier, field, later, hsplit, hfield, rfl, between, hparams, after, haccept⟩
    · rintro ⟨earlier, field, later, hsplit, hfield, rfl, between, hparams, after, haccept⟩
      have hbetween := SlotKind.inOrder_of_accept TypePool.inOrder_empty hparams
      refine ⟨between, hparams, (SlotKind.accept_eq_unresolved_iff hbetween).2 ?_⟩
      exact ⟨earlier, field, later, after, hsplit, hfield, haccept, by rw [Nat.zero_add]⟩

theorem checkSupport_eq_unresolved_iff :
    func.checkSupport = .error (.unresolved slot) ↔ func.StopsAt slot := by
  constructor
  · intro h
    have hplain : func.IsPlain := by
      refine func.isPlain_or_unsupported.resolve_right ?_
      rintro ⟨reason, hreason⟩
      cases hreason.symm.trans h
    rw [checkSupport_eq_unresolved_iff_of_isPlain hplain] at h
    exact ⟨hplain, exists_append_split_iff.2 h⟩
  · rintro ⟨hplain, hmissing⟩
    rw [checkSupport_eq_unresolved_iff_of_isPlain hplain]
    exact exists_append_split_iff.1 hmissing

/-- A finding fails with the check: a supported function has a record. -/
theorem finding_eq_error_iff {package : String} :
    func.finding package = .error slot ↔ func.StopsAt slot := by
  rw [← checkSupport_eq_unresolved_iff, finding]
  cases hcheck : func.checkSupport with
  | ok pool =>
    obtain ⟨record, hrecord, -⟩ := record_of_ok hcheck package
    simp [hrecord, Except.map]
  | error rejection => cases rejection <;> simp

end FuncDecl

/-! ## Reports -/

/-- If any item has the property, then there is a first one. -/
theorem exists_first {α : Type} {items : List α} {P : α → Prop} (h : ∃ item ∈ items, P item) :
    ∃ before item after, items = before ++ item :: after ∧ P item ∧
      ∀ earlier ∈ before, ¬ P earlier := by
  induction items with
  | nil => simp at h
  | cons first rest ih =>
    by_cases hfirst : P first
    · exact ⟨[], first, rest, rfl, hfirst, by simp⟩
    · obtain ⟨before, item, after, rfl, hitem, hbefore⟩ := ih (by simpa [hfirst] using h)
      exact ⟨first :: before, item, after, rfl, hitem, List.forall_mem_cons.2 ⟨hfirst, hbefore⟩⟩

/-- A traversal fails with the error of the first item that fails; items may be given by keys. -/
theorem mapM_eq_error_iff {ε α β γ : Type} {find : γ → Option α} {f : α → Except ε β}
    {keys : List γ} {items : List α} {err : ε}
    (hkeys : List.Forall₂ (fun key item => find key = some item) keys items) :
    items.mapM f = .error err ↔
      ∃ before key after item, keys = before ++ key :: after ∧ find key = some item ∧
        f item = .error err ∧
        ∀ earlier ∈ before, ∀ other, find earlier = some other → ∃ b, f other = .ok b := by
  induction hkeys with
  | nil => simp [pure, Except.pure]
  | @cons key item keys items hkey _ ih =>
    rw [List.mapM_cons, bind_eq_error_iff]
    constructor
    · rintro (hitem | ⟨b, hitem, hrest⟩)
      · exact ⟨[], key, keys, item, rfl, hkey, hitem, by simp⟩
      · rcases bind_eq_error_iff.1 hrest with hrest | ⟨results, -, hpure⟩
        · obtain ⟨before, key', after, item', rfl, hkey', hitem', hbefore⟩ := ih.1 hrest
          refine ⟨key :: before, key', after, item', rfl, hkey', hitem', ?_⟩
          refine List.forall_mem_cons.2 ⟨?_, hbefore⟩
          intro other hother
          cases hkey.symm.trans hother
          exact ⟨b, hitem⟩
        · cases hpure
    · rintro ⟨before, key', after, item', hsplit, hkey', hitem', hbefore⟩
      cases before with
      | nil =>
        obtain ⟨rfl, rfl⟩ := List.cons.inj hsplit
        cases hkey.symm.trans hkey'
        exact .inl hitem'
      | cons first before =>
        obtain ⟨rfl, rfl⟩ := List.cons.inj hsplit
        rw [List.forall_mem_cons] at hbefore
        obtain ⟨b, hitem⟩ := hbefore.1 item hkey
        refine .inr ⟨b, hitem, bind_eq_error_iff.2 (.inl ?_)⟩
        exact ih.2 ⟨before, key', after, item', rfl, hkey', hitem', hbefore.2⟩

namespace SourceFile

variable {file : SourceFile} {request : FileRequest}

/-- The verdict on the declaration at the place needs the type of this slot, which has none. -/
def StopsAt (file : SourceFile) (place : Nat) (slot : Slot) : Prop :=
  ∃ func, file.functions[place]? = some func ∧ func.StopsAt slot

/-- The report fails at the first of the selected places that stops it. -/
theorem report_eq_error_iff {places : List Nat} {err : UnresolvedSlot}
    (hplaces : List.Forall₂ (fun place func => file.functions[place]? = some func) places
      (file.candidates request)) :
    file.report request = .error err ↔
      ∃ before place after func slot, places = before ++ place :: after ∧
        file.functions[place]? = some func ∧ func.StopsAt slot ∧
        err = { file := request.path, function := func.qualifiedName, slot := slot } ∧
        ∀ earlier ∈ before, ∀ slot, ¬ file.StopsAt earlier slot := by
  have hreport : file.report request = .error err ↔
      ((file.candidates request).mapM fun func =>
        (func.finding file.packagePath).mapError fun slot =>
          ({ file := request.path, function := func.qualifiedName, slot } : UnresolvedSlot)) =
        .error err := by
    rw [report, bind_eq_error_iff]
    simp [pure, Except.pure]
  rw [hreport, mapM_eq_error_iff hplaces]
  refine exists₃_congr fun before place after => ?_
  constructor
  · rintro ⟨func, hsplit, hfunc, herr, hbefore⟩
    obtain ⟨slot, hslot, rfl⟩ := mapError_eq_error_iff.1 herr
    refine ⟨func, slot, hsplit, hfunc, FuncDecl.finding_eq_error_iff.1 hslot, rfl, ?_⟩
    rintro earlier hearlier other ⟨func', hfunc', hstops⟩
    obtain ⟨finding, hok⟩ := hbefore earlier hearlier func' hfunc'
    rw [FuncDecl.finding_eq_error_iff.2 hstops] at hok
    cases hok
  · rintro ⟨func, slot, hsplit, hfunc, hstops, rfl, hbefore⟩
    refine ⟨func, hsplit, hfunc, ?_, ?_⟩
    · exact mapError_eq_error_iff.2 ⟨slot, FuncDecl.finding_eq_error_iff.2 hstops, rfl⟩
    · intro earlier hearlier other hother
      cases hfinding : other.finding file.packagePath with
      | ok finding => exact ⟨finding, rfl⟩
      | error slot' =>
        refine absurd ⟨other, hother, ?_⟩ (hbefore earlier hearlier slot')
        exact FuncDecl.finding_eq_error_iff.1 hfinding

/-- A declaration that is left out does not stop a report. -/
theorem RefusedAt.not_stopsAt {place : Nat} {name : String} (h : file.RefusedAt place name)
    (slot : Slot) : ¬ file.StopsAt place slot := by
  obtain ⟨func, reason, hfunc, hreason, -⟩ := h
  rintro ⟨func', hfunc', hstops⟩
  cases hfunc.symm.trans hfunc'
  cases hreason.symm.trans (FuncDecl.checkSupport_eq_unresolved_iff.2 hstops)

/-- A report fails exactly if the verdict on one of the selected declarations needs a type that is
missing. The error names the first of these declarations, in the order of the selection, and the
slot. Names without a declaration select nothing, and a declaration that is not supported is none
of these. -/
theorem report_fails_iff (file : SourceFile) (request : FileRequest) :
    ∃ places, file.Selects request places ∧
      ((∃ err, file.report request = .error err) ↔
        ∃ place ∈ places, ∃ slot, file.StopsAt place slot) ∧
      (∀ err, file.report request = .error err ↔
        ∃ before place after func slot, places = before ++ place :: after ∧
          file.functions[place]? = some func ∧ func.StopsAt slot ∧
          err = { file := request.path, function := func.qualifiedName, slot := slot } ∧
          ∀ earlier ∈ before, ∀ slot, ¬ file.StopsAt earlier slot) ∧
      ∀ place name, file.RefusedAt place name → ∀ slot, ¬ file.StopsAt place slot := by
  obtain ⟨places, hselects, hplaces⟩ := file.exists_selects request
  refine ⟨places, hselects, ?_, fun err => report_eq_error_iff hplaces,
    fun place name hrefused => hrefused.not_stopsAt⟩
  constructor
  · rintro ⟨err, herr⟩
    obtain ⟨before, place, after, func, slot, rfl, hfunc, hstops, -⟩ :=
      (report_eq_error_iff hplaces).1 herr
    exact ⟨place, List.mem_append_right _ List.mem_cons_self, slot, func, hfunc, hstops⟩
  · intro hstops
    obtain ⟨before, place, after, hsplit, ⟨slot, func, hfunc, hslot⟩, hbefore⟩ :=
      exists_first hstops
    refine ⟨_, (report_eq_error_iff hplaces).2
      ⟨before, place, after, func, slot, hsplit, hfunc, hslot, rfl, ?_⟩⟩
    intro earlier hearlier slot' hslot'
    exact hbefore earlier hearlier ⟨slot', hslot'⟩

/-- A function with a slice before a parameter without a type, and one with a result without a
type. -/
def sampleUnresolved : SourceFile where
  packageName := "calc"
  packagePath := "example.com/calc"
  decls := [.func scale, .func .divideUnresolved]
where
  scale : FuncDecl :=
    { FuncDecl.divide with
      name := "Scale"
      signature :=
        { params := [⟨[{ name := "xs" }], .name "Floats", none,
              some ⟨"[]float64", none, .slice (.basic "float64"), []⟩⟩,
            ⟨[{ name := "k" }], .name "float64", none, none⟩]
          results := [] } }

/-- Both functions, and one that is not there. -/
def sampleUnresolvedRequest : FileRequest where
  path := "calc.go"
  functions := ["Gone", "Scale", "Divide"]
  methods := []

/-- The slice leaves the first function out before its missing type is needed; the second one
stops the report. -/
theorem report_fails_iff_sample :
    sampleUnresolved.RefusedAt 0 "Scale" ∧ (∀ slot, ¬ sampleUnresolved.StopsAt 0 slot) ∧
    sampleUnresolved.report sampleUnresolvedRequest =
      .error { file := "calc.go", function := "Divide", slot := ⟨.result, 0⟩ } ∧
    ∃ place slot, sampleUnresolved.StopsAt place slot := by
  have hrefused : sampleUnresolved.RefusedAt 0 "Scale" := ⟨_, _, rfl, rfl, rfl⟩
  have hreport : sampleUnresolved.report sampleUnresolvedRequest =
      .error { file := "calc.go", function := "Divide", slot := ⟨.result, 0⟩ } := rfl
  obtain ⟨places, -, hfails, -, hleft⟩ :=
    report_fails_iff sampleUnresolved sampleUnresolvedRequest
  obtain ⟨place, -, slot, hstops⟩ := hfails.1 ⟨_, hreport⟩
  exact ⟨hrefused, hleft 0 "Scale" hrefused, hreport, place, slot, hstops⟩

end SourceFile

end GoProbe
