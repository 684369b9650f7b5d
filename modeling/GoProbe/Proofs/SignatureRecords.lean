import Mathlib
import GoProbe.Analysis.Report
import GoProbe.Proofs.SupportedSignatures

/-!
# Records of supported functions

The check of a signature and the making of its record go over the same fields, each with a pool of
its own. The check may stop early, at a slot that does not fit; the record stops only where a type
is missing.

`SlotKind.collect_of_accept` keeps the two in step: as long as the check goes on, both have the
same pool. So a supported function has a record, with the pool of the check, and a check that stops
for a missing type stops the record at the same slot.
-/

namespace GoProbe

/-! ## Variables of fields -/

namespace Field

/-- The variables of one field: one for each of its names, or a single one without a name, all of
the field's type. -/
structure Declares (field : Field) (vars : List Variable) : Prop where
  names : vars.map (·.name) = if field.names = [] then [""] else field.names.map (·.name)
  types : ∀ var ∈ vars, ∃ type, field.resolved = some type ∧ var.typeName = type.name

/-- The variables of the fields, field by field in order. -/
def DeclareAll (fields : List Field) (vars : List Variable) : Prop :=
  ∃ groups : List (List Variable), List.Forall₂ Declares fields groups ∧ groups.flatten = vars

theorem declares_toVariables {field : Field} {type : ResolvedType}
    (h : field.resolved = some type) : field.Declares (field.toVariables type.name) := by
  constructor
  · rw [toVariables]
    split
    · next hnames => simp [hnames]
    · next hnames =>
      rw [if_neg hnames, List.map_map]
      rfl
  · intro var hvar
    refine ⟨type, h, ?_⟩
    rw [toVariables] at hvar
    split at hvar
    · rw [List.mem_singleton.1 hvar]
    · obtain ⟨id, -, rfl⟩ := List.mem_map.1 hvar
      rfl

theorem DeclareAll.nil : DeclareAll [] [] :=
  ⟨[], .nil, rfl⟩

theorem DeclareAll.cons {field : Field} {fields : List Field} {vars others : List Variable}
    (h : field.Declares vars) (h' : DeclareAll fields others) :
    DeclareAll (field :: fields) (vars ++ others) := by
  obtain ⟨groups, hgroups, rfl⟩ := h'
  exact ⟨vars :: groups, .cons h hgroups, rfl⟩

/-- Every variable has the type of a field. -/
theorem DeclareAll.exists_field {fields : List Field} {vars : List Variable}
    (h : DeclareAll fields vars) {var : Variable} (hvar : var ∈ vars) :
    ∃ field ∈ fields, ∃ type, field.resolved = some type ∧ var.typeName = type.name := by
  obtain ⟨groups, hgroups, rfl⟩ := h
  obtain ⟨group, hgroup, hmem⟩ := List.mem_flatten.1 hvar
  induction hgroups with
  | nil => cases hgroup
  | @cons field first fields groups hfirst _ ih =>
    rcases List.mem_cons.1 hgroup with rfl | hgroup
    · exact ⟨field, List.mem_cons_self, hfirst.types var hmem⟩
    · obtain ⟨other, hother, htype⟩ := ih (List.mem_flatten.2 ⟨group, hgroup, hmem⟩) hgroup
      exact ⟨other, List.mem_cons_of_mem _ hother, htype⟩

end Field

/-! ## Check and record in step -/

namespace SlotKind

variable {kind : SlotKind} {index : Nat} {field : Field} {fields rest : List Field}
  {pool after : TypePool}

theorem collect_none (h : field.resolved = none) :
    kind.collect index (field :: rest) pool = .error ⟨kind, index⟩ := by
  rw [collect, h]

theorem collect_some (hpool : pool.InOrder) {type : ResolvedType}
    (h : field.resolved = some type) :
    kind.collect index (field :: rest) pool =
      (kind.collect (index + 1) rest (type.addTo pool)).map fun (others, after) =>
        (field.toVariables type.name ++ others, after) := by
  rw [collect, h]
  simp only [ResolvedType.enter_run hpool]
  cases kind.collect (index + 1) rest (type.addTo pool) <;> rfl

/-- Accepted fields have variables, and the pool of the check. -/
theorem collect_of_accept (hpool : pool.InOrder)
    (h : kind.accept index fields pool = .ok after) :
    ∃ vars, kind.collect index fields pool = .ok (vars, after) ∧
      Field.DeclareAll fields vars := by
  induction fields generalizing index pool with
  | nil =>
    cases h
    exact ⟨[], rfl, .nil⟩
  | cons field rest ih =>
    cases hresolved : field.resolved with
    | none =>
      rw [accept_none hresolved] at h
      cases h
    | some type =>
      rw [accept_some hpool hresolved] at h
      split at h
      · obtain ⟨vars, hcollect, hvars⟩ := ih (ResolvedType.addTo_grown hpool type).inOrder h
        refine ⟨field.toVariables type.name ++ vars, ?_,
          .cons (Field.declares_toVariables hresolved) hvars⟩
        rw [collect_some hpool hresolved, hcollect]
        rfl
      · cases h

/-- A check that finds a type missing stops the record there too. -/
theorem collect_of_unresolved (hpool : pool.InOrder) {slot : Slot}
    (h : kind.accept index fields pool = .error (.unresolved slot)) :
    kind.collect index fields pool = .error slot := by
  induction fields generalizing index pool with
  | nil => cases h
  | cons field rest ih =>
    cases hresolved : field.resolved with
    | none =>
      rw [accept_none hresolved] at h
      cases h
      exact collect_none hresolved
    | some type =>
      rw [accept_some hpool hresolved] at h
      split at h
      · rw [collect_some hpool hresolved, ih (ResolvedType.addTo_grown hpool type).inOrder h]
        rfl
      · cases h

end SlotKind

/-! ## Records -/

namespace FuncDecl

variable {func : FuncDecl}

theorem record_of_ok {pool : TypePool} (h : func.checkSupport = .ok pool) (package : String) :
    ∃ record, func.record package = .ok record ∧ record.pool = pool ∧ record.receiver = none ∧
      record.position = func.position ∧
      Field.DeclareAll func.signature.params record.parameters ∧
      Field.DeclareAll func.signature.results record.results := by
  rw [checkSupport_of_isPlain (isPlain_of_checkSupport h), bind_eq_ok_iff] at h
  obtain ⟨between, hparams, hcheck⟩ := h
  have hbetween := SlotKind.inOrder_of_accept TypePool.inOrder_empty hparams
  obtain ⟨parameters, hcollect, hparameters⟩ :=
    SlotKind.collect_of_accept TypePool.inOrder_empty hparams
  obtain ⟨results, hcollect', hresults⟩ := SlotKind.collect_of_accept hbetween hcheck
  rw [record, hcollect]
  simp only [bind, Except.bind, hcollect']
  exact ⟨_, rfl, rfl, rfl, rfl, hparameters, hresults⟩

theorem record_of_unresolved {slot : Slot} (h : func.checkSupport = .error (.unresolved slot))
    (package : String) : func.record package = .error slot := by
  rcases func.isPlain_or_unsupported with hplain | ⟨reason, hreason⟩
  · rw [checkSupport_of_isPlain hplain] at h
    cases hparams : SlotKind.parameter.accept 0 func.signature.params .empty with
    | error rejection =>
      rw [hparams] at h
      cases h
      rw [record, SlotKind.collect_of_unresolved TypePool.inOrder_empty hparams]
      rfl
    | ok between =>
      rw [hparams] at h
      obtain ⟨parameters, hcollect, -⟩ :=
        SlotKind.collect_of_accept TypePool.inOrder_empty hparams
      have hbetween := SlotKind.inOrder_of_accept TypePool.inOrder_empty hparams
      rw [record, hcollect]
      simp only [bind, Except.bind, SlotKind.collect_of_unresolved hbetween h]
  · cases hreason.symm.trans h

/-- A supported function has a record: its pool is that of the check and refers to keys only; it
has the variables of the signature field by field and no receiver; parameters are primitive there,
and results primitive or errors. If the check stops for a missing type, so does the record, at the
same slot. -/
theorem record_of_checkSupport (func : FuncDecl) (package : String) :
    (∀ pool, func.checkSupport = .ok pool →
      ∃ record, func.record package = .ok record ∧ record.pool = pool ∧
        Field.DeclareAll func.signature.params record.parameters ∧
        Field.DeclareAll func.signature.results record.results ∧
        (∀ var ∈ record.parameters,
          ∃ entry, pool.get? var.typeName = some entry ∧ entry.isPrimitive = true) ∧
        (∀ var ∈ record.results,
          ∃ entry, pool.get? var.typeName = some entry ∧
            (entry.isPrimitive = true ∨ entry.isError = true)) ∧
        pool.Closed ∧ record.receiver = none) ∧
    ∀ slot, func.checkSupport = .error (.unresolved slot) →
      func.record package = .error slot := by
  refine ⟨?_, fun slot h => record_of_unresolved h package⟩
  intro pool hpool
  obtain ⟨record, hrecord, hsame, hreceiver, -, hparameters, hresults⟩ :=
    record_of_ok hpool package
  obtain ⟨-, rfl, hfit, hfit'⟩ := checkSupport_eq_ok_iff.1 hpool
  refine ⟨record, hrecord, hsame, hparameters, hresults, ?_, ?_,
    (TypePool.inOrder_ofTypes _).closed, hreceiver⟩
  · intro var hvar
    obtain ⟨field, hfield, type, htype, hname⟩ := hparameters.exists_field hvar
    obtain ⟨other, hother, hentry⟩ := hfit field hfield
    cases htype.symm.trans hother
    rwa [hname]
  · intro var hvar
    obtain ⟨field, hfield, type, htype, hname⟩ := hresults.exists_field hvar
    obtain ⟨other, hother, hentry⟩ := hfit' field hfield
    cases htype.symm.trans hother
    rwa [hname]

/-- `func Divide(a, b int) (int, error)`. -/
def divide : FuncDecl where
  name := "Divide"
  receiver := none
  typeParams := []
  signature :=
    { params := [⟨[{ name := "a" }, { name := "b" }], .name "int", none, some (.basic "int")⟩]
      results := [⟨[], .name "int", none, some (.basic "int")⟩,
        ⟨[], .name "error", none, some .error⟩] }
  body := some []
  position := ⟨1, 1⟩

/-- `func Divide(a, b int) int`, the result without a type. -/
def divideUnresolved : FuncDecl :=
  { divide with
    signature := { divide.signature with results := [⟨[], .name "int", none, none⟩] } }

theorem record_of_checkSupport_divide :
    (∃ pool, divide.checkSupport = .ok pool ∧
      ∃ record, divide.record "example.com/calc" = .ok record ∧ record.pool = pool ∧
        Field.DeclareAll divide.signature.params record.parameters ∧
        Field.DeclareAll divide.signature.results record.results ∧ pool.Closed) ∧
    divideUnresolved.checkSupport = .error (.unresolved ⟨.result, 0⟩) ∧
      divideUnresolved.record "example.com/calc" = .error ⟨.result, 0⟩ := by
  refine ⟨?_, rfl, (record_of_checkSupport divideUnresolved "example.com/calc").2 _ rfl⟩
  obtain ⟨pool, hpool⟩ : ∃ pool, divide.checkSupport = .ok pool := ⟨_, rfl⟩
  obtain ⟨record, hrecord, hsame, hparameters, hresults, -, -, hclosed, -⟩ :=
    (record_of_checkSupport divide "example.com/calc").1 pool hpool
  exact ⟨pool, hpool, record, hrecord, hsame, hparameters, hresults, hclosed⟩

end FuncDecl

end GoProbe
