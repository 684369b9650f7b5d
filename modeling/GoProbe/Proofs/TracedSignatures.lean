import Mathlib
import GoProbe.Probe.Backend
import GoProbe.Tree.Printer
import GoProbe.Proofs.Normal

/-!
# The parameters of a traced copy

A traced copy takes one parameter more than its function, the list of ids. A parameter that takes
any number of arguments stays the last one, so the list goes before it, and fields without names
get a blank one, since Go has either all parameters named or none.

What a call passes is told by the slots of the parameters: one for each name of a field, and one
for a field without names. A blank name does not change them (`Field.slots_of_namedAs`), so a
call of the copy passes what a call of the function passes, with the list at its place.
-/

namespace GoProbe

/-! ## Blank names -/

namespace Field

/-- `shadow` is `field`, and has a name: that of `field`, or a blank one if `field` has none. -/
structure NamedAs (field shadow : Field) : Prop where
  type : shadow.type = field.type
  tag : shadow.tag = field.tag
  resolved : shadow.resolved = field.resolved
  kept : field.names ≠ [] → shadow.names = field.names
  blank : field.names = [] → shadow.names = [{ name := "_" }]

theorem namedAs_withName (field : Field) : field.NamedAs field.withName := by
  obtain ⟨names, type, tag, resolved⟩ := field
  cases names with
  | nil => exact ⟨rfl, rfl, rfl, fun h => absurd rfl h, fun _ => rfl⟩
  | cons id rest =>
    exact ⟨rfl, rfl, rfl, fun _ => rfl, fun h => absurd h (List.cons_ne_nil id rest)⟩

theorem NamedAs.names_ne_nil {field shadow : Field} (h : field.NamedAs shadow) :
    shadow.names ≠ [] := by
  rcases eq_or_ne field.names [] with hnames | hnames
  · simp [h.blank hnames]
  · rwa [h.kept hnames]

theorem forall₂_namedAs (fields : List Field) :
    List.Forall₂ NamedAs fields (fields.map withName) := by
  rw [List.forall₂_map_right_iff, List.forall₂_same]
  exact fun field _ => field.namedAs_withName

theorem names_ne_nil_of_namedAs {fields shadows : List Field}
    (h : List.Forall₂ NamedAs fields shadows) : ∀ shadow ∈ shadows, shadow.names ≠ [] := by
  induction h with
  | nil => exact List.forall_mem_nil _
  | cons hfield _ ih => exact List.forall_mem_cons.2 ⟨hfield.names_ne_nil, ih⟩

/-- The types of the arguments that a call passes to the fields. -/
def slots (fields : List Field) : List Expr :=
  fields.flatMap fun field => List.replicate (max 1 field.names.length) field.type

theorem slots_append (left right : List Field) :
    slots (left ++ right) = slots left ++ slots right :=
  List.flatMap_append

theorem slots_of_namedAs {fields shadows : List Field} (h : List.Forall₂ NamedAs fields shadows) :
    slots shadows = slots fields := by
  induction h with
  | nil => rfl
  | @cons field shadow _ _ hfield _ ih =>
    have hcount : max 1 shadow.names.length = max 1 field.names.length := by
      rcases eq_or_ne field.names [] with hnames | hnames
      · simp [hfield.blank hnames, hnames]
      · rw [hfield.kept hnames]
    simp only [slots, List.flatMap_cons] at ih ⊢
    rw [ih, hcount, hfield.type]

end Field

/-! ## The place of the list -/

/-- Whether the last field takes any number of arguments. -/
def Field.lastIsVariadic (fields : List Field) : Bool :=
  fields.getLast?.any (·.type.isEllipsis)

theorem FuncDecl.isVariadic_eq (func : FuncDecl) :
    func.isVariadic = Field.lastIsVariadic func.signature.params := by
  rw [FuncDecl.isVariadic, Field.lastIsVariadic]
  cases func.signature.params.getLast? <;> rfl

theorem Field.lastIsVariadic_map_withName (fields : List Field) :
    lastIsVariadic (fields.map withName) = lastIsVariadic fields := by
  rw [lastIsVariadic, lastIsVariadic, List.getLast?_map]
  cases fields.getLast? with
  | none => rfl
  | some field => simp [field.namedAs_withName.type]

/-- The new field stands at the end, or before the last field if that has to stay the last. -/
theorem insertBeforeVariadic_split (field : Field) (params : List Field) :
    ∃ front back, params = front ++ back ∧
      back.length = (if Field.lastIsVariadic params = true then 1 else 0) ∧
      insertBeforeVariadic field (Field.lastIsVariadic params) params =
        front ++ field :: back := by
  cases h : Field.lastIsVariadic params with
  | false => exact ⟨params, [], by simp, rfl, rfl⟩
  | true =>
    have hne : params ≠ [] := by
      rintro rfl
      cases h
    obtain ⟨front, last, rfl⟩ := params.eq_nil_or_concat'.resolve_left hne
    exact ⟨front, [last], rfl, rfl, by simp [insertBeforeVariadic]⟩

/-- An ordinary field at its place does not change whether the last field is variadic. -/
theorem Field.lastIsVariadic_insert {field : Field} {front back : List Field}
    (hfield : field.type.isEllipsis = false)
    (hback : back.length = if lastIsVariadic (front ++ back) = true then 1 else 0) :
    lastIsVariadic (front ++ field :: back) = lastIsVariadic (front ++ back) := by
  cases back with
  | nil =>
    have hfront : lastIsVariadic front = false := by simpa using hback
    simp [lastIsVariadic, hfield] at hfront ⊢
    exact hfront
  | cons last rest => simp [lastIsVariadic, List.getLast?_append]

/-- The trace backend leaves a function as it is and puts a copy beside it that can be called in
the same way. All fields of the copy have names. One field is new, the list of ids: it is the last,
or the one before the last if the function takes any number of arguments. Without it the fields are
those of the function, with blank names where there were none. So the arguments of a call go to the
same parameters, with the list between them. All else is from the probed copy. -/
theorem Backend.finalize_trace_callable (parameter : String) (maxLength : Nat)
    (func probed : FuncDecl) (hsignature : probed.signature = func.signature) :
    ∃ shadow front back,
      (trace parameter maxLength).finalize func probed = .shadow func shadow ∧
      (∀ field ∈ shadow.signature.params, field.names ≠ []) ∧
      shadow.signature.params.length = func.signature.params.length + 1 ∧
      shadow.signature.params = front ++ traceField parameter :: back ∧
      (traceField parameter).names = [{ name := parameter }] ∧
      (traceField parameter).type.print = "*[]uint16" ∧
      back.length = (if func.isVariadic = true then 1 else 0) ∧
      List.Forall₂ Field.NamedAs func.signature.params (front ++ back) ∧
      Field.slots func.signature.params = Field.slots front ++ Field.slots back ∧
      Field.slots shadow.signature.params =
        Field.slots front ++ (traceField parameter).type :: Field.slots back ∧
      shadow.isVariadic = func.isVariadic ∧
      shadow.signature.results = probed.signature.results ∧
      shadow.receiver = probed.receiver ∧ shadow.typeParams = probed.typeParams ∧
      shadow.body = probed.body := by
  have hvariadic : func.isVariadic =
      Field.lastIsVariadic (func.signature.params.map Field.withName) := by
    rw [FuncDecl.isVariadic_eq, Field.lastIsVariadic_map_withName]
  have hprobed : probed.isVariadic = func.isVariadic := by
    rw [FuncDecl.isVariadic_eq, FuncDecl.isVariadic_eq, hsignature]
  obtain ⟨front, back, hparams, hback, hinsert⟩ :=
    insertBeforeVariadic_split (traceField parameter) (func.signature.params.map Field.withName)
  have hnamed : List.Forall₂ Field.NamedAs func.signature.params (front ++ back) :=
    hparams ▸ Field.forall₂_namedAs func.signature.params
  have hshadow : insertBeforeVariadic (traceField parameter) probed.isVariadic
      (probed.signature.params.map Field.withName) = front ++ traceField parameter :: back := by
    rw [hprobed, hvariadic, hsignature, hinsert]
  refine ⟨_, front, back, rfl, ?_, ?_, hshadow, rfl, ?_, ?_, hnamed, ?_, ?_, ?_, rfl, rfl, rfl,
    rfl⟩
  · have hnames := Field.names_ne_nil_of_namedAs hnamed
    rw [List.forall_mem_append] at hnames
    simp only [hshadow, List.forall_mem_append, List.forall_mem_cons]
    exact ⟨hnames.1, List.cons_ne_nil _ _, hnames.2⟩
  · simp only [hshadow, hnamed.length_eq, List.length_append, List.length_cons]
    rfl
  · show Expr.print (.star (.sliceOf (.name "uint16"))) = "*[]uint16"
    decide
  · rw [hvariadic, hback]
  · rw [← Field.slots_append, Field.slots_of_namedAs hnamed]
  · rw [hshadow, Field.slots_append]
    rfl
  · rw [FuncDecl.isVariadic_eq, hvariadic]
    simp only [hshadow]
    rw [hparams] at hback ⊢
    exact Field.lastIsVariadic_insert rfl hback

/-- `func f(a, b int, string, xs ...int)`, with a parameter that has no name. -/
def FuncDecl.variadicSample : FuncDecl :=
  { FuncDecl.sample "f" with
    signature :=
      { params :=
          [.plain ["a", "b"] (.name "int"), .plain [] (.name "string"),
           .plain ["xs"] (.ellipsis (some (.name "int")))]
        results := [] } }

theorem Backend.finalize_trace_callable_sample :
    FuncDecl.variadicSample.isVariadic = true ∧
      ∃ shadow front back,
        (trace "trace" 8).finalize .variadicSample
            { FuncDecl.variadicSample with body := some [] } =
          .shadow .variadicSample shadow ∧
        shadow.signature.params = front ++ traceField "trace" :: back ∧ back.length = 1 ∧
        List.Forall₂ Field.NamedAs FuncDecl.variadicSample.signature.params (front ++ back) ∧
        shadow.isVariadic = true := by
  obtain ⟨shadow, front, back, hpatch, -, -, hparams, -, -, hback, hnamed, -, -, hvariadic, -⟩ :=
    finalize_trace_callable "trace" 8 .variadicSample
      { FuncDecl.variadicSample with body := some [] } rfl
  exact ⟨rfl, shadow, front, back, hpatch, hparams, hback, hnamed, hvariadic⟩

end GoProbe
