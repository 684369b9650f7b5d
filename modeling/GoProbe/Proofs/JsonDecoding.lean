import Mathlib
import GoProbe.Json.Plain
import GoProbe.Proofs.JsonText

/-!
# Decoding stored values

`Stored bound decode v a` says that `v` is a stored form of `a`: it is plain, and the decoder finds
`a` in it with any number of levels that its depth does not exceed. The decoders of recursive nodes
are good for values below a certain depth only, which is the bound; where a node is entered, it
falls by one (`Stored.record_succ`, `Stored.content_succ`).

A record is put together from its members. `RowStored bound names row own a` says that the row
reads the fields `names` and finds `a` in the members `own`. A record is stored if these are all its
members and no field is read twice.

There is one rule for each way to write a value and the decoder that belongs to it, so that a proof
about a type repeats its decoder.
-/

namespace GoProbe.Json

theorem itemsDepth_le_iff {vs : List Json} {n : Nat} :
    itemsDepth vs ≤ n ↔ ∀ v ∈ vs, v.depth ≤ n := by
  induction vs with
  | nil => simp [itemsDepth]
  | cons v rest ih => simp [itemsDepth, ih]

theorem membersDepth_le_iff {ms : List (String × Json)} {n : Nat} :
    membersDepth ms ≤ n ↔ ∀ m ∈ ms, m.2.depth ≤ n := by
  induction ms with
  | nil => simp [membersDepth]
  | cons m rest ih => simp [membersDepth, ih]

theorem depth_of_mem_array {vs : List Json} {v : Json} (h : v ∈ vs) :
    v.depth < (Json.array vs).depth :=
  Nat.lt_succ_of_le (itemsDepth_le_iff.1 le_rfl v h)

theorem depth_of_mem_object {ms : List (String × Json)} {m : String × Json} (h : m ∈ ms) :
    m.2.depth < (Json.object ms).depth :=
  Nat.lt_succ_of_le (membersDepth_le_iff.1 le_rfl m h)

theorem string_ne_null (text : String) : Json.string text ≠ .null :=
  nofun

theorem object_ne_null (members : List (String × Json)) : Json.object members ≠ .null :=
  nofun

/-- The value is plain, and the decoder finds `a` in it if it is not as deep as the bound. -/
structure Stored {α : Type} (bound : Nat) (decode : Decoder α) (v : Json) (a : α) : Prop where
  plain : v.Plain
  decode_eq : v.depth < bound → ∀ levels, v.depth ≤ levels → decode levels v = .ok a

/-- The row reads the fields `names`, and finds `a` if the members with these names are `own`. -/
structure RowStored {α : Type} (bound : Nat) (names : List String) (row : Row α)
    (own : List (String × Json)) (a : α) : Prop where
  plain : ∀ m ∈ own, m.2.Plain
  named : ∀ m ∈ own, m.1 ∈ names
  run_eq : names.Nodup → (∀ m ∈ own, m.2.depth < bound) →
    ∀ levels, (∀ m ∈ own, m.2.depth ≤ levels) → ∀ members,
      (∀ name ∈ names, members.filter (fun m => m.1 == name) = own.filter fun m => m.1 == name) →
      row.run (.named levels members) = .ok (a, .named levels members)

/-! ## Scalars -/

namespace Stored

variable {α β : Type} {bound : Nat} {decode : Decoder α} {v : Json} {a : α}

theorem mono (h : Stored bound decode v a) {smaller : Nat} (hle : smaller ≤ bound) :
    Stored smaller decode v a :=
  ⟨h.plain, fun hlt => h.decode_eq (hlt.trans_le hle)⟩

/-- A family of decoders, one for each bound, of which the first is never used. -/
theorem upTo {decode : Nat → Decoder α} (h : ∀ bound, Stored (bound + 1) (decode (bound + 1)) v a) :
    ∀ bound, Stored bound (decode bound) v a
  | 0 => ⟨(h 0).plain, fun hlt => absurd hlt (Nat.not_lt_zero _)⟩
  | bound + 1 => h bound

/-- A family of decoders of which the depth of the value chooses one. -/
theorem ofDepth {decode : Nat → Decoder α} (h : ∀ bound, Stored bound (decode bound) v a) :
    Stored bound (fun levels v => decode (v.depth + 1) levels v) v a :=
  ⟨(h 0).plain, fun _ => (h (v.depth + 1)).decode_eq (Nat.lt_succ_self _)⟩

theorem string (text : String) : Stored bound .string (.string text) text :=
  ⟨.string text, fun _ _ _ => rfl⟩

theorem bool (b : Bool) : Stored bound .bool (.bool b) b :=
  ⟨.bool b, fun _ _ _ => rfl⟩

theorem decode_nat {n limit : Nat} (h : n < limit) (levels : Nat) :
    Decoder.nat limit levels (.nat n) = .ok n := by
  simp [Decoder.nat, Json.nat, h]

theorem nat32 {n : Nat} (h : n < wordCount 32) : Stored bound .nat32 (.nat n) n :=
  ⟨.nat (h.trans (by decide)), fun _ levels _ => decode_nat h levels⟩

theorem nat64 {n : Nat} (h : n < wordCount 64) : Stored bound .nat64 (.nat n) n :=
  ⟨.nat h, fun _ levels _ => decode_nat h levels⟩

theorem map (f : α → β) (h : Stored bound decode v a) : Stored bound (decode.map f) v (f a) where
  plain := h.plain
  decode_eq hbound levels hlevels := by
    rw [Decoder.map, h.decode_eq hbound levels hlevels]
    rfl

theorem word32 (n : UInt32) : Stored bound .word32 (.nat n.toNat) n := by
  simpa [Decoder.word32] using map Nat.toUInt32 (nat32 n.toNat_lt)

theorem word64 (n : UInt64) : Stored bound .word64 (.nat n.toNat) n := by
  simpa [Decoder.word64] using map Nat.toUInt64 (nat64 n.toNat_lt)

/-! ## Containers -/

theorem null : Stored bound decode.nullable .null none :=
  ⟨.null, fun _ _ _ => rfl⟩

theorem nullable (h : Stored bound decode v a) (hne : v ≠ .null) :
    Stored bound decode.nullable v (some a) where
  plain := h.plain
  decode_eq hbound levels hlevels := by
    rw [Decoder.nullable.eq_2 decode levels v hne, h.decode_eq hbound levels hlevels]
    rfl

theorem orNull {encode : α → Json} {x : Option α}
    (h : ∀ a, Stored bound decode (encode a) a) (hne : ∀ a, encode a ≠ .null) :
    Stored bound decode.nullable (.orNull encode x) x := by
  cases x with
  | none => exact null
  | some a => exact (h a).nullable (hne a)

theorem mapM_eq {vs : List Json} {as : List α} (h : List.Forall₂ (Stored bound decode) vs as)
    (hbound : ∀ v ∈ vs, v.depth < bound) {levels : Nat} (hlevels : ∀ v ∈ vs, v.depth ≤ levels) :
    vs.mapM (decode levels) = .ok as := by
  induction h with
  | nil => rfl
  | cons hv _ ih =>
    rw [List.forall_mem_cons] at hbound hlevels
    rw [List.mapM_cons, hv.decode_eq hbound.1 levels hlevels.1, ih hbound.2 hlevels.2]
    rfl

theorem list {vs : List Json} {as : List α} (h : List.Forall₂ (Stored bound decode) vs as) :
    Stored bound decode.list (.array vs) as where
  plain := by
    refine .array ?_
    induction h with
    | nil => simp
    | cons hv _ ih => exact List.forall_mem_cons.2 ⟨hv.plain, ih⟩
  decode_eq hbound levels hlevels := by
    cases levels with
    | zero => cases hlevels
    | succ levels =>
      exact mapM_eq h (fun _ hv => (depth_of_mem_array hv).trans hbound)
        (fun _ hv => Nat.le_of_lt_succ ((depth_of_mem_array hv).trans_le hlevels))

theorem listOf {encode : α → Json} {as : List α}
    (h : ∀ a ∈ as, Stored bound decode (encode a) a) :
    Stored bound decode.list (.listOf encode as) as := by
  refine list ?_
  rw [List.forall₂_map_left_iff, List.forall₂_same]
  exact h

end Stored

/-! ## Records -/

theorem filter_eq_nil {names : List String} {members : List (String × Json)} {name : String}
    (h : ∀ m ∈ members, m.1 ∈ names) (hname : name ∉ names) :
    members.filter (fun m => m.1 == name) = [] := by
  rw [List.filter_eq_nil_iff]
  intro m hm heq
  exact hname (beq_iff_eq.1 heq ▸ h m hm)

namespace RowStored

variable {α β : Type} {bound : Nat} {names others : List String}
  {members own rest : List (String × Json)} {name : String} {decode : Decoder α} {v : Json} {a : α}

theorem bind {row : Row α} {next : α → Row β} {b : β} (h : RowStored bound names row own a)
    (hnext : RowStored bound others (next a) rest b) :
    RowStored bound (names ++ others) (row >>= next) (own ++ rest) b where
  plain := List.forall_mem_append.2 ⟨h.plain, hnext.plain⟩
  named := List.forall_mem_append.2 ⟨fun m hm => List.mem_append_left _ (h.named m hm),
    fun m hm => List.mem_append_right _ (hnext.named m hm)⟩
  run_eq hnodup hbound levels hlevels members hown := by
    obtain ⟨hnames, hothers, hne⟩ := List.nodup_append.1 hnodup
    rw [List.forall_mem_append] at hbound hlevels hown
    have hfst : ∀ name ∈ names,
        members.filter (fun m => m.1 == name) = own.filter fun m => m.1 == name := by
      intro name hname
      have hrest : rest.filter (fun m => m.1 == name) = [] :=
        filter_eq_nil hnext.named fun hmem => hne name hname name hmem rfl
      rw [hown.1 name hname, List.filter_append, hrest, List.append_nil]
    have hsnd : ∀ name ∈ others,
        members.filter (fun m => m.1 == name) = rest.filter fun m => m.1 == name := by
      intro name hname
      have hfront : own.filter (fun m => m.1 == name) = [] :=
        filter_eq_nil h.named fun hmem => hne name hmem name hname rfl
      rw [hown.2 name hname, List.filter_append, hfront, List.nil_append]
    rw [StateT.run_bind, h.run_eq hnames hbound.1 levels hlevels.1 members hfst]
    exact hnext.run_eq hothers hbound.2 levels hlevels.2 members hsnd

/-- The last field of a record. -/
theorem last {row : Row α} {f : α → β} (h : RowStored bound names row own a) :
    RowStored bound names (row >>= fun a => Pure.pure (f a)) own (f a) where
  plain := h.plain
  named := h.named
  run_eq hnodup hbound levels hlevels members hown := by
    rw [StateT.run_bind, h.run_eq hnodup hbound levels hlevels members hown]
    rfl

/-- The field stands among the members once. -/
theorem run_next (hown : members.filter (fun m => m.1 == name) = [(name, v)]) (levels : Nat) :
    (Row.next name).run (.named levels members) =
      .ok (some (levels, v), .named levels members) := by
  simp [StateT.run, Row.next, hown]

theorem run_next_absent (hown : members.filter (fun m => m.1 == name) = []) (levels : Nat) :
    (Row.next name).run (.named levels members) = .ok (none, .named levels members) := by
  simp [StateT.run, Row.next, hown]

/-- A decoder in a row leaves the fields as they are. -/
theorem run_liftM {levels : Nat} (h : decode levels v = .ok a) (fields : Fields) :
    StateT.run (liftM (decode levels v) : Row α) fields = .ok (a, fields) := by
  rw [h]
  rfl

/-- A row that reads one field and decodes the value it finds there. -/
theorem ofNext {row : Row α} (h : Stored bound decode v a)
    (hrow : ∀ levels members,
      (Row.next name).run (.named levels members) =
        .ok (some (levels, v), .named levels members) →
      row.run (.named levels members) =
        StateT.run (liftM (decode levels v) : Row α) (.named levels members)) :
    RowStored bound [name] row [(name, v)] a where
  plain := List.forall_mem_singleton.2 h.plain
  named := List.forall_mem_singleton.2 (List.mem_singleton_self name)
  run_eq _ hbound levels hlevels members hown := by
    rw [List.forall_mem_singleton] at hbound hlevels hown
    rw [List.filter_singleton, beq_self_eq_true] at hown
    rw [hrow levels members (run_next hown levels)]
    exact run_liftM (h.decode_eq hbound levels hlevels) _

theorem field (h : Stored bound decode v a) :
    RowStored bound [name] (.field name decode) [(name, v)] a := by
  refine ofNext h fun levels members hnext => ?_
  rw [Row.field, StateT.run_bind, hnext]
  rfl

theorem fieldOr {absent : α} (h : Stored bound decode v a) :
    RowStored bound [name] (.fieldOr name absent decode) [(name, v)] a := by
  refine ofNext h fun levels members hnext => ?_
  rw [Row.fieldOr, StateT.run_bind, hnext]
  rfl

theorem fieldOr_absent {absent : α} :
    RowStored bound [name] (.fieldOr name absent decode) [] absent where
  plain := List.forall_mem_nil _
  named := List.forall_mem_nil _
  run_eq _ _ levels _ members hown := by
    rw [List.forall_mem_singleton] at hown
    rw [Row.fieldOr, StateT.run_bind, run_next_absent hown]
    rfl

/-- A member that is left out when there is no value. -/
theorem optionalMember {encode : α → Json} {x : Option α}
    (h : ∀ a, Stored bound decode (encode a) a) (hne : ∀ a, encode a ≠ .null) :
    RowStored bound [name] (.optional name decode) (Json.optionalMember name encode x) x := by
  cases x with
  | none => exact fieldOr_absent
  | some a => exact fieldOr ((h a).nullable (hne a))

/-- A member that is left out when the list is empty. -/
theorem nonemptyMember {encode : α → Json} {as : List α}
    (h : ∀ a, Stored bound decode (encode a) a) :
    RowStored bound [name] (.listOr name decode) (Json.nonemptyMember name encode as) as := by
  cases as with
  | nil => exact fieldOr_absent
  | cons a rest => exact fieldOr (.listOf fun a _ => h a)

end RowStored

namespace Stored

variable {α : Type} {bound : Nat} {names : List String} {members own : List (String × Json)}
  {row : Row α} {a : α}

theorem record_succ (hall : names.Nodup ∧ own = members) (h : RowStored bound names row own a) :
    Stored (bound + 1) (.record row) (.object members) a where
  plain := .object (hall.2 ▸ h.plain)
  decode_eq hbound levels hlevels := by
    obtain ⟨hnodup, rfl⟩ := hall
    cases levels with
    | zero => cases hlevels
    | succ levels =>
      have hrun := h.run_eq hnodup
        (fun _ hm => Nat.lt_of_lt_of_le (depth_of_mem_object hm) (Nat.le_of_lt_succ hbound)) levels
        (fun _ hm => Nat.le_of_lt_succ ((depth_of_mem_object hm).trans_le hlevels)) own
        (fun _ _ => rfl)
      rw [Decoder.record, hrun]
      rfl

theorem record (hall : names.Nodup ∧ own = members) (h : RowStored bound names row own a) :
    Stored bound (.record row) (.object members) a :=
  (record_succ hall h).mono (Nat.le_succ bound)

/-! ## Variants -/

variable {arm : String → Option (Arm α)} {decode : Decoder α} {v : Json}

theorem content_succ {tag : String} (harm : arm tag = some (.content decode))
    (h : Stored bound decode v a) : Stored (bound + 1) (.variant arm) (.tagged tag v) a where
  plain := .object (List.forall_mem_singleton.2 h.plain)
  decode_eq hbound levels hlevels := by
    have hdepth : (Json.tagged tag v).depth = v.depth + 1 := by
      simp [tagged, depth, membersDepth]
    rw [hdepth] at hbound hlevels
    cases levels with
    | zero => omega
    | succ levels =>
      have hcontent : Decoder.variant arm (levels + 1) (.tagged tag v) = decode levels v := by
        simp only [tagged, Decoder.variant, harm]
      rw [hcontent]
      exact h.decode_eq (by omega) levels (by omega)

theorem content (tag : String) (harm : arm tag = some (.content decode))
    (h : Stored bound decode v a) : Stored bound (.variant arm) (.tagged tag v) a :=
  (content_succ harm h).mono (Nat.le_succ bound)

theorem bare (tag : String) (harm : arm tag = some (.bare a)) :
    Stored bound (.variant arm) (.string tag) a where
  plain := .string tag
  decode_eq _ levels _ := by
    rw [Decoder.variant, harm]

theorem enumeration {ofTag? : String → Option α} {tag : String} (htag : ofTag? tag = some a) :
    Stored bound (.enumeration ofTag?) (.string tag) a :=
  bare tag (by rw [htag]; rfl)

/-- An object told by the text of one member, its other members read by a row. -/
theorem kinded {kind : String} (tag : String) {rows : String → Option (Row α)}
    (hrow : rows tag = some row)
    (hall : (kind :: names).Nodup ∧ (kind, .string tag) :: own = members)
    (h : RowStored bound names row own a) :
    Stored bound (.tagged kind rows) (.object members) a := by
  obtain ⟨hnodup, rfl⟩ := hall
  obtain ⟨hkind, hnames⟩ := List.nodup_cons.1 hnodup
  have hplain : Plain (.object ((kind, .string tag) :: own)) :=
    .object (List.forall_mem_cons.2 ⟨.string tag, h.plain⟩)
  have htag :
      ((kind, .string tag) :: own).filter (fun m => m.1 == kind) = [(kind, .string tag)] := by
    simp [filter_eq_nil h.named hkind]
  have hown : ∀ name ∈ names, ((kind, .string tag) :: own).filter (fun m => m.1 == name) =
      own.filter fun m => m.1 == name := by
    intro name hname
    have hne : kind ≠ name := fun heq => hkind (heq ▸ hname)
    simp [hne]
  refine ⟨hplain, fun hbound levels hlevels => ?_⟩
  cases levels with
  | zero => cases hlevels
  | succ levels =>
    have hdepth : ∀ m ∈ own, m.2.depth < (Json.object ((kind, .string tag) :: own)).depth :=
      fun _ hm => depth_of_mem_object (List.mem_cons_of_mem _ hm)
    have hrun := h.run_eq hnames (fun m hm => (hdepth m hm).trans hbound) levels
      (fun m hm => Nat.le_of_lt_succ ((hdepth m hm).trans_le hlevels)) _ hown
    simp only [Decoder.tagged, Nat.not_lt.2 hlevels, if_false, hplain.isProper, Bool.not_true,
      Bool.false_eq_true, htag, hrow, hrun]
    rfl

end Stored

/-! ## Decoding what was stored -/

namespace Decoder

/-- The decoder gives back what the encoder was given: from the value, and from its text in either
layout unless it nests deeper than texts may. -/
def Inverts {α : Type} (decode : Decoder α) (encode : α → Json) (a : α) : Prop :=
  decode.ofValue (encode a) = .ok a ∧
    ((encode a).depth ≤ maxLevels →
      decode.ofText (encode a).compact = .ok a ∧ decode.ofText (encode a).pretty = .ok a ∧
        decode.ofText ((encode a).pretty ++ "\n") = .ok a)

end Decoder

theorem Stored.inverts {α : Type} {decode : Decoder α} {encode : α → Json} {a : α}
    (h : ∀ bound, Stored bound decode (encode a) a) : decode.Inverts encode a := by
  have hplain := (h 0).plain
  have hdecode (levels : Nat) (hlevels : (encode a).depth ≤ levels) :
      decode levels (encode a) = .ok a :=
    (h ((encode a).depth + 1)).decode_eq (Nat.lt_succ_self _) levels hlevels
  have htext {text : String} (hparse : parse text = some (encode a))
      (hdepth : (encode a).depth ≤ maxLevels) : decode.ofText text = .ok a := by
    rw [Decoder.ofText, hparse]
    exact hdecode maxLevels hdepth
  exact ⟨hdecode _ le_rfl, fun hdepth => ⟨htext hplain.parse_compact hdepth,
    htext hplain.parse_pretty hdepth, htext hplain.parse_pretty_line hdepth⟩⟩

end GoProbe.Json
