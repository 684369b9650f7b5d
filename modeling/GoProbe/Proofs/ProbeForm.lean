import GoProbe.Probe.Ledger
import GoProbe.Proofs.ProbeCount
import GoProbe.Tree.Walk

/-!
# Telling probes from other statements

A statement has the form of a probe when it is the statement that the backend writes for some id.
`Backend.probeId?` reads the id back, and `Backend.idsOf` reads it from every statement of a walk,
so the ids of a tree come in the order of its text.

The last group says that placement does not disguise a statement: one that is not of the form
before its arms are filled is not of the form afterwards.
-/

namespace GoProbe

open Placing (next)

/-! ## Numbers as probes write them -/

/-- The number that the text writes in decimal digits. -/
def decimal? (text : String) : Option Nat :=
  text.toNat?.filter fun number => toString number = text

theorem decimal?_eq_some_iff {text : String} {number : Nat} :
    decimal? text = some number ↔ text = toString number := by
  rw [decimal?, Option.filter_eq_some_iff, decide_eq_true_iff]
  constructor
  · rintro ⟨-, h⟩
    exact h.symm
  · rintro rfl
    exact ⟨Nat.toNat?_repr number, rfl⟩

theorem Literal.escape_digit {c : Char} (h : c.isDigit) : Literal.escape c = [c] := by
  have hrange : 48 ≤ c.toNat ∧ c.toNat ≤ 57 := by
    simpa [Char.isDigit, UInt32.le_iff_toNat_le] using h
  have hcontrol : Literal.isControl c = false := by
    simp only [Literal.isControl, Bool.or_eq_false_iff, Bool.and_eq_false_iff,
      decide_eq_false_iff_not]
    omega
  unfold Literal.escape
  split <;> simp_all [Char.isDigit]

/-- Decimal digits stand for themselves in a literal. -/
theorem Literal.toList_quote_toString (number : Nat) :
    (Literal.quote (toString number)).toList = '"' :: ((toString number).toList ++ ['"']) := by
  have hdigit : ∀ c ∈ (toString number).toList, Literal.escape c = [c] := by
    intro c hc
    rw [Nat.toString_eq_repr, Nat.toList_repr] at hc
    exact Literal.escape_digit (Nat.isDigit_of_mem_toDigits (by decide) (by decide) hc)
  rw [Literal.quote, String.toList_ofList, List.flatMap_congr hdigit, List.flatMap_singleton',
    List.cons_append]

/-- The number that a string literal holds in decimal digits. -/
def quotedDecimal? (literal : String) : Option Nat :=
  (decimal? (String.ofList literal.toList.tail.dropLast)).filter fun number =>
    Literal.quote (toString number) = literal

theorem quotedDecimal?_eq_some_iff {literal : String} {number : Nat} :
    quotedDecimal? literal = some number ↔ literal = Literal.quote (toString number) := by
  rw [quotedDecimal?, Option.filter_eq_some_iff, decide_eq_true_iff, decimal?_eq_some_iff]
  constructor
  · rintro ⟨-, h⟩
    exact h.symm
  · rintro rfl
    rw [Literal.toList_quote_toString, List.tail_cons, List.dropLast_concat, String.ofList_toList]
    exact ⟨rfl, rfl⟩

/-! ## The form -/

namespace Backend

/-- The id that a statement records, if it has the form of a probe. -/
def probeId? : Backend → Stmt → Option Nat
  | table tableName _,
    .incDec (.index (.ident ⟨name, none⟩) [.basicLit ⟨.string, value, none⟩]) .inc =>
    if name = tableName then quotedDecimal? value else none
  | trace parameter maxLength,
    .ifElse ⟨none, .binary (.call (.ident ⟨len, none⟩) [.star (.ident ⟨list, none⟩)] false) .lss
        (.basicLit ⟨.int, max, none⟩),
      [.assign [.star (.ident ⟨target, none⟩)] .assign [.call (.ident ⟨append, none⟩)
        [.star (.ident ⟨source, none⟩), .basicLit ⟨.int, value, none⟩] false]], none⟩ =>
    if (list = parameter ∧ target = parameter ∧ source = parameter) ∧
        len = "len" ∧ append = "append" ∧ max = toString maxLength then
      decimal? value
    else none
  | _, _ => none

theorem probeId?_eq_some_iff {backend : Backend} {stmt : Stmt} {id : Nat} :
    backend.probeId? stmt = some id ↔ stmt = backend.probe id := by
  constructor
  · intro h
    unfold probeId? at h
    split at h
    · split at h
      · next hname =>
        rw [hname, quotedDecimal?_eq_some_iff.1 h]
        rfl
      · cases h
    · split at h
      · next hform =>
        obtain ⟨⟨rfl, rfl, rfl⟩, rfl, rfl, rfl⟩ := hform
        rw [decimal?_eq_some_iff.1 h]
        rfl
      · cases h
    · cases h
  · rintro rfl
    cases backend with
    | table tableName fileName =>
      simp [probe, probeId?, Expr.name, Expr.stringLit, quotedDecimal?_eq_some_iff]
    | trace parameter maxLength =>
      simp [probe, probeId?, Expr.name, Expr.intLit, Expr.apply, decimal?_eq_some_iff]

@[simp] theorem probeId?_probe (backend : Backend) (id : Nat) :
    backend.probeId? (backend.probe id) = some id :=
  probeId?_eq_some_iff.2 rfl

/-- Whether the statement has the form of a probe. -/
def isProbe (backend : Backend) (stmt : Stmt) : Bool :=
  (backend.probeId? stmt).isSome

theorem isProbe_iff {backend : Backend} {stmt : Stmt} :
    backend.isProbe stmt = true ↔ ∃ id, stmt = backend.probe id := by
  simp [isProbe, Option.isSome_iff_exists, probeId?_eq_some_iff]

@[simp] theorem isProbe_probe (backend : Backend) (id : Nat) :
    backend.isProbe (backend.probe id) = true :=
  isProbe_iff.2 ⟨id, rfl⟩

end Backend

/-! ## Reading a walk -/

/-- A walk starts with the statement itself. -/
theorem Stmt.walk_eq_cons (into : Expr → Bool) (stmt : Stmt) :
    stmt.walk into = .stmt stmt :: (stmt.walk into).tail := by
  cases stmt <;> simp [Stmt.walk]

/-- The id that a node of a walk records. -/
def Node.probeId? (backend : Backend) : Node → Option Nat
  | .stmt s => backend.probeId? s
  | _ => none

namespace Backend

/-- The ids of the probes of a walk, in order. -/
def idsOf (backend : Backend) (nodes : List Node) : List Nat :=
  nodes.filterMap (Node.probeId? backend)

/-- No statement of the walk has the form of a probe. -/
def Free (backend : Backend) (nodes : List Node) : Prop :=
  ∀ stmt id, Node.stmt stmt ∈ nodes → stmt ≠ backend.probe id

variable {backend : Backend}

theorem free_iff {nodes : List Node} : backend.Free nodes ↔ backend.idsOf nodes = [] := by
  rw [idsOf, List.filterMap_eq_nil_iff]
  constructor
  · intro hfree node hnode
    cases node with
    | stmt stmt =>
      rw [Node.probeId?, Option.eq_none_iff_forall_ne_some]
      exact fun id hid => hfree stmt id hnode (probeId?_eq_some_iff.1 hid)
    | _ => rfl
  · rintro hnone stmt id hstmt rfl
    simpa [Node.probeId?] using hnone _ hstmt

variable (backend) in
@[simp] theorem idsOf_nil : backend.idsOf [] = [] := rfl

@[simp] theorem idsOf_append (left right : List Node) :
    backend.idsOf (left ++ right) = backend.idsOf left ++ backend.idsOf right :=
  List.filterMap_append

@[simp] theorem idsOf_cons (node : Node) (nodes : List Node) :
    backend.idsOf (node :: nodes) = (node.probeId? backend).toList ++ backend.idsOf nodes := by
  cases h : node.probeId? backend <;> simp [idsOf, h]

theorem idsOf_append_eq_nil {left right : List Node} :
    backend.idsOf (left ++ right) = [] ↔ backend.idsOf left = [] ∧ backend.idsOf right = [] := by
  rw [idsOf_append, List.append_eq_nil_iff]

theorem idsOf_cons_eq_nil {node : Node} {nodes : List Node} :
    backend.idsOf (node :: nodes) = [] ↔
      node.probeId? backend = none ∧ backend.idsOf nodes = [] := by
  rw [idsOf_cons, List.append_eq_nil_iff, Option.toList_eq_nil_iff]

@[simp] theorem idsOf_under (x : Expr) (parts : List Node) :
    backend.idsOf (Node.under everywhere x parts) = backend.idsOf parts := by
  simp [Node.under, everywhere, Node.probeId?]

@[simp] theorem idsOf_idents (names : List Ident) :
    backend.idsOf (names.map Node.ident) = [] := by
  induction names with
  | nil => rfl
  | cons name rest ih => simp [Node.probeId?, ih]

theorem isProbe_of_walk {stmt : Stmt} (h : backend.idsOf (stmt.walk everywhere) = []) :
    backend.isProbe stmt = false := by
  rw [Stmt.walk_eq_cons, idsOf_cons_eq_nil, Node.probeId?] at h
  rw [isProbe, h.1, Option.isSome_none]

/-- A probe holds no other probe. -/
@[simp] theorem idsOf_walk_probe (backend : Backend) (id : Nat) :
    backend.idsOf ((backend.probe id).walk everywhere) = [id] := by
  have hid := backend.probeId?_probe id
  cases backend with
  | table tableName fileName =>
    simp only [probe, Expr.name, Expr.stringLit] at hid ⊢
    simp [Stmt.walk, Expr.walk, Expr.walkList, Node.probeId?, hid, -Nat.toString_eq_repr]
  | trace parameter maxLength =>
    have hassign (lhs op rhs) : (trace parameter maxLength).probeId? (.assign lhs op rhs) = none :=
      rfl
    simp only [probe, Expr.name, Expr.intLit, Expr.apply] at hid ⊢
    simp [Stmt.walk, Stmt.walkList, Stmt.walkOption, IfStmt.walk, Expr.walk, Expr.walkList,
      Node.probeId?, hid, hassign, -Nat.toString_eq_repr]

end Backend

namespace ProbePlan

variable [WordHash]

/-- The probe with this number. -/
def probe (plan : ProbePlan) (number : Nat) : Stmt :=
  plan.backend.probe (plan.policy.id number)

@[simp] theorem isProbe_probe (plan : ProbePlan) (number : Nat) :
    plan.backend.isProbe (plan.probe number) = true :=
  plan.backend.isProbe_probe _

@[simp] theorem idsOf_walk_probe (plan : ProbePlan) (number : Nat) :
    plan.backend.idsOf ((plan.probe number).walk everywhere) = [plan.policy.id number] :=
  plan.backend.idsOf_walk_probe _

end ProbePlan

/-! ## Placement keeps the form -/

section

variable {probe : Nat → Stmt} {placed : Nat}

theorem Expr.eq_ident_of_place {x : Expr} {id : Ident}
    (h : (x.place (next probe) placed).1 = .ident id) : x = .ident id := by
  cases x <;> simp_all [Expr.place]

theorem Expr.eq_basicLit_of_place {x : Expr} {literal : BasicLit}
    (h : (x.place (next probe) placed).1 = .basicLit literal) : x = .basicLit literal := by
  cases x <;> simp_all [Expr.place]

theorem Expr.eq_single_of_placeList {xs : List Expr} {literal : BasicLit}
    (h : (Expr.placeList (next probe) xs placed).1 = [.basicLit literal]) :
    xs = [.basicLit literal] := by
  match xs with
  | [] => simp [Expr.placeList] at h
  | [x] =>
    have hx : (x.place (next probe) placed).1 = .basicLit literal := by
      simpa [Expr.placeList] using h
    rw [Expr.eq_basicLit_of_place hx]
  | _ :: _ :: _ => simp [Expr.placeList] at h

/-- An indexed name with a literal index has no arms, so it has not changed. -/
theorem Expr.eq_index_of_place {x : Expr} {id : Ident} {literal : BasicLit}
    (h : (x.place (next probe) placed).1 = .index (.ident id) [.basicLit literal]) :
    x = .index (.ident id) [.basicLit literal] := by
  cases x with
  | index x indices =>
    simp only [Expr.place, Placing.bind_apply, Placing.pure_apply, Expr.index.injEq] at h
    rw [Expr.eq_ident_of_place h.1, Expr.eq_single_of_placeList h.2]
  | _ => simp [Expr.place] at h

/-- A placed `if` always has an `else`. -/
theorem IfStmt.otherwise_place (stmt : IfStmt) :
    (stmt.place (next probe) placed).1.otherwise ≠ none := by
  obtain ⟨init, cond, body, otherwise⟩ := stmt
  match otherwise with
  | none => simp [IfStmt.place]
  | some (.block other) => simp [IfStmt.place]
  | some (.elseIf other) => simp [IfStmt.place]

theorem Backend.ifElse_place_ne_probe (backend : Backend) (stmt : IfStmt) (id : Nat) :
    .ifElse (stmt.place (next probe) placed).1 ≠ backend.probe id := by
  cases backend with
  | table tableName fileName => simp [Backend.probe]
  | trace parameter maxLength =>
    intro h
    rw [Backend.probe, Stmt.ifElse.injEq] at h
    exact stmt.otherwise_place (congrArg IfStmt.otherwise h)

theorem Backend.probeId?_ifElse_place (backend : Backend) (stmt : IfStmt) :
    backend.probeId? (.ifElse (stmt.place (next probe) placed).1) = none := by
  rw [Option.eq_none_iff_forall_ne_some]
  intro id hid
  exact backend.ifElse_place_ne_probe stmt id (Backend.probeId?_eq_some_iff.1 hid)

theorem Backend.isProbe_ifElse_place (backend : Backend) (stmt : IfStmt) :
    backend.isProbe (.ifElse (stmt.place (next probe) placed).1) = false := by
  rw [Backend.isProbe, Backend.probeId?_ifElse_place, Option.isSome_none]

/-- A statement that has the form of a probe after placement had it before. -/
theorem Backend.eq_probe_of_place {backend : Backend} {stmt : Stmt} {id : Nat}
    (h : (stmt.place (next probe) placed).1 = backend.probe id) : stmt = backend.probe id := by
  cases backend with
  | table tableName fileName =>
    cases stmt with
    | incDec x op =>
      simp only [Stmt.place, Placing.bind_apply, Placing.pure_apply, Backend.probe, Expr.name,
        Expr.stringLit, Stmt.incDec.injEq] at h ⊢
      exact ⟨Expr.eq_index_of_place h.1, h.2⟩
    | _ => simp [Stmt.place, Backend.probe] at h
  | trace parameter maxLength =>
    cases stmt with
    | ifElse stmt =>
      simp only [Stmt.place, Placing.bind_apply, Placing.pure_apply] at h
      exact absurd h (Backend.ifElse_place_ne_probe _ stmt id)
    | _ => simp [Stmt.place, Backend.probe] at h

theorem Backend.isProbe_place {backend : Backend} {stmt : Stmt}
    (h : backend.isProbe stmt = false) :
    backend.isProbe (stmt.place (next probe) placed).1 = false := by
  rw [← Bool.not_eq_true, Backend.isProbe_iff] at h ⊢
  rintro ⟨id, hid⟩
  exact h ⟨id, Backend.eq_probe_of_place hid⟩

end

end GoProbe
