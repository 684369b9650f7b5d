import GoProbe.Probe.Hash
import GoProbe.Proofs.ProbeForm
import GoProbe.Proofs.ProbingRuns

/-!
# Taking probes out again

`erase drop` deletes from every list of statements of a tree, at any depth and also inside types,
the statements that `drop` picks. A tree without statements of the form of a probe is left as it
is, and a placed tree becomes the normal form of the tree before placement.
-/

namespace GoProbe

open Placing (next)

/-! ## Erasure -/

section

variable (drop : Stmt → Bool)

mutual

def Expr.erase : Expr → Expr
  | .ident id => .ident id
  | .basicLit lit => .basicLit lit
  | .compositeLit type elements =>
    .compositeLit (Expr.eraseOption type) (Expr.eraseList elements)
  | .funcLit type body => .funcLit type.erase (Stmt.eraseList body)
  | .paren x => .paren x.erase
  | .selector x sel => .selector x.erase sel
  | .index x indices => .index x.erase (Expr.eraseList indices)
  | .slice x low high max =>
    .slice x.erase (Expr.eraseOption low) (Expr.eraseOption high) (Expr.eraseOption max)
  | .typeAssert x type => .typeAssert x.erase (Expr.eraseOption type)
  | .call fn args spread => .call fn.erase (Expr.eraseList args) spread
  | .star x => .star x.erase
  | .unary op x constant => .unary op x.erase constant
  | .binary x op y => .binary x.erase op y.erase
  | .keyValue key value => .keyValue key.erase value.erase
  | .arrayType length element => .arrayType (Expr.eraseOption length) element.erase
  | .structType fields => .structType (Field.eraseList fields)
  | .funcType type => .funcType type.erase
  | .interfaceType methods => .interfaceType (Field.eraseList methods)
  | .mapType key value => .mapType key.erase value.erase
  | .chanType dir value => .chanType dir value.erase
  | .ellipsis element => .ellipsis (Expr.eraseOption element)

def Expr.eraseOption : Option Expr → Option Expr
  | none => none
  | some x => some x.erase

def Expr.eraseList : List Expr → List Expr
  | [] => []
  | x :: rest => x.erase :: Expr.eraseList rest

def Field.erase : Field → Field
  | ⟨names, type, tag, resolved⟩ => ⟨names, type.erase, tag, resolved⟩

def Field.eraseList : List Field → List Field
  | [] => []
  | field :: rest => field.erase :: Field.eraseList rest

def FuncType.erase : FuncType → FuncType
  | ⟨params, results⟩ => ⟨Field.eraseList params, Field.eraseList results⟩

def Spec.erase : Spec → Spec
  | .imports spec => .imports spec
  | .value names type values => .value names (Expr.eraseOption type) (Expr.eraseList values)
  | .type name params isAlias type => .type name (Field.eraseList params) isAlias type.erase

def Spec.eraseList : List Spec → List Spec
  | [] => []
  | spec :: rest => spec.erase :: Spec.eraseList rest

def GenDecl.erase : GenDecl → GenDecl
  | ⟨kind, specs, grouped⟩ => ⟨kind, Spec.eraseList specs, grouped⟩

def Stmt.erase : Stmt → Stmt
  | .decl decl => .decl decl.erase
  | .empty => .empty
  | .labeled label stmt => .labeled label stmt.erase
  | .expr x => .expr x.erase
  | .send chan value => .send chan.erase value.erase
  | .incDec x op => .incDec x.erase op
  | .assign lhs op rhs => .assign (Expr.eraseList lhs) op (Expr.eraseList rhs)
  | .go call => .go call.erase
  | .defer call => .defer call.erase
  | .return results => .return (Expr.eraseList results)
  | .branch kind label => .branch kind label
  | .block body => .block (Stmt.eraseList body)
  | .ifElse stmt => .ifElse stmt.erase
  | .switch init tag clauses =>
    .switch (Stmt.eraseOption init) (Expr.eraseOption tag) (CaseClause.eraseList clauses)
  | .typeSwitch init assign clauses =>
    .typeSwitch (Stmt.eraseOption init) assign.erase (CaseClause.eraseList clauses)
  | .select clauses => .select (CommClause.eraseList clauses)
  | .loop init cond post body =>
    .loop (Stmt.eraseOption init) (Expr.eraseOption cond) (Stmt.eraseOption post)
      (Stmt.eraseList body)
  | .range key value define x body =>
    .range (Expr.eraseOption key) (Expr.eraseOption value) define x.erase (Stmt.eraseList body)

def Stmt.eraseOption : Option Stmt → Option Stmt
  | none => none
  | some stmt => some stmt.erase

/-- The only place where something is deleted. -/
def Stmt.eraseList : List Stmt → List Stmt
  | [] => []
  | stmt :: rest =>
    if drop stmt then Stmt.eraseList rest else stmt.erase :: Stmt.eraseList rest

def IfStmt.erase : IfStmt → IfStmt
  | ⟨init, cond, body, otherwise⟩ =>
    { init := Stmt.eraseOption init
      cond := cond.erase
      body := Stmt.eraseList body
      otherwise :=
        match otherwise with
        | none => none
        | some (.block body) => some (.block (Stmt.eraseList body))
        | some (.elseIf stmt) => some (.elseIf stmt.erase) }

def CaseClause.erase : CaseClause → CaseClause
  | .cases labels body => .cases (Expr.eraseList labels) (Stmt.eraseList body)
  | .default body => .default (Stmt.eraseList body)

def CaseClause.eraseList : List CaseClause → List CaseClause
  | [] => []
  | clause :: rest => clause.erase :: CaseClause.eraseList rest

def CommClause.erase : CommClause → CommClause
  | .comm stmt body => .comm stmt.erase (Stmt.eraseList body)
  | .default body => .default (Stmt.eraseList body)

def CommClause.eraseList : List CommClause → List CommClause
  | [] => []
  | clause :: rest => clause.erase :: CommClause.eraseList rest

end

end

/-! ## A tree without probes -/

section

open Backend (idsOf_under idsOf_append_eq_nil idsOf_cons_eq_nil)

variable {backend : Backend}

mutual

theorem Expr.erase_free : ∀ {x : Expr}, backend.idsOf (x.walk everywhere) = [] →
    x.erase backend.isProbe = x
  | .ident _, _ | .basicLit _, _ => by simp [Expr.erase]
  | .compositeLit type elements, h => by
    simp only [Expr.walk, idsOf_under, idsOf_append_eq_nil] at h
    simp [Expr.erase, Expr.eraseOption_free h.1, Expr.eraseList_free h.2]
  | .funcLit type body, h => by
    simp only [Expr.walk, idsOf_under, idsOf_append_eq_nil, idsOf_cons_eq_nil] at h
    simp [Expr.erase, FuncType.erase_free h.1, Stmt.eraseList_free h.2.2]
  | .paren x, h | .star x, h | .unary _ x _, h | .chanType _ x, h => by
    simp only [Expr.walk, idsOf_under] at h
    simp [Expr.erase, x.erase_free h]
  | .selector x sel, h => by
    simp only [Expr.walk, idsOf_under, idsOf_append_eq_nil] at h
    simp [Expr.erase, x.erase_free h.1]
  | .index x _, h | .call x _ _, h => by
    simp only [Expr.walk, idsOf_under, idsOf_append_eq_nil] at h
    simp [Expr.erase, x.erase_free h.1, Expr.eraseList_free h.2]
  | .slice x low high max, h => by
    simp only [Expr.walk, idsOf_under, idsOf_append_eq_nil] at h
    obtain ⟨⟨⟨hx, hlow⟩, hhigh⟩, hmax⟩ := h
    simp [Expr.erase, x.erase_free hx, Expr.eraseOption_free hlow, Expr.eraseOption_free hhigh,
      Expr.eraseOption_free hmax]
  | .typeAssert x type, h => by
    simp only [Expr.walk, idsOf_under, idsOf_append_eq_nil] at h
    simp [Expr.erase, x.erase_free h.1, Expr.eraseOption_free h.2]
  | .binary x _ y, h | .keyValue x y, h | .mapType x y, h => by
    simp only [Expr.walk, idsOf_under, idsOf_append_eq_nil] at h
    simp [Expr.erase, x.erase_free h.1, y.erase_free h.2]
  | .arrayType length element, h => by
    simp only [Expr.walk, idsOf_under, idsOf_append_eq_nil] at h
    simp [Expr.erase, Expr.eraseOption_free h.1, element.erase_free h.2]
  | .structType _, h | .interfaceType _, h => by
    simp only [Expr.walk, idsOf_under] at h
    simp [Expr.erase, Field.eraseList_free h]
  | .funcType type, h => by
    simp only [Expr.walk, idsOf_under] at h
    simp [Expr.erase, FuncType.erase_free h]
  | .ellipsis element, h => by
    simp only [Expr.walk, idsOf_under] at h
    simp [Expr.erase, Expr.eraseOption_free h]

theorem Expr.eraseOption_free : ∀ {x : Option Expr},
    backend.idsOf (Expr.walkOption everywhere x) = [] → Expr.eraseOption backend.isProbe x = x
  | none, _ => by simp [Expr.eraseOption]
  | some x, h => by
    rw [Expr.walkOption] at h
    simp [Expr.eraseOption, x.erase_free h]

theorem Expr.eraseList_free : ∀ {xs : List Expr},
    backend.idsOf (Expr.walkList everywhere xs) = [] → Expr.eraseList backend.isProbe xs = xs
  | [], _ => by simp [Expr.eraseList]
  | x :: rest, h => by
    rw [Expr.walkList, idsOf_append_eq_nil] at h
    simp [Expr.eraseList, x.erase_free h.1, Expr.eraseList_free h.2]

theorem Field.erase_free : ∀ {field : Field}, backend.idsOf (field.walk everywhere) = [] →
    field.erase backend.isProbe = field
  | ⟨names, type, tag, resolved⟩, h => by
    rw [Field.walk, idsOf_cons_eq_nil] at h
    simp [Field.erase, type.erase_free h.2]

theorem Field.eraseList_free : ∀ {fields : List Field},
    backend.idsOf (Field.walkList everywhere fields) = [] →
      Field.eraseList backend.isProbe fields = fields
  | [], _ => by simp [Field.eraseList]
  | field :: rest, h => by
    rw [Field.walkList, idsOf_append_eq_nil] at h
    simp [Field.eraseList, field.erase_free h.1, Field.eraseList_free h.2]

theorem FuncType.erase_free : ∀ {type : FuncType}, backend.idsOf (type.walk everywhere) = [] →
    type.erase backend.isProbe = type
  | ⟨params, results⟩, h => by
    rw [FuncType.walk, idsOf_append_eq_nil] at h
    simp [FuncType.erase, Field.eraseList_free h.1, Field.eraseList_free h.2]

theorem Spec.erase_free : ∀ {spec : Spec}, backend.idsOf (spec.walk everywhere) = [] →
    spec.erase backend.isProbe = spec
  | .imports _, _ => by simp [Spec.erase]
  | .value names type values, h => by
    simp only [Spec.walk, idsOf_append_eq_nil] at h
    simp [Spec.erase, Expr.eraseOption_free h.1.2, Expr.eraseList_free h.2]
  | .type name params isAlias type, h => by
    simp only [Spec.walk, idsOf_append_eq_nil, idsOf_cons_eq_nil] at h
    simp [Spec.erase, Field.eraseList_free h.1.2, type.erase_free h.2]

theorem Spec.eraseList_free : ∀ {specs : List Spec},
    backend.idsOf (Spec.walkList everywhere specs) = [] →
      Spec.eraseList backend.isProbe specs = specs
  | [], _ => by simp [Spec.eraseList]
  | spec :: rest, h => by
    rw [Spec.walkList, idsOf_append_eq_nil] at h
    simp [Spec.eraseList, spec.erase_free h.1, Spec.eraseList_free h.2]

theorem GenDecl.erase_free : ∀ {decl : GenDecl}, backend.idsOf (decl.walk everywhere) = [] →
    decl.erase backend.isProbe = decl
  | ⟨kind, specs, grouped⟩, h => by
    rw [GenDecl.walk, idsOf_cons_eq_nil] at h
    simp [GenDecl.erase, Spec.eraseList_free h.2]

theorem Stmt.erase_free : ∀ {stmt : Stmt}, backend.idsOf (stmt.walk everywhere) = [] →
    stmt.erase backend.isProbe = stmt
  | .empty, _ | .branch _ _, _ => by simp [Stmt.erase]
  | .decl decl, h => by
    rw [Stmt.walk, idsOf_cons_eq_nil] at h
    simp [Stmt.erase, decl.erase_free h.2]
  | .labeled label stmt, h => by
    rw [Stmt.walk, idsOf_cons_eq_nil] at h
    simp [Stmt.erase, stmt.erase_free h.2]
  | .expr x, h | .incDec x _, h | .go x, h | .defer x, h => by
    rw [Stmt.walk, idsOf_cons_eq_nil] at h
    simp [Stmt.erase, x.erase_free h.2]
  | .send chan value, h => by
    simp only [Stmt.walk, idsOf_append_eq_nil, idsOf_cons_eq_nil] at h
    simp [Stmt.erase, chan.erase_free h.1.2, value.erase_free h.2]
  | .assign lhs op rhs, h => by
    simp only [Stmt.walk, idsOf_append_eq_nil, idsOf_cons_eq_nil] at h
    simp [Stmt.erase, Expr.eraseList_free h.1.2, Expr.eraseList_free h.2]
  | .return results, h => by
    rw [Stmt.walk, idsOf_cons_eq_nil] at h
    simp [Stmt.erase, Expr.eraseList_free h.2]
  | .block body, h => by
    simp only [Stmt.walk, idsOf_cons_eq_nil] at h
    simp [Stmt.erase, Stmt.eraseList_free h.2.2]
  | .ifElse stmt, h => by
    rw [Stmt.walk, idsOf_cons_eq_nil] at h
    simp [Stmt.erase, stmt.erase_free h.2]
  | .switch init tag clauses, h => by
    simp only [Stmt.walk, idsOf_append_eq_nil, idsOf_cons_eq_nil] at h
    obtain ⟨⟨⟨-, hinit⟩, htag⟩, hclauses⟩ := h
    simp [Stmt.erase, Stmt.eraseOption_free hinit, Expr.eraseOption_free htag,
      CaseClause.eraseList_free hclauses]
  | .typeSwitch init assign clauses, h => by
    simp only [Stmt.walk, idsOf_append_eq_nil, idsOf_cons_eq_nil] at h
    obtain ⟨⟨⟨-, hinit⟩, hassign⟩, hclauses⟩ := h
    simp [Stmt.erase, Stmt.eraseOption_free hinit, assign.erase_free hassign,
      CaseClause.eraseList_free hclauses]
  | .select clauses, h => by
    rw [Stmt.walk, idsOf_cons_eq_nil] at h
    simp [Stmt.erase, CommClause.eraseList_free h.2]
  | .loop init cond post body, h => by
    simp only [Stmt.walk, idsOf_append_eq_nil, idsOf_cons_eq_nil] at h
    obtain ⟨⟨⟨⟨-, hinit⟩, hcond⟩, hpost⟩, -, hbody⟩ := h
    simp [Stmt.erase, Stmt.eraseOption_free hinit, Expr.eraseOption_free hcond,
      Stmt.eraseOption_free hpost, Stmt.eraseList_free hbody]
  | .range key value define x body, h => by
    simp only [Stmt.walk, idsOf_append_eq_nil, idsOf_cons_eq_nil] at h
    obtain ⟨⟨⟨⟨-, hkey⟩, hvalue⟩, hx⟩, -, hbody⟩ := h
    simp [Stmt.erase, Expr.eraseOption_free hkey, Expr.eraseOption_free hvalue, x.erase_free hx,
      Stmt.eraseList_free hbody]

theorem Stmt.eraseOption_free : ∀ {stmt : Option Stmt},
    backend.idsOf (Stmt.walkOption everywhere stmt) = [] →
      Stmt.eraseOption backend.isProbe stmt = stmt
  | none, _ => by simp [Stmt.eraseOption]
  | some stmt, h => by
    rw [Stmt.walkOption] at h
    simp [Stmt.eraseOption, stmt.erase_free h]

theorem Stmt.eraseList_free : ∀ {body : List Stmt},
    backend.idsOf (Stmt.walkList everywhere body) = [] →
      Stmt.eraseList backend.isProbe body = body
  | [], _ => by simp [Stmt.eraseList]
  | stmt :: rest, h => by
    rw [Stmt.walkList, idsOf_append_eq_nil] at h
    have hform : backend.isProbe stmt = false := Backend.isProbe_of_walk h.1
    simp [Stmt.eraseList, hform, stmt.erase_free h.1, Stmt.eraseList_free h.2]

theorem IfStmt.erase_free : ∀ {stmt : IfStmt}, backend.idsOf (stmt.walk everywhere) = [] →
    stmt.erase backend.isProbe = stmt
  | ⟨init, cond, body, none⟩, h => by
    simp only [IfStmt.walk, idsOf_append_eq_nil, idsOf_cons_eq_nil] at h
    obtain ⟨⟨⟨⟨-, hinit⟩, hcond⟩, -, hbody⟩, -⟩ := h
    simp [IfStmt.erase, Stmt.eraseOption_free hinit, cond.erase_free hcond,
      Stmt.eraseList_free hbody]
  | ⟨init, cond, body, some (.block other)⟩, h => by
    simp only [IfStmt.walk, idsOf_append_eq_nil, idsOf_cons_eq_nil] at h
    obtain ⟨⟨⟨⟨-, hinit⟩, hcond⟩, -, hbody⟩, -, hother⟩ := h
    simp [IfStmt.erase, Stmt.eraseOption_free hinit, cond.erase_free hcond,
      Stmt.eraseList_free hbody, Stmt.eraseList_free hother]
  | ⟨init, cond, body, some (.elseIf other)⟩, h => by
    simp only [IfStmt.walk, idsOf_append_eq_nil, idsOf_cons_eq_nil] at h
    obtain ⟨⟨⟨⟨-, hinit⟩, hcond⟩, -, hbody⟩, hother⟩ := h
    simp [IfStmt.erase, Stmt.eraseOption_free hinit, cond.erase_free hcond,
      Stmt.eraseList_free hbody, other.erase_free hother]

theorem CaseClause.erase_free : ∀ {clause : CaseClause},
    backend.idsOf (clause.walk everywhere) = [] → clause.erase backend.isProbe = clause
  | .cases labels body, h => by
    simp only [CaseClause.walk, idsOf_append_eq_nil, idsOf_cons_eq_nil] at h
    simp [CaseClause.erase, Expr.eraseList_free h.1.2, Stmt.eraseList_free h.2]
  | .default body, h => by
    rw [CaseClause.walk, idsOf_cons_eq_nil] at h
    simp [CaseClause.erase, Stmt.eraseList_free h.2]

theorem CaseClause.eraseList_free : ∀ {clauses : List CaseClause},
    backend.idsOf (CaseClause.walkList everywhere clauses) = [] →
      CaseClause.eraseList backend.isProbe clauses = clauses
  | [], _ => by simp [CaseClause.eraseList]
  | clause :: rest, h => by
    rw [CaseClause.walkList, idsOf_append_eq_nil] at h
    simp [CaseClause.eraseList, clause.erase_free h.1, CaseClause.eraseList_free h.2]

theorem CommClause.erase_free : ∀ {clause : CommClause},
    backend.idsOf (clause.walk everywhere) = [] → clause.erase backend.isProbe = clause
  | .comm stmt body, h => by
    simp only [CommClause.walk, idsOf_append_eq_nil, idsOf_cons_eq_nil] at h
    simp [CommClause.erase, stmt.erase_free h.1.2, Stmt.eraseList_free h.2]
  | .default body, h => by
    rw [CommClause.walk, idsOf_cons_eq_nil] at h
    simp [CommClause.erase, Stmt.eraseList_free h.2]

theorem CommClause.eraseList_free : ∀ {clauses : List CommClause},
    backend.idsOf (CommClause.walkList everywhere clauses) = [] →
      CommClause.eraseList backend.isProbe clauses = clauses
  | [], _ => by simp [CommClause.eraseList]
  | clause :: rest, h => by
    rw [CommClause.walkList, idsOf_append_eq_nil] at h
    simp [CommClause.eraseList, clause.erase_free h.1, CommClause.eraseList_free h.2]

end

end

/-! ## A placed tree -/

section

open Backend (idsOf_under idsOf_append_eq_nil idsOf_cons_eq_nil)

variable [WordHash] (plan : ProbePlan)

/-- From the statements of a list to the list as an arm. -/
theorem Placing.eraseList_arm {body : Block}
    (hlist : ∀ placed,
      Stmt.eraseList plan.backend.isProbe (Stmt.placeList (next plan.probe) true body placed).1 =
      Stmt.normalizeList body) (placed : Nat) :
    Stmt.eraseList plan.backend.isProbe
        (Stmt.placeArm (next plan.probe) body
          (Stmt.placeList (next plan.probe) true body) placed).1 =
      Stmt.normalizeList body := by
  cases body with
  | nil => simp [Stmt.eraseList, Stmt.normalizeList]
  | cons stmt rest => rw [Placing.placeArm_cons, hlist]

mutual

theorem Expr.erase_place : ∀ {x : Expr}, plan.backend.idsOf (x.walk everywhere) = [] → ∀ placed,
    (x.place (next plan.probe) placed).1.erase plan.backend.isProbe = x.normalize
  | .ident _, _, _ | .basicLit _, _, _ => by simp [Expr.place, Expr.erase, Expr.normalize]
  | .arrayType _ _, h, _ | .structType _, h, _ | .funcType _, h, _ | .interfaceType _, h, _
  | .mapType _ _, h, _ | .chanType _ _, h, _ | .ellipsis _, h, _ => by
    simp only [Expr.place, Expr.normalize, Placing.pure_apply]
    exact Expr.erase_free h
  | .compositeLit type elements, h, placed => by
    simp only [Expr.walk, idsOf_under, idsOf_append_eq_nil] at h
    simp [Expr.place, Expr.erase, Expr.normalize, Expr.eraseOption_free h.1,
      Expr.eraseList_place h.2]
  | .funcLit type body, h, placed => by
    simp only [Expr.walk, idsOf_under, idsOf_append_eq_nil, idsOf_cons_eq_nil] at h
    have hbody := Placing.eraseList_arm plan (Stmt.eraseList_place h.2.2 true)
    simp [Expr.place, Expr.erase, Expr.normalize, FuncType.erase_free h.1, hbody]
  | .paren x, h, placed | .star x, h, placed | .unary _ x _, h, placed => by
    simp only [Expr.walk, idsOf_under] at h
    simp [Expr.place, Expr.erase, Expr.normalize, x.erase_place h]
  | .selector x sel, h, placed => by
    simp only [Expr.walk, idsOf_under, idsOf_append_eq_nil] at h
    simp [Expr.place, Expr.erase, Expr.normalize, x.erase_place h.1]
  | .index x _, h, placed | .call x _ _, h, placed => by
    simp only [Expr.walk, idsOf_under, idsOf_append_eq_nil] at h
    simp [Expr.place, Expr.erase, Expr.normalize, x.erase_place h.1, Expr.eraseList_place h.2]
  | .slice x low high max, h, placed => by
    simp only [Expr.walk, idsOf_under, idsOf_append_eq_nil] at h
    obtain ⟨⟨⟨hx, hlow⟩, hhigh⟩, hmax⟩ := h
    simp [Expr.place, Expr.erase, Expr.normalize, x.erase_place hx, Expr.eraseOption_place hlow,
      Expr.eraseOption_place hhigh, Expr.eraseOption_place hmax]
  | .typeAssert x type, h, placed => by
    simp only [Expr.walk, idsOf_under, idsOf_append_eq_nil] at h
    simp [Expr.place, Expr.erase, Expr.normalize, x.erase_place h.1, Expr.eraseOption_free h.2]
  | .binary x _ y, h, placed | .keyValue x y, h, placed => by
    simp only [Expr.walk, idsOf_under, idsOf_append_eq_nil] at h
    simp [Expr.place, Expr.erase, Expr.normalize, x.erase_place h.1, y.erase_place h.2]

theorem Expr.eraseOption_place : ∀ {x : Option Expr},
    plan.backend.idsOf (Expr.walkOption everywhere x) = [] → ∀ placed,
      Expr.eraseOption plan.backend.isProbe (Expr.placeOption (next plan.probe) x placed).1 =
        Expr.normalizeOption x
  | none, _, _ => by simp [Expr.placeOption, Expr.eraseOption, Expr.normalizeOption]
  | some x, h, placed => by
    rw [Expr.walkOption] at h
    simp [Expr.placeOption, Expr.eraseOption, Expr.normalizeOption, x.erase_place h]

theorem Expr.eraseList_place : ∀ {xs : List Expr},
    plan.backend.idsOf (Expr.walkList everywhere xs) = [] → ∀ placed,
      Expr.eraseList plan.backend.isProbe (Expr.placeList (next plan.probe) xs placed).1 =
        Expr.normalizeList xs
  | [], _, _ => by simp [Expr.placeList, Expr.eraseList, Expr.normalizeList]
  | x :: rest, h, placed => by
    rw [Expr.walkList, idsOf_append_eq_nil] at h
    simp [Expr.placeList, Expr.eraseList, Expr.normalizeList, x.erase_place h.1,
      Expr.eraseList_place h.2]

theorem Spec.erase_place : ∀ {spec : Spec},
    plan.backend.idsOf (spec.walk everywhere) = [] → ∀ placed,
    (spec.place (next plan.probe) placed).1.erase plan.backend.isProbe = spec.normalize
  | .imports _, _, _ => by simp [Spec.place, Spec.erase, Spec.normalize]
  | .value names type values, h, placed => by
    simp only [Spec.walk, idsOf_append_eq_nil] at h
    simp [Spec.place, Spec.erase, Spec.normalize, Expr.eraseOption_free h.1.2,
      Expr.eraseList_place h.2]
  | .type name params isAlias type, h, _ => by
    simp only [Spec.place, Spec.normalize, Placing.pure_apply]
    exact Spec.erase_free h

theorem Spec.eraseList_place : ∀ {specs : List Spec},
    plan.backend.idsOf (Spec.walkList everywhere specs) = [] → ∀ placed,
      Spec.eraseList plan.backend.isProbe (Spec.placeList (next plan.probe) specs placed).1 =
        Spec.normalizeList specs
  | [], _, _ => by simp [Spec.placeList, Spec.eraseList, Spec.normalizeList]
  | spec :: rest, h, placed => by
    rw [Spec.walkList, idsOf_append_eq_nil] at h
    simp [Spec.placeList, Spec.eraseList, Spec.normalizeList, spec.erase_place h.1,
      Spec.eraseList_place h.2]

theorem GenDecl.erase_place : ∀ {decl : GenDecl}, plan.backend.idsOf (decl.walk everywhere) = [] →
    ∀ placed, (decl.place (next plan.probe) placed).1.erase plan.backend.isProbe = decl.normalize
  | ⟨kind, specs, grouped⟩, h, placed => by
    rw [GenDecl.walk, idsOf_cons_eq_nil] at h
    simp [GenDecl.place, GenDecl.erase, GenDecl.normalize, Spec.eraseList_place h.2]

theorem Stmt.erase_place : ∀ {stmt : Stmt},
    plan.backend.idsOf (stmt.walk everywhere) = [] → ∀ placed,
    (stmt.place (next plan.probe) placed).1.erase plan.backend.isProbe = stmt.normalize
  | .empty, _, _ | .branch _ _, _, _ => by simp [Stmt.place, Stmt.erase, Stmt.normalize]
  | .decl decl, h, placed => by
    rw [Stmt.walk, idsOf_cons_eq_nil] at h
    simp [Stmt.place, Stmt.erase, Stmt.normalize, decl.erase_place h.2]
  | .labeled label stmt, h, placed => by
    rw [Stmt.walk, idsOf_cons_eq_nil] at h
    simp [Stmt.place, Stmt.erase, Stmt.normalize, stmt.erase_place h.2]
  | .expr x, h, placed | .incDec x _, h, placed | .go x, h, placed | .defer x, h, placed => by
    rw [Stmt.walk, idsOf_cons_eq_nil] at h
    simp [Stmt.place, Stmt.erase, Stmt.normalize, x.erase_place h.2]
  | .send chan value, h, placed => by
    simp only [Stmt.walk, idsOf_append_eq_nil, idsOf_cons_eq_nil] at h
    simp [Stmt.place, Stmt.erase, Stmt.normalize, chan.erase_place h.1.2, value.erase_place h.2]
  | .assign lhs op rhs, h, placed => by
    simp only [Stmt.walk, idsOf_append_eq_nil, idsOf_cons_eq_nil] at h
    simp [Stmt.place, Stmt.erase, Stmt.normalize, Expr.eraseList_place h.1.2,
      Expr.eraseList_place h.2]
  | .return results, h, placed => by
    rw [Stmt.walk, idsOf_cons_eq_nil] at h
    simp [Stmt.place, Stmt.erase, Stmt.normalize, Expr.eraseList_place h.2]
  | .block body, h, placed => by
    simp only [Stmt.walk, idsOf_cons_eq_nil] at h
    have hbody := Placing.eraseList_arm plan (Stmt.eraseList_place h.2.2 true)
    simp [Stmt.place, Stmt.erase, Stmt.normalize, hbody]
  | .ifElse stmt, h, placed => by
    rw [Stmt.walk, idsOf_cons_eq_nil] at h
    simp [Stmt.place, Stmt.erase, Stmt.normalize, stmt.erase_place h.2]
  | .switch init tag clauses, h, placed => by
    simp only [Stmt.walk, idsOf_append_eq_nil, idsOf_cons_eq_nil] at h
    obtain ⟨⟨⟨-, hinit⟩, htag⟩, hclauses⟩ := h
    simp [Stmt.place, Stmt.erase, Stmt.normalize, Stmt.eraseOption_place hinit,
      Expr.eraseOption_place htag, CaseClause.eraseList_place hclauses, CaseClause.missing]
  | .typeSwitch init assign clauses, h, placed => by
    simp only [Stmt.walk, idsOf_append_eq_nil, idsOf_cons_eq_nil] at h
    obtain ⟨⟨⟨-, hinit⟩, hassign⟩, hclauses⟩ := h
    simp [Stmt.place, Stmt.erase, Stmt.normalize, Stmt.eraseOption_place hinit,
      assign.erase_place hassign, CaseClause.eraseList_place hclauses, CaseClause.missing]
  | .select clauses, h, placed => by
    rw [Stmt.walk, idsOf_cons_eq_nil] at h
    simp [Stmt.place, Stmt.erase, Stmt.normalize, CommClause.eraseList_place h.2]
  | .loop init cond post body, h, placed => by
    simp only [Stmt.walk, idsOf_append_eq_nil, idsOf_cons_eq_nil] at h
    obtain ⟨⟨⟨⟨-, hinit⟩, hcond⟩, hpost⟩, -, hbody⟩ := h
    have hbody := Placing.eraseList_arm plan (Stmt.eraseList_place hbody true)
    simp [Stmt.place, Stmt.erase, Stmt.normalize, Stmt.eraseOption_place hinit,
      Expr.eraseOption_place hcond, Stmt.eraseOption_place hpost, hbody]
  | .range key value define x body, h, placed => by
    simp only [Stmt.walk, idsOf_append_eq_nil, idsOf_cons_eq_nil] at h
    obtain ⟨⟨⟨⟨-, hkey⟩, hvalue⟩, hx⟩, -, hbody⟩ := h
    have hbody := Placing.eraseList_arm plan (Stmt.eraseList_place hbody true)
    simp [Stmt.place, Stmt.erase, Stmt.normalize, Expr.eraseOption_free hkey,
      Expr.eraseOption_free hvalue, x.erase_place hx, hbody]

theorem Stmt.eraseOption_place : ∀ {stmt : Option Stmt},
    plan.backend.idsOf (Stmt.walkOption everywhere stmt) = [] → ∀ placed,
      Stmt.eraseOption plan.backend.isProbe (Stmt.placeOption (next plan.probe) stmt placed).1 =
        Stmt.normalizeOption stmt
  | none, _, _ => by simp [Stmt.placeOption, Stmt.eraseOption, Stmt.normalizeOption]
  | some stmt, h, placed => by
    rw [Stmt.walkOption] at h
    simp [Stmt.placeOption, Stmt.eraseOption, Stmt.normalizeOption, stmt.erase_place h]

theorem Stmt.eraseList_place : ∀ {body : List Stmt},
    plan.backend.idsOf (Stmt.walkList everywhere body) = [] → ∀ reachable placed,
      Stmt.eraseList plan.backend.isProbe
          (Stmt.placeList (next plan.probe) reachable body placed).1 =
        Stmt.normalizeList body
  | [], _, _, _ => by simp [Stmt.placeList, Stmt.eraseList, Stmt.normalizeList]
  | stmt :: rest, h, reachable, placed => by
    rw [Stmt.walkList, idsOf_append_eq_nil] at h
    -- the probe before the statement goes, and the statement itself is not taken for one
    have hform (placed : Nat) :
        plan.backend.isProbe (stmt.place (next plan.probe) placed).1 = false :=
      Backend.isProbe_place (Backend.isProbe_of_walk h.1)
    cases reachable <;>
      simp [Stmt.placeList, Stmt.eraseList, Stmt.normalizeList, hform,
        stmt.erase_place h.1, Stmt.eraseList_place h.2]

theorem IfStmt.erase_place : ∀ {stmt : IfStmt}, plan.backend.idsOf (stmt.walk everywhere) = [] →
    ∀ placed, (stmt.place (next plan.probe) placed).1.erase plan.backend.isProbe = stmt.normalize
  | ⟨init, cond, body, none⟩, h, placed => by
    simp only [IfStmt.walk, idsOf_append_eq_nil, idsOf_cons_eq_nil] at h
    obtain ⟨⟨⟨⟨-, hinit⟩, hcond⟩, -, hbody⟩, -⟩ := h
    have hbody := Placing.eraseList_arm plan (Stmt.eraseList_place hbody true)
    simp [IfStmt.place, IfStmt.erase, IfStmt.normalize, Stmt.eraseOption_place hinit,
      cond.erase_place hcond, hbody, Stmt.eraseList]
  | ⟨init, cond, body, some (.block other)⟩, h, placed => by
    simp only [IfStmt.walk, idsOf_append_eq_nil, idsOf_cons_eq_nil] at h
    obtain ⟨⟨⟨⟨-, hinit⟩, hcond⟩, -, hbody⟩, -, hother⟩ := h
    have hbody := Placing.eraseList_arm plan (Stmt.eraseList_place hbody true)
    have hother := Placing.eraseList_arm plan (Stmt.eraseList_place hother true)
    simp [IfStmt.place, IfStmt.erase, IfStmt.normalize, Stmt.eraseOption_place hinit,
      cond.erase_place hcond, hbody, hother]
  | ⟨init, cond, body, some (.elseIf other)⟩, h, placed => by
    simp only [IfStmt.walk, idsOf_append_eq_nil, idsOf_cons_eq_nil] at h
    obtain ⟨⟨⟨⟨-, hinit⟩, hcond⟩, -, hbody⟩, hother⟩ := h
    have hbody := Placing.eraseList_arm plan (Stmt.eraseList_place hbody true)
    simp [IfStmt.place, IfStmt.erase, IfStmt.normalize, Stmt.eraseOption_place hinit,
      cond.erase_place hcond, hbody, other.erase_place hother, Stmt.eraseList, Stmt.erase,
      Backend.isProbe_ifElse_place]

theorem CaseClause.erase_place : ∀ {clause : CaseClause},
    plan.backend.idsOf (clause.walk everywhere) = [] → ∀ placed,
      (clause.place (next plan.probe) placed).1.erase plan.backend.isProbe = clause.normalize
  | .cases labels body, h, placed => by
    simp only [CaseClause.walk, idsOf_append_eq_nil, idsOf_cons_eq_nil] at h
    have hbody := Placing.eraseList_arm plan (Stmt.eraseList_place h.2 true)
    simp [CaseClause.place, CaseClause.erase, CaseClause.normalize, Expr.eraseList_place h.1.2,
      hbody]
  | .default body, h, placed => by
    rw [CaseClause.walk, idsOf_cons_eq_nil] at h
    have hbody := Placing.eraseList_arm plan (Stmt.eraseList_place h.2 true)
    simp [CaseClause.place, CaseClause.erase, CaseClause.normalize, hbody]

theorem CaseClause.eraseList_place : ∀ {clauses : List CaseClause},
    plan.backend.idsOf (CaseClause.walkList everywhere clauses) = [] → ∀ needsDefault placed,
      CaseClause.eraseList plan.backend.isProbe
          (CaseClause.placeList (next plan.probe) needsDefault clauses placed).1 =
        CaseClause.normalizeList clauses ++ if needsDefault then [.default []] else []
  | [], _, needsDefault, _ => by
    cases needsDefault <;>
      simp [CaseClause.placeList, CaseClause.eraseList, CaseClause.normalizeList,
        CaseClause.erase, Stmt.eraseList]
  | clause :: rest, h, needsDefault, placed => by
    rw [CaseClause.walkList, idsOf_append_eq_nil] at h
    simp [CaseClause.placeList, CaseClause.eraseList, CaseClause.normalizeList,
      clause.erase_place h.1, CaseClause.eraseList_place h.2]

theorem CommClause.erase_place : ∀ {clause : CommClause},
    plan.backend.idsOf (clause.walk everywhere) = [] → ∀ placed,
      (clause.place (next plan.probe) placed).1.erase plan.backend.isProbe = clause.normalize
  | .comm stmt body, h, placed => by
    simp only [CommClause.walk, idsOf_append_eq_nil, idsOf_cons_eq_nil] at h
    have hbody := Placing.eraseList_arm plan (Stmt.eraseList_place h.2 true)
    simp [CommClause.place, CommClause.erase, CommClause.normalize, stmt.erase_place h.1.2, hbody]
  | .default body, h, placed => by
    rw [CommClause.walk, idsOf_cons_eq_nil] at h
    have hbody := Placing.eraseList_arm plan (Stmt.eraseList_place h.2 true)
    simp [CommClause.place, CommClause.erase, CommClause.normalize, hbody]

theorem CommClause.eraseList_place : ∀ {clauses : List CommClause},
    plan.backend.idsOf (CommClause.walkList everywhere clauses) = [] → ∀ placed,
      CommClause.eraseList plan.backend.isProbe
          (CommClause.placeList (next plan.probe) clauses placed).1 =
        CommClause.normalizeList clauses
  | [], _, _ => by simp [CommClause.placeList, CommClause.eraseList, CommClause.normalizeList]
  | clause :: rest, h, placed => by
    rw [CommClause.walkList, idsOf_append_eq_nil] at h
    simp [CommClause.placeList, CommClause.eraseList, CommClause.normalizeList,
      clause.erase_place h.1, CommClause.eraseList_place h.2]

end

/-- Without its probes, a placed body is the normal form of the body before placement. -/
theorem Stmt.eraseList_placeBody {body : Block}
    (hfree : plan.backend.idsOf (Stmt.walkList everywhere body) = []) (placed : Nat) :
    Stmt.eraseList plan.backend.isProbe (Stmt.placeBody (next plan.probe) body placed).1 =
      Stmt.normalizeList body :=
  Placing.eraseList_arm plan (Stmt.eraseList_place plan hfree true) placed

end

/-! ## The probed copy of a function -/

/-- Probing a function adds probes and the arms that its body leaves away, and nothing else. The
table backend puts the copy in place of the function, with the same name, receiver and signature;
the trace backend puts it beside the function, which stays as it is. -/
theorem ProbePlan.eraseList_probeFunc [WordHash] {plan : ProbePlan} {func : FuncDecl} {body : Block}
    {patch : Patch} {before after : Ledger} (hbody : func.body = some body)
    (hfree : plan.backend.Free (Stmt.walkList everywhere body))
    (hrun : (plan.probeFunc func).runOn before = (.ok (some patch), after)) :
    ∃ placed, patch.probed.body = some placed ∧
      Stmt.eraseList plan.backend.isProbe placed = Stmt.normalizeList body ∧
      (∀ tableName fileName, plan.backend = .table tableName fileName →
        patch = .replace { func with body := some placed }) ∧
      (∀ parameter maxLength, plan.backend = .trace parameter maxLength →
        patch = .shadow func patch.probed) := by
  obtain ⟨hpatch, -⟩ := patch_of_probeFunc hbody hrun
  refine ⟨(Stmt.placeBody (next plan.probe) body before.placed).1, ?_, ?_, ?_, ?_⟩
  · rw [hpatch, Backend.body_probed_finalize]
  · exact Stmt.eraseList_placeBody plan (Backend.free_iff.1 hfree) before.placed
  · intro tableName fileName hbackend
    rw [hpatch, hbackend]
    rfl
  · intro parameter maxLength hbackend
    rw [hpatch, hbackend]
    rfl

open Standard in
theorem ProbePlan.eraseList_probeFunc_sample :
    ∃ patch after,
      (probeFunc ⟨.table "hits" "hits.go", .hashed 16, []⟩ (.sample "f")).runOn { placed := 40 } =
        (.ok (some patch), after) ∧ after.placed = 51 ∧
      ∃ placed, patch = .replace { FuncDecl.sample "f" with body := some placed } ∧
        Stmt.eraseList (Backend.table "hits" "hits.go").isProbe placed =
          Stmt.normalizeList Stmt.sampleBody := by
  obtain ⟨patch, after, hrun, hplaced⟩ : ∃ patch after,
      (probeFunc ⟨.table "hits" "hits.go", .hashed 16, []⟩ (.sample "f")).runOn { placed := 40 } =
        (.ok (some patch), after) ∧ after.placed = 51 := ⟨_, _, rfl, rfl⟩
  obtain ⟨placed, -, herase, htable, -⟩ :=
    eraseList_probeFunc rfl (Backend.free_iff.2 rfl) hrun
  exact ⟨patch, after, hrun, hplaced, placed, htable _ _ rfl, herase⟩

end GoProbe
