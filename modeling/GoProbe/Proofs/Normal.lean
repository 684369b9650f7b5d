import GoProbe.Probe.Placement

/-!
# Trees with all their arms

The normal form of a tree spells out the arms that Go lets a program leave away: an `if` has an
`else` with a list of statements, so that `else if` is an `if` inside that list, and an expression
or type switch has a default clause. A `select` keeps its clauses. Nothing else changes, and the
parts that no probe can reach (types, and the key and value of a range) are kept whole.

All lists of a tree are taken item by item: no statement, clause or operand is dropped or moved.
-/

namespace GoProbe

/-- The default clause, with an empty list, that a switch lacks. -/
def CaseClause.missing (clauses : List CaseClause) : List CaseClause :=
  if CaseClause.needsDefault clauses then [.default []] else []

mutual

def Expr.normalize : Expr → Expr
  | .ident id => .ident id
  | .basicLit lit => .basicLit lit
  | .compositeLit type elements => .compositeLit type (Expr.normalizeList elements)
  | .funcLit type body => .funcLit type (Stmt.normalizeList body)
  | .paren x => .paren x.normalize
  | .selector x sel => .selector x.normalize sel
  | .index x indices => .index x.normalize (Expr.normalizeList indices)
  | .slice x low high max =>
    .slice x.normalize (Expr.normalizeOption low) (Expr.normalizeOption high)
      (Expr.normalizeOption max)
  | .typeAssert x type => .typeAssert x.normalize type
  | .call fn args spread => .call fn.normalize (Expr.normalizeList args) spread
  | .star x => .star x.normalize
  | .unary op x constant => .unary op x.normalize constant
  | .binary x op y => .binary x.normalize op y.normalize
  | .keyValue key value => .keyValue key.normalize value.normalize
  | .arrayType length element => .arrayType length element
  | .structType fields => .structType fields
  | .funcType type => .funcType type
  | .interfaceType methods => .interfaceType methods
  | .mapType key value => .mapType key value
  | .chanType dir value => .chanType dir value
  | .ellipsis element => .ellipsis element

def Expr.normalizeOption : Option Expr → Option Expr
  | none => none
  | some x => some x.normalize

def Expr.normalizeList : List Expr → List Expr
  | [] => []
  | x :: rest => x.normalize :: Expr.normalizeList rest

def Spec.normalize : Spec → Spec
  | .imports spec => .imports spec
  | .value names type values => .value names type (Expr.normalizeList values)
  | .type name params isAlias type => .type name params isAlias type

def Spec.normalizeList : List Spec → List Spec
  | [] => []
  | spec :: rest => spec.normalize :: Spec.normalizeList rest

def GenDecl.normalize : GenDecl → GenDecl
  | ⟨kind, specs, grouped⟩ => ⟨kind, Spec.normalizeList specs, grouped⟩

def Stmt.normalize : Stmt → Stmt
  | .decl decl => .decl decl.normalize
  | .empty => .empty
  | .labeled label stmt => .labeled label stmt.normalize
  | .expr x => .expr x.normalize
  | .send chan value => .send chan.normalize value.normalize
  | .incDec x op => .incDec x.normalize op
  | .assign lhs op rhs => .assign (Expr.normalizeList lhs) op (Expr.normalizeList rhs)
  | .go call => .go call.normalize
  | .defer call => .defer call.normalize
  | .return results => .return (Expr.normalizeList results)
  | .branch kind label => .branch kind label
  | .block body => .block (Stmt.normalizeList body)
  | .ifElse stmt => .ifElse stmt.normalize
  | .switch init tag clauses =>
    .switch (Stmt.normalizeOption init) (Expr.normalizeOption tag)
      (CaseClause.normalizeList clauses ++ CaseClause.missing clauses)
  | .typeSwitch init assign clauses =>
    .typeSwitch (Stmt.normalizeOption init) assign.normalize
      (CaseClause.normalizeList clauses ++ CaseClause.missing clauses)
  | .select clauses => .select (CommClause.normalizeList clauses)
  | .loop init cond post body =>
    .loop (Stmt.normalizeOption init) (Expr.normalizeOption cond) (Stmt.normalizeOption post)
      (Stmt.normalizeList body)
  | .range key value define x body =>
    .range key value define x.normalize (Stmt.normalizeList body)

def Stmt.normalizeOption : Option Stmt → Option Stmt
  | none => none
  | some stmt => some stmt.normalize

def Stmt.normalizeList : List Stmt → List Stmt
  | [] => []
  | stmt :: rest => stmt.normalize :: Stmt.normalizeList rest

def IfStmt.normalize : IfStmt → IfStmt
  | ⟨init, cond, body, otherwise⟩ =>
    { init := Stmt.normalizeOption init
      cond := cond.normalize
      body := Stmt.normalizeList body
      otherwise := some <| .block <|
        match otherwise with
        | none => []
        | some (.block body) => Stmt.normalizeList body
        | some (.elseIf stmt) => [.ifElse stmt.normalize] }

def CaseClause.normalize : CaseClause → CaseClause
  | .cases labels body => .cases (Expr.normalizeList labels) (Stmt.normalizeList body)
  | .default body => .default (Stmt.normalizeList body)

def CaseClause.normalizeList : List CaseClause → List CaseClause
  | [] => []
  | clause :: rest => clause.normalize :: CaseClause.normalizeList rest

def CommClause.normalize : CommClause → CommClause
  | .comm stmt body => .comm stmt.normalize (Stmt.normalizeList body)
  | .default body => .default (Stmt.normalizeList body)

def CommClause.normalizeList : List CommClause → List CommClause
  | [] => []
  | clause :: rest => clause.normalize :: CommClause.normalizeList rest

end

/-- A body in which arms are missing: an `else` after an `else if`, a default clause, and all the
statements of a closure. The last statement comes after a `return`. -/
def Stmt.sampleBody : Block :=
  [.ifElse ⟨none, .name "n", [.return []], some (.elseIf ⟨none, .name "m", [], none⟩)⟩,
   .switch none none [],
   .select [],
   .expr (.apply (.name "f") [.funcLit ⟨[], []⟩ []]),
   .return [],
   .incDec (.name "n") .inc]

example : Stmt.normalizeList Stmt.sampleBody =
    [.ifElse ⟨none, .name "n", [.return []],
       some (.block [.ifElse ⟨none, .name "m", [], some (.block [])⟩])⟩,
     .switch none none [.default []],
     .select [],
     .expr (.apply (.name "f") [.funcLit ⟨[], []⟩ []]),
     .return [],
     .incDec (.name "n") .inc] := rfl

/-- A function with the sample body. -/
def FuncDecl.sample (name : String) : FuncDecl :=
  { name
    receiver := none
    typeParams := []
    signature := ⟨[], []⟩
    body := some Stmt.sampleBody
    position := default }

end GoProbe
