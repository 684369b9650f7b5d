import GoProbe.Tree.Basic

/-!
# Where probes stand

* In a list of statements every statement up to and including the first `return` has a probe
  before it; an empty list gets one probe.
* An `if` without `else` gets an `else` with an empty list, and an `else if` becomes an `if` in a
  list of its own.
* An expression or type switch without default clause gets one, with an empty list, at the end. A
  `select` does not: with a default clause it would no longer wait.
* Function literals belong to the function around them.

The lists are those of function bodies, blocks, branches, clauses and loops. Types, and the key
and value of a range, are left alone.

A placement goes through the tree in the order of the text and takes each probe from `next`. What
stands behind `next` is left to the caller: it may count, keep a record or fail.
-/

namespace GoProbe

variable {m : Type → Type} [Monad m]

/-- One probe for an empty list; any other list as `placed` has it. -/
def Stmt.placeArm (next : m Stmt) (body : Block) (placed : m Block) : m Block :=
  match body with
  | [] => do return [← next]
  | _ => placed

/-- Whether none of the clauses is a default clause. -/
def CaseClause.needsDefault (clauses : List CaseClause) : Bool :=
  !clauses.any CaseClause.isDefault

mutual

/-- Only function literals change; types are left alone. -/
def Expr.place (next : m Stmt) : Expr → m Expr
  | .ident id => return .ident id
  | .basicLit lit => return .basicLit lit
  | .compositeLit type elements => do
    return .compositeLit type (← Expr.placeList next elements)
  | .funcLit type body => do
    return .funcLit type (← Stmt.placeArm next body (Stmt.placeList next true body))
  | .paren x => do return .paren (← x.place next)
  | .selector x sel => do return .selector (← x.place next) sel
  | .index x indices => do
    let x ← x.place next
    return .index x (← Expr.placeList next indices)
  | .slice x low high max => do
    let x ← x.place next
    let low ← Expr.placeOption next low
    let high ← Expr.placeOption next high
    let max ← Expr.placeOption next max
    return .slice x low high max
  | .typeAssert x type => do return .typeAssert (← x.place next) type
  | .call fn args spread => do
    let fn ← fn.place next
    let args ← Expr.placeList next args
    return .call fn args spread
  | .star x => do return .star (← x.place next)
  | .unary op x constant => do return .unary op (← x.place next) constant
  | .binary x op y => do
    let x ← x.place next
    let y ← y.place next
    return .binary x op y
  | .keyValue key value => do
    let key ← key.place next
    let value ← value.place next
    return .keyValue key value
  | .arrayType length element => return .arrayType length element
  | .structType fields => return .structType fields
  | .funcType type => return .funcType type
  | .interfaceType methods => return .interfaceType methods
  | .mapType key value => return .mapType key value
  | .chanType dir value => return .chanType dir value
  | .ellipsis element => return .ellipsis element

def Expr.placeOption (next : m Stmt) : Option Expr → m (Option Expr)
  | none => return none
  | some x => do return some (← x.place next)

def Expr.placeList (next : m Stmt) : List Expr → m (List Expr)
  | [] => return []
  | x :: rest => do
    let x ← x.place next
    let rest ← Expr.placeList next rest
    return x :: rest

def Spec.place (next : m Stmt) : Spec → m Spec
  | .imports spec => return .imports spec
  | .value names type values => do return .value names type (← Expr.placeList next values)
  | .type name params isAlias type => return .type name params isAlias type

def Spec.placeList (next : m Stmt) : List Spec → m (List Spec)
  | [] => return []
  | spec :: rest => do
    let spec ← spec.place next
    let rest ← Spec.placeList next rest
    return spec :: rest

def GenDecl.place (next : m Stmt) : GenDecl → m GenDecl
  | ⟨kind, specs, grouped⟩ => do return ⟨kind, ← Spec.placeList next specs, grouped⟩

def Stmt.place (next : m Stmt) : Stmt → m Stmt
  | .decl decl => do return .decl (← decl.place next)
  | .empty => return .empty
  | .labeled label stmt => do return .labeled label (← stmt.place next)
  | .expr x => do return .expr (← x.place next)
  | .send chan value => do
    let chan ← chan.place next
    let value ← value.place next
    return .send chan value
  | .incDec x op => do return .incDec (← x.place next) op
  | .assign lhs op rhs => do
    let lhs ← Expr.placeList next lhs
    let rhs ← Expr.placeList next rhs
    return .assign lhs op rhs
  | .go call => do return .go (← call.place next)
  | .defer call => do return .defer (← call.place next)
  | .return results => do return .return (← Expr.placeList next results)
  | .branch kind label => return .branch kind label
  | .block body => do
    return .block (← Stmt.placeArm next body (Stmt.placeList next true body))
  | .ifElse stmt => do return .ifElse (← stmt.place next)
  | .switch init tag clauses => do
    let init ← Stmt.placeOption next init
    let tag ← Expr.placeOption next tag
    let clauses ← CaseClause.placeList next (CaseClause.needsDefault clauses) clauses
    return .switch init tag clauses
  | .typeSwitch init assign clauses => do
    let init ← Stmt.placeOption next init
    let assign ← assign.place next
    let clauses ← CaseClause.placeList next (CaseClause.needsDefault clauses) clauses
    return .typeSwitch init assign clauses
  | .select clauses => do return .select (← CommClause.placeList next clauses)
  | .loop init cond post body => do
    let init ← Stmt.placeOption next init
    let cond ← Expr.placeOption next cond
    let post ← Stmt.placeOption next post
    let body ← Stmt.placeArm next body (Stmt.placeList next true body)
    return .loop init cond post body
  | .range key value define x body => do
    let x ← x.place next
    let body ← Stmt.placeArm next body (Stmt.placeList next true body)
    return .range key value define x body

def Stmt.placeOption (next : m Stmt) : Option Stmt → m (Option Stmt)
  | none => return none
  | some stmt => do return some (← stmt.place next)

/-- The statements of a nonempty list; `reachable` until a `return` has been seen. -/
def Stmt.placeList (next : m Stmt) (reachable : Bool) : List Stmt → m (List Stmt)
  | [] => return []
  | stmt :: rest => do
    let before ← if reachable then do pure [← next] else pure []
    let placed ← stmt.place next
    let rest ← Stmt.placeList next (reachable && !stmt.isReturn) rest
    return before ++ placed :: rest

def IfStmt.place (next : m Stmt) : IfStmt → m IfStmt
  | ⟨init, cond, body, otherwise⟩ => do
    let init ← Stmt.placeOption next init
    let cond ← cond.place next
    let body ← Stmt.placeArm next body (Stmt.placeList next true body)
    let otherwise ← match otherwise with
      | none => do pure [← next]
      | some (.block body) => Stmt.placeArm next body (Stmt.placeList next true body)
      | some (.elseIf stmt) => do
        let before ← next
        let stmt ← stmt.place next
        pure [before, .ifElse stmt]
    return ⟨init, cond, body, some (.block otherwise)⟩

def CaseClause.place (next : m Stmt) : CaseClause → m CaseClause
  | .cases labels body => do
    let labels ← Expr.placeList next labels
    let body ← Stmt.placeArm next body (Stmt.placeList next true body)
    return .cases labels body
  | .default body => do
    return .default (← Stmt.placeArm next body (Stmt.placeList next true body))

/-- The clauses, and at the end a default clause if there has to be one. -/
def CaseClause.placeList (next : m Stmt) (needsDefault : Bool) :
    List CaseClause → m (List CaseClause)
  | [] => if needsDefault then do return [.default [← next]] else return []
  | clause :: rest => do
    let clause ← clause.place next
    let rest ← CaseClause.placeList next needsDefault rest
    return clause :: rest

def CommClause.place (next : m Stmt) : CommClause → m CommClause
  | .comm stmt body => do
    let stmt ← stmt.place next
    let body ← Stmt.placeArm next body (Stmt.placeList next true body)
    return .comm stmt body
  | .default body => do
    return .default (← Stmt.placeArm next body (Stmt.placeList next true body))

def CommClause.placeList (next : m Stmt) : List CommClause → m (List CommClause)
  | [] => return []
  | clause :: rest => do
    let clause ← clause.place next
    let rest ← CommClause.placeList next rest
    return clause :: rest

end

/-- The body of a function with its probes. -/
def Stmt.placeBody (next : m Stmt) (body : Block) : m Block :=
  Stmt.placeArm next body (Stmt.placeList next true body)

end GoProbe
