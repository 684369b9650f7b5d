import GoProbe.Proofs.Addresses
import GoProbe.Proofs.Placing

/-!
# How a placement changes parts

A placement keeps the parts of a node in order. It goes into some of them, leaves others alone, and
adds parts that hold one new probe: a statement, the missing list of an `if`, the missing clause of
a switch. An `else if` comes into a list of its own, after its probe. `Grown` says this of lists of
parts, and `Node.grown_place` of the parts of every node. It is the one statement about placements
that looks at all forms; what holds of whole trees follows by `Node.induct`.
-/

namespace GoProbe

open Placing (next)

variable {probe : Nat → Stmt} {parts parts' more more' : List Node} {placed between last : Nat}

/-- What a placement makes of a node. It goes into declarations of values and not into those of
functions, whose bodies are placed on their own. -/
def Node.place (probe : Nat → Stmt) : Node → Placing Node
  | gen g => do return .gen (← g.place (next probe))
  | block body => do return .block (← Stmt.placeBody (next probe) body)
  | stmt s => do return .stmt (← s.place (next probe))
  | ifElse s => do return .ifElse (← s.place (next probe))
  | caseClause clause => do return .caseClause (← clause.place (next probe))
  | commClause clause => do return .commClause (← clause.place (next probe))
  | expr x => do return .expr (← x.place (next probe))
  | decl d => return .decl d
  | func f => return .func f
  | field f => return .field f
  | ident id => return .ident id

/-- The parts that hold one new probe. -/
def Stmt.asPart (stmt : Stmt) : List Node :=
  [.stmt stmt, .block [stmt], .caseClause (.default [stmt])]

/-- What a placement makes of a list of parts, from one number of placed probes to the next. -/
inductive Grown (probe : Nat → Stmt) : List Node → Nat → List Node → Nat → Prop where
  | nil (placed : Nat) : Grown probe [] placed [] placed
  | kept (part : Node) {parts parts' : List Node} {placed last : Nat}
      (h : Grown probe parts placed parts' last) :
      Grown probe (part :: parts) placed (part :: parts') last
  | placed (part : Node) {parts parts' : List Node} {placed last : Nat}
      (h : Grown probe parts (part.place probe placed).2 parts' last) :
      Grown probe (part :: parts) placed ((part.place probe placed).1 :: parts') last
  | added {part : Node} {parts parts' : List Node} {placed last : Nat}
      (hpart : part ∈ (probe (placed + 1)).asPart)
      (h : Grown probe parts (placed + 1) parts' last) :
      Grown probe parts placed (part :: parts') last
  | nested (stmt : IfStmt) {parts parts' : List Node} {placed last : Nat}
      (h : Grown probe parts (stmt.place (next probe) (placed + 1)).2 parts' last) :
      Grown probe (.ifElse stmt :: parts) placed
        (.block [probe (placed + 1), .ifElse (stmt.place (next probe) (placed + 1)).1] :: parts')
        last

namespace Grown

theorem append (h : Grown probe parts placed parts' between)
    (hmore : Grown probe more between more' last) :
    Grown probe (parts ++ more) placed (parts' ++ more') last := by
  induction h with
  | nil => exact hmore
  | kept part _ ih => exact .kept part (ih hmore)
  | placed part _ ih => exact .placed part (ih hmore)
  | added hpart _ ih => exact .added hpart (ih hmore)
  | nested stmt _ ih => exact .nested stmt (ih hmore)

theorem refl (parts : List Node) (placed : Nat) : Grown probe parts placed parts placed := by
  induction parts with
  | nil => exact .nil placed
  | cons part parts ih => exact .kept part ih

theorem single (part : Node) (placed : Nat) :
    Grown probe [part] placed [(part.place probe placed).1] (part.place probe placed).2 :=
  .placed part (.nil _)

end Grown

/-! ## Lists of parts -/

theorem Expr.grown_placeList (xs : List Expr) (placed : Nat) :
    Grown probe (xs.map .expr) placed ((Expr.placeList (next probe) xs placed).1.map .expr)
      (Expr.placeList (next probe) xs placed).2 := by
  induction xs generalizing placed with
  | nil => exact .nil placed
  | cons x xs ih => exact .placed (.expr x) (ih _)

theorem Expr.grown_placeOption (x : Option Expr) (placed : Nat) :
    Grown probe (x.toList.map .expr) placed
      ((Expr.placeOption (next probe) x placed).1.toList.map .expr)
      (Expr.placeOption (next probe) x placed).2 := by
  cases x with
  | none => exact .nil placed
  | some x => exact .single (.expr x) placed

theorem Stmt.grown_placeOption (stmt : Option Stmt) (placed : Nat) :
    Grown probe (stmt.toList.map .stmt) placed
      ((Stmt.placeOption (next probe) stmt placed).1.toList.map .stmt)
      (Stmt.placeOption (next probe) stmt placed).2 := by
  cases stmt with
  | none => exact .nil placed
  | some stmt => exact .single (.stmt stmt) placed

theorem Stmt.grown_placeList (body : Block) (reachable : Bool) (placed : Nat) :
    Grown probe (body.map .stmt) placed
      ((Stmt.placeList (next probe) reachable body placed).1.map .stmt)
      (Stmt.placeList (next probe) reachable body placed).2 := by
  induction body generalizing reachable placed with
  | nil => exact .nil placed
  | cons stmt body ih =>
    cases reachable with
    | false => exact .placed (.stmt stmt) (ih _ _)
    | true => exact .added List.mem_cons_self (.placed (.stmt stmt) (ih _ _))

/-- An empty list gets a probe. -/
theorem Stmt.grown_placeBody (body : Block) (placed : Nat) :
    Grown probe (body.map .stmt) placed ((Stmt.placeBody (next probe) body placed).1.map .stmt)
      (Stmt.placeBody (next probe) body placed).2 := by
  cases body with
  | nil => exact .added List.mem_cons_self (.nil _)
  | cons stmt body => exact Stmt.grown_placeList (stmt :: body) true placed

theorem CaseClause.grown_placeList (clauses : List CaseClause) (needsDefault : Bool)
    (placed : Nat) :
    Grown probe (clauses.map .caseClause) placed
      ((CaseClause.placeList (next probe) needsDefault clauses placed).1.map .caseClause)
      (CaseClause.placeList (next probe) needsDefault clauses placed).2 := by
  induction clauses generalizing placed with
  | nil =>
    cases needsDefault with
    | false => exact .nil placed
    | true => exact .added (by simp [Stmt.asPart]) (.nil _)
  | cons clause clauses ih => exact .placed (.caseClause clause) (ih _)

theorem CommClause.grown_placeList (clauses : List CommClause) (placed : Nat) :
    Grown probe (clauses.map .commClause) placed
      ((CommClause.placeList (next probe) clauses placed).1.map .commClause)
      (CommClause.placeList (next probe) clauses placed).2 := by
  induction clauses generalizing placed with
  | nil => exact .nil placed
  | cons clause clauses ih => exact .placed (.commClause clause) (ih _)

theorem Spec.grown_placeList (specs : List Spec) (placed : Nat) :
    Grown probe (specs.flatMap Spec.parts) placed
      ((Spec.placeList (next probe) specs placed).1.flatMap Spec.parts)
      (Spec.placeList (next probe) specs placed).2 := by
  induction specs generalizing placed with
  | nil => exact .nil placed
  | cons spec specs ih =>
    cases spec with
    | imports spec => exact ih placed
    | value names typed values =>
      exact ((Grown.refl _ placed).append (Expr.grown_placeList values placed)).append (ih _)
    | type name params isAlias named => exact (Grown.refl _ placed).append (ih placed)

/-! ## Parts of nodes -/

theorem Expr.grown_place (x : Expr) (placed : Nat) :
    Grown probe x.parts placed (x.place (next probe) placed).1.parts
      (x.place (next probe) placed).2 := by
  cases x with
  | compositeLit type elements =>
    exact (Grown.refl _ placed).append (Expr.grown_placeList elements placed)
  | funcLit type body => exact (Grown.refl _ placed).append (.single (.block body) placed)
  | paren x | star x | unary op x constant => exact .single (.expr x) placed
  | selector x sel => exact .placed (.expr x) (.refl _ _)
  | typeAssert x type => exact .placed (.expr x) (.refl _ _)
  | index x args | call x args spread => exact .placed (.expr x) (Expr.grown_placeList args _)
  | slice x low high max =>
    exact (Grown.placed (.expr x) (Expr.grown_placeOption low _)).append
      (Expr.grown_placeOption high _) |>.append (Expr.grown_placeOption max _)
  | binary x op y => exact .placed (.expr x) (.single (.expr y) _)
  | keyValue x y => exact .placed (.expr x) (.single (.expr y) _)
  | ident | basicLit | arrayType | structType | funcType | interfaceType | mapType | chanType
  | ellipsis => exact .refl _ placed

theorem Stmt.grown_place (stmt : Stmt) (placed : Nat) :
    Grown probe stmt.parts placed (stmt.place (next probe) placed).1.parts
      (stmt.place (next probe) placed).2 := by
  cases stmt with
  | decl group => exact .single (.gen group) placed
  | empty | branch => exact .nil placed
  | labeled label stmt => exact .single (.stmt stmt) placed
  | expr x | incDec x op | go x | defer x => exact .single (.expr x) placed
  | send x y => exact .placed (.expr x) (.single (.expr y) _)
  | assign lhs op rhs =>
    exact (Expr.grown_placeList lhs placed).append (Expr.grown_placeList rhs _)
  | «return» results => exact Expr.grown_placeList results placed
  | block body => exact .single (.block body) placed
  | ifElse stmt => exact .single (.ifElse stmt) placed
  | switch init tag clauses =>
    exact ((Stmt.grown_placeOption init placed).append (Expr.grown_placeOption tag _)).append
      (CaseClause.grown_placeList clauses _ _)
  | typeSwitch init guarded clauses =>
    exact (Stmt.grown_placeOption init placed).append
      (.placed (.stmt guarded) (CaseClause.grown_placeList clauses _ _))
  | select clauses => exact CommClause.grown_placeList clauses placed
  | loop init cond post body =>
    exact ((Stmt.grown_placeOption init placed).append (Expr.grown_placeOption cond _)).append
      (Stmt.grown_placeOption post _) |>.append (.single (.block body) _)
  | range key value define x body =>
    exact (Grown.refl _ placed).append (.placed (.expr x) (.single (.block body) _))

theorem IfStmt.grown_place (stmt : IfStmt) (placed : Nat) :
    Grown probe (Node.ifElse stmt).parts placed
      (Node.ifElse (stmt.place (next probe) placed).1).parts
      (stmt.place (next probe) placed).2 := by
  obtain ⟨init, cond, body, otherwise⟩ := stmt
  match otherwise with
  | none =>
    exact (Stmt.grown_placeOption init placed).append
      (.placed (.expr cond) (.single (.block body) _)) |>.append
      (.added (List.mem_cons_of_mem _ List.mem_cons_self) (.nil _))
  | some (.block other) =>
    exact (Stmt.grown_placeOption init placed).append
      (.placed (.expr cond) (.single (.block body) _)) |>.append (.single (.block other) _)
  | some (.elseIf other) =>
    exact (Stmt.grown_placeOption init placed).append
      (.placed (.expr cond) (.single (.block body) _)) |>.append (.nested other (.nil _))

/-- The parts of a node after a placement. -/
theorem Node.grown_place (node : Node) (placed : Nat) :
    Grown probe node.parts placed (node.place probe placed).1.parts
      (node.place probe placed).2 := by
  match node with
  | gen ⟨kind, specs, grouped⟩ => exact Spec.grown_placeList specs placed
  | block body => exact Stmt.grown_placeBody body placed
  | stmt s => exact s.grown_place placed
  | ifElse s => exact s.grown_place placed
  | caseClause (.cases labels body) =>
    exact (Expr.grown_placeList labels placed).append (Stmt.grown_placeBody body _)
  | caseClause (.default body) => exact Stmt.grown_placeBody body placed
  | commClause (.comm comm body) => exact .placed (.stmt comm) (Stmt.grown_placeBody body _)
  | commClause (.default body) => exact Stmt.grown_placeBody body placed
  | expr x => exact x.grown_place placed
  | decl _ | func _ | field _ | ident _ => exact .refl _ placed

end GoProbe
