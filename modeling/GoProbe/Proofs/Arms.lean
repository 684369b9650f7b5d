import Mathlib
import GoProbe.Proofs.Addresses
import GoProbe.Proofs.Normal

/-!
# The arms of a tree

An arm is a list of statements in which probes can stand: the body of a function literal, a block,
a branch of an `if`, the body of a clause or of a loop. `arms` lists the outermost arms of a tree
in written order, and `skeleton` is what remains of the tree when they are emptied. An arm that the
source leaves away (the `else` of an `if`, the default clause of a switch) counts as an empty one.

Types, and the key and value of a range, have no arms. They are part of the skeleton.
-/

namespace GoProbe

/-- The empty arm of a switch without default clause. -/
def CaseClause.missingArms (clauses : List CaseClause) : List Block :=
  if CaseClause.needsDefault clauses then [[]] else []

/-! ## Outermost arms -/

mutual

def Expr.arms : Expr → List Block
  | .compositeLit _ elements => Expr.armsList elements
  | .funcLit _ body => [body]
  | .paren x => x.arms
  | .selector x _ => x.arms
  | .index x indices => x.arms ++ Expr.armsList indices
  | .slice x low high max =>
    x.arms ++ (Expr.armsOption low ++ (Expr.armsOption high ++ Expr.armsOption max))
  | .typeAssert x _ => x.arms
  | .call fn args _ => fn.arms ++ Expr.armsList args
  | .star x => x.arms
  | .unary _ x _ => x.arms
  | .binary x _ y => x.arms ++ y.arms
  | .keyValue key value => key.arms ++ value.arms
  | .ident _ | .basicLit _ | .arrayType _ _ | .structType _ | .funcType _ | .interfaceType _
  | .mapType _ _ | .chanType _ _ | .ellipsis _ => []

def Expr.armsOption : Option Expr → List Block
  | none => []
  | some x => x.arms

def Expr.armsList : List Expr → List Block
  | [] => []
  | x :: rest => x.arms ++ Expr.armsList rest

def Spec.arms : Spec → List Block
  | .value _ _ values => Expr.armsList values
  | .imports _ | .type _ _ _ _ => []

def Spec.armsList : List Spec → List Block
  | [] => []
  | spec :: rest => spec.arms ++ Spec.armsList rest

def GenDecl.arms : GenDecl → List Block
  | ⟨_, specs, _⟩ => Spec.armsList specs

def Stmt.arms : Stmt → List Block
  | .decl decl => decl.arms
  | .empty | .branch _ _ => []
  | .labeled _ stmt => stmt.arms
  | .expr x => x.arms
  | .send chan value => chan.arms ++ value.arms
  | .incDec x _ => x.arms
  | .assign lhs _ rhs => Expr.armsList lhs ++ Expr.armsList rhs
  | .go call => call.arms
  | .defer call => call.arms
  | .return results => Expr.armsList results
  | .block body => [body]
  | .ifElse stmt => stmt.arms
  | .switch init tag clauses =>
    Stmt.armsOption init ++ (Expr.armsOption tag ++
      (CaseClause.armsList clauses ++ CaseClause.missingArms clauses))
  | .typeSwitch init assign clauses =>
    Stmt.armsOption init ++ (assign.arms ++
      (CaseClause.armsList clauses ++ CaseClause.missingArms clauses))
  | .select clauses => CommClause.armsList clauses
  | .loop init cond post body =>
    Stmt.armsOption init ++ (Expr.armsOption cond ++ (Stmt.armsOption post ++ [body]))
  | .range _ _ _ x body => x.arms ++ [body]

def Stmt.armsOption : Option Stmt → List Block
  | none => []
  | some stmt => stmt.arms

def IfStmt.arms : IfStmt → List Block
  | ⟨init, cond, body, otherwise⟩ =>
    Stmt.armsOption init ++ (cond.arms ++ body ::
      match otherwise with
      | none => [[]]
      | some (.block body) => [body]
      | some (.elseIf stmt) => stmt.arms)

def CaseClause.arms : CaseClause → List Block
  | .cases labels body => Expr.armsList labels ++ [body]
  | .default body => [body]

def CaseClause.armsList : List CaseClause → List Block
  | [] => []
  | clause :: rest => clause.arms ++ CaseClause.armsList rest

def CommClause.arms : CommClause → List Block
  | .comm stmt body => stmt.arms ++ [body]
  | .default body => [body]

def CommClause.armsList : List CommClause → List Block
  | [] => []
  | clause :: rest => clause.arms ++ CommClause.armsList rest

end

/-! ## Skeletons -/

mutual

def Expr.skeleton : Expr → Expr
  | .ident id => .ident id
  | .basicLit lit => .basicLit lit
  | .compositeLit type elements => .compositeLit type (Expr.skeletonList elements)
  | .funcLit type _ => .funcLit type []
  | .paren x => .paren x.skeleton
  | .selector x sel => .selector x.skeleton sel
  | .index x indices => .index x.skeleton (Expr.skeletonList indices)
  | .slice x low high max =>
    .slice x.skeleton (Expr.skeletonOption low) (Expr.skeletonOption high)
      (Expr.skeletonOption max)
  | .typeAssert x type => .typeAssert x.skeleton type
  | .call fn args spread => .call fn.skeleton (Expr.skeletonList args) spread
  | .star x => .star x.skeleton
  | .unary op x constant => .unary op x.skeleton constant
  | .binary x op y => .binary x.skeleton op y.skeleton
  | .keyValue key value => .keyValue key.skeleton value.skeleton
  | .arrayType length element => .arrayType length element
  | .structType fields => .structType fields
  | .funcType type => .funcType type
  | .interfaceType methods => .interfaceType methods
  | .mapType key value => .mapType key value
  | .chanType dir value => .chanType dir value
  | .ellipsis element => .ellipsis element

def Expr.skeletonOption : Option Expr → Option Expr
  | none => none
  | some x => some x.skeleton

def Expr.skeletonList : List Expr → List Expr
  | [] => []
  | x :: rest => x.skeleton :: Expr.skeletonList rest

def Spec.skeleton : Spec → Spec
  | .imports spec => .imports spec
  | .value names type values => .value names type (Expr.skeletonList values)
  | .type name params isAlias type => .type name params isAlias type

def Spec.skeletonList : List Spec → List Spec
  | [] => []
  | spec :: rest => spec.skeleton :: Spec.skeletonList rest

def GenDecl.skeleton : GenDecl → GenDecl
  | ⟨kind, specs, grouped⟩ => ⟨kind, Spec.skeletonList specs, grouped⟩

def Stmt.skeleton : Stmt → Stmt
  | .decl decl => .decl decl.skeleton
  | .empty => .empty
  | .labeled label stmt => .labeled label stmt.skeleton
  | .expr x => .expr x.skeleton
  | .send chan value => .send chan.skeleton value.skeleton
  | .incDec x op => .incDec x.skeleton op
  | .assign lhs op rhs => .assign (Expr.skeletonList lhs) op (Expr.skeletonList rhs)
  | .go call => .go call.skeleton
  | .defer call => .defer call.skeleton
  | .return results => .return (Expr.skeletonList results)
  | .branch kind label => .branch kind label
  | .block _ => .block []
  | .ifElse stmt => .ifElse stmt.skeleton
  | .switch init tag clauses =>
    .switch (Stmt.skeletonOption init) (Expr.skeletonOption tag) (CaseClause.skeletonList clauses)
  | .typeSwitch init assign clauses =>
    .typeSwitch (Stmt.skeletonOption init) assign.skeleton (CaseClause.skeletonList clauses)
  | .select clauses => .select (CommClause.skeletonList clauses)
  | .loop init cond post _ =>
    .loop (Stmt.skeletonOption init) (Expr.skeletonOption cond) (Stmt.skeletonOption post) []
  | .range key value define x _ => .range key value define x.skeleton []

def Stmt.skeletonOption : Option Stmt → Option Stmt
  | none => none
  | some stmt => some stmt.skeleton

def IfStmt.skeleton : IfStmt → IfStmt
  | ⟨init, cond, _, otherwise⟩ =>
    { init := Stmt.skeletonOption init
      cond := cond.skeleton
      body := []
      otherwise :=
        match otherwise with
        | none => none
        | some (.block _) => some (.block [])
        | some (.elseIf stmt) => some (.elseIf stmt.skeleton) }

def CaseClause.skeleton : CaseClause → CaseClause
  | .cases labels _ => .cases (Expr.skeletonList labels) []
  | .default _ => .default []

def CaseClause.skeletonList : List CaseClause → List CaseClause
  | [] => []
  | clause :: rest => clause.skeleton :: CaseClause.skeletonList rest

def CommClause.skeleton : CommClause → CommClause
  | .comm stmt _ => .comm stmt.skeleton []
  | .default _ => .default []

def CommClause.skeletonList : List CommClause → List CommClause
  | [] => []
  | clause :: rest => clause.skeleton :: CommClause.skeletonList rest

end

/-! ## An arm is smaller than the tree it is taken from -/

/-- All arms are smaller than `bound`. -/
def ArmsBelow (bound : Nat) (arms : List Block) : Prop :=
  ∀ arm ∈ arms, sizeOf arm < bound

namespace ArmsBelow

theorem nil (bound : Nat) : ArmsBelow bound [] := by simp [ArmsBelow]

theorem cons {bound : Nat} {arm : Block} {arms : List Block} (harm : sizeOf arm < bound)
    (harms : ArmsBelow bound arms) : ArmsBelow bound (arm :: arms) :=
  List.forall_mem_cons.2 ⟨harm, harms⟩

theorem single {bound : Nat} {arm : Block} (h : sizeOf arm < bound) : ArmsBelow bound [arm] :=
  cons h (nil bound)

theorem mono {small large : Nat} {arms : List Block} (h : ArmsBelow small arms)
    (hle : small ≤ large) : ArmsBelow large arms :=
  fun arm harm => Nat.lt_of_lt_of_le (h arm harm) hle

theorem append {bound : Nat} {left right : List Block} (hleft : ArmsBelow bound left)
    (hright : ArmsBelow bound right) : ArmsBelow bound (left ++ right) := by
  intro arm harm
  rcases List.mem_append.1 harm with h | h
  · exact hleft arm h
  · exact hright arm h

theorem missingArms (clauses : List CaseClause) :
    ArmsBelow (sizeOf clauses + 1) (CaseClause.missingArms clauses) := by
  unfold CaseClause.missingArms
  split
  · have hpos : 0 < sizeOf clauses := by cases clauses <;> simp
    exact single (by simpa using hpos)
  · exact nil _

end ArmsBelow

/-- The outermost arms of the node are smaller than the node. -/
def Node.ArmsSmaller : Node → Prop
  | gen g => ArmsBelow (sizeOf g) g.arms
  | stmt s => ArmsBelow (sizeOf s) s.arms
  | ifElse s => ArmsBelow (sizeOf s) s.arms
  | caseClause clause => ArmsBelow (sizeOf clause) clause.arms
  | commClause clause => ArmsBelow (sizeOf clause) clause.arms
  | expr x => ArmsBelow (sizeOf x) x.arms
  | block _ | decl _ | func _ | field _ | ident _ => True

section

attribute [local simp] Node.ArmsSmaller
attribute [local grind] ArmsBelow

theorem Expr.armsList_below {xs : List Expr} (h : xs.Forall (Node.ArmsSmaller ∘ Node.expr)) :
    ArmsBelow (sizeOf xs) (Expr.armsList xs) := by
  induction xs with
  | nil => exact .nil _
  | cons x xs ih =>
    rw [List.forall_cons] at h
    have hx : ArmsBelow (sizeOf x) x.arms := h.1
    exact (hx.mono (by simp +arith)).append ((ih h.2).mono (by simp))

theorem Expr.armsOption_below {x : Option Expr}
    (h : x.toList.Forall (Node.ArmsSmaller ∘ Node.expr)) :
    ArmsBelow (sizeOf x) (Expr.armsOption x) := by
  cases x with
  | none => exact .nil _
  | some x =>
    have hx : ArmsBelow (sizeOf x) x.arms := by simpa using h
    exact hx.mono (by simp)

theorem Spec.armsList_below {specs : List Spec}
    (h : (specs.flatMap Spec.parts).Forall Node.ArmsSmaller) :
    ArmsBelow (sizeOf specs) (Spec.armsList specs) := by
  induction specs with
  | nil => exact .nil _
  | cons spec specs ih =>
    rw [List.flatMap_cons, List.forall_append] at h
    have hspec : ArmsBelow (sizeOf spec) spec.arms := by
      have hparts := h.1
      cases spec <;> simp_all [Spec.arms, Spec.parts] <;>
        grind [→ Expr.armsList_below, ArmsBelow.nil]
    exact (hspec.mono (by simp +arith)).append ((ih h.2).mono (by simp))

theorem Stmt.armsOption_below {stmt : Option Stmt}
    (h : stmt.toList.Forall (Node.ArmsSmaller ∘ Node.stmt)) :
    ArmsBelow (sizeOf stmt) (Stmt.armsOption stmt) := by
  cases stmt with
  | none => exact .nil _
  | some stmt =>
    have hstmt : ArmsBelow (sizeOf stmt) stmt.arms := by simpa using h
    exact hstmt.mono (by simp)

theorem CaseClause.armsList_below {clauses : List CaseClause}
    (h : clauses.Forall (Node.ArmsSmaller ∘ Node.caseClause)) :
    ArmsBelow (sizeOf clauses + 1)
      (CaseClause.armsList clauses ++ CaseClause.missingArms clauses) := by
  refine ArmsBelow.append ?_ (.missingArms clauses)
  induction clauses with
  | nil => exact .nil _
  | cons clause clauses ih =>
    rw [List.forall_cons] at h
    have hclause : ArmsBelow (sizeOf clause) clause.arms := h.1
    exact (hclause.mono (by simp +arith)).append ((ih h.2).mono (by simp +arith))

theorem CommClause.armsList_below {clauses : List CommClause}
    (h : clauses.Forall (Node.ArmsSmaller ∘ Node.commClause)) :
    ArmsBelow (sizeOf clauses) (CommClause.armsList clauses) := by
  induction clauses with
  | nil => exact .nil _
  | cons clause clauses ih =>
    rw [List.forall_cons] at h
    have hclause : ArmsBelow (sizeOf clause) clause.arms := h.1
    exact (hclause.mono (by simp +arith)).append ((ih h.2).mono (by simp))

attribute [local grind →] Expr.armsList_below Expr.armsOption_below Stmt.armsOption_below
  CaseClause.armsList_below CommClause.armsList_below

theorem Expr.arms_below_of_parts {x : Expr} (h : x.parts.Forall Node.ArmsSmaller) :
    ArmsBelow (sizeOf x) x.arms := by
  cases x <;> simp_all [Expr.parts, Expr.arms] <;> grind

theorem Stmt.arms_below_of_parts {stmt : Stmt} (h : stmt.parts.Forall Node.ArmsSmaller) :
    ArmsBelow (sizeOf stmt) stmt.arms := by
  cases stmt <;> simp_all [Stmt.parts, Stmt.arms] <;> grind

theorem IfStmt.arms_below_of_parts {stmt : IfStmt}
    (h : (Node.ifElse stmt).parts.Forall Node.ArmsSmaller) :
    ArmsBelow (sizeOf stmt) stmt.arms := by
  obtain ⟨init, cond, body, otherwise⟩ := stmt
  match otherwise with
  | none | some (.block _) | some (.elseIf _) =>
    simp_all [Node.parts, Else.parts, IfStmt.arms]
    grind

theorem CaseClause.arms_below_of_parts {clause : CaseClause}
    (h : (Node.caseClause clause).parts.Forall Node.ArmsSmaller) :
    ArmsBelow (sizeOf clause) clause.arms := by
  cases clause <;> simp_all [Node.parts, CaseClause.arms] <;> grind

theorem CommClause.arms_below_of_parts {clause : CommClause}
    (h : (Node.commClause clause).parts.Forall Node.ArmsSmaller) :
    ArmsBelow (sizeOf clause) clause.arms := by
  cases clause <;> simp_all [Node.parts, CommClause.arms] <;> grind

theorem Node.armsSmaller (node : Node) : node.ArmsSmaller := by
  induction node using Node.induct_forall with
  | step node ih =>
    match node with
    | gen ⟨kind, specs, grouped⟩ => exact (Spec.armsList_below ih).mono (by simp +arith)
    | stmt s => exact Stmt.arms_below_of_parts ih
    | ifElse s => exact IfStmt.arms_below_of_parts ih
    | caseClause clause => exact CaseClause.arms_below_of_parts ih
    | commClause clause => exact CommClause.arms_below_of_parts ih
    | expr x => exact Expr.arms_below_of_parts ih
    | block _ | decl _ | func _ | field _ | ident _ => trivial

end

theorem Stmt.arms_below (stmt : Stmt) : ArmsBelow (sizeOf stmt) stmt.arms :=
  (Node.stmt stmt).armsSmaller

/-! ## The arms of a switch in normal form -/

namespace CaseClause

theorem armsList_append (left right : List CaseClause) :
    armsList (left ++ right) = armsList left ++ armsList right := by
  induction left with
  | nil => simp [armsList]
  | cons clause rest ih => simp [armsList, ih]

theorem needsDefault_cons (clause : CaseClause) (rest : List CaseClause) :
    needsDefault (clause :: rest) = (!clause.isDefault && needsDefault rest) := by
  simp [needsDefault]

theorem needsDefault_normalizeList (clauses : List CaseClause) :
    needsDefault (normalizeList clauses) = needsDefault clauses := by
  induction clauses with
  | nil => rfl
  | cons clause rest ih =>
    cases clause <;> simp [normalizeList, needsDefault_cons, ih, normalize, isDefault]

theorem needsDefault_append (left right : List CaseClause) :
    needsDefault (left ++ right) = (needsDefault left && needsDefault right) := by
  simp [needsDefault]

/-- In normal form no default clause is missing. -/
theorem needsDefault_normalized (clauses : List CaseClause) :
    needsDefault (normalizeList clauses ++ missing clauses) = false := by
  rw [needsDefault_append, needsDefault_normalizeList, missing]
  by_cases h : needsDefault clauses
  · rw [if_pos h, h]
    rfl
  · simp [h]

@[simp] theorem missingArms_normalized (clauses : List CaseClause) :
    missingArms (normalizeList clauses ++ missing clauses) = [] := by
  simp [missingArms, needsDefault_normalized]

@[simp] theorem armsList_normalized (clauses : List CaseClause) :
    armsList (normalizeList clauses ++ missing clauses) =
      armsList (normalizeList clauses) ++ missingArms clauses := by
  rw [armsList_append, missing, missingArms]
  split <;> simp [armsList, arms]

end CaseClause

end GoProbe
