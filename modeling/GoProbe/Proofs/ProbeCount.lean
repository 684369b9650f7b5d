import Mathlib
import GoProbe.Proofs.Addresses
import GoProbe.Proofs.Arms
import GoProbe.Proofs.Placing

/-!
# How many probes a tree takes

`Stmt.probeCount` counts by arms: an empty arm takes one probe, any other arm one for each
statement up to and including the first `return`, and the arms inside its statements are counted
by the same rule. `placeBody_snd` says that a placement moves its state by the count of the normal
form, so that the numbers of the probes are known before any probe is placed.
-/

namespace GoProbe

open Placing (next)

/-! ## The count -/

namespace Stmt

/-- How many statements stand up to and including the first `return`. -/
def reach (body : Block) : Nat :=
  match body.findIdx? Stmt.isReturn with
  | some index => index + 1
  | none => body.length

/-- The probes of a list itself, those inside its statements not counted. -/
def ownProbes (body : Block) : Nat :=
  if body.isEmpty then 1 else reach body

theorem ownProbes_pos (body : Block) : 0 < ownProbes body := by
  cases body with
  | nil => exact Nat.one_pos
  | cons stmt rest =>
    simp only [ownProbes, reach, List.isEmpty_cons, Bool.false_eq_true, if_false]
    split <;> simp

theorem arm_lt {body arm : Block} (h : arm ∈ body.flatMap Stmt.arms) :
    sizeOf arm < sizeOf body := by
  obtain ⟨stmt, hstmt, harm⟩ := List.mem_flatMap.1 h
  exact Nat.lt_trans (stmt.arms_below arm harm) (List.sizeOf_lt_of_mem hstmt)

/-- The probes of a list and of all arms inside it. -/
def probeCount (body : Block) : Nat :=
  ownProbes body + ((body.flatMap Stmt.arms).attach.map fun arm => probeCount arm.1).sum
termination_by sizeOf body
decreasing_by exact arm_lt arm.2

end Stmt

/-- The probes of some arms. -/
def armCount (arms : List Block) : Nat :=
  (arms.map Stmt.probeCount).sum

@[simp] theorem armCount_nil : armCount [] = 0 := rfl

@[simp] theorem armCount_cons (arm : Block) (arms : List Block) :
    armCount (arm :: arms) = Stmt.probeCount arm + armCount arms := by
  simp [armCount]

@[simp] theorem armCount_append (left right : List Block) :
    armCount (left ++ right) = armCount left + armCount right := by
  simp [armCount]

namespace Stmt

theorem probeCount_eq (body : Block) :
    probeCount body = ownProbes body + armCount (body.flatMap Stmt.arms) := by
  rw [probeCount, armCount, List.attach_map_val]

@[simp] theorem reach_nil : reach [] = 0 := rfl

theorem reach_cons (stmt : Stmt) (rest : Block) :
    reach (stmt :: rest) = (if !stmt.isReturn then reach rest else 0) + 1 := by
  cases h : stmt.isReturn with
  | true => simp [reach, List.findIdx?_cons, h]
  | false =>
    simp only [reach, List.findIdx?_cons, h, Bool.false_eq_true, if_false]
    cases rest.findIdx? Stmt.isReturn <;> simp

@[simp] theorem isReturn_normalize (stmt : Stmt) : stmt.normalize.isReturn = stmt.isReturn := by
  cases stmt <;> simp [Stmt.normalize, Stmt.isReturn]

@[simp] theorem reach_normalizeList (body : Block) : reach (normalizeList body) = reach body := by
  induction body with
  | nil => rfl
  | cons stmt rest ih => simp [normalizeList, reach_cons, ih]

@[simp] theorem probeCount_nil : probeCount [] = 1 := by
  simp [probeCount_eq, ownProbes]

theorem ownProbes_normalizeList_cons (stmt : Stmt) (rest : Block) :
    ownProbes (normalizeList (stmt :: rest)) = reach (stmt :: rest) := by
  rw [← reach_normalizeList]
  simp [ownProbes, normalizeList]

/-- The list that takes the place of an `else if`. -/
theorem probeCount_ifElse (stmt : IfStmt) :
    probeCount [.ifElse stmt] = 1 + armCount stmt.arms := by
  simp [probeCount_eq, ownProbes, reach_cons, Stmt.isReturn, Stmt.arms]

end Stmt

theorem armCount_missingArms (clauses : List CaseClause) :
    armCount (CaseClause.missingArms clauses) =
      if CaseClause.needsDefault clauses then 1 else 0 := by
  unfold CaseClause.missingArms
  split <;> simp

/-! ## A placement moves by the count -/

/-- A placement in the node moves its state by the count of the normal form. -/
def Node.Counts (probe : Nat → Stmt) : Node → Prop
  | gen g => ∀ placed, (g.place (next probe) placed).2 = placed + armCount g.normalize.arms
  | block body => ∀ placed, (Stmt.placeBody (next probe) body placed).2 =
      placed + Stmt.probeCount (Stmt.normalizeList body)
  | stmt s => ∀ placed, (s.place (next probe) placed).2 = placed + armCount s.normalize.arms
  | ifElse s => ∀ placed, (s.place (next probe) placed).2 = placed + armCount s.normalize.arms
  | caseClause c => ∀ placed, (c.place (next probe) placed).2 = placed + armCount c.normalize.arms
  | commClause c => ∀ placed, (c.place (next probe) placed).2 = placed + armCount c.normalize.arms
  | expr x => ∀ placed, (x.place (next probe) placed).2 = placed + armCount x.normalize.arms
  | decl _ | func _ | field _ | ident _ => True

section

variable {probe : Nat → Stmt}

attribute [local simp] Node.Counts Nat.add_assoc

theorem Expr.placeList_counts {xs : List Expr}
    (h : (xs.map Node.expr).Forall (Node.Counts probe)) (placed : Nat) :
    (Expr.placeList (next probe) xs placed).2 =
      placed + armCount (Expr.armsList (Expr.normalizeList xs)) := by
  induction xs generalizing placed with
  | nil => simp [Expr.placeList, Expr.normalizeList, Expr.armsList]
  | cons x xs ih => simp_all [Expr.placeList, Expr.normalizeList, Expr.armsList]

theorem Expr.placeOption_counts {x : Option Expr}
    (h : (x.toList.map Node.expr).Forall (Node.Counts probe)) (placed : Nat) :
    (Expr.placeOption (next probe) x placed).2 =
      placed + armCount (Expr.armsOption (Expr.normalizeOption x)) := by
  cases x <;> simp_all [Expr.placeOption, Expr.normalizeOption, Expr.armsOption]

theorem Spec.placeList_counts {specs : List Spec}
    (h : (specs.flatMap Spec.parts).Forall (Node.Counts probe)) (placed : Nat) :
    (Spec.placeList (next probe) specs placed).2 =
      placed + armCount (Spec.armsList (Spec.normalizeList specs)) := by
  induction specs generalizing placed with
  | nil => simp [Spec.placeList, Spec.normalizeList, Spec.armsList]
  | cons spec specs ih =>
    cases spec <;>
      simp_all [Spec.placeList, Spec.normalizeList, Spec.armsList, Spec.parts, Spec.place,
        Spec.normalize, Spec.arms, Expr.placeList_counts]

theorem Stmt.placeOption_counts {stmt : Option Stmt}
    (h : (stmt.toList.map Node.stmt).Forall (Node.Counts probe)) (placed : Nat) :
    (Stmt.placeOption (next probe) stmt placed).2 =
      placed + armCount (Stmt.armsOption (Stmt.normalizeOption stmt)) := by
  cases stmt <;> simp_all [Stmt.placeOption, Stmt.normalizeOption, Stmt.armsOption]

theorem Stmt.placeList_counts {body : Block}
    (h : (body.map Node.stmt).Forall (Node.Counts probe)) (reachable : Bool) (placed : Nat) :
    (Stmt.placeList (next probe) reachable body placed).2 =
      placed + (if reachable then Stmt.reach body else 0) +
        armCount ((Stmt.normalizeList body).flatMap Stmt.arms) := by
  induction body generalizing reachable placed with
  | nil => simp [Stmt.placeList, Stmt.normalizeList]
  | cons stmt body ih =>
    rw [List.map_cons, List.forall_cons] at h
    cases reachable with
    | false => simp_all [Stmt.placeList, Stmt.normalizeList]
    | true =>
      have hrest := ih h.2 (!stmt.isReturn)
      -- the probe of the statement comes first, so the parts on the two sides differ in order
      simp_all [Stmt.placeList, Stmt.normalizeList, Stmt.reach_cons]
      omega

/-- From the statements of a list to the list as an arm. -/
theorem Stmt.placeBody_counts {body : Block}
    (h : (body.map Node.stmt).Forall (Node.Counts probe)) (placed : Nat) :
    (Stmt.placeBody (next probe) body placed).2 =
      placed + Stmt.probeCount (Stmt.normalizeList body) := by
  have hlist := Stmt.placeList_counts h true placed
  cases body with
  | nil => simp [Stmt.placeBody, Stmt.normalizeList]
  | cons stmt rest =>
    rw [Stmt.probeCount_eq, Stmt.ownProbes_normalizeList_cons, ← Nat.add_assoc]
    exact hlist

theorem CaseClause.placeList_counts {clauses : List CaseClause}
    (h : (clauses.map Node.caseClause).Forall (Node.Counts probe)) (needsDefault : Bool)
    (placed : Nat) :
    (CaseClause.placeList (next probe) needsDefault clauses placed).2 =
      placed + armCount (CaseClause.armsList (CaseClause.normalizeList clauses)) +
        if needsDefault then 1 else 0 := by
  induction clauses generalizing placed with
  | nil =>
    cases needsDefault <;>
      simp [CaseClause.placeList, CaseClause.normalizeList, CaseClause.armsList]
  | cons clause clauses ih =>
    simp_all [CaseClause.placeList, CaseClause.normalizeList, CaseClause.armsList]

theorem CommClause.placeList_counts {clauses : List CommClause}
    (h : (clauses.map Node.commClause).Forall (Node.Counts probe)) (placed : Nat) :
    (CommClause.placeList (next probe) clauses placed).2 =
      placed + armCount (CommClause.armsList (CommClause.normalizeList clauses)) := by
  induction clauses generalizing placed with
  | nil => simp [CommClause.placeList, CommClause.normalizeList, CommClause.armsList]
  | cons clause clauses ih =>
    simp_all [CommClause.placeList, CommClause.normalizeList, CommClause.armsList]

attribute [local simp] Stmt.placeArm_eq_placeBody Expr.placeList_counts Expr.placeOption_counts
  Stmt.placeOption_counts Stmt.placeBody_counts CaseClause.placeList_counts
  CommClause.placeList_counts

theorem Expr.counts_of_parts {x : Expr} (h : x.parts.Forall (Node.Counts probe)) :
    (Node.expr x).Counts probe := by
  intro placed
  cases x <;> simp_all [Expr.parts, Expr.place, Expr.normalize, Expr.arms]

theorem Stmt.counts_of_parts {stmt : Stmt} (h : stmt.parts.Forall (Node.Counts probe)) :
    (Node.stmt stmt).Counts probe := by
  intro placed
  cases stmt <;>
    simp_all [Stmt.parts, Stmt.place, Stmt.normalize, Stmt.arms, armCount_missingArms]

theorem IfStmt.counts_of_parts {stmt : IfStmt}
    (h : (Node.ifElse stmt).parts.Forall (Node.Counts probe)) :
    (Node.ifElse stmt).Counts probe := by
  obtain ⟨init, cond, body, otherwise⟩ := stmt
  intro placed
  match otherwise with
  | none | some (.block _) | some (.elseIf _) =>
    simp_all [Node.parts, Else.parts, IfStmt.place, IfStmt.normalize, IfStmt.arms,
      Stmt.probeCount_ifElse]

theorem CaseClause.counts_of_parts {clause : CaseClause}
    (h : (Node.caseClause clause).parts.Forall (Node.Counts probe)) :
    (Node.caseClause clause).Counts probe := by
  intro placed
  cases clause <;>
    simp_all [Node.parts, CaseClause.place, CaseClause.normalize, CaseClause.arms]

theorem CommClause.counts_of_parts {clause : CommClause}
    (h : (Node.commClause clause).parts.Forall (Node.Counts probe)) :
    (Node.commClause clause).Counts probe := by
  intro placed
  cases clause <;>
    simp_all [Node.parts, CommClause.place, CommClause.normalize, CommClause.arms]

theorem GenDecl.counts_of_parts {decl : GenDecl}
    (h : (Node.gen decl).parts.Forall (Node.Counts probe)) : (Node.gen decl).Counts probe := by
  obtain ⟨kind, specs, grouped⟩ := decl
  exact Spec.placeList_counts h

theorem Node.counts (node : Node) : node.Counts probe := by
  induction node using Node.induct_forall with
  | step node ih =>
    match node with
    | gen g => exact GenDecl.counts_of_parts ih
    | block body => exact Stmt.placeBody_counts ih
    | stmt s => exact Stmt.counts_of_parts ih
    | ifElse s => exact IfStmt.counts_of_parts ih
    | caseClause c => exact CaseClause.counts_of_parts ih
    | commClause c => exact CommClause.counts_of_parts ih
    | expr x => exact Expr.counts_of_parts ih
    | decl _ | func _ | field _ | ident _ => trivial

end

section

variable (probe : Nat → Stmt)

/-- Placing probes in a body takes as many numbers as the normal form of the body counts. -/
theorem Stmt.placeBody_snd (body : Block) (placed : Nat) :
    (Stmt.placeBody (next probe) body placed).2 =
      placed + Stmt.probeCount (Stmt.normalizeList body) :=
  (Node.block body).counts placed

/-- A body takes at least one probe. -/
theorem Stmt.lt_placeBody_snd (body : Block) (placed : Nat) :
    placed < (Stmt.placeBody (next probe) body placed).2 := by
  have hcount : 0 < Stmt.probeCount (Stmt.normalizeList body) := by
    rw [Stmt.probeCount_eq]
    exact Nat.add_pos_left (Stmt.ownProbes_pos _) _
  rw [Stmt.placeBody_snd]
  omega

end

end GoProbe
