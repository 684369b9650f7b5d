import Mathlib
import GoProbe.Probe.Hash
import GoProbe.Proofs.ProbingRuns
import GoProbe.Proofs.ProbeForm

/-!
# Every arm has its probes

`Stmt.ProbedList` says, without running anything, where the probes of an arm stand: one for an
empty arm, otherwise one before each statement up to and including the first `return`. The other
statements follow without one. Each statement keeps its skeleton, and its arms are related by the
same rule, down to the closures in its operands.

A placement relates the normal form of a tree to the placed tree (`skeleton_place`, `arms_place`).
What follows from the relation alone is that every arm of the placed tree starts with a probe.
-/

namespace GoProbe

open Placing (next)

/-! ## The relation -/

/-- One of `probes` before each of `stmts` as long as there are any. -/
def Stmt.weave : List Stmt → List Stmt → List Stmt
  | [], stmts => stmts
  | probes, [] => probes
  | probe :: probes, stmt :: stmts => probe :: stmt :: Stmt.weave probes stmts

mutual

/-- `placed` is the arm `body` with a probe at every place that has to have one. -/
inductive Stmt.ProbedList (IsProbe : Stmt → Prop) : Block → Block → Prop where
  | weave {body probes placed : List Stmt} (hprobes : ∀ probe ∈ probes, IsProbe probe)
      (hcount : probes.length = Stmt.ownProbes body)
      (hplaced : List.Forall₂ (Stmt.Probed IsProbe) body placed) :
      Stmt.ProbedList IsProbe body (Stmt.weave probes placed)

/-- `placed` is `stmt` with probes in its arms and nothing else changed. -/
inductive Stmt.Probed (IsProbe : Stmt → Prop) : Stmt → Stmt → Prop where
  | arms {stmt placed : Stmt} (hskeleton : placed.skeleton = stmt.skeleton)
      (harms : List.Forall₂ (Stmt.ProbedList IsProbe) stmt.arms placed.arms) :
      Stmt.Probed IsProbe stmt placed

end

/-! ## Placement keeps the skeleton -/

namespace CaseClause

theorem skeletonList_append (left right : List CaseClause) :
    skeletonList (left ++ right) = skeletonList left ++ skeletonList right := by
  induction left with
  | nil => simp [skeletonList]
  | cons clause rest ih => simp [skeletonList, ih]

theorem skeletonList_normalized (clauses : List CaseClause) :
    skeletonList (normalizeList clauses ++ missing clauses) =
      skeletonList (normalizeList clauses) ++
        if needsDefault clauses then [.default []] else [] := by
  rw [skeletonList_append, missing]
  split <;> simp [skeletonList, skeleton]

theorem needsDefault_skeletonList (clauses : List CaseClause) :
    needsDefault (skeletonList clauses) = needsDefault clauses := by
  induction clauses with
  | nil => rfl
  | cons clause rest ih =>
    cases clause <;> simp [skeletonList, needsDefault_cons, ih, skeleton, isDefault]

end CaseClause

section

variable (probe : Nat → Stmt)

mutual

theorem Expr.skeleton_place : ∀ (x : Expr) (placed : Nat),
    (x.place (next probe) placed).1.skeleton = x.normalize.skeleton
  | .ident _, _ | .basicLit _, _ | .arrayType _ _, _ | .structType _, _ | .funcType _, _
  | .interfaceType _, _ | .mapType _ _, _ | .chanType _ _, _ | .ellipsis _, _
  | .funcLit _ _, _ => by
    simp [Expr.place, Expr.normalize, Expr.skeleton]
  | .compositeLit _ elements, placed => by
    simp [Expr.place, Expr.normalize, Expr.skeleton, Expr.skeletonList_place elements]
  | .paren x, placed | .selector x _, placed | .typeAssert x _, placed | .star x, placed
  | .unary _ x _, placed => by simp [Expr.place, Expr.normalize, Expr.skeleton, x.skeleton_place]
  | .index x indices, placed | .call x indices _, placed => by
    simp [Expr.place, Expr.normalize, Expr.skeleton, x.skeleton_place,
      Expr.skeletonList_place indices]
  | .slice x low high max, placed => by
    simp [Expr.place, Expr.normalize, Expr.skeleton, x.skeleton_place,
      Expr.skeletonOption_place low, Expr.skeletonOption_place high,
      Expr.skeletonOption_place max]
  | .binary x _ y, placed | .keyValue x y, placed => by
    simp [Expr.place, Expr.normalize, Expr.skeleton, x.skeleton_place, y.skeleton_place]

theorem Expr.skeletonOption_place : ∀ (x : Option Expr) (placed : Nat),
    Expr.skeletonOption (Expr.placeOption (next probe) x placed).1 =
      Expr.skeletonOption (Expr.normalizeOption x)
  | none, _ => by simp [Expr.placeOption, Expr.normalizeOption]
  | some x, placed => by
    simp [Expr.placeOption, Expr.normalizeOption, Expr.skeletonOption, x.skeleton_place]

theorem Expr.skeletonList_place : ∀ (xs : List Expr) (placed : Nat),
    Expr.skeletonList (Expr.placeList (next probe) xs placed).1 =
      Expr.skeletonList (Expr.normalizeList xs)
  | [], _ => by simp [Expr.placeList, Expr.normalizeList]
  | x :: rest, placed => by
    simp [Expr.placeList, Expr.normalizeList, Expr.skeletonList, x.skeleton_place,
      Expr.skeletonList_place rest]

theorem Spec.skeleton_place : ∀ (spec : Spec) (placed : Nat),
    (spec.place (next probe) placed).1.skeleton = spec.normalize.skeleton
  | .imports _, _ | .type _ _ _ _, _ => by simp [Spec.place, Spec.normalize]
  | .value _ _ values, placed => by
    simp [Spec.place, Spec.normalize, Spec.skeleton, Expr.skeletonList_place values]

theorem Spec.skeletonList_place : ∀ (specs : List Spec) (placed : Nat),
    Spec.skeletonList (Spec.placeList (next probe) specs placed).1 =
      Spec.skeletonList (Spec.normalizeList specs)
  | [], _ => by simp [Spec.placeList, Spec.normalizeList]
  | spec :: rest, placed => by
    simp [Spec.placeList, Spec.normalizeList, Spec.skeletonList, spec.skeleton_place,
      Spec.skeletonList_place rest]

theorem GenDecl.skeleton_place : ∀ (decl : GenDecl) (placed : Nat),
    (decl.place (next probe) placed).1.skeleton = decl.normalize.skeleton
  | ⟨_, specs, _⟩, placed => by
    simp [GenDecl.place, GenDecl.normalize, GenDecl.skeleton, Spec.skeletonList_place specs]

theorem Stmt.skeleton_place : ∀ (stmt : Stmt) (placed : Nat),
    (stmt.place (next probe) placed).1.skeleton = stmt.normalize.skeleton
  | .empty, _ | .branch _ _, _ | .block _, _ => by
    simp [Stmt.place, Stmt.normalize, Stmt.skeleton]
  | .decl decl, placed => by simp [Stmt.place, Stmt.normalize, Stmt.skeleton, decl.skeleton_place]
  | .labeled _ stmt, placed => by
    simp [Stmt.place, Stmt.normalize, Stmt.skeleton, stmt.skeleton_place]
  | .expr x, placed | .incDec x _, placed | .go x, placed | .defer x, placed => by
    simp [Stmt.place, Stmt.normalize, Stmt.skeleton, x.skeleton_place]
  | .send chan value, placed => by
    simp [Stmt.place, Stmt.normalize, Stmt.skeleton, chan.skeleton_place, value.skeleton_place]
  | .assign lhs _ rhs, placed => by
    simp [Stmt.place, Stmt.normalize, Stmt.skeleton, Expr.skeletonList_place lhs,
      Expr.skeletonList_place rhs]
  | .return results, placed => by
    simp [Stmt.place, Stmt.normalize, Stmt.skeleton, Expr.skeletonList_place results]
  | .ifElse stmt, placed => by
    simp [Stmt.place, Stmt.normalize, Stmt.skeleton, stmt.skeleton_place]
  | .switch init tag clauses, placed => by
    simp [Stmt.place, Stmt.normalize, Stmt.skeleton, Stmt.skeletonOption_place init,
      Expr.skeletonOption_place tag, CaseClause.skeletonList_place clauses,
      CaseClause.skeletonList_normalized]
  | .typeSwitch init assign clauses, placed => by
    simp [Stmt.place, Stmt.normalize, Stmt.skeleton, Stmt.skeletonOption_place init,
      assign.skeleton_place, CaseClause.skeletonList_place clauses,
      CaseClause.skeletonList_normalized]
  | .select clauses, placed => by
    simp [Stmt.place, Stmt.normalize, Stmt.skeleton, CommClause.skeletonList_place clauses]
  | .loop init cond post _, placed => by
    simp [Stmt.place, Stmt.normalize, Stmt.skeleton, Stmt.skeletonOption_place init,
      Expr.skeletonOption_place cond, Stmt.skeletonOption_place post]
  | .range _ _ _ x _, placed => by
    simp [Stmt.place, Stmt.normalize, Stmt.skeleton, x.skeleton_place]

theorem Stmt.skeletonOption_place : ∀ (stmt : Option Stmt) (placed : Nat),
    Stmt.skeletonOption (Stmt.placeOption (next probe) stmt placed).1 =
      Stmt.skeletonOption (Stmt.normalizeOption stmt)
  | none, _ => by simp [Stmt.placeOption, Stmt.normalizeOption]
  | some stmt, placed => by
    simp [Stmt.placeOption, Stmt.normalizeOption, Stmt.skeletonOption, stmt.skeleton_place]

theorem IfStmt.skeleton_place : ∀ (stmt : IfStmt) (placed : Nat),
    (stmt.place (next probe) placed).1.skeleton = stmt.normalize.skeleton
  | ⟨init, cond, _, none⟩, placed => by
    simp [IfStmt.place, IfStmt.normalize, IfStmt.skeleton, Stmt.skeletonOption_place init,
      cond.skeleton_place]
  | ⟨init, cond, _, some (.block _)⟩, placed => by
    simp [IfStmt.place, IfStmt.normalize, IfStmt.skeleton, Stmt.skeletonOption_place init,
      cond.skeleton_place]
  | ⟨init, cond, _, some (.elseIf _)⟩, placed => by
    simp [IfStmt.place, IfStmt.normalize, IfStmt.skeleton, Stmt.skeletonOption_place init,
      cond.skeleton_place]

theorem CaseClause.skeleton_place : ∀ (clause : CaseClause) (placed : Nat),
    (clause.place (next probe) placed).1.skeleton = clause.normalize.skeleton
  | .cases labels _, placed => by
    simp [CaseClause.place, CaseClause.normalize, CaseClause.skeleton,
      Expr.skeletonList_place labels]
  | .default _, _ => by simp [CaseClause.place, CaseClause.normalize, CaseClause.skeleton]

theorem CaseClause.skeletonList_place :
    ∀ (clauses : List CaseClause) (needsDefault : Bool) (placed : Nat),
      CaseClause.skeletonList (CaseClause.placeList (next probe) needsDefault clauses placed).1 =
        CaseClause.skeletonList (CaseClause.normalizeList clauses) ++
          if needsDefault then [.default []] else []
  | [], needsDefault, _ => by
    cases needsDefault <;>
      simp [CaseClause.placeList, CaseClause.normalizeList, CaseClause.skeletonList,
        CaseClause.skeleton]
  | clause :: rest, needsDefault, placed => by
    simp [CaseClause.placeList, CaseClause.normalizeList, CaseClause.skeletonList,
      clause.skeleton_place, CaseClause.skeletonList_place rest]

theorem CommClause.skeleton_place : ∀ (clause : CommClause) (placed : Nat),
    (clause.place (next probe) placed).1.skeleton = clause.normalize.skeleton
  | .comm stmt _, placed => by
    simp [CommClause.place, CommClause.normalize, CommClause.skeleton, stmt.skeleton_place]
  | .default _, _ => by simp [CommClause.place, CommClause.normalize, CommClause.skeleton]

theorem CommClause.skeletonList_place : ∀ (clauses : List CommClause) (placed : Nat),
    CommClause.skeletonList (CommClause.placeList (next probe) clauses placed).1 =
      CommClause.skeletonList (CommClause.normalizeList clauses)
  | [], _ => by simp [CommClause.placeList, CommClause.normalizeList]
  | clause :: rest, placed => by
    simp [CommClause.placeList, CommClause.normalizeList, CommClause.skeletonList,
      clause.skeleton_place, CommClause.skeletonList_place rest]

end

end

/-! ## Placement puts probes in every arm -/

namespace Stmt

/-- The statements of `body`, the first `count` of them with a probe before each. -/
def Woven (IsProbe : Stmt → Prop) (count : Nat) (body placed : Block) : Prop :=
  ∃ probes stmts, placed = weave probes stmts ∧ (∀ probe ∈ probes, IsProbe probe) ∧
    probes.length = count ∧ List.Forall₂ (Probed IsProbe) body stmts

namespace Woven

variable {IsProbe : Stmt → Prop} {stmt placed : Stmt} {body rest : Block} {count : Nat}

theorem nil : Woven IsProbe 0 [] [] :=
  ⟨[], [], rfl, by simp, rfl, .nil⟩

theorem bare (hstmt : Probed IsProbe stmt placed) (hrest : Woven IsProbe 0 body rest) :
    Woven IsProbe 0 (stmt :: body) (placed :: rest) := by
  obtain ⟨probes, stmts, rfl, -, hlength, hstmts⟩ := hrest
  obtain rfl := List.eq_nil_of_length_eq_zero hlength
  exact ⟨[], placed :: stmts, rfl, by simp, rfl, .cons hstmt hstmts⟩

theorem probed {probe : Stmt} (hprobe : IsProbe probe) (hstmt : Probed IsProbe stmt placed)
    (hrest : Woven IsProbe count body rest) :
    Woven IsProbe (count + 1) (stmt :: body) (probe :: placed :: rest) := by
  obtain ⟨probes, stmts, rfl, hprobes, rfl, hstmts⟩ := hrest
  exact ⟨probe :: probes, placed :: stmts, rfl, List.forall_mem_cons.2 ⟨hprobe, hprobes⟩, rfl,
    .cons hstmt hstmts⟩

theorem probedList (h : Woven IsProbe (ownProbes body) body rest) :
    ProbedList IsProbe body rest := by
  obtain ⟨probes, stmts, rfl, hprobes, hcount, hstmts⟩ := h
  exact .weave hprobes hcount hstmts

end Woven

end Stmt

/-- The arms of a tree and the same arms with their probes. -/
abbrev ArmsProbed (IsProbe : Stmt → Prop) : List Block → List Block → Prop :=
  List.Forall₂ (Stmt.ProbedList IsProbe)

namespace ArmsProbed

variable {IsProbe : Stmt → Prop}

theorem single {body placed : Block} (h : Stmt.ProbedList IsProbe body placed) :
    ArmsProbed IsProbe [body] [placed] :=
  List.Forall₂.cons h .nil

theorem cons {body placed : Block} {arms arms' : List Block}
    (h : Stmt.ProbedList IsProbe body placed) (harms : ArmsProbed IsProbe arms arms') :
    ArmsProbed IsProbe (body :: arms) (placed :: arms') :=
  List.Forall₂.cons h harms

theorem append {left right left' right' : List Block} (hleft : ArmsProbed IsProbe left left')
    (hright : ArmsProbed IsProbe right right') :
    ArmsProbed IsProbe (left ++ right) (left' ++ right') :=
  List.rel_append hleft hright

end ArmsProbed

namespace Placing

/-- The statements that `probe` makes. -/
def Made (probe : Nat → Stmt) (stmt : Stmt) : Prop :=
  ∃ number, stmt = probe number

theorem made (probe : Nat → Stmt) (number : Nat) : Made probe (probe number) :=
  ⟨number, rfl⟩

theorem probedList_empty (probe : Nat → Stmt) (number : Nat) :
    Stmt.ProbedList (Made probe) [] [probe number] :=
  Stmt.Woven.probedList ⟨[probe number], [], rfl, by simp [made], rfl, .nil⟩

/-- From the statements of a list to the list as an arm. -/
theorem probedList_arm {probe : Nat → Stmt} {body : Block}
    (hlist : ∀ placed, Stmt.Woven (Made probe) (Stmt.reach body) (Stmt.normalizeList body)
      (Stmt.placeList (next probe) true body placed).1) (placed : Nat) :
    Stmt.ProbedList (Made probe) (Stmt.normalizeList body)
      (Stmt.placeArm (next probe) body (Stmt.placeList (next probe) true body) placed).1 := by
  cases body with
  | nil => exact probedList_empty probe (placed + 1)
  | cons stmt rest =>
    apply Stmt.Woven.probedList
    rw [Stmt.ownProbes_normalizeList_cons]
    exact hlist placed

/-- An `else if` becomes a list with a probe and the `if`. -/
theorem probedList_ifElse {probe : Nat → Stmt} {stmt : IfStmt} {placed number : Nat}
    (harms : ArmsProbed (Made probe) stmt.normalize.arms (stmt.place (next probe) placed).1.arms) :
    Stmt.ProbedList (Made probe) [.ifElse stmt.normalize]
      [probe number, .ifElse (stmt.place (next probe) placed).1] := by
  have hstmt : Stmt.Probed (Made probe) (.ifElse stmt.normalize)
      (.ifElse (stmt.place (next probe) placed).1) := by
    refine .arms ?_ (by simpa only [Stmt.arms] using harms)
    simp only [Stmt.skeleton, stmt.skeleton_place]
  have hcount : Stmt.ownProbes [.ifElse stmt.normalize] = 1 := by
    simp [Stmt.ownProbes, Stmt.reach_cons, Stmt.isReturn]
  apply Stmt.Woven.probedList
  rw [hcount]
  exact .probed (made probe number) hstmt .nil

end Placing

/-- The clauses of a placed switch have a default among them. -/
theorem CaseClause.missingArms_place (probe : Nat → Stmt) (clauses : List CaseClause)
    (placed : Nat) :
    missingArms (placeList (next probe) (needsDefault clauses) clauses placed).1 = [] := by
  have h : needsDefault (placeList (next probe) (needsDefault clauses) clauses placed).1 =
      false := by
    rw [← needsDefault_skeletonList, CaseClause.skeletonList_place, ← skeletonList_normalized,
      needsDefault_skeletonList, needsDefault_normalized]
  simp [missingArms, h]

section

variable (probe : Nat → Stmt)

mutual

theorem Expr.arms_place : ∀ (x : Expr) (placed : Nat),
    ArmsProbed (Placing.Made probe) x.normalize.arms (x.place (next probe) placed).1.arms
  | .ident _, _ | .basicLit _, _ | .arrayType _ _, _ | .structType _, _ | .funcType _, _
  | .interfaceType _, _ | .mapType _ _, _ | .chanType _ _, _ | .ellipsis _, _ => by
    simp [Expr.place, Expr.normalize, Expr.arms]
  | .compositeLit _ elements, placed => by
    simp only [Expr.place, Expr.normalize, Expr.arms, Placing.bind_apply, Placing.pure_apply]
    exact Expr.armsList_place elements placed
  | .funcLit _ body, placed => by
    simp only [Expr.place, Expr.normalize, Expr.arms, Placing.bind_apply, Placing.pure_apply]
    exact .single (Placing.probedList_arm (Stmt.woven_place body true) placed)
  | .paren x, placed | .selector x _, placed | .typeAssert x _, placed | .star x, placed
  | .unary _ x _, placed => by
    simp only [Expr.place, Expr.normalize, Expr.arms, Placing.bind_apply, Placing.pure_apply]
    exact x.arms_place placed
  | .index x indices, placed | .call x indices _, placed => by
    simp only [Expr.place, Expr.normalize, Expr.arms, Placing.bind_apply, Placing.pure_apply]
    exact (x.arms_place placed).append (Expr.armsList_place indices _)
  | .slice x low high max, placed => by
    simp only [Expr.place, Expr.normalize, Expr.arms, Placing.bind_apply, Placing.pure_apply]
    exact (x.arms_place placed).append <| (Expr.armsOption_place low _).append <|
      (Expr.armsOption_place high _).append (Expr.armsOption_place max _)
  | .binary x _ y, placed | .keyValue x y, placed => by
    simp only [Expr.place, Expr.normalize, Expr.arms, Placing.bind_apply, Placing.pure_apply]
    exact (x.arms_place placed).append (y.arms_place _)

theorem Expr.armsOption_place : ∀ (x : Option Expr) (placed : Nat),
    ArmsProbed (Placing.Made probe) (Expr.armsOption (Expr.normalizeOption x))
      (Expr.armsOption (Expr.placeOption (next probe) x placed).1)
  | none, _ => by simp [Expr.placeOption, Expr.normalizeOption, Expr.armsOption]
  | some x, placed => by
    simp only [Expr.placeOption, Expr.normalizeOption, Expr.armsOption, Placing.bind_apply,
      Placing.pure_apply]
    exact x.arms_place placed

theorem Expr.armsList_place : ∀ (xs : List Expr) (placed : Nat),
    ArmsProbed (Placing.Made probe) (Expr.armsList (Expr.normalizeList xs))
      (Expr.armsList (Expr.placeList (next probe) xs placed).1)
  | [], _ => by simp [Expr.placeList, Expr.normalizeList, Expr.armsList]
  | x :: rest, placed => by
    simp only [Expr.placeList, Expr.normalizeList, Expr.armsList, Placing.bind_apply,
      Placing.pure_apply]
    exact (x.arms_place placed).append (Expr.armsList_place rest _)

theorem Spec.arms_place : ∀ (spec : Spec) (placed : Nat),
    ArmsProbed (Placing.Made probe) spec.normalize.arms (spec.place (next probe) placed).1.arms
  | .imports _, _ | .type _ _ _ _, _ => by simp [Spec.place, Spec.normalize, Spec.arms]
  | .value _ _ values, placed => by
    simp only [Spec.place, Spec.normalize, Spec.arms, Placing.bind_apply, Placing.pure_apply]
    exact Expr.armsList_place values placed

theorem Spec.armsList_place : ∀ (specs : List Spec) (placed : Nat),
    ArmsProbed (Placing.Made probe) (Spec.armsList (Spec.normalizeList specs))
      (Spec.armsList (Spec.placeList (next probe) specs placed).1)
  | [], _ => by simp [Spec.placeList, Spec.normalizeList, Spec.armsList]
  | spec :: rest, placed => by
    simp only [Spec.placeList, Spec.normalizeList, Spec.armsList, Placing.bind_apply,
      Placing.pure_apply]
    exact (spec.arms_place placed).append (Spec.armsList_place rest _)

theorem GenDecl.arms_place : ∀ (decl : GenDecl) (placed : Nat),
    ArmsProbed (Placing.Made probe) decl.normalize.arms (decl.place (next probe) placed).1.arms
  | ⟨_, specs, _⟩, placed => by
    simp only [GenDecl.place, GenDecl.normalize, GenDecl.arms, Placing.bind_apply,
      Placing.pure_apply]
    exact Spec.armsList_place specs placed

theorem Stmt.arms_place : ∀ (stmt : Stmt) (placed : Nat),
    ArmsProbed (Placing.Made probe) stmt.normalize.arms (stmt.place (next probe) placed).1.arms
  | .empty, _ | .branch _ _, _ => by simp [Stmt.place, Stmt.normalize, Stmt.arms]
  | .decl decl, placed => by
    simp only [Stmt.place, Stmt.normalize, Stmt.arms, Placing.bind_apply, Placing.pure_apply]
    exact decl.arms_place placed
  | .labeled _ stmt, placed => by
    simp only [Stmt.place, Stmt.normalize, Stmt.arms, Placing.bind_apply, Placing.pure_apply]
    exact stmt.arms_place placed
  | .expr x, placed | .incDec x _, placed | .go x, placed | .defer x, placed => by
    simp only [Stmt.place, Stmt.normalize, Stmt.arms, Placing.bind_apply, Placing.pure_apply]
    exact x.arms_place placed
  | .send chan value, placed => by
    simp only [Stmt.place, Stmt.normalize, Stmt.arms, Placing.bind_apply, Placing.pure_apply]
    exact (chan.arms_place placed).append (value.arms_place _)
  | .assign lhs _ rhs, placed => by
    simp only [Stmt.place, Stmt.normalize, Stmt.arms, Placing.bind_apply, Placing.pure_apply]
    exact (Expr.armsList_place lhs placed).append (Expr.armsList_place rhs _)
  | .return results, placed => by
    simp only [Stmt.place, Stmt.normalize, Stmt.arms, Placing.bind_apply, Placing.pure_apply]
    exact Expr.armsList_place results placed
  | .block body, placed => by
    simp only [Stmt.place, Stmt.normalize, Stmt.arms, Placing.bind_apply, Placing.pure_apply]
    exact .single (Placing.probedList_arm (Stmt.woven_place body true) placed)
  | .ifElse stmt, placed => by
    simp only [Stmt.place, Stmt.normalize, Stmt.arms, Placing.bind_apply, Placing.pure_apply]
    exact stmt.arms_place placed
  | .switch init tag clauses, placed => by
    simp only [Stmt.place, Stmt.normalize, Stmt.arms, Placing.bind_apply, Placing.pure_apply,
      CaseClause.armsList_normalized, CaseClause.missingArms_normalized,
      CaseClause.missingArms_place, List.append_nil]
    exact (Stmt.armsOption_place init placed).append <|
      (Expr.armsOption_place tag _).append (CaseClause.armsList_place clauses _ _)
  | .typeSwitch init assign clauses, placed => by
    simp only [Stmt.place, Stmt.normalize, Stmt.arms, Placing.bind_apply, Placing.pure_apply,
      CaseClause.armsList_normalized, CaseClause.missingArms_normalized,
      CaseClause.missingArms_place, List.append_nil]
    exact (Stmt.armsOption_place init placed).append <|
      (assign.arms_place _).append (CaseClause.armsList_place clauses _ _)
  | .select clauses, placed => by
    simp only [Stmt.place, Stmt.normalize, Stmt.arms, Placing.bind_apply, Placing.pure_apply]
    exact CommClause.armsList_place clauses placed
  | .loop init cond post body, placed => by
    simp only [Stmt.place, Stmt.normalize, Stmt.arms, Placing.bind_apply, Placing.pure_apply]
    exact (Stmt.armsOption_place init placed).append <| (Expr.armsOption_place cond _).append <|
      (Stmt.armsOption_place post _).append
        (.single (Placing.probedList_arm (Stmt.woven_place body true) _))
  | .range _ _ _ x body, placed => by
    simp only [Stmt.place, Stmt.normalize, Stmt.arms, Placing.bind_apply, Placing.pure_apply]
    exact (x.arms_place placed).append
      (.single (Placing.probedList_arm (Stmt.woven_place body true) _))

theorem Stmt.armsOption_place : ∀ (stmt : Option Stmt) (placed : Nat),
    ArmsProbed (Placing.Made probe) (Stmt.armsOption (Stmt.normalizeOption stmt))
      (Stmt.armsOption (Stmt.placeOption (next probe) stmt placed).1)
  | none, _ => by simp [Stmt.placeOption, Stmt.normalizeOption, Stmt.armsOption]
  | some stmt, placed => by
    simp only [Stmt.placeOption, Stmt.normalizeOption, Stmt.armsOption, Placing.bind_apply,
      Placing.pure_apply]
    exact stmt.arms_place placed

-- The flag is what the induction carries from statement to statement: as long as no `return` has
-- been seen, the probes still to come are those of the rest.
theorem Stmt.woven_place : ∀ (body : List Stmt) (reachable : Bool) (placed : Nat),
    Stmt.Woven (Placing.Made probe) (if reachable then Stmt.reach body else 0)
      (Stmt.normalizeList body) (Stmt.placeList (next probe) reachable body placed).1
  | [], reachable, _ => by
    simpa [Stmt.placeList, Stmt.normalizeList] using Stmt.Woven.nil
  | stmt :: rest, false, placed => by
    simp only [Stmt.placeList, Stmt.normalizeList]
    exact .bare (.arms (stmt.skeleton_place probe placed) (stmt.arms_place placed))
      (Stmt.woven_place rest false _)
  | stmt :: rest, true, placed => by
    have hstmt : Stmt.Probed (Placing.Made probe) stmt.normalize
        (stmt.place (next probe) (placed + 1)).1 :=
      .arms (stmt.skeleton_place probe (placed + 1)) (stmt.arms_place (placed + 1))
    have hrest := Stmt.woven_place rest (!stmt.isReturn) (stmt.place (next probe) (placed + 1)).2
    simp only [Stmt.placeList, Stmt.normalizeList, Placing.bind_apply, Placing.pure_apply,
      if_true, Stmt.reach_cons, Placing.next_apply]
    exact .probed (Placing.made probe (placed + 1)) hstmt hrest

theorem IfStmt.arms_place : ∀ (stmt : IfStmt) (placed : Nat),
    ArmsProbed (Placing.Made probe) stmt.normalize.arms (stmt.place (next probe) placed).1.arms
  | ⟨init, cond, body, none⟩, placed => by
    simp only [IfStmt.place, IfStmt.normalize, IfStmt.arms, Placing.bind_apply,
      Placing.pure_apply, Placing.next_apply]
    exact (Stmt.armsOption_place init placed).append <| (cond.arms_place _).append <|
      .cons (Placing.probedList_arm (Stmt.woven_place body true) _) <|
        .single (Placing.probedList_empty probe _)
  | ⟨init, cond, body, some (.block other)⟩, placed => by
    simp only [IfStmt.place, IfStmt.normalize, IfStmt.arms, Placing.bind_apply,
      Placing.pure_apply]
    exact (Stmt.armsOption_place init placed).append <| (cond.arms_place _).append <|
      .cons (Placing.probedList_arm (Stmt.woven_place body true) _) <|
        .single (Placing.probedList_arm (Stmt.woven_place other true) _)
  | ⟨init, cond, body, some (.elseIf stmt)⟩, placed => by
    simp only [IfStmt.place, IfStmt.normalize, IfStmt.arms, Placing.bind_apply,
      Placing.pure_apply, Placing.next_apply]
    exact (Stmt.armsOption_place init placed).append <| (cond.arms_place _).append <|
      .cons (Placing.probedList_arm (Stmt.woven_place body true) _) <|
        .single (Placing.probedList_ifElse (stmt.arms_place _))

theorem CaseClause.arms_place : ∀ (clause : CaseClause) (placed : Nat),
    ArmsProbed (Placing.Made probe) clause.normalize.arms (clause.place (next probe) placed).1.arms
  | .cases labels body, placed => by
    simp only [CaseClause.place, CaseClause.normalize, CaseClause.arms, Placing.bind_apply,
      Placing.pure_apply]
    exact (Expr.armsList_place labels placed).append
      (.single (Placing.probedList_arm (Stmt.woven_place body true) _))
  | .default body, placed => by
    simp only [CaseClause.place, CaseClause.normalize, CaseClause.arms, Placing.bind_apply,
      Placing.pure_apply]
    exact .single (Placing.probedList_arm (Stmt.woven_place body true) placed)

theorem CaseClause.armsList_place :
    ∀ (clauses : List CaseClause) (needsDefault : Bool) (placed : Nat),
      ArmsProbed (Placing.Made probe)
        (CaseClause.armsList (CaseClause.normalizeList clauses) ++
          if needsDefault then [[]] else [])
        (CaseClause.armsList (CaseClause.placeList (next probe) needsDefault clauses placed).1)
  | [], true, placed => .single (Placing.probedList_empty probe (placed + 1))
  | [], false, _ => .nil
  | clause :: rest, needsDefault, placed => by
    simp only [CaseClause.placeList, CaseClause.normalizeList, CaseClause.armsList,
      Placing.bind_apply, Placing.pure_apply, List.append_assoc]
    exact (clause.arms_place placed).append (CaseClause.armsList_place rest needsDefault _)

theorem CommClause.arms_place : ∀ (clause : CommClause) (placed : Nat),
    ArmsProbed (Placing.Made probe) clause.normalize.arms (clause.place (next probe) placed).1.arms
  | .comm stmt body, placed => by
    simp only [CommClause.place, CommClause.normalize, CommClause.arms, Placing.bind_apply,
      Placing.pure_apply]
    exact (stmt.arms_place placed).append
      (.single (Placing.probedList_arm (Stmt.woven_place body true) _))
  | .default body, placed => by
    simp only [CommClause.place, CommClause.normalize, CommClause.arms, Placing.bind_apply,
      Placing.pure_apply]
    exact .single (Placing.probedList_arm (Stmt.woven_place body true) placed)

theorem CommClause.armsList_place : ∀ (clauses : List CommClause) (placed : Nat),
    ArmsProbed (Placing.Made probe) (CommClause.armsList (CommClause.normalizeList clauses))
      (CommClause.armsList (CommClause.placeList (next probe) clauses placed).1)
  | [], _ => by simp [CommClause.placeList, CommClause.normalizeList, CommClause.armsList]
  | clause :: rest, placed => by
    simp only [CommClause.placeList, CommClause.normalizeList, CommClause.armsList,
      Placing.bind_apply, Placing.pure_apply]
    exact (clause.arms_place placed).append (CommClause.armsList_place rest _)

end

end

/-! ## Every arm starts with a probe -/

theorem exists_of_forall₂_right {α : Type} {R : α → α → Prop} {xs ys : List α}
    (h : List.Forall₂ R xs ys) {y : α} (hy : y ∈ ys) : ∃ x ∈ xs, R x y := by
  induction h with
  | nil => cases hy
  | @cons x _ _ _ hxy _ ih =>
    rcases List.mem_cons.1 hy with rfl | hy
    · exact ⟨x, List.mem_cons_self, hxy⟩
    · obtain ⟨other, hother, h⟩ := ih hy
      exact ⟨other, List.mem_cons_of_mem x hother, h⟩

namespace Stmt

/-- `arm` is `body` or stands inside it, at any depth. The insides of probes do not count. -/
inductive HasArm (IsProbe : Stmt → Prop) : Block → Block → Prop where
  | self (body : Block) : HasArm IsProbe body body
  | inside {body outer arm : Block} {stmt : Stmt} (hstmt : stmt ∈ body) (hother : ¬ IsProbe stmt)
      (houter : outer ∈ stmt.arms) (harm : HasArm IsProbe outer arm) : HasArm IsProbe body arm

theorem mem_weave {stmt : Stmt} {probes stmts : List Stmt} (h : stmt ∈ weave probes stmts) :
    stmt ∈ probes ∨ stmt ∈ stmts := by
  fun_induction weave probes stmts with
  | case1 stmts => exact .inr h
  | case2 probes => exact .inl h
  | case3 probe probes other stmts ih =>
    simp only [List.mem_cons] at h ⊢
    rcases h with rfl | rfl | h
    · simp
    · simp
    · rcases ih h with h | h <;> simp [h]

variable {IsProbe : Stmt → Prop} {body placed arm : Block}

theorem ProbedList.starts (h : ProbedList IsProbe body placed) :
    ∃ probe rest, placed = probe :: rest ∧ IsProbe probe := by
  obtain @⟨_, probes, stmts, hprobes, hcount, -⟩ := h
  match probes, stmts, hprobes with
  | [], _, _ => exact absurd hcount (ownProbes_pos body).ne
  | probe :: probes, [], hprobes => exact ⟨probe, probes, rfl, hprobes probe (by simp)⟩
  | probe :: probes, stmt :: stmts, hprobes =>
    exact ⟨probe, stmt :: Stmt.weave probes stmts, rfl, hprobes probe (by simp)⟩

/-- A statement that is no probe comes from one of the arm, and so do its arms. -/
theorem ProbedList.of_mem {stmt : Stmt} {outer : Block} (h : ProbedList IsProbe body placed)
    (hstmt : stmt ∈ placed) (hother : ¬ IsProbe stmt) (houter : outer ∈ stmt.arms) :
    ∃ inner, ProbedList IsProbe inner outer := by
  obtain ⟨hprobes, -, hplaced⟩ := h
  rcases mem_weave hstmt with hstmt | hstmt
  · exact absurd (hprobes stmt hstmt) hother
  · obtain ⟨_, -, ⟨-, harms⟩⟩ := exists_of_forall₂_right hplaced hstmt
    obtain ⟨inner, -, hinner⟩ := exists_of_forall₂_right harms houter
    exact ⟨inner, hinner⟩

theorem HasArm.starts (harm : HasArm IsProbe placed arm) (h : ProbedList IsProbe body placed) :
    ∃ probe rest, arm = probe :: rest ∧ IsProbe probe := by
  induction harm generalizing body with
  | self placed => exact h.starts
  | inside hstmt hother houter _ ih =>
    obtain ⟨inner, hinner⟩ := h.of_mem hstmt hother houter
    exact ih hinner

end Stmt

theorem Stmt.probedList_placeBody (probe : Nat → Stmt) (body : Block) (placed : Nat) :
    Stmt.ProbedList (Placing.Made probe) (Stmt.normalizeList body)
      (Stmt.placeBody (next probe) body placed).1 :=
  Placing.probedList_arm (Stmt.woven_place probe body true) placed

/-- In the probed copy of a function every list of statements has its probes: one if it is empty,
otherwise one before each statement up to and including the first `return`. So every arm starts
with a probe, and the ledger counts what the normal form of the body asks for. -/
theorem ProbePlan.probedList_probeFunc [WordHash] {plan : ProbePlan} {func : FuncDecl}
    {body : Block} {patch : Patch} {before after : Ledger} (hbody : func.body = some body)
    (hrun : (plan.probeFunc func).runOn before = (.ok (some patch), after)) :
    ∃ placed, patch.probed.body = some placed ∧
      Stmt.ProbedList (Placing.Made plan.probe) (Stmt.normalizeList body) placed ∧
      (∀ arm, Stmt.HasArm (Placing.Made plan.probe) placed arm →
        ∃ probe rest, arm = probe :: rest ∧ Placing.Made plan.probe probe) ∧
      after.placed = before.placed + Stmt.probeCount (Stmt.normalizeList body) := by
  obtain ⟨rfl, rfl⟩ := patch_of_probeFunc hbody hrun
  have hplaced := Stmt.probedList_placeBody plan.probe body before.placed
  refine ⟨_, Backend.body_probed_finalize _ _ _, hplaced, fun arm harm => harm.starts hplaced, ?_⟩
  exact Stmt.placeBody_snd plan.probe body before.placed

open Standard in
theorem ProbePlan.probedList_probeFunc_sample :
    ∃ patch after,
      (probeFunc ⟨.trace "trace" 8, .sequential, ["f"]⟩ (.sample "f")).runOn {} =
        (.ok (some patch), after) ∧ after.placed = 11 ∧
      ∃ placed, patch.probed.body = some placed ∧
        Stmt.ProbedList (Placing.Made (probe ⟨.trace "trace" 8, .sequential, ["f"]⟩))
          (Stmt.normalizeList Stmt.sampleBody) placed := by
  obtain ⟨patch, after, hrun, hcount⟩ : ∃ patch after,
      (probeFunc ⟨.trace "trace" 8, .sequential, ["f"]⟩ (.sample "f")).runOn {} =
        (.ok (some patch), after) ∧ after.placed = 11 := ⟨_, _, rfl, rfl⟩
  obtain ⟨placed, hplaced, hprobed, -⟩ := probedList_probeFunc rfl hrun
  exact ⟨patch, after, hrun, hcount, placed, hplaced, hprobed⟩

end GoProbe
