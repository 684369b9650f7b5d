import Mathlib
import GoProbe.Proofs.ArmsProbed

/-!
# Closures have their probes

`closures` lists the function literals of a tree in written order, those inside a literal after it.
Only types are left out. A literal in the key or the value of a range is marked: these two operands
are kept as they are, all others are gone through.

A placement puts no literals in and takes none out, so the literals of a tree and of the placed tree
correspond one by one (`Stmt.closuresList_placeBody`). A literal that is not marked has its own
probes, and the first statement of its body is one of them; a marked one is kept with its body.
-/

namespace GoProbe

open Placing (next)

/-- A function literal. -/
structure Closure where
  type : FuncType
  body : Block
  /-- It stands in the key or the value of a range. -/
  inTarget : Bool := false

/-- The literal, marked as standing in the key or the value of a range. -/
def Closure.asTarget (closure : Closure) : Closure := { closure with inTarget := true }

/-! ## The closures of a tree -/

mutual

def Expr.closures : Expr → List Closure
  | .compositeLit _ elements => Expr.closuresList elements
  | .funcLit type body => ⟨type, body, false⟩ :: Stmt.closuresList body
  | .paren x => x.closures
  | .selector x _ => x.closures
  | .index x indices => x.closures ++ Expr.closuresList indices
  | .slice x low high max =>
    x.closures ++ (Expr.closuresOption low ++ (Expr.closuresOption high ++
      Expr.closuresOption max))
  | .typeAssert x _ => x.closures
  | .call fn args _ => fn.closures ++ Expr.closuresList args
  | .star x => x.closures
  | .unary _ x _ => x.closures
  | .binary x _ y => x.closures ++ y.closures
  | .keyValue key value => key.closures ++ value.closures
  | .ident _ | .basicLit _ | .arrayType _ _ | .structType _ | .funcType _ | .interfaceType _
  | .mapType _ _ | .chanType _ _ | .ellipsis _ => []

def Expr.closuresOption : Option Expr → List Closure
  | none => []
  | some x => x.closures

def Expr.closuresList : List Expr → List Closure
  | [] => []
  | x :: rest => x.closures ++ Expr.closuresList rest

def Spec.closures : Spec → List Closure
  | .value _ _ values => Expr.closuresList values
  | .imports _ | .type _ _ _ _ => []

def Spec.closuresList : List Spec → List Closure
  | [] => []
  | spec :: rest => spec.closures ++ Spec.closuresList rest

def GenDecl.closures : GenDecl → List Closure
  | ⟨_, specs, _⟩ => Spec.closuresList specs

def Stmt.closures : Stmt → List Closure
  | .decl decl => decl.closures
  | .empty | .branch _ _ => []
  | .labeled _ stmt => stmt.closures
  | .expr x => x.closures
  | .send chan value => chan.closures ++ value.closures
  | .incDec x _ => x.closures
  | .assign lhs _ rhs => Expr.closuresList lhs ++ Expr.closuresList rhs
  | .go call => call.closures
  | .defer call => call.closures
  | .return results => Expr.closuresList results
  | .block body => Stmt.closuresList body
  | .ifElse stmt => stmt.closures
  | .switch init tag clauses =>
    Stmt.closuresOption init ++ (Expr.closuresOption tag ++ CaseClause.closuresList clauses)
  | .typeSwitch init assign clauses =>
    Stmt.closuresOption init ++ (assign.closures ++ CaseClause.closuresList clauses)
  | .select clauses => CommClause.closuresList clauses
  | .loop init cond post body =>
    Stmt.closuresOption init ++ (Expr.closuresOption cond ++ (Stmt.closuresOption post ++
      Stmt.closuresList body))
  | .range key value _ x body =>
    (Expr.closuresOption key ++ Expr.closuresOption value).map Closure.asTarget ++
      (x.closures ++ Stmt.closuresList body)

def Stmt.closuresOption : Option Stmt → List Closure
  | none => []
  | some stmt => stmt.closures

def Stmt.closuresList : List Stmt → List Closure
  | [] => []
  | stmt :: rest => stmt.closures ++ Stmt.closuresList rest

def IfStmt.closures : IfStmt → List Closure
  | ⟨init, cond, body, otherwise⟩ =>
    Stmt.closuresOption init ++ (cond.closures ++ (Stmt.closuresList body ++
      match otherwise with
      | none => []
      | some (.block body) => Stmt.closuresList body
      | some (.elseIf stmt) => stmt.closures))

def CaseClause.closures : CaseClause → List Closure
  | .cases labels body => Expr.closuresList labels ++ Stmt.closuresList body
  | .default body => Stmt.closuresList body

def CaseClause.closuresList : List CaseClause → List Closure
  | [] => []
  | clause :: rest => clause.closures ++ CaseClause.closuresList rest

def CommClause.closures : CommClause → List Closure
  | .comm stmt body => stmt.closures ++ Stmt.closuresList body
  | .default body => Stmt.closuresList body

def CommClause.closuresList : List CommClause → List Closure
  | [] => []
  | clause :: rest => clause.closures ++ CommClause.closuresList rest

end

/-! ## Closures and their placed copies -/

/-- `placed` is the literal with probes in its body, or the literal as it is if it is marked. -/
structure Closure.ProbedAs (probe : Nat → Stmt) (closure placed : Closure) : Prop where
  type : placed.type = closure.type
  inTarget : placed.inTarget = closure.inTarget
  probed : closure.inTarget = false →
    Stmt.ProbedList (Placing.Made probe) (Stmt.normalizeList closure.body) placed.body ∧
      ∃ number rest, placed.body = probe number :: rest
  kept : closure.inTarget = true → placed.body = closure.body

/-- Literals and their placed copies, in the same order. -/
abbrev ClosuresProbed (probe : Nat → Stmt) : List Closure → List Closure → Prop :=
  List.Forall₂ (Closure.ProbedAs probe)

namespace ClosuresProbed

variable {probe : Nat → Stmt} {left right left' right' : List Closure}

theorem append (hleft : ClosuresProbed probe left left')
    (hright : ClosuresProbed probe right right') :
    ClosuresProbed probe (left ++ right) (left' ++ right') :=
  List.rel_append hleft hright

theorem targets (closures : List Closure) :
    ClosuresProbed probe (closures.map Closure.asTarget) (closures.map Closure.asTarget) := by
  refine List.forall₂_same.2 fun closure hclosure => ?_
  obtain ⟨_, _, rfl⟩ := List.mem_map.1 hclosure
  exact ⟨rfl, rfl, fun h => Bool.noConfusion h, fun _ => rfl⟩

/-- A literal outside of ranges, with the literals in its body. -/
theorem funcLit (type : FuncType) {body : Block} {closures closures' : List Closure}
    (hbody : ClosuresProbed probe closures closures') (placed : Nat) :
    ClosuresProbed probe (⟨type, body, false⟩ :: closures)
      (⟨type, (Stmt.placeBody (next probe) body placed).1, false⟩ :: closures') := by
  have hlist := Stmt.probedList_placeBody probe body placed
  obtain ⟨first, rest, hfirst, number, rfl⟩ := hlist.starts
  refine .cons ⟨rfl, rfl, fun _ => ⟨hlist, number, rest, hfirst⟩, fun h => ?_⟩ hbody
  exact Bool.noConfusion h

end ClosuresProbed

@[simp] theorem ProbePlan.closures_probe [WordHash] (plan : ProbePlan) (number : Nat) :
    (plan.probe number).closures = [] := by
  obtain ⟨_ | _, policy, tracked⟩ := plan <;> rfl

section

variable [WordHash] (plan : ProbePlan)

theorem Placing.closures_arm {body : Block}
    (hlist : ∀ placed, ClosuresProbed plan.probe (Stmt.closuresList body)
      (Stmt.closuresList (Stmt.placeList (next plan.probe) true body placed).1)) (placed : Nat) :
    ClosuresProbed plan.probe (Stmt.closuresList body)
      (Stmt.closuresList (Stmt.placeArm (next plan.probe) body
        (Stmt.placeList (next plan.probe) true body) placed).1) := by
  cases body with
  | nil => simp [Stmt.closuresList]
  | cons stmt rest => exact hlist placed

mutual

theorem Expr.closures_place : ∀ (x : Expr) (placed : Nat),
    ClosuresProbed plan.probe x.closures (x.place (next plan.probe) placed).1.closures
  | .ident _, _ | .basicLit _, _ | .arrayType _ _, _ | .structType _, _ | .funcType _, _
  | .interfaceType _, _ | .mapType _ _, _ | .chanType _ _, _ | .ellipsis _, _ => by
    simp [Expr.place, Expr.closures]
  | .compositeLit _ elements, placed => by
    simp only [Expr.place, Expr.closures, Placing.bind_apply, Placing.pure_apply]
    exact Expr.closuresList_place elements placed
  | .funcLit type body, placed => by
    simp only [Expr.place, Expr.closures, Placing.bind_apply, Placing.pure_apply]
    exact .funcLit type (Placing.closures_arm plan (Stmt.closuresList_place body true) placed)
      placed
  | .paren x, placed | .selector x _, placed | .typeAssert x _, placed | .star x, placed
  | .unary _ x _, placed => by
    simp only [Expr.place, Expr.closures, Placing.bind_apply, Placing.pure_apply]
    exact x.closures_place placed
  | .index x indices, placed => by
    simp only [Expr.place, Expr.closures, Placing.bind_apply, Placing.pure_apply]
    exact (x.closures_place placed).append (Expr.closuresList_place indices _)
  | .slice x low high max, placed => by
    simp only [Expr.place, Expr.closures, Placing.bind_apply, Placing.pure_apply]
    exact (x.closures_place placed).append <| (Expr.closuresOption_place low _).append <|
      (Expr.closuresOption_place high _).append (Expr.closuresOption_place max _)
  | .call fn args _, placed => by
    simp only [Expr.place, Expr.closures, Placing.bind_apply, Placing.pure_apply]
    exact (fn.closures_place placed).append (Expr.closuresList_place args _)
  | .binary x _ y, placed | .keyValue x y, placed => by
    simp only [Expr.place, Expr.closures, Placing.bind_apply, Placing.pure_apply]
    exact (x.closures_place placed).append (y.closures_place _)

theorem Expr.closuresOption_place : ∀ (x : Option Expr) (placed : Nat),
    ClosuresProbed plan.probe (Expr.closuresOption x)
      (Expr.closuresOption (Expr.placeOption (next plan.probe) x placed).1)
  | none, _ => by simp [Expr.placeOption, Expr.closuresOption]
  | some x, placed => by
    simp only [Expr.placeOption, Expr.closuresOption, Placing.bind_apply, Placing.pure_apply]
    exact x.closures_place placed

theorem Expr.closuresList_place : ∀ (xs : List Expr) (placed : Nat),
    ClosuresProbed plan.probe (Expr.closuresList xs)
      (Expr.closuresList (Expr.placeList (next plan.probe) xs placed).1)
  | [], _ => by simp [Expr.placeList, Expr.closuresList]
  | x :: rest, placed => by
    simp only [Expr.placeList, Expr.closuresList, Placing.bind_apply, Placing.pure_apply]
    exact (x.closures_place placed).append (Expr.closuresList_place rest _)

theorem Spec.closures_place : ∀ (spec : Spec) (placed : Nat),
    ClosuresProbed plan.probe spec.closures (spec.place (next plan.probe) placed).1.closures
  | .imports _, _ | .type _ _ _ _, _ => by simp [Spec.place, Spec.closures]
  | .value _ _ values, placed => by
    simp only [Spec.place, Spec.closures, Placing.bind_apply, Placing.pure_apply]
    exact Expr.closuresList_place values placed

theorem Spec.closuresList_place : ∀ (specs : List Spec) (placed : Nat),
    ClosuresProbed plan.probe (Spec.closuresList specs)
      (Spec.closuresList (Spec.placeList (next plan.probe) specs placed).1)
  | [], _ => by simp [Spec.placeList, Spec.closuresList]
  | spec :: rest, placed => by
    simp only [Spec.placeList, Spec.closuresList, Placing.bind_apply, Placing.pure_apply]
    exact (spec.closures_place placed).append (Spec.closuresList_place rest _)

theorem GenDecl.closures_place : ∀ (decl : GenDecl) (placed : Nat),
    ClosuresProbed plan.probe decl.closures (decl.place (next plan.probe) placed).1.closures
  | ⟨_, specs, _⟩, placed => by
    simp only [GenDecl.place, GenDecl.closures, Placing.bind_apply, Placing.pure_apply]
    exact Spec.closuresList_place specs placed

theorem Stmt.closures_place : ∀ (stmt : Stmt) (placed : Nat),
    ClosuresProbed plan.probe stmt.closures (stmt.place (next plan.probe) placed).1.closures
  | .empty, _ | .branch _ _, _ => by simp [Stmt.place, Stmt.closures]
  | .decl decl, placed => by
    simp only [Stmt.place, Stmt.closures, Placing.bind_apply, Placing.pure_apply]
    exact decl.closures_place placed
  | .labeled _ stmt, placed => by
    simp only [Stmt.place, Stmt.closures, Placing.bind_apply, Placing.pure_apply]
    exact stmt.closures_place placed
  | .expr x, placed | .incDec x _, placed | .go x, placed | .defer x, placed => by
    simp only [Stmt.place, Stmt.closures, Placing.bind_apply, Placing.pure_apply]
    exact x.closures_place placed
  | .send chan value, placed => by
    simp only [Stmt.place, Stmt.closures, Placing.bind_apply, Placing.pure_apply]
    exact (chan.closures_place placed).append (value.closures_place _)
  | .assign lhs _ rhs, placed => by
    simp only [Stmt.place, Stmt.closures, Placing.bind_apply, Placing.pure_apply]
    exact (Expr.closuresList_place lhs placed).append (Expr.closuresList_place rhs _)
  | .return results, placed => by
    simp only [Stmt.place, Stmt.closures, Placing.bind_apply, Placing.pure_apply]
    exact Expr.closuresList_place results placed
  | .block body, placed => by
    simp only [Stmt.place, Stmt.closures, Placing.bind_apply, Placing.pure_apply]
    exact Placing.closures_arm plan (Stmt.closuresList_place body true) placed
  | .ifElse stmt, placed => by
    simp only [Stmt.place, Stmt.closures, Placing.bind_apply, Placing.pure_apply]
    exact stmt.closures_place placed
  | .switch init tag clauses, placed => by
    simp only [Stmt.place, Stmt.closures, Placing.bind_apply, Placing.pure_apply]
    exact (Stmt.closuresOption_place init placed).append <|
      (Expr.closuresOption_place tag _).append (CaseClause.closuresList_place clauses _ _)
  | .typeSwitch init assign clauses, placed => by
    simp only [Stmt.place, Stmt.closures, Placing.bind_apply, Placing.pure_apply]
    exact (Stmt.closuresOption_place init placed).append <|
      (assign.closures_place _).append (CaseClause.closuresList_place clauses _ _)
  | .select clauses, placed => by
    simp only [Stmt.place, Stmt.closures, Placing.bind_apply, Placing.pure_apply]
    exact CommClause.closuresList_place clauses placed
  | .loop init cond post body, placed => by
    simp only [Stmt.place, Stmt.closures, Placing.bind_apply, Placing.pure_apply]
    exact (Stmt.closuresOption_place init placed).append <|
      (Expr.closuresOption_place cond _).append <| (Stmt.closuresOption_place post _).append
        (Placing.closures_arm plan (Stmt.closuresList_place body true) _)
  | .range key value _ x body, placed => by
    -- the key and the value are the two operands that stay as they are
    simp only [Stmt.place, Stmt.closures, Placing.bind_apply, Placing.pure_apply]
    exact (ClosuresProbed.targets _).append <| (x.closures_place placed).append
      (Placing.closures_arm plan (Stmt.closuresList_place body true) _)

theorem Stmt.closuresOption_place : ∀ (stmt : Option Stmt) (placed : Nat),
    ClosuresProbed plan.probe (Stmt.closuresOption stmt)
      (Stmt.closuresOption (Stmt.placeOption (next plan.probe) stmt placed).1)
  | none, _ => by simp [Stmt.placeOption, Stmt.closuresOption]
  | some stmt, placed => by
    simp only [Stmt.placeOption, Stmt.closuresOption, Placing.bind_apply, Placing.pure_apply]
    exact stmt.closures_place placed

theorem Stmt.closuresList_place : ∀ (body : List Stmt) (reachable : Bool) (placed : Nat),
    ClosuresProbed plan.probe (Stmt.closuresList body)
      (Stmt.closuresList (Stmt.placeList (next plan.probe) reachable body placed).1)
  | [], _, _ => by simp [Stmt.placeList, Stmt.closuresList]
  | stmt :: rest, false, placed => by
    simp only [Stmt.placeList, Stmt.closuresList]
    exact (stmt.closures_place placed).append (Stmt.closuresList_place rest false _)
  | stmt :: rest, true, placed => by
    simp only [Stmt.placeList, Placing.bind_apply, Placing.pure_apply, if_true,
      Placing.next_apply, List.cons_append, List.nil_append, Stmt.closuresList,
      ProbePlan.closures_probe]
    exact (stmt.closures_place _).append (Stmt.closuresList_place rest _ _)

theorem IfStmt.closures_place : ∀ (stmt : IfStmt) (placed : Nat),
    ClosuresProbed plan.probe stmt.closures (stmt.place (next plan.probe) placed).1.closures
  | ⟨init, cond, body, none⟩, placed => by
    simp only [IfStmt.place, IfStmt.closures, Placing.bind_apply, Placing.pure_apply,
      Placing.next_apply, Stmt.closuresList, ProbePlan.closures_probe, List.append_nil]
    exact (Stmt.closuresOption_place init placed).append <| (cond.closures_place _).append
      (Placing.closures_arm plan (Stmt.closuresList_place body true) _)
  | ⟨init, cond, body, some (.block other)⟩, placed => by
    simp only [IfStmt.place, IfStmt.closures, Placing.bind_apply, Placing.pure_apply]
    exact (Stmt.closuresOption_place init placed).append <| (cond.closures_place _).append <|
      (Placing.closures_arm plan (Stmt.closuresList_place body true) _).append
        (Placing.closures_arm plan (Stmt.closuresList_place other true) _)
  | ⟨init, cond, body, some (.elseIf stmt)⟩, placed => by
    simp only [IfStmt.place, IfStmt.closures, Placing.bind_apply, Placing.pure_apply,
      Placing.next_apply, Stmt.closuresList, Stmt.closures,
      ProbePlan.closures_probe, List.nil_append, List.append_nil]
    exact (Stmt.closuresOption_place init placed).append <| (cond.closures_place _).append <|
      (Placing.closures_arm plan (Stmt.closuresList_place body true) _).append
        (stmt.closures_place _)

theorem CaseClause.closures_place : ∀ (clause : CaseClause) (placed : Nat),
    ClosuresProbed plan.probe clause.closures (clause.place (next plan.probe) placed).1.closures
  | .cases labels body, placed => by
    simp only [CaseClause.place, CaseClause.closures, Placing.bind_apply, Placing.pure_apply]
    exact (Expr.closuresList_place labels placed).append
      (Placing.closures_arm plan (Stmt.closuresList_place body true) _)
  | .default body, placed => by
    simp only [CaseClause.place, CaseClause.closures, Placing.bind_apply, Placing.pure_apply]
    exact Placing.closures_arm plan (Stmt.closuresList_place body true) placed

theorem CaseClause.closuresList_place :
    ∀ (clauses : List CaseClause) (needsDefault : Bool) (placed : Nat),
      ClosuresProbed plan.probe (CaseClause.closuresList clauses)
        (CaseClause.closuresList
          (CaseClause.placeList (next plan.probe) needsDefault clauses placed).1)
  | [], true, placed => by
    simp [CaseClause.placeList, CaseClause.closuresList, CaseClause.closures, Stmt.closuresList]
  | [], false, _ => by simp [CaseClause.placeList, CaseClause.closuresList]
  | clause :: rest, needsDefault, placed => by
    simp only [CaseClause.placeList, CaseClause.closuresList, Placing.bind_apply,
      Placing.pure_apply]
    exact (clause.closures_place placed).append
      (CaseClause.closuresList_place rest needsDefault _)

theorem CommClause.closures_place : ∀ (clause : CommClause) (placed : Nat),
    ClosuresProbed plan.probe clause.closures (clause.place (next plan.probe) placed).1.closures
  | .comm stmt body, placed => by
    simp only [CommClause.place, CommClause.closures, Placing.bind_apply, Placing.pure_apply]
    exact (stmt.closures_place placed).append
      (Placing.closures_arm plan (Stmt.closuresList_place body true) _)
  | .default body, placed => by
    simp only [CommClause.place, CommClause.closures, Placing.bind_apply, Placing.pure_apply]
    exact Placing.closures_arm plan (Stmt.closuresList_place body true) placed

theorem CommClause.closuresList_place : ∀ (clauses : List CommClause) (placed : Nat),
    ClosuresProbed plan.probe (CommClause.closuresList clauses)
      (CommClause.closuresList (CommClause.placeList (next plan.probe) clauses placed).1)
  | [], _ => by simp [CommClause.placeList, CommClause.closuresList]
  | clause :: rest, placed => by
    simp only [CommClause.placeList, CommClause.closuresList, Placing.bind_apply,
      Placing.pure_apply]
    exact (clause.closures_place placed).append (CommClause.closuresList_place rest _)

end

/-- The literals of a function body and of the placed body correspond one by one. -/
theorem Stmt.closuresList_placeBody (body : Block) (placed : Nat) :
    ClosuresProbed plan.probe (Stmt.closuresList body)
      (Stmt.closuresList (Stmt.placeBody (next plan.probe) body placed).1) :=
  Placing.closures_arm plan (Stmt.closuresList_place plan body true) placed

end

/-- The function literals of a function and of its probed copy correspond one by one, in written
order, wherever they stand in operands, labels, initialisers or other literals. Each has its own
probes, the first of them at the start of its body, unless it stands in the key or the value of a
range: such a literal is kept as it is. -/
theorem ProbePlan.closuresProbed_probeFunc [WordHash] {plan : ProbePlan} {func : FuncDecl}
    {body : Block} {patch : Patch} {before after : Ledger} (hbody : func.body = some body)
    (hrun : (plan.probeFunc func).runOn before = (.ok (some patch), after)) :
    ∃ placed, patch.probed.body = some placed ∧
      List.Forall₂ (Closure.ProbedAs plan.probe) (Stmt.closuresList body)
        (Stmt.closuresList placed) := by
  obtain ⟨rfl, rfl⟩ := patch_of_probeFunc hbody hrun
  exact ⟨_, Backend.body_probed_finalize _ _ _,
    Stmt.closuresList_placeBody plan body before.placed⟩

/-- `for m[func() { return }()] = range func() { }() { defer func() { }() }`, with a literal in each
operand and one in the body. -/
def FuncDecl.rangeSample : FuncDecl :=
  { FuncDecl.sample "f" with
    body := some
      [.range (some (.index (.name "m") [.apply (.funcLit ⟨[], []⟩ [.return []]) []])) none false
        (.apply (.funcLit ⟨[], []⟩ []) []) [.defer (.apply (.funcLit ⟨[], []⟩ []) [])]] }

open Standard in
theorem ProbePlan.closuresProbed_probeFunc_sample :
    ∃ patch after placed,
      (probeFunc ⟨.table "T" "t.go", .sequential, ["f"]⟩ .rangeSample).runOn {} =
        (.ok (some patch), after) ∧ after.placed = 4 ∧ patch.probed.body = some placed ∧
      List.Forall₂ (Closure.ProbedAs (probe ⟨.table "T" "t.go", .sequential, ["f"]⟩))
        [⟨⟨[], []⟩, [.return []], true⟩, ⟨⟨[], []⟩, [], false⟩, ⟨⟨[], []⟩, [], false⟩]
        (Stmt.closuresList placed) := by
  obtain ⟨patch, after, hrun, hcount⟩ : ∃ patch after,
      (probeFunc ⟨.table "T" "t.go", .sequential, ["f"]⟩ .rangeSample).runOn {} =
        (.ok (some patch), after) ∧ after.placed = 4 := ⟨_, _, rfl, rfl⟩
  obtain ⟨placed, hplaced, hclosures⟩ := closuresProbed_probeFunc rfl hrun
  exact ⟨patch, after, placed, hrun, hcount, hplaced, hclosures⟩

open Standard in
/-- The literal in the key of a range has no probe after a run that succeeds. -/
theorem ProbePlan.closure_in_range_key_unprobed :
    ∃ patch after placed others,
      (probeFunc ⟨.table "T" "t.go", .sequential, ["f"]⟩ .rangeSample).runOn {} =
        (.ok (some patch), after) ∧ patch.probed.body = some placed ∧
      Stmt.closuresList placed = ⟨⟨[], []⟩, [.return []], true⟩ :: others ∧
      ∀ number rest,
        [Stmt.return []] ≠ probe ⟨.table "T" "t.go", .sequential, ["f"]⟩ number :: rest := by
  refine ⟨_, _, _, _, rfl, rfl, rfl, fun number rest h => ?_⟩
  simp [probe, Backend.probe] at h

end GoProbe
