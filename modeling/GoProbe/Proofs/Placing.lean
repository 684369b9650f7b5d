import Mathlib
import GoProbe.Probe.Placement

/-!
# Placements that count

A placement takes its probes from a computation that it does not look into. So it does the same in
two monads if their computations go in lockstep (`Lockstep`): it is enough that single probes do
(`Expr.place_lockstep` and the lemmas after it). This is the one induction over all forms that such
results need.

The simplest placement counts: its state is the number of the last probe, and `probe` gives the
statement for each number (`Placing.next`).
-/

namespace GoProbe

/-! ## Lockstep -/

/-- A relation between the computations of two monads. It holds of the probes, and of what is put
together if it holds of the parts. -/
structure Lockstep {m n : Type → Type} [Monad m] [Monad n] (next : m Stmt) (other : n Stmt) where
  Rel {α : Type} : m α → n α → Prop
  next : Rel next other
  pure {α : Type} (a : α) : Rel (Pure.pure a) (Pure.pure a)
  bind {α β : Type} {work : m α} {otherWork : n α} {rest : α → m β} {otherRest : α → n β}
    (hwork : Rel work otherWork) (hrest : ∀ a, Rel (rest a) (otherRest a)) :
    Rel (work >>= rest) (otherWork >>= otherRest)

namespace Lockstep

variable {m n : Type → Type} [Monad m] [Monad n] {next : m Stmt} {other : n Stmt}
  (lockstep : Lockstep next other) {α β : Type}

theorem map {work : m α} {otherWork : n α} (h : lockstep.Rel work otherWork) (f : α → β) :
    lockstep.Rel (work >>= fun a => Pure.pure (f a)) (otherWork >>= fun a => Pure.pure (f a)) :=
  lockstep.bind h fun a => lockstep.pure (f a)

theorem mapM [LawfulMonad m] [LawfulMonad n] {work : α → m β} {otherWork : α → n β}
    {items : List α} (h : ∀ item ∈ items, lockstep.Rel (work item) (otherWork item)) :
    lockstep.Rel (items.mapM work) (items.mapM otherWork) := by
  induction items with
  | nil => exact lockstep.pure []
  | cons item items ih =>
    rw [List.forall_mem_cons] at h
    rw [List.mapM_cons, List.mapM_cons]
    exact lockstep.bind h.1 fun _ => lockstep.map (ih h.2) _

end Lockstep

/-- What a placement does with a list in a tree is what it does with a body. -/
theorem Stmt.placeArm_eq_placeBody {m : Type → Type} [Monad m] (next : m Stmt) (body : Block) :
    Stmt.placeArm next body (Stmt.placeList next true body) = Stmt.placeBody next body := rfl

section

variable {m n : Type → Type} [Monad m] [Monad n] {next : m Stmt} {other : n Stmt}
  (lockstep : Lockstep next other)

theorem Stmt.placeArm_lockstep {body : Block} {work : m Block} {otherWork : n Block}
    (hwork : lockstep.Rel work otherWork) :
    lockstep.Rel (Stmt.placeArm next body work) (Stmt.placeArm other body otherWork) := by
  cases body with
  | nil => exact lockstep.map lockstep.next ([·])
  | cons stmt rest => exact hwork

mutual

theorem Expr.place_lockstep : ∀ x : Expr, lockstep.Rel (x.place next) (x.place other)
  | .ident _ | .basicLit _ | .arrayType _ _ | .structType _ | .funcType _ | .interfaceType _
  | .mapType _ _ | .chanType _ _ | .ellipsis _ => by
    simp only [Expr.place]
    exact lockstep.pure _
  | .compositeLit _ elements => by
    simp only [Expr.place]
    exact lockstep.map (Expr.placeList_lockstep elements) _
  | .funcLit _ body => by
    simp only [Expr.place]
    exact lockstep.map (Stmt.placeArm_lockstep lockstep (Stmt.placeList_lockstep true body)) _
  | .paren x | .selector x _ | .typeAssert x _ | .star x | .unary _ x _ => by
    simp only [Expr.place]
    exact lockstep.map x.place_lockstep _
  | .index x indices => by
    simp only [Expr.place]
    exact lockstep.bind x.place_lockstep fun _ => lockstep.map (Expr.placeList_lockstep indices) _
  | .slice x low high max => by
    simp only [Expr.place]
    exact lockstep.bind x.place_lockstep fun _ =>
      lockstep.bind (Expr.placeOption_lockstep low) fun _ =>
        lockstep.bind (Expr.placeOption_lockstep high) fun _ =>
          lockstep.map (Expr.placeOption_lockstep max) _
  | .call fn args _ => by
    simp only [Expr.place]
    exact lockstep.bind fn.place_lockstep fun _ => lockstep.map (Expr.placeList_lockstep args) _
  | .binary x _ y | .keyValue x y => by
    simp only [Expr.place]
    exact lockstep.bind x.place_lockstep fun _ => lockstep.map y.place_lockstep _

theorem Expr.placeOption_lockstep : ∀ x : Option Expr,
    lockstep.Rel (Expr.placeOption next x) (Expr.placeOption other x)
  | none => by
    simp only [Expr.placeOption]
    exact lockstep.pure _
  | some x => by
    simp only [Expr.placeOption]
    exact lockstep.map x.place_lockstep _

theorem Expr.placeList_lockstep : ∀ xs : List Expr,
    lockstep.Rel (Expr.placeList next xs) (Expr.placeList other xs)
  | [] => by
    simp only [Expr.placeList]
    exact lockstep.pure _
  | x :: rest => by
    simp only [Expr.placeList]
    exact lockstep.bind x.place_lockstep fun _ => lockstep.map (Expr.placeList_lockstep rest) _

theorem Spec.place_lockstep : ∀ spec : Spec, lockstep.Rel (spec.place next) (spec.place other)
  | .imports _ | .type _ _ _ _ => by
    simp only [Spec.place]
    exact lockstep.pure _
  | .value _ _ values => by
    simp only [Spec.place]
    exact lockstep.map (Expr.placeList_lockstep values) _

theorem Spec.placeList_lockstep : ∀ specs : List Spec,
    lockstep.Rel (Spec.placeList next specs) (Spec.placeList other specs)
  | [] => by
    simp only [Spec.placeList]
    exact lockstep.pure _
  | spec :: rest => by
    simp only [Spec.placeList]
    exact lockstep.bind spec.place_lockstep fun _ => lockstep.map (Spec.placeList_lockstep rest) _

theorem GenDecl.place_lockstep : ∀ decl : GenDecl,
    lockstep.Rel (decl.place next) (decl.place other)
  | ⟨_, specs, _⟩ => by
    simp only [GenDecl.place]
    exact lockstep.map (Spec.placeList_lockstep specs) _

theorem Stmt.place_lockstep : ∀ stmt : Stmt, lockstep.Rel (stmt.place next) (stmt.place other)
  | .empty | .branch _ _ => by
    simp only [Stmt.place]
    exact lockstep.pure _
  | .decl decl => by
    simp only [Stmt.place]
    exact lockstep.map decl.place_lockstep _
  | .labeled _ stmt => by
    simp only [Stmt.place]
    exact lockstep.map stmt.place_lockstep _
  | .expr x | .incDec x _ | .go x | .defer x => by
    simp only [Stmt.place]
    exact lockstep.map x.place_lockstep _
  | .send chan value => by
    simp only [Stmt.place]
    exact lockstep.bind chan.place_lockstep fun _ => lockstep.map value.place_lockstep _
  | .assign lhs _ rhs => by
    simp only [Stmt.place]
    exact lockstep.bind (Expr.placeList_lockstep lhs) fun _ =>
      lockstep.map (Expr.placeList_lockstep rhs) _
  | .return results => by
    simp only [Stmt.place]
    exact lockstep.map (Expr.placeList_lockstep results) _
  | .block body => by
    simp only [Stmt.place]
    exact lockstep.map (Stmt.placeArm_lockstep lockstep (Stmt.placeList_lockstep true body)) _
  | .ifElse stmt => by
    simp only [Stmt.place]
    exact lockstep.map stmt.place_lockstep _
  | .switch init tag clauses => by
    simp only [Stmt.place]
    exact lockstep.bind (Stmt.placeOption_lockstep init) fun _ =>
      lockstep.bind (Expr.placeOption_lockstep tag) fun _ =>
        lockstep.map (CaseClause.placeList_lockstep _ clauses) _
  | .typeSwitch init assign clauses => by
    simp only [Stmt.place]
    exact lockstep.bind (Stmt.placeOption_lockstep init) fun _ =>
      lockstep.bind assign.place_lockstep fun _ =>
        lockstep.map (CaseClause.placeList_lockstep _ clauses) _
  | .select clauses => by
    simp only [Stmt.place]
    exact lockstep.map (CommClause.placeList_lockstep clauses) _
  | .loop init cond post body => by
    simp only [Stmt.place]
    exact lockstep.bind (Stmt.placeOption_lockstep init) fun _ =>
      lockstep.bind (Expr.placeOption_lockstep cond) fun _ =>
        lockstep.bind (Stmt.placeOption_lockstep post) fun _ => lockstep.map
          (Stmt.placeArm_lockstep lockstep (Stmt.placeList_lockstep true body)) _
  | .range _ _ _ x body => by
    simp only [Stmt.place]
    exact lockstep.bind x.place_lockstep fun _ => lockstep.map
      (Stmt.placeArm_lockstep lockstep (Stmt.placeList_lockstep true body)) _

theorem Stmt.placeOption_lockstep : ∀ stmt : Option Stmt,
    lockstep.Rel (Stmt.placeOption next stmt) (Stmt.placeOption other stmt)
  | none => by
    simp only [Stmt.placeOption]
    exact lockstep.pure _
  | some stmt => by
    simp only [Stmt.placeOption]
    exact lockstep.map stmt.place_lockstep _

theorem Stmt.placeList_lockstep : ∀ (reachable : Bool) (body : List Stmt),
    lockstep.Rel (Stmt.placeList next reachable body) (Stmt.placeList other reachable body)
  | _, [] => by
    simp only [Stmt.placeList]
    exact lockstep.pure _
  | false, stmt :: rest => by
    simp only [Stmt.placeList, Bool.false_eq_true, if_false]
    exact lockstep.bind (lockstep.pure _) fun _ => lockstep.bind stmt.place_lockstep fun _ =>
      lockstep.map (Stmt.placeList_lockstep _ rest) _
  | true, stmt :: rest => by
    simp only [Stmt.placeList, if_true]
    exact lockstep.bind lockstep.next fun _ => lockstep.bind (lockstep.pure _) fun _ =>
      lockstep.bind stmt.place_lockstep fun _ => lockstep.map (Stmt.placeList_lockstep _ rest) _

theorem IfStmt.place_lockstep : ∀ stmt : IfStmt,
    lockstep.Rel (stmt.place next) (stmt.place other)
  | ⟨init, cond, body, none⟩ => by
    simp only [IfStmt.place]
    exact lockstep.bind (Stmt.placeOption_lockstep init) fun _ =>
      lockstep.bind cond.place_lockstep fun _ =>
        lockstep.bind (Stmt.placeArm_lockstep lockstep (Stmt.placeList_lockstep true body))
          fun _ => lockstep.bind lockstep.next fun _ => lockstep.map (lockstep.pure _) _
  | ⟨init, cond, body, some (.block otherwise)⟩ => by
    simp only [IfStmt.place]
    exact lockstep.bind (Stmt.placeOption_lockstep init) fun _ =>
      lockstep.bind cond.place_lockstep fun _ =>
        lockstep.bind (Stmt.placeArm_lockstep lockstep (Stmt.placeList_lockstep true body))
          fun _ => lockstep.map (Stmt.placeArm_lockstep lockstep
            (Stmt.placeList_lockstep true otherwise)) _
  | ⟨init, cond, body, some (.elseIf stmt)⟩ => by
    simp only [IfStmt.place]
    exact lockstep.bind (Stmt.placeOption_lockstep init) fun _ =>
      lockstep.bind cond.place_lockstep fun _ =>
        lockstep.bind (Stmt.placeArm_lockstep lockstep (Stmt.placeList_lockstep true body))
          fun _ => lockstep.bind lockstep.next fun _ =>
            lockstep.bind stmt.place_lockstep fun _ => lockstep.map (lockstep.pure _) _

theorem CaseClause.place_lockstep : ∀ clause : CaseClause,
    lockstep.Rel (clause.place next) (clause.place other)
  | .cases labels body => by
    simp only [CaseClause.place]
    exact lockstep.bind (Expr.placeList_lockstep labels) fun _ => lockstep.map
      (Stmt.placeArm_lockstep lockstep (Stmt.placeList_lockstep true body)) _
  | .default body => by
    simp only [CaseClause.place]
    exact lockstep.map (Stmt.placeArm_lockstep lockstep (Stmt.placeList_lockstep true body)) _

theorem CaseClause.placeList_lockstep : ∀ (needsDefault : Bool) (clauses : List CaseClause),
    lockstep.Rel (CaseClause.placeList next needsDefault clauses)
      (CaseClause.placeList other needsDefault clauses)
  | false, [] => by
    simp only [CaseClause.placeList, Bool.false_eq_true, if_false]
    exact lockstep.pure _
  | true, [] => by
    simp only [CaseClause.placeList, if_true]
    exact lockstep.map lockstep.next _
  | _, clause :: rest => by
    simp only [CaseClause.placeList]
    exact lockstep.bind clause.place_lockstep fun _ =>
      lockstep.map (CaseClause.placeList_lockstep _ rest) _

theorem CommClause.place_lockstep : ∀ clause : CommClause,
    lockstep.Rel (clause.place next) (clause.place other)
  | .comm stmt body => by
    simp only [CommClause.place]
    exact lockstep.bind stmt.place_lockstep fun _ => lockstep.map
      (Stmt.placeArm_lockstep lockstep (Stmt.placeList_lockstep true body)) _
  | .default body => by
    simp only [CommClause.place]
    exact lockstep.map (Stmt.placeArm_lockstep lockstep (Stmt.placeList_lockstep true body)) _

theorem CommClause.placeList_lockstep : ∀ clauses : List CommClause,
    lockstep.Rel (CommClause.placeList next clauses) (CommClause.placeList other clauses)
  | [] => by
    simp only [CommClause.placeList]
    exact lockstep.pure _
  | clause :: rest => by
    simp only [CommClause.placeList]
    exact lockstep.bind clause.place_lockstep fun _ =>
      lockstep.map (CommClause.placeList_lockstep rest) _

end

theorem Stmt.placeBody_lockstep (body : Block) :
    lockstep.Rel (Stmt.placeBody next body) (Stmt.placeBody other body) :=
  Stmt.placeArm_lockstep lockstep (Stmt.placeList_lockstep lockstep true body)

end

/-! ## Counting -/

/-- A computation that places probes; the state is how many have been placed. -/
abbrev Placing := StateM Nat

namespace Placing

variable {α β : Type}

/-- The next probe, where `probe` gives the statement for each number. -/
def next (probe : Nat → Stmt) : Placing Stmt := fun placed => (probe (placed + 1), placed + 1)

@[simp] theorem pure_apply (a : α) (placed : Nat) :
    (pure a : Placing α) placed = (a, placed) := rfl

@[simp] theorem map_apply (f : α → β) (work : Placing α) (placed : Nat) :
    (f <$> work) placed = (f (work placed).1, (work placed).2) := rfl

@[simp] theorem bind_apply (work : Placing α) (f : α → Placing β) (placed : Nat) :
    (work >>= f) placed = f (work placed).1 (work placed).2 := rfl

@[simp] theorem next_apply (probe : Nat → Stmt) (placed : Nat) :
    next probe placed = (probe (placed + 1), placed + 1) := rfl

@[simp] theorem placeArm_nil (probe : Nat → Stmt) (work : Placing Block) (placed : Nat) :
    Stmt.placeArm (next probe) [] work placed = ([probe (placed + 1)], placed + 1) := rfl

@[simp] theorem placeArm_cons (probe : Nat → Stmt) (stmt : Stmt) (rest : Block)
    (work : Placing Block) : Stmt.placeArm (next probe) (stmt :: rest) work = work := rfl

end Placing

end GoProbe
