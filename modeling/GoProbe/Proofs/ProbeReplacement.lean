import Mathlib
import GoProbe.Proofs.ReadingOrder

/-!
# Other probes in the same places

`replace new` goes through every list of statements in which probes can stand, and puts `new`'s
statement in place of each that `new` picks. Like placement it leaves types alone, and the key and
value of a range.

In a placed tree nothing but the probes has the form of a probe. Replacing them by other statements
is therefore the same as placing those statements at once (`replaceList_placeBody`): where a probe
stands does not depend on what it looks like. `Placing.Mapped` says this of a placement, and passes
from its parts to the whole. For the two backends it means that they place probes at the same
points, with the same ids.
-/

namespace GoProbe

open Placing (next)

/-! ## Replacement -/

section

variable (new : Stmt → Option Stmt)

mutual

def Expr.replace : Expr → Expr
  | .ident id => .ident id
  | .basicLit lit => .basicLit lit
  | .compositeLit type elements => .compositeLit type (Expr.replaceList elements)
  | .funcLit type body => .funcLit type (Stmt.replaceList body)
  | .paren x => .paren x.replace
  | .selector x sel => .selector x.replace sel
  | .index x indices => .index x.replace (Expr.replaceList indices)
  | .slice x low high max =>
    .slice x.replace (Expr.replaceOption low) (Expr.replaceOption high) (Expr.replaceOption max)
  | .typeAssert x type => .typeAssert x.replace type
  | .call fn args spread => .call fn.replace (Expr.replaceList args) spread
  | .star x => .star x.replace
  | .unary op x constant => .unary op x.replace constant
  | .binary x op y => .binary x.replace op y.replace
  | .keyValue key value => .keyValue key.replace value.replace
  | .arrayType length element => .arrayType length element
  | .structType fields => .structType fields
  | .funcType type => .funcType type
  | .interfaceType methods => .interfaceType methods
  | .mapType key value => .mapType key value
  | .chanType dir value => .chanType dir value
  | .ellipsis element => .ellipsis element

def Expr.replaceOption : Option Expr → Option Expr
  | none => none
  | some x => some x.replace

def Expr.replaceList : List Expr → List Expr
  | [] => []
  | x :: rest => x.replace :: Expr.replaceList rest

def Spec.replace : Spec → Spec
  | .imports spec => .imports spec
  | .value names type values => .value names type (Expr.replaceList values)
  | .type name params isAlias type => .type name params isAlias type

def Spec.replaceList : List Spec → List Spec
  | [] => []
  | spec :: rest => spec.replace :: Spec.replaceList rest

def GenDecl.replace : GenDecl → GenDecl
  | ⟨kind, specs, grouped⟩ => ⟨kind, Spec.replaceList specs, grouped⟩

def Stmt.replace : Stmt → Stmt
  | .decl decl => .decl decl.replace
  | .empty => .empty
  | .labeled label stmt => .labeled label stmt.replace
  | .expr x => .expr x.replace
  | .send chan value => .send chan.replace value.replace
  | .incDec x op => .incDec x.replace op
  | .assign lhs op rhs => .assign (Expr.replaceList lhs) op (Expr.replaceList rhs)
  | .go call => .go call.replace
  | .defer call => .defer call.replace
  | .return results => .return (Expr.replaceList results)
  | .branch kind label => .branch kind label
  | .block body => .block (Stmt.replaceList body)
  | .ifElse stmt => .ifElse stmt.replace
  | .switch init tag clauses =>
    .switch (Stmt.replaceOption init) (Expr.replaceOption tag) (CaseClause.replaceList clauses)
  | .typeSwitch init assign clauses =>
    .typeSwitch (Stmt.replaceOption init) assign.replace (CaseClause.replaceList clauses)
  | .select clauses => .select (CommClause.replaceList clauses)
  | .loop init cond post body =>
    .loop (Stmt.replaceOption init) (Expr.replaceOption cond) (Stmt.replaceOption post)
      (Stmt.replaceList body)
  | .range key value define x body =>
    .range key value define x.replace (Stmt.replaceList body)

def Stmt.replaceOption : Option Stmt → Option Stmt
  | none => none
  | some stmt => some stmt.replace

/-- The only place where something is replaced. -/
def Stmt.replaceList : List Stmt → List Stmt
  | [] => []
  | stmt :: rest => (new stmt).getD stmt.replace :: Stmt.replaceList rest

def IfStmt.replace : IfStmt → IfStmt
  | ⟨init, cond, body, otherwise⟩ =>
    { init := Stmt.replaceOption init
      cond := cond.replace
      body := Stmt.replaceList body
      otherwise :=
        match otherwise with
        | none => none
        | some (.block body) => some (.block (Stmt.replaceList body))
        | some (.elseIf stmt) => some (.elseIf stmt.replace) }

def CaseClause.replace : CaseClause → CaseClause
  | .cases labels body => .cases (Expr.replaceList labels) (Stmt.replaceList body)
  | .default body => .default (Stmt.replaceList body)

def CaseClause.replaceList : List CaseClause → List CaseClause
  | [] => []
  | clause :: rest => clause.replace :: CaseClause.replaceList rest

def CommClause.replace : CommClause → CommClause
  | .comm stmt body => .comm stmt.replace (Stmt.replaceList body)
  | .default body => .default (Stmt.replaceList body)

def CommClause.replaceList : List CommClause → List CommClause
  | [] => []
  | clause :: rest => clause.replace :: CommClause.replaceList rest

end

end

/-! ## A placed tree -/

/-- Puts `new`'s statement for an id in place of the probe with this id. -/
def Backend.replacing (backend : Backend) (new : Nat → Stmt) (stmt : Stmt) : Option Stmt :=
  (backend.probeId? stmt).map new

@[simp] theorem ProbePlan.replacing_probe [WordHash] (plan : ProbePlan) (new : Nat → Stmt)
    (number : Nat) : plan.backend.replacing new (plan.probe number) =
      some (new (plan.policy.id number)) := by
  simp [Backend.replacing, ProbePlan.probe]

theorem Backend.replacing_eq_none {backend : Backend} {stmt : Stmt}
    (h : backend.isProbe stmt = false) (new : Nat → Stmt) : backend.replacing new stmt = none := by
  rw [Backend.isProbe, Option.isSome_eq_false_iff, Option.isNone_iff_eq_none] at h
  rw [Backend.replacing, h, Option.map_none]

/-- A statement of a list. -/
def Stmt.replaceItem (new : Stmt → Option Stmt) (stmt : Stmt) : Stmt :=
  (new stmt).getD (stmt.replace new)

theorem Stmt.replaceItem_eq_replace {new : Stmt → Option Stmt} {stmt : Stmt}
    (h : new stmt = none) : stmt.replaceItem new = stmt.replace new := by
  rw [replaceItem, h, Option.getD_none]

theorem Stmt.replaceList_append (new : Stmt → Option Stmt) (left right : List Stmt) :
    replaceList new (left ++ right) = replaceList new left ++ replaceList new right := by
  induction left with
  | nil => rfl
  | cons stmt rest ih => simp [replaceList, ih]

namespace Placing

variable {α β : Type}

/-- `other` uses up the same numbers as `work`, and returns what `f` makes of the result. -/
def Mapped (f : α → α) (work other : Placing α) : Prop :=
  ∀ placed, other placed = (f (work placed).1, (work placed).2)

namespace Mapped

theorem pure {f : α → α} {a b : α} (h : f a = b) : Mapped f (Pure.pure a) (Pure.pure b) :=
  fun _ => h ▸ rfl

theorem bind {f : α → α} {g : β → β} {work other : Placing α} {next otherNext : α → Placing β}
    (hwork : Mapped f work other)
    (hnext : ∀ placed, Mapped g (next (work placed).1) (otherNext (f (work placed).1))) :
    Mapped g (work >>= next) (other >>= otherNext) := by
  intro placed
  rw [bind_apply, bind_apply, hwork placed]
  exact hnext placed _

theorem map {f : α → α} {g : β → β} {work other : Placing α} {mk otherMk : α → β}
    (hwork : Mapped f work other) (hmk : ∀ a, g (mk a) = otherMk (f a)) :
    Mapped g (work >>= fun a => Pure.pure (mk a)) (other >>= fun a => Pure.pure (otherMk a)) :=
  hwork.bind fun _ => .pure (hmk _)

theorem congr {f g : α → α} {work other : Placing α} (hwork : Mapped f work other)
    (h : ∀ placed, g (work placed).1 = f (work placed).1) : Mapped g work other := by
  intro placed
  rw [hwork placed, h]

theorem mapM {ι : Type} {f : α → α} {work other : ι → Placing α} {items : List ι}
    (hwork : ∀ item ∈ items, Mapped f (work item) (other item)) :
    Mapped (List.map f) (items.mapM work) (items.mapM other) := by
  induction items with
  | nil => exact .pure rfl
  | cons item items ih =>
    rw [List.forall_mem_cons] at hwork
    rw [List.mapM_cons, List.mapM_cons]
    exact hwork.1.bind fun _ => (ih hwork.2).map fun _ => rfl

end Mapped

end Placing

section

open Backend (idsOf_under idsOf_append_eq_nil idsOf_cons_eq_nil)
open Placing (Mapped)

variable [WordHash] (plan : ProbePlan) (new : Nat → Stmt)

/-- A probe on its own, as an item of a list. -/
theorem Placing.mapped_next :
    Mapped (Stmt.replaceItem (plan.backend.replacing new)) (next plan.probe)
      (next fun number => new (plan.policy.id number)) := by
  intro placed
  simp [Stmt.replaceItem]

/-- From the statements of a list to the list as an arm. -/
theorem Placing.mapped_arm {body : Block} {work other : Placing Block}
    (hwork : Mapped (Stmt.replaceList (plan.backend.replacing new)) work other) :
    Mapped (Stmt.replaceList (plan.backend.replacing new))
      (Stmt.placeArm (next plan.probe) body work)
      (Stmt.placeArm (next fun number => new (plan.policy.id number)) body other) := by
  cases body with
  | nil => exact (Placing.mapped_next plan new).map fun _ => rfl
  | cons stmt rest => exact hwork

mutual

theorem Expr.replace_place : ∀ {x : Expr}, plan.backend.idsOf (x.walk everywhere) = [] →
    Mapped (Expr.replace (plan.backend.replacing new)) (x.place (next plan.probe))
      (x.place (next fun number => new (plan.policy.id number)))
  | .ident _, _ | .basicLit _, _ | .arrayType _ _, _ | .structType _, _ | .funcType _, _
  | .interfaceType _, _ | .mapType _ _, _ | .chanType _ _, _ | .ellipsis _, _ => by
    simp only [Expr.place]
    exact .pure rfl
  | .compositeLit type elements, h => by
    simp only [Expr.walk, idsOf_under, idsOf_append_eq_nil] at h
    simp only [Expr.place]
    exact (Expr.replaceList_place h.2).map fun _ => rfl
  | .funcLit type body, h => by
    simp only [Expr.walk, idsOf_under, idsOf_append_eq_nil, idsOf_cons_eq_nil] at h
    simp only [Expr.place]
    exact (Placing.mapped_arm plan new (Stmt.replaceList_place h.2.2 true)).map fun _ => rfl
  | .paren x, h | .star x, h | .unary _ x _, h => by
    simp only [Expr.walk, idsOf_under] at h
    simp only [Expr.place]
    exact (x.replace_place h).map fun _ => rfl
  | .selector x _, h | .typeAssert x _, h => by
    simp only [Expr.walk, idsOf_under, idsOf_append_eq_nil] at h
    simp only [Expr.place]
    exact (x.replace_place h.1).map fun _ => rfl
  | .index x indices, h => by
    simp only [Expr.walk, idsOf_under, idsOf_append_eq_nil] at h
    simp only [Expr.place]
    exact (x.replace_place h.1).bind fun _ => (Expr.replaceList_place h.2).map fun _ => rfl
  | .slice x low high max, h => by
    simp only [Expr.walk, idsOf_under, idsOf_append_eq_nil] at h
    obtain ⟨⟨⟨hx, hlow⟩, hhigh⟩, hmax⟩ := h
    simp only [Expr.place]
    exact (x.replace_place hx).bind fun _ => (Expr.replaceOption_place hlow).bind fun _ =>
      (Expr.replaceOption_place hhigh).bind fun _ =>
        (Expr.replaceOption_place hmax).map fun _ => rfl
  | .call fn args _, h => by
    simp only [Expr.walk, idsOf_under, idsOf_append_eq_nil] at h
    simp only [Expr.place]
    exact (fn.replace_place h.1).bind fun _ => (Expr.replaceList_place h.2).map fun _ => rfl
  | .binary x _ y, h => by
    simp only [Expr.walk, idsOf_under, idsOf_append_eq_nil] at h
    simp only [Expr.place]
    exact (x.replace_place h.1).bind fun _ => (y.replace_place h.2).map fun _ => rfl
  | .keyValue key value, h => by
    simp only [Expr.walk, idsOf_under, idsOf_append_eq_nil] at h
    simp only [Expr.place]
    exact (key.replace_place h.1).bind fun _ => (value.replace_place h.2).map fun _ => rfl

theorem Expr.replaceOption_place : ∀ {x : Option Expr},
    plan.backend.idsOf (Expr.walkOption everywhere x) = [] →
      Mapped (Expr.replaceOption (plan.backend.replacing new))
        (Expr.placeOption (next plan.probe) x)
        (Expr.placeOption (next fun number => new (plan.policy.id number)) x)
  | none, _ => by
    simp only [Expr.placeOption]
    exact .pure rfl
  | some x, h => by
    rw [Expr.walkOption] at h
    simp only [Expr.placeOption]
    exact (x.replace_place h).map fun _ => rfl

theorem Expr.replaceList_place : ∀ {xs : List Expr},
    plan.backend.idsOf (Expr.walkList everywhere xs) = [] →
      Mapped (Expr.replaceList (plan.backend.replacing new)) (Expr.placeList (next plan.probe) xs)
        (Expr.placeList (next fun number => new (plan.policy.id number)) xs)
  | [], _ => by
    simp only [Expr.placeList]
    exact .pure rfl
  | x :: rest, h => by
    rw [Expr.walkList, idsOf_append_eq_nil] at h
    simp only [Expr.placeList]
    exact (x.replace_place h.1).bind fun _ => (Expr.replaceList_place h.2).map fun _ => rfl

theorem Spec.replace_place : ∀ {spec : Spec},
    plan.backend.idsOf (spec.walk everywhere) = [] →
      Mapped (Spec.replace (plan.backend.replacing new)) (spec.place (next plan.probe))
        (spec.place (next fun number => new (plan.policy.id number)))
  | .imports _, _ | .type _ _ _ _, _ => by
    simp only [Spec.place]
    exact .pure rfl
  | .value names type values, h => by
    simp only [Spec.walk, idsOf_append_eq_nil] at h
    simp only [Spec.place]
    exact (Expr.replaceList_place h.2).map fun _ => rfl

theorem Spec.replaceList_place : ∀ {specs : List Spec},
    plan.backend.idsOf (Spec.walkList everywhere specs) = [] →
      Mapped (Spec.replaceList (plan.backend.replacing new))
        (Spec.placeList (next plan.probe) specs)
        (Spec.placeList (next fun number => new (plan.policy.id number)) specs)
  | [], _ => by
    simp only [Spec.placeList]
    exact .pure rfl
  | spec :: rest, h => by
    rw [Spec.walkList, idsOf_append_eq_nil] at h
    simp only [Spec.placeList]
    exact (spec.replace_place h.1).bind fun _ => (Spec.replaceList_place h.2).map fun _ => rfl

theorem GenDecl.replace_place : ∀ {decl : GenDecl},
    plan.backend.idsOf (decl.walk everywhere) = [] →
      Mapped (GenDecl.replace (plan.backend.replacing new)) (decl.place (next plan.probe))
        (decl.place (next fun number => new (plan.policy.id number)))
  | ⟨_, specs, _⟩, h => by
    rw [GenDecl.walk, idsOf_cons_eq_nil] at h
    simp only [GenDecl.place]
    exact (Spec.replaceList_place h.2).map fun _ => rfl

theorem Stmt.replace_place : ∀ {stmt : Stmt},
    plan.backend.idsOf (stmt.walk everywhere) = [] →
      Mapped (Stmt.replace (plan.backend.replacing new)) (stmt.place (next plan.probe))
        (stmt.place (next fun number => new (plan.policy.id number)))
  | .empty, _ | .branch _ _, _ => by
    simp only [Stmt.place]
    exact .pure rfl
  | .decl decl, h => by
    rw [Stmt.walk, idsOf_cons_eq_nil] at h
    simp only [Stmt.place]
    exact (decl.replace_place h.2).map fun _ => rfl
  | .labeled _ stmt, h => by
    rw [Stmt.walk, idsOf_cons_eq_nil] at h
    simp only [Stmt.place]
    exact (stmt.replace_place h.2).map fun _ => rfl
  | .expr x, h | .incDec x _, h | .go x, h | .defer x, h => by
    rw [Stmt.walk, idsOf_cons_eq_nil] at h
    simp only [Stmt.place]
    exact (x.replace_place h.2).map fun _ => rfl
  | .send chan value, h => by
    simp only [Stmt.walk, idsOf_append_eq_nil, idsOf_cons_eq_nil] at h
    simp only [Stmt.place]
    exact (chan.replace_place h.1.2).bind fun _ => (value.replace_place h.2).map fun _ => rfl
  | .assign lhs _ rhs, h => by
    simp only [Stmt.walk, idsOf_append_eq_nil, idsOf_cons_eq_nil] at h
    simp only [Stmt.place]
    exact (Expr.replaceList_place h.1.2).bind fun _ => (Expr.replaceList_place h.2).map fun _ => rfl
  | .return results, h => by
    rw [Stmt.walk, idsOf_cons_eq_nil] at h
    simp only [Stmt.place]
    exact (Expr.replaceList_place h.2).map fun _ => rfl
  | .block body, h => by
    simp only [Stmt.walk, idsOf_cons_eq_nil] at h
    simp only [Stmt.place]
    exact (Placing.mapped_arm plan new (Stmt.replaceList_place h.2.2 true)).map fun _ => rfl
  | .ifElse stmt, h => by
    rw [Stmt.walk, idsOf_cons_eq_nil] at h
    simp only [Stmt.place]
    exact (stmt.replace_place h.2).map fun _ => rfl
  | .switch init tag clauses, h => by
    simp only [Stmt.walk, idsOf_append_eq_nil, idsOf_cons_eq_nil] at h
    obtain ⟨⟨⟨-, hinit⟩, htag⟩, hclauses⟩ := h
    simp only [Stmt.place]
    exact (Stmt.replaceOption_place hinit).bind fun _ =>
      (Expr.replaceOption_place htag).bind fun _ =>
        (CaseClause.replaceList_place hclauses _).map fun _ => rfl
  | .typeSwitch init assign clauses, h => by
    simp only [Stmt.walk, idsOf_append_eq_nil, idsOf_cons_eq_nil] at h
    obtain ⟨⟨⟨-, hinit⟩, hassign⟩, hclauses⟩ := h
    simp only [Stmt.place]
    exact (Stmt.replaceOption_place hinit).bind fun _ =>
      (assign.replace_place hassign).bind fun _ =>
        (CaseClause.replaceList_place hclauses _).map fun _ => rfl
  | .select clauses, h => by
    rw [Stmt.walk, idsOf_cons_eq_nil] at h
    simp only [Stmt.place]
    exact (CommClause.replaceList_place h.2).map fun _ => rfl
  | .loop init cond post body, h => by
    simp only [Stmt.walk, idsOf_append_eq_nil, idsOf_cons_eq_nil] at h
    obtain ⟨⟨⟨⟨-, hinit⟩, hcond⟩, hpost⟩, -, hbody⟩ := h
    simp only [Stmt.place]
    exact (Stmt.replaceOption_place hinit).bind fun _ =>
      (Expr.replaceOption_place hcond).bind fun _ => (Stmt.replaceOption_place hpost).bind fun _ =>
        (Placing.mapped_arm plan new (Stmt.replaceList_place hbody true)).map fun _ => rfl
  | .range _ _ _ x body, h => by
    simp only [Stmt.walk, idsOf_append_eq_nil, idsOf_cons_eq_nil] at h
    obtain ⟨⟨⟨⟨-, -⟩, -⟩, hx⟩, -, hbody⟩ := h
    simp only [Stmt.place]
    exact (x.replace_place hx).bind fun _ =>
      (Placing.mapped_arm plan new (Stmt.replaceList_place hbody true)).map fun _ => rfl

theorem Stmt.replaceOption_place : ∀ {stmt : Option Stmt},
    plan.backend.idsOf (Stmt.walkOption everywhere stmt) = [] →
      Mapped (Stmt.replaceOption (plan.backend.replacing new))
        (Stmt.placeOption (next plan.probe) stmt)
        (Stmt.placeOption (next fun number => new (plan.policy.id number)) stmt)
  | none, _ => by
    simp only [Stmt.placeOption]
    exact .pure rfl
  | some stmt, h => by
    rw [Stmt.walkOption] at h
    simp only [Stmt.placeOption]
    exact (stmt.replace_place h).map fun _ => rfl

theorem Stmt.replaceList_place : ∀ {body : List Stmt},
    plan.backend.idsOf (Stmt.walkList everywhere body) = [] → ∀ reachable,
      Mapped (Stmt.replaceList (plan.backend.replacing new))
        (Stmt.placeList (next plan.probe) reachable body)
        (Stmt.placeList (next fun number => new (plan.policy.id number)) reachable body)
  | [], _, _ => by
    simp only [Stmt.placeList]
    exact .pure rfl
  | stmt :: rest, h, reachable => by
    rw [Stmt.walkList, idsOf_append_eq_nil] at h
    -- the probe before the statement is replaced, and the statement itself is not taken for one
    have hitem : Mapped (Stmt.replaceItem (plan.backend.replacing new))
        (stmt.place (next plan.probe))
        (stmt.place (next fun number => new (plan.policy.id number))) :=
      (stmt.replace_place h.1).congr fun _ => Stmt.replaceItem_eq_replace
        (Backend.replacing_eq_none (Backend.isProbe_place (Backend.isProbe_of_walk h.1)) new)
    have hrest := Stmt.replaceList_place h.2 (reachable && !stmt.isReturn)
    cases reachable with
    | false =>
      simp only [Stmt.placeList, Bool.false_eq_true, if_false]
      exact (Mapped.pure (f := Stmt.replaceList _) rfl).bind fun _ => hitem.bind fun _ =>
        hrest.map fun _ => Stmt.replaceList_append _ _ _
    | true =>
      simp only [Stmt.placeList, if_true]
      exact (Placing.mapped_next plan new).bind fun _ =>
        (Mapped.pure (f := Stmt.replaceList _) rfl).bind fun _ => hitem.bind fun _ =>
          hrest.map fun _ => Stmt.replaceList_append _ _ _

theorem IfStmt.replace_place : ∀ {stmt : IfStmt},
    plan.backend.idsOf (stmt.walk everywhere) = [] →
      Mapped (IfStmt.replace (plan.backend.replacing new)) (stmt.place (next plan.probe))
        (stmt.place (next fun number => new (plan.policy.id number)))
  | ⟨init, cond, body, none⟩, h => by
    simp only [IfStmt.walk, idsOf_append_eq_nil, idsOf_cons_eq_nil] at h
    obtain ⟨⟨⟨⟨-, hinit⟩, hcond⟩, -, hbody⟩, -⟩ := h
    simp only [IfStmt.place]
    exact (Stmt.replaceOption_place hinit).bind fun _ => (cond.replace_place hcond).bind fun _ =>
      (Placing.mapped_arm plan new (Stmt.replaceList_place hbody true)).bind fun _ =>
        (Placing.mapped_next plan new).bind fun _ =>
          (Mapped.pure (f := Stmt.replaceList _) rfl).map fun _ => rfl
  | ⟨init, cond, body, some (.block other)⟩, h => by
    simp only [IfStmt.walk, idsOf_append_eq_nil, idsOf_cons_eq_nil] at h
    obtain ⟨⟨⟨⟨-, hinit⟩, hcond⟩, -, hbody⟩, -, hother⟩ := h
    simp only [IfStmt.place]
    exact (Stmt.replaceOption_place hinit).bind fun _ => (cond.replace_place hcond).bind fun _ =>
      (Placing.mapped_arm plan new (Stmt.replaceList_place hbody true)).bind fun _ =>
        (Placing.mapped_arm plan new (Stmt.replaceList_place hother true)).map fun _ => rfl
  | ⟨init, cond, body, some (.elseIf other)⟩, h => by
    simp only [IfStmt.walk, idsOf_append_eq_nil, idsOf_cons_eq_nil] at h
    obtain ⟨⟨⟨⟨-, hinit⟩, hcond⟩, -, hbody⟩, hother⟩ := h
    have hitem (probe : Stmt) (placed : Nat) : Stmt.replaceList (plan.backend.replacing new)
        [probe, .ifElse (other.place (next plan.probe) placed).1] =
          [probe.replaceItem (plan.backend.replacing new),
            .ifElse ((other.place (next plan.probe) placed).1.replace
              (plan.backend.replacing new))] :=
      congrArg ([probe.replaceItem _, ·]) (Stmt.replaceItem_eq_replace
        (Backend.replacing_eq_none (plan.backend.isProbe_ifElse_place other) new))
    simp only [IfStmt.place]
    exact (Stmt.replaceOption_place hinit).bind fun _ => (cond.replace_place hcond).bind fun _ =>
      (Placing.mapped_arm plan new (Stmt.replaceList_place hbody true)).bind fun _ =>
        (Placing.mapped_next plan new).bind fun _ => (other.replace_place hother).bind fun placed =>
          (Mapped.pure (hitem _ placed)).map fun _ => rfl

theorem CaseClause.replace_place : ∀ {clause : CaseClause},
    plan.backend.idsOf (clause.walk everywhere) = [] →
      Mapped (CaseClause.replace (plan.backend.replacing new)) (clause.place (next plan.probe))
        (clause.place (next fun number => new (plan.policy.id number)))
  | .cases labels body, h => by
    simp only [CaseClause.walk, idsOf_append_eq_nil, idsOf_cons_eq_nil] at h
    simp only [CaseClause.place]
    exact (Expr.replaceList_place h.1.2).bind fun _ =>
      (Placing.mapped_arm plan new (Stmt.replaceList_place h.2 true)).map fun _ => rfl
  | .default body, h => by
    rw [CaseClause.walk, idsOf_cons_eq_nil] at h
    simp only [CaseClause.place]
    exact (Placing.mapped_arm plan new (Stmt.replaceList_place h.2 true)).map fun _ => rfl

theorem CaseClause.replaceList_place : ∀ {clauses : List CaseClause},
    plan.backend.idsOf (CaseClause.walkList everywhere clauses) = [] → ∀ needsDefault,
      Mapped (CaseClause.replaceList (plan.backend.replacing new))
        (CaseClause.placeList (next plan.probe) needsDefault clauses)
        (CaseClause.placeList (next fun number => new (plan.policy.id number)) needsDefault clauses)
  | [], _, false => by
    simp only [CaseClause.placeList, Bool.false_eq_true, if_false]
    exact .pure rfl
  | [], _, true => by
    simp only [CaseClause.placeList, if_true]
    exact (Placing.mapped_next plan new).map fun _ => rfl
  | clause :: rest, h, _ => by
    rw [CaseClause.walkList, idsOf_append_eq_nil] at h
    simp only [CaseClause.placeList]
    exact (clause.replace_place h.1).bind fun _ =>
      (CaseClause.replaceList_place h.2 _).map fun _ => rfl

theorem CommClause.replace_place : ∀ {clause : CommClause},
    plan.backend.idsOf (clause.walk everywhere) = [] →
      Mapped (CommClause.replace (plan.backend.replacing new)) (clause.place (next plan.probe))
        (clause.place (next fun number => new (plan.policy.id number)))
  | .comm stmt body, h => by
    simp only [CommClause.walk, idsOf_append_eq_nil, idsOf_cons_eq_nil] at h
    simp only [CommClause.place]
    exact (stmt.replace_place h.1.2).bind fun _ =>
      (Placing.mapped_arm plan new (Stmt.replaceList_place h.2 true)).map fun _ => rfl
  | .default body, h => by
    rw [CommClause.walk, idsOf_cons_eq_nil] at h
    simp only [CommClause.place]
    exact (Placing.mapped_arm plan new (Stmt.replaceList_place h.2 true)).map fun _ => rfl

theorem CommClause.replaceList_place : ∀ {clauses : List CommClause},
    plan.backend.idsOf (CommClause.walkList everywhere clauses) = [] →
      Mapped (CommClause.replaceList (plan.backend.replacing new))
        (CommClause.placeList (next plan.probe) clauses)
        (CommClause.placeList (next fun number => new (plan.policy.id number)) clauses)
  | [], _ => by
    simp only [CommClause.placeList]
    exact .pure rfl
  | clause :: rest, h => by
    rw [CommClause.walkList, idsOf_append_eq_nil] at h
    simp only [CommClause.placeList]
    exact (clause.replace_place h.1).bind fun _ =>
      (CommClause.replaceList_place h.2).map fun _ => rfl

end

/-- Replacing the probes of a placed body is placing the new statements at once. -/
theorem Stmt.replaceList_placeBody {body : Block}
    (hfree : plan.backend.idsOf (Stmt.walkList everywhere body) = []) :
    Mapped (Stmt.replaceList (plan.backend.replacing new)) (Stmt.placeBody (next plan.probe) body)
      (Stmt.placeBody (next fun number => new (plan.policy.id number)) body) :=
  Placing.mapped_arm plan new (Stmt.replaceList_place plan new hfree true)

end

/-! ## The two backends -/

namespace ProbePlan

/-- A table refuses no id. -/
theorem firstRefused?_table [WordHash] {plan : ProbePlan} {tableName fileName : String}
    (hbackend : plan.backend = .table tableName fileName) (first last : Nat) :
    plan.firstRefused? first last = none := by
  simp [firstRefused?, hbackend, Backend.holds]

/-- Where the trace backend succeeds, the table backend does, from the same ledger to the same
ledger: with as many probes, and the same ids for the same functions. The copies differ in the form
of their probes only, and both read as the same ids. -/
theorem replaceList_probeFunc [WordHash] {policy : IdPolicy} {tracked : List String}
    {parameter tableName fileName : String} {maxLength : Nat} {func : FuncDecl} {body : Block}
    {patch : Patch} {before after : Ledger} (hbody : func.body = some body)
    (htrace : (Backend.trace parameter maxLength).Free (Stmt.walkList everywhere body))
    (htable : (Backend.table tableName fileName).Free (Stmt.walkList everywhere body))
    (hrun : (probeFunc ⟨.trace parameter maxLength, policy, tracked⟩ func).runOn before =
      (.ok (some patch), after)) :
    ∃ traced tabled,
      patch.probed.body = some traced ∧
      (probeFunc ⟨.table tableName fileName, policy, tracked⟩ func).runOn before =
        (.ok (some (.replace { func with body := some tabled })), after) ∧
      Stmt.replaceList ((Backend.trace parameter maxLength).replacing
        (Backend.table tableName fileName).probe) traced = tabled ∧
      (Backend.table tableName fileName).idsOf (Stmt.walkList everywhere tabled) =
        (Backend.trace parameter maxLength).idsOf (Stmt.walkList everywhere traced) := by
  let traces : ProbePlan := ⟨.trace parameter maxLength, policy, tracked⟩
  let tables : ProbePlan := ⟨.table tableName fileName, policy, tracked⟩
  rw [Backend.free_iff] at htrace htable
  obtain ⟨rfl, rfl⟩ := patch_of_probeFunc hbody hrun
  refine ⟨(Stmt.placeBody (next traces.probe) body before.placed).1,
    (Stmt.placeBody (next tables.probe) body before.placed).1, rfl, ?_, ?_, ?_⟩
  · refine probeFunc_ok.2 (.inr ⟨body, hbody, firstRefused?_table rfl _ _, rfl, ?_⟩)
    rw [Stmt.placeBody_snd, Stmt.placeBody_snd]
    rfl
  · have hreplaced := Stmt.replaceList_placeBody traces
      (Backend.table tableName fileName).probe htrace before.placed
    exact (congrArg Prod.fst hreplaced).symm
  · calc
      _ = policy.idsFrom before.placed (Stmt.probeCount (Stmt.normalizeList body)) :=
        @ProbePlan.idsOf_placeBody _ tables body htable before.placed
      _ = _ := (@ProbePlan.idsOf_placeBody _ traces body htrace before.placed).symm

open Standard in
theorem replaceList_probeFunc_sample :
    ∃ patch after,
      (probeFunc ⟨.trace "trace" 8, .sequential, ["f"]⟩ (.sample "f")).runOn { placed := 40 } =
        (.ok (some patch), after) ∧ after.placed = 51 ∧
      ∃ traced tabled, patch.probed.body = some traced ∧
        (probeFunc ⟨.table "hits" "hits.go", .sequential, ["f"]⟩ (.sample "f")).runOn
            { placed := 40 } =
          (.ok (some (.replace { FuncDecl.sample "f" with body := some tabled })), after) ∧
        Stmt.replaceList ((Backend.trace "trace" 8).replacing
          (Backend.table "hits" "hits.go").probe) traced = tabled := by
  obtain ⟨patch, after, hrun, hplaced⟩ : ∃ patch after,
      (probeFunc ⟨.trace "trace" 8, .sequential, ["f"]⟩ (.sample "f")).runOn { placed := 40 } =
        (.ok (some patch), after) ∧ after.placed = 51 := ⟨_, _, rfl, rfl⟩
  have htable : (Backend.table "hits" "hits.go").Free
      (Stmt.walkList everywhere Stmt.sampleBody) := Backend.free_iff.2 rfl
  obtain ⟨traced, tabled, hbody, htabled, hreplace, -⟩ :=
    replaceList_probeFunc rfl (Backend.free_iff.2 rfl) htable hrun
  exact ⟨patch, after, hrun, hplaced, traced, tabled, hbody, htabled, hreplace⟩

end ProbePlan

end GoProbe
