import Mathlib
import GoProbe.Tree.Walk

/-!
# Addresses in a tree

Two parts of a tree may be equal and still stand at different places. A place is told by its
address: which part to go into, from the outside in. Each node has its direct parts in written
order (`Node.parts`), so addresses in lexicographic order are places in written order, a node
before its parts.

A walk lists a node and then the walks of its parts (`Node.walk_eq_parts`). This is the one
statement that looks at all forms; what follows is about nodes and parts only.

* `Node.induct` goes from all parts to the whole.
* `Node.exists_placed` gives a walk with addresses: it lists, in written order and each once, the
  nodes above which every expression is entered. So a walk that enters everything lists every node
  of the tree (`Node.mem_walk_iff`).
-/

namespace GoProbe

/-! ## Parts -/

def FuncType.parts : FuncType → List Node
  | ⟨params, results⟩ => params.map .field ++ results.map .field

def Spec.parts : Spec → List Node
  | .imports _ => []
  | .value names typed values => names.map .ident ++ typed.toList.map .expr ++ values.map .expr
  | .type name params _ named => .ident name :: params.map .field ++ [.expr named]

def Expr.parts : Expr → List Node
  | .ident id => [.ident id]
  | .basicLit _ => []
  | .compositeLit type elements => type.toList.map .expr ++ elements.map .expr
  | .funcLit type body => type.parts ++ [.block body]
  | .paren x => [.expr x]
  | .selector x sel => [.expr x, .ident sel]
  | .index x indices => .expr x :: indices.map .expr
  | .slice x low high max =>
    .expr x :: low.toList.map .expr ++ high.toList.map .expr ++ max.toList.map .expr
  | .typeAssert x type => .expr x :: type.toList.map .expr
  | .call fn args _ => .expr fn :: args.map .expr
  | .star x => [.expr x]
  | .unary _ x _ => [.expr x]
  | .binary x _ y => [.expr x, .expr y]
  | .keyValue key value => [.expr key, .expr value]
  | .arrayType length element => length.toList.map .expr ++ [.expr element]
  | .structType fields => fields.map .field
  | .funcType type => type.parts
  | .interfaceType methods => methods.map .field
  | .mapType key value => [.expr key, .expr value]
  | .chanType _ value => [.expr value]
  | .ellipsis element => element.toList.map .expr

def Stmt.parts : Stmt → List Node
  | .decl group => [.gen group]
  | .empty => []
  | .labeled _ stmt => [.stmt stmt]
  | .expr x => [.expr x]
  | .send chan value => [.expr chan, .expr value]
  | .incDec x _ => [.expr x]
  | .assign lhs _ rhs => lhs.map .expr ++ rhs.map .expr
  | .go call => [.expr call]
  | .defer call => [.expr call]
  | .return results => results.map .expr
  | .branch _ _ => []
  | .block body => [.block body]
  | .ifElse stmt => [.ifElse stmt]
  | .switch init tag clauses =>
    init.toList.map .stmt ++ tag.toList.map .expr ++ clauses.map .caseClause
  | .typeSwitch init guarded clauses =>
    init.toList.map .stmt ++ .stmt guarded :: clauses.map .caseClause
  | .select clauses => clauses.map .commClause
  | .loop init cond post body =>
    init.toList.map .stmt ++ cond.toList.map .expr ++ post.toList.map .stmt ++ [.block body]
  | .range key value _ x body =>
    key.toList.map .expr ++ value.toList.map .expr ++ [.expr x, .block body]

def Else.parts : Else → List Node
  | .block body => [.block body]
  | .elseIf stmt => [.ifElse stmt]

def FuncDecl.parts (func : FuncDecl) : List Node :=
  func.receiver.toList.map .field ++ func.typeParams.map .field ++ func.signature.parts ++
    func.body.toList.map .block

namespace Node

/-- The direct parts of a node in written order. -/
def parts : Node → List Node
  | decl (.func f) => [.func f]
  | decl (.gen g) => [.gen g]
  | func f => f.parts
  | gen g => g.specs.flatMap Spec.parts
  | field f => [.expr f.type]
  | block body => body.map .stmt
  | stmt s => s.parts
  | ifElse ⟨init, cond, body, otherwise⟩ =>
    init.toList.map .stmt ++ [.expr cond, .block body] ++ otherwise.toList.flatMap Else.parts
  | caseClause (.cases labels body) => labels.map .expr ++ body.map .stmt
  | caseClause (.default body) => body.map .stmt
  | commClause (.comm comm body) => .stmt comm :: body.map .stmt
  | commClause (.default body) => body.map .stmt
  | expr x => x.parts
  | ident _ => []

/-- The walk of any node. -/
def walk (into : Expr → Bool) : Node → List Node
  | decl d => d.walk into
  | func f => .func f :: f.walkParts into
  | gen g => g.walk into
  | field f => f.walk into
  | block body => Stmt.walkBlock into body
  | stmt s => s.walk into
  | ifElse s => s.walk into
  | caseClause clause => clause.walk into
  | commClause clause => clause.walk into
  | expr x => x.walk into
  | ident id => [.ident id]

/-- Whether a walk goes into the node. -/
def enters (into : Expr → Bool) : Node → Bool
  | expr x => into x
  | _ => true

end Node

/-! ## Walks by parts -/

section Walks

variable (into : Expr → Bool)

theorem Expr.walkList_eq (xs : List Expr) :
    Expr.walkList into xs = (xs.map Node.expr).flatMap (Node.walk into) := by
  induction xs with
  | nil => rfl
  | cons x xs ih => rw [Expr.walkList, ih]; rfl

theorem Expr.walkOption_eq (x : Option Expr) :
    Expr.walkOption into x = (x.toList.map Node.expr).flatMap (Node.walk into) := by
  cases x with
  | none => rfl
  | some x => simp [Expr.walkOption, Node.walk]

theorem Field.walkList_eq (fields : List Field) :
    Field.walkList into fields = (fields.map Node.field).flatMap (Node.walk into) := by
  induction fields with
  | nil => rfl
  | cons field fields ih => rw [Field.walkList, ih]; rfl

theorem FuncType.walk_eq_parts (type : FuncType) :
    type.walk into = type.parts.flatMap (Node.walk into) := by
  obtain ⟨params, results⟩ := type
  rw [FuncType.walk, FuncType.parts, List.flatMap_append, Field.walkList_eq, Field.walkList_eq]

theorem Spec.walk_eq_parts (spec : Spec) :
    spec.walk into = spec.parts.flatMap (Node.walk into) := by
  cases spec with
  | imports spec => rfl
  | value names type values =>
    have hnames : (names.map Node.ident).flatMap (Node.walk into) = names.map Node.ident := by
      induction names with
      | nil => rfl
      | cons id names ih => rw [List.map_cons, List.flatMap_cons, ih]; rfl
    simp only [Spec.walk, Spec.parts, List.flatMap_append, hnames, Expr.walkOption_eq,
      Expr.walkList_eq]
  | type name params isAlias type =>
    simp [Spec.walk, Spec.parts, Node.walk, Field.walkList_eq]

theorem Spec.walkList_eq (specs : List Spec) :
    Spec.walkList into specs = (specs.flatMap Spec.parts).flatMap (Node.walk into) := by
  induction specs with
  | nil => rfl
  | cons spec specs ih =>
    rw [Spec.walkList, ih, Spec.walk_eq_parts, List.flatMap_cons, List.flatMap_append]

theorem Stmt.walkList_eq (body : List Stmt) :
    Stmt.walkList into body = (body.map Node.stmt).flatMap (Node.walk into) := by
  induction body with
  | nil => rfl
  | cons stmt body ih => rw [Stmt.walkList, ih]; rfl

theorem Stmt.walkOption_eq (stmt : Option Stmt) :
    Stmt.walkOption into stmt = (stmt.toList.map Node.stmt).flatMap (Node.walk into) := by
  cases stmt with
  | none => rfl
  | some stmt => simp [Stmt.walkOption, Node.walk]

theorem CaseClause.walkList_eq (clauses : List CaseClause) :
    CaseClause.walkList into clauses =
      (clauses.map Node.caseClause).flatMap (Node.walk into) := by
  induction clauses with
  | nil => rfl
  | cons clause clauses ih => rw [CaseClause.walkList, ih]; rfl

theorem CommClause.walkList_eq (clauses : List CommClause) :
    CommClause.walkList into clauses =
      (clauses.map Node.commClause).flatMap (Node.walk into) := by
  induction clauses with
  | nil => rfl
  | cons clause clauses ih => rw [CommClause.walkList, ih]; rfl

theorem Expr.walk_eq_parts (x : Expr) :
    x.walk into = .expr x :: if into x then x.parts.flatMap (Node.walk into) else [] := by
  cases x <;>
    simp [Expr.walk, Expr.parts, Node.under, Node.walk, Expr.walkList_eq, Expr.walkOption_eq,
      Field.walkList_eq, FuncType.walk_eq_parts, Stmt.walkList_eq, Stmt.walkBlock]

theorem Stmt.walk_eq_parts (stmt : Stmt) :
    stmt.walk into = .stmt stmt :: stmt.parts.flatMap (Node.walk into) := by
  cases stmt <;>
    simp [Stmt.walk, Stmt.parts, Node.walk, Expr.walkList_eq, Expr.walkOption_eq,
      Stmt.walkList_eq, Stmt.walkOption_eq, CaseClause.walkList_eq, CommClause.walkList_eq,
      Stmt.walkBlock]

theorem IfStmt.walk_eq_parts (stmt : IfStmt) :
    stmt.walk into = .ifElse stmt :: (Node.ifElse stmt).parts.flatMap (Node.walk into) := by
  obtain ⟨init, cond, body, otherwise⟩ := stmt
  match otherwise with
  | none =>
    simp [IfStmt.walk, Node.parts, Node.walk, Stmt.walkOption_eq, Stmt.walkBlock]
  | some (.block other) =>
    simp [IfStmt.walk, Node.parts, Else.parts, Node.walk, Stmt.walkOption_eq, Stmt.walkBlock]
  | some (.elseIf other) =>
    simp [IfStmt.walk, Node.parts, Else.parts, Node.walk, Stmt.walkOption_eq, Stmt.walkBlock]

theorem FuncDecl.walkParts_eq (func : FuncDecl) :
    func.walkParts into = func.parts.flatMap (Node.walk into) := by
  obtain ⟨name, receiver, typeParams, signature, body, position⟩ := func
  cases receiver <;> cases body <;>
    simp [FuncDecl.walkParts, FuncDecl.parts, Node.walk, Field.walkList_eq, FuncType.walk_eq_parts]

namespace Node

/-- A walk lists a node and, if it goes into it, its parts. -/
theorem walk_eq_parts (node : Node) :
    node.walk into =
      node :: if node.enters into then node.parts.flatMap (walk into) else [] := by
  match node with
  | decl (.func _) | decl (.gen _) => simp [walk, parts, enters, Decl.walk]
  | func f => simp [walk, parts, enters, FuncDecl.walkParts_eq]
  | gen ⟨_, _, _⟩ => simp [walk, parts, enters, GenDecl.walk, Spec.walkList_eq]
  | field ⟨_, _, _, _⟩ => simp [walk, parts, enters, Field.walk]
  | block body => simp [walk, parts, enters, Stmt.walkBlock, Stmt.walkList_eq]
  | stmt s => simp [walk, parts, enters, Stmt.walk_eq_parts]
  | ifElse s => simp [walk, enters, IfStmt.walk_eq_parts]
  | caseClause (.cases _ _) =>
    simp [walk, parts, enters, CaseClause.walk, Expr.walkList_eq, Stmt.walkList_eq]
  | caseClause (.default _) => simp [walk, parts, enters, CaseClause.walk, Stmt.walkList_eq]
  | commClause (.comm _ _) => simp [walk, parts, enters, CommClause.walk, Stmt.walkList_eq]
  | commClause (.default _) => simp [walk, parts, enters, CommClause.walk, Stmt.walkList_eq]
  | expr x => exact x.walk_eq_parts into
  | ident id => simp [walk, parts, enters]

end Node

end Walks

/-! ## Addresses -/

/-- Which part to go into, from the outside in. -/
abbrev Address := List Nat

namespace Node

variable {node part : Node} {into : Expr → Bool} {address : Address} {place : Nat}

/-- The node at an address. -/
def at? : Node → Address → Option Node
  | node, [] => some node
  | node, place :: rest => node.parts[place]?.bind (·.at? rest)

@[simp] theorem at?_nil (node : Node) : node.at? [] = some node := rfl

theorem at?_cons {found : Node} :
    node.at? (place :: address) = some found ↔
      ∃ part, node.parts[place]? = some part ∧ part.at? address = some found := by
  rw [at?, Option.bind_eq_some_iff]

theorem at?_append (node : Node) (address rest : Address) :
    node.at? (address ++ rest) = (node.at? address).bind (·.at? rest) := by
  induction address generalizing node with
  | nil => rfl
  | cons place address ih =>
    rw [List.cons_append, at?, at?, Option.bind_assoc]
    exact Option.bind_congr fun part _ => ih part

/-- A walk goes into every node above the address. -/
def Entered (into : Expr → Bool) (root : Node) (address : Address) : Prop :=
  ∀ before place rest, address = before ++ place :: rest →
    ∀ node, root.at? before = some node → node.enters into = true

/-! ## Induction on parts -/

theorem enters_everywhere (node : Node) : node.enters everywhere = true := by
  cases node <;> rfl

theorem length_walk_lt (h : part ∈ node.parts) :
    (part.walk everywhere).length < (node.walk everywhere).length := by
  rw [walk_eq_parts everywhere node, if_pos node.enters_everywhere, List.length_cons,
    List.length_flatMap, Nat.lt_succ_iff]
  exact List.single_le_sum (by simp) _ (List.mem_map_of_mem h)

/-- What holds of a node if it holds of its parts holds of every node. -/
theorem induct {P : Node → Prop} (step : ∀ node, (∀ part ∈ node.parts, P part) → P node)
    (node : Node) : P node :=
  step node fun part _ => induct step part
termination_by (node.walk everywhere).length
decreasing_by exact length_walk_lt ‹_›

/-- The same, with what holds of the parts as a hypothesis that `simp` can take apart. -/
theorem induct_forall {P : Node → Prop} (step : ∀ node : Node, node.parts.Forall P → P node)
    (node : Node) : P node :=
  induct (fun node hparts => step node (List.forall_iff_forall_mem.2 hparts)) node

end Node

/-! ## Lists with addresses -/

/-- The list has what `holds`, each at its address, in written order. -/
structure ListsAll {α : Type} (holds : Address → α → Prop) (placed : List (Address × α)) :
    Prop where
  ordered : placed.Pairwise fun a b => a.1 < b.1
  mem_iff : ∀ address item, (address, item) ∈ placed ↔ holds address item

namespace ListsAll

variable {α β : Type}

/-- What is listed with its addresses is what the items are taken from, in written order. -/
theorem filterMap {holds : Address → α → Prop} {placed : List (Address × α)}
    (h : ListsAll holds placed) (f : α → Option β) :
    ListsAll (fun address b => ∃ a, holds address a ∧ f a = some b)
      (placed.filterMap fun pair => (f pair.2).map (pair.1, ·)) := by
  constructor
  · refine h.ordered.filterMap _ ?_
    intro a a' hlt b hb b' hb'
    obtain ⟨-, -, rfl⟩ := Option.map_eq_some_iff.1 hb
    obtain ⟨-, -, rfl⟩ := Option.map_eq_some_iff.1 hb'
    exact hlt
  · intro address b
    rw [List.mem_filterMap]
    constructor
    · rintro ⟨⟨address', a⟩, hmem, hpair⟩
      obtain ⟨b', hb, heq⟩ := Option.map_eq_some_iff.1 hpair
      cases heq
      exact ⟨a, (h.mem_iff _ a).1 hmem, hb⟩
    · rintro ⟨a, hholds, hb⟩
      exact ⟨(address, a), (h.mem_iff _ a).2 hholds, by rw [hb]; rfl⟩

theorem map_snd_filterMap (placed : List (Address × α)) (f : α → Option β) :
    (placed.filterMap fun pair => (f pair.2).map (pair.1, ·)).map (·.2) =
      (placed.map (·.2)).filterMap f := by
  simp [List.map_filterMap, List.filterMap_map, Function.comp_def]

/-- Lists of the parts, one after another, make a list of the whole; `start` is the place of the
first part. -/
theorem flatMap {holds : β → Address → α → Prop} {items : β → List α} (parts : List β)
    (h : ∀ part ∈ parts, ∃ placed, ListsAll (holds part) placed ∧ placed.map (·.2) = items part)
    (start : Nat) :
    ∃ placed, ListsAll (fun address item => ∃ place rest part, address = (start + place) :: rest ∧
        parts[place]? = some part ∧ holds part rest item) placed ∧
      placed.map (·.2) = parts.flatMap items := by
  induction parts generalizing start with
  | nil => exact ⟨[], ⟨.nil, by simp⟩, rfl⟩
  | cons part parts ih =>
    obtain ⟨first, hfirst, hitems⟩ := h part List.mem_cons_self
    obtain ⟨others, hothers, hrest⟩ :=
      ih (fun part hpart => h part (List.mem_cons_of_mem _ hpart)) (start + 1)
    -- addresses in the first part begin with `start`, those in the others with a later place
    refine ⟨first.map (fun pair => (start :: pair.1, pair.2)) ++ others, ⟨?_, ?_⟩, ?_⟩
    · refine List.pairwise_append.2 ⟨?_, hothers.ordered, ?_⟩
      · rw [List.pairwise_map]
        exact hfirst.ordered.imp fun hlt => List.Lex.cons hlt
      · rintro a ha ⟨address, item⟩ hb
        obtain ⟨pair, -, rfl⟩ := List.mem_map.1 ha
        obtain ⟨place, rest, -, rfl, -⟩ := (hothers.mem_iff address item).1 hb
        exact List.Lex.rel (by omega)
    · intro address item
      rw [List.mem_append, List.mem_map, hothers.mem_iff]
      constructor
      · rintro (⟨⟨rest, item'⟩, hmem, heq⟩ | ⟨place, rest, other, rfl, hother, hholds⟩)
        · cases heq
          exact ⟨0, rest, part, rfl, rfl, (hfirst.mem_iff _ _).1 hmem⟩
        · exact ⟨place + 1, rest, other, by rw [Nat.add_assoc, Nat.add_comm 1], hother, hholds⟩
      · rintro ⟨place, rest, other, rfl, hother, hholds⟩
        cases place with
        | zero =>
          cases hother
          exact .inl ⟨(rest, item), (hfirst.mem_iff _ _).2 hholds, rfl⟩
        | succ place =>
          exact .inr ⟨place, rest, other, by rw [Nat.add_assoc, Nat.add_comm 1], hother, hholds⟩
    · rw [List.map_append, List.map_map, List.flatMap_cons, hrest, ← hitems]
      rfl

end ListsAll

namespace Node

variable {node : Node} {into : Expr → Bool} {address : Address} {place : Nat}

theorem entered_nil (into : Expr → Bool) (node : Node) : node.Entered into [] := by
  intro before place rest heq
  simp at heq

theorem entered_cons {part : Node} (hpart : node.parts[place]? = some part) :
    node.Entered into (place :: address) ↔
      node.enters into = true ∧ part.Entered into address := by
  constructor
  · intro h
    refine ⟨h [] place address rfl node rfl, ?_⟩
    rintro before place' rest rfl found hfound
    exact h (place :: before) place' rest rfl found (at?_cons.2 ⟨part, hpart, hfound⟩)
  · rintro ⟨hnode, h⟩ before place' rest heq found hfound
    cases before with
    | nil =>
      cases hfound
      exact hnode
    | cons first before =>
      cases heq
      obtain ⟨part', hpart', hfound⟩ := at?_cons.1 hfound
      cases hpart.symm.trans hpart'
      exact h before place' rest rfl found hfound

/-- A walk lists in written order the nodes that it comes to. -/
theorem exists_placed (into : Expr → Bool) (node : Node) :
    ∃ placed, ListsAll (fun address found => node.at? address = some found ∧
        node.Entered into address) placed ∧
      placed.map (·.2) = node.walk into := by
  induction node using induct with
  | step node ih =>
    rw [walk_eq_parts]
    by_cases henters : node.enters into = true
    · obtain ⟨placed, hplaced, hitems⟩ := ListsAll.flatMap node.parts ih 0
      rw [if_pos henters]
      refine ⟨([], node) :: placed, ⟨?_, ?_⟩, by rw [List.map_cons, hitems]⟩
      · refine List.pairwise_cons.2 ⟨?_, hplaced.ordered⟩
        rintro ⟨address, found⟩ hmem
        obtain ⟨place, rest, -, rfl, -⟩ := (hplaced.mem_iff _ _).1 hmem
        exact List.Lex.nil
      · intro address found
        rw [List.mem_cons, hplaced.mem_iff]
        cases address with
        | nil => simp [entered_nil, eq_comm]
        | cons place rest =>
          simp only [Prod.mk.injEq, reduceCtorEq, false_and, false_or, Nat.zero_add, at?_cons]
          constructor
          · rintro ⟨_, _, part, heq, hpart, hfound, hentered⟩
            cases heq
            exact ⟨⟨part, hpart, hfound⟩, (entered_cons hpart).2 ⟨henters, hentered⟩⟩
          · rintro ⟨⟨part, hpart, hfound⟩, hentered⟩
            exact ⟨place, rest, part, rfl, hpart, hfound, ((entered_cons hpart).1 hentered).2⟩
    · rw [if_neg henters]
      refine ⟨[([], node)], ⟨List.pairwise_singleton _ _, ?_⟩, rfl⟩
      intro address found
      rw [List.mem_singleton]
      cases address with
      | nil => simp [entered_nil, eq_comm]
      | cons place rest =>
        simp only [Prod.mk.injEq, reduceCtorEq, false_and, false_iff, not_and]
        intro hfound hentered
        obtain ⟨part, hpart, -⟩ := at?_cons.1 hfound
        exact henters ((entered_cons hpart).1 hentered).1

theorem entered_everywhere (node : Node) (address : Address) : node.Entered everywhere address :=
  fun _ _ _ _ found _ => found.enters_everywhere

/-- A walk that enters everything lists the nodes of the tree. -/
theorem mem_walk_iff {found : Node} :
    found ∈ node.walk everywhere ↔ ∃ address, node.at? address = some found := by
  obtain ⟨placed, hplaced, hitems⟩ := node.exists_placed everywhere
  rw [← hitems, List.mem_map]
  constructor
  · rintro ⟨⟨address, _⟩, hmem, rfl⟩
    exact ⟨address, ((hplaced.mem_iff _ _).1 hmem).1⟩
  · rintro ⟨address, hfound⟩
    exact ⟨(address, found),
      (hplaced.mem_iff _ _).2 ⟨hfound, node.entered_everywhere address⟩, rfl⟩

/-! ## Identifiers -/

/-- The identifiers of a node in the order of the walk. -/
def idents (node : Node) : List Ident := identsOf (node.walk everywhere)

@[simp] theorem idents_ident (id : Ident) : (Node.ident id).idents = [id] := rfl

/-- A node that is no identifier has the identifiers of its parts. -/
theorem idents_eq (hident : ∀ id, node ≠ .ident id) : node.idents = node.parts.flatMap idents := by
  have hnone : node.ident? = none := by
    cases node with
    | ident id => exact absurd rfl (hident id)
    | _ => rfl
  rw [idents, walk_eq_parts, if_pos node.enters_everywhere, identsOf,
    List.filterMap_cons_none hnone, List.filterMap_flatMap]
  rfl

end Node

end GoProbe
