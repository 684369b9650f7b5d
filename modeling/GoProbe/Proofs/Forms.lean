import Mathlib
import GoProbe.Proofs.Addresses
import GoProbe.Tree.Printer

/-!
# Forms

The form of a node says what its layout consists of: pieces of its own and, between them, its
parts. A form is a list of slots. What holds of the layouts of all nodes is proved over slots, by
`Node.induct`; this module has the statements that look at each form.

* `View.layout_eq_form`: a layout consists of the slots.
* `View.nodes_form`: the parts in the slots are the parts of the node, in order, each as deep as
  `Node.leveledParts` says. Only a range with a value and no key is written without one of its
  parts.
-/

namespace GoProbe

open Piece (openBrace closeBrace openParen closeParen openBracket closeBracket comma colon
  semicolon identList)

/-! ## Parts and their levels -/

/-- Written with parentheses, each entry on a line of its own. -/
def GenDecl.isGroup : GenDecl → Bool
  | ⟨_, [_], false⟩ => false
  | _ => true

namespace Node

/-- The levels around a part: a block is one level deeper than the node it belongs to. -/
def level : Node → Nat
  | block _ => 1
  | _ => 0

/-- The parts of a node, each with the levels that the node puts around it. Other than blocks, the
statements of a clause, the fields of a struct, the elements of an interface and the entries of a
group are one level deeper. -/
def leveledParts : Node → List (Nat × Node)
  | gen g => (gen g).parts.map fun part => (if g.isGroup then 1 else 0, part)
  | caseClause (.cases labels body) =>
    (labels.map fun x => (0, expr x)) ++ body.map fun s => (1, stmt s)
  | caseClause (.default body) => body.map fun s => (1, stmt s)
  | commClause (.comm comm body) => (0, stmt comm) :: body.map fun s => (1, stmt s)
  | commClause (.default body) => body.map fun s => (1, stmt s)
  | expr (.structType fields) => fields.map fun f => (1, field f)
  | expr (.interfaceType methods) => methods.map fun f => (1, field f)
  | node => node.parts.map fun part => (part.level, part)

theorem map_snd_leveledParts (node : Node) : node.leveledParts.map (·.2) = node.parts := by
  unfold leveledParts
  split <;> simp [parts, Expr.parts, Function.comp_def]

/-- Not a range with a value and no key. -/
def isKeyed : Node → Bool
  | stmt (.range none (some _) _ _ _) => false
  | _ => true

/-- Every range with a value has a key. -/
def RangesKeyed (root : Node) : Prop :=
  ∀ address node, root.at? address = some node → node.isKeyed = true

section

variable {node part : Node}

theorem rangesKeyed_iff :
    node.RangesKeyed ↔ ∀ found ∈ node.walk everywhere, found.isKeyed = true := by
  simp only [RangesKeyed, mem_walk_iff, forall_exists_index]
  exact forall_comm

instance : Decidable node.RangesKeyed := decidable_of_iff' _ rangesKeyed_iff

theorem RangesKeyed.isKeyed (h : node.RangesKeyed) : node.isKeyed = true :=
  h [] node (at?_nil node)

theorem RangesKeyed.of_mem_parts (h : node.RangesKeyed) (hpart : part ∈ node.parts) :
    part.RangesKeyed := by
  intro address found hfound
  obtain ⟨place, hplace⟩ := List.mem_iff_getElem?.1 hpart
  exact h (place :: address) found (at?_cons.2 ⟨part, hplace, hfound⟩)

end

theorem exists_of_not_isKeyed {node : Node} (h : node.isKeyed ≠ true) :
    ∃ value define x body, node = stmt (.range none (some value) define x body) := by
  unfold isKeyed at h
  split at h
  · exact ⟨_, _, _, _, rfl⟩
  · exact absurd rfl h

end Node

/-! ## Views and slots -/

/-- A way in which a node is written. -/
inductive View where
  | whole (node : Node)
  /-- A field as an element of an interface. -/
  | method (field : Field)
  /-- The type of a field, without names and tag. -/
  | bare (field : Field)
  /-- A function type without `func`. -/
  | signature (type : FuncType)

def Node.layout : Node → List Piece
  | decl d => d.layout
  | func f => f.layout
  | gen g => g.layout
  | field f => f.layout
  | block body => Stmt.layoutList body
  | stmt s => s.layout
  | ifElse s => s.layout
  | caseClause c => c.layout
  | commClause c => c.layout
  | expr x => x.layout
  | ident id => [.ident id]

namespace View

def node : View → Node
  | whole node => node
  | method field => .field field
  | bare field => .field field
  | signature type => .expr (.funcType type)

def layout : View → List Piece
  | whole node => node.layout
  | method field => field.layoutMethod
  | bare field => field.type.layout
  | signature type => type.layout

end View

/-- A piece of the node itself, or a part that stands so many levels deeper. -/
inductive FormSlot where
  | piece (piece : Piece)
  | part (level : Nat) (view : View)

namespace FormSlot

def layout : FormSlot → List Piece
  | piece p => [p]
  | part _ view => view.layout

/-- The part and its level. -/
def node? : FormSlot → Option (Nat × Node)
  | piece _ => none
  | part level view => some (level, view.node)

def own (pieces : List Piece) : List FormSlot := pieces.map piece

/-- A part as it stands by itself. -/
def whole (node : Node) : FormSlot := part 0 (.whole node)

def deepen : FormSlot → FormSlot
  | piece p => piece p
  | part level view => part (level + 1) view

/-- The slots one level deeper. -/
def deeper (slots : List FormSlot) : List FormSlot := slots.map deepen

def wrapIf (needed : Bool) (slots : List FormSlot) : List FormSlot :=
  if needed then own [openParen] ++ slots ++ own [closeParen] else slots

/-- An expression at a place that demands precedence `min` or more. -/
def operand (min : Nat) (x : Expr) : List FormSlot :=
  wrapIf (x.precedence < min) [whole (.expr x)]

/-- Nodes with commas between them. -/
def commas : List Node → List FormSlot
  | [] => []
  | [node] => [whole node]
  | node :: rest => whole node :: own [comma, .blank] ++ commas rest

def exprs (xs : List Expr) : List FormSlot := commas (xs.map .expr)

def fields (fields : List Field) : List FormSlot := commas (fields.map .field)

/-- A line of its own. -/
def line (slots : List FormSlot) : List FormSlot := own [.indent] ++ slots ++ own [.newline]

/-- Each view on a line of its own. -/
def lines (views : List View) : List FormSlot := views.flatMap fun view => line [part 0 view]

/-- Lines of their own for statements. Empty ones are not written. -/
def stmts (body : Block) : List FormSlot :=
  body.flatMap fun
    | .empty => [whole (.stmt .empty)]
    | stmt => line [whole (.stmt stmt)]

/-- Lines one level deeper between two pieces. -/
def enclosed (first last : Piece) (slots : List FormSlot) : List FormSlot :=
  own [first, .newline, .deepen] ++ deeper slots ++ own [.raise, .indent, last]

def block (body : Block) : List FormSlot := enclosed openBrace closeBrace [whole (.block body)]

/-- Clauses between braces, on the level of these. -/
def clauses (nodes : List Node) : List FormSlot :=
  own [openBrace, .newline] ++ nodes.map whole ++ own [.indent, closeBrace]

end FormSlot

/-! ## Slots of nodes -/

open FormSlot (own whole operand exprs fields line stmts enclosed block clauses)

/-- A field or parameter of names, if it has any, a type and a tag. -/
def Field.form : Field → List FormSlot
  | ⟨names, type, tag, _⟩ =>
    own (if names.isEmpty then [] else Piece.nameList names ++ [.blank]) ++ [whole (.expr type)] ++
      own (match tag with
        | some tag => [.blank, .token tag]
        | none => [])

/-- A method is written without `func`. -/
def Field.methodForm : Field → List FormSlot
  | ⟨[name], .funcType type, _, _⟩ => own [.token name.name] ++ [.part 0 (.signature type)]
  | field => field.form

/-- A single unnamed result stands without parentheses. -/
def FuncType.form : FuncType → List FormSlot
  | ⟨params, results⟩ =>
    own [openParen] ++ fields params ++ own [closeParen] ++
      (match results with
        | [] => []
        | [⟨[], type, tag, resolved⟩] => own [.blank] ++ [.part 0 (.bare ⟨[], type, tag, resolved⟩)]
        | results => own [.blank, openParen] ++ fields results ++ own [closeParen])

def Expr.form : Expr → List FormSlot
  | .ident id => [whole (.ident id)]
  | .basicLit lit => own [.literal lit.value]
  | .compositeLit type elements =>
    type.toList.flatMap (operand primaryPrecedence) ++ own [openBrace] ++ exprs elements ++
      own [closeBrace]
  | .funcLit type body => own [.token "func"] ++ type.form ++ own [.blank] ++ block body
  | .paren x => own [openParen] ++ [whole (.expr x)] ++ own [closeParen]
  | .selector x sel => operand primaryPrecedence x ++ own [.token "."] ++ [whole (.ident sel)]
  | .index x indices =>
    operand primaryPrecedence x ++ own [openBracket] ++ exprs indices ++ own [closeBracket]
  | .slice x low high max =>
    operand primaryPrecedence x ++ own [openBracket] ++ exprs low.toList ++
      own [colon] ++ exprs high.toList ++
      (match max with
        | some max => own [colon] ++ [whole (.expr max)]
        | none => []) ++
      own [closeBracket]
  | .typeAssert x type =>
    operand primaryPrecedence x ++ own [.token ".", openParen] ++
      (match type with
        | some type => [whole (.expr type)]
        | none => own [.token "type"]) ++
      own [closeParen]
  | .call fn args spread =>
    operand primaryPrecedence fn ++ own [openParen] ++ exprs args ++
      own ((if spread then [.token "..."] else []) ++ [closeParen])
  | .star x => own [.token "*"] ++ operand unaryPrecedence x
  | .unary op x _ =>
    own (.token op.text :: if op.gluesTo x then [.blank] else []) ++ operand unaryPrecedence x
  | .binary x op y =>
    operand op.precedence x ++ own [.blank, .token op.text, .blank] ++
      operand (op.precedence + 1) y
  | .keyValue key value => [whole (.expr key)] ++ own [colon, .blank] ++ [whole (.expr value)]
  | .arrayType length element =>
    own [openBracket] ++ exprs length.toList ++ own [closeBracket] ++ [whole (.expr element)]
  | .structType [] => own [.token "struct", openBrace, closeBrace]
  | .structType fields =>
    own [.token "struct", .blank] ++
      enclosed openBrace closeBrace (FormSlot.lines (fields.map fun field => .whole (.field field)))
  | .funcType type => own [.token "func"] ++ type.form
  | .interfaceType [] => own [.token "interface", openBrace, closeBrace]
  | .interfaceType methods =>
    own [.token "interface", .blank] ++
      enclosed openBrace closeBrace (FormSlot.lines (methods.map .method))
  | .mapType key value =>
    own [.token "map", openBracket] ++ [whole (.expr key)] ++ own [closeBracket] ++
      [whole (.expr value)]
  | .chanType dir value => own dir.pieces ++ [whole (.expr value)]
  | .ellipsis element => own [.token "..."] ++ exprs element.toList

def Spec.form : Spec → List FormSlot
  | .imports spec => own spec.pieces
  | .value names typed values =>
    FormSlot.commas (names.map .ident) ++
      (match typed with
        | some typed => own [.blank] ++ [whole (.expr typed)]
        | none => []) ++
      (match values with
        | [] => []
        | values => own [.blank, .token "=", .blank] ++ exprs values)
  | .type name params isAlias named =>
    [whole (.ident name)] ++
      (match params with
        | [] => []
        | params => own [openBracket] ++ fields params ++ own [closeBracket]) ++
      own (.blank :: if isAlias then [.token "=", .blank] else []) ++ [whole (.expr named)]

def GenDecl.form : GenDecl → List FormSlot
  | ⟨kind, [spec], false⟩ => own [.token kind.keyword, .blank] ++ spec.form
  | ⟨kind, specs, _⟩ =>
    own [.token kind.keyword, .blank] ++
      enclosed openParen closeParen (specs.flatMap fun spec => line spec.form)

/-- A statement before the header proper, with its semicolon. -/
def Stmt.initForm (init : Option Stmt) : List FormSlot :=
  init.toList.flatMap fun init => [whole (.stmt init)] ++ own [semicolon, .blank]

def Stmt.form : Stmt → List FormSlot
  | .decl group => [whole (.gen group)]
  | .empty => []
  | .labeled label .empty => own [.token label, colon] ++ [whole (.stmt .empty)]
  | .labeled label stmt => own [.token label, colon, .newline, .indent] ++ [whole (.stmt stmt)]
  | .expr x => [whole (.expr x)]
  | .send chan value =>
    [whole (.expr chan)] ++ own [.blank, .token "<-", .blank] ++ [whole (.expr value)]
  | .incDec x op => [whole (.expr x)] ++ own [.token op.text]
  | .assign lhs op rhs => exprs lhs ++ own [.blank, .token op.text, .blank] ++ exprs rhs
  | .go call => own [.token "go", .blank] ++ [whole (.expr call)]
  | .defer call => own [.token "defer", .blank] ++ [whole (.expr call)]
  | .return [] => own [.token "return"]
  | .return results => own [.token "return", .blank] ++ exprs results
  | .branch kind label =>
    own (.token kind.keyword ::
      (match label with
        | some label => [.blank, .token label]
        | none => []))
  | .block body => FormSlot.block body
  | .ifElse stmt => [whole (.ifElse stmt)]
  | .switch init tag cases =>
    own [.token "switch"] ++
      (init.toList.flatMap fun init => own [.blank] ++ [whole (.stmt init)] ++ own [semicolon]) ++
      (tag.toList.flatMap fun tag => own [.blank] ++ [whole (.expr tag)]) ++
      own [.blank] ++ clauses (cases.map .caseClause)
  | .typeSwitch init guarded cases =>
    own [.token "switch", .blank] ++ Stmt.initForm init ++ [whole (.stmt guarded)] ++
      own [.blank] ++ clauses (cases.map .caseClause)
  | .select cases => own [.token "select", .blank] ++ clauses (cases.map .commClause)
  | .loop none cond none body =>
    own [.token "for", .blank] ++
      (cond.toList.flatMap fun cond => [whole (.expr cond)] ++ own [.blank]) ++ FormSlot.block body
  | .loop init cond post body =>
    own [.token "for", .blank] ++ (init.toList.map fun init => whole (.stmt init)) ++
      own [semicolon, .blank] ++ exprs cond.toList ++ own [semicolon] ++
      (post.toList.flatMap fun post => own [.blank] ++ [whole (.stmt post)]) ++
      own [.blank] ++ FormSlot.block body
  | .range none _ _ x body =>
    own [.token "for", .blank, .token "range", .blank] ++ [whole (.expr x)] ++ own [.blank] ++
      FormSlot.block body
  | .range (some key) value define x body =>
    own [.token "for", .blank] ++ exprs (key :: value.toList) ++
      own [.blank, .token (if define then ":=" else "="), .blank, .token "range", .blank] ++
      [whole (.expr x)] ++ own [.blank] ++ FormSlot.block body

def IfStmt.form : IfStmt → List FormSlot
  | ⟨init, cond, body, otherwise⟩ =>
    own [.token "if", .blank] ++ Stmt.initForm init ++ [whole (.expr cond)] ++ own [.blank] ++
      block body ++
      (match otherwise with
        | none => []
        | some (.block other) => own [.blank, .token "else", .blank] ++ block other
        | some (.elseIf other) => own [.blank, .token "else", .blank] ++ [whole (.ifElse other)])

/-- The label of a clause, and its statements one level deeper. -/
def FormSlot.clause (label : List FormSlot) (body : Block) : List FormSlot :=
  own [.indent] ++ label ++ own [colon, .newline, .deepen] ++ FormSlot.deeper (stmts body) ++
    own [.raise]

def CaseClause.form : CaseClause → List FormSlot
  | .cases labels body => FormSlot.clause (own [.token "case", .blank] ++ exprs labels) body
  | .default body => FormSlot.clause (own [.token "default"]) body

def CommClause.form : CommClause → List FormSlot
  | .comm stmt body => FormSlot.clause (own [.token "case", .blank] ++ [whole (.stmt stmt)]) body
  | .default body => FormSlot.clause (own [.token "default"]) body

def FuncDecl.form (func : FuncDecl) : List FormSlot :=
  own [.token "func", .blank] ++
    (func.receiver.toList.flatMap fun receiver =>
      own [openParen] ++ [whole (.field receiver)] ++ own [closeParen, .blank]) ++
    own [.token func.name] ++
    (match func.typeParams with
      | [] => []
      | params => own [openBracket] ++ fields params ++ own [closeBracket]) ++
    func.signature.form ++
    (func.body.toList.flatMap fun body => own [.blank] ++ block body)

def Node.form : Node → List FormSlot
  | decl (.func f) => [whole (.func f)]
  | decl (.gen g) => [whole (.gen g)]
  | func f => f.form
  | gen g => g.form
  | field f => f.form
  | block body => stmts body
  | stmt s => s.form
  | ifElse s => s.form
  | caseClause c => c.form
  | commClause c => c.form
  | expr x => x.form
  | ident id => own [.ident id]

def View.form : View → List FormSlot
  | whole node => node.form
  | method field => field.methodForm
  | bare field => [FormSlot.whole (.expr field.type)]
  | signature type => type.form

/-! ## Layouts consist of slots -/

namespace FormSlot

/-- The layout of slots in a row. -/
def layouts (slots : List FormSlot) : List Piece := slots.flatMap layout

@[simp] theorem layouts_nil : layouts [] = [] := rfl

@[simp] theorem layouts_append (left right : List FormSlot) :
    layouts (left ++ right) = layouts left ++ layouts right :=
  List.flatMap_append

@[simp] theorem layouts_part (level : Nat) (view : View) (slots : List FormSlot) :
    layouts (part level view :: slots) = view.layout ++ layouts slots := rfl

@[simp] theorem layouts_whole (node : Node) (slots : List FormSlot) :
    layouts (whole node :: slots) = node.layout ++ layouts slots := rfl

@[simp] theorem layouts_own (pieces : List Piece) : layouts (own pieces) = pieces := by
  simp [layouts, own, List.flatMap_map, layout]

@[simp] theorem layouts_deeper (slots : List FormSlot) :
    layouts (deeper slots) = layouts slots := by
  rw [layouts, deeper, List.flatMap_map]
  refine List.flatMap_congr fun slot _ => ?_
  cases slot <;> rfl

@[simp] theorem layouts_wrapIf (needed : Bool) (slots : List FormSlot) :
    layouts (wrapIf needed slots) = Piece.wrapIf needed (layouts slots) := by
  cases needed <;> simp [wrapIf, Piece.wrapIf]

@[simp] theorem layouts_operand (min : Nat) (x : Expr) :
    layouts (operand min x) = Piece.wrapIf (x.precedence < min) x.layout := by
  simp [operand, Node.layout]

@[simp] theorem layouts_exprs (xs : List Expr) : layouts (exprs xs) = Expr.layoutList xs := by
  rw [exprs]
  induction xs with
  | nil => simp [commas, Expr.layoutList]
  | cons x xs ih => cases xs <;> simp_all [commas, Expr.layoutList, Node.layout]

@[simp] theorem layouts_toList (x : Option Expr) :
    Expr.layoutList x.toList = Expr.layoutOption x := by
  cases x <;> simp [Expr.layoutList, Expr.layoutOption]

@[simp] theorem layouts_fields (params : List Field) :
    layouts (fields params) = Field.layoutList params := by
  rw [fields]
  induction params with
  | nil => simp [commas, Field.layoutList]
  | cons field params ih => cases params <;> simp_all [commas, Field.layoutList, Node.layout]

@[simp] theorem layouts_idents (names : List Ident) :
    layouts (commas (names.map .ident)) = identList names := by
  induction names with
  | nil => simp [commas, identList]
  | cons id names ih => cases names <;> simp_all [commas, identList, Node.layout]

@[simp] theorem layouts_line (slots : List FormSlot) :
    layouts (line slots) = .indent :: layouts slots ++ [.newline] := by
  simp [line]

@[simp] theorem layouts_flatMap {α : Type} (items : List α) (f : α → List FormSlot) :
    layouts (items.flatMap f) = items.flatMap fun item => layouts (f item) :=
  List.flatMap_assoc

@[simp] theorem layouts_lines (views : List View) :
    layouts (lines views) = views.flatMap fun view => .indent :: view.layout ++ [.newline] := by
  simp [lines]

@[simp] theorem layouts_stmts (body : Block) : layouts (stmts body) = Stmt.layoutList body := by
  induction body with
  | nil => simp [stmts, Stmt.layoutList]
  | cons stmt body ih =>
    rw [stmts, layouts_flatMap] at ih ⊢
    rw [List.flatMap_cons, ih]
    cases stmt with
    | empty => simp [Stmt.layoutList, Node.layout, Stmt.layout]
    | _ => simp [Stmt.layoutList, Node.layout]

@[simp] theorem layouts_block (body : Block) :
    layouts (block body) = Piece.braced (Stmt.layoutList body) := by
  simp [block, enclosed, Piece.braced, Node.layout]

end FormSlot

attribute [local simp] Node.layout View.layout Expr.layout Expr.form Stmt.layout Stmt.form
  IfStmt.form Field.form FuncDecl.form View.form Node.form CaseClause.form CommClause.form
  FormSlot.clause FormSlot.enclosed

theorem FuncType.layout_eq_form (type : FuncType) : type.layout = FormSlot.layouts type.form := by
  obtain ⟨params, results⟩ := type
  rw [FuncType.layout.eq_def, FuncType.form.eq_def]
  dsimp only
  split <;> simp

theorem Field.layoutLines_eq (fields : List Field) :
    Field.layoutLines fields =
      fields.flatMap fun field => .indent :: field.layout ++ [.newline] := by
  induction fields with
  | nil => rfl
  | cons field fields ih => simp [Field.layoutLines, ih]

theorem Field.layoutMethods_eq (fields : List Field) :
    Field.layoutMethods fields =
      fields.flatMap fun field => .indent :: field.layoutMethod ++ [.newline] := by
  induction fields with
  | nil => rfl
  | cons field fields ih => simp [Field.layoutMethods, ih]

theorem Expr.layout_eq_form (x : Expr) : x.layout = FormSlot.layouts x.form := by
  cases x with
  | compositeLit type elements => cases type <;> simp
  | slice x low high max => cases max <;> simp
  | typeAssert x type => cases type <;> simp
  | structType fields =>
    cases fields <;>
      simp [Piece.braced, Field.layoutLines_eq, List.flatMap_map]
  | interfaceType methods =>
    cases methods <;>
      simp [Piece.braced, Field.layoutMethods_eq, List.flatMap_map]
  | _ => simp [FuncType.layout_eq_form]

theorem Spec.layout_eq_form (spec : Spec) : spec.layout = FormSlot.layouts spec.form := by
  cases spec with
  | imports spec => simp [Spec.layout, Spec.form]
  | value names typed values =>
    cases typed <;> cases values <;> simp [Spec.layout, Spec.form]
  | type name params isAlias named =>
    cases params <;> cases isAlias <;> simp [Spec.layout, Spec.form]

theorem Spec.layoutLines_eq (specs : List Spec) :
    Spec.layoutLines specs = specs.flatMap fun spec => .indent :: spec.layout ++ [.newline] := by
  induction specs with
  | nil => rfl
  | cons spec specs ih => simp [Spec.layoutLines, ih]

theorem GenDecl.layout_eq_form (decl : GenDecl) : decl.layout = FormSlot.layouts decl.form := by
  rw [GenDecl.layout.eq_def, GenDecl.form.eq_def]
  split <;> simp [Spec.layoutLines_eq, Spec.layout_eq_form]

theorem CaseClause.layoutList_eq (cases : List CaseClause) :
    CaseClause.layoutList cases = cases.flatMap CaseClause.layout := by
  induction cases with
  | nil => rfl
  | cons clause cases ih => simp [CaseClause.layoutList, ih]

theorem CommClause.layoutList_eq (cases : List CommClause) :
    CommClause.layoutList cases = cases.flatMap CommClause.layout := by
  induction cases with
  | nil => rfl
  | cons clause cases ih => simp [CommClause.layoutList, ih]

theorem FormSlot.layouts_clauses (nodes : List Node) : layouts (clauses nodes) =
    openBrace :: .newline :: nodes.flatMap Node.layout ++ [.indent, closeBrace] := by
  have hnodes : layouts (nodes.map FormSlot.whole) = nodes.flatMap Node.layout := by
    rw [layouts, List.flatMap_map]
    rfl
  simp [clauses, hnodes]

theorem Stmt.layout_eq_form (stmt : Stmt) : stmt.layout = FormSlot.layouts stmt.form := by
  cases stmt with
  | labeled label stmt =>
    by_cases hempty : stmt = .empty
    · subst hempty
      simp
    · rw [Stmt.layout, Stmt.form]
      · simp
      all_goals exact hempty
  | «return» results => cases results <;> simp
  | branch kind label => cases label <;> simp
  | switch init tag cases =>
    cases init <;> cases tag <;>
      simp [FormSlot.layouts_clauses, CaseClause.layoutList_eq, List.flatMap_map]
  | typeSwitch init guarded cases =>
    cases init <;>
      simp [Stmt.initForm, Stmt.layoutInit, FormSlot.layouts_clauses, CaseClause.layoutList_eq,
        List.flatMap_map]
  | select cases =>
    simp [FormSlot.layouts_clauses, CommClause.layoutList_eq, List.flatMap_map]
  | loop init cond post body =>
    cases init <;> cases cond <;> cases post <;>
      simp [Stmt.layoutOption, Stmt.layoutPost, Expr.layoutOption, Expr.layoutList]
  | range key value define x body =>
    cases key <;> cases value <;>
      simp [Expr.layoutList]
  | _ => simp

theorem IfStmt.layout_eq_form (stmt : IfStmt) : stmt.layout = FormSlot.layouts stmt.form := by
  obtain ⟨init, cond, body, otherwise⟩ := stmt
  have hinit : Stmt.layoutInit init = FormSlot.layouts (Stmt.initForm init) := by
    cases init <;> simp [Stmt.layoutInit, Stmt.initForm]
  match otherwise with
  | none | some (.block _) | some (.elseIf _) =>
    simp [IfStmt.layout, Else.layoutOption, hinit]

theorem Field.layout_eq_form (field : Field) : field.layout = FormSlot.layouts field.form := by
  obtain ⟨names, type, tag, resolved⟩ := field
  cases tag <;> simp [Field.layout, Piece.field]

theorem Field.layoutMethod_eq_form (field : Field) :
    field.layoutMethod = FormSlot.layouts field.methodForm := by
  rw [Field.layoutMethod.eq_def]
  split
  · simp [Field.methodForm]
  · next names type tag resolved hmethod =>
    rw [Field.methodForm]
    · exact Field.layout_eq_form ⟨names, type, tag, resolved⟩
    · intro name type tag resolved heq
      cases heq
      exact hmethod name type rfl rfl

theorem FuncDecl.layout_eq_form (func : FuncDecl) : func.layout = FormSlot.layouts func.form := by
  obtain ⟨name, receiver, typeParams, signature, body, position⟩ := func
  cases receiver <;> cases typeParams <;> cases body <;>
    simp [FuncDecl.layout, FuncDecl.receiverLayout, FuncDecl.typeParamLayout,
      FuncType.layout_eq_form]

/-- A layout consists of the slots of its form. -/
theorem View.layout_eq_form (view : View) : view.layout = FormSlot.layouts view.form := by
  match view with
  | whole (.decl (.func f)) | whole (.decl (.gen f)) =>
    simp [Decl.layout]
  | whole (.func f) => exact f.layout_eq_form
  | whole (.gen g) => exact g.layout_eq_form
  | whole (.field f) => exact f.layout_eq_form
  | whole (.block body) => exact (FormSlot.layouts_stmts body).symm
  | whole (.stmt s) => exact s.layout_eq_form
  | whole (.ifElse s) => exact s.layout_eq_form
  | whole (.caseClause c) =>
    cases c <;>
      simp [CaseClause.layout]
  | whole (.commClause c) =>
    cases c <;>
      simp [CommClause.layout]
  | whole (.expr x) => exact x.layout_eq_form
  | whole (.ident id) => rfl
  | method field => exact field.layoutMethod_eq_form
  | bare field => simp
  | signature type => exact type.layout_eq_form

/-! ## Parts in slots -/

attribute [local simp] Node.leveledParts Node.parts Expr.parts Stmt.parts Node.level View.node

namespace FormSlot

/-- The parts in the slots, with their levels. -/
def nodes (slots : List FormSlot) : List (Nat × Node) := slots.filterMap node?

@[simp] theorem nodes_nil : nodes [] = [] := rfl

@[simp] theorem nodes_append (left right : List FormSlot) :
    nodes (left ++ right) = nodes left ++ nodes right :=
  List.filterMap_append

@[simp] theorem nodes_part (level : Nat) (view : View) (slots : List FormSlot) :
    nodes (part level view :: slots) = (level, view.node) :: nodes slots := rfl

@[simp] theorem nodes_whole (node : Node) (slots : List FormSlot) :
    nodes (whole node :: slots) = (0, node) :: nodes slots := rfl

@[simp] theorem nodes_own (pieces : List Piece) : nodes (own pieces) = [] := by
  simp [nodes, own, List.filterMap_map, Function.comp_def, node?]

@[simp] theorem nodes_deeper (slots : List FormSlot) :
    nodes (deeper slots) = (nodes slots).map fun part => (part.1 + 1, part.2) := by
  rw [nodes, nodes, deeper, List.filterMap_map, List.map_filterMap]
  refine List.filterMap_congr fun slot _ => ?_
  cases slot <;> rfl

@[simp] theorem nodes_operand (min : Nat) (x : Expr) : nodes (operand min x) = [(0, .expr x)] := by
  rw [operand, wrapIf]
  split <;> simp

@[simp] theorem nodes_commas (parts : List Node) :
    nodes (commas parts) = parts.map fun part => (0, part) := by
  induction parts with
  | nil => rfl
  | cons part parts ih => cases parts <;> simp_all [commas]

@[simp] theorem nodes_exprs (xs : List Expr) :
    nodes (exprs xs) = xs.map fun x => (0, .expr x) := by
  simp [exprs, Function.comp_def]

@[simp] theorem nodes_fields (params : List Field) :
    nodes (fields params) = params.map fun field => (0, .field field) := by
  simp [fields, Function.comp_def]

@[simp] theorem nodes_line (slots : List FormSlot) : nodes (line slots) = nodes slots := by
  simp [line]

@[simp] theorem nodes_flatMap {α : Type} (items : List α) (f : α → List FormSlot) :
    nodes (items.flatMap f) = items.flatMap fun item => nodes (f item) :=
  List.filterMap_flatMap

@[simp] theorem nodes_lines (views : List View) :
    nodes (lines views) = views.map fun view => (0, view.node) := by
  rw [lines, nodes_flatMap, List.map_eq_flatMap]
  simp

@[simp] theorem nodes_stmts (body : Block) :
    nodes (stmts body) = body.map fun stmt => (0, .stmt stmt) := by
  rw [stmts, nodes_flatMap, ← List.flatMap_singleton' (body.map _), List.flatMap_map]
  refine List.flatMap_congr fun stmt _ => ?_
  cases stmt <;> rfl

@[simp] theorem nodes_block (body : Block) : nodes (block body) = [(1, .block body)] := by
  simp [block, enclosed]

@[simp] theorem nodes_clauses (parts : List Node) :
    nodes (clauses parts) = parts.map fun part => (0, part) := by
  have hparts : nodes (parts.map whole) = parts.map fun part => (0, part) := by
    simp [nodes, List.filterMap_map, whole, node?, Function.comp_def]
  simp [clauses, hparts]

end FormSlot

theorem FuncType.nodes_form (type : FuncType) :
    FormSlot.nodes type.form = type.parts.map fun part => (part.level, part) := by
  obtain ⟨params, results⟩ := type
  rw [FuncType.form.eq_def]
  dsimp only
  split <;> simp [FuncType.parts, Function.comp_def]

theorem Expr.nodes_form (x : Expr) : FormSlot.nodes x.form = (Node.expr x).leveledParts := by
  cases x with
  | compositeLit type _ | slice _ _ _ type | typeAssert _ type =>
    cases type <;>
      simp [Function.comp_def]
  | structType fields | interfaceType fields =>
    cases fields <;>
      simp [Function.comp_def]
  | _ =>
    simp [FuncType.nodes_form, Function.comp_def]

theorem Spec.nodes_form (spec : Spec) :
    FormSlot.nodes spec.form = spec.parts.map fun part => (0, part) := by
  cases spec with
  | imports spec => simp [Spec.form, Spec.parts]
  | value names typed values =>
    cases typed <;> cases values <;> simp [Spec.form, Spec.parts, Function.comp_def]
  | type name params isAlias named =>
    cases params <;> simp [Spec.form, Spec.parts, Function.comp_def]

theorem GenDecl.nodes_form (decl : GenDecl) :
    FormSlot.nodes decl.form = (Node.gen decl).leveledParts := by
  obtain ⟨kind, specs, grouped⟩ := decl
  have hgroup : FormSlot.nodes (own [.token kind.keyword, .blank] ++
      enclosed openParen closeParen (specs.flatMap fun spec => line spec.form)) =
        (specs.flatMap Spec.parts).map fun part => (1, part) := by
    simp [enclosed, Spec.nodes_form, List.map_flatMap, Function.comp_def]
  match specs, grouped with
  | [spec], false =>
    simp [GenDecl.form, Spec.nodes_form, GenDecl.isGroup]
  | [_], true | [], _ | _ :: _ :: _, _ => exact hgroup

theorem Stmt.nodes_form {stmt : Stmt} (hkeyed : (Node.stmt stmt).isKeyed = true) :
    FormSlot.nodes stmt.form = stmt.parts.map fun part => (part.level, part) := by
  cases stmt with
  | labeled label stmt =>
    by_cases hempty : stmt = .empty
    · subst hempty
      simp
    · rw [Stmt.form]
      · simp
      · exact hempty
  | «return» results =>
    cases results <;> simp [Function.comp_def]
  | switch init tag cases =>
    cases init <;> cases tag <;>
      simp [Function.comp_def]
  | typeSwitch init guarded cases =>
    cases init <;> simp [Stmt.initForm, Function.comp_def]
  | loop init cond post body =>
    cases init <;> cases cond <;> cases post <;>
      simp
  | range key value define x body =>
    cases key with
    | none =>
      cases value with
      | none => simp
      | some value => cases hkeyed
    | some key => cases value <;> simp
  | _ => simp [Function.comp_def]

theorem IfStmt.nodes_form (stmt : IfStmt) :
    FormSlot.nodes stmt.form = (Node.ifElse stmt).leveledParts := by
  obtain ⟨init, cond, body, otherwise⟩ := stmt
  have hinit : FormSlot.nodes (Stmt.initForm init) =
      init.toList.map fun init => (0, .stmt init) := by
    cases init <;> simp [Stmt.initForm]
  match otherwise with
  | none | some (.block _) | some (.elseIf _) =>
    simp [Else.parts, hinit, Function.comp_def]

theorem Field.nodes_form (field : Field) :
    FormSlot.nodes field.form = [(0, .expr field.type)] := by
  obtain ⟨names, type, tag, resolved⟩ := field
  simp

theorem Field.nodes_methodForm (field : Field) :
    FormSlot.nodes field.methodForm = [(0, .expr field.type)] := by
  rw [Field.methodForm.eq_def]
  split
  · simp
  · exact Field.nodes_form _

theorem FuncDecl.nodes_form (func : FuncDecl) :
    FormSlot.nodes func.form = (Node.func func).leveledParts := by
  obtain ⟨name, receiver, typeParams, signature, body, position⟩ := func
  cases receiver <;> cases typeParams <;> cases body <;>
    simp [FuncType.nodes_form, FuncDecl.parts, Function.comp_def]

/-- The parts in the slots are the parts of the node. -/
theorem View.nodes_form {view : View} (hkeyed : view.node.isKeyed = true) :
    FormSlot.nodes view.form = view.node.leveledParts := by
  match view with
  | whole (.decl (.func f)) | whole (.decl (.gen g)) => rfl
  | whole (.func f) => exact f.nodes_form
  | whole (.gen g) => exact g.nodes_form
  | whole (.field f) => exact f.nodes_form
  | whole (.block body) =>
    simp [Function.comp_def]
  | whole (.stmt s) => exact Stmt.nodes_form hkeyed
  | whole (.ifElse s) => exact s.nodes_form
  | whole (.caseClause c) =>
    cases c <;>
      simp [Function.comp_def]
  | whole (.commClause c) =>
    cases c <;>
      simp [Function.comp_def]
  | whole (.expr x) => exact x.nodes_form
  | whole (.ident id) => rfl
  | method field => exact field.nodes_methodForm
  | bare field => rfl
  | signature type => exact type.nodes_form

theorem View.mem_parts_of_mem_form {view part : View} {level : Nat}
    (hpart : .part level part ∈ view.form) : part.node ∈ view.node.parts := by
  have hnode : (level, part.node) ∈ FormSlot.nodes view.form :=
    List.mem_filterMap.2 ⟨_, hpart, rfl⟩
  by_cases hkeyed : view.node.isKeyed = true
  · rw [View.nodes_form hkeyed] at hnode
    rw [← Node.map_snd_leveledParts]
    exact List.mem_map_of_mem hnode
  · -- a range with a value and no key has its other parts in the slots
    obtain ⟨value, define, x, body, hrange⟩ := Node.exists_of_not_isKeyed hkeyed
    cases view with
    | whole node =>
      obtain rfl : node = _ := hrange
      have hparts : (level, part.node) = (0, .expr x) ∨ (level, part.node) = (1, .block body) := by
        simpa using hnode
      rcases hparts with heq | heq <;> rw [(Prod.mk.inj heq).2] <;>
        simp
    | _ => cases hrange

end GoProbe
