import GoProbe.Proofs.Forms

/-!
# Own pieces of nodes

What a node writes between its parts: keywords, operators, punctuation, and the strings that the
node stores (`View.own_form`). So the texts in a layout are such marks and the strings in the tree
(`View.writtenFrom_layout`).
-/

namespace GoProbe

open Piece (openBrace closeBrace openParen closeParen openBracket closeBracket comma colon
  semicolon identList)
open FormSlot (own whole operand exprs fields line stmts enclosed block clauses)

/-! ## Strings in slots -/

/-- The local name and the path of an import. -/
def Spec.importStrings : Spec → List String
  | .imports spec => spec.localName.toList ++ [spec.path]
  | _ => []

/-- The strings that a node itself stores. -/
def Node.strings : Node → List String
  | func f => [f.name]
  | gen g => g.specs.flatMap Spec.importStrings
  | field f => f.names.map (·.name) ++ f.tag.toList
  | stmt (.labeled label _) => [label]
  | stmt (.branch _ label) => label.toList
  | expr (.basicLit lit) => [lit.value]
  | ident id => [id.name]
  | _ => []

/-- Keywords, operators and punctuation: short, and without line breaks. -/
def isPlain (text : String) : Bool := text.toList.length < 16 && !text.toList.contains '\n'

/-- A text that is written: a mark or a stored string, in quotes if it is the path of an import. -/
inductive Written (stored : String → Prop) : String → Prop where
  | plain {text : String} (h : isPlain text = true) : Written stored text
  | stored {text : String} (h : stored text) : Written stored text
  | quoted {text : String} (h : stored text) : Written stored ("\"" ++ text ++ "\"")

namespace Piece

/-- The text of the piece, if it is written as it stands. -/
def text? : Piece → Option String
  | ident id => some id.name
  | literal text => some text
  | token text => some text
  | blank => some " "
  | _ => none

/-- What the piece writes is a mark or a stored string. -/
def WrittenFrom (stored : String → Prop) (piece : Piece) : Prop :=
  ∀ text ∈ piece.text?, Written stored text

end Piece

section

variable {stored : String → Prop} {named : Ident → Prop}

@[simp] theorem Written.of_isPlain {text : String} (h : isPlain text = true) :
    Written stored text :=
  .plain h

attribute [local simp] isPlain Piece.text? Piece.openBrace Piece.closeBrace Piece.openParen
  Piece.closeParen Piece.openBracket Piece.closeBracket Piece.comma Piece.colon Piece.semicolon

@[simp] theorem Piece.writtenFrom_token {text : String} :
    (Piece.token text).WrittenFrom stored ↔ Written stored text := by
  simp [WrittenFrom]

@[simp] theorem Piece.writtenFrom_literal {text : String} :
    (Piece.literal text).WrittenFrom stored ↔ Written stored text := by
  simp [WrittenFrom]

@[simp] theorem Piece.writtenFrom_ident {id : Ident} :
    (Piece.ident id).WrittenFrom stored ↔ Written stored id.name := by
  simp [WrittenFrom]

@[simp] theorem Piece.writtenFrom_blank : Piece.blank.WrittenFrom stored := by
  simp [WrittenFrom]

@[simp] theorem Piece.writtenFrom_newline : Piece.newline.WrittenFrom stored := by
  simp [WrittenFrom]

@[simp] theorem Piece.writtenFrom_indent : Piece.indent.WrittenFrom stored := by
  simp [WrittenFrom]

@[simp] theorem Piece.writtenFrom_deepen : Piece.deepen.WrittenFrom stored := by
  simp [WrittenFrom]

@[simp] theorem Piece.writtenFrom_raise : Piece.raise.WrittenFrom stored := by
  simp [WrittenFrom]

namespace FormSlot

/-- The own pieces write marks, stored strings and named identifiers. -/
def OwnFrom (stored : String → Prop) (named : Ident → Prop) (slots : List FormSlot) : Prop :=
  ∀ p, piece p ∈ slots → p.WrittenFrom stored ∧ ∀ id, p = .ident id → named id

namespace OwnFrom

variable {slots left right : List FormSlot}

@[simp] theorem nil : OwnFrom stored named [] := by simp [OwnFrom]

@[simp] theorem append_iff :
    OwnFrom stored named (left ++ right) ↔
      OwnFrom stored named left ∧ OwnFrom stored named right := by
  simp only [OwnFrom, List.mem_append]
  exact ⟨fun h => ⟨fun p hp => h p (.inl hp), fun p hp => h p (.inr hp)⟩,
    fun h p hp => hp.elim (h.1 p) (h.2 p)⟩

@[simp] theorem part_cons_iff (level : Nat) (view : View) :
    OwnFrom stored named (part level view :: slots) ↔ OwnFrom stored named slots := by
  simp [OwnFrom]

@[simp] theorem whole_cons_iff (node : Node) :
    OwnFrom stored named (whole node :: slots) ↔ OwnFrom stored named slots :=
  part_cons_iff 0 _

@[simp] theorem own_iff {pieces : List Piece} :
    OwnFrom stored named (own pieces) ↔
      ∀ p ∈ pieces, p.WrittenFrom stored ∧ ∀ id, p = .ident id → named id := by
  simp [OwnFrom, own]

@[simp] theorem deeper_iff : OwnFrom stored named (deeper slots) ↔ OwnFrom stored named slots := by
  refine forall_congr' fun p => ?_
  have hmem : piece p ∈ deeper slots ↔ piece p ∈ slots := by
    rw [deeper, List.mem_map]
    constructor
    · rintro ⟨slot, hslot, heq⟩
      cases slot with
      | piece q => exact heq ▸ hslot
      | part level view => cases heq
    · exact fun h => ⟨piece p, h, rfl⟩
  rw [hmem]

@[simp] theorem flatMap_iff {α : Type} {items : List α} {f : α → List FormSlot} :
    OwnFrom stored named (items.flatMap f) ↔ ∀ item ∈ items, OwnFrom stored named (f item) := by
  simp only [OwnFrom, List.mem_flatMap]
  exact ⟨fun h item hitem p hp => h p ⟨item, hitem, hp⟩,
    fun h p ⟨item, hitem, hp⟩ => h item hitem p hp⟩

@[simp] theorem map_whole (nodes : List Node) : OwnFrom stored named (nodes.map whole) := by
  simp [OwnFrom, whole]

@[simp] theorem operand (min : Nat) (x : Expr) : OwnFrom stored named (operand min x) := by
  rw [FormSlot.operand, wrapIf]
  split <;> simp

@[simp] theorem commas (nodes : List Node) : OwnFrom stored named (commas nodes) := by
  induction nodes with
  | nil => exact .nil
  | cons node nodes ih => cases nodes <;> simp_all [FormSlot.commas]

@[simp] theorem exprs (xs : List Expr) : OwnFrom stored named (exprs xs) := commas _

@[simp] theorem fields (params : List Field) : OwnFrom stored named (fields params) := commas _

@[simp] theorem line_iff : OwnFrom stored named (line slots) ↔ OwnFrom stored named slots := by
  simp [line]

@[simp] theorem lines (views : List View) : OwnFrom stored named (lines views) := by
  simp [FormSlot.lines]

@[simp] theorem stmts (body : Block) : OwnFrom stored named (stmts body) := by
  rw [FormSlot.stmts, flatMap_iff]
  intro stmt _
  split <;> simp

@[simp] theorem block (body : Block) : OwnFrom stored named (block body) := by
  simp [FormSlot.block, enclosed]

@[simp] theorem clauses (nodes : List Node) : OwnFrom stored named (clauses nodes) := by
  simp [FormSlot.clauses]

end OwnFrom

end FormSlot

open FormSlot (OwnFrom)

namespace Written

@[simp] theorem unaryOp (op : UnaryOp) : Written stored op.text := by
  cases op <;> simp [UnaryOp.text]

@[simp] theorem binaryOp (op : BinaryOp) : Written stored op.text := by
  cases op <;> simp [BinaryOp.text]

@[simp] theorem incDecOp (op : IncDecOp) : Written stored op.text := by
  cases op <;> simp [IncDecOp.text]

@[simp] theorem assignOp (op : AssignOp) : Written stored op.text := by
  cases op <;> simp [AssignOp.text]

@[simp] theorem genKind (kind : GenKind) : Written stored kind.keyword := by
  cases kind <;> simp [GenKind.keyword]

@[simp] theorem branchKind (kind : BranchKind) : Written stored kind.keyword := by
  cases kind <;> simp [BranchKind.keyword]

end Written

theorem FuncType.own_form (type : FuncType) : OwnFrom stored named type.form := by
  obtain ⟨params, results⟩ := type
  rw [FuncType.form.eq_def]
  dsimp only
  split <;> simp

theorem Expr.own_form {x : Expr} (h : ∀ text ∈ (Node.expr x).strings, stored text) :
    OwnFrom stored named x.form := by
  cases x with
  | basicLit lit => simp [Expr.form, Written.stored (h lit.value List.mem_cons_self)]
  | slice x low high max => cases max <;> simp [Expr.form]
  | typeAssert x type => cases type <;> simp [Expr.form]
  | call fn args spread => cases spread <;> simp [Expr.form]
  | unary op x constant => cases hglues : op.gluesTo x <;> simp [Expr.form, hglues]
  | structType fields | interfaceType fields => cases fields <;> simp [Expr.form, enclosed]
  | chanType dir value => cases dir <;> simp [Expr.form, ChanDir.pieces]
  | _ => simp [Expr.form, FuncType.own_form]

theorem Spec.own_form {spec : Spec} (h : ∀ text ∈ spec.importStrings, stored text) :
    OwnFrom stored named spec.form := by
  cases spec with
  | imports spec =>
    obtain ⟨localName, path⟩ := spec
    have hpath : Written stored ("\"" ++ path ++ "\"") := .quoted (h path (by simp [importStrings]))
    cases localName with
    | none => simpa [Spec.form, ImportSpec.pieces] using hpath
    | some name =>
      have hname : Written stored name := .stored (h name (by simp [importStrings]))
      simpa [Spec.form, ImportSpec.pieces, hname] using hpath
  | value names typed values => cases typed <;> cases values <;> simp [Spec.form]
  | type name params isAlias named =>
    cases params <;> cases isAlias <;> simp [Spec.form]

theorem GenDecl.own_form {decl : GenDecl} (h : ∀ text ∈ (Node.gen decl).strings, stored text) :
    OwnFrom stored named decl.form := by
  have hspecs : ∀ spec ∈ decl.specs, OwnFrom stored named spec.form := fun spec hspec =>
    Spec.own_form fun text htext => h text (List.mem_flatMap.2 ⟨spec, hspec, htext⟩)
  rw [GenDecl.form.eq_def]
  split
  · simpa using hspecs
  · simpa [enclosed] using hspecs

theorem Stmt.own_form {stmt : Stmt} (h : ∀ text ∈ (Node.stmt stmt).strings, stored text) :
    OwnFrom stored named stmt.form := by
  cases stmt with
  | labeled label stmt =>
    have hlabel : Written stored label := .stored (h label List.mem_cons_self)
    by_cases hempty : stmt = .empty
    · subst hempty
      simp [Stmt.form, hlabel]
    · rw [Stmt.form]
      · simp [hlabel]
      · exact hempty
  | «return» results => cases results <;> simp [Stmt.form]
  | branch kind label =>
    cases label with
    | none => simp [Stmt.form]
    | some label => simp [Stmt.form, Written.stored (h label List.mem_cons_self)]
  | switch init tag cases => cases init <;> cases tag <;> simp [Stmt.form]
  | typeSwitch init guarded cases => cases init <;> simp [Stmt.form, Stmt.initForm]
  | loop init cond post body => cases init <;> cases cond <;> cases post <;> simp [Stmt.form]
  | range key value define x body => cases key <;> cases define <;> simp [Stmt.form]
  | _ => simp [Stmt.form]

theorem IfStmt.own_form (stmt : IfStmt) : OwnFrom stored named stmt.form := by
  obtain ⟨init, cond, body, otherwise⟩ := stmt
  match otherwise with
  | none | some (.block _) | some (.elseIf _) => simp [IfStmt.form, Stmt.initForm]

theorem FormSlot.OwnFrom.nameList {names : List Ident} (h : ∀ id ∈ names, stored id.name) :
    OwnFrom stored named (own (Piece.nameList names)) := by
  rw [own_iff]
  induction names with
  | nil => simp [Piece.nameList]
  | cons id names ih =>
    rw [List.forall_mem_cons] at h
    have hid : Written stored id.name := .stored h.1
    have hnames := ih h.2
    cases names with
    | nil => simp [Piece.nameList, hid]
    | cons other names =>
      rw [Piece.nameList]
      · rw [List.forall_mem_cons, List.forall_mem_cons, List.forall_mem_cons]
        exact ⟨by simp [hid], by simp, by simp, hnames⟩
      · simp

theorem Field.own_form {field : Field} (h : ∀ text ∈ (Node.field field).strings, stored text) :
    OwnFrom stored named field.form := by
  obtain ⟨names, type, tag, resolved⟩ := field
  simp only [Node.strings, List.forall_mem_append, List.forall_mem_map] at h
  have hnames : OwnFrom stored named (own (Piece.nameList names)) := .nameList h.1
  rw [FormSlot.OwnFrom.own_iff] at hnames
  have hfront : OwnFrom stored named
      (own (if names.isEmpty then [] else Piece.nameList names ++ [.blank])) := by
    rw [FormSlot.OwnFrom.own_iff]
    split
    · simp
    · rw [List.forall_mem_append, List.forall_mem_singleton]
      exact ⟨hnames, by simp⟩
  cases tag with
  | none => simpa [Field.form] using hfront
  | some tag =>
    have htag : Written stored tag := .stored (h.2 tag List.mem_cons_self)
    simpa [Field.form, htag] using hfront

theorem Field.own_methodForm {field : Field}
    (h : ∀ text ∈ (Node.field field).strings, stored text) :
    OwnFrom stored named field.methodForm := by
  rw [Field.methodForm.eq_def]
  split
  · next name type tag resolved =>
    have hname : Written stored name.name := .stored (h name.name List.mem_cons_self)
    simp [hname]
  · exact Field.own_form h

theorem FuncDecl.own_form {func : FuncDecl} (h : ∀ text ∈ (Node.func func).strings, stored text) :
    OwnFrom stored named func.form := by
  obtain ⟨name, receiver, typeParams, signature, body, position⟩ := func
  have hname : Written stored name := .stored (h name List.mem_cons_self)
  cases typeParams <;> simp [FuncDecl.form, FuncType.own_form, hname]

/-- A node writes marks and its own strings between its parts. Only an identifier is written as
one. -/
theorem View.own_form {view : View} (h : ∀ text ∈ view.node.strings, stored text)
    (hident : ∀ id, view.node = .ident id → named id) : OwnFrom stored named view.form := by
  match view with
  | whole (.decl (.func _)) | whole (.decl (.gen _)) => simp [View.form, Node.form]
  | whole (.func f) => exact FuncDecl.own_form h
  | whole (.gen g) => exact GenDecl.own_form h
  | whole (.field f) => exact Field.own_form h
  | whole (.block body) => exact OwnFrom.stmts body
  | whole (.stmt s) => exact Stmt.own_form h
  | whole (.ifElse s) => exact s.own_form
  | whole (.caseClause c) =>
    cases c <;> simp [View.form, Node.form, CaseClause.form, FormSlot.clause]
  | whole (.commClause c) =>
    cases c <;> simp [View.form, Node.form, CommClause.form, FormSlot.clause]
  | whole (.expr x) => exact Expr.own_form h
  | whole (.ident id) =>
    simp [View.form, Node.form, Written.stored (h id.name List.mem_cons_self), hident id rfl]
  | method field => exact Field.own_methodForm h
  | bare field => simp [View.form]
  | signature type => exact type.own_form

/-- What is written of a tree are marks and strings of its nodes. -/
theorem View.writtenFrom_layout {view : View}
    (h : ∀ node ∈ view.node.walk everywhere, ∀ text ∈ node.strings, stored text) :
    ∀ piece ∈ view.layout, piece.WrittenFrom stored := by
  generalize hnode : view.node = node at h
  induction node using Node.induct generalizing view with
  | step node ih =>
    subst hnode
    rw [Node.walk_eq_parts, if_pos view.node.enters_everywhere, List.forall_mem_cons] at h
    intro piece hpiece
    rw [View.layout_eq_form, FormSlot.layouts, List.mem_flatMap] at hpiece
    obtain ⟨slot, hslot, hpiece⟩ := hpiece
    cases slot with
    | piece p =>
      obtain rfl := List.mem_singleton.1 hpiece
      exact (View.own_form h.1 (fun _ _ => trivial) piece hslot).1
    | part level part =>
      have hpart := View.mem_parts_of_mem_form hslot
      refine ih part.node hpart rfl (fun found hfound => ?_) piece hpiece
      exact h.2 found (List.mem_flatMap.2 ⟨part.node, hpart, hfound⟩)

end

end GoProbe
