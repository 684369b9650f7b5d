import GoProbe.Proofs.OwnPieces

/-!
# The flow of a layout

The pieces of a layout are in order: a line ends before the next one is indented, a line is indented
before anything is written on it, levels are left as they were entered, and of two texts in a row
one has none of the characters that words are made of.

A cursor goes over the pieces and gets stuck where they are not in order. Over slots it passes a
part in one step, as the part's `Mode` says.

* `View.flows_form`: the slots of every node are in order, one case for each form.
* `View.flows_layout`: so are whole layouts, by induction on the tree.
-/

namespace GoProbe

open Piece (openBrace closeBrace openParen closeParen openBracket closeBracket comma colon
  semicolon identList)
open FormSlot (own whole operand exprs fields line stmts enclosed block clauses)

/-! ## Cursors -/

/-- Not an ASCII letter, digit or underscore. -/
def isBreakChar (c : Char) : Bool := !(c.isAlphanum || c == '_')

/-- The piece has characters, and none of them is a letter, digit or underscore. -/
def Piece.isBreak (piece : Piece) : Bool :=
  match piece.text? with
  | some text => !text.toList.isEmpty && text.toList.all isBreakChar
  | none => true

/-- Where a printer stands in a line: at its start, before the indentation, or in it, after a break
or after a word. It is stuck if what it did is not in order. -/
inductive Line where
  | fresh
  | mid (broken : Bool)
  | stuck
deriving DecidableEq

/-- The place in the line, and the levels entered so far. -/
structure Cursor where
  line : Line
  level : Nat
deriving DecidableEq

/-- Where a piece takes the cursor. A line is indented before something else is written on it, and
of two texts in a row one is a break. -/
def Piece.move (piece : Piece) (cursor : Cursor) : Cursor :=
  match cursor.line, piece with
  | .fresh, indent => ⟨.mid true, cursor.level⟩
  | .fresh, deepen => ⟨.fresh, cursor.level + 1⟩
  | .fresh, raise => if 0 < cursor.level then ⟨.fresh, cursor.level - 1⟩ else ⟨.stuck, 0⟩
  | .mid _, newline => ⟨.fresh, cursor.level⟩
  | .mid _, indent | .mid _, deepen | .mid _, raise => ⟨.stuck, 0⟩
  | .mid broken, piece =>
    if broken || piece.isBreak then ⟨.mid piece.isBreak, cursor.level⟩ else ⟨.stuck, 0⟩
  | _, _ => ⟨.stuck, 0⟩

namespace Piece

variable {b : Bool} {k : Nat}

@[simp] theorem move_newline : newline.move ⟨.mid b, k⟩ = ⟨.fresh, k⟩ := rfl

@[simp] theorem move_indent : indent.move ⟨.fresh, k⟩ = ⟨.mid true, k⟩ := rfl

@[simp] theorem move_deepen : deepen.move ⟨.fresh, k⟩ = ⟨.fresh, k + 1⟩ := rfl

@[simp] theorem move_raise : raise.move ⟨.fresh, k + 1⟩ = ⟨.fresh, k⟩ := rfl

@[simp] theorem move_blank : blank.move ⟨.mid b, k⟩ = ⟨.mid true, k⟩ := by
  cases b <;> rfl

@[simp] theorem move_break {text : String} (h : (token text).isBreak = true) :
    (token text).move ⟨.mid b, k⟩ = ⟨.mid true, k⟩ := by
  simp [move, h]

/-- After a break any text may stand. -/
@[simp] theorem move_token (text : String) :
    (token text).move ⟨.mid true, k⟩ = ⟨.mid (token text).isBreak, k⟩ := rfl

@[simp] theorem move_literal (text : String) :
    (literal text).move ⟨.mid true, k⟩ = ⟨.mid (literal text).isBreak, k⟩ := rfl

@[simp] theorem move_ident (id : Ident) :
    (ident id).move ⟨.mid true, k⟩ = ⟨.mid (ident id).isBreak, k⟩ := rfl

@[simp] theorem isBreak_dot : (token ".").isBreak = true := by decide

@[simp] theorem isBreak_ellipsis : (token "...").isBreak = true := by decide

@[simp] theorem isBreak_star : (token "*").isBreak = true := by decide

@[simp] theorem isBreak_arrow : (token "<-").isBreak = true := by decide

@[simp] theorem isBreak_assign : (token "=").isBreak = true := by decide

@[simp] theorem isBreak_unaryOp (op : UnaryOp) : (token op.text).isBreak = true := by
  cases op <;> decide

@[simp] theorem isBreak_binaryOp (op : BinaryOp) : (token op.text).isBreak = true := by
  cases op <;> decide

@[simp] theorem isBreak_incDecOp (op : IncDecOp) : (token op.text).isBreak = true := by
  cases op <;> decide

@[simp] theorem isBreak_assignOp (op : AssignOp) : (token op.text).isBreak = true := by
  cases op <;> decide

@[simp] theorem move_openBrace : openBrace.move ⟨.mid b, k⟩ = ⟨.mid true, k⟩ :=
  move_break (by decide)

@[simp] theorem move_closeBrace : closeBrace.move ⟨.mid b, k⟩ = ⟨.mid true, k⟩ :=
  move_break (by decide)

@[simp] theorem move_openParen : openParen.move ⟨.mid b, k⟩ = ⟨.mid true, k⟩ :=
  move_break (by decide)

@[simp] theorem move_closeParen : closeParen.move ⟨.mid b, k⟩ = ⟨.mid true, k⟩ :=
  move_break (by decide)

@[simp] theorem move_openBracket : openBracket.move ⟨.mid b, k⟩ = ⟨.mid true, k⟩ :=
  move_break (by decide)

@[simp] theorem move_closeBracket : closeBracket.move ⟨.mid b, k⟩ = ⟨.mid true, k⟩ :=
  move_break (by decide)

@[simp] theorem move_comma : comma.move ⟨.mid b, k⟩ = ⟨.mid true, k⟩ :=
  move_break (by decide)

@[simp] theorem move_colon : colon.move ⟨.mid b, k⟩ = ⟨.mid true, k⟩ :=
  move_break (by decide)

@[simp] theorem move_semicolon : semicolon.move ⟨.mid b, k⟩ = ⟨.mid true, k⟩ :=
  move_break (by decide)

end Piece

namespace Piece

variable {piece : Piece} {line line' : Line} {k k' : Nat}

@[simp] theorem move_stuck : piece.move ⟨.stuck, k⟩ = ⟨.stuck, 0⟩ := by
  cases piece <;> rfl

theorem move_of_text? {text : String} (h : piece.text? = some text) (broken : Bool) :
    piece.move ⟨.mid broken, k⟩ =
      if broken || piece.isBreak then ⟨.mid piece.isBreak, k⟩ else ⟨.stuck, 0⟩ := by
  cases piece <;> cases h <;> rfl

/-- A piece that may stand at some level may stand so much deeper. -/
theorem move_add (h : piece.move ⟨line, k⟩ = ⟨line', k'⟩) (hline : line' ≠ .stuck) (j : Nat) :
    piece.move ⟨line, j + k⟩ = ⟨line', j + k'⟩ := by
  cases line with
  | stuck =>
    rw [move_stuck] at h
    exact absurd (congrArg Cursor.line h).symm hline
  | fresh =>
    cases piece with
    | raise =>
      simp only [move] at h ⊢
      split at h
      · next hlevel =>
        cases h
        rw [if_pos (by omega), Nat.add_sub_assoc hlevel]
      · cases h
        exact absurd rfl hline
    | indent | deepen =>
      cases h
      rfl
    | _ =>
      cases h
      exact absurd rfl hline
  | mid broken =>
    cases piece with
    | newline =>
      cases h
      rfl
    | indent | deepen | raise =>
      cases h
      exact absurd rfl hline
    | _ =>
      simp only [move] at h ⊢
      split at h
      · next hbroken =>
        cases h
        rw [if_pos hbroken]
      · cases h
        exact absurd rfl hline

end Piece

/-- How a part takes its place: in a line after a break, in a line after any text, as lines of its
own, or not at all. -/
inductive Mode where
  | inline
  | led
  | lines
  | nothing
deriving DecidableEq

namespace Mode

def start : Mode → Line
  | lines => .fresh
  | led => .mid false
  | _ => .mid true

def move : Mode → Line → Line
  | inline, .mid true => .mid false
  | led, .mid _ => .mid false
  | lines, .fresh => .fresh
  | nothing, line => line
  | _, _ => .stuck

end Mode

def View.mode : View → Mode
  | whole (.block _) => .lines
  | whole (.caseClause _) => .lines
  | whole (.commClause _) => .lines
  | whole (.stmt .empty) => .nothing
  | signature _ => .led
  | _ => .inline

namespace FormSlot

def move : FormSlot → Cursor → Cursor
  | piece p, cursor => p.move cursor
  | part level view, cursor =>
    if level = cursor.level then ⟨view.mode.move cursor.line, level⟩ else ⟨.stuck, 0⟩

/-- Where the slots take the cursor. -/
def run (slots : List FormSlot) (cursor : Cursor) : Cursor :=
  slots.foldl (fun cursor slot => slot.move cursor) cursor

variable {cursor : Cursor} {slots : List FormSlot} {b : Bool}

@[simp] theorem run_nil : run [] cursor = cursor := by simp [run]

theorem run_cons (slot : FormSlot) : run (slot :: slots) cursor = run slots (slot.move cursor) := by
  simp [run]

@[simp] theorem run_append (left right : List FormSlot) :
    run (left ++ right) cursor = run right (run left cursor) :=
  List.foldl_append

@[simp] theorem run_own_nil : run (own []) cursor = cursor := by simp [own]

@[simp] theorem run_own_cons (p : Piece) (ps : List Piece) :
    run (own (p :: ps)) cursor = run (own ps) (p.move cursor) :=
  run_cons _

theorem run_part_inline {view : View} (h : view.mode = .inline) :
    run (part 0 view :: slots) ⟨.mid true, 0⟩ = run slots ⟨.mid false, 0⟩ := by
  simp [run_cons, move, h, Mode.move]

@[simp] theorem run_expr (x : Expr) :
    run (whole (.expr x) :: slots) ⟨.mid true, 0⟩ = run slots ⟨.mid false, 0⟩ :=
  run_part_inline rfl

@[simp] theorem run_field (field : Field) :
    run (whole (.field field) :: slots) ⟨.mid true, 0⟩ = run slots ⟨.mid false, 0⟩ :=
  run_part_inline rfl

@[simp] theorem run_ident (id : Ident) :
    run (whole (.ident id) :: slots) ⟨.mid true, 0⟩ = run slots ⟨.mid false, 0⟩ :=
  run_part_inline rfl

@[simp] theorem run_func (decl : FuncDecl) :
    run (whole (.func decl) :: slots) ⟨.mid true, 0⟩ = run slots ⟨.mid false, 0⟩ :=
  run_part_inline rfl

@[simp] theorem run_gen (decl : GenDecl) :
    run (whole (.gen decl) :: slots) ⟨.mid true, 0⟩ = run slots ⟨.mid false, 0⟩ :=
  run_part_inline rfl

@[simp] theorem run_ifElse (stmt : IfStmt) :
    run (whole (.ifElse stmt) :: slots) ⟨.mid true, 0⟩ = run slots ⟨.mid false, 0⟩ :=
  run_part_inline rfl

@[simp] theorem run_bare (field : Field) :
    run (part 0 (.bare field) :: slots) ⟨.mid true, 0⟩ = run slots ⟨.mid false, 0⟩ :=
  run_part_inline rfl

/-- A signature starts with a parenthesis. -/
@[simp] theorem run_signature (type : FuncType) :
    run (part 0 (.signature type) :: slots) ⟨.mid b, 0⟩ = run slots ⟨.mid false, 0⟩ := by
  simp [run_cons, move, View.mode, Mode.move]

/-- An empty statement writes nothing. -/
@[simp] theorem run_stmt (stmt : Stmt) : run (whole (.stmt stmt) :: slots) ⟨.mid true, 0⟩ =
    run slots ⟨.mid (stmt matches .empty), 0⟩ := by
  cases stmt <;> rfl

@[simp] theorem run_operand (min : Nat) (x : Expr) :
    run (operand min x) ⟨.mid true, 0⟩ = ⟨.mid (x.precedence < min), 0⟩ := by
  by_cases hneeded : x.precedence < min <;> simp [operand, wrapIf, hneeded]

theorem run_commas {nodes : List Node}
    (h : ∀ node ∈ nodes, View.mode (.whole node) = .inline) :
    run (commas nodes) ⟨.mid true, 0⟩ = ⟨.mid nodes.isEmpty, 0⟩ := by
  induction nodes with
  | nil => rfl
  | cons node nodes ih =>
    rw [List.forall_mem_cons] at h
    have hnode (slots : List FormSlot) : run (whole node :: slots) ⟨.mid true, 0⟩ =
        run slots ⟨.mid false, 0⟩ := run_part_inline h.1
    cases nodes with
    | nil => rw [commas, hnode]; rfl
    | cons other nodes => simp [commas, hnode, ih h.2]

@[simp] theorem run_exprs (xs : List Expr) :
    run (exprs xs) ⟨.mid true, 0⟩ = ⟨.mid xs.isEmpty, 0⟩ := by
  rw [exprs, run_commas (by simp [View.mode]), List.isEmpty_map]

@[simp] theorem run_fields (params : List Field) :
    run (fields params) ⟨.mid true, 0⟩ = ⟨.mid params.isEmpty, 0⟩ := by
  rw [fields, run_commas (by simp [View.mode]), List.isEmpty_map]

@[simp] theorem run_idents (names : List Ident) :
    run (commas (names.map .ident)) ⟨.mid true, 0⟩ = ⟨.mid names.isEmpty, 0⟩ := by
  rw [run_commas (by simp [View.mode]), List.isEmpty_map]

theorem move_stuck (slot : FormSlot) (k : Nat) : (slot.move ⟨.stuck, k⟩).line = .stuck := by
  cases slot with
  | piece p => rw [move, Piece.move_stuck]
  | part level view =>
    rw [move]
    split
    · cases view.mode <;> rfl
    · rfl

/-- Nothing leads on where the cursor is stuck. -/
theorem run_stuck (slots : List FormSlot) (k : Nat) : (run slots ⟨.stuck, k⟩).line = .stuck := by
  induction slots generalizing k with
  | nil => rw [run_nil]
  | cons slot slots ih =>
    rw [run_cons]
    have hslot := slot.move_stuck k
    cases hmove : slot.move ⟨.stuck, k⟩ with
    | mk line level =>
      rw [hmove] at hslot
      cases hslot
      exact ih level

theorem ne_stuck_of_run (h : (run slots cursor).line ≠ .stuck) : cursor.line ≠ .stuck := by
  obtain ⟨line, level⟩ := cursor
  rintro rfl
  exact h (run_stuck slots level)

theorem run_deeper {line last : Line} {k k' : Nat} (h : run slots ⟨line, k⟩ = ⟨last, k'⟩)
    (hlast : last ≠ .stuck) : run (deeper slots) ⟨line, k + 1⟩ = ⟨last, k' + 1⟩ := by
  induction slots generalizing line k with
  | nil =>
    rw [run_nil] at h
    cases h
    exact run_nil
  | cons slot slots ih =>
    rw [run_cons] at h
    cases hslot : slot.move ⟨line, k⟩ with
    | mk next level =>
      rw [hslot] at h
      have hnext : next ≠ .stuck := ne_stuck_of_run (by rwa [h])
      have hdeep : (deepen slot).move ⟨line, k + 1⟩ = ⟨next, level + 1⟩ := by
        cases slot with
        | piece p =>
          rw [Nat.add_comm k, Nat.add_comm level]
          exact Piece.move_add hslot hnext 1
        | part deep view =>
          simp only [deepen, move, Nat.add_right_cancel_iff] at hslot ⊢
          split at hslot
          · next hdeep =>
            cases hslot
            rw [if_pos hdeep]
          · cases hslot
            exact absurd rfl hnext
      have hlist : deeper (slot :: slots) = deepen slot :: deeper slots := rfl
      rw [hlist, run_cons, hdeep]
      exact ih h

/-- Lines one after another. -/
theorem run_flatMap_lines {α : Type} {items : List α} {f : α → List FormSlot}
    (h : ∀ item ∈ items, run (f item) ⟨.fresh, 0⟩ = ⟨.fresh, 0⟩) :
    run (items.flatMap f) ⟨.fresh, 0⟩ = ⟨.fresh, 0⟩ := by
  induction items with
  | nil => rfl
  | cons item items ih =>
    rw [List.forall_mem_cons] at h
    rw [List.flatMap_cons, run_append, h.1]
    exact ih h.2

theorem run_line (h : run slots ⟨.mid true, 0⟩ = ⟨.mid b, 0⟩) :
    run (line slots) ⟨.fresh, 0⟩ = ⟨.fresh, 0⟩ := by
  simp [line, h]

theorem run_lines {views : List View} (h : ∀ view ∈ views, view.mode = .inline) :
    run (lines views) ⟨.fresh, 0⟩ = ⟨.fresh, 0⟩ :=
  run_flatMap_lines fun view hview => run_line (by rw [run_part_inline (h view hview)]; rfl)

@[simp] theorem run_stmts (body : Block) : run (stmts body) ⟨.fresh, 0⟩ = ⟨.fresh, 0⟩ := by
  refine run_flatMap_lines fun stmt _ => ?_
  split
  · rfl
  · exact run_line (run_stmt _)

theorem run_enclosed {first last : Piece} (hfirst : first.move ⟨.mid b, 0⟩ = ⟨.mid true, 0⟩)
    (hlast : last.move ⟨.mid true, 0⟩ = ⟨.mid true, 0⟩)
    (h : run slots ⟨.fresh, 0⟩ = ⟨.fresh, 0⟩) :
    run (enclosed first last slots) ⟨.mid b, 0⟩ = ⟨.mid true, 0⟩ := by
  simp [enclosed, hfirst, hlast, run_deeper h]

@[simp] theorem run_block (body : Block) :
    run (block body) ⟨.mid b, 0⟩ = ⟨.mid true, 0⟩ :=
  run_enclosed Piece.move_openBrace Piece.move_closeBrace rfl

theorem run_clauses {nodes : List Node} (h : ∀ node ∈ nodes, View.mode (.whole node) = .lines) :
    run (clauses nodes) ⟨.mid b, 0⟩ = ⟨.mid true, 0⟩ := by
  have hnodes : run (nodes.map whole) ⟨.fresh, 0⟩ = ⟨.fresh, 0⟩ := by
    rw [← List.flatMap_singleton' (nodes.map whole), List.flatMap_map]
    refine run_flatMap_lines fun node hnode => ?_
    simp [whole, run_cons, move, h node hnode, Mode.move]
  simp [clauses, hnodes]

@[simp] theorem run_caseClauses (cases : List CaseClause) :
    run (clauses (cases.map .caseClause)) ⟨.mid b, 0⟩ = ⟨.mid true, 0⟩ :=
  run_clauses (by simp [View.mode])

@[simp] theorem run_commClauses (cases : List CommClause) :
    run (clauses (cases.map .commClause)) ⟨.mid b, 0⟩ = ⟨.mid true, 0⟩ :=
  run_clauses (by simp [View.mode])

/-- The cursor is in a line, on the level of the start. -/
def InLine (cursor : Cursor) : Prop := ∃ b, cursor = ⟨.mid b, 0⟩

@[simp] theorem inLine_mid : InLine ⟨.mid b, 0⟩ := ⟨b, rfl⟩

end FormSlot

/-! ## Forms flow -/

open FormSlot (run InLine)

theorem FuncType.flows_form (type : FuncType) (b : Bool) :
    InLine (run type.form ⟨.mid b, 0⟩) := by
  obtain ⟨params, results⟩ := type
  rw [FuncType.form.eq_def]
  dsimp only
  split <;> simp

theorem Expr.flows_form (x : Expr) : InLine (run x.form ⟨.mid true, 0⟩) := by
  cases x with
  | compositeLit type elements => cases type <;> simp [Expr.form]
  | slice x low high max => cases max <;> simp [Expr.form]
  | typeAssert x type => cases type <;> simp [Expr.form]
  | call fn args spread => cases spread <;> simp [Expr.form]
  | unary op x constant => cases hglues : op.gluesTo x <;> simp [Expr.form, hglues]
  | structType fields =>
    have hlines : run (FormSlot.lines (fields.map fun field => .whole (.field field))) ⟨.fresh, 0⟩ =
        ⟨.fresh, 0⟩ := FormSlot.run_lines (by simp [View.mode])
    cases fields <;> simp_all [Expr.form, FormSlot.run_enclosed]
  | interfaceType methods =>
    have hlines : run (FormSlot.lines (methods.map .method)) ⟨.fresh, 0⟩ = ⟨.fresh, 0⟩ :=
      FormSlot.run_lines (by simp [View.mode])
    cases methods <;> simp_all [Expr.form, FormSlot.run_enclosed]
  | funcLit type body =>
    obtain ⟨b, htype⟩ := type.flows_form (Piece.token "func").isBreak
    simp [Expr.form, htype]
  | funcType type =>
    obtain ⟨b, htype⟩ := type.flows_form (Piece.token "func").isBreak
    simp [Expr.form, htype]
  | chanType dir value => cases dir <;> simp [Expr.form, ChanDir.pieces]
  | _ => simp [Expr.form]

theorem Spec.flows_form (spec : Spec) :
    InLine (run spec.form ⟨.mid true, 0⟩) := by
  cases spec with
  | imports spec =>
    obtain ⟨localName, path⟩ := spec
    cases localName <;> simp [Spec.form, ImportSpec.pieces]
  | value names typed values => cases typed <;> cases values <;> simp [Spec.form]
  | type name params isAlias named =>
    cases params <;> cases isAlias <;> simp [Spec.form]

theorem GenDecl.flows_form (decl : GenDecl) :
    InLine (run decl.form ⟨.mid true, 0⟩) := by
  rw [GenDecl.form.eq_def]
  split
  · next kind spec =>
    obtain ⟨b, hspec⟩ := spec.flows_form
    simp [hspec]
  · next kind specs grouped _ =>
    have hlines : run (specs.flatMap fun spec => line spec.form) ⟨.fresh, 0⟩ =
        ⟨.fresh, 0⟩ := by
      refine FormSlot.run_flatMap_lines fun spec _ => ?_
      obtain ⟨b, hspec⟩ := spec.flows_form
      exact FormSlot.run_line hspec
    simp [FormSlot.run_enclosed, hlines]

theorem Stmt.flows_form (stmt : Stmt) :
    InLine (run stmt.form ⟨.mid true, 0⟩) := by
  cases stmt with
  | labeled label stmt =>
    by_cases hempty : stmt = .empty
    · subst hempty
      simp [Stmt.form]
    · rw [Stmt.form]
      · simp
      · exact hempty
  | «return» results => cases results <;> simp [Stmt.form]
  | branch kind label => cases label <;> simp [Stmt.form]
  | switch init tag cases =>
    cases init <;> cases tag <;> simp [Stmt.form]
  | typeSwitch init guarded cases =>
    cases init <;> simp [Stmt.form, Stmt.initForm]
  | select cases => simp [Stmt.form]
  | loop init cond post body => cases init <;> cases cond <;> cases post <;> simp [Stmt.form]
  | range key value define x body => cases key <;> simp [Stmt.form]
  | _ => simp [Stmt.form]

theorem IfStmt.flows_form (stmt : IfStmt) : InLine (run stmt.form ⟨.mid true, 0⟩) := by
  obtain ⟨init, cond, body, otherwise⟩ := stmt
  have hinit : run (Stmt.initForm init) ⟨.mid true, 0⟩ = ⟨.mid true, 0⟩ := by
    cases init <;> simp [Stmt.initForm]
  rw [IfStmt.form.eq_def]
  cases otherwise with
  | none => simp [hinit]
  | some other => cases other <;> simp [hinit]

theorem FormSlot.run_nameList (names : List Ident) :
    run (own (Piece.nameList names ++ [.blank])) ⟨.mid true, 0⟩ = ⟨.mid true, 0⟩ := by
  induction names with
  | nil => rfl
  | cons id names ih =>
    cases names with
    | nil => simp [Piece.nameList]
    | cons other names => simpa [Piece.nameList] using ih

theorem Field.flows_form (field : Field) :
    InLine (run field.form ⟨.mid true, 0⟩) := by
  obtain ⟨names, type, tag, resolved⟩ := field
  have hnames := FormSlot.run_nameList names
  cases names <;> cases tag <;> simp_all [Field.form]

theorem Field.flows_methodForm (field : Field) :
    InLine (run field.methodForm ⟨.mid true, 0⟩) := by
  rw [Field.methodForm.eq_def]
  split
  · simp
  · exact Field.flows_form _

theorem FuncDecl.flows_form (func : FuncDecl) :
    InLine (run func.form ⟨.mid true, 0⟩) := by
  obtain ⟨name, receiver, typeParams, signature, body, position⟩ := func
  obtain ⟨b, hplain⟩ := signature.flows_form (Piece.token name).isBreak
  obtain ⟨b', hgeneric⟩ := signature.flows_form true
  cases receiver <;> cases typeParams <;> cases body <;> simp [FuncDecl.form, hplain, hgeneric]

theorem FormSlot.run_clause {label : List FormSlot} (body : Block)
    (h : InLine (run label ⟨.mid true, 0⟩)) :
    run (clause label body) ⟨.fresh, 0⟩ = ⟨.fresh, 0⟩ := by
  obtain ⟨b, hlabel⟩ := h
  simp [clause, hlabel, run_deeper (run_stmts body)]

namespace Line

/-- After a break everything may stand that may stand after a word. -/
def Le (line other : Line) : Prop := line = other ∨ (line = mid false ∧ other = mid true)

theorem Le.refl (line : Line) : Le line line := .inl rfl

@[simp] theorem le_mid (b : Bool) : Le (mid false) (mid b) := by
  cases b <;> simp [Le]

theorem Le.trans {line other last : Line} (h : Le line other) (h' : Le other last) :
    Le line last := by
  rcases h with rfl | ⟨rfl, rfl⟩
  · exact h'
  · rcases h' with rfl | ⟨h', -⟩
    · exact le_mid true
    · cases h'

theorem Le.stuck {line other : Line} (h : Le line other) : line = .stuck ↔ other = .stuck := by
  rcases h with rfl | ⟨rfl, rfl⟩ <;> simp

end Line

open Line (Le)

/-- The form of a node is in order. -/
theorem View.flows_form (view : View) :
    ∃ last, run view.form ⟨view.mode.start, 0⟩ = ⟨last, 0⟩ ∧
      Le (view.mode.move view.mode.start) last := by
  have hinline {slots : List FormSlot} (h : InLine (run slots ⟨.mid true, 0⟩)) :
      ∃ last, run slots ⟨.mid true, 0⟩ = ⟨last, 0⟩ ∧ Le (.mid false) last := by
    obtain ⟨b, hb⟩ := h
    exact ⟨.mid b, hb, Line.le_mid b⟩
  match view with
  | whole (.decl (.func f)) => exact hinline (by simp [View.form, Node.form])
  | whole (.decl (.gen g)) => exact hinline (by simp [View.form, Node.form])
  | whole (.func f) => exact hinline f.flows_form
  | whole (.gen g) => exact hinline g.flows_form
  | whole (.field f) => exact hinline f.flows_form
  | whole (.block body) => exact ⟨.fresh, FormSlot.run_stmts body, .refl _⟩
  | whole (.stmt s) =>
    by_cases hempty : s = .empty
    · subst hempty
      exact ⟨.mid true, rfl, .refl _⟩
    · have hmode : View.mode (.whole (.stmt s)) = .inline := by
        cases s with
        | empty => exact absurd rfl hempty
        | _ => rfl
      rw [hmode]
      exact hinline s.flows_form
  | whole (.ifElse s) => exact hinline s.flows_form
  | whole (.caseClause (.cases labels body)) =>
    exact ⟨.fresh, FormSlot.run_clause body (by simp), .refl _⟩
  | whole (.caseClause (.default body)) =>
    exact ⟨.fresh, FormSlot.run_clause body (by simp), .refl _⟩
  | whole (.commClause (.comm stmt body)) =>
    exact ⟨.fresh, FormSlot.run_clause body (by simp), .refl _⟩
  | whole (.commClause (.default body)) =>
    exact ⟨.fresh, FormSlot.run_clause body (by simp), .refl _⟩
  | whole (.expr x) => exact hinline x.flows_form
  | whole (.ident id) => exact hinline (by simp [View.form, Node.form])
  | method field => exact hinline field.flows_methodForm
  | bare field => exact hinline (by simp [View.form])
  | signature type =>
    obtain ⟨b, hb⟩ := type.flows_form false
    exact ⟨.mid b, hb, Line.le_mid b⟩

/-! ## Layouts flow -/

namespace Piece

/-- Where the pieces take the cursor. -/
def run (pieces : List Piece) (cursor : Cursor) : Cursor :=
  pieces.foldl (fun cursor piece => piece.move cursor) cursor

variable {line line' last : Line} {k k' : Nat} {cursor : Cursor} {piece : Piece}
  {pieces : List Piece}

@[simp] theorem run_nil : run [] cursor = cursor := rfl

@[simp] theorem run_cons : run (piece :: pieces) cursor = run pieces (piece.move cursor) := rfl

@[simp] theorem run_append (left right : List Piece) :
    run (left ++ right) cursor = run right (run left cursor) :=
  List.foldl_append

theorem run_stuck (pieces : List Piece) (k : Nat) : (run pieces ⟨.stuck, k⟩).line = .stuck := by
  induction pieces generalizing k with
  | nil => rfl
  | cons piece pieces ih =>
    rw [run_cons, move_stuck]
    exact ih 0

theorem ne_stuck_of_run (h : (run pieces cursor).line ≠ .stuck) : cursor.line ≠ .stuck := by
  obtain ⟨line, level⟩ := cursor
  rintro rfl
  exact h (run_stuck pieces level)

theorem move_mono (h : piece.move ⟨line, k⟩ = ⟨last, k'⟩) (hlast : last ≠ .stuck)
    (hle : Le line line') : ∃ last', piece.move ⟨line', k⟩ = ⟨last', k'⟩ ∧ Le last last' := by
  rcases hle with rfl | ⟨rfl, rfl⟩
  · exact ⟨last, h, .refl _⟩
  · cases piece with
    | newline => exact ⟨last, h, .refl _⟩
    | indent | deepen | raise =>
      cases h
      exact absurd rfl hlast
    | _ =>
      simp only [move, Bool.false_or, Bool.true_or, if_true] at h ⊢
      split at h
      · cases h
        exact ⟨_, rfl, .refl _⟩
      · cases h
        exact absurd rfl hlast

theorem run_mono (h : run pieces ⟨line, k⟩ = ⟨last, k'⟩) (hlast : last ≠ .stuck)
    (hle : Le line line') : ∃ last', run pieces ⟨line', k⟩ = ⟨last', k'⟩ ∧ Le last last' := by
  induction pieces generalizing line line' k with
  | nil =>
    cases h
    exact ⟨line', rfl, hle⟩
  | cons piece pieces ih =>
    rw [run_cons] at h
    cases hpiece : piece.move ⟨line, k⟩ with
    | mk next level =>
      rw [hpiece] at h
      have hnext : next ≠ .stuck := ne_stuck_of_run (by rwa [h])
      obtain ⟨next', hpiece', hle'⟩ := move_mono hpiece hnext hle
      rw [run_cons, hpiece']
      exact ih h hle'

end Piece

/-- A part that may stand somewhere may stand after its start. -/
theorem Mode.start_le {mode : Mode} {line : Line} (h : mode.move line ≠ .stuck)
    (hmode : mode ≠ .nothing) :
    Le mode.start line ∧ mode.move mode.start = mode.move line := by
  cases mode with
  | inline =>
    cases line with
    | mid b =>
      cases b with
      | true => exact ⟨.refl _, rfl⟩
      | false => exact absurd rfl h
    | _ => exact absurd rfl h
  | led =>
    cases line with
    | mid b => exact ⟨Line.le_mid b, rfl⟩
    | _ => exact absurd rfl h
  | lines =>
    cases line with
    | fresh => exact ⟨.refl _, rfl⟩
    | _ => exact absurd rfl h
  | nothing => exact absurd rfl hmode

theorem View.layout_of_mode {view : View} (h : view.mode = .nothing) : view.layout = [] := by
  unfold View.mode at h
  split at h <;> first | rfl | cases h

/-- The layout of slots is in order if the slots are and the layouts of their parts. -/
theorem FormSlot.flows_layouts {slots : List FormSlot} {line line' last : Line} {k k' : Nat}
    (h : run slots ⟨line, k⟩ = ⟨last, k'⟩) (hlast : last ≠ .stuck) (hle : Le line line')
    (hparts : ∀ level view, .part level view ∈ slots → ∀ j, ∃ last,
      Piece.run view.layout ⟨view.mode.start, j⟩ = ⟨last, j⟩ ∧
        Le (view.mode.move view.mode.start) last) (j : Nat) :
    ∃ last', Piece.run (layouts slots) ⟨line', j + k⟩ = ⟨last', j + k'⟩ ∧ Le last last' := by
  induction slots generalizing line line' k with
  | nil =>
    rw [run_nil] at h
    cases h
    exact ⟨line', rfl, hle⟩
  | cons slot slots ih =>
    rw [run_cons] at h
    cases hslot : slot.move ⟨line, k⟩ with
    | mk next level =>
      rw [hslot] at h
      have hnext : next ≠ .stuck := ne_stuck_of_run (by rwa [h])
      have hparts' := fun level view hmem => hparts level view (List.mem_cons_of_mem slot hmem)
      obtain ⟨next', hlayout, hle'⟩ : ∃ next',
          Piece.run slot.layout ⟨line', j + k⟩ = ⟨next', j + level⟩ ∧ Le next next' := by
        cases slot with
        | piece p => exact Piece.move_mono (Piece.move_add hslot hnext j) hnext hle
        | part deep view =>
          rw [move] at hslot
          split at hslot
          · next hdeep =>
            subst hdeep
            cases hslot
            by_cases hmode : view.mode = .nothing
            · refine ⟨line', ?_, ?_⟩
              · rw [layout, View.layout_of_mode hmode]
                rfl
              · rw [hmode]
                exact hle
            · obtain ⟨hstart, hstop⟩ := Mode.start_le hnext hmode
              obtain ⟨last', hview, hle'⟩ := hparts _ view List.mem_cons_self (j + level)
              rw [hstop] at hle'
              obtain ⟨last'', hview', hle''⟩ :=
                Piece.run_mono hview (hle'.stuck.not.1 hnext) (hstart.trans hle)
              exact ⟨last'', hview', hle'.trans hle''⟩
          · cases hslot
            exact absurd rfl hnext
      obtain ⟨last', hrest, hle''⟩ := ih h hle' hparts'
      refine ⟨last', ?_, hle''⟩
      have hsplit : layouts (slot :: slots) = slot.layout ++ layouts slots := rfl
      rw [hsplit, Piece.run_append, hlayout]
      exact hrest

/-- The layout of a view is in order, on every level. -/
theorem View.flows_layout (view : View) (k : Nat) :
    ∃ last, Piece.run view.layout ⟨view.mode.start, k⟩ = ⟨last, k⟩ ∧
      Le (view.mode.move view.mode.start) last := by
  generalize hnode : view.node = node
  induction node using Node.induct generalizing view k with
  | step node ih =>
    subst hnode
    obtain ⟨last, hslots, hle⟩ := view.flows_form
    have hlast : last ≠ .stuck := by
      refine hle.stuck.not.1 ?_
      cases view.mode <;> simp [Mode.start, Mode.move]
    obtain ⟨last', hlayout, hle'⟩ := FormSlot.flows_layouts hslots hlast (.refl _)
      (fun level part hpart j => ih part.node (mem_parts_of_mem_form hpart) part j rfl) k
    rw [← view.layout_eq_form] at hlayout
    exact ⟨last', hlayout, hle.trans hle'⟩

/-- A layout in a line. -/
theorem View.exists_run_inline (view : View) (hmode : view.mode.start = .mid true) :
    ∃ b, Piece.run view.layout ⟨.mid true, 0⟩ = ⟨.mid b, 0⟩ := by
  obtain ⟨last, hrun, hle⟩ := view.flows_layout 0
  rw [hmode] at hrun hle
  have hmove : ∃ b, view.mode.move (.mid true) = .mid b := by
    cases hview : view.mode with
    | inline => exact ⟨false, rfl⟩
    | led => exact ⟨false, rfl⟩
    | lines =>
      rw [hview] at hmode
      cases hmode
    | nothing => exact ⟨true, rfl⟩
  obtain ⟨b, hb⟩ := hmove
  rw [hb] at hle
  rcases hle with rfl | ⟨-, rfl⟩
  · exact ⟨b, hrun⟩
  · exact ⟨true, hrun⟩

end GoProbe
