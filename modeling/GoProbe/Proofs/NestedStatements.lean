import GoProbe.Proofs.Indentation

/-!
# Statement lists in the trees around them

A statement list may stand deep in a tree: in a block, in a clause, in a closure among the arguments
of a call. Wherever it stands, it is printed as by itself, with one tab more for each level around
it. Levels are made by blocks, by clauses, by the braces of struct and interface types and by the
parentheses of grouped declarations.

* `Node.levelsAt` counts the levels on the way to an address.
* The layout of the node at an address is a part of the whole layout, and the cursor is as many
  levels deep where it starts (`View.exists_nested`).
* With what is known of pieces in order this tells the text of the statement list in that of the
  whole.
-/

namespace GoProbe

open Line (Le)

/-! ## Texts without line breaks -/

namespace Node

/-- No string in the tree has a line break. -/
def OneLine (root : Node) : Prop :=
  ∀ address node, root.at? address = some node → ∀ text ∈ node.strings, '\n' ∉ text.toList

variable {node : Node}

theorem oneLine_iff :
    node.OneLine ↔ ∀ found ∈ node.walk everywhere, ∀ text ∈ found.strings, '\n' ∉ text.toList := by
  simp only [OneLine, mem_walk_iff, forall_exists_index]
  exact forall_comm

instance : Decidable node.OneLine := decidable_of_iff' _ oneLine_iff

end Node

theorem Written.newline_notMem {text : String}
    (h : Written (fun text => '\n' ∉ text.toList) text) : '\n' ∉ text.toList := by
  cases h with
  | plain h =>
    rw [isPlain, Bool.and_eq_true, Bool.not_eq_true', List.contains_eq_mem, decide_eq_false_iff_not]
      at h
    exact h.2
  | stored h => exact h
  | quoted h => simpa using h

theorem View.oneLine_layout (view : View) (h : view.node.OneLine) :
    ∀ piece ∈ view.layout, piece.OneLine :=
  fun piece hpiece text htext =>
    (View.writtenFrom_layout (Node.oneLine_iff.1 h) piece hpiece text htext).newline_notMem

/-! ## Levels -/

namespace Node

/-- The levels around the node at an address. -/
def levelsAt : Node → Address → Nat
  | _, [] => 0
  | node, place :: rest =>
    match node.leveledParts[place]? with
    | some (level, part) => level + part.levelsAt rest
    | none => 0

/-- The statement list of a block or a clause, and the levels that the node puts around it. -/
def stmts? : Node → Option (Nat × Block)
  | block body => some (0, body)
  | caseClause (.cases _ body) => some (1, body)
  | caseClause (.default body) => some (1, body)
  | commClause (.comm _ body) => some (1, body)
  | commClause (.default body) => some (1, body)
  | _ => none

/-- What stands before the node: blocks and clauses start on a new line. -/
def edge : Node → String
  | block _ => "\n"
  | caseClause _ => "\n"
  | commClause _ => "\n"
  | _ => ""

theorem edge_eq (node : Node) : (View.whole node).mode.start.edge = node.edge := by
  cases node with
  | stmt s => cases s <;> rfl
  | _ => rfl

end Node

/-! ## Layouts in layouts -/

theorem Mode.move_mono {mode : Mode} {line line' : Line} (hle : Le line line')
    (h : mode.move line ≠ .stuck) : mode.move line' ≠ .stuck := by
  rcases hle with rfl | ⟨rfl, rfl⟩
  · exact h
  · cases mode with
    | inline => simp [Mode.move]
    | led => simp [Mode.move]
    | lines => exact absurd rfl h
    | nothing => simp [Mode.move]

theorem Mode.ne_stuck_of_move {mode : Mode} {line : Line} (h : mode.move line ≠ .stuck) :
    line ≠ .stuck := by
  rintro rfl
  cases mode <;> exact h rfl

theorem Mode.move_start (mode : Mode) : mode.move mode.start ≠ .stuck := by
  cases mode <;> simp [start, move]

theorem Mode.eq_fresh_of_lines {line : Line} (h : lines.move line ≠ .stuck) : line = .fresh := by
  cases line with
  | fresh => rfl
  | _ => exact absurd rfl h

theorem View.parts_of_mode {view : View} (h : view.mode = .nothing) : view.node.parts = [] := by
  unfold View.mode at h
  split at h <;> first | rfl | cases h

/-- A part and its level are in some slot, and the slots before it lead to where it may stand. -/
theorem View.exists_slot {view : View} {level : Nat} {node : Node}
    (hkeyed : view.node.isKeyed = true) (hpart : (level, node) ∈ view.node.leveledParts) :
    ∃ before part after line, part.node = node ∧
      view.form = before ++ .part level part :: after ∧
      FormSlot.run before ⟨view.mode.start, 0⟩ = ⟨line, level⟩ ∧ part.mode.move line ≠ .stuck := by
  rw [← View.nodes_form hkeyed, FormSlot.nodes, List.mem_filterMap] at hpart
  obtain ⟨slot, hslot, hnode⟩ := hpart
  cases slot with
  | piece p => cases hnode
  | part level part =>
    cases hnode
    obtain ⟨before, after, hslots⟩ := List.append_of_mem hslot
    obtain ⟨last, hrun, hle⟩ := view.flows_form
    have hlast : last ≠ .stuck := hle.stuck.not.1 view.mode.move_start
    rw [hslots, FormSlot.run_append, FormSlot.run_cons] at hrun
    have hmove := FormSlot.ne_stuck_of_run (by rwa [hrun])
    cases hbefore : FormSlot.run before ⟨view.mode.start, 0⟩ with
    | mk line deep =>
      rw [hbefore, FormSlot.move] at hmove
      split at hmove
      · next hdeep => exact ⟨before, part, after, line, rfl, hslots, by rw [hbefore, hdeep], hmove⟩
      · exact absurd rfl hmove

/-- The slots from which a view is printed lead on from wherever the view may stand. -/
theorem View.run_slots {view : View} {before : List FormSlot} {line next : Line} {level : Nat}
    (hnext : FormSlot.run before ⟨view.mode.start, 0⟩ = ⟨next, level⟩) (hstuck : next ≠ .stuck)
    (hmode : view.mode ≠ .nothing) (hline : view.mode.move line ≠ .stuck) (k : Nat) :
    ∃ next', Piece.run (FormSlot.layouts before) ⟨line, k⟩ = ⟨next', k + level⟩ ∧ Le next next' :=
  FormSlot.flows_layouts hnext hstuck (Mode.start_le hline hmode).1
    (fun _ part _ j => part.flows_layout j) k

/-- The layout of the node at an address stands in that of the whole, and there the cursor is as
many levels deeper as there are around the node. -/
theorem View.exists_nested (view : View) {found : Node} {address : Address}
    (hkeyed : view.node.RangesKeyed) (hfound : view.node.at? address = some found) :
    ∃ part before after, View.node part = found ∧ view.layout = before ++ part.layout ++ after ∧
      ∀ line k, view.mode.move line ≠ .stuck → ∃ next,
        Piece.run before ⟨line, k⟩ = ⟨next, k + view.node.levelsAt address⟩ ∧
        part.mode.move next ≠ .stuck := by
  induction address generalizing view with
  | nil =>
    rw [Node.at?_nil, Option.some_inj] at hfound
    exact ⟨view, [], [], hfound, by simp, fun line k hline => ⟨line, rfl, hline⟩⟩
  | cons place rest ih =>
    obtain ⟨node, hplace, hrest⟩ := Node.at?_cons.1 hfound
    have hpart : node ∈ view.node.parts := List.mem_of_getElem? hplace
    -- the levels of the parts are listed as the parts are
    obtain ⟨level, hlevel⟩ : ∃ level, view.node.leveledParts[place]? = some (level, node) := by
      rw [← Node.map_snd_leveledParts, List.getElem?_map, Option.map_eq_some_iff] at hplace
      obtain ⟨⟨level, _⟩, hlevel, rfl⟩ := hplace
      exact ⟨level, hlevel⟩
    obtain ⟨slots, inner, slots', next, rfl, hslots, hrun, hnext⟩ :=
      View.exists_slot hkeyed.isKeyed (List.mem_of_getElem? hlevel)
    obtain ⟨part, before, after, hnode, hlayout, hbefore⟩ :=
      ih inner (hkeyed.of_mem_parts hpart) hrest
    refine ⟨part, FormSlot.layouts slots ++ before, after ++ FormSlot.layouts slots', hnode, ?_, ?_⟩
    · rw [view.layout_eq_form, hslots, FormSlot.layouts_append, FormSlot.layouts_part, hlayout]
      simp only [List.append_assoc]
    · intro line k hline
      have hmode : view.mode ≠ .nothing := by
        intro hmode
        rw [View.parts_of_mode hmode] at hpart
        cases hpart
      obtain ⟨next', hslots, hle⟩ :=
        View.run_slots hrun (Mode.ne_stuck_of_move hnext) hmode hline k
      obtain ⟨last, hlast, hmove⟩ := hbefore next' (k + level) (Mode.move_mono hle hnext)
      refine ⟨last, ?_, hmove⟩
      rw [Piece.run_append, hslots, hlast, Node.levelsAt, hlevel, Nat.add_assoc]

/-- What stands before the statements of a clause, the label and a level deeper. -/
theorem FormSlot.exists_clause {label : List FormSlot} (body : Block)
    (h : FormSlot.InLine (run label ⟨.mid true, 0⟩)) :
    ∃ before, layouts (clause label body) = before ++ Stmt.layoutList body ++ [.raise] ∧
      ∀ k, Piece.run before ⟨.fresh, k⟩ = ⟨.fresh, k + 1⟩ := by
  obtain ⟨b, hlabel⟩ := h
  refine ⟨layouts (own [.indent] ++ label ++ own [Piece.colon, .newline, .deepen]),
    by simp [clause], fun k => ?_⟩
  have hrun : run (own [.indent] ++ label ++ own [Piece.colon, .newline, .deepen]) ⟨.fresh, 0⟩ =
      ⟨.fresh, 1⟩ := by simp [hlabel]
  obtain ⟨last, hlayouts, hle⟩ := flows_layouts hrun (by simp) (.refl _)
    (fun _ part _ j => part.flows_layout j) k
  rcases hle with rfl | ⟨hfresh, -⟩
  · exact hlayouts
  · cases hfresh

theorem View.exists_stmts {part : View} {level : Nat} {body : Block}
    (h : part.node.stmts? = some (level, body)) :
    part.mode = .lines ∧ ∃ before after, part.layout = before ++ Stmt.layoutList body ++ after ∧
      ∀ k, Piece.run before ⟨.fresh, k⟩ = ⟨.fresh, k + level⟩ := by
  have hclause {slots label : List FormSlot}
      (hlabel : FormSlot.InLine (FormSlot.run label ⟨.mid true, 0⟩))
      (hslots : slots = FormSlot.clause label body) : ∃ before after,
      FormSlot.layouts slots = before ++ Stmt.layoutList body ++ after ∧
        ∀ k, Piece.run before ⟨.fresh, k⟩ = ⟨.fresh, k + 1⟩ := by
    obtain ⟨before, hlayout, hbefore⟩ := FormSlot.exists_clause body hlabel
    exact ⟨before, [.raise], hslots ▸ hlayout, hbefore⟩
  rw [part.layout_eq_form]
  match part with
  | whole (.block stmts) =>
    cases h
    refine ⟨rfl, [], [], ?_, fun k => rfl⟩
    rw [← View.layout_eq_form]
    simp [View.layout, Node.layout]
  | whole (.caseClause (.cases labels stmts)) =>
    cases h
    exact ⟨rfl, hclause (by simp) rfl⟩
  | whole (.caseClause (.default stmts)) =>
    cases h
    exact ⟨rfl, hclause (by simp) rfl⟩
  | whole (.commClause (.comm comm stmts)) =>
    cases h
    exact ⟨rfl, hclause (by simp) rfl⟩
  | whole (.commClause (.default stmts)) =>
    cases h
    exact ⟨rfl, hclause (by simp) rfl⟩

theorem Stmt.run_layoutList (body : Block) :
    Piece.run (Stmt.layoutList body) ⟨.fresh, 0⟩ = ⟨.fresh, 0⟩ := by
  obtain ⟨last, hrun, hle⟩ := (View.whole (.block body)).flows_layout 0
  rcases hle with rfl | ⟨hfresh, -⟩
  · exact hrun
  · cases hfresh

/-! ## Printed trees -/

theorem View.indented (view : View) (hmode : view.mode.start = .mid true)
    (h : view.node.OneLine) : Indented view.layout (Printer.run {} view.layout).text := by
  obtain ⟨b, hrun⟩ := view.exists_run_inline hmode
  exact Piece.indented hrun (view.oneLine_layout h)

theorem Expr.indented_layoutAt {x : Expr} (min : Nat) (h : (Node.expr x).OneLine) :
    Indented (x.layoutAt min) (Printer.run {} (x.layoutAt min)).text := by
  obtain ⟨b, hrun⟩ := (View.whole (.expr x)).exists_run_inline rfl
  have hpieces := (View.whole (.expr x)).oneLine_layout h
  rw [View.layout, Node.layout] at hrun hpieces
  by_cases hmin : x.precedence < min
  · have hlayout : x.layoutAt min = Piece.openParen :: x.layout ++ [Piece.closeParen] := by
      simp [layoutAt, Piece.wrapIf, hmin]
    have hparens : Piece.openParen.OneLine ∧ Piece.closeParen.OneLine := by
      simp [Piece.OneLine, Piece.text?, Piece.openParen, Piece.closeParen]
    have hrun' : Piece.run (x.layoutAt min) ⟨.mid true, 0⟩ = ⟨.mid true, 0⟩ := by
      simp [hlayout, hrun]
    refine Piece.indented hrun' ?_
    rw [hlayout, List.cons_append, List.forall_mem_cons, List.forall_mem_append,
      List.forall_mem_singleton]
    exact ⟨hparens.1, hpieces, hparens.2⟩
  · have hlayout : x.layoutAt min = x.layout := by simp [layoutAt, Piece.wrapIf, hmin]
    rw [hlayout]
    exact Piece.indented hrun hpieces

/-- Declarations, statements and expressions without line breaks in their texts are printed at any
depth as at depth zero, with as many tabs after each line break. The printer ends at the depth it
started from, and never goes below it. Statement lists in a tree are printed as by themselves, with
a tab more for each level around them. -/
theorem layouts_indented :
    (∀ decl : Decl, (Node.decl decl).OneLine →
      Indented decl.layout (Printer.run {} decl.layout).text) ∧
    (∀ stmt : Stmt, (Node.stmt stmt).OneLine → Indented stmt.layout stmt.print) ∧
    (∀ (x : Expr) (min : Nat), (Node.expr x).OneLine →
      Indented (x.layoutAt min) (Printer.run {} (x.layoutAt min)).text) ∧
    ∀ (node found : Node) (address : Address) (level : Nat) (body : Block),
      node.OneLine → node.RangesKeyed → node.at? address = some found →
      found.stmts? = some (level, body) →
      ∃ before after lines, node.layout = before ++ Stmt.layoutList body ++ after ∧
        Printer.run ⟨"\n", 0⟩ (Stmt.layoutList body) = ⟨lines ++ "\n", 0⟩ ∧
        ∀ text depth, ∃ written,
          Printer.run ⟨text ++ node.edge, depth⟩ before =
            ⟨written ++ "\n", depth + (node.levelsAt address + level)⟩ ∧
          Printer.run ⟨written ++ "\n", depth + (node.levelsAt address + level)⟩
              (Stmt.layoutList body) =
            ⟨written ++ indentText (depth + (node.levelsAt address + level)) lines ++ "\n",
              depth + (node.levelsAt address + level)⟩ := by
  refine ⟨?_, ?_, ?_, ?_⟩
  · intro decl hdecl
    exact (View.whole (.decl decl)).indented rfl hdecl
  · intro stmt hstmt
    refine (View.whole (.stmt stmt)).indented ?_ hstmt
    cases stmt <;> rfl
  · intro x min hx
    exact x.indented_layoutAt min hx
  · intro node found address level body hline hkeyed hfound hbody
    obtain ⟨part, before, after, rfl, hlayout, hbefore⟩ :=
      (View.whole node).exists_nested hkeyed hfound
    obtain ⟨hmode, before', after', hlayout', hbefore'⟩ := View.exists_stmts hbody
    have hwhole :
        node.layout = (before ++ before') ++ Stmt.layoutList body ++ (after' ++ after) := by
      rw [View.layout] at hlayout
      rw [hlayout, hlayout']
      simp only [List.append_assoc]
    have hpieces := (View.whole node).oneLine_layout hline
    rw [View.layout, hwhole, List.forall_mem_append, List.forall_mem_append] at hpieces
    have hfront : Piece.run (before ++ before') ⟨(View.whole node).mode.start, 0⟩ =
        ⟨.fresh, node.levelsAt address + level⟩ := by
      obtain ⟨next, hnext, hmove⟩ := hbefore _ 0 (View.whole node).mode.move_start
      rw [hmode] at hmove
      cases Mode.eq_fresh_of_lines hmove
      rw [Piece.run_append, hnext, hbefore', Nat.zero_add]
      rfl
    obtain ⟨front, hfront⟩ := Piece.exists_run hfront (by simp) hpieces.1.1
    obtain ⟨lines, hlines⟩ :=
      Piece.exists_run (Stmt.run_layoutList body) (by simp) hpieces.1.2
    simp only [Nat.add_zero, Node.edge_eq] at hfront hlines
    refine ⟨before ++ before', after' ++ after, lines, hwhole, ?_, fun text depth => ?_⟩
    · simpa [Line.edge] using hlines "" 0
    · exact ⟨text ++ indentText depth front, hfront text depth, hlines _ _⟩

/-- `go b()`. -/
def nestedBody : Block := [.go (.apply (.name "b") [])]

/-- A closure in which the body stands in the clause of a switch. -/
def nestedClosure : Expr :=
  .funcLit ⟨[], []⟩ [.switch none none [.cases [.name "a"] nestedBody]]

/-- A loop with the closure in its header. -/
def nestedLoop : Stmt :=
  .range (some (.name "i")) none true (.apply (.name "f") [nestedClosure]) [.return []]

def nestedDecl : Decl := .func { (default : FuncDecl) with name := "g", body := some [nestedLoop] }

theorem layouts_indented_sample :
    ((Node.decl nestedDecl).OneLine ∧ (Node.stmt nestedLoop).OneLine ∧
      (Node.expr nestedClosure).OneLine ∧ (Node.stmt nestedLoop).RangesKeyed ∧
      (Node.stmt nestedLoop).at? [1, 1, 0, 0, 0] =
        some (.caseClause (.cases [.name "a"] nestedBody)) ∧
      (Node.stmt nestedLoop).levelsAt [1, 1, 0, 0, 0] = 1) ∧
    Indented nestedDecl.layout (Printer.run {} nestedDecl.layout).text ∧
    Printer.run ⟨"", 1⟩ nestedLoop.layout =
      ⟨"for i := range f(func() \x7b\n\t\tswitch \x7b\n\t\tcase a:\n\t\t\tgo b()" ++
        "\n\t\t\x7d\n\t\x7d) \x7b\n\t\treturn\n\t\x7d", 1⟩ ∧
    Indented (nestedClosure.layoutAt 0) nestedClosure.print ∧
    ∃ before after, nestedLoop.layout = before ++ Stmt.layoutList nestedBody ++ after ∧
      ∃ written, Printer.run ⟨"", 1⟩ before = ⟨written ++ "\n", 3⟩ ∧
        Printer.run ⟨written ++ "\n", 3⟩ (Stmt.layoutList nestedBody) =
          ⟨written ++ "\n\t\t\tgo b()\n", 3⟩ := by
  have hdecl : (Node.decl nestedDecl).OneLine := by decide
  have hstmt : (Node.stmt nestedLoop).OneLine := by decide
  have hexpr : (Node.expr nestedClosure).OneLine := by decide
  have hkeyed : (Node.stmt nestedLoop).RangesKeyed := by decide
  have hfound : (Node.stmt nestedLoop).at? [1, 1, 0, 0, 0] =
      some (.caseClause (.cases [.name "a"] nestedBody)) := rfl
  refine ⟨⟨hdecl, hstmt, hexpr, hkeyed, hfound, by decide⟩,
    layouts_indented.1 nestedDecl hdecl, ?_, layouts_indented.2.2.1 nestedClosure 0 hexpr, ?_⟩
  · exact (layouts_indented.2.1 nestedLoop hstmt "" 1).1.trans (by decide)
  · obtain ⟨before, after, lines, hlayout, halone, hnested⟩ :=
      layouts_indented.2.2.2 _ _ _ 1 nestedBody hstmt hkeyed hfound rfl
    have hlines : lines = "\ngo b()" := by
      have hprinted : Printer.run ⟨"\n", 0⟩ (Stmt.layoutList nestedBody) =
          ⟨"\ngo b()" ++ "\n", 0⟩ := by decide
      rw [hprinted, Printer.mk.injEq, String.append_left_inj] at halone
      exact halone.1.symm
    obtain ⟨written, hbefore, hbody⟩ := hnested "" 1
    have hindent : indentText 3 "\ngo b()" ++ "\n" = "\n\t\t\tgo b()\n" := by decide
    have hlevels : 1 + ((Node.stmt nestedLoop).levelsAt [1, 1, 0, 0, 0] + 1) = 3 := by decide
    rw [hlevels] at hbefore hbody
    rw [hlines, String.append_assoc, hindent] at hbody
    exact ⟨before, after, hlayout, written, hbefore, hbody⟩

end GoProbe
