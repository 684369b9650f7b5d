import GoProbe.Proofs.OwnPieces

/-!
# Identifiers are walked in printed order

The walk and the layout go through a tree independently of each other. Both come to the identifiers
that refer to something and to the names of value and type declarations, and they come to them in
one order: the identifiers of a walk are those among the pieces of the layout, from left to right
(`walk_in_printed_order`).

There is one exception. A range with a value and no key is written without the value, since the
value would read as a key; `Node.RangesKeyed` excludes it.

The proof goes from the parts of a node to the node (`View.idents_layout`). The slots of a node hold
its parts in order, and only an identifier writes one itself.
-/

namespace GoProbe

/-! ## Identifiers among pieces -/

namespace Piece

/-- The identifier, if the piece is one. -/
def ident? : Piece → Option Ident
  | ident id => some id
  | _ => none

/-- The identifiers among the pieces, from left to right. -/
def idents (pieces : List Piece) : List Ident := pieces.filterMap ident?

@[simp] theorem idents_nil : idents [] = [] := rfl

@[simp] theorem idents_append (left right : List Piece) :
    idents (left ++ right) = idents left ++ idents right :=
  List.filterMap_append

theorem idents_flatMap {α : Type} (items : List α) (f : α → List Piece) :
    idents (items.flatMap f) = items.flatMap fun item => idents (f item) :=
  List.filterMap_flatMap

@[simp] theorem idents_cons_of_ne {piece : Piece} (h : ∀ id, piece ≠ ident id)
    (pieces : List Piece) : idents (piece :: pieces) = idents pieces := by
  cases piece with
  | ident id => exact absurd rfl (h id)
  | _ => rfl

theorem idents_wrapIf (needed : Bool) (pieces : List Piece) :
    idents (wrapIf needed pieces) = idents pieces := by
  cases needed <;> simp [wrapIf, openParen, closeParen]

end Piece

/-! ## From the parts to the whole -/

/-- Slots without identifiers of their own write those of their parts. -/
theorem FormSlot.idents_layouts {slots : List FormSlot}
    (hown : ∀ p id, .piece p ∈ slots → p ≠ .ident id)
    (hparts : ∀ level view, .part level view ∈ slots →
      Piece.idents view.layout = view.node.idents) :
    Piece.idents (layouts slots) = (nodes slots).flatMap fun part => part.2.idents := by
  induction slots with
  | nil => rfl
  | cons slot slots ih =>
    have hrest := ih (fun p id hp => hown p id (List.mem_cons_of_mem _ hp))
      fun level view hview => hparts level view (List.mem_cons_of_mem _ hview)
    cases slot with
    | piece p =>
      exact (Piece.idents_cons_of_ne (fun id => hown p id List.mem_cons_self) _).trans hrest
    | part level view =>
      rw [layouts_part, nodes_part, Piece.idents_append, List.flatMap_cons, hrest,
        hparts level view List.mem_cons_self]

/-- The identifiers of a layout are those of the walk. -/
theorem View.idents_layout (view : View) (hkeyed : view.node.RangesKeyed) :
    Piece.idents view.layout = view.node.idents := by
  generalize hnode : view.node = node at hkeyed
  induction node using Node.induct generalizing view with
  | step node ih =>
    subst hnode
    by_cases hident : ∃ id, view.node = .ident id
    · obtain ⟨id, hid⟩ := hident
      cases view <;> cases hid
      rfl
    · have hnone : ∀ id, view.node ≠ .ident id := fun id hid => hident ⟨id, hid⟩
      have hown : FormSlot.OwnFrom (fun _ => True) (fun _ => False) view.form :=
        View.own_form (fun _ _ => trivial) hnone
      calc
        Piece.idents view.layout
        _ = (FormSlot.nodes view.form).flatMap fun part => part.2.idents := by
          rw [view.layout_eq_form]
          refine FormSlot.idents_layouts (fun p id hp => (hown p hp).2 id) ?_
          intro level part hpart
          have hmem := View.mem_parts_of_mem_form hpart
          exact ih part.node hmem part rfl (hkeyed.of_mem_parts hmem)
        _ = (view.node.leveledParts.map (·.2)).flatMap Node.idents := by
          rw [View.nodes_form hkeyed.isKeyed, List.flatMap_map]
        _ = view.node.idents := by rw [Node.map_snd_leveledParts, Node.idents_eq hnone]

/-- Where every range with a value has a key, the identifiers of a walk are those that are printed,
from left to right: of a file, and of a statement or an expression wherever it stands. -/
theorem walk_in_printed_order :
    (∀ file : SourceFile, (∀ decl ∈ file.decls, (Node.decl decl).RangesKeyed) →
      identsOf (file.walk everywhere) = Piece.idents file.layout) ∧
    (∀ stmt : Stmt, (Node.stmt stmt).RangesKeyed →
      identsOf (stmt.walk everywhere) = Piece.idents stmt.layout) ∧
    ∀ x : Expr, (Node.expr x).RangesKeyed → ∀ min,
      identsOf (x.walk everywhere) = Piece.idents (x.layoutAt min) := by
  refine ⟨?_, ?_, ?_⟩
  · intro file hkeyed
    have hdecls : ∀ decl ∈ file.decls,
        identsOf (decl.walk everywhere) = Piece.idents decl.layout := fun decl hdecl =>
      ((View.whole (.decl decl)).idents_layout (hkeyed decl hdecl)).symm
    calc
      identsOf (file.walk everywhere)
      _ = file.decls.flatMap fun decl => identsOf (decl.walk everywhere) := List.filterMap_flatMap
      _ = file.decls.flatMap fun decl => Piece.idents decl.layout := List.flatMap_congr hdecls
      _ = Piece.idents file.layout := by simp [SourceFile.layout, Piece.idents_flatMap]
  · intro stmt hkeyed
    exact ((View.whole (.stmt stmt)).idents_layout hkeyed).symm
  · intro x hkeyed min
    rw [Expr.layoutAt, Piece.idents_wrapIf]
    exact ((View.whole (.expr x)).idents_layout hkeyed).symm

/-- A condition with a closure in it. -/
def sampleCond : Expr :=
  .binary (.name "key") .eql
    (.apply (.funcLit ⟨[], [⟨[], .name "int", none, none⟩]⟩ [.return [.name "last"]]) [])

/-- A range with key and value around an `else if`. -/
def sampleRange : Stmt :=
  .range (some (.name "key")) (some (.name "item")) true (.selector (.name "list") ⟨"items", none⟩)
    [.ifElse
      ⟨none, sampleCond, [.return []],
        some (.elseIf ⟨none, .name "deep", [.expr (.apply (.name "visit") [.name "item"])], none⟩)⟩]

/-- A type and a function. -/
def sampleFile : SourceFile where
  packageName := "sample"
  packagePath := "example.com/sample"
  decls :=
    [.gen ⟨.types, [.type ⟨"T", none⟩ [] false (.interfaceType
      [⟨[⟨"M", none⟩], .funcType ⟨[⟨[], .name "int", none, none⟩], []⟩, none, none⟩])], false⟩,
     .func
      { name := "visitAll"
        receiver := none
        typeParams := []
        signature := ⟨[⟨[⟨"list", none⟩], .name "T", none, none⟩], []⟩
        body := some [sampleRange]
        position := ⟨3, 1⟩ }]

theorem walk_in_printed_order_sample :
    ((∀ decl ∈ sampleFile.decls, (Node.decl decl).RangesKeyed) ∧
      (Node.stmt sampleRange).RangesKeyed ∧ (Node.expr sampleCond).RangesKeyed) ∧
    identsOf (sampleFile.walk everywhere) = Piece.idents sampleFile.layout ∧
      identsOf (sampleRange.walk everywhere) = Piece.idents sampleRange.layout ∧
      identsOf (sampleCond.walk everywhere) = Piece.idents (sampleCond.layoutAt 0) := by
  have hfile : ∀ decl ∈ sampleFile.decls, (Node.decl decl).RangesKeyed := by decide
  have hstmt : (Node.stmt sampleRange).RangesKeyed := by decide
  have hexpr : (Node.expr sampleCond).RangesKeyed := by decide
  exact ⟨⟨hfile, hstmt, hexpr⟩, walk_in_printed_order.1 sampleFile hfile,
    walk_in_printed_order.2.1 sampleRange hstmt, walk_in_printed_order.2.2 sampleCond hexpr 0⟩

/-- The value of a range without a key is walked and not written. -/
example :
    let stmt : Stmt := .range none (some (.name "item")) true (.name "items") []
    identsOf (stmt.walk everywhere) = [⟨"item", none⟩, ⟨"items", none⟩] ∧
      Piece.idents stmt.layout = [⟨"items", none⟩] := by
  decide

end GoProbe
