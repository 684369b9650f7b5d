import GoProbe.Proofs.Flow

/-!
# Indentation

Printing at some depth writes what printing at depth zero writes, with as many tabs after every
line break, and leaves the printer at the depth at which it started. This holds of all pieces that
are in order and whose texts have no line breaks (`Piece.indented`): a line break is then followed
by the indentation of the next line, and levels are left as they were entered. Pieces that leave
levels open differ from that by these levels only (`Piece.exists_run`).
-/

namespace GoProbe

/-! ## Indented texts -/

/-- A character, with `depth` tabs after it if it is a line break. -/
def indentChar (depth : Nat) (c : Char) : List Char :=
  if c = '\n' then '\n' :: List.replicate depth '\t' else [c]

/-- The text with `depth` tabs after every line break. -/
def indentText (depth : Nat) (text : String) : String :=
  String.ofList (text.toList.flatMap (indentChar depth))

theorem flatMap_indentChar {chars : List Char} (h : '\n' ∉ chars) (depth : Nat) :
    chars.flatMap (indentChar depth) = chars := by
  have hchars : ∀ c ∈ chars, indentChar depth c = [c] := by
    intro c hc
    refine if_neg ?_
    rintro rfl
    exact h hc
  rw [List.flatMap_congr hchars, List.flatMap_singleton']

@[simp] theorem indentText_empty (depth : Nat) : indentText depth "" = "" := rfl

@[simp] theorem indentText_zero (text : String) : indentText 0 text = text := by
  have hchar : indentChar 0 = fun c => [c] := by
    funext c
    rw [indentChar]
    split
    · next h => rw [h]; rfl
    · rfl
  rw [indentText, hchar, List.flatMap_singleton', String.ofList_toList]

theorem indentText_append (depth : Nat) (left right : String) :
    indentText depth (left ++ right) = indentText depth left ++ indentText depth right := by
  simp [indentText]

theorem indentText_of_notMem {text : String} (h : '\n' ∉ text.toList) (depth : Nat) :
    indentText depth text = text := by
  rw [indentText, flatMap_indentChar h, String.ofList_toList]

/-- The text of `level` tabs. -/
def tabs (level : Nat) : String := String.ofList (List.replicate level '\t')

theorem tabs_add (level more : Nat) : tabs (level + more) = tabs level ++ tabs more := by
  rw [tabs, ← List.replicate_append_replicate, String.ofList_append]
  rfl

theorem indentText_line (depth level : Nat) :
    indentText depth ("\n" ++ tabs level) = "\n" ++ tabs (depth + level) := by
  have htabs : '\n' ∉ (tabs level).toList := by simp [tabs]
  have hbreak : indentText depth "\n" = "\n" ++ tabs depth := by
    have hchars : "\n".toList.flatMap (indentChar depth) = ['\n'] ++ List.replicate depth '\t' := by
      simp [indentChar]
    rw [indentText, hchars, String.ofList_append]
    rfl
  rw [indentText_append, indentText_of_notMem htabs, hbreak, tabs_add, ← String.append_assoc]

/-! ## Steps of a printer -/

namespace Printer

@[simp] theorem run_nil (printer : Printer) : printer.run [] = printer := rfl

@[simp] theorem run_cons (printer : Printer) (piece : Piece) (pieces : List Piece) :
    printer.run (piece :: pieces) = (printer.step piece).run pieces := rfl

@[simp] theorem run_append (printer : Printer) (left right : List Piece) :
    printer.run (left ++ right) = (printer.run left).run right :=
  List.foldl_append

variable (text : String) (depth : Nat)

theorem step_of_text? {piece : Piece} {written : String} (h : piece.text? = some written) :
    step ⟨text, depth⟩ piece = ⟨text ++ written, depth⟩ := by
  cases piece <;> cases h <;> rfl

theorem step_newline : step ⟨text, depth⟩ .newline = ⟨text ++ "\n", depth⟩ := by
  rw [step, String.push_eq_append]
  rfl

theorem step_indent : step ⟨text, depth⟩ .indent = ⟨text ++ tabs depth, depth⟩ := by
  have hpushn (count : Nat) : text.pushn '\t' count = text ++ tabs count := by
    induction count with
    | zero =>
      rw [String.pushn_eq_repeat_push, tabs, List.replicate_zero, String.ofList_nil,
        String.append_empty]
      rfl
    | succ count ih =>
      rw [String.pushn_eq_repeat_push] at ih ⊢
      rw [Nat.repeat, ih, String.push_eq_append, tabs_add, String.append_assoc]
      rfl
  rw [step, hpushn]

end Printer

/-- A piece writes after what is there. -/
theorem Printer.step_eq (text : String) (depth : Nat) (piece : Piece) :
    step ⟨text, depth⟩ piece =
      ⟨text ++ (step ⟨"", depth⟩ piece).text, (step ⟨"", depth⟩ piece).depth⟩ := by
  cases piece with
  | newline => simp [step_newline]
  | indent => simp [step_indent]
  | _ => simp [step, write]

theorem Printer.run_eq (text : String) (depth : Nat) (pieces : List Piece) :
    run ⟨text, depth⟩ pieces =
      ⟨text ++ (run ⟨"", depth⟩ pieces).text, (run ⟨"", depth⟩ pieces).depth⟩ := by
  induction pieces generalizing text depth with
  | nil => simp
  | cons piece pieces ih =>
    rw [run_cons, run_cons, step_eq, ih, ih (step ⟨"", depth⟩ piece).text, String.append_assoc]

/-- The characters that the pieces write, starting at a depth. -/
def Piece.chars (depth : Nat) (pieces : List Piece) : List Char :=
  (Printer.run ⟨"", depth⟩ pieces).text.toList

namespace Piece

variable {piece : Piece} {text : String}

theorem chars_cons (depth : Nat) (piece : Piece) (pieces : List Piece) :
    chars depth (piece :: pieces) = (Printer.step ⟨"", depth⟩ piece).text.toList ++
      chars (Printer.step ⟨"", depth⟩ piece).depth pieces := by
  rw [chars, Printer.run_cons, Printer.run_eq, String.toList_append]
  rfl

theorem chars_of_text? (h : piece.text? = some text) (depth : Nat) (pieces : List Piece) :
    chars depth (piece :: pieces) = text.toList ++ chars depth pieces := by
  rw [chars_cons, Printer.step_of_text? _ _ h, String.empty_append]

theorem chars_ident (depth : Nat) (id : Ident) (pieces : List Piece) :
    chars depth (ident id :: pieces) = id.name.toList ++ chars depth pieces :=
  chars_of_text? rfl depth pieces

theorem chars_literal (depth : Nat) (text : String) (pieces : List Piece) :
    chars depth (literal text :: pieces) = text.toList ++ chars depth pieces :=
  chars_of_text? rfl depth pieces

theorem chars_token (depth : Nat) (text : String) (pieces : List Piece) :
    chars depth (token text :: pieces) = text.toList ++ chars depth pieces :=
  chars_of_text? rfl depth pieces

theorem chars_blank (depth : Nat) (pieces : List Piece) :
    chars depth (blank :: pieces) = ' ' :: chars depth pieces := by
  rw [chars_of_text? rfl]
  simp

theorem chars_newline (depth : Nat) (pieces : List Piece) :
    chars depth (newline :: pieces) = '\n' :: chars depth pieces := by
  rw [chars_cons, Printer.step_newline, String.empty_append]
  simp

end Piece

/-! ## Pieces in order -/

/-- What a printer has written last where it stands. -/
def Line.edge : Line → String
  | fresh => "\n"
  | _ => ""

namespace Piece

variable {piece : Piece} {pieces : List Piece} {line last : Line} {level level' : Nat}

/-- The texts have no line breaks. -/
def OneLine (piece : Piece) : Prop := ∀ text ∈ piece.text?, '\n' ∉ text.toList

/-- The piece writes a text that does not depend on the depth, up to indentation. -/
theorem exists_step (h : piece.move ⟨line, level⟩ = ⟨last, level'⟩) (hlast : last ≠ .stuck)
    (hpiece : piece.OneLine) :
    ∃ added, ∀ text depth, Printer.step ⟨text ++ line.edge, depth + level⟩ piece =
      ⟨text ++ indentText depth added ++ last.edge, depth + level'⟩ := by
  cases line with
  | stuck =>
    rw [move_stuck] at h
    cases h
    exact absurd rfl hlast
  | fresh =>
    cases piece with
    | indent =>
      cases h
      refine ⟨"\n" ++ tabs level, fun text depth => ?_⟩
      rw [Printer.step_indent, indentText_line]
      simp [Line.edge, String.append_assoc]
    | deepen =>
      cases h
      refine ⟨"", fun text depth => ?_⟩
      simp [Printer.step, Nat.add_assoc]
    | raise =>
      simp only [move] at h
      split at h
      · next hlevel =>
        cases h
        refine ⟨"", fun text depth => ?_⟩
        simp [Printer.step, Nat.add_sub_assoc hlevel]
      · cases h
        exact absurd rfl hlast
    | _ =>
      cases h
      exact absurd rfl hlast
  | mid broken =>
    cases htext : piece.text? with
    | some written =>
      rw [move_of_text? htext] at h
      split at h
      · cases h
        refine ⟨written, fun text depth => ?_⟩
        rw [Printer.step_of_text? _ _ htext, indentText_of_notMem (hpiece written htext)]
        simp [Line.edge]
      · cases h
        exact absurd rfl hlast
    | none =>
      cases piece with
      | newline =>
        cases h
        refine ⟨"", fun text depth => ?_⟩
        rw [Printer.step_newline]
        simp [Line.edge]
      | indent | deepen | raise =>
        cases h
        exact absurd rfl hlast
      | _ => cases htext

/-- Pieces that are in order write a text that does not depend on the depth, up to indentation, and
change the depth by the levels that they leave open. -/
theorem exists_run (h : run pieces ⟨line, level⟩ = ⟨last, level'⟩) (hlast : last ≠ .stuck)
    (hpieces : ∀ piece ∈ pieces, piece.OneLine) :
    ∃ added, ∀ text depth, Printer.run ⟨text ++ line.edge, depth + level⟩ pieces =
      ⟨text ++ indentText depth added ++ last.edge, depth + level'⟩ := by
  induction pieces generalizing line level with
  | nil =>
    cases h
    exact ⟨"", fun text depth => by simp⟩
  | cons piece pieces ih =>
    rw [List.forall_mem_cons] at hpieces
    rw [run_cons] at h
    have hnext : (piece.move ⟨line, level⟩).line ≠ .stuck := ne_stuck_of_run (by rwa [h])
    obtain ⟨first, hfirst⟩ := exists_step rfl hnext hpieces.1
    obtain ⟨rest, hrest⟩ := ih h hpieces.2
    refine ⟨first ++ rest, fun text depth => ?_⟩
    rw [Printer.run_cons, hfirst, hrest, indentText_append, ← String.append_assoc]

theorem level_pos_of_raise {cursor : Cursor} (h : (raise.move cursor).line ≠ .stuck) :
    0 < cursor.level := by
  obtain ⟨line, level⟩ := cursor
  cases line with
  | fresh =>
    by_contra hlevel
    simp [move, hlevel] at h
  | _ => exact absurd rfl h

end Piece

/-! ## Closed levels -/

/-- Printing at any depth writes the text indented and comes back to that depth. On the way the
depth is never lowered below it. -/
def Indented (pieces : List Piece) (printed : String) : Prop :=
  ∀ text depth,
    Printer.run ⟨text, depth⟩ pieces = ⟨text ++ indentText depth printed, depth⟩ ∧
    (∀ front, front <+: pieces → depth ≤ (Printer.run ⟨text, depth⟩ front).depth) ∧
    ∀ front rest, pieces = front ++ .raise :: rest →
      depth < (Printer.run ⟨text, depth⟩ front).depth

theorem Piece.indented {pieces : List Piece} {b : Bool}
    (h : run pieces ⟨.mid true, 0⟩ = ⟨.mid b, 0⟩) (hpieces : ∀ piece ∈ pieces, piece.OneLine) :
    Indented pieces (Printer.run {} pieces).text := by
  have hfront {front rest : List Piece} (heq : pieces = front ++ rest) :
      (run front ⟨.mid true, 0⟩).line ≠ .stuck ∧
      (run rest (run front ⟨.mid true, 0⟩)).line ≠ .stuck := by
    rw [heq, run_append] at h
    have hrest : (run rest (run front ⟨.mid true, 0⟩)).line ≠ .stuck := by
      rw [h]
      simp
    exact ⟨ne_stuck_of_run hrest, hrest⟩
  -- the depth after a front is the start and the levels that the front leaves open
  have hdepth {front rest : List Piece} (heq : pieces = front ++ rest) (text : String)
      (depth : Nat) : (Printer.run ⟨text, depth⟩ front).depth =
        depth + (run front ⟨.mid true, 0⟩).level := by
    cases hrun : run front ⟨.mid true, 0⟩ with
    | mk last level =>
      have hlast := (hfront heq).1
      rw [hrun] at hlast
      obtain ⟨added, hadded⟩ := exists_run hrun hlast fun piece hpiece =>
        hpieces piece (heq ▸ List.mem_append_left rest hpiece)
      simpa [Line.edge] using congrArg Printer.depth (hadded text depth)
  obtain ⟨added, hadded⟩ := exists_run h (by simp) hpieces
  have hnone : (Printer.run {} pieces).text = added := by
    simpa [Line.edge] using congrArg Printer.text (hadded "" 0)
  intro text depth
  refine ⟨?_, ?_, ?_⟩
  · simpa [Line.edge, hnone] using hadded text depth
  · rintro front ⟨rest, heq⟩
    rw [hdepth heq.symm]
    exact Nat.le_add_right _ _
  · intro front rest heq
    have hraise := (hfront heq).2
    rw [run_cons] at hraise
    have hlevel := level_pos_of_raise (ne_stuck_of_run hraise)
    rw [hdepth heq]
    omega

end GoProbe
