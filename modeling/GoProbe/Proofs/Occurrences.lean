import GoProbe.Proofs.Indentation
import GoProbe.Proofs.ProbeForm

/-!
# Words of a printed text

Where a word occurs in a printed text. Of two texts in a row one has no character of a word
(`View.flows_layout`). An occurrence can then not reach from one piece into the next, so it lies in
one piece. The word is the name of the table of counters.

* `occurrences_append_of_apart` and `occurrences_append_of_breaks`: a piece without the word has no
  part in an occurrence.
* `Shown pieces ids` says that the pieces of probes stand in the list in the order of `ids` and that
  all other pieces are quiet: the word does not occur in them.
* `Shown.occurrences_chars` finds the probes in the text of pieces that are in order.
-/

namespace GoProbe

open Piece (openBracket closeBracket)

/-! ## Occurrences -/

/-- The places where the word occurs, from left to right, each with the text from there on. -/
def occurrences (word text : List Char) : List (List Char) :=
  text.tails.filter (word.isPrefixOf ·)

/-- The name of the table of counters. -/
def tableWord : List Char := "__ut_cover_tab__".toList

/-- The word with the bracket that follows it in a probe. -/
def tableOpening : List Char := tableWord ++ ['[']

/-- The text does not start with a character of the word. -/
def Apart (text : List Char) : Prop := ∀ c ∈ text.head?, c ∉ tableWord

theorem tableWord_eq : tableWord =
    ['_', '_', 'u', 't', '_', 'c', 'o', 'v', 'e', 'r', '_', 't', 'a', 'b', '_', '_'] := rfl

theorem tableWord_of_opening {text : List Char} (h : tableOpening <+: text) : tableWord <+: text :=
  (List.prefix_append _ _).trans h

theorem occurrences_cons_of_not {word text : List Char} {c : Char} (h : ¬ word <+: c :: text) :
    occurrences word (c :: text) = occurrences word text := by
  rw [occurrences, List.tails_cons, List.filter_cons_of_neg]
  · rfl
  · rwa [List.isPrefixOf_iff_prefix]

theorem occurrences_cons_of {word text : List Char} {c : Char} (h : word <+: c :: text) :
    occurrences word (c :: text) = (c :: text) :: occurrences word text := by
  rw [occurrences, List.tails_cons, List.filter_cons_of_pos]
  · rfl
  · rwa [List.isPrefixOf_iff_prefix]

/-- No occurrence starts in the first part. -/
theorem occurrences_append {word left text : List Char}
    (h : ∀ tail, tail <:+ left → tail ≠ [] → ¬ word <+: tail ++ text) :
    occurrences word (left ++ text) = occurrences word text := by
  induction left with
  | nil => rfl
  | cons c left ih =>
    have hhead := h (c :: left) List.suffix_rfl (List.cons_ne_nil c left)
    rw [List.cons_append] at hhead ⊢
    rw [occurrences_cons_of_not hhead]
    exact ih fun tail htail => h tail (htail.trans (List.suffix_cons c left))

theorem mem_tableWord_of_opening {c : Char} {text : List Char} (h : tableOpening <+: c :: text) :
    c ∈ tableWord := by
  have hfront := tableWord_of_opening h
  rw [tableWord_eq, List.cons_prefix_cons] at hfront
  simp [tableWord_eq, ← hfront.1]

/-- Characters that are not of the word have no part in an occurrence. -/
theorem occurrences_append_of_breaks {left text : List Char} (h : ∀ c ∈ left, c ∉ tableWord) :
    occurrences tableOpening (left ++ text) = occurrences tableOpening text := by
  refine occurrences_append fun tail htail hne hfront => ?_
  obtain ⟨c, tail, rfl⟩ := List.exists_cons_of_ne_nil hne
  exact h c (htail.subset List.mem_cons_self) (mem_tableWord_of_opening hfront)

/-- A text without the word has no part in an occurrence if what follows is apart. -/
theorem occurrences_append_of_apart {left text : List Char} (hleft : ¬ tableWord <:+: left)
    (htext : Apart text) :
    occurrences tableOpening (left ++ text) = occurrences tableOpening text := by
  refine occurrences_append fun tail htail hne hfront => ?_
  have hword := tableWord_of_opening hfront
  rcases List.prefix_or_prefix_of_prefix hword (List.prefix_append tail text) with h | ⟨rest, hrest⟩
  · exact hleft (h.isInfix.trans htail.isInfix)
  · -- the word goes on after the tail with a character of its own
    cases rest with
    | nil =>
      rw [List.append_nil] at hrest
      exact hleft (hrest ▸ htail.isInfix)
    | cons c rest =>
      rw [← hrest, List.prefix_append_right_inj] at hword
      obtain ⟨more, rfl⟩ := hword
      refine htext c rfl ?_
      rw [← hrest]
      simp

/-! ## Quiet texts -/

/-- The name of the table does not occur in the text. -/
def Quiet (text : String) : Prop := ¬ tableWord <:+: text.toList

theorem Quiet.of_length_lt {text : String} (h : text.toList.length < tableWord.length) :
    Quiet text :=
  fun hinside => absurd hinside.length_le (Nat.not_le.2 h)

/-- Quotes around a quiet text are not characters of the name. -/
theorem Quiet.quoted {text : String} (h : Quiet text) : Quiet ("\"" ++ text ++ "\"") := by
  intro hinside
  have hchars : ("\"" ++ text ++ "\"").toList = '"' :: (text.toList ++ ['"']) := by simp
  rw [hchars, List.infix_cons_iff] at hinside
  rcases hinside with hfront | hinside
  · simp [tableWord_eq] at hfront
  · rw [List.infix_concat_iff] at hinside
    rcases hinside with hback | hinside
    · have hlast := hback.getLast (by simp [tableWord_eq])
      simp [tableWord_eq] at hlast
    · exact h hinside

/-- The name of the table does not occur in what the piece writes. -/
def Piece.Quiet (piece : Piece) : Prop := ∀ text ∈ piece.text?, GoProbe.Quiet text

theorem Quiet.of_written {text : String} (h : Written Quiet text) : Quiet text := by
  cases h with
  | plain h =>
    rw [isPlain, Bool.and_eq_true, decide_eq_true_iff] at h
    exact .of_length_lt h.1
  | stored h => exact h
  | quoted h => exact h.quoted

/-! ## What pieces show -/

/-- The pieces of the probe with this id. -/
def probePieces (id : Nat) : List Piece :=
  [.ident { name := "__ut_cover_tab__" }, openBracket, .literal (Literal.quote (toString id)),
    closeBracket, .token "++"]

/-- The probes that the pieces show, in order; all other pieces are quiet. -/
inductive Shown : List Piece → List Nat → Prop where
  | nil : Shown [] []
  | quiet {piece : Piece} {pieces : List Piece} {ids : List Nat} (hpiece : piece.Quiet)
      (h : Shown pieces ids) : Shown (piece :: pieces) ids
  | probe (id : Nat) {pieces : List Piece} {ids : List Nat} (h : Shown pieces ids) :
      Shown (probePieces id ++ pieces) (id :: ids)

namespace Shown

variable {piece : Piece} {pieces left right : List Piece} {ids more : List Nat}

theorem of_quiet (h : ∀ piece ∈ pieces, piece.Quiet) : Shown pieces [] := by
  induction pieces with
  | nil => exact .nil
  | cons piece pieces ih =>
    rw [List.forall_mem_cons] at h
    exact .quiet h.1 (ih h.2)

theorem append (hleft : Shown left ids) (hright : Shown right more) :
    Shown (left ++ right) (ids ++ more) := by
  induction hleft with
  | nil => exact hright
  | quiet hpiece _ ih => exact .quiet hpiece ih
  | probe id _ ih =>
    rw [List.append_assoc, List.cons_append]
    exact .probe id ih

end Shown

/-! ## From pieces to text -/

/-- What stands after the name of the table in the printed probe with this id. -/
def probeEnd (id : Nat) : List Char :=
  '[' :: '"' :: ((toString id).toList ++ ['"', ']', '+', '+'])

/-- The characters of the printed probe with this id. -/
def probeText (id : Nat) : List Char := tableWord ++ probeEnd id

theorem not_mem_tableWord_of_isDigit {c : Char} (h : c.isDigit) : c ∉ tableWord := by
  have hword : ∀ c ∈ tableWord, c.isDigit = false := by simp [tableWord_eq]
  intro hmem
  rw [hword c hmem] at h
  cases h

theorem not_mem_tableWord_of_mem_probeEnd {id : Nat} {c : Char} (h : c ∈ probeEnd id) :
    c ∉ tableWord := by
  simp only [probeEnd, List.mem_cons, List.mem_append, List.not_mem_nil, or_false] at h
  rcases h with rfl | rfl | hdigit | rfl | rfl | rfl | rfl
  case inr.inr.inl =>
    rw [Nat.toString_eq_repr, Nat.toList_repr] at hdigit
    exact not_mem_tableWord_of_isDigit
      (Nat.isDigit_of_mem_toDigits (by decide) (by decide) hdigit)
  all_goals simp [tableWord_eq]

/-- The first occurrence is at the start of the probe, and the probe has no other. -/
theorem occurrences_probeText (id : Nat) (text : List Char) :
    occurrences tableOpening (probeText id ++ text) =
      (probeText id ++ text) :: occurrences tableOpening text := by
  have hstart : tableOpening <+: probeText id ++ text := by
    simp [tableOpening, probeText, probeEnd]
  have htail : ¬ tableWord <:+: tableWord.tail := fun h => absurd h.length_le (by decide)
  have hapart : Apart (probeEnd id ++ text) := by
    simp [Apart, probeEnd, tableWord_eq]
  have hsplit : probeText id ++ text = '_' :: (tableWord.tail ++ (probeEnd id ++ text)) := by
    simp [probeText, tableWord_eq]
  rw [hsplit] at hstart ⊢
  rw [occurrences_cons_of hstart, occurrences_append_of_apart htail hapart,
    occurrences_append_of_breaks fun c => not_mem_tableWord_of_mem_probeEnd]

/-- Breaks have no character of the word. -/
theorem not_mem_tableWord_of_isBreakChar {c : Char} (h : isBreakChar c = true) :
    c ∉ tableWord := by
  have hword : ∀ c ∈ tableWord, isBreakChar c = false := by simp [tableWord_eq, isBreakChar]
  intro hmem
  rw [hword c hmem] at h
  cases h

theorem Piece.isBreak_of_text? {piece : Piece} {text : String} (htext : piece.text? = some text) :
    piece.isBreak = true ↔ text.toList ≠ [] ∧ ∀ c ∈ text.toList, isBreakChar c = true := by
  simp [isBreak, htext]

/-- Of two texts in a row one is a break; `broken` if one stands before the pieces. -/
def Parted : Bool → List Piece → Prop
  | _, [] => True
  | broken, piece :: pieces =>
    match piece.text? with
    | some _ => (broken || piece.isBreak) = true ∧ Parted piece.isBreak pieces
    | none => Parted (broken || piece = .newline) pieces

/-- What is written last where the cursor stands is a break. -/
def Line.isBroken : Line → Bool
  | mid broken => broken
  | _ => true

namespace Parted

variable {broken : Bool} {piece : Piece} {pieces left right : List Piece} {text : String}

theorem cons_of_text? (htext : piece.text? = some text) :
    Parted broken (piece :: pieces) ↔
      (broken || piece.isBreak) = true ∧ Parted piece.isBreak pieces := by
  simp [Parted, htext]

theorem cons_of_none (htext : piece.text? = none) :
    Parted broken (piece :: pieces) ↔ Parted (broken || piece = .newline) pieces := by
  simp [Parted, htext]

/-- After a line break anything may stand. -/
theorem append_newline (hleft : Parted broken left) (hright : Parted true right) :
    Parted broken (left ++ .newline :: right) := by
  induction left generalizing broken with
  | nil => simpa [Parted, Piece.text?] using hright
  | cons piece left ih =>
    rw [List.cons_append]
    cases htext : piece.text? with
    | some text =>
      rw [cons_of_text? htext] at hleft ⊢
      exact ⟨hleft.1, ih hleft.2⟩
    | none =>
      rw [cons_of_none htext] at hleft ⊢
      exact ih hleft

/-- Pieces in order are parted. -/
theorem of_run {line : Line} {level : Nat}
    (h : (Piece.run pieces ⟨line, level⟩).line ≠ .stuck) : Parted line.isBroken pieces := by
  induction pieces generalizing line level with
  | nil => trivial
  | cons piece pieces ih =>
    rw [Piece.run_cons] at h
    have hmove := Piece.ne_stuck_of_run h
    have hrest : Parted (piece.move ⟨line, level⟩).line.isBroken pieces := ih h
    cases line with
    | stuck => exact absurd (congrArg Cursor.line Piece.move_stuck) hmove
    | mid broken =>
      cases htext : piece.text? with
      | some text =>
        rw [Piece.move_of_text? htext] at hmove hrest
        rw [cons_of_text? htext]
        split at hrest
        · next hbreak => exact ⟨hbreak, hrest⟩
        · next hbreak => exact absurd (congrArg Cursor.line (if_neg hbreak)) hmove
      | none =>
        rw [cons_of_none htext]
        cases piece with
        | newline => simpa [Line.isBroken] using hrest
        | indent | deepen | raise => exact absurd rfl hmove
        | _ => cases htext
    | fresh =>
      cases piece with
      | indent | deepen => exact hrest
      | raise =>
        simp only [Piece.move] at hmove hrest
        split at hrest
        · exact hrest
        · next hlevel => exact absurd (congrArg Cursor.line (if_neg hlevel)) hmove
      | _ => exact absurd rfl hmove

end Parted

/-- After a word comes a break. -/
theorem Parted.apart_chars {pieces : List Piece} (h : Parted false pieces) (depth : Nat) :
    Apart (Piece.chars depth pieces) := by
  induction pieces generalizing depth with
  | nil => simp [Apart, Piece.chars]
  | cons piece pieces ih =>
    cases htext : piece.text? with
    | some text =>
      rw [Parted.cons_of_text? htext, Bool.false_or] at h
      obtain ⟨hne, hchars⟩ := (Piece.isBreak_of_text? htext).1 h.1
      obtain ⟨c, rest, hcons⟩ := List.exists_cons_of_ne_nil hne
      rw [Piece.chars_of_text? htext, hcons]
      intro d hd
      cases hd
      exact not_mem_tableWord_of_isBreakChar (hchars c (hcons ▸ List.mem_cons_self))
    | none =>
      rw [Parted.cons_of_none htext] at h
      rw [Piece.chars_cons]
      cases piece with
      | newline => simp [Printer.step_newline, Apart, tableWord_eq]
      | indent =>
        rw [Printer.step_indent]
        cases depth with
        | zero => exact ih h 0
        | succ depth => simp [tabs, List.replicate_succ, Apart, tableWord_eq]
      | deepen | raise => exact ih h _
      | _ => cases htext

/-- A probe ends with a break. -/
theorem Parted.of_probePieces {broken : Bool} {id : Nat} {pieces : List Piece}
    (h : Parted broken (probePieces id ++ pieces)) : Parted true pieces := by
  have hbreak : (Piece.token "++").isBreak = true := Piece.isBreak_incDecOp .inc
  simp only [probePieces, List.cons_append, List.nil_append] at h
  rw [cons_of_text? rfl, cons_of_text? rfl, cons_of_text? rfl, cons_of_text? rfl,
    cons_of_text? rfl, hbreak] at h
  exact h.2.2.2.2.2

theorem Piece.chars_probePieces (id depth : Nat) (pieces : List Piece) :
    chars depth (probePieces id ++ pieces) = probeText id ++ chars depth pieces := by
  have hname : "__ut_cover_tab__".toList = tableWord := rfl
  simp only [probePieces, List.cons_append, List.nil_append, openBracket, closeBracket, chars_ident,
    chars_literal, chars_token, Literal.toList_quote_toString, hname, probeText, probeEnd]
  simp

/-- A quiet piece has no part in an occurrence. -/
theorem Parted.occurrences_chars_cons {piece : Piece} {pieces : List Piece} {broken : Bool}
    (h : Parted broken (piece :: pieces)) (hpiece : piece.Quiet) (depth : Nat) :
    ∃ broken' depth', Parted broken' pieces ∧
      occurrences tableOpening (Piece.chars depth (piece :: pieces)) =
        occurrences tableOpening (Piece.chars depth' pieces) := by
  cases htext : piece.text? with
  | some text =>
    rw [Parted.cons_of_text? htext] at h
    refine ⟨piece.isBreak, depth, h.2, ?_⟩
    rw [Piece.chars_of_text? htext]
    cases hbreak : piece.isBreak with
    | true =>
      exact occurrences_append_of_breaks fun c hc =>
        not_mem_tableWord_of_isBreakChar (((Piece.isBreak_of_text? htext).1 hbreak).2 c hc)
    | false =>
      rw [hbreak] at h
      exact occurrences_append_of_apart (hpiece text htext) (h.2.apart_chars depth)
  | none =>
    -- line breaks and tabs are breaks, and levels write nothing
    rw [Parted.cons_of_none htext] at h
    refine ⟨_, (Printer.step ⟨"", depth⟩ piece).depth, h, ?_⟩
    rw [Piece.chars_cons]
    refine occurrences_append_of_breaks ?_
    cases piece with
    | newline => simp [Printer.step_newline, tableWord_eq]
    | indent => simp [Printer.step_indent, tabs, tableWord_eq]
    | deepen | raise => simp [Printer.step]
    | _ => cases htext

/-- The probes of parted pieces are met in the text, and nothing else is. -/
theorem Shown.occurrences_chars {pieces : List Piece} {ids : List Nat} {broken : Bool}
    (hshown : Shown pieces ids) (h : Parted broken pieces) (depth : Nat) :
    List.Forall₂ (fun id place => probeText id <+: place) ids
      (occurrences tableOpening (Piece.chars depth pieces)) := by
  induction hshown generalizing broken depth with
  | nil => exact .nil
  | quiet hpiece _ ih =>
    obtain ⟨broken', depth', hrest, heq⟩ := h.occurrences_chars_cons hpiece depth
    rw [heq]
    exact ih hrest depth'
  | probe id _ ih =>
    rw [Piece.chars_probePieces, occurrences_probeText]
    exact .cons (List.prefix_append _ _) (ih h.of_probePieces depth)

end GoProbe
