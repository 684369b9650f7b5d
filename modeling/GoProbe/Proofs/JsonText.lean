import Mathlib
import GoProbe.Json.Plain
import GoProbe.Json.Writer

/-!
# Reading written JSON

A text in either layout reads as the value it was written from. `Spells chars v` says that a reader
finds the value `v` in the characters whatever text follows, with enough calls for their number; the
rules build it up from scalars, blanks, items and members in the way the writers put texts together.

A value is `Plain` if its numbers are natural numbers of 64 bits and its strings are texts. Encoders
make no others.
-/

namespace GoProbe.Json

/-! ## Plain values -/

inductive Plain : Json → Prop where
  | null : Plain .null
  | bool (b : Bool) : Plain (.bool b)
  | nat {n : Nat} (h : n < wordCount 64) : Plain (.nat n)
  | string (text : String) : Plain (.string text)
  | array {items : List Json} (h : ∀ item ∈ items, Plain item) : Plain (.array items)
  | object {members : List (String × Json)} (h : ∀ m ∈ members, Plain m.2) :
      Plain (.object members)

/-! ## Blanks -/

/-- All characters are blanks. -/
def Blanks (chars : List Char) : Prop := ∀ c ∈ chars, isBlank c = true

theorem Blanks.nil : Blanks [] := by simp [Blanks]

theorem Blanks.breakTo (level : Nat) : Blanks (breakTo level) := by
  intro c hc
  rcases List.mem_cons.1 hc with rfl | hc
  · rfl
  · rw [List.eq_of_mem_replicate hc]
    rfl

theorem skipBlanks_append {blanks : List Char} (h : Blanks blanks) (text : List Char) :
    skipBlanks (blanks ++ text) = skipBlanks text :=
  List.dropWhile_append_of_pos h

theorem skipBlanks_skipBlanks (text : List Char) : skipBlanks (skipBlanks text) = skipBlanks text :=
  List.dropWhile_idempotent _ text

/-! ## Strings -/

theorem hexValue?_hexDigit : ∀ n < 16, hexValue? (hexDigit n) = some n := by decide

theorem hexDigit_mod (n : Nat) : hexDigit n = hexDigit (n % 16) := by
  simp [hexDigit]

/-- The code of a control character is written with two digits. -/
theorem hexCode?_control {n : Nat} (h : n < 0x20) :
    hexCode? '0' '0' (hexDigit (n / 16)) (hexDigit n) = some n := by
  have hhigh := hexValue?_hexDigit (n / 16) (by omega)
  have hlow := hexValue?_hexDigit (n % 16) (by omega)
  have hzero : hexValue? '0' = some 0 := rfl
  rw [← hexDigit_mod] at hlow
  simp only [hexCode?, hzero, hhigh, hlow, Option.bind_eq_bind, Option.bind_some, Option.pure_def]
  congr 1
  omega

/-- Puts a character before the items of a string. -/
def prepend (c : Char) (found : List Glyph × List Char) : List Glyph × List Char :=
  (.char c :: found.1, found.2)

theorem stringBody_short {e c : Char} (h : shortEscape? e = some c) (text : List Char) :
    stringBody ('\\' :: e :: text) = (stringBody text).map (prepend c) := by
  have hne : e ≠ 'u' := by
    rintro rfl
    cases h
  rw [stringBody.eq_3 _ _ (fun _ _ _ _ _ hu _ => hne hu), h]
  cases stringBody text <;> rfl

theorem stringBody_control {c : Char} (h : c.toNat < 0x20) (text : List Char) :
    stringBody ('\\' :: 'u' :: '0' :: '0' :: hexDigit (c.toNat / 16) :: hexDigit c.toNat :: text) =
      (stringBody text).map (prepend c) := by
  have hglyph : Glyph.ofCode c.toNat = .char c := by
    have hhalf : (isHighHalf c.toNat || isLowHalf c.toNat) = false := by
      simp only [isHighHalf, isLowHalf, Bool.or_eq_false_iff, Bool.and_eq_false_iff,
        decide_eq_false_iff_not]
      omega
    simp [Glyph.ofCode, hhalf]
  rw [stringBody, hexCode?_control h]
  cases stringBody text with
  | none => rfl
  | some found => simp [prepend, hglyph]

theorem stringBody_escape (c : Char) (text : List Char) :
    stringBody (escape c ++ text) = (stringBody text).map (prepend c) := by
  rw [escape.eq_def]
  split
  case h_8 hquote hslash _ _ _ _ _ =>
    split
    · next hcontrol => exact stringBody_control hcontrol text
    · next hcontrol =>
      have hplain : (c.toNat < 0x20 || c == '\\') = false := by
        simpa [hcontrol] using hslash
      rw [List.singleton_append, stringBody.eq_4 _ _ hquote (fun _ _ _ _ _ h _ => hslash h)
        (fun _ _ h _ => hslash h), hplain]
      cases stringBody text <;> rfl
  all_goals exact stringBody_short rfl text

theorem stringBody_flatMap (chars text : List Char) :
    stringBody (chars.flatMap escape ++ '"' :: text) = some (chars.map .char, text) := by
  induction chars with
  | nil => rfl
  | cons c rest ih =>
    rw [List.flatMap_cons, List.append_assoc, stringBody_escape, ih]
    rfl

theorem assemble_map_char (chars : List Char) : assemble (chars.map .char) = some chars := by
  induction chars with
  | nil => rfl
  | cons c rest ih => rw [List.map_cons, assemble, ih, Option.map_some]

/-- A string literal reads as its text. -/
theorem stringLiteral_flatMap (text : String) (rest : List Char) :
    stringLiteral (text.toList.flatMap escape ++ '"' :: rest) = some (some text, rest) := by
  simp [stringLiteral, stringBody_flatMap, assemble_map_char]

/-! ## Numerals -/

/-- The text does not go on with a numeral. -/
def EndsNumeral (rest : List Char) : Prop :=
  ∀ c ∈ rest.head?, c.isDigit = false ∧ c ≠ '.' ∧ c ≠ 'e' ∧ c ≠ 'E'

namespace EndsNumeral

variable {rest : List Char}

theorem nil : EndsNumeral [] := by simp [EndsNumeral]

theorem cons {c : Char} (h : c.isDigit = false ∧ c ≠ '.' ∧ c ≠ 'e' ∧ c ≠ 'E') :
    EndsNumeral (c :: rest) := by
  simpa [EndsNumeral] using h

/-- Blanks before what ends a numeral end it as well. -/
theorem blanks {chars : List Char} (hchars : Blanks chars) (h : EndsNumeral rest) :
    EndsNumeral (chars ++ rest) := by
  cases chars with
  | nil => exact h
  | cons c chars =>
    have hc := hchars c List.mem_cons_self
    simp only [isBlank, Bool.or_eq_true, beq_iff_eq, or_assoc] at hc
    rcases hc with rfl | rfl | rfl | rfl <;> exact cons (by decide)

theorem digits_append (h : EndsNumeral rest) {ds : List Char} (hds : ∀ d ∈ ds, d.isDigit = true) :
    digits (ds ++ rest) = (ds, rest) := by
  have hrest : rest.takeWhile Char.isDigit = [] ∧ rest.dropWhile Char.isDigit = rest := by
    cases rest with
    | nil => exact ⟨rfl, rfl⟩
    | cons c rest => simp [(h c rfl).1]
  rw [digits, List.span_eq_takeWhile_dropWhile, List.takeWhile_append_of_pos hds,
    List.dropWhile_append_of_pos hds, hrest.1, hrest.2, List.append_nil]

theorem fractionPart_eq (h : EndsNumeral rest) : fractionPart rest = some ([], rest) := by
  rw [fractionPart.eq_2]
  rintro rest rfl
  exact (h '.' rfl).2.1 rfl

theorem exponentPart_eq (h : EndsNumeral rest) : exponentPart rest = some ([], rest) := by
  rcases rest with - | ⟨c, - | ⟨d, rest⟩⟩
  · rfl
  · simp [exponentPart, (h c rfl).2.2]
  · simp [exponentPart, (h c rfl).2.2]

end EndsNumeral

theorem digitsValue_eq (ds : List Char) : digitsValue ds = Nat.ofDigitChars 10 ds 0 := by
  simp only [digitsValue, Nat.ofDigitChars_eq_foldl, Nat.mul_comm]

/-- Only zero is written with a zero in front. -/
theorem toDigits_head {n : Nat} (h : n ≠ 0) : (Nat.toDigits 10 n).head? ≠ some '0' := by
  induction n using Nat.strongRecOn with
  | ind n ih =>
    by_cases hn : n < 10
    · rw [Nat.toDigits_of_lt_base hn]
      interval_cases n <;> simp_all
    · have hhead := ih (n / 10) (by omega) (by omega)
      rw [Nat.toDigits_of_base_le (by decide) (by omega),
        List.head?_append_of_ne_nil _ Nat.toDigits_ne_nil]
      exact hhead

theorem integerPart_toDigits (n : Nat) {rest : List Char} (h : EndsNumeral rest) :
    integerPart (Nat.toDigits 10 n ++ rest) = some (Nat.toDigits 10 n, rest) := by
  by_cases hn : n = 0
  · rw [hn, Nat.toDigits_zero]
    rfl
  · have hfound : digits (Nat.toDigits 10 n ++ rest) = (Nat.toDigits 10 n, rest) :=
      h.digits_append fun _ hd => Nat.isDigit_of_mem_toDigits (by decide) (by decide) hd
    have hhead := toDigits_head hn
    match hdigits : Nat.toDigits 10 n with
    | [] => exact absurd hdigits Nat.toDigits_ne_nil
    | d :: ds =>
      rw [hdigits] at hfound hhead
      rw [integerPart.eq_2, hfound]
      rintro rest hzero
      exact hhead (congrArg some (List.cons.inj hzero).1)

/-- The digits of a natural number read as this number. -/
theorem numeral_toDigits (n : Nat) {rest : List Char} (h : EndsNumeral rest) :
    numeral false (Nat.toDigits 10 n ++ rest) = some (.nat n, rest) := by
  simp [numeral, integerPart_toDigits n h, h.fractionPart_eq, h.exponentPart_eq, digitsValue_eq,
    Nat.ofDigitChars_ten_toDigits, nat]

/-! ## Values -/

/-- The characters read as the value, whatever text follows. -/
def Spells (chars : List Char) (v : Json) : Prop :=
  ∀ calls rest, 2 * chars.length ≤ calls → EndsNumeral rest →
    value calls (chars ++ rest) = some (v, rest)

/-- The characters before a closing bracket read as the items. -/
def SpellsItems (chars : List Char) (vs : List Json) : Prop :=
  ∀ calls rest, 2 * chars.length < calls → items calls (chars ++ ']' :: rest) = some (vs, rest)

/-- The characters before a closing brace read as the members. -/
def SpellsMembers (chars : List Char) (ms : List (String × Json)) : Prop :=
  ∀ calls rest, 2 * chars.length < calls →
    members calls (chars ++ '}' :: rest) = some (ms.map fun m => (some m.1, m.2), rest)

/-- Blanks, or nothing, before a character that is no blank. -/
theorem skipBlanks_append_cons {blanks : List Char} (h : Blanks blanks) {c : Char}
    (hc : isBlank c = false) (text : List Char) : skipBlanks (blanks ++ c :: text) = c :: text := by
  rw [skipBlanks_append h, skipBlanks_cons hc]

theorem Spells.blanks {blanks chars : List Char} {v : Json} (hblanks : Blanks blanks)
    (h : Spells chars v) : Spells (blanks ++ chars) v := by
  intro calls rest hcalls hrest
  rw [List.length_append] at hcalls
  rw [List.append_assoc, value_congr (skipBlanks_append hblanks _)]
  exact h calls rest (by omega) hrest

namespace Spells

theorem null : Spells "null".toList .null := by
  rintro (- | calls) rest hcalls -
  · simp at hcalls
  · simp [value, skipBlanks_cons, isBlank]

theorem bool (b : Bool) : Spells (scalarChars (.bool b)) (.bool b) := by
  rintro (- | calls) rest hcalls -
  · cases b <;> simp [scalarChars] at hcalls
  · cases b <;> simp [scalarChars, value, skipBlanks_cons, isBlank]

theorem string (text : String) : Spells (quoted text) (.string text) := by
  rintro (- | calls) rest hcalls -
  · simp [quoted] at hcalls
  · simp [quoted, value, skipBlanks_cons, isBlank, stringLiteral_flatMap]

theorem nat (n : Nat) : Spells (scalarChars (.nat n)) (.nat n) := by
  have hchars : scalarChars (.nat n) = Nat.toDigits 10 n := Nat.toList_repr
  rw [hchars]
  rintro (- | calls) rest hcalls hrest
  · have hpos : 0 < (Nat.toDigits 10 n).length := Nat.length_toDigits_pos
    omega
  · have hnumeral := numeral_toDigits n hrest
    match hdigits : Nat.toDigits 10 n with
    | [] => exact absurd hdigits Nat.toDigits_ne_nil
    | d :: ds =>
      have hd : d.isDigit = true :=
        Nat.isDigit_of_mem_toDigits (by decide) (by decide) (hdigits ▸ List.mem_cons_self)
      have hblank : isBlank d = false := by
        simp only [isBlank, Bool.or_eq_false_iff, beq_eq_false_iff_ne, and_assoc]
        refine ⟨?_, ?_, ?_, ?_⟩ <;> rintro rfl <;> cases hd
      rw [hdigits] at hnumeral
      rw [List.cons_append, value, skipBlanks_cons hblank]
      -- a digit starts none of the other forms
      split
      case h_8 => exact hnumeral
      all_goals next heq =>
        obtain rfl := (List.cons.inj heq).1
        cases hd

end Spells

theorem ofMembers_map (ms : List (String × Json)) :
    ofMembers (ms.map fun m => (some m.1, m.2)) = .object ms := by
  have hmapM : (ms.map fun m => (some m.1, m.2)).mapM (fun m : Member => m.1.map (·, m.2)) =
      some ms := by
    induction ms with
    | nil => rfl
    | cons m ms ih => simp [ih]
  rw [ofMembers, hmapM]

namespace Spells

theorem emptyArray : Spells ['[', ']'] (.array []) := by
  rintro (- | calls) rest hcalls -
  · simp at hcalls
  · simp [value, skipBlanks_cons, isBlank]

theorem emptyObject : Spells ['{', '}'] (.object []) := by
  rintro (- | calls) rest hcalls -
  · simp at hcalls
  · simp [value, skipBlanks_cons, isBlank]

/-- Items in brackets. -/
theorem array {chars : List Char} {vs : List Json} (h : SpellsItems chars vs) :
    Spells ('[' :: chars ++ [']']) (.array vs) := by
  rintro (- | calls) rest hcalls -
  · simp at hcalls
  · simp only [List.length_append, List.length_cons, List.length_nil] at hcalls
    have hitems := h calls rest (by omega)
    rw [items_congr (skipBlanks_skipBlanks _).symm] at hitems
    simp only [List.cons_append, List.append_assoc, List.nil_append, value,
      skipBlanks_cons (show isBlank '[' = false from rfl)]
    split
    · next heq =>
      rw [heq, items_closeBracket] at hitems
      cases hitems
    · simp [hitems]

/-- Members in braces. -/
theorem object {chars : List Char} {ms : List (String × Json)} (h : SpellsMembers chars ms) :
    Spells ('{' :: chars ++ ['}']) (.object ms) := by
  rintro (- | calls) rest hcalls -
  · simp at hcalls
  · simp only [List.length_append, List.length_cons, List.length_nil] at hcalls
    have hmembers := h calls rest (by omega)
    rw [members_congr (skipBlanks_skipBlanks _).symm] at hmembers
    simp only [List.cons_append, List.append_assoc, List.nil_append, value,
      skipBlanks_cons (show isBlank '{' = false from rfl)]
    split
    · next heq =>
      rw [heq, members_closeBrace] at hmembers
      cases hmembers
    · simp [hmembers, ofMembers_map]

end Spells

namespace SpellsItems

/-- The last item. -/
theorem one {chars blanks : List Char} {v : Json} (h : Spells chars v) (hblanks : Blanks blanks) :
    SpellsItems (chars ++ blanks) [v] := by
  rintro (- | calls) rest hcalls
  · simp at hcalls
  · rw [List.length_append] at hcalls
    have hitem := h calls (blanks ++ ']' :: rest) (by omega) (.blanks hblanks (.cons (by decide)))
    simp [items, hitem, skipBlanks_append_cons hblanks, isBlank]

theorem cons {chars more : List Char} {v : Json} {vs : List Json} (h : Spells chars v)
    (hmore : SpellsItems more vs) : SpellsItems (chars ++ ',' :: more) (v :: vs) := by
  rintro (- | calls) rest hcalls
  · simp at hcalls
  · rw [List.length_append, List.length_cons] at hcalls
    have hitem := h calls (',' :: (more ++ ']' :: rest)) (by omega) (.cons (by decide))
    simp [items, hitem, skipBlanks_cons, isBlank, hmore calls rest (by omega)]

end SpellsItems

namespace SpellsMembers

variable {before chars : List Char} {v : Json}

/-- The last member. -/
theorem one {blanks : List Char} (hbefore : Blanks before) (name : String) (h : Spells chars v)
    (hblanks : Blanks blanks) :
    SpellsMembers (before ++ quoted name ++ ':' :: chars ++ blanks) [(name, v)] := by
  rintro (- | calls) rest hcalls
  · simp at hcalls
  · simp only [List.length_append, List.length_cons] at hcalls
    have hvalue := h calls (blanks ++ '}' :: rest) (by omega) (.blanks hblanks (.cons (by decide)))
    simp [members, quoted, skipBlanks_append_cons hbefore, isBlank, stringLiteral_flatMap,
      skipBlanks_cons, hvalue, skipBlanks_append_cons hblanks]

theorem cons {more : List Char} {ms : List (String × Json)} (hbefore : Blanks before)
    (name : String) (h : Spells chars v) (hmore : SpellsMembers more ms) :
    SpellsMembers (before ++ quoted name ++ ':' :: chars ++ ',' :: more) ((name, v) :: ms) := by
  rintro (- | calls) rest hcalls
  · simp at hcalls
  · simp only [List.length_append, List.length_cons] at hcalls
    have hvalue := h calls (',' :: (more ++ '}' :: rest)) (by omega) (.cons (by decide))
    simp [members, quoted, skipBlanks_append_cons hbefore, isBlank, stringLiteral_flatMap,
      skipBlanks_cons, hvalue, hmore calls rest (by omega)]

end SpellsMembers

/-! ## Both layouts -/

theorem spellsItems_compact {vs : List Json} (h : ∀ v ∈ vs, Spells (compactChars v) v)
    (hne : vs ≠ []) : SpellsItems (compactItems vs) vs := by
  induction vs with
  | nil => exact absurd rfl hne
  | cons v rest ih =>
    rw [List.forall_mem_cons] at h
    cases rest with
    | nil => simpa [compactItems] using SpellsItems.one h.1 .nil
    | cons w rest => exact .cons h.1 (ih h.2 (List.cons_ne_nil w rest))

theorem spellsMembers_compact {ms : List (String × Json)}
    (h : ∀ m ∈ ms, Spells (compactChars m.2) m.2) (hne : ms ≠ []) :
    SpellsMembers (compactMembers ms) ms := by
  induction ms with
  | nil => exact absurd rfl hne
  | cons m rest ih =>
    rw [List.forall_mem_cons] at h
    cases rest with
    | nil => simpa [compactMembers] using SpellsMembers.one .nil m.1 h.1 .nil
    | cons n rest =>
      have hrest := ih h.2 (List.cons_ne_nil n rest)
      simpa [compactMembers] using SpellsMembers.cons .nil m.1 h.1 hrest

theorem Plain.spells_compact {v : Json} (h : v.Plain) : Spells (compactChars v) v := by
  induction h with
  | null => exact .null
  | bool b => exact .bool b
  | nat => exact .nat _
  | string text => exact .string text
  | @array items _ ih =>
    cases items with
    | nil => exact .emptyArray
    | cons v rest => exact .array (spellsItems_compact ih (List.cons_ne_nil v rest))
  | @object members _ ih =>
    cases members with
    | nil => exact .emptyObject
    | cons m rest => exact .object (spellsMembers_compact ih (List.cons_ne_nil m rest))

theorem spellsItems_pretty {vs : List Json} {level : Nat}
    (h : ∀ v ∈ vs, Spells (prettyChars level v) v) (hne : vs ≠ []) {blanks : List Char}
    (hblanks : Blanks blanks) : SpellsItems (prettyItems level vs ++ blanks) vs := by
  induction vs with
  | nil => exact absurd rfl hne
  | cons v rest ih =>
    rw [List.forall_mem_cons] at h
    have hfirst := h.1.blanks (.breakTo level)
    cases rest with
    | nil => exact .one hfirst hblanks
    | cons w rest =>
      have hrest := ih h.2 (List.cons_ne_nil w rest)
      simpa [prettyItems] using SpellsItems.cons hfirst hrest

theorem spellsMembers_pretty {ms : List (String × Json)} {level : Nat}
    (h : ∀ m ∈ ms, Spells (prettyChars level m.2) m.2) (hne : ms ≠ []) {blanks : List Char}
    (hblanks : Blanks blanks) : SpellsMembers (prettyMembers level ms ++ blanks) ms := by
  have hblank : Blanks [' '] := by simp [Blanks, isBlank]
  induction ms with
  | nil => exact absurd rfl hne
  | cons m rest ih =>
    rw [List.forall_mem_cons] at h
    have hfirst := h.1.blanks hblank
    cases rest with
    | nil => simpa [prettyMembers] using SpellsMembers.one (.breakTo level) m.1 hfirst hblanks
    | cons n rest =>
      have hrest := ih h.2 (List.cons_ne_nil n rest)
      simpa [prettyMembers] using SpellsMembers.cons (.breakTo level) m.1 hfirst hrest

theorem Plain.spells_pretty {v : Json} (h : v.Plain) : ∀ level, Spells (prettyChars level v) v := by
  induction h with
  | null => exact fun _ => .null
  | bool b => exact fun _ => .bool b
  | nat => exact fun _ => .nat _
  | string text => exact fun _ => .string text
  | @array items _ ih =>
    intro level
    cases items with
    | nil => exact .emptyArray
    | cons v rest =>
      have hitems := spellsItems_pretty (fun w hw => ih w hw (level + 1))
        (List.cons_ne_nil v rest) (.breakTo level)
      simpa [prettyChars] using Spells.array hitems
  | @object members _ ih =>
    intro level
    cases members with
    | nil => exact .emptyObject
    | cons m rest =>
      have hmembers := spellsMembers_pretty (fun n hn => ih n hn (level + 1))
        (List.cons_ne_nil m rest) (.breakTo level)
      simpa [prettyChars] using Spells.object hmembers

/-- A whole text, with blanks after the value. -/
theorem Spells.parse_ofList {chars blanks : List Char} {v : Json} (h : Spells chars v)
    (hblanks : Blanks blanks) : parse (String.ofList (chars ++ blanks)) = some v := by
  have hends : EndsNumeral blanks := by simpa using EndsNumeral.blanks hblanks .nil
  have hread := h (2 * (chars ++ blanks).length + 2) blanks (by simp; omega) hends
  have hblank : skipBlanks blanks = [] := List.dropWhile_eq_nil_iff.2 hblanks
  rw [parse, String.toList_ofList, hread]
  simp [hblank]

theorem Plain.parse_compact {v : Json} (h : v.Plain) : parse v.compact = some v := by
  simpa [compact] using h.spells_compact.parse_ofList .nil

theorem Plain.parse_pretty {v : Json} (h : v.Plain) : parse v.pretty = some v := by
  simpa [pretty] using (h.spells_pretty 0).parse_ofList .nil

/-- The text of a file ends with a line break. -/
theorem Plain.parse_pretty_line {v : Json} (h : v.Plain) : parse (v.pretty ++ "\n") = some v := by
  have hline : Blanks ['\n'] := by simp [Blanks, isBlank]
  rw [pretty, show "\n" = String.ofList ['\n'] from rfl, ← String.ofList_append]
  exact (h.spells_pretty 0).parse_ofList hline

/-! ## Proper values -/

/-- All digits of a number fit in a word if the number does. -/
theorem Numeral.appendDigits_count {start : Nat} {ds : List Char}
    (h : Nat.ofDigitChars 10 ds start < wordCount 64) : (appendDigits start ds).2 = ds.length := by
  induction ds generalizing start with
  | nil => rfl
  | cons d rest ih =>
    rw [Nat.ofDigitChars_cons] at h
    have hlonger : start * 10 + digitsValue [d] = 10 * start + (d.toNat - '0'.toNat) := by
      simp [digitsValue, Nat.mul_comm]
    have hle : 10 * start + (d.toNat - '0'.toNat) ≤
        Nat.ofDigitChars 10 rest (10 * start + (d.toNat - '0'.toNat)) := by
      rw [Nat.ofDigitChars_eq_ofDigitChars_zero]
      exact (Nat.le_mul_of_pos_left _ (by positivity)).trans (Nat.le_add_right _ _)
    simp only [appendDigits, hlonger, hle.trans_lt h, if_true, ih h, List.length_cons]

theorem Numeral.isFiniteByParts_ofNat {n : Nat} (h : n < wordCount 64) :
    (ofNat n).isFiniteByParts = true := by
  have hcount : (appendDigits 0 (Nat.toDigits 10 n)).2 = (Nat.toDigits 10 n).length := by
    apply appendDigits_count
    rwa [Nat.ofDigitChars_ten_toDigits]
  simp [isFiniteByParts, significand, ofNat, appendDigits, hcount]

theorem areProper_of_forall {vs : List Json} (h : ∀ v ∈ vs, v.isProper = true) :
    areProper vs = true := by
  induction vs with
  | nil => rfl
  | cons v rest ih =>
    rw [List.forall_mem_cons] at h
    rw [areProper, h.1, ih h.2, Bool.and_self]

theorem membersProper_of_forall {ms : List (String × Json)} (h : ∀ m ∈ ms, m.2.isProper = true) :
    membersProper ms = true := by
  induction ms with
  | nil => rfl
  | cons m rest ih =>
    rw [List.forall_mem_cons] at h
    rw [membersProper, h.1, ih h.2, Bool.and_self]

theorem Plain.isProper {v : Json} (h : v.Plain) : v.isProper = true := by
  induction h with
  | null | bool | string => rfl
  | nat h => exact Numeral.isFiniteByParts_ofNat h
  | array _ ih => exact areProper_of_forall ih
  | object _ ih => exact membersProper_of_forall ih

end GoProbe.Json
