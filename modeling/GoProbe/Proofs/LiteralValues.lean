import Mathlib
import GoProbe.Proofs.Lexemes

/-!
# The values of string literals

An interpreted string literal denotes bytes. Between its quotes it has elements: characters that
stand for themselves and escapes. An escape is as long as the lexical rules say
(`Lexical.escapeLength?`), and stands for a character, written in UTF-8, or for a single byte that
need not be a character. `elements?` reads the elements from left to right.

* What can be read is a string of the lexical grammar (`isString_of_elements?`), so the two agree
  about where a literal ends.
* `exists_element` reads one character of a text as `escape` writes it, whatever follows. The digits
  of an escape are of a fixed number, so digits of the text that come after them are not read with
  them.
* The value of a quoted text is the text (`value?_quote`), so no two texts are quoted alike.
-/

namespace GoProbe.Lexical

variable {quote c : Char} {text rest : List Char} {count length : Nat}

/-! ## Digits of escapes -/

theorem isHexDigit_of_isOctalDigit (h : isOctalDigit c = true) : isHexDigit c = true := by
  have hrange : '0' ≤ c ∧ c ≤ '7' := by simpa [isOctalDigit] using h
  have hdigit : c.isDigit = true := by
    simp only [Char.isDigit, Bool.and_eq_true, decide_eq_true_eq]
    exact ⟨hrange.1, hrange.2.trans (by decide)⟩
  simp [isHexDigit, hdigit]

theorem startsWith_mono {accepts accepts' : Char → Bool}
    (himp : ∀ c, accepts c = true → accepts' c = true) (h : startsWith count accepts text = true) :
    startsWith count accepts' text = true := by
  simp only [startsWith, Bool.and_eq_true, List.all_eq_true] at h ⊢
  exact ⟨h.1, fun c hc => himp c (h.2 c hc)⟩

/-- An escape is one character and then digits. -/
theorem exists_digits_of_escapeLength? (h : escapeLength? quote (c :: rest) = some length) :
    ∃ count, length = count + 1 ∧ startsWith count isHexDigit rest = true := by
  simp only [escapeLength?] at h
  split_ifs at h with hletter hbyte hcode hlong hoctal
  · exact ⟨0, by simpa using h.symm, by simp [startsWith]⟩
  · exact ⟨2, by simpa using h.symm, (Bool.and_eq_true_iff.1 hbyte).2⟩
  · simp only [Bool.and_eq_true] at hcode
    exact ⟨4, by simpa using h.symm, hcode.1.2⟩
  · simp only [Bool.and_eq_true] at hlong
    exact ⟨8, by simpa using h.symm, hlong.1.2⟩
  · simp only [Bool.and_eq_true] at hoctal
    exact ⟨2, by simpa using h.symm,
      startsWith_mono (fun _ => isHexDigit_of_isOctalDigit) hoctal.2⟩

/-- A character that stands for itself may be put before the rest of a string. -/
theorem isQuoted_cons (hslash : c ≠ '\\') (hquote : c ≠ '"') (hbreak : c ≠ '\n')
    (h : isQuoted '"' text = true) : isQuoted '"' (c :: text) = true := by
  cases text with
  | nil => exact absurd h Bool.false_ne_true
  | cons d text => simp [isQuoted, hslash, hquote, hbreak, h]

theorem isQuoted_append_digits {digits : List Char}
    (hdigits : ∀ c ∈ digits, isHexDigit c = true) (h : isQuoted '"' text = true) :
    isQuoted '"' (digits ++ text) = true := by
  induction digits with
  | nil => exact h
  | cons c digits ih =>
    rw [List.forall_mem_cons] at hdigits
    have hne : ∀ d, isHexDigit d = false → c ≠ d := by
      rintro d hd rfl
      exact absurd (hd.symm.trans hdigits.1) Bool.false_ne_true
    exact isQuoted_cons (hne _ (by decide)) (hne _ (by decide)) (hne _ (by decide)) (ih hdigits.2)

end GoProbe.Lexical

namespace GoProbe.Literal

open Lexical

/-! ## Elements -/

inductive Element where
  /-- A character that stands for itself. -/
  | plain (c : Char)
  /-- An escape that stands for a character. -/
  | code (c : Char)
  /-- An escape that stands for a byte. -/
  | byte (value : UInt8)
deriving DecidableEq, Repr

namespace Element

/-- What the element contributes to the value of a literal. -/
def bytes : Element → List UInt8
  | plain c => String.utf8EncodeChar c
  | code c => String.utf8EncodeChar c
  | byte value => [value]

/-- The character of an escape by letter. Quotes and backslashes stand for themselves. -/
def ofLetter : Char → Char
  | 'a' => '\x07'
  | 'b' => '\x08'
  | 'f' => '\x0c'
  | 'n' => '\n'
  | 'r' => '\r'
  | 't' => '\t'
  | 'v' => '\x0b'
  | c => c

/-- The meaning of an escape, given without its backslash. -/
def ofEscape : List Char → Element
  | 'x' :: digits => byte (UInt8.ofNat (hexValue digits))
  | 'u' :: digits => code (Char.ofNat (hexValue digits))
  | 'U' :: digits => code (Char.ofNat (hexValue digits))
  | [letter] => code (ofLetter letter)
  | digits => byte (UInt8.ofNat (Nat.ofDigitChars 8 digits 0))

end Element

/-- The elements after an opening quote, up to the closing one, which has to be the last
character. -/
def elements? : List Char → Option (List Element)
  | [] => none
  | c :: rest =>
    if c = '\\' then
      match escapeLength? '"' rest with
      | some length => (elements? (rest.drop length)).map (.ofEscape (rest.take length) :: ·)
      | none => none
    else if c = '"' then if rest = [] then some [] else none
    else if c = '\n' then none
    else (elements? rest).map (.plain c :: ·)
termination_by text => text.length

variable {c : Char} {text rest : List Char} {elements : List Element}

theorem elements?_escape {escaped : List Char}
    (h : escapeLength? '"' (escaped ++ rest) = some escaped.length) :
    elements? ('\\' :: escaped ++ rest) = (elements? rest).map (.ofEscape escaped :: ·) := by
  rw [List.cons_append, elements?, if_pos rfl, h]
  simp

theorem elements?_plain (hslash : c ≠ '\\') (hquote : c ≠ '"') (hbreak : c ≠ '\n') :
    elements? (c :: rest) = (elements? rest).map (.plain c :: ·) := by
  rw [elements?, if_neg hslash, if_neg hquote, if_neg hbreak]

theorem isQuoted_of_elements? (h : elements? text = some elements) : isQuoted '"' text = true := by
  fun_induction elements? text generalizing elements with
  | case1 => cases h
  | case2 rest length hlength ih =>
    obtain ⟨tail, htail, -⟩ := Option.map_eq_some_iff.1 h
    cases rest with
    | nil => cases hlength
    | cons d rest =>
      obtain ⟨count, rfl, hdigits⟩ := exists_digits_of_escapeLength? hlength
      simp only [startsWith, Bool.and_eq_true, List.all_eq_true] at hdigits
      have hrest := isQuoted_append_digits hdigits.2 (ih htail)
      rw [List.drop_succ_cons, List.take_append_drop] at hrest
      simp [isQuoted, hlength, hrest]
  | case3 => cases h
  | case4 => simp [isQuoted]
  | case5 => cases h
  | case6 => cases h
  | case7 c rest hslash hquote hbreak ih =>
    obtain ⟨tail, htail, -⟩ := Option.map_eq_some_iff.1 h
    exact isQuoted_cons hslash hquote hbreak (ih htail)

theorem isString_of_elements? (h : elements? text = some elements) :
    isString ('"' :: text) = true :=
  isQuoted_of_elements? h

/-! ## Hexadecimal digits -/

theorem length_hexDigits (width n : Nat) : (hexDigits width n).length = width := by
  induction width generalizing n with
  | zero => rfl
  | succ width ih => simp [hexDigits, ih]

theorem exists_digitChar_of_mem_hexDigits {width n : Nat} (h : c ∈ hexDigits width n) :
    ∃ digit < 16, c = Nat.digitChar digit := by
  induction width generalizing n with
  | zero => cases h
  | succ width ih =>
    rcases List.mem_append.1 h with h | h
    · exact ih h
    · exact ⟨n % 16, Nat.mod_lt n (by decide), List.mem_singleton.1 h⟩

theorem isHexDigit_of_mem_hexDigits {width n : Nat} (h : c ∈ hexDigits width n) :
    isHexDigit c = true := by
  have hdigits : ∀ digit < 16, isHexDigit (Nat.digitChar digit) = true := by decide
  obtain ⟨digit, hlt, rfl⟩ := exists_digitChar_of_mem_hexDigits h
  exact hdigits digit hlt

theorem isControl_of_mem_hexDigits {width n : Nat} (h : c ∈ hexDigits width n) :
    isControl c = false := by
  have hdigits : ∀ digit < 16, isControl (Nat.digitChar digit) = false := by decide
  obtain ⟨digit, hlt, rfl⟩ := exists_digitChar_of_mem_hexDigits h
  exact hdigits digit hlt

theorem hexValue_concat (digits : List Char) {n : Nat} (h : n < 16) :
    hexValue (digits ++ [Nat.digitChar n]) = 16 * hexValue digits + n := by
  have hdigit : ∀ n < 16, hexValue [Nat.digitChar n] = n := by decide
  have hn := hdigit n h
  simp only [hexValue, List.foldl_cons, List.foldl_nil, Nat.mul_zero, Nat.zero_add] at hn
  simp only [hexValue, List.foldl_append, List.foldl_cons, List.foldl_nil, hn]

/-- The digits of a number that is not too large have its value. -/
theorem hexValue_hexDigits {width n : Nat} (h : n < 16 ^ width) :
    hexValue (hexDigits width n) = n := by
  induction width generalizing n with
  | zero =>
    obtain rfl : n = 0 := by simpa using h
    rfl
  | succ width ih =>
    have hdiv : n / 16 < 16 ^ width := Nat.div_lt_of_lt_mul (by rwa [← Nat.pow_succ'])
    rw [hexDigits, hexValue_concat _ (Nat.mod_lt n (by decide)), ih hdiv, Nat.div_add_mod]

theorem startsWith_hexDigits (width n : Nat) (rest : List Char) :
    startsWith width isHexDigit (hexDigits width n ++ rest) = true := by
  have htake : (hexDigits width n ++ rest).take width = hexDigits width n := by
    rw [List.take_left' (length_hexDigits width n)]
  simp only [startsWith, htake, Bool.and_eq_true, decide_eq_true_eq, List.all_eq_true,
    List.length_append, length_hexDigits]
  exact ⟨by omega, fun c hc => isHexDigit_of_mem_hexDigits hc⟩

/-! ## Reading a quoted text -/

theorem elements?_letter {letter : Char}
    (h : letter ∈ ['a', 'b', 'f', 'n', 'r', 't', 'v', '\\', '"']) :
    elements? ('\\' :: letter :: rest) =
      (elements? rest).map (.code (Element.ofLetter letter) :: ·) := by
  have hlength : escapeLength? '"' ([letter] ++ rest) = some [letter].length := by
    simp only [escapeLength?, List.singleton_append]
    exact if_pos (List.contains_iff_mem.2 h)
  have hescape : Element.ofEscape [letter] = .code (Element.ofLetter letter) := by
    have hall : ['a', 'b', 'f', 'n', 'r', 't', 'v', '\\', '"'].all (fun letter =>
        Element.ofEscape [letter] = .code (Element.ofLetter letter)) = true := by decide
    simpa using List.all_eq_true.1 hall letter h
  rw [← hescape, ← elements?_escape hlength]
  rfl

theorem elements?_byte {n : Nat} (h : n < 256) :
    elements? ('\\' :: 'x' :: hexDigits 2 n ++ rest) =
      (elements? rest).map (.byte (UInt8.ofNat n) :: ·) := by
  have hlength : escapeLength? '"' (('x' :: hexDigits 2 n) ++ rest) =
      some ('x' :: hexDigits 2 n).length := by
    simp [escapeLength?, startsWith_hexDigits, length_hexDigits]
  have hescape : Element.ofEscape ('x' :: hexDigits 2 n) = .byte (UInt8.ofNat n) := by
    rw [Element.ofEscape, hexValue_hexDigits h]
  rw [← hescape]
  exact elements?_escape hlength

theorem elements?_code (h : c.toNat < 65536) :
    elements? ('\\' :: 'u' :: hexDigits 4 c.toNat ++ rest) =
      (elements? rest).map (.code c :: ·) := by
  have htake : (hexDigits 4 c.toNat ++ rest).take 4 = hexDigits 4 c.toNat :=
    List.take_left' (length_hexDigits 4 c.toNat)
  have hvalid : (hexValue (hexDigits 4 c.toNat)).isValidChar := by
    rw [hexValue_hexDigits h]
    exact c.valid
  have hlength : escapeLength? '"' (('u' :: hexDigits 4 c.toNat) ++ rest) =
      some ('u' :: hexDigits 4 c.toNat).length := by
    simp [escapeLength?, startsWith_hexDigits, length_hexDigits, htake, hvalid]
  have hescape : Element.ofEscape ('u' :: hexDigits 4 c.toNat) = .code c := by
    rw [Element.ofEscape, hexValue_hexDigits h, Char.ofNat_toNat]
  rw [← hescape]
  exact elements?_escape hlength

/-- An ASCII character is one byte in UTF-8. -/
theorem utf8EncodeChar_ascii (h : c.toNat < 128) :
    String.utf8EncodeChar c = [UInt8.ofNat c.toNat] := by
  have hsize : c.utf8Size = 1 := by
    rw [Char.utf8Size_eq_one_iff, UInt32.le_iff_toNat_le]
    exact Nat.le_of_lt_succ h
  rw [String.utf8EncodeChar_eq_singleton hsize]
  rfl

/-- The element is no character that would have to be escaped. -/
def Element.Fit (element : Element) : Prop :=
  ∀ c, element = .plain c → c ≠ '"' ∧ c ≠ '\\' ∧ isControl c = false

theorem Element.Fit.code (c : Char) : (Element.code c).Fit := by
  intro d h
  cases h

theorem Element.Fit.byte (value : UInt8) : (Element.byte value).Fit := by
  intro d h
  cases h

/-- A character of a quoted text is one element, which stands for it. -/
theorem exists_element (c : Char) : ∃ element : Element,
    element.bytes = String.utf8EncodeChar c ∧ element.Fit ∧
      ∀ rest, elements? (escape c ++ rest) = (elements? rest).map (element :: ·) := by
  rw [escape.eq_def]
  split
  case h_6 hquote hslash hbreak _ _ =>
    split
    · next hcontrol =>
      split
      · next hascii =>
        exact ⟨.byte (UInt8.ofNat c.toNat), (utf8EncodeChar_ascii hascii).symm, .byte _,
          fun rest => elements?_byte (by omega)⟩
      · next hascii =>
        -- control characters end below U+00A0, so four digits are enough
        have hrange : c.toNat < 65536 := by
          simp only [isControl, Bool.or_eq_true, Bool.and_eq_true, decide_eq_true_eq] at hcontrol
          omega
        exact ⟨.code c, rfl, .code c, fun rest => elements?_code hrange⟩
    · next hcontrol =>
      refine ⟨.plain c, rfl, ?_, fun rest => elements?_plain hslash hquote hbreak⟩
      rintro d heq
      cases heq
      exact ⟨hquote, hslash, by simpa using hcontrol⟩
  all_goals exact ⟨.code _, rfl, .code _, fun rest => elements?_letter (by decide)⟩

theorem exists_elements (chars : List Char) : ∃ elements,
    elements? (chars.flatMap escape ++ ['"']) = some elements ∧
      (∀ element ∈ elements, element.Fit) ∧
      elements.flatMap Element.bytes = chars.flatMap String.utf8EncodeChar := by
  induction chars with
  | nil => exact ⟨[], by simp [elements?], by simp, rfl⟩
  | cons c chars ih =>
    obtain ⟨elements, helements, hfit, hbytes⟩ := ih
    obtain ⟨element, hbytes', hfit', hread⟩ := exists_element c
    refine ⟨element :: elements, ?_, List.forall_mem_cons.2 ⟨hfit', hfit⟩, ?_⟩
    · rw [List.flatMap_cons, List.append_assoc, hread, helements, Option.map_some]
    · rw [List.flatMap_cons, List.flatMap_cons, hbytes', hbytes]

/-- Control characters are not written as they are. -/
theorem isControl_of_mem_escape {d : Char} (h : d ∈ escape c) : isControl d = false := by
  rw [escape.eq_def] at h
  split at h
  case h_6 =>
    split at h
    · split at h <;> simp only [List.mem_cons] at h <;> rcases h with rfl | rfl | h
      · rfl
      · rfl
      · exact isControl_of_mem_hexDigits h
      · rfl
      · rfl
      · exact isControl_of_mem_hexDigits h
    · next hcontrol =>
      rw [List.mem_singleton.1 h]
      simpa using hcontrol
  all_goals
    simp only [List.mem_cons, List.not_mem_nil, or_false] at h
    rcases h with rfl | rfl <;> rfl

/-! ## Values -/

/-- The bytes that a literal denotes, if it is one. -/
def value? (literal : String) : Option ByteArray :=
  match literal.toList with
  | '"' :: text => (elements? text).map fun elements =>
      (elements.flatMap Element.bytes).toByteArray
  | _ => none

theorem toList_quote (text : String) :
    (quote text).toList = '"' :: (text.toList.flatMap escape ++ ['"']) := by
  simp [quote]

theorem value?_quote (text : String) : value? (quote text) = some text.toUTF8 := by
  obtain ⟨elements, helements, -, hbytes⟩ := exists_elements text.toList
  simp only [value?, toList_quote, helements, Option.map_some, hbytes]
  rw [← List.utf8Encode, String.utf8Encode_toList, String.toUTF8_eq_toByteArray]

theorem quote_injective : Function.Injective quote := by
  intro text text' h
  have hvalue : some text.toUTF8 = some text'.toUTF8 := by
    rw [← value?_quote, ← value?_quote, h]
  exact String.toByteArray_inj.1 (Option.some.inj hvalue)

/-- A quoted text is a string literal on one line, in which quotes, backslashes and control
characters stand only as escapes. It denotes the text in UTF-8, so different texts have different
literals. -/
theorem quote_denotes :
    (∀ text : String,
      value? (quote text) = some text.toUTF8 ∧ isString (quote text).toList = true ∧
      (∀ c ∈ (quote text).toList, isControl c = false) ∧
      ∃ body elements, (quote text).toList = '"' :: (body ++ ['"']) ∧
        elements? (body ++ ['"']) = some elements ∧
        ∀ c, .plain c ∈ elements → c ≠ '"' ∧ c ≠ '\\' ∧ isControl c = false) ∧
    Function.Injective quote := by
  refine ⟨fun text => ?_, quote_injective⟩
  obtain ⟨elements, helements, hfit, -⟩ := exists_elements text.toList
  refine ⟨value?_quote text, ?_, ?_, ?_⟩
  · rw [toList_quote]
    exact isString_of_elements? helements
  · rw [toList_quote]
    intro c hc
    simp only [List.mem_cons, List.mem_append, List.mem_flatMap, List.not_mem_nil, or_false] at hc
    rcases hc with rfl | ⟨d, -, hc⟩ | rfl
    · rfl
    · exact isControl_of_mem_escape hc
    · rfl
  · exact ⟨_, elements, toList_quote text, helements, fun c hc => hfit _ hc c rfl⟩

/-- Digits of the text that stand after an escape are not read with it. -/
theorem quote_denotes_digits :
    '\\' ∈ (quote "\x1bff").toList ∧ isControl '\\' = false ∧
    value? (quote "\x1bff") = some ⟨#[0x1b, 0x66, 0x66]⟩ ∧
    ∃ body elements, (quote "\x1bff").toList = '"' :: (body ++ ['"']) ∧
      elements? (body ++ ['"']) = some elements ∧ elements = [.byte 0x1b, .plain 'f', .plain 'f'] ∧
      'f' ≠ '"' ∧ 'f' ≠ '\\' ∧ isControl 'f' = false := by
  obtain ⟨hvalue, -, hcontrol, body, elements, hbody, helements, hfit⟩ :=
    quote_denotes.1 "\x1bff"
  have hread : elements = [.byte 0x1b, .plain 'f', .plain 'f'] := by
    have hquote : (quote "\x1bff").toList =
        '"' :: ('\\' :: 'x' :: hexDigits 2 0x1b ++ ['f', 'f', '"']) := by decide
    have hlist := (List.cons.inj (hbody.symm.trans hquote)).2
    rw [hlist, elements?_byte (by decide), elements?_plain (by decide) (by decide) (by decide),
      elements?_plain (by decide) (by decide) (by decide)] at helements
    simpa [elements?] using helements.symm
  exact ⟨by decide, hcontrol '\\' (by decide), hvalue.trans (by decide), body, elements, hbody,
    helements, hread, hfit 'f' (by simp [hread])⟩

end GoProbe.Literal
