import Mathlib
import GoProbe.Proofs.Grammar

/-!
# The tokens of a text

How a Go text falls into tokens. The rules are those of the language:

* A word is a letter and then letters and digits; the keywords are words. Which characters beyond
  ASCII are letters and digits is left to an `Alphabet`, so that what is proved holds for all
  versions of Unicode.
* The grammar of numbers is a regular expression.
* Strings and runes end at the first quote that no backslash precedes, raw strings at the first
  backquote. All escapes have to be legal.
* Operators are listed. A comment is no token.

The next lexeme of a text is the longest one that the text starts with (`longest?`), and a text is
split by taking lexeme after lexeme, with white space and comments left out (`split`).

A lexeme ends before a character if no lexeme goes on with it (`Stops`). A token that ends before
the rest of the text is the next one (`split_append`), so all that has to be known of a text is
which characters follow its tokens.
-/

namespace GoProbe.Lexical

/-! ## Numbers -/

abbrev Regex := RegularExpression Char

def oneOf (chars : String) : Regex :=
  chars.toList.foldr (fun c regex => .char c + regex) 0

def optional (regex : Regex) : Regex := 1 + regex

/-- Digits, with an underscore between two of them or not. -/
def digits (digit : Regex) : Regex :=
  digit * .star (optional (.char '_') * digit)

def decimalDigits : Regex := digits (oneOf "0123456789")
def binaryDigits : Regex := digits (oneOf "01")
def octalDigits : Regex := digits (oneOf "01234567")
def hexDigits : Regex := digits (oneOf "0123456789abcdefABCDEF")

def decimalInt : Regex :=
  .char '0' + oneOf "123456789" * optional (optional (.char '_') * decimalDigits)

def binaryInt : Regex := .char '0' * oneOf "bB" * optional (.char '_') * binaryDigits

def octalInt : Regex := .char '0' * optional (oneOf "oO") * optional (.char '_') * octalDigits

def hexInt : Regex := .char '0' * oneOf "xX" * optional (.char '_') * hexDigits

def intNumber : Regex := decimalInt + binaryInt + octalInt + hexInt

def decimalExponent : Regex := oneOf "eE" * optional (oneOf "+-") * decimalDigits

def decimalFloat : Regex :=
  decimalDigits * .char '.' * optional decimalDigits * optional decimalExponent +
    decimalDigits * decimalExponent + .char '.' * decimalDigits * optional decimalExponent

def hexMantissa : Regex :=
  optional (.char '_') * hexDigits * .char '.' * optional hexDigits +
    optional (.char '_') * hexDigits + .char '.' * hexDigits

def hexExponent : Regex := oneOf "pP" * optional (oneOf "+-") * decimalDigits

def hexFloat : Regex := .char '0' * oneOf "xX" * hexMantissa * hexExponent

def floatNumber : Regex := decimalFloat + hexFloat

def imaginaryNumber : Regex := (decimalDigits + intNumber + floatNumber) * .char 'i'

def number : Regex := intNumber + floatNumber + imaginaryNumber

def isNumber (text : List Char) : Bool := number.rmatch text


/-- All characters of the expression satisfy the predicate. -/
def charsIn (p : Char → Bool) : Regex → Bool
  | .zero => true
  | .epsilon => true
  | .char c => p c
  | .plus left right => charsIn p left && charsIn p right
  | .comp left right => charsIn p left && charsIn p right
  | .star regex => charsIn p regex

/-- All characters that what matches can start with satisfy the predicate. -/
def firstsIn (p : Char → Bool) : Regex → Bool
  | .zero => true
  | .epsilon => true
  | .char c => p c
  | .plus left right => firstsIn p left && firstsIn p right
  | .comp left right => firstsIn p left && (!left.matchEpsilon || firstsIn p right)
  | .star regex => firstsIn p regex

variable {p : Char → Bool}

theorem all_of_charsIn {regex : Regex} {text : List Char} (hregex : charsIn p regex = true)
    (h : text ∈ regex.matches') : ∀ c ∈ text, p c = true := by
  induction regex generalizing text with
  | zero => exact absurd h (Language.notMem_zero text)
  | epsilon =>
    obtain rfl : text = [] := h
    exact List.forall_mem_nil _
  | char a =>
    obtain rfl : text = [a] := h
    exact List.forall_mem_singleton.2 hregex
  | plus left right ihl ihr =>
    obtain ⟨hleft, hright⟩ := Bool.and_eq_true_iff.1 hregex
    rcases h with h | h
    · exact ihl hleft h
    · exact ihr hright h
  | comp left right ihl ihr =>
    obtain ⟨hleft, hright⟩ := Bool.and_eq_true_iff.1 hregex
    obtain ⟨front, hfront, back, hback, rfl⟩ := Language.mem_mul.1 h
    exact List.forall_mem_append.2 ⟨ihl hleft hfront, ihr hright hback⟩
  | star regex ih =>
    obtain ⟨parts, rfl, hparts⟩ := Language.mem_kstar.1 h
    intro c hc
    obtain ⟨part, hpart, hc⟩ := List.mem_flatten.1 hc
    exact ih hregex (hparts part hpart) c hc

theorem first_of_firstsIn {regex : Regex} {c : Char} {rest : List Char}
    (hregex : firstsIn p regex = true) (h : c :: rest ∈ regex.matches') : p c = true := by
  induction regex generalizing c rest with
  | zero => exact absurd h (Language.notMem_zero _)
  | epsilon => exact absurd h (List.cons_ne_nil c rest)
  | char a =>
    obtain ⟨rfl, -⟩ := List.cons.inj (show c :: rest = [a] from h)
    exact hregex
  | plus left right ihl ihr =>
    obtain ⟨hleft, hright⟩ := Bool.and_eq_true_iff.1 hregex
    rcases h with h | h
    · exact ihl hleft h
    · exact ihr hright h
  | comp left right ihl ihr =>
    obtain ⟨hleft, hright⟩ := Bool.and_eq_true_iff.1 hregex
    obtain ⟨front, hfront, back, hback, hsplit⟩ := Language.mem_mul.1 h
    cases front with
    | nil =>
      -- nothing of the left part is used, so it matches the empty text
      have hepsilon : left.matchEpsilon = true := by
        rw [← RegularExpression.rmatch_iff_matches'] at hfront
        exact hfront
      rw [List.nil_append] at hsplit
      rw [hepsilon, Bool.not_true, Bool.false_or] at hright
      exact ihr hright (hsplit ▸ hback)
    | cons a front =>
      obtain ⟨rfl, -⟩ := List.cons.inj hsplit
      exact ihl hleft hfront
  | star regex ih =>
    obtain ⟨parts, hparts, hall⟩ := Language.mem_kstar_iff_exists_nonempty.1 h
    cases parts with
    | nil => exact absurd hparts (List.cons_ne_nil c rest)
    | cons part parts =>
      obtain ⟨hpart, hne⟩ := hall part List.mem_cons_self
      obtain ⟨a, tail, rfl⟩ := List.exists_cons_of_ne_nil hne
      obtain ⟨rfl, -⟩ := List.cons.inj hparts
      exact ih hregex hpart

theorem mem_matches_of_isNumber {text : List Char} (h : isNumber text = true) :
    text ∈ number.matches' :=
  (RegularExpression.rmatch_iff_matches' number text).1 h

theorem isNumber_nil : isNumber [] = false := by decide

theorem digit_or_dot_of_isNumber {c : Char} {rest : List Char}
    (h : isNumber (c :: rest) = true) : c.isDigit = true ∨ c = '.' := by
  have hfirsts : firstsIn (fun c => c.isDigit || c == '.') number = true := by decide
  simpa using first_of_firstsIn hfirsts (mem_matches_of_isNumber h)

/-- A point does not make a number: a digit has to follow. -/
theorem isDigit_of_isNumber_dot {rest : List Char} (h : isNumber ('.' :: rest) = true) :
    ∃ c more, rest = c :: more ∧ c.isDigit = true := by
  have hderiv : (number.deriv '.').rmatch rest = true := h
  cases rest with
  | nil =>
    have hempty : (number.deriv '.').matchEpsilon = false := by decide
    exact absurd (hempty.symm.trans hderiv) Bool.false_ne_true
  | cons c more =>
    have hfirsts : firstsIn Char.isDigit (number.deriv '.') = true := by decide
    have hmatch := (RegularExpression.rmatch_iff_matches' _ _).1 hderiv
    exact ⟨c, more, rfl, first_of_firstsIn hfirsts hmatch⟩

theorem char_of_isNumber {text : List Char} (h : isNumber text = true) :
    ∀ c ∈ text, c.isAlphanum = true ∨ c ∈ ['_', '.', '+', '-'] := by
  have hchars :
      charsIn (fun c => c.isAlphanum || ['_', '.', '+', '-'].contains c) number = true := by
    decide
  intro c hc
  simpa using all_of_charsIn hchars (mem_matches_of_isNumber h) c hc

/-! ## Quoted texts -/

def isHexDigit (c : Char) : Bool :=
  c.isDigit || ('a' ≤ c && c ≤ 'f') || ('A' ≤ c && c ≤ 'F')

def isOctalDigit (c : Char) : Bool := '0' ≤ c && c ≤ '7'

def hexValue (text : List Char) : Nat :=
  text.foldl (fun value c =>
    16 * value + if c.isDigit then c.toNat - '0'.toNat else c.toLower.toNat - 'a'.toNat + 10) 0

/-- Whether the text starts with `count` characters of a class. -/
def startsWith (count : Nat) (accepts : Char → Bool) (text : List Char) : Bool :=
  count ≤ text.length && (text.take count).all accepts

/-- How long the escape is that follows a backslash. -/
def escapeLength? (quote : Char) : List Char → Option Nat
  | [] => none
  | c :: rest =>
    if ['a', 'b', 'f', 'n', 'r', 't', 'v', '\\', quote].contains c then some 1
    else if c == 'x' && startsWith 2 isHexDigit rest then some 3
    else if c == 'u' && startsWith 4 isHexDigit rest && (hexValue (rest.take 4)).isValidChar then
      some 5
    else if c == 'U' && startsWith 8 isHexDigit rest && (hexValue (rest.take 8)).isValidChar then
      some 9
    -- three octal digits are a byte
    else if '0' ≤ c && c ≤ '3' && startsWith 2 isOctalDigit rest then some 3
    else none

/-- What follows an opening quote, up to and with the closing one. -/
def isQuoted (quote : Char) : List Char → Bool
  | [] => false
  | [c] => c == quote
  | c :: d :: rest =>
    if c == '\\' then (escapeLength? quote (d :: rest)).isSome && isQuoted quote rest
    else c != quote && c != '\n' && isQuoted quote (d :: rest)

/-- What follows an opening backquote, up to and with the closing one. -/
def isRaw : List Char → Bool
  | [] => false
  | [c] => c == '\x60'
  | c :: rest => c != '\x60' && isRaw rest

/-- One character or one escape, and a quote. -/
def isSingle : List Char → Bool
  | '\\' :: rest => escapeLength? '\x27' rest == some (rest.length - 1)
  | text => text.length == 2

def isString : List Char → Bool
  | '"' :: rest => isQuoted '"' rest
  | _ => false

def isRawString : List Char → Bool
  | '\x60' :: rest => isRaw rest
  | _ => false

def isRune : List Char → Bool
  | '\x27' :: rest => isQuoted '\x27' rest && isSingle rest
  | _ => false

def isLiteral (text : List Char) : Bool :=
  isNumber text || isString text || isRawString text || isRune text

/-- Nothing can follow the closing quote. -/
theorem isQuoted_append {quote : Char} (hquote : quote ≠ '\\') {text more : List Char} {c : Char}
    (h : isQuoted quote text = true) : isQuoted quote (text ++ c :: more) = false := by
  fun_induction isQuoted quote text with
  | case1 => exact absurd h Bool.false_ne_true
  | case2 d =>
    obtain rfl : d = quote := by simpa using h
    simp [isQuoted, hquote]
  | case3 d e rest hd ih =>
    rw [Bool.and_eq_true] at h
    simp only [List.cons_append, isQuoted, hd, if_true, ih h.2, Bool.and_false]
  | case4 d e rest hd ih =>
    rw [Bool.and_eq_true] at h
    simp only [List.cons_append] at ih ⊢
    rw [isQuoted, if_neg hd, ih h.2, Bool.and_false]

theorem isRaw_append {text more : List Char} {c : Char} (h : isRaw text = true) :
    isRaw (text ++ c :: more) = false := by
  fun_induction isRaw text with
  | case1 => exact absurd h Bool.false_ne_true
  | case2 d =>
    obtain rfl : d = '\x60' := by simpa using h
    rfl
  | case3 d rest hrest ih =>
    rw [Bool.and_eq_true] at h
    obtain ⟨e, rest, rfl⟩ := List.exists_cons_of_ne_nil hrest
    simp only [List.cons_append] at ih ⊢
    rw [isRaw, ih h.2, Bool.and_false]
    simp

/-! ## Operators, keywords and comments -/

def operators : List (List Char) :=
  [['+'], ['&'], ['+', '='], ['&', '='], ['&', '&'], ['=', '='], ['!', '='], ['('], [')'],
    ['-'], ['|'], ['-', '='], ['|', '='], ['|', '|'], ['<'], ['<', '='], ['['], [']'],
    ['*'], ['^'], ['*', '='], ['^', '='], ['<', '-'], ['>'], ['>', '='], ['{'], ['}'],
    ['/'], ['<', '<'], ['/', '='], ['<', '<', '='], ['+', '+'], ['='], [':', '='], [','], [';'],
    ['%'], ['>', '>'], ['%', '='], ['>', '>', '='], ['-', '-'], ['!'], ['.', '.', '.'], ['.'],
    [':'], ['&', '^'], ['&', '^', '='], ['~']]

def keywords : List (List Char) :=
  ["break", "case", "chan", "const", "continue", "default", "defer", "else", "fallthrough", "for",
    "func", "go", "goto", "if", "import", "interface", "map", "package", "range", "return",
    "select", "struct", "switch", "type", "var"].map String.toList

/-- What follows the opening of a comment, up to and with its end if it has one. -/
def isCommentBody : List Char → Bool
  | [] => true
  | '*' :: '/' :: rest => rest.isEmpty
  | _ :: rest => isCommentBody rest

/-- A comment to the end of the line, or one between delimiters. The latter may lack its end. -/
def isComment : List Char → Bool
  | '/' :: '/' :: rest => rest.all (· != '\n')
  | '/' :: '*' :: rest => isCommentBody rest
  | _ => false

/-- A comment between delimiters that is still open where the text ends. -/
def isOpenComment : List Char → Bool
  | '/' :: '*' :: rest => !List.isSuffixOf ['*', '/'] rest
  | _ => false

def isSpace (c : Char) : Bool := [' ', '\t', '\r', '\n'].contains c

/-! ## First characters -/

variable {c : Char} {text rest more : List Char}

/-- An ASCII character that is neither letter nor digit. -/
def isMark (c : Char) : Bool := c.toNat < 128 && !c.isAlphanum && c != '_'

theorem isMark_of_isDigit (h : c.isDigit = true) : isMark c = false := by
  simp [isMark, Char.isAlphanum, h]

theorem eq_of_isString (h : isString (c :: rest) = true) : c = '"' := by
  unfold isString at h
  split at h
  · simp_all
  · exact absurd h Bool.false_ne_true

theorem eq_of_isRawString (h : isRawString (c :: rest) = true) : c = '\x60' := by
  unfold isRawString at h
  split at h
  · simp_all
  · exact absurd h Bool.false_ne_true

theorem eq_of_isRune (h : isRune (c :: rest) = true) : c = '\x27' := by
  unfold isRune at h
  split at h
  · simp_all
  · exact absurd h Bool.false_ne_true

theorem opening_of_isComment (h : isComment text = true) :
    ∃ c more, text = '/' :: c :: more ∧ c ∈ ['/', '*'] := by
  unfold isComment at h
  split at h
  · exact ⟨_, _, rfl, by decide⟩
  · exact ⟨_, _, rfl, by decide⟩
  · exact absurd h Bool.false_ne_true

theorem eq_of_isComment (h : isComment (c :: rest) = true) : c = '/' := by
  obtain ⟨d, more, heq, -⟩ := opening_of_isComment h
  exact (List.cons.inj heq).1

theorem char_of_mem_operators (h : text ∈ operators) :
    ∀ c ∈ text, isMark c = true ∧ isSpace c = false ∧ c ∉ ['"', '\x60', '\x27'] := by
  have hall : operators.all (fun op => op.all fun c =>
      isMark c = true ∧ isSpace c = false ∧ c ∉ ['"', '\x60', '\x27']) = true := by
    decide
  intro c hc
  exact of_decide_eq_true (List.all_eq_true.1 (List.all_eq_true.1 hall text h) c hc)

/-- Only the first character of an operator is one that opens comments. -/
theorem tail_of_mem_operators (h : text ∈ operators) : ∀ c ∈ text.tail, c ∉ ['/', '*'] := by
  have hall : operators.all (fun op => op.tail.all fun c => c ∉ ['/', '*']) = true := by decide
  intro c hc
  exact of_decide_eq_true (List.all_eq_true.1 (List.all_eq_true.1 hall text h) c hc)

theorem isMark_of_mem_operators (h : c :: rest ∈ operators) : isMark c = true :=
  (char_of_mem_operators h c List.mem_cons_self).1

/-- The characters with which an operator goes on as a longer operator. -/
def followers (text : List Char) : List Char :=
  operators.filterMap fun op => if text.isPrefixOf op then (op.drop text.length).head? else none

/-- The character, written after the operator, would be read with it. -/
def Sticks (text : List Char) (c : Char) : Prop :=
  c ∈ followers text ∨ (text = ['.'] ∧ c.isDigit = true) ∨ (text = ['/'] ∧ c ∈ ['/', '*'])

theorem mem_followers (h : text ++ c :: more ∈ operators) : c ∈ followers text :=
  List.mem_filterMap.2 ⟨_, h, by simp⟩

theorem not_sticks {allowed : List Char} (hfollowers : followers text = allowed)
    (hdot : text ≠ ['.']) (hslash : text ≠ ['/']) (hc : c ∉ allowed) : ¬ Sticks text c := by
  rintro (h | h | h)
  · exact hc (hfollowers ▸ h)
  · exact hdot h.1
  · exact hslash h.1

/-- An operator is the start of a number only if it is the point. -/
theorem isDigit_of_isNumber_append (htext : text ∈ operators)
    (h : isNumber (text ++ c :: more) = true) : text = ['.'] ∧ c.isDigit = true := by
  cases text with
  | nil => exact absurd htext (by decide)
  | cons first rest =>
    rcases digit_or_dot_of_isNumber h with hfirst | rfl
    · exact absurd (isMark_of_mem_operators htext) (by simp [isMark_of_isDigit hfirst])
    obtain ⟨second, tail, heq, hsecond⟩ := isDigit_of_isNumber_dot h
    cases rest with
    | nil =>
      obtain ⟨rfl, -⟩ := List.cons.inj heq
      exact ⟨rfl, hsecond⟩
    | cons d rest =>
      obtain ⟨rfl, -⟩ := List.cons.inj heq
      have hmark := (char_of_mem_operators htext d (by simp)).1
      exact absurd hmark (by simp [isMark_of_isDigit hsecond])

/-- An operator is the start of a comment only if it is the slash. -/
theorem opening_of_isComment_append (htext : text ∈ operators)
    (h : isComment (text ++ c :: more) = true) : text = ['/'] ∧ c ∈ ['/', '*'] := by
  obtain ⟨d, tail, heq, hd⟩ := opening_of_isComment h
  rcases text with - | ⟨first, - | ⟨second, rest⟩⟩
  · exact absurd htext (by decide)
  · obtain ⟨rfl, hmore⟩ := List.cons.inj heq
    obtain ⟨rfl, -⟩ := List.cons.inj hmore
    exact ⟨rfl, hd⟩
  · obtain ⟨rfl, -⟩ := List.cons.inj (List.cons.inj heq).2
    exact absurd hd (tail_of_mem_operators htext second List.mem_cons_self)

/-! ## Tokens -/

/-- Which characters beyond ASCII are letters and which are digits. -/
structure Alphabet where
  letter : Char → Bool
  digit : Char → Bool

namespace Alphabet

variable (abc : Alphabet)

def isLetter (c : Char) : Bool :=
  if c.toNat < 128 then c.isAlpha || c == '_' else abc.letter c

def isDigit (c : Char) : Bool :=
  if c.toNat < 128 then c.isDigit else abc.digit c

def isWord : List Char → Bool
  | [] => false
  | c :: rest => abc.isLetter c && rest.all fun c => abc.isLetter c || abc.isDigit c

def isName (text : List Char) : Bool := abc.isWord text && !keywords.contains text

/-- The token that the whole text is, if it is one. -/
def token? (text : List Char) : Option Token :=
  if abc.isName text then some (.name (String.ofList text))
  else if isLiteral text then some (.literal (String.ofList text))
  else if operators.contains text || keywords.contains text then some (.ofText (String.ofList text))
  else none

def isLexeme (text : List Char) : Bool := (abc.token? text).isSome || isComment text

/-- The longest lexeme that the text starts with. -/
def longest? (text : List Char) : Option (List Char) :=
  (text.inits.filter abc.isLexeme).getLast?

/-- The tokens of a text, if it consists of tokens, white space and comments. -/
def split : List Char → Option (List Token)
  | [] => some []
  | c :: rest =>
    if isSpace c then split rest
    else
      match abc.longest? (c :: rest) with
      | none => none
      | some lexeme =>
        -- no lexeme is empty, so its first character is `c`
        let more := split (rest.drop (lexeme.length - 1))
        if isComment lexeme then if isOpenComment lexeme then none else more
        else (abc.token? lexeme).bind fun token => more.map (token :: ·)
termination_by text => text.length
decreasing_by all_goals simp_wf

/-! ## How lexemes start -/

variable {abc}

theorem isLetter_of_isMark (h : isMark c = true) : abc.isLetter c = false := by
  simp_all [isMark, isLetter, Char.isAlphanum]

theorem isDigit_of_isMark (h : isMark c = true) : abc.isDigit c = false := by
  simp_all [isMark, isDigit, Char.isAlphanum]

theorem isLetter_of_isDigit (h : c.isDigit = true) : abc.isLetter c = false := by
  have hrange : 48 ≤ c.toNat ∧ c.toNat ≤ 57 := by
    simpa [Char.isDigit, UInt32.le_iff_toNat_le] using h
  have halpha : c.isAlpha = false := by
    rw [Bool.eq_false_iff]
    intro halpha
    have hlarge : 65 ≤ c.toNat := by
      simp only [Char.isAlpha, Char.isUpper, Char.isLower, Bool.or_eq_true, Bool.and_eq_true,
        decide_eq_true_eq, ge_iff_le, UInt32.le_iff_toNat_le] at halpha
      rcases halpha with halpha | halpha
      · exact halpha.1
      · exact Nat.le_trans (by decide) halpha.1
    omega
  have hne : c ≠ '_' := by
    rintro rfl
    exact absurd h (by decide)
  have hascii : c.toNat < 128 := by omega
  simp [isLetter, hascii, halpha, hne]

theorem isLetter_of_isWord (h : abc.isWord (c :: rest) = true) : abc.isLetter c = true :=
  (Bool.and_eq_true_iff.1 h).1

theorem isWord_of_mem_keywords (h : text ∈ keywords) : abc.isWord text = true := by
  have hall : keywords.all (fun word => !word.isEmpty &&
      word.all fun c => c.toNat < 128 && c.isAlpha) = true := by decide
  have hword := List.all_eq_true.1 hall text h
  cases text with
  | nil => exact absurd hword (by decide)
  | cons c rest =>
    have hletter : ∀ d ∈ c :: rest, abc.isLetter d = true := by
      intro d hd
      have := List.all_eq_true.1 (Bool.and_eq_true_iff.1 hword).2 d hd
      simp_all [isLetter]
    simp only [isWord, hletter c List.mem_cons_self, Bool.true_and, List.all_eq_true]
    intro d hd
    rw [hletter d (List.mem_cons_of_mem _ hd), Bool.true_or]

/-- The kinds of tokens. -/
theorem token?_cases (h : (abc.token? text).isSome = true) :
    abc.isWord text = true ∨ isNumber text = true ∨ isString text = true ∨
      isRawString text = true ∨ isRune text = true ∨ text ∈ operators := by
  unfold token? at h
  split at h
  · rename_i hname
    exact .inl (Bool.and_eq_true_iff.1 hname).1
  split at h
  · rename_i hliteral
    simp only [isLiteral, Bool.or_eq_true] at hliteral
    tauto
  split at h
  · rename_i hfixed
    simp only [Bool.or_eq_true, List.contains_iff_mem] at hfixed
    rcases hfixed with hfixed | hfixed
    · tauto
    · exact .inl (isWord_of_mem_keywords hfixed)
  · exact absurd h Bool.false_ne_true

theorem isLexeme_cases (h : abc.isLexeme text = true) :
    abc.isWord text = true ∨ isNumber text = true ∨ isString text = true ∨
      isRawString text = true ∨ isRune text = true ∨ text ∈ operators ∨ isComment text = true := by
  rcases Bool.or_eq_true_iff.1 h with h | h
  · have := token?_cases h
    tauto
  · tauto

/-- A lexeme that starts with no mark. -/
theorem isLexeme_of_not_isMark (hc : isMark c = false) (h : abc.isLexeme (c :: rest) = true) :
    abc.isWord (c :: rest) = true ∨ isNumber (c :: rest) = true := by
  have hne : ∀ d, isMark d = true → c ≠ d := by
    rintro d hd rfl
    exact absurd (hc.symm.trans hd) Bool.false_ne_true
  rcases isLexeme_cases h with h | h | h | h | h | h | h
  · exact .inl h
  · exact .inr h
  · exact absurd (eq_of_isString h) (hne '"' (by decide))
  · exact absurd (eq_of_isRawString h) (hne '\x60' (by decide))
  · exact absurd (eq_of_isRune h) (hne '\x27' (by decide))
  · exact absurd rfl (hne c (isMark_of_mem_operators h))
  · exact absurd (eq_of_isComment h) (hne '/' (by decide))

theorem isWord_of_isLexeme (hc : abc.isLetter c = true) (h : abc.isLexeme (c :: rest) = true) :
    abc.isWord (c :: rest) = true := by
  have hmark : isMark c = false := by
    rw [Bool.eq_false_iff]
    intro hmark
    exact absurd ((isLetter_of_isMark hmark).symm.trans hc) Bool.false_ne_true
  rcases isLexeme_of_not_isMark hmark h with h | h
  · exact h
  · rcases digit_or_dot_of_isNumber h with hdigit | rfl
    · exact absurd ((isLetter_of_isDigit hdigit).symm.trans hc) Bool.false_ne_true
    · exact absurd hc Bool.false_ne_true

theorem isNumber_of_isLexeme (hc : c.isDigit = true) (h : abc.isLexeme (c :: rest) = true) :
    isNumber (c :: rest) = true := by
  rcases isLexeme_of_not_isMark (isMark_of_isDigit hc) h with h | h
  · exact absurd ((isLetter_of_isDigit hc).symm.trans (isLetter_of_isWord h)) Bool.false_ne_true
  · exact h

/-- A lexeme that starts with a mark. -/
theorem isLexeme_of_isMark (hc : isMark c = true) (h : abc.isLexeme (c :: rest) = true) :
    (c = '.' ∧ isNumber (c :: rest) = true) ∨ (c = '"' ∧ isString (c :: rest) = true) ∨
      (c = '\x60' ∧ isRawString (c :: rest) = true) ∨ (c = '\x27' ∧ isRune (c :: rest) = true) ∨
      c :: rest ∈ operators ∨ isComment (c :: rest) = true := by
  rcases isLexeme_cases h with h | h | h | h | h | h | h
  · exact absurd ((isLetter_of_isMark hc).symm.trans (isLetter_of_isWord h)) Bool.false_ne_true
  · rcases digit_or_dot_of_isNumber h with hdigit | hdot
    · exact absurd ((isMark_of_isDigit hdigit).symm.trans hc) Bool.false_ne_true
    · exact .inl ⟨hdot, h⟩
  · exact .inr (.inl ⟨eq_of_isString h, h⟩)
  · exact .inr (.inr (.inl ⟨eq_of_isRawString h, h⟩))
  · exact .inr (.inr (.inr (.inl ⟨eq_of_isRune h, h⟩)))
  · exact .inr (.inr (.inr (.inr (.inl h))))
  · exact .inr (.inr (.inr (.inr (.inr h))))

/-! ## Where lexemes end -/

variable {token : List Char}

variable (abc) in
/-- No lexeme starts with the text and goes on with the character. -/
def Stops (text : List Char) (c : Char) : Prop :=
  ∀ more, abc.isLexeme (text ++ c :: more) = false

theorem stops_of_isWord (htext : abc.isWord text = true) (hletter : abc.isLetter c = false)
    (hdigit : abc.isDigit c = false) : abc.Stops text c := by
  intro more
  cases text with
  | nil => exact absurd htext Bool.false_ne_true
  | cons first rest =>
    rw [Bool.eq_false_iff]
    intro hlexeme
    have hword := isWord_of_isLexeme (isLetter_of_isWord htext) hlexeme
    have hall := (Bool.and_eq_true_iff.1 hword).2
    have hc := List.all_eq_true.1 hall c (List.mem_append_right rest List.mem_cons_self)
    simp [hletter, hdigit] at hc

theorem stops_of_isNumber (htext : isNumber text = true) (hc : isMark c = true)
    (hdot : c ∉ ['.', '+', '-']) : abc.Stops text c := by
  intro more
  cases text with
  | nil => exact absurd htext (isNumber_nil ▸ Bool.false_ne_true)
  | cons first rest =>
    rw [Bool.eq_false_iff]
    intro hlexeme
    -- a point could also start an operator, but no operator has the digit after it
    have hnumber : isNumber (first :: rest ++ c :: more) = true := by
      rcases digit_or_dot_of_isNumber htext with hfirst | rfl
      · exact isNumber_of_isLexeme hfirst hlexeme
      · obtain ⟨second, rest, rfl, hsecond⟩ := isDigit_of_isNumber_dot htext
        rcases isLexeme_of_isMark (by decide) hlexeme with h | h | h | h | h | h
        · exact h.2
        · exact absurd h.1 (by decide)
        · exact absurd h.1 (by decide)
        · exact absurd h.1 (by decide)
        · have hmark := (char_of_mem_operators h second (by simp)).1
          exact absurd hmark (by simp [isMark_of_isDigit hsecond])
        · exact absurd (eq_of_isComment h) (by decide)
    have := char_of_isNumber hnumber c (List.mem_append_right _ List.mem_cons_self)
    simp_all [isMark]

/-- Nothing can be added to a string or rune. -/
theorem stops_of_quoted
    (htext : isString text = true ∨ isRawString text = true ∨ isRune text = true) :
    abc.Stops text c := by
  intro more
  rw [Bool.eq_false_iff]
  intro hlexeme
  cases text with
  | nil => rcases htext with h | h | h <;> exact absurd h Bool.false_ne_true
  | cons quote rest =>
    have hquote : quote ∈ ['"', '\x60', '\x27'] := by
      rcases htext with h | h | h
      · simp [eq_of_isString h]
      · simp [eq_of_isRawString h]
      · simp [eq_of_isRune h]
    have hmark : isMark quote = true :=
      List.all_eq_true.1 (show ['"', '\x60', '\x27'].all isMark = true by decide) quote hquote
    rcases isLexeme_of_isMark hmark hlexeme with h | h | h | h | h | h
    · exact absurd (h.1 ▸ hquote) (by decide)
    · obtain ⟨rfl, h⟩ := h
      have hclosed : isQuoted '"' rest = true := by
        simpa [isString, isRawString, isRune] using htext
      exact absurd h (by simp [isString, isQuoted_append (by decide) hclosed])
    · obtain ⟨rfl, h⟩ := h
      have hclosed : isRaw rest = true := by simpa [isString, isRawString, isRune] using htext
      exact absurd h (by simp [isRawString, isRaw_append hclosed])
    · obtain ⟨rfl, h⟩ := h
      have hclosed : isQuoted '\x27' rest = true := by
        have : isRune ('\x27' :: rest) = true := by simpa [isString, isRawString] using htext
        exact (Bool.and_eq_true_iff.1 this).1
      exact absurd h (by simp [isRune, isQuoted_append (by decide) hclosed])
    · exact (char_of_mem_operators h quote List.mem_cons_self).2.2 hquote
    · exact absurd (eq_of_isComment h ▸ hquote) (by decide)

theorem stops_of_mem_operators (htext : text ∈ operators) (hc : ¬ Sticks text c) :
    abc.Stops text c := by
  intro more
  rw [Bool.eq_false_iff]
  intro hlexeme
  apply hc
  cases text with
  | nil => exact absurd htext (by decide)
  | cons first rest =>
    obtain ⟨hmark, -, hquote⟩ := char_of_mem_operators htext first List.mem_cons_self
    rcases isLexeme_of_isMark hmark hlexeme with h | h | h | h | h | h
    · exact .inr (.inl (isDigit_of_isNumber_append htext h.2))
    · exact absurd (by simp [h.1]) hquote
    · exact absurd (by simp [h.1]) hquote
    · exact absurd (by simp [h.1]) hquote
    · have hlonger : (first :: rest) ++ c :: more ∈ operators := h
      exact .inl (mem_followers hlonger)
    · exact .inr (.inr (opening_of_isComment_append htext h))

/-! ## Texts that are tokens -/

theorem token?_of_isName (h : abc.isName text = true) :
    abc.token? text = some (.name (String.ofList text)) :=
  if_pos h

theorem isName_eq_false (htext : ∀ c ∈ text.head?, abc.isLetter c = false) :
    abc.isName text = false := by
  cases text with
  | nil => rfl
  | cons c rest => simp [isName, isWord, htext c rfl]

theorem token?_of_isLiteral (h : isLiteral text = true) :
    abc.token? text = some (.literal (String.ofList text)) := by
  have hname : abc.isName text = false := by
    apply isName_eq_false
    intro c hc
    obtain ⟨rest, rfl⟩ := List.head?_eq_some_iff.1 hc
    simp only [isLiteral, Bool.or_eq_true] at h
    rcases h with ((h | h) | h) | h
    · rcases digit_or_dot_of_isNumber h with h | rfl
      · exact isLetter_of_isDigit h
      · rfl
    · rw [eq_of_isString h]; rfl
    · rw [eq_of_isRawString h]; rfl
    · rw [eq_of_isRune h]; rfl
  rw [token?, if_neg (by simp [hname]), if_pos h]

theorem token?_of_mem_operators (h : text ∈ operators) :
    abc.token? text = some (.ofText (String.ofList text)) := by
  have hname : abc.isName text = false := by
    apply isName_eq_false
    intro c hc
    exact isLetter_of_isMark (char_of_mem_operators h c (List.mem_of_head? hc)).1
  have hall : operators.all (fun op => !isLiteral op) = true := by decide
  have hliteral : isLiteral text = false := by simpa using List.all_eq_true.1 hall text h
  rw [token?, if_neg (by simp [hname]), if_neg (by simp [hliteral]), if_pos (by simp [h])]

/-! ## Taking the next token -/

variable (abc) in
/-- The text is empty, or its first character belongs to no lexeme that starts with the token. -/
def StopsBefore (token rest : List Char) : Prop := ∀ c ∈ rest.head?, abc.Stops token c

theorem exists_inits_eq_concat (text : List Char) : ∃ shorter, text.inits = shorter ++ [text] := by
  induction text with
  | nil => exact ⟨[], rfl⟩
  | cons c text ih =>
    obtain ⟨shorter, hshorter⟩ := ih
    exact ⟨[] :: shorter.map (c :: ·), by simp [hshorter]⟩

theorem longest?_append (htoken : abc.isLexeme token = true) (hrest : abc.StopsBefore token rest) :
    abc.longest? (token ++ rest) = some token := by
  -- what is longer goes on with the first character of the rest
  have hlonger : (rest.inits.tail.map (token ++ ·)).filter abc.isLexeme = [] := by
    cases rest with
    | nil => rfl
    | cons c rest =>
      rw [List.filter_eq_nil_iff]
      intro text htext
      obtain ⟨more, -, rfl⟩ : ∃ more ∈ rest.inits, token ++ c :: more = text := by
        simpa using htext
      rw [hrest c rfl more]
      exact Bool.false_ne_true
  obtain ⟨shorter, hshorter⟩ := exists_inits_eq_concat token
  rw [longest?, List.inits_append, List.filter_append, hlonger, hshorter, List.append_nil,
    List.filter_append, List.filter_singleton, htoken]
  simp

theorem isSpace_of_isLexeme (h : abc.isLexeme (c :: rest) = true) : isSpace c = false := by
  rw [Bool.eq_false_iff]
  intro hspace
  have hmem : c ∈ [' ', '\t', '\r', '\n'] := List.contains_iff_mem.1 hspace
  have hmark : isMark c = true :=
    List.all_eq_true.1 (show [' ', '\t', '\r', '\n'].all isMark = true by decide) c hmem
  rcases isLexeme_of_isMark hmark h with h | h | h | h | h | h
  · exact absurd (h.1 ▸ hmem) (by decide)
  · exact absurd (h.1 ▸ hmem) (by decide)
  · exact absurd (h.1 ▸ hmem) (by decide)
  · exact absurd (h.1 ▸ hmem) (by decide)
  · have hspace' := (char_of_mem_operators h c List.mem_cons_self).2.1
    exact absurd (hspace'.symm.trans hspace) Bool.false_ne_true
  · exact absurd (eq_of_isComment h ▸ hmem) (by decide)

theorem isComment_of_token? (h : (abc.token? text).isSome = true) : isComment text = false := by
  rw [Bool.eq_false_iff]
  intro hcomment
  obtain ⟨c, more, rfl, hc⟩ := opening_of_isComment hcomment
  rcases token?_cases h with h | h | h | h | h | h
  · exact absurd (isLetter_of_isWord h) Bool.false_ne_true
  · exact absurd (digit_or_dot_of_isNumber h) (by decide)
  · exact absurd (eq_of_isString h) (by decide)
  · exact absurd (eq_of_isRawString h) (by decide)
  · exact absurd (eq_of_isRune h) (by decide)
  · exact tail_of_mem_operators h c List.mem_cons_self hc

theorem isLexeme_nil : abc.isLexeme [] = false := by
  rw [Bool.eq_false_iff]
  intro h
  rcases isLexeme_cases h with h | h | h | h | h | h | h
  · exact absurd h Bool.false_ne_true
  · exact absurd (isNumber_nil.symm.trans h) Bool.false_ne_true
  · exact absurd h Bool.false_ne_true
  · exact absurd h Bool.false_ne_true
  · exact absurd h Bool.false_ne_true
  · exact absurd h (by decide)
  · exact absurd h Bool.false_ne_true

@[simp] theorem split_nil : abc.split [] = some [] := by
  rw [split]

@[simp] theorem split_blank : abc.split (' ' :: rest) = abc.split rest := by
  rw [split, if_pos (by decide)]

/-- A token that stops before the rest of the text is the first one. -/
theorem split_append {t : Token} {tokens : List Token} (htoken : abc.token? token = some t)
    (hrest : abc.StopsBefore token rest) (htokens : abc.split rest = some tokens) :
    abc.split (token ++ rest) = some (t :: tokens) := by
  have hsome : (abc.token? token).isSome = true := by rw [htoken]; rfl
  have hlexeme : abc.isLexeme token = true := by rw [isLexeme, hsome, Bool.true_or]
  have hlongest := longest?_append hlexeme hrest
  cases token with
  | nil => exact absurd hlexeme (by simp [isLexeme_nil])
  | cons c token =>
    rw [List.cons_append] at hlongest ⊢
    rw [split, if_neg (by rw [isSpace_of_isLexeme hlexeme]; exact Bool.false_ne_true), hlongest]
    simp [isComment_of_token? hsome, htoken, htokens]

end Alphabet

end GoProbe.Lexical
