import GoProbe.Proofs.Indentation
import GoProbe.Proofs.Lexemes

/-!
# Printed expressions fall into the tokens they were written as

The text of an expression is split into tokens by the longest match, and these are the pieces of
its layout without the blanks. It holds for expressions whose names and literals are tokens and in
which no number is selected from or asserted (`Expr.Spelled`): a point after a number belongs to
the number.

* `Neat pieces` says that the text of the pieces is split into their tokens. A piece may be put
  before neat pieces if its token stops before their first character.
* `Expr.Spelled.opens` finds the first character of an operand. It is that of a prefix operator
  only if the place lets an operator stand there without parentheses, and then the blank that
  `UnaryOp.gluesTo` asks for keeps the two apart.
* An expression may stand before neat pieces that start with a blank, a bracket, a comma or a
  colon, and where it is an operand also before a point (`Expr.MayPrecede`).
-/

namespace GoProbe

open Lexical
open Piece (openParen closeParen openBracket closeBracket comma colon chars)

/-! ## Neat pieces -/

namespace Piece

def first? (pieces : List Piece) : Option Char := (chars 0 pieces).head?

@[simp] theorem first?_openParen (pieces : List Piece) :
    first? (openParen :: pieces) = some '(' := by
  rw [first?, openParen, chars_token]; rfl

@[simp] theorem first?_dot (pieces : List Piece) : first? (.token "." :: pieces) = some '.' := by
  rw [first?, chars_token]; rfl

/-- What may follow any token that an expression ends with. -/
def closers : List Char := [' ', ')', ']', ',', ':', '[', '(']

/-- The pieces are none, or start with a character that ends an expression. -/
def EndToken (pieces : List Piece) : Prop := ∀ c ∈ first? pieces, c ∈ closers

theorem endToken_cons {piece : Piece} {pieces : List Piece}
    (h : piece ∈ [.blank, closeParen, closeBracket, comma, colon, openBracket, openParen]) :
    EndToken (piece :: pieces) := by
  intro c hc
  simp only [List.mem_cons, List.not_mem_nil, or_false] at h
  rcases h with rfl | rfl | rfl | rfl | rfl | rfl | rfl <;>
    rw [first?, chars_of_text? rfl] at hc <;> (obtain rfl := Option.some.inj hc; decide)

/-- Splitting the text of the pieces gives their tokens. -/
def Neat (abc : Alphabet) (pieces : List Piece) : Prop :=
  abc.split (chars 0 pieces) = some (tokens pieces)

namespace Neat

variable {abc : Alphabet} {pieces : List Piece}

theorem nil : Neat abc [] := by
  rw [Neat, show chars 0 [] = [] from rfl, Alphabet.split_nil]
  rfl

theorem blank (h : Neat abc pieces) : Neat abc (.blank :: pieces) := by
  rw [Neat, chars_blank]
  exact Alphabet.split_blank.trans h

theorem ident {id : Ident} (hid : abc.isName id.name.toList = true) (h : Neat abc pieces)
    (hstops : abc.StopsBefore id.name.toList (chars 0 pieces)) :
    Neat abc (.ident id :: pieces) := by
  have htoken : abc.token? id.name.toList = some (.name id.name) := by
    rw [Alphabet.token?_of_isName hid, String.ofList_toList]
  rw [Neat, chars_ident]
  exact Alphabet.split_append htoken hstops h

theorem literal {text : String} (htext : isLiteral text.toList = true) (h : Neat abc pieces)
    (hstops : abc.StopsBefore text.toList (chars 0 pieces)) :
    Neat abc (.literal text :: pieces) := by
  have htoken : abc.token? text.toList = some (.literal text) := by
    rw [Alphabet.token?_of_isLiteral htext, String.ofList_toList]
  rw [Neat, chars_literal]
  exact Alphabet.split_append htoken hstops h

theorem token {text : String} (htext : text.toList ∈ operators) (h : Neat abc pieces)
    (hstops : ∀ c ∈ first? pieces, ¬ Sticks text.toList c) :
    Neat abc (.token text :: pieces) := by
  have htoken : abc.token? text.toList = some (.ofText text) := by
    rw [Alphabet.token?_of_mem_operators htext, String.ofList_toList]
  rw [Neat, chars_token]
  exact Alphabet.split_append htoken
    (fun c hc => Alphabet.stops_of_mem_operators htext (hstops c hc)) h

/-- Every operator stops before a blank. -/
theorem tokenBlank {text : String} (htext : text.toList ∈ operators) (h : Neat abc pieces) :
    Neat abc (.token text :: .blank :: pieces) := by
  refine h.blank.token htext fun c hc => ?_
  rw [first?, chars_blank] at hc
  obtain rfl : ' ' = c := Option.some.inj hc
  have hall : operators.all (fun op => ' ' ∉ followers op) = true := by decide
  rintro (hfollows | ⟨-, hdigit⟩ | ⟨-, hcomment⟩)
  · exact of_decide_eq_true (List.all_eq_true.1 hall _ htext) hfollows
  · exact absurd hdigit (by decide)
  · exact absurd hcomment (by decide)

/-- Brackets and commas stop before everything. -/
theorem bracket {piece : Piece}
    (hpiece : piece ∈ [openParen, closeParen, openBracket, closeBracket, comma])
    (h : Neat abc pieces) : Neat abc (piece :: pieces) := by
  obtain ⟨text, htext, rfl⟩ : ∃ text ∈ ["(", ")", "[", "]", ","], Piece.token text = piece := by
    simpa [openParen, closeParen, openBracket, closeBracket, comma, eq_comm] using hpiece
  have hall : ["(", ")", "[", "]", ","].all (fun text => text.toList ∈ operators ∧
      followers text.toList = [] ∧ text.toList ≠ ['.'] ∧ text.toList ≠ ['/']) = true := by
    decide
  obtain ⟨hop, hfollowers, hdot, hslash⟩ := of_decide_eq_true (List.all_eq_true.1 hall text htext)
  exact h.token hop fun c _ => not_sticks hfollowers hdot hslash List.not_mem_nil

theorem colon (h : Neat abc pieces) (hfirst : first? pieces ≠ some '=') :
    Neat abc (colon :: pieces) := by
  refine h.token (by decide) fun c hc => ?_
  have hfollowers : followers ":".toList = ['='] := by decide
  refine not_sticks hfollowers (by decide) (by decide) fun hmem => hfirst ?_
  rwa [List.mem_singleton.1 hmem] at hc

theorem dot (h : Neat abc pieces) (hfirst : ∀ c ∈ first? pieces, abc.isLetter c = true ∨ c = '(') :
    Neat abc (.token "." :: pieces) := by
  refine h.token (by decide) fun c hc => ?_
  have hfollowers : followers ".".toList = ['.'] := by decide
  rintro (hdot | ⟨-, hdigit⟩ | ⟨hslash, -⟩)
  · rw [hfollowers, List.mem_singleton] at hdot
    subst hdot
    rcases hfirst _ hc with h | h
    · exact absurd h Bool.false_ne_true
    · exact absurd h (by decide)
  · rcases hfirst c hc with h | rfl
    · exact absurd ((Alphabet.isLetter_of_isDigit hdigit).symm.trans h) Bool.false_ne_true
    · exact absurd hdigit (by decide)
  · exact absurd hslash (by decide)

/-- An operator between blanks. -/
theorem operator (op : BinaryOp) (h : Neat abc pieces) :
    Neat abc (.blank :: .token op.text :: .blank :: pieces) := by
  have hop : op.text.toList ∈ operators := by cases op <;> decide
  exact (h.tokenBlank hop).blank

end Neat

end Piece

/-! ## Expressions whose names and literals are tokens -/

namespace Expr

/-- Whether the expression is the literal of a number. -/
def isNumeral : Expr → Bool
  | .basicLit lit => isNumber lit.value.toList
  | _ => false

/-- Expressions of operands and operators whose names and literals are tokens. A number is neither
selected from nor asserted. -/
inductive Spelled (abc : Alphabet) : Expr → Prop where
  | ident {id : Ident} (hid : abc.isName id.name.toList = true) : Spelled abc (.ident id)
  | basicLit {lit : BasicLit} (hlit : isLiteral lit.value.toList = true) :
      Spelled abc (.basicLit lit)
  | paren {x : Expr} (hx : Spelled abc x) : Spelled abc (.paren x)
  | selector {x : Expr} {sel : Ident} (hx : Spelled abc x) (hnumeral : x.isNumeral = false)
      (hsel : abc.isName sel.name.toList = true) : Spelled abc (.selector x sel)
  | index {x : Expr} {indices : List Expr} (hx : Spelled abc x)
      (hindices : ∀ i ∈ indices, Spelled abc i) : Spelled abc (.index x indices)
  | slice {x : Expr} {low high max : Option Expr} (hx : Spelled abc x)
      (hlow : ∀ y ∈ low, Spelled abc y) (hhigh : ∀ y ∈ high, Spelled abc y)
      (hmax : ∀ y ∈ max, Spelled abc y) : Spelled abc (.slice x low high max)
  | typeAssert {x : Expr} {id : Ident} (hx : Spelled abc x) (hnumeral : x.isNumeral = false)
      (hid : abc.isName id.name.toList = true) : Spelled abc (.typeAssert x (some (.ident id)))
  | call {fn : Expr} {args : List Expr} (hfn : Spelled abc fn)
      (hargs : ∀ arg ∈ args, Spelled abc arg) : Spelled abc (.call fn args false)
  | star {x : Expr} (hx : Spelled abc x) : Spelled abc (.star x)
  | unary {x : Expr} (op : UnaryOp) (hx : Spelled abc x) (constant : Option Constant) :
      Spelled abc (.unary op x constant)
  | binary {x y : Expr} (hx : Spelled abc x) (op : BinaryOp) (hy : Spelled abc y) :
      Spelled abc (.binary x op y)

end Expr

/-! ## First characters of operands -/

/-- An operand that no operator opens starts with such a character. -/
def Lexical.Alphabet.startsPrimary (abc : Alphabet) (c : Char) : Bool :=
  abc.isLetter c || c.isDigit || ['.', '"', '\x60', '\x27', '('].contains c

namespace Expr

/-- The first characters of prefix operators. -/
def operatorStarts : List Char := ['-', '+', '!', '^', '&', '<', '*']

/-- How the expression may start at a place that demands precedence `min`: with an operator of its
own if that stands without parentheses, and with the operator of an operand if it is binary. -/
def Opens (abc : Alphabet) (x : Expr) (min : Nat) (c : Char) : Prop :=
  abc.startsPrimary c = true ∨ (min ≤ unaryPrecedence ∧ x.leadingOperator? = some c) ∨
    (min < unaryPrecedence ∧ c ∈ operatorStarts)

variable {abc : Alphabet} {x : Expr} {min : Nat} {c : Char}

theorem mem_operatorStarts (h : x.leadingOperator? = some c) : c ∈ operatorStarts := by
  unfold leadingOperator? at h
  split at h
  · rename_i op _ _
    cases op <;> simp [UnaryOp.text] at h <;> simp [operatorStarts, ← h]
  · obtain rfl := Option.some.inj h
    decide
  · exact absurd h (by simp)

theorem Opens.starts (h : x.Opens abc min c) : abc.startsPrimary c = true ∨ c ∈ operatorStarts := by
  rcases h with h | h | h
  · exact .inl h
  · exact .inr (mem_operatorStarts h.2)
  · exact .inr h.2

theorem Opens.primary (h : x.Opens abc primaryPrecedence c) : abc.startsPrimary c = true := by
  rcases h with h | h | h
  · exact h
  · exact absurd h.1 (by decide)
  · exact absurd h.1 (by decide)

/-- What starts with an operand that stands before a suffix starts with no operator. -/
theorem opens_of_operand {y : Expr} {pieces : List Piece}
    (h : ∃ c, Piece.first? pieces = some c ∧ y.Opens abc primaryPrecedence c) :
    ∃ c, Piece.first? pieces = some c ∧ x.Opens abc min c := by
  obtain ⟨c, hfirst, hc⟩ := h
  exact ⟨c, hfirst, .inl hc.primary⟩

theorem opens_wrapIf {level : Nat} {pieces rest : List Piece}
    (h : min ≤ level → ∃ c, Piece.first? (pieces ++ rest) = some c ∧ x.Opens abc min c) :
    ∃ c, Piece.first? (Piece.wrapIf (level < min) pieces ++ rest) = some c ∧ x.Opens abc min c := by
  by_cases hneeded : level < min
  · exact ⟨'(', by simp [Piece.wrapIf, hneeded], .inl (by simp [Alphabet.startsPrimary])⟩
  · simpa [Piece.wrapIf, hneeded] using h (Nat.le_of_not_lt hneeded)

/-- A name starts with a letter. -/
theorem first?_ident {id : Ident} (hid : abc.isName id.name.toList = true) (rest : List Piece) :
    ∃ c, Piece.first? (.ident id :: rest) = some c ∧ abc.isLetter c = true := by
  have hword := (Bool.and_eq_true_iff.1 hid).1
  cases hchars : id.name.toList with
  | nil =>
    rw [hchars] at hword
    exact absurd hword Bool.false_ne_true
  | cons c more =>
    refine ⟨c, ?_, Alphabet.isLetter_of_isWord (hchars ▸ hword)⟩
    rw [Piece.first?, Piece.chars_ident, hchars]
    rfl

variable (abc) in
theorem first?_basicLit {lit : BasicLit} (hlit : isLiteral lit.value.toList = true)
    (rest : List Piece) :
    ∃ c, Piece.first? (.literal lit.value :: rest) = some c ∧ abc.startsPrimary c = true := by
  cases hchars : lit.value.toList with
  | nil => exact absurd (hchars ▸ hlit) (by decide)
  | cons c more =>
    refine ⟨c, ?_, ?_⟩
    · rw [Piece.first?, Piece.chars_literal, hchars]
      rfl
    rw [hchars] at hlit
    simp only [isLiteral, Bool.or_eq_true] at hlit
    rcases hlit with ((h | h) | h) | h
    · rcases digit_or_dot_of_isNumber h with h | h
      · simp [Alphabet.startsPrimary, h]
      · simp [Alphabet.startsPrimary, h]
    · simp [Alphabet.startsPrimary, eq_of_isString h]
    · simp [Alphabet.startsPrimary, eq_of_isRawString h]
    · simp [Alphabet.startsPrimary, eq_of_isRune h]

theorem Spelled.opens (hx : x.Spelled abc) (min : Nat) (rest : List Piece) :
    ∃ c, Piece.first? (x.layoutAt min ++ rest) = some c ∧ x.Opens abc min c := by
  induction hx generalizing min rest with
  | ident hid =>
    refine opens_wrapIf fun _ => ?_
    obtain ⟨c, hfirst, hc⟩ := first?_ident hid rest
    exact ⟨c, by simpa [layout] using hfirst, .inl (by simp [Alphabet.startsPrimary, hc])⟩
  | basicLit hlit =>
    refine opens_wrapIf fun _ => ?_
    obtain ⟨c, hfirst, hc⟩ := first?_basicLit abc hlit rest
    exact ⟨c, by simpa [layout] using hfirst, .inl hc⟩
  | paren hx ih =>
    exact opens_wrapIf fun _ =>
      ⟨'(', by simp [layout], .inl (by simp [Alphabet.startsPrimary])⟩
  -- an operand with a suffix starts like the operand, which has parentheses if it is an operation
  | selector hx hnumeral hsel ih =>
    refine opens_wrapIf fun _ => ?_
    simp only [layout, List.append_assoc]
    exact opens_of_operand (ih _ _)
  | index hx hindices ih =>
    refine opens_wrapIf fun _ => ?_
    simp only [layout, List.append_assoc]
    exact opens_of_operand (ih _ _)
  | @slice x low high max hx hlow hhigh hmax ih =>
    refine opens_wrapIf fun _ => ?_
    cases max
    all_goals
      simp only [layout, List.append_assoc]
      exact opens_of_operand (ih _ _)
  | typeAssert hx hnumeral hid ih =>
    refine opens_wrapIf fun _ => ?_
    simp only [layout, List.append_assoc]
    exact opens_of_operand (ih _ _)
  | call hfn hargs ih =>
    refine opens_wrapIf fun _ => ?_
    simp only [layout, List.append_assoc]
    exact opens_of_operand (ih _ _)
  | star hx ih =>
    refine opens_wrapIf fun hmin => ⟨'*', ?_, .inr (.inl ⟨hmin, rfl⟩)⟩
    rw [layout, Piece.first?, List.cons_append, Piece.chars_token]
    rfl
  | unary op hx constant ih =>
    obtain ⟨c, hc⟩ : ∃ c, op.text.toList.head? = some c := by cases op <;> exact ⟨_, rfl⟩
    refine opens_wrapIf fun hmin => ⟨c, ?_, .inr (.inl ⟨hmin, hc⟩)⟩
    rw [layout, Piece.first?, List.cons_append, List.cons_append, Piece.chars_token]
    exact List.head?_append.trans (by rw [hc]; rfl)
  | @binary x y hx op hy ihx ihy =>
    refine opens_wrapIf fun hmin => ?_
    have hop : op.precedence < unaryPrecedence := by cases op <;> decide
    obtain ⟨c, hfirst, hc⟩ := ihx op.precedence
      (.blank :: .token op.text :: .blank :: y.layoutAt (op.precedence + 1) ++ rest)
    refine ⟨c, by simpa [layout, layoutAt] using hfirst, ?_⟩
    rcases hc.starts with hc | hc
    · exact .inl hc
    · exact .inr (.inr ⟨Nat.lt_of_le_of_lt hmin hop, hc⟩)

theorem Opens.ne_equals (h : x.Opens abc min c) : c ≠ '=' := by
  rintro rfl
  rcases h.starts with h | h
  · exact absurd h Bool.false_ne_true
  · exact absurd h (by decide)

/-! ## Operators before operands -/

theorem followers_unaryOp (op : UnaryOp) : followers op.text.toList =
    match op with
    | .neg => ['=', '-']
    | .plus => ['=', '+']
    | .not => ['=']
    | .xor => ['=']
    | .addr => ['=', '&', '^', '^']
    | .recv => [] := by
  cases op <;> decide

theorem pair_of_mem_followers {op : UnaryOp} (h : c ∈ followers op.text.toList) (hne : c ≠ '=') :
    (op, c) ∈ [(.neg, '-'), (.plus, '+'), (.addr, '&'), (.addr, '^')] := by
  rw [followers_unaryOp] at h
  cases op <;> simp_all

/-- Before an operand that starts with one of its followers the operator is written with a
blank. -/
theorem gluesTo_of_mem_followers {op : UnaryOp} (h : c ∈ followers op.text.toList)
    (hc : x.Opens abc unaryPrecedence c) : op.gluesTo x = true := by
  have hpair := pair_of_mem_followers h hc.ne_equals
  simp only [List.mem_cons, Prod.mk.injEq, List.not_mem_nil, or_false] at hpair
  rcases hc with hprimary | ⟨-, hleading⟩ | ⟨hlt, -⟩
  · rcases hpair with ⟨rfl, rfl⟩ | ⟨rfl, rfl⟩ | ⟨rfl, rfl⟩ | ⟨rfl, rfl⟩ <;>
      exact absurd hprimary Bool.false_ne_true
  · rcases hpair with ⟨rfl, rfl⟩ | ⟨rfl, rfl⟩ | ⟨rfl, rfl⟩ | ⟨rfl, rfl⟩ <;>
      simp [UnaryOp.gluesTo, UnaryOp.text, hleading]
  · exact absurd hlt (lt_irrefl _)

/-! ## Splitting -/

/-- The first character after the expression ends its last token. A point does so after an operand
that is no number. -/
def MayPrecede (x : Expr) (min : Nat) (rest : List Piece) : Prop :=
  Piece.EndToken rest ∨
    (Piece.first? rest = some '.' ∧ min = primaryPrecedence ∧ x.isNumeral = false)

/-- The expression can be put before all neat pieces that end its last token. -/
def SplitsNeatly (abc : Alphabet) (x : Expr) : Prop :=
  ∀ rest, Piece.Neat abc rest → x.MayPrecede x.precedence rest → Piece.Neat abc (x.layout ++ rest)

namespace SplitsNeatly

open Piece (Neat EndToken)

variable {rest : List Piece}

theorem mark_of_mayPrecede (hmay : x.MayPrecede min rest) (hc : Piece.first? rest = some c) :
    isMark c = true ∧ c ∉ ['+', '-'] ∧ (x.isNumeral = true → c ≠ '.') := by
  rcases hmay with hend | ⟨hdot, -, hnumeral⟩
  · have hall : Piece.closers.all (fun c => isMark c = true ∧ c ∉ ['+', '-'] ∧ c ≠ '.') = true := by
      decide
    obtain ⟨hmark, hsign, hdot⟩ := of_decide_eq_true (List.all_eq_true.1 hall c (hend c hc))
    exact ⟨hmark, hsign, fun _ => hdot⟩
  · obtain rfl := Option.some.inj (hdot.symm.trans hc)
    simp [hnumeral, isMark]

theorem ident {id : Ident} (hid : abc.isName id.name.toList = true) :
    SplitsNeatly abc (.ident id) := by
  intro rest hrest hmay
  rw [layout, List.singleton_append]
  refine hrest.ident hid fun c hc => ?_
  have hmark := (mark_of_mayPrecede hmay hc).1
  exact Alphabet.stops_of_isWord (Bool.and_eq_true_iff.1 hid).1
    (Alphabet.isLetter_of_isMark hmark) (Alphabet.isDigit_of_isMark hmark)

theorem basicLit {lit : BasicLit} (hlit : isLiteral lit.value.toList = true) :
    SplitsNeatly abc (.basicLit lit) := by
  intro rest hrest hmay
  rw [layout, List.singleton_append]
  refine hrest.literal hlit fun c hc => ?_
  obtain ⟨hmark, hsign, hdot⟩ := mark_of_mayPrecede hmay hc
  simp only [isLiteral, Bool.or_eq_true, or_assoc] at hlit
  rcases hlit with hnumber | hquoted
  · refine Alphabet.stops_of_isNumber hnumber hmark ?_
    have := hdot hnumber
    simp_all
  · exact Alphabet.stops_of_quoted hquoted

/-- Where parentheses are needed, they end with a bracket. -/
theorem layoutAt (hx : x.SplitsNeatly abc) (hrest : Neat abc rest) (hmay : x.MayPrecede min rest) :
    Neat abc (x.layoutAt min ++ rest) := by
  by_cases hneeded : x.precedence < min
  · have hclose : Neat abc (closeParen :: rest) := hrest.bracket (by simp)
    have hinner := (hx _ hclose (.inl (Piece.endToken_cons (by simp)))).bracket
      (show openParen ∈ _ by simp)
    simpa [Expr.layoutAt, Piece.wrapIf, hneeded] using hinner
  · have hown : x.MayPrecede x.precedence rest := by
      refine hmay.imp_right ?_
      rintro ⟨hdot, hmin, hnumeral⟩
      refine ⟨hdot, ?_, hnumeral⟩
      exact Nat.le_antisymm x.precedence_le (hmin ▸ Nat.le_of_not_lt hneeded)
    simpa [Expr.layoutAt, Piece.wrapIf, hneeded] using hx rest hrest hown

/-- Before what ends any token. -/
theorem alone (hx : x.SplitsNeatly abc) (hrest : Neat abc rest) (hend : EndToken rest) :
    Neat abc (x.layout ++ rest) :=
  hx rest hrest (.inl hend)

theorem paren (hx : x.SplitsNeatly abc) : SplitsNeatly abc (.paren x) := by
  intro rest hrest _
  have hclose : Neat abc (closeParen :: rest) := hrest.bracket (by simp)
  have hinner := (hx.alone hclose (Piece.endToken_cons (by simp))).bracket
    (show openParen ∈ _ by simp)
  simpa [layout] using hinner

theorem layoutOption {x : Option Expr} (hx : ∀ y ∈ x, y.SplitsNeatly abc)
    (hrest : Neat abc rest) (hend : EndToken rest) : Neat abc (Expr.layoutOption x ++ rest) := by
  cases x with
  | none => simpa [Expr.layoutOption] using hrest
  | some x => exact (hx x rfl).alone hrest hend

theorem layoutList {xs : List Expr} (hxs : ∀ x ∈ xs, x.SplitsNeatly abc)
    (hrest : Neat abc rest) (hend : EndToken rest) : Neat abc (Expr.layoutList xs ++ rest) := by
  induction xs with
  | nil => simpa [Expr.layoutList] using hrest
  | cons x xs ih =>
    rw [List.forall_mem_cons] at hxs
    cases xs with
    | nil => exact hxs.1.alone hrest hend
    | cons y xs =>
      have hmore : Neat abc (comma :: .blank :: (Expr.layoutList (y :: xs) ++ rest)) :=
        (ih hxs.2).blank.bracket (by simp)
      have hx := hxs.1.alone hmore (Piece.endToken_cons (by simp))
      simpa [Expr.layoutList] using hx

theorem selector {sel : Ident} (hx : x.SplitsNeatly abc) (hnumeral : x.isNumeral = false)
    (hsel : abc.isName sel.name.toList = true) : SplitsNeatly abc (.selector x sel) := by
  intro rest hrest hmay
  have hname : Neat abc (.ident sel :: rest) := ident hsel rest hrest hmay
  have hdot : Neat abc (.token "." :: .ident sel :: rest) := by
    refine hname.dot fun c hc => .inl ?_
    obtain ⟨d, hd, hletter⟩ := first?_ident hsel rest
    rwa [← Option.some.inj (hd.symm.trans hc)]
  have hoperand : Neat abc (x.layoutAt primaryPrecedence ++ .token "." :: .ident sel :: rest) :=
    hx.layoutAt hdot (.inr ⟨by simp, rfl, hnumeral⟩)
  simpa [layout, Expr.layoutAt] using hoperand

theorem index {indices : List Expr} (hx : x.SplitsNeatly abc)
    (hindices : ∀ i ∈ indices, i.SplitsNeatly abc) : SplitsNeatly abc (.index x indices) := by
  intro rest hrest _
  have hclose : Neat abc (closeBracket :: rest) := hrest.bracket (by simp)
  have hopen : Neat abc (openBracket :: (Expr.layoutList indices ++ closeBracket :: rest)) :=
    (layoutList hindices hclose (Piece.endToken_cons (by simp))).bracket (by simp)
  have hoperand : Neat abc (x.layoutAt primaryPrecedence ++ _) :=
    hx.layoutAt hopen (.inl (Piece.endToken_cons (by simp)))
  simpa [layout, Expr.layoutAt] using hoperand

/-- A bound of a slice, after its colon. -/
theorem bound {x : Option Expr} (hx : ∀ y ∈ x, y.SplitsNeatly abc)
    (hspelled : ∀ y ∈ x, y.Spelled abc) (hrest : Neat abc rest)
    (hend : EndToken rest) : Neat abc (colon :: (Expr.layoutOption x ++ rest)) := by
  refine (layoutOption hx hrest hend).colon fun hfirst => ?_
  cases x with
  | none => exact absurd (hend '=' hfirst) (by decide)
  | some x =>
    obtain ⟨c, hc, hopens⟩ := (hspelled x rfl).opens 0 rest
    exact hopens.ne_equals (Option.some.inj (hc.symm.trans hfirst))

theorem slice {low high max : Option Expr} (hx : x.SplitsNeatly abc)
    (hlow : ∀ y ∈ low, y.SplitsNeatly abc) (hhigh : ∀ y ∈ high, y.SplitsNeatly abc)
    (hmax : ∀ y ∈ max, y.SplitsNeatly abc) (hhighSpelled : ∀ y ∈ high, y.Spelled abc)
    (hmaxSpelled : ∀ y ∈ max, y.Spelled abc) : SplitsNeatly abc (.slice x low high max) := by
  intro rest hrest _
  have hbefore : ∀ {bounds}, Neat abc (colon :: bounds) →
      Neat abc (x.layoutAt primaryPrecedence ++
        openBracket :: (Expr.layoutOption low ++ colon :: bounds)) := by
    intro bounds hbounds
    have hopen : Neat abc (openBracket :: (Expr.layoutOption low ++ colon :: bounds)) :=
      (layoutOption hlow hbounds (Piece.endToken_cons (by simp))).bracket (by simp)
    exact hx.layoutAt hopen (.inl (Piece.endToken_cons (by simp)))
  have hclose : Neat abc (closeBracket :: rest) := hrest.bracket (by simp)
  have hend : EndToken (closeBracket :: rest) := Piece.endToken_cons (by simp)
  cases max with
  | none =>
    simpa [layout, Expr.layoutAt] using hbefore (bound hhigh hhighSpelled hclose hend)
  | some max =>
    have hthird := bound hmax hmaxSpelled hclose hend
    have hsecond := bound hhigh hhighSpelled hthird (Piece.endToken_cons (by simp))
    simpa [layout, Expr.layoutAt, Expr.layoutOption] using hbefore hsecond

theorem call {args : List Expr} (hx : x.SplitsNeatly abc)
    (hargs : ∀ arg ∈ args, arg.SplitsNeatly abc) : SplitsNeatly abc (.call x args false) := by
  intro rest hrest _
  have hclose : Neat abc (closeParen :: rest) := hrest.bracket (by simp)
  have hopen : Neat abc (openParen :: (Expr.layoutList args ++ closeParen :: rest)) :=
    (layoutList hargs hclose (Piece.endToken_cons (by simp))).bracket (by simp)
  have hoperand : Neat abc (x.layoutAt primaryPrecedence ++ _) :=
    hx.layoutAt hopen (.inl (Piece.endToken_cons (by simp)))
  simpa [layout, Expr.layoutAt] using hoperand

theorem typeAssert {id : Ident} (hx : x.SplitsNeatly abc) (hnumeral : x.isNumeral = false)
    (hid : abc.isName id.name.toList = true) :
    SplitsNeatly abc (.typeAssert x (some (.ident id))) := by
  intro rest hrest _
  have hclose : Neat abc (closeParen :: rest) := hrest.bracket (by simp)
  have htype := (ident hid).alone hclose (Piece.endToken_cons (by simp))
  have hopen : Neat abc (openParen :: (layout (.ident id) ++ closeParen :: rest)) :=
    htype.bracket (by simp)
  have hdot : Neat abc
      (.token "." :: openParen :: (layout (.ident id) ++ closeParen :: rest)) := by
    refine hopen.dot fun c hc => .inr ?_
    rw [Piece.first?_openParen] at hc
    exact (Option.some.inj hc).symm
  have hoperand : Neat abc (x.layoutAt primaryPrecedence ++ _) :=
    hx.layoutAt hdot (.inr ⟨by simp, rfl, hnumeral⟩)
  simpa [layout, Expr.layoutAt] using hoperand

/-- An operation may only stand before what ends any token. -/
theorem endToken_of_mayPrecede (hmay : x.MayPrecede min rest) (hmin : min < primaryPrecedence) :
    EndToken rest := by
  rcases hmay with hend | ⟨-, rfl, -⟩
  · exact hend
  · exact absurd hmin (lt_irrefl _)

theorem star (hx : x.SplitsNeatly abc) (hspelled : x.Spelled abc) :
    SplitsNeatly abc (.star x) := by
  intro rest hrest hmay
  have hlevel : unaryPrecedence < primaryPrecedence := by decide
  have hend := endToken_of_mayPrecede hmay hlevel
  rw [layout]
  refine (hx.layoutAt hrest (.inl hend)).token (by decide) fun c hc => ?_
  have hfollowers : followers "*".toList = ['='] := by decide
  refine not_sticks hfollowers (by decide) (by decide) fun hmem => ?_
  obtain ⟨d, hd, hopens⟩ := hspelled.opens unaryPrecedence rest
  obtain rfl := Option.some.inj (hd.symm.trans hc)
  exact hopens.ne_equals (List.mem_singleton.1 hmem)

theorem unary {op : UnaryOp} {constant : Option Constant} (hx : x.SplitsNeatly abc)
    (hspelled : x.Spelled abc) : SplitsNeatly abc (.unary op x constant) := by
  intro rest hrest hmay
  have hlevel : unaryPrecedence < primaryPrecedence := by decide
  have hend := endToken_of_mayPrecede hmay hlevel
  have hoperand : Neat abc (x.layoutAt unaryPrecedence ++ rest) := hx.layoutAt hrest (.inl hend)
  have hop : op.text.toList ∈ operators := by cases op <;> decide
  have hne : op.text.toList ≠ ['.'] ∧ op.text.toList ≠ ['/'] := by cases op <;> decide
  rw [layout]
  by_cases hglues : op.gluesTo x = true
  · rw [if_pos hglues]
    exact hoperand.tokenBlank hop
  · rw [if_neg hglues]
    refine hoperand.token hop fun c hc => ?_
    obtain ⟨d, hd, hopens⟩ := hspelled.opens unaryPrecedence rest
    obtain rfl := Option.some.inj (hd.symm.trans hc)
    exact not_sticks rfl hne.1 hne.2 fun hmem => hglues (gluesTo_of_mem_followers hmem hopens)

theorem binary {y : Expr} {op : BinaryOp} (hx : x.SplitsNeatly abc) (hy : y.SplitsNeatly abc) :
    SplitsNeatly abc (.binary x op y) := by
  intro rest hrest hmay
  have hop : op.precedence < primaryPrecedence := by cases op <;> decide
  have hend := endToken_of_mayPrecede hmay hop
  have hright : Neat abc (y.layoutAt (op.precedence + 1) ++ rest) := hy.layoutAt hrest (.inl hend)
  have hleft : Neat abc (x.layoutAt op.precedence ++ _) :=
    hx.layoutAt (hright.operator op) (.inl (Piece.endToken_cons (by simp)))
  simpa [layout, Expr.layoutAt] using hleft

end SplitsNeatly

theorem Spelled.splitsNeatly (hx : x.Spelled abc) : x.SplitsNeatly abc := by
  induction hx with
  | ident hid => exact .ident hid
  | basicLit hlit => exact .basicLit hlit
  | paren _ ih => exact ih.paren
  | selector _ hnumeral hsel ih => exact ih.selector hnumeral hsel
  | index _ _ ih ihIndices => exact ih.index ihIndices
  | slice _ _ hhigh hmax ih ihLow ihHigh ihMax => exact ih.slice ihLow ihHigh ihMax hhigh hmax
  | typeAssert _ hnumeral hid ih => exact ih.typeAssert hnumeral hid
  | call _ _ ih ihArgs => exact ih.call ihArgs
  | star hx ih => exact ih.star hx
  | unary op hx constant ih => exact ih.unary hx
  | binary _ op _ ihx ihy => exact ihx.binary ihy

/-- The text of an expression splits into the tokens that its layout consists of. -/
theorem split_print (hx : x.Spelled abc) : abc.split x.print.toList = some x.tokens := by
  have hneat : Piece.Neat abc (x.layoutAt 0 ++ []) :=
    hx.splitsNeatly.layoutAt .nil (.inl fun c hc => by cases hc)
  rw [List.append_nil] at hneat
  exact hneat

/-- Signs before signs, numbers with points, a selected call: `- -x + & ^f(<- -1.5, "a").y`. -/
def signsSample : Expr :=
  .binary (.unary .neg (.unary .neg (.ident ⟨"x", none⟩) none) none) .add
    (.unary .addr
      (.unary .xor
        (.selector
          (.call (.ident ⟨"f", none⟩)
            [.unary .recv (.unary .neg (.basicLit ⟨.float, "1.5", none⟩) none) none,
              .basicLit ⟨.string, "\"a\"", none⟩]
            false)
          ⟨"y", none⟩)
        none)
      none)

theorem split_print_signs :
    let ascii : Alphabet := ⟨fun _ => false, fun _ => false⟩
    signsSample.Spelled ascii ∧ signsSample.print = "- -x + & ^f(<- -1.5, \"a\").y" ∧
      ascii.split signsSample.print.toList =
        some [.operator "-", .operator "-", .name "x", .operator "+", .operator "&", .operator "^",
          .name "f", .openParen, .operator "<-", .operator "-", .literal "1.5", .comma,
          .literal "\"a\"", .closeParen, .dot, .name "y"] := by
  intro ascii
  have hspelled : signsSample.Spelled ascii := by
    refine .binary (.unary _ (.unary _ (.ident (by decide)) _) _) _ (.unary _ (.unary _
      (.selector (.call (.ident (by decide)) ?_) rfl (by decide)) _) _)
    simp only [List.forall_mem_cons]
    exact ⟨.unary _ (.unary _ (.basicLit (by decide)) _) _,
      .basicLit (by decide), List.forall_mem_nil _⟩
  exact ⟨hspelled, by decide, (split_print hspelled).trans (by decide)⟩

end Expr

end GoProbe
