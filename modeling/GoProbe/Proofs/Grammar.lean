import Mathlib
import GoProbe.Tree.Printer

/-!
# The grammar of operands

Go's grammar of expressions, as far as names, literals, operators and what can follow an operand
go. It is given over tokens: the pieces of a layout without white space. `Reads level tokens x`
says that the tokens are an expression of this level and that it reads as `x`.

* Levels 1 to 5 are those of the binary operators, each to the left. The grammar has its own table
  of them (`Grammar.binaryOperators`), which the printer has to follow.
* Level 6 has the prefix operators, and level 7 the names, literals, expressions in parentheses,
  and operands with a suffix: a selector, an index, a slice, an assertion or the arguments of a
  call.
* Whatever is on a level is on all levels below, so level 0 has all expressions.

Parentheses leave no trace in what is read. Neither do the kind of a literal and what the resolver
has found out, since no token shows them: `Expr.bare` takes all three away. Main result of this
module: what is printed of an expression reads as the bare expression (`Expr.reads_layout`).
-/

namespace GoProbe

/-! ## Tokens -/

inductive Token where
  | name (text : String)
  | literal (text : String)
  | openParen | closeParen | openBracket | closeBracket
  | comma | colon | dot | ellipsis
  /-- An operator or keyword. -/
  | operator (text : String)
deriving DecidableEq, Repr

namespace Token

def ofText : String → Token
  | "(" => openParen
  | ")" => closeParen
  | "[" => openBracket
  | "]" => closeBracket
  | "," => comma
  | ":" => colon
  | "." => dot
  | "..." => ellipsis
  | text => operator text

@[simp] theorem ofText_dot : ofText "." = dot := rfl

@[simp] theorem ofText_ellipsis : ofText "..." = ellipsis := rfl

@[simp] theorem ofText_star : ofText "*" = operator "*" := rfl

@[simp] theorem ofText_binaryOp (op : BinaryOp) : ofText op.text = operator op.text := by
  cases op <;> rfl

@[simp] theorem ofText_unaryOp (op : UnaryOp) : ofText op.text = operator op.text := by
  cases op <;> rfl

end Token

namespace Piece

/-- The token that a piece writes, if it does not only change the layout. -/
def token? : Piece → Option Token
  | ident id => some (.name id.name)
  | literal text => some (.literal text)
  | token text => some (.ofText text)
  | _ => none

def tokens (pieces : List Piece) : List Token :=
  pieces.filterMap token?

variable (pieces rest : List Piece)

@[simp] theorem tokens_nil : tokens [] = [] := rfl

@[simp] theorem tokens_append : tokens (pieces ++ rest) = tokens pieces ++ tokens rest :=
  List.filterMap_append

@[simp] theorem tokens_ident (id : Ident) :
    tokens (ident id :: pieces) = .name id.name :: tokens pieces := rfl

@[simp] theorem tokens_literal (text : String) :
    tokens (literal text :: pieces) = .literal text :: tokens pieces := rfl

@[simp] theorem tokens_token (text : String) :
    tokens (token text :: pieces) = .ofText text :: tokens pieces := rfl

@[simp] theorem tokens_blank : tokens (blank :: pieces) = tokens pieces := rfl

@[simp] theorem tokens_openParen : tokens (openParen :: pieces) = .openParen :: tokens pieces := rfl

@[simp] theorem tokens_closeParen :
    tokens (closeParen :: pieces) = .closeParen :: tokens pieces := rfl

@[simp] theorem tokens_openBracket :
    tokens (openBracket :: pieces) = .openBracket :: tokens pieces := rfl

@[simp] theorem tokens_closeBracket :
    tokens (closeBracket :: pieces) = .closeBracket :: tokens pieces := rfl

@[simp] theorem tokens_comma : tokens (comma :: pieces) = .comma :: tokens pieces := rfl

@[simp] theorem tokens_colon : tokens (colon :: pieces) = .colon :: tokens pieces := rfl

end Piece

/-- The tokens of a printed expression. -/
def Expr.tokens (x : Expr) : List Token := Piece.tokens (x.layoutAt 0)

/-! ## Operators -/

namespace Grammar

/-- The binary operators: how each is written, on which level it stands and what it means. -/
def binaryOperators : List (String × Nat × BinaryOp) :=
  [("||", 1, .logOr),
   ("&&", 2, .logAnd),
   ("==", 3, .eql), ("!=", 3, .neq), ("<", 3, .lss), ("<=", 3, .leq), (">", 3, .gtr),
   (">=", 3, .geq),
   ("+", 4, .add), ("-", 4, .sub), ("|", 4, .or), ("^", 4, .xor),
   ("*", 5, .mul), ("/", 5, .quo), ("%", 5, .rem), ("<<", 5, .shl), (">>", 5, .shr), ("&", 5, .and),
   ("&^", 5, .andNot)]

/-- The operators before an operand, besides the `*` of pointers. -/
def unaryOperators : List (String × UnaryOp) :=
  [("-", .neg), ("+", .plus), ("!", .not), ("^", .xor), ("&", .addr), ("<-", .recv)]

def unaryLevel : Nat := 6

def operandLevel : Nat := 7

theorem level_lt {text : String} {level : Nat} {op : BinaryOp}
    (h : (text, level, op) ∈ binaryOperators) : level < unaryLevel := by
  have hall : ∀ entry ∈ binaryOperators, entry.2.1 < unaryLevel := by decide
  exact hall _ h

end Grammar

open Grammar (unaryLevel operandLevel)

/-- The printer spells and groups a binary operator as the grammar does. -/
theorem BinaryOp.mem_binaryOperators (op : BinaryOp) :
    (op.text, op.precedence, op) ∈ Grammar.binaryOperators := by
  cases op <;> decide

theorem UnaryOp.mem_unaryOperators (op : UnaryOp) :
    (op.text, op) ∈ Grammar.unaryOperators := by
  cases op <;> decide

theorem unaryPrecedence_eq : unaryPrecedence = unaryLevel := rfl

theorem primaryPrecedence_eq : primaryPrecedence = operandLevel := rfl

/-! ## Derivations -/

/-- The literal of a text, of no particular kind. -/
def Expr.literal (text : String) : Expr := .basicLit { kind := default, value := text }

/-- What can follow an operand. -/
inductive Suffix where
  | selector (sel : String)
  | index (indices : List Expr)
  | slice (low high max : Option Expr)
  | typeAssert (type : String)
  | call (args : List Expr) (spread : Bool)

/-- The operand with the suffix. -/
def Suffix.on (x : Expr) : Suffix → Expr
  | selector sel => .selector x { name := sel }
  | index indices => .index x indices
  | slice low high max => .slice x low high max
  | typeAssert type => .typeAssert x (some (.name type))
  | call args spread => .call x args spread

mutual

inductive Reads : Nat → List Token → Expr → Prop where
  | binary {text : String} {level : Nat} {op : BinaryOp} {left right : List Token} {x y : Expr}
      (hop : (text, level, op) ∈ Grammar.binaryOperators) (hleft : Reads level left x)
      (hright : Reads (level + 1) right y) :
      Reads level (left ++ .operator text :: right) (.binary x op y)
  | unary {text : String} {op : UnaryOp} {tokens : List Token} {x : Expr}
      (hop : (text, op) ∈ Grammar.unaryOperators) (hx : Reads unaryLevel tokens x) :
      Reads unaryLevel (.operator text :: tokens) (.unary op x none)
  | star {tokens : List Token} {x : Expr} (hx : Reads unaryLevel tokens x) :
      Reads unaryLevel (.operator "*" :: tokens) (.star x)
  | name (text : String) : Reads operandLevel [.name text] (.name text)
  | literal (text : String) : Reads operandLevel [.literal text] (.literal text)
  | paren {tokens : List Token} {x : Expr} (hx : Reads 0 tokens x) :
      Reads operandLevel (.openParen :: tokens ++ [.closeParen]) x
  | suffix {tokens more : List Token} {x : Expr} {suffix : Suffix}
      (hx : Reads operandLevel tokens x) (hsuffix : ReadsSuffix more suffix) :
      Reads operandLevel (tokens ++ more) (suffix.on x)
  | weaken {level : Nat} {tokens : List Token} {x : Expr} (hlevel : level < operandLevel)
      (hx : Reads (level + 1) tokens x) : Reads level tokens x

inductive ReadsSuffix : List Token → Suffix → Prop where
  | selector (sel : String) : ReadsSuffix [.dot, .name sel] (.selector sel)
  | index {tokens : List Token} {indices : List Expr} (h : ReadsList tokens indices) :
      ReadsSuffix (.openBracket :: tokens ++ [.closeBracket]) (.index indices)
  | slice {first second : List Token} {low high : Option Expr} (hlow : ReadsOption first low)
      (hhigh : ReadsOption second high) :
      ReadsSuffix (.openBracket :: first ++ .colon :: second ++ [.closeBracket])
        (.slice low high none)
  | fullSlice {first second third : List Token} {low : Option Expr} {high max : Expr}
      (hlow : ReadsOption first low) (hhigh : Reads 0 second high) (hmax : Reads 0 third max) :
      ReadsSuffix
        (.openBracket :: first ++ .colon :: second ++ .colon :: third ++ [.closeBracket])
        (.slice low (some high) (some max))
  | typeAssert (type : String) :
      ReadsSuffix [.dot, .openParen, .name type, .closeParen] (.typeAssert type)
  | callEmpty : ReadsSuffix [.openParen, .closeParen] (.call [] false)
  | call {tokens : List Token} {args : List Expr} (h : ReadsList tokens args) :
      ReadsSuffix (.openParen :: tokens ++ [.closeParen]) (.call args false)
  | callSpread {tokens : List Token} {args : List Expr} (h : ReadsList tokens args) :
      ReadsSuffix (.openParen :: tokens ++ [.ellipsis, .closeParen]) (.call args true)

/-- One or more expressions with commas between them. -/
inductive ReadsList : List Token → List Expr → Prop where
  | one {tokens : List Token} {x : Expr} (hx : Reads 0 tokens x) : ReadsList tokens [x]
  | cons {tokens more : List Token} {x : Expr} {rest : List Expr} (hx : Reads 0 tokens x)
      (hrest : ReadsList more rest) : ReadsList (tokens ++ .comma :: more) (x :: rest)

/-- An expression or nothing. -/
inductive ReadsOption : List Token → Option Expr → Prop where
  | none : ReadsOption [] none
  | some {tokens : List Token} {x : Expr} (hx : Reads 0 tokens x) : ReadsOption tokens (some x)

end

/-- A level holds all that the levels above it hold. -/
theorem Reads.mono {level min : Nat} {tokens : List Token} {x : Expr} (h : Reads level tokens x)
    (hmin : min ≤ level) (hlevel : level ≤ operandLevel) : Reads min tokens x := by
  induction hmin using Nat.decreasingInduction with
  | self => exact h
  | of_succ min hlt ih => exact .weaken (by omega) ih

/-! ## What is printed -/

mutual

/-- The expression without parentheses, kinds of literals and what the resolver adds. -/
def Expr.bare : Expr → Expr
  | .ident id => .name id.name
  | .basicLit lit => .literal lit.value
  | .paren x => x.bare
  | .selector x sel => .selector x.bare { name := sel.name }
  | .index x indices => .index x.bare (Expr.bareList indices)
  | .slice x low high max =>
    .slice x.bare (Expr.bareOption low) (Expr.bareOption high) (Expr.bareOption max)
  | .typeAssert x type => .typeAssert x.bare (Expr.bareOption type)
  | .call fn args spread => .call fn.bare (Expr.bareList args) spread
  | .star x => .star x.bare
  | .unary op x _ => .unary op x.bare none
  | .binary x op y => .binary x.bare op y.bare
  | x => x

def Expr.bareOption : Option Expr → Option Expr
  | none => none
  | some x => some x.bare

def Expr.bareList : List Expr → List Expr
  | [] => []
  | x :: rest => x.bare :: Expr.bareList rest

end

namespace Expr

/-- Expressions of names, literals and operators. An index has at least one operand, a third bound
of a slice stands after a second one, and there is an argument before `...`. -/
inductive Simple : Expr → Prop where
  | ident (id : Ident) : Simple (.ident id)
  | basicLit (lit : BasicLit) : Simple (.basicLit lit)
  | paren {x : Expr} (hx : Simple x) : Simple (.paren x)
  | selector {x : Expr} (hx : Simple x) (sel : Ident) : Simple (.selector x sel)
  | index {x : Expr} {indices : List Expr} (hx : Simple x) (hne : indices ≠ [])
      (hindices : ∀ i ∈ indices, Simple i) : Simple (.index x indices)
  | slice {x : Expr} {low high max : Option Expr} (hx : Simple x) (hlow : ∀ y ∈ low, Simple y)
      (hhigh : ∀ y ∈ high, Simple y) (hmax : ∀ y ∈ max, Simple y)
      (hbound : max ≠ none → high ≠ none) : Simple (.slice x low high max)
  | typeAssert {x : Expr} (hx : Simple x) (id : Ident) : Simple (.typeAssert x (some (.ident id)))
  | call {fn : Expr} {args : List Expr} {spread : Bool} (hfn : Simple fn)
      (hargs : ∀ arg ∈ args, Simple arg) (hspread : spread = true → args ≠ []) :
      Simple (.call fn args spread)
  | star {x : Expr} (hx : Simple x) : Simple (.star x)
  | unary {x : Expr} (op : UnaryOp) (hx : Simple x) (constant : Option Constant) :
      Simple (.unary op x constant)
  | binary {x y : Expr} (hx : Simple x) (op : BinaryOp) (hy : Simple y) : Simple (.binary x op y)

end Expr

/-- Parentheses put an expression of any level where a higher level is needed. -/
theorem Reads.wrapIf {level min : Nat} {pieces : List Piece} {x : Expr}
    (h : Reads level (Piece.tokens pieces) x) (hlevel : level ≤ operandLevel)
    (hmin : min ≤ operandLevel) :
    Reads min (Piece.tokens (Piece.wrapIf (level < min) pieces)) x := by
  by_cases hneeded : level < min
  · have hparen : Reads operandLevel (.openParen :: Piece.tokens pieces ++ [.closeParen]) x :=
      .paren (h.mono (Nat.zero_le _) hlevel)
    simpa [Piece.wrapIf, hneeded] using hparen.mono hmin le_rfl
  · simpa [Piece.wrapIf, hneeded] using h.mono (Nat.le_of_not_lt hneeded) hlevel

/-- What is printed of the expression reads as the bare expression, on its own level. -/
def Expr.ReadsBack (x : Expr) : Prop :=
  Reads x.precedence (Piece.tokens x.layout) x.bare

namespace Expr

theorem precedence_le (x : Expr) : x.precedence ≤ operandLevel := by
  cases x with
  | binary x op y =>
    have hlevel : op.precedence < unaryLevel := Grammar.level_lt op.mem_binaryOperators
    exact hlevel.le.trans (by decide)
  | _ => simp [precedence, unaryPrecedence, primaryPrecedence, operandLevel]

namespace ReadsBack

variable {x : Expr}

theorem layoutAt (hx : x.ReadsBack) {min : Nat} (hmin : min ≤ operandLevel) :
    Reads min (Piece.tokens (x.layoutAt min)) x.bare :=
  Reads.wrapIf hx x.precedence_le hmin

/-- On the lowest level no parentheses are needed. -/
theorem alone (hx : x.ReadsBack) : Reads 0 (Piece.tokens x.layout) x.bare :=
  Reads.mono hx (Nat.zero_le _) x.precedence_le

theorem layoutList {xs : List Expr} (hxs : ∀ x ∈ xs, x.ReadsBack) (hne : xs ≠ []) :
    ReadsList (Piece.tokens (Expr.layoutList xs)) (bareList xs) := by
  induction xs with
  | nil => exact absurd rfl hne
  | cons x rest ih =>
    rw [List.forall_mem_cons] at hxs
    cases rest with
    | nil => exact .one hxs.1.alone
    | cons y rest =>
      have hrest := ih hxs.2 (List.cons_ne_nil y rest)
      simpa [Expr.layoutList, bareList] using ReadsList.cons hxs.1.alone hrest

theorem layoutOption {x : Option Expr} (hx : ∀ y ∈ x, y.ReadsBack) :
    ReadsOption (Piece.tokens (Expr.layoutOption x)) (bareOption x) := by
  cases x with
  | none => exact .none
  | some x => exact .some (hx x rfl).alone

theorem suffix (hx : x.ReadsBack) {more : List Token} {suffix : Suffix}
    (hsuffix : ReadsSuffix more suffix) :
    Reads primaryPrecedence (Piece.tokens (x.layoutAt primaryPrecedence) ++ more)
      (suffix.on x.bare) := by
  rw [primaryPrecedence_eq]
  exact (hx.layoutAt le_rfl).suffix hsuffix

/-- The bounds of a slice, the third only after a second. -/
theorem bounds {low high max : Option Expr} (hlow : ∀ y ∈ low, y.ReadsBack)
    (hhigh : ∀ y ∈ high, y.ReadsBack) (hmax : ∀ y ∈ max, y.ReadsBack)
    (hbound : max ≠ none → high ≠ none) :
    ReadsSuffix
      (.openBracket :: Piece.tokens (Expr.layoutOption low) ++
        .colon :: Piece.tokens (Expr.layoutOption high) ++
        Piece.tokens (max.elim [] fun max => Piece.colon :: max.layout) ++ [.closeBracket])
      (.slice (bareOption low) (bareOption high) (bareOption max)) := by
  cases max with
  | none => simpa [bareOption] using ReadsSuffix.slice (layoutOption hlow) (layoutOption hhigh)
  | some max =>
    obtain ⟨high, rfl⟩ := Option.ne_none_iff_exists'.1 (hbound (Option.some_ne_none max))
    simpa [Expr.layoutOption, bareOption] using
      ReadsSuffix.fullSlice (layoutOption hlow) (hhigh high rfl).alone (hmax max rfl).alone

/-- The arguments of a call, `...` only after one of them. -/
theorem arguments {args : List Expr} {spread : Bool} (hargs : ∀ arg ∈ args, arg.ReadsBack)
    (hspread : spread = true → args ≠ []) :
    ReadsSuffix
      (.openParen :: Piece.tokens (Expr.layoutList args) ++
        Piece.tokens (if spread then [.token "..."] else []) ++ [.closeParen])
      (.call (bareList args) spread) := by
  cases spread with
  | true => simpa using ReadsSuffix.callSpread (layoutList hargs (hspread rfl))
  | false =>
    cases args with
    | nil => exact .callEmpty
    | cons arg rest => simpa using ReadsSuffix.call (layoutList hargs (List.cons_ne_nil arg rest))

end ReadsBack

theorem reads_layout {x : Expr} (hx : x.Simple) : x.ReadsBack := by
  induction hx with
  | ident id => exact Reads.name id.name
  | basicLit lit => exact Reads.literal lit.value
  | paren _ ih =>
    simpa [ReadsBack, Expr.layout, bare, precedence, primaryPrecedence_eq] using
      Reads.paren ih.alone
  | selector _ sel ih =>
    simpa [ReadsBack, Expr.layout, bare, Suffix.on, precedence, layoutAt] using
      ih.suffix (.selector sel.name)
  | index _ hne _ ih ihIndices =>
    have hindices := ih.suffix (.index (ReadsBack.layoutList ihIndices hne))
    simpa [ReadsBack, Expr.layout, bare, Suffix.on, precedence, layoutAt] using hindices
  | @slice x low high max _ _ _ _ hbound ih ihLow ihHigh ihMax =>
    have hbounds := ih.suffix (ReadsBack.bounds ihLow ihHigh ihMax hbound)
    cases max <;>
      simpa [ReadsBack, Expr.layout, bare, Suffix.on, precedence, layoutAt] using hbounds
  | typeAssert _ id ih =>
    simpa [ReadsBack, Expr.layout, bare, bareOption, Suffix.on, precedence, layoutAt] using
      ih.suffix (.typeAssert id.name)
  | call _ _ hspread ih ihArgs =>
    have hargs := ih.suffix (ReadsBack.arguments ihArgs hspread)
    simpa [ReadsBack, Expr.layout, bare, Suffix.on, precedence, layoutAt] using hargs
  | star _ ih =>
    rw [ReadsBack, Expr.layout, bare]
    exact .star (ih.layoutAt (by decide))
  | @unary x op _ constant ih =>
    -- the blank that keeps two operators apart is no token
    have hblank : Piece.tokens (if op.gluesTo x then [.blank] else []) = [] := by
      split <;> rfl
    have htokens : Piece.tokens (Expr.unary op x constant).layout =
        .operator op.text :: Piece.tokens (x.layoutAt unaryPrecedence) := by
      simp [Expr.layout, layoutAt, hblank]
    rw [ReadsBack, htokens, bare]
    exact .unary op.mem_unaryOperators (ih.layoutAt (by decide))
  | binary _ op _ ihx ihy =>
    have hlevel : op.precedence < unaryLevel := Grammar.level_lt op.mem_binaryOperators
    have hoperand : unaryLevel < operandLevel := by decide
    simpa [ReadsBack, Expr.layout, bare, precedence, layoutAt] using
      Reads.binary op.mem_binaryOperators (ihx.layoutAt (by omega)) (ihy.layoutAt (by omega))

end Expr

end GoProbe
