import Mathlib
import GoProbe.Proofs.Grammar

/-!
# Reading printed expressions back

The grammar is unambiguous. Its rules for binary operators and suffixes start with an expression,
so two derivations cannot be compared from the left. `Scans` therefore reads in the other order:
`Scans min tokens x rest` takes an operand from the front, and `ScansTail` lets it grow as long as a
suffix or an operator of level `min` or more follows. At each step the next token says how to
go on, so scanning is a function (`Scans.unique`). What the grammar derives is what is scanned
(`Reads.scans`), if no token after it would go on.

With that, what is printed of an expression reads as this expression and as no other.
-/

namespace GoProbe

open Grammar (unaryLevel operandLevel)

/-! ## The next token -/

namespace Token

/-- The operator that the token is between two operands, and its level. -/
def binaryOp? : Token → Option (Nat × BinaryOp)
  | operator text => Grammar.binaryOperators.lookup text
  | _ => none

/-- What the token makes of the operand after it. -/
def unaryForm? : Token → Option (Expr → Expr)
  | operator "*" => some .star
  | operator text => (Grammar.unaryOperators.lookup text).map fun op x => .unary op x none
  | _ => none

/-- Whether the token ends what stands in parentheses or brackets, or one of its parts. -/
def closes : Token → Bool
  | colon | closeBracket | closeParen => true
  | _ => false

/-- How tightly the token binds the operand before it, if it goes on with it. -/
def power? : Token → Option Nat
  | dot | openParen | openBracket => some operandLevel
  | token => token.binaryOp?.map Prod.fst

variable {text : String} {level : Nat}

/-- No two operators are written alike. -/
theorem binaryOp?_operator {op : BinaryOp} (h : (text, level, op) ∈ Grammar.binaryOperators) :
    binaryOp? (operator text) = some (level, op) := by
  have hall : ∀ entry ∈ Grammar.binaryOperators,
      Grammar.binaryOperators.lookup entry.1 = some entry.2 := by decide
  exact hall _ h

theorem power?_operator {op : BinaryOp} (h : (text, level, op) ∈ Grammar.binaryOperators) :
    power? (operator text) = some level :=
  congrArg (Option.map Prod.fst) (binaryOp?_operator h)

/-- A token that goes on starts a suffix or is an operator. -/
theorem power?_cases {token : Token} {power : Nat} (h : token.power? = some power) :
    power = operandLevel ∨ power < unaryLevel := by
  cases token with
  | operator text =>
    obtain ⟨entry, hentry, rfl⟩ := Option.map_eq_some_iff.1 h
    obtain ⟨before, after, hsplit, -⟩ := List.lookup_eq_some_iff.1 hentry
    have hmem : (text, entry.1, entry.2) ∈ Grammar.binaryOperators := hsplit ▸ by simp
    exact .inr (Grammar.level_lt hmem)
  | dot | openParen | openBracket => exact .inl (Option.some.inj h).symm
  | _ => cases h

theorem unaryForm?_operator {op : UnaryOp} (h : (text, op) ∈ Grammar.unaryOperators) :
    unaryForm? (operator text) = some fun x => .unary op x none := by
  simp only [Grammar.unaryOperators, List.mem_cons, Prod.mk.injEq, List.not_mem_nil,
    or_false] at h
  rcases h with ⟨rfl, rfl⟩ | ⟨rfl, rfl⟩ | ⟨rfl, rfl⟩ | ⟨rfl, rfl⟩ | ⟨rfl, rfl⟩ | ⟨rfl, rfl⟩ <;> rfl

end Token

/-- No token goes on with an operand of this level. -/
def Stops (level : Nat) (tokens : List Token) : Prop :=
  ∀ token ∈ tokens.head?, ∀ power ∈ token.power?, power < level

namespace Stops

theorem nil (level : Nat) : Stops level [] := by simp [Stops]

theorem of_power? {level : Nat} {token : Token} (h : token.power? = none) (rest : List Token) :
    Stops level (token :: rest) := by
  simp [Stops, h]

theorem of_closes {level : Nat} {token : Token} (h : token.closes = true) (rest : List Token) :
    Stops level (token :: rest) := by
  cases token with
  | colon | closeBracket | closeParen => exact of_power? rfl rest
  | _ => cases h

theorem comma {level : Nat} (rest : List Token) : Stops level (.comma :: rest) :=
  of_power? rfl rest

theorem ellipsis {level : Nat} (rest : List Token) : Stops level (.ellipsis :: rest) :=
  of_power? rfl rest

theorem colon {level : Nat} (rest : List Token) : Stops level (.colon :: rest) :=
  of_closes rfl rest

theorem closeBracket {level : Nat} (rest : List Token) : Stops level (.closeBracket :: rest) :=
  of_closes rfl rest

theorem closeParen {level : Nat} (rest : List Token) : Stops level (.closeParen :: rest) :=
  of_closes rfl rest

theorem mono {level higher : Nat} {tokens : List Token} (h : Stops level tokens)
    (hle : level ≤ higher) : Stops higher tokens :=
  fun token htoken power hpower => (h token htoken power hpower).trans_le hle

end Stops

/-! ## Scanning -/

mutual

inductive Scans : Nat → List Token → Expr → List Token → Prop where
  | name {min : Nat} {text : String} {tokens rest : List Token} {y : Expr}
      (htail : ScansTail min (.name text) tokens y rest) : Scans min (.name text :: tokens) y rest
  | literal {min : Nat} {text : String} {tokens rest : List Token} {y : Expr}
      (htail : ScansTail min (.literal text) tokens y rest) :
      Scans min (.literal text :: tokens) y rest
  | paren {min : Nat} {tokens between rest : List Token} {x y : Expr}
      (hx : Scans 0 tokens x (.closeParen :: between)) (htail : ScansTail min x between y rest) :
      Scans min (.openParen :: tokens) y rest
  | unary {min : Nat} {token : Token} {form : Expr → Expr} {tokens between rest : List Token}
      {x y : Expr} (hform : token.unaryForm? = some form)
      (hx : Scans unaryLevel tokens x between)
      (htail : ScansTail min (form x) between y rest) : Scans min (token :: tokens) y rest

/-- An operand has been read; it grows by what follows. -/
inductive ScansTail : Nat → Expr → List Token → Expr → List Token → Prop where
  | stop {min : Nat} {x : Expr} {tokens : List Token} (hstop : Stops min tokens) :
      ScansTail min x tokens x tokens
  | suffix {min : Nat} {x y : Expr} {tokens between rest : List Token} {suffix : Suffix}
      (hmin : min ≤ operandLevel) (hsuffix : ScansSuffix tokens suffix between)
      (htail : ScansTail min (suffix.on x) between y rest) : ScansTail min x tokens y rest
  | binary {min level : Nat} {token : Token} {op : BinaryOp} {x y z : Expr}
      {tokens between rest : List Token} (hop : token.binaryOp? = some (level, op))
      (hmin : min ≤ level) (hy : Scans (level + 1) tokens y between)
      (htail : ScansTail min (.binary x op y) between z rest) :
      ScansTail min x (token :: tokens) z rest

inductive ScansSuffix : List Token → Suffix → List Token → Prop where
  | selector {sel : String} {rest : List Token} :
      ScansSuffix (.dot :: .name sel :: rest) (.selector sel) rest
  | typeAssert {type : String} {rest : List Token} :
      ScansSuffix (.dot :: .openParen :: .name type :: .closeParen :: rest) (.typeAssert type) rest
  | bracket {tokens between rest : List Token} {first : Option Expr} {suffix : Suffix}
      (hfirst : ScansOption tokens first between)
      (hbracket : ScansBracket first between suffix rest) :
      ScansSuffix (.openBracket :: tokens) suffix rest
  | callEmpty {rest : List Token} :
      ScansSuffix (.openParen :: .closeParen :: rest) (.call [] false) rest
  | call {tokens rest : List Token} {args : List Expr}
      (h : ScansList tokens args (.closeParen :: rest)) :
      ScansSuffix (.openParen :: tokens) (.call args false) rest
  | callSpread {tokens rest : List Token} {args : List Expr}
      (h : ScansList tokens args (.ellipsis :: .closeParen :: rest)) :
      ScansSuffix (.openParen :: tokens) (.call args true) rest

/-- A bracket has been opened, and what stands first in it has been read. -/
inductive ScansBracket : Option Expr → List Token → Suffix → List Token → Prop where
  | one {x : Expr} {rest : List Token} :
      ScansBracket (some x) (.closeBracket :: rest) (.index [x]) rest
  | more {x : Expr} {xs : List Expr} {tokens rest : List Token}
      (h : ScansList tokens xs (.closeBracket :: rest)) :
      ScansBracket (some x) (.comma :: tokens) (.index (x :: xs)) rest
  | slice {low high : Option Expr} {tokens rest : List Token}
      (hhigh : ScansOption tokens high (.closeBracket :: rest)) :
      ScansBracket low (.colon :: tokens) (.slice low high none) rest
  | fullSlice {low high : Option Expr} {max : Expr} {tokens last rest : List Token}
      (hhigh : ScansOption tokens high (.colon :: last))
      (hmax : Scans 0 last max (.closeBracket :: rest)) :
      ScansBracket low (.colon :: tokens) (.slice low high (some max)) rest

inductive ScansList : List Token → List Expr → List Token → Prop where
  | one {tokens rest : List Token} {x : Expr} (hx : Scans 0 tokens x rest)
      (hend : rest.head? ≠ some .comma) : ScansList tokens [x] rest
  | cons {tokens between rest : List Token} {x : Expr} {xs : List Expr}
      (hx : Scans 0 tokens x (.comma :: between)) (hxs : ScansList between xs rest) :
      ScansList tokens (x :: xs) rest

inductive ScansOption : List Token → Option Expr → List Token → Prop where
  | none {token : Token} {tokens : List Token} (hcloses : token.closes = true) :
      ScansOption (token :: tokens) none (token :: tokens)
  | some {tokens rest : List Token} {x : Expr} (hx : Scans 0 tokens x rest) :
      ScansOption tokens (some x) rest

end

/-! ## Scanning is a function -/

/-- A suffix starts with a token that goes on. -/
theorem ScansSuffix.not_stops {tokens rest : List Token} {suffix : Suffix}
    (h : ScansSuffix tokens suffix rest) {min : Nat} (hmin : min ≤ operandLevel) :
    ¬ Stops min tokens := by
  intro hstop
  cases h <;> exact absurd (hstop _ rfl _ rfl) (Nat.not_lt.2 hmin)

/-- A suffix starts with no operator. -/
theorem ScansSuffix.binaryOp?_eq_none {token : Token} {tokens rest : List Token} {suffix : Suffix}
    (h : ScansSuffix (token :: tokens) suffix rest) : token.binaryOp? = none := by
  cases h <;> rfl

theorem Stops.lt_of_binaryOp? {min level : Nat} {token : Token} {tokens : List Token}
    {op : BinaryOp} (h : Stops min (token :: tokens)) (hop : token.binaryOp? = some (level, op)) :
    level < min := by
  refine h token rfl level ?_
  cases token with
  | operator text => exact congrArg (Option.map Prod.fst) hop
  | _ => cases hop

/-- An expression does not start with a token that closes. -/
theorem Scans.closes_eq_false {min : Nat} {token : Token} {tokens rest : List Token} {x : Expr}
    (h : Scans min (token :: tokens) x rest) : token.closes = false := by
  cases h with
  | unary hform =>
    cases token with
    | operator text => rfl
    | _ => cases hform
  | _ => rfl

theorem ScansList.closes_eq_false {token : Token} {tokens rest : List Token} {xs : List Expr}
    (h : ScansList (token :: tokens) xs rest) : token.closes = false := by
  cases h with
  | one hx => exact hx.closes_eq_false
  | cons hx => exact hx.closes_eq_false

mutual

theorem Scans.unique : ∀ {min : Nat} {tokens rest rest' : List Token} {x x' : Expr},
    Scans min tokens x rest → Scans min tokens x' rest' → x = x' ∧ rest = rest'
  | _, _, _, _, _, _, .name htail, .name htail' => htail.unique htail'
  | _, _, _, _, _, _, .literal htail, .literal htail' => htail.unique htail'
  | _, _, _, _, _, _, .paren hx htail, .paren hx' htail' => by
    obtain ⟨rfl, hbetween⟩ := hx.unique hx'
    obtain ⟨-, rfl⟩ := List.cons.inj hbetween
    exact htail.unique htail'
  | _, _, _, _, _, _, .unary hform hx htail, .unary hform' hx' htail' => by
    obtain rfl := Option.some.inj (hform.symm.trans hform')
    obtain ⟨rfl, rfl⟩ := hx.unique hx'
    exact htail.unique htail'
termination_by structural _ _ _ _ _ _ h => h

theorem ScansTail.unique : ∀ {min : Nat} {tokens rest rest' : List Token} {x y y' : Expr},
    ScansTail min x tokens y rest → ScansTail min x tokens y' rest' → y = y' ∧ rest = rest'
  | _, _, _, _, _, _, _, .stop _, .stop _ => ⟨rfl, rfl⟩
  | _, _, _, _, _, _, _, .suffix _ hsuffix htail, .suffix _ hsuffix' htail' => by
    obtain ⟨rfl, rfl⟩ := hsuffix.unique hsuffix'
    exact htail.unique htail'
  | _, _, _, _, _, _, _, .binary hop _ hy htail, .binary hop' _ hy' htail' => by
    obtain ⟨rfl, rfl⟩ := Prod.mk.inj (Option.some.inj (hop.symm.trans hop'))
    obtain ⟨rfl, rfl⟩ := hy.unique hy'
    exact htail.unique htail'
  | _, _, _, _, _, _, _, .stop hstop, .suffix hmin hsuffix _
  | _, _, _, _, _, _, _, .suffix hmin hsuffix _, .stop hstop =>
    absurd hstop (hsuffix.not_stops hmin)
  | _, _, _, _, _, _, _, .stop hstop, .binary hop hmin _ _
  | _, _, _, _, _, _, _, .binary hop hmin _ _, .stop hstop =>
    absurd (hstop.lt_of_binaryOp? hop) (Nat.not_lt.2 hmin)
  | _, _, _, _, _, _, _, .suffix _ hsuffix _, .binary hop _ _ _
  | _, _, _, _, _, _, _, .binary hop _ _ _, .suffix _ hsuffix _ => by
    rw [hsuffix.binaryOp?_eq_none] at hop
    cases hop
termination_by structural _ _ _ _ _ _ _ h => h

theorem ScansSuffix.unique : ∀ {tokens rest rest' : List Token} {suffix suffix' : Suffix},
    ScansSuffix tokens suffix rest → ScansSuffix tokens suffix' rest' →
      suffix = suffix' ∧ rest = rest'
  | _, _, _, _, _, .selector, .selector => ⟨rfl, rfl⟩
  | _, _, _, _, _, .typeAssert, .typeAssert => ⟨rfl, rfl⟩
  | _, _, _, _, _, .bracket hfirst hbracket, .bracket hfirst' hbracket' => by
    obtain ⟨rfl, rfl⟩ := hfirst.unique hfirst'
    exact hbracket.unique hbracket'
  | _, _, _, _, _, .callEmpty, .callEmpty => ⟨rfl, rfl⟩
  | _, _, _, _, _, .call h, .call h' => by
    obtain ⟨rfl, hrest⟩ := h.unique h'
    cases hrest
    exact ⟨rfl, rfl⟩
  | _, _, _, _, _, .callSpread h, .callSpread h' => by
    obtain ⟨rfl, hrest⟩ := h.unique h'
    cases hrest
    exact ⟨rfl, rfl⟩
  | _, _, _, _, _, .call h, .callSpread h' | _, _, _, _, _, .callSpread h, .call h' => by
    obtain ⟨-, hrest⟩ := h.unique h'
    cases hrest
  | _, _, _, _, _, .callEmpty, .call h | _, _, _, _, _, .callEmpty, .callSpread h
  | _, _, _, _, _, .call h, .callEmpty | _, _, _, _, _, .callSpread h, .callEmpty => by
    cases h.closes_eq_false
termination_by structural _ _ _ _ _ h => h

theorem ScansBracket.unique : ∀ {first : Option Expr} {tokens rest rest' : List Token}
    {suffix suffix' : Suffix}, ScansBracket first tokens suffix rest →
      ScansBracket first tokens suffix' rest' → suffix = suffix' ∧ rest = rest'
  | _, _, _, _, _, _, .one, .one => ⟨rfl, rfl⟩
  | _, _, _, _, _, _, .more h, .more h' => by
    obtain ⟨rfl, hrest⟩ := h.unique h'
    cases hrest
    exact ⟨rfl, rfl⟩
  | _, _, _, _, _, _, .slice hhigh, .slice hhigh' => by
    obtain ⟨rfl, hrest⟩ := hhigh.unique hhigh'
    cases hrest
    exact ⟨rfl, rfl⟩
  | _, _, _, _, _, _, .fullSlice hhigh hmax, .fullSlice hhigh' hmax' => by
    obtain ⟨rfl, hlast⟩ := hhigh.unique hhigh'
    cases hlast
    obtain ⟨rfl, hrest⟩ := hmax.unique hmax'
    cases hrest
    exact ⟨rfl, rfl⟩
  | _, _, _, _, _, _, .slice hhigh, .fullSlice hhigh' _
  | _, _, _, _, _, _, .fullSlice hhigh _, .slice hhigh' => by
    obtain ⟨-, hrest⟩ := hhigh.unique hhigh'
    cases hrest
termination_by structural _ _ _ _ _ _ h => h

theorem ScansList.unique : ∀ {tokens rest rest' : List Token} {xs xs' : List Expr},
    ScansList tokens xs rest → ScansList tokens xs' rest' → xs = xs' ∧ rest = rest'
  | _, _, _, _, _, .one hx _, .one hx' _ => by
    obtain ⟨rfl, rfl⟩ := hx.unique hx'
    exact ⟨rfl, rfl⟩
  | _, _, _, _, _, .one hx hend, .cons hx' _ => by
    obtain ⟨-, rfl⟩ := hx.unique hx'
    exact absurd rfl hend
  | _, _, _, _, _, .cons hx _, .one hx' hend => by
    obtain ⟨-, hrest⟩ := hx.unique hx'
    exact absurd (hrest ▸ rfl) hend
  | _, _, _, _, _, .cons hx hxs, .cons hx' hxs' => by
    obtain ⟨rfl, hbetween⟩ := hx.unique hx'
    cases hbetween
    obtain ⟨rfl, rfl⟩ := hxs.unique hxs'
    exact ⟨rfl, rfl⟩
termination_by structural _ _ _ _ _ h => h

theorem ScansOption.unique : ∀ {tokens rest rest' : List Token} {x x' : Option Expr},
    ScansOption tokens x rest → ScansOption tokens x' rest' → x = x' ∧ rest = rest'
  | _, _, _, _, _, .none _, .none _ => ⟨rfl, rfl⟩
  | _, _, _, _, _, .some hx, .some hx' => by
    obtain ⟨rfl, rfl⟩ := hx.unique hx'
    exact ⟨rfl, rfl⟩
  | _, _, _, _, _, .none hcloses, .some hx | _, _, _, _, _, .some hx, .none hcloses => by
    rw [hx.closes_eq_false] at hcloses
    cases hcloses
termination_by structural _ _ _ _ _ h => h

end

/-! ## What the grammar derives is scanned -/

/-- No operator of level 6 follows an operand. -/
theorem Stops.unaryLevel {tokens : List Token} (h : Stops operandLevel tokens) :
    Stops Grammar.unaryLevel tokens := by
  intro token htoken power hpower
  have hlt := h token htoken power hpower
  rcases Token.power?_cases hpower with rfl | hpower
  · exact absurd hlt (Nat.lt_irrefl _)
  · exact hpower

theorem Stops.of_operator {text : String} {level : Nat} {op : BinaryOp}
    (h : (text, level, op) ∈ Grammar.binaryOperators) (tokens : List Token) :
    Stops (level + 1) (.operator text :: tokens) := by
  simp [Stops, Token.power?_operator h]

/-- At the highest level anything may follow. -/
theorem Stops.top (tokens : List Token) : Stops (operandLevel + 1) tokens := by
  intro token _ power hpower
  rcases Token.power?_cases hpower with rfl | hpower
  · exact Nat.lt_succ_self _
  · exact hpower.trans (by decide)

mutual

/-- An expression of the grammar is scanned as a whole, and grows by what follows it. -/
theorem Reads.scans : ∀ {level : Nat} {tokens : List Token} {x : Expr}, Reads level tokens x →
    ∀ {min : Nat} {more rest : List Token} {y : Expr}, min ≤ level → Stops (level + 1) more →
      ScansTail min x more y rest → Scans min (tokens ++ more) y rest
  | _, _, _, .binary hop hleft hright, _, more, _, _, hmin, hstop, htail => by
    -- the left operand stops at the operator, and the right one where the whole stops
    have hy := hright.scans le_rfl (hstop.mono (Nat.le_succ _)) (.stop hstop)
    have hgrown := ScansTail.binary (Token.binaryOp?_operator hop) hmin hy htail
    simpa using hleft.scans hmin (.of_operator hop _) hgrown
  | _, _, _, .unary hop hx, _, _, _, _, _, hstop, htail =>
    .unary (Token.unaryForm?_operator hop) (hx.scans le_rfl hstop (.stop hstop.unaryLevel)) htail
  | _, _, _, .star hx, _, _, _, _, _, hstop, htail =>
    .unary rfl (hx.scans le_rfl hstop (.stop hstop.unaryLevel)) htail
  | _, _, _, .name _, _, _, _, _, _, _, htail => .name htail
  | _, _, _, .literal _, _, _, _, _, _, _, htail => .literal htail
  | _, _, _, .paren hx, _, more, _, _, _, _, htail => by
    have hinner := hx.scans le_rfl (.closeParen more) (.stop (.closeParen more))
    simpa using Scans.paren hinner htail
  | _, _, _, .suffix hx hsuffix, _, more, _, _, hmin, _, htail => by
    rw [List.append_assoc]
    exact hx.scans hmin (.top _) (.suffix hmin (hsuffix.scans more) htail)
  | _, _, _, .weaken _ hx, _, _, _, _, hmin, hstop, htail =>
    hx.scans (hmin.trans (Nat.le_succ _)) (hstop.mono (Nat.le_succ _)) htail

theorem ReadsSuffix.scans : ∀ {tokens : List Token} {suffix : Suffix}, ReadsSuffix tokens suffix →
    ∀ more, ScansSuffix (tokens ++ more) suffix more
  | _, _, .selector _, _ => .selector
  | _, _, .typeAssert _, _ => .typeAssert
  | _, _, .index (.one hx), more => by
    have hfirst := hx.scans le_rfl (.closeBracket more) (.stop (.closeBracket more))
    simpa using ScansSuffix.bracket (.some hfirst) .one
  | _, _, .index (.cons hx hrest), more => by
    have hfirst (rest) := hx.scans le_rfl (.comma rest) (.stop (.comma rest))
    have hrest := hrest.scans (.closeBracket more) (by simp)
    simpa using ScansSuffix.bracket (.some (hfirst _)) (.more hrest)
  | _, _, .slice hlow hhigh, more => by
    simpa using ScansSuffix.bracket (hlow.scans rfl _) (.slice (hhigh.scans rfl more))
  | _, _, .fullSlice hlow hhigh hmax, more => by
    have hhigh (rest) := hhigh.scans le_rfl (.colon rest) (.stop (.colon rest))
    have hmax := hmax.scans le_rfl (.closeBracket more) (.stop (.closeBracket more))
    simpa using ScansSuffix.bracket (hlow.scans rfl _) (.fullSlice (.some (hhigh _)) hmax)
  | _, _, .callEmpty, _ => .callEmpty
  | _, _, .call h, more => by
    simpa using ScansSuffix.call (h.scans (.closeParen more) (by simp))
  | _, _, .callSpread h, more => by
    simpa using ScansSuffix.callSpread (h.scans (.ellipsis (.closeParen :: more)) (by simp))

theorem ReadsList.scans : ∀ {tokens : List Token} {xs : List Expr}, ReadsList tokens xs →
    ∀ {more : List Token}, Stops 0 more → more.head? ≠ some .comma →
      ScansList (tokens ++ more) xs more
  | _, _, .one hx, _, hstop, hend =>
    .one (hx.scans le_rfl (hstop.mono (Nat.zero_le _)) (.stop hstop)) hend
  | _, _, .cons hx hrest, _, hstop, hend => by
    have hfirst (rest) := hx.scans le_rfl (.comma rest) (.stop (.comma rest))
    simpa using ScansList.cons (hfirst _) (hrest.scans hstop hend)

theorem ReadsOption.scans : ∀ {tokens : List Token} {x : Option Expr}, ReadsOption tokens x →
    ∀ {token : Token}, token.closes = true →
      ∀ more, ScansOption (tokens ++ token :: more) x (token :: more)
  | _, _, .none, _, hcloses, _ => .none hcloses
  | _, _, .some hx, _, hcloses, more =>
    .some (hx.scans le_rfl (.of_closes hcloses more) (.stop (.of_closes hcloses more)))

end

/-! ## Printed expressions -/

/-- The grammar is unambiguous. -/
theorem Reads.unique {tokens : List Token} {x y : Expr} (hx : Reads 0 tokens x)
    (hy : Reads 0 tokens y) : x = y := by
  have hscan {z : Expr} (hz : Reads 0 tokens z) : Scans 0 tokens z [] := by
    simpa using hz.scans le_rfl (.nil _) (.stop (.nil _))
  exact ((hscan hx).unique (hscan hy)).1

/-- The tokens of a printed expression are derived in the grammar as this expression, without
parentheses, kinds of literals and annotations, and as no other. So expressions with the same
tokens are the same up to these. -/
theorem Expr.reads_tokens_iff {x : Expr} (hx : x.Simple) :
    (∀ y, Reads 0 x.tokens y ↔ y = x.bare) ∧
      ∀ other : Expr, other.Simple → other.tokens = x.tokens → other.bare = x.bare := by
  have hread {z : Expr} (hz : z.Simple) : Reads 0 z.tokens z.bare :=
    (Expr.reads_layout hz).layoutAt (Nat.zero_le _)
  refine ⟨fun y => ⟨fun hy => hy.unique (hread hx), ?_⟩, fun other hother htokens => ?_⟩
  · rintro rfl
    exact hread hx
  · exact (htokens ▸ hread hother).unique (hread hx)

/-- `-a * (b + c)` reads as a product with a sign in its left operand, not as a product with a
sign before it. -/
theorem Expr.reads_tokens_sample :
    let tokens : List Token :=
      [.operator "-", .name "a", .operator "*",
        .openParen, .name "b", .operator "+", .name "c", .closeParen]
    let sum : Expr := .binary (.name "b") .add (.name "c")
    Reads 0 tokens (.binary (.unary .neg (.name "a") none) .mul sum) ∧
      ¬ Reads 0 tokens (.unary .neg (.binary (.name "a") .mul sum) none) := by
  have hleft : Simple (.unary .neg (.name "a") none) := .unary .neg (.ident _) none
  have hright : Simple (.binary (.name "b") .add (.name "c")) := .binary (.ident _) .add (.ident _)
  have hiff := (Expr.reads_tokens_iff (.binary hleft .mul hright)).1
  exact ⟨(hiff _).2 rfl, fun h => nomatch (hiff _).1 h⟩

end GoProbe
