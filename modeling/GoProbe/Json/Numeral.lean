import GoProbe.Json.Reader
import GoProbe.Word

/-!
# The range of numerals

Which numerals stand for a finite number of double precision. There are two measures. `isFinite`
rounds the number itself. `isFiniteByParts` keeps as many digits as fit in a word of 64 bits,
rounds them and the power of ten each on its own, and then their product; close to the greatest
finite number the two can differ in either direction.
-/

namespace GoProbe.Json

/-! ## Double precision -/

/-- The least number that double precision rounds to infinity. -/
def overflow : Nat := Nat.pow 2 1024 - Nat.pow 2 970

/-- The nearest number of 53 significant bits; of two that are equally near, the even one. -/
def nearest (n : Nat) : Nat :=
  let unit := Nat.pow 2 (n.log2 - 52)
  let kept := n / unit
  let cut := 2 * (n % unit)
  let roundsUp := unit < cut || (cut == unit && kept % 2 == 1)
  (if roundsUp then kept + 1 else kept) * unit

/-! ## Numerals -/

/-- An unsigned numeral: digits before and after the point, and the power of ten they are
multiplied by. -/
structure Numeral where
  whole : List Char
  fraction : List Char := []
  exponent : Int := 0

namespace Numeral

/-- The numeral that a text without a sign spells. -/
def ofChars (text : List Char) : Numeral :=
  let (whole, rest) := digits text
  let (fraction, rest) := match rest with
    | '.' :: rest => digits rest
    | rest => ([], rest)
  let exponent : Int := match rest with
    | _ :: '-' :: ds => -(digitsValue ds : Int)
    | _ :: '+' :: ds => digitsValue ds
    | _ :: ds => digitsValue ds
    | [] => 0
  { whole, fraction, exponent }

/-- The numeral of a natural number. -/
def ofNat (n : Nat) : Numeral := { whole := Nat.toDigits 10 n }

/-- Whether the number rounds to a finite one. A number below one needs no comparison. -/
def isFinite (numeral : Numeral) : Bool :=
  let ds := numeral.whole ++ numeral.fraction
  let value := digitsValue ds
  let scale := numeral.exponent - numeral.fraction.length
  if value == 0 then true
  else if scale < 0 then
    ds.length ≤ (-scale).toNat || value < overflow * Nat.pow 10 (-scale).toNat
  else scale.toNat ≤ 308 && value * Nat.pow 10 scale.toNat < overflow

/-- Appends digits to a significand up to the first that does not fit in 64 bits, and counts those
that were appended. -/
def appendDigits (significand : Nat) : List Char → Nat × Nat
  | [] => (significand, 0)
  | d :: rest =>
    let longer := significand * 10 + digitsValue [d]
    if longer < wordCount 64 then
      let (result, count) := appendDigits longer rest
      (result, count + 1)
    else (significand, 0)

/-- The significand of at most 64 bits and the power of ten it is multiplied by. Digits before the
point that do not fit raise the power, digits after it are dropped. -/
def significand (numeral : Numeral) : Nat × Int :=
  let (leading, count) := appendDigits 0 numeral.whole
  let (all, places) := appendDigits leading numeral.fraction
  (all, numeral.exponent + (numeral.whole.length - count : Nat) - places)

/-- Whether the product of the rounded significand and the rounded power of ten is finite. Powers
beyond the greatest finite one are refused unless the significand is zero. -/
def isFiniteByParts (numeral : Numeral) : Bool :=
  let (value, scale) := numeral.significand
  value == 0 || scale ≤ 0 ||
    (scale ≤ 308 && nearest value * nearest (Nat.pow 10 scale.toNat) < overflow)

end Numeral

end GoProbe.Json
