import GoProbe.Word

/-!
# Texts from bytes

Bytes as a text, with the replacement character in place of whatever is not UTF-8: one for each
longest start of a character that is broken off, and one for each byte that can start none.
-/

namespace GoProbe.Text

/-- How many bytes follow the first byte of a character, and the range of the second byte. -/
def leadShape? (b : UInt8) : Option (Nat × UInt8 × UInt8) :=
  if 0xc2 ≤ b && b ≤ 0xdf then some (1, 0x80, 0xbf)
  else if b == 0xe0 then some (2, 0xa0, 0xbf)
  else if b == 0xed then some (2, 0x80, 0x9f)
  else if 0xe1 ≤ b && b ≤ 0xef then some (2, 0x80, 0xbf)
  else if b == 0xf0 then some (3, 0x90, 0xbf)
  else if 0xf1 ≤ b && b ≤ 0xf3 then some (3, 0x80, 0xbf)
  else if b == 0xf4 then some (3, 0x80, 0x8f)
  else none

/-- The tail bytes at the start of some bytes, at most `count`; the first lies in a range. -/
def tailOf (low high : UInt8) : Nat → List UInt8 → List UInt8
  | count + 1, b :: rest =>
    if low ≤ b && b ≤ high then b :: tailOf 0x80 0xbf count rest else []
  | _, _ => []

/-- The code that a first byte and its tail spell. -/
def codeOf (first : UInt8) (tail : List UInt8) : Nat :=
  let start := first.toNat % wordCount (6 - tail.length)
  tail.foldl (fun code b => code * 64 + b.toNat % 64) start

/-- The characters of some bytes; `count` bounds their number. -/
def lossyChars : Nat → List UInt8 → List Char
  | 0, _ => []
  | _, [] => []
  | count + 1, b :: rest =>
    if b < 0x80 then Char.ofNat b.toNat :: lossyChars count rest
    else
      match leadShape? b with
      | none => '�' :: lossyChars count rest
      | some (more, low, high) =>
        let tail := tailOf low high more rest
        let c := if tail.length == more then Char.ofNat (codeOf b tail) else '�'
        c :: lossyChars count (rest.drop tail.length)

/-- The text of some bytes. -/
def lossy (bytes : ByteArray) : String :=
  String.ofList (lossyChars bytes.size bytes.toList)

/-- The characters with the Unicode property White_Space. -/
def isSpace (c : Char) : Bool :=
  let n := c.toNat
  (0x09 ≤ n && n ≤ 0x0d) || n == 0x20 || n == 0x85 || n == 0xa0 || n == 0x1680 ||
    (0x2000 ≤ n && n ≤ 0x200a) || n == 0x2028 || n == 0x2029 || n == 0x202f || n == 0x205f ||
    n == 0x3000

/-- A text without white space at its ends. -/
def trim (text : String) : String :=
  String.ofList ((text.toList.dropWhile isSpace).reverse.dropWhile isSpace).reverse

end GoProbe.Text
