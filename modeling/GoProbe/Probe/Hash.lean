import GoProbe.Probe.Id

/-!
# The 64-bit XXH hash

Of one word, in little-endian byte order and with seed zero.
-/

namespace GoProbe

namespace Hash

def prime1 : UInt64 := 0x9E3779B185EBCA87
def prime2 : UInt64 := 0xC2B2AE3D27D4EB4F
def prime3 : UInt64 := 0x165667B19E3779F9
def prime4 : UInt64 := 0x85EBCA77C2B2AE63
def prime5 : UInt64 := 0x27D4EB2F165667C5

/-- Rotation to the left. -/
def rotate (word : UInt64) (count : UInt64) : UInt64 :=
  (word <<< count) ||| (word >>> (64 - count))

/-- One word of input, spread. -/
def spread (word : UInt64) : UInt64 :=
  rotate (word * prime2) 31 * prime1

/-- Makes every bit depend on every other. -/
def avalanche (word : UInt64) : UInt64 :=
  let word := (word ^^^ (word >>> 33)) * prime2
  let word := (word ^^^ (word >>> 29)) * prime3
  word ^^^ (word >>> 32)

/-- The hash of a word. -/
def xxh64 (word : UInt64) : UInt64 :=
  avalanche (rotate ((prime5 + 8) ^^^ spread word) 27 * prime1 + prime4)

end Hash

namespace Standard

/-- Ids are made with the XXH hash. -/
scoped instance wordHash : WordHash := ⟨Hash.xxh64⟩

end Standard

end GoProbe
