/-!
# Words

Numbers that are stored in words of a fixed number of bits.
-/

namespace GoProbe

/-- How many numbers a word of this many bits holds. -/
def wordCount (bits : Nat) : Nat := Nat.pow 2 bits

end GoProbe
