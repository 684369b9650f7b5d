/-!
# Runs of characters

A class of characters as an ascending list of bounds: the class starts at the first bound, ends
before the second, starts again at the third, and so on.
-/

namespace GoProbe.Text

/-- Whether a character lies in the class that the bounds describe. -/
def inRuns (bounds : List Nat) (c : Char) : Bool :=
  (bounds.takeWhile (· ≤ c.toNat)).length % 2 == 1

end GoProbe.Text
