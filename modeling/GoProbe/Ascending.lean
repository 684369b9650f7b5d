/-!
# Ascending lists

A list brought into ascending order, with equal items once.
-/

namespace GoProbe

/-- The items in the order `le`, runs of equal items shortened to one. -/
def ascending {α : Type} [BEq α] (le : α → α → Bool) (items : List α) : List α :=
  (items.mergeSort le).eraseReps

/-- Names in ascending order, each once. -/
def ascendingNames (names : List String) : List String :=
  ascending (fun a b => decide (a ≤ b)) names

end GoProbe
