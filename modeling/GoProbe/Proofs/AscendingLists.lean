import Mathlib
import GoProbe.Ascending

/-!
# Ascending lists have each item once

`ascending` sorts and then shortens runs of equal items. In a sorted list equal items stand
together, so no item is left twice: under an order the outcome is strictly ascending
(`pairwise_ascending`), and it has the items of the list (`mem_ascending`).
-/

namespace GoProbe

section Runs

variable {α : Type} [BEq α]

theorem eraseRepsBy_loop (item : α) (items done : List α) :
    List.eraseRepsBy.loop (· == ·) item items done = done.reverse ++ (item :: items).eraseReps := by
  induction items generalizing item done with
  | nil => simp [List.eraseReps, List.eraseRepsBy, List.eraseRepsBy.loop]
  | cons next items ih =>
    simp only [List.eraseReps, List.eraseRepsBy, List.eraseRepsBy.loop]
    split
    · rw [ih, ih, List.reverse_nil, List.nil_append]
    · rw [ih, ih, List.reverse_cons, List.reverse_singleton, List.append_assoc]

@[simp] theorem eraseReps_singleton (item : α) : [item].eraseReps = [item] := rfl

/-- Of two equal neighbours the first is kept. -/
theorem eraseReps_cons_cons (item next : α) (items : List α) :
    (item :: next :: items).eraseReps =
      if item == next then (item :: items).eraseReps
      else item :: (next :: items).eraseReps := by
  rw [List.eraseReps, List.eraseRepsBy, List.eraseRepsBy.loop]
  split
  · next h => rw [eraseRepsBy_loop, h]; rfl
  · next h => rw [eraseRepsBy_loop, h]; rfl

variable [LawfulBEq α]

theorem mem_eraseReps_cons {a item : α} {items : List α} :
    a ∈ (item :: items).eraseReps ↔ a = item ∨ a ∈ items := by
  induction items generalizing item with
  | nil => simp
  | cons next items ih =>
    rw [eraseReps_cons_cons, List.mem_cons]
    split
    · next h =>
      obtain rfl := eq_of_beq h
      rw [ih, ← or_assoc, or_self]
    · rw [List.mem_cons, ih]

theorem mem_eraseReps {a : α} {items : List α} : a ∈ items.eraseReps ↔ a ∈ items := by
  cases items with
  | nil => rfl
  | cons item items => rw [mem_eraseReps_cons, List.mem_cons]

/-- In a sorted list all equal items stand together. -/
theorem pairwise_eraseReps {le : α → α → Bool} (antisymm : ∀ a b, le a b → le b a → a = b)
    {item : α} {items : List α} (h : (item :: items).Pairwise fun a b => le a b = true) :
    (item :: items).eraseReps.Pairwise fun a b => le a b = true ∧ a ≠ b := by
  induction items generalizing item with
  | nil => simp
  | cons next items ih =>
    obtain ⟨hitem, hrest⟩ := List.pairwise_cons.1 h
    rw [eraseReps_cons_cons]
    split
    · next heq =>
      obtain rfl := eq_of_beq heq
      exact ih hrest
    · next hne =>
      refine List.pairwise_cons.2 ⟨?_, ih hrest⟩
      intro b hb
      rw [mem_eraseReps] at hb
      refine ⟨hitem b hb, ?_⟩
      rintro rfl
      -- An item that comes back has the one after it between its two places.
      have hback : le next item = true := by
        rcases List.mem_cons.1 hb with heq | hb
        · exact heq ▸ hitem next List.mem_cons_self
        · exact (List.pairwise_cons.1 hrest).1 item hb
      exact hne (beq_iff_eq.2 (antisymm item next (hitem next List.mem_cons_self) hback))

end Runs

section Ascending

variable {α : Type} [BEq α] [LawfulBEq α] {le : α → α → Bool}

theorem mem_ascending {a : α} {items : List α} : a ∈ ascending le items ↔ a ∈ items := by
  rw [ascending, mem_eraseReps, List.mem_mergeSort]

theorem pairwise_ascending (trans : ∀ a b c, le a b → le b c → le a c)
    (total : ∀ a b, le a b || le b a) (antisymm : ∀ a b, le a b → le b a → a = b)
    (items : List α) : (ascending le items).Pairwise fun a b => le a b = true ∧ a ≠ b := by
  have hsorted := List.pairwise_mergeSort trans total items
  rw [ascending]
  cases hitems : items.mergeSort le with
  | nil => exact .nil
  | cons item rest =>
    rw [hitems] at hsorted
    exact pairwise_eraseReps antisymm hsorted

end Ascending

theorem mem_ascendingNames {name : String} {names : List String} :
    name ∈ ascendingNames names ↔ name ∈ names :=
  mem_ascending

theorem pairwise_ascendingNames (names : List String) :
    (ascendingNames names).Pairwise (· < ·) := by
  have hpairs : (ascendingNames names).Pairwise fun a b => decide (a ≤ b) = true ∧ a ≠ b := by
    refine pairwise_ascending ?_ ?_ ?_ names
    · intro a b c hab hbc
      exact decide_eq_true (String.le_trans (of_decide_eq_true hab) (of_decide_eq_true hbc))
    · intro a b
      simpa using String.le_total a b
    · intro a b hab hba
      exact String.le_antisymm (of_decide_eq_true hab) (of_decide_eq_true hba)
  refine hpairs.imp ?_
  intro a b hab
  exact lt_of_le_of_ne (of_decide_eq_true hab.1) hab.2

end GoProbe
