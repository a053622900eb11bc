import Mathlib

/-!
# Ranks in a list

What the item at a place of the sorted list says about how many items of the
list are below a bound, and how many are not.
-/

namespace Rank

set_option autoImplicit false

universe u

variable {α : Type u} [LinearOrder α]

def sorted (items : List α) : List α := items.mergeSort

theorem pairwise_sorted (items : List α) : (sorted items).Pairwise (· ≤ ·) :=
  List.pairwise_mergeSort' (· ≤ ·) items

theorem length_sorted (items : List α) : (sorted items).length = items.length :=
  List.length_mergeSort items

theorem mem_sorted {items : List α} {item : α} : item ∈ sorted items ↔ item ∈ items :=
  List.mem_mergeSort

theorem countP_sorted (items : List α) (p : α → Bool) : (sorted items).countP p = items.countP p :=
  (List.mergeSort_perm items _).countP_eq p

section Sorted

variable {items : List α} {place : Nat} {bound : α}

theorem getElem_le (hSorted : items.Pairwise (· ≤ ·)) {first second : Nat}
    (hFirst : first < items.length) (hSecond : second < items.length) (h : first ≤ second) :
    items[first] ≤ items[second] := by
  rcases Nat.lt_or_eq_of_le h with hLess | rfl
  · exact List.pairwise_iff_getElem.mp hSorted first second hFirst hSecond hLess
  · exact le_refl _

/-- Nothing up to the place reaches the bound. -/
theorem countP_take (hSorted : items.Pairwise (· ≤ ·)) (hPlace : place < items.length)
    (hBelow : items[place] < bound) : (items.take (place + 1)).countP (bound ≤ ·) = 0 := by
  rw [List.countP_eq_zero]
  intro item hMem hBound
  obtain ⟨index, hIndex, rfl⟩ := List.getElem_of_mem hMem
  rw [List.length_take] at hIndex
  rw [List.getElem_take, decide_eq_true_eq] at hBound
  have hLe := getElem_le hSorted (show index < items.length by omega) hPlace (by omega)
  exact absurd (hBound.trans hLe) hBelow.not_ge

/-- Everything from the place on reaches the bound. -/
theorem countP_drop (hSorted : items.Pairwise (· ≤ ·)) (hPlace : place < items.length)
    (hReached : bound ≤ items[place]) :
    (items.drop place).countP (bound ≤ ·) = items.length - place := by
  rw [← List.length_drop, List.countP_eq_length]
  intro item hMem
  obtain ⟨index, hIndex, rfl⟩ := List.getElem_of_mem hMem
  rw [List.length_drop] at hIndex
  rw [List.getElem_drop, decide_eq_true_eq]
  exact hReached.trans (getElem_le hSorted hPlace (by omega) (Nat.le_add_right place index))

end Sorted

variable {items : List α} {place : Nat} {bound : α}

theorem count_le_of_below (hPlace : place < (sorted items).length)
    (hBelow : (sorted items)[place] < bound) :
    items.countP (bound ≤ ·) ≤ items.length - (place + 1) := by
  rw [← countP_sorted, ← List.take_append_drop (place + 1) (sorted items), List.countP_append,
    countP_take (pairwise_sorted items) hPlace hBelow, Nat.zero_add, ← length_sorted items,
    ← List.length_drop]
  exact List.countP_le_length

theorem le_count_of_reached (hPlace : place < (sorted items).length)
    (hReached : bound ≤ (sorted items)[place]) :
    items.length - place ≤ items.countP (bound ≤ ·) := by
  rw [← countP_sorted, ← List.take_append_drop place (sorted items), List.countP_append,
    countP_drop (pairwise_sorted items) hPlace hReached, length_sorted]
  exact Nat.le_add_left _ _

end Rank
