import Mathlib.Data.List.Sort

/-!
# Order statistics

The entry at an index of a sorted list is the least value that has more values than the index at or
below it (`lt_countP_getElem`, `getElem_le_of_lt_countP`).
-/

namespace DriftGuardX.OrderStatistic

variable {α : Type} [LinearOrder α] {xs : List α} {i j : ℕ} {s : α}

/-- `sorted(xs)`. -/
def sorted (xs : List α) : List α := xs.insertionSort (· ≤ ·)

@[simp] theorem length_sorted : (sorted xs).length = xs.length := List.length_insertionSort _ _

@[simp] theorem mem_sorted : s ∈ sorted xs ↔ s ∈ xs := List.mem_insertionSort _

theorem countP_sorted (p : α → Bool) : (sorted xs).countP p = xs.countP p :=
  (List.perm_insertionSort _ xs).countP_eq p

theorem getElem_le_getElem (hij : i ≤ j) (hj : j < (sorted xs).length) :
    (sorted xs)[i] ≤ (sorted xs)[j] :=
  List.sortedLE_insertionSort.getElem_le_getElem_of_le hij

theorem lt_countP_getElem (hi : i < (sorted xs).length) :
    i < xs.countP fun x ↦ decide (x ≤ (sorted xs)[i]) := by
  have htake : ((sorted xs).take (i + 1)).countP (fun x ↦ decide (x ≤ (sorted xs)[i])) = i + 1 := by
    rw [List.countP_eq_length.mpr, List.length_take, min_eq_left hi]
    intro x hx
    obtain ⟨j, hj, rfl⟩ := List.mem_take_iff_getElem.mp hx
    exact decide_eq_true (getElem_le_getElem (by omega) hi)
  have hle := (List.take_sublist (i + 1) (sorted xs)).countP_le (p := fun x ↦
    decide (x ≤ (sorted xs)[i]))
  rw [htake, countP_sorted] at hle
  exact hle

theorem getElem_le_of_lt_countP (hi : i < (sorted xs).length)
    (hs : i < xs.countP fun x ↦ decide (x ≤ s)) : (sorted xs)[i] ≤ s := by
  by_contra hlt
  -- from this entry on, no entry is at or below the value
  have hdrop : ((sorted xs).drop i).countP (fun x ↦ decide (x ≤ s)) = 0 := by
    refine List.countP_eq_zero.mpr fun x hx hle ↦ ?_
    obtain ⟨j, hj, rfl⟩ := List.mem_drop_iff_getElem.mp hx
    exact hlt ((getElem_le_getElem (by omega) _).trans (of_decide_eq_true hle))
  have hcount : xs.countP (fun x ↦ decide (x ≤ s)) ≤ i := by
    rw [← countP_sorted, ← List.take_append_drop i (sorted xs), List.countP_append, hdrop, Nat.add_zero]
    exact List.countP_le_length.trans (List.length_take_le i _)
  exact absurd hs (not_lt.mpr hcount)

end DriftGuardX.OrderStatistic
