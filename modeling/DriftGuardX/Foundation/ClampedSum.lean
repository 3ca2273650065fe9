import Mathlib.Algebra.Order.BigOperators.Group.List
import Mathlib.Algebra.Order.Monoid.Defs
import Mathlib.Logic.Function.Basic

/-!
# Sums that are cut off

Amounts are poured into vessels one after the other, and each vessel holds no more than a bound. For
amounts that are not negative it makes no difference whether the bound is applied after each amount or
at the end (`pour_apply`), so their order makes no difference either (`pour_perm`).
-/

namespace DriftGuardX.ClampedSum

variable {κ K : Type} [DecidableEq κ] [AddCommMonoid K] [LinearOrder K] [IsOrderedAddMonoid K]

/-- Pour amounts into the vessels that are named with them. -/
def pour (bound : K) (levels : κ → K) (amounts : List (κ × K)) : κ → K :=
  amounts.foldl (fun levels a ↦ Function.update levels a.1 (min bound (levels a.1 + a.2))) levels

/-- What is poured into a vessel. -/
def inflow (amounts : List (κ × K)) (k : κ) : K := ((amounts.filter (·.1 = k)).map Prod.snd).sum

variable {bound x a b : K} {levels : κ → K} {amounts : List (κ × K)} {k : κ}

omit [DecidableEq κ] in
theorem min_add_min (hb : 0 ≤ b) : min bound (min bound (x + a) + b) = min bound (x + (a + b)) := by
  rw [← add_assoc]
  rcases le_total (x + a) bound with hle | hle
  · rw [min_eq_right hle]
  · rw [min_eq_left hle, min_eq_left (le_add_of_nonneg_right hb),
      min_eq_left (hle.trans (le_add_of_nonneg_right hb))]

omit [LinearOrder K] [IsOrderedAddMonoid K] in
theorem inflow_cons (m : κ × K) :
    inflow (m :: amounts) k = (if m.1 = k then m.2 else 0) + inflow amounts k := by
  by_cases hk : m.1 = k
  · rw [inflow, List.filter_cons, if_pos (decide_eq_true hk), if_pos hk, List.map_cons, List.sum_cons,
      inflow]
  · rw [inflow, List.filter_cons, if_neg (by simpa using hk), if_neg hk, zero_add, inflow]

omit [LinearOrder K] [IsOrderedAddMonoid K] in
theorem inflow_append (amounts' : List (κ × K)) :
    inflow (amounts ++ amounts') k = inflow amounts k + inflow amounts' k := by
  rw [inflow, List.filter_append, List.map_append, List.sum_append, inflow, inflow]

omit [LinearOrder K] [IsOrderedAddMonoid K] in
theorem inflow_perm {amounts' : List (κ × K)} (hperm : amounts.Perm amounts') :
    inflow amounts k = inflow amounts' k :=
  ((hperm.filter _).map Prod.snd).sum_eq

omit [LinearOrder K] [IsOrderedAddMonoid K] in
theorem inflow_eq_zero (h : ∀ m ∈ amounts, m.2 = 0) : inflow amounts k = 0 := by
  refine List.sum_eq_zero fun y hy ↦ ?_
  obtain ⟨m, hm, rfl⟩ := List.mem_map.mp hy
  exact h m (List.mem_of_mem_filter hm)

theorem inflow_nonneg (hamounts : ∀ m ∈ amounts, 0 ≤ m.2) : 0 ≤ inflow amounts k := by
  refine List.sum_nonneg fun y hy ↦ ?_
  obtain ⟨m, hm, rfl⟩ := List.mem_map.mp hy
  exact hamounts m (List.mem_of_mem_filter hm)

/-- **The bound may be applied at the end.** -/
theorem pour_apply (hlevels : ∀ k, levels k ≤ bound) (hamounts : ∀ m ∈ amounts, 0 ≤ m.2) :
    pour bound levels amounts k = min bound (levels k + inflow amounts k) := by
  induction amounts generalizing levels with
  | nil =>
    rw [inflow, List.filter_nil, List.map_nil, List.sum_nil, add_zero, min_eq_right (hlevels k)]
    rfl
  | cons m amounts ih =>
    obtain ⟨-, hrest⟩ := List.forall_mem_cons.mp hamounts
    have hupdate : ∀ k, Function.update levels m.1 (min bound (levels m.1 + m.2)) k ≤ bound := by
      intro k
      rw [Function.update_apply]
      split
      · exact min_le_left _ _
      · exact hlevels k
    have hcons : pour bound levels (m :: amounts)
        = pour bound (Function.update levels m.1 (min bound (levels m.1 + m.2))) amounts := rfl
    rw [hcons, ih hupdate hrest, inflow_cons]
    by_cases hk : m.1 = k
    · subst hk
      rw [Function.update_self, if_pos rfl, min_add_min (inflow_nonneg hrest)]
    · rw [Function.update_of_ne (Ne.symm hk), if_neg hk, zero_add]

theorem pour_le (hlevels : ∀ k, levels k ≤ bound) (hamounts : ∀ m ∈ amounts, 0 ≤ m.2) :
    pour bound levels amounts k ≤ bound := by
  rw [pour_apply hlevels hamounts]
  exact min_le_left _ _

theorem le_pour (hlevels : ∀ k, levels k ≤ bound) (hamounts : ∀ m ∈ amounts, 0 ≤ m.2) :
    levels k ≤ pour bound levels amounts k := by
  rw [pour_apply hlevels hamounts]
  exact le_min (hlevels k) (le_add_of_nonneg_right (inflow_nonneg hamounts))

theorem pour_perm {amounts' : List (κ × K)} (hlevels : ∀ k, levels k ≤ bound)
    (hamounts : ∀ m ∈ amounts, 0 ≤ m.2) (hperm : amounts.Perm amounts') :
    pour bound levels amounts = pour bound levels amounts' := by
  funext k
  have hamounts' : ∀ m ∈ amounts', 0 ≤ m.2 := fun m hm ↦ hamounts m (hperm.mem_iff.mpr hm)
  rw [pour_apply hlevels hamounts, pour_apply hlevels hamounts', inflow_perm hperm]

section Sources

variable {ι : Type} {sources : List ι} {key : ι → κ} {amount amount' : ι → K}

theorem inflow_map_le (h : ∀ i ∈ sources, amount i ≤ amount' i) :
    inflow (sources.map fun i ↦ (key i, amount i)) k
      ≤ inflow (sources.map fun i ↦ (key i, amount' i)) k := by
  induction sources with
  | nil => exact le_rfl
  | cons i sources ih =>
    obtain ⟨hi, hrest⟩ := List.forall_mem_cons.mp h
    rw [List.map_cons, List.map_cons, inflow_cons, inflow_cons]
    refine add_le_add ?_ (ih hrest)
    dsimp only
    split
    · exact hi
    · exact le_rfl

theorem exists_pos_of_inflow_pos (h : 0 < inflow (sources.map fun i ↦ (key i, amount i)) k) :
    ∃ i ∈ sources, key i = k ∧ 0 < amount i := by
  by_contra hnone
  have hle : ∀ y ∈ ((sources.map fun i ↦ (key i, amount i)).filter (·.1 = k)).map Prod.snd,
      y ≤ 0 := by
    intro y hy
    obtain ⟨m, hm, rfl⟩ := List.mem_map.mp hy
    obtain ⟨hmem, hkey⟩ := List.mem_filter.mp hm
    obtain ⟨i, hi, rfl⟩ := List.mem_map.mp hmem
    exact not_lt.mp fun hpos ↦ hnone ⟨i, hi, of_decide_eq_true hkey, hpos⟩
  exact absurd h (not_lt.mpr ((List.sum_le_card_nsmul _ 0 hle).trans_eq (nsmul_zero _)))

theorem inflow_pos_iff (h : ∀ i ∈ sources, 0 ≤ amount i) :
    0 < inflow (sources.map fun i ↦ (key i, amount i)) k ↔ ∃ i ∈ sources, key i = k ∧ 0 < amount i := by
  refine ⟨exists_pos_of_inflow_pos, ?_⟩
  rintro ⟨i, hi, rfl, hpos⟩
  obtain ⟨before, after, rfl⟩ := List.append_of_mem hi
  have hnonneg : ∀ part : List ι, (∀ j ∈ part, j ∈ before ++ i :: after) →
      0 ≤ inflow (part.map fun j ↦ (key j, amount j)) (key i) := by
    intro part hpart
    refine inflow_nonneg fun m hm ↦ ?_
    obtain ⟨j, hj, rfl⟩ := List.mem_map.mp hm
    exact h j (hpart j hj)
  rw [List.map_append, List.map_cons, inflow_append, inflow_cons, if_pos rfl]
  have hbefore := hnonneg before fun j hj ↦ List.mem_append_left _ hj
  have hafter := hnonneg after fun j hj ↦ List.mem_append_right _ (List.mem_cons_of_mem _ hj)
  calc 0 < amount i := hpos
    _ ≤ amount i + _ := le_add_of_nonneg_right hafter
    _ ≤ _ := le_add_of_nonneg_left hbefore

end Sources

end DriftGuardX.ClampedSum
