import Mathlib.Algebra.BigOperators.Group.List.Basic
import Mathlib.Algebra.BigOperators.Ring.List
import Mathlib.Algebra.Order.BigOperators.Group.List
import Mathlib.Algebra.Order.Field.Basic

/-!
# Shares of a total

Weights over a list, and the share that each weight has of their total. Shares add up to one, are
their own shares, and do not depend on a factor. So weights may be multiplied before or after they are
turned into shares (`share_mul_share`), which is what makes the order of multiplications immaterial.
-/

namespace DriftGuardX.Shares

variable {ι K : Type} [Field K]

def total (xs : List ι) (weight : ι → K) : K := (xs.map weight).sum

/-- The part of the total that a weight makes up. -/
def share (xs : List ι) (weight : ι → K) (x : ι) : K := weight x / total xs weight

variable {xs : List ι} {weight factor : ι → K} {x : ι}

theorem total_mul (k : K) : total xs (fun x ↦ weight x * k) = total xs weight * k :=
  List.sum_map_mul_right ..

theorem share_eq_mul : share xs weight = fun x ↦ weight x * (total xs weight)⁻¹ :=
  funext fun _ ↦ div_eq_mul_inv _ _

theorem total_share (h : total xs weight ≠ 0) : total xs (share xs weight) = 1 := by
  rw [share_eq_mul, total_mul, mul_inv_cancel₀ h]

theorem share_mul_share (h : total xs weight ≠ 0) :
    share xs (fun x ↦ factor x * share xs weight x) x
      = share xs (fun x ↦ factor x * weight x) x := by
  simp only [share_eq_mul, ← mul_assoc, total_mul]
  rw [mul_inv, inv_inv, mul_mul_mul_comm, inv_mul_cancel₀ h, mul_one]

section Order

variable [LinearOrder K] [IsStrictOrderedRing K]

theorem total_pos (hxs : xs ≠ []) (hweight : ∀ x ∈ xs, 0 < weight x) : 0 < total xs weight := by
  refine List.sum_pos _ ?_ (by simpa using hxs)
  simpa using hweight

theorem share_pos (hweight : ∀ x ∈ xs, 0 < weight x) (hx : x ∈ xs) : 0 < share xs weight x :=
  div_pos (hweight x hx) (total_pos (List.ne_nil_of_mem hx) hweight)

theorem share_le_one (hweight : ∀ x ∈ xs, 0 < weight x) (hx : x ∈ xs) : share xs weight x ≤ 1 := by
  have hnonneg : ∀ w ∈ xs.map weight, 0 ≤ w := by
    intro w hw
    obtain ⟨y, hy, rfl⟩ := List.mem_map.mp hw
    exact (hweight y hy).le
  have hle : weight x ≤ total xs weight :=
    List.single_le_sum hnonneg _ (List.mem_map_of_mem hx)
  exact (div_le_one (total_pos (List.ne_nil_of_mem hx) hweight)).mpr hle

end Order

end DriftGuardX.Shares
