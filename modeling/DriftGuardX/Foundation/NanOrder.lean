import Mathlib.Order.Lattice

/-!
# Comparisons that fail for what is not a number

Floats compare as a linear order does, except that every comparison with a NaN is false. A maximum
that is taken by such comparisons keeps the first value if that is a NaN, and skips every other NaN
(`lt_foldl_iff`).
-/

namespace DriftGuardX

variable {α : Type}

/-- Two comparisons that are false where a value is not a number, and those of a linear preorder
otherwise. -/
structure IsNanOrder (lt le : α → α → Bool) (isNan : α → Bool) : Prop where
  irrefl : ∀ a, lt a a = false
  trans : ∀ {a b c}, lt a b = true → lt b c = true → lt a c = true
  cotrans : ∀ {a c} b, lt a c = true → isNan b = false → lt a b = true ∨ lt b c = true
  number_of_lt : ∀ {a b}, lt a b = true → isNan a = false ∧ isNan b = false
  le_iff : ∀ {a b}, le a b = true ↔ isNan a = false ∧ isNan b = false ∧ lt b a = false

theorem isNanOrder_of_linearOrder [LinearOrder α] :
    IsNanOrder (fun a b : α ↦ decide (a < b)) (fun a b ↦ decide (a ≤ b)) fun _ ↦ false where
  irrefl a := decide_eq_false (lt_irrefl a)
  trans hab hbc := decide_eq_true ((of_decide_eq_true hab).trans (of_decide_eq_true hbc))
  cotrans {a c} b hac _ := (lt_or_ge a b).imp decide_eq_true fun hba ↦
    decide_eq_true (hba.trans_lt (of_decide_eq_true hac))
  number_of_lt _ := ⟨rfl, rfl⟩
  le_iff := by simp

namespace IsNanOrder

variable {lt le : α → α → Bool} {isNan : α → Bool} (order : IsNanOrder lt le isNan)

include order

theorem le_trans {a b c : α} (hab : le a b = true) (hbc : le b c = true) : le a c = true := by
  obtain ⟨ha, hb, hba⟩ := order.le_iff.mp hab
  obtain ⟨-, hc, hcb⟩ := order.le_iff.mp hbc
  refine order.le_iff.mpr ⟨ha, hc, Bool.eq_false_iff.mpr fun hca ↦ ?_⟩
  rcases order.cotrans b hca hb with hlt | hlt
  · exact Bool.noConfusion (hcb.symm.trans hlt)
  · exact Bool.noConfusion (hba.symm.trans hlt)

theorem lt_of_le_of_lt {a b c : α} (hab : le a b = true) (hbc : lt b c = true) : lt a c = true := by
  obtain ⟨ha, -, hba⟩ := order.le_iff.mp hab
  exact (order.cotrans a hbc ha).resolve_left (Bool.eq_false_iff.mp hba)

theorem lt_of_lt_of_le {a b c : α} (hab : lt a b = true) (hbc : le b c = true) : lt a c = true := by
  obtain ⟨-, hc, hcb⟩ := order.le_iff.mp hbc
  exact (order.cotrans c hab hc).resolve_right (Bool.eq_false_iff.mp hcb)

/-- A maximum is below a bound if and only if its first value is, and all others that are numbers. -/
theorem lt_foldl_iff (vs : List α) (best bound : α) :
    lt (vs.foldl (fun best v ↦ if lt best v then v else best) best) bound = true ↔
      lt best bound = true ∧ ∀ v ∈ vs, isNan v = false → lt v bound = true := by
  induction vs generalizing best with
  | nil => simp
  | cons v vs ih =>
    rw [List.foldl_cons, ih, List.forall_mem_cons, ← and_assoc]
    refine and_congr_left fun _ ↦ ?_
    by_cases hlt : lt best v = true
    · rw [if_pos hlt]
      exact ⟨fun h ↦ ⟨order.trans hlt h, fun _ ↦ h⟩, fun h ↦ h.2 (order.number_of_lt hlt).2⟩
    -- a number that is not above the best is below the bound as well
    · rw [if_neg hlt]
      exact ⟨fun h ↦ ⟨h, fun hv ↦ (order.cotrans v h hv).resolve_left hlt⟩, And.left⟩

end IsNanOrder

end DriftGuardX
