import Mathlib.Data.Fintype.Card
import Mathlib.Data.Fintype.EquivFin
import Mathlib.Data.Fintype.Sets
import Mathlib.Order.WellFounded

/-!
# What nothing dominates

In a finite list with a strict order, whatever is dominated is dominated by something that nothing
dominates (`exists_undominated`).
-/

namespace DriftGuardX.Dominance

variable {α : Type} {dominates : α → α → Prop} {xs : List α} {x : α}

theorem exists_undominated (hirrefl : ∀ a ∈ xs, ¬ dominates a a)
    (htrans : ∀ a ∈ xs, ∀ b ∈ xs, ∀ c ∈ xs, dominates a b → dominates b c → dominates a c)
    (hx : x ∈ xs) (hdominated : ∃ y ∈ xs, dominates y x) :
    ∃ y ∈ xs, dominates y x ∧ ∀ z ∈ xs, ¬ dominates z y := by
  let r : {a // a ∈ xs} → {a // a ∈ xs} → Prop := fun a b ↦ dominates a.1 b.1
  classical
  have : Finite {a // a ∈ xs} := Finite.of_fintype _
  have : IsTrans {a // a ∈ xs} r :=
    ⟨fun a b c ↦ htrans a.1 a.2 b.1 b.2 c.1 c.2⟩
  have : Std.Irrefl r := ⟨fun a ↦ hirrefl a.1 a.2⟩
  obtain ⟨y, hy, hyx⟩ := hdominated
  obtain ⟨m, hm, hleast⟩ := (Finite.wellFounded_of_trans_of_irrefl r).has_min
    {b | dominates b.1 x} ⟨⟨y, hy⟩, hyx⟩
  refine ⟨m.1, m.2, hm, fun z hz hzm ↦ ?_⟩
  exact hleast ⟨z, hz⟩ (htrans z hz m.1 m.2 x hx hzm hm) hzm

end DriftGuardX.Dominance
