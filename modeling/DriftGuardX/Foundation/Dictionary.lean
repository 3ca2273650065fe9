import Mathlib.Data.List.Basic

/-!
# Dictionaries and sets up to an equality test

A dictionary is the list of its entries, and a set the list of its members, in the order of
insertion. Which keys are the same is decided by a test that is an equivalence; a key keeps the form
in which it was first inserted.
-/

namespace DriftGuardX.Dictionary

variable {K A : Type*} (eq : K → K → Bool)

/-- The value under a key. -/
def find (d : List (K × A)) (k : K) : Option A := (d.find? fun m ↦ eq m.1 k).map Prod.snd

/-- `d[k] = a`. -/
def assign (d : List (K × A)) (k : K) (a : A) : List (K × A) :=
  if d.any fun m ↦ eq m.1 k then d.map fun m ↦ if eq m.1 k then (m.1, a) else m else d ++ [(k, a)]

/-- `k in s`. -/
def mem (s : List K) (k : K) : Bool := s.any fun k' ↦ eq k' k

/-- `s.add(k)`. -/
def add (s : List K) (k : K) : List K := if mem eq s k then s else s ++ [k]

/-- `s.discard(k)`. -/
def discard (s : List K) (k : K) : List K := s.filter fun k' ↦ !eq k' k

variable {eq} (heq : Equivalence fun k k' ↦ eq k k' = true) {d : List (K × A)} {s : List K}
  {k k' : K} {a : A}

include heq

theorem eq_congr (h : eq k k' = true) (j : K) : eq j k = eq j k' :=
  Bool.eq_iff_iff.mpr ⟨fun hj ↦ heq.trans hj h, fun hj ↦ heq.trans hj (heq.symm h)⟩

theorem find_congr (h : eq k k' = true) : find eq d k = find eq d k' := by
  rw [find, find]
  simp only [eq_congr heq h]

theorem mem_congr (h : eq k k' = true) : mem eq s k = mem eq s k' := by
  rw [mem, mem]
  simp only [eq_congr heq h]

theorem find_assign :
    find eq (assign eq d k a) k' = if eq k k' = true then some a else find eq d k' := by
  rw [assign]
  split
  · rename_i hany
    have hkey : (fun m : K × A ↦ eq m.1 k') ∘ (fun m ↦ if eq m.1 k = true then (m.1, a) else m)
        = fun m ↦ eq m.1 k' := by
      funext m
      rw [Function.comp_apply]
      split <;> rfl
    rw [find, List.find?_map, hkey, find]
    split
    · rename_i hk
      obtain ⟨m, hm, hmk⟩ := List.any_eq_true.mp hany
      cases hfind : d.find? fun m ↦ eq m.1 k' with
      | none => exact absurd (heq.trans hmk hk) (List.find?_eq_none.mp hfind m hm)
      | some n =>
        have hn : eq n.1 k = true := by
          rw [eq_congr heq hk]
          simpa using List.find?_some hfind
        rw [Option.map_some, if_pos hn, Option.map_some]
    · rename_i hk
      rw [Option.map_map]
      refine Option.map_congr fun n hn ↦ ?_
      have hne : ¬ eq n.1 k = true := fun hnk ↦
        hk (heq.trans (heq.symm hnk) (by simpa using List.find?_some hn))
      rw [Function.comp_apply, if_neg hne]
  · rename_i hany
    rw [find, List.find?_append, find]
    split
    · rename_i hk
      have hnone : (d.find? fun m ↦ eq m.1 k') = none := by
        refine List.find?_eq_none.mpr fun m hm hmk ↦ hany (List.any_eq_true.mpr ⟨m, hm, ?_⟩)
        rw [eq_congr heq hk]
        exact hmk
      rw [hnone, Option.none_or, List.find?_cons_of_pos (by exact hk), Option.map_some]
    · rename_i hk
      rw [List.find?_cons_of_neg (by exact hk), List.find?_nil, Option.or_none]

theorem mem_add : mem eq (add eq s k) k' = if eq k k' = true then true else mem eq s k' := by
  rw [add]
  split
  · rename_i hmem
    split
    · rename_i hk
      rw [← mem_congr heq hk, hmem]
    · rfl
  · rw [mem, List.any_append, List.any_cons, List.any_nil, Bool.or_false, mem]
    split
    · rename_i hk
      rw [hk, Bool.or_true]
    · rename_i hk
      rw [Bool.not_eq_true] at hk
      rw [hk, Bool.or_false]

theorem mem_discard :
    mem eq (discard eq s k) k' = if eq k k' = true then false else mem eq s k' := by
  rw [Bool.eq_iff_iff, mem, List.any_eq_true]
  simp only [discard, List.mem_filter, Bool.not_eq_eq_eq_not, Bool.not_true]
  split
  · rename_i hk
    refine iff_of_false ?_ Bool.false_ne_true
    rintro ⟨j, ⟨-, hjk⟩, hjk'⟩
    rw [eq_congr heq hk, hjk'] at hjk
    exact Bool.noConfusion hjk
  · rename_i hk
    rw [mem, List.any_eq_true]
    refine exists_congr fun j ↦ ⟨fun h ↦ ⟨h.1.1, h.2⟩, fun h ↦ ⟨⟨h.1, ?_⟩, h.2⟩⟩
    rw [← Bool.not_eq_true]
    exact fun hjk ↦ hk (heq.trans (heq.symm hjk) h.2)

end DriftGuardX.Dictionary
