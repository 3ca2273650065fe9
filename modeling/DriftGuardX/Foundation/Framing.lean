import Mathlib.Data.List.Basic

/-!
# Fields and separators

A list that is put together from fields with a separator between them can be taken apart again where
the separator is not in the fields: the first field when it has no separator, and the last one when it
has none.
-/

namespace DriftGuardX.Framing

variable {α : Type} {sep : α}

theorem first_inj {xs ys rs ss : List α} (hx : sep ∉ xs) (hy : sep ∉ ys)
    (h : xs ++ sep :: rs = ys ++ sep :: ss) : xs = ys ∧ rs = ss := by
  induction xs generalizing ys with
  | nil =>
    cases ys with
    | nil => exact ⟨rfl, (List.cons.inj h).2⟩
    | cons y ys => exact absurd (List.mem_cons.mpr (Or.inl (List.cons.inj h).1)) hy
  | cons x xs ih =>
    rw [List.mem_cons, not_or] at hx
    cases ys with
    | nil => exact absurd (List.cons.inj h).1.symm hx.1
    | cons y ys =>
      rw [List.mem_cons, not_or] at hy
      obtain ⟨rfl, htail⟩ := List.cons.inj h
      obtain ⟨rfl, hrest⟩ := ih hx.2 hy.2 htail
      exact ⟨rfl, hrest⟩

theorem count_inj [DecidableEq α] {xs ys rs ss : List α} (hcount : xs.count sep = ys.count sep)
    (h : xs ++ sep :: rs = ys ++ sep :: ss) : xs = ys ∧ rs = ss := by
  induction xs generalizing ys with
  | nil =>
    cases ys with
    | nil => exact ⟨rfl, (List.cons.inj h).2⟩
    | cons y ys =>
      obtain rfl := (List.cons.inj h).1
      rw [List.count_nil, List.count_cons_self] at hcount
      omega
  | cons x xs ih =>
    cases ys with
    | nil =>
      obtain rfl := (List.cons.inj h).1
      rw [List.count_nil, List.count_cons_self] at hcount
      omega
    | cons y ys =>
      obtain ⟨rfl, htail⟩ := List.cons.inj h
      rw [List.count_cons, List.count_cons] at hcount
      obtain ⟨rfl, hrest⟩ := ih (Nat.add_right_cancel hcount) htail
      exact ⟨rfl, hrest⟩

/-- Fields, each with a separator after it, and what follows them. -/
def terminated (sep : α) (fields : List (List α)) (rest : List α) : List α :=
  fields.foldr (fun field rest ↦ field ++ sep :: rest) rest

theorem terminated_inj [DecidableEq α] {fields fields' : List (List α)} {rs ss : List α}
    (hcount : fields.map (List.count sep) = fields'.map (List.count sep))
    (h : terminated sep fields rs = terminated sep fields' ss) : fields = fields' ∧ rs = ss := by
  induction fields generalizing fields' with
  | nil =>
    obtain rfl := List.map_eq_nil_iff.mp hcount.symm
    exact ⟨rfl, h⟩
  | cons field fields ih =>
    cases fields' with
    | nil => exact absurd hcount (by simp)
    | cons field' fields' =>
      obtain ⟨hfirst, hothers⟩ := List.cons.inj hcount
      obtain ⟨rfl, hrest⟩ := count_inj hfirst h
      obtain ⟨rfl, rfl⟩ := ih hothers hrest
      exact ⟨rfl, rfl⟩

theorem terminated_concat {fields : List (List α)} {field : List α} :
    terminated sep (fields ++ [field]) [] = terminated sep fields [] ++ (field ++ [sep]) := by
  induction fields with
  | nil => rfl
  | cons first fields ih =>
    calc terminated sep (first :: fields ++ [field]) []
        = first ++ sep :: terminated sep (fields ++ [field]) [] := rfl
      _ = (first ++ sep :: terminated sep fields []) ++ (field ++ [sep]) := by
          rw [ih, List.append_assoc, List.cons_append]

theorem mem_of_mem_splitOn [DecidableEq α] {c : α} {xs piece : List α}
    (hpiece : piece ∈ xs.splitOn sep) (hc : c ∈ piece) : c ∈ xs ∧ c ≠ sep := by
  induction xs generalizing piece with
  | nil =>
    rw [List.splitOn_nil, List.mem_singleton] at hpiece
    exact absurd (hpiece ▸ hc) List.not_mem_nil
  | cons x xs ih =>
    rw [List.splitOn_cons_eq_if_modifyHead] at hpiece
    split_ifs at hpiece with hx
    · obtain rfl | htail := List.mem_cons.mp hpiece
      · exact absurd hc List.not_mem_nil
      · exact (ih htail hc).imp_left (List.mem_cons_of_mem x)
    · obtain ⟨first, others, hsplit⟩ := List.exists_cons_of_ne_nil (List.splitOn_ne_nil sep xs)
      rw [hsplit] at hpiece ih
      obtain rfl | htail := List.mem_cons.mp hpiece
      · obtain rfl | hfirst := List.mem_cons.mp hc
        · exact ⟨List.mem_cons_self, fun hsep ↦ hx (beq_iff_eq.mpr hsep)⟩
        · exact (ih List.mem_cons_self hfirst).imp_left (List.mem_cons_of_mem x)
      · exact (ih (List.mem_cons_of_mem first htail) hc).imp_left (List.mem_cons_of_mem x)

theorem splitOn_terminated [DecidableEq α] {fields : List (List α)}
    (h : ∀ field ∈ fields, sep ∉ field) :
    (terminated sep fields []).splitOn sep = fields ++ [[]] := by
  induction fields with
  | nil => rfl
  | cons field fields ih =>
    rw [terminated, List.foldr_cons,
      List.splitOn_append_cons_self_of_not_mem (h field List.mem_cons_self)]
    exact congrArg (field :: ·) (ih fun f hf ↦ h f (List.mem_cons_of_mem field hf))

theorem last_inj {xs ys rs ss : List α} (hr : sep ∉ rs) (hs : sep ∉ ss)
    (h : xs ++ sep :: rs = ys ++ sep :: ss) : xs = ys ∧ rs = ss := by
  have hreverse := congrArg List.reverse h
  simp only [List.reverse_append, List.reverse_cons, List.append_assoc, List.singleton_append]
    at hreverse
  obtain ⟨hlast, hfirst⟩ := first_inj (by simpa using hr) (by simpa using hs) hreverse
  exact ⟨List.reverse_injective hfirst, List.reverse_injective hlast⟩

end DriftGuardX.Framing
