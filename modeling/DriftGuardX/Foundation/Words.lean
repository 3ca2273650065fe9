import Mathlib.Data.List.Basic

/-!
# Words

The words of a list are the longest stretches without a separator. Words that are joined by a separator
are read off again (`words_intercalate`).
-/

namespace DriftGuardX.Words

variable {α : Type*} {p : α → Bool}

/-- The longest stretches of a list in which no element satisfies a predicate. -/
def words (p : α → Bool) (xs : List α) : List (List α) := (xs.splitOnP p).filter fun w ↦ !w.isEmpty

/-- A stretch that is one word. -/
def IsWord (p : α → Bool) (w : List α) : Prop := w ≠ [] ∧ ∀ a ∈ w, p a = false

theorem forall_of_mem_splitOnP {xs w : List α} (h : w ∈ xs.splitOnP p) : ∀ a ∈ w, p a = false := by
  induction xs generalizing w with
  | nil =>
    rw [List.splitOnP_nil, List.mem_singleton] at h
    exact h ▸ fun _ ha ↦ absurd ha List.not_mem_nil
  | cons x xs ih =>
    rw [List.splitOnP_cons_eq_if_modifyHead] at h
    split at h
    · obtain rfl | h := List.mem_cons.mp h
      · exact fun _ ha ↦ absurd ha List.not_mem_nil
      · exact ih h
    · rename_i hx
      obtain ⟨first, others, hsplit⟩ := List.exists_cons_of_ne_nil (List.splitOnP_ne_nil p xs)
      rw [hsplit, List.modifyHead_cons] at h
      obtain rfl | h := List.mem_cons.mp h
      · exact List.forall_mem_cons.mpr
          ⟨by simpa using hx, ih (hsplit ▸ List.mem_cons_self)⟩
      · exact ih (hsplit ▸ List.mem_cons_of_mem _ h)

theorem isWord_of_mem_words {xs w : List α} (h : w ∈ words p xs) : IsWord p w := by
  obtain ⟨hmem, hne⟩ := List.mem_filter.mp h
  exact ⟨by simpa using hne, forall_of_mem_splitOnP hmem⟩

theorem words_of_isWord {w : List α} (h : IsWord p w) : words p w = [w] := by
  rw [words, List.splitOnP_eq_singleton h.2]
  simpa using h.1

theorem words_append_cons {xs ys : List α} {sep : α} (hsep : p sep = true) :
    words p (xs ++ sep :: ys) = words p xs ++ words p ys := by
  rw [words, List.splitOnP_append_cons xs ys hsep, List.filter_append, words, words]

/-- **Joined words are read off again.** -/
theorem words_intercalate {sep : α} (hsep : p sep = true) {ws : List (List α)}
    (h : ∀ w ∈ ws, IsWord p w) : words p ([sep].intercalate ws) = ws := by
  induction ws with
  | nil => simp [words]
  | cons w ws ih =>
    obtain ⟨hw, hws⟩ := List.forall_mem_cons.mp h
    cases ws with
    | nil => rw [List.intercalate_singleton, words_of_isWord hw]
    | cons v ws =>
      rw [List.intercalate_cons_cons, List.append_assoc, List.singleton_append,
        words_append_cons hsep, words_of_isWord hw, ih hws, List.singleton_append]

end DriftGuardX.Words
