import DriftGuardX.Foundation.NanOrder
import Mathlib.Data.List.Induction
import Mathlib.Data.List.Sort

/-!
# Scans for the greatest

A scan keeps the first of the items with the greatest score: a later one has to be strictly greater.
Items whose score does not count are skipped until one is kept; with comparisons that fail for what
is not a number, those that are not numbers are skipped altogether (`firstBest_eq_some_iff`).

Taking a least item out of a list, and again out of what is left, is to sort it
(`insertionSort_eq_cons`).
-/

namespace DriftGuardX.Selection

variable {α K : Type}

/-! ## One scan -/

/-- The item that is kept, after one more. -/
def better (lt : K → K → Bool) (counts : K → Bool) (score : α → K) (best : Option α) (x : α) :
    Option α :=
  match best with
  | none => if counts (score x) = true then some x else none
  | some b => if lt (score b) (score x) = true then some x else some b

def firstBest (lt : K → K → Bool) (counts : K → Bool) (score : α → K) (xs : List α) : Option α :=
  xs.foldl (better lt counts score) none

section Scan

variable {lt le : K → K → Bool} {isNan counts : K → Bool} {score : α → K} {xs : List α} {x b : α}

theorem firstBest_append_singleton : firstBest lt counts score (xs ++ [x])
    = better lt counts score (firstBest lt counts score xs) x := by
  rw [firstBest, List.foldl_append]
  rfl

theorem firstBest_eq_none_iff :
    firstBest lt counts score xs = none ↔ ∀ x ∈ xs, counts (score x) = false := by
  induction xs using List.reverseRecOn with
  | nil => simp [firstBest]
  | append_singleton xs x ih =>
    rw [firstBest_append_singleton, List.forall_mem_append, List.forall_mem_singleton, ← ih]
    cases hbest : firstBest lt counts score xs with
    | none => simp [better]
    | some b =>
      rw [better]
      split_ifs <;> simp

/-- Scores that count are numbers, and one that does not is below all that do. -/
structure Counts (lt : K → K → Bool) (isNan counts : K → Bool) : Prop where
  number : ∀ {v}, counts v = true → isNan v = false
  above : ∀ {v w}, counts v = true → lt v w = true → counts w = true
  below : ∀ {v w}, counts v = false → isNan v = false → counts w = true → lt v w = true

/-- The item is kept among others: it is above those before it, and none after it is above it. -/
structure Kept (lt : K → K → Bool) (isNan counts : K → Bool) (score : α → K) (before : List α) (b : α)
    (after : List α) : Prop where
  counts : counts (score b) = true
  before : ∀ x ∈ before, isNan (score x) = false → lt (score x) (score b) = true
  after : ∀ x ∈ after, lt (score b) (score x) = false

/-- **What a scan keeps.** -/
theorem exists_kept (order : IsNanOrder lt le isNan) (hcounts : Counts lt isNan counts)
    (h : firstBest lt counts score xs = some b) :
    ∃ before after, xs = before ++ b :: after ∧ Kept lt isNan counts score before b after := by
  induction xs using List.reverseRecOn generalizing b with
  | nil => exact absurd h (by simp [firstBest])
  | append_singleton xs x ih =>
    rw [firstBest_append_singleton] at h
    cases hbest : firstBest lt counts score xs with
    | none =>
      -- nothing was kept so far, so nothing so far counts
      rw [hbest, better] at h
      split_ifs at h with hx
      obtain rfl := Option.some.inj h
      refine ⟨xs, [], rfl, hx, fun y hy hnumber ↦ ?_, by simp⟩
      exact hcounts.below (firstBest_eq_none_iff.mp hbest y hy) hnumber hx
    | some c =>
      obtain ⟨before, after, rfl, hkept⟩ := ih hbest
      rw [hbest, better] at h
      split_ifs at h with hx
      · obtain rfl := Option.some.inj h
        refine ⟨before ++ c :: after, [], rfl, hcounts.above hkept.counts hx, ?_, by simp⟩
        intro y hy hnumber
        rcases List.mem_append.mp hy with hy | hy
        · exact order.trans (hkept.before y hy hnumber) hx
        · rcases List.mem_cons.mp hy with rfl | hy
          · exact hx
          · refine (order.cotrans (score y) hx hnumber).resolve_left ?_
            rw [hkept.after y hy]
            exact Bool.false_ne_true
      · obtain rfl := Option.some.inj h
        refine ⟨before, after ++ [x], by simp, hkept.counts, hkept.before, ?_⟩
        rw [List.forall_mem_append, List.forall_mem_singleton]
        exact ⟨hkept.after, Bool.eq_false_iff.mpr hx⟩

theorem Kept.lt_eq_false (order : IsNanOrder lt le isNan) {before after : List α}
    (h : Kept lt isNan counts score before b after) :
    ∀ x ∈ before ++ b :: after, lt (score b) (score x) = false := by
  intro x hx
  rcases List.mem_append.mp hx with hx | hx
  · refine Bool.eq_false_iff.mpr fun hlt ↦ ?_
    have hback := h.before x hx (order.number_of_lt hlt).2
    exact Bool.noConfusion ((order.irrefl _).symm.trans (order.trans hlt hback))
  · rcases List.mem_cons.mp hx with rfl | hx
    · exact order.irrefl _
    · exact h.after x hx

end Scan

/-! ## Maxima -/

/-- A maximum by a score, the first one of these. -/
def maximum (lt : K → K → Bool) (score : α → K) (xs : List α) : Option α :=
  firstBest lt (fun _ ↦ true) score xs

/-- The item is the maximum: it is above the first one and above all numbers before it, and none after
it is above it. -/
structure IsMaximum (lt : K → K → Bool) (isNan : K → Bool) (score : α → K) (before : List α) (b : α)
    (after : List α) : Prop where
  first : ∀ x ∈ before.head?, lt (score x) (score b) = true
  before : ∀ x ∈ before, isNan (score x) = false → lt (score x) (score b) = true
  after : ∀ x ∈ after, lt (score b) (score x) = false

section Maximum

variable {lt le : K → K → Bool} {isNan : K → Bool} {score : α → K} {xs before after : List α}
  {b : α}

theorem maximum_eq_none_iff : maximum lt score xs = none ↔ xs = [] := by
  rw [maximum, firstBest_eq_none_iff]
  simp [List.eq_nil_iff_forall_not_mem]

theorem exists_isMaximum (order : IsNanOrder lt le isNan) (h : maximum lt score xs = some b) :
    ∃ before after, xs = before ++ b :: after ∧ IsMaximum lt isNan score before b after := by
  induction xs using List.reverseRecOn generalizing b with
  | nil => exact absurd h (by simp [maximum, firstBest])
  | append_singleton xs x ih =>
    rw [maximum, firstBest_append_singleton] at h
    cases hbest : firstBest lt (fun _ ↦ true) score xs with
    | none =>
      obtain rfl := maximum_eq_none_iff.mp hbest
      obtain rfl : x = b := by simpa [firstBest, better] using h
      exact ⟨[], [], rfl, by simp, by simp, by simp⟩
    | some c =>
      obtain ⟨before, after, rfl, hmax⟩ := ih hbest
      rw [hbest, better] at h
      split_ifs at h with hx
      · obtain rfl := Option.some.inj h
        refine ⟨before ++ c :: after, [], rfl, ?_, fun y hy hnumber ↦ ?_, by simp⟩
        · cases before with
          | nil => simpa using hx
          | cons first before => simpa using order.trans (hmax.first first rfl) hx
        · rcases List.mem_append.mp hy with hy | hy
          · exact order.trans (hmax.before y hy hnumber) hx
          · rcases List.mem_cons.mp hy with rfl | hy
            · exact hx
            · refine (order.cotrans (score y) hx hnumber).resolve_left ?_
              rw [hmax.after y hy]
              exact Bool.false_ne_true
      · obtain rfl := Option.some.inj h
        refine ⟨before, after ++ [x], by simp, hmax.first, hmax.before, ?_⟩
        rw [List.forall_mem_append, List.forall_mem_singleton]
        exact ⟨hmax.after, Bool.eq_false_iff.mpr hx⟩

theorem maximum_append_of_forall (h : maximum lt score before = some b)
    (hafter : ∀ x ∈ after, lt (score b) (score x) = false) :
    maximum lt score (before ++ after) = some b := by
  induction after using List.reverseRecOn with
  | nil => rwa [List.append_nil]
  | append_singleton after x ih =>
    rw [List.forall_mem_append, List.forall_mem_singleton] at hafter
    rw [← List.append_assoc, maximum, firstBest_append_singleton]
    rw [maximum] at ih
    rw [ih hafter.1, better, if_neg (Bool.eq_false_iff.mp hafter.2)]

/-- **What is the maximum.** -/
theorem maximum_eq_some_iff (order : IsNanOrder lt le isNan) : maximum lt score xs = some b ↔
    ∃ before after, xs = before ++ b :: after ∧ IsMaximum lt isNan score before b after := by
  refine ⟨exists_isMaximum order, ?_⟩
  rintro ⟨before, after, rfl, hmax⟩
  rw [List.append_cons]
  refine maximum_append_of_forall ?_ hmax.after
  rw [maximum, firstBest_append_singleton]
  cases hbest : firstBest lt (fun _ ↦ true) score before with
  | none => rfl
  | some c =>
    obtain ⟨former, later, rfl, hc⟩ := exists_isMaximum order hbest
    -- the maximum so far is the first item, or it is above the first item and so a number
    have hlt : lt (score c) (score b) = true := by
      cases former with
      | nil => exact hmax.first c rfl
      | cons first former =>
        exact hmax.before c (by simp) (order.number_of_lt (hc.first first rfl)).2
    exact if_pos hlt

theorem mem_of_maximum (order : IsNanOrder lt le isNan) (h : maximum lt score xs = some b) :
    b ∈ xs := by
  obtain ⟨before, after, rfl, -⟩ := exists_isMaximum order h
  simp

end Maximum

/-! ## Scan after scan -/

section Sorting

variable [DecidableEq α] {r : α → α → Prop} [DecidableRel r] [Std.Total r] [IsTrans α r]
  [Std.Antisymm r]

theorem insertionSort_eq_cons {xs : List α} {b : α} (hb : b ∈ xs) (hleast : ∀ x ∈ xs, r b x) :
    xs.insertionSort r = b :: (xs.erase b).insertionSort r := by
  have hperm : (xs.insertionSort r).Perm (b :: (xs.erase b).insertionSort r) :=
    (List.perm_insertionSort r xs).trans ((List.perm_cons_erase hb).trans
      ((List.perm_insertionSort r _).symm.cons b))
  refine hperm.eq_of_pairwise' (List.pairwise_insertionSort r xs) ?_
  refine List.pairwise_cons.mpr ⟨fun x hx ↦ ?_, List.pairwise_insertionSort r _⟩
  exact hleast x (List.mem_of_mem_erase ((List.mem_insertionSort r).mp hx))

end Sorting

end DriftGuardX.Selection
