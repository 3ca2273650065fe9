import Mathlib.Algebra.BigOperators.Group.List.Basic
import Mathlib.Algebra.Group.Action.Defs
import Mathlib.Algebra.Order.BigOperators.Group.List
import Mathlib.Algebra.Order.Ring.Nat
import Mathlib.Data.List.Chain
import Mathlib.Data.List.Nodup
import Mathlib.Logic.Relation

/-!
# Simple paths and their search

A depth-first search that keeps, on a stack, a path and its end, and never extends a path by a
vertex that is already on it. The graph is given by the list of successors of a vertex, with
repetitions; it is finite in that all successors lie in one list, and no vertex has more than
`width` of them.

The search terminates because each stack entry can still be extended by fewer and fewer vertices. It
finds exactly the ways to continue the paths on the stack to a target (`mem_search_iff`), and since
every vertex that can be reached can be reached by a path without repetitions
(`exists_simple_of_reflTransGen`), the search misses no target that can be reached.
-/

namespace DriftGuardX

variable {α : Type*} [DecidableEq α]

/-- A finite directed graph with repeated edges. -/
structure FiniteGraph (α : Type*) where
  next : α → List α
  vertices : List α
  width : ℕ
  closed : ∀ a, ∀ b ∈ next a, b ∈ vertices
  bounded : ∀ a, (next a).length ≤ width

namespace FiniteGraph

variable (g : FiniteGraph α)

/-! ## The search -/

/-- How many vertices a path does not have yet. -/
def unvisited (path : List α) : ℕ := (g.vertices.filter fun a ↦ a ∉ path).length

/-- An upper bound for the number of stack entries that a path can still lead to. -/
def weight (path : List α) : ℕ := (g.width + 1) ^ g.unvisited path

def stackWeight (stack : List (α × List α)) : ℕ := (stack.map fun e ↦ g.weight e.2).sum

/-- The extensions of a path by one vertex that is not on it. -/
def extensions (curr : α) (path : List α) : List (α × List α) :=
  ((g.next curr).filter fun a ↦ a ∉ path).map fun a ↦ (a, path ++ [a])

variable {g} {curr : α} {path : List α}

theorem unvisited_append_lt {a : α} (ha : a ∈ g.vertices) (hpath : a ∉ path) :
    g.unvisited (path ++ [a]) < g.unvisited path := by
  have hfilter : (g.vertices.filter fun b ↦ b ∉ path ++ [a])
      = (g.vertices.filter fun b ↦ b ∉ path).filter fun b ↦ b ≠ a := by
    rw [List.filter_filter]
    refine List.filter_congr fun b _ ↦ ?_
    simp [and_comm]
  rw [unvisited, unvisited, hfilter, List.length_filter_lt_length_iff_exists]
  exact ⟨a, List.mem_filter.mpr ⟨ha, by simpa using hpath⟩, by simp⟩

theorem mem_extensions_iff {e : α × List α} : e ∈ g.extensions curr path ↔
    e.1 ∈ g.next curr ∧ e.1 ∉ path ∧ e.2 = path ++ [e.1] := by
  obtain ⟨a, p⟩ := e
  simp only [extensions, List.mem_map, List.mem_filter, decide_eq_true_eq, Prod.mk.injEq]
  constructor
  · rintro ⟨b, ⟨hnext, hpath⟩, rfl, rfl⟩
    exact ⟨hnext, hpath, rfl⟩
  · rintro ⟨hnext, hpath, rfl⟩
    exact ⟨a, ⟨hnext, hpath⟩, rfl, rfl⟩

theorem stackWeight_extensions_lt (curr : α) (path : List α) :
    g.stackWeight (g.extensions curr path) < g.weight path := by
  have hle : ∀ w ∈ (g.extensions curr path).map fun e ↦ g.weight e.2,
      w ≤ (g.width + 1) ^ (g.unvisited path - 1) := by
    intro w hw
    obtain ⟨e, he, rfl⟩ := List.mem_map.mp hw
    obtain ⟨hnext, hpath, heq⟩ := mem_extensions_iff.mp he
    have hlt := unvisited_append_lt (g.closed curr _ hnext) hpath
    rw [heq, weight]
    exact Nat.pow_le_pow_right (Nat.succ_pos _) (Nat.le_sub_one_of_lt hlt)
  have hlength : ((g.extensions curr path).map fun e ↦ g.weight e.2).length ≤ g.width := by
    rw [List.length_map, extensions, List.length_map]
    exact (List.length_filter_le _ _).trans (g.bounded curr)
  have hsum := List.sum_le_card_nsmul _ _ hle
  rw [stackWeight]
  rcases Nat.eq_zero_or_pos (g.unvisited path) with hzero | hpos
  · -- nothing is left to visit, so there are no extensions
    have hnil : g.extensions curr path = [] := by
      refine List.eq_nil_iff_forall_not_mem.mpr fun e he ↦ ?_
      obtain ⟨hnext, hpath, -⟩ := mem_extensions_iff.mp he
      exact absurd (unvisited_append_lt (g.closed curr _ hnext) hpath) (by omega)
    rw [hnil, weight]
    exact Nat.pow_pos (Nat.succ_pos _)
  · calc ((g.extensions curr path).map fun e ↦ g.weight e.2).sum
        ≤ g.width * (g.width + 1) ^ (g.unvisited path - 1) := by
          refine hsum.trans ?_
          rw [smul_eq_mul]
          exact Nat.mul_le_mul_right _ hlength
      _ < (g.width + 1) * (g.width + 1) ^ (g.unvisited path - 1) :=
          Nat.mul_lt_mul_of_pos_right (Nat.lt_succ_self _) (Nat.pow_pos (Nat.succ_pos _))
      _ = g.weight path := by rw [weight, ← Nat.pow_succ', Nat.succ_eq_add_one,
          Nat.sub_add_cancel hpos]

variable (g) in
/-- The loop of the search: the stack, with its top first, and the paths found. -/
def search (isTarget : α → Bool) (stack : List (α × List α)) (found : List (List α)) :
    List (List α) :=
  match stack with
  | [] => found
  | (curr, path) :: rest =>
    search isTarget ((g.extensions curr path).reverse ++ rest)
      (if isTarget curr then found ++ [path] else found)
termination_by g.stackWeight stack
decreasing_by
  simp only [stackWeight, List.map_append, List.map_reverse, List.sum_append, List.sum_reverse,
    List.map_cons, List.sum_cons]
  exact Nat.add_lt_add_right (stackWeight_extensions_lt curr path) _

/-! ## What the search finds -/

variable (g) in
/-- A way to continue a path to a target, by vertices that are not on it. -/
inductive Continues (isTarget : α → Bool) : α → List α → List α → Prop
  | stop {a p} (h : isTarget a = true) : Continues isTarget a p []
  | step {a b p ext} (hnext : b ∈ g.next a) (hpath : b ∉ p)
      (h : Continues isTarget b (p ++ [b]) ext) : Continues isTarget a p (b :: ext)

variable {isTarget : α → Bool}

/-- **Soundness and completeness.** The search finds the continuations of the paths on its stack. -/
theorem mem_search_iff {stack : List (α × List α)} {found : List (List α)} {p : List α} :
    p ∈ g.search isTarget stack found ↔
      p ∈ found ∨ ∃ e ∈ stack, ∃ ext, g.Continues isTarget e.1 e.2 ext ∧ p = e.2 ++ ext := by
  induction stack, found using search.induct g isTarget with
  | case1 found => simp [search]
  | case2 found curr path rest ih =>
    -- the path on top of the stack stops here, or goes on by one vertex
    have hcurr : (∃ ext, g.Continues isTarget curr path ext ∧ p = path ++ ext) ↔
        (isTarget curr = true ∧ p = path) ∨ ∃ e ∈ g.extensions curr path,
          ∃ ext, g.Continues isTarget e.1 e.2 ext ∧ p = e.2 ++ ext := by
      constructor
      · rintro ⟨ext, hext, rfl⟩
        cases hext with
        | stop h => exact Or.inl ⟨h, List.append_nil path⟩
        | @step _ b _ ext hnext hpath h =>
          refine Or.inr ⟨(b, path ++ [b]), mem_extensions_iff.mpr ⟨hnext, hpath, rfl⟩, ext, h, ?_⟩
          rw [List.append_assoc, List.singleton_append]
      · rintro (⟨h, rfl⟩ | ⟨e, he, ext, h, rfl⟩)
        · exact ⟨[], .stop h, (List.append_nil p).symm⟩
        · obtain ⟨hnext, hpath, heq⟩ := mem_extensions_iff.mp he
          rw [heq] at h ⊢
          exact ⟨e.1 :: ext, .step hnext hpath h, by rw [List.append_assoc, List.singleton_append]⟩
    rw [dite_eq_ite] at ih
    rw [search, ih]
    simp only [List.mem_append, List.mem_reverse, or_and_right, exists_or, List.exists_mem_cons_iff,
      hcurr]
    split
    · rename_i h
      simp only [List.mem_append, List.mem_singleton, h, true_and, or_assoc]
    · rename_i h
      simp only [h, Bool.false_eq_true, false_and, false_or]

omit [DecidableEq α] in
theorem continues_of_chain {ext : List α}
    (hchain : List.IsChain (fun a b ↦ b ∈ g.next a) (curr :: ext)) (hnodup : ext.Nodup)
    (hpath : ∀ a ∈ ext, a ∉ path) {last : α} (hlast : (curr :: ext).getLast? = some last)
    (htarget : isTarget last = true) : g.Continues isTarget curr path ext := by
  induction ext generalizing curr path with
  | nil =>
    obtain rfl : curr = last := by simpa using hlast
    exact .stop htarget
  | cons b ext ih =>
    rw [List.isChain_cons_cons] at hchain
    rw [List.nodup_cons] at hnodup
    rw [List.getLast?_cons_cons] at hlast
    refine .step hchain.1 (hpath b List.mem_cons_self) (ih hchain.2 hnodup.2 (fun a ha ↦ ?_) hlast)
    rw [List.mem_append, List.mem_singleton, not_or]
    refine ⟨hpath a (List.mem_cons_of_mem b ha), ?_⟩
    rintro rfl
    exact hnodup.1 ha

omit [DecidableEq α] in
theorem chain_of_continues {ext : List α} (h : g.Continues isTarget curr path ext) :
    List.IsChain (fun a b ↦ b ∈ g.next a) (curr :: ext) ∧ ext.Nodup ∧ (∀ a ∈ ext, a ∉ path) ∧
      ∃ last, (curr :: ext).getLast? = some last ∧ isTarget last = true := by
  induction h with
  | stop h => exact ⟨.singleton _, List.nodup_nil, by simp, _, rfl, h⟩
  | @step a b p ext hnext hpath _ ih =>
    obtain ⟨hchain, hnodup, havoids, last, hlast, htarget⟩ := ih
    refine ⟨List.isChain_cons_cons.mpr ⟨hnext, hchain⟩, List.nodup_cons.mpr ⟨fun hb ↦ ?_, hnodup⟩,
      ?_, last, ?_, htarget⟩
    · exact havoids b hb (List.mem_append_right _ (List.mem_singleton_self b))
    · intro c hc
      rcases List.mem_cons.mp hc with rfl | hc
      · exact hpath
      · exact fun hcpath ↦ havoids c hc (List.mem_append_left _ hcpath)
    · rw [List.getLast?_cons_cons, hlast]

/-! ## How often the search finds a path -/

variable (g isTarget) in
/-- In how many ways a path goes on from its end by some vertices: each step can be taken along every
edge between its ends. -/
def ways : α → List α → List α → ℕ
  | curr, _, [] => if isTarget curr then 1 else 0
  | curr, path, b :: ext =>
    if b ∈ path then 0 else (g.next curr).count b * ways b (path ++ [b]) ext

variable (g isTarget) in
/-- In how many ways a stack entry goes on to a path. -/
def waysTo (p : List α) (e : α × List α) : ℕ :=
  if e.2 <+: p then g.ways isTarget e.1 e.2 (p.drop e.2.length) else 0

theorem waysTo_append (path ext : List α) :
    g.waysTo isTarget (path ++ ext) (curr, path) = g.ways isTarget curr path ext := by
  rw [waysTo, if_pos (List.prefix_append path ext), List.drop_left]

theorem waysTo_eq (p : List α) :
    g.waysTo isTarget p (curr, path) = (if isTarget curr then [path] else []).count p +
      ((g.extensions curr path).map (g.waysTo isTarget p)).sum := by
  by_cases hprefix : path <+: p
  · obtain ⟨ext, rfl⟩ := hprefix
    rw [waysTo_append]
    cases ext with
    | nil =>
      have hnone : ∀ w ∈ (g.extensions curr path).map (g.waysTo isTarget (path ++ [])), w = 0 := by
        intro w hw
        obtain ⟨e, he, rfl⟩ := List.mem_map.mp hw
        obtain ⟨-, -, heq⟩ := mem_extensions_iff.mp he
        rw [waysTo, heq, if_neg]
        intro hle
        have hlength := hle.length_le
        rw [List.append_nil, List.length_append, List.length_singleton] at hlength
        omega
      rw [ways, List.sum_eq_zero hnone, List.append_nil]
      split <;> simp
    | cons b ext =>
      have hshort : (if isTarget curr then [path] else []).count (path ++ b :: ext) = 0 := by
        refine List.count_eq_zero.mpr fun hmem ↦ ?_
        have heq : path ++ b :: ext = path := by
          split at hmem
          · exact List.mem_singleton.mp hmem
          · exact absurd hmem List.not_mem_nil
        exact absurd (List.append_right_eq_self.mp heq) (List.cons_ne_nil b ext)
      have hterm : ∀ a, g.waysTo isTarget (path ++ b :: ext) (a, path ++ [a])
          = if a = b then g.ways isTarget b (path ++ [b]) ext else 0 := by
        intro a
        split
        · rename_i hab
          rw [hab, show path ++ b :: ext = (path ++ [b]) ++ ext from by simp, waysTo_append]
        · rename_i hab
          rw [waysTo, if_neg]
          intro hle
          rw [List.prefix_append_right_inj] at hle
          exact hab (List.cons_prefix_cons.mp hle).1
      have hsum : ∀ l : List α, (l.map fun a ↦
          if a = b then g.ways isTarget b (path ++ [b]) ext else 0).sum
            = l.count b * g.ways isTarget b (path ++ [b]) ext := by
        intro l
        induction l with
        | nil => simp
        | cons a l ih =>
          rw [List.map_cons, List.sum_cons, ih, List.count_cons]
          by_cases hab : a = b
          · simp [hab, Nat.add_mul, Nat.add_comm]
          · simp [hab]
      rw [hshort, Nat.zero_add, extensions, List.map_map, Function.comp_def]
      simp only [hterm]
      rw [hsum, ways]
      split
      · rename_i hb
        rw [List.count_eq_zero.mpr (fun hmem ↦ ?_), Nat.zero_mul]
        exact absurd hb (by simpa using (List.mem_filter.mp hmem).2)
      · rename_i hb
        rw [List.count_filter (by simpa using hb)]
  · have hnone : ∀ w ∈ (g.extensions curr path).map (g.waysTo isTarget p), w = 0 := by
      intro w hw
      obtain ⟨e, he, rfl⟩ := List.mem_map.mp hw
      obtain ⟨-, -, heq⟩ := mem_extensions_iff.mp he
      rw [waysTo, heq, if_neg]
      exact fun hle ↦ hprefix ((List.prefix_append path [e.1]).trans hle)
    have hother : (if isTarget curr then [path] else []).count p = 0 := by
      refine List.count_eq_zero.mpr fun hmem ↦ ?_
      split at hmem
      · exact hprefix (List.mem_singleton.mp hmem ▸ List.prefix_refl _)
      · exact absurd hmem List.not_mem_nil
    rw [waysTo, if_neg hprefix, hother, List.sum_eq_zero hnone, Nat.add_zero]

/-- **Multiplicity.** The search finds each path as often as its stack entries go on to it. -/
theorem count_search {stack : List (α × List α)} {found : List (List α)} (p : List α) :
    (g.search isTarget stack found).count p
      = found.count p + (stack.map (g.waysTo isTarget p)).sum := by
  induction stack, found using search.induct g isTarget with
  | case1 found => simp [search]
  | case2 found curr path rest ih =>
    rw [dite_eq_ite] at ih
    have hfound : (if isTarget curr then found ++ [path] else found).count p
        = found.count p + (if isTarget curr then [path] else []).count p := by
      split <;> simp
    rw [search, ih, hfound, List.map_append, List.map_reverse, List.sum_append, List.sum_reverse,
      List.map_cons, List.sum_cons, waysTo_eq]
    omega

/-- A path goes on in one way exactly when it continues to a target along edges that have no others
beside them. -/
theorem ways_eq_one_iff {ext : List α} : g.ways isTarget curr path ext = 1 ↔
    g.Continues isTarget curr path ext ∧
      List.IsChain (fun a b ↦ (g.next a).count b = 1) (curr :: ext) := by
  induction ext generalizing curr path with
  | nil =>
    rw [ways]
    constructor
    · intro h
      split at h
      · rename_i htarget
        exact ⟨.stop htarget, .singleton curr⟩
      · contradiction
    · rintro ⟨hcontinues, -⟩
      cases hcontinues with
      | stop h => rw [if_pos h]
  | cons b ext ih =>
    rw [ways, List.isChain_cons_cons]
    constructor
    · intro h
      split at h
      · contradiction
      · rename_i hb
        have hcount := Nat.eq_one_of_mul_eq_one_right h
        have hways := Nat.eq_one_of_mul_eq_one_left h
        obtain ⟨hcontinues, hchain⟩ := ih.mp hways
        refine ⟨.step (List.count_pos_iff.mp (by omega)) hb hcontinues, hcount, hchain⟩
    · rintro ⟨hcontinues, hcount, hchain⟩
      cases hcontinues with
      | step hnext hpath h =>
        rw [if_neg hpath, hcount, ih.mpr ⟨h, hchain⟩]

end FiniteGraph

/-! ## Reaching by a simple path -/

omit [DecidableEq α] in
/-- What can be reached can be reached without repetitions: a loop is cut off where it returns. -/
theorem exists_simple_of_reflTransGen {r : α → α → Prop} {a b : α}
    (h : Relation.ReflTransGen r a b) :
    ∃ l, List.IsChain r (a :: l) ∧ (a :: l).Nodup ∧ (a :: l).getLast? = some b := by
  induction h using Relation.ReflTransGen.head_induction_on with
  | refl => exact ⟨[], .singleton b, List.nodup_singleton b, rfl⟩
  | @head a c hac _ ih =>
    obtain ⟨l, hchain, hnodup, hlast⟩ := ih
    by_cases ha : a ∈ c :: l
    · obtain ⟨pre, post, hsplit⟩ := List.append_of_mem ha
      rw [hsplit] at hchain hnodup hlast
      refine ⟨post, hchain.right_of_append, (List.nodup_append.mp hnodup).2.1, ?_⟩
      rw [← hlast, List.getLast?_append, List.getLast?_cons, Option.some_or]
    · exact ⟨c :: l, List.isChain_cons_cons.mpr ⟨hac, hchain⟩, List.nodup_cons.mpr ⟨ha, hnodup⟩,
        by rw [List.getLast?_cons_cons, hlast]⟩

end DriftGuardX
