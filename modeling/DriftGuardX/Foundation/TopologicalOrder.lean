import DriftGuardX.Foundation.SimplePath
import Mathlib.Data.List.Count
import Mathlib.Logic.Function.Basic
import Mathlib.Logic.Relation

/-!
# Searching and ordering a finite graph

A breadth-first search of what can be reached from a vertex, and an order of some vertices in which
each comes when no edge from a vertex before it is left. The order is found by counting, for each
vertex, the edges that are still to be accounted for, and taking a vertex when there are none.

The counts are those of the edges from the vertices that have not been taken
(`Settling.degrees_eq`), so that vertices on which the order is stuck have predecessors among
themselves. Where there is no cycle it is stuck on none of them (`perm_topologicalOrder`).
-/

namespace DriftGuardX.FiniteGraph

variable {α : Type*} [DecidableEq α] (g : FiniteGraph α)

/-! ## The search -/

/-- The vertices that were not visited before are put into the queue. -/
def enqueue (queue visited : List α) : List α → List α × List α
  | [] => (queue, visited)
  | child :: children =>
    if child ∈ visited then enqueue queue visited children
    else enqueue (queue ++ [child]) (visited ++ [child]) children

variable {g} in
theorem length_enqueue_le {children : List α} (h : ∀ child ∈ children, child ∈ g.vertices)
    (queue visited : List α) :
    (enqueue queue visited children).1.length + g.unvisited (enqueue queue visited children).2
      ≤ queue.length + g.unvisited visited := by
  induction children generalizing queue visited with
  | nil => exact le_rfl
  | cons child children ih =>
    obtain ⟨hchild, hchildren⟩ := List.forall_mem_cons.mp h
    rw [enqueue]
    split
    · exact ih hchildren queue visited
    · rename_i hnew
      have hlt := unvisited_append_lt hchild hnew
      refine (ih hchildren _ _).trans ?_
      rw [List.length_append, List.length_singleton]
      omega

/-- The loop of the search: the queue, what was visited, and what was taken from the queue. -/
def discover (queue visited found : List α) : List α :=
  match queue with
  | [] => found
  | curr :: queue =>
    discover (enqueue queue visited (g.next curr)).1 (enqueue queue visited (g.next curr)).2
      (found ++ [curr])
termination_by queue.length + g.unvisited visited
decreasing_by
  have hle := length_enqueue_le (g.closed curr) queue visited
  rw [List.length_cons]
  omega

/-- What can be reached from a vertex. -/
def descendants (a : α) : List α := g.discover [a] [a] []

variable {g}

theorem nodup_enqueue (children : List α) {queue visited found : List α}
    (hvisited : visited = found ++ queue) (hnd : visited.Nodup) :
    (enqueue queue visited children).2 = found ++ (enqueue queue visited children).1 ∧
      (enqueue queue visited children).2.Nodup := by
  induction children generalizing queue visited with
  | nil => exact ⟨hvisited, hnd⟩
  | cons child children ih =>
    rw [enqueue]
    split
    · exact ih hvisited hnd
    · rename_i hnew
      refine ih (by rw [hvisited, List.append_assoc]) ?_
      exact hnd.append (List.nodup_singleton _) (List.disjoint_singleton.mpr hnew)

theorem nodup_discover {queue visited found : List α} (hvisited : visited = found ++ queue)
    (hnd : visited.Nodup) : (g.discover queue visited found).Nodup := by
  fun_induction discover with
  | case1 visited found =>
    rw [hvisited, List.append_nil] at hnd
    exact hnd
  | case2 visited found curr queue ih =>
    obtain ⟨hvisited', hnd'⟩ := nodup_enqueue (g.next curr)
      (hvisited.trans (List.append_cons found curr queue)) hnd
    exact ih hvisited' hnd'

theorem nodup_descendants (a : α) : (g.descendants a).Nodup :=
  nodup_discover rfl (List.nodup_singleton a)

theorem mem_enqueue_iff (children queue visited : List α) {a : α} :
    (a ∈ (enqueue queue visited children).1 ↔ a ∈ queue ∨ a ∈ children ∧ a ∉ visited) ∧
      (a ∈ (enqueue queue visited children).2 ↔ a ∈ visited ∨ a ∈ children) := by
  induction children generalizing queue visited with
  | nil => simp [enqueue]
  | cons child children ih =>
    rw [enqueue]
    split
    · rename_i hold
      obtain ⟨hqueue, hvisited⟩ := ih queue visited
      rw [hqueue, hvisited, List.mem_cons]
      constructor
      · refine or_congr_right ⟨fun h ↦ ⟨.inr h.1, h.2⟩, fun h ↦ ⟨h.1.resolve_left ?_, h.2⟩⟩
        exact fun heq ↦ h.2 (heq ▸ hold)
      · refine ⟨fun h ↦ h.imp id .inr, fun h ↦ h.elim .inl fun h ↦ h.elim ?_ .inr⟩
        exact fun heq ↦ .inl (heq ▸ hold)
    · rename_i hnew
      obtain ⟨hqueue, hvisited⟩ := ih (queue ++ [child]) (visited ++ [child])
      rw [hqueue, hvisited]
      simp only [List.mem_append, List.mem_cons, List.not_mem_nil, or_false]
      constructor
      · by_cases heq : a = child
        · simp [heq, hnew]
        · simp [heq]
      · rw [or_assoc]

theorem exists_of_mem_discover {queue visited found : List α} {a : α}
    (h : a ∈ g.discover queue visited found) :
    a ∈ found ∨ ∃ b ∈ queue, Relation.ReflTransGen (fun x y ↦ y ∈ g.next x) b a := by
  fun_induction discover with
  | case1 => exact .inl h
  | case2 visited found curr queue ih =>
    rcases ih h with hfound | ⟨b, hb, hpath⟩
    · rcases List.mem_append.mp hfound with hfound | hcurr
      · exact .inl hfound
      · exact .inr ⟨curr, List.mem_cons_self, List.mem_singleton.mp hcurr ▸ .refl⟩
    · rcases (mem_enqueue_iff (g.next curr) _ _).1.mp hb with hb | ⟨hchild, -⟩
      · exact .inr ⟨b, List.mem_cons_of_mem _ hb, hpath⟩
      · exact .inr ⟨curr, List.mem_cons_self, .head hchild hpath⟩

/-- What was visited is found, and so are the successors of what is found. -/
theorem discover_closed {queue visited found : List α}
    (hvisited : ∀ a, a ∈ visited ↔ a ∈ found ∨ a ∈ queue)
    (hclosed : ∀ a ∈ found, ∀ b ∈ g.next a, b ∈ visited) :
    (∀ a ∈ visited, a ∈ g.discover queue visited found) ∧
      ∀ a ∈ g.discover queue visited found, ∀ b ∈ g.next a,
        b ∈ g.discover queue visited found := by
  fun_induction discover with
  | case1 visited found =>
    have hfound (a : α) : a ∈ visited ↔ a ∈ found := by simpa using hvisited a
    exact ⟨fun a ha ↦ (hfound a).mp ha, fun a ha b hb ↦ (hfound b).mp (hclosed a ha b hb)⟩
  | case2 visited found curr queue ih =>
    have hvisited' (a : α) : a ∈ (enqueue queue visited (g.next curr)).2 ↔
        a ∈ found ++ [curr] ∨ a ∈ (enqueue queue visited (g.next curr)).1 := by
      rw [(mem_enqueue_iff _ _ _).1, (mem_enqueue_iff _ _ _).2, List.mem_append, List.mem_singleton]
      by_cases hold : a ∈ visited
      · have hor := (hvisited a).mp hold
        rw [List.mem_cons, ← or_assoc] at hor
        exact iff_of_true (.inl hold) (hor.imp id .inl)
      · obtain ⟨hfound, hcurr, hqueue⟩ : a ∉ found ∧ a ≠ curr ∧ a ∉ queue := by
          simpa [hvisited] using hold
        simp [hold, hfound, hcurr, hqueue]
    have hclosed' : ∀ a ∈ found ++ [curr], ∀ b ∈ g.next a,
        b ∈ (enqueue queue visited (g.next curr)).2 := by
      intro a ha b hb
      rcases List.mem_append.mp ha with ha | ha
      · exact (mem_enqueue_iff _ _ _).2.mpr (.inl (hclosed a ha b hb))
      · exact (mem_enqueue_iff _ _ _).2.mpr (.inr (List.mem_singleton.mp ha ▸ hb))
    obtain ⟨hmem, hsucc⟩ := ih hvisited' hclosed'
    exact ⟨fun a ha ↦ hmem a ((mem_enqueue_iff _ _ _).2.mpr (.inl ha)), hsucc⟩

/-- **The search** finds what can be reached. -/
theorem mem_descendants_iff {a b : α} :
    b ∈ g.descendants a ↔ Relation.ReflTransGen (fun x y ↦ y ∈ g.next x) a b := by
  have hsearch : (∀ x ∈ [a], x ∈ g.descendants a) ∧
      ∀ x ∈ g.descendants a, ∀ y ∈ g.next x, y ∈ g.descendants a :=
    discover_closed (by simp) (by simp)
  obtain ⟨hstart, hclosed⟩ := hsearch
  constructor
  · intro h
    rcases exists_of_mem_discover h with hfound | ⟨c, hc, hpath⟩
    · exact absurd hfound List.not_mem_nil
    · exact List.mem_singleton.mp hc ▸ hpath
  · intro hpath
    induction hpath with
    | refl => exact hstart a List.mem_cons_self
    | tail _ hedge ih => exact hclosed _ ih _ hedge

/-! ## The order -/

/-- How many vertices have an edge left. -/
def waiting (keys : List α) (degrees : α → ℤ) : ℕ := (keys.filter fun a ↦ 0 < degrees a).length

/-- The edges to some vertices are accounted for; those to which none is left are put into the
queue. -/
def release (keys : List α) (degrees : α → ℤ) (queue : List α) : List α → (α → ℤ) × List α
  | [] => (degrees, queue)
  | child :: children =>
    if child ∈ keys then
      release keys (Function.update degrees child (degrees child - 1))
        (if degrees child - 1 = 0 then queue ++ [child] else queue) children
    else release keys degrees queue children

theorem waiting_update_le (keys : List α) (degrees : α → ℤ) (child : α) :
    waiting keys (Function.update degrees child (degrees child - 1)) ≤ waiting keys degrees := by
  refine List.Sublist.length_le (List.monotone_filter_right keys fun a ha ↦ ?_)
  rw [decide_eq_true_iff] at ha ⊢
  by_cases heq : a = child
  · subst heq
    rw [Function.update_self] at ha
    omega
  · rwa [Function.update_of_ne heq] at ha

theorem waiting_update_lt {keys : List α} {degrees : α → ℤ} {child : α} (hchild : child ∈ keys)
    (hone : degrees child - 1 = 0) :
    waiting keys (Function.update degrees child (degrees child - 1)) < waiting keys degrees := by
  have hfilter : (keys.filter fun a ↦ 0 < Function.update degrees child (degrees child - 1) a)
      = (keys.filter fun a ↦ 0 < degrees a).filter fun a ↦ a ≠ child := by
    rw [List.filter_filter]
    refine List.filter_congr fun a _ ↦ ?_
    by_cases heq : a = child
    · simp [heq, hone]
    · simp [heq]
  rw [waiting, waiting, hfilter, List.length_filter_lt_length_iff_exists]
  exact ⟨child, List.mem_filter.mpr ⟨hchild, decide_eq_true (by omega)⟩, by simp⟩

theorem length_release_le (keys : List α) (children : List α) (degrees : α → ℤ) (queue : List α) :
    (release keys degrees queue children).2.length
        + waiting keys (release keys degrees queue children).1
      ≤ queue.length + waiting keys degrees := by
  induction children generalizing degrees queue with
  | nil => exact le_rfl
  | cons child children ih =>
    rw [release]
    split
    · rename_i hchild
      refine (ih _ _).trans ?_
      split
      · rename_i hone
        have hlt := waiting_update_lt hchild hone
        rw [List.length_append, List.length_singleton]
        omega
      · exact Nat.add_le_add_left (waiting_update_le keys degrees child) _
    · exact ih degrees queue

variable (g)

/-- The loop of the order: the edges left, the vertices without any, and the vertices taken. -/
def settle (keys : List α) (degrees : α → ℤ) (queue done : List α) : List α :=
  match queue with
  | [] => done
  | curr :: queue =>
    settle keys (release keys degrees queue (g.next curr)).1
      (release keys degrees queue (g.next curr)).2 (done ++ [curr])
termination_by queue.length + waiting keys degrees
decreasing_by
  have hle := length_release_le keys (g.next curr) degrees queue
  rw [List.length_cons]
  omega

/-- How many edges lead to a vertex from some vertices. -/
def inDegrees (keys : List α) (a : α) : ℤ := (keys.flatMap g.next).count a

def topologicalOrder (keys : List α) : List α :=
  g.settle keys (g.inDegrees keys) (keys.filter fun a ↦ g.inDegrees keys a = 0) []

/-! ### What is left -/

/-- The state of the loop while the edges to some children are accounted for. -/
structure Settling (keys : List α) (degrees : α → ℤ) (queue done rest children : List α) :
    Prop where
  perm : (done ++ (queue ++ rest)).Perm keys
  nodup : (done ++ (queue ++ rest)).Nodup
  degrees_eq : ∀ a ∈ keys, degrees a = children.count a + ((queue ++ rest).flatMap g.next).count a
  settled : ∀ a ∈ done ++ queue, degrees a = 0
  unsettled : ∀ a ∈ rest, 0 < degrees a

variable {g} {keys : List α} {degrees : α → ℤ} {queue done rest children : List α}

theorem Settling.skip {child : α} (h : Settling g keys degrees queue done rest (child :: children))
    (hchild : child ∉ keys) : Settling g keys degrees queue done rest children := by
  refine { h with degrees_eq := fun a ha ↦ ?_ }
  have hne : a ≠ child := fun heq ↦ hchild (heq ▸ ha)
  rw [h.degrees_eq a ha, List.count_cons_of_ne hne.symm]

theorem Settling.mem_rest {child : α}
    (h : Settling g keys degrees queue done rest (child :: children)) (hchild : child ∈ keys) :
    child ∈ rest := by
  have hpos : 0 < degrees child := by
    rw [h.degrees_eq child hchild, List.count_cons_self]
    omega
  have hmem := h.perm.mem_iff.mpr hchild
  rw [← List.append_assoc, List.mem_append] at hmem
  refine hmem.resolve_left fun hsettled ↦ ?_
  have hzero := h.settled child hsettled
  omega

/-- The edge to a child that is a key is accounted for. -/
theorem Settling.update {child : α}
    (h : Settling g keys degrees queue done rest (child :: children)) (hchild : child ∈ keys)
    (hedges : degrees child - 1 ≠ 0) :
    Settling g keys (Function.update degrees child (degrees child - 1)) queue done rest
      children := by
  have hrest := h.mem_rest hchild
  have hdisjoint := (List.nodup_append.mp (List.append_assoc done queue rest ▸ h.nodup)).2.2
  refine ⟨h.perm, h.nodup, fun a ha ↦ ?_, fun a ha ↦ ?_, fun a ha ↦ ?_⟩
  · have hdegrees := h.degrees_eq a ha
    by_cases heq : a = child
    · subst heq
      rw [List.count_cons_self] at hdegrees
      rw [Function.update_self]
      omega
    · rwa [Function.update_of_ne heq, ← List.count_cons_of_ne (Ne.symm heq)]
  · rw [Function.update_of_ne (fun heq ↦ hdisjoint a ha child hrest heq)]
    exact h.settled a ha
  · have hpos := h.unsettled a ha
    by_cases heq : a = child
    · subst heq
      rw [Function.update_self]
      omega
    · rwa [Function.update_of_ne heq]

/-- A child without edges left is put into the queue. -/
theorem Settling.push {child : α}
    (h : Settling g keys degrees queue done rest (child :: children)) (hchild : child ∈ keys)
    (hone : degrees child - 1 = 0) :
    Settling g keys (Function.update degrees child (degrees child - 1)) (queue ++ [child]) done
      (rest.erase child) children := by
  have hrest := h.mem_rest hchild
  have hmove : (queue ++ [child] ++ rest.erase child).Perm (queue ++ rest) := by
    rw [List.append_assoc]
    exact (List.perm_cons_erase hrest).symm.append_left queue
  have hnodup : (done ++ (queue ++ [child] ++ rest.erase child)).Nodup :=
    (hmove.append_left done).nodup_iff.mpr h.nodup
  have hdisjoint := (List.nodup_append.mp (List.append_assoc done queue rest ▸ h.nodup)).2.2
  have hrestnd : rest.Nodup := (List.nodup_append.mp (List.append_assoc done queue rest ▸
    h.nodup)).2.1
  refine ⟨(hmove.append_left done).trans h.perm, hnodup, fun a ha ↦ ?_, fun a ha ↦ ?_,
    fun a ha ↦ ?_⟩
  · have hdegrees := h.degrees_eq a ha
    rw [(hmove.flatMap_right g.next).count_eq]
    by_cases heq : a = child
    · subst heq
      rw [List.count_cons_self] at hdegrees
      rw [Function.update_self]
      omega
    · rwa [Function.update_of_ne heq, ← List.count_cons_of_ne (Ne.symm heq)]
  · rw [← List.append_assoc, List.mem_append, List.mem_singleton] at ha
    rcases ha with ha | rfl
    · rw [Function.update_of_ne (fun heq ↦ hdisjoint a ha child hrest heq)]
      exact h.settled a ha
    · rw [Function.update_self, hone]
  · obtain ⟨hne, hmem⟩ := hrestnd.mem_erase_iff.mp ha
    rw [Function.update_of_ne hne]
    exact h.unsettled a hmem

theorem Settling.release (h : Settling g keys degrees queue done rest children) :
    ∃ rest', Settling g keys (release keys degrees queue children).1
      (release keys degrees queue children).2 done rest' [] := by
  induction children generalizing degrees queue rest with
  | nil => exact ⟨rest, h⟩
  | cons child children ih =>
    rw [FiniteGraph.release]
    split
    · rename_i hchild
      split
      · rename_i hone
        exact ih (h.push hchild hone)
      · rename_i hedges
        exact ih (h.update hchild hedges)
    · rename_i hchild
      exact ih (h.skip hchild)

theorem Settling.take {curr : α} (h : Settling g keys degrees (curr :: queue) done rest []) :
    Settling g keys degrees queue (done ++ [curr]) rest (g.next curr) := by
  have hmove : done ++ [curr] ++ (queue ++ rest) = done ++ (curr :: queue ++ rest) := by
    rw [List.append_assoc, List.singleton_append, List.cons_append]
  refine ⟨hmove ▸ h.perm, hmove ▸ h.nodup, fun a ha ↦ ?_, fun a ha ↦ ?_, h.unsettled⟩
  · rw [h.degrees_eq a ha, List.cons_append, List.flatMap_cons, List.count_append]
    push_cast
    simp
  · refine h.settled a ?_
    rwa [List.append_cons]

/-- A vertex that is left when the queue is empty has an edge from another one that is left. -/
theorem Settling.exists_predecessor (h : Settling g keys degrees [] done rest []) {a : α}
    (ha : a ∈ rest) : ∃ b ∈ rest, a ∈ g.next b := by
  have hkey : a ∈ keys := h.perm.mem_iff.mp (by simp [ha])
  have hpos := h.unsettled a ha
  rw [h.degrees_eq a hkey] at hpos
  simpa [List.count_pos_iff] using hpos

theorem perm_settle {rank : α → ℕ} (hrank : ∀ a ∈ keys, ∀ b ∈ g.next a, b ∈ keys → rank a < rank b)
    (h : Settling g keys degrees queue done rest []) :
    (g.settle keys degrees queue done).Perm keys := by
  fun_induction settle generalizing rest with
  | case1 degrees done =>
    have hkey : ∀ a ∈ rest, a ∈ keys := fun a ha ↦ h.perm.mem_iff.mp (by simp [ha])
    -- predecessors among the vertices that are left have lower and lower ranks
    have hnone : ∀ n, ∀ a ∈ rest, rank a ≠ n := by
      intro n
      induction n using Nat.strong_induction_on with
      | h n ih =>
        rintro a ha rfl
        obtain ⟨b, hb, hedge⟩ := h.exists_predecessor ha
        exact ih (rank b) (hrank b (hkey b hb) a hedge (hkey a ha)) b hb rfl
    have hnil : rest = [] := List.eq_nil_iff_forall_not_mem.mpr fun a ha ↦ hnone _ a ha rfl
    have hperm := h.perm
    rwa [hnil, List.append_nil, List.append_nil] at hperm
  | case2 degrees done curr queue ih =>
    obtain ⟨rest', h'⟩ := h.take.release
    exact ih h'

theorem Settling.notMem_next (h : Settling g keys degrees queue done rest []) {a b : α}
    (ha : a ∈ done ++ queue) (hb : b ∈ queue ++ rest) : a ∉ g.next b := by
  intro hedge
  have hkey : a ∈ keys := by
    refine h.perm.mem_iff.mp ?_
    rw [← List.append_assoc]
    exact List.mem_append_left _ ha
  have hzero := h.degrees_eq a hkey
  rw [h.settled a ha, List.count_nil] at hzero
  have hmem : a ∈ (queue ++ rest).flatMap g.next := List.mem_flatMap.mpr ⟨b, hb, hedge⟩
  have hpos := List.count_pos_iff.mpr hmem
  omega

theorem pairwise_settle (h : Settling g keys degrees queue done rest [])
    (hdone : done.Pairwise fun a b ↦ a ∉ g.next b) :
    (g.settle keys degrees queue done).Pairwise fun a b ↦ a ∉ g.next b := by
  fun_induction settle generalizing rest with
  | case1 => exact hdone
  | case2 degrees done curr queue ih =>
    obtain ⟨rest', h'⟩ := h.take.release
    refine ih h' (List.pairwise_append.mpr ⟨hdone, List.pairwise_singleton _ _, ?_⟩)
    intro a ha b hb
    rw [List.mem_singleton.mp hb]
    exact h.notMem_next (List.mem_append_left _ ha) List.mem_cons_self

theorem settling_inDegrees (hnd : keys.Nodup) :
    Settling g keys (g.inDegrees keys) (keys.filter fun a ↦ g.inDegrees keys a = 0) []
      (keys.filter fun a ↦ !decide (g.inDegrees keys a = 0)) [] := by
  have hparts : ([] ++ (keys.filter (fun a ↦ g.inDegrees keys a = 0) ++
      keys.filter fun a ↦ !decide (g.inDegrees keys a = 0))).Perm keys :=
    List.filter_append_perm _ keys
  refine ⟨hparts, hparts.nodup_iff.mpr hnd, fun a _ ↦ ?_, fun a ha ↦ ?_, fun a ha ↦ ?_⟩
  · rw [List.nil_append] at hparts
    rw [(hparts.flatMap_right g.next).count_eq, inDegrees]
    simp
  · simpa using (List.mem_filter.mp ha).2
  · have hne : ¬ g.inDegrees keys a = 0 := by simpa using (List.mem_filter.mp ha).2
    have hnonneg : 0 ≤ g.inDegrees keys a := Int.natCast_nonneg _
    omega

/-- **All vertices are ordered** where the edges among them lead to higher and higher ranks. -/
theorem perm_topologicalOrder (hnd : keys.Nodup) {rank : α → ℕ}
    (hrank : ∀ a ∈ keys, ∀ b ∈ g.next a, b ∈ keys → rank a < rank b) :
    (g.topologicalOrder keys).Perm keys := perm_settle hrank (settling_inDegrees hnd)

/-- **The order** is one in which no edge leads back. -/
theorem pairwise_topologicalOrder (hnd : keys.Nodup) :
    (g.topologicalOrder keys).Pairwise fun a b ↦ a ∉ g.next b :=
  pairwise_settle (settling_inDegrees hnd) .nil

end DriftGuardX.FiniteGraph
