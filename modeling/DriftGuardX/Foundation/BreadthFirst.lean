import DriftGuardX.Foundation.SimplePath

/-!
# Breadth-first search with repetitions

The search takes the first vertex off its queue, counts it as found and appends those of its successors
that are not found yet, also when they are on the queue already. So vertices may be taken off several
times. A vertex that was found before appends only vertices that were not, so on the queue there are
fewer of those that were; and other vertices are found only once each (`exists_explore`).
-/

namespace DriftGuardX.FiniteGraph

variable {α : Type*} [DecidableEq α] (g : FiniteGraph α)

/-- The found vertices with one more. -/
def addFound (found : List α) (a : α) : List α := if a ∈ found then found else found ++ [a]

/-- The search, in at most as many rounds as there is fuel. -/
def explore : ℕ → List α → List α → Option (List α)
  | 0, _, _ => none
  | _ + 1, [], found => some found
  | fuel + 1, a :: queue, found =>
    let found := addFound found a
    explore fuel (queue ++ (g.next a).filter fun b ↦ b ∉ found) found

/-- What the search from a vertex keeps. -/
structure Explores (start : α) (queue found : List α) : Prop where
  vertices : ∀ a ∈ queue, a ∈ g.vertices
  reached : ∀ a, a ∈ queue ∨ a ∈ found → Relation.ReflTransGen (fun a b ↦ b ∈ g.next a) start a
  start_mem : start ∈ queue ∨ start ∈ found
  closed : ∀ a ∈ found, ∀ b ∈ g.next a, b ∈ queue ∨ b ∈ found
  nodup : found.Nodup

variable {g} {start a : α} {queue found : List α}

omit g in
theorem mem_addFound {b : α} : b ∈ addFound found a ↔ b = a ∨ b ∈ found := by
  rw [addFound]
  split_ifs with h
  · exact ⟨.inr, fun hb ↦ hb.elim (fun heq ↦ heq ▸ h) id⟩
  · rw [List.mem_append, List.mem_singleton, or_comm]

omit g in
theorem nodup_addFound (h : found.Nodup) : (addFound found a).Nodup := by
  rw [addFound]
  split_ifs with ha
  · exact h
  · exact h.append (List.nodup_singleton a) (by simpa using ha)

theorem Explores.next (h : g.Explores start (a :: queue) found) :
    g.Explores start (queue ++ (g.next a).filter fun b ↦ b ∉ addFound found a) (addFound found a) where
  vertices := by
    intro b hb
    obtain hb | hb := List.mem_append.mp hb
    · exact h.vertices b (List.mem_cons_of_mem _ hb)
    · exact g.closed a b (List.mem_filter.mp hb).1
  reached := by
    have ha := h.reached a (.inl List.mem_cons_self)
    rintro b (hb | hb)
    · obtain hb | hb := List.mem_append.mp hb
      · exact h.reached b (.inl (List.mem_cons_of_mem _ hb))
      · exact ha.tail (List.mem_filter.mp hb).1
    · obtain rfl | hb := mem_addFound.mp hb
      · exact ha
      · exact h.reached b (.inr hb)
  start_mem := by
    obtain hmem | hmem := h.start_mem
    · obtain rfl | hmem := List.mem_cons.mp hmem
      · exact .inr (mem_addFound.mpr (.inl rfl))
      · exact .inl (List.mem_append_left _ hmem)
    · exact .inr (mem_addFound.mpr (.inr hmem))
  closed := by
    intro b hb c hc
    by_cases hfound : c ∈ addFound found a
    · exact .inr hfound
    refine .inl (List.mem_append.mpr ?_)
    obtain rfl | hb := mem_addFound.mp hb
    · exact .inr (List.mem_filter.mpr ⟨hc, by simpa using hfound⟩)
    · obtain hqueue | hold := h.closed b hb c hc
      · obtain rfl | hqueue := List.mem_cons.mp hqueue
        · exact absurd (mem_addFound.mpr (.inl rfl)) hfound
        · exact .inl hqueue
      · exact absurd (mem_addFound.mpr (.inr hold)) hfound
  nodup := nodup_addFound h.nodup

omit [DecidableEq α] in
theorem Explores.mem_iff (h : g.Explores start [] found) :
    a ∈ found ↔ Relation.ReflTransGen (fun a b ↦ b ∈ g.next a) start a := by
  refine ⟨fun ha ↦ h.reached a (.inr ha), fun hreach ↦ ?_⟩
  induction hreach with
  | refl => exact h.start_mem.resolve_left List.not_mem_nil
  | tail _ hnext ih => exact (h.closed _ ih _ hnext).resolve_left List.not_mem_nil

/-- A round finds a vertex, or leaves fewer vertices on the queue that were found before. -/
theorem next_lt (ha : a ∈ g.vertices) : Prod.Lex (· < ·) (· < ·)
    (g.unvisited (addFound found a),
      ((queue ++ (g.next a).filter fun b ↦ b ∉ addFound found a).filter fun b ↦
        b ∈ addFound found a).length)
    (g.unvisited found, ((a :: queue).filter fun b ↦ b ∈ found).length) := by
  by_cases hfound : a ∈ found
  · have hsame : addFound found a = found := if_pos hfound
    have hnew : ((g.next a).filter fun b ↦ b ∉ found).filter (fun b ↦ b ∈ found) = [] := by
      rw [List.filter_filter, List.filter_eq_nil_iff]
      simp
    rw [hsame, List.filter_append, hnew, List.append_nil, List.filter_cons_of_pos (by simpa using hfound)]
    exact .right _ (Nat.lt_succ_self _)
  · refine .left _ _ ?_
    rw [addFound, if_neg hfound]
    exact unvisited_append_lt ha hfound

/-- **The search ends** and has found what can be reached from its start. -/
theorem exists_explore {queue found : List α} (h : g.Explores start queue found) : ∃ found',
    (∃ enough, ∀ fuel ≥ enough, g.explore fuel queue found = some found') ∧ found'.Nodup ∧
      ∀ a, a ∈ found' ↔ Relation.ReflTransGen (fun a b ↦ b ∈ g.next a) start a := by
  match queue with
  | [] =>
    refine ⟨found, ⟨1, fun fuel hfuel ↦ ?_⟩, h.nodup, fun a ↦ h.mem_iff⟩
    obtain ⟨fuel, rfl⟩ := Nat.exists_eq_add_of_le' hfuel
    rfl
  | a :: queue =>
    obtain ⟨found', ⟨enough, hexplore⟩, hfound'⟩ := exists_explore h.next
    refine ⟨found', ⟨enough + 1, fun fuel hfuel ↦ ?_⟩, hfound'⟩
    obtain ⟨fuel, rfl⟩ := Nat.exists_eq_add_of_le' (Nat.le_of_add_left_le hfuel)
    exact hexplore fuel (Nat.le_of_add_le_add_right hfuel)
termination_by (g.unvisited found, (queue.filter fun a ↦ a ∈ found).length)
decreasing_by exact next_lt (h.vertices a List.mem_cons_self)

end DriftGuardX.FiniteGraph
