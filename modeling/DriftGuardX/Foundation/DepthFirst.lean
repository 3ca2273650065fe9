import DriftGuardX.Foundation.SimplePath

/-!
# Depth-first search for a cycle

The search visits every vertex once. It keeps the vertices that it has visited, and among them a stack
of those whose successors it has not all looked at. From each vertex of the stack the vertex that is
looked at can be reached, so a successor on the stack closes a cycle. The vertices that are done lead to
such vertices only, and to none on the stack (`Sound.done`); so none of them lies on a cycle, and a
search that finds nothing has missed nothing (`findCycle_eq_some`).
-/

namespace DriftGuardX.FiniteGraph

variable {α : Type*} [DecidableEq α]

/-- The vertices that were visited, and those on the stack. -/
structure Marks (α : Type*) where
  visited : List α
  stack : List α

namespace Marks

def enter (m : Marks α) (a : α) : Marks α := ⟨m.visited ++ [a], m.stack ++ [a]⟩

def leave (m : Marks α) (a : α) : Marks α := { m with stack := m.stack.erase a }

/-- All successors were looked at. -/
def Done (m : Marks α) (a : α) : Prop := a ∈ m.visited ∧ a ∉ m.stack

end Marks

/-- The loop over the successors of a vertex, with a search from a vertex that was not visited. -/
def scan (visit : α → Marks α → Option (Bool × Marks α)) :
    List α → Marks α → Option (Bool × Marks α)
  | [], m => some (false, m)
  | b :: bs, m =>
    if b ∉ m.visited then
      match visit b m with
      | none => none
      | some (true, m) => some (true, m)
      | some (false, m) => scan visit bs m
    else if b ∈ m.stack then some (true, m)
    else scan visit bs m

variable (g : FiniteGraph α)

/-- The search from a vertex, at most as deep as there is fuel. -/
def isCyclic : ℕ → α → Marks α → Option (Bool × Marks α)
  | 0, _, _ => none
  | fuel + 1, a, m =>
    match scan (isCyclic fuel) (g.next a) (m.enter a) with
    | none => none
    | some (true, m) => some (true, m)
    | some (false, m) => some (false, m.leave a)

/-- The search from each of some vertices that was not visited before. -/
def findCycle (fuel : ℕ) : List α → Marks α → Option Bool
  | [], _ => some false
  | a :: as, m =>
    if a ∉ m.visited then
      match g.isCyclic fuel a m with
      | none => none
      | some (true, _) => some true
      | some (false, m) => findCycle fuel as m
    else findCycle fuel as m

/-! ## What the search keeps -/

def Edge (a b : α) : Prop := b ∈ g.next a

/-- A vertex that can be reached from itself. -/
def OnCycle (a : α) : Prop := Relation.TransGen g.Edge a a

/-- The vertices that are done lead to such vertices only, and are on no cycle. -/
structure Sound (m : Marks α) : Prop where
  visited : ∀ a ∈ m.stack, a ∈ m.visited
  done : ∀ a, m.Done a → (∀ b ∈ g.next a, m.Done b) ∧ ¬ g.OnCycle a

/-- What a search of some vertices may come to. -/
def Outcome (m : Marks α) (as : List α) : Bool × Marks α → Prop
  | (true, _) => ∃ a, g.OnCycle a
  | (false, m') => g.Sound m' ∧ m'.stack = m.stack ∧ m.visited ⊆ m'.visited ∧ ∀ a ∈ as, m'.Done a

variable {g} {m m' : Marks α} {a : α} {fuel : ℕ}

theorem unvisited_le_of_subset {path path' : List α} (h : path ⊆ path') :
    g.unvisited path' ≤ g.unvisited path := by
  refine List.Sublist.length_le (List.monotone_filter_right _ fun a ha ↦ ?_)
  simp only [decide_eq_true_eq] at ha ⊢
  exact fun hmem ↦ ha (h hmem)

omit [DecidableEq α] in
theorem Sound.done_of_reaches (h : g.Sound m) (ha : m.Done a) {b : α}
    (hreach : Relation.ReflTransGen g.Edge a b) : m.Done b := by
  induction hreach with
  | refl => exact ha
  | tail _ hedge ih => exact (h.done _ ih).1 _ hedge

omit [DecidableEq α] in
theorem Sound.enter (h : g.Sound m) (ha : a ∉ m.visited) : g.Sound (m.enter a) := by
  have hold : ∀ b, (m.enter a).Done b → m.Done b := by
    rintro b ⟨hvisited, hstack⟩
    rw [Marks.enter, List.mem_append, List.mem_singleton, not_or] at hstack
    exact ⟨(List.mem_append.mp hvisited).resolve_right (by simpa using hstack.2), hstack.1⟩
  refine ⟨fun b hb ↦ ?_, fun b hb ↦ ?_⟩
  · exact List.mem_append.mpr ((List.mem_append.mp hb).imp_left (h.visited b))
  · obtain ⟨hnext, hcycle⟩ := h.done b (hold b hb)
    refine ⟨fun c hc ↦ ?_, hcycle⟩
    obtain ⟨hvisited, hstack⟩ := hnext c hc
    have hne : c ≠ a := fun heq ↦ ha (heq ▸ hvisited)
    exact ⟨List.mem_append_left _ hvisited, by simp [Marks.enter, hstack, hne]⟩

theorem Sound.leave {stack : List α} (h : g.Sound m) (hstack : m.stack = stack ++ [a])
    (ha : a ∉ stack) (hnext : ∀ b ∈ g.next a, m.Done b) :
    g.Sound (m.leave a) ∧ (m.leave a).stack = stack ∧ (m.leave a).Done a := by
  have hleft : (m.leave a).stack = stack := by
    rw [Marks.leave, hstack, List.erase_append_right _ ha]
    simp
  have hmem : a ∈ m.visited := h.visited a (by simp [hstack])
  have hdone : ∀ b, m.Done b → (m.leave a).Done b := by
    rintro b ⟨hvisited, hb⟩
    refine ⟨hvisited, fun hin ↦ hb ?_⟩
    rw [hstack]
    exact List.mem_append_left _ (hleft ▸ hin)
  refine ⟨⟨fun b hb ↦ ?_, fun b hb ↦ ?_⟩, hleft, hmem, hleft ▸ ha⟩
  · rw [hleft] at hb
    exact h.visited b (by simp [hstack, hb])
  · obtain rfl | hne := eq_or_ne b a
    · refine ⟨fun c hc ↦ hdone c (hnext c hc), fun hcycle ↦ ?_⟩
      -- what can be reached from its successors is done, but the vertex was on the stack
      obtain ⟨c, hedge, hback⟩ := Relation.TransGen.head'_iff.mp hcycle
      exact (h.done_of_reaches (hnext c hedge) hback).2 (by simp [hstack])
    · have hold : m.Done b := by
        refine ⟨hb.1, ?_⟩
        rw [hstack, List.mem_append, List.mem_singleton, not_or]
        exact ⟨hleft ▸ hb.2, hne⟩
      obtain ⟨hsucc, hcycle⟩ := h.done b hold
      exact ⟨fun c hc ↦ hdone c (hsucc c hc), hcycle⟩

/-! ## The search -/

/-- What is asked of a search from a vertex that was not visited. -/
def Searches (g : FiniteGraph α) (fuel : ℕ) (visit : α → Marks α → Option (Bool × Marks α)) : Prop :=
  ∀ (a : α) (m : Marks α), g.Sound m → a ∉ m.visited → a ∈ g.vertices →
    (∀ c ∈ m.stack, Relation.TransGen g.Edge c a) → g.unvisited m.visited ≤ fuel →
      ∃ r, visit a m = some r ∧ g.Outcome m [a] r

/-- The loop over successors that can be reached from the whole stack. -/
theorem exists_scan {visit : α → Marks α → Option (Bool × Marks α)} (hvisit : g.Searches fuel visit)
    {bs : List α} (hbs : ∀ b ∈ bs, b ∈ g.vertices) (h : g.Sound m)
    (hstack : ∀ c ∈ m.stack, ∀ b ∈ bs, Relation.TransGen g.Edge c b)
    (hfuel : g.unvisited m.visited ≤ fuel) :
    ∃ r, scan visit bs m = some r ∧ g.Outcome m bs r := by
  induction bs generalizing m with
  | nil => exact ⟨_, rfl, h, rfl, List.Subset.refl _, fun _ hb ↦ absurd hb List.not_mem_nil⟩
  | cons b bs ih =>
    obtain ⟨hb, hbs⟩ := List.forall_mem_cons.mp hbs
    have hstack' : ∀ c ∈ m.stack, ∀ b ∈ bs, Relation.TransGen g.Edge c b :=
      fun c hc b hb ↦ hstack c hc b (List.mem_cons_of_mem _ hb)
    -- the other successors, after the first one is done
    have hrest : ∀ m', g.Sound m' → m'.stack = m.stack → m.visited ⊆ m'.visited → m'.Done b →
        ∃ r, scan visit bs m' = some r ∧ g.Outcome m (b :: bs) r := by
      intro m' h' hsame hsub hdone
      obtain ⟨⟨found, m''⟩, hscan, hout⟩ := ih hbs h' (hsame ▸ hstack')
        ((unvisited_le_of_subset hsub).trans hfuel)
      refine ⟨_, hscan, ?_⟩
      cases found with
      | true => exact hout
      | false =>
        obtain ⟨h'', hsame', hsub', hall⟩ := hout
        refine ⟨h'', hsame'.trans hsame, List.Subset.trans hsub hsub', List.forall_mem_cons.mpr ⟨?_, hall⟩⟩
        exact ⟨hsub' hdone.1, by rw [hsame']; exact hdone.2⟩
    by_cases hnew : b ∈ m.visited
    · rw [scan, if_neg (not_not.mpr hnew)]
      split_ifs with hin
      · exact ⟨(true, m), rfl, b, hstack b hin b List.mem_cons_self⟩
      · exact hrest m h rfl (List.Subset.refl _) ⟨hnew, hin⟩
    · obtain ⟨⟨found, m'⟩, hr, hout⟩ := hvisit b m h hnew hb
        (fun c hc ↦ hstack c hc b List.mem_cons_self) hfuel
      rw [scan, if_pos hnew, hr]
      cases found with
      | true => exact ⟨_, rfl, hout⟩
      | false =>
        obtain ⟨h', hsame, hsub, hdone⟩ := hout
        exact hrest m' h' hsame hsub (hdone b List.mem_cons_self)

theorem searches_isCyclic (fuel : ℕ) : g.Searches fuel (g.isCyclic fuel) := by
  induction fuel with
  | zero =>
    intro a m _ hnew ha _ hfuel
    have hlt := unvisited_append_lt ha hnew
    omega
  | succ fuel ih =>
    intro a m h hnew ha hstack hfuel
    have hstack' : ∀ c ∈ (m.enter a).stack, ∀ b ∈ g.next a, Relation.TransGen g.Edge c b := by
      intro c hc b hb
      obtain hc | hc := List.mem_append.mp hc
      · exact (hstack c hc).tail hb
      · exact List.mem_singleton.mp hc ▸ .single hb
    have hfuel' : g.unvisited (m.enter a).visited ≤ fuel := by
      have hlt := unvisited_append_lt ha hnew
      exact Nat.le_of_lt_succ (hlt.trans_le hfuel)
    obtain ⟨⟨found, m'⟩, hscan, hout⟩ :=
      exists_scan ih (g.closed a) (h.enter hnew) hstack' hfuel'
    rw [isCyclic, hscan]
    cases found with
    | true => exact ⟨_, rfl, hout⟩
    | false =>
      obtain ⟨h', hsame, hsub, hdone⟩ := hout
      have hold : a ∉ m.stack := fun hmem ↦ hnew (h.visited a hmem)
      obtain ⟨hsound, hleft, hself⟩ := h'.leave hsame hold hdone
      refine ⟨_, rfl, hsound, hleft, fun b hb ↦ hsub (List.mem_append_left _ hb), ?_⟩
      exact fun b hb ↦ List.mem_singleton.mp hb ▸ hself

theorem exists_findCycle {as : List α} (has : ∀ a ∈ as, a ∈ g.vertices) (h : g.Sound m)
    (hstack : m.stack = []) (hfuel : g.unvisited m.visited ≤ fuel) :
    (g.findCycle fuel as m = some true ∧ ∃ a, g.OnCycle a) ∨
      (g.findCycle fuel as m = some false ∧ ∀ a ∈ as, ¬ g.OnCycle a) := by
  induction as generalizing m with
  | nil => exact .inr ⟨rfl, fun _ ha ↦ absurd ha List.not_mem_nil⟩
  | cons a as ih =>
    obtain ⟨ha, has⟩ := List.forall_mem_cons.mp has
    have hrest : ∀ m', g.Sound m' → m'.stack = [] → m.visited ⊆ m'.visited → m'.Done a →
        (g.findCycle fuel as m' = some true ∧ ∃ a, g.OnCycle a) ∨
          (g.findCycle fuel as m' = some false ∧ ∀ b ∈ a :: as, ¬ g.OnCycle b) := by
      intro m' h' hempty hsub hdone
      obtain hfound | ⟨hnone, hall⟩ := ih has h' hempty ((unvisited_le_of_subset hsub).trans hfuel)
      · exact .inl hfound
      · exact .inr ⟨hnone, List.forall_mem_cons.mpr ⟨(h'.done a hdone).2, hall⟩⟩
    rw [findCycle]
    by_cases hnew : a ∈ m.visited
    · rw [if_neg (not_not.mpr hnew)]
      exact hrest m h hstack (List.Subset.refl _) ⟨hnew, by simp [hstack]⟩
    · obtain ⟨⟨found, m'⟩, hr, hout⟩ := searches_isCyclic fuel a m h hnew ha
        (by simp [hstack]) hfuel
      rw [if_pos hnew, hr]
      cases found with
      | true => exact .inl ⟨rfl, hout⟩
      | false =>
        obtain ⟨h', hsame, hsub, hdone⟩ := hout
        exact hrest m' h' (hsame.trans hstack) hsub (hdone a List.mem_cons_self)

/-- **The search finds a cycle exactly when there is one**, if it starts from every vertex that has a
successor and may go as deep as there are vertices. -/
theorem findCycle_eq_some {as : List α} (has : ∀ a ∈ as, a ∈ g.vertices)
    (hall : ∀ a, g.next a ≠ [] → a ∈ as) (hfuel : g.vertices.length ≤ fuel) :
    ∃ found, g.findCycle fuel as ⟨[], []⟩ = some found ∧ (found = true ↔ ∃ a, g.OnCycle a) := by
  have hsound : g.Sound ⟨[], []⟩ :=
    ⟨fun _ ha ↦ absurd ha List.not_mem_nil, fun _ ha ↦ absurd ha.1 List.not_mem_nil⟩
  have hunvisited : g.unvisited [] ≤ fuel := (List.length_filter_le _ _).trans hfuel
  obtain ⟨hfound, hcycle⟩ | ⟨hnone, hacyclic⟩ := exists_findCycle has hsound rfl hunvisited
  · exact ⟨true, hfound, iff_of_true rfl hcycle⟩
  · refine ⟨false, hnone, iff_of_false Bool.false_ne_true ?_⟩
    rintro ⟨a, hcycle⟩
    obtain ⟨b, hedge, -⟩ := Relation.TransGen.head'_iff.mp hcycle
    exact hacyclic a (hall a (List.ne_nil_of_mem hedge)) hcycle

end DriftGuardX.FiniteGraph
