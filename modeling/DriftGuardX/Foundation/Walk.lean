import Mathlib.Data.List.Basic
import Mathlib.Logic.Relation

/-!
# Walks that end at a repetition

A walk follows a partial function from one point to the next, and ends where the function ends or
where a point has a key that was met before. On finitely many points with distinct keys the walk
meets every point that can be reached (`mem_walk_iff`), whether it ends or runs into a cycle, and
with fuel for all points it does not run out.

Without a memory of what was met, the function is followed to its end exactly when no cycle can be
reached (`exists_follow_iff`).
-/

namespace DriftGuardX.Walk

variable {α κ : Type*} [DecidableEq κ]

/-- The points from a point on, until the function ends or a key repeats. -/
def walk (key : α → κ) (next : α → Option α) : ℕ → List κ → α → List α
  | 0, _, _ => []
  | fuel + 1, visited, a =>
    if key a ∈ visited then []
    else a :: (next a).elim [] (walk key next fuel (key a :: visited))

/-- The points that can be reached. -/
abbrev Reaches (next : α → Option α) : α → α → Prop :=
  Relation.ReflTransGen fun a b ↦ next a = some b

variable {key : α → κ} {next : α → Option α} {fuel : ℕ} {visited : List κ} {a b : α}

theorem walk_of_mem (h : key a ∈ visited) : walk key next fuel visited a = [] := by
  cases fuel with
  | zero => rfl
  | succ fuel => rw [walk, if_pos h]

theorem walk_of_not_mem (h : key a ∉ visited) : walk key next (fuel + 1) visited a
    = a :: (next a).elim [] (walk key next fuel (key a :: visited)) := by
  rw [walk, if_neg h]

theorem reaches_of_mem_walk (h : b ∈ walk key next fuel visited a) : Reaches next a b := by
  induction fuel generalizing visited a with
  | zero => exact nomatch h
  | succ fuel ih =>
    rw [walk] at h
    split at h
    · exact absurd h (by simp)
    · rcases List.mem_cons.mp h with rfl | h
      · exact .refl
      · cases hnext : next a with
        | none =>
          rw [hnext] at h
          exact absurd h (by simp)
        | some c =>
          rw [hnext] at h
          exact .head hnext (ih h)

/-! ## Finitely many points -/

section Finite

variable {points : List α}

/-- How many points have keys that were not met. -/
def unmet (key : α → κ) (points : List α) (visited : List κ) : ℕ :=
  (points.filter fun a ↦ key a ∉ visited).length

theorem unmet_nil : unmet key points [] = points.length := by simp [unmet]

theorem unmet_cons_lt (ha : a ∈ points) (h : key a ∉ visited) :
    unmet key points (key a :: visited) < unmet key points visited := by
  have hfilter : (points.filter fun b ↦ key b ∉ key a :: visited)
      = (points.filter fun b ↦ key b ∉ visited).filter fun b ↦ key b ≠ key a := by
    rw [List.filter_filter]
    refine List.filter_congr fun b _ ↦ ?_
    simp
  rw [unmet, unmet, hfilter, List.length_filter_lt_length_iff_exists]
  exact ⟨a, List.mem_filter.mpr ⟨ha, by simpa using h⟩, by simp⟩

/-- The points are closed under the function, and have distinct keys. -/
structure KeyedPoints (key : α → κ) (next : α → Option α) (points : List α) : Prop where
  closed : ∀ a ∈ points, ∀ b, next a = some b → b ∈ points
  injective : ∀ a ∈ points, ∀ b ∈ points, key a = key b → a = b

omit [DecidableEq κ] in
theorem KeyedPoints.mem_of_reaches (h : KeyedPoints key next points) (ha : a ∈ points)
    (hreach : Reaches next a b) : b ∈ points := by
  induction hreach with
  | refl => exact ha
  | tail _ hlast ih => exact h.closed _ ih _ hlast

/-- A walk with fuel for the points that were not met begins with its first point, unless that was
met. -/
theorem mem_walk_self (ha : a ∈ points) (hfuel : unmet key points visited ≤ fuel) :
    a ∈ walk key next fuel visited a ∨ key a ∈ visited := by
  by_cases h : key a ∈ visited
  · exact Or.inr h
  · cases fuel with
    | zero =>
      have hlt := unmet_cons_lt ha h
      omega
    | succ fuel =>
      rw [walk_of_not_mem h]
      exact Or.inl List.mem_cons_self

theorem mem_walk_next (hpoints : KeyedPoints key next points) (ha : a ∈ points)
    (hfuel : unmet key points visited ≤ fuel) {b' : α} (hb : b ∈ walk key next fuel visited a)
    (hnext : next b = some b') : b' ∈ walk key next fuel visited a ∨ key b' ∈ visited := by
  induction fuel generalizing visited a with
  | zero => exact nomatch hb
  | succ fuel ih =>
    by_cases h : key a ∈ visited
    · rw [walk_of_mem h] at hb
      exact absurd hb (by simp)
    rw [walk_of_not_mem h] at hb ⊢
    have hfuel' : unmet key points (key a :: visited) ≤ fuel := by
      have hlt := unmet_cons_lt ha h
      omega
    -- A key that was met is the key of the first point or was met before.
    have hmet : ∀ {c}, c ∈ points → key c ∈ key a :: visited →
        ∀ rest, c ∈ a :: rest ∨ key c ∈ visited := by
      intro c hc hkey rest
      rcases List.mem_cons.mp hkey with hkey | hkey
      · exact Or.inl (List.mem_cons.mpr (Or.inl (hpoints.injective c hc a ha hkey)))
      · exact Or.inr hkey
    cases hstep : next a with
    | none =>
      rw [hstep] at hb
      obtain rfl := List.mem_singleton.mp hb
      exact absurd (hstep.symm.trans hnext) (by simp)
    | some c =>
      rw [hstep] at hb
      have hc := hpoints.closed a ha c hstep
      rcases List.mem_cons.mp hb with rfl | hb
      · obtain rfl := Option.some.inj (hstep.symm.trans hnext)
        rcases mem_walk_self hc hfuel' with hmem | hmem
        · exact Or.inl (List.mem_cons_of_mem _ hmem)
        · exact hmet hc hmem _
      · rcases ih hc hfuel' hb with hmem | hmem
        · exact Or.inl (List.mem_cons_of_mem _ hmem)
        · have hb' := hpoints.mem_of_reaches hc ((reaches_of_mem_walk hb).tail hnext)
          exact hmet hb' hmem _

/-- **Walks are complete.** A walk with fuel for all points meets exactly the points that can be
reached. -/
theorem mem_walk_iff (hpoints : KeyedPoints key next points) (ha : a ∈ points)
    (hfuel : points.length ≤ fuel) : b ∈ walk key next fuel [] a ↔ Reaches next a b := by
  have hunmet : unmet key points [] ≤ fuel := Nat.le_trans (Nat.le_of_eq unmet_nil) hfuel
  refine ⟨reaches_of_mem_walk, fun hreach ↦ ?_⟩
  induction hreach with
  | refl => exact (mem_walk_self ha hunmet).resolve_right List.not_mem_nil
  | tail _ hlast ih =>
    exact (mem_walk_next hpoints ha hunmet ih hlast).resolve_right List.not_mem_nil

end Finite

/-- A point that was met can be taken away: a walk goes on as if the function ended where it leads
to that point. -/
theorem walk_of_visited {next' : α → Option α} {k : κ} (hk : ∀ a b, next a = some b → key b ≠ k)
    (hnext : ∀ a, next' a = next a ∨ (next a = none ∧ ∃ c, next' a = some c ∧ key c = k))
    (ha : key a ≠ k) {visited' : List κ} (hvisited : ∀ x, x ∈ visited' ↔ x ∈ visited ∨ x = k) :
    walk key next' fuel visited' a = walk key next fuel visited a := by
  induction fuel generalizing visited visited' a with
  | zero => rfl
  | succ fuel ih =>
    by_cases h : key a ∈ visited
    · rw [walk_of_mem h, walk_of_mem ((hvisited _).mpr (Or.inl h))]
    have h' : key a ∉ visited' := fun hmem ↦ ((hvisited _).mp hmem).elim h ha
    have hcons : ∀ x, x ∈ key a :: visited' ↔ x ∈ key a :: visited ∨ x = k := fun x ↦ by
      rw [List.mem_cons, List.mem_cons, hvisited, or_assoc]
    rw [walk_of_not_mem h, walk_of_not_mem h']
    -- where the walks part, the second runs into the added point
    rcases hnext a with heq | ⟨hnone, c, hsome, hc⟩
    · cases hstep : next a with
      | none => rw [heq, hstep]; rfl
      | some b =>
        rw [heq, hstep]
        exact congrArg (List.cons a) (ih (hk a b hstep) hcons)
    · rw [hnone, hsome]
      exact congrArg (List.cons a) (walk_of_mem ((hcons _).mpr (Or.inr hc)))

/-! ## Without a memory -/

/-- The points from a point on, if the function ends within as many points as there is fuel. -/
def follow (next : α → Option α) : ℕ → α → Option (List α)
  | 0, _ => none
  | fuel + 1, a =>
    match next a with
    | none => some [a]
    | some b => (follow next fuel b).map (a :: ·)

/-- The points that can be reached in at least one step. -/
abbrev ReachesNext (next : α → Option α) : α → α → Prop :=
  Relation.TransGen fun a b ↦ next a = some b

section Follow

variable {path : List α}

theorem follow_of_none (h : next a = none) : follow next (fuel + 1) a = some [a] := by
  rw [follow, h]

theorem follow_of_some (h : next a = some b) :
    follow next (fuel + 1) a = (follow next fuel b).map (a :: ·) := by
  rw [follow, h]

theorem follow_of_le {fuel' : ℕ} (hle : fuel ≤ fuel') (h : follow next fuel a = some path) :
    follow next fuel' a = some path := by
  induction fuel generalizing fuel' a path with
  | zero => exact absurd h (Option.some_ne_none _).symm
  | succ fuel ih =>
    obtain ⟨fuel', rfl⟩ := Nat.exists_eq_add_of_le' (Nat.le_of_add_left_le hle)
    cases hnext : next a with
    | none => rwa [follow_of_none hnext] at h ⊢
    | some b =>
      rw [follow_of_some hnext] at h ⊢
      obtain ⟨rest, hrest, rfl⟩ := Option.map_eq_some_iff.mp h
      rw [ih (Nat.le_of_add_le_add_right hle) hrest, Option.map_some]

theorem isChain_of_follow (h : follow next fuel a = some path) :
    path.head? = some a ∧ path.IsChain fun a b ↦ next a = some b := by
  induction fuel generalizing a path with
  | zero => exact absurd h (Option.some_ne_none _).symm
  | succ fuel ih =>
    cases hnext : next a with
    | none =>
      rw [follow_of_none hnext] at h
      exact Option.some.inj h ▸ ⟨rfl, .singleton a⟩
    | some b =>
      rw [follow_of_some hnext] at h
      obtain ⟨rest, hrest, rfl⟩ := Option.map_eq_some_iff.mp h
      obtain ⟨hhead, hchain⟩ := ih hrest
      obtain ⟨rest, rfl⟩ := List.head?_eq_some_iff.mp hhead
      exact ⟨rfl, List.isChain_cons_cons.mpr ⟨hnext, hchain⟩⟩

theorem mem_follow_iff (h : follow next fuel a = some path) : b ∈ path ↔ Reaches next a b := by
  induction fuel generalizing a path with
  | zero => exact absurd h (Option.some_ne_none _).symm
  | succ fuel ih =>
    have hsplit : Reaches next a b ↔ a = b ∨ ∃ c, next a = some c ∧ Reaches next c b :=
      Relation.ReflTransGen.cases_head_iff
    rw [hsplit]
    cases hnext : next a with
    | none =>
      rw [follow_of_none hnext] at h
      rw [← Option.some.inj h, List.mem_singleton, eq_comm]
      simp
    | some c =>
      rw [follow_of_some hnext] at h
      obtain ⟨rest, hrest, rfl⟩ := Option.map_eq_some_iff.mp h
      rw [List.mem_cons, ih hrest, eq_comm]
      simp

theorem follow_of_next (hnext : next a = some b) (h : follow next fuel a = some path) :
    ∃ rest, follow next fuel b = some rest ∧ path = a :: rest := by
  cases fuel with
  | zero => exact absurd h (Option.some_ne_none _).symm
  | succ fuel =>
    rw [follow_of_some hnext] at h
    obtain ⟨rest, hrest, rfl⟩ := Option.map_eq_some_iff.mp h
    exact ⟨rest, follow_of_le fuel.le_succ hrest, rfl⟩

theorem follow_of_reaches (hreach : Reaches next a b) (h : follow next fuel a = some path) :
    ∃ rest, follow next fuel b = some rest ∧ rest.length ≤ path.length := by
  induction hreach with
  | refl => exact ⟨path, h, Nat.le_refl _⟩
  | tail _ hlast ih =>
    obtain ⟨rest, hrest, hle⟩ := ih
    obtain ⟨rest', hrest', rfl⟩ := follow_of_next hlast hrest
    exact ⟨rest', hrest', Nat.le_trans (Nat.le_succ _) hle⟩

theorem not_reachesNext_of_follow (h : follow next fuel a = some path) (hreach : Reaches next a b) :
    ¬ ReachesNext next b b := by
  intro hcycle
  obtain ⟨rest, hrest, -⟩ := follow_of_reaches hreach h
  obtain ⟨c, hnext, hback⟩ := Relation.TransGen.head'_iff.mp hcycle
  obtain ⟨rest', hrest', rfl⟩ := follow_of_next hnext hrest
  obtain ⟨rest'', hrest'', hle⟩ := follow_of_reaches hback hrest'
  -- the rest from the point on would be a part of itself
  rw [hrest] at hrest''
  obtain rfl := Option.some.inj hrest''
  exact absurd hle (Nat.not_succ_le_self _)

theorem nodup_of_follow (h : follow next fuel a = some path) : path.Nodup := by
  induction fuel generalizing a path with
  | zero => exact absurd h (Option.some_ne_none _).symm
  | succ fuel ih =>
    cases hnext : next a with
    | none =>
      rw [follow_of_none hnext] at h
      exact Option.some.inj h ▸ List.pairwise_singleton _ a
    | some b =>
      have hcycle := not_reachesNext_of_follow h .refl
      rw [follow_of_some hnext] at h
      obtain ⟨rest, hrest, rfl⟩ := Option.map_eq_some_iff.mp h
      refine List.nodup_cons.mpr ⟨fun hmem ↦ hcycle ?_, ih hrest⟩
      exact .head' hnext ((mem_follow_iff hrest).mp hmem)

theorem exists_follow {points : List α} (hpoints : KeyedPoints key next points) (ha : a ∈ points)
    (hacyclic : ∀ b, Reaches next a b → ¬ ReachesNext next b b)
    (hvisited : ∀ k ∈ visited, ∃ b ∈ points, key b = k ∧ ReachesNext next b a) :
    ∃ path, follow next (unmet key points visited + 1) a = some path := by
  obtain ⟨n, hn⟩ : ∃ n, unmet key points visited = n := ⟨_, rfl⟩
  induction n using Nat.strongRecOn generalizing a visited with
  | ind n ih =>
    subst hn
    cases hnext : next a with
    | none => exact ⟨[a], follow_of_none hnext⟩
    | some b =>
      have hnew : key a ∉ visited := by
        intro hmem
        obtain ⟨c, hc, hkey, hback⟩ := hvisited _ hmem
        obtain rfl := hpoints.injective c hc a ha hkey
        exact hacyclic c .refl hback
      have hlt := unmet_cons_lt ha hnew
      have hmet : ∀ k ∈ key a :: visited, ∃ c ∈ points, key c = k ∧ ReachesNext next c b := by
        refine List.forall_mem_cons.mpr ⟨⟨a, ha, rfl, .single hnext⟩, fun k hk ↦ ?_⟩
        obtain ⟨c, hc, hkey, hback⟩ := hvisited k hk
        exact ⟨c, hc, hkey, hback.tail hnext⟩
      obtain ⟨rest, hrest⟩ := ih _ hlt (hpoints.closed a ha b hnext)
        (fun c hc ↦ hacyclic c (.head hnext hc)) hmet rfl
      exact ⟨a :: rest, by rw [follow_of_some hnext, follow_of_le hlt hrest, Option.map_some]⟩

/-- **A path ends exactly when** no cycle can be reached. -/
theorem exists_follow_iff {points : List α} (hpoints : KeyedPoints key next points)
    (ha : a ∈ points) : (∃ fuel path, follow next fuel a = some path) ↔
      ∀ b, Reaches next a b → ¬ ReachesNext next b b := by
  constructor
  · rintro ⟨fuel, path, h⟩ b hreach
    exact not_reachesNext_of_follow h hreach
  · intro hacyclic
    obtain ⟨path, hpath⟩ :=
      exists_follow hpoints ha hacyclic (fun k hk ↦ absurd hk List.not_mem_nil)
    exact ⟨_, path, hpath⟩

end Follow

end DriftGuardX.Walk
