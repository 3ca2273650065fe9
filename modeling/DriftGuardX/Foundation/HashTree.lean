import Mathlib.Data.List.GetD
import Mathlib.Data.Nat.Log
import Mathlib.Tactic.Ring

/-!
# Hash trees

A hash tree pairs the entries of a list, the last one with itself when it has no neighbour, hashes the
pairs, and goes on with the list of the hashes until one is left, the root.

The root is that of a perfect tree: at each level the last entry fills the places up to the next power of
two. So two lists of one depth have the same root when the same entries stand at all places, and lists
of different depths when the blocks of the deeper one hash to the entries of the other. When no two of
the pairs that are hashed collide, there is no other way to have the same root (`root?_eq_root?_iff`).
In particular lists of one length with the same root are the same.
-/

namespace DriftGuardX.HashTree

/-! ## The tree of a list -/

section Root

variable {α : Type*} (node : α → α → α)

/-- Each entry with its neighbour, and the last one with itself if it has none. -/
def pairs : List α → List (α × α)
  | [] => []
  | [x] => [(x, x)]
  | x :: y :: rest => (x, y) :: pairs rest

/-- The next level of the tree. -/
def level (xs : List α) : List α := (pairs xs).map fun p ↦ node p.1 p.2

@[simp] theorem length_pairs (xs : List α) : (pairs xs).length = (xs.length + 1) / 2 := by
  induction xs using pairs.induct with
  | case1 => simp [pairs]
  | case2 x => simp [pairs]
  | case3 x y rest ih =>
    rw [pairs, List.length_cons, ih, List.length_cons, List.length_cons]
    omega

@[simp] theorem length_level (xs : List α) : (level node xs).length = (xs.length + 1) / 2 := by
  rw [level, List.length_map, length_pairs]

/-- The root of a list that is not empty. -/
def root? : List α → Option α
  | [] => none
  | [x] => some x
  | x :: y :: rest => root? (level node (x :: y :: rest))
termination_by xs => xs.length
decreasing_by
  rw [length_level, List.length_cons, List.length_cons]
  omega

/-- All pairs that are hashed on the way to the root. -/
def hashed : List α → List (α × α)
  | [] => []
  | [_] => []
  | x :: y :: rest => pairs (x :: y :: rest) ++ hashed (level node (x :: y :: rest))
termination_by xs => xs.length
decreasing_by
  rw [length_level, List.length_cons, List.length_cons]
  omega

variable {node} {xs ys : List α}

theorem root?_singleton (x : α) : root? node [x] = some x := by rw [root?]

theorem root?_level (h : 2 ≤ xs.length) : root? node (level node xs) = root? node xs := by
  match xs, h with
  | x :: y :: rest, _ => rw [root?.eq_3]

theorem hashed_eq (h : 2 ≤ xs.length) : hashed node xs = pairs xs ++ hashed node (level node xs) := by
  match xs, h with
  | x :: y :: rest, _ => rw [hashed]

theorem mem_of_mem_pairs {p : α × α} (h : p ∈ pairs xs) : p.1 ∈ xs ∧ p.2 ∈ xs := by
  induction xs using pairs.induct with
  | case1 => exact absurd h List.not_mem_nil
  | case2 x =>
    obtain rfl := List.mem_singleton.mp h
    exact ⟨List.mem_singleton_self x, List.mem_singleton_self x⟩
  | case3 x y rest ih =>
    rcases List.mem_cons.mp h with rfl | h
    · exact ⟨List.mem_cons_self, List.mem_cons_of_mem _ List.mem_cons_self⟩
    · obtain ⟨hfirst, hsecond⟩ := ih h
      exact ⟨List.mem_cons_of_mem _ (List.mem_cons_of_mem _ hfirst),
        List.mem_cons_of_mem _ (List.mem_cons_of_mem _ hsecond)⟩

/-- What holds of the entries and of every hash holds of all that is hashed, and of the root. -/
theorem forall_hashed {P : α → Prop} (hnode : ∀ a b, P (node a b)) (hxs : ∀ x ∈ xs, P x) :
    (∀ p ∈ hashed node xs, P p.1 ∧ P p.2) ∧ ∀ root ∈ root? node xs, P root := by
  induction xs using root?.induct node with
  | case1 => exact ⟨by simp [hashed], by simp [root?]⟩
  | case2 x => exact ⟨by simp [hashed], by simpa [root?] using hxs x List.mem_cons_self⟩
  | case3 x y rest ih =>
    obtain ⟨hpairs, hroot⟩ := ih fun z hz ↦ by
      obtain ⟨p, -, rfl⟩ := List.mem_map.mp hz
      exact hnode p.1 p.2
    rw [hashed, root?]
    refine ⟨fun p hp ↦ ?_, hroot⟩
    rcases List.mem_append.mp hp with hp | hp
    · obtain ⟨hfirst, hsecond⟩ := mem_of_mem_pairs hp
      exact ⟨hxs _ hfirst, hxs _ hsecond⟩
    · exact hpairs p hp

end Root

/-! ## Perfect trees -/

section Perfect

variable {α : Type*} (node : α → α → α)

/-- The root of the perfect tree over the first `2 ^ k` entries of a sequence. -/
def perfect : ℕ → (ℕ → α) → α
  | 0, f => f 0
  | k + 1, f => perfect k fun i ↦ node (f (2 * i)) (f (2 * i + 1))

variable {node} {f g : ℕ → α}

theorem perfect_congr {k : ℕ} (h : ∀ i < 2 ^ k, f i = g i) : perfect node k f = perfect node k g := by
  induction k generalizing f g with
  | zero => exact h 0 Nat.one_pos
  | succ k ih =>
    refine ih fun i hi ↦ ?_
    rw [pow_succ] at h
    rw [h (2 * i) (by omega), h (2 * i + 1) (by omega)]

theorem perfect_add (n k : ℕ) (f : ℕ → α) :
    perfect node (n + k) f = perfect node n fun i ↦ perfect node k fun j ↦ f (2 ^ k * i + j) := by
  induction k generalizing f with
  | zero => simp [perfect]
  | succ k ih =>
    rw [← Nat.add_assoc, perfect, ih]
    refine perfect_congr fun i _ ↦ ?_
    rw [perfect]
    refine perfect_congr fun j _ ↦ ?_
    rw [show 2 * (2 ^ k * i + j) = 2 ^ (k + 1) * i + 2 * j from by ring, Nat.add_assoc]

theorem perfect_succ (k : ℕ) (f : ℕ → α) :
    perfect node (k + 1) f = node (perfect node k f) (perfect node k fun j ↦ f (2 ^ k + j)) := by
  rw [Nat.add_comm, perfect_add]
  simp [perfect]

end Perfect

/-! ## Filling up -/

/-- The position in a list of some length of the entry that stands at a place of its perfect tree: at
each level the last entry stands at all places that are left. -/
def position : ℕ → ℕ → ℕ → ℕ
  | 0, _, _ => 0
  | d + 1, m, i => min (2 * position d ((m + 1) / 2) (i / 2) + i % 2) (m - 1)

theorem position_lt {d m i : ℕ} (h : 0 < m) : position d m i < m := by
  cases d with
  | zero => exact h
  | succ d =>
    rw [position]
    omega

section Fill

variable {α : Type*} [Inhabited α]

/-- The depth of the tree of a list. -/
def depth (xs : List α) : ℕ := Nat.clog 2 xs.length

/-- The entry at a place of the perfect tree. -/
def fill (xs : List α) (i : ℕ) : α := xs.getD (position (depth xs) xs.length i) default

variable (node : α → α → α) {xs ys : List α}

omit [Inhabited α] in
theorem depth_eq_zero (h : depth xs = 0) (hne : xs ≠ []) : ∃ x, xs = [x] := by
  have hle : xs.length ≤ 1 := by
    by_contra hlong
    have hpos : 0 < Nat.clog 2 xs.length := Nat.clog_pos (by omega) (by omega)
    rw [depth] at h
    omega
  have hpos : 0 < xs.length := List.length_pos_iff.mpr hne
  exact List.length_eq_one_iff.mp (by omega)

omit [Inhabited α] in
theorem two_le_length {d : ℕ} (h : depth xs = d + 1) : 2 ≤ xs.length := by
  by_contra hshort
  rw [depth, Nat.clog_of_right_le_one (by omega)] at h
  omega

omit [Inhabited α] in
theorem depth_level {d : ℕ} (h : depth xs = d + 1) : depth (level node xs) = d := by
  have hlength := two_le_length h
  have hclog : Nat.clog 2 xs.length = Nat.clog 2 ((xs.length + 1) / 2) + 1 :=
    Nat.clog_of_two_le (by omega) hlength
  rw [depth, hclog] at h
  rw [depth, length_level]
  omega

theorem getD_pairs {q : ℕ} (hq : 2 * q < xs.length) :
    (pairs xs)[q]? = some (xs.getD (2 * q) default,
      xs.getD (min (2 * q + 1) (xs.length - 1)) default) := by
  induction xs using pairs.induct generalizing q with
  | case1 => exact absurd hq (by simp)
  | case2 x =>
    obtain rfl : q = 0 := by
      rw [List.length_singleton] at hq
      omega
    rfl
  | case3 x y rest ih =>
    rw [List.length_cons, List.length_cons] at hq
    cases q with
    | zero => simp [pairs]
    | succ q =>
      rw [pairs, List.getElem?_cons_succ, ih (by omega), List.length_cons, List.length_cons]
      have hmin : min (2 * (q + 1) + 1) (rest.length + 1 + 1 - 1)
          = min (2 * q + 1) (rest.length - 1) + 2 := by omega
      rw [hmin, show 2 * (q + 1) = 2 * q + 2 from by ring]
      simp

theorem fill_level {d : ℕ} (h : depth xs = d + 1) (i : ℕ) :
    (fill xs (2 * i), fill xs (2 * i + 1)) ∈ pairs xs ∧
      fill (level node xs) i = node (fill xs (2 * i)) (fill xs (2 * i + 1)) := by
  have hlength := two_le_length h
  have hlt : position d ((xs.length + 1) / 2) i < (xs.length + 1) / 2 := position_lt (by omega)
  have hq : 2 * position d ((xs.length + 1) / 2) i < xs.length := by omega
  have hpair := getD_pairs hq
  have heven : fill xs (2 * i) = xs.getD (2 * position d ((xs.length + 1) / 2) i) default := by
    rw [fill, h, position, show 2 * i / 2 = i from by omega]
    congr 1
    omega
  have hodd : fill xs (2 * i + 1)
      = xs.getD (min (2 * position d ((xs.length + 1) / 2) i + 1) (xs.length - 1)) default := by
    rw [fill, h, position, show (2 * i + 1) / 2 = i from by omega, show (2 * i + 1) % 2 = 1 from by omega]
  rw [heven, hodd]
  refine ⟨List.mem_of_getElem? hpair, ?_⟩
  rw [fill, depth_level node h, length_level, List.getD_eq_getElem?_getD, level, List.getElem?_map, hpair]
  rfl

theorem root?_eq_perfect (hne : xs ≠ []) : root? node xs = some (perfect node (depth xs) (fill xs)) := by
  generalize hd : depth xs = d
  induction d generalizing xs with
  | zero =>
    obtain ⟨x, rfl⟩ := depth_eq_zero hd hne
    rw [root?_singleton]
    rfl
  | succ d ih =>
    have hlevel : level node xs ≠ [] := by
      refine List.length_pos_iff.mp ?_
      have hlength := two_le_length hd
      rw [length_level]
      omega
    rw [← root?_level (two_le_length hd), ih hlevel (depth_level node hd), perfect]
    exact congrArg some (perfect_congr fun i _ ↦ (fill_level node hd i).2)

/-- The root of a block of entries of the perfect tree. -/
def block (k : ℕ) (xs : List α) (i : ℕ) : α := perfect node k fun j ↦ fill xs (2 ^ k * i + j)

theorem block_zero (i : ℕ) : block node 0 xs i = fill xs i := by
  simp [block, perfect]

theorem block_succ (k i : ℕ) :
    block node (k + 1) xs i = node (block node k xs (2 * i)) (block node k xs (2 * i + 1)) := by
  rw [block, perfect_succ, block, block]
  congr 1
  · refine perfect_congr fun j _ ↦ ?_
    rw [show 2 ^ (k + 1) * i = 2 ^ k * (2 * i) from by ring]
  · refine perfect_congr fun j _ ↦ ?_
    rw [show 2 ^ (k + 1) * i + (2 ^ k + j) = 2 ^ k * (2 * i + 1) + j from by ring]

theorem block_level {d : ℕ} (h : depth xs = d + 1) (k i : ℕ) :
    block node k (level node xs) i = block node (k + 1) xs i := by
  rw [block, block, perfect]
  refine perfect_congr fun j _ ↦ ?_
  rw [(fill_level node h _).2, show 2 * (2 ^ k * i + j) = 2 ^ (k + 1) * i + 2 * j from by ring,
    Nat.add_assoc]

theorem blocks_mem_hashed {k n : ℕ} (h : depth xs = n + 1 + k) (i : ℕ) :
    (block node k xs (2 * i), block node k xs (2 * i + 1)) ∈ hashed node xs := by
  induction k generalizing xs with
  | zero =>
    rw [block_zero, block_zero, hashed_eq (two_le_length h)]
    exact List.mem_append_left _ (fill_level node h i).1
  | succ k ih =>
    have hd : depth xs = (n + 1 + k) + 1 := h
    rw [← block_level node hd, ← block_level node hd, hashed_eq (two_le_length hd)]
    exact List.mem_append_right _ (ih (depth_level node hd))

end Fill

/-! ## Equal roots -/

section Alike

variable {α : Type*} [Inhabited α] (node : α → α → α)

/-- At each place of the shallower of two trees there is what the block of the other one at this place
hashes to. -/
def Alike (xs ys : List α) : Prop :=
  xs ≠ [] ∧ ys ≠ [] ∧ ∀ i < 2 ^ min (depth xs) (depth ys),
    block node (depth xs - depth ys) xs i = block node (depth ys - depth xs) ys i

/-- The pairs that are hashed for two lists do not collide. -/
def NoCollision (xs ys : List α) : Prop :=
  Set.InjOn (fun p : α × α ↦ node p.1 p.2) {p | p ∈ hashed node xs ∨ p ∈ hashed node ys}

variable {node} {xs ys : List α}

omit [Inhabited α] in
theorem NoCollision.symm (h : NoCollision node xs ys) : NoCollision node ys xs := by
  intro p hp q hq heq
  exact h hp.symm hq.symm heq

theorem Alike.symm (h : Alike node xs ys) : Alike node ys xs := by
  refine ⟨h.2.1, h.1, fun i hi ↦ (h.2.2 i ?_).symm⟩
  rwa [min_comm]

omit [Inhabited α] in
theorem NoCollision.level {m n : ℕ} (h : NoCollision node xs ys) (hxs : depth xs = m + 1)
    (hys : depth ys = n + 1) :
    NoCollision node (HashTree.level node xs) (HashTree.level node ys) := by
  rw [NoCollision, hashed_eq (two_le_length hxs), hashed_eq (two_le_length hys)] at h
  refine h.mono ?_
  rintro p (hp | hp)
  · exact Or.inl (List.mem_append_right _ hp)
  · exact Or.inr (List.mem_append_right _ hp)

/-- Without collisions, equal roots come from equal entries, from the root down to the level of the
shallower list. -/
theorem block_eq_fill {k n : ℕ} (hxs : depth xs = n + k) (hys : depth ys = n) (hxne : xs ≠ [])
    (hyne : ys ≠ []) (hno : NoCollision node xs ys) (h : root? node xs = root? node ys) :
    ∀ i < 2 ^ n, block node k xs i = fill ys i := by
  induction n generalizing xs ys with
  | zero =>
    intro i hi
    obtain rfl : i = 0 := Nat.lt_one_iff.mp hi
    rw [root?_eq_perfect node hxne, root?_eq_perfect node hyne, hxs, hys, Nat.zero_add] at h
    have hroot := Option.some.inj h
    rw [block]
    simpa [perfect] using hroot
  | succ n ih =>
    have hxs' : depth xs = (n + k) + 1 := by omega
    have hne : ∀ {zs : List α} {d}, depth zs = d + 1 → level node zs ≠ [] := by
      intro zs d hd
      have hlength := two_le_length hd
      refine List.length_pos_iff.mp ?_
      rw [length_level]
      omega
    rw [← root?_level (two_le_length hxs'), ← root?_level (two_le_length hys)] at h
    have hlevels := ih (depth_level node hxs') (depth_level node hys) (hne hxs') (hne hys)
      (hno.level hxs' hys) h
    -- a place of the next level holds the hash of two places
    have htwo : ∀ i < 2 ^ n, block node k xs (2 * i) = fill ys (2 * i) ∧
        block node k xs (2 * i + 1) = fill ys (2 * i + 1) := by
      intro i hi
      have heq := hlevels i hi
      rw [block_level node hxs', block_succ, (fill_level node hys i).2] at heq
      have hx := blocks_mem_hashed node (k := k) (n := n) (by omega : depth xs = n + 1 + k) i
      have hy := (fill_level node hys i).1
      have hpair := hno (Or.inl hx)
        (Or.inr (hashed_eq (two_le_length hys) ▸ List.mem_append_left _ hy)) heq
      exact Prod.mk.inj hpair
    intro i hi
    rw [pow_succ] at hi
    rcases Nat.even_or_odd' i with ⟨j, rfl | rfl⟩
    · exact (htwo j (by omega)).1
    · exact (htwo j (by omega)).2

theorem alike_of_root?_eq (hle : depth ys ≤ depth xs) (hxne : xs ≠ []) (hyne : ys ≠ [])
    (hno : NoCollision node xs ys) (h : root? node xs = root? node ys) : Alike node xs ys := by
  refine ⟨hxne, hyne, fun i hi ↦ ?_⟩
  rw [min_eq_right hle] at hi
  rw [Nat.sub_eq_zero_of_le hle, block_zero]
  exact block_eq_fill (by omega) rfl hxne hyne hno h i hi

theorem root?_eq_of_alike (hle : depth ys ≤ depth xs) (h : Alike node xs ys) :
    root? node xs = root? node ys := by
  obtain ⟨hxne, hyne, hblocks⟩ := h
  rw [min_eq_right hle, Nat.sub_eq_zero_of_le hle] at hblocks
  rw [root?_eq_perfect node hxne, root?_eq_perfect node hyne]
  congr 1
  calc perfect node (depth xs) (fill xs)
      = perfect node (depth ys + (depth xs - depth ys)) (fill xs) := by rw [Nat.add_sub_cancel' hle]
    _ = perfect node (depth ys) (block node (depth xs - depth ys) xs) := perfect_add _ _ _
    _ = perfect node (depth ys) (fill ys) :=
        perfect_congr fun i hi ↦ (hblocks i hi).trans (block_zero node i)

/-- **Equal roots.** Without collisions, two lists have the same root exactly when they are alike. -/
theorem root?_eq_root?_iff (hxne : xs ≠ []) (hyne : ys ≠ []) (hno : NoCollision node xs ys) :
    root? node xs = root? node ys ↔ Alike node xs ys := by
  rcases le_total (depth ys) (depth xs) with hle | hle
  · exact ⟨alike_of_root?_eq hle hxne hyne hno, root?_eq_of_alike hle⟩
  · exact ⟨fun h ↦ (alike_of_root?_eq hle hyne hxne hno.symm h.symm).symm,
      fun h ↦ (root?_eq_of_alike hle h.symm).symm⟩

end Alike

end DriftGuardX.HashTree
