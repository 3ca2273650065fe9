import Mathlib.Data.List.Forall2
import Mathlib.Data.List.Induction

/-!
# Hash chains

A list of rows in which every row is checked against its position and the hash of the row before it.
The check is a parameter, so one development serves every chain: what a verifier walks over, what an
honest writer builds, and what two accepted chains have in common.

The last part is about digests. When equal hashes of checked rows force equal positions, equal
predecessors and related contents, the hash of the last row commits to the whole chain
(`forall₂_of_headHash_eq`), and a chain all of whose hashes occur in another chain is an initial
segment of it (`exists_forall₂_take`).
-/

namespace DriftGuardX.HashChain

variable {R H ε : Type*}

/-! ## Chains -/

/-- Every row passes its check at its position, against the hash of the row before it. -/
def Chained (ok : ℕ → H → R → Prop) (hash : R → H) : ℕ → H → List R → Prop
  | _, _, [] => True
  | n, g, r :: rs => ok n g r ∧ Chained ok hash (n + 1) (hash r) rs

/-- The hash the next row has to name: that of the last row, or the genesis value. -/
def headHash (hash : R → H) (g : H) (rs : List R) : H := rs.foldl (fun _ r ↦ hash r) g

/-- The verifier's loop, with the position and the expected hash as its accumulators. -/
def walk (check : ℕ → H → R → Except ε Unit) (hash : R → H) : ℕ → H → List R → Except ε Unit
  | _, _, [] => .ok ()
  | n, g, r :: rs => do
    check n g r
    walk check hash (n + 1) (hash r) rs

variable {ok : ℕ → H → R → Prop} {hash : R → H} {n : ℕ} {g : H} {r : R} {rs ss : List R}

@[simp] theorem headHash_nil : headHash hash g [] = g := rfl

@[simp] theorem headHash_cons : headHash hash g (r :: rs) = headHash hash (hash r) rs := rfl

@[simp] theorem headHash_append_singleton : headHash hash g (rs ++ [r]) = hash r := by
  rw [headHash, List.foldl_append, List.foldl_cons, List.foldl_nil]

theorem walk_eq_ok_iff {check : ℕ → H → R → Except ε Unit} :
    walk check hash n g rs = .ok () ↔ Chained (fun n g r ↦ check n g r = .ok ()) hash n g rs := by
  induction rs generalizing n g with
  | nil => exact ⟨fun _ ↦ trivial, fun _ ↦ rfl⟩
  | cons r rs ih =>
    rw [walk, Chained, ← ih]
    cases h : check n g r with
    | error e => simp [bind, Except.bind]
    | ok u => simp [bind, Except.bind]

theorem chained_append :
    Chained ok hash n g (rs ++ ss) ↔
      Chained ok hash n g rs ∧ Chained ok hash (n + rs.length) (headHash hash g rs) ss := by
  induction rs generalizing n g with
  | nil => simp [Chained]
  | cons r rs ih =>
    rw [List.cons_append, Chained, Chained, ih, headHash_cons, List.length_cons, and_assoc,
      Nat.add_right_comm, Nat.add_assoc]

/-- **The writer's step.** A row may be added exactly when it passes its check at the end. -/
theorem chained_append_singleton :
    Chained ok hash n g (rs ++ [r]) ↔
      Chained ok hash n g rs ∧ ok (n + rs.length) (headHash hash g rs) r := by
  rw [chained_append, Chained, Chained, and_true]

theorem Chained.take (h : Chained ok hash n g rs) (k : ℕ) : Chained ok hash n g (rs.take k) := by
  rw [← List.take_append_drop k rs, chained_append] at h
  exact h.1

theorem Chained.forall₂ {S : Type*} {okS : ℕ → H → S → Prop} {hashS : S → H} {ts : List S}
    (hrel : List.Forall₂ (fun r t ↦ hashS t = hash r ∧ ∀ n g, ok n g r → okS n g t) rs ts)
    (h : Chained ok hash n g rs) : Chained okS hashS n g ts := by
  induction hrel generalizing n g with
  | nil => trivial
  | cons hrt _ ih =>
    refine ⟨hrt.2 _ _ h.1, ?_⟩
    rw [hrt.1]
    exact ih h.2

theorem Chained.forall_mem {p : R → Prop} (hp : ∀ n g r, ok n g r → p r)
    (h : Chained ok hash n g rs) : ∀ r ∈ rs, p r := by
  induction rs generalizing n g with
  | nil => simp
  | cons r rs ih => exact List.forall_mem_cons.mpr ⟨hp _ _ _ h.1, ih h.2⟩

theorem chained_and_iff {p : R → Prop} :
    Chained (fun n g r ↦ ok n g r ∧ p r) hash n g rs ↔
      Chained ok hash n g rs ∧ ∀ r ∈ rs, p r := by
  induction rs generalizing n g with
  | nil => simp [Chained]
  | cons r rs ih =>
    rw [Chained, Chained, ih, List.forall_mem_cons]
    tauto

/-- What the genesis value and every hash satisfy, the predecessor of every row satisfies. -/
theorem Chained.and_previous {p : H → Prop} (hg : p g) (hp : ∀ n g r, ok n g r → p (hash r))
    (h : Chained ok hash n g rs) : Chained (fun n g r ↦ p g ∧ ok n g r) hash n g rs := by
  induction rs generalizing n g with
  | nil => trivial
  | cons r rs ih => exact ⟨⟨hg, h.1⟩, ih (hp n g r h.1) h.2⟩

/-- What the rows name as their predecessors: the genesis value and all hashes but the last. -/
theorem Chained.map_previous {previous : R → H} (hprev : ∀ n g r, ok n g r → previous r = g)
    (h : Chained ok hash n g rs) :
    rs.map previous = (g :: rs.map hash).take rs.length := by
  induction rs generalizing n g with
  | nil => rfl
  | cons r rs ih => rw [List.map_cons, hprev _ _ _ h.1, ih h.2, List.length_cons, List.take_succ_cons,
      List.map_cons]

/-- **No fork.** When the hashes are distinct, no two rows of a chain have the same predecessor. -/
theorem Chained.nodup_previous {previous : R → H} (hprev : ∀ n g r, ok n g r → previous r = g)
    (hnd : (g :: rs.map hash).Nodup) (h : Chained ok hash n g rs) : (rs.map previous).Nodup := by
  rw [h.map_previous hprev]
  exact hnd.sublist (List.take_sublist _ _)

/-! ## Commitment -/

/-- Equal hashes of checked rows force equal positions, equal predecessors and related rows. -/
def Commits (ok : ℕ → H → R → Prop) (hash : R → H) (same : R → R → Prop) : Prop :=
  ∀ ⦃n m : ℕ⦄ ⦃g k : H⦄ ⦃r s : R⦄, ok n g r → ok m k s → hash r = hash s →
    n = m ∧ g = k ∧ same r s

variable {same : R → R → Prop}

/-- Two chains of one length with the same last hash have related rows, also when the position is not
part of what is hashed. -/
theorem forall₂_of_length_eq
    (hc : ∀ ⦃n : ℕ⦄ ⦃g k : H⦄ ⦃r s : R⦄, ok n g r → ok n k s → hash r = hash s → g = k ∧ same r s)
    (n : ℕ) (g : H) : ∀ rs ss : List R, rs.length = ss.length → Chained ok hash n g rs →
      Chained ok hash n g ss → headHash hash g rs = headHash hash g ss → List.Forall₂ same rs ss := by
  intro rs
  induction rs using List.reverseRecOn with
  | nil =>
    intro ss hlen _ _ _
    rw [List.length_nil, eq_comm, List.length_eq_zero_iff] at hlen
    subst hlen
    exact .nil
  | append_singleton rs r ih =>
    intro ss hlen hrs hss hhead
    rcases List.eq_nil_or_concat ss with rfl | ⟨ss, s, rfl⟩
    · simp at hlen
    · rw [List.concat_eq_append] at hlen hss hhead ⊢
      rw [chained_append_singleton] at hrs hss
      rw [headHash_append_singleton, headHash_append_singleton] at hhead
      have hlen' : rs.length = ss.length := by simpa using hlen
      obtain ⟨hprev, hrow⟩ := hc hrs.2 (hlen' ▸ hss.2) hhead
      exact List.rel_append (ih ss hlen' hrs.1 hss.1 hprev) (.cons hrow .nil)

/-- **The last hash commits to the chain.** The position is part of what is hashed, so the two
chains have the same length, and the predecessor is, so the argument repeats one row earlier. -/
theorem forall₂_of_headHash_eq (hc : Commits ok hash same) (hrs : rs ≠ []) (hss : ss ≠ [])
    (hr : Chained ok hash n g rs) (hs : Chained ok hash n g ss)
    (hhead : headHash hash g rs = headHash hash g ss) : List.Forall₂ same rs ss := by
  obtain ⟨rs, r, rfl⟩ := (List.eq_nil_or_concat rs).resolve_left hrs
  obtain ⟨ss, s, rfl⟩ := (List.eq_nil_or_concat ss).resolve_left hss
  rw [List.concat_eq_append, List.concat_eq_append] at *
  have hrows : ∀ ⦃m : ℕ⦄ ⦃j k : H⦄ ⦃r s : R⦄, ok m j r → ok m k s → hash r = hash s →
      j = k ∧ same r s := fun _ _ _ _ _ h h' heq ↦ (hc h h' heq).2
  refine forall₂_of_length_eq hrows n g _ _ ?_ hr hs hhead
  rw [headHash_append_singleton, headHash_append_singleton] at hhead
  have hpos := (hc (chained_append_singleton.mp hr).2 (chained_append_singleton.mp hs).2 hhead).1
  rw [List.length_append, List.length_append]
  exact congrArg (· + [r].length) (Nat.add_left_cancel hpos)

/-- The same for chains of any length, when no row hashes to the genesis value: the chain that is used
up first would end in one. -/
theorem forall₂_of_genesis
    (hc : ∀ ⦃n m : ℕ⦄ ⦃g k : H⦄ ⦃r s : R⦄, ok n g r → ok m k s → hash r = hash s → g = k ∧ same r s)
    {g : H} (hg : ∀ ⦃n : ℕ⦄ ⦃k : H⦄ ⦃r : R⦄, ok n k r → hash r ≠ g) (n m : ℕ) :
    ∀ rs ss : List R, Chained ok hash n g rs → Chained ok hash m g ss →
      headHash hash g rs = headHash hash g ss → List.Forall₂ same rs ss := by
  intro rs
  induction rs using List.reverseRecOn with
  | nil =>
    intro ss _ hss hhead
    rcases List.eq_nil_or_concat ss with rfl | ⟨ss, s, rfl⟩
    · exact .nil
    · rw [List.concat_eq_append] at hss hhead
      rw [headHash_append_singleton] at hhead
      exact absurd hhead.symm (hg (chained_append_singleton.mp hss).2)
  | append_singleton rs r ih =>
    intro ss hrs hss hhead
    rw [headHash_append_singleton] at hhead
    rw [chained_append_singleton] at hrs
    rcases List.eq_nil_or_concat ss with rfl | ⟨ss, s, rfl⟩
    · exact absurd hhead (hg hrs.2)
    · rw [List.concat_eq_append] at hss hhead ⊢
      rw [chained_append_singleton] at hss
      rw [headHash_append_singleton] at hhead
      obtain ⟨hprev, hrow⟩ := hc hrs.2 hss.2 hhead
      exact List.rel_append (ih ss hrs.1 hss.1 hprev) (.cons hrow .nil)

theorem exists_forall₂_take (hc : Commits ok hash same) (hr : Chained ok hash n g rs)
    (hs : Chained ok hash n g ss) (hmem : ∀ s ∈ ss, ∃ r ∈ rs, hash r = hash s) :
    ∃ k ≤ rs.length, List.Forall₂ same ss (rs.take k) := by
  rcases List.eq_nil_or_concat ss with rfl | ⟨ss, s, rfl⟩
  · exact ⟨0, Nat.zero_le _, by rw [List.take_zero]; exact .nil⟩
  · rw [List.concat_eq_append] at hs hmem ⊢
    obtain ⟨r, hrmem, hhash⟩ := hmem s (by simp)
    obtain ⟨pre, post, rfl⟩ := List.append_of_mem hrmem
    have htake : (pre ++ r :: post).take (pre.length + 1) = pre ++ [r] := by
      rw [List.take_append, List.take_of_length_le (by omega), Nat.add_sub_cancel_left,
        List.take_succ_cons, List.take_zero]
    refine ⟨pre.length + 1, by simp, ?_⟩
    rw [htake]
    refine forall₂_of_headHash_eq hc (by simp) (by simp) hs ?_ ?_
    · rw [← htake]
      exact hr.take _
    · rw [headHash_append_singleton, headHash_append_singleton, hhash]

end DriftGuardX.HashChain
