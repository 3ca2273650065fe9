import Mathlib.Data.List.Nodup
import Mathlib.Data.List.Sort
import Mathlib.Algebra.BigOperators.Group.List.Basic
import Mathlib.Tactic.Abel

/-!
# Tables with a primary key

A list of rows no two of which have the same key. A row is read by its key, a new one is added at
the end, and an update changes one row without changing its key, so the constraint is carried by the
structure and never checked again.

For accounting, `sum_map_modify` says what an update does to a sum over all rows: it exchanges the
contribution of the row it changes.
-/

namespace DriftGuardX

variable {R K : Type*} [DecidableEq K]

theorem find?_key_eq_some_iff {key : R → K} {rows : List R} (hnd : (rows.map key).Nodup)
    {k : K} {r : R} : rows.find? (fun s ↦ key s = k) = some r ↔ r ∈ rows ∧ key r = k := by
  constructor
  · intro h
    exact ⟨List.mem_of_find?_eq_some h, by simpa using List.find?_some h⟩
  · rintro ⟨hmem, rfl⟩
    induction rows with
    | nil => simp at hmem
    | cons s rows ih =>
      rw [List.map_cons, List.nodup_cons] at hnd
      rcases List.mem_cons.mp hmem with rfl | hmem'
      · simp
      · have hne : key s ≠ key r := fun hc ↦ hnd.1 (hc ▸ List.mem_map_of_mem hmem')
        rw [List.find?_cons_of_neg (by simpa using hne), ih hnd.2 hmem']

/-! ## Reading in order -/

/-- `ORDER BY`: the rows by increasing position. -/
def orderBy (pos : R → ℕ) (rows : List R) : List R := rows.insertionSort fun a b ↦ pos a ≤ pos b

omit [DecidableEq K] in
theorem mem_orderBy {pos : R → ℕ} {rows : List R} {r : R} : r ∈ orderBy pos rows ↔ r ∈ rows :=
  (List.perm_insertionSort _ rows).mem_iff

theorem le_of_getLast?_orderBy {pos : R → ℕ} {rows : List R} {last : R}
    (hlast : (orderBy pos rows).getLast? = some last) {r : R} (hr : r ∈ rows) :
    pos r ≤ pos last := by
  have hsorted : (orderBy pos rows).Pairwise fun a b ↦ pos a ≤ pos b :=
    List.pairwise_insertionSort (fun a b : R ↦ pos a ≤ pos b) rows
  obtain ⟨init, hinit⟩ := List.getLast?_eq_some_iff.mp hlast
  rw [hinit, List.pairwise_append] at hsorted
  have hmem : r ∈ init ++ [last] := hinit ▸ mem_orderBy.mpr hr
  rcases List.mem_append.mp hmem with h | h
  · exact hsorted.2.2 r h last (List.mem_singleton_self last)
  · exact (List.mem_singleton.mp h ▸ le_rfl)

theorem orderBy_append_singleton {pos : R → ℕ} {rows : List R} {r : R}
    (hnd : (rows.map pos).Nodup) (h : ∀ s ∈ rows, pos s < pos r) :
    orderBy pos (rows ++ [r]) = orderBy pos rows ++ [r] := by
  have hperm : (orderBy pos (rows ++ [r])).Perm (orderBy pos rows ++ [r]) :=
    (List.perm_insertionSort _ _).trans ((List.perm_insertionSort _ rows).symm.append_right [r])
  have hall : ((rows ++ [r]).map pos).Nodup := by
    rw [List.map_append, List.nodup_append]
    refine ⟨hnd, by simp, ?_⟩
    rintro a ha b hb rfl
    obtain ⟨s, hs, rfl⟩ := List.mem_map.mp ha
    rw [List.map_singleton, List.mem_singleton] at hb
    exact absurd hb (h s hs).ne
  have hanti : ∀ a b, a ∈ orderBy pos (rows ++ [r]) → b ∈ orderBy pos rows ++ [r] →
      pos a ≤ pos b → pos b ≤ pos a → a = b := by
    intro a b ha hb hab hba
    have ha' : a ∈ rows ++ [r] := mem_orderBy.mp ha
    have hb' : b ∈ rows ++ [r] := mem_orderBy.mp (hperm.mem_iff.mpr hb)
    exact List.inj_on_of_nodup_map hall ha' hb' (le_antisymm hab hba)
  have hsorted : (orderBy pos rows ++ [r]).Pairwise fun a b ↦ pos a ≤ pos b := by
    rw [List.pairwise_append]
    refine ⟨List.pairwise_insertionSort (fun a b : R ↦ pos a ≤ pos b) rows, by simp, ?_⟩
    intro a ha b hb
    rw [List.mem_singleton.mp hb]
    exact (h a (mem_orderBy.mp ha)).le
  -- two sorted lists of the same rows are equal
  exact List.Perm.eq_of_pairwise hanti
    (List.pairwise_insertionSort (fun a b : R ↦ pos a ≤ pos b) _) hsorted hperm

/-! ## Tables -/

/-- Rows with pairwise distinct keys. -/
@[ext] structure KeyTable (key : R → K) where
  rows : List R
  nodup : (rows.map key).Nodup

namespace KeyTable

variable {key : R → K} {t : KeyTable key} {k k' : K} {r : R} {f : R → R}

def empty : KeyTable key := ⟨[], .nil⟩

/-- Reading by key. -/
def get? (t : KeyTable key) (k : K) : Option R := t.rows.find? fun r ↦ key r = k

/-- Adding a row whose key is new. -/
def insert (t : KeyTable key) (r : R) (h : t.get? (key r) = none) : KeyTable key where
  rows := t.rows ++ [r]
  nodup := by
    rw [List.map_append, List.nodup_append]
    refine ⟨t.nodup, by simp, ?_⟩
    rintro a ha b hb rfl
    obtain ⟨s, hs, hkey⟩ := List.mem_map.mp ha
    rw [List.map_singleton, List.mem_singleton] at hb
    rw [get?, List.find?_eq_none] at h
    exact h s hs (by simp [hkey, hb])

/-- Changing the row of a key, without changing the key. -/
def modify (t : KeyTable key) (k : K) (f : R → R) (hf : ∀ r, key (f r) = key r) : KeyTable key where
  rows := t.rows.map fun r ↦ if key r = k then f r else r
  nodup := by
    have hkeys : (t.rows.map fun r ↦ if key r = k then f r else r).map key = t.rows.map key := by
      rw [List.map_map]
      refine List.map_congr_left fun r _ ↦ ?_
      by_cases h : key r = k
      · rw [Function.comp_apply, if_pos h, hf]
      · rw [Function.comp_apply, if_neg h]
    rw [hkeys]
    exact t.nodup

/-- Adding a row unless its key is taken. -/
def insertIfAbsent (t : KeyTable key) (r : R) : KeyTable key :=
  if h : t.get? (key r) = none then t.insert r h else t

/-- Changing all rows, without changing their keys. -/
def mapRows (t : KeyTable key) (f : R → R) (hf : ∀ r, key (f r) = key r) : KeyTable key where
  rows := t.rows.map f
  nodup := by
    have hkeys : key ∘ f = key := funext hf
    rw [List.map_map, hkeys]
    exact t.nodup

/-- Assignment: a row in the place of the one with its key, or at the end. -/
def put (t : KeyTable key) (r : R) : KeyTable key :=
  if h : t.get? (key r) = none then t.insert r h
  else t.modify (key r) (fun s ↦ if key s = key r then r else s) fun s ↦ by
    split
    · rename_i hkey
      exact hkey.symm
    · rfl

theorem rows_insert (h : t.get? (key r) = none) : (t.insert r h).rows = t.rows ++ [r] := rfl

theorem rows_modify (hf : ∀ r, key (f r) = key r) :
    (t.modify k f hf).rows = t.rows.map fun r ↦ if key r = k then f r else r := rfl

theorem get?_eq_some_iff : t.get? k = some r ↔ r ∈ t.rows ∧ key r = k :=
  find?_key_eq_some_iff t.nodup

theorem key_of_get? (h : t.get? k = some r) : key r = k := (get?_eq_some_iff.mp h).2

theorem get?_insert (h : t.get? (key r) = none) :
    (t.insert r h).get? k = if k = key r then some r else t.get? k := by
  by_cases hk : k = key r
  · subst hk
    rw [if_pos rfl]
    exact get?_eq_some_iff.mpr ⟨by simp [insert], rfl⟩
  · rw [if_neg hk, get?, insert, List.find?_append, get?]
    have hnone : List.find? (fun s ↦ decide (key s = k)) [r] = none := by
      rw [List.find?_cons_of_neg (by simpa using Ne.symm hk), List.find?_nil]
    rw [hnone, Option.or_none]

theorem get?_insertIfAbsent :
    (t.insertIfAbsent r).get? k
      = if k = key r then some ((t.get? k).getD r) else t.get? k := by
  rw [insertIfAbsent]
  split
  · rename_i h
    rw [get?_insert]
    by_cases hk : k = key r
    · rw [if_pos hk, if_pos hk, hk, h, Option.getD_none]
    · rw [if_neg hk, if_neg hk]
  · rename_i h
    obtain ⟨s, hs⟩ := Option.ne_none_iff_exists'.mp h
    by_cases hk : k = key r
    · rw [if_pos hk, hk, hs, Option.getD_some]
    · rw [if_neg hk]

theorem get?_modify (hf : ∀ r, key (f r) = key r) :
    (t.modify k f hf).get? k' = if k' = k then (t.get? k).map f else t.get? k' := by
  have hmap : ∀ s, key (if key s = k then f s else s) = key s := by
    intro s
    by_cases h : key s = k
    · rw [if_pos h, hf]
    · rw [if_neg h]
  rw [get?, modify, List.find?_map]
  simp only [Function.comp_def, hmap]
  by_cases hk : k' = k
  · subst hk
    rw [if_pos rfl, get?]
    refine Option.map_congr fun s hs ↦ ?_
    rw [if_pos (by simpa using List.find?_some hs)]
  · rw [if_neg hk, get?]
    cases hs : t.rows.find? fun r ↦ key r = k' with
    | none => rfl
    | some s =>
      have hkey : key s = k' := by simpa using List.find?_some hs
      rw [Option.map_some, if_neg (by rw [hkey]; exact hk)]

theorem get?_put : (t.put r).get? k = if k = key r then some r else t.get? k := by
  rw [put]
  split
  · rw [get?_insert]
  · rename_i h
    obtain ⟨s, hs⟩ := Option.ne_none_iff_exists'.mp h
    rw [get?_modify, hs, Option.map_some, if_pos (key_of_get? hs)]

theorem mem_rows_iff {s : R} : s ∈ t.rows ↔ t.get? (key s) = some s := by
  rw [get?_eq_some_iff, and_iff_left rfl]

theorem mem_keys_iff : k ∈ t.rows.map key ↔ (t.get? k).isSome := by
  rw [Option.isSome_iff_exists, List.mem_map]
  exact exists_congr fun s ↦ get?_eq_some_iff.symm

theorem mem_rows_of_mem_put {s : R} (h : s ∈ (t.put r).rows) : s ∈ t.rows ∨ s = r := by
  rw [mem_rows_iff, get?_put] at h
  split_ifs at h
  · exact .inr (Option.some.inj h).symm
  · exact .inl (mem_rows_iff.mpr h)

theorem mem_rows_of_mem_insertIfAbsent {s : R} (h : s ∈ (t.insertIfAbsent r).rows) :
    s ∈ t.rows ∨ s = r := by
  rw [insertIfAbsent] at h
  split at h
  · rwa [rows_insert, List.mem_append, List.mem_singleton] at h
  · exact .inl h

theorem mem_keys_put : k ∈ (t.put r).rows.map key ↔ k ∈ t.rows.map key ∨ k = key r := by
  rw [mem_keys_iff, mem_keys_iff, get?_put]
  split_ifs with hk
  · simp [hk]
  · simp [hk]

theorem mem_keys_insertIfAbsent :
    k ∈ (t.insertIfAbsent r).rows.map key ↔ k ∈ t.rows.map key ∨ k = key r := by
  rw [mem_keys_iff, mem_keys_iff, get?_insertIfAbsent]
  split_ifs with hk
  · simp [hk]
  · simp [hk]

theorem get?_mapRows (hf : ∀ r, key (f r) = key r) :
    (t.mapRows f hf).get? k = (t.get? k).map f := by
  rw [get?, mapRows, List.find?_map]
  simp only [Function.comp_def, hf]
  rfl

theorem filter_rows_key (t : KeyTable key) (k : K) :
    (t.rows.filter fun r ↦ key r = k) = (t.get? k).toList := by
  have hnd := t.nodup
  rw [get?]
  generalize t.rows = rows at hnd ⊢
  induction rows with
  | nil => rfl
  | cons r rows ih =>
    rw [List.map_cons, List.nodup_cons] at hnd
    by_cases hr : key r = k
    · have hnone : (rows.filter fun s ↦ key s = k) = [] :=
        List.filter_eq_nil_iff.mpr fun s hs hkey ↦
          hnd.1 (hr.trans (of_decide_eq_true hkey).symm ▸ List.mem_map_of_mem hs)
      rw [List.filter_cons_of_pos (by simpa using hr), List.find?_cons_of_pos (by simpa using hr),
        hnone, Option.toList_some]
    · rw [List.filter_cons_of_neg (by simpa using hr), List.find?_cons_of_neg (by simpa using hr),
        ih hnd.2]

theorem mem_rows_modify (hf : ∀ r, key (f r) = key r) (h : r ∈ (t.modify k f hf).rows) :
    ∃ s ∈ t.rows, r = if key s = k then f s else s := by
  obtain ⟨s, hs, rfl⟩ := List.mem_map.mp h
  exact ⟨s, hs, rfl⟩

/-! ## Sums over all rows -/

variable {M : Type*} [AddCommGroup M]

theorem sum_map_modify (c : R → M) (hf : ∀ r, key (f r) = key r) (h : t.get? k = some r) :
    ((t.modify k f hf).rows.map c).sum = (t.rows.map c).sum - c r + c (f r) := by
  obtain ⟨hmem, hkey⟩ := get?_eq_some_iff.mp h
  obtain ⟨pre, post, hrows⟩ := List.append_of_mem hmem
  have hnd := t.nodup
  rw [hrows, List.map_append, List.map_cons, List.nodup_append, List.nodup_cons] at hnd
  -- no row before or after the one changed has its key
  have hpre : (pre.map fun s ↦ if key s = k then f s else s) = pre := by
    refine (List.map_congr_left fun s hs ↦ if_neg fun hc ↦ ?_).trans (List.map_id _)
    exact hnd.2.2 _ (List.mem_map_of_mem hs) _ List.mem_cons_self (hc.trans hkey.symm)
  have hpost : (post.map fun s ↦ if key s = k then f s else s) = post := by
    refine (List.map_congr_left fun s hs ↦ if_neg fun hc ↦ ?_).trans (List.map_id _)
    exact hnd.2.1.1 (List.mem_map.mpr ⟨s, hs, hc.trans hkey.symm⟩)
  rw [rows_modify, hrows, List.map_append, List.map_cons, hpre, hpost, if_pos hkey]
  simp only [List.map_append, List.map_cons, List.sum_append, List.sum_cons]
  abel

theorem sum_map_insert (c : R → M) (h : t.get? (key r) = none) :
    ((t.insert r h).rows.map c).sum = (t.rows.map c).sum + c r := by
  rw [rows_insert, List.map_append, List.sum_append, List.map_singleton, List.sum_singleton]

end KeyTable

/-! ## Related tables

Two tables whose rows are related one by one, by a relation that includes the equality of keys,
answer every question with related rows. -/

section Related

variable {S : Type*} {rel : R → S → Prop}

theorem rel_find? {p : R → Bool} {q : S → Bool} (hpq : ∀ r s, rel r s → p r = q s) {rs : List R}
    {ss : List S} (h : List.Forall₂ rel rs ss) : Option.Rel rel (rs.find? p) (ss.find? q) := by
  induction h with
  | nil => exact .none
  | @cons r s rs ss hrs _ ih =>
    by_cases hp : p r = true
    · rw [List.find?_cons_of_pos hp, List.find?_cons_of_pos (hpq r s hrs ▸ hp)]
      exact .some hrs
    · rw [List.find?_cons_of_neg hp, List.find?_cons_of_neg (hpq r s hrs ▸ hp)]
      exact ih

theorem map_eq_map_of_rel {γ : Type*} {f : R → γ} {g : S → γ} (hfg : ∀ r s, rel r s → f r = g s)
    {a : Option R} {b : Option S} (h : Option.Rel rel a b) : a.map f = b.map g := by
  cases h with
  | none => rfl
  | some hrs => rw [Option.map_some, Option.map_some, hfg _ _ hrs]

theorem eq_none_iff_of_rel {a : Option R} {b : Option S} (h : Option.Rel rel a b) :
    a = none ↔ b = none := by
  cases h with
  | none => simp
  | some _ => simp

theorem rel_getLast? {rs : List R} {ss : List S} (h : List.Forall₂ rel rs ss) :
    Option.Rel rel rs.getLast? ss.getLast? := by
  rw [List.getLast?_eq_head?_reverse, List.getLast?_eq_head?_reverse]
  have hrev := List.rel_reverse h
  generalize rs.reverse = rs', ss.reverse = ss' at hrev
  cases hrev with
  | nil => exact .none
  | cons hrs _ => exact .some hrs

theorem forall₂_orderedInsert {pos : R → ℕ} {pos' : S → ℕ} (hpos : ∀ r s, rel r s → pos r = pos' s)
    {r : R} {s : S} (hrs : rel r s) {rs : List R} {ss : List S} (h : List.Forall₂ rel rs ss) :
    List.Forall₂ rel (rs.orderedInsert (fun a b ↦ pos a ≤ pos b) r)
      (ss.orderedInsert (fun a b ↦ pos' a ≤ pos' b) s) := by
  induction h with
  | nil => exact .cons hrs .nil
  | @cons r' s' rs ss hrs' htail ih =>
    rw [List.orderedInsert_cons, List.orderedInsert_cons, hpos r s hrs, hpos r' s' hrs']
    split
    · exact .cons hrs (.cons hrs' htail)
    · exact .cons hrs' ih

theorem forall₂_orderBy {pos : R → ℕ} {pos' : S → ℕ} (hpos : ∀ r s, rel r s → pos r = pos' s)
    {rs : List R} {ss : List S} (h : List.Forall₂ rel rs ss) :
    List.Forall₂ rel (orderBy pos rs) (orderBy pos' ss) := by
  induction h with
  | nil => exact .nil
  | cons hrs _ ih => exact forall₂_orderedInsert hpos hrs ih

theorem map_eq_map_of_forall₂ {γ : Type*} {f : R → γ} {g : S → γ}
    (hfg : ∀ r s, rel r s → f r = g s) {rs : List R} {ss : List S} (h : List.Forall₂ rel rs ss) :
    rs.map f = ss.map g := by
  induction h with
  | nil => rfl
  | cons hrs _ ih => rw [List.map_cons, List.map_cons, hfg _ _ hrs, ih]

variable {key : R → K} {key' : S → K} {t : KeyTable key} {u : KeyTable key'} {k : K}

theorem KeyTable.rel_get? (hkey : ∀ r s, rel r s → key r = key' s)
    (h : List.Forall₂ rel t.rows u.rows) (k : K) : Option.Rel rel (t.get? k) (u.get? k) :=
  rel_find? (fun r s hrs ↦ by rw [hkey r s hrs]) h

theorem KeyTable.forall₂_modify {f : R → R} {g : S → S} (hkey : ∀ r s, rel r s → key r = key' s)
    (hfg : ∀ r s, rel r s → rel (f r) (g s)) (h : List.Forall₂ rel t.rows u.rows) :
    List.Forall₂ rel (t.rows.map fun r ↦ if key r = k then f r else r)
      (u.rows.map fun s ↦ if key' s = k then g s else s) := by
  rw [List.forall₂_map_left_iff, List.forall₂_map_right_iff]
  refine h.imp fun r s hrs ↦ ?_
  rw [hkey r s hrs]
  split
  · exact hfg r s hrs
  · exact hrs

end Related

end DriftGuardX
