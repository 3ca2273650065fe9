import Mathlib.Data.List.Basic
import Mathlib.Logic.Relation
import Mathlib.Order.Lattice

/-!
# Closing relations in place

Some relations are kept as the sets of what each point is related to, and are closed together while they
are gone over: a point takes over what those are related to that it is related to, from sets that may
have grown before in the same round. A round says whether something was new, and there are rounds until
nothing is. Where the relations stay within transitive ones that are finite, each round but the last
leaves fewer pairs that are missing (`Grows`), so there is a last one; nothing was new in it, so the
relations are closed (`exists_close`). The order in which sets are gone over does not matter.
-/

namespace DriftGuardX.Closure

variable {ι α : Type*} [DecidableEq ι] [DecidableEq α]

/-- A set with the elements of another one, the new ones at its end. -/
def merge (s t : List α) : List α := s ++ t.filter fun a ↦ a ∉ s

/-- Some relations with the set of a point replaced. -/
def assign (rel : ι → α → List α) (i : ι) (n : α) (s : List α) : ι → α → List α :=
  fun j m ↦ if j = i ∧ m = n then s else rel j m

/-- The relations, and whether something was new. -/
structure Progress (ι α : Type*) where
  rel : ι → α → List α
  changed : Bool

/-- A point takes over what another one is related to. -/
def inherit (i : ι) (n : α) (p : Progress ι α) (d : α) : Progress ι α :=
  let merged := merge (p.rel i n) (p.rel i d)
  ⟨assign p.rel i n merged, p.changed || decide ((p.rel i n).length < merged.length)⟩

/-- A point takes over what those are related to that it is related to, in some order. -/
def visit (order : List α → List α) (i : ι) (n : α) (p : Progress ι α) : Progress ι α :=
  (order (p.rel i n)).foldl (inherit i n) p

/-- The orders in which sets are gone over: the points in a round, and what a point is related to. -/
structure Orders (ι α : Type*) where
  points : ℕ → List α → List α
  related : ℕ → ι → α → List α → List α
  perm_points : ∀ k s, (points k s).Perm s
  perm_related : ∀ k i n s, (related k i n s).Perm s

/-- A round over all points, for some of the relations. -/
def round (orders : Orders ι α) (relations : List ι) (points : List α) (k : ℕ)
    (rel : ι → α → List α) : Progress ι α :=
  (orders.points k points).foldl
    (fun p n ↦ relations.foldl (fun p i ↦ visit (orders.related k i n) i n p) p) ⟨rel, false⟩

/-- Rounds until nothing is new, at most as many as there is fuel. -/
def close (orders : Orders ι α) (relations : List ι) (points : List α) :
    ℕ → ℕ → (ι → α → List α) → Option (ι → α → List α)
  | 0, _, _ => none
  | fuel + 1, k, rel =>
    let p := round orders relations points k rel
    if p.changed then close orders relations points fuel (k + 1) p.rel else some p.rel

/-! ## What is added -/

omit [DecidableEq ι] in
theorem mem_merge {s t : List α} {a : α} : a ∈ merge s t ↔ a ∈ s ∨ a ∈ t := by
  rw [merge, List.mem_append, List.mem_filter, decide_eq_true_eq]
  by_cases h : a ∈ s
  · simp [h]
  · simp [h]

omit [DecidableEq ι] in
theorem merge_eq_self {s t : List α} (h : t ⊆ s) : merge s t = s := by
  rw [merge, List.filter_eq_nil_iff.mpr, List.append_nil]
  exact fun a ha ↦ by simpa using h ha

omit [DecidableEq ι] in
theorem length_lt_merge_iff {s t : List α} : s.length < (merge s t).length ↔ ¬ t ⊆ s := by
  rw [merge, List.length_append, Nat.lt_add_right_iff_pos, List.length_pos_iff, Ne,
    List.filter_eq_nil_iff]
  simp [List.subset_def]

variable {rel rel' : ι → α → List α} {p p' p'' : Progress ι α} {i : ι} {n d : α}

theorem assign_self : assign rel i n (rel i n) = rel := by
  funext j m
  rw [assign]
  split_ifs with h
  · rw [h.1, h.2]
  · rfl

/-- The relations have grown. -/
def Extends (rel rel' : ι → α → List α) : Prop := ∀ j m, rel j m ⊆ rel' j m

/-- The relations stay within others. -/
def Within (R : ι → α → α → Prop) (rel : ι → α → List α) : Prop := ∀ j m, ∀ a ∈ rel j m, R j m a

/-- How many pairs are missing. -/
def missing (pairs : List (ι × α × α)) (rel : ι → α → List α) : ℕ :=
  (pairs.filter fun t ↦ t.2.2 ∉ rel t.1 t.2.1).length

/-- Transitive relations of which there are finitely many pairs. -/
structure Bounds (R : ι → α → α → Prop) (pairs : List (ι × α × α)) : Prop where
  trans : ∀ {j a b c}, R j a b → R j b c → R j a c
  mem_pairs : ∀ {j a b}, R j a b → (j, a, b) ∈ pairs

/-- The relations have grown within their bounds. Nothing was new, as they have a property already, or
fewer pairs are missing. -/
structure Grows (R : ι → α → α → Prop) (pairs : List (ι × α × α)) (p p' : Progress ι α)
    (closed : (ι → α → List α) → Prop) : Prop where
  subset : Extends p.rel p'.rel
  within : Within R p'.rel
  advances : (p' = p ∧ closed p.rel) ∨
    (p'.changed = true ∧ missing pairs p'.rel < missing pairs p.rel)

variable {R : ι → α → α → Prop} {pairs : List (ι × α × α)}

omit [DecidableEq ι] in
theorem Grows.trans {closed closed' : (ι → α → List α) → Prop} (h : Grows R pairs p p' closed)
    (h' : Grows R pairs p' p'' closed') : Grows R pairs p p'' fun rel ↦ closed rel ∧ closed' rel where
  subset := fun j m ↦ List.Subset.trans (h.subset j m) (h'.subset j m)
  within := h'.within
  advances := by
    obtain ⟨rfl, hclosed⟩ | ⟨hchanged, hlt⟩ := h.advances
    · exact h'.advances.imp_left fun ⟨heq, hclosed'⟩ ↦ ⟨heq, hclosed, hclosed'⟩
    · obtain ⟨rfl, -⟩ | ⟨hchanged', hlt'⟩ := h'.advances
      · exact .inr ⟨hchanged, hlt⟩
      · exact .inr ⟨hchanged', hlt'.trans hlt⟩

omit [DecidableEq ι] in
theorem Grows.imp {closed closed' : (ι → α → List α) → Prop} (h : Grows R pairs p p' closed)
    (himp : closed p.rel → closed' p.rel) : Grows R pairs p p' closed' where
  subset := h.subset
  within := h.within
  advances := h.advances.imp_left fun ⟨heq, hclosed⟩ ↦ ⟨heq, himp hclosed⟩

omit [DecidableEq ι] in
/-- A loop whose steps grow. -/
theorem grows_foldl {β : Type*} {step : Progress ι α → β → Progress ι α}
    {closed : β → (ι → α → List α) → Prop} {bs : List β}
    (hstep : ∀ b ∈ bs, ∀ p, Within R p.rel → Grows R pairs p (step p b) (closed b))
    (hp : Within R p.rel) :
    Grows R pairs p (bs.foldl step p) fun rel ↦ ∀ b ∈ bs, closed b rel := by
  induction bs generalizing p with
  | nil => exact ⟨fun _ _ ↦ List.Subset.refl _, hp, .inl ⟨rfl, by simp⟩⟩
  | cons b bs ih =>
    obtain ⟨hb, hbs⟩ := List.forall_mem_cons.mp hstep
    have hfirst := hb p hp
    exact (hfirst.trans (ih hbs hfirst.within)).imp fun h ↦ List.forall_mem_cons.mpr h

/-! ## Rounds -/

omit [DecidableEq ι] in
theorem missing_lt (h : Extends rel rel') {j : ι} {m a : α} (hmem : (j, m, a) ∈ pairs)
    (hnew : a ∉ rel j m) (hthere : a ∈ rel' j m) : missing pairs rel' < missing pairs rel := by
  have hfilter : (pairs.filter fun t ↦ t.2.2 ∉ rel' t.1 t.2.1)
      = (pairs.filter fun t ↦ t.2.2 ∉ rel t.1 t.2.1).filter fun t ↦ t.2.2 ∉ rel' t.1 t.2.1 := by
    rw [List.filter_filter]
    refine List.filter_congr fun t _ ↦ ?_
    have hsub := @h t.1 t.2.1 t.2.2
    by_cases hin : t.2.2 ∈ rel' t.1 t.2.1
    · simp [hin]
    · simp [hin, mt hsub hin]
  rw [missing, missing, hfilter, List.length_filter_lt_length_iff_exists]
  exact ⟨(j, m, a), List.mem_filter.mpr ⟨hmem, by simpa using hnew⟩, by simpa using hthere⟩

theorem mem_rel_inherit {j : ι} {m a : α} : a ∈ (inherit i n p d).rel j m ↔
    a ∈ p.rel j m ∨ ((j = i ∧ m = n) ∧ a ∈ p.rel i d) := by
  rw [inherit]
  dsimp only [assign]
  split_ifs with h
  · obtain ⟨rfl, rfl⟩ := h
    simp [mem_merge]
  · simp [h]

theorem grows_inherit (hbounds : Bounds R pairs) (hp : Within R p.rel) (hd : R i n d) :
    Grows R pairs p (inherit i n p d) fun rel ↦ rel i d ⊆ rel i n where
  subset := fun _ _ _ ha ↦ mem_rel_inherit.mpr (.inl ha)
  within := by
    intro j m a ha
    obtain hold | ⟨⟨rfl, rfl⟩, hnew⟩ := mem_rel_inherit.mp ha
    · exact hp j m a hold
    · exact hbounds.trans hd (hp _ _ _ hnew)
  advances := by
    by_cases hsub : p.rel i d ⊆ p.rel i n
    · refine .inl ⟨?_, hsub⟩
      have hlength : ¬ (p.rel i n).length < (merge (p.rel i n) (p.rel i d)).length :=
        length_lt_merge_iff.not.mpr (not_not.mpr hsub)
      rw [inherit, decide_eq_false hlength, merge_eq_self hsub, assign_self, Bool.or_false]
    · have hlength := length_lt_merge_iff.mpr hsub
      obtain ⟨a, ha, hnew⟩ : ∃ a ∈ p.rel i d, a ∉ p.rel i n := by
        simpa [List.subset_def] using hsub
      refine .inr ⟨by rw [inherit, decide_eq_true hlength, Bool.or_true], ?_⟩
      exact missing_lt (fun _ _ _ h ↦ mem_rel_inherit.mpr (.inl h))
        (hbounds.mem_pairs (hbounds.trans hd (hp _ _ _ ha))) hnew
        (mem_rel_inherit.mpr (.inr ⟨⟨rfl, rfl⟩, ha⟩))

theorem grows_visit (hbounds : Bounds R pairs) (hp : Within R p.rel) {order : List α → List α}
    (horder : ∀ s, (order s).Perm s) : Grows R pairs p (visit order i n p) fun rel ↦
      ∀ d ∈ rel i n, rel i d ⊆ rel i n := by
  have hloop : Grows R pairs p (visit order i n p) fun rel ↦
      ∀ d ∈ order (p.rel i n), rel i d ⊆ rel i n := grows_foldl
    (fun d hd p' hp' ↦ grows_inherit hbounds hp' (hp _ _ _ ((horder _).mem_iff.mp hd))) hp
  exact hloop.imp fun h d hd ↦ h d ((horder _).mem_iff.mpr hd)

variable {orders : Orders ι α} {relations : List ι} {points : List α} {k : ℕ}

theorem grows_round (hbounds : Bounds R pairs) (hrel : Within R rel) :
    Grows R pairs ⟨rel, false⟩ (round orders relations points k rel) fun rel ↦
      ∀ n ∈ points, ∀ i ∈ relations, ∀ d ∈ rel i n, rel i d ⊆ rel i n := by
  have hpoint : ∀ n ∈ orders.points k points, ∀ p, Within R p.rel →
      Grows R pairs p (relations.foldl (fun p i ↦ visit (orders.related k i n) i n p) p) fun rel ↦
        ∀ i ∈ relations, ∀ d ∈ rel i n, rel i d ⊆ rel i n := fun n _ p hp ↦
    grows_foldl (fun i _ p hp ↦ grows_visit hbounds hp (orders.perm_related k i n)) hp
  have hloop := grows_foldl (p := ⟨rel, false⟩) hpoint hrel
  exact hloop.imp fun h n hn ↦ h n ((orders.perm_points k points).mem_iff.mpr hn)

/-- **The rounds end**, and then the relations are closed. -/
theorem exists_close (hbounds : Bounds R pairs) (hrel : Within R rel) :
    ∃ rel', (∀ fuel, missing pairs rel < fuel →
      close orders relations points fuel k rel = some rel') ∧ Extends rel rel' ∧ Within R rel' ∧
      ∀ n ∈ points, ∀ i ∈ relations, ∀ d ∈ rel' i n, rel' i d ⊆ rel' i n := by
  obtain ⟨count, hcount⟩ : ∃ count, missing pairs rel = count := ⟨_, rfl⟩
  induction count using Nat.strongRecOn generalizing rel k with
  | ind count ih =>
    subst hcount
    have hround : Grows R pairs ⟨rel, false⟩ (round orders relations points k rel) _ :=
      grows_round hbounds hrel
    obtain ⟨hsub, hwithin, ⟨heq, hclosed⟩ | ⟨hchanged, hlt⟩⟩ := hround
    · refine ⟨rel, fun fuel hfuel ↦ ?_, fun _ _ ↦ List.Subset.refl _, hrel, hclosed⟩
      obtain ⟨fuel, rfl⟩ := Nat.exists_eq_add_of_lt hfuel
      rw [close, heq]
      rfl
    · obtain ⟨rel', hclose, hsub', hrest⟩ := ih _ hlt hwithin rfl
      refine ⟨rel', fun fuel hfuel ↦ ?_, fun j m ↦ List.Subset.trans (hsub j m) (hsub' j m), hrest⟩
      obtain ⟨fuel, rfl⟩ := Nat.exists_eq_succ_of_ne_zero (Nat.ne_zero_of_lt hfuel)
      rw [close, if_pos hchanged]
      exact hclose fuel (hlt.trans_le (Nat.le_of_lt_succ hfuel))

/-! ## Transitive closures -/

/-- All pairs of points in all relations. -/
def allPairs (relations : List ι) (points : List α) : List (ι × α × α) :=
  relations.flatMap fun i ↦ points.flatMap fun a ↦ points.map fun b ↦ (i, a, b)

omit [DecidableEq ι] [DecidableEq α] in
theorem bounds_transGen {edge : ι → α → α → Prop} (hrelations : ∀ i, i ∈ relations)
    (hpoints : ∀ i a b, edge i a b → a ∈ points ∧ b ∈ points) :
    Bounds (fun i ↦ Relation.TransGen (edge i)) (allPairs relations points) where
  trans := Relation.TransGen.trans
  mem_pairs := by
    intro i a b h
    obtain ⟨c, hfirst, -⟩ := Relation.TransGen.head'_iff.mp h
    obtain ⟨d, -, hlast⟩ := Relation.TransGen.tail'_iff.mp h
    refine List.mem_flatMap.mpr ⟨i, hrelations i, List.mem_flatMap.mpr ⟨a, (hpoints i a c hfirst).1, ?_⟩⟩
    exact List.mem_map_of_mem (hpoints i d b hlast).2

/-- **Relations of edges are closed transitively.** -/
theorem exists_close_transGen {edge : ι → α → α → Prop} (hrelations : ∀ i, i ∈ relations)
    (hpoints : ∀ i a b, edge i a b → a ∈ points ∧ b ∈ points)
    (hrel : ∀ i a b, b ∈ rel i a ↔ edge i a b) : ∃ rel',
      (∃ enough, ∀ fuel ≥ enough, close orders relations points fuel k rel = some rel') ∧
        ∀ i a b, b ∈ rel' i a ↔ Relation.TransGen (edge i) a b := by
  have hbounds := bounds_transGen hrelations hpoints
  have hwithin : Within (fun i ↦ Relation.TransGen (edge i)) rel :=
    fun i a b hb ↦ .single ((hrel i a b).mp hb)
  obtain ⟨rel', hclose, hsub, hwithin', hclosed⟩ := exists_close hbounds hwithin
  refine ⟨rel', ⟨_, hclose⟩, fun i a b ↦ ⟨hwithin' i a b, fun hreach ↦ ?_⟩⟩
  have hedge : ∀ c d, edge i c d → d ∈ rel' i c := fun c d h ↦ hsub i c ((hrel i c d).mpr h)
  obtain ⟨c, hfirst, -⟩ := Relation.TransGen.head'_iff.mp hreach
  have ha := (hpoints i a c hfirst).1
  induction hreach with
  | single h => exact hedge _ _ h
  | tail _ h ih => exact hclosed a ha i (hrelations i) _ ih (hedge _ _ h)

end DriftGuardX.Closure
