import Mathlib.Data.List.Induction
import Mathlib.Logic.Function.Basic

/-!
# Items staged under a key

Items are staged under their keys, and a decision about a key moves what is staged under it to the
committed items or drops it. So what becomes of an item is decided by the first decision about its
key that comes after it, and an item without one is still staged (`run_eq_fates`). Items that are
equal are told apart by where they were staged: the result is about the lists of items, in order.
-/

namespace DriftGuardX.Staging

variable {K A : Type*}

inductive Event (K A : Type*) where
  | stage (item : A)
  | decide (key : K) (clear : Bool)

@[ext] structure State (K A : Type*) where
  pending : K → List A
  committed : List A

def State.empty : State K A := ⟨fun _ ↦ [], []⟩

section

variable [DecidableEq K] (key : A → K)

def step (s : State K A) : Event K A → State K A
  | .stage item =>
    { s with pending := Function.update s.pending (key item) (s.pending (key item) ++ [item]) }
  | .decide k clear =>
    { pending := Function.update s.pending k []
      committed := s.committed ++ if clear then s.pending k else [] }

def run (events : List (Event K A)) : State K A := events.foldl (step key) .empty

/-- The first decision about a key. -/
def fate (k : K) (events : List (Event K A)) : Option Bool :=
  events.findSome? fun
    | .stage _ => none
    | .decide k' clear => if k' = k then some clear else none

/-- The items that are staged, each with the first decision about its key after it. -/
def fates : List (Event K A) → List (A × Option Bool)
  | [] => []
  | .stage item :: events => (item, fate (key item) events) :: fates events
  | .decide _ _ :: events => fates events

/-- The items with a key and a fate. -/
def itemsWith (k : K) (f : Option Bool) (events : List (Event K A)) : List A :=
  ((fates key events).filter fun m ↦ key m.1 = k ∧ m.2 = f).map Prod.fst

end

variable [DecidableEq K] {key : A → K} {k : K} {events : List (Event K A)}

theorem run_concat (e : Event K A) : run key (events ++ [e]) = step key (run key events) e := by
  rw [run, run, List.foldl_append, List.foldl_cons, List.foldl_nil]

theorem fate_concat_stage (item : A) : fate k (events ++ [.stage item]) = fate k events := by
  rw [fate, fate, List.findSome?_append]
  exact Option.or_none

theorem fate_concat_decide (k' : K) (clear : Bool) :
    fate k (events ++ [.decide k' clear])
      = (fate k events).or (if k' = k then some clear else none) := by
  rw [fate, fate, List.findSome?_append, List.findSome?_singleton]

theorem fates_concat_stage (item : A) :
    fates key (events ++ [.stage item]) = fates key events ++ [(item, none)] := by
  induction events with
  | nil => rfl
  | cons e events ih =>
    cases e with
    | stage other => rw [List.cons_append, fates, fates, fate_concat_stage, ih, List.cons_append]
    | decide k' clear => rw [List.cons_append, fates, fates, ih]

theorem fates_concat_decide (k' : K) (clear : Bool) :
    fates key (events ++ [.decide k' clear]) = (fates key events).map fun m ↦
      (m.1, m.2.or (if k' = key m.1 then some clear else none)) := by
  induction events with
  | nil => rfl
  | cons e events ih =>
    cases e with
    | stage other => rw [List.cons_append, fates, fates, fate_concat_decide, ih, List.map_cons]
    | decide k'' clear' => rw [List.cons_append, fates, fates, ih]

theorem itemsWith_concat_stage (f : Option Bool) (item : A) :
    itemsWith key k f (events ++ [.stage item])
      = itemsWith key k f events ++ if key item = k ∧ f = none then [item] else [] := by
  rw [itemsWith, fates_concat_stage, List.filter_append, List.map_append, itemsWith]
  congr 1
  by_cases h : key item = k ∧ f = none
  · rw [if_pos h, List.filter_cons_of_pos (by simp [h.1, h.2]), List.filter_nil, List.map_singleton]
  · rw [if_neg h, List.filter_cons_of_neg, List.filter_nil, List.map_nil]
    rw [decide_eq_true_eq]
    exact fun hm ↦ h ⟨hm.1, hm.2.symm⟩

theorem itemsWith_concat_other {k' : K} (hne : k' ≠ k) (f : Option Bool) (clear : Bool) :
    itemsWith key k f (events ++ [.decide k' clear]) = itemsWith key k f events := by
  rw [itemsWith, itemsWith, fates_concat_decide, List.filter_map, List.map_map]
  have hfilter : (fates key events).filter ((fun m ↦ decide (key m.1 = k ∧ m.2 = f)) ∘ fun m ↦
        (m.1, m.2.or (if k' = key m.1 then some clear else none)))
      = (fates key events).filter fun m ↦ key m.1 = k ∧ m.2 = f := by
    refine List.filter_congr fun m _ ↦ ?_
    rw [Function.comp_apply, decide_eq_decide]
    refine and_congr_right fun hk ↦ ?_
    rw [if_neg (hk ▸ hne), Option.or_none]
  rw [hfilter]
  rfl

theorem itemsWith_none_concat_self (clear : Bool) :
    itemsWith key k none (events ++ [.decide k clear]) = [] := by
  rw [itemsWith, fates_concat_decide, List.map_eq_nil_iff, List.filter_eq_nil_iff]
  intro m hm
  obtain ⟨m, -, rfl⟩ := List.mem_map.mp hm
  rw [decide_eq_true_eq]
  rintro ⟨hk, hf⟩
  rw [if_pos hk.symm] at hf
  cases hm : m.2 <;> simp [hm] at hf

theorem exists_decided_first (key : A → K) (k : K) (events : List (Event K A)) :
    ∃ us vs, (fates key events).filter (fun m ↦ key m.1 = k) = us ++ vs ∧
      (∀ m ∈ us, m.2 ≠ none) ∧ ∀ m ∈ vs, m.2 = none := by
  induction events using List.reverseRecOn with
  | nil => exact ⟨[], [], rfl, by simp, by simp⟩
  | append_singleton events e ih =>
    obtain ⟨us, vs, hsplit, hus, hvs⟩ := ih
    cases e with
    | stage item =>
      rw [fates_concat_stage, List.filter_append, hsplit]
      by_cases hk : key item = k
      · refine ⟨us, vs ++ [(item, none)], ?_, hus, fun m hm ↦ ?_⟩
        · rw [List.filter_cons_of_pos (by simpa using hk), List.filter_nil, List.append_assoc]
        · obtain hm | hm := List.mem_append.mp hm
          · exact hvs m hm
          · exact List.mem_singleton.mp hm ▸ rfl
      · refine ⟨us, vs, ?_, hus, hvs⟩
        rw [List.filter_cons_of_neg (by simpa using hk), List.filter_nil, List.append_nil]
    | decide k' clear =>
      -- each of the items keeps its key
      have hmap : (fates key (events ++ [.decide k' clear])).filter (fun m ↦ key m.1 = k)
          = (us ++ vs).map fun m ↦ (m.1, m.2.or (if k' = key m.1 then some clear else none)) := by
        rw [fates_concat_decide, List.filter_map, ← hsplit]
        rfl
      have hkey : ∀ m ∈ us ++ vs, key m.1 = k := by
        intro m hm
        rw [← hsplit] at hm
        exact of_decide_eq_true (List.mem_filter.mp hm).2
      rw [hmap, List.map_append]
      have hdecided : ∀ m ∈ us.map fun m ↦
          (m.1, m.2.or (if k' = key m.1 then some clear else none)), m.2 ≠ none := by
        intro m hm
        obtain ⟨n, hn, rfl⟩ := List.mem_map.mp hm
        obtain ⟨b, hb⟩ := Option.ne_none_iff_exists'.mp (hus n hn)
        rw [hb, Option.some_or]
        exact Option.some_ne_none b
      by_cases hk : k' = k
      · refine ⟨_, [], (List.append_nil _).symm, fun m hm ↦ ?_, by simp⟩
        obtain hm | hm := List.mem_append.mp hm
        · exact hdecided m hm
        · obtain ⟨n, hn, rfl⟩ := List.mem_map.mp hm
          rw [hvs n hn, if_pos (hk.trans (hkey n (List.mem_append_right us hn)).symm)]
          exact Option.some_ne_none clear
      · refine ⟨_, _, rfl, hdecided, fun m hm ↦ ?_⟩
        obtain ⟨n, hn, rfl⟩ := List.mem_map.mp hm
        rw [hvs n hn, if_neg (fun h ↦ hk (h.trans (hkey n (List.mem_append_right us hn))))]
        rfl

theorem itemsWith_some_concat_self (f clear : Bool) :
    itemsWith key k (some f) (events ++ [.decide k clear])
      = itemsWith key k (some f) events ++ if clear = f then itemsWith key k none events else [] := by
  obtain ⟨us, vs, hsplit, hus, hvs⟩ := exists_decided_first key k events
  have hitems : ∀ g, itemsWith key k g events
      = ((us.filter fun m ↦ m.2 = g) ++ vs.filter fun m ↦ m.2 = g).map Prod.fst := by
    intro g
    rw [itemsWith, ← List.filter_append, ← hsplit, List.filter_filter]
    congr 1
    exact List.filter_congr fun m _ ↦ by rw [Bool.and_comm, ← Bool.decide_and]
  have hnow : itemsWith key k (some f) (events ++ [.decide k clear])
      = ((us ++ vs).filter fun m ↦ m.2.or (some clear) = some f).map Prod.fst := by
    rw [itemsWith, fates_concat_decide, List.filter_map, List.map_map, ← hsplit, List.filter_filter]
    have hfilter : (fates key events).filter ((fun m ↦ decide (key m.1 = k ∧ m.2 = some f)) ∘ fun m ↦
          (m.1, m.2.or (if k = key m.1 then some clear else none)))
        = (fates key events).filter fun m ↦
          decide (m.2.or (some clear) = some f) && decide (key m.1 = k) := by
      refine List.filter_congr fun m _ ↦ ?_
      rw [Function.comp_apply, Bool.and_comm, ← Bool.decide_and, decide_eq_decide]
      refine and_congr_right fun hk ↦ ?_
      rw [if_pos hk.symm]
    rw [hfilter]
    rfl
  have hold : us.filter (fun m ↦ m.2.or (some clear) = some f) = us.filter fun m ↦ m.2 = some f := by
    refine List.filter_congr fun m hm ↦ ?_
    obtain ⟨b, hb⟩ := Option.ne_none_iff_exists'.mp (hus m hm)
    rw [hb, Option.some_or]
  have hnew : vs.filter (fun m ↦ m.2.or (some clear) = some f) = if clear = f then vs else [] := by
    split
    · rename_i heq
      refine List.filter_eq_self.mpr fun m hm ↦ ?_
      rw [hvs m hm, heq]
      simp
    · rename_i hne
      refine List.filter_eq_nil_iff.mpr fun m hm ↦ ?_
      rw [hvs m hm]
      simpa using hne
  have hnone : us.filter (fun m ↦ m.2 = none) = [] :=
    List.filter_eq_nil_iff.mpr fun m hm ↦ by simpa using hus m hm
  have hall : vs.filter (fun m ↦ m.2 = none) = vs :=
    List.filter_eq_self.mpr fun m hm ↦ by simpa using hvs m hm
  have hsome : vs.filter (fun m ↦ m.2 = some f) = [] :=
    List.filter_eq_nil_iff.mpr fun m hm ↦ by simp [hvs m hm]
  rw [hnow, hitems, hitems, List.filter_append, hold, hnew, hnone, hall, hsome, List.append_nil,
    List.nil_append, List.map_append]
  split <;> rfl

theorem key_of_mem_itemsWith {f : Option Bool} {item : A} (h : item ∈ itemsWith key k f events) :
    key item = k := by
  obtain ⟨m, hm, rfl⟩ := List.mem_map.mp h
  exact (of_decide_eq_true (List.mem_filter.mp hm).2).1

theorem stage_mem_of_mem_fates {m : A × Option Bool} (h : m ∈ fates key events) :
    .stage m.1 ∈ events := by
  induction events with
  | nil => exact absurd h List.not_mem_nil
  | cons e events ih =>
    cases e with
    | stage item =>
      rw [fates] at h
      obtain rfl | h := List.mem_cons.mp h
      · exact List.mem_cons_self
      · exact List.mem_cons_of_mem _ (ih h)
    | decide k' clear => exact List.mem_cons_of_mem _ (ih h)

theorem stage_mem_of_mem_itemsWith {f : Option Bool} {item : A}
    (h : item ∈ itemsWith key k f events) : .stage item ∈ events := by
  obtain ⟨m, hm, rfl⟩ := List.mem_map.mp h
  exact stage_mem_of_mem_fates (List.mem_filter.mp hm).1

/-- **What becomes of what is staged.** An item is committed, once and in the order of its key, when
the first decision about its key after it was staged clears it. It is still staged when there is
none. -/
theorem run_eq_fates (key : A → K) (events : List (Event K A)) (k : K) :
    (run key events).pending k = itemsWith key k none events ∧
      (run key events).committed.filter (fun item ↦ key item = k)
        = itemsWith key k (some true) events := by
  induction events using List.reverseRecOn generalizing k with
  | nil => exact ⟨rfl, rfl⟩
  | append_singleton events e ih =>
    rw [run_concat]
    cases e with
    | stage item =>
      rw [itemsWith_concat_stage, itemsWith_concat_stage, ← (ih k).1, ← (ih k).2]
      refine ⟨?_, by rw [if_neg (by simp), List.append_nil]; rfl⟩
      show Function.update _ _ _ k = _
      by_cases hk : key item = k
      · subst hk
        rw [Function.update_self, if_pos ⟨rfl, rfl⟩]
      · rw [Function.update_of_ne (Ne.symm hk), if_neg (fun h ↦ hk h.1), List.append_nil]
    | decide k' clear =>
      show Function.update _ _ _ k = _ ∧ List.filter _ ((run key events).committed ++ _) = _
      rw [List.filter_append, (ih k).2]
      by_cases hk : k' = k
      · subst hk
        rw [Function.update_self, itemsWith_none_concat_self, itemsWith_some_concat_self]
        refine ⟨rfl, congrArg _ ?_⟩
        cases clear with
        | true =>
          rw [if_pos rfl, if_pos rfl, (ih k').1, List.filter_eq_self]
          exact fun item hitem ↦ decide_eq_true (key_of_mem_itemsWith hitem)
        | false => rfl
      · rw [Function.update_of_ne (Ne.symm hk), itemsWith_concat_other hk, itemsWith_concat_other hk,
          (ih k).1]
        refine ⟨rfl, ?_⟩
        -- what is committed has the other key
        have hnil : (if clear = true then (run key events).pending k' else []).filter
            (fun item ↦ key item = k) = [] := by
          refine List.filter_eq_nil_iff.mpr fun item hitem ↦ ?_
          rw [decide_eq_true_eq]
          split at hitem
          · rw [(ih k').1] at hitem
            exact fun h ↦ hk ((key_of_mem_itemsWith hitem).symm.trans h)
          · exact absurd hitem List.not_mem_nil
        rw [hnil, List.append_nil]

end DriftGuardX.Staging
