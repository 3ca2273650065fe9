import DriftGuardX.Json.Value

/-!
# The round trip between values and documents

Decoding a document and encoding the result again with sorted keys returns the document exactly
when its objects were in increasing key order to begin with. One direction is
`toDoc_ofDoc_of_sortedKeys`; the other holds because whatever the encoder makes of a decoded value
is sorted (`exists_toDoc_ofDoc`), its keys being strings and pairwise distinct.

`Val.Stable` is the condition on the value in memory: the document written for it is sorted. String
keys are always stable, and stability passes from the values of a string-keyed dictionary to the
dictionary itself, so only the parts of a record that a caller supplies ever need checking.
-/

namespace DriftGuardX.Json

variable {F : Type}

/-! ## Dictionaries -/

section Dict

variable {α : Type}

theorem map_fst_setItem (kvs : List (String × α)) (k : String) (a : α) :
    (setItem kvs k a).map Prod.fst
      = if k ∈ kvs.map Prod.fst then kvs.map Prod.fst else kvs.map Prod.fst ++ [k] := by
  rw [setItem]
  split
  · rw [List.map_map]
    refine List.map_congr_left fun m _ ↦ ?_
    by_cases hm : m.1 = k
    · simp [hm]
    · simp [hm]
  · simp

theorem mem_of_mem_setItem {kvs : List (String × α)} {k : String} {a : α} {m : String × α}
    (h : m ∈ setItem kvs k a) : m ∈ kvs ∨ m = (k, a) := by
  rw [setItem] at h
  split at h
  · obtain ⟨n, hn, rfl⟩ := List.mem_map.mp h
    by_cases hk : n.1 = k
    · exact Or.inr (by simp [hk])
    · exact Or.inl (by simpa [hk] using hn)
  · simpa using h

theorem nodup_keys_foldl_setItem (ms : List (String × α)) :
    ∀ kvs : List (String × α), (kvs.map Prod.fst).Nodup →
      ((ms.foldl (fun kvs m ↦ setItem kvs m.1 m.2) kvs).map Prod.fst).Nodup := by
  induction ms with
  | nil => exact fun kvs h ↦ h
  | cons m ms ih =>
    intro kvs h
    rw [List.foldl_cons]
    refine ih _ ?_
    rw [map_fst_setItem]
    split
    · exact h
    · exact h.append (List.nodup_singleton _) (by simpa using ‹m.1 ∉ kvs.map Prod.fst›)

theorem nodup_keys_dictOf (ms : List (String × α)) : ((dictOf ms).map Prod.fst).Nodup :=
  nodup_keys_foldl_setItem ms [] List.nodup_nil

theorem mem_of_mem_foldl_setItem (ms : List (String × α)) :
    ∀ kvs : List (String × α), ∀ m ∈ ms.foldl (fun kvs m ↦ setItem kvs m.1 m.2) kvs,
      m ∈ kvs ∨ m ∈ ms := by
  induction ms with
  | nil => exact fun kvs m h ↦ Or.inl h
  | cons n ms ih =>
    intro kvs m h
    rw [List.foldl_cons] at h
    rcases ih _ m h with h' | h'
    · rcases mem_of_mem_setItem h' with h'' | rfl
      · exact Or.inl h''
      · exact Or.inr List.mem_cons_self
    · exact Or.inr (List.mem_cons_of_mem n h')

theorem mem_of_mem_dictOf {ms : List (String × α)} {m : String × α} (h : m ∈ dictOf ms) :
    m ∈ ms :=
  (mem_of_mem_foldl_setItem ms [] m h).resolve_left (by simp)

theorem foldl_setItem_eq_append (ms : List (String × α)) :
    ∀ kvs : List (String × α), ((kvs ++ ms).map Prod.fst).Nodup →
      ms.foldl (fun kvs m ↦ setItem kvs m.1 m.2) kvs = kvs ++ ms := by
  induction ms with
  | nil => exact fun kvs _ ↦ by simp
  | cons m ms ih =>
    intro kvs h
    have hm : m.1 ∉ kvs.map Prod.fst := by
      rw [List.map_append, List.nodup_append] at h
      exact fun hc ↦ h.2.2 m.1 hc m.1 (by simp) rfl
    rw [List.foldl_cons, setItem, if_neg hm, ih _ (by simpa using h)]
    simp

theorem dictOf_eq_self {ms : List (String × α)} (h : (ms.map Prod.fst).Nodup) : dictOf ms = ms := by
  rw [dictOf, foldl_setItem_eq_append ms [] (by simpa using h), List.nil_append]

end Dict

/-! ## String-keyed dictionaries -/

section Objects

variable [FloatText F]

theorem keyTexts_str {α : Type} (ms : List (String × α)) :
    keyTexts (ms.map fun m ↦ ((.str m.1 : Key F), m.2)) = some ms := by
  induction ms with
  | nil => rfl
  | cons m ms ih => simp [keyTexts, Key.text, ih]

theorem arrange_false_str {α : Type} (ms : List (String × α)) :
    arrange false (ms.map fun m ↦ ((.str m.1 : Key F), m.2)) = some ms := by
  rw [arrange, if_neg (by simp), keyTexts_str]

theorem arrange_true_str {α : Type} (ms : List (String × α)) :
    arrange true (ms.map fun m ↦ ((.str m.1 : Key F), m.2))
      = some (ms.insertionSort fun a b ↦ a.1 ≤ b.1) := by
  have hall : ((ms.map fun m ↦ ((.str m.1 : Key F), m.2)).all fun m ↦ m.1.isStr) = true := by
    rw [List.all_eq_true]
    rintro _ h
    obtain ⟨m, -, rfl⟩ := List.mem_map.mp h
    rfl
  rw [arrange, if_pos rfl, sortKeys, if_pos (Or.inr (Or.inl hall)), Option.bind_some,
    ← List.map_insertionSort (fun a b : String × α ↦ a.1 ≤ b.1), keyTexts_str]
  intro a _ b _
  simp [Key.le]

/-- The documents of the values of a string-keyed dictionary. -/
def objDocs (sort : Bool) : List (String × Val F) → Option (List (String × Doc F))
  | [] => some []
  | (k, v) :: kvs => (toDoc sort v).bind fun d ↦ (objDocs sort kvs).map ((k, d) :: ·)

theorem toMembers_str (sort : Bool) (kvs : List (String × Val F)) :
    toMembers sort (kvs.map fun m ↦ (.str m.1, m.2))
      = (objDocs sort kvs).map (List.map fun m ↦ (.str m.1, m.2)) := by
  induction kvs with
  | nil => simp [toMembers, objDocs]
  | cons m kvs ih =>
    obtain ⟨k, v⟩ := m
    rw [List.map_cons, toMembers, ih, objDocs]
    cases toDoc sort v with
    | none => rfl
    | some d => cases objDocs sort kvs <;> rfl

theorem toDoc_true_object (kvs : List (String × Val F)) :
    toDoc true (.object kvs)
      = (objDocs true kvs).map fun ms ↦ .obj (ms.insertionSort fun a b ↦ a.1 ≤ b.1) := by
  rw [Val.object, toDoc, toMembers_str]
  cases objDocs true kvs with
  | none => rfl
  | some ms => rw [Option.map_some, Option.bind_some, arrange_true_str]; rfl

theorem toDoc_false_object (kvs : List (String × Val F)) :
    toDoc false (.object kvs) = (objDocs false kvs).map .obj := by
  rw [Val.object, toDoc, toMembers_str]
  cases objDocs false kvs with
  | none => rfl
  | some ms => rw [Option.map_some, Option.bind_some, arrange_false_str]

theorem objDocs_eq_some_iff {sort : Bool} {kvs : List (String × Val F)}
    {ms : List (String × Doc F)} :
    objDocs sort kvs = some ms ↔
      List.Forall₂ (fun m n ↦ n.1 = m.1 ∧ toDoc sort m.2 = some n.2) kvs ms := by
  induction kvs generalizing ms with
  | nil => simp [objDocs, eq_comm]
  | cons m kvs ih =>
    obtain ⟨k, v⟩ := m
    simp only [objDocs, Option.bind_eq_some_iff, Option.map_eq_some_iff, List.forall₂_cons_left_iff]
    constructor
    · rintro ⟨d, hd, ns, hns, rfl⟩
      exact ⟨(k, d), ns, ⟨rfl, hd⟩, ih.mp hns, rfl⟩
    · rintro ⟨⟨k', d⟩, ns, ⟨rfl, hd⟩, hns, rfl⟩
      exact ⟨d, hd, ns, ih.mpr hns, rfl⟩

theorem map_fst_of_objDocs {sort : Bool} {kvs : List (String × Val F)}
    {ms : List (String × Doc F)} (h : objDocs sort kvs = some ms) :
    ms.map Prod.fst = kvs.map Prod.fst := by
  have h2 := objDocs_eq_some_iff.mp h
  clear h
  induction h2 with
  | nil => rfl
  | cons hm _ ih => rw [List.map_cons, List.map_cons, ih, hm.1]

theorem exists_of_mem_objDocs {sort : Bool} {kvs : List (String × Val F)}
    {ms : List (String × Doc F)} (h : objDocs sort kvs = some ms) {n : String × Doc F}
    (hn : n ∈ ms) : ∃ v, (n.1, v) ∈ kvs ∧ toDoc sort v = some n.2 := by
  have h2 := objDocs_eq_some_iff.mp h
  clear h
  induction h2 with
  | nil => simp at hn
  | cons hm _ ih =>
    rcases List.mem_cons.mp hn with rfl | hn'
    · exact ⟨_, by rw [hm.1]; exact List.mem_cons_self, hm.2⟩
    · obtain ⟨v, hv, hd⟩ := ih hn'
      exact ⟨v, List.mem_cons_of_mem _ hv, hd⟩

theorem objDocs_isSome {sort : Bool} {kvs : List (String × Val F)}
    (h : ∀ m ∈ kvs, ∃ d, toDoc sort m.2 = some d) : ∃ ms, objDocs sort kvs = some ms := by
  induction kvs with
  | nil => exact ⟨[], rfl⟩
  | cons m kvs ih =>
    obtain ⟨d, hd⟩ := h m List.mem_cons_self
    obtain ⟨ms, hms⟩ := ih fun n hn ↦ h n (List.mem_cons_of_mem m hn)
    exact ⟨(m.1, d) :: ms, by rw [objDocs, hd, hms]; rfl⟩

theorem toDocs_eq_some_iff {sort : Bool} {xs : List (Val F)} {ds : List (Doc F)} :
    toDocs sort xs = some ds ↔ List.Forall₂ (fun v d ↦ toDoc sort v = some d) xs ds := by
  induction xs generalizing ds with
  | nil => simp [toDocs, eq_comm]
  | cons v xs ih =>
    simp only [toDocs, Option.bind_eq_some_iff, Option.map_eq_some_iff,
      List.forall₂_cons_left_iff]
    constructor
    · rintro ⟨d, hd, ns, hns, rfl⟩
      exact ⟨d, ns, hd, ih.mp hns, rfl⟩
    · rintro ⟨d, ns, hd, hns, rfl⟩
      exact ⟨d, hd, ns, ih.mpr hns, rfl⟩

theorem toDoc_strs (sort : Bool) (xs : List String) :
    toDoc sort (.list (xs.map fun s ↦ (.str s : Val F)))
      = some (.arr (xs.map fun s ↦ .scalar (.str s))) := by
  have hdocs : toDocs sort (xs.map fun s ↦ (.str s : Val F))
      = some (xs.map fun s ↦ .scalar (.str s)) := by
    rw [toDocs_eq_some_iff, List.forall₂_map_left_iff, List.forall₂_map_right_iff,
      List.forall₂_same]
    exact fun s _ ↦ by rw [toDoc]
  rw [toDoc, hdocs, Option.map_some]

theorem toDoc_str_inj {s t : String} :
    toDoc true (.str s : Val F) = toDoc true (.str t) ↔ s = t := by
  rw [toDoc, toDoc]
  simp

theorem toDoc_strs_inj {xs ys : List String} :
    toDoc true (.list (xs.map fun s ↦ (.str s : Val F)))
      = toDoc true (.list (ys.map fun s ↦ .str s)) ↔ xs = ys := by
  have hinjective : Function.Injective fun s : String ↦ (Doc.scalar (.str s) : Doc F) := by
    intro s t h
    simpa using h
  rw [toDoc_strs, toDoc_strs, Option.some_inj, Doc.arr.injEq]
  exact (List.map_injective_iff.mpr hinjective).eq_iff

/-! ## Stability -/

/-- The document written for a value is sorted: in every dictionary of it, the order of the keys
in memory is the order of the strings they become. -/
def Val.Stable (v : Val F) : Prop := ∀ d, toDoc true v = some d → d.SortedKeys

theorem pairwise_lt_keys_insertionSort {α : Type} {ms : List (String × α)}
    (h : (ms.map Prod.fst).Nodup) :
    ((ms.insertionSort fun a b ↦ a.1 ≤ b.1).map Prod.fst).Pairwise (· < ·) := by
  have hperm := (List.perm_insertionSort (fun a b : String × α ↦ a.1 ≤ b.1) ms).map Prod.fst
  have hle : ((ms.insertionSort fun a b ↦ a.1 ≤ b.1).map Prod.fst).Pairwise (· ≤ ·) := by
    rw [List.pairwise_map]
    exact List.pairwise_insertionSort (fun a b : String × α ↦ a.1 ≤ b.1) ms
  have hnd : ((ms.insertionSort fun a b ↦ a.1 ≤ b.1).map Prod.fst).Nodup := hperm.nodup_iff.mpr h
  exact (hle.and hnd).imp fun hab ↦ lt_of_le_of_ne hab.1 hab.2

theorem stable_object {kvs : List (String × Val F)} (hnd : (kvs.map Prod.fst).Nodup)
    (h : ∀ m ∈ kvs, m.2.Stable) : (Val.object kvs).Stable := by
  intro d hd
  rw [toDoc_true_object, Option.map_eq_some_iff] at hd
  obtain ⟨ms, hms, rfl⟩ := hd
  refine .obj (pairwise_lt_keys_insertionSort (by rwa [map_fst_of_objDocs hms])) fun n hn ↦ ?_
  obtain ⟨v, hv, hvd⟩ := exists_of_mem_objDocs hms
    ((List.perm_insertionSort (fun a b : String × Doc F ↦ a.1 ≤ b.1) ms).mem_iff.mp hn)
  exact h _ hv _ hvd

theorem stable_singleton {key : String} {v : Val F} (h : v.Stable) :
    (Val.object [(key, v)]).Stable := by
  refine stable_object (by simp) fun m hm ↦ ?_
  rwa [List.mem_singleton.mp hm]

theorem stable_scalar (a : Scalar F) : (Val.scalar a).Stable := by
  intro d hd
  rw [toDoc, Option.some_inj] at hd
  exact hd ▸ .scalar a

theorem stable_list {xs : List (Val F)} (h : ∀ v ∈ xs, v.Stable) : (Val.list xs).Stable := by
  intro d hd
  rw [toDoc, Option.map_eq_some_iff] at hd
  obtain ⟨ds, hds, rfl⟩ := hd
  have h2 := toDocs_eq_some_iff.mp hds
  refine .arr fun d' hd' ↦ ?_
  clear hds
  induction h2 with
  | nil => simp at hd'
  | cons hv _ ih =>
    rcases List.mem_cons.mp hd' with rfl | hd''
    · exact h _ List.mem_cons_self _ hv
    · exact ih (fun v hv ↦ h v (List.mem_cons_of_mem _ hv)) hd''

/-! ## The round trip -/

theorem objDocs_ofDoc {ms : List (String × Doc F)}
    (h : ∀ m ∈ ms, toDoc true (ofDoc m.2) = some m.2) :
    objDocs true (ms.map fun m ↦ (m.1, ofDoc m.2)) = some ms := by
  induction ms with
  | nil => rfl
  | cons m ms ih =>
    rw [List.map_cons, objDocs, h m List.mem_cons_self,
      ih fun n hn ↦ h n (List.mem_cons_of_mem m hn)]
    rfl

theorem toDoc_ofDoc_of_sortedKeys {d : Doc F} (h : d.SortedKeys) :
    toDoc true (ofDoc d) = some d := by
  induction h with
  | scalar a => rw [ofDoc, toDoc]
  | @arr ds h ih =>
    rw [ofDoc, ofDocs_eq_map, toDoc, toDocs_eq_some_iff.mpr, Option.map_some]
    rw [List.forall₂_map_left_iff, List.forall₂_same]
    exact ih
  | @obj ms hs h ih =>
    have hnd : ((ms.map fun m ↦ (m.1, ofDoc m.2)).map Prod.fst).Nodup := by
      rw [List.map_map]
      exact hs.imp ne_of_lt
    have hsorted : ms.Pairwise fun a b ↦ a.1 ≤ b.1 :=
      (List.pairwise_map.mp hs).imp le_of_lt
    rw [ofDoc, ofMembers_eq_map, dictOf_eq_self hnd, toDoc_true_object, objDocs_ofDoc ih,
      Option.map_some, hsorted.insertionSort_eq]

theorem exists_toDoc_ofDoc (d : Doc F) : ∃ d', toDoc true (ofDoc d) = some d' ∧ d'.SortedKeys := by
  suffices h : (∃ d', toDoc true (ofDoc d) = some d') ∧ (ofDoc d).Stable by
    obtain ⟨⟨d', hd'⟩, hs⟩ := h
    exact ⟨d', hd', hs d' hd'⟩
  induction d using Doc.induct with
  | scalar a => exact ⟨⟨_, by rw [ofDoc, toDoc]⟩, by rw [ofDoc]; exact stable_scalar a⟩
  | arr ds ih =>
    rw [ofDoc, ofDocs_eq_map]
    refine ⟨?_, stable_list ?_⟩
    · have hex : ∃ ds', toDocs true (ds.map ofDoc) = some ds' := by
        induction ds with
        | nil => exact ⟨[], rfl⟩
        | cons e es ihe =>
          obtain ⟨e', he'⟩ := (ih e List.mem_cons_self).1
          obtain ⟨es', hes'⟩ := ihe fun x hx ↦ ih x (List.mem_cons_of_mem e hx)
          exact ⟨e' :: es', by rw [List.map_cons, toDocs, he', hes']; rfl⟩
      obtain ⟨ds', hds'⟩ := hex
      exact ⟨.arr ds', by rw [toDoc, hds']; rfl⟩
    · intro v hv
      obtain ⟨e, he, rfl⟩ := List.mem_map.mp hv
      exact (ih e he).2
  | obj ms ih =>
    have hval : ∀ m ∈ dictOf (ms.map fun m ↦ (m.1, ofDoc m.2)),
        (∃ d', toDoc true m.2 = some d') ∧ m.2.Stable := by
      intro m hm
      obtain ⟨n, hn, rfl⟩ := List.mem_map.mp (mem_of_mem_dictOf hm)
      exact ih n hn
    rw [ofDoc, ofMembers_eq_map]
    refine ⟨?_, stable_object (nodup_keys_dictOf _) fun m hm ↦ (hval m hm).2⟩
    obtain ⟨ms', hms'⟩ := objDocs_isSome fun m hm ↦ (hval m hm).1
    exact ⟨_, by rw [toDoc_true_object, hms']; rfl⟩

/-- **The round trip is exact precisely on sorted documents.** -/
theorem toDoc_ofDoc_eq_self_iff (d : Doc F) : toDoc true (ofDoc d) = some d ↔ d.SortedKeys := by
  refine ⟨fun h ↦ ?_, toDoc_ofDoc_of_sortedKeys⟩
  obtain ⟨d', hd', hs⟩ := exists_toDoc_ofDoc d
  rw [h, Option.some_inj] at hd'
  exact hd' ▸ hs

end Objects

end DriftGuardX.Json
