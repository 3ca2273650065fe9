import DriftGuardX.Json.Text
import Mathlib.Data.List.Forall2

/-!
# One value, two encodings

Two writers may encode one value with and without sorted keys. What they write decodes to
dictionaries with the same members in another order, provided no dictionary has a key twice, so the
two decoded values have the same canonical document (`exists_loads_dumps_false`).

Distinct keys can become equal strings only when numbers and strings are mixed, and a sort refuses
such a dictionary: among keys that can be sorted together, distinct keys have distinct texts
(`text_injOn_of_sortKeys`). Two values that are written as one document are equal if all their keys
are strings (`equal_of_toDoc`); the keys `1` and `"1"` are written the same.
-/

namespace DriftGuardX.Json

variable {F : Type}

/-- No dictionary of the value has a key twice. -/
inductive Val.DistinctKeys : Val F → Prop
  | scalar (a : Scalar F) : DistinctKeys (.scalar a)
  | list {xs : List (Val F)} (h : ∀ v ∈ xs, DistinctKeys v) : DistinctKeys (.list xs)
  | dict {kvs : List (Key F × Val F)} (hnd : (kvs.map Prod.fst).Nodup)
      (h : ∀ m ∈ kvs, DistinctKeys m.2) : DistinctKeys (.dict kvs)
  | other (tag : String) : DistinctKeys (.other tag)

theorem distinctKeys_object {kvs : List (String × Val F)} (hnd : (kvs.map Prod.fst).Nodup)
    (h : ∀ m ∈ kvs, m.2.DistinctKeys) : (Val.object kvs).DistinctKeys := by
  refine .dict ?_ fun m hm ↦ ?_
  · have hkeys : (kvs.map fun m ↦ ((.str m.1 : Key F), m.2)).map Prod.fst
        = (kvs.map Prod.fst).map Key.str := by
      rw [List.map_map, List.map_map]
      rfl
    rw [hkeys]
    exact hnd.map fun _ _ h ↦ Key.str.inj h
  · obtain ⟨n, hn, rfl⟩ := List.mem_map.mp hm
    exact h n hn

theorem distinctKeys_singleton {key : String} {v : Val F} (h : v.DistinctKeys) :
    (Val.object [(key, v)]).DistinctKeys := by
  refine distinctKeys_object (by simp) fun m hm ↦ ?_
  rwa [List.mem_singleton.mp hm]

theorem distinctKeys_record {kvs : List (String × Scalar F)} (hnd : (kvs.map Prod.fst).Nodup) :
    (Val.record kvs).DistinctKeys := by
  refine distinctKeys_object ?_ fun m hm ↦ ?_
  · simpa only [List.map_map, Function.comp_def] using hnd
  · obtain ⟨n, -, rfl⟩ := List.mem_map.mp hm
    exact .scalar n.2

theorem exists_mem_of_forall₂ {α β : Type} {R : α → β → Prop} {xs : List α} {ys : List β}
    (h : List.Forall₂ R xs ys) {x : α} (hx : x ∈ xs) : ∃ y ∈ ys, R x y := by
  induction h with
  | nil => exact absurd hx List.not_mem_nil
  | cons hxy _ ih =>
    rcases List.mem_cons.mp hx with rfl | hx
    · exact ⟨_, List.mem_cons_self, hxy⟩
    · obtain ⟨y, hy, hR⟩ := ih hx
      exact ⟨y, List.mem_cons_of_mem _ hy, hR⟩

variable [FloatText F]

theorem exists_toDoc_of_mem {kvs : List (String × Val F)} {d : Doc F}
    (h : toDoc true (.object kvs) = some d) {m : String × Val F} (hm : m ∈ kvs) :
    ∃ d', toDoc true m.2 = some d' := by
  rw [toDoc_true_object, Option.map_eq_some_iff] at h
  obtain ⟨ms, hms, -⟩ := h
  obtain ⟨n, -, -, hn⟩ := exists_mem_of_forall₂ (objDocs_eq_some_iff.mp hms) hm
  exact ⟨n.2, hn⟩

theorem exists_toDoc_object_iff {kvs : List (String × Val F)} :
    (∃ d, toDoc true (.object kvs) = some d) ↔ ∀ m ∈ kvs, ∃ d, toDoc true m.2 = some d := by
  constructor
  · rintro ⟨d, hd⟩ m hm
    exact exists_toDoc_of_mem hd hm
  · intro h
    obtain ⟨ms, hms⟩ := objDocs_isSome h
    exact ⟨_, by rw [toDoc_true_object, hms, Option.map_some]⟩

theorem toDoc_object_congr {kvs lvs : List (String × Val F)}
    (h : List.Forall₂ (fun m n ↦ m.1 = n.1 ∧ toDoc true m.2 = toDoc true n.2) kvs lvs) :
    toDoc true (.object kvs) = toDoc true (.object lvs) := by
  have hdocs : objDocs true kvs = objDocs true lvs := by
    induction h with
    | nil => rfl
    | cons hm _ ih => rw [objDocs, objDocs, hm.1, hm.2, ih]
  rw [toDoc_true_object, toDoc_true_object, hdocs]

theorem exists_perm_of_toDoc_object {kvs lvs : List (String × Val F)} {d : Doc F}
    (h : toDoc true (.object kvs) = some d) (h' : toDoc true (.object lvs) = some d) :
    ∃ ms ns, objDocs true kvs = some ms ∧ objDocs true lvs = some ns ∧ ms.Perm ns := by
  rw [toDoc_true_object, Option.map_eq_some_iff] at h h'
  obtain ⟨ms, hms, rfl⟩ := h
  obtain ⟨ns, hns, hsorted⟩ := h'
  refine ⟨ms, ns, hms, hns, ?_⟩
  refine (List.perm_insertionSort (fun a b : String × Doc F ↦ a.1 ≤ b.1) ms).symm.trans ?_
  rw [← Doc.obj.inj hsorted]
  exact List.perm_insertionSort _ ns

theorem toDoc_eq_of_object {kvs lvs : List (String × Val F)} (hnd : (kvs.map Prod.fst).Nodup)
    {d : Doc F} (h : toDoc true (.object kvs) = some d) (h' : toDoc true (.object lvs) = some d)
    {m n : String × Val F} (hm : m ∈ kvs) (hn : n ∈ lvs) (hkey : m.1 = n.1) :
    toDoc true m.2 = toDoc true n.2 := by
  obtain ⟨ms, ns, hms, hns, hperm⟩ := exists_perm_of_toDoc_object h h'
  obtain ⟨m', hm', hname, hdoc⟩ := exists_mem_of_forall₂ (objDocs_eq_some_iff.mp hms) hm
  obtain ⟨n', hn', hname', hdoc'⟩ := exists_mem_of_forall₂ (objDocs_eq_some_iff.mp hns) hn
  have hnd' : (ms.map Prod.fst).Nodup := map_fst_of_objDocs hms ▸ hnd
  have heq : m' = n' := List.inj_on_of_nodup_map hnd' hm' (hperm.mem_iff.mpr hn')
    (hname.trans (hkey.trans hname'.symm))
  rw [hdoc, hdoc', heq]

theorem forall₂_of_toDoc_object {kvs lvs : List (String × Val F)}
    (hkeys : kvs.map Prod.fst = lvs.map Prod.fst) (hnd : (kvs.map Prod.fst).Nodup) {d : Doc F}
    (h : toDoc true (.object kvs) = some d) (h' : toDoc true (.object lvs) = some d) :
    List.Forall₂ (fun m n ↦ m.1 = n.1 ∧ toDoc true m.2 = toDoc true n.2) kvs lvs := by
  rw [List.forall₂_iff_get]
  refine ⟨by simpa using congrArg List.length hkeys, fun i hi hi' ↦ ?_⟩
  have hkey : (kvs.get ⟨i, hi⟩).1 = (lvs.get ⟨i, hi'⟩).1 := by
    have hat := congrArg (·[i]?) hkeys
    simpa [hi, hi'] using hat
  exact ⟨hkey, toDoc_eq_of_object hnd h h' (List.get_mem _ _) (List.get_mem _ _) hkey⟩

/-! ## Equal values -/

/-- Equality of values, whatever the order in which dictionaries list their members. -/
inductive Val.Equal : Val F → Val F → Prop
  | scalar (a : Scalar F) : Equal (.scalar a) (.scalar a)
  | list {xs ys : List (Val F)} (hlength : xs.length = ys.length)
      (h : ∀ (i : ℕ) (v w : Val F), xs[i]? = some v → ys[i]? = some w → Equal v w) :
      Equal (.list xs) (.list ys)
  | dict {kvs lvs : List (Key F × Val F)}
      (hkeys : ∀ k, k ∈ kvs.map Prod.fst ↔ k ∈ lvs.map Prod.fst)
      (h : ∀ m ∈ kvs, ∀ n ∈ lvs, m.1 = n.1 → Equal m.2 n.2) : Equal (.dict kvs) (.dict lvs)
  | other (tag : String) : Equal (.other tag) (.other tag)

/-- All keys of the value are strings, and no dictionary has a key twice. -/
inductive Val.StringKeyed : Val F → Prop
  | scalar (a : Scalar F) : StringKeyed (.scalar a)
  | list {xs : List (Val F)} (h : ∀ v ∈ xs, StringKeyed v) : StringKeyed (.list xs)
  | object {kvs : List (String × Val F)} (hnd : (kvs.map Prod.fst).Nodup)
      (h : ∀ m ∈ kvs, StringKeyed m.2) : StringKeyed (.object kvs)

omit [FloatText F] in
theorem equal_scalar_iff {a b : Scalar F} : (Val.scalar a).Equal (.scalar b) ↔ a = b := by
  constructor
  · rintro (_ | _ | _ | _)
    rfl
  · rintro rfl
    exact .scalar a

omit [FloatText F] in
theorem equal_list_length {xs ys : List (Val F)} (h : (Val.list xs).Equal (.list ys)) :
    xs.length = ys.length := by
  rcases h with _ | ⟨hlength, -⟩ | _ | _
  exact hlength

omit [FloatText F] in
theorem equal_of_mem_object {kvs lvs : List (String × Val F)}
    (h : (Val.object kvs).Equal (.object lvs)) (key : String) {v w : Val F} (hv : (key, v) ∈ kvs)
    (hw : (key, w) ∈ lvs) : v.Equal w := by
  rw [Val.object, Val.object] at h
  rcases h with _ | _ | ⟨-, hmembers⟩ | _
  exact hmembers (.str key, v) (List.mem_map.mpr ⟨_, hv, rfl⟩) (.str key, w)
    (List.mem_map.mpr ⟨_, hw, rfl⟩) rfl

omit [FloatText F] in
theorem equal_dict_iff {kvs lvs : List (Key F × Val F)} : (Val.dict kvs).Equal (.dict lvs) ↔
    (∀ k, k ∈ kvs.map Prod.fst ↔ k ∈ lvs.map Prod.fst) ∧
      ∀ m ∈ kvs, ∀ n ∈ lvs, m.1 = n.1 → m.2.Equal n.2 := by
  constructor
  · rintro (_ | _ | ⟨hkeys, h⟩ | _)
    exact ⟨hkeys, h⟩
  · exact fun h ↦ .dict h.1 h.2

omit [FloatText F] in
theorem equal_object {kvs lvs : List (String × Val F)}
    (hkeys : (kvs.map Prod.fst).Perm (lvs.map Prod.fst))
    (h : ∀ m ∈ kvs, ∀ n ∈ lvs, m.1 = n.1 → m.2.Equal n.2) :
    (Val.object kvs).Equal (.object lvs) := by
  refine .dict (fun k ↦ ?_) fun m hm n hn hkey ↦ ?_
  · have hmem : ∀ ls : List (String × Val F),
        k ∈ (ls.map fun m ↦ ((.str m.1 : Key F), m.2)).map Prod.fst ↔
          ∃ s ∈ ls.map Prod.fst, .str s = k := fun ls ↦ by simp
    rw [hmem, hmem]
    exact exists_congr fun s ↦ and_congr_left' hkeys.mem_iff
  · obtain ⟨m', hm', rfl⟩ := List.mem_map.mp hm
    obtain ⟨n', hn', rfl⟩ := List.mem_map.mp hn
    exact h m' hm' n' hn' (Key.str.inj hkey)

theorem toDoc_list_eq_some_iff {xs : List (Val F)} {d : Doc F} :
    toDoc true (.list xs) = some d ↔
      ∃ ds, d = .arr ds ∧ List.Forall₂ (fun v d ↦ toDoc true v = some d) xs ds := by
  rw [toDoc, Option.map_eq_some_iff]
  simp only [toDocs_eq_some_iff]
  exact exists_congr fun ds ↦ and_comm.trans (and_congr_left' eq_comm)

theorem exists_toDoc_list {xs : List (Val F)} (h : ∀ v ∈ xs, ∃ d, toDoc true v = some d) :
    ∃ d, toDoc true (.list xs) = some d := by
  have : Nonempty (Doc F) := ⟨.scalar .null⟩
  choose! doc hdoc using h
  refine ⟨_, toDoc_list_eq_some_iff.mpr ⟨xs.map doc, rfl, ?_⟩⟩
  rw [List.forall₂_map_right_iff, List.forall₂_same]
  exact hdoc

theorem exists_obj_of_toDoc_object {kvs : List (String × Val F)} {d : Doc F}
    (h : toDoc true (.object kvs) = some d) : ∃ ms, d = .obj ms := by
  rw [toDoc_true_object, Option.map_eq_some_iff] at h
  obtain ⟨ms, -, rfl⟩ := h
  exact ⟨_, rfl⟩

theorem equal_of_toDoc {v : Val F} (hv : v.StringKeyed) : ∀ {w : Val F}, w.StringKeyed →
    ∀ {d : Doc F}, toDoc true v = some d → toDoc true w = some d → v.Equal w := by
  induction hv with
  | scalar a =>
    rintro w (b | _ | _) d h h'
    · rw [toDoc] at h h'
      obtain rfl := Doc.scalar.inj (Option.some_inj.mp (h'.trans h.symm))
      exact .scalar b
    · obtain ⟨ds, rfl, -⟩ := toDoc_list_eq_some_iff.mp h'
      simp [toDoc] at h
    · obtain ⟨ms, rfl⟩ := exists_obj_of_toDoc_object h'
      simp [toDoc] at h
  | @list xs _ ih =>
    intro w hw d h h'
    obtain ⟨ds, rfl, hds⟩ := toDoc_list_eq_some_iff.mp h
    cases hw with
    | scalar b => simp [toDoc] at h'
    | @list ys hys =>
      obtain ⟨es, hes, hys'⟩ := toDoc_list_eq_some_iff.mp h'
      obtain rfl := Doc.arr.inj hes
      refine .list (hds.length_eq.trans hys'.length_eq.symm) fun i x y hx hy ↦ ?_
      obtain ⟨hi, rfl⟩ := List.getElem?_eq_some_iff.mp hx
      obtain ⟨hi', rfl⟩ := List.getElem?_eq_some_iff.mp hy
      have hi'' : i < ds.length := hds.length_eq ▸ hi
      exact ih _ (List.getElem_mem hi) (hys _ (List.getElem_mem hi'))
        (hds.get hi hi'') (hys'.get hi' hi'')
    | object _ _ =>
      obtain ⟨ms, heq⟩ := exists_obj_of_toDoc_object h'
      exact absurd heq (by simp)
  | @object kvs hnd _ ih =>
    intro w hw d h h'
    obtain ⟨ms, hms⟩ := exists_obj_of_toDoc_object h
    cases hw with
    | scalar b => simp [toDoc, hms] at h'
    | list _ =>
      obtain ⟨ds, heq, -⟩ := toDoc_list_eq_some_iff.mp h'
      exact absurd (hms.symm.trans heq) (by simp)
    | @object lvs hnd' hlvs =>
      obtain ⟨es, ns, hes, hns, hperm⟩ := exists_perm_of_toDoc_object h h'
      have hkeys : (kvs.map Prod.fst).Perm (lvs.map Prod.fst) := by
        rw [← map_fst_of_objDocs hes, ← map_fst_of_objDocs hns]
        exact hperm.map Prod.fst
      refine equal_object hkeys fun m hm n hn hkey ↦ ?_
      have hdoc := toDoc_eq_of_object hnd h h' hm hn hkey
      obtain ⟨e, he⟩ := exists_toDoc_of_mem h hm
      exact ih m hm (hlvs n hn) he (hdoc ▸ he)

/-! ## Key texts -/

theorem exists_reserved_of_bool (b : Bool) :
    ∃ w ∈ reserved, (Key.bool b : Key F).text = some (String.ofList w) := by
  cases b
  · exact ⟨['f', 'a', 'l', 's', 'e'], by decide, rfl⟩
  · exact ⟨['t', 'r', 'u', 'e'], by decide, rfl⟩

theorem bool_text_ne_int (b : Bool) (i : ℤ) : (Key.bool b : Key F).text ≠ (Key.int i : Key F).text := by
  obtain ⟨w, hw, hb⟩ := exists_reserved_of_bool (F := F) b
  intro h
  rw [hb, Key.text, Option.some_inj] at h
  exact intText_notMem_reserved i (String.ofList_injective h ▸ hw)

theorem bool_text_ne_float (b : Bool) (f : F) : (Key.bool b : Key F).text ≠ (Key.float f).text := by
  obtain ⟨w, hw, hb⟩ := exists_reserved_of_bool (F := F) b
  intro h
  rw [hb, Key.text, Option.some_inj] at h
  exact FloatText.repr_notMem_reserved f (String.ofList_injective h ▸ hw)

theorem int_text_ne_float (i : ℤ) (f : F) : (Key.int i : Key F).text ≠ (Key.float f).text := by
  intro h
  rw [Key.text, Key.text, Option.some_inj] at h
  have hread := intOfText_intText i
  rw [String.ofList_injective h, FloatText.intOfText_repr] at hread
  exact absurd hread (by simp)

theorem text_injective_of_isNum {k l : Key F} (hk : k.isNum = true) (hl : l.isNum = true)
    (h : k.text = l.text) : k = l := by
  cases k with
  | none | str _ | other _ => exact nomatch hk
  | bool b =>
    cases l with
    | none | str _ | other _ => exact nomatch hl
    | bool c => cases b <;> cases c <;> simp [Key.text] at h ⊢
    | int i => exact absurd h (bool_text_ne_int b i)
    | float f => exact absurd h (bool_text_ne_float b f)
  | int i =>
    cases l with
    | none | str _ | other _ => exact nomatch hl
    | bool c => exact absurd h.symm (bool_text_ne_int c i)
    | int j =>
      rw [Key.text, Key.text, Option.some_inj] at h
      have hread := intOfText_intText i
      rw [String.ofList_injective h, intOfText_intText, Option.some_inj] at hread
      rw [hread]
    -- the text of a float has a point, that of an integer has none
    | float f => exact absurd h (int_text_ne_float i f)
  | float f =>
    cases l with
    | none | str _ | other _ => exact nomatch hl
    | bool c => exact absurd h.symm (bool_text_ne_float c f)
    | int j => exact absurd h.symm (int_text_ne_float j f)
    | float g =>
      rw [Key.text, Key.text, Option.some_inj] at h
      have hread := FloatText.ofText_repr f
      rw [String.ofList_injective h, FloatText.ofText_repr, Option.some_inj] at hread
      rw [hread]

theorem text_injective_of_isStr {k l : Key F} (hk : k.isStr = true) (hl : l.isStr = true)
    (h : k.text = l.text) : k = l := by
  cases k with
  | str s =>
    cases l with
    | str t => exact congrArg Key.str (Option.some.inj h)
    | _ => exact nomatch hl
  | _ => exact nomatch hk

theorem text_injOn_of_sortKeys {α : Type} {kvs : List (Key F × α)}
    (h : (sortKeys kvs).isSome = true) {k l : Key F} (hk : k ∈ kvs.map Prod.fst)
    (hl : l ∈ kvs.map Prod.fst) (htext : k.text = l.text) : k = l := by
  rw [sortKeys] at h
  split at h
  · rename_i hsort
    obtain ⟨a, ha, rfl⟩ := List.mem_map.mp hk
    obtain ⟨b, hb, rfl⟩ := List.mem_map.mp hl
    rcases hsort with hlen | hstr | hnum
    · rcases kvs with _ | ⟨m, _ | ⟨n, kvs⟩⟩
      · simp at ha
      · rw [List.mem_singleton.mp ha, List.mem_singleton.mp hb]
      · simp at hlen
    · rw [List.all_eq_true] at hstr
      exact text_injective_of_isStr (hstr a ha) (hstr b hb) htext
    · rw [List.all_eq_true] at hnum
      exact text_injective_of_isNum (hnum a ha) (hnum b hb) htext
  · exact absurd h (by simp)

theorem keyTexts_eq_some_iff {α : Type} {kvs : List (Key F × α)} {ms : List (String × α)} :
    keyTexts kvs = some ms ↔
      List.Forall₂ (fun m n ↦ m.1.text = some n.1 ∧ n.2 = m.2) kvs ms := by
  induction kvs generalizing ms with
  | nil => simp [keyTexts, eq_comm]
  | cons m kvs ih =>
    obtain ⟨k, a⟩ := m
    simp only [keyTexts, Option.bind_eq_bind, Option.bind_eq_some_iff, Option.pure_def,
      Option.some.injEq, List.forall₂_cons_left_iff]
    constructor
    · rintro ⟨s, hs, ns, hns, rfl⟩
      exact ⟨(s, a), ns, ⟨hs, rfl⟩, ih.mp hns, rfl⟩
    · rintro ⟨⟨s, b⟩, ns, ⟨hs, rfl⟩, hns, rfl⟩
      exact ⟨s, hs, ns, ih.mpr hns, rfl⟩

theorem map_some_fst_of_keyTexts {α : Type} {kvs : List (Key F × α)} {ms : List (String × α)}
    (h : keyTexts kvs = some ms) : (ms.map Prod.fst).map some = (kvs.map Prod.fst).map Key.text := by
  have hrel := keyTexts_eq_some_iff.mp h
  clear h
  induction hrel with
  | nil => rfl
  | cons hm _ ih => simp only [List.map_cons, ih, hm.1]

theorem nodup_keyTexts {α : Type} {kvs : List (Key F × α)} {ms : List (String × α)}
    (hsort : (sortKeys kvs).isSome = true) (hnd : (kvs.map Prod.fst).Nodup)
    (h : keyTexts kvs = some ms) : (ms.map Prod.fst).Nodup := by
  refine List.Nodup.of_map some ?_
  rw [map_some_fst_of_keyTexts h]
  exact hnd.map_on fun k hk l hl ↦ text_injOn_of_sortKeys hsort hk hl

/-! ## The two encodings -/

/-- The canonical document of what a document decodes to. -/
def canon (d : Doc F) : Doc F := (toDoc true (ofDoc d)).getD d

theorem toDoc_ofDoc_eq_canon (d : Doc F) : toDoc true (ofDoc d) = some (canon d) := by
  obtain ⟨d', hd', -⟩ := exists_toDoc_ofDoc d
  rw [canon, hd', Option.getD_some]

theorem canon_arr (ds : List (Doc F)) : canon (.arr ds) = .arr (ds.map canon) := by
  have hdocs : toDocs true (ds.map ofDoc) = some (ds.map canon) := by
    rw [toDocs_eq_some_iff, List.forall₂_map_left_iff, List.forall₂_map_right_iff,
      List.forall₂_same]
    exact fun d _ ↦ toDoc_ofDoc_eq_canon d
  rw [canon, ofDoc, ofDocs_eq_map, toDoc, hdocs, Option.map_some, Option.getD_some]

theorem canon_obj {ms : List (String × Doc F)} (hnd : (ms.map Prod.fst).Nodup) :
    canon (.obj ms)
      = .obj ((ms.map fun m ↦ (m.1, canon m.2)).insertionSort fun a b ↦ a.1 ≤ b.1) := by
  have hkeys : ((ms.map fun m ↦ (m.1, ofDoc m.2)).map Prod.fst).Nodup := by
    rw [List.map_map]
    exact hnd
  have hdocs : objDocs true (ms.map fun m ↦ (m.1, ofDoc m.2))
      = some (ms.map fun m ↦ (m.1, canon m.2)) := by
    rw [objDocs_eq_some_iff, List.forall₂_map_left_iff, List.forall₂_map_right_iff,
      List.forall₂_same]
    exact fun m _ ↦ ⟨rfl, toDoc_ofDoc_eq_canon m.2⟩
  rw [canon, ofDoc, ofMembers_eq_map, dictOf_eq_self hkeys, toDoc_true_object, hdocs,
    Option.map_some, Option.getD_some]

theorem insertionSort_eq_of_perm {α : Type} {ms ns : List (String × α)} (hperm : ms.Perm ns)
    (hnd : (ms.map Prod.fst).Nodup) :
    (ms.insertionSort fun a b ↦ a.1 ≤ b.1) = ns.insertionSort fun a b ↦ a.1 ≤ b.1 := by
  have hms := List.perm_insertionSort (fun a b : String × α ↦ a.1 ≤ b.1) ms
  have hns := List.perm_insertionSort (fun a b : String × α ↦ a.1 ≤ b.1) ns
  refine List.Perm.eq_of_pairwise (fun a b ha hb hab hba ↦ ?_)
    (List.pairwise_insertionSort (fun a b : String × α ↦ a.1 ≤ b.1) ms)
    (List.pairwise_insertionSort (fun a b : String × α ↦ a.1 ≤ b.1) ns)
    (hms.trans (hperm.trans hns.symm))
  exact List.inj_on_of_nodup_map hnd (hms.mem_iff.mp ha)
    (hperm.mem_iff.mpr (hns.mem_iff.mp hb)) (le_antisymm hab hba)

theorem toMembers_eq_some_iff {sort : Bool} {kvs : List (Key F × Val F)}
    {ms : List (Key F × Doc F)} :
    toMembers sort kvs = some ms ↔
      List.Forall₂ (fun m n ↦ n.1 = m.1 ∧ toDoc sort m.2 = some n.2) kvs ms := by
  induction kvs generalizing ms with
  | nil => simp [toMembers, eq_comm]
  | cons m kvs ih =>
    obtain ⟨k, v⟩ := m
    simp only [toMembers, Option.bind_eq_some_iff, Option.map_eq_some_iff,
      List.forall₂_cons_left_iff]
    constructor
    · rintro ⟨d, hd, ns, hns, rfl⟩
      exact ⟨(k, d), ns, ⟨rfl, hd⟩, ih.mp hns, rfl⟩
    · rintro ⟨⟨k', d⟩, ns, ⟨rfl, hd⟩, hns, rfl⟩
      exact ⟨d, hd, ns, ih.mpr hns, rfl⟩

theorem keyTexts_map {α β : Type} (f : α → β) (kvs : List (Key F × α)) :
    keyTexts (kvs.map fun m ↦ (m.1, f m.2))
      = (keyTexts kvs).map fun ms ↦ ms.map fun m ↦ (m.1, f m.2) := by
  induction kvs with
  | nil => rfl
  | cons m kvs ih =>
    obtain ⟨k, a⟩ := m
    simp only [List.map_cons, keyTexts, ih]
    cases k.text with
    | none => rfl
    | some s => cases keyTexts kvs <;> rfl

theorem exists_keyTexts_of_perm {α : Type} {kvs lvs : List (Key F × α)} (hperm : kvs.Perm lvs) :
    ∀ {ms : List (String × α)}, keyTexts kvs = some ms →
      ∃ ns, keyTexts lvs = some ns ∧ ms.Perm ns := by
  induction hperm with
  | nil => exact fun h ↦ ⟨_, h, .refl _⟩
  | cons m _ ih =>
    intro ms h
    rw [keyTexts_eq_some_iff, List.forall₂_cons_left_iff] at h
    obtain ⟨n, ns, hm, hns, rfl⟩ := h
    obtain ⟨ns', hns', hp⟩ := ih (keyTexts_eq_some_iff.mpr hns)
    exact ⟨n :: ns', keyTexts_eq_some_iff.mpr (.cons hm (keyTexts_eq_some_iff.mp hns')), hp.cons n⟩
  | swap m m' l =>
    intro ms h
    rw [keyTexts_eq_some_iff, List.forall₂_cons_left_iff] at h
    obtain ⟨n, ns, hm, hns, rfl⟩ := h
    rw [List.forall₂_cons_left_iff] at hns
    obtain ⟨n', ns', hm', hns', rfl⟩ := hns
    exact ⟨n' :: n :: ns', keyTexts_eq_some_iff.mpr (.cons hm' (.cons hm hns')), .swap n' n ns'⟩
  | trans _ _ ih₁ ih₂ =>
    intro ms h
    obtain ⟨ns, hns, hp⟩ := ih₁ h
    obtain ⟨ns', hns', hp'⟩ := ih₂ hns
    exact ⟨ns', hns', hp.trans hp'⟩

theorem perm_of_sortKeys {α : Type} {kvs lvs : List (Key F × α)} (h : sortKeys kvs = some lvs) :
    lvs.Perm kvs := by
  rw [sortKeys] at h
  split at h
  · exact Option.some.inj h ▸ List.perm_insertionSort _ _
  · exact absurd h (by simp)

theorem map_fst_of_toMembers {sort : Bool} {kvs : List (Key F × Val F)} {ms : List (Key F × Doc F)}
    (h : toMembers sort kvs = some ms) : ms.map Prod.fst = kvs.map Prod.fst := by
  have hrel := toMembers_eq_some_iff.mp h
  clear h
  induction hrel with
  | nil => rfl
  | cons hm _ ih => rw [List.map_cons, List.map_cons, ih, hm.1]

theorem exists_toDocs_false {xs : List (Val F)} {ds : List (Doc F)}
    (h : ∀ v ∈ xs, ∀ {d}, toDoc true v = some d → ∃ e, toDoc false v = some e ∧ canon e = canon d)
    (hds : toDocs true xs = some ds) :
    ∃ es, toDocs false xs = some es ∧ es.map canon = ds.map canon := by
  have hrel := toDocs_eq_some_iff.mp hds
  clear hds
  induction hrel with
  | nil => exact ⟨[], rfl, rfl⟩
  | @cons x d xs ds hx _ ih =>
    obtain ⟨e, he, hce⟩ := h x List.mem_cons_self hx
    obtain ⟨es, hes, hces⟩ := ih fun y hy ↦ h y (List.mem_cons_of_mem x hy)
    refine ⟨e :: es, ?_, by rw [List.map_cons, List.map_cons, hce, hces]⟩
    rw [toDocs, he, hes]
    rfl

/-- What holds of the values of a dictionary, for its members. -/
theorem exists_toMembers_false {kvs : List (Key F × Val F)} {ms : List (Key F × Doc F)}
    (h : ∀ m ∈ kvs, ∀ {d}, toDoc true m.2 = some d →
      ∃ e, toDoc false m.2 = some e ∧ canon e = canon d)
    (hms : toMembers true kvs = some ms) :
    ∃ ns, toMembers false kvs = some ns ∧
      (ns.map fun m ↦ (m.1, canon m.2)) = ms.map fun m ↦ (m.1, canon m.2) := by
  have hrel := toMembers_eq_some_iff.mp hms
  clear hms
  induction hrel with
  | nil => exact ⟨[], rfl, rfl⟩
  | @cons m n kvs ms hm _ ih =>
    obtain ⟨e, he, hce⟩ := h m List.mem_cons_self hm.2
    obtain ⟨ns, hns, hcs⟩ := ih fun y hy ↦ h y (List.mem_cons_of_mem m hy)
    refine ⟨(m.1, e) :: ns, ?_, by rw [List.map_cons, List.map_cons, hcs, hce, hm.1]⟩
    rw [toMembers_eq_some_iff] at hns ⊢
    exact .cons ⟨rfl, he⟩ hns

theorem map_fst_map_canon (ms : List (String × Doc F)) :
    (ms.map fun m ↦ (m.1, canon m.2)).map Prod.fst = ms.map Prod.fst := by
  rw [List.map_map]
  rfl

/-- **A value that can be written with sorted keys can be written without**, and the two texts
decode to the same canonical document. -/
theorem exists_toDoc_false {v : Val F} : v.DistinctKeys → ∀ {d : Doc F}, toDoc true v = some d →
    ∃ e, toDoc false v = some e ∧ canon e = canon d := by
  induction v using Val.induct with
  | scalar a =>
    intro _ d h
    rw [toDoc, Option.some_inj] at h
    exact ⟨.scalar a, by rw [toDoc], by rw [h]⟩
  | other t =>
    intro _ d h
    rw [toDoc] at h
    exact absurd h (by simp)
  | list xs ih =>
    intro hv d h
    rcases hv with _ | hv | _ | _
    rw [toDoc, Option.map_eq_some_iff] at h
    obtain ⟨ds, hds, rfl⟩ := h
    obtain ⟨es, hes, hcanon⟩ := exists_toDocs_false (fun v hmem _ ↦ ih v hmem (hv v hmem)) hds
    refine ⟨.arr es, ?_, by rw [canon_arr, canon_arr, hcanon]⟩
    rw [toDoc, hes, Option.map_some]
  | dict kvs ih =>
    intro hv d h
    rcases hv with _ | _ | ⟨hnd, hv⟩ | _
    rw [toDoc, Option.map_eq_some_iff] at h
    obtain ⟨ms, hms, rfl⟩ := h
    rw [Option.bind_eq_some_iff] at hms
    obtain ⟨mt, hmt, hms⟩ := hms
    rw [arrange, if_pos rfl, Option.bind_eq_some_iff] at hms
    obtain ⟨st, hst, hms⟩ := hms
    obtain ⟨mf, hmf, hcanon⟩ := exists_toMembers_false (fun m hm _ ↦ ih m hm (hv m hm)) hmt
    -- the members of both documents, in the order of the dictionary
    obtain ⟨ts, hts, hpts⟩ := exists_keyTexts_of_perm (perm_of_sortKeys hst) hms
    obtain ⟨ns, hns, hcns⟩ : ∃ ns, keyTexts mf = some ns ∧
        (ns.map fun m ↦ (m.1, canon m.2)) = ts.map fun m ↦ (m.1, canon m.2) := by
      have hmap := keyTexts_map canon mf
      rw [hcanon, keyTexts_map, hts, Option.map_some, eq_comm, Option.map_eq_some_iff] at hmap
      exact hmap
    have hts_nodup : (ts.map Prod.fst).Nodup :=
      nodup_keyTexts (by rw [hst]; rfl) (map_fst_of_toMembers hmt ▸ hnd) hts
    have hms_nodup : (ms.map Prod.fst).Nodup := (hpts.map Prod.fst).nodup_iff.mpr hts_nodup
    have hns_nodup : (ns.map Prod.fst).Nodup := by
      rw [← map_fst_map_canon, hcns, map_fst_map_canon]
      exact hts_nodup
    refine ⟨.obj ns, ?_, ?_⟩
    · rw [toDoc, hmf, Option.bind_some, arrange, if_neg Bool.false_ne_true, hns, Option.map_some]
    · rw [canon_obj hns_nodup, canon_obj hms_nodup, hcns]
      refine congrArg Doc.obj (insertionSort_eq_of_perm (hpts.symm.map _) ?_)
      rw [map_fst_map_canon]
      exact hts_nodup

theorem distinctKeys_of_sortedKeys {v : Val F} : ∀ {d : Doc F}, toDoc true v = some d →
    d.SortedKeys → v.DistinctKeys := by
  induction v using Val.induct with
  | scalar a => exact fun _ _ ↦ .scalar a
  | other t => exact fun _ _ ↦ .other t
  | list xs ih =>
    intro d h hsorted
    rw [toDoc, Option.map_eq_some_iff] at h
    obtain ⟨ds, hds, rfl⟩ := h
    rcases hsorted with _ | hsorted | _
    refine .list fun v hv ↦ ?_
    obtain ⟨d, hd, hvd⟩ := exists_mem_of_forall₂ (toDocs_eq_some_iff.mp hds) hv
    exact ih v hv hvd (hsorted d hd)
  | dict kvs ih =>
    intro d h hsorted
    rw [toDoc, Option.map_eq_some_iff] at h
    obtain ⟨ms, hms, rfl⟩ := h
    rw [Option.bind_eq_some_iff] at hms
    obtain ⟨mt, hmt, hms⟩ := hms
    rw [arrange, if_pos rfl, Option.bind_eq_some_iff] at hms
    obtain ⟨st, hst, hms⟩ := hms
    rcases hsorted with _ | _ | ⟨hlt, hsorted⟩
    have hperm := perm_of_sortKeys hst
    -- strictly increasing texts are distinct, so the keys are
    have hnodup : (st.map Prod.fst).Nodup := by
      refine List.Nodup.of_map Key.text ?_
      rw [← map_some_fst_of_keyTexts hms]
      exact List.Nodup.map (Option.some_injective _) (hlt.imp fun h ↦ h.ne)
    refine .dict ?_ fun m hm ↦ ?_
    · rw [← map_fst_of_toMembers hmt]
      exact (hperm.map Prod.fst).nodup_iff.mp hnodup
    · obtain ⟨n, hn, -, hdoc⟩ := exists_mem_of_forall₂ (toMembers_eq_some_iff.mp hmt) hm
      obtain ⟨q, hq, -, hqn⟩ :=
        exists_mem_of_forall₂ (keyTexts_eq_some_iff.mp hms) (hperm.mem_iff.mpr hn)
      exact ih m hm hdoc (hqn ▸ hsorted q hq)

/-- What a stable value was written as, with or without sorted keys, decodes to a value that is
written the same. -/
theorem exists_toDoc_of_stable {v : Val F} (hv : v.Stable) {d : Doc F} (h : toDoc true v = some d) :
    ∃ e, toDoc false v = some e ∧ toDoc true (ofDoc e) = some d := by
  have hsorted := hv d h
  obtain ⟨e, he, hcanon⟩ := exists_toDoc_false (distinctKeys_of_sortedKeys h hsorted) h
  refine ⟨e, he, ?_⟩
  rw [toDoc_ofDoc_eq_canon, hcanon, ← toDoc_ofDoc_eq_canon, toDoc_ofDoc_eq_self_iff]
  exact hsorted

theorem exists_loads_dumps_false {v : Val F} (hv : v.DistinctKeys) {st : Style} {s : Text}
    (h : dumps st true v = some s) (st' : Style) : ∃ s', dumps st' false v = some s' ∧
      ∃ w w' : Val F, loads s = some w ∧ loads s' = some w' ∧ toDoc true w = toDoc true w' := by
  obtain ⟨d, hd, rfl⟩ := Option.map_eq_some_iff.mp h
  obtain ⟨e, he, hcanon⟩ := exists_toDoc_false hv hd
  refine ⟨render st' e, by rw [dumps, he, Option.map_some], ofDoc d, ofDoc e, loads_render st d,
    loads_render st' e, ?_⟩
  rw [toDoc_ofDoc_eq_canon, toDoc_ofDoc_eq_canon, hcanon]

end DriftGuardX.Json
