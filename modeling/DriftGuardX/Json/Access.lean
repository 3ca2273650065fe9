import DriftGuardX.Foundation.KeyTable
import DriftGuardX.Json.Canonical
import DriftGuardX.Json.Text

/-!
# Values that come back

What is written and read again: scalars are the same, lists and dictionaries hold what comes back of
their values (`decoded`). A dictionary may have its members in another order, so it is read by its
keys (`exists_decoded_object`).
-/

namespace DriftGuardX.Json

variable {F : Type} [FloatText F] {sort : Bool}

/-- What comes back of a value. -/
def decoded (sort : Bool) (v : Val F) : Option (Val F) := (toDoc sort v).map ofDoc

theorem loads_of_dumps {st : Style} {v : Val F} {text : Text} (h : dumps st sort v = some text) :
    loads text = decoded sort v := by
  obtain ⟨d, hd, rfl⟩ := Option.map_eq_some_iff.mp h
  rw [loads_render, decoded, hd, Option.map_some]

theorem exists_render_of_dumps {st : Style} {kvs : List (String × Val F)} {text : Text}
    (h : dumps st sort (.object kvs) = some text) : ∃ ms : List (String × Doc F),
      text = render st (.obj ms) := by
  obtain ⟨d, hd, rfl⟩ := Option.map_eq_some_iff.mp h
  cases sort with
  | false =>
    rw [toDoc_false_object, Option.map_eq_some_iff] at hd
    obtain ⟨ms, -, rfl⟩ := hd
    exact ⟨_, rfl⟩
  | true =>
    rw [toDoc_true_object, Option.map_eq_some_iff] at hd
    obtain ⟨ms, -, rfl⟩ := hd
    exact ⟨_, rfl⟩

theorem decoded_scalar (a : Scalar F) : decoded sort (.scalar a) = some (.scalar a) := by
  rw [decoded, toDoc, Option.map_some, ofDoc]

theorem decoded_list {xs ys : List (Val F)}
    (h : List.Forall₂ (fun x y ↦ decoded sort x = some y) xs ys) :
    decoded sort (.list xs) = some (.list ys) := by
  suffices hdocs : ∃ ds, toDocs sort xs = some ds ∧ ofDocs ds = ys by
    obtain ⟨ds, hds, rfl⟩ := hdocs
    rw [decoded, toDoc, hds, Option.map_some, Option.map_some, ofDoc]
  induction h with
  | nil => exact ⟨[], by rw [toDocs], by rw [ofDocs]⟩
  | cons hx _ ih =>
    obtain ⟨ds, hds, rfl⟩ := ih
    obtain ⟨d, hd, rfl⟩ := Option.map_eq_some_iff.mp hx
    exact ⟨d :: ds, by rw [toDocs, hd, hds]; rfl, by rw [ofDocs]⟩

theorem exists_of_decoded_list {xs : List (Val F)} {v : Val F} (h : decoded sort (.list xs) = some v) :
    ∃ ys, v = .list ys ∧ List.Forall₂ (fun x y ↦ decoded sort x = some y) xs ys := by
  obtain ⟨d, hd, rfl⟩ := Option.map_eq_some_iff.mp h
  rw [toDoc, Option.map_eq_some_iff] at hd
  obtain ⟨ds, hds, rfl⟩ := hd
  refine ⟨ds.map ofDoc, by rw [ofDoc, ofDocs_eq_map], ?_⟩
  rw [List.forall₂_map_right_iff]
  exact (toDocs_eq_some_iff.mp hds).imp fun x e he ↦ by rw [decoded, he, Option.map_some]

/-- The members of a record in the order in which they are written. -/
def arranged {α : Type} (sort : Bool) (kvs : List (String × α)) : List (String × α) :=
  if sort then kvs.insertionSort fun a b ↦ a.1 ≤ b.1 else kvs

theorem arranged_perm {α : Type} (sort : Bool) (kvs : List (String × α)) :
    (arranged sort kvs).Perm kvs := by
  cases sort with
  | false => exact .refl _
  | true => exact List.perm_insertionSort _ _

theorem toDoc_object (kvs : List (String × Val F)) :
    toDoc sort (.object kvs) = (objDocs sort kvs).map fun ms ↦ .obj (arranged sort ms) := by
  cases sort with
  | false => exact toDoc_false_object kvs
  | true => exact toDoc_true_object kvs

theorem arranged_map {α β : Type} (sort : Bool) (f : α → β) (kvs : List (String × α)) :
    arranged sort (kvs.map fun m ↦ (m.1, f m.2)) = (arranged sort kvs).map fun m ↦ (m.1, f m.2) := by
  cases sort with
  | false => rfl
  | true =>
    exact (List.map_insertionSort (fun a b : String × α ↦ a.1 ≤ b.1)
      (fun a b : String × β ↦ a.1 ≤ b.1) _ _ (fun _ _ _ _ ↦ Iff.rfl)).symm

theorem decoded_record {kvs : List (String × Scalar F)} (hnd : (kvs.map Prod.fst).Nodup) :
    decoded sort (.record kvs) = some (.record (arranged sort kvs)) := by
  rw [decoded, Val.record, toDoc_object, objDocs_scalar, Option.map_some, Option.map_some, arranged_map,
    ofDoc_record (((arranged_perm sort kvs).map Prod.fst).nodup_iff.mpr hnd)]

/-- A dictionary comes back with what comes back of its values, under the same keys. -/
theorem exists_decoded_object {kvs : List (String × Val F)} {v : Val F}
    (hnd : (kvs.map Prod.fst).Nodup) (h : decoded sort (.object kvs) = some v) :
    ∃ members, v = .dict members ∧
      (∀ m ∈ kvs, ∃ w, decoded sort m.2 = some w ∧ dictGet members m.1 = some w) ∧
      ∀ k ∉ kvs.map Prod.fst, dictGet members k = none := by
  obtain ⟨d, hd, rfl⟩ := Option.map_eq_some_iff.mp h
  rw [toDoc_object, Option.map_eq_some_iff] at hd
  obtain ⟨ms, hms, rfl⟩ := hd
  have hkeys := map_fst_of_objDocs hms
  have hperm := arranged_perm sort ms
  have hnd' : ((arranged sort ms).map Prod.fst).Nodup :=
    (hperm.map Prod.fst).nodup_iff.mpr (hkeys ▸ hnd)
  have hget : ∀ k, dictGet ((arranged sort ms).map fun n ↦ ((.str n.1 : Key F), ofDoc n.2)) k
      = ((arranged sort ms).find? fun n ↦ n.1 = k).map fun n ↦ ofDoc n.2 := by
    intro k
    rw [dictGet, List.find?_map, Option.map_map]
    rfl
  refine ⟨(arranged sort ms).map fun n ↦ (.str n.1, ofDoc n.2), ?_, fun m hm ↦ ?_, fun k hk ↦ ?_⟩
  · rw [ofDoc, ofMembers_eq_map, dictOf_eq_self (by rw [List.map_map]; exact hnd'), Val.object,
      List.map_map]
    rfl
  · obtain ⟨n, hn, hname, hdoc⟩ := exists_mem_of_forall₂ (objDocs_eq_some_iff.mp hms) hm
    refine ⟨ofDoc n.2, by rw [decoded, hdoc, Option.map_some], ?_⟩
    rw [hget, (find?_key_eq_some_iff hnd').mpr ⟨hperm.mem_iff.mpr hn, hname⟩, Option.map_some]
  · rw [hget, List.find?_eq_none.mpr, Option.map_none]
    intro n hn heq
    refine hk ?_
    rw [← hkeys, ← of_decide_eq_true heq]
    exact List.mem_map_of_mem (hperm.mem_iff.mp hn)

theorem exists_decoded {kvs : List (String × Val F)}
    (h : ∀ m ∈ kvs, ∃ w, decoded sort m.2 = some w) : ∃ v, decoded sort (.object kvs) = some v := by
  obtain ⟨ms, hms⟩ := objDocs_isSome fun m hm ↦ by
    obtain ⟨w, hw⟩ := h m hm
    obtain ⟨d, hd, -⟩ := Option.map_eq_some_iff.mp hw
    exact ⟨d, hd⟩
  exact ⟨_, by rw [decoded, toDoc_object, hms, Option.map_some, Option.map_some]⟩

/-! ## String keys -/

omit [FloatText F] in
theorem stringKeyed_ofDoc (d : Doc F) : (ofDoc d).StringKeyed := by
  induction d using Doc.induct with
  | scalar a =>
    rw [ofDoc]
    exact .scalar a
  | arr ds ih =>
    rw [ofDoc, ofDocs_eq_map]
    exact .list (List.forall_mem_map.mpr ih)
  | obj ms ih =>
    rw [ofDoc, ofMembers_eq_map]
    refine .object (nodup_keys_dictOf _) fun m hm ↦ ?_
    obtain ⟨n, hn, rfl⟩ := List.mem_map.mp (mem_of_mem_dictOf hm)
    exact ih n hn

theorem stringKeyed_of_loads {text : Text} {v : Val F} (h : loads text = some v) :
    v.StringKeyed := by
  obtain ⟨d, -, rfl⟩ := Option.map_eq_some_iff.mp h
  exact stringKeyed_ofDoc d

omit [FloatText F] in
theorem exists_object_of_stringKeyed {kvs : List (Key F × Val F)} (h : (Val.dict kvs).StringKeyed) :
    ∃ ms : List (String × Val F), kvs = ms.map (fun m ↦ (.str m.1, m.2)) ∧
      (ms.map Prod.fst).Nodup ∧ ∀ m ∈ ms, m.2.StringKeyed := by
  generalize hv : Val.dict kvs = v at h
  cases h with
  | scalar _ => exact absurd hv (by simp)
  | list _ => exact absurd hv (by simp)
  | @object ms hnd hms => exact ⟨ms, Val.dict.inj hv, hnd, hms⟩

omit [FloatText F] in
theorem stringKeyed_of_mem_dict {kvs : List (Key F × Val F)} (h : (Val.dict kvs).StringKeyed)
    {m : Key F × Val F} (hm : m ∈ kvs) : m.2.StringKeyed := by
  obtain ⟨ms, rfl, -, hms⟩ := exists_object_of_stringKeyed h
  obtain ⟨n, hn, rfl⟩ := List.mem_map.mp hm
  exact hms n hn

omit [FloatText F] in
theorem stringKeyed_of_mem_list {xs : List (Val F)} (h : (Val.list xs).StringKeyed) {v : Val F}
    (hv : v ∈ xs) : v.StringKeyed := by
  generalize hw : Val.list xs = w at h
  cases h with
  | scalar _ => exact absurd hw (by simp)
  | list h => exact h v (Val.list.inj hw ▸ hv)
  | object _ _ => exact absurd hw (by simp [Val.object])

omit [FloatText F] in
theorem stringKeyed_filter {kvs : List (Key F × Val F)} (h : (Val.dict kvs).StringKeyed)
    (p : Key F × Val F → Bool) : (Val.dict (kvs.filter p)).StringKeyed := by
  obtain ⟨ms, rfl, hnd, hms⟩ := exists_object_of_stringKeyed h
  rw [List.filter_map]
  refine .object (hnd.sublist (List.filter_sublist.map Prod.fst)) fun m hm ↦ ?_
  exact hms m (List.mem_of_mem_filter hm)

omit [FloatText F] in
theorem mem_of_dictGet {kvs : List (Key F × Val F)} {key : String} {v : Val F}
    (h : dictGet kvs key = some v) : (.str key, v) ∈ kvs := by
  obtain ⟨⟨k, w⟩, hm, rfl⟩ := Option.map_eq_some_iff.mp h
  have hkey := List.find?_some hm
  cases k with
  | str t =>
    rw [Key.isText, beq_iff_eq] at hkey
    exact hkey ▸ List.mem_of_find?_eq_some hm
  | none | bool _ | int _ | float _ | other _ => exact absurd hkey (by simp [Key.isText])

end DriftGuardX.Json
