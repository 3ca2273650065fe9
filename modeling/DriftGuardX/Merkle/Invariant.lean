import DriftGuardX.Foundation.Transaction
import DriftGuardX.Merkle.Dag

/-!
# The invariant of the DAG

A node is inserted under a hash that is not there yet, with parents that are. So whatever the
digest, hashes tell nodes apart, children are those that name their parent's hash, and parents come
before their children in the order of insertion (`WellFormed`). Along that order no fork finds a
cycle, and the path from a node through first parents is verified to its end
(`representation_run`).
-/

namespace DriftGuardX.Merkle

open Json Bytes Transaction Program
open Recovery (Raised)

variable {F : Type}

/-! ## Tables of nodes -/

theorem mem_add_iff {ids : IdSet} {id x : String} :
    x ∈ (ids.add id).rows ↔ x ∈ ids.rows ∨ x = id := by
  rw [IdSet.add, KeyTable.insertIfAbsent]
  split
  · rw [KeyTable.rows_insert, List.mem_append, List.mem_singleton]
  · rename_i h
    obtain ⟨y, hy⟩ := Option.ne_none_iff_exists'.mp h
    obtain ⟨hmem, rfl⟩ := KeyTable.get?_eq_some_iff.mp hy
    exact ⟨.inl, fun hx ↦ hx.elim id fun heq ↦ heq ▸ hmem⟩

theorem rows_put {R K : Type} [DecidableEq K] {key : R → K} {t : KeyTable key} {r : R}
    (h : t.get? (key r) = none) : (t.put r).rows = t.rows ++ [r] := by
  rw [KeyTable.put, dif_pos h, KeyTable.rows_insert]

/-- A node after a child was tracked at some parents. -/
def link (parentIds : List String) (childId : String) (node : MerkleNode F) : MerkleNode F :=
  if node.nodeId ∈ parentIds then { node with childrenIds := node.childrenIds.add childId }
  else node

section Link

variable (parentIds : List String) (childId : String) (node : MerkleNode F)

@[simp] theorem nodeId_link : (link parentIds childId node).nodeId = node.nodeId := by
  rw [link]
  split <;> rfl

@[simp] theorem payload_link : (link parentIds childId node).payload = node.payload := by
  rw [link]
  split <;> rfl

@[simp] theorem parentHashes_link :
    (link parentIds childId node).parentHashes = node.parentHashes := by
  rw [link]
  split <;> rfl

@[simp] theorem version_link : (link parentIds childId node).version = node.version := by
  rw [link]
  split <;> rfl

@[simp] theorem nodeHash_link : (link parentIds childId node).nodeHash = node.nodeHash := by
  rw [link]
  split <;> rfl

theorem mem_childrenIds_link {id : String} : id ∈ (link parentIds childId node).childrenIds.rows ↔
    id ∈ node.childrenIds.rows ∨ node.nodeId ∈ parentIds ∧ id = childId := by
  rw [link]
  split
  · rename_i h
    rw [mem_add_iff, and_iff_right h]
  · rename_i h
    exact ⟨.inl, fun hid ↦ hid.elim (fun hmem ↦ hmem) fun hnew ↦ absurd hnew.1 h⟩

end Link

theorem add_add (ids : IdSet) (id : String) : (ids.add id).add id = ids.add id := by
  have hthere : (ids.add id).get? id ≠ none := by
    rw [IdSet.add, KeyTable.get?_insertIfAbsent, if_pos rfl]
    exact Option.some_ne_none _
  rw [IdSet.add, KeyTable.insertIfAbsent, dif_neg hthere]

theorem rows_track (nodes : KeyTable (MerkleNode.nodeId (F := F))) (parentIds : List String)
    (childId : String) : (MerkleDAGStore.track nodes parentIds childId).rows
      = nodes.rows.map (link parentIds childId) := by
  induction parentIds generalizing nodes with
  | nil => exact (List.map_id' nodes.rows).symm
  | cons pid pids ih =>
    rw [MerkleDAGStore.track, List.foldl_cons]
    refine (ih _).trans ?_
    rw [KeyTable.rows_modify, List.map_map]
    refine List.map_congr_left fun node _ ↦ ?_
    rw [Function.comp_apply]
    by_cases hpid : node.nodeId = pid
    · by_cases hpids : node.nodeId ∈ pids
      · simp [link, hpid, hpid ▸ hpids, add_add]
      · simp [link, hpid, hpid ▸ hpids]
    · simp [link, hpid]

namespace MerkleDAGStore

variable [FloatText F] {lib : MerkleLibrary F} {dag : MerkleDAGStore F}

omit [FloatText F] in
theorem idOf_eq_some_iff {hash id : String} :
    dag.idOf hash = some id ↔ (hash, id) ∈ dag.hashIndex.rows := by
  rw [idOf, Option.map_eq_some_iff]
  constructor
  · rintro ⟨m, hm, rfl⟩
    obtain ⟨hmem, rfl⟩ := KeyTable.get?_eq_some_iff.mp hm
    exact hmem
  · exact fun hmem ↦ ⟨(hash, id), KeyTable.get?_eq_some_iff.mpr ⟨hmem, rfl⟩, rfl⟩

omit [FloatText F] in
theorem parentHashesOf_spec {parentIds hashes : List String}
    (h : dag.parentHashesOf parentIds = .ok hashes) :
    (∀ pid ∈ parentIds, ∃ p, dag.nodes.get? pid = some p ∧ p.nodeHash ∈ hashes) ∧
      ∀ hash ∈ hashes, ∃ p ∈ dag.nodes.rows, p.nodeId ∈ parentIds ∧ p.nodeHash = hash := by
  induction parentIds generalizing hashes with
  | nil =>
    obtain rfl := Except.ok.inj h
    exact ⟨nofun, nofun⟩
  | cons pid pids ih =>
    rw [parentHashesOf] at h
    split at h
    · rename_i p hp
      obtain ⟨rest, hrest, h⟩ := bind_eq_ok_iff.mp h
      obtain rfl := pure_eq_ok_iff.mp h
      obtain ⟨hfound, hstored⟩ := ih hrest
      obtain ⟨hmem, hid⟩ := KeyTable.get?_eq_some_iff.mp hp
      constructor
      · rintro other hother
        rcases List.mem_cons.mp hother with rfl | hother
        · exact ⟨p, hp, List.mem_cons_self⟩
        · obtain ⟨q, hq, hhash⟩ := hfound other hother
          exact ⟨q, hq, List.mem_cons_of_mem _ hhash⟩
      · rintro hash hhash
        rcases List.mem_cons.mp hhash with rfl | hhash
        · exact ⟨p, hmem, hid ▸ List.mem_cons_self, rfl⟩
        · obtain ⟨q, hq, hqid, hqhash⟩ := hstored hash hhash
          exact ⟨q, hq, List.mem_cons_of_mem _ hqid, hqhash⟩
    · exact nomatch h

/-! ## The invariant -/

/-- The nodes are indexed by their hashes and tracked at their parents, their hashes are right and
of the current version, and no node has a parent that was not inserted before it. -/
structure WellFormed (lib : MerkleLibrary F) (dag : MerkleDAGStore F) : Prop where
  indexed : ∀ hash id, dag.idOf hash = some id ↔
    ∃ node ∈ dag.nodes.rows, node.nodeId = id ∧ node.nodeHash = hash
  parents : ∀ c ∈ dag.nodes.rows, ∀ hash ∈ c.parentHashes, ∃ p ∈ dag.nodes.rows, p.nodeHash = hash
  children : ∀ p ∈ dag.nodes.rows, ∀ id, id ∈ p.childrenIds.rows ↔
    ∃ c ∈ dag.nodes.rows, c.nodeId = id ∧ p.nodeHash ∈ c.parentHashes
  hashed : ∀ node ∈ dag.nodes.rows,
    computeHash lib node.payload node.parentHashes node.version = .ok node.nodeHash
  current : ∀ node ∈ dag.nodes.rows, node.version = "v1"
  ordered : dag.nodes.rows.Pairwise fun a b ↦ b.nodeHash ∉ a.parentHashes
  proper : ∀ node ∈ dag.nodes.rows, node.nodeHash ∉ node.parentHashes

theorem wellFormed_empty : WellFormed lib (empty : MerkleDAGStore F) where
  indexed _ _ := ⟨nofun, fun ⟨_, h, _⟩ ↦ nomatch h⟩
  parents := nofun
  children := nofun
  hashed := nofun
  current := nofun
  ordered := .nil
  proper := nofun

omit [FloatText F] in
theorem eq_of_nodeId {p q : MerkleNode F} (hp : p ∈ dag.nodes.rows) (hq : q ∈ dag.nodes.rows)
    (heq : p.nodeId = q.nodeId) : p = q :=
  Option.some.inj ((KeyTable.get?_eq_some_iff.mpr ⟨hp, heq⟩).symm.trans
    (KeyTable.get?_eq_some_iff.mpr ⟨hq, rfl⟩))

theorem WellFormed.eq_of_nodeHash (h : WellFormed lib dag) {p q : MerkleNode F}
    (hp : p ∈ dag.nodes.rows) (hq : q ∈ dag.nodes.rows) (heq : p.nodeHash = q.nodeHash) :
    p = q := by
  have hid : p.nodeId = q.nodeId := Option.some.inj
    (((h.indexed p.nodeHash p.nodeId).mpr ⟨p, hp, rfl, rfl⟩).symm.trans
      ((h.indexed p.nodeHash q.nodeId).mpr ⟨q, hq, rfl, heq.symm⟩))
  exact eq_of_nodeId hp hq hid

/-! ### Inserting a node -/

/-- What is known of a node that is about to be stored. -/
structure Insertable (lib : MerkleLibrary F) (dag : MerkleDAGStore F) (node : MerkleNode F)
    (parentIds : List String) : Prop where
  looked : dag.parentHashesOf parentIds = .ok node.parentHashes
  hashed : computeHash lib node.payload node.parentHashes node.version = .ok node.nodeHash
  current : node.version = "v1"
  newId : dag.nodes.get? node.nodeId = none
  newHash : dag.idOf node.nodeHash = none
  childless : node.childrenIds = .empty

variable {node : MerkleNode F} {parentIds : List String} {blobKey : String}

theorem Insertable.rows_store (hnode : Insertable lib dag node parentIds) :
    (dag.store node blobKey parentIds).nodes.rows
      = dag.nodes.rows.map (link parentIds node.nodeId) ++ [node] := by
  have hself : node.nodeId ∉ parentIds := by
    intro hmem
    obtain ⟨p, hp, -⟩ := (parentHashesOf_spec hnode.looked).1 _ hmem
    exact nomatch hp.symm.trans hnode.newId
  rw [store, rows_track, rows_put hnode.newId, List.map_append, List.map_singleton]
  congr 2
  exact if_neg hself

theorem Insertable.forall_store (hnode : Insertable lib dag node parentIds)
    {p : MerkleNode F → Prop} : (∀ n ∈ (dag.store node blobKey parentIds).nodes.rows, p n) ↔
      (∀ m ∈ dag.nodes.rows, p (link parentIds node.nodeId m)) ∧ p node := by
  rw [hnode.rows_store, List.forall_mem_append, List.forall_mem_map, List.forall_mem_singleton]

theorem Insertable.exists_store (hnode : Insertable lib dag node parentIds)
    {p : MerkleNode F → Prop} : (∃ n ∈ (dag.store node blobKey parentIds).nodes.rows, p n) ↔
      (∃ m ∈ dag.nodes.rows, p (link parentIds node.nodeId m)) ∨ p node := by
  simp only [hnode.rows_store, List.mem_append, List.mem_map, List.mem_singleton, or_and_right,
    exists_or, exists_eq_left, exists_exists_and_eq_and]

theorem Insertable.idOf_store (hnode : Insertable lib dag node parentIds) {hash id : String} :
    (dag.store node blobKey parentIds).idOf hash = some id ↔
      dag.idOf hash = some id ∨ hash = node.nodeHash ∧ id = node.nodeId := by
  have hnew : dag.hashIndex.get? node.nodeHash = none := Option.map_eq_none_iff.mp hnode.newHash
  rw [idOf_eq_some_iff, idOf_eq_some_iff, store, rows_put hnew, List.mem_append,
    List.mem_singleton, Prod.mk.injEq]

theorem WellFormed.fresh (h : WellFormed lib dag) (hnode : Insertable lib dag node parentIds) :
    (∀ n ∈ dag.nodes.rows, n.nodeHash ≠ node.nodeHash) ∧
    (∀ n ∈ dag.nodes.rows, node.nodeHash ∉ n.parentHashes) ∧
    node.nodeHash ∉ node.parentHashes := by
  have hhash : ∀ n ∈ dag.nodes.rows, n.nodeHash ≠ node.nodeHash := by
    intro n hn heq
    have hindexed := (h.indexed node.nodeHash n.nodeId).mpr ⟨n, hn, rfl, heq⟩
    exact nomatch hindexed.symm.trans hnode.newHash
  refine ⟨hhash, fun n hn hmem ↦ ?_, fun hmem ↦ ?_⟩
  · obtain ⟨p, hp, heq⟩ := h.parents n hn _ hmem
    exact hhash p hp heq
  · obtain ⟨p, hp, -, heq⟩ := (parentHashesOf_spec hnode.looked).2 _ hmem
    exact hhash p hp heq

theorem WellFormed.nodeId_mem_iff (h : WellFormed lib dag)
    (hnode : Insertable lib dag node parentIds) {p : MerkleNode F} (hp : p ∈ dag.nodes.rows) :
    p.nodeId ∈ parentIds ↔ p.nodeHash ∈ node.parentHashes := by
  obtain ⟨hfound, hstored⟩ := parentHashesOf_spec hnode.looked
  constructor
  · intro hmem
    obtain ⟨q, hq, hhash⟩ := hfound _ hmem
    obtain ⟨hqmem, hid⟩ := KeyTable.get?_eq_some_iff.mp hq
    exact eq_of_nodeId hqmem hp hid ▸ hhash
  · intro hmem
    obtain ⟨q, hq, hid, hhash⟩ := hstored _ hmem
    exact h.eq_of_nodeHash hq hp hhash ▸ hid

/-- A stored node is linked to the new one, when the new one names its hash. -/
theorem WellFormed.children_store (h : WellFormed lib dag)
    (hnode : Insertable lib dag node parentIds) :
    ∀ p ∈ (dag.store node blobKey parentIds).nodes.rows, ∀ id, id ∈ p.childrenIds.rows ↔
      ∃ c ∈ (dag.store node blobKey parentIds).nodes.rows,
        c.nodeId = id ∧ p.nodeHash ∈ c.parentHashes := by
  obtain ⟨-, hchild, hproper⟩ := h.fresh hnode
  refine hnode.forall_store.mpr ⟨fun m hm id ↦ ?_, fun id ↦ ?_⟩
  · rw [mem_childrenIds_link, nodeHash_link, h.children m hm, h.nodeId_mem_iff hnode hm,
      hnode.exists_store]
    simp only [nodeId_link, parentHashes_link]
    exact or_congr_right ⟨fun hnew ↦ ⟨hnew.2.symm, hnew.1⟩, fun hnew ↦ ⟨hnew.2, hnew.1.symm⟩⟩
  · -- the new node has no children, and no node names its hash
    rw [hnode.childless, hnode.exists_store]
    refine iff_of_false List.not_mem_nil ?_
    rintro (⟨m, hm, -, hmem⟩ | ⟨-, hmem⟩)
    · rw [parentHashes_link] at hmem
      exact hchild m hm hmem
    · exact hproper hmem

theorem WellFormed.store (h : WellFormed lib dag) (hnode : Insertable lib dag node parentIds) :
    WellFormed lib (dag.store node blobKey parentIds) := by
  obtain ⟨-, hchild, hproper⟩ := h.fresh hnode
  constructor
  case indexed =>
    intro hash id
    rw [hnode.idOf_store, h.indexed, hnode.exists_store]
    simp only [nodeId_link, nodeHash_link]
    exact or_congr_right ⟨fun hnew ↦ ⟨hnew.2.symm, hnew.1.symm⟩, fun hnew ↦
      ⟨hnew.2.symm, hnew.1.symm⟩⟩
  case parents =>
    simp only [hnode.exists_store, nodeHash_link]
    refine hnode.forall_store.mpr ⟨fun m hm hash hmem ↦ ?_, fun hash hmem ↦ ?_⟩
    · rw [parentHashes_link] at hmem
      exact .inl (h.parents m hm hash hmem)
    · obtain ⟨p, hp, -, heq⟩ := (parentHashesOf_spec hnode.looked).2 hash hmem
      exact .inl ⟨p, hp, heq⟩
  case children => exact h.children_store hnode
  case hashed =>
    refine hnode.forall_store.mpr ⟨fun m hm ↦ ?_, hnode.hashed⟩
    rw [payload_link, parentHashes_link, version_link, nodeHash_link]
    exact h.hashed m hm
  case current =>
    refine hnode.forall_store.mpr ⟨fun m hm ↦ ?_, hnode.current⟩
    rw [version_link]
    exact h.current m hm
  case ordered =>
    rw [hnode.rows_store, List.pairwise_append, List.pairwise_map]
    simp only [nodeHash_link, parentHashes_link]
    refine ⟨h.ordered, List.pairwise_singleton _ _, ?_⟩
    rintro _ hlinked _ hnew
    obtain ⟨n, hn, rfl⟩ := List.mem_map.mp hlinked
    rw [List.mem_singleton.mp hnew, parentHashes_link]
    exact hchild n hn
  case proper =>
    refine hnode.forall_store.mpr ⟨fun m hm ↦ ?_, hproper⟩
    rw [nodeHash_link, parentHashes_link]
    exact h.proper m hm

end MerkleDAGStore

end DriftGuardX.Merkle
