import DriftGuardX.Merkle.Invariant
import Mathlib.Logic.Relation

/-!
# What the calls on a DAG keep

Every call, whether it returns or raises, keeps the invariant. Parents come before their children in
the order of insertion, so the DAG has no cycles: no fork finds one, and the path from a node
through first parents is verified to its end (`representation_run`).
-/

namespace DriftGuardX.Merkle

open Json Bytes Transaction Program MerkleDAGStore
open Recovery (Raised)

variable {F : Type} [FloatText F] {lib : MerkleLibrary F}

/-! ## Calls -/

/-- A postcondition of calls that raise: they keep the invariant and have found no cycle. -/
def RaisesSoundly (lib : MerkleLibrary F) (e : Raised) (dag : MerkleDAGStore F) : Prop :=
  dag.WellFormed lib ∧ e ≠ cycleDetected

/-- A call that keeps the invariant and finds no cycle. -/
abbrev Sound {α : Type} (lib : MerkleLibrary F) (x : Program (MerkleDAGStore F) Raised α) : Prop :=
  Triple (MerkleDAGStore.WellFormed lib) x (fun _ ↦ MerkleDAGStore.WellFormed lib)
    (RaisesSoundly lib)

theorem ne_cycleDetected {e : Raised} (h : e.message.toList.head? ≠ some 'C') :
    e ≠ cycleDetected := by
  rintro rfl
  exact h rfl

omit [FloatText F] in
theorem ne_cycleDetected_of_kind {e : Raised} (h : e.kind ≠ .valueError) : e ≠ cycleDetected := by
  rintro rfl
  exact h rfl

theorem ne_of_payloadBytes {payload : Val F} {e : Raised}
    (h : payloadBytes lib payload = .error e) :
    e ≠ cycleDetected := by
  rw [payloadBytes] at h
  split at h
  · exact nomatch h
  · obtain rfl := Except.error.inj h
    exact ne_cycleDetected_of_kind nofun

theorem ne_of_lengthPrefixEncode {data : List UInt8} {e : Raised}
    (h : lengthPrefixEncode data = .error e) : e ≠ cycleDetected := by
  rw [lengthPrefixEncode] at h
  split at h
  · exact nomatch h
  · obtain rfl := Except.error.inj h
    exact ne_cycleDetected_of_kind nofun

theorem ne_of_encodeParents {parentHashes : List String} {e : Raised}
    (h : encodeParents parentHashes = .error e) : e ≠ cycleDetected := by
  induction parentHashes with
  | nil => exact nomatch h
  | cons parentHash parentHashes ih =>
    rw [encodeParents, bind_eq_error_iff] at h
    rcases h with h | ⟨bytes, -, h⟩
    · rw [encodeAscii] at h
      split at h
      · exact nomatch h
      · obtain rfl := Except.error.inj h
        exact ne_cycleDetected (by decide)
    · rcases bind_eq_error_iff.mp h with h | ⟨encoded, -, h⟩
      · exact ne_of_lengthPrefixEncode h
      · rcases bind_eq_error_iff.mp h with h | ⟨rest, -, h⟩
        · exact ih h
        · exact nomatch h

theorem ne_of_computeHash {payload : Val F} {parentHashes : List String} {e : Raised}
    (h : computeHash lib payload parentHashes "v1" = .error e) : e ≠ cycleDetected := by
  rw [computeHash, preimage, if_neg (by decide), if_pos rfl] at h
  rcases bind_eq_error_iff.mp h with h | ⟨_, -, h⟩
  · rcases bind_eq_error_iff.mp h with h | ⟨bytes, -, h⟩
    · exact ne_of_payloadBytes h
    · rcases bind_eq_error_iff.mp h with h | ⟨encoded, -, h⟩
      · exact ne_of_lengthPrefixEncode h
      · rcases bind_eq_error_iff.mp h with h | ⟨parents, -, h⟩
        · exact ne_of_encodeParents h
        · exact nomatch h
  · exact nomatch h

theorem ne_of_contentHash {payload : Val F} {e : Raised} (h : contentHash lib payload = .error e) :
    e ≠ cycleDetected := by
  rcases bind_eq_error_iff.mp h with h | ⟨bytes, -, h⟩
  · exact ne_of_payloadBytes h
  · exact nomatch h

namespace MerkleDAGStore

omit [FloatText F] in
theorem ne_of_parentHashesOf {dag : MerkleDAGStore F} {parentIds : List String} {e : Raised}
    (h : dag.parentHashesOf parentIds = .error e) : e ≠ cycleDetected := by
  induction parentIds with
  | nil => exact absurd h (by simp [parentHashesOf])
  | cons pid pids ih =>
    rw [parentHashesOf] at h
    split at h
    · rcases bind_eq_error_iff.mp h with h | ⟨hashes, -, h⟩
      · exact ih h
      · exact absurd h (by simp [pure, Except.pure])
    · obtain rfl := Except.error.inj h
      refine ne_cycleDetected ?_
      simp [toString, String.toList_append]

theorem sound_addNode (nodeId : String) (payload : Val F) (parentIds : List String) :
    Sound lib (addNode lib nodeId payload parentIds) := by
  refine Triple.bind triple_get_eq fun dag ↦ ?_
  refine Triple.bind (M := fun parentHashes s ↦ (dag = s ∧ WellFormed lib s) ∧
    dag.parentHashesOf parentIds = .ok parentHashes) ?_ fun parentHashes ↦ ?_
  · exact triple_ofExcept (fun a ha s hs ↦ ⟨hs, ha⟩)
      fun e he s hs ↦ ⟨hs.2, ne_of_parentHashesOf he⟩
  refine Triple.bind (M := fun nodeHash s ↦ ((dag = s ∧ WellFormed lib s) ∧
    dag.parentHashesOf parentIds = .ok parentHashes) ∧
    computeHash lib payload parentHashes "v1" = .ok nodeHash) ?_ fun nodeHash ↦ ?_
  · exact triple_ofExcept (fun a ha s hs ↦ ⟨hs, ha⟩)
      fun e he s hs ↦ ⟨hs.1.2, ne_of_computeHash he⟩
  dsimp only
  split
  · -- the id is taken
    split
    · refine triple_raise fun s hs ↦ ⟨hs.1.1.2, ne_cycleDetected ?_⟩
      simp [toString, String.toList_append]
    · exact triple_pure fun s hs ↦ hs.1.1.2
  · rename_i hid
    split
    · -- the hash is taken
      split
      · exact triple_pure fun s hs ↦ hs.1.1.2
      · exact triple_raise fun s hs ↦ ⟨hs.1.1.2, ne_cycleDetected_of_kind nofun⟩
    · rename_i hhash
      refine Triple.bind (triple_ofExcept (fun _ _ s hs ↦ hs) fun e he s hs ↦
        ⟨hs.1.1.2, ne_of_contentHash he⟩) fun blobKey ↦ ?_
      refine Triple.bind (M := fun _ ↦ WellFormed lib) (triple_modify ?_) fun _ ↦
        triple_pure fun _ hs ↦ hs
      rintro s ⟨⟨⟨rfl, hwf⟩, hlooked⟩, hhashed⟩
      exact hwf.store ⟨hlooked, hhashed, rfl, hid, hhash, rfl⟩

/-! ## Forks -/

theorem sound_commitNodes (targetNodeId : String)
    (buffered : List (String × Val F × List String)) (forkedNode : Option (MerkleNode F)) :
    Sound lib (commitNodes lib targetNodeId buffered forkedNode) := by
  induction buffered generalizing forkedNode with
  | nil => exact triple_pure fun _ hs ↦ hs
  | cons first rest ih =>
    obtain ⟨newId, payload, parentIds⟩ := first
    exact Triple.bind (sound_addNode newId payload parentIds) fun _ ↦ ih _

omit [FloatText F] in
theorem ne_of_bufferedNodes {dag : MerkleDAGStore F} {targetNodeId : String} {newPayload : Val F}
    {done order : List String} {e : Raised}
    (h : dag.bufferedNodes targetNodeId newPayload done order = .error e) : e ≠ cycleDetected := by
  induction order generalizing done with
  | nil => exact nomatch h
  | cons curr rest ih =>
    rw [bufferedNodes] at h
    split at h
    · obtain rfl := Except.error.inj h
      exact ne_cycleDetected_of_kind nofun
    · rcases bind_eq_error_iff.mp h with h | ⟨others, -, h⟩
      · exact ih h
      · exact nomatch h

section Order

variable {dag : MerkleDAGStore F}

/-- The place of a node in the order of insertion. -/
def place (dag : MerkleDAGStore F) (id : String) : ℕ :=
  (dag.nodes.rows.map MerkleNode.nodeId).idxOf id

omit [FloatText F] in
theorem place_getElem (i : ℕ) (hi : i < dag.nodes.rows.length) :
    dag.place dag.nodes.rows[i].nodeId = i := by
  have hnd := dag.nodes.nodup
  have hi' : i < (dag.nodes.rows.map MerkleNode.nodeId).length := by rwa [List.length_map]
  have hplace := hnd.idxOf_getElem i hi'
  rwa [List.getElem_map] at hplace

theorem WellFormed.place_lt (h : WellFormed lib dag) {p c : MerkleNode F}
    (hp : p ∈ dag.nodes.rows) (hc : c ∈ dag.nodes.rows) (hmem : p.nodeHash ∈ c.parentHashes) :
    dag.place p.nodeId < dag.place c.nodeId := by
  obtain ⟨i, hi, rfl⟩ := List.getElem_of_mem hp
  obtain ⟨j, hj, rfl⟩ := List.getElem_of_mem hc
  rw [place_getElem, place_getElem]
  rcases Nat.lt_trichotomy i j with hlt | rfl | hgt
  · exact hlt
  · exact absurd hmem (h.proper _ hc)
  · exact absurd hmem (List.pairwise_iff_getElem.mp h.ordered j i hj hi hgt)

theorem WellFormed.length_topologicalOrder (h : WellFormed lib dag) (id : String) :
    ((dag.graph lib).topologicalOrder (lib.iterate ((dag.graph lib).descendants id))).length
      = (lib.iterate ((dag.graph lib).descendants id)).length := by
  have hnd : (lib.iterate ((dag.graph lib).descendants id)).Nodup :=
    (lib.iterate_perm _).nodup_iff.mpr (FiniteGraph.nodup_descendants id)
  have hplace : ∀ a ∈ lib.iterate ((dag.graph lib).descendants id), ∀ b ∈ (dag.graph lib).next a,
      b ∈ lib.iterate ((dag.graph lib).descendants id) → dag.place a < dag.place b := by
    intro a _ b hb _
    obtain ⟨p, hp, hchild⟩ := dag.exists_of_mem_childrenOf lib hb
    obtain ⟨hpmem, rfl⟩ := KeyTable.get?_eq_some_iff.mp hp
    obtain ⟨c, hc, rfl, hmem⟩ := (h.children p hpmem b).mp hchild
    exact h.place_lt hpmem hc hmem
  exact (FiniteGraph.perm_topologicalOrder hnd hplace).length_eq

end Order

theorem sound_forkLineage (targetNodeId : String) (newPayload : Val F) :
    Sound lib (forkLineage lib targetNodeId newPayload) := by
  refine Triple.bind triple_get_eq fun dag ↦ ?_
  split
  · refine triple_raise fun s hs ↦ ⟨hs.2, ne_cycleDetected ?_⟩
    simp [toString, String.toList_append]
  · refine Triple.bind (triple_ofExcept (fun _ _ s hs ↦ hs) fun e he s hs ↦
      ⟨hs.2, ne_of_bufferedNodes he⟩) fun buffered ↦ ?_
    split
    · rename_i hlength
      refine triple_raise fun s hs ↦ ?_
      obtain ⟨rfl, hwf⟩ := hs
      exact absurd (hwf.length_topologicalOrder targetNodeId) hlength
    · exact (sound_commitNodes targetNodeId buffered none).weaken (fun _ hs ↦ hs.2)
        (fun _ _ hs ↦ hs) fun _ _ hs ↦ hs

end MerkleDAGStore

/-! ## Runs -/

/-- The calls that change a DAG. -/
inductive Call (F : Type) where
  | addNode (nodeId : String) (payload : Val F) (parentIds : List String)
  | forkLineage (targetNodeId : String) (newPayload : Val F)

def Call.run (lib : MerkleLibrary F) :
    Call F → Program (MerkleDAGStore F) Raised (Option (MerkleNode F))
  | .addNode nodeId payload parentIds => do
    let node ← MerkleDAGStore.addNode lib nodeId payload parentIds
    return some node
  | .forkLineage targetNodeId newPayload =>
    MerkleDAGStore.forkLineage lib targetNodeId newPayload

theorem Call.sound_run (call : Call F) : Sound lib (call.run lib) := by
  cases call with
  | addNode nodeId payload parentIds =>
    exact Triple.bind (sound_addNode nodeId payload parentIds) fun _ ↦ triple_pure fun _ hs ↦ hs
  | forkLineage targetNodeId newPayload => exact sound_forkLineage targetNodeId newPayload

/-- The store that a series of calls leaves, some of which may have raised. -/
def storeAfter (lib : MerkleLibrary F) (calls : List (Call F)) : MerkleDAGStore F :=
  after (Call.run lib) calls .empty

theorem wellFormed_storeAfter (calls : List (Call F)) : (storeAfter lib calls).WellFormed lib :=
  after_induction (fun call ↦ call.sound_run.weaken (fun _ hs ↦ hs) (fun _ _ hs ↦ hs)
    fun _ _ hs ↦ hs.1) calls wellFormed_empty

/-! ## The representation -/

namespace MerkleDAGStore

/-- A node and one of its parents. -/
def ParentOf (dag : MerkleDAGStore F) (pid cid : String) : Prop :=
  ∃ p c, dag.nodes.get? pid = some p ∧ dag.nodes.get? cid = some c ∧ p.nodeHash ∈ c.parentHashes

/-- A node, and the one whose hash comes first among those of its parents. -/
def FirstParent (dag : MerkleDAGStore F) (cid pid : String) : Prop :=
  ∃ c hash, dag.nodes.get? cid = some c ∧ c.parentHashes.head? = some hash ∧
    dag.idOf hash = some pid

/-- The structures of a DAG agree: the index is the inverse of the hashes of the nodes, parents are
stored, children are those that have a node as a parent, there are no cycles and no fork finds one,
and verification succeeds. -/
structure Represents (lib : MerkleLibrary F) (dag : MerkleDAGStore F) : Prop where
  inverse : ∀ hash id, dag.idOf hash = some id ↔
    ∃ node, dag.nodes.get? id = some node ∧ node.nodeHash = hash
  parents : ∀ cid c, dag.nodes.get? cid = some c → ∀ hash ∈ c.parentHashes,
    ∃ pid p, dag.nodes.get? pid = some p ∧ p.nodeHash = hash
  children : ∀ pid p, dag.nodes.get? pid = some p → ∀ cid, cid ∈ p.childrenIds.rows ↔
    ∃ c, dag.nodes.get? cid = some c ∧ p.nodeHash ∈ c.parentHashes
  acyclic : ∀ id, ¬ Relation.TransGen dag.ParentOf id id
  full : dag.verifyFullDag lib = .ok true
  path : ∀ id node rootId, dag.nodes.get? id = some node →
    Relation.ReflTransGen dag.FirstParent id rootId → dag.verifyPath lib id rootId = .ok true
  forks : ∀ targetNodeId newPayload,
    (forkLineage lib targetNodeId newPayload dag).1 ≠ .error cycleDetected

variable {dag : MerkleDAGStore F}

theorem WellFormed.verifyChain (h : WellFormed lib dag) {id : String} {node : MerkleNode F}
    (hnode : dag.nodes.get? id = some node) : dag.verifyChain lib id = .ok true := by
  rw [MerkleDAGStore.verifyChain, hnode]
  dsimp only
  rw [h.hashed node (KeyTable.get?_eq_some_iff.mp hnode).1, ok_bind, decide_eq_true rfl]
  rfl

theorem WellFormed.verifyAll (h : WellFormed lib dag) {nodes : List (MerkleNode F)}
    (hnodes : ∀ node ∈ nodes, node ∈ dag.nodes.rows) : dag.verifyAll lib nodes = .ok true := by
  induction nodes with
  | nil => rfl
  | cons node nodes ih =>
    obtain ⟨hnode, hrest⟩ := List.forall_mem_cons.mp hnodes
    rw [MerkleDAGStore.verifyAll, h.verifyChain (KeyTable.get?_eq_some_iff.mpr ⟨hnode, rfl⟩)]
    exact ih hrest

theorem WellFormed.place_lt_of_parentOf (h : WellFormed lib dag) {pid cid : String}
    (hparent : dag.ParentOf pid cid) : dag.place pid < dag.place cid := by
  obtain ⟨p, c, hp, hc, hmem⟩ := hparent
  obtain ⟨hpmem, rfl⟩ := KeyTable.get?_eq_some_iff.mp hp
  obtain ⟨hcmem, rfl⟩ := KeyTable.get?_eq_some_iff.mp hc
  exact h.place_lt hpmem hcmem hmem

theorem WellFormed.place_lt_of_transGen (h : WellFormed lib dag) {id id' : String}
    (hpath : Relation.TransGen dag.ParentOf id id') : dag.place id < dag.place id' := by
  induction hpath with
  | single hparent => exact h.place_lt_of_parentOf hparent
  | tail _ hparent ih => exact ih.trans (h.place_lt_of_parentOf hparent)

theorem WellFormed.parentOf_of_firstParent (h : WellFormed lib dag) {cid pid : String}
    (hfirst : dag.FirstParent cid pid) : dag.ParentOf pid cid := by
  obtain ⟨c, hash, hc, hhead, hindex⟩ := hfirst
  obtain ⟨p, hp, rfl, rfl⟩ := (h.indexed hash pid).mp hindex
  exact ⟨p, c, KeyTable.get?_eq_some_iff.mpr ⟨hp, rfl⟩, hc, List.mem_of_mem_head? hhead⟩

/-- A step of the walk. -/
theorem verifyFrom_step {rootId id pid hash : String} {visited hashes : List String}
    {node : MerkleNode F} (hroot : id ≠ rootId) (hnew : id ∉ visited)
    (hnode : dag.nodes.get? id = some node) (hhashes : node.parentHashes = hash :: hashes)
    (hindex : dag.idOf hash = some pid) (hverified : dag.verifyChain lib pid = .ok true) :
    dag.verifyFrom lib rootId id visited = dag.verifyFrom lib rootId pid (id :: visited) := by
  rw [MerkleDAGStore.verifyFrom, if_neg hroot, if_neg hnew]
  split
  · rename_i hnone
    exact absurd (hnone.symm.trans hnode) (by simp)
  · rename_i found hfound
    obtain rfl := Option.some.inj (hfound.symm.trans hnode)
    rw [hhashes]
    simp only [hindex, hverified]

/-- The walk goes on from a node to its first parent, as the nodes visited come later. -/
theorem WellFormed.verifyFrom (h : WellFormed lib dag) {id rootId : String} {visited : List String}
    (hstored : ∃ node, dag.nodes.get? id = some node)
    (hvisited : ∀ x ∈ visited, dag.place id < dag.place x)
    (hpath : Relation.ReflTransGen dag.FirstParent id rootId) :
    dag.verifyFrom lib rootId id visited = .ok true := by
  induction hpath using Relation.ReflTransGen.head_induction_on generalizing visited with
  | refl =>
    obtain ⟨node, hnode⟩ := hstored
    rw [MerkleDAGStore.verifyFrom, if_pos rfl]
    exact h.verifyChain hnode
  | @head id pid hfirst _ ih =>
    by_cases heq : id = rootId
    · obtain ⟨node, hnode⟩ := hstored
      rw [MerkleDAGStore.verifyFrom, if_pos heq]
      exact h.verifyChain (heq ▸ hnode)
    · have hnew : id ∉ visited := fun hmem ↦ (hvisited id hmem).false
      have hlt := h.place_lt_of_parentOf (h.parentOf_of_firstParent hfirst)
      obtain ⟨p, _, hp, -⟩ := h.parentOf_of_firstParent hfirst
      obtain ⟨c, hash, hc, hhead, hindex⟩ := hfirst
      obtain ⟨hashes, hhashes⟩ := List.head?_eq_some_iff.mp hhead
      rw [MerkleDAGStore.verifyFrom_step heq hnew hc hhashes hindex (h.verifyChain hp)]
      refine ih ⟨p, hp⟩ fun x hx ↦ ?_
      rcases List.mem_cons.mp hx with rfl | hx
      · exact hlt
      · exact hlt.trans (hvisited x hx)

theorem WellFormed.represents (h : WellFormed lib dag) : Represents lib dag where
  inverse hash id := by
    rw [h.indexed]
    simp only [KeyTable.get?_eq_some_iff, and_assoc]
  parents cid c hc hash hmem := by
    obtain ⟨p, hp, heq⟩ := h.parents c (KeyTable.get?_eq_some_iff.mp hc).1 hash hmem
    exact ⟨p.nodeId, p, KeyTable.get?_eq_some_iff.mpr ⟨hp, rfl⟩, heq⟩
  children pid p hp cid := by
    rw [h.children p (KeyTable.get?_eq_some_iff.mp hp).1]
    simp only [KeyTable.get?_eq_some_iff, and_assoc]
  acyclic id hcycle := (h.place_lt_of_transGen hcycle).false
  full := h.verifyAll fun _ hnode ↦ hnode
  path id node rootId hnode hpath := by
    rw [verifyPath, h.verifyChain hnode]
    exact h.verifyFrom ⟨node, hnode⟩ (fun x hx ↦ absurd hx List.not_mem_nil) hpath
  forks targetNodeId newPayload hcycle :=
    ((sound_forkLineage targetNodeId newPayload dag h).2 _ _ (Prod.ext hcycle rfl)).2 rfl

end MerkleDAGStore

/-- **The representation of the DAG holds in every reachable state.** -/
theorem representation_run (calls : List (Call F)) : (storeAfter lib calls).Represents lib :=
  (wellFormed_storeAfter calls).represents

end DriftGuardX.Merkle
