import DriftGuardX.Merkle.TamperDetection

/-!
# What an insertion does

An insertion is refused, finds its node, finds another node with the same content, or stores its
node; in all cases but the last nothing changes. Nodes are never removed and only their children
change, so that what was stored stays stored (`Extends`).

The id under which a node is returned can be used from then on; the id under which it was to be
inserted can be used only if it is that one (`usable_addNode`).
-/

namespace DriftGuardX.Merkle

open Json Bytes Transaction Program
open Recovery (Raised)

variable {F : Type}

/-! ## Stores that only grow -/

/-- Two nodes that differ at most in their children. -/
structure SameNode (node node' : MerkleNode F) : Prop where
  nodeId : node'.nodeId = node.nodeId
  payload : node'.payload = node.payload
  parentHashes : node'.parentHashes = node.parentHashes
  version : node'.version = node.version
  nodeHash : node'.nodeHash = node.nodeHash

theorem SameNode.refl (node : MerkleNode F) : SameNode node node := ⟨rfl, rfl, rfl, rfl, rfl⟩

theorem SameNode.trans {a b c : MerkleNode F} (h : SameNode a b) (h' : SameNode b c) :
    SameNode a c :=
  ⟨h'.nodeId.trans h.nodeId, h'.payload.trans h.payload, h'.parentHashes.trans h.parentHashes,
    h'.version.trans h.version, h'.nodeHash.trans h.nodeHash⟩

theorem sameNode_link (parentIds : List String) (childId : String) (node : MerkleNode F) :
    SameNode node (link parentIds childId node) :=
  ⟨nodeId_link .., payload_link .., parentHashes_link .., version_link .., nodeHash_link ..⟩

namespace MerkleDAGStore

/-- Every node of a store is in another one, where it may have other children. -/
def Extends (dag dag' : MerkleDAGStore F) : Prop :=
  ∀ id node, dag.nodes.get? id = some node →
    ∃ node', dag'.nodes.get? id = some node' ∧ SameNode node node'

theorem Extends.refl (dag : MerkleDAGStore F) : dag.Extends dag :=
  fun _ node h ↦ ⟨node, h, .refl node⟩

theorem Extends.trans {a b c : MerkleDAGStore F} (h : a.Extends b) (h' : b.Extends c) :
    a.Extends c := by
  intro id node hnode
  obtain ⟨node', hnode', hsame⟩ := h id node hnode
  obtain ⟨node'', hnode'', hsame'⟩ := h' id node' hnode'
  exact ⟨node'', hnode'', hsame.trans hsame'⟩

theorem Extends.parentHashesOf {dag dag' : MerkleDAGStore F} (h : dag.Extends dag')
    {parentIds hashes : List String} (hlooked : dag.parentHashesOf parentIds = .ok hashes) :
    dag'.parentHashesOf parentIds = .ok hashes := by
  induction parentIds generalizing hashes with
  | nil => exact hlooked
  | cons pid pids ih =>
    rw [MerkleDAGStore.parentHashesOf] at hlooked ⊢
    split at hlooked
    · rename_i p hp
      obtain ⟨rest, hrest, hlooked⟩ := bind_eq_ok_iff.mp hlooked
      obtain rfl := pure_eq_ok_iff.mp hlooked
      obtain ⟨p', hp', hsame⟩ := h pid p hp
      rw [hp']
      dsimp only
      rw [ih hrest, ok_bind, hsame.nodeHash]
      rfl
    · exact absurd hlooked (by simp)

variable [FloatText F] {lib : MerkleLibrary F} {dag : MerkleDAGStore F} {node : MerkleNode F}
  {parentIds : List String} {blobKey : String}

theorem Insertable.get?_self (hnode : Insertable lib dag node parentIds) :
    (dag.store node blobKey parentIds).nodes.get? node.nodeId = some node := by
  rw [KeyTable.get?_eq_some_iff, hnode.rows_store]
  exact ⟨List.mem_append_right _ (List.mem_singleton_self _), rfl⟩

theorem Insertable.get?_of_ne (hnode : Insertable lib dag node parentIds) {id : String}
    (hid : id ≠ node.nodeId) : (dag.store node blobKey parentIds).nodes.get? id
      = (dag.nodes.get? id).map (link parentIds node.nodeId) := by
  ext found
  rw [Option.map_eq_some_iff, KeyTable.get?_eq_some_iff, hnode.rows_store, List.mem_append,
    List.mem_map, List.mem_singleton]
  constructor
  · rintro ⟨⟨old, hold, rfl⟩ | rfl, rfl⟩
    · exact ⟨old, KeyTable.get?_eq_some_iff.mpr ⟨hold, (nodeId_link ..).symm⟩, rfl⟩
    · exact absurd rfl hid
  · rintro ⟨old, hold, rfl⟩
    obtain ⟨hmem, rfl⟩ := KeyTable.get?_eq_some_iff.mp hold
    exact ⟨.inl ⟨old, hmem, rfl⟩, nodeId_link ..⟩

theorem Insertable.extends (hnode : Insertable lib dag node parentIds) :
    dag.Extends (dag.store node blobKey parentIds) := by
  intro id old hold
  have hid : id ≠ node.nodeId := by
    rintro rfl
    exact absurd (hold.symm.trans hnode.newId) (by simp)
  exact ⟨_, by rw [hnode.get?_of_ne hid, hold]; rfl, sameNode_link ..⟩

/-! ## The outcomes of an insertion -/

section Outcomes

variable {nodeId : String} {payload : Val F} {hashes : List String} {hash : String}

theorem addNode_of_existing (hlooked : dag.parentHashesOf parentIds = .ok hashes)
    (hhash : computeHash lib payload hashes "v1" = .ok hash)
    (hid : dag.nodes.get? nodeId = some node) (heq : node.nodeHash = hash) :
    addNode lib nodeId payload parentIds dag = (.ok node, dag) := by
  rw [addNode, bind_of_ok get_apply, ofExcept_bind_of_ok hlooked, ofExcept_bind_of_ok hhash]
  simp only [hid, heq, ne_eq, not_true_eq_false, if_false]
  rfl

theorem addNode_of_duplicate (hlooked : dag.parentHashesOf parentIds = .ok hashes)
    (hhash : computeHash lib payload hashes "v1" = .ok hash)
    (hid : dag.nodes.get? nodeId = some node) (hne : node.nodeHash ≠ hash) :
    ∃ e, addNode lib nodeId payload parentIds dag = (.error e, dag) := by
  rw [addNode, bind_of_ok get_apply, ofExcept_bind_of_ok hlooked, ofExcept_bind_of_ok hhash]
  simp only [hid, hne, ne_eq, not_false_eq_true, if_true]
  exact ⟨_, rfl⟩

/-- Another node has the content. -/
theorem addNode_of_other (hlooked : dag.parentHashesOf parentIds = .ok hashes)
    (hhash : computeHash lib payload hashes "v1" = .ok hash)
    (hid : dag.nodes.get? nodeId = none) {otherId : String} (hother : dag.idOf hash = some otherId)
    (hnode : dag.nodes.get? otherId = some node) :
    addNode lib nodeId payload parentIds dag = (.ok node, dag) := by
  rw [addNode, bind_of_ok get_apply, ofExcept_bind_of_ok hlooked, ofExcept_bind_of_ok hhash]
  simp only [hid, hother, hnode]
  rfl

theorem exists_contentHash (hhash : computeHash lib payload hashes "v1" = .ok hash) :
    ∃ blobKey, contentHash lib payload = .ok blobKey := by
  obtain ⟨bytes, hbytes, -⟩ := bind_eq_ok_iff.mp hhash
  rw [preimage, if_neg (by decide), if_pos rfl] at hbytes
  obtain ⟨text, htext, -⟩ := bind_eq_ok_iff.mp hbytes
  exact ⟨_, by rw [contentHash, htext]; rfl⟩

/-- The id and the content are new. -/
theorem addNode_of_new (hlooked : dag.parentHashesOf parentIds = .ok hashes)
    (hhash : computeHash lib payload hashes "v1" = .ok hash)
    (hid : dag.nodes.get? nodeId = none) (hnew : dag.idOf hash = none) :
    ∃ blobKey, addNode lib nodeId payload parentIds dag
      = (.ok ⟨nodeId, payload, hashes, "v1", hash, .empty⟩,
        dag.store ⟨nodeId, payload, hashes, "v1", hash, .empty⟩ blobKey parentIds) := by
  obtain ⟨blobKey, hblob⟩ := exists_contentHash hhash
  refine ⟨blobKey, ?_⟩
  rw [addNode, bind_of_ok get_apply, ofExcept_bind_of_ok hlooked, ofExcept_bind_of_ok hhash]
  simp only [hid, hnew]
  rw [ofExcept_bind_of_ok hblob, bind_of_ok (modify_apply _)]
  rfl

theorem addNode_of_error (h : (∃ e, dag.parentHashesOf parentIds = .error e) ∨
      ∃ hashes, dag.parentHashesOf parentIds = .ok hashes ∧
        ∃ e, computeHash lib payload hashes "v1" = .error e) :
    ∃ e, addNode lib nodeId payload parentIds dag = (.error e, dag) := by
  rcases h with ⟨e, he⟩ | ⟨hashes, hlooked, e, he⟩
  · exact ⟨e, by rw [addNode, bind_of_ok get_apply, ofExcept_bind_of_error he]⟩
  · exact ⟨e, by rw [addNode, bind_of_ok get_apply, ofExcept_bind_of_ok hlooked,
      ofExcept_bind_of_error he]⟩

end Outcomes

/-! ### Which of them it is -/

/-- An insertion is refused: a parent is not there, the content cannot be hashed, or the id is taken
by another node. -/
def Refused (lib : MerkleLibrary F) (dag : MerkleDAGStore F) (nodeId : String) (payload : Val F)
    (parentIds : List String) : Prop :=
  (∃ e, dag.parentHashesOf parentIds = .error e) ∨
    ∃ hashes, dag.parentHashesOf parentIds = .ok hashes ∧
      ((∃ e, computeHash lib payload hashes "v1" = .error e) ∨
        ∃ hash, computeHash lib payload hashes "v1" = .ok hash ∧
          ∃ node, dag.nodes.get? nodeId = some node ∧ node.nodeHash ≠ hash)

/-- There is nothing to insert: the node is there, or another one with its content. -/
def Present (lib : MerkleLibrary F) (dag : MerkleDAGStore F) (nodeId : String) (payload : Val F)
    (parentIds : List String) : Prop :=
  ∃ hashes hash, dag.parentHashesOf parentIds = .ok hashes ∧
    computeHash lib payload hashes "v1" = .ok hash ∧
      ((∃ node, dag.nodes.get? nodeId = some node ∧ node.nodeHash = hash) ∨
        dag.nodes.get? nodeId = none ∧ ∃ otherId, dag.idOf hash = some otherId)

variable {nodeId : String} {payload : Val F}

theorem Refused.run (h : Refused lib dag nodeId payload parentIds) :
    ∃ e, addNode lib nodeId payload parentIds dag = (.error e, dag) := by
  rcases h with h | ⟨hashes, hlooked, h | ⟨hash, hhash, node, hnode, hne⟩⟩
  · exact addNode_of_error (.inl h)
  · exact addNode_of_error (.inr ⟨hashes, hlooked, h⟩)
  · exact addNode_of_duplicate hlooked hhash hnode hne

theorem WellFormed.get?_of_idOf (h : WellFormed lib dag) {hash id : String}
    (hid : dag.idOf hash = some id) : ∃ node, dag.nodes.get? id = some node ∧ node.nodeHash = hash := by
  obtain ⟨node, hmem, rfl, hhash⟩ := (h.indexed hash id).mp hid
  exact ⟨node, KeyTable.get?_eq_some_iff.mpr ⟨hmem, rfl⟩, hhash⟩

theorem Present.run (hwf : WellFormed lib dag) (h : Present lib dag nodeId payload parentIds) :
    ∃ node, addNode lib nodeId payload parentIds dag = (.ok node, dag) ∧
      dag.nodes.get? node.nodeId = some node ∧
      (dag.nodes.get? nodeId = none ∨ node.nodeId = nodeId) ∧
      ∃ hashes, dag.parentHashesOf parentIds = .ok hashes ∧
        computeHash lib payload hashes "v1" = .ok node.nodeHash := by
  obtain ⟨hashes, hash, hlooked, hhash, ⟨node, hnode, rfl⟩ | ⟨hid, otherId, hother⟩⟩ := h
  · have hself : node.nodeId = nodeId := (KeyTable.get?_eq_some_iff.mp hnode).2
    exact ⟨node, addNode_of_existing hlooked hhash hnode rfl, hself ▸ hnode, .inr hself,
      hashes, hlooked, hhash⟩
  · obtain ⟨node, hnode, rfl⟩ := hwf.get?_of_idOf hother
    have hself : node.nodeId = otherId := (KeyTable.get?_eq_some_iff.mp hnode).2
    exact ⟨node, addNode_of_other hlooked hhash hid hother hnode, hself ▸ hnode, .inl hid,
      hashes, hlooked, hhash⟩

/-- **What an insertion does**: it is refused, has nothing to do, or stores a new node. -/
theorem addNode_cases (lib : MerkleLibrary F) (dag : MerkleDAGStore F) (nodeId : String)
    (payload : Val F) (parentIds : List String) :
    Refused lib dag nodeId payload parentIds ∨ Present lib dag nodeId payload parentIds ∨
      ∃ node blobKey, Insertable lib dag node parentIds ∧ node.nodeId = nodeId ∧
        node.payload = payload ∧
        addNode lib nodeId payload parentIds dag
          = (.ok node, dag.store node blobKey parentIds) := by
  cases hlooked : dag.parentHashesOf parentIds with
  | error e => exact .inl (.inl ⟨e, hlooked⟩)
  | ok hashes =>
    cases hhash : computeHash lib payload hashes "v1" with
    | error e => exact .inl (.inr ⟨hashes, hlooked, .inl ⟨e, hhash⟩⟩)
    | ok hash =>
      cases hid : dag.nodes.get? nodeId with
      | some node =>
        by_cases heq : node.nodeHash = hash
        · exact .inr (.inl ⟨hashes, hash, hlooked, hhash, .inl ⟨node, hid, heq⟩⟩)
        · exact .inl (.inr ⟨hashes, hlooked, .inr ⟨hash, hhash, node, hid, heq⟩⟩)
      | none =>
        cases hindex : dag.idOf hash with
        | some otherId =>
          exact .inr (.inl ⟨hashes, hash, hlooked, hhash, .inr ⟨hid, otherId, hindex⟩⟩)
        | none =>
          obtain ⟨blobKey, hrun⟩ := addNode_of_new hlooked hhash hid hindex
          exact .inr (.inr ⟨_, blobKey, ⟨hlooked, hhash, rfl, hid, hindex, rfl⟩, rfl, rfl, hrun⟩)

theorem extends_addNode (hwf : WellFormed lib dag) :
    dag.Extends (addNode lib nodeId payload parentIds dag).2 := by
  rcases addNode_cases lib dag nodeId payload parentIds with h | h |
    ⟨node, blobKey, hnode, -, -, hrun⟩
  · obtain ⟨e, hrun⟩ := h.run
    exact hrun ▸ .refl dag
  · obtain ⟨node, hrun, -⟩ := h.run hwf
    exact hrun ▸ .refl dag
  · exact hrun ▸ hnode.extends

/-! ## The calls only add nodes -/

/-- A well-formed store that has grown from another one. -/
def Grown (lib : MerkleLibrary F) (start dag : MerkleDAGStore F) : Prop :=
  dag.WellFormed lib ∧ start.Extends dag

variable {start : MerkleDAGStore F}

theorem grown_addNode : Keeps (Grown lib start) (addNode lib nodeId payload parentIds) := by
  refine keeps_of_state fun s hs ↦ ⟨?_, hs.2.trans (extends_addNode hs.1)⟩
  exact ((sound_addNode nodeId payload parentIds).weaken (fun _ h ↦ h) (fun _ _ h ↦ h)
    fun _ _ h ↦ h.1).final hs.1

theorem grown_commitNodes (targetNodeId : String) (buffered : List (String × Val F × List String))
    (forkedNode : Option (MerkleNode F)) :
    Keeps (Grown lib start) (commitNodes lib targetNodeId buffered forkedNode) := by
  induction buffered generalizing forkedNode with
  | nil => exact triple_pure fun _ hs ↦ hs
  | cons first rest ih =>
    obtain ⟨newId, payload, parentIds⟩ := first
    exact Triple.bind grown_addNode fun _ ↦ ih _

/-- A series of insertions loses nothing, wherever it stops. -/
theorem extends_commitNodes (hwf : WellFormed lib dag) {dag' : MerkleDAGStore F}
    {targetNodeId : String} {buffered : List (String × Val F × List String)}
    {forkedNode : Option (MerkleNode F)} {result : Except Raised (Option (MerkleNode F))}
    (h : commitNodes lib targetNodeId buffered forkedNode dag = (result, dag')) :
    dag.Extends dag' := by
  have hgrown : Grown lib dag (commitNodes lib targetNodeId buffered forkedNode dag).2 :=
    (grown_commitNodes targetNodeId buffered forkedNode).final ⟨hwf, .refl dag⟩
  rw [h] at hgrown
  exact hgrown.2

theorem grown_forkLineage (targetNodeId : String) (newPayload : Val F) :
    Keeps (Grown lib start) (forkLineage lib targetNodeId newPayload) := by
  refine Triple.bind triple_get_eq fun dag ↦ ?_
  split
  · exact triple_raise fun _ hs ↦ hs.2
  · refine Triple.bind (triple_ofExcept (fun _ _ _ hs ↦ hs) fun _ _ _ hs ↦ hs.2) fun buffered ↦ ?_
    split
    · exact triple_raise fun _ hs ↦ hs.2
    · exact (grown_commitNodes targetNodeId buffered none).weaken (fun _ hs ↦ hs.2)
        (fun _ _ hs ↦ hs) fun _ _ hs ↦ hs

theorem grown_run (call : Call F) : Keeps (Grown lib start) (call.run lib) := by
  cases call with
  | addNode nodeId payload parentIds =>
    exact Triple.bind grown_addNode fun _ ↦ triple_pure fun _ hs ↦ hs
  | forkLineage targetNodeId newPayload => exact grown_forkLineage targetNodeId newPayload

/-- **Nothing is lost** in a series of calls. -/
theorem grown_after (hwf : WellFormed lib start) (calls : List (Call F)) :
    Grown lib start (after (Call.run lib) calls start) :=
  after_induction grown_run calls ⟨hwf, .refl start⟩

/-! ## Ids that can be used -/

omit [FloatText F] in
/-- `get_node`. -/
def getNode (dag : MerkleDAGStore F) (nodeId : String) : Option (MerkleNode F) :=
  dag.nodes.get? nodeId

/-- A node is found and verified under an id, and can be looked up as a parent with any others. -/
structure Usable (lib : MerkleLibrary F) (dag : MerkleDAGStore F) (id : String) : Prop where
  found : ∃ node, dag.getNode id = some node
  verified : dag.verifyChain lib id = .ok true
  parent : ∃ hash, ∀ parentIds hashes, dag.parentHashesOf parentIds = .ok hashes →
    dag.parentHashesOf (id :: parentIds) = .ok (hash :: hashes)

theorem WellFormed.usable (h : WellFormed lib dag) {id : String}
    (hnode : dag.nodes.get? id = some node) : Usable lib dag id where
  found := ⟨node, hnode⟩
  verified := h.verifyChain hnode
  parent := by
    refine ⟨node.nodeHash, fun parentIds hashes hlooked ↦ ?_⟩
    rw [parentHashesOf, hnode]
    dsimp only
    rw [hlooked, ok_bind]
    rfl

/-- What is known of a node that an insertion returns. -/
theorem addNode_returns (hwf : WellFormed lib dag) {dag' : MerkleDAGStore F}
    (h : addNode lib nodeId payload parentIds dag = (.ok node, dag')) :
    WellFormed lib dag' ∧ dag'.nodes.get? node.nodeId = some node ∧
      (dag'.nodes.get? nodeId = none ∨ node.nodeId = nodeId) ∧
      ∃ hashes, dag.parentHashesOf parentIds = .ok hashes ∧
        computeHash lib payload hashes "v1" = .ok node.nodeHash := by
  have hwf' : WellFormed lib dag' := (sound_addNode nodeId payload parentIds dag hwf).1 _ _ h
  refine ⟨hwf', ?_⟩
  rcases addNode_cases lib dag nodeId payload parentIds with hrefused | hpresent |
    ⟨new, blobKey, hnew, hid, rfl, hrun⟩
  · obtain ⟨e, hrun⟩ := hrefused.run
    exact absurd (Prod.mk.inj (h.symm.trans hrun)).1 (by simp)
  · obtain ⟨found, hrun, hfound⟩ := hpresent.run hwf
    obtain ⟨hok, rfl⟩ := Prod.mk.inj (h.symm.trans hrun)
    obtain rfl := Except.ok.inj hok
    exact hfound
  · obtain ⟨hok, rfl⟩ := Prod.mk.inj (h.symm.trans hrun)
    obtain rfl := Except.ok.inj hok
    exact ⟨hnew.get?_self, .inr hid, _, hnew.looked, by rw [← hnew.hashed, hnew.current]⟩

/-- **What is inserted can be used** under the id of the node that is returned, from then on; under
the id that was given, if that is the one. -/
theorem usable_addNode (calls : List (Call F)) {dag' : MerkleDAGStore F}
    (h : addNode lib nodeId payload parentIds (storeAfter lib calls) = (.ok node, dag')) :
    (∃ hashes, (storeAfter lib calls).parentHashesOf parentIds = .ok hashes ∧
      computeHash lib payload hashes "v1" = .ok node.nodeHash) ∧
    (∀ later, Usable lib (after (Call.run lib) later dag') node.nodeId ∧
      ∃ found, (after (Call.run lib) later dag').getNode node.nodeId = some found ∧
        SameNode node found) ∧
    (Usable lib dag' nodeId ↔ node.nodeId = nodeId) := by
  obtain ⟨hwf, hnode, hself, hhash⟩ := addNode_returns (wellFormed_storeAfter calls) h
  refine ⟨hhash, fun later ↦ ?_, fun husable ↦ ?_, fun heq ↦ ?_⟩
  · obtain ⟨hlater, hextends⟩ := grown_after hwf later
    obtain ⟨found, hfound, hsame⟩ := hextends _ _ hnode
    exact ⟨hlater.usable hfound, found, hfound, hsame⟩
  · obtain ⟨found, hfound⟩ := husable.found
    exact hself.resolve_left fun hnone ↦ absurd (hfound.symm.trans hnone) (by simp)
  · exact hwf.usable (heq ▸ hnode)

end MerkleDAGStore

/-! ## Two ids for one content -/

section Examples

open MerkleDAGStore

/-- What a second insertion of a payload comes to. -/
def insertedTwice : Except Raised (MerkleNode Empty) × MerkleDAGStore Empty :=
  addNode hexLibrary "b" .none [] (storeAfter hexLibrary [.addNode "a" .none []])

theorem exists_insertedTwice : ∃ node, insertedTwice = (.ok node, insertedTwice.2) := by
  have hok : insertedTwice.1.toOption.isSome = true := by decide +kernel
  cases hrun : insertedTwice with
  | mk r dag =>
    rw [hrun] at hok
    cases r with
    | ok node => exact ⟨node, rfl⟩
    | error e => exact absurd hok Bool.false_ne_true

/-- The id of the second insertion cannot be used. -/
theorem not_usable_insertedTwice :
    ¬ ∀ (calls : List (Call Empty)) (nodeId : String) (payload : Val Empty)
      (parentIds : List String) (node : MerkleNode Empty) (dag' : MerkleDAGStore Empty),
        addNode hexLibrary nodeId payload parentIds (storeAfter hexLibrary calls)
          = (.ok node, dag') → Usable hexLibrary dag' nodeId := by
  intro h
  obtain ⟨node, hrun⟩ := exists_insertedTwice
  obtain ⟨found, hfound⟩ := (h [.addNode "a" .none []] "b" .none [] node _ hrun).found
  have hnone : (insertedTwice.2.getNode "b").isSome = false := by decide +kernel
  rw [hfound] at hnone
  exact Bool.noConfusion hnone

theorem usable_addNode_insertedTwice : ∃ node, insertedTwice = (.ok node, insertedTwice.2) ∧
    (∃ hashes, (storeAfter hexLibrary [.addNode "a" .none []]).parentHashesOf [] = .ok hashes ∧
      computeHash hexLibrary .none hashes "v1" = .ok node.nodeHash) ∧
    (∀ later, Usable hexLibrary (after (Call.run hexLibrary) later insertedTwice.2) node.nodeId ∧
      ∃ found, (after (Call.run hexLibrary) later insertedTwice.2).getNode node.nodeId = some found ∧
        SameNode node found) ∧
    (Usable hexLibrary insertedTwice.2 "b" ↔ node.nodeId = "b") := by
  obtain ⟨node, hrun⟩ := exists_insertedTwice
  exact ⟨node, hrun, usable_addNode [.addNode "a" .none []] hrun⟩

end Examples

end DriftGuardX.Merkle
