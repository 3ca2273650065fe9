import DriftGuardX.Merkle.Insertion

/-!
# When a fork is all or nothing

A fork inserts the forks of all descendants of its target, one after the other, and stops at the
first insertion that is refused. What was inserted before stays. An insertion that finds another
node with the same content is not refused, but leaves the id of the fork without a node.

So a fork is all or nothing when every fork can be inserted or is there (`Forkable`), or when one is
refused before any is inserted (`RefusedFirst`), and not otherwise (`allOrNothing_iff`).
-/

namespace DriftGuardX.Merkle

open Json Bytes Transaction Program
open Recovery (Raised)

variable {F : Type}

namespace MerkleDAGStore

/-! ## What a fork is to do -/

section Statement

variable [FloatText F] (lib : MerkleLibrary F) (dag : MerkleDAGStore F) (targetNodeId : String)
  (newPayload : Val F)

omit [FloatText F] in
/-- The target of a fork and what descends from it. -/
def forked : List String := (dag.graph lib).descendants targetNodeId

omit [FloatText F] in
/-- The payload of the fork of a node. -/
def forkPayload (node : MerkleNode F) : Val F :=
  if node.nodeId = targetNodeId then newPayload else node.payload

omit [FloatText F] in
/-- The hash that a fork is to have for a parent: that of the fork of the parent, if it is forked. -/
def forkedHash (hashes : String → String) (parentHash : String) : String :=
  match dag.idOf parentHash with
  | some pid => if pid ∈ dag.forked lib targetNodeId then hashes pid else parentHash
  | none => parentHash

omit [FloatText F] in
/-- The hash of the fork of a node in a store. -/
def forkHash (id : String) : String := (dag.nodes.get? (forkId id)).elim "" MerkleNode.nodeHash

/-- A node has the content of a fork: the payload, as it is encoded, and the parents, in any
order. -/
structure ForkOf (hashes : String → String) (node fork : MerkleNode F) : Prop where
  payload : payloadBytes lib fork.payload
    = payloadBytes lib (forkPayload targetNodeId newPayload node)
  parentHashes : fork.parentHashes.Perm
    (node.parentHashes.map (dag.forkedHash lib targetNodeId hashes))

/-- Every node that is to be forked has its fork under the id of it. -/
def Forked (dag' : MerkleDAGStore F) : Prop :=
  ∀ id node, Relation.ReflTransGen dag.ParentOf targetNodeId id → dag.nodes.get? id = some node →
    ∃ fork, dag'.getNode (forkId id) = some fork ∧
      ForkOf lib dag targetNodeId newPayload dag'.forkHash node fork

/-- **All or nothing.** A fork that raises leaves the store as it was; one that returns has forked
every node, and has changed no node but for its children. -/
def AllOrNothing : Prop :=
  (∀ e dag', forkLineage lib targetNodeId newPayload dag = (.error e, dag') → dag' = dag) ∧
    ∀ fork dag', forkLineage lib targetNodeId newPayload dag = (.ok fork, dag') →
      Forked lib dag targetNodeId newPayload dag' ∧ dag.Extends dag'

end Statement

/-! ## The insertions of a fork -/

section Entries

variable [FloatText F] {lib : MerkleLibrary F} {dag : MerkleDAGStore F} {targetNodeId : String}
  {newPayload : Val F}

omit [FloatText F] in
/-- The order in which nodes are forked. -/
def forkOrder (lib : MerkleLibrary F) (dag : MerkleDAGStore F) (targetNodeId : String) :
    List String :=
  (dag.graph lib).topologicalOrder (lib.iterate (dag.forked lib targetNodeId))

omit [FloatText F] in
/-- What is inserted for a node. -/
def forkEntry (lib : MerkleLibrary F) (dag : MerkleDAGStore F) (targetNodeId : String)
    (newPayload : Val F) (node : MerkleNode F) : String × Val F × List String :=
  (forkId node.nodeId, forkPayload targetNodeId newPayload node,
    dag.forkParents (dag.forked lib targetNodeId) node)

omit [FloatText F] in
/-- The insertions of a fork, in order. -/
def forkEntries (lib : MerkleLibrary F) (dag : MerkleDAGStore F) (targetNodeId : String)
    (newPayload : Val F) : List (String × Val F × List String) :=
  (dag.forkOrder lib targetNodeId).filterMap fun id ↦
    (dag.nodes.get? id).map (dag.forkEntry lib targetNodeId newPayload)

omit [FloatText F] in
theorem forkId_injective : Function.Injective forkId := by
  intro id id' h
  have hlist := congrArg String.toList h
  rw [forkId, forkId, String.toList_append, String.toList_append] at hlist
  exact String.toList_injective (List.append_cancel_right hlist)

theorem WellFormed.mem_childrenOf_iff (h : WellFormed lib dag) {pid cid : String} :
    cid ∈ dag.childrenOf lib pid ↔ dag.ParentOf pid cid := by
  constructor
  · intro hchild
    obtain ⟨p, hp, hchild⟩ := dag.exists_of_mem_childrenOf lib hchild
    obtain ⟨c, hc, rfl, hmem⟩ :=
      (h.children p (KeyTable.get?_eq_some_iff.mp hp).1 cid).mp hchild
    exact ⟨p, c, hp, KeyTable.get?_eq_some_iff.mpr ⟨hc, rfl⟩, hmem⟩
  · rintro ⟨p, c, hp, hc, hmem⟩
    rw [childrenOf, hp, Option.elim_some, (lib.iterate_perm _).mem_iff]
    obtain ⟨hcmem, rfl⟩ := KeyTable.get?_eq_some_iff.mp hc
    exact (h.children p (KeyTable.get?_eq_some_iff.mp hp).1 _).mpr ⟨c, hcmem, rfl, hmem⟩

theorem WellFormed.mem_forked_iff (h : WellFormed lib dag) {id : String} :
    id ∈ dag.forked lib targetNodeId ↔ Relation.ReflTransGen dag.ParentOf targetNodeId id := by
  rw [forked, FiniteGraph.mem_descendants_iff]
  have hedge : (fun x y ↦ y ∈ (dag.graph lib).next x) = dag.ParentOf := by
    funext x y
    exact propext h.mem_childrenOf_iff
  rw [hedge]

theorem WellFormed.stored_of_mem_forked (h : WellFormed lib dag) {target : MerkleNode F}
    (htarget : dag.nodes.get? targetNodeId = some target) {id : String}
    (hid : id ∈ dag.forked lib targetNodeId) : ∃ node, dag.nodes.get? id = some node := by
  rcases Relation.ReflTransGen.cases_tail (h.mem_forked_iff.mp hid) with rfl | ⟨pid, -, hparent⟩
  · exact ⟨target, htarget⟩
  · obtain ⟨-, c, -, hc, -⟩ := hparent
    exact ⟨c, hc⟩

theorem WellFormed.perm_forkOrder (h : WellFormed lib dag) :
    (dag.forkOrder lib targetNodeId).Perm (dag.forked lib targetNodeId) := by
  have hnd : (lib.iterate (dag.forked lib targetNodeId)).Nodup :=
    (lib.iterate_perm _).nodup_iff.mpr (FiniteGraph.nodup_descendants _)
  have hplace : ∀ a ∈ lib.iterate (dag.forked lib targetNodeId), ∀ b ∈ (dag.graph lib).next a,
      b ∈ lib.iterate (dag.forked lib targetNodeId) → dag.place a < dag.place b :=
    fun a _ b hb _ ↦ h.place_lt_of_parentOf (h.mem_childrenOf_iff.mp hb)
  exact (FiniteGraph.perm_topologicalOrder hnd hplace).trans (lib.iterate_perm _)

theorem WellFormed.pairwise_forkOrder (h : WellFormed lib dag) :
    (dag.forkOrder lib targetNodeId).Pairwise fun a b ↦ ¬dag.ParentOf b a := by
  have hnd : (lib.iterate (dag.forked lib targetNodeId)).Nodup :=
    (lib.iterate_perm _).nodup_iff.mpr (FiniteGraph.nodup_descendants _)
  refine (FiniteGraph.pairwise_topologicalOrder hnd).imp fun hedge hparent ↦ ?_
  exact hedge (h.mem_childrenOf_iff.mpr hparent)

/-- In the order of the forks the parents of a node that are forked come before it. -/
theorem WellFormed.mem_done (h : WellFormed lib dag) {done rest : List String}
    {node : MerkleNode F} (horder : done ++ node.nodeId :: rest = dag.forkOrder lib targetNodeId)
    (hnode : node ∈ dag.nodes.rows) {parentHash pid : String} (hhash : parentHash ∈ node.parentHashes)
    (hpid : dag.idOf parentHash = some pid) :
    pid ∈ done ↔ pid ∈ dag.forked lib targetNodeId := by
  have hperm : (dag.forkOrder lib targetNodeId).Perm (dag.forked lib targetNodeId) :=
    h.perm_forkOrder
  have hparent : dag.ParentOf pid node.nodeId := by
    obtain ⟨p, hp, rfl, rfl⟩ := (h.indexed parentHash pid).mp hpid
    exact ⟨p, node, KeyTable.get?_eq_some_iff.mpr ⟨hp, rfl⟩,
      KeyTable.get?_eq_some_iff.mpr ⟨hnode, rfl⟩, hhash⟩
  rw [← hperm.mem_iff, ← horder]
  refine ⟨List.mem_append_left _, fun hmem ↦ ?_⟩
  rcases List.mem_append.mp hmem with hdone | hlater
  · exact hdone
  have hpairwise : (dag.forkOrder lib targetNodeId).Pairwise fun a b ↦ ¬dag.ParentOf b a :=
    h.pairwise_forkOrder
  rw [← horder, List.pairwise_append, List.pairwise_cons] at hpairwise
  rcases List.mem_cons.mp hlater with rfl | hrest
  · exact absurd (h.place_lt_of_parentOf hparent) (lt_irrefl _)
  · exact absurd hparent (hpairwise.2.1.1 pid hrest)

/-- The nodes that are buffered are the insertions of the fork. -/
theorem WellFormed.bufferedNodes_eq (h : WellFormed lib dag) {done rest : List String}
    (horder : done ++ rest = dag.forkOrder lib targetNodeId)
    (hstored : ∀ id ∈ rest, ∃ node, dag.nodes.get? id = some node) :
    dag.bufferedNodes targetNodeId newPayload done rest = .ok (rest.filterMap fun id ↦
      (dag.nodes.get? id).map (dag.forkEntry lib targetNodeId newPayload)) := by
  induction rest generalizing done with
  | nil => rfl
  | cons curr rest ih =>
    obtain ⟨⟨node, hnode⟩, hrest⟩ := List.forall_mem_cons.mp hstored
    obtain ⟨hmem, rfl⟩ := KeyTable.get?_eq_some_iff.mp hnode
    have hparents : dag.forkParents done node
        = dag.forkParents (dag.forked lib targetNodeId) node := by
      refine List.filterMap_congr fun parentHash hhash ↦ ?_
      cases hpid : dag.idOf parentHash with
      | none => rfl
      | some pid => simp only [h.mem_done horder hmem hhash hpid]
    rw [bufferedNodes, hnode]
    dsimp only
    rw [ih (by rw [← horder, List.append_assoc, List.singleton_append]) hrest, ok_bind,
      List.filterMap_cons, hnode, hparents]
    rfl

/-- **A fork** of a node that is there inserts its forks. -/
theorem WellFormed.forkLineage_eq (h : WellFormed lib dag) {target : MerkleNode F}
    (htarget : dag.nodes.get? targetNodeId = some target) :
    forkLineage lib targetNodeId newPayload dag = commitNodes lib targetNodeId
      (dag.forkEntries lib targetNodeId newPayload) none dag := by
  have hbuffered : dag.bufferedNodes targetNodeId newPayload [] (dag.forkOrder lib targetNodeId)
      = .ok (dag.forkEntries lib targetNodeId newPayload) :=
    h.bufferedNodes_eq rfl fun id hid ↦
      h.stored_of_mem_forked htarget (h.perm_forkOrder.mem_iff.mp hid)
  have hlength : (dag.forkOrder lib targetNodeId).length
      = (lib.iterate (dag.forked lib targetNodeId)).length :=
    h.length_topologicalOrder targetNodeId
  rw [forkLineage, bind_of_ok get_apply, if_neg (by simp [htarget])]
  change (Program.ofExcept (dag.bufferedNodes targetNodeId newPayload []
    (dag.forkOrder lib targetNodeId)) >>= fun buffered ↦
      if (dag.forkOrder lib targetNodeId).length
        ≠ (lib.iterate (dag.forked lib targetNodeId)).length then .raise cycleDetected
      else commitNodes lib targetNodeId buffered none) dag = _
  rw [ofExcept_bind_of_ok hbuffered, if_neg (not_not.mpr hlength)]

end Entries

/-! ## Insertions one after the other -/

section Commit

variable [FloatText F] {lib : MerkleLibrary F} {dag dag' : MerkleDAGStore F} {targetNodeId : String}
  {entries : List (String × Val F × List String)} {forkedNode : Option (MerkleNode F)}

/-- Some insertion is refused, and there is nothing to do for those before it. -/
def RefusedFirst (lib : MerkleLibrary F) (dag : MerkleDAGStore F) :
    List (String × Val F × List String) → Prop
  | [] => False
  | (newId, payload, parentIds) :: rest => Refused lib dag newId payload parentIds ∨
      Present lib dag newId payload parentIds ∧ RefusedFirst lib dag rest

theorem commitNodes_cons {newId : String} {payload : Val F} {parentIds : List String}
    {node : MerkleNode F} (h : addNode lib newId payload parentIds dag = (.ok node, dag')) :
    commitNodes lib targetNodeId ((newId, payload, parentIds) :: entries) forkedNode dag
      = commitNodes lib targetNodeId entries
        (if newId = forkId targetNodeId then some node else forkedNode) dag' := by
  rw [commitNodes, bind_of_ok h]

theorem commitNodes_of_refusedFirst (hwf : WellFormed lib dag)
    (h : RefusedFirst lib dag entries) :
    ∃ e, commitNodes lib targetNodeId entries forkedNode dag = (.error e, dag) := by
  induction entries generalizing forkedNode with
  | nil => exact h.elim
  | cons first rest ih =>
    obtain ⟨newId, payload, parentIds⟩ := first
    rcases h with hrefused | ⟨hpresent, hrest⟩
    · obtain ⟨e, hrun⟩ := hrefused.run
      exact ⟨e, by rw [commitNodes, bind_of_error hrun]⟩
    · obtain ⟨node, hrun, -⟩ := hpresent.run hwf
      rw [commitNodes_cons hrun]
      exact ih hrest

/-- Insertions that raise and change nothing begin with a refusal: what is stored stays. -/
theorem refusedFirst_of_commitNodes (hwf : WellFormed lib dag) {e : Raised}
    (h : commitNodes lib targetNodeId entries forkedNode dag = (.error e, dag)) :
    RefusedFirst lib dag entries := by
  induction entries generalizing forkedNode with
  | nil => exact absurd (Prod.mk.inj h).1 (by simp)
  | cons first rest ih =>
    obtain ⟨newId, payload, parentIds⟩ := first
    rcases addNode_cases lib dag newId payload parentIds with hrefused | hpresent |
      ⟨node, blobKey, hnode, -, -, hrun⟩
    · exact .inl hrefused
    · obtain ⟨node, hrun, -⟩ := hpresent.run hwf
      rw [commitNodes_cons hrun] at h
      exact .inr ⟨hpresent, ih h⟩
    · rw [commitNodes_cons hrun] at h
      have hextends := extends_commitNodes (hwf.store hnode) h
      obtain ⟨found, hfound, -⟩ := hextends _ _ hnode.get?_self
      exact absurd (hfound.symm.trans hnode.newId) (by simp)

theorem get?_commitNodes (hwf : WellFormed lib dag) {result : Option (MerkleNode F)}
    (h : commitNodes lib targetNodeId entries forkedNode dag = (.ok result, dag')) {id : String}
    (hid : id ∉ entries.map Prod.fst) (hnone : dag.nodes.get? id = none) :
    dag'.nodes.get? id = none := by
  induction entries generalizing dag forkedNode with
  | nil => rwa [← (Prod.mk.inj h).2]
  | cons first rest ih =>
    obtain ⟨newId, payload, parentIds⟩ := first
    rw [List.map_cons, List.mem_cons, not_or] at hid
    rcases addNode_cases lib dag newId payload parentIds with hrefused | hpresent |
      ⟨node, blobKey, hnode, rfl, -, hrun⟩
    · obtain ⟨e, hrun⟩ := hrefused.run
      rw [commitNodes, bind_of_error hrun] at h
      exact absurd (Prod.mk.inj h).1 (by simp)
    · obtain ⟨node, hrun, -⟩ := hpresent.run hwf
      rw [commitNodes_cons hrun] at h
      exact ih hwf h hid.2 hnone
    · rw [commitNodes_cons hrun] at h
      refine ih (hwf.store hnode) h hid.2 ?_
      rw [hnode.get?_of_ne hid.1, hnone, Option.map_none]

/-- **Insertions that return.** The node under the id of each, if there is one, has the hash of the
content, and is the one inserted if there was none before. -/
theorem commitNodes_returns (hwf : WellFormed lib dag) (hnd : (entries.map Prod.fst).Nodup)
    {result : Option (MerkleNode F)}
    (h : commitNodes lib targetNodeId entries forkedNode dag = (.ok result, dag')) :
    ∀ entry ∈ entries, ∃ hashes hash, dag'.parentHashesOf entry.2.2 = .ok hashes ∧
      computeHash lib entry.2.1 hashes "v1" = .ok hash ∧
      ∀ found, dag'.nodes.get? entry.1 = some found → found.nodeHash = hash ∧
        (dag.nodes.get? entry.1 = none → found.payload = entry.2.1 ∧
          found.parentHashes = hashes) := by
  induction entries generalizing dag forkedNode with
  | nil => exact nofun
  | cons first rest ih =>
    obtain ⟨newId, payload, parentIds⟩ := first
    obtain ⟨hfirst, hrest⟩ := List.nodup_cons.mp hnd
    rcases addNode_cases lib dag newId payload parentIds with hrefused | hpresent |
      ⟨node, blobKey, hnode, rfl, rfl, hrun⟩
    · obtain ⟨e, hrun⟩ := hrefused.run
      rw [commitNodes, bind_of_error hrun] at h
      exact absurd (Prod.mk.inj h).1 (by simp)
    · obtain ⟨node, hrun, -⟩ := hpresent.run hwf
      rw [commitNodes_cons hrun] at h
      refine List.forall_mem_cons.mpr ⟨?_, ih hwf hrest h⟩
      have hextends := extends_commitNodes hwf h
      obtain ⟨hashes, hash, hlooked, hhash, hhow⟩ := hpresent
      refine ⟨hashes, hash, hextends.parentHashesOf hlooked, hhash, fun found hfound ↦ ?_⟩
      rcases hhow with ⟨existing, hexisting, heq⟩ | ⟨hnone, -⟩
      · obtain ⟨found', hfound', hsame⟩ := hextends _ _ hexisting
        obtain rfl := Option.some.inj (hfound.symm.trans hfound')
        exact ⟨hsame.nodeHash.trans heq, fun hnone ↦ absurd (hexisting.symm.trans hnone) (by simp)⟩
      · exact absurd (hfound.symm.trans (get?_commitNodes hwf h hfirst hnone)) (by simp)
    · rw [commitNodes_cons hrun] at h
      have hwf' : WellFormed lib (dag.store node blobKey parentIds) := hwf.store hnode
      have hextends := extends_commitNodes hwf' h
      refine List.forall_mem_cons.mpr ⟨?_, fun entry hentry ↦ ?_⟩
      · refine ⟨node.parentHashes, node.nodeHash,
          (hnode.extends.trans hextends).parentHashesOf hnode.looked,
          hnode.current ▸ hnode.hashed, fun found hfound ↦ ?_⟩
        obtain ⟨found', hfound', hsame⟩ := hextends _ _ hnode.get?_self
        obtain rfl := Option.some.inj (hfound.symm.trans hfound')
        exact ⟨hsame.nodeHash, fun _ ↦ ⟨hsame.payload, hsame.parentHashes⟩⟩
      · obtain ⟨hashes, hash, hlooked, hhash, hfound⟩ := ih hwf' hrest h entry hentry
        refine ⟨hashes, hash, hlooked, hhash, fun found hstored ↦ ?_⟩
        obtain ⟨heq, hnew⟩ := hfound found hstored
        refine ⟨heq, fun hnone ↦ hnew ?_⟩
        have hne : entry.1 ≠ node.nodeId := fun hid ↦
          hfirst (List.mem_map.mpr ⟨entry, hentry, hid⟩)
        rw [hnode.get?_of_ne hne, hnone, Option.map_none]

end Commit

/-! ## Forks that can be inserted -/

section Forkable

variable [FloatText F] (lib : MerkleLibrary F) (dag : MerkleDAGStore F) (targetNodeId : String)
  (newPayload : Val F) (hashes : String → String)

omit [FloatText F] in
/-- The hashes of the parents of a fork as they are looked up: a parent that is not forked and whose
id is empty is left out. -/
def lookedHashes (node : MerkleNode F) : List String :=
  node.parentHashes.filterMap fun parentHash ↦ match dag.idOf parentHash with
    | some pid => if pid ∈ dag.forked lib targetNodeId then some (hashes pid)
      else if pid ≠ "" then some parentHash else none
    | none => none

omit [FloatText F] in
/-- No parent is left out. -/
def KeepsParents (node : MerkleNode F) : Prop :=
  ∀ parentHash ∈ node.parentHashes, dag.idOf parentHash = some "" →
    "" ∈ dag.forked lib targetNodeId

/-- Every fork has a hash, different forks have different ones, and each fork is there under its id,
or neither its id nor its hash is taken. -/
structure Forkable : Prop where
  hashed : ∀ id ∈ dag.forked lib targetNodeId, ∀ node, dag.nodes.get? id = some node →
    computeHash lib (forkPayload targetNodeId newPayload node)
      (dag.lookedHashes lib targetNodeId hashes node) "v1" = .ok (hashes id)
  place : ∀ id ∈ dag.forked lib targetNodeId, ∀ node, dag.nodes.get? id = some node →
    (∃ fork, dag.nodes.get? (forkId id) = some fork ∧ fork.nodeHash = hashes id ∧
        ForkOf lib dag targetNodeId newPayload hashes node fork) ∨
      dag.nodes.get? (forkId id) = none ∧ dag.idOf (hashes id) = none ∧
        dag.KeepsParents lib targetNodeId node
  distinct : ∀ id ∈ dag.forked lib targetNodeId, ∀ id' ∈ dag.forked lib targetNodeId,
    hashes id = hashes id' → id = id'

variable {lib dag targetNodeId newPayload hashes} {dag' : MerkleDAGStore F} {node : MerkleNode F}

omit [FloatText F] in
/-- Parents that are found have the hashes that are looked up. -/
theorem parentHashesOf_filterMap {f g : String → Option String} {parentHashes : List String}
    (h : ∀ parentHash ∈ parentHashes, f parentHash = none ∧ g parentHash = none ∨
      ∃ pid p, f parentHash = some pid ∧ dag'.nodes.get? pid = some p ∧
        g parentHash = some p.nodeHash) :
    dag'.parentHashesOf (parentHashes.filterMap f) = .ok (parentHashes.filterMap g) := by
  induction parentHashes with
  | nil => rfl
  | cons parentHash parentHashes ih =>
    obtain ⟨hfirst, hrest⟩ := List.forall_mem_cons.mp h
    rcases hfirst with ⟨hf, hg⟩ | ⟨pid, p, hf, hp, hg⟩
    · rw [List.filterMap_cons, List.filterMap_cons, hf, hg]
      exact ih hrest
    · rw [List.filterMap_cons, List.filterMap_cons, hf, hg]
      dsimp only
      rw [parentHashesOf, hp]
      dsimp only
      rw [ih hrest, ok_bind]
      rfl

/-- The parents of a fork are looked up in a store that has grown and has the forks of them. -/
theorem WellFormed.parentHashesOf_forkParents (h : WellFormed lib dag) (hextends : dag.Extends dag')
    (hnode : node ∈ dag.nodes.rows)
    (hforks : ∀ pid ∈ dag.forked lib targetNodeId, dag.ParentOf pid node.nodeId →
      ∃ fork, dag'.nodes.get? (forkId pid) = some fork ∧ fork.nodeHash = hashes pid) :
    dag'.parentHashesOf (dag.forkParents (dag.forked lib targetNodeId) node)
      = .ok (dag.lookedHashes lib targetNodeId hashes node) := by
  refine parentHashesOf_filterMap fun parentHash hhash ↦ ?_
  cases hpid : dag.idOf parentHash with
  | none => exact .inl ⟨rfl, rfl⟩
  | some pid =>
    obtain ⟨p, hp, rfl⟩ := h.get?_of_idOf hpid
    dsimp only
    by_cases hforked : pid ∈ dag.forked lib targetNodeId
    · obtain ⟨fork, hfork, heq⟩ := hforks pid hforked
        ⟨p, node, hp, KeyTable.get?_eq_some_iff.mpr ⟨hnode, rfl⟩, hhash⟩
      exact .inr ⟨forkId pid, fork, if_pos hforked, hfork, by rw [if_pos hforked, heq]⟩
    · rw [if_neg hforked, if_neg hforked]
      by_cases hempty : pid = ""
      · exact .inl ⟨if_neg (not_not.mpr hempty), if_neg (not_not.mpr hempty)⟩
      · obtain ⟨p', hp', hsame⟩ := hextends pid p hp
        exact .inr ⟨pid, p', if_pos hempty, hp', by rw [if_pos hempty, hsame.nodeHash]⟩

theorem WellFormed.lookedHashes_eq (h : WellFormed lib dag) (hnode : node ∈ dag.nodes.rows)
    (hkept : dag.KeepsParents lib targetNodeId node) :
    dag.lookedHashes lib targetNodeId hashes node
      = node.parentHashes.map (dag.forkedHash lib targetNodeId hashes) := by
  rw [lookedHashes, ← List.filterMap_eq_map]
  refine List.filterMap_congr fun parentHash hhash ↦ ?_
  rw [Function.comp_apply, forkedHash]
  cases hpid : dag.idOf parentHash with
  | none =>
    obtain ⟨p, hp, heq⟩ := h.parents node hnode parentHash hhash
    exact absurd ((h.indexed _ _).mpr ⟨p, hp, rfl, heq⟩) (by simp [hpid])
  | some pid =>
    dsimp only
    by_cases hforked : pid ∈ dag.forked lib targetNodeId
    · rw [if_pos hforked, if_pos hforked]
    · rw [if_neg hforked, if_neg hforked, if_pos]
      rintro rfl
      exact hforked (hkept parentHash hhash hpid)

omit [FloatText F] in
theorem keepsParents_of_length (h : (dag.lookedHashes lib targetNodeId hashes node).length
    = node.parentHashes.length) : dag.KeepsParents lib targetNodeId node := by
  intro parentHash hhash hempty
  have hsome := List.filterMap_length_eq_length.mp h parentHash hhash
  rw [hempty] at hsome
  by_contra hforked
  simp [hforked] at hsome

/-! ### Inserting them -/

/-- The store in the course of a fork: it has grown, has the forks of the nodes that were taken, and
no nodes besides. -/
structure Progress (lib : MerkleLibrary F) (dag : MerkleDAGStore F) (targetNodeId : String)
    (newPayload : Val F) (hashes : String → String) (done : List String)
    (dag' : MerkleDAGStore F) : Prop where
  wellFormed : WellFormed lib dag'
  extends_ : dag.Extends dag'
  forks : ∀ id ∈ done, ∀ node, dag.nodes.get? id = some node →
    ∃ fork, dag'.nodes.get? (forkId id) = some fork ∧ fork.nodeHash = hashes id ∧
      ForkOf lib dag targetNodeId newPayload hashes node fork
  nodes : ∀ n ∈ dag'.nodes.rows, (∃ m ∈ dag.nodes.rows, m.nodeId = n.nodeId ∧
    m.nodeHash = n.nodeHash) ∨ ∃ id ∈ done, n.nodeId = forkId id ∧ n.nodeHash = hashes id

theorem progress_refl (h : WellFormed lib dag) :
    Progress lib dag targetNodeId newPayload hashes [] dag :=
  ⟨h, .refl dag, nofun, fun n hn ↦ .inl ⟨n, hn, rfl, rfl⟩⟩

/-- A fork that is there is taken. -/
theorem Progress.take {done : List String} (h : Progress lib dag targetNodeId newPayload hashes
    done dag') (hnode : dag.nodes.get? node.nodeId = some node) {fork : MerkleNode F}
    (hfork : dag'.nodes.get? (forkId node.nodeId) = some fork)
    (heq : fork.nodeHash = hashes node.nodeId)
    (hcontent : ForkOf lib dag targetNodeId newPayload hashes node fork) :
    Progress lib dag targetNodeId newPayload hashes (done ++ [node.nodeId]) dag' := by
  refine { h with forks := fun id hid m hm ↦ ?_, nodes := fun n hn ↦ ?_ }
  · rcases List.mem_append.mp hid with hdone | hlast
    · exact h.forks id hdone m hm
    · obtain rfl := List.mem_singleton.mp hlast
      obtain rfl := Option.some.inj (hnode.symm.trans hm)
      exact ⟨fork, hfork, heq, hcontent⟩
  · refine (h.nodes n hn).imp id ?_
    rintro ⟨id, hid, heq⟩
    exact ⟨id, List.mem_append_left _ hid, heq⟩

/-- A fork whose id and hash are not taken is not there yet. -/
theorem Progress.fresh (h : WellFormed lib dag)
    (hforkable : Forkable lib dag targetNodeId newPayload hashes) {done : List String}
    (hprogress : Progress lib dag targetNodeId newPayload hashes done dag') {id : String}
    (hdone : ∀ id ∈ done, id ∈ dag.forked lib targetNodeId)
    (hid : id ∈ dag.forked lib targetNodeId) (hnew : id ∉ done)
    (hfree : dag.nodes.get? (forkId id) = none) (hindex : dag.idOf (hashes id) = none) :
    dag'.nodes.get? (forkId id) = none ∧ dag'.idOf (hashes id) = none := by
  constructor
  · rw [Option.eq_none_iff_forall_not_mem]
    intro n hn
    obtain ⟨hmem, hself⟩ := KeyTable.get?_eq_some_iff.mp hn
    rcases hprogress.nodes n hmem with ⟨m, hm, heq, -⟩ | ⟨other, hother, heq, -⟩
    · have hthere := KeyTable.get?_eq_some_iff.mpr ⟨hm, heq.trans hself⟩
      exact absurd (hthere.symm.trans hfree) (by simp)
    · exact hnew (forkId_injective (hself.symm.trans heq) ▸ hother)
  · rw [Option.eq_none_iff_forall_not_mem]
    intro x hx
    obtain ⟨n, hn, hhash⟩ := hprogress.wellFormed.get?_of_idOf hx
    rcases hprogress.nodes n (KeyTable.get?_eq_some_iff.mp hn).1 with ⟨m, hm, -, heq⟩ |
      ⟨other, hother, -, heq⟩
    · have hthere := (h.indexed (hashes id) m.nodeId).mpr ⟨m, hm, rfl, heq.trans hhash⟩
      exact absurd (hthere.symm.trans hindex) (by simp)
    · have hsame := hforkable.distinct id hid other (hdone other hother) (hhash.symm.trans heq)
      exact hnew (hsame ▸ hother)

/-- A fork that is stored is taken. -/
theorem Progress.store {done parentIds : List String} {blobKey : String} {fork : MerkleNode F}
    (h : Progress lib dag targetNodeId newPayload hashes done dag')
    (hnode : dag.nodes.get? node.nodeId = some node) (hfork : Insertable lib dag' fork parentIds)
    (hid : fork.nodeId = forkId node.nodeId) (heq : fork.nodeHash = hashes node.nodeId)
    (hcontent : ForkOf lib dag targetNodeId newPayload hashes node fork) :
    Progress lib dag targetNodeId newPayload hashes (done ++ [node.nodeId])
      (dag'.store fork blobKey parentIds) where
  wellFormed := h.wellFormed.store hfork
  extends_ := h.extends_.trans hfork.extends
  forks id hmem m hm := by
    rcases List.mem_append.mp hmem with hdone | hlast
    · obtain ⟨old, hold, hhash, hsame⟩ := h.forks id hdone m hm
      have hextends : dag'.Extends (dag'.store fork blobKey parentIds) := hfork.extends
      obtain ⟨old', hold', hlinked⟩ := hextends _ _ hold
      refine ⟨old', hold', hlinked.nodeHash.trans hhash, ?_, ?_⟩
      · rw [hlinked.payload]
        exact hsame.payload
      · rw [hlinked.parentHashes]
        exact hsame.parentHashes
    · obtain rfl := List.mem_singleton.mp hlast
      obtain rfl := Option.some.inj (hnode.symm.trans hm)
      exact ⟨fork, hid ▸ hfork.get?_self, heq, hcontent⟩
  nodes := by
    refine hfork.forall_store.mpr ⟨fun n hn ↦ ?_, ?_⟩
    · rw [nodeId_link, nodeHash_link]
      refine (h.nodes n hn).imp (fun hold ↦ hold) ?_
      rintro ⟨id, hid, heq⟩
      exact ⟨id, List.mem_append_left _ hid, heq⟩
    · exact .inr ⟨node.nodeId, by simp, hid, heq⟩

/-- One fork is inserted. -/
theorem Progress.step (h : WellFormed lib dag)
    (hforkable : Forkable lib dag targetNodeId newPayload hashes) {done rest : List String}
    (horder : done ++ node.nodeId :: rest = dag.forkOrder lib targetNodeId)
    (hnode : node ∈ dag.nodes.rows)
    (hprogress : Progress lib dag targetNodeId newPayload hashes done dag') :
    ∃ fork dag'', addNode lib (forkId node.nodeId) (forkPayload targetNodeId newPayload node)
        (dag.forkParents (dag.forked lib targetNodeId) node) dag' = (.ok fork, dag'') ∧
      Progress lib dag targetNodeId newPayload hashes (done ++ [node.nodeId]) dag'' := by
  have hget : dag.nodes.get? node.nodeId = some node := KeyTable.get?_eq_some_iff.mpr ⟨hnode, rfl⟩
  have hmem : ∀ id ∈ done ++ node.nodeId :: rest, id ∈ dag.forked lib targetNodeId :=
    fun id hid ↦ h.perm_forkOrder.mem_iff.mp (horder ▸ hid)
  have hself : node.nodeId ∈ dag.forked lib targetNodeId := hmem _ (by simp)
  have hnew : node.nodeId ∉ done := by
    have hnd : (dag.forkOrder lib targetNodeId).Nodup :=
      h.perm_forkOrder.nodup_iff.mpr (FiniteGraph.nodup_descendants _)
    rw [← horder, List.nodup_append] at hnd
    exact fun hdone ↦ hnd.2.2 _ hdone _ List.mem_cons_self rfl
  have hlooked : dag'.parentHashesOf (dag.forkParents (dag.forked lib targetNodeId) node)
      = .ok (dag.lookedHashes lib targetNodeId hashes node) := by
    refine h.parentHashesOf_forkParents hprogress.extends_ hnode fun pid hpid hparent ↦ ?_
    obtain ⟨p, c, hp, hc, hhash⟩ := hparent
    obtain rfl := Option.some.inj (hget.symm.trans hc)
    have hindex := (h.indexed p.nodeHash pid).mpr
      ⟨p, (KeyTable.get?_eq_some_iff.mp hp).1, (KeyTable.get?_eq_some_iff.mp hp).2, rfl⟩
    have hdone := (h.mem_done horder hnode hhash hindex).mpr hpid
    obtain ⟨fork, hfork, heq, -⟩ := hprogress.forks pid hdone p hp
    exact ⟨fork, hfork, heq⟩
  have hhash := hforkable.hashed node.nodeId hself node hget
  rcases hforkable.place node.nodeId hself node hget with ⟨fork, hfork, heq, hcontent⟩ |
    ⟨hfree, hindex, hkept⟩
  · -- the fork was there before
    obtain ⟨fork', hfork', hsame⟩ := hprogress.extends_ _ _ hfork
    refine ⟨fork', dag', addNode_of_existing hlooked hhash hfork' (hsame.nodeHash.trans heq), ?_⟩
    refine hprogress.take hget hfork' (hsame.nodeHash.trans heq) ⟨?_, ?_⟩
    · rw [hsame.payload]
      exact hcontent.payload
    · rw [hsame.parentHashes]
      exact hcontent.parentHashes
  · -- the fork is stored
    obtain ⟨hfree', hindex'⟩ := hprogress.fresh h hforkable
      (fun id hid ↦ hmem id (List.mem_append_left _ hid)) hself hnew hfree hindex
    obtain ⟨blobKey, hrun⟩ := addNode_of_new hlooked hhash hfree' hindex'
    refine ⟨_, _, hrun, hprogress.store hget ⟨hlooked, hhash, rfl, hfree', hindex', rfl⟩ rfl rfl
      ⟨rfl, ?_⟩⟩
    rw [← h.lookedHashes_eq hnode hkept]

/-- **All forks are inserted** where they can be. -/
theorem Forkable.commitNodes (h : WellFormed lib dag)
    (hforkable : Forkable lib dag targetNodeId newPayload hashes) {done rest : List String}
    (forkedNode : Option (MerkleNode F)) (horder : done ++ rest = dag.forkOrder lib targetNodeId)
    (hstored : ∀ id ∈ rest, ∃ node, dag.nodes.get? id = some node)
    (hprogress : Progress lib dag targetNodeId newPayload hashes done dag') :
    ∃ result dag'', MerkleDAGStore.commitNodes lib targetNodeId (rest.filterMap fun id ↦
        (dag.nodes.get? id).map (dag.forkEntry lib targetNodeId newPayload)) forkedNode dag'
          = (.ok result, dag'') ∧
      Progress lib dag targetNodeId newPayload hashes (done ++ rest) dag'' := by
  induction rest generalizing done dag' forkedNode with
  | nil => exact ⟨forkedNode, dag', rfl, by rwa [List.append_nil]⟩
  | cons curr rest ih =>
    obtain ⟨⟨node, hnode⟩, hrest⟩ := List.forall_mem_cons.mp hstored
    obtain ⟨hmem, rfl⟩ := KeyTable.get?_eq_some_iff.mp hnode
    obtain ⟨fork, next, hrun, hnext⟩ := hprogress.step h hforkable horder hmem
    rw [List.filterMap_cons, hnode, Option.map_some]
    dsimp only
    rw [forkEntry, commitNodes_cons hrun]
    obtain ⟨result, last, hlast, hprogress'⟩ := ih _ (by rw [← horder, List.append_assoc]; rfl)
      hrest hnext
    exact ⟨result, last, hlast, by rwa [List.append_assoc] at hprogress'⟩

end Forkable

/-! ## All or nothing -/

section AllOrNothing

variable [FloatText F] {lib : MerkleLibrary F} {dag dag' : MerkleDAGStore F} {targetNodeId : String}
  {newPayload : Val F} {hashes : String → String}

theorem extends_forkLineage (h : WellFormed lib dag) {fork : Option (MerkleNode F)}
    (hrun : forkLineage lib targetNodeId newPayload dag = (.ok fork, dag')) : Grown lib dag dag' :=
  (grown_forkLineage targetNodeId newPayload dag ⟨h, .refl dag⟩).1 _ _ hrun

theorem allOrNothing_of_none (htarget : dag.getNode targetNodeId = none) :
    AllOrNothing lib dag targetNodeId newPayload := by
  have hrun : ∃ e, forkLineage lib targetNodeId newPayload dag = (.error e, dag) := by
    rw [forkLineage, bind_of_ok get_apply, if_pos (show dag.nodes.get? targetNodeId = none from htarget)]
    exact ⟨_, rfl⟩
  obtain ⟨e, hrun⟩ := hrun
  refine ⟨fun e' dag' h ↦ (Prod.mk.inj (h.symm.trans hrun)).2, fun fork dag' h ↦ ?_⟩
  exact absurd (Prod.mk.inj (h.symm.trans hrun)).1 (by simp)

theorem allOrNothing_of_refusedFirst (h : WellFormed lib dag) {target : MerkleNode F}
    (htarget : dag.getNode targetNodeId = some target)
    (hrefused : RefusedFirst lib dag (dag.forkEntries lib targetNodeId newPayload)) :
    AllOrNothing lib dag targetNodeId newPayload := by
  have hrun : ∃ e, commitNodes lib targetNodeId (dag.forkEntries lib targetNodeId newPayload) none
      dag = (.error e, dag) := commitNodes_of_refusedFirst h hrefused
  obtain ⟨e, hrun⟩ := hrun
  rw [← h.forkLineage_eq htarget] at hrun
  refine ⟨fun e' dag' h ↦ (Prod.mk.inj (h.symm.trans hrun)).2, fun fork dag' h ↦ ?_⟩
  exact absurd (Prod.mk.inj (h.symm.trans hrun)).1 (by simp)

omit [FloatText F] in
theorem map_forkedHash {node : MerkleNode F}
    (hforks : ∀ id ∈ dag.forked lib targetNodeId, dag'.forkHash id = hashes id) :
    node.parentHashes.map (dag.forkedHash lib targetNodeId hashes)
      = node.parentHashes.map (dag.forkedHash lib targetNodeId dag'.forkHash) := by
  refine List.map_congr_left fun parentHash _ ↦ ?_
  rw [forkedHash, forkedHash]
  cases dag.idOf parentHash with
  | none => rfl
  | some pid =>
    dsimp only
    by_cases hpid : pid ∈ dag.forked lib targetNodeId
    · rw [if_pos hpid, if_pos hpid, hforks pid hpid]
    · rw [if_neg hpid, if_neg hpid]

theorem allOrNothing_of_forkable (h : WellFormed lib dag) {target : MerkleNode F}
    (htarget : dag.getNode targetNodeId = some target)
    (hforkable : Forkable lib dag targetNodeId newPayload hashes) :
    AllOrNothing lib dag targetNodeId newPayload := by
  have hstored (id : String) (hid : id ∈ dag.forkOrder lib targetNodeId) :
      ∃ node, dag.nodes.get? id = some node :=
    h.stored_of_mem_forked htarget (h.perm_forkOrder.mem_iff.mp hid)
  obtain ⟨result, last, hrun, hprogress⟩ := hforkable.commitNodes h none
    (List.nil_append _) hstored (progress_refl h)
  rw [List.nil_append] at hprogress
  change MerkleDAGStore.commitNodes lib targetNodeId (dag.forkEntries lib targetNodeId newPayload)
    none dag = _ at hrun
  rw [← h.forkLineage_eq htarget] at hrun
  have hforks (id : String) (hid : id ∈ dag.forked lib targetNodeId) :
      last.forkHash id = hashes id := by
    obtain ⟨node, hnode⟩ := h.stored_of_mem_forked htarget hid
    obtain ⟨fork, hfork, heq, -⟩ := hprogress.forks id (h.perm_forkOrder.mem_iff.mpr hid) node hnode
    rw [forkHash, hfork, Option.elim_some, heq]
  refine ⟨fun e dag' h ↦ absurd (Prod.mk.inj (h.symm.trans hrun)).1 (by simp),
    fun fork dag' hok ↦ ?_⟩
  obtain ⟨-, rfl⟩ := Prod.mk.inj (hok.symm.trans hrun)
  refine ⟨fun id node hid hnode ↦ ?_, hprogress.extends_⟩
  obtain ⟨fork, hfork, -, hpayload, hparents⟩ := hprogress.forks id
    (h.perm_forkOrder.mem_iff.mpr (h.mem_forked_iff.mpr hid)) node hnode
  exact ⟨fork, hfork, hpayload, map_forkedHash hforks ▸ hparents⟩

/-- The insertions of a fork, node by node. -/
theorem WellFormed.mem_forkEntries (h : WellFormed lib dag) {node : MerkleNode F}
    (hnode : dag.nodes.get? node.nodeId = some node)
    (hid : node.nodeId ∈ dag.forked lib targetNodeId) :
    dag.forkEntry lib targetNodeId newPayload node
      ∈ dag.forkEntries lib targetNodeId newPayload :=
  List.mem_filterMap.mpr ⟨node.nodeId, h.perm_forkOrder.mem_iff.mpr hid, by rw [hnode]; rfl⟩

theorem WellFormed.nodup_forkEntries (h : WellFormed lib dag) :
    ((dag.forkEntries lib targetNodeId newPayload).map Prod.fst).Nodup := by
  have hnd : (dag.forkOrder lib targetNodeId).Nodup :=
    h.perm_forkOrder.nodup_iff.mpr (FiniteGraph.nodup_descendants _)
  have hself {id newId : String} (hid : newId ∈ ((dag.nodes.get? id).map
      (dag.forkEntry lib targetNodeId newPayload)).map Prod.fst) : newId = forkId id := by
    obtain ⟨entry, hentry, rfl⟩ := Option.map_eq_some_iff.mp hid
    obtain ⟨node, hnode, rfl⟩ := Option.map_eq_some_iff.mp hentry
    exact congrArg forkId (KeyTable.get?_eq_some_iff.mp hnode).2
  rw [forkEntries, List.map_filterMap]
  refine hnd.filterMap fun id id' newId hid hid' ↦ ?_
  exact forkId_injective ((hself hid).symm.trans (hself hid'))

/-- A fork that returns and has forked every node could be inserted. -/
theorem forkable_of_forked (h : WellFormed lib dag) {target : MerkleNode F}
    (htarget : dag.getNode targetNodeId = some target) {fork : Option (MerkleNode F)}
    (hrun : forkLineage lib targetNodeId newPayload dag = (.ok fork, dag'))
    (hforked : Forked lib dag targetNodeId newPayload dag') :
    Forkable lib dag targetNodeId newPayload dag'.forkHash := by
  obtain ⟨hwf', hextends⟩ := extends_forkLineage h hrun
  rw [h.forkLineage_eq htarget] at hrun
  have hreturns := commitNodes_returns h h.nodup_forkEntries hrun
  have hforks (id : String) (hid : id ∈ dag.forked lib targetNodeId) :
      ∃ fork, dag'.nodes.get? (forkId id) = some fork ∧ dag'.forkHash id = fork.nodeHash := by
    obtain ⟨node, hnode⟩ := h.stored_of_mem_forked htarget hid
    obtain ⟨fork, hfork, -⟩ := hforked id node (h.mem_forked_iff.mp hid) hnode
    exact ⟨fork, hfork, by rw [forkHash, show dag'.nodes.get? _ = _ from hfork, Option.elim_some]⟩
  have hkey (id : String) (hid : id ∈ dag.forked lib targetNodeId) (node : MerkleNode F)
      (hnode : dag.nodes.get? id = some node) (fork : MerkleNode F)
      (hfork : dag'.nodes.get? (forkId id) = some fork) :
      computeHash lib (forkPayload targetNodeId newPayload node)
        (dag.lookedHashes lib targetNodeId dag'.forkHash node) "v1" = .ok fork.nodeHash ∧
      (dag.nodes.get? (forkId id) = none →
        fork.parentHashes = dag.lookedHashes lib targetNodeId dag'.forkHash node) := by
    obtain ⟨hmem, rfl⟩ := KeyTable.get?_eq_some_iff.mp hnode
    obtain ⟨hashes, hash, hlooked, hhash, hfound⟩ := hreturns _ (h.mem_forkEntries hnode hid)
    have hhashes := h.parentHashesOf_forkParents hextends hmem fun pid hpid _ ↦ by
      obtain ⟨fork, hfork, heq⟩ := hforks pid hpid
      exact ⟨fork, hfork, heq.symm⟩
    obtain rfl := Except.ok.inj (hlooked.symm.trans hhashes)
    obtain ⟨rfl, hnew⟩ := hfound fork hfork
    exact ⟨hhash, fun hnone ↦ (hnew hnone).2⟩
  refine ⟨fun id hid node hnode ↦ ?_, fun id hid node hnode ↦ ?_, fun id hid id' hid' heq ↦ ?_⟩
  · obtain ⟨fork, hfork, heq⟩ := hforks id hid
    rw [heq]
    exact (hkey id hid node hnode fork hfork).1
  · obtain ⟨fork, hfork, hcontent⟩ := hforked id node (h.mem_forked_iff.mp hid) hnode
    obtain ⟨fork', hfork', heq⟩ := hforks id hid
    obtain rfl := Option.some.inj (hfork.symm.trans hfork')
    cases hold : dag.nodes.get? (forkId id) with
    | some old =>
      obtain ⟨fork', hfork', hsame⟩ := hextends _ _ hold
      obtain rfl := Option.some.inj (hfork.symm.trans hfork')
      refine .inl ⟨old, rfl, hsame.nodeHash.symm.trans heq.symm, ?_, ?_⟩
      · rw [← hsame.payload]
        exact hcontent.payload
      · rw [← hsame.parentHashes]
        exact hcontent.parentHashes
    | none =>
      refine .inr ⟨rfl, ?_, ?_⟩
      · -- a node with that hash would still be there, next to the fork
        rw [Option.eq_none_iff_forall_not_mem]
        intro other hother
        obtain ⟨m, hm, hhash⟩ := h.get?_of_idOf hother
        obtain ⟨m', hm', hsame⟩ := hextends _ _ hm
        have hthere : m' = fork := hwf'.eq_of_nodeHash (KeyTable.get?_eq_some_iff.mp hm').1
          (KeyTable.get?_eq_some_iff.mp hfork).1 (hsame.nodeHash.trans (hhash.trans heq))
        have hid' : other = forkId id := by
          rw [← (KeyTable.get?_eq_some_iff.mp hm').2, hthere]
          exact (KeyTable.get?_eq_some_iff.mp hfork).2
        exact absurd (hm.symm.trans (hid' ▸ hold)) (by simp)
      · have hlooked := (hkey id hid node hnode fork hfork).2 hold
        have hlength : (dag.lookedHashes lib targetNodeId dag'.forkHash node).length
            = node.parentHashes.length := by
          rw [← hlooked, hcontent.parentHashes.length_eq, List.length_map]
        exact keepsParents_of_length hlength
  · obtain ⟨fork, hfork, hhash⟩ := hforks id hid
    obtain ⟨fork', hfork', hhash'⟩ := hforks id' hid'
    have hsame : fork = fork' := hwf'.eq_of_nodeHash (KeyTable.get?_eq_some_iff.mp hfork).1
      (KeyTable.get?_eq_some_iff.mp hfork').1 (hhash.symm.trans (heq.trans hhash'))
    refine forkId_injective ?_
    rw [← (KeyTable.get?_eq_some_iff.mp hfork).2, ← (KeyTable.get?_eq_some_iff.mp hfork').2, hsame]

/-- **A fork is all or nothing** exactly when its target is not there, when all forks can be
inserted, or when one is refused before any is inserted. -/
theorem allOrNothing_iff (lib : MerkleLibrary F) (calls : List (Call F)) (targetNodeId : String)
    (newPayload : Val F) :
    AllOrNothing lib (storeAfter lib calls) targetNodeId newPayload ↔
      (storeAfter lib calls).getNode targetNodeId = none ∨
      (∃ hashes, Forkable lib (storeAfter lib calls) targetNodeId newPayload hashes) ∨
      RefusedFirst lib (storeAfter lib calls)
        ((storeAfter lib calls).forkEntries lib targetNodeId newPayload) := by
  have hwf : WellFormed lib (storeAfter lib calls) := wellFormed_storeAfter calls
  generalize storeAfter lib calls = dag at hwf
  cases htarget : dag.getNode targetNodeId with
  | none => exact iff_of_true (allOrNothing_of_none htarget) (.inl rfl)
  | some target =>
    constructor
    · rintro ⟨hraises, hreturns⟩
      rcases exists_ok_or_error (forkLineage lib targetNodeId newPayload) dag with
        ⟨fork, dag', hrun⟩ | ⟨e, dag', hrun⟩
      · exact .inr (.inl ⟨_, forkable_of_forked hwf htarget hrun (hreturns fork dag' hrun).1⟩)
      · obtain rfl := hraises e dag' hrun
        rw [hwf.forkLineage_eq htarget] at hrun
        exact .inr (.inr (refusedFirst_of_commitNodes hwf hrun))
    · rintro (hnone | ⟨hashes, hforkable⟩ | hrefused)
      · exact absurd hnone (by simp)
      · exact allOrNothing_of_forkable hwf htarget hforkable
      · exact allOrNothing_of_refusedFirst hwf htarget hrefused

end AllOrNothing

end MerkleDAGStore

/-! ## A fork that stops, and one that is not there -/

section Examples

open MerkleDAGStore

/-- A node and its child, which has been forked. -/
def forkedChild : MerkleDAGStore Empty := storeAfter hexLibrary
  [.addNode "a" .none [], .addNode "b" (.bool false) ["a"], .forkLineage "b" (.bool true)]

/-- The fork of the parent raises, as the id of the fork of the child is taken, and leaves the fork
of the parent. The fork of a node with the payload that it has returns that node. -/
theorem not_allOrNothing_forkedChild :
    ¬AllOrNothing hexLibrary forkedChild "a" (.bool true) ∧
      ¬AllOrNothing hexLibrary (storeAfter hexLibrary [.addNode "a" .none []]) "a" .none := by
  constructor
  · intro h
    have hraises : (forkLineage hexLibrary "a" (.bool true) forkedChild).1.toOption.isSome
        = false := by decide +kernel
    have hleft : ((forkLineage hexLibrary "a" (.bool true) forkedChild).2.getNode "a_fork").isSome
        ≠ (forkedChild.getNode "a_fork").isSome := by decide +kernel
    cases hrun : forkLineage hexLibrary "a" (.bool true) forkedChild with
    | mk r dag' =>
      rw [hrun] at hraises hleft
      cases r with
      | ok fork => exact Bool.noConfusion hraises
      | error e =>
        have hsame := h.1 e dag' hrun
        exact hleft (congrArg (fun dag ↦ (dag.getNode "a_fork").isSome) hsame)
  · intro h
    have hreturns : (forkLineage hexLibrary "a" .none
        (storeAfter hexLibrary [.addNode "a" .none []])).1.toOption.isSome = true := by
      decide +kernel
    have hnone : ((forkLineage hexLibrary "a" .none
        (storeAfter hexLibrary [.addNode "a" .none []])).2.getNode "a_fork").isSome = false := by
      decide +kernel
    have hthere : ((storeAfter hexLibrary [.addNode "a" .none []]).nodes.get? "a").isSome
        = true := by decide +kernel
    obtain ⟨node, hnode⟩ := Option.isSome_iff_exists.mp hthere
    cases hrun : forkLineage hexLibrary "a" .none
        (storeAfter hexLibrary [.addNode "a" .none []]) with
    | mk r dag' =>
      rw [hrun] at hreturns hnone
      cases r with
      | error e => exact Bool.noConfusion hreturns
      | ok fork =>
        obtain ⟨fork, hfork, -⟩ := (h.2 _ dag' hrun).1 "a" node .refl hnode
        rw [show dag'.getNode "a_fork" = some fork from hfork] at hnone
        exact Bool.noConfusion hnone

end Examples

end DriftGuardX.Merkle
