import DriftGuardX.Foundation.Bytes
import DriftGuardX.Foundation.KeyTable
import DriftGuardX.Foundation.Program
import DriftGuardX.Foundation.TopologicalOrder
import DriftGuardX.Foundation.Walk
import DriftGuardX.Json.Text
import DriftGuardX.Recovery.StateMachine

/-!
# The Merkle DAG

Nodes carry a hash of their payload and of the hashes of their parents, and are indexed by it. A
node is inserted once for each hash. A fork copies what descends from a node, in an order in which
parents come first, and inserts the copies one after the other.

Dictionaries and sets are tables that keep the order of insertion; a set is iterated in an order of
its own.
-/

namespace DriftGuardX.Merkle

open Json Bytes Program
open Recovery (Raised)

/-! ## Nodes -/

/-- A set of strings. -/
abbrev IdSet := KeyTable fun id : String ↦ id

def IdSet.add (ids : IdSet) (id : String) : IdSet := ids.insertIfAbsent id

structure MerkleNode (F : Type) where
  nodeId : String
  payload : Val F
  parentHashes : List String
  version : String
  nodeHash : String
  childrenIds : IdSet

/-- Functions of libraries: the digest in hexadecimal, the order in which a set is iterated that was
filled in a given order, and the text of the exception for a payload that cannot be encoded. -/
structure MerkleLibrary (F : Type) where
  sha256 : List UInt8 → String
  iterate : List String → List String
  dumpsError : Val F → String
  sha256_ne_empty : ∀ bytes, sha256 bytes ≠ ""
  sha256_hexadecimal : ∀ bytes, ∀ c ∈ (sha256 bytes).toList, (hexVal c).isSome = true
  iterate_perm : ∀ ids, (iterate ids).Perm ids

variable {F : Type} [FloatText F] (lib : MerkleLibrary F)

/-- `json.dumps(payload, sort_keys=True).encode("utf-8")`. -/
def payloadBytes (payload : Val F) : Except Raised (List UInt8) :=
  match dumps ⟨true, false⟩ true payload with
  | some text => .ok (utf8Chars text)
  | none => .error ⟨.typeError, lib.dumpsError payload⟩

/-- `_content_hash`. -/
def contentHash (payload : Val F) : Except Raised String := do
  let bytes ← payloadBytes lib payload
  return lib.sha256 bytes

/-- `_length_prefix_encode`. -/
def lengthPrefixEncode (data : List UInt8) : Except Raised (List UInt8) :=
  match pack 8 data.length with
  | some length => .ok (length ++ data)
  | none => .error ⟨.other, "int too big to convert"⟩

/-- `s.encode("ascii")`. -/
def encodeAscii (s : String) : Except Raised (List UInt8) :=
  if s.toList.all fun c ↦ c.toNat < 128 then .ok (utf8 s)
  else .error ⟨.valueError, "'ascii' codec can't encode characters: ordinal not in range(128)"⟩

/-- `sorted(xs)`. -/
def sorted (xs : List String) : List String := xs.insertionSort (· ≤ ·)

/-- The hashes of the parents as they are hashed, each with its length. -/
def encodeParents : List String → Except Raised (List UInt8)
  | [] => .ok []
  | parentHash :: parentHashes => do
    let bytes ← encodeAscii parentHash
    let encoded ← lengthPrefixEncode bytes
    let rest ← encodeParents parentHashes
    return encoded ++ rest

/-- What is hashed of a node. -/
def preimage (payload : Val F) (parentHashes : List String) (version : String) :
    Except Raised (List UInt8) :=
  let domain : UInt8 := if parentHashes = [] then 0 else 1
  if version = "v0" then do
    let hash ← contentHash lib payload
    return domain :: utf8 (hash ++ String.join (sorted parentHashes))
  else if version = "v1" then do
    let bytes ← payloadBytes lib payload
    let encoded ← lengthPrefixEncode bytes
    let parents ← encodeParents (sorted parentHashes)
    return domain :: (utf8 "V1" ++ encoded ++ parents)
  else .error ⟨.valueError, s!"Unsupported node version: {version}"⟩

/-- `compute_hash`. -/
def computeHash (payload : Val F) (parentHashes : List String) (version : String) :
    Except Raised String := do
  let bytes ← preimage lib payload parentHashes version
  return lib.sha256 bytes

/-! ## The store -/

/-- The payloads by their hashes, the nodes by their ids, and the ids of the nodes by their
hashes. -/
structure MerkleDAGStore (F : Type) where
  blobs : KeyTable fun m : String × Val F ↦ m.1
  nodes : KeyTable (MerkleNode.nodeId (F := F))
  hashIndex : KeyTable fun m : String × String ↦ m.1

namespace MerkleDAGStore

omit [FloatText F] in
def empty : MerkleDAGStore F := ⟨.empty, .empty, .empty⟩

variable (self : MerkleDAGStore F)

/-- The id of the node with a hash. -/
def idOf (hash : String) : Option String := (self.hashIndex.get? hash).map Prod.snd

/-- The hashes of the parents with some ids. -/
def parentHashesOf : List String → Except Raised (List String)
  | [] => .ok []
  | pid :: pids =>
    match self.nodes.get? pid with
    | some parent => do
      let hashes ← parentHashesOf pids
      return parent.nodeHash :: hashes
    | none => .error ⟨.valueError,
        s!"Parent node '{pid}' not found in DAG. Orphaned parents are rejected."⟩

omit [FloatText F] in
/-- The children of a node are tracked at their parents. -/
def track (nodes : KeyTable (MerkleNode.nodeId (F := F))) (parentIds : List String)
    (nodeId : String) : KeyTable (MerkleNode.nodeId (F := F)) :=
  parentIds.foldl (fun nodes pid ↦ nodes.modify pid
    (fun node ↦ { node with childrenIds := node.childrenIds.add nodeId }) fun _ ↦ rfl) nodes

omit [FloatText F] in
/-- A node is stored with its payload and tracked at its parents. -/
def store (node : MerkleNode F) (blobKey : String) (parentIds : List String) :
    MerkleDAGStore F where
  blobs := self.blobs.insertIfAbsent (blobKey, node.payload)
  nodes := track (self.nodes.put node) parentIds node.nodeId
  hashIndex := self.hashIndex.put (node.nodeHash, node.nodeId)

/-- `add_node`. A parent id that is not there has raised before the children are tracked. -/
def addNode (nodeId : String) (payload : Val F) (parentIds : List String) :
    Program (MerkleDAGStore F) Raised (MerkleNode F) := do
  let self ← .get
  let parentHashes ← .ofExcept (self.parentHashesOf parentIds)
  let nodeHash ← .ofExcept (computeHash lib payload parentHashes "v1")
  let node : MerkleNode F := ⟨nodeId, payload, parentHashes, "v1", nodeHash, .empty⟩
  match self.nodes.get? nodeId with
  | some existingNode =>
    if existingNode.nodeHash ≠ nodeHash then
      .raise ⟨.valueError, s!"Duplicate ID mutation rejected: node_id '{nodeId}' already exists " ++
        "with different payload/ancestry."⟩
    else return existingNode
  | none =>
    match self.idOf nodeHash with
    | some existingId =>
      match self.nodes.get? existingId with
      | some existingNode => return existingNode
      | none => .raise ⟨.keyError, existingId⟩
    | none => do
      let blobKey ← .ofExcept (contentHash lib payload)
      .modify fun self ↦ self.store node blobKey parentIds
      return node

/-! ## Forks -/

/-- The ids of the children of a node, in the order in which they are iterated. -/
def childrenOf (id : String) : List String :=
  (self.nodes.get? id).elim [] fun node ↦ lib.iterate node.childrenIds.rows

omit [FloatText F] in
theorem exists_of_mem_childrenOf {id child : String} (h : child ∈ self.childrenOf lib id) :
    ∃ node, self.nodes.get? id = some node ∧ child ∈ node.childrenIds.rows := by
  rw [childrenOf] at h
  cases hnode : self.nodes.get? id with
  | none => simp [hnode] at h
  | some node =>
    rw [hnode, Option.elim_some, (lib.iterate_perm _).mem_iff] at h
    exact ⟨node, rfl, h⟩

omit [FloatText F] in
theorem length_childrenOf_le (id : String) : (self.childrenOf lib id).length
    ≤ (self.nodes.rows.map fun node ↦ node.childrenIds.rows.length).sum := by
  rw [childrenOf]
  cases hnode : self.nodes.get? id with
  | none => exact Nat.zero_le _
  | some node =>
    rw [Option.elim_some, (lib.iterate_perm _).length_eq]
    exact List.single_le_sum (fun _ _ ↦ Nat.zero_le _) _
      (List.mem_map_of_mem (KeyTable.get?_eq_some_iff.mp hnode).1)

/-- The nodes, with the edges from parents to children. -/
def graph : FiniteGraph String where
  next := self.childrenOf lib
  vertices := self.nodes.rows.flatMap fun node ↦ node.childrenIds.rows
  width := (self.nodes.rows.map fun node ↦ node.childrenIds.rows.length).sum
  closed := by
    intro id child h
    obtain ⟨node, hnode, hchild⟩ := self.exists_of_mem_childrenOf lib h
    exact List.mem_flatMap.mpr ⟨node, (KeyTable.get?_eq_some_iff.mp hnode).1, hchild⟩
  bounded := self.length_childrenOf_le lib

/-- The id of the fork of a node. -/
def forkId (id : String) : String := id ++ "_fork"

omit [FloatText F] in
/-- The parents of the fork of a node: the forks of those that are forked, and the others. -/
def forkParents (done : List String) (node : MerkleNode F) : List String :=
  node.parentHashes.filterMap fun parentHash ↦ match self.idOf parentHash with
    | some pid => if pid ∈ done then some (forkId pid) else if pid ≠ "" then some pid else none
    | none => none

omit [FloatText F] in
/-- The nodes that a fork is about to insert, given those whose forks come before. -/
def bufferedNodes (targetNodeId : String) (newPayload : Val F) : List String → List String →
    Except Raised (List (String × Val F × List String))
  | _, [] => .ok []
  | done, curr :: rest =>
    match self.nodes.get? curr with
    | none => .error ⟨.keyError, curr⟩
    | some node => do
      let others ← bufferedNodes targetNodeId newPayload (done ++ [curr]) rest
      return (forkId curr, if curr = targetNodeId then newPayload else node.payload,
        self.forkParents done node) :: others

/-- The nodes of a fork are inserted; the fork of the target is returned. -/
def commitNodes (targetNodeId : String) : List (String × Val F × List String) →
    Option (MerkleNode F) → Program (MerkleDAGStore F) Raised (Option (MerkleNode F))
  | [], forkedNode => return forkedNode
  | (newId, payload, parentIds) :: rest, forkedNode => do
    let newNode ← addNode lib newId payload parentIds
    commitNodes targetNodeId rest (if newId = forkId targetNodeId then some newNode else forkedNode)

/-- What a fork raises that has not ordered all descendants. -/
def cycleDetected : Raised :=
  ⟨.valueError, "Cycle detected in Merkle-DAG during lineage forking."⟩

/-- `fork_lineage`. The descendants are a set, and are ordered as it is iterated. -/
def forkLineage (targetNodeId : String) (newPayload : Val F) :
    Program (MerkleDAGStore F) Raised (Option (MerkleNode F)) := do
  let self ← .get
  if self.nodes.get? targetNodeId = none then
    .raise ⟨.valueError, s!"Target node {targetNodeId} not found."⟩
  else do
    let descendants := lib.iterate ((self.graph lib).descendants targetNodeId)
    let order := (self.graph lib).topologicalOrder descendants
    let buffered ← .ofExcept (self.bufferedNodes targetNodeId newPayload [] order)
    if order.length ≠ descendants.length then .raise cycleDetected
    else commitNodes lib targetNodeId buffered none

/-! ## Verification -/

/-- `verify_chain`. -/
def verifyChain (nodeId : String) : Except Raised Bool :=
  match self.nodes.get? nodeId with
  | none => .ok false
  | some node => do
    let recomputed ← computeHash lib node.payload node.parentHashes node.version
    return recomputed = node.nodeHash

/-- The walk of `verify_path` from a node on, with the nodes visited before. -/
def verifyFrom (rootId currentId : String) (visited : List String) : Except Raised Bool :=
  if currentId = rootId then self.verifyChain lib rootId
  else if currentId ∈ visited then .ok false
  else
    match _hnode : self.nodes.get? currentId with
    | none => .ok false
    | some node =>
      match node.parentHashes with
      | [] => .ok false
      | parentHash :: _ =>
        match self.idOf parentHash with
        | none => .ok false
        | some parentId =>
          match self.verifyChain lib parentId with
          | .error e => .error e
          | .ok false => .ok false
          | .ok true => verifyFrom rootId parentId (currentId :: visited)
termination_by Walk.unmet MerkleNode.nodeId self.nodes.rows visited
decreasing_by
  obtain ⟨hmem, rfl⟩ := KeyTable.get?_eq_some_iff.mp _hnode
  exact Walk.unmet_cons_lt hmem ‹_›

/-- `verify_path`. -/
def verifyPath (leafId rootId : String) : Except Raised Bool :=
  match self.verifyChain lib leafId with
  | .error e => .error e
  | .ok false => .ok false
  | .ok true => self.verifyFrom lib rootId leafId []

/-- `all` of the verifications of some nodes, up to the first that fails. -/
def verifyAll : List (MerkleNode F) → Except Raised Bool
  | [] => .ok true
  | node :: nodes =>
    match self.verifyChain lib node.nodeId with
    | .error e => .error e
    | .ok false => .ok false
    | .ok true => verifyAll nodes

/-- `verify_full_dag`. -/
def verifyFullDag : Except Raised Bool := self.verifyAll lib self.nodes.rows

end MerkleDAGStore

end DriftGuardX.Merkle
