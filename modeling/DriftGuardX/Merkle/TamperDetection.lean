import DriftGuardX.Foundation.Digest
import DriftGuardX.Merkle.Binding
import DriftGuardX.Merkle.Representation

/-!
# What a verified path says about changes

The fields of stored nodes are changed behind the back of a store. `verify_path` walks from a leaf
through first parents and recomputes the hash of each node from the fields of that node alone; it
does not compare the hash that a child has recorded for its parent with the one the parent has now.
So an interior node can be given other content along with the hash of it.

The walk is verified exactly when the hashes of the nodes on the path are right
(`verifyPath_eq_true_iff`), and a node that kept its hash kept the text of its payload and, up to
order, its parents. What is overlooked is what remains (`detectsTampering_iff`).
-/

namespace DriftGuardX.Merkle

open Json Bytes Transaction
open Recovery (Raised)

namespace MerkleDAGStore

variable {F : Type} [FloatText F] {lib : MerkleLibrary F} {dag dag' : MerkleDAGStore F}

/-! ## The path -/

/-- The nodes from one on through first parents, up to the root. -/
inductive PathTo (dag : MerkleDAGStore F) (rootId : String) : String → List String → Prop
  | root : PathTo dag rootId rootId [rootId]
  | step {id pid : String} {ids : List String} (hroot : id ≠ rootId)
      (hfirst : dag.FirstParent id pid) (hrest : PathTo dag rootId pid ids) :
      PathTo dag rootId id (id :: ids)

/-- The hash of a node is that of its fields. -/
def Consistent (lib : MerkleLibrary F) (dag : MerkleDAGStore F) (id : String) : Prop :=
  ∃ node, dag.nodes.get? id = some node ∧
    computeHash lib node.payload node.parentHashes node.version = .ok node.nodeHash

omit [FloatText F] in
theorem FirstParent.unique {id pid pid' : String} (h : dag.FirstParent id pid)
    (h' : dag.FirstParent id pid') : pid = pid' := by
  obtain ⟨c, hash, hc, hhead, hindex⟩ := h
  obtain ⟨c', hash', hc', hhead', hindex'⟩ := h'
  obtain rfl := Option.some.inj (hc.symm.trans hc')
  obtain rfl := Option.some.inj (hhead.symm.trans hhead')
  exact Option.some.inj (hindex.symm.trans hindex')

omit [FloatText F] in
theorem PathTo.mem_self {rootId id : String} {ids : List String} (h : dag.PathTo rootId id ids) :
    id ∈ ids := by
  cases h with
  | root => exact List.mem_cons_self
  | step _ _ _ => exact List.mem_cons_self

omit [FloatText F] in
theorem PathTo.unique {rootId id : String} {ids ids' : List String} (h : dag.PathTo rootId id ids)
    (h' : dag.PathTo rootId id ids') : ids = ids' := by
  induction h generalizing ids' with
  | root =>
    cases h' with
    | root => rfl
    | step hroot _ _ => exact absurd rfl hroot
  | step hroot hfirst _ ih =>
    cases h' with
    | root => exact absurd rfl hroot
    | step _ hfirst' hrest' =>
      obtain rfl := hfirst.unique hfirst'
      rw [ih hrest']

omit [FloatText F] in
theorem PathTo.exists_of_mem {rootId id x : String} {ids : List String}
    (h : dag.PathTo rootId id ids) (hx : x ∈ ids) :
    ∃ rest, dag.PathTo rootId x rest ∧ rest.length ≤ ids.length := by
  induction h with
  | root =>
    obtain rfl := List.mem_singleton.mp hx
    exact ⟨_, .root, le_rfl⟩
  | step hroot hfirst hrest ih =>
    rcases List.mem_cons.mp hx with rfl | hx
    · exact ⟨_, .step hroot hfirst hrest, le_rfl⟩
    · obtain ⟨rest, hpath, hle⟩ := ih hx
      exact ⟨rest, hpath, hle.trans (Nat.le_succ _)⟩

omit [FloatText F] in
theorem PathTo.nodup {rootId id : String} {ids : List String} (h : dag.PathTo rootId id ids) :
    ids.Nodup := by
  induction h with
  | root => exact List.nodup_singleton rootId
  | @step id pid ids hroot hfirst hrest ih =>
    refine List.nodup_cons.mpr ⟨fun hmem ↦ ?_, ih⟩
    obtain ⟨rest, hpath, hle⟩ := hrest.exists_of_mem hmem
    rw [← (PathTo.step hroot hfirst hrest).unique hpath] at hle
    exact absurd hle (Nat.not_succ_le_self _)

/-! ## The walk -/

theorem verifyChain_eq_true_iff {id : String} :
    dag.verifyChain lib id = .ok true ↔ dag.Consistent lib id := by
  rw [verifyChain, Consistent]
  split
  · rename_i hnone
    simp [hnone]
  · rename_i node hnode
    simp only [bind_eq_ok_iff, pure_eq_ok_iff, decide_eq_true_eq, hnode, Option.some.injEq,
      exists_eq_left']
    constructor
    · rintro ⟨hash, hhash, rfl⟩
      exact hhash
    · exact fun hhash ↦ ⟨_, hhash, rfl⟩

theorem exists_of_verifyFrom {rootId id : String} {visited : List String}
    (hid : dag.Consistent lib id) (h : dag.verifyFrom lib rootId id visited = .ok true) :
    ∃ ids, dag.PathTo rootId id ids ∧ ∀ x ∈ ids, dag.Consistent lib x := by
  fun_induction verifyFrom with
  | case1 => exact ⟨_, .root, by simpa using hid⟩
  | case8 id visited hroot _ node hnode hash hashes hhashes pid hindex hverified ih =>
    obtain ⟨ids, hpath, hids⟩ := ih (verifyChain_eq_true_iff.mp hverified) h
    refine ⟨id :: ids, .step hroot ⟨node, hash, hnode, ?_, hindex⟩ hpath, ?_⟩
    · rw [hhashes]
      rfl
    · exact List.forall_mem_cons.mpr ⟨hid, hids⟩
  | _ => exact nomatch h

theorem verifyFrom_of_pathTo {rootId id : String} {ids visited : List String}
    (h : dag.PathTo rootId id ids) (hids : ∀ x ∈ ids, dag.Consistent lib x)
    (hvisited : ∀ x ∈ visited, x ∉ ids) : dag.verifyFrom lib rootId id visited = .ok true := by
  induction h generalizing visited with
  | root =>
    rw [verifyFrom, if_pos rfl]
    exact verifyChain_eq_true_iff.mpr (hids rootId List.mem_cons_self)
  | @step id pid ids hroot hfirst hrest ih =>
    have hnodup := List.nodup_cons.mp (PathTo.step hroot hfirst hrest).nodup
    obtain ⟨hid, hids⟩ := List.forall_mem_cons.mp hids
    obtain ⟨node, hash, hnode, hhead, hindex⟩ := hfirst
    obtain ⟨hashes, hhashes⟩ := List.head?_eq_some_iff.mp hhead
    rw [verifyFrom_step hroot (fun hmem ↦ hvisited id hmem List.mem_cons_self) hnode hhashes hindex
      (verifyChain_eq_true_iff.mpr (hids pid hrest.mem_self))]
    refine ih hids fun x hx ↦ ?_
    rcases List.mem_cons.mp hx with rfl | hx
    · exact hnodup.1
    · exact fun hmem ↦ hvisited x hx (List.mem_cons_of_mem _ hmem)

/-- What is verified: that the path leads to the root, and that the hashes on it are right. -/
theorem verifyPath_eq_true_iff {leafId rootId : String} :
    dag.verifyPath lib leafId rootId = .ok true ↔
      ∃ ids, dag.PathTo rootId leafId ids ∧ ∀ x ∈ ids, dag.Consistent lib x := by
  rw [verifyPath]
  constructor
  · intro h
    split at h
    · exact nomatch h
    · exact nomatch h
    · rename_i hleaf
      exact exists_of_verifyFrom (verifyChain_eq_true_iff.mp hleaf) h
  · rintro ⟨ids, hpath, hids⟩
    rw [verifyChain_eq_true_iff.mpr (hids leafId hpath.mem_self)]
    exact verifyFrom_of_pathTo hpath hids nofun

/-! ## Changed stores -/

/-- A store whose nodes were changed, but not its indexes, nor the hash of the leaf. -/
structure Changed (dag dag' : MerkleDAGStore F) (leafId : String) : Prop where
  blobs : dag'.blobs = dag.blobs
  hashIndex : dag'.hashIndex = dag.hashIndex
  nodes : List.Forall₂ (fun node node' : MerkleNode F ↦
    node'.nodeId = node.nodeId ∧ node'.childrenIds = node.childrenIds)
      dag.nodes.rows dag'.nodes.rows
  leaf : ∀ node node', dag.nodes.get? leafId = some node → dag'.nodes.get? leafId = some node' →
    node'.nodeHash = node.nodeHash

/-- A node has the payload and the parents it had. -/
def SameContent (dag dag' : MerkleDAGStore F) (id : String) : Prop :=
  ∃ node node', dag.nodes.get? id = some node ∧ dag'.nodes.get? id = some node' ∧
    node'.payload = node.payload ∧ node'.parentHashes = node.parentHashes

/-- A node has other content, and another hash or only what is not hashed is different: the order of
the parents, or what the text of the payload does not show. -/
def Overlooked (dag dag' : MerkleDAGStore F) (id : String) : Prop :=
  ∃ node node', dag.nodes.get? id = some node ∧ dag'.nodes.get? id = some node' ∧
    ¬ (node'.payload = node.payload ∧ node'.parentHashes = node.parentHashes) ∧
    (node'.nodeHash ≠ node.nodeHash ∨
      dumps ⟨true, false⟩ true node'.payload = dumps ⟨true, false⟩ true node.payload ∧
        node'.parentHashes.Perm node.parentHashes)

/-- If the path is verified, its nodes have the content they had. -/
def DetectsTampering (lib : MerkleLibrary F) (dag dag' : MerkleDAGStore F)
    (leafId rootId : String) : Prop :=
  dag'.verifyPath lib leafId rootId = .ok true →
    ∀ ids, dag'.PathTo rootId leafId ids → ∀ id ∈ ids, dag.SameContent dag' id

omit [FloatText F] in
theorem Changed.exists_get? {leafId id : String} (h : Changed dag dag' leafId)
    {node' : MerkleNode F} (hnode' : dag'.nodes.get? id = some node') :
    ∃ node, dag.nodes.get? id = some node := by
  have hrel := KeyTable.rel_get? (fun _ _ hrow ↦ hrow.1.symm) h.nodes id
  rw [hnode'] at hrel
  obtain ⟨node, hnode, -⟩ : ∃ node, dag.nodes.get? id = some node ∧ _ := by
    cases hfound : dag.nodes.get? id with
    | none =>
      rw [hfound] at hrel
      exact nomatch hrel
    | some node => exact ⟨node, rfl, trivial⟩
  exact ⟨node, hnode⟩

/-- A node whose hash is right and not the hash of overlooked content has the content it had. -/
theorem sameContent_of_consistent (hinj : Function.Injective lib.sha256)
    (hwf : WellFormed lib dag) {leafId id : String} (h : Changed dag dag' leafId)
    (hid : dag'.Consistent lib id) (hcovered : ¬ dag.Overlooked dag' id) :
    dag.SameContent dag' id := by
  obtain ⟨node', hnode', hhash'⟩ := hid
  obtain ⟨node, hnode⟩ := h.exists_get? hnode'
  obtain ⟨hmem, -⟩ := KeyTable.get?_eq_some_iff.mp hnode
  by_contra hother
  refine hcovered ⟨node, node', hnode, hnode', fun hsame ↦ hother ⟨node, node', hnode, hnode',
    hsame⟩, ?_⟩
  by_cases hkept : node'.nodeHash = node.nodeHash
  · have hhash := hwf.hashed node hmem
    rw [hwf.current node hmem] at hhash
    exact .inr (binds_of_computeHash hinj hhash (hkept ▸ hhash'))
  · exact .inl hkept

/-- **Tampering is detected** just where no node on a path to the root whose hashes are all right
was given other content along with another hash, or content that is hashed alike. -/
theorem detectsTampering_iff (hinj : Function.Injective lib.sha256) (calls : List (Call F))
    (leafId rootId : String) (h : Changed (storeAfter lib calls) dag' leafId) :
    DetectsTampering lib (storeAfter lib calls) dag' leafId rootId ↔
      ∀ ids, dag'.PathTo rootId leafId ids → (∀ id ∈ ids, dag'.Consistent lib id) →
        ∀ id ∈ ids, ¬ (storeAfter lib calls).Overlooked dag' id := by
  constructor
  · rintro hdetects ids hpath hids id hid ⟨node, node', hnode, hnode', hother, -⟩
    have hverified := verifyPath_eq_true_iff.mpr ⟨ids, hpath, hids⟩
    obtain ⟨n, n', hn, hn', hsame⟩ := hdetects hverified ids hpath id hid
    obtain rfl := Option.some.inj (hn.symm.trans hnode)
    obtain rfl := Option.some.inj (hn'.symm.trans hnode')
    exact hother hsame
  · intro hcovered hverified ids hpath id hid
    obtain ⟨ids', hpath', hids'⟩ := verifyPath_eq_true_iff.mp hverified
    obtain rfl := hpath.unique hpath'
    exact sameContent_of_consistent hinj (wellFormed_storeAfter calls) h (hids' id hid)
      (hcovered ids hpath hids' id hid)

end MerkleDAGStore

/-! ## A changed root -/

section Examples

open MerkleDAGStore

def hexLibrary : MerkleLibrary Empty where
  sha256 := hexDigest
  iterate ids := ids
  dumpsError _ := "Object is not JSON serializable"
  sha256_ne_empty _ h := nomatch String.ofList_injective (h.trans (rfl : "" = String.ofList []))
  sha256_hexadecimal := hexDigest_hexadecimal
  iterate_perm ids := .refl ids

/-- A root and a leaf under it. -/
def rootAndLeaf : MerkleDAGStore Empty :=
  storeAfter hexLibrary [.addNode "root" .none [], .addNode "leaf" .none ["root"]]

/-- The root has another payload and the hash of it. -/
def withOtherRoot : MerkleDAGStore Empty :=
  { rootAndLeaf with
    nodes := rootAndLeaf.nodes.modify "root" (fun node ↦ { node with
      payload := .bool true
      nodeHash := hexDigest (0 :: (utf8 "V1" ++ bigEndian 8 4 ++ utf8 "true")) }) fun _ ↦ rfl }

theorem get?_withOtherRoot {id : String} (h : id ≠ "root") :
    withOtherRoot.nodes.get? id = rootAndLeaf.nodes.get? id := by
  rw [withOtherRoot, KeyTable.get?_modify, if_neg h]

theorem changed_withOtherRoot : Changed rootAndLeaf withOtherRoot "leaf" where
  blobs := rfl
  hashIndex := rfl
  nodes := by
    rw [withOtherRoot, KeyTable.rows_modify, List.forall₂_map_right_iff, List.forall₂_same]
    intro node _
    split
    · exact ⟨rfl, rfl⟩
    · exact ⟨rfl, rfl⟩
  leaf node node' h h' := by
    rw [get?_withOtherRoot (by decide), h] at h'
    rw [Option.some.inj h']

theorem pathTo_withOtherRoot : withOtherRoot.PathTo "root" "leaf" ["leaf", "root"] := by
  have hparent : ((withOtherRoot.nodes.get? "leaf").bind fun node ↦
      node.parentHashes.head?.bind withOtherRoot.idOf) = some "root" := by decide +kernel
  obtain ⟨node, hnode, hparent⟩ := Option.bind_eq_some_iff.mp hparent
  obtain ⟨hash, hhash, hindex⟩ := Option.bind_eq_some_iff.mp hparent
  exact .step (by decide) ⟨node, hash, hnode, hhash, hindex⟩ .root

theorem verifyPath_withOtherRoot :
    withOtherRoot.verifyPath hexLibrary "leaf" "root" = .ok true := by
  have hleaf : withOtherRoot.verifyChain hexLibrary "leaf" = .ok true := by decide +kernel
  have hroot : withOtherRoot.verifyChain hexLibrary "root" = .ok true := by decide +kernel
  refine verifyPath_eq_true_iff.mpr ⟨_, pathTo_withOtherRoot, ?_⟩
  refine List.forall_mem_cons.mpr ⟨verifyChain_eq_true_iff.mp hleaf, ?_⟩
  exact List.forall_mem_cons.mpr ⟨verifyChain_eq_true_iff.mp hroot, nofun⟩

/-- A root with another payload and the hash of it is verified: its child's record of the hash it
had is only used to find it. -/
theorem not_detectsTampering_withOtherRoot :
    ¬ ∀ (lib : MerkleLibrary Empty), Function.Injective lib.sha256 →
      ∀ (calls : List (Call Empty)) (dag' : MerkleDAGStore Empty) (leafId rootId : String),
        Changed (storeAfter lib calls) dag' leafId →
          DetectsTampering lib (storeAfter lib calls) dag' leafId rootId := by
  intro h
  obtain ⟨node, node', hnode, hnode', hpayload, -⟩ := h hexLibrary hexDigest_injective
    [.addNode "root" .none [], .addNode "leaf" .none ["root"]] _ "leaf" "root"
    changed_withOtherRoot verifyPath_withOtherRoot _ pathTo_withOtherRoot "root" (by decide)
  have hpayloads : (withOtherRoot.nodes.get? "root").map (fun node ↦ dumps ⟨true, false⟩ true
      node.payload) ≠ (rootAndLeaf.nodes.get? "root").map (fun node ↦ dumps ⟨true, false⟩ true
      node.payload) := by decide +kernel
  rw [rootAndLeaf, hnode, hnode', Option.map_some, Option.map_some, hpayload] at hpayloads
  exact hpayloads rfl

theorem detectsTampering_withOtherRoot :
    DetectsTampering hexLibrary rootAndLeaf withOtherRoot "leaf" "root" ↔
      ∀ ids, withOtherRoot.PathTo "root" "leaf" ids →
        (∀ id ∈ ids, withOtherRoot.Consistent hexLibrary id) →
          ∀ id ∈ ids, ¬ rootAndLeaf.Overlooked withOtherRoot id :=
  detectsTampering_iff hexDigest_injective
    [.addNode "root" .none [], .addNode "leaf" .none ["root"]] "leaf" "root" changed_withOtherRoot

end Examples

end DriftGuardX.Merkle
