import DriftGuardX.Foundation.Bytes
import DriftGuardX.Foundation.Transaction
import DriftGuardX.Json.Text
import DriftGuardX.Recovery.Actions

/-!
# Rollback capsules

A capsule holds what is needed to undo an action, with a hash over it that is computed when the
capsule is made and compared before it is used. The registry keeps the capsules in the order in
which they were stored, and finds the first one of a proposal.
-/

namespace DriftGuardX.Recovery

open Json Bytes Transaction

inductive CapsuleStatus where
  | active
  | used
  | expired
  | voided
  deriving DecidableEq, Repr

structure CompatibilityConstraint (V : Type) where
  componentId : V
  expectedVersionId : String
  description : String

/-- A capsule, with the hash that was computed when it was made. -/
structure RollbackCapsule (V : Type) where
  capsuleId : String
  proposalId : String
  actionType : String
  tenantId : String
  componentId : V
  previousState : Dict V
  targetState : Dict V
  artifactHashes : List (V × String)
  compatibilityConstraints : List (CompatibilityConstraint V)
  rollbackParams : Dict V
  verifySteps : List String
  status : CapsuleStatus
  createdAt : ℤ
  expiresAt : ℤ
  createdBy : String
  integrityHash : String

/-- Functions of libraries: hashes, signatures by key, payload and signature, the text of a time,
and the text of the exception with which the encoder refuses a value. -/
structure Library (F : Type) where
  sha256 : List UInt8 → String
  verifySignature : String → List UInt8 → String → Bool
  isoformat : ℤ → String
  dumpsError : Val F → String

namespace RollbackCapsule

variable {V F : Type} [PyValue V F] (lib : Library F)

/-- Seventy-two hours. -/
def lifetime : ℤ := 72 * 60 * 60 * 1000000

/-- A dictionary as the encoder sees it. -/
def dictVal (d : Dict V) : Val F := .object (d.map fun m ↦ (m.1, PyValue.toVal m.2))

/-- What the integrity hash covers: all but the status. -/
def payload (c : RollbackCapsule V) : Val F := .object
  [("capsule_id", .str c.capsuleId),
    ("proposal_id", .str c.proposalId),
    ("action_type", .str c.actionType),
    ("tenant_id", .str c.tenantId),
    ("component_id", PyValue.toVal c.componentId),
    ("previous_state", dictVal c.previousState),
    ("target_state", dictVal c.targetState),
    ("artifact_hashes", .dict (c.artifactHashes.map fun m ↦ (PyValue.toKey m.1, .str m.2))),
    ("compatibility_constraints", .list (c.compatibilityConstraints.map fun k ↦ .object
      [("component_id", PyValue.toVal k.componentId),
        ("expected_version_id", .str k.expectedVersionId),
        ("description", .str k.description)])),
    ("rollback_params", dictVal c.rollbackParams),
    ("verify_steps", .list (c.verifySteps.map fun s ↦ .str s)),
    ("created_at", .str (lib.isoformat c.createdAt)),
    ("expires_at", .str (lib.isoformat c.expiresAt)),
    ("created_by", .str c.createdBy)]

variable [FloatText F]

def computeIntegrity (c : RollbackCapsule V) : Except Raised String :=
  match dumps ⟨true, false⟩ true (c.payload lib) with
  | some text => .ok (lib.sha256 (utf8Chars text))
  | none => .error ⟨.typeError, lib.dumpsError (c.payload lib)⟩

/-- `__post_init__`. -/
def sealed (c : RollbackCapsule V) : Except Raised (RollbackCapsule V) := do
  let hash ← c.computeIntegrity lib
  return { c with integrityHash := hash }

def verifyIntegrity (c : RollbackCapsule V) : Except Raised Bool := do
  let hash ← c.computeIntegrity lib
  return hash = c.integrityHash

/-- Whether a capsule can be used at a time, with the reason if not. -/
def isUsable (c : RollbackCapsule V) (now : ℤ) : Except Raised (Option String) :=
  if c.status = .used then .ok (some "Capsule already consumed.")
  else if c.status = .voided then .ok (some "Capsule has been voided by an operator.")
  else if c.status = .expired ∨ c.expiresAt < now then
    .ok (some s!"Capsule expired at {lib.isoformat c.expiresAt}.")
  else do
    let intact ← c.verifyIntegrity lib
    return if intact then none
      else some "Capsule integrity check failed — possible tampering."

omit [PyValue V F] [FloatText F] in
def sealUsed (c : RollbackCapsule V) : RollbackCapsule V := { c with status := .used }

variable {lib} {c c' : RollbackCapsule V}

theorem computeIntegrity_of_toDoc {hash : String} (h : c.computeIntegrity lib = .ok hash)
    (hdoc : toDoc true (c'.payload lib) = toDoc true (c.payload lib)) :
    c'.computeIntegrity lib = .ok hash := by
  rw [computeIntegrity, dumps] at h ⊢
  rw [hdoc]
  cases hwritten : toDoc true (c.payload lib) with
  | none => simp [hwritten] at h
  | some d => simpa [hwritten] using h

theorem computeIntegrity_sealed (h : c.sealed lib = .ok c') :
    c'.computeIntegrity lib = .ok c'.integrityHash := by
  simp only [sealed, bind_eq_ok_iff, pure_eq_ok_iff] at h
  obtain ⟨hash, hhash, rfl⟩ := h
  exact hhash

theorem isUsable_of_intact (hhash : c.computeIntegrity lib = .ok c.integrityHash)
    (hactive : c.status = .active) {now : ℤ} (htime : now ≤ c.expiresAt) :
    c.isUsable lib now = .ok none := by
  have hverify : c.verifyIntegrity lib = .ok true := by
    rw [verifyIntegrity, hhash, ok_bind, decide_eq_true rfl]
    rfl
  rw [isUsable, hactive, if_neg (by decide), if_neg (by decide),
    if_neg (by simpa using htime), hverify]
  rfl

theorem isUsable_sealed (h : c.sealed lib = .ok c') (hactive : c'.status = .active) {now : ℤ}
    (htime : now ≤ c'.expiresAt) : c'.isUsable lib now = .ok none :=
  isUsable_of_intact (computeIntegrity_sealed h) hactive htime

theorem isUsable_of_spent {now : ℤ} (h : c.status ≠ .active ∨ c.expiresAt < now) :
    ∃ reason, c.isUsable lib now = .ok (some reason) := by
  rw [isUsable]
  split
  · exact ⟨_, rfl⟩
  split
  · exact ⟨_, rfl⟩
  split
  · exact ⟨_, rfl⟩
  · rename_i hused hvoided hexpired
    rw [not_or] at hexpired
    rcases h with hstatus | htime
    · cases hc : c.status with
      | active => exact absurd hc hstatus
      | used => exact absurd hc hused
      | expired => exact absurd hc hexpired.1
      | voided => exact absurd hc hvoided
    · exact absurd htime hexpired.2

end RollbackCapsule

/-- The capsules by their ids, in the order of insertion. -/
abbrev CapsuleRegistry (V : Type) := List (String × RollbackCapsule V)

namespace CapsuleRegistry

variable {V : Type}

def store (registry : CapsuleRegistry V) (c : RollbackCapsule V) : CapsuleRegistry V :=
  setItem registry c.capsuleId c

/-- A change of a stored capsule. -/
def replace (registry : CapsuleRegistry V) (c : RollbackCapsule V) : CapsuleRegistry V :=
  registry.map fun m ↦ if m.1 = c.capsuleId then (m.1, c) else m

def forProposal (registry : CapsuleRegistry V) (proposalId : String) : Option (RollbackCapsule V) :=
  (registry.map Prod.snd).find? fun c ↦ c.proposalId = proposalId

theorem eq_of_mem_store {registry : CapsuleRegistry V} {c c' : RollbackCapsule V}
    (h : (c.capsuleId, c') ∈ registry.store c) : c' = c := eq_of_mem_setItem h

theorem forProposal_store {registry : CapsuleRegistry V} {c : RollbackCapsule V}
    (h : registry.forProposal c.proposalId = none) :
    (registry.store c).forProposal c.proposalId = some c := by
  rw [forProposal, List.find?_eq_none] at h
  have hnone : ∀ m ∈ registry, ¬ m.2.proposalId = c.proposalId := fun m hm ↦ by
    simpa using h m.2 (List.mem_map_of_mem hm)
  rw [forProposal, store, setItem]
  -- a capsule with the same id is replaced where it stands
  split
  · rename_i hmem
    obtain ⟨m, hm, hid⟩ := List.mem_map.mp hmem
    clear h hmem
    induction registry with
    | nil => exact absurd hm List.not_mem_nil
    | cons n registry ih =>
      rw [List.map_cons, List.map_cons]
      by_cases hn : n.1 = c.capsuleId
      · rw [if_pos hn, List.find?_cons_of_pos (by simp)]
      · rw [if_neg hn, List.find?_cons_of_neg (by simpa using hnone n List.mem_cons_self)]
        refine ih (fun m hm ↦ hnone m (List.mem_cons_of_mem n hm)) ?_
        rcases List.mem_cons.mp hm with rfl | hm
        · exact absurd hid hn
        · exact hm
  · rw [List.map_append, List.find?_append, List.find?_eq_none.mpr h, Option.none_or,
      List.map_singleton, List.find?_cons_of_pos (by simp)]

end CapsuleRegistry

end DriftGuardX.Recovery
