import DriftGuardX.Foundation.HashChain
import DriftGuardX.Foundation.KeyTable
import DriftGuardX.Foundation.Program
import DriftGuardX.Memory.Capabilities

/-!
# The provenance store

The tables of the store's database, and the quarantine of partitions. Quarantining a partition and
releasing it need a capability for that action and partition, and each leaves an entry in the audit
table, whose rows are chained by their hashes.
-/

namespace DriftGuardX.Memory

open Bytes HashChain

inductive QuarantineStatus where
  | active
  | released
  deriving DecidableEq, Repr

/-- A row of `quarantine_state`. -/
structure QuarantineRow where
  partitionId : String
  tenantId : String
  reason : String
  createdAt : String
  createdBy : String
  status : QuarantineStatus
  deriving DecidableEq, Repr

def QuarantineRow.release (row : QuarantineRow) : QuarantineRow := { row with status := .released }

theorem QuarantineRow.partitionId_release (row : QuarantineRow) :
    row.release.partitionId = row.partitionId := rfl

/-- A row of `access_audit`. -/
structure AuditEvent where
  eventId : String
  requester : String
  tenant : String
  partition : String
  action : String
  capabilityId : Option String
  timestamp : String
  policyVersion : String
  result : String
  eventHash : String
  previousHash : String
  deriving DecidableEq, Repr

/-- The store of a process with its verifier. `tick` counts the readings of the clock and the ids
drawn. -/
structure ProvenanceMemoryStore where
  verifier : CapabilityVerifier
  quarantineState : KeyTable QuarantineRow.partitionId
  accessAudit : List AuditEvent
  tick : ℕ

variable (lib : MemoryLibrary) (readings : Readings)

/-- `_hash_audit_event`. -/
def hashAuditEvent (event : AuditEvent) (previousHash : String) : String :=
  let capabilityId := event.capabilityId.getD "None"
  lib.sha256 (utf8 (s!"DGX-AUDIT-EVENT-V1|{previousHash}|{event.eventId}|{event.requester}|" ++
    s!"{event.tenant}|{event.partition}|{event.action}|{capabilityId}|" ++
    s!"{event.policyVersion}|{event.result}|{event.timestamp}"))

namespace ProvenanceMemoryStore

/-- `datetime.now(UTC)`. -/
def now : Program ProvenanceMemoryStore MemoryError ℤ := fun store ↦
  (.ok (readings.clock store.tick), { store with tick := store.tick + 1 })

/-- `uuid4()`. -/
def newId : Program ProvenanceMemoryStore MemoryError String := fun store ↦
  (.ok (readings.uuid store.tick), { store with tick := store.tick + 1 })

/-- `_is_quarantined`. -/
def isQuarantined (store : ProvenanceMemoryStore) (partitionId : String) : Bool :=
  (store.quarantineState.get? partitionId).elim false fun row ↦ row.status = .active

/-- `_log_audit` for a new event. -/
def logAudit (context : AccessContext) (partitionId action result : String) :
    Program ProvenanceMemoryStore MemoryError Unit := do
  let eventId ← newId readings
  let timestamp ← now readings
  .modify fun store ↦
    let previousHash := headHash AuditEvent.eventHash "GENESIS-AUDIT" store.accessAudit
    let event : AuditEvent := {
      eventId
      requester := context.requesterId
      tenant := context.tenantId
      partition := partitionId
      action
      capabilityId := none
      timestamp := lib.isoformat timestamp
      policyVersion := "v2"
      result
      eventHash := ""
      previousHash }
    { store with accessAudit := store.accessAudit ++
        [{ event with eventHash := hashAuditEvent lib event previousHash }] }

/-- The loop of `_has_capability`. -/
def hasCapabilityIn (context : AccessContext) (action resource : String) :
    List SignedCapability → Program ProvenanceMemoryStore MemoryError Bool
  | [] => pure false
  | cap :: caps =>
    if cap.action = action ∧ (cap.resource = "*" ∨ cap.resource = resource) then do
      let time ← now readings
      let store ← Program.get
      let accepted ← .ofExcept (store.verifier.verify lib time cap context action resource)
      if accepted then pure true else hasCapabilityIn context action resource caps
    else hasCapabilityIn context action resource caps

/-- The check of a context before its capabilities are used. -/
def authorize (context : AccessContext) (action resource message : String) :
    Program ProvenanceMemoryStore MemoryError Unit := do
  let time ← now readings
  if context.expiresAt < time then .raise ⟨.authorizationError, message⟩
  else do
    let held ← hasCapabilityIn lib readings context action resource context.capabilities
    if held then pure () else .raise ⟨.authorizationError, message⟩

/-- `INSERT OR REPLACE INTO quarantine_state`. -/
def insertOrReplace (partitionId : String) (context : AccessContext) (reason : String) :
    Program ProvenanceMemoryStore MemoryError Unit := do
  let createdAt ← now readings
  let row : QuarantineRow :=
    ⟨partitionId, context.tenantId, reason, lib.isoformat createdAt, context.requesterId, .active⟩
  .modify fun store ↦ { store with quarantineState := store.quarantineState.put row }

def quarantinePartition (partitionId : String) (context : AccessContext) (reason : String) :
    Program ProvenanceMemoryStore MemoryError Unit := do
  authorize lib readings context "QUARANTINE" partitionId
    "Quarantine requires an explicit QUARANTINE capability."
  insertOrReplace lib readings partitionId context reason
  logAudit lib readings context partitionId "QUARANTINE" "SUCCESS"

/-- `UPDATE quarantine_state SET status = 'RELEASED' WHERE partition_id = ?`. -/
def release (partitionId : String) : Program ProvenanceMemoryStore MemoryError Unit :=
  .modify fun store ↦ { store with
    quarantineState := store.quarantineState.modify partitionId QuarantineRow.release
      QuarantineRow.partitionId_release }

def unquarantinePartition (partitionId : String) (context : AccessContext) :
    Program ProvenanceMemoryStore MemoryError Unit := do
  authorize lib readings context "UNQUARANTINE" partitionId
    "Unquarantine requires an explicit UNQUARANTINE capability."
  release partitionId
  logAudit lib readings context partitionId "UNQUARANTINE" "SUCCESS"

/-! ## What quarantining and releasing do -/

open Program

variable {lib readings} {table : KeyTable QuarantineRow.partitionId} {verifier : CapabilityVerifier}
  {context : AccessContext} {partitionId reason action resource message result : String}
  {cap : SignedCapability} {store : ProvenanceMemoryStore}

/-- A property that does not depend on how many readings there were. -/
def Untimed (I : ProvenanceMemoryStore → Prop) : Prop :=
  ∀ store n, I store → I { store with tick := n }

section Untimed

variable {I : ProvenanceMemoryStore → Prop}

theorem keeps_now (hI : Untimed I) : Keeps I (now readings) :=
  triple_returns (fun _ ↦ rfl) fun store h ↦ hI store _ h

theorem keeps_newId (hI : Untimed I) : Keeps I (newId readings) :=
  triple_returns (fun _ ↦ rfl) fun store h ↦ hI store _ h

theorem keeps_hasCapabilityIn (hI : Untimed I) (caps : List SignedCapability) :
    Keeps I (hasCapabilityIn lib readings context action resource caps) := by
  induction caps with
  | nil => exact triple_pure fun _ h ↦ h
  | cons cap caps ih =>
    rw [hasCapabilityIn]
    split
    · refine (keeps_now hI).bind fun time ↦ Triple.bind (triple_get fun _ h ↦ h) fun store ↦ ?_
      refine (triple_ofExcept (fun _ _ _ h ↦ h) fun _ _ _ h ↦ h).bind fun accepted ↦ ?_
      split
      · exact triple_pure fun _ h ↦ h
      · exact ih
    · exact ih

theorem keeps_authorize (hI : Untimed I) :
    Keeps I (authorize lib readings context action resource message) := by
  refine (keeps_now hI).bind fun time ↦ ?_
  split
  · exact triple_raise fun _ h ↦ h
  · refine (keeps_hasCapabilityIn hI _).bind fun held ↦ ?_
    split
    · exact triple_pure fun _ h ↦ h
    · exact triple_raise fun _ h ↦ h

end Untimed

/-- The quarantine table and the verifier are the given ones. -/
def Holds (table : KeyTable QuarantineRow.partitionId) (verifier : CapabilityVerifier)
    (store : ProvenanceMemoryStore) : Prop :=
  store.quarantineState = table ∧ store.verifier = verifier

theorem untimed_holds : Untimed (Holds table verifier) := fun _ _ h ↦ h

theorem keeps_logAudit :
    Keeps (Holds table verifier) (logAudit lib readings context partitionId action result) :=
  (keeps_newId untimed_holds).bind fun _ ↦ (keeps_now untimed_holds).bind fun _ ↦
    triple_modify fun _ h ↦ h

theorem Holds.isQuarantined_eq {store' : ProvenanceMemoryStore}
    (h : Holds store.quarantineState store.verifier store') (p : String) :
    store'.isQuarantined p = store.isQuarantined p := by
  rw [isQuarantined, isQuarantined, h.1]

/-- A store in which one partition is changed. -/
structure Changed (store : ProvenanceMemoryStore) (partitionId : String) (quarantined : Bool)
    (store' : ProvenanceMemoryStore) : Prop where
  isQuarantined : ∀ p, store'.isQuarantined p
    = if p = partitionId then quarantined else store.isQuarantined p
  verifier : store'.verifier = store.verifier

theorem triple_logAudit {quarantined : Bool} : Triple (Changed store partitionId quarantined)
    (logAudit lib readings context partitionId action result)
    (fun _ ↦ Changed store partitionId quarantined) fun _ _ ↦ True := by
  intro store₁ h
  have hkeeps : Keeps (Holds store₁.quarantineState store₁.verifier)
      (logAudit lib readings context partitionId action result) := keeps_logAudit
  refine ⟨fun u store₂ hrun ↦ ?_, fun _ _ _ ↦ trivial⟩
  have hholds := (hkeeps store₁ ⟨rfl, rfl⟩).1 u store₂ hrun
  exact ⟨fun p ↦ (hholds.isQuarantined_eq p).trans (h.isQuarantined p), hholds.2.trans h.verifier⟩

/-- A change that is authorized is made and recorded. -/
theorem triple_authorized {quarantined : Bool}
    {change : Program ProvenanceMemoryStore MemoryError Unit}
    (h : Triple (Holds store.quarantineState store.verifier) change
      (fun _ ↦ Changed store partitionId quarantined) fun _ _ ↦ True) : Triple (· = store)
    (do
      authorize lib readings context action resource message
      change
      logAudit lib readings context partitionId action result)
    (fun _ ↦ Changed store partitionId quarantined) fun _ _ ↦ True := by
  have hauthorize : Triple (· = store) (authorize lib readings context action resource message)
      (fun _ ↦ Holds store.quarantineState store.verifier) (fun _ _ ↦ True) :=
    (keeps_authorize untimed_holds).weaken (fun s h ↦ h ▸ ⟨rfl, rfl⟩) (fun _ _ h ↦ h)
      fun _ _ _ ↦ trivial
  exact hauthorize.bind fun _ ↦ h.bind fun _ ↦ triple_logAudit

theorem triple_quarantinePartition : Triple (· = store)
    (quarantinePartition lib readings partitionId context reason)
    (fun _ ↦ Changed store partitionId true) fun _ _ ↦ True := by
  refine triple_authorized (Triple.bind ((keeps_now untimed_holds).weaken (fun _ h ↦ h)
    (fun _ _ h ↦ h) fun _ _ _ ↦ trivial) fun createdAt ↦
      triple_modify fun store' h ↦ ⟨fun p ↦ ?_, h.2⟩)
  rw [← h.isQuarantined_eq, isQuarantined, KeyTable.get?_put]
  split
  · rfl
  · rfl

theorem triple_unquarantinePartition : Triple (· = store)
    (unquarantinePartition lib readings partitionId context)
    (fun _ ↦ Changed store partitionId false) fun _ _ ↦ True := by
  refine triple_authorized (triple_modify fun store' h ↦ ⟨fun p ↦ ?_, h.2⟩)
  rw [← h.isQuarantined_eq, isQuarantined, KeyTable.get?_modify]
  split
  · cases store'.quarantineState.get? partitionId with
    | none => rfl
    | some row => rfl
  · rfl

/-! ## When a partition is released -/

theorem now_apply : now readings store
    = (.ok (readings.clock store.tick), { store with tick := store.tick + 1 }) := rfl

/-- A context passes with a capability that is signed with the key of the store. -/
theorem authorize_of_signed (message : String) (hcaps : context.capabilities = [cap])
    (hsigned : cap.signature
      = lib.b64encode (CapabilityVerifier.mac lib store.verifier.secretKey cap))
    (hrequester : cap.requesterId = context.requesterId) (htenant : cap.tenantId = context.tenantId)
    (hcontext : readings.clock store.tick ≤ context.expiresAt)
    (hcap : readings.clock (store.tick + 1) ≤ cap.expiresAt)
    (hrevoked : cap.capabilityId ∉ store.verifier.revoked) :
    authorize lib readings context cap.action cap.resource message store
      = (.ok (), { store with tick := store.tick + 1 + 1 }) := by
  have hverify : store.verifier.verify lib (readings.clock (store.tick + 1)) cap context cap.action
      cap.resource = .ok true :=
    CapabilityVerifier.verify_of_signed hsigned hrequester htenant hcap hrevoked
  -- the only capability is for the action and the resource that are asked for
  have hheld : hasCapabilityIn lib readings context cap.action cap.resource context.capabilities
      { store with tick := store.tick + 1 }
        = (.ok true, { store with tick := store.tick + 1 + 1 }) := by
    rw [hcaps, hasCapabilityIn, if_pos ⟨rfl, Or.inr rfl⟩, bind_of_ok now_apply,
      bind_of_ok get_apply, ofExcept_bind_of_ok hverify]
    rfl
  rw [authorize, bind_of_ok now_apply, if_neg (not_lt.mpr hcontext), bind_of_ok hheld]
  rfl

/-- With such a context for its release, a partition is released. -/
theorem exists_unquarantinePartition_of_signed (store : ProvenanceMemoryStore)
    (hcaps : context.capabilities = [cap]) (haction : cap.action = "UNQUARANTINE")
    (hresource : cap.resource = partitionId)
    (hsigned : cap.signature
      = lib.b64encode (CapabilityVerifier.mac lib store.verifier.secretKey cap))
    (hrequester : cap.requesterId = context.requesterId) (htenant : cap.tenantId = context.tenantId)
    (hcontext : readings.clock store.tick ≤ context.expiresAt)
    (hcap : readings.clock (store.tick + 1) ≤ cap.expiresAt)
    (hrevoked : cap.capabilityId ∉ store.verifier.revoked) :
    ∃ store', unquarantinePartition lib readings partitionId context store = (.ok (), store') := by
  have hauthorize := authorize_of_signed
    "Unquarantine requires an explicit UNQUARANTINE capability." hcaps hsigned hrequester htenant
    hcontext hcap hrevoked
  rw [haction, hresource] at hauthorize
  rw [unquarantinePartition, bind_of_ok hauthorize]
  exact ⟨_, rfl⟩

end ProvenanceMemoryStore

end DriftGuardX.Memory
