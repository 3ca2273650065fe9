import DriftGuardX.Memory.Store
import DriftGuardX.Recovery.Executor

/-!
# Quarantined partitions

How the executor uses the provenance store: with a verifier whose key comes from the environment it
signs a capability for the partition, and presents it in a context of its own. What the executor
needs of a store is stated apart (`PartitionStore`), and the provenance store provides it
(`partitionStore_withMemory`).
-/

namespace DriftGuardX.Recovery

open Memory Bytes Program

/-! ## The calls of the store -/

/-- An exception of the store, as the executor tells exceptions apart. -/
def Raised.ofMemory (e : MemoryError) : Raised where
  kind := match e.kind with
    | .authorizationError => .other
    | .runtimeError => .runtimeError
    | .binasciiError => .valueError
  message := e.message

/-- The environment's `DGX_CAPABILITY_SECRET`, the provenance store, and the rest of the
surroundings. -/
structure Surroundings (R : Type) where
  secret : Option String
  memory : ProvenanceMemoryStore
  rest : R

/-- The libraries of the store, the text of the exception for a partition id that is no string, and
what the database answers for such an id. -/
structure PartitionLibrary (V : Type) where
  memory : MemoryLibrary
  validationError : V → String
  isQuarantined : V → Except Raised Bool

section Calls

variable {V F R : Type} [PyValue V F] {α : Type}

def onMemory (x : Program ProvenanceMemoryStore MemoryError α) :
    Program (Surroundings R) Raised α :=
  .zoom Surroundings.memory (fun w memory ↦ { w with memory }) (x.mapError Raised.ofMemory)

def onRest (x : Program R Raised α) : Program (Surroundings R) Raised α :=
  .zoom Surroundings.rest (fun w rest ↦ { w with rest }) x

/-- The key of the verifier that the executor makes. -/
def secretKey (w : Surroundings R) : Except Raised (List UInt8) :=
  match nonempty w.secret with
  | some secret => .ok (utf8 secret)
  | none => .error ⟨.runtimeError,
      "DGX_CAPABILITY_SECRET is missing. Cannot verify capabilities."⟩

variable (lib : PartitionLibrary V) (readings : Readings)

/-- The resource of a capability has to be a string. -/
def resource (pid : V) : Except Raised String :=
  match PyValue.toStr pid with
  | some partitionId => .ok partitionId
  | none => .error ⟨.valueError, lib.validationError pid⟩

/-- Five minutes. -/
def capabilityLifetime : ℤ := 5 * 60 * 1000000

omit [PyValue V F] in
/-- The context of the executor, with a capability of the tenant for a partition. -/
def executorContext (key : List UInt8) (tenantId action partitionId : String) :
    Program ProvenanceMemoryStore MemoryError AccessContext := do
  let capabilityId ← ProvenanceMemoryStore.newId readings
  let expiresAt ← ProvenanceMemoryStore.now readings
  let issuedAt ← ProvenanceMemoryStore.now readings
  let nonce ← ProvenanceMemoryStore.newId readings
  let contextExpiresAt ← ProvenanceMemoryStore.now readings
  let cap : SignedCapability := {
    capabilityId
    requesterId := "executor"
    tenantId
    action
    resource := partitionId
    issuedAt
    expiresAt := expiresAt + capabilityLifetime
    issuer := "DriftGuard-X"
    nonce
    policyVersion := "1.0"
    signature := "" }
  return {
    requesterId := "executor"
    tenantId
    capabilities := [CapabilityVerifier.sign lib.memory key cap]
    expiresAt := contextExpiresAt + capabilityLifetime }

/-- Quarantining a partition for a tenant. -/
def quarantine (tenantId : String) (pid : V) (reason : String) :
    Program (Surroundings R) Raised Unit := do
  let w ← .get
  let key ← .ofExcept (secretKey w)
  let partitionId ← .ofExcept (resource lib pid)
  let context ← onMemory (executorContext lib readings key tenantId "QUARANTINE" partitionId)
  onMemory (ProvenanceMemoryStore.quarantinePartition lib.memory readings partitionId context reason)

/-- Releasing a partition for the system. -/
def unquarantine (pid : V) : Program (Surroundings R) Raised Unit := do
  let w ← .get
  let key ← .ofExcept (secretKey w)
  let partitionId ← .ofExcept (resource lib pid)
  let context ← onMemory (executorContext lib readings key "system" "UNQUARANTINE" partitionId)
  onMemory (ProvenanceMemoryStore.unquarantinePartition lib.memory readings partitionId context)

/-- Collaborators of which the provenance store is one. -/
def withMemory (others : Collaborators V R) : Collaborators V (Surroundings R) where
  openReceipts := onRest others.openReceipts
  verifyReceipt receiptId binding := onRest (others.verifyReceipt receiptId binding)
  consumeReceipt receiptId := onRest (others.consumeReceipt receiptId)
  voidReceipt receiptId reason := onRest (others.voidReceipt receiptId reason)
  isQuarantined pid :=
    match PyValue.toStr pid with
    | some partitionId => fun w ↦ (.ok (w.memory.isQuarantined partitionId), w)
    | none => .ofExcept (lib.isQuarantined pid)
  quarantinePartition := quarantine lib readings
  unquarantinePartition := unquarantine lib readings
  appendEvidence proposalId capsuleId sideEffects time :=
    onRest (others.appendEvidence proposalId capsuleId sideEffects time)

end Calls

/-! ## What the executor needs of the store -/

/-- Which partitions are quarantined, as a store that is asked, told to quarantine or to release
one keeps it. It releases one when it is ready to. -/
structure PartitionStore {V F W : Type} [PyValue V F] (collab : Collaborators V W)
    (quarantined : W → String → Bool) (Ready : W → Prop) : Prop where
  isQuarantined : ∀ {pid w b w'}, collab.isQuarantined pid w = (.ok b, w') →
    quarantined w' = quarantined w ∧ ∀ p, PyValue.toStr pid = some p → b = quarantined w p
  quarantine : ∀ {tenantId pid reason w w'},
    collab.quarantinePartition tenantId pid reason w = (.ok (), w') →
    ∃ p, PyValue.toStr pid = some p ∧ quarantined w' = Function.update (quarantined w) p true
  release : ∀ {pid p w}, PyValue.toStr pid = some p → Ready w →
    ∃ w', collab.unquarantinePartition pid w = (.ok (), w') ∧
      quarantined w' = Function.update (quarantined w) p false

section Store

variable {V F R : Type} [PyValue V F] {lib : PartitionLibrary V} {readings : Readings}
  {others : Collaborators V R} {w : Surroundings R}

/-- The environment has the key of the store, the clock advances less than five minutes in a call,
and the next id is not revoked. -/
structure ReadyToRelease (readings : Readings) (w : Surroundings R) : Prop where
  secret : secretKey w = .ok w.memory.verifier.secretKey
  clock : ∀ i j, i < 7 → j < 7 → readings.clock (w.memory.tick + i)
    ≤ readings.clock (w.memory.tick + j) + capabilityLifetime
  unrevoked : readings.uuid w.memory.tick ∉ w.memory.verifier.revoked

theorem onMemory_returns_iff {α : Type} {x : Program ProvenanceMemoryStore MemoryError α} {a : α}
    {w' : Surroundings R} : onMemory x w = (.ok a, w') ↔
      ∃ memory, x w.memory = (.ok a, memory) ∧ w' = { w with memory } := by
  rw [onMemory, zoom, mapError, Prod.mk.injEq, Transaction.mapError_eq_ok_iff]
  constructor
  · rintro ⟨ha, rfl⟩
    exact ⟨_, Prod.ext ha rfl, rfl⟩
  · rintro ⟨memory, hx, rfl⟩
    rw [hx]
    exact ⟨rfl, rfl⟩

theorem resource_eq_ok_iff {pid : V} {partitionId : String} :
    resource lib pid = .ok partitionId ↔ PyValue.toStr pid = some partitionId := by
  rw [resource]
  cases PyValue.toStr pid <;> simp

theorem exists_executorContext (lib : PartitionLibrary V) (readings : Readings) (key : List UInt8)
    (tenantId action partitionId : String) (memory : ProvenanceMemoryStore) : ∃ context cap,
    executorContext lib readings key tenantId action partitionId memory
      = (.ok context, { memory with tick := memory.tick + 5 }) ∧
    context.capabilities = [cap] ∧ cap.action = action ∧ cap.resource = partitionId ∧
    cap.signature = lib.memory.b64encode (CapabilityVerifier.mac lib.memory key cap) ∧
    cap.requesterId = context.requesterId ∧ cap.tenantId = context.tenantId ∧
    context.expiresAt = readings.clock (memory.tick + 4) + capabilityLifetime ∧
    cap.expiresAt = readings.clock (memory.tick + 1) + capabilityLifetime ∧
    cap.capabilityId = readings.uuid memory.tick :=
  ⟨_, _, rfl, rfl, rfl, rfl, rfl, rfl, rfl, rfl, rfl, rfl⟩

theorem partitionStore_withMemory :
    PartitionStore (withMemory lib readings others) (fun w ↦ w.memory.isQuarantined)
      (ReadyToRelease readings) where
  isQuarantined {pid w b w'} h := by
    simp only [withMemory] at h
    cases hpid : PyValue.toStr pid with
    | none =>
      rw [hpid] at h
      obtain ⟨-, rfl⟩ := ofExcept_returns_iff.mp h
      exact ⟨rfl, fun p hp ↦ absurd hp (by simp)⟩
    | some partitionId =>
      rw [hpid] at h
      obtain ⟨hb, rfl⟩ := Prod.mk.inj h
      refine ⟨rfl, fun p hp ↦ ?_⟩
      obtain rfl := Option.some.inj hp
      exact (Except.ok.inj hb).symm
  quarantine {tenantId pid reason w w'} h := by
    simp only [withMemory, quarantine, bind_returns_iff, get_returns_iff, ofExcept_returns_iff,
      onMemory_returns_iff, resource_eq_ok_iff] at h
    obtain ⟨_, _, ⟨rfl, rfl⟩, key, _, ⟨-, rfl⟩, p, _, ⟨hp, rfl⟩, context, _,
      ⟨memory, hcontext, rfl⟩, memory', hquarantine, rfl⟩ := h
    obtain ⟨_, _, hrun, -⟩ :=
      exists_executorContext lib readings key tenantId "QUARANTINE" p w.memory
    obtain ⟨-, rfl⟩ := Prod.mk.inj (hrun.symm.trans hcontext)
    have hchanged := (ProvenanceMemoryStore.triple_quarantinePartition _ rfl).1 _ _ hquarantine
    refine ⟨p, hp, funext fun q ↦ ?_⟩
    rw [hchanged.isQuarantined, Function.update_apply]
    rfl
  release {pid p w} hp hready := by
    obtain ⟨context, cap, hrun, hcaps, haction, hresource, hsigned, hrequester, htenant, hcontext,
      hexpires, hid⟩ := exists_executorContext lib readings w.memory.verifier.secretKey "system"
        "UNQUARANTINE" p w.memory
    have hlive : readings.clock (w.memory.tick + 5) ≤ context.expiresAt :=
      hcontext ▸ hready.clock 5 4 (by decide) (by decide)
    have hcap : readings.clock (w.memory.tick + 6) ≤ cap.expiresAt :=
      hexpires ▸ hready.clock 6 1 (by decide) (by decide)
    have hunrevoked : cap.capabilityId ∉ w.memory.verifier.revoked := hid ▸ hready.unrevoked
    obtain ⟨memory, hreleased⟩ := ProvenanceMemoryStore.exists_unquarantinePartition_of_signed
      { w.memory with tick := w.memory.tick + 5 } hcaps haction hresource hsigned
      hrequester htenant hlive hcap hunrevoked
    have hchanged := (ProvenanceMemoryStore.triple_unquarantinePartition _ rfl).1 _ _ hreleased
    refine ⟨{ w with memory }, ?_, funext fun q ↦ ?_⟩
    · simp only [withMemory, unquarantine, bind_returns_iff, get_returns_iff, ofExcept_returns_iff,
        onMemory_returns_iff, resource_eq_ok_iff]
      exact ⟨_, _, ⟨rfl, rfl⟩, _, _, ⟨hready.secret, rfl⟩, p, _, ⟨hp, rfl⟩, context, _,
        ⟨_, hrun, rfl⟩, memory, hreleased, rfl⟩
    · rw [hchanged.isQuarantined, Function.update_apply]
      rfl

end Store

end DriftGuardX.Recovery
