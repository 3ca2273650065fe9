import DriftGuardX.Memory.Store

/-!
# Access to partitions

Writing to partitions and reading from them, on the store's database and on the map of partitions
that it keeps in memory. A tenant has the partitions whose ids start with its own id and an
underscore. A partition in quarantine is not written to, and is read with a capability only.

Each call has its own readings of the clock, and the database may refuse any of its statements. Each
statement is a transaction of its own, so what a call has done before one is refused stays done.
-/

namespace DriftGuardX.Memory

open Program

/-- The statements of a call on the database. -/
inductive Statement where
  | selectStatus
  | insertQuarantine
  | updateQuarantine
  | insertAudit
  deriving DecidableEq, Repr

/-- What the environment supplies to a call; statements that are refused have the text of an
exception. -/
structure Environment extends Readings where
  refuses : Statement → Option String

inductive AccessErrorKind where
  | memory (kind : MemoryErrorKind)
  | quarantineViolationError
  | operationalError
  deriving DecidableEq, Repr

structure AccessError where
  kind : AccessErrorKind
  message : String
  deriving DecidableEq, Repr

def AccessError.ofMemory (e : MemoryError) : AccessError := ⟨.memory e.kind, e.message⟩

/-- The store with its partitions. What is stored in them is not looked at. -/
structure ProvenanceMemory (D : Type) where
  store : ProvenanceMemoryStore
  partitions : KeyTable fun m : String × List D ↦ m.1

variable {D α : Type} (lib : MemoryLibrary) (env : Environment)

namespace ProvenanceMemory

/-- `_partitions.get(partition_id, [])`. -/
def entries (memory : ProvenanceMemory D) (partitionId : String) : List D :=
  ((memory.partitions.get? partitionId).map Prod.snd).getD []

/-- `_partitions[partition_id].append(data)`, with an empty list for a new partition. -/
def append (memory : ProvenanceMemory D) (partitionId : String) (data : D) : ProvenanceMemory D :=
  { memory with
    partitions := memory.partitions.put (partitionId, memory.entries partitionId ++ [data]) }

/-- A program on the store. -/
def onStore (x : Program ProvenanceMemoryStore MemoryError α) :
    Program (ProvenanceMemory D) AccessError α :=
  .mapError AccessError.ofMemory (.zoom store (fun memory store ↦ { memory with store }) x)

/-- A statement on the database, which may be refused. -/
def execute (statement : Statement) : Program (ProvenanceMemory D) AccessError Unit :=
  match env.refuses statement with
  | some message => .raise ⟨.operationalError, message⟩
  | none => pure ()

/-- `partition_id.startswith(f"{tenant_id}_")`. -/
def OwnedBy (tenantId partitionId : String) : Prop :=
  (tenantId ++ "_").toList <+: partitionId.toList

instance (tenantId partitionId : String) : Decidable (OwnedBy tenantId partitionId) :=
  inferInstanceAs (Decidable (_ <+: _))

/-- The checks of a context before a partition is written to or read from. -/
def checkAccess (partitionId : String) (context : AccessContext) (action verb : String) :
    Program (ProvenanceMemory D) AccessError Unit := do
  let time ← onStore (ProvenanceMemoryStore.now env.toReadings)
  if context.expiresAt < time then
    .raise ⟨.memory .authorizationError, "AccessContext is invalid or expired."⟩
  else if ¬ OwnedBy context.tenantId partitionId then
    .raise ⟨.memory .authorizationError, s!"Cross-tenant {action} violation: tenant " ++
      s!"{context.tenantId} cannot {verb} partition {partitionId}"⟩
  else pure ()

/-- `_is_quarantined`. -/
def isQuarantined (partitionId : String) : Program (ProvenanceMemory D) AccessError Bool := do
  execute env .selectStatus
  let memory ← Program.get
  return memory.store.isQuarantined partitionId

/-- `_log_audit` for a new event. -/
def logAudit (context : AccessContext) (partitionId action result : String) :
    Program (ProvenanceMemory D) AccessError Unit := do
  execute env .insertAudit
  onStore (ProvenanceMemoryStore.logAudit lib env.toReadings context partitionId action result)

def write (partitionId : String) (data : D) (context : AccessContext) :
    Program (ProvenanceMemory D) AccessError Unit := do
  checkAccess env partitionId context "write" "write to"
  let quarantined ← isQuarantined env partitionId
  if quarantined then do
    logAudit lib env context partitionId "WRITE" "DENIED_QUARANTINE"
    .raise ⟨.quarantineViolationError, s!"Partition {partitionId} is quarantined. Write denied."⟩
  else do
    .modify fun memory ↦ memory.append partitionId data
    logAudit lib env context partitionId "WRITE" "ALLOWED"

/-- The part of `read` before the data is returned. -/
def admitRead (partitionId : String) (context : AccessContext) :
    Program (ProvenanceMemory D) AccessError Unit := do
  checkAccess env partitionId context "read" "read from"
  let quarantined ← isQuarantined env partitionId
  if quarantined then do
    let forensic ← onStore (ProvenanceMemoryStore.hasCapabilityIn lib env.toReadings context
      "FORENSIC_READ" partitionId context.capabilities)
    if forensic then logAudit lib env context partitionId "FORENSIC_READ" "ALLOWED"
    else do
      logAudit lib env context partitionId "READ" "DENIED_MISSING_CAPABILITY"
      .raise ⟨.quarantineViolationError,
        "Read denied. Forensic access requires an explicit approval capability."⟩
  else logAudit lib env context partitionId "READ" "ALLOWED"

def read (partitionId : String) (context : AccessContext) :
    Program (ProvenanceMemory D) AccessError (List D) := do
  admitRead lib env partitionId context
  let memory ← Program.get
  return memory.entries partitionId

def quarantinePartition (partitionId : String) (context : AccessContext) (reason : String) :
    Program (ProvenanceMemory D) AccessError Unit := do
  onStore (ProvenanceMemoryStore.authorize lib env.toReadings context "QUARANTINE" partitionId
    "Quarantine requires an explicit QUARANTINE capability.")
  execute env .insertQuarantine
  onStore (ProvenanceMemoryStore.insertOrReplace lib env.toReadings partitionId context reason)
  logAudit lib env context partitionId "QUARANTINE" "SUCCESS"

def unquarantinePartition (partitionId : String) (context : AccessContext) :
    Program (ProvenanceMemory D) AccessError Unit := do
  onStore (ProvenanceMemoryStore.authorize lib env.toReadings context "UNQUARANTINE" partitionId
    "Unquarantine requires an explicit UNQUARANTINE capability.")
  execute env .updateQuarantine
  onStore (ProvenanceMemoryStore.release partitionId)
  logAudit lib env context partitionId "UNQUARANTINE" "SUCCESS"

/-! ### A database that refuses nothing -/

section Accepted

variable {β : Type} {lib env} {statement : Statement}

theorem onStore_bind (x : Program ProvenanceMemoryStore MemoryError α)
    (f : α → Program ProvenanceMemoryStore MemoryError β) :
    (onStore (x >>= f) : Program (ProvenanceMemory D) AccessError β)
      = onStore x >>= fun a ↦ onStore (f a) := by
  rw [onStore, zoom_bind, mapError_bind]
  · rfl
  · exact fun _ _ ↦ rfl
  · exact fun _ _ _ ↦ rfl

theorem execute_bind (h : env.refuses statement = none)
    (x : Program (ProvenanceMemory D) AccessError α) :
    (execute env statement >>= fun _ ↦ x) = x := by
  rw [execute, h]
  rfl

/-- A partition is quarantined as by the store alone. -/
theorem quarantinePartition_eq_onStore (h : ∀ statement, env.refuses statement = none)
    (partitionId : String) (context : AccessContext) (reason : String) :
    quarantinePartition lib env partitionId context reason
      = (onStore (ProvenanceMemoryStore.quarantinePartition lib env.toReadings partitionId context
          reason) : Program (ProvenanceMemory D) AccessError Unit) := by
  rw [quarantinePartition, ProvenanceMemoryStore.quarantinePartition, onStore_bind]
  simp only [onStore_bind, logAudit, execute_bind (h _)]

/-- A partition is released as by the store alone. -/
theorem unquarantinePartition_eq_onStore (h : ∀ statement, env.refuses statement = none)
    (partitionId : String) (context : AccessContext) :
    unquarantinePartition lib env partitionId context
      = (onStore (ProvenanceMemoryStore.unquarantinePartition lib env.toReadings partitionId
          context) : Program (ProvenanceMemory D) AccessError Unit) := by
  rw [unquarantinePartition, ProvenanceMemoryStore.unquarantinePartition, onStore_bind]
  simp only [onStore_bind, logAudit, execute_bind (h _)]

end Accepted

/-! ## Calls -/

inductive Call (D : Type) where
  | write (partitionId : String) (data : D) (context : AccessContext)
  | read (partitionId : String) (context : AccessContext)
  | quarantine (partitionId : String) (context : AccessContext) (reason : String)
  | unquarantine (partitionId : String) (context : AccessContext)

/-- A call returns nothing, or the data that was read. -/
def Call.run : Call D → Program (ProvenanceMemory D) AccessError (Option (List D))
  | .write partitionId data context => do
    ProvenanceMemory.write lib env partitionId data context
    return none
  | .read partitionId context => do
    let data ← ProvenanceMemory.read lib env partitionId context
    return some data
  | .quarantine partitionId context reason => do
    quarantinePartition lib env partitionId context reason
    return none
  | .unquarantine partitionId context => do
    unquarantinePartition lib env partitionId context
    return none

/-- A call and what the environment supplies to it. -/
structure Request (D : Type) where
  env : Environment
  call : Call D

/-- A call counts its own readings. -/
def restart (memory : ProvenanceMemory D) : ProvenanceMemory D :=
  { memory with store := { memory.store with tick := 0 } }

def Request.run (request : Request D) :
    Program (ProvenanceMemory D) AccessError (Option (List D)) := fun memory ↦
  request.call.run lib request.env memory.restart

def emptyMemory : ProvenanceMemory D := ⟨⟨⟨[], []⟩, .empty, [], 0⟩, .empty⟩

/-- An environment in which no time passes and nothing is refused. -/
def still : Environment := ⟨⟨fun _ ↦ 0, fun _ ↦ ""⟩, fun _ ↦ none⟩

end ProvenanceMemory

end DriftGuardX.Memory
