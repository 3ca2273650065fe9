import DriftGuardX.Foundation.Dictionary
import DriftGuardX.Foundation.Program
import DriftGuardX.Recovery.Capsule

/-!
# The executor

`LocalDevExecutor` on its fixtures: the guards before an execution, the capsule that is made before
the fixtures change, the ten actions and how each is undone, and the boundary where an admission
receipt is checked. The receipt store, the provenance store and the evidence ledger are
collaborators that may return or raise anything.
-/

namespace DriftGuardX.Recovery

open Json Bytes Transaction

structure ExecutionResult (V : Type) where
  proposalId : String
  success : Bool
  outcomeDescription : String
  capsuleId : Option String
  executionMode : ExecutionMode
  sideEffects : Dict V
  error : Option String

/-- The dictionaries of the fixtures. -/
inductive Slot where
  | liveVersions
  | topKStore
  | indexStore
  | rerankerStore
  | modelStore
  | promptVersions
  deriving DecidableEq, Repr

/-- The sets of the fixtures. -/
inductive Flag where
  | toolsDisabled
  | quarantinedNs
  deriving DecidableEq, Repr

/-- The state of the executor and of what it works with: `world` belongs to the collaborators, and
`tick` counts the readings of the clock. -/
structure LocalDevExecutor (V W : Type) where
  usedIdempotencyKeys : List String
  slots : Slot → List (V × V)
  flags : Flag → List V
  registry : CapsuleRegistry V
  world : W
  tick : ℕ

/-- The collaborators of the executor and the engine. -/
structure Collaborators (V W : Type) where
  /-- `get_admission_receipt_store`. -/
  openReceipts : Program W Raised Unit
  verifyReceipt : String → Dict V → Program W Raised (Bool × String)
  consumeReceipt : String → Program W Raised Unit
  voidReceipt : String → String → Program W Raised Unit
  isQuarantined : V → Program W Raised Bool
  /-- Signing a capability of the tenant for the partition, and quarantining it for a reason. -/
  quarantinePartition : String → V → String → Program W Raised Unit
  /-- Signing a capability for the partition, and releasing it. -/
  unquarantinePartition : V → Program W Raised Unit
  /-- Appending rollback evidence to the transparency ledger: the proposal, the capsule, the side
  effects and the time. -/
  appendEvidence : String → String → Dict V → String → Program W Raised Unit

namespace LocalDevExecutor

variable {V F W : Type} [PyValue V F]

/-- `slot.get(key)`. -/
def slot (ex : LocalDevExecutor V W) (slot : Slot) (key : V) : Option V :=
  Dictionary.find PyValue.eq (ex.slots slot) key

/-- `key in flag`. -/
def flag (ex : LocalDevExecutor V W) (flag : Flag) (key : V) : Bool :=
  Dictionary.mem PyValue.eq (ex.flags flag) key

/-- A program on the state of the collaborators. -/
def outside {α : Type} (x : Program W Raised α) : Program (LocalDevExecutor V W) Raised α :=
  Program.zoom world (fun ex w ↦ { ex with world := w }) x

/-- `datetime.now(UTC)`. -/
def now (readings : Readings) : Program (LocalDevExecutor V W) Raised ℤ := fun ex ↦
  (.ok (readings.clock ex.tick), { ex with tick := ex.tick + 1 })

/-- `str(uuid4())`. -/
def newId (readings : Readings) : Program (LocalDevExecutor V W) Raised String := fun ex ↦
  (.ok (readings.uuid ex.tick), { ex with tick := ex.tick + 1 })

/-! ## Guards -/

def idemKey (proposal : RecoveryProposal V) : String :=
  proposal.proposalId ++ ":" ++ proposal.idempotencyKey

/-- The optimistic lock, which is only taken for a component that is named. -/
def checkVersion (ex : LocalDevExecutor V W) (proposal : RecoveryProposal V) : Except Raised Unit :=
  match proposal.expectedVersionId, proposal.params.get? "component_id" with
  | some expected, some componentId =>
    if PyValue.truthy componentId then do
      requireHashable componentId
      let live := ex.slot .liveVersions componentId
      require (live.elim false (PyValue.eq · (PyValue.str expected)) = true) ⟨.staleVersionError,
        "Stale state: component " ++ PyValue.repr componentId ++ " expected version " ++
        reprStr V expected ++ ", found " ++ PyValue.repr (live.getD PyValue.none) ++
        ". Aborting to prevent incorrect recovery."⟩
    else .ok ()
  | _, _ => .ok ()

def guards (ex : LocalDevExecutor V W) (proposal : RecoveryProposal V) : Except Raised Unit := do
  require (proposal.validateParams = []) ⟨.paramValidationError, "Param validation failed: [" ++
    ", ".intercalate (proposal.validateParams.map (reprStr V)) ++ "]"⟩
  require (idemKey proposal ∉ ex.usedIdempotencyKeys) ⟨.idempotencyConflictError,
    "Idempotency key " ++ reprStr V proposal.idempotencyKey ++ " already used for proposal " ++
    reprStr V proposal.proposalId ++ ". Duplicate execution suppressed."⟩
  ex.checkVersion proposal

/-! ## Preparing the capsule -/

/-- The entry of a dictionary under the value of a parameter. -/
def snapshotSlot (proposal : RecoveryProposal V) (slot : Slot) (keyName stateName : String)
    (absent : V) : Program (LocalDevExecutor V W) Raised (Dict V) := do
  let key := (proposal.params.get? keyName).getD (PyValue.str "")
  let ex ← .get
  .ofExcept (requireHashable key)
  return [(keyName, key), (stateName, (ex.slot slot key).getD absent)]

/-- Whether the value of a parameter is in a set. -/
def snapshotFlag (proposal : RecoveryProposal V) (flag : Flag) (keyName stateName : String) :
    Program (LocalDevExecutor V W) Raised (Dict V) := do
  let key := (proposal.params.get? keyName).getD (PyValue.str "")
  let ex ← .get
  .ofExcept (requireHashable key)
  return [(keyName, key), (stateName, PyValue.bool (ex.flag flag key))]

variable (collab : Collaborators V W)

/-- `_snapshot_state`: the part of the fixtures that the action changes. -/
def snapshotState (proposal : RecoveryProposal V) :
    Program (LocalDevExecutor V W) Raised (Dict V) :=
  match proposal.actionType with
  | .increaseTopK => snapshotSlot proposal .topKStore "component_id" "top_k" (PyValue.int 10)
  | .retryHybridRetrieval =>
    pure [("component_id", (proposal.params.get? "component_id").getD (PyValue.str "")),
      ("strategy", PyValue.str "dense")]
  | .switchStableIndex =>
    snapshotSlot proposal .indexStore "component_id" "index_id" (PyValue.str "index_v1")
  | .rerank =>
    snapshotSlot proposal .rerankerStore "component_id" "reranker_id" (PyValue.str "none")
  | .routeStableModel =>
    snapshotSlot proposal .modelStore "component_id" "model" (PyValue.str "gpt-4")
  | .disableTestTool => snapshotFlag proposal .toolsDisabled "tool_id" "disabled"
  | .quarantineMemoryNs => snapshotFlag proposal .quarantinedNs "namespace_id" "quarantined"
  | .quarantineProvenancePartition => do
    let pid := (proposal.params.get? "partition_id").getD (PyValue.str "")
    let quarantined ← outside (collab.isQuarantined pid)
    return [("partition_id", pid), ("quarantined", PyValue.bool quarantined)]
  | .revertPromptVersion =>
    snapshotSlot proposal .promptVersions "prompt_id" "version_tag" (PyValue.str "v1")
  | .rollbackComponent =>
    snapshotSlot proposal .liveVersions "component_id" "version_id" PyValue.none

variable (readings : Readings) (lib : Library F) [FloatText F]

/-- `_prepare_capsule`. -/
def prepareCapsule (proposal : RecoveryProposal V) :
    Program (LocalDevExecutor V W) Raised (RollbackCapsule V) := do
  let prev ← snapshotState collab proposal
  let componentId := (proposal.params.get? "component_id").getD (PyValue.str "unknown")
  .ofExcept (requireHashable componentId)
  let constraints :=
    match nonempty proposal.expectedVersionId with
    | some expected =>
      if PyValue.eq componentId (PyValue.str "unknown") then []
      else [{ componentId, expectedVersionId := expected,
              description := "Component must be at expected version for safe rollback." }]
    | none => []
  .ofExcept (requireWritable prev)
  let capsuleId ← newId readings
  let createdAt ← now readings
  let expiresAt ← now readings
  let capsule : RollbackCapsule V := {
    capsuleId
    proposalId := proposal.proposalId
    actionType := proposal.actionType.value
    tenantId := proposal.tenantId
    componentId
    previousState := prev
    targetState := proposal.params
    artifactHashes := [(componentId, ((lib.sha256 (utf8 prev.text)).take 16).copy)]
    compatibilityConstraints := constraints
    rollbackParams := prev
    verifySteps := ["canary_replay", "metric_delta_check"]
    status := .active
    createdAt
    expiresAt := expiresAt + RollbackCapsule.lifetime
    createdBy := proposal.requesterId
    integrityHash := "" }
  .ofExcept (requireWritable proposal.params)
  .ofExcept (capsule.sealed lib)

/-! ## Applying an action -/

def succeeded (proposalId description : String) (sideEffects : Dict V) : ExecutionResult V where
  proposalId
  success := true
  outcomeDescription := description
  capsuleId := none
  executionMode := .dryRun
  sideEffects
  error := none

def failed (proposalId description error : String) : ExecutionResult V where
  proposalId
  success := false
  outcomeDescription := description
  capsuleId := none
  executionMode := .dryRun
  sideEffects := []
  error := some error

/-- `slot[key] = value`. -/
def assign (slot : Slot) (key value : V) : Program (LocalDevExecutor V W) Raised Unit := do
  .ofExcept (requireHashable key)
  .modify fun ex ↦ { ex with
    slots := fun slot' ↦
      if slot' = slot then Dictionary.assign PyValue.eq (ex.slots slot) key value
      else ex.slots slot' }

/-- `flag.add(key)` or `flag.discard(key)`. -/
def mark (flag : Flag) (key : V) (member : Bool) : Program (LocalDevExecutor V W) Raised Unit := do
  .ofExcept (requireHashable key)
  .modify fun ex ↦ { ex with
    flags := fun flag' ↦
      if flag' = flag then
        if member then Dictionary.add PyValue.eq (ex.flags flag) key
        else Dictionary.discard PyValue.eq (ex.flags flag) key
      else ex.flags flag' }

/-- An action that stores one parameter under another. -/
def applySlot (proposal : RecoveryProposal V) (slot : Slot) (keyName valueName : String)
    (description : V → V → String) (sideEffects : V → V → Dict V) :
    Program (LocalDevExecutor V W) Raised (ExecutionResult V) := do
  let key ← .ofExcept (proposal.params.item keyName)
  let value ← .ofExcept (proposal.params.item valueName)
  assign slot key value
  return succeeded proposal.proposalId (description key value) (sideEffects key value)

def increaseTopK (proposal : RecoveryProposal V) :
    Program (LocalDevExecutor V W) Raised (ExecutionResult V) := do
  let cid ← .ofExcept (proposal.params.item "component_id")
  let value ← .ofExcept (proposal.params.item "new_top_k")
  let newK ← .ofExcept (PyValue.toInt value)
  let maxK ← .ofExcept
    (PyValue.toInt ((proposal.params.get? "max_allowed_top_k").getD (PyValue.int 100)))
  if maxK < newK then do
    let newText ← .ofExcept (intStr newK)
    let maxText ← .ofExcept (intStr maxK)
    return failed proposal.proposalId s!"new_top_k={newText} exceeds max={maxText}."
      "top_k_exceeds_limit"
  else do
    assign .topKStore cid (PyValue.int newK)
    -- the text is made after the entry was stored
    let newText ← .ofExcept (intStr newK)
    return succeeded proposal.proposalId s!"top_k for {PyValue.repr cid} set to {newText}."
      [("top_k", PyValue.int newK)]

/-- The body of `_apply`. -/
def applyAction (proposal : RecoveryProposal V) :
    Program (LocalDevExecutor V W) Raised (ExecutionResult V) :=
  match proposal.actionType with
  | .increaseTopK => increaseTopK proposal
  | .retryHybridRetrieval => do
    let cid ← .ofExcept (proposal.params.item "component_id")
    let strategy ← .ofExcept (proposal.params.item "strategy")
    return succeeded proposal.proposalId
      s!"Retrieval strategy for {PyValue.repr cid} set to {PyValue.repr strategy}."
      [("strategy", strategy)]
  | .switchStableIndex => applySlot proposal .indexStore "component_id" "target_index_id"
      (fun cid idx ↦ s!"Index for {PyValue.repr cid} switched to {PyValue.repr idx}.")
      (fun _ idx ↦ [("index_id", idx)])
  | .rerank => applySlot proposal .rerankerStore "component_id" "reranker_id"
      (fun cid rr ↦ s!"Reranker for {PyValue.repr cid} set to {PyValue.repr rr}.")
      (fun _ rr ↦ [("reranker_id", rr)])
  | .routeStableModel => applySlot proposal .modelStore "component_id" "stable_model_alias"
      (fun cid model ↦ s!"Model for {PyValue.repr cid} routed to {PyValue.repr model}.")
      (fun _ model ↦ [("model", model)])
  | .disableTestTool => do
    let tid ← .ofExcept (proposal.params.item "tool_id")
    mark .toolsDisabled tid true
    return succeeded proposal.proposalId s!"Tool {PyValue.repr tid} disabled."
      [("tool_id", tid), ("disabled", PyValue.bool true)]
  | .quarantineMemoryNs => do
    let ns ← .ofExcept (proposal.params.item "namespace_id")
    mark .quarantinedNs ns true
    return succeeded proposal.proposalId s!"Namespace {PyValue.repr ns} quarantined (read-only)."
      [("namespace_id", ns), ("quarantined", PyValue.bool true)]
  | .quarantineProvenancePartition => do
    let pid ← .ofExcept (proposal.params.item "partition_id")
    outside (collab.quarantinePartition proposal.tenantId pid
      s!"Quarantined by proposal {proposal.proposalId}")
    return succeeded proposal.proposalId
      s!"Provenance partition {PyValue.repr pid} quarantined globally."
      [("partition_id", pid), ("quarantined", PyValue.bool true)]
  | .revertPromptVersion => applySlot proposal .promptVersions "prompt_id" "target_version_tag"
      (fun pid vtag ↦ s!"Prompt {PyValue.repr pid} reverted to {PyValue.repr vtag}.")
      (fun pid vtag ↦ [("prompt_id", pid), ("version_tag", vtag)])
  | .rollbackComponent => applySlot proposal .liveVersions "component_id" "target_version_id"
      (fun cid vid ↦ s!"Component {PyValue.repr cid} rolled back to {PyValue.repr vid}.")
      (fun cid vid ↦ [("component_id", cid), ("version_id", vid)])

/-- `_apply`, which turns some exceptions into a failed result. -/
def apply (proposal : RecoveryProposal V) :
    Program (LocalDevExecutor V W) Raised (ExecutionResult V) :=
  .attempt (applyAction collab proposal) fun exc ↦
    if exc.kind = .keyError ∨ exc.kind.isValueError then
      pure (failed proposal.proposalId ("Execution error: " ++ exc.message) exc.message)
    else .raise exc

/-! ## Executing a proposal -/

/-- What a dry run returns once the guards have passed. -/
def dryRunResult (proposal : RecoveryProposal V) : ExecutionResult V :=
  succeeded proposal.proposalId s!"[DRY_RUN] Would execute {proposal.actionType.value}." []

/-- Applying the action, and taking note of the idempotency key if that succeeds. -/
def applyRecorded (proposal : RecoveryProposal V) (capsule : RollbackCapsule V) :
    Program (LocalDevExecutor V W) Raised (ExecutionResult V) := do
  let result ← apply collab proposal
  .modify fun ex ↦ if result.success then
      { ex with usedIdempotencyKeys := ex.usedIdempotencyKeys.insert (idemKey proposal) }
    else ex
  return { result with
    capsuleId := some capsule.capsuleId, executionMode := proposal.executionMode }

/-- The part of an execution that changes the state. -/
def mutate (proposal : RecoveryProposal V) :
    Program (LocalDevExecutor V W) Raised (ExecutionResult V) := do
  let capsule ← prepareCapsule collab readings lib proposal
  .modify fun ex ↦ { ex with registry := ex.registry.store capsule }
  applyRecorded collab proposal capsule

def execute (proposal : RecoveryProposal V) :
    Program (LocalDevExecutor V W) Raised (ExecutionResult V) := do
  let ex ← Program.get
  .ofExcept (ex.guards proposal)
  if proposal.executionMode = .dryRun then return dryRunResult proposal
  else mutate collab readings lib proposal

/-- Settling the receipt of an execution that returned. -/
def settleReceipt (receiptId : String) (result : ExecutionResult V) :
    Program (LocalDevExecutor V W) Raised Unit :=
  outside (if result.success then collab.consumeReceipt receiptId
    else collab.voidReceipt receiptId ((nonempty result.error).getD "execution failed"))

/-- What the receipt is verified against. -/
def actual (proposal : RecoveryProposal V) : Dict V :=
  proposal.admissionBinding.foldl (fun d m ↦ setItem d m.1 m.2)
    [("tenant_id", PyValue.str proposal.tenantId)]

/-- Executing a proposal whose receipt has been admitted. -/
def admitted (proposal : RecoveryProposal V) (receiptId : String) :
    Program (LocalDevExecutor V W) Raised (ExecutionResult V) :=
  .attempt (do
      let result ← execute collab readings lib proposal
      settleReceipt collab receiptId result
      return result)
    fun exc ↦ do
      outside (collab.voidReceipt receiptId exc.message)
      .raise exc

/-- `execute_with_admission`, for a receipt id that is there. -/
def executeWithAdmission (proposal : RecoveryProposal V) (receiptId : String) :
    Program (LocalDevExecutor V W) Raised (ExecutionResult V) := do
  outside collab.openReceipts
  let verdict ← outside (collab.verifyReceipt receiptId (actual proposal))
  if verdict.1 then admitted collab readings lib proposal receiptId
  else .raise ⟨.valueError, "Remediation refused at executor admission boundary: " ++ verdict.2⟩

/-- What the engine asks the executor to do. -/
def call (proposal : RecoveryProposal V) :
    Program (LocalDevExecutor V W) Raised (ExecutionResult V) :=
  match nonempty proposal.admissionReceiptId with
  | some receiptId => executeWithAdmission collab readings lib proposal receiptId
  | none => execute collab readings lib proposal

/-! ## Compensating -/

/-- Putting an entry back. -/
def restoreSlot (prev : Dict V) (slot : Slot) (keyName stateName : String) :
    Program (LocalDevExecutor V W) Raised Unit := do
  let value ← .ofExcept (prev.item stateName)
  let key ← .ofExcept (prev.item keyName)
  assign slot key value

/-- Taking a value out of a set that it was not in. -/
def restoreFlag (prev : Dict V) (flag : Flag) (keyName stateName : String) :
    Program (LocalDevExecutor V W) Raised Unit :=
  if ((prev.get? stateName).elim false PyValue.truthy) then pure ()
  else do
    let key ← .ofExcept (prev.item keyName)
    mark flag key false

/-- Releasing a partition that was not quarantined. -/
def restorePartition (prev : Dict V) : Program (LocalDevExecutor V W) Raised Unit :=
  if ((prev.get? "quarantined").elim false PyValue.truthy) then pure ()
  else do
    let pid ← .ofExcept (prev.item "partition_id")
    outside (collab.unquarantinePartition pid)

/-- The handler of an action in `_rollback`, if it has one. -/
def undo (prev : Dict V) : RecoveryActionType → Option (Program (LocalDevExecutor V W) Raised Unit)
  | .increaseTopK => some (restoreSlot prev .topKStore "component_id" "top_k")
  | .switchStableIndex => some (restoreSlot prev .indexStore "component_id" "index_id")
  | .rerank => some (restoreSlot prev .rerankerStore "component_id" "reranker_id")
  | .routeStableModel => some (restoreSlot prev .modelStore "component_id" "model")
  | .disableTestTool => some (restoreFlag prev .toolsDisabled "tool_id" "disabled")
  | .quarantineMemoryNs => some (restoreFlag prev .quarantinedNs "namespace_id" "quarantined")
  | .quarantineProvenancePartition => some (restorePartition collab prev)
  | .revertPromptVersion => some (restoreSlot prev .promptVersions "prompt_id" "version_tag")
  | .rollbackComponent => some (restoreSlot prev .liveVersions "component_id" "version_id")
  | .retryHybridRetrieval => none

def rolledBack (capsule : RollbackCapsule V) : ExecutionResult V :=
  { succeeded capsule.proposalId ("Rolled back " ++ reprStr V capsule.actionType ++
      " using capsule " ++ reprStr V capsule.capsuleId ++ ".") [] with
    capsuleId := some capsule.capsuleId }

/-- `_rollback`, which turns some exceptions into a failed result. -/
def rollback (capsule : RollbackCapsule V) :
    Program (LocalDevExecutor V W) Raised (ExecutionResult V) :=
  match (RecoveryActionType.ofValue capsule.actionType).bind (undo collab capsule.previousState) with
  | some handler =>
    .attempt (do
        handler
        return rolledBack capsule)
      fun exc ↦
        if exc.kind = .keyError ∨ exc.kind = .typeError then
          pure (failed capsule.proposalId ("Rollback failed: " ++ exc.message) exc.message)
        else .raise exc
  | none => pure (failed capsule.proposalId ("No rollback handler for action " ++
      reprStr V capsule.actionType ++ ".") "no_rollback_handler")

def compensate (capsule : RollbackCapsule V) :
    Program (LocalDevExecutor V W) Raised (ExecutionResult V) := do
  let time ← now readings
  match ← .ofExcept (capsule.isUsable lib time) with
  | some reason => return { failed capsule.proposalId ("Capsule unusable: " ++ reason) reason with
      capsuleId := some capsule.capsuleId }
  | none =>
    let result ← rollback collab capsule
    .modify fun ex ↦ if result.success then
        { ex with registry := ex.registry.replace capsule.sealUsed }
      else ex
    return result

end LocalDevExecutor

end DriftGuardX.Recovery
