import DriftGuardX.Recovery.Canary
import DriftGuardX.Recovery.Executor

/-!
# The recovery engine

`RecoveryEngine.run` takes a proposal through its state machine: policy, certificate, execution,
canary, and compensation when something fails. The engine keeps a record of every run, also of one
that raises. It is given a registry of capsules, which as a rule is the one of its executor.
-/

namespace DriftGuardX.Recovery

open Json Bytes

/-- A time with or without a time zone. -/
inductive Timestamp where
  | aware (time : ℤ)
  | naive (time : ℤ)
  deriving DecidableEq, Repr

/-- What the engine reads of a certificate: `payload` is what `serialize_for_signing` returns. -/
structure RecoveryEligibilityCertificate where
  payload : List UInt8
  timestamp : Timestamp
  signatureB64 : String

structure RecoveryRecord (V M : Type) where
  proposal : RecoveryProposal V
  machine : RecoveryStateMachine
  executionResult : Option (ExecutionResult V)
  canaryResult : Option (CanaryVerificationResult M)
  capsule : Option (RollbackCapsule V)
  compensationResult : Option (ExecutionResult V)
  escalationLog : List String

structure RecoveryEngine (V W M : Type) where
  executor : LocalDevExecutor V W
  autoCompensate : Bool
  records : List (String × RecoveryRecord V M)

/-- The arguments of `run`, and what the clock shows while it runs. -/
structure RunCall (V M : Type) where
  proposal : RecoveryProposal V
  canaryEpisodes : List (CanaryEpisode M)
  canaryThresholds : Option (CanaryThresholds M)
  certificate : Option RecoveryEligibilityCertificate
  signerPublicKeyB64 : Option String
  readings : Readings

/-- The state while a run is going on. -/
structure RunState (V W M : Type) where
  executor : LocalDevExecutor V W
  record : RecoveryRecord V M

namespace RecoveryEngine

variable {V F W M : Type} [PyValue V F]

/-- A program of the executor. -/
def onExecutor {α : Type} (x : Program (LocalDevExecutor V W) Raised α) :
    Program (RunState V W M) Raised α :=
  Program.zoom RunState.executor (fun st ex ↦ { st with executor := ex }) x

def onRecord (f : RecoveryRecord V M → RecoveryRecord V M) :
    Program (RunState V W M) Raised Unit :=
  Program.modify fun st ↦ { st with record := f st.record }

def escalate (entry : String) : Program (RunState V W M) Raised Unit :=
  onRecord fun record ↦ { record with escalationLog := record.escalationLog ++ [entry] }

/-- `machine.transition`. -/
def transition (readings : Readings) (toStatus : RecoveryStatus) (reason : String) :
    Program (RunState V W M) Raised Unit := do
  let time ← onExecutor (LocalDevExecutor.now readings)
  let st ← Program.get
  let machine ← .ofExcept (st.record.machine.transition time toStatus "system" reason)
  onRecord fun record ↦ { record with machine }

/-- The capsule that an engine finds for a proposal, in the registry of the executor unless it was
given one of its own. -/
def forProposal (own : Option (CapsuleRegistry V)) (ex : LocalDevExecutor V W)
    (proposalId : String) : Option (RollbackCapsule V) :=
  (own.getD ex.registry).forProposal proposalId

variable (collab : Collaborators V W) (lib : Library F) (own : Option (CapsuleRegistry V))

/-- An hour, after which a certificate has expired. -/
def maxAge : ℤ := 3600 * 1000000

/-- The reason and the log entry with which a certificate is refused, if it is. A capsule that is
already registered for the proposal is asked for an attribute that capsules do not have. -/
def checkCertificate (call : RunCall V M) :
    Program (RunState V W M) Raised (Option (String × String)) :=
  match call.certificate, nonempty call.signerPublicKeyB64 with
  | none, _ => pure (some ("Missing Recovery Eligibility Certificate.",
      "SECURITY: No REC provided. Failing closed."))
  | some _, none => pure (some ("Missing Signer Public Key for REC verification.",
      "SECURITY: No public key provided to verify REC. Failing closed."))
  | some certificate, some key =>
    if lib.verifySignature key certificate.payload certificate.signatureB64 then do
      let st ← Program.get
      if (forProposal own st.executor call.proposal.proposalId).isSome then
        .raise ⟨.attributeError, "'RollbackCapsule' object has no attribute 'config_snapshot'"⟩
      else do
        let time ← onExecutor (LocalDevExecutor.now call.readings)
        match certificate.timestamp with
        | .naive _ =>
          .raise ⟨.typeError, "can't subtract offset-naive and offset-aware datetimes"⟩
        | .aware timestamp => pure (if maxAge < time - timestamp then
            some ("REC is expired.", "SECURITY: Expired REC. Failing closed.") else none)
    else pure (some ("REC signature verification failed.",
      "SECURITY: Invalid REC signature (Tampering detected). Failing closed."))

/-- Appending the rollback to the ledger. The evidence is lost, with a warning, when that raises. -/
def persistEvidence (readings : Readings) (proposalId capsuleId : String) (sideEffects : Dict V) :
    Program (RunState V W M) Raised Unit :=
  .attempt (onExecutor do
      let time ← LocalDevExecutor.now readings
      LocalDevExecutor.outside (collab.appendEvidence proposalId capsuleId sideEffects
        (lib.isoformat time)))
    fun _ ↦ pure ()

variable [FloatText F]

/-- `_compensate`. -/
def compensate (readings : Readings) (reason : String) : Program (RunState V W M) Raised Unit := do
  transition readings .compensating reason
  let st ← Program.get
  let proposalId := st.record.proposal.proposalId
  match st.record.capsule.or (forProposal own st.executor proposalId) with
  | none => do
    transition readings .failed "No capsule available for compensation."
    escalate "ESCALATION: No capsule — manual intervention required."
  | some capsule => do
    let result ← onExecutor (LocalDevExecutor.compensate collab readings lib capsule)
    onRecord fun record ↦ { record with
      compensationResult := some result
      capsule := if result.success then record.capsule.map RollbackCapsule.sealUsed
        else record.capsule }
    if result.success then do
      transition readings .compensated "Compensation succeeded."
      persistEvidence collab lib readings proposalId capsule.capsuleId result.sideEffects
    else do
      transition readings .failed ("Compensation failed: " ++ result.error.getD "None")
      escalate ("ESCALATION: Compensation failed — " ++ result.error.getD "None" ++
        ". Manual intervention required.")

def dryRun (call : RunCall V M) : Program (RunState V W M) Raised Unit := do
  transition call.readings .preparing "Dry run."
  transition call.readings .executing "Dry run execute."
  let result ← onExecutor (LocalDevExecutor.call collab call.readings lib call.proposal)
  onRecord fun record ↦ { record with executionResult := some result }
  transition call.readings .verifying "Dry run verify."
  transition call.readings .committed "Dry run committed."

variable [FloatMetric M]

/-- What is done once the action has succeeded. -/
def verify (autoCompensate : Bool) (call : RunCall V M) : Program (RunState V W M) Raised Unit := do
  let st ← Program.get
  let capsule := forProposal own st.executor call.proposal.proposalId
  onRecord fun record ↦ { record with capsule }
  transition call.readings .verifying "Running canary verification."
  let canary := runCanaryVerification call.proposal.proposalId call.canaryEpisodes
    call.canaryThresholds
  onRecord fun record ↦ { record with canaryResult := some canary }
  if canary.overallPass then transition call.readings .committed "Canary verification passed."
  else
    let reasons := "; ".intercalate canary.failureReasons
    if autoCompensate && capsule.isSome then
      compensate collab lib own call.readings ("Canary failed: " ++ reasons)
    else do
      transition call.readings .failed ("Canary failed (auto-compensate disabled): " ++ reasons)
      escalate reasons

/-- The execution, whose exceptions are turned into failed results. -/
def execute (call : RunCall V M) : Program (RunState V W M) Raised (ExecutionResult V) :=
  .attempt (onExecutor (LocalDevExecutor.call collab call.readings lib call.proposal)) fun exc ↦
    pure (LocalDevExecutor.failed call.proposal.proposalId ("Executor raised: " ++ exc.message)
      exc.message)

/-- Executing the action, and verifying or compensating it. -/
def act (autoCompensate : Bool) (call : RunCall V M) : Program (RunState V W M) Raised Unit := do
  let result ← execute collab lib call
  onRecord fun record ↦ { record with executionResult := some result }
  if result.success then verify collab lib own autoCompensate call
  else compensate collab lib own call.readings ("Execution failed: " ++ result.error.getD "None")

/-- What follows the check of the certificate: the refusal, or the action. -/
def afterCheck (autoCompensate : Bool) (call : RunCall V M) :
    Option (String × String) → Program (RunState V W M) Raised Unit
  | some refusal => do
    transition call.readings .failed refusal.1
    escalate refusal.2
  | none => do
    transition call.readings .executing "Executing action."
    act collab lib own autoCompensate call

/-- The run in a mode that changes something. -/
def mutatingRun (autoCompensate : Bool) (call : RunCall V M) :
    Program (RunState V W M) Raised Unit := do
  transition call.readings .preparing "Preparing capsule."
  let refusal ← checkCertificate lib own call
  afterCheck collab lib own autoCompensate call refusal

def Denied (proposal : RecoveryProposal V) : Prop := proposal.policyDecision = some "deny"

def AwaitsApproval (proposal : RecoveryProposal V) : Prop :=
  proposal.policyDecision = some "needs_approval" ∧ nonempty proposal.approvalRequestId = none

instance (proposal : RecoveryProposal V) : Decidable (Denied proposal) :=
  inferInstanceAs (Decidable (_ = _))

instance (proposal : RecoveryProposal V) : Decidable (AwaitsApproval proposal) :=
  inferInstanceAs (Decidable (_ ∧ _))

/-- The body of `run`, after the machine and the record are made. -/
def runBody (autoCompensate : Bool) (call : RunCall V M) : Program (RunState V W M) Raised Unit := do
  transition call.readings .policyChecking "Starting policy check."
  if Denied call.proposal then do
    transition call.readings .failed "Policy denied this recovery action."
    escalate "Policy DENY — recovery blocked."
  else if AwaitsApproval call.proposal then
    transition call.readings .pendingApproval "Awaiting human approval."
  else if call.proposal.executionMode = .dryRun then dryRun collab lib call
  else mutatingRun collab lib own autoCompensate call

/-- The record of a run that has not begun. -/
def newRecord (call : RunCall V M) : RecoveryRecord V M where
  proposal := call.proposal
  machine := .new call.proposal.proposalId (call.readings.clock 0)
  executionResult := none
  canaryResult := none
  capsule := none
  compensationResult := none
  escalationLog := []

def start (call : RunCall V M) (engine : RecoveryEngine V W M) : RunState V W M where
  executor := { engine.executor with tick := 1 }
  record := newRecord call

/-- `run`. The engine holds the record from the beginning, so it has it also when the run raises. -/
def runWith (call : RunCall V M) :
    Program (RecoveryEngine V W M) Raised (RecoveryRecord V M) := fun engine ↦
  let final := runBody collab lib own engine.autoCompensate call (start call engine)
  (final.1.map fun _ ↦ final.2.record,
    { engine with
      executor := final.2.executor
      records := setItem engine.records call.proposal.proposalId final.2.record })

/-- `run` on an engine that was given the registry of its executor. -/
abbrev run : RunCall V M → Program (RecoveryEngine V W M) Raised (RecoveryRecord V M) :=
  runWith collab lib none

end RecoveryEngine

end DriftGuardX.Recovery
