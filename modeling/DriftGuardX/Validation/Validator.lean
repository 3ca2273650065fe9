import DriftGuardX.Policy.TransferGuard
import DriftGuardX.Recovery.Partitions
import DriftGuardX.Validation.Divergence
import DriftGuardX.Validation.Envelope

/-!
# The validator

A cut is validated in stages: its capabilities are verified, an envelope is built and verified, the
cut is replayed, the replay is compared with the original spans, and the metrics it measured with
the invariants. A stage that fails ends the validation with a refusal or an exception; what is left
is judged (`eligible_iff`).
-/

namespace DriftGuardX.Validation

open Json Bytes Transaction
open Memory (SignedCapability AccessContext CapabilityVerifier MemoryLibrary)
open Policy (EvidenceClassification)
open Recovery (Raised Dict)

variable {F : Type}

/-! ## Replays -/

inductive SandboxOutcome where
  | success
  | sandboxUnavailable
  | sandboxTimeout
  | sandboxPolicyViolation
  | actionUnsupported
  | exogenousControlFailure
  | replayExecutionFailure
  | traceCaptureFailure
  deriving DecidableEq, Repr

def SandboxOutcome.value : SandboxOutcome → String
  | success => "SUCCESS"
  | sandboxUnavailable => "SANDBOX_UNAVAILABLE"
  | sandboxTimeout => "SANDBOX_TIMEOUT"
  | sandboxPolicyViolation => "SANDBOX_POLICY_VIOLATION"
  | actionUnsupported => "ACTION_UNSUPPORTED"
  | exogenousControlFailure => "EXOGENOUS_CONTROL_FAILURE"
  | replayExecutionFailure => "REPLAY_EXECUTION_FAILURE"
  | traceCaptureFailure => "TRACE_CAPTURE_FAILURE"

structure ReplayContext (F : Type) where
  originalTraceId : String
  originalSpans : List (Span F)

structure RecoveryReplayResult (F : Type) where
  outcome : SandboxOutcome
  evidenceKind : EvidenceClassification := .syntheticSimulation
  newSpans : List (Span F) := []
  metrics : List (String × F) := []

/-- A collaborator that replays a cut, and whether it is a synthetic one. -/
structure RecoveryReplayExecutor (F : Type) where
  isSynthetic : Bool
  replay : CausalRecoveryCut F → ReplayEquivalenceEnvelope F → ReplayContext F →
    Except Raised (RecoveryReplayResult F)

/-- Whether a component is among those that are intervened on. -/
def isIntervened (intervened : List String) : Val F → Bool
  | .str component => component ∈ intervened
  | _ => false

/-- A span on which an action is simulated. -/
def simulate (action : RecoveryAction F) (span : Span F) : Span F :=
  if isIntervened [action.targetComponent] ((Dict.get? span "component_type").getD .none) then
    setItem (setItem span "output"
      (.object [("status", .str "recovered"), ("action", .str action.actionType)]))
      "_intervened" (.bool true)
  else span

/-- `SyntheticRecoveryReplayExecutor`. -/
def syntheticRecoveryReplayExecutor : RecoveryReplayExecutor F where
  isSynthetic := true
  replay cut _ context := .ok
    { outcome := .success
      evidenceKind := .syntheticSimulation
      newSpans := cut.selectedActions.foldl (fun spans action ↦ spans.map (simulate action))
        context.originalSpans
      metrics := [("regression_count", cut.regressionRisk), ("blast_radius", cut.blastRadius)] }

/-- What the sandbox returns of a pipeline: an error, or the spans and the metrics. -/
inductive PipelineReply (F : Type) where
  | failed (error : String)
  | completed (spans : List (Span F)) (metrics : Dict (Val F))

/-- `LocalPipelineRecoveryReplayExecutor`, given what its sandbox does and `float` of a value. -/
def localPipelineRecoveryReplayExecutor (toFloat : Val F → Except Raised F)
    (sandbox : CausalRecoveryCut F → ReplayEquivalenceEnvelope F → ReplayContext F →
      Except Raised (PipelineReply F)) : RecoveryReplayExecutor F where
  isSynthetic := false
  replay cut envelope context :=
    match sandbox cut envelope context with
    | .error _ => .ok
      { outcome := .sandboxUnavailable, evidenceKind := .realControlledExperiment }
    | .ok (.failed error) => .ok
      { outcome := if error = "ACTION_UNSUPPORTED" then .actionUnsupported
          else .replayExecutionFailure
        evidenceKind := .realControlledExperiment }
    | .ok (.completed spans metrics) => do
      let regressionCount ← toFloat
        ((metrics.get? "regression_count").getD (.float cut.regressionRisk))
      let blastRadius ← toFloat ((metrics.get? "blast_radius").getD (.float cut.blastRadius))
      return { outcome := .success
               evidenceKind := .realControlledExperiment
               newSpans := spans
               metrics := [("regression_count", regressionCount), ("blast_radius", blastRadius)] }

/-! ## Results -/

structure RecoveryValidationResult (F : Type) where
  recoveryCut : CausalRecoveryCut F
  failureResolved : Bool
  invariants : List (RecoveryInvariant F)
  invariantsSatisfied : Bool
  divergenceReport : Dict (Val F)
  residualRisk : F
  eligibleForCanary : Bool
  reason : String
  /-- What the constructor is given for `evidence_kind` is not a field, and is dropped. -/
  evidenceClass : EvidenceClassification := .unverified
  validatedAt : ℤ

/-- A result that refuses: its report and its reason. -/
structure Refusal (F : Type) where
  report : Dict (Val F)
  reason : String

/-- How a validation ends before it comes to a judgement. -/
inductive Stop (F : Type) where
  | raised (e : Raised)
  | refused (refusal : Refusal F)

def refuse {α : Type} (key text reason : String) : Except (Stop F) α :=
  .error (.refused ⟨[(key, .str text)], reason⟩)

/-- The functions of libraries: those of the store, of the envelope and of the comparison, the mode
in the environment, and the arithmetic of metrics, with a number printed with four decimals. -/
structure ValidationLibrary (F : Type) where
  memory : MemoryLibrary
  envelope : EnvelopeLibrary F
  divergence : DivergenceLibrary F
  mode : Option String
  one : F
  add : F → F → F
  le : F → F → Bool
  fixed4 : F → String

structure RecoveryValidator (F : Type) where
  verifier : CapabilityVerifier
  divergenceValidator : List (List (Span F) × List (Span F)) → ReplayEquivalenceEnvelope F →
    Except Raised (DivergenceReport F)
  executor : RecoveryReplayExecutor F

/-- The arguments of `validate_cut`. Of the capabilities that are provided the ids are read, where
there is one. -/
structure ValidationRequest (F : Type) where
  cut : CausalRecoveryCut F
  invariants : List (RecoveryInvariant F)
  traceId : String
  originalSpans : Option (List (Span F))
  accessContext : Option AccessContext
  exogenousVariables : Option (Dict (Val F))
  providedCapabilities : Option (List (Option String))

namespace ValidationRequest

variable (request : ValidationRequest F)

/-- The ids of the capabilities that count. -/
def providedIds : List String :=
  match request.accessContext with
  | some context => context.capabilities.map SignedCapability.capabilityId
  | none => (request.providedCapabilities.getD []).reduceOption

def spans : List (Span F) := request.originalSpans.getD []

def intervened : List String := request.cut.selectedActions.map RecoveryAction.targetComponent

def replayContext : ReplayContext F := ⟨request.traceId, request.spans⟩

end ValidationRequest

/-! ## The stages -/

namespace RecoveryValidator

variable [FloatText F] (lib : ValidationLibrary F) (times : ℕ → ℤ) (validator : RecoveryValidator F)
  (request : ValidationRequest F)

omit [FloatText F] in
/-- The capability that an action requires, given the time at which it is verified. -/
def authorizeAction (now : ℤ) (action : RecoveryAction F) : Except (Stop F) Unit :=
  match action.requiredCapability with
  | none => .ok ()
  | some cap =>
    if cap.capabilityId ∉ request.providedIds then
      refuse "security"
        s!"Missing required capability: {cap.capabilityId} for action {action.actionId}"
        ("Unauthorized recovery action — required signed capability not provided in " ++
          "context.")
    else match request.accessContext with
      | none => refuse "security" "Signed capabilities require an access context."
        "Unauthorized recovery action — access context missing."
      | some context =>
        match CapabilityVerifier.verify lib.memory validator.verifier now cap.toSignedCapability
          context action.actionType action.targetComponent with
        | .error e => .error (.raised (Raised.ofMemory e))
        | .ok false => refuse "security"
          s!"Invalid, expired, or unauthorized capability: {cap.capabilityId}"
          "Unauthorized recovery action — capability verification failed."
        | .ok true => .ok ()

omit [FloatText F] in
/-- The capabilities of the actions, verified one after the other. -/
def authorize : ℕ → List (RecoveryAction F) → Except (Stop F) Unit
  | _, [] => .ok ()
  | i, action :: actions => do
    authorizeAction lib validator request (times i) action
    authorize (i + 1) actions

/-- The hashes of the spans that are not intervened on. -/
def frozenVariables : Except Raised (List (String × String)) :=
  request.spans.foldlM (fun frozen span ↦ do
    if isIntervened request.intervened span.componentType then return frozen
    else match ← span.nodeId lib.divergence with
      | none => return frozen
      | some id =>
        let hash ← stableHash lib.divergence span.output
        return setItem frozen id hash) []

omit [FloatText F] in
/-- What the envelope of a request is constructed from. -/
def envelopeOf (frozen : List (String × String)) : ReplayEquivalenceEnvelope F where
  traceId := request.traceId
  recoveryCut := request.cut
  invariants := request.invariants
  snapshotHash := ""
  frozenVariables := frozen
  intervenedVariables := request.intervened
  exogenousVariables := request.exogenousVariables.getD []
  allowedCausalDescendants := []
  forbiddenDivergenceNodes := []
  constraints := []
  policyBinding := none
  trustedTimeBinding := none
  sandboxConfig := [("isolation_level", .str "strict")]
  schemaVersion := "2.0"
  graphHash := ""
  envelopeHash := ""

def replayEnvelope : Except Raised (ReplayEquivalenceEnvelope F) := do
  let frozen ← frozenVariables lib request
  ReplayEquivalenceEnvelope.construct lib.envelope (envelopeOf request frozen)

omit [FloatText F] in
/-- The replay of a cut. Its exceptions are refusals. -/
def replay (envelope : ReplayEquivalenceEnvelope F) : Except (Stop F) (RecoveryReplayResult F) :=
  if lib.mode = some "production" ∧ validator.executor.isSynthetic = true then
    refuse "security" "Synthetic execution is forbidden in production."
      "Sandbox executor unavailable."
  else match validator.executor.replay request.cut envelope request.replayContext with
    | .error e => refuse "error" e.message s!"Controlled replay execution failed: {e.message}"
    | .ok result =>
      if result.outcome = .success then .ok result
      else refuse "error" s!"Sandbox failed with outcome: {result.outcome.value}"
        s!"Controlled replay failed: {result.outcome.value}"

/-- The stages up to the judgement: the replay, and the report on it. -/
def stages : Except (Stop F) (RecoveryReplayResult F × DivergenceReport F) := do
  if request.accessContext = none ∧ request.providedCapabilities = none then
    refuse "security" "No execution context provided."
      "Unauthorized recovery action — access context missing."
  else
    authorize lib times validator request 0 request.cut.selectedActions
    let envelope ← (replayEnvelope lib request).mapError .raised
    match ReplayEquivalenceEnvelope.verifyEnvelopeHash lib.envelope envelope with
    | (.error e, _) => .error (.raised e)
    | (.ok false, _) =>
      refuse "security" "Envelope integrity check failed — possible tampering."
        "Envelope hash mismatch."
    | (.ok true, envelope) =>
      let result ← replay lib validator request envelope
      let report ← (validator.divergenceValidator [(request.spans, result.newSpans)]
        envelope).mapError .raised
      return (result, report)

/-! ## The judgement -/

omit [FloatText F] in
/-- The bound of a metric. -/
def bound (inv : RecoveryInvariant F) : F := lib.add inv.baseline inv.allowedDeviation

/-- A metric is measured above its bound. -/
def exceeds (metrics : List (String × F)) (inv : RecoveryInvariant F) : Bool :=
  (Dict.get? metrics inv.metric).any (FloatText.lt (bound lib inv))

/-- What is said of the metrics above their bounds. -/
def excesses (metrics : List (String × F)) (divergences : Dict (Val F)) : Dict (Val F) :=
  (request.invariants.filter (exceeds lib metrics)).foldl (fun divergences inv ↦
    setItem divergences inv.invariantId (.str
      (s!"Metric '{inv.metric}' measured " ++
        ((Dict.get? metrics inv.metric).elim "" lib.fixed4) ++
        s!" exceeds baseline {lib.fixed4 inv.baseline} + allowed " ++
        s!"{lib.fixed4 inv.allowedDeviation}."))) divergences

omit [FloatText F] in
/-- What is said of an invalid report. -/
def divergencesOf (report : DivergenceReport F) : Dict (Val F) :=
  if report.valid then []
  else [("divergence", .object
    [("reason", .str report.reason),
      ("frozen_violations", strs report.violatedFrozenNodes),
      ("forbidden_violations", strs report.violatedForbiddenNodes),
      ("per_node", .object (report.perNode.map fun m ↦ (m.1, m.2.toVal)))])]

/-- The reason that is given: the last of those that apply. -/
def reasonOf (result : RecoveryReplayResult F) (report : DivergenceReport F) : String :=
  if request.invariants.any (exceeds lib result.metrics) then
    "Preservation invariant violated by measured replay metrics."
  else if !report.valid then s!"Divergence validation failed: {report.reason}"
  else if request.cut.residualFailurePaths ≠ [] then "Residual failure-producing paths remain."
  else if result.evidenceKind = .syntheticSimulation then
    "Synthetic simulation passed; controlled replay is required for canary eligibility."
  else "Validation passed."

/-- The result on a replay and the report on it. -/
def judge (result : RecoveryReplayResult F) (report : DivergenceReport F) :
    RecoveryValidationResult F where
  recoveryCut := request.cut
  failureResolved := request.cut.residualFailurePaths = []
  invariants := request.invariants
  invariantsSatisfied := report.valid && !request.invariants.any (exceeds lib result.metrics)
  divergenceReport := excesses lib request result.metrics (divergencesOf report)
  residualRisk := request.cut.regressionRisk
  eligibleForCanary := request.cut.residualFailurePaths = [] &&
    (report.valid && !request.invariants.any (exceeds lib result.metrics)) && report.valid &&
    result.evidenceKind ≠ .syntheticSimulation
  reason := reasonOf lib request result report
  validatedAt := times request.cut.selectedActions.length

omit [FloatText F] in
/-- The result of a refusal. -/
def refused (refusal : Refusal F) : RecoveryValidationResult F where
  recoveryCut := request.cut
  failureResolved := false
  invariants := request.invariants
  invariantsSatisfied := false
  divergenceReport := refusal.report
  residualRisk := lib.one
  eligibleForCanary := false
  reason := refusal.reason
  validatedAt := times request.cut.selectedActions.length

/-- `validate_cut`. -/
def validateCut : Except Raised (RecoveryValidationResult F) :=
  match stages lib times validator request with
  | .ok (result, report) => .ok (judge lib times request result report)
  | .error (.refused refusal) => .ok (refused lib times request refusal)
  | .error (.raised e) => .error e

end RecoveryValidator

end DriftGuardX.Validation
