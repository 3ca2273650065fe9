import DriftGuardX.Foundation.History
import DriftGuardX.Foundation.Program
import DriftGuardX.Replay.Manifest

/-!
# The replay engine

A replay runs the components of a trace again, in the order in which their types first occur, with
another version of one of them. It is refused when the manifest, the trace or the versions do not
belong together. Components run in processes of their own; what they come to is given, one attempt
after the other, and so are the readings of the clock.

The state of the program is the record of the components that were executed.
-/

namespace DriftGuardX.Replay

open Json Program
open Isolation (Uuid)
open Recovery (Raised)

inductive EvidenceClassification where
  | production
  | realControlledExperiment
  | syntheticSimulation
  | testFixture
  | unverified
  deriving DecidableEq, Repr

def EvidenceClassification.isSynthetic (c : EvidenceClassification) : Bool :=
  c ∈ [EvidenceClassification.syntheticSimulation, .testFixture]

structure RequestRun where
  id : Uuid
  tenantId : Uuid
  pipelineId : Uuid
  evidenceClass : EvidenceClassification

structure TraceArtifact where
  runId : Uuid
  tenantId : Uuid
  pipelineId : Uuid
  spans : List SpanRecord
  evidenceClass : EvidenceClassification

structure InterventionSpec where
  targetComponent : ComponentType
  currentVersion : Option String
  candidateVersion : Option String

/-- The versions by id, in the order of their registration. -/
structure VersionRegistry where
  versions : List ComponentVersion
  distinct : (versions.map ComponentVersion.id).Nodup

def VersionRegistry.get (registry : VersionRegistry) (versionId : Uuid) : Option ComponentVersion :=
  registry.versions.find? fun version ↦ version.id = versionId

theorem VersionRegistry.id_of_get {registry : VersionRegistry} {versionId : Uuid}
    {version : ComponentVersion} (h : registry.get versionId = some version) :
    version.id = versionId := by
  simpa using List.find?_some h

structure ComponentExecutor where
  name : String
  isSynthetic : Bool
  deriving DecidableEq, Repr

/-- `_EXECUTOR_MAP`. -/
def executorMap : ComponentType → String → Option ComponentExecutor
  | .retriever, "v1" => some ⟨"MockRetrieverV1", true⟩
  | .retriever, "v2-exp" => some ⟨"MockRetrieverV2Experimental", true⟩
  | .reranker, "v1" => some ⟨"MockRerankerV1", true⟩
  | .generator, "v1" => some ⟨"MockGeneratorV1", true⟩
  | .memoryRead, "v1" => some ⟨"MockMemoryReadV1", true⟩
  | .memoryWrite, "v1" => some ⟨"MockMemoryWriteV1", true⟩
  | .toolCall, "v1" => some ⟨"MockToolCallV1", true⟩
  | .policyCheck, "v1" => some ⟨"MockPolicyCheckV1", true⟩
  | .finalResponse, "v1" => some ⟨"MockFinalResponseV1", true⟩
  | _, _ => none

/-- What an isolated execution comes to: an output, the time limit, an exception of the classes that
are recorded, or another one. -/
inductive Outcome (F : Type) where
  | output (output : Payload F)
  | timeout
  | failed (errorType message : String)
  | raised (message : String)

/-- The clock around an execution, and what it comes to. -/
structure Attempt (F : Type) where
  start : ℤ
  stop : ℤ
  outcome : Outcome F

/-- What the environment supplies: the table of executors, the attempts one after the other, the
clock around the replay, and its id. -/
structure ReplayEnvironment (F : Type) where
  executors : ComponentType → String → Option ComponentExecutor
  attempts : ℕ → Attempt F
  start : ℤ
  stop : ℤ
  replayId : Uuid

/-- The arguments of `execute_replay`. -/
structure ReplayRequest (F : Type) where
  originalRun : RequestRun
  originalTrace : TraceArtifact
  intervention : InterventionSpec
  replayVersion : ComponentVersion
  originalReliabilityVector : Payload F
  seed : ℤ
  manifest : Option (ReplayStateManifest F)

/-- An execution of a component. -/
structure Execution (F : Type) where
  executor : ComponentExecutor
  componentType : ComponentType
  version : ComponentVersion
  inputs : Payload F
  seed : ℤ

inductive ReplayStatus where
  | pending
  | running
  | completed
  | failed
  | invalid
  | negativeOutcome
  deriving DecidableEq, Repr

/-- The episode, without the scores and hashes that are computed from the new trace. -/
structure ReplayEpisode where
  replayId : Uuid
  runId : Uuid
  tenantId : Uuid
  status : ReplayStatus
  invalidReason : Option String
  swappedComponentType : ComponentType
  originalVersionId : Option Uuid
  replayVersionId : Uuid
  originalVersionTag : Option String
  replayVersionTag : Option String
  pinnedVersionIds : List (String × String)
  seed : Option ℤ
  evidenceClass : EvidenceClassification
  manifestId : Option Uuid
  isPinned : Bool
  deriving DecidableEq, Repr

variable {F : Type}

/-! ## Refusals -/

def refuse {α : Type} (reason : String) : Except Raised α :=
  .error ⟨.valueError, "Replay refused: " ++ reason⟩

section Checks

variable [FloatText F] (lib : ReplayLibrary F) (registry : VersionRegistry)
  (request : ReplayRequest F)

/-- The checks before the spans are looked at. -/
def checkManifest : Except Raised (ReplayStateManifest F) :=
  let run := request.originalRun
  let trace := request.originalTrace
  match request.manifest with
  | none => refuse "required state manifest is absent."
  | some manifest =>
    if ¬ manifest.isFullyPinned then refuse "required state manifest cannot be fully pinned."
    else if manifest.runId ≠ run.id ∨ manifest.tenantId ≠ run.tenantId then
      refuse "manifest does not belong to the original run and tenant."
    else do
      let hash ← manifest.computeHash lib
      if manifest.manifestHash ≠ hash then refuse "manifest integrity check failed."
      else if manifest.randomSeed ≠ some request.seed then
        refuse "random seed differs from the pinned manifest."
      else if ¬ given request.intervention.currentVersion then
        refuse "original intervention version is unspecified."
      else if trace.runId ≠ run.id ∨ trace.tenantId ≠ run.tenantId ∨
          trace.pipelineId ≠ run.pipelineId then
        refuse "trace does not belong to the original run."
      else if request.replayVersion.componentType ≠ request.intervention.targetComponent ∨
          some request.replayVersion.versionTag ≠ request.intervention.candidateVersion then
        refuse "replacement version does not match the intervention."
      else .ok manifest

end Checks

section Versions

variable (registry : VersionRegistry) (request : ReplayRequest F)

/-- The preserved versions by type. -/
abbrev Resolved := ComponentType → Option ComponentVersion

/-- A span on the way through the trace. -/
def resolveSpan (resolved : Resolved) (span : SpanRecord) : Except Raised Resolved :=
  let run := request.originalRun
  if span.runId ≠ run.id ∨ span.tenantId ≠ run.tenantId ∨ span.pipelineId ≠ run.pipelineId then
    refuse "span does not belong to the original run."
  else if span.componentType = some request.intervention.targetComponent then
    if given span.componentVersionTag ∧
        span.componentVersionTag ≠ request.intervention.currentVersion then
      refuse "original version does not match the intervention."
    else .ok resolved
  else
    match span.componentType with
    | none => .ok resolved
    | some componentType =>
      match span.componentVersionId.bind registry.get with
      | none => refuse "pinned component version is unavailable."
      | some original =>
        if original.componentType ≠ componentType ∨ given span.componentVersionTag ∧
            some original.versionTag ≠ span.componentVersionTag then
          refuse "pinned component version does not match its span."
        else if (resolved componentType).any fun previous ↦ previous.id ≠ original.id then
          refuse "conflicting versions for one component type."
        else .ok (Function.update resolved componentType (some original))

/-- The versions that a trace preserves. -/
def resolveVersions : Except Raised Resolved :=
  request.originalTrace.spans.foldlM (resolveSpan registry request) fun _ ↦ none

/-- `pinned_versions`. -/
def pinnedVersions : List (String × String) :=
  request.originalTrace.spans.foldl (fun pinned span ↦
    match span.componentType, span.componentVersionId with
    | some componentType, some versionId =>
      if componentType ≠ request.intervention.targetComponent then
        setItem pinned componentType.value (uuidText versionId)
      else pinned
    | _, _ => pinned) []

end Versions

/-! ## The pipeline -/

/-- The types of the spans in the order of their first occurrence. -/
def componentTypes (spans : List SpanRecord) : List ComponentType :=
  spans.foldl (fun order span ↦
    match span.componentType with
    | some componentType => if componentType ∈ order then order else order ++ [componentType]
    | none => order) []

/-- The pipeline of a trace without types. -/
def fallback : List ComponentType :=
  [.memoryRead, .retriever, .reranker, .generator, .toolCall, .policyCheck, .memoryWrite,
    .finalResponse]

def pipelineOrder (spans : List SpanRecord) : List ComponentType :=
  if componentTypes spans = [] then fallback else componentTypes spans

/-- The text of a type in an exception: the types of a trace are strings. -/
def label (spans : List SpanRecord) (componentType : ComponentType) : String :=
  if componentTypes spans = [] then componentType.text else componentType.value

/-- What the loop carries along. The faithfulness score is `1.0` until a generator gives one. -/
structure Progress (F : Type) where
  currentInputs : Payload F
  spans : List SpanRecord
  faithfulnessScore : Option F
  hasSyntheticExecutor : Bool

section Loop

variable (lib : ReplayLibrary F) (env : ReplayEnvironment F) (request : ReplayRequest F)

/-- The version to use for a type of the pipeline, or nothing when it is to be skipped. -/
def versionFor (resolved : Resolved) (componentType : ComponentType) :
    Except Raised (Option ComponentVersion) :=
  if componentType = request.intervention.targetComponent then .ok (some request.replayVersion)
  else
    match request.originalTrace.spans.find? fun span ↦ span.componentType = some componentType with
    | none => .ok none
    | some originalSpan =>
      if originalSpan.componentVersionId.isSome then
        match resolved componentType with
        | some version => .ok (some version)
        | none => .error ⟨.keyError, s!"'{componentType.value}'"⟩
      else .ok none

/-- The output of an attempt and the error that was recorded, unless it raised. -/
def Outcome.result : Outcome F → Except Raised (Payload F × Option (String × String))
  | .output payload => .ok (payload, none)
  | .timeout => .ok ([], some ("TimeoutError", "Execution exceeded hard timeout limit (30.0s)"))
  | .failed errorType message => .ok ([], some (errorType, message))
  | .raised message => .error ⟨.other, message⟩

/-- The score in the output of a generator. -/
def faithfulness (output : Payload F) : Except Raised (Option F) :=
  match output.lookup "faithfulness_score" with
  | none => .ok none
  | some score => (lib.toFloat score).map some

/-- The span of a component that was executed. -/
def componentSpan (componentType : ComponentType) (version : ComponentVersion)
    (attempt : Attempt F) (output : Payload F) (error : Option (String × String)) : SpanBuilder F :=
  { runId := env.replayId
    tenantId := request.originalRun.tenantId
    pipelineId := request.originalRun.pipelineId
    name := s!"{componentType.value}/{version.versionTag}"
    startTime := attempt.start
    endTime := attempt.stop
    statusCode := if error.isSome then "ERROR" else "OK"
    componentType := some componentType
    componentVersionId := some version.id
    componentVersionTag := some version.versionTag
    tokenCountInput :=
      if componentType = .generator then (output.lookup "token_count_input").getD (.int 0)
      else .none
    tokenCountOutput :=
      if componentType = .generator then (output.lookup "token_count_output").getD (.int 0)
      else .none
    policyResult :=
      if componentType = .policyCheck then (output.lookup "policy_result").getD (.str "allow")
      else .none
    errorType := error.map Prod.fst
    errorMessage := error.map Prod.snd }

/-- What is made of an attempt: the output, its score and the span. -/
def recordAttempt (componentType : ComponentType) (version : ComponentVersion)
    (attempt : Attempt F) : Except Raised (Payload F × Option F × SpanRecord) := do
  let (output, error) ← attempt.outcome.result
  let score ← if componentType = .generator then faithfulness lib output else .ok none
  let span ← (componentSpan env request componentType version attempt output error).build lib
  return (output, score, span)

/-- What the loop carries on. -/
def Progress.next (progress : Progress F) (executor : ComponentExecutor)
    (componentType : ComponentType) (recorded : Payload F × Option F × SpanRecord) : Progress F :=
  { currentInputs := recorded.1.foldl (fun inputs m ↦ setItem inputs m.1 m.2) progress.currentInputs
    spans := progress.spans ++ [recorded.2.2]
    faithfulnessScore :=
      if componentType = .generator then recorded.2.1 else progress.faithfulnessScore
    hasSyntheticExecutor := progress.hasSyntheticExecutor || executor.isSynthetic }

/-- `get_executor`. -/
def getExecutor (componentType : ComponentType) (versionTag : String) :
    Except Raised ComponentExecutor :=
  match env.executors componentType versionTag with
  | some executor => .ok executor
  | none => .error ⟨.valueError,
      s!"No executor for {label request.originalTrace.spans componentType}:{versionTag}"⟩

/-- A turn of the loop with a version. -/
def runVersion (componentType : ComponentType) (version : ComponentVersion)
    (progress : Progress F) : Program (List (Execution F)) Raised (Progress F) := do
  let executor ← ofExcept (getExecutor env request componentType version.versionTag)
  let executed ← get
  modify (· ++ [⟨executor, componentType, version, progress.currentInputs, request.seed⟩])
  let recorded ← ofExcept
    (recordAttempt lib env request componentType version (env.attempts executed.length))
  return progress.next executor componentType recorded

/-- The loop over the pipeline. -/
def runPipeline (resolved : Resolved) :
    List ComponentType → Progress F → Program (List (Execution F)) Raised (Progress F)
  | [], progress => pure progress
  | componentType :: order, progress => do
    match ← ofExcept (versionFor request resolved componentType) with
    | none => runPipeline resolved order progress
    | some version =>
      let progress ← runVersion lib env request componentType version progress
      runPipeline resolved order progress

/-- The inputs of the first component. -/
def initialInputs (manifest : ReplayStateManifest F) : Payload F :=
  let tenantId := uuidText request.originalRun.tenantId
  [("query", match manifest.originalQuery with | some query => .str query | none => .none),
    ("seed", .int request.seed),
    ("tenant_id", .str tenantId),
    ("partition_id", .str s!"{tenantId}_{uuidText request.originalRun.id}")]

/-- The span of the replay. -/
def rootSpan : SpanBuilder F :=
  { runId := env.replayId
    tenantId := request.originalRun.tenantId
    pipelineId := request.originalRun.pipelineId
    name := "replay_pipeline"
    startTime := env.start
    endTime := env.stop
    statusCode := "OK"
    componentType := none
    componentVersionId := none
    componentVersionTag := none
    tokenCountInput := .none
    tokenCountOutput := .none
    policyResult := .none
    errorType := none
    errorMessage := none }

/-- What the evidence of a replay can be called. -/
def replayEvidence (hasSyntheticExecutor : Bool) : EvidenceClassification :=
  let run := request.originalRun.evidenceClass
  let trace := request.originalTrace.evidenceClass
  if run.isSynthetic ∨ trace.isSynthetic ∨ hasSyntheticExecutor then .syntheticSimulation
  else if .unverified ∈ [run, trace] then .unverified
  else .realControlledExperiment

def buildEpisode (manifest : ReplayStateManifest F) (progress : Progress F) : ReplayEpisode :=
  let target := request.intervention.targetComponent
  { replayId := env.replayId
    runId := request.originalRun.id
    tenantId := request.originalRun.tenantId
    status := .completed
    invalidReason := none
    swappedComponentType := request.replayVersion.componentType
    originalVersionId := (request.originalTrace.spans.find? fun span ↦
      span.componentType = some target).bind SpanRecord.componentVersionId
    replayVersionId := request.replayVersion.id
    originalVersionTag := request.intervention.currentVersion
    replayVersionTag := request.intervention.candidateVersion
    pinnedVersionIds := pinnedVersions request
    seed := some request.seed
    evidenceClass := replayEvidence request progress.hasSyntheticExecutor
    manifestId := some manifest.id
    isPinned := true }

/-- `compute_reliability_delta`, which subtracts the values of the original vector. -/
def computeDelta (vector : Payload F) : Except Raised Unit := vector.forM fun m ↦ lib.subtract m.2

/-- `hash_payload`. Of the values in memory, only texts may have what cannot be encoded. -/
def hashPayload : Val F → Except Raised Unit
  | .str text =>
    if lib.encodable text then .ok () else .error ⟨.valueError, lib.encodeError text⟩
  | _ => .ok ()

/-- The value of a field for a float. -/
def isFloatField : Val F → Bool
  | .float _ | .int _ => true
  | _ => false

/-- What is computed for the episode, and the check of its fields. -/
def conclude (currentInputs : Payload F) : Except Raised Unit := do
  computeDelta lib request.originalReliabilityVector
  hashPayload lib ((currentInputs.lookup "final_response").getD (.str ""))
  if request.originalReliabilityVector.all fun m ↦ isFloatField m.2 then .ok ()
  else .error ⟨.valueError, lib.episodeError request.originalReliabilityVector⟩

/-- `execute_replay`: the episode, the spans of the new trace, and the score for it. -/
def executeReplay [FloatText F] (registry : VersionRegistry) :
    Program (List (Execution F)) Raised (ReplayEpisode × List SpanRecord × Option F) := do
  let manifest ← ofExcept (checkManifest lib request)
  let resolved ← ofExcept (resolveVersions registry request)
  let progress ← runPipeline lib env request resolved
    (pipelineOrder request.originalTrace.spans) ⟨initialInputs request manifest, [], none, false⟩
  let root ← ofExcept ((rootSpan env request).build lib)
  ofExcept (conclude lib request progress.currentInputs)
  return (buildEpisode env request manifest progress, root :: progress.spans,
    progress.faithfulnessScore)

end Loop

end DriftGuardX.Replay
