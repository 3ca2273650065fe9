import DriftGuardX.Foundation.Bytes
import DriftGuardX.Isolation.Isolator
import DriftGuardX.Json.Text
import DriftGuardX.Recovery.StateMachine

/-!
# What a replay is pinned to

The types of components and their versions, the spans of a trace, and the manifest that binds the
state a replay needs. The hash of a manifest covers all that it pins.
-/

namespace DriftGuardX.Replay

open Json Bytes
open Isolation (Uuid hexPadded dashed)
open Recovery (Raised)

/-- `str` of an identifier. -/
def uuidText (id : Uuid) : String := String.ofList (dashed [8, 4, 4, 4] (hexPadded 32 id.toNat))

inductive ComponentType where
  | retriever
  | reranker
  | generator
  | memoryRead
  | memoryWrite
  | toolCall
  | policyCheck
  | finalResponse
  | agent
  | prompt
  | routing
  | modelVersion
  | agentConfiguration
  | tool
  deriving DecidableEq, Repr

namespace ComponentType

def value : ComponentType → String
  | .retriever => "retriever"
  | .reranker => "reranker"
  | .generator => "generator"
  | .memoryRead => "memory_read"
  | .memoryWrite => "memory_write"
  | .toolCall => "tool_call"
  | .policyCheck => "policy_check"
  | .finalResponse => "final_response"
  | .agent => "agent"
  | .prompt => "prompt"
  | .routing => "routing"
  | .modelVersion => "model_version"
  | .agentConfiguration => "agent_configuration"
  | .tool => "tool"

/-- The text of a member of the enumeration. -/
def text (componentType : ComponentType) : String :=
  "ComponentType." ++ componentType.value.toUpper

end ComponentType

structure ComponentVersion where
  id : Uuid
  componentType : ComponentType
  versionTag : String
  deriving DecidableEq, Repr

/-- A dictionary with string keys. -/
abbrev Payload (F : Type) := List (String × Val F)

/-! ## Spans -/

/-- A span: whose it is, the component that ran, and what came of it. -/
structure SpanRecord where
  runId : Uuid
  tenantId : Uuid
  pipelineId : Uuid
  name : String
  startTime : ℤ
  endTime : Option ℤ
  statusCode : String
  componentType : Option ComponentType
  componentVersionId : Option Uuid
  componentVersionTag : Option String
  tokenCountInput : Option ℤ
  tokenCountOutput : Option ℤ
  policyResult : Option String
  errorType : Option String
  errorMessage : Option String
  deriving DecidableEq, Repr

/-- A span that is being built. Token counts and the result of a policy are what a component says
they are. -/
structure SpanBuilder (F : Type) where
  runId : Uuid
  tenantId : Uuid
  pipelineId : Uuid
  name : String
  startTime : ℤ
  endTime : ℤ
  statusCode : String
  componentType : Option ComponentType
  componentVersionId : Option Uuid
  componentVersionTag : Option String
  tokenCountInput : Val F
  tokenCountOutput : Val F
  policyResult : Val F
  errorType : Option String
  errorMessage : Option String

/-- What the engine calls: the digest, `float(value)`, and the texts of the exceptions for a value or
a text that cannot be encoded, and for a span or an episode that is not valid. -/
structure ReplayLibrary (F : Type) where
  sha256 : List UInt8 → String
  toFloat : Val F → Except Raised F
  /-- `x - value` of a float, which raises when the value is no number. -/
  subtract : Val F → Except Raised Unit
  /-- The text has no lone surrogate. -/
  encodable : String → Bool
  dumpsError : Val F → String
  encodeError : String → String
  spanError : SpanBuilder F → String
  episodeError : Payload F → String

variable {F : Type}

/-- A field that is an integer or not set. -/
def optionalInt : Val F → Option (Option ℤ)
  | .none => some Option.none
  | .int i => some (some i)
  | _ => Option.none

/-- A field that is a string or not set. -/
def optionalStr : Val F → Option (Option String)
  | .none => some Option.none
  | .str s => some (some s)
  | _ => Option.none

/-- `build`: the span, if its fields are valid and it does not end before it starts. -/
def SpanBuilder.build (lib : ReplayLibrary F) (builder : SpanBuilder F) :
    Except Raised SpanRecord :=
  match optionalInt builder.tokenCountInput, optionalInt builder.tokenCountOutput,
    optionalStr builder.policyResult with
  | some tokenCountInput, some tokenCountOutput, some policyResult =>
    if builder.endTime < builder.startTime then .error ⟨.valueError, lib.spanError builder⟩
    else .ok
      { runId := builder.runId
        tenantId := builder.tenantId
        pipelineId := builder.pipelineId
        name := builder.name
        startTime := builder.startTime
        endTime := some builder.endTime
        statusCode := builder.statusCode
        componentType := builder.componentType
        componentVersionId := builder.componentVersionId
        componentVersionTag := builder.componentVersionTag
        tokenCountInput := tokenCountInput
        tokenCountOutput := tokenCountOutput
        policyResult := policyResult
        errorType := builder.errorType
        errorMessage := builder.errorMessage }
  | _, _, _ => .error ⟨.valueError, lib.spanError builder⟩

/-! ## The manifest -/

structure ReplayStateManifest (F : Type) where
  id : Uuid
  runId : Uuid
  tenantId : Uuid
  originalQuery : Option String
  originalQueryHash : Option String
  corpusVersionId : Option String
  modelProvider : Option String
  modelIdentifier : Option String
  modelConfigHash : Option String
  promptTemplateHash : Option String
  retrieverVersion : Option String
  retrieverSettings : Payload F
  retrievedChunkIds : List String
  embeddingProvider : Option String
  embeddingModelId : Option String
  embeddingModelVersion : Option String
  embeddingVectorDimension : Option ℤ
  embeddingConfigHash : Option String
  vectorIndexSnapshotId : Option String
  toolSchemasHash : Option String
  policyConfigHash : Option String
  memorySnapshotId : Option String
  randomSeed : Option ℤ
  generationParameters : Payload F
  containerImageDigest : Option String
  dependencyLockfileHash : Option String
  traceRootHash : Option String
  manifestHash : String

/-- Present and not empty. -/
def given (text : Option String) : Bool := text.any fun text ↦ text ≠ ""

namespace ReplayStateManifest

/-- `is_fully_pinned`. -/
def isFullyPinned (manifest : ReplayStateManifest F) : Bool :=
  [given manifest.originalQuery,
    given manifest.originalQueryHash,
    given manifest.corpusVersionId,
    given manifest.modelProvider,
    given manifest.modelIdentifier,
    given manifest.modelConfigHash,
    given manifest.promptTemplateHash,
    given manifest.retrieverVersion,
    !manifest.retrieverSettings.isEmpty,
    !manifest.retrievedChunkIds.isEmpty,
    given manifest.embeddingProvider,
    given manifest.embeddingModelId,
    given manifest.embeddingModelVersion,
    manifest.embeddingVectorDimension.isSome,
    given manifest.embeddingConfigHash,
    given manifest.vectorIndexSnapshotId,
    given manifest.toolSchemasHash,
    given manifest.policyConfigHash,
    given manifest.memorySnapshotId,
    manifest.randomSeed.isSome,
    given manifest.containerImageDigest,
    given manifest.dependencyLockfileHash,
    given manifest.traceRootHash].all fun present ↦ present

/-- The fields under the hash, without those that are not set. -/
def dump (manifest : ReplayStateManifest F) : Val F :=
  let fields : List (String × Option (Val F)) :=
    [("original_query", manifest.originalQuery.map .str),
      ("original_query_hash", manifest.originalQueryHash.map .str),
      ("corpus_version_id", manifest.corpusVersionId.map .str),
      ("model_provider", manifest.modelProvider.map .str),
      ("model_identifier", manifest.modelIdentifier.map .str),
      ("model_config_hash", manifest.modelConfigHash.map .str),
      ("prompt_template_hash", manifest.promptTemplateHash.map .str),
      ("retriever_version", manifest.retrieverVersion.map .str),
      ("retriever_settings", some (.object manifest.retrieverSettings)),
      ("retrieved_chunk_ids", some (.list (manifest.retrievedChunkIds.map .str))),
      ("embedding_provider", manifest.embeddingProvider.map .str),
      ("embedding_model_id", manifest.embeddingModelId.map .str),
      ("embedding_model_version", manifest.embeddingModelVersion.map .str),
      ("embedding_vector_dimension", manifest.embeddingVectorDimension.map .int),
      ("embedding_config_hash", manifest.embeddingConfigHash.map .str),
      ("vector_index_snapshot_id", manifest.vectorIndexSnapshotId.map .str),
      ("tool_schemas_hash", manifest.toolSchemasHash.map .str),
      ("policy_config_hash", manifest.policyConfigHash.map .str),
      ("memory_snapshot_id", manifest.memorySnapshotId.map .str),
      ("random_seed", manifest.randomSeed.map .int),
      ("generation_parameters", some (.object manifest.generationParameters)),
      ("container_image_digest", manifest.containerImageDigest.map .str),
      ("dependency_lockfile_hash", manifest.dependencyLockfileHash.map .str),
      ("trace_root_hash", manifest.traceRootHash.map .str)]
  .object (fields.filterMap fun m ↦ m.2.map (m.1, ·))

/-- `compute_hash`. -/
def computeHash [FloatText F] (lib : ReplayLibrary F) (manifest : ReplayStateManifest F) :
    Except Raised String :=
  match dumps ⟨true, true⟩ true manifest.dump with
  | some text => .ok (lib.sha256 (utf8Chars text))
  | none => .error ⟨.typeError, lib.dumpsError manifest.dump⟩

end ReplayStateManifest

end DriftGuardX.Replay
