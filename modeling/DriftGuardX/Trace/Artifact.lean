import DriftGuardX.Foundation.Isoformat
import DriftGuardX.Json.Canonical
import DriftGuardX.Replay.Engine

/-!
# Traces

The spans of a run with their ids and parents, as far as they are dumped, and the content hash of a
trace. Ids of spans have 16 characters, but nothing else is checked about ids and parents: two spans
may have one id, and a parent may be missing or a descendant.
-/

namespace DriftGuardX.Trace

open Json Bytes
open Isolation (Uuid)
open Replay (ComponentType EvidenceClassification uuidText)

/-! ## Spans -/

inductive SpanKind where
  | internal
  | server
  | client
  | producer
  | consumer
  deriving DecidableEq, Repr

def SpanKind.value : SpanKind → String
  | .internal => "INTERNAL"
  | .server => "SERVER"
  | .client => "CLIENT"
  | .producer => "PRODUCER"
  | .consumer => "CONSUMER"

inductive PrivacyMode where
  | metadataOnly
  | redactedContent
  | encryptedContent
  | developmentFull
  deriving DecidableEq, Repr

def PrivacyMode.value : PrivacyMode → String
  | .metadataOnly => "metadata-only"
  | .redactedContent => "redacted-content"
  | .encryptedContent => "encrypted-content"
  | .developmentFull => "development-full"

structure RedactionMetadata where
  fieldsRedacted : List String
  redactionReason : String
  redactedAt : CalendarDatetime
  privacyMode : PrivacyMode
  dataResidencyLabel : Option String
  allowlistApplied : List String

/-- A span. The values of its attributes are of any kind. -/
structure SpanRecord (F V : Type) where
  traceId : String
  spanId : String
  parentSpanId : Option String
  name : String
  kind : SpanKind
  startTime : CalendarDatetime
  endTime : Option CalendarDatetime
  statusCode : String
  statusMessage : String
  attributes : List (String × V)
  tenantId : Uuid
  pipelineId : Uuid
  runId : Uuid
  componentType : Option ComponentType
  componentVersionId : Option Uuid
  componentVersionTag : Option String
  inputHash : Option String
  outputHash : Option String
  latencyMs : Option F
  tokenCountInput : Option ℤ
  tokenCountOutput : Option ℤ
  costUsd : Option F
  policyResult : Option String
  policyRuleId : Option String
  errorType : Option String
  errorMessage : Option String
  redaction : Option RedactionMetadata
  privacyMode : PrivacyMode
  traceId_length : traceId.length = 32
  spanId_length : spanId.length = 16
  endAfterStart : ∀ time ∈ endTime,
    time.utcoffset.isSome = startTime.utcoffset.isSome ∧ startTime.instant ≤ time.instant
  attributes_nodup : (attributes.map Prod.fst).Nodup

structure TraceArtifact (F V : Type) where
  id : Uuid
  runId : Uuid
  tenantId : Uuid
  pipelineId : Uuid
  spans : List (SpanRecord F V)
  rootSpanId : Option String
  createdAt : CalendarDatetime
  completenessScore : Option F
  retentionDays : Option ℤ
  tenantSamplingRate : Option F
  evidenceClass : EvidenceClassification
  runHash : Option String
  traceHash : Option String

def TraceArtifact.totalSpanCount {F V : Type} (trace : TraceArtifact F V) : ℕ := trace.spans.length

/-! ## The content hash -/

/-- What is used of the libraries: the digest, the texts of times, and for the value of an attribute its
text and the document that is dumped of it. -/
structure TraceLibrary (F V : Type) where
  sha256 : List UInt8 → String
  datetimeText : CalendarDatetime → String
  str : V → String
  json : V → Doc F

section ComputeHash

variable {F V : Type} (lib : TraceLibrary F V)

/-- The fields that are not `None`. -/
def present (fields : List (String × Option (Val F))) : List (String × Val F) :=
  fields.filterMap fun m ↦ m.2.map (m.1, ·)

def RedactionMetadata.modelDump (redaction : RedactionMetadata) : Val F :=
  .object (present [
    ("fields_redacted", some (.list (redaction.fieldsRedacted.map .str))),
    ("redaction_reason", some (.str redaction.redactionReason)),
    ("redacted_at", some (.str (lib.datetimeText redaction.redactedAt))),
    ("privacy_mode", some (.str redaction.privacyMode.value)),
    ("data_residency_label", redaction.dataResidencyLabel.map .str),
    ("allowlist_applied", some (.list (redaction.allowlistApplied.map .str)))])

/-- `model_dump`, without the fields that are `None`. -/
def SpanRecord.modelDump (span : SpanRecord F V) : Val F :=
  .object (present [
    ("trace_id", some (.str span.traceId)),
    ("span_id", some (.str span.spanId)),
    ("parent_span_id", span.parentSpanId.map .str),
    ("name", some (.str span.name)),
    ("kind", some (.str span.kind.value)),
    ("start_time", some (.str (lib.datetimeText span.startTime))),
    ("end_time", span.endTime.map fun time ↦ .str (lib.datetimeText time)),
    ("status_code", some (.str span.statusCode)),
    ("status_message", some (.str span.statusMessage)),
    ("attributes", some (.object (span.attributes.map fun m ↦ (m.1, ofDoc (lib.json m.2))))),
    ("tenant_id", some (.str (uuidText span.tenantId))),
    ("pipeline_id", some (.str (uuidText span.pipelineId))),
    ("run_id", some (.str (uuidText span.runId))),
    ("component_type", span.componentType.map fun type ↦ .str type.value),
    ("component_version_id", span.componentVersionId.map fun id ↦ .str (uuidText id)),
    ("component_version_tag", span.componentVersionTag.map .str),
    ("input_hash", span.inputHash.map .str),
    ("output_hash", span.outputHash.map .str),
    ("latency_ms", span.latencyMs.map .float),
    ("token_count_input", span.tokenCountInput.map .int),
    ("token_count_output", span.tokenCountOutput.map .int),
    ("cost_usd", span.costUsd.map .float),
    ("policy_result", span.policyResult.map .str),
    ("policy_rule_id", span.policyRuleId.map .str),
    ("error_type", span.errorType.map .str),
    ("error_message", span.errorMessage.map .str),
    ("redaction", span.redaction.map (RedactionMetadata.modelDump lib)),
    ("privacy_mode", some (.str span.privacyMode.value))])

def evidenceValue : EvidenceClassification → String
  | .production => "PRODUCTION"
  | .realControlledExperiment => "REAL_CONTROLLED_EXPERIMENT"
  | .syntheticSimulation => "SYNTHETIC_SIMULATION"
  | .testFixture => "TEST_FIXTURE"
  | .unverified => "UNVERIFIED"

namespace TraceArtifact

/-- `model_dump`, without the fields that are `None` and those that are no content. -/
def modelDump (trace : TraceArtifact F V) : List (String × Val F) :=
  present [
    ("run_id", some (.str (uuidText trace.runId))),
    ("tenant_id", some (.str (uuidText trace.tenantId))),
    ("pipeline_id", some (.str (uuidText trace.pipelineId))),
    ("spans", some (.list (trace.spans.map (SpanRecord.modelDump lib)))),
    ("root_span_id", trace.rootSpanId.map .str),
    ("total_span_count", some (.int trace.totalSpanCount)),
    ("completeness_score", trace.completenessScore.map .float),
    ("retention_days", trace.retentionDays.map .int),
    ("tenant_sampling_rate", trace.tenantSamplingRate.map .float),
    ("evidence_class", some (.str (evidenceValue trace.evidenceClass))),
    ("run_hash", trace.runHash.map .str),
    ("is_synthetic", some (.bool trace.evidenceClass.isSynthetic))]

variable [FloatText F]

/-- The text that is hashed. -/
def serialized (trace : TraceArtifact F V) : Option Text :=
  dumps ⟨true, true⟩ true (.object (trace.modelDump lib))

/-- `compute_hash`. -/
def computeHash (trace : TraceArtifact F V) : Option String :=
  (trace.serialized lib).map fun text ↦ lib.sha256 (utf8Chars text)

end TraceArtifact

end ComputeHash

/-! ### Every trace is dumped -/

section Dumps

variable {F V : Type} {lib : TraceLibrary F V}

theorem nodup_keys_present {fields : List (String × Option (Val F))}
    (h : (fields.map Prod.fst).Nodup) : ((present fields).map Prod.fst).Nodup := by
  rw [List.nodup_iff_pairwise_ne, List.pairwise_map] at h ⊢
  refine List.pairwise_filterMap.mpr (h.imp fun {m n} hne m' hm n' hn ↦ ?_)
  obtain ⟨v, -, rfl⟩ := Option.map_eq_some_iff.mp hm
  obtain ⟨w, -, rfl⟩ := Option.map_eq_some_iff.mp hn
  exact hne

theorem TraceArtifact.nodup_keys_modelDump (trace : TraceArtifact F V) :
    ((trace.modelDump lib).map Prod.fst).Nodup :=
  nodup_keys_present (by simp)

variable [FloatText F]

theorem exists_toDoc_present {fields : List (String × Option (Val F))}
    (h : ∀ m ∈ fields, ∀ v ∈ m.2, ∃ d, toDoc true v = some d) :
    ∃ d, toDoc true (.object (present fields)) = some d := by
  refine exists_toDoc_object_iff.mpr fun m hm ↦ ?_
  obtain ⟨field, hfield, hvalue⟩ := List.mem_filterMap.mp hm
  obtain ⟨v, hv, rfl⟩ := Option.map_eq_some_iff.mp hvalue
  exact h field hfield v hv

theorem exists_toDoc_scalar (a : Scalar F) : ∃ d, toDoc true (.scalar a) = some d := ⟨_, rfl⟩

theorem exists_toDoc_strs (texts : List String) :
    ∃ d, toDoc true (.list (texts.map .str) : Val F) = some d := ⟨_, toDoc_strs true texts⟩

theorem RedactionMetadata.exists_toDoc_modelDump (redaction : RedactionMetadata) :
    ∃ d, toDoc true (redaction.modelDump lib) = some d := by
  refine exists_toDoc_present ?_
  simp [exists_toDoc_strs, exists_toDoc_scalar]

theorem SpanRecord.exists_toDoc_modelDump (span : SpanRecord F V) :
    ∃ d, toDoc true (span.modelDump lib) = some d := by
  have hattributes : ∃ d, toDoc true (.object
      (span.attributes.map fun m ↦ (m.1, ofDoc (lib.json m.2)))) = some d := by
    refine exists_toDoc_object_iff.mpr fun m hm ↦ ?_
    obtain ⟨n, -, rfl⟩ := List.mem_map.mp hm
    obtain ⟨d, hd, -⟩ := exists_toDoc_ofDoc (lib.json n.2)
    exact ⟨d, hd⟩
  refine exists_toDoc_present ?_
  simp [hattributes, RedactionMetadata.exists_toDoc_modelDump, exists_toDoc_scalar]

/-- **Every trace is dumped**, so it has a content hash. -/
theorem TraceArtifact.exists_toDoc_modelDump (trace : TraceArtifact F V) :
    ∃ d, toDoc true (.object (trace.modelDump lib)) = some d := by
  have hspans : ∃ d, toDoc true (.list (trace.spans.map (SpanRecord.modelDump lib))) = some d := by
    refine exists_toDoc_list fun v hv ↦ ?_
    obtain ⟨span, -, rfl⟩ := List.mem_map.mp hv
    exact span.exists_toDoc_modelDump
  refine exists_toDoc_present ?_
  simp [hspans, exists_toDoc_scalar]

end Dumps

end DriftGuardX.Trace
