import DriftGuardX.Foundation.Digest
import DriftGuardX.Replay.PinnedReplay
import DriftGuardX.Validation.Targets

/-!
# The divergence flag of a replay job

`execute_replay_job` compares the spans of the original trace with those of the replay, node by node.
A node is known by the id of its span, and the spans of a replay have new ids. What is compared of a
node is `output`, which no span has. So a node differs exactly when only one of the traces has its id,
and the flag says that the ids differ (`divergenceObserved_eq`), whatever the components returned.
-/

namespace DriftGuardX.Worker

open Bytes Json Program Transaction Validation
open Recovery (Dict Raised)
open Replay

variable {F : Type}

/-! ## Spans with their ids -/

/-- A span with its id and the hash of its output. -/
structure TracedSpan where
  spanId : String
  outputHash : Option String
  record : SpanRecord
  deriving DecidableEq, Repr

/-- `model_dump`, of what is modelled of a span. No member is called `output` or `node_id`. -/
def TracedSpan.dump (span : TracedSpan) : Span F :=
  [("span_id", .str span.spanId),
    ("name", .str span.record.name),
    ("start_time", .other (toString span.record.startTime)),
    ("end_time", (span.record.endTime.map fun time ↦ .other (toString time)).getD .none),
    ("status_code", .str span.record.statusCode),
    ("tenant_id", .other (uuidText span.record.tenantId)),
    ("pipeline_id", .other (uuidText span.record.pipelineId)),
    ("run_id", .other (uuidText span.record.runId)),
    ("component_type", optStr (span.record.componentType.map ComponentType.value)),
    ("component_version_id",
      (span.record.componentVersionId.map fun id ↦ .other (uuidText id)).getD .none),
    ("component_version_tag", optStr span.record.componentVersionTag),
    ("output_hash", optStr span.outputHash),
    ("token_count_input", (span.record.tokenCountInput.map .int).getD .none),
    ("token_count_output", (span.record.tokenCountOutput.map .int).getD .none),
    ("policy_result", optStr span.record.policyResult),
    ("error_type", optStr span.record.errorType),
    ("error_message", optStr span.record.errorMessage)]

/-- The spans of a stored trace. -/
structure StoredTrace where
  spans : List TracedSpan
  distinct : (spans.map TracedSpan.spanId).Nodup
  identified : ∀ span ∈ spans, span.spanId ≠ ""

/-- The ids that `new_span_id` draws, one after the other. -/
structure SpanIds where
  id : ℕ → String
  drawn : ∀ n, id n ≠ ""

/-! ## The comparison -/

section Flag

variable (lib : DivergenceLibrary F) (target : ComponentType)

/-- The ids of the spans of the component that is intervened on. -/
def intervenedIds (spans : List TracedSpan) : List String :=
  (spans.filter fun span ↦ span.record.componentType = some target).map TracedSpan.spanId

/-- The ids of the other spans after the first of them. -/
def allowedDescendants (foundIntervention : Bool) : List TracedSpan → List String
  | [] => []
  | span :: spans =>
    if span.record.componentType = some target then allowedDescendants true spans
    else if foundIntervention then
      span.spanId :: allowedDescendants foundIntervention spans
    else allowedDescendants foundIntervention spans

/-- `_SimpleEnvelope`, in an envelope whose other fields are not read. -/
def simpleEnvelope (other : ReplayEquivalenceEnvelope F) (original : List TracedSpan) :
    ReplayEquivalenceEnvelope F :=
  { other with
    intervenedVariables := intervenedIds target original
    allowedCausalDescendants := allowedDescendants target false original
    forbiddenDivergenceNodes := []
    frozenVariables := []
    constraints := [] }

variable [FloatText F]

/-- `divergence_observed` -/
def divergenceObserved (other : ReplayEquivalenceEnvelope F) (original replay : List TracedSpan) :
    Except Raised Bool := do
  let originalSnapshot ← fromSpans lib (original.map TracedSpan.dump)
  let replaySnapshot ← fromSpans lib (replay.map TracedSpan.dump)
  let report ← validate lib originalSnapshot replaySnapshot (simpleEnvelope target other original)
  return !report.valid

end Flag

/-! ## Snapshots of spans without outputs -/

section Snapshots

variable [FloatText F] {lib : DivergenceLibrary F} {nodes : ExecutionSnapshot F} {ids : List String}
  {spans : List TracedSpan}

/-- The hash of an empty output. -/
def emptyHash (lib : DivergenceLibrary F) : String := lib.sha256 (utf8Chars "\x7b\x7d".toList)

/-- The hash of no output at all. -/
def noneHash (lib : DivergenceLibrary F) : String := lib.sha256 (utf8Chars "null".toList)

theorem stableHash_empty : stableHash lib (.object []) = .ok (emptyHash lib) := rfl

theorem stableHash_none : stableHash lib .none = .ok (noneHash lib) := rfl

/-- The nodes are those with the ids, and all have an empty output. -/
def Blank (lib : DivergenceLibrary F) (nodes : ExecutionSnapshot F) (ids : List String) : Prop :=
  ∀ id, (getNode nodes id).map (fun node ↦ (node.output, node.outputHash))
    = if id ∈ ids then some (.object [], emptyHash lib) else none

theorem exists_blank_fromSpans (hids : ∀ span ∈ spans, span.spanId ≠ "") :
    ∃ nodes, fromSpans lib (spans.map TracedSpan.dump) = .ok nodes ∧
      Blank lib nodes (spans.map TracedSpan.spanId) := by
  induction spans using List.reverseRecOn with
  | nil => exact ⟨[], rfl, fun id ↦ by simp [getNode, Dict.get?]⟩
  | append_singleton spans span ih =>
    obtain ⟨nodes, hnodes, hblank⟩ := ih fun s hs ↦ hids s (List.mem_append_left _ hs)
    have hid : (span.dump : Span F).nodeId lib = .ok (some span.spanId) :=
      nodeId_of_spanId rfl (hids span (by simp))
    have hhash : stableHash lib (span.dump : Span F).output = .ok (emptyHash lib) := rfl
    refine ⟨setItem nodes span.spanId
      ⟨span.spanId, .object [], (span.dump : Span F).componentType, emptyHash lib⟩, ?_, fun id ↦ ?_⟩
    · rw [fromSpans] at hnodes ⊢
      rw [List.map_append, List.foldlM_append, hnodes, ok_bind, List.map_singleton,
        List.foldlM_cons, hid, ok_bind]
      simp only [hhash, ok_bind, List.foldlM_nil]
      rfl
    · have hmem : id ∈ (spans ++ [span]).map TracedSpan.spanId ↔
          id ∈ spans.map TracedSpan.spanId ∨ id = span.spanId := by simp
      rw [getNode, get?_setItem, if_congr hmem rfl rfl]
      by_cases hnew : id = span.spanId
      · rw [if_pos hnew, if_pos (Or.inr hnew)]
        rfl
      · rw [if_neg hnew]
        simp only [hnew, or_false]
        exact hblank id

variable {nodes' : ExecutionSnapshot F} {ids' : List String} {envelope : ReplayEquivalenceEnvelope F}
  {id : String}

omit [FloatText F] in
theorem mem_keys_iff (h : Blank lib nodes ids) : id ∈ nodes.map Prod.fst ↔ id ∈ ids := by
  have hsome : id ∈ nodes.map Prod.fst ↔ (getNode nodes id).isSome := by
    rw [getNode, Dict.get?, Option.isSome_map, List.find?_isSome, List.mem_map]
    simp
  rw [hsome, ← Option.isSome_map (f := fun node ↦ (node.output, node.outputHash)), h id]
  split_ifs with hmem
  · exact iff_of_true rfl hmem
  · exact iff_of_false (by simp) hmem

omit [FloatText F] in
theorem elim_getNode (h : Blank lib nodes ids) (id : String) :
    (getNode nodes id).elim .none NodeState.output = (if id ∈ ids then .object [] else .none) ∧
      (getNode nodes id).elim "" NodeState.outputHash
        = if id ∈ ids then emptyHash lib else "" := by
  have hget := h id
  split_ifs at hget ⊢ with hmem
  · obtain ⟨node, hnode, hpair⟩ := Option.map_eq_some_iff.mp hget
    obtain ⟨houtput, hhash⟩ := Prod.mk.inj hpair
    rw [hnode]
    exact ⟨houtput, hhash⟩
  · rw [Option.map_eq_none_iff.mp hget]
    exact ⟨rfl, rfl⟩

/-! ## One node -/

/-- What is reported of a node when there are no rules. -/
def statusOf (envelope : ReplayEquivalenceEnvelope F) (ids ids' : List String) (id : String) :
    NodeStatus :=
  if id ∈ envelope.intervenedVariables then .intervened
  else if (id ∈ ids ↔ id ∈ ids') then .unchanged
  else if id ∈ envelope.allowedCausalDescendants then .allowedDescendantChanged
  else .unexpectedDivergence

/-- The envelope says only which nodes are intervened on and which may change. -/
structure Plain (envelope : ReplayEquivalenceEnvelope F) : Prop where
  frozen : envelope.frozenVariables = []
  forbidden : envelope.forbiddenDivergenceNodes = []
  constraints : envelope.constraints = []

/-- Digests are not empty, and those of the two outputs differ. -/
structure Distinguishes (lib : DivergenceLibrary F) : Prop where
  nonempty : emptyHash lib ≠ ""
  distinct : emptyHash lib ≠ noneHash lib

theorem exists_checkNode_blank (hlib : Distinguishes lib) (hplain : Plain envelope)
    (h : Blank lib nodes ids) (h' : Blank lib nodes' ids') (id : String) :
    ∃ entry, checkNode lib envelope nodes nodes' id = .ok entry ∧
      entry.status = statusOf envelope ids ids' id := by
  obtain ⟨houtput, hhash⟩ := elim_getNode h id
  obtain ⟨houtput', hhash'⟩ := elim_getNode h' id
  have hsame : ((if id ∈ ids then emptyHash lib else "") = if id ∈ ids' then emptyHash lib else "") ↔
      (id ∈ ids ↔ id ∈ ids') := by
    split_ifs with hmem hmem' hmem'
    · simp [hmem, hmem']
    · simp [hmem, hmem', hlib.nonempty]
    · simp [hmem, hmem', hlib.nonempty.symm]
    · simp [hmem, hmem']
  rw [checkNode, houtput, houtput', hhash, hhash', hplain.frozen, hplain.forbidden, statusOf]
  by_cases hintervened : id ∈ envelope.intervenedVariables
  · exact ⟨_, if_pos hintervened, (if_pos hintervened).symm⟩
  rw [if_neg hintervened, if_neg hintervened, if_neg (by simp [Dict.get?])]
  by_cases hboth : id ∈ ids ↔ id ∈ ids'
  · exact ⟨_, if_pos (hsame.mpr hboth), (if_pos hboth).symm⟩
  rw [if_neg (hsame.not.mpr hboth), if_neg hboth, if_neg List.not_mem_nil]
  by_cases hallowed : id ∈ envelope.allowedCausalDescendants
  · rw [if_neg (not_not.mpr hallowed), if_pos hallowed, hplain.constraints]
    exact ⟨_, rfl, rfl⟩
  · have hverdict : checkTolerance lib id (if id ∈ ids then .object [] else .none)
        (if id ∈ ids' then .object [] else .none) []
        = .ok (false, s!"Node {id}: exact match failed (no tolerance rule defined)") := by
      simp only [checkTolerance, Dict.get?, List.find?_nil, Option.map_none, Option.getD_none]
      split_ifs with hmem hmem' hmem'
      · exact absurd (iff_of_true hmem hmem') hboth
      · rw [stableHash_empty, stableHash_none, ok_bind, ok_bind, if_pos hlib.distinct]
        rfl
      · rw [stableHash_empty, stableHash_none, ok_bind, ok_bind, if_pos hlib.distinct.symm]
        rfl
      · exact absurd (iff_of_false hmem hmem') hboth
    rw [if_pos hallowed, if_neg hallowed, hplain.constraints, hverdict, ok_bind]
    exact ⟨_, rfl, rfl⟩

/-! ## The report -/

/-- Where no node is forbidden, all are reported. -/
theorem exists_checkNodes_blank (hlib : Distinguishes lib) (hplain : Plain envelope)
    (h : Blank lib nodes ids) (h' : Blank lib nodes' ids') (compared : List String) :
    ∃ perNode, checkNodes lib envelope nodes nodes' compared = .ok perNode ∧
      perNode.map (fun m ↦ (m.1, m.2.status))
        = compared.map fun id ↦ (id, statusOf envelope ids ids' id) := by
  induction compared with
  | nil => exact ⟨[], rfl, rfl⟩
  | cons id compared ih =>
    obtain ⟨entry, hentry, hstatus⟩ := exists_checkNode_blank hlib hplain h h' id
    obtain ⟨rest, hrest, hstatuses⟩ := ih
    have hallowed : entry.status ≠ .forbiddenDivergence := by
      rw [hstatus, statusOf]
      split_ifs <;> simp
    refine ⟨(id, entry) :: rest, ?_, ?_⟩
    · rw [checkNodes, hentry, ok_bind, if_neg hallowed, hrest, ok_bind]
      rfl
    · rw [List.map_cons, List.map_cons, hstatuses, hstatus]

omit [FloatText F] in
theorem report_valid_iff {perNode : List (String × NodeEntry F)} :
    (report lib perNode).valid = true ↔
      ∀ v ∈ violations, ∀ m ∈ perNode, m.2.status ≠ v.1 := by
  simp only [report, withStatus, List.all_eq_true, decide_eq_true_iff, List.map_eq_nil_iff,
    List.filter_eq_nil_iff]

/-- The ids that differ are those of nodes that may. -/
def Covered (envelope : ReplayEquivalenceEnvelope F) (ids ids' : List String) : Prop :=
  ∀ id, ¬ (id ∈ ids ↔ id ∈ ids') →
    id ∈ envelope.intervenedVariables ∨ id ∈ envelope.allowedCausalDescendants

omit [FloatText F] in
theorem statusOf_eq_violation_iff :
    (∃ v ∈ violations, statusOf envelope ids ids' id = v.1) ↔
      ¬ (id ∈ ids ↔ id ∈ ids') ∧ id ∉ envelope.intervenedVariables ∧
        id ∉ envelope.allowedCausalDescendants := by
  rw [statusOf]
  split_ifs with hintervened hboth hallowed
  · simp [violations, hintervened]
  · simp [violations, hboth]
  · simp [violations, hallowed]
  · simp [violations, hintervened, hboth, hallowed]

/-- **The comparison** of spans without outputs is one of their ids. -/
theorem exists_validate_blank (hlib : Distinguishes lib) (hplain : Plain envelope)
    (h : Blank lib nodes ids) (h' : Blank lib nodes' ids') :
    ∃ r, validate lib nodes nodes' envelope = .ok r ∧
      (r.valid = true ↔ Covered envelope ids ids') := by
  let compared := sorted (nodes.map Prod.fst ++ nodes'.map Prod.fst).dedup
  obtain ⟨perNode, hperNode, hstatuses⟩ := exists_checkNodes_blank hlib hplain h h' compared
  refine ⟨report lib perNode, ?_, ?_⟩
  · rw [validate, hperNode, ok_bind]
    rfl
  have hcompared : ∀ id, id ∈ compared ↔ id ∈ ids ∨ id ∈ ids' := by
    intro id
    change id ∈ sorted _ ↔ _
    rw [sorted, List.mem_insertionSort, List.mem_dedup, List.mem_append, mem_keys_iff h,
      mem_keys_iff h']
  rw [report_valid_iff]
  constructor
  · intro hvalid id hdiffer
    by_contra hnot
    obtain ⟨hintervened, hallowed⟩ := not_or.mp hnot
    obtain ⟨v, hv, hstatus⟩ := statusOf_eq_violation_iff.mpr ⟨hdiffer, hintervened, hallowed⟩
    have hmem : id ∈ compared := by
      rw [hcompared]
      by_contra hneither
      exact hdiffer (iff_of_false (not_or.mp hneither).1 (not_or.mp hneither).2)
    have hreported : (id, statusOf envelope ids ids' id) ∈
        perNode.map fun m ↦ (m.1, m.2.status) := hstatuses ▸ List.mem_map_of_mem hmem
    obtain ⟨m, hm, heq⟩ := List.mem_map.mp hreported
    exact hvalid v hv m hm ((Prod.mk.inj heq).2.trans hstatus)
  · intro hcovered v hv m hm hstatus
    have hreported : (m.1, m.2.status) ∈ compared.map
        fun id ↦ (id, statusOf envelope ids ids' id) :=
      hstatuses ▸ List.mem_map_of_mem (f := fun m ↦ (m.1, m.2.status)) hm
    obtain ⟨id, -, heq⟩ := List.mem_map.mp hreported
    obtain ⟨hdiffer, hintervened, hallowed⟩ := statusOf_eq_violation_iff.mp
      ⟨v, hv, (Prod.mk.inj heq).2.trans hstatus⟩
    exact (hcovered id hdiffer).elim hintervened hallowed

end Snapshots

/-! ## The spans of a replay -/

section Replays

variable (lib : DivergenceLibrary F) (env : ReplayEnvironment F) (ids : SpanIds)

/-- The output of a component, which is empty when there is an error. -/
def outputOf : Outcome F → Payload F
  | .output output => output
  | _ => []

variable [FloatText F]

/-- `set_output`: the hash of the output of the `n`th component. -/
def outputHash (n : ℕ) : Except Raised String :=
  stableHash lib (.object (outputOf (env.attempts n).outcome))

/-- The spans of the components from the `n`th on, with their ids and the hashes of their outputs.
The first id is that of the span of the replay. -/
def componentSpans : ℕ → List SpanRecord → Except Raised (List TracedSpan)
  | _, [] => .ok []
  | n, span :: spans => do
    let hash ← outputHash lib env n
    let rest ← componentSpans (n + 1) spans
    return ⟨ids.id (n + 1), hash, span⟩ :: rest

/-- The spans of a replay: its own comes first, and has no output. -/
def replaySpans : List SpanRecord → Except Raised (List TracedSpan)
  | [] => .ok []
  | root :: spans => do
    let components ← componentSpans lib env ids 0 spans
    return ⟨ids.id 0, none, root⟩ :: components

variable {lib env ids} in
theorem exists_replaySpans (h : ∀ n, ∃ hash, outputHash lib env n = .ok hash)
    (spans : List SpanRecord) : ∃ replay, replaySpans lib env ids spans = .ok replay := by
  have hcomponents : ∀ spans n, ∃ replay, componentSpans lib env ids n spans = .ok replay := by
    intro spans
    induction spans with
    | nil => exact fun n ↦ ⟨[], rfl⟩
    | cons span spans ih =>
      intro n
      obtain ⟨hash, hhash⟩ := h n
      obtain ⟨rest, hrest⟩ := ih (n + 1)
      exact ⟨⟨ids.id (n + 1), hash, span⟩ :: rest, by rw [componentSpans, hhash, ok_bind, hrest]; rfl⟩
  cases spans with
  | nil => exact ⟨[], rfl⟩
  | cons root spans =>
    obtain ⟨components, hrun⟩ := hcomponents spans 0
    exact ⟨⟨ids.id 0, none, root⟩ :: components, by rw [replaySpans, hrun]; rfl⟩

/-- The first ids that are drawn. -/
def drawnIds (n : ℕ) : List String := (List.range n).map ids.id

variable {lib env ids} {spans : List SpanRecord} {replay : List TracedSpan}

theorem spanIds_of_componentSpans {n : ℕ} (h : componentSpans lib env ids n spans = .ok replay) :
    replay.map TracedSpan.spanId = (List.range' (n + 1) spans.length).map ids.id := by
  induction spans generalizing n replay with
  | nil =>
    obtain rfl := Except.ok.inj h
    rfl
  | cons span spans ih =>
    simp only [componentSpans, bind_eq_ok_iff, pure_eq_ok_iff] at h
    obtain ⟨hash, -, rest, hrest, rfl⟩ := h
    rw [List.map_cons, ih hrest, List.length_cons, List.range'_succ, List.map_cons]

theorem spanIds_of_replaySpans (h : replaySpans lib env ids spans = .ok replay) :
    replay.map TracedSpan.spanId = drawnIds ids spans.length := by
  cases spans with
  | nil =>
    obtain rfl := Except.ok.inj h
    rfl
  | cons root spans =>
    simp only [replaySpans, bind_eq_ok_iff, pure_eq_ok_iff] at h
    obtain ⟨components, hcomponents, rfl⟩ := h
    rw [List.map_cons, spanIds_of_componentSpans hcomponents, drawnIds, List.length_cons,
      List.range_succ_eq_map, List.map_cons, List.map_map, List.range'_eq_map_range, List.map_map]
    simp [Function.comp_def, Nat.add_comm]

end Replays

/-! ## What is executed has a span -/

section Executed

variable {lib : ReplayLibrary F} {env : ReplayEnvironment F} {registry : VersionRegistry}
  {request : ReplayRequest F} {resolved : Resolved} {progress progress' : Progress F}
  {executed executed' : List (Execution F)}

theorem length_runVersion {componentType : ComponentType} {version : ComponentVersion}
    (h : runVersion lib env request componentType version progress executed
      = (.ok progress', executed')) (hlength : progress.spans.length = executed.length) :
    progress'.spans.length = executed'.length := by
  simp only [runVersion, bind_returns_iff, ofExcept_returns_iff, get_returns_iff,
    modify_returns_iff, pure_returns_iff] at h
  obtain ⟨executor, _, ⟨-, rfl⟩, _, _, ⟨rfl, rfl⟩, -, _, rfl, recorded, _, ⟨-, rfl⟩, rfl, rfl⟩ := h
  rw [Progress.next, List.length_append, List.length_append, hlength]
  rfl

theorem length_runPipeline {order : List ComponentType}
    (h : runPipeline lib env request resolved order progress executed
      = (.ok progress', executed')) (hlength : progress.spans.length = executed.length) :
    progress'.spans.length = executed'.length := by
  induction order generalizing progress executed with
  | nil =>
    obtain ⟨rfl, rfl⟩ := pure_returns_iff.mp h
    exact hlength
  | cons componentType order ih =>
    rw [runPipeline, bind_returns_iff] at h
    obtain ⟨version, _, hversion, h⟩ := h
    obtain ⟨-, rfl⟩ := ofExcept_returns_iff.mp hversion
    cases version with
    | none => exact ih h hlength
    | some version =>
      obtain ⟨next, after, hturn, h⟩ := bind_returns_iff.mp h
      exact ih h (length_runVersion hturn hlength)

variable [FloatText F] {episode : ReplayEpisode} {spans : List SpanRecord} {score : Option F}

/-- **A replay that returns** has taken its steps, and has a span for each and one for itself. -/
theorem executed_of_executeReplay
    (h : executeReplay lib env request registry [] = (.ok (episode, spans, score), executed)) :
    executed.map Execution.step = steps registry request ∧ spans.length = executed.length + 1 := by
  simp only [executeReplay, bind_returns_iff, ofExcept_returns_iff, pure_returns_iff] at h
  obtain ⟨manifest, _, ⟨-, rfl⟩, resolved, _, ⟨hresolved, rfl⟩, progress, executed, hpipeline, root,
    _, ⟨-, rfl⟩, -, _, ⟨-, rfl⟩, heq, rfl⟩ := h
  obtain ⟨-, hspans⟩ := Prod.mk.inj heq
  obtain ⟨rfl, -⟩ := Prod.mk.inj hspans
  constructor
  · have hends : Ends lib env request (List.map Execution.step []) (steps registry request)
        (runPipeline lib env request resolved (pipelineOrder request.originalTrace.spans)
          ⟨initialInputs request manifest, [], none, false⟩ []) :=
      ends_runPipeline (resolves_of_resolveVersions hresolved)
    rw [hpipeline] at hends
    cases hends with
    | returned progress executed hfine hexecuted => exact hexecuted
  · rw [List.length_cons, length_runPipeline hpipeline rfl]

end Executed

/-! ## What the flag means -/

section Meaning

variable [FloatText F] (lib : DivergenceLibrary F) (replayLib : ReplayLibrary F)
  (env : ReplayEnvironment F) (ids : SpanIds) (registry : VersionRegistry) (trace : StoredTrace)
  (request : ReplayRequest F)

/-- The components before the target have the outputs that the first spans of their types record. If
the trace does not have the target, these are all components. -/
def PrecedingUnchanged (target : ComponentType) (taken : List Step) : Prop :=
  ∀ n step, taken[n]? = some step →
    step.componentType ∈ (pipelineOrder (trace.spans.map TracedSpan.record)).takeWhile (· ≠ target) →
    ∀ span ∈ trace.spans.find? fun span ↦ span.record.componentType = some step.componentType,
      ∃ hash, outputHash lib env n = .ok hash ∧ span.outputHash = some hash

omit [FloatText F] in
/-- The request to replay the stored trace. -/
def StoredTrace.replayRequest : ReplayRequest F :=
  { request with
    originalTrace := { request.originalTrace with spans := trace.spans.map TracedSpan.record } }

/-- No divergence is observed in a replay in which the components before the target behave as they
did. -/
def FlagMeansDivergence (other : ReplayEquivalenceEnvelope F) : Prop :=
  ∀ ⦃episode spans score executed replay⦄,
    executeReplay replayLib env (trace.replayRequest request) registry []
      = (.ok (episode, spans, score), executed) →
    replaySpans lib env ids spans = .ok replay →
    PrecedingUnchanged lib env trace request.intervention.targetComponent
      (executed.map Execution.step) →
    divergenceObserved lib request.intervention.targetComponent other trace.spans replay = .ok false

/-- The replay returns. -/
def Returns : Prop :=
  ∃ episode spans score executed replay,
    executeReplay replayLib env (trace.replayRequest request) registry []
      = (.ok (episode, spans, score), executed) ∧
    replaySpans lib env ids spans = .ok replay

/-- The ids of a replay are those of spans of the trace, among them those of all spans before the
target. -/
structure SameIds (target : ComponentType) (n : ℕ) : Prop where
  known : ∀ id ∈ drawnIds ids n, id ∈ trace.spans.map TracedSpan.spanId
  preceding : ∀ span ∈ trace.spans.takeWhile fun span ↦ span.record.componentType ≠ some target,
    span.spanId ∈ drawnIds ids n

variable {lib replayLib env ids registry trace request} {target : ComponentType}
  {spans replay : List TracedSpan} {id : String} {other : ReplayEquivalenceEnvelope F} {n : ℕ}

theorem mem_or_mem_after :
    id ∈ intervenedIds target spans ∨ id ∈ allowedDescendants target true spans ↔
      id ∈ spans.map TracedSpan.spanId := by
  induction spans with
  | nil => simp [intervenedIds, allowedDescendants]
  | cons span spans ih =>
    rw [List.map_cons, List.mem_cons, ← ih]
    by_cases htarget : span.record.componentType = some target
    · simp [intervenedIds, allowedDescendants, htarget, or_assoc]
    · simp [intervenedIds, allowedDescendants, htarget, or_left_comm]

theorem mem_or_mem_iff :
    id ∈ intervenedIds target spans ∨ id ∈ allowedDescendants target false spans ↔
      id ∈ (spans.dropWhile fun span ↦ span.record.componentType ≠ some target).map
        TracedSpan.spanId := by
  induction spans with
  | nil => simp [intervenedIds, allowedDescendants]
  | cons span spans ih =>
    by_cases htarget : span.record.componentType = some target
    · have hafter : id ∈ intervenedIds target spans ∨ id ∈ allowedDescendants target true spans ↔
          id ∈ spans.map TracedSpan.spanId := mem_or_mem_after
      rw [List.dropWhile_cons_of_neg (by simpa using htarget), List.map_cons, List.mem_cons,
        ← hafter]
      simp [intervenedIds, allowedDescendants, htarget, or_assoc]
    · rw [List.dropWhile_cons_of_pos (by simpa using htarget), ← ih]
      simp [intervenedIds, allowedDescendants, htarget]

omit [FloatText F] in
theorem covered_iff : Covered (simpleEnvelope target other trace.spans)
    (trace.spans.map TracedSpan.spanId) (drawnIds ids n) ↔ SameIds ids trace target n := by
  let before := trace.spans.takeWhile fun span ↦ span.record.componentType ≠ some target
  let after := trace.spans.dropWhile fun span ↦ span.record.componentType ≠ some target
  have hsplit : trace.spans.map TracedSpan.spanId
      = before.map TracedSpan.spanId ++ after.map TracedSpan.spanId := by
    rw [← List.map_append, List.takeWhile_append_dropWhile]
  have hdistinct := trace.distinct
  rw [hsplit] at hdistinct
  have hmem : ∀ id, id ∈ trace.spans.map TracedSpan.spanId ↔
      id ∈ before.map TracedSpan.spanId ∨ id ∈ after.map TracedSpan.spanId := by
    intro id
    rw [hsplit, List.mem_append]
  constructor
  · intro hcovered
    have hafter : ∀ id, ¬ (id ∈ trace.spans.map TracedSpan.spanId ↔ id ∈ drawnIds ids n) →
        id ∈ after.map TracedSpan.spanId := fun id hdiffer ↦ mem_or_mem_iff.mp (hcovered id hdiffer)
    refine ⟨fun id hdrawn ↦ ?_, fun span hspan ↦ ?_⟩
    · by_contra hnew
      exact hnew ((hmem id).mpr (Or.inr (hafter id fun h ↦ hnew (h.mpr hdrawn))))
    · by_contra hmissing
      have hbefore : span.spanId ∈ before.map TracedSpan.spanId := List.mem_map_of_mem hspan
      have hknown : span.spanId ∈ trace.spans.map TracedSpan.spanId :=
        (hmem _).mpr (Or.inl hbefore)
      exact List.disjoint_of_nodup_append hdistinct hbefore
        (hafter _ fun h ↦ hmissing (h.mp hknown))
  · intro hsame id hdiffer
    refine mem_or_mem_iff.mpr ?_
    by_cases hknown : id ∈ trace.spans.map TracedSpan.spanId
    · refine ((hmem id).mp hknown).resolve_left fun hbefore ↦ ?_
      obtain ⟨span, hspan, rfl⟩ := List.mem_map.mp hbefore
      exact hdiffer (iff_of_true hknown (hsame.preceding span hspan))
    · have hdrawn : id ∈ drawnIds ids n := by
        by_contra hmissing
        exact hdiffer (iff_of_false hknown hmissing)
      exact absurd (hsame.known id hdrawn) hknown

/-- **The flag** says that the ids differ. -/
theorem divergenceObserved_eq (hlib : Distinguishes lib)
    (hreplay : replay.map TracedSpan.spanId = drawnIds ids n) :
    ∃ flag, divergenceObserved lib target other trace.spans replay = .ok flag ∧
      (flag = false ↔ SameIds ids trace target n) := by
  have hidentified : ∀ span ∈ replay, span.spanId ≠ "" := by
    intro span hspan
    have hdrawn : span.spanId ∈ drawnIds ids n := hreplay ▸ List.mem_map_of_mem hspan
    obtain ⟨i, -, hi⟩ := List.mem_map.mp hdrawn
    exact hi ▸ ids.drawn i
  have hplain : Plain (simpleEnvelope target other trace.spans) := ⟨rfl, rfl, rfl⟩
  obtain ⟨nodes, hnodes, hblank⟩ : ∃ nodes, fromSpans lib _ = .ok nodes ∧ Blank lib nodes _ :=
    exists_blank_fromSpans trace.identified
  obtain ⟨nodes', hnodes', hblank'⟩ : ∃ nodes, fromSpans lib _ = .ok nodes ∧ Blank lib nodes _ :=
    exists_blank_fromSpans hidentified
  obtain ⟨r, hr, hvalid⟩ := exists_validate_blank hlib hplain hblank hblank'
  refine ⟨!r.valid, ?_, ?_⟩
  · rw [divergenceObserved, hnodes, ok_bind, hnodes', ok_bind, hr, ok_bind]
    rfl
  · rw [Bool.not_eq_false', hvalid, hreplay, covered_iff]

/-- An id that no span of the trace has is a divergence: with new ids, every replay has one. -/
theorem divergenceObserved_of_new (hlib : Distinguishes lib)
    (hreplay : replay.map TracedSpan.spanId = drawnIds ids n) (hdrawn : id ∈ drawnIds ids n)
    (hnew : id ∉ trace.spans.map TracedSpan.spanId) :
    divergenceObserved lib target other trace.spans replay = .ok true := by
  obtain ⟨flag, hflag, hmeans⟩ := divergenceObserved_eq hlib hreplay
  cases flag with
  | true => exact hflag
  | false => exact absurd ((hmeans.mp rfl).known id hdrawn) hnew

/-- The flag means divergence in a replay that does not return, for outputs that do not meet the
premise, and for ids that are those of the trace. -/
theorem flagMeansDivergence_iff (hlib : Distinguishes lib) :
    FlagMeansDivergence lib replayLib env ids registry trace request other ↔
      (Returns lib replayLib env ids registry trace request →
        PrecedingUnchanged lib env trace request.intervention.targetComponent
          (steps registry (trace.replayRequest request)) →
        SameIds ids trace request.intervention.targetComponent
          ((steps registry (trace.replayRequest request)).length + 1)) := by
  have hdrawn : ∀ {episode spans score executed replay},
      executeReplay replayLib env (trace.replayRequest request) registry []
        = (.ok (episode, spans, score), executed) →
      replaySpans lib env ids spans = .ok replay → replay.map TracedSpan.spanId
        = drawnIds ids ((steps registry (trace.replayRequest request)).length + 1) := by
    intro episode spans score executed replay hrun hreplay
    obtain ⟨hexecuted, hlength⟩ := executed_of_executeReplay hrun
    rw [spanIds_of_replaySpans hreplay, hlength, ← hexecuted, List.length_map]
  constructor
  · rintro hmeans ⟨episode, spans, score, executed, replay, hrun, hreplay⟩ hunchanged
    obtain ⟨flag, hflag, hsame⟩ := divergenceObserved_eq hlib (hdrawn hrun hreplay)
    rw [← (executed_of_executeReplay hrun).1] at hunchanged
    have hfalse := hmeans hrun hreplay hunchanged
    exact hsame.mp (Except.ok.inj (hflag.symm.trans hfalse))
  · intro hsame episode spans score executed replay hrun hreplay hunchanged
    obtain ⟨flag, hflag, hmeans⟩ := divergenceObserved_eq hlib (hdrawn hrun hreplay)
    rw [(executed_of_executeReplay hrun).1] at hunchanged
    rw [hflag, hmeans.mpr (hsame ⟨episode, spans, score, executed, replay, hrun, hreplay⟩ hunchanged)]

end Meaning

/-! ## A replay of two components -/

section Examples

/-- Ids of one character, as often as ids were drawn. -/
def sampleIds (c : Char) : SpanIds where
  id n := String.ofList (List.replicate (n + 1) c)
  drawn n h := by simpa using congrArg String.toList h

def sampleEnvironment : ReplayEnvironment WholeFloat :=
  { quietEnvironment with attempts := fun _ ↦ ⟨0, 0, .output []⟩ }

def sampleReplayLibrary : ReplayLibrary WholeFloat where
  sha256 _ := ""
  toFloat _ := .error ⟨.typeError, ""⟩
  subtract _ := .error ⟨.typeError, ""⟩
  encodable _ := true
  dumpsError _ := ""
  encodeError _ := ""
  spanError _ := ""
  episodeError _ := ""

/-- The span of a pipeline with a generator and a retriever, and the spans of these. -/
def sampleTrace : StoredTrace where
  spans :=
    [⟨"i", none, { generatorSpan with
        name := "pipeline", componentType := none, componentVersionId := none,
        componentVersionTag := none }⟩,
      ⟨"ii", some "\x7b\x7d", generatorSpan⟩,
      ⟨"iii", some "\x7b\x7d", { generatorSpan with
        name := "retriever/v1", componentType := some .retriever,
        componentVersionId := some retrieverV1.id }⟩]
  distinct := by decide
  identified := by decide

/-- The retriever is to be replaced. -/
def sampleRequest : ReplayRequest WholeFloat where
  originalRun := withoutTarget.originalRun
  originalTrace := withoutTarget.originalTrace
  intervention := ⟨.retriever, some "v1", some "v2-exp"⟩
  replayVersion := ⟨3, .retriever, "v2-exp"⟩
  originalReliabilityVector := []
  seed := 42
  manifest := some { pinnedManifest with
    retrieverSettings := [("k", .int 5)], generationParameters := [] }

open ReplayEquivalenceEnvelope in
/-- With the ids of the trace the flag would mean divergence. -/
theorem flagMeansDivergence_sameIds :
    FlagMeansDivergence wholeLibrary.divergence sampleReplayLibrary sampleEnvironment (sampleIds 'i')
      generatorRegistry sampleTrace sampleRequest (smallEnvelope "t" "" []) := by
  have hlib : Distinguishes wholeLibrary.divergence := by constructor <;> decide
  refine (flagMeansDivergence_iff hlib).mpr fun _ _ ↦ ⟨?_, ?_⟩
  · decide +kernel
  · decide +kernel

open ReplayEquivalenceEnvelope in
/-- Every component returns what it returned, and with new ids this is a divergence. -/
theorem not_flagMeansDivergence_newIds :
    ¬ FlagMeansDivergence wholeLibrary.divergence sampleReplayLibrary sampleEnvironment
      (sampleIds 'n') generatorRegistry sampleTrace sampleRequest (smallEnvelope "t" "" []) := by
  have hlib : Distinguishes wholeLibrary.divergence := by constructor <;> decide
  intro h
  have hreturns : (executeReplay sampleReplayLibrary sampleEnvironment
      (sampleTrace.replayRequest sampleRequest) generatorRegistry []).1.toOption.isSome = true := by
    decide +kernel
  obtain ⟨⟨episode, spans, score⟩, executed, hrun⟩ | ⟨e, executed, hrun⟩ := exists_ok_or_error
    (executeReplay sampleReplayLibrary sampleEnvironment (sampleTrace.replayRequest sampleRequest)
      generatorRegistry) []
  · have hhash : ∀ n, outputHash wholeLibrary.divergence sampleEnvironment n
        = .ok (emptyHash wholeLibrary.divergence) := fun _ ↦ stableHash_empty
    obtain ⟨replay, hreplay⟩ : ∃ replay, replaySpans wholeLibrary.divergence sampleEnvironment
        (sampleIds 'n') spans = .ok replay := exists_replaySpans (fun n ↦ ⟨_, hhash n⟩) spans
    have hrecorded : ∀ span ∈ sampleTrace.spans, span.record.componentType ≠ none →
        span.outputHash = some (emptyHash wholeLibrary.divergence) := by decide
    have hunchanged : PrecedingUnchanged wholeLibrary.divergence sampleEnvironment sampleTrace
        sampleRequest.intervention.targetComponent (executed.map Execution.step) := by
      intro n step _ _ span hspan
      have htype : span.record.componentType = some step.componentType := by
        simpa using List.find?_some hspan
      exact ⟨_, hhash n, hrecorded span (List.mem_of_find?_eq_some hspan) (by rw [htype]; nofun)⟩
    have hlength := (executed_of_executeReplay hrun).2
    have hdrawn : (sampleIds 'n').id 0 ∈ drawnIds (sampleIds 'n') spans.length :=
      List.mem_map_of_mem (List.mem_range.mpr (hlength ▸ Nat.succ_pos _))
    have hnew : (sampleIds 'n').id 0 ∉ sampleTrace.spans.map TracedSpan.spanId := by decide
    have htrue : divergenceObserved wholeLibrary.divergence .retriever (smallEnvelope "t" "" [])
        sampleTrace.spans replay = .ok true :=
      divergenceObserved_of_new hlib (spanIds_of_replaySpans hreplay) hdrawn hnew
    exact nomatch htrue.symm.trans (h hrun hreplay hunchanged)
  · rw [hrun] at hreturns
    exact nomatch hreturns

end Examples

end DriftGuardX.Worker
