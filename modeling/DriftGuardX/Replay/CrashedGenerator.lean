import DriftGuardX.Admission.Budget
import DriftGuardX.Evaluation.Reliability
import DriftGuardX.Foundation.Transaction
import DriftGuardX.Replay.PinnedReplay

/-!
# A generator that crashes and one that answers

Two replays differ in the attempt of the generator: one crashes, the other answers with some
faithfulness score. A crash counts as an error, which lowers the share of spans without errors by one
span. But a crashed component has an empty output, and an output without a faithfulness score counts
as fully faithful.

So the more spans a replay has, the less a crash costs, while a weak answer costs up to the whole
weight of the faithfulness. When a crash does not score higher is decided by which of the two costs is
greater, unless the rounding of the scores hides the difference (`crash_le_answer_iff`).
-/

namespace DriftGuardX.Replay

open Json Program Evaluation
open Transaction (ok_bind bind_eq_ok_iff pure_eq_ok_iff)
open Recovery (Raised)

/-! ## What a replay records -/

section Records

variable {F : Type} (lib : ReplayLibrary F) (env : ReplayEnvironment F) (request : ReplayRequest F)

/-- Steps from an attempt on, with the score before them, the spans of the steps, and the score after
them. -/
inductive Records : ℕ → List Step → Option F → List SpanRecord → Option F → Prop where
  | nil (n : ℕ) (score : Option F) : Records n [] score [] score
  | cons (n : ℕ) (step : Step) (steps : List Step) (score given score' : Option F)
      (output : Payload F) (span : SpanRecord) (spans : List SpanRecord)
      (hrecorded : recordAttempt lib env request step.componentType step.version (env.attempts n)
        = .ok (output, given, span))
      (hrest : Records (n + 1) steps (if step.componentType = .generator then given else score)
        spans score') :
      Records n (step :: steps) score (span :: spans) score'

variable {lib env request} {registry : VersionRegistry} {resolved : Resolved}
  {progress progress' : Progress F} {executed executed' : List (Execution F)}

/-- A turn of the loop records its attempt. -/
theorem recorded_of_runVersion {componentType : ComponentType} {version : ComponentVersion}
    (h : runVersion lib env request componentType version progress executed
      = (.ok progress', executed')) :
    executed'.length = executed.length + 1 ∧ ∃ output given span,
      recordAttempt lib env request componentType version (env.attempts executed.length)
        = .ok (output, given, span) ∧
      progress'.spans = progress.spans ++ [span] ∧ progress'.faithfulnessScore
        = if componentType = .generator then given else progress.faithfulnessScore := by
  simp only [runVersion, bind_returns_iff, ofExcept_returns_iff, get_returns_iff,
    modify_returns_iff, pure_returns_iff] at h
  obtain ⟨executor, _, ⟨-, rfl⟩, _, _, ⟨rfl, rfl⟩, -, _, rfl, ⟨output, given, span⟩, _,
    ⟨hrecorded, rfl⟩, rfl, rfl⟩ := h
  exact ⟨List.length_append, output, given, span, hrecorded, rfl, rfl⟩

/-- The loop records its steps, one attempt after the other. -/
theorem records_of_runPipeline (hresolves : Resolves registry request request.originalTrace.spans
    resolved) {order : List ComponentType}
    (h : runPipeline lib env request resolved order progress executed
      = (.ok progress', executed')) :
    ∃ spans, progress'.spans = progress.spans ++ spans ∧
      Records lib env request executed.length (stepsOf registry request order)
        progress.faithfulnessScore spans progress'.faithfulnessScore := by
  refine runPipeline_induction (P := fun steps progress executed progress' ↦
    ∃ spans, progress'.spans = progress.spans ++ spans ∧ Records lib env request executed.length
      steps progress.faithfulnessScore spans progress'.faithfulnessScore)
    hresolves (fun _ _ ↦ ⟨[], (List.append_nil _).symm, .nil _ _⟩) ?_ h
  rintro step steps progress executed next after progress' hturn ⟨spans, hall, hrest⟩
  obtain ⟨hlength, output, given, span, hrecorded, hspans, hscore⟩ := recorded_of_runVersion hturn
  rw [hlength, hscore] at hrest
  refine ⟨span :: spans, ?_, .cons _ step _ _ given _ output _ _ hrecorded hrest⟩
  rw [hall, hspans, List.append_assoc, List.singleton_append]

/-- **A replay that returns** has a span of its own and those of its steps. -/
theorem records_of_executeReplay [FloatText F] {episode : ReplayEpisode} {spans : List SpanRecord}
    {score : Option F}
    (h : executeReplay lib env request registry [] = (.ok (episode, spans, score), executed)) :
    ∃ root components, (rootSpan env request).build lib = .ok root ∧ spans = root :: components ∧
      Records lib env request 0 (steps registry request) none components score := by
  simp only [executeReplay, bind_returns_iff, ofExcept_returns_iff, pure_returns_iff] at h
  obtain ⟨manifest, _, ⟨-, rfl⟩, resolved, _, ⟨hresolved, rfl⟩, progress, executed, hpipeline, root,
    _, ⟨hroot, rfl⟩, -, _, ⟨-, rfl⟩, heq, rfl⟩ := h
  obtain ⟨-, heq⟩ := Prod.mk.inj heq
  obtain ⟨rfl, rfl⟩ := Prod.mk.inj heq
  obtain ⟨components, hcomponents, hrecords⟩ :=
    records_of_runPipeline (resolves_of_resolveVersions hresolved) hpipeline
  exact ⟨root, components, hroot, congrArg (root :: ·) hcomponents, hrecords⟩

variable {n : ℕ} {score score' : Option F} {spans spans₂ : List SpanRecord}
  {steps front back : List Step} {env' : ReplayEnvironment F}

theorem Records.append (h : Records lib env request n (front ++ back) score spans score') :
    ∃ fronts backs mid, spans = fronts ++ backs ∧
      Records lib env request n front score fronts mid ∧
      Records lib env request (n + front.length) back mid backs score' := by
  induction front generalizing n score spans with
  | nil => exact ⟨[], spans, score, rfl, .nil n score, h⟩
  | cons step front ih =>
    obtain - | ⟨_, _, _, _, given, _, output, span, rest, hrecorded, hrest⟩ := h
    obtain ⟨fronts, backs, mid, rfl, hfront, hback⟩ := ih hrest
    refine ⟨span :: fronts, backs, mid, rfl, ?_, ?_⟩
    · exact .cons n step front score given mid output span fronts hrecorded hfront
    · rw [List.length_cons, ← Nat.add_assoc, Nat.add_right_comm]
      exact hback

theorem recordAttempt_congr (hid : env.replayId = env'.replayId) (componentType : ComponentType)
    (version : ComponentVersion) (attempt : Attempt F) :
    recordAttempt lib env request componentType version attempt
      = recordAttempt lib env' request componentType version attempt := by
  simp only [recordAttempt, componentSpan, hid]

/-- The same attempts leave the same spans. -/
theorem Records.unique {other other' : Option F} (hid : env.replayId = env'.replayId)
    (h : Records lib env request n steps score spans score')
    (h' : Records lib env' request n steps other spans₂ other')
    (hattempts : ∀ j, n ≤ j → j < n + steps.length → env.attempts j = env'.attempts j) :
    spans = spans₂ := by
  induction h generalizing spans₂ other with
  | nil n score =>
    cases h'
    rfl
  | cons n step steps score given score' output span spans hrecorded hrest ih =>
    obtain - | ⟨_, _, _, _, given', _, output', span', spans', hrecorded', hrest'⟩ := h'
    rw [List.length_cons] at hattempts
    rw [hattempts n le_rfl (by omega), recordAttempt_congr hid] at hrecorded
    obtain heq := Except.ok.inj (hrecorded.symm.trans hrecorded')
    obtain ⟨-, heq⟩ := Prod.mk.inj heq
    obtain ⟨rfl, rfl⟩ := Prod.mk.inj heq
    rw [ih hrest' fun j hj hlt ↦ hattempts j (by omega) (by omega)]

theorem Records.score_eq (h : Records lib env request n steps score spans score')
    (hnone : ∀ step ∈ steps, step.componentType ≠ .generator) : score' = score := by
  induction h with
  | nil => rfl
  | cons n step steps score given score' output span spans hrecorded hrest ih =>
    obtain ⟨hstep, hsteps⟩ := List.forall_mem_cons.mp hnone
    rw [ih hsteps, if_neg hstep]

end Records

theorem nodup_steps {F : Type} (registry : VersionRegistry) (request : ReplayRequest F) :
    ((steps registry request).map Step.componentType).Nodup := by
  have hsublist : ∀ order : List ComponentType,
      ((stepsOf registry request order).map Step.componentType).Sublist order := by
    intro order
    induction order with
    | nil => exact .slnil
    | cons componentType order ih =>
      cases hversion : namedVersion registry request componentType with
      | none =>
        rw [stepsOf, List.filterMap_cons_none (by rw [hversion]; rfl)]
        exact ih.cons componentType
      | some version =>
        rw [stepsOf, List.filterMap_cons_some (by rw [hversion]; rfl)]
        exact ih.cons_cons componentType
  have horder : (pipelineOrder request.originalTrace.spans).Nodup := by
    rw [pipelineOrder]
    split_ifs
    · decide
    · exact nodup_componentTypes
  exact horder.sublist (hsublist _)

/-! ## The two replays -/

section Compare

variable (lib : ReplayLibrary ℚ) (registry : VersionRegistry) (request : ReplayRequest ℚ)
  (env env' : ReplayEnvironment ℚ)

/-- What the scores read of a span of a replay. -/
def measured (span : SpanRecord) : MeasuredSpan where
  latencyMs := span.endTime.map fun stop ↦ ((stop - span.startTime : ℤ) : ℚ) / 1000
  policyResult := span.policyResult
  errorType := span.errorType
  tokenCountInput := span.tokenCountInput
  tokenCountOutput := span.tokenCountOutput

/-- `replay_reliability_score`. The faithfulness score is `1.0` unless a generator gives one. -/
def replayReliabilityScore (spans : List SpanRecord) (faithfulnessScore : Option ℚ) : ℚ :=
  aggregateReliabilityScore defaultConfig
    (computeReliabilityVector defaultConfig (spans.map measured) (some (faithfulnessScore.getD 1)))

/-- Two environments that differ in the attempt of the generator. In the first it crashes, and in
the second it answers, as fast and without tokens, with the given faithfulness. -/
structure DiffersInGenerator (given : Option ℚ) (i : ℕ) : Prop where
  start : env.start = env'.start
  stop : env.stop = env'.stop
  replayId : env.replayId = env'.replayId
  attempts : ∀ j ≠ i, env.attempts j = env'.attempts j
  generator : ((steps registry request)[i]?).map Step.componentType = some .generator
  started : (env.attempts i).start = (env'.attempts i).start
  stopped : (env.attempts i).stop = (env'.attempts i).stop
  crashes : (env.attempts i).outcome = .timeout ∨
    ∃ errorType message, (env.attempts i).outcome = .failed errorType message
  answers : ∃ output, (env'.attempts i).outcome = .output output ∧
    faithfulness lib output = .ok given ∧
    (output.lookup "token_count_input").getD (.int 0) = .int 0 ∧
    (output.lookup "token_count_output").getD (.int 0) = .int 0

/-- What the spans of a generator without tokens measure. -/
def generatorSpanOf (attempt : Attempt ℚ) (errorType : Option String) : MeasuredSpan where
  latencyMs := some (((attempt.stop - attempt.start : ℤ) : ℚ) / 1000)
  policyResult := none
  errorType := errorType
  tokenCountInput := some 0
  tokenCountOutput := some 0

variable {lib registry request env env'} {given : Option ℚ} {i : ℕ}

theorem measured_of_recordAttempt {version : ComponentVersion} {attempt : Attempt ℚ}
    {payload output : Payload ℚ} {error : Option (String × String)} {span : SpanRecord}
    (hresult : attempt.outcome.result = .ok (payload, error))
    (hinput : (payload.lookup "token_count_input").getD (.int 0) = .int 0)
    (houtput : (payload.lookup "token_count_output").getD (.int 0) = .int 0)
    (h : recordAttempt lib env request .generator version attempt = .ok (output, given, span)) :
    faithfulness lib payload = .ok given ∧
      measured span = generatorSpanOf attempt (error.map Prod.fst) := by
  simp only [recordAttempt, hresult, ok_bind, bind_eq_ok_iff, if_true,
    pure_eq_ok_iff] at h
  obtain ⟨score, hscore, built, hbuild, heq⟩ := h
  obtain ⟨-, heq⟩ := Prod.mk.inj heq
  obtain ⟨rfl, rfl⟩ := Prod.mk.inj heq
  refine ⟨hscore, ?_⟩
  have hpolicy : ¬ ComponentType.generator = .policyCheck := by decide
  simp only [SpanBuilder.build, componentSpan, if_true, if_neg hpolicy, hinput, houtput,
    optionalInt, optionalStr] at hbuild
  by_cases hclock : attempt.stop < attempt.start
  · rw [if_pos hclock] at hbuild
    cases hbuild
  · rw [if_neg hclock] at hbuild
    obtain rfl := Except.ok.inj hbuild
    rfl

/-- **The two replays have the same spans but for that of the generator**, which has an error in the
first, and the first has no faithfulness score. -/
theorem exists_spans {episode episode' : ReplayEpisode} {spans spans' : List SpanRecord}
    {score score' : Option ℚ} {executed executed' : List (Execution ℚ)}
    (h : DiffersInGenerator lib registry request env env' given i)
    (hrun : executeReplay lib env request registry [] = (.ok (episode, spans, score), executed))
    (hrun' : executeReplay lib env' request registry []
      = (.ok (episode', spans', score'), executed')) :
    score = none ∧ score' = given ∧ ∃ before after errorType attempt,
      spans.map measured = before ++ generatorSpanOf attempt (some errorType) :: after ∧
      spans'.map measured = before ++ generatorSpanOf attempt none :: after := by
  obtain ⟨root, components, hroot, rfl, hrecords⟩ := records_of_executeReplay hrun
  obtain ⟨root', components', hroot', rfl, hrecords'⟩ := records_of_executeReplay hrun'
  obtain rfl : root = root' := by
    rw [rootSpan, h.start, h.stop, h.replayId, ← rootSpan] at hroot
    exact Except.ok.inj (hroot.symm.trans hroot')
  -- the steps before the generator, the generator, and the steps after it
  obtain ⟨step, hstep, hgenerator⟩ := Option.map_eq_some_iff.mp h.generator
  obtain ⟨hlt, hget⟩ := List.getElem?_eq_some_iff.mp hstep
  have hsplit : steps registry request
      = (steps registry request).take i ++ step :: (steps registry request).drop (i + 1) := by
    rw [← hget, List.cons_getElem_drop_succ, List.take_append_drop]
  have hlength : ((steps registry request).take i).length = i := List.length_take_of_le hlt.le
  have hdistinct := nodup_steps registry request
  rw [hsplit, List.map_append, List.map_cons, hgenerator] at hdistinct
  rw [hsplit] at hrecords hrecords'
  generalize (steps registry request).take i = front at hrecords hrecords' hlength hdistinct
  generalize (steps registry request).drop (i + 1) = back at hrecords hrecords' hdistinct
  have hfront : ∀ step ∈ front, step.componentType ≠ .generator := by
    intro other hmem heq
    refine List.disjoint_of_nodup_append hdistinct (List.mem_map_of_mem hmem) ?_
    rw [heq]
    exact List.mem_cons_self
  have hback : ∀ step ∈ back, step.componentType ≠ .generator := by
    intro other hmem heq
    have hnotMem := (List.nodup_cons.mp hdistinct.of_append_right).1
    exact hnotMem (heq ▸ List.mem_map_of_mem hmem)
  obtain ⟨fronts, backs, mid, rfl, hrecords, hrest⟩ := hrecords.append
  obtain ⟨fronts', backs', mid', rfl, hrecords', hrest'⟩ := hrecords'.append
  rw [hlength, Nat.zero_add] at hrest hrest'
  obtain rfl := hrecords.unique h.replayId hrecords' fun j _ hj ↦ h.attempts j (by omega)
  obtain rfl := hrecords.score_eq hfront
  obtain rfl := hrecords'.score_eq hfront
  obtain - | ⟨_, _, _, _, crashed, _, output, span, afters, hcrash, hafter⟩ := hrest
  obtain - | ⟨_, _, _, _, answered, _, output', span', afters', hanswer, hafter'⟩ := hrest'
  rw [if_pos hgenerator] at hafter hafter'
  obtain rfl := hafter.unique h.replayId hafter' fun j hj _ ↦ h.attempts j (by omega)
  obtain rfl := hafter.score_eq hback
  obtain rfl := hafter'.score_eq hback
  rw [hgenerator] at hcrash hanswer
  obtain ⟨errorType, message, hcrashed⟩ : ∃ errorType message,
      (env.attempts i).outcome.result = .ok ([], some (errorType, message)) := by
    obtain houtcome | ⟨errorType, message, houtcome⟩ := h.crashes
    · rw [houtcome]
      exact ⟨_, _, rfl⟩
    · rw [houtcome]
      exact ⟨_, _, rfl⟩
  obtain ⟨payload, houtcome, hgiven, hinput, houtput⟩ := h.answers
  have hanswered : (env'.attempts i).outcome.result = .ok (payload, none) := by
    rw [houtcome]
    rfl
  obtain ⟨hnone, hspan⟩ := measured_of_recordAttempt hcrashed rfl rfl hcrash
  obtain ⟨hsome, hspan'⟩ := measured_of_recordAttempt hanswered hinput houtput hanswer
  have hmap : ∀ other, (root :: (fronts ++ other :: afters)).map measured
      = (root :: fronts).map measured ++ measured other :: afters.map measured := fun _ ↦ by simp
  refine ⟨?_, ?_, (root :: fronts).map measured, afters.map measured, errorType, env.attempts i,
    ?_, ?_⟩
  · exact (Except.ok.inj hnone).symm
  · exact Except.ok.inj (hsome.symm.trans hgiven)
  · rw [hmap, hspan]
    rfl
  · rw [hmap, hspan']
    simp only [generatorSpanOf, h.started, h.stopped, Option.map_none]

/-! ## The two scores -/

/-- The share of spans without errors that one more error costs. -/
def errorCost (spans : List MeasuredSpan) : ℚ :=
  roundTo 4 (errorFree spans) - roundTo 4 (errorShare (errorCount spans + 1) spans.length)

/-- What a weak answer costs more than a crash, in weighted scores. -/
def excess (spans : List MeasuredSpan) (faithfulnessScore : ℚ) : ℚ :=
  (1 - roundTo 4 faithfulnessScore) * defaultConfig.faithfulnessWeight
    - errorCost spans * defaultConfig.errorWeight

/-- The weighted sum of a trace with a faithfulness score. -/
def traceSum (spans : List MeasuredSpan) (faithfulnessScore : ℚ) : ℚ :=
  weightedSum defaultConfig
    (computeReliabilityVector defaultConfig spans (some faithfulnessScore))

/-- A weak answer costs no more than a crash, or what it costs more is lost in rounding. -/
def AnswerCostsLess (spans : List MeasuredSpan) (faithfulnessScore : ℚ) : Prop :=
  excess spans faithfulnessScore ≤ 0 ∨
    scoreOf (traceSum spans faithfulnessScore + excess spans faithfulnessScore)
      = scoreOf (traceSum spans faithfulnessScore)

section Sums

variable {before after : List MeasuredSpan} {attempt : Attempt ℚ} {errorType : String}

theorem latencyOk_congr (config : ReliabilityConfig) : latencyOk config
    (before ++ generatorSpanOf attempt (some errorType) :: after)
      = latencyOk config (before ++ generatorSpanOf attempt none :: after) := by
  simp only [latencyOk, generatorSpanOf, List.filterMap_append, List.filterMap_cons]

theorem policyPass_congr : policyPass
    (before ++ generatorSpanOf attempt (some errorType) :: after)
      = policyPass (before ++ generatorSpanOf attempt none :: after) := by
  simp only [policyPass, generatorSpanOf, List.filterMap_append, List.filterMap_cons]

theorem tokenBudget_congr (config : ReliabilityConfig) : tokenBudget config
    (before ++ generatorSpanOf attempt (some errorType) :: after)
      = tokenBudget config (before ++ generatorSpanOf attempt none :: after) := by
  simp only [tokenBudget, totalTokens, generatorSpanOf, List.map_append, List.map_cons]

theorem errorFree_crashed : errorFree (before ++ generatorSpanOf attempt (some errorType) :: after)
    = errorShare (errorCount (before ++ generatorSpanOf attempt none :: after) + 1)
        (before ++ generatorSpanOf attempt none :: after).length := by
  simp [errorFree, errorCount, generatorSpanOf, Nat.add_assoc]

theorem traceSum_crashed (faithfulnessScore : ℚ) :
    traceSum (before ++ generatorSpanOf attempt (some errorType) :: after) 1
      = traceSum (before ++ generatorSpanOf attempt none :: after) faithfulnessScore
        + excess (before ++ generatorSpanOf attempt none :: after) faithfulnessScore := by
  have hone : roundTo 4 1 = 1 := by exact_mod_cast roundTo_intCast 4 1
  rw [traceSum, traceSum, weightedSum_computeReliabilityVector,
    weightedSum_computeReliabilityVector, latencyOk_congr, policyPass_congr, tokenBudget_congr,
    errorFree_crashed, excess, errorCost, Option.getD_some, Option.getD_some, hone]
  ring

end Sums

/-- **A crash does not score higher than an answer** if and only if the answer costs no more than the
crash, or no more than is lost in rounding. -/
theorem crash_le_answer_iff {episode episode' : ReplayEpisode} {spans spans' : List SpanRecord}
    {score score' : Option ℚ} {executed executed' : List (Execution ℚ)}
    (h : DiffersInGenerator lib registry request env env' given i)
    (hrun : executeReplay lib env request registry [] = (.ok (episode, spans, score), executed))
    (hrun' : executeReplay lib env' request registry []
      = (.ok (episode', spans', score'), executed')) :
    replayReliabilityScore spans score ≤ replayReliabilityScore spans' score'
      ↔ AnswerCostsLess (spans'.map measured) (given.getD 1) := by
  obtain ⟨rfl, rfl, before, after, errorType, attempt, hspans, hspans'⟩ := exists_spans h hrun hrun'
  have hsum : traceSum (spans.map measured) 1 = traceSum (spans'.map measured) (score'.getD 1)
      + excess (spans'.map measured) (score'.getD 1) := by
    rw [hspans, hspans']
    exact traceSum_crashed _
  have hcrash : replayReliabilityScore spans none
      = scoreOf (traceSum (spans'.map measured) (score'.getD 1)
        + excess (spans'.map measured) (score'.getD 1)) := by
    rw [← hsum]
    rfl
  have hanswer : replayReliabilityScore spans' score'
      = scoreOf (traceSum (spans'.map measured) (score'.getD 1)) := rfl
  rw [hcrash, hanswer, map_le_map_iff_or_eq scoreOf_mono, AnswerCostsLess, add_le_iff_nonpos_right]

end Compare

/-! ## A pipeline of three components -/

section Examples

def numberLibrary : ReplayLibrary ℚ where
  sha256 _ := ""
  toFloat
    | .float f => .ok f
    | .int i => .ok i
    | _ => .error ⟨.typeError, ""⟩
  subtract
    | .float _ | .int _ | .bool _ => .ok ()
    | _ => .error ⟨.typeError, ""⟩
  encodable _ := true
  dumpsError _ := ""
  encodeError _ := ""
  spanError _ := ""
  episodeError _ := ""

def finalResponseV1 : ComponentVersion := ⟨4, .finalResponse, "v1"⟩

def threeRegistry : VersionRegistry := ⟨[generatorV1, finalResponseV1], by decide⟩

/-- A retriever, a generator and a final response, of which the retriever is replaced. -/
def threeRequest : ReplayRequest ℚ where
  originalRun := ⟨0, 0, 0, .production⟩
  originalTrace := ⟨0, 0, 0,
    [{ generatorSpan with
        name := "retriever/v1", componentType := some .retriever,
        componentVersionId := some retrieverV1.id },
      generatorSpan,
      { generatorSpan with
        name := "final_response/v1", componentType := some .finalResponse,
        componentVersionId := some finalResponseV1.id }], .production⟩
  intervention := ⟨.retriever, some "v1", some "v2-exp"⟩
  replayVersion := ⟨3, .retriever, "v2-exp"⟩
  originalReliabilityVector := []
  seed := 42
  manifest := some { pinnedManifest with
    retrieverSettings := [("k", .int 5)], generationParameters := [] }

/-- The generator is the second component. -/
def threeEnvironment (outcome : Outcome ℚ) : ReplayEnvironment ℚ where
  executors := executorMap
  attempts j := ⟨0, 0, if j = 1 then outcome else .output []⟩
  start := 0
  stop := 0
  replayId := 0

/-- An answer that is not faithful at all. -/
def unfaithful : Outcome ℚ := .output [("faithfulness_score", .float 0)]

theorem differsInGenerator_three : DiffersInGenerator numberLibrary threeRegistry threeRequest
    (threeEnvironment .timeout) (threeEnvironment unfaithful) (some 0) 1 where
  start := rfl
  stop := rfl
  replayId := rfl
  attempts j hj := by simp only [threeEnvironment, if_neg hj]
  generator := by decide +kernel
  started := rfl
  stopped := rfl
  crashes := .inl rfl
  answers := ⟨_, rfl, rfl, rfl, rfl⟩

/-- What a replay of the three components scores. -/
def threeScore (outcome : Outcome ℚ) : Option ℚ :=
  (executeReplay numberLibrary (threeEnvironment outcome) threeRequest threeRegistry
    []).1.toOption.map fun replay ↦ replayReliabilityScore replay.2.1 replay.2.2

theorem exists_of_threeScore {outcome : Outcome ℚ} {value : ℚ}
    (h : threeScore outcome = some value) : ∃ episode spans score executed,
      executeReplay numberLibrary (threeEnvironment outcome) threeRequest threeRegistry []
        = (.ok (episode, spans, score), executed) ∧ replayReliabilityScore spans score = value := by
  rw [threeScore] at h
  obtain ⟨⟨episode, spans, score⟩, executed, hrun⟩ | ⟨e, executed, hrun⟩ := exists_ok_or_error
    (executeReplay numberLibrary (threeEnvironment outcome) threeRequest threeRegistry) []
  · rw [hrun] at h
    exact ⟨episode, spans, score, executed, hrun, Option.some.inj h⟩
  · rw [hrun] at h
    cases h

theorem threeScore_timeout : threeScore .timeout = some 0.925 := by decide +kernel

theorem threeScore_unfaithful : threeScore unfaithful = some 0.9 := by decide +kernel

/-- A crash scores 0.925, and an answer that is not faithful 0.9. -/
theorem not_crash_le_answer_three : ¬ ∀ (lib : ReplayLibrary ℚ) (registry : VersionRegistry)
    (request : ReplayRequest ℚ) (env env' : ReplayEnvironment ℚ) (given : Option ℚ) (i : ℕ),
      DiffersInGenerator lib registry request env env' given i →
      0 ≤ given.getD 1 → given.getD 1 ≤ 1 →
      ∀ episode episode' spans spans' score score' executed executed',
        executeReplay lib env request registry [] = (.ok (episode, spans, score), executed) →
        executeReplay lib env' request registry [] = (.ok (episode', spans', score'), executed') →
        replayReliabilityScore spans score ≤ replayReliabilityScore spans' score' := by
  intro h
  obtain ⟨episode, spans, score, executed, hrun, hcrash⟩ := exists_of_threeScore threeScore_timeout
  obtain ⟨episode', spans', score', executed', hrun', hanswer⟩ :=
    exists_of_threeScore threeScore_unfaithful
  have hle := h _ _ _ _ _ _ _ differsInGenerator_three le_rfl zero_le_one _ _ _ _ _ _ _ _ hrun hrun'
  rw [hcrash, hanswer] at hle
  exact absurd hle (by norm_num)

/-- The costs are compared for the three components. -/
theorem crash_le_answer_three : ∃ episode episode' spans spans' score score' executed executed',
    executeReplay numberLibrary (threeEnvironment .timeout) threeRequest threeRegistry []
      = (.ok (episode, spans, score), executed) ∧
    executeReplay numberLibrary (threeEnvironment unfaithful) threeRequest threeRegistry []
      = (.ok (episode', spans', score'), executed') ∧
    (replayReliabilityScore spans score ≤ replayReliabilityScore spans' score'
      ↔ AnswerCostsLess (spans'.map measured) 0) := by
  obtain ⟨episode, spans, score, executed, hrun, -⟩ := exists_of_threeScore threeScore_timeout
  obtain ⟨episode', spans', score', executed', hrun', -⟩ :=
    exists_of_threeScore threeScore_unfaithful
  have hiff := crash_le_answer_iff differsInGenerator_three hrun hrun'
  rw [Option.getD_some] at hiff
  exact ⟨episode, episode', spans, spans', score, score', executed, executed', hrun, hrun', hiff⟩

end Examples

end DriftGuardX.Replay
