import DriftGuardX.Foundation.Walk
import DriftGuardX.Json.RoundTrip
import DriftGuardX.Trace.Artifact

/-!
# Chains of ancestors

`get_span_chain` follows the parents of a span to its oldest ancestor, and remembers none of the spans
that it passes. So it ends exactly when no span is met that is an ancestor of itself, and then the chain
is complete (`chainHolds_iff`).
-/

namespace DriftGuardX.Trace

open Json Walk

variable {F V : Type}

namespace TraceArtifact

variable (trace : TraceArtifact F V)

/-- `by_id`, in which the last span with an id stands. -/
def byId : List (String × SpanRecord F V) := dictOf (trace.spans.map fun s ↦ (s.spanId, s))

def get (id : String) : Option (SpanRecord F V) :=
  (trace.byId.find? fun m ↦ m.1 = id).map Prod.snd

/-- The loop of `get_span_chain`, in at most as many rounds as there is fuel. -/
def spanChainLoop : ℕ → Option String → List (SpanRecord F V) → Option (List (SpanRecord F V))
  | 0, _, _ => none
  | fuel + 1, currentId, chain =>
    match currentId with
    | none => some chain.reverse
    | some id =>
      if id = "" then some chain.reverse
      else
        match trace.get id with
        | none => some chain.reverse
        | some span => spanChainLoop fuel span.parentSpanId (chain ++ [span])

/-- `get_span_chain`, if it returns with the given fuel. -/
def getSpanChain (fuel : ℕ) (spanId : String) : Option (List (SpanRecord F V)) :=
  trace.spanChainLoop fuel (some spanId) []

/-- The parent of a span, if it is in the trace. -/
def parent (span : SpanRecord F V) : Option (SpanRecord F V) := span.parentSpanId.bind trace.get

/-- The span with an id and its ancestors in the trace, the oldest first and each before the span whose
parent it is. -/
structure IsSpanChain (spanId : String) (chain : List (SpanRecord F V)) : Prop where
  distinct : (chain.map SpanRecord.spanId).Nodup
  last : chain.getLast? = trace.get spanId
  linked : chain.IsChain fun older span ↦ trace.parent span = some older
  ancestors : ∀ span, span ∈ chain ↔ ∃ start ∈ trace.get spanId, Reaches trace.parent start span

/-- **Chains of ancestors end** and are complete. -/
def ChainHolds (spanId : String) : Prop :=
  ∃ chain, (∃ enough, ∀ fuel ≥ enough, trace.getSpanChain fuel spanId = some chain) ∧
    trace.IsSpanChain spanId chain

/-! ## The spans by their ids -/

variable {trace} {id spanId : String} {span : SpanRecord F V}

theorem mem_byId_of_get (h : trace.get id = some span) : (id, span) ∈ trace.byId := by
  obtain ⟨m, hm, rfl⟩ := Option.map_eq_some_iff.mp h
  have hkey : m.1 = id := by simpa using List.find?_some hm
  exact hkey ▸ List.mem_of_find?_eq_some hm

theorem spanId_of_mem_byId {m : String × SpanRecord F V} (h : m ∈ trace.byId) : m.2.spanId = m.1 := by
  obtain ⟨span, -, rfl⟩ := List.mem_map.mp (mem_of_mem_dictOf h)
  rfl

theorem spanId_of_get (h : trace.get id = some span) : span.spanId = id :=
  spanId_of_mem_byId (mem_byId_of_get h)

theorem get_empty : trace.get "" = none := by
  rw [Option.eq_none_iff_forall_ne_some]
  intro span h
  have hlength := span.spanId_length
  rw [spanId_of_get h] at hlength
  contradiction

theorem keyedPoints : KeyedPoints SpanRecord.spanId trace.parent (trace.byId.map Prod.snd) where
  closed := by
    intro span _ older h
    obtain ⟨id, -, hid⟩ := Option.bind_eq_some_iff.mp h
    exact List.mem_map.mpr ⟨_, mem_byId_of_get hid, rfl⟩
  injective := by
    intro span hspan other hother heq
    obtain ⟨m, hm, rfl⟩ := List.mem_map.mp hspan
    obtain ⟨n, hn, rfl⟩ := List.mem_map.mp hother
    rw [spanId_of_mem_byId hm, spanId_of_mem_byId hn] at heq
    exact congrArg Prod.snd (List.inj_on_of_nodup_map (nodup_keys_dictOf _) hm hn heq)

/-! ## The loop -/

/-- The rounds of the loop depend on the spans alone: an empty id is not looked for, but it would not
be found. -/
theorem spanChainLoop_of_none {currentId : Option String} {chain : List (SpanRecord F V)} {fuel : ℕ}
    (h : currentId.bind trace.get = none) :
    trace.spanChainLoop (fuel + 1) currentId chain = some chain.reverse := by
  cases currentId with
  | none => rfl
  | some id =>
    rw [Option.bind_some] at h
    rw [spanChainLoop]
    split_ifs
    · rfl
    · rw [h]

theorem spanChainLoop_of_some {currentId : Option String} {chain : List (SpanRecord F V)} {fuel : ℕ}
    (h : currentId.bind trace.get = some span) : trace.spanChainLoop (fuel + 1) currentId chain
      = trace.spanChainLoop fuel span.parentSpanId (chain ++ [span]) := by
  obtain ⟨id, rfl, hid⟩ := Option.bind_eq_some_iff.mp h
  have hne : id ≠ "" := by
    rintro rfl
    exact absurd (get_empty.symm.trans hid) (Option.some_ne_none _).symm
  rw [spanChainLoop, if_neg hne, hid]

theorem spanChainLoop_eq_follow {currentId : Option String} {chain : List (SpanRecord F V)} {fuel : ℕ}
    (h : currentId.bind trace.get = some span) : trace.spanChainLoop (fuel + 1) currentId chain
      = (follow trace.parent fuel span).map fun path ↦ (chain ++ path).reverse := by
  induction fuel generalizing currentId chain span with
  | zero =>
    rw [spanChainLoop_of_some h]
    rfl
  | succ fuel ih =>
    rw [spanChainLoop_of_some h]
    cases hparent : trace.parent span with
    | none => rw [spanChainLoop_of_none hparent, follow_of_none hparent, Option.map_some]
    | some older =>
      rw [ih hparent, follow_of_some hparent, Option.map_map]
      simp only [Function.comp_def, List.append_assoc, List.singleton_append]

theorem getSpanChain_of_some (h : trace.get spanId = some span) (fuel : ℕ) :
    trace.getSpanChain (fuel + 1) spanId = (follow trace.parent fuel span).map List.reverse :=
  spanChainLoop_eq_follow h

theorem isSpanChain_of_follow {path : List (SpanRecord F V)} {fuel : ℕ}
    (h : trace.get spanId = some span) (hpath : follow trace.parent fuel span = some path) :
    trace.IsSpanChain spanId path.reverse := by
  obtain ⟨hhead, hchain⟩ := isChain_of_follow hpath
  have hmem : span ∈ trace.byId.map Prod.snd := List.mem_map.mpr ⟨_, mem_byId_of_get h, rfl⟩
  refine ⟨?_, ?_, ?_, fun other ↦ ?_⟩
  · rw [List.map_reverse, List.nodup_reverse]
    refine (nodup_of_follow hpath).map_on fun a ha b hb heq ↦ ?_
    have hin : ∀ c ∈ path, c ∈ trace.byId.map Prod.snd := fun c hc ↦
      keyedPoints.mem_of_reaches hmem ((mem_follow_iff hpath).mp hc)
    exact keyedPoints.injective a (hin a ha) b (hin b hb) heq
  · rw [List.getLast?_reverse, hhead, h]
  · exact List.isChain_reverse.mpr hchain
  · rw [List.mem_reverse, mem_follow_iff hpath, h]
    simp

theorem isSpanChain_nil (h : trace.get spanId = none) : trace.IsSpanChain spanId [] where
  distinct := List.nodup_nil
  last := h.symm
  linked := .nil
  ancestors := fun span ↦ by simp [h]

/-- **A chain of ancestors ends and is complete exactly when** neither the span nor one of its ancestors
is an ancestor of itself. -/
theorem chainHolds_iff (trace : TraceArtifact F V) (spanId : String) : trace.ChainHolds spanId ↔
    ∀ start ∈ trace.get spanId, ∀ span, Reaches trace.parent start span →
      ¬ ReachesNext trace.parent span span := by
  cases h : trace.get spanId with
  | none =>
    refine iff_of_true ⟨[], ⟨1, fun fuel hfuel ↦ ?_⟩, isSpanChain_nil h⟩ (by simp)
    obtain ⟨fuel, rfl⟩ := Nat.exists_eq_add_of_le' hfuel
    exact spanChainLoop_of_none h
  | some start =>
    have hmem : start ∈ trace.byId.map Prod.snd := List.mem_map.mpr ⟨_, mem_byId_of_get h, rfl⟩
    simp only [Option.mem_some_iff, forall_eq']
    rw [← exists_follow_iff keyedPoints hmem]
    constructor
    · rintro ⟨chain, ⟨enough, hreturns⟩, -⟩
      have hchain := hreturns (enough + 1) enough.le_succ
      rw [getSpanChain_of_some h] at hchain
      obtain ⟨path, hpath, -⟩ := Option.map_eq_some_iff.mp hchain
      exact ⟨enough, path, hpath⟩
    · rintro ⟨enough, path, hpath⟩
      refine ⟨path.reverse, ⟨enough + 1, fun fuel hfuel ↦ ?_⟩, isSpanChain_of_follow h hpath⟩
      obtain ⟨fuel, rfl⟩ := Nat.exists_eq_add_of_le' (Nat.le_of_add_left_le hfuel)
      rw [getSpanChain_of_some h, follow_of_le (Nat.le_of_add_le_add_right hfuel) hpath,
        Option.map_some]

/-! ### Two traces -/

/-- Some time. -/
def sampleTime : CalendarDatetime :=
  ⟨⟨2015, 3, 14, 15, 9, 26, 535, some 0, by decide, by decide, by decide, by decide, by decide,
    by decide, by decide, Datetime.utcoffset_utc⟩, by decide⟩

/-- A span with an id of one character, repeated, and a parent. -/
def sampleSpan (c : Char) (parentSpanId : Option String) : SpanRecord Empty Empty where
  traceId := String.ofList (List.replicate 32 '0')
  spanId := String.ofList (List.replicate 16 c)
  parentSpanId := parentSpanId
  name := "span"
  kind := .internal
  startTime := sampleTime
  endTime := none
  statusCode := "OK"
  statusMessage := ""
  attributes := []
  tenantId := 1
  pipelineId := 2
  runId := 3
  componentType := none
  componentVersionId := none
  componentVersionTag := none
  inputHash := none
  outputHash := none
  latencyMs := none
  tokenCountInput := none
  tokenCountOutput := none
  costUsd := none
  policyResult := none
  policyRuleId := none
  errorType := none
  errorMessage := none
  redaction := none
  privacyMode := .developmentFull
  traceId_length := by rw [String.length_ofList, List.length_replicate]
  spanId_length := by rw [String.length_ofList, List.length_replicate]
  endAfterStart := by simp
  attributes_nodup := List.nodup_nil

def sampleTrace (spans : List (SpanRecord Empty Empty)) : TraceArtifact Empty Empty where
  id := 4
  runId := 3
  tenantId := 1
  pipelineId := 2
  spans := spans
  rootSpanId := none
  createdAt := sampleTime
  completenessScore := none
  retentionDays := none
  tenantSamplingRate := none
  evidenceClass := .unverified
  runHash := none
  traceHash := none

/-- A span that is its own parent: the chain of its ancestors does not end. -/
theorem not_chainHolds_ownParent : ¬ (sampleTrace
    [sampleSpan 'a' (some "aaaaaaaaaaaaaaaa")]).ChainHolds "aaaaaaaaaaaaaaaa" := by
  rw [chainHolds_iff]
  intro h
  exact h _ rfl _ .refl (.single rfl)

end TraceArtifact

end DriftGuardX.Trace
