import DriftGuardX.Validation.Eligibility

/-!
# Replays that change what a cut targets

When a replay of a cut changes no spans but those on which the cut acts, the comparison comes to a
report as soon as the outputs can be hashed, and a report is always valid. That the report is valid
is not what the comparison of the nodes says: it knows the intervened components by name and the
nodes by id, so the nodes that were acted on count as unexpected divergences, and the adapter takes
the other report.
-/

namespace DriftGuardX.Validation

open Json Bytes Transaction
open Recovery (Raised Dict nonempty)

variable {F : Type}

/-! ## Outputs that can be hashed -/

section Hashable

variable [FloatText F] {lib : DivergenceLibrary F} {v : Val F} {spans : List (Span F)}

/-- The encoder can write the value, given a text for each object it does not know. -/
def Hashable (lib : DivergenceLibrary F) (v : Val F) : Prop :=
  ∃ d, toDoc true (withDefault lib.str v) = some d

theorem exists_stableHash_iff : (∃ hash, stableHash lib v = .ok hash) ↔ Hashable lib v := by
  rw [Hashable, stableHash, dumps]
  cases toDoc true (withDefault lib.str v) <;> simp

theorem hashable_none : Hashable lib .none := ⟨_, rfl⟩

/-- Every span has an id, which is not empty. -/
def Identified (lib : DivergenceLibrary F) (spans : List (Span F)) : Prop :=
  ∀ span ∈ spans, ∃ id, span.nodeId lib = .ok (some id)

omit [FloatText F] in
theorem nodeId_of_spanId {span : Span F} {id : String}
    (h : Dict.get? span "span_id" = some (.str id)) (hne : id ≠ "") :
    span.nodeId lib = .ok (some id) := by
  have hfalsy : isFalsy lib (.str id) = false := by
    rw [isFalsy.eq_def]
    split <;> simp_all
  simp [Span.nodeId, h, hfalsy]

theorem exists_fromSpans_iff (hids : Identified lib spans) :
    (∃ nodes, fromSpans lib spans = .ok nodes) ↔ ∀ span ∈ spans, Hashable lib span.output := by
  refine exists_foldlM_eq_ok_iff (fun nodes span hspan ↦ ?_) []
  obtain ⟨id, hid⟩ := hids span hspan
  simp only [hid, ok_bind, bind_eq_ok_iff, pure_eq_ok_iff]
  rw [← exists_stableHash_iff]
  constructor
  · rintro ⟨_, hash, hhash, -⟩
    exact ⟨hash, hhash⟩
  · rintro ⟨hash, hhash⟩
    exact ⟨_, hash, hhash, rfl⟩

theorem stableHash_of_fromSpans {nodes : ExecutionSnapshot F}
    (h : fromSpans lib spans = .ok nodes) :
    ∀ m ∈ nodes, stableHash lib m.2.output = .ok m.2.outputHash := by
  refine foldlM_induction
    (I := fun nodes ↦ ∀ m ∈ nodes, stableHash lib m.2.output = .ok m.2.outputHash) nofun ?_ h
  intro nodes span nodes' _ hnodes hstep m hm
  simp only [bind_eq_ok_iff] at hstep
  obtain ⟨found, -, hstep⟩ := hstep
  split at hstep
  · exact hnodes m (pure_eq_ok_iff.mp hstep ▸ hm)
  · simp only [bind_eq_ok_iff, pure_eq_ok_iff] at hstep
    obtain ⟨hash, hhash, rfl⟩ := hstep
    rcases mem_of_mem_setItem hm with hold | rfl
    · exact hnodes m hold
    · exact hhash

theorem stableHash_getNode {nodes : ExecutionSnapshot F} (h : fromSpans lib spans = .ok nodes)
    {id : String} {node : NodeState F} (hnode : getNode nodes id = some node) :
    stableHash lib node.output = .ok node.outputHash := by
  obtain ⟨m, hm, rfl⟩ := Option.map_eq_some_iff.mp hnode
  exact stableHash_of_fromSpans h m (List.mem_of_find?_eq_some hm)

theorem exists_stableHash_getNode {nodes : ExecutionSnapshot F}
    (h : fromSpans lib spans = .ok nodes) (id : String) :
    ∃ hash, stableHash lib ((getNode nodes id).elim .none NodeState.output) = .ok hash := by
  cases hnode : getNode nodes id with
  | none => exact exists_stableHash_iff.mpr hashable_none
  | some node => exact ⟨_, stableHash_getNode h hnode⟩

/-! ## Comparing the nodes -/

variable {envelope : ReplayEquivalenceEnvelope F} {original replay : ExecutionSnapshot F}
  {spans' : List (Span F)}

theorem exists_checkNode (hconstraints : envelope.constraints = [])
    (hdescendants : envelope.allowedCausalDescendants = [])
    (horiginal : fromSpans lib spans = .ok original) (hreplay : fromSpans lib spans' = .ok replay)
    (id : String) : ∃ entry, checkNode lib envelope original replay id = .ok entry := by
  obtain ⟨hash, hhash⟩ := exists_stableHash_getNode horiginal id
  obtain ⟨hash', hhash'⟩ := exists_stableHash_getNode hreplay id
  have hnone : id ∉ envelope.allowedCausalDescendants := by simp [hdescendants]
  obtain ⟨verdict, hverdict⟩ : ∃ verdict, checkTolerance lib id
      ((getNode original id).elim .none NodeState.output)
      ((getNode replay id).elim .none NodeState.output) envelope.constraints = .ok verdict := by
    rw [hconstraints]
    exact ⟨_, by simp only [checkTolerance, Dict.get?, List.find?_nil, Option.map_none,
      Option.getD_none, hhash, hhash', ok_bind]; rfl⟩
  rw [checkNode, if_pos hnone, hverdict, ok_bind]
  split
  · exact ⟨_, rfl⟩
  split
  · exact ⟨_, rfl⟩
  split
  · exact ⟨_, rfl⟩
  split <;> exact ⟨_, rfl⟩

theorem exists_checkNodes (h : ∀ id, ∃ entry, checkNode lib envelope original replay id = .ok entry)
    (ids : List String) : ∃ perNode, checkNodes lib envelope original replay ids = .ok perNode := by
  induction ids with
  | nil => exact ⟨[], rfl⟩
  | cons id ids ih =>
    obtain ⟨entry, hentry⟩ := h id
    obtain ⟨rest, hrest⟩ := ih
    rw [checkNodes, hentry, ok_bind, hrest, ok_bind]
    split <;> exact ⟨_, rfl⟩

/-- The comparison of one replay comes to a report when the outputs can be hashed. -/
theorem exists_validateDivergence_iff (hids : Identified lib spans)
    (hids' : Identified lib spans') (hconstraints : envelope.constraints = [])
    (hdescendants : envelope.allowedCausalDescendants = []) :
    (∃ report, validateDivergence lib [(spans, spans')] envelope = .ok report) ↔
      (∀ span ∈ spans, Hashable lib span.output) ∧ ∀ span ∈ spans', Hashable lib span.output := by
  rw [← exists_fromSpans_iff hids, ← exists_fromSpans_iff hids', validateDivergence,
    if_neg (List.cons_ne_nil _ _)]
  simp only [List.foldlM_cons, List.foldlM_nil, validateReplay, bind_eq_ok_iff, pure_eq_ok_iff]
  constructor
  · rintro ⟨report, worst, ⟨_, ⟨_, ⟨nodes, hnodes, nodes', hnodes', -⟩, -⟩, -⟩, -⟩
    exact ⟨⟨nodes, hnodes⟩, nodes', hnodes'⟩
  · rintro ⟨⟨nodes, hnodes⟩, nodes', hnodes'⟩
    obtain ⟨perNode, hperNode⟩ := exists_checkNodes (exists_checkNode hconstraints hdescendants
      hnodes hnodes')
      (sorted (nodes.map Prod.fst ++ nodes'.map Prod.fst).dedup)
    have hvalidate : validate lib nodes nodes' envelope = .ok (report lib perNode) := by
      rw [validate, hperNode, ok_bind]
      rfl
    exact ⟨_, _, ⟨_, ⟨_, ⟨nodes, hnodes, nodes', hnodes', hvalidate⟩, rfl⟩, rfl⟩, rfl⟩

end Hashable

/-! ## Replays of a cut -/

/-- The replayed span is the original one, but for the output if its component is acted on, and for
the mark of a simulation. -/
def OnlyTarget (intervened : List String) (span span' : Span F) : Prop :=
  span' = span ∨ isIntervened intervened span.componentType = true ∧
    ∀ key, key ≠ "output" → key ≠ "_intervened" → Dict.get? span' key = Dict.get? span key

/-- The replayed spans are the original ones, but for the outputs of those that are acted on. -/
def TargetsOnly (intervened : List String) (spans spans' : List (Span F)) : Prop :=
  List.Forall₂ (OnlyTarget intervened) spans spans'

/-- Every span has a span id, which is not empty. -/
def HasSpanIds (spans : List (Span F)) : Prop :=
  ∀ span ∈ spans, ∃ id, Dict.get? span "span_id" = some (.str id) ∧ id ≠ ""

variable {lib : DivergenceLibrary F} {intervened : List String} {span span' : Span F}
  {spans spans' : List (Span F)}

theorem identified_of_hasSpanIds (h : HasSpanIds spans) : Identified lib spans := by
  intro span hspan
  obtain ⟨id, hid, hne⟩ := h span hspan
  exact ⟨id, nodeId_of_spanId hid hne⟩

theorem OnlyTarget.get?_eq (h : OnlyTarget intervened span span') {key : String}
    (houtput : key ≠ "output") (hmark : key ≠ "_intervened") :
    Dict.get? span' key = Dict.get? span key := by
  rcases h with rfl | ⟨-, h⟩
  · rfl
  · exact h key houtput hmark

theorem TargetsOnly.hasSpanIds (h : TargetsOnly intervened spans spans') (hids : HasSpanIds spans) :
    HasSpanIds spans' := by
  induction h with
  | nil => exact hids
  | cons hspan _ ih =>
    obtain ⟨hid, hids⟩ := List.forall_mem_cons.mp hids
    refine List.forall_mem_cons.mpr ⟨?_, ih hids⟩
    rwa [hspan.get?_eq (by decide) (by decide)]

/-! ### The synthetic replay -/

theorem get?_setItem {α : Type} (kvs : List (String × α)) (k key : String) (a : α) :
    Dict.get? (setItem kvs k a) key = if key = k then some a else Dict.get? kvs key := by
  rw [setItem]
  split
  · rename_i hmem
    have hkey : ∀ m : String × α, (if m.1 = k then (k, a) else m).1 = m.1 := by
      intro m
      split
      · rename_i hm
        exact hm.symm
      · rfl
    rw [Dict.get?, Dict.get?, List.find?_map]
    simp only [Function.comp_def, hkey]
    cases hfind : kvs.find? fun m ↦ decide (m.1 = key) with
    | none =>
      have hne : key ≠ k := by
        rintro rfl
        obtain ⟨m, hm, rfl⟩ := List.mem_map.mp hmem
        exact absurd (List.find?_eq_none.mp hfind m hm) (by simp)
      rw [if_neg hne]
      rfl
    | some m =>
      obtain rfl : m.1 = key := by simpa using List.find?_some hfind
      by_cases hm : m.1 = k
      · simp [hm]
      · simp [hm]
  · rename_i hmem
    by_cases hkey : key = k
    · have hfind : kvs.find? (fun m ↦ decide (m.1 = k)) = none := by
        refine List.find?_eq_none.mpr fun m hm ↦ ?_
        rw [decide_eq_true_iff]
        rintro rfl
        exact hmem (List.mem_map_of_mem hm)
      simp [Dict.get?, List.find?_append, hkey, hfind]
    · simp [Dict.get?, List.find?_append, hkey, Ne.symm hkey]

/-- The output of a simulation. -/
def simulatedOutput (action : RecoveryAction F) : Val F :=
  .object [("status", .str "recovered"), ("action", .str action.actionType)]

/-- The span after some actions were simulated on it. -/
def simulateAll (actions : List (RecoveryAction F)) (span : Span F) : Span F :=
  actions.foldl (fun span action ↦ simulate action span) span

theorem foldl_map_simulate (actions : List (RecoveryAction F)) (spans : List (Span F)) :
    actions.foldl (fun spans action ↦ spans.map (simulate action)) spans
      = spans.map (simulateAll actions) := by
  induction actions generalizing spans with
  | nil => exact (List.map_id' spans).symm
  | cons action actions ih =>
    rw [List.foldl_cons, ih, List.map_map]
    rfl

theorem isIntervened_of_component {component : String}
    (h : isIntervened [component] ((Dict.get? span "component_type").getD .none) = true)
    (hmem : component ∈ intervened) : isIntervened intervened span.componentType = true := by
  rw [Span.componentType]
  cases htype : Dict.get? span "component_type" with
  | none => simp [htype, isIntervened] at h
  | some v =>
    rw [htype, Option.getD_some] at h
    rw [Option.getD_some]
    unfold isIntervened at h ⊢
    split at h
    · rw [decide_eq_true_iff, List.mem_singleton] at h
      exact decide_eq_true (h ▸ hmem)
    · exact nomatch h

/-- One action changes a span of its component, and leaves all others. -/
theorem simulate_cases (action : RecoveryAction F) (span : Span F)
    (hmem : action.targetComponent ∈ intervened) : simulate action span = span ∨
      isIntervened intervened span.componentType = true ∧
      (simulate action span).output = simulatedOutput action ∧
      ∀ key, key ≠ "output" → key ≠ "_intervened" →
        Dict.get? (simulate action span) key = Dict.get? span key := by
  rw [simulate]
  split
  · rename_i hcomponent
    refine .inr ⟨isIntervened_of_component hcomponent hmem, ?_, fun key houtput hmark ↦ ?_⟩
    · rw [Span.output, get?_setItem, if_neg (by decide), get?_setItem, if_pos rfl]
      rfl
    · rw [get?_setItem, if_neg hmark, get?_setItem, if_neg houtput]
  · exact .inl rfl

/-- What simulations leave of a span: the whole of it, or all but the output of one of them. -/
theorem simulateAll_cases (actions : List (RecoveryAction F)) (span : Span F)
    (hmem : ∀ action ∈ actions, action.targetComponent ∈ intervened) :
    simulateAll actions span = span ∨ isIntervened intervened span.componentType = true ∧
      (∃ action, (simulateAll actions span).output = simulatedOutput action) ∧
      ∀ key, key ≠ "output" → key ≠ "_intervened" →
        Dict.get? (simulateAll actions span) key = Dict.get? span key := by
  induction actions generalizing span with
  | nil => exact .inl rfl
  | cons action actions ih =>
    obtain ⟨hfirst, hrest⟩ := List.forall_mem_cons.mp hmem
    have hstep : simulateAll (action :: actions) span
      = simulateAll actions (simulate action span) := rfl
    rw [hstep]
    rcases simulate_cases action span hfirst with hsame | ⟨hcomponent, houtput, hkeys⟩
    · rw [hsame]
      exact ih span hrest
    refine .inr ⟨hcomponent, ?_⟩
    rcases ih (simulate action span) hrest with hsame | ⟨-, hlast, hkeys'⟩
    · rw [hsame]
      exact ⟨⟨action, houtput⟩, hkeys⟩
    · exact ⟨hlast, fun key h h' ↦ (hkeys' key h h').trans (hkeys key h h')⟩

theorem targetsOnly_simulateAll (actions : List (RecoveryAction F)) (spans : List (Span F)) :
    TargetsOnly (actions.map RecoveryAction.targetComponent) spans
      (spans.map (simulateAll actions)) := by
  rw [TargetsOnly, List.forall₂_map_right_iff, List.forall₂_same]
  intro span _
  rcases simulateAll_cases actions span (fun action h ↦ List.mem_map_of_mem h) with
    hsame | ⟨hcomponent, -, hkeys⟩
  · exact .inl hsame
  · exact .inr ⟨hcomponent, hkeys⟩

theorem hashable_simulatedOutput [FloatText F] (action : RecoveryAction F) :
    Hashable lib (simulatedOutput action) := by
  have htext : withDefault lib.str (simulatedOutput action) = simulatedOutput action := rfl
  rw [Hashable, htext, simulatedOutput, exists_toDoc_object_iff]
  intro m hm
  obtain ⟨a, ha⟩ : ∃ a, m.2 = .scalar a := by
    rcases List.mem_cons.mp hm with rfl | hm
    · exact ⟨_, rfl⟩
    · rw [List.mem_singleton.mp hm]
      exact ⟨_, rfl⟩
  rw [ha, toDoc]
  exact ⟨_, rfl⟩

/-! ## Requests that come to a report -/

namespace RecoveryValidator

variable [FloatText F] {lib : ValidationLibrary F} {times : ℕ → ℤ}
  {validator : RecoveryValidator F} {request : ValidationRequest F}

/-- The validation of a request comes to a report, and it is valid. -/
def ObtainsValid (lib : ValidationLibrary F) (times : ℕ → ℤ) (validator : RecoveryValidator F)
    (request : ValidationRequest F) : Prop :=
  ∃ result report, stages lib times validator request = .ok (result, report) ∧ report.valid = true

/-- What the surroundings of a replay have to provide: a context, a mode in which the executor is
allowed, and a secret and exogenous variables with which the envelope can be bound. -/
structure Ready (lib : ValidationLibrary F) (validator : RecoveryValidator F)
    (request : ValidationRequest F) : Prop where
  context : ¬ (request.accessContext = none ∧ request.providedCapabilities = none)
  allowed : ¬ (lib.mode = some "production" ∧ validator.executor.isSynthetic = true)
  secret : ∃ secret, nonempty lib.envelope.secret = some secret
  exogenous : ∀ m ∈ request.exogenousVariables.getD [], ∃ d, toDoc true m.2 = some d

/-- The outputs of all spans can be hashed. -/
def AllHashable (lib : ValidationLibrary F) (spans : List (Span F)) : Prop :=
  ∀ span ∈ spans, Hashable lib.divergence span.output

theorem exists_frozenVariables (hids : Identified lib.divergence request.spans)
    (h : AllHashable lib request.spans) : ∃ frozen, frozenVariables lib request = .ok frozen := by
  refine (exists_foldlM_eq_ok_iff (P := fun _ ↦ True) (fun frozen span hspan ↦ ?_) []).mpr
    fun _ _ ↦ trivial
  obtain ⟨id, hid⟩ := hids span hspan
  obtain ⟨hash, hhash⟩ := exists_stableHash_iff.mpr (h span hspan)
  refine iff_of_true ?_ trivial
  split
  · exact ⟨_, rfl⟩
  · rw [hid, ok_bind]
    simp only [hhash, ok_bind]
    exact ⟨_, rfl⟩

/-- Of what the hash of the envelope covers, only the exogenous variables may be impossible to
write. -/
theorem exists_toDoc_payload_iff (frozen : List (String × String)) :
    (∃ d, toDoc true (envelopeOf request frozen).payload = some d) ↔
      ∀ m ∈ request.exogenousVariables.getD [], ∃ d, toDoc true m.2 = some d := by
  have hscalar : ∀ a : Scalar F, ∃ d, toDoc true (.scalar a) = some d := fun a ↦ ⟨_, by rw [toDoc]⟩
  have hstrs : ∀ xs, ∃ d, toDoc true (strs xs : Val F) = some d := fun xs ↦ ⟨_, toDoc_strs true xs⟩
  have hinvariants : ∀ v ∈ request.invariants.map RecoveryInvariant.modelDump,
      ∃ d, toDoc true v = some d := by
    intro v hv
    obtain ⟨inv, -, rfl⟩ := List.mem_map.mp hv
    rw [RecoveryInvariant.modelDump, exists_toDoc_object_iff]
    simp [hscalar]
  have hfrozen : ∃ d,
      toDoc true (.object (frozen.map fun m ↦ (m.1, (.str m.2 : Val F)))) = some d := by
    rw [exists_toDoc_object_iff]
    intro m hm
    obtain ⟨n, -, rfl⟩ := List.mem_map.mp hm
    exact hscalar _
  have hempty : ∃ d, toDoc true (.object ([] : List (String × Val F))) = some d :=
    exists_toDoc_object_iff.mpr fun m hm ↦ absurd hm List.not_mem_nil
  have hsandbox : ∃ d,
      toDoc true (.object [("isolation_level", (.str "strict" : Val F))]) = some d :=
    exists_toDoc_object_iff.mpr (by simp [hscalar])
  refine Iff.trans ?_ exists_toDoc_object_iff
  rw [ReplayEquivalenceEnvelope.payload, exists_toDoc_object_iff]
  simp only [envelopeOf, List.forall_mem_cons, hscalar, hstrs, hfrozen, hempty, hsandbox, optStr,
    exists_toDoc_list hinvariants, List.not_mem_nil, true_and, and_true, false_implies,
    implies_true]

theorem exists_replayEnvelope_iff (hids : Identified lib.divergence request.spans)
    (h : AllHashable lib request.spans) :
    (∃ envelope, replayEnvelope lib request = .ok envelope) ↔
      (∃ secret, nonempty lib.envelope.secret = some secret) ∧
      ∀ m ∈ request.exogenousVariables.getD [], ∃ d, toDoc true m.2 = some d := by
  obtain ⟨frozen, hfrozen⟩ := exists_frozenVariables hids h
  rw [replayEnvelope, hfrozen, ok_bind, ← exists_toDoc_payload_iff frozen]
  constructor
  · rintro ⟨envelope, henvelope⟩
    obtain ⟨mac, hmac, -⟩ := ReplayEquivalenceEnvelope.construct_eq_ok_iff.mp henvelope
    obtain ⟨secret, hsecret⟩ := ReplayEquivalenceEnvelope.exists_secret_of_mac hmac
    exact ⟨⟨secret, hsecret⟩, (ReplayEquivalenceEnvelope.exists_mac_iff hsecret).mp ⟨mac, hmac⟩⟩
  · rintro ⟨⟨secret, hsecret⟩, hwritten⟩
    obtain ⟨mac, hmac⟩ := (ReplayEquivalenceEnvelope.exists_mac_iff hsecret).mpr hwritten
    exact ⟨_, ReplayEquivalenceEnvelope.construct_eq_ok_iff.mpr ⟨mac, hmac, rfl⟩⟩

/-- The envelope of a validation has no rules, and no nodes that may or may not diverge. -/
theorem unruled_of_replayEnvelope {envelope : ReplayEquivalenceEnvelope F}
    (h : replayEnvelope lib request = .ok envelope) :
    envelope.constraints = [] ∧ envelope.allowedCausalDescendants = [] := by
  obtain ⟨frozen, -, hconstruct⟩ := bind_eq_ok_iff.mp h
  obtain ⟨mac, -, rfl⟩ := ReplayEquivalenceEnvelope.construct_eq_ok_iff.mp hconstruct
  exact ⟨rfl, rfl⟩

/-- Under its envelope, the request has the replay as its result. -/
structure ReplaysTo (lib : ValidationLibrary F) (validator : RecoveryValidator F)
    (request : ValidationRequest F) (result : RecoveryReplayResult F) : Prop where
  success : result.outcome = .success
  replay : ∀ envelope, replayEnvelope lib request = .ok envelope →
    validator.executor.replay request.cut envelope request.replayContext = .ok result

/-- A replay of what the cut targets comes to a valid report when the surroundings are ready and
the outputs can be hashed. -/
theorem obtainsValid_iff_of_replaysTo {result : RecoveryReplayResult F}
    (hdefault : validator.divergenceValidator = validateDivergence lib.divergence)
    (hcapabilities : ∀ action ∈ request.cut.selectedActions, action.requiredCapability = none)
    (hids : HasSpanIds request.spans) (hreplay : ReplaysTo lib validator request result)
    (htargets : TargetsOnly request.intervened request.spans result.newSpans) :
    ObtainsValid lib times validator request ↔ Ready lib validator request ∧
      AllHashable lib request.spans ∧ AllHashable lib result.newSpans := by
  have hidentified : Identified lib.divergence request.spans := identified_of_hasSpanIds hids
  have hidentified' : Identified lib.divergence result.newSpans :=
    identified_of_hasSpanIds (htargets.hasSpanIds hids)
  have hauthorized : ∀ i action, request.cut.selectedActions[i]? = some action →
      Authorized lib validator request (times i) action := by
    intro i action haction cap hcap
    rw [hcapabilities action (List.mem_of_getElem? haction)] at hcap
    exact nomatch hcap
  have hreports : ∀ envelope, replayEnvelope lib request = .ok envelope →
      ((∃ report, validateDivergence lib.divergence [(request.spans, result.newSpans)] envelope
        = .ok report) ↔ AllHashable lib request.spans ∧ AllHashable lib result.newSpans) := by
    intro envelope henvelope
    obtain ⟨hconstraints, hdescendants⟩ := unruled_of_replayEnvelope henvelope
    exact exists_validateDivergence_iff hidentified hidentified' hconstraints hdescendants
  constructor
  · rintro ⟨result', report, hstages, -⟩
    obtain ⟨hcontext, -, hreplayed⟩ := stages_eq_ok_iff.mp hstages
    obtain ⟨envelope, henvelope, hresult, hreport⟩ := hreplayed.replay
    obtain rfl := Except.ok.inj ((hreplay.replay envelope henvelope).symm.trans hresult)
    rw [hdefault] at hreport
    have hhashable := (hreports envelope henvelope).mp ⟨report, hreport⟩
    obtain ⟨hsecret, hexogenous⟩ :=
      (exists_replayEnvelope_iff hidentified hhashable.1).mp ⟨envelope, henvelope⟩
    exact ⟨⟨hcontext, hreplayed.allowed, hsecret, hexogenous⟩, hhashable⟩
  · rintro ⟨hready, hhashable⟩
    obtain ⟨envelope, henvelope⟩ := (exists_replayEnvelope_iff hidentified hhashable.1).mpr
      ⟨hready.secret, hready.exogenous⟩
    obtain ⟨report, hreport⟩ := (hreports envelope henvelope).mpr hhashable
    have hreplayed : Replayed lib validator request result report :=
      { allowed := hready.allowed
        replay := ⟨envelope, henvelope, hreplay.replay envelope henvelope, hdefault ▸ hreport⟩
        success := hreplay.success }
    exact ⟨result, report, stages_eq_ok_iff.mpr ⟨hready.context, hauthorized, hreplayed⟩,
      valid_of_validateDivergence hreport⟩

/-- The result of the synthetic replay of a request. -/
def syntheticResult (request : ValidationRequest F) : RecoveryReplayResult F where
  outcome := .success
  evidenceKind := .syntheticSimulation
  newSpans := request.spans.map (simulateAll request.cut.selectedActions)
  metrics := [("regression_count", request.cut.regressionRisk),
    ("blast_radius", request.cut.blastRadius)]

theorem replaysTo_syntheticResult
    (hexecutor : validator.executor = syntheticRecoveryReplayExecutor) :
    ReplaysTo lib validator request (syntheticResult request) := by
  refine ⟨rfl, fun envelope _ ↦ ?_⟩
  rw [hexecutor, syntheticResult, ← foldl_map_simulate]
  rfl

theorem allHashable_simulateAll (h : AllHashable lib request.spans) :
    AllHashable lib (syntheticResult request).newSpans := by
  intro span' hspan'
  obtain ⟨span, hspan, rfl⟩ := List.mem_map.mp hspan'
  rcases simulateAll_cases request.cut.selectedActions span
    (fun action h ↦ List.mem_map_of_mem (f := RecoveryAction.targetComponent) h) with
    hsame | ⟨-, ⟨action, houtput⟩, -⟩
  · rw [hsame]
    exact h span hspan
  · rw [houtput]
    exact hashable_simulatedOutput action

/-- **A replay of what the cut targets validates**, as the synthetic one does, when the surroundings
are ready and the outputs can be hashed. -/
theorem obtainsValid_iff
    (hdefault : validator.divergenceValidator = validateDivergence lib.divergence)
    (hcapabilities : ∀ action ∈ request.cut.selectedActions, action.requiredCapability = none)
    (hids : HasSpanIds request.spans) :
    (∀ result, ReplaysTo lib validator request result →
      TargetsOnly request.intervened request.spans result.newSpans →
      (ObtainsValid lib times validator request ↔ Ready lib validator request ∧
        AllHashable lib request.spans ∧ AllHashable lib result.newSpans)) ∧
    (validator.executor = syntheticRecoveryReplayExecutor →
      (ObtainsValid lib times validator request ↔ Ready lib validator request ∧
        AllHashable lib request.spans)) := by
  refine ⟨fun result hreplay htargets ↦
    obtainsValid_iff_of_replaysTo hdefault hcapabilities hids hreplay htargets, fun hexecutor ↦ ?_⟩
  rw [obtainsValid_iff_of_replaysTo hdefault hcapabilities hids
    (replaysTo_syntheticResult hexecutor) (targetsOnly_simulateAll _ _)]
  exact and_congr_right' (and_iff_left_of_imp allHashable_simulateAll)

/-! ## Two traces -/

/-- A validator as it is constructed without arguments. -/
def defaultValidator : RecoveryValidator WholeFloat where
  verifier := ⟨[], []⟩
  divergenceValidator := validateDivergence wholeLibrary.divergence
  executor := syntheticRecoveryReplayExecutor

def rollback : RecoveryAction WholeFloat where
  actionId := "a"
  targetComponent := "retriever"
  actionType := "ROLLBACK"
  replacement := none
  changeCost := ⟨0⟩
  blastRadius := ⟨0⟩
  regressionRisk := ⟨0⟩
  expectedDowntime := ⟨0⟩
  reversibility := true
  requiredCapability := none
  metadata := []

/-- A retriever with an output is rolled back. -/
def rollbackRequest (output : Val WholeFloat) : ValidationRequest WholeFloat where
  cut := { ReplayEquivalenceEnvelope.emptyCut with selectedActions := [rollback] }
  invariants := []
  traceId := "t"
  originalSpans := some
    [[("span_id", .str "s"), ("component_type", .str "retriever"), ("output", output)]]
  accessContext := none
  exogenousVariables := none
  providedCapabilities := some []

/-- The surroundings are ready, and the actions and the spans are such as are asked for. -/
theorem ready_rollbackRequest (output : Val WholeFloat) :
    Ready wholeLibrary defaultValidator (rollbackRequest output) ∧
    (∀ action ∈ (rollbackRequest output).cut.selectedActions, action.requiredCapability = none) ∧
    HasSpanIds (rollbackRequest output).spans := by
  have hready : Ready wholeLibrary defaultValidator (rollbackRequest output) :=
    { context := fun h ↦ nomatch h.2
      allowed := fun h ↦ nomatch h.1
      secret := ⟨"s", rfl⟩
      exogenous := nofun }
  refine ⟨hready, fun action haction ↦ ?_, fun span hspan ↦ ?_⟩
  · rw [List.mem_singleton.mp haction]
    rfl
  · rw [List.mem_singleton.mp hspan]
    exact ⟨"s", rfl, by decide⟩

theorem obtainsValid_text : ObtainsValid wholeLibrary (fun _ ↦ 0) defaultValidator
    (rollbackRequest (.str "x")) := by
  obtain ⟨hready, hcapabilities, hids⟩ := ready_rollbackRequest (.str "x")
  refine ((obtainsValid_iff rfl hcapabilities hids).2 rfl).mpr ⟨hready, fun span hspan ↦ ?_⟩
  rw [List.mem_singleton.mp hspan]
  exact ⟨_, rfl⟩

/-- An output whose keys cannot be sorted is no output that can be hashed. -/
theorem not_obtainsValid_mixedKeys :
    TargetsOnly (rollbackRequest (.dict [(.int 1, .str "x"), (.str "b", .str "y")])).intervened
      (rollbackRequest (.dict [(.int 1, .str "x"), (.str "b", .str "y")])).spans
      (syntheticResult
        (rollbackRequest (.dict [(.int 1, .str "x"), (.str "b", .str "y")]))).newSpans ∧
    ¬ ObtainsValid wholeLibrary (fun _ ↦ 0) defaultValidator
      (rollbackRequest (.dict [(.int 1, .str "x"), (.str "b", .str "y")])) := by
  obtain ⟨-, hcapabilities, hids⟩ :=
    ready_rollbackRequest (.dict [(.int 1, .str "x"), (.str "b", .str "y")])
  refine ⟨targetsOnly_simulateAll _ _, fun h ↦ ?_⟩
  obtain ⟨-, hhashable, -⟩ := (obtainsValid_iff_of_replaysTo rfl hcapabilities hids
    (replaysTo_syntheticResult rfl) (targetsOnly_simulateAll _ _)).mp h
  obtain ⟨d, hd⟩ := hhashable _ (List.mem_singleton_self _)
  exact nomatch hd

end RecoveryValidator

end DriftGuardX.Validation
