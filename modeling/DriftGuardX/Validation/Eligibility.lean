import DriftGuardX.Validation.Validator

/-!
# Eligibility for a canary

What a result that is eligible says of the request. The stages come to a judgement exactly when each
of them passes (`stages_eq_ok_iff`), and the judgement is favourable exactly when nothing that was
measured speaks against it (`eligible_iff`). A metric that the replay does not report is passed
over, and the kind of the evidence is not put into the result, so that eligibility says of them only
what the replay happens to supply (`eligibilitySound_iff`).
-/

namespace DriftGuardX.Validation

open Json Bytes Transaction
open Memory (SignedCapability AccessContext CapabilityVerifier)
open Recovery (Raised Dict nonempty)

variable {F : Type}

namespace RecoveryValidator

variable [FloatText F] {lib : ValidationLibrary F} {times : ℕ → ℤ}
  {validator : RecoveryValidator F} {request : ValidationRequest F}

/-! ## The capabilities -/

/-- The capability that an action requires is in the context, by its id, and is accepted for the
action and its target. -/
def Authorized (lib : ValidationLibrary F) (validator : RecoveryValidator F)
    (request : ValidationRequest F) (now : ℤ) (action : RecoveryAction F) : Prop :=
  ∀ cap, action.requiredCapability = some cap → ∃ context, request.accessContext = some context ∧
    cap.capabilityId ∈ context.capabilities.map SignedCapability.capabilityId ∧
    CapabilityVerifier.verify lib.memory validator.verifier now cap.toSignedCapability context
      action.actionType action.targetComponent = .ok true

omit [FloatText F] in
theorem refuse_ne_ok {α : Type} {key text reason : String} {a : α} :
    (refuse key text reason : Except (Stop F) α) ≠ .ok a := nofun

omit [FloatText F] in
theorem authorizeAction_eq_ok_iff {now : ℤ} {action : RecoveryAction F} {u : Unit} :
    authorizeAction lib validator request now action = .ok u ↔
      Authorized lib validator request now action := by
  rw [authorizeAction, Authorized]
  cases hcap : action.requiredCapability with
  | none => simp
  | some cap =>
    simp only [Option.some.injEq, forall_eq']
    cases hcontext : request.accessContext with
    | none =>
      refine iff_of_false ?_ (by simp)
      split <;> exact refuse_ne_ok
    | some context =>
      have hids : request.providedIds = context.capabilities.map SignedCapability.capabilityId := by
        rw [ValidationRequest.providedIds, hcontext]
      simp only [hids, Option.some.injEq, exists_eq_left']
      split
      · rename_i habsent
        exact iff_of_false refuse_ne_ok fun h ↦ habsent h.1
      rename_i hpresent
      rw [not_not] at hpresent
      split
      · rename_i e hverify
        exact iff_of_false nofun fun h ↦ nomatch hverify.symm.trans h.2
      · rename_i hverify
        exact iff_of_false refuse_ne_ok fun h ↦ nomatch hverify.symm.trans h.2
      · rename_i hverify
        exact iff_of_true rfl ⟨hpresent, hverify⟩

omit [FloatText F] in
theorem authorize_eq_ok_iff (actions : List (RecoveryAction F)) {i : ℕ} {u : Unit} :
    authorize lib times validator request i actions = .ok u ↔ ∀ k action,
      actions[k]? = some action → Authorized lib validator request (times (i + k)) action := by
  induction actions generalizing i with
  | nil => exact iff_of_true rfl fun k action h ↦ nomatch h
  | cons action actions ih =>
    rw [authorize, bind_eq_ok_iff]
    constructor
    · rintro ⟨_, hfirst, hrest⟩ k other hother
      cases k with
      | zero =>
        obtain rfl := Option.some.inj hother
        exact authorizeAction_eq_ok_iff.mp hfirst
      | succ k =>
        have hauthorized := ih.mp hrest k other hother
        rwa [Nat.add_right_comm] at hauthorized
    · intro h
      refine ⟨(), authorizeAction_eq_ok_iff.mpr (h 0 action rfl), ih.mpr fun k other hother ↦ ?_⟩
      have hauthorized := h (k + 1) other hother
      rwa [← Nat.add_assoc, Nat.add_right_comm] at hauthorized

/-! ## The replay -/

omit [FloatText F] in
theorem replay_eq_ok_iff {envelope : ReplayEquivalenceEnvelope F}
    {result : RecoveryReplayResult F} : replay lib validator request envelope = .ok result ↔
      ¬ (lib.mode = some "production" ∧ validator.executor.isSynthetic = true) ∧
      validator.executor.replay request.cut envelope request.replayContext = .ok result ∧
      result.outcome = .success := by
  rw [replay]
  split
  · rename_i hforbidden
    exact iff_of_false refuse_ne_ok fun h ↦ h.1 hforbidden
  rename_i hallowed
  rw [and_iff_right hallowed]
  split
  · rename_i e hreplay
    exact iff_of_false refuse_ne_ok fun h ↦ nomatch hreplay.symm.trans h.1
  · rename_i other hreplay
    rw [hreplay, Except.ok.injEq]
    split
    · rename_i hsuccess
      rw [Except.ok.injEq]
      exact ⟨fun h ↦ ⟨h, h ▸ hsuccess⟩, fun h ↦ h.1⟩
    · rename_i hfailure
      exact iff_of_false refuse_ne_ok fun h ↦ hfailure (h.1 ▸ h.2)

/-- The replay of a request under its envelope, and the report on it. -/
structure Replayed (lib : ValidationLibrary F) (validator : RecoveryValidator F)
    (request : ValidationRequest F) (result : RecoveryReplayResult F)
    (report : DivergenceReport F) : Prop where
  allowed : ¬ (lib.mode = some "production" ∧ validator.executor.isSynthetic = true)
  replay : ∃ envelope, replayEnvelope lib request = .ok envelope ∧
    validator.executor.replay request.cut envelope request.replayContext = .ok result ∧
    validator.divergenceValidator [(request.spans, result.newSpans)] envelope = .ok report
  success : result.outcome = .success

theorem verifyEnvelopeHash_replayEnvelope {envelope : ReplayEquivalenceEnvelope F}
    (h : replayEnvelope lib request = .ok envelope) :
    ReplayEquivalenceEnvelope.verifyEnvelopeHash lib.envelope envelope = (.ok true, envelope) := by
  rw [replayEnvelope, bind_eq_ok_iff] at h
  obtain ⟨frozen, -, hconstruct⟩ := h
  exact ReplayEquivalenceEnvelope.verifyEnvelopeHash_of_construct hconstruct

/-- The stages come to a judgement when there is a context, the actions are authorized and the cut
is replayed. -/
theorem stages_eq_ok_iff {result : RecoveryReplayResult F} {report : DivergenceReport F} :
    stages lib times validator request = .ok (result, report) ↔
      ¬ (request.accessContext = none ∧ request.providedCapabilities = none) ∧
      (∀ i action, request.cut.selectedActions[i]? = some action →
        Authorized lib validator request (times i) action) ∧
      Replayed lib validator request result report := by
  rw [stages]
  split
  · rename_i hnone
    exact iff_of_false refuse_ne_ok fun h ↦ h.1 hnone
  rename_i hcontext
  rw [and_iff_right hcontext]
  simp only [bind_eq_ok_iff, authorize_eq_ok_iff, Nat.zero_add, mapError_eq_ok_iff]
  constructor
  · rintro ⟨_, hauthorized, envelope, henvelope, h⟩
    rw [verifyEnvelopeHash_replayEnvelope henvelope] at h
    simp only [bind_eq_ok_iff, mapError_eq_ok_iff] at h
    obtain ⟨other, hreplay, other', hreport, heq⟩ := h
    obtain ⟨rfl, rfl⟩ := Prod.mk.inj (pure_eq_ok_iff.mp heq)
    obtain ⟨hallowed, hreplayed, hsuccess⟩ := replay_eq_ok_iff.mp hreplay
    exact ⟨hauthorized, hallowed, ⟨envelope, henvelope, hreplayed, hreport⟩, hsuccess⟩
  · rintro ⟨hauthorized, hallowed, ⟨envelope, henvelope, hreplayed, hreport⟩, hsuccess⟩
    refine ⟨(), hauthorized, envelope, henvelope, ?_⟩
    rw [verifyEnvelopeHash_replayEnvelope henvelope]
    simp only [bind_eq_ok_iff, mapError_eq_ok_iff]
    exact ⟨result, replay_eq_ok_iff.mpr ⟨hallowed, hreplayed, hsuccess⟩, report, hreport, rfl⟩

/-! ## Eligible results -/

/-- What has to hold of a request, its replay and the report on it for a result to be eligible. -/
structure PassesGates (lib : ValidationLibrary F) (times : ℕ → ℤ) (validator : RecoveryValidator F)
    (request : ValidationRequest F) (result : RecoveryReplayResult F)
    (report : DivergenceReport F) : Prop where
  context : ¬ (request.accessContext = none ∧ request.providedCapabilities = none)
  authorized : ∀ i action, request.cut.selectedActions[i]? = some action →
    Authorized lib validator request (times i) action
  resolved : request.cut.residualFailurePaths = []
  replayed : Replayed lib validator request result report
  controlled : result.evidenceKind ≠ .syntheticSimulation
  valid : report.valid = true
  bounded : ∀ inv ∈ request.invariants, ∀ measured, Dict.get? result.metrics inv.metric
    = some measured → FloatText.lt (bound lib inv) measured = false

theorem exceeds_eq_false_iff {metrics : List (String × F)} {inv : RecoveryInvariant F} :
    exceeds lib metrics inv = false ↔ ∀ measured, Dict.get? metrics inv.metric = some measured →
      FloatText.lt (bound lib inv) measured = false := by
  rw [exceeds]
  cases Dict.get? metrics inv.metric <;> simp

theorem judge_eligible_iff {result : RecoveryReplayResult F} {report : DivergenceReport F} :
    (judge lib times request result report).eligibleForCanary = true ↔
      request.cut.residualFailurePaths = [] ∧ result.evidenceKind ≠ .syntheticSimulation ∧
      report.valid = true ∧ ∀ inv ∈ request.invariants, ∀ measured,
        Dict.get? result.metrics inv.metric = some measured →
        FloatText.lt (bound lib inv) measured = false := by
  simp only [← exceeds_eq_false_iff, judge, Bool.and_eq_true, Bool.not_eq_true', decide_eq_true_eq,
    List.any_eq_false, Bool.not_eq_true]
  tauto

theorem validateCut_eligible_iff {r : RecoveryValidationResult F} :
    validateCut lib times validator request = .ok r ∧ r.eligibleForCanary = true ↔
      ∃ result report, PassesGates lib times validator request result report ∧
        r = judge lib times request result report := by
  rw [validateCut]
  constructor
  · rintro ⟨h, heligible⟩
    split at h
    · rename_i result report hstages
      obtain rfl := Except.ok.inj h
      obtain ⟨hcontext, hauthorized, hreplayed⟩ := stages_eq_ok_iff.mp hstages
      obtain ⟨hresolved, hcontrolled, hvalid, hbounded⟩ := judge_eligible_iff.mp heligible
      exact ⟨result, report, ⟨hcontext, hauthorized, hresolved, hreplayed, hcontrolled, hvalid,
        hbounded⟩, rfl⟩
    · obtain rfl := Except.ok.inj h
      exact nomatch heligible
    · exact nomatch h
  · rintro ⟨result, report, hgates, rfl⟩
    rw [stages_eq_ok_iff.mpr ⟨hgates.context, hgates.authorized, hgates.replayed⟩]
    exact ⟨rfl, judge_eligible_iff.mpr
      ⟨hgates.resolved, hgates.controlled, hgates.valid, hgates.bounded⟩⟩

/-! ## What eligibility says -/

/-- The metric of an invariant is measured, and is at most its bound. -/
def Satisfies (lib : ValidationLibrary F) (metrics : List (String × F))
    (inv : RecoveryInvariant F) : Prop :=
  ∃ measured, Dict.get? metrics inv.metric = some measured ∧ lib.le measured (bound lib inv) = true

/-- `is_synthetic`: a fixture counts as synthetic, though the validator lets it pass. -/
def isSynthetic : Policy.EvidenceClassification → Bool
  | .syntheticSimulation | .testFixture => true
  | _ => false

/-- What a result that is eligible promises. -/
structure Sound (lib : ValidationLibrary F) (times : ℕ → ℤ) (validator : RecoveryValidator F)
    (request : ValidationRequest F) (r : RecoveryValidationResult F) : Prop where
  resolved : request.cut.residualFailurePaths = []
  authorized : ∀ i action, request.cut.selectedActions[i]? = some action →
    Authorized lib validator request (times i) action
  replayed : ∃ result report, Replayed lib validator request result report ∧
    isSynthetic result.evidenceKind = false ∧ report.valid = true ∧
    (∀ inv ∈ request.invariants, Satisfies lib result.metrics inv) ∧
    r.evidenceClass = result.evidenceKind

/-- Every eligible result of the request keeps its promise. -/
def EligibilitySound (lib : ValidationLibrary F) (times : ℕ → ℤ) (validator : RecoveryValidator F)
    (request : ValidationRequest F) : Prop :=
  ∀ r, validateCut lib times validator request = .ok r → r.eligibleForCanary = true →
    Sound lib times validator request r

theorem Replayed.unique {result result' : RecoveryReplayResult F}
    {report report' : DivergenceReport F} (h : Replayed lib validator request result report)
    (h' : Replayed lib validator request result' report') :
    result = result' ∧ report = report' := by
  obtain ⟨envelope, henvelope, hreplay, hreport⟩ := h.replay
  obtain ⟨envelope', henvelope', hreplay', hreport'⟩ := h'.replay
  obtain rfl := Except.ok.inj (henvelope.symm.trans henvelope')
  obtain rfl := Except.ok.inj (hreplay.symm.trans hreplay')
  exact ⟨rfl, Except.ok.inj (hreport.symm.trans hreport')⟩

/-- The kind that is reported is the default. -/
theorem kind_of_eligibilitySound (h : EligibilitySound lib times validator request)
    {result : RecoveryReplayResult F} {report : DivergenceReport F}
    (hgates : PassesGates lib times validator request result report) :
    result.evidenceKind = .unverified ∧ ∀ inv ∈ request.invariants,
      Satisfies lib result.metrics inv := by
  obtain ⟨hvalidate, heligible⟩ := validateCut_eligible_iff.mpr ⟨result, report, hgates, rfl⟩
  obtain ⟨result', report', hreplayed, -, -, hsatisfies, hclass⟩ :=
    (h _ hvalidate heligible).replayed
  obtain ⟨rfl, rfl⟩ := hgates.replayed.unique hreplayed
  exact ⟨hclass.symm, hsatisfies⟩

/-- The replay of a local pipeline reports no metrics but two, and its evidence is of a kind that no
result says. -/
theorem not_eligibilitySound_of_localPipeline {toFloat : Val F → Except Raised F}
    {sandbox : CausalRecoveryCut F → ReplayEquivalenceEnvelope F → ReplayContext F →
      Except Raised (PipelineReply F)}
    (hexecutor : validator.executor = localPipelineRecoveryReplayExecutor toFloat sandbox)
    {result : RecoveryReplayResult F} {report : DivergenceReport F}
    (hgates : PassesGates lib times validator request result report) :
    result.metrics.map Prod.fst = ["regression_count", "blast_radius"] ∧
    ¬ EligibilitySound lib times validator request := by
  obtain ⟨envelope, -, hreplay, -⟩ := hgates.replayed.replay
  have hsuccess := hgates.replayed.success
  rw [hexecutor, localPipelineRecoveryReplayExecutor] at hreplay
  simp only at hreplay
  split at hreplay
  · rw [← Except.ok.inj hreplay] at hsuccess
    exact absurd hsuccess (by simp)
  · obtain rfl := Except.ok.inj hreplay
    simp only at hsuccess
    split at hsuccess
    · exact absurd hsuccess (by simp)
    · exact absurd hsuccess (by simp)
  · simp only [bind_eq_ok_iff, pure_eq_ok_iff] at hreplay
    obtain ⟨regressionCount, -, blastRadius, -, rfl⟩ := hreplay
    exact ⟨rfl, fun h ↦ absurd (kind_of_eligibilitySound h hgates).1 (by simp)⟩

/-- **What eligibility is worth.** A result that passes every gate keeps its promise exactly when
the replay has unverified evidence and reports, for every invariant, a metric that compares with its
bound. -/
theorem eligibilitySound_iff : EligibilitySound lib times validator request ↔
    ∀ result report, PassesGates lib times validator request result report →
      result.evidenceKind = .unverified ∧ ∀ inv ∈ request.invariants, ∃ measured,
        Dict.get? result.metrics inv.metric = some measured ∧
        (lib.le measured (bound lib inv) = true ∨
          FloatText.lt (bound lib inv) measured = true) := by
  constructor
  · intro h result report hgates
    obtain ⟨hkind, hsatisfies⟩ := kind_of_eligibilitySound h hgates
    refine ⟨hkind, fun inv hinv ↦ ?_⟩
    obtain ⟨measured, hmeasured, hle⟩ := hsatisfies inv hinv
    exact ⟨measured, hmeasured, .inl hle⟩
  · intro h r hvalidate heligible
    obtain ⟨result, report, hgates, rfl⟩ := validateCut_eligible_iff.mp ⟨hvalidate, heligible⟩
    obtain ⟨hkind, hmeasures⟩ := h result report hgates
    refine ⟨hgates.resolved, hgates.authorized, result, report, hgates.replayed, hkind ▸ rfl,
      hgates.valid, fun inv hinv ↦ ?_, hkind.symm⟩
    obtain ⟨measured, hmeasured, hle | hlt⟩ := hmeasures inv hinv
    · exact ⟨measured, hmeasured, hle⟩
    · exact absurd hlt (by rw [hgates.bounded inv hinv measured hmeasured]; exact nofun)

end RecoveryValidator

/-! ## A metric that is not reported -/

open Policy ReplayEquivalenceEnvelope in
def wholeLibrary : ValidationLibrary WholeFloat where
  memory := Memory.latin1Memory
  envelope := decimalLibrary
  divergence :=
    { sha256 := latin1
      str := id
      strList := ", ".intercalate
      isZero x := x.value = 0
      dumpsError _ := ""
      idError _ := ⟨.typeError, ""⟩
      rule _ _ _ _ := .ok (true, "") }
  mode := none
  one := ⟨1⟩
  add x y := ⟨x.value + y.value⟩
  le x y := x.value ≤ y.value
  fixed4 x := String.ofList (FloatText.repr x)

namespace RecoveryValidator

def wholeOfVal : Val WholeFloat → Except Raised WholeFloat
  | .float x => .ok x
  | _ => .error ⟨.typeError, ""⟩

/-- A validator that replays in a pipeline which returns nothing. -/
def idlePipeline : RecoveryValidator WholeFloat where
  verifier := ⟨[], []⟩
  divergenceValidator := validateDivergence wholeLibrary.divergence
  executor := localPipelineRecoveryReplayExecutor wholeOfVal fun _ _ _ ↦ .ok (.completed [] [])

/-- A cut that selects nothing, with an invariant on the accuracy. -/
def accuracyRequest : ValidationRequest WholeFloat where
  cut := ReplayEquivalenceEnvelope.emptyCut
  invariants := [⟨"i", "s", "accuracy", ⟨0⟩, ⟨0⟩, "high", "e"⟩]
  traceId := "t"
  originalSpans := none
  accessContext := none
  exogenousVariables := none
  providedCapabilities := some []

/-- The reply of the pipeline. -/
def idleResult : RecoveryReplayResult WholeFloat where
  outcome := .success
  evidenceKind := .realControlledExperiment
  newSpans := []
  metrics := [("regression_count", ⟨0⟩), ("blast_radius", ⟨0⟩)]

theorem exists_replayEnvelope_accuracyRequest :
    ∃ envelope, replayEnvelope wholeLibrary accuracyRequest = .ok envelope := by
  have hsecret : nonempty wholeLibrary.envelope.secret = some "s" := rfl
  have hfrozen : frozenVariables wholeLibrary accuracyRequest = .ok [] := rfl
  have hwritten : ∃ d, toDoc true (envelopeOf accuracyRequest []).payload = some d := ⟨_, rfl⟩
  obtain ⟨mac, hmac⟩ := (ReplayEquivalenceEnvelope.exists_mac_iff hsecret).mpr hwritten
  rw [replayEnvelope, hfrozen, ok_bind]
  exact ⟨_, ReplayEquivalenceEnvelope.construct_eq_ok_iff.mpr ⟨mac, hmac, rfl⟩⟩

theorem exists_replayed_accuracyRequest : ∃ report, report.valid = true ∧
    Replayed wholeLibrary idlePipeline accuracyRequest idleResult report := by
  obtain ⟨envelope, henvelope⟩ := exists_replayEnvelope_accuracyRequest
  obtain ⟨report, hreport⟩ : ∃ report,
      validateDivergence wholeLibrary.divergence [([], [])] envelope = .ok report := ⟨_, rfl⟩
  exact ⟨report, valid_of_validateDivergence hreport,
    { allowed := fun h ↦ nomatch h.1
      replay := ⟨envelope, henvelope, rfl, hreport⟩
      success := rfl }⟩

/-- The result is eligible although the accuracy is not measured, and its evidence is not called by
its kind. -/
theorem not_eligibilitySound_accuracyRequest : ∃ r report,
    validateCut wholeLibrary (fun _ ↦ 0) idlePipeline accuracyRequest = .ok r ∧
    r.eligibleForCanary = true ∧
    Replayed wholeLibrary idlePipeline accuracyRequest idleResult report ∧
    Dict.get? idleResult.metrics "accuracy" = none ∧ r.evidenceClass ≠ idleResult.evidenceKind ∧
    ¬ EligibilitySound wholeLibrary (fun _ ↦ 0) idlePipeline accuracyRequest := by
  obtain ⟨report, hvalid, hreplayed⟩ := exists_replayed_accuracyRequest
  have hgates : PassesGates wholeLibrary (fun _ ↦ 0) idlePipeline accuracyRequest idleResult
      report :=
    { context := fun h ↦ nomatch h.2
      authorized := fun _ _ h ↦ nomatch h
      resolved := rfl
      replayed := hreplayed
      controlled := nofun
      valid := hvalid
      bounded := by simp [accuracyRequest, idleResult, Dict.get?] }
  obtain ⟨hvalidate, heligible⟩ := validateCut_eligible_iff.mpr ⟨_, report, hgates, rfl⟩
  have hexecutor : idlePipeline.executor = localPipelineRecoveryReplayExecutor wholeOfVal
    fun _ _ _ ↦ .ok (.completed [] []) := rfl
  exact ⟨_, report, hvalidate, heligible, hreplayed, rfl, nofun,
    (not_eligibilitySound_of_localPipeline hexecutor hgates).2⟩

end RecoveryValidator

end DriftGuardX.Validation
