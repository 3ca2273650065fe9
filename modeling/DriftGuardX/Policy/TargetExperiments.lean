import DriftGuardX.Policy.TransportConditions
import DriftGuardX.Replay.ExperimentPlanner
import Mathlib.Algebra.Field.Rat
import Mathlib.Algebra.Order.Ring.Rat
import Mathlib.Data.Nat.Log
import Mathlib.Tactic.NormNum

/-!
# The experiments of a target validation

When the target has to be validated, the gate asks the experiment planner for an experiment for each
unknown condition. The beliefs that it passes are about the ids of the candidates, whereas the
interventions are on the conditions. No condition is such an id, so every outcome is as likely under
one belief as under another, nothing is expected of any experiment, and the planner selects none
(`not_coversUnknown`).
-/

namespace DriftGuardX.Policy

open Json Replay
open Incident (ResourceContext)
open Recovery (nonempty)
open Transaction (bind_eq_ok_iff)

/-- An experiment that is required of the target. -/
structure TargetExperiment (K : Type) where
  targetVariable : String
  type : String
  expectedEig : K

/-! ## What the gate asks of the planner -/

/-- The id of a candidate experiment. -/
def candidateId (i : ℕ) : String := "transport_exp_" ++ toString i

def candidateExperiments (unknown : List String) : List (ExperimentCandidate ℚ) :=
  unknown.zipIdx.map fun m ↦
    { candidateId := some (candidateId m.2)
      id := none
      targetVariable := some m.1
      nodeId := none
      type := some "causal_intervention"
      estimatedCostUsd := none
      regressionRisk := none }

section Planning

variable {K : Type} [Field K] [LinearOrder K]

/-- The belief state that the gate builds. The ids of the candidates are distinct. -/
def targetBeliefs (candidates : List (ExperimentCandidate ℚ)) : List (String × K) :=
  candidates.map fun c ↦ (c.key, 1 / (max 1 candidates.length : ℕ))

/-- What is selected of the candidates; it raises when the planner does, or when a candidate has no
target. -/
def selectExperiments (log2 : K → K) (reservationIds : ℕ → String) (recoveryId : String)
    (unknown : List String) : Option (List (TargetExperiment K)) :=
  let candidates := candidateExperiments unknown
  let resourceContext : ResourceContext ℚ := .new (unknown.length * (1 / 10)) 300
  let selected := selectMinimumExperiments recoveryId candidates (.default log2)
    (targetBeliefs candidates) (some resourceContext) unknown.length reservationIds
  selected.toOption.bind fun selected ↦ selected.mapM fun e ↦
    e.candidate.targetVariable.map fun target ↦ ⟨target, "causal_intervention", e.expectedEig⟩

/-- The experiments for some unknown conditions. The planner is handed an envelope, which cannot be
made without a secret; the planner does not look at it. -/
def planExperiments (secret : Option String) (log2 : K → K) (reservationIds : ℕ → String)
    (recoveryId : String) (unknown : List String) : Option (List (TargetExperiment K)) :=
  if nonempty secret = none then none else selectExperiments log2 reservationIds recoveryId unknown

/-- The library, with the planner of the repository. -/
def TransportLibrary.withPlanner {F E : Type} (lib : TransportLibrary F E) (log2 : K → K)
    (reservationIds : ℕ → String) : TransportLibrary F (TargetExperiment K) :=
  { lib with plan := planExperiments lib.capabilitySecret log2 reservationIds }

end Planning

/-! ## What the planner answers -/

section Answer

variable {K : Type} [Field K] [LinearOrder K] [IsStrictOrderedRing K] {log2 : K → K}
  {reservationIds : ℕ → String} {unknown : List String}

theorem length_candidateExperiments : (candidateExperiments unknown).length = unknown.length := by
  rw [candidateExperiments, List.length_map, List.length_zipIdx]

omit [LinearOrder K] [IsStrictOrderedRing K] in
theorem fst_of_mem_targetBeliefs {belief : String × K}
    (h : belief ∈ targetBeliefs (candidateExperiments unknown)) :
    ∃ i, belief.1 = candidateId i := by
  obtain ⟨c, hc, rfl⟩ := List.mem_map.mp h
  obtain ⟨m, -, rfl⟩ := List.mem_map.mp hc
  exact ⟨m.2, rfl⟩

theorem isDistribution_targetBeliefs (hne : unknown ≠ []) :
    (⟨targetBeliefs (candidateExperiments unknown)⟩ : RootCauseBeliefModel K).IsDistribution := by
  have hpos : 0 < unknown.length := List.length_pos_iff.mpr hne
  have hcount : ((unknown.length : ℕ) : K) ≠ 0 := Nat.cast_ne_zero.mpr hpos.ne'
  constructor
  · intro belief hbelief
    obtain ⟨c, -, rfl⟩ := List.mem_map.mp hbelief
    exact one_div_nonneg.mpr (Nat.cast_nonneg _)
  · have hlength : (candidateExperiments unknown).length = unknown.length :=
      length_candidateExperiments
    have hvalues : (targetBeliefs (candidateExperiments unknown)).map Prod.snd
        = List.replicate unknown.length (1 / (unknown.length : K)) := by
      rw [targetBeliefs, length_candidateExperiments, max_eq_right (Nat.succ_le_of_lt hpos),
        List.map_map, ← hlength]
      exact List.map_const' ..
    rw [hvalues, List.sum_replicate, nsmul_eq_mul, mul_one_div_cancel hcount]

omit [LinearOrder K] [IsStrictOrderedRing K] in
/-- Without a graph, what an intervention on another node leads to does not depend on the cause. -/
theorem estimateLikelihood_of_ne {node cause : String} (h : node ≠ cause)
    (outcome : InterventionOutcome) :
    TopologicalLikelihoodEstimator.withoutEdges.estimateLikelihood node cause outcome
      = TopologicalLikelihoodEstimator.likelihoods (1 / 10 : K) (9 / 10) outcome := by
  rw [TopologicalLikelihoodEstimator.estimateLikelihood, if_neg h]
  exact (if_neg List.not_mem_nil).trans (if_neg List.not_mem_nil)

/-- Nothing is expected of an intervention on what is no id of a candidate. -/
theorem expectedInformationGain_targetBeliefs (hlog : ∀ p, 0 < p → p ≤ 1 → log2 p ≤ 0)
    (hne : unknown ≠ []) {node : String} (hnode : ∀ i, node ≠ candidateId i) :
    (RootCauseBeliefModel.expectedInformationGain log2
      ⟨targetBeliefs (candidateExperiments unknown)⟩ node
      TopologicalLikelihoodEstimator.withoutEdges.estimateLikelihood).1 = 0 := by
  refine RootCauseBeliefModel.expectedInformationGain_eq_zero hlog
    (isDistribution_targetBeliefs hne)
    (l := TopologicalLikelihoodEstimator.likelihoods (1 / 10) (9 / 10)) ?_ ?_ ?_
  · intro outcome
    cases outcome <;> simp only [TopologicalLikelihoodEstimator.likelihoods] <;> norm_num
  · simp only [TopologicalLikelihoodEstimator.likelihoods]
    norm_num
  · intro outcome belief hbelief
    obtain ⟨i, hid⟩ := fst_of_mem_targetBeliefs hbelief
    exact estimateLikelihood_of_ne (hid ▸ hnode i) outcome

omit [IsStrictOrderedRing K] in
theorem exists_score {beliefs : List (String × K)} {c : ExperimentCandidate ℚ}
    (hc : c ∈ candidateExperiments unknown) :
    ∃ s, (ExperimentPlanner.default log2).score beliefs c = .ok s := by
  obtain ⟨m, -, rfl⟩ := List.mem_map.mp hc
  have hzero : Incident.PyFloat.isZero ((ExperimentPlanner.default log2).denominator (1 / 20) (1 / 2)
      (1 / 2 * (1 / 2))) = false := by
    refine decide_eq_false ?_
    change ¬ (1 / 20 * 1 + 1 / 2 * (3 / 2) + 1 / 2 * (1 / 2) * 2 + 1 / 100000000 : ℚ) = 0
    norm_num
  have hutility : ∀ eig, ∃ u, (ExperimentPlanner.default log2).utility eig (1 / 20) (1 / 2)
      (1 / 2 * (1 / 2)) = .ok u := fun eig ↦ ⟨_, if_neg (Bool.eq_false_iff.mp hzero)⟩
  obtain ⟨u, hu⟩ := hutility ((ExperimentPlanner.default log2).informationGain beliefs m.1)
  exact ⟨_, bind_eq_ok_iff.mpr ⟨1 / 20, rfl, bind_eq_ok_iff.mpr ⟨1 / 2 * (1 / 2), rfl,
    bind_eq_ok_iff.mpr ⟨u, hu, rfl⟩⟩⟩⟩

omit [IsStrictOrderedRing K] in
theorem exists_selectExperiments (reservationIds : ℕ → String) (recoveryId : String) :
    ∃ experiments, selectExperiments log2 reservationIds recoveryId unknown = some experiments := by
  have htargets : ∀ selected : List (PlannedExperiment ℚ K ℚ),
      (∀ e ∈ selected, e.candidate ∈ candidateExperiments unknown) →
      ∃ experiments : List (TargetExperiment K), (selected.mapM fun e ↦
        e.candidate.targetVariable.map fun target ↦
          (⟨target, "causal_intervention", e.expectedEig⟩ : TargetExperiment K))
        = some experiments := by
    intro selected
    induction selected with
    | nil => exact fun _ ↦ ⟨[], rfl⟩
    | cons e selected ih =>
      intro hmem
      obtain ⟨he, hrest⟩ := List.forall_mem_cons.mp hmem
      obtain ⟨experiments, hexperiments⟩ := ih hrest
      obtain ⟨m, -, hcandidate⟩ := List.mem_map.mp he
      refine ⟨⟨m.1, "causal_intervention", e.expectedEig⟩ :: experiments, ?_⟩
      rw [List.mapM_cons, hexperiments, ← hcandidate]
      rfl
  obtain ⟨selected, hselected⟩ : ∃ selected, selectMinimumExperiments recoveryId
      (candidateExperiments unknown) (.default log2) (targetBeliefs (candidateExperiments unknown))
      (some (.new (unknown.length * (1 / 10)) 300)) unknown.length reservationIds = .ok selected :=
    exists_selectLoop (fun c hc ↦ exists_score hc) _
  rw [selectExperiments, hselected]
  exact htargets selected (candidate_mem_of_mem_selectLoop hselected)

omit [IsStrictOrderedRing K] in
theorem planExperiments_eq_none_iff {secret : Option String} {recoveryId : String} :
    planExperiments secret log2 reservationIds recoveryId unknown = none ↔
      nonempty secret = none := by
  rw [planExperiments]
  split_ifs with hsecret
  · exact iff_of_true rfl hsecret
  · obtain ⟨experiments, hexperiments⟩ : ∃ experiments,
        selectExperiments log2 reservationIds recoveryId unknown = some experiments :=
      exists_selectExperiments reservationIds recoveryId
    exact iff_of_false (by simp [hexperiments]) hsecret

/-- **No experiments.** The planner selects nothing for conditions that are no ids of candidates. -/
theorem selectExperiments_eq_nil (hlog : ∀ p, 0 < p → p ≤ 1 → log2 p ≤ 0)
    (hids : ∀ c ∈ unknown, ∀ i, c ≠ candidateId i) (reservationIds : ℕ → String)
    (recoveryId : String) : selectExperiments log2 reservationIds recoveryId unknown = some [] := by
  have hlow : unknown ≠ [] → ∀ c ∈ candidateExperiments unknown,
      PlannerArithmetic.lt ℚ ((ExperimentPlanner.default log2).informationGain
        (targetBeliefs (candidateExperiments unknown)) c.targetNode)
        (ExperimentPlanner.default log2).minEigThreshold = true := by
    intro hne c hc
    obtain ⟨m, hm, rfl⟩ := List.mem_map.mp hc
    have hgain := expectedInformationGain_targetBeliefs hlog hne
      (hids m.1 (List.fst_mem_of_mem_zipIdx hm))
    refine decide_eq_true (hgain.trans_lt ?_)
    exact Rat.cast_pos.mpr (by norm_num)
  by_cases hne : unknown = []
  · subst hne
    rfl
  · have hbeliefs : (targetBeliefs (candidateExperiments unknown) : List (String × K)) ≠ [] := by
      rw [targetBeliefs, ne_eq, List.map_eq_nil_iff, ← List.length_eq_zero_iff,
        length_candidateExperiments, List.length_eq_zero_iff]
      exact hne
    rw [selectExperiments, selectMinimumExperiments, if_neg (by simpa using hbeliefs),
      selectLoop_eq_nil (fun c hc ↦ exists_score hc) (hlow hne)]
    rfl

end Answer

/-! ## Unknown conditions -/

section Unknown

variable {F E : Type} [FloatText F] {lib : TransportLibrary F E}
  {src tgt : CausalEnvironmentDescriptor F} {footprint : RecoveryMechanismFootprint F}

theorem take_candidateId (i : ℕ) : (candidateId i).toList.take 2 = ['t', 'r'] := by
  change ("transport_exp_" ++ toString i).toList.take 2 = ['t', 'r']
  rw [String.toList_append]
  rfl

theorem ne_candidateId_of_unknown {c : String}
    (h : c ∈ (judgeDifferences footprint (findDifferences lib src tgt footprint)).unknown) (i : ℕ) :
    c ≠ candidateId i := by
  have hbegin : c.toList.take 2 ≠ ['t', 'r'] := by
    rcases List.mem_append.mp h with h | h
    · have hunder : c ∈ (evaluateFootprintInvariants footprint
          (findDifferences lib src tgt footprint)).under (some .unknown) := h
      obtain ⟨r, hr, name, -, -, rfl⟩ := mem_evaluateFootprintInvariants_iff.mp hunder
      have hkinds : ∀ kind ∈ kinds, ∀ text, (kind.toList ++ text).take 2 ≠ ['t', 'r'] := by
        simp [kinds]
      rw [label, String.toList_append, String.toList_append, List.append_assoc]
      exact hkinds r.kind (kind_mem hr) _
    · obtain ⟨d, hd, rfl⟩ := List.mem_map.mp (List.mem_of_mem_filter h)
      have hvariables : ∀ var ∈ environmentVariables, var.toList.take 2 ≠ ['t', 'r'] := by decide
      exact hvariables d.var (of_mem_findDifferences hd).1
  intro heq
  exact hbegin (heq ▸ take_candidateId i)

end Unknown

/-! ## The decision -/

section Decision

variable {F E K : Type} [FloatText F] [Field K] [LinearOrder K] {log2 : K → K}
  {reservationIds : ℕ → String} {lib : TransportLibrary F E} {key : String}
  {src tgt : CausalEnvironmentDescriptor F} {footprint : RecoveryMechanismFootprint F}
  {allowCrossTenant : Bool}

/-- There is an experiment, and each unknown condition is the target of one. -/
def CoversUnknown (decision : TransportabilityDecision (TargetExperiment K)) : Prop :=
  decision.requiredTargetExperiments ≠ [] ∧
    ∀ c ∈ decision.unknownConditions,
      ∃ e ∈ decision.requiredTargetExperiments, e.targetVariable = c

omit [FloatText F] in
theorem fields_of_buildDecision {status : TransportStatus} {conditions : Conditions}
    {explanation : String} {decision : TransportabilityDecision E}
    (h : buildDecision lib src tgt footprint status conditions explanation = some decision) :
    decision.violatedConditions = conditions.violated ∧
      decision.preservedConditions = conditions.preserved ∧
      decision.unknownConditions = conditions.unknown ∧
      targetExperiments lib footprint.recoveryId status conditions.unknown
        = some decision.requiredTargetExperiments := by
  obtain ⟨experiments, hexperiments, rfl⟩ := Option.map_eq_some_iff.mp h
  exact ⟨rfl, rfl, rfl, hexperiments⟩

/-- The gate raises on admitted descriptors when it cannot plan experiments that are due. -/
theorem evaluateTransportability_eq_none_iff
    (h : Admitted (lib.withPlanner log2 reservationIds) key src tgt allowCrossTenant) :
    let differences := findDifferences (lib.withPlanner log2 reservationIds) src tgt footprint
    evaluateTransportability (lib.withPlanner log2 reservationIds) key src tgt footprint
        allowCrossTenant = none ↔
      nonempty lib.capabilitySecret = none ∧
        (finalStatus (lib.withPlanner log2 reservationIds) differences
          (judgeDifferences footprint differences)).1 = .targetValidationRequired := by
  intro differences
  rw [evaluateTransportability_of_admitted h]
  change buildDecision _ _ _ _ _ _ _ = none ↔ _
  rw [buildDecision, Option.map_eq_none_iff, targetExperiments]
  split_ifs with hstatus
  · refine planExperiments_eq_none_iff.trans ?_
    exact (and_iff_left hstatus).symm
  · exact iff_of_false (by simp) fun hnone ↦ hstatus hnone.2

/-- A decision on admitted descriptors has what the differences lead to. -/
theorem fields_of_evaluateTransportability {decision : TransportabilityDecision E}
    (h : Admitted lib key src tgt allowCrossTenant)
    (hdecision : evaluateTransportability lib key src tgt footprint allowCrossTenant
      = some decision) :
    let differences := findDifferences lib src tgt footprint
    let conditions := judgeDifferences footprint differences
    decision.status = (finalStatus lib differences conditions).1 ∧
      decision.violatedConditions = conditions.violated ∧
      decision.preservedConditions = conditions.preserved ∧
      decision.unknownConditions = conditions.unknown := by
  intro differences conditions
  rw [evaluateTransportability_of_admitted h] at hdecision
  obtain ⟨hviolated, hpreserved, hunknown, -⟩ := fields_of_buildDecision hdecision
  exact ⟨status_of_buildDecision hdecision, hviolated, hpreserved, hunknown⟩

variable (footprint) in
theorem exists_decision (hsecret : nonempty lib.capabilitySecret ≠ none)
    (h : Admitted (lib.withPlanner log2 reservationIds) key src tgt allowCrossTenant) :
    ∃ decision, evaluateTransportability (lib.withPlanner log2 reservationIds) key src tgt footprint
      allowCrossTenant = some decision :=
  Option.ne_none_iff_exists'.mp fun hnone ↦
    hsecret ((evaluateTransportability_eq_none_iff h).mp hnone).1

omit [FloatText F] in
theorem finalStatus_eq_validation {differences : List EnvironmentDifference} {c : Conditions}
    (h : (finalStatus lib differences c).1 = .targetValidationRequired) :
    c.violated = [] ∧ c.unknown ≠ [] := by
  rw [finalStatus] at h
  split_ifs at h with hviolated hunknown
  exact ⟨not_not.mp hviolated, hunknown⟩

variable [IsStrictOrderedRing K]

/-- A target that has to be validated has unknown conditions, and no experiments. -/
theorem experiments_of_validation (hlog : ∀ p, 0 < p → p ≤ 1 → log2 p ≤ 0)
    {decision : TransportabilityDecision (TargetExperiment K)}
    (hdecision : evaluateTransportability (lib.withPlanner log2 reservationIds) key src tgt footprint
      allowCrossTenant = some decision)
    (hstatus : decision.status = .targetValidationRequired) :
    decision.unknownConditions ≠ [] ∧ decision.requiredTargetExperiments = [] := by
  have hadmitted := admitted_of_status hdecision (by simp [hstatus]) (by simp [hstatus])
  rw [evaluateTransportability_of_admitted hadmitted] at hdecision
  have hfinal := (status_of_buildDecision hdecision).symm.trans hstatus
  obtain ⟨-, -, hunknown, hexperiments⟩ := fields_of_buildDecision hdecision
  rw [hfinal, targetExperiments, if_pos rfl] at hexperiments
  have hids : ∀ c ∈ (judgeDifferences footprint (findDifferences
      (lib.withPlanner log2 reservationIds) src tgt footprint)).unknown, ∀ i, c ≠ candidateId i :=
    fun c hc ↦ ne_candidateId_of_unknown hc
  change planExperiments _ _ _ _ _ = _ at hexperiments
  rw [planExperiments, selectExperiments_eq_nil hlog hids] at hexperiments
  split_ifs at hexperiments
  refine ⟨?_, (Option.some.inj hexperiments).symm⟩
  rw [hunknown]
  exact (finalStatus_eq_validation hfinal).2

/-- **No experiment is required.** Whenever the target has to be validated, there are unknown
conditions, and no experiment is required for any of them. -/
theorem not_coversUnknown (hlog : ∀ p, 0 < p → p ≤ 1 → log2 p ≤ 0)
    {decision : TransportabilityDecision (TargetExperiment K)}
    (hdecision : evaluateTransportability (lib.withPlanner log2 reservationIds) key src tgt footprint
      allowCrossTenant = some decision)
    (hstatus : decision.status = .targetValidationRequired) :
    decision.unknownConditions ≠ [] ∧ decision.requiredTargetExperiments = [] ∧
      ¬ CoversUnknown decision := by
  obtain ⟨hunknown, hempty⟩ := experiments_of_validation hlog hdecision hstatus
  exact ⟨hunknown, hempty, fun hcovers ↦ hcovers.1 hempty⟩

end Decision

/-! ## Two models and two prompts -/

/-- The logarithm to base two, which is exact for the quotients of powers of two. -/
def floorLog2 (p : ℚ) : ℚ := Nat.log 2 p.num.toNat - Nat.log 2 p.den

/-- The sample library, with the planner. -/
def samplePlanned : TransportLibrary WholeFloat (TargetExperiment ℚ) :=
  sampleTransport.withPlanner floorLog2 fun _ ↦ "reservation"

/-- An environment with another model and another prompt. -/
def unsignedMoved : CausalEnvironmentDescriptor WholeFloat :=
  { unsignedEnvironment "redis" with model := "llama", prompt := "v2" }

def movedEnvironment : CausalEnvironmentDescriptor WholeFloat :=
  { unsignedMoved with
    signature := some (recomputeSignature sampleTransport "key" unsignedMoved) }

theorem admitted_movedEnvironment :
    Admitted samplePlanned "key" (sampleEnvironment "redis") movedEnvironment false := by
  have hdump : sampleTransport.modelDump movedEnvironment
      = sampleTransport.modelDump unsignedMoved := rfl
  have hmoved : verifyDescriptor sampleTransport "key" movedEnvironment = some true := by
    refine (Signing.verify_eq_true_iff _).mpr ?_
    rw [descriptorPayload, hdump]
    rfl
  exact ⟨⟨verifyDescriptor_sampleEnvironment "redis", hmoved⟩, ⟨rfl, rfl⟩, .inl rfl⟩

/-- The target has to be validated for its model and its prompt. -/
theorem exists_decision_movedEnvironment :
    ∃ decision, evaluateTransportability samplePlanned "key" (sampleEnvironment "redis")
        movedEnvironment sampleFootprint false = some decision ∧
      decision.status = .targetValidationRequired ∧
      decision.unknownConditions = ["model", "prompt"] := by
  obtain ⟨decision, hdecision⟩ := exists_decision sampleFootprint (by decide)
    admitted_movedEnvironment
  obtain ⟨hstatus, -, -, hunknown⟩ :=
    fields_of_evaluateTransportability admitted_movedEnvironment hdecision
  have hfinal : (finalStatus samplePlanned (findDifferences samplePlanned (sampleEnvironment "redis")
      movedEnvironment sampleFootprint) (judgeDifferences sampleFootprint (findDifferences samplePlanned
        (sampleEnvironment "redis") movedEnvironment sampleFootprint))).1
      = .targetValidationRequired := by decide +kernel
  have hconditions : (judgeDifferences sampleFootprint (findDifferences samplePlanned
      (sampleEnvironment "redis") movedEnvironment sampleFootprint)).unknown
      = ["model", "prompt"] := by decide +kernel
  exact ⟨decision, hdecision, hstatus.trans hfinal, hunknown.trans hconditions⟩

theorem floorLog2_nonpos : ∀ p, 0 < p → p ≤ 1 → floorLog2 p ≤ 0 := by
  intro p _ hle
  have hnum : p.num ≤ p.den := Rat.num_le_denom_iff.mpr hle
  have hlog : Nat.log 2 p.num.toNat ≤ Nat.log 2 p.den := Nat.log_mono_right (by omega)
  exact sub_nonpos.mpr (Nat.cast_le.mpr hlog)

theorem not_coversUnknown_movedEnvironment :
    (∀ p, 0 < p → p ≤ 1 → floorLog2 p ≤ 0) ∧
    ∃ decision, evaluateTransportability samplePlanned "key" (sampleEnvironment "redis")
        movedEnvironment sampleFootprint false = some decision ∧
      decision.status = .targetValidationRequired ∧
      decision.unknownConditions = ["model", "prompt"] ∧ ¬ CoversUnknown decision := by
  obtain ⟨decision, hdecision, hstatus, hunknown⟩ := exists_decision_movedEnvironment
  exact ⟨floorLog2_nonpos, decision, hdecision, hstatus, hunknown,
    (not_coversUnknown floorLog2_nonpos hdecision hstatus).2.2⟩

/-- No experiment is required for the model and the prompt that are to be validated. -/
theorem not_validated_movedEnvironment :
    ¬ ∀ decision, evaluateTransportability samplePlanned "key" (sampleEnvironment "redis")
        movedEnvironment sampleFootprint false = some decision →
      decision.status = .targetValidationRequired → CoversUnknown decision := by
  intro h
  obtain ⟨decision, hdecision, hstatus, -⟩ := exists_decision_movedEnvironment
  have hempty := (experiments_of_validation floorLog2_nonpos hdecision hstatus).2
  exact (h decision hdecision hstatus).1 hempty

end DriftGuardX.Policy
