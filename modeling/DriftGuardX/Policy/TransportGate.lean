import DriftGuardX.Json.Canonical
import DriftGuardX.Policy.Signatures
import Mathlib.Algebra.Order.Ring.Rat

/-!
# The transport gate

A recovery that was validated in one environment is tried against another. The gate authenticates
the two descriptors, compares a list of their fields by hash, and weighs the differences against
what the recovery depends on. Environments without differences are directly transportable; the
fields that are not on the list do not count (`directMeansIdentical_iff`).
-/

namespace DriftGuardX.Policy

open Json Bytes

inductive TransportStatus where
  | directlyTransportable
  | targetValidationRequired
  | notTransportable
  | unknown
  deriving DecidableEq, Repr

structure StructuredCalibrationEvidence (F : Type) where
  metric : String
  sampleSize : ℤ
  confidenceLevel : F
  dataset : String
  time : ℤ
  evaluator : String
  sourceResult : F
  targetResult : Option F

/-- A snapshot of an environment. -/
structure CausalEnvironmentDescriptor (F : Type) where
  environmentId : String
  tenantId : String
  model : String
  prompt : String
  retriever : String
  memory : String
  tools : List String
  policy : String
  index : String
  dataDistributionFingerprint : String
  executionConfiguration : List (String × Val F)
  causalGraphHash : String
  provenanceHash : String
  calibrationEvidence : Option (StructuredCalibrationEvidence F)
  capturedAt : ℤ
  signature : Option String

structure EnvironmentDifference where
  var : String
  sourceValueHash : Option String
  targetValueHash : Option String
  affectedComponents : List String
  causalRelevance : ℚ
  transportRisk : ℚ

/-- The assumptions of a validated recovery. -/
structure RecoveryMechanismFootprint (F : Type) where
  recoveryId : String
  requiredInvariantComponents : List String
  requiredInvariantEdges : List String
  requiredPolicyConditions : List (String × Val F)
  requiredDataConditions : List (String × Val F)
  requiredCalibrationConditions : List (String × Val F)

/-- The decision, without the hashes that are taken of it and of the footprint. -/
structure TransportabilityDecision (E : Type) where
  recoveryId : String
  sourceEnvironment : String
  targetEnvironment : String
  status : TransportStatus
  preservedConditions : List String
  violatedConditions : List String
  unknownConditions : List String
  requiredTargetExperiments : List E
  evidenceStrength : String
  footprintComponentsChecked : ℕ
  footprintEdgesChecked : ℕ
  explanation : String
  sourceDescriptorSignature : Option String
  targetDescriptorSignature : Option String

/-- Functions of libraries and of other packages: the first digits of a hash, signatures, the
document that a descriptor without its signature is dumped as, the experiments that are selected for
some conditions unless that raises, and `repr` of a string. The secret is that of the process
environment, with which the envelopes of experiments are sealed. -/
structure TransportLibrary (F E : Type) where
  digest : List UInt8 → String
  signing : Signing
  capabilitySecret : Option String
  modelDump : CausalEnvironmentDescriptor F → Doc F
  plan : String → List String → Option (List E)
  repr : String → String

variable {F E : Type} [FloatText F] (lib : TransportLibrary F E)

/-! ## Differences -/

/-- `_hash`, of a value that the encoder accepts. -/
def hashValue (v : Val F) : Option String :=
  (dumps ⟨true, false⟩ true v).map fun text ↦ lib.digest (utf8Chars text)

omit [FloatText F] in
/-- `_graph_derived_relevance`. -/
def graphDerivedRelevance (var : String) (footprint : RecoveryMechanismFootprint F) : ℚ :=
  let total := footprint.requiredInvariantComponents.length +
    footprint.requiredInvariantEdges.length + footprint.requiredPolicyConditions.length
  if total = 0 then 1 / 2
  else
    let hits := (if var ∈ footprint.requiredInvariantComponents then 1 else 0) +
      (if var ∈ footprint.requiredInvariantEdges then 1 else 0) +
      if var ∈ footprint.requiredPolicyConditions.map Prod.fst then 1 else 0
    min 1 ((hits : ℕ) / (total : ℕ))

/-- `_add_diff`: the difference between two values of a variable, if there is one. -/
def addDiff (footprint : RecoveryMechanismFootprint F) (var : String) (sVal tVal : Val F)
    (affected : List String) : List EnvironmentDifference :=
  if hashValue lib sVal ≠ hashValue lib tVal then
    let relevance := graphDerivedRelevance var footprint
    [⟨var, hashValue lib sVal, hashValue lib tVal, affected, relevance, min 1 (relevance * (6 / 5))⟩]
  else []

/-- `_find_differences`, which looks at neither the memory nor the execution configuration. -/
def findDifferences (source target : CausalEnvironmentDescriptor F)
    (footprint : RecoveryMechanismFootprint F) : List EnvironmentDifference :=
  let add := addDiff lib footprint
  add "model" (.str source.model) (.str target.model) ["generator"] ++
    add "prompt" (.str source.prompt) (.str target.prompt) ["prompt"] ++
    add "retriever" (.str source.retriever) (.str target.retriever) ["retriever", "index"] ++
    add "policy" (.str source.policy) (.str target.policy) ["guardrail"] ++
    add "index" (.str source.index) (.str target.index) ["retriever"] ++
    add "data_distribution" (.str source.dataDistributionFingerprint)
      (.str target.dataDistributionFingerprint) ["model", "index"] ++
    add "causal_graph" (.str source.causalGraphHash) (.str target.causalGraphHash) ["graph"] ++
    add "tools" (.list (source.tools.map fun s ↦ .str s)) (.list (target.tools.map fun s ↦ .str s))
      ["tool_dispatcher"]

/-! ## The footprint -/

/-- The conditions that are violated, preserved and unknown. -/
structure Conditions where
  violated : List String
  preserved : List String
  unknown : List String

def Conditions.append (c d : Conditions) : Conditions :=
  ⟨c.violated ++ d.violated, c.preserved ++ d.preserved, c.unknown ++ d.unknown⟩

/-- Where a condition goes whose variable differs. -/
inductive Judgement where
  | violated
  | unknown
  deriving DecidableEq, Repr

/-- The conditions of one kind. Those whose variable does not differ are preserved. -/
def checkConditions (differences : List EnvironmentDifference) (kind : String)
    (judge : EnvironmentDifference → Judgement) (names : List String) : Conditions :=
  names.foldl (fun acc name ↦
    match differences.find? fun d ↦ d.var = name with
    | none => { acc with preserved := acc.preserved ++ [kind ++ ":" ++ name] }
    | some d =>
      match judge d with
      | .violated => { acc with violated := acc.violated ++ [kind ++ ":" ++ name] }
      | .unknown => { acc with unknown := acc.unknown ++ [kind ++ ":" ++ name] }) ⟨[], [], []⟩

omit [FloatText F] in
/-- `_evaluate_footprint_invariants`. -/
def evaluateFootprintInvariants (footprint : RecoveryMechanismFootprint F)
    (differences : List EnvironmentDifference) : Conditions :=
  let check := checkConditions differences
  (check "component" (fun d ↦ if 4 / 5 ≤ d.causalRelevance then .violated else .unknown)
      footprint.requiredInvariantComponents).append <|
    (check "edge" (fun _ ↦ .violated) footprint.requiredInvariantEdges).append <|
    (check "policy" (fun _ ↦ .violated) (footprint.requiredPolicyConditions.map Prod.fst)).append <|
    (check "data" (fun _ ↦ .violated) (footprint.requiredDataConditions.map Prod.fst)).append <|
    check "calibration" (fun _ ↦ .unknown) (footprint.requiredCalibrationConditions.map Prod.fst)

/-! ## The gate -/

/-- The canonical text of a descriptor, which is signed. -/
def descriptorPayload (descriptor : CausalEnvironmentDescriptor F) : List UInt8 :=
  utf8Chars (render ⟨true, true⟩ (canon (lib.modelDump descriptor)))

/-- `recompute_signature`. -/
def recomputeSignature (key : String) (descriptor : CausalEnvironmentDescriptor F) : String :=
  lib.signing.sign key (descriptorPayload lib descriptor)

/-- `_verify_descriptor`. -/
def verifyDescriptor (key : String) (descriptor : CausalEnvironmentDescriptor F) : Option Bool :=
  lib.signing.verify key descriptor.signature (descriptorPayload lib descriptor)

/-- A list of strings, as an f-string prints it. -/
def listText (texts : List String) : String := "[" ++ ", ".intercalate (texts.map lib.repr) ++ "]"

/-- The part of a condition after its first colon, if it has one. -/
def afterColon (condition : String) : Option String :=
  if ':' ∈ condition.toList then
    some (String.ofList ((condition.toList.dropWhile fun c ↦ c ≠ ':').drop 1))
  else none

/-- The experiments that are required of the target when it is to be validated. -/
def targetExperiments (recoveryId : String) (status : TransportStatus) (unknown : List String) :
    Option (List E) :=
  if status = .targetValidationRequired then lib.plan recoveryId unknown else some []

omit [FloatText F] in
/-- `_build_decision`. -/
def buildDecision (src tgt : CausalEnvironmentDescriptor F) (footprint : RecoveryMechanismFootprint F)
    (status : TransportStatus) (conditions : Conditions) (explanation : String) :
    Option (TransportabilityDecision E) :=
  (targetExperiments lib footprint.recoveryId status conditions.unknown).map fun experiments ↦
    { recoveryId := footprint.recoveryId
      sourceEnvironment := src.environmentId
      targetEnvironment := tgt.environmentId
      status
      preservedConditions := conditions.preserved
      violatedConditions := conditions.violated
      unknownConditions := conditions.unknown
      requiredTargetExperiments := experiments
      evidenceStrength := if conditions.violated = [] then "cryptographic" else "insufficient"
      footprintComponentsChecked := footprint.requiredInvariantComponents.length
      footprintEdgesChecked := footprint.requiredInvariantEdges.length
      explanation
      sourceDescriptorSignature := src.signature
      targetDescriptorSignature := tgt.signature }

/-- The conditions in the light of the differences: a difference that no condition is about is one
more that is unknown. -/
def judgeDifferences (footprint : RecoveryMechanismFootprint F)
    (differences : List EnvironmentDifference) : Conditions :=
  let c := evaluateFootprintInvariants footprint differences
  let covered := (c.preserved ++ c.violated ++ c.unknown).filterMap afterColon
  { c with
    unknown := c.unknown ++ (differences.map EnvironmentDifference.var).filter (· ∉ covered)
    preserved := if differences = [] then ["all_environment_variables"] else c.preserved }

/-- The status that some conditions lead to, with its explanation. -/
def finalStatus (differences : List EnvironmentDifference) (c : Conditions) :
    TransportStatus × String :=
  if c.violated ≠ [] then
    (.notTransportable, "Critical footprint invariant violations: " ++ listText lib c.violated)
  else if c.unknown ≠ [] then
    (.targetValidationRequired,
      "Conditions require target-domain validation: " ++ listText lib c.unknown)
  else if differences = [] then
    (.directlyTransportable,
      "All recovery mechanism assumptions are preserved in the target environment.")
  else (.unknown, "Insufficient evidence to determine transportability.")

/-- `evaluate_transportability`; it raises when a signature is not ASCII or the planner raises. -/
def evaluateTransportability (key : String) (sourceEnv targetEnv : CausalEnvironmentDescriptor F)
    (footprint : RecoveryMechanismFootprint F) (allowCrossTenant : Bool) :
    Option (TransportabilityDecision E) := do
  let build := buildDecision lib sourceEnv targetEnv footprint
  let authentic ← checkBoth (verifyDescriptor lib key sourceEnv) (verifyDescriptor lib key targetEnv)
  if ¬ authentic then
    build .notTransportable ⟨[], [], []⟩ "Forged or missing provenance signature."
  else if sourceEnv.calibrationEvidence.isNone ∨ targetEnv.calibrationEvidence.isNone then
    build .unknown ⟨[], [], []⟩ "Missing structured calibration evidence."
  else if sourceEnv.tenantId ≠ targetEnv.tenantId ∧ ¬ allowCrossTenant then
    build .notTransportable ⟨[], [], []⟩ "Cross-tenant transport denied by policy."
  else
    let differences := findDifferences lib sourceEnv targetEnv footprint
    let conditions := judgeDifferences footprint differences
    let (status, explanation) := finalStatus lib differences conditions
    build status conditions explanation

/-! ## Direct transport -/

section Direct

variable {lib} {key : String} {src tgt : CausalEnvironmentDescriptor F}
  {footprint : RecoveryMechanismFootprint F} {allowCrossTenant : Bool}

/-- Two descriptors that the gate compares and finds no difference between: they are authentic and
calibrated, their tenants agree unless they need not, and so do the fields on the list. -/
structure Compared (lib : TransportLibrary F E) (key : String)
    (src tgt : CausalEnvironmentDescriptor F) (allowCrossTenant : Bool) : Prop where
  verified : verifyDescriptor lib key src = some true ∧ verifyDescriptor lib key tgt = some true
  calibrated : src.calibrationEvidence.isSome ∧ tgt.calibrationEvidence.isSome
  tenant : src.tenantId = tgt.tenantId ∨ allowCrossTenant = true
  model : src.model = tgt.model
  prompt : src.prompt = tgt.prompt
  retriever : src.retriever = tgt.retriever
  tools : src.tools = tgt.tools
  policy : src.policy = tgt.policy
  index : src.index = tgt.index
  dataDistribution : src.dataDistributionFingerprint = tgt.dataDistributionFingerprint
  causalGraph : src.causalGraphHash = tgt.causalGraphHash

/-- Two descriptors that agree on the fields that the gate does not look at, the configurations as
JSON values. -/
structure AgreeBeyond (src tgt : CausalEnvironmentDescriptor F) : Prop where
  memory : src.memory = tgt.memory
  executionConfiguration : toDoc true (.object src.executionConfiguration)
    = toDoc true (.object tgt.executionConfiguration)

/-- What the gate calls directly transportable is identical. -/
def DirectMeansIdentical (lib : TransportLibrary F E) (key : String)
    (src tgt : CausalEnvironmentDescriptor F) (footprint : RecoveryMechanismFootprint F)
    (allowCrossTenant : Bool) : Prop :=
  ∀ decision, evaluateTransportability lib key src tgt footprint allowCrossTenant = some decision →
    decision.status = .directlyTransportable →
    Compared lib key src tgt allowCrossTenant ∧ AgreeBeyond src tgt

omit [FloatText F] in
theorem status_of_buildDecision {status : TransportStatus} {conditions : Conditions}
    {explanation : String} {decision : TransportabilityDecision E}
    (h : buildDecision lib src tgt footprint status conditions explanation = some decision) :
    decision.status = status := by
  obtain ⟨experiments, -, rfl⟩ := Option.map_eq_some_iff.mp h
  rfl

omit [FloatText F] in
theorem exists_buildDecision_direct (conditions : Conditions) (explanation : String) :
    ∃ decision, buildDecision lib src tgt footprint .directlyTransportable conditions explanation
      = some decision ∧ decision.status = .directlyTransportable :=
  ⟨_, rfl, rfl⟩

theorem checkConditions_nil (kind : String) (judge : EnvironmentDifference → Judgement)
    (names : List String) : (checkConditions [] kind judge names).violated = [] ∧
      (checkConditions [] kind judge names).unknown = [] := by
  have hfold : ∀ acc : Conditions, acc.violated = [] ∧ acc.unknown = [] →
      (names.foldl (fun acc name ↦
        { acc with preserved := acc.preserved ++ [kind ++ ":" ++ name] }) acc).violated = [] ∧
      (names.foldl (fun acc name ↦
        { acc with preserved := acc.preserved ++ [kind ++ ":" ++ name] }) acc).unknown = [] := by
    induction names with
    | nil => exact fun acc h ↦ h
    | cons name names ih => exact fun acc h ↦ ih _ h
  exact hfold ⟨[], [], []⟩ ⟨rfl, rfl⟩

omit [FloatText F] in
theorem judgeDifferences_nil (footprint : RecoveryMechanismFootprint F) :
    (judgeDifferences footprint []).violated = [] ∧ (judgeDifferences footprint []).unknown = [] := by
  have hviolated : (evaluateFootprintInvariants footprint []).violated = [] := by
    simp [evaluateFootprintInvariants, Conditions.append, checkConditions_nil]
  have hunknown : (evaluateFootprintInvariants footprint []).unknown = [] := by
    simp [evaluateFootprintInvariants, Conditions.append, checkConditions_nil]
  refine ⟨hviolated, ?_⟩
  rw [judgeDifferences]
  simp [hunknown]

omit [FloatText F] in
theorem finalStatus_eq_direct_iff {differences : List EnvironmentDifference} :
    (finalStatus lib differences (judgeDifferences footprint differences)).1
      = .directlyTransportable ↔ differences = [] := by
  constructor
  · intro h
    rw [finalStatus] at h
    split_ifs at h with hviolated hunknown hnone
    exact hnone
  · rintro rfl
    obtain ⟨hviolated, hunknown⟩ := judgeDifferences_nil footprint
    rw [finalStatus, if_neg (not_not.mpr hviolated), if_neg (not_not.mpr hunknown), if_pos rfl]

theorem hashValue_inj (hdigest : Function.Injective lib.digest) {v w : Val F} :
    hashValue lib v = hashValue lib w ↔ toDoc true v = toDoc true w := by
  rw [hashValue, hashValue, ← dumps_eq_dumps_iff ⟨true, false⟩]
  refine (Option.map_injective ?_).eq_iff
  exact hdigest.comp utf8Chars_injective

theorem addDiff_eq_nil_iff {var : String} {v w : Val F} {affected : List String}
    (hdigest : Function.Injective lib.digest) :
    addDiff lib footprint var v w affected = [] ↔ toDoc true v = toDoc true w := by
  rw [addDiff, ← hashValue_inj hdigest]
  by_cases hsame : hashValue lib v = hashValue lib w
  · rw [if_neg (not_not.mpr hsame)]
    exact iff_of_true rfl hsame
  · rw [if_pos hsame]
    exact iff_of_false (List.cons_ne_nil _ _) hsame

/-- The fields on the list are what the differences are about. -/
theorem findDifferences_eq_nil_iff (hdigest : Function.Injective lib.digest) :
    findDifferences lib src tgt footprint = [] ↔ src.model = tgt.model ∧ src.prompt = tgt.prompt ∧
      src.retriever = tgt.retriever ∧ src.policy = tgt.policy ∧ src.index = tgt.index ∧
      src.dataDistributionFingerprint = tgt.dataDistributionFingerprint ∧
      src.causalGraphHash = tgt.causalGraphHash ∧ src.tools = tgt.tools := by
  rw [findDifferences]
  simp only [List.append_eq_nil_iff, addDiff_eq_nil_iff hdigest, toDoc_str_inj, toDoc_strs_inj,
    and_assoc]

/-- The checks that come before the comparison pass. -/
structure Admitted (lib : TransportLibrary F E) (key : String)
    (src tgt : CausalEnvironmentDescriptor F) (allowCrossTenant : Bool) : Prop where
  verified : verifyDescriptor lib key src = some true ∧ verifyDescriptor lib key tgt = some true
  calibrated : src.calibrationEvidence.isSome ∧ tgt.calibrationEvidence.isSome
  tenant : src.tenantId = tgt.tenantId ∨ allowCrossTenant = true

theorem compared_iff (hdigest : Function.Injective lib.digest) :
    Compared lib key src tgt allowCrossTenant ↔
      Admitted lib key src tgt allowCrossTenant ∧ findDifferences lib src tgt footprint = [] := by
  rw [findDifferences_eq_nil_iff hdigest]
  constructor
  · intro h
    exact ⟨⟨h.verified, h.calibrated, h.tenant⟩, h.model, h.prompt, h.retriever, h.policy, h.index,
      h.dataDistribution, h.causalGraph, h.tools⟩
  · rintro ⟨hadmitted, hmodel, hprompt, hretriever, hpolicy, hindex, hdata, hgraph, htools⟩
    exact ⟨hadmitted.verified, hadmitted.calibrated, hadmitted.tenant, hmodel, hprompt, hretriever,
      htools, hpolicy, hindex, hdata, hgraph⟩

theorem evaluateTransportability_of_admitted (h : Admitted lib key src tgt allowCrossTenant) :
    evaluateTransportability lib key src tgt footprint allowCrossTenant =
      let differences := findDifferences lib src tgt footprint
      let conditions := judgeDifferences footprint differences
      buildDecision lib src tgt footprint (finalStatus lib differences conditions).1 conditions
        (finalStatus lib differences conditions).2 := by
  have hcalibrated : ¬ (src.calibrationEvidence.isNone ∨ tgt.calibrationEvidence.isNone) := by
    simpa [Option.isSome_iff_ne_none] using h.calibrated
  have htenant : ¬ (src.tenantId ≠ tgt.tenantId ∧ ¬ allowCrossTenant = true) := by
    rintro ⟨hne, hallow⟩
    exact h.tenant.elim hne hallow
  rw [evaluateTransportability, checkBoth_eq_true_iff.mpr h.verified, Option.bind_eq_bind,
    Option.bind_some, if_neg (by simp), if_neg hcalibrated, if_neg htenant]

/-- What is not admitted is refused, or of unknown status, whatever the footprint is. -/
theorem admitted_or_refused : Admitted lib key src tgt allowCrossTenant ∨
    ∃ status, (status = .notTransportable ∨ status = .unknown) ∧
      ∀ (footprint : RecoveryMechanismFootprint F) (decision : TransportabilityDecision E),
        evaluateTransportability lib key src tgt footprint allowCrossTenant = some decision →
          decision.status = status := by
  cases hchecked : checkBoth (verifyDescriptor lib key src) (verifyDescriptor lib key tgt) with
  | none =>
    refine .inr ⟨.unknown, .inr rfl, fun footprint decision hdecision ↦ ?_⟩
    rw [evaluateTransportability, hchecked] at hdecision
    exact absurd hdecision (by simp)
  | some authentic =>
    by_cases hforged : ¬ authentic = true
    · refine .inr ⟨.notTransportable, .inl rfl, fun footprint decision hdecision ↦ ?_⟩
      rw [evaluateTransportability, hchecked, Option.bind_eq_bind, Option.bind_some,
        if_pos hforged] at hdecision
      exact status_of_buildDecision hdecision
    by_cases hmissing : src.calibrationEvidence.isNone ∨ tgt.calibrationEvidence.isNone
    · refine .inr ⟨.unknown, .inr rfl, fun footprint decision hdecision ↦ ?_⟩
      rw [evaluateTransportability, hchecked, Option.bind_eq_bind, Option.bind_some,
        if_neg hforged, if_pos hmissing] at hdecision
      exact status_of_buildDecision hdecision
    by_cases htenant : src.tenantId ≠ tgt.tenantId ∧ ¬ allowCrossTenant = true
    · refine .inr ⟨.notTransportable, .inl rfl, fun footprint decision hdecision ↦ ?_⟩
      rw [evaluateTransportability, hchecked, Option.bind_eq_bind, Option.bind_some,
        if_neg hforged, if_neg hmissing, if_pos htenant] at hdecision
      exact status_of_buildDecision hdecision
    obtain rfl := not_not.mp hforged
    refine .inl ⟨checkBoth_eq_true_iff.mp hchecked, ?_, ?_⟩
    · simpa [Option.isSome_iff_ne_none] using hmissing
    · exact or_iff_not_imp_left.mpr fun hne ↦ by_contra fun hallow ↦ htenant ⟨hne, hallow⟩

theorem admitted_of_status {decision : TransportabilityDecision E}
    (hdecision : evaluateTransportability lib key src tgt footprint allowCrossTenant
      = some decision) (hrefused : decision.status ≠ .notTransportable)
    (hunknown : decision.status ≠ .unknown) : Admitted lib key src tgt allowCrossTenant := by
  refine admitted_or_refused.resolve_right ?_
  rintro ⟨status, hstatus, hall⟩
  rw [← hall footprint decision hdecision] at hstatus
  exact hstatus.elim hrefused hunknown

theorem exists_direct_iff (hdigest : Function.Injective lib.digest) :
    (∃ decision, evaluateTransportability lib key src tgt footprint allowCrossTenant = some decision ∧
      decision.status = .directlyTransportable) ↔ Compared lib key src tgt allowCrossTenant := by
  rw [compared_iff hdigest]
  constructor
  · rintro ⟨decision, hdecision, hdirect⟩
    have hadmitted := admitted_of_status hdecision (by simp [hdirect]) (by simp [hdirect])
    rw [evaluateTransportability_of_admitted hadmitted] at hdecision
    have hstatus := (status_of_buildDecision hdecision).symm.trans hdirect
    exact ⟨hadmitted, finalStatus_eq_direct_iff.mp hstatus⟩
  · rintro ⟨hadmitted, hnone⟩
    have hdirect : (finalStatus lib (findDifferences lib src tgt footprint)
        (judgeDifferences footprint (findDifferences lib src tgt footprint))).1
          = .directlyTransportable := finalStatus_eq_direct_iff.mpr hnone
    rw [evaluateTransportability_of_admitted hadmitted]
    simp only [hdirect]
    exact exists_buildDecision_direct _ _

variable (lib key src tgt footprint allowCrossTenant)

/-- **Direct transport.** What the gate calls directly transportable is identical exactly when
descriptors between which it finds no difference agree on the memory and on the execution
configuration. -/
theorem directMeansIdentical_iff (hdigest : Function.Injective lib.digest) :
    DirectMeansIdentical lib key src tgt footprint allowCrossTenant ↔
      (Compared lib key src tgt allowCrossTenant → AgreeBeyond src tgt) := by
  constructor
  · intro h hcompared
    have hdirect : ∃ decision, evaluateTransportability lib key src tgt footprint allowCrossTenant
        = some decision ∧ decision.status = .directlyTransportable :=
      (exists_direct_iff hdigest).mpr hcompared
    obtain ⟨decision, hdecision, hstatus⟩ := hdirect
    exact (h decision hdecision hstatus).2
  · intro h decision hdecision hdirect
    have hcompared := (exists_direct_iff hdigest).mp ⟨decision, hdecision, hdirect⟩
    exact ⟨hcompared, h hcompared⟩

end Direct

/-! ## Two environments -/

/-- A library with an injective digest. -/
def sampleTransport : TransportLibrary WholeFloat String where
  digest := latin1
  signing := decimalSigning
  capabilitySecret := some "secret"
  modelDump d := .obj [("environment_id", .scalar (.str d.environmentId)),
    ("tenant_id", .scalar (.str d.tenantId)), ("model", .scalar (.str d.model)),
    ("prompt", .scalar (.str d.prompt)), ("retriever", .scalar (.str d.retriever)),
    ("memory", .scalar (.str d.memory)), ("policy", .scalar (.str d.policy)),
    ("index", .scalar (.str d.index)), ("causal_graph_hash", .scalar (.str d.causalGraphHash))]
  plan _ unknown := some unknown
  repr text := "'" ++ text ++ "'"

/-- An environment with a memory. -/
def unsignedEnvironment (memory : String) : CausalEnvironmentDescriptor WholeFloat where
  environmentId := "e"
  tenantId := "t"
  model := "gpt"
  prompt := "v1"
  retriever := "bm25"
  memory
  tools := ["search"]
  policy := "strict"
  index := "docs"
  dataDistributionFingerprint := "data"
  executionConfiguration := [("timeout", .int 30)]
  causalGraphHash := "graph"
  provenanceHash := "provenance"
  calibrationEvidence := some ⟨"accuracy", 1000, ⟨1⟩, "dataset", 0, "system", ⟨1⟩, none⟩
  capturedAt := 0
  signature := none

/-- The same, signed by a key. -/
def sampleEnvironment (memory : String) : CausalEnvironmentDescriptor WholeFloat :=
  { unsignedEnvironment memory with
    signature := some (recomputeSignature sampleTransport "key" (unsignedEnvironment memory)) }

def sampleFootprint : RecoveryMechanismFootprint WholeFloat := ⟨"r", ["memory"], [], [], [], []⟩

theorem verifyDescriptor_sampleEnvironment (memory : String) :
    verifyDescriptor sampleTransport "key" (sampleEnvironment memory) = some true := by
  have hdump : sampleTransport.modelDump (sampleEnvironment memory)
      = sampleTransport.modelDump (unsignedEnvironment memory) := rfl
  refine (Signing.verify_eq_true_iff _).mpr ?_
  rw [descriptorPayload, hdump]
  rfl

theorem compared_sampleEnvironment (memory memory' : String) :
    Compared sampleTransport "key" (sampleEnvironment memory) (sampleEnvironment memory') false where
  verified := ⟨verifyDescriptor_sampleEnvironment memory, verifyDescriptor_sampleEnvironment memory'⟩
  calibrated := ⟨rfl, rfl⟩
  tenant := Or.inl rfl
  model := rfl
  prompt := rfl
  retriever := rfl
  tools := rfl
  policy := rfl
  index := rfl
  dataDistribution := rfl
  causalGraph := rfl

theorem directMeansIdentical_sampleEnvironment :
    Function.Injective sampleTransport.digest ∧ (DirectMeansIdentical sampleTransport "key"
      (sampleEnvironment "redis") (sampleEnvironment "redis") sampleFootprint false ↔
      (Compared sampleTransport "key" (sampleEnvironment "redis") (sampleEnvironment "redis") false →
        AgreeBeyond (sampleEnvironment "redis") (sampleEnvironment "redis"))) :=
  ⟨latin1_injective, directMeansIdentical_iff sampleTransport "key" (sampleEnvironment "redis")
    (sampleEnvironment "redis") sampleFootprint false latin1_injective⟩

/-- Two environments with different memories are called directly transportable, even though the
recovery needs the memory to be the same. -/
theorem not_directMeansIdentical_memory : ¬ DirectMeansIdentical sampleTransport "key"
    (sampleEnvironment "redis") (sampleEnvironment "sqlite") sampleFootprint false := by
  intro h
  have hdirect : ∃ decision, evaluateTransportability sampleTransport "key"
      (sampleEnvironment "redis") (sampleEnvironment "sqlite") sampleFootprint false = some decision ∧
        decision.status = .directlyTransportable :=
    (exists_direct_iff latin1_injective).mpr (compared_sampleEnvironment "redis" "sqlite")
  obtain ⟨decision, hdecision, hstatus⟩ := hdirect
  exact absurd (h decision hdecision hstatus).2.memory (by decide)

end DriftGuardX.Policy
