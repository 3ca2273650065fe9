import DriftGuardX.Policy.TargetExperiments

/-!
# The verdicts of the transport gate

Every difference between admitted descriptors is in the verdict: it is violated or unknown, whatever
the footprint requires, and the recovery is refused or has to be validated. There is no verdict when
it would have to be validated and the experiments cannot be sealed (`differences_classified`).

Requiring more does not always make the gate stricter. The relevance of a component is its share of
the footprint, which further requirements dilute: a recovery that was refused for its components
alone may then only have to be validated. Otherwise the gate is at least as strict as before
(`asStrict_iff`).
-/

namespace DriftGuardX.Policy

open Json Replay
open Recovery (nonempty)

variable {F E : Type} [FloatText F]

/-! ## Requiring more -/

/-- Every requirement of one footprint is one of another. -/
structure Extends (footprint more : RecoveryMechanismFootprint F) : Prop where
  components : footprint.requiredInvariantComponents ⊆ more.requiredInvariantComponents
  edges : footprint.requiredInvariantEdges ⊆ more.requiredInvariantEdges
  policies : footprint.requiredPolicyConditions ⊆ more.requiredPolicyConditions
  data : footprint.requiredDataConditions ⊆ more.requiredDataConditions
  calibrations : footprint.requiredCalibrationConditions ⊆ more.requiredCalibrationConditions

/-- A status is at least as strict as another: refusal is strictest, direct transport least strict. -/
def AsStrict (status other : TransportStatus) : Prop :=
  status = other ∨ status = .notTransportable ∨
    status = .targetValidationRequired ∧ other = .directlyTransportable

section Verdicts

variable {lib : TransportLibrary F E} {key : String} {src tgt : CausalEnvironmentDescriptor F}
  {footprint more : RecoveryMechanismFootprint F} {allowCrossTenant : Bool}
  {decision decision' : TransportabilityDecision E}

/-- A differing variable is required in a way that violates the footprint: as an edge, of the policy
or of the data, or as a component that is relevant enough. -/
def Violates (footprint : RecoveryMechanismFootprint F) (var : String) : Prop :=
  var ∈ footprint.requiredInvariantEdges ∨ var ∈ footprint.requiredPolicyConditions.map Prod.fst ∨
    var ∈ footprint.requiredDataConditions.map Prod.fst ∨
      var ∈ footprint.requiredInvariantComponents ∧ 4 / 5 ≤ graphDerivedRelevance var footprint

instance (footprint : RecoveryMechanismFootprint F) (var : String) :
    Decidable (Violates footprint var) := inferInstanceAs (Decidable (_ ∨ _))

/-- Differences about one variable are judged alike. -/
theorem judged_eq_some_iff {differences : List EnvironmentDifference}
    {judge : EnvironmentDifference → Judgement}
    (hjudge : ∀ d ∈ differences, ∀ d' ∈ differences, d.var = d'.var → judge d = judge d')
    {name : String} {judgement : Judgement} : judged differences judge name = some judgement ↔
      ∃ d ∈ differences, d.var = name ∧ judge d = judgement := by
  rw [judged, Option.map_eq_some_iff]
  constructor
  · rintro ⟨d, hfind, hd⟩
    have hname := List.find?_some hfind
    exact ⟨d, List.mem_of_find?_eq_some hfind, of_decide_eq_true hname, hd⟩
  · rintro ⟨d, hd, hname, hjudged⟩
    have hsome : (differences.find? fun d ↦ d.var = name).isSome :=
      List.find?_isSome.mpr ⟨d, hd, decide_eq_true hname⟩
    obtain ⟨d', hfind⟩ := Option.isSome_iff_exists.mp hsome
    have hname' := List.find?_some hfind
    refine ⟨d', hfind, ?_⟩
    rw [← hjudged]
    exact hjudge d' (List.mem_of_find?_eq_some hfind) d hd
      ((of_decide_eq_true hname').trans hname.symm)

theorem judge_congr {r : Requirement} (hr : r ∈ requirements footprint) :
    ∀ d ∈ findDifferences lib src tgt footprint, ∀ d' ∈ findDifferences lib src tgt footprint,
      d.var = d'.var → r.judge d = r.judge d' := by
  intro d hd d' hd' hvar
  have hrelevance : d.causalRelevance = d'.causalRelevance := by
    rw [(of_mem_findDifferences hd).2, (of_mem_findDifferences hd').2, hvar]
  simp only [requirements, List.mem_cons, List.not_mem_nil, or_false] at hr
  rcases hr with rfl | rfl | rfl | rfl | rfl
  · simp only [hrelevance]
  all_goals rfl

/-- A difference violates the footprint when some requirement of its variable is judged so. -/
theorem violates_iff {d : EnvironmentDifference}
    (hd : d ∈ findDifferences lib src tgt footprint) : Violates footprint d.var ↔
      ∃ r ∈ requirements footprint, d.var ∈ r.names ∧ r.judge d = .violated := by
  have hcomponent : (if 4 / 5 ≤ d.causalRelevance then Judgement.violated else .unknown) = .violated
      ↔ 4 / 5 ≤ graphDerivedRelevance d.var footprint := by
    rw [(of_mem_findDifferences hd).2]
    simp
  simp only [requirements, List.exists_mem_cons_iff, List.not_mem_nil, false_and, exists_false,
    or_false, hcomponent, and_true, reduceCtorEq, and_false, Violates]
  exact (or_comm.trans (or_assoc.trans (or_congr_right or_assoc))).symm

theorem violated_ne_nil_iff :
    (judgeDifferences footprint (findDifferences lib src tgt footprint)).violated ≠ [] ↔
      ∃ d ∈ findDifferences lib src tgt footprint, Violates footprint d.var := by
  constructor
  · intro hne
    obtain ⟨c, hc⟩ := List.exists_mem_of_ne_nil _ hne
    have hunder : c ∈ (evaluateFootprintInvariants footprint
        (findDifferences lib src tgt footprint)).under (some .violated) := hc
    obtain ⟨r, hr, name, hname, hjudged, -⟩ := mem_evaluateFootprintInvariants_iff.mp hunder
    obtain ⟨d, hd, rfl, hjudge⟩ := (judged_eq_some_iff (judge_congr hr)).mp hjudged
    exact ⟨d, hd, (violates_iff hd).mpr ⟨r, hr, hname, hjudge⟩⟩
  · rintro ⟨d, hd, hviolates⟩
    obtain ⟨r, hr, hname, hjudge⟩ := (violates_iff hd).mp hviolates
    have hjudged := (judged_eq_some_iff (judge_congr hr)).mpr ⟨d, hd, rfl, hjudge⟩
    have hunder := mem_evaluateFootprintInvariants_iff.mpr ⟨r, hr, d.var, hname, hjudged, rfl⟩
    exact List.ne_nil_of_mem hunder

/-- The target has to be validated when something differs, and nothing that violates. -/
theorem finalStatus_eq_validation_iff (lib : TransportLibrary F E) :
    (finalStatus lib (findDifferences lib src tgt footprint)
        (judgeDifferences footprint (findDifferences lib src tgt footprint))).1
      = .targetValidationRequired ↔
    findDifferences lib src tgt footprint ≠ [] ∧
      ∀ d ∈ findDifferences lib src tgt footprint, ¬ Violates footprint d.var := by
  by_cases hnone : findDifferences lib src tgt footprint = []
  · have hdirect : (finalStatus lib (findDifferences lib src tgt footprint)
        (judgeDifferences footprint (findDifferences lib src tgt footprint))).1
          = .directlyTransportable := finalStatus_eq_direct_iff.mpr hnone
    exact iff_of_false (by simp [hdirect]) fun h ↦ h.1 hnone
  · rw [finalStatus_of_differences lib hnone]
    split_ifs with hne
    · obtain ⟨d, hd, hviolates⟩ := violated_ne_nil_iff.mp hne
      exact iff_of_false (by simp) fun h ↦ h.2 d hd hviolates
    · exact iff_of_true rfl
        ⟨hnone, fun d hd hviolates ↦ hne (violated_ne_nil_iff.mpr ⟨d, hd, hviolates⟩)⟩

/-- **No difference is lost.** The gate raises on admitted descriptors when there is no secret to seal
the experiments with and the target would have to be validated: something differs, and nothing that
violates the footprint. Otherwise there is a decision. If there are differences, it is that the
recovery is not transportable or that the target has to be validated. Each differing variable is what
some violated or unknown condition is about, and no preserved condition is about one. -/
theorem differences_classified {K : Type} [Field K] [LinearOrder K] (lib : TransportLibrary F E)
    (log2 : K → K) (reservationIds : ℕ → String) (key : String)
    (src tgt : CausalEnvironmentDescriptor F) (allowCrossTenant : Bool)
    (hadmitted : Admitted (lib.withPlanner log2 reservationIds) key src tgt allowCrossTenant)
    (footprint : RecoveryMechanismFootprint F) :
    let gate := lib.withPlanner log2 reservationIds
    let differences := findDifferences gate src tgt footprint
    (evaluateTransportability gate key src tgt footprint allowCrossTenant = none ↔
      nonempty lib.capabilitySecret = none ∧ differences ≠ [] ∧
        ∀ d ∈ differences, ¬ Violates footprint d.var) ∧
    ∀ decision, evaluateTransportability gate key src tgt footprint allowCrossTenant
        = some decision →
      (differences ≠ [] →
        decision.status = .notTransportable ∨ decision.status = .targetValidationRequired) ∧
      (∀ d ∈ differences,
        ∃ c ∈ decision.violatedConditions ++ decision.unknownConditions, Names c d.var) ∧
      ∀ c ∈ decision.preservedConditions, ∀ d ∈ differences, ¬ Names c d.var := by
  intro gate differences
  refine ⟨?_, fun decision hdecision ↦ ?_⟩
  · exact (evaluateTransportability_eq_none_iff hadmitted).trans
      (and_congr_right fun _ ↦ finalStatus_eq_validation_iff gate)
  obtain ⟨hstatus, hviolated, hpreserved, hunknown⟩ :=
    fields_of_evaluateTransportability hadmitted hdecision
  refine ⟨fun hne ↦ ?_, fun d hd ↦ ?_, fun c hc d hd ↦ ?_⟩
  · rw [hstatus, finalStatus_of_differences _ hne]
    split
    · exact .inl rfl
    · exact .inr rfl
  · rw [hviolated, hunknown]
    exact exists_names_of_mem hd
  · exact not_names_of_preserved (hpreserved ▸ hc) hd (colon_notMem_var hd)

/-- The status of an admitted transport. -/
theorem status_of_admitted (hadmitted : Admitted lib key src tgt allowCrossTenant)
    (hdecision : evaluateTransportability lib key src tgt footprint allowCrossTenant
      = some decision) :
    (findDifferences lib src tgt footprint = [] → decision.status = .directlyTransportable) ∧
    ((∃ d ∈ findDifferences lib src tgt footprint, Violates footprint d.var) →
      decision.status = .notTransportable) ∧
    (findDifferences lib src tgt footprint ≠ [] →
      (∀ d ∈ findDifferences lib src tgt footprint, ¬ Violates footprint d.var) →
        decision.status = .targetValidationRequired) := by
  rw [evaluateTransportability_of_admitted hadmitted] at hdecision
  have hstatus := status_of_buildDecision hdecision
  refine ⟨fun hnone ↦ ?_, fun hsome ↦ ?_, fun hne hall ↦ ?_⟩
  · rw [hstatus]
    exact finalStatus_eq_direct_iff.mpr hnone
  · obtain ⟨d, hd, -⟩ := id hsome
    rw [hstatus, finalStatus_of_differences lib (List.ne_nil_of_mem hd),
      if_pos (violated_ne_nil_iff.mpr hsome)]
  · have hviolated : ¬ (judgeDifferences footprint (findDifferences lib src tgt footprint)).violated
        ≠ [] := by
      rw [violated_ne_nil_iff]
      rintro ⟨d, hd, hviolates⟩
      exact hall d hd hviolates
    rw [hstatus, finalStatus_of_differences lib hne, if_neg hviolated]

/-- A recovery is refused for components that differ, and with more requirements it no longer is:
no component that differs has enough of a share any more, and what differs is required in no other
way that violates. -/
structure Diluted (lib : TransportLibrary F E) (src tgt : CausalEnvironmentDescriptor F)
    (footprint more : RecoveryMechanismFootprint F) : Prop where
  refused : ∃ d ∈ findDifferences lib src tgt footprint,
    d.var ∈ footprint.requiredInvariantComponents ∧
      4 / 5 ≤ graphDerivedRelevance d.var footprint
  diluted : ∀ d ∈ findDifferences lib src tgt more, ¬ Violates more d.var

omit [FloatText F] in
/-- What violates a footprint other than as a component violates every larger footprint. -/
theorem Violates.mono {var : String} (h : Violates footprint var) (hextends : Extends footprint more) :
    Violates more var ∨ var ∈ footprint.requiredInvariantComponents ∧
      4 / 5 ≤ graphDerivedRelevance var footprint := by
  rcases h with hedge | hpolicy | hdata | hcomponent
  · exact .inl (.inl (hextends.edges hedge))
  · exact .inl (.inr (.inl (List.map_subset Prod.fst hextends.policies hpolicy)))
  · exact .inl (.inr (.inr (.inl (List.map_subset Prod.fst hextends.data hdata))))
  · exact .inr hcomponent

theorem exists_mem_findDifferences (more : RecoveryMechanismFootprint F) {d : EnvironmentDifference}
    (hd : d ∈ findDifferences lib src tgt footprint) :
    ∃ d' ∈ findDifferences lib src tgt more, d'.var = d.var := by
  have hmem := List.mem_map_of_mem (f := EnvironmentDifference.var) hd
  rw [vars_findDifferences footprint more] at hmem
  exact List.mem_map.mp hmem

theorem status_of_diluted (hadmitted : Admitted lib key src tgt allowCrossTenant)
    (hdiluted : Diluted lib src tgt footprint more)
    (hdecision : evaluateTransportability lib key src tgt footprint allowCrossTenant
      = some decision)
    (hdecision' : evaluateTransportability lib key src tgt more allowCrossTenant
      = some decision') :
    decision.status = .notTransportable ∧ decision'.status = .targetValidationRequired := by
  obtain ⟨d, hd, hcomponent⟩ := hdiluted.refused
  obtain ⟨d', hd', -⟩ := exists_mem_findDifferences more hd
  have hviolates : Violates footprint d.var := .inr (.inr (.inr hcomponent))
  exact ⟨(status_of_admitted hadmitted hdecision).2.1 ⟨d, hd, hviolates⟩,
    (status_of_admitted hadmitted hdecision').2.2 (List.ne_nil_of_mem hd') hdiluted.diluted⟩

theorem asStrict_of_not_diluted (hadmitted : Admitted lib key src tgt allowCrossTenant)
    (hextends : Extends footprint more) (h : ¬ Diluted lib src tgt footprint more)
    (hdecision : evaluateTransportability lib key src tgt footprint allowCrossTenant
      = some decision)
    (hdecision' : evaluateTransportability lib key src tgt more allowCrossTenant
      = some decision') : AsStrict decision'.status decision.status := by
  obtain ⟨hnone, -, hvalidated⟩ := status_of_admitted hadmitted hdecision
  obtain ⟨hnone', hviolated', hvalidated'⟩ := status_of_admitted hadmitted hdecision'
  by_cases hviolates' : ∃ d ∈ findDifferences lib src tgt more, Violates more d.var
  · exact .inr (.inl (hviolated' hviolates'))
  have hnot' : ∀ d ∈ findDifferences lib src tgt more, ¬ Violates more d.var :=
    fun d hd hviolates ↦ hviolates' ⟨d, hd, hviolates⟩
  by_cases hdifferences : findDifferences lib src tgt footprint = []
  · have hdifferences' : findDifferences lib src tgt more = [] := by
      refine List.eq_nil_iff_forall_not_mem.mpr fun d hd ↦ ?_
      obtain ⟨d', hd', -⟩ := exists_mem_findDifferences footprint hd
      exact absurd hd' (hdifferences ▸ List.not_mem_nil)
    exact .inl ((hnone' hdifferences').trans (hnone hdifferences).symm)
  · obtain ⟨d, hd⟩ := List.exists_mem_of_ne_nil _ hdifferences
    obtain ⟨d', hd', -⟩ := exists_mem_findDifferences more hd
    -- what was violated is violated still, or was so as a component only
    have hnot : ∀ d ∈ findDifferences lib src tgt footprint, ¬ Violates footprint d.var := by
      intro d hd hviolates
      obtain ⟨d', hd', hvar⟩ := exists_mem_findDifferences more hd
      rcases hviolates.mono hextends with hmore | hcomponent
      · exact hnot' d' hd' (hvar ▸ hmore)
      · exact h ⟨⟨d, hd, hcomponent⟩, hnot'⟩
    exact .inl ((hvalidated' (List.ne_nil_of_mem hd') hnot').trans
      (hvalidated hdifferences hnot).symm)

/-- **Requiring more.** A decision under more requirements is at least as strict, except where the
requirements dilute the relevance of the components for which alone the recovery was refused. Then
it has to be validated instead. -/
theorem asStrict_iff (hextends : Extends footprint more)
    (hdecision : evaluateTransportability lib key src tgt footprint allowCrossTenant
      = some decision)
    (hdecision' : evaluateTransportability lib key src tgt more allowCrossTenant
      = some decision') :
    (AsStrict decision'.status decision.status ↔
      ¬ (Admitted lib key src tgt allowCrossTenant ∧ Diluted lib src tgt footprint more)) ∧
    (Admitted lib key src tgt allowCrossTenant ∧ Diluted lib src tgt footprint more →
      decision.status = .notTransportable ∧ decision'.status = .targetValidationRequired) := by
  refine ⟨⟨fun hstrict h ↦ ?_, fun h ↦ ?_⟩, fun h ↦ status_of_diluted h.1 h.2 hdecision hdecision'⟩
  · obtain ⟨hstatus, hstatus'⟩ := status_of_diluted h.1 h.2 hdecision hdecision'
    rw [hstatus, hstatus', AsStrict] at hstrict
    exact absurd hstrict (by simp)
  · by_cases hadmitted : Admitted lib key src tgt allowCrossTenant
    · exact asStrict_of_not_diluted hadmitted hextends (fun hdiluted ↦ h ⟨hadmitted, hdiluted⟩)
        hdecision hdecision'
    -- a refusal does not look at the footprint
    · obtain ⟨status, -, hall⟩ := admitted_or_refused.resolve_left hadmitted
      exact .inl ((hall more decision' hdecision').trans (hall footprint decision hdecision).symm)

end Verdicts

/-! ## Names with colons -/

/-- A footprint that requires things of names with colons in them. -/
def colonFootprint : RecoveryMechanismFootprint WholeFloat where
  recoveryId := "r"
  requiredInvariantComponents := ["x:model", "component:model"]
  requiredInvariantEdges := ["model->prompt"]
  requiredPolicyConditions := [("prompt", .str "v1")]
  requiredDataConditions := [("prompt", .str "v1")]
  requiredCalibrationConditions := []

theorem differences_classified_colonFootprint :
    Admitted samplePlanned "key" (sampleEnvironment "redis") movedEnvironment false ∧
    ∃ decision, evaluateTransportability samplePlanned "key" (sampleEnvironment "redis")
        movedEnvironment colonFootprint false = some decision ∧
      ∀ d ∈ findDifferences samplePlanned (sampleEnvironment "redis") movedEnvironment colonFootprint,
        ∃ c ∈ decision.violatedConditions ++ decision.unknownConditions, Names c d.var := by
  obtain ⟨hnone, hsome⟩ := differences_classified sampleTransport floorLog2
    (fun _ ↦ "reservation") "key" (sampleEnvironment "redis") movedEnvironment false
    admitted_movedEnvironment colonFootprint
  obtain ⟨decision, hdecision⟩ := Option.ne_none_iff_exists'.mp fun h ↦
    absurd (hnone.mp h).1 (by decide)
  exact ⟨admitted_movedEnvironment, decision, hdecision, (hsome decision hdecision).2.1⟩

/-- The sample gate in a process without the secret. -/
def unsealedGate : TransportLibrary WholeFloat (TargetExperiment ℚ) :=
  TransportLibrary.withPlanner { sampleTransport with capabilitySecret := none } floorLog2
    fun _ ↦ "reservation"

theorem admitted_unsealedGate :
    Admitted unsealedGate "key" (sampleEnvironment "redis") movedEnvironment false :=
  ⟨admitted_movedEnvironment.verified, admitted_movedEnvironment.calibrated,
    admitted_movedEnvironment.tenant⟩

/-- Without the secret, the gate raises where the model and the prompt are to be validated. -/
theorem not_differences_classified_unsealedGate :
    Admitted unsealedGate "key" (sampleEnvironment "redis") movedEnvironment false ∧
    findDifferences unsealedGate (sampleEnvironment "redis") movedEnvironment sampleFootprint ≠ [] ∧
    evaluateTransportability unsealedGate "key" (sampleEnvironment "redis") movedEnvironment
      sampleFootprint false = none := by
  have hdiffers : findDifferences unsealedGate (sampleEnvironment "redis") movedEnvironment
      sampleFootprint ≠ [] := by decide +kernel
  have hallowed : ∀ d ∈ findDifferences unsealedGate (sampleEnvironment "redis") movedEnvironment
      sampleFootprint, ¬ Violates sampleFootprint d.var := by decide +kernel
  refine ⟨admitted_unsealedGate, hdiffers, ?_⟩
  refine (evaluateTransportability_eq_none_iff admitted_unsealedGate).mpr ⟨rfl, ?_⟩
  exact (finalStatus_eq_validation_iff _).mpr ⟨hdiffers, hallowed⟩

/-! ## One component, and two -/

/-- A footprint that requires the model. -/
def modelFootprint : RecoveryMechanismFootprint WholeFloat := ⟨"r", ["model"], [], [], [], []⟩

/-- The same, and the memory. -/
def modelMemoryFootprint : RecoveryMechanismFootprint WholeFloat :=
  ⟨"r", ["model", "memory"], [], [], [], []⟩

theorem extends_modelMemoryFootprint : Extends modelFootprint modelMemoryFootprint where
  components := by decide
  edges := List.Subset.refl _
  policies := List.Subset.refl _
  data := List.Subset.refl _
  calibrations := List.Subset.refl _

theorem diluted_movedEnvironment : Diluted samplePlanned (sampleEnvironment "redis") movedEnvironment
    modelFootprint modelMemoryFootprint := by
  constructor
  · decide +kernel
  · decide +kernel

theorem asStrict_movedEnvironment :
    Extends modelFootprint modelMemoryFootprint ∧ ∃ decision decision',
      evaluateTransportability samplePlanned "key" (sampleEnvironment "redis") movedEnvironment
        modelFootprint false = some decision ∧
      evaluateTransportability samplePlanned "key" (sampleEnvironment "redis") movedEnvironment
        modelMemoryFootprint false = some decision' ∧
      ¬ AsStrict decision'.status decision.status := by
  obtain ⟨decision, hdecision⟩ := exists_decision modelFootprint (by decide)
    admitted_movedEnvironment
  obtain ⟨decision', hdecision'⟩ := exists_decision modelMemoryFootprint (by decide)
    admitted_movedEnvironment
  have hstrict := (asStrict_iff extends_modelMemoryFootprint hdecision hdecision').1
  refine ⟨extends_modelMemoryFootprint, decision, decision', hdecision, hdecision', ?_⟩
  exact hstrict.not.mpr (not_not.mpr ⟨admitted_movedEnvironment, diluted_movedEnvironment⟩)

/-- When the memory is required as well as the model, another model is no longer a reason to refuse
the recovery. -/
theorem not_asStrict_movedEnvironment :
    ¬ ∀ footprint more : RecoveryMechanismFootprint WholeFloat, Extends footprint more →
      ∀ decision decision', evaluateTransportability samplePlanned "key" (sampleEnvironment "redis")
          movedEnvironment footprint false = some decision →
        evaluateTransportability samplePlanned "key" (sampleEnvironment "redis") movedEnvironment
          more false = some decision' →
        AsStrict decision'.status decision.status := by
  intro h
  obtain ⟨decision, hdecision⟩ := exists_decision modelFootprint (by decide)
    admitted_movedEnvironment
  obtain ⟨decision', hdecision'⟩ := exists_decision modelMemoryFootprint (by decide)
    admitted_movedEnvironment
  have hstrict := h modelFootprint modelMemoryFootprint extends_modelMemoryFootprint decision
    decision' hdecision hdecision'
  obtain ⟨hstatus, hstatus'⟩ := status_of_diluted admitted_movedEnvironment
    diluted_movedEnvironment hdecision hdecision'
  rw [hstatus, hstatus', AsStrict] at hstrict
  exact absurd hstrict (by simp)

end DriftGuardX.Policy
