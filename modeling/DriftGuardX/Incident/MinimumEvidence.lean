import DriftGuardX.Incident.Evidence

/-!
# The minimum of evidence

`EvidentiaryStoppingRule` confirms nothing before it has recorded the minimum of experiments. It is
never reset, so it counts the experiments of all incidents of an orchestrator together:
`minimumEvidence_of_reset` says for which incidents of a series the minimum is their own.
-/

namespace DriftGuardX.Incident

open Recovery (Raised Dict PyValue)
open Json (Scalar)
open History Program

variable {W V F G : Type}

/-- The incident reaches `EVIDENCE_SUFFICIENT` only when that many of its experiments have passed
validation. -/
def MinimumEvidence (minReplays : ℤ) (history : List (Event V F)) : Prop :=
  Always (fun before event ↦ event = .entered .evidenceSufficient →
    minReplays ≤ validExperiments before) history

theorem one_le_validExperiments {history : List (Event V F)} (h : HasEvidence history) :
    1 ≤ validExperiments history := by
  obtain ⟨replays, report, hmem, hvalid, hearly, -⟩ := h
  refine List.countP_pos_iff.mpr ⟨_, hmem, ?_⟩
  rw [Event.passed, hvalid, hearly]
  rfl

variable [PyFloat F]

/-- What the rule keeps: it has counted the experiments since the incident began. -/
def ruleContract (parameters : RuleParameters F) (count : ℤ) :
    Contract (EvidentiaryStoppingRule F) where
  tally n rule := rule.replayCount = count + n
  enough n := parameters.minReplays ≤ count + n
  recovered := True

theorem ruleContract_meets (parameters : RuleParameters F) (count : ℤ) :
    (ruleContract parameters count).Meets
      (EvidentiaryStoppingRule.policy parameters : StoppingPolicy _ W V F) where
  judges n incident model remaining := by
    have hkeeps : ∀ {α : Type} (x : Program W Raised α), Keeps
        (fun view : PolicyView (EvidentiaryStoppingRule F) W F ↦
          view.policy.replayCount = count + n) (EvidentiaryStoppingRule.outside x) :=
      fun x ↦ keeps_zoom fun _ _ h ↦ h
    have hasks : ∀ {α : Type} (x : Program W Raised α), Triple
        (fun view : PolicyView (EvidentiaryStoppingRule F) W F ↦
          view.policy.replayCount = count + n) (EvidentiaryStoppingRule.outside x)
        (fun _ view ↦ view.policy.replayCount = count + n) fun _ _ ↦ True :=
      fun x ↦ (hkeeps x).weaken (fun _ h ↦ h) (fun _ _ h ↦ h) fun _ _ _ ↦ trivial
    refine (hasks model.currentBeliefs).bind fun beliefs ↦ (hasks model.entropy).bind
      fun entropy ↦ ?_
    refine triple_get_eq.bind fun view ↦ ?_
    refine triple_ofExcept (fun verdict hverdict view' hview ↦ ?_) fun _ _ _ _ ↦ trivial
    obtain ⟨rfl, htally⟩ := hview
    refine ⟨htally, fun hconfirmed ↦ ?_⟩
    have hminimum := EvidentiaryStoppingRule.hasMinEvidence_of_evaluate hverdict hconfirmed
    exact hminimum.trans_eq htally
  records recordIteration hrecord n entropy := by
    obtain rfl := Option.some.inj hrecord
    refine triple_modify fun view htally ↦ ?_
    have hcount : view.policy.replayCount + 1 = count + (n + 1 : ℕ) := by
      rw [show view.policy.replayCount = count + n from htally]
      push_cast
      ring
    exact hcount
  skips h := absurd h (by simp [EvidentiaryStoppingRule.policy])

/-! ## Series of incidents -/

section Series

variable [PyValue V G] [ToFloat V F] (collab : Collaborators W V F)
  (parameters : RuleParameters F) (clocks : Clocks F) (defaults : Defaults F)

/-- The runs of a series of incidents of one orchestrator, each with what it finds. -/
def series : List (ℕ × Call V F) → Orchestrator (EvidentiaryStoppingRule F) W →
    List (Orchestrator (EvidentiaryStoppingRule F) W × Session (EvidentiaryStoppingRule F) W V F)
  | [], _ => []
  | (fuel, call) :: calls, orchestrator =>
    let session := (processIncident collab (EvidentiaryStoppingRule.policy parameters) clocks
      defaults fuel call orchestrator).2
    (orchestrator, session) :: series calls ⟨session.policy, session.world, session.tick⟩

variable {collab parameters clocks defaults}

/-- One incident: the experiments that the rule had counted before are counted again. -/
theorem minimumEvidence_processIncident (fuel : ℕ) (call : Call V F)
    (orchestrator : Orchestrator (EvidentiaryStoppingRule F) W) :
    MinimumEvidence (min parameters.minReplays 1 ⊔
      (parameters.minReplays - orchestrator.policy.replayCount))
      (processIncident collab (EvidentiaryStoppingRule.policy parameters) clocks defaults fuel call
        orchestrator).2.history := by
  obtain ⟨horderly, -⟩ := processIncident_orderly
    (ruleContract_meets parameters orchestrator.policy.replayCount) collab clocks defaults fuel call
    orchestrator (by simp [ruleContract]) fun _ ↦ trivial
  refine horderly.allowed.mono fun before event hallowed heq ↦ ?_
  subst heq
  obtain ⟨henough, hevidence⟩ := hallowed
  have hone := one_le_validExperiments hevidence
  have hcounted : parameters.minReplays ≤
    orchestrator.policy.replayCount + validExperiments before := henough
  omega

/-- **The minimum of evidence.** An incident of a series has its own minimum of experiments when the
rule's count is zero as it begins, or when the minimum is at most one. -/
theorem minimumEvidence_of_reset {calls : List (ℕ × Call V F)}
    {orchestrator : Orchestrator (EvidentiaryStoppingRule F) W}
    {run : Orchestrator (EvidentiaryStoppingRule F) W × Session (EvidentiaryStoppingRule F) W V F}
    (hrun : run ∈ series collab parameters clocks defaults calls orchestrator)
    (hreset : run.1.policy.replayCount = 0 ∨ parameters.minReplays ≤ 1) :
    MinimumEvidence parameters.minReplays run.2.history := by
  induction calls generalizing orchestrator with
  | nil => exact absurd hrun (by simp [series])
  | cons call calls ih =>
    rw [series, List.mem_cons] at hrun
    rcases hrun with rfl | hrun
    · refine (minimumEvidence_processIncident call.1 call.2 orchestrator).mono
        fun before event h heq ↦ ?_
      have hcounted := h heq
      dsimp only at hreset
      omega
    · exact ih hrun

end Series

/-! ## Two incidents of one orchestrator -/

def sampleParameters : RuleParameters ℤ where
  confidenceThreshold := 1
  marginThreshold := 1
  entropyConvergenceDelta := 0
  entropyWindow := 3
  minReplays := 2
  maxExperiments := 20

/-- Collaborators that try two candidates in turn, with one replay each, and are always sure. -/
def sampleCollaborators : Collaborators Unit (Scalar Empty) ℤ :=
  { obliging [[("candidate_id", .str "a")], [("candidate_id", .str "b")]]
      (fun _ _ ↦ pure ⟨"t", "", [], []⟩) ⟨.nothing, []⟩ [[]] with
    planNextExperiment := fun _ candidates _ ↦ pure (candidates.head?.map fun c ↦ ⟨.nothing, c⟩)
    beliefModel := ⟨fun _ _ ↦ pure [("c", 1)], pure [("c", 1)], pure 0⟩ }

/-- The runs of two incidents, for the first of which the rule is new. -/
def sampleSeries : List (Orchestrator (EvidentiaryStoppingRule ℤ) Unit ×
    Session (EvidentiaryStoppingRule ℤ) Unit (Scalar Empty) ℤ) :=
  series sampleCollaborators sampleParameters stoppedClocks ⟨5, 300⟩
    [(4, freshCall "i"), (4, freshCall "j")] ⟨.new, (), 0⟩

theorem minimumEvidence_of_reset_new : ∃ run ∈ sampleSeries, run.1.policy.replayCount = 0 ∧
    MinimumEvidence sampleParameters.minReplays run.2.history := by
  have hnew : ∃ run ∈ sampleSeries, run.1.policy.replayCount = 0 := by decide +kernel
  obtain ⟨run, hrun, hcount⟩ := hnew
  exact ⟨run, hrun, hcount, minimumEvidence_of_reset hrun (Or.inl hcount)⟩

/-- The statuses that are entered in a history. -/
def statuses (history : List (Event V F)) : List IncidentStatus :=
  history.filterMap fun
    | .entered status => some status
    | _ => none

omit [PyFloat F] in
theorem MinimumEvidence.le {minReplays : ℤ} {history : List (Event V F)}
    (h : MinimumEvidence minReplays history)
    (hentered : IncidentStatus.evidenceSufficient ∈ statuses history) :
    minReplays ≤ validExperiments history := by
  obtain ⟨event, hmem, hstatus⟩ := List.mem_filterMap.mp hentered
  obtain rfl : event = .entered .evidenceSufficient := by
    cases event with
    | entered status => exact congrArg Event.entered (Option.some.inj hstatus)
    | _ => exact absurd hstatus (by simp)
  obtain ⟨before, after, rfl⟩ := List.append_of_mem hmem
  have hle : validExperiments before ≤
      validExperiments (before ++ .entered .evidenceSufficient :: after) := by
    rw [validExperiments, validExperiments, List.countP_append]
    exact Nat.le_add_right _ _
  exact (h before _ after rfl rfl).trans (by exact_mod_cast hle)

/-- The second incident has one experiment of its own. -/
theorem not_minimumEvidence_sampleSeries :
    ¬ ∀ run ∈ sampleSeries, MinimumEvidence sampleParameters.minReplays run.2.history := by
  intro h
  have hsecond : ∃ run ∈ sampleSeries, IncidentStatus.evidenceSufficient ∈ statuses run.2.history ∧
      validExperiments run.2.history = 1 := by
    decide +kernel
  obtain ⟨run, hrun, hentered, hone⟩ := hsecond
  have hle := (h run hrun).le hentered
  rw [hone] at hle
  exact absurd hle (by decide)

end DriftGuardX.Incident
