import DriftGuardX.Bcrb.Verdict

/-!
# What a session pays for

Nothing is ever spent, since a step's cost is counted only with a status that no step has. But no step
has a measured cost either: an episode that the replay engine returns makes the canary raise, and ends
the session. So what is spent is what has been measured (`paysForWhatItRuns`).
-/

namespace DriftGuardX.Bcrb

variable {R : Type} [LinearOrder R] [Add R] [Sub R] [Mul R] [Div R]

/-- The cost that a step has measured. -/
def BCRBStep.measuredCost (step : BCRBStep R) : Option R :=
  (step.costIncurred.filter fun cost ↦
    cost.measurementStatus ≠ "UNAVAILABLE" ∧ cost.measurementStatus ≠ "FAILED").map ReplayCost.totalCost

variable (lib : FloatLibrary R)

/-- The sum of the costs that some steps have measured. -/
def measuredCosts (steps : List (BCRBStep R)) : R :=
  (steps.filterMap BCRBStep.measuredCost).foldl (· + ·) (lib.literal 0)

/-- What is spent is what the steps have measured, and no step is started that exceeds the budget
together with it. -/
def PaysForWhatItRuns (budgetUsd : R) (plan : Plan lib) (canary : BCRBCandidate R → CanaryOutcome R) :
    Prop :=
  ∀ b, Reached lib budgetUsd plan canary b →
    b.session.totalSpentUsd = measuredCosts lib b.session.steps ∧
      (b.stoppingConditionMet = none → ∀ c, b.session.choose lib = .ok c →
        ¬ budgetUsd < c.totalCost + measuredCosts lib b.session.steps)

variable {lib} {s : BCRBSession R} {c : BCRBCandidate R} {step : BCRBStep R}

theorem measuredCost_of_step {run : CanaryRun}
    (h : (executeCanary run).step lib c.candidateId = some step) : step.measuredCost = none := by
  cases run with
  | raises | replayed => contradiction
  | noDatabase =>
    obtain rfl := Option.some.inj h
    rfl
  | _ =>
    obtain rfl := Option.some.inj h
    simp [BCRBStep.measuredCost, unmeasured]

theorem accounts_of_record {run : CanaryRun}
    (h : (executeCanary run).step lib c.candidateId = some step) :
    (s.record lib c step).totalSpentUsd = s.totalSpentUsd ∧
      measuredCosts lib (s.record lib c step).steps = measuredCosts lib s.steps := by
  have happend : ∀ step' : BCRBStep R, step'.measuredCost = none →
      measuredCosts lib (s.steps ++ [step']) = measuredCosts lib s.steps := by
    intro step' hnone
    simp [measuredCosts, List.filterMap_append, hnone]
  have hspec := CanaryOutcome.stepSpec h
  have hmeasured : step.measuredCost = none := measuredCost_of_step h
  cases heffect : step.recoveryEffect with
  | none =>
    rw [BCRBSession.record_of_unmeasured hspec heffect]
    exact ⟨rfl, happend step hmeasured⟩
  | some reliabilityDelta =>
    rw [BCRBSession.record_of_measured hspec heffect]
    exact ⟨rfl, happend _ hmeasured⟩

variable (lib) in
/-- **What a session pays for.** Whatever the database and the replay engine do: at every point of a
session what is spent is what its replays have measured, and no step is started that exceeds the budget
together with that. -/
theorem paysForWhatItRuns (budgetUsd : R) (plan : Plan lib) (run : BCRBCandidate R → CanaryRun) :
    PaysForWhatItRuns lib budgetUsd plan fun c ↦ executeCanary (run c) := by
  intro b hb
  have hpaid : b.session.totalSpentUsd = measuredCosts lib b.session.steps :=
    reached_induction (I := fun s ↦ s.totalSpentUsd = measuredCosts lib s.steps) rfl
      (fun _ _ _ hs _ hstep ↦ by
        obtain ⟨hspent, hmeasured⟩ := accounts_of_record hstep
        rw [hspent, hmeasured, hs]) hb
  refine ⟨hpaid, fun hgoes c hchoose ↦ ?_⟩
  rw [← hpaid, not_lt]
  exact hb.justified.affordable hgoes c hchoose

end DriftGuardX.Bcrb
