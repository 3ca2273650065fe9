import DriftGuardX.Replay.ExperimentPlanner
import Mathlib.Algebra.Field.Rat
import Mathlib.Algebra.Order.Ring.Rat

/-!
# Giving up on experiments

The planner selects by utility, the ratio of what an experiment is expected to tell to what it costs
and risks, and then asks whether the selected experiment tells enough and can be paid. Another one may
do both where the selected one does not, and the planner gives up all the same. It also raises where a
number of a candidate cannot be read, or where a utility divides by zero. It gives up only when
nothing is left to learn exactly when none of this is the case (`selectionHolds_iff`).

What an experiment is expected to tell and what it puts at risk are any functions of its target, and
utilities are computed and compared as floats are.
-/

namespace DriftGuardX.Replay.ExperimentPlanner

open Incident (PyFloat ResourceContext ResourceReservation ToFloat)
open Selection Transaction

variable {V K C : Type} [PyFloat C] [PlannerArithmetic K C] [ToFloat V C]
  (planner : ExperimentPlanner K C) (beliefState : List (String × K))
  (candidates : List (ExperimentCandidate V)) (resourceContext : ResourceContext C)
  (candidate : ExperimentCandidate V)

/-! ## What is to be planned -/

/-- Enough is expected of the candidate: its gain is not below the threshold. -/
def Informative : Prop := PlannerArithmetic.lt C
  (planner.informationGain beliefState candidate.targetNode) planner.minEigThreshold = false

/-- An amount fits into what is left of the budget. -/
def Fits (costUsd : C) : Prop := PyFloat.lt resourceContext.budgetUsd (PyFloat.add
  (PyFloat.add resourceContext.spentUsd resourceContext.reservedUsd) costUsd) = false

/-- The cost of the candidate can be read, and still be reserved. -/
def Affordable : Prop := ∃ cost, planner.costOf candidate = .ok cost ∧ Fits resourceContext cost

/-- An experiment worth its cost. -/
def Worthwhile : Prop :=
  planner.Informative beliefState candidate ∧ planner.Affordable resourceContext candidate

/-- The planner answers, gives up only when nothing is left to learn, and otherwise plans an untested
candidate of which enough is expected, which it marks as tested, with one reservation for its cost. -/
def SelectionHolds (traceId reservationId : String) : Prop :=
  ∃ planned planner' context, planner.planNextExperiment beliefState traceId candidates
      resourceContext reservationId = .ok (planned, planner', context) ∧
    (planned = none →
      resourceContext.budgetExhausted = true ∨
      (∀ c ∈ planner.untested candidates, ¬ planner.Informative beliefState c) ∨
      ∀ c ∈ planner.untested candidates, planner.Informative beliefState c →
        ¬ planner.Affordable resourceContext c) ∧
    ∀ experiment reservation, planned = some (experiment, reservation) →
      experiment.candidate ∈ planner.untested candidates ∧
      planner.Informative beliefState experiment.candidate ∧
      planner.costOf experiment.candidate = .ok reservation.estimate.costUsd ∧
      reservation.isOpen = true ∧
      planner' = { planner with tested := planner.tested ++ [experiment.candidate.key] } ∧
      context = { resourceContext with
        reservedUsd := PyFloat.add resourceContext.reservedUsd reservation.estimate.costUsd
        reservedCount := resourceContext.reservedCount + 1 }

/-- The untested candidates have utilities, and either none of them is worthwhile, or the one with the
greatest utility is, the first one of these. -/
def Selects : Prop :=
  ∃ scored, (planner.untested candidates).mapM (planner.score beliefState) = .ok scored ∧
    ((∀ c ∈ planner.untested candidates, ¬ planner.Worthwhile beliefState resourceContext c) ∨
      ∀ before best after, scored = before ++ best :: after →
        IsMaximum (PlannerArithmetic.lt C) (PlannerArithmetic.isNan C) ScoredExperiment.utility
          before best after →
        planner.Worthwhile beliefState resourceContext best.candidate)

/-! ## What is planned -/

section Planned

variable {planner beliefState candidates resourceContext candidate} {traceId reservationId : String}
  {beliefs : List (String × K)} {belief : String × K} {best : ScoredExperiment V K C}

theorem affordable_of_score (h : planner.score beliefState candidate = .ok best) :
    planner.Affordable resourceContext candidate ↔ Fits resourceContext best.costUsd := by
  have hcost := (score_eq_ok h).2.2
  constructor
  · rintro ⟨cost, hok, hfits⟩
    rwa [Except.ok.inj (hcost.symm.trans hok)]
  · exact fun hfits ↦ ⟨best.costUsd, hcost, hfits⟩

/-- A worthwhile candidate is planned. -/
theorem plan_of_worthwhile (h : planner.score beliefState candidate = .ok best)
    (hworth : planner.Worthwhile beliefState resourceContext candidate) :
    planner.plan traceId best resourceContext reservationId
      = (some (⟨candidate, traceId, best.eig, best.utility, best.blastRadius, best.costUsd⟩,
          ⟨⟨best.costUsd, 1, PyFloat.zero⟩, reservationId, false, false, .incident⟩),
        { planner with tested := planner.tested ++ [candidate.key] },
        { resourceContext with
          reservedUsd := PyFloat.add resourceContext.reservedUsd best.costUsd
          reservedCount := resourceContext.reservedCount + 1 }) := by
  obtain ⟨rfl, heig, -⟩ := score_eq_ok h
  have hgain : PlannerArithmetic.lt C best.eig planner.minEigThreshold = false := heig ▸ hworth.1
  have hfits : Fits resourceContext best.costUsd := (affordable_of_score h).mp hworth.2
  have hreserve : resourceContext.reserve ⟨best.costUsd, 1, PyFloat.zero⟩ reservationId = _ :=
    if_neg (Bool.eq_false_iff.mp hfits)
  rw [plan, if_neg (Bool.eq_false_iff.mp hgain), hreserve]

theorem plan_of_not_worthwhile (h : planner.score beliefState candidate = .ok best)
    (hworth : ¬ planner.Worthwhile beliefState resourceContext candidate) :
    planner.plan traceId best resourceContext reservationId = (none, planner, resourceContext) := by
  obtain ⟨-, heig, -⟩ := score_eq_ok h
  rw [plan]
  split
  · rfl
  · rename_i hgain
    have hinformative : planner.Informative beliefState candidate := by
      rw [Informative, ← heig]
      exact Bool.eq_false_iff.mpr hgain
    have hfits : ¬ Fits resourceContext best.costUsd :=
      fun hfits ↦ hworth ⟨hinformative, (affordable_of_score h).mpr hfits⟩
    have hreserve : resourceContext.reserve ⟨best.costUsd, 1, PyFloat.zero⟩ reservationId
        = (none, resourceContext) := if_pos (Bool.not_eq_false _ ▸ hfits)
    rw [hreserve]

/-- What is planned is worthwhile. -/
theorem SelectionHolds.of_worthwhile
    (hcandidate : candidate ∈ planner.untested candidates)
    (hscore : planner.score beliefState candidate = .ok best)
    (hplans : planner.planNextExperiment beliefState traceId candidates resourceContext reservationId
      = .ok (planner.plan traceId best resourceContext reservationId))
    (hworth : planner.Worthwhile beliefState resourceContext candidate) :
    planner.SelectionHolds beliefState candidates resourceContext traceId reservationId := by
  rw [plan_of_worthwhile hscore hworth] at hplans
  refine ⟨_, _, _, hplans, fun hnone ↦ absurd hnone (Option.some_ne_none _), ?_⟩
  rintro experiment reservation hsome
  obtain ⟨rfl, rfl⟩ := Prod.mk.inj (Option.some.inj hsome)
  exact ⟨hcandidate, hworth.1, (score_eq_ok hscore).2.2, rfl, rfl, rfl⟩

/-- A planner that plans nothing is to have a reason. -/
theorem SelectionHolds.of_none
    (hnone : planner.planNextExperiment beliefState traceId candidates resourceContext reservationId
      = .ok (none, planner, resourceContext))
    (hreason : resourceContext.budgetExhausted = true ∨
      ∀ c ∈ planner.untested candidates, ¬ planner.Worthwhile beliefState resourceContext c) :
    planner.SelectionHolds beliefState candidates resourceContext traceId reservationId := by
  refine ⟨none, planner, resourceContext, hnone, fun _ ↦ hreason.imp_right fun h ↦ Or.inr ?_,
    fun _ _ hsome ↦ absurd hsome.symm (Option.some_ne_none _)⟩
  exact fun c hc hinformative haffordable ↦ h c hc ⟨hinformative, haffordable⟩

/-- With a budget, the planner answers only when it has scored the candidates. -/
theorem exists_scored_of_answer
    {answer : Option (PlannedExperiment V K C × ResourceReservation C) × ExperimentPlanner K C
      × ResourceContext C}
    (hbudget : resourceContext.budgetExhausted = false)
    (h : planner.planNextExperiment (belief :: beliefs) traceId candidates resourceContext
      reservationId = .ok answer) :
    ∃ scored, (planner.untested candidates).mapM (planner.score (belief :: beliefs))
      = .ok scored := by
  rw [planNextExperiment, if_neg (by simp [hbudget]), if_neg (by simp)] at h
  obtain ⟨scored, hscored, -⟩ := bind_eq_ok_iff.mp h
  exact ⟨scored, hscored⟩

/-- The untested candidate that was scored as the best one. -/
theorem exists_of_isMaximum {scored before after : List (ScoredExperiment V K C)}
    (hscored : (planner.untested candidates).mapM (planner.score beliefState) = .ok scored)
    (heq : scored = before ++ best :: after) :
    best.candidate ∈ planner.untested candidates ∧
      planner.score beliefState best.candidate = .ok best := by
  obtain ⟨c, hc, hscore⟩ := exists_of_mem_mapM hscored (b := best) (by simp [heq])
  obtain rfl := (score_eq_ok hscore).1
  exact ⟨hc, hscore⟩

/-- **The planner gives up rightly** if and only if the budget is exhausted or the best candidate is
worthwhile when any is. -/
theorem selectionHolds_iff :
    planner.SelectionHolds (belief :: beliefs) candidates resourceContext traceId reservationId ↔
      resourceContext.budgetExhausted = true ∨
        planner.Selects (belief :: beliefs) candidates resourceContext := by
  constructor
  · rintro ⟨planned, planner', context, hanswer, hgivesUp, -⟩
    cases hbudget : resourceContext.budgetExhausted with
    | true => exact .inl rfl
    | false =>
      obtain ⟨scored, hscored⟩ := exists_scored_of_answer hbudget hanswer
      refine .inr ⟨scored, hscored, or_iff_not_imp_left.mpr fun hworth ↦ ?_⟩
      intro before best after heq hmax
      obtain ⟨-, hscore⟩ := exists_of_isMaximum hscored heq
      -- a best one that is not worthwhile is given up, although there is another one
      by_contra hnot
      have hbest := (maximum_eq_some_iff PlannerArithmetic.isNanOrder).mpr
        ⟨before, after, heq, hmax⟩
      rw [planNextExperiment_of_scored hbudget hscored hbest,
        plan_of_not_worthwhile hscore hnot] at hanswer
      have hnone : planned = none := (congrArg Prod.fst (Except.ok.inj hanswer)).symm
      refine hworth fun c hc hw ↦ ?_
      rcases hgivesUp hnone with hexhausted | hgain | hcost
      · exact Bool.noConfusion (hbudget.symm.trans hexhausted)
      · exact hgain c hc hw.1
      · exact hcost c hc hw.1 hw.2
  · rintro (hbudget | ⟨scored, hscored, hselects⟩)
    · exact .of_none (if_pos hbudget) (.inl hbudget)
    cases hbudget : resourceContext.budgetExhausted with
    | true => exact .of_none (if_pos hbudget) (.inl hbudget)
    | false =>
      cases hbest : maximum (PlannerArithmetic.lt C) ScoredExperiment.utility scored with
      | none =>
        obtain rfl := maximum_eq_none_iff.mp hbest
        have huntested : planner.untested candidates = [] :=
          List.forall₂_nil_right_iff.mp (mapM_eq_ok_iff.mp hscored)
        refine .of_none (planNextExperiment_of_nil huntested) (.inr fun c hc ↦ ?_)
        rw [huntested] at hc
        exact absurd hc List.not_mem_nil
      | some best =>
        have hplans : planner.planNextExperiment (belief :: beliefs) traceId candidates
            resourceContext reservationId
              = .ok (planner.plan traceId best resourceContext reservationId) :=
          planNextExperiment_of_scored hbudget hscored hbest
        obtain ⟨before, after, heq, hmax⟩ :=
          exists_isMaximum PlannerArithmetic.isNanOrder hbest
        obtain ⟨hcandidate, hscore⟩ := exists_of_isMaximum hscored heq
        by_cases hworth : planner.Worthwhile (belief :: beliefs) resourceContext best.candidate
        · exact .of_worthwhile hcandidate hscore hplans hworth
        · rw [plan_of_not_worthwhile hscore hworth] at hplans
          exact .of_none hplans (.inr (hselects.resolve_right fun h ↦
            hworth (h before best after heq hmax)))

end Planned

/-! ## The cheap experiment -/

/-- A planner that expects less than the threshold of an intervention on `a`, and more of others. -/
def samplePlanner : ExperimentPlanner ℚ ℚ :=
  { default fun _ ↦ 0 with
    informationGain := fun _ target ↦ if target = "a" then 9 / 1000 else 1 / 20 }

/-- Two candidates: the first one costs nothing, the second one half of the budget. -/
def sampleCandidates : List (ExperimentCandidate ℚ) :=
  [⟨some "a", none, none, none, none, some 0, some 0⟩,
    ⟨some "b", none, none, none, none, some 5, some 0⟩]

/-- The experiment on `a` costs nothing and tells too little, and it has the greater utility. -/
theorem not_selectionHolds_cheap :
    ¬ samplePlanner.SelectionHolds [("a", 1 / 2), ("b", 1 / 2)] sampleCandidates
      (ResourceContext.new 10 300) "trace" "r" := by
  rintro ⟨planned, planner', context, hanswer, hgivesUp, -⟩
  have hrun : ((samplePlanner.planNextExperiment [("a", 1 / 2), ("b", 1 / 2)] "trace"
      sampleCandidates (ResourceContext.new 10 300) "r").toOption.map fun answer ↦ answer.1.isNone)
      = some true := by decide +kernel
  rw [hanswer] at hrun
  have hnone : planned = none := Option.isNone_iff_eq_none.mp (Option.some.inj hrun)
  have hb : sampleCandidates[1] ∈ samplePlanner.untested sampleCandidates := by decide +kernel
  have hinformative : samplePlanner.Informative [("a", 1 / 2), ("b", 1 / 2)] sampleCandidates[1] := by
    unfold Informative
    decide +kernel
  have hfits : Fits (ResourceContext.new 10 300) (5 : ℚ) := by
    unfold Fits
    decide +kernel
  rcases hgivesUp hnone with hexhausted | hgain | hcost
  · exact absurd hexhausted (by decide +kernel)
  · exact hgain _ hb hinformative
  · exact hcost _ hb hinformative ⟨5, rfl, hfits⟩

end DriftGuardX.Replay.ExperimentPlanner
