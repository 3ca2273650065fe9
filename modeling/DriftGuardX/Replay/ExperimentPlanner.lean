import DriftGuardX.Foundation.Selection
import DriftGuardX.Foundation.Transaction
import DriftGuardX.Incident.Resources
import DriftGuardX.Replay.BeliefModel
import Mathlib.Data.Rat.Cast.Defs

/-!
# The experiment planner

Of the candidates that were not tested, the planner chooses the one of highest utility, and plans it
when enough information is expected of it and its cost fits into the budget. The batch variant asks
for one experiment after another until there is none.

The planner never plans an experiment of which less than the threshold is expected
(`planNextExperiment_eq_none`). Its arithmetic is a parameter, with one type for information and one for
money, both of which are floats in the source.
-/

namespace DriftGuardX.Replay

open Incident (PyFloat ResourceContext ResourceReservation ToFloat)
open Recovery (Raised)
open Transaction

/-- What the planner does with numbers: information and utilities in `K`, money and risks in `C`. -/
class PlannerArithmetic (K C : Type) where
  literal : ℚ → C
  mul : C → C → C
  weigh : K → K → K
  /-- A quotient, of a divisor that is not zero. -/
  quotient : K → C → K
  /-- `1.0 / n` -/
  share : ℕ → K
  lt : K → K → Bool
  le : K → K → Bool
  isNan : K → Bool
  isNanOrder : IsNanOrder lt le isNan

/-- Exact arithmetic, with rational amounts of money. -/
instance {K : Type} [Field K] [LinearOrder K] : PlannerArithmetic K ℚ where
  literal q := q
  mul := (· * ·)
  weigh := (· * ·)
  quotient a q := a / (q : K)
  share n := 1 / (n : K)
  lt a b := decide (a < b)
  le a b := decide (a ≤ b)
  isNan _ := false
  isNanOrder := isNanOrder_of_linearOrder

instance : ToFloat ℚ ℚ := ⟨.ok⟩

/-- The keys of a candidate that the planner reads, and its type. -/
structure ExperimentCandidate (V : Type) where
  candidateId : Option String
  id : Option String
  targetVariable : Option String
  nodeId : Option String
  type : Option String
  estimatedCostUsd : Option V
  regressionRisk : Option V
  deriving DecidableEq, Repr

namespace ExperimentCandidate

variable {V : Type} (candidate : ExperimentCandidate V)

def key : String := candidate.candidateId.getD (candidate.id.getD "")

def targetNode : String :=
  candidate.targetVariable.getD (candidate.nodeId.getD candidate.key)

end ExperimentCandidate

structure ScoredExperiment (V K C : Type) where
  candidate : ExperimentCandidate V
  eig : K
  utility : K
  blastRadius : C
  costUsd : C

/-- A candidate that was planned, with what the planner adds to it. -/
structure PlannedExperiment (V K C : Type) where
  candidate : ExperimentCandidate V
  envelopeId : String
  expectedEig : K
  utility : K
  blastRadius : C
  reservedCostUsd : C

/-- The planner, with what its estimators answer: the blast radius of a node, and the information that
is expected of an intervention on a node under some beliefs. -/
structure ExperimentPlanner (K C : Type) where
  blastRadius : String → C
  informationGain : List (String × K) → String → K
  defaultCost : C
  minEigThreshold : K
  eigWeight : K
  costPenalty : C
  blastPenalty : C
  riskPenalty : C
  tested : List String

namespace ExperimentPlanner

/-- `RiskLimitedSequentialCausalExperimentPlanner()`, which knows no graph, in exact arithmetic. -/
def default {K : Type} [Field K] [LinearOrder K] (log2 : K → K) : ExperimentPlanner K ℚ where
  blastRadius _ := 1 / 2
  informationGain beliefs target := (RootCauseBeliefModel.expectedInformationGain log2 ⟨beliefs⟩
    target TopologicalLikelihoodEstimator.withoutEdges.estimateLikelihood).1
  defaultCost := 1 / 20
  minEigThreshold := ((1 / 100 : ℚ) : K)
  eigWeight := 1
  costPenalty := 1
  blastPenalty := 3 / 2
  riskPenalty := 2
  tested := []

variable {V K C : Type} [PyFloat C] [PlannerArithmetic K C] [ToFloat V C]
  (planner : ExperimentPlanner K C)

def denominator (costUsd blastRadius regressionRisk : C) : C :=
  PyFloat.add
    (PyFloat.add
      (PyFloat.add (PlannerArithmetic.mul K costUsd planner.costPenalty)
        (PlannerArithmetic.mul K blastRadius planner.blastPenalty))
      (PlannerArithmetic.mul K regressionRisk planner.riskPenalty))
    (PlannerArithmetic.literal K (1 / 100000000))

/-- `_compute_experiment_utility`. -/
def utility (eig : K) (costUsd blastRadius regressionRisk : C) : Except Raised K :=
  let denominator := planner.denominator costUsd blastRadius regressionRisk
  if PyFloat.isZero denominator then .error ⟨.other, "float division by zero"⟩
  else .ok (PlannerArithmetic.quotient (PlannerArithmetic.weigh C eig planner.eigWeight) denominator)

variable (beliefState : List (String × K)) (candidate : ExperimentCandidate V)

def costOf : Except Raised C :=
  candidate.estimatedCostUsd.elim (.ok planner.defaultCost) ToFloat.toFloat

def riskOf : Except Raised C :=
  candidate.regressionRisk.elim
    (.ok (PlannerArithmetic.mul K (planner.blastRadius candidate.targetNode)
      (PlannerArithmetic.literal K (1 / 2)))) ToFloat.toFloat

def score : Except Raised (ScoredExperiment V K C) := do
  let eig := planner.informationGain beliefState candidate.targetNode
  let blast := planner.blastRadius candidate.targetNode
  let cost ← planner.costOf candidate
  let regressionRisk ← planner.riskOf candidate
  let utility ← planner.utility eig cost blast regressionRisk
  pure { candidate, eig, utility, blastRadius := blast, costUsd := cost }

/-- The experiment that is planned when there is a best one, with its reservation. -/
def plan (traceId : String) (best : ScoredExperiment V K C) (resourceContext : ResourceContext C)
    (reservationId : String) :
    Option (PlannedExperiment V K C × ResourceReservation C) × ExperimentPlanner K C
      × ResourceContext C :=
  if PlannerArithmetic.lt C best.eig planner.minEigThreshold then (none, planner, resourceContext)
  else
    match resourceContext.reserve ⟨best.costUsd, 1, PyFloat.zero⟩ reservationId with
    | (none, context) => (none, planner, context)
    | (some reservation, context) =>
      (some (⟨best.candidate, traceId, best.eig, best.utility, best.blastRadius, best.costUsd⟩,
        reservation), { planner with tested := planner.tested ++ [best.candidate.key] }, context)

def untested (candidates : List (ExperimentCandidate V)) : List (ExperimentCandidate V) :=
  candidates.filter fun c ↦ c.key ∉ planner.tested

/-- `plan_next_experiment`: the experiment and its reservation, and what is left of the planner and
of the resources. A candidate whose numbers cannot be read, or whose utility divides by zero,
raises. -/
def planNextExperiment (traceId : String) (candidates : List (ExperimentCandidate V))
    (resourceContext : ResourceContext C) (reservationId : String) :
    Except Raised (Option (PlannedExperiment V K C × ResourceReservation C) × ExperimentPlanner K C
      × ResourceContext C) :=
  if resourceContext.budgetExhausted then .ok (none, planner, resourceContext)
  else if beliefState.isEmpty then .ok (none, planner, resourceContext)
  else do
    let scored ← (planner.untested candidates).mapM (planner.score beliefState)
    match Selection.maximum (PlannerArithmetic.lt C) ScoredExperiment.utility scored with
    | none => pure (none, planner, resourceContext)
    | some best => pure (planner.plan traceId best resourceContext reservationId)

end ExperimentPlanner

section Selection

variable {V K C : Type} [PyFloat C] [PlannerArithmetic K C] [ToFloat V C] (traceId : String)
  (candidates : List (ExperimentCandidate V))

/-- The loop of the batch variant, over the reservation ids. Each reservation is committed at its
estimated cost. -/
def selectLoop (beliefState : List (String × K)) : List String → ExperimentPlanner K C →
    ResourceContext C → Except Raised (List (PlannedExperiment V K C))
  | [], _, _ => .ok []
  | reservationId :: reservationIds, planner, resourceContext => do
    match ← planner.planNextExperiment beliefState traceId candidates resourceContext
        reservationId with
    | (none, _, _) => pure []
    | (some (experiment, reservation), planner, context) =>
      let selected ← selectLoop beliefState reservationIds planner
        (reservation.commit ⟨reservation.estimate.costUsd, 1, PyFloat.zero⟩ context).2
      pure (experiment :: selected)

/-- The beliefs that the batch variant starts from when it is given none. -/
def uniformBeliefs : List (String × K) :=
  (candidates.map fun c ↦ c.targetVariable.getD "").eraseDups.map fun target ↦
    (target, PlannerArithmetic.share C (max 1 candidates.length))

/-- `select_minimum_experiments`. -/
def selectMinimumExperiments (planner : ExperimentPlanner K C) (beliefState : List (String × K))
    (resourceContext : Option (ResourceContext C)) (maxToSelect : ℕ)
    (reservationIds : ℕ → String) : Except Raised (List (PlannedExperiment V K C)) :=
  selectLoop traceId candidates
    (if beliefState.isEmpty then uniformBeliefs (C := C) candidates else beliefState)
    ((List.range maxToSelect).map reservationIds) planner
    (resourceContext.getD (ResourceContext.new
      (PlannerArithmetic.mul K (PlannerArithmetic.literal K maxToSelect) planner.defaultCost)
      (PlannerArithmetic.literal K 300)))

end Selection

/-! ## What is planned -/

section Planned

variable {V K C : Type} [PyFloat C] [PlannerArithmetic K C] [ToFloat V C]
  {planner : ExperimentPlanner K C} {traceId reservationId : String}
  {candidates : List (ExperimentCandidate V)} {beliefState : List (String × K)}
  {resourceContext : ResourceContext C}

namespace ExperimentPlanner

theorem score_eq_ok {candidate : ExperimentCandidate V} {s : ScoredExperiment V K C}
    (h : planner.score beliefState candidate = .ok s) :
    s.candidate = candidate ∧ s.eig = planner.informationGain beliefState candidate.targetNode ∧
      planner.costOf candidate = .ok s.costUsd := by
  simp only [score, bind_eq_ok_iff, pure_eq_ok_iff] at h
  obtain ⟨cost, hcost, regressionRisk, -, utility, -, rfl⟩ := h
  exact ⟨rfl, rfl, hcost⟩

/-- The planner comes to the best of the candidates that it scores. -/
theorem planNextExperiment_of_scored {belief : String × K} {beliefs : List (String × K)}
    {scored : List (ScoredExperiment V K C)} {best : ScoredExperiment V K C}
    (hbudget : resourceContext.budgetExhausted = false)
    (hscored : (planner.untested candidates).mapM (planner.score (belief :: beliefs)) = .ok scored)
    (hbest : Selection.maximum (PlannerArithmetic.lt C) ScoredExperiment.utility scored
      = some best) :
    planner.planNextExperiment (belief :: beliefs) traceId candidates resourceContext reservationId
      = .ok (planner.plan traceId best resourceContext reservationId) := by
  rw [planNextExperiment, if_neg (by simp [hbudget]), if_neg (by simp), hscored, ok_bind, hbest]
  rfl

theorem planNextExperiment_of_nil {belief : String × K} {beliefs : List (String × K)}
    (huntested : planner.untested candidates = []) :
    planner.planNextExperiment (belief :: beliefs) traceId candidates resourceContext reservationId
      = .ok (none, planner, resourceContext) := by
  rw [planNextExperiment]
  split
  · rfl
  · rw [if_neg (by simp), huntested]
    rfl

omit [ToFloat V C] in
theorem candidate_of_plan {best : ScoredExperiment V K C} {experiment : PlannedExperiment V K C}
    {reservation : ResourceReservation C}
    (h : (planner.plan traceId best resourceContext reservationId).1
      = some (experiment, reservation)) : experiment.candidate = best.candidate := by
  rw [plan] at h
  split at h
  · exact absurd h (by simp)
  · split at h
    · exact absurd h (by simp)
    · obtain ⟨rfl, -⟩ := Prod.mk.inj (Option.some.inj h)
      rfl

theorem candidate_of_planNextExperiment {experiment : PlannedExperiment V K C}
    {reservation : ResourceReservation C} {planner' : ExperimentPlanner K C}
    {context : ResourceContext C}
    (h : planner.planNextExperiment beliefState traceId candidates resourceContext reservationId
      = .ok (some (experiment, reservation), planner', context)) :
    experiment.candidate ∈ candidates := by
  rw [planNextExperiment] at h
  split at h
  · exact absurd h (by simp)
  · split at h
    · exact absurd h (by simp)
    · obtain ⟨scored, hscored, h⟩ := bind_eq_ok_iff.mp h
      split at h
      · exact absurd h (by simp)
      · rename_i best hbest
        have hplan := congrArg Prod.fst (pure_eq_ok_iff.mp h)
        have hmem := Selection.mem_of_maximum PlannerArithmetic.isNanOrder hbest
        obtain ⟨c, hc, hscore⟩ := exists_of_mem_mapM hscored hmem
        rw [candidate_of_plan hplan, (score_eq_ok hscore).1]
        exact List.mem_of_mem_filter hc

/-- Where too little is expected of every candidate, nothing is planned. -/
theorem planNextExperiment_eq_none
    (hscored : ∀ c ∈ candidates, ∃ s, planner.score beliefState c = .ok s)
    (hlow : ∀ c ∈ candidates, PlannerArithmetic.lt C
      (planner.informationGain beliefState c.targetNode) planner.minEigThreshold = true) :
    planner.planNextExperiment beliefState traceId candidates resourceContext reservationId
      = .ok (none, planner, resourceContext) := by
  rw [planNextExperiment]
  split
  · rfl
  · split
    · rfl
    · obtain ⟨scored, hscored⟩ := exists_mapM_eq_ok_iff.mpr fun c hc ↦
        hscored c (List.mem_of_mem_filter (p := fun c ↦ decide (c.key ∉ planner.tested)) hc)
      rw [untested, hscored, ok_bind]
      split
      · rfl
      · rename_i best hbest
        have hmem := Selection.mem_of_maximum PlannerArithmetic.isNanOrder hbest
        obtain ⟨c, hc, hscore⟩ := exists_of_mem_mapM hscored hmem
        have heig : PlannerArithmetic.lt C best.eig planner.minEigThreshold = true :=
          (score_eq_ok hscore).2.1 ▸ hlow c (List.mem_of_mem_filter hc)
        rw [plan, if_pos heig]
        rfl

omit [ToFloat V C] in
variable (planner traceId resourceContext reservationId) in
theorem exists_plan (best : ScoredExperiment V K C) : ∃ planned tested context,
    planner.plan traceId best resourceContext reservationId
      = (planned, { planner with tested := tested }, context) := by
  rw [plan]
  split
  · exact ⟨none, planner.tested, resourceContext, rfl⟩
  · split
    · exact ⟨none, planner.tested, _, rfl⟩
    · exact ⟨_, _, _, rfl⟩

variable (traceId resourceContext reservationId) in
/-- The planner answers when it can score the candidates. -/
theorem exists_planNextExperiment
    (hscored : ∀ c ∈ candidates, ∃ s, planner.score beliefState c = .ok s) :
    ∃ planned tested context, planner.planNextExperiment beliefState traceId candidates
        resourceContext reservationId
      = .ok (planned, { planner with tested := tested }, context) := by
  rw [planNextExperiment]
  split
  · exact ⟨none, planner.tested, resourceContext, rfl⟩
  · split
    · exact ⟨none, planner.tested, resourceContext, rfl⟩
    · obtain ⟨scored, hscored⟩ := exists_mapM_eq_ok_iff.mpr fun c hc ↦
        hscored c (List.mem_of_mem_filter (p := fun c ↦ decide (c.key ∉ planner.tested)) hc)
      rw [untested, hscored, ok_bind]
      split
      · exact ⟨none, planner.tested, resourceContext, rfl⟩
      · rename_i best hbest
        obtain ⟨planned, tested, context, hplan⟩ :=
          planner.exists_plan traceId reservationId resourceContext best
        exact ⟨planned, tested, context, congrArg Except.ok hplan⟩

end ExperimentPlanner

theorem exists_selectLoop (hscored : ∀ c ∈ candidates, ∃ s, planner.score beliefState c = .ok s)
    (reservationIds : List String) : ∃ selected,
    selectLoop traceId candidates beliefState reservationIds planner resourceContext
      = .ok selected := by
  induction reservationIds generalizing planner resourceContext with
  | nil => exact ⟨[], rfl⟩
  | cons reservationId reservationIds ih =>
    obtain ⟨planned, tested, context, hplanned⟩ :=
      ExperimentPlanner.exists_planNextExperiment traceId reservationId resourceContext hscored
    rw [selectLoop, hplanned, ok_bind]
    cases planned with
    | none => exact ⟨[], rfl⟩
    | some planned =>
      obtain ⟨rest, hrest⟩ := @ih { planner with tested := tested } _ hscored
      exact ⟨planned.1 :: rest, bind_eq_ok_iff.mpr ⟨rest, hrest, rfl⟩⟩

theorem candidate_mem_of_mem_selectLoop {reservationIds : List String}
    {selected : List (PlannedExperiment V K C)}
    (h : selectLoop traceId candidates beliefState reservationIds planner resourceContext
      = .ok selected) : ∀ experiment ∈ selected, experiment.candidate ∈ candidates := by
  induction reservationIds generalizing planner resourceContext selected with
  | nil =>
    obtain rfl := Except.ok.inj h
    exact List.forall_mem_nil _
  | cons reservationId reservationIds ih =>
    rw [selectLoop] at h
    obtain ⟨⟨planned, planner', context⟩, hplanned, h⟩ := bind_eq_ok_iff.mp h
    cases planned with
    | none =>
      obtain rfl := pure_eq_ok_iff.mp h
      exact List.forall_mem_nil _
    | some planned =>
      obtain ⟨rest, hrest, h⟩ := bind_eq_ok_iff.mp h
      obtain rfl := pure_eq_ok_iff.mp h
      exact List.forall_mem_cons.mpr
        ⟨ExperimentPlanner.candidate_of_planNextExperiment hplanned, ih hrest⟩

theorem selectLoop_eq_nil
    (hscored : ∀ c ∈ candidates, ∃ s, planner.score beliefState c = .ok s)
    (hlow : ∀ c ∈ candidates, PlannerArithmetic.lt C
      (planner.informationGain beliefState c.targetNode) planner.minEigThreshold = true)
    (reservationIds : List String) :
    selectLoop traceId candidates beliefState reservationIds planner resourceContext = .ok [] := by
  cases reservationIds with
  | nil => rfl
  | cons reservationId reservationIds =>
    rw [selectLoop, ExperimentPlanner.planNextExperiment_eq_none hscored hlow]
    rfl

end Planned

end DriftGuardX.Replay
