import Mathlib.Algebra.BigOperators.Group.List.Basic
import Mathlib.Algebra.Order.BigOperators.Group.List
import Mathlib.Algebra.Order.Field.Basic
import Mathlib.Tactic.FieldSimp
import Mathlib.Tactic.Linarith
import Mathlib.Tactic.Ring

/-!
# Beliefs about root causes

A belief model has a probability for each root cause that is considered. What an intervention is
expected to tell about them is how much the entropy of the beliefs falls, on average over its
outcomes. An intervention whose outcome is as likely under every one of the causes is expected to
tell nothing (`expectedInformationGain_eq_zero`).

The numbers are those of an ordered field, with a function for the logarithm.
-/

namespace DriftGuardX.Replay

inductive InterventionOutcome where
  | mitigated
  | reproduced
  deriving DecidableEq, Repr

/-- `estimate_likelihood`, from the node of an intervention, a root cause and an outcome. -/
abbrev LikelihoodEstimator (K : Type) := String → String → InterventionOutcome → K

/-- The descendants and the ancestors of the nodes of a graph. -/
structure TopologicalLikelihoodEstimator where
  descendants : String → List String
  ancestors : String → List String

section Model

variable {K : Type} [Field K] [LinearOrder K]

namespace TopologicalLikelihoodEstimator

/-- `TopologicalLikelihoodEstimator([])`, of a graph without edges. -/
def withoutEdges : TopologicalLikelihoodEstimator := ⟨fun _ ↦ [], fun _ ↦ []⟩

/-- The likelihood of an outcome, given those of both. -/
def likelihoods (mitigated reproduced : K) : InterventionOutcome → K
  | .mitigated => mitigated
  | .reproduced => reproduced

def estimateLikelihood (estimator : TopologicalLikelihoodEstimator) : LikelihoodEstimator K :=
  fun interventionNode rootCause outcome ↦
    if interventionNode = rootCause then likelihoods (9 / 10) (1 / 10) outcome
    else if interventionNode ∈ estimator.descendants rootCause then
      likelihoods (8 / 10) (2 / 10) outcome
    else if interventionNode ∈ estimator.ancestors rootCause then likelihoods (1 / 10) (9 / 10) outcome
    else likelihoods (1 / 10) (9 / 10) outcome

end TopologicalLikelihoodEstimator

/-- `_safe_prob`. -/
def safeProb (p : K) : K := if p < 0 then 0 else min 1 p

/-- The beliefs, by root cause. -/
structure RootCauseBeliefModel (K : Type) where
  beliefs : List (String × K)

namespace RootCauseBeliefModel

variable (log2 : K → K) (model : RootCauseBeliefModel K)

/-- The loops that add up an entropy. -/
def entropyOf (probabilities : List K) : K :=
  probabilities.foldl (fun h p ↦ if 0 < p then h - p * log2 p else h) 0

def entropy : K := max 0 (entropyOf log2 (model.beliefs.map Prod.snd))

variable (interventionNode : String) (estimator : LikelihoodEstimator K)

/-- The likelihood of an outcome, weighed by a belief. -/
def weigh (outcome : InterventionOutcome) (belief : String × K) : K :=
  safeProb (estimator interventionNode belief.1 outcome) * belief.2

/-- `p_o`, the probability of an outcome. -/
def outcomeProbability (outcome : InterventionOutcome) : K :=
  model.beliefs.foldl (fun p belief ↦ p + weigh interventionNode estimator outcome belief) 0

/-- What an outcome adds to the expected entropy. -/
def posteriorEntropy (outcome : InterventionOutcome) : K :=
  let p := model.outcomeProbability interventionNode estimator outcome
  if 0 < p then
    p * entropyOf log2
      (model.beliefs.map fun belief ↦ weigh interventionNode estimator outcome belief / p)
  else 0

/-- `expected_information_gain`: the gain, and the expected entropy. -/
def expectedInformationGain : K × K :=
  let expected := [InterventionOutcome.mitigated, .reproduced].foldl
    (fun h outcome ↦ h + model.posteriorEntropy log2 interventionNode estimator outcome) 0
  (max 0 (model.entropy log2 - expected), expected)

end RootCauseBeliefModel

end Model

namespace RootCauseBeliefModel

variable {K : Type} [Field K] [LinearOrder K] [IsStrictOrderedRing K] {log2 : K → K}
  {model : RootCauseBeliefModel K} {interventionNode : String} {estimator : LikelihoodEstimator K}

/-- The beliefs are probabilities that add up to one. -/
structure IsDistribution (model : RootCauseBeliefModel K) : Prop where
  nonneg : ∀ belief ∈ model.beliefs, 0 ≤ belief.2
  sum_eq : (model.beliefs.map Prod.snd).sum = 1

theorem entropyOf_nonneg (hlog : ∀ p, 0 < p → p ≤ 1 → log2 p ≤ 0) {probabilities : List K}
    (hle : ∀ p ∈ probabilities, p ≤ 1) : 0 ≤ entropyOf log2 probabilities := by
  have hfold : ∀ h : K, 0 ≤ h →
      0 ≤ probabilities.foldl (fun h p ↦ if 0 < p then h - p * log2 p else h) h := by
    induction probabilities with
    | nil => exact fun h hh ↦ hh
    | cons p probabilities ih =>
      intro h hh
      obtain ⟨hp, hrest⟩ := List.forall_mem_cons.mp hle
      rw [List.foldl_cons]
      refine ih hrest _ ?_
      split
      · rename_i hpos
        have hterm : p * log2 p ≤ 0 := mul_nonpos_of_nonneg_of_nonpos hpos.le (hlog p hpos hp)
        linarith
      · exact hh
  exact hfold 0 le_rfl

theorem IsDistribution.le_one (h : model.IsDistribution) :
    ∀ p ∈ model.beliefs.map Prod.snd, p ≤ 1 := by
  intro p hp
  have hnonneg : ∀ q ∈ model.beliefs.map Prod.snd, 0 ≤ q := by
    intro q hq
    obtain ⟨belief, hbelief, rfl⟩ := List.mem_map.mp hq
    exact h.nonneg belief hbelief
  exact h.sum_eq ▸ List.single_le_sum hnonneg p hp

omit [IsStrictOrderedRing K] in
theorem outcomeProbability_of_constant (h : model.IsDistribution) {outcome : InterventionOutcome} {l : K}
    (hl : 0 ≤ l ∧ l ≤ 1)
    (hconstant : ∀ belief ∈ model.beliefs, estimator interventionNode belief.1 outcome = l) :
    model.outcomeProbability interventionNode estimator outcome = l := by
  have hfold : ∀ (beliefs : List (String × K)) (p : K),
      (∀ belief ∈ beliefs, estimator interventionNode belief.1 outcome = l) →
      beliefs.foldl (fun p belief ↦ p + weigh interventionNode estimator outcome belief) p
        = p + l * (beliefs.map Prod.snd).sum := by
    intro beliefs
    induction beliefs with
    | nil => simp
    | cons belief beliefs ih =>
      intro p hall
      obtain ⟨hbelief, hrest⟩ := List.forall_mem_cons.mp hall
      rw [List.foldl_cons, ih _ hrest, weigh, hbelief, safeProb, if_neg (not_lt.mpr hl.1),
        min_eq_right hl.2, List.map_cons, List.sum_cons]
      ring
  rw [outcomeProbability, hfold model.beliefs 0 hconstant, h.sum_eq]
  ring

omit [IsStrictOrderedRing K] in
/-- Such an outcome leaves the beliefs as they are. -/
theorem posteriorEntropy_of_constant (h : model.IsDistribution) {outcome : InterventionOutcome} {l : K}
    (hl : 0 ≤ l ∧ l ≤ 1)
    (hconstant : ∀ belief ∈ model.beliefs, estimator interventionNode belief.1 outcome = l) :
    model.posteriorEntropy log2 interventionNode estimator outcome
      = l * entropyOf log2 (model.beliefs.map Prod.snd) := by
  rw [posteriorEntropy, outcomeProbability_of_constant h hl hconstant]
  split
  · rename_i hpos
    have hposterior : ∀ belief ∈ model.beliefs,
        weigh interventionNode estimator outcome belief / l = belief.2 := by
      intro belief hbelief
      rw [weigh, hconstant belief hbelief, safeProb, if_neg (not_lt.mpr hl.1), min_eq_right hl.2,
        mul_div_cancel_left₀ _ hpos.ne']
    rw [List.map_congr_left hposterior]
  · rename_i hzero
    rw [le_antisymm (not_lt.mp hzero) hl.1, zero_mul]

/-- **No information.** When the outcomes are as likely under every cause, nothing is expected to be
gained. -/
theorem expectedInformationGain_eq_zero (hlog : ∀ p, 0 < p → p ≤ 1 → log2 p ≤ 0)
    (h : model.IsDistribution) {l : InterventionOutcome → K} (hl : ∀ outcome, 0 ≤ l outcome ∧ l outcome ≤ 1)
    (hsum : l .mitigated + l .reproduced = 1)
    (hconstant : ∀ outcome, ∀ belief ∈ model.beliefs,
      estimator interventionNode belief.1 outcome = l outcome) :
    (model.expectedInformationGain log2 interventionNode estimator).1 = 0 := by
  have hprior : 0 ≤ entropyOf log2 (model.beliefs.map Prod.snd) := entropyOf_nonneg hlog h.le_one
  have hexpected : (model.expectedInformationGain log2 interventionNode estimator).2
      = entropyOf log2 (model.beliefs.map Prod.snd) := by
    calc 0 + model.posteriorEntropy log2 interventionNode estimator .mitigated
          + model.posteriorEntropy log2 interventionNode estimator .reproduced
        = (l .mitigated + l .reproduced) * entropyOf log2 (model.beliefs.map Prod.snd) := by
          rw [posteriorEntropy_of_constant h (hl _) (hconstant _),
            posteriorEntropy_of_constant h (hl _) (hconstant _)]
          ring
      _ = entropyOf log2 (model.beliefs.map Prod.snd) := by rw [hsum, one_mul]
  have hgain : (model.expectedInformationGain log2 interventionNode estimator).1
      = max 0 (model.entropy log2
        - (model.expectedInformationGain log2 interventionNode estimator).2) := rfl
  rw [hgain, hexpected, entropy, max_eq_right hprior, sub_self, max_self]

end RootCauseBeliefModel

end DriftGuardX.Replay
