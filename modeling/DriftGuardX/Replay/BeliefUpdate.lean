import DriftGuardX.Foundation.Shares
import DriftGuardX.Replay.BeliefModel
import Mathlib.Algebra.Field.Rat
import Mathlib.Algebra.Order.Ring.Rat
import Mathlib.Data.List.Induction

/-!
# Updating the beliefs about root causes

An update multiplies each belief by the likelihood of what was observed, and divides by the total,
twice. The likelihoods of the two estimators lie between a tenth and nine tenths, so the clamps of
`_safe_prob` change nothing and the fallback to equal beliefs is not taken. The beliefs after any
updates are the shares of the products of the likelihoods (`afterUpdates_eq`).
-/

namespace DriftGuardX.Replay

open Shares

/-- Both estimators ask only whether an outcome is `mitigated`. -/
def InterventionOutcome.ofText (outcome : String) : InterventionOutcome :=
  if outcome = "mitigated" then .mitigated else .reproduced

section Model

variable {K : Type} [Field K]

namespace HeuristicLikelihoodEstimator

def estimateLikelihood : LikelihoodEstimator K := fun interventionNode rootCause outcome ↦
  if interventionNode = rootCause then
    TopologicalLikelihoodEstimator.likelihoods ((9 / 10 : ℚ) : K) ((1 / 10 : ℚ) : K) outcome
  else TopologicalLikelihoodEstimator.likelihoods ((1 / 10 : ℚ) : K) ((9 / 10 : ℚ) : K) outcome

end HeuristicLikelihoodEstimator

/-- The estimators of likelihoods. -/
inductive ComponentEstimator where
  | heuristic
  | topological (estimator : TopologicalLikelihoodEstimator)

def ComponentEstimator.estimateLikelihood : ComponentEstimator → LikelihoodEstimator K
  | heuristic => HeuristicLikelihoodEstimator.estimateLikelihood
  | topological estimator => estimator.estimateLikelihood

namespace RootCauseBeliefModel

/-- `_LAPLACE_ALPHA`. -/
def laplaceAlpha : ℚ := 1 / 10

/-- The model of distinct components, whose prior is equal for all. -/
def new (components : List String) : RootCauseBeliefModel K :=
  let total := components.length * ((1 + laplaceAlpha : ℚ) : K)
  ⟨components.map fun c ↦ (c, ((1 + laplaceAlpha : ℚ) : K) / total)⟩

variable [LinearOrder K]

def update (model : RootCauseBeliefModel K) (interventionNode : String)
    (outcome : InterventionOutcome) (estimator : LikelihoodEstimator K) :
    RootCauseBeliefModel K :=
  let unnormalized := model.beliefs.map fun belief ↦
    (belief.1, safeProb (estimator interventionNode belief.1 outcome) * belief.2)
  let total := (unnormalized.map Prod.snd).sum
  let beliefs :=
    -- all beliefs are equal when no component explains the outcome
    if total ≤ 0 then model.beliefs.map fun belief ↦ (belief.1, 1 / max 1 (model.beliefs.length : K))
    else unnormalized.map fun belief ↦ (belief.1, safeProb (belief.2 / total))
  let s := (beliefs.map Prod.snd).sum
  ⟨if 0 < s then beliefs.map fun belief ↦ (belief.1, belief.2 / s) else beliefs⟩

/-- The model after updates, each with an intervention and the text of its outcome. -/
def afterUpdates (components : List String) (estimator : LikelihoodEstimator K)
    (updates : List (String × String)) : RootCauseBeliefModel K :=
  updates.foldl (fun model u ↦ model.update u.1 (.ofText u.2) estimator) (new components)

end RootCauseBeliefModel

/-- The likelihood of all observations under a root cause. -/
def likelihoodOf (estimator : LikelihoodEstimator K) (updates : List (String × String))
    (rootCause : String) : K :=
  (updates.map fun u ↦ estimator u.1 rootCause (.ofText u.2)).prod

end Model

/-! ## The likelihoods -/

section Likelihoods

variable {K : Type} [Field K] [LinearOrder K] [IsStrictOrderedRing K]

/-- The likelihoods of an estimator are probabilities, and nothing is impossible. -/
def IsProper (estimator : LikelihoodEstimator K) : Prop :=
  ∀ interventionNode rootCause outcome, 0 < estimator interventionNode rootCause outcome ∧
    estimator interventionNode rootCause outcome ≤ 1

omit [IsStrictOrderedRing K] in
theorem likelihoods_mem {mitigated reproduced : K} (hmitigated : 0 < mitigated ∧ mitigated ≤ 1)
    (hreproduced : 0 < reproduced ∧ reproduced ≤ 1) (outcome : InterventionOutcome) :
    0 < TopologicalLikelihoodEstimator.likelihoods mitigated reproduced outcome ∧
      TopologicalLikelihoodEstimator.likelihoods mitigated reproduced outcome ≤ 1 := by
  cases outcome with
  | mitigated => exact hmitigated
  | reproduced => exact hreproduced

theorem ComponentEstimator.isProper (estimator : ComponentEstimator) :
    IsProper (estimator.estimateLikelihood : LikelihoodEstimator K) := by
  have hnine : (0 : K) < 9 / 10 ∧ (9 / 10 : K) ≤ 1 := by constructor <;> norm_num
  have height : (0 : K) < 8 / 10 ∧ (8 / 10 : K) ≤ 1 := by constructor <;> norm_num
  have htwo : (0 : K) < 2 / 10 ∧ (2 / 10 : K) ≤ 1 := by constructor <;> norm_num
  have hone : (0 : K) < 1 / 10 ∧ (1 / 10 : K) ≤ 1 := by constructor <;> norm_num
  intro interventionNode rootCause outcome
  cases estimator with
  | heuristic =>
    have hnine' : (0 : K) < (9 / 10 : ℚ) ∧ ((9 / 10 : ℚ) : K) ≤ 1 := by constructor <;> norm_num
    have hone' : (0 : K) < (1 / 10 : ℚ) ∧ ((1 / 10 : ℚ) : K) ≤ 1 := by constructor <;> norm_num
    rw [estimateLikelihood, HeuristicLikelihoodEstimator.estimateLikelihood]
    split
    · exact likelihoods_mem hnine' hone' outcome
    · exact likelihoods_mem hone' hnine' outcome
  | topological estimator =>
    rw [estimateLikelihood, TopologicalLikelihoodEstimator.estimateLikelihood]
    split
    · exact likelihoods_mem hnine hone outcome
    split
    · exact likelihoods_mem height htwo outcome
    split
    · exact likelihoods_mem hone hnine outcome
    · exact likelihoods_mem hone hnine outcome

theorem likelihoodOf_pos {estimator : LikelihoodEstimator K} (hproper : IsProper estimator)
    (updates : List (String × String)) (c : String) : 0 < likelihoodOf estimator updates c := by
  induction updates with
  | nil => exact one_pos
  | cons u updates ih =>
    rw [likelihoodOf, List.map_cons, List.prod_cons]
    exact mul_pos (hproper _ _ _).1 ih

omit [IsStrictOrderedRing K] in
theorem safeProb_of_mem {p : K} (hp : 0 ≤ p) (hle : p ≤ 1) : safeProb p = p := by
  rw [safeProb, if_neg (not_lt.mpr hp), min_eq_right hle]

end Likelihoods

namespace RootCauseBeliefModel

/-! ## The beliefs after updates -/

section Updates

variable {K : Type} [Field K] [LinearOrder K] [IsStrictOrderedRing K] {components : List String}
  {model : RootCauseBeliefModel K} {weight : String → K} {estimator : LikelihoodEstimator K}

/-- The beliefs are the shares of weights of the components. -/
def HasShares (components : List String) (weight : String → K) (model : RootCauseBeliefModel K) :
    Prop :=
  model.beliefs = components.map fun c ↦ (c, share components weight c)

theorem hasShares_new (hcomponents : components ≠ []) :
    (new components : RootCauseBeliefModel K).HasShares components fun _ ↦ 1 := by
  have hlength : (components.length : K) ≠ 0 :=
    Nat.cast_ne_zero.mpr (List.length_eq_zero_iff.not.mpr hcomponents)
  refine List.map_congr_left fun c _ ↦ congrArg (Prod.mk c) ?_
  have htotal : total components (fun _ ↦ (1 : K)) = components.length := by simp [total]
  have halpha : ((1 + laplaceAlpha : ℚ) : K) ≠ 0 := by
    rw [laplaceAlpha]
    norm_num
  rw [share, htotal]
  exact div_mul_cancel_right₀ halpha _ |>.trans (one_div _).symm

/-- An update multiplies the weights by the likelihoods. -/
theorem HasShares.update (hmodel : model.HasShares components weight)
    (hcomponents : components ≠ []) (hweight : ∀ c ∈ components, 0 < weight c)
    (hproper : IsProper estimator) (interventionNode : String) (outcome : InterventionOutcome) :
    (model.update interventionNode outcome estimator).HasShares components fun c ↦
      estimator interventionNode c outcome * weight c := by
  let posterior c := estimator interventionNode c outcome * share components weight c
  have hposterior : ∀ c ∈ components, 0 < posterior c :=
    fun c hc ↦ mul_pos (hproper _ _ _).1 (share_pos hweight hc)
  have htotal : 0 < total components posterior := total_pos hcomponents hposterior
  have hsum : ∀ f : String → K,
      ((components.map fun c ↦ (c, f c)).map Prod.snd).sum = total components f := by
    intro f
    rw [List.map_map]
    rfl
  have hunnormalized : (model.beliefs.map fun belief ↦
      (belief.1, safeProb (estimator interventionNode belief.1 outcome) * belief.2))
      = components.map fun c ↦ (c, posterior c) := by
    rw [hmodel, List.map_map]
    refine List.map_congr_left fun c _ ↦ congrArg (Prod.mk c) (congrArg (· * _) ?_)
    exact safeProb_of_mem (hproper _ _ _).1.le (hproper _ _ _).2
  have hnormalized : ((components.map fun c ↦ (c, posterior c)).map fun belief ↦
      (belief.1, safeProb (belief.2 / total components posterior)))
      = components.map fun c ↦ (c, share components posterior c) := by
    rw [List.map_map]
    refine List.map_congr_left fun c hc ↦ congrArg (Prod.mk c) ?_
    exact safeProb_of_mem (share_pos hposterior hc).le (share_le_one hposterior hc)
  rw [HasShares, RootCauseBeliefModel.update]
  dsimp only
  rw [hunnormalized, hsum, if_neg (not_le.mpr htotal), hnormalized, hsum, total_share htotal.ne',
    if_pos one_pos, List.map_map]
  refine List.map_congr_left fun c _ ↦ congrArg (Prod.mk c) ?_
  exact (div_one (share components posterior c)).trans
    (share_mul_share (total_pos hcomponents hweight).ne')

/-- **The beliefs after updates** are the shares of the likelihoods of all observations. -/
theorem afterUpdates_hasShares (hcomponents : components ≠ []) (hproper : IsProper estimator)
    (updates : List (String × String)) :
    (afterUpdates components estimator updates).HasShares components
      (likelihoodOf estimator updates) := by
  induction updates using List.reverseRecOn with
  | nil => exact hasShares_new hcomponents
  | append_singleton updates u ih =>
    have hstep := ih.update hcomponents (fun c _ ↦ likelihoodOf_pos hproper updates c) hproper
      u.1 (.ofText u.2)
    have hlikelihood : (fun c ↦ estimator u.1 c (.ofText u.2) * likelihoodOf estimator updates c)
        = likelihoodOf estimator (updates ++ [u]) := by
      funext c
      rw [likelihoodOf, likelihoodOf, List.map_append, List.prod_append, List.map_singleton,
        List.prod_singleton, mul_comm]
    rw [afterUpdates, List.foldl_concat, ← afterUpdates, ← hlikelihood]
    exact hstep

end Updates

/-! ## Bayes' rule -/

section Bayes

variable (components : List String) (estimator : ComponentEstimator)
  (updates : List (String × String))

/-- The beliefs are the posterior of a uniform prior. -/
structure IsPosterior (model : RootCauseBeliefModel ℚ) : Prop where
  pos : ∀ belief ∈ model.beliefs, 0 < belief.2
  sum_eq : (model.beliefs.map Prod.snd).sum = 1
  closed : model.beliefs = components.map fun c ↦
    (c, likelihoodOf estimator.estimateLikelihood updates c /
      (components.map (likelihoodOf estimator.estimateLikelihood updates)).sum)

/-- **Updates are Bayes' rule**, in any order. -/
theorem afterUpdates_isPosterior (hcomponents : components ≠ []) :
    IsPosterior components estimator updates
        (afterUpdates components estimator.estimateLikelihood updates) ∧
      ∀ reordered, updates.Perm reordered →
        afterUpdates components (estimator.estimateLikelihood : LikelihoodEstimator ℚ) reordered
          = afterUpdates components estimator.estimateLikelihood updates := by
  have hproper : IsProper (estimator.estimateLikelihood : LikelihoodEstimator ℚ) :=
    estimator.isProper
  have hshares := afterUpdates_hasShares hcomponents hproper
  have hweight : ∀ c ∈ components, 0 < likelihoodOf (K := ℚ) estimator.estimateLikelihood updates c :=
    fun c _ ↦ likelihoodOf_pos hproper updates c
  refine ⟨⟨fun belief hbelief ↦ ?_, ?_, hshares updates⟩, fun reordered hperm ↦ ?_⟩
  · rw [hshares updates] at hbelief
    obtain ⟨c, hc, rfl⟩ := List.mem_map.mp hbelief
    exact share_pos hweight hc
  · rw [hshares updates, List.map_map]
    exact total_share (total_pos hcomponents hweight).ne'
  · have hlikelihood : likelihoodOf (K := ℚ) estimator.estimateLikelihood reordered
        = likelihoodOf estimator.estimateLikelihood updates :=
      funext fun c ↦ (hperm.symm.map _).prod_eq
    have hbeliefs : (afterUpdates components estimator.estimateLikelihood reordered).beliefs
        = (afterUpdates components (estimator.estimateLikelihood : LikelihoodEstimator ℚ)
            updates).beliefs := by
      rw [hshares reordered, hshares updates, hlikelihood]
    exact congrArg RootCauseBeliefModel.mk hbeliefs

theorem afterUpdates_isPosterior_pair :
    IsPosterior ["a", "b"] .heuristic [("a", "mitigated"), ("b", "reproduced")]
        (afterUpdates ["a", "b"] ComponentEstimator.heuristic.estimateLikelihood
          [("a", "mitigated"), ("b", "reproduced")]) ∧
      ∀ reordered, [("a", "mitigated"), ("b", "reproduced")].Perm reordered →
        afterUpdates ["a", "b"]
            (ComponentEstimator.heuristic.estimateLikelihood : LikelihoodEstimator ℚ) reordered
          = afterUpdates ["a", "b"] ComponentEstimator.heuristic.estimateLikelihood
              [("a", "mitigated"), ("b", "reproduced")] :=
  afterUpdates_isPosterior _ _ _ (List.cons_ne_nil _ _)

end Bayes

end RootCauseBeliefModel

end DriftGuardX.Replay
