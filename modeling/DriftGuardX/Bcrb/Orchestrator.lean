import DriftGuardX.Replay.Manifest
import Mathlib.Data.List.Nodup
import Mathlib.Data.List.Sort

/-!
# Sessions of the causal reasoning board

A session tests the candidates of the planner one after the other, the one with the highest estimated
utility first, and updates the posterior of the one that was tested by what its canary measured.
The arithmetic is that of floating-point numbers, of which only the order and some signs are used.

A canary returns one of a few steps. Only one of them has measured a recovery, and none has a cost
that counts.
-/

namespace DriftGuardX.Bcrb

open Isolation (Uuid)
open Replay (ComponentType)

/-- The floats of literals, the calibrated likelihoods of a difference in reliability, and what is used
of the arithmetic. -/
structure FloatLibrary (R : Type) [LinearOrder R] [Add R] [Sub R] [Mul R] [Div R] where
  literal : ℚ → R
  calculateCalibratedLikelihoods : R → R × R
  literal_mono : Monotone literal
  literal_neg_one_lt : literal (-1) < literal 0
  add_nonneg : ∀ x y, literal 0 ≤ x → literal 0 ≤ y → literal 0 ≤ x + y
  mul_nonneg : ∀ x y, literal 0 ≤ x → literal 0 ≤ y → literal 0 ≤ x * y
  div_nonneg : ∀ x y, literal 0 ≤ x → literal 0 ≤ y → literal 0 ≤ x / y

structure BCRBCandidate (R : Type) where
  candidateId : Uuid
  componentType : ComponentType
  estimatedUtility : R
  totalCost : R
  riskEstimate : R
  blastRadiusEstimate : R
  expectedReliabilityDelta : R
  expectedInformationGain : R
  prior : R
  posterior : Option R
  deriving DecidableEq, Repr

structure ReplayCost (R : Type) where
  totalCost : R
  measurementStatus : String
  deriving DecidableEq, Repr

/-- A step, with the difference in reliability that is its effect. -/
structure BCRBStep (R : Type) where
  candidateId : Uuid
  replayEpisodeId : Option Uuid
  utilityObserved : Option R
  costIncurred : Option (ReplayCost R)
  recoveryEffect : Option R
  decisionReason : String
  deriving DecidableEq, Repr

variable {R : Type} [LinearOrder R] [Add R] [Sub R] [Mul R] [Div R] (lib : FloatLibrary R)

/-! ## Utilities and posteriors -/

def calculateCandidateUtility (probability expectedReliabilityDelta informationGain cost risk
    blastRadius : R) : R :=
  probability * expectedReliabilityDelta * informationGain /
    (cost + lib.literal 1 * risk + lib.literal 1 * blastRadius + lib.literal (1 / 1000000))

def updatePosterior (prior likelihoodGivenCause likelihoodGivenNotCause : R) : R :=
  if prior ≤ lib.literal 0 then lib.literal 0
  else if lib.literal 1 ≤ prior then lib.literal 1
  else
    let evidence := likelihoodGivenCause * prior + likelihoodGivenNotCause * (lib.literal 1 - prior)
    if evidence = lib.literal 0 then prior
    else max (lib.literal 0) (min (lib.literal 1) (likelihoodGivenCause * prior / evidence))

theorem updatePosterior_nonneg (prior likelihood likelihood' : R) :
    lib.literal 0 ≤ updatePosterior lib prior likelihood likelihood' := by
  simp only [updatePosterior]
  split_ifs with hlow
  · exact le_rfl
  · exact lib.literal_mono (by norm_num)
  · exact (not_le.mp hlow).le
  · exact le_max_left _ _

/-- The utility of a candidate with what is believed of it. -/
def BCRBCandidate.utility (c : BCRBCandidate R) : R :=
  calculateCandidateUtility lib (c.posterior.getD c.prior) c.expectedReliabilityDelta
    c.expectedInformationGain c.totalCost c.riskEstimate c.blastRadiusEstimate

/-! ## The planner -/

/-- What the planner has found out about a plausible cause. The estimates of the calibrator are not
negative. -/
structure Proposal where
  candidateId : Uuid
  componentType : ComponentType
  prior : R
  totalCost : R
  riskEstimate : R
  blastRadiusEstimate : R
  expectedReliabilityDelta : R
  expectedInformationGain : R
  likely : lib.literal (1 / 20) < prior
  estimates : ∀ x ∈ [totalCost, riskEstimate, blastRadiusEstimate, expectedReliabilityDelta,
    expectedInformationGain], lib.literal 0 ≤ x

variable {lib} in
def Proposal.candidate (p : Proposal lib) : BCRBCandidate R where
  candidateId := p.candidateId
  componentType := p.componentType
  estimatedUtility := calculateCandidateUtility lib p.prior p.expectedReliabilityDelta
    p.expectedInformationGain p.totalCost p.riskEstimate p.blastRadiusEstimate
  totalCost := p.totalCost
  riskEstimate := p.riskEstimate
  blastRadiusEstimate := p.blastRadiusEstimate
  expectedReliabilityDelta := p.expectedReliabilityDelta
  expectedInformationGain := p.expectedInformationGain
  prior := p.prior
  posterior := none

/-- The higher estimated utility first, and the candidates of one utility in their order. -/
def byUtility (candidates : List (BCRBCandidate R)) : List (BCRBCandidate R) :=
  candidates.insertionSort fun c d ↦ d.estimatedUtility ≤ c.estimatedUtility

/-- What the planner proposes, each with an id of its own. -/
structure Plan where
  proposals : List (Proposal lib)
  nodup : (proposals.map fun p ↦ p.candidateId).Nodup

variable {lib} in
/-- `generate_candidates` -/
def Plan.candidates (plan : Plan lib) : List (BCRBCandidate R) :=
  byUtility (plan.proposals.map Proposal.candidate)

/-! ## Canaries -/

/-- How a test framework ends a canary: with an exception, or with one of its steps. The last two have
the cost of an episode, which the episodes of the replay engine do not have (`executeCanary`). -/
inductive CanaryOutcome (R : Type) where
  | raised
  | noDatabase
  | artifactsMissing (replayEpisodeId : Uuid)
  | versionMissing (replayEpisodeId : Uuid)
  | replacementMissing (replayEpisodeId : Uuid)
  | replayFailed (replayEpisodeId : Uuid) (error : String)
  | synthetic (replayId : Uuid) (cost : R)
  | measured (replayId : Uuid) (cost reliabilityDelta : R)
  deriving DecidableEq, Repr

/-- A step that has measured nothing. -/
def unmeasured (candidateId : Uuid) (replayEpisodeId : Option Uuid) (cost : Option (ReplayCost R))
    (reason : String) : BCRBStep R :=
  ⟨candidateId, replayEpisodeId, none, cost, none, reason⟩

def CanaryOutcome.step (candidateId : Uuid) : CanaryOutcome R → Option (BCRBStep R)
  | .raised => none
  | .noDatabase => some (unmeasured candidateId none none "No DB provided")
  | .artifactsMissing id => some (unmeasured candidateId id (some ⟨lib.literal 0, "UNAVAILABLE"⟩)
      "INSUFFICIENT_EVIDENCE: Required artifacts missing from DB.")
  | .versionMissing id => some (unmeasured candidateId id (some ⟨lib.literal 0, "UNAVAILABLE"⟩)
      "INSUFFICIENT_EVIDENCE: Current component version missing from trace.")
  | .replacementMissing id => some (unmeasured candidateId id (some ⟨lib.literal 0, "UNAVAILABLE"⟩)
      "INSUFFICIENT_EVIDENCE: No registered replacement version for candidate.")
  | .replayFailed id error => some (unmeasured candidateId id (some ⟨lib.literal 0, "FAILED"⟩)
      s!"INSUFFICIENT_EVIDENCE: Replay failed - {error}")
  | .synthetic id cost => some (unmeasured candidateId id (some ⟨cost, "OK"⟩)
      "SYNTHETIC_EVIDENCE_ONLY: Synthetic demonstrations are not valid causal evidence.")
  | .measured id cost reliabilityDelta =>
    some ⟨candidateId, id, some reliabilityDelta, some ⟨cost, "OK"⟩, some reliabilityDelta,
      "CLEAN: Measured via actual ReplayEngine execution."⟩

/-- The id that was drawn for the replay of a canary. -/
def CanaryOutcome.replayEpisodeId : CanaryOutcome R → Option Uuid
  | .raised | .noDatabase => none
  | .artifactsMissing id | .versionMissing id | .replacementMissing id | .replayFailed id _
  | .synthetic id _ | .measured id _ _ => some id

/-- What `execute_canary` finds in the database, and what it gets from the replay engine: an exception, an
error, or an episode. -/
inductive CanaryRun where
  | raises
  | noDatabase
  | artifactsMissing (replayEpisodeId : Uuid)
  | versionMissing (replayEpisodeId : Uuid)
  | replacementMissing (replayEpisodeId : Uuid)
  | replayFailed (replayEpisodeId : Uuid) (error : String)
  | replayed (replayId : Uuid)
  deriving DecidableEq, Repr

/-- `CanaryTestFramework.execute_canary`. -/
def executeCanary : CanaryRun → CanaryOutcome R
  | .raises => .raised
  | .noDatabase => .noDatabase
  | .artifactsMissing id => .artifactsMissing id
  | .versionMissing id => .versionMissing id
  | .replacementMissing id => .replacementMissing id
  | .replayFailed id error => .replayFailed id error
  -- `ReplayEpisode` has no `cost_usd`: reading it is an `AttributeError`
  | .replayed _ => .raised

/-- Canaries of candidates, each replay with an id of its own. -/
structure Canaries (R : Type) where
  execute : BCRBCandidate R → CanaryOutcome R
  drawn : ∀ c d id, (execute c).replayEpisodeId = some id → (execute d).replayEpisodeId = some id →
    c.candidateId = d.candidateId

/-! ## Sessions -/

structure BCRBSession (R : Type) where
  budgetUsd : R
  candidates : List (BCRBCandidate R)
  steps : List (BCRBStep R)
  totalSpentUsd : R
  testedCandidateIds : List Uuid
  deriving DecidableEq, Repr

namespace BCRBSession

variable {lib} in
/-- A session with what the planner generates. -/
def start (budgetUsd : R) (plan : Plan lib) : BCRBSession R where
  budgetUsd
  candidates := plan.candidates
  steps := []
  totalSpentUsd := lib.literal 0
  testedCandidateIds := []

/-- `evaluate_stopping_conditions`: the highest utility is below a bound when all are. -/
def stopped (s : BCRBSession R) : Bool :=
  s.budgetUsd ≤ s.totalSpentUsd ∨ s.candidates = [] ∨
    ∀ c ∈ s.candidates, c.estimatedUtility < lib.literal (1 / 10)

/-- A candidate can be tested within the budget. -/
def affordable (s : BCRBSession R) (c : BCRBCandidate R) : Bool :=
  ¬ s.budgetUsd < c.totalCost + s.totalSpentUsd

/-- The candidate that is tested next, if the session goes on. -/
def next (s : BCRBSession R) : Option (BCRBCandidate R) :=
  if s.stopped lib then none
  else (byUtility (s.candidates.filter fun c ↦ !s.testedCandidateIds.contains c.candidateId)).find?
    fun c ↦ s.affordable c

/-- The text does not say that the evidence is contaminated or confounded. -/
def clean (reason : String) : Bool :=
  ¬ "contaminated".toList <:+: reason.toLower.toList ∧ ¬ "confounded".toList <:+: reason.toLower.toList

/-- The posterior of the candidate that was tested, and the utility of one that was not. -/
def believe (tested : List Uuid) (id : Uuid) (reliabilityDelta : R) (c : BCRBCandidate R) :
    BCRBCandidate R :=
  let likelihoods := lib.calculateCalibratedLikelihoods reliabilityDelta
  let c :=
    if c.candidateId = id then
      { c with posterior := some (updatePosterior lib c.prior likelihoods.1 likelihoods.2) }
    else c
  if !tested.contains c.candidateId then { c with estimatedUtility := c.utility lib } else c

/-- What is spent after a step. -/
def spent (s : BCRBSession R) (step : BCRBStep R) : R :=
  match step.costIncurred with
  | some cost =>
    if cost.measurementStatus = "ACTUAL" then s.totalSpentUsd + cost.totalCost else s.totalSpentUsd
  | none => s.totalSpentUsd

/-- The session after the step of a candidate. -/
def record (s : BCRBSession R) (c : BCRBCandidate R) (step : BCRBStep R) : BCRBSession R :=
  let tested := s.testedCandidateIds ++ [c.candidateId]
  let s := { s with totalSpentUsd := s.spent step, testedCandidateIds := tested }
  match step.recoveryEffect with
  | some reliabilityDelta =>
    if clean step.decisionReason then
      { s with
        candidates := s.candidates.map (believe lib tested c.candidateId reliabilityDelta)
        steps := s.steps ++ [{ step with utilityObserved := some c.estimatedUtility }] }
    else { s with steps := s.steps ++ [step] }
  | none => { s with steps := s.steps ++ [step] }

/-- The highest posterior is at least 0.9. -/
def confident (s : BCRBSession R) : Bool :=
  s.candidates.any fun c ↦ c.posterior.any fun p ↦ lib.literal (9 / 10) ≤ p

/-- The loop, unless a canary raises. -/
def loop (canary : BCRBCandidate R → CanaryOutcome R) : ℕ → BCRBSession R → Option (BCRBSession R)
  | 0, s => some s
  | n + 1, s =>
    match s.next lib with
    | none => some s
    | some c => do
      let step ← (canary c).step lib c.candidateId
      let s := s.record lib c step
      if step.recoveryEffect.isSome ∧ clean step.decisionReason ∧ s.confident lib then some s
      else loop canary n s

end BCRBSession

variable {lib} in
/-- `execute_session`. Each turn tests another candidate, so there are no more turns than candidates. -/
def executeSession (budgetUsd : R) (plan : Plan lib) (canary : BCRBCandidate R → CanaryOutcome R) :
    Option (BCRBSession R) :=
  (BCRBSession.start budgetUsd plan).loop lib canary (plan.proposals.length + 1)

/-! ## An instance -/

/-- Exact numbers, with the likelihoods of a difference that is well above or well below what counts as
a recovery. -/
def exactNumbers : FloatLibrary ℚ where
  literal := id
  calculateCalibratedLikelihoods reliabilityDelta :=
    if 0 < reliabilityDelta then (19 / 20, 1 / 10) else (1 / 20, 19 / 20)
  literal_mono := monotone_id
  literal_neg_one_lt := by decide
  add_nonneg _ _ := add_nonneg
  mul_nonneg _ _ := mul_nonneg
  div_nonneg _ _ := div_nonneg

/-- A candidate that is as likely as not to be the cause. -/
def sampleProposal (candidateId : Uuid) (componentType : ComponentType) (expectedReliabilityDelta : ℚ)
    (h : 0 ≤ expectedReliabilityDelta) : Proposal exactNumbers where
  candidateId
  componentType
  prior := 1 / 2
  totalCost := 1 / 50
  riskEstimate := 1 / 10
  blastRadiusEstimate := 1 / 4
  expectedReliabilityDelta
  expectedInformationGain := 7 / 10
  likely := by
    change (1 / 20 : ℚ) < 1 / 2
    norm_num
  estimates x hx := by
    change 0 ≤ x
    simp only [List.mem_cons, List.not_mem_nil, or_false] at hx
    obtain rfl | rfl | rfl | rfl | rfl := hx
    · norm_num
    · norm_num
    · norm_num
    · exact h
    · norm_num

/-- A retriever and a generator. -/
def samplePlan : Plan exactNumbers where
  proposals :=
    [sampleProposal 1 .retriever (9 / 10) (by norm_num), sampleProposal 2 .generator (7 / 10) (by norm_num)]
  nodup := by decide

end DriftGuardX.Bcrb
