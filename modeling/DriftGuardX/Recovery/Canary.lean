import Mathlib.Algebra.Order.Ring.Rat
import Mathlib.Data.List.Basic

/-!
# Canary verification

The metrics of a set of replayed episodes before and after an action, compared with thresholds. The
arithmetic of floats is a parameter; the verification returns whatever they are.
-/

namespace DriftGuardX.Recovery

/-- What the canary does with floats. -/
class FloatMetric (M : Type) where
  literal : ℚ → M
  sub : M → M → M
  sum : List M → M
  divNat : M → ℕ → M
  le : M → M → Bool
  /-- The text of a float in a format. -/
  format : String → M → String

/-- Exact arithmetic. -/
instance : FloatMetric ℚ where
  literal q := q
  sub a b := a - b
  sum := List.sum
  divNat a n := a / n
  le a b := a ≤ b
  format _ q := toString q

structure CanaryEpisode (M : Type) where
  episodeId : String
  baselineQuality : M
  baselineCostUsd : M
  baselineLatencyMs : M
  baselineSafe : Bool
  postQuality : M
  postCostUsd : M
  postLatencyMs : M
  postSafe : Bool

structure CanaryThresholds (M : Type) where
  minQualityDelta : M
  maxCostDeltaUsd : M
  maxLatencyDeltaMs : M

structure CanaryVerificationResult (M : Type) where
  proposalId : String
  nEpisodes : ℕ
  safetyPass : Bool
  qualityPass : Bool
  costPass : Bool
  latencyPass : Bool
  overallPass : Bool
  meanQualityDelta : M
  meanCostDelta : M
  meanLatencyDelta : M
  safetyViolationsPost : ℕ
  failureReasons : List String

variable {M : Type} [FloatMetric M]

def CanaryThresholds.default : CanaryThresholds M where
  minQualityDelta := FloatMetric.literal (-2 / 100)
  maxCostDeltaUsd := FloatMetric.literal (20 / 100)
  maxLatencyDeltaMs := FloatMetric.literal 200

/-- The mean of the change of a metric. -/
def meanDelta (post baseline : CanaryEpisode M → M) (episodes : List (CanaryEpisode M)) : M :=
  FloatMetric.divNat (FloatMetric.sum (episodes.map fun ep ↦
    FloatMetric.sub (post ep) (baseline ep))) episodes.length

def noEpisodes (proposalId : String) : CanaryVerificationResult M where
  proposalId
  nEpisodes := 0
  safetyPass := false
  qualityPass := false
  costPass := false
  latencyPass := false
  overallPass := false
  meanQualityDelta := FloatMetric.literal 0
  meanCostDelta := FloatMetric.literal 0
  meanLatencyDelta := FloatMetric.literal 0
  safetyViolationsPost := 0
  failureReasons := ["No canary episodes provided."]

def runCanaryVerification (proposalId : String) (episodes : List (CanaryEpisode M))
    (thresholds : Option (CanaryThresholds M)) : CanaryVerificationResult M :=
  if episodes = [] then noEpisodes proposalId
  else
    let thresholds := thresholds.getD .default
    let violationsPost := (episodes.filter fun ep ↦ !ep.postSafe).length
    let violationsBaseline := (episodes.filter fun ep ↦ !ep.baselineSafe).length
    let meanQ := meanDelta CanaryEpisode.postQuality CanaryEpisode.baselineQuality episodes
    let meanC := meanDelta CanaryEpisode.postCostUsd CanaryEpisode.baselineCostUsd episodes
    let meanL := meanDelta CanaryEpisode.postLatencyMs CanaryEpisode.baselineLatencyMs episodes
    let safetyPass := decide (violationsPost ≤ violationsBaseline)
    let qualityPass := FloatMetric.le thresholds.minQualityDelta meanQ
    let costPass := FloatMetric.le meanC thresholds.maxCostDeltaUsd
    let latencyPass := FloatMetric.le meanL thresholds.maxLatencyDeltaMs
    { proposalId
      nEpisodes := episodes.length
      safetyPass
      qualityPass
      costPass
      latencyPass
      overallPass := safetyPass && qualityPass && costPass && latencyPass
      meanQualityDelta := meanQ
      meanCostDelta := meanC
      meanLatencyDelta := meanL
      safetyViolationsPost := violationsPost
      failureReasons :=
        (if safetyPass then [] else
          [s!"Safety regression: {violationsPost} post-action violations vs {violationsBaseline} " ++
            "baseline."]) ++
        (if qualityPass then [] else
          ["Quality regression: mean delta " ++ FloatMetric.format "+.3f" meanQ ++ " < threshold " ++
            FloatMetric.format "" thresholds.minQualityDelta ++ "."]) ++
        (if costPass then [] else
          ["Cost overrun: mean delta +$" ++ FloatMetric.format ".3f" meanC ++ " > threshold +$" ++
            FloatMetric.format "" thresholds.maxCostDeltaUsd ++ "."]) ++
        if latencyPass then [] else
          ["Latency regression: mean delta +" ++ FloatMetric.format ".1f" meanL ++
            "ms > threshold +" ++ FloatMetric.format "" thresholds.maxLatencyDeltaMs ++ "ms."] }

end DriftGuardX.Recovery
