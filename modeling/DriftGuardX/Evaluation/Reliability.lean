import Mathlib.Algebra.Order.Floor.Ring
import Mathlib.Algebra.Order.Round
import Mathlib.Data.Rat.Floor
import Mathlib.Tactic.Linarith
import Mathlib.Tactic.NormNum

/-!
# Reliability scores

A trace is scored in five dimensions, each rounded to four places, and the weighted sum of these is
clamped and rounded again. Rounding goes to the nearest and to the even one of two that are equally
near, and it is monotone (`roundTo_mono`), so two scores are ordered as their weighted sums are,
unless the rounding makes them equal (`map_le_map_iff_or_eq`).
-/

namespace DriftGuardX.Evaluation

/-! ## Rounding -/

/-- The nearest integer, and the even one of two. -/
def roundHalfEven (x : ℚ) : ℤ :=
  if Int.fract x < 1 / 2 then ⌊x⌋
  else if 1 / 2 < Int.fract x then ⌊x⌋ + 1
  else if ⌊x⌋ % 2 = 0 then ⌊x⌋
  else ⌊x⌋ + 1

/-- `round(x, places)`. -/
def roundTo (places : ℕ) (x : ℚ) : ℚ := roundHalfEven (x * 10 ^ places) / 10 ^ places

theorem floor_le_roundHalfEven (x : ℚ) : ⌊x⌋ ≤ roundHalfEven x := by
  rw [roundHalfEven]
  split_ifs <;> omega

theorem roundHalfEven_le_floor (x : ℚ) : roundHalfEven x ≤ ⌊x⌋ + 1 := by
  rw [roundHalfEven]
  split_ifs <;> omega

theorem roundHalfEven_mono {x y : ℚ} (hxy : x ≤ y) : roundHalfEven x ≤ roundHalfEven y := by
  obtain hlt | heq := (Int.floor_le_floor hxy).lt_or_eq
  · exact (roundHalfEven_le_floor x).trans (hlt.trans_le (floor_le_roundHalfEven y))
  -- between the same integers, the greater fraction rounds no lower
  · have hfract : Int.fract x ≤ Int.fract y := by
      rw [Int.fract, Int.fract, heq]
      exact sub_le_sub_right hxy _
    rw [roundHalfEven, roundHalfEven, heq]
    split_ifs <;> first | omega | (exfalso; linarith)

theorem roundTo_mono (places : ℕ) : Monotone (roundTo places) := by
  intro x y hxy
  have hpow : (0 : ℚ) < 10 ^ places := by positivity
  rw [roundTo, roundTo, div_le_div_iff_of_pos_right hpow, Int.cast_le]
  exact roundHalfEven_mono (mul_le_mul_of_nonneg_right hxy hpow.le)

theorem roundTo_intCast (places : ℕ) (n : ℤ) : roundTo places n = n := by
  have hpow : (10 : ℚ) ^ places ≠ 0 := by positivity
  have hint : (n : ℚ) * 10 ^ places = ((n * 10 ^ places : ℤ) : ℚ) := by push_cast; rfl
  have hround : roundHalfEven ((n * 10 ^ places : ℤ) : ℚ) = n * 10 ^ places := by
    rw [roundHalfEven, Int.fract_intCast, if_pos (by norm_num), Int.floor_intCast]
  rw [roundTo, hint, hround]
  push_cast
  exact mul_div_cancel_right₀ _ hpow

theorem map_le_map_iff_or_eq {f : ℚ → ℚ} (hf : Monotone f) {x y : ℚ} :
    f x ≤ f y ↔ x ≤ y ∨ f x = f y := by
  constructor
  · intro hle
    obtain hxy | hyx := le_total x y
    · exact .inl hxy
    · exact .inr (hle.antisymm (hf hyx))
  · rintro (hxy | heq)
    · exact hf hxy
    · exact heq.le

/-! ## The scores -/

structure ReliabilityConfig where
  maxLatencyMs : ℚ
  maxTokensTotal : ℤ
  latencyWeight : ℚ
  policyWeight : ℚ
  errorWeight : ℚ
  tokenWeight : ℚ
  faithfulnessWeight : ℚ

/-- `DEFAULT_CONFIG`. -/
def defaultConfig : ReliabilityConfig := ⟨5000, 4096, 0.2, 0.3, 0.3, 0.1, 0.1⟩

/-- What the scores read of a span. -/
structure MeasuredSpan where
  latencyMs : Option ℚ
  policyResult : Option String
  errorType : Option String
  tokenCountInput : Option ℤ
  tokenCountOutput : Option ℤ

variable (config : ReliabilityConfig) (spans : List MeasuredSpan)

def latencyOk : ℚ :=
  let scores := (spans.filterMap MeasuredSpan.latencyMs).map fun latency ↦
    min (min 1 (config.maxLatencyMs / max latency 1)) 1
  if scores = [] then 1 else scores.sum / scores.length

def policyPass : ℚ :=
  let results := spans.filterMap MeasuredSpan.policyResult
  if results = [] then 1 else (results.filter (· = "allow")).length / results.length

/-- The number of spans with an error. -/
def errorCount : ℕ := (spans.filter fun span ↦ span.errorType.isSome).length

/-- The score for some errors in some spans. -/
def errorShare (errors count : ℕ) : ℚ := if errors = 0 then 1 else max 0 (1 - errors / count)

def errorFree : ℚ := errorShare (errorCount spans) spans.length

def totalTokens : ℤ :=
  (spans.map fun span ↦ span.tokenCountInput.getD 0 + span.tokenCountOutput.getD 0).sum

def tokenBudget : ℚ :=
  if 0 < totalTokens spans then min 1 (config.maxTokensTotal / max (totalTokens spans) 1) else 1

/-- `compute_reliability_vector`. -/
def computeReliabilityVector (faithfulnessScore : Option ℚ) : List (String × ℚ) :=
  [("latency_ok", roundTo 4 (latencyOk config spans)),
    ("policy_pass", roundTo 4 (policyPass spans)),
    ("error_free", roundTo 4 (errorFree spans)),
    ("token_budget", roundTo 4 (tokenBudget config spans)),
    ("faithfulness", roundTo 4 (faithfulnessScore.getD 1))]

def weights : List (String × ℚ) :=
  [("latency_ok", config.latencyWeight), ("policy_pass", config.policyWeight),
    ("error_free", config.errorWeight), ("token_budget", config.tokenWeight),
    ("faithfulness", config.faithfulnessWeight)]

/-- The weighted sum of the scores of a vector. -/
def weightedSum (vector : List (String × ℚ)) : ℚ :=
  ((weights config).map fun m ↦ (vector.lookup m.1).getD 0 * m.2).sum

/-- Clamped and rounded. -/
def scoreOf (sum : ℚ) : ℚ := roundTo 4 (min (max sum 0) 1)

/-- `aggregate_reliability_score`. -/
def aggregateReliabilityScore (vector : List (String × ℚ)) : ℚ := scoreOf (weightedSum config vector)

theorem scoreOf_mono : Monotone scoreOf := fun _ _ h ↦
  roundTo_mono 4 (min_le_min_right 1 (max_le_max_right 0 h))

/-- The weighted sum for a trace, by dimension. -/
theorem weightedSum_computeReliabilityVector (faithfulnessScore : Option ℚ) :
    weightedSum config (computeReliabilityVector config spans faithfulnessScore)
      = roundTo 4 (latencyOk config spans) * config.latencyWeight
        + (roundTo 4 (policyPass spans) * config.policyWeight
        + (roundTo 4 (errorFree spans) * config.errorWeight
        + (roundTo 4 (tokenBudget config spans) * config.tokenWeight
        + roundTo 4 (faithfulnessScore.getD 1) * config.faithfulnessWeight))) := by
  simp [weightedSum, weights, computeReliabilityVector, List.lookup_cons]

end DriftGuardX.Evaluation
