import DriftGuardX.Foundation.OrderStatistic
import Mathlib.Algebra.Order.BigOperators.Group.List
import Mathlib.Algebra.Order.Field.Basic
import Mathlib.Algebra.Order.Ring.Rat
import Mathlib.Data.Rat.Floor
import Mathlib.Tactic.Linarith

/-!
# Confidence bounds

The conformal bound is the calibration score at a rank, and the bootstrap bound lies between two
percentiles of the means of resamples. Ranks and percentiles are floors and ceilings of products with
the confidence. They stay within the list for every size and confidence, which makes the conformal
bound the least score that enough scores do not exceed, and keeps the bootstrap bound in order and
within the data (`bounds_are_orderStatistics`).

The numbers are rational here, so all of them are finite.
-/

namespace DriftGuardX.Evaluation

open OrderStatistic

/-! ## Results -/

inductive BoundMethod where
  | hoeffding
  | bootstrap
  | conformal
  | unsupported
  deriving DecidableEq, Repr

structure BoundResult where
  method : BoundMethod
  isSupported : Bool
  pointEstimate : ℚ
  nominalConfidence : ℚ
  n : ℕ
  assumptionsMet : List String
  assumptionsViolated : List String
  lower : Option ℚ
  upper : Option ℚ
  epsilon : Option ℚ
  delta : Option ℚ
  warning : Option String
  deriving DecidableEq

/-- `MIN_N_BOOTSTRAP`. -/
def minNBootstrap : ℕ := 10

/-- `sum(x / n for x in xs)`. -/
def meanOf (n : ℕ) (xs : List ℚ) : ℚ := (xs.map fun x ↦ x / (n : ℚ)).sum

/-- `unsupported_bound`. -/
def unsupportedBound (observations : List ℚ) (nominalConfidence : ℚ) (reason : String) :
    BoundResult where
  method := .unsupported
  isSupported := false
  pointEstimate := if observations = [] then 0 else meanOf observations.length observations
  nominalConfidence
  n := observations.length
  assumptionsMet := []
  assumptionsViolated := [reason]
  lower := none
  upper := none
  epsilon := none
  delta := none
  warning := some ("Bound not computed: " ++ reason)

/-- `_input_error`. -/
def inputError (confidence : ℚ) : Option String :=
  if 0 < confidence ∧ confidence < 1 then none
  else some "Confidence must be finite and strictly between zero and one."

/-- `xs[i]`, which raises where the index is out of range. -/
def itemAt (xs : List ℚ) (i : ℤ) : Option ℚ :=
  if 0 ≤ i then xs[i.toNat]?
  else if -(xs.length : ℤ) ≤ i then xs[(xs.length + i).toNat]?
  else none

theorem itemAt_eq_some {xs : List ℚ} {i : ℤ} (hi : 0 ≤ i) (hlt : i.toNat < xs.length) :
    itemAt xs i = some xs[i.toNat] := by
  rw [itemAt, if_pos hi, List.getElem?_eq_getElem hlt]

/-! ## The bootstrap bound -/

section Bootstrap

variable (observations : List ℚ) (nominalConfidence : ℚ) (nResamples : ℤ)
  (choice : ℕ → ℕ → Fin observations.length)

/-- The means of the resamples, sorted. The index of each choice is random. -/
def bootMeans : List ℚ :=
  sorted ((List.range nResamples.toNat).map fun r ↦ meanOf observations.length
    ((List.range observations.length).map fun j ↦ observations[choice r j]))

/-- `lo_idx`. -/
def loIdx : ℤ := max 0 ⌊(1 - nominalConfidence) / 2 * nResamples⌋

/-- `hi_idx`. -/
def hiIdx : ℤ := min (nResamples - 1) (⌈(1 - (1 - nominalConfidence) / 2) * nResamples⌉ - 1)

/-- `bootstrap_bound`, which raises where an index is out of range. -/
def bootstrapBound : Option BoundResult :=
  let n := observations.length
  match inputError nominalConfidence with
  | some error => some (unsupportedBound observations nominalConfidence error)
  | none =>
    if nResamples < 1 then some (unsupportedBound observations nominalConfidence
      "Resamples must be a positive integer.")
    else if n < minNBootstrap then some (unsupportedBound observations nominalConfidence
      ("n=" ++ toString n ++ " < " ++ toString minNBootstrap ++
        ": insufficient data for bootstrap resampling."))
    else do
      let lower ← itemAt (bootMeans observations nResamples choice) (loIdx nominalConfidence nResamples)
      let upper ← itemAt (bootMeans observations nResamples choice) (hiIdx nominalConfidence nResamples)
      return {
        method := .bootstrap
        isSupported := true
        pointEstimate := meanOf n observations
        nominalConfidence
        n
        assumptionsMet := [
          "n=" ++ toString n ++ " >= " ++ toString minNBootstrap ++ " (bootstrap minimum).",
          "Distribution-free; no shape assumption on reward distribution.",
          "Observations treated as exchangeable."]
        assumptionsViolated := []
        lower := some lower
        upper := some upper
        epsilon := some ((upper - lower) / 2)
        delta := some (1 - nominalConfidence)
        warning := none }

end Bootstrap

/-! ## The conformal bound -/

section Conformal

variable (calibrationScores : List ℚ) (newScore nominalConfidence : ℚ)

/-- `rank`, the number of scores that the bound has to reach. -/
def conformalRank : ℤ := ⌈((calibrationScores.length : ℚ) + 1) * nominalConfidence⌉

/-- `conformal_bound`, which raises where an index is out of range. -/
def conformalBound : Option BoundResult :=
  let n := calibrationScores.length
  match inputError nominalConfidence with
  | some error => some (unsupportedBound calibrationScores nominalConfidence error)
  | none =>
    if ∃ x ∈ calibrationScores, x < 0 then some (unsupportedBound calibrationScores nominalConfidence
      "Prediction center must be finite and absolute residuals nonnegative.")
    else if n < 10 then some (unsupportedBound calibrationScores nominalConfidence
      ("Calibration set has only " ++ toString n ++
        " scores; need >= 10 for conformal guarantee."))
    -- a rank beyond the list would need an infinite interval
    else if (n : ℤ) < conformalRank calibrationScores nominalConfidence then
      some (unsupportedBound calibrationScores nominalConfidence
        "Calibration size cannot support a finite interval at this confidence.")
    else do
      let tau ← itemAt (sorted calibrationScores)
        (conformalRank calibrationScores nominalConfidence - 1)
      return {
        method := .conformal
        isSupported := true
        pointEstimate := newScore
        nominalConfidence
        n
        assumptionsMet := [
          "Calibration set size n_cal=" ++ toString n ++ " >= 10.",
          "Caller must supply a separate calibration split unused in fitting or arm selection.",
          "Coverage is conditional on exchangeability; not verified from numeric inputs."]
        assumptionsViolated := []
        lower := some (newScore - tau)
        upper := some (newScore + tau)
        epsilon := some tau
        delta := some (1 - nominalConfidence)
        warning := none }

end Conformal

/-! ## Means -/

theorem inputError_eq_none {c : ℚ} (hc : 0 < c ∧ c < 1) : inputError c = none := if_pos hc

theorem meanOf_le {n : ℕ} {xs : List ℚ} {b : ℚ} (hn : 0 < n) (hlength : xs.length = n)
    (hxs : ∀ x ∈ xs, x ≤ b) : meanOf n xs ≤ b := by
  have hn' : (0 : ℚ) < n := Nat.cast_pos.mpr hn
  have hterm : ∀ y ∈ xs.map (fun x ↦ x / (n : ℚ)), y ≤ b / n := by
    intro y hy
    obtain ⟨x, hx, rfl⟩ := List.mem_map.mp hy
    exact div_le_div_of_nonneg_right (hxs x hx) hn'.le
  calc meanOf n xs ≤ (xs.map fun x ↦ x / (n : ℚ)).length • (b / n) :=
        List.sum_le_card_nsmul _ _ hterm
    _ = b := by rw [List.length_map, hlength, nsmul_eq_mul, mul_div_cancel₀ _ hn'.ne']

theorem le_meanOf {n : ℕ} {xs : List ℚ} {a : ℚ} (hn : 0 < n) (hlength : xs.length = n)
    (hxs : ∀ x ∈ xs, a ≤ x) : a ≤ meanOf n xs := by
  have hn' : (0 : ℚ) < n := Nat.cast_pos.mpr hn
  have hterm : ∀ y ∈ xs.map (fun x ↦ x / (n : ℚ)), a / n ≤ y := by
    intro y hy
    obtain ⟨x, hx, rfl⟩ := List.mem_map.mp hy
    exact div_le_div_of_nonneg_right (hxs x hx) hn'.le
  calc a = (xs.map fun x ↦ x / (n : ℚ)).length • (a / n) := by
        rw [List.length_map, hlength, nsmul_eq_mul, mul_div_cancel₀ _ hn'.ne']
    _ ≤ meanOf n xs := List.card_nsmul_le_sum _ _ hterm

/-! ## Percentiles -/

section Percentiles

variable {c : ℚ} {nResamples : ℤ}

theorem loIdx_nonneg : 0 ≤ loIdx c nResamples := le_max_left _ _

theorem hiIdx_lt : hiIdx c nResamples < nResamples := (min_le_left _ _).trans_lt (by omega)

theorem loIdx_le_hiIdx (hc : 0 < c ∧ c < 1) (hresamples : 1 ≤ nResamples) :
    loIdx c nResamples ≤ hiIdx c nResamples := by
  have hpos : (0 : ℚ) < nResamples := by exact_mod_cast hresamples
  have hlo : (⌊(1 - c) / 2 * nResamples⌋ : ℚ) ≤ (1 - c) / 2 * nResamples := Int.floor_le _
  have hhi : (1 - (1 - c) / 2) * nResamples ≤ (⌈(1 - (1 - c) / 2) * nResamples⌉ : ℚ) :=
    Int.le_ceil _
  have hbelow : (1 - c) / 2 * nResamples < nResamples :=
    mul_lt_of_lt_one_left hpos (by linarith [hc.1])
  have hbetween : (1 - c) / 2 * nResamples < (1 - (1 - c) / 2) * nResamples :=
    mul_lt_mul_of_pos_right (by linarith [hc.1]) hpos
  have habove : (0 : ℚ) < (1 - (1 - c) / 2) * nResamples :=
    mul_pos (by linarith [hc.1]) hpos
  have hfloor : ⌊(1 - c) / 2 * nResamples⌋ < nResamples := by exact_mod_cast hlo.trans_lt hbelow
  have hceil : 0 < ⌈(1 - (1 - c) / 2) * nResamples⌉ := by exact_mod_cast habove.trans_le hhi
  have hless : ⌊(1 - c) / 2 * nResamples⌋ < ⌈(1 - (1 - c) / 2) * nResamples⌉ := by
    exact_mod_cast (hlo.trans_lt hbetween).trans_le hhi
  rw [loIdx, hiIdx]
  omega

end Percentiles

/-! ## Bounds are order statistics -/

section Certified

variable (observations : List ℚ) (c : ℚ)

/-- The conformal bound is the least score that enough scores do not exceed, and is refused exactly
when there are not enough scores. -/
structure ConformalHolds (newScore : ℚ) : Prop where
  refuses : ∃ result, conformalBound observations newScore c = some result ∧
    (result.isSupported = false ↔
      (observations.length : ℤ) < ⌈((observations.length : ℚ) + 1) * c⌉)
  threshold : ∀ result, conformalBound observations newScore c = some result →
    result.isSupported = true → ∃ tau, result.epsilon = some tau ∧ tau ∈ observations ∧
      ⌈((observations.length : ℚ) + 1) * c⌉ ≤ observations.countP (fun s ↦ decide (s ≤ tau)) ∧
      ∀ t ∈ observations,
        ⌈((observations.length : ℚ) + 1) * c⌉ ≤ observations.countP (fun s ↦ decide (s ≤ t)) →
          tau ≤ t

/-- The percentiles of the bootstrap are in range and in order, and the bound is within the data. -/
structure BootstrapHolds (nResamples : ℤ) (choice : ℕ → ℕ → Fin observations.length) : Prop where
  nonneg : 0 ≤ loIdx c nResamples
  ordered : loIdx c nResamples ≤ hiIdx c nResamples
  inRange : hiIdx c nResamples < (bootMeans observations nResamples choice).length
  bound : ∃ result lower upper least greatest,
    bootstrapBound observations c nResamples choice = some result ∧ result.isSupported = true ∧
    result.lower = some lower ∧ result.upper = some upper ∧
    observations.min? = some least ∧ observations.max? = some greatest ∧
    least ≤ lower ∧ lower ≤ upper ∧ upper ≤ greatest

variable {observations c}

theorem conformalRank_pos (hc : 0 < c ∧ c < 1) : 1 ≤ conformalRank observations c := by
  have hpos : (0 : ℚ) < (observations.length + 1) * c :=
    mul_pos (by exact_mod_cast Nat.succ_pos _) hc.1
  exact Int.ceil_pos.mpr hpos

section Admitted

variable (hc : 0 < c ∧ c < 1) (hn : 10 ≤ observations.length) (hnonneg : ∀ x ∈ observations, 0 ≤ x)
  (newScore : ℚ)

include hc hn hnonneg

theorem conformalBound_refused
    (hrank : (observations.length : ℤ) < conformalRank observations c) :
    conformalBound observations newScore c = some (unsupportedBound observations c
      "Calibration size cannot support a finite interval at this confidence.") := by
  have hsign : ¬ ∃ x ∈ observations, x < 0 := by
    rintro ⟨x, hx, hlt⟩
    exact absurd (hnonneg x hx) (not_le.mpr hlt)
  rw [conformalBound, inputError_eq_none hc]
  dsimp only
  rw [if_neg hsign, if_neg (not_lt.mpr hn), if_pos hrank]

theorem conformalBound_issued
    (hrank : ¬ (observations.length : ℤ) < conformalRank observations c)
    {tau : ℚ} (htau : itemAt (sorted observations) (conformalRank observations c - 1) = some tau) :
    ∃ result, conformalBound observations newScore c = some result ∧ result.isSupported = true ∧
      result.epsilon = some tau := by
  have hsign : ¬ ∃ x ∈ observations, x < 0 := by
    rintro ⟨x, hx, hlt⟩
    exact absurd (hnonneg x hx) (not_le.mpr hlt)
  rw [conformalBound, inputError_eq_none hc]
  dsimp only
  rw [if_neg hsign, if_neg (not_lt.mpr hn), if_neg hrank, htau]
  exact ⟨_, rfl, rfl, rfl⟩

end Admitted

theorem conformalHolds (hc : 0 < c ∧ c < 1) (hn : 10 ≤ observations.length)
    (hnonneg : ∀ x ∈ observations, 0 ≤ x) (newScore : ℚ) :
    ConformalHolds observations c newScore := by
  have hone : 1 ≤ conformalRank observations c := conformalRank_pos hc
  by_cases hrank : (observations.length : ℤ) < conformalRank observations c
  · have hresult := conformalBound_refused hc hn hnonneg newScore hrank
    refine ⟨⟨_, hresult, iff_of_true rfl hrank⟩, fun result' hresult' hsupported ↦ ?_⟩
    obtain rfl := Option.some.inj (hresult.symm.trans hresult')
    exact Bool.noConfusion hsupported
  · have hindex : (conformalRank observations c - 1).toNat < (sorted observations).length := by
      rw [length_sorted]
      omega
    have htau : itemAt (sorted observations) (conformalRank observations c - 1) = _ :=
      itemAt_eq_some (by omega) hindex
    obtain ⟨result, hresult, hsupported, hepsilon⟩ :=
      conformalBound_issued hc hn hnonneg newScore hrank htau
    refine ⟨⟨result, hresult, iff_of_false (by simp [hsupported]) hrank⟩,
      fun result' hresult' _ ↦ ?_⟩
    obtain rfl : result = result' := Option.some.inj (hresult.symm.trans hresult')
    refine ⟨_, hepsilon, mem_sorted.mp (List.getElem_mem hindex), ?_, fun t _ ht ↦ ?_⟩
    · have hcount := lt_countP_getElem hindex
      change conformalRank observations c ≤ _
      omega
    · change conformalRank observations c ≤ _ at ht
      exact getElem_le_of_lt_countP hindex (by omega)

theorem bootMeans_mem {nResamples : ℤ} {choice : ℕ → ℕ → Fin observations.length} {x least greatest : ℚ}
    (hn : 0 < observations.length) (hleast : ∀ y ∈ observations, least ≤ y)
    (hgreatest : ∀ y ∈ observations, y ≤ greatest)
    (hx : x ∈ bootMeans observations nResamples choice) : least ≤ x ∧ x ≤ greatest := by
  obtain ⟨r, -, rfl⟩ := List.mem_map.mp (mem_sorted.mp hx)
  have hresample : ∀ y ∈ (List.range observations.length).map fun j ↦ observations[choice r j],
      y ∈ observations := by
    intro y hy
    obtain ⟨j, -, rfl⟩ := List.mem_map.mp hy
    exact List.getElem_mem _
  have hlength : ((List.range observations.length).map fun j ↦ observations[choice r j]).length
      = observations.length := by rw [List.length_map, List.length_range]
  exact ⟨le_meanOf hn hlength fun y hy ↦ hleast y (hresample y hy),
    meanOf_le hn hlength fun y hy ↦ hgreatest y (hresample y hy)⟩

theorem length_bootMeans {nResamples : ℤ} {choice : ℕ → ℕ → Fin observations.length} :
    (bootMeans observations nResamples choice).length = nResamples.toNat := by
  rw [bootMeans, length_sorted, List.length_map, List.length_range]

theorem bootstrapHolds (hc : 0 < c ∧ c < 1) (hn : 10 ≤ observations.length) {nResamples : ℤ}
    (hresamples : 1 ≤ nResamples) (choice : ℕ → ℕ → Fin observations.length) :
    BootstrapHolds observations c nResamples choice := by
  have hlo : 0 ≤ loIdx c nResamples := loIdx_nonneg
  have hordered : loIdx c nResamples ≤ hiIdx c nResamples := loIdx_le_hiIdx hc hresamples
  have hhi : hiIdx c nResamples < nResamples := hiIdx_lt
  have hlength : (bootMeans observations nResamples choice).length = nResamples.toNat :=
    length_bootMeans
  have hloNat : (loIdx c nResamples).toNat < (bootMeans observations nResamples choice).length := by
    omega
  have hhiNat : (hiIdx c nResamples).toNat < (bootMeans observations nResamples choice).length := by
    omega
  refine ⟨hlo, hordered, by omega, ?_⟩
  have hpos : 0 < observations.length := by omega
  obtain ⟨least, hleast⟩ := Option.isSome_iff_exists.mp
    (List.isSome_min?_of_ne_nil (List.ne_nil_of_length_pos hpos))
  obtain ⟨greatest, hgreatest⟩ := Option.isSome_iff_exists.mp
    (List.isSome_max?_of_ne_nil (List.ne_nil_of_length_pos hpos))
  have hwithin : ∀ x ∈ bootMeans observations nResamples choice, least ≤ x ∧ x ≤ greatest :=
    fun x hx ↦ bootMeans_mem hpos (List.min?_eq_some_iff.mp hleast).2
      (List.max?_eq_some_iff.mp hgreatest).2 hx
  have hbound : ∃ result, bootstrapBound observations c nResamples choice = some result ∧
      result.isSupported = true ∧
      result.lower = some (bootMeans observations nResamples choice)[(loIdx c nResamples).toNat] ∧
      result.upper = some (bootMeans observations nResamples choice)[(hiIdx c nResamples).toNat] := by
    have hmany : ¬ observations.length < minNBootstrap := not_lt.mpr hn
    rw [bootstrapBound, inputError_eq_none hc]
    dsimp only
    rw [if_neg (by omega), if_neg hmany, itemAt_eq_some hlo hloNat,
      itemAt_eq_some (hlo.trans hordered) hhiNat]
    exact ⟨_, rfl, rfl, rfl, rfl⟩
  obtain ⟨result, hresult, hsupported, hlower, hupper⟩ := hbound
  exact ⟨result, _, _, least, greatest, hresult, hsupported, hlower, hupper, hleast, hgreatest,
    (hwithin _ (List.getElem_mem _)).1, getElem_le_getElem (by omega) _,
    (hwithin _ (List.getElem_mem _)).2⟩

/-- **Bounds are order statistics** of the data, for every size and confidence. -/
theorem bounds_are_orderStatistics (hc : 0 < c ∧ c < 1) (hn : 10 ≤ observations.length) :
    ((∀ x ∈ observations, 0 ≤ x) → ∀ newScore, ConformalHolds observations c newScore) ∧
      ∀ nResamples, 1 ≤ nResamples → ∀ choice, BootstrapHolds observations c nResamples choice :=
  ⟨fun hnonneg newScore ↦ conformalHolds hc hn hnonneg newScore,
    fun _ hresamples choice ↦ bootstrapHolds hc hn hresamples choice⟩

theorem bounds_are_orderStatistics_ten :
    ConformalHolds [9, 8, 7, 6, 5, 4, 3, 2, 1, 0] (9 / 10) 0 ∧
      BootstrapHolds [9, 8, 7, 6, 5, 4, 3, 2, 1, 0] (9 / 10) 1 fun _ _ ↦ ⟨0, by decide⟩ :=
  have h := @bounds_are_orderStatistics [9, 8, 7, 6, 5, 4, 3, 2, 1, 0] (9 / 10) (by decide +kernel)
    (by decide)
  ⟨h.1 (by decide +kernel) 0, h.2 1 le_rfl _⟩

end Certified

end DriftGuardX.Evaluation
