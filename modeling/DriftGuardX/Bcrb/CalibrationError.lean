import Mathlib.Algebra.BigOperators.Field
import Mathlib.Algebra.Order.BigOperators.Group.List
import Mathlib.Algebra.Order.Floor.Semiring
import Mathlib.Algebra.Order.Ring.Rat
import Mathlib.Data.List.GetD
import Mathlib.Data.Rat.Floor
import Mathlib.Tactic.FieldSimp
import Mathlib.Tactic.Linarith
import Mathlib.Tactic.Positivity

/-!
# Calibration error and calibration curve

Both scan the bins of equal width of the unit interval and compare the mean prediction with the
observed frequency in each. A bin includes its lower boundary and not its upper one, and the last bin
is no exception, so a prediction of one is in no bin. Otherwise the bins are a partition of the
predictions (`calibrationHolds_iff`).
-/

namespace DriftGuardX.Bcrb

section Bins

variable (predictions : List ℚ) (observations : List ℤ) (bins i : ℕ)

/-- `bin_indices`. -/
def binIndices : List ℕ :=
  (List.range predictions.length).filter fun j ↦
    (i : ℚ) / bins ≤ predictions.getD j 0 ∧ predictions.getD j 0 < ((i + 1 : ℕ) : ℚ) / bins

/-- `[xs[j] for j in indices]`, which raises where an index is out of range. -/
def valuesAt {α : Type} (xs : List α) (indices : List ℕ) : Option (List α) :=
  indices.mapM fun j ↦ xs[j]?

/-- `avg_pred` and `avg_obs`. -/
def binMeans (indices : List ℕ) : Option (ℚ × ℚ) := do
  let binPreds ← valuesAt predictions indices
  let binObs ← valuesAt observations indices
  return (binPreds.sum / binPreds.length, (binObs.sum : ℚ) / binObs.length)

/-- What a bin adds to the error. -/
def addBin (ece : ℚ) : Option ℚ :=
  let indices := binIndices predictions bins i
  if indices = [] then some ece
  else do
    let avg ← binMeans predictions observations indices
    let weight := (indices.length : ℚ) / predictions.length
    return ece + weight * |avg.1 - avg.2|

/-- `compute_expected_calibration_error`. -/
def computeExpectedCalibrationError : Option ℚ :=
  if predictions = [] ∨ observations = [] ∨ predictions.length ≠ observations.length then some 0
  else (List.range bins).foldlM (fun ece i ↦ addBin predictions observations bins i ece) 0

/-- The point that a bin adds to the curve. -/
def addPoint (curve : List ℚ × List ℚ) : Option (List ℚ × List ℚ) :=
  let indices := binIndices predictions bins i
  if indices = [] then some curve
  else do
    let avg ← binMeans predictions observations indices
    return (curve.1 ++ [avg.1], curve.2 ++ [avg.2])

/-- `generate_calibration_curve`: the mean predictions and the fractions of positives. -/
def generateCalibrationCurve : Option (List ℚ × List ℚ) :=
  (List.range bins).foldlM (fun curve i ↦ addPoint predictions observations bins i curve) ([], [])

/-- The mean of the predictions in a bin. -/
def meanPrediction : ℚ :=
  ((binIndices predictions bins i).map fun j ↦ predictions.getD j 0).sum
    / (binIndices predictions bins i).length

/-- The frequency of positive observations in a bin. -/
def frequency : ℚ :=
  (((binIndices predictions bins i).map fun j ↦ observations.getD j 0).sum : ℚ)
    / (binIndices predictions bins i).length

/-- The weight of a bin in the error. -/
def binWeight : ℚ := ((binIndices predictions bins i).length : ℚ) / predictions.length

/-- The bins with predictions. -/
def nonemptyBins : List ℕ := (List.range bins).filter fun i ↦ binIndices predictions bins i ≠ []

/-- The bins partition the predictions, the curve shows them, and the error is their distance from
calibration. -/
structure CalibrationHolds : Prop where
  partition : ∀ j < predictions.length, ∃! i, i < bins ∧ j ∈ binIndices predictions bins i
  weights : predictions ≠ [] → ∑ i ∈ Finset.range bins, binWeight predictions bins i = 1
  points : generateCalibrationCurve predictions observations bins
    = some ((nonemptyBins predictions bins).map (meanPrediction predictions bins),
      (nonemptyBins predictions bins).map (frequency predictions observations bins))
  nonempty : generateCalibrationCurve predictions observations bins = some ([], []) →
    predictions = []
  calibrated : computeExpectedCalibrationError predictions observations bins = some 0 ↔
    ∀ i < bins, binIndices predictions bins i ≠ [] →
      meanPrediction predictions bins i = frequency predictions observations bins i

end Bins

variable {predictions : List ℚ} {observations : List ℤ} {bins i j : ℕ}

/-! ## What the loops compute -/

theorem valuesAt_eq {α : Type} (xs : List α) (d : α) {indices : List ℕ}
    (h : ∀ j ∈ indices, j < xs.length) :
    valuesAt xs indices = some (indices.map fun j ↦ xs.getD j d) := by
  induction indices with
  | nil => rfl
  | cons j indices ih =>
    obtain ⟨hj, hrest⟩ := List.forall_mem_cons.mp h
    have hget : xs[j]? = some (xs.getD j d) := by
      rw [List.getD_eq_getElem _ _ hj, List.getElem?_eq_getElem hj]
    rw [valuesAt, List.mapM_cons, hget, ← valuesAt, ih hrest]
    rfl

theorem lt_of_mem_binIndices (h : j ∈ binIndices predictions bins i) : j < predictions.length :=
  List.mem_range.mp (List.mem_of_mem_filter h)

theorem binMeans_eq (hlength : predictions.length = observations.length) :
    binMeans predictions observations (binIndices predictions bins i)
      = some (meanPrediction predictions bins i, frequency predictions observations bins i) := by
  rw [binMeans, valuesAt_eq predictions 0 fun j hj ↦ lt_of_mem_binIndices hj,
    valuesAt_eq observations 0 fun j hj ↦ hlength ▸ lt_of_mem_binIndices hj]
  simp only [Option.bind_eq_bind, Option.bind_some, List.length_map]
  rfl

theorem addBin_eq (hlength : predictions.length = observations.length) (ece : ℚ) :
    addBin predictions observations bins i ece
      = some (ece + binWeight predictions bins i *
          |meanPrediction predictions bins i - frequency predictions observations bins i|) := by
  rw [addBin]
  split
  case isTrue hempty => rw [binWeight, hempty, List.length_nil, Nat.cast_zero, zero_div, zero_mul,
    add_zero]
  case isFalse => rw [binMeans_eq hlength]; rfl

theorem addPoint_eq (hlength : predictions.length = observations.length)
    (curve : List ℚ × List ℚ) :
    addPoint predictions observations bins i curve
      = some (if binIndices predictions bins i = [] then curve
          else (curve.1 ++ [meanPrediction predictions bins i],
            curve.2 ++ [frequency predictions observations bins i])) := by
  rw [addPoint]
  split
  case isTrue => rfl
  case isFalse => rw [binMeans_eq hlength]; rfl

theorem computeExpectedCalibrationError_eq (hlength : predictions.length = observations.length)
    (hpredictions : predictions ≠ []) :
    computeExpectedCalibrationError predictions observations bins
      = some (∑ i ∈ Finset.range bins, binWeight predictions bins i *
          |meanPrediction predictions bins i - frequency predictions observations bins i|) := by
  have hobservations : observations ≠ [] := by
    rintro rfl
    exact hpredictions (List.length_eq_zero_iff.mp hlength)
  have hguard : ¬ (predictions = [] ∨ observations = [] ∨
      predictions.length ≠ observations.length) := by
    simp [hpredictions, hobservations, hlength]
  have hloop : ∀ n, (List.range n).foldlM
      (fun ece i ↦ addBin predictions observations bins i ece) 0
      = some (∑ i ∈ Finset.range n, binWeight predictions bins i *
          |meanPrediction predictions bins i - frequency predictions observations bins i|) := by
    intro n
    induction n with
    | zero => rfl
    | succ n ih =>
      rw [List.range_succ, List.foldlM_append, ih, Finset.sum_range_succ]
      exact (bind_pure _).trans (addBin_eq hlength _)
  rw [computeExpectedCalibrationError, if_neg hguard, hloop]

theorem generateCalibrationCurve_eq (hlength : predictions.length = observations.length) :
    generateCalibrationCurve predictions observations bins
      = some ((nonemptyBins predictions bins).map (meanPrediction predictions bins),
        (nonemptyBins predictions bins).map (frequency predictions observations bins)) := by
  let shown n := (List.range n).filter fun i ↦ binIndices predictions bins i ≠ []
  have hloop : ∀ n, (List.range n).foldlM
      (fun curve i ↦ addPoint predictions observations bins i curve) ([], [])
      = some ((shown n).map (meanPrediction predictions bins),
        (shown n).map (frequency predictions observations bins)) := by
    intro n
    induction n with
    | zero => rfl
    | succ n ih =>
      rw [List.range_succ, List.foldlM_append, ih]
      refine (bind_pure (m := Option) _).trans ((addPoint_eq hlength _).trans ?_)
      by_cases hempty : binIndices predictions bins n = []
      · have hshown : shown (n + 1) = shown n := by
          simp [shown, List.range_succ, List.filter_append, hempty]
        rw [if_pos hempty, hshown]
      · have hshown : shown (n + 1) = shown n ++ [n] := by
          simp [shown, List.range_succ, List.filter_append, hempty]
        rw [if_neg hempty, hshown, List.map_append, List.map_append]
        rfl
  exact hloop bins

/-! ## The partition -/

theorem mem_binIndices_iff :
    j ∈ binIndices predictions bins i ↔ j < predictions.length ∧
      (i : ℚ) / bins ≤ predictions.getD j 0 ∧ predictions.getD j 0 < ((i + 1 : ℕ) : ℚ) / bins := by
  rw [binIndices, List.mem_filter, List.mem_range, decide_eq_true_iff]

theorem existsUnique_bin (hbins : 1 ≤ bins) (hj : j < predictions.length)
    (hnonneg : 0 ≤ predictions.getD j 0) (hlt : predictions.getD j 0 < 1) :
    ∃! i, i < bins ∧ j ∈ binIndices predictions bins i := by
  have hpos : (0 : ℚ) < bins := Nat.cast_pos.mpr hbins
  have hbin : ∀ i, j ∈ binIndices predictions bins i ↔ ⌊predictions.getD j 0 * bins⌋₊ = i := by
    intro i
    rw [mem_binIndices_iff, and_iff_right hj, div_le_iff₀ hpos, lt_div_iff₀ hpos,
      Nat.floor_eq_iff (mul_nonneg hnonneg hpos.le), Nat.cast_succ]
  refine ⟨⌊predictions.getD j 0 * bins⌋₊, ⟨?_, (hbin _).mpr rfl⟩,
    fun i ⟨_, hi⟩ ↦ ((hbin i).mp hi).symm⟩
  rw [Nat.floor_lt (mul_nonneg hnonneg hpos.le)]
  exact mul_lt_of_lt_one_left hpos hlt

theorem not_mem_binIndices_of_one (hone : predictions.getD j 0 = 1) (hi : i < bins) :
    j ∉ binIndices predictions bins i := by
  intro hmem
  have hlt := (mem_binIndices_iff.mp hmem).2.2
  have hpos : (0 : ℚ) < bins := Nat.cast_pos.mpr (by omega)
  rw [hone, lt_div_iff₀ hpos, one_mul, Nat.cast_lt] at hlt
  omega

theorem sum_length_filter {α : Type} {m : ℕ} {p : ℕ → α → Prop} [∀ i, DecidablePred (p i)]
    {xs : List α} (h : ∀ x ∈ xs, ∃! i, i < m ∧ p i x) :
    ∑ i ∈ Finset.range m, (xs.filter fun x ↦ p i x).length = xs.length := by
  induction xs with
  | nil => simp
  | cons x xs ih =>
    obtain ⟨⟨i, ⟨hi, hp⟩, hunique⟩, hrest⟩ := List.forall_mem_cons.mp h
    have hcons : ∀ k, ((x :: xs).filter fun x ↦ p k x).length
        = (if p k x then 1 else 0) + (xs.filter fun x ↦ p k x).length := by
      intro k
      by_cases hk : p k x
      · rw [if_pos hk, List.filter_cons, if_pos (decide_eq_true hk), List.length_cons, add_comm]
      · rw [if_neg hk, List.filter_cons, if_neg (by simpa using hk), zero_add]
    have hone : ∑ k ∈ Finset.range m, (if p k x then 1 else 0) = 1 := by
      rw [Finset.sum_eq_single_of_mem i (Finset.mem_range.mpr hi), if_pos hp]
      intro k hk hne
      exact if_neg fun hpk ↦ hne (hunique k ⟨Finset.mem_range.mp hk, hpk⟩)
    rw [Finset.sum_congr rfl fun k _ ↦ hcons k, Finset.sum_add_distrib, hone, ih hrest,
      List.length_cons, add_comm]

theorem sum_binWeight (hpredictions : predictions ≠ [])
    (hpartition : ∀ j < predictions.length, ∃! i, i < bins ∧ j ∈ binIndices predictions bins i) :
    ∑ i ∈ Finset.range bins, binWeight predictions bins i = 1 := by
  have hcount : ∑ i ∈ Finset.range bins, (binIndices predictions bins i).length
      = predictions.length := by
    refine (sum_length_filter fun j hj ↦ ?_).trans List.length_range
    have hj' : j < predictions.length := List.mem_range.mp hj
    obtain ⟨i, ⟨hi, hmem⟩, hunique⟩ := hpartition j hj'
    exact ⟨i, ⟨hi, (mem_binIndices_iff.mp hmem).2⟩,
      fun k hk ↦ hunique k ⟨hk.1, mem_binIndices_iff.mpr ⟨hj', hk.2⟩⟩⟩
  have hne : (predictions.length : ℚ) ≠ 0 :=
    Nat.cast_ne_zero.mpr (List.length_eq_zero_iff.not.mpr hpredictions)
  simp only [binWeight]
  rw [← Finset.sum_div, ← Nat.cast_sum, hcount, div_self hne]

/-! ## The error -/

theorem binWeight_pos (h : binIndices predictions bins i ≠ []) : 0 < binWeight predictions bins i := by
  obtain ⟨j, hj⟩ := List.exists_mem_of_ne_nil _ h
  refine div_pos (Nat.cast_pos.mpr (List.length_pos_of_mem hj)) (Nat.cast_pos.mpr ?_)
  exact (Nat.zero_le j).trans_lt (lt_of_mem_binIndices hj)

/-- The error is zero exactly when every bin with predictions is calibrated. -/
theorem computeExpectedCalibrationError_eq_zero_iff
    (hlength : predictions.length = observations.length) :
    computeExpectedCalibrationError predictions observations bins = some 0 ↔
      ∀ i < bins, binIndices predictions bins i ≠ [] →
        meanPrediction predictions bins i = frequency predictions observations bins i := by
  by_cases hpredictions : predictions = []
  · subst hpredictions
    exact iff_of_true (if_pos (.inl rfl)) fun i _ h ↦ absurd rfl h
  rw [computeExpectedCalibrationError_eq hlength hpredictions, Option.some_inj,
    Finset.sum_eq_zero_iff_of_nonneg fun i _ ↦ mul_nonneg (by unfold binWeight; positivity)
      (abs_nonneg _)]
  refine forall_congr' fun i ↦ ?_
  rw [Finset.mem_range, mul_eq_zero, abs_eq_zero, sub_eq_zero]
  refine imp_congr_right fun _ ↦ ⟨fun h hne ↦ h.resolve_left (binWeight_pos hne).ne', fun h ↦ ?_⟩
  by_cases hempty : binIndices predictions bins i = []
  · left
    rw [binWeight, hempty, List.length_nil, Nat.cast_zero, zero_div]
  · exact .inr (h hempty)

theorem eq_nil_of_curve (hlength : predictions.length = observations.length)
    (hpartition : ∀ j < predictions.length, ∃! i, i < bins ∧ j ∈ binIndices predictions bins i)
    (hcurve : generateCalibrationCurve predictions observations bins = some ([], [])) :
    predictions = [] := by
  rw [generateCalibrationCurve_eq hlength, Option.some_inj, Prod.mk.injEq,
    List.map_eq_nil_iff] at hcurve
  refine List.eq_nil_of_length_eq_zero (Nat.eq_zero_of_not_pos fun hpos ↦ ?_)
  obtain ⟨i, ⟨hi, hmem⟩, -⟩ := hpartition 0 hpos
  have hshown : i ∈ nonemptyBins predictions bins :=
    List.mem_filter.mpr ⟨List.mem_range.mpr hi, decide_eq_true (List.ne_nil_of_mem hmem)⟩
  exact absurd (hcurve.1 ▸ hshown) List.not_mem_nil

/-- **Bins partition the predictions**, and the error and the curve are those of the partition, if and
only if no prediction is one. -/
theorem calibrationHolds_iff (hbins : 1 ≤ bins) (hlength : predictions.length = observations.length)
    (hrange : ∀ p ∈ predictions, 0 ≤ p ∧ p ≤ 1) :
    CalibrationHolds predictions observations bins ↔ 1 ∉ predictions := by
  constructor
  · intro h hmem
    obtain ⟨j, hj, hone⟩ := List.getElem_of_mem hmem
    obtain ⟨i, ⟨hi, hbin⟩, -⟩ := h.partition j hj
    exact not_mem_binIndices_of_one ((List.getD_eq_getElem _ _ hj).trans hone) hi hbin
  · intro hone
    have hpartition : ∀ j < predictions.length,
        ∃! i, i < bins ∧ j ∈ binIndices predictions bins i := by
      intro j hj
      have hmem : predictions.getD j 0 ∈ predictions := by
        rw [List.getD_eq_getElem _ _ hj]
        exact List.getElem_mem hj
      obtain ⟨hnonneg, hle⟩ := hrange _ hmem
      exact existsUnique_bin hbins hj hnonneg (lt_of_le_of_ne hle fun h ↦ hone (h ▸ hmem))
    exact ⟨hpartition, fun hpredictions ↦ sum_binWeight hpredictions hpartition,
      generateCalibrationCurve_eq hlength, eq_nil_of_curve hlength hpartition,
      computeExpectedCalibrationError_eq_zero_iff hlength⟩

theorem calibrationHolds_four : CalibrationHolds [1 / 10, 1 / 5, 4 / 5, 9 / 10] [0, 0, 1, 1] 2 :=
  (calibrationHolds_iff (by decide) rfl (by decide +kernel)).mpr (by decide +kernel)

/-- The prediction is one. -/
theorem not_calibrationHolds_one : ¬ CalibrationHolds [1] [0] 10 := by
  intro h
  obtain ⟨i, ⟨hi, hbin⟩, -⟩ := h.partition 0 (by decide)
  exact not_mem_binIndices_of_one rfl hi hbin

end DriftGuardX.Bcrb
