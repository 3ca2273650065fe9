import DriftGuardX.Evaluation.Bounds
import Mathlib.Tactic.FieldSimp

/-!
# The coverage check of a conformal bound

The check computes a quantile of the calibration scores of its own. Where the bound takes the score at
a rank, counted from one, the check takes the score at the same number counted from zero, which is the
next one. The check and the bound agree on test scores exactly when none of these lies between the two
(`checksIssued_iff`).
-/

namespace DriftGuardX.Evaluation

open OrderStatistic

section Check

variable (calibrationScores testScores : List ℚ) (nominalConfidence : ℚ)

/-- `q_idx`. -/
def qIdx : ℤ :=
  let n : ℤ := calibrationScores.length
  let alpha := 1 - nominalConfidence
  let qLevel := min ((⌈((n : ℚ) + 1) * (1 - alpha)⌉ : ℚ) / n) 1
  min ⌊qLevel * n⌋ (n - 1)

/-- The `tau` of the check. -/
def coverageTau : Option ℚ :=
  itemAt (sorted calibrationScores) (qIdx calibrationScores nominalConfidence)

/-- `conformal_coverage_check`: the coverage observed, and whether it meets the guarantee. -/
def conformalCoverageCheck : Option (ℚ × Bool) :=
  if calibrationScores = [] ∨ testScores = [] then some (0, false)
  else do
    let tau ← coverageTau calibrationScores nominalConfidence
    let covered := testScores.countP fun s ↦ decide (s ≤ tau)
    let observed := (covered : ℚ) / testScores.length
    let slack := (1 : ℚ) / calibrationScores.length
    return (observed, decide (nominalConfidence - slack ≤ observed))

/-- The check counts the test scores up to a threshold as covered, and no others. -/
structure ChecksIssued (tau : ℚ) : Prop where
  covers : ∀ s ∈ testScores,
    (∃ t, coverageTau calibrationScores nominalConfidence = some t ∧ s ≤ t) ↔ s ≤ tau
  observed : ∃ meets, conformalCoverageCheck calibrationScores testScores nominalConfidence
    = some ((testScores.countP fun s ↦ decide (s ≤ tau) : ℚ) / testScores.length, meets)

end Check

variable {calibrationScores testScores : List ℚ} {nominalConfidence newScore tau : ℚ}
  {result : BoundResult}

/-- What a supported bound says about its scores. -/
theorem of_supported
    (hresult : conformalBound calibrationScores newScore nominalConfidence = some result)
    (hsupported : result.isSupported = true) :
    (0 < nominalConfidence ∧ nominalConfidence < 1) ∧
      conformalRank calibrationScores nominalConfidence ≤ calibrationScores.length ∧
      itemAt (sorted calibrationScores) (conformalRank calibrationScores nominalConfidence - 1)
        = result.epsilon := by
  have hunsupported : ∀ reason, some (unsupportedBound calibrationScores nominalConfidence reason)
      ≠ some result := by
    intro reason heq
    obtain rfl := Option.some.inj heq
    exact Bool.noConfusion hsupported
  rw [conformalBound] at hresult
  by_cases hc : 0 < nominalConfidence ∧ nominalConfidence < 1
  case neg =>
    rw [inputError, if_neg hc] at hresult
    exact absurd hresult (hunsupported _)
  rw [inputError_eq_none hc] at hresult
  dsimp only at hresult
  split at hresult
  · exact absurd hresult (hunsupported _)
  split at hresult
  · exact absurd hresult (hunsupported _)
  split at hresult
  · exact absurd hresult (hunsupported _)
  rename_i hrank
  obtain ⟨tau, htau, hissued⟩ := Option.bind_eq_some_iff.mp hresult
  obtain rfl := Option.some.inj hissued
  exact ⟨hc, not_lt.mp hrank, htau⟩

theorem qIdx_eq (hn : 0 < calibrationScores.length)
    (hrank : conformalRank calibrationScores nominalConfidence ≤ calibrationScores.length) :
    qIdx calibrationScores nominalConfidence
      = min (conformalRank calibrationScores nominalConfidence) (calibrationScores.length - 1) := by
  have hn' : (0 : ℚ) < calibrationScores.length := Nat.cast_pos.mpr hn
  have hle : (conformalRank calibrationScores nominalConfidence : ℚ) / calibrationScores.length ≤ 1 := by
    rw [div_le_one hn']
    exact_mod_cast hrank
  have hlevel : (⌈(((calibrationScores.length : ℤ) : ℚ) + 1) * (1 - (1 - nominalConfidence))⌉ : ℚ)
      = conformalRank calibrationScores nominalConfidence := by
    rw [conformalRank, sub_sub_cancel, Int.cast_natCast]
  rw [qIdx, hlevel, Int.cast_natCast, min_eq_left hle, div_mul_cancel₀ _ hn'.ne', Int.floor_intCast]

/-- The check and the bound agree on test scores when their thresholds do. -/
theorem checksIssued_iff_covers {t : ℚ} (htest : testScores ≠ [])
    (hcalibration : calibrationScores ≠ [])
    (ht : coverageTau calibrationScores nominalConfidence = some t) :
    ChecksIssued calibrationScores testScores nominalConfidence tau ↔
      ∀ s ∈ testScores, s ≤ t ↔ s ≤ tau := by
  have hcovers : ∀ s, (∃ t', coverageTau calibrationScores nominalConfidence = some t' ∧ s ≤ t') ↔
      s ≤ t := by
    intro s
    rw [ht]
    exact ⟨fun ⟨t', ht', hs⟩ ↦ Option.some.inj ht' ▸ hs, fun hs ↦ ⟨t, rfl, hs⟩⟩
  constructor
  · exact fun h s hs ↦ (hcovers s).symm.trans (h.covers s hs)
  · intro h
    refine ⟨fun s hs ↦ (hcovers s).trans (h s hs), ?_⟩
    have hcount : testScores.countP (fun s ↦ decide (s ≤ t))
        = testScores.countP fun s ↦ decide (s ≤ tau) :=
      List.countP_congr fun s hs ↦ by simpa using h s hs
    rw [conformalCoverageCheck, if_neg (not_or.mpr ⟨hcalibration, htest⟩), ht, ← hcount]
    exact ⟨_, rfl⟩

/-- **The check tests the bound** if and only if no test score is above the bound and at most the next
calibration score. -/
theorem checksIssued_iff
    (hresult : conformalBound calibrationScores newScore nominalConfidence = some result)
    (hsupported : result.isSupported = true) (htau : result.epsilon = some tau)
    (htest : testScores ≠ []) :
    ChecksIssued calibrationScores testScores nominalConfidence tau ↔
      ∀ next, itemAt (sorted calibrationScores)
          (conformalRank calibrationScores nominalConfidence) = some next →
        ∀ s ∈ testScores, ¬ (tau < s ∧ s ≤ next) := by
  obtain ⟨hc, hrank, hitem⟩ := of_supported hresult hsupported
  have hone : 1 ≤ conformalRank calibrationScores nominalConfidence := conformalRank_pos hc
  have hn : 0 < calibrationScores.length := by omega
  have hcalibration : calibrationScores ≠ [] := List.ne_nil_of_length_pos hn
  have hlength : (sorted calibrationScores).length = calibrationScores.length := length_sorted
  have hindex : (conformalRank calibrationScores nominalConfidence - 1).toNat
      < (sorted calibrationScores).length := by omega
  have hitem' := (itemAt_eq_some (by omega) hindex).symm.trans (hitem.trans htau)
  have hqIdx := qIdx_eq hn hrank
  by_cases hlast : conformalRank calibrationScores nominalConfidence = calibrationScores.length
  · have ht : coverageTau calibrationScores nominalConfidence = some tau := by
      rw [coverageTau, hqIdx, min_eq_right (by omega), ← hlast, hitem, htau]
    have hnone : itemAt (sorted calibrationScores)
        (conformalRank calibrationScores nominalConfidence) = none := by
      rw [itemAt, if_pos (by omega), List.getElem?_eq_none (by omega)]
    rw [checksIssued_iff_covers htest hcalibration ht, hnone]
    exact iff_of_true (fun _ _ ↦ Iff.rfl) fun _ h ↦ absurd h.symm (Option.some_ne_none _)
  · have hnext : (conformalRank calibrationScores nominalConfidence).toNat
        < (sorted calibrationScores).length := by omega
    have ht := itemAt_eq_some (by omega) hnext
    have hrankIdx : qIdx calibrationScores nominalConfidence
        = conformalRank calibrationScores nominalConfidence := by
      rw [hqIdx, min_eq_left (by omega)]
    have htau' : coverageTau calibrationScores nominalConfidence = _ :=
      (congrArg (itemAt (sorted calibrationScores)) hrankIdx).trans ht
    have hle : tau ≤ (sorted calibrationScores)[
        (conformalRank calibrationScores nominalConfidence).toNat] := by
      rw [← Option.some.inj hitem']
      exact getElem_le_getElem (by omega) hnext
    rw [checksIssued_iff_covers htest hcalibration htau', ht]
    constructor
    · rintro h next hnext' s hs ⟨hlt, hsnext⟩
      obtain rfl := Option.some.inj hnext'
      exact absurd ((h s hs).mp hsnext) (not_le.mpr hlt)
    · exact fun h s hs ↦ ⟨fun hsnext ↦ not_lt.mp fun hlt ↦ h _ rfl s hs ⟨hlt, hsnext⟩,
        fun hstau ↦ hstau.trans hle⟩

/-- The bound of these scores is `5`, and the next score is `6`. -/
theorem conformalBound_ten : ∃ result,
    conformalBound [9, 8, 7, 6, 5, 4, 3, 2, 1, 0] 0 (1 / 2) = some result ∧
      result.isSupported = true ∧ result.epsilon = some 5 :=
  conformalBound_issued (by decide +kernel) (by decide) (by decide +kernel) 0 (by decide +kernel)
    (by decide +kernel)

theorem checksIssued_seven : ChecksIssued [9, 8, 7, 6, 5, 4, 3, 2, 1, 0] [7] (1 / 2) 5 := by
  obtain ⟨result, hresult, hsupported, htau⟩ := conformalBound_ten
  refine (checksIssued_iff hresult hsupported htau (List.cons_ne_nil _ _)).mpr ?_
  intro next hnext s hs hbetween
  have hsix : itemAt (sorted [9, 8, 7, 6, 5, 4, 3, 2, 1, 0])
      (conformalRank [9, 8, 7, 6, 5, 4, 3, 2, 1, 0] (1 / 2)) = some 6 := by decide +kernel
  obtain rfl := Option.some.inj (hsix.symm.trans hnext)
  obtain rfl := List.mem_singleton.mp hs
  exact absurd hbetween.2 (by decide +kernel)

/-- A test score between the bound and the next score counts as covered. -/
theorem not_checksIssued_between :
    (∃ result, conformalBound [9, 8, 7, 6, 5, 4, 3, 2, 1, 0] 0 (1 / 2) = some result ∧
      result.isSupported = true ∧ result.epsilon = some 5) ∧
    ¬ ChecksIssued [9, 8, 7, 6, 5, 4, 3, 2, 1, 0] [11 / 2] (1 / 2) 5 := by
  refine ⟨conformalBound_ten, fun h ↦ ?_⟩
  have hcovered := (h.covers (11 / 2) (List.mem_singleton_self _)).mp
    ⟨6, by decide +kernel, by decide +kernel⟩
  exact absurd hcovered (by decide +kernel)

end DriftGuardX.Evaluation
