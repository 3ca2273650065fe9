import DriftGuardX.Foundation.Framing
import DriftGuardX.Policy.Signatures
import Mathlib.Algebra.BigOperators.Group.Finset.Defs
import Mathlib.Data.Finset.Sort
import Mathlib.Data.List.Dedup
import Mathlib.Data.String.Basic

/-!
# The transfer guard

A diagnosis is transferred between deployments on the strength of signed provenance envelopes. The
signature covers the fields joined by separators that may occur in them, and leaves out the kind of
the evidence, so that two envelopes with one signature need not be treated alike
(`signatureFixes_iff`).
-/

namespace DriftGuardX.Policy

open Bytes Framing Json

inductive EvidenceClassification where
  | production
  | realControlledExperiment
  | syntheticSimulation
  | testFixture
  | unverified
  deriving DecidableEq, Repr

structure CalibrationEvidence (F : Type) where
  confidenceInterval : F
  supportSize : ℤ
  empiricalRisk : F

structure ProvenanceEnvelope (F : Type) where
  tenantId : String
  components : List String
  environmentHash : String
  calibrationEvidence : CalibrationEvidence F
  evidenceKind : EvidenceClassification
  signature : Option String

structure SimilarityResult (F : Type) where
  score : F
  matchedAnchors : ℕ
  unrecognizedPenalties : ℕ

/-- What the guard uses of the arithmetic of floats. Weights are whole numbers of halves, which add
up exactly. -/
structure FloatArithmetic (F : Type) where
  /-- A number of halves. -/
  halves : ℕ → F
  div : F → F → F
  sub : F → F → F
  /-- A number times 0.2. -/
  fifths : ℕ → F
  abs : F → F
  lt : F → F → Bool
  zero_div : ∀ n, 0 < n → div (halves 0) (halves n) = halves 0
  not_zero_lt_sub : ∀ n, lt (halves 0) (sub (halves 0) (fifths n)) = false
  zero_lt_one : lt (halves 0) (halves 2) = true
  lt_irrefl : ∀ x, lt x x = false
  /-- Positive numbers are comparable. -/
  trichotomy : ∀ x y, lt (halves 0) x = true → lt (halves 0) y = true →
    lt x y = true ∨ x = y ∨ lt y x = true

/-! ## Envelopes -/

section Envelope

variable {F : Type} [FloatText F]

/-- `sorted(self.components)`. -/
def sortedComponents (components : List String) : List String :=
  components.mergeSort fun s t ↦ decide (s ≤ t)

/-- The sorted components, joined by commas. -/
def joinedComponents (components : List String) : List Char :=
  [','].intercalate ((sortedComponents components).map String.toList)

/-- The text that is signed. -/
def signedText (env : ProvenanceEnvelope F) : List Char :=
  env.tenantId.toList ++ '|' :: (joinedComponents env.components ++ '|' ::
    (env.environmentHash.toList ++ '|' ::
      (FloatText.repr env.calibrationEvidence.confidenceInterval ++ '|' ::
        (intText env.calibrationEvidence.supportSize ++ '|' ::
          FloatText.repr env.calibrationEvidence.empiricalRisk))))

variable (signing : Signing)

def recomputeEnvelope (key : String) (env : ProvenanceEnvelope F) : String :=
  signing.sign key (utf8Chars (signedText env))

/-- `_verify_envelope`. -/
def verifyEnvelope (key : String) (env : ProvenanceEnvelope F) : Option Bool :=
  signing.verify key env.signature (utf8Chars (signedText env))

end Envelope

/-! ## Similarity -/

section Similarity

/-- The prefixes of the components that are known, with their weights in halves. -/
def componentWeights : List (String × ℕ) :=
  [("model:", 6), ("agent:", 5), ("prompt:", 4), ("tool:", 2), ("data:", 2)]

def weightOf (component : String) : Option ℕ :=
  (componentWeights.find? fun w ↦ w.1.toList <+: component.toList).map Prod.snd

/-- The known components. -/
def recognized (components : List String) : Finset String :=
  (components.filter fun c ↦ (weightOf c).isSome).toFinset

/-- The number of unknown components. -/
def unrecognized (components : List String) : ℕ := components.countP fun c ↦ (weightOf c).isNone

def totalWeight (nodes : Finset String) : ℕ := ∑ c ∈ nodes, (weightOf c).getD 2

variable {F : Type} (arith : FloatArithmetic F)

/-- `max(0.0, x)`. -/
def nonnegative (x : F) : F := if arith.lt (arith.halves 0) x then x else arith.halves 0

/-- `_compute_provenance_similarity` of two lists of components. -/
def computeProvenanceSimilarity (source target : List String) : SimilarityResult F :=
  let sourceNodes := recognized source
  let targetNodes := recognized target
  let unrec := unrecognized source + unrecognized target
  if sourceNodes = ∅ ∧ targetNodes = ∅ then
    ⟨if unrec = 0 then arith.halves 2 else arith.halves 0, 0, unrec⟩
  else
    let unionWeight := totalWeight (sourceNodes ∪ targetNodes)
    let rawScore :=
      if 0 < unionWeight then
        arith.div (arith.halves (totalWeight (sourceNodes ∩ targetNodes))) (arith.halves unionWeight)
      else arith.halves 0
    ⟨nonnegative arith (arith.sub rawScore (arith.fifths unrec)),
      (sourceNodes ∩ targetNodes).card, unrec⟩

/-- The score of two lists of components. -/
def similarity (source target : List String) : F :=
  (computeProvenanceSimilarity arith source target).score

theorem nonnegative_cases (x : F) : nonnegative arith x = arith.halves 0 ∨
    arith.lt (arith.halves 0) (nonnegative arith x) = true := by
  rw [nonnegative]
  by_cases hpos : arith.lt (arith.halves 0) x = true
  · rw [if_pos hpos]
    exact Or.inr hpos
  · rw [if_neg hpos]
    exact Or.inl rfl

theorem similarity_cases (cs ds : List String) :
    similarity arith cs ds = arith.halves 0 ∨
      arith.lt (arith.halves 0) (similarity arith cs ds) = true := by
  rw [similarity, computeProvenanceSimilarity]
  split
  · by_cases hknown : unrecognized cs + unrecognized ds = 0
    · rw [if_pos hknown]
      exact Or.inr arith.zero_lt_one
    · exact Or.inl (if_neg hknown)
  · exact nonnegative_cases arith _

theorem similarity_eq_of_not_lt {cs cs' ds : List String}
    (h : arith.lt (similarity arith cs ds) (similarity arith cs' ds) = false)
    (h' : arith.lt (similarity arith cs' ds) (similarity arith cs ds) = false) :
    similarity arith cs ds = similarity arith cs' ds := by
  rcases similarity_cases arith cs ds with hzero | hpos <;>
    rcases similarity_cases arith cs' ds with hzero' | hpos'
  · rw [hzero, hzero']
  · rw [hzero, hpos'] at h
    exact absurd h (by simp)
  · rw [hzero', hpos] at h'
    exact absurd h' (by simp)
  · rcases arith.trichotomy _ _ hpos hpos' with hlt | heq | hgt
    · exact absurd (h.symm.trans hlt) (by simp)
    · exact heq
    · exact absurd (h'.symm.trans hgt) (by simp)

theorem similarity_unknown (cs : List String) : similarity arith cs [""] = arith.halves 0 := by
  have hrecognized : recognized [""] = ∅ := by decide
  have hunrecognized : unrecognized [""] = 1 := by decide
  rw [similarity, computeProvenanceSimilarity, hrecognized, hunrecognized]
  by_cases hempty : recognized cs = ∅
  · simp [hempty]
  · have htotal : totalWeight ∅ = 0 := rfl
    simp only [hempty, false_and, if_false, Finset.union_empty, Finset.inter_empty, htotal]
    have hraw : (if 0 < totalWeight (recognized cs) then
        arith.div (arith.halves 0) (arith.halves (totalWeight (recognized cs)))
        else arith.halves 0) = arith.halves 0 := by
      split
      · rename_i hpos
        exact arith.zero_div _ hpos
      · rfl
    rw [hraw, nonnegative, arith.not_zero_lt_sub]
    rfl

/-- The decision on verified envelopes. -/
def transfers (threshold maxShift : F) (source target : ProvenanceEnvelope F) : Bool :=
  if source.evidenceKind = .syntheticSimulation then false
  else if source.tenantId = target.tenantId ∧ source.environmentHash = target.environmentHash then
    true
  else if arith.lt (similarity arith source.components target.components) threshold then false
  else !arith.lt maxShift (arith.abs (arith.sub source.calibrationEvidence.empiricalRisk
    target.calibrationEvidence.empiricalRisk))

/-- `can_transfer_diagnosis`, which raises when a signature is not ASCII. -/
def canTransferDiagnosis [FloatText F] (signing : Signing) (key : String)
    (source target : ProvenanceEnvelope F) (threshold maxShift : F) : Option Bool :=
  (checkBoth (verifyEnvelope signing key source) (verifyEnvelope signing key target)).map fun ok ↦
    if ok then transfers arith threshold maxShift source target else false

end Similarity

/-! ## What is signed -/

section Signed

variable {F : Type} [FloatText F] {env env' : ProvenanceEnvelope F}

theorem bar_notMem_repr (f : F) : '|' ∉ FloatText.repr f := by
  intro hbar
  exact absurd (FloatText.isAtomChar_of_mem_repr f '|' hbar) (by decide)

theorem bar_notMem_intText (i : ℤ) : '|' ∉ intText i := by
  intro hbar
  exact absurd (isAtomChar_of_mem_intText hbar) (by decide)

theorem repr_injective : Function.Injective (FloatText.repr : F → List Char) := by
  intro f g h
  have hread := FloatText.ofText_repr f
  rw [h, FloatText.ofText_repr] at hread
  exact (Option.some.inj hread).symm

/-- The numbers are signed last, where no separator can hide. -/
theorem of_signedText (h : signedText env = signedText env') :
    env.calibrationEvidence.empiricalRisk = env'.calibrationEvidence.empiricalRisk ∧
      env.tenantId.toList ++ '|' :: (joinedComponents env.components ++ '|' ::
        env.environmentHash.toList) = env'.tenantId.toList ++ '|' ::
        (joinedComponents env'.components ++ '|' :: env'.environmentHash.toList) := by
  rw [signedText, signedText] at h
  simp only [← List.cons_append, ← List.append_assoc] at h
  obtain ⟨h, hrisk⟩ := last_inj (bar_notMem_repr _) (bar_notMem_repr _) h
  obtain ⟨h, -⟩ := last_inj (bar_notMem_intText _) (bar_notMem_intText _) h
  obtain ⟨h, -⟩ := last_inj (bar_notMem_repr _) (bar_notMem_repr _) h
  refine ⟨repr_injective hrisk, ?_⟩
  simpa only [← List.cons_append, ← List.append_assoc] using h

end Signed

/-! ## What a signature fixes -/

section Fixes

variable {F : Type} (arith : FloatArithmetic F) {s s' t : ProvenanceEnvelope F}
  {threshold maxShift : F}

theorem transfers_of_synthetic (h : s.evidenceKind = .syntheticSimulation) :
    transfers arith threshold maxShift s t = false := by
  rw [transfers, if_pos h]

theorem transfers_of_same (h : s.evidenceKind ≠ .syntheticSimulation)
    (hsame : s.tenantId = t.tenantId ∧ s.environmentHash = t.environmentHash) :
    transfers arith threshold maxShift s t = true := by
  rw [transfers, if_neg h, if_pos hsame]

theorem transfers_of_dissimilar
    (hsame : ¬ (s.tenantId = t.tenantId ∧ s.environmentHash = t.environmentHash))
    (hlt : arith.lt (similarity arith s.components t.components) threshold = true) :
    transfers arith threshold maxShift s t = false := by
  rw [transfers, if_neg hsame, if_pos hlt]
  exact ite_self _

/-- With the shift as its own bound only the score counts. -/
theorem transfers_of_shift (h : s.evidenceKind ≠ .syntheticSimulation)
    (hsame : ¬ (s.tenantId = t.tenantId ∧ s.environmentHash = t.environmentHash))
    (hshift : maxShift = arith.abs (arith.sub s.calibrationEvidence.empiricalRisk
      t.calibrationEvidence.empiricalRisk)) :
    transfers arith threshold maxShift s t
      = !arith.lt (similarity arith s.components t.components) threshold := by
  rw [transfers, if_neg h, if_neg hsame, hshift, arith.lt_irrefl]
  cases arith.lt (similarity arith s.components t.components) threshold <;> rfl

/-- Two sources that the guard cannot tell apart, whatever the target and the thresholds: the
evidence of both is synthetic, or that of neither, and then they are from one tenant and environment
and have components that are as similar to any others. -/
def SameProvenance (s s' : ProvenanceEnvelope F) : Prop :=
  (s.evidenceKind = .syntheticSimulation ↔ s'.evidenceKind = .syntheticSimulation) ∧
    (s.evidenceKind ≠ .syntheticSimulation → s.tenantId = s'.tenantId ∧
      s.environmentHash = s'.environmentHash ∧
      ∀ cs, similarity arith s.components cs = similarity arith s'.components cs)

variable [FloatText F] (signing : Signing) (key : String)

/-- Two verified sources with one signature are treated alike. -/
def SignatureFixes (s s' : ProvenanceEnvelope F) : Prop :=
  verifyEnvelope signing key s = some true → verifyEnvelope signing key s' = some true →
    s.signature = s'.signature → ∀ (t : ProvenanceEnvelope F) (threshold maxShift : F),
      canTransferDiagnosis arith signing key s t threshold maxShift
        = canTransferDiagnosis arith signing key s' t threshold maxShift

def signEnvelope (env : ProvenanceEnvelope F) : ProvenanceEnvelope F :=
  { env with signature := some (recomputeEnvelope signing key env) }

variable {signing key}

theorem verifyEnvelope_signEnvelope (env : ProvenanceEnvelope F) :
    verifyEnvelope signing key (signEnvelope signing key env) = some true :=
  signing.verify_eq_true_iff.mpr rfl

theorem signedText_eq_of_verify (hs : verifyEnvelope signing key s = some true)
    (hs' : verifyEnvelope signing key s' = some true) (hsame : s.signature = s'.signature) :
    signedText s = signedText s' :=
  utf8Chars_injective (signing.data_eq_of_verify hs hs' hsame)

theorem canTransferDiagnosis_of_verify (hs : verifyEnvelope signing key s = some true) :
    canTransferDiagnosis arith signing key s t threshold maxShift
      = (verifyEnvelope signing key t).map fun ok ↦
        if ok then transfers arith threshold maxShift s t else false := by
  rw [canTransferDiagnosis, hs]
  rfl

/-- Every verified target treats the sources alike. -/
def TransfersAlike (signing : Signing) (key : String) (s s' : ProvenanceEnvelope F) : Prop :=
  ∀ t threshold maxShift, verifyEnvelope signing key t = some true →
    transfers arith threshold maxShift s t = transfers arith threshold maxShift s' t

variable {arith}

omit [FloatText F] in
theorem transfers_ne_of_synthetic (hsynthetic : s.evidenceKind = .syntheticSimulation)
    (hne : s'.evidenceKind ≠ .syntheticSimulation) :
    transfers arith threshold maxShift s s' ≠ transfers arith threshold maxShift s' s' := by
  rw [transfers_of_synthetic arith hsynthetic, transfers_of_same arith hne ⟨rfl, rfl⟩]
  exact Bool.false_ne_true

theorem TransfersAlike.synthetic_iff (h : TransfersAlike arith signing key s s')
    (hs : verifyEnvelope signing key s = some true)
    (hs' : verifyEnvelope signing key s' = some true) :
    s.evidenceKind = .syntheticSimulation ↔ s'.evidenceKind = .syntheticSimulation := by
  constructor
  · intro hsynthetic
    by_contra hne
    exact transfers_ne_of_synthetic hsynthetic hne (h s' (arith.halves 0) (arith.halves 0) hs')
  · intro hsynthetic
    by_contra hne
    exact transfers_ne_of_synthetic hsynthetic hne (h s (arith.halves 0) (arith.halves 0) hs).symm

/-- A target from the place of one source, with nothing that the other could be similar to. -/
theorem TransfersAlike.place_eq (h : TransfersAlike arith signing key s s')
    (hne : s.evidenceKind ≠ .syntheticSimulation) :
    s.tenantId = s'.tenantId ∧ s.environmentHash = s'.environmentHash := by
  by_contra hother
  let target := signEnvelope signing key { s with components := [""] }
  have htransfers : transfers arith (arith.halves 2) (arith.halves 0) s target = true :=
    transfers_of_same arith hne ⟨rfl, rfl⟩
  have hrefused : transfers arith (arith.halves 2) (arith.halves 0) s' target = false := by
    refine transfers_of_dissimilar arith ?_ ?_
    · rintro ⟨htenant, henvironment⟩
      exact hother ⟨htenant.symm, henvironment.symm⟩
    · exact (similarity_unknown arith s'.components).symm ▸ arith.zero_lt_one
  have heq := h target (arith.halves 2) (arith.halves 0) (verifyEnvelope_signEnvelope _)
  rw [htransfers, hrefused] at heq
  exact absurd heq (by simp)

/-- A target from elsewhere, where only the scores count. -/
theorem TransfersAlike.lt_similarity_eq (h : TransfersAlike arith signing key s s')
    (hrisk : s.calibrationEvidence.empiricalRisk = s'.calibrationEvidence.empiricalRisk)
    (hne : s.evidenceKind ≠ .syntheticSimulation) (hne' : s'.evidenceKind ≠ .syntheticSimulation)
    (htenant : s.tenantId = s'.tenantId) (cs : List String) (threshold : F) :
    arith.lt (similarity arith s.components cs) threshold
      = arith.lt (similarity arith s'.components cs) threshold := by
  let target := signEnvelope signing key
    { s with tenantId := s.tenantId ++ "'", components := cs }
  have hlonger : s.tenantId ≠ s.tenantId ++ "'" := by
    intro heq
    have hlength := congrArg String.length heq
    rw [String.length_append] at hlength
    exact absurd hlength (by simp)
  let shift := arith.abs (arith.sub s.calibrationEvidence.empiricalRisk
    s.calibrationEvidence.empiricalRisk)
  have hscore : transfers arith threshold shift s target
      = !arith.lt (similarity arith s.components cs) threshold :=
    transfers_of_shift arith hne (fun hsame ↦ hlonger hsame.1) rfl
  have hshift : shift = arith.abs (arith.sub s'.calibrationEvidence.empiricalRisk
      target.calibrationEvidence.empiricalRisk) := by
    rw [← hrisk]
    rfl
  have hscore' : transfers arith threshold shift s' target
      = !arith.lt (similarity arith s'.components cs) threshold :=
    transfers_of_shift arith hne' (fun hsame ↦ hlonger (htenant.trans hsame.1)) hshift
  have heq := h target threshold shift (verifyEnvelope_signEnvelope _)
  rw [hscore, hscore'] at heq
  exact Bool.not_inj heq

theorem TransfersAlike.sameProvenance (h : TransfersAlike arith signing key s s')
    (hrisk : s.calibrationEvidence.empiricalRisk = s'.calibrationEvidence.empiricalRisk)
    (hs : verifyEnvelope signing key s = some true)
    (hs' : verifyEnvelope signing key s' = some true) : SameProvenance arith s s' := by
  have hkind := h.synthetic_iff hs hs'
  refine ⟨hkind, fun hne ↦ ?_⟩
  have hne' : s'.evidenceKind ≠ .syntheticSimulation := fun hsynthetic ↦ hne (hkind.mpr hsynthetic)
  obtain ⟨htenant, henvironment⟩ := h.place_eq hne
  refine ⟨htenant, henvironment, fun cs ↦ ?_⟩
  have hscores := h.lt_similarity_eq hrisk hne hne' htenant cs
  refine similarity_eq_of_not_lt arith ?_ ?_
  · rw [hscores, arith.lt_irrefl]
  · rw [← hscores, arith.lt_irrefl]

variable (arith)

variable (signing key s s')

/-- **Signatures.** A signature fixes how its two sources are treated exactly when, if both verify,
they have the same provenance. -/
theorem signatureFixes_iff : SignatureFixes arith signing key s s' ↔
    (verifyEnvelope signing key s = some true → verifyEnvelope signing key s' = some true →
      s.signature = s'.signature → SameProvenance arith s s') := by
  refine forall_congr' fun hs ↦ forall_congr' fun hs' ↦ forall_congr' fun hsame ↦ ?_
  have hrisk := (of_signedText (signedText_eq_of_verify hs hs' hsame)).1
  constructor
  · intro h
    have halike : TransfersAlike arith signing key s s' := by
      intro t threshold maxShift ht
      have heq := h t threshold maxShift
      rw [canTransferDiagnosis_of_verify arith hs, canTransferDiagnosis_of_verify arith hs', ht]
        at heq
      exact Option.some.inj heq
    exact halike.sameProvenance hrisk hs hs'
  · rintro ⟨hkind, hplace⟩ t threshold maxShift
    have htransfers : transfers arith threshold maxShift s t
        = transfers arith threshold maxShift s' t := by
      by_cases hsynthetic : s.evidenceKind = .syntheticSimulation
      · rw [transfers_of_synthetic arith hsynthetic,
          transfers_of_synthetic arith (hkind.mp hsynthetic)]
      · obtain ⟨htenant, henvironment, hscores⟩ := hplace hsynthetic
        rw [transfers, transfers, if_neg hsynthetic, if_neg fun h ↦ hsynthetic (hkind.mpr h),
          htenant, henvironment, hscores, hrisk]
    rw [canTransferDiagnosis_of_verify arith hs, canTransferDiagnosis_of_verify arith hs', htransfers]

end Fixes

/-! ## Envelopes without separators -/

section Plain

variable {F : Type} [FloatText F]

end Plain

/-! ## Two envelopes with one signature -/

/-- The arithmetic of whole floats, rounded down. -/
def wholeArithmetic : FloatArithmetic WholeFloat where
  halves n := ⟨n / 2⟩
  div x y := ⟨x.value / y.value⟩
  sub x y := ⟨x.value - y.value⟩
  fifths n := ⟨n / 5⟩
  abs x := ⟨|x.value|⟩
  lt x y := decide (x.value < y.value)
  zero_div n _ := by simp
  not_zero_lt_sub n := by
    refine decide_eq_false ?_
    change ¬ ((0 : ℕ) / 2 : ℤ) < (0 : ℕ) / 2 - (n : ℤ) / 5
    omega
  zero_lt_one := by decide
  lt_irrefl x := by simp
  trichotomy x y _ _ := by
    rcases lt_trichotomy x.value y.value with hlt | heq | hgt
    · exact Or.inl (decide_eq_true hlt)
    · exact Or.inr (Or.inl (congrArg WholeFloat.mk heq))
    · exact Or.inr (Or.inr (decide_eq_true hgt))

/-- A signed envelope with evidence of a kind. -/
def sampleEnvelope (kind : EvidenceClassification) : ProvenanceEnvelope WholeFloat :=
  signEnvelope decimalSigning "key"
    { tenantId := "t"
      components := ["model:gpt"]
      environmentHash := "e"
      calibrationEvidence := ⟨⟨1⟩, 100, ⟨0⟩⟩
      evidenceKind := kind
      signature := none }

/-- The signature of synthetic evidence is that of real evidence, which is transferred. -/
theorem not_signatureFixes_synthetic : ¬ SignatureFixes wholeArithmetic decimalSigning "key"
    (sampleEnvelope .syntheticSimulation) (sampleEnvelope .production) := by
  intro h
  have hs : verifyEnvelope decimalSigning "key" (sampleEnvelope .syntheticSimulation) = some true :=
    verifyEnvelope_signEnvelope _
  have hs' : verifyEnvelope decimalSigning "key" (sampleEnvelope .production) = some true :=
    verifyEnvelope_signEnvelope _
  have hsame : (sampleEnvelope .syntheticSimulation).signature
      = (sampleEnvelope .production).signature := rfl
  have heq := h hs hs' hsame (sampleEnvelope .production) ⟨1⟩ ⟨1⟩
  rw [canTransferDiagnosis_of_verify wholeArithmetic hs,
    canTransferDiagnosis_of_verify wholeArithmetic hs', hs',
    transfers_of_synthetic wholeArithmetic rfl,
    transfers_of_same wholeArithmetic (by decide) ⟨rfl, rfl⟩] at heq
  exact absurd heq (by simp)

end DriftGuardX.Policy
