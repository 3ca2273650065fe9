import DriftGuardX.Foundation.Dominance
import DriftGuardX.Foundation.Transaction
import DriftGuardX.Incident.Resources
import Mathlib.Data.List.Sort
import Mathlib.Data.Nat.Sqrt
import Mathlib.Data.Rat.Floor
import Mathlib.Data.String.Basic

/-!
# Pareto sets of experiments

The controller admits the arms whose measured costs fit into the budget, and returns those of them that
no other one dominates in information gain, recovery harm and cost. Dominance is a strict order on the
candidates without NaNs, so whatever is not returned is dominated by something that is. To admit an
arm the controller squares the distances of its measured costs from their mean, and Python raises where
a square is out of range (`paretoHolds_iff`).
-/

namespace DriftGuardX.Replay

open Incident (PyFloat OrderedPyFloat)
open Recovery (Raised)
open Transaction

/-- What the controller does with floats besides comparing and adding them. Only `**` may raise here:
a variance is not negative. -/
class BanditFloat (F : Type) extends OrderedPyFloat F where
  literal : ℚ → F
  mul : F → F → F
  divNat : F → ℕ → F
  sqrt : F → F
  /-- `x ** 2`. -/
  square : F → Except Raised F

inductive AdmissibilityScore where
  | admissible
  | limited
  | unsupported
  deriving DecidableEq, Repr

structure CandidateArm (F : Type) where
  armId : String
  cost : F
  prior : F

/-- What is read of the evaluation of a proposal. -/
structure RAEBEvaluation (F : Type) where
  admissibility : AdmissibilityScore
  informationGainEstimate : F
  riskScore : F

structure ParetoReplayCandidate (F : Type) where
  armId : String
  informationGain : F
  recoveryHarm : F
  cost : F
  admissibility : AdmissibilityScore
  isParetoOptimal : Bool

/-- What the controller reads and changes when it selects a set. -/
structure ResourceAdmittedBCRBController (F : Type) where
  remainingBudget : F
  rollbackReserve : F
  /-- The measured costs of an arm, none for one that was not measured. -/
  costHistory : String → List F
  shedLog : List String

variable {F : Type} [BanditFloat F]

/-- `max(a, b)`. -/
def pyMax (a b : F) : F := if PyFloat.lt a b then b else a

namespace ResourceAdmittedBCRBController

variable (controller : ResourceAdmittedBCRBController F) (arm : CandidateArm F)

/-- The measured costs that are numbers. -/
def validHistory : List F := (controller.costHistory arm.armId).filter (!OrderedPyFloat.isNan ·)

/-- `mean_cost`, of an arm with measured costs. -/
def meanCost : F :=
  BanditFloat.divNat (PyFloat.sum (controller.validHistory arm)) (controller.validHistory arm).length

/-- `_get_cost_statistics`: the mean cost, and the margin of uncertainty. -/
def getCostStatistics : Except Raised (F × F) :=
  let floorCost := BanditFloat.literal (1 / 20)
  let defaultMargin := BanditFloat.literal (1 / 20)
  if (controller.costHistory arm.armId).isEmpty then .ok (pyMax arm.cost floorCost, PyFloat.zero)
  else if (controller.validHistory arm).isEmpty then .ok (pyMax arm.cost floorCost, PyFloat.zero)
  else if (controller.validHistory arm).length < 2 then .ok (controller.meanCost arm, defaultMargin)
  else do
    let squares ← (controller.validHistory arm).mapM fun x ↦
      BanditFloat.square (PyFloat.sub x (controller.meanCost arm))
    let variance :=
      BanditFloat.divNat (PyFloat.sum squares) ((controller.validHistory arm).length - 1)
    return (controller.meanCost arm,
      BanditFloat.mul (BanditFloat.literal 2) (BanditFloat.sqrt variance))

/-- `_violates_admission_rule`. -/
def violatesAdmissionRule : Except Raised Bool := do
  let statistics ← controller.getCostStatistics arm
  return !PyFloat.le (PyFloat.add statistics.1 statistics.2)
    (PyFloat.sub controller.remainingBudget controller.rollbackReserve)

variable (evaluations : String → Option (RAEBEvaluation F))

/-- The evaluation of an arm, unless it is unsupported. -/
def supported : Option (RAEBEvaluation F) :=
  (evaluations arm.armId).filter (·.admissibility ≠ .unsupported)

/-- The first loop of `select_pareto_set`: the arms that are admitted, with their evaluations, and the
log of those that are shed. -/
def admitArms : List (CandidateArm F) → List String →
    Except Raised (List (CandidateArm F × RAEBEvaluation F)) × List String
  | [], shedLog => (.ok [], shedLog)
  | arm :: arms, shedLog =>
    match controller.violatesAdmissionRule arm with
    | .error e => (.error e, shedLog)
    | .ok true => admitArms arms (shedLog ++ [arm.armId])
    | .ok false =>
      let rest := admitArms arms shedLog
      match supported arm evaluations with
      | none => rest
      | some evaluation => (rest.1.map ((arm, evaluation) :: ·), rest.2)

/-- The candidate that the second loop makes of an admitted arm. -/
def candidateOf (admitted : CandidateArm F × RAEBEvaluation F) :
    Except Raised (ParetoReplayCandidate F) := do
  let statistics ← controller.getCostStatistics admitted.1
  return {
    armId := admitted.1.armId
    informationGain := admitted.2.informationGainEstimate
    recoveryHarm := admitted.2.riskScore
    cost := statistics.1
    admissibility := admitted.2.admissibility
    isParetoOptimal := false }

end ResourceAdmittedBCRBController

namespace ParetoReplayCandidate

/-- None of the three objectives is a NaN. -/
def isValid (c : ParetoReplayCandidate F) : Bool :=
  !OrderedPyFloat.isNan c.informationGain && !OrderedPyFloat.isNan c.recoveryHarm &&
    !OrderedPyFloat.isNan c.cost

/-- `no_worse`. -/
def noWorse (c₂ c₁ : ParetoReplayCandidate F) : Bool :=
  PyFloat.le c₁.informationGain c₂.informationGain && PyFloat.le c₂.recoveryHarm c₁.recoveryHarm &&
    PyFloat.le c₂.cost c₁.cost

/-- `strictly_better`. -/
def strictlyBetter (c₂ c₁ : ParetoReplayCandidate F) : Bool :=
  PyFloat.lt c₁.informationGain c₂.informationGain || PyFloat.lt c₂.recoveryHarm c₁.recoveryHarm ||
    PyFloat.lt c₂.cost c₁.cost

/-- What the inner loop asks of another candidate, to call the first one dominated. -/
def isDominatedBy (c₁ c₂ : ParetoReplayCandidate F) : Bool :=
  if noWorse c₂ c₁ && strictlyBetter c₂ c₁ then true
  else if noWorse c₂ c₁ && !strictlyBetter c₂ c₁ then decide (c₂.armId < c₁.armId)
  else false

/-- The last loops of `select_pareto_set`: the candidates that no other one dominates, by arm. -/
def paretoSet (validCandidates : List (ParetoReplayCandidate F)) : List (ParetoReplayCandidate F) :=
  ((validCandidates.zipIdx.filter fun c₁ ↦ !validCandidates.zipIdx.any fun c₂ ↦
    c₁.2 ≠ c₂.2 && isDominatedBy c₁.1 c₂.1).map fun c ↦
      { c.1 with isParetoOptimal := true }).insertionSort fun a b ↦ a.armId ≤ b.armId

end ParetoReplayCandidate

namespace ResourceAdmittedBCRBController

/-- `select_pareto_set`. -/
def selectParetoSet (controller : ResourceAdmittedBCRBController F) (arms : List (CandidateArm F))
    (evaluations : String → Option (RAEBEvaluation F)) :
    Except Raised (List (ParetoReplayCandidate F)) × ResourceAdmittedBCRBController F :=
  let admitted := controller.admitArms evaluations arms controller.shedLog
  (do
    let candidates ← (← admitted.1).mapM controller.candidateOf
    return ParetoReplayCandidate.paretoSet (candidates.filter (·.isValid)),
    { controller with shedLog := admitted.2 })

/-! ## When the statistics are defined -/

/-- The square of the distance of a measured cost from their mean is out of range. -/
def Overflows (controller : ResourceAdmittedBCRBController F) (arm : CandidateArm F) : Prop :=
  2 ≤ (controller.validHistory arm).length ∧ ∃ x ∈ controller.validHistory arm, ∃ e : Raised,
    BanditFloat.square (PyFloat.sub x (controller.meanCost arm)) = .error e

/-- The cost that is predicted of an arm: what was measured, or else what is declared. -/
def predictedCost (controller : ResourceAdmittedBCRBController F) (arm : CandidateArm F) : F :=
  if (controller.validHistory arm).isEmpty then pyMax arm.cost (BanditFloat.literal (1 / 20))
  else controller.meanCost arm

section Statistics

variable {controller : ResourceAdmittedBCRBController F} {arm : CandidateArm F}

/-- The statistics of an arm are defined unless a square is out of range, and begin with the cost that is
predicted. -/
theorem getCostStatistics_isOk_iff :
    (∃ statistics, controller.getCostStatistics arm = .ok statistics) ↔
      ¬ controller.Overflows arm := by
  by_cases hmany : 2 ≤ (controller.validHistory arm).length
  · have hvalid : ¬ (controller.validHistory arm).isEmpty := by
      rw [List.isEmpty_iff_length_eq_zero]
      omega
    have hhistory : ¬ (controller.costHistory arm.armId).isEmpty := by
      intro hempty
      exact hvalid (by rw [validHistory, List.isEmpty_iff.mp hempty]; rfl)
    have hoverflows : ¬ controller.Overflows arm ↔ ∀ x ∈ controller.validHistory arm, ∃ y,
        BanditFloat.square (PyFloat.sub x (controller.meanCost arm)) = .ok y := by
      rw [Overflows, and_iff_right hmany, not_exists]
      refine forall_congr' fun x ↦ ?_
      rw [not_and]
      refine imp_congr_right fun _ ↦ ?_
      cases BanditFloat.square (PyFloat.sub x (controller.meanCost arm)) <;> simp
    rw [hoverflows, ← exists_mapM_eq_ok_iff, getCostStatistics]
    dsimp only
    rw [if_neg hhistory, if_neg hvalid, if_neg (not_lt.mpr hmany)]
    cases (controller.validHistory arm).mapM fun x ↦
      BanditFloat.square (PyFloat.sub x (controller.meanCost arm)) with
    | error e => exact iff_of_false (fun ⟨_, h⟩ ↦ by cases h) fun ⟨_, h⟩ ↦ by cases h
    | ok squares => exact iff_of_true ⟨_, rfl⟩ ⟨_, rfl⟩
  · refine iff_of_true ?_ fun h ↦ hmany h.1
    rw [getCostStatistics]
    dsimp only
    split
    · exact ⟨_, rfl⟩
    split
    · exact ⟨_, rfl⟩
    rw [if_pos (not_le.mp hmany)]
    exact ⟨_, rfl⟩

theorem fst_getCostStatistics {statistics : F × F}
    (h : controller.getCostStatistics arm = .ok statistics) :
    statistics.1 = controller.predictedCost arm := by
  rw [getCostStatistics] at h
  dsimp only at h
  rw [predictedCost]
  split at h
  case isTrue hempty =>
    obtain rfl := Except.ok.inj h
    have hvalid : (controller.validHistory arm).isEmpty := by
      rw [validHistory, List.isEmpty_iff.mp hempty]
      rfl
    rw [if_pos hvalid]
  split at h
  case isTrue hvalid =>
    obtain rfl := Except.ok.inj h
    rw [if_pos hvalid]
  rename_i hvalid
  rw [if_neg hvalid]
  split at h
  · obtain rfl := Except.ok.inj h
    rfl
  · cases hsquares : (controller.validHistory arm).mapM fun x ↦
      BanditFloat.square (PyFloat.sub x (controller.meanCost arm)) with
    | error e =>
      rw [hsquares] at h
      cases h
    | ok squares =>
      rw [hsquares] at h
      obtain rfl := Except.ok.inj h
      rfl

end Statistics

end ResourceAdmittedBCRBController

/-! ## Dominance -/

namespace ParetoReplayCandidate

/-- A candidate is no worse than another one in gain, harm and cost, and strictly better in one of
these, or equal in all and of the smaller arm. -/
def Dominates (d c : ParetoReplayCandidate F) : Prop :=
  (PyFloat.le c.informationGain d.informationGain = true ∧
    PyFloat.le d.recoveryHarm c.recoveryHarm = true ∧ PyFloat.le d.cost c.cost = true) ∧
  ((PyFloat.lt c.informationGain d.informationGain = true ∨
      PyFloat.lt d.recoveryHarm c.recoveryHarm = true ∨ PyFloat.lt d.cost c.cost = true) ∨
    (PyFloat.le d.informationGain c.informationGain = true ∧
      PyFloat.le c.recoveryHarm d.recoveryHarm = true ∧ PyFloat.le c.cost d.cost = true) ∧
    d.armId < c.armId)

variable {c d e : ParetoReplayCandidate F} {xs ys : List (ParetoReplayCandidate F)}

theorem noWorse_iff : noWorse d c = true ↔
    PyFloat.le c.informationGain d.informationGain = true ∧
      PyFloat.le d.recoveryHarm c.recoveryHarm = true ∧ PyFloat.le d.cost c.cost = true := by
  rw [noWorse, Bool.and_eq_true, Bool.and_eq_true, and_assoc]

theorem strictlyBetter_iff : strictlyBetter d c = true ↔
    PyFloat.lt c.informationGain d.informationGain = true ∨
      PyFloat.lt d.recoveryHarm c.recoveryHarm = true ∨ PyFloat.lt d.cost c.cost = true := by
  rw [strictlyBetter, Bool.or_eq_true, Bool.or_eq_true, or_assoc]

theorem noWorse_symm (h : noWorse d c = true) (hstrict : strictlyBetter d c = false) :
    noWorse c d = true := by
  obtain ⟨hgain, hharm, hcost⟩ := noWorse_iff.mp h
  rw [strictlyBetter, Bool.or_eq_false_iff, Bool.or_eq_false_iff] at hstrict
  have hback : ∀ {a b : F}, PyFloat.le a b = true → PyFloat.lt a b = false → PyFloat.le b a = true :=
    fun hle hlt ↦ OrderedPyFloat.isNanOrder.le_iff.mpr
      ⟨(OrderedPyFloat.isNanOrder.le_iff.mp hle).2.1, (OrderedPyFloat.isNanOrder.le_iff.mp hle).1, hlt⟩
  exact noWorse_iff.mpr ⟨hback hgain hstrict.1.1, hback hharm hstrict.1.2, hback hcost hstrict.2⟩

theorem isDominatedBy_iff : isDominatedBy c d = true ↔ Dominates d c := by
  rw [isDominatedBy, Dominates, ← noWorse_iff, ← strictlyBetter_iff, ← noWorse_iff]
  cases hno : noWorse d c with
  | false => simp
  | true =>
    cases hstrict : strictlyBetter d c with
    | true => simp
    | false => simp [noWorse_symm hno hstrict]

theorem not_dominates_self : ¬ Dominates c c := by
  rintro ⟨-, (h | h | h) | ⟨-, h⟩⟩
  · exact Bool.noConfusion ((OrderedPyFloat.isNanOrder.irrefl _).symm.trans h)
  · exact Bool.noConfusion ((OrderedPyFloat.isNanOrder.irrefl _).symm.trans h)
  · exact Bool.noConfusion ((OrderedPyFloat.isNanOrder.irrefl _).symm.trans h)
  · exact lt_irrefl _ h

theorem Dominates.trans (hcd : Dominates c d) (hde : Dominates d e) : Dominates c e := by
  have order := OrderedPyFloat.isNanOrder (F := F)
  obtain ⟨⟨hgain, hharm, hcost⟩, hbetter⟩ := hcd
  obtain ⟨⟨hgain', hharm', hcost'⟩, hbetter'⟩ := hde
  refine ⟨⟨order.le_trans hgain' hgain, order.le_trans hharm hharm', order.le_trans hcost hcost'⟩, ?_⟩
  rcases hbetter with (h | h | h) | ⟨⟨hback, hback₁, hback₂⟩, hid⟩
  · exact .inl (.inl (order.lt_of_le_of_lt hgain' h))
  · exact .inl (.inr (.inl (order.lt_of_lt_of_le h hharm')))
  · exact .inl (.inr (.inr (order.lt_of_lt_of_le h hcost')))
  rcases hbetter' with (h | h | h) | ⟨⟨hback', hback₁', hback₂'⟩, hid'⟩
  · exact .inl (.inl (order.lt_of_lt_of_le h hgain))
  · exact .inl (.inr (.inl (order.lt_of_le_of_lt hharm h)))
  · exact .inl (.inr (.inr (order.lt_of_le_of_lt hcost h)))
  · exact .inr ⟨⟨order.le_trans hback hback', order.le_trans hback₁' hback₁,
      order.le_trans hback₂' hback₂⟩, hid.trans hid'⟩

/-- `c1.is_pareto_optimal = True`. -/
def optimal (c : ParetoReplayCandidate F) : ParetoReplayCandidate F :=
  { c with isParetoOptimal := true }

theorem paretoSet_eq : paretoSet xs = ((xs.filter fun c ↦ !xs.any (isDominatedBy c)).map
    optimal).insertionSort fun a b ↦ a.armId ≤ b.armId := by
  have hany : ∀ c ∈ xs.zipIdx, (xs.zipIdx.any fun d ↦ c.2 ≠ d.2 && isDominatedBy c.1 d.1)
      = xs.any (isDominatedBy c.1) := by
    intro c hc
    rw [Bool.eq_iff_iff, List.any_eq_true, List.any_eq_true]
    constructor
    · rintro ⟨d, hd, hdominated⟩
      exact ⟨d.1, List.fst_mem_of_mem_zipIdx hd, (Bool.and_eq_true_iff.mp hdominated).2⟩
    · rintro ⟨d, hd, hdominated⟩
      rw [← List.zipIdx_map_fst 0 xs] at hd
      obtain ⟨d, hmem, rfl⟩ := List.mem_map.mp hd
      refine ⟨d, hmem, Bool.and_eq_true_iff.mpr ⟨decide_eq_true fun heq ↦ ?_, hdominated⟩⟩
      have hsame : c.1 = d.1 := Option.some.inj ((List.mem_zipIdx_iff_getElem?.mp hc).symm.trans
        (heq ▸ List.mem_zipIdx_iff_getElem?.mp hmem))
      rw [hsame] at hdominated
      exact not_dominates_self (isDominatedBy_iff.mp hdominated)
  rw [paretoSet, List.filter_congr fun c hc ↦ congrArg (!·) (hany c hc)]
  have hfilter : xs.filter (fun c ↦ !xs.any (isDominatedBy c))
      = (xs.zipIdx.filter ((fun c ↦ !xs.any (isDominatedBy c)) ∘ Prod.fst)).map Prod.fst := by
    rw [← List.filter_map, List.zipIdx_map_fst]
  rw [hfilter, List.map_map]
  rfl

theorem mem_paretoSet_iff : d ∈ paretoSet xs ↔
    ∃ c ∈ xs, (∀ e ∈ xs, ¬ Dominates e c) ∧ d = c.optimal := by
  rw [paretoSet_eq, List.mem_insertionSort, List.mem_map]
  refine exists_congr fun c ↦ ?_
  rw [List.mem_filter, Bool.not_eq_true', List.any_eq_false, and_assoc]
  simp only [isDominatedBy_iff]
  exact and_congr_right fun _ ↦ and_congr_right fun _ ↦ eq_comm

theorem not_dominates_of_mem_paretoSet (hc : c ∈ paretoSet xs) (hd : d ∈ paretoSet xs) :
    ¬ Dominates d c := by
  obtain ⟨c', -, hundominated, rfl⟩ := mem_paretoSet_iff.mp hc
  obtain ⟨d', hd', -, rfl⟩ := mem_paretoSet_iff.mp hd
  exact hundominated d' hd'

theorem exists_dominates_of_not_mem_paretoSet (hc : c ∈ xs) (hnot : c.optimal ∉ paretoSet xs) :
    ∃ d ∈ paretoSet xs, Dominates d c := by
  have hdominated : ∃ d ∈ xs, Dominates d c := by
    by_contra hnone
    exact hnot (mem_paretoSet_iff.mpr ⟨c, hc, fun d hd h ↦ hnone ⟨d, hd, h⟩, rfl⟩)
  obtain ⟨d, hd, hdc, hundominated⟩ := Dominance.exists_undominated
    (fun _ _ ↦ not_dominates_self) (fun _ _ _ _ _ _ ↦ Dominates.trans) hc hdominated
  exact ⟨d.optimal, mem_paretoSet_iff.mpr ⟨d, hd, hundominated, rfl⟩, hdc⟩

theorem paretoSet_perm (hperm : xs.Perm ys) (hids : (xs.map armId).Nodup) :
    paretoSet xs = paretoSet ys := by
  have hsorted : ∀ zs : List (ParetoReplayCandidate F),
      (zs.insertionSort fun a b ↦ a.armId ≤ b.armId).Pairwise fun a b ↦ a.armId ≤ b.armId := by
    intro zs
    have : Std.Total fun a b : ParetoReplayCandidate F ↦ a.armId ≤ b.armId :=
      ⟨fun a b ↦ le_total a.armId b.armId⟩
    have : IsTrans (ParetoReplayCandidate F) fun a b ↦ a.armId ≤ b.armId :=
      ⟨fun a b c ↦ le_trans⟩
    exact List.pairwise_insertionSort _ zs
  have hmembers : ((xs.filter fun c ↦ !xs.any (isDominatedBy c)).map optimal).Perm
      ((ys.filter fun c ↦ !ys.any (isDominatedBy c)).map optimal) := by
    have hany : ∀ c, xs.any (isDominatedBy c) = ys.any (isDominatedBy c) := fun c ↦ hperm.any_eq
    simp only [hany]
    exact (hperm.filter _).map optimal
  have hdistinct : ∀ a ∈ paretoSet xs, ∀ b ∈ paretoSet xs, a.armId = b.armId → a = b := by
    intro a ha b hb hid
    obtain ⟨a', ha', -, rfl⟩ := mem_paretoSet_iff.mp ha
    obtain ⟨b', hb', -, rfl⟩ := mem_paretoSet_iff.mp hb
    exact congrArg optimal (List.inj_on_of_nodup_map hids ha' hb' hid)
  have hall : (paretoSet xs).Perm (paretoSet ys) := by
    rw [paretoSet_eq, paretoSet_eq]
    exact (List.perm_insertionSort _ _).trans
      (hmembers.trans (List.perm_insertionSort _ _).symm)
  refine hall.eq_of_pairwise (fun a b ha hb hab hba ↦ ?_) (hsorted _) (hsorted _)
  exact hdistinct a ha b (hall.mem_iff.mpr hb) (le_antisymm hab hba)

end ParetoReplayCandidate

/-! ## The selection -/

namespace ResourceAdmittedBCRBController

variable (controller : ResourceAdmittedBCRBController F)
  (evaluations : String → Option (RAEBEvaluation F)) (arms : List (CandidateArm F))

/-- The candidate of an arm. -/
def candidate (arm : CandidateArm F) (evaluation : RAEBEvaluation F) :
    ParetoReplayCandidate F where
  armId := arm.armId
  informationGain := evaluation.informationGainEstimate
  recoveryHarm := evaluation.riskScore
  cost := controller.predictedCost arm
  admissibility := evaluation.admissibility
  isParetoOptimal := false

/-- The arm is admitted and supported, and has no NaN as this candidate. -/
structure Eligible (arm : CandidateArm F) (c : ParetoReplayCandidate F) : Prop where
  admitted : controller.violatesAdmissionRule arm = .ok false
  supported : ∃ evaluation, evaluations arm.armId = some evaluation ∧
    evaluation.admissibility ≠ .unsupported ∧ c = controller.candidate arm evaluation
  valid : c.isValid = true

/-- A set of candidates is returned, which are eligible. None of them dominates another one, each
eligible candidate that is not returned is dominated by one that is, and the order of the arms does not
matter. -/
def ParetoHolds : Prop :=
  ∃ set, (controller.selectParetoSet arms evaluations).1 = .ok set ∧
    (∀ c ∈ set, ∀ d ∈ set, ¬ d.Dominates c) ∧
    (∀ c ∈ set, ∃ arm ∈ arms, ∃ c', controller.Eligible evaluations arm c' ∧ c = c'.optimal) ∧
    (∀ arm ∈ arms, ∀ c, controller.Eligible evaluations arm c → c.optimal ∉ set →
      ∃ d ∈ set, d.Dominates c) ∧
    ∀ reordered, arms.Perm reordered →
      (controller.selectParetoSet reordered evaluations).1 = .ok set

/-- The candidate of an arm, if it is eligible. -/
def eligible (arm : CandidateArm F) : Option (ParetoReplayCandidate F) :=
  if (controller.violatesAdmissionRule arm).toOption = some false then
    ((supported arm evaluations).map (controller.candidate arm)).filter (·.isValid)
  else none

variable {controller evaluations arms} {arm : CandidateArm F} {c : ParetoReplayCandidate F}

theorem eligible_eq_some_iff :
    controller.eligible evaluations arm = some c ↔ controller.Eligible evaluations arm c := by
  have hadmitted : (controller.violatesAdmissionRule arm).toOption = some false ↔
      controller.violatesAdmissionRule arm = .ok false := by
    cases controller.violatesAdmissionRule arm <;> simp [Except.toOption]
  rw [eligible, Option.ite_none_right_eq_some, hadmitted, Option.filter_eq_some_iff,
    Option.map_eq_some_iff]
  constructor
  · rintro ⟨hok, ⟨evaluation, hevaluation, rfl⟩, hvalid⟩
    obtain ⟨hsome, hsupported⟩ := Option.filter_eq_some_iff.mp hevaluation
    exact ⟨hok, ⟨evaluation, hsome, of_decide_eq_true hsupported, rfl⟩, hvalid⟩
  · rintro ⟨hok, ⟨evaluation, hsome, hsupported, rfl⟩, hvalid⟩
    exact ⟨hok, ⟨evaluation, Option.filter_eq_some_iff.mpr ⟨hsome, decide_eq_true hsupported⟩, rfl⟩,
      hvalid⟩

theorem violatesAdmissionRule_eq_ok (h : ¬ controller.Overflows arm) :
    ∃ violates, controller.violatesAdmissionRule arm = .ok violates := by
  obtain ⟨statistics, hstatistics⟩ := getCostStatistics_isOk_iff.mpr h
  rw [violatesAdmissionRule, hstatistics]
  exact ⟨_, rfl⟩

theorem violatesAdmissionRule_eq_error (h : controller.Overflows arm) :
    ∃ e, controller.violatesAdmissionRule arm = .error e := by
  cases hstatistics : controller.getCostStatistics arm with
  | ok statistics => exact absurd h (getCostStatistics_isOk_iff.mp ⟨statistics, hstatistics⟩)
  | error e =>
    rw [violatesAdmissionRule, hstatistics]
    exact ⟨e, rfl⟩

theorem candidateOf_eq {admitted : CandidateArm F × RAEBEvaluation F}
    (h : ¬ controller.Overflows admitted.1) :
    controller.candidateOf admitted = .ok (controller.candidate admitted.1 admitted.2) := by
  obtain ⟨statistics, hstatistics⟩ := getCostStatistics_isOk_iff.mpr h
  rw [candidateOf, hstatistics, candidate, ← fst_getCostStatistics hstatistics]
  rfl

/-- The first loop keeps the arms whose candidates are considered. -/
theorem admit_eq_ok (evaluations : String → Option (RAEBEvaluation F))
    (h : ∀ arm ∈ arms, ¬ controller.Overflows arm) (shedLog : List String) :
    ∃ admitted, (controller.admitArms evaluations arms shedLog).1 = .ok admitted ∧
      (∀ x ∈ admitted, x.1 ∈ arms) ∧
      (admitted.map fun x ↦ controller.candidate x.1 x.2).filter (·.isValid)
        = arms.filterMap (controller.eligible evaluations) := by
  induction arms generalizing shedLog with
  | nil => exact ⟨[], rfl, List.forall_mem_nil _, rfl⟩
  | cons arm arms ih =>
    obtain ⟨harm, hrest⟩ := List.forall_mem_cons.mp h
    obtain ⟨violates, hviolates⟩ := violatesAdmissionRule_eq_ok harm
    cases violates with
    | true =>
      obtain ⟨admitted, hadmitted, hmem, heq⟩ := ih hrest (shedLog ++ [arm.armId])
      have hnone : controller.eligible evaluations arm = none := by
        rw [eligible, hviolates]
        rfl
      rw [admitArms, hviolates, List.filterMap_cons_none hnone]
      exact ⟨admitted, hadmitted, fun x hx ↦ List.mem_cons_of_mem arm (hmem x hx), heq⟩
    | false =>
      obtain ⟨admitted, hadmitted, hmem, heq⟩ := ih hrest shedLog
      rw [admitArms, hviolates]
      cases hsupported : supported arm evaluations with
      | none =>
        have hnone : controller.eligible evaluations arm = none := by
          rw [eligible, hviolates, hsupported]
          rfl
        rw [List.filterMap_cons_none hnone]
        exact ⟨admitted, hadmitted, fun x hx ↦ List.mem_cons_of_mem arm (hmem x hx), heq⟩
      | some evaluation =>
        refine ⟨(arm, evaluation) :: admitted, ?_, ?_, ?_⟩
        · dsimp only
          rw [hadmitted]
          rfl
        · exact List.forall_mem_cons.mpr ⟨List.mem_cons_self,
            fun x hx ↦ List.mem_cons_of_mem arm (hmem x hx)⟩
        · have helig : controller.eligible evaluations arm
              = (some (controller.candidate arm evaluation)).filter (·.isValid) := by
            rw [eligible, hviolates, hsupported]
            rfl
          rw [List.map_cons, List.filter_cons, heq, List.filterMap_cons, helig]
          cases hvalid : (controller.candidate arm evaluation).isValid with
          | true => rw [if_pos rfl, Option.filter_some_pos hvalid]
          | false => rw [if_neg Bool.false_ne_true, Option.filter_some_neg hvalid]

theorem admit_eq_error (h : ∃ arm ∈ arms, controller.Overflows arm) (shedLog : List String) :
    ∃ e, (controller.admitArms evaluations arms shedLog).1 = .error e := by
  induction arms generalizing shedLog with
  | nil =>
    obtain ⟨arm, harm, -⟩ := h
    exact absurd harm List.not_mem_nil
  | cons arm arms ih =>
    rw [admitArms]
    by_cases harm : controller.Overflows arm
    · obtain ⟨e, he⟩ := violatesAdmissionRule_eq_error harm
      rw [he]
      exact ⟨e, rfl⟩
    · have hrest : ∃ arm ∈ arms, controller.Overflows arm := by
        obtain ⟨other, hother, hoverflows⟩ := h
        rcases List.mem_cons.mp hother with rfl | hother
        · exact absurd hoverflows harm
        · exact ⟨other, hother, hoverflows⟩
      obtain ⟨violates, hviolates⟩ := violatesAdmissionRule_eq_ok harm
      rw [hviolates]
      cases violates with
      | true => exact ih hrest _
      | false =>
        obtain ⟨e, he⟩ := ih hrest shedLog
        cases supported arm evaluations with
        | none => exact ⟨e, he⟩
        | some evaluation =>
          dsimp only
          rw [he]
          exact ⟨e, rfl⟩

theorem selectParetoSet_eq_ok (h : ∀ arm ∈ arms, ¬ controller.Overflows arm) :
    (controller.selectParetoSet arms evaluations).1
      = .ok (ParetoReplayCandidate.paretoSet (arms.filterMap (controller.eligible evaluations))) := by
  obtain ⟨admitted, hadmitted, hmem, heq⟩ := admit_eq_ok evaluations h controller.shedLog
  have hcandidates : admitted.mapM controller.candidateOf
      = .ok (admitted.map fun x ↦ controller.candidate x.1 x.2) :=
    mapM_eq_ok fun x hx ↦ candidateOf_eq (h x.1 (hmem x hx))
  rw [selectParetoSet, hadmitted, ← heq]
  change (admitted.mapM controller.candidateOf >>= _) = _
  rw [hcandidates]
  rfl

theorem selectParetoSet_eq_error (h : ∃ arm ∈ arms, controller.Overflows arm) :
    ∃ e, (controller.selectParetoSet arms evaluations).1 = .error e := by
  obtain ⟨e, he⟩ := admit_eq_error h controller.shedLog
  rw [selectParetoSet, he]
  exact ⟨e, rfl⟩

theorem nodup_armId (hids : (arms.map CandidateArm.armId).Nodup) :
    ((arms.filterMap (controller.eligible evaluations)).map ParetoReplayCandidate.armId).Nodup := by
  have hid : ∀ arm c, controller.eligible evaluations arm = some c → c.armId = arm.armId := by
    intro arm c hc
    obtain ⟨evaluation, -, -, rfl⟩ := (eligible_eq_some_iff.mp hc).supported
    rfl
  have hsub : ((arms.filterMap (controller.eligible evaluations)).map
      ParetoReplayCandidate.armId).Sublist (arms.map CandidateArm.armId) := by
    induction arms with
    | nil => exact List.Sublist.refl _
    | cons arm arms ih =>
      have hrest := ih (List.nodup_cons.mp hids).2
      rw [List.map_cons, List.filterMap_cons]
      cases hc : controller.eligible evaluations arm with
      | none => exact hrest.cons _
      | some c =>
        rw [List.map_cons, hid arm c hc]
        exact hrest.cons_cons _
  exact hsub.nodup hids

/-- **The Pareto set is the set of what nothing dominates** if and only if no arm's measured costs
overflow. -/
theorem paretoHolds_iff (hids : (arms.map CandidateArm.armId).Nodup) :
    controller.ParetoHolds evaluations arms ↔ ∀ arm ∈ arms, ¬ controller.Overflows arm := by
  constructor
  · rintro ⟨set, hset, -⟩ arm harm hoverflows
    obtain ⟨e, he⟩ : ∃ e, (controller.selectParetoSet arms evaluations).1 = .error e :=
      selectParetoSet_eq_error ⟨arm, harm, hoverflows⟩
    exact absurd (he.symm.trans hset) (by simp)
  · intro h
    refine ⟨_, selectParetoSet_eq_ok h, ?_, ?_, ?_, ?_⟩
    · exact fun c hc d hd ↦ ParetoReplayCandidate.not_dominates_of_mem_paretoSet hc hd
    · intro c hc
      obtain ⟨c', hc', -, rfl⟩ := ParetoReplayCandidate.mem_paretoSet_iff.mp hc
      obtain ⟨arm, harm, heligible⟩ := List.mem_filterMap.mp hc'
      exact ⟨arm, harm, c', eligible_eq_some_iff.mp heligible, rfl⟩
    · intro arm harm c hc hnot
      exact ParetoReplayCandidate.exists_dominates_of_not_mem_paretoSet
        (List.mem_filterMap.mpr ⟨arm, harm, eligible_eq_some_iff.mpr hc⟩) hnot
    · intro reordered hperm
      rw [selectParetoSet_eq_ok fun arm harm ↦ h arm (hperm.mem_iff.mpr harm)]
      exact congrArg _ (ParetoReplayCandidate.paretoSet_perm (hperm.filterMap _)
        (nodup_armId hids)).symm

end ResourceAdmittedBCRBController

/-! ## Exact numbers -/

/-- Exact arithmetic, whose squares are out of range from `2 ^ 1024` on, and whose roots have six
decimals. -/
instance : BanditFloat ℚ where
  literal q := q
  mul := (· * ·)
  divNat a n := a / n
  sqrt a := Nat.sqrt ⌊a * 10 ^ 12⌋₊ / 10 ^ 6
  square a :=
    if 2 ^ 1024 ≤ a * a then .error ⟨.other, "(34, 'Numerical result out of range')"⟩
    else .ok (a * a)

namespace ResourceAdmittedBCRBController

/-- The controller of ten dollars, with the costs that were measured of the arm `a`. -/
def measured (costs : List ℚ) : ResourceAdmittedBCRBController ℚ where
  remainingBudget := 10
  rollbackReserve := 1
  costHistory armId := if armId = "a" then costs else []
  shedLog := []

theorem paretoHolds_measured : (measured [1, 3]).ParetoHolds
    (fun _ ↦ some ⟨.admissible, 5, 2⟩) [⟨"a", 1, 1 / 2⟩, ⟨"b", 1, 1 / 2⟩] := by
  refine (paretoHolds_iff (by decide)).mpr fun arm harm ↦ getCostStatistics_isOk_iff.mp ?_
  have hok : ((measured [1, 3]).getCostStatistics arm).isOk = true := by
    rcases List.mem_pair.mp harm with rfl | rfl <;> decide +kernel
  cases hstatistics : (measured [1, 3]).getCostStatistics arm with
  | ok statistics => exact ⟨statistics, rfl⟩
  | error e =>
    rw [hstatistics] at hok
    exact Bool.noConfusion hok

/-- The costs of the arm are far apart. -/
theorem not_paretoHolds_farApart : ¬ (measured [10 ^ 200, 1]).ParetoHolds
    (fun _ ↦ some ⟨.admissible, 5, 2⟩) [⟨"a", 1, 1 / 2⟩, ⟨"b", 1, 1 / 2⟩] := by
  rintro ⟨set, hset, -⟩
  have herror : ((measured [10 ^ 200, 1]).selectParetoSet [⟨"a", 1, 1 / 2⟩, ⟨"b", 1, 1 / 2⟩]
      fun _ ↦ some ⟨.admissible, 5, 2⟩).1.isOk = false := by decide +kernel
  rw [hset] at herror
  exact Bool.noConfusion herror

end ResourceAdmittedBCRBController

end DriftGuardX.Replay
