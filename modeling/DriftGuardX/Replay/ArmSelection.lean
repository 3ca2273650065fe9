import DriftGuardX.Foundation.Selection
import DriftGuardX.Foundation.Transaction
import DriftGuardX.Replay.ParetoSelection
import Mathlib.Algebra.Order.Floor.Ring

/-!
# One arm at a time

`select_arm` takes the admitted arm with the greatest score, and of several the first by name; the
score is what the arm is expected to return, with a bonus for arms that were seldom pulled, over its
cost. `update` charges what the replay of an arm has cost.

Without the bonus, candidates of the same cost that are replayed without a reward are taken in the
order of their priors, as far as the budget goes (`candidateOrder_eq`). Whatever the rewards are,
the reserve is never cut into by more than the excess of one charge over its prediction
(`le_remainingBudget_of_serveAll`).
-/

namespace DriftGuardX.Replay

open Incident (PyFloat OrderedPyFloat)
open Recovery (Raised)

/-- What `select_arm` does with floats besides the statistics of costs. No divisor is zero. -/
class ArmFloat (F : Type) extends BanditFloat F where
  div : F → F → F
  /-- `math.log` of a positive whole number. -/
  log : ℕ → F
  /-- `x > float("-inf")`. -/
  overNegInf : F → Bool
  counts : Selection.Counts lt isNan overNegInf

/-! ## The budget of an execution -/

inductive ExhaustionReason where
  | wallClock
  | maxSteps
  | maxTokens
  | maxToolCalls
  | maxReplays
  | cpuExhausted
  | gpuExhausted
  | memoryExhausted
  | storageExhausted
  | queueDelayExhausted
  deriving DecidableEq, Repr

def ExhaustionReason.value : ExhaustionReason → String
  | .wallClock => "wall_clock_exhausted"
  | .maxSteps => "max_steps_exhausted"
  | .maxTokens => "max_tokens_exhausted"
  | .maxToolCalls => "max_tool_calls_exhausted"
  | .maxReplays => "max_replays_exhausted"
  | .cpuExhausted => "cpu_exhausted"
  | .gpuExhausted => "gpu_exhausted"
  | .memoryExhausted => "memory_exhausted"
  | .storageExhausted => "storage_exhausted"
  | .queueDelayExhausted => "queue_delay_exhausted"

structure ExecutionBudget (F : Type) where
  wallClockTimeS : Option F
  maxSteps : Option ℤ
  maxTokens : Option ℤ
  maxToolCalls : Option ℤ
  maxReplays : Option ℤ
  maxCpuS : Option F
  maxGpuS : Option F
  maxMemoryMb : Option F
  maxStorageMb : Option F
  maxQueueDelayS : Option F
  usedWallClockS : F
  usedSteps : ℤ
  usedTokens : ℤ
  usedToolCalls : ℤ
  usedReplays : ℤ
  usedCpuS : F
  usedGpuS : F
  usedMemoryMb : F
  usedStorageMb : F
  usedQueueDelayS : F

variable {F : Type} [ArmFloat F]

namespace ExecutionBudget

/-- A limit is set and reached. -/
def reached (limit : Option F) (used : F) : Bool := limit.any fun l ↦ PyFloat.le l used

def countReached (limit : Option ℤ) (used : ℤ) : Bool := limit.any fun l ↦ decide (l ≤ used)

/-- The first limit that is reached. -/
def checkExhaustion (b : ExecutionBudget F) : Option ExhaustionReason :=
  ([(reached b.wallClockTimeS b.usedWallClockS, .wallClock),
    (countReached b.maxSteps b.usedSteps, .maxSteps),
    (countReached b.maxTokens b.usedTokens, .maxTokens),
    (countReached b.maxToolCalls b.usedToolCalls, .maxToolCalls),
    (countReached b.maxReplays b.usedReplays, .maxReplays),
    (reached b.maxCpuS b.usedCpuS, .cpuExhausted),
    (reached b.maxGpuS b.usedGpuS, .gpuExhausted),
    (reached b.maxMemoryMb b.usedMemoryMb, .memoryExhausted),
    (reached b.maxStorageMb b.usedStorageMb, .storageExhausted),
    (reached b.maxQueueDelayS b.usedQueueDelayS, ExhaustionReason.queueDelayExhausted)].find?
      Prod.fst).map Prod.snd

end ExecutionBudget

/-! ## The scheduler -/

/-- The controller, with what it reads and changes when it selects one arm. -/
structure ArmScheduler (F : Type) extends ResourceAdmittedBCRBController F where
  explorationConstant : F
  executionBudget : Option (ExecutionBudget F)
  pulls : String → ℕ
  /-- The sum of the rewards of an arm, zero for one that was not pulled. -/
  rewards : String → F
  totalPulls : ℕ
  stopReason : Option String

namespace ArmScheduler

/-- `ResourceAdmittedBCRBController(total_budget, exploration_constant, execution_budget,
rollback_reserve_ratio)`. -/
def new (totalBudget explorationConstant : F) (executionBudget : Option (ExecutionBudget F))
    (rollbackReserveRatio : F) : ArmScheduler F where
  remainingBudget := totalBudget
  rollbackReserve := BanditFloat.mul totalBudget rollbackReserveRatio
  costHistory _ := []
  shedLog := []
  explorationConstant := explorationConstant
  executionBudget := executionBudget
  pulls _ := 0
  rewards _ := PyFloat.zero
  totalPulls := 0
  stopReason := none

variable (s : ArmScheduler F)

/-- A float that is zero instead of a NaN. -/
def orZero (x : F) : F := if OrderedPyFloat.isNan x then PyFloat.zero else x

def expectedReward (arm : CandidateArm F) : F :=
  if s.pulls arm.armId = 0 then arm.prior
  else BanditFloat.divNat (s.rewards arm.armId) (s.pulls arm.armId)

def ucbBonus (arm : CandidateArm F) : F :=
  if s.pulls arm.armId = 0 then
    BanditFloat.mul s.explorationConstant
      (BanditFloat.sqrt (ArmFloat.log (max s.totalPulls 1 + 1)))
  else
    BanditFloat.mul s.explorationConstant
      (BanditFloat.sqrt (BanditFloat.divNat (ArmFloat.log (max s.totalPulls 1)) (s.pulls arm.armId)))

def knapsackScore (arm : CandidateArm F) : Except Raised F := do
  let statistics ← s.getCostStatistics arm
  return ArmFloat.div
    (PyFloat.add (orZero (s.expectedReward arm)) (orZero (s.ucbBonus arm)))
    (pyMax statistics.1 (BanditFloat.literal (1 / 10000)))

/-- The loop that admits the arms, with the log of those that are shed. -/
def admitted : List (CandidateArm F) → List String →
    Except Raised (List (CandidateArm F)) × List String
  | [], shedLog => (.ok [], shedLog)
  | arm :: arms, shedLog =>
    match s.violatesAdmissionRule arm with
    | .error e => (.error e, shedLog)
    | .ok true => admitted arms (shedLog ++ [arm.armId])
    | .ok false =>
      let rest := admitted arms shedLog
      (rest.1.map (arm :: ·), rest.2)

/-- The arms with their scores, by name. -/
def scored (arms : List (CandidateArm F)) : Except Raised (List (CandidateArm F × F)) :=
  (arms.insertionSort fun a b ↦ a.armId ≤ b.armId).mapM fun arm ↦ do
    return (arm, ← s.knapsackScore arm)

/-- The loop over the admitted arms. -/
def bestArm (arms : List (CandidateArm F)) : Except Raised (Option String) := do
  let arms ← s.scored arms
  return (Selection.firstBest PyFloat.lt ArmFloat.overNegInf Prod.snd arms).map fun p ↦ p.1.armId

def allShed : String := "Shed: Budget Exhausted or All Candidates Failed Admission"

def selectArm (arms : List (CandidateArm F)) : Except Raised (Option String) × ArmScheduler F :=
  match s.executionBudget.bind ExecutionBudget.checkExhaustion with
  | some exhaustion => (.ok none, { s with stopReason := some exhaustion.value })
  | none =>
    let round := s.admitted arms s.shedLog
    let s' := { s with shedLog := round.2 }
    match round.1 with
    | .error e => (.error e, s')
    | .ok [] => (.ok none, { s' with stopReason := some allShed })
    | .ok (arm :: arms) => (s.bestArm (arm :: arms), s')

def update (armId : String) (reward cost : F) : ArmScheduler F :=
  { s with
    remainingBudget := PyFloat.sub s.remainingBudget (orZero cost)
    pulls := fun id ↦ if id = armId then s.pulls id + 1 else s.pulls id
    rewards := fun id ↦
      if id = armId then PyFloat.add (s.rewards id) (orZero reward) else s.rewards id
    totalPulls := s.totalPulls + 1
    costHistory := fun id ↦
      if id = armId ∧ PyFloat.lt PyFloat.zero (orZero cost) = true then
        s.costHistory id ++ [orZero cost]
      else s.costHistory id }

/-! ## What is selected -/

section Selected

variable {s s' : ArmScheduler F} {arms : List (CandidateArm F)} {armId : String}

theorem mem_admitted_iff {shedLog : List String} {xs : List (CandidateArm F)}
    (h : (s.admitted arms shedLog).1 = .ok xs) (arm : CandidateArm F) :
    arm ∈ xs ↔ arm ∈ arms ∧ s.violatesAdmissionRule arm = .ok false := by
  induction arms generalizing shedLog xs with
  | nil =>
    obtain rfl := Except.ok.inj h
    simp
  | cons a arms ih =>
    rw [admitted] at h
    cases hrule : s.violatesAdmissionRule a with
    | error e =>
      rw [hrule] at h
      exact absurd h (by simp)
    | ok violates =>
      rw [hrule] at h
      cases violates with
      | true =>
        rw [ih h, List.mem_cons, or_and_right]
        refine (or_iff_right ?_).symm
        rintro ⟨rfl, hfalse⟩
        exact absurd (hrule.symm.trans hfalse) (by simp)
      | false =>
        cases hrest : (s.admitted arms shedLog).1 with
        | error e =>
          dsimp only at h
          rw [hrest] at h
          exact absurd h (by simp [Except.map])
        | ok ys =>
          dsimp only at h
          rw [hrest] at h
          obtain rfl := Except.ok.inj h
          rw [List.mem_cons, List.mem_cons, ih hrest, or_and_right]
          exact or_congr_left ⟨fun heq ↦ ⟨heq, heq ▸ hrule⟩, And.left⟩

/-- An arm that is selected is one of those that are admitted, and changes nothing but the log. -/
theorem exists_of_selectArm (h : s.selectArm arms = (.ok (some armId), s')) :
    ∃ xs shedLog', (∀ arm, arm ∈ xs ↔ arm ∈ arms ∧ s.violatesAdmissionRule arm = .ok false) ∧
      s.bestArm xs = .ok (some armId) ∧ s' = { s with shedLog := shedLog' } := by
  rw [selectArm] at h
  split at h
  · exact absurd (Prod.mk.inj h).1 (by simp)
  · dsimp only at h
    cases hadmitted : (s.admitted arms s.shedLog).1 with
    | error e =>
      rw [hadmitted] at h
      exact absurd (Prod.mk.inj h).1 (by simp)
    | ok xs =>
      rw [hadmitted] at h
      cases xs with
      | nil => exact absurd (Prod.mk.inj h).1 (by simp)
      | cons x xs =>
        obtain ⟨hbest, rfl⟩ := Prod.mk.inj h
        exact ⟨x :: xs, _, mem_admitted_iff hadmitted, hbest, rfl⟩

theorem selectArm_snd : (s.selectArm arms).2.remainingBudget = s.remainingBudget ∧
    (s.selectArm arms).2.rollbackReserve = s.rollbackReserve := by
  rw [selectArm]
  split
  · exact ⟨rfl, rfl⟩
  · dsimp only
    split
    · exact ⟨rfl, rfl⟩
    · exact ⟨rfl, rfl⟩
    · exact ⟨rfl, rfl⟩

theorem exists_scored {xs : List (CandidateArm F)} {scores : List (CandidateArm F × F)}
    (h : s.scored xs = .ok scores) :
    scores.map Prod.fst = xs.insertionSort (fun a b ↦ a.armId ≤ b.armId) ∧
      ∀ p ∈ scores, s.knapsackScore p.1 = .ok p.2 := by
  rw [scored] at h
  revert h
  generalize xs.insertionSort (fun a b ↦ a.armId ≤ b.armId) = ys
  intro h
  induction ys generalizing scores with
  | nil =>
    obtain rfl := Except.ok.inj h
    exact ⟨rfl, by simp⟩
  | cons y ys ih =>
    simp only [List.mapM_cons, Transaction.bind_eq_ok_iff, Transaction.pure_eq_ok_iff] at h
    obtain ⟨p, ⟨v, hscore, rfl⟩, rest, hrest, rfl⟩ := h
    obtain ⟨hmap, hscores⟩ := ih hrest
    exact ⟨by rw [List.map_cons, hmap], List.forall_mem_cons.mpr ⟨hscore, hscores⟩⟩

theorem exists_mem_of_bestArm {xs : List (CandidateArm F)} (h : s.bestArm xs = .ok (some armId)) :
    ∃ arm ∈ xs, arm.armId = armId := by
  simp only [bestArm, Transaction.bind_eq_ok_iff, Transaction.pure_eq_ok_iff] at h
  obtain ⟨scores, hscored, hbest⟩ := h
  obtain ⟨p, hfirst, rfl⟩ := Option.map_eq_some_iff.mp hbest
  obtain ⟨before, after, rfl, -⟩ :=
    Selection.exists_kept (OrderedPyFloat.isNanOrder (F := F)) ArmFloat.counts hfirst
  refine ⟨p.1, (List.mem_insertionSort fun a b ↦ a.armId ≤ b.armId).mp ?_, rfl⟩
  rw [← (exists_scored hscored).1]
  exact List.mem_map_of_mem (by simp)

/-- The arm is worth most of those that are admitted: none has a greater score, and none with the
same score has an earlier name. -/
structure WorthMost (s : ArmScheduler F) (arms : List (CandidateArm F)) (arm : CandidateArm F)
    (score : F) : Prop where
  mem : arm ∈ arms
  admitted : s.violatesAdmissionRule arm = .ok false
  knapsackScore : s.knapsackScore arm = .ok score
  number : OrderedPyFloat.isNan score = false
  greatest : ∀ other ∈ arms, s.violatesAdmissionRule other = .ok false →
    ∃ v, s.knapsackScore other = .ok v ∧ PyFloat.lt score v = false ∧
      (OrderedPyFloat.isNan v = false → PyFloat.lt v score = true ∨ arm.armId ≤ other.armId)

/-- **The arm that is selected** is worth most of those that are admitted. -/
theorem exists_worthMost (h : s.selectArm arms = (.ok (some armId), s')) :
    ∃ arm score, arm.armId = armId ∧ s.WorthMost arms arm score := by
  have order := OrderedPyFloat.isNanOrder (F := F)
  obtain ⟨xs, -, hxs, hbest, -⟩ := exists_of_selectArm h
  simp only [bestArm, Transaction.bind_eq_ok_iff, Transaction.pure_eq_ok_iff] at hbest
  obtain ⟨scores, hscored, hbest⟩ := hbest
  obtain ⟨⟨arm, score⟩, hfirst, rfl⟩ := Option.map_eq_some_iff.mp hbest
  obtain ⟨hmap, hscores⟩ := exists_scored hscored
  obtain ⟨before, after, rfl, hkept⟩ := Selection.exists_kept order ArmFloat.counts hfirst
  have hmem : ∀ a, a ∈ (before ++ (arm, score) :: after).map Prod.fst ↔
      a ∈ arms ∧ s.violatesAdmissionRule a = .ok false := fun a ↦ by
    rw [hmap, List.mem_insertionSort, hxs]
  obtain ⟨harm, hadmitted⟩ := (hmem arm).mp (List.mem_map.mpr ⟨(arm, score), by simp, rfl⟩)
  refine ⟨arm, score, rfl, harm, hadmitted, hscores (arm, score) (by simp),
    ArmFloat.counts.number hkept.counts, fun other hother hrule ↦ ?_⟩
  obtain ⟨⟨other, v⟩, hp, rfl⟩ := List.mem_map.mp ((hmem other).mpr ⟨hother, hrule⟩)
  refine ⟨v, hscores _ hp, hkept.lt_eq_false order _ hp, fun hnumber ↦ ?_⟩
  rcases List.mem_append.mp hp with hp | hp
  · exact .inl (hkept.before _ hp hnumber)
  · -- what is scanned later has a later name
    have hnames : ((before ++ (arm, score) :: after).map Prod.fst).Pairwise
        fun a b ↦ a.armId ≤ b.armId := by
      rw [hmap]
      exact List.pairwise_insertionSort (fun a b : CandidateArm F ↦ a.armId ≤ b.armId) xs
    rw [List.pairwise_map, List.pairwise_append, List.pairwise_cons] at hnames
    rcases List.mem_cons.mp hp with heq | hp
    · rw [(Prod.mk.inj heq).1]
      exact .inr le_rfl
    · exact .inr (hnames.2.1.1 _ hp)

end Selected

/-! ## The reserve -/

/-- What a round is given: the arms that are offered, and what the replay of the selected one
returns. -/
structure Round (F : Type) where
  arms : List (CandidateArm F)
  reward : F
  cost : F

/-- A round: a selection, and the charge of what is selected. -/
def serve (s : ArmScheduler F) (round : Round F) : ArmScheduler F :=
  match s.selectArm round.arms with
  | (.ok (some armId), s') => s'.update armId round.reward round.cost
  | (_, s') => s'

def serveAll (s : ArmScheduler F) (rounds : List (Round F)) : ArmScheduler F := rounds.foldl serve s

/-- The charge exceeds what was predicted of the selected arm by no more than this. -/
def WithinPrediction (excess : F) (s : ArmScheduler F) (round : Round F) : Prop :=
  ∀ armId s', s.selectArm round.arms = (.ok (some armId), s') →
    ∀ arm ∈ round.arms, arm.armId = armId → ∀ statistics, s.getCostStatistics arm = .ok statistics →
      PyFloat.le round.cost (PyFloat.add (PyFloat.add statistics.1 statistics.2) excess) = true

/-! ## The order of candidates -/

/-- The rounds of `_candidate_order` that are left. Each takes one candidate out, so there is one
for each. -/
def orderFrom (prior : String → F) : ℕ → ArmScheduler F → List String → Except Raised (List String)
  | 0, _, _ => .ok []
  | rounds + 1, s, remaining =>
    match s.selectArm (remaining.map fun c ↦ ⟨c, BanditFloat.literal 1, prior c⟩) with
    | (.error e, _) => .error e
    | (.ok none, _) => .ok []
    | (.ok (some selected), s') =>
      (orderFrom prior rounds (s'.update selected PyFloat.zero (BanditFloat.literal 1))
        (remaining.erase selected)).map (selected :: ·)

/-- The loop of `_candidate_order`, without exploration or reserve. -/
def candidateOrder (totalBudget : F) (prior : String → F) (candidates : List String) :
    Except Raised (List String) :=
  orderFrom prior candidates.length (new totalBudget PyFloat.zero none PyFloat.zero) candidates

end ArmScheduler

/-- What floating-point arithmetic does exactly: whole numbers that are not too large, and zeros. -/
class ExactWholes (F : Type) [ArmFloat F] : Prop where
  zero_eq : (PyFloat.zero : F) = BanditFloat.literal 0
  sub_literal : ∀ m n : ℕ, n ≤ m → m ≤ 2 ^ 53 →
    PyFloat.sub (BanditFloat.literal m : F) (BanditFloat.literal n) = BanditFloat.literal (m - n : ℕ)
  le_literal : ∀ m n : ℕ, m ≤ 2 ^ 53 → n ≤ 2 ^ 53 →
    PyFloat.le (BanditFloat.literal m : F) (BanditFloat.literal n) = decide (m ≤ n)
  literal_mono : ∀ p q : ℚ, p ≤ q →
    PyFloat.lt (BanditFloat.literal q : F) (BanditFloat.literal p) = false
  add_zero : ∀ x : F, PyFloat.lt PyFloat.zero x = true → PyFloat.add x PyFloat.zero = x
  div_one : ∀ x : F, OrderedPyFloat.isNan x = false → ArmFloat.div x (BanditFloat.literal 1) = x
  mul_zero : ∀ n : ℕ, n ≤ 2 ^ 53 →
    BanditFloat.mul (BanditFloat.literal n : F) PyFloat.zero = PyFloat.zero
  zero_mul_sqrt_log : ∀ n : ℕ,
    BanditFloat.mul PyFloat.zero (BanditFloat.sqrt (ArmFloat.log n : F)) = PyFloat.zero
  overNegInf : ∀ x : F, PyFloat.lt PyFloat.zero x = true → ArmFloat.overNegInf x = true

/-- The greater prior is first, and of equal ones the first by name. -/
def Before (prior : String → F) (a b : String) : Prop :=
  PyFloat.lt (prior b) (prior a) = true ∨ PyFloat.lt (prior a) (prior b) = false ∧ a ≤ b

instance (prior : String → F) : DecidableRel (Before prior) :=
  fun a b ↦ inferInstanceAs (Decidable (PyFloat.lt (prior b) (prior a) = true ∨
    PyFloat.lt (prior a) (prior b) = false ∧ a ≤ b))

section Before

variable {prior : String → F}

theorem total_before : Std.Total (Before prior) where
  total a b := by
    cases hab : PyFloat.lt (prior a) (prior b) with
    | true => exact .inr (.inl hab)
    | false =>
      cases hba : PyFloat.lt (prior b) (prior a) with
      | true => exact .inl (.inl hba)
      | false => exact (le_total a b).imp (fun h ↦ .inr ⟨hab, h⟩) fun h ↦ .inr ⟨hba, h⟩

theorem antisymm_before : Std.Antisymm (Before prior) where
  antisymm a b hab hba := by
    have order := OrderedPyFloat.isNanOrder (F := F)
    rcases hab with hab | ⟨hab, hle⟩ <;> rcases hba with hba | ⟨hba, hge⟩
    · exact Bool.noConfusion ((order.irrefl _).symm.trans (order.trans hab hba))
    · exact Bool.noConfusion (hba.symm.trans hab)
    · exact Bool.noConfusion (hab.symm.trans hba)
    · exact le_antisymm hle hge

theorem trans_before (hnumber : ∀ c, OrderedPyFloat.isNan (prior c) = false) :
    IsTrans String (Before prior) where
  trans a b c hab hbc := by
    have order := OrderedPyFloat.isNanOrder (F := F)
    rcases hab with hab | ⟨hab, hle⟩ <;> rcases hbc with hbc | ⟨hbc, hle'⟩
    · exact .inl (order.trans hbc hab)
    · refine .inl ((order.cotrans (prior c) hab (hnumber c)).resolve_left ?_)
      rw [hbc]
      exact Bool.false_ne_true
    · refine .inl ((order.cotrans (prior a) hbc (hnumber a)).resolve_right ?_)
      rw [hab]
      exact Bool.false_ne_true
    · refine .inr ⟨Bool.eq_false_iff.mpr fun hac ↦ ?_, hle.trans hle'⟩
      rcases order.cotrans (prior b) hac (hnumber b) with h | h
      · exact Bool.noConfusion (hab.symm.trans h)
      · exact Bool.noConfusion (hbc.symm.trans h)

end Before

namespace ArmScheduler

section Order

variable [ExactWholes F] {s : ArmScheduler F} {prior : String → F} {budget : ℕ} {arm : CandidateArm F}

/-- The scheduler before a round of `_candidate_order`: it does not explore, has this budget left,
and has pulled none of the candidates. -/
structure Fresh (s : ArmScheduler F) (budget : ℕ) (remaining : List String) : Prop where
  explorationConstant : s.explorationConstant = PyFloat.zero
  executionBudget : s.executionBudget = none
  remainingBudget : s.remainingBudget = BanditFloat.literal budget
  rollbackReserve : s.rollbackReserve = BanditFloat.literal 0
  pulls : ∀ c ∈ remaining, s.pulls c = 0
  costHistory : ∀ c ∈ remaining, s.costHistory c = []

theorem pyMax_literal {p q : ℚ} (h : q ≤ p) :
    pyMax (BanditFloat.literal p : F) (BanditFloat.literal q) = BanditFloat.literal p := by
  rw [pyMax, ExactWholes.literal_mono q p h, if_neg Bool.false_ne_true]

theorem zero_lt_one : PyFloat.lt PyFloat.zero (BanditFloat.literal 1 : F) = true := by
  have hle : PyFloat.le (BanditFloat.literal 1 : F) (BanditFloat.literal 0) = false := by
    simpa using ExactWholes.le_literal (F := F) 1 0 (by norm_num) (by norm_num)
  have hge : PyFloat.le (BanditFloat.literal 0 : F) (BanditFloat.literal 1) = true := by
    simpa using ExactWholes.le_literal (F := F) 0 1 (by norm_num) (by norm_num)
  have order := OrderedPyFloat.isNanOrder (F := F)
  obtain ⟨hzero, hone, -⟩ := order.le_iff.mp hge
  rw [ExactWholes.zero_eq]
  cases hlt : PyFloat.lt (BanditFloat.literal 0 : F) (BanditFloat.literal 1) with
  | true => rfl
  | false => exact absurd (order.le_iff.mpr ⟨hone, hzero, hlt⟩) (by rw [hle]; exact Bool.false_ne_true)

omit [ExactWholes F] in
theorem orZero_eq {x : F} (h : PyFloat.lt PyFloat.zero x = true) : orZero x = x := by
  rw [orZero, ((OrderedPyFloat.isNanOrder (F := F)).number_of_lt h).2, if_neg Bool.false_ne_true]

omit [ExactWholes F] in
theorem orZero_zero : orZero (PyFloat.zero : F) = PyFloat.zero := by
  rw [orZero]
  split_ifs <;> rfl

theorem getCostStatistics_of_unmeasured (h : s.costHistory arm.armId = [])
    (hcost : arm.cost = BanditFloat.literal 1) :
    s.getCostStatistics arm = .ok (BanditFloat.literal 1, PyFloat.zero) := by
  rw [ResourceAdmittedBCRBController.getCostStatistics]
  dsimp only
  rw [h, List.isEmpty_nil, if_pos rfl, hcost, pyMax_literal (by norm_num)]

theorem violatesAdmissionRule_of_unmeasured (h : s.costHistory arm.armId = [])
    (hcost : arm.cost = BanditFloat.literal 1) (hbudget : budget ≤ 2 ^ 53)
    (hremaining : s.remainingBudget = BanditFloat.literal budget)
    (hreserve : s.rollbackReserve = BanditFloat.literal 0) :
    s.violatesAdmissionRule arm = .ok (decide (budget = 0)) := by
  have hsub := ExactWholes.sub_literal (F := F) budget 0 (Nat.zero_le _) hbudget
  have hle := ExactWholes.le_literal (F := F) 1 budget (by norm_num) hbudget
  rw [Nat.cast_zero, Nat.sub_zero] at hsub
  rw [Nat.cast_one] at hle
  rw [ResourceAdmittedBCRBController.violatesAdmissionRule, getCostStatistics_of_unmeasured h hcost,
    hremaining, hreserve]
  change Except.ok (!PyFloat.le (PyFloat.add _ _) (PyFloat.sub _ _)) = _
  rw [ExactWholes.add_zero _ zero_lt_one, hsub, hle]
  by_cases hzero : budget = 0
  · simp [hzero]
  · simp [hzero, Nat.one_le_iff_ne_zero]

theorem knapsackScore_of_unpulled (hexploration : s.explorationConstant = PyFloat.zero)
    (hpulls : s.pulls arm.armId = 0) (h : s.costHistory arm.armId = [])
    (hcost : arm.cost = BanditFloat.literal 1) (hprior : PyFloat.lt PyFloat.zero arm.prior = true) :
    s.knapsackScore arm = .ok arm.prior := by
  have hnumber := ((OrderedPyFloat.isNanOrder (F := F)).number_of_lt hprior).2
  rw [knapsackScore, getCostStatistics_of_unmeasured h hcost]
  change Except.ok _ = _
  rw [expectedReward, ucbBonus, if_pos hpulls, if_pos hpulls, hexploration,
    ExactWholes.zero_mul_sqrt_log, orZero_zero, orZero_eq hprior, ExactWholes.add_zero _ hprior,
    pyMax_literal (by norm_num), ExactWholes.div_one _ hnumber]

/-- The arms of the candidates that are left. -/
def armsOf (prior : String → F) (remaining : List String) : List (CandidateArm F) :=
  remaining.map fun c ↦ ⟨c, BanditFloat.literal 1, prior c⟩

theorem admitted_armsOf {remaining : List String} (h : s.Fresh budget remaining)
    (hbudget : budget ≤ 2 ^ 53) (shedLog : List String) :
    ∃ shedLog', s.admitted (armsOf prior remaining) shedLog =
      (.ok (if budget = 0 then [] else armsOf prior remaining), shedLog') := by
  induction remaining generalizing shedLog with
  | nil => exact ⟨shedLog, by simp [armsOf, admitted]⟩
  | cons c remaining ih =>
    have hrest : s.Fresh budget remaining := ⟨h.1, h.2, h.3, h.4,
      fun x hx ↦ h.pulls x (List.mem_cons_of_mem c hx),
      fun x hx ↦ h.costHistory x (List.mem_cons_of_mem c hx)⟩
    have hrule : s.violatesAdmissionRule ⟨c, BanditFloat.literal 1, prior c⟩
        = .ok (decide (budget = 0)) := violatesAdmissionRule_of_unmeasured
      (h.costHistory c List.mem_cons_self) rfl hbudget h.remainingBudget h.rollbackReserve
    rw [armsOf, List.map_cons, admitted, hrule]
    by_cases hzero : budget = 0
    · obtain ⟨shedLog', hadmitted⟩ := ih hrest (shedLog ++ [c])
      exact ⟨shedLog', by simpa [hzero, armsOf] using hadmitted⟩
    · obtain ⟨shedLog', hadmitted⟩ := ih hrest shedLog
      rw [armsOf, if_neg hzero] at hadmitted
      exact ⟨shedLog', by simp [hzero, hadmitted, Except.map]⟩

theorem scored_armsOf {remaining : List String} (h : s.Fresh budget remaining)
    (hprior : ∀ c, PyFloat.lt PyFloat.zero (prior c) = true) :
    s.scored (armsOf prior remaining) = .ok ((remaining.insertionSort (· ≤ ·)).map fun c ↦
      (⟨c, BanditFloat.literal 1, prior c⟩, prior c)) := by
  have hsort : (armsOf prior remaining).insertionSort (fun a b ↦ a.armId ≤ b.armId)
      = armsOf prior (remaining.insertionSort (· ≤ ·)) :=
    (List.map_insertionSort (fun c d : String ↦ c ≤ d)
      (fun a b : CandidateArm F ↦ a.armId ≤ b.armId) _ _ fun _ _ _ _ ↦ Iff.rfl).symm
  rw [scored, hsort, Transaction.mapM_eq_ok (g := fun arm ↦ (arm, arm.prior))]
  · rw [armsOf, List.map_map]
    rfl
  · rintro arm harm
    obtain ⟨c, hc, rfl⟩ := List.mem_map.mp harm
    have hmem := (List.mem_insertionSort _).mp hc
    rw [knapsackScore_of_unpulled h.explorationConstant (h.pulls c hmem) (h.costHistory c hmem) rfl
      (hprior c)]
    rfl

/-- **A round** takes the candidate that comes before all others. -/
theorem exists_bestArm {remaining : List String} (h : s.Fresh budget remaining)
    (hprior : ∀ c, PyFloat.lt PyFloat.zero (prior c) = true) (hne : remaining ≠ []) :
    ∃ selected ∈ remaining, s.bestArm (armsOf prior remaining) = .ok (some selected) ∧
      ∀ c ∈ remaining, Before prior selected c := by
  have order := OrderedPyFloat.isNanOrder (F := F)
  rw [bestArm, scored_armsOf h hprior]
  change ∃ selected ∈ remaining, Except.ok (Option.map _ _) = _ ∧ _
  cases hbest : Selection.firstBest PyFloat.lt ArmFloat.overNegInf Prod.snd
    ((remaining.insertionSort (· ≤ ·)).map fun c ↦
      ((⟨c, BanditFloat.literal 1, prior c⟩ : CandidateArm F), prior c)) with
  | none =>
    rw [Selection.firstBest_eq_none_iff] at hbest
    obtain ⟨c, hc⟩ := List.exists_mem_of_ne_nil _ hne
    have hcount := hbest _ (List.mem_map_of_mem ((List.mem_insertionSort (· ≤ ·)).mpr hc))
    exact Bool.noConfusion (hcount.symm.trans (ExactWholes.overNegInf _ (hprior c)))
  | some best =>
    obtain ⟨before, after, hsplit, hkept⟩ :=
      Selection.exists_kept order ArmFloat.counts hbest
    obtain ⟨front, back, hsorted, rfl, hback⟩ := List.map_eq_append_iff.mp hsplit
    obtain ⟨selected, rest, rfl, rfl, rfl⟩ := List.map_eq_cons_iff.mp hback
    have hmem : ∀ c, c ∈ remaining ↔ c ∈ front ++ selected :: rest := fun c ↦ by
      rw [← hsorted, List.mem_insertionSort]
    refine ⟨selected, (hmem selected).mpr (by simp), rfl, fun c hc ↦ ?_⟩
    rcases List.mem_append.mp ((hmem c).mp hc) with hc | hc
    · have hnumber := (order.number_of_lt (hprior c)).2
      exact .inl (hkept.before _ (List.mem_map_of_mem hc) hnumber)
    · rcases List.mem_cons.mp hc with rfl | hc
      · exact .inr ⟨order.irrefl _, le_rfl⟩
      · -- a candidate that comes later in the scan comes later by name
        have hnames : (front ++ selected :: rest).Pairwise (· ≤ ·) :=
          hsorted ▸ List.pairwise_insertionSort (· ≤ ·) remaining
        have hle := (List.pairwise_cons.mp (List.pairwise_append.mp hnames).2.1).1 c hc
        exact .inr ⟨hkept.after _ (List.mem_map_of_mem hc), hle⟩

theorem selectArm_of_exhausted {remaining : List String} (h : s.Fresh 0 remaining) :
    ∃ s', s.selectArm (armsOf prior remaining) = (.ok none, s') := by
  obtain ⟨shedLog', hadmitted⟩ := admitted_armsOf h (Nat.zero_le _) s.shedLog
  rw [selectArm, h.executionBudget, Option.bind_none]
  dsimp only
  rw [hadmitted, if_pos rfl]
  exact ⟨_, rfl⟩

theorem selectArm_of_fresh {remaining : List String} (h : s.Fresh budget remaining)
    (hbudget : budget ≤ 2 ^ 53) (hpositive : budget ≠ 0)
    (hprior : ∀ c, PyFloat.lt PyFloat.zero (prior c) = true) (hne : remaining ≠ []) :
    ∃ selected ∈ remaining, ∃ shedLog', s.selectArm (armsOf prior remaining)
        = (.ok (some selected), { s with shedLog := shedLog' }) ∧
      ∀ c ∈ remaining, Before prior selected c := by
  obtain ⟨shedLog', hadmitted⟩ := admitted_armsOf h hbudget s.shedLog
  obtain ⟨selected, hmem, hbest, hbefore⟩ := exists_bestArm h hprior hne
  refine ⟨selected, hmem, shedLog', ?_, hbefore⟩
  obtain ⟨c, remaining, rfl⟩ := List.exists_cons_of_ne_nil hne
  rw [selectArm, h.executionBudget, Option.bind_none]
  dsimp only
  rw [hadmitted, if_neg hpositive, armsOf, List.map_cons]
  dsimp only
  rw [armsOf, List.map_cons] at hbest
  rw [hbest]

theorem Fresh.update {remaining : List String} (h : s.Fresh (budget + 1) remaining)
    (hbudget : budget + 1 ≤ 2 ^ 53) (hnd : remaining.Nodup) (selected : String)
    (shedLog : List String) : ({ s with shedLog } : ArmScheduler F).update selected PyFloat.zero
      (BanditFloat.literal 1) |>.Fresh budget (remaining.erase selected) := by
  have hsub := ExactWholes.sub_literal (F := F) (budget + 1) 1 (Nat.le_add_left 1 _) hbudget
  rw [Nat.cast_one, Nat.add_sub_cancel] at hsub
  refine ⟨h.explorationConstant, h.executionBudget, ?_, h.rollbackReserve, fun c hc ↦ ?_,
    fun c hc ↦ ?_⟩
  · change PyFloat.sub s.remainingBudget (orZero _) = _
    rw [h.remainingBudget, orZero_eq zero_lt_one, hsub]
  · obtain ⟨hne, hmem⟩ := hnd.mem_erase_iff.mp hc
    exact (if_neg hne).trans (h.pulls c hmem)
  · obtain ⟨hne, hmem⟩ := hnd.mem_erase_iff.mp hc
    exact (if_neg fun hand ↦ hne hand.1).trans (h.costHistory c hmem)

theorem orderFrom_eq (hprior : ∀ c, PyFloat.lt PyFloat.zero (prior c) = true) {rounds : ℕ}
    {remaining : List String} (hrounds : remaining.length = rounds) (hnd : remaining.Nodup)
    (hbudget : budget ≤ 2 ^ 53) (h : s.Fresh budget remaining) :
    orderFrom prior rounds s remaining
      = .ok ((remaining.insertionSort (Before prior)).take budget) := by
  have hnumber := fun c ↦ ((OrderedPyFloat.isNanOrder (F := F)).number_of_lt (hprior c)).2
  have : Std.Total (Before prior) := total_before
  have : Std.Antisymm (Before prior) := antisymm_before
  have : IsTrans String (Before prior) := trans_before hnumber
  induction rounds generalizing s remaining budget with
  | zero =>
    obtain rfl := List.length_eq_zero_iff.mp hrounds
    rw [orderFrom, List.insertionSort_nil, List.take_nil]
  | succ rounds ih =>
    have hne : remaining ≠ [] := by
      rintro rfl
      exact absurd hrounds (by simp)
    rw [orderFrom]
    cases budget with
    | zero =>
      obtain ⟨s', hselect⟩ : ∃ s', s.selectArm (armsOf prior remaining) = (.ok none, s') :=
        selectArm_of_exhausted h
      rw [armsOf] at hselect
      rw [hselect, List.take_zero]
    | succ budget =>
      obtain ⟨selected, hmem, shedLog', hselect, hbefore⟩ :=
        selectArm_of_fresh h hbudget (Nat.succ_ne_zero _) hprior hne
      rw [armsOf] at hselect
      rw [hselect]
      dsimp only
      have hlength : (remaining.erase selected).length = rounds := by
        rw [List.length_erase_of_mem hmem, hrounds, Nat.add_sub_cancel]
      rw [ih hlength (hnd.erase selected) (by omega) (h.update hbudget hnd selected shedLog'),
        Selection.insertionSort_eq_cons hmem hbefore, List.take_succ_cons]
      rfl

theorem fresh_new (hbudget : budget ≤ 2 ^ 53) (candidates : List String) :
    (new (BanditFloat.literal budget : F) PyFloat.zero none PyFloat.zero).Fresh budget candidates := by
  refine ⟨rfl, rfl, rfl, ?_, fun _ _ ↦ rfl, fun _ _ ↦ rfl⟩
  rw [← ExactWholes.zero_eq]
  exact ExactWholes.mul_zero budget hbudget

/-- **The order of the candidates** is that of their priors, and of equal priors that of the names,
as far as a budget of whole numbers goes. -/
theorem candidateOrder_eq (hprior : ∀ c, PyFloat.lt PyFloat.zero (prior c) = true)
    {candidates : List String} (hnd : candidates.Nodup) (hbudget : budget ≤ 2 ^ 53) :
    candidateOrder (BanditFloat.literal budget) prior candidates
      = .ok ((candidates.insertionSort (Before prior)).take budget) :=
  orderFrom_eq hprior rfl hnd hbudget (fresh_new hbudget candidates)

end Order

end ArmScheduler

/-! ## Exact arithmetic -/

/-- Exact arithmetic, with logarithms to base two that are rounded down. -/
instance : ArmFloat ℚ where
  div a b := a / b
  log n := Nat.log 2 n
  overNegInf _ := true
  counts := ⟨fun _ ↦ rfl, fun _ _ ↦ rfl, fun h ↦ absurd h (by simp)⟩

instance : ExactWholes ℚ where
  zero_eq := rfl
  sub_literal m n h _ := (Nat.cast_sub h).symm
  le_literal m n _ _ := decide_eq_decide.mpr Nat.cast_le
  literal_mono p q h := decide_eq_false (not_lt.mpr h)
  add_zero x _ := by
    change x + 0 = x
    ring
  div_one x _ := by
    change x / 1 = x
    ring
  mul_zero n _ := by
    change (n : ℚ) * 0 = 0
    ring
  zero_mul_sqrt_log n := zero_mul _
  overNegInf _ _ := rfl

namespace ArmScheduler

/-- Two arms, of which the second one is expected to return more, at a higher cost. -/
def twoArms : List (CandidateArm ℚ) := [⟨"b", 1, 1 / 2⟩, ⟨"a", 3, 9 / 10⟩]

/-- The cheaper one is selected. -/
theorem exists_worthMost_twoArms : ∃ score,
    (new 10 1 none (1 / 10) : ArmScheduler ℚ).WorthMost twoArms ⟨"b", 1, 1 / 2⟩ score := by
  have hselect : ((new 10 1 none (1 / 10) : ArmScheduler ℚ).selectArm twoArms).1 = .ok (some "b") := by
    decide +kernel
  obtain ⟨arm, score, hid, hworth⟩ := exists_worthMost (Prod.ext hselect rfl)
  have harm : arm = ⟨"b", 1, 1 / 2⟩ := by
    rcases List.mem_cons.mp hworth.mem with rfl | hmem
    · rfl
    · obtain rfl := List.mem_singleton.mp hmem
      exact absurd hid (by decide)
  exact ⟨score, harm ▸ hworth⟩

def threePriors (c : String) : ℚ := if c = "c" then 9 / 10 else 1 / 10

/-- Three candidates and a budget for two. -/
theorem candidateOrder_three :
    candidateOrder (BanditFloat.literal (2 : ℕ) : ℚ) threePriors ["b", "a", "c"] = .ok ["c", "a"] := by
  have hprior : ∀ c, PyFloat.lt PyFloat.zero (threePriors c) = true := by
    intro c
    rw [threePriors]
    split_ifs <;> decide +kernel
  exact (candidateOrder_eq hprior (by decide) (by norm_num)).trans (by decide +kernel)

section Reserve

variable {s : ArmScheduler ℚ} {round : Round ℚ} {excess : ℚ}

theorem rollbackReserve_serve : (s.serve round).rollbackReserve = s.rollbackReserve := by
  rw [serve]
  split
  · rename_i armId s' h
    have hreserve : (s.selectArm round.arms).2.rollbackReserve = s.rollbackReserve := selectArm_snd.2
    rw [h] at hreserve
    exact hreserve
  · rename_i s' _ h
    have hreserve : (s.selectArm round.arms).2.rollbackReserve = s.rollbackReserve := selectArm_snd.2
    rw [h] at hreserve
    exact hreserve

/-- What is predicted of an arm that is admitted fits into the budget without the reserve. -/
theorem exists_statistics_of_admitted {arm : CandidateArm ℚ}
    (h : s.violatesAdmissionRule arm = .ok false) :
    ∃ statistics, s.getCostStatistics arm = .ok statistics ∧
      statistics.1 + statistics.2 ≤ s.remainingBudget - s.rollbackReserve := by
  simp only [ResourceAdmittedBCRBController.violatesAdmissionRule, Transaction.bind_eq_ok_iff,
    Transaction.pure_eq_ok_iff, Bool.not_eq_false'] at h
  obtain ⟨statistics, hstatistics, hle⟩ := h
  exact ⟨statistics, hstatistics, of_decide_eq_true hle⟩

/-- **One round** leaves the reserve, but for the excess of its charge. -/
theorem le_remainingBudget_serve (h : WithinPrediction excess s round)
    (hs : s.rollbackReserve - excess ≤ s.remainingBudget) :
    s.rollbackReserve - excess ≤ (s.serve round).remainingBudget := by
  rw [serve]
  split
  · rename_i armId s' hselect
    obtain ⟨xs, -, hxs, hbest, -⟩ := exists_of_selectArm hselect
    obtain ⟨arm, harm, hid⟩ := exists_mem_of_bestArm hbest
    obtain ⟨hmem, hadmitted⟩ := (hxs arm).mp harm
    obtain ⟨statistics, hstatistics, hfits⟩ := exists_statistics_of_admitted hadmitted
    have hcost : round.cost ≤ statistics.1 + statistics.2 + excess :=
      of_decide_eq_true (h armId s' hselect arm hmem hid statistics hstatistics)
    have hremaining : (s.selectArm round.arms).2.remainingBudget = s.remainingBudget := selectArm_snd.1
    rw [hselect] at hremaining
    change s.rollbackReserve - excess ≤ s'.remainingBudget - round.cost
    rw [hremaining]
    linarith
  · rename_i s' _ hselect
    have hremaining : (s.selectArm round.arms).2.remainingBudget = s.remainingBudget := selectArm_snd.1
    rw [hselect] at hremaining
    exact hs.trans_eq hremaining.symm

/-- **The reserve.** In every run of selections and charges, of which none exceeds its prediction by
more than some amount, the budget that is left is below the reserve by no more than that amount. -/
theorem le_remainingBudget_of_serveAll {rounds : List (Round ℚ)} (hexcess : 0 ≤ excess)
    (hstart : s.rollbackReserve ≤ s.remainingBudget)
    (h : ∀ pre round post, rounds = pre ++ round :: post →
      WithinPrediction excess (s.serveAll pre) round) :
    s.rollbackReserve - excess ≤ (s.serveAll rounds).remainingBudget := by
  suffices hboth : (s.serveAll rounds).rollbackReserve = s.rollbackReserve ∧
      s.rollbackReserve - excess ≤ (s.serveAll rounds).remainingBudget from hboth.2
  induction rounds using List.reverseRecOn with
  | nil => exact ⟨rfl, by change s.rollbackReserve - excess ≤ s.remainingBudget; linarith⟩
  | append_singleton rounds round ih =>
    obtain ⟨hreserve, hle⟩ := ih fun pre a post hpre ↦
      h pre a (post ++ [round]) (by rw [hpre, List.append_assoc, List.cons_append])
    have hlast := h rounds round [] rfl
    rw [serveAll, List.foldl_append, List.foldl_cons, List.foldl_nil, ← serveAll,
      rollbackReserve_serve, hreserve]
    exact ⟨rfl, hreserve ▸ le_remainingBudget_serve hlast (hreserve ▸ hle)⟩

/-- A round in which the selected arm costs a fifth more than it says. -/
def overrun : Round ℚ := ⟨twoArms, 1, 6 / 5⟩

def threeDollars : ArmScheduler ℚ := new 3 1 none (2 / 3)

theorem withinPrediction_overrun : WithinPrediction (1 / 5) threeDollars overrun := by
  intro armId s' hselect arm harm hid statistics hstatistics
  have hfirst : (threeDollars.selectArm twoArms).1 = .ok (some "b") := by decide +kernel
  obtain rfl := Option.some.inj (Except.ok.inj ((congrArg Prod.fst hselect).symm.trans hfirst))
  obtain rfl : arm = ⟨"b", 1, 1 / 2⟩ := by
    rcases List.mem_cons.mp harm with rfl | hmem
    · rfl
    · obtain rfl := List.mem_singleton.mp hmem
      exact absurd hid (by decide)
  have hknown : threeDollars.getCostStatistics ⟨"b", 1, 1 / 2⟩ = .ok (1, 0) := by decide +kernel
  obtain rfl := Except.ok.inj (hstatistics.symm.trans hknown)
  decide +kernel

/-- Of three dollars, two were to be kept, and a little less is left. -/
theorem le_remainingBudget_overrun :
    (2 : ℚ) - 1 / 5 ≤ (threeDollars.serveAll [overrun]).remainingBudget := by
  have hreserve : threeDollars.rollbackReserve = 2 := by decide +kernel
  rw [← hreserve]
  refine le_remainingBudget_of_serveAll (by norm_num) (by decide +kernel)
    fun pre round post hsplit ↦ ?_
  obtain ⟨rfl, rfl⟩ : pre = [] ∧ round = overrun := by
    rcases pre with _ | ⟨a, pre⟩
    · exact ⟨rfl, (List.cons.inj hsplit).1.symm⟩
    · exact absurd (List.cons.inj hsplit).2 (by simp)
  exact withinPrediction_overrun

end Reserve

end ArmScheduler

end DriftGuardX.Replay
