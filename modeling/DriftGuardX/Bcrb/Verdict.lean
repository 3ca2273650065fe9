import DriftGuardX.Bcrb.TestOrder

/-!
# The verdict of a session

The loop of a session, with the condition that ends it. A turn either tests a candidate that was not
tested before, or ends the session, so there is a condition after one turn more than there are
candidates, unless a canary raises. What the condition says is true of the session: confidence comes
from the posterior of a candidate whose canary has measured something, and all candidates have been
tested when it says so (`verdict_justified`).
-/

namespace DriftGuardX.Bcrb

open Isolation (Uuid)

inductive StoppingCondition where
  | confidenceReached
  | reliabilityRecovered
  | budgetExhausted
  | allSafeCandidatesTested
  | expectedUtilityBelowThreshold
  | noSafeIntervention
  | insufficientEvidence
  deriving DecidableEq, Repr

variable {R : Type} [LinearOrder R] [Add R] [Sub R] [Mul R] [Div R] (lib : FloatLibrary R)

/-! ## The loop -/

namespace BCRBSession

/-- `evaluate_stopping_conditions` -/
def evaluateStoppingConditions (s : BCRBSession R) : Option StoppingCondition :=
  if s.budgetUsd ≤ s.totalSpentUsd then some .budgetExhausted
  else if s.candidates = [] then some .allSafeCandidatesTested
  else if ∀ c ∈ s.candidates, c.estimatedUtility < lib.literal (1 / 10) then
    some .expectedUtilityBelowThreshold
  else none

omit [Add R] [Sub R] [Mul R] [Div R] in
/-- The candidates that have not been tested, in the order in which they are tried. -/
def untested (s : BCRBSession R) : List (BCRBCandidate R) :=
  byUtility (s.candidates.filter fun c ↦ !s.testedCandidateIds.contains c.candidateId)

/-- The candidate that a turn tests, or the condition that ends the session. -/
def choose (s : BCRBSession R) : Except StoppingCondition (BCRBCandidate R) :=
  match s.evaluateStoppingConditions lib with
  | some condition => .error condition
  | none =>
    if s.untested = [] then .error .allSafeCandidatesTested
    else
      match s.untested.find? fun c ↦ s.affordable c with
      | none => .error .budgetExhausted
      | some c => .ok c

end BCRBSession

/-- A session with the condition that has ended it, if any has. -/
structure Board (R : Type) where
  session : BCRBSession R
  stoppingConditionMet : Option StoppingCondition
  deriving DecidableEq, Repr

namespace Board

variable {lib} in
def start (budgetUsd : R) (plan : Plan lib) : Board R := ⟨BCRBSession.start budgetUsd plan, none⟩

/-- One turn of the loop, unless a canary raises. -/
def turn (canary : BCRBCandidate R → CanaryOutcome R) (b : Board R) : Option (Board R) :=
  match b.session.choose lib with
  | .error condition => some { b with stoppingConditionMet := some condition }
  | .ok c => do
    let step ← (canary c).step lib c.candidateId
    let s := b.session.record lib c step
    return ⟨s,
      if step.recoveryEffect.isSome ∧ BCRBSession.clean step.decisionReason ∧ s.confident lib then
        some .confidenceReached
      else none⟩

/-- So many turns, or fewer when the session ends. -/
def run (canary : BCRBCandidate R → CanaryOutcome R) : ℕ → Board R → Option (Board R)
  | 0, b => some b
  | n + 1, b =>
    if b.stoppingConditionMet.isSome then some b
    else do
      let b ← b.turn lib canary
      run canary n b

end Board

/-- The points of a session: the start, and what each turn leaves. -/
inductive Reached (budgetUsd : R) (plan : Plan lib) (canary : BCRBCandidate R → CanaryOutcome R) :
    Board R → Prop
  | start : Reached budgetUsd plan canary (Board.start budgetUsd plan)
  | turn {b b'} (h : Reached budgetUsd plan canary b) (hgoes : b.stoppingConditionMet = none)
      (hturn : b.turn lib canary = some b') : Reached budgetUsd plan canary b'

/-! ## What a turn does -/

variable {lib} {s : BCRBSession R} {c d : BCRBCandidate R} {step : BCRBStep R}
  {canary : BCRBCandidate R → CanaryOutcome R} {b b' : Board R} {condition : StoppingCondition}

namespace BCRBSession

theorem evaluateStoppingConditions_eq_none_iff :
    s.evaluateStoppingConditions lib = none ↔ s.stopped lib = false := by
  simp only [evaluateStoppingConditions, stopped, decide_eq_false_iff_not, not_or]
  split_ifs with hspent hnil hlow
  · simp [hspent]
  · simp [hnil]
  · exact iff_of_false (by simp) fun h ↦ h.2.2 hlow
  · exact iff_of_true rfl ⟨hspent, hnil, hlow⟩

theorem choose_eq_ok_iff : s.choose lib = .ok c ↔ s.next lib = some c := by
  rw [choose, next]
  cases heval : s.evaluateStoppingConditions lib with
  | some condition =>
    have hstopped : s.stopped lib = true := by
      by_contra hno
      rw [Bool.not_eq_true, ← evaluateStoppingConditions_eq_none_iff, heval] at hno
      contradiction
    simp [hstopped]
  | none =>
    rw [evaluateStoppingConditions_eq_none_iff.mp heval, if_neg Bool.false_ne_true, ← untested]
    by_cases hnil : s.untested = []
    · simp [hnil]
    · simp only [hnil, if_false]
      cases s.untested.find? fun c ↦ s.affordable c with
      | none => simp
      | some d => simp

/-- The conditions that end a session before a test: not confidence, and that all has been tested only
when nothing is left. -/
theorem choose_error_cases (h : s.choose lib = .error condition) :
    condition = .budgetExhausted ∨ condition = .expectedUtilityBelowThreshold ∨
      condition = .allSafeCandidatesTested ∧ s.untested = [] := by
  rw [choose] at h
  cases heval : s.evaluateStoppingConditions lib with
  | some condition =>
    rw [heval] at h
    obtain rfl := Except.error.inj h
    rw [evaluateStoppingConditions] at heval
    split at heval
    · exact Or.inl (Option.some.inj heval).symm
    · split at heval
      · rename_i hnil
        refine Or.inr (Or.inr ⟨(Option.some.inj heval).symm, ?_⟩)
        rw [untested, hnil]
        rfl
      · split at heval
        · exact Or.inr (Or.inl (Option.some.inj heval).symm)
        · contradiction
  | none =>
    rw [heval] at h
    by_cases hnil : s.untested = []
    · simp only [hnil, if_true] at h
      exact Or.inr (Or.inr ⟨(Except.error.inj h).symm, hnil⟩)
    · simp only [hnil, if_false] at h
      cases hfind : s.untested.find? fun c ↦ s.affordable c with
      | none =>
        rw [hfind] at h
        exact Or.inl (Except.error.inj h).symm
      | some d =>
        rw [hfind] at h
        contradiction

omit [Add R] [Sub R] [Mul R] [Div R] in
theorem mem_untested_iff :
    c ∈ s.untested ↔ c ∈ s.candidates ∧ c.candidateId ∉ s.testedCandidateIds := by
  rw [untested, byUtility, List.mem_insertionSort, List.mem_filter]
  simp

end BCRBSession

namespace Board

/-- A turn ends the session with the condition that is met, or tests a candidate. -/
theorem turn_cases (h : b.turn lib canary = some b') :
    (∃ condition, b.session.choose lib = .error condition ∧ b' = ⟨b.session, some condition⟩) ∨
    ∃ c step, b.session.choose lib = .ok c ∧ (canary c).step lib c.candidateId = some step ∧
      b'.session = b.session.record lib c step ∧
      (b'.stoppingConditionMet = none ∨
        b'.stoppingConditionMet = some .confidenceReached ∧ b'.session.confident lib = true) := by
  rw [turn] at h
  split at h
  · rename_i condition hchoose
    exact Or.inl ⟨condition, hchoose, (Option.some.inj h).symm⟩
  · rename_i c hchoose
    obtain ⟨step, hstep, h⟩ := Option.bind_eq_some_iff.mp h
    obtain rfl := Option.some.inj h
    refine Or.inr ⟨c, step, hchoose, hstep, rfl, ?_⟩
    dsimp only
    split_ifs with hconfident
    · exact Or.inr ⟨rfl, hconfident.2.2⟩
    · exact Or.inl rfl

theorem raised_of_turn (h : b.turn lib canary = none) : ∃ c, canary c = .raised := by
  rw [turn] at h
  split at h
  · contradiction
  · rename_i c hchoose
    rcases Option.bind_eq_none_iff.mp h with hnone
    refine ⟨c, ?_⟩
    cases hcanary : canary c with
    | raised => rfl
    | _ => simp [hcanary, CanaryOutcome.step] at hnone

end Board

/-! ## Whole sessions -/

variable {budgetUsd : R} {plan : Plan lib}

/-- **The session rule.** What every test keeps holds at every point. -/
theorem reached_induction {I : BCRBSession R → Prop} (hstart : I (BCRBSession.start budgetUsd plan))
    (htest : ∀ s c step, I s → s.next lib = some c →
      (canary c).step lib c.candidateId = some step → I (s.record lib c step))
    (h : Reached lib budgetUsd plan canary b) : I b.session := by
  induction h with
  | start => exact hstart
  | @turn b b' _ hgoes hturn ih =>
    rcases Board.turn_cases hturn with ⟨condition, -, rfl⟩ | ⟨c, step, hchoose, hstep, heq, -⟩
    · exact ih
    · rw [heq]
      exact htest _ _ _ ih (BCRBSession.choose_eq_ok_iff.mp hchoose) hstep

theorem Reached.sound (h : Reached lib budgetUsd plan canary b) :
    Sound lib plan.utilityOf b.session :=
  reached_induction (plan.sound_start budgetUsd)
    (fun _ _ _ hs hnext hstep ↦ BCRBSession.sound_record hs hnext (CanaryOutcome.stepSpec hstep)) h

/-- A posterior is the update of the prior by what a clean step has measured. -/
def Evident (lib : FloatLibrary R) (s : BCRBSession R) : Prop :=
  ∀ c ∈ s.candidates, ∀ p, c.posterior = some p →
    ∃ step ∈ s.steps, step.candidateId = c.candidateId ∧
      BCRBSession.clean step.decisionReason = true ∧
      ∃ reliabilityDelta, step.recoveryEffect = some reliabilityDelta ∧
        p = updatePosterior lib c.prior (lib.calculateCalibratedLikelihoods reliabilityDelta).1
          (lib.calculateCalibratedLikelihoods reliabilityDelta).2

namespace BCRBSession

variable (lib d) in
theorem believe_spec (tested : List Uuid) (id : Uuid) (reliabilityDelta : R) :
    (believe lib tested id reliabilityDelta d).candidateId = d.candidateId ∧
    (believe lib tested id reliabilityDelta d).prior = d.prior ∧
    (believe lib tested id reliabilityDelta d).posterior =
      if d.candidateId = id then
        some (updatePosterior lib d.prior (lib.calculateCalibratedLikelihoods reliabilityDelta).1
          (lib.calculateCalibratedLikelihoods reliabilityDelta).2)
      else d.posterior := by
  simp only [believe]
  split_ifs <;> exact ⟨rfl, rfl, rfl⟩

theorem evident_record (h : Evident lib s) (hspec : CanaryOutcome.StepSpec c.candidateId step) :
    Evident lib (s.record lib c step) := by
  cases heffect : step.recoveryEffect with
  | none =>
    rw [record_of_unmeasured hspec heffect]
    intro d hd p hp
    obtain ⟨old, hold, htells⟩ := h d hd p hp
    exact ⟨old, List.mem_append_left _ hold, htells⟩
  | some reliabilityDelta =>
    have hclean : clean step.decisionReason = true := by
      rcases hspec.effect with ⟨hnone, -⟩ | ⟨-, hclean⟩
      · rw [heffect] at hnone
        contradiction
      · exact hclean
    rw [record_of_measured hspec heffect]
    intro d' hd' p hp
    obtain ⟨d, hd, rfl⟩ := List.mem_map.mp hd'
    obtain ⟨hid, hprior, hposterior⟩ := believe_spec lib d
      (s.testedCandidateIds ++ [c.candidateId]) c.candidateId reliabilityDelta
    rw [hposterior] at hp
    rw [hid, hprior]
    split at hp
    · rename_i hsame
      refine ⟨_, List.mem_append_right _ (List.mem_singleton_self _), ?_, hclean, reliabilityDelta,
        heffect, (Option.some.inj hp).symm⟩
      exact hspec.candidateId.trans hsame.symm
    · obtain ⟨old, hold, htells⟩ := h d hd p hp
      exact ⟨old, List.mem_append_left _ hold, htells⟩

theorem budgetUsd_record (hspec : CanaryOutcome.StepSpec c.candidateId step) :
    (s.record lib c step).budgetUsd = s.budgetUsd := by
  cases heffect : step.recoveryEffect with
  | none => rw [record_of_unmeasured hspec heffect]
  | some reliabilityDelta => rw [record_of_measured hspec heffect]

end BCRBSession

theorem Reached.evident (h : Reached lib budgetUsd plan canary b) : Evident lib b.session := by
  refine reached_induction (fun c hc p hp ↦ ?_)
    (fun _ _ _ hs _ hstep ↦ BCRBSession.evident_record hs (CanaryOutcome.stepSpec hstep)) h
  obtain ⟨proposal, -, rfl⟩ := plan.mem_candidates.mp hc
  exact absurd hp (by simp [Proposal.candidate])

theorem Plan.length_candidates : plan.candidates.length = plan.proposals.length := by
  rw [Plan.candidates, byUtility, List.length_insertionSort, List.length_map]

theorem Reached.budgetUsd_eq (h : Reached lib budgetUsd plan canary b) :
    b.session.budgetUsd = budgetUsd ∧ b.session.candidates.length = plan.proposals.length :=
  reached_induction
    (I := fun s ↦ s.budgetUsd = budgetUsd ∧ s.candidates.length = plan.proposals.length)
    ⟨rfl, Plan.length_candidates⟩
    (fun _ _ _ hs _ hstep ↦
      have hspec := CanaryOutcome.stepSpec hstep
      ⟨(BCRBSession.budgetUsd_record hspec).trans hs.1,
        (BCRBSession.length_of_record _ _ hspec).1.trans hs.2⟩) h

theorem Reached.condition_cases (h : Reached lib budgetUsd plan canary b)
    (hmet : b.stoppingConditionMet = some condition) :
    condition = .confidenceReached ∧ b.session.confident lib = true ∨
      b.session.choose lib = .error condition := by
  cases h with
  | start => contradiction
  | turn _ hgoes hturn =>
    rcases Board.turn_cases hturn with ⟨condition', hchoose, rfl⟩ | ⟨c, step, -, -, -, hmet'⟩
    · obtain rfl := Option.some.inj hmet
      exact Or.inr hchoose
    · rcases hmet' with hnone | ⟨hsome, hconfident⟩
      · rw [hnone] at hmet
        contradiction
      · rw [hsome] at hmet
        exact Or.inl ⟨(Option.some.inj hmet).symm, hconfident⟩

/-- What holds of a session at any point, with the condition that has ended it. -/
structure Justified (lib : FloatLibrary R) (budgetUsd : R) (plan : Plan lib) (b : Board R) :
    Prop where
  once : (b.session.steps.map BCRBStep.candidateId).Nodup
  atMost : b.session.steps.length ≤ plan.proposals.length
  affordable : b.stoppingConditionMet = none → ∀ c, b.session.choose lib = .ok c →
    c.totalCost + b.session.totalSpentUsd ≤ budgetUsd
  unexecuted : ∀ c ∈ b.session.candidates,
    c.candidateId ∉ b.session.steps.map BCRBStep.candidateId → c.posterior = none
  confidence : b.stoppingConditionMet = some .confidenceReached →
    ∃ c ∈ b.session.candidates, ∃ step ∈ b.session.steps, step.candidateId = c.candidateId ∧
      BCRBSession.clean step.decisionReason = true ∧
      ∃ reliabilityDelta, step.recoveryEffect = some reliabilityDelta ∧
        let posterior := updatePosterior lib c.prior
          (lib.calculateCalibratedLikelihoods reliabilityDelta).1
          (lib.calculateCalibratedLikelihoods reliabilityDelta).2
        c.posterior = some posterior ∧ lib.literal (9 / 10) ≤ posterior
  allTested : b.stoppingConditionMet = some .allSafeCandidatesTested →
    ∀ c ∈ b.session.candidates, c.candidateId ∈ b.session.steps.map BCRBStep.candidateId

theorem Reached.justified (h : Reached lib budgetUsd plan canary b) :
    Justified lib budgetUsd plan b where
  once := h.sound.tested ▸ h.sound.distinct
  atMost := by
    have hle := BCRBSession.length_tested_le h.sound
    rwa [h.sound.tested, List.length_map, h.budgetUsd_eq.2] at hle
  affordable _ c hchoose := by
    have hnext := BCRBSession.exists_of_next (BCRBSession.choose_eq_ok_iff.mp hchoose)
    have haffordable := of_decide_eq_true hnext.2.2.1
    rwa [h.budgetUsd_eq.1, not_lt] at haffordable
  unexecuted c hc hnew := h.sound.untested c hc (h.sound.tested ▸ hnew)
  confidence hmet := by
    rcases h.condition_cases hmet with ⟨-, hconfident⟩ | hchoose
    · obtain ⟨c, hc, hany⟩ := List.any_eq_true.mp hconfident
      obtain ⟨p, hp, hhigh⟩ := (Option.any_eq_true _ _).mp hany
      obtain ⟨step, hstep, hid, hclean, reliabilityDelta, heffect, rfl⟩ := h.evident c hc p hp
      exact ⟨c, hc, step, hstep, hid, hclean, reliabilityDelta, heffect, hp, of_decide_eq_true hhigh⟩
    · rcases BCRBSession.choose_error_cases hchoose with hne | hne | ⟨hne, -⟩ <;> contradiction
  allTested hmet c hc := by
    rcases h.condition_cases hmet with ⟨hne, -⟩ | hchoose
    · contradiction
    · rcases BCRBSession.choose_error_cases hchoose with hne | hne | ⟨-, hnil⟩
      · contradiction
      · contradiction
      · rw [← h.sound.tested]
        by_contra hnew
        have hmem := BCRBSession.mem_untested_iff.mpr ⟨hc, hnew⟩
        rw [hnil] at hmem
        exact List.not_mem_nil hmem

/-! ## The end -/

namespace Board

theorem reached_of_run {n : ℕ} (h : Reached lib budgetUsd plan canary b)
    (hrun : b.run lib canary n = some b') : Reached lib budgetUsd plan canary b' := by
  induction n generalizing b with
  | zero => exact Option.some.inj hrun ▸ h
  | succ n ih =>
    rw [run] at hrun
    split at hrun
    · exact Option.some.inj hrun ▸ h
    · rename_i hgoes
      obtain ⟨next, hturn, hrun⟩ := Option.bind_eq_some_iff.mp hrun
      exact ih (.turn h (Option.not_isSome_iff_eq_none.mp hgoes) hturn) hrun

theorem run_of_isSome (h : b.stoppingConditionMet.isSome = true) (n : ℕ) :
    b.run lib canary n = some b := by
  cases n with
  | zero => rfl
  | succ n => rw [run, if_pos h]

theorem isSome_of_run {n : ℕ} (h : Reached lib budgetUsd plan canary b)
    (hn : b.session.candidates.length < b.session.testedCandidateIds.length + n)
    (hrun : b.run lib canary n = some b') : b'.stoppingConditionMet.isSome := by
  induction n generalizing b with
  | zero => exact absurd (BCRBSession.length_tested_le h.sound) (by omega)
  | succ n ih =>
    rw [run] at hrun
    split at hrun
    · rename_i hmet
      exact Option.some.inj hrun ▸ hmet
    · rename_i hgoes
      obtain ⟨next, hturn, hrun⟩ := Option.bind_eq_some_iff.mp hrun
      have hnext : Reached lib budgetUsd plan canary next :=
        .turn h (Option.not_isSome_iff_eq_none.mp hgoes) hturn
      rcases turn_cases hturn with ⟨condition, -, rfl⟩ | ⟨c, step, -, hstep, heq, -⟩
      · rw [run_of_isSome rfl] at hrun
        exact Option.some.inj hrun ▸ rfl
      · have hlengths := BCRBSession.length_of_record lib b.session
          (CanaryOutcome.stepSpec hstep)
        refine ih hnext ?_ hrun
        rw [heq]
        omega

theorem raised_of_run {n : ℕ} (hrun : b.run lib canary n = none) : ∃ c, canary c = .raised := by
  induction n generalizing b with
  | zero => contradiction
  | succ n ih =>
    rw [run] at hrun
    split at hrun
    · contradiction
    · cases hturn : b.turn lib canary with
      | none => exact raised_of_turn hturn
      | some next =>
        rw [hturn] at hrun
        exact ih hrun

variable (lib canary) in
theorem map_session_run (n : ℕ) (s : BCRBSession R) :
    (Board.run lib canary n ⟨s, none⟩).map Board.session = s.loop lib canary n := by
  induction n generalizing s with
  | zero => rfl
  | succ n ih =>
    rw [run, if_neg (by simp), BCRBSession.loop]
    cases hchoose : s.choose lib with
    | error condition =>
      have hnext : s.next lib = none := by
        refine Option.eq_none_iff_forall_ne_some.mpr fun c hc ↦ ?_
        rw [← BCRBSession.choose_eq_ok_iff, hchoose] at hc
        contradiction
      have hturn : turn lib canary ⟨s, none⟩ = some ⟨s, some condition⟩ := by
        simp only [turn, hchoose]
      rw [hturn, hnext, Option.bind_eq_bind, Option.bind_some, run_of_isSome rfl]
      rfl
    | ok c =>
      rw [BCRBSession.choose_eq_ok_iff.mp hchoose]
      simp only [turn, hchoose]
      cases (canary c).step lib c.candidateId with
      | none => rfl
      | some step =>
        simp only [Option.bind_eq_bind, Option.bind_some, Option.pure_def]
        split_ifs
        · rw [run_of_isSome rfl]
          rfl
        · exact ih _

end Board

end DriftGuardX.Bcrb
