import DriftGuardX.Recovery.Engine
import DriftGuardX.Recovery.Execution

/-!
# When a recovery run settles

A run settles when it returns a record whose machine awaits approval or has come to an end. A
transition after the deadline leads to the compensating status, from which nothing but an end can be
reached in time. So a run settles exactly when its last transition is in time, the clock was not set
back behind the deadline before it, and the run takes none of the branches that raise: a dry run that
the executor does not accept, a proposal that already has a capsule, a certificate without a time
zone, a failed canary without compensation, and a partition that is not released (`run_settles_iff`).
-/

namespace DriftGuardX.Recovery

open Json Program RecoveryStatus

namespace RecoveryEngine

variable {V F W M : Type} [PyValue V F] {collab : Collaborators V W} {lib : Library F}
  {own : Option (CapsuleRegistry V)} {readings : Readings} {st : RunState V W M}
  {toStatus : RecoveryStatus} {reason : String}

/-- The machine awaits approval or has come to an end. -/
def RecoveryRecord.Settled (record : RecoveryRecord V M) : Prop :=
  record.machine.currentStatus = pendingApproval ∨ record.machine.isTerminal = true

/-- The clock shows a time after the deadline of the run. -/
def Late (readings : Readings) (i : ℕ) : Prop :=
  readings.clock 0 + RecoveryStateMachine.timeout < readings.clock i

/-- Between two readings, the clock was not set back behind the deadline. -/
def NotSetBack (readings : Readings) (i j : ℕ) : Prop := Late readings i → Late readings j

omit [PyValue V F] in
theorem not_late_zero : ¬ Late readings 0 := by
  rw [Late, RecoveryStateMachine.timeout]
  omega

/-! ## Transitions -/

/-- The machine keeps the deadline of its run. -/
def Dated (readings : Readings) (st : RunState V W M) : Prop :=
  st.record.machine.timeoutAt = readings.clock 0 + RecoveryStateMachine.timeout

/-- A status that was entered at a reading of the clock, unless that was late, and the next reading. -/
structure Entered (readings : Readings) (status : RecoveryStatus) (i n : ℕ)
    (st : RunState V W M) : Prop where
  tick : st.executor.tick = n
  dated : Dated readings st
  late : Late readings i → st.record.machine.currentStatus = compensating
  inTime : ¬ Late readings i → st.record.machine.currentStatus = status

/-- The state after a transition that does not raise. -/
def moved (readings : Readings) (st : RunState V W M) (toStatus : RecoveryStatus)
    (reason : String) : RunState V W M where
  executor := { st.executor with tick := st.executor.tick + 1 }
  record := { st.record with
    machine := if st.record.machine.timeoutAt < readings.clock st.executor.tick then
      st.record.machine.forceTimeout
    else st.record.machine.enter toStatus "system" reason }

omit [PyValue V F] in
theorem onExecutor_of_ok {α : Type} {x : Program (LocalDevExecutor V W) Raised α} {a : α}
    {ex : LocalDevExecutor V W} (h : x st.executor = (.ok a, ex)) :
    onExecutor x st = (.ok a, { st with executor := ex }) := by
  rw [onExecutor, zoom, h]

omit [PyValue V F] in
theorem onExecutor_of_error {α : Type} {x : Program (LocalDevExecutor V W) Raised α} {e : Raised}
    {ex : LocalDevExecutor V W} (h : x st.executor = (.error e, ex)) :
    onExecutor x st = (.error e, { st with executor := ex }) := by
  rw [onExecutor, zoom, h]

section Entered

omit [PyValue V F] in
theorem Entered.of_machine {status : RecoveryStatus} {i n n' : ℕ} {st' : RunState V W M}
    (h : Entered readings status i n st) (htick : st'.executor.tick = n')
    (hmachine : st'.record.machine = st.record.machine) : Entered readings status i n' st' :=
  ⟨htick, by rw [Dated, hmachine]; exact h.dated, fun hlate ↦ hmachine ▸ h.late hlate,
    fun hintime ↦ hmachine ▸ h.inTime hintime⟩

variable {status : RecoveryStatus} {i n : ℕ}

omit [PyValue V F] in
theorem Entered.currentStatus (h : Entered readings status i n st) :
    st.record.machine.currentStatus = compensating ∨
      st.record.machine.currentStatus = status := by
  by_cases hlate : Late readings i
  · exact Or.inl (h.late hlate)
  · exact Or.inr (h.inTime hlate)

omit [PyValue V F] in
theorem Entered.not_isTerminal (h : Entered readings status i n st) (hopen : status ∉ terminalStates) :
    st.record.machine.isTerminal = false := by
  rw [RecoveryStateMachine.isTerminal, decide_eq_false_iff_not]
  rcases h.currentStatus with heq | heq
  · rw [heq]
    decide
  · rwa [heq]

omit [PyValue V F] in
theorem Entered.moved (h : Entered readings status i n st) (hopen : status ∉ terminalStates)
    (toStatus : RecoveryStatus) (reason : String) :
    Entered readings toStatus n (n + 1) (moved readings st toStatus reason) := by
  have hdated : st.record.machine.timeoutAt = readings.clock 0 + RecoveryStateMachine.timeout :=
    h.dated
  have hforced : st.record.machine.forceTimeout = { st.record.machine.enter compensating "system"
      "Timeout exceeded; forcing compensation." with escalated := true } := by
    rw [RecoveryStateMachine.forceTimeout, h.not_isTerminal hopen, if_neg Bool.false_ne_true]
  rw [RecoveryEngine.moved, hdated, hforced, h.tick]
  by_cases hlate : readings.clock 0 + RecoveryStateMachine.timeout < readings.clock n
  · rw [if_pos hlate]
    exact ⟨rfl, hdated, fun _ ↦ rfl, fun hintime ↦ absurd hlate hintime⟩
  · rw [if_neg hlate]
    exact ⟨rfl, hdated, fun hlate' ↦ absurd hlate' hlate, fun _ ↦ rfl⟩

omit [PyValue V F] in
theorem transition_of_moves (h : Entered readings status i n st) (hopen : status ∉ terminalStates)
    (hmoves : Late readings n ∨
      toStatus ∈ allowedTransitions st.record.machine.currentStatus) :
    transition readings toStatus reason st = (.ok (), moved readings st toStatus reason) := by
  have hmove : st.record.machine.transition (readings.clock st.executor.tick) toStatus "system"
      reason = .ok (moved readings st toStatus reason).record.machine := by
    rw [RecoveryEngine.moved]
    rw [h.tick]
    by_cases hlate : st.record.machine.timeoutAt < readings.clock n
    · rw [if_pos hlate, RecoveryStateMachine.transition_of_late hlate (h.not_isTerminal hopen)]
    · have hallowed := hmoves.resolve_left fun hlate' ↦ hlate (h.dated ▸ hlate')
      rw [if_neg hlate, RecoveryStateMachine.transition_of_allowed (not_lt.mp hlate) hallowed]
  rw [transition, bind_of_ok (onExecutor_of_ok LocalDevExecutor.now_apply), bind_of_ok get_apply,
    ofExcept_bind_of_ok hmove]
  rfl

omit [PyValue V F] in
theorem transition_of_not_allowed (h : Entered readings status i n st)
    (hintime : ¬ Late readings n)
    (hnot : toStatus ∉ allowedTransitions st.record.machine.currentStatus) :
    ∃ e st', transition readings toStatus reason st = (.error e, st') := by
  have hmove : ∃ e, st.record.machine.transition (readings.clock st.executor.tick) toStatus "system"
      reason = .error e :=
    RecoveryStateMachine.transition_of_not_allowed (h.tick.symm ▸ h.dated ▸ not_lt.mp hintime) hnot
  obtain ⟨e, hmove⟩ := hmove
  rw [transition, bind_of_ok (onExecutor_of_ok LocalDevExecutor.now_apply), bind_of_ok get_apply,
    ofExcept_bind_of_error hmove]
  exact ⟨_, _, rfl⟩

end Entered

/-! ## Runs that settle -/

/-- The program returns, and its record is settled. -/
def Ends (x : Program (RunState V W M) Raised Unit) (st : RunState V W M) : Prop :=
  ∃ st', x st = (.ok (), st') ∧ RecoveryRecord.Settled st'.record

variable {α : Type} {x : Program (RunState V W M) Raised α}
  {f : α → Program (RunState V W M) Raised Unit}

omit [PyValue V F] in
theorem ends_bind_of_ok {a : α} {st' : RunState V W M} (h : x st = (.ok a, st')) :
    Ends (x >>= f) st ↔ Ends (f a) st' := by
  rw [Ends, Ends, bind_of_ok h]

omit [PyValue V F] in
theorem not_ends_bind_of_error {e : Raised} {st' : RunState V W M} (h : x st = (.error e, st')) :
    ¬ Ends (x >>= f) st := by
  rintro ⟨_, hrun, -⟩
  rw [bind_of_error h] at hrun
  exact absurd (Prod.mk.inj hrun).1 (by simp)

omit [PyValue V F] in
theorem ends_onRecord {f : Unit → Program (RunState V W M) Raised Unit}
    {g : RecoveryRecord V M → RecoveryRecord V M} :
    Ends (onRecord g >>= f) st ↔ Ends (f ()) { st with record := g st.record } :=
  ends_bind_of_ok rfl

section Rules

variable {status : RecoveryStatus} {i n : ℕ} {f : Unit → Program (RunState V W M) Raised Unit}

omit [PyValue V F] in
/-- The rule for a transition on the way, which is not allowed for a machine that compensates. -/
theorem ends_transition (h : Entered readings status i n st) (hopen : status ∉ terminalStates)
    (hallowed : toStatus ∈ allowedTransitions status)
    (hnew : toStatus ∉ allowedTransitions compensating) :
    Ends (transition readings toStatus reason >>= f) st ↔
      NotSetBack readings i n ∧ Ends (f ()) (moved readings st toStatus reason) := by
  by_cases hback : NotSetBack readings i n
  · rw [ends_bind_of_ok (transition_of_moves h hopen ?_), and_iff_right hback]
    by_cases hlate : Late readings i
    · exact Or.inl (hback hlate)
    · exact Or.inr (h.inTime hlate ▸ hallowed)
  · obtain ⟨hlate, hintime⟩ := Classical.not_imp.mp hback
    obtain ⟨e, st', herror⟩ := transition_of_not_allowed h hintime (h.late hlate ▸ hnew)
    exact iff_of_false (not_ends_bind_of_error herror) fun hends ↦ hback hends.1

omit [PyValue V F] in
/-- The rule for the last transition of a run, whatever is done afterwards with the record. -/
theorem ends_last (h : Entered readings status i n st) (hopen : status ∉ terminalStates)
    (hsettled : toStatus = pendingApproval ∨ toStatus ∈ terminalStates)
    (hrest : ∀ st : RunState V W M, Ends (f ()) st ↔ RecoveryRecord.Settled st.record) :
    Ends (transition readings toStatus reason >>= f) st ↔ ¬ Late readings n ∧
      toStatus ∈ allowedTransitions st.record.machine.currentStatus := by
  have hnext := h.moved hopen toStatus reason
  by_cases hlate : Late readings n
  · refine iff_of_false ?_ fun hends ↦ hends.1 hlate
    rw [ends_bind_of_ok (transition_of_moves h hopen (Or.inl hlate)), hrest,
      RecoveryRecord.Settled, RecoveryStateMachine.isTerminal, hnext.late hlate]
    decide
  rw [and_iff_right hlate]
  by_cases hallowed : toStatus ∈ allowedTransitions st.record.machine.currentStatus
  · refine iff_of_true ?_ hallowed
    rw [ends_bind_of_ok (transition_of_moves h hopen (Or.inr hallowed)), hrest,
      RecoveryRecord.Settled, RecoveryStateMachine.isTerminal, hnext.inTime hlate]
    exact hsettled.imp id decide_eq_true
  · obtain ⟨e, st', herror⟩ := transition_of_not_allowed h hlate hallowed
    exact iff_of_false (not_ends_bind_of_error herror) hallowed

omit [PyValue V F] in
/-- A last transition that is also allowed for a machine that compensates. -/
theorem ends_failed (h : Entered readings status i n st) (hopen : status ∉ terminalStates)
    (hsettled : toStatus ∈ terminalStates) (hallowed : toStatus ∈ allowedTransitions status)
    (hnew : toStatus ∈ allowedTransitions compensating)
    (hrest : ∀ st : RunState V W M, Ends (f ()) st ↔ RecoveryRecord.Settled st.record) :
    Ends (transition readings toStatus reason >>= f) st ↔ ¬ Late readings n := by
  rw [ends_last h hopen (Or.inr hsettled) hrest, and_iff_left]
  rcases h.currentStatus with heq | heq
  · rwa [heq]
  · rwa [heq]

omit [PyValue V F] in
/-- A last transition that is only allowed where the run went as planned. -/
theorem ends_planned (h : Entered readings status i n st) (hopen : status ∉ terminalStates)
    (hsettled : toStatus = pendingApproval ∨ toStatus ∈ terminalStates)
    (hallowed : toStatus ∈ allowedTransitions status)
    (hnew : toStatus ∉ allowedTransitions compensating) :
    Ends (transition readings toStatus reason) st ↔
      ¬ Late readings i ∧ ¬ Late readings n := by
  have hpure : Ends (transition readings toStatus reason) st ↔
      Ends (transition readings toStatus reason >>= fun _ ↦ pure ()) st := by
    rw [Ends, Ends]
    refine exists_congr fun st' ↦ and_congr_left fun _ ↦ ?_
    rw [bind_returns_iff]
    exact ⟨fun hrun ↦ ⟨_, _, hrun, rfl⟩, fun ⟨_, _, hrun, hpure⟩ ↦
      (pure_returns_iff.mp hpure).2 ▸ hrun⟩
  rw [hpure, ends_last h hopen hsettled fun _ ↦ ⟨fun ⟨_, hrun, hsettled⟩ ↦
    (pure_returns_iff.mp hrun).2 ▸ hsettled, fun hsettled ↦ ⟨_, rfl, hsettled⟩⟩, and_comm]
  refine and_congr_left fun _ ↦ ⟨fun hmem hlate ↦ hnew (h.late hlate ▸ hmem), fun hintime ↦ ?_⟩
  rwa [h.inTime hintime]

omit [PyValue V F] in
theorem ends_escalate (entry : String) (st : RunState V W M) :
    Ends (escalate entry) st ↔ RecoveryRecord.Settled st.record := by
  constructor
  · rintro ⟨st', hrun, hsettled⟩
    obtain ⟨-, rfl⟩ := Prod.mk.inj hrun
    exact hsettled
  · exact fun hsettled ↦ ⟨_, rfl, hsettled⟩

omit [PyValue V F] in
/-- The table has no way from verifying to failed, but a machine that was late compensates. -/
theorem ends_unverified {entry : String} (h : Entered readings verifying i n st) :
    Ends (transition readings failed reason >>= fun _ ↦ escalate entry) st ↔
      Late readings i ∧ ¬ Late readings n := by
  rw [ends_last h (by decide) (Or.inr (by decide)) (ends_escalate entry), and_comm]
  refine and_congr_left fun _ ↦ ⟨fun hallowed ↦ ?_, fun hlate ↦ ?_⟩
  · by_contra hintime
    rw [h.inTime hintime] at hallowed
    exact absurd hallowed (by decide)
  · rw [h.late hlate]
    decide

end Rules

/-! ## Compensation -/

section Compensation

omit [PyValue V F] in
theorem exists_persistEvidence (readings : Readings) (proposalId capsuleId : String)
    (sideEffects : Dict V) (st : RunState V W M) : ∃ ex,
      persistEvidence collab lib readings proposalId capsuleId sideEffects st
        = (.ok (), { st with executor := ex }) := by
  rcases exists_ok_or_error (do
      let time ← LocalDevExecutor.now readings
      LocalDevExecutor.outside (collab.appendEvidence proposalId capsuleId sideEffects
        (lib.isoformat time))) st.executor with ⟨_, ex, hrun⟩ | ⟨e, ex, hrun⟩
  · exact ⟨ex, attempt_of_ok (onExecutor_of_ok hrun)⟩
  · exact ⟨ex, attempt_of_error (onExecutor_of_error hrun)⟩

omit [PyValue V F] in
theorem ends_persistEvidence {proposalId capsuleId : String} {sideEffects : Dict V}
    (st : RunState V W M) :
    Ends (persistEvidence collab lib readings proposalId capsuleId sideEffects) st ↔
      RecoveryRecord.Settled st.record := by
  have hpersist : ∃ ex, persistEvidence collab lib readings proposalId capsuleId sideEffects st
      = (.ok (), { st with executor := ex }) :=
    exists_persistEvidence readings proposalId capsuleId sideEffects st
  obtain ⟨ex, hrun⟩ := hpersist
  rw [Ends, hrun]
  constructor
  · rintro ⟨st', heq, hsettled⟩
    obtain ⟨-, rfl⟩ := Prod.mk.inj heq
    exact hsettled
  · exact fun hsettled ↦ ⟨_, rfl, hsettled⟩

variable [FloatText F]

/-- The capsule that a compensation uses. -/
def capsuleOf (own : Option (CapsuleRegistry V)) (st : RunState V W M) :
    Option (RollbackCapsule V) :=
  st.record.capsule.or (forProposal own st.executor st.record.proposal.proposalId)

/-- A compensation that starts at a reading of the clock comes to its end in time: without a capsule
at the next reading, and with one at the one after it, when the capsule has expired by then or its
partition is released. -/
def Compensates (collab : Collaborators V W) (readings : Readings)
    (capsule : Option (RollbackCapsule V)) (w : W) (i : ℕ) : Prop :=
  match capsule with
  | none => ¬ Late readings (i + 1)
  | some c => (readings.clock (i + 1) ≤ c.expiresAt → LocalDevExecutor.Releases collab c w) ∧
      ¬ Late readings (i + 2)

/-- A compensation settles the run unless it is late or a partition is not released. -/
theorem ends_compensate_iff {status : RecoveryStatus} {i n : ℕ} (proposal : RecoveryProposal V)
    (h : Entered readings status i n st) (hopen : status ∉ terminalStates)
    (hallowed : compensating ∈ allowedTransitions status)
    (hfresh : ∀ c, capsuleOf own st = some c → LocalDevExecutor.Fresh readings lib proposal c) :
    Ends (compensate collab lib own readings reason) st ↔
      NotSetBack readings i n ∧
        Compensates collab readings (capsuleOf own st) st.executor.world n := by
  rw [compensate, ends_transition h hopen hallowed (by decide), ends_bind_of_ok get_apply]
  refine and_congr_right fun _ ↦ ?_
  have hmoved : Entered readings compensating n (n + 1) (moved readings st compensating reason) :=
    h.moved hopen compensating reason
  have hcapsule : (moved readings st compensating reason).record.capsule.or
      (forProposal own (moved readings st compensating reason).executor
        (moved readings st compensating reason).record.proposal.proposalId)
      = capsuleOf own st := rfl
  simp only [hcapsule]
  cases hc : capsuleOf own st with
  | none =>
    exact ends_failed hmoved (by decide) (by decide) (by decide) (by decide) (ends_escalate _)
  | some c =>
    have hiff : (∃ result ex', LocalDevExecutor.compensate collab readings lib c
        (moved readings st compensating reason).executor = (.ok result, ex')) ↔
        (readings.clock (n + 1) ≤ c.expiresAt →
          LocalDevExecutor.Releases collab c st.executor.world) :=
      hmoved.tick ▸ LocalDevExecutor.exists_compensate_iff (hfresh c hc)
    rw [Compensates, ← hiff]
    rcases exists_ok_or_error (LocalDevExecutor.compensate collab readings lib c)
      (moved readings st compensating reason).executor with
      ⟨result, ex', hrun⟩ | ⟨e, ex', herror⟩
    · rw [and_iff_right ⟨result, ex', hrun⟩, ends_bind_of_ok (onExecutor_of_ok hrun), ends_onRecord]
      have htick : ex'.tick = n + 2 :=
        (LocalDevExecutor.tick_of_compensate hrun).trans (congrArg (· + 1) hmoved.tick)
      split
      -- compensated: the evidence is persisted after the last transition
      · exact ends_failed (hmoved.of_machine htick rfl) (by decide) (by decide) (by decide)
          (by decide) ends_persistEvidence
      · exact ends_failed (hmoved.of_machine htick rfl) (by decide) (by decide) (by decide)
          (by decide) (ends_escalate _)
    · refine iff_of_false (not_ends_bind_of_error (onExecutor_of_error herror)) ?_
      rintro ⟨⟨result, ex'', hrun⟩, -⟩
      exact absurd (Prod.mk.inj (herror.symm.trans hrun)).1 (by simp)

end Compensation

/-! ## The parts of a run -/

section Parts

variable [FloatText F] {call : RunCall V M}

theorem ends_dryRun_iff (h : Entered call.readings policyChecking 1 2 st)
    (hmode : call.proposal.executionMode = .dryRun) :
    Ends (dryRun collab lib call) st ↔ LocalDevExecutor.Accepts collab call.proposal st.executor ∧
      ∀ i ∈ [1, 2, 3, 4, 5], ¬ Late call.readings i := by
  have hprepared := h.moved (by decide) preparing "Dry run."
  have hexecuting := hprepared.moved (by decide) executing "Dry run execute."
  have hiff : (∃ result ex', LocalDevExecutor.call collab call.readings lib call.proposal
      (moved call.readings (moved call.readings st preparing "Dry run.") executing
        "Dry run execute.").executor = (.ok result, ex')) ↔
      LocalDevExecutor.Accepts collab call.proposal st.executor :=
    LocalDevExecutor.exists_call_dryRun_iff hmode
  rw [dryRun, ends_transition h (by decide) (by decide) (by decide),
    ends_transition hprepared (by decide) (by decide) (by decide), ← hiff]
  rcases exists_ok_or_error (LocalDevExecutor.call collab call.readings lib call.proposal)
    (moved call.readings (moved call.readings st preparing "Dry run.") executing
      "Dry run execute.").executor with ⟨result, ex', hrun⟩ | ⟨e, ex', herror⟩
  · have htick : ex'.tick = 4 :=
      (LocalDevExecutor.tick_of_call_dryRun hmode hrun).trans hexecuting.tick
    have hexecuted : Entered call.readings executing 3 4 (RunState.mk ex'
        { (moved call.readings (moved call.readings st preparing "Dry run.") executing
          "Dry run execute.").record with executionResult := some result }) :=
      hexecuting.of_machine htick rfl
    rw [ends_bind_of_ok (onExecutor_of_ok hrun), ends_onRecord,
      ends_transition hexecuted (by decide) (by decide) (by decide),
      ends_planned (hexecuted.moved (by decide) verifying _) (by decide) (Or.inr (by decide))
        (by decide) (by decide)]
    have hreturns : ∃ result ex', LocalDevExecutor.call collab call.readings lib call.proposal
        (moved call.readings (moved call.readings st preparing "Dry run.") executing
          "Dry run execute.").executor = (.ok result, ex') := ⟨result, ex', hrun⟩
    simp only [NotSetBack, List.forall_mem_cons, and_iff_right hreturns]
    tauto
  -- an exception leaves the record in the executing status
  · refine iff_of_false (fun hends ↦ ?_) fun ⟨⟨_, _, hrun⟩, _⟩ ↦ ?_
    · exact not_ends_bind_of_error (onExecutor_of_error herror) hends.2.2
    · exact absurd (Prod.mk.inj (herror.symm.trans hrun)).1 (by simp)

variable [FloatMetric M]

def CanaryPasses (call : RunCall V M) : Prop :=
  (runCanaryVerification call.proposal.proposalId call.canaryEpisodes
    call.canaryThresholds).overallPass = true

/-- A successful execution comes to its end in time: it is committed when the canary passes, and
otherwise compensated or, when the machine was forced to compensate, given up. -/
def Concludes (collab : Collaborators V W) (autoCompensate : Bool) (call : RunCall V M)
    (capsule : Option (RollbackCapsule V)) (w : W) (i : ℕ) : Prop :=
  (CanaryPasses call → ¬ Late call.readings i ∧ ¬ Late call.readings (i + 1)) ∧
  (¬ CanaryPasses call →
    if autoCompensate = true ∧ capsule.isSome = true then
      NotSetBack call.readings i (i + 1) ∧ Compensates collab call.readings capsule w (i + 1)
    else Late call.readings i ∧ ¬ Late call.readings (i + 1))

/-- After a successful execution, the run settles when it is concluded. -/
theorem ends_verify_iff {autoCompensate : Bool} {i n : ℕ}
    (h : Entered call.readings executing i n st)
    (hfresh : ∀ c, forProposal own st.executor call.proposal.proposalId = some c →
      LocalDevExecutor.Fresh call.readings lib call.proposal c) :
    Ends (verify collab lib own autoCompensate call) st ↔
      NotSetBack call.readings i n ∧ Concludes collab autoCompensate call
        (forProposal own st.executor call.proposal.proposalId) st.executor.world n := by
  generalize hcapsule : forProposal own st.executor call.proposal.proposalId = capsule at hfresh ⊢
  have hrecorded : Entered call.readings executing i n
      (RunState.mk st.executor { st.record with capsule }) := h.of_machine h.tick rfl
  rw [verify, ends_bind_of_ok get_apply, hcapsule, ends_onRecord,
    ends_transition hrecorded (by decide) (by decide) (by decide), ends_onRecord, Concludes]
  refine and_congr_right fun _ ↦ ?_
  have hverifying := hrecorded.moved (by decide) verifying "Running canary verification."
  split
  · rename_i hpass
    have hpasses : CanaryPasses call := hpass
    rw [and_iff_left (fun hnot ↦ absurd hpasses hnot), imp_iff_right hpasses]
    exact ends_planned (hverifying.of_machine hverifying.tick rfl) (by decide)
      (Or.inr (by decide)) (by decide) (by decide)
  · rename_i hfail
    have hnot : ¬ CanaryPasses call := hfail
    rw [and_iff_right (fun hpass ↦ absurd hpass hnot), imp_iff_right hnot]
    simp only [Bool.and_eq_true]
    split
    -- the capsule that was found is the one of the record
    · rename_i hcompensates
      obtain ⟨c, rfl⟩ := Option.isSome_iff_exists.mp hcompensates.2
      refine ends_compensate_iff call.proposal (hverifying.of_machine hverifying.tick rfl)
        (by decide) (by decide) ?_
      rintro _ ⟨⟩
      exact hfresh c rfl
    · exact ends_unverified (hverifying.of_machine hverifying.tick rfl)

end Parts

/-! ## The run -/

section Run

variable [FloatText F] [FloatMetric M] (collab lib own)

/-- What the executor does with the proposal, after the clock was read five times. -/
def executed (call : RunCall V M) (engine : RecoveryEngine V W M) :
    Except Raised (ExecutionResult V) × LocalDevExecutor V W :=
  LocalDevExecutor.call collab call.readings lib call.proposal { engine.executor with tick := 5 }

def Succeeds (call : RunCall V M) (engine : RecoveryEngine V W M) : Prop :=
  ∃ result, (executed collab lib call engine).1 = .ok result ∧ result.success = true

/-- What follows the execution comes to its end: the canary if the action has succeeded, and a
compensation with the capsule that is found if it has not. -/
def Recovers (call : RunCall V M) (engine : RecoveryEngine V W M) : Prop :=
  let ex := (executed collab lib call engine).2
  let capsule := forProposal own ex call.proposal.proposalId
  NotSetBack call.readings 4 ex.tick ∧
    (Succeeds collab lib call engine →
      Concludes collab engine.autoCompensate call capsule ex.world ex.tick) ∧
    (¬ Succeeds collab lib call engine →
      Compensates collab call.readings capsule ex.world ex.tick)

/-- There is a certificate that is validly signed. -/
def Signed (call : RunCall V M) : Prop :=
  ∃ certificate key, call.certificate = some certificate ∧
    nonempty call.signerPublicKeyB64 = some key ∧
    lib.verifySignature key certificate.payload certificate.signatureB64 = true

/-- A certificate that is validly signed comes with a proposal that has no capsule yet, has a time
zone, and has expired or leads to an action that recovers. -/
def Certified (call : RunCall V M) (engine : RecoveryEngine V W M) : Prop :=
  ∀ certificate key, call.certificate = some certificate →
    nonempty call.signerPublicKeyB64 = some key →
    lib.verifySignature key certificate.payload certificate.signatureB64 = true →
    forProposal own engine.executor call.proposal.proposalId = none ∧
    ∃ timestamp, certificate.timestamp = .aware timestamp ∧
      if maxAge < call.readings.clock 3 - timestamp then ¬ Late call.readings 4
      else NotSetBack call.readings 2 4 ∧ Recovers collab lib own call engine

/-- The run takes none of the branches that raise, and its last transition is in time. -/
def Settles (call : RunCall V M) (engine : RecoveryEngine V W M) : Prop :=
  if Denied call.proposal then ¬ Late call.readings 2
  else if AwaitsApproval call.proposal then ¬ Late call.readings 1 ∧ ¬ Late call.readings 2
  else if call.proposal.executionMode = .dryRun then
    LocalDevExecutor.Accepts collab call.proposal engine.executor ∧
      ∀ i ∈ [1, 2, 3, 4, 5], ¬ Late call.readings i
  else NotSetBack call.readings 1 2 ∧ (¬ Signed lib call → ¬ Late call.readings 3) ∧
    Certified collab lib own call engine

variable {collab lib own} {call : RunCall V M} {engine : RecoveryEngine V W M}

/-- The state in which the action is executed. -/
structure Executing (call : RunCall V M) (engine : RecoveryEngine V W M) (st : RunState V W M) :
    Prop where
  entered : Entered call.readings executing 4 5 st
  capsule : st.record.capsule = none
  proposal : st.record.proposal = call.proposal
  executor : st.executor = { engine.executor with tick := 5 }

omit [FloatMetric M] in
/-- The capsule that is found after an execution is fresh. -/
theorem fresh_of_stored {registry : CapsuleRegistry V} {ex : LocalDevExecutor V W}
    (hnone : registry.forProposal call.proposal.proposalId = none)
    (h : LocalDevExecutor.Stored call.readings lib call.proposal registry ex) :
    ∃ c, ex.registry.forProposal call.proposal.proposalId = some c ∧
      LocalDevExecutor.Fresh call.readings lib call.proposal c := by
  obtain ⟨c, hfresh, hregistry⟩ := h
  refine ⟨c, ?_, hfresh⟩
  rw [hregistry, ← hfresh.proposalId]
  exact CapsuleRegistry.forProposal_store (hfresh.proposalId ▸ hnone)

omit [FloatMetric M] in
/-- What is found is the capsule made here: there was none before, and no other registry changes. -/
theorem fresh_executed (hmode : call.proposal.executionMode ≠ .dryRun)
    (hnone : forProposal own engine.executor call.proposal.proposalId = none)
    {c : RollbackCapsule V}
    (hc : forProposal own (executed collab lib call engine).2 call.proposal.proposalId = some c) :
    LocalDevExecutor.Fresh call.readings lib call.proposal c := by
  cases own with
  | some registry => exact absurd (hnone.symm.trans hc) (by simp)
  | none =>
    have hstored : Triple (LocalDevExecutor.HasRegistry engine.executor.registry)
        (LocalDevExecutor.call collab call.readings lib call.proposal)
        (fun _ ex ↦ LocalDevExecutor.HasRegistry engine.executor.registry ex ∨
          LocalDevExecutor.Stored call.readings lib call.proposal engine.executor.registry ex)
        (fun _ ex ↦ LocalDevExecutor.HasRegistry engine.executor.registry ex ∨
          LocalDevExecutor.Stored call.readings lib call.proposal engine.executor.registry ex) :=
      (LocalDevExecutor.triple_call hmode).weaken (fun _ h ↦ h) (fun _ _ h ↦ Or.inr h) fun _ _ h ↦ h
    rcases hstored.final (rfl : LocalDevExecutor.HasRegistry engine.executor.registry
      { engine.executor with tick := 5 }) with hsame | hstored
    · have hregistry : (executed collab lib call engine).2.registry = engine.executor.registry :=
        hsame
      rw [forProposal, Option.getD_none, hregistry] at hc
      exact absurd (hnone.symm.trans hc) (by simp)
    · obtain ⟨c', hc', hfresh⟩ := fresh_of_stored hnone hstored
      exact Option.some.inj (hc'.symm.trans hc) ▸ hfresh

/-- The part of a run after the certificate was accepted. -/
theorem ends_act_iff (h : Executing call engine st)
    (hmode : call.proposal.executionMode ≠ .dryRun)
    (hnone : forProposal own engine.executor call.proposal.proposalId = none) :
    Ends (act collab lib own engine.autoCompensate call) st ↔
      Recovers collab lib own call engine := by
  have hfresh : ∀ c, forProposal own (executed collab lib call engine).2 call.proposal.proposalId
      = some c → LocalDevExecutor.Fresh call.readings lib call.proposal c :=
    fun _ ↦ fresh_executed hmode hnone
  have hexecutor : LocalDevExecutor.call collab call.readings lib call.proposal st.executor
      = executed collab lib call engine := by rw [h.executor, executed]
  -- a failed result, and an exception of the executor, which counts as one
  have hfailed : ∀ result ex, result.success = false → (executed collab lib call engine).2 = ex →
      execute collab lib call st = (.ok result, { st with executor := ex }) →
      (Ends (act collab lib own engine.autoCompensate call) st ↔
        NotSetBack call.readings 4 ex.tick ∧ Compensates collab call.readings
          (forProposal own ex call.proposal.proposalId) ex.world ex.tick) := by
    rintro result ex hfalse rfl hexecute
    rw [act, ends_bind_of_ok hexecute, ends_onRecord, hfalse, if_neg Bool.false_ne_true]
    refine (ends_compensate_iff call.proposal (by exact h.entered.of_machine rfl rfl) (by decide)
      (by decide) ?_).trans ?_
    all_goals simp only [capsuleOf, h.capsule, Option.none_or, h.proposal]
    exact hfresh
  rw [Recovers]
  rcases exists_ok_or_error (LocalDevExecutor.call collab call.readings lib call.proposal)
    st.executor with ⟨result, ex, hrun⟩ | ⟨e, ex, hrun⟩
  · have hexecute : execute collab lib call st = (.ok result, { st with executor := ex }) :=
      attempt_of_ok (onExecutor_of_ok hrun)
    have hexecuted : executed collab lib call engine = (.ok result, ex) :=
      hexecutor.symm.trans hrun
    cases hsuccess : result.success with
    | true =>
      have hsucceeds : Succeeds collab lib call engine :=
        ⟨result, congrArg Prod.fst hexecuted, hsuccess⟩
      rw [act, ends_bind_of_ok hexecute, ends_onRecord, hsuccess, if_pos rfl]
      rw [hexecuted] at hfresh ⊢
      refine (ends_verify_iff (by exact h.entered.of_machine rfl rfl) hfresh).trans ?_
      simp [hsucceeds]
    | false =>
      have hfails : ¬ Succeeds collab lib call engine := by
        rintro ⟨r, hr, htrue⟩
        obtain rfl := Except.ok.inj ((congrArg Prod.fst hexecuted).symm.trans hr)
        exact absurd htrue (hsuccess ▸ Bool.false_ne_true)
      rw [hfailed result ex hsuccess (congrArg Prod.snd hexecuted) hexecute, hexecuted]
      simp [hfails]
  · have hexecute : execute collab lib call st
        = (.ok (LocalDevExecutor.failed call.proposal.proposalId ("Executor raised: " ++ e.message)
          e.message), { st with executor := ex }) :=
      attempt_of_error (onExecutor_of_error hrun)
    have hexecuted : executed collab lib call engine = (.error e, ex) := hexecutor.symm.trans hrun
    have hfails : ¬ Succeeds collab lib call engine := by
      rintro ⟨r, hr, -⟩
      exact absurd ((congrArg Prod.fst hexecuted).symm.trans hr) (by simp)
    rw [hfailed _ ex rfl (congrArg Prod.snd hexecuted) hexecute, hexecuted]
    simp [hfails]

/-- The state of a run after the policy check. -/
def checked (call : RunCall V M) (engine : RecoveryEngine V W M) : RunState V W M :=
  moved call.readings (start call engine) policyChecking "Starting policy check."

/-- The state of a run when the certificate is checked. -/
def prepared (call : RunCall V M) (engine : RecoveryEngine V W M) : RunState V W M :=
  moved call.readings (checked call engine) preparing "Preparing capsule."

omit [PyValue V F] [FloatText F] [FloatMetric M] in
theorem entered_start : Entered call.readings proposed 0 1 (start call engine) :=
  ⟨rfl, rfl, fun hlate ↦ absurd hlate not_late_zero, fun _ ↦ rfl⟩

omit [PyValue V F] [FloatText F] [FloatMetric M] in
theorem entered_checked : Entered call.readings policyChecking 1 2 (checked call engine) :=
  entered_start.moved (by decide) policyChecking _

omit [PyValue V F] [FloatText F] [FloatMetric M] in
theorem entered_prepared : Entered call.readings preparing 2 3 (prepared call engine) :=
  entered_checked.moved (by decide) preparing _

omit [PyValue V F] [FloatText F] [FloatMetric M] in
/-- The check of a certificate that is validly signed, for a proposal without a capsule. -/
theorem checkCertificate_of_valid {certificate : RecoveryEligibilityCertificate} {key : String}
    {timestamp : ℤ} (hcertificate : call.certificate = some certificate)
    (hkey : nonempty call.signerPublicKeyB64 = some key)
    (hvalid : lib.verifySignature key certificate.payload certificate.signatureB64 = true)
    (hnone : forProposal own st.executor call.proposal.proposalId = none)
    (htimestamp : certificate.timestamp = .aware timestamp) :
    checkCertificate lib own call st
      = (.ok (if maxAge < call.readings.clock st.executor.tick - timestamp then
          some ("REC is expired.", "SECURITY: Expired REC. Failing closed.") else none),
        { st with executor := { st.executor with tick := st.executor.tick + 1 } }) := by
  simp only [checkCertificate, hcertificate, hkey, hvalid, if_true]
  rw [bind_of_ok get_apply, hnone, Option.isSome_none, if_neg Bool.false_ne_true,
    bind_of_ok (onExecutor_of_ok LocalDevExecutor.now_apply), htimestamp]
  rfl

omit [PyValue V F] [FloatText F] [FloatMetric M] in
/-- The check of a certificate that is validly signed raises for a proposal with a capsule, and for
a time without a zone. -/
theorem checkCertificate_of_invalid {certificate : RecoveryEligibilityCertificate} {key : String}
    (hcertificate : call.certificate = some certificate)
    (hkey : nonempty call.signerPublicKeyB64 = some key)
    (hvalid : lib.verifySignature key certificate.payload certificate.signatureB64 = true)
    (h : ¬ (forProposal own st.executor call.proposal.proposalId = none ∧
      ∃ timestamp, certificate.timestamp = .aware timestamp)) :
    ∃ e n, checkCertificate lib own call st
      = (.error e, { st with executor := { st.executor with tick := n } }) := by
  simp only [checkCertificate, hcertificate, hkey, hvalid, if_true]
  rw [bind_of_ok get_apply]
  cases hfound : forProposal own st.executor call.proposal.proposalId with
  | some c => exact ⟨_, st.executor.tick, rfl⟩
  | none =>
    rw [Option.isSome_none, if_neg Bool.false_ne_true,
      bind_of_ok (onExecutor_of_ok LocalDevExecutor.now_apply)]
    cases htimestamp : certificate.timestamp with
    | naive time => exact ⟨_, st.executor.tick + 1, rfl⟩
    | aware time => exact absurd ⟨hfound, time, htimestamp⟩ h

omit [PyValue V F] [FloatText F] [FloatMetric M] in
/-- Without a certificate that is validly signed, the check refuses. -/
theorem checkCertificate_of_refused
    (h : ∀ certificate key, call.certificate = some certificate →
      nonempty call.signerPublicKeyB64 = some key →
      lib.verifySignature key certificate.payload certificate.signatureB64 = false) :
    ∃ refusal, checkCertificate lib own call st = (.ok (some refusal), st) := by
  rw [checkCertificate]
  cases hcertificate : call.certificate with
  | none => exact ⟨_, rfl⟩
  | some certificate =>
    cases hkey : nonempty call.signerPublicKeyB64 with
    | none => exact ⟨_, rfl⟩
    | some key =>
      simp only [h certificate key hcertificate hkey, Bool.false_eq_true, if_false]
      exact ⟨_, rfl⟩

theorem ends_afterCheck_refused {autoCompensate : Bool} {n : ℕ}
    (h : Entered call.readings preparing 2 n st) (refusal : String × String) :
    Ends (afterCheck collab lib own autoCompensate call (some refusal)) st ↔
      ¬ Late call.readings n :=
  ends_failed h (by decide) (by decide) (by decide) (by decide) (ends_escalate _)

theorem certified_iff {certificate : RecoveryEligibilityCertificate} {key : String}
    (hcertificate : call.certificate = some certificate)
    (hkey : nonempty call.signerPublicKeyB64 = some key)
    (hvalid : lib.verifySignature key certificate.payload certificate.signatureB64 = true) :
    Certified collab lib own call engine ↔
      forProposal own engine.executor call.proposal.proposalId = none ∧
      ∃ timestamp, certificate.timestamp = .aware timestamp ∧
        if maxAge < call.readings.clock 3 - timestamp then ¬ Late call.readings 4
        else NotSetBack call.readings 2 4 ∧ Recovers collab lib own call engine := by
  constructor
  · exact fun h ↦ h certificate key hcertificate hkey hvalid
  · intro h certificate' key' hcertificate' _ _
    obtain rfl := Option.some.inj (hcertificate.symm.trans hcertificate')
    exact h

theorem ends_mutatingRun_iff (hmode : call.proposal.executionMode ≠ .dryRun) :
    Ends (mutatingRun collab lib own engine.autoCompensate call) (checked call engine) ↔
      NotSetBack call.readings 1 2 ∧ (¬ Signed lib call → ¬ Late call.readings 3) ∧
        Certified collab lib own call engine := by
  rw [mutatingRun, ends_transition entered_checked (by decide) (by decide) (by decide)]
  refine and_congr_right fun _ ↦ ?_
  change Ends _ (prepared call engine) ↔ _
  have hprepared : Entered call.readings preparing 2 3 (prepared call engine) := entered_prepared
  -- a certificate that is missing or does not verify ends the run with a refusal
  by_cases hsigned : Signed lib call
  · rw [and_iff_right fun hnot ↦ absurd hsigned hnot]
    obtain ⟨certificate, key, hcertificate, hkey, hvalid⟩ := hsigned
    rw [certified_iff hcertificate hkey hvalid]
    by_cases hgood : forProposal own (prepared call engine).executor call.proposal.proposalId
        = none ∧ ∃ timestamp, certificate.timestamp = .aware timestamp
    · obtain ⟨hnone, timestamp, htimestamp⟩ := hgood
      have hcheck := checkCertificate_of_valid hcertificate hkey hvalid hnone htimestamp
      rw [hprepared.tick] at hcheck
      rw [ends_bind_of_ok hcheck, and_iff_right (by exact hnone)]
      have hunique : (∃ timestamp', certificate.timestamp = .aware timestamp' ∧
          if maxAge < call.readings.clock 3 - timestamp' then ¬ Late call.readings 4
          else NotSetBack call.readings 2 4 ∧ Recovers collab lib own call engine) ↔
          if maxAge < call.readings.clock 3 - timestamp then ¬ Late call.readings 4
          else NotSetBack call.readings 2 4 ∧ Recovers collab lib own call engine := by
        simp [htimestamp]
      rw [hunique]
      -- an old certificate is a refusal too
      split
      · exact ends_afterCheck_refused (by exact hprepared.of_machine rfl rfl) _
      · have hexecuting : Entered call.readings preparing 2 4 (RunState.mk
            { (prepared call engine).executor with tick := 3 + 1 } (prepared call engine).record) :=
          hprepared.of_machine rfl rfl
        rw [afterCheck, ends_transition hexecuting (by decide) (by decide) (by decide)]
        exact and_congr_right fun _ ↦ ends_act_iff
          ⟨hexecuting.moved (by decide) executing _, rfl, rfl, rfl⟩ hmode hnone
    -- a capsule of an earlier run or a naive timestamp makes the check raise
    · obtain ⟨e, st', hraise⟩ := checkCertificate_of_invalid hcertificate hkey hvalid hgood
      refine iff_of_false (not_ends_bind_of_error hraise) ?_
      rintro ⟨hnone, timestamp, htimestamp, -⟩
      exact hgood ⟨hnone, timestamp, htimestamp⟩
  · have hrefused : ∀ certificate key, call.certificate = some certificate →
        nonempty call.signerPublicKeyB64 = some key →
        lib.verifySignature key certificate.payload certificate.signatureB64 = false := by
      intro certificate key hcertificate hkey
      exact Bool.eq_false_of_not_eq_true fun hvalid ↦
        hsigned ⟨certificate, key, hcertificate, hkey, hvalid⟩
    have hcertified : Certified collab lib own call engine :=
      fun certificate key hcertificate hkey hvalid ↦
        absurd ⟨certificate, key, hcertificate, hkey, hvalid⟩ hsigned
    have hcheck : ∃ refusal, checkCertificate lib own call (prepared call engine)
        = (.ok (some refusal), prepared call engine) := checkCertificate_of_refused hrefused
    obtain ⟨refusal, hcheck⟩ := hcheck
    rw [ends_bind_of_ok hcheck, ends_afterCheck_refused hprepared, and_iff_left hcertified,
      imp_iff_right hsigned]

theorem ends_runBody_iff :
    Ends (runBody collab lib own engine.autoCompensate call) (start call engine) ↔
      Settles collab lib own call engine := by
  rw [runBody, ends_transition entered_start (by decide) (by decide) (by decide), Settles,
    and_iff_right (by exact fun hlate ↦ absurd hlate not_late_zero)]
  change Ends _ (checked call engine) ↔ _
  split
  · exact ends_failed entered_checked (by decide) (by decide) (by decide) (by decide)
      (ends_escalate _)
  split
  · exact ends_planned entered_checked (by decide) (Or.inl rfl) (by decide) (by decide)
  split
  · rename_i hmode
    exact ends_dryRun_iff entered_checked hmode
  · rename_i hmode
    exact ends_mutatingRun_iff hmode

/-- The run returns a record that awaits approval or has come to an end, after every history of
runs, exactly when it takes none of the branches that raise and its last transition is in time. -/
theorem run_settles_iff (own : Option (CapsuleRegistry V)) (engine : RecoveryEngine V W M)
    (history : List (RunCall V M)) :
    (∃ record, (runWith collab lib own call
        (after (runWith collab lib own) history engine)).1 = .ok record ∧
      RecoveryRecord.Settled record) ↔
      Settles collab lib own call (after (runWith collab lib own) history engine) := by
  rw [← ends_runBody_iff]
  -- nothing but the engine is left of the history
  generalize after (runWith collab lib own) history engine = reached
  constructor
  · rintro ⟨record, hrun, hsettled⟩
    rcases exists_ok_or_error (runBody collab lib own reached.autoCompensate call)
      (start call reached) with ⟨_, st', hok⟩ | ⟨e, st', herror⟩
    · rw [runWith, hok] at hrun
      obtain rfl : st'.record = record := Except.ok.inj hrun
      exact ⟨st', hok, hsettled⟩
    · rw [runWith, herror] at hrun
      exact nomatch hrun
  · rintro ⟨st', hok, hsettled⟩
    exact ⟨st'.record, by rw [runWith, hok]; rfl, hsettled⟩

end Run

/-! ## Two dry runs -/

/-- A dry run on an empty engine that disables a tool named by the parameters, while the clock
stands still. -/
def toolDryRun (params : Dict (Scalar Empty)) : RunCall (Scalar Empty) ℚ where
  proposal :=
    { actionType := .disableTestTool
      tenantId := "acme"
      requesterId := "alice"
      params
      executionMode := .dryRun
      idempotencyKey := "k"
      expectedVersionId := none
      proposalId := "p"
      policyDecision := some "allow"
      approvalRequestId := none
      admissionReceiptId := none
      admissionBinding := [] }
  canaryEpisodes := []
  canaryThresholds := none
  certificate := none
  signerPublicKeyB64 := none
  readings := ⟨fun _ ↦ 0, fun _ ↦ ""⟩

def emptyEngine : RecoveryEngine (Scalar Empty) Unit ℚ where
  executor := ⟨[], fun _ ↦ [], fun _ ↦ [], [], (), 0⟩
  autoCompensate := true
  records := []

/-- Collaborators that a dry run without a receipt does not call. -/
def idleCollaborators : Collaborators (Scalar Empty) Unit where
  openReceipts := pure ()
  verifyReceipt _ _ := pure (true, "")
  consumeReceipt _ := pure ()
  voidReceipt _ _ := pure ()
  isQuarantined _ := pure false
  quarantinePartition _ _ _ := pure ()
  unquarantinePartition _ := pure ()
  appendEvidence _ _ _ _ := pure ()

/-- Library functions that a dry run does not call. -/
def idleLibrary : Library Empty := ⟨fun _ ↦ "", fun _ _ _ ↦ false, fun _ ↦ "", fun _ ↦ ""⟩

/-- The dry run that names its tool settles, also after it was run before. -/
theorem run_settles_toolDryRun :
    ∃ record, (run idleCollaborators idleLibrary (toolDryRun [("tool_id", .str "t")])
      (after (run idleCollaborators idleLibrary) [toolDryRun [("tool_id", .str "t")]]
        emptyEngine)).1 = .ok record ∧ RecoveryRecord.Settled record := by
  refine (run_settles_iff none emptyEngine _).mpr ⟨⟨rfl, ?_⟩, ?_⟩
  · exact fun _ h ↦ nomatch h
  · exact fun _ _ ↦ (by decide : ¬ (0 : ℤ) + RecoveryStateMachine.timeout < 0)

/-- The dry run that does not name its tool raises what the executor raises. -/
theorem not_run_settles_toolDryRun :
    ¬ ∃ record, (run idleCollaborators idleLibrary (toolDryRun []) emptyEngine).1 = .ok record ∧
      RecoveryRecord.Settled record := by
  rintro ⟨record, hrun, -⟩
  exact nomatch hrun

end RecoveryEngine

end DriftGuardX.Recovery
