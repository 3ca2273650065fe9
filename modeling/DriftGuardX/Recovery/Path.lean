import DriftGuardX.Recovery.StateMachine
import Mathlib.Data.List.Chain

/-!
# The log of a recovery

The calls of `transition` and `cancel` on one machine, in any order and at any times. The log they
leave is a path from `PROPOSED` to the current status. Its edges are those of the table, except for
the ones that a call after the deadline adds: these go to `COMPENSATING` from any status that is
not terminal (`eventLog_legal`).

The deadline is checked before the table, also in `COMPENSATING`. So a machine can be brought to a
terminal status as long as the deadline has not passed, and never after it (`finishable_iff`).
-/

namespace DriftGuardX.Recovery

open RecoveryStatus

/-- One call on a machine, with the time at which it is made. -/
inductive MachineCall where
  | transition (now : ℤ) (toStatus : RecoveryStatus) (actor reason : String)
  | cancel (now : ℤ) (actor reason : String)
  deriving DecidableEq, Repr

def MachineCall.now : MachineCall → ℤ
  | transition now _ _ _ | cancel now _ _ => now

namespace RecoveryStateMachine

/-- What a call returns or raises. -/
def perform (m : RecoveryStateMachine) : MachineCall → Except Raised RecoveryStateMachine
  | .transition now toStatus actor reason => m.transition now toStatus actor reason
  | .cancel now actor reason => m.cancel now actor reason

/-- The machine after a call, which is as before when the call raises. -/
def step (m : RecoveryStateMachine) (call : MachineCall) : RecoveryStateMachine :=
  match m.perform call with
  | .ok m' => m'
  | .error _ => m

def runCalls (m : RecoveryStateMachine) (calls : List MachineCall) : RecoveryStateMachine :=
  calls.foldl step m

variable {m : RecoveryStateMachine} {call : MachineCall} {calls : List MachineCall}

/-! ## What a call does -/

/-- The machine after a call that comes too late. -/
def timedOut (m : RecoveryStateMachine) : RecoveryStateMachine :=
  { m.enter compensating "system" "Timeout exceeded; forcing compensation." with escalated := true }

/-- What a call at a time may do to a machine. -/
inductive Moves (m : RecoveryStateMachine) (now : ℤ) : RecoveryStateMachine → Prop
  | stay : Moves m now m
  | follow {toStatus actor reason} (h : toStatus ∈ allowedTransitions m.currentStatus) :
    Moves m now (m.enter toStatus actor reason)
  | timeOut (hterminal : m.isTerminal = false) (hlate : m.timeoutAt < now) : Moves m now m.timedOut

theorem moves_of_transition {m' : RecoveryStateMachine} {now : ℤ} {toStatus : RecoveryStatus}
    {actor reason : String} (h : m.transition now toStatus actor reason = .ok m') :
    m.Moves now m' := by
  cases hterminal : m.isTerminal with
  | true =>
    rw [transition, hterminal, if_pos rfl] at h
    exact absurd h (by simp)
  | false =>
    rw [transition, hterminal, if_neg Bool.false_ne_true] at h
    split at h
    · rename_i hlate
      rw [forceTimeout, hterminal, if_neg Bool.false_ne_true] at h
      exact Except.ok.inj h ▸ .timeOut hterminal hlate
    · split at h
      · exact absurd h (by simp)
      · rename_i hallowed
        exact Except.ok.inj h ▸ .follow (not_not.mp hallowed)

theorem moves_of_perform {m' : RecoveryStateMachine} (h : m.perform call = .ok m') :
    m.Moves call.now m' := by
  cases call with
  | transition now toStatus actor reason => exact moves_of_transition h
  | cancel now actor reason =>
    rw [perform, cancel] at h
    split at h
    · exact absurd h (by simp)
    · split at h
      · exact absurd h (by simp)
      · exact moves_of_transition h

theorem moves_step (m : RecoveryStateMachine) (call : MachineCall) :
    m.Moves call.now (m.step call) := by
  rw [step]
  split
  · rename_i h
    exact moves_of_perform h
  · exact .stay

theorem Moves.timeoutAt {m' : RecoveryStateMachine} {now : ℤ} (h : m.Moves now m') :
    m'.timeoutAt = m.timeoutAt := by
  cases h <;> rfl

/-! ## Legal logs -/

/-- An entry that a late call adds. -/
def Forced (e : StateEvent) : Prop :=
  e.fromStatus ∉ terminalStates ∧ e.toStatus = compensating ∧ e.actor = "system" ∧
    e.reason = "Timeout exceeded; forcing compensation."

/-- The log is a path to the current status whose edges are in the table, apart from those that
late calls add, if there are any. -/
structure LegalLog (late : Prop) (m : RecoveryStateMachine) : Prop where
  /-- The log starts at `PROPOSED`. -/
  first : ∀ e, m.eventLog.head? = some e → e.fromStatus = proposed
  /-- Consecutive entries link. -/
  links : m.eventLog.IsChain fun e e' ↦ e.toStatus = e'.fromStatus
  /-- The log ends in the current status. -/
  last : (m.eventLog.getLast?.map StateEvent.toStatus).getD proposed = m.currentStatus
  table : ∀ e ∈ m.eventLog, e.toStatus ∈ allowedTransitions e.fromStatus ∨ (late ∧ Forced e)
  /-- `COMMITTED` is entered from `VERIFYING`. -/
  committed : ∀ e ∈ m.eventLog, e.toStatus = committed → e.fromStatus = verifying
  /-- `COMPENSATING` is entered after `EXECUTING`. -/
  compensating : ∀ init e rest, m.eventLog = init ++ e :: rest → e.toStatus = compensating →
    (∃ e' ∈ init, e'.toStatus = executing) ∨ (late ∧ Forced e)
  /-- The statuses after an execution are reached through one. -/
  entered : m.currentStatus = executing ∨ m.currentStatus = verifying →
    ∃ e ∈ m.eventLog, e.toStatus = executing

variable {late : Prop}

theorem LegalLog.new (late : Prop) (proposalId : String) (now : ℤ) :
    LegalLog late (.new proposalId now) where
  first _ h := nomatch h
  links := .nil
  last := rfl
  table _ h := nomatch h
  committed _ h := nomatch h
  compensating init e rest h := by simp [RecoveryStateMachine.new] at h
  entered h := by rcases h with h | h <;> exact nomatch h

/-- The statuses from which the table leads to `COMMITTED`, `COMPENSATING` and `VERIFYING`. -/
theorem mem_allowedTransitions {status : RecoveryStatus} :
    (committed ∈ allowedTransitions status → status = verifying) ∧
    (compensating ∈ allowedTransitions status → status = executing ∨ status = verifying) ∧
    (verifying ∈ allowedTransitions status → status = executing) := by
  cases status <;> decide

/-- Entering a status keeps a log legal. -/
theorem LegalLog.enter (h : LegalLog late m) {toStatus : RecoveryStatus} {actor reason : String}
    (htable : toStatus ∈ allowedTransitions m.currentStatus ∨
      (late ∧ Forced ⟨m.currentStatus, toStatus, actor, reason⟩)) :
    LegalLog late (m.enter toStatus actor reason) where
  first e he := by
    -- the first entry is the new one only in an empty log
    cases hlog : m.eventLog with
    | nil =>
      have hlast := h.last
      rw [hlog] at hlast
      rw [RecoveryStateMachine.enter, hlog] at he
      obtain rfl := Option.some.inj he
      exact hlast.symm
    | cons e' log =>
      rw [RecoveryStateMachine.enter, hlog] at he
      exact h.first e (hlog ▸ he)
  links := by
    refine List.isChain_append.mpr ⟨h.links, List.isChain_singleton _, fun e he e' he' ↦ ?_⟩
    obtain rfl : _ = e' := Option.some.inj he'
    have hlast := h.last
    rw [Option.mem_def.mp he] at hlast
    exact hlast
  last := by rw [RecoveryStateMachine.enter, List.getLast?_concat]; rfl
  table e he := by
    rcases List.mem_append.mp he with he | he
    · exact h.table e he
    · exact List.mem_singleton.mp he ▸ htable
  committed e he hto := by
    rcases List.mem_append.mp he with he | he
    · exact h.committed e he hto
    · obtain rfl := List.mem_singleton.mp he
      rcases htable with hallowed | ⟨-, -, hforced, -⟩
      · exact mem_allowedTransitions.1 (hto ▸ hallowed)
      · exact absurd (hto.symm.trans hforced) (by simp)
  compensating init e rest heq hto := by
    -- the entry in question is the new one or stands in the old log
    rcases List.eq_nil_or_concat rest with rfl | ⟨rest, last, rfl⟩
    · obtain ⟨rfl, he⟩ := List.append_inj' heq rfl
      obtain rfl := List.singleton_inj.mp he
      refine htable.imp_left fun hallowed ↦ h.entered ?_
      exact mem_allowedTransitions.2.1 (hto ▸ hallowed)
    · rw [List.concat_eq_append, ← List.cons_append, ← List.append_assoc] at heq
      exact h.compensating init e rest (List.append_inj' heq rfl).1 hto
  entered hstatus := by
    rcases hstatus with hstatus | hstatus
    · exact ⟨_, List.mem_append_right _ (List.mem_singleton_self _), hstatus⟩
    · rcases htable with hallowed | ⟨-, -, hforced, -⟩
      · obtain ⟨e, he, hto⟩ :=
          h.entered (Or.inl (mem_allowedTransitions.2.2 ((show toStatus = verifying from hstatus) ▸
            hallowed)))
        exact ⟨e, List.mem_append_left _ he, hto⟩
      · exact absurd ((show toStatus = verifying from hstatus).symm.trans hforced) (by simp)

theorem LegalLog.moves {m' : RecoveryStateMachine} {now : ℤ} (h : LegalLog late m)
    (hmoves : m.Moves now m') (hlate : m.timeoutAt < now → late) : LegalLog late m' := by
  cases hmoves with
  | stay => exact h
  | follow hallowed => exact h.enter (Or.inl hallowed)
  | timeOut hterminal htime =>
    have hforced : Forced ⟨m.currentStatus, .compensating, "system",
        "Timeout exceeded; forcing compensation."⟩ :=
      ⟨of_decide_eq_false hterminal, rfl, rfl, rfl⟩
    have henter := h.enter (Or.inr ⟨hlate htime, hforced⟩)
    exact { henter with }

/-- **The log is a path.** After any calls, the log leads from `PROPOSED` to the current status
along the table, and along the edges to `COMPENSATING` that calls after the deadline add. -/
theorem eventLog_legal (proposalId : String) (start : ℤ) (calls : List MachineCall) :
    LegalLog (∃ call ∈ calls, start + timeout < call.now)
      ((RecoveryStateMachine.new proposalId start).runCalls calls) := by
  suffices h : ∀ (late : Prop) (m : RecoveryStateMachine), LegalLog late m →
      (∀ call ∈ calls, m.timeoutAt < call.now → late) → LegalLog late (m.runCalls calls) from
    h _ _ (.new _ _ _) fun call hcall htime ↦ ⟨call, hcall, htime⟩
  intro late
  induction calls with
  | nil => exact fun m h _ ↦ h
  | cons call calls ih =>
    intro m h hlate
    have hmoves := m.moves_step call
    refine ih (m.step call) (h.moves hmoves (hlate call List.mem_cons_self)) fun call' hcall' ↦ ?_
    rw [hmoves.timeoutAt]
    exact hlate call' (List.mem_cons_of_mem call hcall')

/-- A first call after the deadline adds an edge that the table does not have. -/
theorem not_eventLog_table :
    ¬ ∀ e ∈ ((RecoveryStateMachine.new "p" 0).runCalls
      [.transition (timeout + 1) policyChecking "system" ""]).eventLog,
      e.toStatus ∈ allowedTransitions e.fromStatus := by
  decide

/-! ## Finishing a recovery -/

/-- Some calls of `transition`, at the given time or later, lead to a terminal status. -/
def Finishable (m : RecoveryStateMachine) (now : ℤ) : Prop :=
  ∃ calls : List MachineCall, (∀ call ∈ calls, ∃ time toStatus actor reason,
    call = .transition time toStatus actor reason ∧ now ≤ time) ∧
    (m.runCalls calls).isTerminal = true

/-- In `COMPENSATING`, a transition to one of its two targets arrives there. -/
def Completes (m : RecoveryStateMachine) (now : ℤ) : Prop :=
  m.currentStatus = compensating → ∀ toStatus ∈ [compensated, failed], ∀ actor reason,
    (m.step (.transition now toStatus actor reason)).currentStatus = toStatus

theorem not_finishable {now : ℤ} (hterminal : m.isTerminal = false) (hlate : m.timeoutAt < now) :
    ¬ m.Finishable now := by
  rintro ⟨calls, hcalls, hend⟩
  induction calls generalizing m with
  | nil => exact absurd hend (hterminal ▸ Bool.false_ne_true)
  | cons call calls ih =>
    obtain ⟨time, toStatus, actor, reason, rfl, htime⟩ := hcalls call List.mem_cons_self
    have hstep : m.step (.transition time toStatus actor reason) = m.timedOut := by
      rw [step, perform, transition, hterminal, if_neg Bool.false_ne_true,
        if_pos (hlate.trans_le htime), forceTimeout, hterminal]
      rfl
    refine ih ?_ ?_ (fun call hcall ↦ hcalls call (List.mem_cons_of_mem _ hcall)) hend
    · rw [hstep]
      rfl
    · rw [(m.moves_step _).timeoutAt]
      exact hlate

theorem Finishable.of_terminal {now : ℤ} (h : m.isTerminal = true) : m.Finishable now :=
  ⟨[], fun _ h ↦ (absurd h (by simp)), h⟩

/-- Until the deadline a machine can be finished if it can after a transition of the table. -/
theorem Finishable.of_enter {now : ℤ} {toStatus : RecoveryStatus} (htime : now ≤ m.timeoutAt)
    (hallowed : toStatus ∈ allowedTransitions m.currentStatus)
    (h : (m.enter toStatus "" "").Finishable now) : m.Finishable now := by
  obtain ⟨calls, hcalls, hend⟩ := h
  refine ⟨.transition now toStatus "" "" :: calls, ?_, ?_⟩
  · intro call hcall
    rcases List.mem_cons.mp hcall with rfl | hcall
    · exact ⟨now, toStatus, "", "", rfl, le_rfl⟩
    · exact hcalls call hcall
  · rw [runCalls, List.foldl_cons, step, perform, transition_of_allowed htime hallowed]
    exact hend

/-- Until the deadline every machine can be finished: by cancelling or failing before the
execution, and by compensating after it. -/
theorem finishable_of_onTime {now : ℤ} (htime : now ≤ m.timeoutAt) : m.Finishable now := by
  have hterminal : ∀ {toStatus}, toStatus ∈ terminalStates →
      toStatus ∈ allowedTransitions m.currentStatus → m.Finishable now := fun hto hallowed ↦
    .of_enter htime hallowed (.of_terminal (decide_eq_true hto))
  cases hstatus : m.currentStatus with
  | proposed | pendingApproval | policyChecking | preparing =>
    exact hterminal (by decide : cancelled ∈ terminalStates) (hstatus ▸ by decide)
  | executing =>
    have hcompensating : (m.enter compensating "" "").Finishable now :=
      .of_enter htime (by decide : compensated ∈ allowedTransitions compensating)
        (.of_terminal rfl)
    exact .of_enter htime (hstatus ▸ by decide) hcompensating
  | verifying => exact hterminal (by decide : committed ∈ terminalStates) (hstatus ▸ by decide)
  | compensating => exact hterminal (by decide : failed ∈ terminalStates) (hstatus ▸ by decide)
  | committed | compensated | failed | cancelled =>
    exact .of_terminal (by rw [isTerminal, hstatus]; decide)

/-- **Finishing a recovery.** A machine that is not in a terminal status can be brought to one, and
completes its compensation, exactly until the deadline. -/
theorem finishable_iff {now : ℤ} (hterminal : m.isTerminal = false) :
    (m.Finishable now ∧ m.Completes now) ↔ now ≤ m.timeoutAt := by
  constructor
  · rintro ⟨hfinishable, -⟩
    by_contra hlate
    exact not_finishable hterminal (not_le.mp hlate) hfinishable
  · intro htime
    refine ⟨finishable_of_onTime htime, fun hstatus toStatus hto actor reason ↦ ?_⟩
    have hallowed : toStatus ∈ allowedTransitions m.currentStatus := hstatus ▸ hto
    rw [step, perform, transition_of_allowed htime hallowed]
    rfl

theorem finishable_new : (RecoveryStateMachine.new "p" 0).isTerminal = false ∧
    (RecoveryStateMachine.new "p" 0).Finishable timeout ∧
    (RecoveryStateMachine.new "p" 0).Completes timeout :=
  ⟨rfl, (finishable_iff rfl).mpr (by decide)⟩

/-- A machine that is called after its deadline is compensating from then on. -/
theorem not_finishable_timedOut :
    ¬ (((RecoveryStateMachine.new "p" 0).runCalls
        [.transition (timeout + 1) policyChecking "system" ""]).Finishable (timeout + 1) ∧
      ((RecoveryStateMachine.new "p" 0).runCalls
        [.transition (timeout + 1) policyChecking "system" ""]).Completes (timeout + 1)) :=
  fun h ↦ not_finishable rfl (by decide) h.1

end RecoveryStateMachine

end DriftGuardX.Recovery
