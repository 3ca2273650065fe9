import Mathlib.Algebra.Order.Ring.Int
import Mathlib.Data.List.Basic

/-!
# The recovery state machine

One recovery, from its proposal to a terminal status. Transitions are checked against a table; a
transition that comes after the deadline moves the machine to `COMPENSATING` instead, from
wherever it is.
-/

namespace DriftGuardX.Recovery

/-- The exception classes that the recovery package raises or tells apart. -/
inductive ExceptionKind where
  | keyError
  | valueError
  | typeError
  | attributeError
  | runtimeError
  | invalidTransitionError
  | paramValidationError
  | idempotencyConflictError
  | staleVersionError
  | other
  deriving DecidableEq, Repr

/-- The subclasses of `ValueError`. -/
def ExceptionKind.isValueError : ExceptionKind → Bool
  | .valueError | .invalidTransitionError | .paramValidationError | .idempotencyConflictError
  | .staleVersionError => true
  | _ => false

/-- An exception and its text. -/
structure Raised where
  kind : ExceptionKind
  message : String
  deriving DecidableEq, Repr

inductive RecoveryStatus where
  | proposed
  | policyChecking
  | pendingApproval
  | preparing
  | executing
  | verifying
  | committed
  | compensating
  | compensated
  | failed
  | cancelled
  deriving DecidableEq, Repr

namespace RecoveryStatus

def value : RecoveryStatus → String
  | proposed => "proposed"
  | policyChecking => "policy_checking"
  | pendingApproval => "pending_approval"
  | preparing => "preparing"
  | executing => "executing"
  | verifying => "verifying"
  | committed => "committed"
  | compensating => "compensating"
  | compensated => "compensated"
  | failed => "failed"
  | cancelled => "cancelled"

/-- The name of a member, as an f-string prints it. -/
def label : RecoveryStatus → String
  | proposed => "RecoveryStatus.PROPOSED"
  | policyChecking => "RecoveryStatus.POLICY_CHECKING"
  | pendingApproval => "RecoveryStatus.PENDING_APPROVAL"
  | preparing => "RecoveryStatus.PREPARING"
  | executing => "RecoveryStatus.EXECUTING"
  | verifying => "RecoveryStatus.VERIFYING"
  | committed => "RecoveryStatus.COMMITTED"
  | compensating => "RecoveryStatus.COMPENSATING"
  | compensated => "RecoveryStatus.COMPENSATED"
  | failed => "RecoveryStatus.FAILED"
  | cancelled => "RecoveryStatus.CANCELLED"

end RecoveryStatus

open RecoveryStatus

/-- No further transitions are permitted from these. -/
def terminalStates : List RecoveryStatus := [committed, compensated, failed, cancelled]

def allowedTransitions : RecoveryStatus → List RecoveryStatus
  | proposed => [policyChecking, cancelled]
  | policyChecking => [pendingApproval, preparing, failed, cancelled]
  | pendingApproval => [preparing, cancelled]
  | preparing => [executing, failed, cancelled]
  | executing => [verifying, compensating]
  | verifying => [committed, compensating]
  | compensating => [compensated, failed]
  | committed | compensated | failed | cancelled => []

/-- One entry of the event log. -/
structure StateEvent where
  fromStatus : RecoveryStatus
  toStatus : RecoveryStatus
  actor : String
  reason : String
  deriving DecidableEq, Repr

/-- Times are microseconds. -/
structure RecoveryStateMachine where
  proposalId : String
  currentStatus : RecoveryStatus
  eventLog : List StateEvent
  timeoutAt : ℤ
  escalated : Bool
  deriving DecidableEq, Repr

namespace RecoveryStateMachine

/-- Thirty minutes. -/
def timeout : ℤ := 30 * 60 * 1000000

/-- A machine created at a time. -/
def new (proposalId : String) (now : ℤ) : RecoveryStateMachine where
  proposalId
  currentStatus := proposed
  eventLog := []
  timeoutAt := now + timeout
  escalated := false

/-- Moving to a status, with an entry in the log. -/
def enter (m : RecoveryStateMachine) (toStatus : RecoveryStatus) (actor reason : String) :
    RecoveryStateMachine :=
  { m with
    currentStatus := toStatus
    eventLog := m.eventLog ++ [⟨m.currentStatus, toStatus, actor, reason⟩] }

def isTerminal (m : RecoveryStateMachine) : Bool := m.currentStatus ∈ terminalStates

def forceTimeout (m : RecoveryStateMachine) : RecoveryStateMachine :=
  if m.isTerminal then m
  else { m.enter compensating "system" "Timeout exceeded; forcing compensation." with
    escalated := true }

def transition (m : RecoveryStateMachine) (now : ℤ) (toStatus : RecoveryStatus)
    (actor reason : String) : Except Raised RecoveryStateMachine :=
  if m.isTerminal then
    .error ⟨.invalidTransitionError,
      s!"Cannot transition from terminal state {m.currentStatus.label}."⟩
  else if m.timeoutAt < now then .ok m.forceTimeout
  else if toStatus ∉ allowedTransitions m.currentStatus then
    .error ⟨.invalidTransitionError,
      s!"Transition {m.currentStatus.label} → {toStatus.label} is not allowed. " ++
      "Allowed: [" ++ ", ".intercalate (((allowedTransitions m.currentStatus).map
        RecoveryStatus.value).mergeSort.map fun s ↦ "'" ++ s ++ "'") ++ "]"⟩
  else .ok (m.enter toStatus actor reason)

def cancel (m : RecoveryStateMachine) (now : ℤ) (actor reason : String) :
    Except Raised RecoveryStateMachine :=
  if m.isTerminal then
    .error ⟨.invalidTransitionError, "Cannot cancel a terminal recovery."⟩
  else if m.currentStatus = executing then
    .error ⟨.invalidTransitionError,
      "Cannot cancel while executing; trigger COMPENSATING instead."⟩
  else m.transition now cancelled actor reason

variable {m : RecoveryStateMachine} {now : ℤ} {toStatus : RecoveryStatus} {actor reason : String}

/-- What a transition that returns has done. -/
theorem of_transition_eq_ok {m' : RecoveryStateMachine}
    (h : m.transition now toStatus actor reason = .ok m') : m'.timeoutAt = m.timeoutAt ∧
      (m.timeoutAt < now ∧ m'.currentStatus = compensating ∨
        now ≤ m.timeoutAt ∧ toStatus ∈ allowedTransitions m.currentStatus ∧
          m'.currentStatus = toStatus) := by
  rw [transition] at h
  split at h
  · exact absurd h (by simp)
  rename_i hterminal
  split at h
  · rename_i hlate
    obtain rfl := Except.ok.inj h
    rw [forceTimeout, if_neg hterminal]
    exact ⟨rfl, Or.inl ⟨hlate, rfl⟩⟩
  rename_i hintime
  split at h
  · exact absurd h (by simp)
  · rename_i hallowed
    obtain rfl := Except.ok.inj h
    exact ⟨rfl, Or.inr ⟨not_lt.mp hintime, not_not.mp hallowed, rfl⟩⟩

theorem of_transition_eq_error {e : Raised}
    (h : m.transition now toStatus actor reason = .error e) : m.isTerminal = true ∨
      now ≤ m.timeoutAt ∧ toStatus ∉ allowedTransitions m.currentStatus := by
  rw [transition] at h
  split at h
  · exact Or.inl ‹_›
  split at h
  · exact absurd h (by simp)
  rename_i hintime
  split at h
  · exact Or.inr ⟨not_lt.mp hintime, ‹_›⟩
  · exact absurd h (by simp)

theorem transition_of_late (htime : m.timeoutAt < now) (hopen : m.isTerminal = false) :
    m.transition now toStatus actor reason = .ok m.forceTimeout := by
  rw [transition, hopen, if_neg Bool.false_ne_true, if_pos htime]

theorem transition_of_allowed (htime : now ≤ m.timeoutAt)
    (h : toStatus ∈ allowedTransitions m.currentStatus) :
    m.transition now toStatus actor reason = .ok (m.enter toStatus actor reason) := by
  have hterminal : m.isTerminal = false := by
    revert h
    rw [isTerminal]
    cases m.currentStatus <;> simp [allowedTransitions, terminalStates]
  rw [transition, hterminal, if_neg Bool.false_ne_true, if_neg (not_lt.mpr htime),
    if_neg (not_not.mpr h)]

theorem transition_of_not_allowed (htime : now ≤ m.timeoutAt)
    (h : toStatus ∉ allowedTransitions m.currentStatus) :
    ∃ e, m.transition now toStatus actor reason = .error e := by
  rw [transition]
  split
  · exact ⟨_, rfl⟩
  · rw [if_neg (not_lt.mpr htime)]
    exact ⟨_, rfl⟩

end RecoveryStateMachine

end DriftGuardX.Recovery
