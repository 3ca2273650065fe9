import DriftGuardX.Foundation.Program
import DriftGuardX.Recovery.StateMachine

/-!
# The incident state machine

The lifecycle of an incident from its observation until it is closed. Transitions are checked
against a table and logged in the telemetry of the incident.
-/

namespace DriftGuardX.Incident

open Recovery

inductive IncidentStatus where
  | observing
  | failureDetected
  | diagnosing
  | replaying
  | evidenceSufficient
  | evidenceInsufficient
  | recoveryPlanning
  | recoveryValidating
  | awaitingAuthorization
  | canary
  | recovered
  | recoveryRejected
  | closed
  deriving DecidableEq, Repr

namespace IncidentStatus

def value : IncidentStatus → String
  | observing => "OBSERVING"
  | failureDetected => "FAILURE_DETECTED"
  | diagnosing => "DIAGNOSING"
  | replaying => "REPLAYING"
  | evidenceSufficient => "EVIDENCE_SUFFICIENT"
  | evidenceInsufficient => "EVIDENCE_INSUFFICIENT"
  | recoveryPlanning => "RECOVERY_PLANNING"
  | recoveryValidating => "RECOVERY_VALIDATING"
  | awaitingAuthorization => "AWAITING_AUTHORIZATION"
  | canary => "CANARY"
  | recovered => "RECOVERED"
  | recoveryRejected => "RECOVERY_REJECTED"
  | closed => "CLOSED"

/-- The name of a member, as an f-string prints it. -/
def label (status : IncidentStatus) : String := "IncidentStatus." ++ status.value

/-- `ALLOWED_TRANSITIONS`. -/
def allowedTransitions : IncidentStatus → List IncidentStatus
  | observing => [failureDetected, closed]
  | failureDetected => [diagnosing, closed]
  | diagnosing => [replaying, evidenceInsufficient, closed]
  | replaying => [replaying, evidenceSufficient, evidenceInsufficient, closed]
  | evidenceSufficient => [recoveryPlanning, closed]
  | evidenceInsufficient => [closed]
  | recoveryPlanning => [recoveryValidating, recoveryRejected, closed]
  | recoveryValidating => [awaitingAuthorization, recoveryRejected, closed]
  | awaitingAuthorization => [canary, recoveryRejected, closed]
  | canary => [recovered, recoveryRejected, closed]
  | recovered => [closed]
  | recoveryRejected => [closed]
  | closed => []

end IncidentStatus

structure TransitionEntry where
  source : IncidentStatus
  target : IncidentStatus
  reason : String
  deriving DecidableEq, Repr

/-- What the telemetry holds under `transition_log`: nothing, a list, or an object of a type to
which nothing can be appended. -/
inductive TransitionLog where
  | absent
  | entries (entries : List TransitionEntry)
  | other (typeName : String)
  deriving DecidableEq, Repr

/-- What the orchestrator writes into the telemetry after the experiments. -/
structure LoopTelemetry (F : Type) where
  stopOutcome : String
  stopReason : String
  topPosterior : F
  posteriorMargin : F
  entropy : F
  replayCount : ℤ
  validReplayCount : ℕ
  invalidReplayCount : ℕ
  budgetUsedUsd : F
  elapsedSeconds : F

/-- What the orchestrator reads and writes of an incident. -/
structure IncidentState (F : Type) where
  incidentId : String
  status : IncidentStatus
  rootCausePosterior : List (String × F)
  envelopeId : Option String
  transitionLog : TransitionLog
  telemetry : Option (LoopTelemetry F)

/-- `transition`. The entry is logged once the status is set, with the new status as its source. -/
def IncidentState.transition {F : Type} (toStatus : IncidentStatus) (reason : String) :
    Program (IncidentState F) Raised Unit := do
  let state ← .get
  if state.status = .closed then
    .raise ⟨.valueError, "Cannot transition from terminal state " ++ state.status.label⟩
  else if toStatus ∉ state.status.allowedTransitions then
    .raise ⟨.valueError, "Invalid transition from " ++ state.status.label ++ " to " ++
      toStatus.label⟩
  else do
    .modify fun state ↦ { state with status := toStatus }
    let entry : TransitionEntry := ⟨toStatus, toStatus, reason⟩
    match state.transitionLog with
    | .absent => .modify fun state ↦ { state with transitionLog := .entries [entry] }
    | .entries entries =>
      .modify fun state ↦ { state with transitionLog := .entries (entries ++ [entry]) }
    | .other typeName =>
      .raise ⟨.attributeError, s!"'{typeName}' object has no attribute 'append'"⟩

section Transition

variable {F : Type} {toStatus : IncidentStatus} {reason : String} {state state' : IncidentState F}

/-- A transition enters the status that it is to and changes the log, or raises and stays. -/
theorem IncidentState.transition_cases (toStatus : IncidentStatus) (reason : String)
    (state : IncidentState F) :
    (toStatus ∈ state.status.allowedTransitions ∧ ∃ log, (transition toStatus reason state).2
      = { state with status := toStatus, transitionLog := log }) ∨
    toStatus ∉ state.status.allowedTransitions ∧
      ∃ e, transition toStatus reason state = (.error e, state) := by
  rw [transition, Program.bind_of_ok Program.get_apply]
  by_cases hclosed : state.status = .closed
  · rw [if_pos hclosed, hclosed]
    exact Or.inr ⟨by simp [IncidentStatus.allowedTransitions], _, rfl⟩
  rw [if_neg hclosed]
  by_cases hallowed : toStatus ∈ state.status.allowedTransitions
  · rw [if_neg (not_not.mpr hallowed), Program.bind_of_ok (Program.modify_apply _)]
    refine Or.inl ⟨hallowed, ?_⟩
    cases state.transitionLog with
    | absent => exact ⟨_, rfl⟩
    | entries entries => exact ⟨_, rfl⟩
    | other typeName => exact ⟨_, rfl⟩
  · rw [if_pos hallowed]
    exact Or.inr ⟨hallowed, _, rfl⟩

end Transition

end DriftGuardX.Incident
