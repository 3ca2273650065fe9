import DriftGuardX.Incident.StateMachine

/-!
# The transition log as a path

The transitions that are accepted make a path through the statuses. The log holds their targets and
reasons in order (`transitions_spec`), but each target is also logged as the source of its own
transition, so the log is that path only where no accepted transition changes the status
(`logsPath_iff`).
-/

namespace DriftGuardX.Incident

open Recovery Program

/-- The entries of a log. -/
def TransitionLog.toList : TransitionLog → List TransitionEntry
  | .entries es => es
  | _ => []

/-- Entries that lead from one status to another, each starting where the last one ended. -/
def IsPath : IncidentStatus → List TransitionEntry → IncidentStatus → Prop
  | status, [], status' => status = status'
  | status, e :: es, status' =>
    e.source = status ∧ e.target ∈ e.source.allowedTransitions ∧ IsPath e.target es status'

/-- The transitions that are accepted among those asked for, from a status. -/
def accepted : IncidentStatus → List (IncidentStatus × String) → List TransitionEntry
  | _, [] => []
  | status, (toStatus, reason) :: calls =>
    if toStatus ∈ status.allowedTransitions then
      ⟨status, toStatus, reason⟩ :: accepted toStatus calls
    else accepted status calls

/-- The status that entries end in. -/
def endStatus (status : IncidentStatus) (entries : List TransitionEntry) : IncidentStatus :=
  entries.foldl (fun _ e ↦ e.target) status

/-- An entry as it is logged. -/
def TransitionEntry.logged (e : TransitionEntry) : TransitionEntry := { e with source := e.target }

theorem isPath_accepted {status : IncidentStatus} (calls : List (IncidentStatus × String)) :
    IsPath status (accepted status calls) (endStatus status (accepted status calls)) := by
  induction calls generalizing status with
  | nil => rfl
  | cons call calls ih =>
    rw [accepted]
    split
    · rename_i hallowed
      exact ⟨rfl, hallowed, ih⟩
    · exact ih

/-- Only a status that may follow itself is asked for, of those that may follow a status. -/
theorem accepted_self_iff {status : IncidentStatus} {calls : List (IncidentStatus × String)} :
    (∀ e ∈ accepted status calls, e.source = status ∧ e.target = status) ↔
      ∀ call ∈ calls, call.1 ∈ status.allowedTransitions → call.1 = status := by
  induction calls with
  | nil => simp [accepted]
  | cons call calls ih =>
    rw [accepted, List.forall_mem_cons, ← ih]
    by_cases hallowed : call.1 ∈ status.allowedTransitions
    · rw [if_pos hallowed, List.forall_mem_cons]
      by_cases hsame : call.1 = status
      · simp [hsame]
      · exact iff_of_false (fun h ↦ hsame h.1.2) fun h ↦ hsame (h.1 hallowed)
    · rw [if_neg hallowed, and_iff_right fun h ↦ absurd h hallowed]

theorem isPath_logged_iff {status status' : IncidentStatus} {es : List TransitionEntry}
    (hpath : IsPath status es status') :
    IsPath status (es.map TransitionEntry.logged) status' ↔
      ∀ e ∈ es, e.source = status ∧ e.target = status := by
  induction es generalizing status with
  | nil => exact iff_of_true hpath (by simp)
  | cons e es ih =>
    obtain ⟨rfl, hallowed, hrest⟩ := hpath
    rw [List.map_cons, IsPath, List.forall_mem_cons, and_iff_right rfl]
    constructor
    · rintro ⟨hsource, -, hlogged⟩
      have htarget : e.target = e.source := hsource
      refine ⟨htarget, ?_⟩
      have hall := (ih hrest).mp hlogged
      rwa [htarget] at hall
    · rintro ⟨htarget, hall⟩
      refine ⟨htarget, ?_, (ih hrest).mpr ?_⟩
      · change e.target ∈ e.target.allowedTransitions
        rw [htarget] at hallowed ⊢
        exact hallowed
      · rwa [htarget]

section Runs

variable {F : Type} {state : IncidentState F} {calls : List (IncidentStatus × String)}

/-- The calls of `transition`, one after the other. -/
def transitions (calls : List (IncidentStatus × String)) (state : IncidentState F) :
    IncidentState F :=
  after (fun call ↦ IncidentState.transition call.1 call.2) calls state

theorem transition_of_allowed {toStatus : IncidentStatus} (reason : String)
    (hallowed : toStatus ∈ state.status.allowedTransitions)
    (hlog : ∀ typeName, state.transitionLog ≠ .other typeName) :
    (IncidentState.transition toStatus reason state).2 = { state with
      status := toStatus
      transitionLog :=
        .entries (state.transitionLog.toList ++ [⟨toStatus, toStatus, reason⟩]) } := by
  have hclosed : state.status ≠ .closed := by
    intro h
    simp [h, IncidentStatus.allowedTransitions] at hallowed
  rw [IncidentState.transition, bind_of_ok get_apply, if_neg hclosed,
    if_neg (not_not.mpr hallowed), bind_of_ok (modify_apply _)]
  cases hentries : state.transitionLog with
  | absent => rfl
  | entries es => rfl
  | other typeName => exact absurd hentries (hlog typeName)

theorem transition_of_not_allowed {toStatus : IncidentStatus} (reason : String)
    (hallowed : toStatus ∉ state.status.allowedTransitions) :
    (IncidentState.transition toStatus reason state).2 = state := by
  rcases IncidentState.transition_cases toStatus reason state with ⟨h, -⟩ | ⟨-, e, hrun⟩
  · exact absurd h hallowed
  · rw [hrun]

/-- **The log of a run.** The accepted transitions are logged in order, with their targets for
sources, and the run ends where they do. -/
theorem transitions_spec (calls : List (IncidentStatus × String)) (state : IncidentState F)
    (hlog : ∀ typeName, state.transitionLog ≠ .other typeName) :
    (transitions calls state).transitionLog.toList
      = state.transitionLog.toList ++ (accepted state.status calls).map TransitionEntry.logged ∧
    (transitions calls state).status = endStatus state.status (accepted state.status calls) := by
  induction calls generalizing state with
  | nil => exact ⟨(List.append_nil _).symm, rfl⟩
  | cons call calls ih =>
    rw [transitions, after, accepted]
    by_cases hallowed : call.1 ∈ state.status.allowedTransitions
    · rw [if_pos hallowed, transition_of_allowed call.2 hallowed hlog]
      obtain ⟨hentries, hstatus⟩ := ih { state with
        status := call.1
        transitionLog := .entries (state.transitionLog.toList ++ [⟨call.1, call.1, call.2⟩]) }
        (by simp)
      refine ⟨hentries.trans ?_, hstatus⟩
      rw [TransitionLog.toList, List.append_assoc, List.map_cons]
      rfl
    · rw [if_neg hallowed, transition_of_not_allowed call.2 hallowed]
      exact ih state hlog

/-- The log lists the accepted transitions in order, and is a path from the initial status to the
current one. -/
def LogsPath (state : IncidentState F) (calls : List (IncidentStatus × String)) : Prop :=
  let entries := (transitions calls state).transitionLog.toList
  entries.map (fun e ↦ (e.target, e.reason))
      = (accepted state.status calls).map (fun e ↦ (e.target, e.reason)) ∧
    IsPath state.status entries (transitions calls state).status

/-- **The log is a path.** From an empty log, it is one exactly when no status is asked for that may
follow the initial one, other than the initial one itself. -/
theorem logsPath_iff (hlog : state.transitionLog = .absent) : LogsPath state calls ↔
    ∀ call ∈ calls, call.1 ∈ state.status.allowedTransitions → call.1 = state.status := by
  have hempty : state.transitionLog.toList = [] := by
    rw [hlog]
    rfl
  obtain ⟨hentries, hstatus⟩ := transitions_spec calls state (by simp [hlog])
  rw [hempty, List.nil_append] at hentries
  rw [LogsPath, hentries, hstatus, isPath_logged_iff (isPath_accepted calls), accepted_self_iff,
    List.map_map]
  exact and_iff_right rfl

/-! ## Two incidents -/

/-- An incident without telemetry. -/
def blankIncident (status : IncidentStatus) : IncidentState Unit where
  incidentId := "i"
  status
  rootCausePosterior := []
  envelopeId := none
  transitionLog := .absent
  telemetry := none

/-- Replays follow replays; the recovery is refused. -/
theorem logsPath_replaying : LogsPath (blankIncident .replaying)
    [(.replaying, "again"), (.recovered, "too early"), (.replaying, "again")] :=
  (logsPath_iff rfl).mpr (by decide)

/-- The first transition of an incident is logged as one from `FAILURE_DETECTED` to itself. -/
theorem not_logsPath_failureDetected :
    (transitions [(.failureDetected, "alert")] (blankIncident .observing)).transitionLog
      = .entries [⟨.failureDetected, .failureDetected, "alert"⟩] ∧
    ¬ LogsPath (blankIncident .observing) [(.failureDetected, "alert")] := by
  refine ⟨rfl, fun h ↦ ?_⟩
  have hsource : IncidentStatus.failureDetected = .observing := h.2.1
  exact absurd hsource (by decide)

end Runs

end DriftGuardX.Incident
