import DriftGuardX.Foundation.History
import DriftGuardX.Incident.Orchestrator

/-!
# Histories of incidents

What is read off the history of a run: the outcome, the experiments that passed validation, the
reservation that waits to be settled. `Allowed` says what each event presupposes, and `Orderly` is
the invariant of every run, which `DriftGuardX.Incident.Discipline` establishes.
-/

namespace DriftGuardX.Incident

open Recovery (Raised Dict)
open History Program

variable {P W V F : Type}

/-! ## Readings of a history -/

section Histories

/-- The reservation, if one was handed out. -/
def HandedOut.toOption : HandedOut F → Option (ResourceReservation F)
  | .reservation r => some r
  | _ => none

namespace Event

/-- The outcome that an event sets. -/
def outcome? : Event V F → Option StoppingOutcome
  | .judged outcome => some outcome
  | _ => none

/-- The replays of an experiment pass validation. -/
def passed : Event V F → Bool
  | .validated _ report => report.valid && !report.earlyTerminated
  | _ => false

/-- The reservation that waits to be settled after an event. -/
def settle (waiting : Option (ResourceReservation F)) : Event V F → Option (ResourceReservation F)
  | .planned handedOut => handedOut.toOption
  | .settled _ => none
  | _ => waiting

/-- Events that have nothing to do with reservations. -/
def Neutral : Event V F → Prop
  | .planned _ | .executed _ _ | .settled _ => False
  | _ => True

end Event

variable {history : List (Event V F)} {event : Event V F}

/-- The stopping outcome after a history. -/
def lastOutcome (history : List (Event V F)) : Option StoppingOutcome :=
  (history.filterMap Event.outcome?).getLast?

/-- How many experiments passed validation. -/
def validExperiments (history : List (Event V F)) : ℕ := history.countP Event.passed

/-- The reservation that waits to be settled. -/
def pending (history : List (Event V F)) : Option (ResourceReservation F) :=
  history.foldl Event.settle none

/-- A replay was in a batch whose divergence report was valid, and did not end the run. -/
def HasEvidence (history : List (Event V F)) : Prop :=
  ∃ replays report, .validated replays report ∈ history ∧
    report.valid = true ∧ report.earlyTerminated = false ∧ replays ≠ []

/-- The costs that replays report can be read. -/
def CostsReadable [PyFloat F] [ToFloat V F] (replays : List (Dict V)) : Prop :=
  ∀ replay ∈ replays, ∃ cost : F, actualCost replay = .ok cost

/-- A reservation that is handed out is open. -/
def HandedOut.IsOpen : HandedOut F → Prop
  | .reservation r => r.isOpen = true
  | _ => True

/-- The costs that are read to commit what was handed out can be read. -/
def HandedOut.ToRead [PyFloat F] [ToFloat V F] (replays : List (Dict V)) : HandedOut F → Prop
  | .reservation _ => CostsReadable (F := F) replays
  | _ => True

/-- What the settlement of a reservation rests on. -/
def Event.Settleable [PyFloat F] [ToFloat V F] : Event V F → Prop
  | .planned handedOut => handedOut.IsOpen
  | .executed handedOut replays => handedOut.ToRead replays
  | _ => True

/-- Each reservation that is handed out is open, and replays under a reservation report costs that
can be read. -/
def Settleable [PyFloat F] [ToFloat V F] (history : List (Event V F)) : Prop :=
  ∀ event ∈ history, event.Settleable

/-- An experiment is planned when no reservation waits, and only the one that waits is settled. -/
def InTurn (before : List (Event V F)) : Event V F → Prop
  | .planned _ => pending before = none
  | .settled reservation => pending before = some reservation
  | _ => True

/-- Every reservation is settled exactly once before the next experiment, and none waits in the
end. -/
def SettlesInTurn (history : List (Event V F)) : Prop :=
  Always InTurn history ∧ pending history = none

theorem lastOutcome_append_judged (outcome : StoppingOutcome) :
    lastOutcome (history ++ [.judged outcome]) = some outcome := by
  simp [lastOutcome, Event.outcome?]

theorem lastOutcome_append (h : event.outcome? = none) :
    lastOutcome (history ++ [event]) = lastOutcome history := by
  simp [lastOutcome, h]

theorem validExperiments_append :
    validExperiments (history ++ [event]) = validExperiments history + event.passed.toNat := by
  rw [validExperiments, List.countP_append, List.countP_singleton]
  cases event.passed <;> rfl

theorem pending_append : pending (history ++ [event]) = event.settle (pending history) := by
  simp [pending]

theorem HasEvidence.append (h : HasEvidence history) : HasEvidence (history ++ [event]) := by
  obtain ⟨replays, report, hmem, hreport⟩ := h
  exact ⟨replays, report, List.mem_append_left _ hmem, hreport⟩

theorem settle_of_neutral (h : event.Neutral) (waiting : Option (ResourceReservation F)) :
    event.settle waiting = waiting := by
  cases event with
  | planned | executed | settled => exact absurd h (by simp [Event.Neutral])
  | _ => rfl

theorem settlesInTurn_append (h : event.Neutral) :
    SettlesInTurn (history ++ [event]) ↔ SettlesInTurn history := by
  have hturn : InTurn history event := by
    cases event with
    | planned | executed | settled => exact absurd h (by simp [Event.Neutral])
    | _ => trivial
  rw [SettlesInTurn, always_append_singleton, pending_append, settle_of_neutral h]
  exact and_congr_left fun _ ↦ and_iff_left hturn

variable [PyFloat F] [ToFloat V F]

theorem settleable_append :
    Settleable (history ++ [event]) ↔ Settleable history ∧ event.Settleable := by
  simp [Settleable, or_imp, forall_and]

theorem settleable_of_neutral (h : event.Neutral) : event.Settleable := by
  cases event with
  | planned | executed | settled => exact absurd h (by simp [Event.Neutral])
  | _ => trivial

end Histories

/-! ## What is asked of the collaborators -/

/-- What may be assumed of a run: what the stopping policy keeps about its state after a number of
valid experiments, when it confirms, and whether the incident has been recovered before. -/
structure Contract (P : Type) where
  tally : ℕ → P → Prop
  enough : ℕ → Prop
  recovered : Prop

/-- Nothing is assumed. -/
def Contract.trivial (P : Type) (recovered : Prop) : Contract P :=
  ⟨fun _ _ ↦ True, fun _ ↦ True, recovered⟩

structure Contract.Meets (contract : Contract P) (policy : StoppingPolicy P W V F) : Prop where
  /-- Judging keeps the tally, and confirms only when it is enough. -/
  judges : ∀ n incident model remaining, Triple (fun view ↦ contract.tally n view.policy)
    (policy.isSufficient incident model remaining)
    (fun verdict view ↦ contract.tally n view.policy ∧
      (verdict.outcome = .confirmed → contract.enough n)) fun _ _ ↦ True
  /-- Recording an experiment adds it to the tally. -/
  records : ∀ recordIteration, policy.recordIteration = some recordIteration → ∀ n entropy,
    Triple (fun view ↦ contract.tally n view.policy) (recordIteration entropy)
      (fun _ view ↦ contract.tally (n + 1) view.policy) fun _ _ ↦ True
  /-- A policy that records nothing has nothing to keep. -/
  skips : policy.recordIteration = none → ∀ n p, contract.tally n p → contract.tally (n + 1) p

theorem Contract.trivial_meets (policy : StoppingPolicy P W V F) (recovered : Prop) :
    (Contract.trivial P recovered).Meets policy where
  judges _ _ _ _ _ _ := ⟨fun _ _ _ ↦ ⟨True.intro, fun _ ↦ True.intro⟩, fun _ _ _ ↦ True.intro⟩
  records _ _ _ _ _ _ := ⟨fun _ _ _ ↦ True.intro, fun _ _ _ ↦ True.intro⟩
  skips _ _ _ _ := True.intro

/-! ## The invariants -/

section Invariants

variable (contract : Contract P)

/-- Recovery is planned on a confirmed outcome. -/
def Supported (history : List (Event V F)) : Prop :=
  lastOutcome history = some .confirmed ∧ HasEvidence history

/-- What an event presupposes of the history before it. -/
def Allowed (before : List (Event V F)) : Event V F → Prop
  | .entered .recoveryPlanning => Supported before
  | .entered .evidenceSufficient =>
    contract.enough (validExperiments before) ∧ HasEvidence before
  | _ => True

variable [PyFloat F] [ToFloat V F]

/-- What holds throughout a run, also after an exception. -/
structure Orderly (history : List (Event V F)) (status : IncidentStatus) : Prop where
  allowed : Always (Allowed contract) history
  /-- Reservations are settled in turn exactly where they can be settled. -/
  account : SettlesInTurn history ↔ Settleable history
  status : status = .recovered → contract.recovered

/-- What the run has learned when a number of replays counts as valid evidence. -/
structure Learned (validEvidenceCount : ℕ) (history : List (Event V F)) (policy : P) : Prop where
  evidence : 0 < validEvidenceCount → HasEvidence history
  tally : contract.tally (validExperiments history) policy

variable {contract} {history : List (Event V F)} {event : Event V F} {status : IncidentStatus}
  {policy : P} {n : ℕ}

theorem Orderly.append (h : Orderly contract history status) (hneutral : event.Neutral)
    (hallowed : Allowed contract history event) :
    Orderly contract (history ++ [event]) status where
  allowed := always_append_singleton.mpr ⟨h.allowed, hallowed⟩
  account := by
    rw [settlesInTurn_append hneutral, h.account, settleable_append]
    exact (and_iff_left (settleable_of_neutral hneutral)).symm
  status := h.status

theorem Orderly.withStatus {status' : IncidentStatus} (h : Orderly contract history status)
    (hstatus : status' ≠ .recovered) : Orderly contract history status' :=
  ⟨h.allowed, h.account, fun heq ↦ absurd heq hstatus⟩

omit [PyFloat F] [ToFloat V F] in
theorem Learned.append (h : Learned contract n history policy) (hpassed : event.passed = false) :
    Learned contract n (history ++ [event]) policy where
  evidence hn := (h.evidence hn).append
  tally := by
    rw [validExperiments_append, hpassed]
    exact h.tally

/-- What holds while an experiment is under way, for which a condition on costs is left. -/
structure Open (contract : Contract P) (handedOut : HandedOut F) (costs : Prop)
    (history : List (Event V F)) (status : IncidentStatus) : Prop where
  allowed : Always (Allowed contract) history
  settleable : Settleable history ↔ Always InTurn history ∧ handedOut.IsOpen ∧ costs
  status : status = .recovered → contract.recovered
  waiting : pending history = handedOut.toOption

/-- What holds between experiments. -/
structure Quiet (contract : Contract P) (validEvidenceCount : ℕ) (history : List (Event V F))
    (status : IncidentStatus) (policy : P) : Prop extends Orderly contract history status,
    Learned contract validEvidenceCount history policy

theorem Quiet.append (h : Quiet contract n history status policy) (hneutral : event.Neutral)
    (hallowed : Allowed contract history event) (hpassed : event.passed = false) :
    Quiet contract n (history ++ [event]) status policy where
  toOrderly := h.toOrderly.append hneutral hallowed
  toLearned := h.toLearned.append hpassed

theorem Quiet.withStatus {status' : IncidentStatus} (h : Quiet contract n history status policy)
    (hstatus : status' ≠ .recovered) : Quiet contract n history status' policy :=
  ⟨h.toOrderly.withStatus hstatus, h.toLearned⟩

omit [PyFloat F] [ToFloat V F] in
theorem Supported.append (h : Supported history) (houtcome : event.outcome? = none) :
    Supported (history ++ [event]) :=
  ⟨(lastOutcome_append houtcome).trans h.1, h.2.append⟩

end Invariants

end DriftGuardX.Incident
