import DriftGuardX.Incident.Discipline

/-!
# Recovery on evidence

For every choice of collaborators, recovery is planned only on a confirmed outcome and on validated
replays, and a run that returns leaves the incident in one of three statuses. Reservations are
settled in turn, but one that is handed out without a resource context, or was settled before, and
one whose experiment reports costs that cannot be read are left waiting: `plansOnlyOnEvidence_iff`
says exactly that.
-/

namespace DriftGuardX.Incident

open Recovery (Raised Dict PyValue)
open Json (Scalar)
open History

variable {P W V F G : Type}

/-- Recovery is planned when the last outcome was confirmed and a replay was in a batch whose
divergence report was valid. -/
def PlansOnEvidence (history : List (Event V F)) : Prop :=
  Always (fun before event ↦ event = .entered .recoveryPlanning → Supported before) history

/-- The guarantees of a run of an incident. -/
structure PlansOnlyOnEvidence (incident : IncidentState F)
    (run : Except Raised (Stage Empty) × Session P W V F) : Prop where
  planning : PlansOnEvidence run.2.history
  settlement : SettlesInTurn run.2.history
  ends : ∀ certId, run.1 = .ok (.returned certId) → incident.status ≠ .recovered →
    run.2.incident.status ∈ endStatuses

section Runs

variable [PyValue V G] [PyFloat F] [ToFloat V F] {contract : Contract P}
  {policy : StoppingPolicy P W V F} {collab : Collaborators W V F} {clocks : Clocks F}

omit [PyFloat F] [ToFloat V F] in
theorem planned_of_allowed {before : List (Event V F)} {event : Event V F}
    (h : Allowed contract before event) (heq : event = .entered .recoveryPlanning) :
    Supported before := by
  subst heq
  exact h

/-- **Recovery on evidence.** A run gives its guarantees exactly when every reservation that the
planner hands out is open, and every batch of replays that was executed under a reservation reports
costs that can be read. -/
theorem plansOnlyOnEvidence_iff (policy : StoppingPolicy P W V F) (collab : Collaborators W V F)
    (clocks : Clocks F) (defaults : Defaults F) (fuel : ℕ) (call : Call V F)
    (orchestrator : Orchestrator P W) :
    PlansOnlyOnEvidence call.incident
        (processIncident collab policy clocks defaults fuel call orchestrator) ↔
      Settleable
        (processIncident collab policy clocks defaults fuel call orchestrator).2.history := by
  obtain ⟨horderly, hended⟩ := processIncident_orderly
    (Contract.trivial_meets policy (call.incident.status = .recovered)) collab clocks defaults fuel
    call orchestrator trivial id
  constructor
  · intro h
    exact horderly.account.mp h.settlement
  · intro hsettleable
    refine ⟨horderly.allowed.mono fun _ _ ↦ planned_of_allowed, horderly.account.mpr hsettleable, ?_⟩
    intro certId hreturned hstatus
    exact (hended certId hreturned).status.resolve_right hstatus

end Runs

/-! ## A cost that cannot be read -/

section Obliging

variable [PyValue V G] [PyFloat F]

/-- Collaborators that find candidates and with which everything goes well, with given envelopes, an
experiment and the replays that it returns. -/
def obliging (candidates : List (Dict V))
    (buildEnvelope : String → List (Dict V) → Program W Raised (ReplayEquivalenceEnvelope V))
    (experiment : Experiment V F) (replays : List (Dict V)) : Collaborators W V F where
  getTrace _ := pure [("hash", PyValue.str "t")]
  getCausalGraph _ := pure [("hash", PyValue.str "g")]
  generateCandidates _ := pure candidates
  buildEnvelope
  checkAdmissibility _ := pure true
  planNextExperiment _ _ _ := pure (some experiment)
  executeReplays _ := pure replays
  validateDivergence _ _ := pure ⟨true, "", false⟩
  beliefModel := ⟨fun _ _ ↦ pure [], pure [], pure PyFloat.zero⟩
  solve _ _ := pure (some [])
  validateCut _ _ _ _ := pure ⟨true, true⟩
  authorize _ _ := pure true
  recordCertificate _ := pure "cert"

/-- A policy that confirms at once. -/
def eagerPolicy : StoppingPolicy Unit W V F where
  isSufficient _ _ _ := pure ⟨true, .confirmed, ""⟩
  recordIteration := none

/-- A call for a new incident, with an access context that does not expire while the clock stands
still. -/
def freshCall (incidentId : String) : Call V F where
  incident := ⟨incidentId, .observing, [], none, .absent, none⟩
  failureTargets := []
  access := some ⟨"r", "t", [], 0⟩
  budgetUsd := none
  timeBudgetSeconds := none

def stoppedClocks : Clocks F := ⟨fun _ ↦ PyFloat.zero, fun _ ↦ 0⟩

end Obliging

/-- `float` of the scalars that are whole numbers. -/
instance : ToFloat (Scalar Empty) ℤ where
  toFloat
    | .null => .error
        ⟨.typeError, "float() argument must be a string or a real number, not 'NoneType'"⟩
    | .bool b => .ok (if b then 1 else 0)
    | .int i => .ok i
    | .float f => f.elim
    | .str s => s.toInt?.elim
        (.error ⟨.valueError, "could not convert string to float: '" ++ s ++ "'"⟩) .ok

def sampleReservation : ResourceReservation ℤ where
  estimate := ⟨1, 1, 1⟩
  reservationId := "r"
  committed := false
  released := false
  context := .incident

/-- A replay that reports no number as its cost. -/
def unreadableReplay : Dict (Scalar Empty) := [("actual_cost_usd", .null)]

/-- The reservation of that replay is neither committed nor released. -/
theorem not_plansOnlyOnEvidence_unreadable :
    ¬ PlansOnlyOnEvidence (freshCall "i" : Call (Scalar Empty) ℤ).incident
      (processIncident
        (obliging [[]] (fun _ _ ↦ pure ⟨"t", "", [], []⟩) ⟨.reservation sampleReservation, []⟩
          [unreadableReplay])
        eagerPolicy stoppedClocks ⟨5, 300⟩ 3 (freshCall "i") ⟨(), (), 0⟩) := by
  intro h
  exact absurd h.settlement.2 (Option.some_ne_none sampleReservation)

end DriftGuardX.Incident
