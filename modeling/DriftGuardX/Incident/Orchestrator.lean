import DriftGuardX.Incident.StoppingRule
import DriftGuardX.Memory.Capabilities

/-!
# The orchestrator

`CausalRecoveryOrchestrator.process_incident`: diagnosis, the loop of experiments, and the recovery
that follows when the evidence is confirmed. The collaborators are arbitrary: they act on a world of
their own and may return or raise anything. Some of them are given the incident itself, so they may
also change it; what they reach of a run is a parameter (`Reach`). The loop runs on fuel, and a run
that is out of fuel is still running. What happens in a run is written down in its history.
-/

namespace DriftGuardX.Incident

open Recovery (Raised Dict PyValue)
open Memory (AccessContext SignedCapability)

/-! ## What the collaborators return -/

structure DivergenceReport where
  valid : Bool
  reason : String
  earlyTerminated : Bool

structure ReplayEquivalenceEnvelope (V : Type) where
  traceId : String
  envelopeHash : String
  invariants : List V
  exogenousVariables : Dict V

structure RecoveryValidationResult where
  invariantsSatisfied : Bool
  eligibleForCanary : Bool

/-- What is found under `_reservation` in an experiment: nothing, a reservation, or an object of
another type. -/
inductive HandedOut (F : Type) where
  | nothing
  | reservation (reservation : ResourceReservation F)
  | other (typeName : String)

/-- An experiment of the planner: its reservation and its other entries. -/
structure Experiment (V F : Type) where
  handedOut : HandedOut F
  entries : Dict V

/-- What is recorded in the ledger. -/
structure Certificate (V F : Type) where
  incidentId : String
  traceHash : V
  causalGraphHash : V
  envelopeId : Option String
  envelopeHash : String
  posterior : List (String × F)
  cut : Dict V
  replaysExecuted : ℤ
  totalCostUsd : F
  stopReason : String
  transitionLog : TransitionLog
  telemetry : Option (LoopTelemetry F)

/-- The collaborators, except the stopping policy. An empty trace or graph and a missing cut are the
false values. -/
structure Collaborators (W V F : Type) where
  getTrace : String → Program W Raised (Dict V)
  getCausalGraph : String → Program W Raised (Dict V)
  generateCandidates : IncidentState F → Program W Raised (List (Dict V))
  buildEnvelope : String → List (Dict V) → Program W Raised (ReplayEquivalenceEnvelope V)
  checkAdmissibility : ReplayEquivalenceEnvelope V → Program W Raised Bool
  /-- The planner can also change the resource context. -/
  planNextExperiment : ReplayEquivalenceEnvelope V → List (Dict V) → List (String × F) →
    Program (W × ResourceContext F) Raised (Option (Experiment V F))
  executeReplays : List (Dict V) → Program W Raised (List (Dict V))
  validateDivergence : List (Dict V) → ReplayEquivalenceEnvelope V →
    Program W Raised DivergenceReport
  beliefModel : BeliefModel W V F
  /-- A cut is given by its dump. -/
  solve : List (Dict V) → List (String × F) → Program W Raised (Option (Dict V))
  /-- The cut, the envelope, the spans of the trace if it has any, and the access context. -/
  validateCut : Dict V → ReplayEquivalenceEnvelope V → Option V → AccessContext →
    Program W Raised RecoveryValidationResult
  authorize : RecoveryValidationResult → List SignedCapability → Program W Raised Bool
  recordCertificate : Certificate V F → Program W Raised String

/-- The readings of the monotonic clock and of the clock. -/
structure Clocks (F : Type) where
  monotonic : ℕ → F
  now : ℕ → ℤ

/-! ## The state of a run -/

/-- What happens in a run. -/
inductive Event (V F : Type) where
  /-- The incident enters a status. -/
  | entered (status : IncidentStatus)
  /-- The stopping outcome is set. -/
  | judged (outcome : StoppingOutcome)
  /-- The planner hands out an experiment. -/
  | planned (handedOut : HandedOut F)
  /-- The executor returns the replays of an experiment. -/
  | executed (handedOut : HandedOut F) (replays : List (Dict V))
  /-- A reservation becomes committed or released. -/
  | settled (reservation : ResourceReservation F)
  /-- The replays of an experiment are validated. -/
  | validated (replays : List (Dict V)) (report : DivergenceReport)
  /-- A certificate is handed to the ledger. -/
  | certified (certificate : Certificate V F)
  /-- The envelope id is looked at before the canary. -/
  | checked (envelopeId : Option String)
  /-- The handler is entered. -/
  | caught (status : IncidentStatus) (log : TransitionLog)

structure Session (P W V F : Type) where
  incident : IncidentState F
  context : ResourceContext F
  policy : P
  world : W
  tick : ℕ
  history : List (Event V F)

/-- How far a part of `process_incident` got: it has returned, it is out of fuel, or it goes on. -/
inductive Stage (α : Type) where
  | returned (certId : String)
  | running
  | next (result : α)

variable {P W X V F G α β : Type}

/-- What the collaborators reach of a run. -/
structure Reach (P W X V F : Type) where
  get : Session P W V F → X
  set : Session P W V F → X → Session P W V F

/-- They leave the incident alone. -/
def Reach.aloof : Reach P W W V F := ⟨Session.world, fun s world ↦ { s with world }⟩

/-- They also have the incident. -/
def Reach.involved : Reach P W (W × IncidentState F) V F :=
  ⟨fun s ↦ (s.world, s.incident), fun s x ↦ { s with world := x.1, incident := x.2 }⟩

/-- Going on with the result of a stage. -/
def andThen (x : Program (Session P W V F) Raised (Stage α))
    (f : α → Program (Session P W V F) Raised (Stage β)) :
    Program (Session P W V F) Raised (Stage β) := do
  match ← x with
  | .returned certId => return .returned certId
  | .running => return .running
  | .next a => f a

namespace Session

def record (event : Event V F) : Program (Session P W V F) Raised Unit :=
  Program.modify fun s ↦ { s with history := s.history ++ [event] }

def onIncident (f : IncidentState F → IncidentState F) : Program (Session P W V F) Raised Unit :=
  Program.modify fun s ↦ { s with incident := f s.incident }

/-- A program of the collaborators. -/
def outside (reach : Reach P W X V F) (x : Program X Raised α) :
    Program (Session P W V F) Raised α :=
  Program.zoom reach.get reach.set x

/-- A program of the stopping policy. -/
def onPolicy (reach : Reach P W X V F) (x : Program (PolicyView P X F) Raised α) :
    Program (Session P W V F) Raised α :=
  Program.zoom (fun s ↦ ⟨s.policy, reach.get s, s.context⟩)
    (fun s view ↦ { reach.set s view.world with policy := view.policy, context := view.context }) x

/-- A program of the planner. -/
def onPlanner (reach : Reach P W X V F) (x : Program (X × ResourceContext F) Raised α) :
    Program (Session P W V F) Raised α :=
  Program.zoom (fun s ↦ (reach.get s, s.context))
    (fun s view ↦ { reach.set s view.1 with context := view.2 }) x

/-- `time.monotonic()`. -/
def monotonic (clocks : Clocks F) : Program (Session P W V F) Raised F := fun s ↦
  (.ok (clocks.monotonic s.tick), { s with tick := s.tick + 1 })

/-- `datetime.now(UTC)`. -/
def now (clocks : Clocks F) : Program (Session P W V F) Raised ℤ := fun s ↦
  (.ok (clocks.now s.tick), { s with tick := s.tick + 1 })

/-- `machine.transition`. The status is entered also when the entry of the log cannot be made. -/
def transition (toStatus : IncidentStatus) (reason : String) :
    Program (Session P W V F) Raised Unit := fun s ↦
  let result := IncidentState.transition toStatus reason s.incident
  (result.1, { s with
    incident := result.2
    history := if toStatus ∈ s.incident.status.allowedTransitions
      then s.history ++ [.entered toStatus] else s.history })

/-- Ending the run in a status. -/
def finish (toStatus : IncidentStatus) (reason : String) :
    Program (Session P W V F) Raised (Stage α) := do
  transition toStatus reason
  return .returned ""

end Session

open Session

/-! ## Diagnosis -/

/-- What the diagnosis leaves to the other stages. -/
structure Diagnosis (V : Type) where
  trace : Dict V
  graph : Dict V
  envelope : ReplayEquivalenceEnvelope V
  candidates : List (Dict V)

variable (reach : Reach P W X V F) (collab : Collaborators X V F)

/-- The stages from `OBSERVING` to `REPLAYING`. -/
def diagnose : Program (Session P W V F) Raised (Stage (Diagnosis V)) := do
  transition .failureDetected "Failure target registered."
  let s ← Program.get
  let trace ← outside reach (collab.getTrace s.incident.incidentId)
  if trace = [] then .raise ⟨.valueError, "No trace found."⟩ else do
  let graph ← outside reach (collab.getCausalGraph s.incident.incidentId)
  if graph = [] then .raise ⟨.valueError, "No causal graph found."⟩ else do
  transition .diagnosing "Analyzing trace and graph."
  let s ← Program.get
  let candidates ← outside reach (collab.generateCandidates s.incident)
  if candidates = [] then finish .evidenceInsufficient "No candidate interventions." else do
  let envelope ← outside reach (collab.buildEnvelope s.incident.incidentId candidates)
  onIncident fun incident ↦ { incident with envelopeId := some envelope.traceId }
  let admissible ← outside reach (collab.checkAdmissibility envelope)
  if admissible then do
    transition .replaying "Starting sequential causal experiment loop."
    return .next ⟨trace, graph, envelope, candidates⟩
  else finish .evidenceInsufficient "RAEB admissibility rejected envelope."

/-! ## Experiments -/

/-- The variables of the loop. -/
structure LoopState (V : Type) where
  allReplays : List (Dict V)
  remainingCandidates : List (Dict V)
  validEvidenceCount : ℕ

variable [PyValue V G] [PyFloat F] [ToFloat V F]

/-- `d.get("candidate_id", d.get("id", ""))`. -/
def candidateId (d : Dict V) : V :=
  ((d.get? "candidate_id").or (d.get? "id")).getD (PyValue.str "")

variable (policy : StoppingPolicy P X V F) (clocks : Clocks F)

/-- `is_sufficient`, which sets the outcome. -/
def judge (remainingCandidates : List (Dict V)) : Program (Session P W V F) Raised Verdict := do
  let s ← Program.get
  let verdict ← onPolicy reach
    (policy.isSufficient s.incident collab.beliefModel remainingCandidates)
  record (.judged verdict.outcome)
  return verdict

/-- Releasing what was handed out with an experiment, if anything was. -/
def releaseReservation : HandedOut F → Program (Session P W V F) Raised Unit
  | .nothing => pure ()
  | .other typeName => .raise ⟨.attributeError, s!"'{typeName}' object has no attribute 'release'"⟩
  | .reservation reservation => do
    .modify fun s ↦ { s with context := (reservation.release s.context).2 }
    if reservation.isOpen then record (.settled reservation) else pure ()

/-- `float(replay.get("actual_cost_usd", 0.0))`. -/
def actualCost (replay : Dict V) : Except Raised F :=
  (replay.get? "actual_cost_usd").elim (.ok PyFloat.zero) ToFloat.toFloat

/-- Committing what was handed out with an experiment, if anything was, at what its replays report
to have cost, or at the estimate. -/
def commitReservation (replays : List (Dict V)) (started : F) :
    HandedOut F → Program (Session P W V F) Raised Unit
  | .nothing => pure ()
  | .other typeName => do
    let costs ← .ofExcept (replays.mapM (actualCost (F := F)))
    if PyFloat.le (PyFloat.sum costs) PyFloat.zero then
      .raise ⟨.attributeError, s!"'{typeName}' object has no attribute 'estimate'"⟩
    else .raise ⟨.attributeError, s!"'{typeName}' object has no attribute 'commit'"⟩
  | .reservation reservation => do
    let costs ← .ofExcept (replays.mapM actualCost)
    let reported := PyFloat.sum costs
    let costUsd :=
      if PyFloat.le reported PyFloat.zero then reservation.estimate.costUsd else reported
    let stopped ← monotonic clocks
    let measurement := ⟨costUsd, replays.length, PyFloat.sub stopped started⟩
    .modify fun s ↦ { s with context := (reservation.commit measurement s.context).2 }
    if reservation.isOpen then record (.settled reservation) else pure ()

/-- Executing an experiment and settling its reservation. -/
def executeExperiment (experiment : Experiment V F) :
    Program (Session P W V F) Raised (List (Dict V)) := do
  let started ← monotonic clocks
  let replays ← .attempt (outside reach (collab.executeReplays [experiment.entries])) fun exc ↦ do
    releaseReservation experiment.handedOut
    .raise exc
  record (.executed experiment.handedOut replays)
  commitReservation clocks replays started experiment.handedOut
  return replays

/-- Learning from valid replays. -/
def learn (replays : List (Dict V)) : Program (Session P W V F) Raised Unit := do
  let s ← Program.get
  let posterior ← outside reach (collab.beliefModel.updateBelief s.incident replays)
  onIncident fun incident ↦ { incident with rootCausePosterior := posterior }
  match policy.recordIteration with
  | none => pure ()
  | some recordIteration => do
    let entropy ← outside reach collab.beliefModel.entropy
    onPolicy reach (recordIteration entropy)

/-- An experiment, and the variables of the loop after it. -/
def runExperiment (envelope : ReplayEquivalenceEnvelope V) (loop : LoopState V)
    (experiment : Experiment V F) : Program (Session P W V F) Raised (Stage (LoopState V)) := do
  let replays ← executeExperiment reach collab clocks experiment
  let tested := candidateId experiment.entries
  let loop := { loop with
    allReplays := loop.allReplays ++ replays
    remainingCandidates := loop.remainingCandidates.filter fun candidate ↦
      !PyValue.eq (candidateId candidate) tested }
  let report ← outside reach (collab.validateDivergence replays envelope)
  record (.validated replays report)
  if report.earlyTerminated then
    finish .evidenceInsufficient ("Replay early-terminated: " ++ report.reason)
  else if report.valid then do
    learn reach collab policy replays
    return .next { loop with validEvidenceCount := loop.validEvidenceCount + replays.length }
  else return .next loop

/-- The verdict when the planner has no experiment. -/
def exhausted (loop : LoopState V) : Program (Session P W V F) Raised Verdict := do
  let verdict ← judge reach collab policy []
  if loop.validEvidenceCount = 0 then do
    record (.judged .noAdmissibleExperiment)
    return { verdict with
      outcome := .noAdmissibleExperiment, reason := "No replay passed divergence validation." }
  else return verdict

/-- The planner's choice. -/
def plan (envelope : ReplayEquivalenceEnvelope V) (loop : LoopState V) :
    Program (Session P W V F) Raised (Option (Experiment V F)) := do
  let beliefs ← outside reach collab.beliefModel.currentBeliefs
  let experiment ←
    onPlanner reach (collab.planNextExperiment envelope loop.remainingCandidates beliefs)
  match experiment with
  | none => return none
  | some experiment => do
    record (.planned experiment.handedOut)
    return some experiment

/-- `resource_context.elapsed_seconds = time.monotonic() - loop_start`. -/
def updateElapsed (loopStart : F) : Program (Session P W V F) Raised Unit := do
  let time ← monotonic clocks
  .modify fun s ↦ { s with
    context := { s.context with elapsedSeconds := PyFloat.sub time loopStart } }

/-- A verdict ends the experiments when it stops them, but it confirms nothing without evidence. -/
def Verdict.Stops (verdict : Verdict) (validEvidenceCount : ℕ) : Prop :=
  verdict.shouldStop = true ∧ (verdict.outcome ≠ .confirmed ∨ 0 < validEvidenceCount)

instance (verdict : Verdict) (n : ℕ) : Decidable (verdict.Stops n) :=
  inferInstanceAs (Decidable (_ ∧ _))

/-- The loop of experiments, which ends with a verdict and all replays. -/
def experimentLoop (loopStart : F) (envelope : ReplayEquivalenceEnvelope V) :
    ℕ → LoopState V → Program (Session P W V F) Raised (Stage (Verdict × List (Dict V)))
  | 0, _ => pure .running
  | fuel + 1, loop => do
    updateElapsed clocks loopStart
    let verdict ← judge reach collab policy loop.remainingCandidates
    if verdict.Stops loop.validEvidenceCount then return .next (verdict, loop.allReplays) else do
    match ← plan reach collab envelope loop with
    | none => do
      let verdict ← exhausted reach collab policy loop
      return .next (verdict, loop.allReplays)
    | some experiment =>
      andThen (runExperiment reach collab policy clocks envelope loop experiment)
        (experimentLoop loopStart envelope fuel)

/-! ## Recovery -/

/-- `r.get("status") == "completed"`. -/
def isCompleted (replay : Dict V) : Bool :=
  (replay.get? "status").elim false (PyValue.eq · (PyValue.str "completed"))

/-- The telemetry of the experiments, and whether they confirm anything. -/
def conclude (verdict : Verdict) (allReplays : List (Dict V)) :
    Program (Session P W V F) Raised (Stage Unit) := do
  let beliefs ← outside reach collab.beliefModel.currentBeliefs
  let posteriors := PyFloat.sortDescending (beliefs.map Prod.snd)
  let entropy ← outside reach collab.beliefModel.entropy
  let s ← Program.get
  let telemetry : LoopTelemetry F := {
    stopOutcome := verdict.outcome.value
    stopReason := verdict.reason
    topPosterior := posteriors.headD PyFloat.zero
    posteriorMargin := match posteriors with
      | top :: second :: _ => PyFloat.sub top second
      | _ => PyFloat.zero
    entropy
    replayCount := s.context.replayCount
    validReplayCount := allReplays.countP isCompleted
    invalidReplayCount := allReplays.countP fun r ↦ !isCompleted r
    budgetUsedUsd := s.context.spentUsd
    elapsedSeconds := s.context.elapsedSeconds }
  onIncident fun incident ↦ { incident with telemetry := some telemetry }
  if verdict.outcome = .confirmed then do
    transition .evidenceSufficient ("Evidence confirmed: " ++ verdict.reason)
    return .next ()
  else
    finish .evidenceInsufficient
      ("Evidence insufficient. Outcome: " ++ verdict.outcome.value ++ " - " ++ verdict.reason)

/-- Planning a recovery and validating it. -/
def recover (failureTargets : List (Dict V)) (access : Option AccessContext)
    (diagnosis : Diagnosis V) :
    Program (Session P W V F) Raised (Stage (Dict V × RecoveryValidationResult)) := do
  transition .recoveryPlanning "Solving for minimum causal cut."
  let s ← Program.get
  match ← outside reach (collab.solve failureTargets s.incident.rootCausePosterior) with
  | none => finish .recoveryRejected "Impossible to find valid cut."
  | some cut => do
    transition .recoveryValidating "Validating cut in controlled replay."
    match access with
    | none => finish .recoveryRejected "Missing or expired authenticated recovery access context."
    | some context => do
      let time ← now clocks
      if context.expiresAt < time then
        finish .recoveryRejected "Missing or expired authenticated recovery access context."
      else do
        let result ← outside reach (collab.validateCut cut diagnosis.envelope
          (diagnosis.trace.get? "spans") context)
        if result.invariantsSatisfied then return .next (cut, result)
        else finish .recoveryRejected "Invariant validation failed."

/-- `trace.get("hash", "")`. -/
def hashOf (d : Dict V) : V := (d.get? "hash").getD (PyValue.str "")

def certificate (s : Session P W V F) (diagnosis : Diagnosis V) (cut : Dict V)
    (stopReason : String) : Certificate V F where
  incidentId := s.incident.incidentId
  traceHash := hashOf diagnosis.trace
  causalGraphHash := hashOf diagnosis.graph
  envelopeId := s.incident.envelopeId
  envelopeHash := diagnosis.envelope.envelopeHash
  posterior := s.incident.rootCausePosterior
  cut
  replaysExecuted := s.context.replayCount
  totalCostUsd := s.context.spentUsd
  stopReason
  transitionLog := s.incident.transitionLog
  telemetry := s.incident.telemetry

/-- Authorization, the canary, and what comes after the refusal to fabricate a success. -/
def deploy (access : Option AccessContext) (diagnosis : Diagnosis V) (stopReason : String)
    (cut : Dict V) (result : RecoveryValidationResult) :
    Program (Session P W V F) Raised (Stage Empty) := do
  transition .awaitingAuthorization "Checking policy capabilities."
  let authorized ← outside reach (collab.authorize result (access.elim [] AccessContext.capabilities))
  if ¬ authorized then finish .recoveryRejected "Authorization failed."
  else if ¬ result.eligibleForCanary then
    finish .recoveryRejected "Recovery not eligible for canary deployment."
  else do
    transition .canary "Deploying canary."
    let s ← Program.get
    record (.checked s.incident.envelopeId)
    if (Recovery.nonempty s.incident.envelopeId).isSome then
      finish .recoveryRejected ("Real canary deployments are currently blocked pending production " ++
        "support. Refusing to fabricate recovery success.")
    else do
      let cert := certificate s diagnosis cut stopReason
      record (.certified cert)
      let certId ← outside reach (collab.recordCertificate cert)
      transition .closed "Incident fully resolved."
      return .returned certId

/-! ## The whole -/

/-- The arguments of `process_incident`. -/
structure Call (V F : Type) where
  incident : IncidentState F
  failureTargets : List (Dict V)
  access : Option AccessContext
  budgetUsd : Option F
  timeBudgetSeconds : Option F

/-- The part of `process_incident` that is guarded by the handler. -/
def pipeline (fuel : ℕ) (loopStart : F) (call : Call V F) :
    Program (Session P W V F) Raised (Stage Empty) :=
  andThen (diagnose reach collab) fun diagnosis ↦
  andThen (experimentLoop reach collab policy clocks loopStart diagnosis.envelope fuel
    ⟨[], diagnosis.candidates, 0⟩) fun concluded ↦
  andThen (conclude reach collab concluded.1 concluded.2) fun _ ↦
  andThen (recover reach collab clocks call.failureTargets call.access diagnosis) fun recovery ↦
  deploy reach collab call.access diagnosis concluded.1.reason recovery.1 recovery.2

/-- The statuses that the handler leaves alone. -/
def terminalStates : List IncidentStatus :=
  [.closed, .recovered, .recoveryRejected, .evidenceInsufficient]

/-- The handler of every exception. -/
def failClosed (exc : Raised) : Program (Session P W V F) Raised (Stage Empty) := do
  let s ← Program.get
  record (.caught s.incident.status s.incident.transitionLog)
  if s.incident.status ∈ terminalStates then return .returned ""
  else finish .closed ("Fatal error: " ++ exc.message)

/-- What outlives an incident: the stopping policy, the world of the collaborators, and how often a
clock was read. -/
structure Orchestrator (P W : Type) where
  policy : P
  world : W
  tick : ℕ

/-- The defaults for the budgets of money and time. -/
structure Defaults (F : Type) where
  budgetUsd : F
  timeBudgetSeconds : F

/-- The state in which the run of an incident begins: the clock has been read once. -/
def start (defaults : Defaults F) (call : Call V F) (orchestrator : Orchestrator P W) :
    Session P W V F where
  incident := call.incident
  context := .new (orDefault call.budgetUsd defaults.budgetUsd)
    (orDefault call.timeBudgetSeconds defaults.timeBudgetSeconds)
  policy := orchestrator.policy
  world := orchestrator.world
  tick := orchestrator.tick + 1
  history := []

/-- `process_incident`: how far it got, or what it raised, and the state that it leaves. -/
def processIncidentWith (defaults : Defaults F) (fuel : ℕ) (call : Call V F)
    (orchestrator : Orchestrator P W) : Except Raised (Stage Empty) × Session P W V F :=
  Program.attempt (pipeline reach collab policy clocks fuel (clocks.monotonic orchestrator.tick)
    call) failClosed (start defaults call orchestrator)

/-- `process_incident`, when the collaborators leave the incident alone. -/
abbrev processIncident (collab : Collaborators W V F) (policy : StoppingPolicy P W V F)
    (clocks : Clocks F) (defaults : Defaults F) (fuel : ℕ) (call : Call V F)
    (orchestrator : Orchestrator P W) : Except Raised (Stage Empty) × Session P W V F :=
  processIncidentWith .aloof collab policy clocks defaults fuel call orchestrator

end DriftGuardX.Incident
