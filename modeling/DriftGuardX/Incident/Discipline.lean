import DriftGuardX.Foundation.Transaction
import DriftGuardX.Incident.Histories

/-!
# The discipline of a run

What every run of the orchestrator keeps to, whatever its collaborators do. Each stage has a triple
whose postcondition for exceptions is `Orderly`, so the handler finds an orderly run wherever the
exception comes from. `processIncident_orderly` is the result on runs, from which the guarantees of
the orchestrator are read off.
-/

namespace DriftGuardX.Incident

open Recovery (Raised Dict PyValue)
open History Program Session Transaction
open Memory (AccessContext)

variable {P W V F G α β : Type} [PyFloat F] [ToFloat V F] {contract : Contract P}

/-! ## Postconditions -/

/-- What an exception leaves behind. -/
abbrev Broken (contract : Contract P) (_ : Raised) (s : Session P W V F) : Prop :=
  Orderly contract s.history s.incident.status

/-- The statuses in which a run ends. -/
def endStatuses : List IncidentStatus := [.evidenceInsufficient, .recoveryRejected, .closed]

/-- What holds when a run returns. -/
structure Ended (contract : Contract P) (s : Session P W V F) : Prop where
  orderly : Orderly contract s.history s.incident.status
  status : s.incident.status ∈ endStatuses ∨ contract.recovered

/-- What holds after a stage. -/
def After (contract : Contract P) (good : α → Session P W V F → Prop) :
    Stage α → Session P W V F → Prop
  | .returned _, s => Ended contract s
  | .running, s => Orderly contract s.history s.incident.status
  | .next a, s => good a s

/-- What holds between experiments. -/
abbrev Idle (contract : Contract P) (n : ℕ) (s : Session P W V F) : Prop :=
  Quiet contract n s.history s.incident.status s.policy

/-! ## Rules -/

variable {pre : Session P W V F → Prop}

theorem triple_andThen {x : Program (Session P W V F) Raised (Stage α)}
    {f : α → Program (Session P W V F) Raised (Stage β)} {good : α → Session P W V F → Prop}
    {good' : β → Session P W V F → Prop} (hx : Triple pre x (After contract good) (Broken contract))
    (hf : ∀ a, Triple (good a) (f a) (After contract good') (Broken contract)) :
    Triple pre (andThen x f) (After contract good') (Broken contract) := by
  refine hx.bind fun stage ↦ ?_
  cases stage with
  | returned certId => exact triple_pure fun _ h ↦ h
  | running => exact triple_pure fun _ h ↦ h
  | next a => exact hf a

theorem triple_outside (x : Program W Raised α)
    (hpre : ∀ s, pre s → Orderly contract s.history s.incident.status)
    (hframe : ∀ s w, pre s → pre { s with world := w }) :
    Triple pre (outside .aloof x) (fun _ ↦ pre) (Broken contract) :=
  (keeps_zoom hframe : Keeps pre (outside .aloof x)).weaken (fun _ h ↦ h) (fun _ _ h ↦ h) fun _ s ↦ hpre s

omit [PyFloat F] [ToFloat V F] in
theorem keeps_monotonic (clocks : Clocks F) (hframe : ∀ s tick, pre s → pre { s with tick }) :
    Triple pre (monotonic clocks) (fun _ ↦ pre) (fun (_ : Raised) _ ↦ False) :=
  triple_returns (fun _ ↦ rfl) fun s hs ↦ hframe s _ hs

theorem triple_monotonic (clocks : Clocks F) (hframe : ∀ s tick, pre s → pre { s with tick }) :
    Triple pre (monotonic clocks) (fun _ ↦ pre) (Broken contract) :=
  (keeps_monotonic clocks hframe).weaken (fun _ h ↦ h) (fun _ _ h ↦ h) fun _ _ h ↦ h.elim

/-- The session after a status is entered. -/
def Session.enter (s : Session P W V F) (toStatus : IncidentStatus) (log : TransitionLog) :
    Session P W V F :=
  { s with
    incident := { s.incident with status := toStatus, transitionLog := log }
    history := s.history ++ [.entered toStatus] }

/-- A transition may raise before or after it has entered the status. -/
theorem triple_transition {toStatus : IncidentStatus} {reason : String}
    {post : Session P W V F → Prop}
    (hpre : ∀ s, pre s → Orderly contract s.history s.incident.status)
    (hpost : ∀ s log, pre s → post (s.enter toStatus log))
    (horderly : ∀ s, pre s → Orderly contract (s.history ++ [.entered toStatus]) toStatus) :
    Triple pre (transition toStatus reason) (fun _ ↦ post) (Broken contract) := by
  intro s hs
  rcases IncidentState.transition_cases toStatus reason s.incident with
    ⟨hallowed, log, hstate⟩ | ⟨hallowed, e, hraises⟩
  · have hsession : (transition toStatus reason s).2 = s.enter toStatus log := by
      rw [transition, hstate, if_pos hallowed, Session.enter]
    refine ⟨fun a s' heq ↦ ?_, fun e s' heq ↦ ?_⟩
    · obtain rfl : s' = s.enter toStatus log := hsession ▸ (congrArg Prod.snd heq).symm
      exact hpost s log hs
    · obtain rfl : s' = s.enter toStatus log := hsession ▸ (congrArg Prod.snd heq).symm
      exact horderly s hs
  · have hsession : transition toStatus reason s = (.error e, s) := by
      rw [transition, hraises, if_neg hallowed]
    exact ends_of_error hsession (hpre s hs)

/-- A status whose entry presupposes nothing. -/
def Free (status : IncidentStatus) : Prop :=
  status ∉ [IncidentStatus.recoveryPlanning, .evidenceSufficient, .recovered]

instance (status : IncidentStatus) : Decidable (Free status) :=
  inferInstanceAs (Decidable (_ ∉ _))

omit [PyFloat F] [ToFloat V F] in
theorem allowed_of_free {status : IncidentStatus} (h : Free status) (before : List (Event V F)) :
    Allowed contract before (.entered status) := by
  cases status with
  | recoveryPlanning | evidenceSufficient => exact absurd h (by decide)
  | _ => trivial

theorem orderly_enter {status toStatus : IncidentStatus} {history : List (Event V F)}
    (h : Orderly contract history status) (hfree : Free toStatus) :
    Orderly contract (history ++ [.entered toStatus]) toStatus := by
  have hne : toStatus ≠ .recovered := by
    rintro rfl
    exact absurd hfree (by decide)
  have hneutral : (Event.entered toStatus : Event V F).Neutral := trivial
  exact (h.append hneutral (allowed_of_free hfree history)).withStatus hne

theorem Idle.enter {n : ℕ} {s : Session P W V F} {toStatus : IncidentStatus} {log : TransitionLog}
    (h : Idle contract n s) (hfree : Free toStatus) : Idle contract n (s.enter toStatus log) := by
  have hne : toStatus ≠ .recovered := by
    rintro rfl
    exact absurd hfree (by decide)
  have hneutral : (Event.entered toStatus : Event V F).Neutral := trivial
  exact (Quiet.append h hneutral (allowed_of_free hfree s.history) rfl).withStatus hne

theorem triple_advance_idle {n : ℕ} {toStatus : IncidentStatus} {reason : String}
    (hfree : Free toStatus) : Triple (Idle contract n)
      (transition toStatus reason : Program (Session P W V F) Raised Unit)
      (fun _ ↦ Idle contract n) (Broken contract) :=
  triple_transition (fun _ h ↦ h.toOrderly) (fun _ _ h ↦ Idle.enter h hfree)
    fun _ h ↦ orderly_enter h.toOrderly hfree

theorem triple_finish {toStatus : IncidentStatus} {reason : String}
    {good : α → Session P W V F → Prop} (hend : toStatus ∈ endStatuses)
    (hpre : ∀ s, pre s → Orderly contract s.history s.incident.status) :
    Triple pre (finish toStatus reason) (After contract good) (Broken contract) := by
  have hfree : Free toStatus := by
    simp only [endStatuses, List.mem_cons, List.not_mem_nil, or_false] at hend
    rcases hend with rfl | rfl | rfl <;> decide
  have htransition : Triple pre (transition toStatus reason)
      (fun _ ↦ Ended contract) (Broken contract) :=
    triple_transition hpre (fun s _ hs ↦ ⟨orderly_enter (hpre s hs) hfree, Or.inl hend⟩)
      fun s hs ↦ orderly_enter (hpre s hs) hfree
  exact htransition.bind fun _ ↦ triple_pure fun _ h ↦ h

/-! ## Stages -/

section Stages

variable {policy : StoppingPolicy P W V F} {collab : Collaborators W V F} {clocks : Clocks F}

theorem triple_diagnose : Triple (Idle contract 0) (diagnose .aloof collab)
    (After contract fun _ ↦ Idle contract 0) (Broken contract) := by
  have horderly : ∀ s : Session P W V F, Idle contract 0 s →
      Orderly contract s.history s.incident.status := fun _ h ↦ h.toOrderly
  have hraise : ∀ e : Raised, Triple (Idle contract 0)
      (raise e : Program (Session P W V F) Raised (Stage (Diagnosis V)))
      (After contract fun _ ↦ Idle contract 0) (Broken contract) := fun e ↦ triple_raise horderly
  refine (triple_advance_idle (by decide)).bind fun _ ↦ ?_
  refine Triple.bind (triple_get fun _ h ↦ h) fun _ ↦ ?_
  refine (triple_outside _ horderly fun _ _ h ↦ h).bind fun trace ↦ ?_
  split
  · exact hraise _
  refine (triple_outside _ horderly fun _ _ h ↦ h).bind fun graph ↦ ?_
  split
  · exact hraise _
  refine (triple_advance_idle (by decide)).bind fun _ ↦ ?_
  refine Triple.bind (triple_get fun _ h ↦ h) fun _ ↦ ?_
  refine (triple_outside _ horderly fun _ _ h ↦ h).bind fun candidates ↦ ?_
  split
  · exact triple_finish (by decide) horderly
  refine (triple_outside _ horderly fun _ _ h ↦ h).bind fun envelope ↦ ?_
  have hset : Triple (Idle contract 0) (onIncident fun incident ↦
        { incident with envelopeId := some envelope.traceId })
      (fun _ (s : Session P W V F) ↦ Idle contract 0 s) (Broken contract) :=
    triple_modify fun _ h ↦ h
  refine hset.bind fun _ ↦ ?_
  refine (triple_outside _ horderly fun _ _ h ↦ h).bind fun admissible ↦ ?_
  split
  · exact (triple_advance_idle (by decide)).bind fun _ ↦ triple_pure fun _ h ↦ h
  · exact triple_finish (by decide) horderly

/-! ## Experiments -/

/-- The session while an experiment is under way. -/
def Opened (contract : Contract P) (n : ℕ) (handedOut : HandedOut F) (costs : Prop)
    (s : Session P W V F) : Prop :=
  Open contract handedOut costs s.history s.incident.status ∧ Learned contract n s.history s.policy

section Open

variable {handedOut : HandedOut F} {r : ResourceReservation F} {costs : Prop}
  {history : List (Event V F)} {status : IncidentStatus}

theorem Open.orderly_of_none (h : Open contract handedOut costs history status)
    (hnone : handedOut.toOption = none) (hcosts : costs) : Orderly contract history status := by
  have hopen : handedOut.IsOpen := by
    cases handedOut with
    | reservation r => exact absurd hnone (Option.some_ne_none r)
    | _ => trivial
  refine ⟨h.allowed, ?_, h.status⟩
  rw [SettlesInTurn, h.waiting, h.settleable]
  exact and_congr_right fun _ ↦ iff_of_true hnone ⟨hopen, hcosts⟩

theorem Open.orderly_of_not (h : Open contract (.reservation r) costs history status)
    (hnot : ¬ (r.isOpen = true ∧ costs)) : Orderly contract history status := by
  refine ⟨h.allowed, iff_of_false (fun hturn ↦ ?_) fun hsettleable ↦ ?_, h.status⟩
  · exact Option.some_ne_none r (h.waiting.symm.trans hturn.2)
  · exact hnot (h.settleable.mp hsettleable).2

theorem Open.settle (h : Open contract (.reservation r) costs history status)
    (hopen : r.isOpen = true) (hcosts : costs) :
    Orderly contract (history ++ [.settled r]) status := by
  refine ⟨always_append_singleton.mpr ⟨h.allowed, trivial⟩, ?_, h.status⟩
  have hpending : pending (history ++ [.settled r]) = none := pending_append
  rw [SettlesInTurn, always_append_singleton, hpending, settleable_append, h.settleable]
  constructor
  · exact fun hturn ↦ ⟨⟨hturn.1.1, hopen, hcosts⟩, trivial⟩
  · exact fun hturn ↦ ⟨⟨hturn.1.1, h.waiting⟩, rfl⟩

end Open

theorem triple_settle {n : ℕ} (r : ResourceReservation F) :
    Triple (Opened contract n (.reservation r) True)
      (if r.isOpen then record (.settled r) else pure () :
        Program (Session P W V F) Raised Unit) (fun _ ↦ Idle contract n) (Broken contract) := by
  split
  · rename_i hopen
    exact triple_modify fun s hs ↦ ⟨hs.1.settle hopen trivial, hs.2.append rfl⟩
  · rename_i hclosed
    exact triple_pure fun s hs ↦ ⟨hs.1.orderly_of_not fun h ↦ hclosed h.1, hs.2⟩

theorem triple_releaseReservation {n : ℕ} (handedOut : HandedOut F) :
    Triple (Opened contract n handedOut True)
      (releaseReservation handedOut : Program (Session P W V F) Raised Unit)
      (fun _ s ↦ Orderly contract s.history s.incident.status) (Broken contract) := by
  cases handedOut with
  | nothing => exact triple_pure fun s hs ↦ hs.1.orderly_of_none rfl trivial
  | other typeName => exact triple_raise fun s hs ↦ hs.1.orderly_of_none rfl trivial
  | reservation r =>
    have hcontext : Triple (Opened contract n (.reservation r) True)
        (modify fun s : Session P W V F ↦ { s with context := (r.release s.context).2 })
        (fun _ ↦ Opened contract n (.reservation r) True) (Broken contract) :=
      triple_modify fun _ h ↦ h
    exact hcontext.bind fun _ ↦
      (triple_settle r).weaken (fun _ h ↦ h) (fun _ _ h ↦ h.toOrderly) fun _ _ h ↦ h

theorem triple_commitReservation {n : ℕ} (replays : List (Dict V)) (started : F)
    (handedOut : HandedOut F) :
    Triple (fun s : Session P W V F ↦ Opened contract n handedOut (handedOut.ToRead replays) s)
      (commitReservation clocks replays started handedOut)
      (fun _ ↦ Idle contract n) (Broken contract) := by
  cases handedOut with
  | nothing => exact triple_pure fun s hs ↦ ⟨hs.1.orderly_of_none rfl trivial, hs.2⟩
  | other typeName =>
    have hbroken : ∀ s : Session P W V F,
        Opened contract n (.other typeName) ((HandedOut.other typeName).ToRead (F := F) replays) s →
          Orderly contract s.history s.incident.status :=
      fun s hs ↦ hs.1.orderly_of_none rfl trivial
    refine Triple.bind (triple_ofExcept (fun _ _ _ h ↦ h) fun _ _ ↦ hbroken) fun costs ↦ ?_
    split
    · exact triple_raise hbroken
    · exact triple_raise hbroken
  | reservation r =>
    -- the costs can be read, or the reservation waits for ever
    have hcosts : Triple
        (fun s : Session P W V F ↦
          Opened contract n (.reservation r) ((HandedOut.reservation r).ToRead replays) s)
        (ofExcept (replays.mapM actualCost))
        (fun (_ : List F) ↦ Opened contract n (.reservation r) True) (Broken contract) := by
      refine triple_ofExcept (fun costs h s hs ↦ ?_) fun e h s hs ↦ ?_
      · have hread : (HandedOut.reservation r).ToRead replays :=
          exists_mapM_eq_ok_iff.mp ⟨costs, h⟩
        have hsettleable := hs.1.settleable
        rw [iff_true_intro hread] at hsettleable
        exact ⟨⟨hs.1.allowed, hsettleable, hs.1.status, hs.1.waiting⟩, hs.2⟩
      · refine hs.1.orderly_of_not fun hread ↦ ?_
        obtain ⟨costs, hok⟩ := exists_mapM_eq_ok_iff.mpr hread.2
        exact absurd (hok.symm.trans h) (by simp)
    refine hcosts.bind fun costs ↦ (triple_monotonic clocks fun _ _ h ↦ h).bind fun stopped ↦ ?_
    have hcontext : ∀ f : ResourceContext F → ResourceContext F,
        Triple (Opened contract n (.reservation r) True)
          (modify fun s : Session P W V F ↦ { s with context := f s.context })
          (fun _ ↦ Opened contract n (.reservation r) True) (Broken contract) :=
      fun f ↦ triple_modify fun _ h ↦ h
    exact (hcontext fun context ↦ (r.commit _ context).2).bind fun _ ↦ triple_settle r

theorem triple_executeExperiment {n : ℕ} (experiment : Experiment V F) :
    Triple (fun s : Session P W V F ↦ Opened contract n experiment.handedOut True s)
      (executeExperiment .aloof collab clocks experiment) (fun _ ↦ Idle contract n)
      (Broken contract) := by
  refine (triple_monotonic clocks fun _ _ h ↦ h).bind fun started ↦ ?_
  have hexecute : Triple (fun s : Session P W V F ↦ Opened contract n experiment.handedOut True s)
      (attempt (outside .aloof (collab.executeReplays [experiment.entries])) fun exc ↦ do
        releaseReservation experiment.handedOut
        raise exc)
      (fun _ ↦ Opened contract n experiment.handedOut True) (Broken contract) := by
    refine Triple.attempt (keeps_zoom fun _ _ h ↦ h) fun exc ↦ ?_
    exact (triple_releaseReservation experiment.handedOut).bind fun _ ↦ triple_raise fun _ h ↦ h
  refine hexecute.bind fun replays ↦ ?_
  have hrecord : Triple (fun s : Session P W V F ↦ Opened contract n experiment.handedOut True s)
      (record (.executed experiment.handedOut replays))
      (fun _ s ↦ Opened contract n experiment.handedOut (experiment.handedOut.ToRead replays) s)
      (Broken contract) := by
    refine triple_modify fun s hs ↦ ⟨⟨?_, ?_, hs.1.status, ?_⟩, hs.2.append rfl⟩
    · exact always_append_singleton.mpr ⟨hs.1.allowed, trivial⟩
    · rw [settleable_append, always_append_singleton, hs.1.settleable]
      exact ⟨fun h ↦ ⟨⟨h.1.1, trivial⟩, h.1.2.1, h.2⟩, fun h ↦ ⟨⟨h.1.1, h.2.1, trivial⟩, h.2.2⟩⟩
    · exact pending_append.trans hs.1.waiting
  refine hrecord.bind fun _ ↦ ?_
  exact (triple_commitReservation replays started experiment.handedOut).bind fun _ ↦
    triple_pure fun _ h ↦ h

/-- What holds between experiments once the outcome is set. -/
def Judged (contract : Contract P) (n : ℕ) (outcome : StoppingOutcome) (s : Session P W V F) :
    Prop :=
  Idle contract n s ∧ lastOutcome s.history = some outcome ∧
    (outcome = .confirmed → contract.enough (validExperiments s.history))

theorem Idle.judged {n : ℕ} {s : Session P W V F} {outcome : StoppingOutcome}
    (h : Idle contract n s)
    (henough : outcome = .confirmed → contract.enough (validExperiments s.history)) :
    Judged contract n outcome { s with history := s.history ++ [.judged outcome] } := by
  refine ⟨Quiet.append h trivial trivial rfl, lastOutcome_append_judged outcome, ?_⟩
  intro hconfirmed
  rw [validExperiments_append]
  exact henough hconfirmed

theorem triple_judge (hmeets : contract.Meets policy) {n : ℕ}
    (remainingCandidates : List (Dict V)) :
    Triple (fun s : Session P W V F ↦ Idle contract n s)
      (judge .aloof collab policy remainingCandidates)
      (fun verdict ↦ Judged contract n verdict.outcome) (Broken contract) := by
  refine Triple.bind (triple_get fun _ h ↦ h) fun s₀ ↦ ?_
  have hjudges : Triple (fun s : Session P W V F ↦ Idle contract n s)
      (onPolicy .aloof (policy.isSufficient s₀.incident collab.beliefModel remainingCandidates))
      (fun verdict s ↦ Idle contract n s ∧
        (verdict.outcome = .confirmed → contract.enough (validExperiments s.history)))
      (Broken contract) := by
    refine triple_zoom (fun s hs verdict view hrun ↦ ?_) fun _ hs _ _ _ ↦ hs.toOrderly
    have htally := hmeets.judges (validExperiments s.history) s₀.incident collab.beliefModel
      remainingCandidates ⟨s.policy, s.world, s.context⟩ hs.tally
    obtain ⟨hkept, henough⟩ := htally.1 verdict view hrun
    exact ⟨⟨hs.toOrderly, ⟨hs.evidence, hkept⟩⟩, henough⟩
  refine hjudges.bind fun verdict ↦ ?_
  have hrecord : Triple
      (fun s : Session P W V F ↦ Idle contract n s ∧
        (verdict.outcome = .confirmed → contract.enough (validExperiments s.history)))
      (record (.judged verdict.outcome)) (fun _ ↦ Judged contract n verdict.outcome)
      (Broken contract) := triple_modify fun s hs ↦ Idle.judged hs.1 hs.2
  exact hrecord.bind fun _ ↦ triple_pure fun _ h ↦ h

/-- The end of the loop. -/
def Concluded (contract : Contract P) (outcome : StoppingOutcome) (s : Session P W V F) : Prop :=
  (∃ n, Judged contract n outcome s) ∧ (outcome = .confirmed → HasEvidence s.history)

theorem Judged.concluded {n : ℕ} {outcome : StoppingOutcome} {s : Session P W V F}
    (h : Judged contract n outcome s) (hn : outcome ≠ .confirmed ∨ 0 < n) :
    Concluded contract outcome s := by
  refine ⟨⟨n, h⟩, fun hconfirmed ↦ h.1.evidence ?_⟩
  exact hn.resolve_left (not_not.mpr hconfirmed)

theorem triple_exhausted (hmeets : contract.Meets policy) (loop : LoopState V) :
    Triple (fun s : Session P W V F ↦ Idle contract loop.validEvidenceCount s)
      (exhausted .aloof collab policy loop) (fun verdict ↦ Concluded contract verdict.outcome)
      (Broken contract) := by
  refine (triple_judge hmeets []).bind fun verdict ↦ ?_
  split
  · refine Triple.bind (triple_modify fun s hs ↦ ?_) fun _ ↦ triple_pure fun _ h ↦ h
    exact (Idle.judged hs.1 fun h ↦ absurd h (by simp)).concluded (Or.inl (by simp))
  · rename_i hcount
    exact triple_pure fun s hs ↦ hs.concluded (Or.inr (Nat.pos_of_ne_zero hcount))

theorem triple_plan {n : ℕ} (envelope : ReplayEquivalenceEnvelope V) (loop : LoopState V) :
    Triple (fun s : Session P W V F ↦ Idle contract n s) (plan .aloof collab envelope loop)
      (fun experiment s ↦ experiment.elim (Idle contract n s) fun experiment ↦
        Opened contract n experiment.handedOut True s) (Broken contract) := by
  refine (triple_outside _ (fun _ h ↦ h.toOrderly) fun _ _ h ↦ h).bind fun beliefs ↦ ?_
  have hkeeps : Keeps (fun s : Session P W V F ↦ Idle contract n s)
      (onPlanner .aloof (collab.planNextExperiment envelope loop.remainingCandidates beliefs)) :=
    keeps_zoom fun _ _ h ↦ h
  have hplanner := hkeeps.weaken (fun _ h ↦ h) (fun _ _ h ↦ h) fun _ _ h ↦ h.toOrderly
  refine hplanner.bind fun experiment ↦ ?_
  cases experiment with
  | none => exact triple_pure fun _ h ↦ h
  | some experiment =>
    refine Triple.bind (triple_modify fun s hs ↦ ?_) fun _ ↦ triple_pure fun _ h ↦ h
    refine ⟨⟨always_append_singleton.mpr ⟨hs.allowed, trivial⟩, ?_, hs.status, pending_append⟩,
      hs.toLearned.append rfl⟩
    rw [settleable_append, always_append_singleton, ← hs.account]
    exact ⟨fun h ↦ ⟨h.1, h.2, trivial⟩, fun h ↦ ⟨h.1, h.2.1⟩⟩

/-- What holds when replays have passed validation and are about to be learned from. -/
def Learning (contract : Contract P) (n : ℕ) (s : Session P W V F) : Prop :=
  Orderly contract s.history s.incident.status ∧ (0 < n → HasEvidence s.history) ∧
    ∃ m, validExperiments s.history = m + 1 ∧ contract.tally m s.policy

theorem triple_learn (hmeets : contract.Meets policy) {n : ℕ} (replays : List (Dict V)) :
    Triple (fun s : Session P W V F ↦ Learning contract n s) (learn .aloof collab policy replays)
      (fun _ ↦ Idle contract n) (Broken contract) := by
  refine Triple.bind (triple_get fun _ h ↦ h) fun s₀ ↦ ?_
  refine (triple_outside _ (fun _ h ↦ h.1) fun _ _ h ↦ h).bind fun posterior ↦ ?_
  have hposterior : Triple (fun s : Session P W V F ↦ Learning contract n s)
      (onIncident fun incident ↦ { incident with rootCausePosterior := posterior })
      (fun _ ↦ Learning contract n) (Broken contract) := triple_modify fun _ h ↦ h
  refine hposterior.bind fun _ ↦ ?_
  split
  · rename_i hnone
    refine triple_pure fun s hs ↦ ?_
    obtain ⟨horderly, hevidence, m, hm, htally⟩ := hs
    exact ⟨horderly, ⟨hevidence, hm ▸ hmeets.skips hnone m s.policy htally⟩⟩
  · rename_i recordIteration hsome
    refine (triple_outside _ (fun _ h ↦ h.1) fun _ _ h ↦ h).bind fun entropy ↦ ?_
    -- the policy adds the experiment to its tally
    refine triple_zoom (fun s hs u view hrun ↦ ?_) fun _ hs _ _ _ ↦ hs.1
    obtain ⟨horderly, hevidence, m, hm, htally⟩ := hs
    have hrecords := hmeets.records recordIteration hsome m entropy ⟨s.policy, s.world, s.context⟩
      htally
    exact ⟨horderly, ⟨hevidence, hm ▸ hrecords.1 u view hrun⟩⟩

theorem triple_runExperiment (hmeets : contract.Meets policy)
    (envelope : ReplayEquivalenceEnvelope V) (loop : LoopState V) (experiment : Experiment V F)
    [PyValue V G] :
    Triple (fun s : Session P W V F ↦
        Opened contract loop.validEvidenceCount experiment.handedOut True s)
      (runExperiment .aloof collab policy clocks envelope loop experiment)
      (After contract fun loop ↦ Idle contract loop.validEvidenceCount) (Broken contract) := by
  refine (triple_executeExperiment experiment).bind fun replays ↦ ?_
  refine (triple_outside _ (fun _ h ↦ h.toOrderly) fun _ _ h ↦ h).bind fun report ↦ ?_
  -- what is recorded of the validation depends on its report
  have hrecord : Triple (fun s : Session P W V F ↦ Idle contract loop.validEvidenceCount s)
      (record (.validated replays report))
      (fun _ s ↦ Orderly contract s.history s.incident.status ∧
        (report.earlyTerminated = false → report.valid = true →
          Learning contract (loop.validEvidenceCount + replays.length) s) ∧
        (report.valid = false → Idle contract loop.validEvidenceCount s)) (Broken contract) := by
    refine triple_modify fun s hs ↦ ⟨?_, fun hearly hvalid ↦ ?_, fun hvalid ↦ ?_⟩
    · exact hs.toOrderly.append trivial trivial
    · have hpassed : (Event.validated replays report : Event V F).passed = true := by
        rw [Event.passed, hvalid, hearly]
        rfl
      refine ⟨hs.toOrderly.append trivial trivial, fun hn ↦ ?_, validExperiments s.history, ?_,
        hs.tally⟩
      · by_cases hreplays : replays = []
        · rw [hreplays] at hn
          exact (hs.evidence hn).append
        · exact ⟨replays, report, List.mem_append_right _ (List.mem_singleton_self _), hvalid,
            hearly, hreplays⟩
      · rw [validExperiments_append, hpassed]
        rfl
    · have hpassed : (Event.validated replays report : Event V F).passed = false := by
        rw [Event.passed, hvalid]
        rfl
      exact Quiet.append hs trivial trivial hpassed
  refine hrecord.bind fun _ ↦ ?_
  split
  · exact triple_finish (by decide) fun _ h ↦ h.1
  rename_i hearly
  split
  · rename_i hvalid
    refine Triple.bind ((triple_learn hmeets replays).weaken
      (fun s hs ↦ hs.2.1 (Bool.eq_false_iff.mpr hearly) hvalid) (fun _ _ h ↦ h) fun _ _ h ↦ h)
      fun _ ↦ triple_pure fun _ h ↦ h
  · rename_i hvalid
    exact triple_pure fun s hs ↦ hs.2.2 (Bool.eq_false_iff.mpr hvalid)

variable [PyValue V G]

/-- **The loop.** Whatever ends the experiments, what is confirmed rests on evidence. -/
theorem triple_experimentLoop (hmeets : contract.Meets policy) (loopStart : F)
    (envelope : ReplayEquivalenceEnvelope V) (fuel : ℕ) (loop : LoopState V) :
    Triple (fun s : Session P W V F ↦ Idle contract loop.validEvidenceCount s)
      (experimentLoop .aloof collab policy clocks loopStart envelope fuel loop)
      (After contract fun result ↦ Concluded contract result.1.outcome) (Broken contract) := by
  induction fuel generalizing loop with
  | zero => exact triple_pure fun _ h ↦ h.toOrderly
  | succ fuel ih =>
    have hupdate : Triple (fun s : Session P W V F ↦ Idle contract loop.validEvidenceCount s)
        (updateElapsed clocks loopStart) (fun _ ↦ Idle contract loop.validEvidenceCount)
        (Broken contract) :=
      (triple_monotonic clocks fun _ _ h ↦ h).bind fun time ↦ triple_modify fun _ h ↦ h
    refine hupdate.bind fun _ ↦ (triple_judge hmeets _).bind fun verdict ↦ ?_
    split
    · rename_i hstops
      exact triple_pure fun s hs ↦ hs.concluded hstops.2
    refine ((triple_plan envelope loop).weaken (fun _ h ↦ h.1) (fun _ _ h ↦ h) fun _ _ h ↦ h).bind
      fun experiment ↦ ?_
    cases experiment with
    | none => exact (triple_exhausted hmeets loop).bind fun verdict ↦ triple_pure fun _ h ↦ h
    | some experiment =>
      exact triple_andThen (triple_runExperiment hmeets envelope loop experiment) ih

/-! ## Recovery -/

/-- What holds in the stages of recovery. -/
abbrev Secured (contract : Contract P) (s : Session P W V F) : Prop :=
  Orderly contract s.history s.incident.status

/-- What holds when the evidence is sufficient. -/
def Confirmed (contract : Contract P) (s : Session P W V F) : Prop :=
  Secured contract s ∧ Supported s.history

omit [PyValue V G] in
theorem Secured.enter {s : Session P W V F} {toStatus : IncidentStatus} {log : TransitionLog}
    (h : Secured contract s) (hallowed : Allowed contract s.history (.entered toStatus))
    (hne : toStatus ≠ .recovered) : Secured contract (s.enter toStatus log) :=
  have hneutral : (Event.entered toStatus : Event V F).Neutral := trivial
  (Orderly.append h hneutral hallowed).withStatus hne

omit [PyValue V G] in
theorem triple_advance_secured {toStatus : IncidentStatus} {reason : String}
    (hfree : Free toStatus) : Triple (Secured contract)
      (transition toStatus reason : Program (Session P W V F) Raised Unit)
      (fun _ ↦ Secured contract) (Broken contract) := by
  have hne : toStatus ≠ .recovered := by
    rintro rfl
    exact absurd hfree (by decide)
  exact triple_transition (fun _ h ↦ h)
    (fun s _ h ↦ Secured.enter h (allowed_of_free hfree s.history) hne) fun _ h ↦
      orderly_enter h hfree

theorem triple_conclude (verdict : Verdict) (allReplays : List (Dict V)) :
    Triple (fun s : Session P W V F ↦ Concluded contract verdict.outcome s)
      (conclude .aloof collab verdict allReplays) (After contract fun _ ↦ Confirmed contract)
      (Broken contract) := by
  have horderly : ∀ s : Session P W V F, Concluded contract verdict.outcome s →
      Orderly contract s.history s.incident.status := by
    rintro s ⟨⟨n, h⟩, -⟩
    exact h.1.toOrderly
  refine (triple_outside _ horderly fun _ _ h ↦ h).bind fun beliefs ↦ ?_
  refine (triple_outside _ horderly fun _ _ h ↦ h).bind fun entropy ↦ ?_
  refine Triple.bind (triple_get fun _ h ↦ h) fun s₀ ↦ ?_
  have htelemetry : ∀ telemetry : LoopTelemetry F,
      Triple (fun s : Session P W V F ↦ Concluded contract verdict.outcome s)
        (onIncident fun incident ↦ { incident with telemetry := some telemetry })
        (fun _ ↦ Concluded contract verdict.outcome) (Broken contract) :=
    fun telemetry ↦ triple_modify fun _ h ↦ h
  refine (htelemetry _).bind fun _ ↦ ?_
  split
  · rename_i hconfirmed
    have hneutral : (Event.entered .evidenceSufficient : Event V F).Neutral := trivial
    refine Triple.bind (triple_transition horderly (fun s log hs ↦ ?_) fun s hs ↦ ?_) fun _ ↦
      triple_pure fun _ h ↦ h
    · obtain ⟨⟨n, hidle, hlast, henough⟩, hevidence⟩ := hs
      have hsupported : Supported s.history := ⟨hconfirmed ▸ hlast, hevidence hconfirmed⟩
      have hsecured : Secured contract s := hidle.toOrderly
      have hallowed : Allowed contract s.history (.entered .evidenceSufficient) :=
        ⟨henough hconfirmed, hevidence hconfirmed⟩
      exact ⟨Secured.enter hsecured hallowed (by simp), hsupported.append rfl⟩
    · obtain ⟨⟨n, hidle, -, henough⟩, hevidence⟩ := hs
      have hallowed : Allowed contract s.history (.entered .evidenceSufficient) :=
        ⟨henough hconfirmed, hevidence hconfirmed⟩
      exact (hidle.toOrderly.append hneutral hallowed).withStatus (by simp)
  · exact triple_finish (by decide) horderly

theorem triple_recover (failureTargets : List (Dict V)) (access : Option AccessContext)
    (diagnosis : Diagnosis V) :
    Triple (fun s : Session P W V F ↦ Confirmed contract s)
      (recover .aloof collab clocks failureTargets access diagnosis)
      (After contract fun _ ↦ Secured contract) (Broken contract) := by
  have hneutral : (Event.entered .recoveryPlanning : Event V F).Neutral := trivial
  have hplan : Triple (fun s : Session P W V F ↦ Confirmed contract s)
      (transition .recoveryPlanning "Solving for minimum causal cut.")
      (fun _ ↦ Secured contract) (Broken contract) :=
    triple_transition (fun _ h ↦ h.1) (fun s log h ↦ Secured.enter h.1 h.2 (by simp)) fun s h ↦
      (h.1.append hneutral h.2).withStatus (by simp)
  refine hplan.bind fun _ ↦ Triple.bind (triple_get fun _ h ↦ h) fun s₀ ↦ ?_
  refine (triple_outside _ (fun _ h ↦ h) fun _ _ h ↦ h).bind fun cut ↦ ?_
  cases cut with
  | none => exact triple_finish (by decide) fun _ h ↦ h
  | some cut =>
    refine (triple_advance_secured (by decide)).bind fun _ ↦ ?_
    cases access with
    | none => exact triple_finish (by decide) fun _ h ↦ h
    | some context =>
      have hnow : Triple (fun s : Session P W V F ↦ Secured contract s) (now clocks)
          (fun _ ↦ Secured contract) (Broken contract) :=
        triple_returns (fun _ ↦ rfl) fun _ h ↦ h
      refine hnow.bind fun time ↦ ?_
      split
      · exact triple_finish (by decide) fun _ h ↦ h
      refine (triple_outside _ (fun _ h ↦ h) fun _ _ h ↦ h).bind fun result ↦ ?_
      split
      · exact triple_pure fun _ h ↦ h
      · exact triple_finish (by decide) fun _ h ↦ h

theorem triple_deploy (access : Option AccessContext) (diagnosis : Diagnosis V)
    (stopReason : String) (cut : Dict V) (result : RecoveryValidationResult) :
    Triple (fun s : Session P W V F ↦ Secured contract s)
      (deploy .aloof collab access diagnosis stopReason cut result)
      (After contract fun _ _ ↦ False) (Broken contract) := by
  have hrecord : ∀ event : Event V F, event.Neutral → (∀ before, Allowed contract before event) →
      Triple (fun s : Session P W V F ↦ Secured contract s) (record event)
        (fun _ ↦ Secured contract) (Broken contract) := fun _ hneutral hallowed ↦
    triple_modify fun s hs ↦ Orderly.append hs hneutral (hallowed s.history)
  refine (triple_advance_secured (by decide)).bind fun _ ↦ ?_
  refine (triple_outside _ (fun _ h ↦ h) fun _ _ h ↦ h).bind fun authorized ↦ ?_
  split
  · exact triple_finish (by decide) fun _ h ↦ h
  split
  · exact triple_finish (by decide) fun _ h ↦ h
  refine (triple_advance_secured (by decide)).bind fun _ ↦ ?_
  refine Triple.bind (triple_get fun _ h ↦ h) fun s₀ ↦ ?_
  refine (hrecord (.checked s₀.incident.envelopeId) trivial fun _ ↦ trivial).bind fun _ ↦ ?_
  split
  · exact triple_finish (by decide) fun _ h ↦ h
  refine (hrecord (.certified (certificate s₀ diagnosis cut stopReason)) trivial
    fun _ ↦ trivial).bind fun _ ↦ ?_
  refine (triple_outside _ (fun _ h ↦ h) fun _ _ h ↦ h).bind fun certId ↦ ?_
  have hclosed : Triple (fun s : Session P W V F ↦ Secured contract s)
      (transition .closed "Incident fully resolved.") (fun _ ↦ Ended contract)
      (Broken contract) :=
    triple_transition (fun _ h ↦ h)
      (fun s log hs ↦ ⟨orderly_enter hs (by decide), Or.inl (by simp [Session.enter, endStatuses])⟩)
      fun _ h ↦ orderly_enter h (by decide)
  exact hclosed.bind fun _ ↦ triple_pure fun _ h ↦ h

/-! ## The whole -/

theorem triple_pipeline (hmeets : contract.Meets policy) (fuel : ℕ) (loopStart : F)
    (call : Call V F) :
    Triple (fun s : Session P W V F ↦ Idle contract 0 s)
      (pipeline .aloof collab policy clocks fuel loopStart call) (After contract fun _ _ ↦ False)
      (Broken contract) := by
  refine triple_andThen triple_diagnose fun diagnosis ↦ ?_
  refine triple_andThen (triple_experimentLoop hmeets loopStart diagnosis.envelope fuel
    ⟨[], diagnosis.candidates, 0⟩) fun concluded ↦ ?_
  refine triple_andThen (triple_conclude concluded.1 concluded.2) fun _ ↦ ?_
  refine triple_andThen (triple_recover call.failureTargets call.access diagnosis)
    fun recovery ↦ ?_
  exact triple_deploy call.access diagnosis concluded.1.reason recovery.1 recovery.2

omit [PyValue V G] in
theorem triple_failClosed (exc : Raised) :
    Triple (fun s : Session P W V F ↦ Orderly contract s.history s.incident.status)
      (failClosed exc) (After contract fun _ _ ↦ False) (Broken contract) := by
  refine triple_get_eq.bind fun s₀ ↦ ?_
  have hrecord : Triple (fun s : Session P W V F ↦ s₀ = s ∧
        Orderly contract s.history s.incident.status)
      (record (.caught s₀.incident.status s₀.incident.transitionLog))
      (fun _ s ↦ s.incident.status = s₀.incident.status ∧
        Orderly contract s.history s.incident.status) (Broken contract) := by
    refine triple_modify fun s hs ↦ ⟨by rw [hs.1], ?_⟩
    have hneutral : (Event.caught s₀.incident.status s₀.incident.transitionLog :
      Event V F).Neutral := trivial
    exact hs.2.append hneutral trivial
  refine hrecord.bind fun _ ↦ ?_
  split
  · rename_i hterminal
    refine triple_pure fun s hs ↦ ?_
    obtain ⟨hstatus, horderly⟩ := hs
    refine ⟨horderly, ?_⟩
    by_cases hrecovered : s.incident.status = .recovered
    · exact Or.inr (horderly.status hrecovered)
    · have hends : ∀ status ∈ terminalStates, status ≠ .recovered → status ∈ endStatuses := by
        decide
      exact Or.inl (hends _ (hstatus ▸ hterminal) hrecovered)
  · exact triple_finish (by decide) fun _ h ↦ h.2

/-- **The discipline.** Whatever the collaborators do, a run is orderly at every moment; when it
returns it has ended. -/
theorem processIncident_orderly (hmeets : contract.Meets policy) (collab : Collaborators W V F)
    (clocks : Clocks F) (defaults : Defaults F) (fuel : ℕ) (call : Call V F)
    (orchestrator : Orchestrator P W) (htally : contract.tally 0 orchestrator.policy)
    (hrecovered : call.incident.status = .recovered → contract.recovered) :
    let run := processIncident collab policy clocks defaults fuel call orchestrator
    Orderly contract run.2.history run.2.incident.status ∧
      ∀ certId, run.1 = .ok (.returned certId) → Ended contract run.2 := by
  intro run
  have hstart : Idle contract 0 (start defaults call orchestrator) := by
    refine ⟨⟨always_nil, iff_of_true ⟨always_nil, rfl⟩ ?_, hrecovered⟩,
      ⟨fun h ↦ absurd h (by simp), htally⟩⟩
    exact fun _ h ↦ absurd h (by simp [start])
  have hpipeline : Triple (fun s : Session P W V F ↦ Idle contract 0 s)
      (pipeline .aloof collab policy clocks fuel (clocks.monotonic orchestrator.tick) call)
      (After contract fun _ _ ↦ False) (Broken contract) := triple_pipeline hmeets _ _ call
  have htriple := hpipeline.attempt triple_failClosed (start defaults call orchestrator) hstart
  have hrun : run = (run.1, run.2) := rfl
  cases hresult : run.1 with
  | ok stage =>
    rw [hresult] at hrun
    have hafter := htriple.1 stage run.2 hrun
    cases stage with
    | returned certId =>
      refine ⟨Ended.orderly hafter, fun _ _ ↦ ?_⟩
      exact hafter
    | running => exact ⟨hafter, fun certId heq ↦ absurd heq (by simp)⟩
    | next a => exact a.elim
  | error e =>
    rw [hresult] at hrun
    exact ⟨htriple.2 e run.2 hrun, fun certId heq ↦ absurd heq (by simp)⟩

end Stages

end DriftGuardX.Incident
