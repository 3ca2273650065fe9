import DriftGuardX.Foundation.Transaction
import DriftGuardX.Incident.Evidence

/-!
# The refusal to fabricate a recovery

The orchestrator has no canary deployment, and refuses to go on to a certificate when the incident
has an envelope id. The refusal is a condition on the text of that id, which an envelope builder can
leave empty and which every collaborator that has the incident can clear. Everything else ends in the
handler, which raises itself when it cannot write into the transition log. `refuses_iff` says that
these are the only ways in which a run that ends can do anything but return the empty string without
a certificate.
-/

namespace DriftGuardX.Incident

open Recovery (Raised Dict PyValue)
open Json (Scalar)
open Program Session Transaction
open Memory (AccessContext)

variable {P W X V F G α β : Type}

/-- The empty string is returned, and no certificate was recorded. -/
structure Refuses (run : Except Raised (Stage Empty) × Session P W V F) : Prop where
  uncertified : ∀ certificate, .certified certificate ∉ run.2.history
  returns : run.1 = .ok (.returned "")

/-- The incident has an envelope id whenever it is looked at before the canary. -/
def Named (history : List (Event V F)) : Prop :=
  ∀ envelopeId, .checked envelopeId ∈ history → (Recovery.nonempty envelopeId).isSome = true

/-- Whenever the handler is entered, the incident has come to an end, or its log can be extended. -/
def Closable (history : List (Event V F)) : Prop :=
  ∀ status log, .caught status log ∈ history →
    status ∈ terminalStates ∨ ∀ typeName, log ≠ .other typeName

/-! ## Histories -/

/-- Events that have nothing to do with the refusal. -/
def Event.Ordinary : Event V F → Prop
  | .certified _ | .checked _ | .caught _ _ => False
  | _ => True

/-- A certificate is recorded exactly when there is no envelope id, and the handler has not been
entered. -/
structure Decided (history : List (Event V F)) : Prop where
  certified : (∃ certificate, .certified certificate ∈ history) ↔ ¬ Named history
  uncaught : ∀ status log, .caught status log ∉ history

/-- The session before the canary. -/
def Plain (s : Session P W V F) : Prop := ∀ event ∈ s.history, event.Ordinary

section Histories

variable {history : List (Event V F)} {event : Event V F} {envelopeId : Option String}

theorem decided_of_ordinary (h : ∀ event ∈ history, event.Ordinary) : Decided history where
  certified := by
    refine iff_of_false (fun ⟨certificate, hmem⟩ ↦ h _ hmem) (not_not.mpr fun envelopeId hmem ↦ ?_)
    exact (h _ hmem).elim
  uncaught _ _ hmem := h _ hmem

theorem named_append :
    Named (history ++ [.checked envelopeId]) ↔
      Named history ∧ (Recovery.nonempty envelopeId).isSome = true := by
  simp [Named, or_imp, forall_and]

theorem named_append_of_ne (h : ∀ envelopeId, event ≠ .checked envelopeId) :
    Named (history ++ [event]) ↔ Named history := by
  refine forall_congr' fun envelopeId ↦ ?_
  rw [List.mem_append, List.mem_singleton, or_iff_left (h envelopeId).symm]

theorem Decided.append (h : Decided history) (hordinary : event.Ordinary) :
    Decided (history ++ [event]) where
  certified := by
    rw [named_append_of_ne (by rintro envelopeId rfl; exact hordinary), ← h.certified]
    refine exists_congr fun certificate ↦ ?_
    rw [List.mem_append, List.mem_singleton, or_iff_left]
    rintro rfl
    exact hordinary
  uncaught status log hmem := by
    rcases List.mem_append.mp hmem with hold | hnew
    · exact h.uncaught status log hold
    · obtain rfl := List.mem_singleton.mp hnew
      exact hordinary

theorem Decided.checked (h : Decided history)
    (hnamed : (Recovery.nonempty envelopeId).isSome = true) :
    Decided (history ++ [.checked envelopeId]) where
  certified := by
    rw [named_append, and_iff_left hnamed, ← h.certified]
    simp
  uncaught status log hmem := h.uncaught status log (by simpa using hmem)

theorem Decided.fabricated (h : Decided history)
    (hnamed : ¬ (Recovery.nonempty envelopeId).isSome = true) (certificate : Certificate V F) :
    Decided (history ++ [.checked envelopeId] ++ [.certified certificate]) ∧
      ¬ Named (history ++ [.checked envelopeId] ++ [.certified certificate]) := by
  have hunnamed : ¬ Named (history ++ [.checked envelopeId] ++ [.certified certificate]) := by
    rw [named_append_of_ne (by simp), named_append]
    exact fun hall ↦ hnamed hall.2
  refine ⟨⟨iff_of_true ⟨certificate, by simp⟩ hunnamed, fun status log hmem ↦ ?_⟩, hunnamed⟩
  exact h.uncaught status log (by simpa using hmem)

/-- What the handler adds does not change what was decided. -/
theorem Decided.certified_append (h : Decided history) (events : List (Event V F))
    (hevents : ∀ event ∈ events, (∀ certificate, event ≠ .certified certificate) ∧
      ∀ envelopeId, event ≠ .checked envelopeId) :
    (∃ certificate, .certified certificate ∈ history ++ events) ↔ ¬ Named (history ++ events) := by
  have hmem : ∀ event ∉ events, event ∈ history ++ events ↔ event ∈ history :=
    fun event hnot ↦ by rw [List.mem_append, or_iff_left hnot]
  rw [Named]
  simp only [hmem _ fun h ↦ (hevents _ h).1 _ rfl, hmem _ fun h ↦ (hevents _ h).2 _ rfl]
  exact h.certified

/-- The handler is entered once. -/
theorem Decided.closable_caught (h : Decided history) {status : IncidentStatus}
    {log : TransitionLog} (events : List (Event V F))
    (hevents : ∀ event ∈ events, ∀ status log, event ≠ .caught status log) :
    Closable (history ++ .caught status log :: events) ↔
      status ∈ terminalStates ∨ ∀ typeName, log ≠ .other typeName := by
  refine ⟨fun hclosable ↦ hclosable status log (by simp), fun hlog status' log' hmem ↦ ?_⟩
  rcases List.mem_append.mp hmem with hold | hnew
  · exact absurd hold (h.uncaught status' log')
  rcases List.mem_cons.mp hnew with heq | hlater
  · obtain ⟨rfl, rfl⟩ := Event.caught.inj heq
    exact hlog
  · exact absurd rfl (hevents _ hlater status' log')

end Histories

/-! ## Stages before the canary -/

/-- A program in which nothing happens that has to do with the refusal. -/
abbrev Calm (x : Program (Session P W V F) Raised α) : Prop := Keeps Plain x

/-- What holds after a stage before the canary. -/
def Uneventful (stage : Stage α) (s : Session P W V F) : Prop :=
  Plain s ∧ ∀ certId, stage = .returned certId → certId = ""

/-- A stage before the canary. -/
abbrev CalmStage (x : Program (Session P W V F) Raised (Stage α)) : Prop :=
  Triple Plain x Uneventful fun _ ↦ Plain

theorem Plain.append {s s' : Session P W V F} {event : Event V F} (h : Plain s)
    (hordinary : event.Ordinary) (hhistory : s'.history = s.history ++ [event]) : Plain s' := by
  intro event' hmem
  rw [hhistory, List.mem_append, List.mem_singleton] at hmem
  rcases hmem with hold | rfl
  · exact h event' hold
  · exact hordinary

theorem calm_record {event : Event V F} (hordinary : event.Ordinary) :
    Calm (record event : Program (Session P W V F) Raised Unit) :=
  triple_modify fun _ h ↦ h.append hordinary rfl

theorem calm_outside (x : Program (W × IncidentState F) Raised α) :
    Calm (outside .involved x : Program (Session P W V F) Raised α) := keeps_zoom fun _ _ h ↦ h

theorem calm_onPolicy (x : Program (PolicyView P (W × IncidentState F) F) Raised α) :
    Calm (onPolicy .involved x : Program (Session P W V F) Raised α) := keeps_zoom fun _ _ h ↦ h

theorem calm_get : Calm (get : Program (Session P W V F) Raised (Session P W V F)) :=
  triple_get fun _ h ↦ h

theorem calm_onIncident (f : IncidentState F → IncidentState F) :
    Calm (onIncident f : Program (Session P W V F) Raised Unit) := triple_modify fun _ h ↦ h

theorem calm_pure (a : α) : Calm (pure a : Program (Session P W V F) Raised α) :=
  triple_pure fun _ h ↦ h

theorem calm_raise (e : Raised) : Calm (raise e : Program (Session P W V F) Raised α) :=
  triple_raise fun _ h ↦ h

theorem calm_monotonic (clocks : Clocks F) :
    Calm (monotonic clocks : Program (Session P W V F) Raised F) :=
  triple_returns (fun _ ↦ rfl) fun _ h ↦ h

theorem keeps_transition {I : List (Event V F) → Prop} {toStatus : IncidentStatus} {reason : String}
    (hI : ∀ history, I history → I (history ++ [.entered toStatus])) :
    Keeps (fun s ↦ I s.history)
      (transition toStatus reason : Program (Session P W V F) Raised Unit) := by
  refine keeps_of_state fun s hs ↦ ?_
  rw [transition]
  dsimp only
  split
  · exact hI s.history hs
  · exact hs

theorem calm_transition {toStatus : IncidentStatus} {reason : String} :
    Calm (transition toStatus reason : Program (Session P W V F) Raised Unit) := by
  refine keeps_transition (I := fun history ↦ ∀ event ∈ history, event.Ordinary)
    fun history h event hmem ↦ ?_
  rcases List.mem_append.mp hmem with hold | hnew
  · exact h event hold
  · obtain rfl := List.mem_singleton.mp hnew
    trivial

theorem calm_finish {toStatus : IncidentStatus} {reason : String} :
    CalmStage (finish toStatus reason : Program (Session P W V F) Raised (Stage α)) :=
  calm_transition.bind fun _ ↦ triple_pure fun _ h ↦ ⟨h, fun _ heq ↦ (Stage.returned.inj heq).symm⟩

theorem calm_next (a : α) :
    CalmStage (pure (.next a) : Program (Session P W V F) Raised (Stage α)) :=
  triple_pure fun _ h ↦ ⟨h, fun _ heq ↦ absurd heq (by simp)⟩

/-- What comes after a stage before the canary. -/
theorem triple_andThen_of_calm {x : Program (Session P W V F) Raised (Stage α)}
    {f : α → Program (Session P W V F) Raised (Stage β)}
    {post : Stage β → Session P W V F → Prop} {raises : Raised → Session P W V F → Prop}
    (hx : CalmStage x) (hpost : ∀ stage s, Uneventful stage s → post stage s)
    (hraises : ∀ e s, Plain s → raises e s) (hf : ∀ a, Triple Plain (f a) post raises) :
    Triple Plain (andThen x f) post raises := by
  refine Triple.bind (hx.weaken (fun _ h ↦ h) (fun _ _ h ↦ h) hraises) fun stage ↦ ?_
  cases stage with
  | returned certId =>
    refine triple_pure fun s h ↦ hpost _ _ ⟨h.1, fun certId' heq ↦ h.2 certId' ?_⟩
    exact congrArg Stage.returned (Stage.returned.inj heq)
  | running => exact triple_pure fun s h ↦ hpost _ _ ⟨h.1, fun _ heq ↦ absurd heq (by simp)⟩
  | next a => exact (hf a).weaken (fun _ h ↦ h.1) (fun _ _ h ↦ h) fun _ _ h ↦ h

section Stages

variable {collab : Collaborators (W × IncidentState F) V F}
  {policy : StoppingPolicy P (W × IncidentState F) V F} {clocks : Clocks F}

theorem calm_diagnose :
    CalmStage (diagnose .involved collab : Program (Session P W V F) Raised _) := by
  have hraise : ∀ e, CalmStage
      (raise e : Program (Session P W V F) Raised (Stage (Diagnosis V))) :=
    fun _ ↦ triple_raise fun _ h ↦ h
  refine calm_transition.bind fun _ ↦ calm_get.bind fun _ ↦ (calm_outside _).bind fun trace ↦ ?_
  split
  · exact hraise _
  refine (calm_outside _).bind fun graph ↦ ?_
  split
  · exact hraise _
  refine calm_transition.bind fun _ ↦ calm_get.bind fun _ ↦ (calm_outside _).bind
    fun candidates ↦ ?_
  split
  · exact calm_finish
  refine (calm_outside _).bind fun envelope ↦ (calm_onIncident _).bind fun _ ↦
    (calm_outside _).bind fun admissible ↦ ?_
  split
  · exact calm_transition.bind fun _ ↦ calm_next _
  · exact calm_finish

theorem calm_judge (remainingCandidates : List (Dict V)) :
    Calm (judge .involved collab policy remainingCandidates) :=
  calm_get.bind fun _ ↦ (calm_onPolicy _).bind fun _ ↦ (calm_record (by exact trivial)).bind fun _ ↦
    calm_pure _

theorem calm_settle (r : ResourceReservation F) :
    Calm (if r.isOpen then record (.settled r) else pure () :
      Program (Session P W V F) Raised Unit) := by
  split
  · exact calm_record (by exact trivial)
  · exact calm_pure _

theorem calm_exhausted (loop : LoopState V) :
    Calm (exhausted .involved collab policy loop) := by
  refine (calm_judge _).bind fun verdict ↦ ?_
  split
  · exact (calm_record (by exact trivial)).bind fun _ ↦ calm_pure _
  · exact calm_pure _

theorem calm_plan (envelope : ReplayEquivalenceEnvelope V) (loop : LoopState V) :
    Calm (plan .involved collab envelope loop : Program (Session P W V F) Raised _) := by
  refine (calm_outside _).bind fun beliefs ↦ Triple.bind (keeps_zoom fun _ _ h ↦ h)
    fun experiment ↦ ?_
  cases experiment with
  | none => exact calm_pure _
  | some experiment => exact (calm_record (by exact trivial)).bind fun _ ↦ calm_pure _

variable [PyFloat F]

theorem calm_releaseReservation (handedOut : HandedOut F) :
    Calm (releaseReservation handedOut : Program (Session P W V F) Raised Unit) := by
  cases handedOut with
  | nothing => exact calm_pure _
  | other typeName => exact calm_raise _
  | reservation r => exact Triple.bind (triple_modify fun _ h ↦ h) fun _ ↦ calm_settle r

omit [PyFloat F] in
theorem calm_learn (replays : List (Dict V)) : Calm (learn .involved collab policy replays) := by
  refine calm_get.bind fun _ ↦ (calm_outside _).bind fun posterior ↦
    (calm_onIncident _).bind fun _ ↦ ?_
  split
  · exact calm_pure _
  · exact (calm_outside _).bind fun _ ↦ calm_onPolicy _

variable [ToFloat V F]

theorem calm_commitReservation (replays : List (Dict V)) (started : F) (handedOut : HandedOut F) :
    Calm (commitReservation clocks replays started handedOut :
      Program (Session P W V F) Raised Unit) := by
  have hcosts : Calm (ofExcept (replays.mapM actualCost) :
      Program (Session P W V F) Raised (List F)) :=
    triple_ofExcept (fun _ _ _ h ↦ h) fun _ _ _ h ↦ h
  cases handedOut with
  | nothing => exact calm_pure _
  | other typeName =>
    refine hcosts.bind fun costs ↦ ?_
    split
    · exact calm_raise _
    · exact calm_raise _
  | reservation r =>
    exact hcosts.bind fun costs ↦ (calm_monotonic clocks).bind fun stopped ↦
      Triple.bind (triple_modify fun _ h ↦ h) fun _ ↦ calm_settle r

theorem calm_executeExperiment (experiment : Experiment V F) :
    Calm (executeExperiment .involved collab clocks experiment :
      Program (Session P W V F) Raised _) := by
  refine (calm_monotonic clocks).bind fun started ↦ ?_
  refine Triple.bind (keeps_attempt (calm_outside _) fun exc ↦ ?_) fun replays ↦ ?_
  · exact (calm_releaseReservation _).bind fun _ ↦ calm_raise exc
  · exact (calm_record (by exact trivial)).bind fun _ ↦ (calm_commitReservation replays started _).bind
      fun _ ↦ calm_pure _

variable [PyValue V G]

theorem calm_runExperiment (envelope : ReplayEquivalenceEnvelope V) (loop : LoopState V)
    (experiment : Experiment V F) :
    CalmStage (runExperiment .involved collab policy clocks envelope loop experiment) := by
  refine (calm_executeExperiment experiment).bind fun replays ↦ (calm_outside _).bind fun report ↦
    (calm_record (by exact trivial)).bind fun _ ↦ ?_
  split
  · exact calm_finish
  split
  · exact (calm_learn replays).bind fun _ ↦ calm_next _
  · exact calm_next _

theorem calm_experimentLoop (loopStart : F) (envelope : ReplayEquivalenceEnvelope V) (fuel : ℕ)
    (loop : LoopState V) :
    CalmStage (experimentLoop .involved collab policy clocks loopStart envelope fuel loop) := by
  induction fuel generalizing loop with
  | zero => exact triple_pure fun _ h ↦ ⟨h, fun _ heq ↦ absurd heq (by simp)⟩
  | succ fuel ih =>
    have hupdate : Calm (updateElapsed clocks loopStart : Program (Session P W V F) Raised Unit) :=
      (calm_monotonic clocks).bind fun _ ↦ triple_modify fun _ h ↦ h
    refine hupdate.bind fun _ ↦ (calm_judge _).bind fun verdict ↦ ?_
    split
    · exact calm_next _
    refine (calm_plan envelope loop).bind fun experiment ↦ ?_
    cases experiment with
    | none => exact (calm_exhausted loop).bind fun _ ↦ calm_next _
    | some experiment =>
      exact triple_andThen_of_calm (calm_runExperiment envelope loop experiment)
        (fun _ _ h ↦ h) (fun _ _ h ↦ h) ih

omit [ToFloat V F] in
theorem calm_conclude (verdict : Verdict) (allReplays : List (Dict V)) :
    CalmStage (conclude .involved collab verdict allReplays :
      Program (Session P W V F) Raised _) := by
  refine (calm_outside _).bind fun beliefs ↦ (calm_outside _).bind fun entropy ↦
    calm_get.bind fun _ ↦ (calm_onIncident _).bind fun _ ↦ ?_
  split
  · exact calm_transition.bind fun _ ↦ calm_next _
  · exact calm_finish

omit [PyFloat F] [ToFloat V F] [PyValue V G] in
theorem calm_recover (failureTargets : List (Dict V)) (access : Option AccessContext)
    (diagnosis : Diagnosis V) :
    CalmStage (recover .involved collab clocks failureTargets access diagnosis :
      Program (Session P W V F) Raised _) := by
  refine calm_transition.bind fun _ ↦ calm_get.bind fun _ ↦ (calm_outside _).bind fun cut ↦ ?_
  cases cut with
  | none => exact calm_finish
  | some cut =>
    refine calm_transition.bind fun _ ↦ ?_
    cases access with
    | none => exact calm_finish
    | some context =>
      have hnow : Calm (now clocks : Program (Session P W V F) Raised ℤ) :=
        triple_returns (fun _ ↦ rfl) fun _ h ↦ h
      refine hnow.bind fun time ↦ ?_
      split
      · exact calm_finish
      refine (calm_outside _).bind fun result ↦ ?_
      split
      · exact calm_next _
      · exact calm_finish

/-! ## The canary -/

/-- What holds after the canary. -/
def Outcome (stage : Stage Empty) (s : Session P W V F) : Prop :=
  Decided s.history ∧ ∀ certId, stage = .returned certId → Named s.history → certId = ""

omit [PyFloat F] [ToFloat V F] [PyValue V G] in
theorem Uneventful.outcome {stage : Stage Empty} {s : Session P W V F} (h : Uneventful stage s) :
    Outcome stage s := ⟨decided_of_ordinary h.1, fun certId heq _ ↦ h.2 certId heq⟩

/-- The envelope id was looked at before the canary. -/
def Checked (envelopeId : Option String) (s : Session P W V F) : Prop :=
  ∃ history, Decided history ∧ s.history = history ++ [.checked envelopeId]

omit [PyFloat F] [ToFloat V F] [PyValue V G] in
/-- With an envelope id, the run refuses to go on. -/
theorem triple_refusal {envelopeId : Option String}
    (hnamed : (Recovery.nonempty envelopeId).isSome = true) (reason : String) :
    Triple (Checked envelopeId) (finish .recoveryRejected reason) Outcome
      fun (_ : Raised) (s : Session P W V F) ↦ Decided s.history := by
  have hdecided : Keeps (fun s : Session P W V F ↦ Decided s.history)
      (transition .recoveryRejected reason) := keeps_transition fun _ h ↦ h.append trivial
  refine Triple.bind (hdecided.weaken ?_ (fun _ _ h ↦ h) fun _ _ h ↦ h) fun _ ↦
    triple_pure fun s h ↦ ⟨h, fun _ heq _ ↦ (Stage.returned.inj heq).symm⟩
  rintro s ⟨history, h, hhistory⟩
  exact hhistory ▸ h.checked hnamed

omit [PyFloat F] [ToFloat V F] [PyValue V G] in
/-- Without one, a certificate is recorded. -/
theorem triple_certify {envelopeId : Option String}
    (hnamed : ¬ (Recovery.nonempty envelopeId).isSome = true) (cert : Certificate V F) :
    Triple (Checked envelopeId) (do
        record (.certified cert)
        let certId ← outside .involved (collab.recordCertificate cert)
        transition .closed "Incident fully resolved."
        return .returned certId) Outcome
      fun (_ : Raised) (s : Session P W V F) ↦ Decided s.history := by
  have hcertified : Triple (Checked envelopeId) (record (.certified cert))
      (fun _ s ↦ Decided s.history ∧ ¬ Named s.history)
      fun (_ : Raised) (s : Session P W V F) ↦ Decided s.history := by
    refine triple_modify fun s h ↦ ?_
    obtain ⟨history, h, hhistory⟩ := h
    rw [hhistory]
    exact h.fabricated hnamed cert
  have hkept : ∀ {α : Type} {x : Program (Session P W V F) Raised α},
      Keeps (fun s ↦ Decided s.history ∧ ¬ Named s.history) x →
      Triple (fun s ↦ Decided s.history ∧ ¬ Named s.history) x
        (fun _ s ↦ Decided s.history ∧ ¬ Named s.history) fun _ s ↦ Decided s.history :=
    fun h ↦ h.weaken (fun _ h ↦ h) (fun _ _ h ↦ h) fun _ _ h ↦ h.1
  have houtside : Keeps (fun s : Session P W V F ↦ Decided s.history ∧ ¬ Named s.history)
      (outside .involved (collab.recordCertificate cert)) := keeps_zoom fun _ _ h ↦ h
  have htransition : Keeps (fun s : Session P W V F ↦ Decided s.history ∧ ¬ Named s.history)
      (transition .closed "Incident fully resolved.") :=
    keeps_transition (I := fun history ↦ Decided history ∧ ¬ Named history) fun history h ↦
      ⟨h.1.append trivial, fun hnamed ↦ h.2 ((named_append_of_ne (by simp)).mp hnamed)⟩
  refine hcertified.bind fun _ ↦ (hkept houtside).bind fun certId ↦ ?_
  exact (hkept htransition).bind fun _ ↦
    triple_pure fun s h ↦ ⟨h.1, fun _ _ hnamed ↦ absurd hnamed h.2⟩

omit [PyFloat F] [ToFloat V F] in
theorem triple_deploy_involved (access : Option AccessContext) (diagnosis : Diagnosis V)
    (stopReason : String) (cut : Dict V) (result : RecoveryValidationResult) :
    Triple Plain (deploy .involved collab access diagnosis stopReason cut result)
      Outcome fun (_ : Raised) (s : Session P W V F) ↦ Decided s.history := by
  have hbroken : ∀ (_ : Raised) (s : Session P W V F), Plain s → Decided s.history :=
    fun _ _ h ↦ decided_of_ordinary h
  have hkeep : ∀ {α : Type} {x : Program (Session P W V F) Raised α}, Calm x →
      Triple Plain x (fun _ ↦ Plain) fun _ s ↦ Decided s.history :=
    fun h ↦ h.weaken (fun _ h ↦ h) (fun _ _ h ↦ h) hbroken
  have hfinish : ∀ {toStatus reason}, Triple Plain (finish toStatus reason) Outcome
      fun (_ : Raised) (s : Session P W V F) ↦ Decided s.history :=
    calm_finish.weaken (fun _ h ↦ h) (fun _ _ h ↦ h.outcome) hbroken
  refine (hkeep calm_transition).bind fun _ ↦ (hkeep (calm_outside _)).bind fun authorized ↦ ?_
  split
  · exact hfinish
  split
  · exact hfinish
  refine (hkeep calm_transition).bind fun _ ↦ (hkeep calm_get).bind fun s₀ ↦ ?_
  have hchecked : Triple Plain (record (.checked s₀.incident.envelopeId))
      (fun _ ↦ Checked s₀.incident.envelopeId)
      fun (_ : Raised) (s : Session P W V F) ↦ Decided s.history :=
    triple_modify fun s h ↦ ⟨s.history, decided_of_ordinary h, rfl⟩
  refine hchecked.bind fun _ ↦ ?_
  split
  · rename_i hnamed
    exact triple_refusal hnamed _
  · rename_i hnamed
    exact triple_certify hnamed _

theorem triple_pipeline_involved (fuel : ℕ) (loopStart : F) (call : Call V F) :
    Triple Plain (pipeline .involved collab policy clocks fuel loopStart call) Outcome
      fun (_ : Raised) (s : Session P W V F) ↦ Decided s.history := by
  have hbroken : ∀ (_ : Raised) (s : Session P W V F), Plain s → Decided s.history :=
    fun _ _ h ↦ decided_of_ordinary h
  refine triple_andThen_of_calm calm_diagnose (fun _ _ h ↦ h.outcome) hbroken fun diagnosis ↦ ?_
  refine triple_andThen_of_calm (calm_experimentLoop loopStart diagnosis.envelope fuel _)
    (fun _ _ h ↦ h.outcome) hbroken fun concluded ↦ ?_
  refine triple_andThen_of_calm (calm_conclude concluded.1 concluded.2)
    (fun _ _ h ↦ h.outcome) hbroken fun _ ↦ ?_
  refine triple_andThen_of_calm (calm_recover call.failureTargets call.access diagnosis)
    (fun _ _ h ↦ h.outcome) hbroken fun recovery ↦ ?_
  exact triple_deploy_involved call.access diagnosis concluded.1.reason recovery.1 recovery.2

end Stages

/-! ## The handler -/

/-- Closing an incident that has not come to an end raises exactly when the log cannot be extended. -/
theorem transition_closed {s : Session P W V F} (hopen : s.incident.status ∉ terminalStates)
    (reason : String) : ∃ result s', transition .closed reason s = (result, s') ∧
      s'.history = s.history ++ [.entered .closed] ∧
      ((∃ typeName, s.incident.transitionLog = .other typeName) ↔ ∃ e, result = .error e) := by
  obtain ⟨⟨incidentId, status, posterior, envelopeId, log, telemetry⟩, context, policy, world, tick,
    history⟩ := s
  have hallowed : status ∉ terminalStates →
      status ≠ .closed ∧ IncidentStatus.closed ∈ status.allowedTransitions := by
    cases status <;> decide
  obtain ⟨hclosed, hallowed⟩ := hallowed hopen
  refine ⟨_, _, rfl, if_pos hallowed, ?_⟩
  rw [IncidentState.transition, bind_of_ok get_apply, if_neg hclosed, if_neg (not_not.mpr hallowed)]
  cases log with
  | other typeName => exact iff_of_true ⟨typeName, rfl⟩ ⟨_, rfl⟩
  | _ =>
    refine iff_of_false (by simp) ?_
    rintro ⟨e, heq⟩
    exact absurd (show Except.ok () = Except.error e from heq) (by simp)

/-- What holds when a run returns: `caught` is at most the last thing that happened. -/
def Over (stage : Stage Empty) (s : Session P W V F) : Prop :=
  ((∃ certificate, .certified certificate ∈ s.history) ↔ ¬ Named s.history) ∧
    Closable s.history ∧ ∀ certId, stage = .returned certId → Named s.history → certId = ""

theorem Outcome.over {stage : Stage Empty} {s : Session P W V F} (h : Outcome stage s) :
    Over stage s :=
  ⟨h.1.certified, fun status log hmem ↦ absurd hmem (h.1.uncaught status log), h.2⟩

theorem triple_failClosed_decided (exc : Raised) :
    Triple (fun s : Session P W V F ↦ Decided s.history) (failClosed exc) Over
      fun _ s ↦ ¬ Closable s.history := by
  intro s hs
  have hrecord : record (.caught s.incident.status s.incident.transitionLog) s = (.ok (),
      { s with history := s.history ++ [.caught s.incident.status s.incident.transitionLog] }) := rfl
  rw [failClosed, bind_of_ok get_apply, bind_of_ok hrecord]
  by_cases hterminal : s.incident.status ∈ terminalStates
  · rw [if_pos hterminal]
    refine ends_of_ok (pure_apply _)
      ⟨hs.certified_append [.caught _ _] (by simp), ?_, fun _ heq _ ↦ ?_⟩
    · exact (hs.closable_caught [] (by simp)).mpr (Or.inl hterminal)
    · exact (Stage.returned.inj heq).symm
  · rw [if_neg hterminal, finish]
    obtain ⟨result, s', hrun, hhistory, hraises⟩ := transition_closed
      (s := { s with history := s.history ++ [.caught s.incident.status s.incident.transitionLog] })
      hterminal ("Fatal error: " ++ exc.message)
    have hhistory' : s'.history = s.history ++
        [.caught s.incident.status s.incident.transitionLog, .entered .closed] := by
      rw [hhistory, List.append_assoc]
      rfl
    cases result with
    | ok u =>
      rw [bind_of_ok hrun]
      refine ends_of_ok (pure_apply _) ?_
      refine ⟨hhistory' ▸ hs.certified_append _ (by simp), ?_, fun _ heq _ ↦ ?_⟩
      · rw [hhistory', hs.closable_caught _ (by simp)]
        refine Or.inr fun typeName heq ↦ ?_
        obtain ⟨e, he⟩ := hraises.mp ⟨typeName, heq⟩
        exact absurd he (by simp)
      · exact (Stage.returned.inj heq).symm
    | error e =>
      refine ends_of_error (bind_of_error hrun) ?_
      rw [hhistory', hs.closable_caught _ (by simp)]
      obtain ⟨typeName, hlog⟩ := hraises.mpr ⟨e, rfl⟩
      exact not_or.mpr ⟨hterminal, fun hother ↦ hother typeName hlog⟩

/-! ## When the refusal holds -/

section Fuel

/-- The second program does what the first one does, unless that is out of fuel. -/
def Extends (x y : Program (Session P W V F) Raised (Stage α)) : Prop :=
  ∀ s, (x s).1 ≠ .ok .running → y s = x s

theorem extends_bind {x : Program (Session P W V F) Raised α}
    {f g : α → Program (Session P W V F) Raised (Stage β)} (h : ∀ a, Extends (f a) (g a)) :
    Extends (x >>= f) (x >>= g) := by
  intro s hs
  rcases exists_ok_or_error x s with ⟨a, s', hrun⟩ | ⟨e, s', hrun⟩
  · rw [bind_of_ok hrun] at hs
    rw [bind_of_ok hrun, bind_of_ok hrun, h a s' hs]
  · rw [bind_of_error hrun, bind_of_error hrun]

theorem Extends.andThen {x y : Program (Session P W V F) Raised (Stage α)}
    {f g : α → Program (Session P W V F) Raised (Stage β)} (hxy : Extends x y)
    (h : ∀ a, Extends (f a) (g a)) : Extends (andThen x f) (andThen y g) := by
  intro s hs
  rcases exists_ok_or_error x s with ⟨stage, s', hrun⟩ | ⟨e, s', hrun⟩
  · rw [Incident.andThen, bind_of_ok hrun] at hs
    have hrun' : y s = (.ok stage, s') := by
      rw [hxy s ?_, hrun]
      rintro heq
      obtain rfl : stage = .running := by simpa [hrun] using heq
      exact hs rfl
    rw [Incident.andThen, Incident.andThen, bind_of_ok hrun, bind_of_ok hrun']
    cases stage with
    | next a => exact h a s' hs
    | _ => rfl
  · have hrun' : y s = (.error e, s') := by
      rw [hxy s (by simp [hrun]), hrun]
    rw [Incident.andThen, Incident.andThen, bind_of_error hrun, bind_of_error hrun']

variable [PyValue V G] [PyFloat F] [ToFloat V F] {reach : Reach P W X V F}
  {collab : Collaborators X V F} {policy : StoppingPolicy P X V F} {clocks : Clocks F}

theorem extends_experimentLoop (loopStart : F) (envelope : ReplayEquivalenceEnvelope V) (fuel : ℕ)
    (loop : LoopState V) :
    Extends (experimentLoop reach collab policy clocks loopStart envelope fuel loop)
      (experimentLoop reach collab policy clocks loopStart envelope (fuel + 1) loop) := by
  induction fuel generalizing loop with
  | zero => exact fun _ h ↦ absurd rfl h
  | succ fuel ih =>
    refine extends_bind fun _ ↦ extends_bind fun verdict ↦ ?_
    split
    · exact fun _ _ ↦ rfl
    refine extends_bind fun experiment ↦ ?_
    cases experiment with
    | none => exact fun _ _ ↦ rfl
    | some experiment => exact Extends.andThen (fun _ _ ↦ rfl) ih

/-- A run that comes to an end does not depend on its fuel. -/
theorem processIncidentWith_of_le {fuel fuel' : ℕ} (hle : fuel ≤ fuel') {defaults : Defaults F}
    {call : Call V F} {orchestrator : Orchestrator P W}
    (hends : (processIncidentWith reach collab policy clocks defaults fuel call orchestrator).1
      ≠ .ok .running) :
    processIncidentWith reach collab policy clocks defaults fuel' call orchestrator
      = processIncidentWith reach collab policy clocks defaults fuel call orchestrator := by
  induction fuel', hle using Nat.le_induction with
  | base => rfl
  | succ fuel' _ ih =>
    rw [← ih] at hends ⊢
    have hpipeline : Extends (pipeline reach collab policy clocks fuel'
        (clocks.monotonic orchestrator.tick) call) (pipeline reach collab policy clocks (fuel' + 1)
        (clocks.monotonic orchestrator.tick) call) :=
      Extends.andThen (fun _ _ ↦ rfl) fun _ ↦
        (extends_experimentLoop _ _ _ _).andThen fun _ _ _ ↦ rfl
    rw [processIncidentWith, processIncidentWith]
    rcases exists_ok_or_error (pipeline reach collab policy clocks fuel'
      (clocks.monotonic orchestrator.tick) call) (start defaults call orchestrator) with
      ⟨stage, s, hrun⟩ | ⟨e, s, hrun⟩
    · rw [processIncidentWith, attempt_of_ok hrun] at hends
      have hrun' := hpipeline (start defaults call orchestrator) (by rwa [hrun])
      rw [attempt_of_ok hrun, attempt_of_ok (hrun'.trans hrun)]
    · have hrun' := hpipeline (start defaults call orchestrator) (by simp [hrun])
      rw [attempt_of_error hrun, attempt_of_error (hrun'.trans hrun)]

end Fuel

/-- Collaborators of a world that has the incident, with which everything goes well, whose builder
makes an envelope with an empty trace id. -/
def namelessCollaborators : Collaborators (Unit × IncidentState ℤ) (Scalar Empty) ℤ :=
  obliging [[]] (fun _ _ ↦ pure ⟨"", "", [], []⟩) ⟨.nothing, []⟩ [[]]

/-- What is returned, if a run returns. -/
def certIdOf : Except Raised (Stage Empty) → Option String
  | .ok (.returned certId) => some certId
  | _ => none

end DriftGuardX.Incident
