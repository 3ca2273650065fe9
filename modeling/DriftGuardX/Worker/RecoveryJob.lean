import DriftGuardX.Certification.RecoveryLoop
import DriftGuardX.Foundation.Program
import DriftGuardX.Jobs.Orchestrator
import Mathlib.Logic.Function.Basic

/-!
# The recovery jobs of the worker

Two jobs run the recovery loop: `execute_recovery_job` and, before it, `run_recovery_diagnosis`. The
loop returns nothing, a result that says that the evidence is insufficient, or an approval request,
which it adds to the database.

The result for insufficient evidence is truthy and has an `id` that is `None`, of which `str` is a text
that is not null. The first job tells it from a request by this text alone, and the second only when the
row of its job is there.
-/

namespace DriftGuardX.Worker

open Bcrb Bytes Certification Json Program
open Isolation (Uuid)
open Jobs (JobStatus)
open Replay (ComponentType uuidText)
open Transaction (orRaise require orRaise_eq_ok_iff require_eq_ok_iff mapError_eq_ok_iff)

/-! ## Jobs and the database -/

/-- What the jobs raise. -/
inductive RecoveryJobError
  | valueError (message : String)
  | permissionError (message : String)
  | loop (error : LoopError)
  deriving DecidableEq, Repr

/-- What a row of `jobs` keeps of a diagnosis. -/
inductive DiagnosisRecord (R : Type)
  | insufficientEvidence (nextAction : Option String) (highestPosterior threshold : Option R)
      (highestCandidateComponent : Option ComponentType)
  | approvalRequest (approvalRequestId : String)
  | noCandidates

/-- What `run_recovery_diagnosis` returns: the record of insufficient evidence, or a success. -/
inductive DiagnosisReturn (R : Type)
  | record (record : DiagnosisRecord R)
  | success (approvalRequestId : Option String)

/-- What `execute_recovery_job` returns. -/
structure RecoveryJobResult where
  status : String
  action : String
  runId : String
  approvalRequestId : Option String
  verificationPassed : Bool
  deriving DecidableEq, Repr

inductive DiagnosisJobStatus
  | queued
  | running
  | succeeded
  | failed
  deriving DecidableEq, Repr

/-- A row of `jobs`. -/
structure JobORM (R : Type) where
  status : DiagnosisJobStatus
  result : Option (DiagnosisRecord R)
  error : Option RecoveryJobError

/-- A row of `background_jobs`. -/
structure BackgroundJobORM where
  status : JobStatus
  resultJson : Option RecoveryJobResult
  errorMessage : Option RecoveryJobError

/-- The tables that the jobs read and write. Of a run only its tenant is read. -/
structure RecoveryDatabase (R F : Type) where
  runs : Uuid → Option Uuid
  jobs : Uuid → Option (JobORM R)
  backgroundJobs : Uuid → Option BackgroundJobORM
  approvalRequests : List (Uuid × ApprovalRequestORM F)

/-- A call of a job: its payload, with what the planner makes of the invocations when they can be
read, what comes of quarantines and canaries, and the ids that are drawn. -/
structure RecoveryCall {R : Type} [LinearOrder R] [Add R] [Sub R] [Mul R] [Div R]
    (lib : FloatLibrary R) where
  jobId : String
  tenantId : String
  runId : String
  invocations : Option (Plan lib)
  quarantine : ComponentType → QuarantineOutcome
  canary : BCRBCandidate R → CanaryOutcome R
  interventionId : Uuid
  requestId : Uuid
  now : ℤ

/-! ## What the loop returns, as the jobs read it -/

section Read

variable {R F : Type}

/-- `approval_req.id` -/
def idOf (requestId : Uuid) : LoopResult R F → Option Uuid
  | .request _ => some requestId
  | _ => none

/-- `bool(approval_req)`, and `approval_req is not None`. -/
def returned : LoopResult R F → Bool
  | .nothing => false
  | _ => true

def approvalStatusValue : ApprovalStatus → String
  | .pending => "pending"
  | .expired => "expired"
  | .rejected => "rejected"
  | .awaitingPromotion => "awaiting_promotion"
  | .approved => "approved"

/-- `getattr(approval_req, "status", None)` -/
def returnedStatus : LoopResult R F → Option String
  | .nothing => none
  | .insufficientEvidence .. => "INSUFFICIENT_EVIDENCE"
  | .request request => approvalStatusValue request.status

/-- `str(approval_req.id) if approval_req else None` -/
def approvalId (requestId : Uuid) (result : LoopResult R F) : Option String :=
  if returned result then some (optionText (idOf requestId result)) else none

/-- The other attributes of the result, where it has them. -/
def insufficientRecord : LoopResult R F → DiagnosisRecord R
  | .insufficientEvidence nextAction highestPosterior threshold component =>
    .insufficientEvidence nextAction highestPosterior threshold component
  | _ => .insufficientEvidence none none none none

/-- What is kept of the result in the row of the job. -/
def recordOf (requestId : Uuid) (result : LoopResult R F) : DiagnosisRecord R :=
  if returned result ∧ returnedStatus result = some "INSUFFICIENT_EVIDENCE" then
    insufficientRecord result
  else match approvalId requestId result with
    | some id => .approvalRequest id
    | none => .noCandidates

end Read

/-! ## The jobs -/

namespace RecoveryDatabase

variable {R F : Type}

/-- An update of the row of a job, if there is one. -/
def updateJob (d : RecoveryDatabase R F) (id : Uuid) (f : JobORM R → JobORM R) :
    RecoveryDatabase R F :=
  { d with jobs := Function.update d.jobs id ((d.jobs id).map f) }

def updateBackgroundJob (d : RecoveryDatabase R F) (id : Uuid)
    (f : BackgroundJobORM → BackgroundJobORM) : RecoveryDatabase R F :=
  { d with backgroundJobs := Function.update d.backgroundJobs id ((d.backgroundJobs id).map f) }

/-- `db.add` of what the loop returns, if it is a request. -/
def addResult (d : RecoveryDatabase R F) (requestId : Uuid) :
    LoopResult R F → RecoveryDatabase R F
  | .request request => { d with approvalRequests := d.approvalRequests ++ [(requestId, request)] }
  | _ => d

end RecoveryDatabase

/-- A session that commits at its end: what was done before an exception is rolled back. -/
def inSession {σ ε α : Type} (x : Program σ ε α) : Program σ ε α := fun s ↦
  match x s with
  | (.ok a, s') => (.ok a, s')
  | (.error e, _) => (.error e, s)

section InSession

variable {σ ε α : Type} {x : Program σ ε α} {s s' : σ}

theorem inSession_of_ok {a : α} (h : x s = (.ok a, s')) : inSession x s = (.ok a, s') := by
  rw [inSession, h]

theorem inSession_of_error {e : ε} (h : x s = (.error e, s')) : inSession x s = (.error e, s) := by
  rw [inSession, h]

theorem inSession_returns_iff {a : α} :
    inSession x s = (.ok a, s') ↔ x s = (.ok a, s') := by
  rcases exists_ok_or_error x s with ⟨b, t, h⟩ | ⟨e, t, h⟩
  · rw [inSession_of_ok h, h]
  · simp [inSession_of_error h, h]

theorem triple_inSession {pre : σ → Prop} :
    Triple pre (inSession x) (fun _ _ ↦ True) fun _ ↦ pre := by
  intro s hs
  rcases exists_ok_or_error x s with ⟨a, t, h⟩ | ⟨e, t, h⟩
  · exact ends_of_ok (inSession_of_ok h) trivial
  · exact ends_of_error (inSession_of_error h) hs

end InSession

/-! ## Whether a request was added -/

section Requests

variable {R F : Type} {d d' : RecoveryDatabase R F} {approvalReq : LoopResult R F}

/-- An approval request was added to the database. -/
def AddsRequest (d d' : RecoveryDatabase R F) : Prop :=
  ∃ row, d'.approvalRequests = d.approvalRequests ++ [row]

/-- The loop ended for insufficient evidence. -/
def Insufficient : Except LoopError (LoopResult R F) → Prop
  | .ok (.insufficientEvidence ..) => True
  | _ => False

instance : DecidablePred (Insufficient (R := R) (F := F))
  | .ok (.insufficientEvidence ..) => .isTrue trivial
  | .ok .nothing => .isFalse id
  | .ok (.request _) => .isFalse id
  | .error _ => .isFalse id

/-- The result of the loop is a request. -/
def IsRequest (approvalReq : LoopResult R F) : Prop := ∃ request, approvalReq = .request request

theorem not_addsRequest (h : d'.approvalRequests = d.approvalRequests) : ¬ AddsRequest d d' := by
  rintro ⟨row, hrow⟩
  have hlength := congrArg List.length (h.symm.trans hrow)
  rw [List.length_append, List.length_singleton] at hlength
  omega

theorem addsRequest_iff {requestId : Uuid}
    (h : d'.approvalRequests = (d.addResult requestId approvalReq).approvalRequests) :
    AddsRequest d d' ↔ IsRequest approvalReq := by
  cases approvalReq with
  | request request => exact iff_of_true ⟨_, h⟩ ⟨request, rfl⟩
  | nothing => exact iff_of_false (not_addsRequest h) fun ⟨_, heq⟩ ↦ nomatch heq
  | insufficientEvidence => exact iff_of_false (not_addsRequest h) fun ⟨_, heq⟩ ↦ nomatch heq

theorem approvalId_isUuid_iff {requestId : Uuid} :
    (∃ id, approvalId requestId approvalReq = some (uuidText id)) ↔ IsRequest approvalReq := by
  cases approvalReq with
  | request request => exact iff_of_true ⟨requestId, rfl⟩ ⟨request, rfl⟩
  | nothing => exact iff_of_false (fun ⟨_, h⟩ ↦ nomatch h) fun ⟨_, heq⟩ ↦ nomatch heq
  | insufficientEvidence =>
    refine iff_of_false (fun ⟨id, h⟩ ↦ ?_) fun ⟨_, heq⟩ ↦ nomatch heq
    have hnone : optionText none = optionText (some id) := Option.some.inj h
    exact nomatch optionText_injective hnone

theorem approvalStatusValue_ne (status : ApprovalStatus) :
    approvalStatusValue status ≠ "INSUFFICIENT_EVIDENCE" := by
  cases status <;> decide

theorem IsRequest.not_insufficient (h : IsRequest approvalReq) :
    ¬ Insufficient (.ok approvalReq) := by
  obtain ⟨_, rfl⟩ := h
  exact id

end Requests

section RaisesKeep

variable {R F α β : Type} {d : RecoveryDatabase R F}

/-- A run that keeps the requests unless it returns. -/
def RaisesKeep (d : RecoveryDatabase R F)
    (x : Program (RecoveryDatabase R F) RecoveryJobError α) : Prop :=
  Triple (fun t ↦ t.approvalRequests = d.approvalRequests) x (fun _ _ ↦ True)
    fun _ t ↦ t.approvalRequests = d.approvalRequests

variable {x : Program (RecoveryDatabase R F) RecoveryJobError α}
  {f : α → Program (RecoveryDatabase R F) RecoveryJobError β}
  {g : RecoveryDatabase R F → RecoveryDatabase R F}

theorem raisesKeep_ofExcept_bind {y : Except RecoveryJobError α} (h : ∀ a, RaisesKeep d (f a)) :
    RaisesKeep d (ofExcept y >>= f) :=
  (triple_ofExcept (fun _ _ _ ht ↦ ht) fun _ _ _ ht ↦ ht).bind h

theorem raisesKeep_modify_bind {y : Program (RecoveryDatabase R F) RecoveryJobError β}
    (hg : ∀ t, (g t).approvalRequests = t.approvalRequests) (h : RaisesKeep d y) :
    RaisesKeep d (modify g >>= fun _ ↦ y) := by
  have hmodify : Keeps (fun t ↦ t.approvalRequests = d.approvalRequests)
      (modify g : Program _ RecoveryJobError Unit) := triple_modify fun t ht ↦ (hg t).trans ht
  exact hmodify.bind fun _ ↦ h

theorem raisesKeep_returns {value : α → β} {next : α → RecoveryDatabase R F → RecoveryDatabase R F}
    (h : RaisesKeep d x) : RaisesKeep d (do let a ← x; modify (next a); pure (value a)) := by
  refine h.bind fun a ↦ ?_
  have hmodify : Triple (fun _ ↦ True) (modify (next a) : Program _ RecoveryJobError Unit)
      (fun _ _ ↦ True) fun _ t ↦ t.approvalRequests = d.approvalRequests :=
    triple_modify fun _ _ ↦ trivial
  exact hmodify.bind fun _ ↦ triple_pure fun _ _ ↦ trivial

theorem raisesKeep_attempt {k : RecoveryJobError → RecoveryDatabase R F → RecoveryDatabase R F}
    (hk : ∀ e t, (k e t).approvalRequests = t.approvalRequests) (h : RaisesKeep d x) :
    RaisesKeep d (attempt x fun e ↦ do modify (k e); raise e) :=
  Triple.attempt h fun e ↦ raisesKeep_modify_bind (hk e) (triple_raise fun _ ht ↦ ht)

end RaisesKeep

section Jobs

variable {R : Type} [LinearOrder R] [Add R] [Sub R] [Mul R] [Div R] {lib : FloatLibrary R}
  {K F : Type} (certificates : CertificationLibrary K F) (sha256 : List UInt8 → String)

/-- `uuid.UUID(text)` -/
def parseUuid (text : String) : Except RecoveryJobError Uuid :=
  orRaise (.valueError "badly formed hexadecimal UUID string") (certificates.uuid text)

/-- What the loop of a call returns. -/
def loopResult (call : RecoveryCall lib) (plan : Plan lib) : Except LoopError (LoopResult R F) :=
  EndToEndRecoveryPipeline.executeRecoveryLoop certificates sha256
    { tenantId := call.tenantId, quarantine := call.quarantine } call.runId plan call.canary
    call.interventionId call.now

/-- The loop with a database, to which it adds its request. -/
def executeLoop (call : RecoveryCall lib) (plan : Plan lib) :
    Program (RecoveryDatabase R F) RecoveryJobError (LoopResult R F) := do
  let result ← ofExcept ((loopResult certificates sha256 call plan).mapError .loop)
  modify fun d ↦ d.addResult call.requestId result
  return result

/-- `_agent_invocation_from_payload` of each of the invocations. -/
def readInvocations (call : RecoveryCall lib) : Except RecoveryJobError (Plan lib) :=
  orRaise (.valueError "invocation") call.invocations

/-- The result of `execute_recovery_job` for what the loop returned. -/
def jobResult (call : RecoveryCall lib) (approvalReq : LoopResult R F) : RecoveryJobResult where
  status := "completed"
  action := "recovery"
  runId := call.runId
  approvalRequestId := approvalId call.requestId approvalReq
  verificationPassed := returned approvalReq

/-- The check that the run is there and belongs to the tenant, with its two exceptions. -/
def checkOwner (call : RecoveryCall lib) (tenantUuid : Uuid) :
    Option Uuid → Except RecoveryJobError Unit
  | none => .error (.valueError s!"Run not found: {call.runId}")
  | some owner =>
    require (owner = tenantUuid)
      (.permissionError s!"Run {call.runId} does not belong to tenant {call.tenantId}")

/-- The part of `execute_recovery_job` in which exceptions are handled. -/
def recover (call : RecoveryCall lib) (tenantUuid : Uuid) :
    Program (RecoveryDatabase R F) RecoveryJobError (LoopResult R F) := do
  ofExcept (require (call.runId ≠ "")
    (.valueError "Recovery payload missing required field: run_id"))
  let plan ← ofExcept (readInvocations call)
  inSession do
    let runUuid ← ofExcept (parseUuid certificates call.runId)
    let d ← get
    ofExcept (checkOwner call tenantUuid (d.runs runUuid))
    executeLoop certificates sha256 call plan

/-- `execute_recovery_job` -/
def executeRecoveryJob (call : RecoveryCall lib) :
    Program (RecoveryDatabase R F) RecoveryJobError RecoveryJobResult := do
  let jobUuid ← ofExcept (parseUuid certificates call.jobId)
  let tenantUuid ← ofExcept (parseUuid certificates call.tenantId)
  modify (·.updateBackgroundJob jobUuid ({ · with status := .running }))
  attempt (do
      let approvalReq ← recover certificates sha256 call tenantUuid
      let result := jobResult call approvalReq
      modify (·.updateBackgroundJob jobUuid fun row ↦
        if row.status ≠ .cancelled then
          { row with status := .completed, resultJson := result }
        else row)
      return result)
    fun e ↦ do
      modify (·.updateBackgroundJob jobUuid ({ · with status := .failed, errorMessage := e }))
      raise e

/-- What `run_recovery_diagnosis` returns for what the loop returned, with or without the row of its
job. -/
def diagnosisReturn (call : RecoveryCall lib) (hasJob : Bool) (approvalReq : LoopResult R F) :
    DiagnosisReturn R :=
  if returned approvalReq ∧ returnedStatus approvalReq = some "INSUFFICIENT_EVIDENCE" ∧ hasJob then
    .record (recordOf call.requestId approvalReq)
  else .success (approvalId call.requestId approvalReq)

/-- `run_recovery_diagnosis` -/
def runRecoveryDiagnosis (call : RecoveryCall lib) :
    Program (RecoveryDatabase R F) RecoveryJobError (DiagnosisReturn R) := do
  let plan ← ofExcept (readInvocations call)
  let jobUuid ← ofExcept (parseUuid certificates call.jobId)
  let jobOrm := (← get).jobs jobUuid
  -- the updates find no row when there is none
  modify (·.updateJob jobUuid ({ · with status := .running }))
  attempt (do
      let approvalReq ← inSession (executeLoop certificates sha256 call plan)
      modify (·.updateJob jobUuid
        ({ · with status := .succeeded, result := recordOf call.requestId approvalReq }))
      return diagnosisReturn call jobOrm.isSome approvalReq)
    fun e ↦ do
      modify (·.updateJob jobUuid ({ · with status := .failed, error := e }))
      raise e

/-! ## How the jobs end -/

variable {certificates sha256} {call : RecoveryCall lib} {plan : Plan lib} {tenantUuid : Uuid}
  {d : RecoveryDatabase R F}

theorem checkOwner_eq_ok_iff {owner : Option Uuid} {u : Unit} :
    checkOwner call tenantUuid owner = .ok u ↔ owner = some tenantUuid := by
  cases owner <;> simp [checkOwner]

theorem executeLoop_returns_iff {approvalReq : LoopResult R F} {d' : RecoveryDatabase R F} :
    executeLoop certificates sha256 call plan d = (.ok approvalReq, d') ↔
      loopResult certificates sha256 call plan = .ok approvalReq ∧
        d.addResult call.requestId approvalReq = d' := by
  simp only [executeLoop, bind_returns_iff, ofExcept_returns_iff, mapError_eq_ok_iff,
    modify_returns_iff, pure_returns_iff]
  constructor
  · rintro ⟨_, _, ⟨hloop, rfl⟩, _, _, rfl, rfl, rfl⟩
    exact ⟨hloop, rfl⟩
  · rintro ⟨hloop, rfl⟩
    exact ⟨_, _, ⟨hloop, rfl⟩, (), _, rfl, rfl, rfl⟩

/-- A call that reaches the loop: its run is there and belongs to its tenant, and its invocations can be
read. -/
structure Admits (certificates : CertificationLibrary K F) (call : RecoveryCall lib)
    (d : RecoveryDatabase R F) (plan : Plan lib) : Prop where
  run : call.runId ≠ ""
  invocations : call.invocations = some plan
  owned : ∃ runUuid tenantUuid, certificates.uuid call.runId = some runUuid ∧
    certificates.uuid call.tenantId = some tenantUuid ∧ d.runs runUuid = some tenantUuid

theorem recover_returns_iff {approvalReq : LoopResult R F} {d' : RecoveryDatabase R F}
    (htenant : certificates.uuid call.tenantId = some tenantUuid) :
    recover certificates sha256 call tenantUuid d = (.ok approvalReq, d') ↔
      (∃ plan, Admits certificates call d plan ∧
        loopResult certificates sha256 call plan = .ok approvalReq) ∧
      d.addResult call.requestId approvalReq = d' := by
  simp only [recover, bind_returns_iff, ofExcept_returns_iff, get_returns_iff,
    inSession_returns_iff, executeLoop_returns_iff, require_eq_ok_iff, readInvocations, parseUuid,
    orRaise_eq_ok_iff, checkOwner_eq_ok_iff]
  constructor
  · rintro ⟨_, _, ⟨hrun, rfl⟩, plan, _, ⟨hplan, rfl⟩, runUuid, _, ⟨huuid, rfl⟩, _, _, ⟨rfl, rfl⟩, _,
      _, ⟨howner, rfl⟩, hloop, rfl⟩
    exact ⟨⟨plan, ⟨hrun, hplan, runUuid, tenantUuid, huuid, htenant, howner⟩, hloop⟩, rfl⟩
  · rintro ⟨⟨plan, ⟨hrun, hplan, runUuid, tenantUuid', huuid, htenant', howner⟩, hloop⟩, rfl⟩
    obtain rfl := Option.some.inj (htenant.symm.trans htenant')
    exact ⟨(), d, ⟨hrun, rfl⟩, plan, d, ⟨hplan, rfl⟩, runUuid, d, ⟨huuid, rfl⟩, d, d, ⟨rfl, rfl⟩, (),
      d, ⟨howner, rfl⟩, hloop, rfl⟩

theorem attempt_raise_returns_iff {σ ε α : Type} {x : Program σ ε α} {f : ε → σ → σ} {s s' : σ}
    {a : α} : attempt x (fun e ↦ do modify (f e); raise e) s = (.ok a, s') ↔ x s = (.ok a, s') := by
  simp [attempt_returns_iff, bind_returns_iff, not_raise_returns]

variable {approvalReq : LoopResult R F} {d' : RecoveryDatabase R F}

/-- **`execute_recovery_job` reports what the loop returned**, and adds it to the database. -/
theorem executeRecoveryJob_of_ok {result : RecoveryJobResult}
    (h : executeRecoveryJob certificates sha256 call d = (.ok result, d')) :
    (certificates.uuid call.jobId).isSome ∧ ∃ plan approvalReq, Admits certificates call d plan ∧
      loopResult certificates sha256 call plan = .ok approvalReq ∧
      jobResult call approvalReq = result ∧
      d'.approvalRequests = (d.addResult call.requestId approvalReq).approvalRequests := by
  simp only [executeRecoveryJob, bind_returns_iff, ofExcept_returns_iff, parseUuid,
    orRaise_eq_ok_iff, modify_returns_iff, attempt_raise_returns_iff, pure_returns_iff] at h
  obtain ⟨jobUuid, _, ⟨hjob, rfl⟩, tenantUuid, _, ⟨htenant, rfl⟩, _, _, rfl, approvalReq, _, hrecover,
    _, _, rfl, rfl, rfl⟩ := h
  obtain ⟨⟨plan, hadmits, hloop⟩, rfl⟩ := (recover_returns_iff htenant).mp hrecover
  refine ⟨Option.isSome_iff_exists.mpr ⟨jobUuid, hjob⟩, plan, approvalReq, ⟨hadmits.run,
    hadmits.invocations, hadmits.owned⟩, hloop, rfl, ?_⟩
  cases approvalReq <;> rfl

theorem executeRecoveryJob_of_admits (hjob : (certificates.uuid call.jobId).isSome)
    (hadmits : Admits certificates call d plan)
    (hloop : loopResult certificates sha256 call plan = .ok approvalReq) :
    ∃ d', executeRecoveryJob certificates sha256 call d = (.ok (jobResult call approvalReq), d') := by
  obtain ⟨jobUuid, hjob⟩ := Option.isSome_iff_exists.mp hjob
  obtain ⟨runUuid, tenantUuid, hrun, htenant, howner⟩ := hadmits.owned
  let d₁ := d.updateBackgroundJob jobUuid ({ · with status := .running })
  have hrecover : recover certificates sha256 call tenantUuid d₁
      = (.ok approvalReq, d₁.addResult call.requestId approvalReq) :=
    (recover_returns_iff htenant).mpr ⟨⟨plan, ⟨hadmits.run, hadmits.invocations, runUuid, tenantUuid,
      hrun, htenant, howner⟩, hloop⟩, rfl⟩
  simp only [executeRecoveryJob, bind_returns_iff, ofExcept_returns_iff, parseUuid,
    orRaise_eq_ok_iff, modify_returns_iff, attempt_raise_returns_iff, pure_returns_iff]
  exact ⟨_, jobUuid, d, ⟨hjob, rfl⟩, tenantUuid, d, ⟨htenant, rfl⟩, (), d₁, rfl, approvalReq, _,
    hrecover, (), _, rfl, rfl, rfl⟩

theorem executeRecoveryJob_of_error {e : RecoveryJobError}
    (h : executeRecoveryJob certificates sha256 call d = (.error e, d')) :
    d'.approvalRequests = d.approvalRequests := by
  have hkeep : RaisesKeep d (executeRecoveryJob (F := F) certificates sha256 call) := by
    refine raisesKeep_ofExcept_bind fun jobUuid ↦ raisesKeep_ofExcept_bind fun tenantUuid ↦ ?_
    refine raisesKeep_modify_bind (fun _ ↦ rfl) (raisesKeep_attempt (fun _ _ ↦ rfl) ?_)
    refine raisesKeep_returns (raisesKeep_ofExcept_bind fun _ ↦ raisesKeep_ofExcept_bind fun _ ↦ ?_)
    exact triple_inSession
  exact (hkeep d rfl).2 e d' h

/-- **`run_recovery_diagnosis` reports what the loop returned**, and adds it to the database. -/
theorem runRecoveryDiagnosis_of_ok {result : DiagnosisReturn R}
    (h : runRecoveryDiagnosis certificates sha256 call d = (.ok result, d')) :
    ∃ plan jobUuid approvalReq, call.invocations = some plan ∧
      certificates.uuid call.jobId = some jobUuid ∧
      loopResult certificates sha256 call plan = .ok approvalReq ∧
      diagnosisReturn call (d.jobs jobUuid).isSome approvalReq = result ∧
      d'.approvalRequests = (d.addResult call.requestId approvalReq).approvalRequests := by
  simp only [runRecoveryDiagnosis, bind_returns_iff, ofExcept_returns_iff, parseUuid,
    readInvocations, orRaise_eq_ok_iff, modify_returns_iff, attempt_raise_returns_iff,
    get_returns_iff, inSession_returns_iff, executeLoop_returns_iff, pure_returns_iff] at h
  obtain ⟨plan, _, ⟨hplan, rfl⟩, jobUuid, _, ⟨hjob, rfl⟩, _, _, ⟨rfl, rfl⟩, _, _, rfl, approvalReq,
    _, ⟨hloop, rfl⟩, _, _, rfl, rfl, rfl⟩ := h
  refine ⟨plan, jobUuid, approvalReq, hplan, hjob, hloop, rfl, ?_⟩
  cases approvalReq <;> rfl

theorem runRecoveryDiagnosis_of_loop {jobUuid : Uuid} (hplan : call.invocations = some plan)
    (hjob : certificates.uuid call.jobId = some jobUuid)
    (hloop : loopResult certificates sha256 call plan = .ok approvalReq) :
    ∃ d', runRecoveryDiagnosis certificates sha256 call d
      = (.ok (diagnosisReturn call (d.jobs jobUuid).isSome approvalReq), d') := by
  simp only [runRecoveryDiagnosis, bind_returns_iff, ofExcept_returns_iff, parseUuid,
    readInvocations, orRaise_eq_ok_iff, modify_returns_iff, attempt_raise_returns_iff,
    get_returns_iff, inSession_returns_iff, executeLoop_returns_iff, pure_returns_iff]
  exact ⟨_, plan, d, ⟨hplan, rfl⟩, jobUuid, d, ⟨hjob, rfl⟩, d, d, ⟨rfl, rfl⟩, (), _, rfl, approvalReq,
    _, ⟨hloop, rfl⟩, (), _, rfl, rfl, rfl⟩

theorem runRecoveryDiagnosis_of_error {e : RecoveryJobError}
    (h : runRecoveryDiagnosis certificates sha256 call d = (.error e, d')) :
    d'.approvalRequests = d.approvalRequests := by
  have hkeep : RaisesKeep d (runRecoveryDiagnosis (F := F) certificates sha256 call) := by
    refine raisesKeep_ofExcept_bind fun plan ↦ raisesKeep_ofExcept_bind fun jobUuid ↦ ?_
    refine triple_get_eq.bind fun t ↦ (?_ : Triple _ _ _ _).weaken (fun _ ht ↦ ht.2)
      (fun _ _ ht ↦ ht) fun _ _ ht ↦ ht
    refine raisesKeep_modify_bind (fun _ ↦ rfl) (raisesKeep_attempt (fun _ _ ↦ rfl) ?_)
    exact raisesKeep_returns triple_inSession
  exact (hkeep d rfl).2 e d' h

/-! ## Whether the reports are true -/

/-- `execute_recovery_job` returns `verification_passed = True` and the text of an id exactly when it
added a request. -/
def JobTruthful (certificates : CertificationLibrary K F) (sha256 : List UInt8 → String)
    (call : RecoveryCall lib) (d : RecoveryDatabase R F) : Prop :=
  (∃ result d', executeRecoveryJob certificates sha256 call d = (.ok result, d') ∧
    result.verificationPassed = true ∧ ∃ id, result.approvalRequestId = some (uuidText id)) ↔
  AddsRequest d (executeRecoveryJob certificates sha256 call d).2

/-- The same of `verification_passed` alone. -/
def PassedTruthful (certificates : CertificationLibrary K F) (sha256 : List UInt8 → String)
    (call : RecoveryCall lib) (d : RecoveryDatabase R F) : Prop :=
  (∃ result d', executeRecoveryJob certificates sha256 call d = (.ok result, d') ∧
    result.verificationPassed = true) ↔
  AddsRequest d (executeRecoveryJob certificates sha256 call d).2

/-- `run_recovery_diagnosis` returns a success with an id that is not null exactly when it added a
request. -/
def DiagnosisTruthful (certificates : CertificationLibrary K F) (sha256 : List UInt8 → String)
    (call : RecoveryCall lib) (d : RecoveryDatabase R F) : Prop :=
  (∃ id d', runRecoveryDiagnosis certificates sha256 call d = (.ok (.success (some id)), d')) ↔
  AddsRequest d (runRecoveryDiagnosis certificates sha256 call d).2

/-- `execute_recovery_job` reaches the loop, which ends for insufficient evidence. -/
def JobInsufficient (certificates : CertificationLibrary K F) (sha256 : List UInt8 → String)
    (call : RecoveryCall lib) (d : RecoveryDatabase R F) : Prop :=
  (certificates.uuid call.jobId).isSome ∧ ∃ plan, Admits certificates call d plan ∧
    Insufficient (F := F) (loopResult certificates sha256 call plan)

/-- `run_recovery_diagnosis` reaches the loop, which ends for insufficient evidence, and the row of
the job is missing. -/
def UnrecordedInsufficient (certificates : CertificationLibrary K F) (sha256 : List UInt8 → String)
    (call : RecoveryCall lib) (d : RecoveryDatabase R F) : Prop :=
  ∃ plan jobUuid, call.invocations = some plan ∧ certificates.uuid call.jobId = some jobUuid ∧
    d.jobs jobUuid = none ∧ Insufficient (F := F) (loopResult certificates sha256 call plan)

/-- A diagnosis is reported as a success with an id for a request, and for insufficient evidence
without a row. -/
theorem diagnosisReturn_eq_success_iff (call : RecoveryCall lib) {hasJob : Bool} :
    (∃ id, diagnosisReturn call hasJob approvalReq = .success (some id)) ↔
      IsRequest approvalReq ∨ hasJob = false ∧ Insufficient (.ok approvalReq) := by
  cases approvalReq with
  | request request =>
    refine iff_of_true ⟨uuidText call.requestId, if_neg fun h ↦ ?_⟩ (Or.inl ⟨request, rfl⟩)
    exact approvalStatusValue_ne request.status (Option.some.inj h.2.1)
  | nothing =>
    refine iff_of_false (fun ⟨_, h⟩ ↦ ?_) ?_
    · simp [diagnosisReturn, returned, approvalId] at h
    · rintro (⟨_, h⟩ | ⟨_, h⟩)
      · exact nomatch h
      · exact h
  | insufficientEvidence a b c e =>
    cases hasJob with
    | false => exact iff_of_true ⟨"None", rfl⟩ (Or.inr ⟨rfl, trivial⟩)
    | true =>
      refine iff_of_false (fun ⟨_, h⟩ ↦ ?_) ?_
      · simp [diagnosisReturn, returned, returnedStatus] at h
      · rintro (⟨_, h⟩ | ⟨h, _⟩)
        · exact nomatch h
        · exact nomatch h

/-- The two reports of `execute_recovery_job` together are always true. -/
theorem jobTruthful (certificates : CertificationLibrary K F) (sha256 : List UInt8 → String)
    (call : RecoveryCall lib) (d : RecoveryDatabase R F) :
    JobTruthful certificates sha256 call d := by
  rcases exists_ok_or_error (executeRecoveryJob certificates sha256 call) d with
    ⟨result, d', hrun⟩ | ⟨e, d', hrun⟩
  · obtain ⟨-, plan, approvalReq, -, -, rfl, hrequests⟩ := executeRecoveryJob_of_ok hrun
    rw [JobTruthful, hrun, addsRequest_iff hrequests]
    constructor
    · rintro ⟨_, _, heq, -, hid⟩
      obtain rfl := Except.ok.inj (Prod.mk.inj heq).1
      exact approvalId_isUuid_iff.mp hid
    · rintro ⟨request, rfl⟩
      exact ⟨_, _, rfl, rfl, call.requestId, rfl⟩
  · rw [JobTruthful, hrun]
    refine iff_of_false ?_ (not_addsRequest (executeRecoveryJob_of_error hrun))
    rintro ⟨_, _, heq, -⟩
    exact nomatch (Prod.mk.inj heq).1

/-- `verification_passed` alone is true exactly when the loop did not end for insufficient evidence. -/
theorem passedTruthful_iff :
    PassedTruthful certificates sha256 call d ↔ ¬ JobInsufficient certificates sha256 call d := by
  rcases exists_ok_or_error (executeRecoveryJob certificates sha256 call) d with
    ⟨result, d', hrun⟩ | ⟨e, d', hrun⟩
  · obtain ⟨hjob, plan, approvalReq, hadmits, hloop, rfl, hrequests⟩ := executeRecoveryJob_of_ok hrun
    have hpassed : (∃ result t, executeRecoveryJob certificates sha256 call d = (.ok result, t) ∧
        result.verificationPassed = true) ↔ returned approvalReq = true := by
      rw [hrun]
      constructor
      · rintro ⟨_, _, heq, hpassed⟩
        obtain rfl := Except.ok.inj (Prod.mk.inj heq).1
        exact hpassed
      · exact fun hpassed ↦ ⟨_, _, rfl, hpassed⟩
    have hinsufficient : JobInsufficient certificates sha256 call d ↔
        Insufficient (.ok approvalReq) := by
      constructor
      · rintro ⟨-, plan', hadmits', hends⟩
        obtain rfl := Option.some.inj (hadmits.invocations.symm.trans hadmits'.invocations)
        rwa [hloop] at hends
      · exact fun hends ↦ ⟨hjob, plan, hadmits, hloop ▸ hends⟩
    rw [PassedTruthful, hpassed, hrun, addsRequest_iff hrequests, hinsufficient]
    cases approvalReq with
    | nothing => exact iff_of_true (iff_of_false (by simp [returned]) fun ⟨_, h⟩ ↦ nomatch h) id
    | insufficientEvidence =>
      refine iff_of_false (fun h ↦ ?_) (not_not.mpr trivial)
      obtain ⟨_, heq⟩ := h.mp rfl
      exact nomatch heq
    | request request => exact iff_of_true (iff_of_true rfl ⟨request, rfl⟩) id
  · rw [PassedTruthful, hrun]
    refine iff_of_true (iff_of_false ?_ (not_addsRequest (executeRecoveryJob_of_error hrun))) ?_
    · rintro ⟨_, _, heq, -⟩
      exact nomatch (Prod.mk.inj heq).1
    · rintro ⟨hjob, plan, hadmits, hends⟩
      cases hloop : loopResult (F := F) certificates sha256 call plan with
      | error e => rw [hloop] at hends; exact hends
      | ok approvalReq =>
        obtain ⟨t, hok⟩ := executeRecoveryJob_of_admits hjob hadmits hloop
        exact nomatch (Prod.mk.inj (hrun.symm.trans hok)).1

/-- The report of `run_recovery_diagnosis` is true exactly when the loop did not end for insufficient
evidence without a row of the job. -/
theorem diagnosisTruthful_iff : DiagnosisTruthful certificates sha256 call d ↔
    ¬ UnrecordedInsufficient certificates sha256 call d := by
  rcases exists_ok_or_error (runRecoveryDiagnosis certificates sha256 call) d with
    ⟨result, d', hrun⟩ | ⟨e, d', hrun⟩
  · obtain ⟨plan, jobUuid, approvalReq, hplan, hjob, hloop, rfl, hrequests⟩ :=
      runRecoveryDiagnosis_of_ok hrun
    have hsuccess : (∃ id t, runRecoveryDiagnosis certificates sha256 call d
        = (.ok (.success (some id)), t)) ↔
        IsRequest approvalReq ∨ (d.jobs jobUuid).isSome = false ∧ Insufficient (.ok approvalReq) := by
      rw [hrun, ← diagnosisReturn_eq_success_iff call]
      constructor
      · rintro ⟨id, _, heq⟩
        exact ⟨id, Except.ok.inj (Prod.mk.inj heq).1⟩
      · rintro ⟨id, heq⟩
        exact ⟨id, d', by rw [heq]⟩
    have hunrecorded : UnrecordedInsufficient certificates sha256 call d ↔
        (d.jobs jobUuid).isSome = false ∧ Insufficient (.ok approvalReq) := by
      constructor
      · rintro ⟨plan', jobUuid', hplan', hjob', hnone, hends⟩
        obtain rfl := Option.some.inj (hplan.symm.trans hplan')
        obtain rfl := Option.some.inj (hjob.symm.trans hjob')
        rw [hloop] at hends
        exact ⟨by rw [hnone]; rfl, hends⟩
      · rintro ⟨hnone, hends⟩
        exact ⟨plan, jobUuid, hplan, hjob, by simpa using hnone, hloop ▸ hends⟩
    rw [DiagnosisTruthful, hsuccess, hrun, addsRequest_iff hrequests, hunrecorded]
    constructor
    · exact fun h hends ↦ (h.mp (Or.inr hends)).not_insufficient hends.2
    · exact fun hends ↦ or_iff_left hends
  · rw [DiagnosisTruthful, hrun]
    refine iff_of_true (iff_of_false ?_ (not_addsRequest (runRecoveryDiagnosis_of_error hrun))) ?_
    · rintro ⟨_, _, heq⟩
      exact nomatch (Prod.mk.inj heq).1
    · rintro ⟨plan, jobUuid, hplan, hjob, -, hends⟩
      cases hloop : loopResult (F := F) certificates sha256 call plan with
      | error e => rw [hloop] at hends; exact hends
      | ok approvalReq =>
        obtain ⟨t, hok⟩ := runRecoveryDiagnosis_of_loop (d := d) hplan hjob hloop
        exact nomatch (Prod.mk.inj (hrun.symm.trans hok)).1

/-- **When the jobs report what was added.** Both do unless the loop ends for insufficient evidence and
the row of the diagnosis is missing; read alone, `verification_passed` is true of a job only when its
loop does not end for insufficient evidence. -/
theorem truthful_iff :
    (JobTruthful certificates sha256 call d ∧ DiagnosisTruthful certificates sha256 call d ↔
      ¬ UnrecordedInsufficient certificates sha256 call d) ∧
    (PassedTruthful certificates sha256 call d ↔ ¬ JobInsufficient certificates sha256 call d) := by
  refine ⟨?_, passedTruthful_iff⟩
  rw [and_iff_right (jobTruthful certificates sha256 call d), diagnosisTruthful_iff]

end Jobs

/-! ## Insufficient evidence -/

/-- The loop for run 2 of tenant 1, whose canaries measure no difference, as job 3. -/
def sampleCall : RecoveryCall exactNumbers where
  jobId := uuidText 3
  tenantId := uuidText 1
  runId := uuidText 2
  invocations := samplePlan
  quarantine _ := .notImplemented
  canary := (sampleCanaries 0 0).execute
  interventionId := 4
  requestId := 5
  now := 0

/-- A database with run 2 of tenant 1, and without a row for job 3. -/
def sampleDatabase : RecoveryDatabase ℚ WholeFloat where
  runs id := if id = 2 then some 1 else none
  jobs _ := none
  backgroundJobs _ := none
  approvalRequests := []

theorem insufficient_sampleCall :
    Insufficient (F := WholeFloat) (loopResult numberedKeys hexDigest sampleCall samplePlan) := by
  decide +kernel

theorem admits_sampleCall : Admits numberedKeys sampleCall sampleDatabase samplePlan :=
  ⟨by decide +kernel, rfl, 2, 1, numberedKeys.uuid_uuidText 2, numberedKeys.uuid_uuidText 1, rfl⟩

/-- Neither report is true: the job passed its verification, and the diagnosis is a success with an
id. -/
theorem not_truthful_sampleCall :
    ¬ (JobTruthful numberedKeys hexDigest sampleCall sampleDatabase ∧
      DiagnosisTruthful numberedKeys hexDigest sampleCall sampleDatabase) ∧
    ¬ PassedTruthful numberedKeys hexDigest sampleCall sampleDatabase := by
  have hjob : numberedKeys (F := WholeFloat).uuid sampleCall.jobId = some 3 :=
    numberedKeys.uuid_uuidText 3
  refine ⟨fun h ↦ diagnosisTruthful_iff.mp h.2 ?_, fun h ↦ passedTruthful_iff.mp h ?_⟩
  · exact ⟨samplePlan, 3, rfl, hjob, rfl, insufficient_sampleCall⟩
  · exact ⟨by rw [hjob]; rfl, samplePlan, admits_sampleCall, insufficient_sampleCall⟩

end DriftGuardX.Worker
