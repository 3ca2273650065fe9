import DriftGuardX.Foundation.Runs
import DriftGuardX.Isolation.Isolator

/-!
# Background jobs

The status of a job stands in two places: the handle of the orchestrator that accepted it, and a row
of `background_jobs`. The task of the job, calls of `cancel_job` and the functions of the queue's
worker write them, each at its own time. A step here goes from one suspension to the next, or is one
statement of the database, which may fail; what was read for a statement may be old by then.

A task that is asked to stop is stopped at its next resumption. Before the coroutine is called this
ends the task, and later it is an exception that the task handles.
-/

namespace DriftGuardX.Jobs

open Isolation (Uuid)

inductive JobStatus
  | queued
  | running
  | completed
  | failed
  | cancelled
  deriving DecidableEq, Repr

def JobStatus.terminal : JobStatus → Bool
  | .completed | .failed | .cancelled => true
  | .queued | .running => false

/-- A row of `background_jobs`, without the columns that no step reads. -/
structure BackgroundJobORM where
  tenantId : Uuid
  status : JobStatus
  idempotencyKey : Option String
  deriving DecidableEq, Repr

/-- Where the task of a job stands. A row that was loaded for an update has the status it was loaded
with. -/
inductive Stage
  | created
  | persisting
  | persisted
  | calling
  | completing
  | completed (loaded : JobStatus)
  | closing
  | cancelling
  | failing
  | failed (loaded : JobStatus)
  | enqueuing
  | done
  deriving DecidableEq, Repr

/-- How the coroutine of a job ends. -/
inductive Outcome
  | returned
  | raised
  | cancelled
  deriving DecidableEq, Repr

/-- A `_JobHandle` with its task and the calls of `cancel_job` that wait for the database. -/
structure JobHandle where
  tenantId : String
  idempotencyKey : Option String
  status : JobStatus
  stage : Stage
  cancelRequested : Bool
  cancels : ℕ
  deriving DecidableEq, Repr

namespace JobHandle

/-- The handle that `submit_job` makes, and its task. -/
def init (test : Bool) (tenantId : String) (idempotencyKey : Option String) : JobHandle where
  tenantId := tenantId
  idempotencyKey := idempotencyKey
  status := .queued
  stage := if test then .created else .enqueuing
  cancelRequested := false
  cancels := 0

/-- `task.cancel()`, unless the task is done. -/
def cancelTask (job : JobHandle) : JobHandle :=
  { job with cancelRequested := job.cancelRequested || job.stage ≠ .done }

end JobHandle

/-- What happens to the task of a job, or in a call of `cancel_job` for it. A statement of the
database succeeds or not. -/
inductive TaskEvent
  | start
  | persist (ok : Bool)
  | call
  | finish (outcome : Outcome)
  | select (ok : Bool)
  | update (ok : Bool)
  | close
  | interrupt
  | enqueue
  | cancel (tenantId : String) (db : Bool)
  | updateCancelled (ok : Bool)
  deriving DecidableEq, Repr

/-- `UPDATE background_jobs SET status = ...` -/
def setStatus (status : JobStatus) (row : Option BackgroundJobORM) : Option BackgroundJobORM :=
  row.map fun r ↦ { r with status := status }

/-- The same through an object that was loaded with a status: what has not changed is not written. -/
def setLoaded (loaded status : JobStatus) (row : Option BackgroundJobORM) : Option BackgroundJobORM :=
  if loaded = status then row else setStatus status row

section Task

variable (uuid : String → Option Uuid)

/-- The row that the task of a job inserts, unless there is one with its id or its tenant is no
identifier. -/
def insertRow (job : JobHandle) (row : Option BackgroundJobORM) : Option BackgroundJobORM :=
  row.or <| (uuid job.tenantId).map fun tenantId ↦
    { tenantId := tenantId, status := .running, idempotencyKey := job.idempotencyKey }

/-- `cancel_job`'s update, which names the tenant too. -/
def cancelRow (tenantId : String) (row : Option BackgroundJobORM) : Option BackgroundJobORM :=
  row.map fun r ↦ if uuid tenantId = some r.tenantId then { r with status := .cancelled } else r

/-- What an event does to a job and the row with its id, if it is possible. -/
def JobHandle.step (job : JobHandle) (row : Option BackgroundJobORM) :
    TaskEvent → Option (JobHandle × Option BackgroundJobORM)
  | .start =>
    match job.stage, job.cancelRequested with
    | .created, false => some ({ job with status := .running, stage := .persisting }, row)
    | _, _ => none
  | .persist ok =>
    match job.stage with
    | .persisting => some ({ job with stage := .persisted }, if ok then insertRow uuid job row else row)
    | _ => none
  | .call =>
    match job.stage, job.cancelRequested with
    | .persisted, false => some ({ job with stage := .calling }, row)
    | _, _ => none
  | .finish outcome =>
    match job.stage with
    | .calling =>
      let job := { job with cancelRequested := false }
      match outcome with
      | .returned =>
        if job.status = .cancelled then some ({ job with stage := .done }, row)
        else some ({ job with status := .completed, stage := .completing }, row)
      | .cancelled => some ({ job with status := .cancelled, stage := .cancelling }, row)
      | .raised => some ({ job with status := .failed, stage := .failing }, row)
    | _ => none
  | .select ok =>
    match job.stage, if ok then row else none with
    | .completing, some r =>
      if r.status = .cancelled then some ({ job with stage := .closing }, row)
      else some ({ job with stage := .completed r.status }, row)
    | .completing, none => some ({ job with stage := .closing }, row)
    | .failing, some r => some ({ job with stage := .failed r.status }, row)
    | .failing, none => some ({ job with stage := .done }, row)
    | _, _ => none
  | .update ok =>
    match job.stage with
    | .completed loaded =>
      some ({ job with stage := .closing }, if ok then setLoaded loaded .completed row else row)
    | .failed loaded =>
      some ({ job with stage := .done }, if ok then setLoaded loaded .failed row else row)
    | .cancelling => some ({ job with stage := .done }, if ok then setStatus .cancelled row else row)
    | _ => none
  | .close =>
    match job.stage, job.cancelRequested with
    | .closing, false => some ({ job with stage := .done }, row)
    | _, _ => none
  | .interrupt =>
    if job.cancelRequested then
      match job.stage with
      | .calling | .done => none
      | .completing | .completed _ | .closing =>
        some ({ job with status := .cancelled, stage := .cancelling, cancelRequested := false }, row)
      | _ => some ({ job with stage := .done, cancelRequested := false }, row)
    else none
  | .enqueue =>
    match job.stage with
    | .enqueuing => some ({ job with stage := .done }, row)
    | _ => none
  | .cancel tenantId db =>
    if job.tenantId ≠ tenantId ∨ job.status.terminal then some (job, row)
    else
      let job := { job with status := .cancelled }
      if db then some ({ job with cancels := job.cancels + 1 }, row) else some (job.cancelTask, row)
  | .updateCancelled ok =>
    match job.cancels with
    | 0 => none
    | n + 1 =>
      some ({ job with cancels := n }.cancelTask, if ok then cancelRow uuid job.tenantId row else row)

end Task

/-! ## The queue's worker -/

/-- A helper of the worker between its `SELECT` and its commit. -/
structure PendingWrite where
  jobId : Uuid
  loaded : JobStatus
  status : JobStatus
  deriving DecidableEq, Repr

/-- A statement of one of the worker's helpers for a job: the update of `_mark_running`, and the reads
of `_mark_completed` and `_mark_failed`. -/
inductive WorkerEvent
  | markRunning
  | markCompleted
  | markFailed
  deriving DecidableEq, Repr

/-- What a statement does to the row of a job, and the write that is to follow it. -/
def WorkerEvent.step (jobId : Uuid) (row : Option BackgroundJobORM) :
    WorkerEvent → Option BackgroundJobORM × Option PendingWrite
  | .markRunning => (setStatus .running row, none)
  | .markCompleted =>
    (row, (row.filter (·.status ≠ .cancelled)).map fun r ↦ ⟨jobId, r.status, .completed⟩)
  | .markFailed => (row, row.map fun r ↦ ⟨jobId, r.status, .failed⟩)

/-! ## The system -/

/-- The handles by job id, the rows by id, the writes of the worker that are to come, and the jobs
whose coroutines were called. -/
structure World where
  jobs : Uuid → Option JobHandle
  rows : Uuid → Option BackgroundJobORM
  writes : List PendingWrite
  executions : List Uuid

/-- Before the first call of `submit_job`, with any table of rows. -/
def World.start (rows : Uuid → Option BackgroundJobORM) : World := ⟨fun _ ↦ none, rows, [], []⟩

/-- An event of a run. The id of a submitted job is the one that it draws, and a commit is that of the
worker's write at an index. -/
inductive Event
  | submit (jobId : Uuid) (tenantId : String) (idempotencyKey : Option String)
  | task (jobId : Uuid) (event : TaskEvent)
  | worker (jobId : Uuid) (event : WorkerEvent)
  | commit (index : ℕ)
  deriving DecidableEq, Repr

/-- The executions of coroutines after an event of a task. -/
def executed (jobId : Uuid) (executions : List Uuid) : TaskEvent → List Uuid
  | .call => executions ++ [jobId]
  | _ => executions

/-- The system after an event. A new id is none that was drawn before, and `submit_job` raises without
a tenant. -/
def step (test : Bool) (uuid : String → Option Uuid) (w : World) : Event → Option World
  | .submit jobId tenantId idempotencyKey =>
    if tenantId = "" then some w
    else if (w.jobs jobId).isSome then none
    else some { w with
      jobs := Function.update w.jobs jobId (some (.init test tenantId idempotencyKey)) }
  | .task jobId event => do
    let job ← w.jobs jobId
    let (job, row) ← job.step uuid (w.rows jobId) event
    some { w with
      jobs := Function.update w.jobs jobId (some job)
      rows := Function.update w.rows jobId row
      executions := executed jobId w.executions event }
  | .worker jobId event =>
    let (row, write) := event.step jobId (w.rows jobId)
    some { w with rows := Function.update w.rows jobId row, writes := w.writes ++ write.toList }
  | .commit index => do
    let write ← w.writes[index]?
    some { w with
      rows := Function.update w.rows write.jobId
        (setLoaded write.loaded write.status (w.rows write.jobId))
      writes := w.writes.eraseIdx index }

end DriftGuardX.Jobs
