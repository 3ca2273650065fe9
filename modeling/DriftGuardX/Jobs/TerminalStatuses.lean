import DriftGuardX.Jobs.Orchestrator

/-!
# Terminal statuses of jobs

Neither the handle nor the row of a job is protected from a late write. The statement of
`_mark_running` and that of `cancel_job` do not look at the status they replace, what `_mark_failed`
and `_mark_completed` read may be old when they write, and a task neither looks whether its job was
cancelled before it starts nor when its coroutine raises.

A run in which no update meets a terminal status of a row, other than the one that it writes, and in
which no cancelled job starts or fails keeps all terminal statuses (`final_of_meets`). For the handles
this rests on an invariant: a request to cancel that is under way finds its job cancelled, so that it
never reaches a job whose coroutine has returned.
-/

namespace DriftGuardX.Jobs

open Isolation (Uuid)
open Runs

/-- A status may be written over another unless that one is terminal. -/
def Replaces (status old : JobStatus) : Prop := old.terminal → old = status

/-- A row may take a status. -/
def Spared (status : JobStatus) (row : Option BackgroundJobORM) : Prop :=
  ∀ r ∈ row, Replaces status r.status

/-- The status that the update of a task writes, unless it is the one that was loaded. -/
def Stage.writes : Stage → Option JobStatus
  | .completed loaded => if loaded = .completed then none else some .completed
  | .failed loaded => if loaded = .failed then none else some .failed
  | .cancelling => some .cancelled
  | _ => none

/-- What is asked of an event of a task: no cancelled job starts or fails, and an update of the row
spares it. -/
def TaskEvent.Spares (uuid : String → Option Uuid) (job : JobHandle)
    (row : Option BackgroundJobORM) : TaskEvent → Prop
  | .start => job.status ≠ .cancelled
  | .finish .raised => job.status ≠ .cancelled
  | .update ok => ok → ∀ status ∈ job.stage.writes, Spared status row
  | .updateCancelled ok =>
    ok → Spared .cancelled (row.filter fun r ↦ uuid job.tenantId = some r.tenantId)
  | _ => True

/-- What is asked of an event of a run. -/
def Spares (uuid : String → Option Uuid) (w : World) : Event → Prop
  | .submit _ _ _ => True
  | .task jobId event => ∀ job ∈ w.jobs jobId, event.Spares uuid job (w.rows jobId)
  | .worker jobId .markRunning => Spared .running (w.rows jobId)
  | .worker _ _ => True
  | .commit index =>
    ∀ write ∈ w.writes[index]?,
      write.loaded ≠ write.status → Spared write.status (w.rows write.jobId)

instance (status old : JobStatus) : Decidable (Replaces status old) :=
  inferInstanceAs (Decidable (_ → _))

instance (status : JobStatus) (row : Option BackgroundJobORM) : Decidable (Spared status row) :=
  inferInstanceAs (Decidable (∀ _ ∈ _, _))

instance (uuid : String → Option Uuid) (job : JobHandle) (row : Option BackgroundJobORM) :
    (event : TaskEvent) → Decidable (event.Spares uuid job row)
  | .start | .finish .raised => inferInstanceAs (Decidable (_ ≠ _))
  | .update _ | .updateCancelled _ => inferInstanceAs (Decidable (_ → _))
  | .persist _ | .call | .finish .returned | .finish .cancelled | .select _ | .close | .interrupt
  | .enqueue | .cancel _ _ => inferInstanceAs (Decidable True)

instance (uuid : String → Option Uuid) (w : World) : (event : Event) → Decidable (Spares uuid w event)
  | .task _ _ | .commit _ => inferInstanceAs (Decidable (∀ _ ∈ _, _))
  | .worker jobId .markRunning => inferInstanceAs (Decidable (Spared .running (w.rows jobId)))
  | .submit _ _ _ | .worker _ .markCompleted | .worker _ .markFailed =>
    inferInstanceAs (Decidable True)

/-! ## One job -/

/-- The statuses a handle can have at a stage of its task, when no cancelled job starts or fails. -/
def Stage.Allows (status : JobStatus) : Stage → Prop
  | .created | .enqueuing => status = .queued ∨ status = .cancelled
  | .persisting | .persisted | .calling => status = .running ∨ status = .cancelled
  | .completing | .completed _ | .closing => status = .completed
  | .cancelling => status = .cancelled
  | .failing | .failed _ => status = .failed
  | .done => True

theorem Stage.Allows.cancelled {stage : Stage} {status : JobStatus} (h : stage.Allows status)
    (hlive : ¬ status.terminal) : stage.Allows .cancelled := by
  cases stage with
  | created => exact Or.inr rfl
  | enqueuing => exact Or.inr rfl
  | persisting => exact Or.inr rfl
  | persisted => exact Or.inr rfl
  | calling => exact Or.inr rfl
  | cancelling => rfl
  | done => trivial
  | _ =>
    have heq := h
    simp only [Stage.Allows] at heq
    exact absurd (heq ▸ rfl) hlive

/-- A handle is as its stage allows, and a request to cancel that is under way finds it cancelled. -/
structure JobHandle.Sound (job : JobHandle) : Prop where
  status : job.stage.Allows job.status
  requests : 0 < job.cancels ∨ job.cancelRequested = true → job.status = .cancelled

/-- A terminal status stays. -/
def StatusKept (old new : JobStatus) : Prop := old.terminal → new = old

theorem StatusKept.of_eq {old new : JobStatus} (h : new = old) : StatusKept old new := fun _ ↦ h

theorem StatusKept.trans {s t u : JobStatus} (h : StatusKept s t) (h' : StatusKept t u) :
    StatusKept s u := fun hs ↦ by
  have ht := h hs
  rw [← ht] at hs ⊢
  exact h' hs

/-- A row that is there stays, with its terminal status. -/
def RowKept (old new : Option BackgroundJobORM) : Prop :=
  ∀ r, old = some r → ∃ r', new = some r' ∧ StatusKept r.status r'.status

theorem RowKept.refl (row : Option BackgroundJobORM) : RowKept row row :=
  fun r h ↦ ⟨r, h, .of_eq rfl⟩

theorem rowKept_setStatus {status : JobStatus} {row : Option BackgroundJobORM}
    (h : Spared status row) : RowKept row (setStatus status row) := by
  rintro r rfl
  exact ⟨_, rfl, fun ht ↦ (h r rfl ht).symm⟩

theorem rowKept_setLoaded {loaded status : JobStatus} {row : Option BackgroundJobORM}
    (h : loaded ≠ status → Spared status row) : RowKept row (setLoaded loaded status row) := by
  rw [setLoaded]
  split_ifs with hloaded
  · exact .refl row
  · exact rowKept_setStatus (h hloaded)

theorem rowKept_insertRow (uuid : String → Option Uuid) (job : JobHandle)
    (row : Option BackgroundJobORM) : RowKept row (insertRow uuid job row) := by
  rintro r rfl
  exact ⟨r, rfl, .of_eq rfl⟩

theorem rowKept_cancelRow {uuid : String → Option Uuid} {tenantId : String}
    {row : Option BackgroundJobORM}
    (h : Spared .cancelled (row.filter fun r ↦ uuid tenantId = some r.tenantId)) :
    RowKept row (cancelRow uuid tenantId row) := by
  rintro r rfl
  by_cases htenant : uuid tenantId = some r.tenantId
  · refine ⟨{ r with status := .cancelled }, by simp [cancelRow, htenant], fun ht ↦ ?_⟩
    exact (h r (by simp [Option.filter, htenant]) ht).symm
  · exact ⟨r, by simp [cancelRow, htenant], .of_eq rfl⟩

/-- A step of a task or a call of `cancel_job` keeps the row when it spares it. -/
theorem JobHandle.rowKept_of_step {uuid : String → Option Uuid} {job job' : JobHandle}
    {row row' : Option BackgroundJobORM} {event : TaskEvent} (h : event.Spares uuid job row)
    (hstep : job.step uuid row event = some (job', row')) : RowKept row row' := by
  have hsame : row = row' → RowKept row row' := fun heq ↦ heq ▸ .refl row
  cases event with
  | persist ok =>
    simp only [JobHandle.step] at hstep
    split at hstep
    · obtain ⟨-, rfl⟩ := Prod.mk.inj (Option.some.inj hstep)
      cases ok
      · exact .refl row
      · exact rowKept_insertRow uuid job row
    · contradiction
  | update ok =>
    simp only [JobHandle.step] at hstep
    simp only [TaskEvent.Spares] at h
    split at hstep
    all_goals first | contradiction | skip
    all_goals
      rename_i hstage
      rw [hstage] at h
      obtain ⟨-, rfl⟩ := Prod.mk.inj (Option.some.inj hstep)
      cases ok
      · exact .refl row
    · exact rowKept_setLoaded fun hne ↦ h rfl .completed (by simp [Stage.writes, hne])
    · exact rowKept_setLoaded fun hne ↦ h rfl .failed (by simp [Stage.writes, hne])
    · exact rowKept_setStatus (h rfl .cancelled rfl)
  | updateCancelled ok =>
    simp only [JobHandle.step] at hstep
    split at hstep
    · contradiction
    · obtain ⟨-, rfl⟩ := Prod.mk.inj (Option.some.inj hstep)
      cases ok
      · exact .refl row
      · exact rowKept_cancelRow (h rfl)
  | _ =>
    -- no other event touches the row
    apply hsame
    simp only [JobHandle.step] at hstep
    repeat' split at hstep
    all_goals first | contradiction | exact (Prod.mk.inj (Option.some.inj hstep)).2

theorem JobHandle.Sound.step {uuid : String → Option Uuid} {job job' : JobHandle}
    {row row' : Option BackgroundJobORM} {event : TaskEvent} (hsound : job.Sound)
    (h : event.Spares uuid job row) (hstep : job.step uuid row event = some (job', row')) :
    job'.Sound ∧ StatusKept job.status job'.status := by
  obtain ⟨hstatus, hrequests⟩ := hsound
  cases event with
  | start =>
    simp only [JobHandle.step] at hstep
    split at hstep
    · rename_i hstage hflag
      obtain ⟨rfl, -⟩ := Prod.mk.inj (Option.some.inj hstep)
      rw [hstage] at hstatus
      have hqueued := hstatus.resolve_right h
      refine ⟨⟨Or.inl rfl, fun hreq ↦ absurd (hrequests hreq) h⟩, fun ht ↦ ?_⟩
      rw [hqueued] at ht
      contradiction
    · contradiction
  | persist ok => 
    simp only [JobHandle.step] at hstep
    split at hstep
    · rename_i hstage
      obtain ⟨rfl, -⟩ := Prod.mk.inj (Option.some.inj hstep)
      rw [hstage] at hstatus
      exact ⟨⟨hstatus, hrequests⟩, .of_eq rfl⟩
    · contradiction
  | call =>
    simp only [JobHandle.step] at hstep
    split at hstep
    · rename_i hstage hflag
      obtain ⟨rfl, -⟩ := Prod.mk.inj (Option.some.inj hstep)
      rw [hstage] at hstatus
      exact ⟨⟨hstatus, hrequests⟩, .of_eq rfl⟩
    · contradiction
  | finish outcome =>
    simp only [JobHandle.step] at hstep
    split at hstep
    · rename_i hstage
      rw [hstage] at hstatus
      cases outcome with
      | returned =>
        simp only at hstep
        split at hstep
        · rename_i hcancelled
          obtain ⟨rfl, -⟩ := Prod.mk.inj (Option.some.inj hstep)
          exact ⟨⟨trivial, fun _ ↦ hcancelled⟩, .of_eq rfl⟩
        · rename_i hcancelled
          obtain ⟨rfl, -⟩ := Prod.mk.inj (Option.some.inj hstep)
          have hrunning := hstatus.resolve_right hcancelled
          refine ⟨⟨rfl, fun hreq ↦ ?_⟩, fun ht ↦ ?_⟩
          · exact absurd (hrequests (hreq.imp_right (by simp))) hcancelled
          · rw [hrunning] at ht
            contradiction
      | cancelled => 
        obtain ⟨rfl, -⟩ := Prod.mk.inj (Option.some.inj hstep)
        refine ⟨⟨rfl, fun _ ↦ rfl⟩, fun ht ↦ ?_⟩
        rcases hstatus with hrunning | hcancelled
        · rw [hrunning] at ht
          contradiction
        · exact hcancelled.symm
      | raised =>
        obtain ⟨rfl, -⟩ := Prod.mk.inj (Option.some.inj hstep)
        have hrunning := hstatus.resolve_right h
        refine ⟨⟨rfl, fun hreq ↦ ?_⟩, fun ht ↦ ?_⟩
        · exact absurd (hrequests (hreq.imp_right (by simp))) h
        · rw [hrunning] at ht
          contradiction
    · contradiction
  | select ok =>
    simp only [JobHandle.step] at hstep
    split at hstep
    all_goals first | contradiction | skip
    all_goals
      rename_i hstage _
      rw [hstage] at hstatus
      try split at hstep
    all_goals
      obtain ⟨rfl, -⟩ := Prod.mk.inj (Option.some.inj hstep)
      exact ⟨⟨by first | exact hstatus | trivial, hrequests⟩, .of_eq rfl⟩
  | update ok =>
    simp only [JobHandle.step] at hstep
    split at hstep
    all_goals first | contradiction | skip
    all_goals
      rename_i hstage
      rw [hstage] at hstatus
      obtain ⟨rfl, -⟩ := Prod.mk.inj (Option.some.inj hstep)
      exact ⟨⟨by first | exact hstatus | trivial, hrequests⟩, .of_eq rfl⟩
  | close =>
    simp only [JobHandle.step] at hstep
    split at hstep
    · obtain ⟨rfl, -⟩ := Prod.mk.inj (Option.some.inj hstep)
      exact ⟨⟨trivial, hrequests⟩, .of_eq rfl⟩
    · contradiction
  | interrupt =>
    simp only [JobHandle.step] at hstep
    split at hstep
    · rename_i hflag
      have hcancelled := hrequests (Or.inr hflag)
      split at hstep
      all_goals first | contradiction | skip
      all_goals
        obtain ⟨rfl, -⟩ := Prod.mk.inj (Option.some.inj hstep)
        first
          | exact ⟨⟨rfl, fun _ ↦ rfl⟩, .of_eq hcancelled.symm⟩
          | exact ⟨⟨trivial, fun _ ↦ hcancelled⟩, .of_eq rfl⟩
    · contradiction
  | enqueue =>
    simp only [JobHandle.step] at hstep
    split at hstep
    · obtain ⟨rfl, -⟩ := Prod.mk.inj (Option.some.inj hstep)
      exact ⟨⟨trivial, hrequests⟩, .of_eq rfl⟩
    · contradiction
  | cancel tenantId db =>
    simp only [JobHandle.step] at hstep
    split at hstep
    · obtain ⟨rfl, -⟩ := Prod.mk.inj (Option.some.inj hstep)
      exact ⟨⟨hstatus, hrequests⟩, .of_eq rfl⟩
    · rename_i hopen
      obtain ⟨-, hlive⟩ := not_or.mp hopen
      have hkept : StatusKept job.status .cancelled := fun ht ↦ absurd ht hlive
      split at hstep
      all_goals
        obtain ⟨rfl, -⟩ := Prod.mk.inj (Option.some.inj hstep)
        exact ⟨⟨hstatus.cancelled hlive, fun _ ↦ rfl⟩, hkept⟩
  | updateCancelled ok =>
    simp only [JobHandle.step] at hstep
    split at hstep
    · contradiction
    · rename_i n hn
      obtain ⟨rfl, -⟩ := Prod.mk.inj (Option.some.inj hstep)
      have hcancelled := hrequests (Or.inl (hn ▸ n.succ_pos))
      exact ⟨⟨hstatus, fun _ ↦ hcancelled⟩, .of_eq rfl⟩

/-! ## Runs -/

/-- The handles and rows of one state with terminal statuses have them in the other. -/
structure Final (w w' : World) : Prop where
  jobs : ∀ jobId job, w.jobs jobId = some job →
    ∃ job', w'.jobs jobId = some job' ∧ StatusKept job.status job'.status
  rows : ∀ jobId, RowKept (w.rows jobId) (w'.rows jobId)

/-- **Finality.** A terminal status that a handle or a row shows at some point of a run is the one that
it shows at every later point. -/
def TerminalFinal (test : Bool) (uuid : String → Option Uuid) (w : World) (events : List Event) :
    Prop :=
  ∀ us vs ws t u, events = us ++ vs ++ ws →
    run (step test uuid) w us = some t → run (step test uuid) t vs = some u → Final t u

/-- Every handle is as its stage allows. -/
def World.Sound (w : World) : Prop := ∀ jobId job, w.jobs jobId = some job → job.Sound

theorem World.sound_start (rows : Uuid → Option BackgroundJobORM) : (World.start rows).Sound := by
  intro jobId job h
  contradiction

theorem JobHandle.sound_init (test : Bool) (tenantId : String) (key : Option String) :
    (JobHandle.init test tenantId key).Sound := by
  refine ⟨?_, fun h ↦ by simp [JobHandle.init] at h⟩
  cases test <;> exact Or.inl rfl

theorem Final.refl (w : World) : Final w w :=
  ⟨fun _ job h ↦ ⟨job, h, .of_eq rfl⟩, fun _ ↦ .refl _⟩

theorem RowKept.trans {row row' row'' : Option BackgroundJobORM} (h : RowKept row row')
    (h' : RowKept row' row'') : RowKept row row'' := by
  intro r hr
  obtain ⟨r', hr', hkept⟩ := h r hr
  obtain ⟨r'', hr'', hkept'⟩ := h' r' hr'
  exact ⟨r'', hr'', hkept.trans hkept'⟩

theorem Final.trans {w w' w'' : World} (h : Final w w') (h' : Final w' w'') : Final w w'' := by
  refine ⟨fun jobId job hjob ↦ ?_, fun jobId ↦ (h.rows jobId).trans (h'.rows jobId)⟩
  obtain ⟨job', hjob', hkept⟩ := h.jobs jobId job hjob
  obtain ⟨job'', hjob'', hkept'⟩ := h'.jobs jobId job' hjob'
  exact ⟨job'', hjob'', hkept.trans hkept'⟩

theorem rowKept_update {rows : Uuid → Option BackgroundJobORM} {jobId : Uuid}
    {row : Option BackgroundJobORM} (h : RowKept (rows jobId) row) (id : Uuid) :
    RowKept (rows id) (Function.update rows jobId row id) := by
  rw [Function.update_apply]
  split_ifs with hid
  · exact hid ▸ h
  · exact .refl _

section Step

variable {test : Bool} {uuid : String → Option Uuid} {w w' : World}

/-- The same for the handles, of which a step changes at most one. -/
theorem sound_update {jobId : Uuid} {job' : JobHandle} (hw : w.Sound)
    (hsound : job'.Sound) (hkept : ∀ job, w.jobs jobId = some job → StatusKept job.status job'.status) :
    (∀ id job, Function.update w.jobs jobId (some job') id = some job → job.Sound) ∧
      ∀ id job, w.jobs id = some job → ∃ new,
        Function.update w.jobs jobId (some job') id = some new ∧ StatusKept job.status new.status := by
  constructor
  · intro id job hjob
    rw [Function.update_apply] at hjob
    split_ifs at hjob
    · exact Option.some.inj hjob ▸ hsound
    · exact hw id job hjob
  · intro id job hjob
    rw [Function.update_apply]
    split_ifs with hid
    · exact ⟨job', rfl, hkept job (hid ▸ hjob)⟩
    · exact ⟨job, hjob, .of_eq rfl⟩

/-- **One step.** An event that spares what it meets keeps the invariant and all terminal statuses. -/
theorem final_of_step {event : Event} (hw : w.Sound) (hspares : Spares uuid w event)
    (hstep : step test uuid w event = some w') : w'.Sound ∧ Final w w' := by
  cases event with
  | submit jobId tenantId key =>
    simp only [step] at hstep
    split_ifs at hstep with htenant hused
    · obtain rfl := Option.some.inj hstep
      exact ⟨hw, .refl w⟩
    · obtain rfl := Option.some.inj hstep
      obtain ⟨hsound, hjobs⟩ := sound_update hw (JobHandle.sound_init test tenantId key)
        fun job hjob ↦ absurd (Option.isSome_of_eq_some hjob) hused
      exact ⟨hsound, hjobs, fun _ ↦ .refl _⟩
  | task jobId event =>
    obtain ⟨job, hjob, hstep⟩ := Option.bind_eq_some_iff.mp hstep
    obtain ⟨⟨job', row'⟩, hlocal, hstep⟩ := Option.bind_eq_some_iff.mp hstep
    obtain rfl := Option.some.inj hstep
    have hspares := hspares job hjob
    obtain ⟨hsound, hkept⟩ := (hw jobId job hjob).step hspares hlocal
    have hkept' : ∀ old, w.jobs jobId = some old → StatusKept old.status job'.status := by
      intro old hold
      exact Option.some.inj (hjob.symm.trans hold) ▸ hkept
    obtain ⟨hsound, hjobs⟩ := sound_update hw hsound hkept'
    exact ⟨hsound, hjobs, rowKept_update (JobHandle.rowKept_of_step hspares hlocal)⟩
  | worker jobId event =>
    obtain rfl := Option.some.inj hstep
    refine ⟨hw, (Final.refl w).jobs, rowKept_update ?_⟩
    cases event with
    | markRunning => exact rowKept_setStatus hspares
    | markCompleted => exact .refl _
    | markFailed => exact .refl _
  | commit index =>
    obtain ⟨write, hwrite, hstep⟩ := Option.bind_eq_some_iff.mp hstep
    obtain rfl := Option.some.inj hstep
    exact ⟨hw, (Final.refl w).jobs, rowKept_update (rowKept_setLoaded (hspares write hwrite))⟩

end Step

/-- **Terminal statuses are final** in every run, from any table of rows, in which no update meets a
terminal status other than the one it writes and no cancelled job starts or fails. -/
theorem final_of_meets {test : Bool} {uuid : String → Option Uuid}
    {rows : Uuid → Option BackgroundJobORM} {events : List Event}
    (hmeets : Meets (step test uuid) (Spares uuid) (World.start rows) events) :
    TerminalFinal test uuid (World.start rows) events := by
  rintro us vs ws t u rfl ht hu
  have hus := hmeets.before.before
  have hsound : t.Sound := by
    refine invariant (fun w e w' hw hok hstep ↦ ?_) (World.sound_start rows) hus ht
    exact (final_of_step hw hok hstep).1
  refine related Final.refl (fun _ _ _ ↦ Final.trans) (fun w e w' hw hok hstep ↦ ?_) hsound
    (hmeets.before.after ht) hu
  exact final_of_step hw hok hstep

/-- A job runs to its end while a helper of the queue's worker reads its row. -/
def quietRun : List Event :=
  [.submit 1 "tenant" none, .task 1 .start, .task 1 (.persist true), .task 1 .call,
    .worker 1 .markRunning, .worker 1 .markCompleted, .task 1 (.finish .returned),
    .task 1 (.select true), .task 1 (.update true), .task 1 .close, .commit 0]

theorem final_quietRun :
    TerminalFinal true (fun _ ↦ some 7) (World.start fun _ ↦ none) quietRun :=
  final_of_meets (by decide)

/-- A job is cancelled while its coroutine runs, and the coroutine raises as it is stopped. -/
def raisesOnCancel : List Event :=
  [.submit 1 "tenant" none, .task 1 .start, .task 1 (.persist true), .task 1 .call,
    .task 1 (.cancel "tenant" true), .task 1 (.updateCancelled true), .task 1 (.finish .raised),
    .task 1 (.select true), .task 1 (.update true)]

/-- The row and the handle of a cancelled job become those of a failed one. -/
theorem not_final_raisesOnCancel :
    ¬ ∀ test uuid rows events, TerminalFinal test uuid (World.start rows) events := by
  intro h
  have hrun := h true (fun _ ↦ some 7) (fun _ ↦ none) raisesOnCancel (raisesOnCancel.take 6)
    (raisesOnCancel.drop 6) [] _ _ rfl rfl rfl
  obtain ⟨row, hrow, hkept⟩ := hrun.rows 1 _ rfl
  obtain rfl := Option.some.inj hrow
  exact absurd (hkept rfl) (by decide)

end DriftGuardX.Jobs
