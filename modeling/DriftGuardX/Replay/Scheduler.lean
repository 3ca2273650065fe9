import Mathlib.Data.List.Induction
import Mathlib.Data.List.Nodup
import Mathlib.Logic.Function.Basic

/-!
# The scheduler of recomputations

Tasks name the tasks they depend on. The loop of the scheduler looks for tasks whose registered
dependencies are completed and submits them, workers run their functions, a failed function is
diagnosed before the task has failed, and a task with a dependency that cannot be completed any more
is blocked. The loop, a worker's report and a diagnostic's report are critical sections; everything
between them can be interleaved.

A task is submitted only when its dependencies are completed, and a completed task stays so. The
invariant of a run (`Sound`) says this for every task that has been submitted, together with where
the task is: in the queue of the executor, in a worker or in a diagnostic.
-/

namespace DriftGuardX.Replay

inductive TaskStatus where
  | pending
  | running
  | completed
  | failed
  | blocked
  | diagnosing
  deriving DecidableEq, Repr

structure AORTask where
  taskId : String
  dependencies : List String
  deriving DecidableEq, Repr

/-- The tasks of a scheduler in the order in which they were added, and the size of its executor. -/
structure AORScheduler where
  tasks : List AORTask
  maxWorkers : ℕ
  distinct : (tasks.map AORTask.taskId).Nodup
  maxWorkers_pos : 0 < maxWorkers

/-- The status of each task, what the executors have not finished, and whether the loop has ended. -/
structure SchedulerState where
  status : String → TaskStatus
  /-- Submitted to the executor and not started. -/
  queue : List String
  /-- Started and not reported. -/
  active : List String
  /-- Submitted to the diagnostic executor and not reported. -/
  diagnostics : List String
  returned : Bool

/-- A turn of the loop, the start of a function by a worker, its report, its end without one, and the
same for a diagnostic. -/
inductive SchedulerEvent where
  | turn
  | start (taskId : String)
  | complete (taskId : String)
  | fail (taskId : String)
  | abandon (taskId : String)
  | diagnose (taskId : String)
  | abandonDiagnostic (taskId : String)
  deriving DecidableEq, Repr

namespace AORScheduler

variable (s : AORScheduler)

/-- There is a task with this id. -/
def Registered (taskId : String) : Prop := taskId ∈ s.tasks.map AORTask.taskId

instance (taskId : String) : Decidable (s.Registered taskId) :=
  inferInstanceAs (Decidable (_ ∈ _))

/-- What the dependencies of a task say about it. -/
inductive Verdict where
  | ready
  | waiting
  | blocked
  deriving DecidableEq, Repr

/-- The search through the dependencies of a pending task. One that is not registered is passed
over. -/
def verdict (status : String → TaskStatus) : List String → Verdict
  | [] => .ready
  | depId :: dependencies =>
    if s.Registered depId then
      if status depId ∈ [TaskStatus.failed, .blocked, .diagnosing] then .blocked
      else if status depId ≠ .completed then .waiting
      else verdict status dependencies
    else verdict status dependencies

/-- The visit of a task: a pending one is ready, is blocked or has to wait. -/
def visit (found : (String → TaskStatus) × List String) (task : AORTask) :
    (String → TaskStatus) × List String :=
  if found.1 task.taskId = .pending then
    match s.verdict found.1 task.dependencies with
    | .ready => (found.1, found.2 ++ [task.taskId])
    | .waiting => found
    | .blocked => (Function.update found.1 task.taskId .blocked, found.2)
  else found

/-- `_get_ready_tasks`: the statuses it leaves, and the ready tasks. -/
def getReadyTasks (status : String → TaskStatus) : (String → TaskStatus) × List String :=
  s.tasks.foldl s.visit (status, [])

/-- No task is pending, running or diagnosing. -/
def AllDone (status : String → TaskStatus) : Prop :=
  ∀ task ∈ s.tasks, status task.taskId ∉ [TaskStatus.pending, .running, .diagnosing]

instance (status : String → TaskStatus) : Decidable (s.AllDone status) :=
  inferInstanceAs (Decidable (∀ _ ∈ _, _))

/-- One turn of the loop of `run`. -/
def turn (w : SchedulerState) : SchedulerState :=
  if s.AllDone w.status then { w with returned := true }
  else
    { w with
      status := (s.getReadyTasks w.status).2.foldl
        (fun status taskId ↦ Function.update status taskId .running) (s.getReadyTasks w.status).1
      queue := w.queue ++ (s.getReadyTasks w.status).2 }

/-- A step, if it is possible. An executor starts what was submitted first; the diagnostic one has
two workers. -/
def step (w : SchedulerState) : SchedulerEvent → Option SchedulerState
  | .turn => if w.returned then none else some (s.turn w)
  | .start taskId =>
    if w.queue.head? = some taskId ∧ w.active.length < s.maxWorkers then
      some { w with queue := w.queue.tail, active := w.active ++ [taskId] }
    else none
  | .complete taskId =>
    if taskId ∈ w.active then
      some { w with
        active := w.active.erase taskId
        status := Function.update w.status taskId .completed }
    else none
  | .fail taskId =>
    if taskId ∈ w.active then
      some { w with
        active := w.active.erase taskId
        status := Function.update (Function.update w.status taskId .failed) taskId .diagnosing
        diagnostics := w.diagnostics ++ [taskId] }
    else none
  | .abandon taskId =>
    if taskId ∈ w.active then some { w with active := w.active.erase taskId } else none
  | .diagnose taskId =>
    if taskId ∈ w.diagnostics.take 2 then
      some { w with
        diagnostics := w.diagnostics.erase taskId
        status := Function.update w.status taskId .failed }
    else none
  | .abandonDiagnostic taskId =>
    if taskId ∈ w.diagnostics.take 2 then
      some { w with diagnostics := w.diagnostics.erase taskId }
    else none

/-- Before the loop starts. -/
def initial : SchedulerState := ⟨fun _ ↦ .pending, [], [], [], false⟩

/-- The state after events, if they are possible. -/
def run (events : List SchedulerEvent) : Option SchedulerState :=
  events.foldlM s.step initial

/-! ## The search for ready tasks -/

/-- The registered dependencies of a task are completed. -/
def Satisfied (status : String → TaskStatus) (dependencies : List String) : Prop :=
  ∀ depId ∈ dependencies, s.Registered depId → status depId = .completed

/-- What has been found after some tasks: pending ones may have been blocked, and the ready ones are
pending with their dependencies completed. -/
structure Found (status : String → TaskStatus) (visited : List AORTask)
    (found : (String → TaskStatus) × List String) : Prop where
  unchanged : ∀ taskId, found.1 taskId = status taskId ∨
    status taskId = .pending ∧ found.1 taskId = .blocked
  ready : ∀ taskId ∈ found.2, found.1 taskId = .pending ∧
    ∃ task ∈ visited, task.taskId = taskId ∧ s.Satisfied status task.dependencies
  nodup : found.2.Nodup

section Search

variable {s} {status : String → TaskStatus} {dependencies : List String}

theorem verdict_eq_ready_iff : s.verdict status dependencies = .ready
    ↔ s.Satisfied status dependencies := by
  induction dependencies with
  | nil => exact iff_of_true rfl fun _ h ↦ absurd h List.not_mem_nil
  | cons depId dependencies ih =>
    rw [verdict, Satisfied, List.forall_mem_cons, ← Satisfied, ← ih]
    split_ifs with hregistered hcannot hcompleted
    · refine iff_of_false (by simp) fun h ↦ ?_
      rw [h.1 hregistered] at hcannot
      exact absurd hcannot (by decide)
    · exact iff_of_false (by simp) fun h ↦ hcompleted (h.1 hregistered)
    · exact ⟨fun h ↦ ⟨fun _ ↦ not_not.mp hcompleted, h⟩, And.right⟩
    · exact ⟨fun h ↦ ⟨fun hdep ↦ absurd hdep hregistered, h⟩, And.right⟩

theorem exists_of_verdict_blocked (h : s.verdict status dependencies = .blocked) :
    ∃ depId ∈ dependencies, s.Registered depId ∧
      status depId ∈ [TaskStatus.failed, .blocked, .diagnosing] := by
  induction dependencies with
  | nil => exact absurd h (by simp [verdict])
  | cons depId dependencies ih =>
    rw [verdict] at h
    split_ifs at h with hregistered hcannot hcompleted
    · exact ⟨depId, List.mem_cons_self, hregistered, hcannot⟩
    · obtain ⟨other, hmem, hother⟩ := ih h
      exact ⟨other, List.mem_cons_of_mem depId hmem, hother⟩
    · obtain ⟨other, hmem, hother⟩ := ih h
      exact ⟨other, List.mem_cons_of_mem depId hmem, hother⟩

theorem exists_of_verdict_waiting (h : s.verdict status dependencies = .waiting) :
    ∃ depId ∈ dependencies, s.Registered depId ∧
      status depId ∈ [TaskStatus.pending, .running] := by
  induction dependencies with
  | nil => exact absurd h (by simp [verdict])
  | cons depId dependencies ih =>
    rw [verdict] at h
    split_ifs at h with hregistered hcannot hcompleted
    · refine ⟨depId, List.mem_cons_self, hregistered, ?_⟩
      cases hstatus : status depId <;> simp_all
    · obtain ⟨other, hmem, hother⟩ := ih h
      exact ⟨other, List.mem_cons_of_mem depId hmem, hother⟩
    · obtain ⟨other, hmem, hother⟩ := ih h
      exact ⟨other, List.mem_cons_of_mem depId hmem, hother⟩

theorem Found.completed_iff {visited : List AORTask} {found : (String → TaskStatus) × List String}
    (h : s.Found status visited found) (taskId : String) :
    found.1 taskId = .completed ↔ status taskId = .completed := by
  obtain heq | ⟨hpending, hblocked⟩ := h.unchanged taskId
  · rw [heq]
  · rw [hpending, hblocked]
    exact iff_of_false (by decide) (by decide)

theorem Found.visit {visited : List AORTask} {found : (String → TaskStatus) × List String}
    {task : AORTask} (h : s.Found status visited found)
    (hnew : task.taskId ∉ visited.map AORTask.taskId) :
    s.Found status (visited ++ [task]) (s.visit found task) := by
  have hready : ∀ taskId ∈ found.2, found.1 taskId = .pending ∧
      ∃ other ∈ visited ++ [task], other.taskId = taskId ∧
        s.Satisfied status other.dependencies := by
    intro taskId hmem
    obtain ⟨hpending, other, hother, hid, hsatisfied⟩ := h.ready taskId hmem
    exact ⟨hpending, other, List.mem_append_left _ hother, hid, hsatisfied⟩
  have hunfound : task.taskId ∉ found.2 := by
    intro hmem
    obtain ⟨-, other, hother, hid, -⟩ := h.ready task.taskId hmem
    exact hnew (hid ▸ List.mem_map_of_mem hother)
  rw [AORScheduler.visit]
  split_ifs with hpending
  · split
    · next hverdict =>
      have hsatisfied : s.Satisfied status task.dependencies := fun depId hdep hregistered ↦
        (h.completed_iff depId).mp (verdict_eq_ready_iff.mp hverdict depId hdep hregistered)
      refine ⟨h.unchanged, List.forall_mem_append.mpr ⟨hready, ?_⟩, ?_⟩
      · exact List.forall_mem_singleton.mpr
          ⟨hpending, task, List.mem_concat_self, rfl, hsatisfied⟩
      · rw [← List.concat_eq_append]
        exact List.Nodup.concat hunfound h.nodup
    · exact ⟨h.unchanged, hready, h.nodup⟩
    · refine ⟨fun taskId ↦ ?_, fun taskId hmem ↦ ?_, h.nodup⟩
      · obtain rfl | hne := eq_or_ne taskId task.taskId
        · refine .inr ⟨?_, Function.update_self _ _ _⟩
          obtain heq | ⟨hbefore, -⟩ := h.unchanged task.taskId
          · exact heq.symm.trans hpending
          · exact hbefore
        · dsimp only
          rw [Function.update_of_ne hne]
          exact h.unchanged taskId
      · have hne : taskId ≠ task.taskId := fun heq ↦ hunfound (heq ▸ hmem)
        dsimp only
        rw [Function.update_of_ne hne]
        exact hready taskId hmem
  · exact ⟨h.unchanged, hready, h.nodup⟩

/-- What `_get_ready_tasks` finds. -/
theorem found_getReadyTasks (s : AORScheduler) (status : String → TaskStatus) :
    s.Found status s.tasks (s.getReadyTasks status) := by
  suffices h : ∀ tasks : List AORTask, (tasks.map AORTask.taskId).Nodup →
      s.Found status tasks (tasks.foldl s.visit (status, [])) from h s.tasks s.distinct
  intro tasks hnodup
  induction tasks using List.reverseRecOn with
  | nil => exact ⟨fun _ ↦ .inl rfl, fun _ h ↦ absurd h List.not_mem_nil, List.nodup_nil⟩
  | append_singleton tasks task ih =>
    rw [List.map_append, List.map_singleton, List.nodup_append] at hnodup
    rw [List.foldl_concat]
    refine (ih hnodup.1).visit fun hmem ↦ ?_
    exact hnodup.2.2 task.taskId hmem task.taskId (List.mem_singleton_self _) rfl

end Search

/-! ## One turn -/

section Turn

variable {s} {w : SchedulerState}

theorem foldl_update_running {status : String → TaskStatus} {ready : List String} (taskId : String) :
    ready.foldl (fun status taskId ↦ Function.update status taskId .running) status taskId
      = if taskId ∈ ready then .running else status taskId := by
  induction ready generalizing status with
  | nil => rfl
  | cons first ready ih =>
    rw [List.foldl_cons, ih]
    obtain rfl | hne := eq_or_ne taskId first
    · rw [if_pos List.mem_cons_self, Function.update_self]
      exact ite_id _
    · rw [Function.update_of_ne hne]
      simp only [List.mem_cons, hne, false_or]

/-- A turn that does not end the loop: pending tasks are submitted, blocked or left alone. -/
structure Submits (s : AORScheduler) (status status' : String → TaskStatus) (ready : List String) :
    Prop where
  nodup : ready.Nodup
  submitted : ∀ taskId ∈ ready, status taskId = .pending ∧ status' taskId = .running ∧
    ∃ task ∈ s.tasks, task.taskId = taskId ∧ s.Satisfied status task.dependencies
  others : ∀ taskId ∉ ready, status' taskId = status taskId ∨
    status taskId = .pending ∧ status' taskId = .blocked

theorem turn_of_allDone (h : s.AllDone w.status) : s.turn w = { w with returned := true } :=
  if_pos h

theorem turn_of_not_allDone (h : ¬ s.AllDone w.status) : ∃ status' ready,
    s.turn w = { w with status := status', queue := w.queue ++ ready } ∧
      Submits s w.status status' ready := by
  have hfound := found_getReadyTasks s w.status
  refine ⟨_, _, if_neg h, hfound.nodup, fun taskId hmem ↦ ?_, fun taskId hmem ↦ ?_⟩
  · obtain ⟨hpending, task, htask⟩ := hfound.ready taskId hmem
    refine ⟨?_, (foldl_update_running taskId).trans (if_pos hmem), task, htask⟩
    obtain heq | ⟨hbefore, -⟩ := hfound.unchanged taskId
    · exact heq.symm.trans hpending
    · exact hbefore
  · rw [foldl_update_running, if_neg hmem]
    exact hfound.unchanged taskId

end Turn

/-! ## Runs -/

/-- The task was submitted, and its registered dependencies were completed then. -/
def Launched (status : TaskStatus) : Prop :=
  status ∈ [TaskStatus.running, .completed, .failed, .diagnosing]

instance : DecidablePred Launched := fun _ ↦ inferInstanceAs (Decidable (_ ∈ _))

/-- A status that does not change any more. -/
def Final (status : TaskStatus) : Prop :=
  status ∈ [TaskStatus.completed, .failed, .blocked]

instance : DecidablePred Final := fun _ ↦ inferInstanceAs (Decidable (_ ∈ _))

/-- Where the tasks are after events, and what is known of those that were submitted. -/
structure Sound (events : List SchedulerEvent) (w : SchedulerState) : Prop where
  queued : ∀ taskId ∈ w.queue, w.status taskId = .running ∧ s.Registered taskId ∧
    .start taskId ∉ events
  queue_nodup : w.queue.Nodup
  active : ∀ taskId ∈ w.active, w.status taskId = .running ∧ s.Registered taskId ∧
    .start taskId ∈ events
  active_nodup : w.active.Nodup
  diagnosed : ∀ taskId ∈ w.diagnostics, w.status taskId = .diagnosing
  diagnostics_nodup : w.diagnostics.Nodup
  started : ∀ taskId, .start taskId ∈ events → Launched (w.status taskId)
  once : ∀ taskId, events.count (.start taskId) ≤ 1
  satisfied : ∀ task ∈ s.tasks, Launched (w.status task.taskId) →
    s.Satisfied w.status task.dependencies
  returned : w.returned = true → s.AllDone w.status

section Steps

variable {s} {w w' : SchedulerState} {events : List SchedulerEvent} {event : SchedulerEvent}
  {status status' : String → TaskStatus} {ready : List String} {taskId : String}

theorem Satisfied.mono {dependencies : List String} (h : s.Satisfied status dependencies)
    (hstatus : ∀ taskId, status taskId = .completed → status' taskId = .completed) :
    s.Satisfied status' dependencies :=
  fun depId hdep hregistered ↦ hstatus depId (h depId hdep hregistered)

theorem not_allDone (hregistered : s.Registered taskId)
    (h : status taskId ∈ [TaskStatus.pending, .running, .diagnosing]) : ¬ s.AllDone status := by
  intro hdone
  obtain ⟨task, htask, rfl⟩ := List.mem_map.mp hregistered
  exact hdone task htask h

theorem Submits.completed (h : Submits s status status' ready) (hstatus : status taskId = .completed) :
    status' taskId = .completed := by
  by_cases hmem : taskId ∈ ready
  · rw [(h.submitted taskId hmem).1] at hstatus
    exact absurd hstatus (by decide)
  · obtain heq | ⟨hpending, -⟩ := h.others taskId hmem
    · exact heq.trans hstatus
    · rw [hpending] at hstatus
      exact absurd hstatus (by decide)

theorem Submits.unchanged (h : Submits s status status' ready) (hstatus : status taskId ≠ .pending) :
    status' taskId = status taskId := by
  have hmem : taskId ∉ ready := fun hmem ↦ hstatus (h.submitted taskId hmem).1
  exact (h.others taskId hmem).resolve_right fun hpending ↦ hstatus hpending.1

theorem satisfied_update {new : TaskStatus} (h : s.Sound events w)
    (hlaunched : Launched (w.status taskId)) (hnot : w.status taskId ≠ .completed) :
    ∀ task ∈ s.tasks, Launched (Function.update w.status taskId new task.taskId) →
      s.Satisfied (Function.update w.status taskId new) task.dependencies := by
  intro task htask hnew
  have hbefore : Launched (w.status task.taskId) := by
    obtain heq | hne := eq_or_ne task.taskId taskId
    · rwa [heq]
    · rwa [Function.update_of_ne hne] at hnew
  refine (h.satisfied task htask hbefore).mono fun other hcompleted ↦ ?_
  have hne : other ≠ taskId := fun heq ↦ hnot (heq ▸ hcompleted)
  rwa [Function.update_of_ne hne]

theorem sound_initial : s.Sound [] initial where
  queued _ h := absurd h List.not_mem_nil
  queue_nodup := List.nodup_nil
  active _ h := absurd h List.not_mem_nil
  active_nodup := List.nodup_nil
  diagnosed _ h := absurd h List.not_mem_nil
  diagnostics_nodup := List.nodup_nil
  started _ h := absurd h List.not_mem_nil
  once _ := Nat.zero_le 1
  satisfied _ _ h := absurd (show Launched .pending from h) (by decide)
  returned h := absurd h (by decide)

theorem Sound.append (h : s.Sound events w) (hevent : ∀ taskId, event ≠ .start taskId) :
    s.Sound (events ++ [event]) w := by
  have hmem : ∀ taskId, .start taskId ∈ events ++ [event] ↔ .start taskId ∈ events := by
    intro taskId
    rw [List.mem_append, List.mem_singleton]
    exact or_iff_left fun heq ↦ hevent taskId heq.symm
  refine { h with queued := ?_, active := ?_, started := ?_, once := ?_ }
  · intro taskId hqueue
    rw [hmem]
    exact h.queued taskId hqueue
  · intro taskId hactive
    rw [hmem]
    exact h.active taskId hactive
  · exact fun taskId hstart ↦ h.started taskId ((hmem taskId).mp hstart)
  · intro taskId
    have hcount : [event].count (.start taskId) = 0 :=
      List.count_eq_zero.mpr fun hin ↦ hevent taskId (List.mem_singleton.mp hin).symm
    rw [List.count_append, hcount]
    exact h.once taskId

theorem Sound.turn (h : s.Sound events w) (hopen : w.returned = false) :
    s.Sound events (s.turn w) := by
  by_cases hdone : s.AllDone w.status
  · rw [turn_of_allDone hdone]
    exact { h with returned := fun _ ↦ hdone }
  · obtain ⟨status', ready, heq, hsubmits⟩ := turn_of_not_allDone hdone
    rw [heq]
    have hready : ∀ taskId ∈ ready, taskId ∉ w.queue ∧ .start taskId ∉ events := by
      intro taskId hmem
      have hpending := (hsubmits.submitted taskId hmem).1
      refine ⟨fun hqueue ↦ ?_, fun hstart ↦ ?_⟩
      · rw [(h.queued taskId hqueue).1] at hpending
        exact absurd hpending (by decide)
      · have hlaunched := h.started taskId hstart
        rw [hpending] at hlaunched
        exact absurd hlaunched (by decide)
    have hkept : ∀ {taskId status}, w.status taskId = status → status ≠ .pending →
        status' taskId = status :=
      fun hstatus hne ↦ (hsubmits.unchanged (hstatus ▸ hne)).trans hstatus
    constructor
    · refine List.forall_mem_append.mpr ⟨fun taskId hmem ↦ ?_, fun taskId hmem ↦ ?_⟩
      · obtain ⟨hrunning, hrest⟩ := h.queued taskId hmem
        exact ⟨hkept hrunning (by decide), hrest⟩
      · obtain ⟨-, hrunning, task, htask, rfl, -⟩ := hsubmits.submitted taskId hmem
        exact ⟨hrunning, List.mem_map_of_mem htask, (hready task.taskId hmem).2⟩
    · refine List.nodup_append.mpr ⟨h.queue_nodup, hsubmits.nodup, ?_⟩
      rintro a ha b hb rfl
      exact (hready a hb).1 ha
    · intro taskId hmem
      obtain ⟨hrunning, hrest⟩ := h.active taskId hmem
      exact ⟨hkept hrunning (by decide), hrest⟩
    · exact h.active_nodup
    · exact fun taskId hmem ↦ hkept (h.diagnosed taskId hmem) (by decide)
    · exact h.diagnostics_nodup
    · intro taskId hstart
      have hlaunched := h.started taskId hstart
      have hne : w.status taskId ≠ .pending := by
        intro hpending
        rw [hpending] at hlaunched
        exact absurd hlaunched (by decide)
      show Launched (status' taskId)
      rwa [hsubmits.unchanged hne]
    · exact h.once
    · intro task htask hlaunched
      refine Satisfied.mono ?_ fun taskId ↦ hsubmits.completed
      by_cases hmem : task.taskId ∈ ready
      · obtain ⟨-, -, other, hother, hid, hsatisfied⟩ := hsubmits.submitted task.taskId hmem
        exact List.inj_on_of_nodup_map s.distinct hother htask hid ▸ hsatisfied
      · obtain hsame | ⟨-, hblocked⟩ := hsubmits.others task.taskId hmem
        · exact h.satisfied task htask (hsame ▸ hlaunched)
        · dsimp only at hlaunched
          rw [hblocked] at hlaunched
          exact absurd hlaunched (by decide)
    · exact fun hreturned ↦ absurd (hopen.symm.trans hreturned) (by decide)

theorem Sound.start (h : s.Sound events w) (hhead : w.queue.head? = some taskId) :
    s.Sound (events ++ [.start taskId])
      { w with queue := w.queue.tail, active := w.active ++ [taskId] } := by
  obtain ⟨rest, hqueue⟩ : ∃ rest, w.queue = taskId :: rest := by
    cases hw : w.queue with
    | nil => simp [hw] at hhead
    | cons first rest =>
      rw [hw, List.head?_cons, Option.some.injEq] at hhead
      exact ⟨rest, hhead ▸ rfl⟩
  have hnodup : (taskId :: rest).Nodup := hqueue ▸ h.queue_nodup
  obtain ⟨hrunning, hregistered, hunstarted⟩ := h.queued taskId (hqueue ▸ List.mem_cons_self)
  have hactive : taskId ∉ w.active := fun hmem ↦ hunstarted (h.active taskId hmem).2.2
  have hmem : ∀ {other}, .start other ∈ events ++ [.start taskId] ↔
      .start other ∈ events ∨ other = taskId := by
    intro other
    rw [List.mem_append, List.mem_singleton, SchedulerEvent.start.injEq]
  rw [hqueue, List.tail_cons]
  constructor
  · intro other hother
    obtain ⟨hstatus, hreg, hnot⟩ := h.queued other (hqueue ▸ List.mem_cons_of_mem taskId hother)
    refine ⟨hstatus, hreg, fun hstart ↦ ?_⟩
    obtain hbefore | rfl := hmem.mp hstart
    · exact hnot hbefore
    · exact (List.nodup_cons.mp hnodup).1 hother
  · exact (List.nodup_cons.mp hnodup).2
  · refine List.forall_mem_append.mpr ⟨fun other hother ↦ ?_, ?_⟩
    · obtain ⟨hstatus, hreg, hstart⟩ := h.active other hother
      exact ⟨hstatus, hreg, hmem.mpr (.inl hstart)⟩
    · exact List.forall_mem_singleton.mpr ⟨hrunning, hregistered, hmem.mpr (.inr rfl)⟩
  · rw [← List.concat_eq_append]
    exact List.Nodup.concat hactive h.active_nodup
  · exact h.diagnosed
  · exact h.diagnostics_nodup
  · intro other hstart
    obtain hbefore | rfl := hmem.mp hstart
    · exact h.started other hbefore
    · exact (show w.status other = .running from hrunning) ▸ by decide
  · intro other
    rw [List.count_append]
    obtain rfl | hne := eq_or_ne other taskId
    · have hzero : events.count (.start other) = 0 := List.count_eq_zero.mpr hunstarted
      refine Nat.le_of_eq ?_
      rw [hzero, List.count_singleton_self]
    · have hzero : [SchedulerEvent.start taskId].count (.start other) = 0 :=
        List.count_eq_zero.mpr fun hin ↦ hne (SchedulerEvent.start.inj (List.mem_singleton.mp hin))
      rw [hzero]
      exact h.once other
  · exact h.satisfied
  · exact h.returned

theorem Sound.abandon (h : s.Sound events w) :
    s.Sound events { w with active := w.active.erase taskId } :=
  { h with
    active := fun other hother ↦ h.active other (List.mem_of_mem_erase hother)
    active_nodup := h.active_nodup.erase taskId }

theorem Sound.abandonDiagnostic (h : s.Sound events w) :
    s.Sound events { w with diagnostics := w.diagnostics.erase taskId } :=
  { h with
    diagnosed := fun other hother ↦ h.diagnosed other (List.mem_of_mem_erase hother)
    diagnostics_nodup := h.diagnostics_nodup.erase taskId }

/-- The status of a task that was submitted and is nowhere else is changed. -/
theorem Sound.update {new : TaskStatus} (h : s.Sound events w) (hactive : taskId ∉ w.active)
    (hdiagnostics : taskId ∉ w.diagnostics) (hqueue : taskId ∉ w.queue)
    (hlaunched : Launched (w.status taskId)) (hnot : w.status taskId ≠ .completed)
    (hnew : Launched new) (hreturned : w.returned = true → Final new) :
    s.Sound events { w with status := Function.update w.status taskId new } := by
  have hkept : ∀ {other}, other ≠ taskId →
      Function.update w.status taskId new other = w.status other :=
    fun hne ↦ Function.update_of_ne hne _ _
  constructor
  · intro other hother
    dsimp only
    rw [hkept fun heq ↦ hqueue (heq ▸ hother)]
    exact h.queued other hother
  · exact h.queue_nodup
  · intro other hother
    dsimp only
    rw [hkept fun heq ↦ hactive (heq ▸ hother)]
    exact h.active other hother
  · exact h.active_nodup
  · intro other hother
    dsimp only
    rw [hkept fun heq ↦ hdiagnostics (heq ▸ hother)]
    exact h.diagnosed other hother
  · exact h.diagnostics_nodup
  · intro other hstart
    dsimp only
    obtain rfl | hne := eq_or_ne other taskId
    · rwa [Function.update_self]
    · rw [hkept hne]
      exact h.started other hstart
  · exact h.once
  · exact satisfied_update h hlaunched hnot
  · intro hdone task htask
    dsimp only
    obtain heq | hne := eq_or_ne task.taskId taskId
    · rw [heq, Function.update_self]
      have hfinal := hreturned hdone
      revert hfinal
      cases new <;> decide
    · rw [hkept hne]
      exact h.returned hdone task htask

theorem Sound.submitDiagnostic (h : s.Sound events w) (hstatus : w.status taskId = .diagnosing)
    (hnew : taskId ∉ w.diagnostics) :
    s.Sound events { w with diagnostics := w.diagnostics ++ [taskId] } :=
  { h with
    diagnosed := List.forall_mem_append.mpr ⟨h.diagnosed, List.forall_mem_singleton.mpr hstatus⟩
    diagnostics_nodup := by
      rw [← List.concat_eq_append]
      exact List.Nodup.concat hnew h.diagnostics_nodup }

/-- What a step can do, with what was checked before it. -/
inductive Takes (s : AORScheduler) (w : SchedulerState) : SchedulerEvent → SchedulerState → Prop where
  | turn (hopen : w.returned = false) : Takes s w .turn (s.turn w)
  | start (taskId : String) (hhead : w.queue.head? = some taskId)
      (hfree : w.active.length < s.maxWorkers) :
      Takes s w (.start taskId)
        { w with queue := w.queue.tail, active := w.active ++ [taskId] }
  | complete (taskId : String) (hactive : taskId ∈ w.active) :
      Takes s w (.complete taskId)
        { w with
          active := w.active.erase taskId
          status := Function.update w.status taskId .completed }
  | fail (taskId : String) (hactive : taskId ∈ w.active) :
      Takes s w (.fail taskId)
        { w with
          active := w.active.erase taskId
          status := Function.update w.status taskId .diagnosing
          diagnostics := w.diagnostics ++ [taskId] }
  | abandon (taskId : String) (hactive : taskId ∈ w.active) :
      Takes s w (.abandon taskId) { w with active := w.active.erase taskId }
  | diagnose (taskId : String) (hdiagnostics : taskId ∈ w.diagnostics) :
      Takes s w (.diagnose taskId)
        { w with
          diagnostics := w.diagnostics.erase taskId
          status := Function.update w.status taskId .failed }
  | abandonDiagnostic (taskId : String) (hdiagnostics : taskId ∈ w.diagnostics) :
      Takes s w (.abandonDiagnostic taskId)
        { w with diagnostics := w.diagnostics.erase taskId }

theorem takes_of_step (hstep : s.step w event = some w') : s.Takes w event w' := by
  cases event with
  | turn =>
    rw [step] at hstep
    split_ifs at hstep with hreturned
    obtain rfl := Option.some.inj hstep
    exact .turn (Bool.not_eq_true _ ▸ hreturned)
  | start taskId =>
    rw [step] at hstep
    split_ifs at hstep with hstart
    obtain rfl := Option.some.inj hstep
    exact .start taskId hstart.1 hstart.2
  | complete taskId =>
    rw [step] at hstep
    split_ifs at hstep with hactive
    obtain rfl := Option.some.inj hstep
    exact .complete taskId hactive
  | fail taskId =>
    rw [step, Function.update_idem] at hstep
    split_ifs at hstep with hactive
    obtain rfl := Option.some.inj hstep
    exact .fail taskId hactive
  | abandon taskId =>
    rw [step] at hstep
    split_ifs at hstep with hactive
    obtain rfl := Option.some.inj hstep
    exact .abandon taskId hactive
  | diagnose taskId =>
    rw [step] at hstep
    split_ifs at hstep with hmem
    obtain rfl := Option.some.inj hstep
    exact .diagnose taskId (List.mem_of_mem_take hmem)
  | abandonDiagnostic taskId =>
    rw [step] at hstep
    split_ifs at hstep with hmem
    obtain rfl := Option.some.inj hstep
    exact .abandonDiagnostic taskId (List.mem_of_mem_take hmem)

theorem Sound.step (h : s.Sound events w) (hstep : s.step w event = some w') :
    s.Sound (events ++ [event]) w' := by
  have hqueue : ∀ {taskId}, taskId ∈ w.active → taskId ∉ w.queue :=
    fun hactive hqueue ↦ (h.queued _ hqueue).2.2 (h.active _ hactive).2.2
  have hapart : ∀ {taskId}, taskId ∈ w.active → taskId ∉ w.diagnostics := by
    intro taskId hactive hdiagnostics
    have hrunning := (h.active taskId hactive).1
    rw [h.diagnosed taskId hdiagnostics] at hrunning
    exact absurd hrunning (by decide)
  cases takes_of_step hstep with
  | turn hopen => exact (h.turn hopen).append fun _ ↦ by simp
  | start taskId hhead => exact h.start hhead
  | complete taskId hactive =>
    have hrunning := (h.active taskId hactive).1
    refine Sound.append ?_ fun _ ↦ by simp
    exact h.abandon.update h.active_nodup.not_mem_erase (hapart hactive) (hqueue hactive)
      (by rw [hrunning]; decide) (by rw [hrunning]; decide) (by decide) fun _ ↦ by decide
  | fail taskId hactive =>
    obtain ⟨hrunning, hregistered, -⟩ := h.active taskId hactive
    have hopen : ¬ w.returned = true := fun hreturned ↦
      not_allDone hregistered (by rw [hrunning]; decide) (h.returned hreturned)
    have hupdated : s.Sound events { w with
        active := w.active.erase taskId
        status := Function.update w.status taskId .diagnosing } :=
      h.abandon.update h.active_nodup.not_mem_erase (hapart hactive) (hqueue hactive)
        (by rw [hrunning]; decide) (by rw [hrunning]; decide) (by decide)
        fun hreturned ↦ absurd hreturned hopen
    refine Sound.append ?_ fun _ ↦ by simp
    exact hupdated.submitDiagnostic (Function.update_self _ _ _) (hapart hactive)
  | abandon taskId => exact h.abandon.append fun _ ↦ by simp
  | diagnose taskId hdiagnostics =>
    have hdiagnosing := h.diagnosed taskId hdiagnostics
    refine Sound.append ?_ fun _ ↦ by simp
    refine h.abandonDiagnostic.update ?_ h.diagnostics_nodup.not_mem_erase ?_
      (by rw [hdiagnosing]; decide) (by rw [hdiagnosing]; decide) (by decide) fun _ ↦ by decide
    · exact fun hactive ↦ hapart hactive hdiagnostics
    · intro hqueued
      rw [(h.queued taskId hqueued).1] at hdiagnosing
      exact absurd hdiagnosing (by decide)
  | abandonDiagnostic taskId => exact h.abandonDiagnostic.append fun _ ↦ by simp

/-- The ways in which the status of a task changes in one step. -/
inductive Moves : TaskStatus → TaskStatus → Prop where
  | stay (status : TaskStatus) : Moves status status
  | submit : Moves .pending .running
  | block : Moves .pending .blocked
  | complete : Moves .running .completed
  | fail : Moves .running .diagnosing
  | diagnose : Moves .diagnosing .failed

theorem moves_update {new : TaskStatus} (h : Moves (status taskId) new) (other : String) :
    Moves (status other) (Function.update status taskId new other) := by
  obtain rfl | hne := eq_or_ne other taskId
  · rwa [Function.update_self]
  · rw [Function.update_of_ne hne]
    exact .stay _

theorem Submits.moves (h : Submits s status status' ready) (taskId : String) :
    Moves (status taskId) (status' taskId) := by
  by_cases hmem : taskId ∈ ready
  · obtain ⟨hpending, hrunning, -⟩ := h.submitted taskId hmem
    rw [hpending, hrunning]
    exact .submit
  · obtain heq | ⟨hpending, hblocked⟩ := h.others taskId hmem
    · rw [heq]
      exact .stay _
    · rw [hpending, hblocked]
      exact .block

theorem Sound.moves (h : s.Sound events w) (hstep : s.step w event = some w') (taskId : String) :
    Moves (w.status taskId) (w'.status taskId) := by
  cases takes_of_step hstep with
  | turn =>
    by_cases hdone : s.AllDone w.status
    · rw [turn_of_allDone hdone]
      exact .stay _
    · obtain ⟨status', ready, heq, hsubmits⟩ := turn_of_not_allDone hdone
      rw [heq]
      exact hsubmits.moves taskId
  | start => exact .stay _
  | complete other hactive => exact moves_update ((h.active other hactive).1.symm ▸ .complete) taskId
  | fail other hactive => exact moves_update ((h.active other hactive).1.symm ▸ .fail) taskId
  | abandon => exact .stay _
  | diagnose other hdiagnostics =>
    exact moves_update ((h.diagnosed other hdiagnostics).symm ▸ .diagnose) taskId
  | abandonDiagnostic => exact .stay _

theorem run_concat : s.run (events ++ [event]) = (s.run events).bind fun w ↦ s.step w event := by
  rw [run, List.foldlM_append]
  refine Option.bind_congr fun w _ ↦ ?_
  rw [List.foldlM_cons]
  exact bind_pure _

theorem sound_run (h : s.run events = some w) : s.Sound events w := by
  induction events using List.reverseRecOn generalizing w with
  | nil => exact Option.some.inj h ▸ sound_initial
  | append_singleton events event ih =>
    rw [run_concat] at h
    obtain ⟨before, hbefore, hstep⟩ := Option.bind_eq_some_iff.mp h
    exact (ih hbefore).step hstep

theorem invariant_run {after : List SchedulerEvent} {P : TaskStatus → Prop}
    (hmoves : ∀ {status status'}, Moves status status' → P status → P status')
    (h : s.run events = some w) (hafter : s.run (events ++ after) = some w')
    (hstatus : P (w.status taskId)) : P (w'.status taskId) := by
  induction after using List.reverseRecOn generalizing w' with
  | nil =>
    rw [List.append_nil, h] at hafter
    exact Option.some.inj hafter ▸ hstatus
  | append_singleton after event ih =>
    rw [← List.append_assoc, run_concat] at hafter
    obtain ⟨before, hbefore, hstep⟩ := Option.bind_eq_some_iff.mp hafter
    exact hmoves ((sound_run hbefore).moves hstep taskId) (ih hbefore)

theorem Moves.eq_of_final {before after : TaskStatus} (h : Moves before after)
    (hfinal : Final before) : after = before := by
  cases h with
  | stay => rfl
  | _ => exact absurd hfinal (by decide)

theorem Moves.lost {before after : TaskStatus} (h : Moves before after)
    (hlost : before ∈ [TaskStatus.failed, .diagnosing, .blocked]) :
    after ∈ [TaskStatus.failed, .diagnosing, .blocked] := by
  cases h with
  | stay => exact hlost
  | diagnose => decide
  | _ => exact absurd hlost (by decide)

end Steps

/-- What holds of every run. -/
structure RespectsDependencies : Prop where
  /-- A function is started at most once. -/
  startedOnce : ∀ events w, s.run events = some w → ∀ taskId, events.count (.start taskId) ≤ 1
  /-- When it is started, the registered dependencies of the task are completed. -/
  startedSatisfied : ∀ events taskId w w', s.run events = some w →
    s.run (events ++ [.start taskId]) = some w' →
    ∀ task ∈ s.tasks, task.taskId = taskId → s.Satisfied w.status task.dependencies
  /-- A task with a registered dependency that cannot be completed any more is not started, neither
  before nor after. -/
  neverStarted : ∀ before after w w', s.run before = some w → s.run (before ++ after) = some w' →
    ∀ task ∈ s.tasks, ∀ depId ∈ task.dependencies, s.Registered depId →
      w.status depId ∈ [TaskStatus.failed, .diagnosing, .blocked] →
        .start task.taskId ∉ before ++ after
  final : ∀ before after w w', s.run before = some w → s.run (before ++ after) = some w' →
    ∀ taskId, Final (w.status taskId) → w'.status taskId = w.status taskId
  returned : ∀ events w, s.run events = some w → w.returned = true →
    ∀ task ∈ s.tasks, Final (w.status task.taskId)

/-- Every scheduler respects the dependencies of its tasks. -/
theorem respectsDependencies : s.RespectsDependencies where
  startedOnce events w h := (sound_run h).once
  startedSatisfied events taskId w w' h h' task htask hid := by
    rw [run_concat, h, Option.bind_some, step] at h'
    split_ifs at h' with hstart
    have hqueued : taskId ∈ w.queue := List.mem_of_mem_head? hstart.1
    refine (sound_run h).satisfied task htask ?_
    rw [hid, ((sound_run h).queued taskId hqueued).1]
    decide
  neverStarted before after w w' h h' task htask depId hdep hregistered hstatus hstart := by
    have hsound := sound_run h'
    have hcompleted := hsound.satisfied task htask (hsound.started task.taskId hstart) depId hdep
      hregistered
    have hlost := invariant_run Moves.lost h h' hstatus
    rw [hcompleted] at hlost
    exact absurd hlost (by decide)
  final before after w w' h h' taskId hfinal :=
    invariant_run (P := fun status ↦ status = w.status taskId)
      (fun hmoves heq ↦ (hmoves.eq_of_final (heq ▸ hfinal)).trans heq) h h' rfl
  returned events w h hreturned task htask := by
    have hdone := (sound_run h).returned hreturned task htask
    revert hdone
    cases w.status task.taskId <;> decide

end AORScheduler

end DriftGuardX.Replay
