import DriftGuardX.Replay.Scheduler
import Mathlib.Data.Set.Finite.Basic
import Mathlib.Data.Finite.Defs
import Mathlib.Logic.Relation
import Mathlib.Order.WellFounded

/-!
# Dependencies in a circle

The loop waits for tasks that wait for one another. Where the registered dependencies of the tasks
have no cycle, a pending task that is not found ready or blocked waits for a running one in the end,
so the scheduler is never stuck. Where they have one, the tasks on it are never submitted, and when
every other task has been completed the loop goes on without effect (`neverDeadlocks_iff`).
-/

namespace DriftGuardX.Replay.AORScheduler

variable (s : AORScheduler)

/-- A task depends on a registered one. -/
def DependsOn (taskId depId : String) : Prop :=
  ∃ task ∈ s.tasks, task.taskId = taskId ∧ depId ∈ task.dependencies ∧ s.Registered depId

/-- No task depends on itself through others. -/
def Acyclic : Prop := ∀ taskId, ¬ Relation.TransGen s.DependsOn taskId taskId

/-- The loop has not come to an end, nothing is running, and a search for ready tasks neither finds
one nor changes a status. -/
structure Stuck (w : SchedulerState) : Prop where
  unfinished : ¬ s.AllDone w.status
  idle : ∀ task ∈ s.tasks, w.status task.taskId ∉ [TaskStatus.running, .diagnosing]
  unready : (s.getReadyTasks w.status).2 = []
  unchanged : ∀ task ∈ s.tasks, (s.getReadyTasks w.status).1 task.taskId = w.status task.taskId

/-- No run leads to such a state. -/
def NeverDeadlocks : Prop := ∀ events w, s.run events = some w → ¬ s.Stuck w

/-! ## Waiting -/

section Waiting

variable {s} {w : SchedulerState} {status : String → TaskStatus} {task : AORTask}
  {found : (String → TaskStatus) × List String}

theorem visit_of_ready (hpending : found.1 task.taskId = .pending)
    (h : s.verdict found.1 task.dependencies = .ready) :
    s.visit found task = (found.1, found.2 ++ [task.taskId]) := by
  rw [visit, if_pos hpending, h]

theorem visit_of_blocked (hpending : found.1 task.taskId = .pending)
    (h : s.verdict found.1 task.dependencies = .blocked) :
    s.visit found task = (Function.update found.1 task.taskId .blocked, found.2) := by
  rw [visit, if_pos hpending, h]

theorem visit_of_waiting (h : found.1 task.taskId = .pending →
    s.verdict found.1 task.dependencies = .waiting) : s.visit found task = found := by
  rw [visit]
  split_ifs with hpending
  · rw [h hpending]
  · rfl

theorem foldl_visit_of_ne_pending {tasks : List AORTask} {taskId : String}
    (h : found.1 taskId ≠ .pending) : (tasks.foldl s.visit found).1 taskId = found.1 taskId := by
  induction tasks generalizing found with
  | nil => rfl
  | cons task tasks ih =>
    have hvisit : (s.visit found task).1 taskId = found.1 taskId := by
      rw [visit]
      split_ifs with hpending
      · split
        · rfl
        · rfl
        · exact Function.update_of_ne (fun heq ↦ h ((congrArg found.1 heq).trans hpending)) _ _
      · rfl
    rw [List.foldl_cons, ih (hvisit ▸ h), hvisit]

theorem prefix_foldl_visit (found : (String → TaskStatus) × List String) {tasks : List AORTask} :
    found.2 <+: (tasks.foldl s.visit found).2 := by
  induction tasks generalizing found with
  | nil => exact List.prefix_refl _
  | cons task tasks ih =>
    refine List.IsPrefix.trans ?_ (ih _)
    rw [visit]
    split_ifs
    · split
      · exact List.prefix_append _ _
      · exact List.prefix_refl _
      · exact List.prefix_refl _
    · exact List.prefix_refl _

/-- When a search has no effect, every pending task has to wait. -/
theorem verdict_of_no_effect {tasks : List AORTask}
    (hready : (tasks.foldl s.visit (status, [])).2 = [])
    (hstatus : ∀ task ∈ tasks, (tasks.foldl s.visit (status, [])).1 task.taskId
      = status task.taskId) :
    ∀ task ∈ tasks, status task.taskId = .pending →
      s.verdict status task.dependencies = .waiting := by
  induction tasks with
  | nil => exact List.forall_mem_nil _
  | cons first tasks ih =>
    rw [List.foldl_cons] at hready hstatus
    have hfirst : status first.taskId = .pending →
        s.verdict status first.dependencies = .waiting := by
      intro hpending
      cases hverdict : s.verdict status first.dependencies with
      | waiting => rfl
      | ready =>
        have hvisit : s.visit (status, []) first = (status, [first.taskId]) :=
          visit_of_ready hpending hverdict
        have hprefix : [first.taskId] <+: (tasks.foldl s.visit (status, [first.taskId])).2 :=
          prefix_foldl_visit (status, [first.taskId])
        rw [← hvisit, hready] at hprefix
        exact absurd (List.prefix_nil.mp hprefix) (by simp)
      | blocked =>
        have hvisit : s.visit (status, []) first
            = (Function.update status first.taskId .blocked, []) :=
          visit_of_blocked hpending hverdict
        have hblocked : (s.visit (status, []) first).1 first.taskId = .blocked := by
          rw [hvisit]
          exact Function.update_self _ _ _
        have hend := hstatus first List.mem_cons_self
        rw [foldl_visit_of_ne_pending (by rw [hblocked]; decide), hblocked, hpending] at hend
        exact absurd hend (by decide)
    have hvisit : s.visit (status, []) first = (status, []) := visit_of_waiting hfirst
    rw [hvisit] at hready hstatus
    exact List.forall_mem_cons.mpr
      ⟨hfirst, ih hready fun task htask ↦ hstatus task (List.mem_cons_of_mem first htask)⟩

theorem Stuck.exists_pending (h : s.Stuck w) (htask : task ∈ s.tasks)
    (hpending : w.status task.taskId = .pending) :
    ∃ depId, s.DependsOn task.taskId depId ∧ w.status depId = .pending := by
  have hverdict := verdict_of_no_effect h.unready h.unchanged task htask hpending
  obtain ⟨depId, hdep, hregistered, hstatus⟩ := exists_of_verdict_waiting hverdict
  refine ⟨depId, ⟨task, htask, rfl, hdep, hregistered⟩, ?_⟩
  obtain ⟨other, hother, rfl⟩ := List.mem_map.mp hregistered
  have hidle := h.idle other hother
  rcases List.mem_pair.mp hstatus with heq | heq
  · exact heq
  · rw [heq] at hidle
    exact absurd (by decide) hidle

theorem false_of_next {α : Type} {r : α → α → Prop} (points : List α) (p : α → Prop)
    (hacyclic : ∀ a, ¬ Relation.TransGen r a a) (hsome : ∃ a ∈ points, p a)
    (hnext : ∀ a ∈ points, p a → ∃ b ∈ points, r a b ∧ p b) : False := by
  have hfinite : Finite {a // a ∈ points} := (List.finite_toSet points).to_subtype
  let after : {a // a ∈ points} → {a // a ∈ points} → Prop :=
    fun a b ↦ Relation.TransGen r b.1 a.1
  have htrans : IsTrans _ after := ⟨fun _ _ _ hab hbc ↦ hbc.trans hab⟩
  have hirrefl : Std.Irrefl after := ⟨fun a ↦ hacyclic a.1⟩
  have hwf : WellFounded after := Finite.wellFounded_of_trans_of_irrefl after
  obtain ⟨a, ha, hpa⟩ := hsome
  obtain ⟨last, hlast, hnone⟩ := hwf.has_min {a | p a.1} ⟨⟨a, ha⟩, hpa⟩
  obtain ⟨b, hb, hr, hpb⟩ := hnext last.1 last.2 hlast
  exact hnone ⟨b, hb⟩ hpb (.single hr)

theorem neverDeadlocks_of_acyclic (hacyclic : s.Acyclic) : s.NeverDeadlocks := by
  intro events w _ hstuck
  have hpending : ∀ task ∈ s.tasks,
      w.status task.taskId ∈ [TaskStatus.pending, .running, .diagnosing] →
        w.status task.taskId = .pending := by
    intro task htask hstatus
    exact (List.mem_cons.mp hstatus).resolve_right fun hbusy ↦ hstuck.idle task htask hbusy
  obtain ⟨first, hfirst⟩ := not_forall.mp hstuck.unfinished
  obtain ⟨hmem, hbusy⟩ := Classical.not_imp.mp hfirst
  refine false_of_next (s.tasks.map AORTask.taskId) (fun taskId ↦ w.status taskId = .pending)
    hacyclic ⟨first.taskId, List.mem_map_of_mem hmem, hpending first hmem (not_not.mp hbusy)⟩ ?_
  intro taskId htaskId hstatus
  obtain ⟨task, htask, rfl⟩ := List.mem_map.mp htaskId
  obtain ⟨depId, hdepends, hdepPending⟩ := hstuck.exists_pending htask hstatus
  obtain ⟨-, -, -, -, hregistered⟩ := id hdepends
  exact ⟨depId, hregistered, hdepends, hdepPending⟩

end Waiting

/-! ## Cycles -/

section Cycles

variable {s} {w w' : SchedulerState} {events : List SchedulerEvent} {taskId : String}

theorem exists_dependsOn_of_cycle (h : Relation.TransGen s.DependsOn taskId taskId) :
    ∃ depId, s.DependsOn taskId depId ∧ Relation.TransGen s.DependsOn depId depId := by
  obtain ⟨depId, hdepends, hback⟩ := Relation.TransGen.head'_iff.mp h
  exact ⟨depId, hdepends, .tail' hback hdepends⟩

/-- A task on a cycle is never submitted: the dependency on the cycle would have been submitted
before. -/
theorem not_launched_of_cycle (h : s.run events = some w)
    (hcycle : Relation.TransGen s.DependsOn taskId taskId) : ¬ Launched (w.status taskId) := by
  induction events using List.reverseRecOn generalizing w taskId with
  | nil =>
    obtain rfl := Option.some.inj h
    exact (by decide : ¬ Launched .pending)
  | append_singleton events event ih =>
    intro hlaunched
    have hsound := sound_run h
    rw [run_concat] at h
    obtain ⟨before, hbefore, hstep⟩ := Option.bind_eq_some_iff.mp h
    obtain ⟨depId, ⟨task, htask, rfl, hdep, hregistered⟩, hdepCycle⟩ :=
      exists_dependsOn_of_cycle hcycle
    have hcompleted := hsound.satisfied task htask hlaunched depId hdep hregistered
    have hmoves := (sound_run hbefore).moves hstep depId
    rw [hcompleted] at hmoves
    refine ih hbefore hdepCycle ?_
    cases hstatus : before.status depId with
    | completed => decide
    | running => decide
    | _ => rw [hstatus] at hmoves; cases hmoves

/-- Nothing is submitted, and every task is pending or completed. -/
structure Quiet (w : SchedulerState) : Prop where
  queue : w.queue = []
  active : w.active = []
  returned : w.returned = false
  status : ∀ taskId, w.status taskId = .pending ∨ w.status taskId = .completed

theorem exists_drained {queue : List String} (h : s.run events = some w) (hqueue : w.queue = queue)
    (hactive : w.active = []) : ∃ after w', s.run (events ++ after) = some w' ∧ w'.queue = [] ∧
      w'.active = [] ∧ w'.returned = w.returned ∧
      ∀ taskId, w'.status taskId = if taskId ∈ queue then .completed else w.status taskId := by
  induction queue generalizing events w with
  | nil =>
    refine ⟨[], w, (List.append_nil events).symm ▸ h, hqueue, hactive, rfl, fun taskId ↦ ?_⟩
    rw [if_neg List.not_mem_nil]
  | cons first queue ih =>
    have hstart : s.step w (.start first)
        = some { w with queue := queue, active := [first] } := by
      rw [step, if_pos ⟨by rw [hqueue]; rfl, by rw [hactive]; exact s.maxWorkers_pos⟩, hqueue,
        hactive]
      rfl
    have hcomplete : s.step { w with queue := queue, active := [first] } (.complete first)
        = some { w with
          queue := queue
          active := []
          status := Function.update w.status first .completed } := by
      rw [step, if_pos List.mem_cons_self, List.erase_cons_head]
    have hrun : s.run (events ++ [SchedulerEvent.start first] ++
        [SchedulerEvent.complete first]) = some { w with
        queue := queue
        active := []
        status := Function.update w.status first .completed } := by
      rw [run_concat, run_concat, h, Option.bind_some, hstart, Option.bind_some, hcomplete]
    obtain ⟨after, w', hafter, hempty, hidle, hreturned, hstatus⟩ := ih hrun rfl rfl
    refine ⟨[SchedulerEvent.start first] ++ [SchedulerEvent.complete first] ++ after, w', ?_, hempty, hidle, hreturned, ?_⟩
    · rw [← List.append_assoc, ← List.append_assoc]
      exact hafter
    · intro taskId
      rw [hstatus]
      obtain rfl | hne := eq_or_ne taskId first
      · dsimp only
        rw [if_pos List.mem_cons_self, Function.update_self]
        exact ite_id _
      · dsimp only
        rw [Function.update_of_ne hne]
        simp only [List.mem_cons, hne, false_or]

theorem foldl_visit_fst {status : String → TaskStatus} {ready : List String}
    {tasks : List AORTask}
    (hstatus : ∀ taskId, status taskId = .pending ∨ status taskId = .completed) :
    (tasks.foldl s.visit (status, ready)).1 = status := by
  induction tasks generalizing ready with
  | nil => rfl
  | cons task tasks ih =>
    rw [List.foldl_cons, visit]
    split_ifs with hpending
    · split
      · exact ih
      · exact ih
      · next hblocked =>
        obtain ⟨depId, -, -, hlost⟩ := exists_of_verdict_blocked hblocked
        dsimp only at hlost
        obtain heq | heq := hstatus depId
        · rw [heq] at hlost
          exact absurd hlost (by decide)
        · rw [heq] at hlost
          exact absurd hlost (by decide)
    · exact ih

/-- The number of pending tasks. -/
def pendingCount (s : AORScheduler) (status : String → TaskStatus) : ℕ :=
  (s.tasks.filter fun task ↦ status task.taskId = .pending).length

theorem pendingCount_lt {status status' : String → TaskStatus} {task : AORTask}
    (hle : ∀ taskId, status' taskId = .pending → status taskId = .pending) (htask : task ∈ s.tasks)
    (hbefore : status task.taskId = .pending) (hafter : status' task.taskId ≠ .pending) :
    s.pendingCount status' < s.pendingCount status := by
  have hsublist : List.Sublist (s.tasks.filter fun task ↦ status' task.taskId = .pending)
      (s.tasks.filter fun task ↦ status task.taskId = .pending) :=
    List.monotone_filter_right s.tasks fun task h ↦
      decide_eq_true (hle task.taskId (of_decide_eq_true h))
  refine lt_of_le_of_ne hsublist.length_le fun hlength ↦ hafter ?_
  have hmem : task ∈ s.tasks.filter fun task ↦ status task.taskId = .pending :=
    List.mem_filter.mpr ⟨htask, decide_eq_true hbefore⟩
  rw [← hsublist.eq_of_length hlength] at hmem
  exact of_decide_eq_true (List.mem_filter.mp hmem).2

/-- A round from a quiet state: the ready tasks are submitted, and all of them complete. -/
theorem exists_round (h : s.run events = some w) (hquiet : Quiet w)
    (hunfinished : ¬ s.AllDone w.status) : ∃ after w', s.run (events ++ after) = some w' ∧
      Quiet w' ∧ ∀ taskId, w'.status taskId =
        if taskId ∈ (s.getReadyTasks w.status).2 then .completed else w.status taskId := by
  have hopen : s.turn w = { w with
      status := (s.getReadyTasks w.status).2.foldl
        (fun status taskId ↦ Function.update status taskId .running) w.status
      queue := (s.getReadyTasks w.status).2 } := by
    rw [turn, if_neg hunfinished, getReadyTasks, foldl_visit_fst hquiet.status, hquiet.queue,
      List.nil_append]
  have hturn : s.run (events ++ [SchedulerEvent.turn]) = some (s.turn w) := by
    rw [run_concat, h, Option.bind_some, step, hquiet.returned]
    rfl
  rw [hopen] at hturn
  obtain ⟨after, w', hafter, hqueue, hactive, hreturned, hstatus⟩ :=
    exists_drained hturn rfl hquiet.active
  have hstatus' : ∀ taskId, w'.status taskId =
      if taskId ∈ (s.getReadyTasks w.status).2 then .completed else w.status taskId := by
    intro taskId
    rw [hstatus]
    split_ifs with hmem
    · rfl
    · exact (foldl_update_running taskId).trans (if_neg hmem)
  refine ⟨[SchedulerEvent.turn] ++ after, w', ?_,
    ⟨hqueue, hactive, hreturned.trans hquiet.returned, ?_⟩, hstatus'⟩
  · rw [← List.append_assoc]
    exact hafter
  · intro taskId
    rw [hstatus']
    split_ifs
    · exact .inr rfl
    · exact hquiet.status taskId

/-- A round with a ready task leaves fewer pending ones. -/
theorem pendingCount_round_lt {status : String → TaskStatus} (hquiet : Quiet w)
    (hready : (s.getReadyTasks w.status).2 ≠ [])
    (hstatus : ∀ taskId, status taskId =
      if taskId ∈ (s.getReadyTasks w.status).2 then .completed else w.status taskId) :
    s.pendingCount status < s.pendingCount w.status := by
  obtain ⟨first, hfirst⟩ := List.exists_mem_of_ne_nil _ hready
  obtain ⟨hpending, task, htask, rfl, -⟩ := (found_getReadyTasks s w.status).ready first hfirst
  have hfst : (s.getReadyTasks w.status).1 = w.status := foldl_visit_fst hquiet.status
  rw [hfst] at hpending
  refine pendingCount_lt (fun other hother ↦ ?_) htask hpending ?_
  · rw [hstatus] at hother
    split_ifs at hother
    exact hother
  · rw [hstatus, if_pos hfirst]
    decide

theorem Quiet.stuck (hquiet : Quiet w) (hunfinished : ¬ s.AllDone w.status)
    (hready : (s.getReadyTasks w.status).2 = []) : s.Stuck w := by
  have hfst : (s.getReadyTasks w.status).1 = w.status := foldl_visit_fst hquiet.status
  refine ⟨hunfinished, fun task _ ↦ ?_, hready, fun task _ ↦ congrFun hfst task.taskId⟩
  obtain heq | heq := hquiet.status task.taskId
  · rw [heq]
    decide
  · rw [heq]
    decide

theorem exists_stuck (hregistered : s.Registered taskId)
    (hcycle : Relation.TransGen s.DependsOn taskId taskId) (h : s.run events = some w)
    (hquiet : Quiet w) : ∃ after w', s.run (events ++ after) = some w' ∧ s.Stuck w' := by
  induction hcount : s.pendingCount w.status using Nat.strong_induction_on
    generalizing events w with
  | _ n ih =>
    have hpending : w.status taskId = .pending := by
      refine (hquiet.status taskId).resolve_right fun hcompleted ↦ ?_
      exact not_launched_of_cycle h hcycle (by rw [hcompleted]; decide)
    have hunfinished : ¬ s.AllDone w.status := not_allDone hregistered (by rw [hpending]; decide)
    by_cases hready : (s.getReadyTasks w.status).2 = []
    · exact ⟨[], w, (List.append_nil events).symm ▸ h, hquiet.stuck hunfinished hready⟩
    · obtain ⟨after, w', hafter, hquiet', hstatus⟩ := exists_round h hquiet hunfinished
      have hlt : s.pendingCount w'.status < n :=
        hcount ▸ pendingCount_round_lt hquiet hready hstatus
      obtain ⟨rest, last, hrest, hstuck⟩ := ih _ hlt hafter hquiet' rfl
      refine ⟨after ++ rest, last, ?_, hstuck⟩
      rw [← List.append_assoc]
      exact hrest

theorem quiet_initial : Quiet initial := ⟨rfl, rfl, rfl, fun _ ↦ .inl rfl⟩

end Cycles

/-- The scheduler is never stuck exactly when no task depends on itself through others. -/
theorem neverDeadlocks_iff : s.NeverDeadlocks ↔ s.Acyclic := by
  refine ⟨fun h taskId hcycle ↦ ?_, neverDeadlocks_of_acyclic⟩
  obtain ⟨taskId', hback, task, htask, hid, hdep, hregistered⟩ :=
    Relation.TransGen.tail'_iff.mp hcycle
  obtain ⟨events, w, hrun, hstuck⟩ :=
    exists_stuck hregistered hcycle (rfl : s.run [] = some initial) quiet_initial
  exact h _ w hrun hstuck

/-- A task that waits for itself. -/
def selfDependent : AORScheduler := ⟨[⟨"a", ["a"]⟩], 4, by decide, by decide⟩

theorem not_neverDeadlocks_selfDependent : ¬ selfDependent.NeverDeadlocks := by
  intro h
  apply h [] initial rfl
  exact ⟨by decide, by decide, by decide, by decide⟩

end DriftGuardX.Replay.AORScheduler
