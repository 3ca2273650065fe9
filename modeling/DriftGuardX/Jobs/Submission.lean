import DriftGuardX.Jobs.Orchestrator
import Mathlib.Data.List.Nodup

/-!
# Idempotent submission

`submit_job` draws a new id in every call, and the key of a call is only stored in the row of its job.
So two calls of a tenant with one key return two ids, whatever their tasks do: submission is
idempotent in exactly those runs in which no two calls of a tenant have a key in common
(`idempotent_iff`).
-/

namespace DriftGuardX.Jobs

open Isolation (Uuid)
open Runs

/-- A call of `submit_job` that returned. -/
structure Submission where
  jobId : Uuid
  tenantId : String
  idempotencyKey : Option String
  deriving DecidableEq, Repr

/-- The call of an event, unless it raised. -/
def Event.submission : Event → Option Submission
  | .submit jobId tenantId key => if tenantId = "" then none else some ⟨jobId, tenantId, key⟩
  | _ => none

def submissions (events : List Event) : List Submission := events.filterMap Event.submission

/-- Two calls of one tenant with one key. -/
def Submission.SameKey (s s' : Submission) : Prop :=
  s.tenantId = s'.tenantId ∧ s.idempotencyKey = s'.idempotencyKey ∧ s.idempotencyKey ≠ none

instance (s s' : Submission) : Decidable (s.SameKey s') := inferInstanceAs (Decidable (_ ∧ _ ∧ _))

/-- The job with an id is one of a tenant and a key. -/
def World.submittedWith (w : World) (tenantId key : String) (jobId : Uuid) : Bool :=
  match w.jobs jobId with
  | some job => job.tenantId = tenantId ∧ job.idempotencyKey = some key
  | none => false

/-- **Idempotent submission** in a run and the state that it ends in: calls of a tenant with one key
return one id and execute the coroutine at most once, and other calls return different ids. -/
structure Idempotent (events : List Event) (w : World) : Prop where
  same : ∀ s ∈ submissions events, ∀ s' ∈ submissions events, s.SameKey s' → s.jobId = s'.jobId
  once : ∀ tenantId key, (w.executions.filter (w.submittedWith tenantId key)).length ≤ 1
  distinct : ∀ s ∈ submissions events, ∀ s' ∈ submissions events,
    s.tenantId ≠ s'.tenantId ∨ s.idempotencyKey ≠ s'.idempotencyKey → s.jobId ≠ s'.jobId

/-- The coroutine of the job may still be called. -/
def Stage.callAhead : Stage → Bool
  | .created | .persisting | .persisted => true
  | _ => false

/-- A task keeps its tenant and key, and calls its coroutine only when that is still ahead. -/
theorem JobHandle.submitted_of_step {uuid : String → Option Uuid} {job job' : JobHandle}
    {row row' : Option BackgroundJobORM} {event : TaskEvent}
    (h : job.step uuid row event = some (job', row')) :
    job'.tenantId = job.tenantId ∧ job'.idempotencyKey = job.idempotencyKey ∧
      (job'.stage.callAhead → job.stage.callAhead ∧ event ≠ .call) ∧
      (event = .call → job.stage.callAhead) := by
  cases event with
  | cancel tenantId db =>
    simp only [JobHandle.step] at h
    split_ifs at h
    all_goals
      obtain ⟨rfl, -⟩ := Prod.mk.inj (Option.some.inj h)
      simp [cancelTask]
  | updateCancelled ok =>
    simp only [JobHandle.step] at h
    split at h
    · contradiction
    · obtain ⟨rfl, -⟩ := Prod.mk.inj (Option.some.inj h)
      simp [cancelTask]
  | interrupt =>
    simp only [JobHandle.step] at h
    split at h
    · split at h
      · contradiction
      · contradiction
      all_goals
        obtain ⟨rfl, -⟩ := Prod.mk.inj (Option.some.inj h)
        simp [Stage.callAhead]
    · contradiction
  | _ =>
    -- the task is at a known stage, and goes on to another one
    simp only [JobHandle.step] at h
    repeat' split at h
    all_goals first | contradiction | skip
    all_goals
      obtain ⟨rfl, -⟩ := Prod.mk.inj (Option.some.inj h)
      simp [Stage.callAhead, *]

theorem executed_of_ne {jobId : Uuid} {executions : List Uuid} {event : TaskEvent}
    (h : event ≠ .call) : executed jobId executions event = executions := by
  cases event <;> first | rfl | contradiction

/-! ## What a run has recorded -/

/-- The handles of a state are those of the calls, each with its own id, and the coroutines that were
called are ones of handles, each once. -/
structure Recorded (calls : List Submission) (w : World) : Prop where
  nodup : (calls.map Submission.jobId).Nodup
  jobs : ∀ jobId job, w.jobs jobId = some job →
    ⟨jobId, job.tenantId, job.idempotencyKey⟩ ∈ calls
  handled : ∀ s ∈ calls, (w.jobs s.jobId).isSome
  once : w.executions.Nodup
  executed : ∀ jobId ∈ w.executions, ∃ job, w.jobs jobId = some job ∧ job.stage.callAhead = false

theorem recorded_start (rows : Uuid → Option BackgroundJobORM) : Recorded [] (World.start rows) where
  nodup := List.nodup_nil
  jobs := fun _ _ h ↦ absurd h (by simp [World.start])
  handled := fun _ h ↦ absurd h List.not_mem_nil
  once := List.nodup_nil
  executed := fun _ h ↦ absurd h List.not_mem_nil

section Step

variable {test : Bool} {uuid : String → Option Uuid} {calls : List Submission} {w w' : World}

theorem Recorded.congr (h : Recorded calls w) (hjobs : w'.jobs = w.jobs)
    (hexecutions : w'.executions = w.executions) : Recorded calls w' := by
  refine ⟨h.nodup, ?_, ?_, hexecutions ▸ h.once, ?_⟩
  · exact hjobs ▸ h.jobs
  · exact hjobs ▸ h.handled
  · rw [hjobs, hexecutions]
    exact h.executed

/-- A job with a new id. -/
theorem Recorded.submit {jobId : Uuid} {tenantId : String} {key : Option String}
    (h : Recorded calls w) (hnew : w.jobs jobId = none)
    (hjobs : w'.jobs = Function.update w.jobs jobId (some (.init test tenantId key)))
    (hexecutions : w'.executions = w.executions) :
    Recorded (calls ++ [⟨jobId, tenantId, key⟩]) w' := by
  have hnotin : ∀ s ∈ calls, s.jobId ≠ jobId := by
    rintro s hs rfl
    have hsome := h.handled s hs
    rw [hnew] at hsome
    contradiction
  refine ⟨?_, fun id job hjob ↦ ?_, fun s hs ↦ ?_, hexecutions ▸ h.once, fun id hid ↦ ?_⟩
  · rw [List.map_append, List.nodup_append]
    refine ⟨h.nodup, List.nodup_singleton _, ?_⟩
    intro a ha b hb
    obtain ⟨s, hs, rfl⟩ := List.mem_map.mp ha
    obtain rfl := List.mem_singleton.mp hb
    exact hnotin s hs
  · rw [hjobs, Function.update_apply] at hjob
    split_ifs at hjob with hid
    · obtain rfl := Option.some.inj hjob
      exact List.mem_append_right _ (by simp [hid, JobHandle.init])
    · exact List.mem_append_left _ (h.jobs id job hjob)
  · rcases List.mem_append.mp hs with hs | hs
    · rw [hjobs, Function.update_of_ne (hnotin s hs)]
      exact h.handled s hs
    · obtain rfl := List.mem_singleton.mp hs
      rw [hjobs, Function.update_self]
      rfl
  · obtain ⟨job, hjob, hstage⟩ := h.executed id (hexecutions ▸ hid)
    have hne : id ≠ jobId := by
      rintro rfl
      rw [hnew] at hjob
      contradiction
    exact ⟨job, by rw [hjobs, Function.update_of_ne hne, hjob], hstage⟩

/-- A step of the task of a job. -/
theorem Recorded.task {jobId : Uuid} {job job' : JobHandle} {row row' : Option BackgroundJobORM}
    {event : TaskEvent} (h : Recorded calls w) (hjob : w.jobs jobId = some job)
    (hstep : job.step uuid row event = some (job', row'))
    (hjobs : w'.jobs = Function.update w.jobs jobId (some job'))
    (hexecutions : w'.executions = Jobs.executed jobId w.executions event) : Recorded calls w' := by
  obtain ⟨htenant, hkey, hahead, hcall⟩ := JobHandle.submitted_of_step hstep
  have hcalled : job'.stage.callAhead = true → jobId ∉ w.executions := by
    intro hstage hid
    obtain ⟨old, hold, hpast⟩ := h.executed jobId hid
    obtain rfl := Option.some.inj (hjob.symm.trans hold)
    rw [(hahead hstage).1] at hpast
    contradiction
  have hexecuted : ∀ id ∈ w.executions, ∃ new,
      w'.jobs id = some new ∧ new.stage.callAhead = false := by
    intro id hid
    rw [hjobs, Function.update_apply]
    split_ifs with heq
    · refine ⟨job', rfl, ?_⟩
      rw [← Bool.not_eq_true]
      exact fun hstage ↦ hcalled hstage (heq ▸ hid)
    · exact h.executed id hid
  refine ⟨h.nodup, fun id new hnew ↦ ?_, fun s hs ↦ ?_, ?_, fun id hid ↦ ?_⟩
  · rw [hjobs, Function.update_apply] at hnew
    split_ifs at hnew with hid
    · obtain rfl := Option.some.inj hnew
      rw [hid, htenant, hkey]
      exact h.jobs jobId job hjob
    · exact h.jobs id new hnew
  · rw [hjobs, Function.update_apply]
    split_ifs
    · rfl
    · exact h.handled s hs
  · rw [hexecutions]
    by_cases hevent : event = .call
    · subst hevent
      refine List.nodup_append.mpr ⟨h.once, List.nodup_singleton _, fun a ha b hb ↦ ?_⟩
      obtain rfl := List.mem_singleton.mp hb
      rintro rfl
      obtain ⟨old, hold, hpast⟩ := h.executed a ha
      obtain rfl := Option.some.inj (hjob.symm.trans hold)
      rw [hcall rfl] at hpast
      contradiction
    · rw [executed_of_ne hevent]
      exact h.once
  · rw [hexecutions] at hid
    by_cases hevent : event = .call
    · subst hevent
      rcases List.mem_append.mp hid with hid | hid
      · exact hexecuted id hid
      · obtain rfl := List.mem_singleton.mp hid
        refine ⟨job', by rw [hjobs, Function.update_self], ?_⟩
        rw [← Bool.not_eq_true]
        exact fun hstage ↦ (hahead hstage).2 rfl
    · rw [executed_of_ne hevent] at hid
      exact hexecuted id hid

/-- **One step** records the call that it is. -/
theorem Recorded.step {event : Event} (h : Recorded calls w)
    (hstep : Jobs.step test uuid w event = some w') :
    Recorded (calls ++ event.submission.toList) w' := by
  cases event with
  | submit jobId tenantId key =>
    simp only [Jobs.step] at hstep
    split_ifs at hstep with htenant hused
    · obtain rfl := Option.some.inj hstep
      simpa [Event.submission, htenant] using h
    · obtain rfl := Option.some.inj hstep
      simp only [Event.submission, htenant, if_false, Option.toList]
      exact h.submit (by simpa using hused) rfl rfl
  | task jobId event =>
    obtain ⟨job, hjob, hstep⟩ := Option.bind_eq_some_iff.mp hstep
    obtain ⟨⟨job', row'⟩, hlocal, hstep⟩ := Option.bind_eq_some_iff.mp hstep
    obtain rfl := Option.some.inj hstep
    change Recorded (calls ++ []) _
    rw [List.append_nil]
    exact h.task hjob hlocal rfl rfl
  | worker jobId event =>
    obtain rfl := Option.some.inj hstep
    change Recorded (calls ++ []) _
    rw [List.append_nil]
    exact h.congr rfl rfl
  | commit index =>
    obtain ⟨write, -, hstep⟩ := Option.bind_eq_some_iff.mp hstep
    obtain rfl := Option.some.inj hstep
    change Recorded (calls ++ []) _
    rw [List.append_nil]
    exact h.congr rfl rfl

/-- **A run** from any table of rows records its calls. -/
theorem recorded_of_run {rows : Uuid → Option BackgroundJobORM} {events : List Event}
    (hrun : run (Jobs.step test uuid) (World.start rows) events = some w) :
    Recorded (submissions events) w := by
  induction events using List.reverseRecOn generalizing w with
  | nil =>
    obtain rfl := Option.some.inj hrun
    exact recorded_start rows
  | append_singleton events event ih =>
    rw [run_concat] at hrun
    obtain ⟨t, ht, hstep⟩ := Option.bind_eq_some_iff.mp hrun
    have hrecorded := (ih ht).step hstep
    rw [submissions, List.filterMap_append]
    cases hevent : event.submission <;> simpa [hevent, submissions] using hrecorded

end Step

/-! ## When submission is idempotent -/

section Idempotent

variable {calls : List Submission} {events : List Event} {w : World}

theorem Recorded.eq_of_jobId (h : Recorded calls w) {s s' : Submission} (hs : s ∈ calls)
    (hs' : s' ∈ calls) (hid : s.jobId = s'.jobId) : s = s' :=
  List.inj_on_of_nodup_map h.nodup hs hs' hid

theorem Submission.SameKey.symm {s s' : Submission} (h : s.SameKey s') : s'.SameKey s := by
  obtain ⟨htenant, hkey, hsome⟩ := h
  exact ⟨htenant.symm, hkey.symm, hkey ▸ hsome⟩

instance : Std.Symm fun s s' : Submission ↦ ¬ s.SameKey s' := ⟨fun _ _ h hsame ↦ h hsame.symm⟩

theorem Recorded.exists_call (h : Recorded calls w) {tenantId key : String} {jobId : Uuid}
    (hjob : w.submittedWith tenantId key jobId) : ⟨jobId, tenantId, some key⟩ ∈ calls := by
  rw [World.submittedWith] at hjob
  split at hjob
  · rename_i job hsome
    obtain ⟨rfl, hkey⟩ := of_decide_eq_true hjob
    exact hkey ▸ h.jobs jobId job hsome
  · contradiction

theorem length_le_one_of_nodup {α : Type} {l : List α} (hnodup : l.Nodup)
    (heq : ∀ a ∈ l, ∀ b ∈ l, a = b) : l.length ≤ 1 := by
  rcases l with _ | ⟨a, _ | ⟨b, l⟩⟩
  · exact Nat.zero_le 1
  · exact Nat.le_refl 1
  · obtain rfl := heq a (by simp) b (by simp)
    simp at hnodup

/-- **When submission is idempotent.** In a run from any table of rows, it is exactly when no two calls
of a tenant have one key. -/
theorem idempotent_iff {test : Bool} {uuid : String → Option Uuid}
    {rows : Uuid → Option BackgroundJobORM}
    (hrun : run (step test uuid) (World.start rows) events = some w) :
    Idempotent events w ↔ (submissions events).Pairwise fun s s' ↦ ¬ s.SameKey s' := by
  have h := recorded_of_run hrun
  constructor
  · intro hidempotent
    refine (List.pairwise_map.mp h.nodup).imp_of_mem fun hs hs' hne hsame ↦ ?_
    exact hne (hidempotent.same _ hs _ hs' hsame)
  · intro hpairwise
    have hone : ∀ s ∈ submissions events, ∀ s' ∈ submissions events, s.SameKey s' → s = s' := by
      intro s hs s' hs' hsame
      by_contra hne
      exact hpairwise.forall hs hs' hne hsame
    refine ⟨fun s hs s' hs' hsame ↦ congrArg _ (hone s hs s' hs' hsame), fun tenantId key ↦ ?_, ?_⟩
    · refine length_le_one_of_nodup (h.once.filter _) fun id hid id' hid' ↦ ?_
      have hcall := h.exists_call (List.mem_filter.mp hid).2
      have hcall' := h.exists_call (List.mem_filter.mp hid').2
      exact congrArg Submission.jobId (hone _ hcall _ hcall' ⟨rfl, rfl, Option.some_ne_none key⟩)
    · intro s hs s' hs' hdiffer hid
      obtain rfl := h.eq_of_jobId hs hs' hid
      exact hdiffer.elim (fun hne ↦ hne rfl) fun hne ↦ hne rfl

/-- Two tenants use one key, and the coroutine of the first is called. -/
def twoTenants : List Event :=
  [.submit 1 "tenant" (some "key"), .submit 2 "other" (some "key"), .task 1 .start,
    .task 1 (.persist true), .task 1 .call]

theorem idempotent_twoTenants :
    ∃ w, run (step true fun _ ↦ some 7) (World.start fun _ ↦ none) twoTenants = some w ∧
      Idempotent twoTenants w := by
  have hrun : run (step true fun _ ↦ some 7) (World.start fun _ ↦ none) twoTenants = some _ := rfl
  exact ⟨_, hrun, (idempotent_iff hrun).mpr (by decide)⟩

/-- A tenant submits twice with one key. -/
def retried : List Event := [.submit 1 "tenant" (some "key"), .submit 2 "tenant" (some "key")]

theorem not_idempotent_retried :
    ¬ ∀ test uuid rows events w,
      run (step test uuid) (World.start rows) events = some w → Idempotent events w := by
  intro h
  have hsame := (h true (fun _ ↦ some 7) (fun _ ↦ none) retried _ rfl).same
    ⟨1, "tenant", some "key"⟩ (by decide) ⟨2, "tenant", some "key"⟩ (by decide) (by decide)
  exact absurd hsame (by decide)

end Idempotent

end DriftGuardX.Jobs
