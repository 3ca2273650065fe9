import DriftGuardX.Admission.Lifecycle
import DriftGuardX.Jobs.Orchestrator

/-!
# A replay job of the worker

What `execute_replay_job` does after it has verified its receipt is a sequence of steps. Four of them
commit something: the episode, the attestation, the receipt and the row of the job. A step may raise an
exception or, where it suspends, be cancelled by the queue, and either may happen after what it commits
is committed. An exception is handled, a cancellation is not.

So a receipt is settled unless the job stops between two commits that belong together
(`settled_iff`).
-/

namespace DriftGuardX.Worker

open Isolation (Uuid)
open Jobs (JobStatus)
open Admission (ReceiptStatus)

/-! ## Steps and where they stop -/

/-- The steps after the receipt is verified, in their order. -/
inductive Step where
  | loadVersions
  | executeReplay
  | validateDivergence
  | addEpisode
  | commitEpisode
  | attest
  | recordAttestation
  | consume
  | closeSession
  | loadJob
  | commitJob
  | closeJobSession
  deriving DecidableEq, Repr

def steps : List Step :=
  [.loadVersions, .executeReplay, .validateDivergence, .addEpisode, .commitEpisode, .attest,
    .recordAttestation, .consume, .closeSession, .loadJob, .commitJob, .closeJobSession]

theorem mem_steps (step : Step) : step ∈ steps := by
  cases step <;> decide

/-- The step awaits the database. -/
def Step.suspends : Step → Bool
  | .loadVersions | .commitEpisode | .closeSession | .loadJob | .commitJob | .closeJobSession => true
  | _ => false

inductive StopKind where
  | raised
  | cancelled
  deriving DecidableEq, Repr

/-- A step that ends with an exception or a cancellation, after it was applied or not. -/
structure Stop where
  step : Step
  kind : StopKind
  applied : Bool
  suspends : kind = .cancelled → step.suspends = true

/-! ## What the steps commit -/

/-- A row of `replay_episodes`, without the columns that say what came of the replay. -/
structure ReplayEpisodeORM where
  id : Uuid
  admissionReceiptId : Uuid
  status : String
  deriving DecidableEq, Repr

/-- What a call has: its receipt and the id that its replay was given. -/
structure ReplayJob where
  receiptId : Uuid
  replayId : Uuid
  deriving DecidableEq, Repr

/-- The status of the receipt, the episodes and the status in the row of the job. -/
structure World where
  receipt : ReceiptStatus
  episodes : List ReplayEpisodeORM
  job : Option JobStatus
  deriving DecidableEq, Repr

/-- `_terminal_transition`, which does nothing from a status that is not allowed. -/
def terminalTransition (target current : ReceiptStatus) : ReceiptStatus :=
  if current ∈ (Admission.AdmissionReceiptStore.allowed target).getD [] then target else current

/-- `_mark_completed` -/
def markCompleted (job : Option JobStatus) : Option JobStatus :=
  job.map fun status ↦ if status = .cancelled then .cancelled else .completed

/-- `_mark_failed` -/
def markFailed (job : Option JobStatus) : Option JobStatus := job.map fun _ ↦ .failed

/-- What a step commits. -/
def Step.effect (call : ReplayJob) : Step → World → World
  | .commitEpisode, w =>
    { w with episodes := w.episodes ++ [⟨call.replayId, call.receiptId, "completed"⟩] }
  | .consume, w => { w with receipt := terminalTransition .consumed w.receipt }
  | .commitJob, w => { w with job := markCompleted w.job }
  | _, w => w

/-- The steps up to the one that stops, if any does. -/
def runSteps (call : ReplayJob) (stop : Option Stop) : List Step → World → World × Option StopKind
  | [], w => (w, none)
  | step :: rest, w =>
    match stop.filter fun s ↦ s.step = step with
    | some s => (if s.applied then step.effect call w else w, some s.kind)
    | none => runSteps call stop rest (step.effect call w)

/-- `execute_replay_job` after the receipt is verified. -/
def executeReplayJob (call : ReplayJob) (stop : Option Stop) (w : World) : World :=
  match runSteps call stop steps w with
  | (w, some .raised) =>
    { w with receipt := terminalTransition .voided w.receipt, job := markFailed w.job }
  | (w, _) => w

/-! ## The store -/

section Store

open Admission AdmissionReceiptStore Transaction

variable {F : Type} [FloatAmount F] {P : Platform} {db db' : Database F} {env : Env} {reply : Reply}

end Store

/-! ## What has taken effect -/

/-- The steps that have taken effect when a job stops. -/
def effective (stop : Option Stop) (l : List Step) : List Step :=
  match stop with
  | none => l
  | some s => l.takeWhile (· ≠ s.step) ++ if s.applied then [s.step] else []

section Run

variable {call : ReplayJob} {stop : Option Stop} {w : World} {l : List Step}

theorem runSteps_eq (h : ∀ s ∈ stop, s.step ∈ l) :
    runSteps call stop l w
      = ((effective stop l).foldl (fun w step ↦ step.effect call w) w, stop.map Stop.kind) := by
  induction l generalizing w with
  | nil =>
    cases stop with
    | none => rfl
    | some s => exact absurd (h s rfl) List.not_mem_nil
  | cons step rest ih =>
    cases stop with
    | none =>
      rw [runSteps, Option.filter_none]
      exact ih fun _ hs ↦ nomatch hs
    | some s =>
      by_cases hstep : s.step = step
      · rw [runSteps, Option.filter_some, if_pos (by simpa using hstep), effective,
          List.takeWhile_cons_of_neg (by simpa using hstep.symm)]
        cases happlied : s.applied with
        | true =>
          simp only [happlied, hstep, if_true]
          rfl
        | false =>
          simp only [happlied, Bool.false_eq_true, if_false]
          rfl
      · have hrest : ∀ t ∈ some s, t.step ∈ rest := by
          rintro t ⟨⟩
          exact (List.mem_cons.mp (h s rfl)).resolve_left hstep
        rw [runSteps, Option.filter_some, if_neg (by simpa using hstep), effective,
          List.takeWhile_cons_of_pos (by simpa using Ne.symm hstep)]
        exact ih hrest

/-! ### What one step commits -/

/-- A completed episode names the receipt. -/
def World.Stored (w : World) (receiptId : Uuid) : Prop :=
  ∃ e ∈ w.episodes, e.admissionReceiptId = receiptId ∧ e.status = "completed"

theorem receipt_effect (step : Step) : (step.effect call w).receipt
    = if step = .consume then terminalTransition .consumed w.receipt else w.receipt := by
  cases step <;> rfl

theorem job_effect (step : Step) : (step.effect call w).job
    = if step = .commitJob then markCompleted w.job else w.job := by
  cases step <;> rfl

theorem stored_effect (step : Step) : (step.effect call w).Stored call.receiptId ↔
    w.Stored call.receiptId ∨ step = .commitEpisode := by
  cases step with
  | commitEpisode =>
    refine ⟨fun _ ↦ Or.inr rfl, fun _ ↦ ⟨_, List.mem_append_right _ (List.mem_singleton_self _), rfl, rfl⟩⟩
  | _ => exact ⟨Or.inl, fun h ↦ h.resolve_right (by decide)⟩

/-! ### What the steps commit together -/

/-- A field that only one step changes, and not a second time. -/
theorem field_foldl {α : Type} {field : World → α} {change : α → α} {target : Step}
    (hchange : ∀ a, change (change a) = change a)
    (heffect : ∀ (step : Step) (w : World),
      field (step.effect call w) = if step = target then change (field w) else field w) :
    field (l.foldl (fun w step ↦ step.effect call w) w)
      = if target ∈ l then change (field w) else field w := by
  induction l using List.reverseRecOn with
  | nil => rfl
  | append_singleton l step ih =>
    rw [List.foldl_append, List.foldl_cons, List.foldl_nil, heffect, ih]
    by_cases hstep : step = target
    · have hmem : target ∈ l ++ [step] := by simp [hstep]
      rw [if_pos hstep, if_pos hmem]
      split_ifs with hold
      · exact hchange _
      · rfl
    · have hmem : target ∈ l ++ [step] ↔ target ∈ l := by simp [Ne.symm hstep]
      simp only [hstep, hmem, if_false]

theorem receipt_foldl : (l.foldl (fun w step ↦ step.effect call w) w).receipt
    = if .consume ∈ l then terminalTransition .consumed w.receipt else w.receipt :=
  field_foldl (fun status ↦ by cases status <;> rfl) fun step w ↦ receipt_effect step

theorem job_foldl : (l.foldl (fun w step ↦ step.effect call w) w).job
    = if .commitJob ∈ l then markCompleted w.job else w.job := by
  refine field_foldl (fun job ↦ ?_) fun step w ↦ job_effect step
  cases job with
  | none => rfl
  | some status => cases status <;> rfl

theorem stored_foldl : (l.foldl (fun w step ↦ step.effect call w) w).Stored call.receiptId ↔
    w.Stored call.receiptId ∨ .commitEpisode ∈ l := by
  induction l using List.reverseRecOn with
  | nil => simp
  | append_singleton l step ih =>
    rw [List.foldl_append, List.foldl_cons, List.foldl_nil, stored_effect, ih, List.mem_append,
      List.mem_singleton, @eq_comm _ step, or_assoc]

end Run

/-! ## Settlement -/

/-- **A settled job**: its receipt is consumed and its episode stored, or the receipt is
voided and no episode is, and the job does not seem to run. -/
structure Settled (call : ReplayJob) (w : World) : Prop where
  receipt : (w.receipt = .consumed ∧ w.Stored call.receiptId) ∨
    (w.receipt = .voided ∧ ¬ w.Stored call.receiptId)
  job : w.job ≠ some .running

/-- An exception comes before the episode is committed or after the receipt is consumed, and a
cancellation after the receipt is consumed, and when the row says that the job runs also after the job
is marked. -/
def StopsSafely (job : Option JobStatus) : Option Stop → Prop
  | none => True
  | some s =>
    match s.kind with
    | .raised => .commitEpisode ∈ effective (some s) steps → .consume ∈ effective (some s) steps
    | .cancelled => .consume ∈ effective (some s) steps ∧
        (job = some .running → .commitJob ∈ effective (some s) steps)

theorem commitEpisode_mem_of_consume {stop : Option Stop}
    (h : .consume ∈ effective stop steps) : .commitEpisode ∈ effective stop steps := by
  have hprefix : ∀ (step : Step) (applied : Bool),
      .consume ∈ steps.takeWhile (· ≠ step) ++ (if applied then [step] else []) →
      .commitEpisode ∈ steps.takeWhile (· ≠ step) ++ (if applied then [step] else []) := by
    intro step applied
    cases step <;> cases applied <;> decide
  cases stop with
  | none => decide
  | some s => exact hprefix s.step s.applied h

theorem markCompleted_ne_running (job : Option JobStatus) : markCompleted job ≠ some .running := by
  cases job with
  | none => simp [markCompleted]
  | some status => cases status <;> decide

theorem markFailed_ne_running (job : Option JobStatus) : markFailed job ≠ some .running := by
  cases job with
  | none => simp [markFailed]
  | some status => cases status <;> decide

section Settlement

variable {call : ReplayJob} {stop : Option Stop} {w : World}

theorem executeReplayJob_eq : executeReplayJob call stop w =
    let w' := (effective stop steps).foldl (fun w step ↦ step.effect call w) w
    if stop.map Stop.kind = some .raised then
      { w' with receipt := terminalTransition .voided w'.receipt, job := markFailed w'.job }
    else w' := by
  rw [executeReplayJob, runSteps_eq fun s _ ↦ mem_steps s.step]
  cases hkind : stop.map Stop.kind with
  | none => rfl
  | some kind =>
    cases kind with
    | raised => rfl
    | cancelled => rfl

/-- **Settlement.** A job with a verified receipt that no episode names yet is settled exactly when it
stops safely. -/
theorem settled_iff (hreceipt : w.receipt = .verified) (hfresh : ¬ w.Stored call.receiptId) :
    Settled call (executeReplayJob call stop w) ↔ StopsSafely w.job stop := by
  let left := (effective stop steps).foldl (fun w step ↦ step.effect call w) w
  have hconsumed : left.receipt = if .consume ∈ effective stop steps then
      terminalTransition .consumed w.receipt else w.receipt := receipt_foldl
  have hjob : left.job = if .commitJob ∈ effective stop steps then markCompleted w.job else w.job :=
    job_foldl
  have hstored : left.Stored call.receiptId ↔
      w.Stored call.receiptId ∨ .commitEpisode ∈ effective stop steps := stored_foldl
  have horder : .consume ∈ effective stop steps → .commitEpisode ∈ effective stop steps :=
    commitEpisode_mem_of_consume
  rw [hreceipt] at hconsumed
  rw [or_iff_right hfresh] at hstored
  rw [executeReplayJob_eq]
  change Settled call (if stop.map Stop.kind = some .raised then
    { left with receipt := terminalTransition .voided left.receipt, job := markFailed left.job }
    else left) ↔ _
  generalize left = w' at *
  cases stop with
  | none =>
    rw [if_neg (by simp)]
    refine iff_of_true ⟨Or.inl ⟨hconsumed, hstored.mpr (by decide)⟩, ?_⟩ trivial
    rw [hjob]
    exact markCompleted_ne_running w.job
  | some s =>
    cases hkind : s.kind with
    | raised =>
      rw [if_pos (by rw [Option.map_some, hkind])]
      simp only [StopsSafely, hkind]
      by_cases hmem : .consume ∈ effective (some s) steps
      · have hstatus : terminalTransition .voided w'.receipt = .consumed := by
          rw [hconsumed, if_pos hmem]
          rfl
        exact iff_of_true ⟨Or.inl ⟨hstatus, hstored.mpr (horder hmem)⟩, markFailed_ne_running _⟩
          fun _ ↦ hmem
      · have hstatus : terminalTransition .voided w'.receipt = .voided := by
          rw [hconsumed, if_neg hmem]
          rfl
        constructor
        · rintro ⟨⟨hother, -⟩ | ⟨-, hnot⟩, -⟩ hcommit
          · exact absurd (hstatus.symm.trans hother) (by decide)
          · exact absurd (hstored.mpr hcommit) hnot
        · intro hsafe
          exact ⟨Or.inr ⟨hstatus, fun hnamed ↦ hmem (hsafe (hstored.mp hnamed))⟩,
            markFailed_ne_running _⟩
    | cancelled =>
      rw [if_neg (by simp [hkind])]
      simp only [StopsSafely, hkind]
      by_cases hmem : .consume ∈ effective (some s) steps
      · have hstatus : w'.receipt = .consumed := by
          rw [hconsumed, if_pos hmem]
          rfl
        have hsettled : Settled call w' ↔ w'.job ≠ some .running :=
          ⟨Settled.job, fun h ↦ ⟨Or.inl ⟨hstatus, hstored.mpr (horder hmem)⟩, h⟩⟩
        rw [hsettled, and_iff_right hmem, hjob]
        split_ifs with hmarked
        · exact iff_of_true (markCompleted_ne_running w.job) fun _ ↦ hmarked
        · exact ⟨fun h hrunning ↦ absurd hrunning h, fun h hrunning ↦ absurd (h hrunning) hmarked⟩
      · -- nobody voids the receipt of a job that is cancelled
        have hstatus : w'.receipt = .verified := by rw [hconsumed, if_neg hmem]
        refine iff_of_false ?_ fun h ↦ hmem h.1
        rintro ⟨⟨hother, -⟩ | ⟨hother, -⟩, -⟩
        · exact absurd (hstatus.symm.trans hother) (by decide)
        · exact absurd (hstatus.symm.trans hother) (by decide)

end Settlement

/-! ## Three jobs -/

/-- A job that runs, with a verified receipt. -/
def started : World := ⟨.verified, [], some .running⟩

def sampleJob : ReplayJob := ⟨1, 2⟩

theorem not_stored_started : ¬ started.Stored sampleJob.receiptId := by
  rintro ⟨e, he, -⟩
  exact absurd he List.not_mem_nil

/-- A replay that raises is settled: its receipt is voided. -/
theorem settled_replayRaises :
    Settled sampleJob (executeReplayJob sampleJob (some ⟨.executeReplay, .raised, false, by decide⟩)
      started) :=
  (settled_iff rfl not_stored_started).mpr (by
    intro hcommit
    exact absurd hcommit (by decide))

/-- A signature that is not trusted, when the attestation is recorded, leaves a voided receipt with its
completed episode, and a timeout while the versions are loaded leaves a verified receipt and a job that
seems to run. -/
theorem not_settled_attestationRaises :
    executeReplayJob sampleJob (some ⟨.recordAttestation, .raised, false, by decide⟩) started
      = ⟨.voided, [⟨2, 1, "completed"⟩], some .failed⟩ ∧
    ¬ Settled sampleJob (executeReplayJob sampleJob
      (some ⟨.recordAttestation, .raised, false, by decide⟩) started) ∧
    executeReplayJob sampleJob (some ⟨.loadVersions, .cancelled, false, by decide⟩) started
      = started ∧
    ¬ Settled sampleJob (executeReplayJob sampleJob
      (some ⟨.loadVersions, .cancelled, false, by decide⟩) started) := by
  refine ⟨by decide, ?_, by decide, ?_⟩
  · rintro ⟨⟨hother, -⟩ | ⟨-, hnot⟩, -⟩
    · exact absurd hother (by decide)
    · exact hnot ⟨⟨2, 1, "completed"⟩, by decide, rfl, rfl⟩
  · rintro ⟨-, hrunning⟩
    exact hrunning rfl

end DriftGuardX.Worker
