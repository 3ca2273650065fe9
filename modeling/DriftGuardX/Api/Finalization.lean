import DriftGuardX.Foundation.KeyTable
import DriftGuardX.Recovery.Actions
import DriftGuardX.Replay.Manifest

/-!
# Finalization of runs

A run is stored by `create_run` when its pipeline has ended, or by `register_run` before its spans
arrive, and is finalized by requests. The routes spell the statuses in two ways: the statuses that
are stored are in lower case, and the statuses that are requested, which are those that the guard
knows, in upper case. Hence a run stays as it is, once it is terminal, exactly when it was registered
(`staysTerminal_iff`).
-/

namespace DriftGuardX.Api

open Isolation (Uuid)
open Recovery (Dict)
open Replay (uuidText)

/-- `RunStatus` -/
inductive RunStatus where
  | pending
  | running
  | completed
  | failed
  | cancelled
  deriving DecidableEq, Repr

/-- The value of a status, which is what is stored of it. -/
def RunStatus.value : RunStatus → String
  | .pending => "pending"
  | .running => "running"
  | .completed => "completed"
  | .failed => "failed"
  | .cancelled => "cancelled"

/-- A status that a run can be finalized with. -/
inductive FinalStatus where
  | completed
  | failed
  | cancelled
  deriving DecidableEq, Repr

/-- The status as a request spells it. -/
def FinalStatus.text : FinalStatus → String
  | .completed => "COMPLETED"
  | .failed => "FAILED"
  | .cancelled => "CANCELLED"

/-- The same status among those that a run can have. -/
def FinalStatus.runStatus : FinalStatus → RunStatus
  | .completed => .completed
  | .failed => .failed
  | .cancelled => .cancelled

/-- What the routes do with floats. -/
class RouteFloat (F : Type) where
  literal : ℚ → F
  negative : F → Bool

/-- The columns of `request_runs` that are read or written when a run is finalized. -/
structure RequestRunORM (F : Type) where
  id : Uuid
  tenantId : Uuid
  status : String
  errorType : Option String
  errorMessage : Option String
  reliabilityScore : Option F
  reliabilityVector : Dict F
  totalTokens : Option ℤ
  totalCostUsd : Option F
  totalLatencyMs : Option F
  completedAt : Option ℤ
  deriving DecidableEq

structure RunFinalizeRequest (F : Type) where
  status : FinalStatus
  errorType : Option String
  errorMessage : Option String
  reliabilityScore : Option F
  reliabilityVector : Dict F
  totalTokens : Option ℤ
  totalCostUsd : Option F
  totalLatencyMs : Option F

structure RunFinalizeResponse where
  id : Uuid
  status : String
  deriving DecidableEq, Repr

structure HTTPException where
  statusCode : ℕ
  detail : String
  deriving DecidableEq, Repr

variable {F : Type} [RouteFloat F]

/-! ## The runs that are created -/

/-- What a mock pipeline has found out about a run. -/
structure MockExecution (F : Type) where
  hasError : Bool
  errorType : Option String
  errorMessage : Option String
  reliabilityScore : Option F
  reliabilityVector : Dict F
  totalTokens : ℤ
  totalLatencyMs : F
  completedAt : ℤ

/-- What the real pipeline returns. -/
structure RealExecution (F : Type) where
  totalTokens : ℤ
  costUsd : F
  latencyMs : F
  completedAt : ℤ

/-- The ways in which a run is stored. -/
inductive Creation (F : Type) where
  | createRunMock (runId tenantId : Uuid) (execution : MockExecution F)
  | createRunReal (runId tenantId : Uuid) (isControlled : Bool) (execution : RealExecution F)
  | registerRun (runId tenantId : Uuid)

/-- The run of a mock pipeline. -/
def mockRun (runId tenantId : Uuid) (execution : MockExecution F) : RequestRunORM F where
  id := runId
  tenantId
  status := (if execution.hasError then RunStatus.failed else .completed).value
  errorType := execution.errorType
  errorMessage := execution.errorMessage
  reliabilityScore := execution.reliabilityScore
  reliabilityVector := execution.reliabilityVector
  totalTokens := some execution.totalTokens
  totalCostUsd := some (RouteFloat.literal 0)
  totalLatencyMs := some execution.totalLatencyMs
  completedAt := some execution.completedAt

/-- The run of the real pipeline. -/
def realRun (runId tenantId : Uuid) (isControlled : Bool) (execution : RealExecution F) :
    RequestRunORM F :=
  let reliabilityScore := RouteFloat.literal (if isControlled then 3 / 5 else 19 / 20)
  { id := runId
    tenantId
    status := "completed"
    errorType := none
    errorMessage := none
    reliabilityScore := some reliabilityScore
    reliabilityVector := [("faithfulness", reliabilityScore), ("retrieval_coverage", reliabilityScore),
      ("citation_consistency", reliabilityScore), ("task_success", RouteFloat.literal 1),
      ("policy_compliance", RouteFloat.literal 1)]
    totalTokens := some execution.totalTokens
    totalCostUsd := some execution.costUsd
    totalLatencyMs := some execution.latencyMs
    completedAt := some execution.completedAt }

/-- The run that `register_run` stores. -/
def registeredRun (runId tenantId : Uuid) : RequestRunORM F where
  id := runId
  tenantId
  status := "running"
  errorType := none
  errorMessage := none
  reliabilityScore := none
  reliabilityVector := []
  totalTokens := some 0
  totalCostUsd := some (RouteFloat.literal 0)
  totalLatencyMs := some (RouteFloat.literal 0)
  completedAt := none

def Creation.run : Creation F → RequestRunORM F
  | .createRunMock runId tenantId execution => mockRun runId tenantId execution
  | .createRunReal runId tenantId isControlled execution =>
    realRun runId tenantId isControlled execution
  | .registerRun runId tenantId => registeredRun runId tenantId

omit [RouteFloat F] in
/-- The run was registered. -/
def Creation.Registered : Creation F → Prop
  | .registerRun _ _ => True
  | _ => False

/-! ## Finalization -/

/-- `request_runs`, by the primary key. -/
abbrev RequestRuns (F : Type) := KeyTable fun row : RequestRunORM F ↦ row.id

/-- A text that is there and not empty replaces another. -/
def orKeep (new old : Option String) : Option String :=
  match new with
  | some text => if text = "" then old else some text
  | none => old

/-- A number that is there must not be negative. -/
def checkNonneg {α : Type} (negative : α → Bool) (field : String) (value : Option α) :
    Except HTTPException Unit :=
  if value.any negative then .error ⟨422, field ++ " cannot be negative"⟩ else .ok ()

/-- The columns that a request sets on a run that is not terminal. -/
def RequestRunORM.finalized (row : RequestRunORM F) (request : RunFinalizeRequest F) (now : ℤ) :
    Except HTTPException (RequestRunORM F) := do
  checkNonneg (· < 0) "total_tokens" request.totalTokens
  checkNonneg RouteFloat.negative "total_cost_usd" request.totalCostUsd
  checkNonneg RouteFloat.negative "total_latency_ms" request.totalLatencyMs
  return { row with
    status := request.status.text
    errorType := orKeep request.errorType row.errorType
    errorMessage := orKeep request.errorMessage row.errorMessage
    reliabilityScore := request.reliabilityScore.or row.reliabilityScore
    reliabilityVector :=
      if request.reliabilityVector = [] then row.reliabilityVector else request.reliabilityVector
    totalTokens := request.totalTokens.or row.totalTokens
    totalCostUsd := request.totalCostUsd.or row.totalCostUsd
    totalLatencyMs := request.totalLatencyMs.or row.totalLatencyMs
    completedAt := some now }

/-- A request to finalize a run, with the time when it is handled and whether its commit succeeds. -/
structure FinalizeCall (F : Type) where
  runId : Uuid
  tenantId : Uuid
  request : RunFinalizeRequest F
  now : ℤ
  commits : Bool

/-- The statuses that the guard of `finalize_run` knows. -/
def guarded : List String := ["COMPLETED", "FAILED", "CANCELLED"]

/-- The answer for a run that the guard protects. -/
def answerTerminal (runId : Uuid) (stored requested : String) :
    Except HTTPException RunFinalizeResponse :=
  if stored ≠ requested then .error ⟨409, "Run already in terminal state " ++ stored⟩
  else .ok ⟨runId, stored⟩

/-- `finalize_run`. What fails is rolled back. -/
def finalizeRun (runs : RequestRuns F) (call : FinalizeCall F) :
    RequestRuns F × Except HTTPException RunFinalizeResponse :=
  match (runs.get? call.runId).filter fun row ↦ row.tenantId = call.tenantId with
  | none => (runs, .error ⟨404, "Run " ++ uuidText call.runId ++ " not found"⟩)
  | some row =>
    if row.status ∈ guarded then
      (runs, answerTerminal call.runId row.status call.request.status.text)
    else
      match row.finalized call.request call.now with
      | .error e => (runs, .error e)
      | .ok row =>
        if call.commits then (runs.put row, .ok ⟨call.runId, row.status⟩)
        else (runs, .error ⟨500, "Database commit failed during finalization"⟩)

/-- The runs after some requests. -/
def finalizeAll (runs : RequestRuns F) (calls : List (FinalizeCall F)) : RequestRuns F :=
  calls.foldl (fun runs call ↦ (finalizeRun runs call).1) runs

/-! ## Terminal runs -/

/-- A stored text is a terminal status, in one of the spellings. -/
def Spells (status : FinalStatus) (text : String) : Prop :=
  text = status.text ∨ text = status.runStatus.value

/-- A call for a terminal run leaves it as it is and returns its status if that was requested. -/
def Spares (runs : RequestRuns F) (id : Uuid) (call : FinalizeCall F) : Prop :=
  ∀ row, runs.get? id = some row → ∀ status, Spells status row.status →
    (finalizeRun runs call).1.get? id = some row ∧
      (call.runId = id → call.tenantId = row.tenantId →
        (finalizeRun runs call).2 =
          if call.request.status = status then .ok ⟨id, row.status⟩
          else .error ⟨409, "Run already in terminal state " ++ row.status⟩)

/-- Whatever is requested, a run that has become terminal stays as it is. -/
def StaysTerminal (runs : RequestRuns F) (id : Uuid) : Prop :=
  ∀ calls call, Spares (finalizeAll runs calls) id call

variable {runs : RequestRuns F} {call : FinalizeCall F} {row row' : RequestRunORM F} {id : Uuid}
  {status status' : FinalStatus} {text : String}

theorem mem_guarded_iff : text ∈ guarded ↔ ∃ status : FinalStatus, text = status.text := by
  constructor
  · intro h
    rcases List.mem_cons.mp h with rfl | h
    · exact ⟨.completed, rfl⟩
    · rcases List.mem_cons.mp h with rfl | h
      · exact ⟨.failed, rfl⟩
      · exact ⟨.cancelled, List.mem_singleton.mp h⟩
  · rintro ⟨status, rfl⟩
    cases status <;> decide

theorem FinalStatus.text_injective : Function.Injective FinalStatus.text := by
  intro status status' h
  cases status <;> cases status' <;> first | rfl | exact absurd h (by decide)

theorem FinalStatus.text_ne_value (status : FinalStatus) (stored : RunStatus) :
    status.text ≠ stored.value := by
  cases status <;> cases stored <;> decide

theorem finalized_eq_ok {request : RunFinalizeRequest F} {now : ℤ}
    (h : row.finalized request now = .ok row') :
    row'.id = row.id ∧ row'.tenantId = row.tenantId ∧ row'.status = request.status.text := by
  have hcheck : ∀ {α : Type} (negative : α → Bool) field value (next : Except HTTPException _),
      (checkNonneg negative field value >>= fun _ ↦ next) = .ok row' → next = .ok row' := by
    intro α negative field value next hnext
    rw [checkNonneg] at hnext
    split at hnext
    · contradiction
    · exact hnext
  have hrow := hcheck _ _ _ _ (hcheck _ _ _ _ (hcheck _ _ _ _ h))
  obtain rfl := Except.ok.inj hrow
  exact ⟨rfl, rfl, rfl⟩

/-- What a request does to the runs. -/
theorem finalizeRun_cases (runs : RequestRuns F) (call : FinalizeCall F) :
    (finalizeRun runs call).1 = runs ∨
    ∃ row row', runs.get? call.runId = some row ∧ row.tenantId = call.tenantId ∧
      row.status ∉ guarded ∧ row.finalized call.request call.now = .ok row' ∧
      (finalizeRun runs call).1 = runs.put row' := by
  rw [finalizeRun]
  cases hget : (runs.get? call.runId).filter fun row ↦ row.tenantId = call.tenantId with
  | none => exact Or.inl rfl
  | some row =>
    obtain ⟨hrow, htenant⟩ := Option.filter_eq_some_iff.mp hget
    by_cases hguarded : row.status ∈ guarded
    · dsimp only
      rw [if_pos hguarded]
      exact Or.inl rfl
    · dsimp only
      rw [if_neg hguarded]
      cases hfinal : row.finalized call.request call.now with
      | error e => exact Or.inl rfl
      | ok row' =>
        cases call.commits with
        | false => exact Or.inl rfl
        | true =>
          exact Or.inr ⟨row, row', hrow, of_decide_eq_true htenant, hguarded, hfinal, rfl⟩

variable (call) in
theorem finalizeRun_of_guarded (hrow : runs.get? id = some row) (hguarded : row.status ∈ guarded) :
    (finalizeRun runs call).1.get? id = some row ∧
      (call.runId = id → call.tenantId = row.tenantId →
        (finalizeRun runs call).2 = answerTerminal id row.status call.request.status.text) := by
  constructor
  · rcases finalizeRun_cases runs call with heq | ⟨other, other', hother, -, hopen, hfinal, heq⟩
    · rw [heq, hrow]
    · rw [heq, KeyTable.get?_put, (finalized_eq_ok hfinal).1, KeyTable.key_of_get? hother]
      split
      · rename_i hid
        subst hid
        obtain rfl := Option.some.inj (hother.symm.trans hrow)
        exact absurd hguarded hopen
      · exact hrow
  · rintro rfl htenant
    rw [finalizeRun, hrow, Option.filter_some, if_pos (decide_eq_true htenant.symm)]
    simp only [hguarded, if_true]

theorem finalizeRun_keeps (h : ∀ row, runs.get? id = some row →
      row.status ∈ guarded ∨ row.status = RunStatus.running.value) :
    ∀ row, (finalizeRun runs call).1.get? id = some row →
      row.status ∈ guarded ∨ row.status = RunStatus.running.value := by
  rcases finalizeRun_cases runs call with heq | ⟨other, other', -, -, -, hfinal, heq⟩
  · rw [heq]
    exact h
  · intro row hrow
    rw [heq, KeyTable.get?_put] at hrow
    split at hrow
    · obtain rfl := Option.some.inj hrow
      rw [(finalized_eq_ok hfinal).2.2]
      exact Or.inl (mem_guarded_iff.mpr ⟨_, rfl⟩)
    · exact h row hrow

theorem finalizeAll_keeps (calls : List (FinalizeCall F)) (h : ∀ row, runs.get? id = some row →
      row.status ∈ guarded ∨ row.status = RunStatus.running.value) :
    ∀ row, (finalizeAll runs calls).get? id = some row →
      row.status ∈ guarded ∨ row.status = RunStatus.running.value := by
  induction calls generalizing runs with
  | nil => exact h
  | cons call calls ih => exact ih (finalizeRun_keeps h)

theorem spares_of_guarded (h : ∀ row, runs.get? id = some row →
      row.status ∈ guarded ∨ row.status = RunStatus.running.value) : Spares runs id call := by
  intro row hrow status hspells
  have hguarded : row.status ∈ guarded := by
    rcases h row hrow with hguarded | hrunning
    · exact hguarded
    · rw [hrunning] at hspells
      rcases hspells with heq | heq
      · exact absurd heq.symm (status.text_ne_value .running)
      · cases status <;> exact absurd heq (by decide)
  obtain ⟨known, hknown⟩ := mem_guarded_iff.mp hguarded
  have hstatus : row.status = status.text := by
    rcases hspells with heq | heq
    · exact heq
    · exact absurd (hknown.symm.trans heq) (known.text_ne_value _)
  obtain ⟨hkept, hanswer⟩ := finalizeRun_of_guarded call hrow hguarded
  refine ⟨hkept, fun hid htenant ↦ ?_⟩
  rw [hanswer hid htenant, answerTerminal]
  by_cases hsame : call.request.status = status
  · rw [if_pos hsame, if_neg (not_not.mpr (hstatus.trans (hsame ▸ rfl)))]
  · rw [if_neg hsame, if_pos]
    rw [hstatus]
    exact fun heq ↦ hsame (FinalStatus.text_injective heq).symm

/-- A request that sets a status and nothing else. -/
def bareRequest (status : FinalStatus) : RunFinalizeRequest F :=
  ⟨status, none, none, none, [], none, none, none⟩

theorem finalizeRun_bare (hrow : runs.get? id = some row) (hopen : row.status ∉ guarded) :
    ∃ row', (finalizeRun runs ⟨id, row.tenantId, bareRequest .cancelled, 0, true⟩).1.get? id
      = some row' ∧ row'.status = FinalStatus.cancelled.text := by
  obtain ⟨row', hfinal⟩ : ∃ row', row.finalized (bareRequest .cancelled) 0 = .ok row' := ⟨_, rfl⟩
  refine ⟨row', ?_, (finalized_eq_ok hfinal).2.2⟩
  rw [finalizeRun, hrow, Option.filter_some, if_pos (decide_eq_true rfl)]
  simp only [hopen, if_false, hfinal, if_true]
  rw [KeyTable.get?_put, if_pos ((finalized_eq_ok hfinal).1.trans (KeyTable.key_of_get? hrow)).symm]

theorem status_of_creation (creation : Creation F) :
    (∃ status : FinalStatus, creation.run.status = status.runStatus.value ∧ ¬ creation.Registered) ∨
      creation.run.status = RunStatus.running.value ∧ creation.Registered := by
  cases creation with
  | createRunMock runId tenantId execution =>
    refine Or.inl ?_
    cases herror : execution.hasError with
    | true => exact ⟨.failed, by simp [Creation.run, mockRun, herror, FinalStatus.runStatus], not_false⟩
    | false => exact ⟨.completed, by simp [Creation.run, mockRun, herror, FinalStatus.runStatus], not_false⟩
  | createRunReal runId tenantId isControlled execution => exact Or.inl ⟨.completed, rfl, not_false⟩
  | registerRun runId tenantId => exact Or.inr ⟨rfl, trivial⟩

theorem not_staysTerminal_of_value (hrow : runs.get? id = some row)
    (hstatus : row.status = status.runStatus.value) : ¬ StaysTerminal runs id := by
  intro h
  have hopen : row.status ∉ guarded := by
    intro hguarded
    obtain ⟨known, hknown⟩ := mem_guarded_iff.mp hguarded
    exact known.text_ne_value _ (hknown.symm.trans hstatus)
  obtain ⟨row', hrow', hcancelled⟩ := finalizeRun_bare hrow hopen
  have hkept := (h [] ⟨id, row.tenantId, bareRequest .cancelled, 0, true⟩ row hrow status
    (Or.inr hstatus)).1
  obtain rfl := Option.some.inj (hrow'.symm.trans hkept)
  exact FinalStatus.text_ne_value .cancelled _ (hcancelled.symm.trans hstatus)

/-- **Terminal runs.** A run that was just created stays as it is once it is terminal, whatever is
requested, exactly when it was registered. -/
theorem staysTerminal_iff (runs : RequestRuns F) (creation : Creation F)
    (h : runs.get? creation.run.id = some creation.run) :
    StaysTerminal runs creation.run.id ↔ creation.Registered := by
  rcases status_of_creation creation with ⟨status, hstatus, hnot⟩ | ⟨hrunning, hregistered⟩
  · exact iff_of_false (not_staysTerminal_of_value h hstatus) hnot
  · refine iff_of_true (fun calls call ↦ spares_of_guarded (finalizeAll_keeps calls ?_)) hregistered
    intro row hrow
    obtain rfl := Option.some.inj (h.symm.trans hrow)
    exact Or.inr hrunning

/-! ## A run of the real pipeline -/

instance : RouteFloat ℚ where
  literal q := q
  negative q := q < 0

def sampleCreation (registered : Bool) : Creation ℚ :=
  if registered then .registerRun 1 2 else .createRunReal 1 2 false ⟨150, 1 / 100, 320, 0⟩

/-- The runs with one that was just created. -/
def sampleRuns (registered : Bool) : RequestRuns ℚ := KeyTable.empty.put (sampleCreation registered).run

theorem get?_sampleRuns (registered : Bool) :
    (sampleRuns registered).get? (sampleCreation registered).run.id
      = some (sampleCreation registered).run := by
  rw [sampleRuns, KeyTable.get?_put, if_pos rfl]

theorem staysTerminal_sampleRuns :
    StaysTerminal (sampleRuns true) (sampleCreation true).run.id ↔ (sampleCreation true).Registered :=
  staysTerminal_iff (sampleRuns true) (sampleCreation true) (get?_sampleRuns true)

/-- A run that `create_run` has stored as completed can still be cancelled. -/
theorem not_staysTerminal_sampleRuns :
    ¬ StaysTerminal (sampleRuns false) (sampleCreation false).run.id := by
  have hstored : (sampleCreation false).run.status = FinalStatus.completed.runStatus.value := rfl
  exact not_staysTerminal_of_value (get?_sampleRuns false) hstored

end DriftGuardX.Api
