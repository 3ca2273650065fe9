import DriftGuardX.Foundation.History
import DriftGuardX.Replay.Engine
import Mathlib.Data.List.Nodup

/-!
# Exhaustive replay

A planner runs a worker for each candidate whose signature it has not seen, and collects the
episodes. The signature is the target component with the target version; it leaves out the type of
the intervention, and it is remembered from call to call. A worker that raises or takes too long is
answered by an invalid episode, but what is no `Exception` and what is no episode is dropped.

Hence every candidate is answered by one episode exactly when no target component with a version
occurs twice in all the calls, and no worker ends in one of these ways (`exhaustive_iff`). The two
interventions that are generated for a retriever have one signature.
-/

namespace DriftGuardX.Replay

open History
open Isolation (Uuid hexPadded dashed ofHex)

inductive InterventionType where
  | rollback
  | alternateStable
  | configPatch
  | routeChange
  | disable
  | quarantine
  | retryBounded
  | humanMutation
  deriving DecidableEq, Repr

structure Intervention where
  runId : Uuid
  tenantId : Uuid
  interventionType : InterventionType
  targetComponentType : ComponentType
  fromVersionId : Uuid
  toVersionId : Uuid
  fromVersionTag : String
  toVersionTag : String
  rationale : String
  requiresHumanApproval : Bool
  deriving DecidableEq, Repr

/-! ## Candidates -/

structure InterventionSchema where
  interventionType : InterventionType
  description : String
  requiredApprovals : List String
  deriving DecidableEq, Repr

/-- `get_catalog`, by component type. -/
def getCatalog : ComponentType → List InterventionSchema
  | .retriever =>
    [⟨.rollback, "Revert retriever index to a prior stable version.", ["eng_lead"]⟩,
      ⟨.configPatch, "Adjust Top-K or semantic similarity thresholds.", []⟩]
  | .generator =>
    [⟨.alternateStable, "Swap the LLM backend to an alternate provider.",
      ["eng_lead", "cost_owner"]⟩]
  | .policyCheck =>
    [⟨.disable, "Temporarily bypass a failing guardrail policy.", ["security_team", "legal"]⟩]
  | _ => []

structure Diagnosis where
  runId : Uuid
  tenantId : Uuid
  rootCauseComponent : Option ComponentType
  deriving DecidableEq, Repr

/-- `generate`. -/
def generate (diagnosis : Diagnosis) : List Intervention :=
  match diagnosis.rootCauseComponent with
  | none => []
  | some targetComponent =>
    (getCatalog targetComponent).map fun schema ↦
      { runId := diagnosis.runId
        tenantId := diagnosis.tenantId
        interventionType := schema.interventionType
        targetComponentType := targetComponent
        fromVersionId := 0
        toVersionId := 1
        fromVersionTag := "current"
        toVersionTag := "proposed_safe_alt"
        rationale := s!"Generated from schema: {schema.description}"
        requiresHumanApproval := !schema.requiredApprovals.isEmpty }

/-! ## The planner -/

/-- How a worker ends within the time limit: with an episode or another result, at the limit, with
an exception whose text may not be valid, with what is no `Exception`, or not at all. -/
inductive WorkerOutcome where
  | returned (episode : ReplayEpisode)
  | returnedOther
  | timeout
  | raised (text : Option String)
  | cancelled
  | unfinished
  deriving DecidableEq, Repr

/-- What a run of a candidate finds: the flag of the budget, the worker, and a fresh id. -/
structure Turn where
  budgetExhausted : Bool
  worker : WorkerOutcome
  replayId : Uuid
  deriving DecidableEq, Repr

/-- What `gather` collects for a run. -/
inductive RunResult where
  | episode (episode : ReplayEpisode)
  | exception
  | other
  | unfinished
  deriving DecidableEq, Repr

structure ReplayPlanner where
  maxConcurrency : ℕ
  hasWorker : Bool
  seenSignatures : List String
  deriving DecidableEq, Repr

/-- A call of `execute_exhaustive`, and what its runs find, in the order of their submission. -/
structure ExhaustiveCall where
  candidates : List Intervention
  turns : ℕ → Turn

/-- `_create_invalid`. -/
def createInvalid (candidate : Intervention) (replayId : Uuid) (reason : String) :
    ReplayEpisode where
  replayId := replayId
  runId := candidate.runId
  tenantId := candidate.tenantId
  status := .invalid
  invalidReason := some reason
  swappedComponentType := candidate.targetComponentType
  originalVersionId := some candidate.fromVersionId
  replayVersionId := candidate.toVersionId
  originalVersionTag := some candidate.fromVersionTag
  replayVersionTag := some candidate.toVersionTag
  pinnedVersionIds := []
  seed := none
  evidenceClass := .syntheticSimulation
  manifestId := none
  isPinned := false

namespace Intervention

/-- The signature under which a candidate is deduplicated. -/
def signature (candidate : Intervention) : String :=
  s!"{candidate.targetComponentType.value}_{uuidText candidate.toVersionId}"

/-- The candidates differ in target component, intervention type or target version. -/
def Differs (candidate other : Intervention) : Prop :=
  candidate.targetComponentType ≠ other.targetComponentType ∨
    candidate.interventionType ≠ other.interventionType ∨
      candidate.toVersionId ≠ other.toVersionId

instance (candidate other : Intervention) : Decidable (candidate.Differs other) :=
  inferInstanceAs (Decidable (_ ∨ _))

/-- The target component and the target version. -/
def target (candidate : Intervention) : ComponentType × Uuid :=
  (candidate.targetComponentType, candidate.toVersionId)

end Intervention

namespace ReplayPlanner

/-- `ReplayPlanner()`. -/
def new (maxConcurrency : ℕ) (hasWorker : Bool) : ReplayPlanner := ⟨maxConcurrency, hasWorker, []⟩

/-- The loop over the candidates: the signatures and the candidates to run. -/
def submit (found : List String × List Intervention) (candidate : Intervention) :
    List String × List Intervention :=
  if candidate.signature ∈ found.1 then found
  else (found.1 ++ [candidate.signature], found.2 ++ [candidate])

variable (planner : ReplayPlanner)

/-- `_run_with_timeout`. -/
def runWithTimeout (candidate : Intervention) (turn : Turn) : RunResult :=
  if turn.budgetExhausted then .episode (createInvalid candidate turn.replayId "Budget Exhausted")
  else if ¬ planner.hasWorker then
    .episode (createInvalid candidate turn.replayId "No replay executor configured")
  else
    match turn.worker with
    | .returned episode => .episode episode
    | .returnedOther => .other
    | .timeout => .episode (createInvalid candidate turn.replayId "Timeout")
    | .raised (some text) => .episode (createInvalid candidate turn.replayId s!"Error: {text}")
    | .raised none => .exception
    | .cancelled => .other
    | .unfinished => .unfinished

/-- The results of the runs, in the order of their submission. -/
def gather (tasks : List Intervention) (turns : ℕ → Turn) : List RunResult :=
  tasks.zipIdx.map fun m ↦ planner.runWithTimeout m.1 (turns m.2)

/-- The episodes among the results. -/
def episodes (results : List RunResult) : List ReplayEpisode :=
  results.filterMap fun
    | .episode episode => some episode
    | _ => none

/-- `execute_exhaustive`: the episodes, unless it does not return, and the planner after it. Runs
wait for a semaphore with `maxConcurrency` places. -/
def executeExhaustive (call : ExhaustiveCall) : Option (List ReplayEpisode) × ReplayPlanner :=
  let found := call.candidates.foldl submit (planner.seenSignatures, [])
  let results := planner.gather found.2 call.turns
  let planner := { planner with seenSignatures := found.1 }
  if found.2 ≠ [] ∧ planner.maxConcurrency = 0 ∨ .unfinished ∈ results then (none, planner)
  else (some (episodes results), planner)

/-- The planner after calls. -/
def afterCalls (calls : List ExhaustiveCall) : ReplayPlanner :=
  calls.foldl (fun planner call ↦ (planner.executeExhaustive call).2) planner

end ReplayPlanner

/-! ## One episode for each candidate -/

/-- An episode that answers a candidate: the one that the worker returned, or an invalid one. -/
inductive Answers (candidate : Intervention) (turn : Turn) : ReplayEpisode → Prop where
  | returned (episode : ReplayEpisode) (h : turn.worker = .returned episode) :
      Answers candidate turn episode
  | invalid (reason : String) :
      Answers candidate turn (createInvalid candidate turn.replayId reason)

/-- The worker ends with an episode, at the time limit, or with an exception that has a text. -/
def WorkerOutcome.Conclusive : WorkerOutcome → Prop
  | .returned _ | .timeout | .raised (some _) => True
  | _ => False

/-- The worker is not run, or its end leads to an episode. -/
def Turn.Conclusive (turn : Turn) (hasWorker : Bool) : Prop :=
  turn.budgetExhausted = true ∨ hasWorker = false ∨ turn.worker.Conclusive

namespace ReplayPlanner

variable (planner : ReplayPlanner)

/-- The call returns one episode for each of its candidates. -/
def Answered (call : ExhaustiveCall) : Prop :=
  ∃ episodes, (planner.executeExhaustive call).1 = some episodes ∧
    List.Forall₂ (fun m episode ↦ Answers m.1 (call.turns m.2) episode)
      call.candidates.zipIdx episodes

/-- Every call returns one episode for each of its candidates. -/
def Exhaustive (calls : List ExhaustiveCall) : Prop :=
  Always (fun before call ↦ (planner.afterCalls before).Answered call) calls

/-- Nothing of the calls is dropped or waits forever. -/
structure NothingDropped (calls : List ExhaustiveCall) : Prop where
  distinct : ((calls.flatMap ExhaustiveCall.candidates).map Intervention.target).Nodup
  places : ∀ call ∈ calls, call.candidates ≠ [] → planner.maxConcurrency ≠ 0
  conclusive : ∀ call ∈ calls, ∀ i < call.candidates.length,
    (call.turns i).Conclusive planner.hasWorker

end ReplayPlanner

/-! ## Signatures -/

section Signatures

/-- `ComponentType(value)`. -/
def ComponentType.ofValue (value : String) : Option ComponentType :=
  [ComponentType.retriever, .reranker, .generator, .memoryRead, .memoryWrite, .toolCall,
    .policyCheck, .finalResponse, .agent, .prompt, .routing, .modelVersion, .agentConfiguration,
    .tool].find? fun componentType ↦ componentType.value = value

theorem ComponentType.ofValue_value (componentType : ComponentType) :
    ofValue componentType.value = some componentType := by
  cases componentType <;> decide

theorem length_dashed {groups : List ℕ} {digits : List Char} :
    (dashed groups digits).length = digits.length + groups.length := by
  induction groups generalizing digits with
  | nil => rfl
  | cons k groups ih =>
    rw [dashed, List.length_append, List.length_cons, ih, List.length_take, List.length_drop,
      List.length_cons]
    omega

theorem length_uuidText (id : Uuid) : (uuidText id).toList.length = 36 := by
  rw [uuidText, String.toList_ofList, length_dashed, Isolation.length_hexPadded]
  rfl

theorem uuidText_injective : Function.Injective uuidText := by
  intro id id' h
  have hdigits := congrArg (List.filter (· ≠ '-')) (String.ofList_injective h)
  rw [Isolation.filter_dashed Isolation.dash_notMem_hexPadded,
    Isolation.filter_dashed Isolation.dash_notMem_hexPadded] at hdigits
  have hvalue := congrArg ofHex hdigits
  have hlt : ∀ id : Uuid, id.toNat < 16 ^ 32 := fun id ↦ id.isLt.trans_eq (by norm_num)
  rw [Isolation.ofHex_hexPadded (hlt id), Isolation.ofHex_hexPadded (hlt id')] at hvalue
  exact BitVec.eq_of_toNat_eq (Option.some.inj hvalue)

theorem Intervention.signature_eq_iff {candidate other : Intervention} :
    candidate.signature = other.signature ↔ candidate.target = other.target := by
  constructor
  · intro h
    have hchars : ∀ candidate : Intervention, candidate.signature.toList
        = (candidate.targetComponentType.value.toList ++ ['_'])
          ++ (uuidText candidate.toVersionId).toList := by
      intro candidate
      have happend : candidate.signature
          = candidate.targetComponentType.value ++ "_" ++ uuidText candidate.toVersionId := rfl
      rw [happend, String.toList_append, String.toList_append]
      rfl
    have hlists := congrArg String.toList h
    rw [hchars, hchars] at hlists
    obtain ⟨hvalue, htext⟩ := List.append_inj' hlists (by rw [length_uuidText, length_uuidText])
    have hvalue := String.toList_injective (List.append_cancel_right hvalue)
    have htype := congrArg ComponentType.ofValue hvalue
    rw [ComponentType.ofValue_value, ComponentType.ofValue_value] at htype
    exact Prod.ext (Option.some.inj htype) (uuidText_injective (String.toList_injective htext))
  · intro h
    obtain ⟨htype, hversion⟩ := Prod.mk.inj h
    rw [Intervention.signature, Intervention.signature, htype, hversion]

theorem nodup_signatures_iff {candidates : List Intervention} :
    (candidates.map Intervention.signature).Nodup ↔ (candidates.map Intervention.target).Nodup := by
  rw [List.Nodup, List.Nodup, List.pairwise_map, List.pairwise_map]
  simp only [ne_eq, Intervention.signature_eq_iff]

end Signatures

namespace ReplayPlanner

/-! ## One call -/

section Call

variable {planner : ReplayPlanner} {call : ExhaustiveCall} {candidates tasks : List Intervention}
  {candidate : Intervention} {turn : Turn} {seen : List String}

theorem length_submit_le (found : List String × List Intervention) :
    (candidates.foldl submit found).2.length ≤ found.2.length + candidates.length := by
  induction candidates generalizing found with
  | nil => exact Nat.le_refl _
  | cons candidate candidates ih =>
    have hrest := ih (submit found candidate)
    have hfirst : (submit found candidate).2.length ≤ found.2.length + 1 := by
      rw [submit]
      split_ifs
      · exact Nat.le_succ _
      · exact (List.length_append).le
    rw [List.foldl_cons, List.length_cons]
    omega

theorem foldl_submit (hnew : ∀ candidate ∈ candidates, candidate.signature ∉ seen)
    (hnodup : (candidates.map Intervention.signature).Nodup) :
    candidates.foldl submit (seen, tasks)
      = (seen ++ candidates.map Intervention.signature, tasks ++ candidates) := by
  induction candidates generalizing seen tasks with
  | nil => rw [List.foldl_nil, List.map_nil, List.append_nil, List.append_nil]
  | cons candidate candidates ih =>
    obtain ⟨hcandidate, hnew⟩ := List.forall_mem_cons.mp hnew
    rw [List.map_cons, List.nodup_cons] at hnodup
    have hrest : ∀ other ∈ candidates, other.signature ∉ seen ++ [candidate.signature] := by
      intro other hother hmem
      obtain hseen | hsame := List.mem_append.mp hmem
      · exact hnew other hother hseen
      · exact hnodup.1 (List.mem_singleton.mp hsame ▸ List.mem_map_of_mem hother)
    rw [List.foldl_cons, submit, if_neg hcandidate, ih hrest hnodup.2, List.map_cons,
      ← List.append_cons, ← List.append_cons]

/-- When as many candidates are submitted as there are, their signatures are new and distinct. -/
theorem distinct_of_length_submit
    (h : (candidates.foldl submit (seen, tasks)).2.length = tasks.length + candidates.length) :
    (∀ candidate ∈ candidates, candidate.signature ∉ seen) ∧
      (candidates.map Intervention.signature).Nodup := by
  induction candidates generalizing seen tasks with
  | nil => exact ⟨fun _ hmem ↦ absurd hmem List.not_mem_nil, List.nodup_nil⟩
  | cons candidate candidates ih =>
    rw [List.foldl_cons, submit] at h
    split_ifs at h with hseen
    · have hle : (candidates.foldl submit (seen, tasks)).2.length
          ≤ tasks.length + candidates.length := length_submit_le (seen, tasks)
      rw [h, List.length_cons] at hle
      omega
    · obtain ⟨hnew, hnodup⟩ := ih (by rw [h, List.length_append, List.length_cons,
        List.length_singleton, Nat.add_assoc, Nat.add_comm 1])
      refine ⟨List.forall_mem_cons.mpr ⟨hseen, fun other hother hmem ↦ ?_⟩, ?_⟩
      · exact hnew other hother (List.mem_append_left _ hmem)
      · refine List.nodup_cons.mpr ⟨fun hmem ↦ ?_, hnodup⟩
        obtain ⟨other, hother, heq⟩ := List.mem_map.mp hmem
        exact hnew other hother (List.mem_append_right _ (heq ▸ List.mem_singleton_self _))

/-- What a run comes to is an episode that answers the candidate, or is not conclusive. -/
theorem runWithTimeout_cases (planner : ReplayPlanner) (candidate : Intervention) (turn : Turn) :
    (∃ episode, planner.runWithTimeout candidate turn = .episode episode ∧
      Answers candidate turn episode ∧ turn.Conclusive planner.hasWorker) ∨
    ((∀ episode, planner.runWithTimeout candidate turn ≠ .episode episode) ∧
      ¬ turn.Conclusive planner.hasWorker) := by
  rw [runWithTimeout, Turn.Conclusive]
  by_cases hbudget : turn.budgetExhausted = true
  · rw [if_pos hbudget]
    exact .inl ⟨_, rfl, .invalid _, .inl hbudget⟩
  · rw [if_neg hbudget]
    by_cases hworker : planner.hasWorker = true
    · rw [if_neg (not_not.mpr hworker)]
      have hconclusive : (turn.budgetExhausted = true ∨ planner.hasWorker = false ∨
          turn.worker.Conclusive) ↔ turn.worker.Conclusive := by
        simp [hbudget, hworker]
      rw [hconclusive]
      cases houtcome : turn.worker with
      | returned episode => exact .inl ⟨episode, rfl, .returned episode houtcome, trivial⟩
      | timeout => exact .inl ⟨_, rfl, .invalid _, trivial⟩
      | raised text =>
        cases text with
        | some text => exact .inl ⟨_, rfl, .invalid _, trivial⟩
        | none => simp [WorkerOutcome.Conclusive]
      | returnedOther => simp [WorkerOutcome.Conclusive]
      | cancelled => simp [WorkerOutcome.Conclusive]
      | unfinished => simp [WorkerOutcome.Conclusive]
    · rw [if_pos hworker]
      exact .inl ⟨_, rfl, .invalid _, .inr (.inl (Bool.not_eq_true _ ▸ hworker))⟩

theorem conclusive_iff : turn.Conclusive planner.hasWorker ↔
    ∃ episode, planner.runWithTimeout candidate turn = .episode episode := by
  obtain ⟨episode, hrun, -, hconclusive⟩ | ⟨hrun, hinconclusive⟩ :=
    runWithTimeout_cases planner candidate turn
  · exact iff_of_true hconclusive ⟨episode, hrun⟩
  · exact iff_of_false hinconclusive fun ⟨episode, h⟩ ↦ hrun episode h

theorem answers_of_runWithTimeout {episode : ReplayEpisode}
    (h : planner.runWithTimeout candidate turn = .episode episode) :
    Answers candidate turn episode := by
  obtain ⟨other, hrun, hanswers, -⟩ | ⟨hrun, -⟩ := runWithTimeout_cases planner candidate turn
  · rw [hrun] at h
    exact RunResult.episode.inj h ▸ hanswers
  · exact absurd h (hrun episode)

theorem forall₂_episodes {ms : List (Intervention × ℕ)} {turns : ℕ → Turn}
    (h : ∀ m ∈ ms, (turns m.2).Conclusive planner.hasWorker) :
    List.Forall₂ (fun m episode ↦ planner.runWithTimeout m.1 (turns m.2) = .episode episode) ms
      (episodes (ms.map fun m ↦ planner.runWithTimeout m.1 (turns m.2))) := by
  induction ms with
  | nil => exact .nil
  | cons m ms ih =>
    obtain ⟨hfirst, hrest⟩ := List.forall_mem_cons.mp h
    obtain ⟨episode, hepisode⟩ := conclusive_iff.mp hfirst
    rw [List.map_cons, hepisode]
    exact .cons hepisode (ih hrest)

theorem conclusive_of_length {turns : ℕ → Turn}
    (h : (episodes (planner.gather tasks turns)).length = tasks.length) :
    ∀ i < tasks.length, (turns i).Conclusive planner.hasWorker := by
  intro i hi
  have hlength : (planner.gather tasks turns).length = tasks.length := by
    rw [gather, List.length_map, List.length_zipIdx]
  have hall := List.filterMap_length_eq_length.mp (h.trans hlength.symm)
  have hmem : planner.runWithTimeout tasks[i] (turns i) ∈ planner.gather tasks turns := by
    refine List.mem_map.mpr ⟨(tasks[i], i), ?_, rfl⟩
    exact List.mem_zipIdx_iff_getElem?.mpr (List.getElem?_eq_getElem hi)
  have hsome := hall _ hmem
  cases hresult : planner.runWithTimeout tasks[i] (turns i) with
  | episode episode => exact conclusive_iff.mpr ⟨episode, hresult⟩
  | _ =>
    rw [hresult] at hsome
    exact nomatch hsome

/-- A call returns when its runs have places and come to an end. -/
theorem fst_executeExhaustive_eq_some_iff {found : List String × List Intervention}
    (hfound : call.candidates.foldl submit (planner.seenSignatures, []) = found)
    {returned : List ReplayEpisode} : (planner.executeExhaustive call).1 = some returned ↔
      (found.2 ≠ [] → planner.maxConcurrency ≠ 0) ∧
        .unfinished ∉ planner.gather found.2 call.turns ∧
          episodes (planner.gather found.2 call.turns) = returned := by
  rw [executeExhaustive, hfound]
  dsimp only
  split_ifs with hwaits
  · refine iff_of_false nofun fun h ↦ ?_
    obtain ⟨hne, hplaces⟩ | hunfinished := hwaits
    · exact h.1 hne hplaces
    · exact h.2.1 hunfinished
  · obtain ⟨hplaces, hends⟩ := not_or.mp hwaits
    rw [Option.some.injEq]
    exact ⟨fun h ↦ ⟨not_and.mp hplaces, hends, h⟩, fun h ↦ h.2.2⟩

theorem distinct_of_answered (h : planner.Answered call) :
    (∀ candidate ∈ call.candidates, candidate.signature ∉ planner.seenSignatures) ∧
      (call.candidates.map Intervention.signature).Nodup := by
  obtain ⟨returned, hreturned, hanswers⟩ := h
  obtain ⟨-, -, rfl⟩ := (fst_executeExhaustive_eq_some_iff rfl).mp hreturned
  have hepisodes := hanswers.length_eq
  rw [List.length_zipIdx] at hepisodes
  have hresults : (episodes (planner.gather (call.candidates.foldl submit
      (planner.seenSignatures, [])).2 call.turns)).length
        ≤ (call.candidates.foldl submit (planner.seenSignatures, [])).2.length := by
    refine (List.length_filterMap_le _ _).trans_eq ?_
    rw [gather, List.length_map, List.length_zipIdx]
  have hsubmitted : (call.candidates.foldl submit (planner.seenSignatures, [])).2.length
      ≤ 0 + call.candidates.length := length_submit_le (planner.seenSignatures, [])
  have hall : (call.candidates.foldl submit (planner.seenSignatures, [])).2.length
      = ([] : List Intervention).length + call.candidates.length := by
    rw [List.length_nil]
    omega
  exact distinct_of_length_submit hall

theorem answered_iff : planner.Answered call ↔
    ((∀ candidate ∈ call.candidates, candidate.signature ∉ planner.seenSignatures) ∧
      (call.candidates.map Intervention.signature).Nodup) ∧
    (call.candidates ≠ [] → planner.maxConcurrency ≠ 0) ∧
    ∀ i < call.candidates.length, (call.turns i).Conclusive planner.hasWorker := by
  by_cases hdistinct : (∀ candidate ∈ call.candidates,
      candidate.signature ∉ planner.seenSignatures) ∧
        (call.candidates.map Intervention.signature).Nodup
  · rw [and_iff_right hdistinct]
    have hfound : call.candidates.foldl submit (planner.seenSignatures, [])
        = (planner.seenSignatures ++ call.candidates.map Intervention.signature, call.candidates) :=
      foldl_submit hdistinct.1 hdistinct.2
    constructor
    · rintro ⟨returned, hreturned, hanswers⟩
      obtain ⟨hplaces, -, rfl⟩ := (fst_executeExhaustive_eq_some_iff hfound).mp hreturned
      refine ⟨hplaces, conclusive_of_length ?_⟩
      rw [← hanswers.length_eq, List.length_zipIdx]
    · rintro ⟨hplaces, hconclusive⟩
      have hturns : ∀ m ∈ call.candidates.zipIdx, (call.turns m.2).Conclusive planner.hasWorker :=
        fun m hm ↦ hconclusive m.2 (List.snd_lt_of_mem_zipIdx hm)
      refine ⟨_, (fst_executeExhaustive_eq_some_iff hfound).mpr ⟨hplaces, ?_, rfl⟩, ?_⟩
      · intro hmem
        obtain ⟨m, hm, hrun⟩ := List.mem_map.mp hmem
        obtain ⟨episode, hepisode⟩ := conclusive_iff.mp (hturns m hm)
        rw [hepisode] at hrun
        exact nomatch hrun
      · exact (forall₂_episodes hturns).imp fun _ _ ↦ answers_of_runWithTimeout
  · exact iff_of_false (fun h ↦ hdistinct (distinct_of_answered h)) fun h ↦ hdistinct h.1

theorem snd_executeExhaustive (h : planner.Answered call) :
    (planner.executeExhaustive call).2 = { planner with
      seenSignatures := planner.seenSignatures ++ call.candidates.map Intervention.signature } := by
  obtain ⟨hnew, hnodup⟩ := distinct_of_answered h
  rw [executeExhaustive, foldl_submit hnew hnodup]
  split_ifs
  · rfl
  · rfl

end Call

/-! ## Sequences of calls -/

section Calls

variable {planner : ReplayPlanner}

/-- The signatures of calls are distinct, and the planner has seen none of them. -/
structure NewTo (planner : ReplayPlanner) (calls : List ExhaustiveCall) : Prop where
  unseen : ∀ candidate ∈ calls.flatMap ExhaustiveCall.candidates,
    candidate.signature ∉ planner.seenSignatures
  nodup : ((calls.flatMap ExhaustiveCall.candidates).map Intervention.signature).Nodup

theorem exhaustive_cons {call : ExhaustiveCall} {calls : List ExhaustiveCall} :
    planner.Exhaustive (call :: calls) ↔
      planner.Answered call ∧ (planner.executeExhaustive call).2.Exhaustive calls := always_cons

/-- The first call is answered from what was seen before, the others with its signatures added. -/
theorem newTo_cons {call : ExhaustiveCall} {calls : List ExhaustiveCall} :
    planner.NewTo (call :: calls) ↔
      ((∀ candidate ∈ call.candidates, candidate.signature ∉ planner.seenSignatures) ∧
        (call.candidates.map Intervention.signature).Nodup) ∧
      ({ planner with
        seenSignatures := planner.seenSignatures ++ call.candidates.map Intervention.signature } :
          ReplayPlanner).NewTo calls := by
  have hseen : ∀ candidate : Intervention,
      candidate.signature ∉ planner.seenSignatures ++ call.candidates.map Intervention.signature ↔
        candidate.signature ∉ planner.seenSignatures ∧
          candidate.signature ∉ call.candidates.map Intervention.signature := by
    intro candidate
    rw [List.mem_append, not_or]
  constructor
  · rintro ⟨hunseen, hnodup⟩
    rw [List.flatMap_cons, List.forall_mem_append] at hunseen
    rw [List.flatMap_cons, List.map_append, List.nodup_append] at hnodup
    obtain ⟨hfirst, hrest, hdisjoint⟩ := hnodup
    refine ⟨⟨hunseen.1, hfirst⟩, fun candidate hmem ↦ ?_, hrest⟩
    refine (hseen candidate).mpr ⟨hunseen.2 candidate hmem, fun hold ↦ ?_⟩
    exact hdisjoint _ hold _ (List.mem_map_of_mem hmem) rfl
  · rintro ⟨⟨hunseen, hfirst⟩, hothers, hrest⟩
    constructor
    · rw [List.flatMap_cons, List.forall_mem_append]
      exact ⟨hunseen, fun candidate hmem ↦ ((hseen candidate).mp (hothers candidate hmem)).1⟩
    · rw [List.flatMap_cons, List.map_append, List.nodup_append]
      refine ⟨hfirst, hrest, fun signature hold other hnew heq ↦ ?_⟩
      obtain ⟨candidate, hmem, rfl⟩ := List.mem_map.mp hnew
      exact ((hseen candidate).mp (hothers candidate hmem)).2 (heq ▸ hold)

theorem exhaustive_iff_newTo {calls : List ExhaustiveCall} : planner.Exhaustive calls ↔
    planner.NewTo calls ∧
    (∀ call ∈ calls, call.candidates ≠ [] → planner.maxConcurrency ≠ 0) ∧
    ∀ call ∈ calls, ∀ i < call.candidates.length,
      (call.turns i).Conclusive planner.hasWorker := by
  induction calls generalizing planner with
  | nil =>
    have hnew : planner.NewTo [] := ⟨List.forall_mem_nil _, List.nodup_nil⟩
    exact iff_of_true always_nil ⟨hnew, List.forall_mem_nil _, List.forall_mem_nil _⟩
  | cons call calls ih =>
    rw [exhaustive_cons, newTo_cons, List.forall_mem_cons, List.forall_mem_cons]
    by_cases hanswered : planner.Answered call
    · rw [and_iff_right hanswered, snd_executeExhaustive hanswered, ih]
      obtain ⟨hnew, hplaces, hconclusive⟩ := answered_iff.mp hanswered
      rw [and_iff_right hnew, and_iff_right hplaces, and_iff_right hconclusive]
    · refine iff_of_false (fun h ↦ hanswered h.1) fun h ↦ hanswered ?_
      exact answered_iff.mpr ⟨h.1.1, h.2.1.1, h.2.2.1⟩

theorem newTo_new_iff {maxConcurrency : ℕ} {hasWorker : Bool} {calls : List ExhaustiveCall} :
    (new maxConcurrency hasWorker).NewTo calls ↔
      ((calls.flatMap ExhaustiveCall.candidates).map Intervention.target).Nodup := by
  rw [← nodup_signatures_iff]
  exact ⟨NewTo.nodup, fun hnodup ↦ ⟨fun _ _ ↦ List.not_mem_nil, hnodup⟩⟩

end Calls

/-- The calls of a planner are exhaustive exactly when nothing is dropped or waits forever. -/
theorem exhaustive_iff (maxConcurrency : ℕ) (hasWorker : Bool) (calls : List ExhaustiveCall) :
    (new maxConcurrency hasWorker).Exhaustive calls ↔
      (new maxConcurrency hasWorker).NothingDropped calls := by
  rw [exhaustive_iff_newTo, newTo_new_iff]
  exact ⟨fun ⟨hdistinct, hplaces, hconclusive⟩ ↦ ⟨hdistinct, hplaces, hconclusive⟩,
    fun h ↦ ⟨h.distinct, h.places, h.conclusive⟩⟩

end ReplayPlanner

/-! ## Generated candidates -/

theorem pairwise_generate (diagnosis : Diagnosis) :
    (generate diagnosis).Pairwise Intervention.Differs := by
  rw [generate]
  cases diagnosis.rootCauseComponent with
  | none => exact .nil
  | some targetComponent =>
    rw [List.pairwise_map]
    have hcatalog : (getCatalog targetComponent).Pairwise
        fun schema other ↦ schema.interventionType ≠ other.interventionType := by
      cases targetComponent <;> decide
    exact hcatalog.imp fun hne ↦ .inr (.inl hne)

/-- A planner without a worker is given what is generated for a retriever. -/
def retrieverCall : ExhaustiveCall :=
  ⟨generate ⟨99, 1, some .retriever⟩, fun i ↦ ⟨false, .timeout, BitVec.ofNat 128 i⟩⟩

/-- The two candidates have one signature, and one episode is returned. -/
theorem not_exhaustive_retrieverCall :
    retrieverCall.candidates.Pairwise Intervention.Differs ∧
      ¬ (ReplayPlanner.new 5 false).Exhaustive [retrieverCall] := by
  refine ⟨pairwise_generate ⟨99, 1, some .retriever⟩, fun h ↦ ?_⟩
  obtain ⟨hnew, -⟩ := ReplayPlanner.exhaustive_iff_newTo.mp h
  have htargets : ¬ (([retrieverCall].flatMap ExhaustiveCall.candidates).map
      Intervention.target).Nodup := by decide +kernel
  exact htargets (ReplayPlanner.newTo_new_iff.mp hnew)

end DriftGuardX.Replay
