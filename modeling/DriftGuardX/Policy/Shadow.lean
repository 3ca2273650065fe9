import DriftGuardX.Policy.Enforcement
import Mathlib.Data.List.Count

/-!
# Shadow evaluation

A candidate policy is tried on recorded events without being activated. The report gives the verdict
of the effective policy for each event, and counts the events by how the verdict has changed. The
engine asks for more than that verdict: a role, and the approvers of an allowing rule. The report
predicts it exactly when neither makes a difference (`predicts_iff`).
-/

namespace DriftGuardX.Policy

open PolicyEngine

/-- A decision from a past run. -/
structure HistoricalEvent where
  eventId : String
  action : String
  tenantId : String
  nodeId : String
  requesterId : String
  requesterRole : String
  recordedVerdict : String
  deriving DecidableEq, Repr

inductive ChangeDirection where
  | tightened
  | relaxed
  deriving DecidableEq, Repr

structure ShadowResult where
  eventId : String
  action : String
  recordedVerdict : String
  shadowVerdict : String
  changed : Bool
  changeDirection : Option ChangeDirection
  shadowRuleId : String
  shadowRationale : String
  deriving DecidableEq, Repr

structure ShadowReport where
  candidatePolicyId : String
  nEvents : ℕ
  nUnchanged : ℕ
  nTightened : ℕ
  nRelaxed : ℕ
  results : List ShadowResult
  deriving DecidableEq, Repr

def RuleVerdict.value : RuleVerdict → String
  | allow => "allow"
  | deny => "deny"
  | needsApproval => "needs_approval"

/-- `_VERDICT_RANK`, in which an unknown verdict ranks like an allowing one. -/
def verdictRank (verdict : String) : ℕ :=
  (List.lookup verdict [("allow", 2), ("needs_approval", 1), ("deny", 0)]).getD 2

/-- How the verdict on an event changes. -/
def changeDirection (recorded shadow : String) : Option ChangeDirection :=
  if shadow = recorded then none
  else if verdictRank shadow < verdictRank recorded then some .tightened
  else some .relaxed

section Evaluate

variable {B : Type} [LT B] [DecidableLT B]

/-- The verdict of the candidate policy on an event, the rule behind it and its rationale. -/
def shadowVerdict (registry : PolicyRegistry B) (ev : HistoricalEvent) : String × String × String :=
  match registry.resolve ev.tenantId ev.nodeId ev.action with
  | .ok ep => (ep.verdict.value, ep.winningRule.ruleId, ep.winningRule.rationale)
  | .error exc => ("deny", "SHADOW_ERROR", exc.message)

def shadowResult (registry : PolicyRegistry B) (ev : HistoricalEvent) : ShadowResult :=
  let (verdict, ruleId, rationale) := shadowVerdict registry ev
  { eventId := ev.eventId
    action := ev.action
    recordedVerdict := ev.recordedVerdict
    shadowVerdict := verdict
    changed := verdict ≠ ev.recordedVerdict
    changeDirection := changeDirection ev.recordedVerdict verdict
    shadowRuleId := ruleId
    shadowRationale := rationale }

/-- The body of the loop over the events. -/
def ShadowReport.record (report : ShadowReport) (result : ShadowResult) : ShadowReport :=
  let report := { report with results := report.results ++ [result] }
  match result.changeDirection with
  | none => { report with nUnchanged := report.nUnchanged + 1 }
  | some .tightened => { report with nTightened := report.nTightened + 1 }
  | some .relaxed => { report with nRelaxed := report.nRelaxed + 1 }

/-- `shadow_evaluate`. -/
def shadowEvaluate (events : List HistoricalEvent) (registry : PolicyRegistry B)
    (candidatePolicyId : String) : ShadowReport :=
  events.foldl (fun report ev ↦ report.record (shadowResult registry ev))
    ⟨candidatePolicyId, events.length, 0, 0, 0, []⟩

end Evaluate

/-! ## The report -/

section Report

/-- The number of events with a direction. -/
def ShadowReport.number (report : ShadowReport) : Option ChangeDirection → ℕ
  | none => report.nUnchanged
  | some .tightened => report.nTightened
  | some .relaxed => report.nRelaxed

/-- The three numbers of a report count the events whose verdict stays, becomes stricter, or becomes
another that is not stricter. -/
structure Partitions (verdict : HistoricalEvent → String) (events : List HistoricalEvent)
    (report : ShadowReport) : Prop where
  unchanged : report.nUnchanged = events.countP fun ev ↦ verdict ev = ev.recordedVerdict
  tightened : report.nTightened = events.countP fun ev ↦
    verdict ev ≠ ev.recordedVerdict ∧ verdictRank (verdict ev) < verdictRank ev.recordedVerdict
  relaxed : report.nRelaxed = events.countP fun ev ↦
    verdict ev ≠ ev.recordedVerdict ∧ verdictRank ev.recordedVerdict ≤ verdictRank (verdict ev)
  nEvents : report.nEvents = events.length
  total : report.nUnchanged + report.nTightened + report.nRelaxed = events.length

variable {recorded shadow : String}

theorem changeDirection_eq_none_iff : changeDirection recorded shadow = none ↔
    shadow = recorded := by
  rw [changeDirection]
  split_ifs with hsame <;> simp [hsame]

theorem changeDirection_eq_tightened_iff : changeDirection recorded shadow = some .tightened ↔
    shadow ≠ recorded ∧ verdictRank shadow < verdictRank recorded := by
  rw [changeDirection]
  split_ifs with hsame hlt
  · exact iff_of_false (by simp) fun h ↦ h.1 hsame
  · exact iff_of_true rfl ⟨hsame, hlt⟩
  · exact iff_of_false (by simp) fun h ↦ hlt h.2

theorem changeDirection_eq_relaxed_iff : changeDirection recorded shadow = some .relaxed ↔
    shadow ≠ recorded ∧ verdictRank recorded ≤ verdictRank shadow := by
  rw [changeDirection]
  split_ifs with hsame hlt
  · exact iff_of_false (by simp) fun h ↦ h.1 hsame
  · exact iff_of_false (by simp) fun h ↦ absurd hlt h.2.not_gt
  · exact iff_of_true rfl ⟨hsame, not_lt.mp hlt⟩

/-- Every event has one of the three directions. -/
theorem countP_directions (direction : HistoricalEvent → Option ChangeDirection)
    (events : List HistoricalEvent) :
    (events.countP fun ev ↦ direction ev = none) +
      (events.countP fun ev ↦ direction ev = some .tightened) +
      (events.countP fun ev ↦ direction ev = some .relaxed) = events.length := by
  induction events with
  | nil => rfl
  | cons ev events ih =>
    simp only [List.countP_cons, List.length_cons, decide_eq_true_eq]
    rcases hdirection : direction ev with _ | _ | _
    all_goals simp only [reduceCtorEq, if_true, if_false, Option.some.injEq]; omega

theorem number_record (report : ShadowReport) (result : ShadowResult)
    (direction : Option ChangeDirection) : (report.record result).number direction
      = report.number direction + if result.changeDirection = direction then 1 else 0 := by
  rw [ShadowReport.record]
  rcases result.changeDirection with _ | _ | _ <;> rcases direction with _ | _ | _ <;> rfl

theorem results_record (report : ShadowReport) (result : ShadowResult) :
    (report.record result).results = report.results ++ [result] := by
  rw [ShadowReport.record]
  split <;> rfl

theorem nEvents_record (report : ShadowReport) (result : ShadowResult) :
    (report.record result).nEvents = report.nEvents := by
  rw [ShadowReport.record]
  split <;> rfl

variable {B : Type} [LT B] [DecidableLT B] (registry : PolicyRegistry B)

theorem foldl_record (events : List HistoricalEvent) (report : ShadowReport) :
    let report' := events.foldl (fun report ev ↦ report.record (shadowResult registry ev)) report
    report'.results = report.results ++ events.map (shadowResult registry) ∧
      report'.nEvents = report.nEvents ∧
      ∀ direction, report'.number direction = report.number direction +
        events.countP fun ev ↦ (shadowResult registry ev).changeDirection = direction := by
  induction events generalizing report with
  | nil => exact ⟨(List.append_nil _).symm, rfl, fun _ ↦ rfl⟩
  | cons ev events ih =>
    obtain ⟨hresults, hnEvents, hnumber⟩ := ih (report.record (shadowResult registry ev))
    refine ⟨?_, ?_, ?_⟩
    · rw [List.foldl_cons, hresults, results_record, List.append_assoc, List.singleton_append,
        List.map_cons]
    · rw [List.foldl_cons, hnEvents, nEvents_record]
    · intro direction
      rw [List.foldl_cons, hnumber, number_record, List.countP_cons]
      simp only [decide_eq_true_eq]
      omega

theorem partitions_shadowEvaluate (events : List HistoricalEvent) (candidatePolicyId : String) :
    Partitions (fun ev ↦ (shadowVerdict registry ev).1) events
      (shadowEvaluate events registry candidatePolicyId) := by
  obtain ⟨-, hnEvents, hnumber⟩ := foldl_record registry events
    ⟨candidatePolicyId, events.length, 0, 0, 0, []⟩
  have hcount : ∀ direction, (shadowEvaluate events registry candidatePolicyId).number direction
      = events.countP fun ev ↦ (shadowResult registry ev).changeDirection = direction := by
    intro direction
    rw [shadowEvaluate, hnumber]
    rcases direction with _ | _ | _ <;> exact Nat.zero_add _
  refine ⟨?_, ?_, ?_, hnEvents, ?_⟩
  · refine (hcount none).trans (List.countP_congr fun ev _ ↦ ?_)
    simp only [decide_eq_true_eq]
    exact changeDirection_eq_none_iff
  · refine (hcount (some .tightened)).trans (List.countP_congr fun ev _ ↦ ?_)
    simp only [decide_eq_true_eq]
    exact changeDirection_eq_tightened_iff
  · refine (hcount (some .relaxed)).trans (List.countP_congr fun ev _ ↦ ?_)
    simp only [decide_eq_true_eq]
    exact changeDirection_eq_relaxed_iff
  · rw [← countP_directions fun ev ↦ (shadowResult registry ev).changeDirection, ← hcount, ← hcount,
      ← hcount]
    rfl

theorem results_shadowEvaluate (events : List HistoricalEvent) (candidatePolicyId : String) :
    (shadowEvaluate events registry candidatePolicyId).results
      = events.map (shadowResult registry) :=
  (foldl_record registry events ⟨candidatePolicyId, events.length, 0, 0, 0, []⟩).1

end Report

/-! ## Prediction -/

section Predict

/-- The call of the engine that an event records, without an approval. -/
def HistoricalEvent.call (ev : HistoricalEvent) (now : ℤ) (newRequestId : String) :
    EvaluateCall where
  action := ev.action
  tenantId := ev.tenantId
  nodeId := ev.nodeId
  requesterId := ev.requesterId
  requesterRole := ev.requesterRole
  existingApprovalId := none
  now
  newRequestId

variable {B : Type} [LT B] [DecidableLT B] (lib : PolicyLibrary B) (registry : PolicyRegistry B)

/-- The verdict of an engine with the candidate policy and no requests on an event. -/
def enforcedVerdict (now : ℤ) (newRequestId : String) (ev : HistoricalEvent) : RuleVerdict :=
  (evaluate lib registry ⟨.empty, []⟩ (ev.call now newRequestId)).1.verdict

/-- The report gives the verdicts of the engine, and counts the events by them. -/
def Predicts (events : List HistoricalEvent) : Prop :=
  ∀ (candidatePolicyId : String) (now : ℤ) (newRequestId : String),
    let report := shadowEvaluate events registry candidatePolicyId
    let verdict := fun ev ↦ (enforcedVerdict lib registry now newRequestId ev).value
    (report.results.map fun result ↦ (result.eventId, result.shadowVerdict))
      = (events.map fun ev ↦ (ev.eventId, verdict ev)) ∧ Partitions verdict events report

/-- The role of an event is admitted where the action is not denied, and an allowing policy asks for
no approver. -/
def Plain (ev : HistoricalEvent) : Prop :=
  ∀ ep, registry.resolve ev.tenantId ev.nodeId ev.action = .ok ep → ep.verdict ≠ .deny →
    AdmitsRole ep ev.requesterRole ∧ (ep.verdict = .allow → ep.requiredApprovers ≤ 0)

theorem RuleVerdict.value_injective : Function.Injective RuleVerdict.value := by
  intro v w h
  cases v <;> cases w <;> first | rfl | exact absurd h (by decide)

variable {lib registry} {now : ℤ} {newRequestId : String} {ev : HistoricalEvent}

omit [LT B] [DecidableLT B] in
/-- Without an approval, the engine follows the verdict of the policy when it admits the role and,
if it allows, asks for no approver. -/
theorem verdict_eq_decidePolicy_iff {approvals : ApprovalService} {call : EvaluateCall}
    {ep : EffectivePolicy B} (h : ¬ (acceptedApproval approvals call).isSome = true) :
    ep.verdict = (decidePolicy lib approvals call ep).1.verdict ↔ (ep.verdict ≠ .deny →
      AdmitsRole ep call.requesterRole ∧ (ep.verdict = .allow → ep.requiredApprovers ≤ 0)) := by
  rw [decidePolicy_verdict]
  by_cases hdeny : ep.verdict = .deny
  · rw [if_pos (Or.inl hdeny)]
    exact iff_of_true hdeny fun hne ↦ absurd hdeny hne
  by_cases hrole : AdmitsRole ep call.requesterRole
  · rw [if_neg (not_or.mpr ⟨hdeny, not_not.mpr hrole⟩)]
    -- what is left is a verdict that allows, or asks for an approval
    cases hverdict : ep.verdict with
    | deny => exact absurd hverdict hdeny
    | needsApproval =>
      rw [if_pos ⟨Or.inl hverdict, h⟩]
      exact iff_of_true rfl fun _ ↦ ⟨hrole, fun hallow ↦ absurd hallow (by simp)⟩
    | allow =>
      by_cases hpos : 0 < ep.requiredApprovers
      · rw [if_pos ⟨Or.inr hpos, h⟩]
        exact iff_of_false (by simp) fun hle ↦ absurd hpos ((hle (by simp)).2 rfl).not_gt
      · have hneeds : ¬ NeedsApproval ep := by
          rintro (hneeds | hneeds)
          · exact absurd (hverdict.symm.trans hneeds) (by simp)
          · exact hpos hneeds
        rw [if_neg fun hmissing ↦ hneeds hmissing.1]
        exact iff_of_true rfl fun _ ↦ ⟨hrole, fun _ ↦ not_lt.mp hpos⟩
  · rw [if_pos (Or.inr hrole)]
    exact iff_of_false hdeny fun hplain ↦ hrole (hplain hdeny).1

theorem shadowVerdict_eq_iff : (shadowVerdict registry ev).1
    = (enforcedVerdict lib registry now newRequestId ev).value ↔ Plain registry ev := by
  have haccepted : ¬ (acceptedApproval .empty (ev.call now newRequestId)).isSome = true := by
    simp [acceptedApproval, HistoricalEvent.call]
  rw [shadowVerdict, Plain, enforcedVerdict, evaluate, decideCall]
  simp only [HistoricalEvent.call]
  cases registry.resolve ev.tenantId ev.nodeId ev.action with
  | error e => exact iff_of_true rfl fun ep h ↦ absurd h (by simp)
  | ok ep =>
    simp only [Except.ok.injEq, forall_eq', RuleVerdict.value_injective.eq_iff]
    exact verdict_eq_decidePolicy_iff haccepted

variable (lib registry)

/-- **Shadow evaluation.** The report on some events predicts the engine exactly when each of the
events is plain. -/
theorem predicts_iff (events : List HistoricalEvent) :
    Predicts lib registry events ↔ ∀ ev ∈ events, Plain registry ev := by
  constructor
  · intro h ev hev
    have hresults := (h "" 0 "").1
    rw [results_shadowEvaluate, List.map_map, List.map_inj_left] at hresults
    exact shadowVerdict_eq_iff.mp (Prod.mk.inj (hresults ev hev)).2
  · intro h candidatePolicyId now newRequestId
    have hverdict : ∀ ev ∈ events, (shadowVerdict registry ev).1
        = (enforcedVerdict lib registry now newRequestId ev).value := by
      intro ev hev
      exact shadowVerdict_eq_iff.mpr (h ev hev)
    refine ⟨?_, ?_⟩
    · rw [results_shadowEvaluate, List.map_map, List.map_inj_left]
      intro ev hev
      exact congrArg (Prod.mk ev.eventId) (hverdict ev hev)
    · have hpartitions := partitions_shadowEvaluate registry events candidatePolicyId
      refine ⟨?_, ?_, ?_, hpartitions.nEvents, hpartitions.total⟩
      · refine hpartitions.unchanged.trans (List.countP_congr fun ev hev ↦ ?_)
        rw [hverdict ev hev]
      · refine hpartitions.tightened.trans (List.countP_congr fun ev hev ↦ ?_)
        rw [hverdict ev hev]
      · refine hpartitions.relaxed.trans (List.countP_congr fun ev hev ↦ ?_)
        rw [hverdict ev hev]

end Predict

/-- A guest reads at a node that allows administrators to read. -/
def guestRead : HistoricalEvent := ⟨"e", "read", "t", "n", "alice", "guest", "allow"⟩

theorem not_predicts_guestRead :
    ¬ Predicts plainLibrary (oneRule (readRule .low 0 ["admin"])) [guestRead] := by
  intro h
  have hresults := (h "" 0 "").1
  exact absurd hresults (by decide)

end DriftGuardX.Policy
