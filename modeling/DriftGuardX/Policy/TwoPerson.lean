import DriftGuardX.Policy.ApprovalRuns

/-!
# Two persons for critical actions

A critical request that an evaluation creates is to be approved by two others than the requester.
Its tier comes from the rules, and the number of approvers from the rules and from the table of
actions, so that a critical request may ask for one approver only. The engine keeps two-person
control over an action at a node exactly when this does not happen (`twoPersonControl_iff`).
-/

namespace DriftGuardX.Policy

open PolicyEngine ApprovalService

/-- Two others than the requester have approved. -/
def TwoApproved (req : ApprovalRequest) : Prop :=
  ∃ actorId actorId', actorId ≠ actorId' ∧ actorId ∈ approvedBy req ∧ actorId' ∈ approvedBy req ∧
    actorId ≠ req.requesterId ∧ actorId' ≠ req.requesterId

theorem twoApproved_of_sound {req : ApprovalRequest} (hsound : req.Sound)
    (htwo : 2 ≤ req.requiredApprovers) (happroved : req.status = .approved) : TwoApproved req := by
  have hquorum := htwo.trans (hsound.quorum happroved).1
  have hcard : 1 < (approvedBy req).length := by omega
  have hnodup : (approvedBy req).Nodup := List.nodup_dedup _
  have hother : ∀ actorId ∈ approvedBy req, actorId ≠ req.requesterId := by
    intro actorId hactor
    obtain ⟨d, hd, rfl, -⟩ := mem_approvedBy.mp hactor
    exact (hsound.decisions (Or.inr happroved) d hd).other
  have hfirst : (approvedBy req)[0] ∈ approvedBy req := List.getElem_mem _
  have hsecond : (approvedBy req)[1] ∈ approvedBy req := List.getElem_mem _
  refine ⟨_, _, ?_, hfirst, hsecond, hother _ hfirst, hother _ hsecond⟩
  intro heq
  exact absurd ((hnodup.getElem_inj_iff).mp heq) (by simp)

/-! ## The request after its creation -/

section Follow

/-- The request under an id is sound and asks for a number of approvers. -/
structure Follows (requiredApprovers : ℤ) (v : RequestView) : Prop where
  sound : v.Sound
  required : v.request.map ApprovalRequest.requiredApprovers = some requiredApprovers

theorem view_createRequest {svc : ApprovalService} {now : ℤ} {req : ApprovalRequest} (id : String) :
    (createRequest now req svc).2.view id = if id = req.requestId then
      ⟨some req, (svc.view id).events ++ [.created]⟩ else svc.view id :=
  view_put_audit rfl id

theorem follows_created {req : ApprovalRequest} {events : List AuditKind}
    (hpending : req.status = .pending) (hnil : req.approvals = []) :
    Follows req.requiredApprovers ⟨some req, events ++ [.created]⟩ := by
  refine ⟨⟨?_, ?_⟩, rfl⟩
  · rintro _ ⟨⟩
    refine ⟨fun _ d hd ↦ ?_, fun happroved ↦ absurd (hpending.symm.trans happroved) (by simp)⟩
    rw [hnil] at hd
    exact absurd hd (by simp)
  · rw [List.foldl_append, Option.map_some, hpending]
    rfl

theorem requiredApprovers_of_change {call : ApprovalCall} {id : String} {v v' : RequestView}
    (hchange : Change call id v v') (hcreate : ∀ now req, call ≠ .createRequest now req) :
    v'.request.map ApprovalRequest.requiredApprovers
      = v.request.map ApprovalRequest.requiredApprovers := by
  cases hchange with
  | create hcall => exact absurd hcall (hcreate _ _)
  | keep | expire | approve | quorum | deny | breakGlass => rfl

theorem Follows.of_change {requiredApprovers : ℤ} {call : ApprovalCall} {id : String}
    {v v' : RequestView} (hchange : Change call id v v')
    (hcreate : ∀ now req, call ≠ .createRequest now req) (h : Follows requiredApprovers v) :
    Follows requiredApprovers v' where
  sound := sound_of_change (fun now req hcall ↦ absurd hcall (hcreate now req)) hchange h.sound
  required := (requiredApprovers_of_change hchange hcreate).trans h.required

variable {B : Type} [LT B] [DecidableLT B] {lib : PolicyLibrary B} {engine : PolicyEngine B}
  {id : String} {requiredApprovers : ℤ}

theorem perform_of_created {call : EngineCall B} {req : ApprovalRequest}
    (h : created lib engine call = some req) :
    ∃ now, (perform lib engine call).approvals = (createRequest now req engine.approvals).2 := by
  cases call with
  | evaluate registry call =>
    refine ⟨call.now, ?_⟩
    rw [PolicyEngine.perform, evaluate_approvals, h]
  | approval call =>
    obtain ⟨now, rfl⟩ := of_created_approval h
    exact ⟨now, rfl⟩

theorem follows_perform {call : EngineCall B}
    (hcreated : ((created lib engine call).filter fun req ↦ req.requestId = id) = none)
    (h : Follows requiredApprovers (engine.approvals.view id)) :
    Follows requiredApprovers ((perform lib engine call).approvals.view id) := by
  cases hcall : created lib engine call with
  | some req =>
    obtain ⟨now, hnow⟩ := perform_of_created hcall
    have hid : id ≠ req.requestId := by
      rintro rfl
      rw [hcall, Option.filter_some, if_pos (by simp)] at hcreated
      exact absurd hcreated (by simp)
    rwa [hnow, view_createRequest, if_neg hid]
  | none =>
    rcases change_of_not_created hcall with hsame | ⟨c, rfl, hcreate, hchange⟩
    · rwa [hsame]
    · exact h.of_change (hchange id) hcreate

theorem follows_run {calls : List (EngineCall B)}
    (hcreated : lastCreated lib engine calls id = none)
    (h : Follows requiredApprovers (engine.approvals.view id)) :
    Follows requiredApprovers ((run lib engine calls).approvals.view id) := by
  induction calls generalizing engine with
  | nil => exact h
  | cons call calls ih =>
    rw [lastCreated, Option.or_eq_none_iff] at hcreated
    exact ih hcreated.1 (follows_perform hcreated.2 h)

end Follow

/-! ## Two-person control -/

section Control

variable {B : Type} [PartialOrder B] [DecidableLT B] {lib : PolicyLibrary B}
  {registry : PolicyRegistry B} {tenantId nodeId action : String}

/-- However a run goes on after an evaluation of an action at a node has created a critical request,
the request is approved only when two others than the requester have approved. -/
def TwoPersonControl (lib : PolicyLibrary B) (registry : PolicyRegistry B)
    (tenantId nodeId action : String) : Prop :=
  ∀ (pre : List (EngineCall B)) (call : EvaluateCall) (req : ApprovalRequest),
    call.Asks tenantId nodeId action →
    created lib (reached lib pre) (.evaluate registry call) = some req →
    req.riskTier = "critical" → ∀ (calls : List (EngineCall B)) (stored : ApprovalRequest),
    lastCreated lib (reached lib (pre ++ [.evaluate registry call])) calls req.requestId = none →
    (reached lib (pre ++ .evaluate registry call :: calls)).approvals.getRequest req.requestId
      = some stored →
    stored.status = .approved → TwoApproved stored

theorem value_eq_critical_iff {tier : RiskTier} : tier.value = "critical" ↔ tier = .critical := by
  cases tier <;> decide

theorem riskTier_eq_critical_iff {rule : PolicyRule B} {ep : EffectivePolicy B}
    (hrule : Applies registry tenantId nodeId action rule)
    (hep : registry.resolve tenantId nodeId action = .ok ep) : ep.riskTier = .critical ↔
      ∃ rule, Applies registry tenantId nodeId action rule ∧ rule.riskTier = .critical := by
  obtain ⟨⟨r, hr, htier⟩, hleast⟩ := (summarises_of_applies hrule hep).riskTier
  constructor
  · intro hcritical
    exact ⟨r, mem_matchingRules_iff.mp hr, htier.trans hcritical⟩
  · rintro ⟨r', hr', hcritical⟩
    have hle := hleast ⟨r', mem_matchingRules_iff.mpr hr', rfl⟩
    rw [hcritical] at hle
    exact le_antisymm hle (by cases ep.riskTier <;> decide)

/-- An approval that fills the quorum takes place. -/
theorem getRequest_approve (repr : String → String) {svc : ApprovalService} {id actorId : String}
    {now : ℤ} {req : ApprovalRequest} (comment : String) (hreq : svc.getRequest id = some req)
    (h : Approvable req now actorId)
    (hquorum : req.requiredApprovers ≤ (approvedBy (withApproval req now actorId comment)).length) :
    (approve repr now id actorId comment svc).2.getRequest id
      = some { withApproval req now actorId comment with status := .approved } := by
  obtain rfl := requestId_of_getRequest hreq
  have hactive : getActive repr now req.requestId svc = (.ok req, svc) := by
    have hstale : ¬ Stale now req := fun hstale ↦ absurd hstale.2 h.live.not_gt
    rw [getActive, Program.bind_of_ok Program.get_apply]
    simp only [hreq]
    rw [if_neg hstale, if_pos h.pending]
    rfl
  have hauthorized : checkActorAuthorized repr req actorId = .ok () :=
    checkActorAuthorized_eq_ok_iff.mpr h.authorized
  have hother : checkNotSelfApproval repr req actorId = .ok () :=
    checkNotSelfApproval_eq_ok_iff.mpr h.other
  rw [approve, Program.bind_of_ok hactive, Program.ofExcept_bind_of_ok hauthorized,
    Program.ofExcept_bind_of_ok hother, Program.bind_of_ok (Program.modify_apply _)]
  split
  · rw [Program.bind_of_ok (Program.modify_apply _)]
    exact KeyTable.get?_put.trans (if_pos rfl)
  · rename_i hmissing
    exact absurd hquorum hmissing

/-- A critical request for one approver is approved by one. -/
theorem not_twoPersonControl {ep : EffectivePolicy B}
    (hep : registry.resolve tenantId nodeId action = .ok ep) (hdeny : ep.verdict ≠ .deny)
    (hneeds : NeedsApproval ep) (hcritical : ep.riskTier = .critical)
    (hone : ep.requiredApprovers < 2) (htier : getTier lib action ≠ .critical) :
    ¬ TwoPersonControl lib registry tenantId nodeId action := by
  intro h
  obtain ⟨role, hrole⟩ := exists_admitsRole ep
  let call := plainCall tenantId nodeId action role
  have hcreated : created lib (reached lib []) (.evaluate registry call)
      = some (newRequest lib call ep) :=
    created_evaluate_eq_some_iff.mpr ⟨by simp [acceptedApproval, call, plainCall], ep, hep, hdeny,
      hrole, hneeds, rfl⟩
  have hrequired : (newRequest lib call ep).requiredApprovers ≤ 1 := by
    have htable : (getApprovalRequirements lib action).requiredApprovers ≤ 1 := by
      rw [getApprovalRequirements]
      cases hget : getTier lib action with
      | critical => exact absurd hget htier
      | low | medium | high => decide
    exact max_le (by omega) htable
  -- the requester is nobody, and somebody approves in time
  have hstored := getRequest_perform_of_created hcreated (newRequest lib call ep).requestId
  rw [if_pos rfl] at hstored
  have hlive : (0 : ℤ) ≤ 0 + 24 * 60 * 60 * 1000000 := by decide
  have hother : "bob" ≠ "" := by decide
  have happrovable : Approvable (newRequest lib call ep) 0 "bob" := ⟨rfl, hlive, Or.inl rfl, hother⟩
  have happrove := getRequest_approve lib.repr "" hstored happrovable hrequired
  obtain ⟨actorId, actorId', hne, hmem, hmem', -⟩ := h [] call _ ⟨rfl, rfl, rfl⟩ hcreated
    (congrArg RiskTier.value hcritical) [.approval (.approve 0 "" "bob" "")] _ rfl happrove rfl
  have hbob : ∀ a ∈ approvedBy (withApproval (newRequest lib call ep) 0 "bob" ""), a = "bob" := by
    intro a ha
    exact List.mem_singleton.mp ha
  exact hne ((hbob actorId hmem).trans (hbob actorId' hmem').symm)

/-- Outside of these cases, a critical request that is created asks for two approvers. -/
theorem two_le_requiredApprovers {call : EvaluateCall} {ep : EffectivePolicy B}
    (hep : registry.resolve call.tenantId call.nodeId call.action = .ok ep)
    (hdeny : ep.verdict ≠ .deny) (hneeds : NeedsApproval ep)
    (hcritical : (newRequest lib call ep).riskTier = "critical")
    (hcondition : DeniesAction registry call.tenantId call.nodeId call.action ∨
      Unguarded registry call.tenantId call.nodeId call.action ∨
      (∀ rule, Applies registry call.tenantId call.nodeId call.action rule →
        rule.riskTier ≠ .critical) ∨
      (∃ rule, Applies registry call.tenantId call.nodeId call.action rule ∧
        2 ≤ rule.requiredApprovers) ∨
      getTier lib call.action = .critical) : 2 ≤ (newRequest lib call ep).requiredApprovers := by
  have hrule : ∃ rule, Applies registry call.tenantId call.nodeId call.action rule := by
    by_contra hnone
    rw [resolve_of_not_applies (not_exists.mp hnone)] at hep
    exact hdeny (Except.ok.inj hep ▸ rfl)
  obtain ⟨rule, hrule⟩ := hrule
  -- the first three conditions contradict that a critical request was created
  rcases hcondition with hdenies | hunguarded | hnone | ⟨rule, hrule, htwo⟩ | htier
  · exact absurd (deniesAction_iff.mp hdenies ep hep) hdeny
  · obtain ⟨ep', hep', -, hneeds'⟩ := exists_resolve_of_unguarded hunguarded
    rw [hep] at hep'
    exact absurd hneeds (Except.ok.inj hep' ▸ hneeds')
  · obtain ⟨rule', hrule', hcritical'⟩ :=
      (riskTier_eq_critical_iff hrule hep).mp (value_eq_critical_iff.mp hcritical)
    exact absurd hcritical' (hnone rule' hrule')
  · refine le_max_of_le_left (htwo.trans ?_)
    exact (summarises_of_applies hrule hep).requiredApprovers.2
      (Or.inr ⟨rule, mem_matchingRules_iff.mpr hrule, rfl⟩)
  · refine le_max_of_le_right ?_
    rw [getApprovalRequirements, htier]
    exact le_rfl

/-- A created request is followed from its creation on. -/
theorem follows_reached {pre calls : List (EngineCall B)} {call : EvaluateCall}
    {req : ApprovalRequest}
    (hcreated : created lib (reached lib pre) (.evaluate registry call) = some req)
    (hlast : lastCreated lib (reached lib (pre ++ [.evaluate registry call])) calls req.requestId
      = none) :
    Follows req.requiredApprovers
      ((reached lib (pre ++ .evaluate registry call :: calls)).approvals.view req.requestId) := by
  have hreached : reached lib (pre ++ .evaluate registry call :: calls)
      = run lib (reached lib (pre ++ [.evaluate registry call])) calls := by
    rw [reached, reached, List.append_cons, run_append]
  rw [hreached]
  refine follows_run hlast ?_
  obtain ⟨now, hnow⟩ := perform_of_created hcreated
  have hstep : reached lib (pre ++ [.evaluate registry call])
      = PolicyEngine.perform lib (reached lib pre) (.evaluate registry call) := by
    rw [reached, run_append]
    rfl
  obtain ⟨-, ep, -, -, -, -, rfl⟩ := created_evaluate_eq_some_iff.mp hcreated
  rw [hstep, hnow, view_createRequest, if_pos rfl]
  exact follows_created rfl rfl

theorem Follows.of_getRequest {requiredApprovers : ℤ} {svc : ApprovalService} {id : String}
    {stored : ApprovalRequest} (h : Follows requiredApprovers (svc.view id))
    (hstored : svc.getRequest id = some stored) :
    stored.Sound ∧ stored.requiredApprovers = requiredApprovers := by
  have hmap := h.required
  rw [RequestView.request, ApprovalService.view, hstored] at hmap
  exact ⟨h.sound.request stored hstored, Option.some.inj hmap⟩

/-- **Two persons.** Critical requests for an action at a node are approved only by two others
exactly when the rules deny the action, or let it pass without an approval, or none of them is
critical, or one of them asks for two approvers, or the table has the action as critical. -/
theorem twoPersonControl_iff (lib : PolicyLibrary B) (registry : PolicyRegistry B)
    (tenantId nodeId action : String) : TwoPersonControl lib registry tenantId nodeId action ↔
      DeniesAction registry tenantId nodeId action ∨ Unguarded registry tenantId nodeId action ∨
      (∀ rule, Applies registry tenantId nodeId action rule → rule.riskTier ≠ .critical) ∨
      (∃ rule, Applies registry tenantId nodeId action rule ∧ 2 ≤ rule.requiredApprovers) ∨
      getTier lib action = .critical := by
  constructor
  · intro h
    by_contra hnone
    simp only [not_or, not_forall, not_exists, not_and, not_not, not_le] at hnone
    obtain ⟨hdenies, hguarded, ⟨rule, hrule, hcritical⟩, hone, htier⟩ := hnone
    rw [deniesAction_iff, not_forall] at hdenies
    obtain ⟨ep, hep⟩ := hdenies
    obtain ⟨hep, hdeny⟩ := Classical.not_imp.mp hep
    have hneeds : NeedsApproval ep :=
      by_contra fun hneeds ↦ hguarded (unguarded_of_resolve hep hdeny hneeds)
    have htwo : ep.requiredApprovers < 2 := by
      rcases (summarises_of_applies hrule hep).requiredApprovers.1 with hzero | ⟨r, hr, heq⟩
      · omega
      · exact heq ▸ hone r (mem_matchingRules_iff.mp hr)
    exact not_twoPersonControl hep hdeny hneeds
      ((riskTier_eq_critical_iff hrule hep).mpr ⟨rule, hrule, hcritical⟩) htwo htier h
  · rintro hcondition pre call req ⟨rfl, rfl, rfl⟩ hcreated hcritical calls stored hlast hstored
      happroved
    obtain ⟨hsound, hrequired⟩ := (follows_reached hcreated hlast).of_getRequest hstored
    obtain ⟨-, ep, hep, hdeny, -, hneeds, rfl⟩ := created_evaluate_eq_some_iff.mp hcreated
    have htwo := two_le_requiredApprovers hep hdeny hneeds hcritical hcondition
    exact twoApproved_of_sound hsound (hrequired ▸ htwo) happroved

end Control

/-- A critical rule that asks for one approver, of an action that the table does not have. -/
theorem not_twoPersonControl_critical :
    ¬ TwoPersonControl plainLibrary (oneRule (readRule .critical 1 [])) "t" "n" "read" := by
  refine not_twoPersonControl rfl ?_ ?_ rfl ?_ ?_
  · decide
  · decide
  · decide
  · decide

end DriftGuardX.Policy
