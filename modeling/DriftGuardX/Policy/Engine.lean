import DriftGuardX.Policy.Approvals
import DriftGuardX.Policy.Resolver

/-!
# The policy engine

`evaluate` decides on an action from the effective policy of a node, the role of the requester and
an approval that is presented with the call. Where an approval is needed and none is accepted, it
creates a request for one.
-/

namespace DriftGuardX.Policy

/-! ## Risk tiers -/

/-- `ACTION_TIER_MAP`. -/
def actionTierMap : List (String × RiskTier) :=
  [("read_trace", .low), ("list_runs", .low), ("get_run", .low), ("get_replay", .low),
    ("read_diagnosis", .low), ("health_check", .low), ("ingest_spans", .low), ("create_run", .low),
    ("list_candidates", .low), ("get_certificate", .low), ("read_policy", .low),
    ("shadow_evaluate_policy", .low), ("view_approval_queue", .low),
    ("create_replay", .medium), ("schedule_replay", .medium), ("cancel_replay", .medium),
    ("mutate_staging_kb", .medium), ("create_intervention", .medium),
    ("submit_diagnosis", .medium), ("request_approval", .medium), ("approve_action", .medium),
    ("deny_action", .medium),
    ("apply_intervention", .high), ("apply_repair_decision", .high), ("apply_rollback", .high),
    ("promote_component_version", .high), ("update_policy", .high), ("activate_policy", .high),
    ("revoke_certificate", .high), ("flush_cache", .high), ("update_model_config", .high),
    ("delete_memory", .critical), ("mutate_production_kb", .critical),
    ("grant_permissions", .critical), ("execute_arbitrary_shell", .critical),
    ("modify_external_system", .critical), ("publish_source_code", .critical),
    ("delete_trace", .critical), ("overwrite_experiment", .critical),
    ("deactivate_safety_gate", .critical), ("break_glass_override", .critical)]

/-- What an approval of an action in a tier needs. -/
structure ApprovalRequirements where
  requiredApprovers : ℤ
  twoPersonControl : Bool

/-- `TIER_APPROVAL_REQUIREMENTS`. -/
def tierApprovalRequirements : RiskTier → ApprovalRequirements
  | .low => ⟨0, false⟩
  | .medium => ⟨1, false⟩
  | .high => ⟨1, true⟩
  | .critical => ⟨2, true⟩

/-- Functions of the language and its library: `str.lower`, `repr` of a string, and the hash of a
rule's content. -/
structure PolicyLibrary (B : Type) where
  lower : String → String
  repr : String → String
  version : PolicyRule B → String

variable {B : Type} (lib : PolicyLibrary B)

/-- Unknown actions are high. -/
def getTier (action : String) : RiskTier :=
  (actionTierMap.lookup (lib.lower action)).getD .high

def getApprovalRequirements (action : String) : ApprovalRequirements :=
  tierApprovalRequirements (getTier lib action)

/-! ## Decisions -/

structure EngineDecision (B : Type) where
  action : String
  tenantId : String
  nodeId : String
  requesterId : String
  requesterRole : String
  verdict : RuleVerdict
  riskTier : RiskTier
  ruleId : String
  policyVersion : String
  rationale : String
  requiresApproval : Bool
  twoPersonControl : Bool
  approvalRequestId : Option String
  effectivePolicy : Option (EffectivePolicy B)

/-- The arguments of `evaluate`, the time, and the id that a new request gets. -/
structure EvaluateCall where
  action : String
  tenantId : String
  nodeId : String
  requesterId : String
  requesterRole : String
  existingApprovalId : Option String
  now : ℤ
  newRequestId : String

/-- The approvals and the decisions of an engine. -/
structure PolicyEngine (B : Type) where
  approvals : ApprovalService
  decisionLog : List (EngineDecision B)

namespace PolicyEngine

/-- The decision before anything is known. -/
def undecided (call : EvaluateCall) : EngineDecision B where
  action := call.action
  tenantId := call.tenantId
  nodeId := call.nodeId
  requesterId := call.requesterId
  requesterRole := call.requesterRole
  verdict := .deny
  riskTier := .high
  ruleId := "DEFAULT_DENY"
  policyVersion := "unknown"
  rationale := ""
  requiresApproval := false
  twoPersonControl := false
  approvalRequestId := none
  effectivePolicy := none

/-- The decision once the effective policy is known. -/
def resolved (call : EvaluateCall) (ep : EffectivePolicy B) : EngineDecision B :=
  { (undecided call : EngineDecision B) with
    effectivePolicy := some ep
    riskTier := ep.riskTier
    ruleId := ep.winningRule.ruleId
    policyVersion := lib.version ep.winningRule }

/-- The approval that is presented, with the rationale, if it is accepted. A request that was
approved must be for the action and the tenant; a break-glass override may be for anything. -/
def acceptedApproval (approvals : ApprovalService) (call : EvaluateCall) :
    Option (String × String) := do
  let approvalId ← call.existingApprovalId.filter fun id ↦ id ≠ ""
  let req ← approvals.getRequest approvalId
  if req.status = .approved ∧ req.action = call.action ∧ req.tenantId = call.tenantId then
    some (approvalId, s!"Approved via request {approvalId}.")
  else if req.status = .breakGlass then some (approvalId, s!"Break-glass override {approvalId}.")
  else none

/-- The request that is created for a call. -/
def newRequest (call : EvaluateCall) (ep : EffectivePolicy B) : ApprovalRequest where
  action := call.action
  resource := call.nodeId
  requesterId := call.requesterId
  tenantId := call.tenantId
  nodeId := call.nodeId
  riskTier := ep.riskTier.value
  requiredApprovers :=
    max ep.requiredApprovers (getApprovalRequirements lib call.action).requiredApprovers
  twoPersonControl :=
    ep.twoPersonControl || (getApprovalRequirements lib call.action).twoPersonControl
  requestId := call.newRequestId
  status := .pending
  expiresAt := call.now + 24 * 60 * 60 * 1000000
  delegatedApprovers := []
  approvals := []

/-- An effective policy under which an action needs an approval. -/
def NeedsApproval (ep : EffectivePolicy B) : Prop :=
  ep.verdict = .needsApproval ∨ 0 < ep.requiredApprovers

instance (ep : EffectivePolicy B) : Decidable (NeedsApproval ep) :=
  inferInstanceAs (Decidable (_ ∨ _))

/-- The decision where an approval is needed, and the service after it. -/
def decideApproval (approvals : ApprovalService) (call : EvaluateCall) (ep : EffectivePolicy B) :
    EngineDecision B × ApprovalService :=
  let decision := { resolved lib call ep with
    requiresApproval := true
    twoPersonControl := ep.twoPersonControl }
  match acceptedApproval approvals call with
  | some (approvalId, rationale) =>
    ({ decision with verdict := .allow, rationale, approvalRequestId := some approvalId }, approvals)
  | none =>
    let request := newRequest lib call ep
    ({ decision with
        verdict := .needsApproval
        rationale := s!"Action '{call.action}' requires {request.requiredApprovers} approver(s). " ++
          s!"Approval request created: {request.requestId}"
        approvalRequestId := some request.requestId },
      (ApprovalService.createRequest call.now request approvals).2)

/-- A role that an effective policy admits. -/
def AdmitsRole (ep : EffectivePolicy B) (role : String) : Prop :=
  ep.allowedRoles = [] ∨ role ∈ ep.allowedRoles

instance (ep : EffectivePolicy B) (role : String) : Decidable (AdmitsRole ep role) :=
  inferInstanceAs (Decidable (_ ∨ _))

/-- A text, or another in place of the empty one. -/
def orElse (text other : String) : String := if text = "" then other else text

/-- The decision under an effective policy, and the service after it. -/
def decidePolicy (approvals : ApprovalService) (call : EvaluateCall) (ep : EffectivePolicy B) :
    EngineDecision B × ApprovalService :=
  if ep.verdict = .deny then
    ({ resolved lib call ep with
        verdict := .deny
        rationale := orElse ep.winningRule.rationale "Denied by policy." }, approvals)
  else if ¬ AdmitsRole ep call.requesterRole then
    ({ resolved lib call ep with
        verdict := .deny
        rationale := s!"Role '{call.requesterRole}' not in allowed roles [" ++
          ", ".intercalate (ep.allowedRoles.map lib.repr) ++ "]."
        ruleId := "ROLE_DENIED" }, approvals)
  else if NeedsApproval ep then decideApproval lib approvals call ep
  else
    ({ resolved lib call ep with
        verdict := .allow
        rationale := orElse ep.winningRule.rationale s!"Action '{call.action}' is permitted." },
      approvals)

variable [LT B] [DecidableLT B]

/-- The decision on a call, and the service after it. -/
def decideCall (registry : PolicyRegistry B) (approvals : ApprovalService) (call : EvaluateCall) :
    EngineDecision B × ApprovalService :=
  match registry.resolve call.tenantId call.nodeId call.action with
  | .error exc =>
    ({ (undecided call : EngineDecision B) with
        verdict := .deny
        rationale := "Policy resolution error (fail-closed): " ++ exc.message
        ruleId := "RESOLUTION_ERROR" }, approvals)
  | .ok ep => decidePolicy lib approvals call ep

/-- `evaluate`, which logs its decision. -/
def evaluate (registry : PolicyRegistry B) (engine : PolicyEngine B) (call : EvaluateCall) :
    EngineDecision B × PolicyEngine B :=
  let result := decideCall lib registry engine.approvals call
  (result.1, ⟨result.2, engine.decisionLog ++ [result.1]⟩)

end PolicyEngine

end DriftGuardX.Policy
