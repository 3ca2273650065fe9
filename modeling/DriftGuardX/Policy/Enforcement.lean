import DriftGuardX.Policy.Engine
import DriftGuardX.Policy.Tightening

/-!
# What the engine enforces

The verdict of `evaluate` in terms of the rules that apply to an action at a node. The engine
restricts roles, refuses a broken hierarchy and insists on approvals only under conditions on these
rules: the rules share a role (`evaluate_roles_iff`), what the walk still reaches denies
(`evaluate_broken_iff`), and some rule asks for an approval (`evaluate_highRisk_iff`).
-/

namespace DriftGuardX.Policy

open PolicyEngine Walk

variable {B : Type} {lib : PolicyLibrary B}

/-! ## The verdict -/

section Verdict

variable {approvals : ApprovalService} {call : EvaluateCall} {ep : EffectivePolicy B}

theorem decideApproval_verdict : (decideApproval lib approvals call ep).1.verdict
    = if (acceptedApproval approvals call).isSome then .allow else .needsApproval := by
  rw [decideApproval]
  cases acceptedApproval approvals call with
  | none => rfl
  | some accepted => rfl

/-- A refusal comes first, then an approval that is missing. -/
theorem decidePolicy_verdict : (decidePolicy lib approvals call ep).1.verdict
    = if ep.verdict = .deny ∨ ¬ AdmitsRole ep call.requesterRole then .deny
      else if NeedsApproval ep ∧ ¬ (acceptedApproval approvals call).isSome = true then
        .needsApproval
      else .allow := by
  rw [decidePolicy]
  by_cases hdeny : ep.verdict = .deny
  · rw [if_pos hdeny, if_pos (Or.inl hdeny)]
  by_cases hrole : AdmitsRole ep call.requesterRole
  · rw [if_neg hdeny, if_neg (not_not.mpr hrole),
      if_neg (not_or.mpr ⟨hdeny, not_not.mpr hrole⟩)]
    by_cases hneeds : NeedsApproval ep
    · rw [if_pos hneeds, decideApproval_verdict]
      by_cases haccepted : (acceptedApproval approvals call).isSome = true
      · rw [if_pos haccepted, if_neg fun h ↦ h.2 haccepted]
      · rw [if_neg haccepted, if_pos ⟨hneeds, haccepted⟩]
    · rw [if_neg hneeds, if_neg fun h ↦ hneeds h.1]
  · rw [if_neg hdeny, if_pos hrole, if_pos (Or.inr hrole)]

theorem decidePolicy_eq_deny_iff : (decidePolicy lib approvals call ep).1.verdict = .deny ↔
    ep.verdict = .deny ∨ ¬ AdmitsRole ep call.requesterRole := by
  rw [decidePolicy_verdict]
  split_ifs with hrefused hmissing
  · exact iff_of_true rfl hrefused
  · exact iff_of_false (by simp) hrefused
  · exact iff_of_false (by simp) hrefused

theorem decidePolicy_eq_allow_iff : (decidePolicy lib approvals call ep).1.verdict = .allow ↔
    ep.verdict ≠ .deny ∧ AdmitsRole ep call.requesterRole ∧
      (NeedsApproval ep → (acceptedApproval approvals call).isSome = true) := by
  rw [decidePolicy_verdict]
  split_ifs with hrefused hmissing
  · exact iff_of_false (by simp) (by tauto)
  · exact iff_of_false (by simp) fun h ↦ hmissing.2 (h.2.2 hmissing.1)
  · obtain ⟨hdeny, hrole⟩ := not_or.mp hrefused
    refine iff_of_true rfl ⟨hdeny, not_not.mp hrole, fun hneeds ↦ ?_⟩
    exact by_contra fun h ↦ hmissing ⟨hneeds, h⟩

theorem decidePolicy_eq_needsApproval_iff :
    (decidePolicy lib approvals call ep).1.verdict = .needsApproval ↔
      ep.verdict ≠ .deny ∧ AdmitsRole ep call.requesterRole ∧ NeedsApproval ep ∧
        ¬ (acceptedApproval approvals call).isSome = true := by
  rw [decidePolicy_verdict]
  split_ifs with hrefused hmissing
  · exact iff_of_false (by simp) (by tauto)
  · obtain ⟨hdeny, hrole⟩ := not_or.mp hrefused
    exact iff_of_true rfl ⟨hdeny, not_not.mp hrole, hmissing⟩
  · exact iff_of_false (by simp) fun h ↦ hmissing h.2.2

/-- The approval presented is accepted when it was approved for the action and the tenant, or
overridden. -/
theorem isSome_acceptedApproval_iff : (acceptedApproval approvals call).isSome = true ↔
    ∃ approvalId req, call.existingApprovalId = some approvalId ∧ approvalId ≠ "" ∧
      approvals.getRequest approvalId = some req ∧
      ((req.status = .approved ∧ req.action = call.action ∧ req.tenantId = call.tenantId) ∨
        req.status = .breakGlass) := by
  constructor
  · intro h
    obtain ⟨accepted, h⟩ := Option.isSome_iff_exists.mp h
    simp only [acceptedApproval, Option.bind_eq_bind, Option.bind_eq_some_iff] at h
    obtain ⟨approvalId, hid, req, hreq, h⟩ := h
    obtain ⟨hid, hne⟩ := Option.filter_eq_some_iff.mp hid
    refine ⟨approvalId, req, hid, of_decide_eq_true hne, hreq, ?_⟩
    split at h
    · exact Or.inl (by assumption)
    · split at h
      · exact Or.inr (by assumption)
      · exact absurd h (by simp)
  · rintro ⟨approvalId, req, hid, hne, hreq, hstatus⟩
    rw [acceptedApproval, hid, Option.filter_some, if_pos (decide_eq_true hne)]
    simp only [Option.bind_eq_bind, Option.bind_some, hreq]
    rcases hstatus with happroved | hoverridden
    · rw [if_pos happroved]
      rfl
    · rw [if_neg (by simp [hoverridden]), if_pos hoverridden]
      rfl

variable [LT B] [DecidableLT B] {registry : PolicyRegistry B} {engine : PolicyEngine B}

theorem evaluate_eq_deny_iff : (evaluate lib registry engine call).1.verdict = .deny ↔
    ∀ ep, registry.resolve call.tenantId call.nodeId call.action = .ok ep →
      ep.verdict = .deny ∨ ¬ AdmitsRole ep call.requesterRole := by
  rw [evaluate, decideCall]
  cases registry.resolve call.tenantId call.nodeId call.action with
  | error e => exact iff_of_true rfl fun ep h ↦ absurd h (by simp)
  | ok ep => simp [decidePolicy_eq_deny_iff]

theorem evaluate_eq_allow_iff : (evaluate lib registry engine call).1.verdict = .allow ↔
    ∃ ep, registry.resolve call.tenantId call.nodeId call.action = .ok ep ∧ ep.verdict ≠ .deny ∧
      AdmitsRole ep call.requesterRole ∧
      (NeedsApproval ep → (acceptedApproval engine.approvals call).isSome = true) := by
  rw [evaluate, decideCall]
  cases registry.resolve call.tenantId call.nodeId call.action with
  | error e => exact iff_of_false (fun h ↦ absurd h (by simp)) fun ⟨ep, h, _⟩ ↦ absurd h (by simp)
  | ok ep => simp [decidePolicy_eq_allow_iff]

end Verdict

theorem exists_admitsRole (ep : EffectivePolicy B) : ∃ role, AdmitsRole ep role := by
  cases hroles : ep.allowedRoles with
  | nil => exact ⟨"", Or.inl hroles⟩
  | cons role roles => exact ⟨role, Or.inr (hroles ▸ List.mem_cons_self)⟩

/-- A call of `evaluate` for an action at a node. -/
def EvaluateCall.Asks (call : EvaluateCall) (tenantId nodeId action : String) : Prop :=
  call.tenantId = tenantId ∧ call.nodeId = nodeId ∧ call.action = action

/-- The call of a role that presents no approval. -/
def plainCall (tenantId nodeId action role : String) : EvaluateCall :=
  ⟨action, tenantId, nodeId, "", role, none, 0, ""⟩

section Rules

variable [PartialOrder B] [DecidableLT B] {registry : PolicyRegistry B}
  {tenantId nodeId action : String} {ep : EffectivePolicy B}

/-- No rule applies, the rules that apply conflict, or one of them denies. -/
def DeniesAction (registry : PolicyRegistry B) (tenantId nodeId action : String) : Prop :=
  (∀ rule, ¬ Applies registry tenantId nodeId action rule) ∨
    Conflicts (matchingRules (registry.ancestorChain tenantId nodeId) action) ∨
    ∃ rule, Applies registry tenantId nodeId action rule ∧ rule.verdict = .deny

theorem resolve_of_not_applies (h : ∀ rule, ¬ Applies registry tenantId nodeId action rule) :
    registry.resolve tenantId nodeId action = .ok (defaultDeny action tenantId nodeId) := by
  have hnil : matchingRules (registry.ancestorChain tenantId nodeId) action = [] :=
    List.eq_nil_iff_forall_not_mem.mpr fun rule hrule ↦ h rule (mem_matchingRules_iff.mp hrule)
  rw [PolicyRegistry.resolve, hnil]

theorem summarises_of_applies {rule : PolicyRule B}
    (hrule : Applies registry tenantId nodeId action rule)
    (h : registry.resolve tenantId nodeId action = .ok ep) :
    Summarises (matchingRules (registry.ancestorChain tenantId nodeId) action) ep :=
  summarises_of_resolve (List.ne_nil_of_mem (mem_matchingRules_iff.mpr hrule)) h

theorem deniesAction_iff : DeniesAction registry tenantId nodeId action ↔
    ∀ ep, registry.resolve tenantId nodeId action = .ok ep → ep.verdict = .deny := by
  constructor
  · rintro (hnone | hconflicts | ⟨rule, hrule, hdeny⟩) ep hep
    · rw [resolve_of_not_applies hnone] at hep
      exact Except.ok.inj hep ▸ rfl
    · obtain ⟨e, he⟩ := resolve_eq_error_iff.mpr hconflicts
      exact absurd (he.symm.trans hep) (by simp)
    · have hle := (summarises_of_applies hrule hep).verdict.2
        ⟨rule, mem_matchingRules_iff.mpr hrule, hdeny⟩
      exact le_antisymm hle (RuleVerdict.deny_le _)
  · intro h
    by_cases hnone : ∀ rule, ¬ Applies registry tenantId nodeId action rule
    · exact Or.inl hnone
    obtain ⟨rule, hrule⟩ := not_forall_not.mp hnone
    cases hresolve : registry.resolve tenantId nodeId action with
    | error e => exact Or.inr (Or.inl (resolve_eq_error_iff.mp ⟨e, hresolve⟩))
    | ok ep =>
      obtain ⟨⟨rule', hrule', hverdict⟩, -⟩ := (summarises_of_applies hrule hresolve).verdict
      exact Or.inr (Or.inr ⟨rule', mem_matchingRules_iff.mp hrule', hverdict.trans (h ep hresolve)⟩)

/-! ## Roles -/

/-- A role that every rule with roles allows. -/
def CommonRole (rules : List (PolicyRule B)) (role : String) : Prop :=
  ∀ rule ∈ rules, rule.allowedRoles ≠ [] → role ∈ rule.allowedRoles

omit [PartialOrder B] [DecidableLT B] in
theorem mem_foldl_tightenRoles_iff {rules : List (PolicyRule B)} (h : ∃ role, CommonRole rules role)
    (role : String) : ((rules.map PolicyRule.allowedRoles).foldl tightenRoles [] = [] ∨
      role ∈ (rules.map PolicyRule.allowedRoles).foldl tightenRoles []) ↔ CommonRole rules role := by
  obtain ⟨common, hcommon⟩ := h
  induction rules using List.reverseRecOn generalizing role with
  | nil => exact iff_of_true (Or.inl rfl) fun _ h ↦ absurd h (by simp)
  | append_singleton rules rule ih =>
    have happend : ∀ {r}, CommonRole (rules ++ [rule]) r ↔ CommonRole rules r ∧
        (rule.allowedRoles ≠ [] → r ∈ rule.allowedRoles) := by
      simp [CommonRole, or_imp, forall_and]
    rw [happend] at hcommon ⊢
    rw [← ih role hcommon.1, List.map_append, List.foldl_append, List.map_singleton,
      List.foldl_cons, List.foldl_nil]
    have hadmits := (ih common hcommon.1).mpr hcommon.1
    generalize (rules.map PolicyRule.allowedRoles).foldl tightenRoles [] = roles at hadmits ⊢
    rw [tightenRoles]
    by_cases hallowed : rule.allowedRoles = []
    · simp [hallowed]
    by_cases hroles : roles = []
    · simp [hallowed, hroles]
    · -- The common role is kept, so the list stays nonempty.
      have hmem : common ∈ roles.filter fun r ↦ r ∈ rule.allowedRoles :=
        List.mem_filter.mpr ⟨hadmits.resolve_left hroles, by simpa using hcommon.2 hallowed⟩
      rw [if_neg hallowed, if_neg hroles, or_iff_right (List.ne_nil_of_mem hmem),
        or_iff_right hroles, List.mem_filter]
      simp [hallowed]

theorem admitsRole_iff (hep : registry.resolve tenantId nodeId action = .ok ep)
    (h : ∃ role, CommonRole (matchingRules (registry.ancestorChain tenantId nodeId) action) role)
    (role : String) : AdmitsRole ep role ↔
      CommonRole (matchingRules (registry.ancestorChain tenantId nodeId) action) role := by
  by_cases hne : matchingRules (registry.ancestorChain tenantId nodeId) action = []
  · rw [PolicyRegistry.resolve, hne] at hep
    obtain rfl := Except.ok.inj hep
    rw [hne]
    exact iff_of_true (Or.inl rfl) fun _ h ↦ absurd h (by simp)
  · obtain ⟨first, acc, hacc, rfl⟩ := of_resolve rfl hne hep
    rw [← mem_foldl_tightenRoles_iff h, ← (Summary.of_resolveRules hacc).allowedRoles]
    rfl

/-- A role that every rule with roles that applies to an action allows. -/
def SharedRole (registry : PolicyRegistry B) (tenantId nodeId action role : String) : Prop :=
  ∀ rule, Applies registry tenantId nodeId action rule → rule.allowedRoles ≠ [] →
    role ∈ rule.allowedRoles

omit [PartialOrder B] [DecidableLT B] in
theorem sharedRole_iff {role : String} : SharedRole registry tenantId nodeId action role ↔
    CommonRole (matchingRules (registry.ancestorChain tenantId nodeId) action) role := by
  simp only [SharedRole, CommonRole, mem_matchingRules_iff]

/-- Who is not denied has a role that every rule with roles allows. -/
def RestrictsRoles (lib : PolicyLibrary B) (registry : PolicyRegistry B) (engine : PolicyEngine B)
    (tenantId nodeId action : String) : Prop :=
  ∀ call : EvaluateCall, call.Asks tenantId nodeId action →
    (evaluate lib registry engine call).1.verdict ≠ .deny →
    SharedRole registry tenantId nodeId action call.requesterRole

/-- **Roles.** The engine restricts an action to the roles that the rules share exactly when it
denies the action anyway or the rules share a role; and the effective roles are the intersection
exactly when the rules share a role. -/
theorem evaluate_roles_iff (lib : PolicyLibrary B) (registry : PolicyRegistry B)
    (engine : PolicyEngine B) (tenantId nodeId action : String) :
    (RestrictsRoles lib registry engine tenantId nodeId action ↔
      DeniesAction registry tenantId nodeId action ∨
        ∃ role, SharedRole registry tenantId nodeId action role) ∧
    ∀ ep, registry.resolve tenantId nodeId action = .ok ep →
      ((∀ role, AdmitsRole ep role ↔ SharedRole registry tenantId nodeId action role) ↔
        ∃ role, SharedRole registry tenantId nodeId action role) := by
  have hadmits : ∀ {ep}, registry.resolve tenantId nodeId action = .ok ep →
      (∃ role, SharedRole registry tenantId nodeId action role) → ∀ role,
      AdmitsRole ep role ↔ SharedRole registry tenantId nodeId action role := by
    intro ep hep hshared role
    simp only [sharedRole_iff] at hshared ⊢
    exact admitsRole_iff hep hshared role
  refine ⟨⟨fun h ↦ ?_, ?_⟩, fun ep hep ↦ ⟨fun h ↦ ?_, hadmits hep⟩⟩
  · rw [or_iff_not_imp_left, deniesAction_iff, not_forall]
    rintro ⟨ep, hep⟩
    obtain ⟨hep, hverdict⟩ := Classical.not_imp.mp hep
    obtain ⟨role, hrole⟩ := exists_admitsRole ep
    refine ⟨role, h (plainCall tenantId nodeId action role) ⟨rfl, rfl, rfl⟩ fun hdeny ↦ ?_⟩
    exact (evaluate_eq_deny_iff.mp hdeny ep hep).elim hverdict fun hnot ↦ hnot hrole
  · rintro h call ⟨rfl, rfl, rfl⟩ hverdict
    rw [Ne, evaluate_eq_deny_iff, not_forall] at hverdict
    obtain ⟨ep, hep⟩ := hverdict
    obtain ⟨hep, hnot⟩ := Classical.not_imp.mp hep
    obtain ⟨hdeny, hrole⟩ := not_or.mp hnot
    rcases h with h | h
    · exact absurd (deniesAction_iff.mp h ep hep) hdeny
    · exact (hadmits hep h _).mp (not_not.mp hrole)
  · obtain ⟨role, hrole⟩ := exists_admitsRole ep
    exact ⟨role, (h role).mp hrole⟩

/-! ## Broken hierarchies -/

/-- The links from a node to its parents do not end at a registered node without a parent. -/
def Broken (registry : PolicyRegistry B) (tenantId nodeId : String) : Prop :=
  ¬ ∃ leaf root, registry.get tenantId nodeId = some leaf ∧
    Reaches (registry.parent tenantId) leaf root ∧ root.parentId = none

/-- At a node with a broken hierarchy everything is denied. -/
def FailsClosed (lib : PolicyLibrary B) (registry : PolicyRegistry B) (engine : PolicyEngine B)
    (tenantId nodeId : String) : Prop :=
  Broken registry tenantId nodeId → ∀ call : EvaluateCall, call.tenantId = tenantId →
    call.nodeId = nodeId → (evaluate lib registry engine call).1.verdict = .deny

/-- **Broken hierarchies.** The engine fails closed at a node exactly when the hierarchy is not
broken there, or the rules that the walk still reaches deny every action. -/
theorem evaluate_broken_iff (lib : PolicyLibrary B) (registry : PolicyRegistry B)
    (engine : PolicyEngine B) (tenantId nodeId : String) :
    FailsClosed lib registry engine tenantId nodeId ↔
      (Broken registry tenantId nodeId → ∀ action, DeniesAction registry tenantId nodeId action) := by
  refine forall_congr' fun _ ↦ ⟨fun h action ↦ ?_, ?_⟩
  · rw [deniesAction_iff]
    intro ep hep
    obtain ⟨role, hrole⟩ := exists_admitsRole ep
    have hdeny := h (plainCall tenantId nodeId action role) rfl rfl
    exact (evaluate_eq_deny_iff.mp hdeny ep hep).resolve_right fun hnot ↦ hnot hrole
  · rintro h call rfl rfl
    exact evaluate_eq_deny_iff.mpr fun ep hep ↦ Or.inl (deniesAction_iff.mp (h call.action) ep hep)

/-! ## High-risk actions -/

/-- The tiers whose actions need an approval. -/
def IsHighRisk (tier : RiskTier) : Prop := tier = .high ∨ tier = .critical

theorem isHighRisk_iff {tier : RiskTier} : IsHighRisk tier ↔ tier ≤ .high := by
  cases tier <;> simp [IsHighRisk] <;> decide

/-- An action of high risk, by its effective policy or by the table of actions. -/
def HighRiskAction (lib : PolicyLibrary B) (registry : PolicyRegistry B)
    (tenantId nodeId action : String) : Prop :=
  (∃ ep, registry.resolve tenantId nodeId action = .ok ep ∧ IsHighRisk ep.riskTier) ∨
    IsHighRisk (getTier lib action)

/-- Who is allowed an action of high risk has presented a request that was approved or
overridden. -/
def RequiresApproval (lib : PolicyLibrary B) (registry : PolicyRegistry B)
    (engine : PolicyEngine B) (tenantId nodeId action : String) : Prop :=
  ∀ call : EvaluateCall, call.Asks tenantId nodeId action →
    (evaluate lib registry engine call).1.verdict = .allow →
    HighRiskAction lib registry tenantId nodeId action →
    ∃ approvalId req, call.existingApprovalId = some approvalId ∧
      engine.approvals.getRequest approvalId = some req ∧
      (req.status = .approved ∨ req.status = .breakGlass)

/-- Some rule applies, and all that apply allow the action without an approver. -/
def Unguarded (registry : PolicyRegistry B) (tenantId nodeId action : String) : Prop :=
  (∃ rule, Applies registry tenantId nodeId action rule) ∧
    ∀ rule, Applies registry tenantId nodeId action rule →
      rule.verdict = .allow ∧ rule.requiredApprovers ≤ 0

/-- A rule that applies is of high risk, or the table of actions says so. -/
def RiskyRules (lib : PolicyLibrary B) (registry : PolicyRegistry B)
    (tenantId nodeId action : String) : Prop :=
  (∃ rule, Applies registry tenantId nodeId action rule ∧ IsHighRisk rule.riskTier) ∨
    IsHighRisk (getTier lib action)

theorem exists_resolve_of_unguarded (h : Unguarded registry tenantId nodeId action) :
    ∃ ep, registry.resolve tenantId nodeId action = .ok ep ∧ ep.verdict = .allow ∧
      ¬ NeedsApproval ep := by
  obtain ⟨⟨rule, hrule⟩, hall⟩ := h
  cases hresolve : registry.resolve tenantId nodeId action with
  -- a conflict needs a rule that is stricter than allowing
  | error e =>
    obtain ⟨init, r, rest, heq, strictest, hmem, -, hrelaxes, -⟩ :=
      resolve_eq_error_iff.mp ⟨e, hresolve⟩
    have hstrictest : Applies registry tenantId nodeId action strictest :=
      mem_matchingRules_iff.mp (heq ▸ List.mem_append_left _ hmem)
    rw [(hall strictest hstrictest).1] at hrelaxes
    exact absurd hrelaxes (RuleVerdict.le_allow _).not_gt
  | ok ep =>
    have hsummary := summarises_of_applies hrule hresolve
    have hverdict : ep.verdict = .allow := by
      obtain ⟨r, hr, heq⟩ := hsummary.verdict.1
      exact heq.symm.trans (hall r (mem_matchingRules_iff.mp hr)).1
    refine ⟨ep, rfl, hverdict, ?_⟩
    rintro (hneeds | hpos)
    · exact absurd (hverdict.symm.trans hneeds) (by simp)
    · rcases hsummary.requiredApprovers.1 with hzero | ⟨r, hr, heq⟩
      · exact absurd hpos (hzero ▸ lt_irrefl _)
      · exact absurd hpos (heq ▸ (hall r (mem_matchingRules_iff.mp hr)).2).not_gt

theorem unguarded_of_resolve (hep : registry.resolve tenantId nodeId action = .ok ep)
    (hdeny : ep.verdict ≠ .deny) (hneeds : ¬ NeedsApproval ep) :
    Unguarded registry tenantId nodeId action := by
  have hrule : ∃ rule, Applies registry tenantId nodeId action rule := by
    by_contra hnone
    rw [resolve_of_not_applies (not_exists.mp hnone)] at hep
    exact hdeny (Except.ok.inj hep ▸ rfl)
  have hsummary := summarises_of_applies hrule.choose_spec hep
  obtain ⟨hverdict, happrovers⟩ := not_or.mp hneeds
  have hallow : ep.verdict = .allow := by
    cases h : ep.verdict with
    | allow => rfl
    | deny => exact absurd h hdeny
    | needsApproval => exact absurd h hverdict
  refine ⟨hrule, fun rule hrule ↦ ⟨le_antisymm (RuleVerdict.le_allow _) ?_, ?_⟩⟩
  · exact hallow ▸ hsummary.verdict.2 ⟨rule, mem_matchingRules_iff.mpr hrule, rfl⟩
  · refine le_trans ?_ (not_lt.mp happrovers)
    exact hsummary.requiredApprovers.2 (Or.inr ⟨rule, mem_matchingRules_iff.mpr hrule, rfl⟩)

theorem isHighRisk_riskTier_iff {rule : PolicyRule B}
    (hrule : Applies registry tenantId nodeId action rule)
    (hep : registry.resolve tenantId nodeId action = .ok ep) : IsHighRisk ep.riskTier ↔
      ∃ rule, Applies registry tenantId nodeId action rule ∧ IsHighRisk rule.riskTier := by
  obtain ⟨⟨r, hr, htier⟩, hleast⟩ := (summarises_of_applies hrule hep).riskTier
  constructor
  · exact fun h ↦ ⟨r, mem_matchingRules_iff.mp hr, htier ▸ h⟩
  · rintro ⟨r', hr', hrisk⟩
    rw [isHighRisk_iff] at hrisk ⊢
    exact (hleast ⟨r', mem_matchingRules_iff.mpr hr', rfl⟩).trans hrisk

/-- **High-risk actions.** The engine allows an action of high risk only with an approval, exactly
when the action is not both of high risk and allowed by rules without approvers. -/
theorem evaluate_highRisk_iff (lib : PolicyLibrary B) (registry : PolicyRegistry B)
    (engine : PolicyEngine B) (tenantId nodeId action : String) :
    RequiresApproval lib registry engine tenantId nodeId action ↔
      ¬ (Unguarded registry tenantId nodeId action ∧
        RiskyRules lib registry tenantId nodeId action) := by
  constructor
  · rintro h ⟨hunguarded, hrisky⟩
    obtain ⟨ep, hep, hverdict, hneeds⟩ := exists_resolve_of_unguarded hunguarded
    obtain ⟨role, hrole⟩ := exists_admitsRole ep
    have hrisk : HighRiskAction lib registry tenantId nodeId action := by
      refine hrisky.imp_left fun hrules ↦ ⟨ep, hep, ?_⟩
      exact (isHighRisk_riskTier_iff hunguarded.1.choose_spec hep).mpr hrules
    -- a call without an approval is allowed, so none can have been presented
    have hallow : (evaluate lib registry engine
        (plainCall tenantId nodeId action role)).1.verdict = .allow :=
      evaluate_eq_allow_iff.mpr ⟨ep, hep, hverdict ▸ RuleVerdict.noConfusion, hrole,
        fun hneeds' ↦ absurd hneeds' hneeds⟩
    obtain ⟨_, _, hid, -⟩ := h _ ⟨rfl, rfl, rfl⟩ hallow hrisk
    exact nomatch hid
  · rintro h call ⟨rfl, rfl, rfl⟩ hallow hrisk
    obtain ⟨ep, hep, hdeny, -, hneeds⟩ := evaluate_eq_allow_iff.mp hallow
    -- an approval is asked for, or nothing in the rules asks for one
    by_cases hneed : NeedsApproval ep
    · obtain ⟨approvalId, req, hid, -, hreq, hstatus⟩ :=
        isSome_acceptedApproval_iff.mp (hneeds hneed)
      exact ⟨approvalId, req, hid, hreq, hstatus.imp_left And.left⟩
    · have hunguarded := unguarded_of_resolve hep hdeny hneed
      refine absurd ⟨hunguarded, hrisk.imp_left ?_⟩ h
      rintro ⟨ep', hep', hrisk⟩
      exact (isHighRisk_riskTier_iff hunguarded.1.choose_spec hep').mp hrisk

end Rules

/-! ## Three registries -/

/-- Functions that agree with those of the language on lower-case words without quotes. -/
def plainLibrary : PolicyLibrary ℕ := ⟨id, fun text ↦ "'" ++ text ++ "'", fun _ ↦ ""⟩

def emptyEngine : PolicyEngine ℕ := ⟨.empty, []⟩

/-- A node for operators below one for administrators. -/
def disjointRoles : PolicyRegistry ℕ where
  nodes := [⟨"org", "t", none, [readRule .low 0 ["admin"]], true⟩,
    ⟨"n", "t", some "org", [readRule .low 0 ["operator"]], true⟩]

/-- Where the rules share no role, everybody is allowed. -/
theorem not_restrictsRoles_disjointRoles :
    ¬ RestrictsRoles plainLibrary disjointRoles emptyEngine "t" "n" "read" := by
  intro h
  have happlies : Applies disjointRoles "t" "n" "read" (readRule .low 0 ["admin"]) :=
    mem_matchingRules_iff.mp List.mem_cons_self
  have hshared := h (plainCall "t" "n" "read" "guest") ⟨rfl, rfl, rfl⟩ (by decide) _ happlies
    (by decide)
  exact absurd hshared (by decide)

/-- A node whose parent is not registered. -/
def orphan : PolicyRegistry ℕ where
  nodes := [⟨"n", "t", some "org", [readRule .low 0 []], true⟩]

/-- An orphan allows what its own rules allow. -/
theorem not_failsClosed_orphan : ¬ FailsClosed plainLibrary orphan emptyEngine "t" "n" := by
  intro h
  have hbroken : Broken orphan "t" "n" := by
    rintro ⟨leaf, root, hleaf, hreach, hroot⟩
    obtain rfl := Option.some.inj hleaf
    rcases Relation.ReflTransGen.cases_head hreach with rfl | ⟨_, hparent, -⟩
    · exact absurd hroot (by simp)
    · exact nomatch hparent
  exact absurd (h hbroken (plainCall "t" "n" "read" "guest") rfl rfl) (by decide)

/-- A critical rule without approvers lets the action pass without an approval. -/
theorem not_requiresApproval_critical : ¬ RequiresApproval plainLibrary
    (oneRule (readRule .critical 0 [])) emptyEngine "t" "n" "read" := by
  intro h
  have hrisk : HighRiskAction plainLibrary (oneRule (readRule .critical 0 [])) "t" "n" "read" :=
    Or.inl ⟨_, rfl, Or.inr rfl⟩
  obtain ⟨_, _, hid, -⟩ := h (plainCall "t" "n" "read" "guest") ⟨rfl, rfl, rfl⟩ (by decide) hrisk
  exact nomatch hid

end DriftGuardX.Policy
