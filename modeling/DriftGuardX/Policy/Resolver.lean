import DriftGuardX.Foundation.Walk
import DriftGuardX.Policy.Hierarchy

/-!
# The inheritance resolver

The effective policy of an action at a node: the rules that match on the way from the root of the
hierarchy to the node, folded into one. The walk from the node to the root ends at a node without a
parent, but also where a parent is missing and where a node repeats.
-/

namespace DriftGuardX.Policy

open Walk

/-- The nodes, in the order of their registration. -/
structure PolicyRegistry (B : Type) where
  nodes : List (PolicyNode B)

namespace PolicyRegistry

variable {B : Type}

def get (registry : PolicyRegistry B) (tenantId nodeId : String) : Option (PolicyNode B) :=
  registry.nodes.find? fun n ↦ n.tenantId = tenantId ∧ n.nodeId = nodeId

def register (registry : PolicyRegistry B) (node : PolicyNode B) : PolicyRegistry B where
  nodes :=
    if (registry.get node.tenantId node.nodeId).isSome then registry.nodes.map fun n ↦
      if n.tenantId = node.tenantId ∧ n.nodeId = node.nodeId then node else n
    else registry.nodes ++ [node]

/-- The parent of a node, if it has one that is registered. -/
def parent (registry : PolicyRegistry B) (tenantId : String) (node : PolicyNode B) :
    Option (PolicyNode B) :=
  node.parentId.bind (registry.get tenantId)

/-- `_ancestor_chain`, with the root first. -/
def ancestorChain (registry : PolicyRegistry B) (tenantId leafNodeId : String) :
    List (PolicyNode B) :=
  ((registry.get tenantId leafNodeId).elim [] (walk PolicyNode.nodeId (registry.parent tenantId)
    registry.nodes.length [])).reverse

end PolicyRegistry

structure PolicyConflictError where
  message : String
  deriving DecidableEq, Repr

variable {B : Type}

/-- The first matching rule of each active node of a chain. -/
def matchingRules (chain : List (PolicyNode B)) (action : String) : List (PolicyRule B) :=
  chain.filterMap fun node ↦ if node.isActive then node.getRuleForAction action else none

/-- The variables of the loop over the matching rules. -/
structure Effective (B : Type) where
  verdict : RuleVerdict
  riskTier : RiskTier
  requiredApprovers : ℤ
  twoPersonControl : Bool
  maxBudgetUsd : Option B
  allowedRoles : List String
  winningRule : PolicyRule B
  conflictDetected : Bool
  conflictDescription : Option String

/-- Starting permissive, to tighten down. -/
def Effective.start (first : PolicyRule B) : Effective B where
  verdict := .allow
  riskTier := .low
  requiredApprovers := 0
  twoPersonControl := false
  maxBudgetUsd := none
  allowedRoles := []
  winningRule := first
  conflictDetected := false
  conflictDescription := none

/-- The justification of an override, if there is one. -/
def PolicyRule.justification (rule : PolicyRule B) : Option String :=
  rule.overrideJustification.filter fun text ↦ text ≠ ""

/-- The effect of the rule with an index on the verdict. A later rule that is less restrictive
needs a justification. -/
def Effective.tightenVerdict (acc : Effective B) (rule : PolicyRule B) (i : ℕ) :
    Except PolicyConflictError (Effective B) :=
  if rule.verdict < acc.verdict then
    .ok { acc with verdict := rule.verdict, winningRule := rule }
  else if 0 < i ∧ acc.verdict < rule.verdict then
    match rule.justification with
    | none => .error ⟨s!"Rule {rule.ruleId} at {rule.sourceLevel.value} attempts to relax " ++
        s!"verdict from {acc.verdict.label} to {rule.verdict.label} without " ++
        "override_justification."⟩
    | some text => .ok { acc with
        conflictDetected := true
        conflictDescription := some s!"Override at {rule.sourceLevel.value}: {text}" }
  else .ok acc

/-- The rule that stands for the lack of rules. -/
def defaultDenyRule (action : String) : PolicyRule B where
  actionPattern := action
  verdict := .deny
  riskTier := .high
  requiredApprovers := 1
  twoPersonControl := false
  allowedRoles := []
  maxBudgetUsd := none
  rationale := "No matching policy rule found. Default deny."
  sourceLevel := .organization
  overrideJustification := none
  ruleId := "DEFAULT_DENY"

/-- `_default_deny`. -/
def defaultDeny (action tenantId nodeId : String) : EffectivePolicy B where
  action
  tenantId
  nodeId
  verdict := .deny
  riskTier := .high
  requiredApprovers := 0
  twoPersonControl := false
  allowedRoles := []
  maxBudgetUsd := none
  winningRule := defaultDenyRule action
  overrideChain := [defaultDenyRule action]
  conflictDetected := false
  conflictDescription := none

/-- The effective policy that the loop ends with. -/
def Effective.toPolicy (acc : Effective B) (action tenantId nodeId : String)
    (rules : List (PolicyRule B)) : EffectivePolicy B where
  action
  tenantId
  nodeId
  verdict := acc.verdict
  riskTier := acc.riskTier
  requiredApprovers := acc.requiredApprovers
  twoPersonControl := acc.twoPersonControl
  allowedRoles := acc.allowedRoles
  maxBudgetUsd := acc.maxBudgetUsd
  winningRule := acc.winningRule
  overrideChain := rules
  conflictDetected := acc.conflictDetected
  conflictDescription := acc.conflictDescription

/-- The roles so far that a rule also allows. No roles stand for all roles. -/
def tightenRoles (roles allowed : List String) : List String :=
  if allowed = [] then roles
  else if roles = [] then allowed
  else roles.filter fun r ↦ r ∈ allowed

section Tighten

variable [LT B] [DecidableLT B]

/-- `min` of two floats, which keeps the first unless the second is smaller. -/
def keepLeast (a b : B) : B := if b < a then b else a

/-- The least budget so far. -/
def tightenBudget (budget : Option B) : Option B → Option B
  | none => budget
  | some b => some (budget.elim b fun a ↦ keepLeast a b)

/-- The effect of a rule on everything but the verdict. -/
def Effective.tightenRest (acc : Effective B) (rule : PolicyRule B) : Effective B :=
  { acc with
    riskTier := if rule.riskTier < acc.riskTier then rule.riskTier else acc.riskTier
    requiredApprovers := max acc.requiredApprovers rule.requiredApprovers
    twoPersonControl := acc.twoPersonControl || rule.twoPersonControl
    maxBudgetUsd := tightenBudget acc.maxBudgetUsd rule.maxBudgetUsd
    allowedRoles := tightenRoles acc.allowedRoles rule.allowedRoles }

/-- The body of the loop. -/
def Effective.tighten (acc : Effective B) (rule : PolicyRule B × ℕ) :
    Except PolicyConflictError (Effective B) := do
  let acc ← acc.tightenVerdict rule.1 rule.2
  return acc.tightenRest rule.1

/-- The loop over the matching rules, of which there is a first one. -/
def resolveRules (first : PolicyRule B) (rules : List (PolicyRule B)) :
    Except PolicyConflictError (Effective B) :=
  rules.zipIdx.foldlM Effective.tighten (.start first)

/-- `resolve`. A node without a chain has no matching rules either. -/
def PolicyRegistry.resolve (registry : PolicyRegistry B) (tenantId nodeId action : String) :
    Except PolicyConflictError (EffectivePolicy B) :=
  match matchingRules (registry.ancestorChain tenantId nodeId) action with
  | [] => .ok (defaultDeny action tenantId nodeId)
  | first :: rest => do
    let acc ← resolveRules first (first :: rest)
    return acc.toPolicy action tenantId nodeId (first :: rest)

end Tighten

end DriftGuardX.Policy
