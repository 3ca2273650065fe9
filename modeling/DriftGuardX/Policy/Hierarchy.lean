import Mathlib.Algebra.Order.Ring.Int
import Mathlib.Data.List.Infix
import Mathlib.Order.Basic

/-!
# The policy hierarchy

Rules, and the nodes of the hierarchy that hold them. Verdicts and risk tiers are ordered by how
restrictive they are, with the most restrictive ones first, as the resolver compares them. Budgets
are floats, of which only the order is used; it may leave floats incomparable.
-/

namespace DriftGuardX.Policy

inductive PolicyLevel where
  | organization
  | businessUnit
  | pipeline
  | agent
  deriving DecidableEq, Repr

def PolicyLevel.value : PolicyLevel → String
  | organization => "organization"
  | businessUnit => "business_unit"
  | pipeline => "pipeline"
  | agent => "agent"

inductive RuleVerdict where
  | allow
  | deny
  | needsApproval
  deriving DecidableEq, Repr

namespace RuleVerdict

/-- The name of a member, as an f-string prints it. -/
def label : RuleVerdict → String
  | allow => "RuleVerdict.ALLOW"
  | deny => "RuleVerdict.DENY"
  | needsApproval => "RuleVerdict.NEEDS_APPROVAL"

/-- `_VERDICT_PRECEDENCE`. -/
def precedence : RuleVerdict → ℕ
  | deny => 0
  | needsApproval => 1
  | allow => 2

/-- The more restrictive verdict is the smaller one. -/
instance : LinearOrder RuleVerdict :=
  .lift' precedence fun v w h ↦ by cases v <;> cases w <;> first | rfl | exact nomatch h

theorem deny_le (v : RuleVerdict) : deny ≤ v := by cases v <;> decide

theorem le_allow (v : RuleVerdict) : v ≤ allow := by cases v <;> decide

end RuleVerdict

inductive RiskTier where
  | low
  | medium
  | high
  | critical
  deriving DecidableEq, Repr

namespace RiskTier

def value : RiskTier → String
  | low => "low"
  | medium => "medium"
  | high => "high"
  | critical => "critical"

/-- `_TIER_PRECEDENCE`. -/
def precedence : RiskTier → ℕ
  | critical => 0
  | high => 1
  | medium => 2
  | low => 3

/-- The more restrictive tier is the smaller one. -/
instance : LinearOrder RiskTier :=
  .lift' precedence fun t u h ↦ by cases t <;> cases u <;> first | rfl | exact nomatch h

theorem le_low (t : RiskTier) : t ≤ low := by cases t <;> decide

end RiskTier

/-- What is read of a rule, apart from its version, which is a hash of its content. -/
structure PolicyRule (B : Type) where
  actionPattern : String
  verdict : RuleVerdict
  riskTier : RiskTier
  requiredApprovers : ℤ
  twoPersonControl : Bool
  allowedRoles : List String
  maxBudgetUsd : Option B
  rationale : String
  sourceLevel : PolicyLevel
  overrideJustification : Option String
  ruleId : String

structure PolicyNode (B : Type) where
  nodeId : String
  tenantId : String
  parentId : Option String
  rules : List (PolicyRule B)
  isActive : Bool

/-- A pattern that ends in `.*` matches its stem and what follows it after a dot; any other pattern
matches itself. -/
def actionMatches (pattern action : String) : Bool :=
  if ['.', '*'] <:+ pattern.toList then
    let stem := pattern.toList.take (pattern.toList.length - 2)
    action.toList = stem ∨ stem ++ ['.'] <+: action.toList
  else pattern = action

variable {B : Type}

/-- The first rule that matches. -/
def PolicyNode.getRuleForAction (node : PolicyNode B) (action : String) : Option (PolicyRule B) :=
  node.rules.find? fun rule ↦ actionMatches rule.actionPattern action

structure EffectivePolicy (B : Type) where
  action : String
  tenantId : String
  nodeId : String
  verdict : RuleVerdict
  riskTier : RiskTier
  requiredApprovers : ℤ
  twoPersonControl : Bool
  allowedRoles : List String
  maxBudgetUsd : Option B
  winningRule : PolicyRule B
  overrideChain : List (PolicyRule B)
  conflictDetected : Bool
  conflictDescription : Option String

end DriftGuardX.Policy
