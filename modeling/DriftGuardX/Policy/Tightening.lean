import DriftGuardX.Foundation.Transaction
import DriftGuardX.Policy.Resolver
import Mathlib.Data.List.Induction
import Mathlib.Order.Bounds.Basic
import Mathlib.Order.Minimal

/-!
# Inheritance only tightens

The loop of the resolver folds each field on its own (`Summary`), so an effective policy is the
extreme of all matching rules in every field, and a node below tightens it further or leaves it as
it is. The loop raises exactly when a rule relaxes the strictest rule before it without a
justification (`resolveRules_eq_error_iff`).

For roles the loop computes the intersection only as long as that is not empty: an empty list of
roles stands for all roles, and the next rule starts anew.
-/

namespace DriftGuardX.Policy

open Transaction Walk

/-! ## Keeping the least -/

section Least

variable {α : Type} [Preorder α] [DecidableLT α] {a b : α} {l : List α}

theorem keepLeast_eq_or (a b : α) : keepLeast a b = a ∨ keepLeast a b = b := by
  rw [keepLeast]
  split
  · exact Or.inr rfl
  · exact Or.inl rfl

theorem not_lt_keepLeast_right (a b : α) : ¬ b < keepLeast a b := by
  rw [keepLeast]
  split
  · exact lt_irrefl b
  · assumption

theorem not_lt_keepLeast_of_not_lt {c : α} (h : ¬ c < a) : ¬ c < keepLeast a b := by
  rw [keepLeast]
  split
  · rename_i hba
    exact fun hcb ↦ h (hcb.trans hba)
  · exact h

theorem foldl_keepLeast_eq_or_mem (l : List α) (a : α) :
    l.foldl keepLeast a = a ∨ l.foldl keepLeast a ∈ l := by
  induction l using List.reverseRecOn with
  | nil => exact Or.inl rfl
  | append_singleton l b ih =>
    rw [List.foldl_append, List.foldl_cons, List.foldl_nil]
    rcases keepLeast_eq_or (l.foldl keepLeast a) b with h | h
    · rw [h]
      exact ih.imp_right fun hmem ↦ List.mem_append_left _ hmem
    · rw [h]
      exact Or.inr (List.mem_append_right _ (List.mem_singleton_self b))

theorem not_lt_foldl_keepLeast (hb : b = a ∨ b ∈ l) : ¬ b < l.foldl keepLeast a := by
  induction l using List.reverseRecOn with
  | nil => exact (hb.resolve_right List.not_mem_nil) ▸ lt_irrefl b
  | append_singleton l c ih =>
    rw [List.foldl_append, List.foldl_cons, List.foldl_nil]
    rcases hb with rfl | hmem
    · exact not_lt_keepLeast_of_not_lt (ih (Or.inl rfl))
    · rcases List.mem_append.mp hmem with hmem | hmem
      · exact not_lt_keepLeast_of_not_lt (ih (Or.inr hmem))
      · obtain rfl := List.mem_singleton.mp hmem
        exact not_lt_keepLeast_right _ b

end Least

section IsLeast

variable {α R : Type} [LinearOrder α] {top : α} {f : R → α} {rules : List R}

theorem isLeast_foldl_keepLeast (htop : ∀ a, a ≤ top) (hne : rules ≠ []) :
    IsLeast {a | ∃ rule ∈ rules, f rule = a} ((rules.map f).foldl keepLeast top) := by
  constructor
  · rcases foldl_keepLeast_eq_or_mem (rules.map f) top with h | h
    · -- All elements are the greatest one.
      obtain ⟨rule, hrule⟩ := List.exists_mem_of_ne_nil rules hne
      refine ⟨rule, hrule, le_antisymm ((htop _).trans_eq h.symm) ?_⟩
      exact not_lt.mp (not_lt_foldl_keepLeast (Or.inr (List.mem_map_of_mem hrule)))
    · exact List.mem_map.mp h
  · rintro _ ⟨rule, hrule, rfl⟩
    exact not_lt.mp (not_lt_foldl_keepLeast (Or.inr (List.mem_map_of_mem hrule)))

end IsLeast

/-! ## One rule -/

section Rules

variable {B : Type} [LT B] [DecidableLT B] {acc acc' : Effective B} {rule first : PolicyRule B}
  {rules : List (PolicyRule B)} {i : ℕ}

/-- A rule relaxes a verdict without a justification. -/
def Relaxes (verdict : RuleVerdict) (rule : PolicyRule B) : Prop :=
  verdict < rule.verdict ∧ rule.justification = none

omit [LT B] [DecidableLT B] in
theorem tightenVerdict_eq_error_iff :
    (∃ e, acc.tightenVerdict rule i = .error e) ↔ 0 < i ∧ Relaxes acc.verdict rule := by
  rw [Effective.tightenVerdict, Relaxes]
  split
  · rename_i hlt
    exact iff_of_false (by simp) fun h ↦ hlt.not_gt h.2.1
  · split
    · rename_i h
      cases hjust : rule.justification with
      | none => exact iff_of_true ⟨_, rfl⟩ ⟨h.1, h.2, rfl⟩
      | some text => exact iff_of_false (by simp) fun h ↦ absurd h.2.2 (by simp)
    · rename_i h
      exact iff_of_false (by simp) fun h' ↦ h ⟨h'.1, h'.2.1⟩

omit [LT B] [DecidableLT B] in
/-- The verdict is tightened, and the fields that `tightenRest` reads stay. -/
theorem of_tightenVerdict (h : acc.tightenVerdict rule i = .ok acc') :
    acc'.verdict = keepLeast acc.verdict rule.verdict ∧ acc'.riskTier = acc.riskTier ∧
      acc'.requiredApprovers = acc.requiredApprovers ∧
      acc'.twoPersonControl = acc.twoPersonControl ∧ acc'.maxBudgetUsd = acc.maxBudgetUsd ∧
      acc'.allowedRoles = acc.allowedRoles := by
  rw [Effective.tightenVerdict] at h
  rw [keepLeast]
  -- the three branches of the source: tighter, looser with a reason given, or the same
  split at h
  · rename_i hlt
    obtain rfl := Except.ok.inj h
    exact ⟨(if_pos hlt).symm, rfl, rfl, rfl, rfl, rfl⟩
  · rename_i hlt
    rw [if_neg hlt]
    split at h
    · split at h
      · exact absurd h (by simp)
      · obtain rfl := Except.ok.inj h
        exact ⟨rfl, rfl, rfl, rfl, rfl, rfl⟩
    · obtain rfl := Except.ok.inj h
      exact ⟨rfl, rfl, rfl, rfl, rfl, rfl⟩

theorem tighten_eq_error_iff :
    (∃ e, acc.tighten (rule, i) = .error e) ↔ 0 < i ∧ Relaxes acc.verdict rule := by
  rw [← tightenVerdict_eq_error_iff, Effective.tighten]
  cases acc.tightenVerdict rule i with
  | error e => exact iff_of_true ⟨e, rfl⟩ ⟨e, rfl⟩
  | ok acc =>
    exact iff_of_false (by simp) (by simp)

/-! ## All rules -/

/-- The fields after the loop, each folded on its own. -/
structure Summary (rules : List (PolicyRule B)) (acc : Effective B) : Prop where
  verdict : acc.verdict = (rules.map PolicyRule.verdict).foldl keepLeast .allow
  riskTier : acc.riskTier = (rules.map PolicyRule.riskTier).foldl keepLeast .low
  requiredApprovers : acc.requiredApprovers
    = (rules.map PolicyRule.requiredApprovers).foldl max 0
  twoPersonControl : acc.twoPersonControl = rules.any PolicyRule.twoPersonControl
  maxBudgetUsd : acc.maxBudgetUsd = (rules.map PolicyRule.maxBudgetUsd).foldl tightenBudget none
  allowedRoles : acc.allowedRoles = (rules.map PolicyRule.allowedRoles).foldl tightenRoles []

theorem Summary.tighten (hsummary : Summary rules acc) (h : acc.tighten (rule, i) = .ok acc') :
    Summary (rules ++ [rule]) acc' := by
  rw [Effective.tighten, bind_eq_ok_iff] at h
  obtain ⟨acc₁, hverdict, hrest⟩ := h
  obtain ⟨hv, ht, ha, hp, hb, hr⟩ := of_tightenVerdict hverdict
  obtain rfl := pure_eq_ok_iff.mp hrest
  constructor
  · simp only [Effective.tightenRest, List.map_append, List.foldl_append, hv, hsummary.verdict]
    rfl
  · simp only [Effective.tightenRest, List.map_append, List.foldl_append, ht, hsummary.riskTier]
    rfl
  · simp only [Effective.tightenRest, List.map_append, List.foldl_append, ha,
      hsummary.requiredApprovers]
    rfl
  · simp [Effective.tightenRest, hp, hsummary.twoPersonControl]
  · simp only [Effective.tightenRest, List.map_append, List.foldl_append, hb,
      hsummary.maxBudgetUsd]
    rfl
  · simp only [Effective.tightenRest, List.map_append, List.foldl_append, hr,
      hsummary.allowedRoles]
    rfl

theorem resolveRules_append_singleton : resolveRules first (rules ++ [rule])
    = resolveRules first rules >>= fun acc ↦ acc.tighten (rule, rules.length) := by
  rw [resolveRules, List.zipIdx_append, List.foldlM_append, resolveRules]
  simp

theorem Summary.of_resolveRules (h : resolveRules first rules = .ok acc) : Summary rules acc := by
  induction rules using List.reverseRecOn generalizing acc with
  | nil =>
    obtain rfl := Except.ok.inj h
    exact ⟨rfl, rfl, rfl, rfl, rfl, rfl⟩
  | append_singleton rules rule ih =>
    rw [resolveRules_append_singleton, bind_eq_ok_iff] at h
    obtain ⟨acc₁, hrules, hrule⟩ := h
    exact (ih hrules).tighten hrule

theorem Summary.isLeast_verdict (h : Summary rules acc) (hne : rules ≠ []) :
    IsLeast {v | ∃ rule ∈ rules, rule.verdict = v} acc.verdict :=
  h.verdict ▸ isLeast_foldl_keepLeast RuleVerdict.le_allow hne

/-- Some rule after the first relaxes the strictest rule before it without a justification. -/
def Conflicts (rules : List (PolicyRule B)) : Prop :=
  ∃ init rule rest, rules = init ++ rule :: rest ∧ ∃ strictest ∈ init,
    (∀ r ∈ init, strictest.verdict ≤ r.verdict) ∧ Relaxes strictest.verdict rule

omit [LT B] [DecidableLT B] in
theorem conflicts_append_singleton_iff : Conflicts (rules ++ [rule]) ↔ Conflicts rules ∨
    ∃ strictest ∈ rules, (∀ r ∈ rules, strictest.verdict ≤ r.verdict) ∧
      Relaxes strictest.verdict rule := by
  constructor
  · rintro ⟨init, r, rest, heq, hconflict⟩
    rcases List.eq_nil_or_concat rest with rfl | ⟨rest, last, rfl⟩
    · obtain ⟨rfl, hr⟩ := List.append_inj' heq rfl
      obtain rfl := List.singleton_inj.mp hr
      exact Or.inr hconflict
    · rw [List.concat_eq_append, ← List.cons_append, ← List.append_assoc] at heq
      exact Or.inl ⟨init, r, rest, (List.append_inj' heq rfl).1, hconflict⟩
  · rintro (⟨init, r, rest, rfl, hconflict⟩ | hconflict)
    · exact ⟨init, r, rest ++ [rule], by simp, hconflict⟩
    · exact ⟨rules, rule, [], rfl, hconflict⟩

/-- **Conflicts.** The loop raises exactly when the rules conflict. -/
theorem resolveRules_eq_error_iff :
    (∃ e, resolveRules first rules = .error e) ↔ Conflicts rules := by
  induction rules using List.reverseRecOn with
  | nil =>
    refine iff_of_false (by rintro ⟨_, h⟩; exact nomatch h) ?_
    rintro ⟨init, r, rest, heq, -⟩
    simp at heq
  -- the loop stops at the first conflict, so the last rule is reached only without one
  | append_singleton rules rule ih =>
    rw [resolveRules_append_singleton, conflicts_append_singleton_iff, ← ih]
    cases hrules : resolveRules first rules with
    | error e => exact iff_of_true ⟨e, rfl⟩ (Or.inl ⟨e, rfl⟩)
    | ok acc =>
      have hsummary := Summary.of_resolveRules hrules
      rw [or_iff_right (by simp)]
      refine Iff.trans tighten_eq_error_iff ?_
      constructor
      · rintro ⟨hpos, hrelaxes⟩
        -- what the loop compares with is the strictest verdict so far
        obtain ⟨⟨r, hr, hverdict⟩, hleast⟩ :=
          hsummary.isLeast_verdict (List.ne_nil_of_length_pos hpos)
        exact ⟨r, hr, fun r' hr' ↦ hverdict ▸ hleast ⟨r', hr', rfl⟩, hverdict ▸ hrelaxes⟩
      · rintro ⟨r, hr, hle, hrelaxes⟩
        have hleast := hsummary.isLeast_verdict (List.ne_nil_of_mem hr)
        have hverdict : acc.verdict = r.verdict := by
          obtain ⟨⟨r', hr', hverdict⟩, hlower⟩ := hleast
          exact le_antisymm (hlower ⟨r, hr, rfl⟩) (hverdict ▸ hle r' hr')
        exact ⟨List.length_pos_of_mem hr, hverdict ▸ hrelaxes⟩

end Rules

/-! ## Budgets and approvers -/

section Budgets

variable {B : Type} [Preorder B] [DecidableLT B]

theorem foldl_tightenBudget_eq_none_iff (budgets : List (Option B)) :
    budgets.foldl tightenBudget none = none ↔ ∀ o ∈ budgets, o = none := by
  induction budgets using List.reverseRecOn with
  | nil => exact iff_of_true rfl fun _ h ↦ absurd h (by simp)
  | append_singleton budgets o ih =>
    rw [List.foldl_append, List.foldl_cons, List.foldl_nil, List.forall_mem_append, ← ih]
    cases o with
    | none => simp [tightenBudget]
    | some b => simp [tightenBudget]

theorem of_foldl_tightenBudget {budgets : List (Option B)} {b : B}
    (h : budgets.foldl tightenBudget none = some b) :
    some b ∈ budgets ∧ ∀ b', some b' ∈ budgets → ¬ b' < b := by
  induction budgets using List.reverseRecOn generalizing b with
  | nil => exact absurd h (by simp)
  | append_singleton budgets o ih =>
    rw [List.foldl_append, List.foldl_cons, List.foldl_nil] at h
    cases o with
    | none =>
      obtain ⟨hmem, hleast⟩ := ih h
      refine ⟨List.mem_append_left _ hmem, fun b' hb' ↦ hleast b' ?_⟩
      simpa using hb'
    | some c =>
      cases hfold : budgets.foldl tightenBudget none with
      | none =>
        obtain rfl : c = b := by rw [hfold] at h; exact Option.some.inj h
        refine ⟨List.mem_append_right _ (List.mem_singleton_self _), fun b' hb' ↦ ?_⟩
        rcases List.mem_append.mp hb' with hb' | hb'
        · exact absurd ((foldl_tightenBudget_eq_none_iff budgets).mp hfold _ hb') (by simp)
        · exact Option.some.inj (List.mem_singleton.mp hb') ▸ lt_irrefl b'
      | some a =>
        obtain ⟨hmem, hleast⟩ := ih hfold
        obtain rfl : keepLeast a c = b := by rw [hfold] at h; exact Option.some.inj h
        constructor
        -- the budget that is kept is one of the two
        · rcases keepLeast_eq_or a c with heq | heq
          · rw [heq]
            exact List.mem_append_left _ hmem
          · rw [heq]
            exact List.mem_append_right _ (List.mem_singleton_self _)
        · intro b' hb'
          rcases List.mem_append.mp hb' with hb' | hb'
          · exact not_lt_keepLeast_of_not_lt (hleast b' hb')
          · obtain rfl := Option.some.inj (List.mem_singleton.mp hb')
            exact not_lt_keepLeast_right a b'

end Budgets

theorem isGreatest_foldl_max {R : Type} (f : R → ℤ) (rules : List R) :
    IsGreatest (insert 0 {n | ∃ rule ∈ rules, f rule = n}) ((rules.map f).foldl max 0) := by
  induction rules using List.reverseRecOn with
  | nil => simp [IsGreatest, upperBounds]
  | append_singleton rules rule ih =>
    rw [List.map_append, List.foldl_append, List.map_singleton, List.foldl_cons, List.foldl_nil]
    constructor
    · rcases max_choice ((rules.map f).foldl max 0) (f rule) with h | h
      · rw [h]
        refine ih.1.imp_right ?_
        rintro ⟨r, hr, heq⟩
        exact ⟨r, List.mem_append_left _ hr, heq⟩
      · rw [h]
        exact Or.inr ⟨rule, List.mem_append_right _ (List.mem_singleton_self _), rfl⟩
    · rintro n (rfl | ⟨r, hr, rfl⟩)
      · exact le_max_of_le_left (ih.2 (Or.inl rfl))
      · rcases List.mem_append.mp hr with hr | hr
        · exact le_max_of_le_left (ih.2 (Or.inr ⟨r, hr, rfl⟩))
        · exact List.mem_singleton.mp hr ▸ le_max_right _ _

/-! ## A node below -/

section Chains

variable {B : Type} {registry : PolicyRegistry B} {tenantId nodeId : String}
  {node child : PolicyNode B}

theorem PolicyRegistry.of_get (h : registry.get tenantId nodeId = some node) :
    node ∈ registry.nodes ∧ node.tenantId = tenantId ∧ node.nodeId = nodeId :=
  ⟨List.mem_of_find?_eq_some h, by simpa [PolicyRegistry.get] using List.find?_some h⟩

theorem PolicyRegistry.get_register (hnew : registry.get child.tenantId child.nodeId = none)
    (nodeId : String) : (registry.register child).get child.tenantId nodeId
      = if nodeId = child.nodeId then some child else registry.get child.tenantId nodeId := by
  rw [register, hnew, get, Option.isSome_none, if_neg Bool.false_ne_true, List.find?_append]
  split
  · rename_i hid
    subst hid
    rw [get] at hnew
    rw [hnew, Option.none_or, List.find?_cons_of_pos (by simp)]
  · rename_i hid
    rw [List.find?_cons_of_neg (by simpa using fun h ↦ hid h.symm), List.find?_nil, Option.or_none,
      get]

theorem ancestorChain_register {parentId : String} (hparent : child.parentId = some parentId)
    (hnew : registry.get child.tenantId child.nodeId = none) :
    (registry.register child).ancestorChain child.tenantId child.nodeId
      = registry.ancestorChain child.tenantId parentId ++ [child] := by
  have hget := PolicyRegistry.get_register hnew
  have hlength : (registry.register child).nodes.length = registry.nodes.length + 1 := by
    simp [PolicyRegistry.register, hnew]
  have hne : ∀ {id node}, registry.get child.tenantId id = some node →
      node.nodeId ≠ child.nodeId := by
    intro id node hnode heq
    obtain rfl : node.nodeId = id := (PolicyRegistry.of_get hnode).2.2
    exact absurd ((heq ▸ hnode).symm.trans hnew) (by simp)
  rw [PolicyRegistry.ancestorChain, hget, if_pos rfl, Option.elim_some, hlength,
    walk_of_not_mem List.not_mem_nil, List.reverse_cons, PolicyRegistry.parent, hparent,
    Option.bind_some, hget, PolicyRegistry.ancestorChain]
  congr 2
  by_cases hself : parentId = child.nodeId
  · rw [if_pos hself, hself, hnew]
    exact walk_of_mem List.mem_cons_self
  rw [if_neg hself]
  cases hstep : registry.get child.tenantId parentId with
  | none => rfl
  | some node =>
    -- the child is on neither walk: no node of the registry has its id
    refine walk_of_visited (k := child.nodeId) ?_ ?_ (hne hstep) (by simp)
    · intro a b hab
      obtain ⟨id, -, hb⟩ := Option.bind_eq_some_iff.mp hab
      exact hne hb
    · intro a
      rw [PolicyRegistry.parent, PolicyRegistry.parent]
      cases a.parentId with
      | none => exact Or.inl rfl
      | some id =>
        rw [Option.bind_some, Option.bind_some, hget]
        split
        · rename_i hid
          exact Or.inr ⟨hid ▸ hnew, child, rfl, rfl⟩
        · exact Or.inl rfl

theorem keyedPoints (registry : PolicyRegistry B) (tenantId : String) :
    KeyedPoints PolicyNode.nodeId (registry.parent tenantId)
      (registry.nodes.filterMap fun n ↦ registry.get tenantId n.nodeId) := by
  have hget : ∀ {n}, n ∈ registry.nodes.filterMap (fun n ↦ registry.get tenantId n.nodeId) →
      registry.get tenantId n.nodeId = some n := by
    intro n hn
    obtain ⟨n', -, hn'⟩ := List.mem_filterMap.mp hn
    rw [(PolicyRegistry.of_get hn').2.2, hn']
  refine ⟨fun a _ b hab ↦ ?_, fun a ha b hb hkey ↦ ?_⟩
  · obtain ⟨id, -, hb⟩ := Option.bind_eq_some_iff.mp hab
    obtain ⟨hmem, -, rfl⟩ := PolicyRegistry.of_get hb
    exact List.mem_filterMap.mpr ⟨b, hmem, hb⟩
  · exact Option.some.inj ((hget ha).symm.trans (hkey ▸ hget hb))

theorem mem_ancestorChain_iff : node ∈ registry.ancestorChain tenantId nodeId ↔
    ∃ leaf, registry.get tenantId nodeId = some leaf ∧
      Reaches (registry.parent tenantId) leaf node := by
  rw [PolicyRegistry.ancestorChain, List.mem_reverse]
  cases hleaf : registry.get tenantId nodeId with
  | none => simp
  | some leaf =>
    obtain ⟨hmem, -, rfl⟩ := PolicyRegistry.of_get hleaf
    rw [Option.elim_some, mem_walk_iff (keyedPoints registry tenantId)
      (List.mem_filterMap.mpr ⟨leaf, hmem, hleaf⟩) (List.length_filterMap_le _ _)]
    simp

/-- A rule that an active ancestor of a node, or the node itself, applies to an action. -/
def Applies (registry : PolicyRegistry B) (tenantId nodeId action : String) (rule : PolicyRule B) :
    Prop :=
  ∃ leaf node, registry.get tenantId nodeId = some leaf ∧
    Reaches (registry.parent tenantId) leaf node ∧ node.isActive = true ∧
    node.getRuleForAction action = some rule

theorem mem_matchingRules_iff {action : String} {rule : PolicyRule B} :
    rule ∈ matchingRules (registry.ancestorChain tenantId nodeId) action ↔
      Applies registry tenantId nodeId action rule := by
  rw [matchingRules, List.mem_filterMap]
  constructor
  · rintro ⟨node, hnode, hrule⟩
    obtain ⟨leaf, hleaf, hreach⟩ := mem_ancestorChain_iff.mp hnode
    split at hrule
    · exact ⟨leaf, node, hleaf, hreach, by assumption, hrule⟩
    · exact absurd hrule (by simp)
  · rintro ⟨leaf, node, hleaf, hreach, hactive, hrule⟩
    exact ⟨node, mem_ancestorChain_iff.mpr ⟨leaf, hleaf, hreach⟩, by rw [if_pos hactive, hrule]⟩

end Chains

/-! ## Effective policies -/

section Effective

variable {B : Type}

/-- The fields of an effective policy are the extremes of the fields of some rules. -/
structure Summarises [PartialOrder B] (rules : List (PolicyRule B)) (ep : EffectivePolicy B) :
    Prop where
  verdict : IsLeast {v | ∃ rule ∈ rules, rule.verdict = v} ep.verdict
  riskTier : IsLeast {t | ∃ rule ∈ rules, rule.riskTier = t} ep.riskTier
  requiredApprovers :
    IsGreatest (insert 0 {n | ∃ rule ∈ rules, rule.requiredApprovers = n}) ep.requiredApprovers
  twoPersonControl : ep.twoPersonControl = true ↔ ∃ rule ∈ rules, rule.twoPersonControl = true
  /-- No budget is unlimited. -/
  unlimited : ep.maxBudgetUsd = none ↔ ∀ rule ∈ rules, rule.maxBudgetUsd = none
  maxBudgetUsd : ∀ b, ep.maxBudgetUsd = some b →
    Minimal (fun b ↦ ∃ rule ∈ rules, rule.maxBudgetUsd = some b) b

/-- A policy is at least as restrictive as another in every field. -/
structure Tightens [LT B] (parent child : EffectivePolicy B) : Prop where
  verdict : child.verdict ≤ parent.verdict
  riskTier : child.riskTier ≤ parent.riskTier
  requiredApprovers : parent.requiredApprovers ≤ child.requiredApprovers
  twoPersonControl : parent.twoPersonControl = true → child.twoPersonControl = true
  maxBudgetUsd : ∀ b, parent.maxBudgetUsd = some b →
    ∃ b', child.maxBudgetUsd = some b' ∧ ¬ b < b'

variable [PartialOrder B] [DecidableLT B] {registry : PolicyRegistry B}
  {tenantId nodeId action : String} {rules : List (PolicyRule B)} {ep : EffectivePolicy B}

theorem of_resolve (hrules : matchingRules (registry.ancestorChain tenantId nodeId) action = rules)
    (hne : rules ≠ []) (h : registry.resolve tenantId nodeId action = .ok ep) :
    ∃ first acc, resolveRules first rules = .ok acc ∧
      ep = acc.toPolicy action tenantId nodeId rules := by
  rw [PolicyRegistry.resolve, hrules] at h
  cases rules with
  | nil => exact absurd rfl hne
  | cons first rest =>
    simp only [bind_eq_ok_iff, pure_eq_ok_iff] at h
    obtain ⟨acc, hacc, rfl⟩ := h
    exact ⟨first, acc, hacc, rfl⟩

theorem resolve_eq_error_iff : (∃ e, registry.resolve tenantId nodeId action = .error e) ↔
    Conflicts (matchingRules (registry.ancestorChain tenantId nodeId) action) := by
  rw [PolicyRegistry.resolve]
  cases matchingRules (registry.ancestorChain tenantId nodeId) action with
  | nil =>
    refine iff_of_false (by simp) ?_
    rintro ⟨init, r, rest, heq, -⟩
    simp at heq
  | cons first rest =>
    rw [← resolveRules_eq_error_iff]
    simp only
    cases resolveRules first (first :: rest) with
    | error e => exact iff_of_true ⟨e, rfl⟩ ⟨e, rfl⟩
    | ok acc =>
      exact iff_of_false (by simp) (by simp)

theorem Summary.summarises {acc : Effective B} (h : Summary rules acc) (hne : rules ≠ []) :
    Summarises rules (acc.toPolicy action tenantId nodeId rules) where
  verdict := h.isLeast_verdict hne
  riskTier := by
    rw [Effective.toPolicy, h.riskTier]
    exact isLeast_foldl_keepLeast RiskTier.le_low hne
  requiredApprovers := by
    rw [Effective.toPolicy, h.requiredApprovers]
    exact isGreatest_foldl_max _ rules
  twoPersonControl := by
    rw [Effective.toPolicy, h.twoPersonControl, List.any_eq_true]
  unlimited := by
    rw [Effective.toPolicy, h.maxBudgetUsd, foldl_tightenBudget_eq_none_iff, List.forall_mem_map]
  maxBudgetUsd b hb := by
    obtain ⟨hmem, hleast⟩ := of_foldl_tightenBudget (h.maxBudgetUsd.symm.trans hb)
    rw [minimal_iff_forall_lt]
    refine ⟨List.mem_map.mp hmem, ?_⟩
    rintro b' hlt ⟨rule, hrule, hb'⟩
    exact hleast b' (hb' ▸ List.mem_map_of_mem hrule) hlt

theorem summarises_of_resolve
    (hne : matchingRules (registry.ancestorChain tenantId nodeId) action ≠ [])
    (h : registry.resolve tenantId nodeId action = .ok ep) :
    Summarises (matchingRules (registry.ancestorChain tenantId nodeId) action) ep := by
  obtain ⟨first, acc, hacc, rfl⟩ := of_resolve rfl hne h
  exact (Summary.of_resolveRules hacc).summarises hne

omit [DecidableLT B] in
theorem Tightens.of_subset {rules' : List (PolicyRule B)} {ep' : EffectivePolicy B}
    (hsub : rules ⊆ rules') (h : Summarises rules ep) (h' : Summarises rules' ep') :
    Tightens ep ep' where
  verdict := by
    obtain ⟨rule, hrule, hverdict⟩ := h.verdict.1
    exact h'.verdict.2 ⟨rule, hsub hrule, hverdict⟩
  riskTier := by
    obtain ⟨rule, hrule, htier⟩ := h.riskTier.1
    exact h'.riskTier.2 ⟨rule, hsub hrule, htier⟩
  requiredApprovers := by
    refine h'.requiredApprovers.2 (h.requiredApprovers.1.imp_right ?_)
    rintro ⟨rule, hrule, happrovers⟩
    exact ⟨rule, hsub hrule, happrovers⟩
  twoPersonControl htwo := by
    obtain ⟨rule, hrule, hcontrol⟩ := h.twoPersonControl.mp htwo
    exact h'.twoPersonControl.mpr ⟨rule, hsub hrule, hcontrol⟩
  maxBudgetUsd b hb := by
    obtain ⟨rule, hrule, hbudget⟩ := (h.maxBudgetUsd b hb).1
    cases hb' : ep'.maxBudgetUsd with
    | none => exact absurd (hbudget.symm.trans (h'.unlimited.mp hb' rule (hsub hrule))) (by simp)
    | some b' =>
      refine ⟨b', rfl, fun hlt ↦ ?_⟩
      exact (minimal_iff_forall_lt.mp (h'.maxBudgetUsd b' hb')).2 hlt ⟨rule, hsub hrule, hbudget⟩

/-- **Inheritance only tightens.** The effective policy of an action that some rule matches is the
extreme of the matching rules, with no less than zero approvers; the resolver raises exactly when
they conflict; and a node that is registered below has an effective policy that is at least as
restrictive. -/
theorem resolve_tightens (registry : PolicyRegistry B) (tenantId nodeId action : String)
    (hne : matchingRules (registry.ancestorChain tenantId nodeId) action ≠ []) :
    (∀ ep, registry.resolve tenantId nodeId action = .ok ep →
      Summarises (matchingRules (registry.ancestorChain tenantId nodeId) action) ep) ∧
    ((∃ e, registry.resolve tenantId nodeId action = .error e) ↔
      Conflicts (matchingRules (registry.ancestorChain tenantId nodeId) action)) ∧
    ∀ child : PolicyNode B, child.tenantId = tenantId → child.parentId = some nodeId →
      registry.get tenantId child.nodeId = none → ∀ ep ep',
      registry.resolve tenantId nodeId action = .ok ep →
      (registry.register child).resolve tenantId child.nodeId action = .ok ep' →
      Tightens ep ep' := by
  refine ⟨fun ep ↦ summarises_of_resolve hne, resolve_eq_error_iff, ?_⟩
  rintro child rfl hparent hnew ep ep' hep hep'
  -- the rules that apply at the parent apply at the child
  have hchain := ancestorChain_register hparent hnew
  have hsub : matchingRules (registry.ancestorChain child.tenantId nodeId) action ⊆ matchingRules
      ((registry.register child).ancestorChain child.tenantId child.nodeId) action := by
    rw [hchain, matchingRules, matchingRules, List.filterMap_append]
    exact List.subset_append_left _ _
  have hne' := List.ne_nil_of_mem (hsub (List.head_mem hne))
  exact .of_subset hsub (summarises_of_resolve hne hep) (summarises_of_resolve hne' hep')

end Effective

/-! ## A node with one rule -/

/-- A rule that allows an action. -/
def readRule (riskTier : RiskTier) (requiredApprovers : ℤ) (allowedRoles : List String) :
    PolicyRule ℕ where
  actionPattern := "read"
  verdict := .allow
  riskTier
  requiredApprovers
  twoPersonControl := false
  allowedRoles
  maxBudgetUsd := none
  rationale := ""
  sourceLevel := .organization
  overrideJustification := none
  ruleId := "r"

/-- A registry with one node, which has one rule. -/
def oneRule (rule : PolicyRule ℕ) : PolicyRegistry ℕ where
  nodes := [⟨"n", "t", none, [rule], true⟩]

/-- A node under another one, each with a rule. -/
def twoRules : PolicyRegistry ℕ where
  nodes :=
    [⟨"o", "t", none, [readRule .high 1 []], true⟩,
      ⟨"n", "t", some "o", [readRule .low 2 []], true⟩]

/-- A node below them. -/
def belowBoth : PolicyNode ℕ := ⟨"c", "t", some "n", [readRule .critical 3 []], true⟩

/-- The policy at the lower node is the extreme of two rules, and that below it is more restrictive. -/
theorem resolve_tightens_twoRules :
    matchingRules (twoRules.ancestorChain "t" "n") "read" ≠ [] ∧
    ∃ ep ep', twoRules.resolve "t" "n" "read" = .ok ep ∧
      (twoRules.register belowBoth).resolve "t" "c" "read" = .ok ep' ∧
      (ep.riskTier, ep.requiredApprovers) = (.high, 2) ∧
      (ep'.riskTier, ep'.requiredApprovers) = (.critical, 3) ∧
      Summarises (matchingRules (twoRules.ancestorChain "t" "n") "read") ep ∧ Tightens ep ep' := by
  have hne : matchingRules (twoRules.ancestorChain "t" "n") "read" ≠ [] :=
    List.cons_ne_nil (readRule .high 1 []) [readRule .low 2 []]
  obtain ⟨hsummarises, -, htightens⟩ := resolve_tightens twoRules "t" "n" "read" hne
  exact ⟨hne, _, _, rfl, rfl, rfl, rfl, hsummarises _ rfl, htightens belowBoth rfl rfl rfl _ _ rfl rfl⟩

/-- A negative number of approvers counts as zero. -/
theorem not_isGreatest_requiredApprovers :
    ¬ ∀ ep, (oneRule (readRule .low (-1) [])).resolve "t" "n" "read" = .ok ep →
      IsGreatest {n | ∃ rule ∈ matchingRules
        ((oneRule (readRule .low (-1) [])).ancestorChain "t" "n") "read",
        rule.requiredApprovers = n} ep.requiredApprovers := by
  intro h
  obtain ⟨⟨rule, hrule, happrovers⟩, -⟩ := h _ rfl
  have hmatching : matchingRules ((oneRule (readRule .low (-1) [])).ancestorChain "t" "n") "read"
      = [readRule .low (-1) []] := rfl
  rw [hmatching, List.mem_singleton] at hrule
  subst hrule
  exact absurd happrovers (by decide)

end DriftGuardX.Policy
