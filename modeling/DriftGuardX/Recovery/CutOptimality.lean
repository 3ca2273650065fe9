import DriftGuardX.Recovery.CausalCut
import Mathlib.Algebra.Order.BigOperators.Group.List
import Mathlib.Tactic.Linarith
import Mathlib.Tactic.Positivity

/-!
# What the cut costs

With exact costs that are not negative, the optimizer selects actions that cover every path whenever
some of the actions do, whichever of its searches it uses: the greedy search is never without an
action to choose while a path is left that can be covered. The exact search tries every combination
of the actions that lie on a path, so what it selects is the cheapest of all covers
(`optimize_optimal`).
-/

namespace DriftGuardX.Recovery

open Transaction

/-! ## Covers and their costs -/

/-- A rational cost that is not negative. -/
def IsAmount (cost : WithTop ℚ) : Prop := ∃ q : ℚ, 0 ≤ q ∧ cost = q

structure RecoveryAction.Priced (action : RecoveryAction (WithTop ℚ)) : Prop where
  changeCost : IsAmount action.changeCost
  blastRadius : IsAmount action.blastRadius
  regressionRisk : IsAmount action.regressionRisk
  expectedDowntime : IsAmount action.expectedDowntime

/-- Every path contains the component of one of the actions. -/
def Covers {F : Type} (paths : List (List String)) (actions : List (RecoveryAction F)) : Prop :=
  ∀ p ∈ paths, ∃ a ∈ actions, a.targetComponent ∈ p

/-- The weighted cost of a list of actions. -/
def totalCost (actions : List (RecoveryAction (WithTop ℚ))) : WithTop ℚ :=
  FloatCost.sum (actions.map CutOptimizer.cost)

theorem Covers.mono {F : Type} {paths : List (List String)} {S T : List (RecoveryAction F)}
    (h : Covers paths S) (hsub : S ⊆ T) : Covers paths T := by
  intro p hp
  obtain ⟨a, ha, hcomp⟩ := h p hp
  exact ⟨a, hsub ha, hcomp⟩

namespace CutOptimizer

section Costs

variable {action : RecoveryAction (WithTop ℚ)} {S T : List (RecoveryAction (WithTop ℚ))}

theorem isAmount_cost (h : action.Priced) : IsAmount (cost action) := by
  obtain ⟨c, hc, hchange⟩ := h.changeCost
  obtain ⟨b, hb, hblast⟩ := h.blastRadius
  obtain ⟨r, hr, hrisk⟩ := h.regressionRisk
  obtain ⟨d, hd, hdown⟩ := h.expectedDowntime
  refine ⟨c * 1 + b * (3 / 2) + r * 2 + d * (1 / 2), by positivity, ?_⟩
  rw [cost, hchange, hblast, hrisk, hdown]
  simp only [FloatCost.literal, FloatCost.add, FloatCost.mul, WithTop.coe_add, WithTop.coe_mul]

theorem cost_nonneg (h : action.Priced) : 0 ≤ cost action := by
  obtain ⟨q, hq, hcost⟩ := isAmount_cost h
  rw [hcost]
  exact_mod_cast hq

theorem totalCost_lt_top (h : ∀ a ∈ S, a.Priced) : totalCost S < ⊤ := by
  induction S with
  | nil => exact WithTop.coe_lt_top 0
  | cons a S ih =>
    obtain ⟨q, -, hcost⟩ := isAmount_cost (h a List.mem_cons_self)
    have hrest := ih fun b hb ↦ h b (List.mem_cons_of_mem a hb)
    change cost a + totalCost S < ⊤
    rw [hcost]
    exact WithTop.add_lt_top.mpr ⟨WithTop.coe_lt_top q, hrest⟩

theorem totalCost_le_of_subset (hpriced : ∀ a ∈ T, a.Priced) (hnodup : S.Nodup) (hsub : S ⊆ T) :
    totalCost S ≤ totalCost T := by
  obtain ⟨S', hperm, hsublist⟩ := List.subperm_of_subset hnodup hsub
  have hle : ((S'.map cost).sum : WithTop ℚ) ≤ (T.map cost).sum := by
    refine (hsublist.map cost).sum_le_sum fun c hc ↦ ?_
    obtain ⟨a, ha, rfl⟩ := List.mem_map.mp hc
    exact cost_nonneg (hpriced a ha)
  calc totalCost S = (S'.map cost).sum := (hperm.map cost).sum_eq.symm
    _ ≤ totalCost T := hle

theorem exists_ratio (h : action.Priced) (count : ℕ) :
    ∃ q : ℚ, 0 ≤ q ∧ FloatCost.div (FloatCost.literal (count : ℚ))
      (FloatCost.add (cost action) (FloatCost.literal (1 / 100000))) = some (q : WithTop ℚ) := by
  obtain ⟨q, hq, hcost⟩ := isAmount_cost h
  have hpos : 0 < q + 1 / 100000 := by positivity
  refine ⟨count / (q + 1 / 100000), by positivity, ?_⟩
  rw [hcost]
  exact if_neg hpos.ne'

theorem not_dividesByZero (h : action.Priced) : ¬ DividesByZero action := by
  rintro ⟨count, hzero⟩
  obtain ⟨q, -, hdiv⟩ := exists_ratio h count
  exact absurd (hdiv.symm.trans hzero) (by simp)

end Costs

/-! ## The greedy search -/

section Greedy

variable {coverage : String → Finset ℕ} {uncovered : Finset ℕ}
  {selected usefulActions : List (RecoveryAction (WithTop ℚ))} {action : RecoveryAction (WithTop ℚ)}
  {best : WithTop ℚ × Option (RecoveryAction (WithTop ℚ))}

/-- The action was not selected, and covers a path that is uncovered. -/
def Candidate (coverage : String → Finset ℕ) (uncovered : Finset ℕ)
    (selected : List (RecoveryAction (WithTop ℚ))) (action : RecoveryAction (WithTop ℚ)) : Prop :=
  action.actionId ∉ selected.map RecoveryAction.actionId ∧
    coverage action.actionId ∩ uncovered ≠ ∅

/-- The inner loop holds an action, or every ratio is better than the one it holds. -/
def Open (best : WithTop ℚ × Option (RecoveryAction (WithTop ℚ))) : Prop :=
  best.2.isSome ∨ best.1 = FloatCost.literal (-1)

variable (coverage uncovered selected) in
/-- The inner loop takes a candidate when it holds no action, and does not let go of an action. -/
theorem tryAction_spec (h : action.Priced) (hopen : Open best) :
    ∃ best', tryAction coverage uncovered selected best action = .ok best' ∧ Open best' ∧
      (best.2.isSome ∨ Candidate coverage uncovered selected action → best'.2.isSome) := by
  rw [tryAction]
  split
  · rename_i hselected
    refine ⟨best, rfl, hopen, fun hsome ↦ ?_⟩
    exact hsome.elim id fun hcandidate ↦ absurd hselected hcandidate.1
  · split
    · rename_i hnothing
      refine ⟨best, rfl, hopen, fun hsome ↦ ?_⟩
      exact hsome.elim id fun hcandidate ↦ absurd hnothing hcandidate.2
    · obtain ⟨q, hq, hratio⟩ := exists_ratio h (coverage action.actionId ∩ uncovered).card
      rw [hratio]
      by_cases hless : FloatCost.less best.1 (q : WithTop ℚ) = true
      · exact ⟨(q, some action), by simp [orRaise, hless], Or.inl rfl, fun _ ↦ rfl⟩
      -- a ratio that is no better than the one held is not the first
      · have hsome : best.2.isSome := by
          refine hopen.resolve_right fun hfirst ↦ hless ?_
          rw [hfirst]
          have hlt : (-1 : ℚ) < q := by linarith
          exact decide_eq_true (WithTop.coe_lt_coe.mpr hlt)
        exact ⟨best, by simp [orRaise, hless], hopen, fun _ ↦ hsome⟩

variable (coverage uncovered selected) in
theorem foldlM_tryAction_spec (h : ∀ a ∈ usefulActions, a.Priced) (hopen : Open best) :
    ∃ best', usefulActions.foldlM (tryAction coverage uncovered selected) best = .ok best' ∧
      ((best.2.isSome ∨ ∃ a ∈ usefulActions, Candidate coverage uncovered selected a) →
        best'.2.isSome) := by
  induction usefulActions generalizing best with
  | nil => exact ⟨best, rfl, fun hsome ↦ hsome.elim id fun ⟨a, ha, _⟩ ↦ absurd ha List.not_mem_nil⟩
  | cons a usefulActions ih =>
    obtain ⟨best', hstep, hopen', hsome'⟩ := tryAction_spec coverage uncovered selected
      (h a List.mem_cons_self) hopen
    obtain ⟨best'', hrun, hsome''⟩ := ih (fun b hb ↦ h b (List.mem_cons_of_mem a hb)) hopen'
    refine ⟨best'', ?_, fun hsome ↦ ?_⟩
    · rw [List.foldlM_cons, hstep]
      exact hrun
    · rw [List.exists_mem_cons_iff, ← or_assoc] at hsome
      exact hsome'' (hsome.imp_left hsome')

theorem exists_bestAction (h : ∀ a ∈ usefulActions, a.Priced) (haction : action ∈ usefulActions)
    (hcandidate : Candidate coverage uncovered selected action) :
    ∃ chosen, bestAction coverage uncovered selected usefulActions = .ok (some chosen) := by
  obtain ⟨best, hrun, hsome⟩ := foldlM_tryAction_spec coverage uncovered selected h
    (Or.inr rfl : Open (FloatCost.literal (-1), none))
  obtain ⟨chosen, hchosen⟩ := Option.isSome_iff_exists.mp
    (hsome (Or.inr ⟨action, haction, hcandidate⟩))
  refine ⟨chosen, ?_⟩
  rw [bestAction, hrun]
  exact congrArg Except.ok hchosen

/-- What was selected covers nothing that is uncovered, so what covers some of that is a candidate. -/
theorem exists_candidate (hne : uncovered ≠ ∅)
    (hdisjoint : ∀ a ∈ selected, Disjoint (coverage a.actionId) uncovered)
    (hcoverable : ∀ i ∈ uncovered, ∃ a ∈ usefulActions, i ∈ coverage a.actionId) :
    ∃ a ∈ usefulActions, Candidate coverage uncovered selected a := by
  obtain ⟨i, hi⟩ := Finset.nonempty_iff_ne_empty.mpr hne
  obtain ⟨a, ha, hia⟩ := hcoverable i hi
  refine ⟨a, ha, fun hmem ↦ ?_, Finset.ne_empty_of_mem (Finset.mem_inter.mpr ⟨hia, hi⟩)⟩
  obtain ⟨b, hb, hid⟩ := List.mem_map.mp hmem
  exact Finset.disjoint_left.mp (hdisjoint b hb) (hid ▸ hia) hi

theorem exists_greedy (h : ∀ a ∈ usefulActions, a.Priced)
    (hdisjoint : ∀ a ∈ selected, Disjoint (coverage a.actionId) uncovered)
    (hcoverable : ∀ i ∈ uncovered, ∃ a ∈ usefulActions, i ∈ coverage a.actionId) :
    ∃ all, greedy coverage usefulActions uncovered selected = .ok (∅, all) := by
  induction uncovered, selected using greedy.induct coverage usefulActions with
  | case1 selected => exact ⟨selected, by rw [greedy, if_pos rfl]⟩
  | case2 uncovered selected hne e hbest =>
    obtain ⟨a, ha, hcandidate⟩ := exists_candidate hne hdisjoint hcoverable
    obtain ⟨chosen, hchosen⟩ := exists_bestAction h ha hcandidate
    exact absurd (hbest.symm.trans hchosen) (by simp)
  | case3 uncovered selected hne hbest =>
    obtain ⟨a, ha, hcandidate⟩ := exists_candidate hne hdisjoint hcoverable
    obtain ⟨chosen, hchosen⟩ := exists_bestAction h ha hcandidate
    exact absurd (hbest.symm.trans hchosen) (by simp)
  | case4 uncovered selected hne action hbest ih =>
    rw [greedy_of_ne hne, hbest]
    refine ih (fun a ha ↦ ?_) fun i hi ↦ hcoverable i (Finset.mem_sdiff.mp hi).1
    rcases List.mem_append.mp ha with ha | ha
    · exact (hdisjoint a ha).mono_right Finset.sdiff_subset
    · exact List.mem_singleton.mp ha ▸ Finset.disjoint_sdiff

end Greedy

/-! ## The exact search -/

section Exact

variable {coverage : String → Finset ℕ} {numPaths : ℕ}
  {usefulActions : List (RecoveryAction (WithTop ℚ))}
  {tried : List (List (RecoveryAction (WithTop ℚ)))}
  {best : WithTop ℚ × Option (List (RecoveryAction (WithTop ℚ)))}

theorem mem_combinations_of_sublist {α : Type} {combo xs : List α} (h : combo.Sublist xs) :
    combo ∈ combinations combo.length xs := by
  induction h with
  | slnil => exact List.mem_singleton_self []
  | @cons combo xs a h ih =>
    cases combo with
    | nil => exact List.mem_singleton_self []
    | cons b combo =>
      rw [List.length_cons, combinations]
      exact List.mem_append_right _ ih
  | cons_cons a h ih =>
    rw [List.length_cons, combinations]
    exact List.mem_append_left _ (List.mem_map_of_mem ih)

/-- The combination held is the cheapest of the covering ones that were tried. -/
structure Cheapest (coverage : String → Finset ℕ) (numPaths : ℕ)
    (tried : List (List (RecoveryAction (WithTop ℚ))))
    (best : WithTop ℚ × Option (List (RecoveryAction (WithTop ℚ)))) : Prop where
  cost_eq : best.1 = best.2.elim ⊤ totalCost
  le : ∀ combo ∈ tried, (covered coverage combo).card = numPaths → best.1 ≤ totalCost combo

theorem cheapest_tryCombo (h : Cheapest coverage numPaths tried best)
    (combo : List (RecoveryAction (WithTop ℚ))) :
    Cheapest coverage numPaths (tried ++ [combo]) (tryCombo coverage numPaths best combo) := by
  have hlast : ∀ {best' : WithTop ℚ × Option (List (RecoveryAction (WithTop ℚ)))},
      best'.1 ≤ best.1 → ((covered coverage combo).card = numPaths → best'.1 ≤ totalCost combo) →
      ∀ c ∈ tried ++ [combo], (covered coverage c).card = numPaths → best'.1 ≤ totalCost c := by
    intro best' hle hcombo c hc hcard
    rcases List.mem_append.mp hc with hc | hc
    · exact hle.trans (h.le c hc hcard)
    · obtain rfl := List.mem_singleton.mp hc
      exact hcombo hcard
  rw [tryCombo]
  split
  · split
    · rename_i hless
      exact ⟨rfl, hlast (of_decide_eq_true hless).le fun _ ↦ le_rfl⟩
    · rename_i hless
      exact ⟨h.cost_eq, hlast le_rfl fun _ ↦ not_lt.mp fun hlt ↦ hless (decide_eq_true hlt)⟩
  · rename_i hcard
    exact ⟨h.cost_eq, hlast le_rfl fun hcovers ↦ absurd hcovers hcard⟩

theorem cheapest_foldl (h : Cheapest coverage numPaths tried best)
    (combos : List (List (RecoveryAction (WithTop ℚ)))) :
    Cheapest coverage numPaths (tried ++ combos)
      (combos.foldl (tryCombo coverage numPaths) best) := by
  induction combos generalizing tried best with
  | nil => rwa [List.append_nil]
  | cons combo combos ih =>
    rw [List.foldl_cons, List.append_cons]
    exact ih (cheapest_tryCombo h combo)

/-- When some of the actions cover every path, the exact search returns a combination that costs no
more than they do. -/
theorem exists_exactCombo {S : List (RecoveryAction (WithTop ℚ))} (hpriced : ∀ a ∈ S, a.Priced)
    (hsublist : S.Sublist usefulActions) (hne : S ≠ [])
    (hcard : (covered coverage S).card = numPaths) :
    ∃ combo, exactCombo coverage numPaths usefulActions = some combo ∧
      totalCost combo ≤ totalCost S := by
  have hnothing : Cheapest coverage numPaths [] (FloatCost.infinity, none) :=
    ⟨rfl, fun _ hc ↦ absurd hc List.not_mem_nil⟩
  have hcheapest := cheapest_foldl hnothing ((List.range' 1 usefulActions.length).flatMap fun r ↦
    combinations r usefulActions)
  rw [List.nil_append] at hcheapest
  have hmem : S ∈ (List.range' 1 usefulActions.length).flatMap fun r ↦
      combinations r usefulActions := by
    refine List.mem_flatMap.mpr ⟨S.length, List.mem_range'_1.mpr ⟨?_, ?_⟩,
      mem_combinations_of_sublist hsublist⟩
    · exact List.length_pos_iff.mpr hne
    · have := hsublist.length_le
      omega
  have hle := hcheapest.le S hmem hcard
  rw [hcheapest.cost_eq] at hle
  rw [exactCombo]
  cases hbest : (((List.range' 1 usefulActions.length).flatMap fun r ↦
      combinations r usefulActions).foldl (tryCombo coverage numPaths)
      (FloatCost.infinity, none)).2 with
  | some combo =>
    rw [hbest] at hle
    exact ⟨combo, rfl, hle⟩
  -- nothing would be held only if nothing tried cost less than infinity
  | none =>
    rw [hbest] at hle
    exact absurd (totalCost_lt_top hpriced) (not_lt.mpr hle)

end Exact

/-! ## What the optimizer selects -/

section Selection

variable {actions : List (RecoveryAction (WithTop ℚ))} {paths : List (List String)}
  {S : List (RecoveryAction (WithTop ℚ))}

/-- The actions that lie on some path. -/
def useful (actions : List (RecoveryAction (WithTop ℚ))) (paths : List (List String)) :
    List (RecoveryAction (WithTop ℚ)) :=
  actions.filter fun a ↦ actionCoverage actions paths a.actionId ≠ ∅

theorem mem_actionCoverage_iff (hids : (actions.map RecoveryAction.actionId).Nodup)
    {action : RecoveryAction (WithTop ℚ)} (ha : action ∈ actions) {i : ℕ} (hi : i < paths.length) :
    i ∈ actionCoverage actions paths action.actionId ↔ action.targetComponent ∈ paths[i] := by
  rw [actionCoverage_of_mem hids ha, hits, Finset.mem_filter, Finset.mem_range,
    List.getD_eq_getElem?_getD, List.getElem?_eq_getElem hi, Option.getD_some]
  exact and_iff_right hi

theorem covers_iff (hids : (actions.map RecoveryAction.actionId).Nodup) (hsub : S ⊆ actions) :
    Covers paths S ↔
      ∀ i < paths.length, ∃ a ∈ S, i ∈ actionCoverage actions paths a.actionId := by
  constructor
  · intro h i hi
    obtain ⟨a, ha, hcomp⟩ := h _ (List.getElem_mem hi)
    exact ⟨a, ha, (mem_actionCoverage_iff hids (hsub ha) hi).mpr hcomp⟩
  · intro h p hp
    obtain ⟨i, hi, rfl⟩ := List.getElem_of_mem hp
    obtain ⟨a, ha, hcov⟩ := h i hi
    exact ⟨a, ha, (mem_actionCoverage_iff hids (hsub ha) hi).mp hcov⟩

theorem card_covered (hids : (actions.map RecoveryAction.actionId).Nodup) (hsub : S ⊆ actions)
    (h : Covers paths S) : (covered (actionCoverage actions paths) S).card = paths.length := by
  have hall : covered (actionCoverage actions paths) S = Finset.range paths.length := by
    refine Finset.Subset.antisymm (fun i hi ↦ ?_) fun i hi ↦ ?_
    · obtain ⟨a, -, hia⟩ := mem_covered_iff.mp hi
      exact actionCoverage_subset a.actionId hia
    · exact mem_covered_iff.mpr ((covers_iff hids hsub).mp h i (Finset.mem_range.mp hi))
  rw [hall, Finset.card_range]

/-- A cover has useful actions that cover as much, in the order of the useful actions, and that
cost no more. -/
theorem exists_useful_cover (hids : (actions.map RecoveryAction.actionId).Nodup)
    (hpriced : ∀ a ∈ actions, a.Priced) (hsub : S ⊆ actions) (h : Covers paths S) :
    ∃ T, T.Sublist (useful actions paths) ∧ Covers paths T ∧ totalCost T ≤ totalCost S := by
  refine ⟨(useful actions paths).filter fun a ↦ a.actionId ∈ S.map RecoveryAction.actionId,
    List.filter_sublist, ?_, ?_⟩
  -- an action of the cover that contains a path is useful
  · intro p hp
    obtain ⟨i, hi, rfl⟩ := List.getElem_of_mem hp
    obtain ⟨a, ha, hcomp⟩ := h _ hp
    have hcov := (mem_actionCoverage_iff hids (hsub ha) hi).mpr hcomp
    refine ⟨a, List.mem_filter.mpr ⟨List.mem_filter.mpr ⟨hsub ha, ?_⟩, ?_⟩, hcomp⟩
    · exact decide_eq_true (Finset.ne_empty_of_mem hcov)
    · exact decide_eq_true (List.mem_map_of_mem ha)
  · have hnodup : actions.Nodup := List.Nodup.of_map _ hids
    refine totalCost_le_of_subset (fun a ha ↦ hpriced a (hsub ha))
      ((hnodup.filter _).filter _) fun a ha ↦ ?_
    obtain ⟨huseful, hmem⟩ := List.mem_filter.mp ha
    obtain ⟨b, hb, hid⟩ := List.mem_map.mp (of_decide_eq_true hmem)
    have heq := List.inj_on_of_nodup_map hids (hsub hb) (List.mem_of_mem_filter huseful) hid
    exact heq ▸ hb

/-- When there is a cover, both searches find one, and the exact search a cheapest one. -/
theorem exists_bestCombo (hids : (actions.map RecoveryAction.actionId).Nodup)
    (hpriced : ∀ a ∈ actions, a.Priced) (hsub : S ⊆ actions) (h : Covers paths S)
    (hpaths : paths ≠ []) {method : OptimizationMethod}
    {best : Option (List (RecoveryAction (WithTop ℚ)))}
    (hbest : bestCombo (actionCoverage actions paths) paths.length (useful actions paths)
      = .ok (method, best)) :
    ∃ combo, best = some combo ∧ (method = .exact → totalCost combo ≤ totalCost S) := by
  obtain ⟨T, hsublist, hT, hcost⟩ := exists_useful_cover hids hpriced hsub h
  have huseful : useful actions paths ⊆ actions := fun a ha ↦ List.mem_of_mem_filter ha
  have hTactions : T ⊆ actions := fun a ha ↦ huseful (hsublist.subset ha)
  rw [bestCombo] at hbest
  split at hbest
  · obtain ⟨-, rfl⟩ := Prod.mk.inj (Except.ok.inj hbest)
    have hne : T ≠ [] := by
      rintro rfl
      obtain ⟨p, hp⟩ := List.exists_mem_of_ne_nil paths hpaths
      obtain ⟨a, ha, -⟩ := hT p hp
      exact List.not_mem_nil ha
    obtain ⟨combo, hcombo, hle⟩ := exists_exactCombo (fun a ha ↦ hpriced a (hTactions ha)) hsublist
      hne (card_covered hids hTactions hT)
    exact ⟨combo, hcombo, fun _ ↦ hle.trans hcost⟩
  · have hcoverable : ∀ i ∈ Finset.range paths.length,
        ∃ a ∈ useful actions paths, i ∈ actionCoverage actions paths a.actionId := by
      intro i hi
      obtain ⟨a, ha, hcov⟩ := (covers_iff hids hTactions).mp hT i (Finset.mem_range.mp hi)
      exact ⟨a, hsublist.subset ha, hcov⟩
    have hnone : ∀ a ∈ ([] : List (RecoveryAction (WithTop ℚ))),
        Disjoint (actionCoverage actions paths a.actionId) (Finset.range paths.length) :=
      fun a ha ↦ absurd ha List.not_mem_nil
    obtain ⟨all, hgreedy⟩ := exists_greedy (fun a ha ↦ hpriced a (huseful ha)) hnone hcoverable
    rw [hgreedy] at hbest
    obtain ⟨rfl, rfl⟩ := Prod.mk.inj (Except.ok.inj hbest)
    exact ⟨all, rfl, fun hexact ↦ absurd hexact (by decide)⟩

variable {sha256 : List UInt8 → String} {sources : List FaultSource} {targets : List FailureTarget}
  {cut : CausalRecoveryCut (WithTop ℚ)}

theorem buildCut_eq_ok {selectedActions : List (RecoveryAction (WithTop ℚ))}
    {blockedPaths residualPaths : List (List String)} {method : OptimizationMethod}
    (h : buildCut sha256 selectedActions blockedPaths residualPaths sources targets method
      = .ok cut) :
    cut.selectedActions = selectedActions ∧ cut.optimizationMethod = method := by
  simp only [buildCut, bind_eq_ok_iff, pure_eq_ok_iff] at h
  obtain ⟨evidencePayload, -, rfl⟩ := h
  exact ⟨rfl, rfl⟩

theorem bestCombo_of_optimize (hpaths : paths ≠ [])
    (h : optimize sha256 actions paths sources targets = .ok cut) :
    ∃ best, bestCombo (actionCoverage actions paths) paths.length (useful actions paths)
      = .ok (cut.optimizationMethod, best) ∧ cut.selectedActions = best.getD [] := by
  rw [optimize, if_neg (List.length_pos_iff.mpr hpaths).ne'] at h
  simp only [bind_eq_ok_iff] at h
  obtain ⟨⟨method, best⟩, hbest, h⟩ := h
  have hcut : cut.selectedActions = best.getD [] ∧ cut.optimizationMethod = method := by
    split at h
    · exact buildCut_eq_ok h
    · exact buildCut_eq_ok h
  exact ⟨best, hcut.2 ▸ hbest, hcut.1⟩

theorem selectedActions_subset (h : optimize sha256 actions paths sources targets = .ok cut) :
    cut.selectedActions ⊆ actions := by
  obtain ⟨hhit, hresidual⟩ := optimize_eq_ok h
  by_cases hnil : cut.residualFailurePaths = []
  · exact (hhit hnil).subset
  · rw [hresidual hnil]
    exact List.nil_subset actions

end Selection

end CutOptimizer

/-- **The cut is feasible and, when it is exact, optimal.** With distinct action ids and with costs
that are not negative, whichever search is used: the optimizer returns a cut whose selected actions
are available ones, and they cover every path exactly when every path contains the component of some
available action. When the exact search was used, no list of available actions that covers every path
costs less. -/
theorem optimize_optimal (sha256 : List UInt8 → String)
    (actions : List (RecoveryAction (WithTop ℚ)))
    (hids : (actions.map RecoveryAction.actionId).Nodup) (hpriced : ∀ a ∈ actions, a.Priced)
    (paths : List (List String)) (sources : List FaultSource) (targets : List FailureTarget) :
    ∃ cut, CutOptimizer.optimize sha256 actions paths sources targets = .ok cut ∧
      cut.selectedActions ⊆ actions ∧
      (Covers paths cut.selectedActions ↔ ∀ p ∈ paths, ∃ a ∈ actions, a.targetComponent ∈ p) ∧
      (cut.optimizationMethod = .exact → Covers paths actions →
        ∀ S ⊆ actions, Covers paths S → totalCost cut.selectedActions ≤ totalCost S) := by
  cases hcut : CutOptimizer.optimize sha256 actions paths sources targets with
  | error e =>
    obtain ⟨-, a, ha, hzero⟩ := CutOptimizer.optimize_eq_error hcut
    exact absurd hzero (CutOptimizer.not_dividesByZero (hpriced a ha))
  | ok cut =>
    have hsub := CutOptimizer.selectedActions_subset hcut
    -- whatever covers the paths, so does what is selected, at no higher cost after an exact search
    have hbest : ∀ S ⊆ actions, Covers paths S → Covers paths cut.selectedActions ∧
        (cut.optimizationMethod = .exact → totalCost cut.selectedActions ≤ totalCost S) := by
      intro S hS hcovers
      by_cases hpaths : paths = []
      · subst hpaths
        refine ⟨fun p hp ↦ absurd hp List.not_mem_nil, fun _ ↦ ?_⟩
        have hnone : cut.selectedActions = [] := (CutOptimizer.buildCut_eq_ok hcut).1
        rw [hnone]
        exact CutOptimizer.totalCost_le_of_subset (fun a ha ↦ hpriced a (hS ha)) List.nodup_nil
          (List.nil_subset S)
      · obtain ⟨best, hfound, hselected⟩ := CutOptimizer.bestCombo_of_optimize hpaths hcut
        obtain ⟨combo, rfl, hcost⟩ :=
          CutOptimizer.exists_bestCombo hids hpriced hS hcovers hpaths hfound
        have hhit := CutOptimizer.hitting_of_bestCombo CutOptimizer.actionCoverage_subset hfound
        have heq : cut.selectedActions = combo := hselected
        rw [heq] at hsub ⊢
        exact ⟨(CutOptimizer.covers_iff hids hsub).mpr hhit.covers, hcost⟩
    refine ⟨cut, rfl, hsub, ⟨fun h ↦ h.mono hsub, fun h ↦ ?_⟩, fun hexact _ S hS hcovers ↦ ?_⟩
    · exact (hbest actions (List.Subset.refl actions) h).1
    · exact (hbest S hS hcovers).2 hexact

/-- The components `b` and `c` together are a cheaper cover than `d`, which every path ends with. -/
theorem optimize_optimal_sampleActions :
    (sampleActions.map RecoveryAction.actionId).Nodup ∧ (∀ a ∈ sampleActions, a.Priced) ∧
      ∃ cut, CutOptimizer.optimize (fun _ ↦ "") sampleActions
          (enumeratePaths sampleGraph ["a"] [⟨"d"⟩]) [⟨"a"⟩] [⟨"d"⟩] = .ok cut ∧
        Covers (enumeratePaths sampleGraph ["a"] [⟨"d"⟩]) cut.selectedActions := by
  have hids : (sampleActions.map RecoveryAction.actionId).Nodup := by decide
  have hamount : ∀ q : ℚ, 0 ≤ q → IsAmount (q : WithTop ℚ) := fun q hq ↦ ⟨q, hq, rfl⟩
  have hpriced : ∀ a ∈ sampleActions, a.Priced := by
    have hzero := hamount 0 le_rfl
    simp only [sampleActions, List.forall_mem_cons, List.not_mem_nil, false_imp_iff, implies_true,
      and_true]
    exact ⟨⟨hamount 1 (by decide), hzero, hzero, hzero⟩, ⟨hamount 1 (by decide), hzero, hzero, hzero⟩,
      ⟨hamount 5 (by decide), hzero, hzero, hzero⟩⟩
  obtain ⟨cut, hcut, -, hcovers, -⟩ := optimize_optimal (fun _ ↦ "") sampleActions hids hpriced
    (enumeratePaths sampleGraph ["a"] [⟨"d"⟩]) [⟨"a"⟩] [⟨"d"⟩]
  exact ⟨hids, hpriced, cut, hcut, hcovers.mpr (by decide +kernel)⟩

end DriftGuardX.Recovery
