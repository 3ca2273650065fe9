import DriftGuardX.Foundation.Bytes
import DriftGuardX.Foundation.KeyTable
import DriftGuardX.Foundation.SimplePath
import DriftGuardX.Foundation.Transaction
import DriftGuardX.Json.Text
import Mathlib.Algebra.Order.Ring.Rat
import Mathlib.Algebra.Order.Ring.WithTop
import Mathlib.Data.Finset.Card
import Mathlib.Data.Finset.Range

/-!
# The causal recovery cut

`FailurePathEnumerator` finds the simple paths from fault sources to failure targets in a causal
graph, and `CutOptimizer` chooses recovery actions whose components hit every path: by trying all
combinations when there are few of them, otherwise greedily.

A cut that leaves no residual path disconnects the faults from the failures: a failure that could
still be reached could be reached by a simple path, which the enumeration would have found and the
chosen actions would have hit (`cut_disconnects`).

The arithmetic of costs is a parameter about which nothing is assumed, so the choice among the cuts
never matters here.
-/

namespace DriftGuardX.Recovery

open Json Bytes Transaction

/-! ## Graphs and actions -/

/-- What the enumeration reads of a node. -/
structure GraphNode where
  id : String

structure GraphEdge where
  source : String
  target : String

structure CausalGraph where
  nodes : List GraphNode
  edges : List GraphEdge

structure FaultSource where
  nodeId : String

structure FailureTarget where
  nodeId : String

/-- What the optimizer computes with floats. A division by zero raises. -/
class FloatCost (F : Type) where
  literal : ℚ → F
  infinity : F
  add : F → F → F
  sum : List F → F
  mul : F → F → F
  div : F → F → Option F
  less : F → F → Bool

/-- What the optimizer reads of an action. -/
structure RecoveryAction (F : Type) where
  actionId : String
  targetComponent : String
  changeCost : F
  blastRadius : F
  regressionRisk : F
  expectedDowntime : F

inductive OptimizationMethod where
  | exact
  | approximate
  | heuristic
  deriving DecidableEq, Repr

structure CausalRecoveryCut (F : Type) where
  faultSources : List FaultSource
  failureTargets : List FailureTarget
  selectedActions : List (RecoveryAction F)
  blockedFailurePaths : List (List String)
  residualFailurePaths : List (List String)
  totalChangeCost : F
  blastRadius : F
  regressionRisk : F
  expectedDowntime : F
  optimizationMethod : OptimizationMethod
  evidenceHash : String

/-- The nodes that a cut deletes. -/
def CausalRecoveryCut.deleted {F : Type} (cut : CausalRecoveryCut F) : List String :=
  cut.selectedActions.map RecoveryAction.targetComponent

/-! ## Enumerating the failure paths -/

namespace CausalGraph

variable (graph : CausalGraph)

def nodeIds : List String := graph.nodes.map GraphNode.id

/-- The adjacency list of a node: the targets of its edges, in the order of the edges. -/
def adj (nodeId : String) : Option (List String) :=
  if nodeId ∈ graph.nodeIds then
    some ((graph.edges.filter fun e ↦ e.source = nodeId).map GraphEdge.target)
  else none

/-- The graph as the search sees it. -/
def toFinite : FiniteGraph String where
  next nodeId := (graph.adj nodeId).getD []
  vertices := graph.edges.map GraphEdge.target
  width := graph.edges.length
  closed a b hb := by
    rw [adj] at hb
    split at hb
    · obtain ⟨e, he, rfl⟩ := List.mem_map.mp hb
      exact List.mem_map_of_mem (List.mem_of_mem_filter he)
    · exact absurd hb List.not_mem_nil
  bounded a := by
    rw [adj]
    split
    · rw [Option.getD_some, List.length_map]
      exact List.length_filter_le _ _
    · exact Nat.zero_le _

variable {graph}

theorem mem_next_iff {a b : String} : b ∈ graph.toFinite.next a ↔
    a ∈ graph.nodeIds ∧ ∃ e ∈ graph.edges, e.source = a ∧ e.target = b := by
  simp only [toFinite, adj]
  split
  · rename_i ha
    simp only [Option.getD_some, List.mem_map, List.mem_filter, decide_eq_true_eq, ha, true_and,
      and_assoc]
  · rename_i ha
    simp [ha]

end CausalGraph

/-- `enumerate_paths`. The source ids are a set, which is iterated in some order. -/
def enumeratePaths (graph : CausalGraph) (sourceIds : List String) (targets : List FailureTarget) :
    List (List String) :=
  sourceIds.foldl (fun allPaths startNode ↦
    if (graph.adj startNode).isNone then allPaths
    else graph.toFinite.search (fun curr ↦ curr ∈ targets.map FailureTarget.nodeId)
      [(startNode, [startNode])] allPaths) []

/-! ## Choosing the actions -/

/-- `itertools.combinations`, in lexicographic order of positions. -/
def combinations {α : Type} : ℕ → List α → List (List α)
  | 0, _ => [[]]
  | _ + 1, [] => []
  | r + 1, x :: xs => (combinations r xs).map (x :: ·) ++ combinations (r + 1) xs

inductive CutError where
  | zeroDivisionError
  | typeError
  deriving DecidableEq, Repr

namespace CutOptimizer

variable {F : Type} [FloatCost F]

def maxExactCombinations : ℕ := 10000

def cost (action : RecoveryAction F) : F :=
  FloatCost.add (FloatCost.add (FloatCost.add
    (FloatCost.mul action.changeCost (FloatCost.literal 1))
    (FloatCost.mul action.blastRadius (FloatCost.literal (3 / 2))))
    (FloatCost.mul action.regressionRisk (FloatCost.literal 2)))
    (FloatCost.mul action.expectedDowntime (FloatCost.literal (1 / 2)))

/-- The indices of the paths that a component lies on. -/
def hits (component : String) (paths : List (List String)) : Finset ℕ :=
  (Finset.range paths.length).filter fun i ↦ component ∈ paths.getD i []

/-- The dictionary from action ids to path indices; a later action with the same id replaces an
earlier one. -/
def actionCoverage (actions : List (RecoveryAction F)) (paths : List (List String))
    (actionId : String) : Finset ℕ :=
  ((actions.reverse.find? fun a ↦ a.actionId = actionId).map fun a ↦
    hits a.targetComponent paths).getD ∅

/-- All that a combination covers. -/
def covered (coverage : String → Finset ℕ) (combo : List (RecoveryAction F)) : Finset ℕ :=
  combo.foldl (fun acc action ↦ acc ∪ coverage action.actionId) ∅

/-- The body of the exact search: the cheapest covering combination so far. -/
def tryCombo (coverage : String → Finset ℕ) (numPaths : ℕ)
    (best : F × Option (List (RecoveryAction F))) (combo : List (RecoveryAction F)) :
    F × Option (List (RecoveryAction F)) :=
  if (covered coverage combo).card = numPaths then
    if FloatCost.less (FloatCost.sum (combo.map cost)) best.1 then
      (FloatCost.sum (combo.map cost), some combo)
    else best
  else best

def exactCombo (coverage : String → Finset ℕ) (numPaths : ℕ)
    (usefulActions : List (RecoveryAction F)) : Option (List (RecoveryAction F)) :=
  (((List.range' 1 usefulActions.length).flatMap fun r ↦ combinations r usefulActions).foldl
    (tryCombo coverage numPaths) (FloatCost.infinity, none)).2

/-- The body of the inner loop of the greedy search. Actions are told apart by their ids. -/
def tryAction (coverage : String → Finset ℕ) (uncovered : Finset ℕ)
    (selected : List (RecoveryAction F)) (best : F × Option (RecoveryAction F))
    (action : RecoveryAction F) : Except CutError (F × Option (RecoveryAction F)) :=
  if action.actionId ∈ selected.map RecoveryAction.actionId then .ok best
  else if coverage action.actionId ∩ uncovered = ∅ then .ok best
  else do
    let ratio ← orRaise .zeroDivisionError
      (FloatCost.div (FloatCost.literal (coverage action.actionId ∩ uncovered).card)
        (FloatCost.add (cost action) (FloatCost.literal (1 / 100000))))
    return if FloatCost.less best.1 ratio then (ratio, some action) else best

/-- The action that covers most uncovered paths for its cost. -/
def bestAction (coverage : String → Finset ℕ) (uncovered : Finset ℕ)
    (selected usefulActions : List (RecoveryAction F)) :
    Except CutError (Option (RecoveryAction F)) := do
  let best ← usefulActions.foldlM (tryAction coverage uncovered selected)
    (FloatCost.literal (-1), none)
  return best.2

variable {coverage : String → Finset ℕ} {uncovered : Finset ℕ}
  {selected usefulActions : List (RecoveryAction F)} {action : RecoveryAction F}

theorem bestAction_eq_some
    (h : bestAction coverage uncovered selected usefulActions = .ok (some action)) :
    action ∈ usefulActions ∧ coverage action.actionId ∩ uncovered ≠ ∅ := by
  simp only [bestAction, bind_eq_ok_iff, pure_eq_ok_iff] at h
  obtain ⟨best, hbest, h⟩ := h
  -- whatever action the loop holds was useful when it was tried
  refine foldlM_induction (I := fun best : F × Option (RecoveryAction F) ↦ ∀ a, best.2 = some a →
    a ∈ usefulActions ∧ coverage a.actionId ∩ uncovered ≠ ∅) (by simp) ?_ hbest action h
  intro best a best' ha hbest hstep
  rw [tryAction] at hstep
  split at hstep
  · exact Except.ok.inj hstep ▸ hbest
  · split at hstep
    · exact Except.ok.inj hstep ▸ hbest
    · rename_i hcovers
      simp only [bind_eq_ok_iff, pure_eq_ok_iff] at hstep
      obtain ⟨ratio, -, rfl⟩ := hstep
      split
      · rintro b ⟨⟩
        exact ⟨ha, hcovers⟩
      · exact hbest

/-- Some count of paths cannot be divided by the cost of the action. -/
def DividesByZero (action : RecoveryAction F) : Prop :=
  ∃ count : ℕ, FloatCost.div (FloatCost.literal (count : ℚ))
    (FloatCost.add (cost action) (FloatCost.literal (1 / 100000))) = none

theorem bestAction_eq_error {e : CutError}
    (h : bestAction coverage uncovered selected usefulActions = .error e) :
    e = .zeroDivisionError ∧ ∃ a ∈ usefulActions, DividesByZero a := by
  rw [bestAction, bind_eq_error_iff] at h
  rcases h with h | ⟨best, -, h⟩
  · obtain ⟨best, a, ha, hstep⟩ := exists_of_foldlM_eq_error h
    rw [tryAction] at hstep
    split at hstep
    · exact absurd hstep (by simp)
    · split at hstep
      · exact absurd hstep (by simp)
      · rw [bind_eq_error_iff] at hstep
        rcases hstep with hstep | ⟨ratio, -, hstep⟩
        · obtain ⟨hdiv, rfl⟩ := orRaise_eq_error_iff.mp hstep
          exact ⟨rfl, a, ha, _, hdiv⟩
        · exact nomatch hstep
  · exact nomatch h

/-- The greedy search: what stays uncovered, and the actions chosen. -/
def greedy (coverage : String → Finset ℕ) (usefulActions : List (RecoveryAction F))
    (uncovered : Finset ℕ) (selected : List (RecoveryAction F)) :
    Except CutError (Finset ℕ × List (RecoveryAction F)) :=
  if uncovered = ∅ then .ok (uncovered, selected)
  else match _h : bestAction coverage uncovered selected usefulActions with
    | .error e => .error e
    | .ok none => .ok (uncovered, selected)
    | .ok (some action) =>
      greedy coverage usefulActions (uncovered \ coverage action.actionId) (selected ++ [action])
termination_by uncovered.card
decreasing_by
  refine Finset.card_lt_card (Finset.ssubset_iff_subset_ne.mpr ⟨Finset.sdiff_subset, fun heq ↦ ?_⟩)
  refine (bestAction_eq_some ‹_›).2 ?_
  rw [Finset.inter_comm, ← Finset.disjoint_iff_inter_eq_empty]
  exact Finset.sdiff_eq_self_iff_disjoint.mp heq

/-- What the evidence hash covers, which has no floats in it. -/
def evidence (selectedActions : List (RecoveryAction F)) (sources : List FaultSource)
    (targets : List FailureTarget) : List (String × Val Empty) :=
  [("targets", .list (targets.map fun t ↦ .str t.nodeId)),
    ("sources", .list (sources.map fun s ↦ .str s.nodeId)),
    ("actions", .list (selectedActions.map fun a ↦ .str a.actionId))]

def buildCut (sha256 : List UInt8 → String) (selectedActions : List (RecoveryAction F))
    (blockedPaths residualPaths : List (List String)) (sources : List FaultSource)
    (targets : List FailureTarget) (method : OptimizationMethod) :
    Except CutError (CausalRecoveryCut F) := do
  let evidencePayload ← orRaise .typeError
    (dumps ⟨true, false⟩ true (.object (evidence selectedActions sources targets)))
  return {
    faultSources := sources
    failureTargets := targets
    selectedActions
    blockedFailurePaths := blockedPaths
    residualFailurePaths := residualPaths
    totalChangeCost := FloatCost.sum (selectedActions.map RecoveryAction.changeCost)
    blastRadius := FloatCost.sum (selectedActions.map RecoveryAction.blastRadius)
    regressionRisk := FloatCost.sum (selectedActions.map RecoveryAction.regressionRisk)
    expectedDowntime := FloatCost.sum (selectedActions.map RecoveryAction.expectedDowntime)
    optimizationMethod := method
    evidenceHash := sha256 (utf8Chars evidencePayload) }

/-- The combination that the exact or the greedy search returns, if any, and which one was used. -/
def bestCombo (coverage : String → Finset ℕ) (numPaths : ℕ)
    (usefulActions : List (RecoveryAction F)) :
    Except CutError (OptimizationMethod × Option (List (RecoveryAction F))) :=
  if ((List.range' 1 usefulActions.length).map fun k ↦ (combinations k usefulActions).length).sum
      ≤ maxExactCombinations then
    .ok (.exact, exactCombo coverage numPaths usefulActions)
  else do
    let result ← greedy coverage usefulActions (Finset.range numPaths) []
    return (.approximate, if result.1 = ∅ then some result.2 else none)

def optimize (sha256 : List UInt8 → String) (availableActions : List (RecoveryAction F))
    (paths : List (List String)) (sources : List FaultSource) (targets : List FailureTarget) :
    Except CutError (CausalRecoveryCut F) :=
  let coverage := actionCoverage availableActions paths
  if paths.length = 0 then buildCut sha256 [] paths [] sources targets .exact
  else do
    let usefulActions := availableActions.filter fun a ↦ coverage a.actionId ≠ ∅
    let (method, best) ← bestCombo coverage paths.length usefulActions
    let selectedList := best.getD []
    if selectedList ≠ [] then buildCut sha256 selectedList paths [] sources targets method
    else buildCut sha256 selectedList [] paths sources targets method

/-! ## What the optimizer returns -/

omit [FloatCost F] in
theorem mem_covered_iff {combo : List (RecoveryAction F)} {i : ℕ} :
    i ∈ covered coverage combo ↔ ∃ a ∈ combo, i ∈ coverage a.actionId := by
  have hfold : ∀ acc : Finset ℕ, i ∈ combo.foldl (fun acc a ↦ acc ∪ coverage a.actionId) acc ↔
      i ∈ acc ∨ ∃ a ∈ combo, i ∈ coverage a.actionId := by
    induction combo with
    | nil => simp
    | cons a combo ih =>
      intro acc
      rw [List.foldl_cons, ih, Finset.mem_union, List.exists_mem_cons_iff, or_assoc]
  rw [covered, hfold]
  simp

theorem mem_of_mem_combinations {α : Type} {r : ℕ} {xs combo : List α}
    (h : combo ∈ combinations r xs) : ∀ a ∈ combo, a ∈ xs := by
  induction r, xs using combinations.induct generalizing combo with
  | case1 xs =>
    rw [combinations, List.mem_singleton] at h
    subst h
    exact fun _ ha ↦ absurd ha List.not_mem_nil
  | case2 r =>
    rw [combinations] at h
    exact absurd h List.not_mem_nil
  | case3 r x xs ih₁ ih₂ =>
    rw [combinations, List.mem_append] at h
    rcases h with h | h
    · obtain ⟨tail, htail, rfl⟩ := List.mem_map.mp h
      intro a ha
      rcases List.mem_cons.mp ha with rfl | ha
      · exact List.mem_cons_self
      · exact List.mem_cons_of_mem x (ih₁ htail a ha)
    · exact fun a ha ↦ List.mem_cons_of_mem x (ih₂ h a ha)

/-- Chosen among the actions, and hitting every path. -/
structure Hitting (coverage : String → Finset ℕ) (numPaths : ℕ)
    (actions combo : List (RecoveryAction F)) : Prop where
  subset : ∀ a ∈ combo, a ∈ actions
  covers : ∀ i < numPaths, ∃ a ∈ combo, i ∈ coverage a.actionId

theorem card_covered_of_exactCombo {numPaths : ℕ} {combo : List (RecoveryAction F)}
    (h : exactCombo coverage numPaths usefulActions = some combo) :
    (∀ a ∈ combo, a ∈ usefulActions) ∧ (covered coverage combo).card = numPaths := by
  -- the fold keeps, with its best cost, a combination that covers every path
  have hfold : ∀ (combos : List (List (RecoveryAction F))) (best : F × Option _),
      (∀ c ∈ combos, ∀ a ∈ c, a ∈ usefulActions) →
      (∀ c, best.2 = some c → (∀ a ∈ c, a ∈ usefulActions) ∧ (covered coverage c).card = numPaths) →
      ∀ c, (combos.foldl (tryCombo coverage numPaths) best).2 = some c →
        (∀ a ∈ c, a ∈ usefulActions) ∧ (covered coverage c).card = numPaths := by
    intro combos
    induction combos with
    | nil => exact fun _ _ hbest ↦ hbest
    | cons combo combos ih =>
      intro best hmem hbest
      refine ih _ (fun c hc ↦ hmem c (List.mem_cons_of_mem combo hc)) fun c hc ↦ ?_
      rw [tryCombo] at hc
      split at hc
      · rename_i hcard
        split at hc
        · obtain rfl := Option.some.inj hc
          exact ⟨hmem combo List.mem_cons_self, hcard⟩
        · exact hbest c hc
      · exact hbest c hc
  refine hfold _ (FloatCost.infinity, none) (fun c hc ↦ ?_) (by simp) combo h
  obtain ⟨r, -, hr⟩ := List.mem_flatMap.mp hc
  exact mem_of_mem_combinations hr

theorem greedy_of_ne (h : uncovered ≠ ∅) :
    greedy coverage usefulActions uncovered selected
      = bestAction coverage uncovered selected usefulActions >>= fun best ↦
        best.elim (.ok (uncovered, selected)) fun action ↦
          greedy coverage usefulActions (uncovered \ coverage action.actionId)
            (selected ++ [action]) := by
  rw [greedy, if_neg h]
  split
  · rename_i hbest
    rw [hbest]
    rfl
  · rename_i hbest
    rw [hbest]
    rfl
  · rename_i hbest
    rw [hbest]
    rfl

/-- The greedy search only chooses useful actions, and what they cover is no longer uncovered. -/
theorem greedy_spec {result : Finset ℕ × List (RecoveryAction F)} (all : Finset ℕ)
    (hselected : ∀ a ∈ selected, a ∈ usefulActions)
    (hcovered : ∀ i ∈ all, i ∉ uncovered → ∃ a ∈ selected, i ∈ coverage a.actionId)
    (h : greedy coverage usefulActions uncovered selected = .ok result) :
    (∀ a ∈ result.2, a ∈ usefulActions) ∧
      ∀ i ∈ all, i ∉ result.1 → ∃ a ∈ result.2, i ∈ coverage a.actionId := by
  -- what is no longer uncovered is covered by an action that was selected
  induction uncovered, selected using greedy.induct coverage usefulActions with
  | case1 selected =>
    rw [greedy, if_pos rfl] at h
    obtain rfl := Except.ok.inj h
    exact ⟨hselected, hcovered⟩
  | case2 uncovered selected hne e hbest =>
    rw [greedy_of_ne hne, hbest] at h
    exact absurd h (by simp)
  | case3 uncovered selected hne hbest =>
    rw [greedy_of_ne hne, hbest] at h
    obtain rfl := Except.ok.inj h
    exact ⟨hselected, hcovered⟩
  | case4 uncovered selected hne action hbest ih =>
    rw [greedy_of_ne hne, hbest] at h
    refine ih (fun a ha ↦ ?_) (fun i hi hout ↦ ?_) h
    · rcases List.mem_append.mp ha with ha | ha
      · exact hselected a ha
      · exact List.mem_singleton.mp ha ▸ (bestAction_eq_some hbest).1
    · by_cases hnew : i ∈ coverage action.actionId
      · exact ⟨action, List.mem_append_right _ (List.mem_singleton_self action), hnew⟩
      · obtain ⟨a, ha, hcov⟩ := hcovered i hi fun hu ↦ hout (Finset.mem_sdiff.mpr ⟨hu, hnew⟩)
        exact ⟨a, List.mem_append_left _ ha, hcov⟩

theorem greedy_eq_error {e : CutError}
    (h : greedy coverage usefulActions uncovered selected = .error e) :
    e = .zeroDivisionError ∧ ∃ a ∈ usefulActions, DividesByZero a := by
  induction uncovered, selected using greedy.induct coverage usefulActions with
  | case1 selected =>
    rw [greedy, if_pos rfl] at h
    exact absurd h (by simp)
  | case2 uncovered selected hne e' hbest =>
    rw [greedy_of_ne hne, hbest] at h
    obtain rfl := Except.error.inj h
    exact bestAction_eq_error hbest
  | case3 uncovered selected hne hbest =>
    rw [greedy_of_ne hne, hbest] at h
    exact nomatch h
  | case4 uncovered selected hne action hbest ih =>
    rw [greedy_of_ne hne, hbest] at h
    exact ih h

variable {numPaths : ℕ} {combo : List (RecoveryAction F)}

theorem hitting_of_bestCombo (hcov : ∀ actionId, coverage actionId ⊆ Finset.range numPaths)
    {method : OptimizationMethod}
    (h : bestCombo coverage numPaths usefulActions = .ok (method, some combo)) :
    Hitting coverage numPaths usefulActions combo := by
  rw [bestCombo] at h
  split at h
  · obtain ⟨-, h⟩ := Prod.mk.inj (Except.ok.inj h)
    obtain ⟨hsub, hcard⟩ := card_covered_of_exactCombo h
    -- as many indices as there are paths, and none but those of paths
    have hall : covered coverage combo = Finset.range numPaths := by
      refine Finset.eq_of_subset_of_card_le (fun i hi ↦ ?_) (by rw [hcard, Finset.card_range])
      obtain ⟨a, -, hia⟩ := mem_covered_iff.mp hi
      exact hcov a.actionId hia
    exact ⟨hsub, fun i hi ↦ mem_covered_iff.mp (hall ▸ Finset.mem_range.mpr hi)⟩
  · simp only [bind_eq_ok_iff, pure_eq_ok_iff, Prod.mk.injEq] at h
    obtain ⟨result, hresult, -, h⟩ := h
    split at h
    · rename_i hempty
      obtain rfl := Option.some.inj h
      obtain ⟨hsub, hcovers⟩ := greedy_spec (Finset.range numPaths) (by simp)
        (fun i hi hout ↦ absurd hi hout) hresult
      refine ⟨hsub, fun i hi ↦ hcovers i (Finset.mem_range.mpr hi) ?_⟩
      rw [hempty]
      exact Finset.notMem_empty i
    · exact absurd h (by simp)

theorem bestCombo_eq_error {e : CutError}
    (h : bestCombo coverage numPaths usefulActions = .error e) :
    e = .zeroDivisionError ∧ ∃ a ∈ usefulActions, DividesByZero a := by
  rw [bestCombo] at h
  split at h
  · exact absurd h (by simp)
  · rw [bind_eq_error_iff] at h
    rcases h with h | ⟨result, -, h⟩
    · exact greedy_eq_error h
    · exact nomatch h

/-- The evidence is made of strings, so a cut is always built. -/
theorem exists_buildCut (sha256 : List UInt8 → String) (selectedActions : List (RecoveryAction F))
    (blockedPaths residualPaths : List (List String)) (sources : List FaultSource)
    (targets : List FailureTarget) (method : OptimizationMethod) :
    ∃ cut, buildCut sha256 selectedActions blockedPaths residualPaths sources targets method
        = .ok cut ∧
      cut.selectedActions = selectedActions ∧ cut.residualFailurePaths = residualPaths := by
  -- the evidence holds nothing but lists of strings, which every dump accepts
  have hstrs : ∀ {α : Type} (id : α → String) (xs : List α),
      ∃ d, toDoc true (.list (xs.map fun x ↦ .str (id x)) : Val Empty) = some d := by
    intro α id xs
    have hdoc := toDoc_strs (F := Empty) true (xs.map id)
    rw [List.map_map] at hdoc
    exact ⟨_, hdoc⟩
  have hmembers : ∀ m ∈ evidence selectedActions sources targets,
      ∃ d, toDoc true m.2 = some d := by
    simp only [evidence, List.forall_mem_cons, List.not_mem_nil, false_imp_iff, implies_true,
      and_true]
    exact ⟨hstrs _ targets, hstrs _ sources, hstrs _ selectedActions⟩
  obtain ⟨ms, hms⟩ := objDocs_isSome hmembers
  rw [buildCut, dumps, toDoc_true_object, hms]
  exact ⟨_, rfl, rfl, rfl⟩

variable {sha256 : List UInt8 → String} {actions : List (RecoveryAction F)}
  {paths : List (List String)} {sources : List FaultSource} {targets : List FailureTarget}

omit [FloatCost F] in
theorem actionCoverage_subset (actionId : String) :
    actionCoverage actions paths actionId ⊆ Finset.range paths.length := by
  rw [actionCoverage]
  cases actions.reverse.find? fun a ↦ a.actionId = actionId with
  | none => exact Finset.empty_subset _
  | some a => exact Finset.filter_subset _ _

omit [FloatCost F] in
theorem actionCoverage_of_mem (hids : (actions.map RecoveryAction.actionId).Nodup)
    (ha : action ∈ actions) :
    actionCoverage actions paths action.actionId = hits action.targetComponent paths := by
  have hfind : (actions.reverse.find? fun a ↦ a.actionId = action.actionId) = some action := by
    refine (find?_key_eq_some_iff ?_).mpr ⟨List.mem_reverse.mpr ha, rfl⟩
    rw [List.map_reverse, List.nodup_reverse]
    exact hids
  rw [actionCoverage, hfind, Option.map_some, Option.getD_some]

/-- A cut without residual paths hits every path, and a cut with some has no actions. -/
theorem optimize_eq_ok {cut : CausalRecoveryCut F}
    (h : optimize sha256 actions paths sources targets = .ok cut) :
    (cut.residualFailurePaths = [] →
      Hitting (actionCoverage actions paths) paths.length actions cut.selectedActions) ∧
    (cut.residualFailurePaths ≠ [] → cut.selectedActions = []) := by
  rw [optimize] at h
  split at h
  -- without a failure path nothing is selected
  · rename_i hzero
    obtain ⟨cut', hcut', hselected, hresidual⟩ :=
      exists_buildCut sha256 ([] : List (RecoveryAction F)) paths [] sources targets .exact
    obtain rfl := Except.ok.inj (hcut'.symm.trans h)
    refine ⟨fun _ ↦ ⟨?_, fun i hi ↦ by omega⟩, fun _ ↦ hselected⟩
    rw [hselected]
    exact fun a ha ↦ absurd ha List.not_mem_nil
  · rename_i hpos
    simp only [bind_eq_ok_iff] at h
    obtain ⟨⟨method, best⟩, hbest, h⟩ := h
    split at h
    -- no combination was found: the paths are all residual
    · rename_i hsel
      obtain ⟨cut', hcut', hselected, hresidual⟩ := exists_buildCut sha256 (best.getD []) paths []
        sources targets method
      obtain rfl := Except.ok.inj (hcut'.symm.trans h)
      refine ⟨fun _ ↦ ?_, fun hne ↦ absurd hresidual hne⟩
      cases best with
      | none => exact absurd rfl hsel
      | some combo =>
        have hhit := hitting_of_bestCombo actionCoverage_subset hbest
        rw [hselected]
        exact ⟨fun a ha ↦ List.mem_of_mem_filter (hhit.subset a ha), hhit.covers⟩
    · rename_i hsel
      obtain ⟨cut', hcut', hselected, hresidual⟩ := exists_buildCut sha256 (best.getD []) [] paths
        sources targets method
      obtain rfl := Except.ok.inj (hcut'.symm.trans h)
      refine ⟨fun hnil ↦ ?_, fun _ ↦ hselected.trans (not_not.mp hsel)⟩
      rw [hresidual] at hnil
      exact absurd (congrArg List.length hnil) hpos

theorem optimize_eq_error {e : CutError}
    (h : optimize sha256 actions paths sources targets = .error e) :
    e = .zeroDivisionError ∧ ∃ a ∈ actions, DividesByZero a := by
  have hbuild : ∀ (selected : List (RecoveryAction F)) blocked residual method,
      buildCut sha256 selected blocked residual sources targets method ≠ .error e := by
    intro selected blocked residual method herror
    obtain ⟨cut, hcut, -⟩ :=
      exists_buildCut sha256 selected blocked residual sources targets method
    exact absurd (hcut.symm.trans herror) (by simp)
  rw [optimize] at h
  split at h
  · exact absurd h (hbuild _ _ _ _)
  · simp only [bind_eq_error_iff] at h
    rcases h with h | ⟨⟨method, best⟩, -, h⟩
    · obtain ⟨he, a, ha, hzero⟩ := bestCombo_eq_error h
      exact ⟨he, a, List.mem_of_mem_filter ha, hzero⟩
    · split at h
      · exact absurd h (hbuild _ _ _ _)
      · exact absurd h (hbuild _ _ _ _)

end CutOptimizer

/-! ## The cut disconnects -/

section Disconnects

variable {graph : CausalGraph} {sourceIds : List String} {targets : List FailureTarget}

theorem mem_enumeratePaths_iff {p : List String} : p ∈ enumeratePaths graph sourceIds targets ↔
    ∃ startNode ∈ sourceIds, startNode ∈ graph.nodeIds ∧ ∃ ext,
      graph.toFinite.Continues (fun curr ↦ curr ∈ targets.map FailureTarget.nodeId) startNode
        [startNode] ext ∧ p = startNode :: ext := by
  -- the paths from one source are added to those found before it
  have hfold : ∀ found, p ∈ sourceIds.foldl (fun allPaths startNode ↦
      if (graph.adj startNode).isNone then allPaths
      else graph.toFinite.search (fun curr ↦ curr ∈ targets.map FailureTarget.nodeId)
        [(startNode, [startNode])] allPaths) found ↔
      p ∈ found ∨ ∃ startNode ∈ sourceIds, startNode ∈ graph.nodeIds ∧ ∃ ext,
        graph.toFinite.Continues (fun curr ↦ curr ∈ targets.map FailureTarget.nodeId) startNode
          [startNode] ext ∧ p = startNode :: ext := by
    induction sourceIds with
    | nil => simp
    | cons s sourceIds ih =>
      intro found
      rw [List.foldl_cons, ih, List.exists_mem_cons_iff, ← or_assoc]
      refine or_congr_left ?_
      by_cases hs : s ∈ graph.nodeIds
      · simp [CausalGraph.adj, hs, FiniteGraph.mem_search_iff]
      · simp [CausalGraph.adj, hs]
  rw [enumeratePaths, hfold]
  simp

/-- An edge of the graph that starts at a node of the graph and touches no deleted node. -/
def RemainingEdge (graph : CausalGraph) (deleted : List String) (a b : String) : Prop :=
  (a ∈ graph.nodeIds ∧ ∃ e ∈ graph.edges, e.source = a ∧ e.target = b) ∧ a ∉ deleted ∧ b ∉ deleted

/-- A target that can still be reached is reached by an enumerated path without deleted nodes. -/
theorem exists_path_of_reflTransGen {deleted : List String} {s t : String} (hs : s ∈ sourceIds)
    (hnode : s ∈ graph.nodeIds) (ht : t ∈ targets.map FailureTarget.nodeId) (hkept : s ∉ deleted)
    (h : Relation.ReflTransGen (RemainingEdge graph deleted) s t) :
    ∃ p ∈ enumeratePaths graph sourceIds targets, ∀ a ∈ p, a ∉ deleted := by
  obtain ⟨l, hchain, hnodup, hlast⟩ := exists_simple_of_reflTransGen h
  obtain ⟨hsl, hl⟩ := List.nodup_cons.mp hnodup
  refine ⟨s :: l, mem_enumeratePaths_iff.mpr ⟨s, hs, hnode, l, ?_, rfl⟩, ?_⟩
  · refine FiniteGraph.continues_of_chain
      (hchain.imp fun a b hab ↦ CausalGraph.mem_next_iff.mpr hab.1) hl (fun a ha hpath ↦ ?_) hlast
      (decide_eq_true ht)
    exact hsl (List.mem_singleton.mp hpath ▸ ha)
  · exact hchain.induction _ _ (fun a b hab _ ↦ hab.2.2) fun _ ↦ hkept

end Disconnects

variable {F : Type} [FloatCost F]

/-- **The cut disconnects.** With distinct action ids, and however the set of source ids is
iterated: a cut without residual paths leaves no way from a remaining source node to a remaining
target once the components of its actions are deleted, and a cut with residual paths has no actions.
Only the division by the cost of an action can keep the optimizer from returning a cut. -/
theorem cut_disconnects (sha256 : List UInt8 → String) (graph : CausalGraph)
    (sources : List FaultSource) (targets : List FailureTarget)
    (actions : List (RecoveryAction F)) (hids : (actions.map RecoveryAction.actionId).Nodup)
    (sourceIds : List String) (hset : ∀ id, id ∈ sourceIds ↔ ∃ s ∈ sources, s.nodeId = id) :
    (∀ cut, CutOptimizer.optimize sha256 actions (enumeratePaths graph sourceIds targets) sources
        targets = .ok cut →
      (cut.residualFailurePaths = [] → ∀ s ∈ sources, ∀ t ∈ targets,
        s.nodeId ∈ graph.nodeIds → s.nodeId ∉ cut.deleted → t.nodeId ∉ cut.deleted →
          ¬ Relation.ReflTransGen (RemainingEdge graph cut.deleted) s.nodeId t.nodeId) ∧
      (cut.residualFailurePaths ≠ [] → cut.selectedActions = [])) ∧
    ∀ e, CutOptimizer.optimize sha256 actions (enumeratePaths graph sourceIds targets) sources
        targets = .error e →
      e = .zeroDivisionError ∧ ∃ a ∈ actions, CutOptimizer.DividesByZero a := by
  refine ⟨fun cut hcut ↦ ?_, fun e he ↦ CutOptimizer.optimize_eq_error he⟩
  obtain ⟨hhit, hresidual⟩ := CutOptimizer.optimize_eq_ok hcut
  refine ⟨fun hnil s hs t ht hnode hskept _ hreach ↦ ?_, hresidual⟩
  -- a walk in what remains would be a failure path that no deleted node is on
  obtain ⟨p, hp, hpkept⟩ := exists_path_of_reflTransGen ((hset s.nodeId).mpr ⟨s, hs, rfl⟩) hnode
    (List.mem_map_of_mem ht) hskept hreach
  obtain ⟨i, hi, hpi⟩ := List.getElem_of_mem hp
  obtain ⟨a, ha, hcovers⟩ := (hhit hnil).covers i hi
  rw [CutOptimizer.actionCoverage_of_mem hids ((hhit hnil).subset a ha), CutOptimizer.hits,
    Finset.mem_filter, List.getD_eq_getElem?_getD, List.getElem?_eq_getElem hi, hpi] at hcovers
  exact hpkept a.targetComponent hcovers.2 (List.mem_map_of_mem ha)

/-! ## A cut of a graph with a cycle -/

/-- Exact costs, with an infinity. -/
instance : FloatCost (WithTop ℚ) where
  literal q := q
  infinity := ⊤
  add := (· + ·)
  sum := List.sum
  mul := (· * ·)
  div
    | none, _ => some ⊤
    | some _, none => some 0
    | some p, some q => if q = 0 then none else some ((p / q : ℚ) : WithTop ℚ)
  less p q := decide (p < q)

/-- Two ways from `a` to `d`, with a cycle between `b` and `c` and an edge from outside. -/
def sampleGraph : CausalGraph where
  nodes := [⟨"a"⟩, ⟨"b"⟩, ⟨"c"⟩, ⟨"d"⟩]
  edges := [⟨"a", "b"⟩, ⟨"b", "c"⟩, ⟨"c", "b"⟩, ⟨"a", "c"⟩, ⟨"b", "d"⟩, ⟨"c", "d"⟩, ⟨"x", "d"⟩]

def sampleActions : List (RecoveryAction (WithTop ℚ)) :=
  [⟨"1", "b", 1, 0, 0, 0⟩, ⟨"2", "c", 1, 0, 0, 0⟩, ⟨"3", "d", 5, 0, 0, 0⟩]

theorem cut_disconnects_sampleGraph :
    ∃ cut, CutOptimizer.optimize (fun _ ↦ "") sampleActions
        (enumeratePaths sampleGraph ["a"] [⟨"d"⟩]) [⟨"a"⟩] [⟨"d"⟩] = .ok cut ∧
      cut.residualFailurePaths = [] ∧ cut.deleted = ["b", "c"] ∧
      ¬ Relation.ReflTransGen (RemainingEdge sampleGraph cut.deleted) "a" "d" := by
  have heval : (CutOptimizer.optimize (fun _ ↦ "") sampleActions
      (enumeratePaths sampleGraph ["a"] [⟨"d"⟩]) [⟨"a"⟩] [⟨"d"⟩]).toOption.map
        (fun cut ↦ (cut.residualFailurePaths, cut.deleted)) = some ([], ["b", "c"]) := by
    decide +kernel
  obtain ⟨cut, hcut, hsome⟩ := Option.map_eq_some_iff.mp heval
  obtain ⟨hresidual, hdeleted⟩ := Prod.mk.inj hsome
  have hok : CutOptimizer.optimize (fun _ ↦ "") sampleActions
      (enumeratePaths sampleGraph ["a"] [⟨"d"⟩]) [⟨"a"⟩] [⟨"d"⟩] = .ok cut := by
    revert hcut
    cases CutOptimizer.optimize (fun _ ↦ "") sampleActions
      (enumeratePaths sampleGraph ["a"] [⟨"d"⟩]) [⟨"a"⟩] [⟨"d"⟩] <;> simp [Except.toOption]
  have hcuts := cut_disconnects (fun _ ↦ "") sampleGraph [⟨"a"⟩] [⟨"d"⟩] sampleActions (by decide)
    ["a"] (by simp [eq_comm])
  refine ⟨cut, hok, hresidual, hdeleted, ?_⟩
  exact (hcuts.1 cut hok).1 hresidual ⟨"a"⟩ List.mem_cons_self ⟨"d"⟩ List.mem_cons_self (by decide)
    (by rw [hdeleted]; decide) (by rw [hdeleted]; decide)

end DriftGuardX.Recovery
