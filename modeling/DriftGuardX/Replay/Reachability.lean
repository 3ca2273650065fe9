import DriftGuardX.Foundation.BreadthFirst
import DriftGuardX.Foundation.Closure
import DriftGuardX.Replay.BeliefModel
import Mathlib.Data.Finset.Card
import Mathlib.Tactic.Positivity

/-!
# What a node of a graph reaches

The estimator of likelihoods closes the descendants and the ancestors of all nodes together, in place;
the impact of an intervention is the share of the nodes that a breadth-first search finds from it. Both
end on every graph, with cycles, self loops and edges given several times, and they agree
(`reachability_ends`): the search finds the node and its descendants.
-/

namespace DriftGuardX.Replay

open Closure (Orders)

/-- An edge of a graph, by the ids of its ends. -/
structure EdgeIds where
  sourceId : String
  targetId : String
  deriving DecidableEq, Repr

/-! ## The closures -/

/-- The two dictionaries of the estimator. -/
inductive Kin where
  | descendants
  | ancestors
  deriving DecidableEq, Repr

/-- Sets of nodes, by what they are to a node; a node that has none has an empty one. -/
abbrev Closures := Kin → String → List String

/-- An edge makes its target a descendant and its source an ancestor. -/
def addEdge (rel : Closures) (edge : EdgeIds) : Closures :=
  let rel := Closure.assign rel .descendants edge.sourceId
    (Closure.merge (rel .descendants edge.sourceId) [edge.targetId])
  Closure.assign rel .ancestors edge.targetId
    (Closure.merge (rel .ancestors edge.targetId) [edge.sourceId])

def directEdges (edges : List EdgeIds) : Closures := edges.foldl addEdge fun _ _ ↦ []

/-- The keys of both dictionaries. -/
def closureNodes (edges : List EdgeIds) : List String :=
  (edges.map EdgeIds.targetId ++ edges.map EdgeIds.sourceId).dedup

/-- `_build_closures`, if it needs at most as many rounds as there is fuel. -/
def buildClosures (orders : Orders Kin String) (fuel : ℕ) (edges : List EdgeIds) :
    Option TopologicalLikelihoodEstimator :=
  (Closure.close orders [.descendants, .ancestors] (closureNodes edges) fuel 0
    (directEdges edges)).map fun rel ↦ ⟨rel .descendants, rel .ancestors⟩

/-! ## The impact -/

/-- The targets of the edges of a node, without empty ids. -/
def nextNodes (edges : List EdgeIds) (curr : String) : List String :=
  ((edges.filter fun edge ↦ edge.sourceId = curr).map EdgeIds.targetId).filter fun target ↦ target ≠ ""

/-- The graph that is searched from a node. -/
def impactGraph (edges : List EdgeIds) (interventionNode : String) : FiniteGraph String where
  next := nextNodes edges
  vertices := interventionNode :: edges.map EdgeIds.targetId
  width := edges.length
  closed := by
    intro curr target h
    obtain ⟨edge, hedge, rfl⟩ := List.mem_map.mp (List.mem_filter.mp h).1
    exact List.mem_cons_of_mem _ (List.mem_map_of_mem (List.mem_filter.mp hedge).1)
  bounded := by
    intro curr
    refine (List.length_filter_le _ _).trans ?_
    rw [List.length_map]
    exact List.length_filter_le _ _

/-- `calculate_graph_impact`, if it needs at most as many rounds as there is fuel. -/
def calculateGraphImpact (fuel : ℕ) (graphNodes : List String) (edges : List EdgeIds)
    (interventionNode : String) : Option ℚ :=
  if graphNodes = [] then some 0
  else
    ((impactGraph edges interventionNode).explore fuel [interventionNode] []).map fun descendants ↦
      (descendants.length : ℚ) / graphNodes.length

/-! ## Reachability -/

def IsEdge (edges : List EdgeIds) (source target : String) : Prop :=
  ∃ edge ∈ edges, edge.sourceId = source ∧ edge.targetId = target

/-- A node is reached by at least one edge. -/
def Reachable (edges : List EdgeIds) : String → String → Prop := Relation.TransGen (IsEdge edges)

/-- **Both computations end**, the closures for every order in which sets are gone over: descendants are
what is reached and ancestors what reaches, and the impact is the share of a node with its descendants. -/
structure ReachabilityEnds (orders : Orders Kin String) (edges : List EdgeIds) : Prop where
  closures : ∃ estimator, (∃ enough, ∀ fuel ≥ enough, buildClosures orders fuel edges = some estimator) ∧
    ∀ node other, (other ∈ estimator.descendants node ↔ Reachable edges node other) ∧
      (other ∈ estimator.ancestors node ↔ Reachable edges other node)
  impact : ∀ graphNodes ≠ [], ∀ node, ∃ affected : Finset String,
    (∀ other, other ∈ affected ↔ other = node ∨ Reachable edges node other) ∧
      ∃ enough, ∀ fuel ≥ enough, calculateGraphImpact fuel graphNodes edges node
        = some ((affected.card : ℚ) / (graphNodes.length : ℚ))

/-- The edges of the descendants, and those of the ancestors. -/
def kinEdge (edges : List EdgeIds) : Kin → String → String → Prop
  | .descendants, node, other => IsEdge edges node other
  | .ancestors, node, other => IsEdge edges other node

variable {edges : List EdgeIds} {edge : EdgeIds} {rel : Closures} {kin : Kin} {node other : String}

theorem mem_addEdge :
    other ∈ addEdge rel edge kin node ↔ other ∈ rel kin node ∨ kinEdge [edge] kin node other := by
  rw [addEdge]
  cases kin with
  | descendants =>
    by_cases hnode : node = edge.sourceId
    · simp [Closure.assign, Closure.mem_merge, kinEdge, IsEdge, hnode, eq_comm]
    · simp [Closure.assign, kinEdge, IsEdge, hnode, Ne.symm hnode]
  | ancestors =>
    by_cases hnode : node = edge.targetId
    · simp [Closure.assign, Closure.mem_merge, kinEdge, IsEdge, hnode, eq_comm]
    · simp [Closure.assign, kinEdge, IsEdge, hnode, Ne.symm hnode]

theorem kinEdge_cons : kinEdge (edge :: edges) kin node other ↔
    kinEdge [edge] kin node other ∨ kinEdge edges kin node other := by
  cases kin with
  | descendants => simp [kinEdge, IsEdge]
  | ancestors => simp [kinEdge, IsEdge]

theorem mem_foldl_addEdge : other ∈ edges.foldl addEdge rel kin node ↔
    other ∈ rel kin node ∨ kinEdge edges kin node other := by
  induction edges generalizing rel with
  | nil => cases kin <;> simp [kinEdge, IsEdge]
  | cons edge edges ih => rw [List.foldl_cons, ih, mem_addEdge, or_assoc, ← kinEdge_cons]

theorem mem_directEdges : other ∈ directEdges edges kin node ↔ kinEdge edges kin node other := by
  rw [directEdges, mem_foldl_addEdge, or_iff_right List.not_mem_nil]

theorem mem_closureNodes (h : kinEdge edges kin node other) :
    node ∈ closureNodes edges ∧ other ∈ closureNodes edges := by
  have hends : ∀ source target, IsEdge edges source target →
      source ∈ closureNodes edges ∧ target ∈ closureNodes edges := by
    rintro _ _ ⟨edge, hedge, rfl, rfl⟩
    rw [closureNodes, List.mem_dedup, List.mem_dedup, List.mem_append, List.mem_append]
    exact ⟨.inr (List.mem_map_of_mem hedge), .inl (List.mem_map_of_mem hedge)⟩
  cases kin with
  | descendants => exact hends node other h
  | ancestors => exact (hends other node h).symm

theorem transGen_kinEdge_ancestors :
    Relation.TransGen (kinEdge edges .ancestors) node other ↔ Reachable edges other node :=
  Relation.transGen_swap

theorem exists_buildClosures (orders : Orders Kin String) (edges : List EdgeIds) : ∃ estimator,
    (∃ enough, ∀ fuel ≥ enough, buildClosures orders fuel edges = some estimator) ∧
      ∀ node other, (other ∈ estimator.descendants node ↔ Reachable edges node other) ∧
        (other ∈ estimator.ancestors node ↔ Reachable edges other node) := by
  have hall : ∀ kin, kin ∈ [Kin.descendants, .ancestors] := by
    intro kin
    cases kin <;> decide
  obtain ⟨rel, ⟨enough, hclose⟩, hrel⟩ : ∃ rel,
      (∃ enough, ∀ fuel ≥ enough, Closure.close orders [.descendants, .ancestors]
        (closureNodes edges) fuel 0 (directEdges edges) = some rel) ∧ _ :=
    Closure.exists_close_transGen hall (fun _ _ _ ↦ mem_closureNodes) fun _ _ _ ↦ mem_directEdges
  refine ⟨⟨rel .descendants, rel .ancestors⟩, ⟨enough, fun fuel hfuel ↦ ?_⟩, fun node other ↦ ?_⟩
  · rw [buildClosures, hclose fuel hfuel, Option.map_some]
  · exact ⟨hrel .descendants node other, (hrel .ancestors node other).trans transGen_kinEdge_ancestors⟩

/-! ## The search -/

theorem mem_nextNodes (htargets : ∀ edge ∈ edges, edge.targetId ≠ "") :
    other ∈ nextNodes edges node ↔ IsEdge edges node other := by
  simp only [nextNodes, List.mem_filter, List.mem_map, decide_eq_true_eq]
  constructor
  · rintro ⟨⟨edge, ⟨hedge, hsource⟩, htarget⟩, -⟩
    exact ⟨edge, hedge, hsource, htarget⟩
  · rintro ⟨edge, hedge, hsource, rfl⟩
    exact ⟨⟨edge, ⟨hedge, hsource⟩, rfl⟩, htargets edge hedge⟩

theorem explores_start (edges : List EdgeIds) (node : String) :
    (impactGraph edges node).Explores node [node] [] where
  vertices := fun a ha ↦ List.mem_singleton.mp ha ▸ List.mem_cons_self
  reached := by
    rintro a (ha | ha)
    · exact List.mem_singleton.mp ha ▸ .refl
    · exact absurd ha List.not_mem_nil
  start_mem := .inl List.mem_cons_self
  closed := fun _ ha ↦ absurd ha List.not_mem_nil
  nodup := List.nodup_nil

/-- The impact of a node is the share of what it reaches, and itself. -/
theorem exists_calculateGraphImpact (htargets : ∀ edge ∈ edges, edge.targetId ≠ "")
    {graphNodes : List String} (hnodes : graphNodes ≠ []) (node : String) : ∃ affected : Finset String,
    (∀ other, other ∈ affected ↔ other = node ∨ Reachable edges node other) ∧
      ∃ enough, ∀ fuel ≥ enough, calculateGraphImpact fuel graphNodes edges node
        = some ((affected.card : ℚ) / (graphNodes.length : ℚ)) := by
  obtain ⟨found, ⟨enough, hexplore⟩, hnodup, hfound⟩ :=
    FiniteGraph.exists_explore (explores_start edges node)
  have hedges : (fun a b ↦ b ∈ (impactGraph edges node).next a) = IsEdge edges := by
    funext a b
    exact propext (mem_nextNodes htargets)
  refine ⟨found.toFinset, fun other ↦ ?_, enough, fun fuel hfuel ↦ ?_⟩
  · rw [List.mem_toFinset, hfound, hedges, Relation.reflTransGen_iff_eq_or_transGen]
    rfl
  · rw [calculateGraphImpact, if_neg hnodes, hexplore fuel hfuel, Option.map_some,
      List.toFinset_card_of_nodup hnodup]

/-- **Both computations end and agree**, on all edges with targets. -/
theorem reachability_ends (orders : Orders Kin String) {edges : List EdgeIds}
    (htargets : ∀ edge ∈ edges, edge.targetId ≠ "") : ReachabilityEnds orders edges where
  closures := exists_buildClosures orders edges
  impact := fun _ hnodes node ↦ exists_calculateGraphImpact htargets hnodes node

/-- Sets gone over as they are. -/
def listed : Orders Kin String where
  points _ s := s
  related _ _ _ s := s
  perm_points _ _ := .refl _
  perm_related _ _ _ _ := .refl _

/-- A cycle, a self loop and an edge given twice. -/
theorem reachability_ends_cycle : ReachabilityEnds listed
    [⟨"a", "b"⟩, ⟨"b", "a"⟩, ⟨"b", "b"⟩, ⟨"a", "b"⟩, ⟨"b", "c"⟩] :=
  reachability_ends listed (by decide)

end DriftGuardX.Replay
