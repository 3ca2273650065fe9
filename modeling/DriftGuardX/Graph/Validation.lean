import DriftGuardX.Foundation.DepthFirst
import DriftGuardX.Graph.Contracts

/-!
# Validation of causal graphs

The validator rejects graphs with a node without edges and graphs with a cycle of causal edges. An edge
is causal unless it is a memory influence or a retry, and it counts when it starts at a node; its target
may be anything. The search for cycles recurses as deep as a path is long, and where that is possible it
is exact (`cycleDetectionExact`).
-/

namespace DriftGuardX.Graph

inductive GraphError where
  | graphValidationError (message : String)
  deriving DecidableEq, Repr

variable {F : Type}

/-! ## The checks -/

def checkOrphans (graph : CausalGraph F) : Except GraphError Unit :=
  if graph.nodes.length ≤ 1 then .ok ()
  else
    match graph.nodes.find? fun node ↦
      decide (∀ edge ∈ graph.edges, edge.source ≠ node.id ∧ edge.target ≠ node.id) with
    | some node => .error (.graphValidationError ("Orphan node detected: " ++ node.id))
    | none => .ok ()

/-- Memory loops and retries may be cycles. -/
def GraphEdge.causal (edge : GraphEdge) : Bool :=
  edge.type ∉ [EdgeType.memoryInfluence, .retryFallback]

/-- `adj`, where an unknown id has no neighbours. -/
def CausalGraph.adj (graph : CausalGraph F) (id : String) : List String :=
  if id ∈ graph.nodeIds then
    (graph.edges.filter fun edge ↦ edge.causal ∧ edge.source = id).map GraphEdge.target
  else []

/-- The causal edges between the ids that occur. -/
def CausalGraph.causalEdges (graph : CausalGraph F) : FiniteGraph String where
  next := graph.adj
  vertices := graph.nodeIds ++ graph.edges.map GraphEdge.target
  width := graph.edges.length
  closed := by
    intro id target h
    rw [CausalGraph.adj] at h
    split at h
    · obtain ⟨edge, hedge, rfl⟩ := List.mem_map.mp h
      exact List.mem_append_right _ (List.mem_map_of_mem (List.mem_filter.mp hedge).1)
    · exact absurd h List.not_mem_nil
  bounded := by
    intro id
    rw [CausalGraph.adj]
    split
    · rw [List.length_map]
      exact List.length_filter_le _ _
    · exact Nat.zero_le _

/-- `_check_cycles`, if its recursion is at most as deep as given. -/
def checkCycles (depth : ℕ) (graph : CausalGraph F) : Option (Except GraphError Unit) :=
  (graph.causalEdges.findCycle depth graph.nodeIds ⟨[], []⟩).map fun found ↦
    if found then .error (.graphValidationError "Illegal causal cycle detected in DAG.") else .ok ()

/-- `validate`. -/
def validate (depth : ℕ) (graph : CausalGraph F) : Option (Except GraphError Bool) :=
  match checkOrphans graph with
  | .error e => some (.error e)
  | .ok _ => (checkCycles depth graph).map fun result ↦ result.map fun _ ↦ true

/-! ## Exactness -/

/-- There is an edge from a node that is neither a memory influence nor a retry. -/
def CausalGraph.CausalEdge (graph : CausalGraph F) (source target : String) : Prop :=
  source ∈ graph.nodeIds ∧ ∃ edge ∈ graph.edges, edge.type ≠ .memoryInfluence ∧
    edge.type ≠ .retryFallback ∧ edge.source = source ∧ edge.target = target

def CausalGraph.HasCycle (graph : CausalGraph F) : Prop :=
  ∃ id, Relation.TransGen graph.CausalEdge id id

/-- **The search for cycles ends**, and raises exactly for a cycle. -/
def CycleDetectionExact (graph : CausalGraph F) : Prop :=
  ∃ result, (∃ enough, ∀ depth ≥ enough, checkCycles depth graph = some result) ∧
    ((∃ message, result = .error (.graphValidationError message)) ↔ graph.HasCycle)

theorem edge_causalEdges {graph : CausalGraph F} :
    graph.causalEdges.Edge = graph.CausalEdge := by
  funext source target
  refine propext ⟨fun h ↦ ?_, fun ⟨hsource, edge, hedge, hmemory, hretry, hs, ht⟩ ↦ ?_⟩
  · have hadj : target ∈ graph.adj source := h
    rw [CausalGraph.adj] at hadj
    split at hadj
    · rename_i hsource
      obtain ⟨edge, hedge, rfl⟩ := List.mem_map.mp hadj
      obtain ⟨hmem, hcausal⟩ := List.mem_filter.mp hedge
      simp only [GraphEdge.causal, List.mem_cons, List.not_mem_nil, or_false, not_or,
        decide_eq_true_eq] at hcausal
      exact ⟨hsource, edge, hmem, hcausal.1.1, hcausal.1.2, hcausal.2, rfl⟩
    · exact absurd hadj List.not_mem_nil
  · show target ∈ graph.adj source
    rw [CausalGraph.adj, if_pos hsource]
    refine List.mem_map.mpr ⟨edge, List.mem_filter.mpr ⟨hedge, ?_⟩, ht⟩
    simp [GraphEdge.causal, hmemory, hretry, hs]

/-- A recursion as deep as there are ids ends, and finds a cycle if there is one. -/
theorem exists_checkCycles (graph : CausalGraph F) {depth : ℕ}
    (hdepth : graph.causalEdges.vertices.length ≤ depth) : ∃ found : Bool,
    checkCycles depth graph = some (if found then
      .error (.graphValidationError "Illegal causal cycle detected in DAG.") else .ok ()) ∧
    (found ↔ graph.HasCycle) := by
  have hnodes : ∀ id ∈ graph.nodeIds, id ∈ graph.causalEdges.vertices :=
    fun id hid ↦ List.mem_append_left _ hid
  have hsources : ∀ id, graph.causalEdges.next id ≠ [] → id ∈ graph.nodeIds := by
    intro id hne
    by_contra hid
    exact hne (if_neg hid)
  have hcycle : graph.HasCycle ↔ ∃ id, graph.causalEdges.OnCycle id := by
    rw [CausalGraph.HasCycle, ← edge_causalEdges]
    rfl
  obtain ⟨found, hfound, hiff⟩ := FiniteGraph.findCycle_eq_some hnodes hsources hdepth
  exact ⟨found, by rw [checkCycles, hfound, Option.map_some], hiff.trans hcycle.symm⟩

theorem checkCycles_of_hasCycle {graph : CausalGraph F} (h : graph.HasCycle) {depth : ℕ}
    (hdepth : graph.causalEdges.vertices.length ≤ depth) : checkCycles depth graph
      = some (.error (.graphValidationError "Illegal causal cycle detected in DAG.")) := by
  obtain ⟨found, hresult, hiff⟩ := exists_checkCycles graph hdepth
  rw [hresult, if_pos (hiff.mpr h)]

theorem checkCycles_of_not_hasCycle {graph : CausalGraph F} (h : ¬ graph.HasCycle) {depth : ℕ}
    (hdepth : graph.causalEdges.vertices.length ≤ depth) :
    checkCycles depth graph = some (.ok ()) := by
  obtain ⟨found, hresult, hiff⟩ := exists_checkCycles graph hdepth
  rw [hresult, if_neg fun hfound ↦ h (hiff.mp hfound)]

/-- **Cycle detection is exact**, for every graph. -/
theorem cycleDetectionExact (graph : CausalGraph F) : CycleDetectionExact graph := by
  by_cases h : graph.HasCycle
  · exact ⟨_, ⟨_, fun _ ↦ checkCycles_of_hasCycle h⟩, iff_of_true ⟨_, rfl⟩ h⟩
  · exact ⟨_, ⟨_, fun _ ↦ checkCycles_of_not_hasCycle h⟩, iff_of_false (by simp) h⟩

example : checkCycles (F := Empty) 3 ⟨0, 0, [⟨"a", .agent, "", false, none, none, []⟩],
    [⟨"a->a", "a", "a", .controlFlow, "calls"⟩], "v1", ""⟩
      = some (.error (.graphValidationError "Illegal causal cycle detected in DAG.")) := by decide

end DriftGuardX.Graph
