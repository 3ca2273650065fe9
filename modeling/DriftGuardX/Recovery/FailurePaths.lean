import DriftGuardX.Recovery.CausalCut

/-!
# The failure paths of a graph

The enumeration returns the simple paths from the source nodes of a graph to the targets, and no other
lists. But the adjacency list has a node as often as there are edges to it, so a path is returned as
often as its edges can be chosen. Hence each is returned once exactly when no edge of a failure path
has another one beside it (`enumeratesOnce_iff`).
-/

namespace DriftGuardX.Recovery

variable {graph : CausalGraph} {sources : List FaultSource} {targets : List FailureTarget}
  {sourceIds : List String} {p : List String}

/-- There is an edge from a node of the graph. -/
def CausalGraph.Edge (graph : CausalGraph) (a b : String) : Prop :=
  a ∈ graph.nodeIds ∧ ∃ e ∈ graph.edges, e.source = a ∧ e.target = b

/-- How many edges there are from one node to another. -/
def CausalGraph.parallel (graph : CausalGraph) (a b : String) : ℕ :=
  graph.edges.countP fun e ↦ e.source = a ∧ e.target = b

/-- A simple directed path from a source that is a node of the graph to a target. -/
structure FailurePath (graph : CausalGraph) (sources : List FaultSource)
    (targets : List FailureTarget) (p : List String) : Prop where
  simple : p.Nodup
  chain : p.IsChain graph.Edge
  source : ∃ s ∈ sources, p.head? = some s.nodeId ∧ s.nodeId ∈ graph.nodeIds
  target : ∃ t ∈ targets, p.getLast? = some t.nodeId

/-- The enumeration returns the failure paths, each of them once. -/
def EnumeratesOnce (graph : CausalGraph) (sources : List FaultSource) (targets : List FailureTarget)
    (sourceIds : List String) : Prop :=
  (∀ p, p ∈ enumeratePaths graph sourceIds targets ↔ FailurePath graph sources targets p) ∧
    ∀ p, FailurePath graph sources targets p →
      (enumeratePaths graph sourceIds targets).count p = 1

/-- No edge on a path has another one beside it. -/
def CausalGraph.Single (graph : CausalGraph) (p : List String) : Prop :=
  p.IsChain fun a b ↦ graph.parallel a b = 1

/-- The vertices that the search goes on to from a node, as often as there are edges to them. -/
theorem CausalGraph.count_next {a b : String} (ha : a ∈ graph.nodeIds) :
    (graph.toFinite.next a).count b = graph.parallel a b := by
  have hnext : graph.toFinite.next a
      = (graph.edges.filter fun e ↦ e.source = a).map GraphEdge.target := by
    change (graph.adj a).getD [] = _
    rw [adj, if_pos ha, Option.getD_some]
  rw [hnext, parallel, List.count_eq_countP, List.countP_map, List.countP_filter]
  refine List.countP_congr fun e _ ↦ ?_
  simp [and_comm]

theorem failurePath_iff (hset : ∀ id, id ∈ sourceIds ↔ ∃ s ∈ sources, s.nodeId = id) :
    FailurePath graph sources targets p ↔
      ∃ s ∈ sourceIds, s ∈ graph.nodeIds ∧ ∃ ext, graph.toFinite.Continues
        (fun curr ↦ curr ∈ targets.map FailureTarget.nodeId) s [s] ext ∧ p = s :: ext := by
  have hedge : ∀ a b, graph.Edge a b ↔ b ∈ graph.toFinite.next a :=
    fun a b ↦ CausalGraph.mem_next_iff.symm
  constructor
  · intro h
    obtain ⟨s, hs, hhead, hnode⟩ := h.source
    obtain ⟨t, ht, hlast⟩ := h.target
    obtain ⟨ext, rfl⟩ := List.head?_eq_some_iff.mp hhead
    obtain ⟨hfresh, hnodup⟩ := List.nodup_cons.mp h.simple
    refine ⟨s.nodeId, (hset _).mpr ⟨s, hs, rfl⟩, hnode, ext, ?_, rfl⟩
    refine FiniteGraph.continues_of_chain (h.chain.imp fun a b ↦ (hedge a b).mp) hnodup
      (fun a ha hmem ↦ ?_) hlast (decide_eq_true (List.mem_map_of_mem ht))
    exact hfresh (List.mem_singleton.mp hmem ▸ ha)
  · rintro ⟨s, hs, hnode, ext, hcontinues, rfl⟩
    obtain ⟨hchain, hnodup, hfresh, last, hlast, htarget⟩ := FiniteGraph.chain_of_continues hcontinues
    obtain ⟨source, hsource, rfl⟩ := (hset s).mp hs
    obtain ⟨t, ht, hteq⟩ := List.mem_map.mp (of_decide_eq_true htarget)
    refine ⟨List.nodup_cons.mpr ⟨fun hmem ↦ ?_, hnodup⟩, hchain.imp fun a b ↦ (hedge a b).mpr,
      ⟨source, hsource, rfl, hnode⟩, t, ht, hteq ▸ hlast⟩
    exact hfresh _ hmem (List.mem_singleton_self _)

theorem mem_enumeratePaths_iff_failurePath
    (hset : ∀ id, id ∈ sourceIds ↔ ∃ s ∈ sources, s.nodeId = id) :
    p ∈ enumeratePaths graph sourceIds targets ↔ FailurePath graph sources targets p := by
  rw [mem_enumeratePaths_iff, failurePath_iff hset]

theorem count_enumeratePaths {s : String} {ext : List String} (hnodup : sourceIds.Nodup)
    (hs : s ∈ sourceIds) (hnode : s ∈ graph.nodeIds) :
    (enumeratePaths graph sourceIds targets).count (s :: ext)
      = graph.toFinite.ways (fun curr ↦ curr ∈ targets.map FailureTarget.nodeId) s [s] ext := by
  -- the search from another source does not find the path
  have hother : ∀ startNode, startNode ≠ s → graph.toFinite.waysTo
      (fun curr ↦ curr ∈ targets.map FailureTarget.nodeId) (s :: ext) (startNode, [startNode]) = 0 := by
    intro startNode hne
    rw [FiniteGraph.waysTo, if_neg]
    exact fun hprefix ↦ hne (List.cons_prefix_cons.mp hprefix).1
  have hself : graph.toFinite.waysTo (fun curr ↦ curr ∈ targets.map FailureTarget.nodeId) (s :: ext)
      (s, [s])
        = graph.toFinite.ways (fun curr ↦ curr ∈ targets.map FailureTarget.nodeId) s [s] ext :=
    FiniteGraph.waysTo_append [s] ext
  have hfold : ∀ found, (sourceIds.foldl (fun allPaths startNode ↦
      if (graph.adj startNode).isNone then allPaths
      else graph.toFinite.search (fun curr ↦ curr ∈ targets.map FailureTarget.nodeId)
        [(startNode, [startNode])] allPaths) found).count (s :: ext)
      = found.count (s :: ext) + if s ∈ sourceIds then
          graph.toFinite.ways (fun curr ↦ curr ∈ targets.map FailureTarget.nodeId) s [s] ext
        else 0 := by
    clear hs
    induction sourceIds with
    | nil => simp
    | cons startNode sourceIds ih =>
      intro found
      obtain ⟨hfresh, hnodup⟩ := List.nodup_cons.mp hnodup
      rw [List.foldl_cons, ih hnodup]
      by_cases heq : startNode = s
      · subst heq
        rw [if_neg hfresh, if_pos List.mem_cons_self, CausalGraph.adj, if_pos hnode,
          if_neg (by simp), FiniteGraph.count_search, List.map_singleton, List.sum_singleton, hself,
          Nat.add_zero]
      · have hmem : s ∈ startNode :: sourceIds ↔ s ∈ sourceIds := by
          rw [List.mem_cons, or_iff_right (Ne.symm heq)]
        simp only [hmem]
        congr 1
        split
        · rfl
        · rw [FiniteGraph.count_search, List.map_singleton, List.sum_singleton, hother _ heq,
            Nat.add_zero]
  rw [enumeratePaths, hfold, List.count_nil, Nat.zero_add, if_pos hs]

/-- Along a chain of edges, the search has one way to go on exactly when the edges are single. -/
theorem isChain_count_iff (h : p.IsChain graph.Edge) :
    p.IsChain (fun a b ↦ (graph.toFinite.next a).count b = 1) ↔ graph.Single p := by
  rw [CausalGraph.Single]
  induction p with
  | nil => simp
  | cons a p ih =>
    cases p with
    | nil => simp
    | cons b p =>
      rw [List.isChain_cons_cons] at h
      rw [List.isChain_cons_cons, List.isChain_cons_cons, ih h.2, CausalGraph.count_next h.1.1]

theorem count_eq_one_iff (hnodup : sourceIds.Nodup)
    (hset : ∀ id, id ∈ sourceIds ↔ ∃ s ∈ sources, s.nodeId = id)
    (h : FailurePath graph sources targets p) :
    (enumeratePaths graph sourceIds targets).count p = 1 ↔ graph.Single p := by
  obtain ⟨s, hs, hnode, ext, hcontinues, rfl⟩ := (failurePath_iff hset).mp h
  rw [count_enumeratePaths hnodup hs hnode, FiniteGraph.ways_eq_one_iff, and_iff_right hcontinues,
    isChain_count_iff h.chain]

/-- **The failure paths.** However the set of source ids is iterated, the enumeration returns the
failure paths, each of them once, exactly when no edge of a failure path has another one beside it. -/
theorem enumeratesOnce_iff (graph : CausalGraph) (sources : List FaultSource)
    (targets : List FailureTarget) (sourceIds : List String) (hnodup : sourceIds.Nodup)
    (hset : ∀ id, id ∈ sourceIds ↔ ∃ s ∈ sources, s.nodeId = id) :
    EnumeratesOnce graph sources targets sourceIds ↔
      ∀ p, FailurePath graph sources targets p → graph.Single p := by
  rw [EnumeratesOnce, and_iff_right fun p ↦ mem_enumeratePaths_iff_failurePath hset]
  exact forall₂_congr fun p hp ↦ count_eq_one_iff hnodup hset hp

/-! ## Two edges side by side -/

theorem enumeratesOnce_sampleGraph :
    (["a"] : List String).Nodup ∧ (∀ id, id ∈ ["a"] ↔ ∃ s ∈ [FaultSource.mk "a"], s.nodeId = id) ∧
      (EnumeratesOnce sampleGraph [⟨"a"⟩] [⟨"d"⟩] ["a"] ↔
        ∀ p, FailurePath sampleGraph [⟨"a"⟩] [⟨"d"⟩] p → sampleGraph.Single p) := by
  have hset : ∀ id, id ∈ ["a"] ↔ ∃ s ∈ [FaultSource.mk "a"], s.nodeId = id := by
    simp [eq_comm]
  exact ⟨by decide, hset, enumeratesOnce_iff sampleGraph [⟨"a"⟩] [⟨"d"⟩] ["a"] (by decide) hset⟩

/-- Two edges from one node to another. -/
def parallelGraph : CausalGraph := ⟨[⟨"a"⟩, ⟨"b"⟩], [⟨"a", "b"⟩, ⟨"a", "b"⟩]⟩

/-- The only path of the graph is returned twice. -/
theorem not_enumeratesOnce_parallelGraph :
    ¬ EnumeratesOnce parallelGraph [⟨"a"⟩] [⟨"b"⟩] ["a"] := by
  intro h
  have hedge : parallelGraph.Edge "a" "b" :=
    ⟨by decide, ⟨"a", "b"⟩, List.mem_cons_self, rfl, rfl⟩
  have hpath : FailurePath parallelGraph [⟨"a"⟩] [⟨"b"⟩] ["a", "b"] :=
    ⟨by decide, List.isChain_cons_cons.mpr ⟨hedge, .singleton "b"⟩,
      ⟨⟨"a"⟩, List.mem_cons_self, rfl, by decide⟩, ⟨⟨"b"⟩, List.mem_cons_self, rfl⟩⟩
  have hcount := h.2 ["a", "b"] hpath
  have htwice : (enumeratePaths parallelGraph ["a"] [⟨"b"⟩]).count ["a", "b"] = 2 := by
    rw [count_enumeratePaths (by decide) List.mem_cons_self (by decide)]
    decide +kernel
  rw [hcount] at htwice
  contradiction

end DriftGuardX.Recovery
