import DriftGuardX.Foundation.ClampedSum
import Mathlib.Algebra.Order.Ring.Rat
import Mathlib.Data.List.Induction
import Mathlib.Data.List.Nodup
import Mathlib.Tactic.Linarith
import Mathlib.Tactic.Ring

/-!
# Diffusion of symptoms

The engine passes the scores of nodes backwards along the edges of a graph, for a number of steps. In a
step each node gets messages from the targets of its edges, and no score exceeds one. The messages are
made from the scores before the step, so a step is a sum that is cut off (`step_eq_pour`), and the
scores are bounded, local, monotone in the symptoms and independent of the order of the edges
(`diffusionHolds`).
-/

namespace DriftGuardX.Diffusion

open ClampedSum

/-! ## The engine -/

/-- What is read of the state of a node. -/
structure NodeState where
  nodeId : String
  localSymptomScore : ℚ

/-- What is read of the features of an edge. -/
structure EdgeFeatures where
  sourceId : String
  targetId : String
  confidence : ℚ
  directionality : ℚ

structure DiffusionInput where
  nodes : List NodeState
  edges : List EdgeFeatures

structure NodeExplanation where
  topInfluentialEdges : List String
  topContributingNeighbors : List String
  propagationDepth : ℕ
  deltaFromLocal : ℚ

structure DiffusionOutput where
  nodeId : String
  rootProbability : ℚ
  symptomProbability : ℚ
  uncertainty : ℚ
  explanation : NodeExplanation

structure GraphDiffusionResult where
  modelVersion : String
  /-- The outputs by node. -/
  nodeOutputs : List (String × DiffusionOutput)
  numSteps : ℕ
  aggregationMethod : String
  normalizationApplied : Bool

/-- A dict of scores, which is read with the default `0.0`. -/
abbrev Scores := String → ℚ

structure MultiAgentDiffusionEngine where
  numSteps : ℕ
  decayFactor : ℚ

/-- Puts an edge to the others with its target. -/
def addEdge (edge : EdgeFeatures) :
    List (String × List EdgeFeatures) → List (String × List EdgeFeatures)
  | [] => [(edge.targetId, [edge])]
  | group :: groups =>
    if group.1 = edge.targetId then (group.1, group.2 ++ [edge]) :: groups
    else group :: addEdge edge groups

/-- `backward_edges`: the edges by their target. -/
def backwardEdges (edges : List EdgeFeatures) : List (String × List EdgeFeatures) :=
  edges.foldl (fun groups edge ↦ addEdge edge groups) []

namespace MultiAgentDiffusionEngine

variable (engine : MultiAgentDiffusionEngine) (input : DiffusionInput)

/-- The message that an edge passes on, of a score of its target. -/
def message (targetScore : ℚ) (edge : EdgeFeatures) : ℚ :=
  let message := targetScore * edge.confidence * engine.decayFactor
  if edge.directionality < 0 then message * (1 / 2) else message

/-- One step of the message passing loop. -/
def step (groups : List (String × List EdgeFeatures)) (scores : Scores) : Scores :=
  groups.foldl (fun newScores group ↦
    let targetScore := scores group.1
    if 0 < targetScore then
      group.2.foldl (fun newScores edge ↦ Function.update newScores edge.sourceId
        (min 1 (newScores edge.sourceId + engine.message targetScore edge))) newScores
    else newScores) scores

/-- The scores at the start. -/
def initialScores (nodes : List NodeState) : Scores :=
  nodes.foldl (fun scores node ↦ Function.update scores node.nodeId node.localSymptomScore)
    fun _ ↦ 0

/-- The scores after a number of steps. -/
def scoresAfter : ℕ → Scores
  | 0 => initialScores input.nodes
  | n + 1 => engine.step (backwardEdges input.edges) (scoresAfter n)

def nodeOutput (scores : Scores) (node : NodeState) : DiffusionOutput :=
  let finalScore := scores node.nodeId
  let influentialEdges :=
    ((((backwardEdges input.edges).lookup node.nodeId).getD []).filter fun edge ↦
      1 / 10 < scores edge.sourceId).map EdgeFeatures.sourceId
  { nodeId := node.nodeId
    rootProbability := min 1 finalScore
    symptomProbability := node.localSymptomScore
    uncertainty := 1 / 10
    explanation := {
      topInfluentialEdges := influentialEdges
      topContributingNeighbors := influentialEdges
      propagationDepth := engine.numSteps
      deltaFromLocal := finalScore - node.localSymptomScore } }

/-- `run_backward_diffusion`. -/
def runBackwardDiffusion : GraphDiffusionResult where
  modelVersion := "v2_diffusion"
  nodeOutputs := input.nodes.map fun node ↦
    (node.nodeId, engine.nodeOutput input (engine.scoresAfter input engine.numSteps) node)
  numSteps := engine.numSteps
  aggregationMethod := "sum_decay"
  normalizationApplied := true

end MultiAgentDiffusionEngine

/-! ## The grouping of edges -/

variable {edges : List EdgeFeatures} {groups : List (String × List EdgeFeatures)}

theorem perm_flatMap_addEdge (edge : EdgeFeatures) :
    ((addEdge edge groups).flatMap Prod.snd).Perm (groups.flatMap Prod.snd ++ [edge]) := by
  induction groups with
  | nil => exact List.Perm.refl _
  | cons group groups ih =>
    rw [addEdge]
    split
    · rw [List.flatMap_cons, List.flatMap_cons, List.append_assoc, List.append_assoc]
      exact List.perm_append_comm.append_left _
    · rw [List.flatMap_cons, List.flatMap_cons, List.append_assoc]
      exact ih.append_left _

theorem perm_backwardEdges (edges : List EdgeFeatures) :
    ((backwardEdges edges).flatMap Prod.snd).Perm edges := by
  induction edges using List.reverseRecOn with
  | nil => exact List.Perm.refl _
  | append_singleton edges edge ih =>
    rw [backwardEdges, List.foldl_concat, ← backwardEdges]
    exact (perm_flatMap_addEdge edge).trans (ih.append_right _)

/-- Each edge of a group has its target. -/
def Grouped (groups : List (String × List EdgeFeatures)) : Prop :=
  ∀ group ∈ groups, ∀ edge ∈ group.2, edge.targetId = group.1

theorem grouped_addEdge (edge : EdgeFeatures) (h : Grouped groups) : Grouped (addEdge edge groups) := by
  induction groups with
  | nil =>
    intro group hgroup e he
    obtain rfl := List.mem_singleton.mp hgroup
    exact congrArg EdgeFeatures.targetId (List.mem_singleton.mp he)
  | cons group groups ih =>
    obtain ⟨hgroup, hrest⟩ := List.forall_mem_cons.mp h
    rw [addEdge]
    split
    case isTrue htarget =>
      refine List.forall_mem_cons.mpr ⟨fun e he ↦ ?_, hrest⟩
      rcases List.mem_append.mp he with he | he
      · exact hgroup e he
      · exact List.mem_singleton.mp he ▸ htarget.symm
    case isFalse => exact List.forall_mem_cons.mpr ⟨hgroup, ih hrest⟩

theorem grouped_backwardEdges (edges : List EdgeFeatures) : Grouped (backwardEdges edges) := by
  induction edges using List.reverseRecOn with
  | nil => exact List.forall_mem_nil _
  | append_singleton edges edge ih =>
    rw [backwardEdges, List.foldl_concat, ← backwardEdges]
    exact grouped_addEdge edge ih

/-! ## A step is a sum that is cut off -/

namespace MultiAgentDiffusionEngine

variable {engine : MultiAgentDiffusionEngine} {input : DiffusionInput} {scores : Scores}

/-- The messages of all edges. -/
def messages (engine : MultiAgentDiffusionEngine) (scores : Scores) (edges : List EdgeFeatures) :
    List (String × ℚ) :=
  edges.map fun edge ↦ (edge.sourceId, engine.message (scores edge.targetId) edge)

theorem message_zero (edge : EdgeFeatures) : engine.message 0 edge = 0 := by
  rw [message]
  split <;> ring

theorem message_mono {x y : ℚ} {edge : EdgeFeatures} (hdecay : 0 ≤ engine.decayFactor)
    (hconfidence : 0 ≤ edge.confidence) (hxy : x ≤ y) :
    engine.message x edge ≤ engine.message y edge := by
  have hle : x * edge.confidence * engine.decayFactor ≤ y * edge.confidence * engine.decayFactor :=
    mul_le_mul_of_nonneg_right (mul_le_mul_of_nonneg_right hxy hconfidence) hdecay
  rw [message, message]
  split
  · linarith
  · exact hle

theorem message_nonneg {x : ℚ} {edge : EdgeFeatures} (hdecay : 0 ≤ engine.decayFactor)
    (hconfidence : 0 ≤ edge.confidence) (hx : 0 ≤ x) : 0 ≤ engine.message x edge :=
  (message_zero edge).symm.trans_le (message_mono hdecay hconfidence hx)

theorem pos_of_message_pos {x : ℚ} {edge : EdgeFeatures} (hdecay : 0 ≤ engine.decayFactor)
    (hconfidence : 0 ≤ edge.confidence) (h : 0 < engine.message x edge) : 0 < x := by
  by_contra hle
  exact absurd ((message_mono hdecay hconfidence (not_lt.mp hle)).trans_eq (message_zero edge))
    (not_le.mpr h)

/-- The messages of a group, none when its target has no score. -/
def groupMessages (engine : MultiAgentDiffusionEngine) (scores : Scores)
    (group : String × List EdgeFeatures) : List (String × ℚ) :=
  if 0 < scores group.1 then
    group.2.map fun edge ↦ (edge.sourceId, engine.message (scores group.1) edge)
  else []

theorem step_eq_pour_groups : engine.step groups scores
    = pour 1 scores (groups.flatMap (engine.groupMessages scores)) := by
  suffices hloop : ∀ newScores : Scores, groups.foldl (fun newScores group ↦
      if 0 < scores group.1 then
        group.2.foldl (fun newScores edge ↦ Function.update newScores edge.sourceId
          (min 1 (newScores edge.sourceId + engine.message (scores group.1) edge))) newScores
      else newScores) newScores
      = pour 1 newScores (groups.flatMap (engine.groupMessages scores)) from hloop scores
  induction groups with
  | nil => exact fun _ ↦ rfl
  | cons group groups ih =>
    intro newScores
    rw [List.foldl_cons, ih, List.flatMap_cons, pour, pour, List.foldl_append]
    congr 1
    rw [groupMessages]
    split
    · rw [List.foldl_map]
    · rfl

theorem inflow_groupMessages (hscores : ∀ id, 0 ≤ scores id) (hgrouped : Grouped groups) (id : String) :
    inflow (groups.flatMap (engine.groupMessages scores)) id
      = inflow (engine.messages scores (groups.flatMap Prod.snd)) id := by
  induction groups with
  | nil => rfl
  | cons group groups ih =>
    obtain ⟨hgroup, hrest⟩ := List.forall_mem_cons.mp hgrouped
    have hmessages : engine.messages scores (group.2 ++ groups.flatMap Prod.snd)
        = engine.messages scores group.2 ++ engine.messages scores (groups.flatMap Prod.snd) :=
      List.map_append
    rw [List.flatMap_cons, List.flatMap_cons, inflow_append, ih hrest, hmessages, inflow_append]
    congr 1
    rw [groupMessages]
    split
    · congr 1
      exact List.map_congr_left fun edge hedge ↦ by rw [hgroup edge hedge]
    case isFalse hzero =>
      have hscore : scores group.1 = 0 := le_antisymm (not_lt.mp hzero) (hscores _)
      refine Eq.symm (inflow_eq_zero fun m hm ↦ ?_)
      obtain ⟨edge, hedge, rfl⟩ := List.mem_map.mp hm
      exact (congrArg (engine.message · edge) ((congrArg scores (hgroup edge hedge)).trans hscore)).trans
        (message_zero edge)

/-- The scores are probabilities. -/
def Bounded (scores : Scores) : Prop := ∀ id, 0 ≤ scores id ∧ scores id ≤ 1

section Steps

variable (hdecay : 0 ≤ engine.decayFactor) (hconfidence : ∀ edge ∈ edges, 0 ≤ edge.confidence)

include hdecay hconfidence

theorem messages_nonneg (hscores : Bounded scores) : ∀ m ∈ engine.messages scores edges, 0 ≤ m.2 := by
  intro m hm
  obtain ⟨edge, hedge, rfl⟩ := List.mem_map.mp hm
  exact message_nonneg hdecay (hconfidence edge hedge) (hscores _).1

/-- **A step** adds the messages of all edges, and cuts off at one. -/
theorem step_eq_pour (hscores : Bounded scores) :
    engine.step (backwardEdges edges) scores = pour 1 scores (engine.messages scores edges) := by
  have hperm : (engine.messages scores ((backwardEdges edges).flatMap Prod.snd)).Perm
      (engine.messages scores edges) := (perm_backwardEdges edges).map _
  have hgroups : ∀ m ∈ (backwardEdges edges).flatMap (engine.groupMessages scores), 0 ≤ m.2 := by
    intro m hm
    obtain ⟨group, hgroup, hm⟩ := List.mem_flatMap.mp hm
    rw [groupMessages] at hm
    split at hm
    · obtain ⟨edge, hedge, rfl⟩ := List.mem_map.mp hm
      have hmem : edge ∈ edges := (perm_backwardEdges edges).mem_iff.mp
        (List.mem_flatMap.mpr ⟨group, hgroup, hedge⟩)
      exact message_nonneg hdecay (hconfidence edge hmem) (hscores _).1
    · exact absurd hm List.not_mem_nil
  funext id
  rw [step_eq_pour_groups, pour_apply (fun k ↦ (hscores k).2) hgroups,
    pour_apply (fun k ↦ (hscores k).2) (messages_nonneg hdecay hconfidence hscores),
    inflow_groupMessages (fun k ↦ (hscores k).1) (grouped_backwardEdges edges), inflow_perm hperm]

theorem bounded_step (hscores : Bounded scores) :
    Bounded (engine.step (backwardEdges edges) scores) := by
  intro id
  have hmessages := messages_nonneg hdecay hconfidence hscores
  rw [step_eq_pour hdecay hconfidence hscores]
  exact ⟨(hscores id).1.trans (le_pour (fun k ↦ (hscores k).2) hmessages),
    pour_le (fun k ↦ (hscores k).2) hmessages⟩

theorem le_step (hscores : Bounded scores) (id : String) :
    scores id ≤ engine.step (backwardEdges edges) scores id := by
  rw [step_eq_pour hdecay hconfidence hscores]
  exact le_pour (fun k ↦ (hscores k).2) (messages_nonneg hdecay hconfidence hscores)

theorem exists_edge_of_lt_step (hscores : Bounded scores) {id : String}
    (hlt : scores id < engine.step (backwardEdges edges) scores id) :
    ∃ edge ∈ edges, edge.sourceId = id ∧ 0 < scores edge.targetId := by
  rw [step_eq_pour hdecay hconfidence hscores, pour_apply (fun k ↦ (hscores k).2)
    (messages_nonneg hdecay hconfidence hscores)] at hlt
  have hinflow : 0 < inflow (engine.messages scores edges) id := by
    have hsum : scores id < scores id + inflow (engine.messages scores edges) id :=
      hlt.trans_le (min_le_right _ _)
    linarith
  obtain ⟨edge, hedge, hsource, hpos⟩ := exists_pos_of_inflow_pos hinflow
  exact ⟨edge, hedge, hsource, pos_of_message_pos hdecay (hconfidence edge hedge) hpos⟩

theorem step_mono {scores' : Scores} (hscores : Bounded scores) (hscores' : Bounded scores')
    (hle : ∀ id, scores id ≤ scores' id) (id : String) :
    engine.step (backwardEdges edges) scores id ≤ engine.step (backwardEdges edges) scores' id := by
  rw [step_eq_pour hdecay hconfidence hscores, step_eq_pour hdecay hconfidence hscores',
    pour_apply (fun k ↦ (hscores k).2) (messages_nonneg hdecay hconfidence hscores),
    pour_apply (fun k ↦ (hscores' k).2) (messages_nonneg hdecay hconfidence hscores')]
  exact min_le_min_left 1 (add_le_add (hle id)
    (inflow_map_le fun edge hedge ↦ message_mono hdecay (hconfidence edge hedge) (hle _)))

theorem step_perm {edges' : List EdgeFeatures} (hperm : edges.Perm edges')
    (hscores : Bounded scores) :
    engine.step (backwardEdges edges') scores = engine.step (backwardEdges edges) scores := by
  have hconfidence' : ∀ edge ∈ edges', 0 ≤ edge.confidence :=
    fun edge hedge ↦ hconfidence edge (hperm.mem_iff.mpr hedge)
  rw [step_eq_pour hdecay hconfidence hscores, step_eq_pour hdecay hconfidence' hscores]
  exact (pour_perm (fun k ↦ (hscores k).2) (messages_nonneg hdecay hconfidence hscores)
    (hperm.map _)).symm

end Steps

/-! ## The scores at the start -/

section Start

variable {nodes nodes' : List NodeState}

theorem initialScores_concat (nodes : List NodeState) (node : NodeState) :
    initialScores (nodes ++ [node])
      = Function.update (initialScores nodes) node.nodeId node.localSymptomScore :=
  List.foldl_concat ..

theorem initialScores_cases (nodes : List NodeState) (id : String) :
    initialScores nodes id = 0 ∨
      ∃ node ∈ nodes, node.nodeId = id ∧ initialScores nodes id = node.localSymptomScore := by
  induction nodes using List.reverseRecOn with
  | nil => exact .inl rfl
  | append_singleton nodes node ih =>
    rw [initialScores_concat, Function.update_apply]
    split
    case isTrue hid => exact .inr ⟨node, List.mem_concat_self, hid.symm, rfl⟩
    case isFalse =>
      refine ih.imp_right fun ⟨other, hother, hid, hscore⟩ ↦ ?_
      exact ⟨other, List.mem_append_left _ hother, hid, hscore⟩

theorem initialScores_of_mem (hids : (nodes.map NodeState.nodeId).Nodup) {node : NodeState}
    (hnode : node ∈ nodes) : initialScores nodes node.nodeId = node.localSymptomScore := by
  induction nodes using List.reverseRecOn with
  | nil => exact absurd hnode List.not_mem_nil
  | append_singleton nodes last ih =>
    rw [List.map_append, List.map_singleton] at hids
    rw [initialScores_concat]
    rcases List.mem_append.mp hnode with hmem | hmem
    · have hne : node.nodeId ≠ last.nodeId := fun heq ↦
        (List.disjoint_of_nodup_append hids) (List.mem_map_of_mem hmem)
          (heq ▸ List.mem_singleton_self _)
      rw [Function.update_of_ne hne]
      exact ih (List.Nodup.of_append_left hids) hmem
    · obtain rfl := List.mem_singleton.mp hmem
      rw [Function.update_self]

theorem bounded_initialScores
    (hscores : ∀ node ∈ nodes, 0 ≤ node.localSymptomScore ∧ node.localSymptomScore ≤ 1) :
    Bounded (initialScores nodes) := by
  intro id
  rcases initialScores_cases nodes id with hzero | ⟨node, hnode, -, hscore⟩
  · rw [hzero]
    exact ⟨le_rfl, zero_le_one⟩
  · rw [hscore]
    exact hscores node hnode

/-- The same nodes, with scores that may be greater. -/
def SymptomsLe (nodes nodes' : List NodeState) : Prop :=
  List.Forall₂ (fun node node' ↦ node.nodeId = node'.nodeId ∧
    node.localSymptomScore ≤ node'.localSymptomScore) nodes nodes'

theorem initialScores_mono (hle : SymptomsLe nodes nodes') (id : String) :
    initialScores nodes id ≤ initialScores nodes' id := by
  suffices hloop : ∀ scores scores' : Scores, (∀ id, scores id ≤ scores' id) → ∀ id,
      nodes.foldl (fun scores node ↦ Function.update scores node.nodeId node.localSymptomScore)
        scores id
      ≤ nodes'.foldl (fun scores node ↦ Function.update scores node.nodeId node.localSymptomScore)
        scores' id from hloop _ _ (fun _ ↦ le_rfl) id
  induction hle with
  | nil => exact fun _ _ h ↦ h
  | cons hnode _ ih =>
    refine fun scores scores' hscores ↦ ih _ _ fun k ↦ ?_
    dsimp only
    rw [Function.update_apply, Function.update_apply, hnode.1]
    split
    · exact hnode.2
    · exact hscores k

theorem map_nodeId_of_symptomsLe (hle : SymptomsLe nodes nodes') :
    nodes'.map NodeState.nodeId = nodes.map NodeState.nodeId := by
  induction hle with
  | nil => rfl
  | cons hnode _ ih => rw [List.map_cons, List.map_cons, hnode.1, ih]

end Start

/-! ## Runs -/

/-- A path of a number of edges. -/
def Path (edges : List EdgeFeatures) : ℕ → String → String → Prop
  | 0, a, b => a = b
  | k + 1, a, b => ∃ edge ∈ edges, edge.sourceId = a ∧ Path edges k edge.targetId b

/-- The probability of a node in the result. -/
def rootProbability (engine : MultiAgentDiffusionEngine) (input : DiffusionInput) (nodeId : String) :
    Option ℚ :=
  ((engine.runBackwardDiffusion input).nodeOutputs.lookup nodeId).map DiffusionOutput.rootProbability

/-- What is assumed of an input. -/
structure WellFormed (input : DiffusionInput) : Prop where
  ids : (input.nodes.map NodeState.nodeId).Nodup
  symptoms : ∀ node ∈ input.nodes, 0 ≤ node.localSymptomScore ∧ node.localSymptomScore ≤ 1
  confidences : ∀ edge ∈ input.edges, 0 ≤ edge.confidence

section Runs

variable (hdecay : 0 ≤ engine.decayFactor) (hinput : WellFormed input)

include hdecay hinput

theorem bounded_scoresAfter (n : ℕ) : Bounded (engine.scoresAfter input n) := by
  induction n with
  | zero => exact bounded_initialScores hinput.symptoms
  | succ n ih => exact bounded_step hdecay hinput.confidences ih

theorem initialScores_le_scoresAfter (n : ℕ) (id : String) :
    initialScores input.nodes id ≤ engine.scoresAfter input n id := by
  induction n with
  | zero => exact le_rfl
  | succ n ih =>
    exact ih.trans (le_step hdecay hinput.confidences (bounded_scoresAfter hdecay hinput n) id)

theorem exists_path_of_lt (n : ℕ) {id : String}
    (hlt : initialScores input.nodes id < engine.scoresAfter input n id) :
    ∃ k origin, 1 ≤ k ∧ k ≤ n ∧ Path input.edges k id origin ∧
      0 < initialScores input.nodes origin := by
  induction n generalizing id with
  | zero => exact absurd hlt (lt_irrefl _)
  | succ n ih =>
    by_cases hbefore : initialScores input.nodes id < engine.scoresAfter input n id
    · obtain ⟨k, origin, hone, hle, hpath, hpos⟩ := ih hbefore
      exact ⟨k, origin, hone, Nat.le_succ_of_le hle, hpath, hpos⟩
    · -- the last step has raised the score
      obtain ⟨edge, hedge, hsource, hpos⟩ := exists_edge_of_lt_step hdecay hinput.confidences
        (bounded_scoresAfter hdecay hinput n) ((not_lt.mp hbefore).trans_lt hlt)
      by_cases htarget : initialScores input.nodes edge.targetId
          < engine.scoresAfter input n edge.targetId
      · obtain ⟨k, origin, -, hle, hpath, horigin⟩ := ih htarget
        exact ⟨k + 1, origin, by omega, by omega, ⟨edge, hedge, hsource, hpath⟩, horigin⟩
      · exact ⟨1, edge.targetId, le_rfl, by omega, ⟨edge, hedge, hsource, rfl⟩,
          hpos.trans_le (not_lt.mp htarget)⟩

theorem scoresAfter_mono {nodes' : List NodeState} (hle : SymptomsLe input.nodes nodes')
    (hinput' : WellFormed { input with nodes := nodes' }) (n : ℕ) (id : String) :
    engine.scoresAfter input n id ≤ engine.scoresAfter { input with nodes := nodes' } n id := by
  induction n generalizing id with
  | zero => exact initialScores_mono hle id
  | succ n ih =>
    exact step_mono hdecay hinput.confidences (bounded_scoresAfter hdecay hinput n)
      (bounded_scoresAfter hdecay hinput' n) ih id

theorem scoresAfter_perm {edges' : List EdgeFeatures} (hperm : input.edges.Perm edges') (n : ℕ) :
    engine.scoresAfter { input with edges := edges' } n = engine.scoresAfter input n := by
  induction n with
  | zero => rfl
  | succ n ih =>
    rw [scoresAfter, ih, scoresAfter]
    exact step_perm hdecay hinput.confidences hperm (bounded_scoresAfter hdecay hinput n)

end Runs

theorem lookup_nodeOutputs (hids : (input.nodes.map NodeState.nodeId).Nodup) {node : NodeState}
    (hnode : node ∈ input.nodes) : (engine.runBackwardDiffusion input).nodeOutputs.lookup node.nodeId
      = some (engine.nodeOutput input (engine.scoresAfter input engine.numSteps) node) := by
  have hlookup : ∀ {nodes : List NodeState} (output : NodeState → DiffusionOutput),
      (nodes.map NodeState.nodeId).Nodup → node ∈ nodes →
      (nodes.map fun node ↦ (node.nodeId, output node)).lookup node.nodeId = some (output node) := by
    intro nodes output hids hnode
    induction nodes with
    | nil => exact absurd hnode List.not_mem_nil
    | cons first nodes ih =>
      obtain ⟨hfirst, hrest⟩ := List.nodup_cons.mp hids
      rw [List.map_cons, List.lookup_cons]
      rcases List.mem_cons.mp hnode with rfl | hmem
      · rw [beq_self_eq_true]
      · have hne : (node.nodeId == first.nodeId) = false :=
          beq_eq_false_iff_ne.mpr fun heq ↦ hfirst (heq ▸ List.mem_map_of_mem hmem)
        rw [hne]
        exact ih hrest hmem
  exact hlookup _ hids hnode

theorem rootProbability_eq (hids : (input.nodes.map NodeState.nodeId).Nodup) {node : NodeState}
    (hnode : node ∈ input.nodes) : engine.rootProbability input node.nodeId
      = some (min 1 (engine.scoresAfter input engine.numSteps node.nodeId)) := by
  rw [rootProbability, lookup_nodeOutputs hids hnode]
  rfl

/-! ## The laws of diffusion -/

/-- The probabilities of the nodes are bounded, local, monotone and independent of the order of the
edges. -/
structure DiffusionHolds (engine : MultiAgentDiffusionEngine) (input : DiffusionInput) : Prop where
  bounded : ∀ node ∈ input.nodes, ∃ p, engine.rootProbability input node.nodeId = some p ∧
    node.localSymptomScore ≤ p ∧ p ≤ 1
  localized : ∀ node ∈ input.nodes, ∀ p, engine.rootProbability input node.nodeId = some p →
    node.localSymptomScore < p → ∃ origin ∈ input.nodes, 0 < origin.localSymptomScore ∧
      ∃ k, 1 ≤ k ∧ k ≤ engine.numSteps ∧ Path input.edges k node.nodeId origin.nodeId
  monotone : ∀ nodes', SymptomsLe input.nodes nodes' →
    (∀ node ∈ nodes', node.localSymptomScore ≤ 1) → ∀ node ∈ input.nodes, ∃ p p',
      engine.rootProbability input node.nodeId = some p ∧
      engine.rootProbability { input with nodes := nodes' } node.nodeId = some p' ∧ p ≤ p'
  unordered : ∀ edges', input.edges.Perm edges' → ∀ node ∈ input.nodes,
    engine.rootProbability { input with edges := edges' } node.nodeId
      = engine.rootProbability input node.nodeId

theorem WellFormed.of_symptomsLe (hinput : WellFormed input) {nodes' : List NodeState}
    (hle : SymptomsLe input.nodes nodes') (hone : ∀ node ∈ nodes', node.localSymptomScore ≤ 1) :
    WellFormed { input with nodes := nodes' } where
  ids := (map_nodeId_of_symptomsLe hle).symm ▸ hinput.ids
  symptoms node' hnode' := by
    obtain ⟨i, hi, rfl⟩ := List.getElem_of_mem hnode'
    have hi' : i < input.nodes.length := hle.length_eq ▸ hi
    have hnode := hle.get hi' hi
    exact ⟨(hinput.symptoms _ (List.getElem_mem hi')).1.trans hnode.2, hone _ hnode'⟩
  confidences := hinput.confidences

/-- **Diffusion is bounded, local, monotone and order-independent.** -/
theorem diffusionHolds (hdecay : 0 ≤ engine.decayFactor) (hinput : WellFormed input) :
    DiffusionHolds engine input where
  bounded node hnode := by
    refine ⟨_, rootProbability_eq hinput.ids hnode, le_min ?_ ?_, min_le_left _ _⟩
    · exact (hinput.symptoms node hnode).2
    · rw [← initialScores_of_mem hinput.ids hnode]
      exact initialScores_le_scoresAfter hdecay hinput _ _
  localized node hnode p hp hlt := by
    obtain rfl := Option.some.inj ((rootProbability_eq hinput.ids hnode).symm.trans hp)
    have hgrown : initialScores input.nodes node.nodeId
        < engine.scoresAfter input engine.numSteps node.nodeId := by
      rw [initialScores_of_mem hinput.ids hnode]
      exact hlt.trans_le (min_le_right _ _)
    obtain ⟨k, origin, hone, hle, hpath, hpos⟩ := exists_path_of_lt hdecay hinput _ hgrown
    rcases initialScores_cases input.nodes origin with hzero | ⟨source, hsource, rfl, hscore⟩
    · exact absurd hpos hzero.not_gt
    · exact ⟨source, hsource, hscore ▸ hpos, k, hone, hle, hpath⟩
  monotone nodes' hle hone node hnode := by
    have hinput' := hinput.of_symptomsLe hle hone
    have hmem : node.nodeId ∈ nodes'.map NodeState.nodeId :=
      (map_nodeId_of_symptomsLe hle).symm ▸ List.mem_map_of_mem hnode
    obtain ⟨node', hnode', hid⟩ := List.mem_map.mp hmem
    refine ⟨_, _, rootProbability_eq hinput.ids hnode, hid ▸ rootProbability_eq hinput'.ids hnode', ?_⟩
    exact min_le_min_left 1 (scoresAfter_mono hdecay hinput hle hinput' _ _)
  unordered edges' hperm node hnode := by
    let reordered : DiffusionInput := { input with edges := edges' }
    have hids : (reordered.nodes.map NodeState.nodeId).Nodup := hinput.ids
    have hreordered : engine.rootProbability reordered node.nodeId
        = some (min 1 (engine.scoresAfter reordered engine.numSteps node.nodeId)) :=
      rootProbability_eq hids hnode
    have hscores : engine.scoresAfter reordered engine.numSteps
        = engine.scoresAfter input engine.numSteps := scoresAfter_perm hdecay hinput hperm _
    rw [hreordered, hscores, rootProbability_eq hinput.ids hnode]

/-- A cycle with a parallel edge and an edge to a node that is not listed. -/
theorem diffusionHolds_cycle : DiffusionHolds ⟨3, 17 / 20⟩
    ⟨[⟨"a", 0⟩, ⟨"b", 1 / 2⟩],
      [⟨"a", "b", 1, 1⟩, ⟨"b", "a", 1, -1⟩, ⟨"a", "b", 1 / 2, 1⟩, ⟨"a", "c", 1, 1⟩]⟩ :=
  diffusionHolds (by decide +kernel) ⟨by decide, by decide +kernel, by decide +kernel⟩

end MultiAgentDiffusionEngine

end DriftGuardX.Diffusion
