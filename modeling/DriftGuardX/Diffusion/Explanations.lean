import DriftGuardX.Diffusion.Engine

/-!
# Contributing neighbours

An explanation lists as contributing neighbours of a node the sources of the edges to it whose scores
are above a tenth at the end. But scores are passed on from the target of an edge to its source, so these
are the nodes that the node passes its own score on to. A neighbour that is listed has contributed only
where there is an edge back (`contributes_iff`).
-/

namespace DriftGuardX.Diffusion

open ClampedSum

namespace MultiAgentDiffusionEngine

variable (engine : MultiAgentDiffusionEngine) (input : DiffusionInput)

/-- The neighbours that the explanation of a node lists. -/
def contributingNeighbors (nodeId : String) : List String :=
  (((engine.runBackwardDiffusion input).nodeOutputs.lookup nodeId).map fun output ↦
    output.explanation.topContributingNeighbors).getD []

/-- **A neighbour has contributed** to the score of a node: in some step an edge has passed a positive
message on from it, and the score of the node was raised. -/
structure Contributes (node : NodeState) (neighbor : String) : Prop where
  sent : ∃ k < engine.numSteps, ∃ edge ∈ input.edges, edge.sourceId = node.nodeId ∧
    edge.targetId = neighbor ∧ 0 < engine.message (engine.scoresAfter input k edge.targetId) edge
  raised : node.localSymptomScore < engine.scoresAfter input engine.numSteps node.nodeId

/-- A path of a number of edges with positive confidence. -/
def PositivePath (edges : List EdgeFeatures) : ℕ → String → String → Prop
  | 0, a, b => a = b
  | k + 1, a, b => ∃ edge ∈ edges, edge.sourceId = a ∧ 0 < edge.confidence ∧
      PositivePath edges k edge.targetId b

/-- There is an edge from the node to the neighbour that passes something on, and a symptom has reached
the neighbour before the last step; and the score of the node can be raised. -/
structure Reciprocated (node : NodeState) (neighbor : String) : Prop where
  unsaturated : node.localSymptomScore < 1
  decays : 0 < engine.decayFactor
  edge : ∃ edge ∈ input.edges, edge.sourceId = node.nodeId ∧ edge.targetId = neighbor ∧
    0 < edge.confidence
  symptom : ∃ k < engine.numSteps, ∃ origin ∈ input.nodes, 0 < origin.localSymptomScore ∧
    PositivePath input.edges k neighbor origin.nodeId

/-! ## Positive scores -/

variable {engine input} {scores : Scores}

theorem message_pos_iff {x : ℚ} {edge : EdgeFeatures} (hdecay : 0 ≤ engine.decayFactor)
    (hconfidence : 0 ≤ edge.confidence) :
    0 < engine.message x edge ↔ 0 < x ∧ 0 < edge.confidence ∧ 0 < engine.decayFactor := by
  constructor
  · intro h
    refine ⟨pos_of_message_pos hdecay hconfidence h, ?_, ?_⟩
    · refine hconfidence.lt_of_ne fun hzero ↦ ?_
      rw [message, ← hzero] at h
      simp at h
    · refine hdecay.lt_of_ne fun hzero ↦ ?_
      rw [message, ← hzero] at h
      simp at h
  · rintro ⟨hx, hedge, hfactor⟩
    rw [message]
    split <;> positivity

theorem initialScores_pos_iff (hids : (input.nodes.map NodeState.nodeId).Nodup) {id : String} :
    0 < initialScores input.nodes id ↔
      ∃ origin ∈ input.nodes, 0 < origin.localSymptomScore ∧ id = origin.nodeId := by
  constructor
  · intro h
    obtain hzero | ⟨node, hnode, hid, hscore⟩ := initialScores_cases input.nodes id
    · exact absurd h hzero.not_gt
    · exact ⟨node, hnode, hscore ▸ h, hid.symm⟩
  · rintro ⟨origin, horigin, hpos, rfl⟩
    rwa [initialScores_of_mem hids horigin]

/-- A score is positive after a step exactly when it was before or there is a positive message. -/
theorem step_pos_iff {edges : List EdgeFeatures} (hdecay : 0 ≤ engine.decayFactor)
    (hconfidence : ∀ edge ∈ edges, 0 ≤ edge.confidence) (hscores : Bounded scores) {id : String} :
    0 < engine.step (backwardEdges edges) scores id ↔ 0 < scores id ∨ ∃ edge ∈ edges,
      edge.sourceId = id ∧ 0 < engine.message (scores edge.targetId) edge := by
  have hmessages := messages_nonneg hdecay hconfidence hscores
  have hinflow : 0 < inflow (engine.messages scores edges) id ↔ _ := inflow_pos_iff fun edge hedge ↦
    message_nonneg hdecay (hconfidence edge hedge) (hscores _).1
  rw [step_eq_pour hdecay hconfidence hscores, pour_apply (fun k ↦ (hscores k).2) hmessages, lt_min_iff,
    and_iff_right one_pos, ← hinflow]
  have hold := (hscores id).1
  have hnew := inflow_nonneg (k := id) hmessages
  constructor
  · intro h
    by_contra hnot
    rw [not_or, not_lt, not_lt] at hnot
    linarith
  · rintro (h | h)
    · linarith
    · linarith

section Runs

variable (hdecay : 0 ≤ engine.decayFactor) (hinput : WellFormed input)

include hdecay hinput

theorem scoresAfter_le {k n : ℕ} (hle : k ≤ n) (id : String) :
    engine.scoresAfter input k id ≤ engine.scoresAfter input n id := by
  induction n, hle using Nat.le_induction with
  | base => exact le_rfl
  | succ n _ ih =>
    exact ih.trans (le_step hdecay hinput.confidences (bounded_scoresAfter hdecay hinput n) id)

theorem scoresAfter_pos_succ_iff (n : ℕ) {id : String} : 0 < engine.scoresAfter input (n + 1) id ↔
    0 < engine.scoresAfter input n id ∨ ∃ edge ∈ input.edges, edge.sourceId = id ∧
      0 < engine.message (engine.scoresAfter input n edge.targetId) edge :=
  step_pos_iff hdecay hinput.confidences (bounded_scoresAfter hdecay hinput n)

theorem scoresAfter_pos_iff (hpositive : 0 < engine.decayFactor) (n : ℕ) {id : String} :
    0 < engine.scoresAfter input n id ↔ ∃ k ≤ n, ∃ origin ∈ input.nodes,
      0 < origin.localSymptomScore ∧ PositivePath input.edges k id origin.nodeId := by
  induction n generalizing id with
  | zero => exact (initialScores_pos_iff hinput.ids).trans (by simp [PositivePath])
  | succ n ih =>
    rw [scoresAfter_pos_succ_iff hdecay hinput, ih]
    constructor
    · rintro (⟨k, hk, horigin⟩ | ⟨edge, hedge, hsource, hmessage⟩)
      · exact ⟨k, Nat.le_succ_of_le hk, horigin⟩
      · obtain ⟨hscore, hconfidence, -⟩ :=
          (message_pos_iff hdecay (hinput.confidences edge hedge)).mp hmessage
        obtain ⟨k, hk, origin, horigin, hsymptom, hpath⟩ := ih.mp hscore
        exact ⟨k + 1, Nat.succ_le_succ hk, origin, horigin, hsymptom, edge, hedge, hsource,
          hconfidence, hpath⟩
    · rintro ⟨k, hk, origin, horigin, hsymptom, hpath⟩
      cases k with
      | zero => exact .inl ⟨0, Nat.zero_le n, origin, horigin, hsymptom, hpath⟩
      | succ k =>
        obtain ⟨edge, hedge, hsource, hconfidence, hpath⟩ := hpath
        refine .inr ⟨edge, hedge, hsource, ?_⟩
        refine (message_pos_iff hdecay (hinput.confidences edge hedge)).mpr ⟨?_, hconfidence, hpositive⟩
        exact ih.mpr ⟨k, Nat.le_of_succ_le_succ hk, origin, horigin, hsymptom, hpath⟩

theorem lt_scoresAfter_succ (n : ℕ) {edge : EdgeFeatures} (hedge : edge ∈ input.edges)
    (hmessage : 0 < engine.message (engine.scoresAfter input n edge.targetId) edge)
    (hone : engine.scoresAfter input n edge.sourceId < 1) :
    engine.scoresAfter input n edge.sourceId < engine.scoresAfter input (n + 1) edge.sourceId := by
  have hbounded := bounded_scoresAfter hdecay hinput n
  have hmessages := messages_nonneg hdecay hinput.confidences hbounded
  have hinflow : 0 < inflow (engine.messages (engine.scoresAfter input n) input.edges) edge.sourceId :=
    (inflow_pos_iff fun e he ↦ message_nonneg hdecay (hinput.confidences e he) (hbounded _).1).mpr
      ⟨edge, hedge, rfl, hmessage⟩
  rw [scoresAfter, step_eq_pour hdecay hinput.confidences hbounded,
    pour_apply (fun k ↦ (hbounded k).2) hmessages]
  exact lt_min hone (lt_add_of_pos_right _ hinflow)

/-- A neighbour of a node has sent a message exactly when there is an edge for it, and a symptom has
reached the neighbour before the last step. -/
theorem sent_iff {node : NodeState} {neighbor : String} :
    (∃ k < engine.numSteps, ∃ edge ∈ input.edges, edge.sourceId = node.nodeId ∧
      edge.targetId = neighbor ∧ 0 < engine.message (engine.scoresAfter input k edge.targetId) edge) ↔
    0 < engine.decayFactor ∧
      (∃ edge ∈ input.edges, edge.sourceId = node.nodeId ∧ edge.targetId = neighbor ∧
        0 < edge.confidence) ∧
      ∃ k < engine.numSteps, ∃ origin ∈ input.nodes, 0 < origin.localSymptomScore ∧
        PositivePath input.edges k neighbor origin.nodeId := by
  constructor
  · rintro ⟨n, hn, edge, hedge, hsource, rfl, hmessage⟩
    obtain ⟨hscore, hconfidence, hpositive⟩ :=
      (message_pos_iff hdecay (hinput.confidences edge hedge)).mp hmessage
    obtain ⟨k, hk, horigin⟩ := (scoresAfter_pos_iff hdecay hinput hpositive n).mp hscore
    exact ⟨hpositive, ⟨edge, hedge, hsource, rfl, hconfidence⟩, k, hk.trans_lt hn, horigin⟩
  · rintro ⟨hpositive, ⟨edge, hedge, hsource, rfl, hconfidence⟩, k, hk, horigin⟩
    refine ⟨k, hk, edge, hedge, hsource, rfl, ?_⟩
    refine (message_pos_iff hdecay (hinput.confidences edge hedge)).mpr ⟨?_, hconfidence, hpositive⟩
    exact (scoresAfter_pos_iff hdecay hinput hpositive k).mpr ⟨k, le_rfl, horigin⟩

/-- **A listed neighbour has contributed exactly when** there is an edge back to it. -/
theorem contributes_iff {node : NodeState} (hnode : node ∈ input.nodes) :
    ∀ neighbor ∈ engine.contributingNeighbors input node.nodeId,
      (engine.Contributes input node neighbor ↔ engine.Reciprocated input node neighbor) := by
  intro neighbor _
  have hinitial := initialScores_of_mem hinput.ids hnode
  constructor
  · rintro ⟨hsent, hraised⟩
    obtain ⟨hpositive, hedge, hsymptom⟩ := (sent_iff hdecay hinput).mp hsent
    exact ⟨hraised.trans_le (bounded_scoresAfter hdecay hinput _ _).2, hpositive, hedge, hsymptom⟩
  · rintro ⟨hone, hpositive, hedge, hsymptom⟩
    have hsent := (sent_iff hdecay hinput).mpr ⟨hpositive, hedge, hsymptom⟩
    refine ⟨hsent, ?_⟩
    obtain ⟨k, hk, edge, hmem, hsource, -, hmessage⟩ := hsent
    rw [← hinitial, ← hsource] at hone ⊢
    have hsofar := initialScores_le_scoresAfter hdecay hinput k edge.sourceId
    by_cases hfull : engine.scoresAfter input k edge.sourceId < 1
    · calc initialScores input.nodes edge.sourceId
          ≤ engine.scoresAfter input k edge.sourceId := hsofar
        _ < engine.scoresAfter input (k + 1) edge.sourceId :=
          lt_scoresAfter_succ hdecay hinput k hmem hmessage hfull
        _ ≤ engine.scoresAfter input engine.numSteps edge.sourceId :=
          scoresAfter_le hdecay hinput hk _
    · calc initialScores input.nodes edge.sourceId < 1 := hone
        _ ≤ engine.scoresAfter input k edge.sourceId := not_lt.mp hfull
        _ ≤ engine.scoresAfter input engine.numSteps edge.sourceId :=
          scoresAfter_le hdecay hinput hk.le _

end Runs

/-! ### Two nodes -/

/-- Two nodes with edges both ways. -/
def exchange : DiffusionInput :=
  ⟨[⟨"a", 1 / 5⟩, ⟨"b", 1 / 2⟩], [⟨"a", "b", 1, 1⟩, ⟨"b", "a", 1, 1⟩]⟩

theorem contributes_iff_exchange :
    Contributes ⟨1, 17 / 20⟩ exchange ⟨"a", 1 / 5⟩ "b" ↔
      Reciprocated ⟨1, 17 / 20⟩ exchange ⟨"a", 1 / 5⟩ "b" :=
  @contributes_iff ⟨1, 17 / 20⟩ exchange (by decide +kernel)
    ⟨by decide, by decide +kernel, by decide +kernel⟩ ⟨"a", 1 / 5⟩ List.mem_cons_self "b"
    (by decide +kernel)

/-- The source of the only edge, to a node without a symptom, is listed though it has sent nothing. -/
theorem not_contributes_source :
    "b" ∈ contributingNeighbors ⟨3, 17 / 20⟩
      ⟨[⟨"a", 0⟩, ⟨"b", 1 / 2⟩], [⟨"b", "a", 1, 1⟩]⟩ "a" ∧
    ¬ Contributes ⟨3, 17 / 20⟩ ⟨[⟨"a", 0⟩, ⟨"b", 1 / 2⟩], [⟨"b", "a", 1, 1⟩]⟩ ⟨"a", 0⟩ "b" := by
  refine ⟨by decide +kernel, fun h ↦ ?_⟩
  obtain ⟨k, -, edge, hedge, hsource, -⟩ := h.sent
  obtain rfl := List.mem_singleton.mp hedge
  exact absurd hsource (by decide)

end MultiAgentDiffusionEngine

end DriftGuardX.Diffusion
