import DriftGuardX.Foundation.Digest
import DriftGuardX.Foundation.KeyTable
import DriftGuardX.Graph.Validation
import DriftGuardX.Trace.SpanChain

/-!
# The graph of a trace

The builder goes twice over the spans. The first time it adds a node for each span and one for its
version, the second time the calls, the memories and the agents that spans refer to. Each step adds some
nodes and edges that depend on its span alone (`Adds`), so the ids of the nodes and the edges of the
graph are those of the single spans (`adds_build`), and the rest is read off from these: the graph is
well formed (`wellFormed_build`), and neither its ids nor its edges depend on the order of the spans.
-/

namespace DriftGuardX.Graph

open Json
open Isolation (Uuid)
open Replay (ComponentType uuidText)
open Trace (SpanRecord TraceArtifact TraceLibrary)

variable {F V : Type}

/-! ## The builder -/

def builderVersion : String := "v1.0"

/-- `_map_component_to_node_type`. -/
def mapComponentToNodeType : Option ComponentType → NodeType
  | none => .operationalResource
  | some componentType =>
    let mapping := [("retriever", NodeType.retriever), ("generator", .model), ("prompt", .prompt),
      ("tool_call", .tool), ("guardrail", .guardrail), ("policy", .policy), ("agent", .agent)]
    ((mapping.find? fun m ↦ m.1 = componentType.value.toLower).map Prod.snd).getD .operationalResource

def eventId (spanId : String) : String := "event:" ++ spanId

def versionNodeId (versionId : Uuid) : String := "version:" ++ uuidText versionId

def memoryNodeId (memId : String) : String := "memory:" ++ memId

def agentNodeId (targetAgentId : String) : String := "agent:" ++ targetAgentId

/-- The nodes and edges so far. -/
structure Draft (F : Type) where
  nodes : KeyTable (GraphNode.id (F := F))
  edges : List GraphEdge

def Draft.empty : Draft F := ⟨.empty, []⟩

def Draft.nodeIds (draft : Draft F) : List String := draft.nodes.rows.map GraphNode.id

/-- A node takes the place of one with its id. -/
def Draft.setNode (draft : Draft F) (node : GraphNode F) : Draft F :=
  { draft with nodes := draft.nodes.put node }

/-- A node is added if there is none with its id. -/
def Draft.addMissing (draft : Draft F) (node : GraphNode F) : Draft F :=
  { draft with nodes := draft.nodes.insertIfAbsent node }

def Draft.append (draft : Draft F) (edge : GraphEdge) : Draft F :=
  { draft with edges := draft.edges ++ [edge] }

def edgeBetween (source target : String) (type : EdgeType) (label : String) : GraphEdge where
  id := source ++ "->" ++ target
  source := source
  target := target
  type := type
  label := label

section Build

variable (lib : TraceLibrary F V) (registry : Uuid → Uuid → Option String) (trace : TraceArtifact F V)

/-- The value of an attribute, as a text. -/
def attributeText (span : SpanRecord F V) (key : String) : Option String :=
  (span.attributes.find? fun m ↦ m.1 = key).map fun m ↦ lib.str m.2

/-- The state of the version, if there is one and the registry knows it, and the latency. -/
def features (span : SpanRecord F V) : List (String × Val F) :=
  ((span.componentVersionId.bind (registry trace.tenantId)).map fun state ↦
    ("state", Val.str state)).toList ++
  (span.latencyMs.map fun latencyMs ↦ ("latency_ms", Val.float latencyMs)).toList

def eventNode (span : SpanRecord F V) : GraphNode F where
  id := eventId span.spanId
  type := mapComponentToNodeType span.componentType
  label := if span.name = "" then "unnamed_span" else span.name
  isVersioned := span.componentVersionId.isSome
  versionId := span.componentVersionId
  spanId := some span.spanId
  features := features registry trace span

def versionNode (span : SpanRecord F V) (versionId : Uuid) : GraphNode F where
  id := versionNodeId versionId
  type := mapComponentToNodeType span.componentType
  label := span.name ++ " (v)"
  isVersioned := true
  versionId := some versionId
  spanId := none
  features := features registry trace span

def memoryNode (memId : String) : GraphNode F where
  id := memoryNodeId memId
  type := .memory
  label := "Memory Store"
  isVersioned := false
  versionId := none
  spanId := none
  features := []

def agentNode (targetAgentId : String) : GraphNode F where
  id := agentNodeId targetAgentId
  type := .agent
  label := "Agent (" ++ targetAgentId ++ ")"
  isVersioned := false
  versionId := none
  spanId := none
  features := []

def lineageEdge (span : SpanRecord F V) (versionId : Uuid) : GraphEdge :=
  edgeBetween (eventId span.spanId) (versionNodeId versionId) .versionLineage "instance_of"

def callEdge (span : SpanRecord F V) (parentId : String) : GraphEdge :=
  edgeBetween (eventId parentId) (eventId span.spanId) .controlFlow "calls"

def recallEdge (span : SpanRecord F V) (memId : String) : GraphEdge :=
  edgeBetween (memoryNodeId memId) (eventId span.spanId) .memoryInfluence "recalls"

def messageEdge (span : SpanRecord F V) (targetAgentId : String) : GraphEdge :=
  edgeBetween (eventId span.spanId) (agentNodeId targetAgentId) .interAgentCommunication "messages"

/-- The first pass over a span. -/
def addSpan (draft : Draft F) (span : SpanRecord F V) : Draft F :=
  let draft := draft.setNode (eventNode registry trace span)
  match span.componentVersionId with
  | none => draft
  | some versionId =>
    (draft.addMissing (versionNode registry trace span versionId)).append (lineageEdge span versionId)

def connectParent (draft : Draft F) (span : SpanRecord F V) : Draft F :=
  match span.parentSpanId with
  | none => draft
  | some parentId =>
    if parentId ≠ "" ∧ parentId ∈ trace.spans.map SpanRecord.spanId then
      draft.append (callEdge span parentId)
    else draft

def connectMemory (draft : Draft F) (span : SpanRecord F V) : Draft F :=
  match attributeText lib span "dgx.memory.referenced" with
  | none => draft
  | some memId => (draft.append (recallEdge span memId)).addMissing (memoryNode memId)

def connectAgent (draft : Draft F) (span : SpanRecord F V) : Draft F :=
  match attributeText lib span "dgx.agent.message_to" with
  | none => draft
  | some targetAgentId =>
    (draft.append (messageEdge span targetAgentId)).addMissing (agentNode targetAgentId)

/-- The second pass over a span. -/
def connectSpan (draft : Draft F) (span : SpanRecord F V) : Draft F :=
  connectAgent lib (connectMemory lib (connectParent trace draft span) span) span

def draftOf : Draft F :=
  trace.spans.foldl (connectSpan lib trace) (trace.spans.foldl (addSpan registry trace) .empty)

/-- `build`. A trace has no digest of its own. -/
def build : CausalGraph F where
  tenantId := trace.tenantId
  runId := trace.runId
  nodes := (draftOf lib registry trace).nodes.rows
  edges := (draftOf lib registry trace).edges
  builderVersion := builderVersion
  traceDigest := "unknown"

/-! ## What is built -/

/-- A span of the trace has the other one as its parent, and that is in the trace as well. -/
def IsParent (parentId spanId : String) : Prop :=
  parentId ∈ trace.spans.map SpanRecord.spanId ∧
    ∃ span ∈ trace.spans, span.spanId = spanId ∧ span.parentSpanId = some parentId

/-- **A well-formed graph** of a trace. -/
structure WellFormed (graph : CausalGraph F) : Prop where
  nodeIds_nodup : graph.nodeIds.Nodup
  events : (graph.nodes.filterMap GraphNode.spanId).Perm (trace.spans.map SpanRecord.spanId)
  id_of_event : ∀ node ∈ graph.nodes, ∀ spanId ∈ node.spanId, node.id = eventId spanId
  closed : ∀ edge ∈ graph.edges, edge.source ∈ graph.nodeIds ∧ edge.target ∈ graph.nodeIds
  edges_nodup : (graph.edges.map fun edge ↦ (edge.source, edge.target, edge.type)).Nodup
  controlFlow : ∀ source target,
    (∃ edge ∈ graph.edges, edge.type = .controlFlow ∧ edge.source = source ∧ edge.target = target) ↔
      ∃ parentId spanId, source = eventId parentId ∧ target = eventId spanId ∧
        IsParent trace parentId spanId
  acyclic : ∃ result, (∃ enough, ∀ depth ≥ enough, checkCycles depth graph = some result) ∧
    (result = .ok () ↔ ∀ spanId, ¬ Relation.TransGen (IsParent trace) spanId spanId)

/-- **The order of the spans** does not matter for the hash. -/
def OrderIndependent [FloatText F] : Prop :=
  ∀ spans : List (SpanRecord F V), spans.Perm trace.spans →
    (build lib registry { trace with spans := spans }).graphHash lib.sha256
      = (build lib registry trace).graphHash lib.sha256

/-! ### The nodes and edges of a span -/

/-- The parent, if it is one of some ids. -/
def presentParent (ids : List String) (span : SpanRecord F V) : Option String :=
  span.parentSpanId.filter fun parentId ↦ parentId ∈ ids

def spanNodes (span : SpanRecord F V) : List (GraphNode F) :=
  eventNode registry trace span ::
    (span.componentVersionId.map (versionNode registry trace span)).toList

def referredNodes (span : SpanRecord F V) : List (GraphNode F) :=
  ((attributeText lib span "dgx.memory.referenced").map memoryNode).toList ++
    ((attributeText lib span "dgx.agent.message_to").map agentNode).toList

def lineageEdges (span : SpanRecord F V) : List GraphEdge :=
  (span.componentVersionId.map (lineageEdge span)).toList

def referenceEdges (ids : List String) (span : SpanRecord F V) : List GraphEdge :=
  ((presentParent ids span).map (callEdge span)).toList ++
    (((attributeText lib span "dgx.memory.referenced").map (recallEdge span)).toList ++
      ((attributeText lib span "dgx.agent.message_to").map (messageEdge span)).toList)

def spanEdges (ids : List String) (span : SpanRecord F V) : List GraphEdge :=
  lineageEdges span ++ referenceEdges lib ids span

end Build

/-! ### What a step adds -/

/-- Some nodes and edges were added, and a node took the place of one with its id. -/
structure Adds (draft draft' : Draft F) (newNodes : List (GraphNode F)) (newEdges : List GraphEdge) :
    Prop where
  nodes : ∀ node ∈ draft'.nodes.rows, node ∈ draft.nodes.rows ∨ node ∈ newNodes
  nodeIds : ∀ id, id ∈ draft'.nodeIds ↔ id ∈ draft.nodeIds ∨ id ∈ newNodes.map GraphNode.id
  edges : draft'.edges = draft.edges ++ newEdges

namespace Adds

variable {draft draft' draft'' : Draft F} {nodes nodes' : List (GraphNode F)}
  {edges edges' : List GraphEdge} {node : GraphNode F} {edge : GraphEdge}

theorem refl : Adds draft draft [] [] where
  nodes := fun _ h ↦ .inl h
  nodeIds := fun id ↦ by simp
  edges := (List.append_nil _).symm

theorem setNode : Adds draft (draft.setNode node) [node] [] where
  nodes := fun _ h ↦ (KeyTable.mem_rows_of_mem_put h).imp_right List.mem_singleton.mpr
  nodeIds := fun id ↦ KeyTable.mem_keys_put.trans (by rw [Draft.nodeIds]; simp)
  edges := (List.append_nil _).symm

theorem addMissing : Adds draft (draft.addMissing node) [node] [] where
  nodes := fun _ h ↦ (KeyTable.mem_rows_of_mem_insertIfAbsent h).imp_right List.mem_singleton.mpr
  nodeIds := fun id ↦ KeyTable.mem_keys_insertIfAbsent.trans (by rw [Draft.nodeIds]; simp)
  edges := (List.append_nil _).symm

theorem append : Adds draft (draft.append edge) [] [edge] where
  nodes := fun _ h ↦ .inl h
  nodeIds := fun id ↦ by simp [Draft.append, Draft.nodeIds]
  edges := rfl

theorem trans (h : Adds draft draft' nodes edges) (h' : Adds draft' draft'' nodes' edges') :
    Adds draft draft'' (nodes ++ nodes') (edges ++ edges') where
  nodes := by
    intro node hnode
    rw [List.mem_append, ← or_assoc]
    exact (h'.nodes node hnode).imp_left (h.nodes node)
  nodeIds := by
    intro id
    rw [h'.nodeIds, h.nodeIds, List.map_append, List.mem_append, or_assoc]
  edges := by rw [h'.edges, h.edges, List.append_assoc]

theorem foldl {α : Type*} {step : Draft F → α → Draft F} {nodes : α → List (GraphNode F)}
    {edges : α → List GraphEdge} (hstep : ∀ draft a, Adds draft (step draft a) (nodes a) (edges a))
    (items : List α) (draft : Draft F) :
    Adds draft (items.foldl step draft) (items.flatMap nodes) (items.flatMap edges) := by
  induction items generalizing draft with
  | nil => exact refl
  | cons a items ih =>
    rw [List.foldl_cons, List.flatMap_cons, List.flatMap_cons]
    exact (hstep draft a).trans (ih _)

end Adds

section Proofs

variable {lib : TraceLibrary F V} {registry : Uuid → Uuid → Option String} {trace : TraceArtifact F V}
  {span : SpanRecord F V}

theorem adds_addSpan (draft : Draft F) (span : SpanRecord F V) :
    Adds draft (addSpan registry trace draft span) (spanNodes registry trace span)
      (lineageEdges span) := by
  rw [addSpan, spanNodes, lineageEdges]
  cases span.componentVersionId with
  | none => exact .setNode
  | some versionId => exact (Adds.setNode.trans .addMissing).trans .append

theorem ne_empty_of_mem {parentId : String} (h : parentId ∈ trace.spans.map SpanRecord.spanId) :
    parentId ≠ "" := by
  rintro rfl
  obtain ⟨span, -, hid⟩ := List.mem_map.mp h
  have hlength := span.spanId_length
  rw [hid] at hlength
  contradiction

theorem adds_connectParent (draft : Draft F) (span : SpanRecord F V) :
    Adds draft (connectParent trace draft span) []
      ((presentParent (trace.spans.map SpanRecord.spanId) span).map (callEdge span)).toList := by
  rw [connectParent, presentParent]
  cases span.parentSpanId with
  | none => exact .refl
  | some parentId =>
    by_cases hmem : parentId ∈ trace.spans.map SpanRecord.spanId
    · rw [Option.filter_some, if_pos (by simpa using hmem)]
      dsimp only
      rw [if_pos ⟨ne_empty_of_mem hmem, hmem⟩]
      exact .append
    · rw [Option.filter_some, if_neg (by simpa using hmem)]
      dsimp only
      rw [if_neg fun h ↦ hmem h.2]
      exact .refl

theorem adds_connectMemory (draft : Draft F) (span : SpanRecord F V) :
    Adds draft (connectMemory lib draft span)
      ((attributeText lib span "dgx.memory.referenced").map memoryNode).toList
      ((attributeText lib span "dgx.memory.referenced").map (recallEdge span)).toList := by
  rw [connectMemory]
  cases attributeText lib span "dgx.memory.referenced" with
  | none => exact .refl
  | some memId => exact Adds.append.trans .addMissing

theorem adds_connectAgent (draft : Draft F) (span : SpanRecord F V) :
    Adds draft (connectAgent lib draft span)
      ((attributeText lib span "dgx.agent.message_to").map agentNode).toList
      ((attributeText lib span "dgx.agent.message_to").map (messageEdge span)).toList := by
  rw [connectAgent]
  cases attributeText lib span "dgx.agent.message_to" with
  | none => exact .refl
  | some targetAgentId => exact Adds.append.trans .addMissing

theorem adds_connectSpan (draft : Draft F) (span : SpanRecord F V) :
    Adds draft (connectSpan lib trace draft span) (referredNodes lib span)
      (referenceEdges lib (trace.spans.map SpanRecord.spanId) span) :=
  (adds_connectParent draft span).trans ((adds_connectMemory _ span).trans (adds_connectAgent _ span))

/-- **The draft** has the nodes and edges of the single spans. -/
theorem adds_draftOf : Adds .empty (draftOf lib registry trace)
    (trace.spans.flatMap (spanNodes registry trace) ++ trace.spans.flatMap (referredNodes lib))
    (trace.spans.flatMap lineageEdges ++
      trace.spans.flatMap (referenceEdges lib (trace.spans.map SpanRecord.spanId))) :=
  (Adds.foldl adds_addSpan _ _).trans (.foldl adds_connectSpan _ _)

theorem mem_nodes_build {node : GraphNode F} (h : node ∈ (build lib registry trace).nodes) :
    ∃ span ∈ trace.spans, node ∈ spanNodes registry trace span ∨ node ∈ referredNodes lib span := by
  obtain hempty | hadded := adds_draftOf.nodes node h
  · exact absurd hempty List.not_mem_nil
  · obtain hspan | hreferred := List.mem_append.mp hadded
    · obtain ⟨span, hspan, hmem⟩ := List.mem_flatMap.mp hspan
      exact ⟨span, hspan, .inl hmem⟩
    · obtain ⟨span, hspan, hmem⟩ := List.mem_flatMap.mp hreferred
      exact ⟨span, hspan, .inr hmem⟩

theorem mem_nodeIds_build {id : String} : id ∈ (build lib registry trace).nodeIds ↔
    ∃ span ∈ trace.spans,
      id ∈ (spanNodes registry trace span ++ referredNodes lib span).map GraphNode.id := by
  have hempty : id ∉ (Draft.empty (F := F)).nodeIds := List.not_mem_nil
  refine (adds_draftOf.nodeIds id).trans ?_
  simp only [hempty, false_or, List.map_append, List.map_flatMap, List.mem_append,
    List.mem_flatMap, ← exists_or, ← and_or_left]

theorem perm_edges_build : (build lib registry trace).edges.Perm
    (trace.spans.flatMap (spanEdges lib (trace.spans.map SpanRecord.spanId))) := by
  rw [build, adds_draftOf.edges, Draft.empty, List.nil_append]
  exact List.flatMap_append_perm _ _ _

theorem mem_edges_build {edge : GraphEdge} : edge ∈ (build lib registry trace).edges ↔
    ∃ span ∈ trace.spans, edge ∈ spanEdges lib (trace.spans.map SpanRecord.spanId) span := by
  rw [perm_edges_build.mem_iff, List.mem_flatMap]

/-! ### Ids of events -/

theorem eventId_inj {spanId spanId' : String} : eventId spanId = eventId spanId' ↔ spanId = spanId' :=
  String.append_right_inj _

theorem append_ne_eventId {kind : String} {c : Char} {cs : List Char} (hkind : kind.toList = c :: cs)
    (hne : c ≠ 'e') (text spanId : String) : kind ++ text ≠ eventId spanId := by
  intro h
  have hlist := congrArg String.toList h
  rw [eventId, String.toList_append, String.toList_append, hkind] at hlist
  exact hne (List.head_eq_of_cons_eq hlist)

theorem versionNodeId_ne_eventId (versionId : Uuid) (spanId : String) :
    versionNodeId versionId ≠ eventId spanId :=
  append_ne_eventId rfl (by decide) _ _

theorem memoryNodeId_ne_eventId (memId spanId : String) : memoryNodeId memId ≠ eventId spanId :=
  append_ne_eventId rfl (by decide) _ _

theorem agentNodeId_ne_eventId (targetAgentId spanId : String) :
    agentNodeId targetAgentId ≠ eventId spanId :=
  append_ne_eventId rfl (by decide) _ _

/-! ### Nodes -/

theorem mem_spanNodes {node : GraphNode F} : node ∈ spanNodes registry trace span ↔
    node = eventNode registry trace span ∨ ∃ versionId ∈ span.componentVersionId,
      versionNode registry trace span versionId = node := by
  simp [spanNodes]

theorem mem_referredNodes {node : GraphNode F} : node ∈ referredNodes lib span ↔
    (∃ memId ∈ attributeText lib span "dgx.memory.referenced", memoryNode memId = node) ∨
      ∃ targetAgentId ∈ attributeText lib span "dgx.agent.message_to",
        agentNode targetAgentId = node := by
  simp [referredNodes]

theorem spanId_of_mem_nodes {node : GraphNode F} (h : node ∈ (build lib registry trace).nodes) :
    (∃ span ∈ trace.spans, node = eventNode registry trace span) ∨
      (node.spanId = none ∧ ∀ spanId, node.id ≠ eventId spanId) := by
  obtain ⟨span, hspan, hnode | hnode⟩ := mem_nodes_build h
  · obtain hevent | ⟨versionId, -, rfl⟩ := mem_spanNodes.mp hnode
    · exact .inl ⟨span, hspan, hevent⟩
    · exact .inr ⟨rfl, versionNodeId_ne_eventId versionId⟩
  · obtain ⟨memId, -, rfl⟩ | ⟨targetAgentId, -, rfl⟩ := mem_referredNodes.mp hnode
    · exact .inr ⟨rfl, memoryNodeId_ne_eventId memId⟩
    · exact .inr ⟨rfl, agentNodeId_ne_eventId targetAgentId⟩

theorem eventId_mem_nodeIds {spanId : String} :
    eventId spanId ∈ (build lib registry trace).nodeIds ↔
      spanId ∈ trace.spans.map SpanRecord.spanId := by
  constructor
  · intro h
    obtain ⟨node, hnode, hid⟩ := List.mem_map.mp h
    obtain ⟨span, hspan, rfl⟩ | ⟨-, hne⟩ := spanId_of_mem_nodes hnode
    · exact List.mem_map.mpr ⟨span, hspan, eventId_inj.mp hid⟩
    · exact absurd hid (hne spanId)
  · intro h
    obtain ⟨span, hspan, rfl⟩ := List.mem_map.mp h
    exact mem_nodeIds_build.mpr ⟨span, hspan, List.mem_cons_self⟩

theorem nodeIds_nodup_build : (build lib registry trace).nodeIds.Nodup :=
  (draftOf lib registry trace).nodes.nodup

theorem id_of_event_build {node : GraphNode F} (h : node ∈ (build lib registry trace).nodes)
    {spanId : String} (hspanId : spanId ∈ node.spanId) : node.id = eventId spanId := by
  obtain ⟨span, -, rfl⟩ | ⟨hnone, -⟩ := spanId_of_mem_nodes h
  · exact congrArg eventId (Option.some.inj hspanId)
  · exact absurd (hnone.symm.trans hspanId) (Option.some_ne_none _).symm

theorem perm_events_build (hdistinct : (trace.spans.map SpanRecord.spanId).Nodup) :
    ((build lib registry trace).nodes.filterMap GraphNode.spanId).Perm
      (trace.spans.map SpanRecord.spanId) := by
  have hnodup : ((build lib registry trace).nodes.filterMap GraphNode.spanId).Nodup := by
    refine List.pairwise_filterMap.mpr ?_
    refine (List.pairwise_map.mp nodeIds_nodup_build).imp_of_mem fun {node other} hnode hother hne ↦ ?_
    rintro spanId hspanId _ hother' rfl
    exact hne ((id_of_event_build hnode hspanId).trans (id_of_event_build hother hother').symm)
  refine (List.perm_ext_iff_of_nodup hnodup hdistinct).mpr fun spanId ↦ ?_
  rw [List.mem_filterMap, List.mem_map]
  constructor
  · rintro ⟨node, hnode, hspanId⟩
    obtain ⟨span, hspan, rfl⟩ | ⟨hnone, -⟩ := spanId_of_mem_nodes hnode
    · exact ⟨span, hspan, Option.some.inj hspanId⟩
    · exact absurd (hnone.symm.trans hspanId) (Option.some_ne_none _).symm
  · rintro ⟨span, hspan, rfl⟩
    obtain ⟨node, hnode, hid⟩ := List.mem_map.mp
      (eventId_mem_nodeIds.mpr (List.mem_map_of_mem hspan))
    obtain ⟨other, -, rfl⟩ | ⟨-, hne⟩ := spanId_of_mem_nodes hnode
    · exact ⟨_, hnode, congrArg some (eventId_inj.mp hid)⟩
    · exact absurd hid (hne _)

/-! ### Edges -/

variable {ids : List String} {edge : GraphEdge}

theorem mem_presentParent {parentId : String} :
    parentId ∈ presentParent ids span ↔ span.parentSpanId = some parentId ∧ parentId ∈ ids := by
  rw [presentParent, Option.mem_filter_iff, decide_eq_true_eq]
  rfl

theorem mem_spanEdges : edge ∈ spanEdges lib ids span ↔
    (∃ versionId ∈ span.componentVersionId, lineageEdge span versionId = edge) ∨
      (∃ parentId ∈ presentParent ids span, callEdge span parentId = edge) ∨
      (∃ memId ∈ attributeText lib span "dgx.memory.referenced", recallEdge span memId = edge) ∨
      ∃ targetAgentId ∈ attributeText lib span "dgx.agent.message_to",
        messageEdge span targetAgentId = edge := by
  simp [spanEdges, lineageEdges, referenceEdges]

/-- The end of an edge at the span that it was added for. -/
def GraphEdge.ownEnd (edge : GraphEdge) : String :=
  if edge.type = .versionLineage ∨ edge.type = .interAgentCommunication then edge.source
  else edge.target

theorem ownEnd_of_mem (h : edge ∈ spanEdges lib ids span) : edge.ownEnd = eventId span.spanId := by
  obtain ⟨versionId, -, rfl⟩ | ⟨parentId, -, rfl⟩ | ⟨memId, -, rfl⟩ | ⟨targetAgentId, -, rfl⟩ :=
    mem_spanEdges.mp h
  all_goals rfl

theorem types_nodup : ((spanEdges lib ids span).map GraphEdge.type).Nodup := by
  have hone : ∀ {α : Type} (o : Option α) (f : α → GraphEdge) (type : EdgeType),
      (∀ a, (f a).type = type) → ((o.map f).toList.map GraphEdge.type).Sublist [type] := by
    intro α o f type hf
    cases o with
    | none => exact List.nil_sublist _
    | some a => simp [hf]
  have hlineage := hone span.componentVersionId (lineageEdge span) .versionLineage fun _ ↦ rfl
  have hcall := hone (presentParent ids span) (callEdge span) .controlFlow fun _ ↦ rfl
  have hrecall := hone (attributeText lib span "dgx.memory.referenced") (recallEdge span)
    .memoryInfluence fun _ ↦ rfl
  have hmessage := hone (attributeText lib span "dgx.agent.message_to") (messageEdge span)
    .interAgentCommunication fun _ ↦ rfl
  have hsub := hlineage.append (hcall.append (hrecall.append hmessage))
  rw [spanEdges, lineageEdges, referenceEdges, List.map_append, List.map_append, List.map_append]
  exact hsub.nodup (by decide)

theorem edges_nodup_build (hdistinct : (trace.spans.map SpanRecord.spanId).Nodup) :
    ((build lib registry trace).edges.map fun edge ↦ (edge.source, edge.target, edge.type)).Nodup := by
  rw [(perm_edges_build.map _).nodup_iff, List.Nodup, List.pairwise_map, List.pairwise_flatMap]
  refine ⟨fun span _ ↦ ?_, ?_⟩
  · refine (List.pairwise_map.mp types_nodup).imp fun hne heq ↦ hne ?_
    exact congrArg (fun t ↦ t.2.2) heq
  · refine (List.pairwise_map.mp hdistinct).imp fun hne edge hedge other hother heq ↦ hne ?_
    have hend : edge.ownEnd = other.ownEnd := by
      obtain ⟨hsource, htarget, htype⟩ : edge.source = other.source ∧ edge.target = other.target ∧
        edge.type = other.type := by simpa using heq
      rw [GraphEdge.ownEnd, GraphEdge.ownEnd, hsource, htarget, htype]
    rwa [ownEnd_of_mem hedge, ownEnd_of_mem hother, eventId_inj] at hend

theorem closed_build (h : edge ∈ (build lib registry trace).edges) :
    edge.source ∈ (build lib registry trace).nodeIds ∧
      edge.target ∈ (build lib registry trace).nodeIds := by
  obtain ⟨span, hspan, hedge⟩ := mem_edges_build.mp h
  have hevent : eventId span.spanId ∈ (build lib registry trace).nodeIds :=
    eventId_mem_nodeIds.mpr (List.mem_map_of_mem hspan)
  have hnode : ∀ node, node ∈ spanNodes registry trace span ++ referredNodes lib span →
      node.id ∈ (build lib registry trace).nodeIds :=
    fun node hmem ↦ mem_nodeIds_build.mpr ⟨span, hspan, List.mem_map_of_mem hmem⟩
  obtain ⟨versionId, hid, rfl⟩ | ⟨parentId, hid, rfl⟩ | ⟨memId, hid, rfl⟩ | ⟨agentId, hid, rfl⟩ :=
    mem_spanEdges.mp hedge
  · refine ⟨hevent, hnode (versionNode registry trace span versionId) (List.mem_append_left _ ?_)⟩
    exact mem_spanNodes.mpr (.inr ⟨versionId, hid, rfl⟩)
  · exact ⟨eventId_mem_nodeIds.mpr (mem_presentParent.mp hid).2, hevent⟩
  · refine ⟨hnode (memoryNode memId) (List.mem_append_right _ ?_), hevent⟩
    exact mem_referredNodes.mpr (.inl ⟨memId, hid, rfl⟩)
  · refine ⟨hevent, hnode (agentNode agentId) (List.mem_append_right _ ?_)⟩
    exact mem_referredNodes.mpr (.inr ⟨agentId, hid, rfl⟩)

theorem edge_to_event {spanId : String} (h : edge ∈ (build lib registry trace).edges)
    (htype : edge.type ≠ .memoryInfluence) (htarget : edge.target = eventId spanId) :
    ∃ parentId, edge.source = eventId parentId ∧ IsParent trace parentId spanId := by
  obtain ⟨span, hspan, hedge⟩ := mem_edges_build.mp h
  obtain ⟨versionId, -, rfl⟩ | ⟨parentId, hid, rfl⟩ | ⟨memId, -, rfl⟩ | ⟨agentId, -, rfl⟩ :=
    mem_spanEdges.mp hedge
  · exact absurd htarget (versionNodeId_ne_eventId _ _)
  · obtain ⟨hparent, hmem⟩ := mem_presentParent.mp hid
    exact ⟨parentId, rfl, hmem, span, hspan, eventId_inj.mp htarget, hparent⟩
  · exact absurd rfl htype
  · exact absurd htarget (agentNodeId_ne_eventId _ _)

theorem exists_callEdge {parentId spanId : String} (h : IsParent trace parentId spanId) :
    ∃ edge ∈ (build lib registry trace).edges, edge.type = .controlFlow ∧
      edge.source = eventId parentId ∧ edge.target = eventId spanId := by
  obtain ⟨hmem, span, hspan, rfl, hparent⟩ := h
  refine ⟨callEdge span parentId, mem_edges_build.mpr ⟨span, hspan, ?_⟩, rfl, rfl, rfl⟩
  exact mem_spanEdges.mpr (.inr (.inl ⟨parentId, mem_presentParent.mpr ⟨hparent, hmem⟩, rfl⟩))

theorem controlFlow_build {source target : String} :
    (∃ edge ∈ (build lib registry trace).edges, edge.type = .controlFlow ∧ edge.source = source ∧
      edge.target = target) ↔ ∃ parentId spanId, source = eventId parentId ∧
        target = eventId spanId ∧ IsParent trace parentId spanId := by
  constructor
  · rintro ⟨edge, hedge, htype, rfl, rfl⟩
    obtain ⟨span, hspan, hmem⟩ := mem_edges_build.mp hedge
    have htarget : edge.target = eventId span.spanId := by
      rw [← ownEnd_of_mem hmem, GraphEdge.ownEnd, htype, if_neg (by decide)]
    obtain ⟨parentId, hsource, hparent⟩ := edge_to_event hedge (by rw [htype]; decide) htarget
    exact ⟨parentId, span.spanId, hsource, htarget, hparent⟩
  · rintro ⟨parentId, spanId, rfl, rfl, hparent⟩
    exact exists_callEdge hparent

/-! ### The order of the spans -/

theorem perm_nodeIds_build {spans : List (SpanRecord F V)} (h : spans.Perm trace.spans) :
    (build lib registry { trace with spans := spans }).nodeIds.Perm
      (build lib registry trace).nodeIds := by
  refine (List.perm_ext_iff_of_nodup nodeIds_nodup_build nodeIds_nodup_build).mpr fun id ↦ ?_
  rw [mem_nodeIds_build, mem_nodeIds_build]
  exact exists_congr fun span ↦ and_congr_left fun _ ↦ h.mem_iff

theorem perm_edges_of_perm {spans : List (SpanRecord F V)} (h : spans.Perm trace.spans) :
    (build lib registry { trace with spans := spans }).edges.Perm
      (build lib registry trace).edges := by
  have hids : ∀ span : SpanRecord F V, presentParent (spans.map SpanRecord.spanId) span
      = presentParent (trace.spans.map SpanRecord.spanId) span := by
    intro span
    rw [presentParent, presentParent]
    simp only [(h.map SpanRecord.spanId).mem_iff]
  refine perm_edges_build.trans (List.Perm.trans ?_ perm_edges_build.symm)
  refine h.flatMap fun span _ ↦ .of_eq ?_
  rw [spanEdges, spanEdges, referenceEdges, referenceEdges, hids]

/-! ### Cycles -/

theorem causalEdge_of_isParent {parentId spanId : String} (h : IsParent trace parentId spanId) :
    (build lib registry trace).CausalEdge (eventId parentId) (eventId spanId) := by
  obtain ⟨edge, hedge, htype, hsource, htarget⟩ :
    ∃ edge ∈ (build lib registry trace).edges, _ := exists_callEdge h
  refine ⟨eventId_mem_nodeIds.mpr h.1, edge, hedge, ?_, ?_, hsource, htarget⟩
  · rw [htype]
    decide
  · rw [htype]
    decide

theorem source_of_causalEdge {source target : String}
    (h : (build lib registry trace).CausalEdge source target) : ∃ spanId, source = eventId spanId := by
  obtain ⟨-, edge, hedge, hmemory, -, rfl, -⟩ := h
  obtain ⟨span, -, hmem⟩ := mem_edges_build.mp hedge
  obtain ⟨versionId, -, rfl⟩ | ⟨parentId, -, rfl⟩ | ⟨memId, -, rfl⟩ | ⟨agentId, -, rfl⟩ :=
    mem_spanEdges.mp hmem
  · exact ⟨_, rfl⟩
  · exact ⟨_, rfl⟩
  · exact absurd rfl hmemory
  · exact ⟨_, rfl⟩

theorem isParent_of_causalPath {source spanId : String}
    (h : Relation.TransGen (build lib registry trace).CausalEdge source (eventId spanId)) :
    ∃ parentId, source = eventId parentId ∧ Relation.TransGen (IsParent trace) parentId spanId := by
  induction h using Relation.TransGen.head_induction_on with
  | single hedge =>
    obtain ⟨-, edge, hedge, hmemory, -, rfl, htarget⟩ := hedge
    obtain ⟨parentId, hsource, hparent⟩ := edge_to_event hedge hmemory htarget
    exact ⟨parentId, hsource, .single hparent⟩
  | head hedge _ ih =>
    obtain ⟨middle, rfl, hpath⟩ := ih
    obtain ⟨-, edge, hedge, hmemory, -, rfl, htarget⟩ := hedge
    obtain ⟨parentId, hsource, hparent⟩ := edge_to_event hedge hmemory htarget
    exact ⟨parentId, hsource, .head hparent hpath⟩

theorem hasCycle_build : (build lib registry trace).HasCycle ↔
    ∃ spanId, Relation.TransGen (IsParent trace) spanId spanId := by
  constructor
  · rintro ⟨id, hcycle⟩
    obtain ⟨next, hedge, -⟩ := Relation.TransGen.head'_iff.mp hcycle
    obtain ⟨spanId, rfl⟩ := source_of_causalEdge hedge
    obtain ⟨parentId, heq, hpath⟩ := isParent_of_causalPath hcycle
    obtain rfl := eventId_inj.mp heq
    exact ⟨spanId, hpath⟩
  · rintro ⟨spanId, hcycle⟩
    exact ⟨eventId spanId, hcycle.lift eventId fun _ _ ↦ causalEdge_of_isParent⟩

theorem acyclic_build : ∃ result,
    (∃ enough, ∀ depth ≥ enough, checkCycles depth (build lib registry trace) = some result) ∧
      (result = .ok () ↔ ∀ spanId, ¬ Relation.TransGen (IsParent trace) spanId spanId) := by
  have hcycle : (build lib registry trace).HasCycle ↔ _ := hasCycle_build
  rw [← not_exists, ← hcycle]
  by_cases h : (build lib registry trace).HasCycle
  · exact ⟨_, ⟨_, fun _ ↦ checkCycles_of_hasCycle h⟩, iff_of_false (by simp) (not_not.mpr h)⟩
  · exact ⟨_, ⟨_, fun _ ↦ checkCycles_of_not_hasCycle h⟩, iff_of_true rfl h⟩

end Proofs

/-! ### A graph -/

/-- A library for spans without attributes. -/
def sampleLibrary : TraceLibrary Empty Empty where
  sha256 := Bytes.hexDigest
  datetimeText time := String.ofList
    (replaceText ['+', '0', '0', ':', '0', '0'] ['Z'] (isoformatMicroseconds time.toDatetime))
  str := Empty.elim
  json := Empty.elim

/-- A span and one that it calls. -/
def callTrace : TraceArtifact Empty Empty :=
  TraceArtifact.sampleTrace [TraceArtifact.sampleSpan 'a' none,
    TraceArtifact.sampleSpan 'b' (some "aaaaaaaaaaaaaaaa")]

end DriftGuardX.Graph
