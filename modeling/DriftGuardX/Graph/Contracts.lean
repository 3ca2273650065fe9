import DriftGuardX.Json.Canonical
import DriftGuardX.Trace.Artifact
import Mathlib.Data.String.Basic

/-!
# Causal graphs

The nodes and edges of a causal reliability graph and its hash. The hash covers the ids of the nodes,
the ends and types of the edges and the digest of the trace, each list in sorted order, so it does not
depend on the order of nodes and edges (`identity_congr`).
-/

namespace DriftGuardX.Graph

open Json Bytes
open Isolation (Uuid)

/-! ## Nodes and edges -/

inductive NodeType where
  | request
  | query
  | retriever
  | index
  | chunker
  | reranker
  | prompt
  | model
  | memory
  | guardrail
  | tool
  | policy
  | humanApproval
  | provider
  | operationalResource
  | agent
  | information
  | computation
  | actuation
  deriving DecidableEq, Repr

inductive EdgeType where
  | dataDependency
  | controlFlow
  | executionOrder
  | versionLineage
  | policyDependency
  | memoryInfluence
  | evidenceCitation
  | toolEffect
  | retryFallback
  | interAgentCommunication
  deriving DecidableEq, Repr

def EdgeType.value : EdgeType → String
  | .dataDependency => "data_dependency"
  | .controlFlow => "control_flow"
  | .executionOrder => "execution_order"
  | .versionLineage => "version_lineage"
  | .policyDependency => "policy_dependency"
  | .memoryInfluence => "memory_influence"
  | .evidenceCitation => "evidence_citation"
  | .toolEffect => "tool_effect"
  | .retryFallback => "retry_fallback"
  | .interAgentCommunication => "inter_agent_communication"

structure GraphNode (F : Type) where
  id : String
  type : NodeType
  label : String
  isVersioned : Bool
  versionId : Option Uuid
  spanId : Option String
  features : List (String × Val F)

structure GraphEdge where
  id : String
  source : String
  target : String
  type : EdgeType
  label : String
  deriving DecidableEq, Repr

structure CausalGraph (F : Type) where
  tenantId : Uuid
  runId : Uuid
  nodes : List (GraphNode F)
  edges : List GraphEdge
  builderVersion : String
  traceDigest : String

variable {F : Type}

def CausalGraph.nodeIds (graph : CausalGraph F) : List String := graph.nodes.map GraphNode.id

/-! ## The hash -/

/-- `sorted`. -/
def sorted (texts : List String) : List String := texts.mergeSort fun s t ↦ decide (s ≤ t)

/-- How the hash writes an edge. -/
def GraphEdge.text (edge : GraphEdge) : String :=
  edge.source ++ "->" ++ edge.target ++ ":" ++ edge.type.value

namespace CausalGraph

/-- What identifies a graph. -/
def identity (graph : CausalGraph F) : List (String × Val F) :=
  [("trace_digest", .str graph.traceDigest),
    ("builder_version", .str graph.builderVersion),
    ("nodes", .list ((sorted graph.nodeIds).map .str)),
    ("edges", .list ((sorted (graph.edges.map GraphEdge.text)).map .str))]

variable [FloatText F] (sha256 : List UInt8 → String)

/-- `compute_graph_hash`. -/
def graphHash (graph : CausalGraph F) : Option String :=
  (dumps ⟨true, false⟩ true (.object graph.identity)).map fun text ↦ sha256 (utf8Chars text)

end CausalGraph

/-! ### What the hash depends on -/

theorem perm_sorted (texts : List String) : (sorted texts).Perm texts := List.mergeSort_perm _ _

theorem sorted_congr {texts texts' : List String} (h : texts.Perm texts') :
    sorted texts = sorted texts' := by
  have hpairwise : ∀ texts : List String, (sorted texts).Pairwise fun s t ↦ s ≤ t := by
    intro texts
    have hsorted : (sorted texts).Pairwise fun s t ↦ decide (s ≤ t) = true :=
      List.pairwise_mergeSort
        (fun a b c hab hbc ↦ decide_eq_true ((of_decide_eq_true hab).trans (of_decide_eq_true hbc)))
        (fun a b ↦ by simpa using le_total a b) texts
    exact hsorted.imp of_decide_eq_true
  exact ((perm_sorted texts).trans (h.trans (perm_sorted texts').symm)).eq_of_pairwise
    (fun a b _ _ hab hba ↦ le_antisymm hab hba) (hpairwise texts) (hpairwise texts')

theorem sorted_eq_sorted_iff {texts texts' : List String} :
    sorted texts = sorted texts' ↔ texts.Perm texts' :=
  ⟨fun h ↦ (perm_sorted texts).symm.trans (h ▸ perm_sorted texts'), sorted_congr⟩

/-- **The hash does not depend on the order** of nodes and edges. -/
theorem identity_congr {graph graph' : CausalGraph F} (hdigest : graph.traceDigest = graph'.traceDigest)
    (hbuilder : graph.builderVersion = graph'.builderVersion)
    (hnodes : graph.nodeIds.Perm graph'.nodeIds)
    (hedges : (graph.edges.map GraphEdge.text).Perm (graph'.edges.map GraphEdge.text)) :
    graph.identity = graph'.identity := by
  rw [CausalGraph.identity, CausalGraph.identity, hdigest, hbuilder, sorted_congr hnodes,
    sorted_congr hedges]

end DriftGuardX.Graph
