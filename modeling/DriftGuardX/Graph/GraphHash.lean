import DriftGuardX.Graph.Builder
import DriftGuardX.Replay.Planner

/-!
# What the hash of a graph identifies

The hash of a graph stands for the ids of its nodes and the ends and types of its edges
(`graphHash_eq_iff`), together with the digest of its trace. A trace has no digest, so that is the same
for all, and what neither ids nor edges show is not covered: no trace is identified by the hash of its
graph (`not_identifies`).
-/

namespace DriftGuardX.Graph

open Json Bytes
open Isolation (Uuid)
open Replay (uuidText uuidText_injective)
open Trace (SpanRecord TraceArtifact TraceLibrary)

variable {F V : Type} [FloatText F]

/-! ## The graph -/

theorem exists_toDoc_identity (graph : CausalGraph F) :
    ∃ d, toDoc true (.object graph.identity) = some d := by
  refine exists_toDoc_object_iff.mpr ?_
  simp [CausalGraph.identity, Trace.exists_toDoc_scalar, Trace.exists_toDoc_strs]

/-- **The hash stands for** the ids of the nodes, the texts of the edges and the digest of the trace. -/
theorem graphHash_eq_iff {sha256 : List UInt8 → String} (hinjective : Function.Injective sha256)
    {graph graph' : CausalGraph F} : graph.graphHash sha256 = graph'.graphHash sha256 ↔
      graph.traceDigest = graph'.traceDigest ∧ graph.builderVersion = graph'.builderVersion ∧
        graph.nodeIds.Perm graph'.nodeIds ∧
        (graph.edges.map GraphEdge.text).Perm (graph'.edges.map GraphEdge.text) := by
  have hhash : Function.Injective fun text ↦ sha256 (utf8Chars text) :=
    hinjective.comp utf8Chars_injective
  rw [CausalGraph.graphHash, CausalGraph.graphHash, (Option.map_injective hhash).eq_iff,
    dumps_eq_dumps_iff]
  constructor
  · intro h
    obtain ⟨d, hd⟩ := exists_toDoc_identity graph
    have hmember := @toDoc_eq_of_object _ _ _ _ (by simp [CausalGraph.identity]) _ hd (h ▸ hd)
    refine ⟨?_, ?_, ?_, ?_⟩
    · exact toDoc_str_inj.mp (@hmember ("trace_digest", _) ("trace_digest", _)
        (by simp [CausalGraph.identity]) (by simp [CausalGraph.identity]) rfl)
    · exact toDoc_str_inj.mp (@hmember ("builder_version", _) ("builder_version", _)
        (by simp [CausalGraph.identity]) (by simp [CausalGraph.identity]) rfl)
    · refine sorted_eq_sorted_iff.mp (toDoc_strs_inj.mp (@hmember ("nodes", _) ("nodes", _) ?_ ?_ rfl))
      · simp [CausalGraph.identity]
      · simp [CausalGraph.identity]
    · refine sorted_eq_sorted_iff.mp (toDoc_strs_inj.mp (@hmember ("edges", _) ("edges", _) ?_ ?_ rfl))
      · simp [CausalGraph.identity]
      · simp [CausalGraph.identity]
  · rintro ⟨hdigest, hbuilder, hnodes, hedges⟩
    rw [identity_congr hdigest hbuilder hnodes hedges]

/-- The order of the nodes does not matter. -/
theorem graphHash_eq_iff_callTrace :
    let graph := build sampleLibrary (fun _ _ ↦ none) callTrace
    { graph with nodes := graph.nodes.reverse }.graphHash hexDigest = graph.graphHash hexDigest :=
  (graphHash_eq_iff hexDigest_injective).mpr ⟨rfl, rfl, (List.reverse_perm _).map _, .refl _⟩

/-! ## The trace -/

/-- **The hash of the graph identifies the trace** among the traces in which no two spans have one id:
those whose graphs have the same hash have the same content. -/
def Identifies (lib : TraceLibrary F V) (registry : Uuid → Uuid → Option String)
    (trace : TraceArtifact F V) : Prop :=
  ∀ trace' : TraceArtifact F V, (trace'.spans.map SpanRecord.spanId).Nodup →
    (build lib registry trace').graphHash lib.sha256
      = (build lib registry trace).graphHash lib.sha256 →
    trace'.computeHash lib = trace.computeHash lib

theorem runId_of_computeHash {lib : TraceLibrary F V} (hinjective : Function.Injective lib.sha256)
    {trace trace' : TraceArtifact F V} (h : trace'.computeHash lib = trace.computeHash lib) :
    trace'.runId = trace.runId := by
  have hhash : Function.Injective fun text ↦ lib.sha256 (utf8Chars text) :=
    hinjective.comp utf8Chars_injective
  rw [TraceArtifact.computeHash, TraceArtifact.computeHash, (Option.map_injective hhash).eq_iff,
    TraceArtifact.serialized, TraceArtifact.serialized, dumps_eq_dumps_iff] at h
  obtain ⟨d, hd⟩ : ∃ d, toDoc true (.object (trace.modelDump lib)) = some d :=
    trace.exists_toDoc_modelDump
  have hrun := toDoc_eq_of_object trace'.nodup_keys_modelDump (h.trans hd) hd
    (m := ("run_id", .str (uuidText trace'.runId))) (n := ("run_id", .str (uuidText trace.runId)))
    (by simp [TraceArtifact.modelDump, Trace.present])
    (by simp [TraceArtifact.modelDump, Trace.present]) rfl
  exact uuidText_injective (toDoc_str_inj.mp hrun)

/-- The same spans in another run. -/
def inOtherRun (trace : TraceArtifact F V) : TraceArtifact F V :=
  { trace with runId := if trace.runId = 0 then 1 else 0 }

omit [FloatText F] in
theorem runId_inOtherRun_ne (trace : TraceArtifact F V) : (inOtherRun trace).runId ≠ trace.runId := by
  rw [inOtherRun]
  dsimp only
  split_ifs with h
  · rw [h]
    decide
  · exact Ne.symm h

theorem graphHash_inOtherRun (lib : TraceLibrary F V) (registry : Uuid → Uuid → Option String)
    (trace : TraceArtifact F V) : (build lib registry (inOtherRun trace)).graphHash lib.sha256
      = (build lib registry trace).graphHash lib.sha256 := rfl

/-- **No trace is identified** by the hash of its graph. -/
theorem not_identifies {lib : TraceLibrary F V} (hinjective : Function.Injective lib.sha256)
    (registry : Uuid → Uuid → Option String) {trace : TraceArtifact F V}
    (hdistinct : (trace.spans.map SpanRecord.spanId).Nodup) : ¬ Identifies lib registry trace := by
  intro h
  have hcontent := h (inOtherRun trace) hdistinct (graphHash_inOtherRun lib registry trace)
  exact runId_inOtherRun_ne trace (runId_of_computeHash hinjective hcontent)

theorem not_identifies_callTrace : ¬ Identifies sampleLibrary (fun _ _ ↦ none) callTrace :=
  not_identifies hexDigest_injective _ (by decide)

/-- A span, and the same span in another run. -/
theorem equal_hashes_of_two_runs :
    (build sampleLibrary (fun _ _ ↦ none)
        { TraceArtifact.sampleTrace [TraceArtifact.sampleSpan 'a' none] with runId := 0 }).graphHash
          sampleLibrary.sha256
      = (build sampleLibrary (fun _ _ ↦ none)
        (TraceArtifact.sampleTrace [TraceArtifact.sampleSpan 'a' none])).graphHash
          sampleLibrary.sha256 ∧
    ({ TraceArtifact.sampleTrace [TraceArtifact.sampleSpan 'a' none] with runId := 0 } :
        TraceArtifact Empty Empty).computeHash sampleLibrary
      ≠ (TraceArtifact.sampleTrace [TraceArtifact.sampleSpan 'a' none]).computeHash sampleLibrary := by
  refine ⟨rfl, fun h ↦ ?_⟩
  exact absurd (runId_of_computeHash hexDigest_injective h) (by decide)

end DriftGuardX.Graph
