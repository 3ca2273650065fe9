import DriftGuardX.Diffusion.Engine
import DriftGuardX.Foundation.Bytes
import DriftGuardX.Foundation.Program
import DriftGuardX.Foundation.Staging
import DriftGuardX.Json.Text

/-!
# Staged actions

`VTICoordinator`: what a sandboxed function was refused is staged under its trace and waits for a
decision. A commit needs a clearance signature, which is a text with a prefix. `GATClearanceOracle`
makes one up when all probabilities of a diffusion are below its threshold, and rolls the trace back
otherwise.

Each call of the coordinator refines the staging of items under keys (`represents_run`). So an action
is committed, once and in the order of its trace, exactly when the first decision about its trace
after it clears it (`Represents.fates`). The oracle's decision only gets stricter with more symptoms
(`cleared_antitone`), as the diffusion is monotone.
-/

namespace DriftGuardX.Sandbox

open Json Bytes Diffusion

variable {F : Type}

/-! ## The coordinator -/

inductive EscrowStatus where
  | staged
  | committed
  | rolledBack
  deriving DecidableEq

structure CryptographicEscrow (F : Type) where
  traceId : String
  actionType : String
  payload : List (Key F × Val F)
  payloadHash : String
  status : EscrowStatus

inductive VtiError where
  | valueError (message : String)
  | typeError
  deriving DecidableEq

/-- `__init__`, which raises when the payload cannot be written. -/
def CryptographicEscrow.make [FloatText F] (sha256 : List UInt8 → String)
    (traceId actionType : String) (payload : List (Key F × Val F)) :
    Except VtiError (CryptographicEscrow F) :=
  match dumps ⟨true, false⟩ true (.dict payload) with
  | none => .error .typeError
  | some serialized => .ok ⟨traceId, actionType, payload, sha256 (utf8Chars serialized), .staged⟩

/-- The escrows of a trace, without an entry when there are none. -/
structure VTICoordinator (F : Type) where
  escrows : String → List (CryptographicEscrow F)
  committedActions : List (CryptographicEscrow F)

namespace VTICoordinator

def empty : VTICoordinator F := ⟨fun _ ↦ [], []⟩

abbrev Call (F α : Type) := Program (VTICoordinator F) VtiError α

def addEscrow (w : VTICoordinator F) (escrow : CryptographicEscrow F) : VTICoordinator F :=
  { w with
    escrows := Function.update w.escrows escrow.traceId (w.escrows escrow.traceId ++ [escrow]) }

def stageAction [FloatText F] (sha256 : List UInt8 → String) (traceId actionType : String)
    (payload : List (Key F × Val F)) : Call F (CryptographicEscrow F) := do
  let escrow ← Program.ofExcept (CryptographicEscrow.make sha256 traceId actionType payload)
  Program.modify fun w ↦ w.addEscrow escrow
  return escrow

/-- `"GAT-CLEAR-"` and what follows it. -/
def isClearance (signature : String) : Bool :=
  signature != "" && "GAT-CLEAR-".toList.isPrefixOf signature.toList

def commitEscrows (w : VTICoordinator F) (traceId : String) : VTICoordinator F where
  escrows := Function.update w.escrows traceId []
  committedActions := w.committedActions ++
    ((w.escrows traceId).filter fun e ↦ e.status = .staged).map
      fun e ↦ { e with status := .committed }

def commitAction (traceId clearanceSignature : String) : Call F Bool := do
  if isClearance clearanceSignature then
    let w ← Program.get
    if (w.escrows traceId).isEmpty then return false
    Program.modify fun w ↦ w.commitEscrows traceId
    return true
  else Program.raise (.valueError ("Invalid clearance signature for trace " ++ traceId))

def rollbackAction (traceId : String) : Call F Bool := do
  let w ← Program.get
  if (w.escrows traceId).isEmpty then return false
  Program.modify fun w ↦ { w with escrows := Function.update w.escrows traceId [] }
  return true

def getStagedActions (w : VTICoordinator F) (traceId : String) : List (CryptographicEscrow F) :=
  w.escrows traceId

end VTICoordinator

/-! ## The oracle -/

structure GATClearanceOracle where
  driftThreshold : ℚ

namespace GATClearanceOracle

/-- The loop over the outputs. -/
def maxDriftProb (result : GraphDiffusionResult) : ℚ :=
  result.nodeOutputs.foldl (fun m output ↦
    let m := if m < output.2.rootProbability then output.2.rootProbability else m
    if m < output.2.symptomProbability then output.2.symptomProbability else m) 0

/-- The fresh id is the `hex` of a `uuid4`. -/
def evaluateTrajectory (oracle : GATClearanceOracle) (traceId : String)
    (diffusionResult : GraphDiffusionResult) (hex : String) : VTICoordinator.Call F Bool :=
  if maxDriftProb diffusionResult < oracle.driftThreshold then
    VTICoordinator.commitAction traceId ("GAT-CLEAR-" ++ hex)
  else VTICoordinator.rollbackAction traceId

/-- The trajectory is cleared: all probabilities are below the threshold, which is positive. -/
def Cleared (oracle : GATClearanceOracle) (result : GraphDiffusionResult) : Prop :=
  0 < oracle.driftThreshold ∧ ∀ output ∈ result.nodeOutputs,
    output.2.rootProbability < oracle.driftThreshold ∧
      output.2.symptomProbability < oracle.driftThreshold

instance (oracle : GATClearanceOracle) (result : GraphDiffusionResult) :
    Decidable (oracle.Cleared result) := inferInstanceAs (Decidable (_ ∧ _))

variable {oracle : GATClearanceOracle} {result : GraphDiffusionResult}

theorem maxDriftProb_lt_iff :
    maxDriftProb result < oracle.driftThreshold ↔ oracle.Cleared result := by
  rw [maxDriftProb, Cleared]
  generalize result.nodeOutputs = outputs
  generalize (0 : ℚ) = m
  induction outputs generalizing m with
  | nil => simp
  | cons output outputs ih =>
    rw [List.foldl_cons, ih, List.forall_mem_cons]
    dsimp only
    split_ifs with h1 h2 h2 <;> constructor
    · rintro ⟨h, hrest⟩
      exact ⟨h1.trans (h2.trans h), ⟨h2.trans h, h⟩, hrest⟩
    · rintro ⟨-, ⟨-, h⟩, hrest⟩
      exact ⟨h, hrest⟩
    · rintro ⟨h, hrest⟩
      exact ⟨h1.trans h, ⟨h, (not_lt.mp h2).trans_lt h⟩, hrest⟩
    · rintro ⟨-, ⟨h, -⟩, hrest⟩
      exact ⟨h, hrest⟩
    · rintro ⟨h, hrest⟩
      exact ⟨h2.trans h, ⟨(not_lt.mp h1).trans_lt (h2.trans h), h⟩, hrest⟩
    · rintro ⟨-, ⟨-, h⟩, hrest⟩
      exact ⟨h, hrest⟩
    · rintro ⟨h, hrest⟩
      exact ⟨h, ⟨(not_lt.mp h1).trans_lt h, (not_lt.mp h2).trans_lt h⟩, hrest⟩
    · rintro ⟨h, -, hrest⟩
      exact ⟨h, hrest⟩

open MultiAgentDiffusionEngine

/-- The decision in terms of the scores of the diffusion. -/
theorem cleared_runBackwardDiffusion_iff {engine : MultiAgentDiffusionEngine} {input : DiffusionInput} :
    oracle.Cleared (engine.runBackwardDiffusion input) ↔ 0 < oracle.driftThreshold ∧
      ∀ node ∈ input.nodes,
        min 1 (engine.scoresAfter input engine.numSteps node.nodeId) < oracle.driftThreshold ∧
          node.localSymptomScore < oracle.driftThreshold := by
  rw [Cleared, MultiAgentDiffusionEngine.runBackwardDiffusion]
  exact and_congr_right fun _ ↦ List.forall_mem_map

/-- **More symptoms, fewer commits.** A trajectory that is cleared with greater symptoms is cleared.
-/
theorem cleared_antitone {engine : MultiAgentDiffusionEngine} {input : DiffusionInput}
    {nodes' : List NodeState} (hdecay : 0 ≤ engine.decayFactor) (hinput : WellFormed input)
    (hle : SymptomsLe input.nodes nodes') (hone : ∀ node ∈ nodes', node.localSymptomScore ≤ 1)
    (hcleared : oracle.Cleared (engine.runBackwardDiffusion { input with nodes := nodes' })) :
    oracle.Cleared (engine.runBackwardDiffusion input) := by
  rw [cleared_runBackwardDiffusion_iff] at hcleared ⊢
  refine ⟨hcleared.1, fun node hnode ↦ ?_⟩
  obtain ⟨i, hi, rfl⟩ := List.getElem_of_mem hnode
  have hi' : i < nodes'.length := hle.length_eq ▸ hi
  obtain ⟨hid, hscore⟩ := hle.get hi hi'
  obtain ⟨hroot, hsymptom⟩ := hcleared.2 nodes'[i] (List.getElem_mem hi')
  refine ⟨lt_of_le_of_lt (min_le_min_left 1 ?_) hroot, hscore.trans_lt hsymptom⟩
  have hmono := scoresAfter_mono hdecay hinput hle (hinput.of_symptomsLe hle hone) engine.numSteps
    input.nodes[i].nodeId
  rw [List.get_eq_getElem, List.get_eq_getElem] at hid
  exact hid ▸ hmono

/-- So the probability that the oracle looks at grows with the symptoms. -/
theorem maxDriftProb_mono {engine : MultiAgentDiffusionEngine} {input : DiffusionInput}
    {nodes' : List NodeState} (hdecay : 0 ≤ engine.decayFactor) (hinput : WellFormed input)
    (hle : SymptomsLe input.nodes nodes') (hone : ∀ node ∈ nodes', node.localSymptomScore ≤ 1) :
    maxDriftProb (engine.runBackwardDiffusion input)
      ≤ maxDriftProb (engine.runBackwardDiffusion { input with nodes := nodes' }) := by
  refine le_of_forall_gt fun t ht ↦ ?_
  have hcleared := (@maxDriftProb_lt_iff ⟨t⟩ _).mp ht
  exact (@maxDriftProb_lt_iff ⟨t⟩ _).mpr (cleared_antitone hdecay hinput hle hone hcleared)

theorem maxDriftProb_mono_cycle :
    maxDriftProb (runBackwardDiffusion ⟨3, 17 / 20⟩
      ⟨[⟨"a", 0⟩, ⟨"b", 1 / 4⟩], [⟨"a", "b", 1, 1⟩, ⟨"b", "a", 1, -1⟩]⟩)
      ≤ maxDriftProb (runBackwardDiffusion ⟨3, 17 / 20⟩
        ⟨[⟨"a", 1 / 5⟩, ⟨"b", 1 / 2⟩], [⟨"a", "b", 1, 1⟩, ⟨"b", "a", 1, -1⟩]⟩) :=
  maxDriftProb_mono (by decide +kernel) ⟨by decide, by decide +kernel, by decide +kernel⟩
    (.cons ⟨rfl, by decide +kernel⟩ (.cons ⟨rfl, by decide +kernel⟩ .nil)) (by decide +kernel)

end GATClearanceOracle

/-! ## Runs -/

section Runs

variable [FloatText F] (sha256 : List UInt8 → String)

/-- A call of the coordinator or of an oracle. -/
inductive Request (F : Type) where
  | stage (traceId actionType : String) (payload : List (Key F × Val F))
  | commit (traceId clearanceSignature : String)
  | rollback (traceId : String)
  | evaluate (oracle : GATClearanceOracle) (traceId : String) (result : GraphDiffusionResult)
      (hex : String)

namespace Request

def run : Request F → VTICoordinator.Call F Unit
  | .stage traceId actionType payload => do
    let _ ← VTICoordinator.stageAction sha256 traceId actionType payload
  | .commit traceId clearanceSignature => do
    let _ ← VTICoordinator.commitAction traceId clearanceSignature
  | .rollback traceId => do
    let _ ← VTICoordinator.rollbackAction traceId
  | .evaluate oracle traceId result hex => do
    let _ ← oracle.evaluateTrajectory traceId result hex

/-- What the call is for the actions: one more of them, a decision about their trace, or nothing. -/
def events : Request F → List (Staging.Event String (CryptographicEscrow F))
  | .stage traceId actionType payload =>
    match CryptographicEscrow.make sha256 traceId actionType payload with
    | .ok escrow => [.stage escrow]
    | .error _ => []
  | .commit traceId clearanceSignature =>
    if VTICoordinator.isClearance clearanceSignature then [.decide traceId true] else []
  | .rollback traceId => [.decide traceId false]
  | .evaluate oracle traceId result _ => [.decide traceId (decide (oracle.Cleared result))]

end Request

def CryptographicEscrow.commit (e : CryptographicEscrow F) : CryptographicEscrow F :=
  { e with status := .committed }

/-- The coordinator holds what is pending and what was committed. -/
structure Represents (w : VTICoordinator F)
    (s : Staging.State String (CryptographicEscrow F)) : Prop where
  pending : w.escrows = s.pending
  committed : w.committedActions = s.committed.map CryptographicEscrow.commit
  staged : ∀ k, ∀ e ∈ s.pending k, e.status = .staged

variable {sha256} {w : VTICoordinator F} {s : Staging.State String (CryptographicEscrow F)}

abbrev stagingStep :
    Staging.State String (CryptographicEscrow F) → Staging.Event String (CryptographicEscrow F) →
      Staging.State String (CryptographicEscrow F) :=
  Staging.step CryptographicEscrow.traceId

theorem isClearance_append (hex : String) :
    VTICoordinator.isClearance ("GAT-CLEAR-" ++ hex) = true := by
  rw [VTICoordinator.isClearance, Bool.and_eq_true, bne_iff_ne, List.isPrefixOf_iff_prefix,
    String.toList_append]
  refine ⟨fun h ↦ ?_, List.prefix_append _ _⟩
  have hnil := congrArg String.toList h
  rw [String.toList_append] at hnil
  exact absurd hnil (by simp)

theorem status_of_make {traceId actionType : String} {payload : List (Key F × Val F)}
    {escrow : CryptographicEscrow F}
    (h : CryptographicEscrow.make sha256 traceId actionType payload = .ok escrow) :
    escrow.status = .staged := by
  rw [CryptographicEscrow.make] at h
  split at h
  · exact absurd h (by simp)
  · exact Except.ok.inj h ▸ rfl

omit [FloatText F] in
theorem Represents.stage (h : Represents w s) {escrow : CryptographicEscrow F}
    (hstatus : escrow.status = .staged) :
    Represents (w.addEscrow escrow) (stagingStep s (.stage escrow)) where
  pending := by
    show Function.update _ _ _ = Function.update _ _ _
    rw [h.pending]
  committed := h.committed
  staged k e he := by
    change e ∈ Function.update s.pending escrow.traceId _ k at he
    by_cases hk : k = escrow.traceId
    · subst hk
      rw [Function.update_self] at he
      obtain he | he := List.mem_append.mp he
      · exact h.staged _ e he
      · exact List.mem_singleton.mp he ▸ hstatus
    · rw [Function.update_of_ne hk] at he
      exact h.staged k e he

omit [FloatText F] in
theorem staged_decide (h : Represents w s) (traceId : String) (clear : Bool) (k : String) :
    ∀ e ∈ (stagingStep s (.decide traceId clear)).pending k, e.status = .staged := by
  intro e he
  change e ∈ Function.update s.pending traceId [] k at he
  by_cases hk : k = traceId
  · subst hk
    rw [Function.update_self] at he
    exact absurd he List.not_mem_nil
  · rw [Function.update_of_ne hk] at he
    exact h.staged k e he

omit [FloatText F] in
theorem Represents.decide_of_nil (h : Represents w s) {traceId : String} (clear : Bool)
    (hnil : w.escrows traceId = []) : Represents w (stagingStep s (.decide traceId clear)) where
  pending := by
    show _ = Function.update _ _ _
    rw [← h.pending, ← hnil, Function.update_eq_self]
  committed := by
    show _ = List.map _ (s.committed ++ _)
    rw [← h.pending, hnil, ite_self, List.append_nil, h.committed]
  staged := staged_decide h traceId clear

omit [FloatText F] in
theorem Represents.commit (h : Represents w s) (traceId : String) :
    Represents (w.commitEscrows traceId) (stagingStep s (.decide traceId true)) where
  pending := by
    show Function.update _ _ _ = Function.update _ _ _
    rw [h.pending]
  committed := by
    show w.committedActions ++ _ = List.map _ (s.committed ++ _)
    rw [List.map_append, h.committed, h.pending, if_pos rfl, List.filter_eq_self.mpr]
    · rfl
    · exact fun e he ↦ decide_eq_true (h.staged traceId e he)
  staged := staged_decide h traceId true

omit [FloatText F] in
theorem Represents.rollback (h : Represents w s) (traceId : String) :
    Represents { w with escrows := Function.update w.escrows traceId [] }
      (stagingStep s (.decide traceId false)) where
  pending := by
    show Function.update _ _ _ = Function.update _ _ _
    rw [h.pending]
  committed := by
    show _ = List.map _ (s.committed ++ _)
    rw [if_neg Bool.false_ne_true, List.append_nil, h.committed]
  staged := staged_decide h traceId false

omit [FloatText F] in
theorem represents_commitAction (h : Represents w s) (traceId : String) {signature : String}
    (hsignature : VTICoordinator.isClearance signature = true) :
    Represents (VTICoordinator.commitAction traceId signature w).2
      (stagingStep s (.decide traceId true)) := by
  rw [VTICoordinator.commitAction, if_pos hsignature, Program.bind_of_ok Program.get_apply]
  split
  · rename_i hempty
    exact h.decide_of_nil true (List.isEmpty_iff.mp hempty)
  · exact h.commit traceId

omit [FloatText F] in
theorem represents_rollbackAction (h : Represents w s) (traceId : String) :
    Represents (VTICoordinator.rollbackAction traceId w).2
      (stagingStep s (.decide traceId false)) := by
  rw [VTICoordinator.rollbackAction, Program.bind_of_ok Program.get_apply]
  split
  · rename_i hempty
    exact h.decide_of_nil false (List.isEmpty_iff.mp hempty)
  · exact h.rollback traceId

/-- **One call** does to the actions what its events say. -/
theorem represents_run (h : Represents w s) (request : Request F) :
    Represents (request.run sha256 w).2 ((request.events sha256).foldl stagingStep s) := by
  cases request with
  | stage traceId actionType payload =>
    rw [Request.run, Program.snd_bind_pure, VTICoordinator.stageAction, Request.events]
    cases hmake : CryptographicEscrow.make sha256 traceId actionType payload with
    | ok escrow =>
      exact h.stage (status_of_make hmake)
    | error e => exact h
  | commit traceId signature =>
    rw [Request.run, Program.snd_bind_pure, Request.events]
    split
    · rename_i hsignature
      exact represents_commitAction h traceId hsignature
    · rename_i hsignature
      rw [VTICoordinator.commitAction, if_neg hsignature]
      exact h
  | rollback traceId =>
    rw [Request.run, Program.snd_bind_pure, Request.events]
    exact represents_rollbackAction h traceId
  | evaluate oracle traceId result hex =>
    rw [Request.run, Program.snd_bind_pure, Request.events, GATClearanceOracle.evaluateTrajectory]
    by_cases hcleared : oracle.Cleared result
    · rw [if_pos (GATClearanceOracle.maxDriftProb_lt_iff.mpr hcleared), decide_eq_true hcleared]
      exact represents_commitAction h traceId (isClearance_append hex)
    · rw [if_neg (mt GATClearanceOracle.maxDriftProb_lt_iff.mp hcleared), decide_eq_false hcleared]
      exact represents_rollbackAction h traceId

omit [FloatText F] in
/-- What became of the actions of a trace. -/
theorem Represents.fates {events : List (Staging.Event String (CryptographicEscrow F))}
    (h : Represents w (Staging.run CryptographicEscrow.traceId events)) (traceId : String) :
    (w.committedActions.filter fun e ↦ e.traceId = traceId)
        = (Staging.itemsWith CryptographicEscrow.traceId traceId (some true) events).map
          CryptographicEscrow.commit ∧
      w.getStagedActions traceId = Staging.itemsWith CryptographicEscrow.traceId traceId none events := by
  obtain ⟨hpending, hcommitted⟩ := Staging.run_eq_fates CryptographicEscrow.traceId events traceId
  constructor
  · rw [h.committed, List.filter_map, ← hcommitted]
    rfl
  · rw [VTICoordinator.getStagedActions, h.pending, hpending]

end Runs

end DriftGuardX.Sandbox
