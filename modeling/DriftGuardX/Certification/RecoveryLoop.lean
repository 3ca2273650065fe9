import DriftGuardX.Bcrb.TestOrder
import DriftGuardX.Certification.Approval
import DriftGuardX.Foundation.Digest
import Mathlib.Data.List.MinMax

/-!
# The recovery loop

A session of the reasoning board is diagnosed: its root cause is the component of the candidate with
the highest posterior, when some posterior is at least 0.80. That component is quarantined, and then an
approval is requested for a replay, which is that of the step with the highest observed utility.

Whether a quarantine holds is found out elsewhere, and may not be supported.
-/

namespace DriftGuardX.Certification

open Bcrb Bytes Json Transaction
open Isolation (Uuid)
open Replay (ComponentType EvidenceClassification uuidText)

variable {R : Type} [LinearOrder R] [Add R] [Sub R] [Mul R] [Div R] (lib : FloatLibrary R)

/-! ## Diagnosis -/

inductive DiagnosisStatus where
  | unknown
  | rootCauseIsolated
  | insufficientEvidence
  deriving DecidableEq, Repr

/-- A diagnosis, but for the texts that describe it. -/
structure Diagnosis (R : Type) where
  rootCauseComponent : Option ComponentType
  status : DiagnosisStatus
  highestCandidateComponent : Option ComponentType
  highestPosterior : Option R
  confidenceThreshold : R
  nextAction : Option String
  deriving DecidableEq, Repr

/-- What is raised by the loop. -/
inductive LoopError where
  | valueError
  | attributeError
  | runtimeError (message : String)
  | canaryRaised
  | isolatorRaised
  deriving DecidableEq, Repr

/-- `candidate_map.get(id)`: of candidates with one id the last is found. -/
def candidateOf (candidates : List (BCRBCandidate R)) (id : Uuid) : Option (BCRBCandidate R) :=
  candidates.reverse.find? fun c ↦ c.candidateId = id

/-- The candidate of a step and its posterior, if it has one. -/
def evaluated (candidates : List (BCRBCandidate R)) (step : BCRBStep R) :
    Option (BCRBCandidate R × R) := do
  let c ← candidateOf candidates step.candidateId
  let posterior ← c.posterior
  return (c, posterior)

/-- The highest posterior, and the first candidate that has it. -/
def highest (found : List (BCRBCandidate R × R)) : R × Option (BCRBCandidate R) :=
  found.foldl (fun best cand ↦ if best.1 < cand.2 then (cand.2, some cand.1) else best)
    (lib.literal (-1), none)

/-- `generate_diagnosis` -/
def generateDiagnosis (evaluatedSteps : List (BCRBStep R)) (candidates : List (BCRBCandidate R)) :
    Except LoopError (Diagnosis R) :=
  let found := evaluatedSteps.filterMap (evaluated candidates)
  let best := highest lib found
  let threshold := lib.literal (4 / 5)
  if evaluatedSteps = [] then
    .ok ⟨none, .unknown, none, none, threshold, none⟩
  else
    let posterior := if lib.literal 0 ≤ best.1 then some best.1 else none
    let component := best.2.map BCRBCandidate.componentType
    if ∃ cand ∈ found, threshold ≤ cand.2 then
      match component with
      | none => .error .attributeError
      | some c => .ok ⟨some c, .rootCauseIsolated, some c, posterior, threshold, none⟩
    else
      .ok ⟨none, .insufficientEvidence, component, posterior, threshold, "collect another replay"⟩

/-! ## The request -/

/-- What comes of a quarantine and its validation. -/
inductive QuarantineOutcome where
  | raised
  | validated (success : Bool)
  | notImplemented
  deriving DecidableEq, Repr

/-- A pipeline, with what comes of its quarantines. -/
structure EndToEndRecoveryPipeline where
  tenantId : String
  forceAutomated : Bool := false
  quarantine : ComponentType → QuarantineOutcome

/-- `str` of an optional identifier. -/
def optionText : Option Uuid → String
  | none => "None"
  | some id => uuidText id

theorem optionText_injective : Function.Injective optionText := by
  have hparse : ∀ id, Isolation.canonicalIds.parse (uuidText id) = some id :=
    Isolation.canonicalIds.parse_text
  have hunread : Isolation.canonicalIds.parse "None" = none := by decide +kernel
  have hnone : ∀ id, uuidText id ≠ "None" := by
    intro id h
    have hid := hparse id
    rw [h, hunread] at hid
    exact (Option.some_ne_none id hid.symm).elim
  intro a b h
  cases a with
  | none =>
    cases b with
    | none => rfl
    | some b => exact absurd h.symm (hnone b)
  | some a =>
    cases b with
    | none => exact absurd h (hnone a)
    | some b =>
      have hb := hparse b
      rw [show uuidText b = uuidText a from h.symm, hparse a] at hb
      exact hb

/-- `RecoveryCertificate.compute_hash` -/
def computeHash (sha256 : List UInt8 → String) (runId : Uuid) (replayId : Option Uuid)
    (interventionId : Uuid) (issuedBy : String) (evidenceClass : EvidenceClassification) : String :=
  sha256 (utf8 (s!"{uuidText runId}:{optionText replayId}:{uuidText interventionId}:{issuedBy}:"
    ++ evidenceValue evidenceClass))

/-- The step with the highest observed utility, and of several the first. -/
def bestStep (evaluatedSteps : List (BCRBStep R)) : Option (BCRBStep R) :=
  evaluatedSteps.argmax fun s ↦ s.utilityObserved.getD (lib.literal (-1))

/-- What the loop returns. -/
inductive LoopResult (R F : Type) where
  | nothing
  | insufficientEvidence (nextAction : Option String) (highestPosterior : Option R) (threshold : R)
      (highestCandidateComponent : Option ComponentType)
  | request (request : ApprovalRequestORM F)

/-- The request that was returned, if any. -/
def requestOf {F : Type} : Except LoopError (LoopResult R F) → Option (ApprovalRequestORM F)
  | .ok (.request request) => some request
  | _ => none

omit [LinearOrder R] [Add R] [Sub R] [Mul R] [Div R] in
theorem requestOf_eq_some_iff {F : Type} {x : Except LoopError (LoopResult R F)}
    {request : ApprovalRequestORM F} : requestOf x = some request ↔ x = .ok (.request request) := by
  constructor
  · intro h
    unfold requestOf at h
    split at h
    · rw [Option.some.inj h]
    · contradiction
  · rintro rfl
    rfl

section Loop

variable {K F : Type} (certificates : CertificationLibrary K F) (sha256 : List UInt8 → String)

/-- The context of the request for a step. -/
def requestContext (runId : String) (runUuid : Uuid) (replayId : Option Uuid)
    (interventionId : Uuid) : Context F :=
  [("run_id", .str runId), ("replay_episode_id", .str (optionText replayId)),
    ("intervention_id", .str (uuidText interventionId)),
    ("evidence_kind", .str (evidenceValue .syntheticSimulation)),
    ("cert_hash", .str (computeHash sha256 runUuid replayId interventionId
      "bcrb_automated_pipeline" .syntheticSimulation))]

/-- A day in microseconds. -/
def day : ℤ := 24 * 60 * 60 * 1000000

/-- The request for the best step. -/
def EndToEndRecoveryPipeline.certify (pipeline : EndToEndRecoveryPipeline) (runId : String)
    (runUuid tenantUuid : Uuid) (session : BCRBSession R) (interventionId : Uuid) (now : ℤ) :
    Except LoopError (LoopResult R F) := do
  let best ← orRaise .valueError (bestStep lib session.steps)
  require (pipeline.forceAutomated = false)
    (.runtimeError "Safety violation: cannot automatically repair from synthetic evidence")
  return .request {
    tenantId := tenantUuid
    status := .pending
    expiresAt := now + day
    contextJson := requestContext sha256 runId runUuid best.replayEpisodeId interventionId }

/-- What is requested after a session. -/
def EndToEndRecoveryPipeline.requestApproval (pipeline : EndToEndRecoveryPipeline) (runId : String)
    (runUuid tenantUuid : Uuid) (session : BCRBSession R) (interventionId : Uuid) (now : ℤ) :
    Except LoopError (LoopResult R F) := do
  if session.candidates = [] then return .nothing
  let diagnosis ← generateDiagnosis lib session.steps session.candidates
  if diagnosis.status = .insufficientEvidence then
    return .insufficientEvidence diagnosis.nextAction diagnosis.highestPosterior
      diagnosis.confidenceThreshold diagnosis.highestCandidateComponent
  match diagnosis.rootCauseComponent with
  | none => return .nothing
  | some component =>
    match pipeline.quarantine component with
    | .raised => .error .isolatorRaised
    | .validated false => return .nothing
    | .validated true | .notImplemented =>
      pipeline.certify lib sha256 runId runUuid tenantUuid session interventionId now

variable {lib} in
/-- `execute_recovery_loop` -/
def EndToEndRecoveryPipeline.executeRecoveryLoop (pipeline : EndToEndRecoveryPipeline)
    (runId : String) (plan : Plan lib) (canary : BCRBCandidate R → CanaryOutcome R)
    (interventionId : Uuid) (now : ℤ) : Except LoopError (LoopResult R F) := do
  let runUuid ← orRaise .valueError (certificates.uuid runId)
  let tenantUuid ← orRaise .valueError (certificates.uuid pipeline.tenantId)
  let session ← orRaise .canaryRaised (executeSession (lib.literal 1) plan canary)
  pipeline.requestApproval lib sha256 runId runUuid tenantUuid session interventionId now

variable {lib certificates sha256}

/-! ### What a request says -/

/-- What a request was made from: the diagnosis of a session and its best step. -/
structure Requested (sha256 : List UInt8 → String) (runId : String) (runUuid : Uuid)
    (session : BCRBSession R) (interventionId : Uuid) (lib : FloatLibrary R)
    (request : ApprovalRequestORM F) (diagnosis : Diagnosis R) (best : BCRBStep R) : Prop where
  diagnosed : generateDiagnosis lib session.steps session.candidates = .ok diagnosis
  rootCause : diagnosis.rootCauseComponent.isSome
  certified : bestStep lib session.steps = some best
  status : request.status = .pending
  context :
    request.contextJson = requestContext sha256 runId runUuid best.replayEpisodeId interventionId

@[simp] theorem lookup_replayEpisodeId {runId : String} {runUuid interventionId : Uuid}
    {replayId : Option Uuid} :
    (requestContext (F := F) sha256 runId runUuid replayId interventionId).lookup "replay_episode_id"
      = some (.str (optionText replayId)) :=
  rfl

@[simp] theorem lookup_certHash {runId : String} {runUuid interventionId : Uuid}
    {replayId : Option Uuid} :
    (requestContext (F := F) sha256 runId runUuid replayId interventionId).lookup "cert_hash"
      = some (.str (computeHash sha256 runUuid replayId interventionId "bcrb_automated_pipeline"
        .syntheticSimulation)) :=
  rfl

theorem context_of_certify {pipeline : EndToEndRecoveryPipeline} {runId : String}
    {runUuid tenantUuid : Uuid} {session : BCRBSession R} {interventionId : Uuid} {now : ℤ}
    {request : ApprovalRequestORM F}
    (h : pipeline.certify lib sha256 runId runUuid tenantUuid session interventionId now
      = .ok (.request request)) :
    ∃ best, bestStep lib session.steps = some best ∧ request.status = .pending ∧
      request.contextJson =
        requestContext sha256 runId runUuid best.replayEpisodeId interventionId := by
  simp only [EndToEndRecoveryPipeline.certify, bind_eq_ok_iff, orRaise_eq_ok_iff,
    require_eq_ok_iff, pure_eq_ok_iff] at h
  obtain ⟨best, hbest, _, -, h⟩ := h
  injection h with h
  exact ⟨best, hbest, h ▸ rfl, h ▸ rfl⟩

theorem exists_requested {pipeline : EndToEndRecoveryPipeline} {runId : String} {plan : Plan lib}
    {canary : BCRBCandidate R → CanaryOutcome R} {interventionId : Uuid} {now : ℤ}
    {request : ApprovalRequestORM F}
    (h : pipeline.executeRecoveryLoop certificates sha256 runId plan canary interventionId now
      = .ok (.request request)) :
    ∃ runUuid session diagnosis best, certificates.uuid runId = some runUuid ∧
      executeSession (lib.literal 1) plan canary = some session ∧
      Requested sha256 runId runUuid session interventionId lib request diagnosis best := by
  simp only [EndToEndRecoveryPipeline.executeRecoveryLoop, bind_eq_ok_iff, orRaise_eq_ok_iff] at h
  obtain ⟨runUuid, hrun, tenantUuid, -, session, hsession, h⟩ := h
  have hnothing : (pure .nothing : Except LoopError (LoopResult R F)) ≠ .ok (.request request) :=
    fun heq ↦ absurd (pure_eq_ok_iff.mp heq) (by simp)
  unfold EndToEndRecoveryPipeline.requestApproval at h
  split at h
  · exact absurd h hnothing
  · obtain ⟨diagnosis, hdiagnosis, h⟩ := bind_eq_ok_iff.mp h
    split at h
    · exact absurd (pure_eq_ok_iff.mp h) (by simp)
    · split at h
      · exact absurd h hnothing
      · rename_i component hcomponent
        split at h
        · contradiction
        · exact absurd h hnothing
        all_goals
          obtain ⟨best, hbest, hstatus, hcontext⟩ := context_of_certify h
          exact ⟨runUuid, session, diagnosis, best, hrun, hsession, hdiagnosis, hcomponent ▸ rfl,
            hbest, hstatus, hcontext⟩

end Loop

/-! ## An instance -/

/-- A pipeline of tenant 1 that does not support the validation of quarantines. -/
def samplePipeline : EndToEndRecoveryPipeline where
  tenantId := uuidText 1
  quarantine _ := .notImplemented

/-- Canaries that measure one difference for candidate 1 and another for the others. -/
def sampleCanaries (forFirst forOthers : ℚ) : Canaries ℚ where
  execute c :=
    .measured (100 + c.candidateId) (1 / 50) (if c.candidateId = 1 then forFirst else forOthers)
  drawn c d id hc hd := by
    have hid := Option.some.inj (hc.trans hd.symm)
    exact (BitVec.add_right_inj 100).mp hid

/-- The loop for run 2, with a retriever as candidate 1 and a generator as candidate 2. -/
def sampleLoop (forRetriever forGenerator : ℚ) : Except LoopError (LoopResult ℚ WholeFloat) :=
  samplePipeline.executeRecoveryLoop numberedKeys hexDigest (uuidText 2) samplePlan
    (sampleCanaries forRetriever forGenerator).execute 4 0

end DriftGuardX.Certification
