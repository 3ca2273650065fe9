import DriftGuardX.Certification.RecoveryLoop
import DriftGuardX.Certification.Verification

/-!
# Approving what the recovery loop requests

The loop writes the evidence of a request under another key than the one under which `approve_recovery`
looks it up. So no request of the loop can be approved (`not_yieldsVerifiable`).
-/

namespace DriftGuardX.Certification

open Bcrb Bytes Json Transaction
open Isolation (Uuid)
open Replay (uuidText)

variable {K F : Type} [FloatText F] {lib : CertificationLibrary K F}

/-! ## The JSON form of a certificate -/

def CryptographicSignature.json (signature : CryptographicSignature) : Members F :=
  [(.str "algorithm", .str signature.algorithm), (.str "public_key", .str signature.publicKey),
    (.str "signature", .str signature.signature), (.str "signer_id", .str signature.signerId)]

/-- The JSON form of a certificate that was issued at a time. -/
def RecoveryCertificate.json (certificate : RecoveryCertificate) (issuedAt : String) : Members F :=
  [(.str "id", .str (uuidText certificate.id)), (.str "run_id", .str (uuidText certificate.runId)),
    (.str "replay_episode_id", .str (uuidText certificate.replayEpisodeId)),
    (.str "intervention_id", .str (uuidText certificate.interventionId)),
    (.str "repair_decision_id", .str (uuidText certificate.repairDecisionId)),
    (.str "tenant_id", .str (uuidText certificate.tenantId)),
    (.str "certificate_hash", .str certificate.certificateHash), (.str "issued_at", .str issuedAt),
    (.str "issued_by", .str certificate.issuedBy),
    (.str "payload_summary", .str certificate.payloadSummary),
    (.str "is_valid", .scalar (.bool certificate.isValid)),
    (.str "evidence_class", .str (evidenceValue certificate.evidenceClass)),
    (.str "approval_state", .str certificate.approvalState),
    (.str "cryptographic_signature", .dict certificate.cryptographicSignature.json)]

/-- What is posted to have a certificate verified. -/
def RecoveryCertificate.payload (certificate : RecoveryCertificate) (issuedAt : String) : Members F :=
  [(.str "certificate", .dict (certificate.json issuedAt))]

section Accepted

variable [DecidableEq K] (lib)

def Accepts (payload : Members F) : Prop :=
  ∃ certificate, verifyRecoveryCertificate lib payload = .ok certificate

end Accepted

/-! ## Approval -/

/-- An administrator of the tenant of a request approves it in time, with a blast radius of at most 0.8
and no promotion policy. -/
structure ApprovesInTime (lib : CertificationLibrary K F) (request : ApprovalRequestORM F)
    (rows : Uuid → Option (ApprovalRequestORM F)) (payload : ApprovalPayload) (user : User) (now : ℤ) :
    Prop where
  requested : ∃ id text, payload.approvalId = some text ∧ text ≠ "" ∧ lib.uuid text = some id ∧
    rows id = some request
  approves : payload.decision = "APPROVED"
  blastRadius : payload.blastRadius ≤ maxBlastRadius
  noPolicy : payload.simulatePromotionPolicy = false
  tenant : user.tenantId = request.tenantId
  inTime : now ≤ request.expiresAt

/-- The approval returns a certificate that is accepted whenever it is issued. -/
def YieldsVerifiable [DecidableEq K] (lib : CertificationLibrary K F) (reply : Reply) : Prop :=
  ∃ certificate, reply = .certificate certificate ∧
    ∀ issuedAt, Accepts lib (certificate.payload issuedAt)

theorem not_yieldsVerifiable_of_raised [DecidableEq K] {reply : Reply} {error : ApprovalError}
    (h : reply = .raised error) : ¬ YieldsVerifiable lib reply := by
  rintro ⟨certificate, hreply, -⟩
  rw [h] at hreply
  contradiction

/-- An approval in time mints a certificate, or raises what minting raises. -/
theorem approveRecovery_eq {request : ApprovalRequestORM F}
    {rows : Uuid → Option (ApprovalRequestORM F)} {payload : ApprovalPayload} {user : User} {now : ℤ}
    {draws : Draws K} (hpending : request.status = .pending)
    (h : ApprovesInTime lib request rows payload user now) :
    (approveRecovery lib rows payload user now draws).1 =
      match mint lib request.tenantId request.contextJson draws with
      | .error e => .raised e
      | .ok certificate => .certificate certificate := by
  obtain ⟨id, text, hid, hne, huuid, hrow⟩ := h.requested
  have hrequested : requestedId lib payload = .ok id := by
    have hradius : ¬ (maxBlastRadius < payload.blastRadius ∧ payload.isDryRun = false) :=
      fun hlarge ↦ absurd hlarge.1 (not_lt.mpr h.blastRadius)
    refine bind_eq_ok_iff.mpr ⟨text, orRaise_eq_ok_iff.mpr ?_, bind_eq_ok_iff.mpr ⟨(),
      require_eq_ok_iff.mpr hradius, orRaise_eq_ok_iff.mpr huuid⟩⟩
    rw [hid, Option.filter_some, if_pos (by simpa using hne)]
  rw [approveRecovery, hrequested]
  simp only [decideRequest, hrow]
  rw [if_neg (not_not.mpr h.tenant.symm), if_neg (not_not.mpr hpending), if_neg (not_lt.mpr h.inTime),
    if_neg (not_not.mpr h.approves), if_neg (by simp [h.noPolicy])]
  cases mint lib request.tenantId request.contextJson draws with
  | error e => rfl
  | ok certificate => rfl

section Yields

variable [DecidableEq K] {request : ApprovalRequestORM F} {rows : Uuid → Option (ApprovalRequestORM F)}
  {payload : ApprovalPayload} {user : User} {now : ℤ}

variable {R : Type} [LinearOrder R] [Add R] [Sub R] [Mul R] [Div R] {floats : FloatLibrary R}
  {sha256 : List UInt8 → String}

omit [DecidableEq K] in
theorem mint_requestContext {tenantId : Uuid} {runId : String} {runUuid interventionId : Uuid}
    {replayId : Option Uuid} {draws : Draws K} :
    mint lib tenantId (requestContext sha256 runId runUuid replayId interventionId) draws
      = .error (.keyError "evidence_class") :=
  rfl

omit [DecidableEq K] in
theorem raised_of_executeRecoveryLoop {pipeline : EndToEndRecoveryPipeline} {runId : String}
    {plan : Plan floats} {canary : BCRBCandidate R → CanaryOutcome R} {interventionId : Uuid}
    {requestedAt : ℤ} (draws : Draws K)
    (h : pipeline.executeRecoveryLoop lib sha256 runId plan canary interventionId requestedAt
      = .ok (.request request))
    (happroves : ApprovesInTime lib request rows payload user now) :
    (approveRecovery lib rows payload user now draws).1 = .raised (.keyError "evidence_class") := by
  obtain ⟨runUuid, session, diagnosis, best, -, -, hrequested⟩ := exists_requested h
  rw [approveRecovery_eq hrequested.status happroves, hrequested.context, mint_requestContext]

/-- **No approved recovery yields a certificate.** -/
theorem not_yieldsVerifiable {pipeline : EndToEndRecoveryPipeline} {runId : String}
    {plan : Plan floats} {canary : BCRBCandidate R → CanaryOutcome R} {interventionId : Uuid}
    {requestedAt : ℤ} (draws : Draws K)
    (h : pipeline.executeRecoveryLoop lib sha256 runId plan canary interventionId requestedAt
      = .ok (.request request))
    (happroves : ApprovesInTime lib request rows payload user now) :
    ¬ YieldsVerifiable lib (approveRecovery lib rows payload user now draws).1 :=
  not_yieldsVerifiable_of_raised (raised_of_executeRecoveryLoop draws h happroves)

end Yields

/-! ## One approval -/

/-- The payload that approves request 7, and the administrator of tenant 1. -/
def samplePayload : ApprovalPayload where
  approvalId := uuidText 7

def sampleAdministrator : User := ⟨6, 1⟩

def sampleDraws : Draws ℕ := ⟨8, 9, 0⟩

theorem exists_approvesInTime : ∃ request, sampleLoop (9 / 10) (-1 / 2) = .ok (.request request) ∧
    ApprovesInTime numberedKeys request (fun id ↦ if id = 7 then some request else none)
      samplePayload sampleAdministrator 0 := by
  have hsome : (requestOf (sampleLoop (9 / 10) (-1 / 2))).map
      (fun request ↦ (request.tenantId, request.expiresAt)) = some (1, day) := by decide +kernel
  obtain ⟨request, hrequest, heq⟩ := Option.map_eq_some_iff.mp hsome
  obtain ⟨htenant, hexpires⟩ := Prod.mk.inj heq
  refine ⟨request, requestOf_eq_some_iff.mp hrequest, ⟨7, uuidText 7, rfl, by decide +kernel,
    numberedKeys.uuid_uuidText 7, if_pos rfl⟩, rfl, by decide +kernel, rfl, htenant.symm, ?_⟩
  rw [hexpires]
  decide

theorem not_yieldsVerifiable_sample : ∃ request,
    sampleLoop (9 / 10) (-1 / 2) = .ok (.request request) ∧
    ¬ YieldsVerifiable (F := WholeFloat) numberedKeys (approveRecovery numberedKeys
      (fun id ↦ if id = 7 then some request else none) samplePayload sampleAdministrator 0
      sampleDraws).1 := by
  obtain ⟨request, hrequest, happroves⟩ := exists_approvesInTime
  exact ⟨request, hrequest, not_yieldsVerifiable sampleDraws hrequest happroves⟩

/-- The approval of a request of the loop raises a `KeyError`, and returns no certificate. -/
theorem approveRecovery_sampleLoop : ∃ request,
    sampleLoop (9 / 10) (-1 / 2) = .ok (.request request) ∧ request.status = .pending ∧
    ApprovesInTime numberedKeys request (fun id ↦ if id = 7 then some request else none)
      samplePayload sampleAdministrator 0 ∧
    (approveRecovery numberedKeys (fun id ↦ if id = 7 then some request else none) samplePayload
      sampleAdministrator 0 sampleDraws).1 = .raised (.keyError "evidence_class") ∧
    ¬ YieldsVerifiable (F := WholeFloat) numberedKeys (approveRecovery numberedKeys
      (fun id ↦ if id = 7 then some request else none) samplePayload sampleAdministrator 0
      sampleDraws).1 := by
  obtain ⟨request, hrequest, happroves⟩ := exists_approvesInTime
  obtain ⟨_, _, _, _, -, -, hrequested⟩ := exists_requested hrequest
  have hraised := raised_of_executeRecoveryLoop sampleDraws hrequest happroves
  exact ⟨request, hrequest, hrequested.status, happroves, hraised,
    not_yieldsVerifiable_of_raised hraised⟩

end DriftGuardX.Certification
