import DriftGuardX.Foundation.Transaction
import DriftGuardX.Json.Canonical
import DriftGuardX.Replay.Engine

/-!
# Approval of recoveries

`approve_recovery` reads an approval request, decides on it and, when it is approved, mints a
certificate from the request's context. The context is a dictionary that other code has written:
its keys are looked up, its identifiers are parsed, and what they are written as is signed.

Signatures are symbols. A key pair is known by its public key, and a signature is the pair of the key
that made it and the text that it signs.
-/

namespace DriftGuardX.Certification

open Json Transaction
open Isolation (Uuid)
open Replay (EvidenceClassification uuidText)

variable {K F : Type}

/-- The texts of keys and signatures, of identifiers, and `str` and `bool` of values. -/
structure CertificationLibrary (K F : Type) where
  publicKeyB64 : K → String
  readKey : String → Option K
  signatureB64 : K × Text → String
  readSignature : String → Option (K × Text)
  uuid : String → Option Uuid
  repr : Val F → String
  truthy : Val F → Bool
  readKey_publicKeyB64 : ∀ key, readKey (publicKeyB64 key) = some key
  readSignature_signatureB64 : ∀ signed, readSignature (signatureB64 signed) = some signed
  uuid_uuidText : ∀ id, uuid (uuidText id) = some id
  truthy_dict : ∀ members, truthy (.dict members) = !members.isEmpty

/-- The value of an evidence class. -/
def evidenceValue : EvidenceClassification → String
  | .production => "PRODUCTION"
  | .realControlledExperiment => "REAL_CONTROLLED_EXPERIMENT"
  | .syntheticSimulation => "SYNTHETIC_SIMULATION"
  | .testFixture => "TEST_FIXTURE"
  | .unverified => "UNVERIFIED"

/-- The evidence class with a value. -/
def evidenceOf (value : String) : Option EvidenceClassification :=
  [EvidenceClassification.production, .realControlledExperiment, .syntheticSimulation, .testFixture,
    .unverified].find? fun c ↦ evidenceValue c = value

theorem evidenceValue_of_evidenceOf {value : String} {c : EvidenceClassification}
    (h : evidenceOf value = some c) : evidenceValue c = value := by
  simpa using List.find?_some h

/-- What is raised besides the answers of the server. -/
inductive ApprovalError where
  | keyError (key : String)
  | typeError
  | attributeError
  | valueError
  | validationError
  deriving DecidableEq, Repr

abbrev Context (F : Type) := List (String × Val F)

/-- `context[key]` -/
def getItem (context : Context F) (key : String) : Except ApprovalError (Val F) :=
  orRaise (.keyError key) (context.lookup key)

inductive ApprovalStatus where
  | pending
  | expired
  | rejected
  | awaitingPromotion
  | approved
  deriving DecidableEq, Repr

/-- A row of `approval_requests`: the columns that `approve_recovery` reads. -/
structure ApprovalRequestORM (F : Type) where
  tenantId : Uuid
  status : ApprovalStatus
  expiresAt : ℤ
  contextJson : Context F

structure ApprovalDecisionORM where
  id : Uuid
  requestId : Uuid
  actorId : String
  decision : String
  deriving DecidableEq, Repr

structure CryptographicSignature where
  algorithm : String
  publicKey : String
  signature : String
  signerId : String
  deriving DecidableEq, Repr

/-- A certificate, but for the time at which it was issued. -/
structure RecoveryCertificate where
  id : Uuid
  runId : Uuid
  replayEpisodeId : Uuid
  interventionId : Uuid
  repairDecisionId : Uuid
  tenantId : Uuid
  certificateHash : String
  issuedBy : String
  payloadSummary : String
  isValid : Bool
  evidenceClass : EvidenceClassification
  approvalState : String
  cryptographicSignature : CryptographicSignature
  deriving DecidableEq, Repr

/-! ## Minting -/

/-- What is signed and verified. -/
def signedPayload (runId replayEpisodeId interventionId evidenceClass hash : Val F) : Val F :=
  .object [("run_id", runId), ("replay_episode_id", replayEpisodeId),
    ("intervention_id", interventionId), ("evidence_class", evidenceClass), ("hash", hash)]

section Mint

variable [FloatText F] (lib : CertificationLibrary K F)

/-- Its deterministic JSON. -/
def payloadText (runId replayEpisodeId interventionId evidenceClass hash : Val F) : Option Text :=
  dumps ⟨true, true⟩ true (signedPayload runId replayEpisodeId interventionId evidenceClass hash)

/-- `uuid.UUID(value)` -/
def CertificationLibrary.asUuid : Val F → Except ApprovalError Uuid
  | .str s => orRaise .valueError (lib.uuid s)
  | .none => .error .typeError
  | _ => .error .attributeError

/-- `EvidenceClassification(value)` -/
def asEvidence : Val F → Except ApprovalError EvidenceClassification
  | .str s => orRaise .valueError (evidenceOf s)
  | _ => .error .valueError

/-- A field of type `str`. -/
def asText : Val F → Except ApprovalError String
  | .str s => .ok s
  | _ => .error .validationError

/-- What is drawn for an approval: the ids of the decision and of the certificate, and the key pair of
a new `DevelopmentSigner`. -/
structure Draws (K : Type) where
  decisionId : Uuid
  certificateId : Uuid
  key : K
  deriving DecidableEq, Repr

/-- The certificate of an approved request. -/
def mint (tenantId : Uuid) (context : Context F) (draws : Draws K) :
    Except ApprovalError RecoveryCertificate := do
  let runId ← getItem context "run_id"
  let replayEpisodeId ← getItem context "replay_episode_id"
  let interventionId ← getItem context "intervention_id"
  let evidenceClass ← getItem context "evidence_class"
  let hash ← getItem context "cert_hash"
  let text ← orRaise .typeError (payloadText runId replayEpisodeId interventionId evidenceClass hash)
  let runUuid ← lib.asUuid runId
  let replayUuid ← lib.asUuid replayEpisodeId
  let interventionUuid ← lib.asUuid interventionId
  let evidence ← asEvidence evidenceClass
  let certificateHash ← asText hash
  return {
    id := draws.certificateId
    runId := runUuid
    replayEpisodeId := replayUuid
    interventionId := interventionUuid
    repairDecisionId := draws.decisionId
    tenantId
    certificateHash
    issuedBy := "bcrb_automated_pipeline"
    payloadSummary := "Approved by human"
    isValid := true
    evidenceClass := evidence
    approvalState := "APPROVED"
    cryptographicSignature := {
      algorithm := "Ed25519"
      publicKey := lib.publicKeyB64 draws.key
      signature := lib.signatureB64 (draws.key, text)
      signerId := "prod-key-v1" } }

/-- The texts that a certificate is minted from. -/
structure Source where
  runId : String
  replayEpisodeId : String
  interventionId : String
  evidenceClass : String
  hash : String
  deriving DecidableEq, Repr

/-- What is signed for them. -/
def Source.text (F : Type) [FloatText F] (source : Source) : Option Text :=
  payloadText (.str source.runId : Val F) (.str source.replayEpisodeId)
    (.str source.interventionId) (.str source.evidenceClass) (.str source.hash)

/-- A certificate says what its texts say, and its signature is that of a key on them. -/
structure MintedFrom (certificate : RecoveryCertificate) (key : K) (source : Source) : Prop where
  runId : lib.uuid source.runId = some certificate.runId
  replayEpisodeId : lib.uuid source.replayEpisodeId = some certificate.replayEpisodeId
  interventionId : lib.uuid source.interventionId = some certificate.interventionId
  evidenceClass : evidenceOf source.evidenceClass = some certificate.evidenceClass
  hash : source.hash = certificate.certificateHash
  publicKey : certificate.cryptographicSignature.publicKey = lib.publicKeyB64 key
  signature : ∃ text, source.text F = some text ∧
    certificate.cryptographicSignature.signature = lib.signatureB64 (key, text)

omit [FloatText F] in
theorem asUuid_eq_ok_iff {v : Val F} {id : Uuid} :
    lib.asUuid v = .ok id ↔ ∃ s, v = .str s ∧ lib.uuid s = some id := by
  constructor
  · intro h
    unfold CertificationLibrary.asUuid at h
    split at h
    · exact ⟨_, rfl, orRaise_eq_ok_iff.mp h⟩
    · contradiction
    · contradiction
  · rintro ⟨s, rfl, h⟩
    exact orRaise_eq_ok_iff.mpr h

omit [FloatText F] in
theorem asEvidence_eq_ok_iff {v : Val F} {c : EvidenceClassification} :
    asEvidence v = .ok c ↔ ∃ s, v = .str s ∧ evidenceOf s = some c := by
  constructor
  · intro h
    unfold asEvidence at h
    split at h
    · exact ⟨_, rfl, orRaise_eq_ok_iff.mp h⟩
    · contradiction
  · rintro ⟨s, rfl, h⟩
    exact orRaise_eq_ok_iff.mpr h

omit [FloatText F] in
theorem asText_eq_ok_iff {v : Val F} {s : String} : asText v = .ok s ↔ v = .str s := by
  constructor
  · intro h
    unfold asText at h
    split at h
    · rw [Except.ok.inj h]
    · contradiction
  · rintro rfl
    rfl

/-- A context that a certificate is minted from has texts for what the certificate says. -/
theorem exists_mintedFrom {tenantId : Uuid} {context : Context F} {draws : Draws K}
    {certificate : RecoveryCertificate}
    (h : mint lib tenantId context draws = .ok certificate) :
    ∃ source, MintedFrom lib certificate draws.key source := by
  simp only [mint, bind_eq_ok_iff, orRaise_eq_ok_iff, asUuid_eq_ok_iff, asEvidence_eq_ok_iff,
    asText_eq_ok_iff, pure_eq_ok_iff] at h
  obtain ⟨_, -, _, -, _, -, _, -, _, -, text, htext, _, ⟨runId, rfl, hrun⟩, _,
    ⟨replayEpisodeId, rfl, hreplay⟩, _, ⟨interventionId, rfl, hintervention⟩, _,
    ⟨evidenceClass, rfl, hevidence⟩, hash, rfl, rfl⟩ := h
  exact ⟨⟨runId, replayEpisodeId, interventionId, evidenceClass, hash⟩, hrun, hreplay,
    hintervention, hevidence, rfl, rfl, text, htext, rfl⟩

/-! ## The route -/

/-- The body of a request to approve, with its defaults. -/
structure ApprovalPayload where
  approvalId : Option String
  decision : String := "APPROVED"
  blastRadius : ℚ := 0
  isDryRun : Bool := false
  simulatePromotionPolicy : Bool := false
  deriving DecidableEq, Repr

/-- An administrator. -/
structure User where
  id : Uuid
  tenantId : Uuid
  deriving DecidableEq, Repr

inductive Reply where
  | httpException (status : ℕ) (detail : String)
  | raised (error : ApprovalError)
  | response (status : ℕ)
  | certificate (certificate : RecoveryCertificate)
  deriving DecidableEq, Repr

/-- What a session commits about a request, besides the audit events. -/
structure Commit where
  requestId : Uuid
  status : ApprovalStatus
  decision : Option ApprovalDecisionORM
  certificate : Option RecoveryCertificate
  deriving DecidableEq, Repr

/-- The binary number that is written `0.8`. -/
def maxBlastRadius : ℚ := 3602879701896397 / 4503599627370496

/-- The request that is asked for, by the checks before its row is read. -/
def requestedId (payload : ApprovalPayload) : Except Reply Uuid := do
  let approvalId ← orRaise (.httpException 400 "approval_id required")
    (payload.approvalId.filter (· ≠ ""))
  require (¬ (maxBlastRadius < payload.blastRadius ∧ payload.isDryRun = false))
    (.httpException 403 ("High blast radius (> 0.8) requires dry-run mode. "
      ++ "BCRB cannot perform unrestricted destructive actions."))
  orRaise (.raised .valueError) (lib.uuid approvalId)

/-- What is made of the row, and what is to be committed. -/
def decideRequest (payload : ApprovalPayload) (user : User) (id : Uuid)
    (row : Option (ApprovalRequestORM F)) (now : ℤ) (draws : Draws K) :
    Reply × Option Commit :=
  match row with
  | none => (.httpException 404 "Approval request not found", none)
  | some req =>
    if req.tenantId ≠ user.tenantId then (.httpException 403 "Cross-tenant access forbidden", none)
    else if req.status ≠ .pending then (.httpException 400 "Approval is not pending", none)
    else if req.expiresAt < now then
      (.httpException 400 "Approval request expired", some ⟨id, .expired, none, none⟩)
    else
      let decision : ApprovalDecisionORM :=
        ⟨draws.decisionId, id, uuidText user.id, payload.decision⟩
      if payload.decision ≠ "APPROVED" then (.response 204, some ⟨id, .rejected, decision, none⟩)
      else if payload.simulatePromotionPolicy then
        (.response 202, some ⟨id, .awaitingPromotion, decision, none⟩)
      else
        match mint lib req.tenantId req.contextJson draws with
        | .error e => (.raised e, none)
        | .ok certificate => (.certificate certificate, some ⟨id, .approved, decision, certificate⟩)

/-- `approve_recovery`, when nothing else happens to the row meanwhile. -/
def approveRecovery (rows : Uuid → Option (ApprovalRequestORM F)) (payload : ApprovalPayload)
    (user : User) (now : ℤ) (draws : Draws K) : Reply × Option Commit :=
  match requestedId lib payload with
  | .error reply => (reply, none)
  | .ok id => decideRequest lib payload user id (rows id) now draws

end Mint

/-! ## An instance -/

/-- The key and the text of a signature, with a colon between them. -/
def colonSignature (signed : ℕ × Text) : String :=
  String.ofList (natText signed.1 ++ ':' :: signed.2)

def readColonSignature (signature : String) : Option (ℕ × Text) :=
  let number := signature.toList.takeWhile (· ≠ ':')
  (natOfText number).map fun key ↦ (key, signature.toList.drop (number.length + 1))

theorem readColonSignature_colonSignature (signed : ℕ × Text) :
    readColonSignature (colonSignature signed) = some signed := by
  have hdigits : ∀ c ∈ natText signed.1, decide (c ≠ ':') = true := by
    intro c hc
    obtain ⟨d, hd, rfl⟩ := exists_digit_of_mem_natText hc
    have hcolon : ∀ d < 10, digitChar d ≠ ':' := by decide
    exact decide_eq_true (hcolon d hd)
  have hnumber : (natText signed.1 ++ ':' :: signed.2).takeWhile (· ≠ ':') = natText signed.1 := by
    rw [List.takeWhile_append_of_pos hdigits, List.takeWhile_cons_of_neg (by decide),
      List.append_nil]
  rw [readColonSignature, colonSignature, String.toList_ofList, hnumber, natOfText_natText,
    Option.map_some, ← List.drop_drop, List.drop_left]
  rfl

/-- Numbered keys, and identifiers that are read back from their usual text. -/
def numberedKeys : CertificationLibrary ℕ F where
  publicKeyB64 key := String.ofList (natText key)
  readKey text := natOfText text.toList
  signatureB64 := colonSignature
  readSignature := readColonSignature
  uuid := Isolation.canonicalIds.parse
  repr _ := ""
  truthy
    | .dict members => !members.isEmpty
    | _ => true
  readKey_publicKeyB64 key := by rw [String.toList_ofList, natOfText_natText]
  readSignature_signatureB64 := readColonSignature_colonSignature
  uuid_uuidText := Isolation.canonicalIds.parse_text
  truthy_dict _ := rfl

/-- A request of tenant 1 with what a certificate needs. -/
def sampleRequest : ApprovalRequestORM F where
  tenantId := 1
  status := .pending
  expiresAt := 10
  contextJson := [("run_id", .str (uuidText 2)), ("replay_episode_id", .str (uuidText 3)),
    ("intervention_id", .str (uuidText 4)), ("evidence_class", .str "PRODUCTION"),
    ("cert_hash", .str "hash")]

end DriftGuardX.Certification
