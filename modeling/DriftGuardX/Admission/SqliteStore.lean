import DriftGuardX.Admission.Tables
import DriftGuardX.Foundation.HashChain

/-!
# The SQLite admission store

`AdmissionReceiptStore`. Every call is one `BEGIN IMMEDIATE` transaction on the three tables; one
that raises is rolled back. JSON columns are written with sorted keys and without spaces, and the
reserved amount is kept as the float that was computed.
-/

namespace DriftGuardX.Admission.AdmissionReceiptStore

open Json Bytes Transaction HashChain

variable {F : Type} [FloatAmount F] (P : Platform)

abbrev Database (F : Type) := Tables F

/-- How a JSON column is written. -/
def column (v : Val F) : Option Text := dumps ⟨true, true⟩ true v

/-! ## Issuing -/

def issue (receipt : AdmissionReceiptV1 F) (env : Env) (db : Database F) :
    Except Error (Reply × Database F) := do
  let payload : Val F := .record (receipt.storedPayload P)
  let bindingHash ← receipt.bindingHash P
  match db.receipts.get? receipt.receiptId with
  | some existing =>
    require (existing.bindingHash = bindingHash)
      (.valueError "Receipt ID is already bound to different state.")
    return (.text receipt.receiptId, db)
  | none =>
    let payloadJson ← orRaise .typeError (column payload)
    let db₁ ← db.insertReceipt {
      receiptId := receipt.receiptId
      tenantId := receipt.tenantId
      bindingHash
      status := .issued
      payloadJson
      account := receipt.reservedCost
      createdAt := env.rowTime
      terminalAt := none }
    let db₂ ← appendEvent P column db₁ receipt.receiptId .issue "" payload (env.eventTime 0)
    return (.text receipt.receiptId, db₂)

/-! ## Verifying -/

/-- The terminal reason recorded with a refusal that closes a receipt. -/
def terminalReason (decision : VerificationDecision) : String :=
  if decision.expired then "EXPIRED"
  else if decision.signatureRefusal then "SIGNATURE_INVALID"
  else "BINDING_MISMATCH"

def verify (args : VerifyArgs F) (env : Env) (db : Database F) :
    Except Error (Reply × Database F) :=
  match db.receipts.get? args.receiptId with
  | none => .ok (.verdict false "Admission receipt not found.", db)
  | some row => do
    let payload ← orRaise (.valueError "JSONDecodeError") (loads row.payloadJson)
    let receipt ← receiptFromPersistedPayload P payload row.receiptId
    let decision ← evaluateVerification P receipt row.status args env
    if decision.reason ≠ "" then
      let refusal := if decision.signatureRefusal then .signatureRefusal else .mismatchRefusal
      let db₁ ← appendEvent P column db args.receiptId refusal decision.reason
        (.object [("actual", .dict args.actual)]) (env.eventTime 0)
      -- a verified receipt belongs to an executing worker and keeps its claim
      if row.status = .issued then
        let terminalStatus := if decision.expired then .expired else .voided
        let db₂ := db₁.closeReceipt args.receiptId terminalStatus env.rowTime
        let db₃ ← appendEvent P column db₂ args.receiptId
          (if decision.expired then .expire else .void) decision.reason
          (.object [("terminal_reason", .str (terminalReason decision))] : Val F) (env.eventTime 1)
        return (.verdict false decision.reason, db₃)
      else return (.verdict false decision.reason, db₁)
    else
      let db₁ := db.setStatus args.receiptId .verified
      let db₂ ← appendEvent P column db₁ args.receiptId .verify "" (.dict args.actual)
        (env.eventTime 0)
      return (.verdict true "ok", db₂)

/-! ## Terminal transitions -/

/-- The statuses from which a terminal status may be reached. -/
def allowed : ReceiptStatus → Option (List ReceiptStatus)
  | .consumed => some [.verified]
  | .released => some [.issued, .verified]
  | .voided => some [.issued, .verified]
  | .expired => some [.issued]
  | _ => none

def terminalTransition (receiptId : String) (target : ReceiptStatus) (eventType : EventType)
    (reason : String) (env : Env) (db : Database F) : Except Error (Reply × Database F) :=
  match db.receipts.get? receiptId with
  | none => .error (.valueError "Admission receipt not found.")
  | some row => do
    let sources ← orRaise .keyError (allowed target)
    if row.status ∉ sources then return (.none, db)
    else
      let db₁ := db.closeReceipt receiptId target env.rowTime
      let db₂ ← appendEvent P column db₁ receiptId eventType reason (.object [] : Val F)
        (env.eventTime 0)
      return (.none, db₂)

def consume (receiptId : String) : Env → Database F → Except Error (Reply × Database F) :=
  terminalTransition P receiptId .consumed .consume ""

def release (receiptId : String) : Env → Database F → Except Error (Reply × Database F) :=
  terminalTransition P receiptId .released .release ""

def void (receiptId reason : String) : Env → Database F → Except Error (Reply × Database F) :=
  terminalTransition P receiptId .voided .void reason

/-! ## Attestations -/

variable (F) in
/-- The signature check of `record_attestation`, before its transaction. -/
def checkAttestationSignature (attestation : ExecutionAttestationV1)
    (trustedPublicKeys : Option AdmissionReceiptTrustStore) (requireSignature : Option Bool)
    (env : Env) : Except Error Unit := do
  if attestation.payloadSignature ≠ "" ∨ requireSignature.getD env.receiptSignatureRequired then
    let trust ← trustedKeys trustedPublicKeys env.trustedWorkerKeys
    let publicKey ← orRaise (.valueError "Worker attestation signing key is not trusted.")
      (trust.get attestation.keyId)
    let verdict ← attestation.verifySignature F P publicKey
    require (verdict.1 = true) (.valueError verdict.2)

def recordAttestation (attestation : ExecutionAttestationV1)
    (trustedPublicKeys : Option AdmissionReceiptTrustStore) (requireSignature : Option Bool)
    (env : Env) (db : Database F) : Except Error (Reply × Database F) := do
  checkAttestationSignature F P attestation trustedPublicKeys requireSignature env
  let row ← orRaise (.valueError "Admission receipt not found.")
    (db.receipts.get? attestation.receiptId)
  require (row.status = .verified)
    (.valueError "Execution attestation requires a verified receipt.")
  require (row.bindingHash = attestation.receiptBindingHash)
    (.valueError "Execution attestation receipt binding mismatch.")
  let attestationHash ← attestation.attestationHash F P
  let payloadJson ← orRaise .typeError
    (column (.record (attestation.storedPayload F P) : Val F))
  let db₁ ← db.insertAttestation
    ⟨attestation.receiptId, attestationHash, payloadJson, env.rowTime⟩
  let db₂ ← appendEvent P column db₁ attestation.receiptId .attest ""
    (.object [("attestation_hash", .str attestationHash)] : Val F) (env.eventTime 0)
  return (.text attestationHash, db₂)

/-! ## Runs -/

/-- One call. -/
def step (call : Call F × Env) (db : Database F) : Except Error (Reply × Database F) :=
  match call.1 with
  | .issue receipt => issue P receipt call.2 db
  | .verify args => verify P args call.2 db
  | .consume receiptId => consume P receiptId call.2 db
  | .release receiptId => release P receiptId call.2 db
  | .void receiptId reason => void P receiptId reason call.2 db
  | .recordAttestation attestation keys required =>
    recordAttestation P attestation keys required call.2 db

/-- The database after a run of calls on an empty one. -/
def reached (calls : List (Call F × Env)) : Database F := (run (step P) .empty calls).2

/-! ## Reading -/

def bindingHash (db : Database F) (receiptId : String) : Except Error String :=
  (orRaise (.valueError "Admission receipt not found.") (db.receipts.get? receiptId)).map
    ReceiptRow.bindingHash

def readEvent (row : AuditEvent) : Except Error (AdmissionAuditEvent F) := do
  let details ← orRaise (.valueError "JSONDecodeError") (loads row.detailsJson)
  return {
    receiptId := row.receiptId
    sequence := row.sequence
    eventType := row.eventType
    eventHash := row.eventHash
    previousEventHash := row.previousEventHash
    reason := row.reason
    details
    createdAt := row.createdAt }

def events (db : Database F) (receiptId : String) : Except Error (List (AdmissionAuditEvent F)) :=
  (db.eventsOf receiptId).mapM readEvent

/-- The body of the loop of `verify_event_chain`: it raises, or it finds fault, or it goes on. -/
def checkEvent (expectedSequence : ℕ) (previousHash : Option String)
    (event : AdmissionAuditEvent F) : Except (Error ⊕ String) Unit := do
  require (event.sequence = expectedSequence)
    (.inr s!"Audit sequence gap at event {expectedSequence}.")
  require (event.previousEventHash = previousHash)
    (.inr s!"Audit predecessor mismatch at event {expectedSequence}.")
  let expectedHash ← (eventHash P event.receiptId event.sequence event.eventType
    event.previousEventHash event.reason event.details event.createdAt).mapError .inl
  require (event.eventHash = expectedHash)
    (.inr s!"Audit hash mismatch at event {expectedSequence}.")

def verifyEventChain (db : Database F) (receiptId : String) : Except Error (Bool × String) := do
  let events ← events db receiptId
  if events.isEmpty then return (false, "Admission receipt has no audit events.")
  match walk (checkEvent P) (fun event ↦ some event.eventHash) 1 none events with
  | .ok () => return (true, "ok")
  | .error (.inr reason) => return (false, reason)
  | .error (.inl e) => .error e

end DriftGuardX.Admission.AdmissionReceiptStore
