import DriftGuardX.Admission.Tables

/-!
# The PostgreSQL admission store

`PostgresAdmissionReceiptStore`: the same calls as the SQLite store, with the reserved amounts
booked in shared resource pools. A row lock on the receipt, and on the pool where one is read, makes
each call a serial transaction; one that raises is rolled back, a pool it has created included.

Amounts are exact decimals. JSON columns are written by the driver's adapter, with keys in the order
of the dictionary, and timestamps and JSON documents are read back as they were written. Identifiers
and texts are those that the columns hold as they are given: what the database itself refuses of
them (a receipt id that is no UUID, a tenant it does not know, a text that is too long) never gets
as far as the store's own logic.
-/

namespace DriftGuardX.Admission.PostgresAdmissionReceiptStore

open Json Bytes Transaction

variable {F : Type} [FloatAmount F] (P : Platform)

/-! ## Tables -/

/-- The two columns of a receipt row that book its amount. -/
structure PoolShare where
  reservedCostUsd : ℚ
  resourcePoolId : String
  deriving DecidableEq

/-- A row of `admission_resource_pools`. -/
structure ResourcePool where
  poolId : String
  budgetUsd : ℚ
  reservedUsd : ℚ
  spentUsd : ℚ
  updatedAt : String
  deriving DecidableEq

structure Database where
  tables : Tables PoolShare
  pools : KeyTable ResourcePool.poolId

/-- No receipts yet, and whatever pools an operator has set up. -/
def Database.initial (pools : KeyTable ResourcePool.poolId) : Database := ⟨.empty, pools⟩

/-- How the driver's adapter writes a JSON column. -/
def column (v : Val F) : Option Text := dumps ⟨true, false⟩ false v

/-! ## Issuing -/

/-- The exception for a reservation that a pool cannot cover. -/
def budgetRefusal : Error :=
  .valueError "Replay admission refused: shared reservation exceeds pool budget."

def ResourcePool.available (pool : ResourcePool) : ℚ :=
  pool.budgetUsd - pool.reservedUsd - pool.spentUsd

def issue (receipt : AdmissionReceiptV1 F) (env : Env) (db : Database) :
    Except Error (Reply × Database) := do
  let payload : Val F := .record (receipt.storedPayload P)
  let bindingHash ← receipt.bindingHash P
  match db.tables.receipts.get? receipt.receiptId with
  | some existing =>
    require (existing.bindingHash = bindingHash)
      (.valueError "Receipt ID is already bound to different state.")
    return (.text receipt.receiptId, db)
  | none =>
    let pools₁ := db.pools.insertIfAbsent
      ⟨receipt.resourcePoolId, env.defaultBudget, 0, 0, env.rowTime⟩
    let pool ← orRaise .typeError (pools₁.get? receipt.resourcePoolId)
    -- an infinite amount is greater than whatever is available
    let reserved ← orRaise budgetRefusal (FloatAmount.decimal receipt.reservedCost)
    require (reserved ≤ pool.available) budgetRefusal
    let payloadJson ← orRaise .typeError (column payload)
    let tables₁ ← db.tables.insertReceipt {
      receiptId := receipt.receiptId
      tenantId := receipt.tenantId
      bindingHash
      status := .issued
      payloadJson
      account := ⟨reserved, receipt.resourcePoolId⟩
      createdAt := env.rowTime
      terminalAt := none }
    let pools₂ := pools₁.modify receipt.resourcePoolId
      (fun pool ↦ { pool with
        reservedUsd := pool.reservedUsd + reserved
        updatedAt := env.rowTime }) fun _ ↦ rfl
    let tables₂ ← appendEvent P column tables₁ receipt.receiptId .issue "" payload (env.eventTime 0)
    return (.text receipt.receiptId, ⟨tables₂, pools₂⟩)

/-! ## Closing a receipt -/

/-- `_release_reservation`: the receipt is closed and its amount leaves the reserved sum, for the
spent one when it was consumed. -/
def releaseReservation (db : Database) (row : ReceiptRow PoolShare) (target : ReceiptStatus)
    (env : Env) : Database where
  tables := db.tables.closeReceipt row.receiptId target env.rowTime
  pools := db.pools.modify row.account.resourcePoolId
    (fun pool ↦ { pool with
      reservedUsd := max 0 (pool.reservedUsd - row.account.reservedCostUsd)
      spentUsd := pool.spentUsd + if target = .consumed then row.account.reservedCostUsd else 0
      updatedAt := env.rowTime }) fun _ ↦ rfl

/-! ## Verifying -/

/-- The terminal reason recorded with a refusal that closes a receipt. -/
def terminalReason (decision : VerificationDecision) : String :=
  if decision.expired then "EXPIRED"
  else if decision.signatureRefusal then "SIGNATURE_INVALID"
  else "BINDING_MISMATCH"

def verify (args : VerifyArgs F) (env : Env) (db : Database) :
    Except Error (Reply × Database) :=
  match db.tables.receipts.get? args.receiptId with
  | none => .ok (.verdict false "Admission receipt not found.", db)
  | some row => do
    let payload ← orRaise (.valueError "JSONDecodeError") (loads row.payloadJson)
    let receipt ← receiptFromPersistedPayload P payload args.receiptId
    let decision ← evaluateVerification P receipt row.status args env
    if decision.reason ≠ "" then
      let refusal := if decision.signatureRefusal then .signatureRefusal else .mismatchRefusal
      let tables₁ ← appendEvent P column db.tables args.receiptId refusal decision.reason
        (.object [("actual", .dict args.actual)]) (env.eventTime 0)
      if row.status = .issued then
        let target := if decision.expired then .expired else .voided
        let db₂ := releaseReservation ⟨tables₁, db.pools⟩ row target env
        let tables₃ ← appendEvent P column db₂.tables args.receiptId
          (if decision.expired then .expire else .void) decision.reason
          (.object [("terminal_reason", .str (terminalReason decision))] : Val F) (env.eventTime 1)
        return (.verdict false decision.reason, ⟨tables₃, db₂.pools⟩)
      else return (.verdict false decision.reason, ⟨tables₁, db.pools⟩)
    else
      let tables₁ := db.tables.setStatus args.receiptId .verified
      let tables₂ ← appendEvent P column tables₁ args.receiptId .verify "" (.dict args.actual)
        (env.eventTime 0)
      return (.verdict true "ok", ⟨tables₂, db.pools⟩)

/-! ## Terminal transitions -/

/-- The statuses from which a terminal status may be reached. -/
def allowed : ReceiptStatus → Option (List ReceiptStatus)
  | .consumed => some [.verified]
  | .released => some [.issued, .verified]
  | .voided => some [.issued, .verified]
  | _ => none

variable (F) in
def terminalTransition (receiptId : String) (target : ReceiptStatus) (eventType : EventType)
    (reason : String) (env : Env) (db : Database) : Except Error (Reply × Database) :=
  match db.tables.receipts.get? receiptId with
  | none => .error (.valueError "Admission receipt not found.")
  | some row => do
    let sources ← orRaise .keyError (allowed target)
    if row.status ∉ sources then return (.none, db)
    else
      let db₁ := releaseReservation db row target env
      let tables₂ ← appendEvent P column db₁.tables receiptId eventType reason
        (.object [] : Val F) (env.eventTime 0)
      return (.none, ⟨tables₂, db₁.pools⟩)

variable (F) in
def consume (receiptId : String) : Env → Database → Except Error (Reply × Database) :=
  terminalTransition F P receiptId .consumed .consume ""

variable (F) in
def release (receiptId : String) : Env → Database → Except Error (Reply × Database) :=
  terminalTransition F P receiptId .released .release ""

variable (F) in
def void (receiptId reason : String) : Env → Database → Except Error (Reply × Database) :=
  terminalTransition F P receiptId .voided .void reason

/-! ## Attestations -/

variable (F) in
/-- The signature check of `record_attestation`, before its transaction. -/
def checkAttestationSignature (attestation : ExecutionAttestationV1)
    (trustedPublicKeys : Option AdmissionReceiptTrustStore) (requireSignature : Option Bool)
    (env : Env) : Except Error Unit := do
  if attestation.payloadSignature ≠ "" ∨ requireSignature.getD env.receiptSignatureRequired then
    let trust ← trustedKeys trustedPublicKeys env.trustedWorkerKeys
    let publicKey ← orRaise (.valueError "Worker attestation signing key is not trusted.")
      (trust.get attestation.keyId)
    let verdict ← attestation.verifySignature F P publicKey
    require (verdict.1 = true) (.valueError verdict.2)

variable (F) in
def recordAttestation (attestation : ExecutionAttestationV1)
    (trustedPublicKeys : Option AdmissionReceiptTrustStore) (requireSignature : Option Bool)
    (env : Env) (db : Database) : Except Error (Reply × Database) := do
  checkAttestationSignature F P attestation trustedPublicKeys requireSignature env
  let row ← orRaise (.valueError "Admission receipt not found.")
    (db.tables.receipts.get? attestation.receiptId)
  require (row.status = .verified)
    (.valueError "Execution attestation requires a verified receipt.")
  require (row.bindingHash = attestation.receiptBindingHash)
    (.valueError "Execution attestation receipt binding mismatch.")
  let attestationHash ← attestation.attestationHash F P
  let payloadJson ← orRaise .typeError
    (column (.record (attestation.storedPayload F P) : Val F))
  let tables₁ ← db.tables.insertAttestation
    ⟨attestation.receiptId, attestationHash, payloadJson, env.rowTime⟩
  let tables₂ ← appendEvent P column tables₁ attestation.receiptId .attest ""
    (.object [("attestation_hash", .str attestationHash)] : Val F) (env.eventTime 0)
  return (.text attestationHash, ⟨tables₂, db.pools⟩)

/-! ## Runs -/

/-- One call. -/
def step (call : Call F × Env) (db : Database) : Except Error (Reply × Database) :=
  match call.1 with
  | .issue receipt => issue P receipt call.2 db
  | .verify args => verify P args call.2 db
  | .consume receiptId => consume F P receiptId call.2 db
  | .release receiptId => release F P receiptId call.2 db
  | .void receiptId reason => void F P receiptId reason call.2 db
  | .recordAttestation attestation keys required =>
    recordAttestation F P attestation keys required call.2 db

/-- The database after a run of calls, from the pools an operator has set up. -/
def reached (pools : KeyTable ResourcePool.poolId) (calls : List (Call F × Env)) : Database :=
  (run (step P) (.initial pools) calls).2

/-! ## Reading -/

def bindingHash (db : Database) (receiptId : String) : Except Error String :=
  (orRaise (.valueError "Admission receipt not found.") (db.tables.receipts.get? receiptId)).map
    ReceiptRow.bindingHash

/-- The driver decodes the JSON column; an empty predecessor reads as none. -/
def readEvent (row : AuditEvent) : Except Error (AdmissionAuditEvent F) := do
  let details ← orRaise (.valueError "JSONDecodeError") (loads row.detailsJson)
  return {
    receiptId := row.receiptId
    sequence := row.sequence
    eventType := row.eventType
    eventHash := row.eventHash
    previousEventHash := row.previousEventHash.filter (· ≠ "")
    reason := row.reason
    details
    createdAt := row.createdAt }

def events (db : Database) (receiptId : String) : Except Error (List (AdmissionAuditEvent F)) :=
  (db.tables.eventsOf receiptId).mapM readEvent

end DriftGuardX.Admission.PostgresAdmissionReceiptStore
