import DriftGuardX.Admission.Receipt
import Mathlib.Data.Fintype.Defs

/-!
# What the two admission stores share

The SQLite and the PostgreSQL store have the same three tables (receipts, audit events, execution
attestations), decide a verification by the same function and hash audit events in the same way. The
receipt rows differ in how they account for the reserved amount, which is a parameter of the row.

A call is one transaction. Everything it reads besides the database is in its environment: the
readings of the clock, and the process configuration for signatures.
-/

namespace DriftGuardX.Admission

open Json Bytes Transaction

/-! ## Calls -/

/-- A date that may lack a time zone. Comparing such a date with an aware one raises. -/
inductive Datetime where
  | aware (instant : ℤ)
  | naive (instant : ℤ)
  deriving DecidableEq, Repr

/-- What a call reads of its process: the clock and the signature configuration. -/
structure Env where
  /-- The time written to receipt and attestation rows, as text. -/
  rowTime : String
  /-- The time of the first audit event of the call, of the second, and so on. -/
  eventTime : ℕ → String
  /-- The present, for a verification that is not given a time. -/
  now : ℤ
  receiptSignatureRequired : Bool
  /-- `AdmissionReceiptTrustStore.from_environment`, which raises on a malformed variable. -/
  trustedReceiptKeys : Except Error AdmissionReceiptTrustStore
  trustedWorkerKeys : Except Error AdmissionReceiptTrustStore
  /-- The budget a PostgreSQL store gives to a pool it creates; its constructor checks it. -/
  defaultBudget : {budget : ℚ // 0 < budget}

/-- The keys given with a call, or the configured ones. -/
def trustedKeys (given : Option AdmissionReceiptTrustStore)
    (configured : Except Error AdmissionReceiptTrustStore) :
    Except Error AdmissionReceiptTrustStore :=
  match given with
  | some keys => .ok keys
  | none => configured

/-- The arguments of `verify`. -/
structure VerifyArgs (F : Type) where
  receiptId : String
  actual : List (Key F × Val F)
  evidenceClass : Option EvidenceClassification
  now : Option Datetime
  trustedPublicKeys : Option AdmissionReceiptTrustStore
  requireSignature : Option Bool

/-- The calls of a store. -/
inductive Call (F : Type) [FloatAmount F] where
  | issue (receipt : AdmissionReceiptV1 F)
  | verify (args : VerifyArgs F)
  | consume (receiptId : String)
  | release (receiptId : String)
  | void (receiptId reason : String)
  | recordAttestation (attestation : ExecutionAttestationV1)
      (trustedPublicKeys : Option AdmissionReceiptTrustStore) (requireSignature : Option Bool)

/-- What a call returns. -/
inductive Reply where
  | text (s : String)
  | verdict (admitted : Bool) (reason : String)
  | none
  deriving DecidableEq, Repr

/-! ## Tables -/

inductive EventType where
  | issue
  | verify
  | signatureRefusal
  | mismatchRefusal
  | expire
  | void
  | consume
  | release
  | attest
  deriving DecidableEq, Repr

instance : Fintype EventType where
  elems := {.issue, .verify, .signatureRefusal, .mismatchRefusal, .expire, .void, .consume,
    .release, .attest}
  complete e := by cases e <;> decide

def EventType.value : EventType → String
  | .issue => "ISSUE"
  | .verify => "VERIFY"
  | .signatureRefusal => "SIGNATURE_REFUSAL"
  | .mismatchRefusal => "MISMATCH_REFUSAL"
  | .expire => "EXPIRE"
  | .void => "VOID"
  | .consume => "CONSUME"
  | .release => "RELEASE"
  | .attest => "ATTEST"

/-- A row of `admission_receipts`, with the columns for the reserved amount as a parameter. -/
structure ReceiptRow (A : Type) where
  receiptId : String
  tenantId : String
  bindingHash : String
  status : ReceiptStatus
  payloadJson : Text
  account : A
  createdAt : String
  terminalAt : Option String

/-- A row of `admission_audit_events`. -/
structure AuditEvent where
  receiptId : String
  sequence : ℕ
  eventType : EventType
  eventHash : String
  previousEventHash : Option String
  reason : String
  detailsJson : Text
  createdAt : String
  deriving DecidableEq

/-- The columns of `UNIQUE(receipt_id, sequence)`. -/
def AuditEvent.key (e : AuditEvent) : String × ℕ := (e.receiptId, e.sequence)

/-- An audit event as it is returned, with its details decoded. -/
structure AdmissionAuditEvent (F : Type) where
  receiptId : String
  sequence : ℕ
  eventType : EventType
  eventHash : String
  previousEventHash : Option String
  reason : String
  details : Val F
  createdAt : String

/-- A row of `admission_execution_attestations`. -/
structure AttestationRow where
  receiptId : String
  attestationHash : String
  payloadJson : Text
  createdAt : String

structure Tables (A : Type) where
  receipts : KeyTable (ReceiptRow.receiptId (A := A))
  events : KeyTable AuditEvent.key
  attestations : KeyTable AttestationRow.receiptId

namespace Tables

variable {A : Type}

def empty : Tables A := ⟨.empty, .empty, .empty⟩

/-- The audit events of a receipt, `ORDER BY sequence`. -/
def eventsOf (db : Tables A) (receiptId : String) : List AuditEvent :=
  orderBy AuditEvent.sequence (db.events.rows.filter fun e ↦ e.receiptId = receiptId)

def status (db : Tables A) (receiptId : String) : Option ReceiptStatus :=
  (db.receipts.get? receiptId).map ReceiptRow.status

/-- `INSERT INTO admission_receipts`, with its primary key and the unique binding hash. -/
def insertReceipt (db : Tables A) (row : ReceiptRow A) : Except Error (Tables A) :=
  if h : db.receipts.get? row.receiptId = none then
    if row.bindingHash ∈ db.receipts.rows.map ReceiptRow.bindingHash then .error .integrityError
    else .ok { db with receipts := db.receipts.insert row h }
  else .error .integrityError

/-- `UPDATE admission_receipts SET status = ?`. -/
def setStatus (db : Tables A) (receiptId : String) (status : ReceiptStatus) : Tables A :=
  { db with
    receipts := db.receipts.modify receiptId (fun row ↦ { row with status }) fun _ ↦ rfl }

/-- `UPDATE admission_receipts SET status = ?, terminal_at = ?`. -/
def closeReceipt (db : Tables A) (receiptId : String) (status : ReceiptStatus) (time : String) :
    Tables A :=
  { db with
    receipts := db.receipts.modify receiptId
      (fun row ↦ { row with status, terminalAt := some time }) fun _ ↦ rfl }

/-- `INSERT INTO admission_execution_attestations`, with its two constraints. -/
def insertAttestation (db : Tables A) (row : AttestationRow) : Except Error (Tables A) :=
  if h : db.attestations.get? row.receiptId = none then
    if row.attestationHash ∈ db.attestations.rows.map AttestationRow.attestationHash then
      .error .integrityError
    else .ok { db with attestations := db.attestations.insert row h }
  else .error .integrityError

theorem events_setStatus (db : Tables A) (receiptId : String) (status : ReceiptStatus) :
    (db.setStatus receiptId status).events = db.events := rfl

theorem events_closeReceipt (db : Tables A) (receiptId : String) (status : ReceiptStatus)
    (time : String) : (db.closeReceipt receiptId status time).events = db.events := rfl

theorem insertReceipt_eq_ok {db db' : Tables A} {row : ReceiptRow A}
    (h : db.insertReceipt row = .ok db') : ∃ hfresh : db.receipts.get? row.receiptId = none,
      db' = { db with receipts := db.receipts.insert row hfresh } := by
  rw [insertReceipt] at h
  split at h
  · rename_i hfresh
    split at h
    · exact absurd h (by simp)
    · exact ⟨hfresh, (Except.ok.inj h).symm⟩
  · exact absurd h (by simp)

theorem insertAttestation_eq_ok {db db' : Tables A} {row : AttestationRow}
    (h : db.insertAttestation row = .ok db') :
    ∃ hfresh : db.attestations.get? row.receiptId = none,
      db' = { db with attestations := db.attestations.insert row hfresh } := by
  rw [insertAttestation] at h
  split at h
  · rename_i hfresh
    split at h
    · exact absurd h (by simp)
    · exact ⟨hfresh, (Except.ok.inj h).symm⟩
  · exact absurd h (by simp)

theorem events_insertReceipt {db db' : Tables A} {row : ReceiptRow A}
    (h : db.insertReceipt row = .ok db') : db'.events = db.events := by
  obtain ⟨_, rfl⟩ := insertReceipt_eq_ok h
  rfl

theorem events_insertAttestation {db db' : Tables A} {row : AttestationRow}
    (h : db.insertAttestation row = .ok db') : db'.events = db.events := by
  obtain ⟨_, rfl⟩ := insertAttestation_eq_ok h
  rfl

end Tables

/-! ## Audit events -/

section Events

variable {F : Type} [FloatAmount F] (P : Platform) {A : Type}

/-- The dictionary whose digest an event carries. -/
def eventPayload (receiptId : String) (sequence : ℕ) (eventType : EventType)
    (previousEventHash : Option String) (reason : String) (details : Val F) (createdAt : String) :
    Val F :=
  .object [("receipt_id", .str receiptId),
    ("sequence", .int sequence),
    ("event_type", .str eventType.value),
    ("previous_event_hash", (previousEventHash.map fun h ↦ .str h).getD .none),
    ("reason", .str reason),
    ("details", details),
    ("created_at", .str createdAt)]

def eventHash (receiptId : String) (sequence : ℕ) (eventType : EventType)
    (previousEventHash : Option String) (reason : String) (details : Val F) (createdAt : String) :
    Except Error String := do
  let text ← orRaise .typeError (dumps ⟨true, true⟩ true
    (eventPayload receiptId sequence eventType previousEventHash reason details createdAt))
  return P.sha256 (utf8 "DGX-ADMISSION-AUDIT-V1\x00" ++ utf8Chars text)

/-- `_append_event` of either store, which differ in how the details column is written. -/
def appendEvent (column : Val F → Option Text) (db : Tables A) (receiptId : String)
    (eventType : EventType) (reason : String) (details : Val F) (createdAt : String) :
    Except Error (Tables A) := do
  let previous := (db.eventsOf receiptId).getLast?
  let sequence := (previous.map fun e ↦ e.sequence + 1).getD 1
  let previousHash := previous.map AuditEvent.eventHash
  let hash ← eventHash P receiptId sequence eventType previousHash reason details createdAt
  let detailsJson ← orRaise .typeError (column details)
  let event : AuditEvent :=
    ⟨receiptId, sequence, eventType, hash, previousHash, reason, detailsJson, createdAt⟩
  if h : db.events.get? event.key = none then
    require (hash ∉ db.events.rows.map AuditEvent.eventHash) .integrityError
    return { db with events := db.events.insert event h }
  else .error .integrityError

end Events

/-! ### What appending does -/

section Appending

variable {F : Type} [FloatAmount F] {P : Platform} {A : Type} {db db' : Tables A}
  {receiptId : String}

theorem Tables.nodup_sequence (db : Tables A) (receiptId : String) :
    ((db.events.rows.filter fun e ↦ e.receiptId = receiptId).map AuditEvent.sequence).Nodup := by
  have hnd : ((db.events.rows.filter fun e ↦ e.receiptId = receiptId).map AuditEvent.key).Nodup :=
    db.events.nodup.sublist (List.filter_sublist.map _)
  rw [List.nodup_iff_pairwise_ne, List.pairwise_map] at hnd ⊢
  refine hnd.imp_of_mem fun {a b} ha hb hne hseq ↦ hne ?_
  have ha' : a.receiptId = receiptId := by simpa using (List.mem_filter.mp ha).2
  have hb' : b.receiptId = receiptId := by simpa using (List.mem_filter.mp hb).2
  rw [AuditEvent.key, AuditEvent.key, ha', hb', hseq]

/-- The position after all events of a receipt. -/
def Tables.nextSequence (db : Tables A) (receiptId : String) : ℕ :=
  ((db.eventsOf receiptId).getLast?.map fun e ↦ e.sequence + 1).getD 1

theorem Tables.sequence_lt_nextSequence {e : AuditEvent} (h : e ∈ db.eventsOf receiptId) :
    e.sequence < db.nextSequence receiptId := by
  rw [Tables.nextSequence]
  cases hlast : (db.eventsOf receiptId).getLast? with
  | none =>
    rw [List.getLast?_eq_none_iff] at hlast
    rw [hlast] at h
    exact absurd h (by simp)
  | some last =>
    have hle : e.sequence ≤ last.sequence := le_of_getLast?_orderBy hlast (mem_orderBy.mp h)
    rw [Option.map_some, Option.getD_some]
    omega

/-- One event was appended: what it says, and what it leaves unchanged. -/
structure EventAppended (P : Platform) (column : Val F → Option Text) (db db' : Tables A)
    (receiptId : String) (eventType : EventType) (reason : String) (details : Val F)
    (createdAt : String) (event : AuditEvent) : Prop where
  eq : event = ⟨receiptId, db.nextSequence receiptId, eventType, event.eventHash,
    (db.eventsOf receiptId).getLast?.map AuditEvent.eventHash, reason, event.detailsJson, createdAt⟩
  hash : eventHash P receiptId (db.nextSequence receiptId) eventType
    ((db.eventsOf receiptId).getLast?.map AuditEvent.eventHash) reason details createdAt
      = .ok event.eventHash
  details : column details = some event.detailsJson
  receipts : db'.receipts = db.receipts
  attestations : db'.attestations = db.attestations
  events : db'.events.rows = db.events.rows ++ [event]

theorem appendEvent_eq_ok {column : Val F → Option Text} {eventType : EventType}
    {reason createdAt : String} {details : Val F}
    (h : appendEvent P column db receiptId eventType reason details createdAt = .ok db') :
    ∃ event, EventAppended P column db db' receiptId eventType reason details createdAt event := by
  simp only [appendEvent, bind_eq_ok_iff, orRaise_eq_ok_iff] at h
  obtain ⟨hash, hhash, detailsJson, hdetails, h⟩ := h
  split at h
  · simp only [bind_eq_ok_iff, pure_eq_ok_iff] at h
    obtain ⟨-, -, rfl⟩ := h
    exact ⟨⟨receiptId, db.nextSequence receiptId, eventType, hash, _, reason, detailsJson,
      createdAt⟩, rfl, hhash, hdetails, rfl, rfl, rfl⟩
  · exact absurd h (by simp)

variable {column : Val F → Option Text} {eventType : EventType} {reason createdAt : String}
  {details : Val F} {event : AuditEvent}

theorem EventAppended.receiptId_eq
    (h : EventAppended P column db db' receiptId eventType reason details createdAt event) :
    event.receiptId = receiptId := by
  rw [h.eq]

theorem EventAppended.eventType_eq
    (h : EventAppended P column db db' receiptId eventType reason details createdAt event) :
    event.eventType = eventType := by
  rw [h.eq]

theorem EventAppended.eventsOf_self
    (h : EventAppended P column db db' receiptId eventType reason details createdAt event) :
    db'.eventsOf receiptId = db.eventsOf receiptId ++ [event] := by
  have hseq : event.sequence = db.nextSequence receiptId := by rw [h.eq]
  rw [Tables.eventsOf, h.events, List.filter_append,
    List.filter_cons_of_pos (by simpa using h.receiptId_eq), List.filter_nil,
    orderBy_append_singleton (db.nodup_sequence receiptId), Tables.eventsOf]
  intro e he
  rw [hseq]
  exact Tables.sequence_lt_nextSequence (mem_orderBy.mpr he)

theorem EventAppended.eventsOf_ne
    (h : EventAppended P column db db' receiptId eventType reason details createdAt event)
    {other : String} (hne : other ≠ receiptId) : db'.eventsOf other = db.eventsOf other := by
  have hout : event.receiptId ≠ other := by
    rw [h.receiptId_eq]
    exact hne.symm
  rw [Tables.eventsOf, h.events, List.filter_append, List.filter_cons_of_neg (by simpa using hout),
    List.filter_nil, List.append_nil, Tables.eventsOf]

end Appending

/-! ## Deciding a verification -/

section Verification

variable {F : Type} [FloatAmount F] (P : Platform)

/-- The required binding fields, in sorted order. -/
def requiredBindingFields : List String :=
  ["candidate_version", "capsule_hash", "current_version", "intervention_hash", "manifest_hash",
    "policy_hash", "resource_pool_id", "run_id", "tenant_id", "trace_root_hash", "workload_id"]

structure VerificationDecision where
  reason : String
  expired : Bool
  signatureRefusal : Bool
  deriving DecidableEq, Repr

/-- The reason to refuse for the signature, if any. -/
def signatureDecision (receipt : AdmissionReceiptV1 F) (args : VerifyArgs F) (env : Env) :
    Except Error (Option String) := do
  if receipt.payloadSignature ≠ "" ∨ args.requireSignature.getD env.receiptSignatureRequired then
    let trustStore ← trustedKeys args.trustedPublicKeys env.trustedReceiptKeys
    let verdict ← trustStore.verify P receipt
    return if verdict.1 then none else some verdict.2
  else return none

/-- Whether a value is the text that a receipt has under a field. -/
def bindingMatches (receipt : AdmissionReceiptV1 F) (field : String) (value : Val F) : Bool :=
  match value, (receipt.canonicalPayload P).find? fun m ↦ m.1 = field with
  | .str s, some (_, .str t) => s == t
  | _, _ => false

/-- The reason to refuse for the bindings or the evidence class, or the empty reason. -/
def bindingDecision (receipt : AdmissionReceiptV1 F) (args : VerifyArgs F) : String :=
  let mismatch := requiredBindingFields.find? fun field ↦
    match dictGet args.actual field with
    | some value => !bindingMatches P receipt field value
    | none => false
  let missing := requiredBindingFields.filter fun field ↦ (dictGet args.actual field).isNone
  match mismatch with
  | some field => "Receipt binding mismatch: " ++ field ++ "."
  | none =>
    if missing ≠ [] then "Receipt binding incomplete: " ++ ", ".intercalate missing ++ "."
    else if (args.evidenceClass.map receipt.verifyEvidence).getD true = false then
      "Evidence classification exceeds the receipt ceiling."
    else ""

/-- `now >= receipt.expires_at`. -/
def hasExpired (receipt : AdmissionReceiptV1 F) : Datetime → Except Error Bool
  | .aware now => .ok (decide (receipt.expiresAt ≤ now))
  | .naive _ => .error .typeError

def evaluateVerification (receipt : AdmissionReceiptV1 F) (status : ReceiptStatus)
    (args : VerifyArgs F) (env : Env) : Except Error VerificationDecision := do
  match ← signatureDecision P receipt args env with
  | some reason => return ⟨reason, false, true⟩
  | none =>
    if status ≠ .issued then
      return ⟨"Receipt is " ++ status.lower ++ ".", false, false⟩
    if ← hasExpired receipt (args.now.getD (.aware env.now)) then
      return ⟨"Receipt has expired.", true, false⟩
    return ⟨bindingDecision P receipt args, false, false⟩

variable {P} {receipt : AdmissionReceiptV1 F} {status : ReceiptStatus} {args : VerifyArgs F}
  {env : Env}

theorem signatureDecision_ne_empty {reason : String}
    (h : signatureDecision P receipt args env = .ok (some reason)) : reason ≠ "" := by
  rw [signatureDecision] at h
  split at h
  · simp only [bind_eq_ok_iff, pure_eq_ok_iff] at h
    obtain ⟨trustStore, -, verdict, hverdict, h⟩ := h
    by_cases hv : verdict.1 = true
    · rw [if_pos hv] at h
      exact absurd h (by simp)
    · rw [if_neg hv, Option.some_inj] at h
      exact h ▸ AdmissionReceiptTrustStore.reason_of_verify hverdict (by simpa using hv)
  · exact absurd h (by simp)

theorem status_of_evaluateVerification {decision : VerificationDecision}
    (h : evaluateVerification P receipt status args env = .ok decision)
    (hreason : decision.reason = "") : status = .issued := by
  simp only [evaluateVerification, bind_eq_ok_iff] at h
  obtain ⟨refusal, hsig, h⟩ := h
  cases refusal with
  | some reason =>
    obtain rfl := pure_eq_ok_iff.mp h
    exact absurd hreason (signatureDecision_ne_empty hsig)
  | none =>
    by_contra hs
    rw [if_pos hs] at h
    obtain rfl := pure_eq_ok_iff.mp h
    revert hreason
    cases status <;> decide

end Verification

/-! ## An instance -/

/-- A platform with a short digest, where instants are written as numbers and signatures pass. -/
def samplePlatform : Platform where
  sha256 := checksum
  verifySignature _ _ _ := true
  canonicalDatetime t := String.ofList (intText t)
  fromIsoformat s := intOfText s.toList
  fromIsoformat_canonicalDatetime t := by rw [String.toList_ofList, intOfText_intText]

def sampleReceipt : AdmissionReceiptV1 WholeFloat where
  tenantId := "t"
  manifestHash := "m"
  traceRootHash := "r"
  interventionHash := "i"
  currentVersion := "1"
  candidateVersion := "2"
  policyHash := "p"
  predictedCost := ⟨1⟩
  uncertaintyMargin := ⟨0⟩
  rollbackReserve := ⟨0⟩
  evidenceCeiling := .production
  capsuleHash := "c"
  issuedAt := 0
  expiresAt := 9
  receiptId := "a"
  workloadId := "w"
  runId := "u"
  nonce := "n"
  policyVersion := ""
  approvalId := ""
  resourcePoolId := "d"
  keyId := ""
  signatureAlgorithm := ""
  payloadSignature := ""
  issuedBy := ""
  numbers := by decide
  expiry := by decide

/-- Before the receipt expires, without signatures. -/
def sampleEnv : Env where
  rowTime := "0"
  eventTime _ := "0"
  now := 1
  receiptSignatureRequired := false
  trustedReceiptKeys := .ok []
  trustedWorkerKeys := .ok []
  defaultBudget := ⟨1000, by norm_num⟩

/-- The state the receipt is bound to. -/
def sampleActual : List (Key WholeFloat × Val WholeFloat) :=
  [(.str "tenant_id", .str "t"), (.str "workload_id", .str "w"), (.str "run_id", .str "u"),
    (.str "manifest_hash", .str "m"), (.str "trace_root_hash", .str "r"),
    (.str "intervention_hash", .str "i"), (.str "current_version", .str "1"),
    (.str "candidate_version", .str "2"), (.str "policy_hash", .str "p"),
    (.str "capsule_hash", .str "c"), (.str "resource_pool_id", .str "d")]

/-- Issuing the receipt and verifying it against a state. -/
def sampleCalls (actual : List (Key WholeFloat × Val WholeFloat)) : List (Call WholeFloat × Env) :=
  [(.issue sampleReceipt, sampleEnv), (.verify ⟨"a", actual, none, none, none, none⟩, sampleEnv)]

/-- The state with a further entry, a dictionary under the integer keys nine and ten. -/
def integerKeyActual : List (Key WholeFloat × Val WholeFloat) :=
  sampleActual ++ [(.str "extra", .dict [(.int 9, .str "a"), (.int 10, .str "b")])]

end DriftGuardX.Admission
