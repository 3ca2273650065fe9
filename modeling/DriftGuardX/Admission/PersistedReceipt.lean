import DriftGuardX.Admission.Receipt
import DriftGuardX.Foundation.Isoformat

/-!
# Receipts and their dates

A receipt is constructed from dates with a time zone, which are normalised to UTC, and it is
persisted with the texts of its dates. Reading a persisted payload constructs a receipt again, so
every check of the construction is made on what was read.

Here the dates are times of the calendar and their texts are those of `isoformat`. A persisted
receipt reads back with the same payload, hash and signature (`persisted_readsBack`), and it is a
receipt of `AdmissionReceiptV1` whose instants are those of its dates
(`canonicalPayload_toAdmissionReceiptV1`).
-/

namespace DriftGuardX.Admission

open Json Bytes Transaction

/-! ## Fields -/

/-- What the construction and the reading of a receipt raise beyond the exceptions of the stores. -/
inductive ReceiptError where
  | raised (e : Error)
  | overflowError
  | attributeError
  deriving DecidableEq, Repr

instance : MonadLift (Except Error) (Except ReceiptError) := ⟨Except.mapError .raised⟩

theorem liftM_ok {α : Type} (a : α) :
    (liftM (Except.ok a : Except Error α) : Except ReceiptError α) = .ok a := rfl

inductive ReceiptTerminalReason where
  | completed
  | cancelled
  | expired
  | bindingMismatch
  | evidenceCeilingExceeded
  | signatureInvalid
  | executionFailed
  deriving DecidableEq, Repr

def ReceiptTerminalReason.value : ReceiptTerminalReason → String
  | .completed => "COMPLETED"
  | .cancelled => "CANCELLED"
  | .expired => "EXPIRED"
  | .bindingMismatch => "BINDING_MISMATCH"
  | .evidenceCeilingExceeded => "EVIDENCE_CEILING_EXCEEDED"
  | .signatureInvalid => "SIGNATURE_INVALID"
  | .executionFailed => "EXECUTION_FAILED"

def ReceiptTerminalReason.ofValue (s : String) : Option ReceiptTerminalReason :=
  [.completed, .cancelled, .expired, .bindingMismatch, .evidenceCeilingExceeded, .signatureInvalid,
    .executionFailed].find? fun r ↦ r.value = s

/-- The arguments of the constructor, with dates of some kind. -/
structure ReceiptFields (F D : Type) where
  tenantId : String
  manifestHash : String
  traceRootHash : String
  interventionHash : String
  currentVersion : String
  candidateVersion : String
  policyHash : String
  predictedCost : F
  uncertaintyMargin : F
  rollbackReserve : F
  evidenceCeiling : EvidenceClassification
  capsuleHash : String
  issuedAt : D
  expiresAt : D
  receiptId : String
  schemaVersion : String
  workloadId : String
  runId : String
  nonce : String
  policyVersion : String
  approvalId : String
  resourcePoolId : String
  keyId : String
  signatureAlgorithm : String
  payloadSignature : String
  issuedBy : String
  status : ReceiptStatus
  terminalReason : Option ReceiptTerminalReason
  consumedByWorkerId : String
  consumedAt : Option D

/-- A receipt that the constructor has checked. -/
structure ValidReceipt (F : Type) [FloatAmount F] extends ReceiptFields F UtcDatetime where
  schema : schemaVersion = receiptSchemaVersion
  numbers : ∀ value ∈ [predictedCost, uncertaintyMargin, rollbackReserve],
    FloatAmount.isFinite value = true ∧ FloatText.ltInt value 0 = false
  expiry : issuedAt.instant < expiresAt.instant

variable {F : Type} [FloatAmount F]

/-! ## Construction -/

/-- A date with a time zone, normalised to UTC. -/
def requireAwareUtc (value : CalendarDatetime) (fieldName : String) :
    Except ReceiptError UtcDatetime := do
  require (value.utcoffset ≠ none)
    (.raised (.valueError s!"Receipt {fieldName} must be timezone-aware."))
  orRaise .overflowError (UtcDatetime.fromInstant value.instant)

/-- The normalisation of a date that may be absent. -/
def requireAwareUtc? (value : Option CalendarDatetime) (fieldName : String) :
    Except ReceiptError (Option UtcDatetime) :=
  match value with
  | none => .ok none
  | some value => (requireAwareUtc value fieldName).map some

/-- `__post_init__`. -/
def postInit (fields : ReceiptFields F CalendarDatetime) : Except ReceiptError (ValidReceipt F) :=
  if schema : fields.schemaVersion = receiptSchemaVersion then do
    let issuedAt ← requireAwareUtc fields.issuedAt "issued_at"
    let expiresAt ← requireAwareUtc fields.expiresAt "expires_at"
    let consumedAt ← requireAwareUtc? fields.consumedAt "consumed_at"
    if numbers : ∀ value ∈ [fields.predictedCost, fields.uncertaintyMargin, fields.rollbackReserve],
        FloatAmount.isFinite value = true ∧ FloatText.ltInt value 0 = false then
      if expiry : issuedAt.instant < expiresAt.instant then
        return { fields with issuedAt, expiresAt, consumedAt, schema, numbers, expiry }
      else .error (.raised (.valueError "Receipt expiry must be after issue time."))
    else .error (.raised (.valueError "Receipt resource values must be finite and non-negative."))
  else .error (.raised
    (.valueError s!"Unsupported admission receipt schema: {fields.schemaVersion}."))

/-! ## Payloads -/

/-- `_canonical_datetime`. The dates of a receipt are in UTC already. -/
def canonicalDatetime (value : UtcDatetime) : String :=
  String.ofList (replaceText ['+', '0', '0', ':', '0', '0'] ['Z']
    (isoformatMicroseconds value.toDatetime))

namespace ValidReceipt

variable (sha256 : List UInt8 → String) (verifier : String → List UInt8 → String → Bool)
  (receipt : ValidReceipt F)

/-- The fields that the binding hash and the signature cover. -/
def canonicalPayload : List (String × Scalar F) :=
  [("receipt_id", .str receipt.receiptId),
    ("schema_version", .str receipt.schemaVersion),
    ("tenant_id", .str receipt.tenantId),
    ("workload_id", .str receipt.workloadId),
    ("run_id", .str receipt.runId),
    ("nonce", .str receipt.nonce),
    ("manifest_hash", .str receipt.manifestHash),
    ("trace_root_hash", .str receipt.traceRootHash),
    ("intervention_hash", .str receipt.interventionHash),
    ("current_version", .str receipt.currentVersion),
    ("candidate_version", .str receipt.candidateVersion),
    ("policy_hash", .str receipt.policyHash),
    ("policy_version", .str receipt.policyVersion),
    ("approval_id", .str receipt.approvalId),
    ("predicted_cost", .float receipt.predictedCost),
    ("uncertainty_margin", .float receipt.uncertaintyMargin),
    ("rollback_reserve", .float receipt.rollbackReserve),
    ("resource_pool_id", .str receipt.resourcePoolId),
    ("evidence_ceiling", .str receipt.evidenceCeiling.value),
    ("capsule_hash", .str receipt.capsuleHash),
    ("issued_at", .str (canonicalDatetime receipt.issuedAt)),
    ("expires_at", .str (canonicalDatetime receipt.expiresAt)),
    ("key_id", .str receipt.keyId),
    ("signature_algorithm", .str receipt.signatureAlgorithm),
    ("issued_by", .str receipt.issuedBy)]

def storedPayload : List (String × Scalar F) :=
  receipt.canonicalPayload ++ [("payload_signature", .str receipt.payloadSignature)]

def canonicalBytes : Option (List UInt8) :=
  (dumps ⟨true, true⟩ true (.record receipt.canonicalPayload)).map utf8Chars

def signingBytes : Option (List UInt8) :=
  receipt.canonicalBytes.map (utf8 "DGX-REPLAY-ADMISSION-SIGNATURE-V1\x00" ++ ·)

def bindingHash : Except Error String := do
  let canonical ← orRaise .typeError receipt.canonicalBytes
  return sha256 (utf8 "DGX-REPLAY-ADMISSION-V1\x00" ++ canonical)

def verifySignature (publicKey : String) : Except Error (Bool × String) := do
  if receipt.keyId = "" ∨ receipt.payloadSignature = "" then
    return (false, "Admission receipt is unsigned.")
  if receipt.signatureAlgorithm ≠ receiptSignatureAlgorithm then
    return (false, "Unsupported admission receipt signature algorithm.")
  let message ← orRaise .typeError receipt.signingBytes
  if verifier publicKey message receipt.payloadSignature = false then
    return (false, "Admission receipt signature is invalid.")
  return (true, "ok")

end ValidReceipt

/-! ## Reading a persisted payload -/

/-- The arguments of the constructor that a payload can give. -/
def constructorFields : List String :=
  persistedFields ++ ["terminal_reason", "consumed_by_worker_id", "consumed_at", "_reservation"]

/-- `str` of a value that is read as a date. A container, `None` and a boolean have texts that are no
dates. -/
def dateTextOf : Val F → List Char
  | .str s => s.toList
  | .scalar a => atomText a
  | _ => []

def isoformatField (payload : List (Key F × Val F)) (name : String) :
    Except ReceiptError CalendarDatetime :=
  match dictGet payload name with
  | none => .error (.raised .keyError)
  | some v => orRaise (.raised (.valueError "Invalid isoformat string"))
      (fromisoformat (dateTextOf v))

def terminalReasonField (payload : List (Key F × Val F)) :
    Except ReceiptError (Option ReceiptTerminalReason) :=
  match dictGet payload "terminal_reason" with
  | none => .ok none
  | some .none => .ok none
  | some (.str s) =>
    (orRaise (.raised (.valueError "not a valid ReceiptTerminalReason"))
      (ReceiptTerminalReason.ofValue s)).map some
  | some _ => .error (.raised (.valueError "not a valid ReceiptTerminalReason"))

/-- A value that is not converted to a date has no time zone to ask for. -/
def consumedAtField (payload : List (Key F × Val F)) :
    Except ReceiptError (Option CalendarDatetime) :=
  match dictGet payload "consumed_at" with
  | none => .ok none
  | some .none => .ok none
  | some _ => .error .attributeError

/-- `_receipt_from_persisted_payload`. -/
def receiptFromPersisted (payload : Val F) (receiptId : String) (status : ReceiptStatus) :
    Except ReceiptError (ValidReceipt F) :=
  match payload with
  | .dict restored => do
    let issuedAt ← isoformatField restored "issued_at"
    let expiresAt ← isoformatField restored "expires_at"
    let payloadReceiptId ← strFieldD restored "receipt_id" receiptId
    require (restored.all fun m ↦ constructorFields.any m.1.isText) (.raised .typeError)
    let tenantId ← strField restored "tenant_id"
    let manifestHash ← strField restored "manifest_hash"
    let traceRootHash ← strField restored "trace_root_hash"
    let interventionHash ← strField restored "intervention_hash"
    let currentVersion ← strField restored "current_version"
    let candidateVersion ← strField restored "candidate_version"
    let policyHash ← strField restored "policy_hash"
    let predictedCost ← floatField restored "predicted_cost"
    let uncertaintyMargin ← floatField restored "uncertainty_margin"
    let rollbackReserve ← floatField restored "rollback_reserve"
    let ceiling ← strField restored "evidence_ceiling"
    let capsuleHash ← strField restored "capsule_hash"
    let schemaVersion ← strFieldD restored "schema_version" receiptSchemaVersion
    let workloadId ← strFieldD restored "workload_id" ""
    let runId ← strFieldD restored "run_id" ""
    -- the constructor would draw a random nonce; every persisted payload has one
    let nonce ← strField restored "nonce"
    let policyVersion ← strFieldD restored "policy_version" ""
    let approvalId ← strFieldD restored "approval_id" ""
    let resourcePoolId ← strFieldD restored "resource_pool_id" "default"
    let keyId ← strFieldD restored "key_id" ""
    let signatureAlgorithm ← strFieldD restored "signature_algorithm" ""
    let payloadSignature ← strFieldD restored "payload_signature" ""
    let issuedBy ← strFieldD restored "issued_by" ""
    let consumedByWorkerId ← strFieldD restored "consumed_by_worker_id" ""
    let evidenceCeiling ← orRaise (.raised (.valueError "not a valid EvidenceClassification"))
      (EvidenceClassification.ofValue ceiling)
    let terminalReason ← terminalReasonField restored
    let consumedAt ← consumedAtField restored
    postInit {
      tenantId, manifestHash, traceRootHash, interventionHash, currentVersion, candidateVersion,
      policyHash, predictedCost, uncertaintyMargin, rollbackReserve, evidenceCeiling, capsuleHash,
      issuedAt, expiresAt, receiptId := payloadReceiptId, schemaVersion, workloadId, runId, nonce,
      policyVersion, approvalId, resourcePoolId, keyId, signatureAlgorithm, payloadSignature,
      issuedBy, status, terminalReason, consumedByWorkerId, consumedAt }
  | _ => .error (.raised .typeError)

/-! ## The construction of a valid receipt -/

theorem requireAwareUtc_utc (value : UtcDatetime) (fieldName : String) :
    requireAwareUtc value.toCalendarDatetime fieldName = .ok value := by
  have haware : value.utcoffset ≠ none := by
    rw [value.utc]
    exact Option.some_ne_none 0
  rw [requireAwareUtc, require, if_pos haware, ok_bind, UtcDatetime.fromInstant_instant, orRaise]

namespace ValidReceipt

variable (receipt : ValidReceipt F)

/-- A receipt as it is read from its payload, whose other fields have their defaults. -/
def restored (status : ReceiptStatus) : ValidReceipt F where
  toReceiptFields := { receipt.toReceiptFields with
    status, terminalReason := none, consumedByWorkerId := "", consumedAt := none }
  schema := receipt.schema
  numbers := receipt.numbers
  expiry := receipt.expiry

/-- **The checks of the construction pass on what was read from a payload.** -/
theorem postInit_restored (status : ReceiptStatus) :
    postInit { receipt.toReceiptFields with
      issuedAt := receipt.issuedAt.toCalendarDatetime
      expiresAt := receipt.expiresAt.toCalendarDatetime
      status, terminalReason := none, consumedByWorkerId := "", consumedAt := none }
      = .ok (receipt.restored status) := by
  rw [postInit, dif_pos receipt.schema]
  simp only [requireAwareUtc_utc, requireAwareUtc?, ok_bind]
  rw [dif_pos receipt.numbers, dif_pos receipt.expiry]
  rfl

theorem map_fst_storedPayload : receipt.storedPayload.map Prod.fst = persistedFields := rfl

theorem nodup_storedPayload : (receipt.storedPayload.map Prod.fst).Nodup := by
  rw [map_fst_storedPayload]
  decide

theorem dictGet_eq_none {kvs : List (String × Scalar F)} (hperm : kvs.Perm receipt.storedPayload)
    {name : String} (hname : name ∉ persistedFields) : dictGet (members kvs) name = none := by
  rw [dictGet, Option.map_eq_none_iff, List.find?_eq_none]
  intro m hm
  obtain ⟨n, hn, rfl⟩ := List.mem_map.mp hm
  have hmem : n.1 ∈ persistedFields := by
    rw [← map_fst_storedPayload receipt]
    exact List.mem_map_of_mem (hperm.mem_iff.mp hn)
  simp only [Key.isText, beq_iff_eq]
  rintro rfl
  exact hname hmem

theorem all_constructorFields {kvs : List (String × Scalar F)}
    (hperm : kvs.Perm receipt.storedPayload) :
    ((members kvs).all fun m ↦ constructorFields.any m.1.isText) = true := by
  rw [List.all_eq_true]
  intro m hm
  obtain ⟨n, hn, rfl⟩ := List.mem_map.mp hm
  have hmem : n.1 ∈ persistedFields := by
    rw [← map_fst_storedPayload receipt]
    exact List.mem_map_of_mem (hperm.mem_iff.mp hn)
  exact List.any_eq_true.mpr ⟨n.1, List.mem_append_left _ hmem, by simp [Key.isText]⟩

theorem fromisoformat_canonicalDatetime (value : UtcDatetime) :
    fromisoformat (dateTextOf (.str (canonicalDatetime value) : Val F))
      = some value.toCalendarDatetime := by
  rw [dateTextOf, canonicalDatetime, String.toList_ofList, fromisoformat_zulu]

theorem receiptFromPersisted_record (receiptId : String) (status : ReceiptStatus)
    {kvs : List (String × Scalar F)} (hperm : kvs.Perm receipt.storedPayload) :
    receiptFromPersisted (.record kvs) receiptId status = .ok (receipt.restored status) := by
  have hall := all_constructorFields receipt hperm
  have hget := fun m hm ↦ dictGet_members hperm receipt.nodup_storedPayload (m := m) hm
  have hreason : dictGet (members kvs) "terminal_reason" = none :=
    receipt.dictGet_eq_none hperm (by decide)
  have hworker : dictGet (members kvs) "consumed_by_worker_id" = none :=
    receipt.dictGet_eq_none hperm (by decide)
  have hconsumed : dictGet (members kvs) "consumed_at" = none :=
    receipt.dictGet_eq_none hperm (by decide)
  simp only [storedPayload, canonicalPayload, List.cons_append, List.nil_append,
    List.forall_mem_cons] at hget
  rw [record_eq_dict]
  generalize members kvs = restored at hall hget hreason hworker hconsumed
  simp only [receiptFromPersisted, isoformatField, strField, strFieldD, floatField, hget, hall,
    hreason, hworker, hconsumed, fromisoformat_canonicalDatetime, terminalReasonField,
    consumedAtField, EvidenceClassification.ofValue_value, orRaise, require, if_true, ok_bind,
    liftM_ok]
  exact receipt.postInit_restored status

/-- **Persisted receipts decode to themselves**: however the stored payload is written, what is read
has the same payload, hash and signature, and the given status. -/
theorem persisted_readsBack (sha256 : List UInt8 → String)
    (verifier : String → List UInt8 → String → Bool) (status : ReceiptStatus) (st : Style)
    (sort : Bool) : ∃ text payload, ∃ read : ValidReceipt F,
      dumps st sort (.record receipt.storedPayload) = some text ∧ loads text = some payload ∧
      receiptFromPersisted payload receipt.receiptId status = .ok read ∧
      read.canonicalPayload = receipt.canonicalPayload ∧
      read.bindingHash sha256 = receipt.bindingHash sha256 ∧
      read.signingBytes = receipt.signingBytes ∧
      (∀ publicKey, read.verifySignature verifier publicKey
        = receipt.verifySignature verifier publicKey) ∧
      read.status = status := by
  obtain ⟨text, kvs, htext, hloads, hperm⟩ :=
    exists_loads_record st sort receipt.nodup_storedPayload
  exact ⟨text, _, receipt.restored status, htext, hloads,
    receipt.receiptFromPersisted_record _ status hperm, rfl, rfl, rfl, fun _ ↦ rfl, rfl⟩

end ValidReceipt

/-! ## Instants -/

/-- The receipt with the instants of its dates. -/
def ValidReceipt.toAdmissionReceiptV1 (receipt : ValidReceipt F) : AdmissionReceiptV1 F where
  tenantId := receipt.tenantId
  manifestHash := receipt.manifestHash
  traceRootHash := receipt.traceRootHash
  interventionHash := receipt.interventionHash
  currentVersion := receipt.currentVersion
  candidateVersion := receipt.candidateVersion
  policyHash := receipt.policyHash
  predictedCost := receipt.predictedCost
  uncertaintyMargin := receipt.uncertaintyMargin
  rollbackReserve := receipt.rollbackReserve
  evidenceCeiling := receipt.evidenceCeiling
  capsuleHash := receipt.capsuleHash
  issuedAt := receipt.issuedAt.instant
  expiresAt := receipt.expiresAt.instant
  receiptId := receipt.receiptId
  workloadId := receipt.workloadId
  runId := receipt.runId
  nonce := receipt.nonce
  policyVersion := receipt.policyVersion
  approvalId := receipt.approvalId
  resourcePoolId := receipt.resourcePoolId
  keyId := receipt.keyId
  signatureAlgorithm := receipt.signatureAlgorithm
  payloadSignature := receipt.payloadSignature
  issuedBy := receipt.issuedBy
  numbers := receipt.numbers
  expiry := receipt.expiry

/-- The text of an instant. An instant outside the calendar, which no receipt has, is marked. -/
def instantText (t : ℤ) : List Char :=
  match UtcDatetime.fromInstant t with
  | some value => (canonicalDatetime value).toList
  | none => '?' :: intText t

def instantOfText (s : List Char) : Option ℤ :=
  if s.head? = some '?' then intOfText s.tail
  else (fromisoformat s).map CalendarDatetime.instant

theorem head?_canonicalDatetime_ne (value : UtcDatetime) :
    (canonicalDatetime value).toList.head? ≠ some '?' := by
  rw [canonicalDatetime, String.toList_ofList, isoformatMicroseconds_utc, dateText, List.append_assoc]
  exact head?_padded_ne (by decide)

theorem instantOfText_instantText (t : ℤ) : instantOfText (instantText t) = some t := by
  rw [instantText]
  cases h : UtcDatetime.fromInstant t with
  | none => exact (if_pos rfl).trans (intOfText_intText t)
  | some value =>
    simp only [instantOfText, if_neg (head?_canonicalDatetime_ne value)]
    rw [canonicalDatetime, String.toList_ofList, fromisoformat_zulu, Option.map_some,
      UtcDatetime.instant_of_fromInstant h]

/-- The platform with the dates of the calendar. -/
def calendarPlatform (sha256 : List UInt8 → String)
    (verifier : String → List UInt8 → String → Bool) : Platform where
  sha256
  verifySignature := verifier
  canonicalDatetime t := String.ofList (instantText t)
  fromIsoformat s := instantOfText s.toList
  fromIsoformat_canonicalDatetime t := by rw [String.toList_ofList, instantOfText_instantText]

/-- **A receipt with dates has the payload of the receipt with their instants.** -/
theorem canonicalPayload_toAdmissionReceiptV1 (sha256 : List UInt8 → String)
    (verifier : String → List UInt8 → String → Bool) (receipt : ValidReceipt F) :
    receipt.toAdmissionReceiptV1.canonicalPayload (calendarPlatform sha256 verifier)
      = receipt.canonicalPayload := by
  have htext : ∀ value : UtcDatetime,
      (calendarPlatform sha256 verifier).canonicalDatetime value.instant
        = canonicalDatetime value := by
    intro value
    simp only [calendarPlatform, instantText, UtcDatetime.fromInstant_instant, String.ofList_toList]
  rw [AdmissionReceiptV1.canonicalPayload, ValidReceipt.canonicalPayload, receipt.schema]
  simp only [ValidReceipt.toAdmissionReceiptV1, htext]

end DriftGuardX.Admission
