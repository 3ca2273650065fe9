import DriftGuardX.Foundation.Bytes
import DriftGuardX.Foundation.KeyTable
import DriftGuardX.Foundation.Transaction
import DriftGuardX.Json.Text
import Mathlib.Algebra.Order.Ring.Rat

/-!
# Admission receipts

A receipt binds the state of an execution, the policy and a reserved amount of money. This module
has the immutable part of `AdmissionReceiptV1`, the payload its hash and its signature cover, the
payload the stores persist, and the way back from a persisted payload.

The construction of a receipt checks its numbers and its dates, and the structure carries what those
checks establish. The status is kept in the stores' rows and is not a field here.

The platform is a parameter: the digest, the signature check, and the text of an instant, which
reads back as the same instant.
-/

namespace DriftGuardX.Admission

open Json Bytes Transaction

/-! ## Platform and numbers -/

/-- What the stores use of the platform. Instants are microseconds in UTC. -/
structure Platform where
  sha256 : List UInt8 → String
  /-- The Ed25519 check of a public key, a message and a signature. -/
  verifySignature : String → List UInt8 → String → Bool
  /-- The text of an instant in a canonical payload. -/
  canonicalDatetime : ℤ → String
  fromIsoformat : String → Option ℤ
  fromIsoformat_canonicalDatetime : ∀ t, fromIsoformat (canonicalDatetime t) = some t

/-- What the receipts and the stores compute with floats. -/
class FloatAmount (F : Type) extends FloatText F where
  add : F → F → F
  isFinite : F → Bool
  /-- The decimal number that the printed form denotes, unless the float is not finite. -/
  decimal : F → Option ℚ
  ltInt_add : ∀ a b, FloatText.ltInt a 0 = false → FloatText.ltInt b 0 = false →
    FloatText.ltInt (add a b) 0 = false
  decimal_nonneg : ∀ a q, FloatText.ltInt a 0 = false → decimal a = some q → 0 ≤ q

instance : FloatAmount WholeFloat where
  add a b := ⟨a.value + b.value⟩
  isFinite _ := true
  decimal a := some a.value
  ltInt_add a b ha hb := by
    simp only [FloatText.ltInt, decide_eq_false_iff_not, not_lt] at ha hb ⊢
    exact add_nonneg ha hb
  decimal_nonneg a q ha hq := by
    simp only [FloatText.ltInt, decide_eq_false_iff_not, not_lt] at ha
    obtain rfl := Option.some.inj hq
    exact_mod_cast ha

/-! ## Exceptions -/

/-- The exceptions of the admission stores, with their messages where the code writes one. -/
inductive Error where
  | valueError (message : String)
  | typeError
  | keyError
  | runtimeError (message : String)
  | integrityError
  deriving DecidableEq, Repr

/-- The class of an exception, which is what two stores can be expected to share. -/
inductive ErrorKind where
  | valueError
  | typeError
  | keyError
  | runtimeError
  | integrityError
  deriving DecidableEq, Repr

def Error.kind : Error → ErrorKind
  | .valueError _ => .valueError
  | .typeError => .typeError
  | .keyError => .keyError
  | .runtimeError _ => .runtimeError
  | .integrityError => .integrityError

/-! ## Enumerations -/

inductive EvidenceClassification where
  | production
  | realControlledExperiment
  | syntheticSimulation
  | testFixture
  | unverified
  deriving DecidableEq, Repr

def EvidenceClassification.value : EvidenceClassification → String
  | .production => "PRODUCTION"
  | .realControlledExperiment => "REAL_CONTROLLED_EXPERIMENT"
  | .syntheticSimulation => "SYNTHETIC_SIMULATION"
  | .testFixture => "TEST_FIXTURE"
  | .unverified => "UNVERIFIED"

def EvidenceClassification.ofValue (s : String) : Option EvidenceClassification :=
  [.production, .realControlledExperiment, .syntheticSimulation, .testFixture, .unverified].find?
    fun c ↦ c.value = s

theorem EvidenceClassification.ofValue_value (c : EvidenceClassification) :
    ofValue c.value = some c := by
  cases c <;> decide

def evidenceRank : EvidenceClassification → ℕ
  | .unverified => 0
  | .testFixture => 1
  | .syntheticSimulation => 2
  | .realControlledExperiment => 3
  | .production => 4

inductive ReceiptStatus where
  | issued
  | verified
  | consumed
  | released
  | voided
  | expired
  deriving DecidableEq, Repr

/-- The value in lower case, as the refusal message has it. -/
def ReceiptStatus.lower : ReceiptStatus → String
  | .issued => "issued"
  | .verified => "verified"
  | .consumed => "consumed"
  | .released => "released"
  | .voided => "voided"
  | .expired => "expired"

/-! ## The receipt -/

def receiptSchemaVersion : String := "1"

def receiptSignatureAlgorithm : String := "Ed25519"

/-- The immutable part of a receipt, with what its construction has checked. -/
structure AdmissionReceiptV1 (F : Type) [FloatAmount F] where
  tenantId : String
  manifestHash : String
  traceRootHash : String
  interventionHash : String
  currentVersion : String
  candidateVersion : String
  policyHash : String
  predictedCost : F
  uncertaintyMargin : F
  rollbackReserve : F
  evidenceCeiling : EvidenceClassification
  capsuleHash : String
  issuedAt : ℤ
  expiresAt : ℤ
  receiptId : String
  workloadId : String
  runId : String
  nonce : String
  policyVersion : String
  approvalId : String
  resourcePoolId : String
  keyId : String
  signatureAlgorithm : String
  payloadSignature : String
  issuedBy : String
  numbers : ∀ value ∈ [predictedCost, uncertaintyMargin, rollbackReserve],
    FloatAmount.isFinite value = true ∧ FloatText.ltInt value 0 = false
  expiry : issuedAt < expiresAt

namespace AdmissionReceiptV1

variable {F : Type} [FloatAmount F] (P : Platform) (receipt : AdmissionReceiptV1 F)

/-- The fields that the binding hash and the signature cover. -/
def canonicalPayload : List (String × Scalar F) :=
  [("receipt_id", .str receipt.receiptId),
    ("schema_version", .str receiptSchemaVersion),
    ("tenant_id", .str receipt.tenantId),
    ("workload_id", .str receipt.workloadId),
    ("run_id", .str receipt.runId),
    ("nonce", .str receipt.nonce),
    ("manifest_hash", .str receipt.manifestHash),
    ("trace_root_hash", .str receipt.traceRootHash),
    ("intervention_hash", .str receipt.interventionHash),
    ("current_version", .str receipt.currentVersion),
    ("candidate_version", .str receipt.candidateVersion),
    ("policy_hash", .str receipt.policyHash),
    ("policy_version", .str receipt.policyVersion),
    ("approval_id", .str receipt.approvalId),
    ("predicted_cost", .float receipt.predictedCost),
    ("uncertainty_margin", .float receipt.uncertaintyMargin),
    ("rollback_reserve", .float receipt.rollbackReserve),
    ("resource_pool_id", .str receipt.resourcePoolId),
    ("evidence_ceiling", .str receipt.evidenceCeiling.value),
    ("capsule_hash", .str receipt.capsuleHash),
    ("issued_at", .str (P.canonicalDatetime receipt.issuedAt)),
    ("expires_at", .str (P.canonicalDatetime receipt.expiresAt)),
    ("key_id", .str receipt.keyId),
    ("signature_algorithm", .str receipt.signatureAlgorithm),
    ("issued_by", .str receipt.issuedBy)]

/-- What is persisted: the canonical payload and the signature. -/
def storedPayload : List (String × Scalar F) :=
  receipt.canonicalPayload P ++ [("payload_signature", .str receipt.payloadSignature)]

def canonicalBytes : Option (List UInt8) :=
  (dumps ⟨true, true⟩ true (.record (receipt.canonicalPayload P))).map utf8Chars

def signingBytes : Option (List UInt8) :=
  (receipt.canonicalBytes P).map (utf8 "DGX-REPLAY-ADMISSION-SIGNATURE-V1\x00" ++ ·)

def bindingHash : Except Error String := do
  let canonical ← orRaise .typeError (receipt.canonicalBytes P)
  return P.sha256 (utf8 "DGX-REPLAY-ADMISSION-V1\x00" ++ canonical)

/-- `predicted_cost + uncertainty_margin + rollback_reserve`, what the stores reserve. -/
def reservedCost : F :=
  FloatAmount.add (FloatAmount.add receipt.predictedCost receipt.uncertaintyMargin)
    receipt.rollbackReserve

def verifySignature (publicKey : String) : Except Error (Bool × String) := do
  if receipt.keyId = "" ∨ receipt.payloadSignature = "" then
    return (false, "Admission receipt is unsigned.")
  if receipt.signatureAlgorithm ≠ receiptSignatureAlgorithm then
    return (false, "Unsupported admission receipt signature algorithm.")
  let message ← orRaise .typeError (receipt.signingBytes P)
  if P.verifySignature publicKey message receipt.payloadSignature = false then
    return (false, "Admission receipt signature is invalid.")
  return (true, "ok")

/-- Whether a result of this class stays below the receipt's ceiling. -/
def verifyEvidence (evidenceClass : EvidenceClassification) : Bool :=
  decide (evidenceRank evidenceClass ≤ evidenceRank receipt.evidenceCeiling)

variable {P} {receipt}

theorem reason_of_verifySignature {publicKey : String} {verdict : Bool × String}
    (h : receipt.verifySignature P publicKey = .ok verdict) (hrefused : verdict.1 = false) :
    verdict.2 ≠ "" := by
  rw [verifySignature] at h
  split at h
  · obtain rfl := pure_eq_ok_iff.mp h
    exact by decide
  · split at h
    · obtain rfl := pure_eq_ok_iff.mp h
      exact by decide
    · obtain ⟨message, -, h⟩ := bind_eq_ok_iff.mp h
      split at h
      · obtain rfl := pure_eq_ok_iff.mp h
        exact by decide
      · obtain rfl := pure_eq_ok_iff.mp h
        exact absurd hrefused (by decide)

end AdmissionReceiptV1

/-- The receipt half of `AdmissionReceiptTrustStore`: keys by their identifiers. -/
def AdmissionReceiptTrustStore := List (String × String)

namespace AdmissionReceiptTrustStore

variable {F : Type} [FloatAmount F] (P : Platform)

def get (store : AdmissionReceiptTrustStore) (keyId : String) : Option String :=
  (store.find? fun m : String × String ↦ m.1 = keyId).map Prod.snd

def verify (store : AdmissionReceiptTrustStore) (receipt : AdmissionReceiptV1 F) :
    Except Error (Bool × String) :=
  if receipt.keyId = "" ∨ receipt.payloadSignature = "" then
    .ok (false, "Admission receipt is unsigned.")
  else match store.get receipt.keyId with
    | none => .ok (false, "Admission receipt signing key is not trusted.")
    | some publicKey => receipt.verifySignature P publicKey

variable {P} {store : AdmissionReceiptTrustStore} {receipt : AdmissionReceiptV1 F}

theorem reason_of_verify {verdict : Bool × String} (h : store.verify P receipt = .ok verdict)
    (hrefused : verdict.1 = false) : verdict.2 ≠ "" := by
  rw [verify] at h
  split at h
  · obtain rfl := Except.ok.inj h
    exact by decide
  · split at h
    · obtain rfl := Except.ok.inj h
      exact by decide
    · exact AdmissionReceiptV1.reason_of_verifySignature h hrefused

end AdmissionReceiptTrustStore

/-! ## Execution attestations -/

/-- Worker evidence about an execution, with what its construction has checked. -/
structure ExecutionAttestationV1 where
  receiptId : String
  receiptBindingHash : String
  tenantId : String
  workerId : String
  manifestHash : String
  policyHash : String
  runtimeVersion : String
  imageDigest : String
  startedAt : ℤ
  completedAt : ℤ
  outcome : String
  outcomeHash : String
  keyId : String
  signatureAlgorithm : String
  payloadSignature : String
  order : startedAt ≤ completedAt

namespace ExecutionAttestationV1

variable (F : Type) [FloatAmount F] (P : Platform) (attestation : ExecutionAttestationV1)

omit [FloatAmount F] in
def canonicalPayload : List (String × Scalar F) :=
  [("schema_version", .str "1"),
    ("receipt_id", .str attestation.receiptId),
    ("receipt_binding_hash", .str attestation.receiptBindingHash),
    ("tenant_id", .str attestation.tenantId),
    ("worker_id", .str attestation.workerId),
    ("manifest_hash", .str attestation.manifestHash),
    ("policy_hash", .str attestation.policyHash),
    ("runtime_version", .str attestation.runtimeVersion),
    ("image_digest", .str attestation.imageDigest),
    ("started_at", .str (P.canonicalDatetime attestation.startedAt)),
    ("completed_at", .str (P.canonicalDatetime attestation.completedAt)),
    ("outcome", .str attestation.outcome),
    ("outcome_hash", .str attestation.outcomeHash),
    ("key_id", .str attestation.keyId),
    ("signature_algorithm", .str attestation.signatureAlgorithm)]

def storedPayload : List (String × Scalar F) :=
  attestation.canonicalPayload F P ++ [("payload_signature", .str attestation.payloadSignature)]

def canonicalBytes : Option (List UInt8) :=
  (dumps ⟨true, true⟩ true (.record (attestation.canonicalPayload F P))).map utf8Chars

def attestationHash : Except Error String := do
  let canonical ← orRaise .typeError (attestation.canonicalBytes F P)
  return P.sha256 (utf8 "DGX-EXECUTION-ATTESTATION-V1\x00" ++ canonical)

def verifySignature (publicKey : String) : Except Error (Bool × String) := do
  if attestation.keyId = "" ∨ attestation.payloadSignature = "" then
    return (false, "Execution attestation is unsigned.")
  if attestation.signatureAlgorithm ≠ "Ed25519" then
    return (false, "Unsupported execution attestation signature algorithm.")
  let canonical ← orRaise .typeError (attestation.canonicalBytes F P)
  let message := utf8 "DGX-EXECUTION-ATTESTATION-SIGNATURE-V1\x00" ++ canonical
  if P.verifySignature publicKey message attestation.payloadSignature = false then
    return (false, "Execution attestation signature is invalid.")
  return (true, "ok")

end ExecutionAttestationV1

/-! ## Reading a persisted payload -/

section Persisted

variable {F : Type} [FloatAmount F]

def persistedFields : List String :=
  ["receipt_id", "schema_version", "tenant_id", "workload_id", "run_id", "nonce", "manifest_hash",
    "trace_root_hash", "intervention_hash", "current_version", "candidate_version", "policy_hash",
    "policy_version", "approval_id", "predicted_cost", "uncertainty_margin", "rollback_reserve",
    "resource_pool_id", "evidence_ceiling", "capsule_hash", "issued_at", "expires_at", "key_id",
    "signature_algorithm", "issued_by", "payload_signature"]

/-- A text field without a default. -/
def strField (payload : List (Key F × Val F)) (name : String) : Except Error String :=
  match dictGet payload name with
  | some (.str s) => .ok s
  | _ => .error .typeError

/-- A text field with a default. -/
def strFieldD (payload : List (Key F × Val F)) (name default : String) : Except Error String :=
  match dictGet payload name with
  | some (.str s) => .ok s
  | some _ => .error .typeError
  | none => .ok default

def floatField (payload : List (Key F × Val F)) (name : String) : Except Error F :=
  match dictGet payload name with
  | some (.float f) => .ok f
  | _ => .error .typeError

def dateField (P : Platform) (payload : List (Key F × Val F)) (name : String) : Except Error ℤ :=
  match dictGet payload name with
  | some (.str s) => orRaise (.valueError "Invalid isoformat string") (P.fromIsoformat s)
  | some _ => .error (.valueError "Invalid isoformat string")
  | none => .error .keyError

/-- The receipt of a persisted payload. A field that is not persisted is an unexpected argument of
the constructor. -/
def receiptFromPersistedPayload (P : Platform) (payload : Val F) (receiptId : String) :
    Except Error (AdmissionReceiptV1 F) :=
  match payload with
  | .dict restored => do
    let issuedAt ← dateField P restored "issued_at"
    let expiresAt ← dateField P restored "expires_at"
    let payloadReceiptId ← strFieldD restored "receipt_id" receiptId
    require (restored.all fun m ↦ persistedFields.any m.1.isText) .typeError
    let tenantId ← strField restored "tenant_id"
    let manifestHash ← strField restored "manifest_hash"
    let traceRootHash ← strField restored "trace_root_hash"
    let interventionHash ← strField restored "intervention_hash"
    let currentVersion ← strField restored "current_version"
    let candidateVersion ← strField restored "candidate_version"
    let policyHash ← strField restored "policy_hash"
    let predictedCost ← floatField restored "predicted_cost"
    let uncertaintyMargin ← floatField restored "uncertainty_margin"
    let rollbackReserve ← floatField restored "rollback_reserve"
    let ceiling ← strField restored "evidence_ceiling"
    let capsuleHash ← strField restored "capsule_hash"
    let schemaVersion ← strFieldD restored "schema_version" receiptSchemaVersion
    let workloadId ← strFieldD restored "workload_id" ""
    let runId ← strFieldD restored "run_id" ""
    -- the constructor would draw a random nonce; every persisted payload has one
    let nonce ← strField restored "nonce"
    let policyVersion ← strFieldD restored "policy_version" ""
    let approvalId ← strFieldD restored "approval_id" ""
    let resourcePoolId ← strFieldD restored "resource_pool_id" "default"
    let keyId ← strFieldD restored "key_id" ""
    let signatureAlgorithm ← strFieldD restored "signature_algorithm" ""
    let payloadSignature ← strFieldD restored "payload_signature" ""
    let issuedBy ← strFieldD restored "issued_by" ""
    let evidenceCeiling ← orRaise (.valueError "not a valid EvidenceClassification")
      (EvidenceClassification.ofValue ceiling)
    require (schemaVersion = receiptSchemaVersion)
      (.valueError s!"Unsupported admission receipt schema: {schemaVersion}.")
    if numbers : ∀ value ∈ [predictedCost, uncertaintyMargin, rollbackReserve],
        FloatAmount.isFinite value = true ∧ FloatText.ltInt value 0 = false then
      if expiry : issuedAt < expiresAt then
        return {
          tenantId, manifestHash, traceRootHash, interventionHash, currentVersion,
          candidateVersion, policyHash, predictedCost, uncertaintyMargin, rollbackReserve,
          evidenceCeiling, capsuleHash, issuedAt, expiresAt, receiptId := payloadReceiptId,
          workloadId, runId, nonce, policyVersion, approvalId, resourcePoolId, keyId,
          signatureAlgorithm, payloadSignature, issuedBy, numbers, expiry }
      else .error (.valueError "Receipt expiry must be after issue time.")
    else .error (.valueError "Receipt resource values must be finite and non-negative.")
  | _ => .error .typeError

theorem map_fst_storedPayload (P : Platform) (receipt : AdmissionReceiptV1 F) :
    (receipt.storedPayload P).map Prod.fst = persistedFields := rfl

theorem nodup_storedPayload (P : Platform) (receipt : AdmissionReceiptV1 F) :
    ((receipt.storedPayload P).map Prod.fst).Nodup := by
  rw [map_fst_storedPayload]
  decide

/-- The members of a record as a dictionary. -/
abbrev members (kvs : List (String × Scalar F)) : List (Key F × Val F) :=
  kvs.map fun m ↦ (.str m.1, .scalar m.2)

omit [FloatAmount F] in
theorem record_eq_dict (kvs : List (String × Scalar F)) : Val.record kvs = .dict (members kvs) := by
  rw [Val.record, Val.object, List.map_map]
  rfl

omit [FloatAmount F] in
theorem dictGet_members {kvs kvs' : List (String × Scalar F)} (hperm : kvs'.Perm kvs)
    (hnd : (kvs.map Prod.fst).Nodup) {m : String × Scalar F} (hm : m ∈ kvs) :
    dictGet (members kvs') m.1 = some (.scalar m.2) := by
  have hfind : (kvs'.find? fun n ↦ n.1 = m.1) = some m :=
    (find?_key_eq_some_iff ((hperm.map Prod.fst).nodup_iff.mpr hnd)).mpr
      ⟨hperm.mem_iff.mpr hm, rfl⟩
  have hmap : dictGet (members kvs') m.1
      = (kvs'.find? fun n ↦ n.1 = m.1).map fun n ↦ Val.scalar n.2 := by
    rw [dictGet, List.find?_map, Option.map_map]
    rfl
  rw [hmap, hfind, Option.map_some]

theorem all_persistedFields {P : Platform} {receipt : AdmissionReceiptV1 F}
    {kvs : List (String × Scalar F)} (hperm : kvs.Perm (receipt.storedPayload P)) :
    ((members kvs).all fun m ↦ persistedFields.any m.1.isText) = true := by
  rw [List.all_eq_true]
  intro m hm
  obtain ⟨n, hn, rfl⟩ := List.mem_map.mp hm
  have hname : n.1 ∈ persistedFields := by
    rw [← map_fst_storedPayload P receipt]
    exact List.mem_map_of_mem (hperm.mem_iff.mp hn)
  exact List.any_eq_true.mpr ⟨n.1, hname, by simp [Key.isText]⟩

/-- **A persisted receipt reads back as itself**, whatever the order of its members. -/
theorem receiptFromPersistedPayload_record (P : Platform) (receipt : AdmissionReceiptV1 F)
    (receiptId : String) {kvs : List (String × Scalar F)}
    (hperm : kvs.Perm (receipt.storedPayload P)) :
    receiptFromPersistedPayload P (.record kvs) receiptId = .ok receipt := by
  have hall := all_persistedFields hperm
  have hget := fun m hm ↦ dictGet_members hperm (nodup_storedPayload P receipt) (m := m) hm
  simp only [AdmissionReceiptV1.storedPayload, AdmissionReceiptV1.canonicalPayload,
    List.cons_append, List.nil_append, List.forall_mem_cons] at hget
  rw [record_eq_dict]
  generalize members kvs = restored at hall hget
  simp only [receiptFromPersistedPayload, dateField, strField, strFieldD, floatField, hget, hall,
    P.fromIsoformat_canonicalDatetime, EvidenceClassification.ofValue_value, orRaise, require,
    if_true, ok_bind]
  rw [dif_pos receipt.numbers, dif_pos receipt.expiry]
  rfl

end Persisted

end DriftGuardX.Admission
