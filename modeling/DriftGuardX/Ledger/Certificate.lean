import DriftGuardX.Foundation.Bytes
import DriftGuardX.Foundation.KeyTable
import DriftGuardX.Foundation.Transaction
import DriftGuardX.Json.Canonical

/-!
# Recovery certificates

The schema of a recovery certificate, the bytes that its hash and its signature cover, and the way
back from the payload column of the ledger. The canonical bytes are written with sorted keys; the
column is written with the fields in the order of the class, so what is read back is the certificate
with its two dictionaries decoded (`exists_fromDict`), and it has the same canonical bytes when the
dictionaries are stable under the round trip (`exists_canonicalBytes_of_stable`).
-/

namespace DriftGuardX.Ledger

open Json Bytes Transaction

variable {F : Type}

/-- A certificate, with the signature fields that its hash leaves out. The evidence kind is a string
enumeration, and reads back as its value. -/
structure RecoveryCertificate (F : Type) where
  certId : String
  tenantId : String
  pipelineId : String
  runId : String
  traceBeforeDigest : String
  traceAfterDigest : Option String
  replayCapsuleHash : String
  interventionVector : List (Key F × Val F)
  contributionMetrics : List (Key F × Val F)
  certificationMethod : String
  epsilon : F
  delta : F
  policyVersion : String
  policyReason : String
  approvals : List String
  actionResult : String
  verificationResult : String
  rollbackCapsuleDigest : Option String
  timestamp : String
  previousCertHash : String
  evidenceKind : String
  signature : Option String
  signerKeyId : Option String
  signerPubKey : Option String

namespace RecoveryCertificate

/-- An optional text. -/
def optional (s : Option String) : Val F := .scalar (s.elim .null .str)

/-- The fields, in the order of the class. -/
def asdict (cert : RecoveryCertificate F) : List (String × Val F) :=
  [("cert_id", .str cert.certId),
    ("tenant_id", .str cert.tenantId),
    ("pipeline_id", .str cert.pipelineId),
    ("run_id", .str cert.runId),
    ("trace_before_digest", .str cert.traceBeforeDigest),
    ("trace_after_digest", optional cert.traceAfterDigest),
    ("replay_capsule_hash", .str cert.replayCapsuleHash),
    ("intervention_vector", .dict cert.interventionVector),
    ("contribution_metrics", .dict cert.contributionMetrics),
    ("certification_method", .str cert.certificationMethod),
    ("epsilon", .float cert.epsilon),
    ("delta", .float cert.delta),
    ("policy_version", .str cert.policyVersion),
    ("policy_reason", .str cert.policyReason),
    ("approvals", .list (cert.approvals.map fun s ↦ .str s)),
    ("action_result", .str cert.actionResult),
    ("verification_result", .str cert.verificationResult),
    ("rollback_capsule_digest", optional cert.rollbackCapsuleDigest),
    ("timestamp", .str cert.timestamp),
    ("previous_cert_hash", .str cert.previousCertHash),
    ("evidence_kind", .str cert.evidenceKind),
    ("signature", optional cert.signature),
    ("signer_key_id", optional cert.signerKeyId),
    ("signer_pub_key", optional cert.signerPubKey)]

def certificateFields : List String :=
  ["cert_id", "tenant_id", "pipeline_id", "run_id", "trace_before_digest", "trace_after_digest",
    "replay_capsule_hash", "intervention_vector", "contribution_metrics", "certification_method",
    "epsilon", "delta", "policy_version", "policy_reason", "approvals", "action_result",
    "verification_result", "rollback_capsule_digest", "timestamp", "previous_cert_hash",
    "evidence_kind", "signature", "signer_key_id", "signer_pub_key"]

/-- The fields without the signature. -/
def canonicalDict (cert : RecoveryCertificate F) : List (String × Val F) :=
  cert.asdict.filter fun m ↦ m.1 ∉ ["signature", "signer_key_id", "signer_pub_key"]

def canonicalBytes [FloatText F] (cert : RecoveryCertificate F) : Option (List UInt8) :=
  (dumps ⟨true, true⟩ true (.object [("domain", .str "DriftGuardX-Recovery-Cert-V2"),
    ("version", .str "2.0"), ("data", .object cert.canonicalDict)])).map utf8Chars

def computeHash [FloatText F] (sha256 : List UInt8 → String) (cert : RecoveryCertificate F) :
    Option String :=
  cert.canonicalBytes.map sha256

/-! ## Reading a payload -/

def strOf : Val F → Option String
  | .str s => some s
  | _ => none

def optionalOf : Val F → Option (Option String)
  | .none => some none
  | .str s => some (some s)
  | _ => none

def floatOf : Val F → Option F
  | .float f => some f
  | _ => none

def dictOfVal : Val F → Option (List (Key F × Val F))
  | .dict kvs => some kvs
  | _ => none

def strsOf : Val F → Option (List String)
  | .list xs => xs.mapM strOf
  | _ => none

/-- `RecoveryCertificate(**data)`. The class does not check the types of its arguments; a stored
payload has the declared ones, and all the fields. -/
def fromDict (data : Val F) : Option (RecoveryCertificate F) :=
  match data with
  | .dict kvs => do
    guard (kvs.all fun m ↦ certificateFields.any m.1.isText)
    return {
      certId := ← (dictGet kvs "cert_id").bind strOf
      tenantId := ← (dictGet kvs "tenant_id").bind strOf
      pipelineId := ← (dictGet kvs "pipeline_id").bind strOf
      runId := ← (dictGet kvs "run_id").bind strOf
      traceBeforeDigest := ← (dictGet kvs "trace_before_digest").bind strOf
      traceAfterDigest := ← (dictGet kvs "trace_after_digest").bind optionalOf
      replayCapsuleHash := ← (dictGet kvs "replay_capsule_hash").bind strOf
      interventionVector := ← (dictGet kvs "intervention_vector").bind dictOfVal
      contributionMetrics := ← (dictGet kvs "contribution_metrics").bind dictOfVal
      certificationMethod := ← (dictGet kvs "certification_method").bind strOf
      epsilon := ← (dictGet kvs "epsilon").bind floatOf
      delta := ← (dictGet kvs "delta").bind floatOf
      policyVersion := ← (dictGet kvs "policy_version").bind strOf
      policyReason := ← (dictGet kvs "policy_reason").bind strOf
      approvals := ← (dictGet kvs "approvals").bind strsOf
      actionResult := ← (dictGet kvs "action_result").bind strOf
      verificationResult := ← (dictGet kvs "verification_result").bind strOf
      rollbackCapsuleDigest := ← (dictGet kvs "rollback_capsule_digest").bind optionalOf
      timestamp := ← (dictGet kvs "timestamp").bind strOf
      previousCertHash := ← (dictGet kvs "previous_cert_hash").bind strOf
      evidenceKind := ← (dictGet kvs "evidence_kind").bind strOf
      signature := ← (dictGet kvs "signature").bind optionalOf
      signerKeyId := ← (dictGet kvs "signer_key_id").bind optionalOf
      signerPubKey := ← (dictGet kvs "signer_pub_key").bind optionalOf }
  | _ => none

/-! ## The round trip -/

/-- The certificate with other dictionaries. -/
def withDicts (cert : RecoveryCertificate F) (vector metrics : List (Key F × Val F)) :
    RecoveryCertificate F :=
  { cert with
    interventionVector := vector
    contributionMetrics := metrics }

variable {cert : RecoveryCertificate F}

theorem map_fst_asdict (cert : RecoveryCertificate F) :
    cert.asdict.map Prod.fst = certificateFields := rfl

theorem nodup_asdict (cert : RecoveryCertificate F) : (cert.asdict.map Prod.fst).Nodup := by
  rw [map_fst_asdict]
  decide

theorem optionalOf_optional (s : Option String) : optionalOf (optional s : Val F) = some s := by
  cases s <;> rfl

theorem strsOf_map (xs : List String) :
    strsOf (.list (xs.map fun s ↦ (.str s : Val F))) = some xs := by
  rw [strsOf]
  induction xs with
  | nil => rfl
  | cons x xs ih => rw [List.map_cons, List.mapM_cons, ih]; rfl

variable [FloatText F]

theorem exists_ofDoc_iff {v : Val F} {d : Doc F} (h : toDoc false v = some d) (hv : ofDoc d = v)
    {x : Option (Val F)} : (∃ d, toDoc false v = some d ∧ x = some (ofDoc d)) ↔ x = some v := by
  simp only [h, Option.some.injEq, exists_eq_left', hv]

theorem exists_ofDoc_scalar_iff {a : Scalar F} {x : Option (Val F)} :
    (∃ d, toDoc false (.scalar a) = some d ∧ x = some (ofDoc d)) ↔ x = some (.scalar a) :=
  exists_ofDoc_iff (by rw [toDoc]) (by rw [ofDoc])

theorem exists_ofDoc_optional_iff {s : Option String} {x : Option (Val F)} :
    (∃ d, toDoc false (optional s) = some d ∧ x = some (ofDoc d)) ↔ x = some (optional s) :=
  exists_ofDoc_scalar_iff

theorem exists_ofDoc_strs_iff {xs : List String} {x : Option (Val F)} :
    (∃ d, toDoc false (.list (xs.map fun s ↦ (.str s : Val F))) = some d ∧ x = some (ofDoc d)) ↔
      x = some (.list (xs.map fun s ↦ .str s)) := by
  refine exists_ofDoc_iff (toDoc_strs false xs) ?_
  simp only [ofDoc, ofDocs_eq_map, List.map_map, Function.comp_def]

theorem dictGet_ofDoc {kvs : List (String × Val F)} {ms : List (String × Doc F)}
    (hnd : (kvs.map Prod.fst).Nodup) (h : objDocs false kvs = some ms) {m : String × Val F}
    (hm : m ∈ kvs) : ∃ d, toDoc false m.2 = some d ∧
      dictGet (ms.map fun n ↦ ((.str n.1 : Key F), ofDoc n.2)) m.1 = some (ofDoc d) := by
  have hkeys := map_fst_of_objDocs h
  obtain ⟨n, hn, hname, hdoc⟩ := exists_mem_of_forall₂ (objDocs_eq_some_iff.mp h) hm
  refine ⟨n.2, hdoc, ?_⟩
  have hfind : (ms.find? fun q ↦ q.1 = m.1) = some n :=
    (find?_key_eq_some_iff (hkeys ▸ hnd)).mpr ⟨hn, hname⟩
  have hmap : dictGet (ms.map fun n ↦ ((.str n.1 : Key F), ofDoc n.2)) m.1
      = (ms.find? fun q ↦ q.1 = m.1).map fun n ↦ ofDoc n.2 := by
    rw [dictGet, List.find?_map, Option.map_map]
    rfl
  rw [hmap, hfind, Option.map_some]

theorem exists_dict_of_toDoc {kvs : List (Key F × Val F)} {d : Doc F}
    (h : toDoc false (.dict kvs) = some d) : ∃ kvs', ofDoc d = .dict kvs' := by
  rw [toDoc, Option.map_eq_some_iff] at h
  obtain ⟨ms, -, rfl⟩ := h
  exact ⟨_, by rw [ofDoc, Val.object]⟩

/-- **What is read back** is the certificate with its two dictionaries decoded. -/
theorem exists_fromDict {text : Text}
    (h : dumps ⟨true, false⟩ false (.object cert.asdict) = some text) :
    ∃ (vector metrics : List (Key F × Val F)) (dv dm : Doc F),
      toDoc false (.dict cert.interventionVector) = some dv ∧ ofDoc dv = .dict vector ∧
      toDoc false (.dict cert.contributionMetrics) = some dm ∧ ofDoc dm = .dict metrics ∧
      (loads text).bind fromDict = some (cert.withDicts vector metrics) := by
  obtain ⟨d, hd, rfl⟩ := Option.map_eq_some_iff.mp h
  rw [toDoc_false_object, Option.map_eq_some_iff] at hd
  obtain ⟨ms, hms, rfl⟩ := hd
  have hnd : ((ms.map fun m ↦ (m.1, ofDoc m.2)).map Prod.fst).Nodup := by
    have hkeys := map_fst_of_objDocs hms
    rw [List.map_map]
    exact hkeys ▸ nodup_asdict cert
  have hloads : loads (render ⟨true, false⟩ (.obj ms))
      = some (.dict (ms.map fun n ↦ ((.str n.1 : Key F), ofDoc n.2))) := by
    rw [loads_render, ofDoc, ofMembers_eq_map, dictOf_eq_self hnd, Val.object, List.map_map]
    rfl
  -- every member that was written is a field of the certificate
  have hall : ((ms.map fun n ↦ ((.str n.1 : Key F), ofDoc n.2)).all
      fun m ↦ certificateFields.any m.1.isText) = true := by
    rw [List.all_eq_true]
    intro m hm
    obtain ⟨n, hn, rfl⟩ := List.mem_map.mp hm
    have hname : n.1 ∈ certificateFields := by
      rw [← map_fst_asdict cert, ← map_fst_of_objDocs hms]
      exact List.mem_map_of_mem hn
    exact List.any_eq_true.mpr ⟨n.1, hname, by simp [Key.isText]⟩
  have hget := fun m hm ↦ dictGet_ofDoc (nodup_asdict cert) hms (m := m) hm
  simp only [asdict, List.forall_mem_cons, exists_ofDoc_scalar_iff, exists_ofDoc_optional_iff,
    exists_ofDoc_strs_iff] at hget
  generalize ms.map (fun n ↦ ((.str n.1 : Key F), ofDoc n.2)) = kvs at hget hall hloads
  -- each field is read back as it was written
  obtain ⟨h1, h2, h3, h4, h5, h6, h7, ⟨dv, hdv, h8⟩, ⟨dm, hdm, h9⟩, h10, h11, h12, h13, h14, h15,
    h16, h17, h18, h19, h20, h21, h22, h23, h24, -⟩ := hget
  obtain ⟨vector, hvector⟩ := exists_dict_of_toDoc hdv
  obtain ⟨metrics, hmetrics⟩ := exists_dict_of_toDoc hdm
  refine ⟨vector, metrics, dv, dm, hdv, hvector, hdm, hmetrics, ?_⟩
  rw [hloads, Option.bind_some, fromDict, hall]
  simp only [h1, h2, h3, h4, h5, h6, h7, h8, h9, h10, h11, h12, h13, h14, h15, h16, h17, h18, h19,
    h20, h21, h22, h23, h24, hvector, hmetrics, Option.bind_some, strOf, optionalOf_optional,
    floatOf, dictOfVal, strsOf_map]
  rfl

/-- The canonical bytes depend on the dictionaries through the documents they are written as. -/
theorem canonicalBytes_congr {vector metrics : List (Key F × Val F)}
    (hvector : toDoc true (.dict vector) = toDoc true (.dict cert.interventionVector))
    (hmetrics : toDoc true (.dict metrics) = toDoc true (.dict cert.contributionMetrics)) :
    (cert.withDicts vector metrics).canonicalBytes = cert.canonicalBytes := by
  have hfields : List.Forall₂ (fun m n ↦ m.1 = n.1 ∧ toDoc true m.2 = toDoc true n.2)
      (cert.withDicts vector metrics).asdict cert.asdict := by
    simp only [asdict, withDicts, List.forall₂_cons, hvector, hmetrics, and_self,
      List.Forall₂.nil]
  have hdata : toDoc true (.object (cert.withDicts vector metrics).canonicalDict)
      = toDoc true (.object cert.canonicalDict) :=
    toDoc_object_congr (List.rel_filter (fun m n hmn ↦ by simp only [hmn.1]) hfields)
  have hdoc : toDoc true (.object [("domain", .str "DriftGuardX-Recovery-Cert-V2"),
      ("version", .str "2.0"), ("data", .object (cert.withDicts vector metrics).canonicalDict)])
      = toDoc true (.object [("domain", .str "DriftGuardX-Recovery-Cert-V2"),
        ("version", .str "2.0"), ("data", .object cert.canonicalDict)]) :=
    toDoc_object_congr (.cons ⟨rfl, rfl⟩ (.cons ⟨rfl, rfl⟩ (.cons ⟨rfl, hdata⟩ .nil)))
  rw [canonicalBytes, canonicalBytes, dumps, dumps, hdoc]

/-- The dictionaries of the certificate are stable under a round trip. -/
def Stable (cert : RecoveryCertificate F) : Prop :=
  (Val.dict cert.interventionVector).Stable ∧ (Val.dict cert.contributionMetrics).Stable

theorem exists_toDoc_of_canonicalBytes {bytes : List UInt8} (h : cert.canonicalBytes = some bytes) :
    (∃ d, toDoc true (.dict cert.interventionVector) = some d) ∧
      ∃ d, toDoc true (.dict cert.contributionMetrics) = some d := by
  obtain ⟨text, htext, -⟩ := Option.map_eq_some_iff.mp h
  obtain ⟨d, hd, -⟩ := Option.map_eq_some_iff.mp htext
  obtain ⟨data, hdata⟩ := exists_toDoc_of_mem hd (m := ("data", .object cert.canonicalDict)) (by simp)
  constructor
  · exact exists_toDoc_of_mem hdata (m := ("intervention_vector", .dict cert.interventionVector))
      (by simp [canonicalDict, asdict])
  · exact exists_toDoc_of_mem hdata (m := ("contribution_metrics", .dict cert.contributionMetrics))
      (by simp [canonicalDict, asdict])

/-- **The canonical bytes survive the ledger** when the dictionaries are stable. -/
theorem exists_canonicalBytes_of_stable {text : Text} {bytes : List UInt8}
    (hstable : cert.Stable) (hbytes : cert.canonicalBytes = some bytes)
    (h : dumps ⟨true, false⟩ false (.object cert.asdict) = some text) :
    ∃ vector metrics, (loads text).bind fromDict = some (cert.withDicts vector metrics) ∧
      (cert.withDicts vector metrics).canonicalBytes = some bytes := by
  obtain ⟨⟨dv, hdv⟩, ⟨dm, hdm⟩⟩ := exists_toDoc_of_canonicalBytes hbytes
  obtain ⟨vector, metrics, ev, em, hev, hvector, hem, hmetrics, hread⟩ := exists_fromDict h
  obtain ⟨ev', hev', hcv⟩ := exists_toDoc_of_stable hstable.1 hdv
  obtain ⟨em', hem', hcm⟩ := exists_toDoc_of_stable hstable.2 hdm
  obtain rfl := Option.some.inj (hev.symm.trans hev')
  obtain rfl := Option.some.inj (hem.symm.trans hem')
  refine ⟨vector, metrics, hread, ?_⟩
  rw [canonicalBytes_congr, hbytes]
  · rw [← hvector, hcv, hdv]
  · rw [← hmetrics, hcm, hdm]

end RecoveryCertificate

end DriftGuardX.Ledger
