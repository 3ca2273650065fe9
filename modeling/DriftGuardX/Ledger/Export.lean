import DriftGuardX.Json.Access
import DriftGuardX.Json.Layout
import DriftGuardX.Ledger.Chain

/-!
# Exported bundles

`export_machine_bundle` writes the certificates of a ledger as one JSON text, and a standalone
program verifies such a text without the database. It reconstructs the signed bytes of a certificate
from the text, under a domain of its own: the certificates are signed and chained under the second
version of the domain, the program uses the first.

So it refuses what the ledger verifies, unless there is at most one certificate
(`verifyBundle_export_iff`). What it accepts is still evidence against tampering: the last hash
fixes all that the certificates hold besides their signatures (`equal_certificates_of_headHash_eq`).
-/

namespace DriftGuardX.Ledger.Export

open Json Bytes HashChain Transaction RecoveryCertificate LedgerChain

variable {F : Type} [FloatText F]

/-! ## The exports -/

/-- `EvidenceClassification`, in order. -/
def evidenceKinds : List String :=
  ["PRODUCTION", "REAL_CONTROLLED_EXPERIMENT", "SYNTHETIC_SIMULATION", "TEST_FIXTURE", "UNVERIFIED"]

def evidenceSummary (certs : List (RecoveryCertificate F)) : List (String × Val F) :=
  evidenceKinds.map fun kind ↦ (kind, .int (certs.countP fun c ↦ c.evidenceKind = kind))

def bundleType : String := "DriftGuardX_Ledger_Verification_Bundle"

def machineBundle (certs : List (RecoveryCertificate F)) : List (String × Val F) :=
  [("version", .str "2.0"), ("type", .str bundleType),
    ("evidence_summary", .object (evidenceSummary certs)),
    ("certificates", .list (certs.map fun c ↦ .object c.asdict))]

def exportMachineBundle (certs : List (RecoveryCertificate F)) : Option Text :=
  dumpsIndent 2 (.object (machineBundle certs))

/-! ## The standalone verifier -/

/-- How the program ends: the last line it prints, with the position of the certificate. -/
inductive Verdict where
  | loadError
  | invalidType
  | emptyChain
  | chainBroken (i : ℕ)
  | missingSignature (i : ℕ)
  | invalidSignature (i : ℕ)
  | verified
  /-- An exception that is not caught. -/
  | crash
  deriving DecidableEq

def Verdict.exitCode : Verdict → ℕ
  | .emptyChain | .verified => 0
  | _ => 1

/-- A certificate without the fields of its signature. -/
def signedPart (cert : List (Key F × Val F)) : List (Key F × Val F) :=
  cert.filter fun m ↦ ¬ (m.1.isText "signature" ∨ m.1.isText "signer_key_id" ∨
    m.1.isText "signer_pub_key")

def getCanonicalBytes (cert : List (Key F × Val F)) : Option (List UInt8) :=
  (dumps ⟨true, true⟩ true (.object [("domain", .str "DriftGuardX-Recovery-Cert-V1"),
    ("version", .str "1.0"), ("data", .dict (signedPart cert))])).map utf8Chars

/-- A field is there, and is no empty text. A field of another type counts as a text that no
signature is checked against. -/
def filled (cert : List (Key F × Val F)) (key : String) : Bool :=
  match dictGet cert key with
  | none | some .none | some (.str "") => false
  | some _ => true

/-- `verify_signature`, which is false when an argument is no text. -/
def verifySignature (C : Crypto) (cert : List (Key F × Val F)) (bytes : List UInt8) : Bool :=
  match dictGet cert "signer_pub_key", dictGet cert "signature" with
  | some (.str key), some (.str signature) => C.verifySignature key bytes signature
  | _, _ => false

/-- Whether the certificate names a hash as that of its predecessor. -/
def names (cert : List (Key F × Val F)) (hash : String) : Bool :=
  match dictGet cert "previous_cert_hash" with
  | some (.str previous) => previous == hash
  | _ => false

/-- The loop over the certificates. -/
def verifyCertificates (C : Crypto) : ℕ → String → List (Val F) → Verdict
  | _, _, [] => .verified
  | i, expectedPrev, .dict cert :: certs =>
    if names cert expectedPrev = false then .chainBroken i
    else match getCanonicalBytes cert with
      | none => .crash
      | some bytes =>
        if filled cert "signature" = false ∨ filled cert "signer_pub_key" = false then
          .missingSignature i
        else if verifySignature C cert bytes = false then .invalidSignature i
        else verifyCertificates C (i + 1) (C.sha256 bytes) certs
  | _, _, _ :: _ => .crash

variable (F) in
/-- `main` -/
def verifyBundle (C : Crypto) (text : Text) : Verdict :=
  match (loads text : Option (Val F)) with
  | none => .loadError
  | some (.dict bundle) =>
    match dictGet bundle "type" with
    | some (.str type) =>
      if type = bundleType then
        match dictGet bundle "certificates" with
        | none | some (.list []) | some (.dict []) | some (.str "") => .emptyChain
        | some (.list certs) => verifyCertificates C 0 "GENESIS" certs
        | some _ => .crash
      else .invalidType
    | _ => .invalidType
  | some _ => .crash

/-! ## What is accepted -/

section Verifier

variable {C : Crypto} {i : ℕ} {expectedPrev : String} {cert : List (Key F × Val F)}
  {certs : List (Val F)}

omit [FloatText F] in
theorem names_iff {hash : String} :
    names cert hash = true ↔ dictGet cert "previous_cert_hash" = some (.str hash) := by
  rw [names]
  split
  · rename_i previous h
    rw [h, beq_iff_eq]
    simp
  · rename_i h
    exact ⟨fun hf ↦ absurd hf (by simp), fun hget ↦ absurd hget (h hash)⟩

/-- The certificate passes the checks after the link, with these bytes. -/
structure Authentic (C : Crypto) (cert : List (Key F × Val F)) (bytes : List UInt8) : Prop where
  canonical : getCanonicalBytes cert = some bytes
  signature : filled cert "signature" = true
  signerPubKey : filled cert "signer_pub_key" = true
  verified : verifySignature C cert bytes = true

theorem verifyCertificates_cons_of_ne (h : names cert expectedPrev = false) :
    verifyCertificates C i expectedPrev (.dict cert :: certs) = .chainBroken i := by
  rw [verifyCertificates, if_pos h]

theorem verifyCertificates_cons_of_eq_none (h : names cert expectedPrev = true)
    (hbytes : getCanonicalBytes cert = none) :
    verifyCertificates C i expectedPrev (.dict cert :: certs) = .crash := by
  rw [verifyCertificates, if_neg (by rw [h]; decide), hbytes]

theorem verifyCertificates_cons_of_eq_some {bytes : List UInt8} (h : names cert expectedPrev = true)
    (hbytes : getCanonicalBytes cert = some bytes) :
    verifyCertificates C i expectedPrev (.dict cert :: certs) =
      if filled cert "signature" = false ∨ filled cert "signer_pub_key" = false then
        .missingSignature i
      else if verifySignature C cert bytes = false then .invalidSignature i
      else verifyCertificates C (i + 1) (C.sha256 bytes) certs := by
  rw [verifyCertificates, if_neg (by rw [h]; decide), hbytes]

/-- **One certificate**: its link, its signature, and the rest after its hash. -/
theorem verifyCertificates_cons_iff :
    verifyCertificates C i expectedPrev (.dict cert :: certs) = .verified ↔
      names cert expectedPrev = true ∧ ∃ bytes, Authentic C cert bytes ∧
        verifyCertificates C (i + 1) (C.sha256 bytes) certs = .verified := by
  cases hnames : names cert expectedPrev with
  | false =>
    rw [verifyCertificates_cons_of_ne hnames]
    simp
  | true =>
    cases hbytes : getCanonicalBytes cert with
    | none =>
      rw [verifyCertificates_cons_of_eq_none hnames hbytes]
      refine ⟨fun h ↦ absurd h (by simp), ?_⟩
      rintro ⟨-, bytes, hauth, -⟩
      exact absurd (hbytes.symm.trans hauth.canonical) (by simp)
    | some bytes =>
      rw [verifyCertificates_cons_of_eq_some hnames hbytes]
      split_ifs with hfilled hsignature
      · refine ⟨fun h ↦ absurd h (by simp), ?_⟩
        rintro ⟨-, bytes', hauth, -⟩
        rw [hauth.signature, hauth.signerPubKey] at hfilled
        exact absurd hfilled (by simp)
      · refine ⟨fun h ↦ absurd h (by simp), ?_⟩
        rintro ⟨-, bytes', hauth, -⟩
        obtain rfl := Option.some.inj (hbytes.symm.trans hauth.canonical)
        exact absurd (hauth.verified.symm.trans hsignature) (by simp)
      · simp only [not_or, Bool.not_eq_false] at hfilled hsignature
        constructor
        · exact fun h ↦ ⟨rfl, bytes, ⟨hbytes, hfilled.1, hfilled.2, hsignature⟩, h⟩
        · rintro ⟨-, bytes', hauth, h⟩
          obtain rfl := Option.some.inj (hbytes.symm.trans hauth.canonical)
          exact h

theorem exitCode_verifyCertificates : (verifyCertificates C i expectedPrev certs).exitCode = 0 ↔
    verifyCertificates C i expectedPrev certs = .verified := by
  refine ⟨?_, fun h ↦ by rw [h]; rfl⟩
  induction certs generalizing i expectedPrev with
  | nil => exact fun _ ↦ rfl
  | cons v certs ih =>
    cases v with
    | dict cert =>
      cases hnames : names cert expectedPrev with
      | false =>
        rw [verifyCertificates_cons_of_ne hnames]
        exact fun h ↦ absurd h (by simp [Verdict.exitCode])
      | true =>
        cases hbytes : getCanonicalBytes cert with
        | none =>
          rw [verifyCertificates_cons_of_eq_none hnames hbytes]
          exact fun h ↦ absurd h (by simp [Verdict.exitCode])
        | some bytes =>
          rw [verifyCertificates_cons_of_eq_some hnames hbytes]
          split_ifs
          · exact fun h ↦ absurd h (by simp [Verdict.exitCode])
          · exact fun h ↦ absurd h (by simp [Verdict.exitCode])
          · exact ih
    | scalar a => exact fun h ↦ absurd h (by simp [verifyCertificates, Verdict.exitCode])
    | list xs => exact fun h ↦ absurd h (by simp [verifyCertificates, Verdict.exitCode])
    | other t => exact fun h ↦ absurd h (by simp [verifyCertificates, Verdict.exitCode])

/-- What is read of canonical bytes: the domain, and what comes back of the data. -/
theorem exists_read {domain version : String} {data : Val F} {bytes : List UInt8}
    (h : (dumps ⟨true, true⟩ true (.object [("domain", .str domain), ("version", .str version),
      ("data", data)])).map utf8Chars = some bytes) :
    ∃ text members w, utf8Chars text = bytes ∧ loads text = some (.dict members) ∧
      dictGet members "domain" = some (.str domain) ∧
      decoded true data = some w ∧ dictGet members "data" = some w := by
  obtain ⟨text, htext, rfl⟩ := Option.map_eq_some_iff.mp h
  have hloads := loads_of_dumps htext
  obtain ⟨d, hd, rfl⟩ := Option.map_eq_some_iff.mp htext
  have hdecoded := loads_render (F := F) ⟨true, true⟩ d
  obtain ⟨members, hmembers, hget, -⟩ :=
    exists_decoded_object (by simp) (hloads.symm.trans hdecoded)
  simp only [List.forall_mem_cons, decoded_scalar, Option.some.injEq, exists_eq_left'] at hget
  obtain ⟨hdomain, -, ⟨w, hw, hdata⟩, -⟩ := hget
  exact ⟨_, members, w, rfl, by rw [hdecoded, hmembers], hdomain, hw, hdata⟩

theorem getCanonicalBytes_ne {certificate : RecoveryCertificate F} {bytes bytes' : List UInt8}
    (h : getCanonicalBytes cert = some bytes) (h' : certificate.canonicalBytes = some bytes') :
    bytes ≠ bytes' := by
  rintro rfl
  obtain ⟨text, members, -, hutf, hloads, hdomain, -⟩ := exists_read h
  obtain ⟨text', members', -, hutf', hloads', hdomain', -⟩ := exists_read h'
  obtain rfl := utf8Chars_injective (hutf.trans hutf'.symm)
  obtain rfl := Val.dict.inj (Option.some.inj (hloads.symm.trans hloads'))
  -- the domains are different
  exact absurd (hdomain.symm.trans hdomain') (by simp)

theorem equal_signedPart {cert' : List (Key F × Val F)} {bytes : List UInt8}
    (hkeyed : (Val.dict cert).StringKeyed) (hkeyed' : (Val.dict cert').StringKeyed)
    (h : getCanonicalBytes cert = some bytes) (h' : getCanonicalBytes cert' = some bytes) :
    (Val.dict (signedPart cert)).Equal (.dict (signedPart cert')) := by
  have hpayload : ∀ cert : List (Key F × Val F), (Val.dict cert).StringKeyed →
      (Val.object [("domain", .str "DriftGuardX-Recovery-Cert-V1"), ("version", .str "1.0"),
        ("data", .dict (signedPart cert))]).StringKeyed := by
    intro cert hcert
    refine .object (by simp) ?_
    rw [List.forall_mem_cons, List.forall_mem_cons, List.forall_mem_singleton]
    exact ⟨.scalar _, .scalar _, stringKeyed_filter hcert _⟩
  obtain ⟨text, htext, rfl⟩ := Option.map_eq_some_iff.mp h
  obtain ⟨text', htext', hutf⟩ := Option.map_eq_some_iff.mp h'
  obtain rfl := utf8Chars_injective hutf
  obtain ⟨d, hd, rfl⟩ := Option.map_eq_some_iff.mp htext
  have hd' := (dumps_eq_dumps_iff _).mp (htext.trans htext'.symm)
  have hequal := equal_of_toDoc (hpayload cert hkeyed) (hpayload cert' hkeyed') hd (hd'.symm.trans hd)
  exact equal_of_mem_object hequal "data" (by simp) (by simp)

/-! ### The last hash -/

/-- The hash that the next certificate has to name. -/
def certHash (C : Crypto) (cert : List (Key F × Val F)) : String :=
  ((getCanonicalBytes cert).map C.sha256).getD ""

/-- What the loop checks of a certificate that was read. -/
structure Checked (C : Crypto) (expectedPrev : String) (cert : List (Key F × Val F)) : Prop where
  stringKeyed : (Val.dict cert).StringKeyed
  link : names cert expectedPrev = true
  authentic : ∃ bytes, Authentic C cert bytes

theorem exists_chained_of_verified (hkeyed : ∀ v ∈ certs, v.StringKeyed)
    (h : verifyCertificates C i expectedPrev certs = .verified) :
    ∃ members : List (List (Key F × Val F)), certs = members.map .dict ∧
      Chained (fun _ previous cert ↦ Checked C previous cert) (certHash C) i expectedPrev members := by
  induction certs generalizing i expectedPrev with
  | nil => exact ⟨[], rfl, trivial⟩
  | cons v certs ih =>
    rw [List.forall_mem_cons] at hkeyed
    cases v with
    | dict cert =>
      obtain ⟨hnames, bytes, hauth, hrest⟩ := verifyCertificates_cons_iff.mp h
      obtain ⟨members, rfl, hchain⟩ := ih hkeyed.2 hrest
      refine ⟨cert :: members, rfl, ⟨hkeyed.1, hnames, bytes, hauth⟩, ?_⟩
      rw [certHash, hauth.canonical, Option.map_some, Option.getD_some]
      exact hchain
    | scalar a => exact absurd h (by simp [verifyCertificates])
    | list xs => exact absurd h (by simp [verifyCertificates])
    | other t => exact absurd h (by simp [verifyCertificates])

variable (F) in
/-- The certificates that a text lists. -/
def certificates (text : Text) : List (List (Key F × Val F)) :=
  match (loads text : Option (Val F)) with
  | some (.dict bundle) =>
    match dictGet bundle "certificates" with
    | some (.list values) => values.filterMap dictOfVal
    | _ => []
  | _ => []

omit [FloatText F] in
theorem filterMap_dictOfVal (members : List (List (Key F × Val F))) :
    (members.map Val.dict).filterMap dictOfVal = members := by
  rw [List.filterMap_map]
  exact List.filterMap_some

theorem chained_of_exitCode {text : Text} (h : (verifyBundle F C text).exitCode = 0) :
    Chained (fun _ previous cert ↦ Checked C previous cert) (certHash C) 0 "GENESIS"
      (certificates F text) := by
  rw [certificates]
  split
  · rename_i bundle hloads
    split
    · rename_i values hvalues
      rw [verifyBundle, hloads] at h
      dsimp only at h
      split at h
      · split_ifs at h
        · rw [hvalues] at h
          cases values with
          | nil => trivial
          | cons v values =>
            dsimp only at h
            have hkeyed := stringKeyed_of_mem_dict (stringKeyed_of_loads hloads)
              (mem_of_dictGet hvalues)
            obtain ⟨members, hmembers, hchain⟩ := exists_chained_of_verified
              (fun v hv ↦ stringKeyed_of_mem_list hkeyed hv) (exitCode_verifyCertificates.mp h)
            rw [hmembers, filterMap_dictOfVal]
            exact hchain
        · exact absurd h (by simp [Verdict.exitCode])
      · exact absurd h (by simp [Verdict.exitCode])
    · trivial
  · trivial

omit [FloatText F] in
theorem mem_signedPart {key : String} {v : Val F} (h : dictGet cert key = some v)
    (hkey : key ≠ "signature" ∧ key ≠ "signer_key_id" ∧ key ≠ "signer_pub_key") :
    (.str key, v) ∈ signedPart cert := by
  refine List.mem_filter.mpr ⟨mem_of_dictGet h, ?_⟩
  simp [Key.isText, hkey]

theorem eq_of_certHash_eq (hinj : Function.Injective C.sha256) {previous previous' : String}
    {cert' : List (Key F × Val F)} (h : Checked C previous cert) (h' : Checked C previous' cert')
    (heq : certHash C cert = certHash C cert') : previous = previous' ∧
      (Val.dict (signedPart cert)).Equal (.dict (signedPart cert')) := by
  obtain ⟨hkeyed, hnames, bytes, hauth⟩ := h
  obtain ⟨hkeyed', hnames', bytes', hauth'⟩ := h'
  rw [certHash, certHash, hauth.canonical, hauth'.canonical] at heq
  obtain rfl := hinj heq
  have hequal := equal_signedPart hkeyed hkeyed' hauth.canonical hauth'.canonical
  have hscalar := (equal_dict_iff.mp hequal).2
    _ (mem_signedPart (names_iff.mp hnames) (by simp))
    _ (mem_signedPart (names_iff.mp hnames') (by simp)) rfl
  exact ⟨Scalar.str.inj (equal_scalar_iff.mp hscalar), hequal⟩

end Verifier

/-! ## Bundles of a ledger -/

section Bundles

variable {C : Crypto} {certs : List (RecoveryCertificate F)} {text : Text}

/-- What the program reads of a certificate that was exported. -/
structure Exported (cert : RecoveryCertificate F) (members : List (Key F × Val F)) : Prop where
  decoded : decoded false (.object cert.asdict) = some (.dict members)
  previousCertHash : dictGet members "previous_cert_hash" = some (.str cert.previousCertHash)
  signature : dictGet members "signature" = some (RecoveryCertificate.optional cert.signature)
  signerPubKey :
    dictGet members "signer_pub_key" = some (RecoveryCertificate.optional cert.signerPubKey)

theorem exists_exported_of_decoded {cert : RecoveryCertificate F} {v : Val F}
    (h : decoded false (.object cert.asdict) = some v) :
    ∃ members, v = .dict members ∧ Exported cert members := by
  obtain ⟨members, rfl, hget, -⟩ := exists_decoded_object (nodup_asdict cert) h
  have hscalar : ∀ key a, (key, Val.scalar a) ∈ cert.asdict →
      dictGet members key = some (.scalar a) := by
    intro key a hmem
    obtain ⟨w, hw, hkey⟩ := hget _ hmem
    rw [decoded_scalar] at hw
    exact hkey.trans hw.symm
  refine ⟨members, rfl, h, hscalar _ _ ?_, hscalar _ _ ?_, hscalar _ _ ?_⟩
  all_goals simp [asdict, RecoveryCertificate.optional]

theorem exists_members {values : List (Val F)}
    (h : List.Forall₂ (fun (cert : RecoveryCertificate F) v ↦
      decoded false (.object cert.asdict) = some v) certs values) :
    ∃ members : List (List (Key F × Val F)),
      values = members.map .dict ∧ List.Forall₂ Exported certs members := by
  induction h with
  | nil => exact ⟨[], rfl, .nil⟩
  | cons hv _ ih =>
    obtain ⟨members, rfl, hmembers⟩ := ih
    obtain ⟨cert, rfl, hcert⟩ := exists_exported_of_decoded hv
    exact ⟨cert :: members, rfl, .cons hcert hmembers⟩

/-- What the program reads of an exported bundle. -/
theorem exists_exported (h : exportMachineBundle certs = some text) :
    ∃ bundle values, loads text = some (.dict bundle) ∧
      dictGet bundle "type" = some (.str bundleType) ∧
      dictGet bundle "certificates" = some (.list (values.map .dict)) ∧
      List.Forall₂ Exported certs values := by
  obtain ⟨d, hd, -⟩ := Option.map_eq_some_iff.mp h
  have hloads := loads_of_dumpsIndent hd h
  have hdecoded : decoded false (.object (machineBundle certs)) = some (ofDoc d) := by
    rw [decoded, hd, Option.map_some]
  have hnd : ((machineBundle certs).map Prod.fst).Nodup := by
    show ["version", "type", "evidence_summary", "certificates"].Nodup
    decide
  obtain ⟨bundle, hbundle, hget, -⟩ := exists_decoded_object hnd hdecoded
  simp only [machineBundle, List.forall_mem_cons, decoded_scalar, Option.some.injEq,
    exists_eq_left'] at hget
  obtain ⟨-, htype, -, ⟨v, hv, hcertificates⟩, -⟩ := hget
  obtain ⟨values, rfl, hvalues⟩ := exists_of_decoded_list hv
  rw [List.forall₂_map_left_iff] at hvalues
  obtain ⟨members, rfl, hmembers⟩ := exists_members hvalues
  exact ⟨bundle, members, by rw [hloads, hbundle], htype, hcertificates, hmembers⟩

theorem verifyBundle_of_read {bundle : List (Key F × Val F)} {values : List (Val F)}
    (hloads : loads text = some (.dict bundle)) (htype : dictGet bundle "type" = some (.str bundleType))
    (hvalues : dictGet bundle "certificates" = some (.list values)) : verifyBundle F C text =
      if values = [] then .emptyChain else verifyCertificates C 0 "GENESIS" values := by
  rw [verifyBundle, hloads]
  dsimp only
  rw [htype]
  dsimp only
  rw [if_pos rfl, hvalues]
  cases values with
  | nil => rfl
  | cons v values => rfl

/-- What the ledger checks of a certificate. -/
structure Linked (C : Crypto) (cert : RecoveryCertificate F) (previous : String)
    (bytes : List UInt8) : Prop where
  previousCertHash : cert.previousCertHash = previous
  signed : ∃ signature, signed cert = some signature
  canonical : cert.canonicalBytes = some bytes

theorem exists_linked_of_verifyFrom {cert : RecoveryCertificate F} {previous : String}
    (h : verifyFrom C previous (cert :: certs) = .ok true) :
    ∃ bytes, Linked C cert previous bytes ∧ verifyFrom C (C.sha256 bytes) certs = .ok true := by
  rw [verifyFrom] at h
  by_cases hprevious : cert.previousCertHash = previous
  · rw [if_neg (not_not.mpr hprevious)] at h
    cases hsigned : LedgerChain.signed cert with
    | none => 
      rw [hsigned] at h
      exact absurd (Except.ok.inj h) (by decide)
    | some pair =>
      rw [hsigned] at h
      dsimp only at h
      cases hbytes : cert.canonicalBytes with
      | none => 
        rw [hbytes] at h
        exact absurd h (by simp [orRaise, bind, Except.bind])
      | some bytes =>
        rw [hbytes, orRaise, ok_bind] at h
        split_ifs at h
        · exact absurd (Except.ok.inj h) (by decide)
        · exact ⟨bytes, ⟨hprevious, ⟨pair, hsigned⟩, hbytes⟩, h⟩
  · rw [if_pos hprevious] at h
    exact absurd (Except.ok.inj h) (by decide)

/-- The signature of the certificate, checked over the bytes that the program reconstructs. -/
def Reverified (C : Crypto) (cert : RecoveryCertificate F) : Prop :=
  ∃ members bytes signature key, decoded false (.object cert.asdict) = some (.dict members) ∧
    getCanonicalBytes members = some bytes ∧ signed cert = some (signature, key) ∧
    C.verifySignature key bytes signature = true

omit [FloatText F] in
theorem optional_of_signed {cert : RecoveryCertificate F} {signature key : String}
    (h : signed cert = some (signature, key)) :
    cert.signature = some signature ∧ cert.signerPubKey = some key ∧ signature ≠ "" ∧ key ≠ "" := by
  rw [LedgerChain.signed] at h
  split at h
  · rename_i signature' key' hsignature hkey
    split_ifs at h with hempty
    obtain ⟨rfl, rfl⟩ := Prod.mk.inj (Option.some.inj h)
    rw [not_or] at hempty
    exact ⟨hsignature, hkey, hempty.1, hempty.2⟩
  · exact absurd h (by simp)

omit [FloatText F] in
theorem filled_of_dictGet {members : List (Key F × Val F)} {key s : String}
    (h : dictGet members key = some (.str s)) (hne : s ≠ "") : filled members key = true := by
  rw [filled, h]
  simp [hne]

theorem authentic_iff {cert : RecoveryCertificate F} {members : List (Key F × Val F)}
    (hexported : Exported cert members) {pair : String × String} (hsigned : signed cert = some pair) :
    (∃ bytes, Authentic C members bytes) ↔ Reverified C cert := by
  obtain ⟨signature, key⟩ := pair
  obtain ⟨hsignature, hkey, hne, hne'⟩ := optional_of_signed hsigned
  have hget : dictGet members "signature" = some (.str signature) := by
    rw [hexported.signature, hsignature]
    rfl
  have hget' : dictGet members "signer_pub_key" = some (.str key) := by
    rw [hexported.signerPubKey, hkey]
    rfl
  have hverify : ∀ bytes, Export.verifySignature C members bytes
      = C.verifySignature key bytes signature := by
    intro bytes
    rw [Export.verifySignature, hget', hget]
  constructor
  · rintro ⟨bytes, hauth⟩
    exact ⟨members, bytes, signature, key, hexported.decoded, hauth.canonical, hsigned,
      hverify bytes ▸ hauth.verified⟩
  · rintro ⟨members', bytes, signature', key', hmembers, hbytes, hpair, hverified⟩
    obtain rfl := Val.dict.inj (Option.some.inj (hexported.decoded.symm.trans hmembers))
    obtain ⟨rfl, rfl⟩ := Prod.mk.inj (Option.some.inj (hsigned.symm.trans hpair))
    exact ⟨bytes, hbytes, filled_of_dictGet hget hne, filled_of_dictGet hget' hne',
      (hverify bytes).trans hverified⟩

theorem names_iff_of_exported {cert : RecoveryCertificate F} {members : List (Key F × Val F)}
    (hexported : Exported cert members) {hash : String} :
    names members hash = true ↔ cert.previousCertHash = hash := by
  rw [names_iff, hexported.previousCertHash]
  simp

/-- **Two certificates** that the ledger accepts one after the other, the program does not: it
expects another hash of the first. -/
theorem not_verified_of_two (hinj : Function.Injective C.sha256) {first second : RecoveryCertificate F}
    {previous : String} (h : verifyFrom C previous (first :: second :: certs) = .ok true)
    {members members' : List (Key F × Val F)} (hsecond : Exported second members') {i : ℕ}
    {rest : List (Val F)} :
    verifyCertificates C i previous (.dict members :: .dict members' :: rest) ≠ .verified := by
  intro hverified
  obtain ⟨bytes, hlinked, hrest⟩ := exists_linked_of_verifyFrom h
  obtain ⟨_, hlinked', _⟩ := exists_linked_of_verifyFrom hrest
  obtain ⟨-, bytes', hauth, hverified'⟩ := verifyCertificates_cons_iff.mp hverified
  obtain ⟨hnames, -⟩ := verifyCertificates_cons_iff.mp hverified'
  have hhash : C.sha256 bytes = C.sha256 bytes' :=
    hlinked'.previousCertHash.symm.trans ((names_iff_of_exported hsecond).mp hnames)
  exact getCanonicalBytes_ne hauth.canonical hlinked.canonical (hinj hhash).symm

theorem verifyChain_of_read {t : Table} (h : getAllCertificates t = .ok certs) :
    verifyChain F C t = verifyFrom C "GENESIS" certs := by
  rw [verifyChain, h, ok_bind]

/-- **What the program makes of a ledger that verifies.** It accepts the exported bundle when there
is no certificate, or one whose signature also verifies over the bytes that the program
reconstructs. It refuses every longer chain. -/
theorem verifyBundle_export_iff (hinj : Function.Injective C.sha256) {t : Table}
    (hread : getAllCertificates t = .ok certs) (hledger : verifyChain F C t = .ok true)
    (hexport : exportMachineBundle certs = some text) :
    (verifyBundle F C text).exitCode = 0 ↔
      certs = [] ∨ ∃ cert, certs = [cert] ∧ Reverified C cert := by
  rw [verifyChain_of_read hread] at hledger
  obtain ⟨bundle, members, hloads, htype, hmembers, hexported⟩ := exists_exported hexport
  rw [verifyBundle_of_read hloads htype hmembers]
  cases hexported with
  | nil => simp [Verdict.exitCode]
  | cons hfirst hrest =>
    rename_i first members certs membersRest
    rw [if_neg (by simp), exitCode_verifyCertificates]
    cases hrest with
    | nil =>
      obtain ⟨_, hlinked, _⟩ := exists_linked_of_verifyFrom hledger
      obtain ⟨pair, hpair⟩ := hlinked.signed
      have hnames := (names_iff_of_exported hfirst).mpr hlinked.previousCertHash
      rw [List.map_cons, List.map_nil, verifyCertificates_cons_iff]
      simp [hnames, verifyCertificates, authentic_iff hfirst hpair]
    | cons hsecond _ =>
      refine ⟨fun h ↦ absurd h (not_verified_of_two hinj hledger hsecond), ?_⟩
      rintro (h | ⟨cert, h, -⟩)
      · exact absurd h (by simp)
      · exact absurd h (by simp)

/-- A digest that is one letter for some bytes and shows all others, and signatures that always
verify. -/
def openCrypto (special : List UInt8) : Crypto where
  sha256 bytes := if bytes = special then "1" else "h" ++ latin1 bytes
  verifySignature _ _ _ := true

theorem head?_of_append_eq {s t : String} (h : "h" ++ s = t) : t.toList.head? = some 'h' := by
  rw [← h, String.toList_append]
  rfl

theorem openCrypto_injective (special : List UInt8) :
    Function.Injective (openCrypto special).sha256 := by
  intro bytes bytes' h
  simp only [openCrypto] at h
  split_ifs at h with heq heq' heq'
  · rw [heq, heq']
  · exact absurd (head?_of_append_eq h.symm) (by decide)
  · exact absurd (head?_of_append_eq h) (by decide)
  · refine latin1_injective (String.toList_inj.mp ?_)
    have hchars := congrArg String.toList h
    rw [String.toList_append, String.toList_append] at hchars
    exact List.append_cancel_left hchars

theorem openCrypto_ne_genesis (special bytes : List UInt8) :
    (openCrypto special).sha256 bytes ≠ "GENESIS" := by
  intro h
  simp only [openCrypto] at h
  split_ifs at h
  · exact absurd h (by decide)
  · exact absurd (head?_of_append_eq h) (by decide)

/-- The bytes that the ledger hashes of a certificate without predecessor. -/
def firstBytes : List UInt8 :=
  (sampleCertificate "a" "GENESIS" : RecoveryCertificate WholeFloat).canonicalBytes.getD []

/-- A ledger of two certificates. -/
def twoCertificates : Table :=
  (run (openCrypto firstBytes) [.loadHead 0 0, .setHead 0,
    .check 0 0 (sampleCertificate "a" "GENESIS"), .insert 0, .finish 0,
    .check 0 0 (sampleCertificate "b" "1"), .insert 0, .finish 0]).table

/-- What is read of a ledger that verifies, and what is exported. -/
def verifiedExport (C : Crypto) (t : Table) : Option (List (RecoveryCertificate F) × Text) :=
  match getAllCertificates t with
  | .ok certs =>
    if verifyFrom C "GENESIS" certs = .ok true then
      (exportMachineBundle certs).map fun text ↦ (certs, text)
    else none
  | .error _ => none

theorem read_of_verifiedExport {t : Table} (h : verifiedExport C t = some (certs, text)) :
    getAllCertificates t = .ok certs ∧ verifyChain F C t = .ok true ∧
      exportMachineBundle certs = some text := by
  rw [verifiedExport] at h
  split at h
  · rename_i certs hread
    split_ifs at h with hverify
    obtain ⟨text, htext, heq⟩ := Option.map_eq_some_iff.mp h
    obtain ⟨rfl, rfl⟩ := Prod.mk.inj heq
    exact ⟨hread, (verifyChain_of_read hread).trans hverify, htext⟩
  · exact absurd h (by simp)

/-- The ledger of two certificates verifies, and the program refuses what is exported from it. -/
theorem verifyBundle_twoCertificates : ∃ certs : List (RecoveryCertificate WholeFloat), ∃ text,
    getAllCertificates twoCertificates = .ok certs ∧ exportMachineBundle certs = some text ∧
      (verifyBundle WholeFloat (openCrypto firstBytes) text).exitCode ≠ 0 := by
  have htwo : ((verifiedExport (openCrypto firstBytes) twoCertificates :
      Option (List (RecoveryCertificate WholeFloat) × Text)).any fun p ↦ p.1.length == 2) = true := by
    decide +kernel
  obtain ⟨⟨certs, text⟩, hexported, hlength⟩ := (Option.any_eq_true _ _).mp htwo
  obtain ⟨hread, hledger, htext⟩ := read_of_verifiedExport hexported
  refine ⟨certs, text, hread, htext, fun h ↦ ?_⟩
  rcases (verifyBundle_export_iff (openCrypto_injective firstBytes) hread hledger htext).mp h with
    rfl | ⟨cert, rfl, -⟩
  · simp at hlength
  · simp at hlength

/-- **The last hash** of an accepted bundle fixes its certificates up to the order of their members
and the fields of their signatures. -/
theorem equal_certificates_of_headHash_eq (hinj : Function.Injective C.sha256)
    (hgenesis : ∀ bytes, C.sha256 bytes ≠ "GENESIS") {text text' : Text}
    (h : (verifyBundle F C text).exitCode = 0) (h' : (verifyBundle F C text').exitCode = 0)
    (hlast : headHash (certHash C) "GENESIS" (certificates F text)
      = headHash (certHash C) "GENESIS" (certificates F text')) :
    List.Forall₂ (fun cert cert' ↦
      (Val.dict (signedPart cert)).Equal (.dict (signedPart cert')))
      (certificates F text) (certificates F text') := by
  have hne : ∀ ⦃n : ℕ⦄ ⦃previous : String⦄ ⦃cert : List (Key F × Val F)⦄,
      Checked C previous cert → certHash C cert ≠ "GENESIS" := by
    intro n previous cert hchecked
    obtain ⟨bytes, hauth⟩ := hchecked.authentic
    rw [certHash, hauth.canonical]
    exact hgenesis bytes
  refine forall₂_of_genesis ?_ hne 0 0 _ _ (chained_of_exitCode h) (chained_of_exitCode h') hlast
  exact fun _ _ _ _ _ _ ↦ eq_of_certHash_eq hinj

/-- A bundle of one short certificate, with some signature. -/
def resigned (signature : String) : Text :=
  (dumps ⟨true, true⟩ false (.object [("type", .str bundleType), ("certificates", .list
    [(.object [("previous_cert_hash", .str "GENESIS"), ("signature", .str signature),
      ("signer_pub_key", .str "q")] : Val WholeFloat)])])).getD []

/-- The bytes that the program hashes of it. -/
def resignedBytes : List UInt8 :=
  ((certificates WholeFloat (resigned "s")).head?.bind getCanonicalBytes).getD []

/-- Two accepted bundles of one certificate with different signatures. -/
theorem equal_certificates_resigned : resigned "s" ≠ resigned "t" ∧
    List.Forall₂ (fun cert cert' ↦ (Val.dict (signedPart cert)).Equal (.dict (signedPart cert')))
      (certificates WholeFloat (resigned "s")) (certificates WholeFloat (resigned "t")) :=
  ⟨by decide +kernel, equal_certificates_of_headHash_eq (openCrypto_injective resignedBytes)
    (openCrypto_ne_genesis resignedBytes) (by decide +kernel) (by decide +kernel)
    (by decide +kernel)⟩

end Bundles

end DriftGuardX.Ledger.Export
