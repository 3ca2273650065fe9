import DriftGuardX.Certification.Sessions
import DriftGuardX.Foundation.Runs

/-!
# Verification of certificates

`verify_recovery_certificate` takes the public key from the payload that it verifies. So what it
accepts was signed by somebody, and anybody can draw a key pair: a payload whose key is not that of a
minted certificate says nothing about what was approved.

A payload with the key of a minted certificate is accepted only when a minted certificate says the
same (`authentic_of_meets`). An adversary has its own keys and the signatures of the certificates that
were minted, and may combine them with any payload.
-/

namespace DriftGuardX.Certification

open Json Runs Transaction
open Isolation (Uuid)
open Replay (uuidText)

variable {K F : Type}

/-! ## The route -/

abbrev Members (F : Type) := List (Key F × Val F)

section Verify

variable (lib : CertificationLibrary K F)

/-- `str(value)` -/
def CertificationLibrary.str : Val F → String
  | .str s => s
  | .none => "None"
  | v => lib.repr v

/-- `dictionary.get(key)` -/
def getOrNone (members : Members F) (key : String) : Val F := (dictGet members key).getD .none

/-- A field of the signature that must be a string. -/
def requiredText (members : Members F) (key : String) : Except Reply String :=
  match dictGet members key with
  | some (.str s) => .ok s
  | _ => .error (.raised .validationError)

/-- `CryptographicSignature(**members)`. The algorithm has a default, and no JSON value is a time. -/
def readCryptographicSignature (members : Members F) : Except Reply CryptographicSignature := do
  let algorithm ←
    match dictGet members "algorithm" with
    | none => pure "Ed25519"
    | some (.str s) => pure s
    | some _ => .error (.raised .validationError)
  require (dictGet members "timestamp").isNone (.raised .validationError)
  return {
    algorithm
    publicKey := ← requiredText members "public_key"
    signature := ← requiredText members "signature"
    signerId := ← requiredText members "signer_id" }

/-- A dictionary in a payload, unless it is missing or empty. -/
def requiredDict (detail : String) (value : Option (Val F)) : Except Reply (Members F) :=
  match value with
  | none => .error (.httpException 400 detail)
  | some v =>
    if lib.truthy v then
      match v with
      | .dict members => .ok members
      | _ => .error (.raised .attributeError)
    else .error (.httpException 400 detail)

theorem requiredDict_cons (detail : String) (m : Key F × Val F) (members : Members F) :
    requiredDict lib detail (some (.dict (m :: members))) = .ok (m :: members) := by
  rw [requiredDict, lib.truthy_dict]
  rfl

/-- The certificate of a payload and its signature. -/
def presented (payload : Members F) : Except Reply (Members F × CryptographicSignature) := do
  let certificate ← requiredDict lib "Certificate payload missing" (dictGet payload "certificate")
  let members ← requiredDict lib "Signature missing" (dictGet certificate "cryptographic_signature")
  let signature ← readCryptographicSignature members
  return (certificate, signature)

variable [FloatText F] [DecidableEq K]

/-- `verify_signature` of the key and the signature in the payload. -/
def verifySignature (signature : CryptographicSignature) (text : Text) : Bool :=
  match lib.readKey signature.publicKey, lib.readSignature signature.signature with
  | some key, some signed => signed = (key, text)
  | _, _ => false

/-- The text that is verified: the one that was signed, with the fields of the certificate. -/
def verifiedText (certificate : Members F) : Option Text :=
  payloadText (.str (lib.str (getOrNone certificate "run_id")))
    (.str (lib.str (getOrNone certificate "replay_episode_id")))
    (.str (lib.str (getOrNone certificate "intervention_id")))
    (getOrNone certificate "evidence_class") (getOrNone certificate "certificate_hash")

/-- `verify_recovery_certificate`: the certificate, if it is accepted. -/
def verifyRecoveryCertificate (payload : Members F) : Except Reply (Members F) := do
  let (certificate, signature) ← presented lib payload
  let text ← orRaise (.raised .typeError) (verifiedText lib certificate)
  require (verifySignature lib signature text) (.httpException 400 "Signature verification failed")
  return certificate

end Verify

/-! ## The system with an adversary -/

/-- The approvals, the keys of an adversary, and the certificates that were accepted. -/
structure Verifications (K F : Type) where
  approvals : Approvals K F
  adversary : List K
  accepted : List (Members F)

def Verifications.start (requests : Uuid → Option (ApprovalRequestORM F)) : Verifications K F :=
  ⟨.start requests, [], []⟩

inductive VerificationEvent (K F : Type) where
  | approval (event : ApprovalEvent K)
  | generate (key : K)
  | verify (payload : Members F)

/-- The certificates that were minted. -/
def Approvals.minted (w : Approvals K F) : List RecoveryCertificate :=
  w.commits.filterMap Commit.certificate

section System

variable (lib : CertificationLibrary K F)

/-- The signature of a payload is one that the adversary can make or has seen. -/
def Verifications.Derivable (w : Verifications K F) (payload : Members F) : Prop :=
  match presented lib payload with
  | .error _ => True
  | .ok (_, signature) =>
    ∀ signed ∈ lib.readSignature signature.signature,
      signed.1 ∈ w.adversary ∨ ∃ c ∈ w.approvals.minted,
        lib.readSignature c.cryptographicSignature.signature = some signed

instance [DecidableEq K] (w : Verifications K F) (payload : Members F) :
    Decidable (w.Derivable lib payload) := by
  unfold Verifications.Derivable
  cases presented lib payload <;> infer_instance

variable [FloatText F] [DecidableEq K]

/-- The system after an event. Nobody draws a key pair that was drawn before. -/
def Verifications.step (w : Verifications K F) :
    VerificationEvent K F → Option (Verifications K F)
  | .approval event => do
    let approvals ← w.approvals.step lib event
    if ∃ key ∈ event.drawn, key ∈ w.adversary then none else some { w with approvals }
  | .generate key =>
    if key ∈ w.approvals.keys then none else some { w with adversary := w.adversary ++ [key] }
  | .verify payload =>
    if w.Derivable lib payload then
      match verifyRecoveryCertificate lib payload with
      | .error _ => some w
      | .ok certificate => some { w with accepted := w.accepted ++ [certificate] }
    else none

/-- The key of a payload is that of a certificate that was minted. -/
def Trusted (w : Verifications K F) : VerificationEvent K F → Prop
  | .approval _ | .generate _ => True
  | .verify payload =>
    match presented lib payload with
    | .error _ => True
    | .ok (_, signature) => ∃ c ∈ w.approvals.minted,
        lib.readKey signature.publicKey = lib.readKey c.cryptographicSignature.publicKey

instance (w : Verifications K F) (event : VerificationEvent K F) :
    Decidable (Trusted lib w event) := by
  unfold Trusted
  cases event with
  | verify payload =>
    simp only
    cases presented lib payload <;> infer_instance
  | _ => infer_instance

/-! ## Authenticity -/

/-- A payload says what a certificate says. -/
structure Agrees (payload : Members F) (certificate : RecoveryCertificate) : Prop where
  runId : lib.uuid (lib.str (getOrNone payload "run_id")) = some certificate.runId
  replayEpisodeId :
    lib.uuid (lib.str (getOrNone payload "replay_episode_id")) = some certificate.replayEpisodeId
  interventionId :
    lib.uuid (lib.str (getOrNone payload "intervention_id")) = some certificate.interventionId
  evidenceClass :
    getOrNone payload "evidence_class" = .str (evidenceValue certificate.evidenceClass)
  certificateHash : getOrNone payload "certificate_hash" = .str certificate.certificateHash

/-- **Authenticity.** What was accepted says what some minted certificate says. -/
def Authentic (w : Verifications K F) : Prop :=
  ∀ payload ∈ w.accepted, ∃ c ∈ w.approvals.minted, Agrees lib payload c

theorem eq_str_of_toDoc {v : Val F} {s : String}
    (h : toDoc true v = toDoc true (.str s : Val F)) : v = .str s := by
  rcases v with a | xs | members | tag
  · exact congrArg Val.scalar (Doc.scalar.inj (Option.some.inj h))
  · obtain ⟨_, -, hne⟩ := Option.map_eq_some_iff.mp h
    contradiction
  · obtain ⟨_, -, hne⟩ := Option.map_eq_some_iff.mp h
    contradiction
  · contradiction

/-- What is signed determines its fields. -/
theorem fields_of_payloadText {runId replayEpisodeId interventionId evidenceClass hash : Val F}
    {source : Source} {text : Text} (hsource : source.text F = some text)
    (h : payloadText runId replayEpisodeId interventionId evidenceClass hash = some text) :
    runId = .str source.runId ∧ replayEpisodeId = .str source.replayEpisodeId ∧
      interventionId = .str source.interventionId ∧ evidenceClass = .str source.evidenceClass ∧
      hash = .str source.hash := by
  have hdocs := (dumps_eq_dumps_iff ⟨true, true⟩).mp (h.trans hsource.symm)
  obtain ⟨d, hd, -⟩ := Option.map_eq_some_iff.mp h
  have hd' := hdocs.symm.trans hd
  rw [signedPayload] at hd hd'
  have hpairs := forall₂_of_toDoc_object (by rfl) (by simp) hd hd'
  simp only [List.forall₂_cons] at hpairs
  obtain ⟨⟨-, hrun⟩, ⟨-, hreplay⟩, ⟨-, hintervention⟩, ⟨-, hevidence⟩, ⟨-, hhash⟩, -⟩ := hpairs
  exact ⟨eq_str_of_toDoc hrun, eq_str_of_toDoc hreplay, eq_str_of_toDoc hintervention,
    eq_str_of_toDoc hevidence, eq_str_of_toDoc hhash⟩

omit [DecidableEq K] in
theorem agrees_of_verifiedText {payload : Members F} {certificate : RecoveryCertificate} {key : K}
    {source : Source} {text : Text} (hminted : MintedFrom lib certificate key source)
    (htext : source.text F = some text) (hverified : verifiedText lib payload = some text) :
    Agrees lib payload certificate := by
  obtain ⟨hrun, hreplay, hintervention, hevidence, hhash⟩ := fields_of_payloadText htext hverified
  have htext : ∀ {a b : String}, (Val.str a : Val F) = .str b → a = b := fun h ↦ by
    injection h with h
    injection h
  refine ⟨?_, ?_, ?_, ?_, ?_⟩
  · rw [htext hrun]
    exact hminted.runId
  · rw [htext hreplay]
    exact hminted.replayEpisodeId
  · rw [htext hintervention]
    exact hminted.interventionId
  · rw [hevidence, evidenceValue_of_evidenceOf hminted.evidenceClass]
  · rw [hhash, hminted.hash]

/-- What is accepted has a signature of the key in its payload. -/
theorem exists_of_verifyRecoveryCertificate {payload certificate : Members F}
    (h : verifyRecoveryCertificate lib payload = .ok certificate) :
    ∃ signature text key, presented lib payload = .ok (certificate, signature) ∧
      verifiedText lib certificate = some text ∧ lib.readKey signature.publicKey = some key ∧
      lib.readSignature signature.signature = some (key, text) := by
  simp only [verifyRecoveryCertificate, bind_eq_ok_iff, orRaise_eq_ok_iff, require_eq_ok_iff,
    pure_eq_ok_iff] at h
  obtain ⟨⟨_, signature⟩, hpresented, text, htext, _, hverify, rfl⟩ := h
  rw [verifySignature] at hverify
  split at hverify
  · rename_i key signed hkey hsigned
    obtain rfl := of_decide_eq_true hverify
    exact ⟨signature, text, key, hpresented, htext, hkey, hsigned⟩
  · contradiction

/-! ## Runs -/

/-- The certificates are those of honest keys, which the adversary does not have, and what was
accepted is authentic. -/
structure Honest (w : Verifications K F) : Prop where
  minted : ∀ c ∈ w.approvals.minted, ∃ key ∈ w.approvals.keys, ∃ source, MintedFrom lib c key source
  disjoint : ∀ key ∈ w.approvals.keys, key ∉ w.adversary
  authentic : Authentic lib w

omit [DecidableEq K] in
theorem honest_start (requests : Uuid → Option (ApprovalRequestORM F)) :
    Honest lib (Verifications.start requests : Verifications K F) :=
  ⟨fun _ h ↦ absurd h (by simp [Verifications.start, Approvals.start, Approvals.minted]),
    fun _ h ↦ absurd h List.not_mem_nil, fun _ h ↦ absurd h List.not_mem_nil⟩

variable {lib} {w w' : Verifications K F}

theorem Honest.approval {event : ApprovalEvent K} {approvals : Approvals K F} (hw : Honest lib w)
    (hstep : w.approvals.step lib event = some approvals)
    (hnew : ¬ ∃ key ∈ event.drawn, key ∈ w.adversary) : Honest lib { w with approvals } := by
  obtain ⟨hkeys, hcommit⟩ := Approvals.step_cases hstep
  have hold : ∀ key ∈ w.approvals.keys, key ∈ approvals.keys := fun key hkey ↦
    hkeys ▸ List.mem_append_left _ hkey
  have hgrows : ∀ c ∈ w.approvals.minted, c ∈ approvals.minted := by
    intro c hc
    rw [Approvals.minted]
    obtain ⟨-, hcommits⟩ | ⟨-, -, -, -, t, -, -, -, -, hcommits⟩ := hcommit
    · exact hcommits ▸ hc
    · rw [hcommits, List.filterMap_append]
      exact List.mem_append_left _ hc
  refine ⟨fun c hc ↦ ?_, fun key hkey ↦ ?_, fun payload hpayload ↦ ?_⟩
  · have hkept : c ∈ w.approvals.minted →
        ∃ key ∈ approvals.keys, ∃ source, MintedFrom lib c key source := fun hc ↦ by
      obtain ⟨key, hkey, source, hsource⟩ := hw.minted c hc
      exact ⟨key, hold key hkey, source, hsource⟩
    rw [Approvals.minted] at hc
    obtain ⟨-, hcommits⟩ | ⟨_, now, draws, session, t, rfl, -, ht, -, hcommits⟩ := hcommit
    · rw [hcommits] at hc
      exact hkept hc
    · rw [hcommits, List.filterMap_append] at hc
      rcases List.mem_append.mp hc with hc | hc
      · exact hkept hc
      · obtain ⟨u, hu, hcertificate⟩ := List.mem_filterMap.mp hc
        obtain rfl := List.mem_singleton.mp hu
        obtain ⟨source, hsource⟩ := Session.exists_mintedFrom ht hcertificate
        refine ⟨draws.key, ?_, source, hsource⟩
        exact hkeys ▸ List.mem_append_right _ (List.mem_singleton_self _)
  · rw [hkeys] at hkey
    rcases List.mem_append.mp hkey with hkey | hkey
    · exact hw.disjoint key hkey
    · exact fun hadversary ↦ hnew ⟨key, hkey, hadversary⟩
  · obtain ⟨c, hc, hagrees⟩ := hw.authentic payload hpayload
    exact ⟨c, hgrows c hc, hagrees⟩

/-- What is accepted with the key of a minted certificate says what a minted certificate says. -/
theorem Honest.exists_agrees {payload certificate : Members F} (hw : Honest lib w)
    (htrusted : Trusted lib w (.verify payload)) (hderivable : w.Derivable lib payload)
    (h : verifyRecoveryCertificate lib payload = .ok certificate) :
    ∃ c ∈ w.approvals.minted, Agrees lib certificate c := by
  obtain ⟨signature, text, key, hpresented, htext, hkey, hsigned⟩ :=
    exists_of_verifyRecoveryCertificate lib h
  simp only [Trusted, Verifications.Derivable, hpresented] at htrusted hderivable
  obtain ⟨trusted, htrusted, hsame⟩ := htrusted
  obtain ⟨honest, hhonest, _, hminted⟩ := hw.minted trusted htrusted
  rw [hkey, hminted.publicKey, lib.readKey_publicKeyB64] at hsame
  obtain rfl := Option.some.inj hsame
  -- the adversary does not have the key, so the signature is that of a minted certificate
  rcases hderivable _ hsigned with hadversary | ⟨c, hc, hseen⟩
  · exact absurd hadversary (hw.disjoint key hhonest)
  · obtain ⟨_, -, source, hsource⟩ := hw.minted c hc
    obtain ⟨signedText, hsignedText, hsignature⟩ := hsource.signature
    rw [hsignature, lib.readSignature_signatureB64] at hseen
    obtain ⟨-, rfl⟩ := Prod.mk.inj (Option.some.inj hseen)
    exact ⟨c, hc, agrees_of_verifiedText lib hsource hsignedText htext⟩

/-- **One step** stays honest when the key of what is verified is that of a minted certificate. -/
theorem honest_of_step {event : VerificationEvent K F} (hw : Honest lib w)
    (htrusted : Trusted lib w event) (hstep : w.step lib event = some w') : Honest lib w' := by
  cases event with
  | approval event =>
    obtain ⟨approvals, happrovals, hstep⟩ := Option.bind_eq_some_iff.mp hstep
    split at hstep
    · contradiction
    · rename_i hnew
      obtain rfl := Option.some.inj hstep
      exact hw.approval happrovals hnew
  | generate key =>
    simp only [Verifications.step] at hstep
    split at hstep
    · contradiction
    · rename_i hkey
      obtain rfl := Option.some.inj hstep
      refine ⟨hw.minted, fun k hk hadversary ↦ ?_, hw.authentic⟩
      rcases List.mem_append.mp hadversary with hadversary | hadversary
      · exact hw.disjoint k hk hadversary
      · obtain rfl := List.mem_singleton.mp hadversary
        exact hkey hk
  | verify payload =>
    simp only [Verifications.step] at hstep
    split at hstep
    · rename_i hderivable
      split at hstep
      · obtain rfl := Option.some.inj hstep
        exact hw
      · rename_i certificate hverify
        obtain rfl := Option.some.inj hstep
        refine ⟨hw.minted, hw.disjoint, fun accepted haccepted ↦ ?_⟩
        rcases List.mem_append.mp haccepted with haccepted | haccepted
        · exact hw.authentic accepted haccepted
        · obtain rfl := List.mem_singleton.mp haccepted
          exact hw.exists_agrees htrusted hderivable hverify
    · contradiction

theorem honest_of_meets {requests : Uuid → Option (ApprovalRequestORM F)}
    {events : List (VerificationEvent K F)}
    (hmeets : Meets (Verifications.step lib) (Trusted lib) (Verifications.start requests) events)
    (hrun : run (Verifications.step lib) (Verifications.start requests) events = some w) :
    Honest lib w := by
  refine invariant (fun v e v' hv hok hstep ↦ ?_) (honest_start lib requests) hmeets hrun
  exact honest_of_step hv hok hstep

/-- **Only minted certificates verify** in every run, from any table of requests, in which the key of
each payload that is verified is that of a certificate minted before. -/
theorem authentic_of_meets {requests : Uuid → Option (ApprovalRequestORM F)}
    {events : List (VerificationEvent K F)}
    (hmeets : Meets (Verifications.step lib) (Trusted lib) (Verifications.start requests) events)
    (hrun : run (Verifications.step lib) (Verifications.start requests) events = some w) :
    Authentic lib w :=
  (honest_of_meets hmeets hrun).authentic

end System

/-! ## What anybody can sign -/

section Signed

variable (lib : CertificationLibrary K F)

/-- The certificate that says what texts say, with a public key and a signature. -/
def Source.certificate (source : Source) (publicKey signature : String) : Members F :=
  [(.str "run_id", .str source.runId), (.str "replay_episode_id", .str source.replayEpisodeId),
    (.str "intervention_id", .str source.interventionId),
    (.str "evidence_class", .str source.evidenceClass), (.str "certificate_hash", .str source.hash),
    (.str "cryptographic_signature", .dict [(.str "algorithm", .str "Ed25519"),
      (.str "public_key", .str publicKey), (.str "signature", .str signature),
      (.str "signer_id", .str "prod-key-v1")])]

def Source.payload (source : Source) (publicKey signature : String) : Members F :=
  [(.str "certificate", .dict (source.certificate publicKey signature))]

theorem presented_payload (source : Source) (publicKey signature : String) :
    presented lib (source.payload publicKey signature) = .ok
      (source.certificate publicKey signature, ⟨"Ed25519", publicKey, signature, "prod-key-v1"⟩) := by
  have hcertificate : dictGet (source.payload publicKey signature : Members F) "certificate"
      = some (.dict (source.certificate publicKey signature)) := rfl
  have hsignature : dictGet (source.certificate publicKey signature : Members F)
      "cryptographic_signature" = some (.dict [(.str "algorithm", .str "Ed25519"),
        (.str "public_key", .str publicKey), (.str "signature", .str signature),
        (.str "signer_id", .str "prod-key-v1")]) := rfl
  rw [presented, hcertificate, Source.certificate, requiredDict_cons, ok_bind, ← Source.certificate,
    hsignature, requiredDict_cons, ok_bind]
  rfl

variable [FloatText F]

theorem Source.exists_text (source : Source) : ∃ text, source.text F = some text := by
  have hwritten : ∃ d, toDoc true (signedPayload (.str source.runId : Val F)
      (.str source.replayEpisodeId) (.str source.interventionId) (.str source.evidenceClass)
      (.str source.hash)) = some d := by
    refine exists_toDoc_object_iff.mpr fun m hm ↦ ?_
    simp only [List.mem_cons, List.not_mem_nil, or_false] at hm
    rcases hm with rfl | rfl | rfl | rfl | rfl
    all_goals exact ⟨_, by rw [toDoc]⟩
  obtain ⟨d, hd⟩ := hwritten
  exact ⟨_, Option.map_eq_some_iff.mpr ⟨d, hd, rfl⟩⟩

variable [DecidableEq K]

/-- **Whoever signs it**: a payload is accepted with the key that made its signature. -/
theorem verifyRecoveryCertificate_payload {source : Source} {key : K} {text : Text}
    (h : source.text F = some text) :
    verifyRecoveryCertificate lib
        (source.payload (lib.publicKeyB64 key) (lib.signatureB64 (key, text)))
      = .ok (source.certificate (lib.publicKeyB64 key) (lib.signatureB64 (key, text))) := by
  have htext : ∀ publicKey signature,
      verifiedText lib (source.certificate publicKey signature : Members F) = some text :=
    fun _ _ ↦ h
  have hverify : verifySignature lib ⟨"Ed25519", lib.publicKeyB64 key, lib.signatureB64 (key, text),
      "prod-key-v1"⟩ text = true := by
    rw [verifySignature, lib.readKey_publicKeyB64, lib.readSignature_signatureB64]
    exact decide_eq_true rfl
  rw [verifyRecoveryCertificate, presented_payload, ok_bind]
  exact bind_eq_ok_iff.mpr ⟨text, orRaise_eq_ok_iff.mpr (htext _ _),
    bind_eq_ok_iff.mpr ⟨(), require_eq_ok_iff.mpr hverify, rfl⟩⟩

/-- The state after a payload is verified that was signed with a key, by the adversary or for a
minted certificate. -/
theorem step_verify_payload {w : Verifications K F} {source : Source} {key : K} {text : Text}
    (h : source.text F = some text)
    (hsigned : key ∈ w.adversary ∨ ∃ c ∈ w.approvals.minted,
      c.cryptographicSignature.signature = lib.signatureB64 (key, text)) :
    w.step lib (.verify (source.payload (lib.publicKeyB64 key) (lib.signatureB64 (key, text))))
      = some { w with accepted := w.accepted ++
          [source.certificate (lib.publicKeyB64 key) (lib.signatureB64 (key, text))] } := by
  have hderivable : w.Derivable lib
      (source.payload (lib.publicKeyB64 key) (lib.signatureB64 (key, text))) := by
    rw [Verifications.Derivable, presented_payload]
    intro signed hread
    obtain rfl := Option.some.inj ((lib.readSignature_signatureB64 _).symm.trans hread)
    refine hsigned.imp_right ?_
    rintro ⟨c, hc, hsame⟩
    exact ⟨c, hc, hsame ▸ lib.readSignature_signatureB64 _⟩
  rw [Verifications.step, if_pos hderivable, verifyRecoveryCertificate_payload lib h]

end Signed

/-! ## Instances -/

/-- The texts of request 9. -/
def sampleSource : Source where
  runId := uuidText 2
  replayEpisodeId := uuidText 3
  interventionId := uuidText 4
  evidenceClass := "PRODUCTION"
  hash := "hash"

/-- The request is approved, and what is verified is its certificate. -/
theorem authentic_approved :
    ∃ (payload : Members WholeFloat) (w : Verifications ℕ WholeFloat),
      run (Verifications.step numberedKeys) (.start oneRequest) [.approval (.read approval ⟨5, 1⟩),
        .approval (.finish 0 0 ⟨11, 12, 0⟩), .verify payload] = some w ∧
      w.accepted.length = 1 ∧ Authentic numberedKeys w := by
  have happroved : (run (Verifications.step (numberedKeys (F := WholeFloat))) (.start oneRequest)
      [.approval (.read approval ⟨5, 1⟩), .approval (.finish 0 0 ⟨11, 12, 0⟩)]).map
        (fun w ↦ (w.approvals.minted.length, w.approvals.keys, w.accepted.length))
      = some (1, [0], 0) := by
    decide +kernel
  obtain ⟨w, hrun, hcounts⟩ := Option.map_eq_some_iff.mp happroved
  obtain ⟨hminted, hkeys, haccepted⟩ : w.approvals.minted.length = 1 ∧ w.approvals.keys = [0] ∧
    w.accepted.length = 0 := by simpa using hcounts
  obtain ⟨c, hc⟩ := List.exists_mem_of_length_pos (hminted ▸ Nat.one_pos)
  have hmeets : Meets (Verifications.step (numberedKeys (F := WholeFloat))) (Trusted numberedKeys)
      (.start oneRequest) [.approval (.read approval ⟨5, 1⟩), .approval (.finish 0 0 ⟨11, 12, 0⟩)] :=
    meets_cons.mpr ⟨trivial, fun _ _ ↦ meets_cons.mpr ⟨trivial, fun _ _ ↦ meets_nil⟩⟩
  obtain ⟨key, -, source, hsource⟩ := (honest_of_meets hmeets hrun).minted c hc
  obtain ⟨text, htext, hsignature⟩ := hsource.signature
  have hverify := step_verify_payload numberedKeys htext (Or.inr ⟨c, hc, hsignature⟩)
  refine ⟨_, _, run_concat_of_run hrun hverify, ?_, ?_⟩
  · rw [List.length_append, haccepted]
    rfl
  · refine authentic_of_meets (meets_concat.mpr ⟨hmeets, fun v hv ↦ ?_⟩)
      (run_concat_of_run hrun hverify)
    obtain rfl := Option.some.inj (hrun.symm.trans hv)
    rw [Trusted, presented_payload]
    exact ⟨c, hc, congrArg _ hsource.publicKey.symm⟩

/-- An adversary signs them with its own key, and nothing was approved. -/
theorem not_authentic_selfSigned :
    ¬ ∀ events w, run (Verifications.step numberedKeys) (.start oneRequest) events = some w →
      Authentic numberedKeys w := by
  intro h
  obtain ⟨text, htext⟩ := sampleSource.exists_text (F := WholeFloat)
  have hgenerate : Verifications.step numberedKeys (.start oneRequest) (.generate 0)
      = some (⟨.start oneRequest, [0], []⟩ : Verifications ℕ WholeFloat) := rfl
  have hverify := step_verify_payload numberedKeys (w := ⟨.start oneRequest, [0], []⟩) htext
    (Or.inl (List.mem_singleton_self 0))
  have hrun := (run_cons_of_step hgenerate).trans ((run_cons_of_step hverify).trans run_nil)
  obtain ⟨c, hc, -⟩ := h _ _ hrun _ (List.mem_singleton_self _)
  exact absurd hc List.not_mem_nil

end DriftGuardX.Certification
