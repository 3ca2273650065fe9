import DriftGuardX.Foundation.Datetime
import DriftGuardX.Foundation.Framing
import DriftGuardX.Foundation.History
import DriftGuardX.Policy.Signatures

/-!
# Timestamps that are accepted once

A signed timestamp is accepted when its signature is right and its nonce has not been seen. The
signature covers the fields joined with `|`, which the source and the nonce may contain, so one
signature belongs to every way of cutting the joined text into fields, and these have different
nonces.

No signature of a run is accepted twice when the envelopes that are cut from one text are cut at the
same place (`acceptedOnce_iff`).
-/

namespace DriftGuardX.Replay

open Bytes Policy History Framing

structure TrustedTimestampEnvelope where
  timestamp : Datetime
  source : String
  issuedAt : Datetime
  nonce : String
  signature : Option String
  verified : Bool
  deriving DecidableEq

/-- A row of the table of nonces, whose key is the nonce. -/
structure SeenNonce where
  nonce : String
  seenAt : List Char
  deriving DecidableEq, Repr

structure HMACTimeVerifier where
  secretKey : String
  seenNonces : List SeenNonce
  deriving DecidableEq, Repr

/-- The result of `verify`, which is none when the comparison of signatures raises, with what it
leaves of the envelope and the table. -/
structure Verification where
  result : Option Bool
  envelope : TrustedTimestampEnvelope
  verifier : HMACTimeVerifier

namespace TrustedTimestampEnvelope

variable (signing : Signing)

/-- The fields joined with `|`. -/
def data (envelope : TrustedTimestampEnvelope) : List Char :=
  envelope.timestamp.isoformat ++ '|' :: (envelope.source.toList ++ '|' ::
    (envelope.issuedAt.isoformat ++ '|' :: envelope.nonce.toList))

/-- `_canonical_bytes`. -/
def canonicalBytes (envelope : TrustedTimestampEnvelope) : List UInt8 :=
  utf8Chars envelope.data

/-- The envelope carries the signature of its fields. -/
def Signed (secretKey : String) (envelope : TrustedTimestampEnvelope) : Prop :=
  envelope.signature = some (signing.sign secretKey envelope.canonicalBytes)

/-- The fields that the signature covers are the same. -/
structure SameFields (envelope other : TrustedTimestampEnvelope) : Prop where
  timestamp : envelope.timestamp = other.timestamp
  source : envelope.source = other.source
  issuedAt : envelope.issuedAt = other.issuedAt
  nonce : envelope.nonce = other.nonce

end TrustedTimestampEnvelope

namespace HMACTimeVerifier

variable (signing : Signing)

/-- `verify`, at a time. A nonce is inserted unless the table has it. -/
def verify (verifier : HMACTimeVerifier) (now : Datetime) (envelope : TrustedTimestampEnvelope) :
    Verification :=
  match signing.verify verifier.secretKey envelope.signature envelope.canonicalBytes with
  | none => ⟨none, envelope, verifier⟩
  | some false => ⟨some false, envelope, verifier⟩
  | some true =>
    if envelope.nonce ∈ verifier.seenNonces.map SeenNonce.nonce then
      ⟨some false, envelope, verifier⟩
    else
      ⟨some true, { envelope with verified := true },
        { verifier with seenNonces := verifier.seenNonces ++ [⟨envelope.nonce, now.isoformat⟩] }⟩

end HMACTimeVerifier

/-- A call of `verify`, and the clock when it is made. -/
structure TimeCall where
  now : Datetime
  envelope : TrustedTimestampEnvelope
  deriving DecidableEq

variable (signing : Signing) (verifier : HMACTimeVerifier)

/-- The table after calls. -/
def afterCalls (calls : List TimeCall) : HMACTimeVerifier :=
  calls.foldl (fun verifier call ↦ (verifier.verify signing call.now call.envelope).verifier) verifier

/-- The call is accepted when it comes after others. -/
def Accepted (before : List TimeCall) (call : TimeCall) : Prop :=
  ((afterCalls signing verifier before).verify signing call.now call.envelope).result = some true

/-- No signature is accepted twice, and accepted envelopes with one signature agree. -/
structure AcceptedOnce (calls : List TimeCall) : Prop where
  once : Always (fun before call ↦ Accepted signing verifier before call →
    Always (fun prior earlier ↦ Accepted signing verifier prior earlier →
      earlier.envelope.signature ≠ call.envelope.signature) before) calls
  sameFields : Always (fun before call ↦ Accepted signing verifier before call →
    Always (fun prior earlier ↦ Accepted signing verifier prior earlier →
      earlier.envelope.signature = call.envelope.signature →
        earlier.envelope.SameFields call.envelope) calls) calls

/-- The envelope is signed, and its nonce is neither in the table nor that of a signed envelope
before it. -/
structure Fresh (before : List TimeCall) (call : TimeCall) : Prop where
  signed : call.envelope.Signed signing verifier.secretKey
  unseen : call.envelope.nonce ∉ verifier.seenNonces.map SeenNonce.nonce
  unused : ∀ earlier ∈ before, earlier.envelope.Signed signing verifier.secretKey →
    earlier.envelope.nonce ≠ call.envelope.nonce

/-- Fresh envelopes with one joined text have as many separators in their sources. -/
def CutAlike (calls : List TimeCall) : Prop :=
  Always (fun before call ↦ Fresh signing verifier before call →
    Always (fun prior earlier ↦ Fresh signing verifier prior earlier →
      earlier.envelope.data = call.envelope.data →
        earlier.envelope.source.toList.count '|' = call.envelope.source.toList.count '|') before) calls

section Text

variable {envelope other : TrustedTimestampEnvelope}

theorem separator_notMem_isoformat (d : Datetime) : '|' ∉ d.isoformat := by
  refine Datetime.notMem_isoformat ?_ d
  rw [Datetime.IsTimeChar]
  decide

theorem sameFields_of_data (hdata : envelope.data = other.data)
    (hcount : envelope.source.toList.count '|' = other.source.toList.count '|') :
    envelope.SameFields other := by
  obtain ⟨htimestamp, hrest⟩ :=
    first_inj (separator_notMem_isoformat _) (separator_notMem_isoformat _) hdata
  obtain ⟨hsource, hrest⟩ := count_inj hcount hrest
  obtain ⟨hissued, hnonce⟩ :=
    first_inj (separator_notMem_isoformat _) (separator_notMem_isoformat _) hrest
  exact ⟨Datetime.isoformat_injective htimestamp, String.toList_injective hsource,
    Datetime.isoformat_injective hissued, String.toList_injective hnonce⟩

end Text

/-! ## One call -/

section Verify

variable {signing : Signing} {verifier : HMACTimeVerifier} {now : Datetime}
  {envelope : TrustedTimestampEnvelope} {nonce : String}

theorem verify_of_not_signed (h : ¬ envelope.Signed signing verifier.secretKey) :
    (verifier.verify signing now envelope).result ≠ some true ∧
      (verifier.verify signing now envelope).verifier = verifier := by
  have hne : signing.verify verifier.secretKey envelope.signature envelope.canonicalBytes
      ≠ some true := fun hverify ↦ h (signing.verify_eq_true_iff.mp hverify)
  rw [HMACTimeVerifier.verify]
  split
  · exact ⟨by simp, rfl⟩
  · exact ⟨by simp, rfl⟩
  · next hverify => exact absurd hverify hne

theorem verify_of_signed (h : envelope.Signed signing verifier.secretKey) :
    verifier.verify signing now envelope
      = if envelope.nonce ∈ verifier.seenNonces.map SeenNonce.nonce then
          ⟨some false, envelope, verifier⟩
        else ⟨some true, { envelope with verified := true },
          { verifier with
            seenNonces := verifier.seenNonces ++ [⟨envelope.nonce, now.isoformat⟩] }⟩ := by
  rw [HMACTimeVerifier.verify, signing.verify_eq_true_iff.mpr h]

theorem result_verify_iff :
    (verifier.verify signing now envelope).result = some true ↔
      envelope.Signed signing verifier.secretKey ∧
        envelope.nonce ∉ verifier.seenNonces.map SeenNonce.nonce := by
  by_cases hsigned : envelope.Signed signing verifier.secretKey
  · rw [verify_of_signed hsigned]
    split_ifs with hseen
    · exact iff_of_false (by simp) fun h ↦ h.2 hseen
    · exact iff_of_true rfl ⟨hsigned, hseen⟩
  · exact iff_of_false (verify_of_not_signed hsigned).1 fun h ↦ hsigned h.1

theorem secretKey_verify :
    (verifier.verify signing now envelope).verifier.secretKey = verifier.secretKey := by
  by_cases hsigned : envelope.Signed signing verifier.secretKey
  · rw [verify_of_signed hsigned]
    split_ifs <;> rfl
  · rw [(verify_of_not_signed hsigned).2]

theorem mem_seenNonces_verify :
    nonce ∈ (verifier.verify signing now envelope).verifier.seenNonces.map SeenNonce.nonce ↔
      nonce ∈ verifier.seenNonces.map SeenNonce.nonce ∨
        envelope.Signed signing verifier.secretKey ∧ envelope.nonce = nonce := by
  by_cases hsigned : envelope.Signed signing verifier.secretKey
  · rw [verify_of_signed hsigned]
    split_ifs with hseen
    · exact ⟨.inl, fun h ↦ h.elim id fun hnonce ↦ hnonce.2 ▸ hseen⟩
    · rw [List.map_append, List.mem_append, List.map_singleton, List.mem_singleton]
      exact or_congr_right ⟨fun h ↦ ⟨hsigned, h.symm⟩, fun h ↦ h.2.symm⟩
  · rw [(verify_of_not_signed hsigned).2]
    exact ⟨.inl, fun h ↦ h.resolve_right fun hnonce ↦ hsigned hnonce.1⟩

end Verify

/-! ## Runs -/

section Runs

variable {signing : Signing} {verifier : HMACTimeVerifier} {calls before : List TimeCall}
  {call : TimeCall}

theorem afterCalls_concat : afterCalls signing verifier (calls ++ [call])
    = ((afterCalls signing verifier calls).verify signing call.now call.envelope).verifier :=
  List.foldl_concat _ _ _ _

theorem secretKey_afterCalls :
    (afterCalls signing verifier calls).secretKey = verifier.secretKey := by
  induction calls using List.reverseRecOn with
  | nil => rfl
  | append_singleton calls call ih => rw [afterCalls_concat, secretKey_verify, ih]

/-- The table has the nonces that it had and those of the signed envelopes. -/
theorem mem_seenNonces_afterCalls {nonce : String} :
    nonce ∈ (afterCalls signing verifier calls).seenNonces.map SeenNonce.nonce ↔
      nonce ∈ verifier.seenNonces.map SeenNonce.nonce ∨
        ∃ earlier ∈ calls, earlier.envelope.Signed signing verifier.secretKey ∧
          earlier.envelope.nonce = nonce := by
  induction calls using List.reverseRecOn with
  | nil => exact ⟨.inl, fun h ↦ h.resolve_right fun ⟨_, hmem, _⟩ ↦ absurd hmem List.not_mem_nil⟩
  | append_singleton calls call ih =>
    rw [afterCalls_concat, mem_seenNonces_verify, ih, secretKey_afterCalls, or_assoc]
    refine or_congr_right ⟨?_, ?_⟩
    · rintro (⟨earlier, hmem, h⟩ | h)
      · exact ⟨earlier, List.mem_append_left _ hmem, h⟩
      · exact ⟨call, List.mem_concat_self, h⟩
    · rintro ⟨earlier, hmem, h⟩
      obtain hmem | hmem := List.mem_append.mp hmem
      · exact .inl ⟨earlier, hmem, h⟩
      · exact .inr (List.mem_singleton.mp hmem ▸ h)

theorem accepted_iff : Accepted signing verifier before call ↔ Fresh signing verifier before call := by
  rw [Accepted, result_verify_iff, secretKey_afterCalls, mem_seenNonces_afterCalls, not_or]
  constructor
  · rintro ⟨hsigned, hunseen, hunused⟩
    exact ⟨hsigned, hunseen, fun earlier hmem hearlier hnonce ↦
      hunused ⟨earlier, hmem, hearlier, hnonce⟩⟩
  · intro h
    exact ⟨h.signed, h.unseen, fun ⟨earlier, hmem, hearlier, hnonce⟩ ↦
      h.unused earlier hmem hearlier hnonce⟩

theorem signature_eq_iff {envelope other : TrustedTimestampEnvelope} {secretKey : String}
    (h : envelope.Signed signing secretKey) (h' : other.Signed signing secretKey) :
    envelope.signature = other.signature ↔ envelope.data = other.data := by
  rw [h, h', Option.some.injEq]
  constructor
  · intro hsign
    exact utf8Chars_injective (signing.sign_injective secretKey hsign)
  · intro hdata
    rw [TrustedTimestampEnvelope.canonicalBytes, hdata, TrustedTimestampEnvelope.canonicalBytes]

/-- In every run, signatures are accepted once if and only if fresh envelopes with one joined text
are cut alike. -/
theorem acceptedOnce_iff : AcceptedOnce signing verifier calls ↔ CutAlike signing verifier calls := by
  constructor
  · intro h before call after hcalls hfresh prior earlier later hbefore hearlier hdata
    have hsignature := (signature_eq_iff hearlier.signed hfresh.signed).mpr hdata
    exact absurd hsignature (h.once before call after hcalls (accepted_iff.mpr hfresh) prior earlier
      later hbefore (accepted_iff.mpr hearlier))
  · intro h
    have honce : Always (fun before call ↦ Accepted signing verifier before call →
        Always (fun prior earlier ↦ Accepted signing verifier prior earlier →
          earlier.envelope.signature ≠ call.envelope.signature) before) calls := by
      intro before call after hcalls haccepted prior earlier later hbefore hearlier hsignature
      have hfresh := accepted_iff.mp haccepted
      have hfresh' := accepted_iff.mp hearlier
      have hdata := (signature_eq_iff hfresh'.signed hfresh.signed).mp hsignature
      have hcount := h before call after hcalls hfresh prior earlier later hbefore hfresh' hdata
      have hmem : earlier ∈ before := hbefore ▸ List.mem_append_right _ List.mem_cons_self
      exact hfresh.unused earlier hmem hfresh'.signed (sameFields_of_data hdata hcount).nonce
    refine ⟨honce, ?_⟩
    intro before call after hcalls haccepted prior earlier later hcalls' hearlier hsignature
    obtain ⟨-, rfl⟩ | ⟨between, hprior⟩ | ⟨between, hbefore⟩ := positions (hcalls.symm.trans hcalls')
    · exact ⟨rfl, rfl, rfl, rfl⟩
    · exact absurd hsignature.symm (honce prior earlier later hcalls' hearlier before call between
        hprior haccepted)
    · exact absurd hsignature (honce before call after hcalls haccepted prior earlier between hbefore
        hearlier)

/-- Midnight of a day, in UTC. -/
def firstOfJanuary : Datetime :=
  ⟨2026, 1, 1, 0, 0, 0, 0, some 0, by decide, by decide, by decide, by decide, by decide, by decide,
    by decide, Datetime.utcoffset_utc⟩

def unsignedEnvelope (source nonce : String) : TrustedTimestampEnvelope :=
  ⟨firstOfJanuary, source, firstOfJanuary, nonce, none, false⟩

/-- An envelope as its issuer signs it. -/
def issued : TrustedTimestampEnvelope :=
  { unsignedEnvelope "s" "2026-01-01T00:00:00+00:00|n" with
    signature := some (decimalSigning.sign "k"
      (unsignedEnvelope "s" "2026-01-01T00:00:00+00:00|n").canonicalBytes) }

/-- The same text and signature, with the source cut after the next field. -/
def recut : TrustedTimestampEnvelope :=
  { unsignedEnvelope "s|2026-01-01T00:00:00+00:00" "n" with signature := issued.signature }

theorem data_recut : recut.data = issued.data := by decide

/-- Both are accepted. -/
theorem not_acceptedOnce_recut : ¬ AcceptedOnce decimalSigning ⟨"k", []⟩
    [⟨firstOfJanuary, issued⟩, ⟨firstOfJanuary, recut⟩] := by
  intro h
  have hissued : Fresh decimalSigning ⟨"k", []⟩ [] ⟨firstOfJanuary, issued⟩ :=
    ⟨rfl, List.not_mem_nil, fun _ hmem ↦ absurd hmem List.not_mem_nil⟩
  have hrecut : Fresh decimalSigning ⟨"k", []⟩ [⟨firstOfJanuary, issued⟩]
      ⟨firstOfJanuary, recut⟩ := by
    refine ⟨?_, List.not_mem_nil, fun earlier hmem _ hnonce ↦ ?_⟩
    · rw [TrustedTimestampEnvelope.Signed, TrustedTimestampEnvelope.canonicalBytes, data_recut]
      rfl
    · rw [List.mem_singleton.mp hmem] at hnonce
      exact absurd hnonce (by decide)
  exact h.once [⟨firstOfJanuary, issued⟩] ⟨firstOfJanuary, recut⟩ [] rfl (accepted_iff.mpr hrecut)
    [] ⟨firstOfJanuary, issued⟩ [] rfl (accepted_iff.mpr hissued) rfl

end Runs

end DriftGuardX.Replay
