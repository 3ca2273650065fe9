import DriftGuardX.Foundation.Bytes
import DriftGuardX.Json.Text

/-!
# Capabilities

A capability is signed over its canonical bytes and bound to a requester, a tenant, an action and a
resource. `verify` compares it with a context and with what is asked for.
-/

namespace DriftGuardX.Memory

open Json Bytes

inductive MemoryErrorKind where
  | authorizationError
  | runtimeError
  /-- A `ValueError`. -/
  | binasciiError
  deriving DecidableEq, Repr

structure MemoryError where
  kind : MemoryErrorKind
  message : String
  deriving DecidableEq, Repr

/-- A capability. Times are microseconds. -/
structure SignedCapability where
  capabilityId : String
  requesterId : String
  tenantId : String
  action : String
  resource : String
  issuedAt : ℤ
  expiresAt : ℤ
  issuer : String
  nonce : String
  policyVersion : String
  signature : String
  deriving DecidableEq, Repr

structure AccessContext where
  requesterId : String
  tenantId : String
  capabilities : List SignedCapability
  expiresAt : ℤ
  deriving DecidableEq, Repr

/-- Functions of libraries: a keyed digest, base64 with what its decoder raises, a digest in
hexadecimal, and the text of a time. -/
structure MemoryLibrary where
  hmacSha256 : List UInt8 → List UInt8 → List UInt8
  b64encode : List UInt8 → String
  b64decode : String → Except MemoryError (List UInt8)
  sha256 : List UInt8 → String
  isoformat : ℤ → String
  length_hmacSha256 : ∀ key bytes, (hmacSha256 key bytes).length = 32
  b64decode_b64encode : ∀ bytes, b64decode (b64encode bytes) = .ok bytes
  eq_nil_of_b64encode : ∀ bytes, b64encode bytes = "" → bytes = []

/-- The key, and the ids that are revoked. -/
structure CapabilityVerifier where
  secretKey : List UInt8
  revoked : List String
  deriving DecidableEq, Repr

variable (lib : MemoryLibrary)

/-- What the signature covers. The encoder refuses no string. -/
def canonicalBytes (cap : SignedCapability) : List UInt8 :=
  utf8Chars ((dumps (F := Empty) ⟨true, true⟩ true (.object
    [("capability_id", .str cap.capabilityId),
      ("requester_id", .str cap.requesterId),
      ("tenant_id", .str cap.tenantId),
      ("action", .str cap.action),
      ("resource", .str cap.resource),
      ("issued_at", .str (lib.isoformat cap.issuedAt)),
      ("expires_at", .str (lib.isoformat cap.expiresAt)),
      ("issuer", .str cap.issuer),
      ("nonce", .str cap.nonce),
      ("policy_version", .str cap.policyVersion)])).getD [])

namespace CapabilityVerifier

/-- The signature of a capability under a key. -/
def mac (secretKey : List UInt8) (cap : SignedCapability) : List UInt8 :=
  lib.hmacSha256 secretKey (canonicalBytes lib cap)

def sign (secretKey : List UInt8) (cap : SignedCapability) : SignedCapability :=
  { cap with signature := lib.b64encode (mac lib secretKey cap) }

/-- `verify`, at a time. -/
def verify (verifier : CapabilityVerifier) (now : ℤ) (cap : SignedCapability)
    (context : AccessContext) (requiredAction requiredResource : String) :
    Except MemoryError Bool :=
  if cap.requesterId ≠ context.requesterId ∨ cap.tenantId ≠ context.tenantId then .ok false
  else if cap.action ≠ requiredAction then .ok false
  else if cap.resource ≠ "*" ∧ cap.resource ≠ requiredResource then .ok false
  else if cap.signature = "" then .ok false
  else if cap.expiresAt < now then .ok false
  else if cap.capabilityId ∈ verifier.revoked then .ok false
  else do
    let actualMac ← lib.b64decode cap.signature
    return mac lib verifier.secretKey cap = actualMac

variable {lib} {verifier : CapabilityVerifier} {now : ℤ} {cap : SignedCapability}
  {context : AccessContext}

theorem b64encode_mac_ne (secretKey : List UInt8) : lib.b64encode (mac lib secretKey cap) ≠ "" := by
  intro h
  have hlength := lib.length_hmacSha256 secretKey (canonicalBytes lib cap)
  rw [← mac, lib.eq_nil_of_b64encode _ h] at hlength
  exact absurd hlength (by simp)

/-- A capability that is signed with the verifier's key, for the context and what is asked for, is
accepted until it expires or is revoked. -/
theorem verify_of_signed
    (hsigned : cap.signature = lib.b64encode (mac lib verifier.secretKey cap))
    (hrequester : cap.requesterId = context.requesterId) (htenant : cap.tenantId = context.tenantId)
    (htime : now ≤ cap.expiresAt) (hrevoked : cap.capabilityId ∉ verifier.revoked) :
    verify lib verifier now cap context cap.action cap.resource = .ok true := by
  have hbound : ¬ (cap.requesterId ≠ context.requesterId ∨ cap.tenantId ≠ context.tenantId) :=
    not_or.mpr ⟨not_not.mpr hrequester, not_not.mpr htenant⟩
  have hresource : ¬ (cap.resource ≠ "*" ∧ cap.resource ≠ cap.resource) := fun h ↦ h.2 rfl
  have hsignature : cap.signature ≠ "" := hsigned ▸ b64encode_mac_ne verifier.secretKey
  rw [verify, if_neg hbound, if_neg (not_not.mpr rfl), if_neg hresource, if_neg hsignature,
    if_neg (not_lt.mpr htime), if_neg hrevoked, hsigned, lib.b64decode_b64encode]
  exact congrArg Except.ok (decide_eq_true rfl)

end CapabilityVerifier

/-- A library that writes bytes as characters, for instances. -/
def latin1Memory : MemoryLibrary where
  hmacSha256 key bytes := bigEndian 32 ((key ++ bytes).foldl (fun h b ↦ h * 257 + b.toNat + 1) 0)
  b64encode := latin1
  b64decode text := .ok (text.toList.map fun c ↦ UInt8.ofNat c.toNat)
  sha256 := latin1
  isoformat time := String.ofList (intText time)
  length_hmacSha256 _ _ := length_bigEndian _ _
  b64decode_b64encode bytes := congrArg Except.ok (map_toList_latin1 bytes)
  eq_nil_of_b64encode := eq_nil_of_latin1

end DriftGuardX.Memory
