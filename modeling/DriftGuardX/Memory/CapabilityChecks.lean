import DriftGuardX.Foundation.History
import DriftGuardX.Memory.Store

/-!
# Checking a list of capabilities

`_has_capability` looks for a capability that `verify` accepts. The capabilities come from whoever
makes the request. `verify` decodes a signature that may be any text, which raises on some, and
compares an expiry with the clock, which raises when the expiry has no time zone. An exception ends the
search, so a capability that is refused in this way hides those after it.

The search is exact unless a capability that raises comes before the first one that is accepted
(`checksExactly_iff`).
-/

namespace DriftGuardX.Memory

open Program History

/-- The decoder of signatures decodes the empty text. -/
structure TokenLibrary extends MemoryLibrary where
  b64decode_empty : b64decode "" = .ok []

/-- A capability as it comes with a request: the expiry may have no time zone. -/
structure Token where
  cap : SignedCapability
  zoned : Bool
  deriving DecidableEq, Repr

/-- What a check raises: what `verify` raises, or the comparison of times. -/
inductive CheckError where
  | memory (e : MemoryError)
  | typeError
  deriving DecidableEq, Repr

variable (lib : MemoryLibrary) (readings : Readings)

/-- The capability is for the action and the resource. -/
def SignedCapability.Matches (cap : SignedCapability) (action resource : String) : Prop :=
  cap.action = action ∧ (cap.resource = "*" ∨ cap.resource = resource)

instance (cap : SignedCapability) (action resource : String) :
    Decidable (cap.Matches action resource) := inferInstanceAs (Decidable (_ ∧ _))

/-- The capability passes what is checked before its expiry. -/
def SignedCapability.Presented (cap : SignedCapability) (context : AccessContext)
    (action resource : String) : Prop :=
  cap.requesterId = context.requesterId ∧ cap.tenantId = context.tenantId ∧
    cap.Matches action resource ∧ cap.signature ≠ ""

instance (cap : SignedCapability) (context : AccessContext) (action resource : String) :
    Decidable (cap.Presented context action resource) := inferInstanceAs (Decidable (_ ∧ _))

/-- `verify` of a capability whose expiry may have no time zone. -/
def verifyToken (verifier : CapabilityVerifier) (now : ℤ) (token : Token) (context : AccessContext)
    (action resource : String) : Except CheckError Bool :=
  if token.zoned then (verifier.verify lib now token.cap context action resource).mapError .memory
  else if token.cap.Presented context action resource then .error .typeError
  else .ok false

/-- `_has_capability`, with the capabilities of the context. -/
def hasCapability (context : AccessContext) (action resource : String) :
    List Token → Program ProvenanceMemoryStore CheckError Bool
  | [] => pure false
  | token :: tokens =>
    if token.cap.Matches action resource then do
      let time ← .mapError .memory (ProvenanceMemoryStore.now readings)
      let store ← Program.get
      let accepted ← .ofExcept (verifyToken lib store.verifier time token context action resource)
      if accepted then pure true else hasCapability context action resource tokens
    else hasCapability context action resource tokens

/-! ## The documented conditions -/

/-- The six conditions under which `verify` is documented to return true. -/
structure Satisfies (verifier : CapabilityVerifier) (now : ℤ) (token : Token)
    (context : AccessContext) (action resource : String) : Prop where
  requester : token.cap.requesterId = context.requesterId ∧ token.cap.tenantId = context.tenantId
  action : token.cap.action = action
  resource : token.cap.resource = "*" ∨ token.cap.resource = resource
  signature : lib.b64decode token.cap.signature
    = .ok (CapabilityVerifier.mac lib verifier.secretKey token.cap)
  unexpired : token.zoned = true ∧ now ≤ token.cap.expiresAt
  unrevoked : token.cap.capabilityId ∉ verifier.revoked

/-- The capability is presented, and its expiry cannot be compared with the clock, or it is neither
expired nor revoked and its signature cannot be decoded. -/
structure Raises (verifier : CapabilityVerifier) (now : ℤ) (token : Token)
    (context : AccessContext) (action resource : String) : Prop where
  presented : token.cap.Presented context action resource
  raises : token.zoned = false ∨ now ≤ token.cap.expiresAt ∧
    token.cap.capabilityId ∉ verifier.revoked ∧ ∃ e, lib.b64decode token.cap.signature = .error e

section Verify

variable {lib : TokenLibrary} {verifier : CapabilityVerifier} {now : ℤ} {token : Token}
  {context : AccessContext} {action resource : String}

/-- A capability that the store has signed is accepted until it expires or is revoked. -/
theorem satisfies_sign {cap : SignedCapability} (hrequester : cap.requesterId = context.requesterId)
    (htenant : cap.tenantId = context.tenantId) (htime : now ≤ cap.expiresAt)
    (hrevoked : cap.capabilityId ∉ verifier.revoked) :
    Satisfies lib.toMemoryLibrary verifier now
      ⟨CapabilityVerifier.sign lib.toMemoryLibrary verifier.secretKey cap, true⟩ context cap.action
      cap.resource :=
  ⟨⟨hrequester, htenant⟩, rfl, .inr rfl, lib.b64decode_b64encode _, ⟨rfl, htime⟩, hrevoked⟩

theorem Satisfies.presented
    (h : Satisfies lib.toMemoryLibrary verifier now token context action resource) :
    token.cap.Presented context action resource := by
  refine ⟨h.requester.1, h.requester.2, ⟨h.action, h.resource⟩, fun hempty ↦ ?_⟩
  have hsignature := h.signature
  rw [hempty, lib.b64decode_empty] at hsignature
  have hlength := lib.length_hmacSha256 verifier.secretKey (canonicalBytes lib.toMemoryLibrary token.cap)
  rw [← CapabilityVerifier.mac, ← Except.ok.inj hsignature] at hlength
  exact absurd hlength (by decide)

/-- `verify` on a capability that is presented. -/
theorem verify_of_presented {cap : SignedCapability} (h : cap.Presented context action resource) :
    verifier.verify lib.toMemoryLibrary now cap context action resource
      = if cap.expiresAt < now ∨ cap.capabilityId ∈ verifier.revoked then .ok false
        else (lib.b64decode cap.signature).map fun actualMac ↦
          decide (CapabilityVerifier.mac lib.toMemoryLibrary verifier.secretKey cap = actualMac) := by
  obtain ⟨hrequester, htenant, ⟨haction, hresource⟩, hsignature⟩ := h
  have hbound : ¬ (cap.requesterId ≠ context.requesterId ∨ cap.tenantId ≠ context.tenantId) :=
    not_or.mpr ⟨not_not.mpr hrequester, not_not.mpr htenant⟩
  have hscope : ¬ (cap.resource ≠ "*" ∧ cap.resource ≠ resource) :=
    fun hne ↦ hresource.elim hne.1 hne.2
  rw [CapabilityVerifier.verify, if_neg hbound, if_neg (not_not.mpr haction), if_neg hscope,
    if_neg hsignature, ite_or]
  rfl

theorem verify_of_not_presented {cap : SignedCapability}
    (h : ¬ cap.Presented context action resource) :
    verifier.verify lib.toMemoryLibrary now cap context action resource = .ok false := by
  rw [CapabilityVerifier.verify]
  split_ifs with hbound haction hresource hsignature
  all_goals try rfl
  refine absurd ⟨?_, ?_, ⟨not_not.mp haction, ?_⟩, hsignature⟩ h
  · exact not_not.mp (not_or.mp hbound).1
  · exact not_not.mp (not_or.mp hbound).2
  · exact (Classical.not_and_iff_not_or_not.mp hresource).imp not_not.mp not_not.mp

theorem verifyToken_of_satisfies
    (h : Satisfies lib.toMemoryLibrary verifier now token context action resource) :
    verifyToken lib.toMemoryLibrary verifier now token context action resource = .ok true := by
  have hlive : ¬ (token.cap.expiresAt < now ∨ token.cap.capabilityId ∈ verifier.revoked) :=
    not_or.mpr ⟨not_lt.mpr h.unexpired.2, h.unrevoked⟩
  rw [verifyToken, if_pos h.unexpired.1, verify_of_presented h.presented, if_neg hlive, h.signature]
  exact congrArg Except.ok (decide_eq_true rfl)

theorem verifyToken_of_raises
    (h : Raises lib.toMemoryLibrary verifier now token context action resource) :
    ∃ e, verifyToken lib.toMemoryLibrary verifier now token context action resource = .error e := by
  rw [verifyToken]
  by_cases hzoned : token.zoned = true
  · obtain hnaive | ⟨hunexpired, hunrevoked, e, hdecode⟩ := h.raises
    · exact absurd hzoned (by simp [hnaive])
    · have hlive : ¬ (token.cap.expiresAt < now ∨ token.cap.capabilityId ∈ verifier.revoked) :=
        not_or.mpr ⟨not_lt.mpr hunexpired, hunrevoked⟩
      rw [if_pos hzoned, verify_of_presented h.presented, if_neg hlive, hdecode]
      exact ⟨.memory e, rfl⟩
  · rw [if_neg hzoned, if_pos h.presented]
    exact ⟨.typeError, rfl⟩

theorem verifyToken_of_neither
    (hsatisfies : ¬ Satisfies lib.toMemoryLibrary verifier now token context action resource)
    (hraises : ¬ Raises lib.toMemoryLibrary verifier now token context action resource) :
    verifyToken lib.toMemoryLibrary verifier now token context action resource = .ok false := by
  rw [verifyToken]
  by_cases hpresented : token.cap.Presented context action resource
  · have hzoned : token.zoned = true := by
      by_contra hnaive
      exact hraises ⟨hpresented, .inl (Bool.not_eq_true _ ▸ hnaive)⟩
    rw [if_pos hzoned, verify_of_presented hpresented]
    split_ifs with hdead
    · rfl
    · obtain ⟨hexpired, hrevoked⟩ := not_or.mp hdead
      cases hdecode : lib.b64decode token.cap.signature with
      | error e =>
        exact absurd ⟨hpresented, .inr ⟨not_lt.mp hexpired, hrevoked, e, hdecode⟩⟩ hraises
      | ok actualMac =>
        refine congrArg Except.ok (decide_eq_false fun hmac ↦ hsatisfies ?_)
        obtain ⟨hrequester, htenant, ⟨haction, hresource⟩, -⟩ := hpresented
        exact ⟨⟨hrequester, htenant⟩, haction, hresource, hmac ▸ hdecode,
          ⟨hzoned, not_lt.mp hexpired⟩, hrevoked⟩
  · rw [if_neg hpresented, verify_of_not_presented hpresented]
    split <;> rfl

end Verify

/-! ## The search -/

/-- The reading of the clock when a capability is checked that comes after the given ones. -/
def checkTime (tick : ℕ) (action resource : String) (before : List Token) : ℤ :=
  readings.clock (tick + before.countP fun token ↦ token.cap.Matches action resource)

/-- Among the capabilities is one that satisfies the conditions when it is checked. -/
def Found (store : ProvenanceMemoryStore) (context : AccessContext) (action resource : String)
    (tokens : List Token) : Prop :=
  Sometime (fun before token ↦ Satisfies lib store.verifier
    (checkTime readings store.tick action resource before) token context action resource) tokens

/-- The search returns, and its result is whether such a capability is there. -/
def ChecksExactly (store : ProvenanceMemoryStore) (context : AccessContext)
    (action resource : String) (tokens : List Token) : Prop :=
  ∃ held store', hasCapability lib readings context action resource tokens store
      = (.ok held, store') ∧
    (held = true ↔ Found lib readings store context action resource tokens)

/-- A capability that raises when it is checked comes after one that satisfies the conditions. -/
def RaisesLater (store : ProvenanceMemoryStore) (context : AccessContext)
    (action resource : String) (tokens : List Token) : Prop :=
  Always (fun before token ↦
    Raises lib store.verifier (checkTime readings store.tick action resource before) token context
        action resource → Found lib readings store context action resource before) tokens

section Search

variable {lib : TokenLibrary} {readings : Readings} {store : ProvenanceMemoryStore} {token : Token}
  {tokens : List Token} {context : AccessContext} {action resource : String}

/-- The store after a capability was looked at: the clock is read for those that match. -/
def ticked (store : ProvenanceMemoryStore) (token : Token) (action resource : String) :
    ProvenanceMemoryStore :=
  { store with tick := store.tick + if token.cap.Matches action resource then 1 else 0 }

theorem checkTime_nil (tick : ℕ) : checkTime readings tick action resource [] = readings.clock tick :=
  rfl

theorem checkTime_cons (before : List Token) :
    checkTime readings store.tick action resource (token :: before)
      = checkTime readings (ticked store token action resource).tick action resource before := by
  rw [checkTime, checkTime, ticked, List.countP_cons, ← Nat.add_assoc, Nat.add_right_comm]
  simp only [decide_eq_true_eq]

theorem found_cons :
    Found lib.toMemoryLibrary readings store context action resource (token :: tokens) ↔
      Satisfies lib.toMemoryLibrary store.verifier (readings.clock store.tick) token context action
          resource ∨
        Found lib.toMemoryLibrary readings (ticked store token action resource) context action
          resource tokens := by
  rw [Found, sometime_cons]
  simp only [checkTime_nil, checkTime_cons]
  rfl

theorem raisesLater_cons :
    RaisesLater lib.toMemoryLibrary readings store context action resource (token :: tokens) ↔
      ¬ Raises lib.toMemoryLibrary store.verifier (readings.clock store.tick) token context action
          resource ∧
        (Satisfies lib.toMemoryLibrary store.verifier (readings.clock store.tick) token context
            action resource ∨
          RaisesLater lib.toMemoryLibrary readings (ticked store token action resource) context
            action resource tokens) := by
  have hnil : ¬ Found lib.toMemoryLibrary readings store context action resource [] :=
    not_sometime_nil
  rw [RaisesLater, always_cons, checkTime_nil]
  simp only [checkTime_cons, found_cons]
  refine and_congr ⟨fun h hraises ↦ hnil (h hraises), fun h hraises ↦ absurd hraises h⟩ ?_
  by_cases hhead : Satisfies lib.toMemoryLibrary store.verifier (readings.clock store.tick) token
      context action resource
  · exact ⟨fun _ ↦ .inl hhead, fun _ before t after _ _ ↦ .inl hhead⟩
  · simp only [hhead, false_or]
    rfl

theorem hasCapability_of_matches (h : token.cap.Matches action resource) :
    hasCapability lib.toMemoryLibrary readings context action resource (token :: tokens) store
      = (Program.ofExcept (verifyToken lib.toMemoryLibrary store.verifier
            (readings.clock store.tick) token context action resource) >>= fun accepted ↦
          if accepted then pure true
          else hasCapability lib.toMemoryLibrary readings context action resource tokens)
        (ticked store token action resource) := by
  have hnow : (Program.mapError CheckError.memory (ProvenanceMemoryStore.now readings)) store
      = (.ok (readings.clock store.tick), ticked store token action resource) := by
    rw [ticked, if_pos h]
    exact mapError_of_ok ProvenanceMemoryStore.now_apply
  rw [hasCapability, if_pos h, bind_of_ok hnow, bind_of_ok get_apply]
  rfl

/-- A capability that is neither accepted nor raises is passed over. -/
theorem hasCapability_of_refused
    (h : verifyToken lib.toMemoryLibrary store.verifier (readings.clock store.tick) token context
      action resource = .ok false) :
    hasCapability lib.toMemoryLibrary readings context action resource (token :: tokens) store
      = hasCapability lib.toMemoryLibrary readings context action resource tokens
        (ticked store token action resource) := by
  by_cases hmatches : token.cap.Matches action resource
  · rw [hasCapability_of_matches hmatches, ofExcept_bind_of_ok h]
    rfl
  · rw [hasCapability, if_neg hmatches, ticked, if_neg hmatches]
    rfl

/-- **The search is exact** if and only if no capability that raises comes before the first one that
satisfies the documented conditions. -/
theorem checksExactly_iff (lib : TokenLibrary) (readings : Readings) (store : ProvenanceMemoryStore)
    (context : AccessContext) (action resource : String) (tokens : List Token) :
    ChecksExactly lib.toMemoryLibrary readings store context action resource tokens ↔
      RaisesLater lib.toMemoryLibrary readings store context action resource tokens := by
  induction tokens generalizing store with
  | nil =>
    refine iff_of_true ⟨false, store, rfl, ?_⟩ always_nil
    exact iff_of_false (by decide) not_sometime_nil
  | cons token tokens ih =>
    rw [raisesLater_cons]
    by_cases hsatisfies : Satisfies lib.toMemoryLibrary store.verifier (readings.clock store.tick)
        token context action resource
    · -- the search ends with this capability
      have hverify := verifyToken_of_satisfies hsatisfies
      have hraises : ¬ Raises lib.toMemoryLibrary store.verifier (readings.clock store.tick) token
          context action resource := by
        intro hraises
        obtain ⟨e, herror⟩ := verifyToken_of_raises hraises
        exact nomatch hverify.symm.trans herror
      refine iff_of_true ⟨true, ticked store token action resource, ?_, ?_⟩
        ⟨hraises, .inl hsatisfies⟩
      · rw [hasCapability_of_matches hsatisfies.presented.2.2.1, ofExcept_bind_of_ok hverify]
        rfl
      · exact iff_of_true rfl (found_cons.mpr (.inl hsatisfies))
    by_cases hraises : Raises lib.toMemoryLibrary store.verifier (readings.clock store.tick) token
        context action resource
    · -- the search raises
      obtain ⟨e, herror⟩ := verifyToken_of_raises hraises
      refine iff_of_false ?_ fun h ↦ h.1 hraises
      rintro ⟨held, store', hrun, -⟩
      rw [hasCapability_of_matches hraises.presented.2.2.1, ofExcept_bind_of_error herror] at hrun
      exact nomatch congrArg Prod.fst hrun
    · -- the search goes on
      rw [ChecksExactly, hasCapability_of_refused (verifyToken_of_neither hsatisfies hraises)]
      simp only [found_cons, hsatisfies, hraises, false_or, not_false_eq_true, true_and]
      exact ih (ticked store token action resource)

/-! ### A malformed signature -/

/-- A decoder that raises on characters that no encoder writes. -/
def strictDecode (text : String) : Except MemoryError (List UInt8) :=
  if text.toList.all fun c ↦ c.toNat < 256 then latin1Memory.b64decode text
  else .error ⟨.binasciiError, "string argument should contain only ASCII characters"⟩

theorem strictDecode_latin1 (bytes : List UInt8) : strictDecode (Bytes.latin1 bytes) = .ok bytes := by
  have hbytes : (Bytes.latin1 bytes).toList.all (fun c ↦ c.toNat < 256) = true := by
    refine List.all_eq_true.mpr fun c hc ↦ decide_eq_true ?_
    rw [Bytes.latin1, String.toList_ofList] at hc
    obtain ⟨b, -, rfl⟩ := List.mem_map.mp hc
    rw [Bytes.toNat_ofNat_toNat]
    exact b.toNat_lt
  exact (if_pos hbytes).trans (latin1Memory.b64decode_b64encode bytes)

def strictTokens : TokenLibrary where
  toMemoryLibrary := { latin1Memory with
    b64decode := strictDecode
    b64decode_b64encode := strictDecode_latin1 }
  b64decode_empty := rfl

/-- A capability of a requester, for reading a partition. -/
def forensicRead : SignedCapability :=
  ⟨"c", "r", "t", "FORENSIC_READ", "t_p", 0, 1, "DriftGuard-X", "n", "1.0", ""⟩

def readerContext : AccessContext := ⟨"r", "t", [], 1⟩

def keyStore : ProvenanceMemoryStore := ⟨⟨[], []⟩, .empty, [], 0⟩

def malformed : Token := ⟨{ forensicRead with signature := "€" }, true⟩

theorem strictDecode_malformed : strictDecode "€"
    = .error ⟨.binasciiError, "string argument should contain only ASCII characters"⟩ :=
  if_neg (by decide)

def malformedFirst : List Token :=
  [malformed,
    ⟨CapabilityVerifier.sign strictTokens.toMemoryLibrary [] forensicRead, true⟩]

/-- A malformed capability hides a valid one. -/
theorem not_checksExactly_malformedFirst :
    Found strictTokens.toMemoryLibrary ⟨fun _ ↦ 0, fun _ ↦ ""⟩ keyStore readerContext
        "FORENSIC_READ" "t_p" malformedFirst ∧
      ¬ ChecksExactly strictTokens.toMemoryLibrary ⟨fun _ ↦ 0, fun _ ↦ ""⟩ keyStore readerContext
        "FORENSIC_READ" "t_p" malformedFirst := by
  constructor
  · refine found_cons.mpr (.inr (found_cons.mpr (.inl ?_)))
    exact satisfies_sign rfl rfl (by decide) List.not_mem_nil
  · rintro ⟨held, store', hrun, -⟩
    have hraises : Raises strictTokens.toMemoryLibrary keyStore.verifier 0 malformed readerContext
        "FORENSIC_READ" "t_p" :=
      ⟨by decide, .inr ⟨by decide, List.not_mem_nil, _, strictDecode_malformed⟩⟩
    obtain ⟨e, herror⟩ := verifyToken_of_raises hraises
    rw [malformedFirst, hasCapability_of_matches hraises.presented.2.2.1,
      ofExcept_bind_of_error herror] at hrun
    exact nomatch congrArg Prod.fst hrun

end Search

end DriftGuardX.Memory
