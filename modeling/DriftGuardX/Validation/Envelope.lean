import DriftGuardX.Validation.Models
import Mathlib.Logic.Function.Iterate

/-!
# What the envelope binds

The first verification of an envelope compares the hash it carries with that of its payload, and
every later one compares the recomputed hash with itself (`nthVerification_succ`). So a modification
is noticed by the first verification only, and only if the payload is written differently; of the
recovery cut, the payload holds nothing but the id (`bindsContent_iff`).
-/

namespace DriftGuardX.Validation

open Json Bytes Policy Program
open Recovery (Raised nonempty)

variable {F : Type}

/-! ## What an envelope says -/

def FailureTarget.content (target : FailureTarget F) : Val F := .object
  [("node_id", .str target.nodeId),
    ("failure_type", .str target.failureType),
    ("severity", .str target.severity),
    ("evidence", .object target.evidence)]

def FaultSource.content (source : FaultSource F) : Val F := .object
  [("node_id", .str source.nodeId), ("probability", .float source.probability)]

def RequiredCapability.content (cap : RequiredCapability) : Val F := .object
  [("capability_id", .str cap.capabilityId),
    ("requester_id", .str cap.requesterId),
    ("tenant_id", .str cap.tenantId),
    ("action", .str cap.action),
    ("resource", .str cap.resource),
    ("issued_at", .int cap.issuedAt),
    ("expires_at", .int cap.expiresAt),
    ("issuer", .str cap.issuer),
    ("nonce", .str cap.nonce),
    ("policy_version", .str cap.policyVersion),
    ("revoked", .bool cap.revoked),
    ("signature", .str cap.signature)]

def RecoveryAction.content (action : RecoveryAction F) : Val F := .object
  [("action_id", .str action.actionId),
    ("target_component", .str action.targetComponent),
    ("action_type", .str action.actionType),
    ("replacement", optStr action.replacement),
    ("change_cost", .float action.changeCost),
    ("blast_radius", .float action.blastRadius),
    ("regression_risk", .float action.regressionRisk),
    ("expected_downtime", .float action.expectedDowntime),
    ("reversibility", .bool action.reversibility),
    ("required_capability", action.requiredCapability.elim .none RequiredCapability.content),
    ("metadata", .object action.metadata)]

def methodValue : Recovery.OptimizationMethod → String
  | .exact => "exact"
  | .approximate => "approximate"
  | .heuristic => "heuristic"

/-- A cut with all its fields as one value. -/
def CausalRecoveryCut.content (cut : CausalRecoveryCut F) : Val F := .object
  [("recovery_id", .str cut.recoveryId),
    ("fault_sources", .list (cut.faultSources.map FaultSource.content)),
    ("failure_targets", .list (cut.failureTargets.map FailureTarget.content)),
    ("selected_actions", .list (cut.selectedActions.map RecoveryAction.content)),
    ("blocked_failure_paths", .list (cut.blockedFailurePaths.map strs)),
    ("residual_failure_paths", .list (cut.residualFailurePaths.map strs)),
    ("total_change_cost", .float cut.totalChangeCost),
    ("blast_radius", .float cut.blastRadius),
    ("regression_risk", .float cut.regressionRisk),
    ("expected_downtime", .float cut.expectedDowntime),
    ("optimization_method", .str (methodValue cut.optimizationMethod)),
    ("evidence_hash", .str cut.evidenceHash),
    ("created_at", .int cut.createdAt)]

namespace ReplayEquivalenceEnvelope

variable {env env' env₀ : ReplayEquivalenceEnvelope F}

/-- Envelopes that say the same: equal fields, up to the order of dictionaries and of the three
lists of names. -/
def SameMeaning (env env' : ReplayEquivalenceEnvelope F) : Prop :=
  env.payload.Equal env'.payload ∧ env.recoveryCut.content.Equal env'.recoveryCut.content

/-! ## Verifications -/

section Verify

variable [FloatText F] {lib : EnvelopeLibrary F}

theorem isAscii_of_mac {mac : String} (h : env.mac lib = .ok mac) : IsAscii mac ∧ mac ≠ "" := by
  rw [ReplayEquivalenceEnvelope.mac] at h
  split at h
  · exact absurd h (by simp)
  split at h
  · exact absurd h (by simp)
  · obtain rfl := Except.ok.inj h
    exact ⟨lib.signing.sign_isAscii _ _, lib.signing.sign_ne_empty _ _⟩

theorem exists_secret_of_mac {mac : String} (h : env.mac lib = .ok mac) :
    ∃ secret, nonempty lib.secret = some secret := by
  refine Option.ne_none_iff_exists'.mp fun hnone ↦ ?_
  simp [ReplayEquivalenceEnvelope.mac, hnone] at h

theorem mac_congr (h : env'.payload = env.payload) : env'.mac lib = env.mac lib := by
  rw [mac, mac, h]

theorem exists_mac_iff {secret : String} (hsecret : nonempty lib.secret = some secret) :
    (∃ mac, env.mac lib = .ok mac) ↔ ∃ d, toDoc true env.payload = some d := by
  rw [mac, hsecret, dumps]
  cases toDoc true env.payload with
  | none => simp
  | some d => simp

theorem mac_eq_iff {mac mac' : String} (h : env.mac lib = .ok mac) (h' : env'.mac lib = .ok mac') :
    mac = mac' ↔ toDoc true env.payload = toDoc true env'.payload := by
  rw [ReplayEquivalenceEnvelope.mac] at h h'
  cases hsecret : nonempty lib.secret with
  | none => simp [hsecret] at h
  | some secret =>
    simp only [hsecret] at h h'
    split at h
    · exact nomatch h
    rename_i text htext
    split at h'
    · exact nomatch h'
    rename_i text' htext'
    obtain rfl := Except.ok.inj h
    obtain rfl := Except.ok.inj h'
    rw [(lib.signing.sign_injective secret).eq_iff, utf8Chars_injective.eq_iff,
      ← dumps_eq_dumps_iff ⟨true, false⟩, htext, htext', Option.some_inj]

theorem computeEnvelopeHash_of_ok {mac : String} (h : env.mac lib = .ok mac)
    (hempty : env.envelopeHash = "") :
    computeEnvelopeHash lib env = (.ok (), { env with envelopeHash := mac }) := by
  rw [computeEnvelopeHash, bind_of_ok get_apply, if_neg (not_not.mpr hempty),
    ofExcept_bind_of_ok h]
  rfl

theorem computeEnvelopeHash_of_error {e : Raised} (h : env.mac lib = .error e)
    (hempty : env.envelopeHash = "") : computeEnvelopeHash lib env = (.error e, env) := by
  rw [computeEnvelopeHash, bind_of_ok get_apply, if_neg (not_not.mpr hempty),
    ofExcept_bind_of_error h]

theorem construct_eq_ok_iff :
    construct lib env₀ = .ok env ↔
      ∃ mac, env₀.mac lib = .ok mac ∧ env = { env₀ with envelopeHash := mac } := by
  have hmac : { env₀ with envelopeHash := "" }.mac lib = env₀.mac lib := rfl
  rw [construct]
  cases h : env₀.mac lib with
  | ok mac =>
    rw [computeEnvelopeHash_of_ok (hmac.trans h) rfl]
    simp [eq_comm]
  | error e =>
    rw [computeEnvelopeHash_of_error (hmac.trans h) rfl]
    simp

theorem verifyEnvelopeHash_of_ok {mac : String} (h : env.mac lib = .ok mac)
    (hascii : IsAscii env.envelopeHash) : verifyEnvelopeHash lib env
      = (.ok (decide (mac = env.envelopeHash)), { env with envelopeHash := mac }) := by
  have hcompute : computeEnvelopeHash lib { env with envelopeHash := "" }
      = (.ok (), { env with envelopeHash := mac }) := computeEnvelopeHash_of_ok h rfl
  rw [verifyEnvelopeHash, bind_of_ok get_apply, bind_of_ok (modify_apply _), bind_of_ok hcompute,
    bind_of_ok get_apply, compareDigest, if_pos ⟨(isAscii_of_mac h).1, hascii⟩]
  rfl

theorem verifyEnvelopeHash_of_error {e : Raised} (h : env.mac lib = .error e) :
    verifyEnvelopeHash lib env = (.error e, { env with envelopeHash := "" }) := by
  have hcompute : computeEnvelopeHash lib { env with envelopeHash := "" }
      = (.error e, { env with envelopeHash := "" }) := computeEnvelopeHash_of_error h rfl
  rw [verifyEnvelopeHash, bind_of_ok get_apply, bind_of_ok (modify_apply _),
    bind_of_error hcompute]

theorem verifyEnvelopeHash_of_construct (h : construct lib env₀ = .ok env) :
    verifyEnvelopeHash lib env = (.ok true, env) := by
  obtain ⟨mac, hmac₀, rfl⟩ := construct_eq_ok_iff.mp h
  have hmac : { env₀ with envelopeHash := mac }.mac lib = .ok mac := hmac₀
  rw [verifyEnvelopeHash_of_ok hmac (isAscii_of_mac hmac).1, decide_eq_true rfl]

/-- The envelope after a number of verifications. -/
def verified (lib : EnvelopeLibrary F) (n : ℕ) (env : ReplayEquivalenceEnvelope F) :
    ReplayEquivalenceEnvelope F :=
  (fun env ↦ (verifyEnvelopeHash lib env).2)^[n] env

/-- The result of a verification that comes after others. -/
def nthVerification (lib : EnvelopeLibrary F) (n : ℕ) (env : ReplayEquivalenceEnvelope F) :
    Except Raised Bool :=
  (verifyEnvelopeHash lib (verified lib n env)).1

theorem nthVerification_zero {mac : String} (h : env.mac lib = .ok mac)
    (hascii : IsAscii env.envelopeHash) :
    nthVerification lib 0 env = .ok (decide (mac = env.envelopeHash)) := by
  rw [nthVerification, verified, Function.iterate_zero_apply, verifyEnvelopeHash_of_ok h hascii]

theorem verified_succ {mac : String} (h : env.mac lib = .ok mac)
    (hascii : IsAscii env.envelopeHash) (n : ℕ) :
    verified lib (n + 1) env = { env with envelopeHash := mac } := by
  have hfixed : (fun env ↦ (verifyEnvelopeHash lib env).2) { env with envelopeHash := mac }
      = { env with envelopeHash := mac } := by
    have hmac : { env with envelopeHash := mac }.mac lib = .ok mac := h
    exact congrArg Prod.snd (verifyEnvelopeHash_of_ok hmac (isAscii_of_mac h).1)
  rw [verified, Function.iterate_succ_apply, verifyEnvelopeHash_of_ok h hascii]
  exact Function.iterate_fixed hfixed n

theorem nthVerification_succ {mac : String} (h : env.mac lib = .ok mac)
    (hascii : IsAscii env.envelopeHash) (n : ℕ) : nthVerification lib (n + 1) env = .ok true := by
  have hmac : { env with envelopeHash := mac }.mac lib = .ok mac := h
  rw [nthVerification, verified_succ h hascii,
    verifyEnvelopeHash_of_ok hmac (isAscii_of_mac h).1]
  simp

theorem nthVerification_of_error {e : Raised} (h : env.mac lib = .error e) (n : ℕ) :
    nthVerification lib n env = .error e := by
  induction n generalizing env with
  | zero =>
    rw [nthVerification, verified, Function.iterate_zero_apply, verifyEnvelopeHash_of_error h]
  | succ n ih =>
    have hmac : { env with envelopeHash := "" }.mac lib = .error e := h
    rw [nthVerification, verified, Function.iterate_succ_apply, verifyEnvelopeHash_of_error h]
    exact ih hmac

/-- An envelope binds its content against a modification at a verification: it succeeds without
the modification, and fails with one that changes the meaning. -/
structure BindsContent (lib : EnvelopeLibrary F) (env env' : ReplayEquivalenceEnvelope F) (n : ℕ) :
    Prop where
  unmodified : env' = env → nthVerification lib n env' = .ok true
  modified : env' ≠ env → ¬ SameMeaning env env' → nthVerification lib n env' = .ok false

/-- **What is bound.** A modification that changes the meaning of an envelope is noticed exactly by
the first verification, and if the payload can be written and is written differently. -/
theorem bindsContent_iff (hconstruct : construct lib env₀ = .ok env)
    (hhash : env'.envelopeHash = env.envelopeHash) (n : ℕ) : BindsContent lib env env' n ↔
      env' = env ∨ SameMeaning env env' ∨ (n = 0 ∧ (∃ d, toDoc true env'.payload = some d) ∧
        toDoc true env'.payload ≠ toDoc true env.payload) := by
  obtain ⟨mac, hmac₀, rfl⟩ := construct_eq_ok_iff.mp hconstruct
  set env : ReplayEquivalenceEnvelope F := { env₀ with envelopeHash := mac } with henv
  have hmac : env.mac lib = .ok mac := hmac₀
  have hascii : IsAscii env.envelopeHash := (isAscii_of_mac hmac).1
  obtain ⟨secret, hsecret⟩ := exists_secret_of_mac hmac
  constructor
  · intro h
    by_cases hsame : env' = env
    · exact .inl hsame
    by_cases hmeaning : SameMeaning env env'
    · exact .inr (.inl hmeaning)
    have hfails := h.modified hsame hmeaning
    cases hmac' : env'.mac lib with
    | error e =>
      rw [nthVerification_of_error hmac'] at hfails
      exact nomatch hfails
    | ok mac' =>
      cases n with
      | zero =>
        -- the hash that is carried is that of the payload
        rw [nthVerification_zero hmac' (hhash ▸ hascii), hhash, Except.ok.injEq,
          decide_eq_false_iff_not] at hfails
        have hdocs := mt (mac_eq_iff hmac' hmac).mpr hfails
        exact .inr (.inr ⟨rfl, (exists_mac_iff hsecret).mp ⟨mac', hmac'⟩, hdocs⟩)
      | succ n =>
        rw [nthVerification_succ hmac' (hhash ▸ hascii)] at hfails
        exact nomatch hfails
  · intro h
    refine ⟨fun hsame ↦ ?_, fun hne hmeaning ↦ ?_⟩
    · subst hsame
      cases n with
      | zero => rw [nthVerification_zero hmac hascii, decide_eq_true rfl]
      | succ n => exact nthVerification_succ hmac hascii n
    · obtain ⟨rfl, hwritten, hdocs⟩ := (h.resolve_left hne).resolve_left hmeaning
      obtain ⟨mac', hmac'⟩ := (exists_mac_iff hsecret).mpr hwritten
      rw [nthVerification_zero hmac' (hhash ▸ hascii), hhash,
        decide_eq_false fun heq ↦ hdocs ((mac_eq_iff hmac' hmac).mp heq)]

end Verify

/-! ## A small envelope -/

/-- A cut that selects nothing and leaves nothing. -/
def emptyCut : CausalRecoveryCut WholeFloat where
  recoveryId := "r"
  faultSources := []
  failureTargets := []
  selectedActions := []
  blockedFailurePaths := []
  residualFailurePaths := []
  totalChangeCost := ⟨0⟩
  blastRadius := ⟨0⟩
  regressionRisk := ⟨0⟩
  expectedDowntime := ⟨0⟩
  optimizationMethod := .exact
  evidenceHash := ""
  createdAt := 0

def smallEnvelope (traceId envelopeHash : String) (residualFailurePaths : List (List String)) :
    ReplayEquivalenceEnvelope WholeFloat where
  traceId
  recoveryCut := { emptyCut with residualFailurePaths }
  invariants := []
  snapshotHash := ""
  frozenVariables := []
  intervenedVariables := []
  exogenousVariables := []
  allowedCausalDescendants := []
  forbiddenDivergenceNodes := []
  constraints := []
  policyBinding := none
  trustedTimeBinding := none
  sandboxConfig := [("isolation_level", .str "strict")]
  schemaVersion := "2.0"
  graphHash := ""
  envelopeHash

def decimalLibrary : EnvelopeLibrary WholeFloat where
  signing := decimalSigning
  secret := some "s"
  dumpsError _ := ""

theorem payload_smallEnvelope (traceId mac : String) (paths : List (List String)) :
    (smallEnvelope traceId mac paths).payload = (smallEnvelope traceId "" []).payload := rfl

theorem exists_mac_smallEnvelope {traceId : String}
    (hwritten : ∃ d, toDoc true (smallEnvelope traceId "" []).payload = some d) :
    ∃ mac, ∀ mac' paths, (smallEnvelope traceId mac' paths).mac decimalLibrary = .ok mac := by
  have hsecret : nonempty decimalLibrary.secret = some "s" := rfl
  obtain ⟨mac, hmac⟩ := (exists_mac_iff hsecret).mpr hwritten
  exact ⟨mac, fun _ _ ↦ (mac_congr (payload_smallEnvelope ..)).trans hmac⟩

theorem construct_smallEnvelope {traceId mac : String}
    (hmac : (smallEnvelope traceId "" []).mac decimalLibrary = .ok mac) :
    construct decimalLibrary (smallEnvelope traceId "" [])
      = .ok (smallEnvelope traceId mac []) := by
  rw [construct_eq_ok_iff]
  exact ⟨mac, hmac, rfl⟩

theorem not_sameMeaning_traceId {mac : String} :
    ¬ SameMeaning (smallEnvelope "t" mac []) (smallEnvelope "u" mac []) := by
  intro h
  have htrace := equal_of_mem_object h.1 "trace_id" List.mem_cons_self List.mem_cons_self
  exact absurd (equal_scalar_iff.mp htrace) (by simp [smallEnvelope])

theorem not_sameMeaning_residual {mac : String} :
    ¬ SameMeaning (smallEnvelope "t" mac []) (smallEnvelope "t" mac [["a", "b"]]) := by
  intro h
  have hresidual : (Val.list ([] : List (Val WholeFloat))).Equal (.list [strs ["a", "b"]]) :=
    equal_of_mem_object h.2 "residual_failure_paths"
      (by simp [smallEnvelope]) (by simp [smallEnvelope])
  exact absurd (equal_list_length hresidual) (by simp)

theorem written_smallEnvelope : (∃ d, toDoc true (smallEnvelope "t" "" []).payload = some d) ∧
    ∃ d, toDoc true (smallEnvelope "u" "" []).payload = some d := ⟨⟨_, rfl⟩, _, rfl⟩

theorem toDoc_traceId_ne : toDoc true (smallEnvelope "u" "" []).payload ≠
    toDoc true (smallEnvelope "t" "" []).payload := by
  obtain ⟨d, hd⟩ := written_smallEnvelope.1
  intro heq
  have htrace := toDoc_eq_of_object (by simp) hd (heq.trans hd) (m := ("trace_id", .str "t"))
    (n := ("trace_id", .str "u")) List.mem_cons_self List.mem_cons_self rfl
  exact absurd (toDoc_str_inj.mp htrace) (by decide)

/-- Another trace is noticed at once. -/
theorem bindsContent_traceId : ∃ mac,
    construct decimalLibrary (smallEnvelope "t" "" []) = .ok (smallEnvelope "t" mac []) ∧
    BindsContent decimalLibrary (smallEnvelope "t" mac []) (smallEnvelope "u" mac []) 0 := by
  obtain ⟨mac, hmac⟩ := exists_mac_smallEnvelope written_smallEnvelope.1
  have hconstruct := construct_smallEnvelope (hmac "" [])
  have hhash : (smallEnvelope "u" mac []).envelopeHash = (smallEnvelope "t" mac []).envelopeHash :=
    rfl
  refine ⟨mac, hconstruct, (bindsContent_iff hconstruct hhash 0).mpr (.inr (.inr ⟨rfl, ?_⟩))⟩
  rw [payload_smallEnvelope "u", payload_smallEnvelope "t"]
  exact ⟨written_smallEnvelope.2, toDoc_traceId_ne⟩

/-- A failure path that is added to the cut is not noticed, and another trace not by the second
verification. -/
theorem not_bindsContent_residual : ∃ mac,
    construct decimalLibrary (smallEnvelope "t" "" []) = .ok (smallEnvelope "t" mac []) ∧
    ¬ BindsContent decimalLibrary (smallEnvelope "t" mac [])
      (smallEnvelope "t" mac [["a", "b"]]) 0 ∧
    ¬ BindsContent decimalLibrary (smallEnvelope "t" mac []) (smallEnvelope "u" mac []) 1 := by
  obtain ⟨mac, hmac⟩ := exists_mac_smallEnvelope written_smallEnvelope.1
  obtain ⟨mac', hmac'⟩ := exists_mac_smallEnvelope written_smallEnvelope.2
  have hascii : IsAscii mac := (isAscii_of_mac (hmac "" [])).1
  refine ⟨mac, construct_smallEnvelope (hmac "" []), fun h ↦ ?_, fun h ↦ ?_⟩
  · have hfails := h.modified (by simp [smallEnvelope]) not_sameMeaning_residual
    rw [nthVerification_zero (hmac mac [["a", "b"]]) hascii] at hfails
    simp [smallEnvelope] at hfails
  · have hfails := h.modified (by simp [smallEnvelope]) not_sameMeaning_traceId
    rw [nthVerification_succ (hmac' mac []) hascii] at hfails
    exact nomatch hfails

end ReplayEquivalenceEnvelope

end DriftGuardX.Validation
