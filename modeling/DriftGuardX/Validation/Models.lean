import DriftGuardX.Foundation.Program
import DriftGuardX.Json.Canonical
import DriftGuardX.Memory.Capabilities
import DriftGuardX.Policy.Signatures
import DriftGuardX.Recovery.Actions
import DriftGuardX.Recovery.CausalCut

/-!
# The models of a validation

A recovery cut with everything it holds, the invariants it has to preserve, and the envelope that
binds both for a replay. The envelope carries a keyed hash that is computed when it is constructed
and recomputed to verify it; the hash covers the cut by its id only.
-/

namespace DriftGuardX.Validation

open Json Bytes Policy
open Recovery (Raised nonempty)
open Memory (SignedCapability)

variable {F : Type}

/-! ## Cuts and invariants -/

structure FailureTarget (F : Type) where
  nodeId : String
  failureType : String
  severity : String
  evidence : List (String × Val F)

structure FaultSource (F : Type) where
  nodeId : String
  probability : F

/-- A capability as a model, with the field that its verification does not read. -/
structure RequiredCapability extends SignedCapability where
  revoked : Bool

structure RecoveryAction (F : Type) where
  actionId : String
  targetComponent : String
  actionType : String
  replacement : Option String
  changeCost : F
  blastRadius : F
  regressionRisk : F
  expectedDowntime : F
  reversibility : Bool
  requiredCapability : Option RequiredCapability
  metadata : List (String × Val F)

/-- A cut with all its fields. Times are microseconds. -/
structure CausalRecoveryCut (F : Type) where
  recoveryId : String
  faultSources : List (FaultSource F)
  failureTargets : List (FailureTarget F)
  selectedActions : List (RecoveryAction F)
  blockedFailurePaths : List (List String)
  residualFailurePaths : List (List String)
  totalChangeCost : F
  blastRadius : F
  regressionRisk : F
  expectedDowntime : F
  optimizationMethod : Recovery.OptimizationMethod
  evidenceHash : String
  createdAt : ℤ

structure RecoveryInvariant (F : Type) where
  invariantId : String
  scope : String
  metric : String
  baseline : F
  allowedDeviation : F
  severity : String
  evidenceSource : String

/-- `model_dump(mode="json")`. -/
def RecoveryInvariant.modelDump (inv : RecoveryInvariant F) : Val F := .object
  [("invariant_id", .str inv.invariantId),
    ("scope", .str inv.scope),
    ("metric", .str inv.metric),
    ("baseline", .float inv.baseline),
    ("allowed_deviation", .float inv.allowedDeviation),
    ("severity", .str inv.severity),
    ("evidence_source", .str inv.evidenceSource)]

/-! ## The envelope -/

structure ReplayEquivalenceEnvelope (F : Type) where
  traceId : String
  recoveryCut : CausalRecoveryCut F
  invariants : List (RecoveryInvariant F)
  snapshotHash : String
  frozenVariables : List (String × String)
  intervenedVariables : List String
  exogenousVariables : List (String × Val F)
  allowedCausalDescendants : List String
  forbiddenDivergenceNodes : List String
  constraints : List (String × Val F)
  policyBinding : Option String
  trustedTimeBinding : Option String
  sandboxConfig : List (String × Val F)
  schemaVersion : String
  graphHash : String
  envelopeHash : String

def strs (xs : List String) : Val F := .list (xs.map fun x ↦ .str x)

def optStr : Option String → Val F
  | some s => .str s
  | none => .none

/-- `sorted(xs)`. -/
def sorted (xs : List String) : List String := xs.insertionSort (· ≤ ·)

/-- Functions outside the package: the keyed hash, with the secret in the environment if there is
one, and the text of the exception with which the encoder refuses a value. -/
structure EnvelopeLibrary (F : Type) where
  signing : Signing
  secret : Option String
  dumpsError : Val F → String

namespace ReplayEquivalenceEnvelope

/-- What the hash covers. -/
def payload (env : ReplayEquivalenceEnvelope F) : Val F := .object
  [("trace_id", .str env.traceId),
    ("snapshot_hash", .str env.snapshotHash),
    ("frozen_variables", .object (env.frozenVariables.map fun m ↦ (m.1, .str m.2))),
    ("intervened_variables", strs (sorted env.intervenedVariables)),
    ("exogenous_variables", .object env.exogenousVariables),
    ("allowed_causal_descendants", strs (sorted env.allowedCausalDescendants)),
    ("forbidden_divergence_nodes", strs (sorted env.forbiddenDivergenceNodes)),
    ("constraints", .object env.constraints),
    ("invariants", .list (env.invariants.map RecoveryInvariant.modelDump)),
    ("sandbox_config", .object env.sandboxConfig),
    ("graph_hash", .str env.graphHash),
    ("schema_version", .str env.schemaVersion),
    ("policy_binding", optStr env.policyBinding),
    ("trusted_time_binding", optStr env.trustedTimeBinding),
    ("recovery_id", .str env.recoveryCut.recoveryId)]

variable [FloatText F] (lib : EnvelopeLibrary F)

/-- The hash of an envelope under the secret. -/
def mac (env : ReplayEquivalenceEnvelope F) : Except Raised String :=
  match nonempty lib.secret with
  | none => .error
    ⟨.runtimeError, "DGX_CAPABILITY_SECRET is missing. Cannot bind envelope."⟩
  | some secret =>
    match dumps ⟨true, false⟩ true env.payload with
    | none => .error ⟨.typeError, lib.dumpsError env.payload⟩
    | some text => .ok (lib.signing.sign secret (utf8Chars text))

/-- `compute_envelope_hash`, which leaves a hash that is there. -/
def computeEnvelopeHash : Program (ReplayEquivalenceEnvelope F) Raised Unit := do
  let self ← .get
  if self.envelopeHash ≠ "" then return ()
  else do
    let mac ← .ofExcept (self.mac lib)
    .modify fun self ↦ { self with envelopeHash := mac }

/-- `verify_envelope_hash`, which leaves the hash that it recomputes. -/
def verifyEnvelopeHash : Program (ReplayEquivalenceEnvelope F) Raised Bool := do
  let self ← .get
  let expected := self.envelopeHash
  .modify fun self ↦ { self with envelopeHash := "" }
  computeEnvelopeHash lib
  let self ← .get
  match compareDigest self.envelopeHash expected with
  | some equal => return equal
  | none => .raise ⟨.typeError, "comparing strings with non-ASCII characters is not supported"⟩

/-- The constructor, given no hash. -/
def construct (env : ReplayEquivalenceEnvelope F) :
    Except Raised (ReplayEquivalenceEnvelope F) :=
  match computeEnvelopeHash lib { env with envelopeHash := "" } with
  | (.ok _, self) => .ok self
  | (.error e, _) => .error e

end ReplayEquivalenceEnvelope

end DriftGuardX.Validation
