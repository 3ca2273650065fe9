import DriftGuardX.Validation.Models

/-!
# Divergence validation

Two executions are compared node by node, with what an envelope says of each node. The adapter that
compares several replays returns its worst report only if that report is valid: a report is false
as a condition when it is not, and then `worst or …` makes a valid one
(`valid_of_validateDivergence`).
-/

namespace DriftGuardX.Validation

open Json Bytes Transaction
open Recovery (Raised Dict)

variable {F : Type}

/-! ## Spans and snapshots -/

/-- A record of a span: a dictionary with string keys. -/
abbrev Span (F : Type) := Dict (Val F)

mutual

/-- The value that an encoder writes when it is given a text for each object it does not know. -/
def withDefault (text : String → String) : Val F → Val F
  | .scalar a => .scalar a
  | .list xs => .list (withDefaults text xs)
  | .dict kvs => .dict (withDefaultMembers text kvs)
  | .other tag => .str (text tag)

def withDefaults (text : String → String) : List (Val F) → List (Val F)
  | [] => []
  | v :: vs => withDefault text v :: withDefaults text vs

def withDefaultMembers (text : String → String) : List (Key F × Val F) → List (Key F × Val F)
  | [] => []
  | (k, v) :: kvs => (k, withDefault text v) :: withDefaultMembers text kvs

end

/-- Functions outside the package: a digest, `str` of an object, `str` of a list of strings, whether
a float is a zero, the text of the exception for a value that cannot be encoded, the exception for
an id that is no string, and what the rule of a constraint says of two values. -/
structure DivergenceLibrary (F : Type) where
  sha256 : List UInt8 → String
  str : String → String
  strList : List String → String
  isZero : F → Bool
  dumpsError : Val F → String
  idError : Val F → Raised
  rule : Val F → String → Val F → Val F → Except Raised (Bool × String)

/-- Whether a value is false as a condition. -/
def isFalsy (lib : DivergenceLibrary F) : Val F → Bool
  | .none | .bool false | .int 0 | .str "" | .list [] | .dict [] => true
  | .float x => lib.isZero x
  | _ => false

namespace Span

/-- The id of a node, if there is one. Ids are strings. -/
def nodeId (lib : DivergenceLibrary F) (span : Span F) : Except Raised (Option String) :=
  let id := (Dict.get? span "span_id").getD ((Dict.get? span "node_id").getD (.str ""))
  if isFalsy lib id then .ok none
  else match id with
    | .str nodeId => .ok (some nodeId)
    | _ => .error (lib.idError id)

def componentType (span : Span F) : Val F := (Dict.get? span "component_type").getD (.str "")

def output (span : Span F) : Val F := (Dict.get? span "output").getD (.object [])

end Span

section Validate

variable [FloatText F] (lib : DivergenceLibrary F)

/-- `_stable_hash`. -/
def stableHash (value : Val F) : Except Raised String :=
  match dumps ⟨true, false⟩ true (withDefault lib.str value) with
  | some text => .ok (lib.sha256 (utf8Chars text))
  | none => .error ⟨.typeError, lib.dumpsError value⟩

structure NodeState (F : Type) where
  nodeId : String
  output : Val F
  componentType : Val F
  outputHash : String

/-- The states of the nodes by their ids. -/
abbrev ExecutionSnapshot (F : Type) := List (String × NodeState F)

/-- `from_spans`. -/
def fromSpans (spans : List (Span F)) : Except Raised (ExecutionSnapshot F) :=
  spans.foldlM (fun nodes span ↦ do
    match ← span.nodeId lib with
    | none => return nodes
    | some id =>
      let hash ← stableHash lib span.output
      return setItem nodes id ⟨id, span.output, span.componentType, hash⟩) []

omit [FloatText F] in
def getNode (nodes : ExecutionSnapshot F) (id : String) : Option (NodeState F) := Dict.get? nodes id

/-- `_check_tolerance`: without a rule for the node, the values have to match exactly. -/
def checkTolerance (id : String) (original replay : Val F) (constraints : List (String × Val F)) :
    Except Raised (Bool × String) :=
  match (Dict.get? constraints id).getD ((Dict.get? constraints "*").getD .none) with
  | .none => do
    let originalHash ← stableHash lib original
    let replayHash ← stableHash lib replay
    return if originalHash ≠ replayHash then
      (false, s!"Node {id}: exact match failed (no tolerance rule defined)")
    else (true, "")
  | constraint => lib.rule constraint id original replay

/-! ## Comparing two executions -/

inductive NodeStatus where
  | intervened
  | frozenViolation
  | unchanged
  | forbiddenDivergence
  | unexpectedDivergence
  | withinTolerance
  | allowedDescendantChanged
  | allowedDescendantViolation
  deriving DecidableEq, Repr

def NodeStatus.value : NodeStatus → String
  | intervened => "intervened"
  | frozenViolation => "frozen_violation"
  | unchanged => "unchanged"
  | forbiddenDivergence => "forbidden_divergence"
  | unexpectedDivergence => "unexpected_divergence"
  | withinTolerance => "within_tolerance"
  | allowedDescendantChanged => "allowed_descendant_changed"
  | allowedDescendantViolation => "allowed_descendant_violation"

/-- What is reported of a node: its status, and what else is said. -/
structure NodeEntry (F : Type) where
  status : NodeStatus
  details : List (String × Val F)

def NodeEntry.toVal (entry : NodeEntry F) : Val F :=
  .object (("status", .str entry.status.value) :: entry.details)

/-- The two hashes of a node that has changed. -/
def hashDetails (originalHash replayHash : String) : List (String × Val F) :=
  [("orig_hash", .str originalHash), ("replay_hash", .str replayHash)]

/-- One node of the comparison. -/
def checkNode (envelope : ReplayEquivalenceEnvelope F) (original replay : ExecutionSnapshot F)
    (id : String) : Except Raised (NodeEntry F) :=
  let originalVal := (getNode original id).elim .none NodeState.output
  let replayVal := (getNode replay id).elim .none NodeState.output
  let originalHash := (getNode original id).elim "" NodeState.outputHash
  let replayHash := (getNode replay id).elim "" NodeState.outputHash
  if id ∈ envelope.intervenedVariables then
    .ok ⟨.intervened, [("changed", .bool (originalHash ≠ replayHash))]⟩
  else if ∃ expected ∈ Dict.get? envelope.frozenVariables id, replayHash ≠ expected then
    .ok ⟨.frozenViolation,
      [("expected_hash", optStr (Dict.get? envelope.frozenVariables id)),
        ("actual_hash", .str replayHash)]⟩
  else if originalHash = replayHash then .ok ⟨.unchanged, [("valid", .bool true)]⟩
  else if id ∈ envelope.forbiddenDivergenceNodes then
    .ok ⟨.forbiddenDivergence, hashDetails originalHash replayHash⟩
  else if id ∉ envelope.allowedCausalDescendants then do
    let verdict ← checkTolerance lib id originalVal replayVal envelope.constraints
    return if verdict.1 then ⟨.withinTolerance, hashDetails originalHash replayHash⟩
      else ⟨.unexpectedDivergence,
        ("reason", .str verdict.2) :: hashDetails originalHash replayHash⟩
  -- a change of an allowed descendant is only checked if there is a rule
  else do
    let ruled := ((Dict.get? envelope.constraints id).filter fun v ↦ !isFalsy lib v).or
      ((Dict.get? envelope.constraints "*").filter fun v ↦ !(v matches .none))
    let verdict ← if ruled.isSome then
        checkTolerance lib id originalVal replayVal envelope.constraints
      else .ok (true, "")
    return ⟨if verdict.1 then .allowedDescendantChanged else .allowedDescendantViolation,
      ("valid", .bool verdict.1) :: ("reason", .str (if verdict.1 then "" else verdict.2)) ::
        hashDetails originalHash replayHash⟩

omit [FloatText F] in
theorem notNone_iff (v : Val F) : (!(v matches .none)) = true ↔ v ≠ .none := by
  cases v with
  | scalar a => cases a <;> simp
  | _ => simp

/-- The comparison of the nodes in order, which stops at a forbidden divergence. -/
def checkNodes (envelope : ReplayEquivalenceEnvelope F) (original replay : ExecutionSnapshot F) :
    List String → Except Raised (List (String × NodeEntry F))
  | [] => .ok []
  | id :: ids => do
    let entry ← checkNode lib envelope original replay id
    if entry.status = .forbiddenDivergence then return [(id, entry)]
    else do
      let rest ← checkNodes envelope original replay ids
      return (id, entry) :: rest

structure DivergenceReport (F : Type) where
  valid : Bool
  reason : String
  perNode : List (String × NodeEntry F)
  earlyTerminated : Bool
  violatedFrozenNodes : List String
  violatedForbiddenNodes : List String

/-- The nodes with a status. -/
def withStatus (perNode : List (String × NodeEntry F)) (status : NodeStatus) : List String :=
  (perNode.filter fun m ↦ m.2.status = status).map Prod.fst

/-- The statuses that make a comparison invalid, each with the start of its reason. -/
def violations : List (NodeStatus × String) :=
  [(.frozenViolation, "Frozen variable violations: "),
    (.forbiddenDivergence, "Forbidden divergence nodes reached: "),
    (.unexpectedDivergence, "Unexpected divergence in non-descendant nodes: "),
    (.allowedDescendantViolation, "Descendant nodes exceeded tolerance: ")]

omit [FloatText F] in
/-- The report on the nodes that were compared. -/
def report (perNode : List (String × NodeEntry F)) : DivergenceReport F :=
  let reasons := (violations.filter fun v ↦ withStatus perNode v.1 ≠ []).map fun v ↦
    v.2 ++ lib.strList (withStatus perNode v.1)
  { valid := violations.all fun v ↦ withStatus perNode v.1 = []
    reason := if reasons = [] then "All causal divergence constraints satisfied."
      else "; ".intercalate reasons
    perNode
    earlyTerminated := withStatus perNode .forbiddenDivergence ≠ []
    violatedFrozenNodes := withStatus perNode .frozenViolation
    violatedForbiddenNodes := withStatus perNode .forbiddenDivergence }

/-- `validate`. -/
def validate (original replay : ExecutionSnapshot F) (envelope : ReplayEquivalenceEnvelope F) :
    Except Raised (DivergenceReport F) := do
  let ids := sorted (original.map Prod.fst ++ replay.map Prod.fst).dedup
  let perNode ← checkNodes lib envelope original replay ids
  return report lib perNode

/-! ## Comparing several replays -/

/-- A report without nodes. -/
def validReport (reason : String) : DivergenceReport F := ⟨true, reason, [], false, [], []⟩

/-- `x or y` for reports, which are true as conditions when they are valid. -/
def reportOr (x : Option (DivergenceReport F)) (y : DivergenceReport F) : DivergenceReport F :=
  match x with
  | some r => if r.valid then r else y
  | none => y

/-- The original spans of a replay and those of the replay, compared. -/
def validateReplay (envelope : ReplayEquivalenceEnvelope F)
    (replay : List (Span F) × List (Span F)) : Except Raised (DivergenceReport F) := do
  let original ← fromSpans lib replay.1
  let replayed ← fromSpans lib replay.2
  validate lib original replayed envelope

/-- `validate_divergence`. -/
def validateDivergence (replays : List (List (Span F) × List (Span F)))
    (envelope : ReplayEquivalenceEnvelope F) : Except Raised (DivergenceReport F) :=
  if replays = [] then .ok (validReport "No replays to validate.")
  else do
    let worst ← replays.foldlM (fun worst replay ↦ do
      let report ← validateReplay lib envelope replay
      return if worst.elim true fun w : DivergenceReport F ↦ !report.valid && w.valid then
        some report else worst) none
    return reportOr worst (validReport "All replays passed divergence check.")

variable {lib} {envelope : ReplayEquivalenceEnvelope F}

/-- **Every report is valid.** An invalid one is replaced. -/
theorem valid_of_validateDivergence {replays : List (List (Span F) × List (Span F))}
    {r : DivergenceReport F} (h : validateDivergence lib replays envelope = .ok r) :
    r.valid = true := by
  rw [validateDivergence] at h
  split at h
  · rw [← Except.ok.inj h]
    rfl
  · simp only [bind_eq_ok_iff, pure_eq_ok_iff] at h
    obtain ⟨worst, -, rfl⟩ := h
    rw [reportOr.eq_def]
    split
    · split
      · assumption
      · rfl
    · rfl

end Validate

end DriftGuardX.Validation
