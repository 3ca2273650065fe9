import DriftGuardX.Json.Value
import DriftGuardX.Recovery.StateMachine

/-!
# Recovery actions

The allowlist of recovery actions with the names of their parameters, and the proposals that ask
for one. The values of parameters are arbitrary objects; what the package does with them is listed
in `PyValue`.
-/

namespace DriftGuardX.Recovery

open Json

/-- An integer of more digits is not converted to a text. -/
def maxStrDigits : ℕ := 4300

/-- An integer can be converted to a text. -/
def Writable (i : ℤ) : Prop := (Nat.toDigits 10 i.natAbs).length ≤ maxStrDigits

instance (i : ℤ) : Decidable (Writable i) := inferInstanceAs (Decidable (_ ≤ _))

/-- What is done with the value of a parameter. -/
class PyValue (V : Type) (F : outParam Type) where
  str : String → V
  int : ℤ → V
  bool : Bool → V
  none : V
  /-- Equality, as dictionaries and sets test it. -/
  eq : V → V → Bool
  eq_equivalence : Equivalence fun v w ↦ eq v w = true
  hashable : V → Bool
  typeName : V → String
  truthy : V → Bool
  truthy_bool : ∀ b, truthy (bool b) = b
  /-- `int(value)`. -/
  toInt : V → Except Raised ℤ
  /-- The value, if it is a string. -/
  toStr : V → Option String
  toStr_str : ∀ s, toStr (str s) = some s
  repr : V → String
  /-- All integers in the value can be converted to a text. -/
  writable : V → Bool
  writable_int : ∀ i, writable (int i) = decide (Writable i)
  /-- The value as an encoder sees it that writes unknown objects as strings. -/
  toVal : V → Val F
  /-- The value as an encoder sees it when it is the key of a dictionary. -/
  toKey : V → Key F

/-- A truth value is equal to a number. -/
def numeric : Scalar Empty → Scalar Empty
  | .bool b => .int (if b then 1 else 0)
  | v => v

/-- The scalars without floats, with `repr` for the strings that need no escapes. -/
instance : PyValue (Scalar Empty) Empty where
  str := .str
  int := .int
  bool := .bool
  none := .null
  eq v w := numeric v = numeric w
  eq_equivalence :=
    ⟨fun _ ↦ decide_eq_true rfl, fun h ↦ decide_eq_true (of_decide_eq_true h).symm,
      fun h h' ↦ decide_eq_true ((of_decide_eq_true h).trans (of_decide_eq_true h'))⟩
  hashable _ := true
  typeName
    | .null => "NoneType"
    | .bool _ => "bool"
    | .int _ => "int"
    | .float _ => "float"
    | .str _ => "str"
  truthy
    | .null => false
    | .bool b => b
    | .int i => i ≠ 0
    | .float f => f.elim
    | .str s => s ≠ ""
  truthy_bool _ := rfl
  toInt
    | .null => .error ⟨.typeError, "int() argument must be a string, a bytes-like object or a " ++
        "real number, not 'NoneType'"⟩
    | .bool b => .ok (if b then 1 else 0)
    | .int i => .ok i
    | .float f => f.elim
    | .str s => s.toInt?.elim
        (.error ⟨.valueError, "invalid literal for int() with base 10: '" ++ s ++ "'"⟩) .ok
  toStr
    | .str s => some s
    | _ => .none
  toStr_str _ := rfl
  repr
    | .null => "None"
    | .bool b => if b then "True" else "False"
    | .int i => toString i
    | .float f => f.elim
    | .str s => "'" ++ s ++ "'"
  writable
    | .int i => Writable i
    | _ => true
  writable_int _ := rfl
  toVal := .scalar
  toKey
    | .null => .none
    | .bool b => .bool b
    | .int i => .int i
    | .float f => .float f
    | .str s => .str s

/-- A dictionary with string keys. -/
abbrev Dict (V : Type) := List (String × V)

section Values

variable {V F : Type} [PyValue V F]

/-- `repr` of a string. -/
def reprStr (V : Type) {F : Type} [PyValue V F] (s : String) : String :=
  PyValue.repr (PyValue.str s : V)

def Dict.get? (d : Dict V) (k : String) : Option V := (d.find? fun m ↦ m.1 = k).map Prod.snd

/-- `d[k]`. -/
def Dict.item (d : Dict V) (k : String) : Except Raised V :=
  match d.get? k with
  | some v => .ok v
  | Option.none => .error ⟨.keyError, reprStr V k⟩

/-- `str(d)`. -/
def Dict.text (d : Dict V) : String :=
  "\x7b" ++ ", ".intercalate (d.map fun m ↦ reprStr V m.1 ++ ": " ++ PyValue.repr m.2) ++ "\x7d"

/-- A value that is looked up or stored has to be hashable. -/
def requireHashable (v : V) : Except Raised Unit :=
  if PyValue.hashable v then .ok ()
  else .error ⟨.typeError, "unhashable type: '" ++ PyValue.typeName v ++ "'"⟩

def limitError : Raised := ⟨.valueError, "Exceeds the limit (4300 digits) for integer string " ++
  "conversion; use sys.set_int_max_str_digits() to increase the limit"⟩

/-- `str` of an integer. -/
def intStr (i : ℤ) : Except Raised String :=
  if Writable i then .ok (toString i) else .error limitError

/-- A dictionary that is converted to a text holds no integer that is too long. -/
def requireWritable (d : Dict V) : Except Raised Unit :=
  if ∀ m ∈ d, PyValue.writable m.2 = true then .ok () else .error limitError

end Values

inductive RecoveryActionType where
  | increaseTopK
  | retryHybridRetrieval
  | switchStableIndex
  | rerank
  | routeStableModel
  | disableTestTool
  | quarantineMemoryNs
  | quarantineProvenancePartition
  | revertPromptVersion
  | rollbackComponent
  deriving DecidableEq, Repr

def RecoveryActionType.value : RecoveryActionType → String
  | increaseTopK => "increase_top_k"
  | retryHybridRetrieval => "retry_hybrid_retrieval"
  | switchStableIndex => "switch_stable_index"
  | rerank => "rerank"
  | routeStableModel => "route_stable_model"
  | disableTestTool => "disable_test_tool"
  | quarantineMemoryNs => "quarantine_memory_ns"
  | quarantineProvenancePartition => "quarantine_provenance_partition"
  | revertPromptVersion => "revert_prompt_version"
  | rollbackComponent => "rollback_component"

/-- The action type with a value. -/
def RecoveryActionType.ofValue (value : String) : Option RecoveryActionType :=
  [increaseTopK, retryHybridRetrieval, switchStableIndex, rerank, routeStableModel, disableTestTool,
    quarantineMemoryNs, quarantineProvenancePartition, revertPromptVersion, rollbackComponent].find?
    fun t ↦ t.value = value

theorem RecoveryActionType.ofValue_value (t : RecoveryActionType) : ofValue t.value = some t := by
  cases t <;> decide

inductive ExecutionMode where
  | dryRun
  | simulation
  | manual
  | approved
  deriving DecidableEq, Repr

/-- What the validation reads of a definition. -/
structure ActionDefinition where
  requiredParams : List String
  optionalParams : List String

/-- Every action type is registered. -/
def actionRegistry : RecoveryActionType → ActionDefinition
  | .increaseTopK => ⟨["component_id", "new_top_k"], ["max_allowed_top_k"]⟩
  | .retryHybridRetrieval => ⟨["component_id", "strategy"], ["alpha"]⟩
  | .switchStableIndex => ⟨["component_id", "target_index_id"], ["verify_checksum"]⟩
  | .rerank => ⟨["component_id", "reranker_id"], ["top_n"]⟩
  | .routeStableModel => ⟨["component_id", "stable_model_alias"], ["max_tokens"]⟩
  | .disableTestTool => ⟨["tool_id"], ["reason"]⟩
  | .quarantineMemoryNs => ⟨["namespace_id", "tenant_id"], ["ttl_hours"]⟩
  | .quarantineProvenancePartition =>
    ⟨["partition_id"], ["document_set", "tool_route", "preserve_challenge_examples"]⟩
  | .revertPromptVersion => ⟨["prompt_id", "target_version_tag"], ["reason"]⟩
  | .rollbackComponent =>
    ⟨["component_id", "target_version_id", "expected_current_version_id"], ["dry_run"]⟩

/-- What the engine and the executor read of a proposal. -/
structure RecoveryProposal (V : Type) where
  actionType : RecoveryActionType
  tenantId : String
  requesterId : String
  params : Dict V
  executionMode : ExecutionMode
  idempotencyKey : String
  expectedVersionId : Option String
  proposalId : String
  policyDecision : Option String
  approvalRequestId : Option String
  admissionReceiptId : Option String
  admissionBinding : Dict V

/-- A text that is neither missing nor empty. -/
def nonempty : Option String → Option String
  | some "" => none
  | s => s

/-- The list of validation errors. -/
def RecoveryProposal.validateParams {V F : Type} [PyValue V F] (proposal : RecoveryProposal V) :
    List String :=
  let defn := actionRegistry proposal.actionType
  let names := proposal.params.map Prod.fst
  ((defn.requiredParams.filter fun r ↦ r ∉ names).map fun r ↦
      "Missing required param: " ++ reprStr V r) ++
    ((names.filter fun k ↦ k ∉ defn.requiredParams ++ defn.optionalParams).map fun k ↦
      "Unknown param: " ++ reprStr V k ++ " (not in allowlist)")

end DriftGuardX.Recovery
