import DriftGuardX.Foundation.Program
import DriftGuardX.Recovery.StateMachine
import DriftGuardX.Json.Value

/-!
# The agent pipeline

Agents take turns on a shared state. Each says which agent is next, and an agent that raises is
followed by the orchestrator. Before its turn, an agent that is quarantined is replaced by another
one. The loop ends when the response is given or after a number of hops.

What the retriever, the language model and the tools come to is given for each hop. The pipeline is
run without a trace.
-/

namespace DriftGuardX.Agents

open Json Program
open Recovery (Raised)

variable {F : Type}

/-! ## The state -/

/-- The names of the agents. No agent routes to another name, so that none is unknown. -/
inductive AgentName where
  | orchestrator
  | retrieval
  | fallback
  | reasoning
  | tool
  | verifier
  | policy
  | response
  deriving DecidableEq, Repr

def AgentName.value : AgentName → String
  | orchestrator => "orchestrator"
  | retrieval => "retrieval"
  | fallback => "fallback"
  | reasoning => "reasoning"
  | tool => "tool"
  | verifier => "verifier"
  | policy => "policy"
  | response => "response"

/-- A message of the assistant. -/
structure AgentMessage where
  content : String
  name : AgentName
  deriving DecidableEq, Repr

/-- A turn of an agent. -/
structure AgentInvocation where
  agentName : AgentName
  outputMessage : AgentMessage
  error : Option String
  deriving DecidableEq, Repr

/-- What is in memory under the keys that the agents write. The keys `permissions`,
`corpus_version_id` and `db`, which nobody writes, are missing. -/
structure Context (F : Type) where
  error : Option String := none
  retrievedDocs : Option (List (Val F)) := none
  llmMetadata : Option (Val F) := none
  reasoning : Option (Val F) := none
  toolResults : Option (Val F) := none
  forceRetry : Option Bool := none
  verified : Option Bool := none
  policyDecision : Option String := none
  policyRuleId : Option String := none

structure ReferenceState (F : Type) where
  query : String
  context : Context F
  history : List AgentMessage
  currentAgent : AgentName
  isFinished : Bool
  finalResponse : Option String
  invocations : List AgentInvocation

/-- The state at the start. -/
def ReferenceState.start (query : String) : ReferenceState F where
  query
  context := {}
  history := []
  currentAgent := .orchestrator
  isFinished := false
  finalResponse := none
  invocations := []

/-! ## Values -/

/-- Functions of the language: whether a float is a zero, `str` of a value, the name of its type,
and `str.lower`. -/
structure AgentLibrary (F : Type) where
  isZero : F → Bool
  str : Val F → String
  typeName : Val F → String
  lower : String → String

section Values

variable (lib : AgentLibrary F)

/-- Whether a value is true as a condition. -/
def truthy : Val F → Bool
  | .none | .bool false | .int 0 | .str "" | .list [] | .dict [] => false
  | .float x => !lib.isZero x
  | _ => true

/-- `value or default`, for a value that may be missing. -/
def orElse (value : Option (Val F)) (default : Val F) : Val F :=
  match value with
  | some v => if truthy lib v then v else default
  | none => default

/-- `len` -/
def length : Val F → Except Raised ℕ
  | .str s => .ok s.length
  | .list xs => .ok xs.length
  | .dict kvs => .ok kvs.length
  | v => .error ⟨.typeError, s!"object of type '{lib.typeName v}' has no len()"⟩

/-- `value.lower()` -/
def lowered : Val F → Except Raised String
  | .str s => .ok (lib.lower s)
  | v => .error ⟨.attributeError, s!"'{lib.typeName v}' object has no attribute 'lower'"⟩

/-- `isinstance(value, dict)` -/
def isDict : Val F → Bool
  | .dict _ => true
  | _ => false

/-- A value is a dictionary with a text under a key. -/
def hasText (key text : String) : Val F → Bool
  | .dict kvs => kvs.any fun
    | (.str k, .str s) => k = key ∧ s = text
    | _ => false
  | _ => false

/-- `part in text` -/
def Mentions (part text : String) : Prop := part.toList <:+: text.toList

instance (part text : String) : Decidable (Mentions part text) :=
  inferInstanceAs (Decidable (_ <:+: _))

end Values

/-! ## Collaborators -/

/-- A call that is made again when it raises a `RuntimeError`. -/
def retried {α : Type} (call : ℕ → Except Raised α) : Except Raised α :=
  match call 0 with
  | .error ⟨.runtimeError, _⟩ => call 1
  | result => result

/-- What a language model answers: a response, or a dictionary. -/
inductive LlmAnswer (F : Type) where
  | response (text metadata : Val F)
  | dict (text modelMetadata : Option (Val F))

def LlmAnswer.text : LlmAnswer F → Val F
  | response text _ => text
  | dict text _ => text.getD (.str "Reasoning produced.")

def LlmAnswer.metadata : LlmAnswer F → Val F
  | response _ metadata => metadata
  | dict _ modelMetadata => modelMetadata.getD (.object [])

/-- A pipeline: what its retriever and its language model come to at a hop and an attempt, and its
tools at a hop. -/
structure AgentPipeline (F : Type) where
  retrieve : Option (ℕ → ℕ → (query corpusVersionId : String) → (topK : ℤ) →
    Except Raised (List (Val F)))
  generate : Option (ℕ → ℕ → (prompt : String) → Except Raised (LlmAnswer F))
  executeToolSync : ℕ → (name : String) → (userPermissions : List String) →
    (kwargs : List (String × Val F)) → Except Raised (Val F)
  realMode : Bool

/-! ## The policy gate -/

inductive PolicyAction where
  | allow
  | deny
  | needsApproval
  deriving DecidableEq, Repr

def PolicyAction.value : PolicyAction → String
  | allow => "allow"
  | deny => "deny"
  | needsApproval => "needs_approval"

def alwaysDenyActions : List String :=
  ["delete_memory", "mutate_production_kb", "grant_permissions", "execute_arbitrary_shell",
    "modify_external_system", "publish_source_code", "delete_trace", "overwrite_experiment"]

def needsApprovalActions : List String :=
  ["apply_rollback", "create_replay", "apply_repair_decision", "apply_intervention",
    "mutate_staging_kb"]

def alwaysAllowActions : List String :=
  ["read_trace", "list_runs", "get_run", "get_replay", "read_diagnosis", "health_check",
    "ingest_spans", "create_run"]

/-- The action and the rule of `evaluate_policy`. -/
def evaluatePolicy (lib : AgentLibrary F) (action : String) : PolicyAction × String :=
  let action := lib.lower action
  if action ∈ alwaysDenyActions then (.deny, "ALWAYS_DENY")
  else if action ∈ alwaysAllowActions then (.allow, "ALWAYS_ALLOW")
  else if action ∈ needsApprovalActions then (.needsApproval, "NEEDS_HUMAN_APPROVAL")
  else (.deny, "DEFAULT_DENY")

/-! ## The agents -/

/-- A turn of an agent on the state. -/
abbrev Turn (F : Type) := Program (ReferenceState F) Raised

/-- `write_memory` -/
def writeMemory (write : Context F → Context F) : Turn F Unit :=
  modify fun state ↦ { state with context := write state.context }

/-- The next agent. -/
def route (name : AgentName) : Turn F Unit :=
  modify fun state ↦ { state with currentAgent := name }

section Agents

variable (lib : AgentLibrary F) (pipeline : AgentPipeline F) (hop : ℕ)

def orchestratorProcess : Turn F String := do
  let state ← get
  if state.context.error.any (· ≠ "") then
    route .response
    return "Routing to response due to error."
  else
    route .retrieval
    return "Routing to retrieval."

/-- The documents that are found without a retriever. -/
def defaultDocs : List (Val F) :=
  [.str "Doc 1: The system is healthy.", .str "Doc 2: Policies require approval."]

def retrievalProcess : Turn F String := do
  let state ← get
  if pipeline.realMode ∧ pipeline.retrieve.isNone then
    raise ⟨.valueError, "real_mode=True requires a valid retriever instance."⟩
  else if state.query = "empty_search" then
    writeMemory fun context ↦ { context with retrievedDocs := some [] }
    route .fallback
    return "No documents. Routing to fallback."
  else
    match pipeline.retrieve with
    | some retrieve =>
      let docs ← ofExcept (retried fun attempt ↦ retrieve hop attempt state.query "v1" 5)
      if docs.isEmpty then
        writeMemory fun context ↦ { context with retrievedDocs := some [] }
        route .fallback
        return "No documents retrieved from index. Routing to fallback."
      else
        writeMemory fun context ↦ { context with retrievedDocs := some docs }
        route .reasoning
        return s!"Retrieved {docs.length} documents from real retriever."
    | none =>
      if pipeline.realMode then
        raise ⟨.runtimeError, "Fallback retrieval is not allowed in real_mode."⟩
      else
        writeMemory fun context ↦ { context with retrievedDocs := some defaultDocs }
        route .reasoning
        return s!"Retrieved {(defaultDocs (F := F)).length} documents."

def fallbackProcess : Turn F String := do
  writeMemory fun context ↦
    { context with reasoning := some (.str "Fallback triggered. Using general knowledge.") }
  route .tool
  return "Fallback complete."

/-- What the language model is asked. -/
def promptFor (query : String) (docs : List (Val F)) : String :=
  s!"Analyze the query '{query}' using context:\n" ++
    "\n".intercalate (docs.map fun d ↦ s!"- {lib.str d}")

def reasoningProcess : Turn F String := do
  let state ← get
  if pipeline.realMode ∧ pipeline.generate.isNone then
    raise ⟨.valueError, "real_mode=True requires a valid LLM instance."⟩
  else
    match pipeline.generate with
    | some generate =>
      let prompt := promptFor lib state.query (state.context.retrievedDocs.getD [])
      let answer ← ofExcept (retried fun attempt ↦ generate hop attempt prompt)
      if truthy lib answer.metadata then
        writeMemory fun context ↦ { context with llmMetadata := some answer.metadata }
      writeMemory fun context ↦ { context with reasoning := some answer.text }
      route .tool
      return s!"LLM Reasoning complete: {lib.str answer.text}"
    | none =>
      if pipeline.realMode then
        raise ⟨.runtimeError, "Fallback reasoning is not allowed in real_mode."⟩
      else
        writeMemory fun context ↦ { context with
          reasoning := some (.str "Based on docs, the system is healthy but policy applies.") }
        route .tool
        return "Reasoning complete."

/-- The tool for a query and its arguments. -/
def toolCall (query : String) : String × List (String × Val F) :=
  if Mentions "calculate" (lib.lower query) then ("calculator", [("expression", .str "2 + 2")])
  else if Mentions "metric" (lib.lower query) then
    ("fetch_metrics", [("service_name", .str "rag_service")])
  else ("health_check_api", [])

/-- The result of a tool. Its exceptions are results, but not in real mode. -/
def toolResult (query : String) : Except Raised (Val F) :=
  match pipeline.executeToolSync hop (toolCall lib query).1 [] (toolCall lib query).2 with
  | .ok result => .ok result
  | .error e =>
    if pipeline.realMode then .error ⟨.runtimeError, s!"Tool execution failed: {e.message}"⟩
    else .ok (.str s!"Error: {e.message}")

def toolProcess : Turn F String := do
  let state ← get
  let result ← ofExcept (toolResult lib pipeline hop state.query)
  writeMemory fun context ↦ { context with toolResults := some result }
  route .verifier
  return s!"Tool execution ({(toolCall lib state.query).1}) complete: {lib.str result}"

/-- The result of a tool that strict verification accepts. -/
def acceptable (toolRes : Val F) : Bool := isDict toolRes ∨ ¬ Mentions "Error" (lib.str toolRes)

/-- Whether the documents, the result of the tool or the reasoning support the answer. -/
def isSupported (docs : List (Val F)) (toolRes reasoning : Val F) : Except Raised Bool :=
  if hasText "status" "healthy" toolRes ∨ hasText "health_check" "OK" toolRes ∨ docs.length > 0 then
    .ok true
  else do
    let n ← length lib reasoning
    return n > 0

def verifierProcess : Turn F String := do
  let state ← get
  if state.context.forceRetry = some true then
    writeMemory fun context ↦ { context with forceRetry := some false }
    route .reasoning
    return "Verification failed. Retrying reasoning."
  else
    let docs := state.context.retrievedDocs.getD []
    let toolRes := orElse lib state.context.toolResults (.object [])
    let reasoning := orElse lib state.context.reasoning (.str "")
    if pipeline.realMode then
      if docs.length > 0 ∧ acceptable lib toolRes then
        writeMemory fun context ↦ { context with verified := some true }
        route .policy
        return "Output verified against constraints."
      else
        route .fallback
        return "Verification strict failure in real mode."
    else
      let supported ← ofExcept (isSupported lib docs toolRes reasoning)
      writeMemory fun context ↦ { context with verified := some supported }
      route .policy
      return "Output verified against constraints."

def policyProcess : Turn F String := do
  let state ← get
  let outcome := evaluatePolicy lib state.query
  writeMemory fun context ↦ { context with policyDecision := some outcome.1.value }
  writeMemory fun context ↦ { context with policyRuleId := some outcome.2 }
  route .response
  return s!"Policy evaluated: {outcome.1.value}."

/-- The answer that is given for what is in memory. -/
def finalAnswer (context : Context F) : Except Raised String :=
  let reasoning := orElse lib context.reasoning (.str "")
  let toolRes := orElse lib context.toolResults (.object [])
  if pipeline.realMode then
    if context.verified = some true then
      .ok s!"Generated Response from real state:\n{lib.str reasoning}\nTools: {lib.str toolRes}"
    else .ok "Error: Constraints verification failed."
  else do
    let text ← lowered lib reasoning
    if Mentions "healthy" text ∧ hasText "health_check" "OK" toolRes ∧ context.verified = some true then
      return "The system is healthy and verified."
    else if truthy lib reasoning then return s!"Response synthesized: {lib.str reasoning}"
    else return "System status processed."

def responseProcess : Turn F String := do
  let state ← get
  let answer ← ofExcept (finalAnswer lib pipeline state.context)
  modify fun state ↦ { state with finalResponse := some answer, isFinished := true }
  return answer

/-- `self.agents` -/
def process : AgentName → Turn F String
  | .orchestrator => orchestratorProcess
  | .retrieval => retrievalProcess pipeline hop
  | .fallback => fallbackProcess
  | .reasoning => reasoningProcess lib pipeline hop
  | .tool => toolProcess lib pipeline hop
  | .verifier => verifierProcess lib pipeline
  | .policy => policyProcess lib
  | .response => responseProcess lib pipeline

/-! ## The run -/

/-- `execute`: an agent that raises is followed by the orchestrator. -/
def execute (name : AgentName) (state : ReferenceState F) : ReferenceState F :=
  match process lib pipeline hop name state with
  | (.ok output, state) =>
    { state with
      history := state.history ++ [⟨output, name⟩]
      invocations := state.invocations ++ [⟨name, ⟨output, name⟩, none⟩] }
  | (.error e, state) =>
    { state with
      currentAgent := .orchestrator
      invocations :=
        state.invocations ++ [⟨name, ⟨s!"Error: {e.message}", name⟩, some e.message⟩] }

variable (quarantinedAgents : List String)

/-- The agent that takes the turn of a quarantined one. -/
def standIn : AgentName → AgentName
  | .orchestrator => .response
  | _ => .fallback

/-- The redirection of a quarantined agent. -/
def redirect (state : ReferenceState F) : ReferenceState F :=
  if state.currentAgent.value ∈ quarantinedAgents then
    { state with
      context := { state.context with
        error := some s!"Agent {state.currentAgent.value} is quarantined." }
      currentAgent := standIn state.currentAgent }
  else state

/-- A hop of the loop. -/
def nextHop (state : ReferenceState F) : ReferenceState F :=
  execute lib pipeline hop (redirect quarantinedAgents state).currentAgent
    (redirect quarantinedAgents state)

/-- The loop, with the hops that are left: the hops that were made, and the state. -/
def loop : ℕ → ℕ → ReferenceState F → ℕ × ReferenceState F
  | hops, 0, state => (hops, state)
  | hops, left + 1, state =>
    if state.isFinished then (hops, state)
    else loop (hops + 1) left (nextHop lib pipeline hops quarantinedAgents state)

/-- `run` -/
def run (query : String) (maxHops : ℤ) : ReferenceState F :=
  let (hops, state) := loop lib pipeline quarantinedAgents 0 maxHops.toNat (.start query)
  if maxHops ≤ hops then
    { state with isFinished := true, finalResponse := some "Error: Max hops exceeded." }
  else state

end Agents

end DriftGuardX.Agents
