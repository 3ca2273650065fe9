import DriftGuardX.Agents.Pipeline
import DriftGuardX.Foundation.Runs
import DriftGuardX.Foundation.Transaction
import Mathlib.Data.List.Range

/-!
# The way through the agents

Which agent is next depends on little: whether one was redirected before, the documents, whether the
result of the tool is acceptable in real mode, and whether the reasoning is a text. The way is a
transition system on these (`advance`), with the hops as its events. It ends where the response is
given.

The loop follows it (`loop_spec`): the agents that are executed are those on the way.
-/

namespace DriftGuardX.Agents

open Json Program Transaction
open Recovery (Raised)

variable {F : Type}

/-! ## The way -/

/-- What the next agents depend on. -/
structure Standing (F : Type) where
  agent : AgentName
  redirected : Bool
  docs : List (Val F)
  acceptable : Bool
  readable : Bool

section Way

variable (lib : AgentLibrary F) (pipeline : AgentPipeline F) (quarantinedAgents : List String)
  (query : String)

def isText : Val F → Bool
  | .str _ => true
  | _ => false

/-- What memory says about the way. -/
def ReferenceState.standing (state : ReferenceState F) : Standing F where
  agent := state.currentAgent
  redirected := state.context.error.any (· ≠ "")
  docs := state.context.retrievedDocs.getD []
  acceptable := Agents.acceptable lib (orElse lib state.context.toolResults (.object []))
  readable := isText (orElse lib state.context.reasoning (.str ""))

/-- The documents that are found, unless the search raises. -/
def found (hop : ℕ) : Option (List (Val F)) :=
  match pipeline.retrieve with
  | some retrieve =>
    if query = "empty_search" then some []
    else (retried fun attempt ↦ retrieve hop attempt query "v1" 5).toOption
  | none =>
    if pipeline.realMode then none
    else if query = "empty_search" then some []
    else some defaultDocs

/-- What the language model makes of documents, unless it raises. -/
def thought (hop : ℕ) (docs : List (Val F)) : Option (Val F) :=
  match pipeline.generate with
  | some generate =>
    (retried fun attempt ↦ generate hop attempt (promptFor lib query docs)).toOption.map
      LlmAnswer.text
  | none =>
    if pipeline.realMode then none
    else some (.str "Based on docs, the system is healthy but policy applies.")

/-- Where an agent leads that is not quarantined. The response leads nowhere. -/
def Standing.exit (hop : ℕ) (w : Standing F) : Option (Standing F) :=
  match w.agent with
  | .orchestrator => some { w with agent := if w.redirected then .response else .retrieval }
  | .retrieval => some <|
    match found pipeline query hop with
    | none => { w with agent := .orchestrator }
    | some [] => { w with agent := .fallback, docs := [] }
    | some (doc :: docs) => { w with agent := .reasoning, docs := doc :: docs }
  | .fallback => some { w with agent := .tool, readable := true }
  | .reasoning => some <|
    match thought lib pipeline query hop w.docs with
    | none => { w with agent := .orchestrator }
    | some text =>
      { w with agent := .tool, readable := isText (orElse lib (some text) (.str "")) }
  | .tool => some <|
    match toolResult lib pipeline hop query with
    | .error _ => { w with agent := .orchestrator }
    | .ok result => { w with
        agent := .verifier
        acceptable := Agents.acceptable lib (orElse lib (some result) (.object [])) }
  | .verifier =>
    some { w with
      agent := if pipeline.realMode ∧ (w.docs = [] ∨ ¬ w.acceptable) then .fallback else .policy }
  | .policy => some { w with agent := .response }
  | .response =>
    if pipeline.realMode ∨ w.readable then none else some { w with agent := .orchestrator }

/-- The agent whose turn it is, or the one that takes its turn. -/
def Standing.entered (w : Standing F) : Standing F :=
  if w.agent.value ∈ quarantinedAgents then
    { w with agent := standIn w.agent, redirected := true }
  else w

/-- A hop on the way. -/
def advance (w : Standing F) (hop : ℕ) : Option (Standing F) :=
  (w.entered quarantinedAgents).exit lib pipeline query hop

/-- The start of the way. -/
def Standing.start : Standing F where
  agent := .orchestrator
  redirected := false
  docs := []
  acceptable := true
  readable := true

/-- The way after a number of hops, if it has not ended. -/
def way (hops : ℕ) : Option (Standing F) :=
  Runs.run (advance lib pipeline quarantinedAgents query) .start (List.range hops)

end Way

/-! ## A turn of an agent -/

section Turns

variable (lib : AgentLibrary F) (pipeline : AgentPipeline F) (hop : ℕ)

/-- What holds of memory before each turn. Nobody asks for a retry, the reasoning agent has documents,
and reasoning that is no text was made of documents. -/
structure Sound (state : ReferenceState F) : Prop where
  retry : state.context.forceRetry ≠ some true
  documented : state.currentAgent = .reasoning → state.context.retrievedDocs.getD [] ≠ []
  supported : state.currentAgent = .fallback ∨ state.context.retrievedDocs.getD [] ≠ [] ∨
    (state.standing lib).readable = true

/-- A turn makes an invocation. It leads on, or it gives the response. -/
inductive Follows (state : ReferenceState F) :
    Option (Standing F) → ReferenceState F → Prop where
  | leads (w : Standing F) (state' : ReferenceState F) (invocation : AgentInvocation)
      (hinvocations : state'.invocations = state.invocations ++ [invocation])
      (hname : invocation.agentName = state.currentAgent)
      (hfailed : invocation.agentName = .response → invocation.error ≠ none)
      (hstanding : state'.standing lib = w) (hsound : Sound lib state')
      (hfinished : state'.isFinished = state.isFinished) (hquery : state'.query = state.query) :
      Follows state (some w) state'
  | responds (state' : ReferenceState F) (invocation : AgentInvocation)
      (hinvocations : state'.invocations = state.invocations ++ [invocation])
      (hname : invocation.agentName = state.currentAgent)
      (hresponse : invocation.agentName = .response) (herror : invocation.error = none)
      (hfinal : state'.finalResponse = some invocation.outputMessage.content)
      (hcontent : invocation.outputMessage.content ≠ "Error: Max hops exceeded.")
      (hfinished : state'.isFinished = true) :
      Follows state none state'

variable {lib pipeline hop} {state : ReferenceState F}

theorem follows_of_ok {w : Standing F} (hne : state.currentAgent ≠ .response)
    (context : Context F) (next : AgentName)
    (hprocess : ∃ output, process lib pipeline hop state.currentAgent state
      = (.ok output, { state with context, currentAgent := next }))
    (hstanding : ({ state with context, currentAgent := next } : ReferenceState F).standing lib = w)
    (hsound : Sound lib { state with context, currentAgent := next }) :
    Follows lib state (some w) (execute lib pipeline hop state.currentAgent state) := by
  obtain ⟨output, hprocess⟩ := hprocess
  rw [execute, hprocess]
  exact .leads w _ _ rfl rfl (fun h ↦ absurd h hne) hstanding ⟨hsound.retry, hsound.documented, hsound.supported⟩ rfl rfl

theorem follows_of_error {w : Standing F}
    (hprocess : ∃ e, process lib pipeline hop state.currentAgent state = (.error e, state))
    (hstanding : { state.standing lib with agent := .orchestrator } = w)
    (hsound : Sound lib state) (hne : state.currentAgent ≠ .fallback) :
    Follows lib state (some w) (execute lib pipeline hop state.currentAgent state) := by
  obtain ⟨e, hprocess⟩ := hprocess
  rw [execute, hprocess]
  refine .leads w _ _ rfl rfl nofun hstanding ⟨hsound.retry, nofun, ?_⟩ rfl rfl
  exact Or.inr (hsound.supported.resolve_left hne)

theorem follows_orchestrator (hagent : state.currentAgent = .orchestrator)
    (hsound : Sound lib state) :
    Follows lib state ((state.standing lib).exit lib pipeline state.query hop)
      (execute lib pipeline hop state.currentAgent state) := by
  have hsupported := hsound.supported.resolve_left (by rw [hagent]; nofun)
  have hagent' : (state.standing lib).agent = .orchestrator := hagent
  have hother : state.currentAgent ≠ .response := by rw [hagent]; nofun
  rw [Standing.exit, hagent']
  by_cases herror : (state.context.error.any (· ≠ "")) = true
  · have hredirected : (state.standing lib).redirected = true := herror
    refine follows_of_ok hother state.context .response ⟨"Routing to response due to error.", ?_⟩ ?_
      ⟨hsound.retry, nofun, .inr hsupported⟩
    · rw [hagent, process, orchestratorProcess, bind_of_ok get_apply, if_pos herror]
      rfl
    · rw [if_pos hredirected]
      rfl
  · have hredirected : ¬ (state.standing lib).redirected = true := herror
    refine follows_of_ok hother state.context .retrieval ⟨"Routing to retrieval.", ?_⟩ ?_
      ⟨hsound.retry, nofun, .inr hsupported⟩
    · rw [hagent, process, orchestratorProcess, bind_of_ok get_apply, if_neg herror]
      rfl
    · rw [if_neg hredirected]
      rfl

variable (lib pipeline hop state) in
/-- The retrieval agent raises, or writes the documents that are found. -/
theorem process_retrieval :
    (found pipeline state.query hop = none ∧
      ∃ e, process lib pipeline hop .retrieval state = (.error e, state)) ∨
    ∃ docs output, found pipeline state.query hop = some docs ∧
      process lib pipeline hop .retrieval state = (.ok output, { state with
        context := { state.context with retrievedDocs := some docs }
        currentAgent := if docs = [] then .fallback else .reasoning }) := by
  rw [process, retrievalProcess, bind_of_ok get_apply, found]
  cases hretrieve : pipeline.retrieve with
  | none =>
    by_cases hreal : pipeline.realMode = true
    · exact .inl ⟨if_pos hreal, _, by rw [if_pos ⟨hreal, rfl⟩]; rfl⟩
    · rw [if_neg (not_and_of_not_left _ hreal)]
      simp only [if_neg hreal]
      by_cases hempty : state.query = "empty_search"
      · exact .inr ⟨[], _, if_pos hempty, by rw [if_pos hempty]; rfl⟩
      · exact .inr ⟨defaultDocs, _, if_neg hempty, by rw [if_neg hempty]; rfl⟩
  | some retrieve =>
    have hguard : ¬ (pipeline.realMode = true ∧ (some retrieve).isNone = true) := fun h ↦ nomatch h.2
    rw [if_neg hguard]
    by_cases hempty : state.query = "empty_search"
    · exact .inr ⟨[], _, if_pos hempty, by rw [if_pos hempty]; rfl⟩
    · simp only [if_neg hempty]
      cases hcall : retried fun attempt ↦ retrieve hop attempt state.query "v1" 5 with
      | error e => exact .inl ⟨rfl, e, ofExcept_bind_of_error rfl⟩
      | ok docs =>
        rw [ofExcept_bind_of_ok rfl]
        cases docs with
        | nil => exact .inr ⟨[], _, rfl, rfl⟩
        | cons doc docs => exact .inr ⟨doc :: docs, _, rfl, rfl⟩

variable (lib pipeline hop state) in
/-- The reasoning agent raises, or writes what the language model makes of the documents. -/
theorem process_reasoning :
    (thought lib pipeline state.query hop (state.context.retrievedDocs.getD []) = none ∧
      ∃ e, process lib pipeline hop .reasoning state = (.error e, state)) ∨
    ∃ text metadata output,
      thought lib pipeline state.query hop (state.context.retrievedDocs.getD []) = some text ∧
      process lib pipeline hop .reasoning state = (.ok output, { state with
        context := { state.context with llmMetadata := metadata, reasoning := some text }
        currentAgent := .tool }) := by
  rw [process, reasoningProcess, bind_of_ok get_apply, thought]
  cases hgenerate : pipeline.generate with
  | none =>
    by_cases hreal : pipeline.realMode = true
    · exact .inl ⟨if_pos hreal, _, by rw [if_pos ⟨hreal, rfl⟩]; rfl⟩
    · rw [if_neg (not_and_of_not_left _ hreal)]
      simp only [if_neg hreal]
      exact .inr ⟨_, state.context.llmMetadata, _, rfl, rfl⟩
  | some generate =>
    have hguard : ¬ (pipeline.realMode = true ∧ (some generate).isNone = true) := fun h ↦ nomatch h.2
    rw [if_neg hguard]
    dsimp only
    cases hcall : retried fun attempt ↦ generate hop attempt
        (promptFor lib state.query (state.context.retrievedDocs.getD [])) with
    | error e => exact .inl ⟨rfl, e, ofExcept_bind_of_error rfl⟩
    | ok answer =>
      rw [ofExcept_bind_of_ok rfl]
      by_cases hmetadata : truthy lib answer.metadata = true
      · rw [if_pos hmetadata]
        exact .inr ⟨answer.text, some answer.metadata, _, rfl, rfl⟩
      · rw [if_neg hmetadata]
        exact .inr ⟨answer.text, state.context.llmMetadata, _, rfl, rfl⟩

theorem follows_retrieval (hagent : state.currentAgent = .retrieval) (hsound : Sound lib state) :
    Follows lib state ((state.standing lib).exit lib pipeline state.query hop)
      (execute lib pipeline hop state.currentAgent state) := by
  have hagent' : (state.standing lib).agent = .retrieval := hagent
  have hother : state.currentAgent ≠ .response := by rw [hagent]; nofun
  have hne : state.currentAgent ≠ .fallback := by rw [hagent]; nofun
  rw [Standing.exit, hagent']
  rcases process_retrieval lib pipeline hop state with
    ⟨hfound, hprocess⟩ | ⟨docs, output, hfound, hprocess⟩
  · rw [hfound]
    exact follows_of_error (by rwa [hagent]) rfl hsound hne
  · rw [hfound]
    cases docs with
    | nil =>
      exact follows_of_ok hother { state.context with retrievedDocs := some [] } .fallback
        ⟨output, by rwa [hagent]⟩ rfl ⟨hsound.retry, nofun, .inl rfl⟩
    | cons doc docs =>
      have hdocs : doc :: docs ≠ [] := List.cons_ne_nil doc docs
      exact follows_of_ok hother { state.context with retrievedDocs := some (doc :: docs) } .reasoning
        ⟨output, by rwa [hagent]⟩ rfl ⟨hsound.retry, fun _ ↦ hdocs, .inr (.inl hdocs)⟩

theorem follows_reasoning (hagent : state.currentAgent = .reasoning) (hsound : Sound lib state) :
    Follows lib state ((state.standing lib).exit lib pipeline state.query hop)
      (execute lib pipeline hop state.currentAgent state) := by
  have hagent' : (state.standing lib).agent = .reasoning := hagent
  have hother : state.currentAgent ≠ .response := by rw [hagent]; nofun
  have hne : state.currentAgent ≠ .fallback := by rw [hagent]; nofun
  have hdocs : (state.standing lib).docs = state.context.retrievedDocs.getD [] := rfl
  rw [Standing.exit, hagent', hdocs]
  rcases process_reasoning lib pipeline hop state with
    ⟨hthought, hprocess⟩ | ⟨text, metadata, output, hthought, hprocess⟩
  · rw [hthought]
    exact follows_of_error (by rwa [hagent]) rfl hsound hne
  · rw [hthought]
    exact follows_of_ok hother { state.context with llmMetadata := metadata, reasoning := some text } .tool
      ⟨output, by rwa [hagent]⟩ rfl ⟨hsound.retry, nofun, .inr (.inl (hsound.documented hagent))⟩

theorem follows_fallback (hagent : state.currentAgent = .fallback) (hsound : Sound lib state) :
    Follows lib state ((state.standing lib).exit lib pipeline state.query hop)
      (execute lib pipeline hop state.currentAgent state) := by
  have hagent' : (state.standing lib).agent = .fallback := hagent
  have hother : state.currentAgent ≠ .response := by rw [hagent]; nofun
  rw [Standing.exit, hagent']
  exact follows_of_ok hother { state.context with
      reasoning := some (.str "Fallback triggered. Using general knowledge.") } .tool
    ⟨"Fallback complete.", by rw [hagent]; rfl⟩ rfl ⟨hsound.retry, nofun, .inr (.inr rfl)⟩

theorem follows_tool (hagent : state.currentAgent = .tool) (hsound : Sound lib state) :
    Follows lib state ((state.standing lib).exit lib pipeline state.query hop)
      (execute lib pipeline hop state.currentAgent state) := by
  have hagent' : (state.standing lib).agent = .tool := hagent
  have hother : state.currentAgent ≠ .response := by rw [hagent]; nofun
  have hne : state.currentAgent ≠ .fallback := by rw [hagent]; nofun
  rw [Standing.exit, hagent']
  cases hresult : toolResult lib pipeline hop state.query with
  | error e =>
    refine follows_of_error ⟨e, ?_⟩ rfl hsound hne
    rw [hagent, process, toolProcess, bind_of_ok get_apply, hresult, ofExcept_bind_of_error rfl]
  | ok result =>
    refine follows_of_ok hother { state.context with toolResults := some result } .verifier
      ⟨s!"Tool execution ({(toolCall lib state.query).1}) complete: {lib.str result}", ?_⟩ rfl
      ⟨hsound.retry, nofun, .inr (hsound.supported.resolve_left hne)⟩
    rw [hagent, process, toolProcess, bind_of_ok get_apply, hresult, ofExcept_bind_of_ok rfl]
    rfl

theorem follows_policy (hagent : state.currentAgent = .policy) (hsound : Sound lib state) :
    Follows lib state ((state.standing lib).exit lib pipeline state.query hop)
      (execute lib pipeline hop state.currentAgent state) := by
  have hagent' : (state.standing lib).agent = .policy := hagent
  have hother : state.currentAgent ≠ .response := by rw [hagent]; nofun
  have hne : state.currentAgent ≠ .fallback := by rw [hagent]; nofun
  rw [Standing.exit, hagent']
  refine follows_of_ok hother { state.context with
      policyDecision := some (evaluatePolicy lib state.query).1.value
      policyRuleId := some (evaluatePolicy lib state.query).2 } .response
    ⟨s!"Policy evaluated: {(evaluatePolicy lib state.query).1.value}.", ?_⟩ rfl
    ⟨hsound.retry, nofun, .inr (hsound.supported.resolve_left hne)⟩
  rw [hagent]
  rfl

theorem isSupported_eq_ok {docs : List (Val F)} {toolRes reasoning : Val F}
    (h : docs ≠ [] ∨ isText reasoning = true) :
    ∃ supported, isSupported lib docs toolRes reasoning = .ok supported := by
  rw [isSupported]
  split_ifs with hsupported
  · exact ⟨true, rfl⟩
  · have hdocs : docs = [] := by
      by_contra hne
      exact hsupported (.inr (.inr (List.length_pos_of_ne_nil hne)))
    have htext := h.resolve_left (not_not.mpr hdocs)
    rw [isText.eq_def] at htext
    split at htext
    · exact ⟨_, rfl⟩
    · exact nomatch htext

theorem follows_verifier (hagent : state.currentAgent = .verifier) (hsound : Sound lib state) :
    Follows lib state ((state.standing lib).exit lib pipeline state.query hop)
      (execute lib pipeline hop state.currentAgent state) := by
  have hagent' : (state.standing lib).agent = .verifier := hagent
  have hother : state.currentAgent ≠ .response := by rw [hagent]; nofun
  have hsupported := hsound.supported.resolve_left (by rw [hagent]; nofun)
  rw [Standing.exit, hagent']
  by_cases hreal : pipeline.realMode = true
  · by_cases hstrict : (state.context.retrievedDocs.getD []).length > 0 ∧
        Agents.acceptable lib (orElse lib state.context.toolResults (.object [])) = true
    · have hexit : ¬ (pipeline.realMode = true ∧
          ((state.standing lib).docs = [] ∨ ¬ (state.standing lib).acceptable = true)) := by
        rintro ⟨-, hnone | hfaulty⟩
        · exact List.ne_nil_of_length_pos hstrict.1 hnone
        · exact hfaulty hstrict.2
      rw [if_neg hexit]
      refine follows_of_ok hother { state.context with verified := some true } .policy
        ⟨"Output verified against constraints.", ?_⟩ rfl ⟨hsound.retry, nofun, .inr hsupported⟩
      rw [hagent, process, verifierProcess, bind_of_ok get_apply, if_neg hsound.retry, if_pos hreal,
        if_pos hstrict]
      rfl
    · have hexit : pipeline.realMode = true ∧
          ((state.standing lib).docs = [] ∨ ¬ (state.standing lib).acceptable = true) := by
        refine ⟨hreal, ?_⟩
        by_cases hdocs : (state.standing lib).docs = []
        · exact .inl hdocs
        · exact .inr fun haccepted ↦ hstrict ⟨List.length_pos_of_ne_nil hdocs, haccepted⟩
      rw [if_pos hexit]
      refine follows_of_ok hother state.context .fallback
        ⟨"Verification strict failure in real mode.", ?_⟩ rfl ⟨hsound.retry, nofun, .inr hsupported⟩
      rw [hagent, process, verifierProcess, bind_of_ok get_apply, if_neg hsound.retry, if_pos hreal,
        if_neg hstrict]
      rfl
  · obtain ⟨supported, hrun⟩ : ∃ supported, isSupported lib (state.context.retrievedDocs.getD [])
        (orElse lib state.context.toolResults (.object []))
        (orElse lib state.context.reasoning (.str "")) = .ok supported :=
      isSupported_eq_ok hsupported
    rw [if_neg (not_and_of_not_left _ hreal)]
    refine follows_of_ok hother { state.context with verified := some supported } .policy
      ⟨"Output verified against constraints.", ?_⟩ rfl ⟨hsound.retry, nofun, .inr hsupported⟩
    rw [hagent, process, verifierProcess, bind_of_ok get_apply, if_neg hsound.retry, if_neg hreal,
      hrun, ofExcept_bind_of_ok rfl]
    rfl

theorem lowered_eq_ok_iff {v : Val F} : (∃ text, lowered lib v = .ok text) ↔ isText v = true := by
  rw [lowered.eq_def, isText.eq_def]
  split
  · exact iff_of_true ⟨_, rfl⟩ rfl
  · exact iff_of_false (fun ⟨_, h⟩ ↦ nomatch h) (by simp)

theorem exists_finalAnswer_iff {context : Context F} :
    (∃ answer, finalAnswer lib pipeline context = .ok answer) ↔
      pipeline.realMode = true ∨ isText (orElse lib context.reasoning (.str "")) = true := by
  rw [← lowered_eq_ok_iff, finalAnswer]
  by_cases hreal : pipeline.realMode = true
  · refine iff_of_true ?_ (.inl hreal)
    rw [if_pos hreal]
    split_ifs
    · exact ⟨_, rfl⟩
    · exact ⟨_, rfl⟩
  · rw [if_neg hreal, or_iff_right hreal]
    cases hlowered : lowered lib (orElse lib context.reasoning (.str "")) with
    | error e => exact iff_of_false (fun ⟨_, h⟩ ↦ nomatch h) fun ⟨_, h⟩ ↦ nomatch h
    | ok text =>
      refine iff_of_true ?_ ⟨text, rfl⟩
      rw [ok_bind]
      split_ifs
      · exact ⟨_, rfl⟩
      · exact ⟨_, rfl⟩
      · exact ⟨_, rfl⟩

theorem finalAnswer_ne {context : Context F} {answer : String}
    (h : finalAnswer lib pipeline context = .ok answer) : answer ≠ "Error: Max hops exceeded." := by
  have hhead : ∀ text : String, text.toList.head? ≠ some 'E' →
      text ≠ "Error: Max hops exceeded." := by
    rintro text hhead rfl
    exact hhead rfl
  rw [finalAnswer] at h
  by_cases hreal : pipeline.realMode = true
  · rw [if_pos hreal] at h
    split_ifs at h with hverified
    · rw [← Except.ok.inj h]
      exact hhead _ (by simp [toString])
    · rw [← Except.ok.inj h]
      decide
  · rw [if_neg hreal] at h
    obtain ⟨text, -, h⟩ := bind_eq_ok_iff.mp h
    split_ifs at h
    · rw [← Except.ok.inj h]
      decide
    · rw [← Except.ok.inj h]
      exact hhead _ (by simp [toString])
    · rw [← Except.ok.inj h]
      decide

theorem follows_response (hagent : state.currentAgent = .response) (hsound : Sound lib state) :
    Follows lib state ((state.standing lib).exit lib pipeline state.query hop)
      (execute lib pipeline hop state.currentAgent state) := by
  have hagent' : (state.standing lib).agent = .response := hagent
  have hne : state.currentAgent ≠ .fallback := by rw [hagent]; nofun
  have hanswer : (∃ answer, finalAnswer lib pipeline state.context = .ok answer) ↔
      pipeline.realMode = true ∨ (state.standing lib).readable = true := exists_finalAnswer_iff
  rw [Standing.exit, hagent']
  cases hfinal : finalAnswer lib pipeline state.context with
  | error e =>
    have hexit : ¬ (pipeline.realMode = true ∨ (state.standing lib).readable = true) := by
      rw [← hanswer, hfinal]
      exact fun ⟨_, h⟩ ↦ nomatch h
    rw [if_neg hexit]
    refine follows_of_error ⟨e, ?_⟩ rfl hsound hne
    rw [hagent, process, responseProcess, bind_of_ok get_apply, hfinal, ofExcept_bind_of_error rfl]
  | ok answer =>
    have hprocess : process lib pipeline hop .response state
        = (.ok answer, { state with finalResponse := some answer, isFinished := true }) := by
      rw [process, responseProcess, bind_of_ok get_apply, hfinal, ofExcept_bind_of_ok rfl]
      rfl
    rw [if_pos (hanswer.mp ⟨answer, hfinal⟩), execute, hagent, hprocess]
    exact .responds _ _ rfl hagent.symm rfl rfl rfl (finalAnswer_ne hfinal) rfl

/-- **A turn** of an agent leads where its exit does. -/
theorem follows_execute (hsound : Sound lib state) :
    Follows lib state ((state.standing lib).exit lib pipeline state.query hop)
      (execute lib pipeline hop state.currentAgent state) := by
  cases hagent : state.currentAgent with
  | orchestrator => exact hagent ▸ follows_orchestrator hagent hsound
  | retrieval => exact hagent ▸ follows_retrieval hagent hsound
  | fallback => exact hagent ▸ follows_fallback hagent hsound
  | reasoning => exact hagent ▸ follows_reasoning hagent hsound
  | tool => exact hagent ▸ follows_tool hagent hsound
  | verifier => exact hagent ▸ follows_verifier hagent hsound
  | policy => exact hagent ▸ follows_policy hagent hsound
  | response => exact hagent ▸ follows_response hagent hsound

variable {quarantinedAgents : List String}

theorem standing_redirect : (redirect quarantinedAgents state).standing lib
    = (state.standing lib).entered quarantinedAgents := by
  by_cases hquarantined : state.currentAgent.value ∈ quarantinedAgents
  · have hentered : (state.standing lib).agent.value ∈ quarantinedAgents := hquarantined
    have herror : s!"Agent {state.currentAgent.value} is quarantined." ≠ "" := by simp [toString]
    rw [redirect, if_pos hquarantined, Standing.entered, if_pos hentered]
    simp only [ReferenceState.standing, Option.any_some, herror, ne_eq, not_false_eq_true,
      decide_true]
  · have hentered : (state.standing lib).agent.value ∉ quarantinedAgents := hquarantined
    rw [redirect, if_neg hquarantined, Standing.entered, if_neg hentered]

theorem Sound.redirect (h : Sound lib state) : Sound lib (redirect quarantinedAgents state) := by
  by_cases hquarantined : state.currentAgent.value ∈ quarantinedAgents
  · rw [Agents.redirect, if_pos hquarantined]
    refine ⟨h.retry, fun hreasoning ↦ ?_, ?_⟩
    · cases hagent : state.currentAgent <;> simp [hagent, standIn] at hreasoning
    · obtain hfallback | hsupported := h.supported
      · exact .inl (congrArg standIn hfallback)
      · exact .inr hsupported
  · rwa [Agents.redirect, if_neg hquarantined]

/-- **A hop** of the loop is one on the way: the agent that is entered makes an invocation. -/
theorem follows_nextHop (hsound : Sound lib state) :
    Follows lib (redirect quarantinedAgents state)
      (advance lib pipeline quarantinedAgents state.query (state.standing lib) hop)
      (nextHop lib pipeline hop quarantinedAgents state) := by
  have hquery : (redirect quarantinedAgents state).query = state.query := by
    rw [redirect]
    split_ifs <;> rfl
  rw [advance, ← standing_redirect, nextHop, ← hquery]
  exact follows_execute hsound.redirect

end Turns

/-! ## The loop -/

section Loop

variable {lib : AgentLibrary F} {pipeline : AgentPipeline F} {quarantinedAgents : List String}

/-- No invocation of the response agent that returned says that the hops are used up. -/
def Genuine (invocations : List AgentInvocation) : Prop :=
  ∀ invocation ∈ invocations, invocation.agentName = .response → invocation.error = none →
    invocation.outputMessage.content ≠ "Error: Max hops exceeded."

/-- The final response is one that the response agent produced. -/
def Responded (state : ReferenceState F) : Prop :=
  ∃ invocation ∈ state.invocations, invocation.agentName = .response ∧ invocation.error = none ∧
    state.finalResponse = some invocation.outputMessage.content

variable (lib pipeline quarantinedAgents) in
/-- How the loop ends that has made some hops and may make more. -/
structure Ended (state : ReferenceState F) (hops left : ℕ) (result : ℕ × ReferenceState F) :
    Prop where
  executed : ∀ name, (∃ invocation ∈ result.2.invocations, invocation.agentName = name) ↔
    (∃ invocation ∈ state.invocations, invocation.agentName = name) ∨
    ∃ i < left, ∃ w, Runs.run (advance lib pipeline quarantinedAgents state.query)
      (state.standing lib) (List.range' hops i) = some w ∧
        (w.entered quarantinedAgents).agent = name
  genuine : Genuine result.2.invocations
  le_hops : hops ≤ result.1
  hops_le : result.1 ≤ hops + left
  hops_le_iff : ∀ i < left, Runs.run (advance lib pipeline quarantinedAgents state.query)
    (state.standing lib) (List.range' hops i) = none ↔ result.1 ≤ hops + i
  responded : result.1 < hops + left → Responded result.2

theorem loop_of_finished {state : ReferenceState F} (h : state.isFinished = true) (hops left : ℕ) :
    loop lib pipeline quarantinedAgents hops left state = (hops, state) := by
  cases left with
  | zero => rfl
  | succ left => rw [loop, if_pos h]

theorem genuine_concat {invocations : List AgentInvocation} {invocation : AgentInvocation} :
    Genuine (invocations ++ [invocation]) ↔ Genuine invocations ∧
      (invocation.agentName = .response → invocation.error = none →
        invocation.outputMessage.content ≠ "Error: Max hops exceeded.") := by
  simp [Genuine, or_imp, forall_and]

section Ends

variable {state state' : ReferenceState F} {invocation : AgentInvocation} {hops left : ℕ}
  {result : ℕ × ReferenceState F}

/-- A hop that leads on, and the loop after it. -/
theorem Ended.cons
    (hadvance : advance lib pipeline quarantinedAgents state.query (state.standing lib) hops
      = some (state'.standing lib))
    (hquery : state'.query = state.query)
    (hinvocations : state'.invocations = state.invocations ++ [invocation])
    (hname : invocation.agentName = ((state.standing lib).entered quarantinedAgents).agent)
    (h : Ended lib pipeline quarantinedAgents state' (hops + 1) left result) :
    Ended lib pipeline quarantinedAgents state hops (left + 1) result := by
  have hrun : ∀ i, Runs.run (advance lib pipeline quarantinedAgents state.query)
      (state.standing lib) (List.range' hops (i + 1))
        = Runs.run (advance lib pipeline quarantinedAgents state'.query) (state'.standing lib)
          (List.range' (hops + 1) i) := by
    intro i
    rw [List.range'_succ, Runs.run_cons_of_step hadvance, hquery]
  constructor
  · intro name
    rw [h.executed, hinvocations, Nat.exists_lt_succ_left]
    simp only [hrun]
    simp [Runs.run_nil, hname, or_assoc]
  · exact h.genuine
  · exact (Nat.le_succ hops).trans h.le_hops
  · exact h.hops_le.trans (by omega)
  · refine Nat.forall_lt_succ_left.mpr ⟨?_, fun i hi ↦ ?_⟩
    · exact iff_of_false (Option.some_ne_none _) (not_le.mpr h.le_hops)
    · rw [hrun, h.hops_le_iff i hi]
      omega
  · intro hlt
    exact h.responded (by omega)

/-- A hop that gives the response. -/
theorem ended_responds
    (hadvance : advance lib pipeline quarantinedAgents state.query (state.standing lib) hops = none)
    (hinvocations : state'.invocations = state.invocations ++ [invocation])
    (hname : invocation.agentName = ((state.standing lib).entered quarantinedAgents).agent)
    (hgenuine : Genuine state'.invocations) (hresponded : Responded state') :
    Ended lib pipeline quarantinedAgents state hops (left + 1) (hops + 1, state') := by
  have hrun : ∀ i, Runs.run (advance lib pipeline quarantinedAgents state.query)
      (state.standing lib) (List.range' hops (i + 1)) = none := by
    intro i
    rw [List.range'_succ, Runs.run_cons, hadvance, Option.bind_none]
  constructor
  · intro name
    rw [hinvocations, Nat.exists_lt_succ_left]
    simp [hrun, Runs.run_nil, hname]
  · exact hgenuine
  · exact Nat.le_succ hops
  · exact Nat.add_le_add_left (Nat.succ_pos left) hops
  · refine Nat.forall_lt_succ_left.mpr ⟨?_, fun i hi ↦ ?_⟩
    · simp [Runs.run_nil]
    · exact iff_of_true (hrun i) (by dsimp only; omega)
  · exact fun _ ↦ hresponded

end Ends

variable (lib pipeline quarantinedAgents) in
/-- A hop leads on, with an invocation that is no answer, or it gives the response. -/
theorem nextHop_cases (hop : ℕ) {state : ReferenceState F} (hsound : Sound lib state)
    (hunfinished : state.isFinished = false) : ∃ invocation : AgentInvocation,
    (nextHop lib pipeline hop quarantinedAgents state).invocations
      = state.invocations ++ [invocation] ∧
    invocation.agentName = ((state.standing lib).entered quarantinedAgents).agent ∧
    ((advance lib pipeline quarantinedAgents state.query (state.standing lib) hop
          = some ((nextHop lib pipeline hop quarantinedAgents state).standing lib) ∧
        (invocation.agentName = .response → invocation.error ≠ none) ∧
        Sound lib (nextHop lib pipeline hop quarantinedAgents state) ∧
        (nextHop lib pipeline hop quarantinedAgents state).isFinished = false ∧
        (nextHop lib pipeline hop quarantinedAgents state).query = state.query) ∨
      (advance lib pipeline quarantinedAgents state.query (state.standing lib) hop = none ∧
        invocation.agentName = .response ∧ invocation.error = none ∧
        (nextHop lib pipeline hop quarantinedAgents state).finalResponse
          = some invocation.outputMessage.content ∧
        invocation.outputMessage.content ≠ "Error: Max hops exceeded." ∧
        (nextHop lib pipeline hop quarantinedAgents state).isFinished = true)) := by
  have hagent : (redirect quarantinedAgents state).currentAgent
      = ((state.standing lib).entered quarantinedAgents).agent :=
    congrArg Standing.agent standing_redirect
  have hsame : (redirect quarantinedAgents state).invocations = state.invocations ∧
      (redirect quarantinedAgents state).isFinished = state.isFinished ∧
      (redirect quarantinedAgents state).query = state.query := by
    rw [redirect]
    split_ifs <;> exact ⟨rfl, rfl, rfl⟩
  have hfollows : Follows lib (redirect quarantinedAgents state)
      (advance lib pipeline quarantinedAgents state.query (state.standing lib) hop)
      (nextHop lib pipeline hop quarantinedAgents state) := follows_nextHop hsound
  generalize nextHop lib pipeline hop quarantinedAgents state = state' at hfollows ⊢
  generalize hexit : advance lib pipeline quarantinedAgents state.query (state.standing lib) hop
    = exit at hfollows
  cases hfollows with
  | leads w state' invocation hinvocations hname hfailed hstanding hsound' hfinished hquery =>
    rw [hsame.1] at hinvocations
    exact ⟨invocation, hinvocations, hname.trans hagent, .inl ⟨congrArg some hstanding.symm,
      hfailed, hsound', hfinished.trans (hsame.2.1.trans hunfinished), hquery.trans hsame.2.2⟩⟩
  | responds state' invocation hinvocations hname hresponse herror hfinal hcontent hfinished =>
    rw [hsame.1] at hinvocations
    exact ⟨invocation, hinvocations, hname.trans hagent,
      .inr ⟨rfl, hresponse, herror, hfinal, hcontent, hfinished⟩⟩

/-- **The loop** follows the way, hop by hop. -/
theorem ended_loop {state : ReferenceState F} {hops left : ℕ} (hsound : Sound lib state)
    (hunfinished : state.isFinished = false) (hgenuine : Genuine state.invocations) :
    Ended lib pipeline quarantinedAgents state hops left
      (loop lib pipeline quarantinedAgents hops left state) := by
  induction left generalizing state hops with
  | zero => exact ⟨by simp [loop], hgenuine, le_rfl, le_rfl, by simp, fun h ↦ absurd h (lt_irrefl _)⟩
  | succ left ih =>
    rw [loop, if_neg (by simp [hunfinished])]
    obtain ⟨invocation, hinvocations, hname,
      ⟨hadvance, hfailed, hsound', hunfinished', hquery⟩ |
      ⟨hadvance, hresponse, herror, hfinal, hcontent, hfinished⟩⟩ :=
        nextHop_cases lib pipeline quarantinedAgents hops hsound hunfinished
    · refine Ended.cons hadvance hquery hinvocations hname (ih hsound' hunfinished' ?_)
      rw [hinvocations, genuine_concat]
      exact ⟨hgenuine, fun hresponse herror ↦ absurd herror (hfailed hresponse)⟩
    · rw [loop_of_finished hfinished]
      refine ended_responds hadvance hinvocations hname ?_ ⟨invocation, ?_, hresponse, herror, hfinal⟩
      · rw [hinvocations, genuine_concat]
        exact ⟨hgenuine, fun _ _ ↦ hcontent⟩
      · rw [hinvocations]
        exact List.mem_append_right _ (List.mem_singleton_self invocation)

end Loop

end DriftGuardX.Agents
