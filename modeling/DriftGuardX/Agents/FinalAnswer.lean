import DriftGuardX.Agents.Quarantine

/-!
# The final answer

The loop ends when the answer is given or when the hops are used up, and both may happen with the same
hop. Then the answer that was given is overwritten. It is kept, and said to be missing only when it is
missing, unless the way ends with the last hop (`answerKept_iff`).
-/

namespace DriftGuardX.Agents

variable {F : Type}

/-- The invocation of a response agent that has finished. -/
def AgentInvocation.Answers (invocation : AgentInvocation) : Prop :=
  invocation.agentName = .response ∧ invocation.error = none

section Answer

variable (lib : AgentLibrary F) (pipeline : AgentPipeline F) (quarantinedAgents : List String)
  (query : String) (maxHops : ℤ)

/-- An answer that was given is the final response, and the final response says that the hops were
exceeded only if there was no answer. -/
structure AnswerKept : Prop where
  kept : ∀ invocation ∈ (run lib pipeline quarantinedAgents query maxHops).invocations,
    invocation.Answers → (run lib pipeline quarantinedAgents query maxHops).finalResponse
      = some invocation.outputMessage.content
  exceeded : (run lib pipeline quarantinedAgents query maxHops).finalResponse
      = some "Error: Max hops exceeded." →
    ∀ invocation ∈ (run lib pipeline quarantinedAgents query maxHops).invocations,
      ¬ invocation.Answers

/-- The way ends with the last hop that is allowed, and not before. -/
def EndsWithLastHop : Prop :=
  0 < maxHops ∧ way lib pipeline quarantinedAgents query (maxHops.toNat - 1) ≠ none ∧
    way lib pipeline quarantinedAgents query maxHops.toNat = none

variable {lib pipeline quarantinedAgents query maxHops}

/-! ## The loop -/

/-- An answer among the invocations is the final response of a finished state, and a finished state
has one. -/
structure Concluded (state : ReferenceState F) : Prop where
  kept : ∀ invocation ∈ state.invocations, invocation.Answers →
    state.isFinished = true ∧ state.finalResponse = some invocation.outputMessage.content
  given : state.isFinished = true → ∃ invocation ∈ state.invocations, invocation.Answers ∧
    invocation.outputMessage.content ≠ "Error: Max hops exceeded."

theorem Concluded.not_answers {state : ReferenceState F} (h : Concluded state)
    (hunfinished : state.isFinished = false) :
    ∀ invocation ∈ state.invocations, ¬ invocation.Answers := by
  intro invocation hmem hanswers
  rw [(h.kept invocation hmem hanswers).1] at hunfinished
  exact Bool.noConfusion hunfinished

/-- A hop that leads on. -/
theorem Concluded.leads {state state' : ReferenceState F} {invocation : AgentInvocation}
    (h : Concluded state) (hunfinished : state.isFinished = false)
    (hinvocations : state'.invocations = state.invocations ++ [invocation])
    (hfailed : invocation.agentName = .response → invocation.error ≠ none)
    (hunfinished' : state'.isFinished = false) : Concluded state' := by
  refine ⟨fun other hmem hanswers ↦ ?_, fun hfinished ↦ ?_⟩
  · rw [hinvocations] at hmem
    obtain hmem | hmem := List.mem_append.mp hmem
    · exact absurd hanswers (h.not_answers hunfinished other hmem)
    · obtain rfl := List.mem_singleton.mp hmem
      exact absurd hanswers.2 (hfailed hanswers.1)
  · rw [hfinished] at hunfinished'
    exact Bool.noConfusion hunfinished'

/-- A hop that gives the response. -/
theorem Concluded.responds {state state' : ReferenceState F} {invocation : AgentInvocation}
    (h : Concluded state) (hunfinished : state.isFinished = false)
    (hinvocations : state'.invocations = state.invocations ++ [invocation])
    (hanswers : invocation.Answers)
    (hfinal : state'.finalResponse = some invocation.outputMessage.content)
    (hcontent : invocation.outputMessage.content ≠ "Error: Max hops exceeded.")
    (hfinished : state'.isFinished = true) : Concluded state' := by
  refine ⟨fun other hmem hother ↦ ?_, fun _ ↦ ⟨invocation, ?_, hanswers, hcontent⟩⟩
  · rw [hinvocations] at hmem
    obtain hmem | hmem := List.mem_append.mp hmem
    · exact absurd hother (h.not_answers hunfinished other hmem)
    · obtain rfl := List.mem_singleton.mp hmem
      exact ⟨hfinished, hfinal⟩
  · rw [hinvocations]
    exact List.mem_append_right _ (List.mem_singleton_self invocation)

/-- **The loop** keeps the answer, and has finished when the way has ended. -/
theorem concluded_loop {state : ReferenceState F} {hops left : ℕ} (hsound : Sound lib state)
    (hunfinished : state.isFinished = false) (h : Concluded state) :
    Concluded (loop lib pipeline quarantinedAgents hops left state).2 ∧
      ((loop lib pipeline quarantinedAgents hops left state).2.isFinished = true ↔
        Runs.run (advance lib pipeline quarantinedAgents state.query) (state.standing lib)
          (List.range' hops left) = none) := by
  induction left generalizing state hops with
  | zero =>
    refine ⟨h, iff_of_false ?_ (Option.some_ne_none _)⟩
    rw [loop, hunfinished]
    exact Bool.false_ne_true
  | succ left ih =>
    rw [loop, if_neg (by simp [hunfinished]), List.range'_succ]
    obtain ⟨invocation, hinvocations, -,
      ⟨hadvance, hfailed, hsound', hunfinished', hquery⟩ |
      ⟨hadvance, hresponse, herror, hfinal, hcontent, hfinished⟩⟩ :=
        nextHop_cases lib pipeline quarantinedAgents hops hsound hunfinished
    · rw [Runs.run_cons_of_step hadvance, ← hquery]
      exact ih hsound' hunfinished' (h.leads hunfinished hinvocations hfailed hunfinished')
    · rw [loop_of_finished hfinished, Runs.run_cons, hadvance]
      exact ⟨h.responds hunfinished hinvocations ⟨hresponse, herror⟩ hfinal hcontent hfinished,
        iff_of_true hfinished rfl⟩

/-! ## The run -/

theorem concluded_start : Concluded (ReferenceState.start query : ReferenceState F) :=
  ⟨fun _ hmem ↦ absurd hmem List.not_mem_nil, fun hfinished ↦ Bool.noConfusion hfinished⟩

theorem finalResponse_run : (run lib pipeline quarantinedAgents query maxHops).finalResponse
    = if maxHops ≤ (loop lib pipeline quarantinedAgents 0 maxHops.toNat (.start query)).1 then
        some "Error: Max hops exceeded."
      else (loop lib pipeline quarantinedAgents 0 maxHops.toNat (.start query)).2.finalResponse := by
  rw [run]
  dsimp only
  split_ifs <;> rfl

theorem answerKept_iff_loop : AnswerKept lib pipeline quarantinedAgents query maxHops ↔
    ¬ (maxHops ≤ (loop lib pipeline quarantinedAgents 0 maxHops.toNat (.start query)).1 ∧
      (loop lib pipeline quarantinedAgents 0 maxHops.toNat (.start query)).2.isFinished
        = true) := by
  have hconcluded : Concluded (loop lib pipeline quarantinedAgents 0 maxHops.toNat
    (.start query)).2 := (concluded_loop sound_start rfl concluded_start).1
  have hended : Ended lib pipeline quarantinedAgents (.start query) 0 maxHops.toNat
    (loop lib pipeline quarantinedAgents 0 maxHops.toNat (.start query)) := ended_run
  constructor
  · rintro ⟨-, hexceeded⟩ ⟨hover, hfinished⟩
    obtain ⟨invocation, hmem, hanswers, -⟩ := hconcluded.given hfinished
    refine hexceeded ?_ invocation ?_ hanswers
    · rw [finalResponse_run, if_pos hover]
    · rw [invocations_run]
      exact hmem
  · intro hnot
    by_cases hover :
        maxHops ≤ (loop lib pipeline quarantinedAgents 0 maxHops.toNat (.start query)).1
    · have hunfinished := Bool.not_eq_true _ |>.mp fun hfinished ↦ hnot ⟨hover, hfinished⟩
      have hnone := hconcluded.not_answers hunfinished
      rw [← invocations_run] at hnone
      exact ⟨fun invocation hmem hanswers ↦ absurd hanswers (hnone invocation hmem),
        fun _ ↦ hnone⟩
    -- the loop was left because the answer had been given
    · have hle := hended.hops_le
      obtain ⟨invocation, hmem, hresponse, herror, hfinal⟩ := hended.responded (by omega)
      have hcontent := hended.genuine invocation hmem hresponse herror
      refine ⟨?_, ?_⟩
      · rw [invocations_run, finalResponse_run, if_neg hover]
        exact fun other hother hanswers ↦ (hconcluded.kept other hother hanswers).2
      · rw [finalResponse_run, if_neg hover, hfinal]
        exact fun hexceeded ↦ absurd (Option.some.inj hexceeded) hcontent

/-- **The answer is kept** if and only if it is not given with the last hop. -/
theorem answerKept_iff : AnswerKept lib pipeline quarantinedAgents query maxHops ↔
    ¬ EndsWithLastHop lib pipeline quarantinedAgents query maxHops := by
  have hended : Ended lib pipeline quarantinedAgents (.start query) 0 maxHops.toNat
    (loop lib pipeline quarantinedAgents 0 maxHops.toNat (.start query)) := ended_run
  have hfinished : (loop lib pipeline quarantinedAgents 0 maxHops.toNat
      (.start query)).2.isFinished = true ↔
      way lib pipeline quarantinedAgents query maxHops.toNat = none := by
    rw [way_eq]
    exact (concluded_loop sound_start rfl concluded_start).2
  rw [answerKept_iff_loop, hfinished, EndsWithLastHop]
  have hle := hended.hops_le
  by_cases hhops : 0 < maxHops
  · have hbefore : way lib pipeline quarantinedAgents query (maxHops.toNat - 1) = none ↔
        (loop lib pipeline quarantinedAgents 0 maxHops.toNat (.start query)).1
          ≤ maxHops.toNat - 1 := by
      rw [way_eq]
      exact (hended.hops_le_iff _ (by omega)).trans (by rw [Nat.zero_add])
    rw [and_iff_right hhops, Ne, hbefore]
    refine not_congr (and_congr_left' ?_)
    omega
  · have hstart : maxHops.toNat = 0 := by omega
    refine iff_of_true (fun h ↦ ?_) fun h ↦ hhops h.1
    rw [hstart] at h
    exact absurd h.2 (Option.some_ne_none _)

/-- The default pipeline gives its answer with the seventh hop, which is the last. -/
theorem not_answerKept_lastHop :
    ¬ AnswerKept sampleLibrary samplePipeline [] "test query" 7 := by
  intro h
  have hfinal : (run sampleLibrary samplePipeline [] "test query" 7).finalResponse
      = some "Error: Max hops exceeded." := by decide +kernel
  have hanswered : ∃ invocation ∈ (run sampleLibrary samplePipeline [] "test query"
      7).invocations, invocation.agentName = .response ∧ invocation.error = none := by
    decide +kernel
  obtain ⟨invocation, hmem, hanswers⟩ := hanswered
  exact h.exceeded hfinal invocation hmem hanswers

end Answer

end DriftGuardX.Agents
