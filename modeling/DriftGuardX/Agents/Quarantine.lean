import DriftGuardX.Agents.Routing

/-!
# Quarantined agents

The agent that takes the turn of a quarantined one may be quarantined itself, and the way may be longer
than the hops that are allowed: an agent that raises leaves no error in memory, so that the
orchestrator starts again, and a fallback leads back to a tool, a verifier or a policy agent that is
quarantined. When the way avoids both, no quarantined agent is executed and the response agent gives
the final response, and only then (`quarantineHolds_iff`).
-/

namespace DriftGuardX.Agents

open Json

variable {F : Type}

section Quarantine

variable (lib : AgentLibrary F) (pipeline : AgentPipeline F) (quarantinedAgents : List String)
  (query : String) (maxHops : ℤ)

/-- No quarantined agent is executed, and the response agent gives the final response if it and the
fallback agent are not quarantined and there are enough hops. -/
structure QuarantineHolds : Prop where
  executed : ∀ invocation ∈ (run lib pipeline quarantinedAgents query maxHops).invocations,
    invocation.agentName.value ∉ quarantinedAgents
  responded : "fallback" ∉ quarantinedAgents → "response" ∉ quarantinedAgents → 15 ≤ maxHops →
    Responded (run lib pipeline quarantinedAgents query maxHops)

/-- On the way, no agent is quarantined together with the one that takes its turn. -/
def Covered : Prop :=
  ∀ hops : ℕ, hops < maxHops → ∀ w ∈ way lib pipeline quarantinedAgents query hops,
    w.agent.value ∈ quarantinedAgents → (standIn w.agent).value ∉ quarantinedAgents

/-- The way ends before the last hop. -/
def Arrives : Prop := way lib pipeline quarantinedAgents query (maxHops.toNat - 1) = none

variable {lib pipeline quarantinedAgents query maxHops}

theorem standing_start : (ReferenceState.start query : ReferenceState F).standing lib = .start := by
  have hacceptable : acceptable lib (.object []) = true := by simp [acceptable, isDict, Val.object]
  simp only [ReferenceState.standing, ReferenceState.start, orElse, hacceptable]
  rfl

theorem sound_start : Sound lib (ReferenceState.start query : ReferenceState F) :=
  ⟨nofun, nofun, .inr (.inr rfl)⟩

theorem ended_run : Ended lib pipeline quarantinedAgents (.start query) 0 maxHops.toNat
    (loop lib pipeline quarantinedAgents 0 maxHops.toNat (.start query)) :=
  ended_loop sound_start rfl nofun

theorem invocations_run : (run lib pipeline quarantinedAgents query maxHops).invocations
    = (loop lib pipeline quarantinedAgents 0 maxHops.toNat (.start query)).2.invocations := by
  rw [run]
  dsimp only
  split_ifs <;> rfl

theorem entered_value_mem_iff {w : Standing F} :
    (w.entered quarantinedAgents).agent.value ∈ quarantinedAgents ↔
      w.agent.value ∈ quarantinedAgents ∧ (standIn w.agent).value ∈ quarantinedAgents := by
  rw [Standing.entered]
  split_ifs with hquarantined
  · exact (and_iff_right hquarantined).symm
  · exact iff_of_false hquarantined fun h ↦ hquarantined h.1

theorem way_eq (hops : ℕ) : way lib pipeline quarantinedAgents query hops
    = Runs.run (advance lib pipeline quarantinedAgents query)
      ((ReferenceState.start query : ReferenceState F).standing lib) (List.range' 0 hops) := by
  rw [standing_start, way, List.range_eq_range']

theorem executed_iff :
    (∀ invocation ∈ (run lib pipeline quarantinedAgents query maxHops).invocations,
      invocation.agentName.value ∉ quarantinedAgents) ↔
    Covered lib pipeline quarantinedAgents query maxHops := by
  have hended : Ended lib pipeline quarantinedAgents (.start query) 0 maxHops.toNat
    (loop lib pipeline quarantinedAgents 0 maxHops.toNat (.start query)) := ended_run
  have hexecuted : ∀ name,
      (∃ invocation ∈ (run lib pipeline quarantinedAgents query maxHops).invocations,
        invocation.agentName = name) ↔
      ∃ hops < maxHops.toNat, ∃ w ∈ way lib pipeline quarantinedAgents query hops,
        (w.entered quarantinedAgents).agent = name := by
    intro name
    simp only [way_eq]
    rw [invocations_run, hended.executed name]
    exact or_iff_right fun ⟨_, hmem, _⟩ ↦ List.not_mem_nil hmem
  constructor
  · intro h hops hlt w hw hquarantined hstandIn
    obtain ⟨invocation, hmem, hname⟩ := (hexecuted _).mpr ⟨hops, by omega, w, hw, rfl⟩
    refine h invocation hmem ?_
    rw [hname]
    exact entered_value_mem_iff.mpr ⟨hquarantined, hstandIn⟩
  · intro hcovered invocation hmem hquarantined
    obtain ⟨hops, hlt, w, hw, hname⟩ := (hexecuted _).mp ⟨invocation, hmem, rfl⟩
    rw [← hname, entered_value_mem_iff] at hquarantined
    exact hcovered hops (by omega) w hw hquarantined.1 hquarantined.2

theorem responded_iff (hhops : 0 < maxHops) :
    Responded (run lib pipeline quarantinedAgents query maxHops) ↔
      Arrives lib pipeline quarantinedAgents query maxHops := by
  have hended : Ended lib pipeline quarantinedAgents (.start query) 0 maxHops.toNat
    (loop lib pipeline quarantinedAgents 0 maxHops.toNat (.start query)) := ended_run
  have harrives : Arrives lib pipeline quarantinedAgents query maxHops ↔
      (loop lib pipeline quarantinedAgents 0 maxHops.toNat (.start query)).1
        ≤ maxHops.toNat - 1 := by
    rw [Arrives, way_eq]
    exact (hended.hops_le_iff _ (by omega)).trans (by rw [Nat.zero_add])
  rw [harrives, run]
  have hle := hended.hops_le
  dsimp only
  split_ifs with hover
  · refine iff_of_false ?_ (by omega)
    rintro ⟨invocation, hmem, hresponse, herror, hfinal⟩
    exact hended.genuine invocation hmem hresponse herror (Option.some.inj hfinal).symm
  · exact iff_of_true (hended.responded (by omega)) (by omega)

/-- **Quarantine** holds for what the agents come to exactly when their way is covered and arrives. -/
theorem quarantineHolds_iff : QuarantineHolds lib pipeline quarantinedAgents query maxHops ↔
    Covered lib pipeline quarantinedAgents query maxHops ∧
    ("fallback" ∉ quarantinedAgents → "response" ∉ quarantinedAgents → 15 ≤ maxHops →
      Arrives lib pipeline quarantinedAgents query maxHops) := by
  constructor
  · intro h
    refine ⟨executed_iff.mp h.executed, fun hfallback hresponse hhops ↦ ?_⟩
    exact (responded_iff (by omega)).mp (h.responded hfallback hresponse hhops)
  · rintro ⟨hcovered, harrives⟩
    refine ⟨executed_iff.mpr hcovered, fun hfallback hresponse hhops ↦ ?_⟩
    exact (responded_iff (by omega)).mpr (harrives hfallback hresponse hhops)

/-! ## When the way is covered -/

theorem way_succ (hops : ℕ) : way lib pipeline quarantinedAgents query (hops + 1)
    = (way lib pipeline quarantinedAgents query hops).bind
      (advance lib pipeline quarantinedAgents query · hops) := by
  rw [way, List.range_succ, Runs.run_concat, ← way]

theorem way_eq_none_of_le {hops hops' : ℕ} (hle : hops ≤ hops')
    (h : way lib pipeline quarantinedAgents query hops = none) :
    way lib pipeline quarantinedAgents query hops' = none := by
  induction hle with
  | refl => exact h
  | step _ ih => rw [way_succ, ih, Option.bind_none]

/-- Two ways agree as long as the same agents are entered. -/
theorem way_congr {quarantinedAgents' : List String} {hops : ℕ}
    (h : ∀ i < hops, ∀ w ∈ way lib pipeline quarantinedAgents query i,
      w.entered quarantinedAgents = w.entered quarantinedAgents') :
    way lib pipeline quarantinedAgents query hops
      = way lib pipeline quarantinedAgents' query hops := by
  induction hops with
  | zero => rfl
  | succ hops ih =>
    rw [way_succ, way_succ, ← ih fun i hi ↦ h i (hi.trans (Nat.lt_succ_self hops))]
    cases hway : way lib pipeline quarantinedAgents query hops with
    | none => rfl
    | some w =>
      rw [Option.bind_some, Option.bind_some, advance, advance,
        h hops (Nat.lt_succ_self hops) w hway]

theorem entered_of_not_mem {w : Standing F} (h : w.agent.value ∉ quarantinedAgents) :
    w.entered quarantinedAgents = w := if_neg h

/-- Any other agent that is quarantined is replaced by the fallback agent, which leads to the tool. -/
theorem advance_of_mem {w : Standing F} {hop : ℕ} (hmem : w.agent.value ∈ quarantinedAgents)
    (hne : w.agent ≠ .orchestrator) : advance lib pipeline quarantinedAgents query w hop
      = some { w with agent := .tool, redirected := true, readable := true } := by
  have hstandIn : standIn w.agent = .fallback := by
    cases hagent : w.agent with
    | orchestrator => exact absurd hagent hne
    | _ => rfl
  rw [advance, Standing.entered, if_pos hmem, hstandIn]
  rfl

theorem way_one_of_orchestrator (h : "orchestrator" ∈ quarantinedAgents) :
    way lib pipeline quarantinedAgents query 1 = none := by
  have hentered : (Standing.start : Standing F).entered quarantinedAgents
      = { Standing.start with agent := .response, redirected := true } := if_pos h
  change (advance lib pipeline quarantinedAgents query Standing.start 0).bind _ = none
  rw [advance, hentered]
  exact congrArg (Option.bind · _) (if_pos (Or.inr rfl))

/-- **What covers the way**: there are no hops, or the orchestrator is quarantined and the response
agent is not, or the orchestrator is not and the fallback agent is not quarantined or no agent is to
which the answers lead. -/
theorem covered_iff : Covered lib pipeline quarantinedAgents query maxHops ↔
    maxHops ≤ 0 ∨ ("orchestrator" ∈ quarantinedAgents ∧ "response" ∉ quarantinedAgents) ∨
    ("orchestrator" ∉ quarantinedAgents ∧ ("fallback" ∉ quarantinedAgents ∨
      ∀ hops : ℕ, hops < maxHops → ∀ w ∈ way lib pipeline [] query hops,
        w.agent.value ∉ quarantinedAgents)) := by
  by_cases hpositive : maxHops ≤ 0
  · exact iff_of_true (fun hops hlt ↦ absurd hlt (by omega)) (.inl hpositive)
  rw [or_iff_right hpositive]
  by_cases horchestrator : "orchestrator" ∈ quarantinedAgents
  · rw [or_iff_left fun h ↦ h.1 horchestrator, and_iff_right horchestrator]
    constructor
    · intro h
      exact h 0 (by omega) .start rfl horchestrator
    · intro hresponse hops hlt w hw
      cases hops with
      | zero =>
        obtain rfl : Standing.start = w := Option.some.inj hw
        exact fun _ ↦ hresponse
      | succ hops =>
        rw [way_eq_none_of_le (Nat.succ_le_succ hops.zero_le)
          (way_one_of_orchestrator horchestrator)] at hw
        exact nomatch hw
  · rw [or_iff_right fun h ↦ horchestrator h.1, and_iff_right horchestrator]
    have hstandIn : ∀ w : Standing F, w.agent.value ∈ quarantinedAgents →
        (standIn w.agent).value = "fallback" := by
      intro w hw
      cases hagent : w.agent with
      | orchestrator => exact absurd (by rwa [hagent] at hw) horchestrator
      | _ => rfl
    by_cases hfallback : "fallback" ∈ quarantinedAgents
    · rw [or_iff_right (not_not.mpr hfallback)]
      constructor
      · intro h hops hlt w hw
        have hunvisited : ∀ i : ℕ, i < maxHops →
            ∀ w ∈ way lib pipeline quarantinedAgents query i, w.agent.value ∉ quarantinedAgents := by
          intro i hi w hw hmem
          exact h i hi w hw hmem (by rwa [hstandIn w hmem])
        have hsame : way lib pipeline quarantinedAgents query hops = way lib pipeline [] query hops :=
          way_congr fun i hi w hw ↦ entered_of_not_mem (hunvisited i (by omega) w hw)
        exact hunvisited hops hlt w (hsame ▸ hw)
      · intro h hops hlt w hw hmem
        have hsame : way lib pipeline [] query hops = way lib pipeline quarantinedAgents query hops :=
          way_congr fun i hi w hw ↦ (entered_of_not_mem (h i (by omega) w hw)).symm
        exact absurd hmem (h hops hlt w (hsame ▸ hw))
    · refine iff_of_true (fun hops hlt w hw hquarantined ↦ ?_) (.inl hfallback)
      rwa [hstandIn w hquarantined]

/-! ## When the way arrives -/

theorem exists_way {Inv : Standing F → Prop} (hstart : Inv .start)
    (hstep : ∀ w hop, Inv w →
      ∃ w', advance lib pipeline quarantinedAgents query w hop = some w' ∧ Inv w') (hops : ℕ) :
    ∃ w, way lib pipeline quarantinedAgents query hops = some w ∧ Inv w := by
  induction hops with
  | zero => exact ⟨.start, rfl, hstart⟩
  | succ hops ih =>
    obtain ⟨w, hw, hinv⟩ := ih
    obtain ⟨w', hw', hinv'⟩ := hstep w hops hinv
    exact ⟨w', by rw [way_succ, hw, Option.bind_some, hw'], hinv'⟩

theorem not_arrives_of_tool (horchestrator : "orchestrator" ∉ quarantinedAgents)
    (htool : "tool" ∈ quarantinedAgents) :
    ¬ Arrives lib pipeline quarantinedAgents query maxHops := by
  let Inv : Standing F → Prop := fun w ↦ w.agent = .fallback ∨ w.agent = .tool ∨
    w.redirected = false ∧ (w.agent = .orchestrator ∨ w.agent = .retrieval ∨ w.agent = .reasoning)
  have hstep : ∀ w hop, Inv w →
      ∃ w', advance lib pipeline quarantinedAgents query w hop = some w' ∧ Inv w' := by
    intro w hop hinv
    by_cases hquarantined : w.agent.value ∈ quarantinedAgents
    · have hne : w.agent ≠ .orchestrator := fun h ↦ horchestrator (by rwa [h] at hquarantined)
      exact ⟨_, advance_of_mem hquarantined hne, .inr (.inl rfl)⟩
    · rw [advance, entered_of_not_mem hquarantined, Standing.exit]
      rcases hinv with hagent | hagent | ⟨hredirected, hagent | hagent | hagent⟩
      · rw [hagent]
        exact ⟨_, rfl, .inr (.inl rfl)⟩
      · exact absurd htool (by rwa [hagent] at hquarantined)
      · rw [hagent]
        refine ⟨_, rfl, .inr (.inr ⟨hredirected, .inr (.inl ?_)⟩)⟩
        exact if_neg (by simp [hredirected])
      · rw [hagent]
        refine ⟨_, rfl, ?_⟩
        split
        · exact .inr (.inr ⟨hredirected, .inl rfl⟩)
        · exact .inl rfl
        · exact .inr (.inr ⟨hredirected, .inr (.inr rfl)⟩)
      · rw [hagent]
        refine ⟨_, rfl, ?_⟩
        split
        · exact .inr (.inr ⟨hredirected, .inl rfl⟩)
        · exact .inr (.inl rfl)
  obtain ⟨w, hw, -⟩ := exists_way (.inr (.inr ⟨rfl, .inl rfl⟩)) hstep (maxHops.toNat - 1)
  exact fun harrives ↦ Option.some_ne_none w (hw.symm.trans harrives)

/-- Nobody raises and no verification is strict: the search finds something or nothing, and the
language model answers with a text. -/
structure Undisturbed (lib : AgentLibrary F) (pipeline : AgentPipeline F) (query : String) : Prop where
  lenient : pipeline.realMode = false
  found : ∀ hop, Agents.found pipeline query hop ≠ none
  thought : ∀ hop docs, ∃ text, Agents.thought lib pipeline query hop docs = some text ∧
    isText (orElse lib (some text) (.str "")) = true

/-- The hops to the response at most. -/
def AgentName.rank : AgentName → ℕ
  | orchestrator => 7
  | retrieval => 6
  | fallback => 5
  | reasoning => 5
  | tool => 4
  | verifier => 3
  | policy => 2
  | response => 1

/-- Undisturbed, every hop comes closer to the response. -/
theorem rank_of_advance (h : Undisturbed lib pipeline query)
    (hquarantined : ∀ name ∈ ["fallback", "tool", "verifier", "policy", "response"],
      name ∉ quarantinedAgents) {w w' : Standing F} {hop : ℕ} (hreadable : w.readable = true)
    (hadvance : advance lib pipeline quarantinedAgents query w hop = some w') :
    w'.readable = true ∧ w'.agent.rank + 1 ≤ w.agent.rank := by
  have hlenient : ¬ pipeline.realMode = true := by simp [h.lenient]
  by_cases hmem : w.agent.value ∈ quarantinedAgents
  · by_cases horchestrator : w.agent = .orchestrator
    · rw [advance, Standing.entered, if_pos hmem, horchestrator] at hadvance
      have hnone : some w' = none := hadvance.symm.trans (if_pos (Or.inr hreadable))
      exact absurd hnone (Option.some_ne_none w')
    · rw [advance_of_mem hmem horchestrator] at hadvance
      obtain rfl := Option.some.inj hadvance
      refine ⟨rfl, ?_⟩
      cases hagent : w.agent with
      | orchestrator => exact absurd hagent horchestrator
      | retrieval | reasoning => simp [AgentName.rank]
      | fallback | tool | verifier | policy | response =>
        exact absurd hmem (hquarantined _ (by rw [hagent]; simp [AgentName.value]))
  · rw [advance, entered_of_not_mem hmem, Standing.exit] at hadvance
    cases hagent : w.agent with
    | orchestrator =>
      rw [hagent] at hadvance
      obtain rfl := Option.some.inj hadvance
      refine ⟨hreadable, ?_⟩
      dsimp only
      split_ifs <;> simp [AgentName.rank]
    | retrieval =>
      rw [hagent] at hadvance
      obtain rfl := Option.some.inj hadvance
      cases hfound : Agents.found pipeline query hop with
      | none => exact absurd hfound (h.found hop)
      | some docs => cases docs <;> exact ⟨hreadable, by simp [AgentName.rank]⟩
    | fallback =>
      rw [hagent] at hadvance
      obtain rfl := Option.some.inj hadvance
      exact ⟨rfl, by simp [AgentName.rank]⟩
    | reasoning =>
      rw [hagent] at hadvance
      obtain ⟨text, hthought, htext⟩ := h.thought hop w.docs
      obtain rfl := Option.some.inj hadvance
      rw [hthought]
      exact ⟨htext, by simp [AgentName.rank]⟩
    | tool =>
      rw [hagent] at hadvance
      obtain rfl := Option.some.inj hadvance
      cases hresult : toolResult lib pipeline hop query with
      | ok result => exact ⟨hreadable, by simp [AgentName.rank]⟩
      | error e =>
        rw [toolResult] at hresult
        split at hresult
        · cases hresult
        · rw [if_neg hlenient] at hresult
          cases hresult
    | verifier =>
      rw [hagent] at hadvance
      obtain rfl := Option.some.inj hadvance
      refine ⟨hreadable, ?_⟩
      dsimp only
      rw [if_neg (not_and_of_not_left _ hlenient)]
      simp [AgentName.rank]
    | policy =>
      rw [hagent] at hadvance
      obtain rfl := Option.some.inj hadvance
      exact ⟨hreadable, by simp [AgentName.rank]⟩
    | response =>
      rw [hagent] at hadvance
      have hnone : some w' = none := hadvance.symm.trans (if_pos (Or.inr hreadable))
      exact absurd hnone (Option.some_ne_none w')

/-- Undisturbed, the way arrives when the fallback agent and the agents after it are not quarantined. -/
theorem arrives_of_undisturbed (h : Undisturbed lib pipeline query)
    (hquarantined : ∀ name ∈ ["fallback", "tool", "verifier", "policy", "response"],
      name ∉ quarantinedAgents) (hhops : 8 ≤ maxHops) :
    Arrives lib pipeline quarantinedAgents query maxHops := by
  have hrank : ∀ hops, ∀ w ∈ way lib pipeline quarantinedAgents query hops,
      w.readable = true ∧ w.agent.rank + hops ≤ 7 := by
    intro hops
    induction hops with
    | zero =>
      intro w hw
      obtain rfl : Standing.start = w := Option.some.inj hw
      exact ⟨rfl, le_rfl⟩
    | succ hops ih =>
      intro w' hw'
      rw [way_succ] at hw'
      obtain ⟨w, hw, hadvance⟩ := Option.bind_eq_some_iff.mp hw'
      obtain ⟨hreadable, hle⟩ := ih w hw
      obtain ⟨hreadable', hlt⟩ := rank_of_advance h hquarantined hreadable hadvance
      exact ⟨hreadable', by omega⟩
  have hend : way lib pipeline quarantinedAgents query 7 = none := by
    refine Option.eq_none_iff_forall_not_mem.mpr fun w hw ↦ ?_
    have hle := (hrank 7 w hw).2
    have hpos : 0 < w.agent.rank := by cases w.agent <;> decide
    omega
  exact way_eq_none_of_le (by omega) hend

/-- **Undisturbed**, the response agent answers within eight hops when the fallback agent and the
agents after it are not quarantined. -/
theorem responded_of_undisturbed (h : Undisturbed lib pipeline query)
    (hquarantined : ∀ name ∈ ["fallback", "tool", "verifier", "policy", "response"],
      name ∉ quarantinedAgents) (hhops : 8 ≤ maxHops) :
    Responded (run lib pipeline quarantinedAgents query maxHops) :=
  (responded_iff (by omega)).mpr (arrives_of_undisturbed h hquarantined hhops)

/-- **No answer** without the tool agent, whatever the collaborators say and however many hops. -/
theorem not_responded_of_tool (horchestrator : "orchestrator" ∉ quarantinedAgents)
    (htool : "tool" ∈ quarantinedAgents) (hhops : 0 < maxHops) :
    ¬ Responded (run lib pipeline quarantinedAgents query maxHops) :=
  mt (responded_iff hhops).mp (not_arrives_of_tool horchestrator htool)

end Quarantine

/-! ## Two runs -/

section Examples

/-- The result of the tool that checks the health. -/
def nominal : Val Empty :=
  .object [("health_check", .str "OK"), ("status", .str "healthy"), ("components", .str "nominal")]

/-- Values are texts and the result of the tool; the queries are in lower case. -/
def sampleLibrary : AgentLibrary Empty where
  isZero := nofun
  str
    | .str s => s
    | _ => "\x7b'health_check': 'OK', 'status': 'healthy', 'components': 'nominal'\x7d"
  typeName _ := "str"
  lower := id

/-- The pipeline without a retriever and a language model. -/
def samplePipeline : AgentPipeline Empty where
  retrieve := none
  generate := none
  executeToolSync _ _ _ _ := .ok nominal
  realMode := false

/-- The fallback agent is executed for the retrieval agent although both are quarantined, and without
the tool agent there is no response. -/
theorem not_quarantineHolds_fallback_tool :
    ¬ QuarantineHolds sampleLibrary samplePipeline ["retrieval", "fallback"] "test query" 15 ∧
    ¬ QuarantineHolds sampleLibrary samplePipeline ["tool"] "test query" 15 := by
  constructor
  · intro h
    have hexecuted : .fallback ∈ (run sampleLibrary samplePipeline ["retrieval", "fallback"]
        "test query" 15).invocations.map AgentInvocation.agentName := by decide +kernel
    obtain ⟨invocation, hmem, hname⟩ := List.mem_map.mp hexecuted
    exact h.executed invocation hmem (by rw [hname]; decide)
  · intro h
    obtain ⟨invocation, hmem, hresponse, -⟩ := h.responded (by decide) (by decide) (by decide)
    have hexecuted : .response ∉ (run sampleLibrary samplePipeline ["tool"] "test query"
        15).invocations.map AgentInvocation.agentName := by decide +kernel
    exact hexecuted (hresponse ▸ List.mem_map_of_mem hmem)

theorem responded_of_undisturbed_sample :
    Responded (run sampleLibrary samplePipeline ["retrieval", "reasoning"] "test query" 8) := by
  have hundisturbed : Undisturbed sampleLibrary samplePipeline "test query" :=
    ⟨rfl, fun _ ↦ by simp [found, samplePipeline], fun _ _ ↦ ⟨_, rfl, by decide⟩⟩
  exact responded_of_undisturbed hundisturbed (by decide) (by decide)

theorem not_responded_of_tool_sample :
    ¬ Responded (run sampleLibrary samplePipeline ["tool"] "test query" 15) :=
  not_responded_of_tool (by decide) (by decide) (by decide)

end Examples

end DriftGuardX.Agents
