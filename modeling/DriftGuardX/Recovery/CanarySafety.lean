import DriftGuardX.Recovery.Gates

/-!
# New violations and the canary

The canary compares how many episodes are unsafe before and after an action. An episode that the action
made unsafe is outweighed by one that it made safe, so the canary may pass although a safe episode is
unsafe now, and then the engine commits the action. It protects the episodes exactly when no such
violation is masked (`canaryProtects_iff`).
-/

namespace DriftGuardX.Recovery

open Json Program RecoveryStatus

/-! ## What a canary should protect -/

section Episodes

variable {M : Type}

/-- The episode was safe, and is not any more. -/
def CanaryEpisode.broken (ep : CanaryEpisode M) : Bool := ep.baselineSafe && !ep.postSafe

/-- The episode was not safe, and is now. -/
def CanaryEpisode.repaired (ep : CanaryEpisode M) : Bool := !ep.baselineSafe && ep.postSafe

/-- Every episode that was safe is safe. -/
def StaysSafe (episodes : List (CanaryEpisode M)) : Prop :=
  ∀ ep ∈ episodes, ep.baselineSafe = true → ep.postSafe = true

theorem staysSafe_iff {episodes : List (CanaryEpisode M)} :
    StaysSafe episodes ↔ ¬ ∃ ep ∈ episodes, ep.broken = true := by
  simp [StaysSafe, CanaryEpisode.broken]

/-- An action breaks and repairs as many episodes as make up for the change in unsafe ones. -/
theorem length_unsafe_add (episodes : List (CanaryEpisode M)) :
    (episodes.filter fun ep ↦ !ep.postSafe).length
        + episodes.countP CanaryEpisode.repaired
      = (episodes.filter fun ep ↦ !ep.baselineSafe).length
        + episodes.countP CanaryEpisode.broken := by
  induction episodes with
  | nil => rfl
  | cons ep episodes ih =>
    simp only [List.filter_cons, List.countP_cons, CanaryEpisode.broken, CanaryEpisode.repaired]
    rcases Bool.eq_false_or_eq_true ep.baselineSafe with hbase | hbase <;>
      rcases Bool.eq_false_or_eq_true ep.postSafe with hpost | hpost <;>
      simp [hbase, hpost] <;> omega

/-- The mean of the changes of a metric. -/
def meanChange (post baseline : CanaryEpisode ℚ → ℚ) (episodes : List (CanaryEpisode ℚ)) : ℚ :=
  (episodes.map fun ep ↦ post ep - baseline ep).sum / episodes.length

/-- The mean changes respect their thresholds. -/
structure RespectsThresholds (thresholds : CanaryThresholds ℚ) (episodes : List (CanaryEpisode ℚ)) :
    Prop where
  quality : thresholds.minQualityDelta
    ≤ meanChange CanaryEpisode.postQuality CanaryEpisode.baselineQuality episodes
  cost : meanChange CanaryEpisode.postCostUsd CanaryEpisode.baselineCostUsd episodes
    ≤ thresholds.maxCostDeltaUsd
  latency : meanChange CanaryEpisode.postLatencyMs CanaryEpisode.baselineLatencyMs episodes
    ≤ thresholds.maxLatencyDeltaMs

/-- A broken episode is outweighed by repaired ones, and nothing else speaks against the action. -/
structure Masked (thresholds : Option (CanaryThresholds ℚ)) (episodes : List (CanaryEpisode ℚ)) :
    Prop where
  broken : ∃ ep ∈ episodes, ep.broken = true
  outweighed : episodes.countP CanaryEpisode.broken
    ≤ episodes.countP CanaryEpisode.repaired
  respects : RespectsThresholds (thresholds.getD .default) episodes

/-- The canary passes when no more episodes are broken than repaired, and the means are right. -/
theorem overallPass_iff {proposalId : String} {episodes : List (CanaryEpisode ℚ)}
    {thresholds : Option (CanaryThresholds ℚ)} :
    (runCanaryVerification proposalId episodes thresholds).overallPass = true ↔ episodes ≠ [] ∧
      episodes.countP CanaryEpisode.broken
        ≤ episodes.countP CanaryEpisode.repaired ∧
      RespectsThresholds (thresholds.getD .default) episodes := by
  have hcount := length_unsafe_add episodes
  have hsafety : (episodes.filter fun ep ↦ !ep.postSafe).length
        ≤ (episodes.filter fun ep ↦ !ep.baselineSafe).length ↔
      episodes.countP CanaryEpisode.broken
        ≤ episodes.countP CanaryEpisode.repaired := by omega
  have hmeans : RespectsThresholds (thresholds.getD .default) episodes ↔
      FloatMetric.le (thresholds.getD .default).minQualityDelta
          (meanDelta CanaryEpisode.postQuality CanaryEpisode.baselineQuality episodes) = true ∧
        FloatMetric.le (meanDelta CanaryEpisode.postCostUsd CanaryEpisode.baselineCostUsd episodes)
          (thresholds.getD .default).maxCostDeltaUsd = true ∧
        FloatMetric.le
          (meanDelta CanaryEpisode.postLatencyMs CanaryEpisode.baselineLatencyMs episodes)
          (thresholds.getD .default).maxLatencyDeltaMs = true := by
    constructor
    · intro h
      exact ⟨decide_eq_true h.quality, decide_eq_true h.cost, decide_eq_true h.latency⟩
    · rintro ⟨hquality, hcost, hlatency⟩
      exact ⟨of_decide_eq_true hquality, of_decide_eq_true hcost, of_decide_eq_true hlatency⟩
  rw [runCanaryVerification]
  by_cases hnil : episodes = []
  · rw [if_pos hnil]
    exact iff_of_false Bool.false_ne_true fun h ↦ h.1 hnil
  · rw [if_neg hnil, ← hsafety, hmeans]
    simp [hnil, and_assoc]

end Episodes

/-! ## What the engine commits -/

namespace RecoveryEngine

variable {V F W M : Type} {collab : Collaborators V W} {lib : Library F} {call : RunCall V M}
  {readings : Readings} {toStatus : RecoveryStatus} {reason : String} {P : Prop}

/-- Nothing is committed without a condition on the call. -/
def Guarded (P : Prop) (st : RunState V W M) : Prop :=
  st.record.machine.currentStatus = committed → P

theorem steady_guarded (h : toStatus = committed → P) :
    Steady toStatus (Guarded P : RunState V W M → Prop) := by
  rintro st machine hst (hto | hforced | rfl) hcommitted
  · exact h (hto.symm.trans hcommitted)
  · exact absurd (hforced.symm.trans hcommitted) (by decide)
  · exact hst hcommitted

theorem keeps_guarded_of_transition (h : toStatus ≠ committed) :
    Keeps (Guarded P : RunState V W M → Prop) (transition readings toStatus reason) :=
  keeps_transition (steady_guarded fun hto ↦ absurd hto h)

theorem keeps_guarded_of_onExecutor {α : Type} (x : Program (LocalDevExecutor V W) Raised α) :
    Keeps (Guarded P : RunState V W M → Prop) (onExecutor x) :=
  keeps_zoom fun _ _ h ↦ h

theorem keeps_guarded_of_onRecord {f : RecoveryRecord V M → RecoveryRecord V M}
    (h : ∀ record, (f record).machine = record.machine) :
    Keeps (Guarded P : RunState V W M → Prop) (onRecord f) :=
  triple_modify fun st hst hcommitted ↦ hst (by rwa [h] at hcommitted)

theorem keeps_guarded_of_escalate (entry : String) :
    Keeps (Guarded P : RunState V W M → Prop) (escalate entry) :=
  keeps_guarded_of_onRecord fun _ ↦ rfl

theorem keeps_guarded_of_checkCertificate :
    Keeps (Guarded P : RunState V W M → Prop) (checkCertificate lib none call) := by
  have hpure : ∀ refusal : Option (String × String),
      Keeps (Guarded P) (pure refusal : Program (RunState V W M) Raised _) :=
    fun _ ↦ triple_pure fun _ h ↦ h
  rw [checkCertificate]
  split
  · exact hpure _
  · exact hpure _
  · split
    · refine Triple.bind (triple_get fun _ h ↦ h) fun st ↦ ?_
      split
      · exact triple_raise fun _ h ↦ h
      · refine (keeps_guarded_of_onExecutor _).bind fun time ↦ ?_
        split
        · exact triple_raise fun _ h ↦ h
        · exact hpure _
    · exact hpure _

variable [PyValue V F] [FloatText F]

theorem keeps_guarded_of_compensate :
    Keeps (Guarded P : RunState V W M → Prop) (compensate collab lib none readings reason) := by
  refine (keeps_guarded_of_transition (by decide)).bind fun _ ↦ ?_
  refine Triple.bind (triple_get fun _ h ↦ h) fun st ↦ ?_
  dsimp only
  split
  · exact (keeps_guarded_of_transition (by decide)).bind fun _ ↦ keeps_guarded_of_escalate _
  · refine (keeps_guarded_of_onExecutor _).bind fun result ↦ ?_
    refine Triple.bind (keeps_guarded_of_onRecord ?_) fun _ ↦ ?_
    · exact fun _ ↦ rfl
    split
    · refine (keeps_guarded_of_transition (by decide)).bind fun _ ↦ ?_
      exact keeps_attempt (keeps_guarded_of_onExecutor _) fun _ ↦ triple_pure fun _ h ↦ h
    · exact (keeps_guarded_of_transition (by decide)).bind fun _ ↦ keeps_guarded_of_escalate _

variable [FloatMetric M] {autoCompensate : Bool}

theorem keeps_guarded_of_verify :
    Keeps (Guarded (CanaryPasses call) : RunState V W M → Prop)
      (verify collab lib none autoCompensate call) := by
  refine Triple.bind (triple_get fun _ h ↦ h) fun st ↦ ?_
  dsimp only
  refine Triple.bind (keeps_guarded_of_onRecord ?_) fun _ ↦ ?_
  · exact fun _ ↦ rfl
  refine (keeps_guarded_of_transition (by decide)).bind fun _ ↦ ?_
  refine Triple.bind (keeps_guarded_of_onRecord ?_) fun _ ↦ ?_
  · exact fun _ ↦ rfl
  split
  · rename_i hpass
    exact keeps_transition (steady_guarded fun _ ↦ hpass)
  · split
    · exact keeps_guarded_of_compensate
    · exact (keeps_guarded_of_transition (by decide)).bind fun _ ↦ keeps_guarded_of_escalate _

theorem keeps_guarded_of_act :
    Keeps (Guarded (CanaryPasses call) : RunState V W M → Prop)
      (act collab lib none autoCompensate call) := by
  have hexecute : Keeps (Guarded (CanaryPasses call) : RunState V W M → Prop)
      (execute collab lib call) :=
    keeps_attempt (keeps_guarded_of_onExecutor _) fun _ ↦ triple_pure fun _ h ↦ h
  refine hexecute.bind fun result ↦ Triple.bind (keeps_guarded_of_onRecord ?_) fun _ ↦ ?_
  · exact fun _ ↦ rfl
  split
  · exact keeps_guarded_of_verify
  · exact keeps_guarded_of_compensate

theorem keeps_guarded_of_mutatingRun :
    Keeps (Guarded (CanaryPasses call) : RunState V W M → Prop)
      (mutatingRun collab lib none autoCompensate call) := by
  refine (keeps_guarded_of_transition (by decide)).bind fun _ ↦ ?_
  refine keeps_guarded_of_checkCertificate.bind fun refusal ↦ ?_
  cases refusal with
  | some refusal =>
    exact (keeps_guarded_of_transition (by decide)).bind fun _ ↦ keeps_guarded_of_escalate _
  | none => exact (keeps_guarded_of_transition (by decide)).bind fun _ ↦ keeps_guarded_of_act

/-- **Nothing is committed without a canary that passes**, but in a dry run, in which nothing is done. -/
theorem keeps_guarded_of_runBody (hmode : call.proposal.executionMode ≠ .dryRun) :
    Keeps (Guarded (CanaryPasses call) : RunState V W M → Prop)
      (runBody collab lib none autoCompensate call) := by
  refine (keeps_guarded_of_transition (by decide)).bind fun _ ↦ ?_
  rw [if_neg hmode]
  split
  · exact (keeps_guarded_of_transition (by decide)).bind fun _ ↦ keeps_guarded_of_escalate _
  · split
    · exact keeps_guarded_of_transition (by decide)
    · exact keeps_guarded_of_mutatingRun

end RecoveryEngine

/-! ## The protection of the episodes -/

section Protection

variable {V F W : Type} [PyValue V F] [FloatText F] (collab : Collaborators V W) (lib : Library F)
  (thresholds : Option (CanaryThresholds ℚ)) (episodes : List (CanaryEpisode ℚ))

open RecoveryEngine in
/-- A canary that passes admits no new violation and respects the thresholds, and the engine commits
no action that made a safe episode unsafe. Nothing is done in a dry run. -/
structure CanaryProtects : Prop where
  verification : ∀ proposalId,
    (runCanaryVerification proposalId episodes thresholds).overallPass = true →
    StaysSafe episodes ∧ RespectsThresholds (thresholds.getD .default) episodes
  engine : ∀ (call : RunCall V ℚ) (engine : RecoveryEngine V W ℚ),
    call.canaryEpisodes = episodes → call.canaryThresholds = thresholds →
    call.proposal.executionMode ≠ .dryRun →
    ∀ record, (call.proposal.proposalId, record) ∈ (run collab lib call engine).2.records →
    record.machine.currentStatus = committed → StaysSafe episodes

/-- **New violations** are kept out if and only if none is masked. -/
theorem canaryProtects_iff :
    CanaryProtects collab lib thresholds episodes ↔ ¬ Masked thresholds episodes := by
  constructor
  · rintro h ⟨hbroken, houtweighed, hrespects⟩
    have hnil : episodes ≠ [] := by
      obtain ⟨ep, hep, -⟩ := hbroken
      exact List.ne_nil_of_mem hep
    have hpass : (runCanaryVerification "" episodes thresholds).overallPass = true :=
      overallPass_iff.mpr ⟨hnil, houtweighed, hrespects⟩
    exact staysSafe_iff.mp (h.verification "" hpass).1 hbroken
  · intro hmasked
    have hverification : ∀ proposalId,
        (runCanaryVerification proposalId episodes thresholds).overallPass = true →
        StaysSafe episodes ∧ RespectsThresholds (thresholds.getD .default) episodes := by
      intro proposalId hpass
      obtain ⟨-, houtweighed, hrespects⟩ := overallPass_iff.mp hpass
      exact ⟨staysSafe_iff.mpr fun hbroken ↦ hmasked ⟨hbroken, houtweighed, hrespects⟩, hrespects⟩
    refine ⟨hverification, fun call engine hepisodes hthresholds hmode record hrecord hcommitted ↦ ?_⟩
    have hguarded : RecoveryEngine.Guarded (RecoveryEngine.CanaryPasses call)
        (RecoveryEngine.runBody collab lib none engine.autoCompensate call
          (RecoveryEngine.start call engine)).2 :=
      (RecoveryEngine.keeps_guarded_of_runBody hmode).final fun hstart ↦
        absurd hstart (by decide : proposed ≠ committed)
    obtain rfl := eq_of_mem_setItem hrecord
    have hpass := hguarded hcommitted
    rw [RecoveryEngine.CanaryPasses, hepisodes, hthresholds] at hpass
    exact (hverification _ hpass).1

end Protection

/-! ## A masked violation -/

/-- An episode whose metrics do not change. -/
def steadyEpisode (episodeId : String) (baselineSafe postSafe : Bool) : CanaryEpisode ℚ where
  episodeId
  baselineQuality := 1
  baselineCostUsd := 0
  baselineLatencyMs := 0
  baselineSafe
  postQuality := 1
  postCostUsd := 0
  postLatencyMs := 0
  postSafe

/-- One episode becomes unsafe, and another one safe. -/
def swappedEpisodes : List (CanaryEpisode ℚ) :=
  [steadyEpisode "a" true false, steadyEpisode "b" false true]

/-- A simulated recovery with these episodes. -/
def swappedRun : RunCall (Scalar Empty) ℚ :=
  { RecoveryEngine.manualRun with
    proposal := { RecoveryEngine.manualRun.proposal with executionMode := .simulation }
    canaryEpisodes := swappedEpisodes }

/-- The canary passes, and the engine commits the action. -/
theorem not_canaryProtects_swapped : ¬ CanaryProtects RecoveryEngine.idleCollaborators
    RecoveryEngine.verifyingLibrary none swappedEpisodes := by
  intro h
  have hcommitted : ((RecoveryEngine.run RecoveryEngine.idleCollaborators
      RecoveryEngine.verifyingLibrary swappedRun RecoveryEngine.emptyEngine).2.records.map
        fun m ↦ (m.1, m.2.machine.currentStatus)) = [("p", committed)] := by decide +kernel
  obtain ⟨⟨key, record⟩, hmem, heq⟩ := List.mem_map.mp (hcommitted ▸ List.mem_singleton_self _)
  obtain ⟨rfl, hstatus⟩ := Prod.mk.inj heq
  have hsafe := h.engine swappedRun RecoveryEngine.emptyEngine rfl rfl (by decide) record hmem
    hstatus
  exact absurd (hsafe (steadyEpisode "a" true false) List.mem_cons_self rfl) (by decide)

end DriftGuardX.Recovery
