import DriftGuardX.Bcrb.Orchestrator

/-!
# The order of tests

What is measured of a candidate does not change what the others are worth, and no cost counts. So a
session tests the candidates that it can afford in the order of the utilities that the planner gave
them, and the utility that it observes in a step that has measured something is that of the step's
candidate (`Sound`).
-/

namespace DriftGuardX.Bcrb

open Isolation (Uuid)

variable {R : Type} [LinearOrder R] [Add R] [Sub R] [Mul R] [Div R] {lib : FloatLibrary R}

/-! ## One step of a canary -/

theorem clean_measured :
    BCRBSession.clean "CLEAN: Measured via actual ReplayEngine execution." = true := by
  decide +kernel

/-- A step is of its candidate, has no cost that counts, and is clean when it has measured anything. -/
structure CanaryOutcome.StepSpec (candidateId : Uuid) (step : BCRBStep R) : Prop where
  candidateId : step.candidateId = candidateId
  cost : ∀ cost ∈ step.costIncurred, cost.measurementStatus ≠ "ACTUAL"
  effect : (step.recoveryEffect = none ∧ step.utilityObserved = none) ∨
    (step.recoveryEffect.isSome ∧ BCRBSession.clean step.decisionReason = true)

theorem CanaryOutcome.stepSpec {outcome : CanaryOutcome R} {candidateId : Uuid} {step : BCRBStep R}
    (h : outcome.step lib candidateId = some step) : CanaryOutcome.StepSpec candidateId step := by
  cases outcome with
  | raised => contradiction
  | measured id cost reliabilityDelta =>
    obtain rfl := Option.some.inj h
    exact ⟨rfl, by simp, Or.inr ⟨rfl, clean_measured⟩⟩
  -- every other step has measured nothing
  | _ =>
    obtain rfl := Option.some.inj h
    exact ⟨rfl, by simp [unmeasured], Or.inl ⟨rfl, rfl⟩⟩

theorem CanaryOutcome.replayEpisodeId_of_step {outcome : CanaryOutcome R} {candidateId : Uuid}
    {step : BCRBStep R} (h : outcome.step lib candidateId = some step) :
    outcome.replayEpisodeId = step.replayEpisodeId ∧
      (step.recoveryEffect.isSome → step.replayEpisodeId.isSome) := by
  cases outcome with
  | raised => contradiction
  | measured id cost reliabilityDelta =>
    obtain rfl := Option.some.inj h
    exact ⟨rfl, fun _ ↦ rfl⟩
  | _ =>
    obtain rfl := Option.some.inj h
    exact ⟨rfl, fun hsome ↦ nomatch hsome⟩

namespace BCRBSession

variable {s : BCRBSession R} {c : BCRBCandidate R} {step : BCRBStep R}

omit [LinearOrder R] [Sub R] [Mul R] [Div R] in
theorem spent_eq (h : ∀ cost ∈ step.costIncurred, cost.measurementStatus ≠ "ACTUAL") :
    s.spent step = s.totalSpentUsd := by
  rw [spent]
  split
  · rename_i cost hcost
    exact if_neg (h cost hcost)
  · rfl

theorem record_of_unmeasured (hspec : CanaryOutcome.StepSpec c.candidateId step)
    (h : step.recoveryEffect = none) :
    s.record lib c step = { s with
      steps := s.steps ++ [step]
      testedCandidateIds := s.testedCandidateIds ++ [c.candidateId] } := by
  simp only [record, h, spent_eq hspec.cost]

theorem record_of_measured (hspec : CanaryOutcome.StepSpec c.candidateId step) {reliabilityDelta : R}
    (h : step.recoveryEffect = some reliabilityDelta) :
    s.record lib c step = { s with
      candidates := s.candidates.map
        (believe lib (s.testedCandidateIds ++ [c.candidateId]) c.candidateId reliabilityDelta)
      steps := s.steps ++ [{ step with utilityObserved := some c.estimatedUtility }]
      testedCandidateIds := s.testedCandidateIds ++ [c.candidateId] } := by
  have hclean : clean step.decisionReason = true := by
    rcases hspec.effect with ⟨hnone, -⟩ | ⟨-, hclean⟩
    · rw [h] at hnone
      contradiction
    · exact hclean
  simp only [record, h, hclean, if_true, spent_eq hspec.cost]

/-! ## The candidate that is next -/

/-- The next candidate is untested and affordable, and has the highest utility of those that are. -/
theorem exists_of_next (h : s.next lib = some c) :
    c ∈ s.candidates ∧ c.candidateId ∉ s.testedCandidateIds ∧ s.affordable c ∧
      ∀ d ∈ s.candidates, d.candidateId ∉ s.testedCandidateIds → s.affordable d →
        d.estimatedUtility ≤ c.estimatedUtility := by
  rw [next] at h
  split at h
  · contradiction
  · obtain ⟨haffordable, first, rest, hsplit, hfirst⟩ := List.find?_eq_some_iff_append.mp h
    have hmem : ∀ d, d ∈ first ++ c :: rest ↔
        d ∈ s.candidates ∧ d.candidateId ∉ s.testedCandidateIds := by
      intro d
      rw [← hsplit, byUtility, List.mem_insertionSort, List.mem_filter]
      simp
    have hsorted : (first ++ c :: rest).Pairwise fun c d ↦ d.estimatedUtility ≤ c.estimatedUtility := by
      rw [← hsplit, byUtility]
      have : Std.Total fun c d : BCRBCandidate R ↦ d.estimatedUtility ≤ c.estimatedUtility :=
        ⟨fun c d ↦ le_total d.estimatedUtility c.estimatedUtility⟩
      have : IsTrans (BCRBCandidate R) fun c d ↦ d.estimatedUtility ≤ c.estimatedUtility :=
        ⟨fun _ _ _ h h' ↦ h'.trans h⟩
      exact List.pairwise_insertionSort _ _
    obtain ⟨hc, huntested⟩ := (hmem c).mp (List.mem_append_right _ List.mem_cons_self)
    refine ⟨hc, huntested, haffordable, fun d hd hnew haff ↦ ?_⟩
    rcases List.mem_append.mp ((hmem d).mpr ⟨hd, hnew⟩) with hbefore | hafter
    · have hno := hfirst d hbefore
      rw [haff] at hno
      contradiction
    · rcases List.mem_cons.mp hafter with rfl | hrest
      · exact le_rfl
      · exact (List.pairwise_cons.mp (List.pairwise_append.mp hsorted).2.1).1 d hrest

end BCRBSession

/-! ## The invariant -/

/-- A candidate as the planner made it. -/
def BCRBCandidate.planned (c : BCRBCandidate R) : BCRBCandidate R := { c with posterior := none }

/-- What a step says of its candidate: nothing, or the candidate's utility, and then the candidate has
a posterior. -/
def Tells (lib : FloatLibrary R) (u : Uuid → R) (step : BCRBStep R) (c : BCRBCandidate R) : Prop :=
  match step.recoveryEffect with
  | none => step.utilityObserved = none ∧ c.posterior = none
  | some _ => step.utilityObserved = some (u c.candidateId) ∧
      ∃ p, c.posterior = some p ∧ lib.literal 0 ≤ p

/-- The utilities of the candidates are those of the planner, the tested ones are those of the steps,
each of which tells what it should, and they were tested in the order of their utilities. -/
structure Sound (lib : FloatLibrary R) (u : Uuid → R) (s : BCRBSession R) : Prop where
  nodup : (s.candidates.map BCRBCandidate.candidateId).Nodup
  utility : ∀ c ∈ s.candidates, c.estimatedUtility = u c.candidateId ∧
    c.planned.utility lib = u c.candidateId
  nonneg : ∀ c ∈ s.candidates, lib.literal 0 ≤ u c.candidateId
  untested : ∀ c ∈ s.candidates, c.candidateId ∉ s.testedCandidateIds → c.posterior = none
  tested : s.testedCandidateIds = s.steps.map BCRBStep.candidateId
  distinct : s.testedCandidateIds.Nodup
  known : ∀ step ∈ s.steps, ∃ c ∈ s.candidates, c.candidateId = step.candidateId
  tells : ∀ step ∈ s.steps, ∀ c ∈ s.candidates, c.candidateId = step.candidateId →
    Tells lib u step c
  order : s.steps.Pairwise fun step later ↦ u later.candidateId ≤ u step.candidateId
  ahead : ∀ step ∈ s.steps, ∀ c ∈ s.candidates, c.candidateId ∉ s.testedCandidateIds →
    s.affordable c → u c.candidateId ≤ u step.candidateId

namespace BCRBSession

variable {u : Uuid → R} {s : BCRBSession R} {c d : BCRBCandidate R} {step : BCRBStep R}

omit [LinearOrder R] [Add R] [Sub R] [Mul R] [Div R] in
theorem eq_of_candidateId (h : (s.candidates.map BCRBCandidate.candidateId).Nodup)
    (hc : c ∈ s.candidates) (hd : d ∈ s.candidates) (hid : c.candidateId = d.candidateId) : c = d :=
  List.inj_on_of_nodup_map h hc hd hid

/-- A turn that changes nothing but the posterior of the next candidate, and adds a step that tells
what it should. -/
theorem sound_extend {f : BCRBCandidate R → BCRBCandidate R} (h : Sound lib u s)
    (hnext : s.next lib = some c)
    (hother : ∀ d ∈ s.candidates, d.candidateId ≠ c.candidateId → f d = d)
    (hself : ∃ p, f c = { c with posterior := p }) (hid : step.candidateId = c.candidateId)
    (htells : Tells lib u step (f c)) :
    Sound lib u { s with
      candidates := s.candidates.map f
      steps := s.steps ++ [step]
      testedCandidateIds := s.testedCandidateIds ++ [c.candidateId] } := by
  obtain ⟨hc, huntested, haffordable, hmax⟩ := exists_of_next hnext
  obtain ⟨posterior, hposterior⟩ := hself
  -- what a candidate has become
  have hcases : ∀ d ∈ s.candidates, d = c ∨ (d.candidateId ≠ c.candidateId ∧ f d = d) := by
    intro d hd
    by_cases hne : d.candidateId = c.candidateId
    · exact Or.inl (eq_of_candidateId h.nodup hd hc hne)
    · exact Or.inr ⟨hne, hother d hd hne⟩
  have hsame : ∀ d ∈ s.candidates, (f d).planned = d.planned := by
    intro d hd
    rcases hcases d hd with rfl | ⟨-, heq⟩
    · rw [hposterior]
      rfl
    · rw [heq]
  have hids : ∀ d ∈ s.candidates, (f d).candidateId = d.candidateId := by
    intro d hd
    have heq := congrArg BCRBCandidate.candidateId (hsame d hd)
    exact heq
  have hutilities : ∀ d ∈ s.candidates, (f d).estimatedUtility = d.estimatedUtility := by
    intro d hd
    have heq := congrArg BCRBCandidate.estimatedUtility (hsame d hd)
    exact heq
  have hcosts : ∀ d ∈ s.candidates, (f d).totalCost = d.totalCost := by
    intro d hd
    have heq := congrArg BCRBCandidate.totalCost (hsame d hd)
    exact heq
  -- the candidates that are left were there before
  have hleft : ∀ d ∈ s.candidates, (f d).candidateId ∉ s.testedCandidateIds ++ [c.candidateId] →
      d.candidateId ∉ s.testedCandidateIds ∧ d.candidateId ≠ c.candidateId := by
    intro d hd hnew
    rw [hids d hd, List.mem_append, List.mem_singleton, not_or] at hnew
    exact hnew
  refine ⟨?_, ?_, ?_, ?_, ?_, ?_, ?_, ?_, ?_, ?_⟩
  · have hmap : (s.candidates.map f).map BCRBCandidate.candidateId
        = s.candidates.map BCRBCandidate.candidateId := by
      rw [List.map_map]
      exact List.map_congr_left hids
    rw [hmap]
    exact h.nodup
  · intro d' hd'
    obtain ⟨d, hd, rfl⟩ := List.mem_map.mp hd'
    rw [hids d hd, hutilities d hd, hsame d hd]
    exact h.utility d hd
  · intro d' hd'
    obtain ⟨d, hd, rfl⟩ := List.mem_map.mp hd'
    rw [hids d hd]
    exact h.nonneg d hd
  · intro d' hd' hnew
    obtain ⟨d, hd, rfl⟩ := List.mem_map.mp hd'
    obtain ⟨hold, hne⟩ := hleft d hd hnew
    rw [hother d hd hne]
    exact h.untested d hd hold
  · rw [List.map_append, h.tested, List.map_singleton, hid]
  · refine List.nodup_append.mpr ⟨h.distinct, List.nodup_singleton _, fun a ha b hb ↦ ?_⟩
    obtain rfl := List.mem_singleton.mp hb
    rintro rfl
    exact huntested ha
  · intro new hnew
    rcases List.mem_append.mp hnew with hold | hnew
    · obtain ⟨d, hd, heq⟩ := h.known new hold
      exact ⟨f d, List.mem_map_of_mem hd, (hids d hd).trans heq⟩
    · obtain rfl := List.mem_singleton.mp hnew
      exact ⟨f c, List.mem_map_of_mem hc, (hids c hc).trans hid.symm⟩
  · intro new hnew d' hd' heq
    obtain ⟨d, hd, rfl⟩ := List.mem_map.mp hd'
    rcases List.mem_append.mp hnew with hold | hnew
    · rcases hcases d hd with rfl | ⟨-, hkept⟩
      · have htested : new.candidateId ∈ s.testedCandidateIds :=
          h.tested ▸ List.mem_map_of_mem hold
        rw [← heq, hids d hd] at htested
        exact absurd htested huntested
      · rw [hkept] at heq ⊢
        exact h.tells new hold d hd heq
    · obtain rfl := List.mem_singleton.mp hnew
      rw [hids d hd, hid] at heq
      obtain rfl := eq_of_candidateId h.nodup hd hc heq
      exact htells
  · refine List.pairwise_append.mpr ⟨h.order, List.pairwise_singleton _ _, fun a ha b hb ↦ ?_⟩
    obtain rfl := List.mem_singleton.mp hb
    rw [hid]
    exact h.ahead a ha c hc huntested haffordable
  · intro new hnew d' hd' hleft' haff
    obtain ⟨d, hd, rfl⟩ := List.mem_map.mp hd'
    obtain ⟨hold, -⟩ := hleft d hd hleft'
    have haff' : s.affordable d := by
      rw [affordable, hcosts d hd] at haff
      exact haff
    rw [hids d hd]
    rcases List.mem_append.mp hnew with hstep | hnew
    · exact h.ahead new hstep d hd hold haff'
    · obtain rfl := List.mem_singleton.mp hnew
      rw [hid, ← (h.utility d hd).1, ← (h.utility c hc).1]
      exact hmax d hd hold haff'

/-- Beliefs change the posterior of one candidate. -/
theorem believe_eq {tested : List Uuid} {id : Uuid} {reliabilityDelta : R}
    (hutility : d.estimatedUtility = u d.candidateId ∧
      d.planned.utility lib = u d.candidateId)
    (hid : id ∈ tested) (huntested : d.candidateId ∉ tested → d.posterior = none) :
    believe lib tested id reliabilityDelta d =
      if d.candidateId = id then
        { d with posterior := some (updatePosterior lib d.prior
          (lib.calculateCalibratedLikelihoods reliabilityDelta).1
          (lib.calculateCalibratedLikelihoods reliabilityDelta).2) }
      else d := by
  have hcontains : ∀ id, (!tested.contains id) = true ↔ id ∉ tested := by simp
  rw [believe]
  simp only [hcontains]
  split_ifs with heq hnew hnew
  · rfl
  · exact absurd (heq ▸ hid) hnew
  · rfl
  · have hnone := huntested hnew
    have hd : d.planned = d := by rw [BCRBCandidate.planned, ← hnone]
    rw [hd] at hutility
    rw [hutility.2, ← hutility.1]

/-- **One turn** keeps the invariant. -/
theorem sound_record (h : Sound lib u s) (hnext : s.next lib = some c)
    (hspec : CanaryOutcome.StepSpec c.candidateId step) : Sound lib u (s.record lib c step) := by
  obtain ⟨hc, huntested, -, -⟩ := exists_of_next hnext
  cases heffect : step.recoveryEffect with
  | none =>
    have hnone : step.utilityObserved = none := by
      rcases hspec.effect with ⟨-, hnone⟩ | ⟨hsome, -⟩
      · exact hnone
      · rw [heffect] at hsome
        contradiction
    have htells : Tells lib u step c := by
      rw [Tells, heffect]
      exact ⟨hnone, h.untested c hc huntested⟩
    rw [record_of_unmeasured hspec heffect]
    have hextended := sound_extend h hnext (fun _ _ _ ↦ rfl) ⟨c.posterior, rfl⟩ hspec.candidateId htells
    rw [show s.candidates.map (fun d ↦ d) = s.candidates from List.map_id _] at hextended
    exact hextended
  | some reliabilityDelta =>
    have hbelieve : ∀ d ∈ s.candidates, believe lib (s.testedCandidateIds ++ [c.candidateId])
        c.candidateId reliabilityDelta d = if d.candidateId = c.candidateId then
          { d with posterior := some (updatePosterior lib d.prior
            (lib.calculateCalibratedLikelihoods reliabilityDelta).1
            (lib.calculateCalibratedLikelihoods reliabilityDelta).2) }
        else d := by
      intro d hd
      refine believe_eq (h.utility d hd) (by simp) fun hnew ↦ h.untested d hd fun hold ↦ hnew ?_
      exact List.mem_append_left _ hold
    have hself := hbelieve c hc
    rw [if_pos rfl] at hself
    rw [record_of_measured hspec heffect]
    refine sound_extend h hnext (fun d hd hne ↦ ?_) ⟨_, hself⟩ hspec.candidateId ?_
    · rw [hbelieve d hd, if_neg hne]
    · rw [Tells, hself]
      simp only [heffect]
      rw [(h.utility c hc).1]
      exact ⟨rfl, _, rfl, updatePosterior_nonneg lib _ _ _⟩

/-- **The loop rule.** What every turn keeps holds of the session that the loop returns. -/
theorem loop_induction {canary : BCRBCandidate R → CanaryOutcome R} {I : BCRBSession R → Prop} {n : ℕ}
    {s' : BCRBSession R} (h : I s)
    (hturn : ∀ s c step, I s → s.next lib = some c →
      (canary c).step lib c.candidateId = some step → I (s.record lib c step))
    (hloop : s.loop lib canary n = some s') : I s' := by
  induction n generalizing s with
  | zero => exact Option.some.inj hloop ▸ h
  | succ n ih =>
    rw [loop] at hloop
    split at hloop
    · exact Option.some.inj hloop ▸ h
    · rename_i c hnext
      obtain ⟨step, hstep, hloop⟩ := Option.bind_eq_some_iff.mp hloop
      have hrecord := hturn s c step h hnext hstep
      dsimp only at hloop
      split at hloop
      · exact Option.some.inj hloop ▸ hrecord
      · exact ih hrecord hloop

theorem sound_of_loop {canary : BCRBCandidate R → CanaryOutcome R} {n : ℕ} {s' : BCRBSession R}
    (h : Sound lib u s) (hloop : s.loop lib canary n = some s') : Sound lib u s' :=
  loop_induction h
    (fun _ _ _ hs hnext hstep ↦ sound_record hs hnext (CanaryOutcome.stepSpec hstep)) hloop

/-- The steps are those of canaries, and one that has measured something has a replay. -/
def Drawn (canary : BCRBCandidate R → CanaryOutcome R) (s : BCRBSession R) : Prop :=
  ∀ step ∈ s.steps, (∃ c : BCRBCandidate R, c.candidateId = step.candidateId ∧
    (canary c).replayEpisodeId = step.replayEpisodeId) ∧
    (step.recoveryEffect.isSome → step.replayEpisodeId.isSome)

theorem drawn_record {canary : BCRBCandidate R → CanaryOutcome R} (h : s.Drawn canary)
    (hstep : (canary c).step lib c.candidateId = some step) : (s.record lib c step).Drawn canary := by
  have hspec := CanaryOutcome.stepSpec hstep
  obtain ⟨hreplay, hmeasured⟩ := CanaryOutcome.replayEpisodeId_of_step hstep
  intro new hnew
  cases heffect : step.recoveryEffect with
  | none =>
    rw [record_of_unmeasured hspec heffect] at hnew
    rcases List.mem_append.mp hnew with hold | hnew
    · exact h new hold
    · obtain rfl := List.mem_singleton.mp hnew
      exact ⟨⟨c, hspec.candidateId.symm, hreplay⟩, hmeasured⟩
  | some reliabilityDelta =>
    rw [record_of_measured hspec heffect] at hnew
    rcases List.mem_append.mp hnew with hold | hnew
    · exact h new hold
    · obtain rfl := List.mem_singleton.mp hnew
      exact ⟨⟨c, hspec.candidateId.symm, hreplay⟩, hmeasured⟩

variable (lib s) in
theorem length_of_record (hspec : CanaryOutcome.StepSpec c.candidateId step) :
    (s.record lib c step).candidates.length = s.candidates.length ∧
      (s.record lib c step).testedCandidateIds.length = s.testedCandidateIds.length + 1 := by
  cases heffect : step.recoveryEffect with
  | none =>
    rw [record_of_unmeasured hspec heffect]
    exact ⟨rfl, List.length_append⟩
  | some reliabilityDelta =>
    rw [record_of_measured hspec heffect]
    exact ⟨List.length_map _, List.length_append⟩

theorem length_tested_le (h : Sound lib u s) : s.testedCandidateIds.length ≤ s.candidates.length := by
  have hsubset : s.testedCandidateIds ⊆ s.candidates.map BCRBCandidate.candidateId := by
    intro id hid
    rw [h.tested] at hid
    obtain ⟨step, hstep, rfl⟩ := List.mem_map.mp hid
    obtain ⟨c, hc, heq⟩ := h.known step hstep
    exact heq ▸ List.mem_map_of_mem hc
  have hle := (List.subperm_of_subset h.distinct hsubset).length_le
  rwa [List.length_map] at hle

end BCRBSession

/-! ## Whole sessions -/

theorem Proposal.nonneg (p : Proposal lib) : lib.literal 0 ≤ p.candidate.estimatedUtility := by
  have hprior : lib.literal 0 ≤ p.prior := (lib.literal_mono (by norm_num)).trans p.likely.le
  have hone : lib.literal 0 ≤ lib.literal 1 := lib.literal_mono (by norm_num)
  obtain ⟨hcost, hrisk, hblast, hdelta, hgain⟩ : lib.literal 0 ≤ p.totalCost ∧
      lib.literal 0 ≤ p.riskEstimate ∧ lib.literal 0 ≤ p.blastRadiusEstimate ∧
      lib.literal 0 ≤ p.expectedReliabilityDelta ∧ lib.literal 0 ≤ p.expectedInformationGain := by
    simpa using p.estimates
  have hnumerator := lib.mul_nonneg _ _ (lib.mul_nonneg _ _ hprior hdelta) hgain
  have hrisks := lib.add_nonneg _ _ hcost (lib.mul_nonneg _ _ hone hrisk)
  have hradius := lib.add_nonneg _ _ hrisks (lib.mul_nonneg _ _ hone hblast)
  have hepsilon : lib.literal 0 ≤ lib.literal (1 / 1000000) := lib.literal_mono (by norm_num)
  have hdenominator := lib.add_nonneg _ _ hradius hepsilon
  exact lib.div_nonneg _ _ hnumerator hdenominator

namespace Plan

variable (plan : Plan lib)

theorem mem_candidates {c : BCRBCandidate R} :
    c ∈ plan.candidates ↔ ∃ p ∈ plan.proposals, p.candidate = c := by
  rw [candidates, byUtility, List.mem_insertionSort, List.mem_map]

theorem nodup_candidates : (plan.candidates.map BCRBCandidate.candidateId).Nodup := by
  have hperm : plan.candidates.Perm (plan.proposals.map Proposal.candidate) :=
    List.perm_insertionSort _ _
  rw [(hperm.map _).nodup_iff, List.map_map]
  exact plan.nodup

/-- The utility that the planner gave to the candidate with an id. -/
def utilityOf (id : Uuid) : R :=
  ((plan.candidates.find? fun c ↦ c.candidateId = id).map BCRBCandidate.estimatedUtility).getD
    (lib.literal 0)

theorem utilityOf_of_mem {c : BCRBCandidate R} (h : c ∈ plan.candidates) :
    plan.utilityOf c.candidateId = c.estimatedUtility := by
  rw [utilityOf]
  cases hfind : plan.candidates.find? fun d ↦ d.candidateId = c.candidateId with
  | none => exact absurd (List.find?_eq_none.mp hfind c h) (by simp)
  | some d =>
    have hid : d.candidateId = c.candidateId := by simpa using List.find?_some hfind
    obtain rfl := List.inj_on_of_nodup_map plan.nodup_candidates (List.mem_of_find?_eq_some hfind) h hid
    rfl

theorem sound_start (budgetUsd : R) : Sound lib plan.utilityOf (BCRBSession.start budgetUsd plan) where
  nodup := plan.nodup_candidates
  utility c hc := by
    rw [plan.utilityOf_of_mem hc]
    obtain ⟨p, -, rfl⟩ := plan.mem_candidates.mp hc
    exact ⟨rfl, rfl⟩
  nonneg c hc := by
    rw [plan.utilityOf_of_mem hc]
    obtain ⟨p, -, rfl⟩ := plan.mem_candidates.mp hc
    exact p.nonneg
  untested c hc _ := by
    obtain ⟨p, -, rfl⟩ := plan.mem_candidates.mp hc
    rfl
  tested := rfl
  distinct := List.nodup_nil
  known _ h := absurd h List.not_mem_nil
  tells _ h := absurd h List.not_mem_nil
  order := List.Pairwise.nil
  ahead _ h := absurd h List.not_mem_nil

/-- **Every session** ends with what the planner and the steps say. -/
theorem sound_of_executeSession {budgetUsd : R} {canary : BCRBCandidate R → CanaryOutcome R}
    {s : BCRBSession R} (h : executeSession budgetUsd plan canary = some s) :
    Sound lib plan.utilityOf s :=
  BCRBSession.sound_of_loop (plan.sound_start budgetUsd) h

theorem drawn_of_executeSession {budgetUsd : R} {canary : BCRBCandidate R → CanaryOutcome R}
    {s : BCRBSession R} (h : executeSession budgetUsd plan canary = some s) : s.Drawn canary :=
  BCRBSession.loop_induction (fun _ hstep ↦ absurd hstep List.not_mem_nil)
    (fun _ _ _ hs _ hstep ↦ BCRBSession.drawn_record hs hstep) h

end Plan

end DriftGuardX.Bcrb
