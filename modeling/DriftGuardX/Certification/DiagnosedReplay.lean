import DriftGuardX.Certification.RecoveryLoop

/-!
# The replay that is certified

The diagnosis looks at posteriors, the request at observed utilities. Utilities are observed in the
order of the planner's estimates, so the replay that is requested is that of the first step that has
measured anything (`bestStep_eq`), whatever was measured later.

It is the replay of a diagnosed candidate exactly when that first step's candidate is one
(`certifiesDiagnosed_iff`).
-/

namespace DriftGuardX.Certification

open Bcrb Bytes Json Transaction
open Isolation (Uuid)
open Replay (ComponentType)

variable {R : Type} [LinearOrder R] [Add R] [Sub R] [Mul R] [Div R] {lib : FloatLibrary R}

/-! ## The two choices -/

/-- A first element that is larger than those before it and not smaller than those after it. -/
theorem argmax_eq_of_split {α β : Type*} [LinearOrder β] {f : α → β} {first rest : List α} {a : α}
    (hbefore : ∀ b ∈ first, f b < f a) (hafter : ∀ b ∈ rest, f b ≤ f a) :
    (first ++ a :: rest).argmax f = some a := by
  induction rest using List.reverseRecOn with
  | nil =>
    rw [List.argmax_concat]
    cases hmax : first.argmax f with
    | none => rfl
    | some c => exact if_pos (hbefore c (List.argmax_mem hmax))
  | append_singleton rest b ih =>
    have hrest := ih fun c hc ↦ hafter c (List.mem_append_left _ hc)
    rw [← List.cons_append, ← List.append_assoc, List.argmax_concat, hrest]
    exact if_neg (not_lt.mpr (hafter b (by simp)))

section Sound

variable {u : Uuid → R} {s : BCRBSession R} {c : BCRBCandidate R} {step : BCRBStep R}

omit [LinearOrder R] [Add R] [Sub R] [Mul R] [Div R] in
theorem candidateOf_eq (h : (s.candidates.map BCRBCandidate.candidateId).Nodup)
    (hc : c ∈ s.candidates) (hid : c.candidateId = step.candidateId) :
    candidateOf s.candidates step.candidateId = some c := by
  rw [candidateOf]
  cases hfind : s.candidates.reverse.find? fun d ↦ d.candidateId = step.candidateId with
  | none => exact absurd (List.find?_eq_none.mp hfind c (List.mem_reverse.mpr hc)) (by simp [hid])
  | some d =>
    have hd := List.mem_reverse.mp (List.mem_of_find?_eq_some hfind)
    have hsame : d.candidateId = step.candidateId := by simpa using List.find?_some hfind
    rw [BCRBSession.eq_of_candidateId h hd hc (hsame.trans hid.symm)]

theorem evaluated_eq_some_iff (h : Sound lib u s) (hstep : step ∈ s.steps) {posterior : R} :
    evaluated s.candidates step = some (c, posterior) ↔
      c ∈ s.candidates ∧ c.candidateId = step.candidateId ∧ c.posterior = some posterior := by
  obtain ⟨d, hd, hid⟩ := h.known step hstep
  have hfound := candidateOf_eq h.nodup hd hid
  constructor
  · intro hevaluated
    obtain ⟨c', hc', hpair⟩ := Option.bind_eq_some_iff.mp hevaluated
    obtain ⟨p, hp, hpair⟩ := Option.bind_eq_some_iff.mp hpair
    obtain ⟨rfl, rfl⟩ := Prod.mk.inj (Option.some.inj hpair)
    obtain rfl := Option.some.inj (hfound.symm.trans hc')
    exact ⟨hd, hid, hp⟩
  · rintro ⟨hc, hcid, hposterior⟩
    rw [evaluated, candidateOf_eq h.nodup hc hcid, Option.bind_eq_bind, Option.bind_some, hposterior]
    rfl

theorem measured_of_evaluated (h : Sound lib u s) (hstep : step ∈ s.steps) {posterior : R}
    (hevaluated : evaluated s.candidates step = some (c, posterior)) :
    step.recoveryEffect.isSome ∧ lib.literal 0 ≤ posterior := by
  obtain ⟨hc, hid, hposterior⟩ := (evaluated_eq_some_iff h hstep).mp hevaluated
  have htells := h.tells step hstep c hc hid
  rw [Tells] at htells
  split at htells
  · rw [htells.2] at hposterior
    contradiction
  · rename_i heffect
    obtain ⟨-, p, hp, hnonneg⟩ := htells
    obtain rfl := Option.some.inj (hposterior.symm.trans hp)
    exact ⟨heffect ▸ rfl, hnonneg⟩

/-- The utility observed in a step that has measured something is that of its candidate. -/
theorem utilityObserved_eq (h : Sound lib u s) (hstep : step ∈ s.steps)
    (hmeasured : step.recoveryEffect.isSome) : step.utilityObserved = some (u step.candidateId) := by
  obtain ⟨c, hc, hid⟩ := h.known step hstep
  have htells := h.tells step hstep c hc hid
  rw [Tells] at htells
  split at htells
  · rename_i heffect
    rw [heffect] at hmeasured
    contradiction
  · exact hid ▸ htells.1

theorem utilityObserved_eq_none (h : Sound lib u s) (hstep : step ∈ s.steps)
    (hunmeasured : ¬ step.recoveryEffect.isSome) : step.utilityObserved = none := by
  obtain ⟨c, hc, hid⟩ := h.known step hstep
  have htells := h.tells step hstep c hc hid
  rw [Tells] at htells
  split at htells
  · exact htells.1
  · rename_i heffect
    rw [heffect] at hunmeasured
    exact absurd rfl hunmeasured

/-- **The certified step** is the first one that has measured anything. -/
theorem bestStep_eq (h : Sound lib u s) {first : BCRBStep R}
    (hfirst : s.steps.find? (fun s ↦ s.recoveryEffect.isSome) = some first) :
    bestStep lib s.steps = some first := by
  obtain ⟨hmeasured, before, after, hsplit, hbefore⟩ := List.find?_eq_some_iff_append.mp hfirst
  have hmem : first ∈ s.steps := hsplit ▸ List.mem_append_right _ List.mem_cons_self
  have hkey : first.utilityObserved.getD (lib.literal (-1)) = u first.candidateId := by
    rw [utilityObserved_eq h hmem hmeasured, Option.getD_some]
  obtain ⟨c, hc, hid⟩ := h.known first hmem
  have hpositive : lib.literal (-1) < u first.candidateId :=
    lib.literal_neg_one_lt.trans_le (hid ▸ h.nonneg c hc)
  rw [bestStep, hsplit]
  refine argmax_eq_of_split (fun step hstep ↦ ?_) (fun step hstep ↦ ?_)
  · have hstep' : step ∈ s.steps := hsplit ▸ List.mem_append_left _ hstep
    rw [hkey, utilityObserved_eq_none h hstep' (by simpa using hbefore step hstep), Option.getD_none]
    exact hpositive
  · have hstep' : step ∈ s.steps := hsplit ▸ List.mem_append_right _ (List.mem_cons_of_mem _ hstep)
    rw [hkey]
    by_cases hlater : step.recoveryEffect.isSome
    · have horder := h.order
      rw [hsplit] at horder
      rw [utilityObserved_eq h hstep' hlater, Option.getD_some]
      exact (List.pairwise_cons.mp (List.pairwise_append.mp horder).2.1).1 step hstep
    · rw [utilityObserved_eq_none h hstep' hlater, Option.getD_none]
      exact hpositive.le

end Sound

theorem highest_eq {found : List (BCRBCandidate R × R)} (h : ∀ cand ∈ found, lib.literal 0 ≤ cand.2) :
    highest lib found = (((found.argmax Prod.snd).map Prod.snd).getD (lib.literal (-1)),
      (found.argmax Prod.snd).map Prod.fst) := by
  induction found using List.reverseRecOn with
  | nil => rfl
  | append_singleton found cand ih =>
    have hstep : highest lib (found ++ [cand]) =
        if (highest lib found).1 < cand.2 then (cand.2, some cand.1) else highest lib found := by
      rw [highest, List.foldl_append]
      rfl
    have hfound := ih fun d hd ↦ h d (List.mem_append_left _ hd)
    rw [hstep, List.argmax_concat, hfound]
    cases hmax : found.argmax Prod.snd with
    | none =>
      have hcand := lib.literal_neg_one_lt.trans_le (h cand (by simp))
      exact if_pos hcand
    | some top =>
      simp only [Option.map_some, Option.getD_some]
      split_ifs with hlt
      · rfl
      · rfl

/-! ## Diagnosed and certified -/

section Loop

variable {K F : Type} {certificates : CertificationLibrary K F} {sha256 : List UInt8 → String}

/-- The replay and the hash of a context are those of a step whose candidate has the diagnosed component
and a posterior of at least 0.80. -/
def CertifiesDiagnosed (lib : FloatLibrary R) (sha256 : List UInt8 → String) (runId : Uuid)
    (session : BCRBSession R) (interventionId : Uuid) (context : Context F) : Prop :=
  ∃ diagnosis, generateDiagnosis lib session.steps session.candidates = .ok diagnosis ∧
    ∃ step ∈ session.steps, ∃ c ∈ session.candidates, c.candidateId = step.candidateId ∧
      context.lookup "replay_episode_id" = some (.str (optionText step.replayEpisodeId)) ∧
      context.lookup "cert_hash" = some (.str (computeHash sha256 runId step.replayEpisodeId
        interventionId "bcrb_automated_pipeline" .syntheticSimulation)) ∧
      diagnosis.rootCauseComponent = some c.componentType ∧
      ∃ posterior ∈ c.posterior, lib.literal (4 / 5) ≤ posterior

/-- The candidate of the first step that has measured anything has a posterior of at least 0.80, and the
component of the first candidate with the highest posterior. -/
def DiagnosedFirst (lib : FloatLibrary R) (session : BCRBSession R) : Prop :=
  ∃ first ∈ session.steps.find? fun s ↦ s.recoveryEffect.isSome,
    ∃ cand ∈ evaluated session.candidates first, lib.literal (4 / 5) ≤ cand.2 ∧
      ∃ top ∈ (session.steps.filterMap (evaluated session.candidates)).argmax Prod.snd,
        top.1.componentType = cand.1.componentType

/-- A root cause is the component of the first candidate with the highest posterior, and some posterior
is at least 0.80. -/
theorem exists_of_generateDiagnosis {u : Uuid → R} {s : BCRBSession R} {diagnosis : Diagnosis R}
    (hs : Sound lib u s) (h : generateDiagnosis lib s.steps s.candidates = .ok diagnosis)
    (hcause : diagnosis.rootCauseComponent.isSome) :
    (∃ cand ∈ s.steps.filterMap (evaluated s.candidates), lib.literal (4 / 5) ≤ cand.2) ∧
      ∃ top ∈ (s.steps.filterMap (evaluated s.candidates)).argmax Prod.snd,
        diagnosis.rootCauseComponent = some top.1.componentType := by
  have hnonneg : ∀ cand ∈ s.steps.filterMap (evaluated s.candidates), lib.literal 0 ≤ cand.2 := by
    rintro ⟨c, posterior⟩ hcand
    obtain ⟨step, hstep, hevaluated⟩ := List.mem_filterMap.mp hcand
    exact (measured_of_evaluated hs hstep hevaluated).2
  rw [generateDiagnosis] at h
  dsimp only at h
  split at h
  · rw [← Except.ok.inj h] at hcause
    contradiction
  · split at h
    · rename_i hfound
      refine ⟨hfound, ?_⟩
      split at h
      · contradiction
      · rename_i component hcomponent
        rw [highest_eq hnonneg, Option.map_map] at hcomponent
        obtain ⟨top, htop, heq⟩ := Option.map_eq_some_iff.mp hcomponent
        exact ⟨top, htop, by rw [← Except.ok.inj h, ← heq]; rfl⟩
    · rw [← Except.ok.inj h] at hcause
      contradiction

omit [LinearOrder R] [Add R] [Sub R] [Mul R] [Div R] in
theorem candidateId_of_replayEpisodeId {canaries : Canaries R} {s : BCRBSession R}
    {step best : BCRBStep R} (hs : s.Drawn canaries.execute) (hstep : step ∈ s.steps)
    (hbest : best ∈ s.steps) (hmeasured : best.recoveryEffect.isSome)
    (h : step.replayEpisodeId = best.replayEpisodeId) : step.candidateId = best.candidateId := by
  obtain ⟨⟨c, hc, hcreplay⟩, -⟩ := hs step hstep
  obtain ⟨⟨d, hd, hdreplay⟩, hreplay⟩ := hs best hbest
  obtain ⟨id, hid⟩ := Option.isSome_iff_exists.mp (hreplay hmeasured)
  have hsame := canaries.drawn c d id (hcreplay.trans (h.trans hid)) (hdreplay.trans hid)
  rw [← hc, ← hd, hsame]

/-- What was requested is that of a diagnosed candidate when the first measured step is. -/
theorem Requested.diagnosedFirst_iff {runId : String} {runUuid interventionId : Uuid}
    {plan : Plan lib} {canaries : Canaries R} {session : BCRBSession R}
    {request : ApprovalRequestORM F} {diagnosis : Diagnosis R} {best : BCRBStep R}
    (hsession : executeSession (lib.literal 1) plan canaries.execute = some session)
    (h : Requested sha256 runId runUuid session interventionId lib request diagnosis best) :
    CertifiesDiagnosed lib sha256 runUuid session interventionId request.contextJson ↔
      DiagnosedFirst lib session := by
  have hs := plan.sound_of_executeSession hsession
  have hdrawn := plan.drawn_of_executeSession hsession
  obtain ⟨⟨⟨c, posterior⟩, hfound, hhigh⟩, top, htop, hcause⟩ :=
    exists_of_generateDiagnosis hs h.diagnosed h.rootCause
  obtain ⟨step, hstep, hevaluated⟩ := List.mem_filterMap.mp hfound
  -- some step has measured something, and the first of them is the best
  obtain ⟨first, hfirst⟩ : ∃ first,
      session.steps.find? (fun s ↦ s.recoveryEffect.isSome) = some first :=
    Option.isSome_iff_exists.mp (List.find?_isSome.mpr
      ⟨step, hstep, (measured_of_evaluated hs hstep hevaluated).1⟩)
  obtain rfl := Option.some.inj (h.certified.symm.trans (bestStep_eq hs hfirst))
  have hbest : best ∈ session.steps := List.mem_of_find?_eq_some hfirst
  have hmeasured : best.recoveryEffect.isSome := by simpa using List.find?_some hfirst
  constructor
  · rintro ⟨d, hd, other, hother, c', hc', hid, hreplay, -, hcomponent, p, hp, hhigh'⟩
    obtain rfl := Except.ok.inj (h.diagnosed.symm.trans hd)
    rw [h.context, lookup_replayEpisodeId] at hreplay
    have htext : optionText best.replayEpisodeId = optionText other.replayEpisodeId := by
      injection Option.some.inj hreplay with htext
      injection htext
    have hcandidate : other.candidateId = best.candidateId :=
      candidateId_of_replayEpisodeId hdrawn hother hbest hmeasured (optionText_injective htext).symm
    have hcand := (evaluated_eq_some_iff hs hbest).mpr ⟨hc', hid.trans hcandidate, hp⟩
    refine ⟨best, hfirst, _, hcand, hhigh', top, htop, ?_⟩
    exact Option.some.inj (hcause.symm.trans hcomponent)
  · rintro ⟨first, hfirst', ⟨c', p⟩, hcand, hhigh', top', htop', hcomponent⟩
    obtain rfl := Option.some.inj (hfirst.symm.trans hfirst')
    obtain rfl := Option.some.inj (htop.symm.trans htop')
    obtain ⟨hc', hid, hp⟩ := (evaluated_eq_some_iff hs hbest).mp hcand
    refine ⟨diagnosis, h.diagnosed, best, hbest, c', hc', hid, ?_, ?_, ?_, p, hp, hhigh'⟩
    · rw [h.context, lookup_replayEpisodeId]
    · rw [h.context, lookup_certHash]
    · rw [hcause, hcomponent]

/-- **The certified replay** is that of a diagnosed candidate exactly when the first step that has
measured anything is. -/
theorem certifiesDiagnosed_iff (pipeline : EndToEndRecoveryPipeline) {runId : String} {runUuid : Uuid}
    {plan : Plan lib} {canaries : Canaries R} {session : BCRBSession R} {interventionId : Uuid}
    {now : ℤ} {request : ApprovalRequestORM F} (hrun : certificates.uuid runId = some runUuid)
    (hsession : executeSession (lib.literal 1) plan canaries.execute = some session)
    (h : pipeline.executeRecoveryLoop certificates sha256 runId plan canaries.execute interventionId
      now = .ok (.request request)) :
    CertifiesDiagnosed lib sha256 runUuid session interventionId request.contextJson ↔
      DiagnosedFirst lib session := by
  obtain ⟨_, _, diagnosis, best, hrun', hsession', hrequested⟩ := exists_requested h
  obtain rfl := Option.some.inj (hrun.symm.trans hrun')
  obtain rfl := Option.some.inj (hsession.symm.trans hsession')
  exact hrequested.diagnosedFirst_iff hsession

end Loop

/-! ## Two sessions -/

instance [DecidableEq R] (s : BCRBSession R) : Decidable (DiagnosedFirst lib s) := by
  unfold DiagnosedFirst
  infer_instance

/-- The session and the request when the canaries of a retriever and a generator measure two differences,
and whether the first one that was tested is diagnosed. -/
theorem exists_sampleRun (forRetriever forGenerator : ℚ) (diagnosed : Bool)
    (hsession : (executeSession 1 samplePlan (sampleCanaries forRetriever forGenerator).execute).map
      (fun s ↦ decide (DiagnosedFirst exactNumbers s)) = some diagnosed)
    (hrequest : (requestOf (sampleLoop forRetriever forGenerator)).isSome) :
    ∃ session request,
      executeSession 1 samplePlan (sampleCanaries forRetriever forGenerator).execute = some session ∧
      sampleLoop forRetriever forGenerator = .ok (.request request) ∧
      (DiagnosedFirst exactNumbers session ↔ diagnosed = true) := by
  obtain ⟨session, hsession, hdiagnosed⟩ := Option.map_eq_some_iff.mp hsession
  obtain ⟨request, hrequest⟩ := Option.isSome_iff_exists.mp hrequest
  refine ⟨session, request, hsession, requestOf_eq_some_iff.mp hrequest, ?_⟩
  rw [← hdiagnosed, decide_eq_true_iff]

/-- A retriever that has recovered is diagnosed, and certified. -/
theorem certifiesDiagnosed_recovered : ∃ session request,
    executeSession 1 samplePlan (sampleCanaries (9 / 10) (-1 / 2)).execute = some session ∧
    sampleLoop (9 / 10) (-1 / 2) = .ok (.request request) ∧
    CertifiesDiagnosed exactNumbers hexDigest 2 session 4 request.contextJson := by
  obtain ⟨session, request, hsession, hrequest, hdiagnosed⟩ :=
    exists_sampleRun (9 / 10) (-1 / 2) true (by decide +kernel) (by decide +kernel)
  have hrun : (numberedKeys (F := WholeFloat)).uuid (Replay.uuidText 2) = some 2 :=
    numberedKeys.uuid_uuidText 2
  have hiff := certifiesDiagnosed_iff samplePipeline hrun hsession hrequest
  exact ⟨session, request, hsession, hrequest, hiff.mpr (hdiagnosed.mpr rfl)⟩

/-- When the retriever has not recovered and the generator has, the generator is diagnosed, but the
replay of the retriever is certified. -/
theorem not_certifiesDiagnosed_secondTested : ∃ session request,
    executeSession 1 samplePlan (sampleCanaries (-1 / 2) (9 / 10)).execute = some session ∧
    sampleLoop (-1 / 2) (9 / 10) = .ok (.request request) ∧
    ¬ CertifiesDiagnosed exactNumbers hexDigest 2 session 4 request.contextJson := by
  obtain ⟨session, request, hsession, hrequest, hdiagnosed⟩ :=
    exists_sampleRun (-1 / 2) (9 / 10) false (by decide +kernel) (by decide +kernel)
  obtain ⟨runUuid, s, diagnosis, best, hrun, hs, hrequested⟩ := exists_requested hrequest
  obtain rfl := Option.some.inj (hsession.symm.trans hs)
  obtain rfl := Option.some.inj ((numberedKeys (F := WholeFloat)).uuid_uuidText 2 ▸ hrun)
  have hiff := hrequested.diagnosedFirst_iff hsession
  refine ⟨session, request, hsession, hrequest, fun hcertifies ↦ ?_⟩
  exact absurd (hdiagnosed.mp (hiff.mp hcertifies)) (by simp)

end DriftGuardX.Certification
