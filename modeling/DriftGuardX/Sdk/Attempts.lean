import DriftGuardX.Sdk.Client

/-!
# The attempts at a chunk

A chunk is accepted by the first response with success that its attempts meet, or not at all. What the
attempts add and whether they fail is determined here for every behaviour of the server, also when the
accounting of a response with success raises and the chunk is sent again.
-/

namespace DriftGuardX.Sdk

open Json Program Transaction

variable {F : Type}

/-! ## Acceptance -/

/-- The attempt and the response with which a chunk is accepted. -/
def acceptedBy (answers : ℕ → Attempt F) : List ℕ → Option (ℕ × HttpResponse F)
  | [] => none
  | j :: js =>
    match answers j with
    | .raised _ => acceptedBy answers js
    | .response r =>
      if r.IsSuccess then some (j, r)
      else if HttpResponse.IsClientError r.statusCode then none
      else acceptedBy answers js

def accepted (server : ℕ → ℕ → Attempt F) (i : ℕ) : Option (ℕ × HttpResponse F) :=
  acceptedBy (server i) [0, 1, 2]

/-! ## The attempts at a chunk -/

/-- The attempts that are left: those up to the third. -/
inductive Remaining : List ℕ → Prop
  | last : Remaining [2]
  | more (j : ℕ) (js : List ℕ) (hj : j < 2) (hjs : ∀ k ∈ js, j < k) (h : Remaining js) :
      Remaining (j :: js)

theorem remaining_all : Remaining [0, 1, 2] :=
  .more 0 _ (by decide) (by decide) (.more 1 _ (by decide) (by decide) .last)

namespace Tally

/-- The same tally after other effects. -/
def withEffects (t : Tally F) (effects : List (Effect F)) : Tally F := { t with effects := effects }

/-- The tally after a chunk has failed. -/
def fail (t : Tally F) (chunk : List (SpanIngestItem F)) (message : String) : Tally F :=
  { t with
    failedChunks := t.failedChunks + 1
    failedSpans := t.failedSpans ++ chunk.map SpanIngestItem.spanId
    allErrors := t.allErrors ++ [.str message] }

/-- The tally after a response was accounted for. -/
def credit (t : Tally F) (i j : ℕ) (totalIngested totalSkipped : Number F)
    (errors : List (Val F)) : Tally F :=
  { t with
    totalIngested := totalIngested
    totalSkipped := totalSkipped
    allErrors := t.allErrors ++ errors
    added := t.added ++ [(i, j, .ingested), (i, j, .skipped)] }

end Tally

/-- What a response is accounted for with. -/
structure Accounts (lib : FloatSums F) (t : Tally F) (r : HttpResponse F)
    (totalIngested totalSkipped : Number F) (errors : List (Val F)) : Prop where
  ingested : addCounter lib t.totalIngested (r.get "ingested" (.int 0)) = .ok totalIngested
  skipped : addCounter lib t.totalSkipped (r.get "skipped" (.int 0)) = .ok totalSkipped
  errors : elements (r.get "errors" (.list [])) = .ok errors

theorem Accounts.withEffects {lib : FloatSums F} {t : Tally F} {r : HttpResponse F}
    {totalIngested totalSkipped : Number F} {errors : List (Val F)}
    (h : Accounts lib t r totalIngested totalSkipped errors) (effects : List (Effect F)) :
    Accounts lib (t.withEffects effects) r totalIngested totalSkipped errors :=
  ⟨h.ingested, h.skipped, h.errors⟩

section Attempts

variable {lib : FloatSums F} {sleepEffect : ℕ → Effect F} {answers : ℕ → Attempt F} {i j : ℕ}
  {js : List ℕ} {chunk : List (SpanIngestItem F)} {t : Tally F} {r : HttpResponse F}
  {totalIngested totalSkipped : Number F} {errors : List (Val F)}

theorem account_of_accounts (h : Accounts lib t r totalIngested totalSkipped errors) :
    account lib i j r t = (.ok (), t.credit i j totalIngested totalSkipped errors) := by
  rw [account, bind_of_ok get_apply, ofExcept_bind_of_ok h.ingested, bind_of_ok (modify_apply _),
    bind_of_ok get_apply, ofExcept_bind_of_ok h.skipped, bind_of_ok (modify_apply _),
    ofExcept_bind_of_ok h.errors, modify_apply]
  simp [Tally.credit]

theorem account_of_not_accounts (i j : ℕ) (h : ∀ n m es, ¬ Accounts lib t r n m es) : ∃ e t' ads,
    account lib i j r t = (.error e, t') ∧ t'.failedSpans = t.failedSpans ∧
      t'.added = t.added ++ ads ∧ ads <+: [(i, j, .ingested), (i, j, .skipped)] := by
  cases hingested : addCounter lib t.totalIngested (r.get "ingested" (.int 0)) with
  | error e =>
    refine ⟨e, t, [], ?_, rfl, (List.append_nil _).symm, List.nil_prefix⟩
    rw [account, bind_of_ok get_apply, hingested]
    exact ofExcept_bind_of_error rfl
  | ok n =>
    cases hskipped : addCounter lib t.totalSkipped (r.get "skipped" (.int 0)) with
    | error e =>
      let t' : Tally F :=
        { t with totalIngested := n, added := t.added ++ [(i, j, .ingested)] }
      refine ⟨e, t', [(i, j, .ingested)], ?_, rfl, rfl, ⟨_, rfl⟩⟩
      rw [account, bind_of_ok get_apply, ofExcept_bind_of_ok hingested,
        bind_of_ok (modify_apply _), bind_of_ok get_apply]
      exact ofExcept_bind_of_error hskipped
    | ok m =>
      cases herrors : elements (r.get "errors" (.list [])) with
      | error e =>
        let t' : Tally F := { t with
          totalIngested := n
          totalSkipped := m
          added := t.added ++ [(i, j, .ingested), (i, j, .skipped)] }
        refine ⟨e, t', [(i, j, .ingested), (i, j, .skipped)], ?_, rfl, rfl, List.prefix_refl _⟩
        rw [account, bind_of_ok get_apply, ofExcept_bind_of_ok hingested,
          bind_of_ok (modify_apply _), bind_of_ok get_apply, ofExcept_bind_of_ok hskipped,
          bind_of_ok (modify_apply _), herrors]
        refine (ofExcept_bind_of_error rfl).trans ?_
        simp [t']
      | ok es => exact absurd ⟨hingested, hskipped, herrors⟩ (h n m es)

/-! ### What is raised, and how it is handled -/

/-- The error is one of the client, which is not retried. -/
def AttemptError.IsClient : AttemptError → Prop
  | .httpStatusError code _ => HttpResponse.IsClientError code
  | .other _ => False

instance : DecidablePred AttemptError.IsClient
  | .httpStatusError code _ => inferInstanceAs (Decidable (HttpResponse.IsClientError code))
  | .other _ => .isFalse id

theorem handle_final (sleepEffect : ℕ → Effect F) (chunk : List (SpanIngestItem F)) (t : Tally F)
    {e : AttemptError} (h : e.IsClient ∨ ¬ j < 2) : ∃ left message,
    handle sleepEffect j chunk e t = (.ok left, t.fail chunk message) ∧ (j < 2 → left = true) := by
  cases e with
  | httpStatusError code text =>
    rw [handle]
    by_cases hclient : HttpResponse.IsClientError code
    · rw [if_pos hclient]
      exact ⟨true, _, rfl, fun _ ↦ rfl⟩
    · have hlast := h.resolve_left hclient
      rw [if_neg hclient, if_neg hlast]
      exact ⟨false, _, rfl, fun hj ↦ absurd hj hlast⟩
  | other message =>
    have hlast := h.resolve_left id
    rw [handle, if_neg hlast]
    exact ⟨false, _, rfl, fun hj ↦ absurd hj hlast⟩

theorem handle_retry (sleepEffect : ℕ → Effect F) (chunk : List (SpanIngestItem F)) (t : Tally F)
    {e : AttemptError} (h : ¬ e.IsClient) (hj : j < 2) : ∃ effects,
    handle sleepEffect j chunk e t = (.ok false, t.withEffects effects) := by
  cases e with
  | httpStatusError code text =>
    have hclient : ¬ HttpResponse.IsClientError code := h
    rw [handle, if_neg hclient, if_pos hj]
    exact ⟨_, rfl⟩
  | other message =>
    rw [handle, if_pos hj]
    exact ⟨_, rfl⟩

section Step

variable {e : AttemptError} {t' : Tally F}

theorem attempts_of_ok (h : tryAttempt lib i j chunk (answers j) t = (.ok (), t')) :
    attempts lib sleepEffect answers i chunk (j :: js) t = (.ok (), t') := by
  have htry : attempt (do tryAttempt lib i j chunk (answers j); return true)
      (handle sleepEffect j chunk) t = (.ok true, t') := attempt_of_ok (bind_of_ok h)
  rw [attempts, bind_of_ok htry]
  rfl

theorem attempts_of_final (sleepEffect : ℕ → Effect F) (h : tryAttempt lib i j chunk (answers j) t = (.error e, t'))
    (hfinal : e.IsClient ∨ ¬ j < 2) (hjs : ¬ j < 2 → js = []) : ∃ message,
    attempts lib sleepEffect answers i chunk (j :: js) t = (.ok (), t'.fail chunk message) := by
  obtain ⟨left, message, hhandle, hleft⟩ :=
    handle_final sleepEffect chunk t' hfinal
  have htry : attempt (do tryAttempt lib i j chunk (answers j); return true)
      (handle sleepEffect j chunk) t = (.ok left, t'.fail chunk message) :=
    (attempt_of_error (bind_of_error h)).trans hhandle
  refine ⟨message, ?_⟩
  rw [attempts, bind_of_ok htry]
  by_cases hj : j < 2
  · rw [hleft hj]
    rfl
  · rw [hjs hj]
    cases left <;> rfl

theorem attempts_of_retry (sleepEffect : ℕ → Effect F) (h : tryAttempt lib i j chunk (answers j) t = (.error e, t'))
    (hretry : ¬ e.IsClient) (hj : j < 2) : ∃ effects,
    attempts lib sleepEffect answers i chunk (j :: js) t
      = attempts lib sleepEffect answers i chunk js (t'.withEffects effects) := by
  obtain ⟨effects, hhandle⟩ :=
    handle_retry sleepEffect chunk t' hretry hj
  have htry : attempt (do tryAttempt lib i j chunk (answers j); return true)
      (handle sleepEffect j chunk) t = (.ok false, t'.withEffects effects) :=
    (attempt_of_error (bind_of_error h)).trans hhandle
  refine ⟨effects, ?_⟩
  rw [attempts, bind_of_ok htry]
  rfl

end Step

/-! ### What comes of the attempts -/

/-- The tally after the request of an attempt. -/
def Tally.posted (t : Tally F) (chunk : List (SpanIngestItem F)) : Tally F :=
  t.withEffects (t.effects ++ [.post chunk])

/-- What an attempt raises that is not answered with success. -/
def refusal : Attempt F → Option AttemptError
  | .raised message => some (.other message)
  | .response r => if r.IsSuccess then none else some (.httpStatusError r.statusCode r.text)

theorem tryAttempt_of_refusal (lib : FloatSums F) (i j : ℕ) (chunk : List (SpanIngestItem F))
    (t : Tally F) {e : AttemptError} {answer : Attempt F} (h : refusal answer = some e) :
    tryAttempt lib i j chunk answer t = (.error e, t.posted chunk) := by
  cases answer with
  | raised message =>
    obtain rfl := Option.some.inj h
    rfl
  | response r =>
    by_cases hsuccess : r.IsSuccess
    · rw [refusal, if_pos hsuccess] at h
      exact nomatch h
    · rw [refusal, if_neg hsuccess] at h
      obtain rfl := Option.some.inj h
      rw [tryAttempt, bind_of_ok (modify_apply _)]
      simp only [if_neg hsuccess]
      rfl

theorem tryAttempt_of_success (h : r.IsSuccess) :
    tryAttempt lib i j chunk (.response r) t = account lib i j r (t.posted chunk) := by
  rw [tryAttempt, bind_of_ok (modify_apply _)]
  simp only [if_pos h]
  rfl

theorem tryAttempt_of_accounts (h : r.IsSuccess)
    (haccounts : Accounts lib t r totalIngested totalSkipped errors) :
    tryAttempt lib i j chunk (.response r) t
      = (.ok (), (t.posted chunk).credit i j totalIngested totalSkipped errors) :=
  (tryAttempt_of_success h).trans (account_of_accounts (haccounts.withEffects _))

theorem exists_success_or_refusal (answer : Attempt F) :
    (∃ r, answer = .response r ∧ r.IsSuccess) ∨ ∃ e, refusal answer = some e := by
  cases answer with
  | raised message => exact Or.inr ⟨_, rfl⟩
  | response r =>
    by_cases hsuccess : r.IsSuccess
    · exact Or.inl ⟨r, rfl, hsuccess⟩
    · exact Or.inr ⟨_, if_neg hsuccess⟩

theorem acceptedBy_of_success (h : answers j = .response r) (hsuccess : r.IsSuccess) :
    acceptedBy answers (j :: js) = some (j, r) := by
  rw [acceptedBy, h]
  exact if_pos hsuccess

/-- After a refusal the chunk is accepted by the other attempts, unless it is not sent again. -/
theorem acceptedBy_of_refusal {e : AttemptError} (h : refusal (answers j) = some e) :
    acceptedBy answers (j :: js) = if e.IsClient then none else acceptedBy answers js := by
  rw [acceptedBy]
  cases hanswer : answers j with
  | raised message =>
    rw [hanswer] at h
    obtain rfl := Option.some.inj h
    exact (if_neg id).symm
  | response r =>
    rw [hanswer, refusal] at h
    by_cases hsuccess : r.IsSuccess
    · rw [if_pos hsuccess] at h
      exact nomatch h
    · rw [if_neg hsuccess] at h
      obtain rfl := Option.some.inj h
      simp only [if_neg hsuccess]
      by_cases hclient : HttpResponse.IsClientError r.statusCode
      · have he : (AttemptError.httpStatusError r.statusCode r.text).IsClient := hclient
        rw [if_pos hclient, if_pos he]
      · have he : ¬ (AttemptError.httpStatusError r.statusCode r.text).IsClient := hclient
        rw [if_neg hclient, if_neg he]

theorem attempts_of_unaccepted (hjs : Remaining js) (h : acceptedBy answers js = none) :
    ∃ message effects, attempts lib sleepEffect answers i chunk js t
      = (.ok (), (t.withEffects effects).fail chunk message) := by
  induction hjs generalizing t with
  | last =>
    obtain ⟨r, hanswer, hsuccess⟩ | ⟨e, hrefusal⟩ := exists_success_or_refusal (answers 2)
    · rw [acceptedBy_of_success hanswer hsuccess] at h
      exact nomatch h
    · obtain ⟨message, hrun⟩ := attempts_of_final sleepEffect
        (tryAttempt_of_refusal lib i 2 chunk t hrefusal) (Or.inr (by decide)) fun _ ↦ rfl
      exact ⟨message, _, hrun⟩
  | more j js hj hjs hremaining ih =>
    obtain ⟨r, hanswer, hsuccess⟩ | ⟨e, hrefusal⟩ := exists_success_or_refusal (answers j)
    · rw [acceptedBy_of_success hanswer hsuccess] at h
      exact nomatch h
    · have htry := tryAttempt_of_refusal lib i j chunk t hrefusal
      by_cases hclient : e.IsClient
      · obtain ⟨message, hrun⟩ := attempts_of_final sleepEffect htry (Or.inl hclient)
          fun hlast ↦ absurd hj hlast
        exact ⟨message, _, hrun⟩
      · obtain ⟨effects, hrun⟩ := attempts_of_retry sleepEffect htry hclient hj
        rw [acceptedBy_of_refusal hrefusal, if_neg hclient] at h
        obtain ⟨message, effects', hrest⟩ := ih h
        exact ⟨message, effects', hrun.trans hrest⟩

theorem attempts_of_accounts (hjs : Remaining js) (h : acceptedBy answers js = some (j, r))
    (haccounts : Accounts lib t r totalIngested totalSkipped errors) : ∃ effects,
    attempts lib sleepEffect answers i chunk js t
      = (.ok (), (t.withEffects effects).credit i j totalIngested totalSkipped errors) := by
  induction hjs generalizing t with
  | last =>
    obtain ⟨r', hanswer, hsuccess⟩ | ⟨e, hrefusal⟩ := exists_success_or_refusal (answers 2)
    · rw [acceptedBy_of_success hanswer hsuccess] at h
      obtain ⟨rfl, rfl⟩ := Prod.mk.inj (Option.some.inj h)
      exact ⟨_, attempts_of_ok (hanswer ▸ tryAttempt_of_accounts hsuccess haccounts)⟩
    · rw [acceptedBy_of_refusal hrefusal] at h
      split at h <;> exact nomatch h
  | more k js hk hjs hremaining ih =>
    obtain ⟨r', hanswer, hsuccess⟩ | ⟨e, hrefusal⟩ := exists_success_or_refusal (answers k)
    · rw [acceptedBy_of_success hanswer hsuccess] at h
      obtain ⟨rfl, rfl⟩ := Prod.mk.inj (Option.some.inj h)
      exact ⟨_, attempts_of_ok (hanswer ▸ tryAttempt_of_accounts hsuccess haccounts)⟩
    · rw [acceptedBy_of_refusal hrefusal] at h
      by_cases hclient : e.IsClient
      · rw [if_pos hclient] at h
        exact nomatch h
      · rw [if_neg hclient] at h
        obtain ⟨effects, hrun⟩ := attempts_of_retry sleepEffect
          (tryAttempt_of_refusal lib i k chunk t hrefusal) hclient hk
        obtain ⟨effects', hrest⟩ := ih h ((haccounts.withEffects _).withEffects effects)
        exact ⟨effects', hrun.trans hrest⟩

/-- What attempts do besides effects: some additions for their chunk, and a failure or not. -/
structure Attempted (t t' : Tally F) (i : ℕ) (chunk : List (SpanIngestItem F)) (js : List ℕ)
    (failed : Bool) (ads : List (ℕ × ℕ × Counter)) : Prop where
  added : t'.added = t.added ++ ads
  ofChunk : ∀ a ∈ ads, a.1 = i ∧ a.2.1 ∈ js
  failedSpans : t'.failedSpans
    = t.failedSpans ++ if failed then chunk.map SpanIngestItem.spanId else []

/-- An attempt that is answered with success makes additions, and then returns or raises. -/
theorem tryAttempt_cases (lib : FloatSums F) (i j : ℕ) (chunk : List (SpanIngestItem F))
    (t : Tally F) (answer : Attempt F) : ∃ t' ads,
    Attempted t t' i chunk [j] false ads ∧
      (tryAttempt lib i j chunk answer t = (.ok (), t') ∧ ads ≠ [] ∨
        ∃ e, tryAttempt lib i j chunk answer t = (.error e, t')) := by
  obtain ⟨r, rfl, hsuccess⟩ | ⟨e, hrefusal⟩ := exists_success_or_refusal answer
  · rw [tryAttempt_of_success hsuccess]
    by_cases haccounts : ∃ n m es, Accounts lib (t.posted chunk) r n m es
    · obtain ⟨n, m, es, haccounts⟩ := haccounts
      exact ⟨(t.posted chunk).credit i j n m es, [(i, j, .ingested), (i, j, .skipped)],
        ⟨rfl, by simp, (List.append_nil _).symm⟩,
        Or.inl ⟨account_of_accounts haccounts, List.cons_ne_nil _ _⟩⟩
    · obtain ⟨e, t', ads, hrun, hfailed, hadded, hprefix⟩ :=
        account_of_not_accounts i j fun n m es h ↦ haccounts ⟨n, m, es, h⟩
      refine ⟨t', ads, ⟨hadded, fun a ha ↦ ?_, hfailed.trans (List.append_nil _).symm⟩,
        Or.inr ⟨e, hrun⟩⟩
      have := hprefix.subset ha
      simp only [List.mem_cons, List.not_mem_nil, or_false] at this
      obtain rfl | rfl := this <;> simp
  · exact ⟨t.posted chunk, [], ⟨(List.append_nil _).symm, by simp, (List.append_nil _).symm⟩,
      Or.inr ⟨e, tryAttempt_of_refusal lib i j chunk t hrefusal⟩⟩

theorem Attempted.mono {t' : Tally F} {ks : List ℕ} {failed : Bool}
    {ads : List (ℕ × ℕ × Counter)} (h : Attempted t t' i chunk js failed ads) (hks : js ⊆ ks) :
    Attempted t t' i chunk ks failed ads :=
  ⟨h.added, fun a ha ↦ ⟨(h.ofChunk a ha).1, hks (h.ofChunk a ha).2⟩, h.failedSpans⟩

theorem Attempted.fail {t' : Tally F} {ads : List (ℕ × ℕ × Counter)}
    (h : Attempted t t' i chunk js false ads) (message : String) :
    Attempted t (t'.fail chunk message) i chunk js true ads := by
  refine ⟨h.added, h.ofChunk, ?_⟩
  rw [Tally.fail, h.failedSpans]
  simp

theorem Attempted.retry {t' t'' : Tally F} {effects : List (Effect F)} {failed : Bool}
    {ads ads' : List (ℕ × ℕ × Counter)} (h : Attempted t t' i chunk [j] false ads)
    (h' : Attempted (t'.withEffects effects) t'' i chunk js failed ads') :
    Attempted t t'' i chunk (j :: js) failed (ads ++ ads') where
  added := by
    rw [h'.added, ← List.append_assoc, ← h.added]
    rfl
  ofChunk := by
    intro a ha
    obtain ha | ha := List.mem_append.mp ha
    · obtain ⟨hchunk, hattempt⟩ := h.ofChunk a ha
      exact ⟨hchunk, List.mem_cons.mpr (Or.inl (List.mem_singleton.mp hattempt))⟩
    · obtain ⟨hchunk, hattempt⟩ := h'.ofChunk a ha
      exact ⟨hchunk, List.mem_cons_of_mem j hattempt⟩
  failedSpans := by
    have hsame : (t'.withEffects effects).failedSpans = t.failedSpans :=
      h.failedSpans.trans (List.append_nil _)
    rw [h'.failedSpans, hsame]

theorem exists_attempted (lib : FloatSums F) (sleepEffect : ℕ → Effect F) (answers : ℕ → Attempt F)
    (i : ℕ) (chunk : List (SpanIngestItem F)) (t : Tally F) (hjs : Remaining js) :
    ∃ t' failed ads, attempts lib sleepEffect answers i chunk js t = (.ok (), t') ∧
      Attempted t t' i chunk js failed ads ∧ (failed = true ∨ ads ≠ []) := by
  induction hjs generalizing t with
  | last =>
    obtain ⟨t', ads, hads, ⟨hrun, hne⟩ | ⟨e, hrun⟩⟩ := tryAttempt_cases lib i 2 chunk t (answers 2)
    · exact ⟨t', false, ads, attempts_of_ok hrun, hads, Or.inr hne⟩
    · obtain ⟨message, hfinal⟩ :=
        attempts_of_final sleepEffect hrun (Or.inr (by decide)) fun _ ↦ rfl
      exact ⟨_, true, ads, hfinal, hads.fail message, Or.inl rfl⟩
  | more j js hj hjs hremaining ih =>
    have hmem : [j] ⊆ j :: js := by simp
    obtain ⟨t', ads, hads, ⟨hrun, hne⟩ | ⟨e, hrun⟩⟩ := tryAttempt_cases lib i j chunk t (answers j)
    · exact ⟨t', false, ads, attempts_of_ok hrun, hads.mono hmem, Or.inr hne⟩
    · by_cases hclient : e.IsClient
      · obtain ⟨message, hfinal⟩ := attempts_of_final sleepEffect hrun (Or.inl hclient)
          fun hlast ↦ absurd hj hlast
        exact ⟨_, true, ads, hfinal, (hads.fail message).mono hmem, Or.inl rfl⟩
      · obtain ⟨effects, hretry⟩ := attempts_of_retry sleepEffect hrun hclient hj
        obtain ⟨t'', failed, ads', hrest, hads', hor⟩ := ih (t'.withEffects effects)
        refine ⟨t'', failed, ads ++ ads', hretry.trans hrest, hads.retry hads', ?_⟩
        exact hor.imp_right fun hne hnil ↦ hne (List.append_eq_nil_iff.mp hnil).2

theorem Attempted.not_failed {t' : Tally F} {ads : List (ℕ × ℕ × Counter)} {failed : Bool}
    (h : Attempted t t' i chunk js failed ads) (hfailed : t'.failedSpans = t.failedSpans)
    (hchunk : chunk ≠ []) : failed = false := by
  cases failed with
  | false => rfl
  | true =>
    have hnil : chunk.map SpanIngestItem.spanId = [] := by
      simpa using h.failedSpans.symm.trans hfailed
    exact absurd (List.map_eq_nil_iff.mp hnil) hchunk

/-- After an accounting that raised, the other attempts fail or add something else. -/
theorem accounts_of_success {t' : Tally F} (hanswer : answers j = .response r) (hsuccess : r.IsSuccess)
    (hlater : ∀ k ∈ js, j < k) (hremaining : j < 2 → Remaining js) (hlast : ¬ j < 2 → js = [])
    (hrun : attempts lib sleepEffect answers i chunk (j :: js) t = (.ok (), t'))
    (hadded : t'.added = t.added ++ [(i, j, .ingested), (i, j, .skipped)])
    (hfailed : t'.failedSpans = t.failedSpans) (hchunk : chunk ≠ []) :
    ∃ n m es, Accounts lib t r n m es := by
  by_contra hnone
  obtain ⟨e, t₁, ads, hraises, hfailed₁, hadded₁, hprefix⟩ :=
    account_of_not_accounts (t := t.posted chunk) i j
      fun n m es h ↦ hnone ⟨n, m, es, h.withEffects t.effects⟩
  have htry : tryAttempt lib i j chunk (answers j) t = (.error e, t₁) := by
    rw [hanswer, tryAttempt_of_success hsuccess, hraises]
  have hads : Attempted t t₁ i chunk [j] false ads := by
    refine ⟨hadded₁, fun a ha ↦ ?_, hfailed₁.trans (List.append_nil _).symm⟩
    have hmem := hprefix.subset ha
    simp only [List.mem_cons, List.not_mem_nil, or_false] at hmem
    obtain rfl | rfl := hmem <;> simp
  by_cases hfinal : e.IsClient ∨ ¬ j < 2
  · obtain ⟨message, hends⟩ := attempts_of_final sleepEffect htry hfinal hlast
    obtain ⟨-, rfl⟩ := Prod.mk.inj (hrun.symm.trans hends)
    exact absurd ((hads.fail message).not_failed hfailed hchunk) (by decide)
  · obtain ⟨hclient, hj⟩ := not_or.mp hfinal
    obtain ⟨effects, hretry⟩ := attempts_of_retry sleepEffect htry hclient (not_not.mp hj)
    obtain ⟨t₂, failed, ads', hrest, hads', hor⟩ := exists_attempted lib sleepEffect answers i chunk
      (t₁.withEffects effects) (hremaining (not_not.mp hj))
    obtain ⟨-, rfl⟩ := Prod.mk.inj (hrun.symm.trans (hretry.trans hrest))
    have hall := hads.retry hads'
    have hboth : ads ++ ads' = [(i, j, .ingested), (i, j, .skipped)] :=
      List.append_cancel_left (hall.added.symm.trans hadded)
    have hnil : ads' = [] := by
      refine List.eq_nil_iff_forall_not_mem.mpr fun a ha ↦ ?_
      have hmem : a ∈ ads ++ ads' := List.mem_append_right ads ha
      have hj : a.2.1 = j := by
        rw [hboth] at hmem
        simp only [List.mem_cons, List.not_mem_nil, or_false] at hmem
        obtain rfl | rfl := hmem <;> rfl
      exact absurd (hlater _ (hads'.ofChunk a ha).2) (by omega)
    have hfailed' := hall.not_failed hfailed hchunk
    exact hor.elim (fun h ↦ absurd (h.symm.trans hfailed') (by decide)) fun h ↦ h hnil

/-- A chunk that did not fail, and for which exactly the counters of its accepted response were added,
was accounted for with that response. -/
theorem accounts_of_added {t' : Tally F} (hjs : Remaining js)
    (h : acceptedBy answers js = some (j, r))
    (hrun : attempts lib sleepEffect answers i chunk js t = (.ok (), t'))
    (hadded : t'.added = t.added ++ [(i, j, .ingested), (i, j, .skipped)])
    (hfailed : t'.failedSpans = t.failedSpans) (hchunk : chunk ≠ []) :
    ∃ n m es, Accounts lib t r n m es := by
  induction hjs generalizing t with
  | last =>
    obtain ⟨r', hanswer, hsuccess⟩ | ⟨e, hrefusal⟩ := exists_success_or_refusal (answers 2)
    · rw [acceptedBy_of_success hanswer hsuccess] at h
      obtain ⟨rfl, rfl⟩ := Prod.mk.inj (Option.some.inj h)
      exact accounts_of_success hanswer hsuccess (by simp) (fun hj ↦ absurd hj (by decide))
        (fun _ ↦ rfl) hrun hadded hfailed hchunk
    · rw [acceptedBy_of_refusal hrefusal] at h
      split at h <;> exact nomatch h
  | more k js hk hjs hremaining ih =>
    obtain ⟨r', hanswer, hsuccess⟩ | ⟨e, hrefusal⟩ := exists_success_or_refusal (answers k)
    · rw [acceptedBy_of_success hanswer hsuccess] at h
      obtain ⟨rfl, rfl⟩ := Prod.mk.inj (Option.some.inj h)
      exact accounts_of_success hanswer hsuccess hjs (fun _ ↦ hremaining)
        (fun hlast ↦ absurd hk hlast) hrun hadded hfailed hchunk
    · rw [acceptedBy_of_refusal hrefusal] at h
      by_cases hclient : e.IsClient
      · rw [if_pos hclient] at h
        exact nomatch h
      · rw [if_neg hclient] at h
        obtain ⟨effects, hretry⟩ := attempts_of_retry sleepEffect
          (tryAttempt_of_refusal lib i k chunk t hrefusal) hclient hk
        obtain ⟨n, m, es, haccounts⟩ := ih h (hretry.symm.trans hrun) hadded hfailed
        exact ⟨n, m, es, haccounts.withEffects t.effects⟩

end Attempts

end DriftGuardX.Sdk
