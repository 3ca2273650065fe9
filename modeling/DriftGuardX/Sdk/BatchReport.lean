import DriftGuardX.Sdk.Attempts

/-!
# What a batch reports

A report is exact when the counters of the response that a chunk was accepted with were added once for
each accepted chunk, and nothing else was added, and when the spans of the other chunks are the failed
ones.

The server decides whether this is so, by what it puts into the responses that it accepts chunks with:
counters that are no numbers, and errors that cannot be iterated, raise in the middle of the
accounting (`exactReports_iff`).
-/

namespace DriftGuardX.Sdk

open Json Program Transaction

variable {F : Type}

/-! ## What a report should say -/

/-- The additions for a chunk: both counters of its accepted response, once. -/
def additions (server : ℕ → ℕ → Attempt F) (i : ℕ) : List (ℕ × ℕ × Counter) :=
  (accepted server i).elim [] fun a ↦ [(i, a.1, .ingested), (i, a.1, .skipped)]

/-- The ids of the spans of a chunk that no attempt was accepted for. -/
def unaccepted (server : ℕ → ℕ → Attempt F) (size : ℕ) (items : List (SpanIngestItem F)) (i : ℕ) :
    List String :=
  (accepted server i).elim ((chunkAt size items i).map SpanIngestItem.spanId) fun _ ↦ []

/-- The sum of a counter over some responses. -/
def sumOf (lib : FloatSums F) (key : String) (start : Number F) (responses : List (HttpResponse F)) :
    Except AttemptError (Number F) :=
  responses.foldlM (fun total r ↦ addCounter lib total (r.get key (.int 0))) start

/-- A counter over some responses is a whole number. -/
def CountsTo (lib : FloatSums F) (key : String) (responses : List (HttpResponse F)) (count : ℤ) :
    Prop :=
  ∃ total, sumOf lib key (.int 0) responses = .ok total ∧ total.toInt lib = some count

/-- The responses that accept chunks, in order. -/
def acceptedResponses (server : ℕ → ℕ → Attempt F) (is : List ℕ) : List (HttpResponse F) :=
  is.filterMap fun i ↦ (accepted server i).map Prod.snd

/-- The errors of a response are texts. -/
def HasTexts (r : HttpResponse F) : Prop :=
  ∃ errors, elements (r.get "errors" (.list [])) = .ok errors ∧ ∀ e ∈ errors, (asText e).isSome

/-- The chunks of a batch. -/
def chunkIndices (client : Client F) (items : List (SpanIngestItem F)) : List ℕ :=
  List.range (numChunks client.maxBatchSize items)

/-- The run of a batch returns an exact report. -/
def Exact (lib : FloatSums F) (client : Client F) (server : ℕ → ℕ → Attempt F)
    (spans : List (SpanInput F)) (run : Except BatchError BatchResult × Tally F) : Prop :=
  ∃ items result, spans.mapM (toItem client) = .ok items ∧ run.1 = .ok result ∧
    run.2.added = (chunkIndices client items).flatMap (additions server) ∧
    CountsTo lib "ingested" (acceptedResponses server (chunkIndices client items))
      result.ingestedCount ∧
    CountsTo lib "skipped" (acceptedResponses server (chunkIndices client items))
      result.skippedCount ∧
    result.failedSpans
      = (chunkIndices client items).flatMap (unaccepted server client.maxBatchSize items) ∧
    (result.status = .success → result.failedSpans = [] ∧ result.errors = []) ∧
    (result.status = .failure → ∀ i ∈ chunkIndices client items, accepted server i = none)

/-- The spans are valid, and the responses that accept chunks can be accounted for: their counters add
up to whole numbers, and their errors are texts. -/
def Accountable (lib : FloatSums F) (client : Client F) (server : ℕ → ℕ → Attempt F)
    (spans : List (SpanInput F)) : Prop :=
  ∃ items, spans.mapM (toItem client) = .ok items ∧
    (∃ count, CountsTo lib "ingested" (acceptedResponses server (chunkIndices client items)) count) ∧
    (∃ count, CountsTo lib "skipped" (acceptedResponses server (chunkIndices client items)) count) ∧
    ∀ r ∈ acceptedResponses server (chunkIndices client items), HasTexts r

/-! ## The loop over the chunks -/

section Chunks

variable {lib : FloatSums F} {sleepEffect : ℕ → Effect F} {server : ℕ → ℕ → Attempt F} {size : ℕ}
  {items : List (SpanIngestItem F)} {i j : ℕ} {is : List ℕ} {t t' : Tally F} {r : HttpResponse F}

/-- The turn of the loop for a chunk. -/
def sendChunk (lib : FloatSums F) (sleepEffect : ℕ → Effect F) (server : ℕ → ℕ → Attempt F)
    (size : ℕ) (items : List (SpanIngestItem F)) (i : ℕ) : Program (Tally F) AttemptError Unit :=
  attempts lib sleepEffect (server i) i (chunkAt size items i) [0, 1, 2]

theorem sendChunk_of_unaccepted (lib : FloatSums F) (sleepEffect : ℕ → Effect F) (size : ℕ)
    (items : List (SpanIngestItem F)) (t : Tally F) (h : accepted server i = none) :
    ∃ message effects, sendChunk lib sleepEffect server size items i t
      = (.ok (), (t.withEffects effects).fail (chunkAt size items i) message) :=
  attempts_of_unaccepted remaining_all h

theorem sendChunk_of_accounts (sleepEffect : ℕ → Effect F) (size : ℕ)
    (items : List (SpanIngestItem F)) (h : accepted server i = some (j, r)) {n m : Number F}
    {errors : List (Val F)} (haccounts : Accounts lib t r n m errors) :
    ∃ effects, sendChunk lib sleepEffect server size items i t
      = (.ok (), (t.withEffects effects).credit i j n m errors) :=
  attempts_of_accounts remaining_all h haccounts

theorem acceptedResponses_cons_of_none (h : accepted server i = none) :
    acceptedResponses server (i :: is) = acceptedResponses server is := by
  rw [acceptedResponses, List.filterMap_cons_none (by rw [h]; rfl), acceptedResponses]

theorem acceptedResponses_cons_of_some (h : accepted server i = some (j, r)) :
    acceptedResponses server (i :: is) = r :: acceptedResponses server is := by
  rw [acceptedResponses, List.filterMap_cons_some (by rw [h]; rfl), acceptedResponses]

theorem additions_of_none (h : accepted server i = none) : additions server i = [] := by
  rw [additions, h]
  rfl

theorem additions_of_some (h : accepted server i = some (j, r)) :
    additions server i = [(i, j, .ingested), (i, j, .skipped)] := by
  rw [additions, h]
  rfl

theorem unaccepted_of_none (h : accepted server i = none) :
    unaccepted server size items i = (chunkAt size items i).map SpanIngestItem.spanId := by
  rw [unaccepted, h]
  rfl

theorem unaccepted_of_some (h : accepted server i = some (j, r)) :
    unaccepted server size items i = [] := by
  rw [unaccepted, h]
  rfl

/-- An exact account of some chunks. -/
structure Reported (lib : FloatSums F) (server : ℕ → ℕ → Attempt F) (size : ℕ)
    (items : List (SpanIngestItem F)) (is : List ℕ) (t t' : Tally F) : Prop where
  ingested : sumOf lib "ingested" t.totalIngested (acceptedResponses server is) = .ok t'.totalIngested
  skipped : sumOf lib "skipped" t.totalSkipped (acceptedResponses server is) = .ok t'.totalSkipped
  added : t'.added = t.added ++ is.flatMap (additions server)
  failedSpans : t'.failedSpans = t.failedSpans ++ is.flatMap (unaccepted server size items)
  failedChunks : t'.failedChunks
    = t.failedChunks + is.countP fun i ↦ (accepted server i).isNone
  errors : ∃ errors, t'.allErrors = t.allErrors ++ errors ∧ ∀ e ∈ errors, (asText e).isSome

theorem reported_nil (t : Tally F) : Reported lib server size items [] t t :=
  ⟨rfl, rfl, (List.append_nil _).symm, (List.append_nil _).symm, rfl,
    ⟨[], (List.append_nil _).symm, by simp⟩⟩

theorem Reported.cons_of_none {effects : List (Effect F)} {message : String}
    (haccepted : accepted server i = none)
    (h : Reported lib server size items is
      ((t.withEffects effects).fail (chunkAt size items i) message) t') :
    Reported lib server size items (i :: is) t t' where
  ingested := by
    rw [acceptedResponses_cons_of_none haccepted]
    exact h.ingested
  skipped := by
    rw [acceptedResponses_cons_of_none haccepted]
    exact h.skipped
  added := by
    rw [List.flatMap_cons, additions_of_none haccepted, List.nil_append]
    exact h.added
  failedSpans := by
    rw [List.flatMap_cons, unaccepted_of_none haccepted, ← List.append_assoc]
    exact h.failedSpans
  failedChunks := by
    rw [List.countP_cons_of_pos (by rw [haccepted]; rfl), h.failedChunks, Tally.fail]
    simp only [Tally.withEffects]
    omega
  errors := by
    obtain ⟨errors, heq, htexts⟩ := h.errors
    refine ⟨.str message :: errors, ?_, List.forall_mem_cons.mpr ⟨rfl, htexts⟩⟩
    rw [heq, Tally.fail, List.append_assoc]
    rfl

theorem Reported.cons_of_some {effects : List (Effect F)} {n m : Number F} {errors : List (Val F)}
    (haccepted : accepted server i = some (j, r)) (haccounts : Accounts lib t r n m errors)
    (htexts : ∀ e ∈ errors, (asText e).isSome)
    (h : Reported lib server size items is ((t.withEffects effects).credit i j n m errors) t') :
    Reported lib server size items (i :: is) t t' where
  ingested := by
    rw [acceptedResponses_cons_of_some haccepted, sumOf, List.foldlM_cons, haccounts.ingested]
    exact h.ingested
  skipped := by
    rw [acceptedResponses_cons_of_some haccepted, sumOf, List.foldlM_cons, haccounts.skipped]
    exact h.skipped
  added := by
    rw [List.flatMap_cons, additions_of_some haccepted, ← List.append_assoc]
    exact h.added
  failedSpans := by
    rw [List.flatMap_cons, unaccepted_of_some haccepted, List.nil_append]
    exact h.failedSpans
  failedChunks := by
    rw [List.countP_cons_of_neg (by rw [haccepted]; simp)]
    exact h.failedChunks
  errors := by
    obtain ⟨rest, heq, hrest⟩ := h.errors
    refine ⟨errors ++ rest, ?_, fun e he ↦ (List.mem_append.mp he).elim (htexts e) (hrest e)⟩
    rw [heq, ← List.append_assoc]
    rfl

/-- **Responses that can be accounted for are accounted for exactly**, chunk by chunk. -/
theorem exists_reported (lib : FloatSums F) (sleepEffect : ℕ → Effect F)
    (server : ℕ → ℕ → Attempt F) (size : ℕ) (items : List (SpanIngestItem F)) {n m : Number F}
    (hingested : sumOf lib "ingested" t.totalIngested (acceptedResponses server is) = .ok n)
    (hskipped : sumOf lib "skipped" t.totalSkipped (acceptedResponses server is) = .ok m)
    (htexts : ∀ r ∈ acceptedResponses server is, HasTexts r) :
    ∃ t', is.forM (sendChunk lib sleepEffect server size items) t = (.ok (), t') ∧
      Reported lib server size items is t t' := by
  induction is generalizing t with
  | nil => exact ⟨t, rfl, reported_nil t⟩
  | cons i is ih =>
    cases haccepted : accepted server i with
    | none =>
      rw [acceptedResponses_cons_of_none haccepted] at hingested hskipped htexts
      obtain ⟨message, effects, hrun⟩ :=
        sendChunk_of_unaccepted lib sleepEffect size items t haccepted
      obtain ⟨t', hrest, hreported⟩ :=
        ih (t := (t.withEffects effects).fail (chunkAt size items i) message) hingested hskipped htexts
      exact ⟨t', (forM_cons_of_ok hrun).trans hrest, hreported.cons_of_none haccepted⟩
    | some a =>
      obtain ⟨j, r⟩ := a
      rw [acceptedResponses_cons_of_some haccepted] at hingested hskipped htexts
      rw [sumOf, List.foldlM_cons, bind_eq_ok_iff] at hingested hskipped
      obtain ⟨n', hn', hingested⟩ := hingested
      obtain ⟨m', hm', hskipped⟩ := hskipped
      obtain ⟨⟨errors, herrors, hall⟩, htexts⟩ := List.forall_mem_cons.mp htexts
      have haccounts : Accounts lib t r n' m' errors := ⟨hn', hm', herrors⟩
      obtain ⟨effects, hrun⟩ :=
        sendChunk_of_accounts sleepEffect size items haccepted haccounts
      obtain ⟨t', hrest, hreported⟩ :=
        ih (t := (t.withEffects effects).credit i j n' m' errors) hingested hskipped htexts
      exact ⟨t', (forM_cons_of_ok hrun).trans hrest,
        hreported.cons_of_some haccepted haccounts hall⟩

/-! ### Exact reports come from responses that can be accounted for -/

/-- What a loop does at least: additions for its own chunks, and the failures of the chunks that are not
accepted. -/
theorem exists_ingested (lib : FloatSums F) (sleepEffect : ℕ → Effect F)
    (server : ℕ → ℕ → Attempt F) (size : ℕ) (items : List (SpanIngestItem F)) (is : List ℕ)
    (t : Tally F) : ∃ t' ads spans,
    is.forM (sendChunk lib sleepEffect server size items) t = (.ok (), t') ∧
      t'.added = t.added ++ ads ∧ (∀ a ∈ ads, a.1 ∈ is) ∧
      t'.failedSpans = t.failedSpans ++ spans ∧
      (is.flatMap (unaccepted server size items)).length ≤ spans.length := by
  induction is generalizing t with
  | nil => exact ⟨t, [], [], rfl, (List.append_nil _).symm, by simp, (List.append_nil _).symm, le_rfl⟩
  | cons i is ih =>
    cases haccepted : accepted server i with
    | none =>
      obtain ⟨message, effects, hrun⟩ :=
        sendChunk_of_unaccepted lib sleepEffect size items t haccepted
      obtain ⟨t', ads, spans, hrest, hadded, hads, hspans, hle⟩ :=
        ih ((t.withEffects effects).fail (chunkAt size items i) message)
      refine ⟨t', ads, (chunkAt size items i).map SpanIngestItem.spanId ++ spans,
        (forM_cons_of_ok hrun).trans hrest, hadded, fun a ha ↦ List.mem_cons_of_mem i (hads a ha), ?_,
        ?_⟩
      · rw [hspans, ← List.append_assoc]
        rfl
      · rw [List.flatMap_cons, unaccepted_of_none haccepted, List.length_append, List.length_append]
        omega
    | some a =>
      obtain ⟨t₁, failed, ads₁, hrun, hattempted, -⟩ := exists_attempted lib sleepEffect (server i) i
        (chunkAt size items i) t remaining_all
      have hsend : sendChunk lib sleepEffect server size items i t = (.ok (), t₁) := hrun
      obtain ⟨t', ads, spans, hrest, hadded, hads, hspans, hle⟩ := ih t₁
      let spans₁ := if failed then (chunkAt size items i).map SpanIngestItem.spanId else []
      refine ⟨t', ads₁ ++ ads, spans₁ ++ spans, (forM_cons_of_ok hsend).trans hrest, ?_,
        fun a ha ↦ ?_, ?_, ?_⟩
      · rw [hadded, hattempted.added, List.append_assoc]
      · obtain ha | ha := List.mem_append.mp ha
        · exact List.mem_cons.mpr (Or.inl (hattempted.ofChunk a ha).1)
        · exact List.mem_cons_of_mem i (hads a ha)
      · rw [hspans, hattempted.failedSpans, List.append_assoc]
      · rw [List.flatMap_cons, unaccepted_of_some haccepted, List.nil_append, List.length_append]
        omega

theorem additions_split {ads ads' bs bs' : List (ℕ × ℕ × Counter)} (hi : i ∉ is)
    (hads : ∀ a ∈ ads, a.1 = i) (hads' : ∀ a ∈ ads', a.1 ∈ is) (hbs : ∀ a ∈ bs, a.1 = i)
    (hbs' : ∀ a ∈ bs', a.1 ∈ is) (h : ads ++ ads' = bs ++ bs') : ads = bs ∧ ads' = bs' := by
  have hself : ∀ l : List (ℕ × ℕ × Counter), (∀ a ∈ l, a.1 = i) →
      l.filter (fun a ↦ decide (a.1 = i)) = l := fun l hl ↦
    List.filter_eq_self.mpr fun a ha ↦ decide_eq_true (hl a ha)
  have hother : ∀ l : List (ℕ × ℕ × Counter), (∀ a ∈ l, a.1 ∈ is) →
      l.filter (fun a ↦ decide (a.1 = i)) = [] := fun l hl ↦
    List.filter_eq_nil_iff.mpr fun a ha hdec ↦ hi (of_decide_eq_true hdec ▸ hl a ha)
  have hfirst : ads = bs := by
    have hfilter := congrArg (List.filter fun a ↦ decide (a.1 = i)) h
    rwa [List.filter_append, List.filter_append, hself ads hads, hother ads' hads', hself bs hbs,
      hother bs' hbs', List.append_nil, List.append_nil] at hfilter
  subst hfirst
  exact ⟨rfl, List.append_cancel_left h⟩

theorem index_of_mem_additions {a : ℕ × ℕ × Counter} (h : a ∈ additions server i) : a.1 = i := by
  rw [additions] at h
  cases haccepted : accepted server i with
  | none =>
    rw [haccepted] at h
    exact absurd h List.not_mem_nil
  | some b =>
    rw [haccepted] at h
    simp only [Option.elim_some, List.mem_cons, List.not_mem_nil, or_false] at h
    obtain rfl | rfl := h <;> rfl

theorem index_of_mem_flatMap_additions {a : ℕ × ℕ × Counter}
    (h : a ∈ is.flatMap (additions server)) : a.1 ∈ is := by
  obtain ⟨i, hi, ha⟩ := List.mem_flatMap.mp h
  exact (index_of_mem_additions ha).symm ▸ hi

/-- **From a run with exact additions and failures** every response that accepts a chunk was accounted
for, its errors too. -/
theorem elements_of_exact (hnodup : is.Nodup) (hchunks : ∀ i ∈ is, chunkAt size items i ≠ [])
    (hrun : is.forM (sendChunk lib sleepEffect server size items) t = (.ok (), t'))
    (hadded : t'.added = t.added ++ is.flatMap (additions server))
    (hfailed : t'.failedSpans.length
      = t.failedSpans.length + (is.flatMap (unaccepted server size items)).length) :
    t.allErrors ⊆ t'.allErrors ∧ ∀ r ∈ acceptedResponses server is, ∃ errors,
      elements (r.get "errors" (.list [])) = .ok errors ∧ errors ⊆ t'.allErrors := by
  induction is generalizing t with
  | nil =>
    obtain ⟨-, rfl⟩ := Prod.mk.inj hrun
    exact ⟨List.Subset.refl _, by simp [acceptedResponses]⟩
  | cons i is ih =>
    obtain ⟨hi, hnodup⟩ := List.nodup_cons.mp hnodup
    obtain ⟨hchunk, hchunks⟩ := List.forall_mem_cons.mp hchunks
    rw [List.flatMap_cons] at hadded hfailed
    cases haccepted : accepted server i with
    | none =>
      obtain ⟨message, effects, hsend⟩ :=
        sendChunk_of_unaccepted lib sleepEffect size items t haccepted
      rw [forM_cons_of_ok hsend] at hrun
      rw [additions_of_none haccepted, List.nil_append] at hadded
      rw [unaccepted_of_none haccepted, List.length_append] at hfailed
      obtain ⟨hsubset, hall⟩ := ih hnodup hchunks hrun hadded (by
        rw [hfailed, Tally.fail, List.length_append]
        simp only [Tally.withEffects]
        omega)
      rw [acceptedResponses_cons_of_none haccepted]
      exact ⟨List.Subset.trans (List.subset_append_left _ _) hsubset, hall⟩
    | some a =>
      obtain ⟨j, r⟩ := a
      obtain ⟨t₁, failed, ads₁, hattempts, hattempted, -⟩ := exists_attempted lib sleepEffect
        (server i) i (chunkAt size items i) t remaining_all
      have hsend : sendChunk lib sleepEffect server size items i t = (.ok (), t₁) := hattempts
      rw [forM_cons_of_ok hsend] at hrun
      obtain ⟨t₂, ads, spans, hrest, hadded₂, hads, hspans, hle⟩ :=
        exists_ingested lib sleepEffect server size items is t₁
      obtain ⟨-, rfl⟩ := Prod.mk.inj (hrun.symm.trans hrest)
      have hboth : ads₁ ++ ads = additions server i ++ is.flatMap (additions server) := by
        rw [hadded₂, hattempted.added, List.append_assoc] at hadded
        exact List.append_cancel_left hadded
      obtain ⟨hads₁, hrestAdded⟩ := additions_split hi (fun a ha ↦ (hattempted.ofChunk a ha).1) hads
        (fun _ ↦ index_of_mem_additions) (fun _ ↦ index_of_mem_flatMap_additions) hboth
      have hlength := congrArg List.length hattempted.failedSpans
      have hlength' := congrArg List.length hspans
      rw [List.length_append] at hlength hlength'
      rw [unaccepted_of_some haccepted, List.nil_append] at hfailed
      have hnone : t₁.failedSpans = t.failedSpans := by
        rw [hattempted.failedSpans, List.append_right_eq_self, ← List.length_eq_zero_iff]
        omega
      obtain ⟨n, m, errors, haccounts⟩ := accounts_of_added remaining_all haccepted hattempts
        (by rw [hattempted.added, hads₁, additions_of_some haccepted]) hnone hchunk
      obtain ⟨effects, hcredit⟩ := sendChunk_of_accounts sleepEffect size items haccepted haccounts
      obtain ⟨-, rfl⟩ := Prod.mk.inj (hsend.symm.trans hcredit)
      obtain ⟨hsubset, hall⟩ := ih hnodup hchunks hrest (by rw [hadded₂, hrestAdded])
        (by rw [hfailed, hnone])
      rw [acceptedResponses_cons_of_some haccepted]
      refine ⟨List.Subset.trans (List.subset_append_left _ _) hsubset,
        List.forall_mem_cons.mpr ⟨⟨errors, haccounts.errors, ?_⟩, hall⟩⟩
      exact List.Subset.trans (List.subset_append_right _ _) hsubset

end Chunks

/-! ## The result of a batch -/

section Result

variable {lib : FloatSums F} {sleepEffect : ℕ → Effect F} {client : Client F}
  {server : ℕ → ℕ → Attempt F} {spans : List (SpanInput F)} {size : ℕ}
  {items : List (SpanIngestItem F)} {i : ℕ} {t : Tally F} {result : BatchResult}

theorem chunkAt_ne_nil (hsize : 0 < size) (hi : i < numChunks size items) :
    chunkAt size items i ≠ [] := by
  have hle : (i + 1) * size ≤ items.length + size - 1 :=
    (Nat.le_div_iff_mul_le hsize).mp (Nat.succ_le_of_lt hi)
  have hlt : i * size < items.length := by
    rw [Nat.succ_mul] at hle
    omega
  have hlength : 0 < (chunkAt size items i).length := by
    rw [chunkAt, List.length_take, List.length_drop]
    omega
  exact List.ne_nil_of_length_pos hlength

theorem chunkIndices_nil (client : Client F) : chunkIndices client [] = [] := by
  have hzero : numChunks client.maxBatchSize ([] : List (SpanIngestItem F)) = 0 := by
    rw [numChunks, List.length_nil, Nat.zero_add]
    exact Nat.div_eq_of_lt (Nat.sub_lt client.pos Nat.one_pos)
  rw [chunkIndices, hzero, List.range_zero]

theorem exists_mapM_asText_iff {errors : List (Val F)} :
    (∃ texts, errors.mapM asText = some texts) ↔ ∀ e ∈ errors, (asText e).isSome := by
  induction errors with
  | nil => exact iff_of_true ⟨[], rfl⟩ (by simp)
  | cons e errors ih =>
    rw [List.forall_mem_cons, ← ih, Option.isSome_iff_exists, List.mapM_cons]
    simp only [Option.bind_eq_bind, Option.bind_eq_some_iff, Option.pure_def, Option.some.injEq]
    constructor
    · rintro ⟨texts, text, htext, rest, hrest, -⟩
      exact ⟨⟨text, htext⟩, rest, hrest⟩
    · rintro ⟨⟨text, htext⟩, rest, hrest⟩
      exact ⟨_, text, htext, rest, hrest, rfl⟩

theorem statusOf_eq_success_iff {n : ℕ} :
    statusOf t n = .success ↔ t.failedChunks = 0 ∧ t.allErrors = [] := by
  rw [← List.isEmpty_iff, statusOf]
  split
  · exact iff_of_true rfl ‹_›
  · refine iff_of_false ?_ ‹_›
    split <;> exact fun h ↦ nomatch h

theorem failedChunks_of_failure {n : ℕ} (h : statusOf t n = .failure) : t.failedChunks = n := by
  rw [statusOf] at h
  split at h
  · exact nomatch h
  · by_contra hne
    rw [if_neg hne] at h
    exact nomatch h

theorem batchResult_eq_ok_iff {n : ℕ} : batchResult lib t n = .ok result ↔
    t.totalIngested.toInt lib = some result.ingestedCount ∧
      t.totalSkipped.toInt lib = some result.skippedCount ∧
      t.allErrors.mapM asText = some result.errors ∧
      result.failedSpans = t.failedSpans ∧ result.status = statusOf t n := by
  simp only [batchResult, bind_eq_ok_iff, orRaise_eq_ok_iff, pure_eq_ok_iff]
  constructor
  · rintro ⟨ingested, hingested, skipped, hskipped, errors, herrors, rfl⟩
    exact ⟨hingested, hskipped, herrors, rfl, rfl⟩
  · rintro ⟨hingested, hskipped, herrors, hfailed, hstatus⟩
    refine ⟨_, hingested, _, hskipped, _, herrors, ?_⟩
    rw [← hfailed, ← hstatus]

theorem runBatch_of_ingest (hspans : spans ≠ []) (hitems : spans.mapM (toItem client) = .ok items)
    (hrun : ingest lib sleepEffect server client.maxBatchSize items {} = (.ok (), t)) :
    runBatch lib sleepEffect client server spans {}
      = (batchResult lib t (numChunks client.maxBatchSize items), t) := by
  rw [runBatch, if_neg (by simpa using hspans), ofExcept_bind_of_ok hitems,
    bind_of_ok (mapError_of_ok hrun), bind_of_ok get_apply, ofExcept_apply]

theorem exact_nil (lib : FloatSums F) (sleepEffect : ℕ → Effect F) (client : Client F)
    (server : ℕ → ℕ → Attempt F) :
    Exact lib client server [] (runBatch lib sleepEffect client server [] {}) := by
  refine ⟨[], _, rfl, rfl, ?_⟩
  rw [chunkIndices_nil]
  exact ⟨rfl, ⟨_, rfl, rfl⟩, ⟨_, rfl, rfl⟩, rfl, fun _ ↦ ⟨rfl, rfl⟩, by simp⟩

/-- **Exact chunks make an exact report.** -/
theorem Reported.exact (hspans : spans ≠ []) (hitems : spans.mapM (toItem client) = .ok items)
    (hrun : ingest lib sleepEffect server client.maxBatchSize items {} = (.ok (), t))
    (h : Reported lib server client.maxBatchSize items (chunkIndices client items) {} t)
    {ingested skipped : ℤ} (hingested : t.totalIngested.toInt lib = some ingested)
    (hskipped : t.totalSkipped.toInt lib = some skipped) :
    Exact lib client server spans (runBatch lib sleepEffect client server spans {}) := by
  obtain ⟨errors, herrors, htexts⟩ := h.errors
  rw [List.nil_append] at herrors
  obtain ⟨texts, hmapM⟩ := exists_mapM_asText_iff.mpr htexts
  rw [← herrors] at hmapM
  have hfailedSpans := h.failedSpans.trans (List.nil_append _)
  have hfailedChunks := h.failedChunks.trans (Nat.zero_add _)
  let result : BatchResult := ⟨statusOf t (numChunks client.maxBatchSize items), ingested, skipped,
    t.failedSpans, texts⟩
  have hresult : batchResult lib t (numChunks client.maxBatchSize items) = .ok result :=
    batchResult_eq_ok_iff.mpr ⟨hingested, hskipped, hmapM, rfl, rfl⟩
  rw [runBatch_of_ingest hspans hitems hrun]
  refine ⟨items, result, hitems, hresult, h.added.trans (List.nil_append _),
    ⟨_, h.ingested, hingested⟩, ⟨_, h.skipped, hskipped⟩, hfailedSpans, fun hsuccess ↦ ?_,
    fun hfailure i hi ↦ ?_⟩
  · obtain ⟨hnone, hempty⟩ := statusOf_eq_success_iff.mp hsuccess
    refine ⟨?_, ?_⟩
    · rw [hfailedChunks, List.countP_eq_zero] at hnone
      refine hfailedSpans.trans (List.flatMap_eq_nil_iff.mpr fun i hi ↦ ?_)
      have hsome : accepted server i ≠ none := fun hnil ↦ hnone i hi (Option.isNone_iff_eq_none.mpr hnil)
      obtain ⟨a, ha⟩ := Option.ne_none_iff_exists'.mp hsome
      exact unaccepted_of_some ha
    · rw [hempty] at hmapM
      exact (Option.some.inj hmapM).symm
  · have hall := failedChunks_of_failure hfailure
    rw [hfailedChunks, ← List.length_range (n := numChunks client.maxBatchSize items)] at hall
    exact Option.isNone_iff_eq_none.mp (List.countP_eq_length.mp hall i hi)

/-- **A client reports exactly when its accepted responses can be accounted for.** -/
theorem exact_runBatch_iff (lib : FloatSums F) (sleepEffect : ℕ → Effect F) (client : Client F)
    (server : ℕ → ℕ → Attempt F) (spans : List (SpanInput F)) :
    Exact lib client server spans (runBatch lib sleepEffect client server spans {}) ↔
      Accountable lib client server spans := by
  constructor
  · rintro ⟨items, result, hitems, hok, hadded, hingested, hskipped, hfailed, -, -⟩
    refine ⟨items, hitems, ⟨_, hingested⟩, ⟨_, hskipped⟩, fun r hr ↦ ?_⟩
    have hspans : spans ≠ [] := by
      rintro rfl
      have hnil : items = [] := (pure_eq_ok_iff.mp hitems).symm
      rw [hnil, chunkIndices_nil] at hr
      exact absurd hr List.not_mem_nil
    obtain ⟨t, -, -, hrun, -⟩ := exists_ingested lib sleepEffect server client.maxBatchSize items
      (chunkIndices client items) {}
    rw [runBatch_of_ingest hspans hitems hrun] at hok hadded
    obtain ⟨-, -, herrors, hfailedSpans, -⟩ := batchResult_eq_ok_iff.mp hok
    obtain ⟨-, hall⟩ := elements_of_exact List.nodup_range
      (fun i hi ↦ chunkAt_ne_nil client.pos (List.mem_range.mp hi)) hrun
      (hadded.trans (List.nil_append _).symm)
      (by rw [← hfailedSpans, hfailed]; exact (Nat.zero_add _).symm)
    obtain ⟨errors, helements, hsubset⟩ := hall r hr
    exact ⟨errors, helements, fun e he ↦ exists_mapM_asText_iff.mp ⟨_, herrors⟩ e (hsubset he)⟩
  · rintro ⟨items, hitems, ⟨ingested, n, hn, hingested⟩, ⟨skipped, m, hm, hskipped⟩, htexts⟩
    cases spans with
    | nil => exact exact_nil lib sleepEffect client server
    | cons s spans =>
      obtain ⟨t, hrun, hreported⟩ :=
        exists_reported (t := {}) lib sleepEffect server client.maxBatchSize items hn hm htexts
      have hn' := Except.ok.inj (hn.symm.trans hreported.ingested)
      have hm' := Except.ok.inj (hm.symm.trans hreported.skipped)
      exact hreported.exact (List.cons_ne_nil _ _) hitems hrun (hn' ▸ hingested) (hm' ▸ hskipped)

end Result

/-! ## The two clients -/

/-- The runs have the same variables, whatever was done. -/
def SameVariables (s t : Tally F) : Prop := ∃ effects, t = s.withEffects effects

section Clients

variable {lib : FloatSums F} {sleepEffect sleepEffect' : ℕ → Effect F} {i j : ℕ}
  {chunk : List (SpanIngestItem F)}

theorem alike_change {f g : Tally F → Tally F}
    (h : ∀ s effects, SameVariables (f s) (g (s.withEffects effects))) :
    Alike SameVariables (modify f : Program (Tally F) AttemptError Unit) (modify g) := by
  refine alike_modify fun s t hst ↦ ?_
  obtain ⟨effects, rfl⟩ := hst
  exact h s effects

theorem unaffected_account (r : HttpResponse F) :
    Unaffected SameVariables (account lib i j r) := by
  refine unaffected_get_bind (by rintro s _ ⟨effects, rfl⟩; rfl) fun _ ↦ ?_
  refine (unaffected_ofExcept _).bind fun _ ↦ ?_
  refine (alike_change fun _ _ ↦ ⟨_, rfl⟩).bind fun _ ↦ ?_
  refine unaffected_get_bind (by rintro s _ ⟨effects, rfl⟩; rfl) fun _ ↦ ?_
  refine (unaffected_ofExcept _).bind fun _ ↦ ?_
  refine (alike_change fun _ _ ↦ ⟨_, rfl⟩).bind fun _ ↦ ?_
  refine (unaffected_ofExcept _).bind fun _ ↦ ?_
  exact alike_change fun _ _ ↦ ⟨_, rfl⟩

theorem unaffected_tryAttempt (answer : Attempt F) :
    Unaffected SameVariables (tryAttempt lib i j chunk answer) := by
  refine (alike_change fun _ _ ↦ ⟨_, rfl⟩).bind fun _ ↦ ?_
  cases answer with
  | raised message => exact unaffected_raise _
  | response r =>
    by_cases hsuccess : r.IsSuccess
    · simp only [if_pos hsuccess]
      exact unaffected_account r
    · simp only [if_neg hsuccess]
      exact unaffected_raise _

theorem alike_handle (e : AttemptError) : Alike SameVariables (handle sleepEffect j chunk e)
    (handle sleepEffect' j chunk e) := by
  have hrecord : ∀ (message : String) (left : Bool), Alike SameVariables
      (do recordFailure chunk message; return left) (do recordFailure chunk message; return left) := by
    intro message left
    have hchange : Alike SameVariables (recordFailure chunk message)
        (recordFailure chunk message) := alike_change fun _ _ ↦ ⟨_, rfl⟩
    exact hchange.bind fun _ ↦ (unaffected_pure left).alike
  have hsleep : Alike SameVariables (do sleep sleepEffect (2 ^ j); return false)
      (do sleep sleepEffect' (2 ^ j); return false) := by
    have hchange : Alike SameVariables (sleep sleepEffect (2 ^ j)) (sleep sleepEffect' (2 ^ j)) :=
      alike_change fun _ _ ↦ ⟨_, rfl⟩
    exact hchange.bind fun _ ↦ (unaffected_pure false).alike
  cases e with
  | httpStatusError code text =>
    rw [handle, handle]
    by_cases hclient : HttpResponse.IsClientError code
    · rw [if_pos hclient, if_pos hclient]
      exact hrecord _ true
    · rw [if_neg hclient, if_neg hclient]
      by_cases hj : j < 2
      · rw [if_pos hj, if_pos hj]
        exact hsleep
      · rw [if_neg hj, if_neg hj]
        exact hrecord _ false
  | other message =>
    rw [handle, handle]
    by_cases hj : j < 2
    · rw [if_pos hj, if_pos hj]
      exact hsleep
    · rw [if_neg hj, if_neg hj]
      exact hrecord _ false

theorem alike_attempts (answers : ℕ → Attempt F) (js : List ℕ) : Alike SameVariables
    (attempts lib sleepEffect answers i chunk js) (attempts lib sleepEffect' answers i chunk js) := by
  induction js with
  | nil => exact (unaffected_pure ()).alike
  | cons j js ih =>
    have htry : Unaffected SameVariables (do tryAttempt lib i j chunk (answers j); return true) :=
      (unaffected_tryAttempt (answers j)).bind fun _ ↦ unaffected_pure true
    refine (htry.alike.attempt alike_handle).bind fun left ↦ ?_
    cases left with
    | true => exact (unaffected_pure ()).alike
    | false => exact ih

theorem alike_runBatch (client : Client F) (server : ℕ → ℕ → Attempt F)
    (spans : List (SpanInput F)) : Alike SameVariables
      (runBatch lib sleepEffect client server spans)
      (runBatch lib sleepEffect' client server spans) := by
  rw [runBatch, runBatch]
  by_cases hspans : spans.isEmpty = true
  · rw [if_pos hspans, if_pos hspans]
    exact (unaffected_pure _).alike
  · rw [if_neg hspans, if_neg hspans]
    refine (unaffected_ofExcept _).alike.bind fun items ↦ ?_
    refine ((alike_forM fun i _ ↦ alike_attempts (server i) [0, 1, 2]).mapError _).bind fun _ ↦ ?_
    exact unaffected_get_bind (by rintro s _ ⟨effects, rfl⟩; rfl) fun _ ↦ unaffected_ofExcept _

end Clients

/-- **The two clients return the same**, whatever the server does. -/
theorem batchSpans_fst_eq (lib : FloatSums F) (client : Client F) (server : ℕ → ℕ → Attempt F)
    (spans : List (SpanInput F)) :
    (DriftGuardClient.batchSpans lib client server spans).1
      = (AsyncDriftGuardClient.batchSpans lib client server spans).1 :=
  (alike_runBatch client server spans {} {} ⟨[], rfl⟩).1

/-- The reports of the two clients are exact, and equal. -/
def ExactReports (lib : FloatSums F) (client : Client F) (server : ℕ → ℕ → Attempt F)
    (spans : List (SpanInput F)) : Prop :=
  Exact lib client server spans (DriftGuardClient.batchSpans lib client server spans) ∧
    Exact lib client server spans (AsyncDriftGuardClient.batchSpans lib client server spans) ∧
    (DriftGuardClient.batchSpans lib client server spans).1
      = (AsyncDriftGuardClient.batchSpans lib client server spans).1

/-- **The reports are exact if and only if the accepted responses can be accounted for.** -/
theorem exactReports_iff (lib : FloatSums F) (client : Client F) (server : ℕ → ℕ → Attempt F)
    (spans : List (SpanInput F)) :
    ExactReports lib client server spans ↔ Accountable lib client server spans := by
  constructor
  · rintro ⟨hsync, -, -⟩
    exact (exact_runBatch_iff lib .timeSleep client server spans).mp hsync
  · intro h
    exact ⟨(exact_runBatch_iff lib .timeSleep client server spans).mpr h,
      (exact_runBatch_iff lib .asyncioSleep client server spans).mpr h,
      batchSpans_fst_eq lib client server spans⟩

/-! ### Errors that are null -/

def wholeSums : FloatSums WholeFloat where
  ofInt i := some ⟨i⟩
  add f g := ⟨f.value + g.value⟩
  toInt f := some f.value

def sampleClient : Client WholeFloat where
  validate _ := none

def sampleSpan : SpanIngestItem WholeFloat where
  traceId := "t"
  spanId := "s"
  parentSpanId := none
  name := "n"
  kind := "INTERNAL"
  startTime := "2026-01-01T00:00:00"
  endTime := none
  statusCode := "OK"
  attributes := []
  runId := "r"
  tenantId := "tenant"
  pipelineId := "p"

/-- A server that ingests the span each time, and has no errors. -/
def nullErrors (_ _ : ℕ) : Attempt WholeFloat :=
  .response ⟨200, "", [("ingested", .int 1), ("errors", .none)]⟩

/-- The span is ingested, its counter is added three times, and it is reported as failed. -/
theorem not_exactReports_nullErrors :
    ¬ ExactReports wholeSums sampleClient nullErrors [.item sampleSpan] := by
  rintro ⟨⟨items, -, hitems, -, hadded, -⟩, -⟩
  have hitem : items = [sampleSpan] := (Except.ok.inj hitems).symm
  rw [hitem] at hadded
  exact absurd (congrArg List.length hadded) (by decide +kernel)

end DriftGuardX.Sdk
