import DriftGuardX.Admission.Lifecycle

/-!
# The audit chain of the SQLite store

`_append_event` hashes the details in memory and stores a text of them; `verify_event_chain` hashes
what the text decodes to. The two agree when the details are stable under a round trip. Most details
are records of strings that the store builds itself; the exception is the dictionary `actual` that a
caller hands to `verify`, and it is recorded whether the verification admits or refuses.

So the condition is on that dictionary: in every run whose verifications are all given a stable one,
the audit chain of every issued receipt verifies.
-/

namespace DriftGuardX.Admission.AdmissionReceiptStore

open Json Bytes Transaction HashChain

variable {F : Type} [FloatAmount F] {P : Platform}

/-! ## What the verifier accepts -/

variable (F P) in
/-- A stored event with its position, its predecessor, and the hash of what its text decodes to. -/
def EventOk (n : ℕ) (previousHash : Option String) (row : AuditEvent) : Prop :=
  row.sequence = n ∧ row.previousEventHash = previousHash ∧
    ∃ details : Val F, loads row.detailsJson = some details ∧
      eventHash P row.receiptId row.sequence row.eventType row.previousEventHash row.reason details
        row.createdAt = .ok row.eventHash

/-- The hash that the next event names. -/
def linkHash (row : AuditEvent) : Option String := some row.eventHash

variable (F P) in
abbrev AuditChain (rows : List AuditEvent) : Prop := Chained (EventOk F P) linkHash 1 none rows

theorem readEvent_eq_ok {row : AuditEvent} {details : Val F}
    (h : loads row.detailsJson = some details) :
    readEvent row = .ok ⟨row.receiptId, row.sequence, row.eventType, row.eventHash,
      row.previousEventHash, row.reason, details, row.createdAt⟩ := by
  rw [readEvent, h]
  rfl

theorem checkEvent_eq_ok_iff {n : ℕ} {previousHash : Option String} {e : AdmissionAuditEvent F} :
    checkEvent P n previousHash e = .ok () ↔ e.sequence = n ∧ e.previousEventHash = previousHash ∧
      eventHash P e.receiptId e.sequence e.eventType e.previousEventHash e.reason e.details
        e.createdAt = .ok e.eventHash := by
  simp only [checkEvent, bind_eq_ok_iff, require_eq_ok_iff]
  constructor
  · rintro ⟨-, hseq, -, hprev, hash, hhash, rfl⟩
    refine ⟨hseq, hprev, ?_⟩
    revert hhash
    cases eventHash P e.receiptId e.sequence e.eventType e.previousEventHash e.reason e.details
      e.createdAt with
    | error err =>
      intro h
      exact absurd h (by simp [Except.mapError])
    | ok hash =>
      intro h
      rw [Except.ok.inj h]
  · rintro ⟨hseq, hprev, hhash⟩
    exact ⟨(), hseq, (), hprev, e.eventHash, by rw [hhash]; rfl, rfl⟩

theorem verifyEventChain_eq_ok {db : Database F} {receiptId : String}
    (hne : db.eventsOf receiptId ≠ []) (hchain : AuditChain F P (db.eventsOf receiptId)) :
    verifyEventChain P db receiptId = .ok (true, "ok") := by
  -- an event that was hashed can be read back
  have hreads : ∀ row ∈ db.eventsOf receiptId, ∃ e : AdmissionAuditEvent F,
      readEvent row = .ok e := by
    intro row hrow
    obtain ⟨details, hdetails⟩ := hchain.forall_mem
      (p := fun row ↦ ∃ details : Val F, loads row.detailsJson = some details)
      (fun _ _ _ h ↦ ⟨_, h.2.2.choose_spec.1⟩) row hrow
    exact ⟨_, readEvent_eq_ok hdetails⟩
  obtain ⟨es, hes⟩ := exists_mapM_eq_ok_iff.mpr hreads
  have hrel := mapM_eq_ok_iff.mp hes
  have hwalk : walk (checkEvent P) (fun e ↦ some e.eventHash) 1 none es = .ok () := by
    rw [walk_eq_ok_iff]
    refine hchain.forall₂ (hrel.imp fun row e he ↦ ?_)
    simp only [readEvent, bind_eq_ok_iff, orRaise_eq_ok_iff, pure_eq_ok_iff] at he
    obtain ⟨details, hdetails, rfl⟩ := he
    refine ⟨rfl, fun n g hok ↦ checkEvent_eq_ok_iff.mpr ⟨hok.1, hok.2.1, ?_⟩⟩
    obtain ⟨details', hdetails', hhash⟩ := hok.2.2
    rw [hdetails, Option.some_inj] at hdetails'
    exact hdetails' ▸ hhash
  have hempty : es.isEmpty = false := by
    rw [List.isEmpty_eq_false_iff]
    rintro rfl
    exact hne (List.forall₂_nil_right_iff.mp hrel)
  rw [verifyEventChain, events, hes, ok_bind, hempty, if_neg Bool.false_ne_true, hwalk]
  rfl

/-! ## Stable details -/

/-- The hash of an event depends on the details through the document they are written as. -/
theorem eventHash_congr {receiptId reason createdAt : String} {sequence : ℕ}
    {eventType : EventType} {previousHash : Option String} {v w : Val F}
    (h : toDoc true v = toDoc true w) :
    eventHash P receiptId sequence eventType previousHash reason v createdAt
      = eventHash P receiptId sequence eventType previousHash reason w createdAt := by
  have hdumps : ∀ st : Style,
      dumps st true (eventPayload receiptId sequence eventType previousHash reason v createdAt)
        = dumps st true
          (eventPayload receiptId sequence eventType previousHash reason w createdAt) := by
    intro st
    rw [dumps, dumps, eventPayload, eventPayload, toDoc_true_object, toDoc_true_object]
    simp only [objDocs, h]
  rw [eventHash, eventHash, hdumps]

theorem nextSequence_of_chain {db : Database F} {receiptId : String}
    (h : AuditChain F P (db.eventsOf receiptId)) :
    db.nextSequence receiptId = 1 + (db.eventsOf receiptId).length := by
  rw [Tables.nextSequence]
  rcases List.eq_nil_or_concat (db.eventsOf receiptId) with hnil | ⟨init, last, hlast⟩
  · rw [hnil]
    rfl
  · rw [hlast, List.concat_eq_append] at h ⊢
    have hpos : last.sequence = 1 + init.length := (chained_append_singleton.mp h).2.1
    rw [List.getLast?_concat, Option.map_some, Option.getD_some, hpos, List.length_append,
      List.length_singleton, Nat.add_assoc]

theorem headHash_eventsOf (rows : List AuditEvent) :
    headHash linkHash none rows = rows.getLast?.map AuditEvent.eventHash := by
  rcases List.eq_nil_or_concat rows with rfl | ⟨init, last, rfl⟩
  · rfl
  · rw [List.concat_eq_append, headHash_append_singleton, List.getLast?_concat]
    rfl

variable (F P) in
/-- Every receipt has an audit chain. -/
def Audited (db : Database F) : Prop := ∀ receiptId, AuditChain F P (db.eventsOf receiptId)

theorem Audited.of_events {db db' : Database F} (h : Audited F P db) (he : db'.events = db.events) :
    Audited F P db' := by
  intro receiptId
  rw [Tables.eventsOf, he]
  exact h receiptId

/-- **The writer's step.** An event with stable details continues the chain. -/
theorem Audited.appended {db db' : Database F} (h : Audited F P db) {receiptId : String}
    {eventType : EventType} {reason createdAt : String} {details : Val F}
    (happ : appendEvent P column db receiptId eventType reason details createdAt = .ok db')
    (hstable : details.Stable) : Audited F P db' := by
  obtain ⟨event, hev⟩ := appendEvent_eq_ok happ
  intro other
  by_cases ho : other = receiptId
  · subst ho
    rw [hev.eventsOf_self, AuditChain, chained_append_singleton]
    refine ⟨h other, ?_⟩
    rw [headHash_eventsOf, ← nextSequence_of_chain (h other)]
    -- stable details are hashed alike in memory and after the round trip
    obtain ⟨w, hw, hround⟩ := exists_loads_of_dumps hev.details
    have hdoc : toDoc true w = toDoc true details :=
      (dumps_eq_dumps_iff ⟨true, true⟩).mp ((hround ⟨true, true⟩).mpr hstable)
    have hhash := hev.hash
    rw [hev.eq]
    refine ⟨rfl, rfl, w, hw, ?_⟩
    rw [eventHash_congr hdoc]
    exact hhash
  · rw [hev.eventsOf_ne ho]
    exact h other

/-! ## Every run -/

/-- The dictionary given to a verification is stable. -/
def CallStable (call : Call F × Env) : Prop :=
  ∀ args, call.1 = .verify args → (Val.dict args.actual).Stable

/-- **One call** with stable details keeps the chains. -/
theorem Writes.audited {call : Call F × Env} {db db' : Database F} (h : Writes P call db db')
    (hcall : CallStable call) (hdb : Audited F P db) : Audited F P db' := by
  -- the details hold the dictionary of the caller, or texts of the store's own
  cases h with
  | nothing => exact hdb
  | @issued receipt env row _ db₁ _ hid hissued hinsert happend =>
    exact (hdb.of_events (Tables.events_insertReceipt hinsert)).appended happend
      (stable_record (nodup_storedPayload P receipt))
  | refused hrow hstatus hrefusal happend =>
    exact hdb.appended happend (stable_singleton (hcall _ rfl))
  | closed hrow hstatus hrefusal happend hclose =>
    have hdb₁ := hdb.appended happend (stable_singleton (hcall _ rfl))
    exact (hdb₁.of_events (Tables.events_closeReceipt ..)).appended hclose
      (stable_singleton (stable_scalar _))
  | verified hrow hstatus happend =>
    exact (hdb.of_events (Tables.events_setStatus ..)).appended happend (hcall _ rfl)
  | ended hrow hstep happend =>
    exact (hdb.of_events (Tables.events_closeReceipt ..)).appended happend
      (stable_object List.nodup_nil (by simp))
  | attested hrow hstatus hinsert happend =>
    exact (hdb.of_events (Tables.events_insertAttestation hinsert)).appended happend
      (stable_singleton (stable_scalar _))

theorem audited_reached {calls : List (Call F × Env)} (hcalls : ∀ call ∈ calls, CallStable call) :
    Audited F P (reached P calls) :=
  run_induction (P := Audited F P) (C := CallStable)
    (fun _ _ _ _ hcall hdb h ↦ (writes_step h).audited hcall hdb)
    (fun _ ↦ trivial) hcalls

theorem eventsOf_ne_nil (calls : List (Call F × Env)) {receiptId : String}
    (h : (reached P calls).status receiptId ≠ none) : (reached P calls).eventsOf receiptId ≠ [] := by
  obtain ⟨p, hrun, hfits⟩ := sound_reached (P := P) calls receiptId
  intro hnil
  rw [Tables.life, hnil] at hrun
  obtain rfl := Option.some.inj hrun
  simp only [Phase.fits, decide_eq_true_eq] at hfits
  exact h hfits.1

/-- **Audit completeness.** In every run whose verifications are given stable dictionaries, the
audit chain of every issued receipt verifies. -/
theorem verifyEventChain_reached {calls : List (Call F × Env)}
    (hcalls : ∀ call ∈ calls, CallStable call) {receiptId : String}
    (hissued : (reached P calls).status receiptId ≠ none) :
    verifyEventChain P (reached P calls) receiptId = .ok (true, "ok") :=
  verifyEventChain_eq_ok (eventsOf_ne_nil calls hissued) (audited_reached hcalls receiptId)

/-- Issuing and verifying with string keys. -/
theorem verifyEventChain_sampleCalls :
    verifyEventChain samplePlatform (reached samplePlatform (sampleCalls sampleActual)) "a"
      = .ok (true, "ok") := by
  have hissued : (reached samplePlatform [(.issue sampleReceipt, sampleEnv)]).status "a"
      = some .issued := by decide +kernel
  -- what was issued has a status ever after
  obtain ⟨s, hs, -⟩ := status_reached hissued
    (.verify ⟨"a", sampleActual, none, none, none, none⟩, sampleEnv)
  have hkept : (reached samplePlatform (sampleCalls sampleActual)).status "a" = some s := hs
  refine verifyEventChain_reached (fun call hcall args hargs ↦ ?_)
    (hkept ▸ Option.some_ne_none s)
  rcases List.mem_cons.mp hcall with rfl | hcall
  · exact absurd hargs (by simp)
  · obtain rfl := List.mem_singleton.mp hcall
    obtain rfl := Call.verify.inj hargs
    intro d hd
    have hsorted : ((toDoc true (.dict sampleActual)).all fun d ↦ decide d.SortedKeys) = true := by
      decide +kernel
    rw [hd] at hsorted
    simpa using hsorted

/-- Integer keys: the verification is admitted, and its event does not verify. -/
theorem verifyEventChain_integerKeyActual :
    (run (step samplePlatform) .empty (sampleCalls integerKeyActual)).1
        = [.ok (.text "a"), .ok (.verdict true "ok")] ∧
      verifyEventChain samplePlatform (reached samplePlatform (sampleCalls integerKeyActual)) "a"
        = .ok (false, "Audit hash mismatch at event 2.") := by
  decide +kernel

end DriftGuardX.Admission.AdmissionReceiptStore
