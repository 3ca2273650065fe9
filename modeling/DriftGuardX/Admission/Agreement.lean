import DriftGuardX.Admission.SqliteStore
import DriftGuardX.Admission.PostgresStore
import DriftGuardX.Json.Canonical

/-!
# The two stores implement one contract

The SQLite and the PostgreSQL store are related row by row: the same receipts with the same status
and binding hash, the same audit events, the same attestations. What differs is how a JSON column is
written, and how the reserved amount is booked; a related column encodes one value in both styles.

Each operation on the tables keeps the relation and has the same outcome on both sides, so each call
has, and the simulation rule carries this over to every run in which no reservation is refused.
-/

namespace DriftGuardX.Admission

open Json Transaction

variable {F : Type} [FloatAmount F]

/-! ## Related tables -/

variable (F) in
/-- The same event, with its details in the column style of either store. -/
structure SameEvent (e e' : AuditEvent) : Prop where
  receiptId : e.receiptId = e'.receiptId
  sequence : e.sequence = e'.sequence
  eventType : e.eventType = e'.eventType
  eventHash : e.eventHash = e'.eventHash
  reason : e.reason = e'.reason
  details : ∃ v : Val F, v.DistinctKeys ∧ AdmissionReceiptStore.column v = some e.detailsJson ∧
    PostgresAdmissionReceiptStore.column v = some e'.detailsJson

/-- The same receipt, with its payload in the column style of either store. -/
structure SameRow (P : Platform) (row : ReceiptRow F)
    (row' : ReceiptRow PostgresAdmissionReceiptStore.PoolShare) : Prop where
  receiptId : row.receiptId = row'.receiptId
  bindingHash : row.bindingHash = row'.bindingHash
  status : row.status = row'.status
  payload : ∃ receipt : AdmissionReceiptV1 F,
    AdmissionReceiptStore.column (.record (receipt.storedPayload P)) = some row.payloadJson ∧
    PostgresAdmissionReceiptStore.column (.record (receipt.storedPayload P))
      = some row'.payloadJson

structure SameAttestation (a a' : AttestationRow) : Prop where
  receiptId : a.receiptId = a'.receiptId
  attestationHash : a.attestationHash = a'.attestationHash

structure SameTables (P : Platform) (s : Tables F)
    (t : Tables PostgresAdmissionReceiptStore.PoolShare) : Prop where
  receipts : List.Forall₂ (SameRow P) s.receipts.rows t.receipts.rows
  events : List.Forall₂ (SameEvent F) s.events.rows t.events.rows
  attestations : List.Forall₂ SameAttestation s.attestations.rows t.attestations.rows

/-- Exceptions of one class. -/
abbrev SameKind (e e' : Error) : Prop := e.kind = e'.kind

theorem sameOutcome_self {α : Type} (x : Except Error α) : SameOutcome Eq SameKind x x :=
  sameOutcome_refl (k := SameKind) (fun _ ↦ rfl) (fun _ ↦ rfl) x

variable {P : Platform} {s : Tables F} {t : Tables PostgresAdmissionReceiptStore.PoolShare}

/-! ## Columns -/

theorem exists_column_of_eventHash {receiptId reason createdAt hash : String} {sequence : ℕ}
    {eventType : EventType} {previousHash : Option String} {v : Val F}
    (h : eventHash P receiptId sequence eventType previousHash reason v createdAt = .ok hash) :
    ∃ text, AdmissionReceiptStore.column v = some text := by
  simp only [eventHash, bind_eq_ok_iff, orRaise_eq_ok_iff] at h
  obtain ⟨text, htext, -⟩ := h
  obtain ⟨d, hd, -⟩ := Option.map_eq_some_iff.mp htext
  obtain ⟨e, he⟩ := exists_toDoc_of_mem hd (m := ("details", v)) (by simp)
  exact ⟨_, by rw [AdmissionReceiptStore.column, dumps, he, Option.map_some]⟩

theorem exists_columns {v : Val F} (hv : v.DistinctKeys) {text : Text}
    (h : AdmissionReceiptStore.column v = some text) :
    ∃ text', PostgresAdmissionReceiptStore.column v = some text' ∧
      ∃ w w' : Val F, loads text = some w ∧ loads text' = some w' ∧ toDoc true w = toDoc true w' :=
  exists_loads_dumps_false hv h ⟨true, false⟩

/-- Both stores read the same receipt from their rows. -/
theorem SameRow.exists_receipt {row : ReceiptRow F}
    {row' : ReceiptRow PostgresAdmissionReceiptStore.PoolShare} (h : SameRow P row row') :
    ∃ (receipt : AdmissionReceiptV1 F) (payload payload' : Val F),
      loads row.payloadJson = some payload ∧ loads row'.payloadJson = some payload' ∧
      (∀ id, receiptFromPersistedPayload P payload id = .ok receipt) ∧
      ∀ id, receiptFromPersistedPayload P payload' id = .ok receipt := by
  obtain ⟨receipt, hcol, hcol'⟩ := h.payload
  have hnd := nodup_storedPayload P receipt
  obtain ⟨text, kvs, htext, hloads, hperm⟩ := exists_loads_record ⟨true, true⟩ true hnd
  obtain ⟨text', kvs', htext', hloads', hperm'⟩ := exists_loads_record ⟨true, false⟩ false hnd
  obtain rfl := Option.some.inj (hcol.symm.trans htext)
  obtain rfl := Option.some.inj (hcol'.symm.trans htext')
  exact ⟨receipt, _, _, hloads, hloads',
    fun id ↦ receiptFromPersistedPayload_record P receipt id hperm,
    fun id ↦ receiptFromPersistedPayload_record P receipt id hperm'⟩

/-! ## Operations on related tables -/

namespace SameTables

theorem get? (h : SameTables P s t) (receiptId : String) :
    Option.Rel (SameRow P) (s.receipts.get? receiptId) (t.receipts.get? receiptId) :=
  KeyTable.rel_get? (fun _ _ hrow ↦ hrow.receiptId) h.receipts receiptId

theorem eventsOf (h : SameTables P s t) (receiptId : String) :
    List.Forall₂ (SameEvent F) (s.eventsOf receiptId) (t.eventsOf receiptId) := by
  refine forall₂_orderBy (fun _ _ he ↦ he.sequence) (List.rel_filter (fun e e' he ↦ ?_) h.events)
  simp only [he.receiptId]

theorem status (h : SameTables P s t) (receiptId : String) :
    s.status receiptId = t.status receiptId :=
  map_eq_map_of_rel (fun _ _ hrow ↦ hrow.status) (h.get? receiptId)

theorem setStatus (h : SameTables P s t) (receiptId : String) (status : ReceiptStatus) :
    SameTables P (s.setStatus receiptId status) (t.setStatus receiptId status) where
  receipts := KeyTable.forall₂_modify (fun _ _ hrow ↦ hrow.receiptId)
    (fun _ _ hrow ↦ ⟨hrow.receiptId, hrow.bindingHash, rfl, hrow.payload⟩) h.receipts
  events := h.events
  attestations := h.attestations

theorem closeReceipt (h : SameTables P s t) (receiptId : String) (status : ReceiptStatus)
    (time : String) :
    SameTables P (s.closeReceipt receiptId status time) (t.closeReceipt receiptId status time) where
  receipts := KeyTable.forall₂_modify (fun _ _ hrow ↦ hrow.receiptId)
    (fun _ _ hrow ↦ ⟨hrow.receiptId, hrow.bindingHash, rfl, hrow.payload⟩) h.receipts
  events := h.events
  attestations := h.attestations

theorem insertReceipt (h : SameTables P s t) {row : ReceiptRow F}
    {row' : ReceiptRow PostgresAdmissionReceiptStore.PoolShare} (hrow : SameRow P row row') :
    SameOutcome (SameTables P) SameKind (s.insertReceipt row) (t.insertReceipt row') := by
  have hhash : s.receipts.rows.map ReceiptRow.bindingHash
      = t.receipts.rows.map ReceiptRow.bindingHash :=
    map_eq_map_of_forall₂ (fun _ _ hrow ↦ hrow.bindingHash) h.receipts
  have hnone : s.receipts.get? row.receiptId = none ↔ t.receipts.get? row'.receiptId = none := by
    rw [← hrow.receiptId]
    exact eq_none_iff_of_rel (h.get? row.receiptId)
  rw [Tables.insertReceipt, Tables.insertReceipt, hhash, hrow.bindingHash]
  by_cases hnew : s.receipts.get? row.receiptId = none
  · rw [dif_pos hnew, dif_pos (hnone.mp hnew)]
    split
    · exact .error rfl
    · exact .ok ⟨List.rel_append h.receipts (.cons hrow .nil), h.events, h.attestations⟩
  · rw [dif_neg hnew, dif_neg (hnone.not.mp hnew)]
    exact .error rfl

theorem insertAttestation (h : SameTables P s t) {a a' : AttestationRow}
    (ha : SameAttestation a a') :
    SameOutcome (SameTables P) SameKind (s.insertAttestation a) (t.insertAttestation a') := by
  have hhash : s.attestations.rows.map AttestationRow.attestationHash
      = t.attestations.rows.map AttestationRow.attestationHash :=
    map_eq_map_of_forall₂ (fun _ _ ha ↦ ha.attestationHash) h.attestations
  have hnone : s.attestations.get? a.receiptId = none ↔
      t.attestations.get? a'.receiptId = none := by
    rw [← ha.receiptId]
    exact eq_none_iff_of_rel
      (KeyTable.rel_get? (fun _ _ ha ↦ ha.receiptId) h.attestations a.receiptId)
  rw [Tables.insertAttestation, Tables.insertAttestation, hhash, ha.attestationHash]
  by_cases hnew : s.attestations.get? a.receiptId = none
  · rw [dif_pos hnew, dif_pos (hnone.mp hnew)]
    split
    · exact .error rfl
    · exact .ok ⟨h.receipts, h.events, List.rel_append h.attestations (.cons ha .nil)⟩
  · rw [dif_neg hnew, dif_neg (hnone.not.mp hnew)]
    exact .error rfl

/-- **Both stores append the same event**, or neither does. -/
theorem appendEvent (h : SameTables P s t) {details : Val F} (hdetails : details.DistinctKeys)
    (receiptId : String) (eventType : EventType) (reason createdAt : String) :
    SameOutcome (SameTables P) SameKind
      (Admission.appendEvent P AdmissionReceiptStore.column s receiptId eventType reason details
        createdAt)
      (Admission.appendEvent P PostgresAdmissionReceiptStore.column t receiptId eventType reason
        details createdAt) := by
  have hlast := rel_getLast? (h.eventsOf receiptId)
  have hseq : (s.eventsOf receiptId).getLast?.map (fun e ↦ e.sequence + 1)
      = (t.eventsOf receiptId).getLast?.map fun e ↦ e.sequence + 1 :=
    map_eq_map_of_rel (fun _ _ he ↦ by rw [he.sequence]) hlast
  have hprev : (s.eventsOf receiptId).getLast?.map AuditEvent.eventHash
      = (t.eventsOf receiptId).getLast?.map AuditEvent.eventHash :=
    map_eq_map_of_rel (fun _ _ he ↦ he.eventHash) hlast
  have hhashes : s.events.rows.map AuditEvent.eventHash = t.events.rows.map AuditEvent.eventHash :=
    map_eq_map_of_forall₂ (fun _ _ he ↦ he.eventHash) h.events
  rw [Admission.appendEvent, Admission.appendEvent, hseq, hprev, hhashes]
  refine (sameOutcome_self _).bind fun hash _ hhash _ heq ↦ ?_
  subst heq
  -- what could be hashed can be written, in either style
  obtain ⟨text, htext⟩ := exists_column_of_eventHash hhash
  obtain ⟨text', htext', -⟩ := exists_columns hdetails htext
  rw [htext, htext', orRaise, orRaise, ok_bind, ok_bind]
  generalize ((t.eventsOf receiptId).getLast?.map fun e ↦ e.sequence + 1).getD 1 = sequence
  generalize (t.eventsOf receiptId).getLast?.map AuditEvent.eventHash = previousHash
  have hnone : s.events.get? (receiptId, sequence) = none ↔
      t.events.get? (receiptId, sequence) = none :=
    eq_none_iff_of_rel (KeyTable.rel_get?
      (fun _ _ he ↦ by rw [AuditEvent.key, AuditEvent.key, he.receiptId, he.sequence]) h.events _)
  dsimp only
  split
  · rename_i hnew
    split
    · refine (sameOutcome_self _).bind fun _ _ _ _ _ ↦ .ok ⟨h.receipts, ?_, h.attestations⟩
      exact List.rel_append h.events (.cons ⟨rfl, rfl, rfl, rfl, rfl, details, hdetails, htext,
        htext'⟩ .nil)
    · rename_i hold
      exact absurd (hnone.mp hnew) hold
  · rename_i hold
    split
    · rename_i hnew
      exact absurd (hnone.mpr hnew) hold
    · exact .error rfl

end SameTables

/-! ## Calls -/

section Calls

open PostgresAdmissionReceiptStore (Database budgetRefusal)

/-- One call of both stores: the same reply and related tables, or exceptions of one class. -/
abbrev SameCall (P : Platform) : Except Error (Reply × Tables F) → Except Error (Reply × Database) →
    Prop :=
  SameOutcome (fun p q ↦ p.1 = q.1 ∧ SameTables P p.2 q.2.tables) SameKind

variable {env : Env} {db : Database}

theorem exists_column_storedPayload (P : Platform) (receipt : AdmissionReceiptV1 F) :
    ∃ text text', AdmissionReceiptStore.column (.record (receipt.storedPayload P)) = some text ∧
      PostgresAdmissionReceiptStore.column (.record (receipt.storedPayload P)) = some text' := by
  have hnd := nodup_storedPayload P receipt
  obtain ⟨text, -, htext, -⟩ := exists_loads_record ⟨true, true⟩ true hnd
  obtain ⟨text', -, htext', -⟩ := exists_loads_record ⟨true, false⟩ false hnd
  exact ⟨text, text', htext, htext'⟩

theorem sameCall_issue (h : SameTables P s db.tables) (receipt : AdmissionReceiptV1 F)
    (hbudget : PostgresAdmissionReceiptStore.issue P receipt env db ≠ .error budgetRefusal) :
    SameCall P (AdmissionReceiptStore.issue P receipt env s)
      (PostgresAdmissionReceiptStore.issue P receipt env db) := by
  rw [PostgresAdmissionReceiptStore.issue] at hbudget ⊢
  rw [AdmissionReceiptStore.issue]
  cases hhash : receipt.bindingHash P with
  | error e => exact .error rfl
  | ok hash =>
    rw [hhash, ok_bind] at hbudget
    rw [ok_bind, ok_bind]
    have hget := h.get? receipt.receiptId
    -- both stores have the receipt, or neither has
    generalize s.receipts.get? receipt.receiptId = row,
      db.tables.receipts.get? receipt.receiptId = row' at hget hbudget
    cases hget with
    | some hrow =>
      dsimp only
      rw [hrow.bindingHash]
      exact (sameOutcome_self _).bind fun _ _ _ _ _ ↦ .ok ⟨rfl, h⟩
    | none =>
      dsimp only at hbudget ⊢
      rw [KeyTable.get?_insertIfAbsent, if_pos rfl, orRaise, ok_bind] at hbudget ⊢
      -- an amount that is no decimal, or does not fit, is what `hbudget` excludes
      cases hamount : FloatAmount.decimal receipt.reservedCost with
      | none =>
        rw [hamount] at hbudget
        exact absurd rfl hbudget
      | some reserved =>
        rw [hamount, orRaise, ok_bind, require] at hbudget
        rw [orRaise, ok_bind, require]
        split at hbudget
        · rename_i hfits
          rw [if_pos hfits, ok_bind]
          obtain ⟨text, text', htext, htext'⟩ := exists_column_storedPayload P receipt
          rw [htext, htext', orRaise, orRaise, ok_bind, ok_bind]
          refine (h.insertReceipt ⟨rfl, rfl, rfl, receipt, htext, htext'⟩).bind
            fun tables tables' _ _ htables ↦ ?_
          exact (htables.appendEvent (distinctKeys_record (nodup_storedPayload P receipt)) ..).bind
            fun _ _ _ _ hevent ↦ .ok ⟨rfl, hevent⟩
        · exact absurd rfl hbudget

theorem sameCall_verify (h : SameTables P s db.tables) (args : VerifyArgs F)
    (hactual : (Val.dict args.actual).DistinctKeys) :
    SameCall P (AdmissionReceiptStore.verify P args env s)
      (PostgresAdmissionReceiptStore.verify P args env db) := by
  rw [AdmissionReceiptStore.verify, PostgresAdmissionReceiptStore.verify]
  have hget := h.get? args.receiptId
  generalize s.receipts.get? args.receiptId = row at hget
  generalize hkey : db.tables.receipts.get? args.receiptId = row' at hget
  cases hget with
  | none => exact .ok ⟨rfl, h⟩
  | @some row row' hrow =>
    obtain ⟨receipt, payload, payload', hload, hload', hread, hread'⟩ := hrow.exists_receipt
    have hid : row'.receiptId = args.receiptId := KeyTable.key_of_get? hkey
    dsimp only
    -- the payloads were written in two styles, and are read as one receipt
    rw [hload, hload', orRaise, orRaise, ok_bind, ok_bind, hread, hread', ok_bind, ok_bind,
      hrow.status]
    refine (sameOutcome_self _).bind fun decision _ _ _ heq ↦ ?_
    subst heq
    by_cases hreason : decision.reason ≠ ""
    · rw [if_pos hreason, if_pos hreason]
      refine (h.appendEvent (distinctKeys_singleton hactual) ..).bind
        fun tables tables' _ _ htables ↦ ?_
      by_cases hissued : row'.status = .issued
      · rw [if_pos hissued, if_pos hissued]
        rw [PostgresAdmissionReceiptStore.releaseReservation, hid]
        exact ((htables.closeReceipt ..).appendEvent (distinctKeys_singleton (.scalar _)) ..).bind
          fun _ _ _ _ hevent ↦ .ok ⟨rfl, hevent⟩
      · rw [if_neg hissued, if_neg hissued]
        exact .ok ⟨rfl, htables⟩
    · rw [if_neg hreason, if_neg hreason]
      exact ((h.setStatus ..).appendEvent hactual ..).bind fun _ _ _ _ hevent ↦ .ok ⟨rfl, hevent⟩

/-- The targets that the calls ask for have the same sources in both stores. -/
theorem sameCall_terminalTransition (h : SameTables P s db.tables) (receiptId reason : String)
    {target : ReceiptStatus} (eventType : EventType)
    (hallowed : AdmissionReceiptStore.allowed target
      = PostgresAdmissionReceiptStore.allowed target) :
    SameCall P (AdmissionReceiptStore.terminalTransition P receiptId target eventType reason env s)
      (PostgresAdmissionReceiptStore.terminalTransition F P receiptId target eventType reason env
        db) := by
  rw [AdmissionReceiptStore.terminalTransition, PostgresAdmissionReceiptStore.terminalTransition]
  have hget := h.get? receiptId
  generalize s.receipts.get? receiptId = row at hget
  generalize hkey : db.tables.receipts.get? receiptId = row' at hget
  cases hget with
  | none => exact .error rfl
  | @some row row' hrow =>
    have hid : row'.receiptId = receiptId := KeyTable.key_of_get? hkey
    dsimp only
    rw [hallowed, hrow.status]
    refine (sameOutcome_self _).bind fun sources _ _ _ heq ↦ ?_
    subst heq
    by_cases hs : row'.status ∉ sources
    · rw [if_pos hs, if_pos hs]
      exact .ok ⟨rfl, h⟩
    · rw [if_neg hs, if_neg hs, PostgresAdmissionReceiptStore.releaseReservation, hid]
      have hempty : (Val.object [] : Val F).DistinctKeys := distinctKeys_object .nil (by simp)
      exact ((h.closeReceipt ..).appendEvent hempty ..).bind
        fun _ _ _ _ hevent ↦ .ok ⟨rfl, hevent⟩

theorem sameCall_recordAttestation (h : SameTables P s db.tables)
    (attestation : ExecutionAttestationV1) (keys : Option AdmissionReceiptTrustStore)
    (required : Option Bool) :
    SameCall P (AdmissionReceiptStore.recordAttestation P attestation keys required env s)
      (PostgresAdmissionReceiptStore.recordAttestation F P attestation keys required env db) := by
  rw [AdmissionReceiptStore.recordAttestation, PostgresAdmissionReceiptStore.recordAttestation]
  refine (sameOutcome_self _).bind fun _ _ _ _ _ ↦ ?_
  have hfound := sameOutcome_orRaise (k := SameKind) (fun _ ↦ rfl)
    (.valueError "Admission receipt not found.") (h.get? attestation.receiptId)
  refine hfound.bind fun row row' _ _ hrow ↦ ?_
  rw [hrow.status, hrow.bindingHash]
  refine (sameOutcome_self _).bind fun _ _ _ _ _ ↦ (sameOutcome_self _).bind fun _ _ _ _ _ ↦
    (sameOutcome_self _).bind fun hash _ _ _ heq ↦ ?_
  subst heq
  have hnd : ((attestation.storedPayload F P).map Prod.fst).Nodup := by
    simp only [ExecutionAttestationV1.storedPayload, ExecutionAttestationV1.canonicalPayload,
      List.map_append, List.map_cons, List.map_nil]
    decide
  -- a record of texts can be written in either style
  obtain ⟨text, -, htext, -⟩ := exists_loads_record ⟨true, true⟩ true hnd
  obtain ⟨text', -, htext', -⟩ := exists_loads_record ⟨true, false⟩ false hnd
  rw [AdmissionReceiptStore.column, PostgresAdmissionReceiptStore.column, htext, htext', orRaise,
    orRaise, ok_bind, ok_bind]
  have hsame : SameAttestation ⟨attestation.receiptId, hash, text, env.rowTime⟩
      ⟨attestation.receiptId, hash, text', env.rowTime⟩ := ⟨rfl, rfl⟩
  refine (h.insertAttestation hsame).bind fun tables tables' _ _ htables ↦ ?_
  exact (htables.appendEvent (distinctKeys_singleton (.scalar _)) ..).bind
    fun _ _ _ _ hevent ↦ .ok ⟨rfl, hevent⟩

/-- The dictionary given to a verification is one: none of its dictionaries has a key twice. -/
def CallDistinct (call : Call F × Env) : Prop :=
  ∀ args, call.1 = .verify args → (Val.dict args.actual).DistinctKeys

/-- **One call.** The stores agree unless the pool cannot cover a reservation. -/
theorem sameCall_step (h : SameTables P s db.tables) {call : Call F × Env}
    (hcall : CallDistinct call)
    (hbudget : PostgresAdmissionReceiptStore.step P call db ≠ .error budgetRefusal) :
    SameCall P (AdmissionReceiptStore.step P call s)
      (PostgresAdmissionReceiptStore.step P call db) := by
  obtain ⟨call, env⟩ := call
  cases call with
  | issue receipt => exact sameCall_issue h receipt hbudget
  | verify args => exact sameCall_verify h args (hcall args rfl)
  | consume receiptId => exact sameCall_terminalTransition h receiptId "" .consume rfl
  | release receiptId => exact sameCall_terminalTransition h receiptId "" .release rfl
  | void receiptId reason => exact sameCall_terminalTransition h receiptId reason .void rfl
  | recordAttestation attestation keys required =>
    exact sameCall_recordAttestation h attestation keys required

/-! ## Runs -/

/-- An event as the two stores return it. -/
def SameEventRead (e e' : AdmissionAuditEvent F) : Prop :=
  e.sequence = e'.sequence ∧ e.eventType = e'.eventType ∧ e.reason = e'.reason ∧
    ∃ document, toDoc true e.details = some document ∧ toDoc true e'.details = some document

theorem SameEvent.exists_read {e e' : AuditEvent} (h : SameEvent F e e') :
    ∃ r r' : AdmissionAuditEvent F, AdmissionReceiptStore.readEvent e = .ok r ∧
      PostgresAdmissionReceiptStore.readEvent e' = .ok r' ∧ SameEventRead r r' := by
  obtain ⟨v, hv, htext, htext'⟩ := h.details
  obtain ⟨text', hcol, w, w', hw, hw', hdoc⟩ := exists_columns hv htext
  obtain rfl := Option.some.inj (htext'.symm.trans hcol)
  obtain ⟨d, hd⟩ : ∃ d, toDoc true w = some d := by
    obtain ⟨d, -, rfl⟩ := Option.map_eq_some_iff.mp hw
    exact ⟨_, toDoc_ofDoc_eq_canon d⟩
  refine ⟨_, _, by rw [AdmissionReceiptStore.readEvent, hw]; rfl,
    by rw [PostgresAdmissionReceiptStore.readEvent, hw']; rfl, ?_⟩
  exact ⟨h.sequence, h.eventType, h.reason, d, hd, hdoc ▸ hd⟩

/-- Related tables return the same audit trail. -/
theorem SameTables.exists_events (h : SameTables P s db.tables) (receiptId : String) :
    ∃ es es' : List (AdmissionAuditEvent F),
      AdmissionReceiptStore.events s receiptId = .ok es ∧
      PostgresAdmissionReceiptStore.events db receiptId = .ok es' ∧
      List.Forall₂ SameEventRead es es' := by
  rw [AdmissionReceiptStore.events, PostgresAdmissionReceiptStore.events]
  have hrows := h.eventsOf receiptId
  generalize s.eventsOf receiptId = rows, db.tables.eventsOf receiptId = rows' at hrows
  induction hrows with
  | nil => exact ⟨[], [], rfl, rfl, .nil⟩
  | cons he _ ih =>
    obtain ⟨es, es', hes, hes', hrel⟩ := ih
    obtain ⟨r, r', hr, hr', hread⟩ := he.exists_read
    refine ⟨r :: es, r' :: es', ?_, ?_, .cons hread hrel⟩
    · rw [List.mapM_cons, hr, hes]
      rfl
    · rw [List.mapM_cons, hr', hes']
      rfl

theorem SameTables.bindingHash (h : SameTables P s db.tables) (receiptId : String) :
    AdmissionReceiptStore.bindingHash s receiptId
      = PostgresAdmissionReceiptStore.bindingHash db receiptId := by
  rw [AdmissionReceiptStore.bindingHash, PostgresAdmissionReceiptStore.bindingHash]
  have hget := h.get? receiptId
  generalize s.receipts.get? receiptId = row, db.tables.receipts.get? receiptId = row' at hget
  cases hget with
  | none => rfl
  | some hrow => rw [orRaise, orRaise, Except.map, Except.map, hrow.bindingHash]

/-- **One contract.** On every run in which no reservation is refused, the two stores give the same
replies or exceptions of one class at every step, and afterwards agree on the status, the binding
hash and the audit trail of every receipt. -/
theorem stores_agree (P : Platform)
    (pools : KeyTable PostgresAdmissionReceiptStore.ResourcePool.poolId)
    (calls : List (Call F × Env)) (hcalls : ∀ call ∈ calls, CallDistinct call)
    (hbudget : .error budgetRefusal
      ∉ (run (PostgresAdmissionReceiptStore.step P) (.initial pools) calls).1) :
    List.Forall₂ (SameOutcome Eq SameKind)
        (run (AdmissionReceiptStore.step P) .empty calls).1
        (run (PostgresAdmissionReceiptStore.step P) (.initial pools) calls).1 ∧
      ∀ receiptId,
        (AdmissionReceiptStore.reached P calls).status receiptId
          = (PostgresAdmissionReceiptStore.reached P pools calls).tables.status receiptId ∧
        AdmissionReceiptStore.bindingHash (AdmissionReceiptStore.reached P calls) receiptId
          = PostgresAdmissionReceiptStore.bindingHash
              (PostgresAdmissionReceiptStore.reached P pools calls) receiptId ∧
        ∃ es es' : List (AdmissionAuditEvent F),
          AdmissionReceiptStore.events (AdmissionReceiptStore.reached P calls) receiptId
            = .ok es ∧
          PostgresAdmissionReceiptStore.events
            (PostgresAdmissionReceiptStore.reached P pools calls) receiptId = .ok es' ∧
          List.Forall₂ SameEventRead es es' := by
  have hinitial : SameTables P (Tables.empty : Tables F) (Database.initial pools).tables :=
    ⟨.nil, .nil, .nil⟩
  -- no call of the run is refused for the budget, as its outcome would be listed
  have hops : ∀ pre call post, calls = pre ++ call :: post → CallDistinct call ∧
      PostgresAdmissionReceiptStore.step P call
        (run (PostgresAdmissionReceiptStore.step P) (.initial pools) pre).2
          ≠ .error budgetRefusal := by
    intro pre call post hpre
    refine ⟨hcalls call (by rw [hpre]; simp), fun hrefused ↦ hbudget ?_⟩
    have hmem : (commit _ (PostgresAdmissionReceiptStore.step P call
          (run (PostgresAdmissionReceiptStore.step P) (.initial pools) pre).2)).1
        ∈ (run (PostgresAdmissionReceiptStore.step P) (.initial pools) (pre ++ call :: post)).1 :=
      commit_mem_run pre call post
    rwa [hrefused, ← hpre] at hmem
  have hstep : ∀ call (s : Tables F) db, (CallDistinct call ∧
      PostgresAdmissionReceiptStore.step P call db ≠ .error budgetRefusal) →
      SameTables P s db.tables → SameCall P (AdmissionReceiptStore.step P call s)
        (PostgresAdmissionReceiptStore.step P call db) :=
    fun call s db hcall h ↦ sameCall_step h hcall.1 hcall.2
  obtain ⟨houtcomes, htables⟩ := run_simulation Eq
    (fun (s : Tables F) (db : Database) ↦ SameTables P s db.tables) _ hstep
    (s := Tables.empty) (t := Database.initial pools) hinitial hops
  refine ⟨houtcomes, fun receiptId ↦ ⟨htables.status receiptId, htables.bindingHash receiptId, ?_⟩⟩
  exact htables.exists_events receiptId

theorem callDistinct_sampleCalls : ∀ call ∈ sampleCalls sampleActual, CallDistinct call := by
  intro call hcall args hargs
  rcases List.mem_cons.mp hcall with rfl | hcall
  · exact absurd hargs (by simp)
  · obtain rfl := List.mem_singleton.mp hcall
    obtain rfl := Call.verify.inj hargs
    refine .dict (by decide) fun m hm ↦ ?_
    simp only [sampleActual, List.mem_cons, List.not_mem_nil, or_false] at hm
    rcases hm with rfl | rfl | rfl | rfl | rfl | rfl | rfl | rfl | rfl | rfl | rfl <;>
      exact .scalar _

/-- Issuing and verifying the sample receipt, in a pool that the PostgreSQL store creates. -/
theorem stores_agree_sampleCalls :
    (run (PostgresAdmissionReceiptStore.step samplePlatform) (.initial .empty)
        (sampleCalls sampleActual)).1 = [.ok (.text "a"), .ok (.verdict true "ok")] ∧
      List.Forall₂ (SameOutcome Eq SameKind)
        (run (AdmissionReceiptStore.step samplePlatform) .empty (sampleCalls sampleActual)).1
        (run (PostgresAdmissionReceiptStore.step samplePlatform) (.initial .empty)
          (sampleCalls sampleActual)).1 := by
  have hrun : (run (PostgresAdmissionReceiptStore.step samplePlatform) (.initial .empty)
      (sampleCalls sampleActual)).1 = [.ok (.text "a"), .ok (.verdict true "ok")] := by
    decide +kernel
  refine ⟨hrun, (stores_agree samplePlatform .empty (sampleCalls sampleActual)
    callDistinct_sampleCalls ?_).1⟩
  rw [hrun]
  decide

end Calls

end DriftGuardX.Admission
