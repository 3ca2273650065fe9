import DriftGuardX.Admission.SqliteStore

/-!
# The life of a receipt

What a receipt goes through, without the tables: a status, the word of its audit events, and whether
an attestation is recorded. `Life.Step` lists everything that one transaction may do to it, and
`Phase` is the automaton whose accepted words are the possible audit trails. A step keeps the word
accepted, in a phase that fits the status (`Life.Sound.step`), and the facts about audit trails are
facts about accepted words.

The SQLite store refines this. What its calls write is listed once (`writes_step`): whatever they
write leaves a receipt alone or makes one step of its life (`Writes.lives`), so every reachable
database has sound lives only.
-/

namespace DriftGuardX.Admission

open Json Transaction

/-! ## Lives and their steps -/

/-- The refusals, which a verification may record at any time. -/
def EventType.isRefusal : EventType → Bool
  | .signatureRefusal | .mismatchRefusal => true
  | _ => false

def terminalStatuses : List ReceiptStatus := [.consumed, .released, .voided, .expired]

/-- The events that close a receipt. -/
def terminalEvents : List EventType := [.expire, .void, .consume, .release]

/-- What can be seen of one receipt. -/
structure Life where
  status : Option ReceiptStatus
  word : List EventType
  attested : Bool

/-- What one transaction may do to a receipt. -/
inductive Life.Step : Life → Life → Prop
  | issue {w a} : Step ⟨none, w, a⟩ ⟨some .issued, w ++ [.issue], a⟩
  | refuse {s w a e} (hs : s ≠ .issued) (he : e.isRefusal = true) :
    Step ⟨some s, w, a⟩ ⟨some s, w ++ [e], a⟩
  | expire {w a e} (he : e.isRefusal = true) :
    Step ⟨some .issued, w, a⟩ ⟨some .expired, w ++ [e] ++ [.expire], a⟩
  | invalidate {w a e} (he : e.isRefusal = true) :
    Step ⟨some .issued, w, a⟩ ⟨some .voided, w ++ [e] ++ [.void], a⟩
  | verify {w a} : Step ⟨some .issued, w, a⟩ ⟨some .verified, w ++ [.verify], a⟩
  | consume {w a} : Step ⟨some .verified, w, a⟩ ⟨some .consumed, w ++ [.consume], a⟩
  | release {s w a} (hs : s = .issued ∨ s = .verified) :
    Step ⟨some s, w, a⟩ ⟨some .released, w ++ [.release], a⟩
  | void {s w a} (hs : s = .issued ∨ s = .verified) :
    Step ⟨some s, w, a⟩ ⟨some .voided, w ++ [.void], a⟩
  | attest {w} : Step ⟨some .verified, w, false⟩ ⟨some .verified, w ++ [.attest], true⟩

/-- The edges of the status graph. -/
def statusEdges : List (ReceiptStatus × ReceiptStatus) :=
  [(.issued, .verified), (.issued, .expired), (.issued, .voided), (.issued, .released),
    (.verified, .consumed), (.verified, .released), (.verified, .voided)]

theorem Life.Step.status {l l' : Life} (h : l.Step l') {s : ReceiptStatus} (hs : l.status = some s) :
    ∃ s', l'.status = some s' ∧ (s' = s ∨ (s, s') ∈ statusEdges) := by
  cases h with
  | issue => exact absurd hs (by simp)
  | refuse _ _ => exact ⟨s, hs, Or.inl rfl⟩
  | attest => exact ⟨s, hs, Or.inl rfl⟩
  | expire _ | invalidate _ | verify | consume =>
    obtain rfl := Option.some.inj hs
    exact ⟨_, rfl, Or.inr (by decide)⟩
  | release hst | void hst =>
    obtain rfl := Option.some.inj hs
    rcases hst with rfl | rfl <;> exact ⟨_, rfl, Or.inr (by decide)⟩

theorem Life.Step.status_of_none {l l' : Life} (h : l.Step l') (hs : l.status = none)
    {s' : ReceiptStatus} (hs' : l'.status = some s') : s' = .issued := by
  cases h with
  | issue => exact (Option.some.inj hs').symm
  | _ => exact absurd hs (by simp)

/-! ## Audit trails -/

/-- How far an audit trail has come. -/
inductive Phase where
  | absent
  | issued
  | verified (attested : Bool)
  | closed
  deriving DecidableEq, Repr

instance : Fintype Phase where
  elems := {.absent, .issued, .verified false, .verified true, .closed}
  complete p := by
    rcases p with _ | _ | (_ | _) | _ <;> decide

/-- The automaton of audit trails. -/
def Phase.next : Phase → EventType → Option Phase
  | .absent, .issue => some .issued
  | .issued, .verify => some (.verified false)
  | .issued, .expire | .issued, .void | .issued, .release => some .closed
  | .verified false, .attest => some (.verified true)
  | .verified _, .consume | .verified _, .void | .verified _, .release => some .closed
  | .issued, .signatureRefusal | .issued, .mismatchRefusal => some .issued
  | .verified a, .signatureRefusal | .verified a, .mismatchRefusal => some (.verified a)
  | .closed, .signatureRefusal | .closed, .mismatchRefusal => some .closed
  | _, _ => none

/-- The phase after a word, when the automaton accepts it. -/
def Phase.run (p : Phase) (w : List EventType) : Option Phase := w.foldlM Phase.next p

namespace Phase

variable {p q : Phase} {e : EventType} {w : List EventType}

theorem run_append (p : Phase) (v w : List EventType) : p.run (v ++ w) = (p.run v).bind (·.run w) := by
  rw [run, List.foldlM_append]
  rfl

theorem run_cons (p : Phase) (e : EventType) (w : List EventType) :
    p.run (e :: w) = (p.next e).bind (·.run w) := by
  rw [run, List.foldlM_cons]
  rfl

@[simp] theorem run_singleton : p.run [e] = p.next e := by
  rw [run_cons]
  cases p.next e <;> rfl

theorem count_le_of_run {event : EventType} (bound : Phase → ℕ)
    (hnext : ∀ (p : Phase) e q, p.next e = some q → bound q + (if e = event then 1 else 0) ≤ bound p) :
    ∀ p : Phase, p.run w = some q → w.count event ≤ bound p := by
  induction w with
  | nil => exact fun p _ ↦ by simp
  | cons e w ih =>
    intro p h
    rw [run_cons, Option.bind_eq_some_iff] at h
    obtain ⟨p', hp', hrest⟩ := h
    have hw := ih p' hrest
    have hstep := hnext p e p' hp'
    rw [List.count_cons]
    simp only [beq_iff_eq]
    omega

/-- How many verifications can still be recorded. -/
def verifyBound : Phase → ℕ
  | .absent | .issued => 1
  | _ => 0

def consumeBound : Phase → ℕ
  | .closed => 0
  | _ => 1

def attestBound : Phase → ℕ
  | .closed | .verified true => 0
  | _ => 1

theorem count_verify_le (h : absent.run w = some q) : w.count .verify ≤ 1 :=
  count_le_of_run verifyBound (by decide) absent h

theorem count_consume_le (h : absent.run w = some q) : w.count .consume ≤ 1 :=
  count_le_of_run consumeBound (by decide) absent h

theorem count_attest_le (h : absent.run w = some q) : w.count .attest ≤ 1 :=
  count_le_of_run attestBound (by decide) absent h

theorem run_closed (h : closed.run w = some q) : q = .closed := by
  induction w with
  | nil => exact (Option.some.inj h).symm
  | cons e w ih =>
    have hnext : ∀ e, closed.next e = none ∨ closed.next e = some .closed := by decide
    rw [run_cons] at h
    rcases hnext e with he | he
    · rw [he] at h
      exact absurd h (by simp)
    · rw [he] at h
      exact ih h

theorem mem_of_run_verified {a : Bool} : ∀ p : Phase, p.run w = some (.verified a) →
    (p = .absent ∨ p = .issued → .verify ∈ w) ∧ ∀ e ∈ terminalEvents, e ∉ w := by
  induction w with
  | nil =>
    intro p h
    obtain rfl := Option.some.inj h
    simp
  | cons e w ih =>
    intro p h
    rw [run_cons, Option.bind_eq_some_iff] at h
    obtain ⟨p', hp', hrest⟩ := h
    obtain ⟨hverify, hterminal⟩ := ih p' hrest
    have hp : p' ≠ .closed := by
      rintro rfl
      exact absurd (run_closed hrest) (by simp)
    refine ⟨fun hp0 ↦ ?_, fun t ht hmem ↦ ?_⟩
    -- only a verification leads out of the first two phases without closing
    · have hfirst : ∀ (p : Phase) e p', p.next e = some p' → p = .absent ∨ p = .issued → p' ≠ .closed →
          e = .verify ∨ p' = .absent ∨ p' = .issued := by decide
      rcases hfirst p e p' hp' hp0 hp with rfl | h
      · exact List.mem_cons_self
      · exact List.mem_cons_of_mem e (hverify h)
    · rcases List.mem_cons.mp hmem with rfl | hmem'
      · have hend : ∀ p : Phase, ∀ t ∈ terminalEvents, ∀ p', p.next t = some p' → p' = .closed := by
          decide
        exact hp (hend p t ht p' hp')
      · exact hterminal t ht hmem'

theorem verify_mem_of_run_append {v : List EventType}
    (hnext : ∀ p q : Phase, p.next e = some q → ∃ a, p = .verified a)
    (h : absent.run (v ++ e :: w) = some q) : .verify ∈ v ∧ ∀ t ∈ terminalEvents, t ∉ v := by
  rw [run_append, Option.bind_eq_some_iff] at h
  obtain ⟨p, hp, h⟩ := h
  rw [run_cons, Option.bind_eq_some_iff] at h
  obtain ⟨p', hp', -⟩ := h
  obtain ⟨a, rfl⟩ := hnext p p' hp'
  obtain ⟨hverify, hterminal⟩ := mem_of_run_verified absent hp
  exact ⟨hverify (Or.inl rfl), hterminal⟩

end Phase

/-! ## Sound lives -/

/-- The phase fits the status and the attestation. -/
def Phase.fits : Phase → Option ReceiptStatus → Bool → Bool
  | .absent, s, a => s = none ∧ a = false
  | .issued, s, a => s = some .issued ∧ a = false
  | .verified b, s, a => s = some .verified ∧ a = b
  | .closed, s, _ => s ∈ terminalStatuses.map some

/-- The audit trail is accepted, in a phase that fits. -/
def Life.Sound (l : Life) : Prop :=
  ∃ p, Phase.absent.run l.word = some p ∧ p.fits l.status l.attested = true

theorem Life.Sound.next {s s' : Option ReceiptStatus} {w : List EventType} {a a' : Bool}
    {e : EventType} (h : Life.Sound ⟨s, w, a⟩)
    (hnext : ∀ p : Phase, p.fits s a = true → ∃ q, p.next e = some q ∧ q.fits s' a' = true) :
    Life.Sound ⟨s', w ++ [e], a'⟩ := by
  obtain ⟨p, hp, hfits⟩ := h
  obtain ⟨q, hq, hfits'⟩ := hnext p hfits
  refine ⟨q, ?_, hfits'⟩
  rw [Phase.run_append, hp, Option.bind_some, Phase.run_singleton, hq]

theorem Life.Sound.refusal {s : ReceiptStatus} {w : List EventType} {a : Bool} {e : EventType}
    (h : Life.Sound ⟨some s, w, a⟩) (he : e.isRefusal = true) :
    Life.Sound ⟨some s, w ++ [e], a⟩ := by
  refine h.next ?_
  have hall : ∀ s : ReceiptStatus, ∀ a : Bool, ∀ e : EventType, e.isRefusal = true → ∀ p : Phase,
      p.fits (some s) a = true → ∃ q, p.next e = some q ∧ q.fits (some s) a = true := by
    intro s
    cases s <;> decide
  exact hall s a e he

/-- **The step.** -/
theorem Life.Sound.step {l l' : Life} (h : l.Sound) (hs : l.Step l') : l'.Sound := by
  cases hs with
  | @issue w a => exact h.next (by cases a <;> decide)
  | refuse _ he => exact h.refusal he
  | @expire w a e he => exact (h.refusal he).next (by cases a <;> decide)
  | @invalidate w a e he => exact (h.refusal he).next (by cases a <;> decide)
  | @verify w a => exact h.next (by cases a <;> decide)
  | @consume w a => exact h.next (by cases a <;> decide)
  | @release s w a hs => rcases hs with rfl | rfl <;> exact h.next (by cases a <;> decide)
  | @void s w a hs => rcases hs with rfl | rfl <;> exact h.next (by cases a <;> decide)
  | attest => exact h.next (by decide)

/-! ## The life of a receipt in the tables -/

section Tables

variable {A : Type}

def Tables.life (db : Tables A) (receiptId : String) : Life where
  status := db.status receiptId
  word := (db.eventsOf receiptId).map AuditEvent.eventType
  attested := (db.attestations.get? receiptId).isSome

variable {F : Type} [FloatAmount F] {P : Platform} {column : Val F → Option Text}
  {db db' : Tables A} {receiptId other : String}

omit [FloatAmount F] in
theorem Tables.life_setStatus (db : Tables A) (receiptId : String) (s : ReceiptStatus) :
    (db.setStatus receiptId s).life receiptId
      = { db.life receiptId with status := (db.status receiptId).map fun _ ↦ s } := by
  rw [Tables.life, Tables.status, Tables.setStatus, KeyTable.get?_modify, if_pos rfl, Option.map_map,
    Tables.life, Tables.status, Option.map_map]
  rfl

omit [FloatAmount F] in
theorem Tables.life_setStatus_ne (db : Tables A) (s : ReceiptStatus) (hne : other ≠ receiptId) :
    (db.setStatus receiptId s).life other = db.life other := by
  rw [Tables.life, Tables.status, Tables.setStatus, KeyTable.get?_modify, if_neg hne]
  rfl

omit [FloatAmount F] in
theorem Tables.life_closeReceipt (db : Tables A) (receiptId : String) (s : ReceiptStatus)
    (time : String) : (db.closeReceipt receiptId s time).life receiptId
      = { db.life receiptId with status := (db.status receiptId).map fun _ ↦ s } := by
  rw [Tables.life, Tables.status, Tables.closeReceipt, KeyTable.get?_modify, if_pos rfl,
    Option.map_map, Tables.life, Tables.status, Option.map_map]
  rfl

omit [FloatAmount F] in
theorem Tables.life_closeReceipt_ne (db : Tables A) (s : ReceiptStatus) (time : String)
    (hne : other ≠ receiptId) : (db.closeReceipt receiptId s time).life other = db.life other := by
  rw [Tables.life, Tables.status, Tables.closeReceipt, KeyTable.get?_modify, if_neg hne]
  rfl

omit [FloatAmount F] in
theorem Tables.status_eq_of_get? {row : ReceiptRow A} (h : db.receipts.get? receiptId = some row) :
    db.status receiptId = some row.status := by
  rw [Tables.status, h, Option.map_some]

omit [FloatAmount F] in
theorem Tables.life_eq_of_get? {row : ReceiptRow A} (h : db.receipts.get? receiptId = some row) :
    db.life receiptId
      = ⟨some row.status, (db.life receiptId).word, (db.life receiptId).attested⟩ := by
  rw [← Tables.status_eq_of_get? h]
  rfl

omit [FloatAmount F] in
theorem Tables.life_insertReceipt {row : ReceiptRow A} (h : db.insertReceipt row = .ok db') :
    db.status row.receiptId = none ∧
      db'.life row.receiptId = { db.life row.receiptId with status := some row.status } ∧
      ∀ other ≠ row.receiptId, db'.life other = db.life other := by
  obtain ⟨hfresh, rfl⟩ := Tables.insertReceipt_eq_ok h
  refine ⟨by rw [Tables.status, hfresh, Option.map_none], ?_, fun other hne ↦ ?_⟩
  · rw [Tables.life, Tables.status, KeyTable.get?_insert, if_pos rfl]
    rfl
  · rw [Tables.life, Tables.status, KeyTable.get?_insert, if_neg hne]
    rfl

omit [FloatAmount F] in
theorem Tables.life_insertAttestation {row : AttestationRow}
    (h : db.insertAttestation row = .ok db') :
    (db.life row.receiptId).attested = false ∧
      db'.life row.receiptId = { db.life row.receiptId with attested := true } ∧
      ∀ other ≠ row.receiptId, db'.life other = db.life other := by
  obtain ⟨hfresh, rfl⟩ := Tables.insertAttestation_eq_ok h
  refine ⟨by rw [Tables.life, hfresh, Option.isSome_none], ?_, fun other hne ↦ ?_⟩
  · rw [Tables.life, KeyTable.get?_insert, if_pos rfl]
    rfl
  · rw [Tables.life, KeyTable.get?_insert, if_neg hne]
    rfl

variable {eventType : EventType} {reason createdAt : String} {details : Val F} {event : AuditEvent}

theorem EventAppended.life_self
    (h : EventAppended P column db db' receiptId eventType reason details createdAt event) :
    db'.life receiptId
      = { db.life receiptId with word := (db.life receiptId).word ++ [eventType] } := by
  rw [Tables.life, Tables.status, h.receipts, h.attestations, h.eventsOf_self, List.map_append,
    List.map_singleton, h.eventType_eq]
  rfl

theorem EventAppended.life_ne
    (h : EventAppended P column db db' receiptId eventType reason details createdAt event)
    (hne : other ≠ receiptId) : db'.life other = db.life other := by
  rw [Tables.life, Tables.status, h.receipts, h.attestations, h.eventsOf_ne hne]
  rfl

end Tables

/-! ## The SQLite store -/

namespace AdmissionReceiptStore

variable {F : Type} [FloatAmount F] {P : Platform} {db db' : Database F} {env : Env} {reply : Reply}

/-- A receipt is left alone, or its life makes one step. -/
def Lives (db db' : Database F) : Prop :=
  ∀ receiptId, db'.life receiptId = db.life receiptId ∨
    (db.life receiptId).Step (db'.life receiptId)

omit [FloatAmount F] in
theorem Lives.of_self (receiptId : String) (hself : (db.life receiptId).Step (db'.life receiptId))
    (hne : ∀ other ≠ receiptId, db'.life other = db.life other) : Lives db db' := by
  intro other
  by_cases h : other = receiptId
  · exact Or.inr (h ▸ hself)
  · exact Or.inl (hne other h)

omit [FloatAmount F] in
theorem Lives.refl (db : Database F) : Lives db db := fun _ ↦ Or.inl rfl

variable (P) in
/-- What a call that returns has written. -/
inductive Writes : Call F × Env → Database F → Database F → Prop
  | nothing {call db} : Writes call db db
  | issued {receipt : AdmissionReceiptV1 F} {env row db db₁ db₂}
    (hid : row.receiptId = receipt.receiptId) (hissued : row.status = .issued)
    (hinsert : db.insertReceipt row = .ok db₁)
    (happend : appendEvent P column db₁ receipt.receiptId .issue ""
      (.record (receipt.storedPayload P)) (env.eventTime 0) = .ok db₂) :
    Writes (.issue receipt, env) db db₂
  | refused {args : VerifyArgs F} {env row refusal reason db db₁}
    (hrow : db.receipts.get? args.receiptId = some row) (hstatus : row.status ≠ .issued)
    (hrefusal : EventType.isRefusal refusal = true)
    (happend : appendEvent P column db args.receiptId refusal reason
      (.object [("actual", .dict args.actual)]) (env.eventTime 0) = .ok db₁) :
    Writes (.verify args, env) db db₁
  | closed {args : VerifyArgs F} {env row refusal reason text db db₁ db₃} {expired : Bool}
    (hrow : db.receipts.get? args.receiptId = some row) (hstatus : row.status = .issued)
    (hrefusal : EventType.isRefusal refusal = true)
    (happend : appendEvent P column db args.receiptId refusal reason
      (.object [("actual", .dict args.actual)]) (env.eventTime 0) = .ok db₁)
    (hclose : appendEvent P column
      (db₁.closeReceipt args.receiptId (if expired then .expired else .voided) env.rowTime)
      args.receiptId (if expired then .expire else .void) reason
      (.object [("terminal_reason", .str text)] : Val F) (env.eventTime 1) = .ok db₃) :
    Writes (.verify args, env) db db₃
  | verified {args : VerifyArgs F} {env row db db₂}
    (hrow : db.receipts.get? args.receiptId = some row) (hstatus : row.status = .issued)
    (happend : appendEvent P column (db.setStatus args.receiptId .verified) args.receiptId .verify ""
      (.dict args.actual) (env.eventTime 0) = .ok db₂) :
    Writes (.verify args, env) db db₂
  | ended {call env receiptId row target eventType reason} {db db₂ : Database F}
    (hrow : db.receipts.get? receiptId = some row)
    (hstep : ∀ w a, Life.Step ⟨some row.status, w, a⟩ ⟨some target, w ++ [eventType], a⟩)
    (happend : appendEvent P column (db.closeReceipt receiptId target env.rowTime) receiptId
      eventType reason (.object [] : Val F) (env.eventTime 0) = .ok db₂) :
    Writes (call, env) db db₂
  | attested {attestation keys required env row} {hash : String} {payloadJson db db₁ db₂}
    (hrow : db.receipts.get? attestation.receiptId = some row) (hstatus : row.status = .verified)
    (hinsert : db.insertAttestation ⟨attestation.receiptId, hash, payloadJson, env.rowTime⟩
      = .ok db₁)
    (happend : appendEvent P column db₁ attestation.receiptId .attest ""
      (.object [("attestation_hash", .str hash)] : Val F) (env.eventTime 0) = .ok db₂) :
    Writes (.recordAttestation attestation keys required, env) db db₂

theorem writes_issue {receipt : AdmissionReceiptV1 F}
    (h : issue P receipt env db = .ok (reply, db')) : Writes P (.issue receipt, env) db db' := by
  simp only [issue, bind_eq_ok_iff] at h
  obtain ⟨bindingHash, -, h⟩ := h
  split at h
  · simp only [bind_eq_ok_iff, pure_eq_ok_iff, Prod.mk.injEq] at h
    obtain ⟨-, -, -, rfl⟩ := h
    exact .nothing
  · simp only [bind_eq_ok_iff, pure_eq_ok_iff, Prod.mk.injEq] at h
    obtain ⟨payloadJson, -, db₁, hins, db₂, happ, -, rfl⟩ := h
    exact .issued rfl rfl hins happ

theorem writes_verify {args : VerifyArgs F} (h : verify P args env db = .ok (reply, db')) :
    Writes P (.verify args, env) db db' := by
  rw [verify] at h
  split at h
  · obtain ⟨-, rfl⟩ := Prod.mk.inj (Except.ok.inj h)
    exact .nothing
  · rename_i row hrow
    simp only [bind_eq_ok_iff] at h
    obtain ⟨payload, -, receipt, -, decision, hdec, h⟩ := h
    split at h
    · -- a refusal, which also closes the receipt while nobody has claimed it
      obtain ⟨db₁, happ, h⟩ := bind_eq_ok_iff.mp h
      have hrefusal : (if decision.signatureRefusal = true then EventType.signatureRefusal
          else .mismatchRefusal).isRefusal = true := by
        by_cases hs : decision.signatureRefusal = true
        · rw [if_pos hs]
          rfl
        · rw [if_neg hs]
          rfl
      split at h
      · rename_i hissued
        obtain ⟨db₃, happ₂, h⟩ := bind_eq_ok_iff.mp h
        obtain ⟨-, rfl⟩ := Prod.mk.inj (pure_eq_ok_iff.mp h)
        exact .closed hrow hissued hrefusal happ happ₂
      · rename_i hissued
        obtain ⟨-, rfl⟩ := Prod.mk.inj (pure_eq_ok_iff.mp h)
        exact .refused hrow hissued hrefusal happ
    · rename_i hreason
      obtain ⟨db₂, happ, h⟩ := bind_eq_ok_iff.mp h
      obtain ⟨-, rfl⟩ := Prod.mk.inj (pure_eq_ok_iff.mp h)
      exact .verified hrow (status_of_evaluateVerification hdec (not_not.mp hreason)) happ

theorem writes_terminalTransition {call : Call F} {receiptId reason : String}
    {target : ReceiptStatus} {eventType : EventType}
    (hstep : ∀ sources, allowed target = some sources → ∀ s ∈ sources, ∀ w a,
      Life.Step ⟨some s, w, a⟩ ⟨some target, w ++ [eventType], a⟩)
    (h : terminalTransition P receiptId target eventType reason env db = .ok (reply, db')) :
    Writes P (call, env) db db' := by
  rw [terminalTransition] at h
  split at h
  · exact absurd h (by simp)
  · rename_i row hrow
    simp only [bind_eq_ok_iff, orRaise_eq_ok_iff] at h
    obtain ⟨sources, hsources, h⟩ := h
    split at h
    · obtain ⟨-, rfl⟩ := Prod.mk.inj (pure_eq_ok_iff.mp h)
      exact .nothing
    · rename_i hs
      simp only [bind_eq_ok_iff, pure_eq_ok_iff, Prod.mk.injEq] at h
      obtain ⟨db₂, happ, -, rfl⟩ := h
      exact .ended hrow (hstep sources hsources row.status (not_not.mp hs)) happ

theorem writes_recordAttestation {attestation : ExecutionAttestationV1}
    {keys : Option AdmissionReceiptTrustStore} {required : Option Bool}
    (h : recordAttestation P attestation keys required env db = .ok (reply, db')) :
    Writes P (.recordAttestation attestation keys required, env) db db' := by
  simp only [recordAttestation, bind_eq_ok_iff, orRaise_eq_ok_iff, require_eq_ok_iff,
    pure_eq_ok_iff, Prod.mk.injEq] at h
  obtain ⟨-, -, row, hrow, -, hverified, -, -, attestationHash, -, payloadJson, -, db₁, hins, db₂,
    happ, -, rfl⟩ := h
  exact .attested hrow hverified hins happ

/-- **One call.** A call that returns has written one of these. -/
theorem writes_step {call : Call F × Env} (h : step P call db = .ok (reply, db')) :
    Writes P call db db' := by
  obtain ⟨call, env⟩ := call
  cases call with
  | issue receipt => exact writes_issue h
  | verify args => exact writes_verify h
  | consume receiptId =>
    refine writes_terminalTransition (fun sources hsources s hs w a ↦ ?_) h
    obtain rfl := Option.some.inj hsources
    obtain rfl := List.mem_singleton.mp hs
    exact .consume
  | release receiptId =>
    refine writes_terminalTransition (fun sources hsources s hs w a ↦ .release ?_) h
    obtain rfl := Option.some.inj hsources
    simpa using hs
  | void receiptId reason =>
    refine writes_terminalTransition (fun sources hsources s hs w a ↦ .void ?_) h
    obtain rfl := Option.some.inj hsources
    simpa using hs
  | recordAttestation attestation keys required => exact writes_recordAttestation h

theorem Writes.lives {call : Call F × Env} (h : Writes P call db db') : Lives db db' := by
  cases h with
  | nothing => exact Lives.refl db
  | @issued receipt env row _ db₁ _ hid hissued hinsert happend =>
    obtain ⟨event, hev⟩ := appendEvent_eq_ok happend
    obtain ⟨hfresh, hself, hother⟩ := Tables.life_insertReceipt hinsert
    rw [hid] at hfresh hself hother
    refine Lives.of_self receipt.receiptId ?_ fun other hne ↦ ?_
    · have hlife : db.life receipt.receiptId = ⟨none, (db.life receipt.receiptId).word,
          (db.life receipt.receiptId).attested⟩ := by
        rw [← hfresh]
        rfl
      rw [hev.life_self, hself, hlife, hissued]
      exact .issue
    · rw [hev.life_ne hne, hother other hne]
  | @refused args env row _ _ _ _ hrow hstatus hrefusal happend =>
    obtain ⟨event, hev⟩ := appendEvent_eq_ok happend
    refine Lives.of_self args.receiptId ?_ fun other hne ↦ hev.life_ne hne
    rw [hev.life_self, Tables.life_eq_of_get? hrow]
    exact .refuse hstatus hrefusal
  | @closed args env row _ _ _ _ db₁ _ expired hrow hstatus hrefusal happend hclose =>
    obtain ⟨event, hev⟩ := appendEvent_eq_ok happend
    obtain ⟨event₂, hev₂⟩ := appendEvent_eq_ok hclose
    have hrow₁ : db₁.status args.receiptId = some row.status := by
      rw [Tables.status, hev.receipts]
      exact Tables.status_eq_of_get? hrow
    refine Lives.of_self args.receiptId ?_ fun other hne ↦ ?_
    · rw [hev₂.life_self, Tables.life_closeReceipt, hrow₁, hev.life_self,
        Tables.life_eq_of_get? hrow, hstatus]
      by_cases he : expired = true
      · rw [if_pos he, if_pos he]
        exact .expire hrefusal
      · rw [if_neg he, if_neg he]
        exact .invalidate hrefusal
    · rw [hev₂.life_ne hne, Tables.life_closeReceipt_ne _ _ _ hne, hev.life_ne hne]
  | @verified args env row _ _ hrow hstatus happend =>
    obtain ⟨event, hev⟩ := appendEvent_eq_ok happend
    refine Lives.of_self args.receiptId ?_ fun other hne ↦ ?_
    · rw [hev.life_self, Tables.life_setStatus, Tables.status_eq_of_get? hrow,
        Tables.life_eq_of_get? hrow, hstatus]
      exact .verify
    · rw [hev.life_ne hne, Tables.life_setStatus_ne _ _ hne]
  | @ended call env receiptId row _ _ _ _ _ hrow hstep happend =>
    obtain ⟨event, hev⟩ := appendEvent_eq_ok happend
    refine Lives.of_self receiptId ?_ fun other hne ↦ ?_
    · rw [hev.life_self, Tables.life_closeReceipt, Tables.status_eq_of_get? hrow,
        Tables.life_eq_of_get? hrow]
      exact hstep _ _
    · rw [hev.life_ne hne, Tables.life_closeReceipt_ne _ _ _ hne]
  | @attested attestation keys required env row _ _ _ _ _ hrow hstatus hinsert happend =>
    obtain ⟨event, hev⟩ := appendEvent_eq_ok happend
    obtain ⟨hfresh, hself, hother⟩ := Tables.life_insertAttestation hinsert
    refine Lives.of_self attestation.receiptId ?_ fun other hne ↦ ?_
    · rw [hev.life_self, hself, Tables.life_eq_of_get? hrow, hfresh, hstatus]
      exact .attest
    · rw [hev.life_ne hne, hother other hne]

/-- **Every run.** All lives in a reachable database are sound. -/
theorem sound_reached (calls : List (Call F × Env)) (receiptId : String) :
    ((reached P calls).life receiptId).Sound := by
  refine run_induction (P := fun db : Database F ↦ ∀ receiptId, (db.life receiptId).Sound)
    (C := fun _ ↦ True) ?_ ?_ (fun _ _ ↦ trivial) receiptId
  · intro call db reply db' _ hdb h receiptId
    rcases (writes_step h).lives receiptId with hlife | hlife
    · rw [hlife]
      exact hdb receiptId
    · exact (hdb receiptId).step hlife
  · exact fun _ ↦ ⟨.absent, rfl, rfl⟩

theorem reached_append_singleton (calls : List (Call F × Env)) (call : Call F × Env) :
    reached P (calls ++ [call])
      = (commit (reached P calls) (step P call (reached P calls))).2 := by
  rw [reached, run_append_state]
  rfl

/-- A call moves the life of a receipt by at most one step, whether it returns or raises. -/
theorem lives_reached (calls : List (Call F × Env)) (call : Call F × Env) :
    Lives (reached P calls) (reached P (calls ++ [call])) := by
  rw [reached_append_singleton]
  exact commit_induction (Lives.refl _) fun _ _ h ↦ (writes_step h).lives

theorem status_reached {calls : List (Call F × Env)} {receiptId : String} {s : ReceiptStatus}
    (hs : (reached P calls).status receiptId = some s) (call : Call F × Env) :
    ∃ s', (reached P (calls ++ [call])).status receiptId = some s' ∧
      (s' = s ∨ (s, s') ∈ statusEdges) := by
  rcases lives_reached calls call receiptId with hlife | hlife
  · exact ⟨s, (congrArg Life.status hlife).trans hs, Or.inl rfl⟩
  · exact hlife.status hs

theorem status_terminal_reached {calls : List (Call F × Env)} {receiptId : String}
    {s : ReceiptStatus} (hterminal : s ∈ terminalStatuses)
    (hs : (reached P calls).status receiptId = some s) (later : List (Call F × Env)) :
    (reached P (calls ++ later)).status receiptId = some s := by
  induction later using List.reverseRecOn with
  | nil => rwa [List.append_nil]
  | append_singleton later call ih =>
    rw [← List.append_assoc]
    obtain ⟨s', hs', hstep⟩ := status_reached ih call
    have hfinal : ∀ t ∈ terminalStatuses, ∀ e ∈ statusEdges, e.1 ≠ t := by decide
    rcases hstep with rfl | hedge
    · exact hs'
    · exact absurd rfl (hfinal s hterminal _ hedge)

theorem status_of_none_reached {calls : List (Call F × Env)} {receiptId : String}
    {s : ReceiptStatus} {call : Call F × Env} (hnone : (reached P calls).status receiptId = none)
    (hs : (reached P (calls ++ [call])).status receiptId = some s) : s = .issued := by
  rcases lives_reached calls call receiptId with hlife | hlife
  · have hsame := (congrArg Life.status hlife).symm.trans hs
    exact absurd (hnone.symm.trans hsame) (by simp)
  · exact hlife.status_of_none hnone hs

theorem reissue_reached {calls : List (Call F × Env)} {receipt : AdmissionReceiptV1 F}
    (hs : (reached P calls).status receipt.receiptId ≠ none) (env : Env) :
    reached P (calls ++ [(Call.issue receipt, env)]) = reached P calls := by
  rw [reached_append_singleton]
  refine commit_induction (P := fun db ↦ db = reached P calls) rfl fun reply db' h ↦ ?_
  simp only [step, issue, bind_eq_ok_iff] at h
  obtain ⟨bindingHash, -, h⟩ := h
  split at h
  · simp only [bind_eq_ok_iff, pure_eq_ok_iff, Prod.mk.injEq] at h
    obtain ⟨-, -, -, rfl⟩ := h
    rfl
  · rename_i hnone
    exact absurd (by rw [Tables.status, hnone, Option.map_none]) hs

/-- The audit trail of a receipt. -/
def auditTrail (db : Database F) (receiptId : String) : List EventType :=
  (db.eventsOf receiptId).map AuditEvent.eventType

/-- **The life cycle of a receipt**, over every run of calls on an empty store: its status moves
along the edges of the status graph only and starts as issued, a terminal status is never left, the
audit trail has at most one verification, one consumption and one attestation, a consumption comes
after a verification, an attestation after the verification and before any closing event, and
issuing it again changes nothing. -/
theorem receipt_lifecycle (calls : List (Call F × Env)) (receiptId : String) :
    (∀ call s, (reached P calls).status receiptId = some s →
      ∃ s', (reached P (calls ++ [call])).status receiptId = some s' ∧
        (s' = s ∨ (s, s') ∈ statusEdges)) ∧
    (∀ call s, (reached P calls).status receiptId = none →
      (reached P (calls ++ [call])).status receiptId = some s → s = .issued) ∧
    (∀ later, ∀ s ∈ terminalStatuses, (reached P calls).status receiptId = some s →
      (reached P (calls ++ later)).status receiptId = some s) ∧
    (auditTrail (reached P calls) receiptId).count .verify ≤ 1 ∧
    (auditTrail (reached P calls) receiptId).count .consume ≤ 1 ∧
    (auditTrail (reached P calls) receiptId).count .attest ≤ 1 ∧
    (∀ pre post, auditTrail (reached P calls) receiptId = pre ++ .consume :: post →
      .verify ∈ pre) ∧
    (∀ pre post, auditTrail (reached P calls) receiptId = pre ++ .attest :: post →
      .verify ∈ pre ∧ ∀ e ∈ terminalEvents, e ∉ pre) ∧
    (∀ receipt env, receipt.receiptId = receiptId → (reached P calls).status receiptId ≠ none →
      reached P (calls ++ [(.issue receipt, env)]) = reached P calls) := by
  obtain ⟨p, hsound, -⟩ := sound_reached (P := P) calls receiptId
  have hword : Phase.absent.run (auditTrail (reached P calls) receiptId) = some p := hsound
  refine ⟨fun call s hs ↦ status_reached hs call, fun call s ↦ status_of_none_reached,
    fun later s ht hs ↦ status_terminal_reached ht hs later, Phase.count_verify_le hword,
    Phase.count_consume_le hword, Phase.count_attest_le hword, fun pre post h ↦ ?_,
    fun pre post h ↦ ?_, ?_⟩
  · rw [h] at hword
    exact (Phase.verify_mem_of_run_append (by decide) hword).1
  · rw [h] at hword
    exact Phase.verify_mem_of_run_append (by decide) hword
  · rintro receipt env rfl hs
    exact reissue_reached hs env

end AdmissionReceiptStore

end DriftGuardX.Admission
