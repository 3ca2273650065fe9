import DriftGuardX.Foundation.Bytes
import DriftGuardX.Foundation.HashChain
import DriftGuardX.Foundation.Transaction
import DriftGuardX.Json.Text

/-!
# The transparency ledger

`SQLiteTransparencyStore`: an append-only table of payloads, each row carrying the digest of its
payload and a digest over its own position, the digest of the row before it and the payload digest.
The payload digest is taken over the value in memory, written with sorted keys and without escapes;
the column keeps another text of the same value, written with escapes, and both verifiers take the
digest again over what that text decodes to.

A `Table` is the content of the database file. Its primary key is the position, which is also the
order in which the rows are kept and read. A connection that raises rolls back, so a call either
returns with a new table or leaves the old one.

The digest is a parameter, from byte strings to the text that `hexdigest` returns.
-/

namespace DriftGuardX.Ledger

open Json Bytes HashChain Transaction

/-! ## Rows and tables -/

/-- The exceptions of the ledger: its own, with the message, and those of the libraries it calls. -/
inductive Error where
  | ledgerIntegrityError (message : String)
  | typeError
  | jsonDecodeError
  | structError
  | overflowError
  deriving DecidableEq, Repr

/-- A row of the `ledger` table. -/
structure Row where
  sequenceNumber : ℤ
  timestamp : String
  previousEntryHash : String
  payloadHash : String
  entryHash : String
  hashVersion : String
  payload : Text
  deriving DecidableEq, Repr

/-- The table, in the order of its primary key, with its other constraint. -/
@[ext] structure Table where
  rows : List Row
  sorted : rows.Pairwise (·.sequenceNumber < ·.sequenceNumber)
  unique : (rows.map Row.entryHash).Nodup

namespace Table

instance : DecidableEq Table := fun s t ↦ decidable_of_iff (s.rows = t.rows) Table.ext_iff.symm

def empty : Table := ⟨[], .nil, List.nodup_nil⟩

theorem sorted_orderedInsert {rows : List Row} {row : Row}
    (h : rows.Pairwise (·.sequenceNumber < ·.sequenceNumber))
    (hfresh : row.sequenceNumber ∉ rows.map Row.sequenceNumber) :
    (rows.orderedInsert (fun a b ↦ a.sequenceNumber ≤ b.sequenceNumber) row).Pairwise
      (·.sequenceNumber < ·.sequenceNumber) := by
  induction rows with
  | nil => simp
  | cons r rows ih =>
    rw [List.map_cons, List.mem_cons, not_or] at hfresh
    rw [List.pairwise_cons] at h
    rw [List.orderedInsert_cons]
    split
    · have hlt : row.sequenceNumber < r.sequenceNumber := lt_of_le_of_ne ‹_› hfresh.1
      refine .cons (List.forall_mem_cons.mpr ⟨hlt, fun s hs ↦ hlt.trans (h.1 s hs)⟩) ?_
      exact List.pairwise_cons.mpr h
    · refine .cons (fun s hs ↦ ?_) (ih h.2 hfresh.2)
      rcases (List.mem_orderedInsert _).mp hs with rfl | hs'
      · exact lt_of_not_ge ‹_›
      · exact h.1 s hs'

/-- `INSERT INTO ledger`, which fails on a duplicate position or entry hash. -/
def insert (t : Table) (row : Row) : Except Error Table :=
  if hseq : row.sequenceNumber ∈ t.rows.map Row.sequenceNumber then
    .error (.ledgerIntegrityError
      "Concurrency/Integrity failure during append: UNIQUE constraint failed: ledger.sequence_number")
  else if hhash : row.entryHash ∈ t.rows.map Row.entryHash then
    .error (.ledgerIntegrityError
      "Concurrency/Integrity failure during append: UNIQUE constraint failed: ledger.entry_hash")
  else
    .ok {
      rows := t.rows.orderedInsert (fun a b ↦ a.sequenceNumber ≤ b.sequenceNumber) row
      sorted := sorted_orderedInsert t.sorted hseq
      unique := by
        rw [((List.perm_orderedInsert _ row t.rows).map Row.entryHash).nodup_iff, List.map_cons]
        exact .cons hhash t.unique }

end Table

/-! ## Digests -/

section Digests

variable {F : Type} [FloatText F] (sha256 : List UInt8 → String)

/-- The text that is hashed: sorted keys, no spaces, no escapes beyond the necessary ones. -/
def getCanonicalJson (data : Val F) : Option (List UInt8) :=
  (dumps ⟨false, true⟩ true data).map utf8Chars

def computePayloadHash (payload : Val F) : Except Error String := do
  let canonical ← orRaise .typeError (getCanonicalJson payload)
  return sha256 (utf8 "DGX-LEDGER-PAYLOAD-V1" ++ canonical)

/-- `struct.pack(">Q", n)`, which takes unsigned integers of eight bytes. -/
def packQ (n : ℤ) : Option (List UInt8) := if n < 0 then none else pack 8 n.toNat

/-- The message whose digest is the entry hash: three fields, each preceded by its length. -/
def entryMessage (sequenceNumber : ℤ) (previousEntryHash payloadHash : String) :
    Option (List UInt8) := do
  let seqBytes ← packQ sequenceNumber
  let seqField ← field seqBytes
  let prevField ← field (utf8 previousEntryHash)
  let payField ← field (utf8 payloadHash)
  return utf8 "DGX-LEDGER-ENTRY-V1" ++ (seqField ++ (prevField ++ payField))

def computeEntryHash (sequenceNumber : ℤ) (previousEntryHash payloadHash : String) :
    Except Error String :=
  (orRaise .structError (entryMessage sequenceNumber previousEntryHash payloadHash)).map sha256

end Digests

/-! ## Appending -/

def genesisHash : String := "GENESIS-DGX-LEDGER-V1"

structure LedgerAppendResult where
  sequenceNumber : ℤ
  entryHash : String
  previousEntryHash : String
  payloadHash : String
  timestamp : String
  deriving DecidableEq, Repr

section Operations

variable {F : Type} [FloatText F] (sha256 : List UInt8 → String)

/-- A payload: a dictionary, with keys of any kind. -/
abbrev Payload (F : Type) := List (Key F × Val F)

/-- One append, at a time that `datetime.now` returned. -/
def append (t : Table) (payload : Payload F) (timestamp : String) :
    Except Error (LedgerAppendResult × Table) := do
  let lastRow := t.rows.getLast?
  let seq : ℤ := (lastRow.map fun r ↦ r.sequenceNumber + 1).getD 0
  let prevHash := (lastRow.map Row.entryHash).getD genesisHash
  let payloadHash ← computePayloadHash sha256 (.dict payload)
  let entryHash ← computeEntryHash sha256 seq prevHash payloadHash
  let text ← orRaise .typeError (dumps ⟨true, true⟩ true (.dict payload : Val F))
  -- the driver binds signed integers of eight bytes
  require (seq < 2 ^ 63) .overflowError
  let t' ← t.insert ⟨seq, timestamp, prevHash, payloadHash, entryHash, "V1", text⟩
  return (⟨seq, entryHash, prevHash, payloadHash, timestamp⟩, t')

/-- A sequence of appends, all of which are accepted. -/
def appendAll : Table → List (Payload F × String) → Except Error (List LedgerAppendResult × Table)
  | t, [] => .ok ([], t)
  | t, (payload, timestamp) :: calls => do
    let (result, t₁) ← append sha256 t payload timestamp
    let (results, t₂) ← appendAll t₁ calls
    return (result :: results, t₂)

/-! ## Verification -/

variable (F)

/-- The two digests of a row, as both verifiers check them. -/
def checkHashes (verdict : String) (row : Row) : Except Error Unit := do
  let seq := row.sequenceNumber
  let payload ← orRaise .jsonDecodeError (loads row.payload : Option (Val F))
  let recomputedPayloadHash ← computePayloadHash sha256 payload
  require (recomputedPayloadHash = row.payloadHash)
    (.ledgerIntegrityError s!"Payload hash mismatch at seq {seq}. {verdict}")
  let recomputedEntryHash ←
    computeEntryHash sha256 row.sequenceNumber row.previousEntryHash row.payloadHash
  require (recomputedEntryHash = row.entryHash)
    (.ledgerIntegrityError s!"Entry hash mismatch at seq {seq}. {verdict}")

/-- The body of the loop of `verify_full_chain`. -/
def checkRow (expectedSeq : ℕ) (expectedPrevHash : String) (row : Row) : Except Error Unit := do
  let seq := row.sequenceNumber
  require (seq = expectedSeq) (.ledgerIntegrityError
    s!"Sequence number gap/reorder at expected {expectedSeq}, found {seq}.")
  require (row.previousEntryHash = expectedPrevHash) (.ledgerIntegrityError
    s!"Previous hash mismatch at seq {seq}.")
  checkHashes F sha256 "Row mutated." row

def verifyFullChain (t : Table) : Except Error Bool := do
  walk (checkRow F sha256) Row.entryHash 0 genesisHash t.rows
  return true

/-- The loop of `verify_chain`, from a row back to the first one. It has no bound of its own in
the source; nothing stands for a loop that is still running when the fuel is spent. -/
def verifyChain (t : Table) : ℕ → String → Option (Except Error Bool)
  | 0, _ => none
  | fuel + 1, currentHash =>
    match t.rows.find? fun row ↦ row.entryHash = currentHash with
    | none => some (.error (.ledgerIntegrityError s!"Missing link in chain at hash: {currentHash}"))
    | some row =>
      match checkHashes F sha256 "Tampering detected." row with
      | .error e => some (.error e)
      | .ok () =>
        if row.sequenceNumber = 0 then
          if row.previousEntryHash ≠ genesisHash then
            some (.error (.ledgerIntegrityError "Genesis block tampering detected."))
          else some (.ok true)
        else verifyChain t fuel row.previousEntryHash

end Operations

/-! ## What the digests commit to -/

section Specs

variable {F : Type} [FloatText F] {sha256 : List UInt8 → String}

theorem computePayloadHash_eq_ok_iff {v : Val F} {h : String} :
    computePayloadHash sha256 v = .ok h ↔
      ∃ bs, getCanonicalJson v = some bs ∧ sha256 (utf8 "DGX-LEDGER-PAYLOAD-V1" ++ bs) = h := by
  simp only [computePayloadHash, bind_eq_ok_iff, orRaise_eq_ok_iff, pure_eq_ok_iff]

theorem getCanonicalJson_eq_of_hash_eq (hsha : Function.Injective sha256) {v w : Val F} {h : String}
    (hv : computePayloadHash sha256 v = .ok h) (hw : computePayloadHash sha256 w = .ok h) :
    getCanonicalJson v = getCanonicalJson w := by
  obtain ⟨bs, hbs, hv⟩ := computePayloadHash_eq_ok_iff.mp hv
  obtain ⟨cs, hcs, hw⟩ := computePayloadHash_eq_ok_iff.mp hw
  rw [hbs, hcs, List.append_cancel_left (hsha (hv.trans hw.symm))]

theorem getCanonicalJson_eq_iff {v w : Val F} :
    getCanonicalJson v = getCanonicalJson w ↔ dumps ⟨false, true⟩ true v = dumps ⟨false, true⟩ true w :=
  Option.map_injective utf8Chars_injective |>.eq_iff

theorem packQ_injective {m n : ℤ} {bs : List UInt8} (hm : packQ m = some bs)
    (hn : packQ n = some bs) : m = n := by
  rw [packQ] at hm hn
  split at hm
  · exact absurd hm (by simp)
  · split at hn
    · exact absurd hn (by simp)
    · have := pack_injective hm hn
      omega

theorem entryMessage_injective {m n : ℤ} {p q a b : String} {msg : List UInt8}
    (hm : entryMessage m p a = some msg) (hn : entryMessage n q b = some msg) :
    m = n ∧ p = q ∧ a = b := by
  simp only [entryMessage, Option.bind_eq_bind, Option.bind_eq_some_iff, Option.pure_def,
    Option.some.injEq] at hm hn
  obtain ⟨ms, hms, mf, hmf, pf, hpf, af, haf, rfl⟩ := hm
  obtain ⟨ns, hns, nf, hnf, qf, hqf, bf, hbf, hmsg⟩ := hn
  obtain ⟨rfl, hrest⟩ := field_append_inj hnf hmf (List.append_cancel_left hmsg)
  obtain ⟨hpq, hrest⟩ := field_append_inj hqf hpf hrest
  have hlast := field_append_inj (r := []) (s := []) hbf haf (by rw [hrest])
  exact ⟨packQ_injective hms hns, utf8_injective hpq.symm, utf8_injective hlast.1.symm⟩

theorem computeEntryHash_eq_ok_iff {n : ℤ} {p a h : String} :
    computeEntryHash sha256 n p a = .ok h ↔ ∃ msg, entryMessage n p a = some msg ∧ sha256 msg = h := by
  rw [computeEntryHash]
  cases entryMessage n p a <;> simp [orRaise, Except.map]

theorem computeEntryHash_injective (hsha : Function.Injective sha256) {m n : ℤ} {p q a b h : String}
    (hm : computeEntryHash sha256 m p a = .ok h) (hn : computeEntryHash sha256 n q b = .ok h) :
    m = n ∧ p = q ∧ a = b := by
  obtain ⟨msg, hmsg, hm⟩ := computeEntryHash_eq_ok_iff.mp hm
  obtain ⟨msg', hmsg', hn⟩ := computeEntryHash_eq_ok_iff.mp hn
  obtain rfl := hsha (hm.trans hn.symm)
  exact entryMessage_injective hmsg hmsg'

/-! ## What the verifiers check -/

variable (sha256) in
/-- A row with the position, the predecessor and the entry hash it should have. -/
def EntryOk (n : ℕ) (g : String) (row : Row) : Prop :=
  row.sequenceNumber = n ∧ row.previousEntryHash = g ∧
    computeEntryHash sha256 row.sequenceNumber row.previousEntryHash row.payloadHash
      = .ok row.entryHash

variable (F sha256) in
/-- A row whose payload text decodes to a value with the recorded payload hash. -/
def PayloadOk (row : Row) : Prop :=
  ∃ v : Val F, loads row.payload = some v ∧ computePayloadHash sha256 v = .ok row.payloadHash

variable (sha256) in
/-- The rows follow one another from the first position on. -/
abbrev EntryChain (rows : List Row) : Prop :=
  Chained (EntryOk sha256) Row.entryHash 0 genesisHash rows

theorem checkHashes_eq_ok_iff {verdict : String} {row : Row} :
    checkHashes F sha256 verdict row = .ok () ↔ PayloadOk F sha256 row ∧
      computeEntryHash sha256 row.sequenceNumber row.previousEntryHash row.payloadHash
        = .ok row.entryHash := by
  simp only [checkHashes, PayloadOk, bind_eq_ok_iff, orRaise_eq_ok_iff, require_eq_ok_iff]
  constructor
  · rintro ⟨v, hv, h, hh, _, rfl, h', hh', rfl⟩
    exact ⟨⟨v, hv, hh⟩, hh'⟩
  · rintro ⟨⟨v, hv, hh⟩, hh'⟩
    exact ⟨v, hv, _, hh, (), rfl, _, hh', rfl⟩

theorem checkRow_eq_ok_iff {n : ℕ} {g : String} {row : Row} :
    checkRow F sha256 n g row = .ok () ↔ EntryOk sha256 n g row ∧ PayloadOk F sha256 row := by
  simp only [checkRow, EntryOk, bind_eq_ok_iff, require_eq_ok_iff, checkHashes_eq_ok_iff]
  constructor
  · rintro ⟨_, hseq, _, hprev, hpay, hent⟩
    exact ⟨⟨hseq, hprev, hent⟩, hpay⟩
  · rintro ⟨⟨hseq, hprev, hent⟩, hpay⟩
    exact ⟨(), hseq, (), hprev, hpay, hent⟩

theorem verifyFullChain_eq_ok_iff {t : Table} :
    verifyFullChain F sha256 t = .ok true ↔
      EntryChain sha256 t.rows ∧ ∀ row ∈ t.rows, PayloadOk F sha256 row := by
  have hwalk : verifyFullChain F sha256 t = .ok true ↔
      walk (checkRow F sha256) Row.entryHash 0 genesisHash t.rows = .ok () := by
    simp only [verifyFullChain, bind_eq_ok_iff, pure_eq_ok_iff, and_true]
    constructor
    · rintro ⟨_, h⟩
      exact h
    · exact fun h ↦ ⟨(), h⟩
  rw [hwalk, walk_eq_ok_iff, ← chained_and_iff]
  simp only [checkRow_eq_ok_iff]

/-! ## What an append does -/

/-- The row records the payload: its digest, and a text of it. -/
def Records (sha256 : List UInt8 → String) (payload : Payload F) (row : Row) : Prop :=
  computePayloadHash sha256 (.dict payload) = .ok row.payloadHash ∧
    dumps ⟨true, true⟩ true (.dict payload : Val F) = some row.payload

theorem orderedInsert_of_forall_lt {rows : List Row} {row : Row}
    (h : ∀ r ∈ rows, r.sequenceNumber < row.sequenceNumber) :
    rows.orderedInsert (fun a b ↦ a.sequenceNumber ≤ b.sequenceNumber) row = rows ++ [row] := by
  induction rows with
  | nil => rfl
  | cons r rows ih =>
    rw [List.forall_mem_cons] at h
    rw [List.orderedInsert_cons, if_neg (not_le_of_gt h.1), ih h.2, List.cons_append]

theorem Table.insert_rows {t t' : Table} {row : Row} (h : t.insert row = .ok t')
    (hlast : ∀ r ∈ t.rows, r.sequenceNumber < row.sequenceNumber) : t'.rows = t.rows ++ [row] := by
  rw [Table.insert] at h
  split at h
  · exact absurd h (by simp)
  · split at h
    · exact absurd h (by simp)
    · obtain rfl := Except.ok.inj h
      exact orderedInsert_of_forall_lt hlast

/-- In a chain the position of the last row is the length less one, so the next one is free. -/
theorem EntryChain.sequenceNumber_lt {rows : List Row} (h : EntryChain sha256 rows) :
    ∀ row ∈ rows, row.sequenceNumber < rows.length := by
  induction rows using List.reverseRecOn with
  | nil => simp
  | append_singleton rows r ih =>
    obtain ⟨hrows, hr⟩ := chained_append_singleton.mp h
    have hpos : r.sequenceNumber = ((0 + rows.length : ℕ) : ℤ) := hr.1
    intro row hrow
    rw [List.length_append, List.length_singleton]
    rcases List.mem_append.mp hrow with hmem | hmem
    · have := ih hrows row hmem
      omega
    · rw [List.mem_singleton.mp hmem]
      omega

theorem EntryChain.nextSequence {rows : List Row} (h : EntryChain sha256 rows) :
    (rows.getLast?.map fun r ↦ r.sequenceNumber + 1).getD 0 = (rows.length : ℤ) := by
  rcases List.eq_nil_or_concat rows with rfl | ⟨rows, r, rfl⟩
  · rfl
  · rw [List.concat_eq_append] at h ⊢
    have hpos : r.sequenceNumber = ((0 + rows.length : ℕ) : ℤ) :=
      (chained_append_singleton.mp h).2.1
    rw [List.getLast?_concat, Option.map_some, Option.getD_some, hpos]
    simp

theorem headHash_eq_getLast? (g : String) (rows : List Row) :
    (rows.getLast?.map Row.entryHash).getD g = headHash Row.entryHash g rows := by
  rcases List.eq_nil_or_concat rows with rfl | ⟨rows, r, rfl⟩
  · rfl
  · rw [List.concat_eq_append, List.getLast?_concat, headHash_append_singleton]
    rfl

/-- **The step.** An accepted append adds one row to the end, which records the payload and
continues the chain. -/
theorem append_eq_ok {t t' : Table} {payload : Payload F} {timestamp : String}
    {result : LedgerAppendResult} (ht : EntryChain sha256 t.rows)
    (h : append sha256 t payload timestamp = .ok (result, t')) :
    ∃ row, t'.rows = t.rows ++ [row] ∧ Records sha256 payload row ∧
      EntryChain sha256 t'.rows ∧ result.entryHash = row.entryHash := by
  simp only [append, bind_eq_ok_iff, orRaise_eq_ok_iff, pure_eq_ok_iff, Prod.mk.injEq] at h
  obtain ⟨payloadHash, hpay, entryHash, hent, text, htext, _, -, t₁, hins, rfl, rfl⟩ := h
  rw [ht.nextSequence, headHash_eq_getLast?] at hent hins
  have hrows := Table.insert_rows hins ht.sequenceNumber_lt
  refine ⟨_, hrows, ⟨hpay, htext⟩, ?_, rfl⟩
  rw [hrows, EntryChain, chained_append_singleton]
  exact ⟨ht, by simp, rfl, hent⟩

/-- **The run.** Accepted appends add one row for each payload, in order. -/
theorem appendAll_eq_ok {calls : List (Payload F × String)} {t t' : Table}
    {results : List LedgerAppendResult} (ht : EntryChain sha256 t.rows)
    (h : appendAll sha256 t calls = .ok (results, t')) :
    ∃ rows, t'.rows = t.rows ++ rows ∧
      List.Forall₂ (fun call row ↦ Records sha256 call.1 row) calls rows ∧
      EntryChain sha256 t'.rows ∧ results.map LedgerAppendResult.entryHash = rows.map Row.entryHash := by
  induction calls generalizing t results with
  | nil =>
    simp only [appendAll, Except.ok.injEq, Prod.mk.injEq] at h
    obtain ⟨rfl, rfl⟩ := h
    exact ⟨[], by simp, .nil, ht, rfl⟩
  | cons call calls ih =>
    simp only [appendAll, bind_eq_ok_iff, pure_eq_ok_iff, Prod.mk.injEq] at h
    obtain ⟨⟨result, t₁⟩, hfirst, ⟨rest, t₂⟩, hrest, rfl, rfl⟩ := h
    obtain ⟨row, hrow, hrec, hchain, hres⟩ := append_eq_ok ht hfirst
    obtain ⟨rows, hrows, hrecs, hchain', hress⟩ := ih hchain hrest
    refine ⟨row :: rows, ?_, .cons hrec hrecs, hchain', ?_⟩
    · rw [hrows, hrow, List.append_assoc, List.singleton_append]
    · rw [List.map_cons, List.map_cons, hress, hres]

theorem entryChain_empty : EntryChain sha256 Table.empty.rows := trivial

end Specs

end DriftGuardX.Ledger
