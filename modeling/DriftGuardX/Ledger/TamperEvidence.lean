import DriftGuardX.Foundation.KeyTable
import DriftGuardX.Ledger.Store

/-!
# What the ledger verifiers guarantee

Three results about `verify_full_chain` and `verify_chain`, with an injective digest.

* Two accepted tables with the same last entry hash agree on every column that is hashed and, up to
  canonical JSON, on every payload (`map_view_eq_of_entryHash_eq`). This needs nothing about where
  the tables come from.
* Against a change that does not recompute hashes, the full verification rejects exactly the tables
  that are not a re-spelled initial segment of the original
  (`verifyFullChain_ne_ok_iff_not_respelled`): rows cut off at the end, other timestamps or
  versions, and other texts of the same payload pass.
* Honest appends verify exactly when every payload is stable under a JSON round trip
  (`verify_appendAll_iff_stable`).
-/

namespace DriftGuardX.Ledger

open Json Bytes HashChain Transaction

variable {F : Type} [FloatText F] {sha256 : List UInt8 → String}

/-! ## The last entry hash commits to the table -/

/-- The columns an entry hash covers, with the hash itself. -/
def Row.hashed (row : Row) : ℤ × String × String × String :=
  (row.sequenceNumber, row.previousEntryHash, row.payloadHash, row.entryHash)

variable (F) in
/-- The hashed columns and the payload in canonical form. -/
def Row.view (row : Row) : ℤ × String × String × String × Option (List UInt8) :=
  (row.sequenceNumber, row.previousEntryHash, row.payloadHash, row.entryHash,
    (loads row.payload : Option (Val F)).bind getCanonicalJson)

theorem commits_entryOk (hsha : Function.Injective sha256) :
    Commits (EntryOk sha256) Row.entryHash fun r s ↦ r.hashed = s.hashed := by
  rintro n m g k r s ⟨hn, hg, hr⟩ ⟨hm, hk, hs⟩ heq
  rw [heq] at hr
  obtain ⟨hseq, hprev, hpay⟩ := computeEntryHash_injective hsha hr hs
  refine ⟨?_, ?_, ?_⟩
  · rw [hn, hm] at hseq
    exact_mod_cast hseq
  · rw [← hg, ← hk, hprev]
  · show r.hashed = s.hashed
    rw [Row.hashed, Row.hashed, hseq, hprev, hpay, heq]

theorem view_eq_of_payloadOk (hsha : Function.Injective sha256) {r s : Row}
    (h : r.hashed = s.hashed) (hr : PayloadOk F sha256 r) (hs : PayloadOk F sha256 s) :
    r.view F = s.view F := by
  obtain ⟨v, hv, hvh⟩ := hr
  obtain ⟨w, hw, hwh⟩ := hs
  simp only [Row.hashed, Prod.mk.injEq] at h
  obtain ⟨hseq, hprev, hpay, hent⟩ := h
  rw [hpay] at hvh
  rw [Row.view, Row.view, hseq, hprev, hpay, hent, hv, hw, Option.bind_some, Option.bind_some,
    getCanonicalJson_eq_of_hash_eq hsha hvh hwh]

theorem commits_verified (hsha : Function.Injective sha256) :
    Commits (fun n g r ↦ EntryOk sha256 n g r ∧ PayloadOk F sha256 r) Row.entryHash
      fun r s ↦ r.view F = s.view F := by
  intro n m g k r s hr hs heq
  obtain ⟨hn, hg, hhashed⟩ := commits_entryOk hsha hr.1 hs.1 heq
  exact ⟨hn, hg, view_eq_of_payloadOk hsha hhashed hr.2 hs.2⟩

theorem map_eq_of_forall₂ {α β : Type} {f : α → β} {xs ys : List α}
    (h : List.Forall₂ (fun x y ↦ f x = f y) xs ys) : xs.map f = ys.map f := by
  rw [← List.forall₂_eq_eq_eq, List.forall₂_map_left_iff, List.forall₂_map_right_iff]
  exact h

/-- **Tamper evidence.** The last entry hash of an accepted table determines its length, its hashed
columns, and its payloads up to canonical JSON. -/
theorem map_view_eq_of_entryHash_eq (hsha : Function.Injective sha256) {t t' : Table} {r r' : Row}
    (ht : verifyFullChain F sha256 t = .ok true) (ht' : verifyFullChain F sha256 t' = .ok true)
    (hr : t.rows.getLast? = some r) (hr' : t'.rows.getLast? = some r')
    (hlast : r.entryHash = r'.entryHash) :
    t.rows.length = t'.rows.length ∧ t.rows.map (Row.view F) = t'.rows.map (Row.view F) := by
  rw [verifyFullChain_eq_ok_iff, ← chained_and_iff] at ht ht'
  have hhead : headHash Row.entryHash genesisHash t.rows
      = headHash Row.entryHash genesisHash t'.rows := by
    rw [← headHash_eq_getLast?, ← headHash_eq_getLast?, hr, hr', Option.map_some, Option.map_some,
      hlast]
  have hne : t.rows ≠ [] := fun h ↦ by simp [h] at hr
  have hne' : t'.rows ≠ [] := fun h ↦ by simp [h] at hr'
  have hrows := forall₂_of_headHash_eq (commits_verified hsha) hne hne' ht ht' hhead
  exact ⟨hrows.length_eq, map_eq_of_forall₂ hrows⟩

/-- The ledger of a list of appends, with the bytes themselves for digests. -/
def built (calls : List (Payload WholeFloat × String)) : Table :=
  ((appendAll latin1 .empty calls).toOption.map Prod.snd).getD .empty

theorem exists_appendAll_eq_built (calls : List (Payload WholeFloat × String))
    (h : (appendAll latin1 .empty calls).toOption.isSome = true) :
    ∃ results, appendAll latin1 .empty calls = .ok (results, built calls) := by
  cases hc : appendAll latin1 .empty calls with
  | error e => simp [hc, Except.toOption] at h
  | ok p => exact ⟨p.1, by simp [built, hc, Except.toOption]⟩

/-- Two appends, at some time of day. -/
def twoAppends (timestamp : String) : List (Payload WholeFloat × String) :=
  [([(.str "event", .int 1)], timestamp), ([], timestamp)]

/-- Two ledgers that were written at different times agree on everything but the timestamps. -/
theorem map_view_built_twoAppends :
    built (twoAppends "08:00") ≠ built (twoAppends "09:00") ∧
      (built (twoAppends "08:00")).rows.map (Row.view WholeFloat)
        = (built (twoAppends "09:00")).rows.map (Row.view WholeFloat) := by
  refine ⟨by decide +kernel, ?_⟩
  exact (map_view_eq_of_entryHash_eq latin1_injective (by decide +kernel) (by decide +kernel)
    (Option.some_get (by decide +kernel)).symm (Option.some_get (by decide +kernel)).symm
    (by decide +kernel)).2

/-! ## Which changes are detected -/

variable (sha256) in
/-- The change recomputes no hash: every valid entry hash in the new table was in the old one. -/
def NoRecompute (t t' : Table) : Prop :=
  ∀ row ∈ t'.rows, computeEntryHash sha256 row.sequenceNumber row.previousEntryHash row.payloadHash
      = .ok row.entryHash → row.entryHash ∈ t.rows.map Row.entryHash

variable (F sha256) in
/-- The new table keeps the hashed columns of an initial segment of the old one, with payload texts
that still have the recorded payload hashes. -/
def Respelled (t t' : Table) : Prop :=
  ∃ k ≤ t.rows.length, t'.rows.map Row.hashed = (t.rows.take k).map Row.hashed ∧
    ∀ row ∈ t'.rows, PayloadOk F sha256 row

theorem entryChain_of_map_hashed {rows rows' : List Row} {n : ℕ} {g : String}
    (h : rows'.map Row.hashed = rows.map Row.hashed)
    (hrows : Chained (EntryOk sha256) Row.entryHash n g rows) :
    Chained (EntryOk sha256) Row.entryHash n g rows' := by
  induction rows generalizing rows' n g with
  | nil =>
    rw [List.map_nil, List.map_eq_nil_iff] at h
    exact h ▸ trivial
  | cons r rows ih =>
    obtain ⟨r', rows', rfl, hr, hrest⟩ := List.map_eq_cons_iff.mp h
    simp only [Row.hashed, Prod.mk.injEq] at hr
    obtain ⟨hseq, hprev, hpay, hent⟩ := hr
    refine ⟨?_, ?_⟩
    · rw [EntryOk, hseq, hprev, hpay, hent]
      exact hrows.1
    · rw [hent]
      exact ih hrest hrows.2

/-- **What the full verification detects.** Of the tables that a change without recomputed hashes
can leave behind, exactly those that are not a re-spelled initial segment of the ledger are
rejected. -/
theorem verifyFullChain_ne_ok_iff_not_respelled (hsha : Function.Injective sha256)
    {calls : List (Payload F × String)} {results : List LedgerAppendResult} {t t' : Table}
    (hbuilt : appendAll sha256 .empty calls = .ok (results, t)) (hno : NoRecompute sha256 t t') :
    verifyFullChain F sha256 t' ≠ .ok true ↔ ¬ Respelled F sha256 t t' := by
  obtain ⟨-, -, -, hchain, -⟩ := appendAll_eq_ok entryChain_empty hbuilt
  rw [not_iff_not, verifyFullChain_eq_ok_iff]
  constructor
  · rintro ⟨hchain', hpay⟩
    have hmem : ∀ s ∈ t'.rows, ∃ r ∈ t.rows, r.entryHash = s.entryHash := by
      intro s hs
      have hvalid := hchain'.forall_mem (fun _ _ _ h ↦ h.2.2) s hs
      exact List.mem_map.mp (hno s hs hvalid)
    obtain ⟨k, hk, hseg⟩ := exists_forall₂_take (commits_entryOk hsha) hchain hchain' hmem
    exact ⟨k, hk, map_eq_of_forall₂ hseg, hpay⟩
  · rintro ⟨k, -, hseg, hpay⟩
    exact ⟨entryChain_of_map_hashed hseg (hchain.take k), hpay⟩

/-- `DELETE`: some rows of a table. -/
def Table.ofSublist (t : Table) {rows : List Row} (h : rows.Sublist t.rows) : Table where
  rows := rows
  sorted := t.sorted.sublist h
  unique := t.unique.sublist (h.map Row.entryHash)

theorem rows_ofSublist {t : Table} {rows : List Row} (h : rows.Sublist t.rows) :
    (t.ofSublist h).rows = rows := rfl

theorem noRecompute_ofSublist {t : Table} {rows : List Row} (h : rows.Sublist t.rows) :
    NoRecompute sha256 t (t.ofSublist h) :=
  fun _ hrow _ ↦ List.mem_map_of_mem (h.subset hrow)

/-- Deleting the first row is detected. -/
theorem not_respelled_drop_first :
    ¬ Respelled WholeFloat latin1 (built (twoAppends "08:00"))
      ((built (twoAppends "08:00")).ofSublist (List.drop_sublist 1 _)) := by
  obtain ⟨results, hbuilt⟩ := exists_appendAll_eq_built (twoAppends "08:00")
    (by decide +kernel)
  exact (verifyFullChain_ne_ok_iff_not_respelled latin1_injective hbuilt
    (noRecompute_ofSublist _)).mp (by decide +kernel)

/-- Deleting the last row is not. -/
theorem verifyFullChain_take_eq_ok :
    ∃ results, appendAll latin1 .empty (twoAppends "08:00")
        = .ok (results, built (twoAppends "08:00")) ∧
      ∃ t' : Table, t'.rows = (built (twoAppends "08:00")).rows.take 1 ∧
        t' ≠ built (twoAppends "08:00") ∧ NoRecompute latin1 (built (twoAppends "08:00")) t' ∧
        verifyFullChain WholeFloat latin1 t' = .ok true := by
  obtain ⟨results, hbuilt⟩ := exists_appendAll_eq_built (twoAppends "08:00")
    (by decide +kernel)
  exact ⟨results, hbuilt, (built (twoAppends "08:00")).ofSublist (List.take_sublist 1 _),
    rows_ofSublist _, by decide +kernel, noRecompute_ofSublist _, by decide +kernel⟩

/-! ## Honest appends -/

theorem payloadOk_iff_stable (hsha : Function.Injective sha256) {payload : Payload F} {row : Row}
    (h : Records sha256 payload row) : PayloadOk F sha256 row ↔ (Val.dict payload).Stable := by
  obtain ⟨w, hw, hstable⟩ := exists_loads_of_dumps h.2
  constructor
  · rintro ⟨v, hv, hhash⟩
    rw [hw, Option.some_inj] at hv
    subst hv
    rw [← hstable ⟨false, true⟩, ← getCanonicalJson_eq_iff]
    exact getCanonicalJson_eq_of_hash_eq hsha hhash h.1
  · intro hs
    refine ⟨w, hw, ?_⟩
    rw [← hstable ⟨false, true⟩, ← getCanonicalJson_eq_iff] at hs
    rw [computePayloadHash, hs]
    exact h.1

/-- One round of the walk back, at a row of a verified table. -/
theorem verifyChain_succ {t : Table} {row : Row} (hmem : row ∈ t.rows)
    (hpay : PayloadOk F sha256 row)
    (hent : computeEntryHash sha256 row.sequenceNumber row.previousEntryHash row.payloadHash
      = .ok row.entryHash)
    (hgenesis : row.sequenceNumber = 0 → row.previousEntryHash = genesisHash) (fuel : ℕ) :
    verifyChain F sha256 t (fuel + 1) row.entryHash
      = if row.sequenceNumber = 0 then some (.ok true)
        else verifyChain F sha256 t fuel row.previousEntryHash := by
  have hfind : t.rows.find? (fun r ↦ r.entryHash = row.entryHash) = some row :=
    (find?_key_eq_some_iff t.unique).mpr ⟨hmem, rfl⟩
  have hcheck : checkHashes F sha256 "Tampering detected." row = .ok () :=
    checkHashes_eq_ok_iff.mpr ⟨hpay, hent⟩
  simp only [verifyChain, hfind, hcheck]
  by_cases h : row.sequenceNumber = 0
  · rw [if_pos h, if_pos h, if_neg (by simpa using hgenesis h)]
  · rw [if_neg h, if_neg h]

/-- The walk back succeeds from every row of a verified table, in at most as many rounds as there
are rows up to it. -/
theorem verifyChain_eq_ok {t : Table} (hchain : EntryChain sha256 t.rows)
    (hpay : ∀ row ∈ t.rows, PayloadOk F sha256 row) :
    ∀ (pre : List Row) (row : Row) (post : List Row), t.rows = pre ++ row :: post →
      ∀ fuel > pre.length, verifyChain F sha256 t fuel row.entryHash = some (.ok true) := by
  intro pre
  -- the induction takes rows off the end of the prefix, which is where the walk goes next
  induction pre using List.reverseRecOn with
  | nil =>
    intro row post hrows fuel hfuel
    obtain ⟨fuel, rfl⟩ := Nat.exists_eq_add_one_of_ne_zero (Nat.ne_zero_of_lt hfuel)
    have hmem : row ∈ t.rows := by simp [hrows]
    rw [hrows, List.nil_append] at hchain
    obtain ⟨hseq, hprev, hent⟩ := hchain.1
    rw [verifyChain_succ hmem (hpay row hmem) hent fun _ ↦ hprev, if_pos (by simpa using hseq)]
  | append_singleton pre p ih =>
    intro row post hrows fuel hfuel
    obtain ⟨fuel, rfl⟩ := Nat.exists_eq_add_one_of_ne_zero (Nat.ne_zero_of_lt hfuel)
    rw [List.length_append, List.length_singleton] at hfuel
    have hmem : row ∈ t.rows := by simp [hrows]
    rw [hrows, EntryChain, chained_append] at hchain
    obtain ⟨hseq, hprev, hent⟩ := hchain.2.1
    rw [headHash_append_singleton] at hprev
    have hne : row.sequenceNumber ≠ 0 := by
      rw [hseq, List.length_append, List.length_singleton]
      omega
    rw [verifyChain_succ hmem (hpay row hmem) hent fun h ↦ absurd h hne, if_neg hne, hprev]
    exact ih p (row :: post) (by rw [hrows]; simp) fuel (by omega)

theorem forall_payloadOk_iff_stable (hsha : Function.Injective sha256)
    {calls : List (Payload F × String)} {rows : List Row}
    (h : List.Forall₂ (fun call row ↦ Records sha256 call.1 row) calls rows) :
    (∀ row ∈ rows, PayloadOk F sha256 row) ↔ ∀ call ∈ calls, (Val.dict call.1).Stable := by
  induction h with
  | nil => simp
  | cons hrec _ ih =>
    rw [List.forall_mem_cons, List.forall_mem_cons, payloadOk_iff_stable hsha hrec, ih]

/-- **Honest appends.** After appends that were all accepted, the table verifies, from the front and
from every returned hash, exactly when every payload is stable. -/
theorem verify_appendAll_iff_stable (hsha : Function.Injective sha256)
    {calls : List (Payload F × String)} {results : List LedgerAppendResult} {t : Table}
    (hbuilt : appendAll sha256 .empty calls = .ok (results, t)) :
    (verifyFullChain F sha256 t = .ok true ∧ ∀ result ∈ results, ∀ fuel ≥ t.rows.length,
        verifyChain F sha256 t fuel result.entryHash = some (.ok true)) ↔
      ∀ call ∈ calls, (Val.dict call.1).Stable := by
  obtain ⟨rows, hrows, hrecs, hchain, hresults⟩ := appendAll_eq_ok entryChain_empty hbuilt
  rw [show Table.empty.rows = [] from rfl, List.nil_append] at hrows
  rw [verifyFullChain_eq_ok_iff, ← forall_payloadOk_iff_stable hsha hrecs, hrows]
  constructor
  · exact fun h ↦ h.1.2
  · refine fun hpay ↦ ⟨⟨hrows ▸ hchain, hpay⟩, fun result hresult fuel hfuel ↦ ?_⟩
    have hmem : result.entryHash ∈ rows.map Row.entryHash := by
      rw [← hresults]
      exact List.mem_map_of_mem hresult
    obtain ⟨row, hrow, hhash⟩ := List.mem_map.mp hmem
    obtain ⟨pre, post, hsplit⟩ := List.append_of_mem hrow
    rw [← hhash]
    refine verifyChain_eq_ok hchain (hrows ▸ hpay) pre row post (hrows.trans hsplit) fuel ?_
    rw [hsplit, List.length_append, List.length_cons] at hfuel
    omega

/-- Two appends with string keys verify. -/
theorem verify_built_twoAppends :
    verifyFullChain WholeFloat latin1 (built (twoAppends "08:00")) = .ok true := by
  obtain ⟨results, hbuilt⟩ := exists_appendAll_eq_built (twoAppends "08:00")
    (by decide +kernel)
  refine ((verify_appendAll_iff_stable latin1_injective hbuilt).mpr ?_).1
  intro call hcall d hd
  have hsorted : ∀ call ∈ twoAppends "08:00",
      ((toDoc true (.dict call.1)).all fun d ↦ decide d.SortedKeys) = true := by decide +kernel
  simpa [hd] using hsorted call hcall

/-- A payload with a nested dictionary under the integer keys nine and ten. -/
def integerKeys : Payload WholeFloat :=
  [(.str "m", .dict [(.int 9, .str "a"), (.int 10, .str "b")])]

/-- Integer keys: the append is accepted, and the ledger it leaves is reported as tampered. -/
theorem verifyFullChain_integerKeys :
    ∃ results, appendAll latin1 .empty [(integerKeys, "08:00")]
        = .ok (results, built [(integerKeys, "08:00")]) ∧
      verifyFullChain WholeFloat latin1 (built [(integerKeys, "08:00")])
        = .error (.ledgerIntegrityError "Payload hash mismatch at seq 0. Row mutated.") := by
  obtain ⟨results, hbuilt⟩ := exists_appendAll_eq_built [(integerKeys, "08:00")]
    (by decide +kernel)
  exact ⟨results, hbuilt, by decide +kernel⟩

end DriftGuardX.Ledger
