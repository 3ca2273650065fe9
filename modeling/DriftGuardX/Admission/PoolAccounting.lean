import DriftGuardX.Admission.PostgresStore
import Mathlib.Algebra.BigOperators.Group.List.Basic
import Mathlib.Algebra.Order.BigOperators.Group.List
import Mathlib.Tactic.Linarith

/-!
# Shared pool accounting

The books of the PostgreSQL store are balanced when every pool's reserved sum is what its open
receipts reserve, its spent sum is what its consumed receipts reserved, and the two stay within the
budget. Four movements happen to the books: a pool is opened, an amount is reserved, a receipt is
verified, and a receipt is closed. Each keeps them balanced, each call is made of them, and so every
reachable database is balanced.

Closing subtracts with a clamp at zero. In balanced books the reserved sum covers every open
receipt, so the clamp has no effect.
-/

namespace DriftGuardX.Admission.PostgresAdmissionReceiptStore

open Json Transaction

abbrev Receipts := KeyTable (ReceiptRow.receiptId (A := PoolShare))

abbrev Pools := KeyTable ResourcePool.poolId

/-! ## Totals -/

/-- The statuses in which a receipt holds a reservation. -/
def openStatuses : List ReceiptStatus := [.issued, .verified]

/-- What the receipts of a pool with one of these statuses have reserved. -/
def poolTotal (statuses : List ReceiptStatus) (poolId : String) (receipts : Receipts) : ℚ :=
  ((receipts.rows.filter fun row ↦
    row.account.resourcePoolId = poolId ∧ row.status ∈ statuses).map
      fun row ↦ row.account.reservedCostUsd).sum

/-- The contribution of one receipt. -/
def share (statuses : List ReceiptStatus) (poolId : String) (row : ReceiptRow PoolShare) : ℚ :=
  if row.account.resourcePoolId = poolId ∧ row.status ∈ statuses then row.account.reservedCostUsd
  else 0

variable {statuses : List ReceiptStatus} {poolId : String} {receipts : Receipts} {pools : Pools}
  {row : ReceiptRow PoolShare}

theorem share_of_mem (h : row.status ∈ statuses) : share statuses poolId row
    = if poolId = row.account.resourcePoolId then row.account.reservedCostUsd else 0 := by
  simp only [share, h, and_true, eq_comm]

theorem share_of_notMem (h : row.status ∉ statuses) : share statuses poolId row = 0 :=
  if_neg fun hc ↦ h hc.2

theorem poolTotal_eq_sum_share :
    poolTotal statuses poolId receipts = (receipts.rows.map (share statuses poolId)).sum := by
  rw [poolTotal]
  induction receipts.rows with
  | nil => rfl
  | cons row rows ih =>
    by_cases h : row.account.resourcePoolId = poolId ∧ row.status ∈ statuses
    · rw [List.filter_cons_of_pos (by simpa using h), List.map_cons, List.sum_cons, List.map_cons,
        List.sum_cons, ih, share, if_pos h]
    · rw [List.filter_cons_of_neg (by simpa using h), List.map_cons, List.sum_cons, ih, share,
        if_neg h, zero_add]

theorem poolTotal_insert (h : receipts.get? row.receiptId = none) :
    poolTotal statuses poolId (receipts.insert row h)
      = poolTotal statuses poolId receipts + share statuses poolId row := by
  rw [poolTotal_eq_sum_share, poolTotal_eq_sum_share, KeyTable.sum_map_insert]

theorem poolTotal_modify {f : ReceiptRow PoolShare → ReceiptRow PoolShare}
    (hf : ∀ row, (f row).receiptId = row.receiptId) {receiptId : String}
    (h : receipts.get? receiptId = some row) :
    poolTotal statuses poolId (receipts.modify receiptId f hf)
      = poolTotal statuses poolId receipts - share statuses poolId row
        + share statuses poolId (f row) := by
  rw [poolTotal_eq_sum_share, poolTotal_eq_sum_share, KeyTable.sum_map_modify _ hf h]

theorem poolTotal_eq_zero (h : ∀ row ∈ receipts.rows, row.account.resourcePoolId ≠ poolId) :
    poolTotal statuses poolId receipts = 0 := by
  have hnil : receipts.rows.filter (fun row ↦
      row.account.resourcePoolId = poolId ∧ row.status ∈ statuses) = [] := by
    rw [List.filter_eq_nil_iff]
    intro row hrow hc
    exact h row hrow (by simpa using hc : _ ∧ _).1
  rw [poolTotal, hnil, List.map_nil, List.sum_nil]

theorem le_poolTotal (hnonneg : ∀ row ∈ receipts.rows, 0 ≤ row.account.reservedCostUsd)
    (hrow : row ∈ receipts.rows) (hstatus : row.status ∈ statuses) :
    row.account.reservedCostUsd ≤ poolTotal statuses row.account.resourcePoolId receipts := by
  rw [poolTotal]
  refine List.single_le_sum (fun x hx ↦ ?_) _ (List.mem_map.mpr ⟨row, ?_, rfl⟩)
  · obtain ⟨other, hother, rfl⟩ := List.mem_map.mp hx
    exact hnonneg other (List.mem_of_mem_filter hother)
  · rw [List.mem_filter]
    exact ⟨hrow, by simpa using hstatus⟩

/-! ## Balanced books -/

/-- The three counters of every pool are what its receipts say they are. -/
structure Balanced (receipts : Receipts) (pools : Pools) : Prop where
  nonneg : ∀ row ∈ receipts.rows, 0 ≤ row.account.reservedCostUsd
  pool : ∀ row ∈ receipts.rows, ∃ pool, pools.get? row.account.resourcePoolId = some pool
  reserved : ∀ {poolId pool}, pools.get? poolId = some pool →
    pool.reservedUsd = poolTotal openStatuses poolId receipts
  spent : ∀ {poolId pool}, pools.get? poolId = some pool →
    pool.spentUsd = poolTotal [.consumed] poolId receipts
  budget : ∀ {poolId pool}, pools.get? poolId = some pool →
    pool.reservedUsd + pool.spentUsd ≤ pool.budgetUsd

theorem Balanced.le_reserved (h : Balanced receipts pools) (hrow : row ∈ receipts.rows)
    (hopen : row.status ∈ openStatuses) {pool : ResourcePool}
    (hpool : pools.get? row.account.resourcePoolId = some pool) :
    row.account.reservedCostUsd ≤ pool.reservedUsd := by
  rw [h.reserved hpool]
  exact le_poolTotal h.nonneg hrow hopen

theorem Balanced.openPool (h : Balanced receipts pools) (fresh : ResourcePool)
    (hreserved : fresh.reservedUsd = 0) (hspent : fresh.spentUsd = 0)
    (hbudget : 0 ≤ fresh.budgetUsd) : Balanced receipts (pools.insertIfAbsent fresh) := by
  -- a pool of the new table is an old one, or the fresh one without receipts
  have hcases : ∀ {poolId pool}, (pools.insertIfAbsent fresh).get? poolId = some pool →
      pools.get? poolId = some pool ∨
        pool = fresh ∧ ∀ row ∈ receipts.rows, row.account.resourcePoolId ≠ poolId := by
    intro poolId pool hpool
    rw [KeyTable.get?_insertIfAbsent] at hpool
    by_cases hid : poolId = fresh.poolId
    · rw [if_pos hid, Option.some_inj] at hpool
      cases hold : pools.get? poolId with
      | some old =>
        rw [hold, Option.getD_some] at hpool
        exact Or.inl (hpool ▸ rfl)
      | none =>
        rw [hold, Option.getD_none] at hpool
        refine Or.inr ⟨hpool.symm, fun row hrow hc ↦ ?_⟩
        obtain ⟨pool', hpool'⟩ := h.pool row hrow
        rw [hc, hold] at hpool'
        exact absurd hpool' (by simp)
    · rw [if_neg hid] at hpool
      exact Or.inl hpool
  refine ⟨h.nonneg, fun row hrow ↦ ?_, fun hpool ↦ ?_, fun hpool ↦ ?_, fun hpool ↦ ?_⟩
  · obtain ⟨pool, hpool⟩ := h.pool row hrow
    rw [KeyTable.get?_insertIfAbsent, hpool, Option.getD_some]
    exact ⟨pool, ite_self _⟩
  · rcases hcases hpool with hold | ⟨rfl, hnone⟩
    · exact h.reserved hold
    · rw [hreserved, poolTotal_eq_zero hnone]
  · rcases hcases hpool with hold | ⟨rfl, hnone⟩
    · exact h.spent hold
    · rw [hspent, poolTotal_eq_zero hnone]
  · rcases hcases hpool with hold | ⟨rfl, -⟩
    · exact h.budget hold
    · rwa [hreserved, hspent, add_zero]

/-- The books stay balanced when one pool is changed with the totals of its receipts. -/
theorem Balanced.modifyPool (h : Balanced receipts pools) {receipts' : Receipts} {k : String}
    {pool : ResourcePool} {f : ResourcePool → ResourcePool} (hf : ∀ p, (f p).poolId = p.poolId)
    (hpool : pools.get? k = some pool)
    (hrows : ∀ row ∈ receipts'.rows, 0 ≤ row.account.reservedCostUsd ∧
      ∃ p, pools.get? row.account.resourcePoolId = some p)
    (hothers : ∀ id ≠ k, poolTotal openStatuses id receipts' = poolTotal openStatuses id receipts ∧
      poolTotal [.consumed] id receipts' = poolTotal [.consumed] id receipts)
    (hreserved : (f pool).reservedUsd = poolTotal openStatuses k receipts')
    (hspent : (f pool).spentUsd = poolTotal [.consumed] k receipts')
    (hbudget : (f pool).reservedUsd + (f pool).spentUsd ≤ (f pool).budgetUsd) :
    Balanced receipts' (pools.modify k f hf) := by
  -- a pool of the new table is the changed one, or an old one with another id
  have hcases : ∀ {id p}, (pools.modify k f hf).get? id = some p →
      id = k ∧ p = f pool ∨ id ≠ k ∧ pools.get? id = some p := by
    intro id p hp
    rw [KeyTable.get?_modify] at hp
    split at hp
    · rename_i hid
      rw [hpool, Option.map_some, Option.some_inj] at hp
      exact .inl ⟨hid, hp.symm⟩
    · rename_i hid
      exact .inr ⟨hid, hp⟩
  refine ⟨fun row hrow ↦ (hrows row hrow).1, fun row hrow ↦ ?_, fun {id p} hp ↦ ?_,
    fun {id p} hp ↦ ?_, fun {id p} hp ↦ ?_⟩
  · obtain ⟨p, hp⟩ := (hrows row hrow).2
    rw [KeyTable.get?_modify, hpool]
    split
    · exact ⟨_, rfl⟩
    · exact ⟨p, hp⟩
  · rcases hcases hp with ⟨rfl, rfl⟩ | ⟨hid, hp⟩
    · exact hreserved
    · rw [(hothers id hid).1, h.reserved hp]
  · rcases hcases hp with ⟨rfl, rfl⟩ | ⟨hid, hp⟩
    · exact hspent
    · rw [(hothers id hid).2, h.spent hp]
  · rcases hcases hp with ⟨rfl, rfl⟩ | ⟨hid, hp⟩
    · exact hbudget
    · exact h.budget hp

/-- Reserving what a pool has available. -/
theorem Balanced.reserve (h : Balanced receipts pools) {pool : ResourcePool}
    (hnew : receipts.get? row.receiptId = none) (hissued : row.status = .issued)
    (hpool : pools.get? row.account.resourcePoolId = some pool)
    (hnonneg : 0 ≤ row.account.reservedCostUsd)
    (hfits : row.account.reservedCostUsd ≤ pool.available) (time : String) :
    Balanced (receipts.insert row hnew) (pools.modify row.account.resourcePoolId
      (fun pool ↦ { pool with
        reservedUsd := pool.reservedUsd + row.account.reservedCostUsd
        updatedAt := time }) fun _ ↦ rfl) := by
  have hopen : row.status ∈ openStatuses := by
    rw [hissued]
    decide
  have hunspent : row.status ∉ [ReceiptStatus.consumed] := by
    rw [hissued]
    decide
  refine h.modifyPool _ hpool (fun other hother ↦ ?_) (fun id hid ↦ ⟨?_, ?_⟩) ?_ ?_ ?_
  · rw [KeyTable.rows_insert, List.mem_append, List.mem_singleton] at hother
    rcases hother with hother | rfl
    · exact ⟨h.nonneg other hother, h.pool other hother⟩
    · exact ⟨hnonneg, pool, hpool⟩
  · rw [poolTotal_insert, share_of_mem hopen, if_neg hid, add_zero]
  · rw [poolTotal_insert, share_of_notMem hunspent, add_zero]
  -- the reserved sum of the pool grows by the amount of the new row
  · rw [poolTotal_insert, share_of_mem hopen, if_pos rfl, h.reserved hpool]
  · rw [poolTotal_insert, share_of_notMem hunspent, add_zero, h.spent hpool]
  · rw [ResourcePool.available] at hfits
    show pool.reservedUsd + row.account.reservedCostUsd + pool.spentUsd ≤ pool.budgetUsd
    linarith

/-- An update that keeps the accounts adds no new one. -/
theorem exists_account_of_mem_modify {receiptId : String}
    (f : ReceiptRow PoolShare → ReceiptRow PoolShare)
    (hf : ∀ row, (f row).receiptId = row.receiptId) (haccount : ∀ row, (f row).account = row.account)
    (hrow : row ∈ (receipts.modify receiptId f hf).rows) :
    ∃ old ∈ receipts.rows, row.account = old.account := by
  obtain ⟨old, hold, rfl⟩ := KeyTable.mem_rows_modify hf hrow
  refine ⟨old, hold, ?_⟩
  split
  · exact haccount old
  · rfl

/-- An update of a receipt that keeps its account and its contributions. -/
theorem Balanced.modify (h : Balanced receipts pools) {receiptId : String}
    (f : ReceiptRow PoolShare → ReceiptRow PoolShare)
    (hf : ∀ row, (f row).receiptId = row.receiptId) (haccount : ∀ row, (f row).account = row.account)
    (hrow : receipts.get? receiptId = some row)
    (hopen : (f row).status ∈ openStatuses ↔ row.status ∈ openStatuses)
    (hspent : (f row).status ∈ [ReceiptStatus.consumed] ↔ row.status ∈ [ReceiptStatus.consumed]) :
    Balanced (receipts.modify receiptId f hf) pools := by
  refine ⟨fun other hother ↦ ?_, fun other hother ↦ ?_, fun hp ↦ ?_, fun hp ↦ ?_, h.budget⟩
  · obtain ⟨old, hold, heq⟩ := exists_account_of_mem_modify f hf haccount hother
    rw [heq]
    exact h.nonneg old hold
  · obtain ⟨old, hold, heq⟩ := exists_account_of_mem_modify f hf haccount hother
    rw [heq]
    exact h.pool old hold
  · rw [poolTotal_modify hf hrow, h.reserved hp, share, share, haccount]
    simp only [hopen, sub_add_cancel]
  · rw [poolTotal_modify hf hrow, h.spent hp, share, share, haccount]
    simp only [hspent, sub_add_cancel]

/-- The clamp of `releaseReservation` does nothing to an open receipt. -/
theorem Balanced.clamp_eq (h : Balanced receipts pools) (hrow : row ∈ receipts.rows)
    (hopen : row.status ∈ openStatuses) {pool : ResourcePool}
    (hpool : pools.get? row.account.resourcePoolId = some pool) :
    max 0 (pool.reservedUsd - row.account.reservedCostUsd)
      = pool.reservedUsd - row.account.reservedCostUsd :=
  max_eq_right (sub_nonneg.mpr (h.le_reserved hrow hopen hpool))

theorem poolTotal_releaseReservation {db : Database}
    (h : db.tables.receipts.get? row.receiptId = some row) (target : ReceiptStatus) (env : Env) :
    poolTotal statuses poolId (releaseReservation db row target env).tables.receipts
      = poolTotal statuses poolId db.tables.receipts - share statuses poolId row
        + share statuses poolId { row with status := target, terminalAt := some env.rowTime } :=
  poolTotal_modify (f := fun row ↦ { row with status := target, terminalAt := some env.rowTime })
    (fun _ ↦ rfl) h

/-- Closing an open receipt. -/
theorem Balanced.releaseReservation (db : Database) (h : Balanced db.tables.receipts db.pools)
    (hrow : db.tables.receipts.get? row.receiptId = some row)
    (hopen : row.status ∈ openStatuses) (target : ReceiptStatus) (htarget : target ∉ openStatuses)
    (env : Env) :
    Balanced (releaseReservation db row target env).tables.receipts
      (releaseReservation db row target env).pools := by
  have hmem : row ∈ db.tables.receipts.rows := (KeyTable.get?_eq_some_iff.mp hrow).1
  have hunspent : row.status ∉ [ReceiptStatus.consumed] := by
    rcases (by simpa [openStatuses] using hopen : row.status = .issued ∨ row.status = .verified)
      with hs | hs <;> rw [hs] <;> decide
  obtain ⟨pool, hpool⟩ := h.pool row hmem
  -- in balanced books the clamp at zero does nothing
  have hclamp := h.clamp_eq hmem hopen hpool
  have hclosed : ∀ id, share openStatuses id
      { row with status := target, terminalAt := some env.rowTime } = 0 :=
    fun id ↦ share_of_notMem htarget
  have hbudget := h.budget hpool
  have hnonneg := h.nonneg row hmem
  refine h.modifyPool (f := fun pool ↦ { pool with
    reservedUsd := max 0 (pool.reservedUsd - row.account.reservedCostUsd)
    spentUsd := pool.spentUsd + if target = .consumed then row.account.reservedCostUsd else 0
    updatedAt := env.rowTime }) (fun _ ↦ rfl) hpool (fun other hother ↦ ?_)
    (fun id hid ↦ ⟨?_, ?_⟩) ?_ ?_ ?_
  · obtain ⟨old, hold, heq⟩ := exists_account_of_mem_modify
      (fun row ↦ { row with status := target, terminalAt := some env.rowTime }) (fun _ ↦ rfl)
      (fun _ ↦ rfl) hother
    rw [heq]
    exact ⟨h.nonneg old hold, h.pool old hold⟩
  · rw [poolTotal_releaseReservation hrow, hclosed, add_zero, share_of_mem hopen, if_neg hid,
      sub_zero]
  · rw [poolTotal_releaseReservation hrow, share_of_notMem hunspent, sub_zero, share,
      if_neg fun hc ↦ hid hc.1.symm, add_zero]
  -- the row leaves the reserved sum, and enters the spent sum if it was consumed
  · show max 0 (pool.reservedUsd - row.account.reservedCostUsd) = _
    rw [hclamp, poolTotal_releaseReservation hrow, hclosed, add_zero, share_of_mem hopen,
      if_pos rfl, h.reserved hpool]
  · show pool.spentUsd + (if target = .consumed then row.account.reservedCostUsd else 0) = _
    rw [poolTotal_releaseReservation hrow, share_of_notMem hunspent, sub_zero, share,
      h.spent hpool]
    simp only [true_and, List.mem_singleton]
  · show max 0 (pool.reservedUsd - row.account.reservedCostUsd) + (pool.spentUsd
      + if target = .consumed then row.account.reservedCostUsd else 0) ≤ pool.budgetUsd
    rw [hclamp]
    split
    · linarith
    · linarith

/-! ## Calls -/

section Calls

variable {F : Type} [FloatAmount F] {P : Platform} {env : Env} {db db' : Database} {reply : Reply}

theorem reservedCost_nonneg (receipt : AdmissionReceiptV1 F) {reserved : ℚ}
    (h : FloatAmount.decimal receipt.reservedCost = some reserved) : 0 ≤ reserved := by
  have hpos : ∀ value ∈ [receipt.predictedCost, receipt.uncertaintyMargin, receipt.rollbackReserve],
      FloatText.ltInt value 0 = false := fun value hvalue ↦ (receipt.numbers value hvalue).2
  refine FloatAmount.decimal_nonneg receipt.reservedCost reserved ?_ h
  rw [AdmissionReceiptV1.reservedCost]
  refine FloatAmount.ltInt_add _ _ (FloatAmount.ltInt_add _ _ ?_ ?_) ?_
  · exact hpos _ (by simp)
  · exact hpos _ (by simp)
  · exact hpos _ (by simp)

theorem balanced_issue {receipt : AdmissionReceiptV1 F}
    (h : issue P receipt env db = .ok (reply, db')) (hdb : Balanced db.tables.receipts db.pools) :
    Balanced db'.tables.receipts db'.pools := by
  simp only [issue, bind_eq_ok_iff] at h
  obtain ⟨bindingHash, -, h⟩ := h
  split at h
  · simp only [bind_eq_ok_iff, pure_eq_ok_iff, Prod.mk.injEq] at h
    obtain ⟨-, -, -, rfl⟩ := h
    exact hdb
  · simp only [bind_eq_ok_iff, orRaise_eq_ok_iff, require_eq_ok_iff, pure_eq_ok_iff,
      Prod.mk.injEq] at h
    obtain ⟨pool, hpool, reserved, hreserved, -, hfits, payloadJson, -, tables₁, hins, tables₂, happ,
      -, rfl⟩ := h
    obtain ⟨event, hev⟩ := appendEvent_eq_ok happ
    obtain ⟨hnew, rfl⟩ := Tables.insertReceipt_eq_ok hins
    have hopened := hdb.openPool ⟨receipt.resourcePoolId, env.defaultBudget, 0, 0, env.rowTime⟩
      rfl rfl env.defaultBudget.2.le
    have hbooked := hopened.reserve hnew rfl hpool (reservedCost_nonneg receipt hreserved) hfits
      env.rowTime
    show Balanced tables₂.receipts _
    rw [hev.receipts]
    exact hbooked

theorem balanced_verify {args : VerifyArgs F} (h : verify P args env db = .ok (reply, db'))
    (hdb : Balanced db.tables.receipts db.pools) : Balanced db'.tables.receipts db'.pools := by
  rw [verify] at h
  split at h
  · obtain ⟨-, rfl⟩ := Prod.mk.inj (Except.ok.inj h)
    exact hdb
  · rename_i row hrow
    simp only [bind_eq_ok_iff] at h
    obtain ⟨payload, -, receipt, -, decision, hdec, h⟩ := h
    split at h
    · obtain ⟨tables₁, happ, h⟩ := bind_eq_ok_iff.mp h
      obtain ⟨event, hev⟩ := appendEvent_eq_ok happ
      -- the event of the refusal leaves receipts and pools alone
      have hdb₁ : Balanced tables₁.receipts db.pools := by
        rw [hev.receipts]
        exact hdb
      split at h
      · rename_i hissued
        obtain ⟨tables₃, happ₂, h⟩ := bind_eq_ok_iff.mp h
        obtain ⟨-, rfl⟩ := Prod.mk.inj (pure_eq_ok_iff.mp h)
        obtain ⟨event₂, hev₂⟩ := appendEvent_eq_ok happ₂
        have hrow₁ : tables₁.receipts.get? row.receiptId = some row := by
          rw [hev.receipts, KeyTable.key_of_get? hrow]
          exact hrow
        have hopen : row.status ∈ openStatuses := by
          rw [hissued]
          decide
        have hclosed := Balanced.releaseReservation ⟨tables₁, db.pools⟩ hdb₁ hrow₁ hopen
          (if decision.expired then .expired else .voided) (by split <;> decide) env
        show Balanced tables₃.receipts _
        rw [hev₂.receipts]
        exact hclosed
      · obtain ⟨-, rfl⟩ := Prod.mk.inj (pure_eq_ok_iff.mp h)
        exact hdb₁
    · rename_i hreason
      obtain ⟨tables₂, happ, h⟩ := bind_eq_ok_iff.mp h
      obtain ⟨-, rfl⟩ := Prod.mk.inj (pure_eq_ok_iff.mp h)
      obtain ⟨event, hev⟩ := appendEvent_eq_ok happ
      have hissued := status_of_evaluateVerification hdec (not_not.mp hreason)
      show Balanced tables₂.receipts _
      rw [hev.receipts]
      have hopen : ReceiptStatus.verified ∈ openStatuses ↔ row.status ∈ openStatuses := by
        rw [hissued]
        decide
      have hspent : ReceiptStatus.verified ∈ [ReceiptStatus.consumed] ↔
          row.status ∈ [ReceiptStatus.consumed] := by
        rw [hissued]
        decide
      exact hdb.modify (fun row ↦ { row with status := .verified }) (fun _ ↦ rfl) (fun _ ↦ rfl)
        hrow hopen hspent

theorem balanced_terminalTransition {receiptId reason : String} {target : ReceiptStatus}
    {eventType : EventType}
    (h : terminalTransition F P receiptId target eventType reason env db = .ok (reply, db'))
    (hdb : Balanced db.tables.receipts db.pools) : Balanced db'.tables.receipts db'.pools := by
  rw [terminalTransition] at h
  split at h
  · exact absurd h (by simp)
  · rename_i row hrow
    simp only [bind_eq_ok_iff, orRaise_eq_ok_iff] at h
    obtain ⟨sources, hsources, h⟩ := h
    have hallowed : sources ⊆ openStatuses ∧ target ∉ openStatuses := by
      cases target with
      | consumed | released | voided =>
        obtain rfl := Option.some.inj hsources
        decide
      | issued | verified | expired => simp [allowed] at hsources
    split at h
    · obtain ⟨-, rfl⟩ := Prod.mk.inj (pure_eq_ok_iff.mp h)
      exact hdb
    · rename_i hs
      simp only [bind_eq_ok_iff, pure_eq_ok_iff, Prod.mk.injEq] at h
      obtain ⟨tables₂, happ, -, rfl⟩ := h
      obtain ⟨event, hev⟩ := appendEvent_eq_ok happ
      have hrow' : db.tables.receipts.get? row.receiptId = some row := by
        rw [KeyTable.key_of_get? hrow]
        exact hrow
      show Balanced tables₂.receipts _
      rw [hev.receipts]
      exact Balanced.releaseReservation db hdb hrow' (hallowed.1 (not_not.mp hs)) target hallowed.2
        env

theorem balanced_recordAttestation {attestation : ExecutionAttestationV1}
    {keys : Option AdmissionReceiptTrustStore} {required : Option Bool}
    (h : recordAttestation F P attestation keys required env db = .ok (reply, db'))
    (hdb : Balanced db.tables.receipts db.pools) : Balanced db'.tables.receipts db'.pools := by
  simp only [recordAttestation, bind_eq_ok_iff, pure_eq_ok_iff, Prod.mk.injEq] at h
  obtain ⟨-, -, row, -, -, -, -, -, attestationHash, -, payloadJson, -, tables₁, hins, tables₂,
    happ, -, rfl⟩ := h
  obtain ⟨event, hev⟩ := appendEvent_eq_ok happ
  obtain ⟨_, rfl⟩ := Tables.insertAttestation_eq_ok hins
  show Balanced tables₂.receipts _
  rw [hev.receipts]
  exact hdb

/-- **One call** keeps the books balanced. -/
theorem balanced_step {call : Call F × Env} (h : step P call db = .ok (reply, db'))
    (hdb : Balanced db.tables.receipts db.pools) : Balanced db'.tables.receipts db'.pools := by
  obtain ⟨call, env⟩ := call
  cases call with
  | issue receipt => exact balanced_issue h hdb
  | verify args => exact balanced_verify h hdb
  | consume receiptId => exact balanced_terminalTransition h hdb
  | release receiptId => exact balanced_terminalTransition h hdb
  | void receiptId reason => exact balanced_terminalTransition h hdb
  | recordAttestation attestation keys required => exact balanced_recordAttestation h hdb

/-! ## Runs -/

/-- A pool nobody has used. -/
def ResourcePool.Unused (pool : ResourcePool) : Prop :=
  pool.reservedUsd = 0 ∧ pool.spentUsd = 0 ∧ 0 ≤ pool.budgetUsd

theorem balanced_initial (h : ∀ pool ∈ pools.rows, pool.Unused) :
    Balanced (Database.initial pools).tables.receipts (Database.initial pools).pools := by
  have hmem : ∀ {poolId pool}, pools.get? poolId = some pool → pool.Unused := fun hpool ↦
    h _ (KeyTable.get?_eq_some_iff.mp hpool).1
  refine ⟨fun row hrow ↦ ?_, fun row hrow ↦ ?_, fun hpool ↦ ?_, fun hpool ↦ ?_, fun hpool ↦ ?_⟩
  · exact absurd hrow List.not_mem_nil
  · exact absurd hrow List.not_mem_nil
  · exact (hmem hpool).1
  · exact (hmem hpool).2.1
  · obtain ⟨hreserved, hspent, hbudget⟩ := hmem hpool
    rwa [hreserved, hspent, add_zero]

/-- **Every run** keeps the books balanced. -/
theorem balanced_reached (hpools : ∀ pool ∈ pools.rows, pool.Unused)
    (calls : List (Call F × Env)) :
    Balanced (reached P pools calls).tables.receipts (reached P pools calls).pools :=
  run_induction (P := fun db : Database ↦ Balanced db.tables.receipts db.pools)
    (C := fun _ ↦ True) (fun _ _ _ _ _ hdb h ↦ balanced_step h hdb)
    (balanced_initial hpools) fun _ _ ↦ trivial

/-- In every reachable database the counters of every pool are the sums over its receipts and stay
within its budget, and closing an open receipt never meets the clamp at zero. -/
theorem pools_balanced (P : Platform) (pools : Pools) (hpools : ∀ pool ∈ pools.rows, pool.Unused)
    (calls : List (Call F × Env)) :
    (∀ poolId pool, (reached P pools calls).pools.get? poolId = some pool →
      pool.reservedUsd
          = poolTotal [.issued, .verified] poolId (reached P pools calls).tables.receipts ∧
        pool.spentUsd = poolTotal [.consumed] poolId (reached P pools calls).tables.receipts ∧
        pool.reservedUsd + pool.spentUsd ≤ pool.budgetUsd) ∧
      ∀ row ∈ (reached P pools calls).tables.receipts.rows,
        row.status = .issued ∨ row.status = .verified →
        ∃ pool, (reached P pools calls).pools.get? row.account.resourcePoolId = some pool ∧
          max 0 (pool.reservedUsd - row.account.reservedCostUsd)
            = pool.reservedUsd - row.account.reservedCostUsd := by
  have hdb := balanced_reached (P := P) hpools calls
  refine ⟨fun poolId pool hpool ↦ ⟨hdb.reserved hpool, hdb.spent hpool, hdb.budget hpool⟩, ?_⟩
  intro row hrow hstatus
  obtain ⟨pool, hpool⟩ := hdb.pool row hrow
  exact ⟨pool, hpool, hdb.clamp_eq hrow (by simpa [openStatuses] using hstatus) hpool⟩

/-- One pool, set up with a budget of ten. -/
def samplePools : Pools := ⟨[⟨"d", 10, 0, 0, "0"⟩], by decide⟩

theorem unused_samplePools : ∀ pool ∈ samplePools.rows, pool.Unused := by
  intro pool hpool
  obtain rfl := List.mem_singleton.mp hpool
  exact ⟨rfl, rfl, by norm_num⟩

/-- After the sample receipt was issued and verified, its amount is reserved. -/
theorem pools_balanced_samplePools :
    (reached samplePlatform samplePools (sampleCalls sampleActual)).pools.get? "d"
        = some ⟨"d", 10, 1, 0, "0"⟩ ∧
      (1 : ℚ) = poolTotal [.issued, .verified] "d"
        (reached samplePlatform samplePools (sampleCalls sampleActual)).tables.receipts := by
  have hpool : (reached samplePlatform samplePools (sampleCalls sampleActual)).pools.get? "d"
      = some ⟨"d", 10, 1, 0, "0"⟩ := by
    decide +kernel
  exact ⟨hpool, ((pools_balanced samplePlatform samplePools unused_samplePools
    (sampleCalls sampleActual)).1 "d" _ hpool).1⟩

end Calls

end DriftGuardX.Admission.PostgresAdmissionReceiptStore
