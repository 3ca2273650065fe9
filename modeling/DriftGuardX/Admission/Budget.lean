import DriftGuardX.Admission.Receipt
import DriftGuardX.Admission.ResourceAccount
import DriftGuardX.Admission.Tables

/-!
# Receipts and their reservations

A receipt is issued with a reservation in a resource context, and every path that closes it settles
the reservation: `commit`, `release`, `void`, and `verify_binding` when it finds the receipt expired.
The reservation is an object of its own that can be settled without the receipt, after which what the
receipt does to it has no effect.

In every run the books of the context are balanced, each reservation is settled at most once, a
closed receipt holds no reservation, and an open one holds its own unless that was settled
directly (`budgetConserved`).
-/

namespace DriftGuardX.Admission

open Json Transaction
open Incident (ResourceContext ResourceReservation ResourceEstimate ResourceMeasurement)

/-! ## Exact amounts -/

/-- The text of a rational: its numerator and its denominator with a point between them. -/
def ratText (q : ℚ) : List Char := intText q.num ++ '.' :: natText q.den

def ratOfText (cs : List Char) : Option ℚ :=
  match cs.splitOn '.' with
  | [num, den] => do return (← intOfText num) / (← natOfText den)
  | _ => none

theorem point_notMem_intText (i : ℤ) : '.' ∉ intText i := by
  intro hmem
  have hnone := intOfText_eq_none_of_point_mem hmem
  rw [intOfText_intText] at hnone
  exact absurd hnone (by simp)

theorem point_notMem_natText (n : ℕ) : '.' ∉ natText n := by
  intro hmem
  obtain ⟨d, hd, heq⟩ := exists_digit_of_mem_natText hmem
  have hdigit : ∀ d < 10, '.' ≠ digitChar d := by decide
  exact hdigit d hd heq

theorem ratOfText_ratText (q : ℚ) : ratOfText (ratText q) = some q := by
  have hsplit : (ratText q).splitOn '.' = [intText q.num, natText q.den] := by
    rw [ratText, List.splitOn_append_cons_self_of_not_mem (point_notMem_intText q.num),
      List.splitOn_eq_singleton (point_notMem_natText q.den)]
  simp only [ratOfText, hsplit, intOfText_intText, natOfText_natText]
  exact congrArg some (Rat.num_div_den q)

instance : FloatText ℚ where
  repr := ratText
  ofText := ratOfText
  lt p q := decide (p < q)
  ltInt q i := decide (q < i)
  intLt i q := decide ((i : ℚ) < q)
  ofText_repr := ratOfText_ratText
  repr_ne_nil q := by simp [ratText]
  isAtomChar_of_mem_repr q c hc := by
    obtain hmem | hmem := List.mem_append.mp hc
    · exact isAtomChar_of_mem_intText hmem
    · obtain rfl | hmem := List.mem_cons.mp hmem
      · decide
      · obtain ⟨d, hd, rfl⟩ := exists_digit_of_mem_natText hmem
        exact isAtomChar_digitChar hd
  repr_notMem_reserved q h := by
    have hpoint : ∀ w ∈ reserved, '.' ∉ w := by decide
    exact hpoint _ h (by simp [ratText])
  intOfText_repr q := intOfText_eq_none_of_point_mem (by simp [ratText])

instance : FloatAmount ℚ where
  add := (· + ·)
  isFinite _ := true
  decimal := some
  ltInt_add a b ha hb := by
    simp only [FloatText.ltInt, decide_eq_false_iff_not, not_lt] at ha hb ⊢
    exact add_nonneg ha hb
  decimal_nonneg a q ha hq := by
    simp only [FloatText.ltInt, decide_eq_false_iff_not, not_lt] at ha
    obtain rfl := Option.some.inj hq
    exact_mod_cast ha

/-! ## Issuing -/

/-- A time, which may have no time zone. -/
structure Instant where
  time : ℤ
  zoned : Bool
  deriving DecidableEq, Repr

/-- The arguments of `issue`. -/
structure IssueRequest where
  tenantId : String
  manifestHash : String
  traceRootHash : String
  interventionHash : String
  currentVersion : String
  candidateVersion : String
  policyHash : String
  predictedCost : ℚ
  uncertaintyMargin : ℚ
  rollbackReserve : ℚ
  evidenceCeiling : EvidenceClassification
  capsuleHash : String
  expiresAt : Instant
  issuedAt : Option Instant
  workloadId : String
  runId : String
  policyVersion : String
  approvalId : String
  resourcePoolId : String
  issuedBy : String
  receiptId : Option String
  nonce : Option String

/-- A text that is given, or else a fresh one. -/
def givenOr (given : Option String) (fresh : String) : String :=
  (given.filter (· ≠ "")).getD fresh

/-- The construction of a receipt: it checks the dates and the numbers. -/
def IssueRequest.receipt (request : IssueRequest) (now : ℤ) (uuid : ℕ → String) :
    Except Error (AdmissionReceiptV1 ℚ) := do
  let issued := request.issuedAt.getD ⟨now, true⟩
  require issued.zoned (.valueError "Receipt issued_at must be timezone-aware.")
  require request.expiresAt.zoned (.valueError "Receipt expires_at must be timezone-aware.")
  if numbers : ∀ value ∈ [request.predictedCost, request.uncertaintyMargin, request.rollbackReserve],
      FloatAmount.isFinite value = true ∧ FloatText.ltInt value 0 = false then
    if expiry : issued.time < request.expiresAt.time then
      return {
        request with
        issuedAt := issued.time
        expiresAt := request.expiresAt.time
        receiptId := givenOr request.receiptId (uuid 0)
        nonce := givenOr request.nonce (uuid 1)
        keyId := ""
        signatureAlgorithm := ""
        payloadSignature := ""
        numbers
        expiry }
    else .error (.valueError "Receipt expiry must be after issue time.")
  else .error (.valueError "Receipt resource values must be finite and non-negative.")

/-- A receipt with its status, and the position of its reservation. -/
structure HeldReceipt where
  receipt : AdmissionReceiptV1 ℚ
  status : ReceiptStatus
  reservation : Option ℕ

/-- The statuses in which a receipt can be committed or released. -/
def settleable : List ReceiptStatus := [.issued, .verified]

namespace HeldReceipt

/-- `issue`. -/
def issue (request : IssueRequest) (now : ℤ) (uuid : ℕ → String) (account : ResourceAccount) :
    Except Error HeldReceipt × ResourceAccount :=
  match request.receipt now uuid with
  | .error e => (.error e, account)
  | .ok receipt =>
    match account.reserve ⟨receipt.reservedCost, 1, 0⟩ (uuid 2) with
    | (none, account) =>
      (.error (.valueError "Replay admission refused: reservation exceeds available budget."), account)
    | (some position, account) => (.ok ⟨receipt, .issued, some position⟩, account)

/-! ## Closing -/

/-- `mark_verified`. -/
def markVerified (held : HeldReceipt) : Except Error Unit × HeldReceipt :=
  if held.status ≠ .issued then
    (.error (.valueError "Receipt is not available for verification."), held)
  else (.ok (), { held with status := .verified })

/-- `commit`. -/
def commit (held : HeldReceipt) (measurement : ResourceMeasurement ℚ) (account : ResourceAccount) :
    Except Error Unit × HeldReceipt × ResourceAccount :=
  match held.reservation with
  | none => (.error (.valueError "Receipt is not available for commit."), held, account)
  | some position =>
    if held.status ∈ settleable then
      (.ok (), { held with status := .consumed }, account.settle position (.committed measurement))
    else (.error (.valueError "Receipt is not available for commit."), held, account)

/-- `release`. -/
def release (held : HeldReceipt) (account : ResourceAccount) : HeldReceipt × ResourceAccount :=
  match held.reservation with
  | none => (held, account)
  | some position =>
    if held.status ∈ settleable then
      ({ held with status := .released }, account.settle position .released)
    else (held, account)

/-- `void`. -/
def void (held : HeldReceipt) (account : ResourceAccount) : HeldReceipt × ResourceAccount :=
  if held.status = .issued then
    ({ (held.release account).1 with status := .voided }, (held.release account).2)
  else (held, account)

/-- The number that a value is, if it is one. -/
def number : Scalar ℚ → Option ℚ
  | .bool b => some (if b then 1 else 0)
  | .int i => some i
  | .float f => some f
  | _ => none

/-- Equality of values: numbers of different types can be equal. -/
def sameValue (a b : Scalar ℚ) : Bool :=
  match number a, number b with
  | some x, some y => x = y
  | none, none => a = b
  | _, _ => false

/-- The comparison of the given bindings with the payload. -/
def checkBindings (expected : List (String × Scalar ℚ)) :
    List (String × Scalar ℚ) → Bool × String
  | [] => (true, "ok")
  | (key, value) :: actual =>
    match expected.find? fun field ↦ field.1 = key with
    | none => (false, s!"Unknown receipt binding: {key}.")
    | some field =>
      if sameValue value field.2 then checkBindings expected actual
      else (false, s!"Receipt binding mismatch: {key}.")

/-- `verify_binding`, at a time. -/
def verifyBinding (P : Platform) (held : HeldReceipt) (actual : List (String × Scalar ℚ)) (now : ℤ)
    (account : ResourceAccount) : (Bool × String) × HeldReceipt × ResourceAccount :=
  if held.status ≠ .issued then
    ((false, s!"Receipt is {held.status.lower}."), held, account)
  else if held.receipt.expiresAt ≤ now then ((false, "Receipt has expired."), held.void account)
  else (checkBindings (held.receipt.canonicalPayload P) actual, held, account)

end HeldReceipt

/-! ## Runs -/

/-- The context, and the receipts that were issued in it. -/
structure AdmissionWorld where
  account : ResourceAccount
  receipts : List HeldReceipt

/-- A call on the context, on the reservation at a position, or on the receipt at a position. -/
inductive BudgetCall where
  | reserve (estimate : ResourceEstimate ℚ) (reservationId : String)
  | settleReservation (position : ℕ) (kind : SettlementKind)
  | issue (request : IssueRequest) (now : ℤ) (uuid : ℕ → String)
  | markVerified (receipt : ℕ)
  | verifyBinding (receipt : ℕ) (actual : List (String × Scalar ℚ)) (now : ℤ)
  | commit (receipt : ℕ) (measurement : ResourceMeasurement ℚ)
  | release (receipt : ℕ)
  | void (receipt : ℕ)

namespace AdmissionWorld

/-- What a call on a receipt leaves. -/
def onReceipt (w : AdmissionWorld) (position : ℕ)
    (f : HeldReceipt → ResourceAccount → HeldReceipt × ResourceAccount) : AdmissionWorld :=
  match w.receipts[position]? with
  | none => w
  | some held => ⟨(f held w.account).2, w.receipts.set position (f held w.account).1⟩

/-- What a call leaves. -/
def run (P : Platform) (w : AdmissionWorld) : BudgetCall → AdmissionWorld
  | .reserve estimate reservationId =>
    { w with account := (w.account.reserve estimate reservationId).2 }
  | .settleReservation position kind => { w with account := w.account.settle position kind }
  | .issue request now uuid =>
    match HeldReceipt.issue request now uuid w.account with
    | (.error _, account) => { w with account }
    | (.ok held, account) => ⟨account, w.receipts ++ [held]⟩
  | .markVerified receipt => w.onReceipt receipt fun held account ↦ (held.markVerified.2, account)
  | .verifyBinding receipt actual now =>
    w.onReceipt receipt fun held account ↦ (held.verifyBinding P actual now account).2
  | .commit receipt measurement =>
    w.onReceipt receipt fun held account ↦ (held.commit measurement account).2
  | .release receipt => w.onReceipt receipt HeldReceipt.release
  | .void receipt => w.onReceipt receipt HeldReceipt.void

/-- The world after calls, from a new context. -/
def after (P : Platform) (budgetUsd maxWallSeconds : ℚ) (calls : List BudgetCall) :
    AdmissionWorld :=
  calls.foldl (run P) ⟨.new budgetUsd maxWallSeconds, []⟩

end AdmissionWorld

/-! ## What a call does to a receipt -/

/-- A call on a receipt leaves the account and keeps the receipt open or closed, or it settles the
reservation and closes the receipt. -/
inductive ReceiptEffect (held : HeldReceipt) (account : ResourceAccount) :
    HeldReceipt × ResourceAccount → Prop where
  | kept (status : ReceiptStatus) (h : status ∈ settleable ↔ held.status ∈ settleable) :
    ReceiptEffect held account ({ held with status }, account)
  | closed (status : ReceiptStatus) (position : ℕ) (kind : SettlementKind)
    (hreservation : held.reservation = some position) (h : status ∉ settleable) :
    ReceiptEffect held account ({ held with status }, account.settle position kind)

namespace ReceiptEffect

variable {held : HeldReceipt} {account : ResourceAccount} {position : ℕ}

theorem refl : ReceiptEffect held account (held, account) := .kept held.status Iff.rfl

theorem markVerified : ReceiptEffect held account (held.markVerified.2, account) := by
  rw [HeldReceipt.markVerified]
  split_ifs with h
  · exact refl
  · exact .kept .verified (iff_of_true (by decide) (not_not.mp h ▸ by decide))

theorem commit {measurement : ResourceMeasurement ℚ} (h : held.reservation = some position) :
    ReceiptEffect held account (held.commit measurement account).2 := by
  obtain ⟨receipt, status, reservation⟩ := held
  obtain rfl : reservation = some position := h
  rw [HeldReceipt.commit]
  dsimp only
  split_ifs
  · exact .closed .consumed position _ rfl (by decide)
  · exact refl

theorem release (h : held.reservation = some position) :
    ReceiptEffect held account (held.release account) := by
  obtain ⟨receipt, status, reservation⟩ := held
  obtain rfl : reservation = some position := h
  rw [HeldReceipt.release]
  dsimp only
  split_ifs
  · exact .closed .released position _ rfl (by decide)
  · exact refl

theorem void (h : held.reservation = some position) :
    ReceiptEffect held account (held.void account) := by
  obtain ⟨receipt, status, reservation⟩ := held
  obtain rfl : reservation = some position := h
  rw [HeldReceipt.void]
  split_ifs with hissued
  · have hopen : status ∈ settleable := List.mem_cons.mpr (.inl hissued)
    rw [HeldReceipt.release]
    dsimp only
    rw [if_pos hopen]
    exact .closed .voided position .released rfl (by decide)
  · exact refl

theorem verifyBinding {P : Platform} {actual : List (String × Scalar ℚ)} {now : ℤ}
    (h : held.reservation = some position) :
    ReceiptEffect held account (held.verifyBinding P actual now account).2 := by
  rw [HeldReceipt.verifyBinding]
  split_ifs
  · exact refl
  · exact void h
  · exact refl

end ReceiptEffect

/-! ## What a call does -/

/-- A call does nothing, reserves, settles a reservation directly, adds a receipt with a reservation
of its own, or acts on a receipt. -/
inductive CallEffect (w : AdmissionWorld) : BudgetCall → AdmissionWorld → Prop where
  | nothing (call : BudgetCall) : CallEffect w call w
  | reserved (call : BudgetCall) (estimate : ResourceEstimate ℚ) (reservationId : String) :
    CallEffect w call { w with account := (w.account.reserve estimate reservationId).2 }
  | settled (position : ℕ) (kind : SettlementKind) :
    CallEffect w (.settleReservation position kind)
      { w with account := w.account.settle position kind }
  | issued (call : BudgetCall) (receipt : AdmissionReceiptV1 ℚ) (estimate : ResourceEstimate ℚ)
    (reservationId : String) (added : ℕ) (account : ResourceAccount)
    (h : w.account.reserve estimate reservationId = (some added, account)) :
    CallEffect w call ⟨account, w.receipts ++ [⟨receipt, .issued, some added⟩]⟩
  | onReceipt (call : BudgetCall) (position : ℕ) (held : HeldReceipt)
    (result : HeldReceipt × ResourceAccount) (hheld : w.receipts[position]? = some held)
    (h : ReceiptEffect held w.account result) :
    CallEffect w call ⟨result.2, w.receipts.set position result.1⟩

namespace CallEffect

variable {P : Platform} {w : AdmissionWorld} {call : BudgetCall} {position : ℕ}

theorem of_onReceipt {f : HeldReceipt → ResourceAccount → HeldReceipt × ResourceAccount}
    (hreserved : ∀ held ∈ w.receipts, ∃ own, held.reservation = some own)
    (h : ∀ held own, held.reservation = some own →
      ReceiptEffect held w.account (f held w.account)) :
    CallEffect w call (w.onReceipt position f) := by
  rw [AdmissionWorld.onReceipt]
  split
  · exact .nothing call
  · next held hheld =>
    obtain ⟨own, hown⟩ := hreserved held (List.mem_of_getElem? hheld)
    exact .onReceipt call position held _ hheld (h held own hown)

theorem of_issue {request : IssueRequest} {now : ℤ} {uuid : ℕ → String} :
    CallEffect w call (w.run P (.issue request now uuid)) := by
  rw [AdmissionWorld.run, HeldReceipt.issue]
  cases request.receipt now uuid with
  | error e => exact .nothing call
  | ok receipt =>
    have hreserved : CallEffect w call _ := .reserved call ⟨receipt.reservedCost, 1, 0⟩ (uuid 2)
    cases hreserve : w.account.reserve ⟨receipt.reservedCost, 1, 0⟩ (uuid 2) with
    | mk added account =>
      rw [hreserve] at hreserved
      cases added with
      | none => simpa only [hreserve] using hreserved
      | some added =>
        have hissued := issued call receipt _ _ added account hreserve
        simpa only [hreserve] using hissued

theorem run (hreserved : ∀ held ∈ w.receipts, ∃ own, held.reservation = some own) :
    CallEffect w call (w.run P call) := by
  cases call with
  | reserve estimate reservationId => exact .reserved _ estimate reservationId
  | settleReservation position kind => exact .settled position kind
  | issue request now uuid => exact of_issue
  | markVerified receipt =>
    exact of_onReceipt hreserved fun _ _ _ ↦ ReceiptEffect.markVerified
  | verifyBinding receipt actual now =>
    rw [AdmissionWorld.run]
    refine of_onReceipt hreserved ?_
    exact fun _ _ hown ↦ ReceiptEffect.verifyBinding hown
  | commit receipt measurement =>
    rw [AdmissionWorld.run]
    refine of_onReceipt hreserved ?_
    exact fun _ _ hown ↦ ReceiptEffect.commit hown
  | release receipt => exact of_onReceipt hreserved fun _ _ hown ↦ ReceiptEffect.release hown
  | void receipt => exact of_onReceipt hreserved fun _ _ hown ↦ ReceiptEffect.void hown

end CallEffect

/-! ## Conservation -/

/-- The reservation at a position is settled by a call on the reservation itself. -/
def SettledDirectly (calls : List BudgetCall) (position : ℕ) : Prop :=
  ∃ kind, .settleReservation position kind ∈ calls

/-- Receipts have reservations of their own. One whose reservation is not settled is open, and an
open one has it unsettled unless it was settled directly. -/
structure Kept (calls : List BudgetCall) (w : AdmissionWorld) : Prop where
  balanced : w.account.Balanced
  reserved : ∀ held ∈ w.receipts, ∃ position, held.reservation = some position ∧
    position < w.account.reservations.length
  distinct : (w.receipts.map HeldReceipt.reservation).Nodup
  settleable_of_unsettled : ∀ held ∈ w.receipts, ∀ position, held.reservation = some position →
    w.account.UnsettledAt position → held.status ∈ settleable
  unsettled_of_settleable : ∀ held ∈ w.receipts, ∀ position, held.reservation = some position →
    held.status ∈ settleable → ¬ SettledDirectly calls position → w.account.UnsettledAt position

section Steps

variable {P : Platform} {w : AdmissionWorld} {calls : List BudgetCall} {call : BudgetCall}
  {account : ResourceAccount} {estimate : ResourceEstimate ℚ} {reservationId : String}
  {position : ℕ} {kind : SettlementKind}

theorem Kept.concat (h : Kept calls w) : Kept (calls ++ [call]) w :=
  { h with
    unsettled_of_settleable := fun held hmem position hreservation hopen hdirect ↦
      h.unsettled_of_settleable held hmem position hreservation hopen
        fun ⟨kind, hcall⟩ ↦ hdirect ⟨kind, List.mem_append_left _ hcall⟩ }

theorem Kept.reserve (h : Kept calls w) :
    Kept calls { w with account := (w.account.reserve estimate reservationId).2 } where
  balanced := h.balanced.reserve
  reserved held hmem := by
    obtain ⟨position, hreservation, hlt⟩ := h.reserved held hmem
    exact ⟨position, hreservation, hlt.trans_le ResourceAccount.length_le_reserve⟩
  distinct := h.distinct
  settleable_of_unsettled held hmem position hreservation hunsettled := by
    obtain ⟨own, hown, hlt⟩ := h.reserved held hmem
    obtain rfl := Option.some.inj (hown.symm.trans hreservation)
    exact h.settleable_of_unsettled held hmem own hown ((ResourceAccount.unsettledAt_reserve hlt).mp hunsettled)
  unsettled_of_settleable held hmem position hreservation hopen hdirect := by
    obtain ⟨own, hown, hlt⟩ := h.reserved held hmem
    obtain rfl := Option.some.inj (hown.symm.trans hreservation)
    exact (ResourceAccount.unsettledAt_reserve hlt).mpr
      (h.unsettled_of_settleable held hmem own hown hopen hdirect)

theorem Kept.settleReservation (h : Kept calls w) :
    Kept (calls ++ [.settleReservation position kind])
      { w with account := w.account.settle position kind } where
  balanced := h.balanced.settle
  reserved held hmem := by
    obtain ⟨own, hown, hlt⟩ := h.reserved held hmem
    exact ⟨own, hown, hlt.trans_eq ResourceAccount.length_settle.symm⟩
  distinct := h.distinct
  settleable_of_unsettled held hmem own hown hunsettled :=
    h.settleable_of_unsettled held hmem own hown
      ((ResourceAccount.unsettledAt_settle h.balanced.context).mp hunsettled).1
  unsettled_of_settleable held hmem own hown hopen hdirect := by
    refine (ResourceAccount.unsettledAt_settle h.balanced.context).mpr ⟨?_, ?_⟩
    · exact h.concat.unsettled_of_settleable held hmem own hown hopen hdirect
    · rintro rfl
      exact hdirect ⟨kind, List.mem_concat_self⟩

theorem Kept.issue {receipt : AdmissionReceiptV1 ℚ} {added : ℕ} (h : Kept calls w)
    (hreserve : w.account.reserve estimate reservationId = (some added, account)) :
    Kept calls ⟨account, w.receipts ++ [⟨receipt, .issued, some added⟩]⟩ := by
  have hafter : account = (w.account.reserve estimate reservationId).2 := by rw [hreserve]
  have hkept : Kept calls { w with account := (w.account.reserve estimate reservationId).2 } :=
    h.reserve
  rw [← hafter] at hkept
  obtain hrefused | ⟨-, hadded⟩ :=
    ResourceAccount.reserve_cases w.account estimate reservationId
  · exact absurd (hrefused.symm.trans hreserve) (by simp)
  obtain ⟨hposition, haccount⟩ := Prod.mk.inj (hreserve.symm.trans hadded)
  obtain rfl := Option.some.inj hposition
  have hunsettled : account.UnsettledAt w.account.reservations.length := by
    rw [haccount]
    exact ⟨_, List.getElem?_concat_length, rfl, rfl⟩
  constructor
  · exact hkept.balanced
  · refine List.forall_mem_append.mpr ⟨hkept.reserved, List.forall_mem_singleton.mpr ⟨_, rfl, ?_⟩⟩
    obtain ⟨reservation, hsome, -⟩ := hunsettled
    exact (List.getElem?_eq_some_iff.mp hsome).1
  · rw [List.map_append, List.map_singleton, ← List.concat_eq_append]
    refine List.Nodup.concat (fun hmem ↦ ?_) h.distinct
    obtain ⟨held, hheld, heq⟩ := List.mem_map.mp hmem
    obtain ⟨position, hreservation, hlt⟩ := h.reserved held hheld
    exact hlt.ne (Option.some.inj (hreservation.symm.trans heq))
  · refine List.forall_mem_append.mpr ⟨hkept.settleable_of_unsettled, ?_⟩
    exact List.forall_mem_singleton.mpr fun _ _ _ ↦ List.mem_cons_self
  · refine List.forall_mem_append.mpr ⟨hkept.unsettled_of_settleable, ?_⟩
    refine List.forall_mem_singleton.mpr fun position hreservation _ _ ↦ ?_
    exact Option.some.inj hreservation ▸ hunsettled

theorem mem_set_cases {R : Type} {rows : List R} {row other : R}
    (h : other ∈ rows.set position row) :
    other = row ∨ ∃ place ≠ position, rows[place]? = some other := by
  obtain ⟨place, hplace⟩ := List.mem_iff_getElem?.mp h
  obtain rfl | hne := eq_or_ne place position
  · have hlt := (List.getElem?_eq_some_iff.mp hplace).1
    rw [List.length_set] at hlt
    rw [List.getElem?_set_self hlt] at hplace
    exact .inl (Option.some.inj hplace).symm
  · exact .inr ⟨place, hne, (List.getElem?_set_ne hne.symm).symm.trans hplace⟩

theorem Kept.reservation_ne {place : ℕ} {held other : HeldReceipt} (h : Kept calls w)
    (hheld : w.receipts[position]? = some held) (hother : w.receipts[place]? = some other)
    (hne : place ≠ position) : other.reservation ≠ held.reservation := by
  intro hsame
  have hlt := (List.getElem?_eq_some_iff.mp hother).1
  refine hne ((List.getElem?_inj (by rwa [List.length_map]) h.distinct).mp ?_)
  rw [List.getElem?_map, List.getElem?_map, hother, hheld, Option.map_some, Option.map_some, hsame]

theorem Kept.map_reservation_set {held : HeldReceipt} {status : ReceiptStatus} (h : Kept calls w)
    (hheld : w.receipts[position]? = some held) :
    ((w.receipts.set position { held with status }).map HeldReceipt.reservation).Nodup := by
  obtain ⟨hlt, hget⟩ := List.getElem?_eq_some_iff.mp hheld
  have hlength : position < (w.receipts.map HeldReceipt.reservation).length := by
    rwa [List.length_map]
  have hsame : held.reservation = (w.receipts.map HeldReceipt.reservation)[position] := by
    rw [List.getElem_map, hget]
  rw [List.map_set, hsame, List.set_getElem_self]
  exact h.distinct

theorem Kept.effect {held : HeldReceipt} {result : HeldReceipt × ResourceAccount}
    (h : Kept calls w) (hheld : w.receipts[position]? = some held)
    (heffect : ReceiptEffect held w.account result) :
    Kept calls ⟨result.2, w.receipts.set position result.1⟩ := by
  have hmem := List.mem_of_getElem? hheld
  obtain ⟨own, hown, hlt⟩ := h.reserved held hmem
  cases heffect with
  | kept status hstatus =>
    refine ⟨h.balanced, ?_, h.map_reservation_set hheld, ?_, ?_⟩
    · intro other hother
      obtain hold | rfl := List.mem_or_eq_of_mem_set hother
      · exact h.reserved other hold
      · exact ⟨own, hown, hlt⟩
    · intro other hother p hp hunsettled
      obtain hold | rfl := List.mem_or_eq_of_mem_set hother
      · exact h.settleable_of_unsettled other hold p hp hunsettled
      · exact hstatus.mpr (h.settleable_of_unsettled held hmem p hp hunsettled)
    · intro other hother p hp hopen hdirect
      obtain hold | rfl := List.mem_or_eq_of_mem_set hother
      · exact h.unsettled_of_settleable other hold p hp hopen hdirect
      · exact h.unsettled_of_settleable held hmem p hp (hstatus.mp hopen) hdirect
  | closed status settled kind hreservation hclosed =>
    obtain rfl := Option.some.inj (hown.symm.trans hreservation)
    refine ⟨h.balanced.settle, ?_, h.map_reservation_set hheld, ?_, ?_⟩
    · intro other hother
      rw [ResourceAccount.length_settle]
      obtain hold | rfl := List.mem_or_eq_of_mem_set hother
      · exact h.reserved other hold
      · exact ⟨own, hown, hlt⟩
    · intro other hother p hp hunsettled
      obtain ⟨hbefore, hne⟩ := (ResourceAccount.unsettledAt_settle h.balanced.context).mp hunsettled
      obtain hold | rfl := List.mem_or_eq_of_mem_set hother
      · exact h.settleable_of_unsettled other hold p hp hbefore
      · exact absurd (Option.some.inj (hp.symm.trans hown)) hne
    · intro other hother p hp hopen hdirect
      obtain rfl | ⟨place, hplace, hold⟩ := mem_set_cases hother
      · exact absurd hopen hclosed
      · refine (ResourceAccount.unsettledAt_settle h.balanced.context).mpr ⟨?_, ?_⟩
        · exact h.unsettled_of_settleable other (List.mem_of_getElem? hold) p hp hopen hdirect
        · rintro rfl
          exact h.reservation_ne hheld hold hplace (hp.trans hown.symm)

theorem Kept.ofEffect {w' : AdmissionWorld} (h : Kept calls w) (heffect : CallEffect w call w') :
    Kept (calls ++ [call]) w' := by
  cases heffect with
  | nothing => exact h.concat
  | reserved => exact h.concat.reserve
  | settled => exact h.settleReservation
  | issued _ _ _ _ _ _ hreserve => exact h.concat.issue hreserve
  | onReceipt _ _ _ _ hheld heffect => exact h.concat.effect hheld heffect

theorem Kept.callEffect (h : Kept calls w) : CallEffect w call (w.run P call) := by
  refine CallEffect.run fun held hmem ↦ ?_
  obtain ⟨own, hown, -⟩ := h.reserved held hmem
  exact ⟨own, hown⟩

/-- A moderate account was moderate before the call, and stays within the budget if it was. -/
theorem CallEffect.withinBudget {w' : AdmissionWorld} (heffect : CallEffect w call w')
    (h : w.account.Balanced) (hmoderate : w'.account.Moderate) :
    w.account.Moderate ∧ (w.account.WithinBudget → w'.account.WithinBudget) := by
  have hreserve : ∀ {estimate reservationId},
      (w.account.reserve estimate reservationId).2.Moderate → w.account.Moderate ∧
        (w.account.WithinBudget →
          (w.account.reserve estimate reservationId).2.WithinBudget) :=
    fun hmoderate ↦ ⟨hmoderate.of_reserve h, fun hwithin ↦ hwithin.reserve⟩
  have hsettle : ∀ {position kind}, (w.account.settle position kind).Moderate →
      w.account.Moderate ∧
        (w.account.WithinBudget → (w.account.settle position kind).WithinBudget) :=
    fun hmoderate ↦ ⟨hmoderate.of_settle h, fun hwithin ↦ hwithin.settle h hmoderate⟩
  cases heffect with
  | nothing => exact ⟨hmoderate, id⟩
  | reserved => exact hreserve hmoderate
  | settled => exact hsettle hmoderate
  | issued _ _ estimate reservationId _ account hissued =>
    have hafter : account = (w.account.reserve estimate reservationId).2 := by rw [hissued]
    dsimp only at hmoderate ⊢
    rw [hafter] at hmoderate ⊢
    exact hreserve hmoderate
  | onReceipt _ _ _ _ _ heffect =>
    cases heffect with
    | kept => exact ⟨hmoderate, id⟩
    | closed => exact hsettle hmoderate

end Steps

/-! ## Every run -/

section Runs

variable {P : Platform} {budgetUsd maxWallSeconds : ℚ} {calls : List BudgetCall} {call : BudgetCall}
  {w : AdmissionWorld}

open AdmissionWorld (after)

theorem after_concat :
    after P budgetUsd maxWallSeconds (calls ++ [call])
      = (after P budgetUsd maxWallSeconds calls).run P call :=
  List.foldl_concat _ _ _ _

theorem kept_after : Kept calls (after P budgetUsd maxWallSeconds calls) := by
  induction calls using List.reverseRecOn with
  | nil =>
    refine ⟨ResourceAccount.balanced_new, ?_, List.nodup_nil, ?_, ?_⟩
    all_goals exact fun held hmem ↦ absurd hmem List.not_mem_nil
  | append_singleton calls call ih =>
    rw [after_concat]
    exact ih.ofEffect ih.callEffect

/-- What is promised of a context and its receipts after calls. -/
structure BudgetConserved (P : Platform) (budgetUsd maxWallSeconds : ℚ) (calls : List BudgetCall) :
    Prop where
  balanced : (after P budgetUsd maxWallSeconds calls).account.Balanced
  receipts : ∀ held ∈ (after P budgetUsd maxWallSeconds calls).receipts,
    ∃ position, held.reservation = some position ∧
      ((after P budgetUsd maxWallSeconds calls).account.UnsettledAt position →
        held.status ∈ settleable) ∧
      (held.status ∈ settleable → ¬ SettledDirectly calls position →
        (after P budgetUsd maxWallSeconds calls).account.UnsettledAt position)
  withinBudget : (after P budgetUsd maxWallSeconds calls).account.Moderate →
    (after P budgetUsd maxWallSeconds calls).account.WithinBudget

theorem withinBudget_after (h : (after P budgetUsd maxWallSeconds calls).account.Moderate) :
    (after P budgetUsd maxWallSeconds calls).account.WithinBudget := by
  induction calls using List.reverseRecOn with
  | nil => exact ResourceAccount.withinBudget_new
  | append_singleton calls call ih =>
    have hkept : Kept calls (after P budgetUsd maxWallSeconds calls) := kept_after
    rw [after_concat] at h ⊢
    obtain ⟨hbefore, hwithin⟩ := hkept.callEffect.withinBudget hkept.balanced h
    exact hwithin (ih hbefore)

/-- In every run the context and its receipts keep what is promised. -/
theorem budgetConserved (P : Platform) (budgetUsd maxWallSeconds : ℚ) (calls : List BudgetCall) :
    BudgetConserved P budgetUsd maxWallSeconds calls := by
  have hkept : Kept calls (after P budgetUsd maxWallSeconds calls) := kept_after
  refine ⟨hkept.balanced, fun held hmem ↦ ?_, withinBudget_after⟩
  obtain ⟨position, hreservation, -⟩ := hkept.reserved held hmem
  exact ⟨position, hreservation, hkept.settleable_of_unsettled held hmem position hreservation,
    hkept.unsettled_of_settleable held hmem position hreservation⟩

def unitRequest : IssueRequest where
  tenantId := "t"
  manifestHash := ""
  traceRootHash := ""
  interventionHash := ""
  currentVersion := ""
  candidateVersion := ""
  policyHash := ""
  predictedCost := 1
  uncertaintyMargin := 0
  rollbackReserve := 0
  evidenceCeiling := .unverified
  capsuleHash := ""
  expiresAt := ⟨1, true⟩
  issuedAt := none
  workloadId := ""
  runId := ""
  policyVersion := ""
  approvalId := ""
  resourcePoolId := "default"
  issuedBy := ""
  receiptId := none
  nonce := none

/-- A receipt is issued, and its reservation is released without it. -/
def releasedDirectly : List BudgetCall :=
  [.issue unitRequest 0 fun _ ↦ "id", .settleReservation 0 .released]

theorem receipts_releasedDirectly : (after samplePlatform 10 300 releasedDirectly).receipts.map
    (fun held ↦ (held.reservation, held.status)) = [(some 0, .issued)] := by decide +kernel

theorem reservations_releasedDirectly :
    (after samplePlatform 10 300 releasedDirectly).account.reservations.map
      ResourceReservation.released = [true] := by decide +kernel

/-- A budget below zero is exceeded from the start, and a receipt stays issued when its reservation is
settled without it. -/
theorem not_conserved_releasedDirectly :
    ((after samplePlatform (-1) 0 []).account.Moderate ∧
        ¬ (after samplePlatform (-1) 0 []).account.context.spentUsd
            + (after samplePlatform (-1) 0 []).account.context.reservedUsd
          ≤ (after samplePlatform (-1) 0 []).account.context.budgetUsd) ∧
      ∃ held ∈ (after samplePlatform 10 300 releasedDirectly).receipts,
        held.reservation = some 0 ∧ held.status = .issued ∧
          ¬ (after samplePlatform 10 300 releasedDirectly).account.UnsettledAt 0 := by
  refine ⟨⟨⟨fun _ hmem ↦ absurd hmem List.not_mem_nil, fun _ hmem ↦ absurd hmem List.not_mem_nil⟩,
    by decide +kernel⟩, ?_⟩
  have hreceipt : (some 0, ReceiptStatus.issued) ∈
      (after samplePlatform 10 300 releasedDirectly).receipts.map
        fun held ↦ (held.reservation, held.status) := by
    rw [receipts_releasedDirectly]
    exact List.mem_singleton_self _
  obtain ⟨held, hmem, heq⟩ := List.mem_map.mp hreceipt
  refine ⟨held, hmem, (Prod.mk.inj heq).1, (Prod.mk.inj heq).2, ?_⟩
  rintro ⟨reservation, hsome, -, hunreleased⟩
  have hreleased : reservation.released ∈
      (after samplePlatform 10 300 releasedDirectly).account.reservations.map
        ResourceReservation.released := List.mem_map_of_mem (List.mem_of_getElem? hsome)
  rw [reservations_releasedDirectly, hunreleased] at hreleased
  exact absurd hreleased (by decide)

end Runs

end DriftGuardX.Admission
