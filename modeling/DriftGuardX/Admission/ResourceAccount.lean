import DriftGuardX.Incident.Resources
import Mathlib.Algebra.BigOperators.Group.List.Basic
import Mathlib.Algebra.Order.Ring.Rat
import Mathlib.Tactic.Linarith

/-!
# The account of a resource context

A context with the reservations that were made in it and the settlements that reached it. A
reservation is settled by `commit` or `release`, whichever comes first; afterwards both do nothing.
What is reserved is therefore what the unsettled reservations are estimated at, and what is spent is
what was measured in the commitments (`Balanced`). If measurements stay within their estimates, what
is spent and reserved together never grows after a reservation has been let in.
-/

namespace DriftGuardX.Admission

open Incident (PyFloat ResourceContext ResourceReservation ResourceEstimate ResourceMeasurement)

/-- The ways of settling a reservation. -/
inductive SettlementKind where
  | committed (measurement : ResourceMeasurement ℚ)
  | released

/-- A call of `reconcile` or `release` on the context, for the reservation at a position. -/
structure Settlement where
  reservation : ℕ
  kind : SettlementKind

/-- The measurement of a commitment. -/
def Settlement.measurement (settlement : Settlement) : Option (ResourceMeasurement ℚ) :=
  match settlement.kind with
  | .committed measurement => some measurement
  | .released => none

/-- The reservation was neither committed nor released. -/
def Unsettled (reservation : ResourceReservation ℚ) : Prop :=
  reservation.committed = false ∧ reservation.released = false

instance : DecidablePred Unsettled := fun _ ↦ inferInstanceAs (Decidable (_ ∧ _))

/-- A context, the reservations that were made in it, and the settlements that reached it. -/
structure ResourceAccount where
  context : ResourceContext ℚ
  reservations : List (ResourceReservation ℚ)
  settlements : List Settlement

namespace ResourceAccount

def new (budgetUsd maxWallSeconds : ℚ) : ResourceAccount :=
  ⟨.new budgetUsd maxWallSeconds, [], []⟩

/-- `reserve` of the context, with the position of the new reservation. -/
def reserve (account : ResourceAccount) (estimate : ResourceEstimate ℚ) (reservationId : String) :
    Option ℕ × ResourceAccount :=
  match account.context.reserve estimate reservationId with
  | (none, context) => (none, { account with context })
  | (some reservation, context) =>
    (some account.reservations.length,
      { account with context, reservations := account.reservations ++ [reservation] })

/-- `commit` or `release` of a reservation. -/
def settleReservation (reservation : ResourceReservation ℚ) (kind : SettlementKind)
    (context : ResourceContext ℚ) : ResourceReservation ℚ × ResourceContext ℚ :=
  match kind with
  | .committed measurement => reservation.commit measurement context
  | .released => reservation.release context

/-- `commit` or `release` of the reservation at a position. The settlement reaches the context when
the reservation is open. -/
def settle (account : ResourceAccount) (position : ℕ) (kind : SettlementKind) : ResourceAccount :=
  match account.reservations[position]? with
  | none => account
  | some reservation =>
    { context := (settleReservation reservation kind account.context).2
      reservations :=
        account.reservations.set position (settleReservation reservation kind account.context).1
      settlements :=
        if reservation.isOpen then account.settlements ++ [⟨position, kind⟩]
        else account.settlements }

/-- The reservations that are not settled. -/
def unsettled (account : ResourceAccount) : List (ResourceReservation ℚ) :=
  account.reservations.filter Unsettled

/-- The reservation at a position is not settled. -/
def UnsettledAt (account : ResourceAccount) (position : ℕ) : Prop :=
  ∃ reservation, account.reservations[position]? = some reservation ∧ Unsettled reservation

/-- The measurements of the commitments. -/
def measurements (account : ResourceAccount) : List (ResourceMeasurement ℚ) :=
  account.settlements.filterMap Settlement.measurement

/-- The context agrees with the reservations and the settlements. -/
structure Balanced (account : ResourceAccount) : Prop where
  context : ∀ reservation ∈ account.reservations, reservation.context = .incident
  reservedUsd : account.context.reservedUsd
    = (account.unsettled.map fun reservation ↦ reservation.estimate.costUsd).sum
  reservedCount : account.context.reservedCount
    = (account.unsettled.map fun reservation ↦ reservation.estimate.replayCount).sum
  spentUsd : account.context.spentUsd
    = (account.measurements.map fun measurement ↦ measurement.costUsd).sum
  settledOnce : (account.settlements.map Settlement.reservation).Nodup
  settled : ∀ settlement ∈ account.settlements, ∃ reservation,
    account.reservations[settlement.reservation]? = some reservation ∧ ¬ Unsettled reservation
  committed_iff : ∀ position reservation, account.reservations[position]? = some reservation →
    (reservation.committed = true ↔
      ∃ measurement, ⟨position, .committed measurement⟩ ∈ account.settlements)
  released_iff : ∀ position reservation, account.reservations[position]? = some reservation →
    (reservation.released = true ↔ ⟨position, .released⟩ ∈ account.settlements)

/-- Estimates are not negative, and no commitment measures more than was estimated. -/
structure Moderate (account : ResourceAccount) : Prop where
  estimates : ∀ reservation ∈ account.reservations, 0 ≤ reservation.estimate.costUsd
  measured : ∀ settlement ∈ account.settlements, ∀ measurement,
    settlement.kind = .committed measurement → ∀ reservation,
      account.reservations[settlement.reservation]? = some reservation →
        measurement.costUsd ≤ reservation.estimate.costUsd

/-! ## One reservation -/

section Reservation

variable {reservation : ResourceReservation ℚ} {kind : SettlementKind}
  {context : ResourceContext ℚ}

theorem isOpen_iff (h : reservation.context = .incident) :
    reservation.isOpen = true ↔ Unsettled reservation := by
  rw [ResourceReservation.isOpen, h, Unsettled]
  cases reservation.committed <;> cases reservation.released <;> decide

/-- What settling makes of an unsettled reservation. -/
def settledReservation (reservation : ResourceReservation ℚ) :
    SettlementKind → ResourceReservation ℚ
  | .committed _ => { reservation with committed := true }
  | .released => { reservation with released := true }

/-- What settling an unsettled reservation makes of the context. -/
def settledContext (context : ResourceContext ℚ) (reservation : ResourceReservation ℚ) :
    SettlementKind → ResourceContext ℚ
  | .committed measurement => context.reconcile reservation measurement
  | .released => context.release reservation

theorem settleReservation_of_unsettled (hcontext : reservation.context = .incident)
    (h : Unsettled reservation) : settleReservation reservation kind context
      = (settledReservation reservation kind, settledContext context reservation kind) := by
  have hopen := (isOpen_iff hcontext).mpr h
  cases kind with
  | committed measurement =>
    exact (if_pos hopen).trans (congrArg (Prod.mk _) (if_pos hcontext))
  | released => exact (if_pos hopen).trans (congrArg (Prod.mk _) (if_pos hcontext))

theorem settleReservation_of_settled (hcontext : reservation.context = .incident)
    (h : ¬ Unsettled reservation) :
    settleReservation reservation kind context = (reservation, context) := by
  have hclosed : ¬ reservation.isOpen = true := fun hopen ↦ h ((isOpen_iff hcontext).mp hopen)
  cases kind with
  | committed measurement => exact if_neg hclosed
  | released => exact if_neg hclosed

@[simp] theorem estimate_settledReservation :
    (settledReservation reservation kind).estimate = reservation.estimate := by
  cases kind <;> rfl

@[simp] theorem context_settledReservation :
    (settledReservation reservation kind).context = reservation.context := by
  cases kind <;> rfl

theorem not_unsettled_settledReservation (reservation : ResourceReservation ℚ)
    (kind : SettlementKind) : ¬ Unsettled (settledReservation reservation kind) := by
  cases kind with
  | committed measurement => exact fun h ↦ absurd h.1 (by simp [settledReservation])
  | released => exact fun h ↦ absurd h.2 (by simp [settledReservation])

@[simp] theorem reservedUsd_settledContext : (settledContext context reservation kind).reservedUsd
    = context.reservedUsd - reservation.estimate.costUsd := by
  cases kind <;> rfl

@[simp] theorem reservedCount_settledContext :
    (settledContext context reservation kind).reservedCount
      = context.reservedCount - reservation.estimate.replayCount := by
  cases kind <;> rfl

@[simp] theorem budgetUsd_settledContext :
    (settledContext context reservation kind).budgetUsd = context.budgetUsd := by
  cases kind <;> rfl

end Reservation

/-! ## The movements of an account -/

theorem sum_filter_set {R A : Type} [AddCommGroup A] {p : R → Prop} [DecidablePred p] {f : R → A}
    {rows : List R} {position : ℕ} {row row' : R} (hrow : rows[position]? = some row) (h : p row)
    (h' : ¬ p row') :
    (((rows.set position row').filter p).map f).sum = ((rows.filter p).map f).sum - f row := by
  induction rows generalizing position with
  | nil => exact absurd hrow (by simp)
  | cons first rows ih =>
    cases position with
    | zero =>
      obtain rfl : first = row := Option.some.inj hrow
      rw [List.set_cons_zero, List.filter_cons_of_neg (by simpa using h'),
        List.filter_cons_of_pos (by simpa using h), List.map_cons, List.sum_cons, add_sub_cancel_left]
    | succ position =>
      have hrest := ih hrow
      rw [List.set_cons_succ]
      by_cases hfirst : p first
      · rw [List.filter_cons_of_pos (by simpa using hfirst),
          List.filter_cons_of_pos (by simpa using hfirst), List.map_cons, List.map_cons,
          List.sum_cons, List.sum_cons, hrest, add_sub_assoc]
      · rw [List.filter_cons_of_neg (by simpa using hfirst),
          List.filter_cons_of_neg (by simpa using hfirst), hrest]

section Movements

variable {account : ResourceAccount} {estimate : ResourceEstimate ℚ} {reservationId : String}
  {position other : ℕ} {kind : SettlementKind}

/-- A reservation is refused, or it is added and fits into the budget. -/
theorem reserve_cases (account : ResourceAccount) (estimate : ResourceEstimate ℚ)
    (reservationId : String) :
    account.reserve estimate reservationId = (none, account) ∨
      account.context.spentUsd + account.context.reservedUsd + estimate.costUsd
          ≤ account.context.budgetUsd ∧
        account.reserve estimate reservationId = (some account.reservations.length,
          { account with
            context := { account.context with
              reservedUsd := account.context.reservedUsd + estimate.costUsd
              reservedCount := account.context.reservedCount + estimate.replayCount }
            reservations :=
              account.reservations ++ [⟨estimate, reservationId, false, false, .incident⟩] }) := by
  by_cases h : account.context.budgetUsd
      < account.context.spentUsd + account.context.reservedUsd + estimate.costUsd
  · have hrefused : account.context.reserve estimate reservationId = (none, account.context) :=
      if_pos (decide_eq_true h)
    rw [reserve, hrefused]
    exact .inl rfl
  · have hreserved : account.context.reserve estimate reservationId = _ :=
      if_neg (by rw [Bool.not_eq_true]; exact decide_eq_false h)
    rw [reserve, hreserved]
    exact .inr ⟨not_lt.mp h, rfl⟩

/-- A settlement does nothing, or it settles an unsettled reservation. -/
theorem settle_cases
    (hcontext : ∀ reservation ∈ account.reservations, reservation.context = .incident)
    (position : ℕ) (kind : SettlementKind) :
    ¬ account.UnsettledAt position ∧ account.settle position kind = account ∨
      ∃ reservation, account.reservations[position]? = some reservation ∧ Unsettled reservation ∧
        account.settle position kind =
          ⟨settledContext account.context reservation kind,
            account.reservations.set position (settledReservation reservation kind),
            account.settlements ++ [⟨position, kind⟩]⟩ := by
  rw [settle]
  split
  · next hnone =>
    exact .inl ⟨fun ⟨r, hsome, _⟩ ↦ absurd (hnone.symm.trans hsome) (by simp), rfl⟩
  · next reservation hsome =>
    have hincident := hcontext reservation (List.mem_of_getElem? hsome)
    by_cases hunsettled : Unsettled reservation
    · rw [settleReservation_of_unsettled hincident hunsettled,
        if_pos ((isOpen_iff hincident).mpr hunsettled)]
      exact .inr ⟨reservation, hsome, hunsettled, rfl⟩
    · have hclosed : ¬ reservation.isOpen = true :=
        fun hopen ↦ hunsettled ((isOpen_iff hincident).mp hopen)
      have hset : account.reservations.set position reservation = account.reservations := by
        obtain ⟨hlt, hget⟩ := List.getElem?_eq_some_iff.mp hsome
        rw [← hget, List.set_getElem_self hlt]
      rw [settleReservation_of_settled hincident hunsettled, if_neg hclosed, hset]
      refine .inl ⟨?_, rfl⟩
      rintro ⟨r, hr, h⟩
      exact hunsettled (Option.some.inj (hsome.symm.trans hr) ▸ h)

theorem unsettledAt_settle
    (hcontext : ∀ reservation ∈ account.reservations, reservation.context = .incident) :
    (account.settle position kind).UnsettledAt other
      ↔ account.UnsettledAt other ∧ other ≠ position := by
  obtain ⟨hsettled, heq⟩ | ⟨reservation, hsome, hunsettled, heq⟩ :=
    settle_cases hcontext position kind
  · rw [heq]
    exact ⟨fun h ↦ ⟨h, fun hsame ↦ hsettled (hsame ▸ h)⟩, And.left⟩
  · rw [heq, UnsettledAt, UnsettledAt]
    obtain rfl | hne := eq_or_ne other position
    · refine iff_of_false ?_ fun h ↦ h.2 rfl
      rintro ⟨r, hr, h⟩
      rw [List.getElem?_set_self (List.getElem?_eq_some_iff.mp hsome).1, Option.some.injEq] at hr
      exact not_unsettled_settledReservation _ _ (hr ▸ h)
    · rw [List.getElem?_set_ne hne.symm]
      exact ⟨fun h ↦ ⟨h, hne⟩, And.left⟩

theorem length_settle :
    (account.settle position kind).reservations.length = account.reservations.length := by
  rw [settle]
  split
  · rfl
  · exact List.length_set

theorem length_le_reserve : account.reservations.length
    ≤ (account.reserve estimate reservationId).2.reservations.length := by
  obtain heq | ⟨-, heq⟩ := reserve_cases account estimate reservationId
  · rw [heq]
  · rw [heq, List.length_append]
    exact Nat.le_add_right _ _

theorem unsettledAt_reserve (h : position < account.reservations.length) :
    (account.reserve estimate reservationId).2.UnsettledAt position
      ↔ account.UnsettledAt position := by
  obtain heq | ⟨-, heq⟩ := reserve_cases account estimate reservationId
  · rw [heq]
  · rw [heq, UnsettledAt, UnsettledAt, List.getElem?_append_left h]

end Movements

/-! ## Balance -/

section Balance

variable {account : ResourceAccount} {estimate : ResourceEstimate ℚ} {reservationId : String}
  {position : ℕ} {kind : SettlementKind} {budgetUsd maxWallSeconds : ℚ}

theorem balanced_new : (new budgetUsd maxWallSeconds).Balanced where
  context _ h := absurd h List.not_mem_nil
  reservedUsd := rfl
  reservedCount := rfl
  spentUsd := rfl
  settledOnce := List.nodup_nil
  settled _ h := absurd h List.not_mem_nil
  committed_iff position reservation h := absurd h (by simp [new])
  released_iff position reservation h := absurd h (by simp [new])

theorem Balanced.lt_length (h : account.Balanced) {settlement : Settlement}
    (hsettlement : settlement ∈ account.settlements) :
    settlement.reservation < account.reservations.length := by
  obtain ⟨reservation, hsome, -⟩ := h.settled settlement hsettlement
  exact (List.getElem?_eq_some_iff.mp hsome).1

theorem Balanced.notMem_of_unsettled (h : account.Balanced)
    {reservation : ResourceReservation ℚ} (hsome : account.reservations[position]? = some reservation)
    (hunsettled : Unsettled reservation) :
    position ∉ account.settlements.map Settlement.reservation := by
  intro hmem
  obtain ⟨settlement, hsettlement, rfl⟩ := List.mem_map.mp hmem
  obtain ⟨settled, hsettled, hclosed⟩ := h.settled settlement hsettlement
  exact hclosed (Option.some.inj (hsome.symm.trans hsettled) ▸ hunsettled)

theorem measurements_append {settlement : Settlement} :
    (account.settlements ++ [settlement]).filterMap Settlement.measurement
      = account.measurements ++ settlement.measurement.toList := by
  rw [List.filterMap_append, measurements]
  cases hmeasured : settlement.measurement <;> simp [hmeasured]

theorem spentUsd_settledContext {context : ResourceContext ℚ}
    {reservation : ResourceReservation ℚ} :
    (settledContext context reservation kind).spentUsd = context.spentUsd
      + ((Settlement.measurement ⟨position, kind⟩).toList.map
          fun measurement ↦ measurement.costUsd).sum := by
  cases kind with
  | committed measurement =>
    exact congrArg (context.spentUsd + ·) (add_zero measurement.costUsd).symm
  | released => exact (add_zero context.spentUsd).symm

theorem getElem?_concat {R : Type} {rows : List R} {row row' : R}
    (h : (rows ++ [row])[position]? = some row') :
    rows[position]? = some row' ∨ position = rows.length ∧ row' = row := by
  rw [List.getElem?_append] at h
  split_ifs at h with hlt
  · exact .inl h
  · have hposition : position - rows.length = 0 := by
      have := (List.getElem?_eq_some_iff.mp h).1
      simp only [List.length_singleton] at this
      omega
    rw [hposition] at h
    exact .inr ⟨by omega, (Option.some.inj h).symm⟩

theorem Balanced.reserve (h : account.Balanced) :
    (account.reserve estimate reservationId).2.Balanced := by
  obtain heq | ⟨-, heq⟩ := reserve_cases account estimate reservationId
  · rw [heq]
    exact h
  have hunsettled : ∀ added : ResourceReservation ℚ, Unsettled added →
      (account.reservations ++ [added]).filter Unsettled = account.unsettled ++ [added] := by
    intro added hadded
    have hfilter : [added].filter Unsettled = [added] :=
      List.filter_cons_of_pos (decide_eq_true hadded)
    rw [List.filter_append, hfilter, unsettled]
  -- the new reservation is in no settlement
  have hnew : ∀ settlement ∈ account.settlements,
      settlement.reservation ≠ account.reservations.length :=
    fun settlement hmem ↦ (h.lt_length hmem).ne
  rw [heq]
  constructor
  · exact List.forall_mem_append.mpr ⟨h.context, List.forall_mem_singleton.mpr rfl⟩
  · show _ = (((_ : List _).filter _).map _).sum
    rw [hunsettled _ ⟨rfl, rfl⟩, List.map_append, List.sum_append, ← h.reservedUsd]
    exact congrArg (account.context.reservedUsd + ·) (add_zero estimate.costUsd).symm
  · show _ = (((_ : List _).filter _).map _).sum
    rw [hunsettled _ ⟨rfl, rfl⟩, List.map_append, List.sum_append, ← h.reservedCount]
    exact congrArg (account.context.reservedCount + ·) (add_zero estimate.replayCount).symm
  · exact h.spentUsd
  · exact h.settledOnce
  · intro settlement hmem
    obtain ⟨reservation, hsome, hsettled⟩ := h.settled settlement hmem
    exact ⟨reservation, (List.getElem?_append_left (h.lt_length hmem)).trans hsome, hsettled⟩
  · intro position reservation hsome
    obtain hold | ⟨rfl, rfl⟩ := getElem?_concat hsome
    · exact h.committed_iff position reservation hold
    · exact iff_of_false (by simp) fun ⟨measurement, hmem⟩ ↦ hnew _ hmem rfl
  · intro position reservation hsome
    obtain hold | ⟨rfl, rfl⟩ := getElem?_concat hsome
    · exact h.released_iff position reservation hold
    · exact iff_of_false (by simp) fun hmem ↦ hnew _ hmem rfl

theorem committed_settledReservation {reservation : ResourceReservation ℚ}
    (h : Unsettled reservation) : (settledReservation reservation kind).committed = true
      ↔ ∃ measurement, SettlementKind.committed measurement = kind := by
  cases kind with
  | committed measurement => exact iff_of_true rfl ⟨measurement, rfl⟩
  | released => exact iff_of_false (by simp [settledReservation, h.1]) (by simp)

theorem released_settledReservation {reservation : ResourceReservation ℚ}
    (h : Unsettled reservation) : (settledReservation reservation kind).released = true
      ↔ SettlementKind.released = kind := by
  cases kind with
  | committed measurement => exact iff_of_false (by simp [settledReservation, h.2]) (by simp)
  | released => exact iff_of_true rfl rfl

theorem mem_append_settlement_self {settlements : List Settlement} {kind' : SettlementKind}
    (h : position ∉ settlements.map Settlement.reservation) :
    ⟨position, kind'⟩ ∈ settlements ++ [⟨position, kind⟩] ↔ kind' = kind := by
  rw [List.mem_append, List.mem_singleton, Settlement.mk.injEq]
  exact ⟨fun hor ↦ hor.elim (fun hmem ↦ absurd (List.mem_map_of_mem hmem) h) And.right,
    fun heq ↦ .inr ⟨rfl, heq⟩⟩

theorem mem_append_settlement_of_ne {settlements : List Settlement} {other : ℕ}
    {kind' : SettlementKind} (h : other ≠ position) :
    ⟨other, kind'⟩ ∈ settlements ++ [⟨position, kind⟩] ↔ ⟨other, kind'⟩ ∈ settlements := by
  rw [List.mem_append, List.mem_singleton, Settlement.mk.injEq]
  exact or_iff_left fun heq ↦ h heq.1

theorem Balanced.settle (h : account.Balanced) : (account.settle position kind).Balanced := by
  obtain ⟨-, heq⟩ | ⟨reservation, hsome, hunsettled, heq⟩ :=
    settle_cases h.context position kind
  · rw [heq]
    exact h
  have hlt := (List.getElem?_eq_some_iff.mp hsome).1
  have hfresh := h.notMem_of_unsettled hsome hunsettled
  have hclosed := not_unsettled_settledReservation reservation kind
  rw [heq]
  constructor
  · intro r hr
    obtain hr | rfl := List.mem_or_eq_of_mem_set hr
    · exact h.context r hr
    · rw [context_settledReservation]
      exact h.context reservation (List.mem_of_getElem? hsome)
  · show _ = (((_ : List _).filter _).map _).sum
    rw [sum_filter_set hsome hunsettled hclosed, reservedUsd_settledContext, h.reservedUsd]
    rfl
  · show _ = (((_ : List _).filter _).map _).sum
    rw [sum_filter_set hsome hunsettled hclosed, reservedCount_settledContext, h.reservedCount]
    rfl
  · show _ = (((_ : List Settlement).filterMap _).map _).sum
    rw [measurements_append, List.map_append, List.sum_append, ← h.spentUsd]
    exact spentUsd_settledContext
  · rw [List.map_append, List.map_singleton, ← List.concat_eq_append]
    exact List.Nodup.concat hfresh h.settledOnce
  · intro settlement hmem
    obtain hmem | hlast := List.mem_append.mp hmem
    · obtain ⟨r, hr, hsettled⟩ := h.settled settlement hmem
      have hne : position ≠ settlement.reservation :=
        fun hsame ↦ hfresh (hsame ▸ List.mem_map_of_mem hmem)
      exact ⟨r, (List.getElem?_set_ne hne).trans hr, hsettled⟩
    · obtain rfl := List.mem_singleton.mp hlast
      exact ⟨_, List.getElem?_set_self hlt, hclosed⟩
  · intro other r hr
    obtain rfl | hne := eq_or_ne other position
    · rw [List.getElem?_set_self hlt, Option.some.injEq] at hr
      simp only [mem_append_settlement_self hfresh, ← hr, committed_settledReservation hunsettled]
    · rw [List.getElem?_set_ne hne.symm] at hr
      simp only [mem_append_settlement_of_ne hne]
      exact h.committed_iff other r hr
  · intro other r hr
    obtain rfl | hne := eq_or_ne other position
    · rw [List.getElem?_set_self hlt, Option.some.injEq] at hr
      rw [mem_append_settlement_self hfresh, ← hr, released_settledReservation hunsettled]
    · rw [List.getElem?_set_ne hne.symm] at hr
      rw [mem_append_settlement_of_ne hne]
      exact h.released_iff other r hr

/-! ## The budget -/

/-- What is spent and reserved together does not exceed the budget, or zero if that is negative. -/
def WithinBudget (account : ResourceAccount) : Prop :=
  account.context.spentUsd + account.context.reservedUsd ≤ max account.context.budgetUsd 0

theorem withinBudget_new : (new budgetUsd maxWallSeconds).WithinBudget :=
  (add_zero (0 : ℚ)).trans_le (le_max_right budgetUsd 0)

theorem WithinBudget.reserve (h : account.WithinBudget) :
    (account.reserve estimate reservationId).2.WithinBudget := by
  obtain heq | ⟨hfits, heq⟩ := reserve_cases account estimate reservationId
  · rw [heq]
    exact h
  · rw [heq, WithinBudget, ← add_assoc]
    exact hfits.trans (le_max_left _ _)

theorem Moderate.of_reserve (h : (account.reserve estimate reservationId).2.Moderate)
    (hbalanced : account.Balanced) : account.Moderate := by
  obtain heq | ⟨-, heq⟩ := reserve_cases account estimate reservationId
  · rwa [heq] at h
  · rw [heq] at h
    refine ⟨fun r hr ↦ h.estimates r (List.mem_append_left _ hr), ?_⟩
    intro settlement hmem measurement hkind r hr
    refine h.measured settlement hmem measurement hkind r ?_
    exact (List.getElem?_append_left (hbalanced.lt_length hmem)).trans hr

theorem Moderate.of_settle (h : (account.settle position kind).Moderate)
    (hbalanced : account.Balanced) : account.Moderate := by
  obtain ⟨-, heq⟩ | ⟨reservation, hsome, hunsettled, heq⟩ :=
    settle_cases hbalanced.context position kind
  · rwa [heq] at h
  · have hlt := (List.getElem?_eq_some_iff.mp hsome).1
    rw [heq] at h
    constructor
    · intro r hr
      obtain ⟨other, hother⟩ := List.mem_iff_getElem?.mp hr
      obtain rfl | hne := eq_or_ne other position
      · obtain rfl := Option.some.inj (hsome.symm.trans hother)
        have hset := h.estimates _ (List.mem_set hlt _)
        rwa [estimate_settledReservation] at hset
      · exact h.estimates r (List.mem_iff_getElem?.mpr
          ⟨other, (List.getElem?_set_ne hne.symm).trans hother⟩)
    · intro settlement hmem measurement hkind r hr
      have hne : position ≠ settlement.reservation := fun hsame ↦
        hbalanced.notMem_of_unsettled hsome hunsettled (hsame ▸ List.mem_map_of_mem hmem)
      exact h.measured settlement (List.mem_append_left _ hmem) measurement hkind r
        ((List.getElem?_set_ne hne).trans hr)

theorem WithinBudget.settle (h : account.WithinBudget) (hbalanced : account.Balanced)
    (hmoderate : (account.settle position kind).Moderate) :
    (account.settle position kind).WithinBudget := by
  obtain ⟨-, heq⟩ | ⟨reservation, hsome, -, heq⟩ :=
    settle_cases hbalanced.context position kind
  · rw [heq]
    exact h
  · have hlt := (List.getElem?_eq_some_iff.mp hsome).1
    have hestimate := (hmoderate.of_settle hbalanced).estimates reservation
      (List.mem_of_getElem? hsome)
    rw [heq] at hmoderate ⊢
    have hspent : (settledContext account.context reservation kind).spentUsd
        ≤ account.context.spentUsd + reservation.estimate.costUsd := by
      cases kind with
      | committed measurement =>
        have hmeasured := hmoderate.measured ⟨position, .committed measurement⟩
          (List.mem_append_right _ (List.mem_singleton_self _)) measurement rfl _
          (List.getElem?_set_self hlt)
        exact add_le_add_right hmeasured account.context.spentUsd
      | released => exact le_add_of_nonneg_right hestimate
    have hbefore : account.context.spentUsd + account.context.reservedUsd
        ≤ max account.context.budgetUsd 0 := h
    rw [WithinBudget, reservedUsd_settledContext, budgetUsd_settledContext]
    linarith

end Balance

end ResourceAccount

end DriftGuardX.Admission
