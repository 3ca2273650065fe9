import DriftGuardX.Foundation.NanOrder
import DriftGuardX.Recovery.Actions

/-!
# Resources of an incident

The budget of the experiments of an incident, what is spent of it, and the reservations that the
planner makes in it. The arithmetic of floats is a parameter.
-/

namespace DriftGuardX.Incident

open Recovery (Raised)

/-- What the orchestrator and its stopping rule do with floats. -/
class PyFloat (F : Type) where
  zero : F
  /-- Equal to `0.0`, so false as a condition. -/
  isZero : F → Bool
  add : F → F → F
  sub : F → F → F
  abs : F → F
  lt : F → F → Bool
  le : F → F → Bool
  sum : List F → F
  /-- `sorted(values, reverse=True)`. -/
  sortDescending : List F → List F
  /-- The text with a number of decimals. -/
  fixed : ℕ → F → String
  text : F → String

/-- Exact arithmetic on whole numbers. -/
instance : PyFloat ℤ where
  zero := 0
  isZero a := a = 0
  add := (· + ·)
  sub := (· - ·)
  abs a := |a|
  lt a b := a < b
  le a b := a ≤ b
  sum := List.sum
  sortDescending values := values.mergeSort fun a b ↦ b ≤ a
  fixed _ a := toString a
  text a := toString a

/-- Exact arithmetic on rationals. -/
instance : PyFloat ℚ where
  zero := 0
  isZero a := a = 0
  add := (· + ·)
  sub := (· - ·)
  abs a := |a|
  lt a b := a < b
  le a b := a ≤ b
  sum := List.sum
  sortDescending values := values.mergeSort fun a b ↦ b ≤ a
  fixed _ a := toString a
  text a := toString a

/-- Floats, of which some are not numbers. -/
class OrderedPyFloat (F : Type) extends PyFloat F where
  isNan : F → Bool
  isNanOrder : IsNanOrder lt le isNan

instance : OrderedPyFloat ℚ where
  isNan _ := false
  isNanOrder := isNanOrder_of_linearOrder

/-- `float(value)`. -/
class ToFloat (V F : Type) where
  toFloat : V → Except Raised F

variable {F : Type} [PyFloat F]

/-- `value or default`. -/
def orDefault (value : Option F) (default : F) : F :=
  (value.filter fun v ↦ !PyFloat.isZero v).getD default

structure ResourceEstimate (F : Type) where
  costUsd : F
  replayCount : ℤ
  wallSeconds : F

structure ResourceMeasurement (F : Type) where
  costUsd : F
  replayCount : ℤ
  wallSeconds : F

/-- The resource context of a reservation: none, the one of the incident, or another one. -/
inductive ReservationContext where
  | absent
  | incident
  | foreign
  deriving DecidableEq, Repr

structure ResourceReservation (F : Type) where
  estimate : ResourceEstimate F
  reservationId : String
  committed : Bool
  released : Bool
  context : ReservationContext

structure ResourceContext (F : Type) where
  budgetUsd : F
  maxWallSeconds : F
  spentUsd : F
  elapsedSeconds : F
  replayCount : ℤ
  reservedUsd : F
  reservedCount : ℤ

namespace ResourceContext

def new (budgetUsd maxWallSeconds : F) : ResourceContext F where
  budgetUsd
  maxWallSeconds
  spentUsd := PyFloat.zero
  elapsedSeconds := PyFloat.zero
  replayCount := 0
  reservedUsd := PyFloat.zero
  reservedCount := 0

/-- `reserve`: an estimate that does not fit into the budget is refused. -/
def reserve (context : ResourceContext F) (estimate : ResourceEstimate F) (reservationId : String) :
    Option (ResourceReservation F) × ResourceContext F :=
  if PyFloat.lt context.budgetUsd
      (PyFloat.add (PyFloat.add context.spentUsd context.reservedUsd) estimate.costUsd) then
    (none, context)
  else
    (some ⟨estimate, reservationId, false, false, .incident⟩,
      { context with
        reservedUsd := PyFloat.add context.reservedUsd estimate.costUsd
        reservedCount := context.reservedCount + estimate.replayCount })

/-- `release`: the reserved amounts are free again. -/
def release (context : ResourceContext F) (reservation : ResourceReservation F) :
    ResourceContext F :=
  { context with
    reservedUsd := PyFloat.sub context.reservedUsd reservation.estimate.costUsd
    reservedCount := context.reservedCount - reservation.estimate.replayCount }

/-- `reconcile`: the reserved amounts are replaced by the measured ones. -/
def reconcile (context : ResourceContext F) (reservation : ResourceReservation F)
    (measurement : ResourceMeasurement F) : ResourceContext F :=
  { context.release reservation with
    spentUsd := PyFloat.add context.spentUsd measurement.costUsd
    replayCount := context.replayCount + measurement.replayCount
    elapsedSeconds := PyFloat.add context.elapsedSeconds measurement.wallSeconds }

def budgetExhausted (context : ResourceContext F) : Bool :=
  PyFloat.le context.budgetUsd (PyFloat.add context.spentUsd context.reservedUsd) ||
    PyFloat.le context.maxWallSeconds context.elapsedSeconds

end ResourceContext

namespace ResourceReservation

/-- A reservation that was neither committed nor released, and has a context. -/
def isOpen (reservation : ResourceReservation F) : Bool :=
  !reservation.committed && !reservation.released && reservation.context ≠ .absent

/-- `commit`: what becomes of the reservation and of the context of the incident. -/
def commit (reservation : ResourceReservation F) (measurement : ResourceMeasurement F)
    (context : ResourceContext F) : ResourceReservation F × ResourceContext F :=
  if reservation.isOpen then
    ({ reservation with committed := true },
      if reservation.context = .incident then context.reconcile reservation measurement
      else context)
  else (reservation, context)

/-- `release`. -/
def release (reservation : ResourceReservation F) (context : ResourceContext F) :
    ResourceReservation F × ResourceContext F :=
  if reservation.isOpen then
    ({ reservation with released := true },
      if reservation.context = .incident then context.release reservation else context)
  else (reservation, context)

end ResourceReservation

end DriftGuardX.Incident
