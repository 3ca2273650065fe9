import DriftGuardX.Foundation.KeyTable
import DriftGuardX.Foundation.Program
import Mathlib.Algebra.Order.Ring.Int
import Mathlib.Data.List.Dedup

/-!
# The approval service

Requests for approval, the decisions on them and the audit log. A request that has run out of time
expires when it is next looked at, or when all stale requests are expired; most operations refuse a
request that is decided, and `breakGlass` does not ask.
-/

namespace DriftGuardX.Policy

inductive ApprovalStatus where
  | pending
  | approved
  | denied
  | expired
  | breakGlass
  deriving DecidableEq, Repr

def ApprovalStatus.value : ApprovalStatus → String
  | pending => "pending"
  | approved => "approved"
  | denied => "denied"
  | expired => "expired"
  | breakGlass => "break_glass"

structure ApprovalDecision where
  requestId : String
  actorId : String
  decision : ApprovalStatus
  comment : String
  decidedAt : ℤ
  isBreakGlass : Bool
  breakGlassJustification : Option String
  deriving DecidableEq, Repr

/-- A request. Times are microseconds. -/
structure ApprovalRequest where
  action : String
  resource : String
  requesterId : String
  tenantId : String
  nodeId : String
  riskTier : String
  requiredApprovers : ℤ
  twoPersonControl : Bool
  requestId : String
  status : ApprovalStatus
  expiresAt : ℤ
  delegatedApprovers : List String
  approvals : List ApprovalDecision
  deriving DecidableEq, Repr

/-- The events of the audit log. -/
inductive AuditKind where
  | created
  | approved
  | statusApproved
  | denied
  | breakGlass
  | expired
  deriving DecidableEq, Repr

structure AuditEntry where
  requestId : String
  event : AuditKind
  actorId : String
  detail : String
  timestamp : ℤ
  requiresPostHocReview : Bool
  deriving DecidableEq, Repr

/-- The requests in the order of their creation, and the audit log. -/
structure ApprovalService where
  requests : KeyTable ApprovalRequest.requestId
  auditLog : List AuditEntry

inductive ApprovalErrorKind where
  | valueError
  | selfApprovalError
  | approvalExpiredError
  | unauthorizedApproverError
  deriving DecidableEq, Repr

structure ApprovalError where
  kind : ApprovalErrorKind
  message : String
  deriving DecidableEq, Repr

namespace ApprovalService

open ApprovalStatus

def empty : ApprovalService := ⟨.empty, []⟩

def getRequest (svc : ApprovalService) (requestId : String) : Option ApprovalRequest :=
  svc.requests.get? requestId

/-- `_requests[request.request_id] = request`, and a change of a stored request. -/
def put (svc : ApprovalService) (req : ApprovalRequest) : ApprovalService :=
  { svc with requests := svc.requests.put req }

/-- `_audit`. -/
def audit (svc : ApprovalService) (now : ℤ) (requestId : String) (event : AuditKind)
    (actorId detail : String) : ApprovalService :=
  { svc with auditLog := svc.auditLog ++
      [⟨requestId, event, actorId, detail, now, event = .breakGlass⟩] }

def createRequest (now : ℤ) (request : ApprovalRequest) :
    Program ApprovalService ApprovalError ApprovalRequest := do
  .modify fun svc ↦ (svc.put request).audit now request.requestId .created request.requesterId
    s!"Action={request.action} Tier={request.riskTier}"
  return request

variable (repr : String → String)

/-- `req.status == PENDING and req.expires_at < now`. -/
def Stale (now : ℤ) (req : ApprovalRequest) : Prop :=
  req.status = pending ∧ req.expiresAt < now

instance (now : ℤ) (req : ApprovalRequest) : Decidable (Stale now req) :=
  inferInstanceAs (Decidable (_ ∧ _))

def expire (req : ApprovalRequest) : ApprovalRequest := { req with status := expired }

/-- `_get_active`. A stale request has expired even though the call raises. -/
def getActive (now : ℤ) (requestId : String) :
    Program ApprovalService ApprovalError ApprovalRequest := do
  let svc ← .get
  match svc.getRequest requestId with
  | none => .raise ⟨.valueError, s!"Request {repr requestId} not found."⟩
  | some req =>
    if Stale now req then do
      .modify fun svc ↦ (svc.put (expire req)).audit now requestId .expired "system"
        "TTL exceeded on access"
      .raise ⟨.approvalExpiredError, s!"Request {repr requestId} is already {expired.value}."⟩
    else if req.status = pending then return req
    else .raise ⟨.approvalExpiredError,
      s!"Request {repr requestId} is already {req.status.value}."⟩

def checkNotSelfApproval (req : ApprovalRequest) (actorId : String) : Except ApprovalError Unit :=
  if actorId = req.requesterId then
    .error ⟨.selfApprovalError,
      s!"Actor {repr actorId} cannot approve their own request {repr req.requestId}."⟩
  else .ok ()

def checkActorAuthorized (req : ApprovalRequest) (actorId : String) : Except ApprovalError Unit :=
  if req.delegatedApprovers ≠ [] ∧ actorId ∉ req.delegatedApprovers then
    .error ⟨.unauthorizedApproverError,
      s!"Actor {repr actorId} is not in the delegated approver list for {repr req.requestId}."⟩
  else .ok ()

/-- Adding a decision to a request. -/
def decided (req : ApprovalRequest) (decision : ApprovalDecision) : ApprovalRequest :=
  { req with approvals := req.approvals ++ [decision] }

/-- The distinct actors who have approved. -/
def approvedBy (req : ApprovalRequest) : List String :=
  ((req.approvals.filter fun d ↦ d.decision = approved).map ApprovalDecision.actorId).dedup

def approve (now : ℤ) (requestId actorId comment : String) :
    Program ApprovalService ApprovalError ApprovalRequest := do
  let req ← getActive repr now requestId
  .ofExcept (checkActorAuthorized repr req actorId)
  .ofExcept (checkNotSelfApproval repr req actorId)
  let req := decided req ⟨requestId, actorId, approved, comment, now, false, none⟩
  .modify fun svc ↦ (svc.put req).audit now requestId .approved actorId comment
  if req.requiredApprovers ≤ (approvedBy req).length then do
    let req := { req with status := approved }
    .modify fun svc ↦ (svc.put req).audit now requestId .statusApproved "system"
      s!"Reached {req.requiredApprovers} approver(s)"
    return req
  else return req

def deny (now : ℤ) (requestId actorId comment : String) :
    Program ApprovalService ApprovalError ApprovalRequest := do
  let req ← getActive repr now requestId
  .ofExcept (checkActorAuthorized repr req actorId)
  let req := { decided req ⟨requestId, actorId, denied, comment, now, false, none⟩ with
    status := denied }
  .modify fun svc ↦ (svc.put req).audit now requestId .denied actorId comment
  return req

/-- The characters that `str.strip` removes. -/
def isSpace (c : Char) : Bool :=
  (0x09 ≤ c.toNat ∧ c.toNat ≤ 0x0D) ∨ (0x1C ≤ c.toNat ∧ c.toNat ≤ 0x20) ∨
  c.toNat ∈ [0x85, 0xA0, 0x1680, 0x2028, 0x2029, 0x202F, 0x205F, 0x3000] ∨
  (0x2000 ≤ c.toNat ∧ c.toNat ≤ 0x200A)

def strip (text : String) : List Char :=
  ((text.toList.dropWhile isSpace).reverse.dropWhile isSpace).reverse

/-- The request after a break-glass override. -/
def overridden (req : ApprovalRequest) (now : ℤ) (requestId actorId justification : String) :
    ApprovalRequest :=
  { decided req ⟨requestId, actorId, approved, "BREAK_GLASS: " ++ justification, now, true,
      some justification⟩ with status := breakGlass }

/-- `break_glass`, which does not look at the status. -/
def breakGlass (now : ℤ) (requestId actorId justification : String) :
    Program ApprovalService ApprovalError ApprovalRequest := do
  let svc ← .get
  match svc.getRequest requestId with
  | none => .raise ⟨.valueError, s!"Request {repr requestId} not found."⟩
  | some req => do
    .ofExcept (checkNotSelfApproval repr req actorId)
    if (strip justification).length < 20 then
      .raise ⟨.valueError, "Break-glass justification must be at least 20 characters."⟩
    else do
      let req := overridden req now requestId actorId justification
      .modify fun svc ↦ (svc.put req).audit now requestId .breakGlass actorId justification
      return req

def expireIfStale (now : ℤ) (req : ApprovalRequest) : ApprovalRequest :=
  if Stale now req then expire req else req

theorem requestId_expireIfStale (now : ℤ) (req : ApprovalRequest) :
    (expireIfStale now req).requestId = req.requestId := by
  rw [expireIfStale]
  split <;> rfl

/-- `expire_stale`. -/
def expireStale (now : ℤ) : Program ApprovalService ApprovalError (List String) := fun svc ↦
  let stale := svc.requests.rows.filter fun req ↦ Stale now req
  (.ok (stale.map ApprovalRequest.requestId),
    { requests := svc.requests.mapRows (expireIfStale now) (requestId_expireIfStale now)
      auditLog := svc.auditLog ++ stale.map fun req ↦
        ⟨req.requestId, .expired, "system", "TTL exceeded", now, false⟩ })

end ApprovalService

/-- One call of the service. -/
inductive ApprovalCall where
  | createRequest (now : ℤ) (request : ApprovalRequest)
  | approve (now : ℤ) (requestId actorId comment : String)
  | deny (now : ℤ) (requestId actorId comment : String)
  | breakGlass (now : ℤ) (requestId actorId justification : String)
  | expireStale (now : ℤ)
  deriving DecidableEq, Repr

/-- The service after a call, whether it returns or raises. -/
def ApprovalService.perform (repr : String → String) (svc : ApprovalService) :
    ApprovalCall → ApprovalService
  | .createRequest now request => (createRequest now request svc).2
  | .approve now requestId actorId comment => (approve repr now requestId actorId comment svc).2
  | .deny now requestId actorId comment => (deny repr now requestId actorId comment svc).2
  | .breakGlass now requestId actorId justification =>
    (breakGlass repr now requestId actorId justification svc).2
  | .expireStale now => (expireStale now svc).2

end DriftGuardX.Policy
