import DriftGuardX.Policy.Decisions
import DriftGuardX.Policy.Enforcement

/-!
# Runs of the engine

An engine evaluates actions, under rules that may change, while requests for approval are made,
decided and overridden. A decided request stays as it is in exactly the runs in which no call
replaces or overrides one (`decided_immutable_iff`), and an approval allows what it was requested
for in exactly the runs in which what is presented was requested for the call
(`allows_requested_iff`).
-/

namespace DriftGuardX.Policy

open PolicyEngine ApprovalService

/-- One call of an engine, with the rules at that time, or of its approval service. -/
inductive EngineCall (B : Type) where
  | evaluate (registry : PolicyRegistry B) (call : EvaluateCall)
  | approval (call : ApprovalCall)

section Run

variable {B : Type} [LT B] [DecidableLT B] (lib : PolicyLibrary B)

namespace PolicyEngine

/-- The engine after a call. -/
def perform (engine : PolicyEngine B) : EngineCall B → PolicyEngine B
  | .evaluate registry call => (evaluate lib registry engine call).2
  | .approval call => { engine with approvals := engine.approvals.perform lib.repr call }

/-- The engine after a series of calls. -/
def run (engine : PolicyEngine B) (calls : List (EngineCall B)) : PolicyEngine B :=
  calls.foldl (perform lib) engine

/-- The request that a call creates. -/
def created (engine : PolicyEngine B) : EngineCall B → Option ApprovalRequest
  | .approval (.createRequest _ request) => some request
  | .approval _ => none
  | .evaluate registry call =>
    let decision := (evaluate lib registry engine call).1
    if decision.verdict = .needsApproval then decision.effectivePolicy.map (newRequest lib call)
    else none

/-- The request that the calls of a run last create under an id. -/
def lastCreated (engine : PolicyEngine B) : List (EngineCall B) → String → Option ApprovalRequest
  | [], _ => none
  | call :: calls, id =>
    (lastCreated (perform lib engine call) calls id).or
      ((created lib engine call).filter fun req ↦ req.requestId = id)

end PolicyEngine

end Run

/-! ## One call -/

section Step

variable {B : Type} {lib : PolicyLibrary B} {approvals : ApprovalService} {call : EvaluateCall}
  {ep : EffectivePolicy B}

theorem getRequest_createRequest {svc : ApprovalService} {now : ℤ} {req : ApprovalRequest}
    (id : String) : (createRequest now req svc).2.getRequest id
      = if id = req.requestId then some req else svc.getRequest id :=
  KeyTable.get?_put

theorem decidePolicy_effectivePolicy :
    (decidePolicy lib approvals call ep).1.effectivePolicy = some ep := by
  rw [decidePolicy]
  split
  · rfl
  split
  · rfl
  split
  · rw [decideApproval]
    split <;> rfl
  · rfl

theorem decidePolicy_approvals : (decidePolicy lib approvals call ep).2
    = if (decidePolicy lib approvals call ep).1.verdict = .needsApproval then
        (createRequest call.now (newRequest lib call ep) approvals).2
      else approvals := by
  rw [decidePolicy]
  split
  · rfl
  split
  · rfl
  split
  · rw [decideApproval]
    split <;> rfl
  · rfl

variable [LT B] [DecidableLT B] {registry : PolicyRegistry B} {engine : PolicyEngine B}

/-- The policy lets a call pass with an approval. -/
def AsksApproval (registry : PolicyRegistry B) (call : EvaluateCall) : Prop :=
  ∃ ep, registry.resolve call.tenantId call.nodeId call.action = .ok ep ∧ ep.verdict ≠ .deny ∧
    AdmitsRole ep call.requesterRole ∧ NeedsApproval ep

/-- An evaluation creates a request when the policy asks for an approval and none is accepted. -/
theorem created_evaluate_eq_some_iff {req : ApprovalRequest} :
    created lib engine (.evaluate registry call) = some req ↔
      ¬ (acceptedApproval engine.approvals call).isSome = true ∧
        ∃ ep, registry.resolve call.tenantId call.nodeId call.action = .ok ep ∧ ep.verdict ≠ .deny ∧
          AdmitsRole ep call.requesterRole ∧ NeedsApproval ep ∧ newRequest lib call ep = req := by
  rw [created, evaluate, decideCall]
  cases registry.resolve call.tenantId call.nodeId call.action with
  | error e =>
    refine iff_of_false (fun h ↦ absurd h (by simp)) ?_
    rintro ⟨-, ep, h, -⟩
    exact absurd h (by simp)
  | ok ep =>
    simp only [decidePolicy_effectivePolicy, decidePolicy_eq_needsApproval_iff, Option.map_some,
      Except.ok.injEq, exists_eq_left', Option.ite_none_right_eq_some, Option.some.injEq]
    tauto

theorem evaluate_approvals : (evaluate lib registry engine call).2.approvals
    = match created lib engine (.evaluate registry call) with
      | none => engine.approvals
      | some req => (createRequest call.now req engine.approvals).2 := by
  rw [created, evaluate, decideCall]
  cases registry.resolve call.tenantId call.nodeId call.action with
  | error e => rfl
  | ok ep =>
    simp only [decidePolicy_effectivePolicy, Option.map_some]
    rw [decidePolicy_approvals]
    split <;> rfl

theorem of_created_approval {c : ApprovalCall} {req : ApprovalRequest}
    (h : created lib engine (.approval c) = some req) : ∃ now, c = .createRequest now req := by
  cases c with
  | createRequest now request =>
    obtain rfl := Option.some.inj h
    exact ⟨now, rfl⟩
  | approve | deny | breakGlass | expireStale => exact nomatch h

theorem getRequest_perform_of_created {call : EngineCall B} {req : ApprovalRequest}
    (h : created lib engine call = some req) (id : String) :
    (perform lib engine call).approvals.getRequest id
      = if id = req.requestId then some req else engine.approvals.getRequest id := by
  cases call with
  | evaluate registry call =>
    rw [PolicyEngine.perform, evaluate_approvals, h]
    exact getRequest_createRequest id
  | approval call =>
    obtain ⟨now, rfl⟩ := of_created_approval h
    exact getRequest_createRequest id

/-- A call that creates no request leaves the service as it is, or is a call of the service. -/
theorem change_of_not_created {call : EngineCall B} (h : created lib engine call = none) :
    (perform lib engine call).approvals = engine.approvals ∨
      ∃ c, call = .approval c ∧ (∀ now req, c ≠ .createRequest now req) ∧
        ∀ id, Change c id (engine.approvals.view id)
          ((perform lib engine call).approvals.view id) := by
  cases call with
  | evaluate registry call =>
    rw [PolicyEngine.perform, evaluate_approvals, h]
    exact Or.inl rfl
  | approval c =>
    refine Or.inr ⟨c, rfl, ?_, change_perform lib.repr engine.approvals c⟩
    rintro now req rfl
    exact nomatch h

end Step

/-! ## Decided requests -/

section Decided

variable {call : ApprovalCall} {id : String} {v v' : RequestView} {req : ApprovalRequest}

/-- A decided request under its id. -/
def Decided (svc : ApprovalService) (id : String) (req : ApprovalRequest) : Prop :=
  svc.getRequest id = some req ∧ req.status ≠ .pending

/-- A change that neither creates nor overrides leaves a decided request as it is. -/
theorem request_of_change (hchange : Change call id v v') (hreq : v.request = some req)
    (hdecided : req.status ≠ .pending) (hcreate : ∀ now req, call ≠ .createRequest now req)
    (hoverride : ∀ now actorId justification, call = .breakGlass now id actorId justification →
      actorId = req.requesterId ∨ (strip justification).length < 20) :
    v'.request = some req := by
  -- every change but the first two starts from a pending request, or overrides one
  cases hchange with
  | keep => exact hreq
  | create hcall => exact absurd hcall (hcreate _ _)
  | expire hpending | deny hpending =>
    obtain rfl := Option.some.inj hreq
    exact absurd hpending hdecided
  | approve happrovable | quorum happrovable =>
    obtain rfl := Option.some.inj hreq
    exact absurd happrovable.pending hdecided
  | breakGlass hcall hother hlong =>
    obtain rfl := Option.some.inj hreq
    rcases hoverride _ _ _ hcall with hself | hshort
    · exact absurd hself hother
    · exact absurd hlong hshort.not_ge

/-- An override with a justification by somebody else takes place. -/
theorem getRequest_breakGlass (repr : String → String) {svc : ApprovalService} (now : ℤ)
    {actorId justification : String} (hreq : svc.getRequest id = some req)
    (hother : actorId ≠ req.requesterId) (hlong : ¬ (strip justification).length < 20) :
    (breakGlass repr now id actorId justification svc).2.getRequest id
      = some (overridden req now id actorId justification) := by
  have hcheck : checkNotSelfApproval repr req actorId = .ok () :=
    checkNotSelfApproval_eq_ok_iff.mpr hother
  rw [breakGlass, Program.bind_of_ok Program.get_apply]
  simp only [hreq]
  rw [Program.ofExcept_bind_of_ok hcheck, if_neg hlong]
  obtain rfl := requestId_of_getRequest hreq
  exact KeyTable.get?_put.trans (if_pos rfl)

theorem overridden_ne {now : ℤ} {actorId justification : String} :
    overridden req now id actorId justification ≠ req := by
  intro h
  have hlength := congrArg (fun r ↦ r.approvals.length) h
  simp [overridden, decided] at hlength

variable {B : Type} [LT B] [DecidableLT B] (lib : PolicyLibrary B)

/-- A call that neither replaces a decided request nor overrides one. -/
structure RespectsDecided (engine : PolicyEngine B) (call : EngineCall B) : Prop where
  create : ∀ now req old, call = .approval (.createRequest now req) →
    Decided engine.approvals req.requestId old → req = old
  evaluate : ∀ registry c old, call = .evaluate registry c → AsksApproval registry c →
    ¬ (acceptedApproval engine.approvals c).isSome = true →
    ¬ Decided engine.approvals c.newRequestId old
  override : ∀ now id actorId justification old,
    call = .approval (.breakGlass now id actorId justification) →
    Decided engine.approvals id old →
    actorId = old.requesterId ∨ (strip justification).length < 20

variable {lib} {engine : PolicyEngine B} {call : EngineCall B}

theorem eq_of_created {new : ApprovalRequest} (h : RespectsDecided engine call)
    (hcreated : created lib engine call = some new)
    (hold : Decided engine.approvals new.requestId req) : new = req := by
  cases call with
  | approval call =>
    obtain ⟨now, rfl⟩ := of_created_approval hcreated
    exact h.create now new req rfl hold
  | evaluate registry c =>
    obtain ⟨hnone, ep, hep, hdeny, hrole, hneeds, rfl⟩ :=
      created_evaluate_eq_some_iff.mp hcreated
    exact absurd hold (h.evaluate registry c req rfl ⟨ep, hep, hdeny, hrole, hneeds⟩ hnone)

theorem decided_perform (h : RespectsDecided engine call) (hreq : Decided engine.approvals id req) :
    Decided (perform lib engine call).approvals id req := by
  refine ⟨?_, hreq.2⟩
  cases hcreated : created lib engine call with
  | some new =>
    rw [getRequest_perform_of_created hcreated]
    split
    · rename_i hid
      exact congrArg some (eq_of_created h hcreated (hid ▸ hreq))
    · exact hreq.1
  | none =>
    rcases change_of_not_created hcreated with hsame | ⟨c, rfl, hcreate, hchange⟩
    · rw [hsame, hreq.1]
    · refine request_of_change (hchange id) hreq.1 hreq.2 hcreate ?_
      rintro now actorId justification rfl
      exact h.override now id actorId justification req rfl hreq

variable (lib)

theorem respectsDecided_of_keeps (h : ∀ id req, Decided engine.approvals id req →
    Decided (perform lib engine call).approvals id req) : RespectsDecided engine call := by
  -- a request that is created takes the place of the old one
  have hcreate : ∀ req old, created lib engine call = some req →
      Decided engine.approvals req.requestId old → req = old := by
    intro req old hcreated hold
    have hkept := (h _ _ hold).1
    rw [getRequest_perform_of_created hcreated, if_pos rfl] at hkept
    exact Option.some.inj hkept
  refine ⟨?_, ?_, ?_⟩
  · rintro now req old rfl hold
    exact hcreate req old rfl hold
  · rintro registry c old rfl ⟨ep, hep, hdeny, hrole, hneeds⟩ hnone hold
    have hcreated : created lib engine (.evaluate registry c) = some (newRequest lib c ep) :=
      created_evaluate_eq_some_iff.mpr ⟨hnone, ep, hep, hdeny, hrole, hneeds, rfl⟩
    exact hold.2 (hcreate _ old hcreated hold ▸ rfl)
  · rintro now id actorId justification old rfl hold
    -- an override that passes its checks would change the status
    by_contra hpasses
    obtain ⟨hother, hlong⟩ := not_or.mp hpasses
    have hnew := getRequest_breakGlass lib.repr now hold.1 hother hlong
    exact overridden_ne (Option.some.inj (hnew.symm.trans (h _ _ hold).1))

/-- Once a request is decided, it is kept to the end of the run. -/
def Immutable (engine : PolicyEngine B) (calls : List (EngineCall B)) : Prop :=
  ∀ pre mid post, calls = pre ++ mid ++ post → ∀ id req,
    Decided (run lib engine pre).approvals id req →
    Decided (run lib engine (pre ++ mid)).approvals id req

/-- Every call of a run respects the requests that are decided when it is made. -/
def RunRespectsDecided (engine : PolicyEngine B) (calls : List (EngineCall B)) : Prop :=
  ∀ pre call post, calls = pre ++ call :: post →
    RespectsDecided (run lib engine pre) call

theorem run_append (engine : PolicyEngine B) (calls calls' : List (EngineCall B)) :
    run lib engine (calls ++ calls') = run lib (run lib engine calls) calls' :=
  List.foldl_append

/-- **Immutable decisions.** Decided requests stay as they are in exactly the runs whose calls
neither replace nor override one. -/
theorem decided_immutable_iff (engine : PolicyEngine B) (calls : List (EngineCall B)) :
    Immutable lib engine calls ↔ RunRespectsDecided lib engine calls := by
  constructor
  · refine fun h pre call post hcalls ↦ respectsDecided_of_keeps lib fun id req hreq ↦ ?_
    have hkept := h pre [call] post (by simpa using hcalls) id req hreq
    rwa [run_append] at hkept
  · intro h pre mid
    induction mid using List.reverseRecOn with
    | nil => exact fun post _ id req hreq ↦ by rwa [List.append_nil]
    | append_singleton mid call ih =>
      intro post hcalls id req hreq
      have hmid := ih (call :: post) (by simpa using hcalls) id req hreq
      rw [← List.append_assoc, run_append]
      exact decided_perform (h (pre ++ mid) call post (by simpa using hcalls)) hmid

end Decided

/-! ## Presented approvals -/

section Presented

/-- What a request is for. -/
def ApprovalRequest.binding (req : ApprovalRequest) : String × String × String :=
  (req.action, req.tenantId, req.nodeId)

def EvaluateCall.binding (call : EvaluateCall) : String × String × String :=
  (call.action, call.tenantId, call.nodeId)

theorem binding_of_change {call : ApprovalCall} {id : String} {v v' : RequestView}
    (hchange : Change call id v v') (hcreate : ∀ now req, call ≠ .createRequest now req) :
    v'.request.map ApprovalRequest.binding = v.request.map ApprovalRequest.binding := by
  cases hchange with
  | create hcall => exact absurd hcall (hcreate _ _)
  | keep | expire | approve | quorum | deny | breakGlass => rfl

variable {B : Type} [LT B] [DecidableLT B] {lib : PolicyLibrary B}

theorem binding_perform (engine : PolicyEngine B) (call : EngineCall B) (id : String) :
    ((perform lib engine call).approvals.getRequest id).map ApprovalRequest.binding
      = (((created lib engine call).filter fun req ↦ req.requestId = id).or
        (engine.approvals.getRequest id)).map ApprovalRequest.binding := by
  cases hcreated : created lib engine call with
  | some req =>
    rw [getRequest_perform_of_created hcreated]
    by_cases hid : id = req.requestId
    · simp [hid]
    · rw [if_neg hid, Option.filter_some, if_neg (by simpa using Ne.symm hid), Option.none_or]
  | none =>
    rcases change_of_not_created hcreated with hsame | ⟨c, rfl, hcreate, hchange⟩
    · rw [hsame]
      rfl
    · exact binding_of_change (hchange id) hcreate

theorem binding_run (lib : PolicyLibrary B) (engine : PolicyEngine B) (calls : List (EngineCall B))
    (id : String) :
    ((run lib engine calls).approvals.getRequest id).map ApprovalRequest.binding
      = ((lastCreated lib engine calls id).or
        (engine.approvals.getRequest id)).map ApprovalRequest.binding := by
  induction calls generalizing engine with
  | nil => rfl
  | cons call calls ih =>
    rw [PolicyEngine.run, List.foldl_cons, ← PolicyEngine.run, ih, lastCreated, Option.map_or,
      binding_perform, ← Option.map_or, Option.or_assoc]

omit [LT B] [DecidableLT B] in
theorem decidePolicy_requiresApproval_iff {approvals : ApprovalService} {call : EvaluateCall}
    {ep : EffectivePolicy B} : (decidePolicy lib approvals call ep).1.requiresApproval = true ↔
      ep.verdict ≠ .deny ∧ AdmitsRole ep call.requesterRole ∧ NeedsApproval ep := by
  rw [decidePolicy]
  split
  · rename_i hdeny
    exact iff_of_false Bool.noConfusion fun h ↦ h.1 hdeny
  rename_i hdeny
  split
  · rename_i hrole
    exact iff_of_false Bool.noConfusion fun h ↦ hrole h.2.1
  rename_i hrole
  split
  · rename_i hneeds
    refine iff_of_true ?_ ⟨hdeny, not_not.mp hrole, hneeds⟩
    rw [decideApproval]
    split <;> rfl
  · rename_i hneeds
    exact iff_of_false Bool.noConfusion fun h ↦ hneeds h.2.2

/-- The engine allows a call on the strength of an approval. -/
def AllowsOnApproval (decision : EngineDecision B) : Prop :=
  decision.verdict = .allow ∧ decision.requiresApproval = true

theorem allowsOnApproval_iff {registry : PolicyRegistry B} {engine : PolicyEngine B}
    {call : EvaluateCall} : AllowsOnApproval (evaluate lib registry engine call).1 ↔
      AsksApproval registry call ∧ (acceptedApproval engine.approvals call).isSome = true := by
  rw [AllowsOnApproval, AsksApproval, evaluate, decideCall]
  cases registry.resolve call.tenantId call.nodeId call.action with
  | error e =>
    refine iff_of_false (fun h ↦ absurd h.1 (by simp)) ?_
    rintro ⟨⟨ep, h, -⟩, -⟩
    exact absurd h (by simp)
  | ok ep =>
    simp only [decidePolicy_eq_allow_iff, decidePolicy_requiresApproval_iff, Except.ok.injEq,
      exists_eq_left']
    constructor
    · rintro ⟨⟨-, -, haccepted⟩, h⟩
      exact ⟨h, haccepted h.2.2⟩
    · rintro ⟨h, haccepted⟩
      exact ⟨⟨h.1, h.2.1, fun _ ↦ haccepted⟩, h⟩

variable (lib) (calls : List (EngineCall B)) (registry : PolicyRegistry B) (call : EvaluateCall)

/-- The engine after calls from the start. -/
def reached : PolicyEngine B := run lib ⟨.empty, []⟩ calls

/-- An approval with which the engine allows a call was last requested for that action, tenant and
node. -/
def AllowsRequested : Prop :=
  AllowsOnApproval (evaluate lib registry (reached lib calls) call).1 →
    ∃ approvalId req, call.existingApprovalId = some approvalId ∧
      lastCreated lib ⟨.empty, []⟩ calls approvalId = some req ∧ req.binding = call.binding

/-- A call that may pass with an approval presents no request that was approved for another node,
and none that was overridden for another action, tenant or node. -/
def PresentsRequested : Prop :=
  AsksApproval registry call → ∀ approvalId req, call.existingApprovalId = some approvalId →
    approvalId ≠ "" → (reached lib calls).approvals.getRequest approvalId = some req →
    (req.status = .approved → req.action = call.action → req.tenantId = call.tenantId →
      req.nodeId = call.nodeId) ∧
    (req.status = .breakGlass → req.binding = call.binding)

variable {lib calls registry call}

theorem exists_lastCreated {approvalId : String} {req : ApprovalRequest}
    (hreq : (reached lib calls).approvals.getRequest approvalId = some req) :
    ∃ last, lastCreated lib ⟨.empty, []⟩ calls approvalId = some last ∧
      last.binding = req.binding := by
  have hbinding := binding_run lib ⟨.empty, []⟩ calls approvalId
  rw [← reached, hreq, Option.map_some] at hbinding
  obtain ⟨last, hlast, heq⟩ := Option.map_eq_some_iff.mp hbinding.symm
  exact ⟨last, (Option.or_none ..).symm.trans hlast, heq⟩

theorem allowsRequested_iff :
    AllowsRequested lib calls registry call ↔ PresentsRequested lib calls registry call := by
  rw [AllowsRequested, allowsOnApproval_iff, isSome_acceptedApproval_iff]
  constructor
  · intro h hasks approvalId req hid hne hreq
    have hbinding : (req.status = .approved ∧ req.action = call.action ∧
        req.tenantId = call.tenantId) ∨ req.status = .breakGlass → req.binding = call.binding := by
      -- what was requested last is what the engine holds under the id
      intro hstatus
      obtain ⟨_, last, hid', hlast, heq⟩ := h ⟨hasks, approvalId, req, hid, hne, hreq, hstatus⟩
      obtain rfl := Option.some.inj (hid.symm.trans hid')
      obtain ⟨last', hlast', heq'⟩ := exists_lastCreated hreq
      obtain rfl := Option.some.inj (hlast.symm.trans hlast')
      exact heq'.symm.trans heq
    refine ⟨fun happroved haction htenant ↦ ?_, fun hoverridden ↦ hbinding (Or.inr hoverridden)⟩
    exact congrArg (fun b ↦ b.2.2) (hbinding (Or.inl ⟨happroved, haction, htenant⟩))
  · rintro h ⟨hasks, approvalId, req, hid, hne, hreq, hstatus⟩
    obtain ⟨last, hlast, heq⟩ := exists_lastCreated hreq
    obtain ⟨happroved, hoverridden⟩ := h hasks approvalId req hid hne hreq
    refine ⟨approvalId, last, hid, hlast, heq.trans ?_⟩
    rcases hstatus with ⟨hstatus, haction, htenant⟩ | hstatus
    · rw [ApprovalRequest.binding, EvaluateCall.binding, haction, htenant,
        happroved hstatus haction htenant]
    · exact hoverridden hstatus

variable (lib)

/-- In every evaluation of a run, an approval allows what it was requested for. -/
def RunAllowsRequested (calls : List (EngineCall B)) : Prop :=
  ∀ pre registry call post, calls = pre ++ .evaluate registry call :: post →
    AllowsRequested lib pre registry call

/-- In every evaluation of a run, what is presented was requested for the call. -/
def RunPresentsRequested (calls : List (EngineCall B)) : Prop :=
  ∀ pre registry call post, calls = pre ++ .evaluate registry call :: post →
    PresentsRequested lib pre registry call

/-- **The reach of an approval.** An approval allows what it was requested for in exactly the runs
in which what is presented was requested for the call. -/
theorem allows_requested_iff (calls : List (EngineCall B)) :
    RunAllowsRequested lib calls ↔ RunPresentsRequested lib calls := by
  refine forall_congr' fun pre ↦ forall_congr' fun registry ↦ forall_congr' fun call ↦ ?_
  exact forall_congr' fun post ↦ imp_congr_right fun _ ↦ allowsRequested_iff

end Presented

/-! ## Two runs -/

/-- A denied request is overridden. -/
def overriddenDenial : List (EngineCall ℕ) :=
  [.approval (.createRequest 0 (readRequest "n" 1)), .approval (.deny 1 "r" "bob" ""),
    .approval (.breakGlass 2 "r" "carol" "production is down since 9")]

theorem not_immutable_overriddenDenial :
    ¬ Immutable plainLibrary emptyEngine overriddenDenial := by
  intro h
  have hkept := h (overriddenDenial.take 2) (overriddenDenial.drop 2) [] rfl "r" _ ⟨rfl, by decide⟩
  exact absurd hkept.1 (by decide)

/-- A request that is approved for one node is presented at another. -/
def otherNode : List (EngineCall ℕ) :=
  [.approval (.createRequest 0 (readRequest "m" 1)), .approval (.approve 1 "r" "bob" ""),
    .evaluate (oneRule (readRule .low 1 []))
      { plainCall "t" "n" "read" "guest" with existingApprovalId := some "r" }]

theorem not_runAllowsRequested_otherNode : ¬ RunAllowsRequested plainLibrary otherNode := by
  intro h
  obtain ⟨_, req, hid, hlast, hbinding⟩ := h (otherNode.take 2) _ _ [] rfl ⟨by decide, by decide⟩
  obtain rfl := Option.some.inj hid
  obtain rfl := Option.some.inj hlast
  exact absurd hbinding (by decide)

end DriftGuardX.Policy
