import DriftGuardX.Policy.Approvals

/-!
# The life of an approval request

`Change` lists what one call of the service may do to the request under an id and to its part of the
audit log; every call makes one change under every id (`change_perform`). From that it follows by
induction over a run what an approved request has been through, and that its status can be read off
the audit log (`approved_meaning`).
-/

namespace DriftGuardX.Policy

open ApprovalService ApprovalStatus Program

/-! ## Changes -/

/-- What can be seen of the request under an id. -/
@[ext] structure RequestView where
  request : Option ApprovalRequest
  events : List AuditKind

namespace ApprovalService

variable {svc : ApprovalService} {req : ApprovalRequest} {id requestId actorId : String} {now : ℤ}

def view (svc : ApprovalService) (id : String) : RequestView where
  request := svc.getRequest id
  events := (svc.auditLog.filter fun e ↦ e.requestId = id).map AuditEntry.event

theorem view_put_audit {event : AuditKind} {actorId detail : String}
    (h : req.requestId = requestId) (id : String) :
    ((svc.put req).audit now requestId event actorId detail).view id
      = if id = requestId then ⟨some req, (svc.view id).events ++ [event]⟩ else svc.view id := by
  subst h
  rw [view, view, audit, getRequest, put, KeyTable.get?_put, List.filter_append, List.map_append]
  split
  · rename_i hid
    simp [hid]
  · rename_i hid
    simp [getRequest, Ne.symm hid]

theorem requestId_of_getRequest (h : svc.getRequest id = some req) : req.requestId = id :=
  KeyTable.key_of_get? h

end ApprovalService

/-- A request that an actor may approve at a time. -/
structure Approvable (req : ApprovalRequest) (now : ℤ) (actorId : String) : Prop where
  pending : req.status = pending
  live : now ≤ req.expiresAt
  authorized : req.delegatedApprovers = [] ∨ actorId ∈ req.delegatedApprovers
  other : actorId ≠ req.requesterId

/-- A request with one more approval. -/
def withApproval (req : ApprovalRequest) (now : ℤ) (actorId comment : String) : ApprovalRequest :=
  decided req ⟨req.requestId, actorId, approved, comment, now, false, none⟩

/-- A request that is denied. -/
def withDenial (req : ApprovalRequest) (now : ℤ) (actorId comment : String) : ApprovalRequest :=
  { decided req ⟨req.requestId, actorId, denied, comment, now, false, none⟩ with status := denied }

/-- What a call may do to the request under an id. -/
inductive Change (call : ApprovalCall) (id : String) : RequestView → RequestView → Prop
  | keep {v} : Change call id v v
  | create {v now req} (hcall : call = .createRequest now req) (hid : req.requestId = id) :
    Change call id v ⟨some req, v.events ++ [.created]⟩
  | expire {req events} (hpending : req.status = pending) :
    Change call id ⟨some req, events⟩ ⟨some (expire req), events ++ [.expired]⟩
  | approve {req events now actorId comment} (h : Approvable req now actorId) :
    Change call id ⟨some req, events⟩
      ⟨some (withApproval req now actorId comment), events ++ [.approved]⟩
  | quorum {req events now actorId comment} (h : Approvable req now actorId)
    (hquorum : req.requiredApprovers ≤ (approvedBy (withApproval req now actorId comment)).length) :
    Change call id ⟨some req, events⟩
      ⟨some { withApproval req now actorId comment with status := approved },
        events ++ [.approved] ++ [.statusApproved]⟩
  | deny {req events now actorId comment} (hpending : req.status = pending) :
    Change call id ⟨some req, events⟩
      ⟨some (withDenial req now actorId comment), events ++ [.denied]⟩
  | breakGlass {req events now actorId justification}
    (hcall : call = .breakGlass now id actorId justification) (hother : actorId ≠ req.requesterId)
    (hlong : 20 ≤ (strip justification).length) :
    Change call id ⟨some req, events⟩
      ⟨some (overridden req now id actorId justification), events ++ [.breakGlass]⟩

section Perform

variable {repr : String → String} {svc : ApprovalService} {req : ApprovalRequest}
  {requestId actorId comment : String} {now : ℤ} {call : ApprovalCall}

/-- Writing a request with an entry is a change under its id, and none under any other. -/
theorem change_of_write (requestId : String) {event : AuditKind} {detail : String}
    (hkey : req.requestId = requestId)
    (h : Change call requestId (svc.view requestId)
      ⟨some req, (svc.view requestId).events ++ [event]⟩) (id : String) :
    Change call id (svc.view id)
      (((svc.put req).audit now requestId event actorId detail).view id) := by
  rw [view_put_audit hkey]
  split
  · rename_i hid
    exact hid ▸ h
  · exact .keep

/-- The same for two writes. -/
theorem change_of_writes (requestId : String) {req' : ApprovalRequest} {event event' : AuditKind}
    {actorId' detail detail' : String} (hkey : req.requestId = requestId)
    (hkey' : req'.requestId = requestId)
    (h : Change call requestId (svc.view requestId)
      ⟨some req', (svc.view requestId).events ++ [event] ++ [event']⟩) (id : String) :
    Change call id (svc.view id) (((((svc.put req).audit now requestId event actorId detail).put
      req').audit now requestId event' actorId' detail').view id) := by
  rw [view_put_audit hkey', view_put_audit hkey]
  split
  · rename_i hid
    exact hid ▸ h
  · exact .keep

theorem view_of_getRequest (h : svc.getRequest requestId = some req) :
    svc.view requestId = ⟨some req, (svc.view requestId).events⟩ := by
  rw [view, h]

/-- The service after a request has expired. -/
def expiredOnAccess (svc : ApprovalService) (now : ℤ) (req : ApprovalRequest) : ApprovalService :=
  (svc.put (expire req)).audit now req.requestId .expired "system" "TTL exceeded on access"

/-- `getActive` returns a pending request that is in time, or raises; it may expire the request. -/
theorem getActive_cases (repr : String → String) (svc : ApprovalService) (now : ℤ)
    (requestId : String) :
    (∃ req, svc.getRequest requestId = some req ∧ req.status = pending ∧ now ≤ req.expiresAt ∧
      getActive repr now requestId svc = (.ok req, svc)) ∨
    (∃ e, getActive repr now requestId svc = (.error e, svc)) ∨
    ∃ e req, svc.getRequest requestId = some req ∧ req.status = pending ∧
      getActive repr now requestId svc = (.error e, expiredOnAccess svc now req) := by
  rw [getActive, bind_of_ok get_apply]
  cases hreq : svc.getRequest requestId with
  | none => exact Or.inr (Or.inl ⟨_, rfl⟩)
  | some req =>
    obtain rfl := requestId_of_getRequest hreq
    simp only
    -- reading a request that is past its expiry writes its expiration
    by_cases hstale : Stale now req
    · rw [if_pos hstale]
      exact Or.inr (Or.inr ⟨_, req, rfl, hstale.1, rfl⟩)
    rw [if_neg hstale]
    by_cases hpending : req.status = pending
    · rw [if_pos hpending]
      refine Or.inl ⟨req, rfl, hpending, not_lt.mp fun hlt ↦ hstale ⟨hpending, hlt⟩, rfl⟩
    · rw [if_neg hpending]
      exact Or.inr (Or.inl ⟨_, rfl⟩)

theorem change_expiredOnAccess (hreq : svc.getRequest requestId = some req)
    (hpending : req.status = pending) (id : String) :
    Change call id (svc.view id) ((expiredOnAccess svc now req).view id) := by
  obtain rfl := requestId_of_getRequest hreq
  refine change_of_write req.requestId ?_ ?_ id
  · rfl
  · rw [view_of_getRequest hreq]
    exact .expire hpending

theorem checkActorAuthorized_eq_ok_iff {u : Unit} :
    checkActorAuthorized repr req actorId = .ok u ↔
      req.delegatedApprovers = [] ∨ actorId ∈ req.delegatedApprovers := by
  rw [checkActorAuthorized]
  by_cases h : req.delegatedApprovers ≠ [] ∧ actorId ∉ req.delegatedApprovers
  · rw [if_pos h]
    simp [h.1, h.2]
  · rw [if_neg h, eq_self_iff_true, true_iff, or_iff_not_imp_left]
    exact fun hne ↦ by_contra fun hmem ↦ h ⟨hne, hmem⟩

theorem checkNotSelfApproval_eq_ok_iff {u : Unit} :
    checkNotSelfApproval repr req actorId = .ok u ↔ actorId ≠ req.requesterId := by
  rw [checkNotSelfApproval]
  split
  · rename_i h
    simp [h]
  · rename_i h
    simp [h]

/-- A call that looks at its request first does nothing but what it does with an active one, or
expires a stale one. -/
theorem change_of_getActive {α : Type}
    {f : ApprovalRequest → Program ApprovalService ApprovalError α}
    (hactive : ∀ req, svc.getRequest requestId = some req → req.status = pending →
      now ≤ req.expiresAt → ∀ id, Change call id (svc.view id) ((f req svc).2.view id))
    (id : String) :
    Change call id (svc.view id) (((getActive repr now requestId >>= f) svc).2.view id) := by
  rcases getActive_cases repr svc now requestId with
    ⟨req, hreq, hpending, hlive, hrun⟩ | ⟨e, hrun⟩ | ⟨e, req, hreq, hpending, hrun⟩
  · rw [bind_of_ok hrun]
    exact hactive req hreq hpending hlive id
  · rw [bind_of_error hrun]
    exact .keep
  · rw [bind_of_error hrun]
    exact change_expiredOnAccess hreq hpending id

theorem change_of_check {α : Type} {check : Except ApprovalError Unit}
    {f : Unit → Program ApprovalService ApprovalError α} {id : String}
    (hok : check = .ok () → Change call id (svc.view id) ((f () svc).2.view id)) :
    Change call id (svc.view id) (((ofExcept check >>= f) svc).2.view id) := by
  cases hcheck : check with
  | error e =>
    rw [ofExcept_bind_of_error rfl]
    exact .keep
  | ok u =>
    rw [ofExcept_bind_of_ok rfl]
    exact hok hcheck

theorem change_approve (id : String) : Change call id (svc.view id)
    ((approve repr now requestId actorId comment svc).2.view id) := by
  refine change_of_getActive (fun req hreq hpending hlive id ↦ ?_) id
  refine change_of_check fun hauthorized ↦ change_of_check fun hother ↦ ?_
  rw [checkActorAuthorized_eq_ok_iff] at hauthorized
  rw [checkNotSelfApproval_eq_ok_iff] at hother
  have happrovable : Approvable req now actorId := ⟨hpending, hlive, hauthorized, hother⟩
  obtain rfl := requestId_of_getRequest hreq
  rw [bind_of_ok (modify_apply _)]
  -- the approval that fills the quorum is logged twice
  split
  · rename_i hquorum
    rw [bind_of_ok (modify_apply _), pure_apply]
    refine change_of_writes req.requestId ?_ ?_ ?_ id
    · rfl
    · rfl
    · rw [view_of_getRequest hreq]
      exact .quorum happrovable hquorum
  · rw [pure_apply]
    refine change_of_write req.requestId ?_ ?_ id
    · rfl
    · rw [view_of_getRequest hreq]
      exact .approve happrovable

theorem change_deny (id : String) : Change call id (svc.view id)
    ((deny repr now requestId actorId comment svc).2.view id) := by
  refine change_of_getActive (fun req hreq hpending _ id ↦ change_of_check fun _ ↦ ?_) id
  obtain rfl := requestId_of_getRequest hreq
  rw [bind_of_ok (modify_apply _), pure_apply]
  refine change_of_write req.requestId ?_ ?_ id
  · rfl
  · rw [view_of_getRequest hreq]
    exact .deny hpending

theorem change_breakGlass {justification : String} (id : String) :
    Change (.breakGlass now requestId actorId justification) id (svc.view id)
      ((breakGlass repr now requestId actorId justification svc).2.view id) := by
  rw [ApprovalService.breakGlass, bind_of_ok get_apply]
  cases hreq : svc.getRequest requestId with
  | none => exact .keep
  | some req =>
    refine change_of_check fun hother ↦ ?_
    rw [checkNotSelfApproval_eq_ok_iff] at hother
    have hkey := requestId_of_getRequest hreq
    split
    · exact .keep
    · rename_i hlong
      rw [bind_of_ok (modify_apply _), pure_apply]
      refine change_of_write requestId ?_ ?_ id
      · exact hkey
      · rw [view_of_getRequest hreq]
        exact .breakGlass rfl hother (not_lt.mp hlong)

theorem change_createRequest (id : String) :
    Change (.createRequest now req) id (svc.view id) ((createRequest now req svc).2.view id) := by
  rw [createRequest, bind_of_ok (modify_apply _), pure_apply]
  exact change_of_write req.requestId rfl (.create rfl rfl) id

theorem view_expireStale (id : String) : (expireStale now svc).2.view id
    = ⟨(svc.getRequest id).map (expireIfStale now), (svc.view id).events ++
      ((svc.getRequest id).toList.filter fun req ↦ Stale now req).map fun _ ↦ .expired⟩ := by
  have hstale : ((svc.requests.rows.filter fun req ↦ Stale now req).filter fun req ↦
      req.requestId = id) = (svc.getRequest id).toList.filter fun req ↦ Stale now req := by
    rw [List.filter_comm, KeyTable.filter_rows_key, getRequest]
  ext1
  · exact KeyTable.get?_mapRows (requestId_expireIfStale now)
  · change List.map _ (List.filter _ (_ ++ _)) = _
    rw [List.filter_append, List.map_append, ← hstale, List.filter_map, List.map_map]
    rfl

theorem change_expireStale (id : String) :
    Change call id (svc.view id) ((expireStale now svc).2.view id) := by
  rw [view_expireStale]
  cases hreq : svc.getRequest id with
  | none =>
    have hview : svc.view id = ⟨none, (svc.view id).events⟩ := by rw [view, hreq]
    rw [Option.map_none, Option.toList_none, List.filter_nil, List.map_nil, List.append_nil,
      ← hview]
    exact .keep
  | some req =>
    rw [Option.map_some, Option.toList_some, expireIfStale]
    -- the sweep logs one event for each request that it expires
    by_cases hstale : Stale now req
    · rw [if_pos hstale, List.filter_cons_of_pos (by simpa using hstale), view_of_getRequest hreq]
      exact .expire hstale.1
    · rw [if_neg hstale, List.filter_cons_of_neg (by simpa using hstale), List.filter_nil,
        List.map_nil, List.append_nil, ← view_of_getRequest hreq]
      exact .keep

theorem change_perform (repr : String → String) (svc : ApprovalService) (call : ApprovalCall)
    (id : String) : Change call id (svc.view id) ((svc.perform repr call).view id) := by
  cases call with
  | createRequest now req => exact change_createRequest id
  | approve now requestId actorId comment => exact change_approve id
  | deny now requestId actorId comment => exact change_deny id
  | breakGlass now requestId actorId justification => exact change_breakGlass id
  | expireStale now => exact change_expireStale id

end Perform

/-! ## Runs -/

/-- The service after a series of calls. -/
def ApprovalService.run (repr : String → String) (svc : ApprovalService)
    (calls : List ApprovalCall) : ApprovalService := calls.foldl (perform repr) svc

/-- The status that an entry of the log leads to. -/
def replayEvent (status : Option ApprovalStatus) : AuditKind → Option ApprovalStatus
  | .created => some pending
  | .approved => status
  | .statusApproved => some approved
  | .denied => some denied
  | .breakGlass => some breakGlass
  | .expired => some expired

/-- The status that the entries of the log for an id lead to. -/
def ApprovalService.replay (svc : ApprovalService) (id : String) : Option ApprovalStatus :=
  (svc.view id).events.foldl replayEvent none

/-- A decision of a request that counts towards its quorum. -/
structure Counts (req : ApprovalRequest) (d : ApprovalDecision) : Prop where
  approved : d.decision = approved
  other : d.actorId ≠ req.requesterId
  authorized : req.delegatedApprovers = [] ∨ d.actorId ∈ req.delegatedApprovers
  live : d.decidedAt ≤ req.expiresAt

/-- What it means that a request is approved. -/
structure Meaningful (req : ApprovalRequest) : Prop where
  quorum : ∃ actors : List String, actors.Nodup ∧ max 1 req.requiredApprovers ≤ actors.length ∧
    ∀ actorId ∈ actors, ∃ d ∈ req.approvals, d.actorId = actorId ∧ d.decision = approved
  decisions : ∀ d ∈ req.approvals, Counts req d

/-- What holds of every request in every run. -/
structure ApprovalRequest.Sound (req : ApprovalRequest) : Prop where
  decisions : req.status = pending ∨ req.status = approved → ∀ d ∈ req.approvals, Counts req d
  quorum : req.status = approved → req.requiredApprovers ≤ (approvedBy req).length ∧
    req.approvals ≠ []

/-- The same, and the status can be read off the log. -/
structure RequestView.Sound (v : RequestView) : Prop where
  request : ∀ req, v.request = some req → req.Sound
  replay : v.events.foldl replayEvent none = v.request.map ApprovalRequest.status

/-- Requests are created pending and without decisions. -/
def ApprovalCall.CreatesPending (call : ApprovalCall) : Prop :=
  ∀ now req, call = .createRequest now req → req.status = pending ∧ req.approvals = []

section Sound

variable {call : ApprovalCall} {id : String} {v v' : RequestView} {req : ApprovalRequest}
  {now : ℤ} {actorId comment : String}

theorem mem_approvedBy {actorId : String} : actorId ∈ approvedBy req ↔
    ∃ d ∈ req.approvals, d.actorId = actorId ∧ d.decision = approved := by
  rw [approvedBy, List.mem_dedup, List.mem_map]
  simp only [List.mem_filter, decide_eq_true_eq]
  exact exists_congr fun d ↦ by rw [and_assoc, and_comm (a := d.decision = approved)]

theorem sound_of_status (hpending : req.status ≠ pending) (happroved : req.status ≠ approved) :
    req.Sound where
  decisions h := absurd h (not_or.mpr ⟨hpending, happroved⟩)
  quorum h := absurd h happroved

theorem counts_withApproval (h : Approvable req now actorId) (hsound : req.Sound)
    {d : ApprovalDecision} (hd : d ∈ (withApproval req now actorId comment).approvals) :
    Counts req d := by
  rcases List.mem_append.mp hd with hd | hd
  · exact hsound.decisions (Or.inl h.pending) d hd
  · rw [List.mem_singleton.mp hd]
    exact ⟨rfl, h.other, h.authorized, h.live⟩

theorem sound_withApproval (h : Approvable req now actorId) (hsound : req.Sound) :
    (withApproval req now actorId comment).Sound where
  decisions _ _ hd :=
    have hcounts := counts_withApproval h hsound hd
    ⟨hcounts.approved, hcounts.other, hcounts.authorized, hcounts.live⟩
  quorum happroved := absurd (h.pending.symm.trans happroved) (by simp)

theorem sound_quorum (h : Approvable req now actorId) (hsound : req.Sound)
    (hquorum : req.requiredApprovers ≤ (approvedBy (withApproval req now actorId comment)).length) :
    ({ withApproval req now actorId comment with status := approved } : ApprovalRequest).Sound where
  decisions _ _ hd :=
    have hcounts := counts_withApproval h hsound hd
    ⟨hcounts.approved, hcounts.other, hcounts.authorized, hcounts.live⟩
  quorum _ := ⟨hquorum, List.append_ne_nil_of_right_ne_nil _ (List.cons_ne_nil _ _)⟩

theorem sound_of_change (hcall : call.CreatesPending) (hchange : Change call id v v')
    (h : v.Sound) : v'.Sound := by
  cases hchange with
  | keep => exact h
  | @create v now req hcreate =>
    obtain ⟨hpending, hnil⟩ := hcall now req hcreate
    -- a new request is pending, whatever the log said of an older one
    refine ⟨?_, ?_⟩
    · rintro _ ⟨⟩
      refine ⟨fun _ d hd ↦ ?_, fun happroved ↦ absurd (hpending.symm.trans happroved) (by simp)⟩
      rw [hnil] at hd
      exact absurd hd (by simp)
    · rw [List.foldl_append, Option.map_some, hpending]
      rfl
  | expire hpending =>
    refine ⟨?_, by rw [List.foldl_append]; rfl⟩
    rintro _ ⟨⟩
    exact sound_of_status ApprovalStatus.noConfusion ApprovalStatus.noConfusion
  | approve happrovable =>
    refine ⟨?_, by rw [List.foldl_append, h.replay]; rfl⟩
    rintro _ ⟨⟩
    exact sound_withApproval happrovable (h.request _ rfl)
  | quorum happrovable hquorum =>
    refine ⟨?_, by rw [List.foldl_append]; rfl⟩
    rintro _ ⟨⟩
    exact sound_quorum happrovable (h.request _ rfl) hquorum
  | deny hpending =>
    refine ⟨?_, by rw [List.foldl_append]; rfl⟩
    rintro _ ⟨⟩
    exact sound_of_status ApprovalStatus.noConfusion ApprovalStatus.noConfusion
  | breakGlass =>
    refine ⟨?_, by rw [List.foldl_append]; rfl⟩
    rintro _ ⟨⟩
    exact sound_of_status ApprovalStatus.noConfusion ApprovalStatus.noConfusion

theorem sound_run (repr : String → String) {svc : ApprovalService} {calls : List ApprovalCall}
    (hcalls : ∀ call ∈ calls, call.CreatesPending) (h : ∀ id, (svc.view id).Sound) (id : String) :
    ((svc.run repr calls).view id).Sound := by
  induction calls generalizing svc with
  | nil => exact h id
  | cons call calls ih =>
    rw [List.forall_mem_cons] at hcalls
    refine ih hcalls.2 fun id ↦ ?_
    exact sound_of_change hcalls.1 (change_perform repr svc call id) (h id)

theorem sound_empty (id : String) : (empty.view id).Sound :=
  ⟨fun _ h ↦ (nomatch h), rfl⟩

theorem ApprovalRequest.Sound.meaningful (h : req.Sound) (happroved : req.status = approved) :
    Meaningful req := by
  have hcounts := h.decisions (Or.inr happroved)
  obtain ⟨hquorum, hne⟩ := h.quorum happroved
  refine ⟨⟨approvedBy req, List.nodup_dedup _, max_le ?_ hquorum, ?_⟩, hcounts⟩
  · obtain ⟨d, hd⟩ := List.exists_mem_of_ne_nil _ hne
    have hmem : d.actorId ∈ approvedBy req :=
      mem_approvedBy.mpr ⟨d, hd, rfl, (hcounts d hd).approved⟩
    exact_mod_cast List.length_pos_of_mem hmem
  · exact fun actorId hmem ↦ mem_approvedBy.mp hmem

end Sound

/-- **The meaning of an approval.** In every run in which requests are created pending and without
decisions, an approved request has a quorum of approvals by others who may approve and in time, and
no denial; and the status of every request is the one that its entries in the log lead to. -/
theorem approved_meaning (repr : String → String) (calls : List ApprovalCall)
    (hcalls : ∀ call ∈ calls, call.CreatesPending) (id : String) (req : ApprovalRequest)
    (hreq : (empty.run repr calls).getRequest id = some req) :
    (req.status = approved → Meaningful req) ∧
      (empty.run repr calls).replay id = some req.status := by
  have hsound := sound_run repr hcalls sound_empty id
  refine ⟨(hsound.request req hreq).meaningful, ?_⟩
  exact hsound.replay.trans (congrArg (Option.map ApprovalRequest.status) hreq)

/-! ## A run -/

/-- A request for reading at a node, by alice. -/
def readRequest (nodeId : String) (requiredApprovers : ℤ) : ApprovalRequest where
  action := "read"
  resource := nodeId
  requesterId := "alice"
  tenantId := "t"
  nodeId := nodeId
  riskTier := "low"
  requiredApprovers := requiredApprovers
  twoPersonControl := false
  requestId := "r"
  status := pending
  expiresAt := 100
  delegatedApprovers := []
  approvals := []

def quote (text : String) : String := "'" ++ text ++ "'"

/-- Two approvals of one request. -/
def twoApprovals : List ApprovalCall :=
  [.createRequest 0 (readRequest "n" 2), .approve 1 "r" "bob" "", .approve 2 "r" "carol" ""]

theorem approved_meaning_twoApprovals : ∃ req,
    (empty.run quote twoApprovals).getRequest "r" = some req ∧ req.status = approved ∧
      Meaningful req := by
  refine ⟨_, rfl, by decide, ?_⟩
  refine (approved_meaning quote twoApprovals ?_ "r" _ rfl).1 (by decide)
  intro call hcall now req hcreate
  subst hcreate
  simp only [twoApprovals, List.mem_cons, ApprovalCall.createRequest.injEq, reduceCtorEq,
    List.not_mem_nil, or_false] at hcall
  rw [hcall.2]
  exact ⟨rfl, rfl⟩

end DriftGuardX.Policy
