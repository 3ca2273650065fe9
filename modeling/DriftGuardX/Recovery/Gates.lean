import DriftGuardX.Recovery.Reaching

/-!
# The gates of the execution modes

A run that comes to `_apply` has registered a capsule for its proposal, and a run that does not come
to it leaves the fixtures and the registry alone (`triple_runBody`). The certificate is always
checked first, and nothing is committed without an action that succeeded and a canary that passed.
The two other gates are open: in the manual mode, which is to prepare the capsule and stop, a run
goes on to `_apply` like any other, and outside the dry runs the policy decision is only compared
with the two values that block (`run_respectsGates_iff`).
-/

namespace DriftGuardX.Recovery

open Json Program RecoveryStatus

namespace RecoveryEngine

open LocalDevExecutor (SameFixtures RunsApply Untouched HasCapsule)

variable {V F W M : Type} [PyValue V F] {collab : Collaborators V W} {lib : Library F}
  {call : RunCall V M} {engine : RecoveryEngine V W M} {readings : Readings}
  {toStatus : RecoveryStatus} {reason : String}

/-! ## The gates -/

/-- The certificate is there and validly signed, and it is no older than an hour when it is
checked. -/
def CertificateInOrder (lib : Library F) (call : RunCall V M) : Prop :=
  ∃ certificate key timestamp, call.certificate = some certificate ∧
    nonempty call.signerPublicKeyB64 = some key ∧
    lib.verifySignature key certificate.payload certificate.signatureB64 = true ∧
    certificate.timestamp = .aware timestamp ∧ call.readings.clock 3 - timestamp ≤ maxAge

/-- The policy allows the recovery, or there is an approval. -/
def Authorized (proposal : RecoveryProposal V) : Prop :=
  proposal.policyDecision = some "allow" ∨
    proposal.policyDecision = some "needs_approval" ∧ nonempty proposal.approvalRequestId ≠ none

/-- The action has succeeded, and so has its canary. -/
def RecoveryRecord.Verified (record : RecoveryRecord V M) : Prop :=
  ∃ result canary, record.executionResult = some result ∧ result.success = true ∧
    record.canaryResult = some canary ∧ canary.overallPass = true

/-! ## The rules for the parts of a run -/

section Rules

variable {α : Type} {pre : RunState V W M → Prop}

omit [PyValue V F] in
/-- A program of the executor leaves the record alone. -/
theorem triple_onExecutor {x : Program (LocalDevExecutor V W) Raised α}
    {preEx : LocalDevExecutor V W → Prop} {postEx : α → LocalDevExecutor V W → Prop}
    {raisesEx : Raised → LocalDevExecutor V W → Prop} (J : RecoveryRecord V M → Prop)
    (h : Triple preEx x postEx raisesEx) :
    Triple (fun st : RunState V W M ↦ preEx st.executor ∧ J st.record) (onExecutor x)
      (fun a st ↦ postEx a st.executor ∧ J st.record)
      (fun e st ↦ raisesEx e st.executor ∧ J st.record) :=
  triple_zoom (fun _ hst a ex' hrun ↦ ⟨(h _ hst.1).1 a ex' hrun, hst.2⟩)
    fun _ hst e ex' hrun ↦ ⟨(h _ hst.1).2 e ex' hrun, hst.2⟩

/-- The state with a machine, after the clock was read. -/
def withMachine (st : RunState V W M) (machine : RecoveryStateMachine) : RunState V W M where
  executor := { st.executor with tick := st.executor.tick + 1 }
  record := { st.record with machine }

omit [PyValue V F] in
theorem triple_transition {post : RunState V W M → Prop} {raises : Raised → RunState V W M → Prop}
    (hok : ∀ st machine, pre st → st.record.machine.transition
      (readings.clock st.executor.tick) toStatus "system" reason = .ok machine →
      post (withMachine st machine))
    (herror : ∀ st e, pre st → st.record.machine.transition
      (readings.clock st.executor.tick) toStatus "system" reason = .error e →
      raises e (withMachine st st.record.machine)) :
    Triple pre (transition readings toStatus reason) (fun _ ↦ post) raises := by
  intro st hst
  rw [transition, bind_of_ok (onExecutor_of_ok LocalDevExecutor.now_apply), bind_of_ok get_apply]
  cases hmove : st.record.machine.transition (readings.clock st.executor.tick) toStatus "system"
      reason with
  | ok machine =>
    have hmodify : Triple (· = withMachine st st.record.machine)
        (onRecord fun record ↦ { record with machine }) (fun _ ↦ post) raises :=
      triple_modify fun _ h ↦ h ▸ hok st machine hst hmove
    rw [ofExcept_bind_of_ok rfl]
    exact hmodify _ rfl
  | error e =>
    have hraise : Triple (· = withMachine st st.record.machine)
        (raise e : Program (RunState V W M) Raised Unit) (fun _ ↦ post) raises :=
      triple_raise fun _ h ↦ h ▸ herror st e hst hmove
    rw [ofExcept_bind_of_error rfl]
    exact hraise _ rfl

/-- A property in which neither the clock nor the machine has a part, but for the status that is
entered. -/
def Steady (toStatus : RecoveryStatus) (I : RunState V W M → Prop) : Prop :=
  ∀ st machine, I st → machine.currentStatus = toStatus ∨ machine.currentStatus = compensating ∨
    machine = st.record.machine → I (withMachine st machine)

omit [PyValue V F] in
theorem keeps_transition {I : RunState V W M → Prop} (hI : Steady toStatus I) :
    Keeps I (transition readings toStatus reason) := by
  refine triple_transition (fun st machine hst hmove ↦ ?_) fun st e hst _ ↦ ?_
  · refine hI st machine hst ?_
    rcases (RecoveryStateMachine.of_transition_eq_ok hmove).2 with ⟨-, hforced⟩ | ⟨-, -, hentered⟩
    · exact Or.inr (Or.inl hforced)
    · exact Or.inl hentered
  · exact hI st st.record.machine hst (Or.inr (Or.inr rfl))

end Rules

/-! ## Runs that stop before `_apply` -/

/-- Nothing has happened yet, and nothing is committed. -/
structure Blocked (engine : RecoveryEngine V W M) (st : RunState V W M) : Prop where
  untouched : Untouched engine.executor st.executor
  notCommitted : st.record.machine.currentStatus ≠ committed

omit [PyValue V F] in
theorem steady_blocked (h : toStatus ≠ committed) : Steady toStatus (Blocked engine) := by
  refine fun st machine hst hmachine ↦ ⟨hst.untouched.ticked _, ?_⟩
  change machine.currentStatus ≠ committed
  rcases hmachine with hto | hforced | rfl
  · rwa [hto]
  · rw [hforced]
    decide
  · exact hst.notCommitted

omit [PyValue V F] in
theorem keeps_blocked_of_transition (h : toStatus ≠ committed) :
    Keeps (Blocked engine) (transition readings toStatus reason) :=
  keeps_transition (steady_blocked h)

omit [PyValue V F] in
theorem keeps_blocked_of_escalate (entry : String) :
    Keeps (Blocked engine) (escalate entry) :=
  triple_modify fun _ h ↦ ⟨h.untouched, h.notCommitted⟩

/-- The state of a run on its way to `_apply`, after a number of readings of the clock. From a
reading after the deadline on, the machine is compensating, which does not stop the run. -/
structure Stage (call : RunCall V M) (engine : RecoveryEngine V W M) (n : ℕ)
    (status : RecoveryStatus) (i : ℕ) (st : RunState V W M) : Prop where
  executor : st.executor = { engine.executor with tick := n }
  dated : Dated call.readings st
  late : Late call.readings i → st.record.machine.currentStatus = compensating
  inTime : ¬ Late call.readings i → st.record.machine.currentStatus = status
  capsule : st.record.capsule = none
  proposal : st.record.proposal = call.proposal

omit [PyValue V F] in
theorem stage_start : Stage call engine 1 proposed 0 (start call engine) where
  executor := rfl
  dated := rfl
  late h := absurd h not_late_zero
  inTime _ := rfl
  capsule := rfl
  proposal := rfl

variable {n i : ℕ} {status : RecoveryStatus} {st : RunState V W M}

omit [PyValue V F] in
theorem Stage.blocked (h : Stage call engine n status i st) (hstatus : status ≠ committed) :
    Blocked engine st := by
  refine ⟨h.executor ▸ ⟨⟨rfl, rfl⟩, rfl⟩, ?_⟩
  by_cases hlate : Late call.readings i
  · rw [h.late hlate]
    decide
  · rwa [h.inTime hlate]

omit [PyValue V F] in
/-- A step on the way, which raises exactly when the clock is set back behind the deadline. -/
theorem triple_stage (hallowed : toStatus ∈ allowedTransitions status)
    (hnew : toStatus ∉ allowedTransitions compensating) (hto : toStatus ≠ committed) :
    Triple (Stage call engine n status i) (transition call.readings toStatus reason)
      (fun _ st ↦ Stage call engine (n + 1) toStatus n st ∧
        (Late call.readings i → Late call.readings n))
      (fun _ st ↦ Blocked engine st ∧ ¬ (Late call.readings i → Late call.readings n)) := by
  have hstatus : status ≠ committed := by
    rintro rfl
    exact absurd hallowed List.not_mem_nil
  refine triple_transition (fun st machine hst hmove ↦ ?_) fun st e hst hmove ↦ ?_
  all_goals
    have hdated : st.record.machine.timeoutAt = call.readings.clock 0 +
      RecoveryStateMachine.timeout := hst.dated
    have htick : st.executor.tick = n := by rw [hst.executor]
    rw [htick] at hmove
  · obtain ⟨htimeout, hcases⟩ := RecoveryStateMachine.of_transition_eq_ok hmove
    rw [hdated] at hcases htimeout
    refine ⟨⟨?_, htimeout, fun hlate ↦ ?_, fun hintime ↦ ?_, hst.capsule, hst.proposal⟩,
      fun hlate ↦ ?_⟩
    · rw [withMachine, hst.executor]
    · rcases hcases with ⟨-, hforced⟩ | ⟨hintime, -, -⟩
      · exact hforced
      · exact absurd hlate (not_lt.mpr hintime)
    · rcases hcases with ⟨hlate, -⟩ | ⟨-, -, hentered⟩
      · exact absurd hlate hintime
      · exact hentered
    -- from the compensating status only a forced transition leads on
    · rcases hcases with ⟨hlate', -⟩ | ⟨-, hmem, -⟩
      · exact hlate'
      · exact absurd (hst.late hlate ▸ hmem) hnew
  · refine ⟨steady_blocked hto st st.record.machine (hst.blocked hstatus) (Or.inr (Or.inr rfl)), ?_⟩
    intro hmonotone
    by_cases hlate : Late call.readings i
    · rcases RecoveryStateMachine.of_transition_eq_error hmove with hterminal | ⟨hintime, -⟩
      · rw [RecoveryStateMachine.isTerminal, hst.late hlate] at hterminal
        exact absurd hterminal (by decide)
      · exact absurd (hmonotone hlate) (not_lt.mpr (hdated ▸ hintime))
    · rcases RecoveryStateMachine.of_transition_eq_error hmove with hterminal | ⟨-, hmem⟩
      · rw [RecoveryStateMachine.isTerminal, hst.inTime hlate] at hterminal
        have hnone : allowedTransitions status = [] := by
          revert hterminal
          cases status <;> simp [terminalStates, allowedTransitions]
        exact absurd hallowed (hnone ▸ List.not_mem_nil)
      · exact hmem ((hst.inTime hlate).symm ▸ hallowed)

/-- What the run checks before it executes anything. -/
def Cleared (lib : Library F) (call : RunCall V M) (engine : RecoveryEngine V W M) : Prop :=
  CertificateInOrder lib call ∧
    engine.executor.registry.forProposal call.proposal.proposalId = none

omit [PyValue V F] in
/-- What is cleared with a certificate that verifies. -/
theorem cleared_iff {lib : Library F} {certificate : RecoveryEligibilityCertificate} {key : String}
    (hcertificate : call.certificate = some certificate)
    (hkey : nonempty call.signerPublicKeyB64 = some key)
    (hvalid : lib.verifySignature key certificate.payload certificate.signatureB64 = true) :
    Cleared lib call engine ↔
      engine.executor.registry.forProposal call.proposal.proposalId = none ∧
        ∃ timestamp, certificate.timestamp = .aware timestamp ∧
          call.readings.clock 3 - timestamp ≤ maxAge := by
  constructor
  · rintro ⟨⟨certificate', key', timestamp, hcertificate', -, -, htimestamp, hage⟩, hnone⟩
    obtain rfl := Option.some.inj (hcertificate.symm.trans hcertificate')
    exact ⟨hnone, timestamp, htimestamp, hage⟩
  · rintro ⟨hnone, timestamp, htimestamp, hage⟩
    exact ⟨⟨certificate, key, timestamp, hcertificate, hkey, hvalid, htimestamp, hage⟩, hnone⟩

omit [PyValue V F] in
theorem triple_checkCertificate (lib : Library F) : Triple (Stage call engine 3 preparing 2)
    (checkCertificate lib none call)
    (fun refusal st ↦
      refusal = none ∧ Stage call engine 4 preparing 2 st ∧ Cleared lib call engine ∨
      refusal ≠ none ∧ Blocked engine st ∧ ¬ Cleared lib call engine)
    (fun _ st ↦ Blocked engine st ∧ ¬ Cleared lib call engine) := by
  intro st hst
  have hblocked : Blocked engine st := hst.blocked (by decide)
  have hregistry : st.executor.registry = engine.executor.registry := by rw [hst.executor]
  have htick : st.executor.tick = 3 := by rw [hst.executor]
  by_cases hrefused : ∀ certificate key, call.certificate = some certificate →
      nonempty call.signerPublicKeyB64 = some key →
      lib.verifySignature key certificate.payload certificate.signatureB64 = false
  -- a certificate that is missing or does not verify
  · have hcheck : ∃ refusal, checkCertificate lib none call st = (.ok (some refusal), st) :=
      checkCertificate_of_refused hrefused
    obtain ⟨refusal, hcheck⟩ := hcheck
    refine ends_of_ok hcheck (Or.inr ⟨by simp, hblocked, ?_⟩)
    rintro ⟨⟨certificate, key, timestamp, hcertificate, hkey, hvalid, -⟩, -⟩
    exact absurd ((hrefused certificate key hcertificate hkey).symm.trans hvalid)
      Bool.false_ne_true
  simp only [not_forall, Bool.not_eq_false, exists_prop] at hrefused
  obtain ⟨certificate, key, hcertificate, hkey, hvalid⟩ := hrefused
  rw [cleared_iff hcertificate hkey hvalid]
  by_cases hgood : forProposal none st.executor call.proposal.proposalId = none ∧
      ∃ timestamp, certificate.timestamp = .aware timestamp
  · obtain ⟨hnone, timestamp, htimestamp⟩ := hgood
    have hcheck := checkCertificate_of_valid hcertificate hkey hvalid hnone htimestamp
    rw [htick] at hcheck
    refine ends_of_ok hcheck ?_
    by_cases hold : maxAge < call.readings.clock 3 - timestamp
    · rw [if_pos hold]
      refine Or.inr ⟨by simp, ⟨hblocked.untouched.ticked _, hblocked.notCommitted⟩, ?_⟩
      rintro ⟨-, timestamp', htimestamp', hage⟩
      obtain rfl := Timestamp.aware.inj (htimestamp.symm.trans htimestamp')
      exact absurd hage (not_le.mpr hold)
    · rw [if_neg hold]
      refine Or.inl ⟨rfl, ⟨?_, hst.dated, hst.late, hst.inTime, hst.capsule, hst.proposal⟩,
        hregistry ▸ hnone, timestamp, htimestamp, not_lt.mp hold⟩
      change { st.executor with tick := 3 + 1 } = _
      rw [hst.executor]
  -- a capsule of an earlier run or a naive timestamp makes the check raise
  · obtain ⟨e, n, hcheck⟩ := checkCertificate_of_invalid hcertificate hkey hvalid hgood
    refine ends_of_error hcheck ⟨⟨hblocked.untouched.ticked _, hblocked.notCommitted⟩, ?_⟩
    rintro ⟨hnone, timestamp, htimestamp, -⟩
    refine hgood ⟨?_, timestamp, htimestamp⟩
    rwa [forProposal, Option.getD_none, hregistry]

section Compensation

variable [FloatText F]

theorem triple_compensate_blocked : Triple
    (fun st ↦ Blocked engine st ∧ capsuleOf none st = none)
    (compensate collab lib none readings reason) (fun _ ↦ Blocked engine) (fun _ ↦ Blocked engine) := by
  have hsteady : Steady compensating fun st : RunState V W M ↦
      Blocked engine st ∧ capsuleOf none st = none :=
    fun st machine hst hmachine ↦ ⟨steady_blocked (by decide) st machine hst.1 hmachine, hst.2⟩
  refine ((keeps_transition hsteady).weaken (fun _ h ↦ h) (fun _ _ h ↦ h) fun _ _ h ↦ h.1).bind
    fun _ ↦ triple_get_eq.bind fun st ↦ ?_
  dsimp only
  split
  · refine ((keeps_blocked_of_transition (by decide)).weaken (fun _ h ↦ h.2.1) (fun _ _ h ↦ h)
      fun _ _ h ↦ h).bind fun _ ↦ keeps_blocked_of_escalate _
  · rename_i c hc
    rintro _ ⟨rfl, -, hnone⟩
    exact absurd (hnone.symm.trans hc) (by simp)

/-- The action was executed, and nothing is committed yet. -/
structure Applied (call : RunCall V M) (st : RunState V W M) : Prop where
  hasCapsule : HasCapsule call.proposal.proposalId st.executor
  proposal : st.record.proposal = call.proposal
  capsule : ∀ c, st.record.capsule = some c → c.proposalId = call.proposal.proposalId
  notCommitted : st.record.machine.currentStatus ≠ committed

omit [PyValue V F] [FloatText F] in
theorem steady_applied (h : toStatus ≠ committed) :
    Steady toStatus (Applied call : RunState V W M → Prop) := by
  refine fun st machine hst hmachine ↦ ⟨hst.hasCapsule, hst.proposal, hst.capsule, ?_⟩
  change machine.currentStatus ≠ committed
  rcases hmachine with hto | hforced | rfl
  · rwa [hto]
  · rw [hforced]
    decide
  · exact hst.notCommitted

omit [PyValue V F] [FloatText F] in
theorem keeps_applied_of_onExecutor {α : Type} {x : Program (LocalDevExecutor V W) Raised α}
    (h : Keeps (HasCapsule call.proposal.proposalId) x) :
    Keeps (Applied call) (onExecutor x : Program (RunState V W M) Raised α) := by
  refine (triple_onExecutor (fun record ↦ record.proposal = call.proposal ∧
    (∀ c, record.capsule = some c → c.proposalId = call.proposal.proposalId) ∧
    record.machine.currentStatus ≠ committed) h).weaken ?_ ?_ ?_
  · exact fun st hst ↦ ⟨hst.hasCapsule, hst.proposal, hst.capsule, hst.notCommitted⟩
  · exact fun _ st hst ↦ ⟨hst.1, hst.2.1, hst.2.2.1, hst.2.2.2⟩
  · exact fun _ st hst ↦ ⟨hst.1, hst.2.1, hst.2.2.1, hst.2.2.2⟩

omit [PyValue V F] [FloatText F] in
theorem keeps_applied_of_escalate (entry : String) :
    Keeps (Applied call : RunState V W M → Prop) (escalate entry) :=
  triple_modify fun _ h ↦ ⟨h.hasCapsule, h.proposal, h.capsule, h.notCommitted⟩

omit [PyValue V F] [FloatText F] in
theorem keeps_applied_of_transition (h : toStatus ≠ committed) :
    Keeps (Applied call : RunState V W M → Prop) (transition readings toStatus reason) :=
  keeps_transition (steady_applied h)

theorem keeps_compensate : Keeps (Applied call : RunState V W M → Prop)
    (compensate collab lib none readings reason) := by
  refine (keeps_applied_of_transition (by decide)).bind fun _ ↦ triple_get_eq.bind fun st ↦ ?_
  dsimp only
  split
  · refine ((keeps_applied_of_transition (by decide)).weaken (fun _ h ↦ h.2) (fun _ _ h ↦ h)
      fun _ _ h ↦ h).bind fun _ ↦ keeps_applied_of_escalate _
  rename_i c hc
  rintro _ ⟨rfl, hst⟩
  -- the capsule of the record and the one in the registry belong to the proposal
  have hid : c.proposalId = call.proposal.proposalId := by
    rcases Option.or_eq_some_iff.mp hc with hrecord | ⟨-, hregistry⟩
    · exact hst.capsule c hrecord
    · rw [hst.proposal] at hregistry
      simpa using List.find?_some hregistry
  refine ((keeps_applied_of_onExecutor (LocalDevExecutor.keeps_compensate hid)).bind fun result ↦
    Triple.bind (?_ : Triple _ _ (fun _ ↦ Applied call) _) fun _ ↦ ?_) st hst
  · refine triple_modify fun st hst ↦ ?_
    refine ⟨hst.hasCapsule, hst.proposal, ?_, hst.notCommitted⟩
    intro c' hc'
    dsimp only at hc'
    split at hc'
    · obtain ⟨c'', hc'', rfl⟩ := Option.map_eq_some_iff.mp hc'
      exact hst.capsule c'' hc''
    · exact hst.capsule c' hc'
  · split
    · refine (keeps_applied_of_transition (by decide)).bind fun _ ↦ ?_
      refine keeps_attempt (keeps_applied_of_onExecutor ?_) fun _ ↦ triple_pure fun _ h ↦ h
      refine Triple.bind ((LocalDevExecutor.triple_now LocalDevExecutor.apart_hasCapsule.internal
        readings fun _ h ↦ h).weaken (fun _ h ↦ h) (fun _ _ h ↦ h.2) fun _ _ h ↦ h) fun time ↦ ?_
      exact LocalDevExecutor.keeps_outside LocalDevExecutor.apart_hasCapsule.internal _
    · exact (keeps_applied_of_transition (by decide)).bind fun _ ↦ keeps_applied_of_escalate _

end Compensation

/-! ## The action -/

section Action

variable [FloatText F] [FloatMetric M] {autoCompensate : Bool}

/-- The end of a run that came to `_apply`. -/
structure Finished (call : RunCall V M) (st : RunState V W M) : Prop where
  hasCapsule : HasCapsule call.proposal.proposalId st.executor
  verified : st.record.machine.currentStatus = committed → RecoveryRecord.Verified st.record

omit [PyValue V F] [FloatText F] [FloatMetric M] in
theorem Applied.finished {st : RunState V W M} (h : Applied call st) : Finished call st :=
  ⟨h.hasCapsule, fun hcommitted ↦ absurd hcommitted h.notCommitted⟩

theorem triple_verify : Triple
    (fun st ↦ Applied call st ∧ ∃ result, st.record.executionResult = some result ∧
      result.success = true)
    (verify collab lib none autoCompensate call) (fun _ ↦ Finished call) (fun _ ↦ Finished call) := by
  have hfinished : ∀ {α : Type} {x : Program (RunState V W M) Raised α},
      Keeps (Applied call) x → Triple (Applied call) x (fun _ ↦ Finished call)
        fun _ ↦ Finished call :=
    fun h ↦ h.weaken (fun _ h ↦ h) (fun _ _ h ↦ h.finished) fun _ _ h ↦ h.finished
  have hsteady : Steady verifying fun st : RunState V W M ↦ Applied call st ∧
      ∃ result, st.record.executionResult = some result ∧ result.success = true :=
    fun st machine hst hmachine ↦ ⟨steady_applied (by decide) st machine hst.1 hmachine, hst.2⟩
  refine triple_get_eq.bind fun st ↦ ?_
  dsimp only
  refine Triple.bind (?_ : Triple _ _ (fun _ st ↦ Applied call st ∧
    ∃ result, st.record.executionResult = some result ∧ result.success = true) _) fun _ ↦ ?_
  · refine triple_modify ?_
    rintro _ ⟨rfl, hst, hsuccess⟩
    refine ⟨⟨hst.hasCapsule, hst.proposal, fun c hc ↦ ?_, hst.notCommitted⟩, hsuccess⟩
    simpa using List.find?_some hc
  refine ((keeps_transition hsteady).weaken (fun _ h ↦ h) (fun _ _ h ↦ h)
    fun _ _ h ↦ h.1.finished).bind fun _ ↦ ?_
  refine Triple.bind (?_ : Triple _ _ (fun _ st ↦ Applied call st ∧
    (∃ result, st.record.executionResult = some result ∧ result.success = true) ∧
    st.record.canaryResult = some (runCanaryVerification call.proposal.proposalId
      call.canaryEpisodes call.canaryThresholds)) _) fun _ ↦ ?_
  · refine triple_modify ?_
    rintro st ⟨hst, hsuccess⟩
    exact ⟨⟨hst.hasCapsule, hst.proposal, hst.capsule, hst.notCommitted⟩, hsuccess, rfl⟩
  split
  · rename_i hpass
    have hverified : Steady committed fun st : RunState V W M ↦
        HasCapsule call.proposal.proposalId st.executor ∧ RecoveryRecord.Verified st.record :=
      fun st machine hst _ ↦ hst
    refine (keeps_transition hverified).weaken ?_ (fun _ _ h ↦ ⟨h.1, fun _ ↦ h.2⟩)
      fun _ _ h ↦ ⟨h.1, fun _ ↦ h.2⟩
    rintro st ⟨hst, ⟨result, hresult, hsuccess⟩, hcanary⟩
    exact ⟨hst.hasCapsule, result, _, hresult, hsuccess, hcanary, hpass⟩
  · split
    · exact (hfinished keeps_compensate).weaken (fun _ h ↦ h.1) (fun _ _ h ↦ h) fun _ _ h ↦ h
    · refine (hfinished ?_).weaken (fun _ h ↦ h.1) (fun _ _ h ↦ h) fun _ _ h ↦ h
      exact (keeps_applied_of_transition (by decide)).bind fun _ ↦ keeps_applied_of_escalate _

omit [FloatMetric M] in
theorem triple_execute_reaches (hreaches : LocalDevExecutor.CallReachesApply collab call.readings
    lib call.proposal { engine.executor with tick := 5 })
    (hnone : engine.executor.registry.forProposal call.proposal.proposalId = none) :
    Triple (Stage call engine 5 executing 4) (execute collab lib call) (fun _ ↦ Applied call)
      (fun _ ↦ Applied call) := by
  have happlied : ∀ st : RunState V W M, LocalDevExecutor.Stored call.readings lib call.proposal
      engine.executor.registry st.executor ∧ (st.record.proposal = call.proposal ∧
        st.record.capsule = none ∧ st.record.machine.currentStatus ≠ committed) →
      Applied call st := by
    rintro st ⟨hstored, hproposal, hcapsule, hstatus⟩
    obtain ⟨c, hc, -⟩ := fresh_of_stored hnone hstored
    exact ⟨Option.isSome_iff_exists.mpr ⟨c, hc⟩, hproposal, fun c' hc' ↦
      absurd (hcapsule.symm.trans hc') (by simp), hstatus⟩
  refine Triple.attempt ((triple_onExecutor (fun record ↦ record.proposal = call.proposal ∧
    record.capsule = none ∧ record.machine.currentStatus ≠ committed)
    (LocalDevExecutor.triple_call_reaches engine.executor.registry)).weaken (fun st hst ↦ ?_)
    (fun _ st ↦ happlied st) fun _ st ↦ happlied st) fun _ ↦ triple_pure fun _ h ↦ h
  rw [hst.executor]
  exact ⟨⟨hreaches, rfl⟩, hst.proposal, hst.capsule, (hst.blocked (by decide)).notCommitted⟩

theorem triple_act_reaches (hreaches : LocalDevExecutor.CallReachesApply collab call.readings lib
    call.proposal { engine.executor with tick := 5 })
    (hnone : engine.executor.registry.forProposal call.proposal.proposalId = none) :
    Triple (Stage call engine 5 executing 4) (act collab lib none autoCompensate call)
      (fun _ ↦ Finished call) (fun _ ↦ Finished call) := by
  refine ((triple_execute_reaches hreaches hnone).weaken (fun _ h ↦ h) (fun _ _ h ↦ h)
    fun _ _ h ↦ h.finished).bind fun result ↦ ?_
  refine Triple.bind (?_ : Triple _ _ (fun _ st ↦ Applied call st ∧
    st.record.executionResult = some result) _) fun _ ↦ ?_
  · exact triple_modify fun st hst ↦
      ⟨⟨hst.hasCapsule, hst.proposal, hst.capsule, hst.notCommitted⟩, rfl⟩
  split
  · rename_i hsuccess
    exact triple_verify.weaken (fun st h ↦ ⟨h.1, result, h.2, hsuccess⟩) (fun _ _ h ↦ h)
      fun _ _ h ↦ h
  · exact keeps_compensate.weaken (fun _ h ↦ h.1) (fun _ _ h ↦ h.finished) fun _ _ h ↦ h.finished

omit [FloatMetric M] in
/-- An execution that does not come to `_apply` counts as failed. -/
theorem triple_execute_blocked (hmode : call.proposal.executionMode ≠ .dryRun)
    (hblocked : ¬ LocalDevExecutor.CallReachesApply collab call.readings lib call.proposal
      { engine.executor with tick := 5 })
    (hnone : engine.executor.registry.forProposal call.proposal.proposalId = none) :
    Triple (Stage call engine 5 executing 4) (execute collab lib call)
      (fun result st ↦ result.success = false ∧ Blocked engine st ∧ capsuleOf none st = none)
      (fun _ ↦ Blocked engine) := by
  refine Triple.attempt ((triple_onExecutor (fun record ↦ record.proposal = call.proposal ∧
    record.capsule = none ∧ record.machine.currentStatus ≠ committed)
    (LocalDevExecutor.triple_call_blocked engine.executor)).weaken (fun st hst ↦ ?_)
    (fun _ st h ↦ absurd h.1.1 hmode) fun _ _ h ↦ h) fun exc ↦ triple_pure ?_
  · rw [hst.executor]
    exact ⟨⟨hblocked, ⟨⟨rfl, rfl⟩, rfl⟩⟩, hst.proposal, hst.capsule,
      (hst.blocked (by decide)).notCommitted⟩
  · rintro st ⟨huntouched, hproposal, hcapsule, hstatus⟩
    refine ⟨rfl, ⟨huntouched, hstatus⟩, ?_⟩
    rw [capsuleOf, hcapsule, Option.none_or, hproposal, forProposal, Option.getD_none,
      huntouched.registry]
    exact hnone

theorem triple_act_blocked (hmode : call.proposal.executionMode ≠ .dryRun)
    (hblocked : ¬ LocalDevExecutor.CallReachesApply collab call.readings lib call.proposal
      { engine.executor with tick := 5 })
    (hnone : engine.executor.registry.forProposal call.proposal.proposalId = none) :
    Triple (Stage call engine 5 executing 4) (act collab lib none autoCompensate call)
      (fun _ ↦ Blocked engine) (fun _ ↦ Blocked engine) := by
  refine (triple_execute_blocked hmode hblocked hnone).bind fun result ↦ ?_
  refine Triple.bind (?_ : Triple _ _ (fun _ st ↦ result.success = false ∧
    Blocked engine st ∧ capsuleOf none st = none) _) fun _ ↦ ?_
  · exact triple_modify fun st hst ↦ ⟨hst.1, ⟨hst.2.1.untouched, hst.2.1.notCommitted⟩, hst.2.2⟩
  split
  · rename_i hsuccess
    exact fun st hst ↦ absurd hst.1 (by rw [hsuccess]; decide)
  · exact triple_compensate_blocked.weaken (fun _ h ↦ h.2) (fun _ _ h ↦ h) fun _ _ h ↦ h

end Action

/-! ## The run -/

section Run

variable [FloatText F]

/-- The conditions under which a run comes to `_apply`: the policy does not stop it, the clock is
not set back behind its deadline, its certificate is in order, it is the first execution of its
proposal, and the executor comes to `_apply`. -/
structure ReachesApply (collab : Collaborators V W) (lib : Library F) (call : RunCall V M)
    (engine : RecoveryEngine V W M) : Prop where
  permitted : ¬ Denied call.proposal ∧ ¬ AwaitsApproval call.proposal
  notSetBack : (Late call.readings 1 → Late call.readings 2) ∧
    (Late call.readings 2 → Late call.readings 4)
  cleared : Cleared lib call engine
  executor : LocalDevExecutor.CallReachesApply collab call.readings lib call.proposal
    { engine.executor with tick := 5 }

theorem not_callReachesApply_of_dryRun {ex : LocalDevExecutor V W}
    (hmode : call.proposal.executionMode = .dryRun) :
    ¬ LocalDevExecutor.CallReachesApply collab readings lib call.proposal ex := by
  intro h
  rw [LocalDevExecutor.CallReachesApply] at h
  split at h
  · obtain ⟨_, -, hreaches⟩ := h
    exact hreaches.2.1 hmode
  · exact h.2.1 hmode

/-- How a run ends, depending on whether it came to `_apply`. -/
inductive Outcome (collab : Collaborators V W) (lib : Library F) (call : RunCall V M)
    (engine : RecoveryEngine V W M) (st : RunState V W M) : Prop
  | applied (reaches : ReachesApply collab lib call engine) (finished : Finished call st)
  | blocked (blocked : ¬ ReachesApply collab lib call engine)
      (untouched : Untouched engine.executor st.executor)
      (committed : st.record.machine.currentStatus = committed →
        call.proposal.executionMode = .dryRun)

theorem Blocked.outcome {st : RunState V W M} (h : Blocked engine st)
    (hblocked : ¬ ReachesApply collab lib call engine) : Outcome collab lib call engine st :=
  .blocked hblocked h.untouched fun hcommitted ↦ absurd hcommitted h.notCommitted

theorem keeps_dryRun (hmode : call.proposal.executionMode = .dryRun) :
    Keeps (fun st ↦ Untouched engine.executor st.executor) (dryRun collab lib call) := by
  have hsteady : ∀ toStatus, Steady toStatus
      fun st : RunState V W M ↦ Untouched engine.executor st.executor :=
    fun _ _ _ hst _ ↦ Untouched.ticked hst _
  have hcall : Keeps (Untouched engine.executor)
      (LocalDevExecutor.call collab call.readings lib call.proposal) :=
    (LocalDevExecutor.triple_call_blocked _).weaken
      (fun _ h ↦ ⟨not_callReachesApply_of_dryRun hmode, h⟩) (fun _ _ h ↦ h.2) fun _ _ h ↦ h
  refine (keeps_transition (hsteady _)).bind fun _ ↦ (keeps_transition (hsteady _)).bind fun _ ↦ ?_
  refine ((triple_onExecutor (fun _ ↦ True) hcall).weaken (fun _ h ↦ ⟨h, trivial⟩)
    (fun _ _ h ↦ h.1) fun _ _ h ↦ h.1).bind fun result ↦ ?_
  refine Triple.bind (?_ : Triple _ _ (fun _ st ↦ Untouched engine.executor st.executor) _)
    fun _ ↦ ?_
  · exact triple_modify fun _ h ↦ h
  exact (keeps_transition (hsteady _)).bind fun _ ↦ keeps_transition (hsteady _)

variable [FloatMetric M] {autoCompensate : Bool}

/-- From the executing status on, the run comes to `_apply` exactly when the executor does. -/
theorem triple_afterCheck (hmode : call.proposal.executionMode ≠ .dryRun)
    (hpermitted : ¬ Denied call.proposal ∧ ¬ AwaitsApproval call.proposal)
    (hlate : Late call.readings 1 → Late call.readings 2) (hcleared : Cleared lib call engine) :
    Triple (Stage call engine 4 preparing 2) (afterCheck collab lib none autoCompensate call none)
      (fun _ ↦ Outcome collab lib call engine) (fun _ ↦ Outcome collab lib call engine) := by
  refine ((triple_stage (by decide) (by decide) (by decide)).weaken (fun _ h ↦ h) (fun _ _ h ↦ h)
    fun _ st h ↦ h.1.outcome fun hreaches ↦ h.2 hreaches.notSetBack.2).bind fun _ ↦ ?_
  rintro st ⟨hst, hlate'⟩
  by_cases hcall : LocalDevExecutor.CallReachesApply collab call.readings lib call.proposal
      { engine.executor with tick := 5 }
  · have hreaches : ReachesApply collab lib call engine :=
      ⟨hpermitted, ⟨hlate, hlate'⟩, hcleared, hcall⟩
    exact (triple_act_reaches hcall hcleared.2).weaken (fun _ h ↦ h)
      (fun _ _ h ↦ .applied hreaches h) (fun _ _ h ↦ .applied hreaches h) st hst
  · have hblocked : ¬ ReachesApply collab lib call engine := fun h ↦ hcall h.executor
    exact (triple_act_blocked hmode hcall hcleared.2).weaken (fun _ h ↦ h)
      (fun _ _ h ↦ h.outcome hblocked) (fun _ _ h ↦ h.outcome hblocked) st hst

theorem triple_mutatingRun (hmode : call.proposal.executionMode ≠ .dryRun)
    (hpermitted : ¬ Denied call.proposal ∧ ¬ AwaitsApproval call.proposal) :
    Triple (Stage call engine 2 policyChecking 1) (mutatingRun collab lib none autoCompensate call)
      (fun _ ↦ Outcome collab lib call engine) (fun _ ↦ Outcome collab lib call engine) := by
  refine ((triple_stage (by decide) (by decide) (by decide)).weaken (fun _ h ↦ h) (fun _ _ h ↦ h)
    fun _ st h ↦ h.1.outcome fun hreaches ↦ h.2 hreaches.notSetBack.1).bind fun _ ↦ ?_
  rintro st ⟨hst, hlate⟩
  refine (((triple_checkCertificate lib).weaken (fun _ h ↦ h) (fun _ _ h ↦ h)
    fun _ st h ↦ h.1.outcome fun hreaches ↦ h.2 hreaches.cleared).bind fun refusal ↦ ?_) st hst
  rintro st (⟨rfl, hst, hcleared⟩ | ⟨hrefusal, hst, hnot⟩)
  · exact triple_afterCheck hmode hpermitted hlate hcleared st hst
  · obtain ⟨refusal, rfl⟩ := Option.ne_none_iff_exists'.mp hrefusal
    have hrefused : Keeps (Blocked engine) (afterCheck collab lib none autoCompensate call
        (some refusal)) :=
      (keeps_blocked_of_transition (by decide)).bind fun _ ↦ keeps_blocked_of_escalate _
    have hblocked : ¬ ReachesApply collab lib call engine := fun h ↦ hnot h.cleared
    exact hrefused.weaken (fun _ h ↦ h) (fun _ _ h ↦ h.outcome hblocked)
      (fun _ _ h ↦ h.outcome hblocked) st hst

theorem triple_runBody : Triple (· = start call engine) (runBody collab lib none autoCompensate call)
    (fun _ ↦ Outcome collab lib call engine) (fun _ ↦ Outcome collab lib call engine) := by
  have hfirst : Triple (Stage call engine 1 proposed 0)
      (transition call.readings policyChecking "Starting policy check.")
      (fun _ ↦ Stage call engine 2 policyChecking 1) (fun _ ↦ Outcome collab lib call engine) := by
    refine (triple_stage (by decide) (by decide) (by decide)).weaken (fun _ h ↦ h)
      (fun _ _ h ↦ h.1) fun _ st h ↦ absurd (fun hlate ↦ ?_) h.2
    exact absurd hlate not_late_zero
  refine Triple.bind (hfirst.weaken (fun st hst ↦ hst ▸ stage_start) (fun _ _ h ↦ h)
    fun _ _ h ↦ h) fun _ ↦ ?_
  split
  · rename_i hdenied
    have hblocked : ¬ ReachesApply collab lib call engine := fun h ↦ h.permitted.1 hdenied
    have hkeeps : Keeps (Blocked engine) (do
        transition call.readings failed "Policy denied this recovery action."
        escalate "Policy DENY — recovery blocked.") :=
      (keeps_blocked_of_transition (by decide)).bind fun _ ↦ keeps_blocked_of_escalate _
    exact hkeeps.weaken (fun _ h ↦ h.blocked (by decide)) (fun _ _ h ↦ h.outcome hblocked)
      fun _ _ h ↦ h.outcome hblocked
  rename_i hdenied
  split
  · rename_i hawaits
    have hblocked : ¬ ReachesApply collab lib call engine := fun h ↦ h.permitted.2 hawaits
    exact (keeps_blocked_of_transition (by decide)).weaken (fun _ h ↦ h.blocked (by decide))
      (fun _ _ h ↦ h.outcome hblocked) fun _ _ h ↦ h.outcome hblocked
  rename_i hawaits
  split
  · rename_i hmode
    have hblocked : ¬ ReachesApply collab lib call engine :=
      fun h ↦ not_callReachesApply_of_dryRun hmode h.executor
    exact (keeps_dryRun hmode).weaken (fun _ h ↦ (h.blocked (by decide)).untouched)
      (fun _ _ h ↦ .blocked hblocked h fun _ ↦ hmode) fun _ _ h ↦ .blocked hblocked h fun _ ↦ hmode
  · rename_i hmode
    exact triple_mutatingRun hmode ⟨hdenied, hawaits⟩

/-- What the docstring of the engine promises of the modes: the manual mode and dry runs change
nothing and do not come to `_apply`, the others come to it with a certificate and an authorization,
and nothing is committed without an action and a canary that succeeded. -/
structure RespectsGates (collab : Collaborators V W) (lib : Library F) (call : RunCall V M)
    (engine : RecoveryEngine V W M) : Prop where
  stops : call.proposal.executionMode = .manual ∨ call.proposal.executionMode = .dryRun →
    SameFixtures engine.executor (run collab lib call engine).2.executor ∧
    ¬ RunsApply call.proposal.proposalId engine.executor (run collab lib call engine).2.executor
  gated : call.proposal.executionMode = .simulation ∨ call.proposal.executionMode = .approved →
    RunsApply call.proposal.proposalId engine.executor (run collab lib call engine).2.executor →
    CertificateInOrder lib call ∧ Authorized call.proposal
  committed : call.proposal.executionMode ≠ .dryRun →
    ∀ record, (call.proposal.proposalId, record) ∈ (run collab lib call engine).2.records →
    record.machine.currentStatus = committed →
    RunsApply call.proposal.proposalId engine.executor
      (run collab lib call engine).2.executor ∧ RecoveryRecord.Verified record

/-- A run comes to `_apply` exactly under the conditions. -/
theorem runsApply_run_iff :
    RunsApply call.proposal.proposalId engine.executor (run collab lib call engine).2.executor ↔
      ReachesApply collab lib call engine := by
  have houtcome : Outcome collab lib call engine
      (runBody collab lib none engine.autoCompensate call (start call engine)).2 :=
    triple_runBody.final rfl
  cases houtcome with
  | applied hreaches hfinished =>
    exact iff_of_true (LocalDevExecutor.runsApply_of_forProposal hreaches.cleared.2
      hfinished.hasCapsule) hreaches
  | blocked hblocked huntouched => exact iff_of_false huntouched.not_runsApply hblocked

/-- **The gates of the modes.** After every history of runs, a run respects the gates exactly when
it does not come to `_apply` in the manual mode, and comes to it in the other modes only with an
authorization. -/
theorem run_respectsGates_iff (call : RunCall V M) (engine : RecoveryEngine V W M)
    (history : List (RunCall V M)) :
    RespectsGates collab lib call (after (run collab lib) history engine) ↔
      (call.proposal.executionMode = .manual →
        ¬ ReachesApply collab lib call (after (run collab lib) history engine)) ∧
      (call.proposal.executionMode = .simulation ∨ call.proposal.executionMode = .approved →
        ReachesApply collab lib call (after (run collab lib) history engine) →
        Authorized call.proposal) := by
  -- the engine may be in any state
  generalize after (run collab lib) history engine = engine
  constructor
  · intro h
    exact ⟨fun hmode hreaches ↦ (h.stops (Or.inl hmode)).2 (runsApply_run_iff.mpr hreaches),
      fun hmode hreaches ↦ (h.gated hmode (runsApply_run_iff.mpr hreaches)).2⟩
  · rintro ⟨hmanual, hauthorized⟩
    have houtcome : Outcome collab lib call engine
        (runBody collab lib none engine.autoCompensate call (start call engine)).2 :=
      triple_runBody.final rfl
    refine ⟨fun hmode ↦ ?_, fun hmode happly ↦ ?_, fun hmode record hrecord hcommitted ↦ ?_⟩
    · have hblocked : ¬ ReachesApply collab lib call engine := by
        rcases hmode with hmode | hmode
        · exact hmanual hmode
        · exact fun h ↦ not_callReachesApply_of_dryRun hmode h.executor
      cases houtcome with
      | applied hreaches => exact absurd hreaches hblocked
      | blocked _ huntouched => exact ⟨huntouched.fixtures, huntouched.not_runsApply⟩
    · have hreaches := runsApply_run_iff.mp happly
      exact ⟨hreaches.cleared.1, hauthorized hmode hreaches⟩
    · obtain rfl := eq_of_mem_setItem hrecord
      cases houtcome with
      | applied hreaches hfinished =>
        exact ⟨runsApply_run_iff.mpr hreaches, hfinished.verified hcommitted⟩
      | blocked _ _ hdry => exact absurd (hdry hcommitted) hmode

end Run

/-! ## A run in the manual mode -/

/-- A run in the manual mode that disables a tool, with a certificate of the same moment. -/
def manualRun : RunCall (Scalar Empty) ℚ where
  proposal := { (toolDryRun [("tool_id", .str "t")]).proposal with executionMode := .manual }
  canaryEpisodes := []
  canaryThresholds := none
  certificate := some ⟨[], .aware 0, "signature"⟩
  signerPublicKeyB64 := some "key"
  readings := ⟨fun _ ↦ 0, fun _ ↦ "id"⟩

/-- A library that verifies the signature. -/
def verifyingLibrary : Library Empty := { idleLibrary with verifySignature := fun _ _ _ ↦ true }

/-- The run comes to `_apply` instead of stopping with the capsule. -/
theorem not_respectsGates_manual :
    ¬ RespectsGates idleCollaborators verifyingLibrary manualRun emptyEngine := by
  intro h
  have hstops := (h.stops (Or.inl rfl)).2
  refine hstops ?_
  have hregistry : ((run idleCollaborators verifyingLibrary manualRun
      emptyEngine).2.executor.registry.map fun m ↦ m.2.proposalId) = ["p"] := by decide +kernel
  obtain ⟨m, hm, hid⟩ := List.mem_map.mp (hregistry ▸ List.mem_singleton_self "p")
  exact ⟨m, hm, hid, List.not_mem_nil⟩

end RecoveryEngine

end DriftGuardX.Recovery
