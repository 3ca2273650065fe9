import DriftGuardX.Recovery.Execution
import DriftGuardX.Recovery.Integrity

/-!
# Capsules as objects

A capsule is one object for the registry and for all who hold it: sealing, voiding and expiring it
is seen by everyone. Here the objects are a list, an object is known by its position, and the
registry holds positions; executions and compensations are those of the executor
(`execute_simulates`, `compensate_simulates`).

Whatever is done with capsules, one that is not active never becomes active again
(`keeps_perform`), so that a rollback succeeds at most once for each object and never after it was
voided, used or expired (`capsule_used_once`). A changed capsule is refused if the change is seen in
the text that is hashed, which it need not be (`not_refuses_otherKey`).
-/

namespace DriftGuardX.Recovery

open Json Bytes Transaction Program

/-- The executor, the capsules that were made, and the registry. -/
structure CapsuleObjects (V W : Type) where
  executor : LocalDevExecutor V W
  capsules : List (RollbackCapsule V)
  registered : Dict ℕ

/-- What can be done with capsules. -/
inductive CapsuleCall (V : Type) where
  | construct (capsule : RollbackCapsule V)
  | execute (proposal : RecoveryProposal V)
  | compensate (ref : ℕ)
  | get (capsuleId : String)
  | void (capsuleId : String)
  | store (ref : ℕ)

namespace CapsuleObjects

variable {V F W : Type} [PyValue V F]

/-- A program of the executor. -/
def onExecutor {α : Type} (x : Program (LocalDevExecutor V W) Raised α) :
    Program (CapsuleObjects V W) Raised α :=
  Program.zoom CapsuleObjects.executor (fun st ex ↦ { st with executor := ex }) x

/-- The object at a position; a caller has no positions but those of objects. -/
def object (ref : ℕ) : Program (CapsuleObjects V W) Raised (RollbackCapsule V) := do
  let st ← Program.get
  .ofExcept (orRaise ⟨.other, "no such object"⟩ st.capsules[ref]?)

/-- Assigning to the status of an object. -/
def setStatus (ref : ℕ) (status : CapsuleStatus) : Program (CapsuleObjects V W) Raised Unit :=
  .modify fun st ↦ { st with capsules := st.capsules.modify ref fun c ↦ { c with status } }

/-- A new object. -/
def allocate (capsule : RollbackCapsule V) : Program (CapsuleObjects V W) Raised ℕ := fun st ↦
  (.ok st.capsules.length, { st with capsules := st.capsules ++ [capsule] })

/-! ## The registry -/

def store (ref : ℕ) : Program (CapsuleObjects V W) Raised Unit := do
  let capsule ← object ref
  .modify fun st ↦ { st with registered := setItem st.registered capsule.capsuleId ref }

/-- `get`, which marks a capsule that has expired. -/
def get (readings : Readings) (capsuleId : String) :
    Program (CapsuleObjects V W) Raised (Option ℕ) := do
  let st ← Program.get
  match st.registered.get? capsuleId with
  | none => return none
  | some ref => do
    let capsule ← object ref
    if capsule.status = .active then do
      let time ← onExecutor (LocalDevExecutor.now readings)
      if capsule.expiresAt < time then do
        setStatus ref .expired
        return some ref
      else return some ref
    else return some ref

/-- `void`, whatever the status is. -/
def void (capsuleId : String) : Program (CapsuleObjects V W) Raised Unit := do
  let st ← Program.get
  match st.registered.get? capsuleId with
  | none => return ()
  | some ref => setStatus ref .voided

/-! ## The executor -/

variable (collab : Collaborators V W) (readings : Readings) (lib : Library F) [FloatText F]

/-- The constructor, which computes the integrity hash. -/
def construct (capsule : RollbackCapsule V) : Program (CapsuleObjects V W) Raised ℕ := do
  let made ← .ofExcept (capsule.sealed lib)
  allocate made

def execute (proposal : RecoveryProposal V) :
    Program (CapsuleObjects V W) Raised (ExecutionResult V) := do
  let st ← Program.get
  .ofExcept (st.executor.guards proposal)
  if proposal.executionMode = .dryRun then return LocalDevExecutor.dryRunResult proposal
  else do
    let capsule ← onExecutor (LocalDevExecutor.prepareCapsule collab readings lib proposal)
    let ref ← allocate capsule
    store ref
    onExecutor (LocalDevExecutor.applyRecorded collab proposal capsule)

def compensate (ref : ℕ) : Program (CapsuleObjects V W) Raised (ExecutionResult V) := do
  let capsule ← object ref
  let time ← onExecutor (LocalDevExecutor.now readings)
  match ← .ofExcept (capsule.isUsable lib time) with
  | some reason => return { LocalDevExecutor.failed capsule.proposalId
        ("Capsule unusable: " ++ reason) reason with
      capsuleId := some capsule.capsuleId }
  | none => do
    let result ← onExecutor (LocalDevExecutor.rollback collab capsule)
    if result.success then do
      setStatus ref .used
      return result
    else return result

/-- A call, with the result of an execution or a compensation. -/
def perform : CapsuleCall V → Program (CapsuleObjects V W) Raised (Option (ExecutionResult V))
  | .construct capsule => do
    let _ ← construct lib capsule
    return none
  | .execute proposal => do
    let result ← execute collab readings lib proposal
    return some result
  | .compensate ref => do
    let result ← compensate collab readings lib ref
    return some result
  | .get capsuleId => do
    let _ ← get readings capsuleId
    return none
  | .void capsuleId => do
    void capsuleId
    return none
  | .store ref => do
    store ref
    return none

/-- The call rolls the capsule back. -/
def rollsBack (ref : ℕ) (st : CapsuleObjects V W) : CapsuleCall V → Bool
  | .compensate ref' => ref' = ref &&
      match (compensate collab readings lib ref st).1 with
      | .ok result => result.success
      | .error _ => false
  | _ => false

/-- How often the capsule is rolled back in a series of calls. -/
def rollbacks (ref : ℕ) : List (CapsuleCall V) → CapsuleObjects V W → ℕ
  | [], _ => 0
  | call :: calls, st =>
    (if rollsBack collab readings lib ref st call then 1 else 0) +
      rollbacks ref calls (perform collab readings lib call st).2

variable {collab readings lib} {st st' : CapsuleObjects V W}

omit [PyValue V F] [FloatText F] in
theorem object_of_getElem? {ref : ℕ} {c : RollbackCapsule V} (hc : st.capsules[ref]? = some c) :
    object ref st = (.ok c, st) := by
  rw [object, bind_of_ok get_apply, hc]
  rfl

/-! ## The registry of the executor -/

section Simulation

variable {proposal : RecoveryProposal V} {registry : CapsuleRegistry V}

/-- Another registry. -/
def withRegistry (registry : CapsuleRegistry V) (ex : LocalDevExecutor V W) :
    LocalDevExecutor V W := { ex with registry }

section Registry

omit [FloatText F]

theorem commutes_applySlot (slot : Slot) (keyName valueName : String)
    (description : V → V → String) (sideEffects : V → V → Dict V) :
    Commutes (withRegistry registry) (LocalDevExecutor.applySlot proposal slot keyName valueName
      description sideEffects : Program (LocalDevExecutor V W) Raised _) := by
  refine (commutes_ofExcept _).bind fun _ ↦ (commutes_ofExcept _).bind fun _ ↦ ?_
  refine Commutes.bind ?_ fun _ ↦ commutes_pure _
  exact (commutes_ofExcept _).bind fun _ ↦ commutes_modify fun _ ↦ rfl

theorem commutes_mark (flag : Flag) (key : V) (member : Bool) : Commutes (withRegistry registry)
    (LocalDevExecutor.mark flag key member : Program (LocalDevExecutor V W) Raised _) :=
  (commutes_ofExcept _).bind fun _ ↦ commutes_modify fun _ ↦ rfl

theorem commutes_increaseTopK : Commutes (withRegistry registry)
    (LocalDevExecutor.increaseTopK proposal : Program (LocalDevExecutor V W) Raised _) := by
  refine (commutes_ofExcept _).bind fun _ ↦ (commutes_ofExcept _).bind fun _ ↦ ?_
  refine (commutes_ofExcept _).bind fun newK ↦ (commutes_ofExcept _).bind fun maxK ↦ ?_
  split
  · exact (commutes_ofExcept _).bind fun _ ↦ (commutes_ofExcept _).bind fun _ ↦ commutes_pure _
  · refine Commutes.bind ?_ fun _ ↦ (commutes_ofExcept _).bind fun _ ↦ commutes_pure _
    exact (commutes_ofExcept _).bind fun _ ↦ commutes_modify fun _ ↦ rfl

theorem commutes_applyAction :
    Commutes (withRegistry registry) (LocalDevExecutor.applyAction collab proposal) := by
  rw [LocalDevExecutor.applyAction]
  split
  case h_1 => exact commutes_increaseTopK
  case h_2 =>
    exact (commutes_ofExcept _).bind fun _ ↦ (commutes_ofExcept _).bind fun _ ↦ commutes_pure _
  case h_6 | h_7 =>
    exact (commutes_ofExcept _).bind fun _ ↦ (commutes_mark _ _ _).bind fun _ ↦ commutes_pure _
  case h_8 =>
    refine (commutes_ofExcept _).bind fun _ ↦ Commutes.bind ?_ fun _ ↦ commutes_pure _
    exact commutes_zoom (fun _ ↦ rfl) fun _ _ ↦ rfl
  all_goals exact commutes_applySlot _ _ _ _ _

theorem commutes_applyRecorded (capsule : RollbackCapsule V) : Commutes (withRegistry registry)
    (LocalDevExecutor.applyRecorded collab proposal capsule) := by
  refine Commutes.bind ?_ fun result ↦ Commutes.bind ?_ fun _ ↦ commutes_pure _
  · refine commutes_applyAction.attempt fun exc ↦ ?_
    split
    · exact commutes_pure _
    · exact commutes_raise _
  · refine commutes_modify fun _ ↦ ?_
    split <;> rfl

end Registry

theorem execute_simulates : ∃ registry,
    LocalDevExecutor.execute collab readings lib proposal st.executor =
      ((execute collab readings lib proposal st).1,
        withRegistry registry (execute collab readings lib proposal st).2.executor) := by
  rw [LocalDevExecutor.execute, execute, bind_of_ok get_apply, bind_of_ok get_apply]
  cases hguards : st.executor.guards proposal with
  | error e =>
    rw [ofExcept_bind_of_error rfl, ofExcept_bind_of_error rfl]
    exact ⟨st.executor.registry, rfl⟩
  | ok _ =>
    rw [ofExcept_bind_of_ok rfl, ofExcept_bind_of_ok rfl]
    split
    · exact ⟨st.executor.registry, rfl⟩
    · rw [LocalDevExecutor.mutate]
      rcases exists_ok_or_error (LocalDevExecutor.prepareCapsule collab readings lib proposal)
        st.executor with ⟨capsule, ex, hprepare⟩ | ⟨e, ex, hprepare⟩
      · have hprepare' : onExecutor (LocalDevExecutor.prepareCapsule collab readings lib proposal)
            st = (.ok capsule, { st with executor := ex }) := by
          rw [onExecutor, zoom, hprepare]
        have hmade : (st.capsules ++ [capsule])[st.capsules.length]? = some capsule := by simp
        have hstore : store st.capsules.length
            { st with executor := ex, capsules := st.capsules ++ [capsule] } = (.ok (), _) :=
          bind_of_ok (object_of_getElem? hmade)
        rw [bind_of_ok hprepare, bind_of_ok hprepare']
        have hallocate : allocate capsule { st with executor := ex } = (.ok st.capsules.length,
            { st with executor := ex, capsules := st.capsules ++ [capsule] }) := rfl
        rw [bind_of_ok (modify_apply _), bind_of_ok hallocate, bind_of_ok hstore]
        exact ⟨_, commutes_applyRecorded capsule ex⟩
      · have hprepare' : onExecutor (LocalDevExecutor.prepareCapsule collab readings lib proposal)
            st = (.error e, { st with executor := ex }) := by
          rw [onExecutor, zoom, hprepare]
        rw [bind_of_error hprepare, bind_of_error hprepare']
        exact ⟨ex.registry, rfl⟩

theorem compensate_simulates {ref : ℕ} {c : RollbackCapsule V} (hc : st.capsules[ref]? = some c) :
    ∃ registry, LocalDevExecutor.compensate collab readings lib c st.executor =
      ((compensate collab readings lib ref st).1,
        withRegistry registry (compensate collab readings lib ref st).2.executor) := by
  have hnow : onExecutor (LocalDevExecutor.now readings) st
      = (.ok (readings.clock st.executor.tick),
        { st with executor := { st.executor with tick := st.executor.tick + 1 } }) := rfl
  rw [LocalDevExecutor.compensate, compensate, bind_of_ok (LocalDevExecutor.now_apply),
    bind_of_ok (object_of_getElem? hc), bind_of_ok hnow]
  cases husable : c.isUsable lib (readings.clock st.executor.tick) with
  | error e =>
    rw [ofExcept_bind_of_error rfl, ofExcept_bind_of_error rfl]
    exact ⟨st.executor.registry, rfl⟩
  | ok verdict =>
    rw [ofExcept_bind_of_ok rfl, ofExcept_bind_of_ok rfl]
    cases verdict with
    | some reason => exact ⟨st.executor.registry, rfl⟩
    | none =>
      rcases exists_ok_or_error (LocalDevExecutor.rollback collab c)
        { st.executor with tick := st.executor.tick + 1 } with ⟨result, ex, hrun⟩ | ⟨e, ex, hrun⟩
      · have hrun' : onExecutor (LocalDevExecutor.rollback collab c)
            { st with executor := { st.executor with tick := st.executor.tick + 1 } }
            = (.ok result, { st with executor := ex }) := by
          rw [onExecutor, zoom, hrun]
        dsimp only
        rw [bind_of_ok hrun, bind_of_ok hrun']
        cases hsuccess : result.success with
        | true => exact ⟨_, by rw [if_pos rfl]; rfl⟩
        | false => exact ⟨ex.registry, rfl⟩
      · have hrun' : onExecutor (LocalDevExecutor.rollback collab c)
            { st with executor := { st.executor with tick := st.executor.tick + 1 } }
            = (.error e, { st with executor := ex }) := by
          rw [onExecutor, zoom, hrun]
        dsimp only
        rw [bind_of_error hrun, bind_of_error hrun']
        exact ⟨ex.registry, rfl⟩

end Simulation

/-! ## How objects evolve -/

/-- The clock goes on, and of an object only the status changes, which never becomes active. -/
structure Evolves (st st' : CapsuleObjects V W) : Prop where
  tick : st.executor.tick ≤ st'.executor.tick
  capsules : ∀ (ref : ℕ) (c : RollbackCapsule V), st.capsules[ref]? = some c →
    ∃ status : CapsuleStatus, st'.capsules[ref]? = some { c with status } ∧
      (c.status ≠ .active → status ≠ .active)

section Evolution

omit [PyValue V F] [FloatText F]

theorem evolves_refl (st : CapsuleObjects V W) : Evolves st st :=
  ⟨le_rfl, fun _ c hc ↦ ⟨c.status, hc, id⟩⟩

theorem keeps_onExecutor {α : Type} {x : Program (LocalDevExecutor V W) Raised α}
    (h : Keeps (fun ex ↦ st.executor.tick ≤ ex.tick) x) : Keeps (Evolves st) (onExecutor x) :=
  triple_zoom (fun st' hst a ex' hrun ↦ ⟨(h st'.executor hst.tick).1 a ex' hrun, hst.capsules⟩)
    fun st' hst e ex' hrun ↦ ⟨(h st'.executor hst.tick).2 e ex' hrun, hst.capsules⟩

theorem keeps_object (ref : ℕ) : Keeps (Evolves st) (object ref) :=
  Triple.bind (triple_get fun _ h ↦ h) fun _ ↦ triple_ofExcept (fun _ _ _ h ↦ h) fun _ _ _ h ↦ h

theorem keeps_setStatus (ref : ℕ) {status : CapsuleStatus} (hstatus : status ≠ .active) :
    Keeps (Evolves st) (setStatus ref status) := by
  refine triple_modify fun st' h ↦ ⟨h.tick, fun ref' c hc ↦ ?_⟩
  obtain ⟨status', hc', hkept⟩ := h.capsules ref' c hc
  by_cases heq : ref = ref'
  · refine ⟨status, ?_, fun _ ↦ hstatus⟩
    rw [List.getElem?_modify, hc']
    simp [heq]
  · refine ⟨status', ?_, hkept⟩
    rw [List.getElem?_modify, hc']
    simp [heq]

theorem keeps_allocate (capsule : RollbackCapsule V) :
    Keeps (Evolves st) (allocate capsule) := by
  refine triple_returns (fun _ ↦ rfl) fun st' h ↦ ⟨h.tick, fun ref c hc ↦ ?_⟩
  obtain ⟨status, hc', hkept⟩ := h.capsules ref c hc
  refine ⟨status, ?_, hkept⟩
  rw [List.getElem?_append_left (List.getElem?_eq_some_iff.mp hc').1, hc']

theorem keeps_store (ref : ℕ) : Keeps (Evolves st) (store ref) :=
  (keeps_object ref).bind fun _ ↦ triple_modify fun _ h ↦ ⟨h.tick, h.capsules⟩

theorem apart_tick (n : ℕ) :
    LocalDevExecutor.Apart fun ex : LocalDevExecutor V W ↦ n ≤ ex.tick :=
  fun _ _ _ _ _ hn h ↦ h.trans hn

theorem keeps_now (n : ℕ) : Keeps (fun ex ↦ n ≤ ex.tick)
    (LocalDevExecutor.now readings : Program (LocalDevExecutor V W) Raised ℤ) :=
  (LocalDevExecutor.triple_now (apart_tick n).internal readings fun _ h ↦ h).weaken
    (fun _ h ↦ h) (fun _ _ h ↦ h.2) fun _ _ h ↦ h

theorem keeps_get (capsuleId : String) : Keeps (Evolves st) (get readings capsuleId) := by
  refine Triple.bind (triple_get fun _ h ↦ h) fun _ ↦ ?_
  split
  · exact triple_pure fun _ h ↦ h
  · refine (keeps_object _).bind fun _ ↦ ?_
    split
    · refine (keeps_onExecutor (keeps_now _)).bind fun _ ↦ ?_
      split
      · exact (keeps_setStatus _ (by simp)).bind fun _ ↦ triple_pure fun _ h ↦ h
      · exact triple_pure fun _ h ↦ h
    · exact triple_pure fun _ h ↦ h

theorem keeps_void (capsuleId : String) : Keeps (Evolves st) (void capsuleId) := by
  refine Triple.bind (triple_get fun _ h ↦ h) fun _ ↦ ?_
  split
  · exact triple_pure fun _ h ↦ h
  · exact keeps_setStatus _ (by simp)

end Evolution

theorem keeps_construct (capsule : RollbackCapsule V) :
    Keeps (Evolves st) (construct lib capsule) :=
  Triple.bind (triple_ofExcept (fun _ _ _ h ↦ h) fun _ _ _ h ↦ h) fun _ ↦ keeps_allocate _

theorem keeps_execute (proposal : RecoveryProposal V) :
    Keeps (Evolves st) (execute collab readings lib proposal) := by
  refine Triple.bind (triple_get fun _ h ↦ h) fun _ ↦ ?_
  refine Triple.bind (triple_ofExcept (fun _ _ _ h ↦ h) fun _ _ _ h ↦ h) fun _ ↦ ?_
  split
  · exact triple_pure fun _ h ↦ h
  · have hprepare : Keeps (fun ex ↦ st.executor.tick ≤ ex.tick)
        (LocalDevExecutor.prepareCapsule collab readings lib proposal) :=
      (LocalDevExecutor.triple_prepareCapsule (apart_tick _).internal).weaken (fun _ h ↦ h)
        (fun _ _ h ↦ h.2) fun _ _ h ↦ h
    refine (keeps_onExecutor hprepare).bind fun capsule ↦ (keeps_allocate capsule).bind
      fun ref ↦ (keeps_store ref).bind fun _ ↦ keeps_onExecutor ?_
    exact LocalDevExecutor.keeps_applyRecorded (apart_tick _) (fun _ _ h ↦ h) capsule

theorem keeps_compensate (ref : ℕ) :
    Keeps (Evolves st) (compensate collab readings lib ref) := by
  refine (keeps_object ref).bind fun capsule ↦ (keeps_onExecutor (keeps_now _)).bind fun time ↦ ?_
  refine Triple.bind (triple_ofExcept (fun _ _ _ h ↦ h) fun _ _ _ h ↦ h) fun verdict ↦ ?_
  split
  · exact triple_pure fun _ h ↦ h
  · refine (keeps_onExecutor (LocalDevExecutor.keeps_rollback (apart_tick _).aside capsule)).bind
      fun result ↦ ?_
    split
    · exact (keeps_setStatus ref (by simp)).bind fun _ ↦ triple_pure fun _ h ↦ h
    · exact triple_pure fun _ h ↦ h

theorem keeps_perform (call : CapsuleCall V) :
    Keeps (Evolves st) (perform collab readings lib call) := by
  cases call with
  | construct capsule => exact (keeps_construct capsule).bind fun _ ↦ triple_pure fun _ h ↦ h
  | execute proposal => exact (keeps_execute proposal).bind fun _ ↦ triple_pure fun _ h ↦ h
  | compensate ref => exact (keeps_compensate ref).bind fun _ ↦ triple_pure fun _ h ↦ h
  | get capsuleId => exact (keeps_get capsuleId).bind fun _ ↦ triple_pure fun _ h ↦ h
  | void capsuleId => exact (keeps_void capsuleId).bind fun _ ↦ triple_pure fun _ h ↦ h
  | store ref => exact (keeps_store ref).bind fun _ ↦ triple_pure fun _ h ↦ h

/-! ## Spent capsules -/

/-- The capsule was used, voided or marked as expired, or the clock is past the time at which it
expires. -/
def Spent (readings : Readings) (ref : ℕ) (st : CapsuleObjects V W) : Prop :=
  ∃ c, st.capsules[ref]? = some c ∧
    (c.status ≠ .active ∨ c.expiresAt < readings.clock st.executor.tick)

omit [PyValue V F] [FloatText F] in
theorem Spent.evolves (hclock : readings.Nondecreasing) {ref : ℕ} (h : Spent readings ref st)
    (he : Evolves st st') : Spent readings ref st' := by
  obtain ⟨c, hc, hspent⟩ := h
  obtain ⟨status, hc', hkept⟩ := he.capsules ref c hc
  refine ⟨_, hc', hspent.imp hkept fun htime ↦ ?_⟩
  exact htime.trans_le (hclock he.tick)

/-- The capsule is refused, and only the clock has been read. -/
def Refuses (collab : Collaborators V W) (readings : Readings) (lib : Library F) (ref : ℕ)
    (st : CapsuleObjects V W) : Prop :=
  ∃ result, compensate collab readings lib ref st
    = (.ok result, { st with executor := { st.executor with tick := st.executor.tick + 1 } }) ∧
    result.success = false

theorem refuses_of_isUsable {ref : ℕ} {c : RollbackCapsule V} (hc : st.capsules[ref]? = some c)
    (h : ∃ reason, c.isUsable lib (readings.clock st.executor.tick) = .ok (some reason)) :
    Refuses collab readings lib ref st := by
  obtain ⟨reason, hreason⟩ := h
  have hnow : onExecutor (LocalDevExecutor.now readings) st
      = (.ok (readings.clock st.executor.tick),
        { st with executor := { st.executor with tick := st.executor.tick + 1 } }) := rfl
  rw [Refuses, compensate, bind_of_ok (object_of_getElem? hc), bind_of_ok hnow,
    ofExcept_bind_of_ok hreason]
  exact ⟨_, rfl, rfl⟩

theorem Spent.refuses {ref : ℕ} (h : Spent readings ref st) :
    Refuses collab readings lib ref st := by
  obtain ⟨c, hc, hspent⟩ := h
  exact refuses_of_isUsable hc (RollbackCapsule.isUsable_of_spent hspent)

theorem Spent.not_rollsBack {ref : ℕ} (h : Spent readings ref st) (call : CapsuleCall V) :
    rollsBack collab readings lib ref st call = false := by
  cases call with
  | compensate ref' =>
    by_cases href : ref' = ref
    · have hrefuses : Refuses collab readings lib ref st := h.refuses
      obtain ⟨result, hrun, hfalse⟩ := hrefuses
      rw [rollsBack, href, hrun]
      simpa using hfalse
    · simp [rollsBack, href]
  | _ => rfl

theorem Spent.rollbacks (hclock : readings.Nondecreasing) {ref : ℕ} {calls : List (CapsuleCall V)}
    (h : Spent readings ref st) : rollbacks collab readings lib ref calls st = 0 := by
  induction calls generalizing st with
  | nil => rfl
  | cons call calls ih =>
    rw [CapsuleObjects.rollbacks, h.not_rollsBack call, if_neg Bool.false_ne_true, zero_add]
    exact ih (h.evolves hclock ((keeps_perform call).final (evolves_refl st)))

theorem used_of_compensate {ref : ℕ} {result : ExecutionResult V}
    (hrun : compensate collab readings lib ref st = (.ok result, st'))
    (hsuccess : result.success = true) : ∃ c : RollbackCapsule V,
      st'.capsules[ref]? = some { c with status := .used } := by
  simp only [compensate, object, bind_returns_iff, get_returns_iff, ofExcept_returns_iff,
    orRaise_eq_ok_iff] at hrun
  obtain ⟨c, _, ⟨_, _, ⟨rfl, rfl⟩, hc, rfl⟩, time, st₁, hnow, verdict, st₂, ⟨-, rfl⟩, hrun⟩ := hrun
  have hsame : st₁.capsules = st.capsules := by
    obtain ⟨-, rfl⟩ := Prod.mk.inj hnow
    rfl
  split at hrun
  · obtain ⟨rfl, -⟩ := pure_returns_iff.mp hrun
    exact absurd hsuccess (by simp [LocalDevExecutor.failed])
  · obtain ⟨result', st₃, hrollback, hrun⟩ := bind_returns_iff.mp hrun
    have hsame' : st₃.capsules = st₁.capsules := by
      obtain ⟨-, rfl⟩ := Prod.mk.inj hrollback
      rfl
    split at hrun
    · obtain ⟨_, st₄, hset, hpure⟩ := bind_returns_iff.mp hrun
      obtain ⟨-, rfl⟩ := pure_returns_iff.mp hpure
      obtain rfl := modify_returns_iff.mp hset
      refine ⟨c, ?_⟩
      rw [List.getElem?_modify, hsame', hsame, hc]
      simp
    · rename_i hfailed
      obtain ⟨rfl, -⟩ := pure_returns_iff.mp hrun
      exact absurd hsuccess hfailed

theorem spent_of_rollsBack {ref : ℕ} {call : CapsuleCall V}
    (h : rollsBack collab readings lib ref st call = true) :
    Spent readings ref (perform collab readings lib call st).2 := by
  cases call with
  | compensate ref' =>
    rw [rollsBack, Bool.and_eq_true, decide_eq_true_eq] at h
    obtain ⟨rfl, h⟩ := h
    rcases exists_ok_or_error (compensate collab readings lib ref') st with
      ⟨result, st', hrun⟩ | ⟨e, st', hrun⟩
    · rw [hrun] at h
      have hperform : perform collab readings lib (.compensate ref') st
          = (.ok (some result), st') := bind_of_ok hrun
      obtain ⟨c, hused⟩ := used_of_compensate hrun h
      rw [hperform]
      exact ⟨_, hused, Or.inl (by simp)⟩
    · rw [hrun] at h
      exact absurd h (by simp)
  | _ => exact absurd h (by simp [rollsBack])

/-- **Capsules.** While the clock does not go back, and whatever is done with capsules in whatever
order: a capsule is rolled back at most once, it is not rolled back any more once it is spent, and
one in which a field is written otherwise than when the hash was computed is refused without any
effect. -/
theorem capsule_used_once (hclock : readings.Nondecreasing)
    (hhash : Function.Injective lib.sha256) (hiso : Function.Injective lib.isoformat) (ref : ℕ)
    (calls : List (CapsuleCall V)) (st : CapsuleObjects V W) :
    rollbacks collab readings lib ref calls st ≤ 1 ∧
    (∀ before rest, calls = before ++ rest →
      Spent readings ref (after (perform collab readings lib) before st) →
      rollbacks collab readings lib ref rest (after (perform collab readings lib) before st) = 0) ∧
    (∀ original c : RollbackCapsule V,
      (after (perform collab readings lib) calls st).capsules[ref]? = some c →
      original.computeIntegrity lib = .ok c.integrityHash →
      (∃ hash, c.computeIntegrity lib = .ok hash) →
      original.Differs RollbackCapsule.SameDoc c →
      Refuses collab readings lib ref (after (perform collab readings lib) calls st)) := by
  refine ⟨?_, fun before rest _ hspent ↦ hspent.rollbacks hclock, ?_⟩
  · induction calls generalizing st with
    | nil => exact Nat.zero_le 1
    | cons call calls ih =>
      rw [rollbacks]
      by_cases h : rollsBack collab readings lib ref st call = true
      · rw [if_pos h, (spent_of_rollsBack h).rollbacks hclock]
      · rw [if_neg h, zero_add]
        exact ih _
  · intro original c hc horiginal hserialisable hdiffers
    exact refuses_of_isUsable hc
      (RollbackCapsule.isUsable_of_changed hhash hiso horiginal hserialisable hdiffers _)

/-! ## A key that is written the same -/

/-- A scalar, or a dictionary with one member. -/
inductive Entry where
  | scalar (a : Scalar Empty)
  | dict (key value : Scalar Empty)

instance : PyValue Entry Empty where
  str s := .scalar (.str s)
  int i := .scalar (.int i)
  bool b := .scalar (.bool b)
  none := .scalar .null
  eq
    | .scalar a, .scalar b => PyValue.eq a b
    | .dict k a, .dict l b => PyValue.eq k l && PyValue.eq a b
    | _, _ => false
  eq_equivalence := by
    have heq : Equivalence fun a b : Scalar Empty ↦ PyValue.eq a b = true := PyValue.eq_equivalence
    refine ⟨?_, ?_, ?_⟩
    · rintro (a | ⟨k, a⟩)
      · exact heq.refl a
      · simp [heq.refl]
    · rintro (a | ⟨k, a⟩) (b | ⟨l, b⟩) h
      · exact heq.symm h
      · simp at h
      · simp at h
      · simp only [Bool.and_eq_true] at h ⊢
        exact ⟨heq.symm h.1, heq.symm h.2⟩
    · rintro (a | ⟨k, a⟩) (b | ⟨l, b⟩) (c | ⟨m, c⟩) h h'
      · exact heq.trans h h'
      all_goals simp_all
      exact ⟨heq.trans h.1 h'.1, heq.trans h.2 h'.2⟩
  hashable
    | .scalar _ => true
    | .dict _ _ => false
  typeName
    | .scalar a => PyValue.typeName a
    | .dict _ _ => "dict"
  truthy
    | .scalar a => PyValue.truthy a
    | .dict _ _ => true
  truthy_bool _ := rfl
  toInt
    | .scalar a => PyValue.toInt a
    | .dict _ _ => .error ⟨.typeError, "int() argument must be a string, a bytes-like object or " ++
        "a real number, not 'dict'"⟩
  toStr
    | .scalar a => PyValue.toStr a
    | .dict _ _ => none
  toStr_str _ := rfl
  repr
    | .scalar a => PyValue.repr a
    | .dict k a => "\x7b" ++ PyValue.repr k ++ ": " ++ PyValue.repr a ++ "\x7d"
  writable
    | .scalar a => PyValue.writable a
    | .dict k a => PyValue.writable k && PyValue.writable a
  writable_int _ := rfl
  toVal
    | .scalar a => .scalar a
    | .dict k a => .dict [(PyValue.toKey k, .scalar a)]
  toKey
    | .scalar a => PyValue.toKey a
    | .dict _ _ => .other "dict"

def entryCollaborators : Collaborators Entry Unit where
  openReceipts := pure ()
  verifyReceipt _ _ := pure (true, "")
  consumeReceipt _ := pure ()
  voidReceipt _ _ := pure ()
  isQuarantined _ := pure false
  quarantinePartition _ _ _ := pure ()
  unquarantinePartition _ := pure ()
  appendEvidence _ _ _ _ := pure ()

def entryReadings : Readings := ⟨fun _ ↦ 0, fun _ ↦ "id"⟩

/-- Texts in place of hashes and times. -/
def textLibrary : Library Empty where
  sha256 := latin1
  verifySignature _ _ _ := false
  isoformat time := String.ofList (intText time)
  dumpsError _ := ""

theorem textLibrary_injective :
    Function.Injective textLibrary.sha256 ∧ Function.Injective textLibrary.isoformat := by
  refine ⟨latin1_injective, fun t t' h ↦ ?_⟩
  have htext : intText t = intText t' := String.ofList_injective h
  simpa using congrArg intOfText htext

/-- A capsule for a tool that was disabled, with a dictionary that has the key. -/
def toolCapsule (key : Scalar Empty) (integrityHash : String) : RollbackCapsule Entry where
  capsuleId := "c"
  proposalId := "p"
  actionType := "disable_test_tool"
  tenantId := "acme"
  componentId := .scalar (.str "unknown")
  previousState := [("tool_id", .scalar (.str "t")), ("disabled", .scalar (.bool false))]
  targetState := [("tool_id", .scalar (.str "t")), ("weights", .dict key (.str "a"))]
  artifactHashes := []
  compatibilityConstraints := []
  rollbackParams := []
  verifySteps := []
  status := .active
  createdAt := 0
  expiresAt := RollbackCapsule.lifetime
  createdBy := "alice"
  integrityHash

/-- An executor, and one capsule that is registered. -/
def holding (capsule : RollbackCapsule Entry) : CapsuleObjects Entry Unit :=
  ⟨⟨[], fun _ ↦ [], fun _ ↦ [], [], (), 0⟩, [capsule], [(capsule.capsuleId, 0)]⟩

/-- The keys `1` and `"1"` are written the same. -/
theorem exists_computeIntegrity_toolCapsule : ∃ hash, ∀ hash',
    (toolCapsule (.int 1) hash').computeIntegrity textLibrary = .ok hash ∧
      (toolCapsule (.str "1") hash').computeIntegrity textLibrary = .ok hash := by
  obtain ⟨hash, hhash⟩ := RollbackCapsule.exists_computeIntegrity_iff.mpr
    ⟨_, (rfl : toDoc true ((toolCapsule (.int 1) "").payload textLibrary) = some _)⟩
  have hkey : toDoc true ((toolCapsule (.str "1") "").payload textLibrary) =
      toDoc true ((toolCapsule (.int 1) "").payload textLibrary) := rfl
  exact ⟨hash, fun hash' ↦ ⟨RollbackCapsule.computeIntegrity_of_toDoc hhash rfl,
    RollbackCapsule.computeIntegrity_of_toDoc hhash hkey⟩⟩

theorem rollsBack_toolCapsule {key : Scalar Empty} {hash : String}
    (hhash : (toolCapsule key hash).computeIntegrity textLibrary = .ok hash) :
    rollsBack entryCollaborators entryReadings textLibrary 0 (holding (toolCapsule key hash))
      (.compensate 0) = true := by
  have husable : (toolCapsule key hash).isUsable textLibrary 0 = .ok none :=
    RollbackCapsule.isUsable_of_intact hhash rfl (by simp [toolCapsule, RollbackCapsule.lifetime])
  have hnow : onExecutor (LocalDevExecutor.now entryReadings) (holding (toolCapsule key hash))
      = (.ok 0, { holding (toolCapsule key hash) with
        executor := { (holding (toolCapsule key hash)).executor with tick := 1 } }) := rfl
  have hobject : object 0 (holding (toolCapsule key hash))
      = (.ok (toolCapsule key hash), holding (toolCapsule key hash)) := rfl
  rw [rollsBack, compensate, bind_of_ok hobject, bind_of_ok hnow, ofExcept_bind_of_ok husable]
  rfl

/-- A capsule is rolled back once and not again, and it is refused with another expiry. -/
theorem capsule_used_once_toolCapsule : ∃ hash,
    rollbacks entryCollaborators entryReadings textLibrary 0 [.compensate 0, .compensate 0]
      (holding (toolCapsule (.int 1) hash)) = 1 ∧
    Refuses entryCollaborators entryReadings textLibrary 0
      (holding { toolCapsule (.int 1) hash with expiresAt := 1 }) := by
  have hclock : entryReadings.Nondecreasing := fun _ _ _ ↦ le_rfl
  obtain ⟨hinj, hiso⟩ := textLibrary_injective
  obtain ⟨hash, hhash⟩ := exists_computeIntegrity_toolCapsule
  refine ⟨hash, le_antisymm (capsule_used_once hclock hinj hiso 0 _ _).1 ?_, ?_⟩
  · rw [rollbacks, if_pos (rollsBack_toolCapsule (hhash hash).1)]
    exact Nat.le_add_right 1 _
  · have hwritten : ∃ d, toDoc true (RollbackCapsule.payload textLibrary
        { toolCapsule (.int 1) "" with expiresAt := 1 }) = some d := ⟨_, rfl⟩
    refine (capsule_used_once hclock hinj hiso 0 [] _).2.2 (toolCapsule (.int 1) hash)
      { toolCapsule (.int 1) hash with expiresAt := 1 } rfl (hhash hash).1
      (RollbackCapsule.exists_computeIntegrity_iff.mpr hwritten) (Or.inl ?_)
    simp [toolCapsule, RollbackCapsule.lifetime]

/-- The capsule with the other key is rolled back. -/
theorem not_refuses_otherKey :
    entryReadings.Nondecreasing ∧ Function.Injective textLibrary.sha256 ∧
    Function.Injective textLibrary.isoformat ∧
    ¬ ∀ (original c : RollbackCapsule Entry) (st : CapsuleObjects Entry Unit) (ref : ℕ),
      st.capsules[ref]? = some c → original.computeIntegrity textLibrary = .ok c.integrityHash →
      (∃ hash, c.computeIntegrity textLibrary = .ok hash) → original.Differs Val.Equal c →
      Refuses entryCollaborators entryReadings textLibrary ref st := by
  refine ⟨fun _ _ _ ↦ le_rfl, textLibrary_injective.1, textLibrary_injective.2, fun h ↦ ?_⟩
  obtain ⟨hash, hhash⟩ := exists_computeIntegrity_toolCapsule
  have hdiffers : (toolCapsule (.int 1) hash).Differs Val.Equal (toolCapsule (.str "1") hash) := by
    refine Or.inr (Or.inr (Or.inr (Or.inl fun hequal ↦ ?_)))
    have hweights := (equal_dict_iff.mp hequal).2 (.str "weights", .dict [(.int 1, .str "a")])
      (by simp [toolCapsule]; rfl) (.str "weights", .dict [(.str "1", .str "a")])
      (by simp [toolCapsule]; rfl) rfl
    simpa using (equal_dict_iff.mp hweights).1 (.int 1)
  obtain ⟨result, hrun, hfailed⟩ := h (toolCapsule (.int 1) hash) (toolCapsule (.str "1") hash)
    (holding (toolCapsule (.str "1") hash)) 0 rfl (hhash hash).1 ⟨_, (hhash hash).2⟩ hdiffers
  have hback := rollsBack_toolCapsule (hhash hash).2
  rw [rollsBack, hrun] at hback
  simp [hfailed] at hback

end CapsuleObjects

end DriftGuardX.Recovery
