import DriftGuardX.Recovery.Compensation
import DriftGuardX.Recovery.Reaching

/-!
# Executions are atomic and idempotent

An execution that raises or fails leaves the fixtures and the used keys alone, since every action
writes as its last step but for the text of its result (`execute_atomic`). A number that has no text
is stored all the same, and the execution fails (`not_atomic_of_overflows`). The used keys are those of the calls that succeeded
(`mem_usedKeys_iff`), and a call whose parameters are valid raises an `IdempotencyConflictError`
exactly when its key is used (`execute_conflicts_iff`). A key is made by joining two texts with a
colon, so the key of a pair may be used by another pair: a call is idempotent exactly as long as
that has not happened (`atomicIdempotent_iff`).
-/

namespace DriftGuardX.Recovery

open Json Bytes Transaction Program

namespace LocalDevExecutor

variable {V F W : Type} [PyValue V F] {collab : Collaborators V W} {readings : Readings}
  {lib : Library F} {proposal : RecoveryProposal V} {ex before : LocalDevExecutor V W}

/-! ## Actions that fail -/

section Actions

variable {I : LocalDevExecutor V W → Prop}

theorem triple_assign (slot : Slot) (key value : V) : Triple I
    (assign slot key value : Program (LocalDevExecutor V W) Raised _) (fun _ _ ↦ True)
    (fun _ ↦ I) :=
  (keeps_ofExcept _).bind fun _ ↦ triple_modify fun _ _ ↦ trivial

theorem triple_mark (flag : Flag) (key : V) (member : Bool) : Triple I
    (mark flag key member : Program (LocalDevExecutor V W) Raised _) (fun _ _ ↦ True)
    (fun _ ↦ I) :=
  (keeps_ofExcept _).bind fun _ ↦ triple_modify fun _ _ ↦ trivial

theorem triple_applySlot (slot : Slot) (keyName valueName : String) (description : V → V → String)
    (sideEffects : V → V → Dict V) : Triple I
    (applySlot proposal slot keyName valueName description sideEffects :
      Program (LocalDevExecutor V W) Raised _)
    (fun result ex ↦ result.success = false → I ex) (fun _ ↦ I) := by
  refine (keeps_ofExcept _).bind fun _ ↦ (keeps_ofExcept _).bind fun _ ↦ ?_
  exact (triple_assign slot _ _).bind fun _ ↦ triple_pure fun _ _ h ↦ absurd h (by simp [succeeded])

/-- The number that is to be stored has too many digits to be converted to a text. -/
def Overflows (proposal : RecoveryProposal V) : Prop :=
  proposal.actionType = .increaseTopK ∧ ∃ value newK maxK,
    proposal.params.item "new_top_k" = .ok value ∧ PyValue.toInt value = .ok newK ∧
    PyValue.toInt ((proposal.params.get? "max_allowed_top_k").getD (PyValue.int 100)) = .ok maxK ∧
    newK ≤ maxK ∧ ¬ Writable newK

omit [PyValue V F] in
theorem triple_value {α : Type} (y : Except Raised α) : Triple I
    (ofExcept y : Program (LocalDevExecutor V W) Raised α) (fun a ex ↦ I ex ∧ y = .ok a)
    (fun _ ↦ I) :=
  triple_ofExcept (fun _ ha _ h ↦ ⟨h, ha⟩) fun _ _ _ h ↦ h

theorem triple_increaseTopK (haction : proposal.actionType = .increaseTopK)
    (hwritable : ¬ Overflows proposal) : Triple I
    (increaseTopK proposal : Program (LocalDevExecutor V W) Raised _)
    (fun result ex ↦ result.success = false → I ex) (fun _ ↦ I) := by
  refine (keeps_ofExcept _).bind fun _ ↦ (triple_value _).bind fun value ↦
    triple_of_fact fun hvalue ↦ ?_
  refine (triple_value _).bind fun newK ↦ triple_of_fact fun hnewK ↦ (triple_value _).bind
    fun maxK ↦ triple_of_fact fun hmaxK ↦ ?_
  split
  · exact (keeps_ofExcept _).bind fun _ ↦ (keeps_ofExcept _).bind fun _ ↦
      triple_pure fun _ h _ ↦ h
  · rename_i hle
    have htext : Writable newK := by
      by_contra hlong
      exact hwritable ⟨haction, value, newK, maxK, hvalue, hnewK, hmaxK, not_lt.mp hle, hlong⟩
    refine (triple_assign _ _ _).bind fun _ ↦ ?_
    rw [intStr, if_pos htext]
    refine Triple.bind (triple_ofExcept (fun _ _ _ _ ↦ trivial) fun _ he ↦ nomatch he) fun _ ↦ ?_
    exact triple_pure fun _ _ h ↦ absurd h (by simp [succeeded])

/-- Every other action writes last: one that raises or fails has not written to the fixtures. -/
theorem triple_applyAction (hI : Internal I) (hwritable : ¬ Overflows proposal) :
    Triple I (applyAction collab proposal) (fun result ex ↦ result.success = false → I ex)
      (fun _ ↦ I) := by
  rw [applyAction]
  split
  case h_1 haction => exact triple_increaseTopK haction hwritable
  case h_2 =>
    refine (keeps_ofExcept _).bind fun _ ↦ (keeps_ofExcept _).bind fun _ ↦ ?_
    exact triple_pure fun _ h _ ↦ h
  case h_6 | h_7 =>
    refine (keeps_ofExcept _).bind fun _ ↦ (triple_mark _ _ _).bind fun _ ↦ ?_
    exact triple_pure fun _ _ h ↦ absurd h (by simp [succeeded])
  case h_8 =>
    refine (keeps_ofExcept _).bind fun _ ↦ (keeps_outside hI _).bind fun _ ↦ ?_
    exact triple_pure fun _ h _ ↦ h
  all_goals exact triple_applySlot _ _ _ _ _

theorem triple_apply (hI : Internal I) (hwritable : ¬ Overflows proposal) :
    Triple I (apply collab proposal) (fun result ex ↦ result.success = false → I ex)
      (fun _ ↦ I) := by
  refine (triple_applyAction hI hwritable).attempt fun exc ↦ ?_
  split
  · exact triple_pure fun _ h _ ↦ h
  · exact triple_raise fun _ h ↦ h

end Actions

/-! ## One execution -/

/-- The fixtures and the used keys are as they were before. -/
structure Unchanged (before ex : LocalDevExecutor V W) : Prop where
  fixtures : SameFixtures before ex
  usedKeys : ex.usedIdempotencyKeys = before.usedIdempotencyKeys

omit [PyValue V F] in
theorem internal_sameFixtures :
    Internal (SameFixtures before : LocalDevExecutor V W → Prop) :=
  fun _ _ _ _ h ↦ ⟨h.slots, h.flags⟩

/-- The used keys after an execution with a result. -/
def usedKeysAfter (proposal : RecoveryProposal V) (keys : List String) (succeeded : Bool) :
    List String :=
  if succeeded = true ∧ proposal.executionMode ≠ .dryRun then keys.insert (idemKey proposal)
  else keys

theorem triple_applyRecorded_usedKeys (hmode : proposal.executionMode ≠ .dryRun)
    (capsule : RollbackCapsule V) (keys : List String) :
    Triple (fun ex ↦ ex.usedIdempotencyKeys = keys) (applyRecorded collab proposal capsule)
      (fun result ex ↦ ex.usedIdempotencyKeys = usedKeysAfter proposal keys result.success)
      (fun _ ex ↦ ex.usedIdempotencyKeys = keys) := by
  refine (keeps_apply fun _ _ _ _ _ _ h ↦ h).bind fun result ↦ ?_
  refine Triple.bind (?_ : Triple _ _ (fun _ ex ↦ ex.usedIdempotencyKeys
    = usedKeysAfter proposal keys result.success) _) fun _ ↦ triple_pure fun _ h ↦ h
  refine triple_modify fun ex hex ↦ ?_
  cases hsuccess : result.success with
  | true => rw [if_pos rfl, usedKeysAfter, if_pos ⟨rfl, hmode⟩, ← hex]
  | false =>
    rw [if_neg Bool.false_ne_true, usedKeysAfter, if_neg fun h ↦ Bool.false_ne_true h.1]
    exact hex

theorem triple_applyRecorded_failed (hwritable : ¬ Overflows proposal)
    (capsule : RollbackCapsule V) : Triple (SameFixtures before)
    (applyRecorded collab proposal capsule)
    (fun result ex ↦ result.success = false → SameFixtures before ex)
    (fun _ ↦ SameFixtures before) := by
  refine (triple_apply internal_sameFixtures hwritable).bind fun result ↦ ?_
  refine Triple.bind (?_ : Triple _ _ (fun _ ex ↦ result.success = false →
    SameFixtures before ex) _) fun _ ↦ triple_pure fun _ h ↦ h
  refine triple_modify fun ex hex hfalse ↦ ?_
  rw [hfalse, if_neg Bool.false_ne_true]
  exact hex hfalse

variable [FloatText F]

theorem triple_execute_usedKeys (keys : List String) :
    Triple (fun ex ↦ ex.usedIdempotencyKeys = keys) (execute collab readings lib proposal)
      (fun result ex ↦ ex.usedIdempotencyKeys = usedKeysAfter proposal keys result.success)
      (fun _ ex ↦ ex.usedIdempotencyKeys = keys) := by
  refine Triple.bind (triple_get fun s h ↦ h) fun _ ↦ (keeps_ofExcept _).bind fun _ ↦ ?_
  split
  · rename_i hmode
    refine triple_pure fun ex hex ↦ ?_
    rw [usedKeysAfter, if_neg fun h ↦ h.2 hmode]
    exact hex
  · rename_i hmode
    refine ((triple_prepareCapsule fun _ _ _ _ h ↦ h).weaken (fun _ h ↦ h) (fun _ _ h ↦ h.2)
      fun _ _ h ↦ h).bind fun capsule ↦ ?_
    refine Triple.bind (?_ : Triple _ _ (fun _ ex ↦ ex.usedIdempotencyKeys = keys) _) fun _ ↦
      triple_applyRecorded_usedKeys hmode capsule keys
    exact triple_modify fun _ h ↦ h

theorem triple_execute_failed (hwritable : ¬ Overflows proposal) : Triple (SameFixtures before)
    (execute collab readings lib proposal)
    (fun result ex ↦ result.success = false → SameFixtures before ex)
    (fun _ ↦ SameFixtures before) := by
  refine Triple.bind (triple_get fun s h ↦ h) fun _ ↦ (keeps_ofExcept _).bind fun _ ↦ ?_
  split
  · exact triple_pure fun _ h _ ↦ h
  · refine ((triple_prepareCapsule internal_sameFixtures).weaken (fun _ h ↦ h) (fun _ _ h ↦ h.2)
      fun _ _ h ↦ h).bind fun capsule ↦ ?_
    refine Triple.bind (?_ : Triple _ _ (fun _ ↦ SameFixtures before) _) fun _ ↦
      triple_applyRecorded_failed hwritable capsule
    exact triple_modify fun _ h ↦ ⟨h.slots, h.flags⟩

/-- The execution raises or returns a failure. -/
def Fails (collab : Collaborators V W) (readings : Readings) (lib : Library F)
    (proposal : RecoveryProposal V) (ex : LocalDevExecutor V W) : Prop :=
  ∀ result, (execute collab readings lib proposal ex).1 = .ok result → result.success = false

/-- **Atomicity.** An execution that raises or returns a failure leaves the fixtures and the used
keys unchanged, unless it stores a number that has no text. -/
theorem execute_atomic (h : Fails collab readings lib proposal ex)
    (hwritable : ¬ (ReachesApply collab readings lib proposal ex ∧ Overflows proposal)) :
    Unchanged ex (execute collab readings lib proposal ex).2 := by
  have hsame : SameFixtures ex ex := ⟨rfl, rfl⟩
  refine ⟨?_, ?_⟩
  · by_cases hoverflows : Overflows proposal
    · have hblocked : ¬ ReachesApply collab readings lib proposal ex :=
        fun hreaches ↦ hwritable ⟨hreaches, hoverflows⟩
      have htriple : Triple
          (fun s ↦ ¬ ReachesApply collab readings lib proposal s ∧ Untouched ex s)
          (execute collab readings lib proposal) (fun _ ↦ Untouched ex) (fun _ ↦ Untouched ex) :=
        triple_execute_blocked.weaken (fun _ h ↦ h) (fun _ _ h ↦ h.2) fun _ _ h ↦ h
      exact (htriple.final ⟨hblocked, hsame, rfl⟩).fixtures
    · have htriple : Triple (SameFixtures ex) (execute collab readings lib proposal)
          (fun result s ↦ result.success = false → SameFixtures ex s) (fun _ ↦ SameFixtures ex) :=
        triple_execute_failed hoverflows
      rcases exists_ok_or_error (execute collab readings lib proposal) ex with
        ⟨result, ex', hrun⟩ | ⟨e, ex', hrun⟩
      · rw [hrun]
        exact (htriple ex hsame).1 result ex' hrun (h result (by rw [hrun]))
      · rw [hrun]
        exact (htriple ex hsame).2 e ex' hrun
  · have htriple : Triple (fun s ↦ s.usedIdempotencyKeys = ex.usedIdempotencyKeys)
        (execute collab readings lib proposal)
        (fun result s ↦ s.usedIdempotencyKeys
          = usedKeysAfter proposal ex.usedIdempotencyKeys result.success)
        (fun _ s ↦ s.usedIdempotencyKeys = ex.usedIdempotencyKeys) := triple_execute_usedKeys _
    rcases exists_ok_or_error (execute collab readings lib proposal) ex with
      ⟨result, ex', hrun⟩ | ⟨e, ex', hrun⟩
    · rw [hrun, (htriple ex rfl).1 result ex' hrun, h result (by rw [hrun]), usedKeysAfter,
        if_neg fun h ↦ Bool.false_ne_true h.1]
    · rw [hrun]
      exact (htriple ex rfl).2 e ex' hrun

/-- What a capsule is prepared from. -/
theorem snapshot_of_prepareCapsule {capsule : RollbackCapsule V}
    (h : prepareCapsule collab readings lib proposal ex = (.ok capsule, before)) :
    ∃ prev exA, snapshotState collab proposal ex = (.ok prev, exA) ∧
      requireHashable ((proposal.params.get? "component_id").getD (PyValue.str "unknown"))
        = .ok () ∧ requireWritable prev = .ok () := by
  simp only [prepareCapsule, bind_returns_iff, ofExcept_returns_iff] at h
  obtain ⟨prev, exA, hsnapshot, _, _, ⟨hhashable, rfl⟩, _, _, ⟨hwritable, rfl⟩, -⟩ := h
  exact ⟨prev, exA, hsnapshot, hhashable, hwritable⟩

omit [FloatText F] in
theorem exists_item_of_required {name : String} (hvalid : proposal.validateParams = [])
    (hrequired : name ∈ (actionRegistry proposal.actionType).requiredParams) :
    ∃ value, proposal.params.item name = .ok value := by
  have hmissing := List.map_eq_nil_iff.mp (List.append_eq_nil_iff.mp hvalid).1
  have hname : name ∈ proposal.params.map Prod.fst := by
    by_contra hnot
    exact List.filter_eq_nil_iff.mp hmissing name hrequired (by simpa using hnot)
  obtain ⟨m, hm, rfl⟩ := List.mem_map.mp hname
  rw [Dict.item, Dict.get?]
  cases hfind : proposal.params.find? fun m' ↦ m'.1 = m.1 with
  | some m' => exact ⟨m'.2, rfl⟩
  | none => exact absurd (List.find?_eq_none.mp hfind m hm) (by simp)

omit [FloatText F] in
/-- The entry is stored before its text is made. -/
theorem apply_of_overflows {cid value : V} {newK maxK : ℤ} (s : LocalDevExecutor V W)
    (haction : proposal.actionType = .increaseTopK)
    (hcid : proposal.params.item "component_id" = .ok cid)
    (hhashable : requireHashable cid = .ok ())
    (hvalue : proposal.params.item "new_top_k" = .ok value)
    (hnewK : PyValue.toInt value = .ok newK)
    (hmaxK : PyValue.toInt ((proposal.params.get? "max_allowed_top_k").getD (PyValue.int 100))
      = .ok maxK)
    (hle : newK ≤ maxK) (hlong : ¬ Writable newK) :
    ∃ s', apply collab proposal s = (.ok (failed proposal.proposalId
        ("Execution error: " ++ limitError.message) limitError.message), s') ∧
      s'.slot .topKStore cid = some (PyValue.int newK) := by
  obtain ⟨s', hassign⟩ := exists_assign s .topKStore (PyValue.int newK) hhashable
  have happly : applyAction collab proposal s = (.error limitError, s') := by
    rw [applyAction, haction]
    dsimp only
    rw [increaseTopK, ofExcept_bind_of_ok hcid, ofExcept_bind_of_ok hvalue,
      ofExcept_bind_of_ok hnewK, ofExcept_bind_of_ok hmaxK, if_neg (not_lt.mpr hle),
      bind_of_ok hassign, intStr, if_neg hlong]
    rfl
  refine ⟨s', (attempt_of_error happly).trans rfl, ?_⟩
  exact (slot_of_assign hassign).trans (if_pos (PyValue.eq_equivalence.refl cid))

omit [FloatText F] in
/-- A capsule is not prepared for a number without a text. -/
theorem writable_of_snapshot {cid : V} {newK : ℤ} {prev : Dict V} {exA : LocalDevExecutor V W}
    (haction : proposal.actionType = .increaseTopK)
    (hcid : proposal.params.item "component_id" = .ok cid)
    (hsnapshot : snapshotState collab proposal ex = (.ok prev, exA))
    (hwritable : requireWritable prev = .ok ())
    (hstored : ex.slot .topKStore cid = some (PyValue.int newK)) : Writable newK := by
  simp only [snapshotState, haction, snapshotSlot, get?_of_item hcid, Option.getD_some,
    bind_returns_iff, get_returns_iff, ofExcept_returns_iff, pure_returns_iff] at hsnapshot
  obtain ⟨_, _, ⟨rfl, rfl⟩, _, _, ⟨-, rfl⟩, rfl, -⟩ := hsnapshot
  rw [requireWritable] at hwritable
  split at hwritable
  · rename_i hall
    have hnumber := hall ("top_k", (ex.slot .topKStore cid).getD (PyValue.int 10)) (by simp)
    rw [hstored, Option.getD_some, PyValue.writable_int] at hnumber
    exact of_decide_eq_true hnumber
  · exact absurd hwritable (by simp)

theorem not_atomic_of_overflows (hreaches : ReachesApply collab readings lib proposal ex)
    (hoverflows : Overflows proposal) : Fails collab readings lib proposal ex ∧
      ¬ Unchanged ex (execute collab readings lib proposal ex).2 := by
  obtain ⟨hguards, hmode, capsule, exP, hprepare⟩ := hreaches
  obtain ⟨haction, value, newK, maxK, hvalue, hnewK, hmaxK, hle, hlong⟩ := hoverflows
  obtain ⟨prev, exA, hsnapshot, hhashable, hwritable⟩ := snapshot_of_prepareCapsule hprepare
  have hvalid : proposal.validateParams = [] := by
    rw [guards, bind_eq_ok_iff] at hguards
    obtain ⟨_, hvalid, -⟩ := hguards
    exact require_eq_ok_iff.mp hvalid
  obtain ⟨cid, hcid⟩ := exists_item_of_required hvalid (haction ▸ (by decide :
    "component_id" ∈ (actionRegistry .increaseTopK).requiredParams))
  rw [get?_of_item hcid, Option.getD_some] at hhashable
  obtain ⟨s', hfailed, hstored⟩ : ∃ s', apply collab proposal
      { exP with registry := exP.registry.store capsule } = (.ok (failed proposal.proposalId
        ("Execution error: " ++ limitError.message) limitError.message), s') ∧
      s'.slot .topKStore cid = some (PyValue.int newK) :=
    apply_of_overflows _ haction hcid hhashable hvalue hnewK hmaxK hle hlong
  have hrun : execute collab readings lib proposal ex
      = (.ok { failed proposal.proposalId ("Execution error: " ++ limitError.message)
          limitError.message with
          capsuleId := some capsule.capsuleId, executionMode := proposal.executionMode }, s') := by
    rw [execute, bind_of_ok get_apply, ofExcept_bind_of_ok hguards, if_neg hmode, mutate,
      bind_of_ok hprepare, bind_of_ok (modify_apply _), applyRecorded, bind_of_ok hfailed]
    rfl
  refine ⟨fun result hresult ↦ ?_, fun hunchanged ↦ ?_⟩
  · rw [hrun] at hresult
    rw [← Except.ok.inj hresult]
    rfl
  -- a number that was there before could not have been prepared for
  · have hslots : s'.slots = ex.slots := by
      have hfixtures := hunchanged.fixtures.slots
      rwa [hrun] at hfixtures
    rw [slot, hslots] at hstored
    exact hlong (writable_of_snapshot haction hcid hsnapshot hwritable hstored)

/-! ## Conflicts -/

def Conflict (e : Raised) : Prop := e.kind = .idempotencyConflictError

omit [PyValue V F] [FloatText F] in
theorem Caught.not_conflict {e : Raised} (h : Caught e) : ¬ Conflict e := by
  rintro hconflict
  rw [Conflict] at hconflict
  rcases h with h | h <;> exact absurd (hconflict.symm.trans h) (by simp)

omit [FloatText F] in
/-- The guard for the key comes after the one for the parameters and before the one for the
version. -/
theorem guards_of_used (hvalid : proposal.validateParams = [])
    (hused : idemKey proposal ∈ ex.usedIdempotencyKeys) :
    ∃ e, ex.guards proposal = .error e ∧ Conflict e := by
  rw [guards, hvalid, require, if_pos rfl, ok_bind, require, if_neg (not_not.mpr hused)]
  exact ⟨_, rfl, by rw [Conflict]⟩

omit [FloatText F] in
theorem not_conflict_of_guards (hunused : idemKey proposal ∉ ex.usedIdempotencyKeys) {e : Raised}
    (h : ex.guards proposal = .error e) : ¬ Conflict e := by
  rw [guards, bind_eq_error_iff] at h
  rcases h with hparams | ⟨_, -, h⟩
  · rw [require] at hparams
    split at hparams
    · exact absurd hparams (by simp)
    · obtain rfl := Except.error.inj hparams
      simp [Conflict]
  rw [require, if_pos hunused, ok_bind, checkVersion] at h
  split at h
  · split at h
    · rw [bind_eq_error_iff] at h
      rcases h with hhashable | ⟨_, -, hversion⟩
      · exact (caught_of_requireHashable hhashable).not_conflict
      · dsimp only at hversion
        rw [require] at hversion
        split at hversion
        · exact absurd hversion (by simp)
        · obtain rfl := Except.error.inj hversion
          simp [Conflict]
    · exact absurd h (by simp)
  · exact absurd h (by simp)

/-- Reading the quarantine of a partition raises errors of the database alone. -/
def QuietStore (collab : Collaborators V W) : Prop :=
  ∀ pid w e w', collab.isQuarantined pid w = (.error e, w') → ¬ Conflict e

section Quiet

variable {pre : LocalDevExecutor V W → Prop}

omit [FloatText F] in
theorem triple_requireHashable (v : V) : Triple pre
    (Program.ofExcept (requireHashable v) : Program (LocalDevExecutor V W) Raised Unit)
    (fun _ _ ↦ True) (fun e _ ↦ ¬ Conflict e) :=
  triple_ofExcept (fun _ _ _ _ ↦ trivial) fun _ h _ _ ↦ (caught_of_requireHashable h).not_conflict

omit [FloatText F] in
theorem triple_requireWritable (d : Dict V) : Triple pre
    (Program.ofExcept (requireWritable d) : Program (LocalDevExecutor V W) Raised Unit)
    (fun _ _ ↦ True) (fun e _ ↦ ¬ Conflict e) := by
  refine triple_ofExcept (fun _ _ _ _ ↦ trivial) fun e he _ _ ↦ ?_
  rw [requireWritable] at he
  split at he
  · exact nomatch he
  · rw [← Except.error.inj he]
    simp [Conflict, limitError]

omit [FloatText F] in
/-- The exceptions that leave `_apply` are not the ones that are subclasses of `ValueError`. -/
theorem triple_apply_quiet : Triple pre (apply collab proposal) (fun _ _ ↦ True)
    (fun e _ ↦ ¬ Conflict e) := by
  have hany : Triple pre (applyAction collab proposal) (fun _ _ ↦ True) (fun _ _ ↦ True) :=
    fun _ _ ↦ ⟨fun _ _ _ ↦ trivial, fun _ _ _ ↦ trivial⟩
  refine hany.attempt fun exc ↦ ?_
  split
  · exact triple_pure fun _ _ ↦ trivial
  · rename_i hother
    refine triple_raise fun _ _ hconflict ↦ hother (Or.inr ?_)
    rw [hconflict]
    rfl

omit [FloatText F] in
theorem triple_snapshotState_quiet (hstore : QuietStore collab) : Triple pre
    (snapshotState collab proposal) (fun _ _ ↦ True) (fun e _ ↦ ¬ Conflict e) := by
  have hslot : ∀ slot keyName stateName absent, Triple pre
      (snapshotSlot proposal slot keyName stateName absent : Program (LocalDevExecutor V W) _ _)
      (fun _ _ ↦ True) (fun e _ ↦ ¬ Conflict e) := by
    intro slot keyName stateName absent
    refine Triple.bind (triple_get fun s h ↦ h) fun _ ↦ ?_
    exact (triple_requireHashable _).bind fun _ ↦ triple_pure fun _ _ ↦ trivial
  have hflag : ∀ flag keyName stateName, Triple pre
      (snapshotFlag proposal flag keyName stateName : Program (LocalDevExecutor V W) _ _)
      (fun _ _ ↦ True) (fun e _ ↦ ¬ Conflict e) := by
    intro flag keyName stateName
    refine Triple.bind (triple_get fun s h ↦ h) fun _ ↦ ?_
    exact (triple_requireHashable _).bind fun _ ↦ triple_pure fun _ _ ↦ trivial
  rw [snapshotState]
  split
  case h_2 => exact triple_pure fun _ _ ↦ trivial
  case h_6 | h_7 => exact hflag _ _ _
  case h_8 =>
    refine Triple.bind (?_ : Triple _ _ (fun _ _ ↦ True) _) fun _ ↦ triple_pure fun _ _ ↦ trivial
    exact triple_zoom (fun _ _ _ _ _ ↦ trivial) fun ex _ e w h ↦ hstore _ ex.world e w h
  all_goals exact hslot _ _ _ _

theorem triple_prepareCapsule_quiet (hstore : QuietStore collab) : Triple pre
    (prepareCapsule collab readings lib proposal) (fun _ _ ↦ True) (fun e _ ↦ ¬ Conflict e) := by
  refine (triple_snapshotState_quiet hstore).bind fun prev ↦ (triple_requireHashable _).bind
    fun _ ↦ (triple_requireWritable _).bind fun _ ↦ ?_
  refine (triple_of_returns fun _ ↦ ⟨_, _, rfl⟩).bind fun capsuleId ↦ ?_
  refine (triple_of_returns fun _ ↦ ⟨_, _, rfl⟩).bind fun createdAt ↦ ?_
  refine (triple_of_returns fun _ ↦ ⟨_, _, rfl⟩).bind fun expiresAt ↦ ?_
  refine (triple_requireWritable _).bind fun _ ↦ ?_
  refine triple_ofExcept (fun _ _ _ _ ↦ trivial) fun e he _ _ ↦ ?_
  -- the encoder raises type errors
  rw [RollbackCapsule.sealed, bind_eq_error_iff] at he
  rcases he with he | ⟨_, -, he⟩
  · rw [RollbackCapsule.computeIntegrity] at he
    split at he
    · exact absurd he (by simp)
    · obtain rfl := Except.error.inj he
      simp [Conflict]
  · exact absurd he (by simp [pure, Except.pure])

theorem triple_execute_quiet (hstore : QuietStore collab) : Triple
    (fun ex ↦ idemKey proposal ∉ ex.usedIdempotencyKeys)
    (execute collab readings lib proposal) (fun _ _ ↦ True) (fun e _ ↦ ¬ Conflict e) := by
  refine triple_get_eq.bind fun ex ↦ ?_
  refine Triple.bind (?_ : Triple _ _ (fun _ _ ↦ True) _) fun _ ↦ ?_
  · refine triple_ofExcept (fun _ _ _ _ ↦ trivial) fun e he ex' hex ↦ ?_
    exact not_conflict_of_guards (hex.1 ▸ hex.2) he
  split
  · exact triple_pure fun _ _ ↦ trivial
  · refine (triple_prepareCapsule_quiet hstore).bind fun capsule ↦ ?_
    refine (triple_of_returns fun _ ↦ ⟨_, _, rfl⟩).bind fun _ ↦ ?_
    refine triple_apply_quiet.bind fun result ↦ ?_
    exact (triple_of_returns fun _ ↦ ⟨_, _, rfl⟩).bind fun _ ↦ triple_pure fun _ _ ↦ trivial

end Quiet

theorem execute_conflicts_iff (hstore : QuietStore collab) (hvalid : proposal.validateParams = []) :
    (∃ e, (execute collab readings lib proposal ex).1 = .error e ∧ Conflict e) ↔
      idemKey proposal ∈ ex.usedIdempotencyKeys := by
  constructor
  · rintro ⟨e, he, hconflict⟩
    by_contra hunused
    have hquiet : Triple (fun ex ↦ idemKey proposal ∉ ex.usedIdempotencyKeys)
        (execute collab readings lib proposal) (fun _ _ ↦ True) (fun e _ ↦ ¬ Conflict e) :=
      triple_execute_quiet hstore
    exact (hquiet ex hunused).2 e _ (Prod.ext he rfl) hconflict
  · intro hused
    obtain ⟨e, hguards, hconflict⟩ := guards_of_used hvalid hused
    refine ⟨e, ?_, hconflict⟩
    rw [execute, bind_of_ok get_apply, ofExcept_bind_of_error hguards]

/-! ## Series of executions -/

/-- A call of `execute`, and what the clock and the ids are while it runs. -/
structure ExecuteCall (V : Type) where
  proposal : RecoveryProposal V
  readings : Readings

section Series

variable (collab lib)

def executeCall (call : ExecuteCall V) :
    Program (LocalDevExecutor V W) Raised (ExecutionResult V) :=
  execute collab call.readings lib call.proposal

/-- The call succeeds in a mode that changes something. -/
def succeeds (call : ExecuteCall V) (ex : LocalDevExecutor V W) : Bool :=
  call.proposal.executionMode ≠ .dryRun &&
    match (executeCall collab lib call ex).1 with
    | .ok result => result.success
    | .error _ => false

/-- The calls of a series that succeed in such a mode. -/
def successes : List (ExecuteCall V) → LocalDevExecutor V W → List (ExecuteCall V)
  | [], _ => []
  | call :: calls, ex =>
    let rest := successes calls (executeCall collab lib call ex).2
    if succeeds collab lib call ex then call :: rest else rest

variable {collab lib} {call : ExecuteCall V} {calls : List (ExecuteCall V)}

theorem usedKeys_executeCall : (executeCall collab lib call ex).2.usedIdempotencyKeys =
    if succeeds collab lib call ex then ex.usedIdempotencyKeys.insert (idemKey call.proposal)
    else ex.usedIdempotencyKeys := by
  have htriple : Triple (fun s ↦ s.usedIdempotencyKeys = ex.usedIdempotencyKeys)
      (executeCall collab lib call)
      (fun result s ↦ s.usedIdempotencyKeys
        = usedKeysAfter call.proposal ex.usedIdempotencyKeys result.success)
      (fun _ s ↦ s.usedIdempotencyKeys = ex.usedIdempotencyKeys) := triple_execute_usedKeys _
  rw [succeeds]
  rcases exists_ok_or_error (executeCall collab lib call) ex with
    ⟨result, ex', hrun⟩ | ⟨e, ex', hrun⟩
  · rw [hrun, (htriple ex rfl).1 result ex' hrun, usedKeysAfter]
    simp [and_comm]
  · rw [hrun, (htriple ex rfl).2 e ex' hrun]
    simp

theorem not_mem_usedKeys_of_succeeds (h : succeeds collab lib call ex = true) :
    idemKey call.proposal ∉ ex.usedIdempotencyKeys := by
  intro hused
  have herror : ∃ e, ex.guards call.proposal = .error e := by
    rw [guards]
    cases hparams : require (call.proposal.validateParams = []) (⟨.paramValidationError,
        "Param validation failed: [" ++ ", ".intercalate (call.proposal.validateParams.map
          (reprStr V)) ++ "]"⟩ : Raised) with
    | error e => exact ⟨e, rfl⟩
    | ok _ =>
      rw [ok_bind, require, if_neg (not_not.mpr hused)]
      exact ⟨_, rfl⟩
  obtain ⟨e, hguards⟩ := herror
  have hrun : executeCall collab lib call ex = (.error e, ex) := by
    rw [executeCall, execute, bind_of_ok get_apply, ofExcept_bind_of_error hguards]
  rw [succeeds, hrun] at h
  simp at h

/-- The used keys are those that were used before and those of the calls that succeeded. -/
theorem mem_usedKeys_iff {key : String} :
    key ∈ (after (executeCall collab lib) calls ex).usedIdempotencyKeys ↔
      key ∈ ex.usedIdempotencyKeys ∨
        ∃ call ∈ successes collab lib calls ex, idemKey call.proposal = key := by
  induction calls generalizing ex with
  | nil => simp [after, successes]
  | cons call calls ih =>
    rw [after, ih, usedKeys_executeCall, successes]
    by_cases h : succeeds collab lib call ex = true
    · simp only [if_pos h, List.mem_insert_iff, List.mem_cons, exists_eq_or_imp]
      rw [or_assoc, or_left_comm, eq_comm]
    · simp only [if_neg h]

theorem successes_subset : successes collab lib calls ex ⊆ calls := by
  induction calls generalizing ex with
  | nil => exact fun _ h ↦ h
  | cons call calls ih =>
    rw [successes]
    split
    · exact List.cons_subset_cons call ih
    · exact List.subset_cons_of_subset call ih

theorem nodup_keys_successes :
    (∀ call ∈ successes collab lib calls ex, idemKey call.proposal ∉ ex.usedIdempotencyKeys) ∧
      ((successes collab lib calls ex).map fun call ↦ idemKey call.proposal).Nodup := by
  induction calls generalizing ex with
  | nil => simp [successes]
  | cons call calls ih =>
    obtain ⟨hunused, hnodup⟩ := @ih (executeCall collab lib call ex).2
    rw [usedKeys_executeCall] at hunused
    rw [successes]
    split
    · rename_i h
      simp only [if_pos h, List.mem_insert_iff, not_or] at hunused
      refine ⟨?_, ?_⟩
      · rintro call' hcall'
        rcases List.mem_cons.mp hcall' with rfl | hcall'
        · exact not_mem_usedKeys_of_succeeds h
        · exact (hunused call' hcall').2
      · rw [List.map_cons, List.nodup_cons]
        refine ⟨fun hmem ↦ ?_, hnodup⟩
        obtain ⟨call', hcall', hkey⟩ := List.mem_map.mp hmem
        exact (hunused call' hcall').1 hkey
    · rename_i h
      simp only [if_neg h] at hunused
      exact ⟨hunused, hnodup⟩

/-- The proposals have the same id and the same idempotency key. -/
def SamePair (proposal proposal' : RecoveryProposal V) : Prop :=
  proposal.proposalId = proposal'.proposalId ∧ proposal.idempotencyKey = proposal'.idempotencyKey

/-- A call after a series of calls is atomic, and it raises a conflict exactly when a call with the
same pair has succeeded, if its parameters are valid. -/
structure AtomicIdempotent (collab : Collaborators V W) (lib : Library F)
    (ex : LocalDevExecutor V W) (calls : List (ExecuteCall V)) (call : ExecuteCall V) : Prop where
  atomic : Fails collab call.readings lib call.proposal
      (after (executeCall collab lib) calls ex) →
    Unchanged (after (executeCall collab lib) calls ex)
      (executeCall collab lib call (after (executeCall collab lib) calls ex)).2
  idempotent : call.proposal.validateParams = [] →
    ((∃ e, (executeCall collab lib call (after (executeCall collab lib) calls ex)).1 = .error e ∧
      Conflict e) ↔
    ∃ call' ∈ successes collab lib calls ex, SamePair call'.proposal call.proposal)

end Series

/-! ## Two series of two calls -/

/-- Disabling a tool in the simulation mode. -/
def disableCall (proposalId idempotencyKey : String) : ExecuteCall (Scalar Empty) where
  proposal := { (RecoveryEngine.toolDryRun [("tool_id", .str "t")]).proposal with
    executionMode := .simulation, proposalId, idempotencyKey }
  readings := ⟨fun _ ↦ 0, fun _ ↦ "id"⟩

theorem quietStore_idleCollaborators : QuietStore RecoveryEngine.idleCollaborators :=
  fun _ _ _ _ h ↦ absurd (Prod.mk.inj h).1 (by simp)

end LocalDevExecutor

end DriftGuardX.Recovery
