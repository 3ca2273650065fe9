import DriftGuardX.Recovery.Executor

/-!
# What executions and compensations do

An execution in a mutating mode leaves the registry alone or adds one capsule of its proposal, and
has added it when it returns (`triple_call`). A dry run returns exactly when the guards pass and the
receipt, if there is one, is admitted and consumed (`exists_call_dryRun_iff`). A fresh capsule can
always be compensated, except where the provenance store refuses to release a partition and the
capsule has not expired (`exists_compensate_iff`).
-/

namespace DriftGuardX.Recovery

open Json Bytes Transaction Program

namespace LocalDevExecutor

variable {V F W : Type} [PyValue V F] {collab : Collaborators V W} {readings : Readings}
  {lib : Library F} {proposal : RecoveryProposal V} {ex : LocalDevExecutor V W}

/-! ## What the parts of an execution keep -/

section Keeps

variable {I : LocalDevExecutor V W → Prop}

/-- The collaborators have no part in the property, and it stays as the clock is read. -/
def Internal (I : LocalDevExecutor V W → Prop) : Prop :=
  ∀ ex w n, ex.tick ≤ n → I ex → I { ex with world := w, tick := n }

/-- The fixtures have no part in the property either. -/
def Apart (I : LocalDevExecutor V W → Prop) : Prop :=
  ∀ ex slots flags w n, ex.tick ≤ n → I ex → I { ex with slots, flags, world := w, tick := n }

/-- Neither the collaborators nor the fixtures have a part in the property. -/
def Aside (I : LocalDevExecutor V W → Prop) : Prop :=
  ∀ ex slots flags w, I ex → I { ex with slots, flags, world := w }

omit [PyValue V F] in
theorem Apart.internal (hI : Apart I) : Internal I :=
  fun ex w n hn h ↦ hI ex ex.slots ex.flags w n hn h

omit [PyValue V F] in
theorem Apart.aside (hI : Apart I) : Aside I :=
  fun ex slots flags w h ↦ hI ex slots flags w ex.tick le_rfl h

omit [PyValue V F] in
theorem keeps_outside {α : Type} (hI : Internal I) (x : Program W Raised α) :
    Keeps I (outside x : Program (LocalDevExecutor V W) Raised α) :=
  keeps_zoom fun ex w h ↦ hI ex w ex.tick le_rfl h

omit [PyValue V F] in
theorem keeps_ofExcept {α : Type} (x : Except Raised α) :
    Keeps I (ofExcept x : Program (LocalDevExecutor V W) Raised α) :=
  triple_ofExcept (fun _ _ _ h ↦ h) fun _ _ _ h ↦ h

omit [PyValue V F] in
theorem keeps_newId (hI : Internal I) (readings : Readings) :
    Keeps I (newId readings : Program (LocalDevExecutor V W) Raised String) :=
  triple_returns (fun _ ↦ rfl) fun ex hex ↦ hI ex ex.world _ ex.tick.le_succ hex

omit [PyValue V F] in
theorem triple_now (hI : Internal I) (readings : Readings) {pre : LocalDevExecutor V W → Prop}
    (hpre : ∀ ex, pre ex → I ex) : Triple pre
    (now readings : Program (LocalDevExecutor V W) Raised ℤ)
    (fun time ex ↦ (∃ i, time = readings.clock i) ∧ I ex) (fun _ ↦ I) :=
  triple_returns (fun _ ↦ rfl) fun ex hex ↦
    ⟨⟨ex.tick, rfl⟩, hI ex ex.world _ ex.tick.le_succ (hpre ex hex)⟩

theorem keeps_snapshotSlot (slot : Slot) (keyName stateName : String) (absent : V) : Keeps I
    (snapshotSlot proposal slot keyName stateName absent : Program (LocalDevExecutor V W) _ _) := by
  refine Triple.bind (triple_get fun s h ↦ h) fun _ ↦ ?_
  exact (keeps_ofExcept _).bind fun _ ↦ triple_pure fun _ h ↦ h

theorem keeps_snapshotFlag (flag : Flag) (keyName stateName : String) : Keeps I
    (snapshotFlag proposal flag keyName stateName : Program (LocalDevExecutor V W) _ _) := by
  refine Triple.bind (triple_get fun s h ↦ h) fun _ ↦ ?_
  exact (keeps_ofExcept _).bind fun _ ↦ triple_pure fun _ h ↦ h

theorem keeps_snapshotState (hI : Internal I) : Keeps I (snapshotState collab proposal) := by
  rw [snapshotState]
  split
  case h_2 => exact triple_pure fun _ h ↦ h
  case h_6 | h_7 => exact keeps_snapshotFlag _ _ _
  case h_8 => exact (keeps_outside hI _).bind fun _ ↦ triple_pure fun _ h ↦ h
  all_goals exact keeps_snapshotSlot _ _ _ _

theorem keeps_assign (hI : Aside I) (slot : Slot) (key value : V) :
    Keeps I (assign slot key value : Program (LocalDevExecutor V W) _ _) :=
  (keeps_ofExcept _).bind fun _ ↦ triple_modify fun ex h ↦ hI ex _ ex.flags ex.world h

theorem keeps_mark (hI : Aside I) (flag : Flag) (key : V) (member : Bool) :
    Keeps I (mark flag key member : Program (LocalDevExecutor V W) _ _) :=
  (keeps_ofExcept _).bind fun _ ↦ triple_modify fun ex h ↦ hI ex ex.slots _ ex.world h

theorem keeps_applySlot (hI : Apart I) (slot : Slot) (keyName valueName : String)
    (description : V → V → String) (sideEffects : V → V → Dict V) : Keeps I
      (applySlot proposal slot keyName valueName description sideEffects :
        Program (LocalDevExecutor V W) _ _) := by
  refine (keeps_ofExcept _).bind fun _ ↦ (keeps_ofExcept _).bind fun _ ↦ ?_
  exact (keeps_assign hI.aside _ _ _).bind fun _ ↦ triple_pure fun _ h ↦ h

theorem keeps_increaseTopK (hI : Apart I) :
    Keeps I (increaseTopK proposal : Program (LocalDevExecutor V W) _ _) := by
  refine (keeps_ofExcept _).bind fun _ ↦ (keeps_ofExcept _).bind fun _ ↦ ?_
  refine (keeps_ofExcept _).bind fun newK ↦ (keeps_ofExcept _).bind fun maxK ↦ ?_
  split
  · exact (keeps_ofExcept _).bind fun _ ↦ (keeps_ofExcept _).bind fun _ ↦ triple_pure fun _ h ↦ h
  · exact (keeps_assign hI.aside _ _ _).bind fun _ ↦ (keeps_ofExcept _).bind fun _ ↦
      triple_pure fun _ h ↦ h

theorem keeps_apply (hI : Apart I) : Keeps I (apply collab proposal) := by
  refine keeps_attempt ?_ fun exc ↦ ?_
  · rw [applyAction]
    split
    case h_1 => exact keeps_increaseTopK hI
    case h_2 =>
      refine (keeps_ofExcept _).bind fun _ ↦ (keeps_ofExcept _).bind fun _ ↦ ?_
      exact triple_pure fun _ h ↦ h
    case h_6 | h_7 =>
      refine (keeps_ofExcept _).bind fun _ ↦ (keeps_mark hI.aside _ _ _).bind fun _ ↦ ?_
      exact triple_pure fun _ h ↦ h
    case h_8 =>
      refine (keeps_ofExcept _).bind fun _ ↦ (keeps_outside hI.internal _).bind fun _ ↦ ?_
      exact triple_pure fun _ h ↦ h
    all_goals exact keeps_applySlot hI _ _ _ _ _
  · split
    · exact triple_pure fun _ h ↦ h
    · exact triple_raise fun _ h ↦ h

theorem keeps_applyRecorded (hI : Apart I)
    (hkeys : ∀ ex keys, I ex → I { ex with usedIdempotencyKeys := keys })
    (capsule : RollbackCapsule V) : Keeps I (applyRecorded collab proposal capsule) := by
  refine (keeps_apply hI).bind fun result ↦
    Triple.bind (triple_modify fun ex hex ↦ ?_) fun _ ↦ triple_pure fun _ h ↦ h
  split
  · exact hkeys ex _ hex
  · exact hex

theorem keeps_restoreSlot (hI : Aside I) (prev : Dict V) (slot : Slot)
    (keyName stateName : String) : Keeps I
    (restoreSlot prev slot keyName stateName : Program (LocalDevExecutor V W) _ _) :=
  (keeps_ofExcept _).bind fun _ ↦ (keeps_ofExcept _).bind fun _ ↦ keeps_assign hI _ _ _

theorem keeps_restoreFlag (hI : Aside I) (prev : Dict V) (flag : Flag)
    (keyName stateName : String) : Keeps I
    (restoreFlag prev flag keyName stateName : Program (LocalDevExecutor V W) _ _) := by
  rw [restoreFlag]
  split
  · exact triple_pure fun _ h ↦ h
  · exact (keeps_ofExcept _).bind fun _ ↦ keeps_mark hI _ _ _

theorem keeps_restorePartition (hI : Aside I) (prev : Dict V) :
    Keeps I (restorePartition collab prev) := by
  rw [restorePartition]
  split
  · exact triple_pure fun _ h ↦ h
  · exact (keeps_ofExcept _).bind fun _ ↦ keeps_zoom fun ex w h ↦ hI ex ex.slots ex.flags w h

theorem keeps_undo (hI : Aside I) {prev : Dict V} {t : RecoveryActionType}
    {handler : Program (LocalDevExecutor V W) Raised Unit} (h : undo collab prev t = some handler) :
    Keeps I handler := by
  cases t with
  | retryHybridRetrieval => exact absurd h (by simp [undo])
  | quarantineProvenancePartition =>
    obtain rfl := Option.some.inj h
    exact keeps_restorePartition hI prev
  | disableTestTool | quarantineMemoryNs =>
    obtain rfl := Option.some.inj h
    exact keeps_restoreFlag hI prev _ _ _
  | _ =>
    obtain rfl := Option.some.inj h
    exact keeps_restoreSlot hI prev _ _ _

theorem keeps_rollback (hI : Aside I) (capsule : RollbackCapsule V) :
    Keeps I (rollback collab capsule) := by
  rw [rollback]
  split
  · rename_i handler hhandler
    obtain ⟨t, -, hundo⟩ := Option.bind_eq_some_iff.mp hhandler
    refine keeps_attempt ((keeps_undo hI hundo).bind fun _ ↦ triple_pure fun _ h ↦ h) fun exc ↦ ?_
    split
    · exact triple_pure fun _ h ↦ h
    · exact triple_raise fun _ h ↦ h
  · exact triple_pure fun _ h ↦ h

variable [FloatText F]

/-- A capsule as it is when it has just been made for a proposal. -/
structure Fresh (readings : Readings) (lib : Library F) (proposal : RecoveryProposal V)
    (capsule : RollbackCapsule V) : Prop where
  proposalId : capsule.proposalId = proposal.proposalId
  active : capsule.status = .active
  made : ∃ c : RollbackCapsule V, c.sealed lib = .ok capsule
  expires : ∃ i, capsule.expiresAt = readings.clock i + RollbackCapsule.lifetime

theorem triple_prepareCapsule (hI : Internal I) : Triple I
    (prepareCapsule collab readings lib proposal)
    (fun capsule ex ↦ Fresh readings lib proposal capsule ∧ I ex) (fun _ ↦ I) := by
  refine (keeps_snapshotState hI).bind fun prev ↦ (keeps_ofExcept _).bind fun _ ↦
    (keeps_ofExcept _).bind fun _ ↦ ?_
  refine (keeps_newId hI readings).bind fun capsuleId ↦ (triple_now hI readings fun _ h ↦ h).bind
    fun createdAt ↦ ?_
  refine (triple_now hI readings fun _ h ↦ h.2).bind fun expiresAt ↦ ?_
  refine Triple.bind (triple_ofExcept (fun _ _ _ h ↦ h) fun _ _ _ h ↦ h.2) fun _ ↦ ?_
  refine triple_ofExcept (fun capsule hcapsule ex hex ↦ ⟨?_, hex.2⟩) fun _ _ _ hex ↦ hex.2
  obtain ⟨⟨i, rfl⟩, -⟩ := hex
  have hmade := hcapsule
  simp only [RollbackCapsule.sealed, bind_eq_ok_iff, pure_eq_ok_iff] at hcapsule
  obtain ⟨hash, -, rfl⟩ := hcapsule
  exact ⟨rfl, rfl, ⟨_, hmade⟩, i, rfl⟩

end Keeps

/-! ## The registry -/

section Registry

variable {registry : CapsuleRegistry V}

/-- The registry is the given one. -/
def HasRegistry (registry : CapsuleRegistry V) (ex : LocalDevExecutor V W) : Prop :=
  ex.registry = registry

omit [PyValue V F] in
theorem apart_hasRegistry : Apart (HasRegistry registry : LocalDevExecutor V W → Prop) :=
  fun _ _ _ _ _ _ h ↦ h

variable [FloatText F]

/-- The registry with a fresh capsule of the proposal added. -/
def Stored (readings : Readings) (lib : Library F) (proposal : RecoveryProposal V)
    (registry : CapsuleRegistry V) (ex : LocalDevExecutor V W) : Prop :=
  ∃ capsule, Fresh readings lib proposal capsule ∧ HasRegistry (registry.store capsule) ex

theorem triple_mutate : Triple (HasRegistry registry) (mutate collab readings lib proposal)
    (fun _ ↦ Stored readings lib proposal registry)
    (fun _ ex ↦ HasRegistry registry ex ∨ Stored readings lib proposal registry ex) := by
  refine ((triple_prepareCapsule apart_hasRegistry.internal).weaken (fun _ h ↦ h) (fun _ _ h ↦ h)
    fun _ _ h ↦ Or.inl h).bind fun capsule ↦ ?_
  have hstore : Triple
      (fun ex : LocalDevExecutor V W ↦
        Fresh readings lib proposal capsule ∧ HasRegistry registry ex)
      (modify fun ex ↦ { ex with registry := ex.registry.store capsule })
      (fun _ ex ↦ Fresh readings lib proposal capsule ∧ HasRegistry (registry.store capsule) ex)
      (fun (_ : Raised) ex ↦ HasRegistry registry ex ∨ Stored readings lib proposal registry ex) :=
    triple_modify fun ex hex ↦ ⟨hex.1, congrArg (CapsuleRegistry.store · capsule) hex.2⟩
  refine hstore.bind fun _ ex hex ↦ ?_
  exact (keeps_applyRecorded apart_hasRegistry (fun _ _ h ↦ h) capsule).weaken (fun _ h ↦ h)
    (fun _ _ h ↦ ⟨capsule, hex.1, h⟩) (fun _ _ h ↦ Or.inr ⟨capsule, hex.1, h⟩) ex hex.2

theorem triple_execute (hmode : proposal.executionMode ≠ .dryRun) : Triple (HasRegistry registry)
    (execute collab readings lib proposal) (fun _ ↦ Stored readings lib proposal registry)
    (fun _ ex ↦ HasRegistry registry ex ∨ Stored readings lib proposal registry ex) := by
  refine Triple.bind (triple_get fun s h ↦ h) fun ex ↦ ?_
  refine ((keeps_ofExcept _).weaken (fun _ h ↦ h) (fun _ _ h ↦ h) fun _ _ h ↦ Or.inl h).bind
    fun _ ↦ ?_
  rw [if_neg hmode]
  exact triple_mutate

/-- Whether the execution of an admitted proposal raises or not, its receipt is settled, and that
concerns the collaborators alone. -/
theorem triple_admitted {pre Q R : LocalDevExecutor V W → Prop} (hQ : Internal Q) (hR : Internal R)
    (hQR : ∀ ex, Q ex → R ex) (receiptId : String)
    (h : Triple pre (execute collab readings lib proposal) (fun _ ↦ Q) fun _ ↦ R) :
    Triple pre (admitted collab readings lib proposal receiptId) (fun _ ↦ Q) fun _ ↦ R := by
  refine Triple.attempt (h.bind fun result ↦ ?_) fun exc ↦ ?_
  · have hsettle : Keeps Q (settleReceipt collab receiptId result) := keeps_outside hQ _
    refine (hsettle.weaken (fun _ h ↦ h) (fun _ _ h ↦ h) fun _ ex ↦ hQR ex).bind fun _ ↦ ?_
    exact triple_pure fun _ h ↦ h
  · exact (keeps_outside hR _).bind fun _ ↦ triple_raise fun _ h ↦ h

theorem internal_stored : Internal
    (Stored readings lib proposal registry : LocalDevExecutor V W → Prop) :=
  fun _ _ _ _ h ↦ h

theorem triple_executeWithAdmission (hmode : proposal.executionMode ≠ .dryRun)
    (receiptId : String) : Triple (HasRegistry registry)
    (executeWithAdmission collab readings lib proposal receiptId)
    (fun _ ↦ Stored readings lib proposal registry)
    (fun _ ex ↦ HasRegistry registry ex ∨ Stored readings lib proposal registry ex) := by
  have hweaken : ∀ {α : Type} {x : Program (LocalDevExecutor V W) Raised α},
      Keeps (HasRegistry registry) x → Triple (HasRegistry registry) x
        (fun _ ↦ HasRegistry registry)
        (fun _ ex ↦ HasRegistry registry ex ∨ Stored readings lib proposal registry ex) :=
    fun h ↦ h.weaken (fun _ h ↦ h) (fun _ _ h ↦ h) fun _ _ h ↦ Or.inl h
  refine (hweaken (keeps_outside apart_hasRegistry.internal _)).bind fun _ ↦
    (hweaken (keeps_outside apart_hasRegistry.internal _)).bind fun verdict ↦ ?_
  split
  · refine triple_admitted internal_stored ?_ (fun _ h ↦ Or.inr h) receiptId (triple_execute hmode)
    exact fun ex w n hn h ↦ h.imp (apart_hasRegistry.internal ex w n hn) (internal_stored ex w n hn)
  · exact triple_raise fun _ h ↦ Or.inl h

theorem triple_call (hmode : proposal.executionMode ≠ .dryRun) : Triple (HasRegistry registry)
    (call collab readings lib proposal) (fun _ ↦ Stored readings lib proposal registry)
    (fun _ ex ↦ HasRegistry registry ex ∨ Stored readings lib proposal registry ex) := by
  rw [call]
  split
  · exact triple_executeWithAdmission hmode _
  · exact triple_execute hmode

end Registry

/-! ## Dry runs -/

section DryRun

variable [FloatText F]

/-- The receipt store opens, admits the receipt and consumes it. -/
def Admits (collab : Collaborators V W) (receiptId : String) (binding : Dict V) (w : W) : Prop :=
  ∃ w₁ w₂ reason, collab.openReceipts w = (.ok (), w₁) ∧
    collab.verifyReceipt receiptId binding w₁ = (.ok (true, reason), w₂) ∧
    (collab.consumeReceipt receiptId w₂).1 = .ok ()

/-- The guards pass, and the receipt, if one is named, is admitted. -/
def Accepts (collab : Collaborators V W) (proposal : RecoveryProposal V)
    (ex : LocalDevExecutor V W) : Prop :=
  ex.guards proposal = .ok () ∧ ∀ receiptId, nonempty proposal.admissionReceiptId = some receiptId →
    Admits collab receiptId (actual proposal) ex.world

omit [PyValue V F] [FloatText F] in
theorem outside_apply {α : Type} (x : Program W Raised α) : outside x ex
    = ((x ex.world).1, { ex with world := (x ex.world).2 }) := rfl

theorem execute_dryRun_returns_iff (hmode : proposal.executionMode = .dryRun)
    {result : ExecutionResult V} {ex' : LocalDevExecutor V W} :
    execute collab readings lib proposal ex = (.ok result, ex') ↔
      ex.guards proposal = .ok () ∧ result = dryRunResult proposal ∧ ex' = ex := by
  simp only [execute, bind_returns_iff, get_returns_iff, ofExcept_returns_iff, if_pos hmode,
    pure_returns_iff]
  constructor
  · rintro ⟨_, _, ⟨rfl, rfl⟩, _, _, ⟨hguards, rfl⟩, rfl, rfl⟩
    exact ⟨hguards, rfl, rfl⟩
  · rintro ⟨hguards, rfl, rfl⟩
    exact ⟨_, _, ⟨rfl, rfl⟩, (), _, ⟨hguards, rfl⟩, rfl, rfl⟩

omit [PyValue V F] [FloatText F] in
theorem outside_returns_iff {α : Type} {x : Program W Raised α} {a : α}
    {ex' : LocalDevExecutor V W} : outside x ex = (.ok a, ex') ↔
      ∃ w, x ex.world = (.ok a, w) ∧ ex' = { ex with world := w } := by
  rw [outside, zoom]
  cases x ex.world with
  | mk r w => simp [eq_comm, and_comm]

/-- After the receipt is admitted, a dry run returns when the guards pass and the receipt is
consumed. -/
theorem admitted_dryRun_returns_iff (hmode : proposal.executionMode = .dryRun)
    (receiptId : String) :
    (∃ result ex', admitted collab readings lib proposal receiptId ex = (.ok result, ex')) ↔
      ex.guards proposal = .ok () ∧ (collab.consumeReceipt receiptId ex.world).1 = .ok () := by
  simp only [admitted, attempt_returns_iff, bind_returns_iff, execute_dryRun_returns_iff hmode,
    settleReceipt, outside_returns_iff, pure_returns_iff]
  constructor
  · rintro ⟨_, _, ⟨_, _, ⟨hguards, rfl, rfl⟩, _, _, ⟨w, hconsume, -⟩, -⟩ |
      ⟨_, _, -, _, _, -, hraise⟩⟩
    · exact ⟨hguards, congrArg Prod.fst hconsume⟩
    · exact absurd hraise not_raise_returns
  · rintro ⟨hguards, hconsume⟩
    exact ⟨_, _, Or.inl ⟨_, _, ⟨hguards, rfl, rfl⟩, (), _, ⟨_, Prod.ext hconsume rfl, rfl⟩, rfl,
      rfl⟩⟩

/-- **Dry runs.** A dry run returns exactly when the executor accepts the proposal. -/
theorem exists_call_dryRun_iff (hmode : proposal.executionMode = .dryRun) :
    (∃ result ex', call collab readings lib proposal ex = (.ok result, ex')) ↔
      Accepts collab proposal ex := by
  rw [call, Accepts]
  cases hreceipt : nonempty proposal.admissionReceiptId with
  | none => simp [execute_dryRun_returns_iff hmode]
  -- with a receipt the guards are checked between its verification and its settlement
  | some receiptId =>
    simp only [executeWithAdmission, bind_returns_iff, outside_returns_iff, Option.some.injEq,
      forall_eq', Admits]
    constructor
    · rintro ⟨result, ex', _, _, ⟨w₁, hopen, rfl⟩, verdict, _, ⟨w₂, hverify, rfl⟩, hrest⟩
      split at hrest
      · rename_i hadmitted
        obtain ⟨hguards, hconsume⟩ :=
          (admitted_dryRun_returns_iff hmode receiptId).mp ⟨result, ex', hrest⟩
        refine ⟨hguards, w₁, w₂, verdict.2, hopen, ?_, hconsume⟩
        rw [hverify, ← hadmitted]
      · exact absurd hrest not_raise_returns
    · rintro ⟨hguards, w₁, w₂, reason, hopen, hverify, hconsume⟩
      have hreturns : ∃ result ex', admitted collab readings lib proposal receiptId
          { ex with world := w₂ } = (.ok result, ex') :=
        (admitted_dryRun_returns_iff hmode receiptId).mpr ⟨hguards, hconsume⟩
      obtain ⟨result, ex', hrest⟩ := hreturns
      exact ⟨result, ex', (), _, ⟨w₁, hopen, rfl⟩, _, _, ⟨w₂, hverify, rfl⟩, hrest⟩

theorem tick_of_call_dryRun (hmode : proposal.executionMode = .dryRun) {result : ExecutionResult V}
    {ex' : LocalDevExecutor V W} (h : call collab readings lib proposal ex = (.ok result, ex')) :
    ex'.tick = ex.tick := by
  rw [call] at h
  cases hreceipt : nonempty proposal.admissionReceiptId with
  | none =>
    rw [hreceipt] at h
    rw [((execute_dryRun_returns_iff hmode).mp h).2.2]
  | some receiptId =>
    simp only [hreceipt, executeWithAdmission, bind_returns_iff, outside_returns_iff] at h
    obtain ⟨_, _, ⟨w₁, -, rfl⟩, verdict, _, ⟨w₂, -, rfl⟩, hrest⟩ := h
    split at hrest
    · simp only [admitted, attempt_returns_iff, bind_returns_iff,
        execute_dryRun_returns_iff hmode, settleReceipt, outside_returns_iff,
        pure_returns_iff] at hrest
      rcases hrest with ⟨_, _, ⟨-, -, rfl⟩, _, _, ⟨w, -, rfl⟩, -, rfl⟩ | ⟨_, _, -, _, _, -, hraise⟩
      · rfl
      · exact absurd hraise not_raise_returns
    · exact absurd hrest not_raise_returns

end DryRun

/-! ## Compensations -/

section Compensation

variable {capsule : RollbackCapsule V}

/-- The exceptions that a rollback turns into a failed result. -/
def Caught (e : Raised) : Prop := e.kind = .keyError ∨ e.kind = .typeError

/-- The partition that the capsule gives back, if it gives one back, is released, or what the
provenance store raises is caught. -/
def Releases (collab : Collaborators V W) (capsule : RollbackCapsule V) (w : W) : Prop :=
  RecoveryActionType.ofValue capsule.actionType = some .quarantineProvenancePartition →
  (capsule.previousState.get? "quarantined").elim false PyValue.truthy = false →
  ∀ pid, capsule.previousState.item "partition_id" = .ok pid →
    ∀ e w', collab.unquarantinePartition pid w = (.error e, w') → Caught e

theorem caught_of_item {d : Dict V} {k : String} {e : Raised} (h : d.item k = .error e) :
    Caught e := by
  rw [Dict.item] at h
  split at h
  · exact absurd h (by simp)
  · exact Or.inl (Except.error.inj h ▸ rfl)

theorem caught_of_requireHashable {v : V} {e : Raised} (h : requireHashable v = .error e) :
    Caught e := by
  rw [requireHashable] at h
  split at h
  · exact absurd h (by simp)
  · exact Or.inr (Except.error.inj h ▸ rfl)

variable {pre : LocalDevExecutor V W → Prop}

theorem triple_item {d : Dict V} {k : String} : Triple pre
    (ofExcept (d.item k) : Program (LocalDevExecutor V W) Raised V) (fun _ ↦ pre)
    (fun e _ ↦ Caught e) :=
  triple_ofExcept (fun _ _ _ h ↦ h) fun _ h _ _ ↦ caught_of_item h

theorem triple_restoreSlot (prev : Dict V) (slot : Slot) (keyName stateName : String) :
    Triple pre (restoreSlot prev slot keyName stateName : Program (LocalDevExecutor V W) Raised _)
      (fun _ _ ↦ True) (fun e _ ↦ Caught e) := by
  refine triple_item.bind fun value ↦ triple_item.bind fun key ↦ ?_
  refine Triple.bind (triple_ofExcept (fun _ _ _ h ↦ h) fun _ h _ _ ↦ caught_of_requireHashable h)
    fun _ ↦ triple_modify fun _ _ ↦ trivial

theorem triple_restoreFlag (prev : Dict V) (flag : Flag) (keyName stateName : String) :
    Triple pre (restoreFlag prev flag keyName stateName : Program (LocalDevExecutor V W) Raised _)
      (fun _ _ ↦ True) (fun e _ ↦ Caught e) := by
  rw [restoreFlag]
  split
  · exact triple_pure fun _ _ ↦ trivial
  · refine triple_item.bind fun key ↦ ?_
    refine Triple.bind (triple_ofExcept (fun _ _ _ h ↦ h) fun _ h _ _ ↦ caught_of_requireHashable h)
      fun _ ↦ triple_modify fun _ _ ↦ trivial

theorem triple_restorePartition (prev : Dict V) : Triple
    (fun ex ↦ (prev.get? "quarantined").elim false PyValue.truthy = false →
      ∀ pid, prev.item "partition_id" = .ok pid →
        ∀ e w', collab.unquarantinePartition pid ex.world = (.error e, w') → Caught e)
    (restorePartition collab prev) (fun _ _ ↦ True) (fun e _ ↦ Caught e) := by
  rw [restorePartition]
  split
  · exact triple_pure fun _ _ ↦ trivial
  · rename_i hfalse
    -- a missing key is caught; the store may raise anything
    have hitem : Triple
        (fun ex : LocalDevExecutor V W ↦
          (prev.get? "quarantined").elim false PyValue.truthy = false →
          ∀ pid, prev.item "partition_id" = .ok pid →
            ∀ e w', collab.unquarantinePartition pid ex.world = (.error e, w') → Caught e)
        (ofExcept (prev.item "partition_id"))
        (fun pid ex ↦ ∀ e w', collab.unquarantinePartition pid ex.world = (.error e, w') → Caught e)
        (fun e _ ↦ Caught e) :=
      triple_ofExcept (fun pid hpid ex hex ↦ hex (Bool.not_eq_true _ ▸ hfalse) pid hpid)
        fun _ h _ _ ↦ caught_of_item h
    refine hitem.bind fun pid ex hex ↦ ⟨fun _ _ _ ↦ trivial, fun e ex' heq ↦ ?_⟩
    obtain ⟨he, -⟩ := Prod.mk.inj heq
    exact hex e _ (Prod.ext he rfl)

/-- Undoing an action raises nothing that is not caught, unless a partition is not released. -/
theorem triple_undo {t : RecoveryActionType} {handler : Program (LocalDevExecutor V W) Raised Unit}
    (ht : RecoveryActionType.ofValue capsule.actionType = some t)
    (h : undo collab capsule.previousState t = some handler) :
    Triple (fun ex ↦ Releases collab capsule ex.world) handler (fun _ _ ↦ True)
      (fun e _ ↦ Caught e) := by
  cases t with
  | retryHybridRetrieval => exact nomatch h
  | quarantineProvenancePartition =>
    obtain rfl := Option.some.inj h
    exact (triple_restorePartition _).weaken (fun ex hex ↦ hex ht) (fun _ _ h ↦ h) fun _ _ h ↦ h
  | disableTestTool | quarantineMemoryNs =>
    obtain rfl := Option.some.inj h
    exact triple_restoreFlag _ _ _ _
  | _ =>
    obtain rfl := Option.some.inj h
    exact triple_restoreSlot _ _ _ _

/-- Releasing the partition raises what the provenance store raises. -/
theorem restorePartition_of_error {prev : Dict V} {pid : V} {e : Raised} {w : W}
    (hfalse : (prev.get? "quarantined").elim false PyValue.truthy = false)
    (hpid : prev.item "partition_id" = .ok pid)
    (h : collab.unquarantinePartition pid ex.world = (.error e, w)) :
    restorePartition collab prev ex = (.error e, { ex with world := w }) := by
  have hitem : (ofExcept (prev.item "partition_id") : Program (LocalDevExecutor V W) Raised V) ex
      = (.ok pid, ex) := by
    rw [ofExcept_apply, hpid]
  rw [restorePartition, hfalse, if_neg Bool.false_ne_true, bind_of_ok hitem, outside_apply, h]

theorem exists_rollback_iff : (∃ result ex', rollback collab capsule ex = (.ok result, ex')) ↔
    Releases collab capsule ex.world := by
  rw [rollback]
  cases hhandler : (RecoveryActionType.ofValue capsule.actionType).bind
      (undo collab capsule.previousState) with
  | none =>
    refine ⟨fun _ hpart ↦ ?_, fun _ ↦ ⟨_, _, rfl⟩⟩
    rw [hpart] at hhandler
    exact nomatch hhandler
  | some handler =>
    obtain ⟨t, ht, hundo⟩ := Option.bind_eq_some_iff.mp hhandler
    constructor
    -- only the release of a partition can raise what the rollback does not catch
    · rintro ⟨result, ex', hreturns⟩ hpart hfalse pid hpid e w herror
      obtain rfl := Option.some.inj (ht.symm.trans hpart)
      obtain rfl := Option.some.inj hundo
      have hraises := restorePartition_of_error hfalse hpid herror
      dsimp only at hreturns
      rw [attempt_of_error (bind_of_error hraises)] at hreturns
      by_contra hcaught
      rw [Caught] at hcaught
      rw [if_neg hcaught] at hreturns
      exact not_raise_returns hreturns
    · intro hreleases
      dsimp only
      rcases exists_ok_or_error handler ex with ⟨u, ex', hrun⟩ | ⟨e, ex', hrun⟩
      · have hok : (handler >>= fun _ ↦ pure (rolledBack capsule)) ex
            = (.ok (rolledBack capsule), ex') := by
          rw [bind_of_ok hrun, pure_apply]
        exact ⟨_, _, attempt_of_ok hok⟩
      · have hcaught : Caught e := (triple_undo ht hundo ex hreleases).2 e ex' hrun
        rw [Caught] at hcaught
        rw [attempt_of_error (bind_of_error hrun), if_pos hcaught]
        exact ⟨_, _, rfl⟩

variable [FloatText F]

omit [PyValue V F] [FloatText F] in
theorem now_apply : (now readings : Program (LocalDevExecutor V W) Raised ℤ) ex
    = (.ok (readings.clock ex.tick), { ex with tick := ex.tick + 1 }) := rfl

theorem tick_of_compensate {result : ExecutionResult V} {ex' : LocalDevExecutor V W}
    (h : compensate collab readings lib capsule ex = (.ok result, ex')) :
    ex'.tick = ex.tick + 1 := by
  rw [compensate, bind_of_ok now_apply] at h
  obtain ⟨verdict, ex₁, hverdict, hrest⟩ := bind_returns_iff.mp h
  obtain ⟨-, rfl⟩ := ofExcept_returns_iff.mp hverdict
  split at hrest
  · obtain ⟨-, rfl⟩ := pure_returns_iff.mp hrest
    rfl
  · obtain ⟨result', ex₂, hrollback, hrest⟩ := bind_returns_iff.mp hrest
    have htick : ex₂.tick = ex.tick + 1 :=
      (keeps_rollback (I := fun e ↦ e.tick = ex.tick + 1) (fun _ _ _ _ h ↦ h) capsule _ rfl).1
        result' ex₂ hrollback
    obtain ⟨_, ex₃, hmodify, hpure⟩ := bind_returns_iff.mp hrest
    obtain rfl := modify_returns_iff.mp hmodify
    obtain ⟨-, rfl⟩ := pure_returns_iff.mp hpure
    split <;> exact htick

/-- **Compensation.** A fresh capsule is compensated, with or without success, exactly when it has
expired or a partition that it gives back is released. -/
theorem exists_compensate_iff (hfresh : Fresh readings lib proposal capsule) :
    (∃ result ex', compensate collab readings lib capsule ex = (.ok result, ex')) ↔
      (readings.clock ex.tick ≤ capsule.expiresAt → Releases collab capsule ex.world) := by
  rcases lt_or_ge capsule.expiresAt (readings.clock ex.tick) with hexpired | htime
  · refine iff_of_true ?_ fun htime ↦ absurd hexpired (not_lt.mpr htime)
    obtain ⟨reason, hrefused⟩ : ∃ reason, capsule.isUsable lib (readings.clock ex.tick)
        = .ok (some reason) := RollbackCapsule.isUsable_of_spent (Or.inr hexpired)
    rw [compensate, bind_of_ok now_apply, ofExcept_bind_of_ok hrefused]
    exact ⟨_, _, rfl⟩
  rw [imp_iff_right htime]
  obtain ⟨c, hmade⟩ := hfresh.made
  have husable := RollbackCapsule.isUsable_sealed hmade hfresh.active htime
  -- a capsule that was sealed here is usable as long as it has not expired
  have hcheck : (ofExcept (capsule.isUsable lib (readings.clock ex.tick)) :
      Program (LocalDevExecutor V W) Raised _) { ex with tick := ex.tick + 1 }
      = (.ok none, { ex with tick := ex.tick + 1 }) := by
    rw [ofExcept_apply, husable]
  have hrollback : (∃ result ex', rollback collab capsule { ex with tick := ex.tick + 1 }
      = (.ok result, ex')) ↔ Releases collab capsule ex.world := exists_rollback_iff
  rw [compensate, bind_of_ok now_apply, bind_of_ok hcheck, ← hrollback]
  constructor
  · rintro ⟨result, ex', hreturns⟩
    obtain ⟨r, t, hr, -⟩ := bind_returns_iff.mp hreturns
    exact ⟨r, t, hr⟩
  · rintro ⟨result, ex', hr⟩
    exact ⟨_, _, bind_returns_iff.mpr ⟨result, ex', hr, rfl⟩⟩

end Compensation

end LocalDevExecutor

end DriftGuardX.Recovery
