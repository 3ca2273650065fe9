import DriftGuardX.Recovery.Settlement

/-!
# Coming to `_apply`

An execution comes to `_apply` when it is no dry run, its guards pass and its capsule can be
prepared, and with a receipt, when the receipt is admitted. An execution that comes to it has
registered a capsule (`triple_call_reaches`); one that does not leaves the fixtures and the registry
alone (`triple_call_blocked`).
-/

namespace DriftGuardX.Recovery

open Json Program

namespace LocalDevExecutor

variable {V F W : Type} [PyValue V F] {collab : Collaborators V W} {readings : Readings}
  {lib : Library F} {proposal : RecoveryProposal V} {ex ex' before : LocalDevExecutor V W}

/-! ## What a run may leave behind -/

structure SameFixtures (ex ex' : LocalDevExecutor V W) : Prop where
  slots : ex'.slots = ex.slots
  flags : ex'.flags = ex.flags

/-- A capsule of the proposal was registered. An execution registers one immediately before
`_apply`, and nothing else does. -/
def RunsApply (proposalId : String) (ex ex' : LocalDevExecutor V W) : Prop :=
  ∃ m ∈ ex'.registry, m.2.proposalId = proposalId ∧ m ∉ ex.registry

/-- The fixtures and the registry are as they were before. -/
structure Untouched (before ex : LocalDevExecutor V W) : Prop where
  fixtures : SameFixtures before ex
  registry : ex.registry = before.registry

omit [PyValue V F] in
theorem internal_untouched : Internal (Untouched before) :=
  fun _ _ _ _ h ↦ ⟨⟨h.fixtures.slots, h.fixtures.flags⟩, h.registry⟩

omit [PyValue V F] in
theorem Untouched.ticked (h : Untouched before ex) (n : ℕ) :
    Untouched before { ex with tick := n } :=
  ⟨⟨h.fixtures.slots, h.fixtures.flags⟩, h.registry⟩

omit [PyValue V F] in
theorem Untouched.not_runsApply {proposalId : String} (h : Untouched ex ex') :
    ¬ RunsApply proposalId ex ex' := by
  rintro ⟨m, hm, -, hnew⟩
  exact hnew (h.registry ▸ hm)

omit [PyValue V F] in
theorem runsApply_of_forProposal {proposalId : String}
    (hnone : ex.registry.forProposal proposalId = none)
    (hsome : (ex'.registry.forProposal proposalId).isSome = true) :
    RunsApply proposalId ex ex' := by
  obtain ⟨c, hc⟩ := Option.isSome_iff_exists.mp hsome
  obtain ⟨m, hm, rfl⟩ := List.mem_map.mp (List.mem_of_find?_eq_some hc)
  have hid : m.2.proposalId = proposalId := by simpa using List.find?_some hc
  refine ⟨m, hm, hid, fun hold ↦ ?_⟩
  rw [CapsuleRegistry.forProposal, List.find?_eq_none] at hnone
  exact hnone m.2 (List.mem_map_of_mem hold) (by simpa using hid)

/-- A capsule of the proposal is registered. -/
def HasCapsule (proposalId : String) (ex : LocalDevExecutor V W) : Prop :=
  (ex.registry.forProposal proposalId).isSome = true

omit [PyValue V F] in
theorem apart_hasCapsule {proposalId : String} :
    Apart (HasCapsule proposalId : LocalDevExecutor V W → Prop) := fun _ _ _ _ _ _ h ↦ h

omit [PyValue V F] in
theorem HasCapsule.replace {proposalId : String} {c : RollbackCapsule V}
    (h : HasCapsule proposalId ex) (hc : c.proposalId = proposalId) :
    HasCapsule proposalId { ex with registry := ex.registry.replace c } := by
  rw [HasCapsule, CapsuleRegistry.forProposal, List.find?_isSome] at h ⊢
  obtain ⟨c', hc', hid⟩ := h
  obtain ⟨m, hm, rfl⟩ := List.mem_map.mp hc'
  have hmem := List.mem_map_of_mem (f := Prod.snd) (List.mem_map_of_mem
    (f := fun m ↦ if m.1 = c.capsuleId then (m.1, c) else m) hm)
  refine ⟨_, hmem, ?_⟩
  by_cases hsealed : m.1 = c.capsuleId
  · rw [if_pos hsealed]
    exact decide_eq_true hc
  · rwa [if_neg hsealed]

/-! ## Coming to `_apply` -/

variable [FloatText F]

/-- The execution is no dry run, passes the guards and prepares its capsule. -/
def ReachesApply (collab : Collaborators V W) (readings : Readings) (lib : Library F)
    (proposal : RecoveryProposal V) (ex : LocalDevExecutor V W) : Prop :=
  ex.guards proposal = .ok () ∧ proposal.executionMode ≠ .dryRun ∧
    ∃ capsule ex', prepareCapsule collab readings lib proposal ex = (.ok capsule, ex')

/-- The receipt store opens and admits the receipt, which leaves it in the second state. -/
def Verifies (collab : Collaborators V W) (receiptId : String) (binding : Dict V) (w w' : W) :
    Prop :=
  ∃ w₁ reason, collab.openReceipts w = (.ok (), w₁) ∧
    collab.verifyReceipt receiptId binding w₁ = (.ok (true, reason), w')

omit [PyValue V F] [FloatText F] in
theorem Verifies.unique {receiptId : String} {binding : Dict V} {w w₁ w₂ : W}
    (h₁ : Verifies collab receiptId binding w w₁) (h₂ : Verifies collab receiptId binding w w₂) :
    w₁ = w₂ := by
  obtain ⟨w₁', _, hopen₁, hverify₁⟩ := h₁
  obtain ⟨w₂', _, hopen₂, hverify₂⟩ := h₂
  obtain rfl : w₁' = w₂' := (Prod.mk.inj (hopen₁.symm.trans hopen₂)).2
  exact (Prod.mk.inj (hverify₁.symm.trans hverify₂)).2

/-- The receipt, if one is named, is admitted, and then the execution comes to `_apply`. -/
def CallReachesApply (collab : Collaborators V W) (readings : Readings) (lib : Library F)
    (proposal : RecoveryProposal V) (ex : LocalDevExecutor V W) : Prop :=
  match nonempty proposal.admissionReceiptId with
  | some receiptId => ∃ w, Verifies collab receiptId (actual proposal) ex.world w ∧
      ReachesApply collab readings lib proposal { ex with world := w }
  | none => ReachesApply collab readings lib proposal ex

/-- An execution that comes to `_apply` has stored its capsule. -/
theorem triple_execute_reaches (registry : CapsuleRegistry V) : Triple
    (fun ex ↦ ReachesApply collab readings lib proposal ex ∧ HasRegistry registry ex)
    (execute collab readings lib proposal) (fun _ ↦ Stored readings lib proposal registry)
    (fun _ ↦ Stored readings lib proposal registry) := by
  rintro ex ⟨⟨hguards, hmode, capsule, ex', hprepare⟩, hregistry⟩
  obtain ⟨hfresh, hkept⟩ :=
    (triple_prepareCapsule apart_hasRegistry.internal ex hregistry).1 capsule ex' hprepare
  rw [execute, bind_of_ok get_apply, ofExcept_bind_of_ok hguards, if_neg hmode, mutate,
    bind_of_ok hprepare, bind_of_ok (modify_apply _)]
  have hstored : HasRegistry (registry.store capsule)
      { ex' with registry := ex'.registry.store capsule } :=
    congrArg (CapsuleRegistry.store · capsule) hkept
  exact ((keeps_applyRecorded apart_hasRegistry (fun _ _ h ↦ h) capsule).weaken (fun _ h ↦ h)
    (fun _ _ h ↦ ⟨capsule, hfresh, h⟩) fun _ _ h ↦ ⟨capsule, hfresh, h⟩) _ hstored

/-- An execution that does not come to `_apply` changes nothing, and returns only in a dry run. -/
theorem triple_execute_blocked : Triple
    (fun ex ↦ ¬ ReachesApply collab readings lib proposal ex ∧ Untouched before ex)
    (execute collab readings lib proposal)
    (fun _ ex ↦ proposal.executionMode = .dryRun ∧ Untouched before ex)
    (fun _ ↦ Untouched before) := by
  have hraise : ∀ e, Triple (Untouched before)
      (raise e : Program (LocalDevExecutor V W) Raised (ExecutionResult V))
      (fun _ ex ↦ proposal.executionMode = .dryRun ∧ Untouched before ex)
      (fun _ ↦ Untouched before) := fun e ↦ triple_raise fun _ h ↦ h
  rintro ex ⟨hblocked, hsame⟩
  rw [execute, bind_of_ok get_apply]
  cases hguards : ex.guards proposal with
  | error e =>
    rw [ofExcept_bind_of_error rfl]
    exact hraise e ex hsame
  | ok u =>
    rw [ofExcept_bind_of_ok rfl]
    split
    · rename_i hmode
      have hreturn : Triple (Untouched before)
          (pure (dryRunResult proposal) : Program (LocalDevExecutor V W) Raised _)
          (fun _ ex ↦ proposal.executionMode = .dryRun ∧ Untouched before ex)
          (fun _ ↦ Untouched before) := triple_pure fun _ h ↦ ⟨hmode, h⟩
      exact hreturn ex hsame
    · rename_i hmode
      have hkept : Triple (Untouched before) (prepareCapsule collab readings lib proposal)
          (fun capsule ex ↦ Fresh readings lib proposal capsule ∧ Untouched before ex)
          (fun _ ↦ Untouched before) := triple_prepareCapsule internal_untouched
      rcases exists_ok_or_error (prepareCapsule collab readings lib proposal) ex with
        ⟨capsule, ex', hprepare⟩ | ⟨e, ex', hprepare⟩
      · exact absurd ⟨hguards, hmode, capsule, ex', hprepare⟩ hblocked
      · rw [mutate, bind_of_error hprepare]
        exact hraise e ex' ((hkept ex hsame).2 e ex' hprepare)

variable (collab readings lib proposal) in
/-- An execution with a receipt is the execution of an admitted proposal, or raises before it. -/
theorem executeWithAdmission_cases (receiptId : String) (ex : LocalDevExecutor V W) :
    (∃ w, Verifies collab receiptId (actual proposal) ex.world w ∧
      executeWithAdmission collab readings lib proposal receiptId ex
        = admitted collab readings lib proposal receiptId { ex with world := w }) ∨
    (∀ w, ¬ Verifies collab receiptId (actual proposal) ex.world w) ∧
      ∃ e w, executeWithAdmission collab readings lib proposal receiptId ex
        = (.error e, { ex with world := w }) := by
  rw [executeWithAdmission]
  rcases exists_ok_or_error collab.openReceipts ex.world with ⟨u, w₁, hopen⟩ | ⟨e, w₁, hopen⟩
  · rw [bind_of_ok (outside_returns_iff.mpr ⟨w₁, hopen, rfl⟩)]
    rcases exists_ok_or_error (collab.verifyReceipt receiptId (actual proposal)) w₁ with
      ⟨⟨admits, reason⟩, w, hverify⟩ | ⟨e, w, hverify⟩
    · rw [bind_of_ok (outside_returns_iff.mpr ⟨w, hverify, rfl⟩)]
      cases admits with
      | true => exact Or.inl ⟨w, ⟨w₁, reason, hopen, hverify⟩, rfl⟩
      | false =>
        refine Or.inr ⟨?_, _, w, rfl⟩
        rintro w' ⟨w₁', reason', hopen', hverify'⟩
        obtain rfl : w₁ = w₁' := (Prod.mk.inj (hopen.symm.trans hopen')).2
        have hverdict := Except.ok.inj (Prod.mk.inj (hverify.symm.trans hverify')).1
        exact absurd (congrArg Prod.fst hverdict) (by simp)
    · refine Or.inr ⟨?_, e, w, ?_⟩
      · rintro w' ⟨w₁', reason', hopen', hverify'⟩
        obtain rfl : w₁ = w₁' := (Prod.mk.inj (hopen.symm.trans hopen')).2
        exact absurd (Prod.mk.inj (hverify.symm.trans hverify')).1 (by simp)
      · exact bind_of_error (by rw [outside_apply, hverify])
  · refine Or.inr ⟨?_, e, w₁, ?_⟩
    · rintro w' ⟨w₁', reason', hopen', -⟩
      exact absurd (Prod.mk.inj (hopen.symm.trans hopen')).1 (by simp)
    · exact bind_of_error (by rw [outside_apply, hopen])

theorem triple_call_reaches (registry : CapsuleRegistry V) : Triple
    (fun ex ↦ CallReachesApply collab readings lib proposal ex ∧ HasRegistry registry ex)
    (call collab readings lib proposal) (fun _ ↦ Stored readings lib proposal registry)
    (fun _ ↦ Stored readings lib proposal registry) := by
  unfold CallReachesApply
  rw [call]
  cases nonempty proposal.admissionReceiptId with
  | none => exact triple_execute_reaches registry
  | some receiptId =>
    rintro ex ⟨⟨w, hverifies, hreaches⟩, hregistry⟩
    dsimp only
    rcases executeWithAdmission_cases collab readings lib proposal receiptId ex with
      ⟨w', hverifies', heq⟩ | ⟨hnone, -⟩
    · obtain rfl := hverifies.unique hverifies'
      rw [heq]
      exact triple_admitted internal_stored internal_stored (fun _ h ↦ h) receiptId
        (triple_execute_reaches registry) _ ⟨hreaches, hregistry⟩
    · exact absurd hverifies (hnone w)

theorem triple_call_blocked (before : LocalDevExecutor V W) : Triple
    (fun ex ↦ ¬ CallReachesApply collab readings lib proposal ex ∧ Untouched before ex)
    (call collab readings lib proposal)
    (fun _ ex ↦ proposal.executionMode = .dryRun ∧ Untouched before ex)
    (fun _ ↦ Untouched before) := by
  unfold CallReachesApply
  rw [call]
  cases nonempty proposal.admissionReceiptId with
  | none => exact triple_execute_blocked
  | some receiptId =>
    rintro ex ⟨hblocked, hsame⟩
    dsimp only
    rcases executeWithAdmission_cases collab readings lib proposal receiptId ex with
      ⟨w, hverifies, heq⟩ | ⟨-, e, w, heq⟩
    · rw [heq]
      have hinternal : Internal fun ex ↦ proposal.executionMode = .dryRun ∧ Untouched before ex :=
        fun ex w n hn h ↦ ⟨h.1, internal_untouched ex w n hn h.2⟩
      exact triple_admitted hinternal internal_untouched (fun _ h ↦ h.2) receiptId
        triple_execute_blocked _
        ⟨fun hreaches ↦ hblocked ⟨w, hverifies, hreaches⟩,
          internal_untouched ex w ex.tick le_rfl hsame⟩
    · rw [heq]
      have hraise : Triple (Untouched before)
          (raise e : Program (LocalDevExecutor V W) Raised (ExecutionResult V))
          (fun _ ex ↦ proposal.executionMode = .dryRun ∧ Untouched before ex)
          (fun _ ↦ Untouched before) := triple_raise fun _ h ↦ h
      exact hraise _ (internal_untouched ex w ex.tick le_rfl hsame)

theorem keeps_compensate {capsule : RollbackCapsule V} {proposalId : String}
    (hid : capsule.proposalId = proposalId) :
    Keeps (HasCapsule proposalId) (compensate collab readings lib capsule) := by
  refine ((triple_now apart_hasCapsule.internal readings fun _ h ↦ h).weaken (fun _ h ↦ h)
    (fun _ _ h ↦ h.2) fun _ _ h ↦ h).bind fun time ↦ (keeps_ofExcept _).bind fun verdict ↦ ?_
  split
  · exact triple_pure fun _ h ↦ h
  · refine (keeps_rollback apart_hasCapsule.aside capsule).bind fun result ↦ ?_
    refine Triple.bind (triple_modify fun ex hex ↦ ?_) fun _ ↦ triple_pure fun _ h ↦ h
    split
    · exact hex.replace hid
    · exact hex

end LocalDevExecutor

end DriftGuardX.Recovery
