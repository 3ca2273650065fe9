import DriftGuardX.Recovery.Partitions
import DriftGuardX.Recovery.Settlement
import Mathlib.Logic.Function.Basic

/-!
# Compensation undoes execution

What can be observed of the fixtures is an `Observation`, and what an action does to it an `Edit`,
which can be reverted (`revert_apply`). An execution makes an edit, and the capsule it returns holds
what reverts it (`exists_edit_of_executed`); so compensating the capsules of a series of executions
in reverse order restores what was observed before, whatever the actions were. The compensation of a
single execution succeeds exactly when the action has a handler (`compensation_undoes`).
-/

namespace DriftGuardX.Recovery

open Json Bytes Transaction Program

/-! ## Observations and edits -/

section Observation

variable {V F : Type} [PyValue V F]

/-- The value that the executor reads where a slot has no entry. -/
def Slot.absent : Slot → V
  | .liveVersions => PyValue.none
  | .topKStore => PyValue.int 10
  | .indexStore => PyValue.str "index_v1"
  | .rerankerStore => PyValue.str "none"
  | .modelStore => PyValue.str "gpt-4"
  | .promptVersions => PyValue.str "v1"

/-- What can be observed of the fixtures. -/
@[ext] structure Observation (V : Type) where
  slots : Slot → V → V
  flags : Flag → V → Bool
  partitions : String → Bool

/-- What an action does. -/
inductive Edit (V : Type) where
  | nothing
  | assign (slot : Slot) (key value : V)
  | add (flag : Flag) (key : V)
  | quarantine (partitionId : String)

namespace Observation

def setSlot (o : Observation V) (slot : Slot) (key value : V) : Observation V :=
  { o with slots := fun slot' key' ↦
      if slot' = slot ∧ PyValue.eq key key' = true then value else o.slots slot' key' }

def setFlag (o : Observation V) (flag : Flag) (key : V) (member : Bool) : Observation V :=
  { o with flags := fun flag' key' ↦
      if flag' = flag ∧ PyValue.eq key key' = true then member else o.flags flag' key' }

omit [PyValue V F] in
def setPartition (o : Observation V) (partitionId : String) (quarantined : Bool) : Observation V :=
  { o with partitions := Function.update o.partitions partitionId quarantined }

/-- Equal keys are not told apart. -/
structure Respects (o : Observation V) : Prop where
  slots : ∀ slot key key', PyValue.eq key key' = true → o.slots slot key = o.slots slot key'
  flags : ∀ flag key key', PyValue.eq key key' = true → o.flags flag key = o.flags flag key'

variable {o : Observation V} {slot : Slot} {flag : Flag} {key : V} {partitionId : String}

theorem setSlot_setSlot {value value' : V} :
    (o.setSlot slot key value).setSlot slot key value' = o.setSlot slot key value' := by
  refine Observation.ext (funext₂ fun slot' key' ↦ ?_) rfl rfl
  simp only [setSlot]
  split
  · rfl
  · rfl

theorem setSlot_self (h : o.Respects) : o.setSlot slot key (o.slots slot key) = o := by
  refine Observation.ext (funext₂ fun slot' key' ↦ ?_) rfl rfl
  simp only [setSlot]
  split
  · rename_i hkey
    rw [hkey.1, h.slots slot key key' hkey.2]
  · rfl

theorem setFlag_setFlag {member member' : Bool} :
    (o.setFlag flag key member).setFlag flag key member' = o.setFlag flag key member' := by
  refine Observation.ext rfl (funext₂ fun flag' key' ↦ ?_) rfl
  simp only [setFlag]
  split
  · rfl
  · rfl

theorem setFlag_self (h : o.Respects) : o.setFlag flag key (o.flags flag key) = o := by
  refine Observation.ext rfl (funext₂ fun flag' key' ↦ ?_) rfl
  simp only [setFlag]
  split
  · rename_i hkey
    rw [hkey.1, h.flags flag key key' hkey.2]
  · rfl

omit [PyValue V F] in
theorem setPartition_setPartition {quarantined quarantined' : Bool} :
    (o.setPartition partitionId quarantined).setPartition partitionId quarantined'
      = o.setPartition partitionId quarantined' :=
  Observation.ext rfl rfl (Function.update_idem ..)

omit [PyValue V F] in
theorem setPartition_self : o.setPartition partitionId (o.partitions partitionId) = o :=
  Observation.ext rfl rfl (Function.update_eq_self ..)

end Observation

namespace Edit

open Observation

/-- Making an edit. -/
def apply (o : Observation V) : Edit V → Observation V
  | .nothing => o
  | .assign slot key value => o.setSlot slot key value
  | .add flag key => o.setFlag flag key true
  | .quarantine partitionId => o.setPartition partitionId true

/-- Reverting an edit to what was there before. -/
def revert (before o : Observation V) : Edit V → Observation V
  | .nothing => o
  | .assign slot key _ => o.setSlot slot key (before.slots slot key)
  | .add flag key => if before.flags flag key then o else o.setFlag flag key false
  | .quarantine partitionId =>
    if before.partitions partitionId then o else o.setPartition partitionId false

/-- **Reverting an edit.** What was there before the edit is there again. -/
theorem revert_apply {before : Observation V} (h : before.Respects) (edit : Edit V) :
    edit.revert before (edit.apply before) = before := by
  cases edit with
  | nothing => rfl
  | assign slot key value => rw [revert, apply, setSlot_setSlot, setSlot_self h]
  | add flag key =>
    rw [revert, apply]
    split
    · rename_i hmember
      rw [← hmember, setFlag_self h]
    · rename_i hmember
      rw [setFlag_setFlag, ← Bool.eq_false_iff.mpr hmember, setFlag_self h]
  | quarantine partitionId =>
    rw [revert, apply]
    split
    · rename_i hquarantined
      rw [← hquarantined, setPartition_self]
    · rename_i hquarantined
      rw [setPartition_setPartition, ← Bool.eq_false_iff.mpr hquarantined, setPartition_self]

end Edit

end Observation

/-! ## Observing the executor -/

namespace LocalDevExecutor

section Observe

variable {V F W : Type} [PyValue V F]

/-- What can be observed of the fixtures, each entry read with the default of the executor. -/
def observe (quarantined : W → String → Bool) (ex : LocalDevExecutor V W) : Observation V where
  slots slot key := (ex.slot slot key).getD slot.absent
  flags := ex.flag
  partitions := quarantined ex.world

variable {quarantined : W → String → Bool} {ex ex' : LocalDevExecutor V W} {slot : Slot}
  {flag : Flag} {key value : V}

theorem respects_observe : (observe quarantined ex).Respects where
  slots slot _ _ h :=
    congrArg (Option.getD · slot.absent) (Dictionary.find_congr PyValue.eq_equivalence h)
  flags _ _ _ h := Dictionary.mem_congr PyValue.eq_equivalence h

theorem observe_of_assign {u : Unit} (h : assign slot key value ex = (.ok u, ex')) :
    observe quarantined ex' = (observe quarantined ex).setSlot slot key value := by
  simp only [assign, bind_returns_iff, ofExcept_returns_iff, modify_returns_iff] at h
  obtain ⟨_, _, ⟨-, rfl⟩, rfl⟩ := h
  refine Observation.ext (funext₂ fun slot' key' ↦ ?_) rfl rfl
  simp only [observe, LocalDevExecutor.slot, Observation.setSlot]
  -- the other slots are not touched
  by_cases hslot : slot' = slot
  · subst hslot
    simp only [if_true, true_and, Dictionary.find_assign PyValue.eq_equivalence]
    split <;> rfl
  · simp only [hslot, if_false, false_and]

theorem observe_of_mark {member : Bool} {u : Unit} (h : mark flag key member ex = (.ok u, ex')) :
    observe quarantined ex' = (observe quarantined ex).setFlag flag key member := by
  simp only [mark, bind_returns_iff, ofExcept_returns_iff, modify_returns_iff] at h
  obtain ⟨_, _, ⟨-, rfl⟩, rfl⟩ := h
  refine Observation.ext rfl (funext₂ fun flag' key' ↦ ?_) rfl
  simp only [observe, LocalDevExecutor.flag, Observation.setFlag]
  by_cases hflag : flag' = flag
  · subst hflag
    cases member with
    | false =>
      simp [Dictionary.mem_discard PyValue.eq_equivalence]
    | true =>
      simp [Dictionary.mem_add PyValue.eq_equivalence]
  · simp only [hflag, if_false, false_and]

theorem exists_assign (ex : LocalDevExecutor V W) (slot : Slot) (value : V)
    (h : requireHashable key = .ok ()) : ∃ ex', assign slot key value ex = (.ok (), ex') := by
  rw [assign, ofExcept_bind_of_ok h]
  exact ⟨_, rfl⟩

theorem slot_of_assign {key' value : V} {u : Unit}
    (h : assign slot key value ex = (.ok u, ex')) : ex'.slot slot key'
      = if PyValue.eq key key' = true then some value else ex.slot slot key' := by
  simp only [assign, bind_returns_iff, ofExcept_returns_iff, modify_returns_iff] at h
  obtain ⟨_, _, ⟨-, rfl⟩, rfl⟩ := h
  simp only [LocalDevExecutor.slot, if_true, Dictionary.find_assign PyValue.eq_equivalence]

theorem exists_mark (ex : LocalDevExecutor V W) (flag : Flag) (member : Bool)
    (h : requireHashable key = .ok ()) : ∃ ex', mark flag key member ex = (.ok (), ex') := by
  rw [mark, ofExcept_bind_of_ok h]
  exact ⟨_, rfl⟩

end Observe

/-! ## What a capsule holds -/

section Snapshot

variable {V F W : Type} [PyValue V F] {collab : Collaborators V W} {proposal : RecoveryProposal V}
  {quarantined : W → String → Bool} {Ready : W → Prop} {ex exA exB : LocalDevExecutor V W}
  {prev : Dict V} {slot : Slot} {flag : Flag} {key value : V} {keyName stateName : String}

theorem get?_of_item {d : Dict V} (h : d.item keyName = .ok key) : d.get? keyName = some key := by
  rw [Dict.item] at h
  split at h
  · rename_i heq
    rw [heq, Except.ok.inj h]
  · exact absurd h (by simp)

theorem item_pair_left {v w : V} : Dict.item [(keyName, v), (stateName, w)] keyName = .ok v := by
  simp [Dict.item, Dict.get?]

theorem item_pair_right {v w : V} (hne : keyName ≠ stateName) :
    Dict.item [(keyName, v), (stateName, w)] stateName = .ok w := by
  simp [Dict.item, Dict.get?, hne]

theorem get?_pair_right {v w : V} (hne : keyName ≠ stateName) :
    Dict.get? [(keyName, v), (stateName, w)] stateName = some w := by
  simp [Dict.get?, hne]

/-- A handler reverts an edit from every state in which it can be called. -/
def Reverts (quarantined : W → String → Bool) (callable : LocalDevExecutor V W → Prop)
    (before : Observation V) (edit : Edit V)
    (handler : Program (LocalDevExecutor V W) Raised Unit) : Prop :=
  ∀ s, callable s → ∃ s', handler s = (.ok (), s') ∧
    observe quarantined s' = edit.revert before (observe quarantined s)

/-- The entry that was there is put back. -/
theorem reverts_restoreSlot (quarantined : W → String → Bool)
    (callable : LocalDevExecutor V W → Prop) (value : V) (hne : keyName ≠ stateName)
    (hkey : proposal.params.item keyName = .ok key)
    (hsnapshot : snapshotSlot proposal slot keyName stateName slot.absent ex = (.ok prev, exA)) :
    exA = ex ∧ Reverts quarantined callable (observe quarantined ex) (.assign slot key value)
      (restoreSlot prev slot keyName stateName) := by
  simp only [snapshotSlot, get?_of_item hkey, Option.getD_some, bind_returns_iff, get_returns_iff,
    ofExcept_returns_iff, pure_returns_iff] at hsnapshot
  obtain ⟨_, _, ⟨rfl, rfl⟩, _, _, ⟨hhashable, rfl⟩, rfl, rfl⟩ := hsnapshot
  refine ⟨rfl, fun s _ ↦ ?_⟩
  obtain ⟨s', hassign⟩ := exists_assign s slot ((ex.slot slot key).getD slot.absent) hhashable
  refine ⟨s', ?_, observe_of_assign hassign⟩
  rw [restoreSlot, ofExcept_bind_of_ok (item_pair_right hne), ofExcept_bind_of_ok item_pair_left,
    hassign]

/-- A member is removed that was not there. -/
theorem reverts_restoreFlag (quarantined : W → String → Bool)
    (callable : LocalDevExecutor V W → Prop) (hne : keyName ≠ stateName)
    (hkey : proposal.params.item keyName = .ok key)
    (hsnapshot : snapshotFlag proposal flag keyName stateName ex = (.ok prev, exA)) :
    exA = ex ∧ Reverts quarantined callable (observe quarantined ex) (.add flag key)
      (restoreFlag prev flag keyName stateName) := by
  simp only [snapshotFlag, get?_of_item hkey, Option.getD_some, bind_returns_iff, get_returns_iff,
    ofExcept_returns_iff, pure_returns_iff] at hsnapshot
  obtain ⟨_, _, ⟨rfl, rfl⟩, _, _, ⟨hhashable, rfl⟩, rfl, rfl⟩ := hsnapshot
  refine ⟨rfl, fun s _ ↦ ?_⟩
  rw [restoreFlag, get?_pair_right hne, Option.elim_some, PyValue.truthy_bool, Edit.revert]
  by_cases hmember : ex.flag flag key = true
  · rw [if_pos hmember]
    exact ⟨s, rfl, (if_pos hmember).symm⟩
  · rw [if_neg hmember]
    obtain ⟨s', hmark⟩ := exists_mark s flag false hhashable
    refine ⟨s', ?_, (observe_of_mark hmark).trans (if_neg hmember).symm⟩
    rw [ofExcept_bind_of_ok item_pair_left, hmark]

/-- A partition is released that was not quarantined. -/
theorem reverts_restorePartition (hstore : PartitionStore collab quarantined Ready)
    {key : V} {partitionId : String} (hkey : proposal.params.item "partition_id" = .ok key)
    (hpartition : PyValue.toStr key = some partitionId)
    (hactionType : proposal.actionType = .quarantineProvenancePartition)
    (hsnapshot : snapshotState collab proposal ex = (.ok prev, exA)) :
    observe quarantined exA = observe quarantined ex ∧
      Reverts quarantined (fun s ↦ Ready s.world) (observe quarantined ex) (.quarantine partitionId)
        (restorePartition collab prev) := by
  simp only [snapshotState, hactionType, get?_of_item hkey, Option.getD_some, bind_returns_iff,
    outside_returns_iff, pure_returns_iff] at hsnapshot
  obtain ⟨b, _, ⟨w, hanswer, rfl⟩, rfl, rfl⟩ := hsnapshot
  obtain ⟨hsame, hb⟩ := hstore.isQuarantined hanswer
  refine ⟨Observation.ext rfl rfl hsame, fun s hready ↦ ?_⟩
  have hne : "partition_id" ≠ "quarantined" := by decide
  rw [restorePartition, get?_pair_right hne, Option.elim_some, PyValue.truthy_bool, Edit.revert,
    hb partitionId hpartition]
  -- nothing was to be released if the partition was quarantined before
  by_cases hquarantined : quarantined ex.world partitionId = true
  · rw [if_pos hquarantined]
    exact ⟨s, rfl, (if_pos hquarantined).symm⟩
  · rw [if_neg hquarantined]
    obtain ⟨w', hrelease, hreleased⟩ := hstore.release hpartition hready
    refine ⟨{ s with world := w' }, ?_, ?_⟩
    · rw [ofExcept_bind_of_ok item_pair_left, outside_returns_iff]
      exact ⟨w', hrelease, rfl⟩
    · refine Eq.trans ?_ (if_neg hquarantined).symm
      exact Observation.ext rfl rfl hreleased

/-- One state comes from another by an edit that a handler reverts; without a handler, nothing has
changed. -/
def Revertible (quarantined : W → String → Bool) (callable : LocalDevExecutor V W → Prop)
    (before after : LocalDevExecutor V W)
    (handler : Option (Program (LocalDevExecutor V W) Raised Unit)) : Prop :=
  ∃ edit : Edit V, observe quarantined after = edit.apply (observe quarantined before) ∧
    match handler with
    | some handler => Reverts quarantined callable (observe quarantined before) edit handler
    | none => edit = .nothing

theorem applySlot_returns {valueName : String} {description : V → V → String}
    {sideEffects : V → V → Dict V} {result : ExecutionResult V}
    (h : applySlot proposal slot keyName valueName description sideEffects exA
      = (.ok result, exB)) :
    ∃ key value, proposal.params.item keyName = .ok key ∧
      assign slot key value exA = (.ok (), exB) := by
  simp only [applySlot, bind_returns_iff, ofExcept_returns_iff, pure_returns_iff] at h
  obtain ⟨key, _, ⟨hkey, rfl⟩, value, _, ⟨-, rfl⟩, _, _, hassign, -, rfl⟩ := h
  exact ⟨key, value, hkey, hassign⟩

theorem increaseTopK_returns {result : ExecutionResult V} (hsuccess : result.success = true)
    (h : increaseTopK proposal exA = (.ok result, exB)) :
    ∃ key value, proposal.params.item "component_id" = .ok key ∧
      assign .topKStore key value exA = (.ok (), exB) := by
  simp only [increaseTopK, bind_returns_iff, ofExcept_returns_iff] at h
  obtain ⟨key, _, ⟨hkey, rfl⟩, _, _, ⟨-, rfl⟩, newK, _, ⟨-, rfl⟩, maxK, _, ⟨-, rfl⟩, h⟩ := h
  split at h
  · simp only [bind_returns_iff, ofExcept_returns_iff, pure_returns_iff] at h
    obtain ⟨_, _, -, _, _, -, rfl, -⟩ := h
    exact nomatch hsuccess
  · simp only [bind_returns_iff, ofExcept_returns_iff, pure_returns_iff] at h
    obtain ⟨_, _, hassign, _, _, ⟨-, rfl⟩, -, rfl⟩ := h
    exact ⟨key, _, hkey, hassign⟩

theorem revertible_of_assign {callable : LocalDevExecutor V W → Prop} (hne : keyName ≠ stateName)
    (hsnapshot : snapshotSlot proposal slot keyName stateName slot.absent ex = (.ok prev, exA))
    {exA' : LocalDevExecutor V W} (hsame : observe quarantined exA' = observe quarantined exA)
    (h : ∃ key value, proposal.params.item keyName = .ok key ∧
      assign slot key value exA' = (.ok (), exB)) :
    Revertible quarantined callable ex exB (some (restoreSlot prev slot keyName stateName)) := by
  obtain ⟨key, value, hkey, hassign⟩ := h
  obtain ⟨rfl, hreverts⟩ := reverts_restoreSlot quarantined callable value hne hkey hsnapshot
  exact ⟨.assign slot key value, (observe_of_assign hassign).trans (by rw [hsame]; rfl), hreverts⟩

theorem revertible_of_mark {callable : LocalDevExecutor V W → Prop} (hne : keyName ≠ stateName)
    (hsnapshot : snapshotFlag proposal flag keyName stateName ex = (.ok prev, exA))
    {exA' : LocalDevExecutor V W} (hsame : observe quarantined exA' = observe quarantined exA)
    (hkey : proposal.params.item keyName = .ok key)
    (hmark : mark flag key true exA' = (.ok (), exB)) :
    Revertible quarantined callable ex exB (some (restoreFlag prev flag keyName stateName)) := by
  obtain ⟨rfl, hreverts⟩ := reverts_restoreFlag quarantined callable hne hkey hsnapshot
  exact ⟨.add flag key, (observe_of_mark hmark).trans (by rw [hsame]; rfl), hreverts⟩

/-- Where the world has to be ready to release a partition. -/
def Callable (Ready : W → Prop) (t : RecoveryActionType) (s : LocalDevExecutor V W) : Prop :=
  t = .quarantineProvenancePartition → Ready s.world

/-- **Every action.** What a successful action does is reverted by the handler of the action, on the
snapshot from before; an action without a handler does nothing. -/
theorem revertible_of_apply (hstore : PartitionStore collab quarantined Ready)
    {exA' : LocalDevExecutor V W} {result : ExecutionResult V}
    (hsnapshot : snapshotState collab proposal ex = (.ok prev, exA))
    (hsame : observe quarantined exA' = observe quarantined exA)
    (happly : applyAction collab proposal exA' = (.ok result, exB))
    (hsuccess : result.success = true) :
    Revertible quarantined (Callable Ready proposal.actionType) ex exB
      (undo collab prev proposal.actionType) := by
  cases haction : proposal.actionType with
  | increaseTopK =>
    simp only [snapshotState, applyAction, haction] at hsnapshot happly
    exact revertible_of_assign (by decide) hsnapshot hsame (increaseTopK_returns hsuccess happly)
  -- the action only checks its parameters
  | retryHybridRetrieval =>
    simp only [snapshotState, applyAction, haction, bind_returns_iff, ofExcept_returns_iff,
      pure_returns_iff] at hsnapshot happly
    obtain ⟨-, rfl⟩ := hsnapshot
    obtain ⟨_, _, ⟨-, rfl⟩, _, _, ⟨-, rfl⟩, -, rfl⟩ := happly
    exact ⟨.nothing, hsame, rfl⟩
  | switchStableIndex | rerank | routeStableModel | revertPromptVersion | rollbackComponent =>
    simp only [snapshotState, applyAction, haction] at hsnapshot happly
    exact revertible_of_assign (by decide) hsnapshot hsame (applySlot_returns happly)
  | disableTestTool | quarantineMemoryNs =>
    simp only [snapshotState, haction] at hsnapshot
    simp only [applyAction, haction, bind_returns_iff, ofExcept_returns_iff,
      pure_returns_iff] at happly
    obtain ⟨key, _, ⟨hkey, rfl⟩, _, _, hmark, -, rfl⟩ := happly
    exact revertible_of_mark (by decide) hsnapshot hsame hkey hmark
  | quarantineProvenancePartition =>
    simp only [applyAction, haction, bind_returns_iff, ofExcept_returns_iff, outside_returns_iff,
      pure_returns_iff] at happly
    obtain ⟨pid, _, ⟨hkey, rfl⟩, _, _, ⟨w, hquarantine, rfl⟩, -, rfl⟩ := happly
    obtain ⟨partitionId, hpartition, hquarantined⟩ := hstore.quarantine hquarantine
    obtain ⟨hbefore, hreverts⟩ := reverts_restorePartition hstore hkey hpartition haction hsnapshot
    refine ⟨.quarantine partitionId, ?_, fun s hs ↦ hreverts s (hs rfl)⟩
    rw [← hbefore, ← hsame]
    exact Observation.ext rfl rfl hquarantined

end Snapshot

/-! ## Executions and compensations -/

section Run

variable {V F W : Type} [PyValue V F] [FloatText F] (collab : Collaborators V W)
  (readings : Readings) (lib : Library F)

/-- A mutating execution that succeeds with a capsule. -/
structure Executed (proposal : RecoveryProposal V) (ex : LocalDevExecutor V W)
    (capsule : RollbackCapsule V) (ex' : LocalDevExecutor V W) : Prop where
  mutating : proposal.executionMode ≠ .dryRun
  returns : ∃ result, execute collab readings lib proposal ex = (.ok result, ex') ∧
    result.success = true ∧ result.capsuleId = some capsule.capsuleId
  stored : (capsule.capsuleId, capsule) ∈ ex'.registry

variable {collab readings lib} {proposal : RecoveryProposal V} {capsule : RollbackCapsule V}
  {quarantined : W → String → Bool} {Ready : W → Prop} {ex ex' : LocalDevExecutor V W}

omit [FloatText F] in
theorem applyAction_of_apply {result : ExecutionResult V}
    (h : apply collab proposal ex = (.ok result, ex')) (hsuccess : result.success = true) :
    applyAction collab proposal ex = (.ok result, ex') := by
  rcases attempt_returns_iff.mp h with h | ⟨e, t, -, hhandler⟩
  · exact h
  · split at hhandler
    · obtain ⟨rfl, -⟩ := pure_returns_iff.mp hhandler
      exact nomatch hsuccess
    · exact absurd hhandler not_raise_returns

/-- The capsule that is prepared holds the snapshot. -/
theorem prepareCapsule_returns
    (h : prepareCapsule collab readings lib proposal ex = (.ok capsule, ex')) :
    capsule.actionType = proposal.actionType.value ∧
    ∃ exA, snapshotState collab proposal ex = (.ok capsule.previousState, exA) ∧
      observe quarantined ex' = observe quarantined exA := by
  simp only [prepareCapsule, bind_returns_iff, ofExcept_returns_iff, RollbackCapsule.sealed,
    bind_eq_ok_iff, pure_eq_ok_iff] at h
  obtain ⟨prev, exA, hsnapshot, _, _, ⟨-, rfl⟩, _, _, ⟨-, rfl⟩, _, _, hid, _, _, hcreated, _, _,
    hexpires, _, _, ⟨-, rfl⟩, ⟨hash, -, rfl⟩, rfl⟩ := h
  refine ⟨rfl, exA, hsnapshot, ?_⟩
  obtain ⟨-, rfl⟩ := Prod.mk.inj hid
  obtain ⟨-, rfl⟩ := Prod.mk.inj hcreated
  obtain ⟨-, rfl⟩ := Prod.mk.inj hexpires
  rfl

/-- The course of an execution that succeeds: the capsule that its result names is the one that was
prepared and stored before the action was applied. -/
theorem Executed.course (h : Executed collab readings lib proposal ex capsule ex') :
    ex.guards proposal = .ok () ∧ ∃ exP result exB,
      prepareCapsule collab readings lib proposal ex = (.ok capsule, exP) ∧
      applyAction collab proposal { exP with registry := exP.registry.store capsule }
        = (.ok result, exB) ∧ result.success = true ∧
      ex' = { exB with
        usedIdempotencyKeys := exB.usedIdempotencyKeys.insert (idemKey proposal) } := by
  obtain ⟨result, hexecute, hsuccess, hid⟩ := h.returns
  simp only [execute, if_neg h.mutating, mutate, applyRecorded, bind_returns_iff, get_returns_iff,
    ofExcept_returns_iff, modify_returns_iff, pure_returns_iff] at hexecute
  obtain ⟨_, _, ⟨rfl, rfl⟩, _, _, ⟨hguards, rfl⟩, prepared, exP, hprepare, _, _, rfl, r, exB,
    happly, _, _, rfl, rfl, rfl⟩ := hexecute
  have hsucceeded : r.success = true := hsuccess
  have hregistry : exB.registry = exP.registry.store prepared :=
    (keeps_apply apart_hasRegistry _ rfl).1 r exB happly
  have hstored := h.stored
  rw [if_pos hsucceeded] at hstored ⊢
  have hmem : (prepared.capsuleId, capsule) ∈ exP.registry.store prepared := by
    rw [Option.some.inj hid, ← hregistry]
    exact hstored
  obtain rfl : capsule = prepared := CapsuleRegistry.eq_of_mem_store hmem
  exact ⟨hguards, exP, r, exB, hprepare, applyAction_of_apply happly hsucceeded, hsucceeded, rfl⟩

/-- What a successful execution does can be reverted with its capsule. -/
theorem Executed.revertible (hstore : PartitionStore collab quarantined Ready)
    (h : Executed collab readings lib proposal ex capsule ex') :
    Fresh readings lib proposal capsule ∧ capsule.actionType = proposal.actionType.value ∧
    Revertible quarantined (Callable Ready proposal.actionType) ex ex'
      (undo collab capsule.previousState proposal.actionType) := by
  obtain ⟨-, exP, result, exB, hprepare, happly, hsuccess, rfl⟩ := h.course
  obtain ⟨hactionType, exA, hsnapshot, hsame⟩ := prepareCapsule_returns hprepare
  have hfresh : Fresh readings lib proposal capsule :=
    ((triple_prepareCapsule apart_hasRegistry.internal _ rfl).1 _ _ hprepare).1
  refine ⟨hfresh, hactionType, ?_⟩
  have hsame' : observe quarantined { exP with registry := exP.registry.store capsule }
      = observe quarantined exA := hsame
  have hrevertible := revertible_of_apply hstore hsnapshot hsame' happly hsuccess
  exact hrevertible

omit [FloatText F] in
theorem undo_eq_none_iff {prev : Dict V} {t : RecoveryActionType} :
    undo collab prev t = none ↔ t = .retryHybridRetrieval := by
  cases t <;> simp [undo]

omit [FloatText F] in
theorem rollback_of_some {handler : Program (LocalDevExecutor V W) Raised Unit}
    (hbind : (RecoveryActionType.ofValue capsule.actionType).bind
      (undo collab capsule.previousState) = some handler)
    (hrun : handler ex = (.ok (), ex')) :
    rollback collab capsule ex = (.ok (rolledBack capsule), ex') := by
  rw [rollback, hbind]
  exact attempt_of_ok ((bind_of_ok hrun).trans (pure_apply _))

omit [FloatText F] in
theorem rollback_of_none (hbind : (RecoveryActionType.ofValue capsule.actionType).bind
    (undo collab capsule.previousState) = none) : rollback collab capsule ex
      = (.ok (failed capsule.proposalId ("No rollback handler for action " ++
          reprStr V capsule.actionType ++ ".") "no_rollback_handler"), ex) := by
  rw [rollback, hbind]
  rfl

/-- **One compensation.** After a state with the observation that an execution left, the capsule of
the execution restores what was observed before it, and the compensation succeeds exactly when the
action has a handler. -/
theorem compensate_of_executed (hstore : PartitionStore collab quarantined Ready)
    (h : Executed collab readings lib proposal ex capsule ex') {s : LocalDevExecutor V W}
    (hsame : observe quarantined s = observe quarantined ex')
    (htime : readings.clock s.tick ≤ capsule.expiresAt)
    (hcallable : Callable Ready proposal.actionType s) :
    ∃ result s', compensate collab readings lib capsule s = (.ok result, s') ∧
      observe quarantined s' = observe quarantined ex ∧
      (result.success = true ↔ proposal.actionType ≠ .retryHybridRetrieval) := by
  obtain ⟨hfresh, hactionType, edit, hafter, hhandler⟩ := h.revertible hstore
  obtain ⟨c, hmade⟩ := hfresh.made
  have husable := RollbackCapsule.isUsable_sealed hmade hfresh.active htime
  rw [compensate, bind_of_ok now_apply, ofExcept_bind_of_ok husable]
  have hbind : (RecoveryActionType.ofValue capsule.actionType).bind
      (undo collab capsule.previousState)
        = undo collab capsule.previousState proposal.actionType := by
    rw [hactionType, RecoveryActionType.ofValue_value, Option.bind_some]
  cases hundo : undo collab capsule.previousState proposal.actionType with
  | none =>
    simp only [hundo] at hhandler
    subst hhandler
    rw [hundo] at hbind
    refine ⟨_, _, bind_of_ok (rollback_of_none hbind), hsame.trans hafter, ?_⟩
    exact iff_of_false Bool.false_ne_true fun hne ↦ hne (undo_eq_none_iff.mp hundo)
  | some handler =>
    simp only [hundo] at hhandler
    obtain ⟨s', hrun, hreverted⟩ := hhandler { s with tick := s.tick + 1 } hcallable
    rw [hundo] at hbind
    refine ⟨_, _, bind_of_ok (rollback_of_some hbind hrun), ?_, ?_⟩
    -- the edit is undone on what the execution left
    · have hedited : observe quarantined { s with tick := s.tick + 1 }
          = edit.apply (observe quarantined ex) := hsame.trans hafter
      rw [hedited, Edit.revert_apply respects_observe] at hreverted
      exact hreverted
    · refine iff_of_true rfl fun hretry ↦ ?_
      rw [undo_eq_none_iff.mpr hretry] at hundo
      exact absurd hundo (by simp)

variable (collab readings lib)

/-- A series of executions that succeed, with their capsules. -/
inductive Executions : LocalDevExecutor V W → List (RecoveryProposal V × RollbackCapsule V) →
    LocalDevExecutor V W → Prop
  | nil (ex : LocalDevExecutor V W) : Executions ex [] ex
  | cons {proposal capsule steps} {ex ex₁ ex₂ : LocalDevExecutor V W}
    (h : Executed collab readings lib proposal ex capsule ex₁)
    (hsteps : Executions ex₁ steps ex₂) : Executions ex ((proposal, capsule) :: steps) ex₂

/-- Compensating a series of capsules, each before it expires and, if it is for a partition, when
the world is ready to release one. -/
def Promptly (Ready : W → Prop) : List (RollbackCapsule V) → LocalDevExecutor V W → Prop
  | [], _ => True
  | capsule :: capsules, s =>
    readings.clock s.tick ≤ capsule.expiresAt ∧
    (capsule.actionType = RecoveryActionType.quarantineProvenancePartition.value → Ready s.world) ∧
    Promptly Ready capsules (compensate collab readings lib capsule s).2

/-- A compensation that succeeds and restores what was observed in a state. -/
def Undoes (quarantined : W → String → Bool) (before : LocalDevExecutor V W)
    (capsule : RollbackCapsule V) (s : LocalDevExecutor V W) : Prop :=
  ∃ result s', compensate collab readings lib capsule s = (.ok result, s') ∧
    result.success = true ∧ observe quarantined s' = observe quarantined before

variable {collab readings lib} {steps : List (RecoveryProposal V × RollbackCapsule V)}
  {capsules capsules' : List (RollbackCapsule V)} {s : LocalDevExecutor V W}

theorem promptly_append : Promptly collab readings lib Ready (capsules ++ capsules') s ↔
    Promptly collab readings lib Ready capsules s ∧ Promptly collab readings lib Ready capsules'
      (after (compensate collab readings lib) capsules s) := by
  induction capsules generalizing s with
  | nil => simp [Promptly, after]
  | cons capsule capsules ih =>
    rw [List.cons_append, Promptly, Promptly, ih, after, and_assoc, and_assoc]

theorem Executed.undoes_iff (hstore : PartitionStore collab quarantined Ready)
    (h : Executed collab readings lib proposal ex capsule ex')
    (hprompt : Promptly collab readings lib Ready [capsule] ex') :
    Undoes collab readings lib quarantined ex capsule ex' ↔
      proposal.actionType ≠ .retryHybridRetrieval := by
  have hcallable : Callable Ready proposal.actionType ex' := fun hpartition ↦
    hprompt.2.1 ((h.revertible hstore).2.1.trans (congrArg _ hpartition))
  obtain ⟨result, s', hrun, hrestored, hsuccess⟩ :=
    compensate_of_executed hstore h rfl hprompt.1 hcallable
  rw [← hsuccess]
  constructor
  · rintro ⟨result', _, hrun', hsuccess', -⟩
    obtain ⟨hresult, -⟩ := Prod.mk.inj (hrun.symm.trans hrun')
    exact Except.ok.inj hresult ▸ hsuccess'
  · exact fun hsuccess ↦ ⟨result, s', hrun, hsuccess, hrestored⟩

/-- **Compensations in reverse order.** They restore what was observed before the first
execution. -/
theorem Executions.observe_after (hstore : PartitionStore collab quarantined Ready)
    (h : Executions collab readings lib ex steps ex') (hsame : observe quarantined s
      = observe quarantined ex')
    (hprompt : Promptly collab readings lib Ready (steps.map Prod.snd).reverse s) :
    observe quarantined (after (compensate collab readings lib) (steps.map Prod.snd).reverse s)
      = observe quarantined ex := by
  induction h with
  | nil => exact hsame
  | @cons proposal capsule steps ex ex₁ ex₂ h hsteps ih =>
    -- the capsules of the later executions come first
    rw [List.map_cons, List.reverse_cons, promptly_append] at hprompt
    rw [List.map_cons, List.reverse_cons, after_append]
    have hmid := ih hsame hprompt.1
    obtain ⟨htime, hready, -⟩ := hprompt.2
    have hcallable : Callable Ready proposal.actionType _ := fun hpartition ↦
      hready ((h.revertible hstore).2.1.trans (congrArg _ hpartition))
    obtain ⟨result, s', hrun, hrestored, -⟩ :=
      compensate_of_executed hstore h hmid htime hcallable
    rw [after, after, hrun]
    exact hrestored

end Run

/-! ## With the provenance store -/

section Provenance

variable {V F R : Type} [PyValue V F] [FloatText F]

/-- The partitions that the provenance store has quarantined. -/
def inQuarantine (w : Surroundings R) (partitionId : String) : Bool :=
  w.memory.isQuarantined partitionId

/-- **Compensation.** Prompt compensation of a successful execution succeeds and restores what was
observed before it exactly when the action has a handler, and prompt compensations of a series of
successful executions in reverse order restore what was observed before the series. -/
theorem compensation_undoes (partitions : PartitionLibrary V) (memoryReadings readings : Readings)
    (others : Collaborators V R) (lib : Library F) :
    (∀ proposal ex capsule ex',
      Executed (withMemory partitions memoryReadings others) readings lib proposal ex capsule ex' →
      Promptly (withMemory partitions memoryReadings others) readings lib
        (ReadyToRelease memoryReadings) [capsule] ex' →
      (Undoes (withMemory partitions memoryReadings others) readings lib inQuarantine ex capsule
        ex' ↔ proposal.actionType ≠ .retryHybridRetrieval)) ∧
    ∀ ex steps ex',
      Executions (withMemory partitions memoryReadings others) readings lib ex steps ex' →
      Promptly (withMemory partitions memoryReadings others) readings lib
        (ReadyToRelease memoryReadings) (steps.map Prod.snd).reverse ex' →
      observe inQuarantine (after (compensate (withMemory partitions memoryReadings others) readings
        lib) (steps.map Prod.snd).reverse ex') = observe inQuarantine ex :=
  ⟨fun _ _ _ _ h hprompt ↦ h.undoes_iff partitionStore_withMemory hprompt,
    fun _ _ _ h hprompt ↦ h.observe_after partitionStore_withMemory rfl hprompt⟩

end Provenance

/-! ## Two executions -/

/-- A proposal of alice in manual mode. -/
def manualProposal (actionType : RecoveryActionType) (params : Dict (Scalar Empty)) :
    RecoveryProposal (Scalar Empty) where
  actionType := actionType
  tenantId := "acme"
  requesterId := "alice"
  params := params
  executionMode := .manual
  idempotencyKey := "k"
  expectedVersionId := none
  proposalId := "p"
  policyDecision := some "allow"
  approvalRequestId := none
  admissionReceiptId := none
  admissionBinding := []

def toolDisabling : RecoveryProposal (Scalar Empty) :=
  manualProposal .disableTestTool [("tool_id", .str "t")]

def hybridRetrieval : RecoveryProposal (Scalar Empty) :=
  manualProposal .retryHybridRetrieval [("component_id", .str "c"), ("strategy", .str "hybrid")]

/-- The digests and times that occur when one of the two proposals is executed at the start of the
epoch: the texts that are hashed have different lengths. -/
def epochLibrary : Library Empty where
  sha256 bytes :=
    match bytes.length with
    | 35 => "61f11210ea2e4d59d042848bbc466a902a52df7f5406e6b3b76df3358c8ea588"
    | 519 => "07179740e53da8eadb1571fc929a15ce521525fb2d1ed5cccd609a21c1190243"
    | 42 => "ba5a2d86d63caac2c72012d6e54cf7cf7f4e4f7102ee79b3b37f5e4c5ddbe8ae"
    | 553 => "def17d4e3bc98db3f32cb1efef063aa9b33e19207ca688f6bd55cfbd4b93f98b"
    | _ => ""
  verifySignature _ _ _ := false
  isoformat time := if time = 0 then "1970-01-01T00:00:00+00:00" else "1970-01-04T00:00:00+00:00"
  dumpsError _ := ""

/-- The clock stands at the start of the epoch. -/
def epoch : Readings := ⟨fun _ ↦ 0, fun _ ↦ "u"⟩

/-- Libraries of the provenance store, which the two executions do not use. -/
def idlePartitions : PartitionLibrary (Scalar Empty) where
  memory.hmacSha256 _ _ := List.replicate 32 0
  memory.b64encode bytes := String.ofList (bytes.map fun byte ↦ Char.ofNat byte.toNat)
  memory.b64decode text := .ok (text.toList.map fun c ↦ UInt8.ofNat c.toNat)
  memory.sha256 _ := ""
  memory.isoformat _ := ""
  memory.length_hmacSha256 _ _ := List.length_replicate
  memory.b64decode_b64encode bytes := congrArg Except.ok (map_toList_latin1 bytes)
  memory.eq_nil_of_b64encode bytes h := by exact eq_nil_of_latin1 bytes h
  validationError _ := ""
  isQuarantined _ := .ok false

def epochCollaborators : Collaborators (Scalar Empty) (Surroundings Unit) :=
  withMemory idlePartitions epoch RecoveryEngine.idleCollaborators

/-- An executor whose fixtures are empty. -/
def emptyExecutor : LocalDevExecutor (Scalar Empty) (Surroundings Unit) where
  usedIdempotencyKeys := []
  slots _ := []
  flags _ := []
  registry := []
  world := ⟨none, ⟨⟨[], []⟩, .empty, [], 0⟩, ()⟩
  tick := 0

/-- An execution at the start of the epoch that concerns no partition is compensated promptly. -/
theorem executed_epoch {proposal : RecoveryProposal (Scalar Empty)}
    {result : ExecutionResult (Scalar Empty)} {capsule : RollbackCapsule (Scalar Empty)}
    {ex' : LocalDevExecutor (Scalar Empty) (Surroundings Unit)}
    (hmode : proposal.executionMode ≠ .dryRun)
    (hreturns : execute epochCollaborators epoch epochLibrary proposal emptyExecutor
      = (.ok result, ex')) (hsuccess : result.success = true)
    (hid : result.capsuleId = some capsule.capsuleId)
    (hregistry : ex'.registry = [(capsule.capsuleId, capsule)])
    (hactionType : capsule.actionType ≠ RecoveryActionType.quarantineProvenancePartition.value)
    (hexpires : capsule.expiresAt = RollbackCapsule.lifetime) :
    Executed epochCollaborators epoch epochLibrary proposal emptyExecutor capsule ex' ∧
    Promptly epochCollaborators epoch epochLibrary (ReadyToRelease epoch) [capsule] ex' := by
  refine ⟨⟨hmode, ⟨result, hreturns, hsuccess, hid⟩, hregistry ▸ List.mem_singleton_self _⟩,
    ?_, fun h ↦ absurd h hactionType, trivial⟩
  rw [hexpires]
  exact (by decide : (0 : ℤ) ≤ RollbackCapsule.lifetime)

/-- A tool is disabled and enabled again. -/
theorem compensation_undoes_toolDisabling : ∃ capsule ex',
    Executed epochCollaborators epoch epochLibrary toolDisabling emptyExecutor capsule ex' ∧
    Undoes epochCollaborators epoch epochLibrary inQuarantine emptyExecutor capsule ex' ∧
    observe inQuarantine (after (compensate epochCollaborators epoch epochLibrary) [capsule] ex')
      = observe inQuarantine emptyExecutor := by
  have hrun : ∃ capsule ex',
      Executed epochCollaborators epoch epochLibrary toolDisabling emptyExecutor capsule ex' ∧
      Promptly epochCollaborators epoch epochLibrary (ReadyToRelease epoch) [capsule] ex' :=
    ⟨_, _, executed_epoch (by decide) rfl rfl rfl rfl (by decide) rfl⟩
  obtain ⟨capsule, ex', hexecuted, hprompt⟩ := hrun
  have hundoes := compensation_undoes idlePartitions epoch epoch RecoveryEngine.idleCollaborators
    epochLibrary
  refine ⟨capsule, ex', hexecuted, ?_, ?_⟩
  · exact (hundoes.1 _ _ _ _ hexecuted hprompt).mpr (by decide)
  · exact hundoes.2 _ [(toolDisabling, capsule)] _ (.cons hexecuted (.nil _)) hprompt

/-- The retrieval strategy has no rollback handler. -/
theorem not_undoes_hybridRetrieval : ∃ capsule ex',
    Executed epochCollaborators epoch epochLibrary hybridRetrieval emptyExecutor capsule ex' ∧
    Promptly epochCollaborators epoch epochLibrary (ReadyToRelease epoch) [capsule] ex' ∧
    ¬ Undoes epochCollaborators epoch epochLibrary inQuarantine emptyExecutor capsule ex' := by
  have hrun : ∃ capsule ex',
      Executed epochCollaborators epoch epochLibrary hybridRetrieval emptyExecutor capsule ex' ∧
      Promptly epochCollaborators epoch epochLibrary (ReadyToRelease epoch) [capsule] ex' :=
    ⟨_, _, executed_epoch (by decide) rfl rfl rfl rfl (by decide) rfl⟩
  obtain ⟨capsule, ex', hexecuted, hprompt⟩ := hrun
  refine ⟨capsule, ex', hexecuted, hprompt, fun hundoes ↦ ?_⟩
  exact (hexecuted.undoes_iff partitionStore_withMemory hprompt).mp hundoes rfl

end LocalDevExecutor

end DriftGuardX.Recovery
