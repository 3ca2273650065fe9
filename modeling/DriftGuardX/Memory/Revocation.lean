import DriftGuardX.Foundation.History
import DriftGuardX.Foundation.Lines
import DriftGuardX.Memory.Capabilities

/-!
# Revocation across restarts

A revoked id is kept in memory and written to a log, one id in a line. A store that is opened again
reads the log, strips each line and leaves out the blank ones. An id that does not come back from a
line is revoked only until the next restart.

Revocation survives the restarts of a run when every id that is revoked before one of them is
storable (`survivesRestarts_iff`).
-/

namespace DriftGuardX.Memory

open Lines Framing History

/-- The ids in memory and the text of the log, which is empty where there is no file. -/
structure RevocationStore where
  revoked : List String
  log : List Char
  deriving DecidableEq, Repr

namespace RevocationStore

/-- `_load_persisted`. -/
def loadPersisted (log : List Char) : List String :=
  (stripped log).foldl (fun revoked line ↦ revoked.insert (String.ofList line)) []

/-- A store over a log. -/
def ofLog (log : List Char) : RevocationStore :=
  ⟨loadPersisted log, log⟩

/-- `is_revoked`. -/
def isRevoked (store : RevocationStore) (capabilityId : String) : Bool :=
  capabilityId ∈ store.revoked

/-- `revoke`. -/
def revoke (store : RevocationStore) (capabilityId : String) : RevocationStore :=
  if capabilityId ∈ store.revoked then store
  else ⟨store.revoked.insert capabilityId, store.log ++ (capabilityId.toList ++ ['\n'])⟩

end RevocationStore

/-- What is done with the log. -/
inductive RevocationCall where
  | revoke (capabilityId : String)
  | reload
  deriving DecidableEq, Repr

namespace RevocationCall

/-- A reload opens the log again. -/
def run (store : RevocationStore) : RevocationCall → RevocationStore
  | .revoke capabilityId => store.revoke capabilityId
  | .reload => .ofLog store.log

/-- The store after calls, from where there is no log. -/
def storeAfter (calls : List RevocationCall) : RevocationStore :=
  calls.foldl run (.ofLog [])

end RevocationCall

open RevocationCall

/-- What is revoked is the same after each reload, and a capability that has been revoked is not
accepted. -/
structure SurvivesRestarts (lib : MemoryLibrary) (calls : List RevocationCall) : Prop where
  reloaded : Always (fun before call ↦ call = .reload → ∀ capabilityId,
    (storeAfter (before ++ [call])).isRevoked capabilityId
      = (storeAfter before).isRevoked capabilityId) calls
  rejected : ∀ before after, calls = before ++ after → ∀ secretKey now cap context action resource,
    .revoke cap.capabilityId ∈ before →
      CapabilityVerifier.verify lib ⟨secretKey, (storeAfter before).revoked⟩ now cap context action
        resource ≠ .ok true

/-- Every id that is revoked before a reload comes back from a line. -/
def StorableBeforeReload (calls : List RevocationCall) : Prop :=
  Always (fun before call ↦ call = .reload → ∀ capabilityId, .revoke capabilityId ∈ before →
    Storable capabilityId.toList) calls

section Store

variable {store : RevocationStore} {capabilityId other : String} {log : List Char}

theorem mem_foldl_insert {texts : List (List Char)} {revoked : List String} :
    capabilityId ∈ texts.foldl (fun revoked line ↦ revoked.insert (String.ofList line)) revoked
      ↔ capabilityId.toList ∈ texts ∨ capabilityId ∈ revoked := by
  induction texts generalizing revoked with
  | nil => exact ⟨.inr, fun h ↦ h.resolve_left List.not_mem_nil⟩
  | cons line texts ih =>
    rw [List.foldl_cons, ih, List.mem_insert_iff, List.mem_cons]
    have hline : capabilityId = String.ofList line ↔ capabilityId.toList = line :=
      ⟨fun h ↦ h ▸ String.toList_ofList, fun h ↦ h ▸ String.ofList_toList.symm⟩
    rw [hline]
    tauto

theorem mem_loadPersisted :
    capabilityId ∈ RevocationStore.loadPersisted log ↔ capabilityId.toList ∈ stripped log := by
  rw [RevocationStore.loadPersisted, mem_foldl_insert]
  exact or_iff_left List.not_mem_nil

theorem mem_revoke : other ∈ (store.revoke capabilityId).revoked
    ↔ other = capabilityId ∨ other ∈ store.revoked := by
  rw [RevocationStore.revoke]
  split_ifs with h
  · exact ⟨.inr, fun hor ↦ hor.elim (fun heq ↦ heq ▸ h) id⟩
  · exact List.mem_insert_iff

theorem isRevoked_iff : store.isRevoked capabilityId = true ↔ capabilityId ∈ store.revoked :=
  decide_eq_true_iff

/-- The log holds ids that come back from their lines, and these are the ones in memory. -/
structure Persisted (store : RevocationStore) (ids : List String) : Prop where
  log_eq : store.log = terminated '\n' (ids.map String.toList) []
  storable : ∀ capabilityId ∈ ids, Storable capabilityId.toList
  mem_revoked : ∀ capabilityId, capabilityId ∈ store.revoked ↔ capabilityId ∈ ids

variable {ids : List String}

theorem persisted_nil : Persisted (.ofLog []) [] where
  log_eq := rfl
  storable _ h := absurd h List.not_mem_nil
  mem_revoked _ := Iff.rfl

theorem Persisted.ofLog (h : Persisted store ids) : Persisted (.ofLog store.log) ids := by
  refine ⟨h.log_eq, h.storable, fun capabilityId ↦ ?_⟩
  have hlines : stripped store.log = ids.map String.toList := by
    rw [h.log_eq]
    exact stripped_terminated (List.forall_mem_map.mpr h.storable)
  rw [RevocationStore.ofLog, mem_loadPersisted, hlines]
  exact List.mem_map_of_injective fun _ _ ↦ String.toList_injective

theorem Persisted.revoke (h : Persisted store ids) (hstorable : Storable capabilityId.toList) :
    ∃ ids', Persisted (store.revoke capabilityId) ids' := by
  by_cases hmem : capabilityId ∈ store.revoked
  · rw [RevocationStore.revoke, if_pos hmem]
    exact ⟨ids, h⟩
  · refine ⟨ids ++ [capabilityId], ?_, ?_, fun other ↦ ?_⟩
    · rw [RevocationStore.revoke, if_neg hmem, List.map_append, List.map_singleton,
        terminated_concat, ← h.log_eq]
    · exact List.forall_mem_append.mpr ⟨h.storable, List.forall_mem_singleton.mpr hstorable⟩
    · rw [mem_revoke, h.mem_revoked, List.mem_append, List.mem_singleton, or_comm]

end Store

/-! ## Runs -/

section Runs

variable {lib : MemoryLibrary} {calls before : List RevocationCall} {call : RevocationCall}
  {capabilityId : String}

theorem storeAfter_concat : storeAfter (calls ++ [call]) = run (storeAfter calls) call :=
  List.foldl_concat _ _ _ _

theorem exists_persisted
    (h : ∀ capabilityId, .revoke capabilityId ∈ calls → Storable capabilityId.toList) :
    ∃ ids, Persisted (storeAfter calls) ids := by
  induction calls using List.reverseRecOn with
  | nil => exact ⟨[], persisted_nil⟩
  | append_singleton calls call ih =>
    obtain ⟨ids, hids⟩ := ih fun id hid ↦ h id (List.mem_append_left _ hid)
    rw [storeAfter_concat]
    cases call with
    | revoke capabilityId => exact hids.revoke (h capabilityId (List.mem_concat_self))
    | reload => exact ⟨ids, hids.ofLog⟩

/-- What is revoked stays so where the reloads forget nothing. -/
theorem isRevoked_of_mem
    (hreload : Always (fun before call ↦ call = .reload → ∀ capabilityId,
      (storeAfter (before ++ [call])).isRevoked capabilityId
        = (storeAfter before).isRevoked capabilityId) calls)
    (h : .revoke capabilityId ∈ calls) : (storeAfter calls).isRevoked capabilityId = true := by
  induction calls using List.reverseRecOn with
  | nil => exact absurd h List.not_mem_nil
  | append_singleton calls call ih =>
    obtain ⟨hbefore, hcall⟩ := always_append_singleton.mp hreload
    cases call with
    | revoke other =>
      rw [storeAfter_concat, isRevoked_iff, run, mem_revoke]
      obtain hmem | hlast := List.mem_append.mp h
      · exact .inr (isRevoked_iff.mp (ih hbefore hmem))
      · exact .inl (RevocationCall.revoke.inj (List.mem_singleton.mp hlast))
    | reload =>
      rw [hcall rfl capabilityId]
      refine ih hbefore ((List.mem_append.mp h).resolve_right fun hlast ↦ ?_)
      exact absurd (List.mem_singleton.mp hlast) (by simp)

theorem verify_ne_of_isRevoked {store : RevocationStore} {secretKey : List UInt8} {now : ℤ}
    {cap : SignedCapability} {context : AccessContext} {action resource : String}
    (h : store.isRevoked cap.capabilityId = true) :
    CapabilityVerifier.verify lib ⟨secretKey, store.revoked⟩ now cap context action resource
      ≠ .ok true := by
  rw [CapabilityVerifier.verify]
  split_ifs with h₁ h₂ h₃ h₄ h₅ h₆
  all_goals first | exact absurd (isRevoked_iff.mp h) h₆ | simp

/-- Revocation survives the restarts of a run if and only if every id that is revoked before a
reload is storable. -/
theorem survivesRestarts_iff :
    SurvivesRestarts lib calls ↔ StorableBeforeReload calls := by
  constructor
  · intro h before call after heq hcall capabilityId hmem
    have hbefore := isRevoked_of_mem (fun b c a hb ↦ h.reloaded b c (a ++ call :: after)
      (by rw [heq, hb, List.append_assoc, List.cons_append])) hmem
    have hloaded := (h.reloaded before call after heq hcall capabilityId).trans hbefore
    rw [hcall, storeAfter_concat, isRevoked_iff] at hloaded
    exact storable_of_mem_stripped (mem_loadPersisted.mp hloaded)
  · intro h
    have hreloaded : Always (fun before call ↦ call = .reload → ∀ capabilityId,
        (storeAfter (before ++ [call])).isRevoked capabilityId
          = (storeAfter before).isRevoked capabilityId) calls := by
      intro before call after heq hcall capabilityId
      obtain ⟨ids, hids⟩ := exists_persisted (h before call after heq hcall)
      rw [hcall, storeAfter_concat, Bool.eq_iff_iff, isRevoked_iff, isRevoked_iff, hids.mem_revoked]
      exact hids.ofLog.mem_revoked capabilityId
    refine ⟨hreloaded, fun before after heq secretKey now cap context action resource hmem ↦ ?_⟩
    refine verify_ne_of_isRevoked (isRevoked_of_mem (fun b c a hb ↦ ?_) hmem)
    exact hreloaded b c (a ++ after) (by rw [heq, hb, List.append_assoc, List.cons_append])

/-- A capability whose id starts with a space. -/
def spaced : SignedCapability :=
  CapabilityVerifier.sign latin1Memory []
    ⟨" cap", "r", "t", "FORENSIC_READ", "t_p", 0, 1, "DriftGuard-X", "n", "1.0", ""⟩

theorem signature_sign (lib : MemoryLibrary) (secretKey : List UInt8) (cap : SignedCapability) :
    (CapabilityVerifier.sign lib secretKey cap).signature
      = lib.b64encode (CapabilityVerifier.mac lib secretKey (CapabilityVerifier.sign lib secretKey cap)) :=
  rfl

def spacedCalls : List RevocationCall :=
  [.revoke spaced.capabilityId, .reload]

/-- It is accepted again when the log has been read. -/
theorem not_survivesRestarts_spaced :
    CapabilityVerifier.verify latin1Memory ⟨[], (storeAfter spacedCalls).revoked⟩ 0 spaced
        ⟨"r", "t", [], 1⟩ "FORENSIC_READ" "t_p" = .ok true ∧
      ¬ SurvivesRestarts latin1Memory spacedCalls := by
  have haccepted : CapabilityVerifier.verify latin1Memory ⟨[], (storeAfter spacedCalls).revoked⟩ 0
      spaced ⟨"r", "t", [], 1⟩ "FORENSIC_READ" "t_p" = .ok true :=
    CapabilityVerifier.verify_of_signed (signature_sign latin1Memory [] _) rfl rfl (by decide)
      (by decide)
  exact ⟨haccepted, fun h ↦
    h.rejected spacedCalls [] rfl [] 0 spaced _ _ _ List.mem_cons_self haccepted⟩

end Runs

end DriftGuardX.Memory
