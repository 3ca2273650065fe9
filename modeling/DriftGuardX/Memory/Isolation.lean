import DriftGuardX.Memory.Effects

/-!
# Isolation of tenants

A partition belongs to a tenant when its id starts with the id of the tenant and an underscore. Ids
of tenants may have underscores, so a partition can belong to two tenants: those of which one has an
id that starts with the id of the other and an underscore.

Any other two tenants have no partition in common, and then what one reads does not depend on what
the other writes: with or without those writes the states agree on what the first can see
(`Agree`), and every call respects that (`respects_run`).
-/

namespace DriftGuardX.Memory.ProvenanceMemory

open Program

variable {D α : Type} {lib : MemoryLibrary} {env : Environment} {tenantId tenantId' : String}

/-! ## Who has a partition -/

theorem ownedBy_of_common (hne : tenantId ≠ tenantId') {partitionId : String}
    (h : OwnedBy tenantId partitionId) (h' : OwnedBy tenantId' partitionId) :
    OwnedBy tenantId tenantId' ∨ OwnedBy tenantId' tenantId := by
  have hshorter : ∀ {a b : String}, a ≠ b → (a ++ "_").toList <+: (b ++ "_").toList →
      OwnedBy a b := by
    intro a b hab hprefix
    rw [String.toList_append, String.toList_append] at hprefix
    rcases List.prefix_concat_iff.mp hprefix with heq | hprefix
    · have hids := (List.append_inj' heq rfl).1
      exact absurd (String.toList_inj.mp hids) hab
    · rwa [OwnedBy, String.toList_append]
  rcases List.prefix_or_prefix_of_prefix h h' with hprefix | hprefix
  · exact .inl (hshorter hne hprefix)
  · exact .inr (hshorter hne.symm hprefix)

/-- A call that reads a partition or writes to it. -/
inductive Accesses (partitionId : String) (context : AccessContext) : Call D → Prop
  | read : Accesses partitionId context (.read partitionId context)
  | write (data : D) : Accesses partitionId context (.write partitionId data context)

/-- A call by a context of a tenant on a partition returns. -/
def Admits (lib : MemoryLibrary) (memory : ProvenanceMemory D) (tenantId partitionId : String) :
    Prop :=
  ∃ (env : Environment) (context : AccessContext) (call : Call D),
    context.tenantId = tenantId ∧ Accesses partitionId context call ∧
    ∃ out memory', Request.run lib ⟨env, call⟩ memory = (.ok out, memory')

theorem Admits.ownedBy {memory : ProvenanceMemory D} {partitionId : String}
    (h : Admits lib memory tenantId partitionId) : OwnedBy tenantId partitionId := by
  obtain ⟨env, context, call, rfl, haccess, out, memory', hrun⟩ := h
  cases haccess with
  | read =>
    obtain ⟨data, memory₁, hread, -⟩ := bind_returns_iff.mp hrun
    obtain ⟨_, memory₂, hadmitted, -⟩ := bind_returns_iff.mp hread
    exact ((triple_admitRead _ rfl).1 _ _ hadmitted).1
  | write data =>
    obtain ⟨_, memory₁, hwrite, -⟩ := bind_returns_iff.mp hrun
    exact ((triple_write _ rfl).1 _ _ hwrite).1.owned

theorem admits_of_ownedBy {partitionId : String} (h : OwnedBy tenantId partitionId) :
    Admits lib (emptyMemory : ProvenanceMemory D) tenantId partitionId := by
  refine ⟨still, ⟨"", tenantId, [], 0⟩, .read partitionId _, rfl, .read, ?_⟩
  have hnow : onStore (ProvenanceMemoryStore.now still.toReadings)
      (emptyMemory : ProvenanceMemory D).restart
        = (.ok 0, ⟨⟨⟨[], []⟩, .empty, [], 1⟩, .empty⟩) := rfl
  have hcheck : checkAccess still partitionId ⟨"", tenantId, [], 0⟩ "read" "read from"
      (emptyMemory : ProvenanceMemory D).restart
        = (.ok (), ⟨⟨⟨[], []⟩, .empty, [], 1⟩, .empty⟩) := by
    rw [checkAccess, bind_of_ok hnow, if_neg (lt_irrefl 0), if_neg (not_not.mpr h)]
    rfl
  have hadmitRead : ∃ memory', admitRead lib still partitionId ⟨"", tenantId, [], 0⟩
      (emptyMemory : ProvenanceMemory D).restart = (.ok (), memory') := by
    rw [admitRead, bind_of_ok hcheck]
    exact ⟨_, rfl⟩
  obtain ⟨memory', hadmitRead⟩ := hadmitRead
  have hread : read lib still partitionId ⟨"", tenantId, [], 0⟩
      (emptyMemory : ProvenanceMemory D).restart = (.ok (memory'.entries partitionId), memory') :=
    (bind_of_ok hadmitRead).trans rfl
  exact ⟨some (memory'.entries partitionId), memory', (bind_of_ok hread).trans rfl⟩

/-! ## What a tenant can see -/

/-- The states agree on the quarantine, the verifier and the partitions that a tenant has. -/
structure Agree (tenantId : String) (memory memory' : ProvenanceMemory D) : Prop where
  quarantineState : memory.store.quarantineState = memory'.store.quarantineState
  verifier : memory.store.verifier = memory'.store.verifier
  tick : memory.store.tick = memory'.store.tick
  entries : ∀ p, OwnedBy tenantId p → memory.entries p = memory'.entries p

theorem Agree.trans {memory₀ memory₁ memory₂ : ProvenanceMemory D}
    (h : Agree tenantId memory₀ memory₁) (h' : Agree tenantId memory₁ memory₂) :
    Agree tenantId memory₀ memory₂ :=
  ⟨h.quarantineState.trans h'.quarantineState, h.verifier.trans h'.verifier, h.tick.trans h'.tick,
    fun p hp ↦ (h.entries p hp).trans (h'.entries p hp)⟩

theorem Agree.symm {memory₀ memory₁ : ProvenanceMemory D} (h : Agree tenantId memory₀ memory₁) :
    Agree tenantId memory₁ memory₀ :=
  ⟨h.quarantineState.symm, h.verifier.symm, h.tick.symm, fun p hp ↦ (h.entries p hp).symm⟩

/-- The parts of a store that its programs depend on. -/
structure AgreeStore (store store' : ProvenanceMemoryStore) : Prop where
  quarantineState : store.quarantineState = store'.quarantineState
  verifier : store.verifier = store'.verifier
  tick : store.tick = store'.tick

section Unaffected

variable {readings : Readings} {context : AccessContext} {action resource message result : String}

theorem unaffected_now : Unaffected AgreeStore (ProvenanceMemoryStore.now readings) := by
  intro store store' h
  refine ⟨congrArg (fun n ↦ Except.ok (readings.clock n)) h.tick, h.quarantineState, h.verifier, ?_⟩
  exact congrArg (· + 1) h.tick

theorem unaffected_newId : Unaffected AgreeStore (ProvenanceMemoryStore.newId readings) := by
  intro store store' h
  refine ⟨congrArg (fun n ↦ Except.ok (readings.uuid n)) h.tick, h.quarantineState, h.verifier, ?_⟩
  exact congrArg (· + 1) h.tick

theorem unaffected_hasCapabilityIn (caps : List SignedCapability) : Unaffected AgreeStore
    (ProvenanceMemoryStore.hasCapabilityIn lib readings context action resource caps) := by
  induction caps with
  | nil => exact unaffected_pure false
  | cons cap caps ih =>
    rw [ProvenanceMemoryStore.hasCapabilityIn]
    split
    · refine unaffected_now.bind fun time ↦ unaffected_get_bind ?_ fun store ↦
        (unaffected_ofExcept _).bind fun accepted ↦ ?_
      · intro store store' h
        rw [h.verifier]
      · split
        · exact unaffected_pure true
        · exact ih
    · exact ih

theorem unaffected_authorize : Unaffected AgreeStore
    (ProvenanceMemoryStore.authorize lib readings context action resource message) := by
  refine unaffected_now.bind fun time ↦ ?_
  split
  · exact unaffected_raise _
  · refine (unaffected_hasCapabilityIn _).bind fun held ↦ ?_
    split
    · exact unaffected_pure ()
    · exact unaffected_raise _

theorem unaffected_onStore {x : Program ProvenanceMemoryStore MemoryError α}
    (h : Unaffected AgreeStore x) : Unaffected (Agree (D := D) tenantId) (onStore x) := by
  refine Unaffected.mapError (unaffected_zoom h ?_ ?_) AccessError.ofMemory
  · exact fun _ _ h ↦ ⟨h.quarantineState, h.verifier, h.tick⟩
  · exact fun _ _ h _ _ h' ↦ ⟨h'.quarantineState, h'.verifier, h'.tick, h.entries⟩

variable {R : ProvenanceMemory D → ProvenanceMemory D → Prop} {partitionId verb : String}

theorem unaffected_execute (statement : Statement) : Unaffected R (execute env statement) := by
  rw [execute]
  split
  · exact unaffected_raise _
  · exact unaffected_pure ()

theorem unaffected_checkAccess : Unaffected (Agree (D := D) tenantId)
    (checkAccess env partitionId context action verb) := by
  refine (unaffected_onStore unaffected_now).bind fun time ↦ ?_
  split
  · exact unaffected_raise _
  · split
    · exact unaffected_raise _
    · exact unaffected_pure ()

theorem unaffected_isQuarantined :
    Unaffected (Agree (D := D) tenantId) (isQuarantined env partitionId) := by
  refine (unaffected_execute .selectStatus).bind fun _ ↦
    unaffected_get_bind (fun memory memory' h ↦ ?_) fun memory ↦ unaffected_pure _
  rw [ProvenanceMemoryStore.isQuarantined, h.quarantineState, ProvenanceMemoryStore.isQuarantined]

theorem unaffected_logAudit : Unaffected (Agree (D := D) tenantId)
    (logAudit lib env context partitionId action result) := by
  refine (unaffected_execute .insertAudit).bind fun _ ↦ unaffected_onStore ?_
  refine unaffected_newId.bind fun _ ↦ unaffected_now.bind fun _ ↦ unaffected_modify ?_
  exact fun _ _ h ↦ ⟨h.quarantineState, h.verifier, h.tick⟩

theorem unaffected_write {data : D} : Unaffected (Agree tenantId)
    (write lib env partitionId data context) := by
  refine unaffected_checkAccess.bind fun _ ↦ unaffected_isQuarantined.bind fun quarantined ↦ ?_
  split
  · exact unaffected_logAudit.bind fun _ ↦ unaffected_raise _
  · refine (unaffected_modify fun memory memory' h ↦ ?_).bind fun _ ↦ unaffected_logAudit
    refine ⟨h.quarantineState, h.verifier, h.tick, fun p hp ↦ ?_⟩
    rw [entries_append, entries_append]
    split
    · rename_i heq
      rw [h.entries partitionId (heq ▸ hp)]
    · exact h.entries p hp

theorem unaffected_admitRead : Unaffected (Agree (D := D) tenantId)
    (admitRead lib env partitionId context) := by
  refine unaffected_checkAccess.bind fun _ ↦ unaffected_isQuarantined.bind fun quarantined ↦ ?_
  split
  · refine (unaffected_onStore (unaffected_hasCapabilityIn _)).bind fun forensic ↦ ?_
    split
    · exact unaffected_logAudit
    · exact unaffected_logAudit.bind fun _ ↦ unaffected_raise _
  · exact unaffected_logAudit

theorem unaffected_quarantinePartition {reason : String} : Unaffected (Agree (D := D) tenantId)
    (quarantinePartition lib env partitionId context reason) := by
  refine (unaffected_onStore unaffected_authorize).bind fun _ ↦
    (unaffected_execute .insertQuarantine).bind fun _ ↦ (unaffected_onStore ?_).bind fun _ ↦
      unaffected_logAudit
  refine unaffected_now.bind fun createdAt ↦ unaffected_modify fun store store' h ↦ ?_
  exact ⟨congrArg (KeyTable.put · _) h.quarantineState, h.verifier, h.tick⟩

theorem unaffected_unquarantinePartition : Unaffected (Agree (D := D) tenantId)
    (unquarantinePartition lib env partitionId context) := by
  refine (unaffected_onStore unaffected_authorize).bind fun _ ↦
    (unaffected_execute .updateQuarantine).bind fun _ ↦ (unaffected_onStore ?_).bind fun _ ↦
      unaffected_logAudit
  refine unaffected_modify fun store store' h ↦ ⟨?_, h.verifier, h.tick⟩
  exact congrArg (KeyTable.modify · partitionId QuarantineRow.release
    QuarantineRow.partitionId_release) h.quarantineState

theorem unaffected_read (htenant : context.tenantId = tenantId) :
    Unaffected (Agree (D := D) tenantId) (read lib env partitionId context) := by
  intro memory memory' h
  rcases unaffected_admitRead.cases h with ⟨u, memory₁, memory₁', hs, ht, hagree⟩ |
    ⟨e, memory₁, memory₁', hs, ht, hagree⟩
  · have howned := ((triple_admitRead memory rfl).1 u memory₁ hs).1
    rw [read, bind_of_ok hs, bind_of_ok ht]
    exact ⟨congrArg Except.ok (hagree.entries partitionId (htenant ▸ howned)), hagree⟩
  · rw [read, bind_of_error hs, bind_of_error ht]
    exact ⟨rfl, hagree⟩

theorem respects_read : Respects (Agree (D := D) tenantId) (read lib env partitionId context) :=
  unaffected_admitRead.bind_respects fun _ _ _ h ↦ h

end Unaffected

theorem respects_run (call : Call D) : Respects (Agree tenantId) (call.run lib env) := by
  cases call with
  | write partitionId data context => exact unaffected_write.respects.map _
  | read partitionId context => exact respects_read.map _
  | quarantine partitionId context reason => exact unaffected_quarantinePartition.respects.map _
  | unquarantine partitionId context => exact unaffected_unquarantinePartition.respects.map _

theorem Agree.restart {memory memory' : ProvenanceMemory D} (h : Agree tenantId memory memory') :
    Agree tenantId memory.restart memory'.restart :=
  ⟨h.quarantineState, h.verifier, rfl, h.entries⟩

/-! ## Runs -/

/-- The request is a read by a context of a tenant. -/
def Request.readsFor (tenantId : String) (request : Request D) : Bool :=
  match request.call with
  | .read _ context => context.tenantId = tenantId
  | _ => false

/-- The request is a write by a context of a tenant. -/
def Request.writesFor (tenantId : String) (request : Request D) : Bool :=
  match request.call with
  | .write _ _ context => context.tenantId = tenantId
  | _ => false

/-- What the contexts of a tenant get when they read: data, or an exception. -/
def observed (lib : MemoryLibrary) (tenantId : String) :
    ProvenanceMemory D → List (Request D) → List (Except AccessError (Option (List D)))
  | _, [] => []
  | memory, request :: requests =>
    let rest := observed lib tenantId (request.run lib memory).2 requests
    if request.readsFor tenantId then (request.run lib memory).1 :: rest else rest

theorem fst_run_eq {memory memory' : ProvenanceMemory D} {request : Request D}
    (h : Agree tenantId memory.restart memory'.restart)
    (hreads : request.readsFor tenantId = true) :
    (request.run lib memory).1 = (request.run lib memory').1 := by
  obtain ⟨env, call⟩ := request
  cases call with
  | read partitionId context =>
    have htenant : context.tenantId = tenantId := of_decide_eq_true hreads
    exact (((unaffected_read htenant).bind fun _ ↦ unaffected_pure _) _ _ h).1
  | write => exact absurd hreads Bool.false_ne_true
  | quarantine => exact absurd hreads Bool.false_ne_true
  | unquarantine => exact absurd hreads Bool.false_ne_true

theorem agree_run {memory memory' : ProvenanceMemory D} (request : Request D)
    (h : Agree tenantId memory.restart memory'.restart) :
    Agree tenantId (request.run lib memory).2.restart (request.run lib memory').2.restart :=
  (respects_run request.call _ _ h).restart

/-- At most a partition that the tenant has was appended to. -/
structure Confined (memory₀ : ProvenanceMemory D) (partitionId : String) (data : D)
    (context : AccessContext) (memory : ProvenanceMemory D) : Prop where
  quarantineState : memory.store.quarantineState = memory₀.store.quarantineState
  verifier : memory.store.verifier = memory₀.store.verifier
  partitions : memory.partitions = memory₀.partitions ∨ OwnedBy context.tenantId partitionId ∧
    memory.partitions = (memory₀.append partitionId data).partitions

theorem triple_write_confined {memory₀ : ProvenanceMemory D} {partitionId : String} {data : D}
    {context : AccessContext} : Triple (· = memory₀.restart)
      (write lib env partitionId data context) (fun _ ↦ Confined memory₀ partitionId data context)
      fun _ ↦ Confined memory₀ partitionId data context := by
  refine triple_write.weaken (fun _ h ↦ h) ?_ ?_
  · rintro _ memory ⟨hstores, event, -, h⟩
    exact ⟨h.quarantineState, h.verifier, .inr ⟨hstores.owned, h.partitions⟩⟩
  · rintro _ memory (h | ⟨hstores, -, h⟩)
    · exact ⟨h.quarantineState, h.verifier, .inl h.partitions⟩
    · exact ⟨h.quarantineState, h.verifier, .inr ⟨hstores.owned, h.partitions⟩⟩

/-- A tenant does not see what is written by one that it has no partition in common with. -/
theorem agree_write (hapart : ∀ p, OwnedBy tenantId p → ¬ OwnedBy tenantId' p)
    {memory : ProvenanceMemory D} {request : Request D}
    (hwrites : request.writesFor tenantId' = true) :
    Agree tenantId memory.restart (request.run lib memory).2.restart := by
  obtain ⟨env, call⟩ := request
  cases call with
  | write partitionId data context =>
    obtain rfl : context.tenantId = tenantId' := of_decide_eq_true hwrites
    have hconfined : Confined memory partitionId data context
        (write lib env partitionId data context memory.restart).2 := triple_write_confined.final rfl
    rw [Request.run, Call.run, snd_bind_pure]
    generalize (write lib env partitionId data context memory.restart).2 = m at hconfined
    obtain ⟨hquarantine, hverifier, hpartitions⟩ := hconfined
    refine ⟨hquarantine.symm, hverifier.symm, rfl, fun p hp ↦ ?_⟩
    rcases hpartitions with hpartitions | ⟨howned, hpartitions⟩
    · exact (entries_congr hpartitions p).symm
    · -- the partition that is appended to is not one that the tenant has
      have hother : (memory.append partitionId data).entries p = memory.entries p := by
        rw [entries_append, if_neg]
        rintro rfl
        exact hapart p hp howned
      exact hother.symm.trans (entries_congr hpartitions p).symm
  | read => exact absurd hwrites Bool.false_ne_true
  | quarantine => exact absurd hwrites Bool.false_ne_true
  | unquarantine => exact absurd hwrites Bool.false_ne_true

/-- Two tenants have no partition in common, and what the first reads does not depend on what the
second writes. -/
structure Isolated (D : Type) (lib : MemoryLibrary) (tenantId tenantId' : String) : Prop where
  separate : ∀ (memory memory' : ProvenanceMemory D) (partitionId : String),
    ¬ (Admits lib memory tenantId partitionId ∧ Admits lib memory' tenantId' partitionId)
  independent : ∀ (memory : ProvenanceMemory D) (requests : List (Request D)),
    observed lib tenantId memory requests
      = observed lib tenantId memory (requests.filter fun r ↦ !r.writesFor tenantId')

theorem observed_filter (hapart : ∀ p, OwnedBy tenantId p → ¬ OwnedBy tenantId' p)
    (requests : List (Request D)) {memory memory' : ProvenanceMemory D}
    (h : Agree tenantId memory.restart memory'.restart) :
    observed lib tenantId memory requests
      = observed lib tenantId memory' (requests.filter fun r ↦ !r.writesFor tenantId') := by
  induction requests generalizing memory memory' with
  | nil => rfl
  | cons request requests ih =>
    by_cases hwrites : request.writesFor tenantId' = true
    · have hreads : ¬ request.readsFor tenantId = true := by
        obtain ⟨env, call⟩ := request
        cases call with
        | write => exact Bool.false_ne_true
        | read => exact absurd hwrites Bool.false_ne_true
        | quarantine => exact Bool.false_ne_true
        | unquarantine => exact Bool.false_ne_true
      rw [List.filter_cons_of_neg (by simp [hwrites]), observed, if_neg hreads]
      exact ih ((agree_write hapart hwrites).symm.trans h)
    · rw [List.filter_cons_of_pos (by simp [hwrites]), observed, observed, ih (agree_run request h)]
      split
      · rename_i hreads
        rw [fst_run_eq h hreads]
      · rfl

/-- **Tenants are isolated** just where neither has an id that starts with the id of the other and
an underscore. -/
theorem isolated_iff (hne : tenantId ≠ tenantId') : Isolated D lib tenantId tenantId' ↔
    ¬ OwnedBy tenantId tenantId' ∧ ¬ OwnedBy tenantId' tenantId := by
  constructor
  · intro h
    have hself : ∀ t, OwnedBy t (t ++ "_") := fun t ↦ List.prefix_refl _
    have hlonger : ∀ {t u}, OwnedBy t u → OwnedBy t (u ++ "_") := fun {t u} htu ↦
      htu.trans (String.toList_append ▸ List.prefix_append u.toList "_".toList)
    refine ⟨fun howned ↦ ?_, fun howned ↦ ?_⟩
    · exact h.separate emptyMemory emptyMemory _
        ⟨admits_of_ownedBy (hlonger howned), admits_of_ownedBy (hself tenantId')⟩
    · exact h.separate emptyMemory emptyMemory _
        ⟨admits_of_ownedBy (hself tenantId), admits_of_ownedBy (hlonger howned)⟩
  · rintro ⟨hleft, hright⟩
    have hapart : ∀ p, OwnedBy tenantId p → ¬ OwnedBy tenantId' p := fun p hp hp' ↦
      (ownedBy_of_common hne hp hp').elim hleft hright
    constructor
    · rintro memory memory' p ⟨h, h'⟩
      exact hapart p h.ownedBy h'.ownedBy
    · exact fun memory requests ↦ observed_filter hapart requests ⟨rfl, rfl, rfl, fun _ _ ↦ rfl⟩

theorem isolated_acme_globex : Isolated ℕ latin1Memory "acme" "globex" :=
  (isolated_iff (by decide)).mpr ⟨by decide, by decide⟩

/-- The partition is read by the tenant whose it is, and by the one whose id its tenant's starts
with. -/
theorem not_isolated_acme : ¬ ∀ tenantId tenantId' : String, tenantId ≠ tenantId' →
    Isolated ℕ latin1Memory tenantId tenantId' := fun h ↦
  (h "acme" "acme_corp" (by decide)).separate emptyMemory emptyMemory "acme_corp_notes"
    ⟨admits_of_ownedBy (by decide), admits_of_ownedBy (by decide)⟩

end DriftGuardX.Memory.ProvenanceMemory
