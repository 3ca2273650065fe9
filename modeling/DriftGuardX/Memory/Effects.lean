import DriftGuardX.Memory.Access

/-!
# What calls do to a store

A call that returns has stored what it is for and an entry in the audit table. One that raises has
stored nothing, or an entry that says it was denied; or the database has refused the entry after the
call had its effect. That is why a write can be stored, and a partition released, by a call that
raises.
-/

namespace DriftGuardX.Memory.ProvenanceMemory

open Program

variable {D α : Type} {lib : MemoryLibrary} {env : Environment} {memory₀ : ProvenanceMemory D}
  {context : AccessContext} {partitionId action result verb message reason : String} {data : D}

/-! ## States -/

/-- Only readings were counted. -/
structure Untouched (memory₀ memory : ProvenanceMemory D) : Prop where
  partitions : memory.partitions = memory₀.partitions
  quarantineState : memory.store.quarantineState = memory₀.store.quarantineState
  verifier : memory.store.verifier = memory₀.store.verifier
  accessAudit : memory.store.accessAudit = memory₀.store.accessAudit

/-- The data, the quarantine and the verifier are the same, and the audit table may have grown. -/
structure SameData (memory₀ memory : ProvenanceMemory D) : Prop where
  partitions : memory.partitions = memory₀.partitions
  quarantineState : memory.store.quarantineState = memory₀.store.quarantineState
  verifier : memory.store.verifier = memory₀.store.verifier
  audit : memory₀.store.accessAudit <+: memory.store.accessAudit

/-- With an entry in the audit table. -/
def logged (memory : ProvenanceMemory D) (event : AuditEvent) : ProvenanceMemory D :=
  { memory with
    store := { memory.store with accessAudit := memory.store.accessAudit ++ [event] } }

/-- With a row in the quarantine table. -/
def withRow (memory : ProvenanceMemory D) (row : QuarantineRow) : ProvenanceMemory D :=
  { memory with
    store := { memory.store with quarantineState := memory.store.quarantineState.put row } }

/-- With the row of a partition released. -/
def released (memory : ProvenanceMemory D) (partitionId : String) : ProvenanceMemory D :=
  { memory with
    store := { memory.store with
      quarantineState := memory.store.quarantineState.modify partitionId QuarantineRow.release
        QuarantineRow.partitionId_release } }

/-- An entry about a partition and the one who asked for it. -/
structure Records (event : AuditEvent) (context : AccessContext) (partitionId result : String) :
    Prop where
  requester : event.requester = context.requesterId
  tenant : event.tenant = context.tenantId
  partition : event.partition = partitionId
  result : event.result = result

/-- Among some capabilities is one for the action and the resource that the verifier accepts. -/
def Accepted (lib : MemoryLibrary) (readings : Readings) (verifier : CapabilityVerifier)
    (context : AccessContext) (action resource : String) (caps : List SignedCapability) : Prop :=
  ∃ cap ∈ caps, cap.action = action ∧ (cap.resource = "*" ∨ cap.resource = resource) ∧
    ∃ n, verifier.verify lib (readings.clock n) cap context action resource = .ok true

/-- The context has a capability for the action and the resource that the verifier accepts. -/
def Backed (lib : MemoryLibrary) (env : Environment) (verifier : CapabilityVerifier)
    (context : AccessContext) (action resource : String) : Prop :=
  Accepted lib env.toReadings verifier context action resource context.capabilities

theorem untouched_refl (memory : ProvenanceMemory D) : Untouched memory memory :=
  ⟨rfl, rfl, rfl, rfl⟩

theorem Untouched.trans {memory₁ memory₂ : ProvenanceMemory D} (h : Untouched memory₀ memory₁)
    (h' : Untouched memory₁ memory₂) : Untouched memory₀ memory₂ :=
  ⟨h'.partitions.trans h.partitions, h'.quarantineState.trans h.quarantineState,
    h'.verifier.trans h.verifier, h'.accessAudit.trans h.accessAudit⟩

theorem Untouched.sameData {memory : ProvenanceMemory D} (h : Untouched memory₀ memory) :
    SameData memory₀ memory :=
  ⟨h.partitions, h.quarantineState, h.verifier, h.accessAudit ▸ List.prefix_refl _⟩

theorem untouched_restart_iff {memory : ProvenanceMemory D} :
    Untouched memory₀.restart memory ↔ Untouched memory₀ memory :=
  ⟨fun h ↦ ⟨h.partitions, h.quarantineState, h.verifier, h.accessAudit⟩,
    fun h ↦ ⟨h.partitions, h.quarantineState, h.verifier, h.accessAudit⟩⟩

theorem sameData_restart_iff {memory : ProvenanceMemory D} :
    SameData memory₀.restart memory ↔ SameData memory₀ memory :=
  ⟨fun h ↦ ⟨h.partitions, h.quarantineState, h.verifier, h.audit⟩,
    fun h ↦ ⟨h.partitions, h.quarantineState, h.verifier, h.audit⟩⟩

theorem SameData.trans {memory₁ memory₂ : ProvenanceMemory D} (h : SameData memory₀ memory₁)
    (h' : SameData memory₁ memory₂) : SameData memory₀ memory₂ :=
  ⟨h'.partitions.trans h.partitions, h'.quarantineState.trans h.quarantineState,
    h'.verifier.trans h.verifier, h.audit.trans h'.audit⟩

theorem sameData_logged (event : AuditEvent) : SameData memory₀ (memory₀.logged event) :=
  ⟨rfl, rfl, rfl, List.prefix_append _ _⟩

theorem isQuarantined_congr {memory : ProvenanceMemory D}
    (h : memory.store.quarantineState = memory₀.store.quarantineState) (p : String) :
    memory.store.isQuarantined p = memory₀.store.isQuarantined p := by
  rw [ProvenanceMemoryStore.isQuarantined, h, ProvenanceMemoryStore.isQuarantined]

theorem entries_congr {memory : ProvenanceMemory D} (h : memory.partitions = memory₀.partitions)
    (p : String) : memory.entries p = memory₀.entries p := by
  rw [entries, h, entries]

theorem entries_append (memory : ProvenanceMemory D) (partitionId p : String) (data : D) :
    (memory.append partitionId data).entries p
      = if p = partitionId then memory.entries partitionId ++ [data] else memory.entries p := by
  rw [entries, append, KeyTable.get?_put]
  split
  · rfl
  · rfl

theorem isQuarantined_withRow (memory : ProvenanceMemory D) {row : QuarantineRow}
    (hactive : row.status = .active) (p : String) : (memory.withRow row).store.isQuarantined p
      = if p = row.partitionId then true else memory.store.isQuarantined p := by
  rw [ProvenanceMemoryStore.isQuarantined, withRow, KeyTable.get?_put]
  split
  · simp [hactive]
  · rfl

theorem isQuarantined_released (memory : ProvenanceMemory D) (partitionId p : String) :
    (memory.released partitionId).store.isQuarantined p
      = if p = partitionId then false else memory.store.isQuarantined p := by
  rw [ProvenanceMemoryStore.isQuarantined, released, KeyTable.get?_modify]
  split
  · cases memory.store.quarantineState.get? partitionId with
    | none => rfl
    | some row => rfl
  · rfl

/-! ## Statements and checks -/

theorem triple_execute {I : ProvenanceMemory D → Prop} (statement : Statement) :
    Triple I (execute env statement) (fun _ memory ↦ I memory ∧ env.refuses statement = none)
      fun _ memory ↦ I memory ∧ env.refuses statement ≠ none := by
  rw [execute]
  split
  · rename_i message hrefused
    exact triple_raise fun _ h ↦ ⟨h, by simp [hrefused]⟩
  · rename_i hrefused
    exact triple_pure fun _ h ↦ ⟨h, hrefused⟩

/-- The rule for a program on the store. -/
theorem triple_onStore {x : Program ProvenanceMemoryStore MemoryError α}
    {pre : ProvenanceMemory D → Prop} {post : α → ProvenanceMemory D → Prop}
    {raises : AccessError → ProvenanceMemory D → Prop}
    (hok : ∀ memory, pre memory → ∀ a store, x memory.store = (.ok a, store) →
      post a { memory with store })
    (herror : ∀ memory, pre memory → ∀ e store, x memory.store = (.error e, store) →
      raises (.ofMemory e) { memory with store }) : Triple pre (onStore x) post raises := by
  intro memory hpre
  rcases exists_ok_or_error x memory.store with ⟨a, store, hrun⟩ | ⟨e, store, hrun⟩
  · exact ends_of_ok (mapError_of_ok (zoom_of_run hrun)) (hok memory hpre a _ hrun)
  · exact ends_of_error (mapError_of_error (zoom_of_run hrun)) (herror memory hpre e _ hrun)

theorem untouched_onStore {x : Program ProvenanceMemoryStore MemoryError α}
    (h : ∀ I, ProvenanceMemoryStore.Untimed I → Keeps I x) :
    Keeps (Untouched memory₀) (onStore x : Program (ProvenanceMemory D) AccessError α) := by
  have hkeeps : ∀ memory : ProvenanceMemory D, Keeps
      (fun store ↦ Untouched memory { memory with store }) x :=
    fun memory ↦ h _ fun _ _ hstore ↦ ⟨hstore.1, hstore.2, hstore.3, hstore.4⟩
  refine triple_onStore (fun memory hmemory a store hrun ↦ ?_) fun memory hmemory e store hrun ↦ ?_
  · exact hmemory.trans ((hkeeps memory memory.store (untouched_refl memory)).1 a store hrun)
  · exact hmemory.trans ((hkeeps memory memory.store (untouched_refl memory)).2 e store hrun)

theorem triple_checkAccess : Triple (· = memory₀) (checkAccess env partitionId context action verb)
    (fun _ memory ↦ Untouched memory₀ memory ∧
      env.clock memory₀.store.tick ≤ context.expiresAt ∧ OwnedBy context.tenantId partitionId)
    fun _ ↦ Untouched memory₀ := by
  refine Triple.bind (M := fun time memory ↦ Untouched memory₀ memory ∧
    time = env.clock memory₀.store.tick) ?_ fun time ↦ ?_
  · refine triple_onStore ?_ ?_
    · rintro _ rfl time store hrun
      obtain ⟨htime, rfl⟩ := Prod.mk.inj hrun
      exact ⟨⟨rfl, rfl, rfl, rfl⟩, (Except.ok.inj htime).symm⟩
    · rintro _ rfl e store hrun
      exact absurd (Prod.mk.inj hrun).1 (by simp)
  · split
    · exact triple_raise fun _ h ↦ h.1
    · rename_i hvalid
      split
      · exact triple_raise fun _ h ↦ h.1
      · rename_i howned
        refine triple_pure fun _ h ↦ ⟨h.1, ?_, not_not.mp howned⟩
        rw [← h.2]
        exact not_lt.mp hvalid

theorem triple_isQuarantined : Triple (Untouched memory₀) (isQuarantined env partitionId)
    (fun quarantined memory ↦ Untouched memory₀ memory ∧ env.refuses .selectStatus = none ∧
      quarantined = memory₀.store.isQuarantined partitionId) fun _ ↦ Untouched memory₀ := by
  refine Triple.bind ((triple_execute .selectStatus).weaken (fun _ h ↦ h) (fun _ _ h ↦ h)
    fun _ _ h ↦ h.1) fun _ ↦ Triple.bind triple_get_eq fun memory ↦ triple_pure ?_
  rintro _ ⟨rfl, hmemory, hselected⟩
  exact ⟨hmemory, hselected, isQuarantined_congr hmemory.quarantineState partitionId⟩

/-- An entry is recorded, unless the database refuses it. -/
theorem triple_logAudit :
    Triple (Untouched memory₀) (logAudit lib env context partitionId action result)
      (fun _ memory ↦ env.refuses .insertAudit = none ∧
        ∃ event, Records event context partitionId result ∧ Untouched (memory₀.logged event) memory)
      fun _ memory ↦ Untouched memory₀ memory ∧ env.refuses .insertAudit ≠ none := by
  refine Triple.bind (triple_execute .insertAudit) fun _ ↦ triple_onStore ?_ ?_
  · rintro memory ⟨hmemory, haccepted⟩ _ store hrun
    obtain ⟨-, rfl⟩ := Prod.mk.inj hrun
    refine ⟨haccepted, _, ?_, ⟨hmemory.partitions, hmemory.quarantineState, hmemory.verifier,
      congrArg (· ++ [_]) hmemory.accessAudit⟩⟩
    exact ⟨rfl, rfl, rfl, rfl⟩
  · rintro memory - e store hrun
    exact absurd (Prod.mk.inj hrun).1 nofun

/-! ## Capabilities -/

/-- A capability that is found is accepted by the verifier. -/
theorem triple_hasCapabilityIn {readings : Readings} {verifier : CapabilityVerifier}
    {resource : String} (caps : List SignedCapability) :
    Triple (fun store ↦ store.verifier = verifier)
      (ProvenanceMemoryStore.hasCapabilityIn lib readings context action resource caps)
      (fun held _ ↦ held = true → Accepted lib readings verifier context action resource caps)
      fun _ _ ↦ True := by
  induction caps with
  | nil => exact triple_pure fun _ _ h ↦ absurd h Bool.false_ne_true
  | cons cap caps ih =>
    have hrest : Triple (fun store ↦ store.verifier = verifier)
        (ProvenanceMemoryStore.hasCapabilityIn lib readings context action resource caps)
        (fun held _ ↦ held = true →
          Accepted lib readings verifier context action resource (cap :: caps))
        fun _ _ ↦ True := by
      refine ih.weaken (fun _ h ↦ h) (fun held _ h hheld ↦ ?_) fun _ _ h ↦ h
      obtain ⟨found, hmem, hfound⟩ := h hheld
      exact ⟨found, List.mem_cons_of_mem cap hmem, hfound⟩
    rw [ProvenanceMemoryStore.hasCapabilityIn]
    split
    · rename_i hcap
      refine Triple.bind (M := fun time store ↦ store.verifier = verifier ∧
        ∃ n, time = readings.clock n) ?_ fun time ↦ ?_
      · exact triple_returns (fun _ ↦ rfl) fun store h ↦ ⟨h, store.tick, rfl⟩
      refine Triple.bind triple_get_eq fun store ↦ ?_
      refine Triple.bind (M := fun accepted s ↦ s.verifier = verifier ∧
        (∃ n, time = readings.clock n) ∧
          verifier.verify lib time cap context action resource = .ok accepted)
        (triple_ofExcept ?_ fun _ _ _ _ ↦ trivial) fun accepted ↦ ?_
      · rintro accepted haccepted _ ⟨rfl, hverifier, htime⟩
        exact ⟨hverifier, htime, hverifier ▸ haccepted⟩
      · split
        · refine triple_pure ?_
          rintro s ⟨-, ⟨n, rfl⟩, haccepted⟩ -
          rename_i htrue
          rw [htrue] at haccepted
          exact ⟨cap, List.mem_cons_self, hcap.1, hcap.2, n, haccepted⟩
        · exact hrest.weaken (fun _ h ↦ h.1) (fun _ _ h ↦ h) fun _ _ h ↦ h
    · exact hrest

theorem triple_authorize {verifier : CapabilityVerifier} {resource : String} :
    Triple (fun store ↦ store.verifier = verifier)
      (ProvenanceMemoryStore.authorize lib env.toReadings context action resource message)
      (fun _ _ ↦ Backed lib env verifier context action resource) fun _ _ ↦ True := by
  refine Triple.bind (M := fun _ store ↦ store.verifier = verifier)
    (triple_returns (fun _ ↦ rfl) fun _ h ↦ h) fun time ↦ ?_
  split
  · exact triple_raise fun _ _ ↦ trivial
  · refine Triple.bind (triple_hasCapabilityIn _) fun held ↦ ?_
    split
    · rename_i hheld
      exact triple_pure fun _ h ↦ h hheld
    · exact triple_raise fun _ _ ↦ trivial

/-- A program that only counts readings, and what is known of its result from the verifier. -/
theorem triple_onStore_untouched {x : Program ProvenanceMemoryStore MemoryError α} {Q : α → Prop}
    (hcounts : ∀ I, ProvenanceMemoryStore.Untimed I → Keeps I x)
    (hresult : Triple (fun store ↦ store.verifier = memory₀.store.verifier) x (fun a _ ↦ Q a)
      fun _ _ ↦ True) :
    Triple (Untouched memory₀) (onStore x) (fun a memory ↦ Untouched memory₀ memory ∧ Q a)
      fun _ ↦ Untouched memory₀ := by
  have hfact : Triple (Untouched memory₀) (onStore x) (fun a _ ↦ Q a)
      fun _ (_ : ProvenanceMemory D) ↦ True :=
    triple_onStore (fun memory hmemory a store hrun ↦
      (hresult memory.store hmemory.verifier).1 a store hrun) fun _ _ _ _ _ ↦ trivial
  exact ((untouched_onStore hcounts).and hfact).weaken (fun _ h ↦ h) (fun _ _ h ↦ h) fun _ _ h ↦ h.1

/-- An authorization only counts readings, and is backed by a capability. -/
theorem triple_onStore_authorize {resource : String} :
    Triple (· = memory₀) (onStore (ProvenanceMemoryStore.authorize lib env.toReadings context
        action resource message) : Program (ProvenanceMemory D) AccessError Unit)
      (fun _ memory ↦ Untouched memory₀ memory ∧
        Backed lib env memory₀.store.verifier context action resource ∧
        (ProvenanceMemoryStore.authorize lib env.toReadings context action resource message
          memory₀.store).1 = .ok ())
      fun _ ↦ Untouched memory₀ := by
  have hbacked : Triple (Untouched memory₀)
      (onStore
          (ProvenanceMemoryStore.authorize lib env.toReadings context action resource message) :
        Program (ProvenanceMemory D) AccessError Unit)
      (fun _ memory ↦ Untouched memory₀ memory ∧
        Backed lib env memory₀.store.verifier context action resource)
      fun _ ↦ Untouched memory₀ :=
    triple_onStore_untouched (fun I hI ↦ ProvenanceMemoryStore.keeps_authorize hI) triple_authorize
  have hrun : Triple (· = memory₀)
      (onStore
          (ProvenanceMemoryStore.authorize lib env.toReadings context action resource message) :
        Program (ProvenanceMemory D) AccessError Unit)
      (fun _ _ ↦ (ProvenanceMemoryStore.authorize lib env.toReadings context action resource message
          memory₀.store).1 = .ok ()) fun _ _ ↦ True := by
    refine triple_onStore ?_ fun _ _ _ _ _ ↦ trivial
    rintro _ rfl u store hrun
    rw [hrun]
  have hstart : ∀ memory, memory = memory₀ → Untouched memory₀ memory :=
    fun memory h ↦ h ▸ untouched_refl memory₀
  exact ((hbacked.weaken hstart (fun _ _ h ↦ h) fun _ _ h ↦ h).and hrun).weaken (fun _ h ↦ h)
    (fun _ _ h ↦ ⟨h.1.1, h.1.2, h.2⟩) fun _ _ h ↦ h.1

/-! ## Calls -/

/-- A write passes the checks, and the partition is not in quarantine. -/
structure Stores (env : Environment) (memory : ProvenanceMemory D) (partitionId : String)
    (context : AccessContext) : Prop where
  valid : env.clock memory.store.tick ≤ context.expiresAt
  owned : OwnedBy context.tenantId partitionId
  selected : env.refuses .selectStatus = none
  free : memory.store.isQuarantined partitionId = false

/-- A release is authorized, and the database accepts it. -/
structure Releases (lib : MemoryLibrary) (env : Environment) (memory : ProvenanceMemory D)
    (partitionId : String) (context : AccessContext) : Prop where
  authorized : (ProvenanceMemoryStore.authorize lib env.toReadings context "UNQUARANTINE"
    partitionId "Unquarantine requires an explicit UNQUARANTINE capability."
    memory.store).1 = .ok ()
  updated : env.refuses .updateQuarantine = none

/-- A write that returns is stored and recorded, and one that raises is not stored, unless the
database has refused the record. -/
theorem triple_write : Triple (· = memory₀) (write lib env partitionId data context)
    (fun _ memory ↦ Stores env memory₀ partitionId context ∧ ∃ event,
      Records event context partitionId "ALLOWED" ∧
        Untouched ((memory₀.append partitionId data).logged event) memory)
    fun _ memory ↦ SameData memory₀ memory ∨ Stores env memory₀ partitionId context ∧
      env.refuses .insertAudit ≠ none ∧ Untouched (memory₀.append partitionId data) memory := by
  refine Triple.bind (triple_checkAccess.weaken (fun _ h ↦ h) (fun _ _ h ↦ h)
    fun _ _ h ↦ .inl h.sameData) fun _ ↦ triple_of_fact fun hadmitted ↦ ?_
  refine Triple.bind (triple_isQuarantined.weaken (fun _ h ↦ h) (fun _ _ h ↦ h)
    fun _ _ h ↦ .inl h.sameData) fun quarantined ↦ triple_of_fact fun hquarantined ↦ ?_
  obtain ⟨hselected, rfl⟩ := hquarantined
  split
  · refine Triple.bind (M := fun _ ↦ SameData memory₀) (triple_logAudit.weaken (fun _ h ↦ h) ?_
      fun _ _ h ↦ .inl h.1.sameData) fun _ ↦ triple_raise fun _ h ↦ .inl h
    rintro _ memory ⟨-, event, -, hmemory⟩
    exact (sameData_logged event).trans hmemory.sameData
  · rename_i hfree
    have hstores : Stores env memory₀ partitionId context :=
      ⟨hadmitted.1, hadmitted.2, hselected, Bool.not_eq_true _ ▸ hfree⟩
    refine Triple.bind (M := fun _ ↦ Untouched (memory₀.append partitionId data))
      (triple_modify fun memory h ↦ ?_) fun _ ↦ triple_logAudit.weaken (fun _ h ↦ h)
        (fun _ _ h ↦ ⟨hstores, h.2⟩) fun _ _ h ↦ .inr ⟨hstores, h.2, h.1⟩
    refine ⟨?_, h.quarantineState, h.verifier, h.accessAudit⟩
    rw [append, append, entries, h.partitions, entries]

theorem triple_admitRead : Triple (· = memory₀) (admitRead lib env partitionId context)
    (fun _ memory ↦ OwnedBy context.tenantId partitionId ∧
      (memory₀.store.isQuarantined partitionId = true →
        Backed lib env memory₀.store.verifier context "FORENSIC_READ" partitionId) ∧
      ∃ event, Records event context partitionId "ALLOWED" ∧
        Untouched (memory₀.logged event) memory)
    fun _ ↦ SameData memory₀ := by
  refine Triple.bind (triple_checkAccess.weaken (fun _ h ↦ h) (fun _ _ h ↦ h)
    fun _ _ h ↦ h.sameData) fun _ ↦ triple_of_fact fun hadmitted ↦ ?_
  refine Triple.bind (triple_isQuarantined.weaken (fun _ h ↦ h) (fun _ _ h ↦ h)
    fun _ _ h ↦ h.sameData) fun quarantined ↦ triple_of_fact fun hquarantined ↦ ?_
  obtain ⟨-, rfl⟩ := hquarantined
  split
  · refine Triple.bind ((triple_onStore_untouched
      (fun I hI ↦ ProvenanceMemoryStore.keeps_hasCapabilityIn hI _)
      (triple_hasCapabilityIn context.capabilities)).weaken (fun _ h ↦ h) (fun _ _ h ↦ h)
        fun _ _ h ↦ h.sameData) fun forensic ↦ triple_of_fact fun hbacked ↦ ?_
    split
    · rename_i hforensic
      exact triple_logAudit.weaken (fun _ h ↦ h)
        (fun _ _ h ↦ ⟨hadmitted.2, fun _ ↦ hbacked hforensic, h.2⟩) fun _ _ h ↦ h.1.sameData
    · refine Triple.bind (M := fun _ ↦ SameData memory₀) (triple_logAudit.weaken (fun _ h ↦ h) ?_
        fun _ _ h ↦ h.1.sameData) fun _ ↦ triple_raise fun _ h ↦ h
      rintro _ memory ⟨-, event, -, hmemory⟩
      exact (sameData_logged event).trans hmemory.sameData
  · rename_i hfree
    exact triple_logAudit.weaken (fun _ h ↦ h)
      (fun _ _ h ↦ ⟨hadmitted.2, fun hquarantined ↦ absurd hquarantined hfree, h.2⟩)
      fun _ _ h ↦ h.1.sameData

/-- A read that returns has the data of the partition and is recorded; that of a partition in
quarantine is backed by a capability. -/
theorem triple_read : Triple (· = memory₀) (read lib env partitionId context)
    (fun data memory ↦ data = memory₀.entries partitionId ∧
      (memory₀.store.isQuarantined partitionId = true →
        Backed lib env memory₀.store.verifier context "FORENSIC_READ" partitionId) ∧
      ∃ event, Records event context partitionId "ALLOWED" ∧
        Untouched (memory₀.logged event) memory)
    fun _ ↦ SameData memory₀ := by
  refine Triple.bind triple_admitRead fun _ ↦ Triple.bind triple_get_eq fun memory ↦ triple_pure ?_
  rintro _ ⟨rfl, -, hbacked, event, hrecords, hmemory⟩
  refine ⟨?_, hbacked, event, hrecords, hmemory⟩
  rw [entries, hmemory.partitions, logged, entries]

/-- A quarantine that takes effect is backed by a capability. -/
theorem triple_quarantinePartition :
    Triple (· = memory₀) (quarantinePartition lib env partitionId context reason)
      (fun _ memory ↦
        Backed lib env memory₀.store.verifier context "QUARANTINE" partitionId ∧
        ∃ row event, row.partitionId = partitionId ∧ row.status = .active ∧
          Untouched ((memory₀.withRow row).logged event) memory)
      fun _ memory ↦ SameData memory₀ memory ∨
        Backed lib env memory₀.store.verifier context "QUARANTINE" partitionId ∧
        ∃ row, row.partitionId = partitionId ∧ row.status = .active ∧
          Untouched (memory₀.withRow row) memory := by
  refine Triple.bind (triple_onStore_authorize.weaken (fun _ h ↦ h) (fun _ _ h ↦ h)
    fun _ _ h ↦ .inl h.sameData) fun _ ↦ triple_of_fact fun hauthorized ↦ ?_
  refine Triple.bind ((triple_execute .insertQuarantine).weaken (fun _ h ↦ h) (fun _ _ h ↦ h.1)
    fun _ _ h ↦ .inl h.1.sameData) fun _ ↦ ?_
  refine Triple.bind (M := fun _ memory ↦ ∃ row : QuarantineRow, Untouched (memory₀.withRow row)
    memory ∧ row.partitionId = partitionId ∧ row.status = .active) (triple_onStore ?_ ?_) fun _ ↦ ?_
  · rintro memory hmemory _ store hrun
    obtain ⟨-, rfl⟩ := Prod.mk.inj hrun
    exact ⟨⟨partitionId, context.tenantId, reason, _, context.requesterId, .active⟩,
      ⟨hmemory.partitions, congrArg (KeyTable.put · _) hmemory.quarantineState, hmemory.verifier,
        hmemory.accessAudit⟩, rfl, rfl⟩
  · rintro memory - e store hrun
    exact absurd (Prod.mk.inj hrun).1 nofun
  · refine triple_of_exists fun row ↦ triple_of_fact fun hrow ↦ ?_
    refine triple_logAudit.weaken (fun _ h ↦ h) ?_ fun _ memory h ↦
      .inr ⟨hauthorized.1, row, hrow.1, hrow.2, h.1⟩
    rintro _ memory ⟨-, event, -, hmemory⟩
    exact ⟨hauthorized.1, row, event, hrow.1, hrow.2, hmemory⟩

/-- A release that takes effect is backed by a capability. It returns, unless the database has
refused the record. -/
theorem triple_unquarantinePartition :
    Triple (· = memory₀) (unquarantinePartition lib env partitionId context)
      (fun _ memory ↦
        Backed lib env memory₀.store.verifier context "UNQUARANTINE" partitionId ∧
        ∃ event, Untouched ((memory₀.released partitionId).logged event) memory)
      fun _ memory ↦ SameData memory₀ memory ∨
        Backed lib env memory₀.store.verifier context "UNQUARANTINE" partitionId ∧
        Releases lib env memory₀ partitionId context ∧ env.refuses .insertAudit ≠ none ∧
        Untouched (memory₀.released partitionId) memory := by
  refine Triple.bind (triple_onStore_authorize.weaken (fun _ h ↦ h) (fun _ _ h ↦ h)
    fun _ _ h ↦ .inl h.sameData) fun _ ↦ triple_of_fact fun hauthorized ↦ ?_
  refine Triple.bind ((triple_execute .updateQuarantine).weaken (fun _ h ↦ h) (fun _ _ h ↦ h)
    fun _ _ h ↦ .inl h.1.sameData) fun _ ↦ triple_of_fact fun hupdated ↦ ?_
  refine Triple.bind (M := fun _ ↦ Untouched (memory₀.released partitionId))
    (triple_onStore ?_ ?_) fun _ ↦ triple_logAudit.weaken (fun _ h ↦ h) ?_ fun _ _ h ↦
      .inr ⟨hauthorized.1, ⟨hauthorized.2, hupdated⟩, h.2, h.1⟩
  · rintro memory hmemory _ store hrun
    obtain ⟨-, rfl⟩ := Prod.mk.inj hrun
    exact ⟨hmemory.partitions, congrArg (KeyTable.modify · partitionId QuarantineRow.release
      QuarantineRow.partitionId_release) hmemory.quarantineState, hmemory.verifier,
      hmemory.accessAudit⟩
  · rintro memory - e store hrun
    exact absurd (Prod.mk.inj hrun).1 nofun
  · rintro _ memory ⟨-, event, -, hmemory⟩
    exact ⟨hauthorized.1, event, hmemory⟩

end DriftGuardX.Memory.ProvenanceMemory
