import DriftGuardX.Memory.Effects

/-!
# What quarantine guarantees

Series of calls by any contexts, some of which may be refused or raise. A partition in quarantine is
not written to, is read with a forensic capability only, and stays in quarantine until it is
released; what takes effect is backed by a capability, and what is read or written is recorded.

That holds as long as no call raises because the database refuses to record what the call has
already done (`Settled`). A write is stored before it is recorded, and a partition is released
before that is recorded, each in a transaction of its own.
-/

namespace DriftGuardX.Memory.ProvenanceMemory

open Program

variable {D : Type} {lib : MemoryLibrary} {memory : ProvenanceMemory D} {request : Request D}
  {requests : List (Request D)}

/-! ## Requests -/

def Request.Returns (lib : MemoryLibrary) (memory : ProvenanceMemory D) (request : Request D) :
    Prop := ∃ out memory', request.run lib memory = (.ok out, memory')

/-- A partition is quarantined by a call that returns. -/
def Quarantines (lib : MemoryLibrary) (partitionId : String) (memory : ProvenanceMemory D)
    (request : Request D) : Prop :=
  (∃ context reason, request.call = .quarantine partitionId context reason) ∧
    request.Returns lib memory

/-- A partition is released by a call that returns. -/
def Unquarantines (lib : MemoryLibrary) (partitionId : String) (memory : ProvenanceMemory D)
    (request : Request D) : Prop :=
  (∃ context, request.call = .unquarantine partitionId context) ∧ request.Returns lib memory

/-- The call returns, or has changed the quarantine table. -/
def TakesEffect (lib : MemoryLibrary) (memory : ProvenanceMemory D) (request : Request D) : Prop :=
  request.Returns lib memory ∨
    (request.run lib memory).2.store.quarantineState ≠ memory.store.quarantineState

/-- The call has recorded that it was allowed. -/
def Recorded (lib : MemoryLibrary) (memory : ProvenanceMemory D) (request : Request D)
    (partitionId : String) (context : AccessContext) : Prop :=
  ∃ event, Records event context partitionId "ALLOWED" ∧
    (request.run lib memory).2.store.accessAudit = memory.store.accessAudit ++ [event]

/-- The database accepts the record of a write that is stored, and of the release of a partition in
quarantine. -/
def Settled (lib : MemoryLibrary) (memory : ProvenanceMemory D) (request : Request D) : Prop :=
  match request.call with
  | .write partitionId _ context => Stores request.env memory.restart partitionId context →
      request.env.refuses .insertAudit = none
  | .unquarantine partitionId context =>
      Releases lib request.env memory.restart partitionId context →
        memory.store.isQuarantined partitionId = true → request.env.refuses .insertAudit = none
  | _ => True

/-- What is promised of a series of requests. -/
structure QuarantineHolds (lib : MemoryLibrary) (memory : ProvenanceMemory D)
    (requests : List (Request D)) : Prop where
  /-- The data of a partition does not change before it is released. -/
  frozen : ∀ pre first mid post partitionId, requests = pre ++ first :: (mid ++ post) →
    Quarantines lib partitionId (after (Request.run lib) pre memory) first →
    Each (Request.run lib) (fun m r ↦ ¬ Unquarantines lib partitionId m r)
      (after (Request.run lib) (pre ++ [first]) memory) mid →
    (after (Request.run lib) (pre ++ first :: mid) memory).entries partitionId
      = (after (Request.run lib) (pre ++ [first]) memory).entries partitionId
  /-- It is read with a forensic capability. -/
  forensic : ∀ pre first mid request post partitionId context,
    requests = pre ++ first :: (mid ++ request :: post) →
    Quarantines lib partitionId (after (Request.run lib) pre memory) first →
    Each (Request.run lib) (fun m r ↦ ¬ Unquarantines lib partitionId m r)
      (after (Request.run lib) (pre ++ [first]) memory) mid →
    request.call = .read partitionId context →
    request.Returns lib (after (Request.run lib) (pre ++ first :: mid) memory) →
    Backed lib request.env
      (after (Request.run lib) (pre ++ first :: mid) memory).store.verifier context
      "FORENSIC_READ" partitionId
  quarantineBacked : Each (Request.run lib) (fun m r ↦ ∀ partitionId context reason,
    r.call = .quarantine partitionId context reason → TakesEffect lib m r →
      Backed lib r.env m.store.verifier context "QUARANTINE" partitionId) memory requests
  unquarantineBacked : Each (Request.run lib) (fun m r ↦ ∀ partitionId context,
    r.call = .unquarantine partitionId context → TakesEffect lib m r →
      Backed lib r.env m.store.verifier context "UNQUARANTINE" partitionId) memory requests
  readRecorded : Each (Request.run lib) (fun m r ↦ ∀ partitionId context,
    r.call = .read partitionId context → r.Returns lib m → Recorded lib m r partitionId context)
    memory requests
  writeRecorded : Each (Request.run lib) (fun m r ↦ ∀ partitionId data context,
    r.call = .write partitionId data context → (r.run lib m).2.partitions ≠ m.partitions →
      Recorded lib m r partitionId context) memory requests
  /-- What was recorded stays recorded. -/
  kept : ∀ pre post, requests = pre ++ post →
    (after (Request.run lib) pre memory).store.accessAudit
      <+: (after (Request.run lib) requests memory).store.accessAudit

/-! ## Single requests -/

/-- What a triple for the program of its call says of a request. -/
theorem Request.spec (request : Request D) {α : Type}
    {x : Program (ProvenanceMemory D) AccessError α}
    {out : α → Option (List D)} {post : α → ProvenanceMemory D → Prop}
    {raises : AccessError → ProvenanceMemory D → Prop}
    (h : Triple (· = memory.restart) x post raises)
    (hrun : request.run lib memory = (x >>= fun a ↦ pure (out a)) memory.restart) :
    (request.Returns lib memory ∧ ∃ a, post a (request.run lib memory).2) ∨
      ¬ request.Returns lib memory ∧ ∃ e, raises e (request.run lib memory).2 := by
  rcases exists_ok_or_error x memory.restart with ⟨a, m, hx⟩ | ⟨e, m, hx⟩
  · have hrequest : request.run lib memory = (.ok (out a), m) := hrun.trans (bind_of_ok hx)
    rw [hrequest]
    exact .inl ⟨⟨out a, m, hrequest⟩, a, (h _ rfl).1 a m hx⟩
  · have hrequest : request.run lib memory = (.error e, m) := hrun.trans (bind_of_error hx)
    rw [hrequest]
    refine .inr ⟨?_, e, (h _ rfl).2 e m hx⟩
    rintro ⟨a, m', hreturns⟩
    exact nomatch (Prod.mk.inj (hrequest.symm.trans hreturns)).1

variable {partitionId reason : String} {data : D} {context : AccessContext}

section Cases

variable (lib memory)

theorem write_cases (hcall : request.call = .write partitionId data context) :
    (request.Returns lib memory ∧ Stores request.env memory.restart partitionId context ∧
      ∃ event, Records event context partitionId "ALLOWED" ∧
        Untouched ((memory.append partitionId data).logged event) (request.run lib memory).2) ∨
    ¬ request.Returns lib memory ∧ (SameData memory (request.run lib memory).2 ∨
      Stores request.env memory.restart partitionId context ∧
        request.env.refuses .insertAudit ≠ none ∧
        Untouched (memory.append partitionId data) (request.run lib memory).2) := by
  obtain ⟨env, call⟩ := request
  obtain rfl : call = .write partitionId data context := hcall
  rcases Request.spec ⟨env, .write partitionId data context⟩ triple_write rfl with
    ⟨hreturns, _, hstores, event, hrecords, h⟩ | ⟨hraises, _, h | ⟨hstores, hrefused, h⟩⟩
  · exact .inl ⟨hreturns, hstores, event, hrecords, untouched_restart_iff.mp h⟩
  · exact .inr ⟨hraises, .inl (sameData_restart_iff.mp h)⟩
  · exact .inr ⟨hraises, .inr ⟨hstores, hrefused, untouched_restart_iff.mp h⟩⟩

theorem read_cases (hcall : request.call = .read partitionId context) :
    (request.Returns lib memory ∧ (memory.store.isQuarantined partitionId = true →
        Backed lib request.env memory.store.verifier context "FORENSIC_READ" partitionId) ∧
      ∃ event, Records event context partitionId "ALLOWED" ∧
        Untouched (memory.logged event) (request.run lib memory).2) ∨
    ¬ request.Returns lib memory ∧ SameData memory (request.run lib memory).2 := by
  obtain ⟨env, call⟩ := request
  obtain rfl : call = .read partitionId context := hcall
  rcases Request.spec ⟨env, .read partitionId context⟩ triple_read rfl with
    ⟨hreturns, _, -, hbacked, event, hrecords, h⟩ | ⟨hraises, _, h⟩
  · exact .inl ⟨hreturns, hbacked, event, hrecords, untouched_restart_iff.mp h⟩
  · exact .inr ⟨hraises, sameData_restart_iff.mp h⟩

/-- A quarantine does nothing, or is backed and takes effect, whether or not it returns. -/
theorem quarantine_cases (hcall : request.call = .quarantine partitionId context reason) :
    (¬ request.Returns lib memory ∧ SameData memory (request.run lib memory).2) ∨
    Backed lib request.env memory.store.verifier context "QUARANTINE" partitionId ∧
      ∃ row, row.partitionId = partitionId ∧ row.status = .active ∧
        SameData (memory.withRow row) (request.run lib memory).2 := by
  obtain ⟨env, call⟩ := request
  obtain rfl : call = .quarantine partitionId context reason := hcall
  rcases Request.spec ⟨env, .quarantine partitionId context reason⟩ triple_quarantinePartition rfl
    with ⟨-, _, hbacked, row, event, hid, hactive, h⟩ |
      ⟨hraises, _, h | ⟨hbacked, row, hid, hactive, h⟩⟩
  · exact .inr ⟨hbacked, row, hid, hactive,
      (sameData_logged event).trans (sameData_restart_iff.mp h.sameData)⟩
  · exact .inl ⟨hraises, sameData_restart_iff.mp h⟩
  · exact .inr ⟨hbacked, row, hid, hactive, sameData_restart_iff.mp h.sameData⟩

theorem unquarantine_cases (hcall : request.call = .unquarantine partitionId context) :
    (¬ request.Returns lib memory ∧ SameData memory (request.run lib memory).2) ∨
    Backed lib request.env memory.store.verifier context "UNQUARANTINE" partitionId ∧
      SameData (memory.released partitionId) (request.run lib memory).2 ∧
      (¬ request.Returns lib memory → Releases lib request.env memory.restart partitionId context ∧
        request.env.refuses .insertAudit ≠ none) := by
  obtain ⟨env, call⟩ := request
  obtain rfl : call = .unquarantine partitionId context := hcall
  rcases Request.spec ⟨env, .unquarantine partitionId context⟩ triple_unquarantinePartition rfl with
    ⟨hreturns, _, hbacked, event, h⟩ | ⟨hraises, _, h | ⟨hbacked, hreleases, hrefused, h⟩⟩
  · exact .inr ⟨hbacked, (sameData_logged event).trans (sameData_restart_iff.mp h.sameData),
      fun hraises ↦ absurd hreturns hraises⟩
  · exact .inl ⟨hraises, sameData_restart_iff.mp h⟩
  · exact .inr ⟨hbacked, sameData_restart_iff.mp h.sameData, fun _ ↦ ⟨hreleases, hrefused⟩⟩

end Cases

/-! ## A partition in quarantine -/

/-- A partition is as it was. -/
def Unmoved (partitionId : String) (memory m : ProvenanceMemory D) : Prop :=
  m.store.isQuarantined partitionId = memory.store.isQuarantined partitionId ∧
    m.entries partitionId = memory.entries partitionId

theorem SameData.unmoved {m : ProvenanceMemory D} (h : SameData memory m) (partitionId : String) :
    Unmoved partitionId memory m :=
  ⟨isQuarantined_congr h.quarantineState partitionId, entries_congr h.partitions partitionId⟩

theorem Unmoved.trans {memory₁ memory₂ : ProvenanceMemory D}
    (h : Unmoved partitionId memory memory₁) (h' : Unmoved partitionId memory₁ memory₂) :
    Unmoved partitionId memory memory₂ := ⟨h'.1.trans h.1, h'.2.trans h.2⟩

theorem unmoved_append_of_stores {p : String} {data : D} {context : AccessContext}
    (hquarantined : memory.store.isQuarantined partitionId = true)
    (hstores : Stores request.env memory.restart p context) :
    Unmoved partitionId memory (memory.append p data) := by
  refine ⟨rfl, ?_⟩
  rw [entries_append, if_neg]
  rintro rfl
  exact nomatch hquarantined.symm.trans hstores.free

/-- The release of a partition in quarantine is recorded, and then its call returns. -/
theorem unquarantines_of_released {context : AccessContext}
    (hquarantined : memory.store.isQuarantined partitionId = true)
    (hsettled : Settled lib memory request)
    (hcall : request.call = .unquarantine partitionId context)
    (hraises : ¬ request.Returns lib memory →
      Releases lib request.env memory.restart partitionId context ∧
        request.env.refuses .insertAudit ≠ none) :
    Unquarantines lib partitionId memory request := by
  refine ⟨⟨context, hcall⟩, ?_⟩
  by_contra hreturns
  obtain ⟨hreleases, hrefused⟩ := hraises hreturns
  rw [Settled, hcall] at hsettled
  exact hrefused (hsettled hreleases hquarantined)

theorem unmoved_of_quarantined (hquarantined : memory.store.isQuarantined partitionId = true)
    (hsettled : Settled lib memory request)
    (hheld : ¬ Unquarantines lib partitionId memory request) :
    Unmoved partitionId memory (request.run lib memory).2 := by
  cases hcall : request.call with
  | write p data context =>
    rcases write_cases lib memory hcall with
      ⟨-, hstores, event, -, h⟩ | ⟨-, h | ⟨hstores, -, h⟩⟩
    · exact (unmoved_append_of_stores hquarantined hstores).trans
        (((sameData_logged event).trans h.sameData).unmoved _)
    · exact h.unmoved _
    · exact (unmoved_append_of_stores hquarantined hstores).trans (h.sameData.unmoved _)
  | read p context =>
    rcases read_cases lib memory hcall with ⟨-, -, event, -, h⟩ | ⟨-, h⟩
    · exact ((sameData_logged event).trans h.sameData).unmoved _
    · exact h.unmoved _
  | quarantine p context reason =>
    rcases quarantine_cases lib memory hcall with
      ⟨-, h⟩ | ⟨-, row, hid, hactive, h⟩
    · exact h.unmoved _
    · have hrow : Unmoved partitionId memory (memory.withRow row) := by
        refine ⟨?_, rfl⟩
        rw [isQuarantined_withRow memory hactive, hquarantined]
        split
        · rfl
        · rfl
      exact hrow.trans (h.unmoved _)
  | unquarantine p context =>
    rcases unquarantine_cases lib memory hcall with ⟨-, h⟩ | ⟨-, h, hraises⟩
    · exact h.unmoved _
    · have hother : partitionId ≠ p := by
        rintro rfl
        exact hheld (unquarantines_of_released hquarantined hsettled hcall hraises)
      have hreleased : Unmoved partitionId memory (memory.released p) := by
        refine ⟨?_, rfl⟩
        rw [isQuarantined_released, if_neg hother]
      exact hreleased.trans (h.unmoved _)

theorem isQuarantined_of_quarantines (h : Quarantines lib partitionId memory request) :
    (request.run lib memory).2.store.isQuarantined partitionId = true := by
  obtain ⟨⟨context, reason, hcall⟩, hreturns⟩ := h
  rcases quarantine_cases lib memory hcall with ⟨hraises, -⟩ | ⟨-, row, rfl, hactive, h⟩
  · exact absurd hreturns hraises
  · rw [isQuarantined_congr h.quarantineState, isQuarantined_withRow memory hactive, if_pos rfl]

/-- A partition is in quarantine and its data is that of a state before, until it is released. -/
theorem quarantined_after {mid : List (Request D)}
    (hquarantined : memory.store.isQuarantined partitionId = true)
    (hsettled : Each (Request.run lib) (Settled lib) memory mid)
    (hheld : Each (Request.run lib) (fun m r ↦ ¬ Unquarantines lib partitionId m r) memory mid) :
    (after (Request.run lib) mid memory).store.isQuarantined partitionId = true ∧
      (after (Request.run lib) mid memory).entries partitionId = memory.entries partitionId := by
  induction mid generalizing memory with
  | nil => exact ⟨hquarantined, rfl⟩
  | cons request mid ih =>
    obtain ⟨hstate, hdata⟩ := unmoved_of_quarantined hquarantined hsettled.1 hheld.1
    obtain ⟨hstate', hdata'⟩ := ih (hstate.trans hquarantined) hsettled.2 hheld.2
    exact ⟨hstate', hdata'.trans hdata⟩

/-! ## Capabilities and records -/

theorem quarantine_backed (hcall : request.call = .quarantine partitionId context reason)
    (heffect : TakesEffect lib memory request) :
    Backed lib request.env memory.store.verifier context "QUARANTINE" partitionId := by
  rcases quarantine_cases lib memory hcall with ⟨hraises, h⟩ | ⟨hbacked, -⟩
  · exact (heffect.elim hraises fun hchanged ↦ hchanged h.quarantineState).elim
  · exact hbacked

theorem unquarantine_backed (hcall : request.call = .unquarantine partitionId context)
    (heffect : TakesEffect lib memory request) :
    Backed lib request.env memory.store.verifier context "UNQUARANTINE" partitionId := by
  rcases unquarantine_cases lib memory hcall with ⟨hraises, h⟩ | ⟨hbacked, -⟩
  · exact (heffect.elim hraises fun hchanged ↦ hchanged h.quarantineState).elim
  · exact hbacked

theorem read_recorded (hcall : request.call = .read partitionId context)
    (hreturns : request.Returns lib memory) : Recorded lib memory request partitionId context := by
  rcases read_cases lib memory hcall with ⟨-, -, event, hrecords, h⟩ | ⟨hraises, -⟩
  · exact ⟨event, hrecords, h.accessAudit⟩
  · exact absurd hreturns hraises

theorem write_recorded (hsettled : Settled lib memory request)
    (hcall : request.call = .write partitionId data context)
    (hstored : (request.run lib memory).2.partitions ≠ memory.partitions) :
    Recorded lib memory request partitionId context := by
  rcases write_cases lib memory hcall with
    ⟨-, -, event, hrecords, h⟩ | ⟨-, h | ⟨hstores, hrefused, -⟩⟩
  · exact ⟨event, hrecords, h.accessAudit⟩
  · exact absurd h.partitions hstored
  · rw [Settled, hcall] at hsettled
    exact absurd (hsettled hstores) hrefused

theorem prefix_accessAudit (memory : ProvenanceMemory D) (request : Request D) :
    memory.store.accessAudit <+: (request.run lib memory).2.store.accessAudit := by
  cases hcall : request.call with
  | write p data context =>
    rcases write_cases lib memory hcall with ⟨-, -, event, -, h⟩ | ⟨-, h | ⟨-, -, h⟩⟩
    · exact (sameData_logged event).audit.trans h.sameData.audit
    · exact h.audit
    · exact h.sameData.audit
  | read p context =>
    rcases read_cases lib memory hcall with ⟨-, -, event, -, h⟩ | ⟨-, h⟩
    · exact (sameData_logged event).audit.trans h.sameData.audit
    · exact h.audit
  | quarantine p context reason =>
    rcases quarantine_cases lib memory hcall with ⟨-, h⟩ | ⟨-, row, -, -, h⟩
    · exact h.audit
    · exact h.audit
  | unquarantine p context =>
    rcases unquarantine_cases lib memory hcall with ⟨-, h⟩ | ⟨-, h, -⟩
    · exact h.audit
    · exact h.audit

theorem accessAudit_after (memory : ProvenanceMemory D) (requests : List (Request D)) :
    memory.store.accessAudit
      <+: (after (Request.run lib) requests memory).store.accessAudit := by
  have hkeeps : ∀ r : Request D, Keeps
      (fun m : ProvenanceMemory D ↦ memory.store.accessAudit <+: m.store.accessAudit) (r.run lib) :=
    fun r ↦ keeps_of_state fun m hm ↦ hm.trans (prefix_accessAudit m r)
  exact after_induction hkeeps requests (List.prefix_refl _)

/-! ## Runs -/

/-- **Quarantine holds** in every run in which the database accepts the record of each write that is
stored and of each release. -/
theorem quarantineHolds_of_settled (memory : ProvenanceMemory D) (requests : List (Request D))
    (hsettled : Each (Request.run lib) (Settled lib) memory requests) :
    QuarantineHolds lib memory requests := by
  -- between a quarantine and the next release
  have hbetween : ∀ pre first mid post p, requests = pre ++ first :: (mid ++ post) →
      Quarantines lib p (after (Request.run lib) pre memory) first →
      Each (Request.run lib) (fun m r ↦ ¬ Unquarantines lib p m r)
        (after (Request.run lib) (pre ++ [first]) memory) mid →
      (after (Request.run lib) (pre ++ first :: mid) memory).store.isQuarantined p = true ∧
        (after (Request.run lib) (pre ++ first :: mid) memory).entries p
          = (after (Request.run lib) (pre ++ [first]) memory).entries p := by
    rintro pre first mid post p rfl hfirst hheld
    rw [after_append] at hheld
    rw [after_append, after_append]
    have hmid := (each_append.mp (each_append.mp hsettled).2.2).1
    exact quarantined_after (isQuarantined_of_quarantines hfirst) hmid hheld
  constructor
  case frozen =>
    intro pre first mid post p heq hfirst hheld
    exact (hbetween pre first mid post p heq hfirst hheld).2
  case forensic =>
    intro pre first mid request post p context heq hfirst hheld hcall hreturns
    have hquarantined := (hbetween pre first mid (request :: post) p heq hfirst hheld).1
    rcases read_cases lib _ hcall with ⟨-, hbacked, -⟩ | ⟨hraises, -⟩
    · exact hbacked hquarantined
    · exact absurd hreturns hraises
  case quarantineBacked => exact hsettled.imp fun m r _ p context reason ↦ quarantine_backed
  case unquarantineBacked => exact hsettled.imp fun m r _ p context ↦ unquarantine_backed
  case readRecorded => exact hsettled.imp fun m r _ p context ↦ read_recorded
  case writeRecorded => exact hsettled.imp fun m r h p data context ↦ write_recorded h
  case kept =>
    rintro pre post rfl
    rw [after_append]
    exact accessAudit_after _ post

section Examples

def acmeContext : AccessContext := ⟨"writer", "acme", [], 0⟩

/-- The database is locked when an entry is about to be inserted into the audit table. -/
def lockedAudit : Environment :=
  { still with refuses := fun s ↦ if s = .insertAudit then some "database is locked" else none }

/-- A context with a capability for each of the operations on a quarantine. -/
def keeperContext : AccessContext where
  requesterId := "keeper"
  tenantId := "acme"
  capabilities := ["QUARANTINE", "FORENSIC_READ", "UNQUARANTINE"].map fun action ↦
    CapabilityVerifier.sign latin1Memory []
      ⟨action, "keeper", "acme", action, "acme_notes", 0, 1, "DriftGuard-X", "n", "1.0", ""⟩
  expiresAt := 0

/-- A partition is written to, quarantined, read and released. -/
def quarantineAndRelease : List (Request ℕ) :=
  [⟨still, .write "acme_notes" 1 acmeContext⟩, ⟨still, .quarantine "acme_notes" keeperContext "r"⟩,
    ⟨still, .write "acme_notes" 2 acmeContext⟩, ⟨still, .read "acme_notes" keeperContext⟩,
    ⟨still, .unquarantine "acme_notes" keeperContext⟩]

theorem quarantineHolds_quarantineAndRelease :
    ((after (Request.run latin1Memory) quarantineAndRelease emptyMemory).store.accessAudit.map
        fun event ↦ (event.action, event.result))
      = [("WRITE", "ALLOWED"), ("QUARANTINE", "SUCCESS"), ("WRITE", "DENIED_QUARANTINE"),
        ("FORENSIC_READ", "ALLOWED"), ("UNQUARANTINE", "SUCCESS")] ∧
    QuarantineHolds latin1Memory emptyMemory quarantineAndRelease :=
  ⟨by decide +kernel, quarantineHolds_of_settled emptyMemory _
    ⟨fun _ ↦ rfl, trivial, fun _ ↦ rfl, trivial, fun _ _ ↦ rfl, trivial⟩⟩

/-- A write that raises is stored all the same, and there is no record of it. -/
theorem not_quarantineHolds_lockedAudit :
    ¬ ∀ (memory : ProvenanceMemory ℕ) (requests : List (Request ℕ)),
      QuarantineHolds latin1Memory memory requests := by
  intro h
  obtain ⟨event, -, haudit⟩ := (h emptyMemory [⟨lockedAudit, .write "acme_notes" 1 acmeContext⟩]
    ).writeRecorded.1 "acme_notes" 1 acmeContext rfl fun hpartitions ↦
      nomatch congrArg KeyTable.rows hpartitions
  exact nomatch haudit

end Examples

end DriftGuardX.Memory.ProvenanceMemory
