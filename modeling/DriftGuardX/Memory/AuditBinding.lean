import DriftGuardX.Foundation.Digest
import DriftGuardX.Foundation.Framing
import DriftGuardX.Memory.AuditChain

/-!
# What the last hash says about the audit rows

The hash of a row covers its fields with a separator between them that the fields may contain, the
word `None` where there is no capability, and the time that the text of the timestamp denotes. Under
an injective digest, two tables of one length that are verified and end in the same hash agree in
these joined texts, row by row. They agree in the fields as well exactly if the joined texts are cut
at the same separators, no capability is matched by the capability `None`, and a time is spelled in
one way (`tamperEvident_iff`).
-/

namespace DriftGuardX.Memory

open Json Bytes HashChain Framing

/-- The digest is a text in hexadecimal. -/
structure HexAuditLibrary extends AuditLibrary where
  sha256_hexadecimal : ∀ bytes, ∀ c ∈ (sha256 bytes).toList, (hexVal c).isSome = true

/-! ## What is hashed -/

/-- The fields of a row that are hashed before its timestamp, as they are written. -/
def AuditEvent.texts (row : AuditEvent) : List (List Char) :=
  [row.eventId, row.requester, row.tenant, row.partition, row.action,
    row.capabilityId.getD "None", row.policyVersion, row.result].map String.toList

/-- The number of separators in each of them. -/
def AuditEvent.separators (row : AuditEvent) : List ℕ := row.texts.map (List.count '|')

section Hashing

variable {lib : HexAuditLibrary} {row row' : AuditEvent} {previousHash previousHash' : String}

theorem hashAuditEvent_eq (lib : MemoryLibrary) (row : AuditEvent) (previousHash : String) :
    hashAuditEvent lib row previousHash
      = lib.sha256 (utf8 (String.ofList ("DGX-AUDIT-EVENT-V1|".toList
          ++ previousHash.toList ++ '|' :: terminated '|' row.texts row.timestamp.toList))) := by
  rw [hashAuditEvent]
  refine congrArg (fun text ↦ lib.sha256 (utf8 text)) (String.toList_injective ?_)
  simp only [String.toList_append, String.toList_ofList, List.append_assoc]
  rfl

theorem separator_notMem_sha256 (bytes : List UInt8) : '|' ∉ (lib.sha256 bytes).toList := by
  intro hmem
  exact absurd (lib.sha256_hexadecimal bytes '|' hmem) (by decide)

/-- Rows with the same hash have the same predecessor and the same text after it. -/
theorem texts_eq_of_hashAuditEvent (hsha : Function.Injective lib.sha256)
    (hprev : '|' ∉ previousHash.toList) (hprev' : '|' ∉ previousHash'.toList)
    (h : hashAuditEvent lib.toMemoryLibrary row previousHash
      = hashAuditEvent lib.toMemoryLibrary row' previousHash') :
    previousHash = previousHash' ∧ terminated '|' row.texts row.timestamp.toList
      = terminated '|' row'.texts row'.timestamp.toList := by
  rw [hashAuditEvent_eq, hashAuditEvent_eq] at h
  have hchars := String.ofList_injective (utf8_injective (hsha h))
  rw [List.append_assoc, List.append_assoc] at hchars
  obtain ⟨hhash, htexts⟩ := first_inj hprev hprev' (List.append_cancel_left hchars)
  exact ⟨String.toList_injective hhash, htexts⟩

end Hashing

/-! ## Verified tables -/

/-- A row that the loop of `verify_audit_chain` passes. -/
def Verified (lib : AuditLibrary) (previousHash : String) (row : AuditEvent) : Prop :=
  row.previousHash = previousHash ∧ ∃ time, lib.fromisoformat row.timestamp = some time ∧
    hashAuditEvent lib.toMemoryLibrary { row with timestamp := lib.isoformat time } previousHash
      = row.eventHash

theorem verifyFrom_cons_iff {lib : AuditLibrary} {previousHash : String} {row : AuditEvent}
    {rows : List AuditEvent} : verifyFrom lib previousHash (row :: rows) = some true ↔
      Verified lib previousHash row ∧ verifyFrom lib row.eventHash rows = some true := by
  rw [verifyFrom, Verified]
  by_cases hprev : row.previousHash = previousHash
  · subst hprev
    rw [if_neg (not_not.mpr rfl)]
    cases lib.fromisoformat row.timestamp with
    | none => simp
    | some time =>
      by_cases hhash : hashAuditEvent lib.toMemoryLibrary
          { row with timestamp := lib.isoformat time } row.previousHash = row.eventHash
      · rw [Option.bind_eq_bind, Option.bind_some, if_neg (not_not.mpr hhash)]
        simp [hhash]
      · rw [Option.bind_eq_bind, Option.bind_some, if_pos hhash]
        simp [hhash]
  · rw [if_pos hprev]
    simp [hprev]

theorem chained_of_verifyFrom {lib : AuditLibrary} {previousHash : String} {rows : List AuditEvent}
    (n : ℕ) (h : verifyFrom lib previousHash rows = some true) :
    Chained (fun _ ↦ Verified lib) AuditEvent.eventHash n previousHash rows := by
  induction rows generalizing n previousHash with
  | nil => trivial
  | cons row rows ih =>
    obtain ⟨hrow, hrest⟩ := verifyFrom_cons_iff.mp h
    exact ⟨hrow, ih (n + 1) hrest⟩

/-- The fields of two rows, apart from the hashes, are the same. -/
structure SameContent (row row' : AuditEvent) : Prop where
  eventId : row.eventId = row'.eventId
  requester : row.requester = row'.requester
  tenant : row.tenant = row'.tenant
  partition : row.partition = row'.partition
  action : row.action = row'.action
  capabilityId : row.capabilityId = row'.capabilityId
  timestamp : row.timestamp = row'.timestamp
  policyVersion : row.policyVersion = row'.policyVersion
  result : row.result = row'.result

/-- The joined texts of two rows are cut at the same separators, neither row has the capability `None`
where the other one has none, and a time is spelled alike. -/
structure SameFraming (lib : AuditLibrary) (row row' : AuditEvent) : Prop where
  separators : row.separators = row'.separators
  capability : row.capabilityId = none → row'.capabilityId ≠ some "None"
  capability' : row'.capabilityId = none → row.capabilityId ≠ some "None"
  spelling : lib.fromisoformat row.timestamp = lib.fromisoformat row'.timestamp →
    row.timestamp = row'.timestamp

/-- Verified rows with the same hash have the same texts and the same time. -/
def SameHashed (lib : AuditLibrary) (row row' : AuditEvent) : Prop :=
  ∃ time time', lib.fromisoformat row.timestamp = some time ∧
    lib.fromisoformat row'.timestamp = some time' ∧
    terminated '|' row.texts (lib.isoformat time).toList
      = terminated '|' row'.texts (lib.isoformat time').toList

section Rows

variable {lib : HexAuditLibrary} {row row' : AuditEvent} {rows rows' : List AuditEvent}

theorem SameContent.sameFraming (h : SameContent row row') : SameFraming lib.toAuditLibrary row row'
    where
  separators := by
    rw [AuditEvent.separators, AuditEvent.separators, AuditEvent.texts, AuditEvent.texts, h.eventId,
      h.requester, h.tenant, h.partition, h.action, h.capabilityId, h.policyVersion, h.result]
  capability hnone := by simp [← h.capabilityId, hnone]
  capability' hnone := by simp [h.capabilityId, hnone]
  spelling _ := h.timestamp

/-- A capability is read off its text, when `None` stands for no capability only. -/
theorem SameFraming.capabilityId_eq (h : SameFraming lib.toAuditLibrary row row')
    (htext : row.capabilityId.getD "None" = row'.capabilityId.getD "None") :
    row.capabilityId = row'.capabilityId := by
  cases hid : row.capabilityId with
  | none =>
    cases hid' : row'.capabilityId with
    | none => rfl
    | some id' =>
      rw [hid, hid'] at htext
      exact absurd (hid'.trans (congrArg some htext.symm)) (h.capability hid)
  | some id =>
    cases hid' : row'.capabilityId with
    | none =>
      rw [hid, hid'] at htext
      exact absurd (hid.trans (congrArg some htext)) (h.capability' hid')
    | some id' =>
      rw [hid, hid'] at htext
      exact congrArg some htext

theorem SameFraming.sameContent (h : SameFraming lib.toAuditLibrary row row')
    (hhashed : SameHashed lib.toAuditLibrary row row') : SameContent row row' := by
  obtain ⟨time, time', htime, htime', htexts⟩ := hhashed
  obtain ⟨hfields, hrest⟩ := terminated_inj h.separators htexts
  -- the text of a time is read back as that time
  have hsame : time = time' := by
    have hread := congrArg lib.fromisoformat (String.toList_injective hrest)
    rwa [lib.fromisoformat_isoformat, lib.fromisoformat_isoformat, Option.some.injEq] at hread
  have hstrings := List.map_injective_iff.mpr (fun _ _ ↦ String.toList_injective) hfields
  simp only [List.cons.injEq, and_true] at hstrings
  obtain ⟨heventId, hrequester, htenant, hpartition, haction, hcapability, hversion, hresult⟩ :=
    hstrings
  exact ⟨heventId, hrequester, htenant, hpartition, haction,
    h.capabilityId_eq hcapability, h.spelling (by rw [htime, htime', hsame]), hversion,
    hresult⟩

/-- **The last hash commits to what is hashed** of each row. -/
theorem sameHashed_of_verified (hsha : Function.Injective lib.sha256)
    (hlength : rows.length = rows'.length)
    (hrows : verifyFrom lib.toAuditLibrary "GENESIS-AUDIT" rows = some true)
    (hrows' : verifyFrom lib.toAuditLibrary "GENESIS-AUDIT" rows' = some true)
    (hhead : headHash AuditEvent.eventHash "GENESIS-AUDIT" rows
      = headHash AuditEvent.eventHash "GENESIS-AUDIT" rows') :
    List.Forall₂ (SameHashed lib.toAuditLibrary) rows rows' := by
  have hgenesis : '|' ∉ "GENESIS-AUDIT".toList := by decide
  have hhash : ∀ (n : ℕ) (previousHash : String) (row : AuditEvent),
      Verified lib.toAuditLibrary previousHash row → '|' ∉ row.eventHash.toList := by
    rintro - previousHash row ⟨-, time, -, heq⟩
    rw [← heq, hashAuditEvent_eq]
    exact separator_notMem_sha256 _
  have hchained : ∀ rows, verifyFrom lib.toAuditLibrary "GENESIS-AUDIT" rows = some true →
      Chained (fun _ previousHash row ↦ '|' ∉ previousHash.toList ∧
        Verified lib.toAuditLibrary previousHash row) AuditEvent.eventHash 0 "GENESIS-AUDIT" rows :=
    fun rows h ↦ (chained_of_verifyFrom 0 h).and_previous hgenesis hhash
  refine forall₂_of_length_eq ?_ 0 "GENESIS-AUDIT" rows rows' hlength (hchained rows hrows)
    (hchained rows' hrows') hhead
  rintro n previousHash previousHash' row row' ⟨hprev, -, time, htime, heq⟩
    ⟨hprev', -, time', htime', heq'⟩ hsame
  obtain ⟨hprevious, htexts⟩ :=
    texts_eq_of_hashAuditEvent hsha hprev hprev' (heq.trans (hsame.trans heq'.symm))
  exact ⟨hprevious, time, time', htime, htime', htexts⟩

end Rows

/-! ## Tables with the same last hash -/

/-- Tables of one length that are verified and end in the same hash. -/
structure Agreeing (lib : AuditLibrary) (table table' : AuditTable) : Prop where
  length : table.rows.length = table'.rows.length
  verified : verifyAuditChain lib table = some true
  verified' : verifyAuditChain lib table' = some true
  head : table.head = table'.head

/-- When two tables agree, their rows are the same. -/
def TamperEvident (lib : AuditLibrary) (table table' : AuditTable) : Prop :=
  Agreeing lib table table' → List.Forall₂ SameContent table.rows table'.rows

/-- **The audit chain is tamper-evident** exactly as far as the rows of tables that agree are framed
alike. -/
theorem tamperEvident_iff {lib : HexAuditLibrary} (hsha : Function.Injective lib.sha256)
    (table table' : AuditTable) : TamperEvident lib.toAuditLibrary table table' ↔
      (Agreeing lib.toAuditLibrary table table' →
        List.Forall₂ (SameFraming lib.toAuditLibrary) table.rows table'.rows) := by
  refine ⟨fun h hagree ↦ (h hagree).imp fun _ _ ↦ SameContent.sameFraming, fun h hagree ↦ ?_⟩
  have hhashed := sameHashed_of_verified hsha hagree.length hagree.verified hagree.verified'
    hagree.head
  exact (h hagree).mp (fun _ _ hframed hrow ↦ hframed.sameContent hrow) hhashed

/-! ### Plain rows -/

/-- A row whose texts have no separator, without the capability `None`, and with a time in the
spelling of the store. -/
structure Plain (lib : AuditLibrary) (row : AuditEvent) : Prop where
  separators : ∀ text ∈ row.texts, '|' ∉ text
  capability : row.capabilityId ≠ some "None"
  spelling : ∃ time, row.timestamp = lib.isoformat time

theorem Plain.sameFraming {lib : AuditLibrary} {row row' : AuditEvent} (h : Plain lib row)
    (h' : Plain lib row') : SameFraming lib row row' where
  separators := by
    have hzero : ∀ {row}, Plain lib row → row.separators = List.replicate 8 0 := fun hplain ↦
      List.eq_replicate_iff.mpr ⟨rfl, List.forall_mem_map.mpr fun text htext ↦
        List.count_eq_zero.mpr (hplain.separators text htext)⟩
    rw [hzero h, hzero h']
  capability _ := h'.capability
  capability' _ := h.capability
  spelling heq := by
    obtain ⟨time, htime⟩ := h.spelling
    obtain ⟨time', htime'⟩ := h'.spelling
    rw [htime, htime', lib.fromisoformat_isoformat, lib.fromisoformat_isoformat] at heq
    rw [htime, htime', Option.some.inj heq]

/-! ### A separator in a field -/

/-- A library with an injective digest in hexadecimal, for an instance. -/
def hexAudit : HexAuditLibrary where
  toMemoryLibrary := { latin1Memory with sha256 := hexDigest }
  fromisoformat text := intOfText text.toList
  fromisoformat_isoformat := intOfText_isoformat
  sha256_hexadecimal := hexDigest_hexadecimal

/-- A write to a partition by a requester of a tenant. -/
def writeBy (requester tenant : String) : Event :=
  ⟨"e", requester, tenant, "p", "WRITE", none, 0, "v2", "ALLOWED"⟩

def singleEvent (event : Event) : AuditTable where
  rows := [event.row hexAudit.toAuditLibrary "GENESIS-AUDIT"]
  nodup := List.nodup_singleton _

theorem agreeing_shifted : Agreeing hexAudit.toAuditLibrary (singleEvent (writeBy "a|b" "c"))
    (singleEvent (writeBy "a" "b|c")) where
  length := rfl
  verified := by decide +kernel
  verified' := by decide +kernel
  head := by decide +kernel

theorem not_tamperEvident_shifted : ¬ ∀ (lib : HexAuditLibrary), Function.Injective lib.sha256 →
    ∀ table table' : AuditTable, TamperEvident lib.toAuditLibrary table table' := by
  intro h
  have hrows := h hexAudit hexDigest_injective _ _ agreeing_shifted
  obtain ⟨hrow, -⟩ := List.forall₂_cons.mp hrows
  exact absurd hrow.requester (by decide)

theorem tamperEvident_iff_shifted :
    TamperEvident hexAudit.toAuditLibrary (singleEvent (writeBy "a|b" "c"))
        (singleEvent (writeBy "a" "b|c")) ↔
      (Agreeing hexAudit.toAuditLibrary (singleEvent (writeBy "a|b" "c"))
          (singleEvent (writeBy "a" "b|c")) →
        List.Forall₂ (SameFraming hexAudit.toAuditLibrary)
          (singleEvent (writeBy "a|b" "c")).rows (singleEvent (writeBy "a" "b|c")).rows) :=
  tamperEvident_iff hexDigest_injective _ _

end DriftGuardX.Memory
