import DriftGuardX.Foundation.KeyTable
import DriftGuardX.Isolation.Isolator
import DriftGuardX.Json.RoundTrip
import DriftGuardX.Recovery.Actions

/-!
# Span ingestion

A call of `ingest_spans` reduces its items to a dictionary by their span ids, in which the last item
with an id replaces the ones before it, and stores what is new. Whether a span is new is decided by
its tenant and its id, and the first one that is stored stays.

Ingesting a list twice changes nothing, whatever is ingested in between
(`ingestSpans_ingestSpans`). But the items that the dictionary drops are neither stored nor counted,
so how a list is divided into calls matters exactly when two of its items have the same span id
(`batchingIndependent_iff`).
-/

namespace DriftGuardX.Ingestion

open Json
open Isolation (Uuid)
open Recovery (Dict)

variable {V : Type}

/-- An item of a request. The values of attributes are of any kind. -/
structure SpanIngestItem (V : Type) where
  traceId : String
  spanId : String
  parentSpanId : Option String
  name : String
  kind : String
  startTime : ℤ
  endTime : Option ℤ
  statusCode : String
  attributes : Dict V
  runId : Uuid
  tenantId : Uuid
  pipelineId : Uuid

/-- A row of `span_records`: its columns that ingestion fills in, but for the id that is drawn. -/
structure SpanRecordORM (V : Type) where
  traceId : String
  spanId : String
  parentSpanId : Option String
  runId : Uuid
  tenantId : Uuid
  pipelineId : Uuid
  name : String
  kind : String
  startTime : ℤ
  endTime : Option ℤ
  statusCode : String
  attributesJson : Dict V
  componentType : Option V
  componentVersionId : Option Uuid
  componentVersionTag : Option V
  inputHash : Option V
  outputHash : Option V

/-- A row of `request_runs`. -/
structure RequestRunORM where
  id : Uuid
  tenantId : Uuid
  pipelineId : Uuid
  deriving DecidableEq, Repr

/-- What is done with the values of attributes, and which rows the columns of the table take. The
identifier of a value is that of its text, if it has one. -/
structure IngestionLibrary (V : Type) where
  truthy : V → Bool
  uuid : V → Option Uuid
  accepts : SpanRecordORM V → Bool

/-- The columns of `uq_span_records_tenant_span`. -/
def SpanRecordORM.key (row : SpanRecordORM V) : Uuid × String := (row.tenantId, row.spanId)

def SpanIngestItem.key (item : SpanIngestItem V) : Uuid × String := (item.tenantId, item.spanId)

structure Database (V : Type) where
  runs : List RequestRunORM
  spans : KeyTable (SpanRecordORM.key (V := V))

/-- The run of an item is one of its tenant and pipeline. -/
def Database.Scoped (db : Database V) (item : SpanIngestItem V) : Prop :=
  ∃ run ∈ db.runs, run.id = item.runId ∧ run.tenantId = item.tenantId ∧
    run.pipelineId = item.pipelineId

instance (db : Database V) (item : SpanIngestItem V) : Decidable (db.Scoped item) :=
  inferInstanceAs (Decidable (∃ _ ∈ _, _))

namespace SpanIngestItem

variable (lib : IngestionLibrary V)

/-- The row of an item before its component version is set. -/
def base (item : SpanIngestItem V) : SpanRecordORM V where
  traceId := item.traceId
  spanId := item.spanId
  parentSpanId := item.parentSpanId
  runId := item.runId
  tenantId := item.tenantId
  pipelineId := item.pipelineId
  name := item.name
  kind := item.kind
  startTime := item.startTime
  endTime := item.endTime
  statusCode := item.statusCode
  attributesJson := item.attributes
  componentType := item.attributes.get? "dgx.component.type"
  componentVersionId := none
  componentVersionTag := item.attributes.get? "dgx.component.version_tag"
  inputHash := item.attributes.get? "dgx.payload.input_hash"
  outputHash := item.attributes.get? "dgx.payload.output_hash"

/-- The row of an item, unless its component version is no identifier. -/
def record (item : SpanIngestItem V) : Option (SpanRecordORM V) :=
  match (item.attributes.get? "dgx.component.version_id").filter lib.truthy with
  | none => some item.base
  | some versionId => (lib.uuid versionId).map fun id ↦
      { item.base with componentVersionId := some id }

/-- The attributes of an item make a row that the table takes. -/
def WellFormed (item : SpanIngestItem V) : Prop := ∃ row ∈ item.record lib, lib.accepts row = true

theorem key_of_record {item : SpanIngestItem V} {row : SpanRecordORM V}
    (h : item.record lib = some row) : row.key = item.key := by
  rw [record] at h
  split at h
  · rw [← Option.some.inj h]
    rfl
  · obtain ⟨id, -, rfl⟩ := Option.map_eq_some_iff.mp h
    rfl

end SpanIngestItem

/-! ## A call -/

/-- What a call returns. -/
structure SpanIngestResponse where
  ingested : ℕ
  skipped : ℕ
  errors : List String
  deriving DecidableEq, Repr

section Ingest

variable (lib : IngestionLibrary V)

/-- Inserting a row, which may violate a constraint. -/
def Database.flush (db : Database V) (row : SpanRecordORM V) : Option (Database V) :=
  if lib.accepts row then
    if h : db.spans.get? row.key = none then some { db with spans := db.spans.insert row h }
    else none
  else none

/-- An item after the others of the call. The nested transaction of an item that is rejected leaves
nothing. -/
def ingestItem (state : Database V × SpanIngestResponse) (item : SpanIngestItem V) :
    Database V × SpanIngestResponse :=
  let (db, response) := state
  let rejected := (db, { response with
    skipped := response.skipped + 1
    errors := response.errors ++ [s!"span {item.spanId}: rejected"] })
  if ¬ db.Scoped item then rejected
  else if (db.spans.get? item.key).isSome then
    (db, { response with skipped := response.skipped + 1 })
  else
    match (item.record lib).bind (db.flush lib) with
    | none => rejected
    | some db => (db, { response with ingested := response.ingested + 1 })

/-- The last item with each span id, in the place of the first one. -/
def uniqueSpans (spans : List (SpanIngestItem V)) : List (SpanIngestItem V) :=
  (dictOf (spans.map fun s ↦ (s.spanId, s))).map Prod.snd

/-- `ingest_spans`. -/
def ingestSpans (db : Database V) (spans : List (SpanIngestItem V)) :
    Database V × SpanIngestResponse :=
  (uniqueSpans spans).foldl (ingestItem lib) (db, ⟨0, 0, []⟩)

end Ingest

/-! ## What an item does -/

section Items

variable {lib : IngestionLibrary V} {db : Database V} {response : SpanIngestResponse}
  {item : SpanIngestItem V} {spans : List (SpanIngestItem V)}

/-- Nothing is left to do for an item: it is out of scope, stored or malformed. -/
def Settled (lib : IngestionLibrary V) (db : Database V) (item : SpanIngestItem V) : Prop :=
  db.Scoped item → item.WellFormed lib → (db.spans.get? item.key).isSome

/-- A database with more spans. -/
structure Extends (db db' : Database V) : Prop where
  runs : db'.runs = db.runs
  spans : ∀ key, (db.spans.get? key).isSome → (db'.spans.get? key).isSome

theorem extends_refl (db : Database V) : Extends db db := ⟨rfl, fun _ h ↦ h⟩

theorem Extends.trans {db' db'' : Database V} (h : Extends db db') (h' : Extends db' db'') :
    Extends db db'' :=
  ⟨h'.runs.trans h.runs, fun key hkey ↦ h'.spans key (h.spans key hkey)⟩

theorem Settled.extends {db' : Database V} (h : Settled lib db item) (hext : Extends db db') :
    Settled lib db' item := by
  intro hscoped hwell
  rw [Database.Scoped, hext.runs] at hscoped
  exact hext.spans item.key (h hscoped hwell)

theorem flush_eq_some_iff {row : SpanRecordORM V} {db' : Database V} :
    db.flush lib row = some db' ↔ lib.accepts row = true ∧
      ∃ h : db.spans.get? row.key = none, { db with spans := db.spans.insert row h } = db' := by
  rw [Database.flush]
  split_ifs with haccepts hnew
  · rw [Option.some.injEq, and_iff_right haccepts]
    constructor
    · exact fun h ↦ ⟨hnew, h⟩
    · rintro ⟨_, h⟩
      exact h
  · refine iff_of_false (by simp) ?_
    rintro ⟨-, h, -⟩
    exact hnew h
  · exact iff_of_false (by simp) fun h ↦ haccepts h.1

theorem fst_ingestItem_of_settled (h : Settled lib db item) :
    (ingestItem lib (db, response) item).1 = db := by
  rw [ingestItem]
  split_ifs with hscoped hstored
  · rfl
  · -- the item is in scope and not stored, so its row is refused
    have hnone : (item.record lib).bind (db.flush lib) = none := by
      refine Option.eq_none_iff_forall_not_mem.mpr fun db' hdb' ↦ hstored ?_
      obtain ⟨row, hrow, hflush⟩ := Option.bind_eq_some_iff.mp hdb'
      exact h hscoped ⟨row, hrow, (flush_eq_some_iff.mp hflush).1⟩
    rw [hnone]
  · rfl

theorem ingestItem_settles (lib : IngestionLibrary V) (db : Database V)
    (response : SpanIngestResponse) (item : SpanIngestItem V) :
    Extends db (ingestItem lib (db, response) item).1 ∧
      Settled lib (ingestItem lib (db, response) item).1 item := by
  rw [ingestItem]
  split_ifs with hscoped hstored
  · exact ⟨extends_refl db, fun _ _ ↦ hstored⟩
  · split
    · next hnone =>
      refine ⟨extends_refl db, fun _ hwell ↦ absurd hnone ?_⟩
      obtain ⟨row, hrow, haccepts⟩ := hwell
      have hkey : db.spans.get? row.key = none := by
        rw [SpanIngestItem.key_of_record lib hrow]
        exact Option.not_isSome_iff_eq_none.mp hstored
      exact Option.ne_none_iff_exists'.mpr
        ⟨_, Option.bind_eq_some_iff.mpr ⟨row, hrow, flush_eq_some_iff.mpr ⟨haccepts, hkey, rfl⟩⟩⟩
    · next db' hdb' =>
      obtain ⟨row, hrow, hflush⟩ := Option.bind_eq_some_iff.mp hdb'
      obtain ⟨-, hnew, rfl⟩ := flush_eq_some_iff.mp hflush
      refine ⟨⟨rfl, fun key hkey ↦ ?_⟩, fun _ _ ↦ ?_⟩
      · dsimp only
        rw [KeyTable.get?_insert]
        split
        · rfl
        · exact hkey
      · dsimp only
        rw [KeyTable.get?_insert, if_pos (SpanIngestItem.key_of_record lib hrow).symm]
        rfl
  · exact ⟨extends_refl db, fun h ↦ absurd h hscoped⟩

variable (lib) in
theorem foldl_ingestItem_settles (spans : List (SpanIngestItem V))
    (state : Database V × SpanIngestResponse) :
    Extends state.1 (spans.foldl (ingestItem lib) state).1 ∧
      ∀ item ∈ spans, Settled lib (spans.foldl (ingestItem lib) state).1 item := by
  induction spans generalizing state with
  | nil => exact ⟨extends_refl state.1, fun item h ↦ absurd h List.not_mem_nil⟩
  | cons first spans ih =>
    obtain ⟨hfirst, hsettled⟩ := ingestItem_settles lib state.1 state.2 first
    obtain ⟨hrest, hall⟩ := ih (ingestItem lib state first)
    rw [List.foldl_cons]
    refine ⟨hfirst.trans hrest, fun item hmem ↦ ?_⟩
    rcases List.mem_cons.mp hmem with rfl | hmem
    · exact hsettled.extends hrest
    · exact hall item hmem

theorem fst_foldl_ingestItem_of_settled (state : Database V × SpanIngestResponse)
    (h : ∀ item ∈ spans, Settled lib state.1 item) :
    (spans.foldl (ingestItem lib) state).1 = state.1 := by
  induction spans generalizing state with
  | nil => rfl
  | cons first spans ih =>
    obtain ⟨hfirst, hrest⟩ := List.forall_mem_cons.mp h
    have hsame : (ingestItem lib state first).1 = state.1 := fst_ingestItem_of_settled hfirst
    rw [List.foldl_cons, ih _ (hsame.symm ▸ hrest), hsame]

/-- Each item is counted once. -/
theorem count_foldl_ingestItem (spans : List (SpanIngestItem V))
    (state : Database V × SpanIngestResponse) :
    (spans.foldl (ingestItem lib) state).2.ingested
        + (spans.foldl (ingestItem lib) state).2.skipped
      = state.2.ingested + state.2.skipped + spans.length := by
  induction spans generalizing state with
  | nil => rfl
  | cons first spans ih =>
    have hfirst : (ingestItem lib state first).2.ingested + (ingestItem lib state first).2.skipped
        = state.2.ingested + state.2.skipped + 1 := by
      rw [ingestItem]
      split_ifs
      · rfl
      · split
        · rfl
        · exact Nat.add_right_comm _ _ _
      · rfl
    rw [List.foldl_cons, ih, hfirst, List.length_cons]
    omega

theorem fst_foldl_ingestItem {state state' : Database V × SpanIngestResponse}
    (h : state.1 = state'.1) :
    (spans.foldl (ingestItem lib) state).1 = (spans.foldl (ingestItem lib) state').1 := by
  induction spans generalizing state state' with
  | nil => exact h
  | cons first spans ih =>
    obtain ⟨db, response⟩ := state
    obtain ⟨db', response'⟩ := state'
    obtain rfl : db = db' := h
    rw [List.foldl_cons, List.foldl_cons]
    apply ih
    rw [ingestItem, ingestItem]
    split_ifs
    · rfl
    · split <;> rfl
    · rfl

end Items

/-! ## Calls -/

section Calls

variable {lib : IngestionLibrary V} {db : Database V} {spans a b : List (SpanIngestItem V)}

theorem uniqueSpans_of_nodup (h : (spans.map SpanIngestItem.spanId).Nodup) :
    uniqueSpans spans = spans := by
  have hkeys : ((spans.map fun s ↦ (s.spanId, s)).map Prod.fst).Nodup := by
    rw [List.map_map]
    exact h
  rw [uniqueSpans, dictOf_eq_self hkeys, List.map_map]
  exact List.map_id spans

theorem nodup_of_length_uniqueSpans (h : (uniqueSpans spans).length = spans.length) :
    (spans.map SpanIngestItem.spanId).Nodup := by
  have hkeys : (spans.map fun s ↦ (s.spanId, s)).map Prod.fst
      = spans.map SpanIngestItem.spanId := List.map_map
  have hnodup := nodup_keys_dictOf (spans.map fun s ↦ (s.spanId, s))
  have hsubset : (dictOf (spans.map fun s ↦ (s.spanId, s))).map Prod.fst
      ⊆ spans.map SpanIngestItem.spanId := by
    intro key hkey
    obtain ⟨m, hm, rfl⟩ := List.mem_map.mp hkey
    rw [← hkeys]
    exact List.mem_map_of_mem (mem_of_mem_dictOf hm)
  refine ((hnodup.subperm hsubset).perm_of_length_le ?_).nodup_iff.mp hnodup
  rw [List.length_map, List.length_map, ← h, uniqueSpans, List.length_map]

theorem ingestSpans_extends (lib : IngestionLibrary V) (db : Database V)
    (spans : List (SpanIngestItem V)) : Extends db (ingestSpans lib db spans).1 :=
  (foldl_ingestItem_settles lib (uniqueSpans spans) (db, ⟨0, 0, []⟩)).1

/-- **Ingestion is idempotent**, whatever is ingested in between. -/
theorem ingestSpans_ingestSpans (spans between : List (SpanIngestItem V)) :
    (ingestSpans lib (ingestSpans lib (ingestSpans lib db spans).1 between).1 spans).1
      = (ingestSpans lib (ingestSpans lib db spans).1 between).1 := by
  refine fst_foldl_ingestItem_of_settled _ fun item hitem ↦ ?_
  have hsettled := (foldl_ingestItem_settles lib (uniqueSpans spans) (db, ⟨0, 0, []⟩)).2
  exact (hsettled item hitem).extends (ingestSpans_extends lib _ between)

theorem count_ingestSpans :
    (ingestSpans lib db spans).2.ingested + (ingestSpans lib db spans).2.skipped
      = (uniqueSpans spans).length :=
  (count_foldl_ingestItem (uniqueSpans spans) (db, ⟨0, 0, []⟩)).trans (Nat.zero_add _)

/-- Dividing a list into two calls changes nothing, no list changes anything when it is ingested
again, the items that are in scope and well formed are stored, and each item is counted. -/
structure BatchingIndependent (lib : IngestionLibrary V) (db : Database V)
    (a b : List (SpanIngestItem V)) : Prop where
  split : (ingestSpans lib db (a ++ b)).1.spans
    = (ingestSpans lib (ingestSpans lib db a).1 b).1.spans
  again : ∀ spans between : List (SpanIngestItem V),
    (ingestSpans lib (ingestSpans lib (ingestSpans lib db spans).1 between).1 spans).1
      = (ingestSpans lib (ingestSpans lib db spans).1 between).1
  stored : ∀ item ∈ a ++ b, db.Scoped item → item.WellFormed lib →
    ((ingestSpans lib db (a ++ b)).1.spans.get? item.key).isSome
  counted : (ingestSpans lib db (a ++ b)).2.ingested + (ingestSpans lib db (a ++ b)).2.skipped
    = (a ++ b).length

/-- How a list is divided into calls does not matter if and only if its span ids are distinct. -/
theorem batchingIndependent_iff (lib : IngestionLibrary V) (db : Database V)
    (a b : List (SpanIngestItem V)) :
    BatchingIndependent lib db a b ↔ ((a ++ b).map SpanIngestItem.spanId).Nodup := by
  constructor
  · intro h
    exact nodup_of_length_uniqueSpans (count_ingestSpans.symm.trans h.counted)
  · intro hnodup
    have hab : uniqueSpans (a ++ b) = a ++ b := uniqueSpans_of_nodup hnodup
    rw [List.map_append] at hnodup
    have ha : uniqueSpans a = a := uniqueSpans_of_nodup (List.nodup_append.mp hnodup).1
    have hb : uniqueSpans b = b := uniqueSpans_of_nodup (List.nodup_append.mp hnodup).2.1
    refine ⟨?_, fun spans between ↦ ingestSpans_ingestSpans spans between, ?_, ?_⟩
    · rw [ingestSpans, ingestSpans, ingestSpans, hab, ha, hb, List.foldl_append]
      exact congrArg Database.spans (fst_foldl_ingestItem rfl)
    · intro item hitem hscoped hwell
      have hsettled := foldl_ingestItem_settles lib (a ++ b) (db, ⟨0, 0, []⟩)
      have hruns : (ingestSpans lib db (a ++ b)).1.Scoped item := by
        rw [Database.Scoped, (ingestSpans_extends lib db (a ++ b)).runs]
        exact hscoped
      rw [ingestSpans, hab] at hruns ⊢
      exact hsettled.2 item hitem hruns hwell
    · rw [count_ingestSpans, hab]

end Calls

/-! ## An instance -/

/-- Attributes that are identifiers, in a table that takes every row. -/
def plainIngestion : IngestionLibrary Uuid where
  truthy _ := true
  uuid := some
  accepts _ := true

/-- A span of the only run. -/
def namedSpan (name : String) : SpanIngestItem Uuid where
  traceId := "0123456789abcdef0123456789abcdef"
  spanId := "0123456789abcdef"
  parentSpanId := none
  name
  kind := "INTERNAL"
  startTime := 0
  endTime := none
  statusCode := "UNSET"
  attributes := []
  runId := 3
  tenantId := 1
  pipelineId := 2

def oneRun : Database Uuid := ⟨[⟨3, 1, 2⟩], .empty⟩

/-- Two spans with one id: in one call the second is stored, in two calls the first. -/
theorem not_batchingIndependent_sameId :
    ¬ BatchingIndependent plainIngestion oneRun [namedSpan "first"] [namedSpan "second"] := by
  intro h
  have hnames : (ingestSpans plainIngestion oneRun
        ([namedSpan "first"] ++ [namedSpan "second"])).1.spans.rows.map SpanRecordORM.name
      = ["second"] := by decide +kernel
  have hnames' : (ingestSpans plainIngestion
        (ingestSpans plainIngestion oneRun [namedSpan "first"]).1
        [namedSpan "second"]).1.spans.rows.map SpanRecordORM.name = ["first"] := by decide +kernel
  rw [h.split, hnames'] at hnames
  exact absurd hnames (by decide)

end DriftGuardX.Ingestion
