import DriftGuardX.Memory.Store
import Mathlib.Data.List.Infix
import Mathlib.Logic.Function.Basic

/-!
# The chain of audit events

`_log_audit` reads the hash at the end of the audit table, and then inserts its event with that hash
as the predecessor. The transaction is only opened for the insertion, and the table accepts any
predecessor.

Any number of stores over one database file are interleaved here. A store holds its own lock during
a call, so it is in one call at a time; an `Action` is what it does to the audit table between two
points where the others may act, and a run is any list of actions. Reading a status or changing the
quarantine table leaves the audit table as it is.

No event is lost in any run, except to `clear`, which is for tests and removes them all. The chain
verifies in all states of a run exactly if every insertion finds the hash that its call has read
still at the end of the table (`InsertsAtHead`). The lock ensures this for one store, and nothing
ensures it for two.
-/

namespace DriftGuardX.Memory

open Json HashChain

/-- What the chain uses of libraries. The text of a time is read back; a text that is no time raises
a `ValueError`. -/
structure AuditLibrary extends MemoryLibrary where
  fromisoformat : String → Option ℤ
  fromisoformat_isoformat : ∀ time, fromisoformat (isoformat time) = some time

/-- An `AuditEvent` as a call makes it, without a hash. -/
structure Event where
  eventId : String
  requester : String
  tenant : String
  partition : String
  action : String
  capabilityId : Option String
  timestamp : ℤ
  policyVersion : String
  result : String
  deriving DecidableEq, Repr

variable (lib : AuditLibrary)

/-- The row of an event after a row with the given hash. -/
def Event.row (event : Event) (previousHash : String) : AuditEvent :=
  let row : AuditEvent := {
    eventId := event.eventId
    requester := event.requester
    tenant := event.tenant
    partition := event.partition
    action := event.action
    capabilityId := event.capabilityId
    timestamp := lib.isoformat event.timestamp
    policyVersion := event.policyVersion
    result := event.result
    eventHash := ""
    previousHash }
  { row with eventHash := hashAuditEvent lib.toMemoryLibrary row previousHash }

theorem Event.previousHash_row (event : Event) (previousHash : String) :
    (event.row lib previousHash).previousHash = previousHash := rfl

abbrev AuditTable := KeyTable AuditEvent.eventId

namespace AuditTable

/-- `SELECT event_hash FROM access_audit ORDER BY rowid DESC LIMIT 1`. -/
def head (table : AuditTable) : String :=
  headHash AuditEvent.eventHash "GENESIS-AUDIT" table.rows

end AuditTable

/-! ## Verifying -/

/-- The loop of `verify_audit_chain`, from the rows that are left. -/
def verifyFrom : String → List AuditEvent → Option Bool
  | _, [] => some true
  | expectedPrev, row :: rows => do
    if row.previousHash ≠ expectedPrev then return false
    let timestamp ← lib.fromisoformat row.timestamp
    let event : AuditEvent := { row with timestamp := lib.isoformat timestamp }
    let expectedHash := hashAuditEvent lib.toMemoryLibrary event expectedPrev
    if expectedHash ≠ row.eventHash then return false
    verifyFrom row.eventHash rows

/-- `verify_audit_chain`, unless it raises. -/
def verifyAuditChain (table : AuditTable) : Option Bool :=
  verifyFrom lib "GENESIS-AUDIT" table.rows

/-- The row of an event. -/
def Sealed (row : AuditEvent) : Prop :=
  ∃ (event : Event) (previousHash : String), row = event.row lib previousHash

/-- Every row names the hash of the row before it. -/
abbrev Linked (previousHash : String) (rows : List AuditEvent) : Prop :=
  Chained (fun _ previousHash row ↦ row.previousHash = previousHash) AuditEvent.eventHash 0
    previousHash rows

section Verifying

variable {lib} {rows : List AuditEvent} {previousHash : String}

theorem verifyFrom_sealed (event : Event) :
    verifyFrom lib previousHash (event.row lib previousHash :: rows)
      = verifyFrom lib (event.row lib previousHash).eventHash rows := by
  have htime : lib.fromisoformat (event.row lib previousHash).timestamp = some event.timestamp :=
    lib.fromisoformat_isoformat event.timestamp
  rw [verifyFrom, Event.previousHash_row, if_neg (not_not.mpr rfl)]
  dsimp only
  rw [htime]
  exact if_neg (not_not.mpr rfl)

theorem verifyFrom_of_ne {row : AuditEvent} (h : row.previousHash ≠ previousHash) :
    verifyFrom lib previousHash (row :: rows) = some false := by
  rw [verifyFrom, if_pos h]
  rfl

theorem verifyFrom_eq_some_true_iff {n : ℕ} (hrows : ∀ row ∈ rows, Sealed lib row) :
    verifyFrom lib previousHash rows = some true ↔
      Chained (fun _ previousHash row ↦ row.previousHash = previousHash) AuditEvent.eventHash n
        previousHash rows := by
  induction rows generalizing n previousHash with
  | nil => exact ⟨fun _ ↦ trivial, fun _ ↦ rfl⟩
  | cons row rows ih =>
    obtain ⟨⟨event, previousHash', rfl⟩, hrest⟩ := List.forall_mem_cons.mp hrows
    by_cases hprev : previousHash' = previousHash
    · subst hprev
      rw [verifyFrom_sealed, ih hrest]
      exact ⟨fun h ↦ ⟨rfl, h⟩, fun h ↦ h.2⟩
    · have hfalse : verifyFrom lib previousHash (event.row lib previousHash' :: rows)
          = some false := verifyFrom_of_ne hprev
      rw [hfalse]
      exact ⟨fun h ↦ absurd (Option.some.inj h) (by decide), fun h ↦ absurd h.1 hprev⟩

end Verifying

/-! ## Interleavings -/

/-- Where a store is between two actions. -/
inductive Task where
  | idle
  /-- In `_log_audit`, with the row to insert. -/
  | inserting (row : AuditEvent)
  deriving DecidableEq, Repr

/-- What a store does to the audit table. Stores have numbers. -/
inductive Action where
  | select (store : ℕ) (event : Event)
  | insert (store : ℕ)
  /-- The process ends in a call, or the database raises. -/
  | abort (store : ℕ)
  | clear (store : ℕ)
  deriving DecidableEq, Repr

structure World where
  accessAudit : AuditTable
  tasks : ℕ → Task
  /-- What has been logged by calls that returned, since the table was last cleared. -/
  logged : List AuditEvent

namespace World

/-- An empty database, and no store in a call. -/
def initial : World := ⟨.empty, fun _ ↦ .idle, []⟩

def setTask (w : World) (store : ℕ) (task : Task) : World :=
  { w with tasks := Function.update w.tasks store task }

/-- `INSERT INTO access_audit`, which refuses an id that is in use. -/
def insert (w : World) (row : AuditEvent) : World :=
  if h : w.accessAudit.get? row.eventId = none then
    { w with accessAudit := w.accessAudit.insert row h, logged := w.logged ++ [row] }
  else w

end World

/-- One action; one that the store is not ready for does nothing. -/
def step (action : Action) (w : World) : World :=
  match action with
  | .select store event =>
    match w.tasks store with
    | .idle => w.setTask store (.inserting (event.row lib w.accessAudit.head))
    | .inserting _ => w
  | .insert store =>
    match w.tasks store with
    | .idle => w
    | .inserting row => (w.insert row).setTask store .idle
  | .abort store => w.setTask store .idle
  | .clear store =>
    match w.tasks store with
    | .idle => { w with accessAudit := .empty, logged := [] }
    | .inserting _ => w

def Action.store : Action → ℕ
  | .select store _ | .insert store | .abort store | .clear store => store

/-- The world after a run of actions. -/
def run (actions : List Action) : World := actions.foldl (fun w action ↦ step lib action w) .initial

section Runs

variable {lib} {w : World} {store other : ℕ} {row : AuditEvent} {action : Action}
  {actions : List Action}

theorem World.tasks_setTask (w : World) (store other : ℕ) (task : Task) :
    (w.setTask store task).tasks other = if other = store then task else w.tasks other :=
  Function.update_apply w.tasks store task other

theorem World.tasks_insert (w : World) (row : AuditEvent) : (w.insert row).tasks = w.tasks := by
  rw [insert]
  split
  · rfl
  · rfl

/-- What an insertion does to the table. -/
theorem World.insert_cases (w : World) (row : AuditEvent) :
    w.accessAudit.get? row.eventId = none ∧
        (w.insert row).accessAudit.rows = w.accessAudit.rows ++ [row] ∧
        (w.insert row).logged = w.logged ++ [row] ∨
      w.accessAudit.get? row.eventId ≠ none ∧ w.insert row = w := by
  by_cases h : w.accessAudit.get? row.eventId = none
  · refine .inl ⟨h, ?_⟩
    rw [insert, dif_pos h]
    exact ⟨rfl, rfl⟩
  · exact .inr ⟨h, dif_neg h⟩

theorem run_append_singleton (actions : List Action) (action : Action) :
    run lib (actions ++ [action]) = step lib action (run lib actions) := by
  rw [run, run, List.foldl_append, List.foldl_cons, List.foldl_nil]

/-! ## Every run -/

variable (lib) in
/-- The rows are those of events, and no event is lost. -/
structure Honest (w : World) : Prop where
  sealed : ∀ row ∈ w.accessAudit.rows, Sealed lib row
  inserting : ∀ {store row}, w.tasks store = .inserting row → Sealed lib row
  logged : w.logged = w.accessAudit.rows

theorem Honest.setTask (h : Honest lib w) (store : ℕ) (task : Task)
    (htask : ∀ row, task = .inserting row → Sealed lib row) :
    Honest lib (w.setTask store task) := by
  refine ⟨h.sealed, fun {other row} ho ↦ ?_, h.logged⟩
  rw [World.tasks_setTask] at ho
  split at ho
  · exact htask row ho
  · exact h.inserting ho

theorem Honest.insert (h : Honest lib w) (hrow : Sealed lib row) : Honest lib (w.insert row) := by
  obtain ⟨-, hrows, hlogged⟩ | ⟨-, hsame⟩ := w.insert_cases row
  · refine ⟨fun row' hmem ↦ ?_, fun ho ↦ h.inserting (w.tasks_insert row ▸ ho), ?_⟩
    · rw [hrows] at hmem
      rcases List.mem_append.mp hmem with hmem | hmem
      · exact h.sealed row' hmem
      · exact List.mem_singleton.mp hmem ▸ hrow
    · rw [hrows, hlogged, h.logged]
  · rw [hsame]
    exact h

/-- **One action** of a store. -/
theorem honest_step (h : Honest lib w) (action : Action) : Honest lib (step lib action w) := by
  cases action with
  | select store event =>
    simp only [step]
    split
    · refine h.setTask store _ fun row hrow ↦ ?_
      obtain rfl := Task.inserting.inj hrow
      exact ⟨event, _, rfl⟩
    · exact h
  | insert store =>
    simp only [step]
    split
    · exact h
    · rename_i row htask
      exact (h.insert (h.inserting htask)).setTask store .idle fun _ ht ↦ nomatch ht
  | abort store => exact h.setTask store .idle fun _ ht ↦ nomatch ht
  | clear store =>
    simp only [step]
    split
    · exact ⟨fun _ hmem ↦ absurd hmem List.not_mem_nil, h.inserting, rfl⟩
    · exact h

variable (lib) in
theorem honest_run (actions : List Action) : Honest lib (run lib actions) := by
  induction actions using List.reverseRecOn with
  | nil => exact ⟨fun _ hmem ↦ absurd hmem List.not_mem_nil, (fun ht ↦ nomatch ht), rfl⟩
  | append_singleton actions action ih =>
    rw [run_append_singleton]
    exact honest_step ih action

/-! ## Runs in which the chain verifies -/

variable (lib) in
/-- The chain verifies, and every event that was logged is in the table. -/
def Survives (w : World) : Prop :=
  verifyAuditChain lib w.accessAudit = some true ∧ ∀ row ∈ w.logged, row ∈ w.accessAudit.rows

/-- When the action is an insertion that the table accepts, the table still ends with the row that
its call has read. -/
def InsertsAtHead (action : Action) (w : World) : Prop :=
  ∀ store row, action = .insert store → w.tasks store = .inserting row →
    w.accessAudit.get? row.eventId = none → row.previousHash = w.accessAudit.head

theorem Honest.survives_iff_linked (h : Honest lib w) :
    Survives lib w ↔ Linked "GENESIS-AUDIT" w.accessAudit.rows := by
  rw [Survives, verifyAuditChain, verifyFrom_eq_some_true_iff (n := 0) h.sealed, h.logged]
  exact and_iff_left fun _ hmem ↦ hmem

theorem linked_insert (hlinked : Linked "GENESIS-AUDIT" w.accessAudit.rows) :
    Linked "GENESIS-AUDIT" (w.insert row).accessAudit.rows ↔
      (w.accessAudit.get? row.eventId = none → row.previousHash = w.accessAudit.head) := by
  obtain ⟨hnew, hrows, -⟩ | ⟨hused, hsame⟩ := w.insert_cases row
  · rw [hrows, Linked, chained_append_singleton]
    exact ⟨fun h _ ↦ h.2, fun h ↦ ⟨hlinked, h hnew⟩⟩
  · rw [hsame]
    exact ⟨fun _ hnew ↦ absurd hnew hused, fun _ ↦ hlinked⟩

/-- **One action** keeps the rows linked exactly if an insertion is made at the head. -/
theorem linked_step_iff (hlinked : Linked "GENESIS-AUDIT" w.accessAudit.rows) :
    Linked "GENESIS-AUDIT" (step lib action w).accessAudit.rows ↔ InsertsAtHead action w := by
  cases action with
  | select store event =>
    have hrows : (step lib (.select store event) w).accessAudit = w.accessAudit := by
      simp only [step]
      split <;> rfl
    rw [hrows]
    exact ⟨fun _ _ _ ha ↦ (nomatch ha), fun _ ↦ hlinked⟩
  | insert store =>
    simp only [step]
    split
    · rename_i hidle
      refine ⟨fun _ store' row' ha ht ↦ ?_, fun _ ↦ hlinked⟩
      obtain rfl := Action.insert.inj ha
      rw [hidle] at ht
      exact nomatch ht
    · rename_i row htask
      refine (linked_insert hlinked).trans ⟨fun h store' row' ha ht ↦ ?_, fun h ↦ ?_⟩
      · obtain rfl := Action.insert.inj ha
        obtain rfl := Task.inserting.inj (htask.symm.trans ht)
        exact h
      · exact h store row rfl htask
  | abort store => exact ⟨fun _ _ _ ha ↦ (nomatch ha), fun _ ↦ hlinked⟩
  | clear store =>
    refine ⟨fun _ _ _ ha ↦ (nomatch ha), fun _ ↦ ?_⟩
    simp only [step]
    split
    · exact trivial
    · exact hlinked

/-! ## One store -/

/-- The store has read the row at the end of the table. -/
def Current (store : ℕ) (w : World) : Prop :=
  ∀ row, w.tasks store = .inserting row → row.previousHash = w.accessAudit.head

theorem current_of_idle (h : w.tasks store = .idle) : Current store w := by
  intro row hrow
  rw [h] at hrow
  exact nomatch hrow

theorem World.tasks_setTask_idle (w : World) (store : ℕ) :
    (w.setTask store .idle).tasks store = .idle := by
  rw [tasks_setTask, if_pos rfl]

theorem Current.insertsAtHead (h : Current action.store w) : InsertsAtHead action w := by
  rintro store row rfl htask -
  exact h row htask

theorem current_step (h : Current action.store w) : Current action.store (step lib action w) := by
  cases action with
  | select store event =>
    simp only [step]
    split
    · intro row hrow
      rw [World.tasks_setTask, if_pos (show (Action.select store event).store = store from rfl)]
        at hrow
      obtain rfl := Task.inserting.inj hrow
      rfl
    · exact h
  | insert store =>
    simp only [step]
    split
    · exact h
    · exact current_of_idle (World.tasks_setTask_idle _ store)
  | abort store => exact current_of_idle (World.tasks_setTask_idle w store)
  | clear store =>
    simp only [step]
    split
    · rename_i hidle
      exact current_of_idle hidle
    · exact h

/-- **One store** alone keeps the chain, in every run. -/
theorem survives_run_of_one_store (h : ∀ action ∈ actions, action.store = store) :
    Survives lib (run lib actions) := by
  have hrun : Linked "GENESIS-AUDIT" (run lib actions).accessAudit.rows ∧
      Current store (run lib actions) := by
    induction actions using List.reverseRecOn with
    | nil => exact ⟨trivial, current_of_idle rfl⟩
    | append_singleton actions action ih =>
      obtain ⟨hlinked, hcurrent⟩ := ih fun a ha ↦ h a (List.mem_append_left _ ha)
      obtain rfl := h action (by simp)
      rw [run_append_singleton]
      exact ⟨(linked_step_iff hlinked).mpr hcurrent.insertsAtHead, current_step hcurrent⟩
  exact (honest_run lib actions).survives_iff_linked.mpr hrun.1

/-! ## A call without interruption -/

/-! ## Several stores -/

/-- **The audit chain survives a run**, in all of its states, exactly if every insertion is made at
the head. -/
theorem survives_run_iff (lib : AuditLibrary) (actions : List Action) :
    (∀ pre, pre <+: actions → Survives lib (run lib pre)) ↔
      ∀ pre action, pre ++ [action] <+: actions → InsertsAtHead action (run lib pre) := by
  have hsurvives : ∀ pre, Survives lib (run lib pre) ↔
      Linked "GENESIS-AUDIT" (run lib pre).accessAudit.rows :=
    fun pre ↦ (honest_run lib pre).survives_iff_linked
  simp only [hsurvives]
  constructor
  · intro h pre action hpre
    have hlinked := h pre ((List.prefix_append pre [action]).trans hpre)
    have hnext := h _ hpre
    rw [run_append_singleton] at hnext
    exact (linked_step_iff hlinked).mp hnext
  · intro h pre
    induction pre using List.reverseRecOn with
    | nil => exact fun _ ↦ trivial
    | append_singleton pre action ih =>
      intro hpre
      have hlinked := ih ((List.prefix_append pre [action]).trans hpre)
      rw [run_append_singleton, linked_step_iff hlinked]
      exact h pre action hpre

end Runs

/-! ### Two stores -/

theorem intOfText_isoformat (time : ℤ) :
    intOfText (latin1Memory.isoformat time).toList = some time :=
  (congrArg intOfText String.toList_ofList).trans (intOfText_intText time)

/-- A library that writes bytes as characters, for an instance. -/
def latin1Audit : AuditLibrary where
  toMemoryLibrary := latin1Memory
  fromisoformat text := intOfText text.toList
  fromisoformat_isoformat := intOfText_isoformat

def writeEvent (eventId : String) : Event :=
  ⟨eventId, "r", "t", "t_p", "WRITE", none, 0, "v2", "ALLOWED"⟩

/-- Two stores read the end of the table before either inserts its event. -/
def twoStores : List Action :=
  [.select 0 (writeEvent "a"), .select 1 (writeEvent "b"), .insert 0, .insert 1]

/-- Both events are logged, and the chain no longer verifies. -/
theorem not_survives_twoStores :
    verifyAuditChain latin1Audit (run latin1Audit twoStores).accessAudit = some false ∧
      ¬ Survives latin1Audit (run latin1Audit twoStores) := by
  have h : verifyAuditChain latin1Audit (run latin1Audit twoStores).accessAudit = some false := by
    decide +kernel
  refine ⟨h, fun hsurvives ↦ ?_⟩
  rw [Survives, h] at hsurvives
  exact absurd (Option.some.inj hsurvives.1) (by decide)

/-- One store logs both events and keeps the chain. -/
theorem survives_run_of_one_store_twice : Survives latin1Audit (run latin1Audit
    [.select 0 (writeEvent "a"), .insert 0, .select 0 (writeEvent "b"), .insert 0]) := by
  have hstore : ∀ action ∈ [Action.select 0 (writeEvent "a"), .insert 0,
      .select 0 (writeEvent "b"), .insert 0], action.store = 0 := by decide
  exact survives_run_of_one_store hstore

end DriftGuardX.Memory
