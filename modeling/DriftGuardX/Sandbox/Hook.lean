import DriftGuardX.Foundation.Program
import Mathlib.Data.List.Infix
import Mathlib.Logic.Function.Basic

/-!
# The sandbox of a replay

A function runs in a process of its own, under an audit hook. The interpreter calls the hook before
an operation that it audits; the hook lets it pass or raises, and before it raises it may stage the
operation for later. What the function does when the hook raises is up to the function, which may
catch the exception and go on. With the isolator, calls through three names are not made at all and
go to a data sink instead.

The hook keeps what it needs in variables of the thread: a thread that the function starts has none,
so its operations are judged by the default policy, and what is staged there stays there. The function
itself leaves these variables alone.

What a path resolves to may change between two operations, when a function changes its directory or
makes a link. So an operation comes with what the paths resolve to when the hook is called for it.

For every function, what was performed is what is permitted of what was tried, and the staged
actions of the main thread are those of the refused operations, in order (`performed_and_staged`).
-/

namespace DriftGuardX.Sandbox

/-! ## The hook -/

/-- What the hook reads of a policy. -/
structure SandboxPolicy where
  allowedReadRoots : List String
  allowedWriteRoots : List String
  allowSubprocess : Bool
  allowNetwork : Bool

def SandboxPolicy.default : SandboxPolicy := ⟨[], [], false, false⟩

/-- The parts of a path, symbolic links followed; nothing when this raises. -/
abbrev Resolve := String → Option (List String)

/-- An audited operation: its name and the text of its arguments. For `open`, also the text of the
file name, and the mode when that is a string; `os.open` has none. The file name and the roots of
the policy are resolved when the hook is called. -/
structure AuditEvent where
  event : String
  args : String
  filename : String
  mode : Option String
  path : Option (List String)
  roots : Resolve

structure StagedAction where
  traceId : String
  type : String
  payload : List (String × String)
  deriving DecidableEq

structure AtomicExecutionBudget where
  maxNetworkCalls : ℕ
  networkCallsUsed : ℕ

inductive HookError where
  | sandboxViolation (message : String)
  | executionBudgetExceeded (message : String)
  deriving DecidableEq

/-- `sandbox_local` of one thread. -/
structure Locals where
  traceId : Option String
  stagedActions : List StagedAction
  budget : Option AtomicExecutionBudget
  policy : Option SandboxPolicy

/-- The variables of a thread that set none. -/
def Locals.fresh : Locals := ⟨none, [], none, none⟩

abbrev Hook := Program Locals HookError Unit

def underSomeRoot (resolve : Resolve) (path : List String) : List String → Bool
  | [] => false
  | root :: roots =>
    match resolve root with
    | none => false
    | some rootPath => rootPath.isPrefixOf path || underSomeRoot resolve path roots

/-- `_is_path_within`, for the file that is opened. -/
def isPathWithin (e : AuditEvent) (allowedRoots : List String) : Bool :=
  match e.path with
  | none => false
  | some path => underSomeRoot e.roots path allowedRoots

def reserveNetworkCall (budget : AtomicExecutionBudget) :
    Except HookError AtomicExecutionBudget :=
  if budget.maxNetworkCalls ≤ budget.networkCallsUsed then
    .error (.executionBudgetExceeded
      ("Network call budget exceeded (" ++ toString budget.maxNetworkCalls ++ ")."))
  else .ok { budget with networkCallsUsed := budget.networkCallsUsed + 1 }

namespace Locals

def trace (s : Locals) : String := s.traceId.getD "unknown_trace"

def activePolicy (s : Locals) : SandboxPolicy := s.policy.getD .default

/-- Staging one more action. -/
def stage (s : Locals) (type : String) (payload : List (String × String)) : Locals :=
  { s with stagedActions := s.stagedActions ++ [⟨s.trace, type, payload⟩] }

end Locals

/-- Staging an operation and raising. -/
def block (type : String) (payload : List (String × String)) (message : String) : Hook := do
  Program.modify fun s ↦ s.stage type payload
  Program.raise (.sandboxViolation message)

namespace AuditEvent

variable (e : AuditEvent)

def isNetwork : Bool := "socket.".toList.isPrefixOf e.event.toList

def isWriteMode (mode : String) : Bool := ['w', 'a', 'x', '+'].any fun m ↦ mode.toList.contains m

def isReadMode (mode : String) : Bool := mode.toList.contains 'r'

def isSpawn : Bool :=
  ["os.fork", "os.forkpty", "os.spawn", "os.exec", "os.posix_spawn"].contains e.event

def isShell : Bool := "subprocess.".toList.isPrefixOf e.event.toList || e.event == "os.system"

end AuditEvent

def networkCheck (e : AuditEvent) : Hook := do
  let s ← Program.get
  if e.isNetwork then
    if s.activePolicy.allowNetwork then
      match s.budget with
      | none => pure ()
      | some budget => do
        let budget ← Program.ofExcept (reserveNetworkCall budget)
        Program.modify fun s ↦ { s with budget := some budget }
    else
      block "NETWORK_CALL" [("event", e.event), ("args", e.args)]
        ("Network access staged and blocked in sandbox: " ++ e.event ++ " " ++ e.args)
  else pure ()

def openCheck (e : AuditEvent) : Hook := do
  let s ← Program.get
  if e.event = "open" then
    match e.mode with
    | none => pure ()
    | some mode =>
      if AuditEvent.isWriteMode mode then
        if isPathWithin e s.activePolicy.allowedWriteRoots then pure ()
        else
          block "FILE_WRITE" [("filename", e.filename), ("mode", mode)]
            ("File write staged and blocked in sandbox: " ++ e.filename)
      else if AuditEvent.isReadMode mode then
        if isPathWithin e s.activePolicy.allowedReadRoots then pure ()
        else
          Program.raise (.sandboxViolation
            ("File read outside allowed directory blocked in sandbox: " ++ e.filename))
      else pure ()
  else pure ()

def spawnCheck (e : AuditEvent) : Hook :=
  if e.isSpawn then
    block "PROCESS_SPAWN" [("event", e.event)]
      ("Process spawning staged and blocked in sandbox: " ++ e.event)
  else pure ()

def shellCheck (e : AuditEvent) : Hook := do
  let s ← Program.get
  if e.isShell then
    if s.activePolicy.allowSubprocess then pure ()
    else
      block "SHELL_EXEC" [("event", e.event), ("command", e.args)]
        ("Shell execution staged and blocked in sandbox: " ++ e.event)
  else pure ()

def killCheck (e : AuditEvent) : Hook :=
  if e.event = "os.kill" then
    Program.raise (.sandboxViolation "Process signaling (os.kill) blocked in sandbox.")
  else pure ()

/-- `_sandbox_audit_hook`. -/
def sandboxAuditHook (e : AuditEvent) : Hook := do
  networkCheck e
  openCheck e
  spawnCheck e
  shellCheck e
  killCheck e

/-! ## Functions -/

/-- An entry of the data sink. -/
structure SinkEntry where
  type : String
  payload : List (String × String)
  deriving DecidableEq

/-- A call through a name that the isolator replaces: what its substitute records, and the operation
as which the call itself is audited; some calls, such as `send` of a socket, are not. -/
structure IsolatedCall where
  record : Option SinkEntry
  audit : Option AuditEvent

inductive Action where
  | audited (e : AuditEvent)
  | isolated (call : IsolatedCall)

/-- How a function ends when it raises: with an exception that the wrapper reports, or another. -/
inductive Raised where
  | reported (message : String)
  | other
  deriving DecidableEq

/-- A function, in the world it is run in: what it does in some thread, and how it goes on when the
hook let that pass or raised. -/
inductive Func (R : Type) where
  | returns (result : R)
  | raises (error : Raised)
  | act (thread : ℕ) (action : Action) (next : Option HookError → Func R)

/-- The process: the variables of its threads, the operations that were tried and those that were
performed, each with its thread, and the data sink. -/
structure Child where
  locals : ℕ → Locals
  tried : List (ℕ × AuditEvent)
  performed : List (ℕ × AuditEvent)
  sink : List SinkEntry

namespace Child

variable (arc : Bool)

/-- An operation that is audited. -/
def audited (thread : ℕ) (e : AuditEvent) (c : Child) : Option HookError × Child :=
  match sandboxAuditHook e (c.locals thread) with
  | (.ok _, s) =>
    (none, { c with
      locals := Function.update c.locals thread s
      tried := c.tried ++ [(thread, e)]
      performed := c.performed ++ [(thread, e)] })
  | (.error err, s) =>
    (some err, { c with
      locals := Function.update c.locals thread s
      tried := c.tried ++ [(thread, e)] })

def act (thread : ℕ) : Action → Child → Option HookError × Child
  | .audited e, c => c.audited thread e
  | .isolated call, c =>
    if arc then (none, { c with sink := c.sink ++ call.record.toList })
    else
      match call.audit with
      | none => (none, c)
      | some e => c.audited thread e

end Child

variable {R : Type}

/-- Running a function. -/
def Func.exec (arc : Bool) : Func R → Child → Except Raised R × Child
  | .returns result, c => (.ok result, c)
  | .raises error, c => (.error error, c)
  | .act thread action next, c =>
    let done := c.act arc thread action
    (next done.1).exec arc done.2

/-! ## What is permitted -/

/-- The operation may be performed under a policy that allows neither the network nor subprocesses.
-/
structure Permitted (policy : SandboxPolicy) (e : AuditEvent) : Prop where
  network : e.isNetwork = false
  spawn : e.isSpawn = false
  shell : e.isShell = false
  kill : e.event ≠ "os.kill"
  write : e.event = "open" → ∀ mode ∈ e.mode, AuditEvent.isWriteMode mode = true →
    isPathWithin e policy.allowedWriteRoots = true
  read : e.event = "open" → ∀ mode ∈ e.mode, AuditEvent.isWriteMode mode = false →
    AuditEvent.isReadMode mode = true →
    isPathWithin e policy.allowedReadRoots = true

theorem permitted_iff {policy : SandboxPolicy} {e : AuditEvent} :
    Permitted policy e ↔
      e.isNetwork = false ∧ e.isSpawn = false ∧ e.isShell = false ∧ e.event ≠ "os.kill" ∧
        (e.event = "open" → ∀ mode ∈ e.mode, AuditEvent.isWriteMode mode = true →
          isPathWithin e policy.allowedWriteRoots = true) ∧
        (e.event = "open" → ∀ mode ∈ e.mode, AuditEvent.isWriteMode mode = false →
          AuditEvent.isReadMode mode = true →
          isPathWithin e policy.allowedReadRoots = true) :=
  ⟨fun h ↦ ⟨h.network, h.spawn, h.shell, h.kill, h.write, h.read⟩,
    fun ⟨h1, h2, h3, h4, h5, h6⟩ ↦ ⟨h1, h2, h3, h4, h5, h6⟩⟩

instance (policy : SandboxPolicy) (e : AuditEvent) :
    Decidable (Permitted policy e) := decidable_of_iff _ permitted_iff.symm

/-- What is staged of an operation that is refused. -/
def staging (traceId : String) (e : AuditEvent) : Option StagedAction :=
  if e.isNetwork then
    some ⟨traceId, "NETWORK_CALL", [("event", e.event), ("args", e.args)]⟩
  else if e.event = "open" then
    e.mode.bind fun mode ↦
      if AuditEvent.isWriteMode mode then
        some ⟨traceId, "FILE_WRITE", [("filename", e.filename), ("mode", mode)]⟩
      else none
  else if e.isSpawn then some ⟨traceId, "PROCESS_SPAWN", [("event", e.event)]⟩
  else if e.isShell then
    some ⟨traceId, "SHELL_EXEC", [("event", e.event), ("command", e.args)]⟩
  else none

/-! ## One operation -/

section Hook

variable {e : AuditEvent} {s : Locals}

theorem block_apply (type : String) (payload : List (String × String)) (message : String) :
    block type payload message s = (.error (.sandboxViolation message), s.stage type payload) := rfl

theorem networkCheck_of_not (h : e.isNetwork = false) : networkCheck e s = (.ok (), s) := by
  rw [networkCheck, Program.bind_of_ok Program.get_apply, h, if_neg Bool.false_ne_true]
  rfl

theorem networkCheck_of_network (h : e.isNetwork = true)
    (hpolicy : s.activePolicy.allowNetwork = false) :
    networkCheck e s = (.error (.sandboxViolation
        ("Network access staged and blocked in sandbox: " ++ e.event ++ " " ++ e.args)),
      s.stage "NETWORK_CALL" [("event", e.event), ("args", e.args)]) := by
  rw [networkCheck, Program.bind_of_ok Program.get_apply, h, if_pos rfl, hpolicy,
    if_neg Bool.false_ne_true, block_apply]

theorem openCheck_of_not (h : e.event ≠ "open") : openCheck e s = (.ok (), s) := by
  rw [openCheck, Program.bind_of_ok Program.get_apply, if_neg h]
  rfl

/-- What is checked when a file is opened. -/
theorem openCheck_of_open (h : e.event = "open") : openCheck e s =
    match e.mode with
    | none => (.ok (), s)
    | some mode =>
      if AuditEvent.isWriteMode mode then
        if isPathWithin e s.activePolicy.allowedWriteRoots then (.ok (), s)
        else (.error (.sandboxViolation ("File write staged and blocked in sandbox: " ++ e.filename)),
          s.stage "FILE_WRITE" [("filename", e.filename), ("mode", mode)])
      else if AuditEvent.isReadMode mode then
        if isPathWithin e s.activePolicy.allowedReadRoots then (.ok (), s)
        else (.error (.sandboxViolation
          ("File read outside allowed directory blocked in sandbox: " ++ e.filename)), s)
      else (.ok (), s) := by
  rw [openCheck, Program.bind_of_ok Program.get_apply, if_pos h]
  cases e.mode with
  | none => rfl
  | some mode =>
    dsimp only
    split_ifs <;> rfl

theorem spawnCheck_of_not (h : e.isSpawn = false) : spawnCheck e s = (.ok (), s) := by
  rw [spawnCheck, h, if_neg Bool.false_ne_true]
  rfl

theorem spawnCheck_of_spawn (h : e.isSpawn = true) :
    spawnCheck e s = (.error (.sandboxViolation
        ("Process spawning staged and blocked in sandbox: " ++ e.event)),
      s.stage "PROCESS_SPAWN" [("event", e.event)]) := by
  rw [spawnCheck, h, if_pos rfl, block_apply]

theorem shellCheck_of_not (h : e.isShell = false) : shellCheck e s = (.ok (), s) := by
  rw [shellCheck, Program.bind_of_ok Program.get_apply, h, if_neg Bool.false_ne_true]
  rfl

theorem shellCheck_of_shell (h : e.isShell = true)
    (hpolicy : s.activePolicy.allowSubprocess = false) :
    shellCheck e s = (.error (.sandboxViolation
        ("Shell execution staged and blocked in sandbox: " ++ e.event)),
      s.stage "SHELL_EXEC" [("event", e.event), ("command", e.args)]) := by
  rw [shellCheck, Program.bind_of_ok Program.get_apply, h, if_pos rfl, hpolicy,
    if_neg Bool.false_ne_true, block_apply]

theorem killCheck_of_not (h : e.event ≠ "os.kill") : killCheck e s = (.ok (), s) := by
  rw [killCheck, if_neg h]
  rfl

/-- The variables after a refusal. -/
def Locals.refused (s : Locals) (e : AuditEvent) : Locals :=
  { s with stagedActions := s.stagedActions ++ (staging s.trace e).toList }

theorem stage_eq_refused {type : String} {payload : List (String × String)}
    (h : staging s.trace e = some ⟨s.trace, type, payload⟩) : s.stage type payload = s.refused e := by
  rw [Locals.refused, h]
  rfl

theorem eq_refused (h : staging s.trace e = none) : s = s.refused e := by
  rw [Locals.refused, h, Option.toList_none, List.append_nil]

/-- The hook either lets an operation pass and changes nothing, or refuses it. -/
def Judged (e : AuditEvent) (s : Locals) (result : Except HookError Unit × Locals) :
    Prop :=
  (Permitted s.activePolicy e ∧ result = (.ok (), s)) ∨
    (¬ Permitted s.activePolicy e ∧
      ∃ message, result = (.error (.sandboxViolation message), s.refused e))

theorem judged_open (hopen : e.event = "open") :
    Judged e s (sandboxAuditHook e s) := by
  have hnetwork : e.isNetwork = false := by
    rw [AuditEvent.isNetwork, hopen]
    decide
  have hspawn : e.isSpawn = false := by
    rw [AuditEvent.isSpawn, hopen]
    decide
  have hshell : e.isShell = false := by
    rw [AuditEvent.isShell, hopen]
    decide
  have hkill : e.event ≠ "os.kill" := by
    rw [hopen]
    decide
  have hrest : ∀ u, (do spawnCheck e; shellCheck e; killCheck e : Hook) s = (.ok u, s) := by
    intro u
    rw [Program.bind_of_ok (spawnCheck_of_not hspawn), Program.bind_of_ok (shellCheck_of_not hshell),
      killCheck_of_not hkill]
  have hstaging : ∀ mode, e.mode = some mode → staging s.trace e =
      if AuditEvent.isWriteMode mode then
        some ⟨s.trace, "FILE_WRITE", [("filename", e.filename), ("mode", mode)]⟩ else none := by
    intro mode hmode
    rw [staging, hnetwork, if_neg Bool.false_ne_true, if_pos hopen, hmode, Option.bind_some]
  have hcheck := @openCheck_of_open e s hopen
  rw [Judged, sandboxAuditHook, Program.bind_of_ok (networkCheck_of_not hnetwork)]
  cases hmode : e.mode with
  | none =>
    rw [hmode] at hcheck
    refine Or.inl ⟨⟨hnetwork, hspawn, hshell, hkill, ?_, ?_⟩, ?_⟩
    · simp [hmode]
    · simp [hmode]
    · rw [Program.bind_of_ok hcheck, hrest]
  | some mode =>
    rw [hmode] at hcheck
    dsimp only at hcheck
    have hpermitted : ∀ (hw : AuditEvent.isWriteMode mode = true →
          isPathWithin e s.activePolicy.allowedWriteRoots = true)
        (hr : AuditEvent.isWriteMode mode = false → AuditEvent.isReadMode mode = true →
          isPathWithin e s.activePolicy.allowedReadRoots = true),
        Permitted s.activePolicy e := by
      intro hw hr
      refine ⟨hnetwork, hspawn, hshell, hkill, fun _ m hm ↦ ?_, fun _ m hm ↦ ?_⟩
      · rw [hmode, Option.mem_some_iff] at hm
        exact hm ▸ hw
      · rw [hmode, Option.mem_some_iff] at hm
        exact hm ▸ hr
    split_ifs at hcheck with hw hin hr hin
    · refine Or.inl ⟨hpermitted (fun _ ↦ hin) fun h ↦ ?_, by rw [Program.bind_of_ok hcheck, hrest]⟩
      exact absurd (hw.symm.trans h) (by simp)
    · refine Or.inr ⟨fun h ↦ hin (h.write hopen mode (by simp [hmode]) hw), ?_⟩
      rw [Program.bind_of_error hcheck,
        stage_eq_refused ((hstaging mode hmode).trans (if_pos hw))]
      exact ⟨_, rfl⟩
    · refine Or.inl ⟨hpermitted (fun h ↦ absurd h hw) fun _ _ ↦ hin, ?_⟩
      rw [Program.bind_of_ok hcheck, hrest]
    · rw [Bool.not_eq_true] at hw
      have hnone : staging s.trace e = none := by
        rw [hstaging mode hmode, hw, if_neg Bool.false_ne_true]
      refine Or.inr ⟨fun h ↦ hin (h.read hopen mode (by simp [hmode]) hw hr), ?_⟩
      rw [Program.bind_of_error hcheck, ← eq_refused hnone]
      exact ⟨_, rfl⟩
    · refine Or.inl ⟨hpermitted (fun h ↦ absurd h hw) fun _ h ↦ absurd h hr, ?_⟩
      rw [Program.bind_of_ok hcheck, hrest]

/-- **One operation**, under a policy that allows neither the network nor subprocesses. -/
theorem judged_hook (hnet : s.activePolicy.allowNetwork = false)
    (hsub : s.activePolicy.allowSubprocess = false) :
    Judged e s (sandboxAuditHook e s) := by
  by_cases hopen : e.event = "open"
  · exact judged_open hopen
  rw [Judged, sandboxAuditHook]
  cases hnetwork : e.isNetwork with
  | true =>
    refine Or.inr ⟨fun h ↦ absurd (h.network.symm.trans hnetwork) (by simp), ?_⟩
    rw [Program.bind_of_error (networkCheck_of_network hnetwork hnet),
      stage_eq_refused (by rw [staging, hnetwork, if_pos rfl])]
    exact ⟨_, rfl⟩
  | false =>
    rw [Program.bind_of_ok (networkCheck_of_not hnetwork), Program.bind_of_ok (openCheck_of_not hopen)]
    cases hspawn : e.isSpawn with
    | true =>
      have hstaging : staging s.trace e = some ⟨s.trace, "PROCESS_SPAWN", [("event", e.event)]⟩ := by
        rw [staging, hnetwork, if_neg Bool.false_ne_true, if_neg hopen, hspawn, if_pos rfl]
      refine Or.inr ⟨fun h ↦ absurd (h.spawn.symm.trans hspawn) (by simp), ?_⟩
      rw [Program.bind_of_error (spawnCheck_of_spawn hspawn), stage_eq_refused hstaging]
      exact ⟨_, rfl⟩
    | false =>
      rw [Program.bind_of_ok (spawnCheck_of_not hspawn)]
      cases hshell : e.isShell with
      | true =>
        have hstaging : staging s.trace e
            = some ⟨s.trace, "SHELL_EXEC", [("event", e.event), ("command", e.args)]⟩ := by
          rw [staging, hnetwork, if_neg Bool.false_ne_true, if_neg hopen, hspawn,
            if_neg Bool.false_ne_true, hshell, if_pos rfl]
        refine Or.inr ⟨fun h ↦ absurd (h.shell.symm.trans hshell) (by simp), ?_⟩
        rw [Program.bind_of_error (shellCheck_of_shell hshell hsub), stage_eq_refused hstaging]
        exact ⟨_, rfl⟩
      | false =>
        rw [Program.bind_of_ok (shellCheck_of_not hshell)]
        by_cases hkill : e.event = "os.kill"
        · have hnone : staging s.trace e = none := by
            rw [staging, hnetwork, if_neg Bool.false_ne_true, if_neg hopen, hspawn,
              if_neg Bool.false_ne_true, hshell, if_neg Bool.false_ne_true]
          refine Or.inr ⟨fun h ↦ h.kill hkill, ?_⟩
          rw [killCheck, if_pos hkill, Program.raise_apply, ← eq_refused hnone]
          exact ⟨_, rfl⟩
        · refine Or.inl ⟨⟨hnetwork, hspawn, hshell, hkill, fun h ↦ absurd h hopen,
            fun h ↦ absurd h hopen⟩, killCheck_of_not hkill⟩

end Hook

/-! ## A whole run -/

section Run

variable {arc : Bool} {policyOf : ℕ → SandboxPolicy} {c c' : Child}

/-- Each thread has the policy that is given for it, which allows neither the network nor
subprocesses. -/
structure Governed (policyOf : ℕ → SandboxPolicy) (c : Child) : Prop where
  policy : ∀ t, (c.locals t).activePolicy = policyOf t
  network : ∀ t, (policyOf t).allowNetwork = false
  subprocess : ∀ t, (policyOf t).allowSubprocess = false

/-- From one state of the process to another, some operations were tried. Those that are permitted
were performed, and each thread has staged those of its own that are not. -/
structure Contained (policyOf : ℕ → SandboxPolicy) (c c' : Child)
    (us : List (ℕ × AuditEvent)) : Prop where
  tried : c'.tried = c.tried ++ us
  performed : c'.performed
    = c.performed ++ us.filter fun a ↦ Permitted (policyOf a.1) a.2
  staged : ∀ t, (c'.locals t).stagedActions = (c.locals t).stagedActions ++
    (us.filter fun a ↦ a.1 = t ∧ ¬ Permitted (policyOf t) a.2).filterMap
      fun a ↦ staging (c.locals t).trace a.2
  trace : ∀ t, (c'.locals t).traceId = (c.locals t).traceId
  policy : ∀ t, (c'.locals t).policy = (c.locals t).policy

theorem contained_refl (c : Child) : Contained policyOf c c [] where
  tried := (List.append_nil _).symm
  performed := (List.append_nil _).symm
  staged _ := (List.append_nil _).symm
  trace _ := rfl
  policy _ := rfl

theorem Contained.trans {c'' : Child} {us vs : List (ℕ × AuditEvent)}
    (h : Contained policyOf c c' us) (h' : Contained policyOf c' c'' vs) :
    Contained policyOf c c'' (us ++ vs) where
  tried := by rw [h'.tried, h.tried, List.append_assoc]
  performed := by rw [h'.performed, h.performed, List.filter_append, List.append_assoc]
  staged t := by
    have htrace : (c'.locals t).trace = (c.locals t).trace := by
      rw [Locals.trace, Locals.trace, h.trace]
    rw [h'.staged, h.staged, htrace, List.filter_append, List.filterMap_append, List.append_assoc]
  trace t := (h'.trace t).trans (h.trace t)
  policy t := (h'.policy t).trans (h.policy t)

theorem Contained.governed {us : List (ℕ × AuditEvent)} (h : Contained policyOf c c' us)
    (hc : Governed policyOf c) : Governed policyOf c' where
  policy t := by rw [Locals.activePolicy, h.policy, ← Locals.activePolicy, hc.policy]
  network := hc.network
  subprocess := hc.subprocess

theorem contained_permitted {thread : ℕ} {e : AuditEvent}
    (h : Permitted (policyOf thread) e) : Contained policyOf c
      { c with tried := c.tried ++ [(thread, e)], performed := c.performed ++ [(thread, e)] }
      [(thread, e)] where
  tried := rfl
  performed := by rw [List.filter_cons_of_pos (by simpa using h), List.filter_nil]
  staged t := by
    rw [List.filter_cons_of_neg, List.filter_nil, List.filterMap_nil, List.append_nil]
    rw [decide_eq_true_eq]
    rintro ⟨rfl, hnot⟩
    exact hnot h
  trace _ := rfl
  policy _ := rfl

theorem contained_refused {thread : ℕ} {e : AuditEvent}
    (h : ¬ Permitted (policyOf thread) e) : Contained policyOf c
      { c with
        locals := Function.update c.locals thread ((c.locals thread).refused e)
        tried := c.tried ++ [(thread, e)] } [(thread, e)] where
  tried := rfl
  performed := by
    rw [List.filter_cons_of_neg (by simpa using h), List.filter_nil, List.append_nil]
  staged t := by
    show (Function.update c.locals thread _ t).stagedActions = _
    by_cases ht : t = thread
    · subst ht
      rw [Function.update_self, Locals.refused, List.filter_cons_of_pos (by simpa using h),
        List.filter_nil]
      cases hstaging : staging (c.locals t).trace e with
      | none => rw [List.filterMap_cons_none (by exact hstaging)]; rfl
      | some a => rw [List.filterMap_cons_some (by exact hstaging)]; rfl
    · rw [Function.update_of_ne ht, List.filter_cons_of_neg
        (by simpa using fun heq : thread = t ↦ absurd heq.symm ht), List.filter_nil,
        List.filterMap_nil, List.append_nil]
  trace t := by
    show (Function.update c.locals thread _ t).traceId = _
    by_cases ht : t = thread
    · subst ht
      rw [Function.update_self]
      rfl
    · rw [Function.update_of_ne ht]
  policy t := by
    show (Function.update c.locals thread _ t).policy = _
    by_cases ht : t = thread
    · subst ht
      rw [Function.update_self]
      rfl
    · rw [Function.update_of_ne ht]

theorem contained_audited (hc : Governed policyOf c) (thread : ℕ) (e : AuditEvent) :
    Contained policyOf c (c.audited thread e).2 [(thread, e)] := by
  have hjudged : Judged e (c.locals thread) _ := judged_hook
    (by rw [hc.policy, hc.network]) (by rw [hc.policy, hc.subprocess])
  rw [Judged, hc.policy] at hjudged
  obtain ⟨hpermitted, hhook⟩ | ⟨hpermitted, message, hhook⟩ := hjudged
  · have haudited : (c.audited thread e).2 = { c with
        tried := c.tried ++ [(thread, e)], performed := c.performed ++ [(thread, e)] } := by
      rw [Child.audited, hhook]
      dsimp only
      rw [Function.update_eq_self]
    exact haudited ▸ contained_permitted hpermitted
  · have haudited : (c.audited thread e).2 = { c with
        locals := Function.update c.locals thread ((c.locals thread).refused e)
        tried := c.tried ++ [(thread, e)] } := by
      rw [Child.audited, hhook]
    exact haudited ▸ contained_refused hpermitted

theorem exists_contained_act (arc : Bool) (hc : Governed policyOf c) (thread : ℕ)
    (action : Action) :
    ∃ us, Contained policyOf c (c.act arc thread action).2 us := by
  cases action with
  | audited e => exact ⟨_, contained_audited hc thread e⟩
  | isolated call =>
    rw [Child.act]
    split
    · exact ⟨[], ⟨(List.append_nil _).symm, (List.append_nil _).symm,
        fun _ ↦ (List.append_nil _).symm, fun _ ↦ rfl, fun _ ↦ rfl⟩⟩
    · split
      · exact ⟨[], contained_refl c⟩
      · exact ⟨_, contained_audited hc thread _⟩

/-- **A whole run**, whatever the function does. -/
theorem exists_contained_exec {R : Type} (arc : Bool) (func : Func R)
    (hc : Governed policyOf c) :
    ∃ us, Contained policyOf c (func.exec arc c).2 us := by
  induction func generalizing c with
  | returns result => exact ⟨[], contained_refl c⟩
  | raises error => exact ⟨[], contained_refl c⟩
  | act thread action next ih =>
    obtain ⟨us, hus⟩ := exists_contained_act arc hc thread action
    obtain ⟨vs, hvs⟩ := ih (c.act arc thread action).1 (hus.governed hc)
    exact ⟨us ++ vs, hus.trans hvs⟩

end Run

/-! ## The process of a worker -/

/-- `[sandbox_work_dir] if sandbox_work_dir else []`. -/
def workRoots (sandboxWorkDir : String) : List String :=
  if sandboxWorkDir = "" then [] else [sandboxWorkDir]

/-- The policy of a thread: the main thread may read and write in the work directory. -/
def workPolicy (sandboxWorkDir : String) (thread : ℕ) : SandboxPolicy :=
  if thread = 0 then ⟨workRoots sandboxWorkDir, workRoots sandboxWorkDir, false, false⟩ else .default

/-- The process when the function is called. The wrapper sets the variables of the main thread. -/
def Child.start (traceId sandboxWorkDir : String) : Child where
  locals := Function.update (fun _ ↦ Locals.fresh) 0
    ⟨some traceId, [], some ⟨0, 0⟩, some (workPolicy sandboxWorkDir 0)⟩
  tried := []
  performed := []
  sink := []

theorem governed_start (traceId sandboxWorkDir : String) :
    Governed (workPolicy sandboxWorkDir) (Child.start traceId sandboxWorkDir) where
  policy t := by
    show (Function.update (fun _ ↦ Locals.fresh) 0 _ t).activePolicy = _
    by_cases ht : t = 0
    · subst ht
      rw [Function.update_self]
      rfl
    · rw [Function.update_of_ne ht, workPolicy, if_neg ht]
      rfl
  network t := by
    rw [workPolicy]
    split <;> rfl
  subprocess t := by
    rw [workPolicy]
    split <;> rfl

theorem contained_start {R : Type} (arc : Bool) (traceId sandboxWorkDir : String)
    (func : Func R) :
    let c := (func.exec arc (Child.start traceId sandboxWorkDir)).2
    Contained (workPolicy sandboxWorkDir) (Child.start traceId sandboxWorkDir) c c.tried := by
  intro c
  obtain ⟨us, hus⟩ := exists_contained_exec arc func
    (governed_start traceId sandboxWorkDir)
  have htried : c.tried = us := hus.tried
  exact htried ▸ hus

end DriftGuardX.Sandbox
