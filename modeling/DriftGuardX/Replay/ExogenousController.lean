import DriftGuardX.Foundation.Patches
import Mathlib.Data.Rat.Defs

/-!
# Control of exogenous state

A replay runs under a controller of seven parts, which seeds the random generators and replaces the
clock, the HTTP libraries and the language models. The parts are entered in order and exited in the
opposite order; a part starts patches when it is entered and stops them when it is exited.

The stubs of the language models put up with a library that cannot be patched. The stubs of the HTTP
libraries guard only the making of a patcher, which never fails: a library that is not installed
raises when its patcher is started, outside the guard, and what was started before stays active.
-/

namespace DriftGuardX.Replay

open Program Owned

/-! ## The parts -/

/-- What the start of a patch or a seeding can raise. -/
inductive ControlError
  | attributeError
  | importError
  | valueError
  | runtimeError
  | other (kind : String)
  deriving DecidableEq

/-- The exceptions that the stubs of the language models swallow. -/
def ControlError.swallowed : ControlError → Bool
  | .attributeError | .importError | .valueError | .runtimeError => true
  | .other _ => false

/-- The exceptions that the stubs of the language models suppress as they stop. -/
def ControlError.suppressed : ControlError → Bool
  | .valueError | .runtimeError => true
  | .other kind => kind ∈ ["KeyError", "TypeError", "OSError"]
  | .attributeError | .importError => false

/-- What stands in for a patched attribute. -/
inductive Replacement
  /-- A function that always returns the frozen time. -/
  | returnValue (frozen_ts : ℚ)
  /-- The recorded response for an address. -/
  | stub_fn
  /-- The next of the recorded responses. -/
  | next_stub
  deriving DecidableEq

/-- What is installed: the seedings and the targets of patches that raise, and what they raise. -/
structure Platform (Seed : Type) where
  hasNumpy : Bool
  randomSeed : Seed → Option ControlError
  numpySeed : Seed → Option ControlError
  unavailable : String → Option ControlError

/-- The state of the interpreter that control changes: its patches and the seeds of its random
generators. -/
structure Interpreter (Seed : Type) where
  patches : Patches Replacement
  random : Option Seed
  numpy : Option Seed

/-- `try: … except AttributeError: pass` -/
def guardAttribute {σ : Type} (x : Program σ ControlError Unit) : Program σ ControlError Unit :=
  attempt x fun e ↦ if e = .attributeError then pure () else raise e

namespace RNGController

variable {Seed : Type} (platform : Platform Seed)

def enter (seed : Seed) : Program (Interpreter Seed) ControlError Unit := do
  match platform.randomSeed seed with
  | some e => raise e
  | none => modify fun s ↦ { s with random := some seed }
  if platform.hasNumpy then
    match platform.numpySeed seed with
    | some e => raise e
    | none => modify fun s ↦ { s with numpy := some seed }

end RNGController

namespace TimeController

variable (unavailable : String → Option ControlError)

def enter (frozen_ts : ℚ) : Program (Owned Replacement) ControlError Unit := do
  append (← patch "time.time" (.returnValue frozen_ts))
  startPatches unavailable

def exit : Program (Owned Replacement) ControlError Unit := stopPatches

end TimeController

namespace APIResponseController

variable (unavailable : String → Option ControlError)

def enter : Program (Owned Replacement) ControlError Unit := do
  guardAttribute do
    append (← patch "httpx.get" .stub_fn)
    append (← patch "httpx.post" .stub_fn)
  guardAttribute do
    append (← patch "requests.get" .stub_fn)
    append (← patch "requests.post" .stub_fn)
  startPatches unavailable

def exit : Program (Owned Replacement) ControlError Unit := stopPatches

end APIResponseController

namespace LLMStubController

variable (unavailable : String → Option ControlError)

/-- The classes of resources are patched, not the client of the module. -/
def targets : List String :=
  ["openai.resources.chat.completions.Completions.create",
    "openai.resources.chat.completions.AsyncCompletions.create"]

def enterTarget (target : String) : Program (Owned Replacement) ControlError Unit :=
  attempt (do
      let patcher ← patch target .next_stub
      onInterpreter (Patches.start unavailable patcher)
      append patcher)
    fun e ↦ if e.swallowed then pure () else raise e

def enter : Program (Owned Replacement) ControlError Unit := targets.forM (enterTarget unavailable)

def stopSuppressed (p : Patcher Replacement) :
    Program (Patches Replacement) ControlError Unit :=
  attempt (Patches.stop p) fun e ↦ if e.suppressed then pure () else raise e

def exit : Program (Owned Replacement) ControlError Unit := do
  let s ← get
  onInterpreter (s.patches.reverse.forM stopSuppressed)
  modify fun s ↦ { s with patches := [] }

end LLMStubController

/-! ## The controller -/

inductive SubController
  | rng
  | time
  | api
  | db
  | llm
  | tools
  | flags
  deriving DecidableEq

structure TimeControl where
  frozen_ts : ℚ
  patches : List (Patcher Replacement)

/-- A controller and the interpreter that it controls. The parts for the database, the tools and the
feature flags start no patches. -/
structure Control (Seed : Type) where
  seed : Seed
  time : Option TimeControl
  api : List (Patcher Replacement)
  llm : List (Patcher Replacement)
  active : List SubController
  interpreter : Interpreter Seed

namespace Control

variable {Seed : Type}

/-- The patchers of all parts. -/
def patches (s : Control Seed) : List (Patcher Replacement) :=
  (s.time.elim [] TimeControl.patches) ++ s.api ++ s.llm

/-- What the parts make of their patchers and of the patches of the interpreter. -/
def withTime (s : Control Seed) (o : Owned Replacement) : Control Seed :=
  { s with
    time := s.time.map ({ · with patches := o.patches })
    interpreter := { s.interpreter with patches := o.interpreter } }

def withApi (s : Control Seed) (o : Owned Replacement) : Control Seed :=
  { s with api := o.patches, interpreter := { s.interpreter with patches := o.interpreter } }

def withLlm (s : Control Seed) (o : Owned Replacement) : Control Seed :=
  { s with llm := o.patches, interpreter := { s.interpreter with patches := o.interpreter } }

section On

variable {α : Type}

def onRng (x : Program (Interpreter Seed) ControlError α) :
    Program (Control Seed) ControlError α :=
  zoom Control.interpreter (fun s i ↦ { s with interpreter := i }) x

def onTime (x : Program (Owned Replacement) ControlError α) :
    Program (Control Seed) ControlError α :=
  zoom (fun s ↦ ⟨s.time.elim [] TimeControl.patches, s.interpreter.patches⟩) withTime x

def onApi (x : Program (Owned Replacement) ControlError α) :
    Program (Control Seed) ControlError α :=
  zoom (fun s ↦ ⟨s.api, s.interpreter.patches⟩) withApi x

def onLlm (x : Program (Owned Replacement) ControlError α) :
    Program (Control Seed) ControlError α :=
  zoom (fun s ↦ ⟨s.llm, s.interpreter.patches⟩) withLlm x

section OnOfRun

variable {x : Program (Owned Replacement) ControlError α} {s : Control Seed}
  {r : Except ControlError α} {o : Owned Replacement}

theorem onTime_of_run
    (h : x ⟨s.time.elim [] TimeControl.patches, s.interpreter.patches⟩ = (r, o)) :
    onTime x s = (r, s.withTime o) := by
  rw [onTime, zoom, h]

theorem onApi_of_run (h : x ⟨s.api, s.interpreter.patches⟩ = (r, o)) :
    onApi x s = (r, s.withApi o) := by
  rw [onApi, zoom, h]

theorem onLlm_of_run (h : x ⟨s.llm, s.interpreter.patches⟩ = (r, o)) :
    onLlm x s = (r, s.withLlm o) := by
  rw [onLlm, zoom, h]

end OnOfRun

end On

variable (platform : Platform Seed)

def enterSub : SubController → Program (Control Seed) ControlError Unit
  | .rng => do onRng (RNGController.enter platform (← get).seed)
  | .time => do
    match (← get).time with
    | some time => onTime (TimeController.enter platform.unavailable time.frozen_ts)
    | none => pure ()
  | .api => onApi (APIResponseController.enter platform.unavailable)
  | .llm => onLlm (LLMStubController.enter platform.unavailable)
  | .db | .tools | .flags => pure ()

def exitSub : SubController → Program (Control Seed) ControlError Unit
  | .time => onTime TimeController.exit
  | .api => onApi APIResponseController.exit
  | .llm => onLlm LLMStubController.exit
  | .rng | .db | .tools | .flags => pure ()

/-- The parts in the order in which they are entered. -/
def parts (time : Option TimeControl) : List SubController :=
  let parts := [.rng, .api, .db, .llm, .tools, .flags]
  if time.isSome then parts.insertIdx 1 .time else parts

def enter : Program (Control Seed) ControlError Unit := do
  modify fun s ↦ { s with active := parts s.time }
  (← get).active.forM (enterSub platform)

def exit : Program (Control Seed) ControlError Unit := do
  (← get).active.reverse.forM exitSub
  modify fun s ↦ { s with active := [] }

/-- A new controller over an interpreter. -/
def init (rng_seed : Seed) (frozen_ts : Option ℚ) (interpreter : Interpreter Seed) : Control Seed :=
  ⟨rng_seed, frozen_ts.map (⟨·, []⟩), [], [], [], interpreter⟩

/-! ## Idle controllers -/

/-- No part has patchers, and the numbers of patchers are given out in order. A controller is idle when
it is new, and again after it was exited. -/
structure Idle (s : Control Seed) : Prop where
  time : s.time.elim [] TimeControl.patches = []
  api : s.api = []
  llm : s.llm = []
  fresh : s.interpreter.patches.Fresh

theorem idle_init {rng_seed : Seed} {frozen_ts : Option ℚ} {interpreter : Interpreter Seed}
    (h : interpreter.patches.Fresh) : (init rng_seed frozen_ts interpreter).Idle :=
  ⟨by cases frozen_ts <;> rfl, rfl, rfl, h⟩

/-- The patchers that were started between two states. -/
def startedSince (s s' : Control Seed) : List (Patcher Replacement) :=
  s'.interpreter.patches.started.drop s.interpreter.patches.started.length

/-- Entering is all or nothing: when it raises, no patch of any part is active; when it succeeds, then
whatever a replay does that leaves these patches active, exiting succeeds and stops what was started,
once each, and nothing else. -/
def AllOrNothing (platform : Platform Seed) (s : Control Seed) : Prop :=
  (∀ e s', enter platform s = (.error e, s') → ∀ p, p ∈ s'.patches ∨ p ∈ startedSince s s' →
    p ∉ s'.interpreter.patches.active) ∧
  ∀ s', enter platform s = (.ok (), s') → ∀ replayed : Interpreter Seed,
    (∀ p ∈ startedSince s s',
      replayed.patches.active.count p = s'.interpreter.patches.active.count p) →
    ∃ t ps, exit { s' with interpreter := replayed } = (.ok (), t) ∧
      t.interpreter.patches.stopped = replayed.patches.stopped ++ ps ∧
      ps.Perm (startedSince s s') ∧ ∀ p ∈ startedSince s s', p ∉ t.interpreter.patches.active

/-! ## Entering the parts -/

end Control

/-- What the seeding raises. -/
def Platform.seedError {Seed : Type} (platform : Platform Seed) (seed : Seed) :
    Option ControlError :=
  (platform.randomSeed seed).or (if platform.hasNumpy then platform.numpySeed seed else none)

section Parts

open Patches

variable {Seed : Type} (platform : Platform Seed) (unavailable : String → Option ControlError)

theorem RNGController.enter_apply (seed : Seed) (i : Interpreter Seed) : ∃ i',
    RNGController.enter platform seed i = (ending (platform.seedError seed), i') ∧
      i'.patches = i.patches := by
  rw [RNGController.enter, Platform.seedError]
  cases hrandom : platform.randomSeed seed with
  | some e => exact ⟨i, bind_of_error (raise_apply e), rfl⟩
  | none =>
    simp only [Option.none_or]
    rw [bind_of_ok (modify_apply _)]
    by_cases hnumpy : platform.hasNumpy
    · rw [if_pos hnumpy, if_pos hnumpy]
      cases platform.numpySeed seed with
      | some e => exact ⟨_, raise_apply e, rfl⟩
      | none => exact ⟨_, modify_apply _, rfl⟩
    · rw [if_neg hnumpy, if_neg hnumpy]
      exact ⟨_, pure_apply (), rfl⟩

theorem TimeController.enter_of_available (frozen_ts : ℚ) (w : Patches Replacement)
    (h : unavailable "time.time" = none) : ∃ w' ps,
      TimeController.enter unavailable frozen_ts ⟨[], w⟩ = (.ok (), ⟨ps, w'⟩) ∧
      Started w w' ps ∧ ps ≠ [] :=
  startPatches_of_available w ("time.time", .returnValue frozen_ts) [] (by simpa using h)

theorem TimeController.enter_of_unavailable (frozen_ts : ℚ) (w : Patches Replacement)
    (h : unavailable "time.time" ≠ none) : ∃ e w' qs,
      TimeController.enter unavailable frozen_ts ⟨[], w⟩ = (.error e, ⟨qs, w'⟩) ∧
      Started w w' [] ∧ ∀ q ∈ qs, w.created ≤ q.number := by
  obtain ⟨e, w', ps, qs, hrun, hstarted, hmade, hnil⟩ := startPatches_of_unavailable w
    ("time.time", Replacement.returnValue frozen_ts) [] (by simpa using h)
  rw [hnil.mpr h] at hstarted
  exact ⟨e, w', qs, hrun, hstarted, hmade⟩

/-- The targets of the stubs of the HTTP libraries. -/
def APIResponseController.targets : List String :=
  ["httpx.get", "httpx.post", "requests.get", "requests.post"]

theorem APIResponseController.enter_of_available (w : Patches Replacement)
    (h : ∀ t ∈ targets, unavailable t = none) : ∃ w' ps,
      APIResponseController.enter unavailable ⟨[], w⟩ = (.ok (), ⟨ps, w'⟩) ∧
      Started w w' ps ∧ ps ≠ [] :=
  -- the guards have nothing to guard: no patcher raises when it is made
  startPatches_of_available w ("httpx.get", .stub_fn)
    [("httpx.post", .stub_fn), ("requests.get", .stub_fn), ("requests.post", .stub_fn)]
    (by simpa [targets] using h)

theorem APIResponseController.enter_of_unavailable (w : Patches Replacement)
    (h : ∃ t ∈ targets, unavailable t ≠ none) : ∃ e w' ps qs,
      APIResponseController.enter unavailable ⟨[], w⟩ = (.error e, ⟨qs, w'⟩) ∧
      Started w w' ps ∧ (∀ q ∈ qs, w.created ≤ q.number) ∧
      (ps = [] ↔ unavailable "httpx.get" ≠ none) :=
  startPatches_of_unavailable w ("httpx.get", .stub_fn)
    [("httpx.post", .stub_fn), ("requests.get", .stub_fn), ("requests.post", .stub_fn)]
    (by simpa [targets] using h)

/-- What the stubs of the language models let through for a target. -/
def LLMStubController.letsThrough (target : String) : Option ControlError :=
  (unavailable target).filter (!·.swallowed)

theorem LLMStubController.enterTarget_apply (target : String) (ps : List (Patcher Replacement))
    (w : Patches Replacement) : ∃ w' qs,
      enterTarget unavailable target ⟨ps, w⟩
        = (ending (letsThrough unavailable target), ⟨ps ++ qs, w'⟩) ∧ Started w w' qs := by
  let p : Patcher Replacement := ⟨w.created, target, .next_stub⟩
  cases htarget : unavailable target with
  | none =>
    have hstart : Patches.start unavailable p (w.create 1) = (.ok (), (w.create 1).starts [p]) :=
      start_of_available htarget
    refine ⟨(w.create 1).starts [p], [p], ?_, ?_⟩
    · rw [letsThrough, htarget]
      refine attempt_of_ok ?_
      rw [bind_of_ok (patch_apply target Replacement.next_stub), bind_of_ok (onInterpreter_of_run hstart)]
      rfl
    · exact started_numbered w [(target, .next_stub)] [p] (List.prefix_refl _)
  | some e =>
    have hstart : Patches.start unavailable p (w.create 1) = (.error e, w.create 1) :=
      start_of_unavailable htarget
    refine ⟨w.create 1, [], ?_, started_create 1⟩
    have hraise : (do
        let patcher ← patch target .next_stub
        onInterpreter (Patches.start unavailable patcher)
        append patcher : Program (Owned Replacement) ControlError Unit) ⟨ps, w⟩
          = (.error e, ⟨ps, w.create 1⟩) := by
      rw [bind_of_ok (patch_apply target Replacement.next_stub)]
      exact bind_of_error (onInterpreter_of_run hstart)
    rw [List.append_nil, enterTarget, attempt_of_error hraise, letsThrough, htarget]
    cases hswallowed : e.swallowed with
    | false =>
      rw [Option.filter_some_pos (by rw [hswallowed]; rfl)]
      rfl
    | true =>
      rw [Option.filter_some_neg (by rw [hswallowed]; simp)]
      rfl

theorem LLMStubController.enterAll_apply (targets : List String) (ps : List (Patcher Replacement))
    (w : Patches Replacement) : ∃ w' qs,
      targets.forM (enterTarget unavailable) ⟨ps, w⟩
        = (ending (targets.findSome? (letsThrough unavailable)), ⟨ps ++ qs, w'⟩) ∧
      Started w w' qs := by
  induction targets generalizing ps w with
  | nil => exact ⟨w, [], by rw [List.append_nil]; rfl, .refl w⟩
  | cons target targets ih =>
    obtain ⟨w', qs, hrun, hstarted⟩ := enterTarget_apply unavailable target ps w
    cases hthrough : letsThrough unavailable target with
    | some e =>
      rw [hthrough] at hrun
      rw [List.findSome?_cons_of_isSome (by rw [hthrough]; rfl), hthrough]
      exact ⟨w', qs, forM_cons_of_error hrun, hstarted⟩
    | none =>
      rw [hthrough] at hrun
      obtain ⟨w'', rs, hrest, hrested⟩ := ih (ps ++ qs) w'
      rw [List.findSome?_cons_of_isNone (by rw [hthrough]; rfl)]
      refine ⟨w'', qs ++ rs, ?_, hstarted.trans hrested⟩
      rw [forM_cons_of_ok hrun, hrest, List.append_assoc]

end Parts

namespace Control

open Patches

variable {Seed : Type} {platform : Platform Seed} {s s' s'' : Control Seed}
  {ps qs : List (Patcher Replacement)}

/-! ## Entering and exiting all parts -/

/-- Between two states the patchers `ps` were started, and every part has the patchers it had and new
ones. -/
structure Entered (s s' : Control Seed) (ps : List (Patcher Replacement)) : Prop where
  started : Started s.interpreter.patches s'.interpreter.patches ps
  made : ∀ p ∈ s'.patches, p ∈ s.patches ∨ s.interpreter.patches.created ≤ p.number
  active : s'.active = s.active
  clock : s'.time.isSome = s.time.isSome

theorem Entered.trans (h : Entered s s' ps) (h' : Entered s' s'' qs) :
    Entered s s'' (ps ++ qs) where
  started := h.started.trans h'.started
  made := by
    intro p hp
    obtain hp | hp := h'.made p hp
    · exact h.made p hp
    · exact Or.inr (h.started.created.trans hp)
  active := h'.active.trans h.active
  clock := h'.clock.trans h.clock

theorem enterSub_rng (platform : Platform Seed) (s : Control Seed) : ∃ i,
    enterSub platform .rng s
      = (ending (platform.seedError s.seed), { s with interpreter := i }) ∧
    i.patches = s.interpreter.patches := by
  obtain ⟨i, hrun, hi⟩ := RNGController.enter_apply platform s.seed s.interpreter
  refine ⟨i, ?_, hi⟩
  change (get >>= _) s = _
  rw [bind_of_ok get_apply]
  exact zoom_of_run hrun

theorem enterSub_time {frozen_ts : ℚ} {r : Except ControlError Unit} {o : Owned Replacement}
    (htime : s.time = some ⟨frozen_ts, []⟩)
    (h : TimeController.enter platform.unavailable frozen_ts ⟨[], s.interpreter.patches⟩ = (r, o)) :
    enterSub platform .time s = (r, s.withTime o) := by
  change (get >>= _) s = _
  rw [bind_of_ok get_apply, htime]
  refine onTime_of_run ?_
  rw [htime]
  exact h

theorem enterSub_api {r : Except ControlError Unit} {o : Owned Replacement} (hapi : s.api = [])
    (h : APIResponseController.enter platform.unavailable ⟨[], s.interpreter.patches⟩ = (r, o)) :
    enterSub platform .api s = (r, s.withApi o) := by
  refine onApi_of_run ?_
  rw [hapi]
  exact h

section Entered

variable {w : Patches Replacement} (hstarted : Started s.interpreter.patches w ps)
  (hmade : ∀ q ∈ qs, s.interpreter.patches.created ≤ q.number)

include hstarted hmade

theorem entered_time : Entered s (s.withTime ⟨qs, w⟩) ps where
  started := hstarted
  made := by
    intro p hp
    simp only [patches, withTime, List.mem_append] at hp ⊢
    obtain (hp | hp) | hp := hp
    · cases htime : s.time with
      | none => simp [htime] at hp
      | some time => exact Or.inr (hmade p (by simpa [htime] using hp))
    · exact Or.inl (Or.inl (Or.inr hp))
    · exact Or.inl (Or.inr hp)
  active := rfl
  clock := Option.isSome_map ..

theorem entered_api : Entered s (s.withApi ⟨qs, w⟩) ps where
  started := hstarted
  made := by
    intro p hp
    simp only [patches, withApi, List.mem_append] at hp ⊢
    obtain (hp | hp) | hp := hp
    · exact Or.inl (Or.inl (Or.inl hp))
    · exact Or.inr (hmade p hp)
    · exact Or.inl (Or.inr hp)
  active := rfl
  clock := rfl

theorem entered_llm : Entered s (s.withLlm ⟨qs, w⟩) ps where
  started := hstarted
  made := by
    intro p hp
    simp only [patches, withLlm, List.mem_append] at hp ⊢
    obtain hp | hp := hp
    · exact Or.inl (Or.inl hp)
    · exact Or.inr (hmade p hp)
  active := rfl
  clock := rfl

end Entered

/-- The stubs of the language models list what they start. -/
theorem enterSub_llm (hllm : s.llm = []) : ∃ w ps,
    enterSub platform .llm s
      = (ending (LLMStubController.targets.findSome?
          (LLMStubController.letsThrough platform.unavailable)), s.withLlm ⟨ps, w⟩) ∧
    Entered s (s.withLlm ⟨ps, w⟩) ps := by
  obtain ⟨w, ps, hrun, hstarted⟩ := LLMStubController.enterAll_apply platform.unavailable
    LLMStubController.targets [] s.interpreter.patches
  refine ⟨w, ps, onLlm_of_run ?_, entered_llm hstarted fun p hp ↦ (hstarted.numbered p hp).1⟩
  rw [hllm]
  exact hrun

/-- The parts from the HTTP libraries on. -/
def laterParts : List SubController := [.api, .db, .llm, .tools, .flags]

/-- The condition of the parts from the HTTP libraries on: nothing raises. -/
def LaterAvailable (unavailable : String → Option ControlError) : Prop :=
  (∀ t ∈ APIResponseController.targets, unavailable t = none) ∧
    ∀ t ∈ LLMStubController.targets, ∀ e, unavailable t = some e → e.swallowed

theorem letsThrough_eq_none_iff {unavailable : String → Option ControlError} {t : String} :
    LLMStubController.letsThrough unavailable t = none
      ↔ ∀ e, unavailable t = some e → e.swallowed := by
  simp [LLMStubController.letsThrough]

/-- Entering the parts from the HTTP libraries on. -/
theorem enterLater (platform : Platform Seed) (hapi : s.api = []) (hllm : s.llm = []) :
    (LaterAvailable platform.unavailable ∧ ∃ s' ps,
      laterParts.forM (enterSub platform) s = (.ok (), s') ∧ Entered s s' ps ∧
        s'.time = s.time ∧ s'.api ++ s'.llm = ps) ∨
    ¬ LaterAvailable platform.unavailable ∧ ∃ e s' ps,
      laterParts.forM (enterSub platform) s = (.error e, s') ∧ Entered s s' ps ∧
        (ps = [] ↔ platform.unavailable "httpx.get" ≠ none) := by
  by_cases hhttp : ∀ t ∈ APIResponseController.targets, platform.unavailable t = none
  · obtain ⟨w, ps, hrun, hstarted, hne⟩ := APIResponseController.enter_of_available
      platform.unavailable s.interpreter.patches hhttp
    have hps := entered_api hstarted fun p hp ↦ (hstarted.numbered p hp).1
    have hllm' : (s.withApi ⟨ps, w⟩).llm = [] := hllm
    obtain ⟨w', qs, hllmRun, hqs⟩ := enterSub_llm hllm'
    have hdb : enterSub platform .db (s.withApi ⟨ps, w⟩) = (.ok (), s.withApi ⟨ps, w⟩) := rfl
    rw [laterParts, forM_cons_of_ok (enterSub_api hapi hrun), forM_cons_of_ok hdb]
    cases hthrough : LLMStubController.targets.findSome?
        (LLMStubController.letsThrough platform.unavailable) with
    | none =>
      refine Or.inl ⟨⟨hhttp, fun t ht ↦ letsThrough_eq_none_iff.mp
        (List.findSome?_eq_none_iff.mp hthrough t ht)⟩, _, _, ?_, hps.trans hqs, rfl, rfl⟩
      rw [hthrough] at hllmRun
      rw [forM_cons_of_ok hllmRun]
      rfl
    | some e =>
      rw [hthrough] at hllmRun
      refine Or.inr ⟨fun h ↦ ?_, e, _, _, forM_cons_of_error hllmRun, hps.trans hqs, ?_⟩
      · have hnone := List.findSome?_eq_none_iff.mpr fun t ht ↦
          letsThrough_eq_none_iff.mpr (h.2 t ht)
        exact absurd (hthrough.symm.trans hnone) (by simp)
      · refine iff_of_false (fun hnil ↦ hne (List.append_eq_nil_iff.mp hnil).1) ?_
        exact not_not.mpr (hhttp "httpx.get" (by simp [APIResponseController.targets]))
  · have hmissing : ∃ t ∈ APIResponseController.targets, platform.unavailable t ≠ none := by
      simpa using hhttp
    obtain ⟨e, w, ps, qs, hrun, hstarted, hmade, hnil⟩ :=
      APIResponseController.enter_of_unavailable platform.unavailable s.interpreter.patches hmissing
    exact Or.inr ⟨fun h ↦ hhttp h.1, e, _, ps, forM_cons_of_error (enterSub_api hapi hrun),
      entered_api hstarted hmade, hnil⟩

/-- The targets that must be there, in the order in which they are patched. -/
def requiredTargets (s : Control Seed) : List String :=
  (if s.time.isSome then ["time.time"] else []) ++ APIResponseController.targets

/-- The target that is patched first is missing. -/
def FirstMissing (platform : Platform Seed) (s : Control Seed) : Prop :=
  ∃ t, s.requiredTargets.head? = some t ∧ platform.unavailable t ≠ none

/-- The required targets are there, and the stubs of the language models swallow what is missing of
theirs. -/
def Available (platform : Platform Seed) (s : Control Seed) : Prop :=
  (∀ t ∈ s.requiredTargets, platform.unavailable t = none) ∧
    ∀ t ∈ LLMStubController.targets, ∀ e, platform.unavailable t = some e → e.swallowed

/-- When control is all or nothing: the seeding raises, or the first target of all is missing, or
nothing raises. -/
def Settled (platform : Platform Seed) (s : Control Seed) : Prop :=
  platform.seedError s.seed ≠ none ∨ s.FirstMissing platform ∨ s.Available platform

theorem requiredTargets_of_none (htime : s.time = none) :
    s.requiredTargets = APIResponseController.targets := by
  rw [requiredTargets, htime]
  rfl

theorem requiredTargets_of_some {time : TimeControl} (htime : s.time = some time) :
    s.requiredTargets = "time.time" :: APIResponseController.targets := by
  rw [requiredTargets, htime]
  rfl

/-- The parts after the random generators. -/
def partsToPatch (time : Option TimeControl) : List SubController :=
  (if time.isSome then [.time] else []) ++ laterParts

theorem parts_eq (time : Option TimeControl) : parts time = .rng :: partsToPatch time := by
  cases time <;> rfl

theorem parts_congr {time time' : Option TimeControl} (h : time.isSome = time'.isSome) :
    parts time = parts time' := by
  rw [parts, parts, h]

/-- Entering the parts that patch, one with a clock and one without. -/
theorem enterParts_of_idle (platform : Platform Seed) (hidle : s.Idle) :
    (s.Available platform ∧ ∃ s', (partsToPatch s.time).forM (enterSub platform) s = (.ok (), s') ∧
      Entered s s' s'.patches) ∨
    ¬ s.Available platform ∧ ∃ e s' ps,
      (partsToPatch s.time).forM (enterSub platform) s = (.error e, s') ∧ Entered s s' ps ∧
        (ps = [] ↔ s.FirstMissing platform) := by
  cases htime : s.time with
  | none =>
    have havailable : s.Available platform ↔ LaterAvailable platform.unavailable := by
      rw [Available, requiredTargets_of_none htime, LaterAvailable]
    have hfirst : s.FirstMissing platform ↔ platform.unavailable "httpx.get" ≠ none := by
      simp [FirstMissing, requiredTargets_of_none htime, APIResponseController.targets]
    rw [havailable, hfirst]
    obtain ⟨hlater, s', ps, hrun, hentered, htime', hlists⟩ | h :=
      enterLater platform hidle.api hidle.llm
    · refine Or.inl ⟨hlater, s', hrun, ?_⟩
      rw [patches, htime', htime, List.append_assoc, hlists]
      exact hentered
    · exact Or.inr h
  | some time =>
    obtain ⟨frozen_ts, patches⟩ := time
    obtain rfl : patches = [] := by simpa [htime] using hidle.time
    have hfirst : s.FirstMissing platform ↔ platform.unavailable "time.time" ≠ none := by
      simp [FirstMissing, requiredTargets_of_some htime]
    have havailable : s.Available platform ↔
        platform.unavailable "time.time" = none ∧ LaterAvailable platform.unavailable := by
      rw [Available, requiredTargets_of_some htime, List.forall_mem_cons, LaterAvailable, and_assoc]
    rw [havailable, hfirst]
    have hparts : partsToPatch (some ⟨frozen_ts, []⟩) = .time :: laterParts := rfl
    rw [hparts]
    by_cases hclock : platform.unavailable "time.time" = none
    · obtain ⟨w, ps, hrun, hstarted, hne⟩ := TimeController.enter_of_available
        platform.unavailable frozen_ts s.interpreter.patches hclock
      have hps := entered_time hstarted fun p hp ↦ (hstarted.numbered p hp).1
      rw [forM_cons_of_ok (enterSub_time htime hrun)]
      obtain ⟨hlater, s', qs, hlaterRun, hqs, htime', hlists⟩ | ⟨hlater, e, s', qs, hlaterRun, hqs, -⟩ :=
        enterLater platform (s := s.withTime ⟨ps, w⟩) hidle.api hidle.llm
      · refine Or.inl ⟨⟨hclock, hlater⟩, s', hlaterRun, ?_⟩
        rw [Control.patches, htime', List.append_assoc, hlists, withTime, htime]
        exact hps.trans hqs
      · refine Or.inr ⟨fun h ↦ hlater h.2, e, s', ps ++ qs, hlaterRun, hps.trans hqs, ?_⟩
        exact iff_of_false (fun hnil ↦ hne (List.append_eq_nil_iff.mp hnil).1) (not_not.mpr hclock)
    · obtain ⟨e, w, qs, hrun, hstarted, hmade⟩ := TimeController.enter_of_unavailable
        platform.unavailable frozen_ts s.interpreter.patches hclock
      exact Or.inr ⟨fun h ↦ hclock h.1, e, _, [], forM_cons_of_error (enterSub_time htime hrun),
        entered_time hstarted hmade, iff_of_true rfl hclock⟩

/-- **Entering an idle controller** succeeds with the patches that its parts list, or raises with some
patches started, and with none exactly when the first thing that can raise does. -/
theorem enter_of_idle (platform : Platform Seed) (hidle : s.Idle) :
    (s.Settled platform ∧ ∃ s', enter platform s = (.ok (), s') ∧ s'.active = parts s'.time ∧
      Started s.interpreter.patches s'.interpreter.patches s'.patches) ∨
    ∃ e s' ps, enter platform s = (.error e, s') ∧
      Started s.interpreter.patches s'.interpreter.patches ps ∧
      (∀ p ∈ s'.patches, s.interpreter.patches.created ≤ p.number) ∧
      (ps = [] ↔ s.Settled platform) := by
  have hpatches : s.patches = [] := by
    rw [patches, hidle.time, hidle.api, hidle.llm]
    rfl
  let s₀ : Control Seed := { s with active := parts s.time }
  obtain ⟨i, hrng, hi⟩ := enterSub_rng platform s₀
  have henter : enter platform s
      = (SubController.rng :: partsToPatch s.time).forM (enterSub platform) s₀ := by
    rw [← parts_eq]
    rfl
  let s₁ : Control Seed := { s₀ with interpreter := i }
  have hidle₁ : s₁.Idle := ⟨hidle.time, hidle.api, hidle.llm, hi ▸ hidle.fresh⟩
  rw [henter]
  cases hseed : platform.seedError s.seed with
  | some e =>
    have hraise : enterSub platform .rng s₀ = (.error e, s₁) := by
      rw [hrng, show s₀.seed = s.seed from rfl, hseed]
      rfl
    refine Or.inr ⟨e, s₁, [], forM_cons_of_error hraise, hi ▸ .refl _, fun p hp ↦ ?_, ?_⟩
    · exact absurd (hpatches ▸ hp) List.not_mem_nil
    · exact iff_of_true rfl (Or.inl (by rw [hseed]; simp))
  | none =>
    have hseeded : enterSub platform .rng s₀ = (.ok (), s₁) := by
      rw [hrng, show s₀.seed = s.seed from rfl, hseed]
      rfl
    rw [forM_cons_of_ok hseeded]
    obtain ⟨havailable, s', hrun, hentered⟩ | ⟨hmissing, e, s', ps, hrun, hentered, hnil⟩ :=
      enterParts_of_idle platform hidle₁
    · refine Or.inl ⟨Or.inr (Or.inr havailable), s', hrun, ?_, hi ▸ hentered.started⟩
      exact hentered.active.trans (parts_congr hentered.clock.symm)
    · refine Or.inr ⟨e, s', ps, hrun, hi ▸ hentered.started, fun p hp ↦ ?_, hnil.trans ⟨?_, ?_⟩⟩
      · obtain hp | hp := hentered.made p hp
        · exact absurd (hpatches ▸ hp) List.not_mem_nil
        · exact hi ▸ hp
      · exact fun hfirst ↦ Or.inr (Or.inl hfirst)
      · rintro (h | h | h)
        · exact absurd hseed h
        · exact h
        · exact absurd h hmissing

/-! ## Exiting -/

theorem stopAllSuppressed_apply (ps : List (Patcher Replacement)) (w : Patches Replacement) :
    ps.forM LLMStubController.stopSuppressed w = (.ok (), ps.foldl stops w) := by
  induction ps generalizing w with
  | nil => rfl
  | cons p ps ih =>
    have hstop : LLMStubController.stopSuppressed p w = (.ok (), w.stops p) :=
      attempt_of_ok (stop_apply p)
    rw [forM_cons_of_ok hstop, ih, List.foldl_cons]

theorem exitLlm_apply (o : Owned Replacement) :
    LLMStubController.exit o = (.ok (), ⟨[], o.patches.reverse.foldl stops o.interpreter⟩) := by
  rw [LLMStubController.exit, bind_of_ok get_apply,
    bind_of_ok (onInterpreter_of_run (stopAllSuppressed_apply _ _))]
  rfl

theorem exitSub_llm (s : Control Seed) : exitSub .llm s
    = (.ok (), s.withLlm ⟨[], s.llm.reverse.foldl stops s.interpreter.patches⟩) :=
  onLlm_of_run (exitLlm_apply _)

theorem exitSub_api (s : Control Seed) : exitSub .api s
    = (.ok (), s.withApi ⟨[], s.api.reverse.foldl stops s.interpreter.patches⟩) :=
  onApi_of_run stopPatches_apply

theorem exitSub_time (s : Control Seed) : exitSub .time s
    = (.ok (), s.withTime ⟨[], (s.time.elim [] TimeControl.patches).reverse.foldl stops
        s.interpreter.patches⟩) :=
  onTime_of_run stopPatches_apply

theorem stopTime_of_none (htime : s.time = none) :
    s.withTime ⟨[], (s.time.elim [] TimeControl.patches).reverse.foldl stops s.interpreter.patches⟩
      = s := by
  obtain ⟨seed, time, api, llm, active, interpreter⟩ := s
  obtain rfl : time = none := htime
  rfl

/-- **Exiting stops the patches of all parts**, the last first, and leaves the parts without any. -/
theorem exit_of_parts (hactive : s.active = parts s.time) : ∃ t, exit s = (.ok (), t) ∧
    t.interpreter.patches = s.patches.reverse.foldl stops s.interpreter.patches ∧
    t.patches = [] := by
  let s₁ := s.withLlm ⟨[], s.llm.reverse.foldl stops s.interpreter.patches⟩
  let s₂ := s₁.withApi ⟨[], s₁.api.reverse.foldl stops s₁.interpreter.patches⟩
  have hs₂ : s₂.time = s.time := rfl
  let s₃ := s₂.withTime
    ⟨[], (s₂.time.elim [] TimeControl.patches).reverse.foldl stops s₂.interpreter.patches⟩
  have hrun : exit s = ((do
      (parts s.time).reverse.forM exitSub
      modify fun s ↦ { s with active := [] }) : Program (Control Seed) ControlError Unit) s := by
    rw [exit, bind_of_ok get_apply, hactive]
  have hparts : (partsToPatch s.time).reverse
      = [SubController.flags, .tools, .llm, .db, .api] ++
        if s.time.isSome then [SubController.time] else [] := by
    cases s.time <;> rfl
  have hlater : ∀ rest : List SubController,
      ([SubController.flags, .tools, .llm, .db, .api] ++ rest).forM exitSub s
        = rest.forM exitSub s₂ := by
    intro rest
    have hflags : exitSub .flags s = (.ok (), s) := rfl
    have htools : exitSub .tools s = (.ok (), s) := rfl
    have hdb : exitSub .db s₁ = (.ok (), s₁) := rfl
    rw [List.cons_append, forM_cons_of_ok hflags, List.cons_append, forM_cons_of_ok htools,
      List.cons_append, forM_cons_of_ok (exitSub_llm s), List.cons_append, forM_cons_of_ok hdb,
      List.cons_append, forM_cons_of_ok (exitSub_api s₁), List.nil_append]
  have htime : ((if s.time.isSome then [SubController.time] else []) ++ [SubController.rng]).forM
      exitSub s₂ = (.ok (), s₃) := by
    cases hs : s.time with
    | none =>
      rw [show s₃ = s₂ from stopTime_of_none hs]
      rfl
    | some time => exact forM_cons_of_ok (exitSub_time s₂)
  rw [hrun, parts_eq, List.reverse_cons, hparts, List.append_assoc]
  refine ⟨_, bind_of_ok ((hlater _).trans htime), ?_, ?_⟩
  · rw [patches, List.reverse_append, List.reverse_append, List.foldl_append, List.foldl_append]
    rfl
  · simp only [patches, s₃, withTime]
    cases s₂.time <;> rfl

/-! ## All or nothing -/

/-- What was entered is stopped by exiting, whatever happened in between that left it active. -/
theorem exit_stops (hidle : s.Idle)
    (hstarted : Started s.interpreter.patches s'.interpreter.patches s'.patches)
    (hactive : s'.active = parts s'.time) {replayed : Interpreter Seed}
    (hkept : ∀ p ∈ s'.patches,
      replayed.patches.active.count p = s'.interpreter.patches.active.count p) :
    ∃ t, exit { s' with interpreter := replayed } = (.ok (), t) ∧
      t.interpreter.patches.stopped = replayed.patches.stopped ++ s'.patches.reverse ∧
      ∀ p ∈ s'.patches, p ∉ t.interpreter.patches.active := by
  have hcount : ∀ p ∈ s'.patches, replayed.patches.active.count p = 1 := by
    intro p hp
    rw [hkept p hp, hstarted.active, List.count_append,
      List.count_eq_zero.mpr (hidle.fresh.notMem (hstarted.numbered p hp).1),
      List.count_eq_one_of_mem hstarted.nodup hp]
  obtain ⟨t, hrun, ht, -⟩ := exit_of_parts (s := { s' with interpreter := replayed }) hactive
  have hpatches : ({ s' with interpreter := replayed } : Control Seed).patches = s'.patches := rfl
  rw [hpatches] at ht
  have hnodup := List.nodup_reverse.mpr hstarted.nodup
  refine ⟨t, hrun, ?_, fun p hp ↦ ?_⟩
  · rw [ht, stopped_stopAll hnodup, List.filter_eq_self.mpr fun p hp ↦ ?_]
    have hone := hcount p (List.mem_reverse.mp hp)
    exact decide_eq_true (List.count_pos_iff.mp (hone.symm ▸ Nat.one_pos))
  · rw [← List.count_eq_zero, ht, count_stopAll hnodup, if_pos (List.mem_reverse.mpr hp),
      hcount p hp]

/-- **Entering an idle controller is all or nothing exactly when** the seeding raises, the first target
is missing, or nothing raises. -/
theorem allOrNothing_iff_settled (hidle : s.Idle) : AllOrNothing platform s ↔ s.Settled platform := by
  obtain ⟨hsettled, s', hrun, hactive, hstarted⟩ | ⟨e, s', ps, hrun, hstarted, hmade, hnil⟩ :=
    enter_of_idle platform hidle
  · refine iff_of_true ⟨fun e t hraise ↦ ?_, fun t hok replayed hkept ↦ ?_⟩ hsettled
    · exact absurd (Prod.mk.inj (hrun.symm.trans hraise)).1 (by simp)
    · obtain ⟨-, rfl⟩ := Prod.mk.inj (hrun.symm.trans hok)
      have hsince : s.startedSince s' = s'.patches := by
        rw [startedSince, hstarted.started, List.drop_left]
      rw [hsince] at hkept ⊢
      obtain ⟨t, hexit, hstopped, hinactive⟩ := exit_stops hidle hstarted hactive hkept
      exact ⟨t, _, hexit, hstopped, List.reverse_perm _, hinactive⟩
  · rw [← hnil]
    have hsince : s.startedSince s' = ps := by
      rw [startedSince, hstarted.started, List.drop_left]
    constructor
    · intro h
      cases ps with
      | nil => rfl
      | cons p ps =>
        refine absurd ?_ (h.1 e s' hrun p (Or.inr (hsince ▸ List.mem_cons_self)))
        rw [hstarted.active]
        exact List.mem_append_right _ List.mem_cons_self
    · rintro rfl
      refine ⟨fun e' t hraise p hp ↦ ?_, fun t hok ↦ ?_⟩
      · obtain ⟨-, rfl⟩ := Prod.mk.inj (hrun.symm.trans hraise)
        rw [hsince] at hp
        rw [hstarted.active, List.append_nil]
        exact hidle.fresh.notMem (hmade p (hp.resolve_right List.not_mem_nil))
      · exact absurd (Prod.mk.inj (hrun.symm.trans hok)).1 (by simp)

end Control

/-! ## A library that is not installed -/

section Missing

open Control

/-- Everything is installed but some libraries, and `numpy` takes seeds of 32 bits. -/
def platformWithout (missing : List String) : Platform ℤ where
  hasNumpy := true
  randomSeed _ := none
  numpySeed seed := if 0 ≤ seed ∧ seed < 2 ^ 32 then none else some .valueError
  unavailable target := if target ∈ missing then some .importError else none

/-- A new controller with the default seed, in an interpreter without patches. -/
def newControl : Control ℤ := init 42 (some 0) ⟨⟨0, [], [], []⟩, none, none⟩

theorem idle_newControl : newControl.Idle := idle_init fun _ h ↦ absurd h List.not_mem_nil

theorem allOrNothing_installed : AllOrNothing (platformWithout []) newControl :=
  (allOrNothing_iff_settled idle_newControl).mpr (Or.inr (Or.inr ⟨by simp [platformWithout],
    by simp [platformWithout]⟩))

/-- Without `requests` the patches of `time` and `httpx` stay active. -/
theorem not_allOrNothing_requests : ¬ ∀ (platform : Platform ℤ) (s : Control ℤ), s.Idle →
    AllOrNothing platform s := by
  intro h
  have hrun : ∃ s', enter (platformWithout ["requests.get", "requests.post"]) newControl
      = (.error .importError, s') ∧ ⟨0, "time.time", .returnValue 0⟩ ∈ s'.patches ∧
        ⟨0, "time.time", .returnValue 0⟩ ∈ s'.interpreter.patches.active :=
    ⟨_, rfl, by decide +kernel, by decide +kernel⟩
  obtain ⟨s', hraise, hmem, hactive⟩ := hrun
  exact (h _ _ idle_newControl).1 _ s' hraise _ (Or.inl hmem) hactive

end Missing

end DriftGuardX.Replay
