import DriftGuardX.Foundation.Transaction
import DriftGuardX.Replay.Engine
import Mathlib.Data.List.Induction
import Mathlib.Data.List.Nodup

/-!
# What a replay executes

A replay that is not refused goes through the steps of its pipeline, each a component type with its
version, until one of them raises. The versions are the replacement and those that the spans name,
which the checks have found to agree.

When all are taken, the span of the replay is built, and then the episode with what is computed for it.

That one component is swapped is checked nowhere. A trace without the target is replayed as it was,
a trace without types is replayed as the target alone, and an executor is looked up when others have
run already. Otherwise a replay executes what it should (`swapsExactlyOne_iff`).
-/

namespace DriftGuardX.Replay

open Json Program History
open Recovery (Raised)
open Transaction (bind_eq_ok_iff pure_eq_ok_iff)

/-- A component of the pipeline, and the version it runs with. -/
structure Step where
  componentType : ComponentType
  version : ComponentVersion
  deriving DecidableEq, Repr

variable {F : Type}

def Execution.step (execution : Execution F) : Step := ⟨execution.componentType, execution.version⟩

/-! ## The versions of the pipeline -/

section Order

variable {spans : List SpanRecord}

theorem eraseDups_removeAll_singleton {componentType : ComponentType} {types : List ComponentType} :
    ([componentType].removeAll types).eraseDups
      = if componentType ∈ types then [] else [componentType] := by
  by_cases h : componentType ∈ types
  · simp [List.removeAll, h]
  · simp [List.removeAll, h, List.eraseDups_cons]

theorem componentTypes_eq : componentTypes spans
    = (spans.filterMap SpanRecord.componentType).eraseDups := by
  induction spans using List.reverseRecOn with
  | nil => rfl
  | append_singleton spans span ih =>
    rw [componentTypes, List.foldl_concat, ← componentTypes, List.filterMap_append,
      List.eraseDups_append, ← ih]
    cases hspan : span.componentType with
    | none =>
      rw [List.filterMap_cons_none hspan]
      exact (List.append_nil _).symm
    | some componentType =>
      have hmem : componentType ∈ spans.filterMap SpanRecord.componentType ↔
          componentType ∈ componentTypes spans := by rw [ih, List.mem_eraseDups]
      rw [List.filterMap_cons_some hspan, List.filterMap_nil, eraseDups_removeAll_singleton,
        if_congr hmem rfl rfl]
      dsimp only
      split_ifs
      · exact (List.append_nil _).symm
      · rfl

theorem mem_componentTypes {componentType : ComponentType} :
    componentType ∈ componentTypes spans ↔
      ∃ span ∈ spans, span.componentType = some componentType := by
  rw [componentTypes_eq, List.mem_eraseDups, List.mem_filterMap]

theorem nodup_componentTypes : (componentTypes spans).Nodup := by
  induction spans using List.reverseRecOn with
  | nil => exact List.nodup_nil
  | append_singleton spans span ih =>
    rw [componentTypes, List.foldl_concat, ← componentTypes]
    split
    · split_ifs with hmem
      · exact ih
      · rw [← List.concat_eq_append]
        exact List.Nodup.concat hmem ih
    · exact ih

end Order

section Resolve

variable {registry : VersionRegistry} {request : ReplayRequest F} {resolved resolved' : Resolved}
  {visited : List SpanRecord} {span : SpanRecord}

variable (registry request) in
/-- The versions of some spans are resolved: those of the types besides the target are the
registered ones that the spans name. -/
def Resolves (visited : List SpanRecord) (resolved : Resolved) : Prop :=
  ∀ span ∈ visited, ∀ componentType, span.componentType = some componentType →
    componentType ≠ request.intervention.targetComponent →
      ∃ versionId version, span.componentVersionId = some versionId ∧
        registry.get versionId = some version ∧ resolved componentType = some version

variable (registry) in
/-- Resolved versions are registered under their ids. -/
def Registered (resolved : Resolved) : Prop :=
  ∀ componentType version, resolved componentType = some version →
    registry.get version.id = some version

/-- What a span that is not refused does: nothing, or it names a version that agrees with the one
that was found before. -/
theorem resolveSpan_cases (h : resolveSpan registry request resolved span = .ok resolved') :
    (resolved' = resolved ∧ ∀ componentType, span.componentType = some componentType →
      componentType = request.intervention.targetComponent) ∨
    ∃ componentType versionId version, span.componentType = some componentType ∧
      span.componentVersionId = some versionId ∧ registry.get versionId = some version ∧
      (∀ previous, resolved componentType = some previous → previous.id = version.id) ∧
      resolved' = Function.update resolved componentType (some version) := by
  rw [resolveSpan] at h
  split_ifs at h with hrun htarget htag
  · exact nomatch h
  · exact nomatch h
  · refine .inl ⟨(Except.ok.inj h).symm, fun componentType hspan ↦ ?_⟩
    rw [htarget] at hspan
    exact (Option.some.inj hspan).symm
  · cases hspan : span.componentType with
    | none =>
      rw [hspan] at h
      exact .inl ⟨(Except.ok.inj h).symm, nofun⟩
    | some componentType =>
      rw [hspan] at h
      cases hversion : span.componentVersionId.bind registry.get with
      | none =>
        rw [hversion] at h
        exact nomatch h
      | some version =>
        rw [hversion] at h
        dsimp only at h
        split_ifs at h with hmatch hconflict
        · exact nomatch h
        · exact nomatch h
        · obtain ⟨versionId, hid, hget⟩ := Option.bind_eq_some_iff.mp hversion
          have hagrees : ∀ previous, resolved componentType = some previous →
              previous.id = version.id := by
            intro previous hprevious
            simpa [hprevious] using hconflict
          exact .inr ⟨componentType, versionId, version, rfl, hid, hget, hagrees,
            (Except.ok.inj h).symm⟩

theorem Registered.resolveSpan (h : Registered registry resolved)
    (hspan : resolveSpan registry request resolved span = .ok resolved') :
    Registered registry resolved' := by
  obtain ⟨rfl, -⟩ | ⟨componentType, versionId, version, -, -, hget, -, rfl⟩ :=
    resolveSpan_cases hspan
  · exact h
  · intro other version' hversion'
    obtain rfl | hne := eq_or_ne other componentType
    · rw [Function.update_self] at hversion'
      obtain rfl := Option.some.inj hversion'
      rwa [VersionRegistry.id_of_get hget]
    · rw [Function.update_of_ne hne] at hversion'
      exact h other version' hversion'

/-- A type keeps the version that was found for it first. -/
theorem eq_of_resolveSpan (h : Registered registry resolved)
    (hspan : resolveSpan registry request resolved span = .ok resolved')
    {componentType : ComponentType} {version : ComponentVersion}
    (hversion : resolved componentType = some version) :
    resolved' componentType = some version := by
  obtain ⟨rfl, -⟩ | ⟨named, versionId, version', -, -, hget, hagrees, rfl⟩ :=
    resolveSpan_cases hspan
  · exact hversion
  · obtain rfl | hne := eq_or_ne componentType named
    · have hid := hagrees version hversion
      rw [VersionRegistry.id_of_get hget] at hid
      have hregistered := h componentType version hversion
      rw [hid, hget] at hregistered
      rw [Function.update_self, hregistered]
    · rwa [Function.update_of_ne hne]

theorem Resolves.resolveSpan (h : Resolves registry request visited resolved)
    (hregistered : Registered registry resolved)
    (hspan : resolveSpan registry request resolved span = .ok resolved') :
    Resolves registry request (visited ++ [span]) resolved' := by
  refine List.forall_mem_append.mpr ⟨?_, List.forall_mem_singleton.mpr ?_⟩
  · intro other hother componentType htype hne
    obtain ⟨versionId, version, hid, hget, hversion⟩ := h other hother componentType htype hne
    exact ⟨versionId, version, hid, hget, eq_of_resolveSpan hregistered hspan hversion⟩
  · intro componentType htype hne
    obtain ⟨-, htarget⟩ | ⟨named, versionId, version, hnamed, hid, hget, -, rfl⟩ :=
      resolveSpan_cases hspan
    · exact absurd (htarget componentType htype) hne
    · rw [htype] at hnamed
      obtain rfl := Option.some.inj hnamed
      exact ⟨versionId, version, hid, hget, Function.update_self _ _ _⟩

theorem resolves_of_resolveVersions (h : resolveVersions registry request = .ok resolved) :
    Resolves registry request request.originalTrace.spans resolved := by
  suffices hall : ∀ spans resolved, spans.foldlM (resolveSpan registry request) (fun _ ↦ none)
      = .ok resolved → Resolves registry request spans resolved ∧ Registered registry resolved from
    (hall _ resolved h).1
  intro spans
  induction spans using List.reverseRecOn with
  | nil =>
    intro resolved h
    obtain rfl := Except.ok.inj h
    exact ⟨fun _ hmem ↦ absurd hmem List.not_mem_nil, nofun⟩
  | append_singleton spans span ih =>
    intro resolved h
    rw [List.foldlM_append] at h
    cases hbefore : spans.foldlM (resolveSpan registry request) (fun _ ↦ none) with
    | error e =>
      rw [hbefore] at h
      exact nomatch h
    | ok before =>
      have hspan : resolveSpan registry request before span = .ok resolved := by
        rw [hbefore] at h
        exact (bind_pure _).symm.trans h
      obtain ⟨hresolves, hregistered⟩ := ih before hbefore
      exact ⟨hresolves.resolveSpan hregistered hspan, hregistered.resolveSpan hspan⟩

end Resolve

section Steps

variable (registry : VersionRegistry) (request : ReplayRequest F)

/-- The version of a type: the replacement, or the registered one that the first span of the type
names. -/
def namedVersion (componentType : ComponentType) : Option ComponentVersion :=
  if componentType = request.intervention.targetComponent then some request.replayVersion
  else ((request.originalTrace.spans.find? fun span ↦ span.componentType = some componentType).bind
    SpanRecord.componentVersionId).bind registry.get

/-- The steps for a pipeline: types without a version are skipped. -/
def stepsOf (order : List ComponentType) : List Step :=
  order.filterMap fun componentType ↦
    (namedVersion registry request componentType).map (Step.mk componentType)

/-- The steps of a replay. -/
def steps : List Step := stepsOf registry request (pipelineOrder request.originalTrace.spans)

variable {registry request} {resolved : Resolved} {componentType : ComponentType}

theorem versionFor_eq (h : Resolves registry request request.originalTrace.spans resolved) :
    versionFor request resolved componentType
      = .ok (namedVersion registry request componentType) := by
  rw [versionFor, namedVersion]
  split_ifs with htarget
  · rfl
  · cases hfind : request.originalTrace.spans.find?
        fun span ↦ span.componentType = some componentType with
    | none => rfl
    | some span =>
      obtain ⟨versionId, version, hid, hget, hversion⟩ := h span (List.mem_of_find?_eq_some hfind)
        componentType (by simpa using List.find?_some hfind) htarget
      dsimp only [Option.bind_some]
      rw [hid, hversion, Option.bind_some, hget]
      rfl

/-- Every span of a type besides the target names the version of the type. -/
theorem get_eq_namedVersion (h : Resolves registry request request.originalTrace.spans resolved)
    {span : SpanRecord} (hspan : span ∈ request.originalTrace.spans)
    (htype : span.componentType = some componentType)
    (hne : componentType ≠ request.intervention.targetComponent) :
    ∃ versionId version, span.componentVersionId = some versionId ∧
      registry.get versionId = some version ∧
        namedVersion registry request componentType = some version := by
  obtain ⟨versionId, version, hid, hget, hversion⟩ := h span hspan componentType htype hne
  refine ⟨versionId, version, hid, hget, ?_⟩
  have hfor : versionFor request resolved componentType = .ok (some version) := by
    rw [versionFor, if_neg hne]
    cases hfind : request.originalTrace.spans.find?
        fun span ↦ span.componentType = some componentType with
    | none => exact absurd (decide_eq_true htype) (List.find?_eq_none.mp hfind span hspan)
    | some first =>
      obtain ⟨firstId, -, hfirst, -⟩ := h first (List.mem_of_find?_eq_some hfind) componentType
        (by simpa using List.find?_some hfind) hne
      dsimp only
      rw [hfirst, hversion]
      rfl
  rw [versionFor_eq h] at hfor
  exact Except.ok.inj hfor

theorem exists_namedVersion (h : Resolves registry request request.originalTrace.spans resolved)
    (hmem : componentType ∈ componentTypes request.originalTrace.spans) :
    ∃ version, namedVersion registry request componentType = some version := by
  by_cases htarget : componentType = request.intervention.targetComponent
  · exact ⟨request.replayVersion, if_pos htarget⟩
  · obtain ⟨span, hspan, htype⟩ := mem_componentTypes.mp hmem
    obtain ⟨-, version, -, -, hversion⟩ := get_eq_namedVersion h hspan htype htarget
    exact ⟨version, hversion⟩

theorem componentType_stepsOf {order : List ComponentType}
    (h : ∀ componentType ∈ order,
      ∃ version, namedVersion registry request componentType = some version) :
    (stepsOf registry request order).map Step.componentType = order := by
  induction order with
  | nil => rfl
  | cons first order ih =>
    obtain ⟨⟨version, hversion⟩, hrest⟩ := List.forall_mem_cons.mp h
    rw [stepsOf, List.filterMap_cons_some (by rw [hversion]; rfl), List.map_cons]
    exact congrArg (first :: ·) (ih hrest)

theorem namedVersion_of_mem_steps {order : List ComponentType} {step : Step}
    (h : step ∈ stepsOf registry request order) : step.componentType ∈ order ∧
      namedVersion registry request step.componentType = some step.version := by
  obtain ⟨componentType, hmem, hstep⟩ := List.mem_filterMap.mp h
  obtain ⟨version, hversion, rfl⟩ := Option.map_eq_some_iff.mp hstep
  exact ⟨hmem, hversion⟩

end Steps

/-! ## The pipeline -/

section Pipeline

variable (lib : ReplayLibrary F) (env : ReplayEnvironment F) (request : ReplayRequest F)

/-- What a step raises when it comes after others. -/
def failure (before : List Step) (step : Step) : Option Raised :=
  match getExecutor env request step.componentType step.version.versionTag with
  | .error e => some e
  | .ok _ =>
    match recordAttempt lib env request step.componentType step.version
      (env.attempts before.length) with
    | .error e => some e
    | .ok _ => none

/-- None of the steps raises when they come after others. -/
def FineAfter (before steps : List Step) : Prop :=
  Always (fun prior step ↦ failure lib env request (before ++ prior) step = none) steps

/-- There is an executor for the step. -/
def Known (step : Step) : Prop := env.executors step.componentType step.version.versionTag ≠ none

instance (step : Step) : Decidable (Known env step) := inferInstanceAs (Decidable (_ ≠ _))

/-- How the loop ends that has some steps before it: all are taken, or one raises, which has been
executed if there is an executor for it. -/
inductive Ends (before steps : List Step) :
    Except Raised (Progress F) × List (Execution F) → Prop where
  | returned (progress : Progress F) (executed : List (Execution F))
      (hfine : FineAfter lib env request before steps)
      (hexecuted : executed.map Execution.step = before ++ steps) :
      Ends before steps (.ok progress, executed)
  | raised (front : List Step) (step : Step) (back : List Step) (e : Raised)
      (executed : List (Execution F)) (hsteps : steps = front ++ step :: back)
      (hfine : FineAfter lib env request before front)
      (hfailure : failure lib env request (before ++ front) step = some e)
      (hexecuted : executed.map Execution.step
        = before ++ front ++ if Known env step then [step] else []) :
      Ends before steps (.error e, executed)

variable {lib env request} {before steps : List Step} {step : Step}
  {executed : List (Execution F)} {progress : Progress F}

theorem ends_runVersion :
    Ends lib env request (executed.map Execution.step) [step]
      (runVersion lib env request step.componentType step.version progress executed) := by
  have hlength : (executed.map Execution.step ++ []).length = executed.length := by simp
  rw [runVersion]
  cases hexecutor : env.executors step.componentType step.version.versionTag with
  | none =>
    obtain ⟨e, hget⟩ : ∃ e, getExecutor env request step.componentType step.version.versionTag
        = .error e := by
      rw [getExecutor, hexecutor]
      exact ⟨_, rfl⟩
    have hunknown : ¬ Known env step := not_not.mpr hexecutor
    rw [ofExcept_bind_of_error hget]
    refine .raised [] step [] _ _ rfl always_nil ?_ ?_
    · rw [failure, hget]
    · rw [if_neg hunknown, List.append_nil, List.append_nil]
  | some executor =>
    have hget : getExecutor env request step.componentType step.version.versionTag
        = .ok executor := by rw [getExecutor, hexecutor]
    have hknown : Known env step := by
      rw [Known, hexecutor]
      exact Option.some_ne_none executor
    rw [ofExcept_bind_of_ok hget, bind_of_ok get_apply, bind_of_ok (modify_apply _)]
    cases hrecord : recordAttempt lib env request step.componentType step.version
        (env.attempts executed.length) with
    | error e =>
      rw [ofExcept_bind_of_error rfl]
      refine .raised [] step [] e _ rfl always_nil ?_ ?_
      · rw [failure, hget, hlength, hrecord]
      · rw [if_pos hknown, List.append_nil, List.map_append]
        rfl
    | ok recorded =>
      rw [ofExcept_bind_of_ok rfl]
      refine .returned _ _ (always_append_singleton.mpr ⟨always_nil, ?_⟩) ?_
      · rw [failure, hget, hlength, hrecord]
      · rw [List.map_append]
        rfl

theorem fineAfter_cons : FineAfter lib env request before (step :: steps) ↔
    failure lib env request before step = none ∧
      FineAfter lib env request (before ++ [step]) steps := by
  have happend : (fun prior other ↦ failure lib env request (before ++ step :: prior) other = none)
      = fun prior other ↦ failure lib env request (before ++ [step] ++ prior) other = none := by
    funext prior other
    rw [List.append_cons]
  rw [FineAfter, always_cons, List.append_nil, FineAfter, happend]

/-- A step, and a program that takes the steps after it. -/
theorem Ends.bind {x : Program (List (Execution F)) Raised (Progress F)}
    {f : Progress F → Program (List (Execution F)) Raised (Progress F)}
    (hx : Ends lib env request before [step] (x executed))
    (hf : ∀ progress executed, executed.map Execution.step = before ++ [step] →
      Ends lib env request (before ++ [step]) steps (f progress executed)) :
    Ends lib env request before (step :: steps) ((x >>= f) executed) := by
  generalize hrun : x executed = ended at hx
  cases hx with
  | returned progress after hfine hexecuted =>
    have hfirst := (fineAfter_cons.mp hfine).1
    have hrest := hf progress after hexecuted
    rw [bind_of_ok hrun]
    generalize f progress after = ended at hrest
    cases hrest with
    | returned progress last hfine hexecuted =>
      refine .returned progress last (fineAfter_cons.mpr ⟨hfirst, hfine⟩) ?_
      rw [hexecuted, ← List.append_cons]
    | raised front other back e last hsteps hfine hfailure hexecuted =>
      rw [← List.append_cons] at hfailure hexecuted
      refine .raised (step :: front) other back e last ?_ (fineAfter_cons.mpr ⟨hfirst, hfine⟩)
        hfailure hexecuted
      rw [hsteps, List.cons_append]
  | raised front other back e last hsteps hfine hfailure hexecuted =>
    obtain ⟨rfl, hother⟩ := List.append_eq_singleton_iff.mp hsteps.symm |>.resolve_right (by simp)
    obtain ⟨rfl, rfl⟩ := List.cons.inj hother
    rw [bind_of_error hrun]
    exact .raised [] other steps e last rfl hfine hfailure hexecuted

/-- The loop takes one step after the other until one raises. -/
theorem ends_runPipeline {registry : VersionRegistry} {resolved : Resolved}
    (h : Resolves registry request request.originalTrace.spans resolved)
    {order : List ComponentType} :
    Ends lib env request (executed.map Execution.step) (stepsOf registry request order)
      (runPipeline lib env request resolved order progress executed) := by
  induction order generalizing executed progress with
  | nil => exact .returned progress executed always_nil (List.append_nil _).symm
  | cons componentType order ih =>
    rw [runPipeline, ofExcept_bind_of_ok (versionFor_eq h)]
    cases hversion : namedVersion registry request componentType with
    | none =>
      rw [stepsOf, List.filterMap_cons_none (by rw [hversion]; rfl)]
      exact ih
    | some version =>
      rw [stepsOf, List.filterMap_cons_some (by rw [hversion]; rfl), ← stepsOf]
      have hturn : Ends lib env request (executed.map Execution.step) [⟨componentType, version⟩]
          (runVersion lib env request componentType version progress executed) := ends_runVersion
      apply hturn.bind
      intro progress executed hexecuted
      rw [← hexecuted]
      exact ih

/-- What holds of no steps, and of every step before others of which it holds, holds of the loop. -/
theorem runPipeline_induction {registry : VersionRegistry} {resolved : Resolved}
    (hresolves : Resolves registry request request.originalTrace.spans resolved)
    {P : List Step → Progress F → List (Execution F) → Progress F → Prop}
    (hnil : ∀ progress executed, P [] progress executed progress)
    (hcons : ∀ (step : Step) steps progress executed next after progress',
      runVersion lib env request step.componentType step.version progress executed
        = (.ok next, after) →
      P steps next after progress' → P (step :: steps) progress executed progress')
    {order : List ComponentType} {progress' : Progress F} {executed' : List (Execution F)}
    (h : runPipeline lib env request resolved order progress executed
      = (.ok progress', executed')) :
    P (stepsOf registry request order) progress executed progress' := by
  induction order generalizing progress executed with
  | nil =>
    obtain ⟨rfl, rfl⟩ := pure_returns_iff.mp h
    exact hnil _ _
  | cons componentType order ih =>
    rw [runPipeline, ofExcept_bind_of_ok (versionFor_eq hresolves)] at h
    cases hversion : namedVersion registry request componentType with
    | none =>
      rw [hversion] at h
      rw [stepsOf, List.filterMap_cons_none (by rw [hversion]; rfl)]
      exact ih h
    | some version =>
      rw [hversion] at h
      rw [stepsOf, List.filterMap_cons_some (by rw [hversion]; rfl), ← stepsOf]
      obtain ⟨next, after, hturn, h⟩ := bind_returns_iff.mp h
      exact hcons ⟨componentType, version⟩ _ _ _ next after _ hturn (ih h)

/-- What the components after some attempts are given, when some more were made. -/
def inputsFrom (env : ReplayEnvironment F) : ℕ → ℕ → Payload F → Payload F
  | _, 0, inputs => inputs
  | n, count + 1, inputs =>
    match (env.attempts n).outcome.result with
    | .ok (output, _) =>
      inputsFrom env (n + 1) count (output.foldl (fun inputs m ↦ setItem inputs m.1 m.2) inputs)
    | .error _ => inputs

theorem result_of_recordAttempt {componentType : ComponentType} {version : ComponentVersion}
    {attempt : Attempt F} {recorded : Payload F × Option F × SpanRecord}
    (h : recordAttempt lib env request componentType version attempt = .ok recorded) :
    ∃ error, attempt.outcome.result = .ok (recorded.1, error) := by
  rw [recordAttempt] at h
  obtain ⟨⟨output, error⟩, hresult, h⟩ := bind_eq_ok_iff.mp h
  suffices houtput : recorded.1 = output from ⟨error, houtput ▸ hresult⟩
  dsimp only at h
  split at h
  all_goals
    obtain ⟨score, -, h⟩ := bind_eq_ok_iff.mp h
    obtain ⟨span, -, h⟩ := bind_eq_ok_iff.mp h
    exact congrArg Prod.fst (pure_eq_ok_iff.mp h).symm

/-- A turn of the loop hands on the output of its attempt. -/
theorem inputs_of_runVersion {componentType : ComponentType} {version : ComponentVersion}
    {progress' : Progress F} {executed' : List (Execution F)}
    (h : runVersion lib env request componentType version progress executed
      = (.ok progress', executed')) (count : ℕ) :
    executed'.length = executed.length + 1 ∧
      inputsFrom env executed.length (count + 1) progress.currentInputs
        = inputsFrom env (executed.length + 1) count progress'.currentInputs := by
  simp only [runVersion, bind_returns_iff, ofExcept_returns_iff, get_returns_iff,
    modify_returns_iff, pure_returns_iff] at h
  obtain ⟨executor, _, ⟨-, rfl⟩, _, _, ⟨rfl, rfl⟩, -, _, rfl, recorded, _, ⟨hrecorded, rfl⟩, rfl,
    rfl⟩ := h
  refine ⟨List.length_append, ?_⟩
  obtain ⟨error, hresult⟩ := result_of_recordAttempt hrecorded
  rw [inputsFrom, hresult]
  rfl

/-- After the loop, the inputs are those after all attempts. -/
theorem inputs_of_runPipeline {registry : VersionRegistry} {resolved : Resolved}
    (hresolves : Resolves registry request request.originalTrace.spans resolved)
    {order : List ComponentType} {progress' : Progress F} {executed' : List (Execution F)}
    (h : runPipeline lib env request resolved order progress executed
      = (.ok progress', executed')) :
    progress'.currentInputs = inputsFrom env executed.length
      (stepsOf registry request order).length progress.currentInputs := by
  refine runPipeline_induction (P := fun steps progress executed progress' ↦
    progress'.currentInputs = inputsFrom env executed.length steps.length progress.currentInputs)
    hresolves (fun _ _ ↦ rfl) ?_ h
  intro step steps progress executed next after progress' hturn hlater
  have hinputs := inputs_of_runVersion hturn steps.length
  rw [List.length_cons, hinputs.2, hlater, hinputs.1]

end Pipeline

/-! ## What is executed -/

section Swaps

variable (lib : ReplayLibrary F) (env : ReplayEnvironment F) (registry : VersionRegistry)
  (request : ReplayRequest F)

/-- What is executed for an episode. -/
structure Swapped (executed : List (Execution F)) : Prop where
  order : executed.map Execution.componentType
    = (request.originalTrace.spans.filterMap SpanRecord.componentType).eraseDups
  target : (executed.filter fun execution ↦
    execution.componentType = request.intervention.targetComponent).map Execution.version
      = [request.replayVersion]
  preserved : ∀ execution ∈ executed,
    execution.componentType ≠ request.intervention.targetComponent →
      ∀ span ∈ request.originalTrace.spans, span.componentType = some execution.componentType →
        ∃ versionId, span.componentVersionId = some versionId ∧
          registry.get versionId = some execution.version

variable [FloatText F]

/-- One component is swapped, and a replay that is refused has executed nothing. -/
structure SwapsExactlyOne : Prop where
  returned : ∀ episode executed,
    executeReplay lib env request registry [] = (.ok episode, executed) →
      Swapped registry request executed
  refused : ∀ e executed, executeReplay lib env request registry [] = (.error e, executed) →
    e.kind.isValueError = true → executed = []

/-- The checks before the pipeline pass. -/
def Admitted : Prop := ∃ manifest resolved, checkManifest lib request = .ok manifest ∧
  resolveVersions registry request = .ok resolved

omit [FloatText F] in
/-- How the episode ends up when all steps were taken. -/
def conclusion : Except Raised Unit :=
  match request.manifest with
  | none => .ok ()
  | some manifest => conclude lib request
    (inputsFrom env 0 (steps registry request).length (initialInputs request manifest))

omit [FloatText F] in
/-- Of what can go wrong in the pipeline and after it, nothing is seen. -/
structure Sound : Prop where
  /-- When a `ValueError` is the first exception, it is for the executor of the first component. -/
  lookup : Always (fun before step ↦ FineAfter lib env request [] before →
    ∀ e, failure lib env request before step = some e → e.kind.isValueError = true →
      before = [] ∧ ¬ Known env step) (steps registry request)
  /-- The clock is not set back between the start and the end of a replay of some components. -/
  clock : FineAfter lib env request [] (steps registry request) → env.stop < env.start →
    steps registry request = []
  /-- The episode of a replay of some components is not refused. -/
  episode : FineAfter lib env request [] (steps registry request) → env.start ≤ env.stop →
    ∀ e, conclusion lib env registry request = .error e → e.kind.isValueError = true →
      steps registry request = []
  /-- When nothing raises, the trace has the target. -/
  target : FineAfter lib env request [] (steps registry request) → env.start ≤ env.stop →
    conclusion lib env registry request = .ok () →
      request.intervention.targetComponent ∈ componentTypes request.originalTrace.spans

variable {lib env registry request} {executed : List (Execution F)} {resolved : Resolved}

theorem swapsExactlyOne_of_ok {episode : ReplayEpisode × List SpanRecord × Option F}
    (h : executeReplay lib env request registry [] = (.ok episode, executed)) :
    SwapsExactlyOne lib env registry request ↔ Swapped registry request executed := by
  refine ⟨fun hswaps ↦ hswaps.returned episode executed h, fun hswapped ↦ ⟨?_, ?_⟩⟩
  · intro _ _ heq
    exact (Prod.mk.inj (h.symm.trans heq)).2 ▸ hswapped
  · intro _ _ heq
    exact nomatch (Prod.mk.inj (h.symm.trans heq)).1

theorem swapsExactlyOne_of_error {e : Raised}
    (h : executeReplay lib env request registry [] = (.error e, executed)) :
    SwapsExactlyOne lib env registry request ↔ (e.kind.isValueError = true → executed = []) := by
  refine ⟨fun hswaps ↦ hswaps.refused e executed h, fun hrefused ↦ ⟨?_, ?_⟩⟩
  · intro _ _ heq
    exact nomatch (Prod.mk.inj (h.symm.trans heq)).1
  · intro _ _ heq
    obtain ⟨he, rfl⟩ := Prod.mk.inj (h.symm.trans heq)
    exact Except.error.inj he ▸ hrefused

omit [FloatText F] in
/-- Steps of distinct types with the named versions have one for a type. -/
theorem filter_steps {order : List ComponentType} {target : ComponentType}
    {version : ComponentVersion} (hnodup : order.Nodup) (hmem : target ∈ order)
    (hversion : namedVersion registry request target = some version) :
    (stepsOf registry request order).filter (fun step ↦ step.componentType = target)
      = [⟨target, version⟩] := by
  induction order with
  | nil => exact absurd hmem List.not_mem_nil
  | cons first order ih =>
    obtain ⟨hnew, hnodup⟩ := List.nodup_cons.mp hnodup
    obtain rfl | hne := eq_or_ne first target
    · have hnone : (stepsOf registry request order).filter
          (fun step ↦ step.componentType = first) = [] := by
        refine List.filter_eq_nil_iff.mpr fun step hstep htype ↦ hnew ?_
        exact of_decide_eq_true htype ▸ (namedVersion_of_mem_steps hstep).1
      rw [stepsOf, List.filterMap_cons_some (by rw [hversion]; rfl), ← stepsOf,
        List.filter_cons_of_pos (by simp), hnone]
    · have hrest := ih hnodup ((List.mem_cons.mp hmem).resolve_left hne.symm)
      cases hfirst : namedVersion registry request first with
      | none =>
        rw [stepsOf, List.filterMap_cons_none (by rw [hfirst]; rfl)]
        exact hrest
      | some other =>
        rw [stepsOf, List.filterMap_cons_some (by rw [hfirst]; rfl), ← stepsOf,
          List.filter_cons_of_neg (by simpa using hne)]
        exact hrest

omit [FloatText F] in
theorem swapped_iff (h : Resolves registry request request.originalTrace.spans resolved)
    (hexecuted : executed.map Execution.step = steps registry request) :
    Swapped registry request executed ↔
      request.intervention.targetComponent ∈ componentTypes request.originalTrace.spans := by
  have htypes : executed.map Execution.componentType
      = (steps registry request).map Step.componentType := by
    rw [← hexecuted, List.map_map]
    rfl
  constructor
  · intro hswapped
    have hne : (executed.filter fun execution ↦
        execution.componentType = request.intervention.targetComponent) ≠ [] := by
      intro hnil
      have htarget := hswapped.target
      rw [hnil] at htarget
      exact nomatch htarget
    obtain ⟨execution, hmem⟩ := List.exists_mem_of_ne_nil _ hne
    obtain ⟨hexecution, htype⟩ := List.mem_filter.mp hmem
    rw [componentTypes_eq, ← hswapped.order, ← of_decide_eq_true htype]
    exact List.mem_map_of_mem hexecution
  · intro htarget
    have horder : pipelineOrder request.originalTrace.spans
        = componentTypes request.originalTrace.spans := if_neg (List.ne_nil_of_mem htarget)
    rw [steps, horder] at hexecuted htypes
    refine ⟨?_, ?_, ?_⟩
    · rw [htypes, componentType_stepsOf fun _ hmem ↦ exists_namedVersion h hmem, componentTypes_eq]
    · have hfilter : (executed.filter fun execution ↦
            execution.componentType = request.intervention.targetComponent).map Execution.step
          = (executed.map Execution.step).filter
            fun step ↦ step.componentType = request.intervention.targetComponent := by
        rw [List.filter_map]
        rfl
      have hversions : ∀ executions : List (Execution F), executions.map Execution.version
          = (executions.map Execution.step).map Step.version := by
        intro executions
        rw [List.map_map]
        rfl
      rw [hversions, hfilter, hexecuted,
        filter_steps nodup_componentTypes htarget (if_pos rfl)]
      rfl
    · intro execution hmem hne span hspan htype
      have hstep : execution.step ∈ stepsOf registry request
          (componentTypes request.originalTrace.spans) :=
        hexecuted ▸ List.mem_map_of_mem hmem
      have hnamed := (namedVersion_of_mem_steps hstep).2
      obtain ⟨versionId, version, hid, hget, hversion⟩ := get_eq_namedVersion h hspan htype hne
      refine ⟨versionId, hid, ?_⟩
      rw [hget]
      exact hversion.symm.trans hnamed

theorem manifest_of_checkManifest {manifest : ReplayStateManifest F}
    (h : checkManifest lib request = .ok manifest) : request.manifest = some manifest := by
  rw [checkManifest] at h
  cases hgiven : request.manifest with
  | none =>
    rw [hgiven] at h
    exact nomatch h
  | some given =>
    rw [hgiven] at h
    dsimp only at h
    split at h
    · exact nomatch h
    · split at h
      · exact nomatch h
      · obtain ⟨hash, -, h⟩ := bind_eq_ok_iff.mp h
        split_ifs at h
        all_goals first | exact congrArg some (Except.ok.inj h) | exact nomatch h

theorem swapsExactlyOne_of_not_admitted (h : ¬ Admitted lib registry request) :
    SwapsExactlyOne lib env registry request := by
  have hrun : ∃ e, executeReplay lib env request registry [] = (.error e, []) := by
    rw [executeReplay]
    cases hmanifest : checkManifest lib request with
    | error e => exact ⟨e, ofExcept_bind_of_error rfl⟩
    | ok manifest =>
      rw [ofExcept_bind_of_ok rfl]
      cases hresolved : resolveVersions registry request with
      | error e => exact ⟨e, ofExcept_bind_of_error rfl⟩
      | ok resolved => exact absurd ⟨manifest, resolved, hmanifest, hresolved⟩ h
  obtain ⟨e, he⟩ := hrun
  exact (swapsExactlyOne_of_error he).mpr fun _ ↦ rfl

omit [FloatText F] in
theorem build_rootSpan : (rootSpan env request).build lib =
    if env.stop < env.start then .error ⟨.valueError, lib.spanError (rootSpan env request)⟩
    else .ok
      { runId := env.replayId
        tenantId := request.originalRun.tenantId
        pipelineId := request.originalRun.pipelineId
        name := "replay_pipeline"
        startTime := env.start
        endTime := some env.stop
        statusCode := "OK"
        componentType := none
        componentVersionId := none
        componentVersionTag := none
        tokenCountInput := none
        tokenCountOutput := none
        policyResult := none
        errorType := none
        errorMessage := none } := rfl

omit [FloatText F] in
/-- When no step raises, the conditions are those on the clock, the episode and the target. -/
theorem sound_iff_of_fine (hfine : FineAfter lib env request [] (steps registry request)) :
    Sound lib env registry request ↔ (env.stop < env.start → steps registry request = []) ∧
      (env.start ≤ env.stop →
        (∀ e, conclusion lib env registry request = .error e → e.kind.isValueError = true →
          steps registry request = []) ∧
        (conclusion lib env registry request = .ok () →
          request.intervention.targetComponent ∈ componentTypes request.originalTrace.spans)) := by
  refine ⟨fun h ↦ ⟨h.clock hfine, fun hle ↦ ⟨h.episode hfine hle, h.target hfine hle⟩⟩,
    fun h ↦ ⟨?_, fun _ ↦ h.1, fun _ hle ↦ (h.2 hle).1, fun _ hle ↦ (h.2 hle).2⟩⟩
  intro before step after heq _ e hfailure
  have hnone : failure lib env request before step = none := hfine before step after heq
  rw [hnone] at hfailure
  exact nomatch hfailure

omit [FloatText F] in
/-- When a step raises, the condition is that on this step. -/
theorem sound_iff_of_failure {front back : List Step} {step : Step} {e : Raised}
    (hsteps : steps registry request = front ++ step :: back)
    (hfine : FineAfter lib env request [] front)
    (hfailure : failure lib env request front step = some e) :
    Sound lib env registry request ↔
      (e.kind.isValueError = true → front = [] ∧ ¬ Known env step) := by
  have hnot : ∀ {rest}, ¬ FineAfter lib env request [] (front ++ step :: rest) := by
    intro rest hall
    have hnone : failure lib env request front step = none := hall front step rest rfl
    rw [hnone] at hfailure
    exact nomatch hfailure
  refine ⟨fun h ↦ h.lookup front step back hsteps hfine e hfailure, fun h ↦ ⟨?_, ?_, ?_, ?_⟩⟩
  · intro before other after heq hbefore e' hfailure'
    obtain ⟨rfl, rfl⟩ | ⟨between, rfl⟩ | ⟨between, rfl⟩ := positions (hsteps.symm.trans heq)
    · rw [hfailure] at hfailure'
      exact Option.some.inj hfailure' ▸ h
    · exact absurd hbefore hnot
    · have hnone : failure lib env request before other = none := hfine before other between rfl
      rw [hnone] at hfailure'
      exact nomatch hfailure'
  all_goals
    intro hall
    exact absurd (hsteps ▸ hall) hnot

/-- A replay swaps exactly one component when it is not admitted or nothing of what can go wrong in
the pipeline is seen, and only then. -/
theorem swapsExactlyOne_iff : SwapsExactlyOne lib env registry request ↔
    (Admitted lib registry request → Sound lib env registry request) := by
  by_cases hadmitted : Admitted lib registry request
  · rw [forall_prop_of_true hadmitted]
    obtain ⟨manifest, resolved, hmanifest, hversions⟩ := hadmitted
    have hresolves := resolves_of_resolveVersions hversions
    let pipeline := runPipeline lib env request resolved (pipelineOrder request.originalTrace.spans)
      ⟨initialInputs request manifest, [], none, false⟩
    have hends : Ends lib env request (List.map Execution.step []) (steps registry request)
        (pipeline []) := ends_runPipeline hresolves
    rw [List.map_nil] at hends
    have hreplay : executeReplay lib env request registry []
        = (pipeline >>= fun progress ↦ ofExcept ((rootSpan env request).build lib) >>= fun root ↦
          ofExcept (conclude lib request progress.currentInputs) >>= fun _ ↦
          pure (buildEpisode env request manifest progress, root :: progress.spans,
            progress.faithfulnessScore)) [] := by
      rw [executeReplay, ofExcept_bind_of_ok hmanifest, ofExcept_bind_of_ok hversions]
    generalize hrun : pipeline [] = ended at hends
    cases hends with
    | returned progress executed hfine hexecuted =>
      rw [bind_of_ok hrun] at hreplay
      have hempty : executed = [] ↔ steps registry request = [] := by
        rw [← List.map_eq_nil_iff (f := Execution.step), hexecuted, List.nil_append]
      rw [sound_iff_of_fine hfine]
      by_cases hclock : env.stop < env.start
      · rw [ofExcept_bind_of_error (build_rootSpan.trans (if_pos hclock))] at hreplay
        rw [swapsExactlyOne_of_error hreplay, hempty]
        refine ⟨fun h ↦ ⟨fun _ ↦ h rfl, fun hle ↦ ?_⟩, fun h _ ↦ h.1 hclock⟩
        exact absurd hle (not_le.mpr hclock)
      · rw [ofExcept_bind_of_ok (build_rootSpan.trans (if_neg hclock))] at hreplay
        have hconclusion : conclusion lib env registry request
            = conclude lib request progress.currentInputs := by
          rw [conclusion, manifest_of_checkManifest hmanifest,
            inputs_of_runPipeline hresolves hrun]
          rfl
        rw [forall_prop_of_true (not_lt.mp hclock), hconclusion,
          and_iff_right fun hlt ↦ absurd hlt hclock]
        cases hconclude : conclude lib request progress.currentInputs with
        | error e =>
          rw [ofExcept_bind_of_error hconclude] at hreplay
          rw [swapsExactlyOne_of_error hreplay, hempty]
          simp
        | ok u =>
          rw [ofExcept_bind_of_ok hconclude] at hreplay
          rw [swapsExactlyOne_of_ok hreplay, swapped_iff hresolves hexecuted]
          simp
    | raised front step back e executed hsteps hfine hfailure hexecuted =>
      rw [bind_of_error hrun] at hreplay
      rw [swapsExactlyOne_of_error hreplay, sound_iff_of_failure hsteps hfine hfailure,
        ← List.map_eq_nil_iff (f := Execution.step), hexecuted]
      refine imp_congr_right fun _ ↦ ?_
      by_cases hknown : Known env step
      · simp [hknown]
      · simp [hknown]
  · exact iff_of_true (swapsExactlyOne_of_not_admitted hadmitted) fun h ↦ absurd h hadmitted

end Swaps

/-! ## A trace without the target -/

section Examples

def emptyLibrary : ReplayLibrary Empty where
  sha256 _ := ""
  toFloat _ := .error ⟨.typeError, ""⟩
  subtract _ := .error ⟨.typeError, ""⟩
  encodable _ := true
  dumpsError _ := ""
  encodeError _ := ""
  spanError _ := ""
  episodeError _ := ""

/-- Every component runs at once and returns nothing. -/
def quietEnvironment : ReplayEnvironment Empty where
  executors := executorMap
  attempts _ := ⟨0, 0, .output []⟩
  start := 0
  stop := 0
  replayId := 0

def pinnedManifest : ReplayStateManifest Empty where
  id := 0
  runId := 0
  tenantId := 0
  originalQuery := some "q"
  originalQueryHash := some "q"
  corpusVersionId := some "c"
  modelProvider := some "p"
  modelIdentifier := some "m"
  modelConfigHash := some "m"
  promptTemplateHash := some "t"
  retrieverVersion := some "v1"
  retrieverSettings := [("k", .int 5)]
  retrievedChunkIds := ["chunk"]
  embeddingProvider := some "p"
  embeddingModelId := some "e"
  embeddingModelVersion := some "e1"
  embeddingVectorDimension := some 8
  embeddingConfigHash := some "e"
  vectorIndexSnapshotId := some "i"
  toolSchemasHash := some "s"
  policyConfigHash := some "p"
  memorySnapshotId := some "s"
  randomSeed := some 42
  generationParameters := []
  containerImageDigest := some "d"
  dependencyLockfileHash := some "l"
  traceRootHash := some "r"
  manifestHash := ""

def generatorV1 : ComponentVersion := ⟨1, .generator, "v1"⟩

def retrieverV1 : ComponentVersion := ⟨2, .retriever, "v1"⟩

/-- The versions of a generator. -/
def generatorRegistry : VersionRegistry := ⟨[generatorV1], by decide⟩

/-- A span of the generator, the only component that ran. -/
def generatorSpan : SpanRecord where
  runId := 0
  tenantId := 0
  pipelineId := 0
  name := "generator/v1"
  startTime := 0
  endTime := some 0
  statusCode := "OK"
  componentType := some .generator
  componentVersionId := some generatorV1.id
  componentVersionTag := some "v1"
  tokenCountInput := none
  tokenCountOutput := none
  policyResult := none
  errorType := none
  errorMessage := none

/-- A retriever is to be replaced that the trace does not have. -/
def withoutTarget : ReplayRequest Empty where
  originalRun := ⟨0, 0, 0, .production⟩
  originalTrace := ⟨0, 0, 0, [generatorSpan], .production⟩
  intervention := ⟨.retriever, some "v2-exp", some "v1"⟩
  replayVersion := retrieverV1
  originalReliabilityVector := []
  seed := 42
  manifest := some pinnedManifest

/-- The replay returns an episode for the retriever and has executed the generator only. -/
theorem not_swapsExactlyOne_withoutTarget :
    ¬ SwapsExactlyOne emptyLibrary quietEnvironment generatorRegistry withoutTarget := by
  intro h
  obtain ⟨episode, executed, hrun⟩ | ⟨e, executed, hrun⟩ := exists_ok_or_error
    (executeReplay emptyLibrary quietEnvironment withoutTarget generatorRegistry) []
  · have hversions : (executeReplay emptyLibrary quietEnvironment withoutTarget generatorRegistry
        []).2.map Execution.version = [generatorV1] := by decide +kernel
    rw [hrun] at hversions
    have hreplaced : retrieverV1 ∈ (executed.filter fun execution ↦
        execution.componentType = withoutTarget.intervention.targetComponent).map
          Execution.version := by
      rw [(h.returned episode executed hrun).target]
      exact List.mem_singleton_self retrieverV1
    obtain ⟨execution, hmem, hversion⟩ := List.mem_map.mp hreplaced
    have hexecuted : retrieverV1 ∈ executed.map Execution.version :=
      hversion ▸ List.mem_map_of_mem (List.mem_filter.mp hmem).1
    rw [hversions] at hexecuted
    exact absurd hexecuted (by decide)
  · have hreturns : (executeReplay emptyLibrary quietEnvironment withoutTarget generatorRegistry
        []).1.toOption.isSome = true := by decide +kernel
    rw [hrun] at hreturns
    exact nomatch hreturns

end Examples

end DriftGuardX.Replay
