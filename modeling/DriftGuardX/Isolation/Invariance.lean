import DriftGuardX.Foundation.KeyTable
import DriftGuardX.Isolation.Isolator
import DriftGuardX.Json.RoundTrip

/-!
# What a clean invariance check says

After a replay its manifest is compared with the original one, and the quarantine is refused when a
variable that may not change has changed. The comparison goes through the entries of the original
manifest and reads the replay's value with `get`, which answers `None` for a key that is not there.

So a key that the replay added is never looked at, and a key with the value `None` that the replay
removed compares equal. Whether a clean check means that nothing else changed is decided by these two
(`clean_iff_nothingElseChanged`).
-/

namespace DriftGuardX.Isolation

open Json

/-- A dictionary with string keys. -/
abbrev Dict (V : Type) := KeyTable fun entry : String × V ↦ entry.1

/-- `d.get(key)`, where it is there. -/
def Dict.value? {V : Type} (d : Dict V) (key : String) : Option V :=
  (d.get? key).map Prod.snd

/-- The parts of a replay state manifest that are compared. -/
structure ReplayStateManifest (V : Type) where
  taskState : Dict V
  prompts : Dict String

/-- What a divergence reports: the value that was expected, and the value that was found. -/
inductive Divergence (V : Type) where
  | state (expected actual : V)
  | prompt (expected : String) (actual : Option String)

/-- The exception of the check, with the divergences that its message lists. -/
structure ContaminationError (V : Type) where
  divergences : List (String × Divergence V)

/-- The value under the key `status` of a check that passes. -/
def cleanStatus : String := "clean"

variable {V : Type} [BEq V] (pyNone : V)

/-! ## The check -/

/-- The comparison of one entry of the task state. -/
def compareState (replay : ReplayStateManifest V) (allowed intervened : List String)
    (divergences : List (String × Divergence V)) (entry : String × V) :
    List (String × Divergence V) :=
  if entry.1 ∈ allowed ∨ entry.1 ∈ intervened then divergences
  else
    let replayValue := (replay.taskState.value? entry.1).getD pyNone
    if replayValue != entry.2 then setItem divergences entry.1 (.state entry.2 replayValue)
    else divergences

omit [BEq V] in
/-- The comparison of one prompt. -/
def comparePrompt (replay : ReplayStateManifest V) (intervened : List String)
    (divergences : List (String × Divergence V)) (entry : String × String) :
    List (String × Divergence V) :=
  if entry.1 ∈ intervened then divergences
  else
    let replayPrompt := replay.prompts.value? entry.1
    if replayPrompt ≠ some entry.2 then
      setItem divergences s!"prompt:{entry.1}" (.prompt entry.2 replayPrompt)
    else divergences

/-- `verify_no_contamination`. -/
def verifyNoContamination (original replay : ReplayStateManifest V)
    (allowed intervened : List String) : Except (ContaminationError V) String :=
  let divergences := original.taskState.rows.foldl (compareState pyNone replay allowed intervened) []
  let divergences := original.prompts.rows.foldl (comparePrompt replay intervened) divergences
  if divergences = [] then .ok cleanStatus else .error ⟨divergences⟩

/-- The exception of the isolator, with the one of the check as its cause. -/
structure InvarianceViolation (V : Type) where
  cause : ContaminationError V

/-- `enforce_invariance_and_quarantine`, with the identifier that is drawn for the rule. -/
def CausalIsolator.enforceInvarianceAndQuarantine (isolator : CausalIsolator)
    (rootCauseComponent description ruleId : String) (original replay : ReplayStateManifest V)
    (allowed intervened : List String) :
    Except (InvarianceViolation V) QuarantineRule × CausalIsolator :=
  match verifyNoContamination pyNone original replay allowed intervened with
  | .error e => (.error ⟨e⟩, isolator)
  | .ok _ =>
    let rule : QuarantineRule := ⟨ruleId, rootCauseComponent, description, true, true⟩
    (.ok rule, { isolator with activeRules := isolator.activeRules ++ [rule] })

/-! ## What it is for -/

/-- A variable that may not change. -/
def Frozen (allowed intervened : List String) (key : String) : Prop :=
  key ∉ allowed ∧ key ∉ intervened

instance (allowed intervened : List String) (key : String) :
    Decidable (Frozen allowed intervened key) :=
  inferInstanceAs (Decidable (_ ∧ _))

/-- The manifests agree on the presence and the value of every variable that may not change. -/
structure NothingElseChanged (original replay : ReplayStateManifest V)
    (allowed intervened : List String) : Prop where
  taskState : ∀ key, Frozen allowed intervened key → Option.Rel
    (fun value replayValue ↦ (replayValue != value) = false)
    (original.taskState.value? key) (replay.taskState.value? key)
  prompts : ∀ key ∉ intervened, original.prompts.value? key = replay.prompts.value? key

/-- An entry of the original manifest that may not change has another value in the replay, where a
variable that is gone counts as `None`. -/
def Diverges (original replay : ReplayStateManifest V) (allowed intervened : List String) : Prop :=
  (∃ entry ∈ original.taskState.rows, Frozen allowed intervened entry.1 ∧
    ((replay.taskState.value? entry.1).getD pyNone != entry.2) = true) ∨
  ∃ entry ∈ original.prompts.rows, entry.1 ∉ intervened ∧
    replay.prompts.value? entry.1 ≠ some entry.2

/-- No variable that may not change was added by the replay, and none with the value `None` was
removed by it. -/
structure KeysKept (original replay : ReplayStateManifest V) (allowed intervened : List String) :
    Prop where
  added : ∀ entry ∈ replay.taskState.rows, Frozen allowed intervened entry.1 →
    (original.taskState.value? entry.1).isSome
  removed : ∀ entry ∈ original.taskState.rows, Frozen allowed intervened entry.1 →
    (pyNone != entry.2) = false → (replay.taskState.value? entry.1).isSome
  addedPrompts : ∀ entry ∈ replay.prompts.rows, entry.1 ∉ intervened →
    (original.prompts.value? entry.1).isSome

/-! ## The divergences -/

section Loops

variable {pyNone} {original replay : ReplayStateManifest V} {allowed intervened : List String}

theorem setItem_ne_nil {α : Type} (kvs : List (String × α)) (k : String) (a : α) :
    setItem kvs k a ≠ [] := by
  rw [setItem]
  split
  · rename_i hmem
    rintro hnil
    rw [List.map_eq_nil_iff] at hnil
    rw [hnil] at hmem
    exact List.not_mem_nil hmem
  · exact List.append_ne_nil_of_right_ne_nil _ (List.cons_ne_nil _ _)

/-- A loop that only adds divergences finds none exactly when none of its entries diverges. -/
theorem foldl_eq_nil_iff {α β : Type} {f : List β → α → List β} {p : α → Prop}
    (hf : ∀ acc a, f acc a = [] ↔ acc = [] ∧ ¬ p a) (l : List α) (acc : List β) :
    l.foldl f acc = [] ↔ acc = [] ∧ ∀ a ∈ l, ¬ p a := by
  induction l generalizing acc with
  | nil => simp
  | cons a l ih => rw [List.foldl_cons, ih, hf, List.forall_mem_cons, and_assoc]

theorem compareState_eq_nil_iff (divergences : List (String × Divergence V)) (entry : String × V) :
    compareState pyNone replay allowed intervened divergences entry = [] ↔ divergences = [] ∧
      ¬ (Frozen allowed intervened entry.1 ∧
        ((replay.taskState.value? entry.1).getD pyNone != entry.2) = true) := by
  rw [compareState]
  split
  · rename_i hlisted
    have hnot : ¬ Frozen allowed intervened entry.1 := fun hfrozen ↦
      hlisted.elim hfrozen.1 hfrozen.2
    simp [hnot]
  · rename_i hlisted
    have hfrozen : Frozen allowed intervened entry.1 := not_or.mp hlisted
    dsimp only
    split
    · rename_i hne
      simp [setItem_ne_nil, hfrozen, hne]
    · rename_i heq
      simp [heq]

omit [BEq V] in
theorem comparePrompt_eq_nil_iff (divergences : List (String × Divergence V))
    (entry : String × String) :
    comparePrompt replay intervened divergences entry = [] ↔ divergences = [] ∧
      ¬ (entry.1 ∉ intervened ∧ replay.prompts.value? entry.1 ≠ some entry.2) := by
  rw [comparePrompt]
  split
  · rename_i hlisted
    simp [hlisted]
  · rename_i hlisted
    dsimp only
    split
    · rename_i hne
      simp [setItem_ne_nil, hlisted, hne]
    · rename_i heq
      simp [not_not.mp heq]

theorem verifyNoContamination_eq_ok_iff :
    (∃ status, verifyNoContamination pyNone original replay allowed intervened = .ok status)
      ↔ ¬ Diverges pyNone original replay allowed intervened := by
  have hnil : original.prompts.rows.foldl (comparePrompt replay intervened)
      (original.taskState.rows.foldl (compareState pyNone replay allowed intervened) []) = []
        ↔ ¬ Diverges pyNone original replay allowed intervened := by
    rw [foldl_eq_nil_iff comparePrompt_eq_nil_iff, foldl_eq_nil_iff compareState_eq_nil_iff,
      Diverges, not_or]
    simp only [true_and, not_exists, not_and]
  rw [← hnil, verifyNoContamination]
  split
  · rename_i hclean
    exact iff_of_true ⟨_, rfl⟩ hclean
  · rename_i hdirty
    exact iff_of_false (by rintro ⟨_, ⟨⟩⟩) hdirty

/-- The isolator applies the rule exactly when the check passes. -/
theorem enforce_eq_ok_iff {isolator : CausalIsolator}
    {rootCauseComponent description ruleId : String} :
    (∃ rule, (isolator.enforceInvarianceAndQuarantine pyNone rootCauseComponent description ruleId
        original replay allowed intervened).1 = .ok rule)
      ↔ ¬ Diverges pyNone original replay allowed intervened := by
  rw [← verifyNoContamination_eq_ok_iff, CausalIsolator.enforceInvarianceAndQuarantine]
  cases verifyNoContamination pyNone original replay allowed intervened with
  | error e => exact iff_of_false (by rintro ⟨_, ⟨⟩⟩) (by rintro ⟨_, ⟨⟩⟩)
  | ok status => exact iff_of_true ⟨_, rfl⟩ ⟨_, rfl⟩

end Loops

/-! ## What a clean check says -/

section Clean

variable {pyNone} {original replay : ReplayStateManifest V} {allowed intervened : List String}

theorem Dict.value?_eq_some_iff {α : Type} {d : Dict α} {key : String} {value : α} :
    d.value? key = some value ↔ (key, value) ∈ d.rows := by
  rw [Dict.value?, Option.map_eq_some_iff]
  constructor
  · rintro ⟨entry, hget, rfl⟩
    obtain ⟨hmem, rfl⟩ := KeyTable.get?_eq_some_iff.mp hget
    exact hmem
  · intro hmem
    exact ⟨(key, value), KeyTable.get?_eq_some_iff.mpr ⟨hmem, rfl⟩, rfl⟩

theorem Dict.isSome_of_mem {α : Type} {d : Dict α} {entry : String × α} (h : entry ∈ d.rows) :
    (d.value? entry.1).isSome :=
  Option.isSome_iff_exists.mpr ⟨entry.2, Dict.value?_eq_some_iff.mpr h⟩

theorem keysKept_of_nothingElseChanged
    (h : NothingElseChanged original replay allowed intervened) :
    KeysKept pyNone original replay allowed intervened where
  added entry hentry hfrozen := by
    have hrel := h.taskState entry.1 hfrozen
    rw [Dict.value?_eq_some_iff.mpr hentry] at hrel
    cases horiginal : original.taskState.value? entry.1 with
    | none =>
      rw [horiginal] at hrel
      cases hrel
    | some value => rfl
  removed entry hentry hfrozen _ := by
    have hrel := h.taskState entry.1 hfrozen
    rw [Dict.value?_eq_some_iff.mpr hentry] at hrel
    cases hreplay : replay.taskState.value? entry.1 with
    | none =>
      rw [hreplay] at hrel
      cases hrel
    | some value => rfl
  addedPrompts entry hentry hlisted := by
    rw [h.prompts entry.1 hlisted]
    exact Dict.isSome_of_mem hentry

/-- Where nothing diverges, only keys can have been added, and keys with the value `None` removed. -/
theorem nothingElseChanged_of_keysKept
    (hclean : ¬ Diverges pyNone original replay allowed intervened)
    (h : KeysKept pyNone original replay allowed intervened) :
    NothingElseChanged original replay allowed intervened := by
  obtain ⟨hstate, hprompts⟩ := not_or.mp hclean
  constructor
  · intro key hfrozen
    cases horiginal : original.taskState.value? key with
    | none =>
      cases hreplay : replay.taskState.value? key with
      | none => exact .none
      | some value =>
        have hkept := h.added (key, value) (Dict.value?_eq_some_iff.mp hreplay) hfrozen
        rw [horiginal] at hkept
        exact absurd hkept (by simp)
    | some value =>
      have hentry := Dict.value?_eq_some_iff.mp horiginal
      have hsame : ((replay.taskState.value? key).getD pyNone != value) = false := by
        rw [← Bool.not_eq_true]
        exact fun hne ↦ hstate ⟨(key, value), hentry, hfrozen, hne⟩
      cases hreplay : replay.taskState.value? key with
      | none =>
        rw [hreplay, Option.getD_none] at hsame
        have hkept := h.removed (key, value) hentry hfrozen hsame
        rw [hreplay] at hkept
        exact absurd hkept (by simp)
      | some replayValue =>
        rw [hreplay, Option.getD_some] at hsame
        exact .some hsame
  · intro key hlisted
    cases horiginal : original.prompts.value? key with
    | none =>
      cases hreplay : replay.prompts.value? key with
      | none => rfl
      | some prompt =>
        have hkept := h.addedPrompts (key, prompt) (Dict.value?_eq_some_iff.mp hreplay) hlisted
        rw [horiginal] at hkept
        exact absurd hkept (by decide)
    | some prompt =>
      by_contra hne
      exact hprompts ⟨(key, prompt), Dict.value?_eq_some_iff.mp horiginal, hlisted, Ne.symm hne⟩

/-- **A clean check means that nothing else changed** exactly when something diverges, or no key was
added and none with the value `None` removed. The rule is then applied under the same condition. -/
theorem clean_iff_nothingElseChanged (pyNone : V) (original replay : ReplayStateManifest V)
    (allowed intervened : List String) :
    (((∃ status, verifyNoContamination pyNone original replay allowed intervened = .ok status) →
        NothingElseChanged original replay allowed intervened)
      ↔ Diverges pyNone original replay allowed intervened ∨
        KeysKept pyNone original replay allowed intervened) ∧
    ∀ (isolator : CausalIsolator) (rootCauseComponent description ruleId : String),
      ((∃ rule, (isolator.enforceInvarianceAndQuarantine pyNone rootCauseComponent description
          ruleId original replay allowed intervened).1 = .ok rule) →
        NothingElseChanged original replay allowed intervened)
      ↔ Diverges pyNone original replay allowed intervened ∨
        KeysKept pyNone original replay allowed intervened := by
  have hiff : (¬ Diverges pyNone original replay allowed intervened →
      NothingElseChanged original replay allowed intervened)
        ↔ Diverges pyNone original replay allowed intervened ∨
          KeysKept pyNone original replay allowed intervened := by
    rw [or_iff_not_imp_left]
    exact ⟨fun h hclean ↦ keysKept_of_nothingElseChanged (h hclean),
      fun h hclean ↦ nothingElseChanged_of_keysKept hclean (h hclean)⟩
  refine ⟨?_, fun isolator rootCauseComponent description ruleId ↦ ?_⟩
  · rw [verifyNoContamination_eq_ok_iff]
    exact hiff
  · rw [enforce_eq_ok_iff]
    exact hiff

/-- A replay that adds a variable to an empty task state is clean. -/
theorem not_nothingElseChanged_added :
    ¬ ∀ (original replay : ReplayStateManifest (Option ℕ)) (allowed intervened : List String),
      (∃ status, verifyNoContamination none original replay allowed intervened = .ok status) →
        NothingElseChanged original replay allowed intervened := by
  intro h
  have hchanged := h ⟨.empty, .empty⟩ ⟨⟨[("injected", some 1)], by decide⟩, .empty⟩ [] []
    ⟨_, rfl⟩
  cases hchanged.taskState "injected" (by decide)

end Clean

end DriftGuardX.Isolation
