import DriftGuardX.Policy.TransportGate

/-!
# The conditions of a transport

A footprint requires things of five kinds, each under a label that is its kind, a colon and its
name. What a label names is what follows its first colon, whatever colons there are in the name
itself, since no kind has one (`afterColon_label`). Hence the gate finds out which differences its
conditions are about, and it adds the others to what is unknown: a difference is never lost, and a
condition that is preserved is not about one (`exists_names_of_mem`, `not_names_of_preserved`).
-/

namespace DriftGuardX.Policy

open Json

variable {F E : Type} [FloatText F]

/-! ## Labels -/

/-- The label of a condition. -/
def label (kind name : String) : String := kind ++ ":" ++ name

theorem afterColon_label {kind : String} (hkind : ':' ∉ kind.toList) (name : String) :
    afterColon (label kind name) = some name := by
  have hchars : (label kind name).toList = kind.toList ++ ':' :: name.toList := by
    rw [label, String.toList_append, String.toList_append, List.append_assoc]
    rfl
  have hdrop : (kind.toList ++ ':' :: name.toList).dropWhile (fun c ↦ c ≠ ':')
      = ':' :: name.toList := by
    have hne : ∀ c ∈ kind.toList, decide (c ≠ ':') = true := by
      intro c hc
      exact decide_eq_true fun heq : c = ':' ↦ hkind (heq ▸ hc)
    rw [List.dropWhile_append_of_pos hne]
    exact List.dropWhile_cons_of_neg (by simp)
  rw [afterColon, hchars, if_pos (by simp), hdrop]
  exact congrArg some String.ofList_toList

theorem afterColon_eq_none {text : String} (h : ':' ∉ text.toList) : afterColon text = none :=
  if_neg h

/-! ## Requirements -/

/-- A kind of requirement, what becomes of one that differs, and the names that are required. -/
structure Requirement where
  kind : String
  judge : EnvironmentDifference → Judgement
  names : List String

omit [FloatText F] in
/-- The five kinds of requirements of a footprint. -/
def requirements (footprint : RecoveryMechanismFootprint F) : List Requirement :=
  [⟨"component", fun d ↦ if 4 / 5 ≤ d.causalRelevance then .violated else .unknown,
      footprint.requiredInvariantComponents⟩,
    ⟨"edge", fun _ ↦ .violated, footprint.requiredInvariantEdges⟩,
    ⟨"policy", fun _ ↦ .violated, footprint.requiredPolicyConditions.map Prod.fst⟩,
    ⟨"data", fun _ ↦ .violated, footprint.requiredDataConditions.map Prod.fst⟩,
    ⟨"calibration", fun _ ↦ .unknown, footprint.requiredCalibrationConditions.map Prod.fst⟩]

def kinds : List String := ["component", "edge", "policy", "data", "calibration"]

section Requirements

variable {differences : List EnvironmentDifference} {footprint : RecoveryMechanismFootprint F}

/-- What becomes of a name: nothing, when it does not differ. -/
def judged (differences : List EnvironmentDifference) (judge : EnvironmentDifference → Judgement)
    (name : String) : Option Judgement :=
  (differences.find? fun d ↦ d.var = name).map judge

/-- The conditions of one kind that come to a judgement. -/
def Requirement.labels (differences : List EnvironmentDifference) (r : Requirement)
    (judgement : Option Judgement) : List String :=
  (r.names.filter fun name ↦ judged differences r.judge name = judgement).map (label r.kind)

theorem checkConditions_eq (r : Requirement) : checkConditions differences r.kind r.judge r.names
    = ⟨r.labels differences (some .violated), r.labels differences none,
        r.labels differences (some .unknown)⟩ := by
  obtain ⟨kind, judge, names⟩ := r
  dsimp only
  induction names using List.reverseRecOn with
  | nil => rfl
  | append_singleton names name ih =>
    have hlabels : ∀ judgement,
        Requirement.labels differences ⟨kind, judge, names ++ [name]⟩ judgement
          = Requirement.labels differences ⟨kind, judge, names⟩ judgement
            ++ if judged differences judge name = judgement then [label kind name] else [] := by
      intro judgement
      rw [Requirement.labels, List.filter_append, List.map_append, Requirement.labels,
        List.filter_singleton]
      by_cases h : judged differences judge name = judgement
      · simp [h]
      · simp [h]
    rw [checkConditions, List.foldl_append, ← checkConditions, ih, List.foldl_cons, List.foldl_nil,
      hlabels, hlabels, hlabels]
    cases hfind : differences.find? fun d ↦ d.var = name with
    | none => simp [judged, hfind, label]
    | some d => cases hjudge : judge d <;> simp [judged, hfind, hjudge, label]

theorem mem_labels_iff {r : Requirement} {judgement : Option Judgement} {c : String} :
    c ∈ r.labels differences judgement ↔
      ∃ name ∈ r.names, judged differences r.judge name = judgement ∧ c = label r.kind name := by
  simp only [Requirement.labels, List.mem_map, List.mem_filter, decide_eq_true_eq, and_assoc,
    eq_comm (a := c)]

/-- The conditions that come to a judgement; without one they are preserved. -/
def Conditions.under (c : Conditions) : Option Judgement → List String
  | none => c.preserved
  | some .violated => c.violated
  | some .unknown => c.unknown

theorem Conditions.under_append (c d : Conditions) (judgement : Option Judgement) :
    (c.append d).under judgement = c.under judgement ++ d.under judgement := by
  rcases judgement with _ | _ | _ <;> rfl

theorem under_checkConditions (r : Requirement) (judgement : Option Judgement) :
    (checkConditions differences r.kind r.judge r.names).under judgement
      = r.labels differences judgement := by
  rw [checkConditions_eq]
  rcases judgement with _ | _ | _ <;> rfl

omit [FloatText F] in
theorem mem_evaluateFootprintInvariants_iff {judgement : Option Judgement} {c : String} :
    c ∈ (evaluateFootprintInvariants footprint differences).under judgement ↔
      ∃ r ∈ requirements footprint, ∃ name ∈ r.names,
        judged differences r.judge name = judgement ∧ c = label r.kind name := by
  have hlabels : (evaluateFootprintInvariants footprint differences).under judgement
      = (requirements footprint).flatMap fun r ↦ r.labels differences judgement := by
    rw [evaluateFootprintInvariants]
    simp only [Conditions.under_append, requirements, List.flatMap_cons, List.flatMap_nil,
      List.append_nil, ← under_checkConditions]
  simp only [hlabels, List.mem_flatMap, mem_labels_iff]

theorem judged_eq_none_iff {judge : EnvironmentDifference → Judgement} {name : String} :
    judged differences judge name = none ↔ ∀ d ∈ differences, d.var ≠ name := by
  rw [judged, Option.map_eq_none_iff, List.find?_eq_none]
  simp only [decide_eq_true_eq, ne_eq]

omit [FloatText F] in
theorem kind_mem {r : Requirement} (hr : r ∈ requirements footprint) : r.kind ∈ kinds := by
  have hkinds : (requirements footprint).map Requirement.kind = kinds := rfl
  exact hkinds ▸ List.mem_map_of_mem hr

theorem colon_notMem_kind {kind : String} (hkind : kind ∈ kinds) : ':' ∉ kind.toList := by
  revert kind
  decide

end Requirements

/-! ## Differences -/

/-- The variables that the gate compares. -/
def environmentVariables : List String :=
  ["model", "prompt", "retriever", "policy", "index", "data_distribution", "causal_graph", "tools"]

section Differences

variable {lib : TransportLibrary F E} {src tgt : CausalEnvironmentDescriptor F}
  {footprint : RecoveryMechanismFootprint F} {d : EnvironmentDifference}

theorem of_mem_addDiff {var : String} {sVal tVal : Val F} {affected : List String}
    (h : d ∈ addDiff lib footprint var sVal tVal affected) :
    d.var = var ∧ d.causalRelevance = graphDerivedRelevance var footprint := by
  rw [addDiff] at h
  split at h
  · obtain rfl := List.mem_singleton.mp h
    exact ⟨rfl, rfl⟩
  · exact absurd h List.not_mem_nil

theorem of_mem_findDifferences (h : d ∈ findDifferences lib src tgt footprint) :
    d.var ∈ environmentVariables ∧
      d.causalRelevance = graphDerivedRelevance d.var footprint := by
  have hvariable : ∀ {var sVal tVal affected}, var ∈ environmentVariables →
      d ∈ addDiff lib footprint var sVal tVal affected → d.var ∈ environmentVariables ∧
        d.causalRelevance = graphDerivedRelevance d.var footprint := by
    intro var sVal tVal affected hvar hd
    obtain ⟨rfl, hrelevance⟩ := of_mem_addDiff hd
    exact ⟨hvar, hrelevance⟩
  simp only [findDifferences, List.mem_append] at h
  rcases h with ((((((h | h) | h) | h) | h) | h) | h) | h <;> exact hvariable (by decide) h

theorem colon_notMem_var (h : d ∈ findDifferences lib src tgt footprint) :
    ':' ∉ d.var.toList := by
  have hvariables : ∀ var ∈ environmentVariables, ':' ∉ var.toList := by decide
  exact hvariables d.var (of_mem_findDifferences h).1

theorem vars_findDifferences (footprint footprint' : RecoveryMechanismFootprint F) :
    (findDifferences lib src tgt footprint).map EnvironmentDifference.var
      = (findDifferences lib src tgt footprint').map EnvironmentDifference.var := by
  have hsame : ∀ var sVal tVal affected,
      (addDiff lib footprint var sVal tVal affected).map EnvironmentDifference.var
        = (addDiff lib footprint' var sVal tVal affected).map EnvironmentDifference.var := by
    intro var sVal tVal affected
    rw [addDiff, addDiff]
    split_ifs
    · rfl
    · rfl
  simp only [findDifferences, List.map_append, hsame]

end Differences

/-! ## No difference is lost -/

/-- A condition is about a variable: it is the variable, alone or under the label of a kind. -/
def Names (condition var : String) : Prop :=
  condition = var ∨ ∃ kind ∈ kinds, condition = label kind var

section Classified

variable {differences : List EnvironmentDifference} {footprint : RecoveryMechanismFootprint F}
  {d : EnvironmentDifference} {c : String}

omit [FloatText F] in
theorem exists_names_of_mem (hd : d ∈ differences) :
    ∃ c ∈ (judgeDifferences footprint differences).violated
      ++ (judgeDifferences footprint differences).unknown, Names c d.var := by
  let evaluated := evaluateFootprintInvariants footprint differences
  by_cases hcovered : d.var ∈
      (evaluated.preserved ++ evaluated.violated ++ evaluated.unknown).filterMap afterColon
  · obtain ⟨c, hc, hname⟩ := List.mem_filterMap.mp hcovered
    obtain ⟨judgement, hunder⟩ : ∃ judgement, c ∈ evaluated.under judgement := by
      rcases List.mem_append.mp hc with hc | hunknown
      · rcases List.mem_append.mp hc with hpreserved | hviolated
        · exact ⟨none, hpreserved⟩
        · exact ⟨some .violated, hviolated⟩
      · exact ⟨some .unknown, hunknown⟩
    obtain ⟨r, hr, name, -, hjudged, rfl⟩ := mem_evaluateFootprintInvariants_iff.mp hunder
    have hkind := kind_mem hr
    rw [afterColon_label (colon_notMem_kind hkind)] at hname
    obtain rfl := Option.some.inj hname
    refine ⟨label r.kind d.var, ?_, Or.inr ⟨r.kind, hkind, rfl⟩⟩
    -- a name that differs is not preserved
    rcases judgement with _ | _ | _
    · exact absurd rfl (judged_eq_none_iff.mp hjudged d hd)
    · exact List.mem_append_left _ hunder
    · exact List.mem_append_right _ (List.mem_append_left _ hunder)
  · refine ⟨d.var, List.mem_append_right _ (List.mem_append_right _ ?_), Or.inl rfl⟩
    exact List.mem_filter.mpr ⟨List.mem_map_of_mem hd, decide_eq_true hcovered⟩

omit [FloatText F] in
theorem not_names_of_preserved (hc : c ∈ (judgeDifferences footprint differences).preserved)
    (hd : d ∈ differences) (hcolon : ':' ∉ d.var.toList) : ¬ Names c d.var := by
  have hne : differences ≠ [] := List.ne_nil_of_mem hd
  have hpreserved : c ∈ (evaluateFootprintInvariants footprint differences).preserved := by
    simpa only [judgeDifferences, if_neg hne] using hc
  have hunder : c ∈ (evaluateFootprintInvariants footprint differences).under none := hpreserved
  obtain ⟨r, hr, name, -, hjudged, rfl⟩ := mem_evaluateFootprintInvariants_iff.mp hunder
  have hafter := afterColon_label (colon_notMem_kind (kind_mem hr)) name
  rintro (hsame | ⟨kind, hkind, hsame⟩)
  · rw [hsame, afterColon_eq_none hcolon] at hafter
    exact absurd hafter (by simp)
  · rw [hsame, afterColon_label (colon_notMem_kind hkind)] at hafter
    exact judged_eq_none_iff.mp hjudged d hd (Option.some.inj hafter)

omit [FloatText F] in
theorem finalStatus_of_differences (lib : TransportLibrary F E) (hne : differences ≠ []) :
    (finalStatus lib differences (judgeDifferences footprint differences)).1
      = if (judgeDifferences footprint differences).violated ≠ [] then .notTransportable
        else .targetValidationRequired := by
  obtain ⟨d, hd⟩ := List.exists_mem_of_ne_nil differences hne
  obtain ⟨c, hc, -⟩ : ∃ c ∈ (judgeDifferences footprint differences).violated
      ++ (judgeDifferences footprint differences).unknown, Names c d.var := exists_names_of_mem hd
  rw [finalStatus]
  by_cases hviolated : (judgeDifferences footprint differences).violated ≠ []
  · rw [if_pos hviolated, if_pos hviolated]
  · rw [not_not.mp hviolated, List.nil_append] at hc
    rw [if_neg hviolated, if_pos (List.ne_nil_of_mem hc), if_neg hviolated]

end Classified

end DriftGuardX.Policy
