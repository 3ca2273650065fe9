import DriftGuardX.Incident.StoppingRule

/-!
# When the entropy has converged

The rule keeps one entropy more than its window, so that a window of changes can be read off, and asks
for only a window of entropies before it reads them. After exactly a window of experiments it therefore
judges by one change less, and with a window of one it has none to judge by and raises. The greatest
change is a maximum of floats, which skips what is not a number. `convergenceHolds_iff` says that
nothing else goes wrong.
-/

namespace DriftGuardX.Incident

open Recovery (Raised Dict)

/-- The verdict is that of the fifth criterion. -/
def Verdict.ReportsConvergence (verdict : Verdict) : Prop :=
  verdict.shouldStop = true ∧ verdict.outcome = .unresolved

namespace EvidentiaryStoppingRule

/-! ## The calls -/

/-- The calls that change a rule. -/
inductive RuleCall (F : Type) where
  | recordIteration (entropy : F)
  | reset

section Calls

variable {F : Type} (parameters : RuleParameters F)

def RuleCall.apply (rule : EvidentiaryStoppingRule F) : RuleCall F → EvidentiaryStoppingRule F
  | recordIteration entropy => rule.recordIteration parameters entropy
  | reset => rule.reset

/-- A rule after a sequence of calls. -/
def afterCalls (calls : List (RuleCall F)) : EvidentiaryStoppingRule F :=
  calls.foldl (RuleCall.apply parameters) new

def RuleCall.record (entropies : List F) : RuleCall F → List F
  | recordIteration entropy => entropies ++ [entropy]
  | reset => []

/-- The entropies that are recorded since the last reset. -/
def recorded (calls : List (RuleCall F)) : List F := calls.foldl RuleCall.record []

variable {parameters}

theorem drop_append_singleton (n : ℕ) (es : List F) (e : F) :
    (es.drop (es.length - n) ++ [e]).drop ((es.drop (es.length - n) ++ [e]).length - n)
      = (es ++ [e]).drop ((es ++ [e]).length - n) := by
  have hle : es.length - n ≤ es.length := Nat.sub_le _ _
  rw [← List.drop_append_of_le_length hle, List.drop_drop]
  congr 1
  simp only [List.length_drop, List.length_append, List.length_singleton]
  omega

theorem afterCalls_eq (calls : List (RuleCall F)) : afterCalls parameters calls
    = { entropyHistory := (recorded calls).drop
          ((recorded calls).length - (parameters.entropyWindow + 1).toNat)
        replayCount := (recorded calls).length } := by
  induction calls using List.reverseRecOn with
  | nil => rw [recorded, List.foldl_nil, List.drop_nil]; rfl
  | append_singleton calls call ih =>
    have hafter : afterCalls parameters (calls ++ [call])
        = call.apply parameters (afterCalls parameters calls) := List.foldl_concat ..
    have hrecorded : recorded (calls ++ [call]) = call.record (recorded calls) :=
      List.foldl_concat ..
    rw [hafter, hrecorded, ih]
    cases call with
    | reset => rw [RuleCall.record, List.drop_nil]; rfl
    | recordIteration entropy =>
      simp only [RuleCall.apply, RuleCall.record, EvidentiaryStoppingRule.recordIteration,
        drop_append_singleton]
      simp only [List.length_append, List.length_singleton, Nat.cast_add, Nat.cast_one]

theorem entropyWindow_le_length_iff (hwindow : 1 ≤ parameters.entropyWindow)
    (calls : List (RuleCall F)) :
    parameters.entropyWindow ≤ (afterCalls parameters calls).entropyHistory.length ↔
      parameters.entropyWindow ≤ (recorded calls).length := by
  rw [afterCalls_eq, List.length_drop]
  omega

end Calls

/-! ## The changes -/

section Changes

variable {F : Type} [PyFloat F] (parameters : RuleParameters F)

/-- The last changes, as many as the window holds. -/
def lastChanges (entropies : List F) : List F :=
  (entropyChanges entropies).drop
    ((entropyChanges entropies).length - parameters.entropyWindow.toNat)

/-- The entropy has converged: there are as many changes as the window holds, and the last ones are
all small. -/
def Converged (entropies : List F) : Prop :=
  parameters.entropyWindow ≤ (entropyChanges entropies).length ∧
    ∀ c ∈ lastChanges parameters entropies,
      PyFloat.lt c parameters.entropyConvergenceDelta = true

variable {parameters}

theorem length_entropyChanges : ∀ entropies : List F,
    (entropyChanges entropies).length = entropies.length - 1
  | [] => rfl
  | [_] => rfl
  | a :: b :: rest => by
    rw [entropyChanges, List.length_cons, length_entropyChanges (b :: rest)]
    rfl

theorem entropyChanges_drop (n : ℕ) (entropies : List F) :
    entropyChanges (entropies.drop n) = (entropyChanges entropies).drop n := by
  induction n generalizing entropies with
  | zero => rfl
  | succ n ih =>
    cases entropies with
    | nil => rfl
    | cons a rest =>
      rw [List.drop_succ_cons, ih]
      cases rest with
      | nil => exact List.drop_nil.trans List.drop_nil.symm
      | cons b rest => rfl

theorem entropyChanges_afterCalls (hwindow : 1 ≤ parameters.entropyWindow)
    (calls : List (RuleCall F)) :
    entropyChanges (afterCalls parameters calls).entropyHistory
      = lastChanges parameters (recorded calls) := by
  have hlength : (recorded calls).length - (parameters.entropyWindow + 1).toNat
      = (recorded calls).length - 1 - parameters.entropyWindow.toNat := by omega
  rw [afterCalls_eq, lastChanges, entropyChanges_drop, length_entropyChanges, hlength]

end Changes

/-! ## The criteria before the fifth one -/

section Criteria

variable {V F : Type} [PyFloat F] (parameters : RuleParameters F) (context : ResourceContext F)
  (beliefs : List (String × F))

/-- The greatest belief reaches the threshold of confidence. -/
def Confident : Prop :=
  ∃ m, maximum (beliefs.map Prod.snd) = some m ∧ PyFloat.le parameters.confidenceThreshold m = true

/-- The two greatest beliefs are as far apart as the threshold of the margin. -/
def Separated : Prop :=
  ∃ top second rest, PyFloat.sortDescending (beliefs.map Prod.snd) = top :: second :: rest ∧
    PyFloat.le parameters.marginThreshold (PyFloat.sub top second) = true

/-- No criterion of a higher priority decides, and there is the minimum of evidence: the entropy is
asked. -/
structure AsksEntropy (entropies : List F) : Prop where
  budget : context.budgetExhausted = false
  replays : context.replayCount < parameters.maxExperiments
  minEvidence : parameters.minReplays ≤ entropies.length
  confident : ¬ Confident parameters beliefs
  separated : ¬ Separated parameters beliefs

variable {parameters context beliefs} {rule : EvidentiaryStoppingRule F} {entropy : F}
  {remainingCandidates : List (Dict V)}

theorem byConfidence_eq_none_iff (hmin : HasMinEvidence parameters rule) :
    byConfidence parameters rule beliefs = none ↔ ¬ Confident parameters beliefs := by
  rw [byConfidence, if_pos hmin, Confident]
  cases maximum (beliefs.map Prod.snd) <;> simp

theorem byMargin_eq_none_iff (hmin : HasMinEvidence parameters rule) :
    byMargin parameters rule beliefs = none ↔ ¬ Separated parameters beliefs := by
  rw [byMargin, if_pos hmin, Separated]
  split <;> simp_all

theorem outcome_of_byConfidence {verdict : Verdict}
    (h : byConfidence parameters rule beliefs = some verdict) : verdict.outcome = .confirmed := by
  rw [byConfidence, if_pos (hasMinEvidence_of_byConfidence h)] at h
  obtain ⟨m, -, hm⟩ := Option.bind_eq_some_iff.mp h
  obtain ⟨-, hverdict⟩ := Option.ite_none_right_eq_some.mp hm
  exact congrArg Verdict.outcome (Option.some.inj hverdict).symm

theorem outcome_of_byMargin {verdict : Verdict}
    (h : byMargin parameters rule beliefs = some verdict) : verdict.outcome = .confirmed := by
  rw [byMargin, if_pos (hasMinEvidence_of_byMargin h)] at h
  split at h
  · obtain ⟨-, hverdict⟩ := Option.ite_none_right_eq_some.mp h
    exact congrArg Verdict.outcome (Option.some.inj hverdict).symm
  · exact absurd h.symm (Option.some_ne_none verdict)

/-- The verdict when no criterion before the sixth one decides. -/
def lastVerdict (rule : EvidentiaryStoppingRule F) (beliefs : List (String × F)) (entropy : F)
    (remainingCandidates : List (Dict V)) : Verdict :=
  if remainingCandidates = [] then
    ⟨true, .noAdmissibleExperiment, "No remaining candidates to experiment on."⟩
  else ⟨false, .unresolved, insufficient rule beliefs entropy⟩

theorem not_reportsConvergence_lastVerdict :
    ¬ (lastVerdict rule beliefs entropy remainingCandidates).ReportsConvergence := by
  rw [lastVerdict]
  split
  · exact fun h ↦ absurd h.2 (by simp)
  · exact fun h ↦ absurd h.1 (by simp)

theorem evaluate_eq (hbudget : context.budgetExhausted = false)
    (hreplays : context.replayCount < parameters.maxExperiments)
    (hconfidence : byConfidence parameters rule beliefs = none)
    (hmargin : byMargin parameters rule beliefs = none) :
    evaluate parameters rule context beliefs entropy remainingCandidates
      = (byConvergence parameters rule).map fun converged ↦
          converged.getD (lastVerdict rule beliefs entropy remainingCandidates) := by
  rw [evaluate, if_neg (by simp [hbudget]), if_neg (not_le.mpr hreplays), hconfidence, hmargin]
  cases byConvergence parameters rule with
  | error e => rfl
  | ok converged =>
    cases converged with
    | some verdict => rfl
    | none => exact (apply_ite Except.ok _ _ _).symm

/-- Without the minimum of evidence, and after a criterion of higher priority, the rule returns and
does not report convergence. -/
theorem evaluate_of_not_asks {entropies : List F} (hcount : rule.replayCount = entropies.length)
    (hasks : ¬ AsksEntropy parameters context beliefs entropies) :
    ∃ verdict, evaluate parameters rule context beliefs entropy remainingCandidates = .ok verdict ∧
      ¬ verdict.ReportsConvergence := by
  have hother : ∀ {b : Bool} {outcome : StoppingOutcome} {reason : String},
      outcome ≠ .unresolved → ¬ (⟨b, outcome, reason⟩ : Verdict).ReportsConvergence :=
    fun houtcome h ↦ houtcome h.2
  by_cases hbudget : context.budgetExhausted = true
  · exact ⟨_, if_pos hbudget, hother (by decide)⟩
  by_cases hreplays : parameters.maxExperiments ≤ context.replayCount
  · exact ⟨_, (if_neg hbudget).trans (if_pos hreplays), hother (by decide)⟩
  cases hor : (byConfidence parameters rule beliefs).or (byMargin parameters rule beliefs) with
  | some verdict =>
    refine ⟨verdict, ?_, fun h ↦ ?_⟩
    · rw [evaluate, if_neg hbudget, if_neg hreplays, hor]
    · have hconfirmed : verdict.outcome = .confirmed := by
        rcases Option.or_eq_some_iff.mp hor with hconfidence | ⟨-, hmargin⟩
        · exact outcome_of_byConfidence hconfidence
        · exact outcome_of_byMargin hmargin
      exact absurd (hconfirmed.symm.trans h.2) (by decide)
  | none =>
    obtain ⟨hconfidence, hmargin⟩ := Option.or_eq_none_iff.mp hor
    have hmin : ¬ HasMinEvidence parameters rule := by
      intro hmin
      exact hasks ⟨Bool.eq_false_iff.mpr hbudget, not_le.mp hreplays, hcount ▸ hmin,
        (byConfidence_eq_none_iff hmin).mp hconfidence, (byMargin_eq_none_iff hmin).mp hmargin⟩
    have hconvergence : byConvergence parameters rule = .ok none :=
      if_neg fun h ↦ hmin h.1
    rw [evaluate_eq (Bool.eq_false_iff.mpr hbudget) (not_le.mp hreplays) hconfidence hmargin,
      hconvergence]
    exact ⟨_, rfl, not_reportsConvergence_lastVerdict⟩

end Criteria

/-! ## What goes wrong -/

section Convergence

variable {V F : Type} [OrderedPyFloat F] (parameters : RuleParameters F)
  (context : ResourceContext F) (beliefs : List (String × F)) (entropy : F)
  (remainingCandidates : List (Dict V))

/-- What `max` finds small: the first change is, and so are all others that are numbers. -/
def SmallChanges (entropies : List F) : Prop :=
  (∀ c ∈ (lastChanges parameters entropies).head?,
      PyFloat.lt c parameters.entropyConvergenceDelta = true) ∧
    ∀ c ∈ (lastChanges parameters entropies).tail, OrderedPyFloat.isNan c = false →
      PyFloat.lt c parameters.entropyConvergenceDelta = true

/-- The entropy is asked, and what there is of changes looks small: there is one entropy too few for
the window, or a change is not a number. -/
structure Misled (entropies : List F) : Prop where
  asks : AsksEntropy parameters context beliefs entropies
  small : SmallChanges parameters entropies
  deficient : (entropies.length : ℤ) = parameters.entropyWindow ∨
    parameters.entropyWindow < entropies.length ∧
      ∃ c ∈ lastChanges parameters entropies, OrderedPyFloat.isNan c = true

/-- `is_sufficient` returns, and reports convergence only of an entropy that has converged. -/
structure ConvergenceHolds (calls : List (RuleCall F)) : Prop where
  returns : ∃ verdict, evaluate parameters (afterCalls parameters calls) context beliefs entropy
    remainingCandidates = .ok verdict
  converged : ∀ verdict, evaluate parameters (afterCalls parameters calls) context beliefs entropy
      remainingCandidates = .ok verdict →
    verdict.ReportsConvergence → Converged parameters (recorded calls)

variable {parameters context beliefs entropy remainingCandidates} {entropies : List F}
  {calls : List (RuleCall F)}

theorem ConvergenceHolds.of_not_reports
    (h : ∃ verdict, evaluate parameters (afterCalls parameters calls) context beliefs entropy
      remainingCandidates = .ok verdict ∧ ¬ verdict.ReportsConvergence) :
    ConvergenceHolds parameters context beliefs entropy remainingCandidates calls := by
  obtain ⟨verdict, hverdict, hreports⟩ := h
  refine ⟨⟨verdict, hverdict⟩, fun verdict' hverdict' hreports' ↦ ?_⟩
  obtain rfl : verdict = verdict' := Except.ok.inj (hverdict.symm.trans hverdict')
  exact absurd hreports' hreports

theorem lt_maximum_iff {c : F} {cs : List F} {m bound : F} (hm : maximum (c :: cs) = some m) :
    PyFloat.lt m bound = true ↔ PyFloat.lt c bound = true ∧
      ∀ v ∈ cs, OrderedPyFloat.isNan v = false → PyFloat.lt v bound = true := by
  obtain rfl := Option.some.inj hm
  exact OrderedPyFloat.isNanOrder.lt_foldl_iff cs c bound

/-- Of a full window of entropies, changes that look small are exactly misread when there is one
change too few, or one is not a number. -/
theorem converged_iff_of_small (hwindow : 1 ≤ parameters.entropyWindow)
    (hlength : parameters.entropyWindow ≤ entropies.length)
    (hsmall : SmallChanges parameters entropies) :
    Converged parameters entropies ↔ ¬ ((entropies.length : ℤ) = parameters.entropyWindow ∨
      parameters.entropyWindow < entropies.length ∧
        ∃ c ∈ lastChanges parameters entropies, OrderedPyFloat.isNan c = true) := by
  have hnumber : (∀ c ∈ lastChanges parameters entropies,
      PyFloat.lt c parameters.entropyConvergenceDelta = true) ↔
      ¬ ∃ c ∈ lastChanges parameters entropies, OrderedPyFloat.isNan c = true := by
    constructor
    · rintro hall ⟨c, hc, hnan⟩
      exact Bool.noConfusion (hnan.symm.trans (OrderedPyFloat.isNanOrder.number_of_lt (hall c hc)).1)
    · intro hnone c hc
      have hnan : OrderedPyFloat.isNan c = false :=
        Bool.eq_false_iff.mpr fun hnan ↦ hnone ⟨c, hc, hnan⟩
      obtain ⟨hhead, htail⟩ := hsmall
      cases hchanges : lastChanges parameters entropies with
      | nil => exact absurd (hchanges ▸ hc) List.not_mem_nil
      | cons d ds =>
        rw [hchanges] at hc hhead htail
        rcases List.mem_cons.mp hc with rfl | hc
        · exact hhead c rfl
        · exact htail c hc hnan
  rw [Converged, hnumber, length_entropyChanges, not_or, not_and]
  refine ⟨fun ⟨hlt, hnone⟩ ↦ ⟨by omega, fun _ ↦ hnone⟩, fun ⟨hne, hnone⟩ ↦ ⟨by omega, ?_⟩⟩
  exact hnone (by omega)

theorem byConvergence_of_lt (hwindow : 1 ≤ parameters.entropyWindow)
    (hlength : ¬ parameters.entropyWindow ≤ (recorded calls).length) :
    byConvergence parameters (afterCalls parameters calls) = .ok none :=
  if_neg fun h ↦ hlength ((entropyWindow_le_length_iff hwindow calls).mp h.2)

section FullWindow

variable (hwindow : 1 ≤ parameters.entropyWindow)
  (hmin : HasMinEvidence parameters (afterCalls parameters calls))
  (hlength : parameters.entropyWindow ≤ (recorded calls).length)

include hwindow hmin hlength

theorem byConvergence_of_nil (hnil : lastChanges parameters (recorded calls) = []) :
    byConvergence parameters (afterCalls parameters calls)
      = .error ⟨.valueError, "max() iterable argument is empty"⟩ := by
  rw [byConvergence, if_pos ⟨hmin, (entropyWindow_le_length_iff hwindow calls).mpr hlength⟩,
    entropyChanges_afterCalls hwindow, hnil]
  rfl

theorem byConvergence_of_small {c : F} {cs : List F}
    (hcons : lastChanges parameters (recorded calls) = c :: cs)
    (hsmall : SmallChanges parameters (recorded calls)) :
    ∃ verdict, byConvergence parameters (afterCalls parameters calls) = .ok (some verdict) ∧
      verdict.ReportsConvergence := by
  have hmaximum : maximum (c :: cs) = some _ := rfl
  rw [SmallChanges, hcons] at hsmall
  have hlt := (lt_maximum_iff hmaximum).mpr ⟨hsmall.1 c rfl, hsmall.2⟩
  rw [byConvergence, if_pos ⟨hmin, (entropyWindow_le_length_iff hwindow calls).mpr hlength⟩,
    entropyChanges_afterCalls hwindow, hcons, hmaximum]
  exact ⟨_, congrArg Except.ok (if_pos hlt), rfl, rfl⟩

theorem byConvergence_of_not_small (hsmall : ¬ SmallChanges parameters (recorded calls)) :
    byConvergence parameters (afterCalls parameters calls) = .ok none := by
  cases hcons : lastChanges parameters (recorded calls) with
  | nil =>
    rw [SmallChanges, hcons] at hsmall
    exact absurd ⟨fun _ h ↦ absurd h (by simp), List.forall_mem_nil _⟩ hsmall
  | cons c cs =>
    have hmaximum : maximum (c :: cs) = some _ := rfl
    rw [SmallChanges, hcons] at hsmall
    rw [byConvergence, if_pos ⟨hmin, (entropyWindow_le_length_iff hwindow calls).mpr hlength⟩,
      entropyChanges_afterCalls hwindow, hcons, hmaximum]
    refine congrArg Except.ok (if_neg fun hlt ↦ hsmall ?_)
    obtain ⟨hc, hcs⟩ := (lt_maximum_iff hmaximum).mp hlt
    exact ⟨fun d hd ↦ Option.some.inj hd ▸ hc, hcs⟩

end FullWindow

/-- **The rule reports convergence rightly** if and only if it is not misled. -/
theorem convergenceHolds_iff (hwindow : 1 ≤ parameters.entropyWindow) :
    ConvergenceHolds parameters context beliefs entropy remainingCandidates calls ↔
      ¬ Misled parameters context beliefs (recorded calls) := by
  have hcount : (afterCalls parameters calls).replayCount = (recorded calls).length := by
    rw [afterCalls_eq]
  by_cases hasks : AsksEntropy parameters context beliefs (recorded calls)
  case neg =>
    exact iff_of_true (.of_not_reports (evaluate_of_not_asks hcount hasks)) fun h ↦ hasks h.asks
  have hmin : HasMinEvidence parameters (afterCalls parameters calls) :=
    hasks.minEvidence.trans_eq hcount.symm
  have hevaluate : evaluate parameters (afterCalls parameters calls) context beliefs entropy
      remainingCandidates = _ :=
    evaluate_eq hasks.budget hasks.replays ((byConfidence_eq_none_iff hmin).mpr hasks.confident)
      ((byMargin_eq_none_iff hmin).mpr hasks.separated)
  by_cases hlength : parameters.entropyWindow ≤ (recorded calls).length
  case neg =>
    rw [byConvergence_of_lt hwindow hlength] at hevaluate
    refine iff_of_true (.of_not_reports ⟨_, hevaluate, not_reportsConvergence_lastVerdict⟩) ?_
    rintro ⟨-, -, hfull | ⟨hmore, -⟩⟩
    · exact hlength hfull.ge
    · exact hlength hmore.le
  by_cases hsmall : SmallChanges parameters (recorded calls)
  case neg =>
    rw [byConvergence_of_not_small hwindow hmin hlength hsmall] at hevaluate
    exact iff_of_true (.of_not_reports ⟨_, hevaluate, not_reportsConvergence_lastVerdict⟩)
      fun h ↦ hsmall h.small
  -- the rule raises or reports, so it has to have converged
  have hconverged : ConvergenceHolds parameters context beliefs entropy remainingCandidates calls ↔
      Converged parameters (recorded calls) := by
    cases hcons : lastChanges parameters (recorded calls) with
    | nil =>
      rw [byConvergence_of_nil hwindow hmin hlength hcons] at hevaluate
      refine iff_of_false (fun h ↦ ?_) fun h ↦ ?_
      · obtain ⟨verdict, hverdict⟩ := h.returns
        exact absurd (hevaluate.symm.trans hverdict) (by simp [Except.map])
      · have hle := List.drop_eq_nil_iff.mp hcons
        have hmany := h.1
        omega
    | cons c cs =>
      obtain ⟨verdict, hok, hreports⟩ := byConvergence_of_small hwindow hmin hlength hcons hsmall
      rw [hok] at hevaluate
      exact ⟨fun h ↦ h.converged verdict hevaluate hreports,
        fun h ↦ ⟨⟨verdict, hevaluate⟩, fun _ _ _ ↦ h⟩⟩
  rw [hconverged, converged_iff_of_small hwindow hlength hsmall]
  exact not_congr ⟨fun h ↦ ⟨hasks, hsmall, h⟩, fun h ↦ h.deficient⟩

/-- The defaults of the constructor. -/
def defaultParameters : RuleParameters ℚ where
  confidenceThreshold := 17 / 20
  marginThreshold := 3 / 5
  entropyConvergenceDelta := 1 / 100
  entropyWindow := 3
  minReplays := 2
  maxExperiments := 20

/-- Four equal entropies have three changes. -/
theorem convergenceHolds_fourEqual :
    ConvergenceHolds defaultParameters (ResourceContext.new 10 300) [("a", 1 / 2)] 1
      ([[]] : List (Dict Unit))
      [.recordIteration 1, .recordIteration 1, .recordIteration 1, .recordIteration 1] := by
  refine (convergenceHolds_iff (by decide)).mpr ?_
  rintro ⟨-, -, hlength | ⟨-, c, -, hnan⟩⟩
  · exact absurd hlength (by decide)
  · exact Bool.noConfusion hnan

/-- Three equal entropies have two changes, and the window is three. -/
theorem not_convergenceHolds_threeEqual :
    ¬ ConvergenceHolds defaultParameters (ResourceContext.new 10 300) [("a", 1 / 2)] 1
      ([[]] : List (Dict Unit)) [.recordIteration 1, .recordIteration 1, .recordIteration 1] := by
  intro h
  have hmargin : byMargin defaultParameters (afterCalls defaultParameters
      [.recordIteration 1, .recordIteration 1, .recordIteration 1]) [("a", 1 / 2)] = none := by
    refine (byMargin_eq_none_iff (by decide)).mpr ?_
    rintro ⟨top, second, rest, hsorted, -⟩
    exact absurd (congrArg List.length hsorted) (by simp [PyFloat.sortDescending])
  have hconvergence : byConvergence defaultParameters (afterCalls defaultParameters
      [.recordIteration 1, .recordIteration 1, .recordIteration 1])
      = .ok (some ⟨true, .unresolved,
          "Entropy converged: max delta 0 < 1/100 over last 3 iterations."⟩) := by decide +kernel
  have hverdict : evaluate defaultParameters (afterCalls defaultParameters
      [.recordIteration 1, .recordIteration 1, .recordIteration 1]) (ResourceContext.new 10 300)
      [("a", 1 / 2)] 1 ([[]] : List (Dict Unit)) = _ :=
    evaluate_eq (by decide +kernel) (by decide) (by decide +kernel) hmargin
  rw [hconvergence] at hverdict
  exact absurd (h.converged _ hverdict ⟨rfl, rfl⟩).1 (by decide +kernel)

end Convergence

end EvidentiaryStoppingRule

end DriftGuardX.Incident
