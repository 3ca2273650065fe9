import DriftGuardX.Incident.Resources
import DriftGuardX.Incident.StateMachine

/-!
# The stopping rule

When the experiments of an incident end, and with which outcome. A stopping policy sees the
incident, the belief model and the resources; `EvidentiaryStoppingRule` is one, which counts the
experiments that are recorded with it.
-/

namespace DriftGuardX.Incident

open Recovery (Raised Dict)

inductive StoppingOutcome where
  | confirmed
  | unresolved
  | resourceExhausted
  | safetyLimit
  | noAdmissibleExperiment
  deriving DecidableEq, Repr

def StoppingOutcome.value : StoppingOutcome → String
  | confirmed => "confirmed"
  | unresolved => "unresolved"
  | resourceExhausted => "resource_exhausted"
  | safetyLimit => "safety_limit"
  | noAdmissibleExperiment => "no_admissible_experiment"

/-- What `is_sufficient` returns. -/
structure Verdict where
  shouldStop : Bool
  outcome : StoppingOutcome
  reason : String
  deriving DecidableEq, Repr

/-- A belief model, which may raise whenever it is asked. -/
structure BeliefModel (W V F : Type) where
  updateBelief : IncidentState F → List (Dict V) → Program W Raised (List (String × F))
  currentBeliefs : Program W Raised (List (String × F))
  entropy : Program W Raised F

/-- What a stopping policy can see and change: its own state, what the collaborators share, and the
resource context. -/
structure PolicyView (P W F : Type) where
  policy : P
  world : W
  context : ResourceContext F

structure StoppingPolicy (P W V F : Type) where
  isSufficient : IncidentState F → BeliefModel W V F → List (Dict V) →
    Program (PolicyView P W F) Raised Verdict
  /-- The method that is called with the entropy after an experiment, if the policy has it. -/
  recordIteration : Option (F → Program (PolicyView P W F) Raised Unit)

/-! ## The rule -/

/-- The parameters of `EvidentiaryStoppingRule`, which do not change. -/
structure RuleParameters (F : Type) where
  confidenceThreshold : F
  marginThreshold : F
  entropyConvergenceDelta : F
  entropyWindow : ℤ
  minReplays : ℤ
  maxExperiments : ℤ

/-- What changes in a rule. -/
structure EvidentiaryStoppingRule (F : Type) where
  entropyHistory : List F
  replayCount : ℤ

namespace EvidentiaryStoppingRule

variable {W V F : Type} [PyFloat F]

def new : EvidentiaryStoppingRule F := ⟨[], 0⟩

/-- `record_iteration`, which keeps the last entropies. -/
def recordIteration (parameters : RuleParameters F) (rule : EvidentiaryStoppingRule F)
    (entropy : F) : EvidentiaryStoppingRule F :=
  let history := rule.entropyHistory ++ [entropy]
  { entropyHistory := history.drop (history.length - (parameters.entropyWindow + 1).toNat)
    replayCount := rule.replayCount + 1 }

def reset (_rule : EvidentiaryStoppingRule F) : EvidentiaryStoppingRule F := ⟨[], 0⟩

/-- `max(values)`, the first of the largest. -/
def maximum : List F → Option F
  | [] => none
  | v :: vs => some (vs.foldl (fun best v ↦ if PyFloat.lt best v then v else best) v)

/-- `max(beliefs, key=...)`, the first of the likeliest. -/
def topCandidate : List (String × F) → String
  | [] => ""
  | b :: bs => (bs.foldl (fun best b ↦ if PyFloat.lt best.2 b.2 then b else best) b).1

/-- The changes between the entropies that are kept. -/
def entropyChanges : List F → List F
  | a :: b :: rest => PyFloat.abs (PyFloat.sub b a) :: entropyChanges (b :: rest)
  | _ => []

variable (parameters : RuleParameters F) (rule : EvidentiaryStoppingRule F)

def HasMinEvidence : Prop := parameters.minReplays ≤ rule.replayCount

instance : Decidable (HasMinEvidence parameters rule) := inferInstanceAs (Decidable (_ ≤ _))

/-- The third criterion: the confidence in the likeliest cause. -/
def byConfidence (beliefs : List (String × F)) : Option Verdict :=
  if HasMinEvidence parameters rule then
    (maximum (beliefs.map Prod.snd)).bind fun maxPosterior ↦
      if PyFloat.le parameters.confidenceThreshold maxPosterior then some ⟨true, .confirmed,
        "Posterior confidence " ++ PyFloat.fixed 3 maxPosterior ++ " >= " ++
        PyFloat.text parameters.confidenceThreshold ++ " for candidate '" ++
        topCandidate beliefs ++ "'."⟩
      else none
  else none

/-- The fourth criterion: the margin between the two likeliest causes. -/
def byMargin (beliefs : List (String × F)) : Option Verdict :=
  if HasMinEvidence parameters rule then
    match PyFloat.sortDescending (beliefs.map Prod.snd) with
    | top :: second :: _ =>
      let margin := PyFloat.sub top second
      if PyFloat.le parameters.marginThreshold margin then some ⟨true, .confirmed,
        "Posterior margin " ++ PyFloat.fixed 3 margin ++ " >= " ++
        PyFloat.text parameters.marginThreshold ++ " between top-2 candidates."⟩
      else none
    | _ => none
  else none

/-- The fifth criterion: the entropy has stopped to change. Of too short a history there is no
greatest change. -/
def byConvergence : Except Raised (Option Verdict) :=
  if HasMinEvidence parameters rule ∧ parameters.entropyWindow ≤ rule.entropyHistory.length then
    match maximum (entropyChanges rule.entropyHistory) with
    | none => .error ⟨.valueError, "max() iterable argument is empty"⟩
    | some maxDelta => .ok (if PyFloat.lt maxDelta parameters.entropyConvergenceDelta then
        some ⟨true, .unresolved,
          "Entropy converged: max delta " ++ PyFloat.fixed 5 maxDelta ++ " < " ++
          PyFloat.text parameters.entropyConvergenceDelta ++ " over last " ++
          toString parameters.entropyWindow ++ " iterations."⟩
        else none)
  else .ok none

/-- The text for going on. -/
def insufficient (beliefs : List (String × F)) (entropy : F) : String :=
  "Evidence insufficient: " ++ ", ".intercalate
    ((maximum (beliefs.map Prod.snd)).toList.map (fun maxP ↦
        "max_posterior=" ++ PyFloat.fixed 3 maxP) ++
      ["entropy=" ++ PyFloat.fixed 4 entropy, "replays=" ++ toString rule.replayCount])

/-- The verdict on the beliefs, the resources and the candidates that are left. -/
def evaluate (context : ResourceContext F) (beliefs : List (String × F)) (entropy : F)
    (remainingCandidates : List (Dict V)) : Except Raised Verdict :=
  if context.budgetExhausted then
    .ok ⟨true, .resourceExhausted, "Resource budget exhausted (USD or time limit)."⟩
  else if parameters.maxExperiments ≤ context.replayCount then
    .ok ⟨true, .safetyLimit, "Hard safety cap reached: " ++ toString parameters.maxExperiments ++
      " experiments."⟩
  else
    match (byConfidence parameters rule beliefs).or (byMargin parameters rule beliefs) with
    | some verdict => .ok verdict
    | none => do
      match ← byConvergence parameters rule with
      | some verdict => return verdict
      | none =>
        if remainingCandidates = [] then
          return ⟨true, .noAdmissibleExperiment, "No remaining candidates to experiment on."⟩
        else return ⟨false, .unresolved, insufficient rule beliefs entropy⟩

/-- A program of the collaborators, seen from the policy. -/
def outside {P α : Type} (x : Program W Raised α) : Program (PolicyView P W F) Raised α :=
  Program.zoom PolicyView.world (fun view w ↦ { view with world := w }) x

/-- The rule as a stopping policy. -/
def policy : StoppingPolicy (EvidentiaryStoppingRule F) W V F where
  isSufficient _ beliefModel remainingCandidates := do
    let beliefs ← outside beliefModel.currentBeliefs
    let entropy ← outside beliefModel.entropy
    let view ← Program.get
    .ofExcept (evaluate parameters view.policy view.context beliefs entropy remainingCandidates)
  recordIteration := some fun entropy ↦ Program.modify fun view ↦
    { view with policy := view.policy.recordIteration parameters entropy }

variable {parameters rule} {context : ResourceContext F} {beliefs : List (String × F)} {entropy : F}
  {remainingCandidates : List (Dict V)} {verdict : Verdict}

theorem hasMinEvidence_of_byConfidence (h : byConfidence parameters rule beliefs = some verdict) :
    HasMinEvidence parameters rule := by
  rw [byConfidence] at h
  split at h
  · assumption
  · exact absurd h (by simp)

theorem hasMinEvidence_of_byMargin (h : byMargin parameters rule beliefs = some verdict) :
    HasMinEvidence parameters rule := by
  rw [byMargin] at h
  split at h
  · assumption
  · exact absurd h (by simp)

theorem outcome_of_byConvergence (h : byConvergence parameters rule = .ok (some verdict)) :
    verdict.outcome = .unresolved := by
  rw [byConvergence] at h
  split at h
  · split at h
    · exact absurd h (by simp)
    · split at h
      · exact (Option.some.inj (Except.ok.inj h)) ▸ rfl
      · exact absurd h (by simp)
  · exact absurd h (by simp)

theorem hasMinEvidence_of_evaluate
    (h : evaluate parameters rule context beliefs entropy remainingCandidates = .ok verdict)
    (hconfirmed : verdict.outcome = .confirmed) : HasMinEvidence parameters rule := by
  have hother : ∀ {b : Bool} {outcome : StoppingOutcome} {reason : String},
      (Except.ok ⟨b, outcome, reason⟩ : Except Raised Verdict) = .ok verdict →
        outcome = .confirmed := by
    intro b outcome reason heq
    exact (congrArg Verdict.outcome (Except.ok.inj heq)).trans hconfirmed
  rw [evaluate] at h
  split at h
  · exact absurd (hother h) (by decide)
  split at h
  · exact absurd (hother h) (by decide)
  split at h
  case h_1 hor =>
    rcases Option.or_eq_some_iff.mp hor with hconfidence | ⟨-, hmargin⟩
    · exact hasMinEvidence_of_byConfidence hconfidence
    · exact hasMinEvidence_of_byMargin hmargin
  -- the other criteria do not confirm
  case h_2 =>
    cases hconverged : byConvergence parameters rule with
    | error e =>
      rw [hconverged] at h
      exact absurd h (by simp [bind, Except.bind])
    | ok converged =>
      rw [hconverged] at h
      cases converged with
      | some verdict' =>
        obtain rfl : verdict' = verdict := Except.ok.inj h
        exact absurd ((outcome_of_byConvergence hconverged).symm.trans hconfirmed) (by decide)
      | none =>
        change (if remainingCandidates = [] then _ else _) = _ at h
        split at h
        · exact absurd (hother h) (by decide)
        · exact absurd (hother h) (by decide)

end EvidentiaryStoppingRule

end DriftGuardX.Incident
