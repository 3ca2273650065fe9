import DriftGuardX.Validation.Envelope
import DriftGuardX.Validation.Tolerance

/-!
# When a replay is coherent

What a valid report is to mean is said node by node: a frozen node has the hash it was frozen with,
a forbidden node has not changed, and any other change is tolerated, or is one of an allowed
descendant for which there is no rule. The comparison reports as valid exactly the executions all of
whose nodes it accepts (`valid_iff`), and that is the same thing but for two lookups: frozen
variables are only looked for among the nodes that occur, and the rule of an allowed descendant is
looked up in one way to decide whether there is one and in another to apply it.

Over several replays no report is ever invalid, so that the report is right exactly when every
replay is accepted.
-/

namespace DriftGuardX.Validation

open Json Transaction
open Recovery (Raised Dict)

variable {F : Type}

/-! ## What is asked of the nodes -/

section Coherence

variable [FloatText F] (lib : DivergenceLibrary F) (envelope : ReplayEquivalenceEnvelope F)
  (original replay : ExecutionSnapshot F)

omit [FloatText F] in
/-- The hash of the output of a node, which is empty where there is no node. -/
def outputHash (nodes : ExecutionSnapshot F) (id : String) : String :=
  (getNode nodes id).elim "" NodeState.outputHash

omit [FloatText F] in
/-- The output of a node. -/
def outputVal (nodes : ExecutionSnapshot F) (id : String) : Val F :=
  (getNode nodes id).elim .none NodeState.output

omit [FloatText F] in
def Changed (id : String) : Prop := outputHash original id ≠ outputHash replay id

omit [FloatText F] in
/-- The nodes that are compared. -/
def nodeIds : List String := sorted (original.map Prod.fst ++ replay.map Prod.fst).dedup

omit [FloatText F] in
/-- The rule that is applied to a node: its own, or else the one for all nodes. -/
def toleranceRule (id : String) : Val F :=
  (Dict.get? envelope.constraints id).getD ((Dict.get? envelope.constraints "*").getD .none)

omit [FloatText F] in
/-- An allowed descendant is found to have a rule. -/
def IsRuled (id : String) : Prop :=
  (∃ v, Dict.get? envelope.constraints id = some v ∧ isFalsy lib v = false) ∨
    ∃ v, Dict.get? envelope.constraints "*" = some v ∧ v ≠ .none

/-- The change of a node passes the tolerance rule. -/
def Tolerated (id : String) : Prop :=
  ∃ reason, checkTolerance lib id (outputVal original id) (outputVal replay id)
    envelope.constraints = .ok (true, reason)

omit [FloatText F] in
/-- A node is not frozen, or has the hash it was frozen with. -/
def KeepsFrozen (id : String) : Prop :=
  ∀ expected, Dict.get? envelope.frozenVariables id = some expected →
    outputHash replay id = expected

/-- **Coherence** of a replay with the envelope. -/
structure Coherent : Prop where
  frozen : ∀ id, id ∉ envelope.intervenedVariables → KeepsFrozen envelope replay id
  forbidden : ∀ id ∈ envelope.forbiddenDivergenceNodes, id ∉ envelope.intervenedVariables →
    ¬Changed original replay id
  other : ∀ id, id ∉ envelope.intervenedVariables → id ∉ envelope.forbiddenDivergenceNodes →
    Changed original replay id → Tolerated lib envelope original replay id ∨
      id ∈ envelope.allowedCausalDescendants ∧ toleranceRule envelope id = .none

/-- What the comparison accepts. -/
def Accepted (id : String) : Prop :=
  id ∈ envelope.intervenedVariables ∨ KeepsFrozen envelope replay id ∧
    (Changed original replay id → id ∉ envelope.forbiddenDivergenceNodes ∧
      (Tolerated lib envelope original replay id ∨
        id ∈ envelope.allowedCausalDescendants ∧ ¬IsRuled lib envelope id))

end Coherence

/-! ## The comparison of a node -/

section Compare

variable [FloatText F] {lib : DivergenceLibrary F} {envelope : ReplayEquivalenceEnvelope F}
  {original replay : ExecutionSnapshot F} {id : String}

/-- The status makes a comparison invalid. -/
def NodeStatus.Violates (status : NodeStatus) : Prop := status ∈ violations.map Prod.fst

instance (status : NodeStatus) : Decidable status.Violates :=
  inferInstanceAs (Decidable (status ∈ violations.map Prod.fst))

omit [FloatText F] in
theorem keepsFrozen_iff : KeepsFrozen envelope replay id ↔
    ¬∃ expected ∈ Dict.get? envelope.frozenVariables id,
      (getNode replay id).elim "" NodeState.outputHash ≠ expected := by
  simp only [KeepsFrozen, outputHash, Option.mem_def, not_exists, not_and, not_not]

omit [FloatText F] in
theorem isRuled_iff {p : Val F → Bool} (hp : ∀ v, p v = true ↔ v ≠ .none) :
    (((Dict.get? envelope.constraints id).filter fun v ↦ !isFalsy lib v).or
      ((Dict.get? envelope.constraints "*").filter p)).isSome = true ↔ IsRuled lib envelope id := by
  rw [Option.isSome_or, Bool.or_eq_true, Option.isSome_filter, Option.isSome_filter, IsRuled]
  simp only [Option.any_eq_true, Bool.not_eq_true', hp]

omit [FloatText F] in
/-- A verdict that is passed on as a status. -/
theorem exists_verdict_iff {verdict : Except Raised (Bool × String)}
    {entry : Bool × String → NodeEntry F}
    (h : ∀ reason, ¬(entry (true, reason)).status.Violates)
    (h' : ∀ reason, (entry (false, reason)).status.Violates) :
    (∃ e, (do let v ← verdict; return entry v) = .ok e ∧ ¬e.status.Violates) ↔
      ∃ reason, verdict = .ok (true, reason) := by
  constructor
  · rintro ⟨e, hrun, he⟩
    obtain ⟨⟨passes, reason⟩, hverdict, hentry⟩ := bind_eq_ok_iff.mp hrun
    obtain rfl := pure_eq_ok_iff.mp hentry
    cases passes with
    | false => exact absurd (h' reason) he
    | true => exact ⟨reason, hverdict⟩
  · rintro ⟨reason, hverdict⟩
    exact ⟨entry (true, reason), by rw [hverdict]; rfl, h reason⟩

/-- **One node.** It comes to a status that does not violate exactly when it is accepted. -/
theorem accepted_iff : (∃ entry, checkNode lib envelope original replay id = .ok entry ∧
      ¬entry.status.Violates) ↔ Accepted lib envelope original replay id := by
  have hviolation {status : NodeStatus} (h : status.Violates) {details : List (String × Val F)} :
      ¬∃ entry : NodeEntry F, (.ok ⟨status, details⟩ : Except Raised (NodeEntry F)) = .ok entry ∧
        ¬entry.status.Violates := by
    rintro ⟨entry, hentry, hstatus⟩
    exact hstatus (Except.ok.inj hentry ▸ h)
  rw [Accepted, keepsFrozen_iff, checkNode]
  by_cases hintervened : id ∈ envelope.intervenedVariables
  · rw [if_pos hintervened]
    exact iff_of_true ⟨_, rfl, (by decide : ¬NodeStatus.intervened.Violates)⟩ (.inl hintervened)
  rw [if_neg hintervened, or_iff_right hintervened]
  by_cases hfrozen : ∃ expected ∈ Dict.get? envelope.frozenVariables id,
      (getNode replay id).elim "" NodeState.outputHash ≠ expected
  · rw [if_pos hfrozen]
    exact iff_of_false (hviolation (by decide)) fun h ↦ h.1 hfrozen
  rw [if_neg hfrozen, and_iff_right hfrozen]
  by_cases hchanged : (getNode original id).elim "" NodeState.outputHash =
      (getNode replay id).elim "" NodeState.outputHash
  · rw [if_pos hchanged]
    exact iff_of_true ⟨_, rfl, (by decide : ¬NodeStatus.unchanged.Violates)⟩
      fun h ↦ absurd hchanged h
  rw [if_neg hchanged, imp_iff_right (show Changed original replay id from hchanged)]
  by_cases hforbidden : id ∈ envelope.forbiddenDivergenceNodes
  · rw [if_pos hforbidden]
    exact iff_of_false (hviolation (by decide)) fun h ↦ h.1 hforbidden
  rw [if_neg hforbidden, and_iff_right hforbidden]
  by_cases hallowed : id ∈ envelope.allowedCausalDescendants
  · rw [if_neg (not_not.mpr hallowed), and_iff_right hallowed]
    dsimp only
    split
    · rename_i hsome
      have hruled : IsRuled lib envelope id := (isRuled_iff notNone_iff).mp hsome
      rw [or_iff_left fun h ↦ h hruled]
      exact exists_verdict_iff (fun _ ↦ (by decide : ¬NodeStatus.allowedDescendantChanged.Violates))
        fun _ ↦ (by decide : NodeStatus.allowedDescendantViolation.Violates)
    · rename_i hnone
      have hruled : ¬IsRuled lib envelope id := fun h ↦ hnone ((isRuled_iff notNone_iff).mpr h)
      exact iff_of_true
        ⟨_, rfl, (by decide : ¬NodeStatus.allowedDescendantChanged.Violates)⟩ (.inr hruled)
  · rw [if_pos hallowed, or_iff_left fun h ↦ hallowed h.1]
    exact exists_verdict_iff (fun _ ↦ (by decide : ¬NodeStatus.withinTolerance.Violates))
      fun _ ↦ (by decide : NodeStatus.unexpectedDivergence.Violates)

/-! ## The comparison of all nodes -/

/-- **The nodes in order.** No status violates exactly when every node is accepted: a comparison
that stops early stops at a violation. -/
theorem forall_accepted_iff (ids : List String) :
    (∃ perNode, checkNodes lib envelope original replay ids = .ok perNode ∧
      ∀ m ∈ perNode, ¬m.2.status.Violates) ↔
    ∀ id ∈ ids, Accepted lib envelope original replay id := by
  induction ids with
  | nil => exact iff_of_true ⟨[], rfl, List.forall_mem_nil _⟩ (List.forall_mem_nil _)
  | cons id ids ih =>
    rw [List.forall_mem_cons, ← ih, ← accepted_iff, checkNodes]
    constructor
    · rintro ⟨perNode, hrun, hperNode⟩
      obtain ⟨entry, hentry, hrun⟩ := bind_eq_ok_iff.mp hrun
      split at hrun
      · rename_i hstatus
        obtain rfl := pure_eq_ok_iff.mp hrun
        exact absurd (hstatus ▸ by decide) (hperNode _ List.mem_cons_self)
      · obtain ⟨rest, hrest, hrun⟩ := bind_eq_ok_iff.mp hrun
        obtain rfl := pure_eq_ok_iff.mp hrun
        exact ⟨⟨entry, hentry, hperNode _ List.mem_cons_self⟩,
          rest, hrest, fun m hm ↦ hperNode m (List.mem_cons_of_mem _ hm)⟩
    · rintro ⟨⟨entry, hentry, hstatus⟩, rest, hrest, hperNode⟩
      have hnext : entry.status ≠ .forbiddenDivergence := fun h ↦ hstatus (h ▸ by decide)
      refine ⟨(id, entry) :: rest, ?_, List.forall_mem_cons.mpr ⟨hstatus, hperNode⟩⟩
      rw [hentry, ok_bind, if_neg hnext, hrest, ok_bind]
      rfl

omit [FloatText F] in
theorem report_valid_iff {perNode : List (String × NodeEntry F)} :
    (report lib perNode).valid = true ↔ ∀ m ∈ perNode, ¬m.2.status.Violates := by
  simp only [report, withStatus, List.all_eq_true, decide_eq_true_eq, List.map_eq_nil_iff,
    List.filter_eq_nil_iff, NodeStatus.Violates, List.mem_map]
  constructor
  · rintro h m hm ⟨v, hv, heq⟩
    exact h v hv m hm heq.symm
  · intro h v hv m hm heq
    exact h m hm ⟨v, hv, heq.symm⟩

omit [FloatText F] in
theorem getNode_of_notMem {nodes : ExecutionSnapshot F} (h : id ∉ nodes.map Prod.fst) :
    getNode nodes id = none := by
  rw [getNode, Dict.get?, Option.map_eq_none_iff, List.find?_eq_none]
  intro m hm heq
  exact h (List.mem_map.mpr ⟨m, hm, of_decide_eq_true heq⟩)

omit [FloatText F] in
theorem not_changed_of_notMem (h : id ∉ nodeIds original replay) : ¬Changed original replay id := by
  rw [nodeIds, sorted, List.mem_insertionSort, List.mem_dedup, List.mem_append, not_or] at h
  rw [Changed, outputHash, outputHash, getNode_of_notMem h.1, getNode_of_notMem h.2]
  exact fun hne ↦ hne rfl

/-- **What a valid report means to the comparison.** -/
theorem valid_iff : (∃ r, validate lib original replay envelope = .ok r ∧ r.valid = true) ↔
    ∀ id ∈ nodeIds original replay, Accepted lib envelope original replay id := by
  rw [← forall_accepted_iff]
  constructor
  · rintro ⟨r, hrun, hvalid⟩
    obtain ⟨perNode, hperNode, hrun⟩ := bind_eq_ok_iff.mp hrun
    obtain rfl := pure_eq_ok_iff.mp hrun
    exact ⟨perNode, hperNode, report_valid_iff.mp hvalid⟩
  · rintro ⟨perNode, hrun, hperNode⟩
    refine ⟨report lib perNode, ?_, report_valid_iff.mpr hperNode⟩
    change (checkNodes lib envelope original replay (nodeIds original replay) >>= _) = _
    rw [hrun]
    rfl

end Compare

/-! ## Where the comparison and coherence differ -/

section Differences

variable [FloatText F] (lib : DivergenceLibrary F) (envelope : ReplayEquivalenceEnvelope F)
  (original replay : ExecutionSnapshot F)

/-- A change that is left to the rules, and does not pass them. -/
def Untolerated (id : String) : Prop :=
  id ∉ envelope.intervenedVariables ∧ KeepsFrozen envelope replay id ∧
    Changed original replay id ∧ id ∉ envelope.forbiddenDivergenceNodes ∧
    ¬Tolerated lib envelope original replay id

/-- A violation that the comparison sees: a node that lost the hash it was frozen with, a forbidden
node that changed, or a change that is not tolerated, of a node that is not allowed to change or has
a rule by either lookup. -/
def Breaks (id : String) : Prop :=
  id ∉ envelope.intervenedVariables ∧ (¬KeepsFrozen envelope replay id ∨
      Changed original replay id ∧ id ∈ envelope.forbiddenDivergenceNodes) ∨
    Untolerated lib envelope original replay id ∧ (id ∉ envelope.allowedCausalDescendants ∨
      IsRuled lib envelope id ∧ toleranceRule envelope id ≠ .none)

/-- A violation that it does not see: a frozen variable that occurs in neither execution, or a
change of an allowed descendant with a rule that is false as a condition. -/
def Unseen : Prop :=
  (∃ id ∉ nodeIds original replay, id ∉ envelope.intervenedVariables ∧
      ¬KeepsFrozen envelope replay id) ∨
    ∃ id ∈ envelope.allowedCausalDescendants, Untolerated lib envelope original replay id ∧
      ¬IsRuled lib envelope id ∧ toleranceRule envelope id ≠ .none

/-- What it takes for a violation: a change of an allowed descendant whose own rule is `None`, which
is passed over for the rule for all nodes and then applied. -/
def Unfounded : Prop :=
  ∃ id ∈ envelope.allowedCausalDescendants, Untolerated lib envelope original replay id ∧
    IsRuled lib envelope id ∧ toleranceRule envelope id = .none

variable {lib envelope original replay}

theorem mem_nodeIds_of_untolerated {id : String}
    (h : Untolerated lib envelope original replay id) : id ∈ nodeIds original replay := by
  by_contra hid
  exact not_changed_of_notMem hid h.2.2.1

theorem not_accepted_iff {id : String} : ¬Accepted lib envelope original replay id ↔
    Breaks lib envelope original replay id ∨
      id ∈ envelope.allowedCausalDescendants ∧ Untolerated lib envelope original replay id ∧
        IsRuled lib envelope id ∧ toleranceRule envelope id = .none := by
  rw [Accepted, Breaks, Untolerated]
  grind

/-- The comparison finds an execution valid when it sees no violation and takes nothing for one. -/
theorem valid_iff_not : (∃ r, validate lib original replay envelope = .ok r ∧ r.valid = true) ↔
    (¬∃ id ∈ nodeIds original replay, Breaks lib envelope original replay id) ∧
      ¬Unfounded lib envelope original replay := by
  rw [valid_iff]
  constructor
  · refine fun h ↦ ⟨?_, ?_⟩
    · rintro ⟨id, hid, hbreaks⟩
      exact not_accepted_iff.mpr (.inl hbreaks) (h id hid)
    · rintro ⟨id, hallowed, huntolerated, hrule⟩
      exact not_accepted_iff.mpr (.inr ⟨hallowed, huntolerated, hrule⟩)
        (h id (mem_nodeIds_of_untolerated huntolerated))
  · rintro ⟨hbreaks, hunfounded⟩ id hid
    by_contra hnot
    rcases not_accepted_iff.mp hnot with h | h
    · exact hbreaks ⟨id, hid, h⟩
    · exact hunfounded ⟨id, h⟩

theorem coherent_iff_not : Coherent lib envelope original replay ↔
    (¬∃ id ∈ nodeIds original replay, Breaks lib envelope original replay id) ∧
      ¬Unseen lib envelope original replay := by
  constructor
  · refine fun h ↦ ⟨?_, ?_⟩
    · rintro ⟨id, -, ⟨hintervened, hfrozen | ⟨hchanged, hforbidden⟩⟩ | ⟨huntolerated, hrule⟩⟩
      · exact hfrozen (h.frozen id hintervened)
      · exact h.forbidden id hforbidden hintervened hchanged
      · obtain ⟨hintervened, -, hchanged, hforbidden, hnot⟩ := huntolerated
        rcases h.other id hintervened hforbidden hchanged with htolerated | ⟨hallowed, hnone⟩
        · exact hnot htolerated
        · exact hrule.elim (absurd hallowed) fun hrule ↦ hrule.2 hnone
    · rintro (⟨id, -, hintervened, hfrozen⟩ | ⟨id, hallowed, huntolerated, -, hrule⟩)
      · exact hfrozen (h.frozen id hintervened)
      · obtain ⟨hintervened, -, hchanged, hforbidden, hnot⟩ := huntolerated
        rcases h.other id hintervened hforbidden hchanged with htolerated | ⟨-, hnone⟩
        · exact hnot htolerated
        · exact hrule hnone
  · rintro ⟨hbreaks, hunseen⟩
    have hchanged {id : String} (h : Changed original replay id) :
        id ∈ nodeIds original replay := by
      by_contra hid
      exact not_changed_of_notMem hid h
    have hfrozen (id : String) (hid : id ∉ envelope.intervenedVariables) :
        KeepsFrozen envelope replay id := by
      by_contra hlost
      by_cases hmem : id ∈ nodeIds original replay
      · exact hbreaks ⟨id, hmem, .inl ⟨hid, .inl hlost⟩⟩
      · exact hunseen (.inl ⟨id, hmem, hid, hlost⟩)
    refine ⟨hfrozen, fun id hforbidden hid h ↦ ?_, fun id hid hforbidden h ↦ ?_⟩
    · exact hbreaks ⟨id, hchanged h, .inl ⟨hid, .inr ⟨h, hforbidden⟩⟩⟩
    · by_contra hnot
      rw [not_or, not_and] at hnot
      have huntolerated : Untolerated lib envelope original replay id :=
        ⟨hid, hfrozen id hid, h, hforbidden, hnot.1⟩
      by_cases hallowed : id ∈ envelope.allowedCausalDescendants
      · by_cases hruled : IsRuled lib envelope id
        · exact hbreaks ⟨id, hchanged h, .inr ⟨huntolerated, .inr ⟨hruled, hnot.2 hallowed⟩⟩⟩
        · exact hunseen (.inr ⟨id, hallowed, huntolerated, hruled, hnot.2 hallowed⟩)
      · exact hbreaks ⟨id, hchanged h, .inr ⟨huntolerated, .inl hallowed⟩⟩

variable (lib envelope original replay) in
/-- **A valid report means coherence** exactly when some violation is seen, or there is one that
goes unseen just if there is something else that is taken for one. -/
theorem valid_iff_coherent_iff :
    ((∃ r, validate lib original replay envelope = .ok r ∧ r.valid = true) ↔
      Coherent lib envelope original replay) ↔
    (∃ id ∈ nodeIds original replay, Breaks lib envelope original replay id) ∨
      (Unseen lib envelope original replay ↔ Unfounded lib envelope original replay) := by
  rw [valid_iff_not, coherent_iff_not]
  by_cases hbreaks : ∃ id ∈ nodeIds original replay, Breaks lib envelope original replay id
  · exact iff_of_true (iff_of_false (fun h ↦ h.1 hbreaks) fun h ↦ h.1 hbreaks) (.inl hbreaks)
  · rw [and_iff_right hbreaks, and_iff_right hbreaks, or_iff_right hbreaks, not_iff_not]
    exact iff_comm

end Differences

/-! ## Several replays -/

section Replays

variable [FloatText F] (lib : DivergenceLibrary F) (envelope : ReplayEquivalenceEnvelope F)

omit [FloatText F] in
/-- The spans of a replay result: the original ones, and those of the replay. -/
def spansOf (result : Dict (List (Span F))) : List (Span F) × List (Span F) :=
  ((Dict.get? result "original_spans").getD [],
    (Dict.get? result "replay_spans").getD ((Dict.get? result "spans").getD []))

/-- A forbidden node that was not intervened on has changed in a replay. -/
def ReachesForbidden (replay : List (Span F) × List (Span F)) : Prop :=
  ∃ original replayed, fromSpans lib replay.1 = .ok original ∧
    fromSpans lib replay.2 = .ok replayed ∧ ∃ id ∈ envelope.forbiddenDivergenceNodes,
      id ∉ envelope.intervenedVariables ∧ Changed original replayed id

/-- Every node of a replay is accepted. -/
def AcceptedReplay (replay : List (Span F) × List (Span F)) : Prop :=
  ∀ original replayed, fromSpans lib replay.1 = .ok original →
    fromSpans lib replay.2 = .ok replayed →
      ∀ id ∈ nodeIds original replayed, Accepted lib envelope original replayed id

/-- The worst replay decides: the report is invalid just if that of some replay is, and terminated
early just if some replay reaches a forbidden node. -/
def WorstDecides (replays : List (List (Span F) × List (Span F))) (r : DivergenceReport F) : Prop :=
  (r.valid = false ↔ ∃ replay ∈ replays, ∃ report,
      validateReplay lib envelope replay = .ok report ∧ report.valid = false) ∧
    (r.earlyTerminated = true ↔ ∃ replay ∈ replays, ReachesForbidden lib envelope replay)

variable {lib envelope} {replays : List (List (Span F) × List (Span F))} {r : DivergenceReport F}

omit [FloatText F] in
theorem not_earlyTerminated_of_valid {perNode : List (String × NodeEntry F)}
    (h : (report lib perNode).valid = true) : (report lib perNode).earlyTerminated = false := by
  refine decide_eq_false (not_not.mpr ?_)
  rw [withStatus, List.map_eq_nil_iff, List.filter_eq_nil_iff]
  intro m hm heq
  exact report_valid_iff.mp h m hm (of_decide_eq_true heq ▸ by decide)

/-- Every replay is compared, and the worst report is that of one of them. -/
theorem foldlM_worst {worst worst' : Option (DivergenceReport F)}
    (h : replays.foldlM (fun worst replay ↦ do
      let report ← validateReplay lib envelope replay
      return if worst.elim true fun w : DivergenceReport F ↦ !report.valid && w.valid then
        some report else worst) worst = .ok worst') :
    (∀ replay ∈ replays, ∃ report, validateReplay lib envelope replay = .ok report) ∧
      (worst' = worst ∨ ∃ replay ∈ replays, ∃ report,
        validateReplay lib envelope replay = .ok report ∧ worst' = some report) := by
  induction replays generalizing worst with
  | nil => exact ⟨List.forall_mem_nil _, .inl (Except.ok.inj h).symm⟩
  | cons replay replays ih =>
    rw [List.foldlM_cons] at h
    obtain ⟨next, hnext, h⟩ := bind_eq_ok_iff.mp h
    obtain ⟨report, hreport, hnext⟩ := bind_eq_ok_iff.mp hnext
    obtain ⟨hall, hworst⟩ := ih h
    refine ⟨List.forall_mem_cons.mpr ⟨⟨report, hreport⟩, hall⟩, ?_⟩
    rcases hworst with rfl | ⟨other, hother, hworst⟩
    · rw [← pure_eq_ok_iff.mp hnext]
      split
      · exact .inr ⟨replay, List.mem_cons_self, report, hreport, rfl⟩
      · exact .inl rfl
    · exact .inr ⟨other, List.mem_cons_of_mem _ hother, hworst⟩

theorem validateDivergence_spec (h : validateDivergence lib replays envelope = .ok r) :
    r.valid = true ∧ r.earlyTerminated = false ∧
      ∀ replay ∈ replays, ∃ report, validateReplay lib envelope replay = .ok report := by
  refine ⟨valid_of_validateDivergence h, ?_⟩
  rw [validateDivergence] at h
  split at h
  · rename_i hnil
    obtain rfl := Except.ok.inj h
    exact ⟨rfl, hnil ▸ List.forall_mem_nil _⟩
  obtain ⟨worst, hworst, h⟩ := bind_eq_ok_iff.mp h
  obtain rfl := pure_eq_ok_iff.mp h
  obtain ⟨hall, rfl | ⟨replay, -, report, hreport, rfl⟩⟩ := foldlM_worst hworst
  · exact ⟨rfl, hall⟩
  refine ⟨?_, hall⟩
  rw [reportOr]
  split
  · rename_i hvalid
    obtain ⟨original, -, hreport⟩ := bind_eq_ok_iff.mp hreport
    obtain ⟨replayed, -, hreport⟩ := bind_eq_ok_iff.mp hreport
    obtain ⟨perNode, -, hreport⟩ := bind_eq_ok_iff.mp hreport
    obtain rfl := pure_eq_ok_iff.mp hreport
    exact not_earlyTerminated_of_valid hvalid
  · rfl

theorem acceptedReplay_iff {replay : List (Span F) × List (Span F)} {report : DivergenceReport F}
    (h : validateReplay lib envelope replay = .ok report) :
    AcceptedReplay lib envelope replay ↔ report.valid = true := by
  obtain ⟨original, horiginal, h⟩ := bind_eq_ok_iff.mp h
  obtain ⟨replayed, hreplayed, h⟩ := bind_eq_ok_iff.mp h
  constructor
  · intro haccepted
    obtain ⟨report', h', hvalid⟩ := valid_iff.mpr (haccepted original replayed horiginal hreplayed)
    rwa [Except.ok.inj (h.symm.trans h')]
  · intro hvalid original' replayed' horiginal' hreplayed'
    obtain rfl := Except.ok.inj (horiginal.symm.trans horiginal')
    obtain rfl := Except.ok.inj (hreplayed.symm.trans hreplayed')
    exact valid_iff.mp ⟨report, h, hvalid⟩

theorem not_reachesForbidden {replay : List (Span F) × List (Span F)}
    (h : AcceptedReplay lib envelope replay) : ¬ReachesForbidden lib envelope replay := by
  rintro ⟨original, replayed, horiginal, hreplayed, id, hforbidden, hid, hchanged⟩
  have hmem : id ∈ nodeIds original replayed := by
    by_contra hmem
    exact not_changed_of_notMem hmem hchanged
  rcases h original replayed horiginal hreplayed id hmem with hin | ⟨-, hrules⟩
  · exact hid hin
  · exact (hrules hchanged).1 hforbidden

theorem worstDecides_iff (h : validateDivergence lib replays envelope = .ok r) :
    WorstDecides lib envelope replays r ↔
      ∀ replay ∈ replays, AcceptedReplay lib envelope replay := by
  obtain ⟨hvalid, hearly, hall⟩ := validateDivergence_spec h
  rw [WorstDecides, hvalid, hearly]
  constructor
  · rintro ⟨hinvalid, -⟩ replay hreplay
    obtain ⟨report, hreport⟩ := hall replay hreplay
    rw [acceptedReplay_iff hreport, ← Bool.not_eq_false]
    intro hfalse
    exact Bool.noConfusion (hinvalid.mpr ⟨replay, hreplay, report, hreport, hfalse⟩)
  · intro haccepted
    refine ⟨iff_of_false Bool.noConfusion ?_, iff_of_false Bool.noConfusion ?_⟩
    · rintro ⟨replay, hreplay, report, hreport, hfalse⟩
      rw [(acceptedReplay_iff hreport).mp (haccepted replay hreplay)] at hfalse
      exact Bool.noConfusion hfalse
    · rintro ⟨replay, hreplay, hforbidden⟩
      exact not_reachesForbidden (haccepted replay hreplay) hforbidden

/-- **The worst replay decides** exactly when every replay is accepted. -/
theorem worstDecides_results_iff {results : List (Dict (List (Span F)))}
    (h : validateDivergence lib (results.map spansOf) envelope = .ok r) :
    WorstDecides lib envelope (results.map spansOf) r ↔
      ∀ result ∈ results, AcceptedReplay lib envelope (spansOf result) := by
  rw [worstDecides_iff h, List.forall_mem_map]

end Replays

/-! ## Small executions -/

def wholeRules : RuleLibrary WholeFloat where
  str v := ((dumps ⟨false, false⟩ false v).map String.ofList).getD ""
  keyStr k := k.text.getD ""
  sameKey k l := k = l
  same _ _ := false
  set _ := .error ⟨.typeError, ""⟩
  split s := [s]
  float
    | .float x => .ok x
    | _ => .error ⟨.valueError, "could not convert string to float"⟩
  div _ _ := ⟨0⟩
  sub _ _ := .ok (.inr ⟨0⟩)
  ratio s t := if s = t then ⟨1⟩ else ⟨0⟩
  fixed2 x := String.ofList (FloatText.repr x)
  fixed6 _ := ""
  noAttribute name _ := ⟨.attributeError, "object has no attribute '" ++ name ++ "'"⟩
  zero := ⟨0⟩
  eightTenths := ⟨1⟩
  nineTenths := ⟨1⟩

def hashLibrary : DivergenceLibrary WholeFloat :=
  DivergenceLibrary.withRules
    { sha256 := Bytes.latin1
      str := id
      strList := ", ".intercalate
      isZero x := x.value = 0
      dumpsError _ := ""
      idError _ := ⟨.typeError, ""⟩
      rule _ _ _ _ := .ok (false, "") } wholeRules

/-- An envelope with what it says of the nodes. -/
def nodeEnvelope (frozenVariables : List (String × String))
    (forbiddenDivergenceNodes allowedCausalDescendants : List String)
    (constraints : List (String × Val WholeFloat)) : ReplayEquivalenceEnvelope WholeFloat :=
  { ReplayEquivalenceEnvelope.smallEnvelope "t" "" [] with
    frozenVariables, forbiddenDivergenceNodes, allowedCausalDescendants, constraints }

/-- A replay in which a frozen variable does not occur, and two in which an allowed descendant
changes from `null` to `true`: under a rule that is empty, and under none where all nodes may
change. -/
def frozenEnvelope : ReplayEquivalenceEnvelope WholeFloat := nodeEnvelope [("db", "h")] [] [] []

def emptyRuleEnvelope : ReplayEquivalenceEnvelope WholeFloat :=
  nodeEnvelope [] [] ["n"] [("n", .dict [])]

def noRuleEnvelope : ReplayEquivalenceEnvelope WholeFloat :=
  nodeEnvelope [] [] ["n"] [("n", .none), ("*", .object [("type", .str "ignore")])]

def oneNode (output : Val WholeFloat) (hash : String) : ExecutionSnapshot WholeFloat :=
  [("n", ⟨"n", output, .str "", hash⟩)]

/-- A valid report does not mean coherence, and coherence does not make a report valid. -/
theorem not_valid_iff_coherent :
    ¬((∃ r, validate hashLibrary [] [] frozenEnvelope = .ok r ∧ r.valid = true) ↔
      Coherent hashLibrary frozenEnvelope [] []) ∧
    ¬((∃ r, validate hashLibrary (oneNode .none "null") (oneNode (.bool true) "true")
        emptyRuleEnvelope = .ok r ∧ r.valid = true) ↔
      Coherent hashLibrary emptyRuleEnvelope (oneNode .none "null")
        (oneNode (.bool true) "true")) ∧
    ¬((∃ r, validate hashLibrary (oneNode .none "null") (oneNode (.bool true) "true")
        noRuleEnvelope = .ok r ∧ r.valid = true) ↔
      Coherent hashLibrary noRuleEnvelope (oneNode .none "null")
        (oneNode (.bool true) "true")) := by
  refine ⟨fun h ↦ ?_, fun h ↦ ?_, fun h ↦ ?_⟩
  · have hcoherent := h.mp ⟨_, rfl, rfl⟩
    exact absurd (hcoherent.frozen "db" (by decide) "h" rfl) (by decide)
  · have hcoherent := h.mp ⟨_, rfl, rfl⟩
    rcases hcoherent.other "n" (by decide) (by decide) (by decide : "null" ≠ "true") with
      ⟨reason, htolerated⟩ | ⟨-, hnone⟩
    · exact absurd (Prod.mk.inj (Except.ok.inj htolerated)).1 Bool.false_ne_true
    · cases hnone
  · have hcoherent : Coherent hashLibrary noRuleEnvelope (oneNode .none "null")
        (oneNode (.bool true) "true") := by
      refine ⟨fun id _ expected h ↦ (by cases h), fun id h ↦ absurd h List.not_mem_nil,
        fun id _ _ hchanged ↦ .inr ?_⟩
      by_cases hid : id = "n"
      · subst hid
        exact ⟨by decide, rfl⟩
      · have hne : ¬"n" = id := fun h ↦ hid h.symm
        simp [Changed, outputHash, getNode, Dict.get?, oneNode, hne] at hchanged
    obtain ⟨r, hr, hvalid⟩ := h.mpr hcoherent
    obtain rfl := Except.ok.inj hr
    exact absurd hvalid Bool.false_ne_true

/-- A replay that reaches a forbidden node, and one that does not. -/
def nullSpan : Span WholeFloat := [("span_id", .str "n"), ("output", .none)]

def trueSpan : Span WholeFloat := [("span_id", .str "n"), ("output", .bool true)]

def forbiddenEnvelope : ReplayEquivalenceEnvelope WholeFloat := nodeEnvelope [] ["n"] [] []

/-- A replay that reaches the forbidden node, beside one that does not. -/
def forbiddenFirst : List (List (String × List (Span WholeFloat))) :=
  [[("original_spans", [nullSpan]), ("replay_spans", [trueSpan])],
    [("original_spans", [nullSpan]), ("spans", [nullSpan])]]

theorem worstDecides_results_iff_forbiddenFirst : ∃ r, validateDivergence hashLibrary
      (forbiddenFirst.map spansOf) forbiddenEnvelope = .ok r ∧
    (WorstDecides hashLibrary forbiddenEnvelope (forbiddenFirst.map spansOf) r ↔
      ∀ result ∈ forbiddenFirst, AcceptedReplay hashLibrary forbiddenEnvelope (spansOf result)) :=
  ⟨_, rfl, worstDecides_results_iff rfl⟩

/-- The report of a replay that reached a forbidden node is that of one that did not. -/
theorem not_worstDecides : ∃ r, validateDivergence hashLibrary
      ([[("original_spans", [nullSpan]), ("replay_spans", [trueSpan])]].map spansOf)
      forbiddenEnvelope = .ok r ∧
    ¬WorstDecides hashLibrary forbiddenEnvelope
      ([[("original_spans", [nullSpan]), ("replay_spans", [trueSpan])]].map spansOf) r := by
  refine ⟨validReport "All replays passed divergence check.", rfl, fun h ↦ ?_⟩
  obtain ⟨report, hreport, hinvalid⟩ : ∃ report,
      validateReplay hashLibrary forbiddenEnvelope ([nullSpan], [trueSpan]) = .ok report ∧
        report.valid = false := ⟨_, rfl, rfl⟩
  exact Bool.noConfusion (h.1.mpr ⟨_, List.mem_singleton_self _, report, hreport, hinvalid⟩)

end DriftGuardX.Validation
