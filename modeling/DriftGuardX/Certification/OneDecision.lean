import DriftGuardX.Certification.Sessions
import DriftGuardX.Foundation.Runs

/-!
# One decision for a request

Two sessions that both find a request pending both decide on it, and the status that it keeps is that
of the later commit. When each session that writes finds the request still pending, there is at most
one commit about it: at most one final decision and one certificate, and no certificate when it was
rejected or expired (`oneDecision_of_meets`).
-/

namespace DriftGuardX.Certification

open Json Runs
open Isolation (Uuid)

variable {K F : Type}

section Exclusive

variable [FloatText F] (lib : CertificationLibrary K F)

/-- A session that writes finds its request pending. -/
def Exclusive (w : Approvals K F) : ApprovalEvent K → Prop
  | .read _ _ => True
  | .finish index now draws =>
    ∀ session ∈ w.sessions[index]?, ∀ t ∈ session.commit lib now draws,
      (w.requests t.requestId).map ApprovalRequestORM.status = some .pending

instance (w : Approvals K F) : (event : ApprovalEvent K) → Decidable (Exclusive lib w event)
  | .read _ _ => .isTrue trivial
  | .finish _ _ _ => inferInstanceAs (Decidable (∀ _ ∈ _, ∀ _ ∈ _, _))

end Exclusive

/-! ## What a state shows of a request -/

/-- The commits about a request. -/
def Approvals.about (w : Approvals K F) (id : Uuid) : List Commit :=
  w.commits.filter (·.requestId = id)

/-- A decision is stored, and the answer was not that it is not final. -/
def Commit.final (t : Commit) : Bool := t.decision.isSome ∧ t.status ≠ .awaitingPromotion

/-- **One decision.** A request has at most one final decision and one certificate, and no certificate
when its stored status is that of a rejected or an expired one. -/
structure OneDecision (w : Approvals K F) : Prop where
  decisions : ∀ id, ((w.about id).filter Commit.final).length ≤ 1
  certificates : ∀ id, ((w.about id).filter (·.certificate.isSome)).length ≤ 1
  unapproved : ∀ id row, w.requests id = some row → row.status = .rejected ∨ row.status = .expired →
    ∀ t ∈ w.about id, t.certificate = none

/-! ## The invariant -/

/-- There is at most one commit about a request, which gave it its status; while it
is pending there is none. -/
structure Settled (w : Approvals K F) (id : Uuid) : Prop where
  single : (w.about id).length ≤ 1
  status : ∀ t ∈ w.about id,
    t.Coherent ∧ t.status ≠ .pending ∧ (w.requests id).map ApprovalRequestORM.status = some t.status

def AllSettled (w : Approvals K F) : Prop := ∀ id, Settled w id

theorem allSettled_start (requests : Uuid → Option (ApprovalRequestORM F)) :
    AllSettled (Approvals.start requests : Approvals K F) :=
  fun _ ↦ ⟨Nat.zero_le 1, fun t h ↦ absurd h (by simp [Approvals.about, Approvals.start])⟩

theorem AllSettled.oneDecision {w : Approvals K F} (h : AllSettled w) : OneDecision w := by
  refine ⟨fun id ↦ ?_, fun id ↦ ?_, fun id row hrow hstatus t ht ↦ ?_⟩
  · exact (List.length_filter_le _ _).trans (h id).single
  · exact (List.length_filter_le _ _).trans (h id).single
  · obtain ⟨hcoherent, -, hsame⟩ := (h id).status t ht
    by_contra hcertificate
    rw [hrow, Option.map_some, hcoherent hcertificate] at hsame
    have happroved : row.status = .approved := Option.some.inj hsame
    rw [happroved] at hstatus
    exact hstatus.elim (fun h ↦ by contradiction) fun h ↦ by contradiction

/-- A commit about a request that is pending. -/
theorem AllSettled.commit {w w' : Approvals K F} {t : Commit} (hw : AllSettled w)
    (hrequests : w'.requests = t.apply w.requests)
    (hcommits : w'.commits = w.commits ++ [t]) (hcoherent : t.Coherent)
    (hdecided : t.status ≠ .pending)
    (hpending : (w.requests t.requestId).map ApprovalRequestORM.status = some .pending) :
    AllSettled w' := by
  intro id
  -- nothing was committed about a pending request
  have hnone : w.about t.requestId = [] := by
    refine List.eq_nil_iff_forall_not_mem.mpr fun u hu ↦ ?_
    obtain ⟨-, hne, hsame⟩ := (hw t.requestId).status u hu
    rw [hpending] at hsame
    exact hne (Option.some.inj hsame).symm
  have habout : w'.about id = w.about id ++ [t].filter (·.requestId = id) := by
    rw [Approvals.about, hcommits, List.filter_append]
    rfl
  by_cases hid : t.requestId = id
  · subst hid
    rw [hnone, List.nil_append, List.filter_singleton, decide_eq_true rfl] at habout
    refine ⟨by rw [habout]; rfl, fun u hu ↦ ?_⟩
    rw [habout] at hu
    obtain rfl := List.mem_singleton.mp hu
    refine ⟨hcoherent, hdecided, ?_⟩
    obtain ⟨row, hrow, -⟩ := Option.map_eq_some_iff.mp hpending
    rw [hrequests, Commit.apply, Function.update_self, hrow]
    rfl
  · rw [List.filter_singleton, decide_eq_false hid] at habout
    have hsame : w'.about id = w.about id := habout.trans (List.append_nil _)
    refine ⟨hsame ▸ (hw id).single, fun u hu ↦ ?_⟩
    rw [hrequests, Commit.apply, Function.update_of_ne (Ne.symm hid)]
    exact (hw id).status u (hsame ▸ hu)

section Step

variable [FloatText F] {lib : CertificationLibrary K F}

/-- **One step** keeps every request settled. -/
theorem allSettled_of_step [DecidableEq K] {w w' : Approvals K F} {event : ApprovalEvent K}
    (hw : AllSettled w) (hexclusive : Exclusive lib w event)
    (hstep : w.step lib event = some w') : AllSettled w' := by
  obtain ⟨-, ⟨hrequests, hcommits⟩ | ⟨index, now, draws, session, t, rfl, hsession, ht, hrequests,
    hcommits⟩⟩ := Approvals.step_cases hstep
  · intro id
    have habout : w'.about id = w.about id := by rw [Approvals.about, hcommits, Approvals.about]
    refine ⟨habout ▸ (hw id).single, ?_⟩
    rw [habout, hrequests]
    exact (hw id).status
  · obtain ⟨-, hcoherent, hdecided⟩ := Session.spec_commit ht
    exact hw.commit hrequests hcommits hcoherent hdecided (hexclusive session hsession t ht)

/-- **One decision, one certificate** in every run, from any table of requests, in which each session
that writes finds its request pending. -/
theorem oneDecision_of_meets [DecidableEq K] {requests : Uuid → Option (ApprovalRequestORM F)}
    {events : List (ApprovalEvent K)} {w : Approvals K F}
    (hmeets : Meets (Approvals.step lib) (Exclusive lib) (Approvals.start requests) events)
    (hrun : run (Approvals.step lib) (Approvals.start requests) events = some w) : OneDecision w := by
  have hsettled : AllSettled w := by
    refine invariant (fun v e v' hv hok hstep ↦ ?_) (allSettled_start requests) hmeets hrun
    exact allSettled_of_step hv hok hstep
  exact hsettled.oneDecision

end Step

/-! ## Instances -/

/-- A session approves, and one that starts later finds the request decided. -/
def oneAfterTheOther : List (ApprovalEvent ℕ) :=
  [.read approval ⟨5, 1⟩, .finish 0 0 ⟨11, 12, 0⟩, .read approval ⟨6, 1⟩, .finish 0 1 ⟨13, 14, 1⟩]

theorem oneDecision_oneAfterTheOther :
    ∃ w, run (Approvals.step numberedKeys) (Approvals.start oneRequest) oneAfterTheOther = some w ∧
      OneDecision w := by
  obtain ⟨w, hrun⟩ := Option.isSome_iff_exists.mp
    (show (run (Approvals.step numberedKeys) (Approvals.start oneRequest) oneAfterTheOther).isSome
      by decide +kernel)
  exact ⟨w, hrun, oneDecision_of_meets (by decide +kernel) hrun⟩

/-- Two administrators approve the request at once. -/
def atOnce : List (ApprovalEvent ℕ) :=
  [.read approval ⟨5, 1⟩, .read approval ⟨6, 1⟩, .finish 0 0 ⟨11, 12, 0⟩, .finish 0 1 ⟨13, 14, 1⟩]

/-- Both decisions are stored, and two certificates. -/
theorem not_oneDecision_atOnce :
    ¬ ∀ events w, run (Approvals.step (numberedKeys (F := WholeFloat))) (Approvals.start oneRequest)
      events = some w → OneDecision w := by
  intro h
  have hcount : (run (Approvals.step numberedKeys) (Approvals.start oneRequest) atOnce).map
      (fun w ↦ ((w.about 9).filter (·.certificate.isSome)).length) = some 2 := by decide +kernel
  obtain ⟨w, hrun, htwo⟩ := Option.map_eq_some_iff.mp hcount
  have hone := (h atOnce w hrun).certificates 9
  omega

end DriftGuardX.Certification
