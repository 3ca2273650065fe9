import DriftGuardX.Certification.Approval
import Mathlib.Logic.Function.Basic

/-!
# Sessions of approvals

A session of `approve_recovery` reads the row of a request without a lock, decides by what it read,
and writes when it commits. The update names only the id of the row, so a session commits whatever has
been committed since it read.
-/

namespace DriftGuardX.Certification

open Json
open Isolation (Uuid)
open Replay (uuidText)

variable {K F : Type}

/-- A session that has read a row. -/
structure Session (F : Type) where
  payload : ApprovalPayload
  user : User
  requestId : Uuid
  row : Option (ApprovalRequestORM F)

/-- The requests, the sessions that have not ended, what was committed, and the key pairs that were
drawn. -/
structure Approvals (K F : Type) where
  requests : Uuid → Option (ApprovalRequestORM F)
  sessions : List (Session F)
  commits : List Commit
  keys : List K

/-- Before the first session, with any table of requests. -/
def Approvals.start (requests : Uuid → Option (ApprovalRequestORM F)) : Approvals K F :=
  ⟨requests, [], [], []⟩

/-- A session reads its row, or the one at an index ends: it decides at some time, with what it draws,
and commits. -/
inductive ApprovalEvent (K : Type) where
  | read (payload : ApprovalPayload) (user : User)
  | finish (index : ℕ) (now : ℤ) (draws : Draws K)
  deriving DecidableEq, Repr

/-- A commit with a certificate approves. -/
def Commit.Coherent (t : Commit) : Prop := t.certificate ≠ none → t.status = .approved

/-- The key pair that an event draws. -/
def ApprovalEvent.drawn : ApprovalEvent K → List K
  | .read _ _ => []
  | .finish _ _ draws => [draws.key]

/-- The requests after a commit. -/
def Commit.apply (t : Commit) (requests : Uuid → Option (ApprovalRequestORM F)) :
    Uuid → Option (ApprovalRequestORM F) :=
  Function.update requests t.requestId
    ((requests t.requestId).map fun row ↦ { row with status := t.status })

section System

variable [FloatText F] (lib : CertificationLibrary K F)

/-- What a session writes. -/
def Session.commit (session : Session F) (now : ℤ) (draws : Draws K) : Option Commit :=
  (decideRequest lib session.payload session.user session.requestId session.row now draws).2

/-- The system after an event. A key pair is none that was drawn before. -/
def Approvals.step [DecidableEq K] (w : Approvals K F) : ApprovalEvent K → Option (Approvals K F)
  | .read payload user =>
    match requestedId lib payload with
    | .error _ => some w
    | .ok id => some { w with sessions := w.sessions ++ [⟨payload, user, id, w.requests id⟩] }
  | .finish index now draws => do
    let session ← w.sessions[index]?
    if draws.key ∈ w.keys then none
    else
      let w := { w with sessions := w.sessions.eraseIdx index, keys := w.keys ++ [draws.key] }
      match session.commit lib now draws with
      | none => some w
      | some t =>
        some { w with requests := t.apply w.requests, commits := w.commits ++ [t] }

variable {lib}

/-- What a session writes is about its request, is no way back to a pending one, and has a certificate
only when it approves. -/
theorem Session.spec_commit {session : Session F} {now : ℤ} {draws : Draws K} {t : Commit}
    (h : session.commit lib now draws = some t) :
    t.requestId = session.requestId ∧ t.Coherent ∧ t.status ≠ .pending := by
  unfold Session.commit decideRequest at h
  repeat' split at h
  all_goals first | contradiction | obtain rfl := Option.some.inj h
  all_goals exact ⟨rfl, by simp [Commit.Coherent], by simp⟩

theorem Session.exists_mintedFrom {session : Session F} {now : ℤ} {draws : Draws K} {t : Commit}
    (h : session.commit lib now draws = some t) {certificate : RecoveryCertificate}
    (hcertificate : t.certificate = some certificate) :
    ∃ source, MintedFrom lib certificate draws.key source := by
  unfold Session.commit decideRequest at h
  repeat' split at h
  all_goals first | contradiction | obtain rfl := Option.some.inj h
  all_goals first | contradiction | skip
  rename_i hmint
  obtain rfl := Option.some.inj hcertificate
  exact Certification.exists_mintedFrom lib hmint

/-- **What an event can do**: nothing about the requests, or commit what a session writes. -/
theorem Approvals.step_cases [DecidableEq K] {w w' : Approvals K F} {event : ApprovalEvent K}
    (h : w.step lib event = some w') :
    w'.keys = w.keys ++ event.drawn ∧
      ((w'.requests = w.requests ∧ w'.commits = w.commits) ∨
        ∃ index now draws session t, event = .finish index now draws ∧
          w.sessions[index]? = some session ∧ session.commit lib now draws = some t ∧
          w'.requests = t.apply w.requests ∧ w'.commits = w.commits ++ [t]) := by
  cases event with
  | read payload user =>
    simp only [Approvals.step] at h
    split at h
    all_goals
      obtain rfl := Option.some.inj h
      exact ⟨(List.append_nil _).symm, Or.inl ⟨rfl, rfl⟩⟩
  | finish index now draws =>
    obtain ⟨session, hsession, h⟩ := Option.bind_eq_some_iff.mp h
    split at h
    · contradiction
    · split at h
      · obtain rfl := Option.some.inj h
        exact ⟨rfl, Or.inl ⟨rfl, rfl⟩⟩
      · rename_i t ht
        obtain rfl := Option.some.inj h
        exact ⟨rfl, Or.inr ⟨index, now, draws, session, t, rfl, hsession, ht, rfl, rfl⟩⟩

end System

/-! ## An instance -/

/-- Administrators of tenant 1 approve request 9. -/
def approval : ApprovalPayload := { approvalId := some (uuidText 9) }

/-- The table with that request only. -/
def oneRequest : Uuid → Option (ApprovalRequestORM WholeFloat) :=
  fun id ↦ if id = 9 then some sampleRequest else none

end DriftGuardX.Certification
