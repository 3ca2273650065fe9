import Mathlib.Data.List.Basic

/-!
# Histories

A history is the list of the events of a run, in order. `Always` is the safety property that asks of
each event something that depends on the events before it, and `Sometime` asks it of one event.
-/

namespace DriftGuardX.History

variable {α : Type} {ok ok' : List α → α → Prop} {history : List α} {event : α}

/-- Each event is right after the events before it. -/
def Always (ok : List α → α → Prop) (history : List α) : Prop :=
  ∀ before event after, history = before ++ event :: after → ok before event

/-- One event is right after the events before it. -/
def Sometime (ok : List α → α → Prop) (history : List α) : Prop :=
  ∃ before event after, history = before ++ event :: after ∧ ok before event

theorem always_nil : Always ok [] := by
  intro before event after h
  exact absurd h (by simp)

theorem always_append_singleton :
    Always ok (history ++ [event]) ↔ Always ok history ∧ ok history event := by
  constructor
  · intro h
    refine ⟨fun before e after heq ↦ h before e (after ++ [event]) ?_, h history event [] rfl⟩
    rw [heq, List.append_assoc, List.cons_append]
  · rintro ⟨hhistory, hevent⟩ before e after heq
    rcases List.eq_nil_or_concat after with rfl | ⟨after', last, rfl⟩
    · obtain ⟨rfl, he⟩ := List.append_inj' heq rfl
      exact (List.cons.inj he).1 ▸ hevent
    · rw [List.concat_eq_append, ← List.cons_append, ← List.append_assoc] at heq
      exact hhistory before e after' (List.append_inj' heq rfl).1

theorem always_cons :
    Always ok (event :: history) ↔ ok [] event ∧ Always (fun before ↦ ok (event :: before)) history := by
  constructor
  · intro h
    exact ⟨h [] event history rfl, fun before e after heq ↦ h (event :: before) e after (heq ▸ rfl)⟩
  · rintro ⟨hfirst, hrest⟩ before e after heq
    cases before with
    | nil => exact (List.cons.inj heq).1 ▸ hfirst
    | cons b before =>
      obtain ⟨rfl, htail⟩ := List.cons.inj heq
      exact hrest before e after htail

theorem not_sometime_nil : ¬ Sometime ok [] := by
  rintro ⟨before, event, after, h, -⟩
  exact absurd h (by simp)

theorem sometime_append_singleton :
    Sometime ok (history ++ [event]) ↔ Sometime ok history ∨ ok history event := by
  constructor
  · rintro ⟨before, e, after, heq, h⟩
    rcases List.eq_nil_or_concat after with rfl | ⟨after', last, rfl⟩
    · obtain ⟨rfl, he⟩ := List.append_inj' heq rfl
      exact .inr ((List.cons.inj he).1 ▸ h)
    · rw [List.concat_eq_append, ← List.cons_append, ← List.append_assoc] at heq
      exact .inl ⟨before, e, after', (List.append_inj' heq rfl).1, h⟩
  · rintro (⟨before, e, after, rfl, h⟩ | h)
    · exact ⟨before, e, after ++ [event], by rw [List.append_assoc, List.cons_append], h⟩
    · exact ⟨history, event, [], rfl, h⟩

theorem sometime_cons :
    Sometime ok (event :: history) ↔
      ok [] event ∨ Sometime (fun before ↦ ok (event :: before)) history := by
  constructor
  · rintro ⟨before, e, after, heq, h⟩
    cases before with
    | nil => exact .inl ((List.cons.inj heq).1 ▸ h)
    | cons b before =>
      obtain ⟨rfl, htail⟩ := List.cons.inj heq
      exact .inr ⟨before, e, after, htail, h⟩
  · rintro (h | ⟨before, e, after, rfl, h⟩)
    · exact ⟨[], event, history, rfl, h⟩
    · exact ⟨event :: before, e, after, rfl, h⟩

theorem positions {prior after prior' after' : List α} {event other : α}
    (h : prior ++ event :: after = prior' ++ other :: after') :
    prior = prior' ∧ event = other ∨ (∃ between, prior' = prior ++ event :: between) ∨
      ∃ between, prior = prior' ++ other :: between := by
  obtain ⟨between, hprior, hrest⟩ | ⟨between, hprior, hrest⟩ := List.append_eq_append_iff.mp h
  · cases between with
    | nil => exact .inl ⟨(List.append_nil prior).symm.trans hprior.symm, (List.cons.inj hrest).1⟩
    | cons c between => exact .inr (.inl ⟨between, (List.cons.inj hrest).1 ▸ hprior⟩)
  · cases between with
    | nil => exact .inl ⟨hprior.trans (List.append_nil prior'), (List.cons.inj hrest).1.symm⟩
    | cons c between => exact .inr (.inr ⟨between, (List.cons.inj hrest).1 ▸ hprior⟩)

theorem Always.mono (h : Always ok history) (hok : ∀ before e, ok before e → ok' before e) :
    Always ok' history := fun before e after heq ↦ hok before e (h before e after heq)

end DriftGuardX.History
