import Mathlib.Data.List.Basic
import Mathlib.Data.Option.Basic

/-!
# Runs of a transition system

A step is possible or not, and a run is a list of events that are possible one after the other. An
invariant that each step keeps holds after every run, and a preorder that each step respects relates
the first state of a run to the last. In both rules the steps may be those that meet a condition
on the event and the state before it; a run meets the condition when each of its steps does
(`Meets`).
-/

namespace DriftGuardX.Runs

variable {S E : Type} (step : S → E → Option S)

/-- The state after events, if they are possible. -/
def run (s : S) (events : List E) : Option S := events.foldlM step s

/-- Each event meets a condition on the state before it. -/
def Meets (ok : S → E → Prop) (s : S) (events : List E) : Prop :=
  ∀ us event vs, events = us ++ event :: vs → ∀ t, run step s us = some t → ok t event

variable {step} {ok : S → E → Prop} {s s' : S} {event : E} {events us vs : List E}

theorem run_nil : run step s [] = some s := rfl

theorem run_cons : run step s (event :: events) = (step s event).bind (run step · events) := rfl

theorem run_cons_of_step {t : S} (h : step s event = some t) :
    run step s (event :: events) = run step t events := by
  rw [run_cons, h, Option.bind_some]

theorem run_append :
    run step s (us ++ vs) = (run step s us).bind (run step · vs) :=
  List.foldlM_append

theorem run_concat :
    run step s (events ++ [event]) = (run step s events).bind (step · event) := by
  rw [run_append]
  congr
  funext t
  cases h : step t event <;> simp [run, h]

theorem run_concat_of_run {t : S} (h : run step s events = some t) (h' : step t event = some s') :
    run step s (events ++ [event]) = some s' := by
  rw [run_concat, h, Option.bind_some, h']

theorem meets_cons : Meets step ok s (event :: events) ↔
    ok s event ∧ ∀ t, step s event = some t → Meets step ok t events := by
  constructor
  · intro h
    refine ⟨h [] event events rfl s rfl, fun t ht us e vs heq u hu ↦ ?_⟩
    refine h (event :: us) e vs (heq ▸ rfl) u ?_
    rw [run_cons, ht]
    exact hu
  · rintro ⟨hfirst, hrest⟩ us e vs heq u hu
    cases us with
    | nil =>
      obtain rfl := Option.some.inj hu
      exact (List.cons.inj heq).1 ▸ hfirst
    | cons b us =>
      obtain ⟨rfl, htail⟩ := List.cons.inj heq
      obtain ⟨t, ht, hrun⟩ := Option.bind_eq_some_iff.mp hu
      exact hrest t ht us e vs htail u hrun

theorem meets_nil : Meets step ok s [] := by
  intro us event vs h
  exact absurd h (by simp)

instance decidableMeets [∀ s e, Decidable (ok s e)] (s : S) :
    (events : List E) → Decidable (Meets step ok s events)
  | [] => .isTrue meets_nil
  | event :: events =>
    have : DecidablePred fun t ↦ Meets step ok t events := fun t ↦ decidableMeets t events
    decidable_of_iff (ok s event ∧ ∀ t ∈ step s event, Meets step ok t events) meets_cons.symm

theorem Meets.after (h : Meets step ok s (us ++ vs)) {t : S}
    (ht : run step s us = some t) : Meets step ok t vs := by
  intro first e last heq u hu
  refine h (us ++ first) e last (by rw [heq, List.append_assoc]) u ?_
  rw [run_append, ht]
  exact hu

theorem Meets.before (h : Meets step ok s (us ++ vs)) : Meets step ok s us := by
  intro first e last heq u hu
  exact h first e (last ++ vs) (by rw [heq, List.append_assoc, List.cons_append]) u hu

theorem meets_concat : Meets step ok s (events ++ [event]) ↔
    Meets step ok s events ∧ ∀ t, run step s events = some t → ok t event := by
  constructor
  · intro h
    exact ⟨h.before, h events event [] rfl⟩
  · rintro ⟨hevents, hevent⟩ us e vs heq t ht
    rcases List.eq_nil_or_concat vs with rfl | ⟨vs, last, rfl⟩
    · obtain ⟨rfl, he⟩ := List.append_inj' heq rfl
      exact (List.cons.inj he).1 ▸ hevent t ht
    · rw [List.concat_eq_append, ← List.cons_append, ← List.append_assoc] at heq
      exact hevents us e vs (List.append_inj' heq rfl).1 t ht

/-- **Invariants.** What holds first and is kept by every step holds in the end. -/
theorem invariant {Inv : S → Prop}
    (hstep : ∀ ⦃s e s'⦄, Inv s → ok s e → step s e = some s' → Inv s') (hs : Inv s)
    (hok : Meets step ok s events) (hrun : run step s events = some s') : Inv s' := by
  induction events generalizing s with
  | nil => exact Option.some.inj hrun ▸ hs
  | cons event events ih =>
    obtain ⟨t, ht, hrest⟩ := Option.bind_eq_some_iff.mp hrun
    obtain ⟨hfirst, hmeets⟩ := meets_cons.mp hok
    exact ih (hstep hs hfirst ht) (hmeets t ht) hrest

/-- **Preorders.** What every step from an invariant respects, a run respects. -/
theorem related {Inv : S → Prop} {R : S → S → Prop} (hrefl : ∀ s, R s s)
    (htrans : ∀ ⦃s t u⦄, R s t → R t u → R s u)
    (hstep : ∀ ⦃s e s'⦄, Inv s → ok s e → step s e = some s' → Inv s' ∧ R s s') (hs : Inv s)
    (hok : Meets step ok s events) (hrun : run step s events = some s') : R s s' := by
  induction events generalizing s with
  | nil => exact Option.some.inj hrun ▸ hrefl s
  | cons event events ih =>
    obtain ⟨t, ht, hrest⟩ := Option.bind_eq_some_iff.mp hrun
    obtain ⟨hfirst, hmeets⟩ := meets_cons.mp hok
    obtain ⟨hinv, hrel⟩ := hstep hs hfirst ht
    exact htrans hrel (ih hinv (hmeets t ht) hrest)

end DriftGuardX.Runs
