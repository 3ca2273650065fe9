import Mathlib.Algebra.Order.Ring.Int
import Mathlib.Logic.Basic

/-!
# Programs that raise and keep their effects

A program on a mutable state returns or raises, and what it did to the state before it raised stays
done. Exceptions can be caught, and a program on one part of a state is a program on the whole.

A program is run by rewriting, with one rule for each way a construct can end, or reasoned about
with triples, which have a postcondition for returning and one for raising.
-/

namespace DriftGuardX

/-- What the environment supplies as a program runs: the readings of the clock and fresh ids. -/
structure Readings where
  clock : ℕ → ℤ
  uuid : ℕ → String

/-- The clock is never set back. -/
def Readings.Nondecreasing (readings : Readings) : Prop :=
  ∀ ⦃m n : ℕ⦄, m ≤ n → readings.clock m ≤ readings.clock n

/-- What a program returns or raises, and the state it leaves. -/
def Program (σ ε α : Type) := σ → Except ε α × σ

namespace Program

variable {σ τ ε α β : Type}

instance : Monad (Program σ ε) where
  pure a s := (.ok a, s)
  bind x f s :=
    match x s with
    | (.ok a, s') => f a s'
    | (.error e, s') => (.error e, s')

def raise (e : ε) : Program σ ε α := fun s ↦ (.error e, s)

def get : Program σ ε σ := fun s ↦ (.ok s, s)

def modify (f : σ → σ) : Program σ ε Unit := fun s ↦ (.ok (), f s)

/-- A computation that does not touch the state. -/
def ofExcept (x : Except ε α) : Program σ ε α := fun s ↦ (x, s)

/-- `try` with a handler for every exception. -/
def attempt (x : Program σ ε α) (handler : ε → Program σ ε α) : Program σ ε α := fun s ↦
  match x s with
  | (.ok a, s') => (.ok a, s')
  | (.error e, s') => handler e s'

/-- A program on a part of a state. -/
def zoom (part : τ → σ) (update : τ → σ → τ) (x : Program σ ε α) : Program τ ε α := fun t ↦
  ((x (part t)).1, update t (x (part t)).2)

/-- Exceptions of another kind. -/
def mapError {ε' : Type} (f : ε → ε') (x : Program σ ε α) : Program σ ε' α := fun s ↦
  ((x s).1.mapError f, (x s).2)

/-! ## Running a program -/

variable {x : Program σ ε α} {f : α → Program σ ε β} {s s' : σ}

theorem pure_apply (a : α) : (pure a : Program σ ε α) s = (.ok a, s) := rfl

theorem raise_apply (e : ε) : (raise e : Program σ ε α) s = (.error e, s) := rfl

theorem get_apply : (get : Program σ ε σ) s = (.ok s, s) := rfl

theorem modify_apply (g : σ → σ) : (modify g : Program σ ε Unit) s = (.ok (), g s) := rfl

theorem ofExcept_apply (y : Except ε α) : (ofExcept y : Program σ ε α) s = (y, s) := rfl

theorem bind_of_ok {a : α} (h : x s = (.ok a, s')) : (x >>= f) s = f a s' := by
  change (match x s with | (.ok a, s') => f a s' | (.error e, s') => (.error e, s')) = _
  rw [h]

theorem bind_of_error {e : ε} (h : x s = (.error e, s')) : (x >>= f) s = (.error e, s') := by
  change (match x s with | (.ok a, s') => f a s' | (.error e, s') => (.error e, s')) = _
  rw [h]

theorem ofExcept_bind_of_ok {y : Except ε α} {a : α} (h : y = .ok a) :
    (ofExcept y >>= f) s = f a s := bind_of_ok (congrArg (Prod.mk · s) h)

theorem ofExcept_bind_of_error {y : Except ε α} {e : ε} (h : y = .error e) :
    (ofExcept y >>= f) s = (.error e, s) := bind_of_error (congrArg (Prod.mk · s) h)

theorem attempt_of_ok {a : α} {handler : ε → Program σ ε α} (h : x s = (.ok a, s')) :
    attempt x handler s = (.ok a, s') := by
  rw [attempt, h]

theorem attempt_of_error {e : ε} {handler : ε → Program σ ε α} (h : x s = (.error e, s')) :
    attempt x handler s = handler e s' := by
  rw [attempt, h]

theorem mapError_of_ok {ε' : Type} {g : ε → ε'} {a : α} (h : x s = (.ok a, s')) :
    mapError g x s = (.ok a, s') := by
  rw [mapError, h]
  rfl

theorem mapError_of_error {ε' : Type} {g : ε → ε'} {e : ε} (h : x s = (.error e, s')) :
    mapError g x s = (.error (g e), s') := by
  rw [mapError, h]
  rfl

theorem zoom_of_run {part : τ → σ} {update : τ → σ → τ} {t : τ} {r : Except ε α}
    (h : x (part t) = (r, s')) : zoom part update x t = (r, update t s') := by
  rw [zoom, h]

theorem mapError_bind {ε' : Type} (g : ε → ε') (x : Program σ ε α) (f : α → Program σ ε β) :
    mapError g (x >>= f) = mapError g x >>= fun a ↦ mapError g (f a) := by
  funext s
  cases hrun : x s with
  | mk r s' =>
    cases r with
    | ok a => rw [bind_of_ok (mapError_of_ok hrun), mapError, bind_of_ok hrun, mapError]
    | error e => rw [bind_of_error (mapError_of_error hrun), mapError_of_error (bind_of_error hrun)]

theorem zoom_bind {part : τ → σ} {update : τ → σ → τ} (hpart : ∀ t s, part (update t s) = s)
    (hupdate : ∀ t s s', update (update t s) s' = update t s') (x : Program σ ε α)
    (f : α → Program σ ε β) :
    zoom part update (x >>= f) = zoom part update x >>= fun a ↦ zoom part update (f a) := by
  funext t
  cases hrun : x (part t) with
  | mk r s' =>
    cases r with
    | ok a =>
      rw [bind_of_ok (zoom_of_run hrun), zoom, bind_of_ok hrun, zoom, hpart, hupdate]
    | error e => rw [bind_of_error (zoom_of_run hrun), zoom_of_run (bind_of_error hrun)]

theorem snd_bind_pure (x : Program σ ε α) (g : α → β) (s : σ) :
    ((x >>= fun a ↦ pure (g a)) s).2 = (x s).2 := by
  cases h : x s with
  | mk r s' =>
    cases r with
    | ok a => exact congrArg Prod.snd (bind_of_ok h)
    | error e => exact congrArg Prod.snd (bind_of_error h)

/-! ## When a program returns -/

theorem exists_ok_or_error (x : Program σ ε α) (s : σ) :
    (∃ a s', x s = (.ok a, s')) ∨ ∃ e s', x s = (.error e, s') := by
  cases h : x s with
  | mk r s' =>
    cases r with
    | ok a => exact Or.inl ⟨a, s', rfl⟩
    | error e => exact Or.inr ⟨e, s', rfl⟩

theorem pure_returns_iff {a b : α} :
    (pure a : Program σ ε α) s = (.ok b, s') ↔ a = b ∧ s = s' := by
  rw [pure_apply, Prod.mk.injEq, Except.ok.injEq]

theorem get_returns_iff {t : σ} : (get : Program σ ε σ) s = (.ok t, s') ↔ s = t ∧ s = s' := by
  rw [get_apply, Prod.mk.injEq, Except.ok.injEq]

theorem modify_returns_iff {g : σ → σ} {u : Unit} :
    (modify g : Program σ ε Unit) s = (.ok u, s') ↔ g s = s' := by
  simp [modify_apply]

theorem ofExcept_returns_iff {y : Except ε α} {a : α} :
    (ofExcept y : Program σ ε α) s = (.ok a, s') ↔ y = .ok a ∧ s = s' := by
  rw [ofExcept_apply, Prod.mk.injEq]

theorem not_raise_returns {e : ε} {a : α} : (raise e : Program σ ε α) s ≠ (.ok a, s') := by
  simp [raise_apply]

theorem bind_returns_iff {b : β} : (x >>= f) s = (.ok b, s') ↔
    ∃ a t, x s = (.ok a, t) ∧ f a t = (.ok b, s') := by
  constructor
  · intro h
    cases hrun : x s with
    | mk r t =>
      cases r with
      | ok a => exact ⟨a, t, rfl, (bind_of_ok hrun).symm.trans h⟩
      | error e =>
        rw [bind_of_error hrun] at h
        exact absurd (Prod.mk.inj h).1 (by simp)
  · rintro ⟨a, t, hrun, h⟩
    rw [bind_of_ok hrun, h]

theorem attempt_returns_iff {handler : ε → Program σ ε α} {a : α} :
    attempt x handler s = (.ok a, s') ↔
      x s = (.ok a, s') ∨ ∃ e t, x s = (.error e, t) ∧ handler e t = (.ok a, s') := by
  cases hrun : x s with
  | mk r t =>
    cases r with
    | ok b => simp [attempt_of_ok hrun]
    | error e =>
      rw [attempt_of_error hrun]
      constructor
      · exact fun h ↦ Or.inr ⟨e, t, rfl, h⟩
      · rintro (h | ⟨_, _, heq, h⟩)
        · exact absurd (Prod.mk.inj h).1 (by simp)
        · obtain ⟨he, rfl⟩ := Prod.mk.inj heq
          exact Except.error.inj he ▸ h

/-! ## Triples -/

/-- From a state with the precondition, a program that returns has the first postcondition, and one
that raises the second. -/
def Triple (pre : σ → Prop) (x : Program σ ε α) (post : α → σ → Prop) (raises : ε → σ → Prop) :
    Prop :=
  ∀ s, pre s → (∀ a s', x s = (.ok a, s') → post a s') ∧ ∀ e s', x s = (.error e, s') → raises e s'

/-- A program that keeps a property of the state, whether it returns or raises. -/
abbrev Keeps (I : σ → Prop) (x : Program σ ε α) : Prop := Triple I x (fun _ ↦ I) fun _ ↦ I

variable {pre : σ → Prop} {post : α → σ → Prop} {raises : ε → σ → Prop}

theorem ends_of_ok {a : α} (h : x s = (.ok a, s')) (hpost : post a s') :
    (∀ b t, x s = (.ok b, t) → post b t) ∧ ∀ e t, x s = (.error e, t) → raises e t := by
  refine ⟨fun b t heq ↦ ?_, fun e t heq ↦ ?_⟩
  · obtain ⟨ha, rfl⟩ := Prod.mk.inj (h.symm.trans heq)
    exact Except.ok.inj ha ▸ hpost
  · exact absurd (Prod.mk.inj (h.symm.trans heq)).1 (by simp)

theorem ends_of_error {e : ε} (h : x s = (.error e, s')) (hraises : raises e s') :
    (∀ b t, x s = (.ok b, t) → post b t) ∧ ∀ e t, x s = (.error e, t) → raises e t := by
  refine ⟨fun b t heq ↦ ?_, fun e' t heq ↦ ?_⟩
  · exact absurd (Prod.mk.inj (h.symm.trans heq)).1 (by simp)
  · obtain ⟨he, rfl⟩ := Prod.mk.inj (h.symm.trans heq)
    exact Except.error.inj he ▸ hraises

theorem triple_returns {value : σ → α} {next : σ → σ} (hrun : ∀ s, x s = (.ok (value s), next s))
    (h : ∀ s, pre s → post (value s) (next s)) : Triple pre x post raises :=
  fun s hs ↦ ends_of_ok (hrun s) (h s hs)

theorem triple_pure {a : α} (h : ∀ s, pre s → post a s) : Triple pre (pure a) post raises :=
  triple_returns (fun _ ↦ rfl) h

theorem triple_raise {e : ε} (h : ∀ s, pre s → raises e s) :
    Triple pre (raise e : Program σ ε α) post raises := fun s hs ↦ ends_of_error rfl (h s hs)

theorem triple_get {post : σ → σ → Prop} (h : ∀ s, pre s → post s s) :
    Triple pre (get : Program σ ε σ) post raises := triple_returns (fun _ ↦ rfl) h

theorem triple_get_eq :
    Triple pre (get : Program σ ε σ) (fun s t ↦ s = t ∧ pre t) raises :=
  triple_get fun _ h ↦ ⟨rfl, h⟩

theorem triple_modify {post : Unit → σ → Prop} {g : σ → σ} (h : ∀ s, pre s → post () (g s)) :
    Triple pre (modify g : Program σ ε Unit) post raises := triple_returns (fun _ ↦ rfl) h

theorem triple_of_returns (h : ∀ s, ∃ a s', x s = (.ok a, s')) :
    Triple pre x (fun _ _ ↦ True) raises := by
  intro s _
  obtain ⟨a, t, hrun⟩ := h s
  exact ends_of_ok hrun trivial

theorem triple_ofExcept {y : Except ε α} (hok : ∀ a, y = .ok a → ∀ s, pre s → post a s)
    (herror : ∀ e, y = .error e → ∀ s, pre s → raises e s) :
    Triple pre (ofExcept y) post raises := by
  refine fun s hs ↦ ⟨fun a s' heq ↦ ?_, fun e s' heq ↦ ?_⟩
  · obtain ⟨ha, rfl⟩ := Prod.mk.inj heq
    exact hok a ha s hs
  · obtain ⟨he, rfl⟩ := Prod.mk.inj heq
    exact herror e he s hs

theorem Triple.bind {M : α → σ → Prop} {post : β → σ → Prop} (hx : Triple pre x M raises)
    (hf : ∀ a, Triple (M a) (f a) post raises) : Triple pre (x >>= f) post raises := by
  intro s hs
  cases hrun : x s with
  | mk r s' =>
    cases r with
    | ok a =>
      rw [bind_of_ok hrun]
      exact hf a s' ((hx s hs).1 a s' hrun)
    | error e =>
      rw [bind_of_error hrun]
      refine ⟨fun b t heq ↦ (absurd (Prod.mk.inj heq).1 (by simp)), fun e' t heq ↦ ?_⟩
      obtain ⟨he, rfl⟩ := Prod.mk.inj heq
      exact Except.error.inj he ▸ (hx s hs).2 e s' hrun

theorem Triple.attempt {mid : ε → σ → Prop} {handler : ε → Program σ ε α}
    (hx : Triple pre x post mid) (hhandler : ∀ e, Triple (mid e) (handler e) post raises) :
    Triple pre (attempt x handler) post raises := by
  intro s hs
  cases hrun : x s with
  | mk r s' =>
    cases r with
    | ok a =>
      rw [attempt_of_ok hrun]
      refine ⟨fun b t heq ↦ ?_, fun e t heq ↦ (absurd (Prod.mk.inj heq).1 (by simp))⟩
      obtain ⟨ha, rfl⟩ := Prod.mk.inj heq
      exact Except.ok.inj ha ▸ (hx s hs).1 a s' hrun
    | error e =>
      rw [attempt_of_error hrun]
      exact hhandler e s' ((hx s hs).2 e s' hrun)

theorem Triple.weaken {pre' : σ → Prop} {post' : α → σ → Prop} {raises' : ε → σ → Prop}
    (h : Triple pre x post raises) (hpre : ∀ s, pre' s → pre s)
    (hpost : ∀ a s, post a s → post' a s) (hraises : ∀ e s, raises e s → raises' e s) :
    Triple pre' x post' raises' := fun s hs ↦
  ⟨fun a s' heq ↦ hpost a s' ((h s (hpre s hs)).1 a s' heq),
    fun e s' heq ↦ hraises e s' ((h s (hpre s hs)).2 e s' heq)⟩

theorem Triple.and {post' : α → σ → Prop} {raises' : ε → σ → Prop} (h : Triple pre x post raises)
    (h' : Triple pre x post' raises') :
    Triple pre x (fun a s ↦ post a s ∧ post' a s) (fun e s ↦ raises e s ∧ raises' e s) :=
  fun s hs ↦ ⟨fun a s' heq ↦ ⟨(h s hs).1 a s' heq, (h' s hs).1 a s' heq⟩,
    fun e s' heq ↦ ⟨(h s hs).2 e s' heq, (h' s hs).2 e s' heq⟩⟩

theorem triple_of_fact {P : Prop} (h : P → Triple pre x post raises) :
    Triple (fun s ↦ pre s ∧ P) x post raises := fun s hs ↦ h hs.2 s hs.1

theorem triple_of_exists {ι : Type} {pre : ι → σ → Prop} (h : ∀ i, Triple (pre i) x post raises) :
    Triple (fun s ↦ ∃ i, pre i s) x post raises := fun s hs ↦ hs.elim fun i hi ↦ h i s hi

theorem Triple.final {P : σ → Prop} (h : Triple pre x (fun _ ↦ P) fun _ ↦ P) (hs : pre s) :
    P (x s).2 := by
  rcases exists_ok_or_error x s with ⟨a, s', hrun⟩ | ⟨e, s', hrun⟩
  · rw [hrun]
    exact (h s hs).1 a s' hrun
  · rw [hrun]
    exact (h s hs).2 e s' hrun

theorem keeps_of_state {I : σ → Prop} (h : ∀ s, I s → I (x s).2) : Keeps I x := by
  refine fun s hs ↦ ⟨fun a s' hrun ↦ ?_, fun e s' hrun ↦ ?_⟩
  · have hstate := h s hs
    rwa [hrun] at hstate
  · have hstate := h s hs
    rwa [hrun] at hstate

theorem keeps_attempt {I : σ → Prop} {handler : ε → Program σ ε α} (hx : Keeps I x)
    (hhandler : ∀ e, Keeps I (handler e)) : Keeps I (attempt x handler) := hx.attempt hhandler

/-- The rule for a program on a part of the state. -/
theorem triple_zoom {part : τ → σ} {update : τ → σ → τ} {pre : τ → Prop} {post : α → τ → Prop}
    {raises : ε → τ → Prop}
    (hok : ∀ t, pre t → ∀ a s', x (part t) = (.ok a, s') → post a (update t s'))
    (herror : ∀ t, pre t → ∀ e s', x (part t) = (.error e, s') → raises e (update t s')) :
    Triple pre (zoom part update x) post raises := by
  refine fun t ht ↦ ⟨fun a t' heq ↦ ?_, fun e t' heq ↦ ?_⟩
  · obtain ⟨ha, rfl⟩ := Prod.mk.inj heq
    exact hok t ht a _ (Prod.ext ha rfl)
  · obtain ⟨he, rfl⟩ := Prod.mk.inj heq
    exact herror t ht e _ (Prod.ext he rfl)

theorem keeps_zoom {part : τ → σ} {update : τ → σ → τ} {I : τ → Prop}
    (h : ∀ t s', I t → I (update t s')) : Keeps I (zoom part update x) :=
  triple_zoom (fun t ht _ s' _ ↦ h t s' ht) fun t ht _ s' _ ↦ h t s' ht

/-! ## Changes of state that a program does not see -/

/-- The program does the same whether the state is changed before it or after it. -/
def Commutes (g : σ → σ) (x : Program σ ε α) : Prop := ∀ s, x (g s) = ((x s).1, g (x s).2)

section Commutes

variable {g : σ → σ}

theorem commutes_pure (a : α) : Commutes g (pure a : Program σ ε α) := fun _ ↦ rfl

theorem commutes_raise (e : ε) : Commutes g (raise e : Program σ ε α) := fun _ ↦ rfl

theorem commutes_ofExcept (y : Except ε α) : Commutes g (ofExcept y : Program σ ε α) := fun _ ↦ rfl

theorem commutes_modify {k : σ → σ} (h : ∀ s, k (g s) = g (k s)) :
    Commutes g (modify k : Program σ ε Unit) := fun s ↦ by rw [modify_apply, modify_apply, h]

theorem Commutes.bind (hx : Commutes g x) (hf : ∀ a, Commutes g (f a)) :
    Commutes g (x >>= f) := by
  intro s
  rcases exists_ok_or_error x s with ⟨a, s', hrun⟩ | ⟨e, s', hrun⟩
  · have hg : x (g s) = (.ok a, g s') := by rw [hx, hrun]
    rw [bind_of_ok hg, bind_of_ok hrun]
    exact hf a s'
  · have hg : x (g s) = (.error e, g s') := by rw [hx, hrun]
    rw [bind_of_error hg, bind_of_error hrun]

theorem Commutes.attempt {handler : ε → Program σ ε α} (hx : Commutes g x)
    (hhandler : ∀ e, Commutes g (handler e)) : Commutes g (attempt x handler) := by
  intro s
  rcases exists_ok_or_error x s with ⟨a, s', hrun⟩ | ⟨e, s', hrun⟩
  · have hg : x (g s) = (.ok a, g s') := by rw [hx, hrun]
    rw [attempt_of_ok hg, attempt_of_ok hrun]
  · have hg : x (g s) = (.error e, g s') := by rw [hx, hrun]
    rw [attempt_of_error hg, attempt_of_error hrun]
    exact hhandler e s'

theorem commutes_zoom {part : τ → σ} {update : τ → σ → τ} {k : τ → τ}
    (hpart : ∀ t, part (k t) = part t) (hupdate : ∀ t s, update (k t) s = k (update t s)) :
    Commutes k (zoom part update x) := fun t ↦ by rw [zoom, zoom, hpart, hupdate]

end Commutes

/-! ## Differences that a program does not see -/

/-- From related states the program has the same result, and leaves related states. -/
def Unaffected (R : σ → σ → Prop) (x : Program σ ε α) : Prop :=
  ∀ s t, R s t → (x s).1 = (x t).1 ∧ R (x s).2 (x t).2

/-- From related states the program leaves related states. -/
def Respects (R : σ → σ → Prop) (x : Program σ ε α) : Prop := ∀ s t, R s t → R (x s).2 (x t).2

section Unaffected

variable {R : σ → σ → Prop}

theorem Unaffected.respects (h : Unaffected R x) : Respects R x := fun s t hst ↦ (h s t hst).2

theorem unaffected_pure (a : α) : Unaffected R (pure a : Program σ ε α) := fun _ _ h ↦ ⟨rfl, h⟩

theorem unaffected_raise (e : ε) : Unaffected R (raise e : Program σ ε α) := fun _ _ h ↦ ⟨rfl, h⟩

theorem unaffected_ofExcept (y : Except ε α) : Unaffected R (ofExcept y : Program σ ε α) :=
  fun _ _ h ↦ ⟨rfl, h⟩

theorem unaffected_modify {g : σ → σ} (h : ∀ s t, R s t → R (g s) (g t)) :
    Unaffected R (modify g : Program σ ε Unit) := fun s t hst ↦ ⟨rfl, h s t hst⟩

theorem unaffected_get_bind {f : σ → Program σ ε β} (hf : ∀ s t, R s t → f s = f t)
    (h : ∀ s, Unaffected R (f s)) : Unaffected R (get >>= f) := by
  intro s t hst
  rw [bind_of_ok get_apply, bind_of_ok get_apply, hf s t hst]
  exact h t s t hst

theorem Unaffected.cases (hx : Unaffected R x) {t : σ} (hst : R s t) :
    (∃ a s' t', x s = (.ok a, s') ∧ x t = (.ok a, t') ∧ R s' t') ∨
      ∃ e s' t', x s = (.error e, s') ∧ x t = (.error e, t') ∧ R s' t' := by
  obtain ⟨hresult, hstates⟩ := hx s t hst
  rcases exists_ok_or_error x s with ⟨a, s', hs⟩ | ⟨e, s', hs⟩
  · rw [hs] at hresult hstates
    exact .inl ⟨a, s', (x t).2, hs, Prod.ext hresult.symm rfl, hstates⟩
  · rw [hs] at hresult hstates
    exact .inr ⟨e, s', (x t).2, hs, Prod.ext hresult.symm rfl, hstates⟩

theorem Unaffected.bind (hx : Unaffected R x) (hf : ∀ a, Unaffected R (f a)) :
    Unaffected R (x >>= f) := by
  intro s t hst
  rcases hx.cases hst with ⟨a, s', t', hs, ht, h⟩ | ⟨e, s', t', hs, ht, h⟩
  · rw [bind_of_ok hs, bind_of_ok ht]
    exact hf a s' t' h
  · rw [bind_of_error hs, bind_of_error ht]
    exact ⟨rfl, h⟩

theorem Unaffected.bind_respects (hx : Unaffected R x) (hf : ∀ a, Respects R (f a)) :
    Respects R (x >>= f) := by
  intro s t hst
  rcases hx.cases hst with ⟨a, s', t', hs, ht, h⟩ | ⟨e, s', t', hs, ht, h⟩
  · rw [bind_of_ok hs, bind_of_ok ht]
    exact hf a s' t' h
  · rw [bind_of_error hs, bind_of_error ht]
    exact h

theorem Respects.map (h : Respects R x) (g : α → β) : Respects R (x >>= fun a ↦ pure (g a)) := by
  intro s t hst
  rw [snd_bind_pure, snd_bind_pure]
  exact h s t hst

theorem Unaffected.mapError {ε' : Type} (h : Unaffected R x) (g : ε → ε') :
    Unaffected R (mapError g x) := fun s t hst ↦
  ⟨congrArg (Except.mapError g) (h s t hst).1, (h s t hst).2⟩

theorem unaffected_zoom {S : τ → τ → Prop} {part : τ → σ} {update : τ → σ → τ}
    (h : Unaffected R x) (hpart : ∀ s t, S s t → R (part s) (part t))
    (hupdate : ∀ s t, S s t → ∀ s' t', R s' t' → S (update s s') (update t t')) :
    Unaffected S (zoom part update x) := fun s t hst ↦
  ⟨(h _ _ (hpart s t hst)).1, hupdate s t hst _ _ (h _ _ (hpart s t hst)).2⟩

end Unaffected

/-! ## Programs that do the same -/

/-- From related states two programs have the same result, and leave related states. -/
def Alike (R : σ → σ → Prop) (x y : Program σ ε α) : Prop :=
  ∀ s t, R s t → (x s).1 = (y t).1 ∧ R (x s).2 (y t).2

section Alike

variable {R : σ → σ → Prop} {y : Program σ ε α} {g : α → Program σ ε β}

theorem Alike.cases (h : Alike R x y) {t : σ} (hst : R s t) :
    (∃ a s' t', x s = (.ok a, s') ∧ y t = (.ok a, t') ∧ R s' t') ∨
      ∃ e s' t', x s = (.error e, s') ∧ y t = (.error e, t') ∧ R s' t' := by
  obtain ⟨hresult, hstates⟩ := h s t hst
  rcases exists_ok_or_error x s with ⟨a, s', hs⟩ | ⟨e, s', hs⟩
  · rw [hs] at hresult hstates
    exact .inl ⟨a, s', (y t).2, hs, Prod.ext hresult.symm rfl, hstates⟩
  · rw [hs] at hresult hstates
    exact .inr ⟨e, s', (y t).2, hs, Prod.ext hresult.symm rfl, hstates⟩

theorem Alike.bind (h : Alike R x y) (hfg : ∀ a, Alike R (f a) (g a)) :
    Alike R (x >>= f) (y >>= g) := by
  intro s t hst
  rcases h.cases hst with ⟨a, s', t', hs, ht, hst'⟩ | ⟨e, s', t', hs, ht, hst'⟩
  · rw [bind_of_ok hs, bind_of_ok ht]
    exact hfg a s' t' hst'
  · rw [bind_of_error hs, bind_of_error ht]
    exact ⟨rfl, hst'⟩

theorem Alike.attempt {handler handler' : ε → Program σ ε α} (h : Alike R x y)
    (hhandler : ∀ e, Alike R (handler e) (handler' e)) :
    Alike R (attempt x handler) (attempt y handler') := by
  intro s t hst
  rcases h.cases hst with ⟨a, s', t', hs, ht, hst'⟩ | ⟨e, s', t', hs, ht, hst'⟩
  · rw [attempt_of_ok hs, attempt_of_ok ht]
    exact ⟨rfl, hst'⟩
  · rw [attempt_of_error hs, attempt_of_error ht]
    exact hhandler e s' t' hst'

theorem alike_modify {k l : σ → σ} (h : ∀ s t, R s t → R (k s) (l t)) :
    Alike R (modify k : Program σ ε Unit) (modify l) := fun s t hst ↦ ⟨rfl, h s t hst⟩

theorem Alike.mapError {ε' : Type} (h : Alike R x y) (k : ε → ε') :
    Alike R (mapError k x) (mapError k y) := fun s t hst ↦
  ⟨congrArg (Except.mapError k) (h s t hst).1, (h s t hst).2⟩

theorem Unaffected.alike (h : Unaffected R x) : Alike R x x := h

theorem alike_forM {ι : Type} {is : List ι} {p q : ι → Program σ ε Unit}
    (h : ∀ i ∈ is, Alike R (p i) (q i)) : Alike R (is.forM p) (is.forM q) := by
  induction is with
  | nil => exact fun s t hst ↦ ⟨rfl, hst⟩
  | cons i is ih =>
    exact (h i List.mem_cons_self).bind fun _ ↦ ih fun j hj ↦ h j (List.mem_cons_of_mem i hj)

end Alike

/-! ## Loops -/

section Loops

variable {ι : Type} {step : ι → Program σ ε Unit} {i : ι} {is : List ι}

theorem forM_cons_of_ok (h : step i s = (.ok (), s')) :
    (i :: is).forM step s = is.forM step s' := bind_of_ok h

theorem forM_cons_of_error {e : ε} (h : step i s = (.error e, s')) :
    (i :: is).forM step s = (.error e, s') := bind_of_error h

end Loops

/-! ## Series of calls -/

/-- The state after a series of calls, each of which finds the state that the last one left. -/
def after {ι : Type} (step : ι → Program σ ε α) : List ι → σ → σ
  | [], s => s
  | i :: is, s => after step is (step i s).2

theorem after_append {ι : Type} {step : ι → Program σ ε α} {is js : List ι} :
    after step (is ++ js) s = after step js (after step is s) := by
  induction is generalizing s with
  | nil => rfl
  | cons i is ih => exact ih

theorem after_induction {ι : Type} {step : ι → Program σ ε α} {I : σ → Prop}
    (h : ∀ i, Keeps I (step i)) (is : List ι) (hs : I s) : I (after step is s) := by
  induction is generalizing s with
  | nil => exact hs
  | cons i is ih => exact ih ((h i).final hs)

/-- Every call of a series meets a condition in the state that it finds. -/
def Each {ι : Type} (step : ι → Program σ ε α) (C : σ → ι → Prop) : σ → List ι → Prop
  | _, [] => True
  | s, i :: is => C s i ∧ Each step C (step i s).2 is

section Each

variable {ι : Type} {step : ι → Program σ ε α} {C C' : σ → ι → Prop}

theorem each_append {is js : List ι} : Each step C s (is ++ js) ↔
    Each step C s is ∧ Each step C (after step is s) js := by
  induction is generalizing s with
  | nil => exact (and_iff_right trivial).symm
  | cons i is ih => rw [List.cons_append, Each, Each, ih, after, and_assoc]

theorem Each.imp {is : List ι} (h : Each step C s is) (hC : ∀ s i, C s i → C' s i) :
    Each step C' s is := by
  induction is generalizing s with
  | nil => trivial
  | cons i is ih => exact ⟨hC s i h.1, ih h.2⟩

end Each

end Program

end DriftGuardX
