import Mathlib.Data.List.Forall2

/-!
# Calls that raise, transactions and their runs

A fallible call is an `Except`. The first part takes such calls apart: a sequence of calls returns
exactly when each of them does, so a proof about a successful call never unfolds the monad.

A transaction is a fallible call on a state, and one that raises leaves the state as it was. The
rest is about runs of transactions, one after the other in any order, some of which may raise. Three
rules carry every result about whole runs: an invariant that each successful transaction keeps, the
same under a condition on the calls made, and the simulation of one store by another.
-/

namespace DriftGuardX.Transaction

variable {ε ι : Type*} {σ τ α β : Type}

/-! ## Calls that raise -/

/-- The value of an optional result, or an exception. -/
def orRaise (e : ε) : Option α → Except ε α
  | some a => .ok a
  | none => .error e

/-- A check: an exception unless the condition holds. -/
def require (p : Prop) [Decidable p] (e : ε) : Except ε Unit := if p then .ok () else .error e

@[simp] theorem bind_eq_ok_iff {x : Except ε α} {f : α → Except ε β} {b : β} :
    x >>= f = .ok b ↔ ∃ a, x = .ok a ∧ f a = .ok b := by
  cases x <;> simp [bind, Except.bind]

theorem bind_eq_error_iff {x : Except ε α} {f : α → Except ε β} {e : ε} :
    x >>= f = .error e ↔ x = .error e ∨ ∃ a, x = .ok a ∧ f a = .error e := by
  cases x <;> simp [bind, Except.bind]

theorem ok_bind (a : α) (f : α → Except ε β) : (Except.ok a >>= f) = f a := rfl

@[simp] theorem pure_eq_ok_iff {a b : α} : (pure a : Except ε α) = .ok b ↔ a = b := by
  simp [pure, Except.pure]

theorem mapError_eq_ok_iff {ε' : Type*} {f : ε → ε'} {x : Except ε α} {a : α} :
    x.mapError f = .ok a ↔ x = .ok a := by
  cases x <;> simp [Except.mapError]

@[simp] theorem orRaise_eq_ok_iff {e : ε} {x : Option α} {a : α} :
    orRaise e x = .ok a ↔ x = some a := by
  cases x <;> simp [orRaise]

theorem orRaise_eq_error_iff {e e' : ε} {x : Option α} :
    orRaise e x = .error e' ↔ x = none ∧ e = e' := by
  cases x <;> simp [orRaise]

@[simp] theorem require_eq_ok_iff {p : Prop} [Decidable p] {e : ε} {u : Unit} :
    require p e = .ok u ↔ p := by
  by_cases h : p <;> simp [require, h]

section Loops

variable {f : ι → Except ε β} {xs : List ι} {bs : List β}

theorem mapM_eq_ok_iff :
    xs.mapM f = .ok bs ↔ List.Forall₂ (fun x b ↦ f x = .ok b) xs bs := by
  induction xs generalizing bs with
  | nil => rw [List.mapM_nil, pure_eq_ok_iff, List.forall₂_nil_left_iff, eq_comm]
  | cons x xs ih =>
    rw [List.mapM_cons, List.forall₂_cons_left_iff]
    simp only [bind_eq_ok_iff, pure_eq_ok_iff, ih]
    constructor
    · rintro ⟨b, hb, rest, hrest, rfl⟩
      exact ⟨b, rest, hb, hrest, rfl⟩
    · rintro ⟨b, rest, hb, hrest, rfl⟩
      exact ⟨b, hb, rest, hrest, rfl⟩

theorem exists_mapM_eq_ok_iff : (∃ bs, xs.mapM f = .ok bs) ↔ ∀ x ∈ xs, ∃ b, f x = .ok b := by
  simp only [mapM_eq_ok_iff]
  induction xs with
  | nil => exact iff_of_true ⟨[], .nil⟩ (List.forall_mem_nil _)
  | cons x xs ih =>
    rw [List.forall_mem_cons, ← ih]
    constructor
    · rintro ⟨bs, hbs⟩
      cases hbs with
      | cons hb hrest => exact ⟨⟨_, hb⟩, _, hrest⟩
    · rintro ⟨⟨b, hb⟩, bs, hrest⟩
      exact ⟨b :: bs, .cons hb hrest⟩

theorem exists_of_mem_mapM (h : xs.mapM f = .ok bs) {b : β} (hb : b ∈ bs) :
    ∃ x ∈ xs, f x = .ok b := by
  have hrel := mapM_eq_ok_iff.mp h
  clear h
  induction hrel with
  | nil => exact absurd hb List.not_mem_nil
  | cons hx _ ih =>
    rcases List.mem_cons.mp hb with rfl | hb
    · exact ⟨_, List.mem_cons_self, hx⟩
    · obtain ⟨x, hmem, hx⟩ := ih hb
      exact ⟨x, List.mem_cons_of_mem _ hmem, hx⟩

theorem mapM_eq_ok {g : ι → β} (h : ∀ x ∈ xs, f x = .ok (g x)) : xs.mapM f = .ok (xs.map g) := by
  rw [mapM_eq_ok_iff, List.forall₂_map_right_iff]
  exact List.forall₂_same.mpr h

end Loops

/-- **The loop rule.** What every iteration that returns keeps holds after the loop. -/
theorem foldlM_induction {f : β → ι → Except ε β} {I : β → Prop} {xs : List ι} {b b' : β} (hb : I b)
    (hstep : ∀ c x c', x ∈ xs → I c → f c x = .ok c' → I c') (h : xs.foldlM f b = .ok b') : I b' := by
  induction xs generalizing b with
  | nil =>
    obtain rfl := pure_eq_ok_iff.mp h
    exact hb
  | cons x xs ih =>
    rw [List.foldlM_cons, bind_eq_ok_iff] at h
    obtain ⟨c, hc, h⟩ := h
    exact ih (hstep b x c List.mem_cons_self hb hc)
      (fun c y c' hy ↦ hstep c y c' (List.mem_cons_of_mem x hy)) h

/-- A loop whose iterations return or raise whatever came before returns when all of them do. -/
theorem exists_foldlM_eq_ok_iff {f : β → ι → Except ε β} {P : ι → Prop} {xs : List ι}
    (h : ∀ c, ∀ x ∈ xs, (∃ c', f c x = .ok c') ↔ P x) (b : β) :
    (∃ b', xs.foldlM f b = .ok b') ↔ ∀ x ∈ xs, P x := by
  induction xs generalizing b with
  | nil => exact iff_of_true ⟨b, rfl⟩ (List.forall_mem_nil P)
  | cons x xs ih =>
    have hrest : ∀ c, ∀ y ∈ xs, (∃ c', f c y = .ok c') ↔ P y :=
      fun c y hy ↦ h c y (List.mem_cons_of_mem x hy)
    rw [List.forall_mem_cons, ← h b x List.mem_cons_self]
    simp only [List.foldlM_cons, bind_eq_ok_iff]
    constructor
    · rintro ⟨b', c, hc, hb'⟩
      exact ⟨⟨c, hc⟩, (ih hrest c).mp ⟨b', hb'⟩⟩
    · rintro ⟨⟨c, hc⟩, hxs⟩
      obtain ⟨b', hb'⟩ := (ih hrest c).mpr hxs
      exact ⟨b', c, hc, hb'⟩

theorem exists_of_foldlM_eq_error {f : β → ι → Except ε β} {xs : List ι} {b : β} {e : ε}
    (h : xs.foldlM f b = .error e) : ∃ c, ∃ x ∈ xs, f c x = .error e := by
  induction xs generalizing b with
  | nil => exact nomatch h
  | cons x xs ih =>
    rw [List.foldlM_cons, bind_eq_error_iff] at h
    rcases h with h | ⟨c, -, h⟩
    · exact ⟨b, x, List.mem_cons_self, h⟩
    · obtain ⟨c', y, hy, hraise⟩ := ih h
      exact ⟨c', y, List.mem_cons_of_mem x hy, hraise⟩

/-! ## Transactions -/

/-- Committing or rolling back: what the caller sees, and the state left behind. -/
def commit (s : σ) : Except ε (α × σ) → Except ε α × σ
  | .ok (a, s') => (.ok a, s')
  | .error e => (.error e, s)

/-- A run of transactions: what each caller sees, and the state left behind. -/
def run (step : ι → σ → Except ε (α × σ)) : σ → List ι → List (Except ε α) × σ
  | s, [] => ([], s)
  | s, op :: ops =>
    let first := commit s (step op s)
    let rest := run step first.2 ops
    (first.1 :: rest.1, rest.2)

variable {step : ι → σ → Except ε (α × σ)} {s : σ} {op : ι} {ops : List ι}

theorem run_cons :
    run step s (op :: ops) = ((commit s (step op s)).1 :: (run step (commit s (step op s)).2 ops).1,
      (run step (commit s (step op s)).2 ops).2) := rfl

theorem run_append_state (ops ops' : List ι) :
    (run step s (ops ++ ops')).2 = (run step (run step s ops).2 ops').2 := by
  induction ops generalizing s with
  | nil => rfl
  | cons op ops ih => rw [List.cons_append, run_cons, run_cons, ih]

theorem commit_mem_run (pre : List ι) (op : ι) (post : List ι) :
    (commit (run step s pre).2 (step op (run step s pre).2)).1
      ∈ (run step s (pre ++ op :: post)).1 := by
  induction pre generalizing s with
  | nil => exact List.mem_cons_self
  | cons op' pre ih =>
    rw [List.cons_append, run_cons, run_cons]
    exact List.mem_cons_of_mem _ ih

theorem commit_induction {P : σ → Prop} (hs : P s)
    (hstep : ∀ a s', step op s = .ok (a, s') → P s') : P (commit s (step op s)).2 := by
  cases h : step op s with
  | error e => exact hs
  | ok p => exact hstep p.1 p.2 h

/-- **The invariant rule**, under a condition on the calls. -/
theorem run_induction {P : σ → Prop} {C : ι → Prop}
    (hstep : ∀ op s a s', C op → P s → step op s = .ok (a, s') → P s') (hs : P s)
    (hops : ∀ op ∈ ops, C op) : P (run step s ops).2 := by
  induction ops generalizing s with
  | nil => exact hs
  | cons op ops ih =>
    rw [run_cons]
    refine ih ?_ fun op' hop' ↦ hops op' (List.mem_cons_of_mem op hop')
    exact commit_induction hs fun a s' h ↦ hstep op s a s' (hops op List.mem_cons_self) hs h

/-! ## Simulation -/

section Simulation

variable {ε₂ : Type*} {step₂ : ι → τ → Except ε₂ (β × τ)}

/-- The same outcome: related results, or exceptions of the same kind. -/
inductive SameOutcome (result : α → β → Prop) (kind : ε → ε₂ → Prop) :
    Except ε α → Except ε₂ β → Prop
  | ok {a b} (h : result a b) : SameOutcome result kind (.ok a) (.ok b)
  | error {e e'} (h : kind e e') : SameOutcome result kind (.error e) (.error e')

variable {result : α → β → Prop} {kind : ε → ε₂ → Prop} {t : τ} {x : Except ε α} {y : Except ε₂ β}

theorem sameOutcome_refl {r : α → α → Prop} {k : ε → ε → Prop} (hr : ∀ a, r a a) (hk : ∀ e, k e e)
    (x : Except ε α) : SameOutcome r k x x := by
  cases x with
  | error e => exact .error (hk e)
  | ok a => exact .ok (hr a)

/-- Two sequences of calls have the same outcome if the first calls have, and the rest have it after
related results. -/
theorem SameOutcome.bind {α' β' : Type} {result' : α' → β' → Prop} {f : α → Except ε α'}
    {g : β → Except ε₂ β'} (h : SameOutcome result kind x y)
    (hfg : ∀ a b, x = .ok a → y = .ok b → result a b → SameOutcome result' kind (f a) (g b)) :
    SameOutcome result' kind (x >>= f) (y >>= g) := by
  cases h with
  | error he => exact .error he
  | ok hab => exact hfg _ _ rfl rfl hab

theorem sameOutcome_orRaise {k : ε → ε → Prop} (hk : ∀ e, k e e) (e : ε) {a : Option α}
    {b : Option β} (h : Option.Rel result a b) :
    SameOutcome result k (orRaise e a) (orRaise e b) := by
  cases h with
  | none => exact .error (hk e)
  | some hab => exact .ok hab

/-- **The simulation rule.** Two stores that agree on each call from related states agree on every
run, as long as the calls made meet the condition `C` in the states where they are made. -/
theorem run_simulation (result : α → β → Prop) (rel : σ → τ → Prop) (C : ι → τ → Prop)
    (hstep : ∀ op s t, C op t → rel s t →
      SameOutcome (fun (p : α × σ) (q : β × τ) ↦ result p.1 q.1 ∧ rel p.2 q.2) kind (step op s)
        (step₂ op t))
    (hst : rel s t)
    (hops : ∀ pre op post, ops = pre ++ op :: post → C op (run step₂ t pre).2) :
    List.Forall₂ (SameOutcome result kind) (run step s ops).1 (run step₂ t ops).1 ∧
      rel (run step s ops).2 (run step₂ t ops).2 := by
  induction ops generalizing s t with
  | nil => exact ⟨.nil, hst⟩
  | cons op ops ih =>
    obtain ⟨hout, hrel⟩ : SameOutcome result kind (commit s (step op s)).1
          (commit t (step₂ op t)).1 ∧
        rel (commit s (step op s)).2 (commit t (step₂ op t)).2 := by
      -- one call: both raise and keep their states, or both commit
      have hcall := hstep op s t (hops [] op ops rfl) hst
      generalize step op s = x, step₂ op t = y at hcall
      cases hcall with
      | error he => exact ⟨.error he, hst⟩
      | ok hpq => exact ⟨.ok hpq.1, hpq.2⟩
    rw [run_cons, run_cons]
    have hrest := ih hrel fun pre op' post h ↦ by
      have hc := hops (op :: pre) op' post (by rw [h, List.cons_append])
      rwa [run_cons] at hc
    exact ⟨.cons hout hrest.1, hrest.2⟩

end Simulation

end DriftGuardX.Transaction
