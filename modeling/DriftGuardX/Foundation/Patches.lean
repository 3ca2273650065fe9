import DriftGuardX.Foundation.Program
import Mathlib.Data.List.Nodup
import Mathlib.Data.List.TakeWhile

/-!
# Patches of an interpreter

A patcher replaces an attribute from its start to its stop. Making one looks nothing up: a target that
cannot be found raises only when the patcher is started, and then nothing is replaced. To stop a
patcher that is not active does nothing.

Starting patchers one after the other starts those before the first that raises
(`startAll_apply`), and what was started is found again among the active patches (`Started`). Stopping
different patchers stops those that are active, once each (`stopped_stopAll`).
-/

namespace DriftGuardX

/-- A patcher is known by its number; two patchers with the same target are different. -/
structure Patcher (R : Type) where
  number : ℕ
  target : String
  replacement : R
  deriving DecidableEq

/-- The patchers of an interpreter: how many were made, which are active, and every start and stop
there was. -/
structure Patches (R : Type) where
  created : ℕ
  active : List (Patcher R)
  started : List (Patcher R)
  stopped : List (Patcher R)

namespace Patches

variable {R ε : Type}

/-- No active patcher has a number that is still to be given out. -/
def Fresh (w : Patches R) : Prop := ∀ p ∈ w.active, p.number < w.created

def create (w : Patches R) (k : ℕ) : Patches R := { w with created := w.created + k }

/-- The patches after some patchers were started. -/
def starts (w : Patches R) (ps : List (Patcher R)) : Patches R :=
  { w with active := w.active ++ ps, started := w.started ++ ps }

def start (unavailable : String → Option ε) (p : Patcher R) : Program (Patches R) ε Unit :=
  match unavailable p.target with
  | some e => .raise e
  | none => .modify (·.starts [p])

variable [DecidableEq R]

def stops (w : Patches R) (p : Patcher R) : Patches R :=
  if p ∈ w.active then { w with active := w.active.erase p, stopped := w.stopped ++ [p] } else w

def stop (p : Patcher R) : Program (Patches R) ε Unit := .modify (·.stops p)

/-! ## Starting one patcher after the other -/

/-- The end of a run that raises when there is something to raise. -/
def ending : Option ε → Except ε Unit
  | some e => .error e
  | none => .ok ()

section Start

omit [DecidableEq R]

variable {unavailable : String → Option ε} {w w' w'' : Patches R} {p : Patcher R}
  {ps qs : List (Patcher R)}

theorem starts_nil : w.starts [] = w := by
  rw [starts, List.append_nil, List.append_nil]

theorem starts_starts : (w.starts ps).starts qs = w.starts (ps ++ qs) := by
  rw [starts, starts, starts, List.append_assoc, List.append_assoc]

theorem start_of_available (h : unavailable p.target = none) :
    start unavailable p w = (.ok (), w.starts [p]) := by
  rw [start, h]
  rfl

theorem start_of_unavailable {e : ε} (h : unavailable p.target = some e) :
    start unavailable p w = (.error e, w) := by
  rw [start, h]
  rfl

theorem startAll_apply : ps.forM (start unavailable) w =
    (ending (ps.findSome? fun p ↦ unavailable p.target),
      w.starts (ps.takeWhile fun p ↦ (unavailable p.target).isNone)) := by
  induction ps generalizing w with
  | nil => exact Prod.ext rfl starts_nil.symm
  | cons p ps ih =>
    cases hp : unavailable p.target with
    | none =>
      rw [Program.forM_cons_of_ok (start_of_available hp), ih, starts_starts,
        List.findSome?_cons_of_isNone (by rw [hp]; rfl),
        List.takeWhile_cons_of_pos (by rw [hp]; rfl), List.singleton_append]
    | some e =>
      rw [Program.forM_cons_of_error (start_of_unavailable hp),
        List.findSome?_cons_of_isSome (by rw [hp]; rfl), hp,
        List.takeWhile_cons_of_neg (by rw [hp]; exact Bool.false_ne_true), starts_nil]
      rfl

/-- From one state of the patches to another, the patchers `ps` were made and started, and nothing was
stopped. -/
structure Started (w w' : Patches R) (ps : List (Patcher R)) : Prop where
  created : w.created ≤ w'.created
  active : w'.active = w.active ++ ps
  started : w'.started = w.started ++ ps
  stopped : w'.stopped = w.stopped
  numbered : ∀ p ∈ ps, w.created ≤ p.number ∧ p.number < w'.created
  increasing : ps.Pairwise (·.number < ·.number)

theorem Started.refl (w : Patches R) : Started w w [] :=
  ⟨le_rfl, (List.append_nil _).symm, (List.append_nil _).symm, rfl, by simp, .nil⟩

theorem started_create (k : ℕ) : Started w (w.create k) [] :=
  ⟨Nat.le_add_right _ _, (List.append_nil _).symm, (List.append_nil _).symm, rfl, by simp, .nil⟩

theorem Started.trans (h : Started w w' ps) (h' : Started w' w'' qs) :
    Started w w'' (ps ++ qs) where
  created := h.created.trans h'.created
  active := by rw [h'.active, h.active, List.append_assoc]
  started := by rw [h'.started, h.started, List.append_assoc]
  stopped := h'.stopped.trans h.stopped
  numbered := by
    intro p hp
    obtain hp | hp := List.mem_append.mp hp
    · exact ⟨(h.numbered p hp).1, (h.numbered p hp).2.trans_le h'.created⟩
    · exact ⟨h.created.trans (h'.numbered p hp).1, (h'.numbered p hp).2⟩
  increasing := by
    refine List.pairwise_append.mpr ⟨h.increasing, h'.increasing, fun p hp q hq ↦ ?_⟩
    exact (h.numbered p hp).2.trans_le (h'.numbered q hq).1

theorem Started.nodup (h : Started w w' ps) : ps.Nodup :=
  h.increasing.imp fun hlt heq ↦ absurd (congrArg Patcher.number heq) hlt.ne

theorem Fresh.notMem (hw : w.Fresh) (hp : w.created ≤ p.number) : p ∉ w.active :=
  fun hmem ↦ absurd (hw p hmem) hp.not_gt

end Start

/-! ## Stopping one patcher after the other -/

section Stop

variable {w : Patches R} {p q : Patcher R} {ps : List (Patcher R)}

theorem stop_apply (p : Patcher R) :
    (stop p : Program (Patches R) ε Unit) w = (.ok (), w.stops p) := rfl

theorem stopAll_apply : ps.forM (stop : Patcher R → Program (Patches R) ε Unit) w
    = (.ok (), ps.foldl stops w) := by
  induction ps generalizing w with
  | nil => rfl
  | cons p ps ih => rw [Program.forM_cons_of_ok (stop_apply p), ih, List.foldl_cons]

theorem count_stops_of_ne (h : p ≠ q) : (w.stops q).active.count p = w.active.count p := by
  rw [stops]
  split
  · exact List.count_erase_of_ne h
  · rfl

theorem stopped_stopAll (hps : ps.Nodup) :
    (ps.foldl stops w).stopped = w.stopped ++ ps.filter (· ∈ w.active) := by
  induction ps generalizing w with
  | nil => exact (List.append_nil _).symm
  | cons p ps ih =>
    obtain ⟨hp, hps⟩ := List.nodup_cons.mp hps
    have hrest : ps.filter (· ∈ (w.stops p).active) = ps.filter (· ∈ w.active) := by
      refine List.filter_congr fun q hq ↦ ?_
      have hcount := count_stops_of_ne (w := w) (ne_of_mem_of_not_mem hq hp)
      rw [decide_eq_decide, ← List.count_pos_iff, ← List.count_pos_iff, hcount]
    rw [List.foldl_cons, ih hps, hrest]
    by_cases hmem : p ∈ w.active
    · rw [List.filter_cons_of_pos (by simpa using hmem), stops, if_pos hmem, List.append_assoc,
        List.singleton_append]
    · rw [List.filter_cons_of_neg (by simpa using hmem), stops, if_neg hmem]

theorem count_stopAll (hps : ps.Nodup) :
    (ps.foldl stops w).active.count p = w.active.count p - if p ∈ ps then 1 else 0 := by
  induction ps generalizing w with
  | nil => rfl
  | cons q ps ih =>
    obtain ⟨hq, hps⟩ := List.nodup_cons.mp hps
    rw [List.foldl_cons, ih hps]
    obtain rfl | hne := eq_or_ne p q
    · rw [if_neg hq, if_pos List.mem_cons_self, Nat.sub_zero, stops]
      split
      · exact List.count_erase_self
      · rename_i hmem
        rw [List.count_eq_zero.mpr hmem]
    · rw [count_stops_of_ne hne]
      simp [hne]

end Stop

end Patches

/-! ## The patchers of an owner -/

/-- The list that an owner keeps of its patchers, beside the patches of the interpreter. -/
structure Owned (R : Type) where
  patches : List (Patcher R)
  interpreter : Patches R

namespace Owned

open Patches Program

variable {R ε : Type}

/-- A new patcher, which is not started and not in the list. -/
def patch (target : String) (replacement : R) : Program (Owned R) ε (Patcher R) := fun s ↦
  (.ok ⟨s.interpreter.created, target, replacement⟩,
    { s with interpreter := s.interpreter.create 1 })

def append (p : Patcher R) : Program (Owned R) ε Unit :=
  modify fun s ↦ { s with patches := s.patches ++ [p] }

def onInterpreter (x : Program (Patches R) ε Unit) : Program (Owned R) ε Unit :=
  zoom Owned.interpreter (fun s w ↦ { s with interpreter := w }) x

/-- Starts every patcher of the list, in order. -/
def startPatches (unavailable : String → Option ε) : Program (Owned R) ε Unit := do
  let s ← get
  onInterpreter (s.patches.forM (start unavailable))

/-- Stops every patcher of the list, the last first, and clears the list. -/
def stopPatches [DecidableEq R] : Program (Owned R) ε Unit := do
  let s ← get
  onInterpreter (s.patches.reverse.forM stop)
  modify fun s ↦ { s with patches := [] }

/-- The patchers that are made for some targets from a number on. -/
def numbered : ℕ → List (String × R) → List (Patcher R)
  | _, [] => []
  | n, (target, replacement) :: targets => ⟨n, target, replacement⟩ :: numbered (n + 1) targets

section Numbered

variable {n : ℕ} {targets : List (String × R)}

theorem map_target_numbered (n : ℕ) (targets : List (String × R)) :
    (numbered n targets).map Patcher.target = targets.map Prod.fst := by
  induction targets generalizing n with
  | nil => rfl
  | cons t targets ih => rw [numbered, List.map_cons, List.map_cons, ih (n + 1)]

theorem number_of_mem_numbered {p : Patcher R} (h : p ∈ numbered n targets) :
    n ≤ p.number ∧ p.number < n + targets.length := by
  induction targets generalizing n with
  | nil => exact absurd h List.not_mem_nil
  | cons t targets ih =>
    rw [List.length_cons]
    obtain rfl | h := List.mem_cons.mp h
    · exact ⟨le_rfl, by simp⟩
    · have := ih h
      omega

theorem numbered_increasing : (numbered n targets).Pairwise (·.number < ·.number) := by
  induction targets generalizing n with
  | nil => exact .nil
  | cons t targets ih =>
    exact .cons (fun p hp ↦ (number_of_mem_numbered hp).1) ih

end Numbered

section Runs

variable {unavailable : String → Option ε} {s : Owned R}

theorem patch_apply (target : String) (replacement : R) :
    (patch target replacement : Program (Owned R) ε (Patcher R)) s
      = (.ok ⟨s.interpreter.created, target, replacement⟩,
        ⟨s.patches, s.interpreter.create 1⟩) := rfl

theorem onInterpreter_of_run {x : Program (Patches R) ε Unit} {r : Except ε Unit} {w : Patches R}
    (h : x s.interpreter = (r, w)) : onInterpreter x s = (r, { s with interpreter := w }) :=
  zoom_of_run h

theorem startPatches_apply : startPatches unavailable s =
    (ending (s.patches.findSome? fun p ↦ unavailable p.target), { s with
      interpreter := s.interpreter.starts
        (s.patches.takeWhile fun p ↦ (unavailable p.target).isNone) }) := by
  rw [startPatches, bind_of_ok get_apply, onInterpreter_of_run startAll_apply]

theorem started_numbered (w : Patches R) (targets : List (String × R)) (ps : List (Patcher R))
    (hps : ps <+: numbered w.created targets) :
    Started w ((w.create targets.length).starts ps) ps where
  created := Nat.le_add_right _ _
  active := rfl
  started := rfl
  stopped := rfl
  numbered _ hp := number_of_mem_numbered (hps.subset hp)
  increasing := numbered_increasing.sublist hps.sublist

theorem findSome?_numbered (n : ℕ) (targets : List (String × R)) :
    ((numbered n targets).findSome? fun p ↦ unavailable p.target)
      = targets.findSome? fun t ↦ unavailable t.1 := by
  have h := congrArg (List.findSome? unavailable) (map_target_numbered n targets)
  rwa [List.findSome?_map, List.findSome?_map] at h

/-- When every target is there, the patchers that were just made are all started. -/
theorem startPatches_of_available (w : Patches R) (target : String × R)
    (targets : List (String × R)) (h : ∀ t ∈ target :: targets, unavailable t.1 = none) : ∃ w' ps,
      startPatches unavailable
          ⟨numbered w.created (target :: targets), w.create (targets.length + 1)⟩
        = (.ok (), ⟨ps, w'⟩) ∧ Started w w' ps ∧ ps ≠ [] := by
  have hnone : ((target :: targets).findSome? fun t ↦ unavailable t.1) = none :=
    List.findSome?_eq_none_iff.mpr h
  have hall : ((numbered w.created (target :: targets)).takeWhile
      fun p ↦ (unavailable p.target).isNone) = numbered w.created (target :: targets) := by
    refine List.takeWhile_eq_self_iff.mpr fun p hp ↦ ?_
    rw [List.findSome?_eq_none_iff.mp ((findSome?_numbered _ _).trans hnone) p hp]
    rfl
  refine ⟨_, _, ?_, started_numbered w (target :: targets) _ (List.prefix_refl _), List.cons_ne_nil _ _⟩
  rw [startPatches_apply, findSome?_numbered, hnone, hall]
  rfl

/-- When a target is missing, the patchers that were just made are started up to it, and none of them
exactly when the first target is missing. -/
theorem startPatches_of_unavailable (w : Patches R) (target : String × R)
    (targets : List (String × R)) (h : ∃ t ∈ target :: targets, unavailable t.1 ≠ none) :
    ∃ e w' ps qs,
      startPatches unavailable
          ⟨numbered w.created (target :: targets), w.create (targets.length + 1)⟩
        = (.error e, ⟨qs, w'⟩) ∧
      Started w w' ps ∧ (∀ q ∈ qs, w.created ≤ q.number) ∧
      (ps = [] ↔ unavailable target.1 ≠ none) := by
  obtain ⟨t, ht, hne⟩ := h
  cases hsome : (target :: targets).findSome? fun t ↦ unavailable t.1 with
  | none => exact absurd (List.findSome?_eq_none_iff.mp hsome t ht) hne
  | some e =>
    let available : Patcher R → Bool := fun p ↦ (unavailable p.target).isNone
    refine ⟨e, _, _, numbered w.created (target :: targets), ?_,
      started_numbered w (target :: targets) _ (List.takeWhile_prefix available),
      fun q hq ↦ (number_of_mem_numbered hq).1, ?_⟩
    · rw [startPatches_apply, findSome?_numbered, hsome]
      rfl
    · rw [numbered, List.takeWhile_cons]
      cases htarget : unavailable target.1 <;> simp [available, htarget]

theorem stopPatches_apply [DecidableEq R] :
    (stopPatches : Program (Owned R) ε Unit) s
      = (.ok (), ⟨[], s.patches.reverse.foldl stops s.interpreter⟩) := by
  rw [stopPatches, bind_of_ok get_apply, bind_of_ok (onInterpreter_of_run stopAll_apply)]
  rfl

end Runs

end Owned

end DriftGuardX
