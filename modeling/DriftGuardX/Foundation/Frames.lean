import Mathlib.Data.List.Induction
import Mathlib.Tactic.Linarith

/-!
# Frames on a bounded pipe

One end sends a payload in pieces, and then says that it was all; or it sends an error in place of
what is left. Both ends count what was sent, and neither goes beyond a bound. The other end looks
for a frame from time to time, and may have to give up for reasons of its own.

Of a payload, the pieces within the bound are sent, which are all of them when the payload is within
the bound (`exists_emit_chunks`). With an honest sender it is all or nothing: what the receiver makes
of the frames is the whole payload or the error, unless it still waits or gave up
(`receives_pieces`).
-/

namespace DriftGuardX.Frames

variable {α ε : Type*}

inductive Frame (α : Type*) where
  | data (piece : List α)
  | finish
  | fail (message : List α)
  deriving DecidableEq

/-- The number of items that a frame takes, with one for its kind. -/
def Frame.size : Frame α → ℕ
  | .data piece => piece.length + 1
  | .finish => 1
  | .fail message => message.length + 1

/-- The items of a frame. -/
def Frame.piece : Frame α → List α
  | .data piece => piece
  | .finish => []
  | .fail message => message

/-! ## Sending -/

/-- The slices of a list that start at the multiples of a number. -/
def slices (size : ℕ) (xs : List α) : List (List α) :=
  (List.range ((xs.length + size - 1) / size)).map fun i ↦ (xs.drop (i * size)).take size

/-- The frames of the pieces before the bound is exceeded, and whether these are all pieces. -/
def emit (bound : ℕ) : ℕ → List (List α) → List (Frame α) × Bool
  | _, [] => ([], true)
  | emitted, piece :: pieces =>
    if bound < emitted + piece.length then ([], false)
    else (.data piece :: (emit bound (emitted + piece.length) pieces).1,
      (emit bound (emitted + piece.length) pieces).2)

/-! ## Receiving -/

/-- What the receiver finds when it looks. -/
inductive Poll (α ε : Type*) where
  | waiting
  | frame (f : Frame α)
  /-- It gives up. -/
  | ends (reason : ε)

inductive Received (α ε : Type*) where
  | finished (payload : List α)
  | failed (message : List α)
  | overflow
  | overlong
  | ended (reason : ε)

/-- The loop of the receiver, from the payload so far; nothing while it still waits. -/
def receive (bound maxlength : ℕ) : List α → List (Poll α ε) → Option (Received α ε)
  | _, [] => none
  | payload, .waiting :: polls => receive bound maxlength payload polls
  | _, .ends reason :: _ => some (.ended reason)
  | payload, .frame f :: polls =>
    if maxlength < f.size then some .overlong
    else match f with
      | .data piece =>
        if bound < payload.length + piece.length then some .overflow
        else receive bound maxlength (payload ++ piece) polls
      | .finish => some (.finished payload)
      | .fail message => some (.failed message)

/-- The frames that are found before the receiver gives up. -/
def frames : List (Poll α ε) → List (Frame α)
  | [] => []
  | .waiting :: polls => frames polls
  | .frame f :: polls => f :: frames polls
  | .ends _ :: _ => []

/-! ## What is sent -/

variable {bound size maxlength : ℕ} {xs : List α}

theorem flatten_map_slice (xs : List α) (n : ℕ) :
    ((List.range n).map fun i ↦ (xs.drop (i * size)).take size).flatten = xs.take (n * size) := by
  induction n with
  | zero => simp
  | succ n ih =>
    rw [List.range_succ, List.map_append, List.flatten_append, ih, List.map_singleton,
      List.flatten_singleton, Nat.add_mul, Nat.one_mul, List.take_add]

theorem flatten_slices (hsize : 0 < size) (xs : List α) : (slices size xs).flatten = xs := by
  rw [slices, flatten_map_slice, List.take_of_length_le]
  have hlt := Nat.lt_mul_div_succ (xs.length + size - 1) hsize
  rw [Nat.mul_add, Nat.mul_one, Nat.mul_comm] at hlt
  omega

theorem length_le_of_mem_slices {piece : List α} (h : piece ∈ slices size xs) :
    piece.length ≤ size := by
  obtain ⟨i, -, rfl⟩ := List.mem_map.mp h
  exact List.length_take_le _ _

theorem flatten_flatMap_slices (hsize : 0 < size) (chunks : List (List α)) :
    (chunks.flatMap (slices size)).flatten = chunks.flatten := by
  induction chunks with
  | nil => rfl
  | cons chunk chunks ih =>
    rw [List.flatMap_cons, List.flatten_append, flatten_slices hsize, ih, List.flatten_cons]

/-- The frames of some pieces hold the first of them and no more than the bound. They hold all when
together these are within the bound. -/
theorem exists_emit (pieces : List (List α)) {emitted : ℕ} (hbound : emitted ≤ bound) :
    ∃ us, us <+: pieces ∧ (emit bound emitted pieces).1 = us.map .data ∧
      emitted + us.flatten.length ≤ bound ∧
      ((emit bound emitted pieces).2 = true ↔ emitted + pieces.flatten.length ≤ bound) ∧
      (emitted + pieces.flatten.length ≤ bound → us = pieces) := by
  induction pieces generalizing emitted with
  | nil => exact ⟨[], List.prefix_rfl, rfl, hbound, by simpa [emit] using hbound, fun _ ↦ rfl⟩
  | cons piece pieces ih =>
    rw [emit, List.flatten_cons, List.length_append]
    split
    · rename_i hlt
      refine ⟨[], List.nil_prefix, rfl, hbound, ?_, fun h ↦ absurd h (by omega)⟩
      simp only [Bool.false_eq_true, false_iff]
      omega
    · rename_i hle
      obtain ⟨us, hpre, hfst, hlen, hsnd, hall⟩ := @ih (emitted + piece.length) (by omega)
      refine ⟨piece :: us, List.cons_prefix_cons.mpr ⟨rfl, hpre⟩, ?_, ?_, ?_, fun h ↦ ?_⟩
      · rw [hfst, List.map_cons]
      · rw [List.flatten_cons, List.length_append]
        omega
      · rw [hsnd, Nat.add_assoc]
      · rw [hall (by omega)]

/-! ## What is received -/

theorem frames_map_frame (fs : List (Frame α)) :
    frames (fs.map (.frame : Frame α → Poll α ε)) = fs := by
  induction fs with
  | nil => rfl
  | cons f fs ih => rw [List.map_cons, frames, ih]

/-- The end of what is sent: an error or none. -/
def last (error : Option (List α)) : Frame α := error.elim .finish .fail

/-- What the receiver makes of it. -/
def outcome (payload : List α) (error : Option (List α)) : Received α ε :=
  error.elim (.finished payload) .failed

/-- What comes of frames that were sent, of which the receiver found some: it makes something of
them when it found all, and still waits or gave up otherwise. -/
structure Receives (sent : List (Frame α)) (made : Received α ε) (polls : List (Poll α ε))
    (result : Option (Received α ε)) : Prop where
  whole : frames polls = sent → result = some made
  part : frames polls ≠ sent →
    result = none ∨ ∃ reason, .ends reason ∈ polls ∧ result = some (.ended reason)

theorem Receives.cons {sent : List (Frame α)} {made : Received α ε} {polls : List (Poll α ε)}
    {result : Option (Received α ε)} (h : Receives sent made polls result) (f : Frame α) :
    Receives (f :: sent) made (.frame f :: polls) result where
  whole hframes := h.whole (List.cons.inj hframes).2
  part hframes := by
    obtain hnone | ⟨reason, hmem, hended⟩ := h.part fun heq ↦ hframes (congrArg (f :: ·) heq)
    · exact Or.inl hnone
    · exact Or.inr ⟨reason, List.mem_cons_of_mem _ hmem, hended⟩

/-- **All or nothing.** Of pieces within the bound and an end, the receiver makes what was sent. -/
theorem receives_pieces {polls : List (Poll α ε)} {us : List (List α)} (payload : List α)
    (error : Option (List α)) (hpolls : frames polls <+: us.map .data ++ [last error])
    (hsize : ∀ piece ∈ us, piece.length + 1 ≤ maxlength) (hlast : (last error).size ≤ maxlength)
    (hbound : payload.length + us.flatten.length ≤ bound) :
    Receives (us.map .data ++ [last error]) (outcome (payload ++ us.flatten) error) polls
      (receive bound maxlength payload polls) := by
  induction polls generalizing payload us with
  | nil => exact ⟨fun h ↦ absurd h.symm (by simp [frames]), fun _ ↦ Or.inl rfl⟩
  | cons poll polls ih =>
    cases poll with
    | waiting =>
      obtain ⟨hwhole, hpart⟩ := ih payload hpolls hsize hbound
      refine ⟨hwhole, fun h ↦ ?_⟩
      obtain hnone | ⟨reason, hmem, hended⟩ := hpart h
      · exact Or.inl hnone
      · exact Or.inr ⟨reason, List.mem_cons_of_mem _ hmem, hended⟩
    | ends reason =>
      exact ⟨fun h ↦ absurd h.symm (by simp [frames]),
        fun _ ↦ Or.inr ⟨reason, List.mem_cons_self, rfl⟩⟩
    | frame f =>
      rw [frames] at hpolls
      cases us with
      | nil =>
        obtain ⟨rfl, hrest⟩ := List.cons_prefix_cons.mp hpolls
        have hframes : frames (.frame (last error) :: polls) = [last error] := by
          rw [frames, List.prefix_nil.mp hrest]
        refine ⟨fun _ ↦ ?_, fun h ↦ absurd hframes h⟩
        rw [List.flatten_nil, List.append_nil]
        cases error with
        | none => exact if_neg (not_lt.mpr hlast)
        | some message => exact if_neg (not_lt.mpr hlast)
      | cons piece us =>
        rw [List.map_cons, List.cons_append] at hpolls ⊢
        rw [List.flatten_cons, List.length_append] at hbound
        obtain ⟨hpiece, hsize⟩ := List.forall_mem_cons.mp hsize
        obtain ⟨rfl, hrest⟩ := List.cons_prefix_cons.mp hpolls
        have hreceive : receive bound maxlength payload (.frame (.data piece) :: polls)
            = receive bound maxlength (payload ++ piece) polls := by
          rw [receive, Frame.size, if_neg (not_lt.mpr hpiece), if_neg (by omega)]
        rw [hreceive, List.flatten_cons, ← List.append_assoc]
        refine (ih (payload ++ piece) hrest hsize ?_).cons _
        rw [List.length_append, Nat.add_assoc]
        exact hbound

variable {polls : List (Poll α ε)}

/-- Without an end, the receiver makes nothing of the pieces. -/
theorem receive_of_unfinished {us : List (List α)} {payload : List α}
    (hpolls : frames polls <+: us.map .data) (hsize : ∀ piece ∈ us, piece.length + 1 ≤ maxlength)
    (hmax : 0 < maxlength) (hbound : payload.length + us.flatten.length ≤ bound) :
    receive bound maxlength payload polls = none ∨
      ∃ reason, .ends reason ∈ polls ∧
        receive bound maxlength payload polls = some (.ended reason) := by
  have hprefix : frames polls <+: us.map .data ++ [last none] :=
    hpolls.trans (List.prefix_append _ _)
  refine (receives_pieces payload none hprefix hsize hmax hbound).part fun heq ↦ ?_
  have hlength := hpolls.length_le
  rw [heq, List.length_append, List.length_singleton] at hlength
  omega

/-- **What is sent**, in terms of the pieces that are within the bound. -/
theorem exists_emit_chunks (hslice : 0 < size) (bound : ℕ) (chunks : List (List α)) :
    ∃ us : List (List α), (emit bound 0 (chunks.flatMap (slices size))).1 = us.map .data ∧
      us.flatten.length ≤ bound ∧ (∀ piece ∈ us, piece.length ≤ size) ∧
      ((emit bound 0 (chunks.flatMap (slices size))).2 = true ↔ chunks.flatten.length ≤ bound) ∧
      (chunks.flatten.length ≤ bound → us.flatten = chunks.flatten) := by
  obtain ⟨us, hpre, hfst, hlen, hsnd, hall⟩ :=
    exists_emit (chunks.flatMap (slices size)) (Nat.zero_le bound)
  rw [Nat.zero_add, flatten_flatMap_slices hslice] at hsnd hall
  refine ⟨us, hfst, by omega, fun piece hpiece ↦ ?_, hsnd, fun h ↦ ?_⟩
  · obtain ⟨chunk, -, hmem⟩ := List.mem_flatMap.mp (hpre.subset hpiece)
    exact length_le_of_mem_slices hmem
  · rw [hall h, flatten_flatMap_slices hslice]

end DriftGuardX.Frames
