import DriftGuardX.Foundation.Words
import DriftGuardX.Policy.Approvals

/-!
# Chunks of a text

The chunker cuts the words of a text into windows. A window starts where the one before it did, moved
by the size of a chunk less the overlap, and nothing is checked about the two numbers. So the loop ends
exactly when the overlap is smaller than the size or the whole text is one chunk, and then it loses
nothing (`chunkingHolds_iff`).
-/

namespace DriftGuardX.Ingestion

open Words
open Policy.ApprovalService (isSpace)

/-- `str.split`. -/
def split (text : String) : List String := (words isSpace text.toList).map String.ofList

/-- `" ".join`. -/
def join (ws : List String) : String := " ".intercalate ws

/-- The place of an index of a slice. A negative index counts from the end. -/
def sliceIndex (length : ℕ) (i : ℤ) : ℕ := if i < 0 then (i + length).toNat else min i.toNat length

/-- `xs[start:stop]` -/
def slice {α : Type} (xs : List α) (start stop : ℤ) : List α :=
  (xs.drop (sliceIndex xs.length start)).take
    (sliceIndex xs.length stop - sliceIndex xs.length start)

structure BaseChunker where
  chunkSize : ℤ
  chunkOverlap : ℤ
  deriving DecidableEq, Repr

namespace BaseChunker

variable (chunker : BaseChunker)

/-- The loop of `chunk_text`, in at most as many rounds as there is fuel. -/
def chunkLoop (ws : List String) : ℕ → ℤ → List String → Option (List String)
  | 0, _, _ => none
  | fuel + 1, i, chunks =>
    if i < ws.length then
      chunkLoop ws fuel (i + (chunker.chunkSize - chunker.chunkOverlap))
        (chunks ++ [join (slice ws i (i + chunker.chunkSize))])
    else some chunks

/-- `chunk_text`, if it returns with the given fuel. -/
def chunkText (fuel : ℕ) (text : String) : Option (List String) :=
  if text = "" then some []
  else
    let ws := split text
    if ws.length ≤ chunker.chunkSize then some [join ws] else chunker.chunkLoop ws fuel 0 []

end BaseChunker

/-! ## What chunks are for -/

/-- Chunks that start at given words: each is a stretch of the words that is not too long, a later one
starts further on, and every word is in one of them at its place. -/
structure Windows (size : ℤ) (ws : List String) (starts : List ℕ) (chunks : List String) : Prop where
  stretches : List.Forall₂ (fun start chunk ↦
    split chunk = (ws.drop start).take (split chunk).length ∧ (split chunk).length ≤ size) starts chunks
  increasing : starts.Pairwise (· < ·)
  covered : ∀ n < ws.length, ∃ window ∈ starts.zip chunks,
    window.1 ≤ n ∧ n < window.1 + (split window.2).length

/-- **Chunking ends and loses nothing.** -/
def ChunkingHolds (chunker : BaseChunker) (text : String) : Prop :=
  ∃ chunks, (∃ enough, ∀ fuel ≥ enough, chunker.chunkText fuel text = some chunks) ∧
    ∃ starts, Windows chunker.chunkSize (split text) starts chunks

/-! ## Words and stretches -/

section Words

variable {ws : List String}

theorem isWord_of_mem_split {text w : String} (h : w ∈ split text) : IsWord isSpace w.toList := by
  obtain ⟨cs, hcs, rfl⟩ := List.mem_map.mp h
  rw [String.toList_ofList]
  exact isWord_of_mem_words hcs

theorem split_join (h : ∀ w ∈ ws, IsWord isSpace w.toList) : split (join ws) = ws := by
  have hwords : words isSpace ([' '].intercalate (ws.map String.toList)) = ws.map String.toList :=
    words_intercalate (by decide) (List.forall_mem_map.mpr h)
  rw [split, join, String.toList_intercalate, show " ".toList = [' '] from rfl, hwords,
    List.map_map]
  simp

theorem sliceIndex_natCast (length i : ℕ) : sliceIndex length i = min i length := by
  rw [sliceIndex, if_neg (by omega), Int.toNat_natCast]

theorem slice_eq_take_drop {α : Type} {xs : List α} {i size : ℕ} (hi : i ≤ xs.length) :
    slice xs i (i + size) = (xs.drop i).take size := by
  rw [slice, ← Nat.cast_add, sliceIndex_natCast, sliceIndex_natCast, Nat.min_eq_left hi]
  obtain hle | hle := Nat.le_total (i + size) xs.length
  · rw [Nat.min_eq_left hle, Nat.add_sub_cancel_left]
  · have hlength : (xs.drop i).length ≤ xs.length - i := (List.length_drop ..).le
    have hsize : xs.length - i ≤ size := by omega
    rw [Nat.min_eq_right hle, List.take_of_length_le hlength,
      List.take_of_length_le (hlength.trans hsize)]

end Words

/-! ## The loop -/

section Loop

variable {chunker : BaseChunker} {ws : List String} {text : String}

/-- Windows from a word on. -/
structure WindowsFrom (size : ℤ) (ws : List String) (i : ℕ) (starts : List ℕ)
    (chunks : List String) : Prop where
  stretches : List.Forall₂ (fun start chunk ↦
    split chunk = (ws.drop start).take (split chunk).length ∧ (split chunk).length ≤ size) starts chunks
  increasing : starts.Pairwise (· < ·)
  above : ∀ start ∈ starts, i ≤ start
  covered : ∀ n < ws.length, i ≤ n → ∃ window ∈ starts.zip chunks,
    window.1 ≤ n ∧ n < window.1 + (split window.2).length

theorem WindowsFrom.nil {size : ℤ} {i : ℕ} (h : ws.length ≤ i) : WindowsFrom size ws i [] [] where
  stretches := .nil
  increasing := .nil
  above := fun _ hmem ↦ absurd hmem List.not_mem_nil
  covered := fun _ hn hi ↦ absurd (hn.trans_le h) hi.not_gt

theorem WindowsFrom.cons {size i j : ℕ} {starts : List ℕ} {chunks : List String}
    (h : WindowsFrom size ws j starts chunks) (hws : ∀ w ∈ ws, IsWord isSpace w.toList)
    (hlt : i < j) (hle : j ≤ i + size) :
    WindowsFrom size ws i (i :: starts) (join ((ws.drop i).take size) :: chunks) := by
  have hsplit : split (join ((ws.drop i).take size)) = (ws.drop i).take size :=
    split_join fun w hw ↦ hws w (List.mem_of_mem_drop (List.mem_of_mem_take hw))
  refine ⟨.cons ?_ h.stretches, ?_, ?_, fun n hn hin ↦ ?_⟩
  · rw [hsplit]
    refine ⟨?_, by exact_mod_cast List.length_take_le _ _⟩
    rw [List.length_take, ← List.take_eq_take_min]
  · exact List.pairwise_cons.mpr ⟨fun start hmem ↦ hlt.trans_le (h.above start hmem), h.increasing⟩
  · exact List.forall_mem_cons.mpr ⟨le_rfl, fun start hmem ↦ hlt.le.trans (h.above start hmem)⟩
  · obtain hjn | hnj := Nat.lt_or_ge n j
    · refine ⟨(i, join ((ws.drop i).take size)), List.mem_cons_self, hin, ?_⟩
      rw [hsplit, List.length_take, List.length_drop]
      omega
    · obtain ⟨window, hmem, hwindow⟩ := h.covered n hn hnj
      exact ⟨window, List.mem_cons_of_mem _ hmem, hwindow⟩

/-- A loop that moves on ends, with windows from its place on. -/
theorem exists_chunkLoop {size step : ℕ} (hsize : chunker.chunkSize = size)
    (hstep : chunker.chunkSize - chunker.chunkOverlap = step) (hpositive : 0 < step)
    (hle : step ≤ size) (hws : ∀ w ∈ ws, IsWord isSpace w.toList) (i fuel : ℕ)
    (hfuel : ws.length - i < fuel) (chunks : List String) :
    ∃ starts new, chunker.chunkLoop ws fuel i chunks = some (chunks ++ new) ∧
      WindowsFrom size ws i starts new := by
  induction fuel generalizing i chunks with
  | zero => exact absurd hfuel (Nat.not_lt_zero _)
  | succ fuel ih =>
    rw [BaseChunker.chunkLoop]
    split_ifs with hlt
    · have hi : i ≤ ws.length := by omega
      rw [hstep, hsize, slice_eq_take_drop hi, ← Nat.cast_add]
      obtain ⟨starts, new, hloop, hwindows⟩ :=
        ih (i + step) (by omega) (chunks ++ [join ((ws.drop i).take size)])
      refine ⟨i :: starts, join ((ws.drop i).take size) :: new, ?_,
        hwindows.cons hws (by omega) (by omega)⟩
      rw [hloop, List.append_assoc, List.singleton_append]
    · refine ⟨[], [], by rw [List.append_nil], .nil (by omega)⟩

theorem chunkLoop_of_le {fuel fuel' : ℕ} (hle : fuel ≤ fuel') {i : ℤ} {chunks result : List String}
    (h : chunker.chunkLoop ws fuel i chunks = some result) :
    chunker.chunkLoop ws fuel' i chunks = some result := by
  induction fuel generalizing fuel' i chunks with
  | zero => exact absurd h (Option.some_ne_none _).symm
  | succ fuel ih =>
    obtain ⟨fuel', rfl⟩ := Nat.exists_eq_add_of_le' (Nat.le_of_add_left_le hle)
    rw [BaseChunker.chunkLoop] at h ⊢
    split_ifs at h ⊢
    · exact ih (Nat.le_of_add_le_add_right hle) h
    · exact h

theorem chunkLoop_eq_none (hstep : chunker.chunkSize ≤ chunker.chunkOverlap) (hne : ws ≠ [])
    (fuel : ℕ) {i : ℤ} (hi : i ≤ 0) (chunks : List String) :
    chunker.chunkLoop ws fuel i chunks = none := by
  induction fuel generalizing i chunks with
  | zero => rfl
  | succ fuel ih =>
    have hlt : i < ws.length := by
      have hpositive := List.length_pos_iff.mpr hne
      omega
    rw [BaseChunker.chunkLoop, if_pos hlt]
    exact ih (by omega) _

end Loop

/-! ## Texts -/

section Texts

variable {chunker : BaseChunker} {text : String}

theorem windowsFrom_zero {size : ℤ} {ws : List String} {starts : List ℕ} {chunks : List String}
    (h : WindowsFrom size ws 0 starts chunks) : Windows size ws starts chunks :=
  ⟨h.stretches, h.increasing, fun n hn ↦ h.covered n hn n.zero_le⟩

theorem windows_singleton {size : ℤ} (h : (split text).length ≤ size) :
    Windows size (split text) [0] [join (split text)] := by
  have hsplit : split (join (split text)) = split text := split_join fun _ ↦ isWord_of_mem_split
  refine ⟨.cons ⟨?_, hsplit.symm ▸ h⟩ .nil, List.pairwise_singleton .., fun n hn ↦ ?_⟩
  · rw [hsplit, List.drop_zero, List.take_length]
  · refine ⟨(0, join (split text)), List.mem_cons_self, n.zero_le, ?_⟩
    rwa [hsplit, Nat.zero_add]

theorem windows_nil {size : ℤ} : Windows size (split "") [] [] :=
  ⟨.nil, .nil, fun _ hn ↦ absurd hn (by simp [split, words])⟩

theorem chunkText_of_long (htext : text ≠ "")
    (hlong : ¬ ((split text).length : ℤ) ≤ chunker.chunkSize) (fuel : ℕ) :
    chunker.chunkText fuel text = chunker.chunkLoop (split text) fuel 0 [] := by
  rw [BaseChunker.chunkText, if_neg htext]
  exact if_neg hlong

theorem not_chunkingHolds_of_le (htext : text ≠ "")
    (hlong : ¬ ((split text).length : ℤ) ≤ chunker.chunkSize) (hne : split text ≠ [])
    (hle : chunker.chunkSize ≤ chunker.chunkOverlap) : ¬ ChunkingHolds chunker text := by
  rintro ⟨chunks, ⟨enough, hreturns⟩, -⟩
  have hnone := chunkLoop_eq_none hle hne enough le_rfl []
  rw [← chunkText_of_long htext hlong, hreturns enough le_rfl] at hnone
  contradiction

theorem chunkingHolds_of_lt (htext : text ≠ "")
    (hlong : ¬ ((split text).length : ℤ) ≤ chunker.chunkSize) (hsize : 1 ≤ chunker.chunkSize)
    (hoverlap : 0 ≤ chunker.chunkOverlap) (hlt : chunker.chunkOverlap < chunker.chunkSize) :
    ChunkingHolds chunker text := by
  obtain ⟨size, hsize'⟩ := Int.eq_ofNat_of_zero_le (by omega : 0 ≤ chunker.chunkSize)
  obtain ⟨step, hstep⟩ :=
    Int.eq_ofNat_of_zero_le (by omega : 0 ≤ chunker.chunkSize - chunker.chunkOverlap)
  have hwords : ∀ w ∈ split text, IsWord isSpace w.toList := fun _ ↦ isWord_of_mem_split
  obtain ⟨starts, chunks, hreturns, hwindows⟩ := exists_chunkLoop hsize' hstep (by omega)
    (by omega) hwords 0 ((split text).length + 1) (by omega) []
  refine ⟨chunks, ⟨(split text).length + 1, fun fuel hfuel ↦ ?_⟩, starts, ?_⟩
  · rw [chunkText_of_long htext hlong]
    exact chunkLoop_of_le hfuel hreturns
  · rw [hsize']
    exact windowsFrom_zero hwindows

/-- **Chunking ends and loses nothing exactly when** the overlap is smaller than the size of a chunk,
or one chunk has all words. -/
theorem chunkingHolds_iff (hsize : 1 ≤ chunker.chunkSize) (hoverlap : 0 ≤ chunker.chunkOverlap) :
    ChunkingHolds chunker text ↔
      chunker.chunkOverlap < chunker.chunkSize ∨ (split text).length ≤ chunker.chunkSize := by
  by_cases htext : text = ""
  · subst htext
    refine iff_of_true ⟨[], ⟨0, fun fuel _ ↦ if_pos rfl⟩, [], windows_nil⟩ (.inr ?_)
    rw [show (split "").length = 0 by simp [split, words]]
    omega
  by_cases hone : (split text).length ≤ chunker.chunkSize
  · refine iff_of_true ⟨[join (split text)], ⟨0, fun fuel _ ↦ ?_⟩, [0], windows_singleton hone⟩
      (.inr hone)
    rw [BaseChunker.chunkText, if_neg htext]
    exact if_pos hone
  rw [or_iff_left hone]
  constructor
  · intro hholds
    by_contra hstep
    have hne : split text ≠ [] := by
      intro hnil
      rw [hnil, List.length_nil] at hone
      omega
    exact not_chunkingHolds_of_le htext hone hne (not_lt.mp hstep) hholds
  · exact chunkingHolds_of_lt htext hone hsize hoverlap

/-- Three words, in windows of two that have one in common. -/
theorem chunkingHolds_threeWords : ChunkingHolds ⟨2, 1⟩ "a b c" :=
  (chunkingHolds_iff (by decide) (by decide)).mpr (.inl (by decide))

/-- Windows of one word that overlap in one word never move on. -/
theorem not_chunkingHolds_fullOverlap : ¬ ChunkingHolds ⟨1, 1⟩ "a b" := by
  have hlength : (split "a b").length = 2 := by decide
  have hne : split "a b" ≠ [] := List.ne_nil_of_length_pos (hlength ▸ Nat.zero_lt_two)
  exact not_chunkingHolds_of_le (by decide) (by rw [hlength]; decide) hne le_rfl

end Texts

end DriftGuardX.Ingestion
