import DriftGuardX.Foundation.Framing
import Mathlib.Data.List.DropRight

/-!
# Files of lines

A set of texts is kept in a file with one text in each line. A file that is read as text has its line
ends translated, and each line is stripped of white space at both ends. A text comes back when it is
not blank, has no line end in it and no white space at its ends.
-/

namespace DriftGuardX.Lines

variable {text : List Char} {texts : List (List Char)}

/-- White space, as `str.isspace` has it. -/
def isSpace (c : Char) : Bool :=
  let n := c.toNat
  (9 ≤ n && n ≤ 13) || (28 ≤ n && n ≤ 32) || n == 133 || n == 160 || n == 5760 ||
    (8192 ≤ n && n ≤ 8202) || n == 8232 || n == 8233 || n == 8239 || n == 8287 || n == 12288

/-- `str.strip`. -/
def strip (text : List Char) : List Char :=
  (text.dropWhile isSpace).rdropWhile isSpace

/-- The translation of line ends when a file is read. -/
def universalNewlines : List Char → List Char
  | [] => []
  | '\r' :: '\n' :: rest => '\n' :: universalNewlines rest
  | c :: rest => (if c = '\r' then '\n' else c) :: universalNewlines rest

/-- The lines of a file, without their ends, and what is left after the last one. -/
def lines (text : List Char) : List (List Char) :=
  (universalNewlines text).splitOn '\n'

/-- The texts in the lines of a file. -/
def stripped (text : List Char) : List (List Char) :=
  (lines text).map strip |>.filter (· ≠ [])

/-- The text is one that comes back from a file of lines. -/
structure Storable (text : List Char) : Prop where
  ne_nil : text ≠ []
  strip_eq : strip text = text
  lineFeed : '\n' ∉ text
  carriageReturn : '\r' ∉ text

instance : DecidablePred Storable := fun text ↦
  decidable_of_iff (text ≠ [] ∧ strip text = text ∧ '\n' ∉ text ∧ '\r' ∉ text)
    ⟨fun ⟨h₁, h₂, h₃, h₄⟩ ↦ ⟨h₁, h₂, h₃, h₄⟩, fun ⟨h₁, h₂, h₃, h₄⟩ ↦ ⟨h₁, h₂, h₃, h₄⟩⟩

/-! ## Stripping -/

theorem mem_of_mem_strip {c : Char} (h : c ∈ strip text) : c ∈ text :=
  (List.dropWhile_suffix _).subset ((List.rdropWhile_prefix _ _).subset h)

theorem dropWhile_strip : (strip text).dropWhile isSpace = strip text := by
  rw [strip, List.dropWhile_eq_self_iff]
  intro hpos
  have hprefix := List.rdropWhile_prefix isSpace (text.dropWhile isSpace)
  rw [List.IsPrefix.getElem hprefix hpos]
  exact List.dropWhile_eq_self_iff.mp (List.dropWhile_idempotent isSpace text) _

theorem strip_strip : strip (strip text) = strip text := by
  have hstart : (strip text).dropWhile isSpace = strip text := dropWhile_strip
  have hend : (strip text).rdropWhile isSpace = strip text := List.rdropWhile_idempotent isSpace _
  calc strip (strip text) = ((strip text).dropWhile isSpace).rdropWhile isSpace := rfl
    _ = (strip text).rdropWhile isSpace := by rw [hstart]
    _ = strip text := hend

/-! ## Line ends -/

theorem carriageReturn_notMem_universalNewlines : '\r' ∉ universalNewlines text := by
  fun_induction universalNewlines text with
  | case1 => exact List.not_mem_nil
  | case2 rest ih => exact List.not_mem_cons_of_ne_of_not_mem (by decide) ih
  | case3 c rest _ ih =>
    refine List.not_mem_cons_of_ne_of_not_mem ?_ ih
    split_ifs with hc
    · decide
    · exact Ne.symm hc

theorem universalNewlines_eq (h : '\r' ∉ text) : universalNewlines text = text := by
  fun_induction universalNewlines text with
  | case1 => rfl
  | case2 rest _ => exact absurd List.mem_cons_self h
  | case3 c rest _ ih =>
    rw [List.mem_cons, not_or] at h
    rw [if_neg (Ne.symm h.1), ih h.2]

/-! ## What comes back from a file -/

theorem mem_stripped {line : List Char} :
    line ∈ stripped text ↔ (∃ raw ∈ lines text, strip raw = line) ∧ line ≠ [] := by
  rw [stripped, List.mem_filter, List.mem_map, decide_eq_true_iff]

theorem storable_of_mem_stripped {line : List Char} (h : line ∈ stripped text) : Storable line := by
  obtain ⟨⟨raw, hraw, rfl⟩, hne⟩ := mem_stripped.mp h
  refine ⟨hne, strip_strip, fun hfeed ↦ ?_, fun hreturn ↦ ?_⟩
  · exact (Framing.mem_of_mem_splitOn hraw (mem_of_mem_strip hfeed)).2 rfl
  · exact carriageReturn_notMem_universalNewlines
      (Framing.mem_of_mem_splitOn hraw (mem_of_mem_strip hreturn)).1

theorem stripped_terminated (h : ∀ line ∈ texts, Storable line) :
    stripped (Framing.terminated '\n' texts []) = texts := by
  have hreturn : '\r' ∉ Framing.terminated '\n' texts [] := by
    induction texts with
    | nil => exact List.not_mem_nil
    | cons line texts ih =>
      obtain ⟨hline, hothers⟩ := List.forall_mem_cons.mp h
      rw [Framing.terminated, List.foldr_cons, List.mem_append, List.mem_cons]
      rintro (hmem | hmem | hmem)
      · exact hline.carriageReturn hmem
      · exact absurd hmem (by decide)
      · exact ih hothers hmem
  have hlines : lines (Framing.terminated '\n' texts []) = texts ++ [[]] := by
    rw [lines, universalNewlines_eq hreturn,
      Framing.splitOn_terminated fun line hline ↦ (h line hline).lineFeed]
  have hstrip : texts.map strip = texts :=
    (List.map_congr_left fun line hline ↦ (h line hline).strip_eq).trans (List.map_id' texts)
  have hfilter : texts.filter (· ≠ []) = texts :=
    List.filter_eq_self.mpr fun line hline ↦ decide_eq_true (h line hline).ne_nil
  calc stripped (Framing.terminated '\n' texts [])
      = ((texts ++ [[]]).map strip).filter (· ≠ []) := by rw [stripped, hlines]
    _ = (texts ++ [[]]).filter (· ≠ []) := by rw [List.map_append, hstrip]; rfl
    _ = texts := by rw [List.filter_append, hfilter]; exact List.append_nil texts

end DriftGuardX.Lines
