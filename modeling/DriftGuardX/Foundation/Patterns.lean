import Mathlib.Data.List.Basic

/-!
# Patterns of classes

A pattern is a sequence of classes of characters, each repeated a number of times, and of boundaries
between words. A class takes as many characters as it can, and fewer only where the rest of the pattern
does not match otherwise; so the first match that is found is the one of a backtracking matcher. A search
goes over a text from the left, and matches do not overlap. Where nothing is found, nothing is
substituted (`substitute_of_not_search`).
-/

namespace DriftGuardX.Patterns

variable {α : Type*}

/-- A class that is repeated at least and at most some number of times, or a boundary of words. -/
inductive Item (α : Type*) where
  | repeated (cls : α → Bool) (least : ℕ) (most : Option ℕ)
  | boundary (isWord : α → Bool)

/-- Exactly some number of characters of a class. -/
def exactly (cls : α → Bool) (count : ℕ) : Item α := .repeated cls count (some count)

/-- At least one character of a class. -/
def some1 (cls : α → Bool) : Item α := .repeated cls 1 none

/-- At most one character of a class. -/
def optional (cls : α → Bool) : Item α := .repeated cls 0 (some 1)

/-- How many characters of a class a text begins with, up to a bound. -/
def available (cls : α → Bool) (most : Option ℕ) (text : List α) : ℕ :=
  match most with
  | none => (text.takeWhile cls).length
  | some bound => min bound (text.takeWhile cls).length

/-- The length of the match at the beginning of a text, with the character before it. -/
def matchLength : List (Item α) → Option α → List α → Option ℕ
  | [], _, _ => some 0
  | .boundary isWord :: items, before, text =>
    if before.any isWord ≠ text.head?.any isWord then matchLength items before text else none
  | .repeated cls least most :: items, before, text =>
    let longest := available cls most text
    ((List.range (longest + 1 - least)).map (longest - ·)).findSome? fun count ↦
      (matchLength items ((text.take count).getLast?.or before) (text.drop count)).map (count + ·)

variable (pattern : List (Item α))

/-- Whether there is a match somewhere in a text. -/
def search : Option α → List α → Bool
  | _, [] => false
  | before, c :: text => (matchLength pattern before (c :: text)).isSome || search (some c) text

/-- The substitution of all matches of a pattern that matches no empty text, after a number of
characters that belong to a match already. -/
def substitute (new : List α) : ℕ → Option α → List α → List α
  | _, _, [] => []
  | skip + 1, _, c :: text => substitute new skip (some c) text
  | 0, before, c :: text =>
    match matchLength pattern before (c :: text) with
    | none => c :: substitute new 0 (some c) text
    | some length => new ++ substitute new (length - 1) (some c) text

variable {pattern}

theorem substitute_of_not_search {new text : List α} {before : Option α}
    (h : search pattern before text = false) : substitute pattern new 0 before text = text := by
  induction text generalizing before with
  | nil => rfl
  | cons c text ih =>
    rw [search, Bool.or_eq_false_iff, Option.isSome_eq_false_iff, Option.isNone_iff_eq_none] at h
    rw [substitute, h.1, ih h.2]

end DriftGuardX.Patterns
