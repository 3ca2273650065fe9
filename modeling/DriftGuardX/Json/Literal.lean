import Mathlib.Data.Nat.Digits.Defs
import Mathlib.Data.Nat.Digits.Lemmas
import Mathlib.Tactic.NormNum

/-!
# JSON literals

The atoms of a JSON text: integers, floats, the three reserved words, and the four hexadecimal
digits of a `\u` escape. An atom is read as one maximal run of atom characters and only then
classified. A scanner that matches a number and then insists on a delimiter accepts exactly the
same texts, because no delimiter is an atom character; the run is the form the round trip wants,
since a printed atom followed by a delimiter is recovered by `List.span` alone.

Floats are a parameter. Nothing here computes with them: the encoder prints the shortest text that
reads back as the same number, the decoder reads it, and `FloatText` records that law together with
the few lexical facts that keep a printed float apart from every other atom.
-/

namespace DriftGuardX.Json

/-! ## Characters -/

/-- The characters that may occur in an unquoted atom. -/
def isAtomChar (c : Char) : Bool := c.isAlphanum || c == '-' || c == '+' || c == '.'

/-- The value of a decimal digit character. -/
def digitVal (c : Char) : ℕ := c.toNat - '0'.toNat

/-- The decimal digit character of a value below ten. -/
def digitChar (d : ℕ) : Char := Char.ofNat (d + '0'.toNat)

theorem digitVal_digitChar {d : ℕ} (h : d < 10) : digitVal (digitChar d) = d := by
  interval_cases d <;> rfl

theorem isDigit_digitChar {d : ℕ} (h : d < 10) : (digitChar d).isDigit = true := by
  interval_cases d <;> rfl

theorem isAtomChar_digitChar {d : ℕ} (h : d < 10) : isAtomChar (digitChar d) = true := by
  interval_cases d <;> rfl

theorem digitChar_ne_minus {d : ℕ} (h : d < 10) : digitChar d ≠ '-' := by
  interval_cases d <;> decide

theorem digitChar_eq_zero_iff {d : ℕ} (h : d < 10) : digitChar d = '0' ↔ d = 0 := by
  interval_cases d <;> decide

/-! ## Integers -/

/-- The decimal text of a natural number. -/
def natText (n : ℕ) : List Char :=
  if n = 0 then ['0'] else ((Nat.digits 10 n).map digitChar).reverse

/-- The number an unsigned literal denotes: decimal digits without a superfluous leading zero. -/
def natOfText (cs : List Char) : Option ℕ :=
  if cs ≠ [] ∧ cs.all Char.isDigit ∧ (cs = ['0'] ∨ cs.head? ≠ some '0') then
    some (Nat.ofDigits 10 (cs.reverse.map digitVal))
  else none

/-- The decimal text of an integer. -/
def intText : ℤ → List Char
  | .ofNat n => natText n
  | .negSucc n => '-' :: natText (n + 1)

/-- The integer a literal denotes, when it is an integer literal. -/
def intOfText : List Char → Option ℤ
  | '-' :: cs => (natOfText cs).map fun n : ℕ ↦ -(n : ℤ)
  | cs => (natOfText cs).map fun n : ℕ ↦ (n : ℤ)

theorem natText_ne_nil (n : ℕ) : natText n ≠ [] := by
  rw [natText]
  split
  · simp
  · simpa using Nat.digits_ne_nil_iff_ne_zero.mpr ‹_›

theorem exists_digit_of_mem_natText {n : ℕ} {c : Char} (h : c ∈ natText n) :
    ∃ d, d < 10 ∧ c = digitChar d := by
  rw [natText] at h
  split at h
  · exact ⟨0, by omega, List.mem_singleton.mp h⟩
  · rw [List.mem_reverse, List.mem_map] at h
    obtain ⟨d, hd, rfl⟩ := h
    exact ⟨d, Nat.digits_lt_base (by omega) hd, rfl⟩

theorem head?_natText_ne_zero {n : ℕ} (h : n ≠ 0) : (natText n).head? ≠ some '0' := by
  rw [natText, if_neg h, List.head?_reverse, List.getLast?_map]
  have hne : Nat.digits 10 n ≠ [] := Nat.digits_ne_nil_iff_ne_zero.mpr h
  have hlast : (Nat.digits 10 n).getLast hne ≠ 0 := Nat.getLast_digit_ne_zero 10 h
  have hlt : (Nat.digits 10 n).getLast hne < 10 :=
    Nat.digits_lt_base (by omega) (List.getLast_mem hne)
  rw [List.getLast?_eq_some_getLast hne, Option.map_some]
  intro hc
  exact hlast ((digitChar_eq_zero_iff hlt).mp (Option.some.inj hc))

theorem ofDigits_natText (n : ℕ) :
    Nat.ofDigits 10 ((natText n).reverse.map digitVal) = n := by
  rw [natText]
  split
  · subst n; rfl
  · rw [List.reverse_reverse, List.map_map]
    have hmap : (Nat.digits 10 n).map (digitVal ∘ digitChar) = Nat.digits 10 n := by
      refine (List.map_congr_left fun d hd ↦ ?_).trans (List.map_id _)
      exact digitVal_digitChar (Nat.digits_lt_base (by omega) hd)
    rw [hmap, Nat.ofDigits_digits]

@[simp] theorem natOfText_natText (n : ℕ) : natOfText (natText n) = some n := by
  have hdigit : (natText n).all Char.isDigit = true := by
    rw [List.all_eq_true]
    intro c hc
    obtain ⟨d, hd, rfl⟩ := exists_digit_of_mem_natText hc
    exact isDigit_digitChar hd
  have hzero : natText n = ['0'] ∨ (natText n).head? ≠ some '0' := by
    by_cases h : n = 0
    · exact Or.inl (by rw [natText, if_pos h])
    · exact Or.inr (head?_natText_ne_zero h)
  rw [natOfText, if_pos ⟨natText_ne_nil n, hdigit, hzero⟩, ofDigits_natText]

theorem head?_natText_ne_minus (n : ℕ) {cs : List Char} : natText n ≠ '-' :: cs := by
  intro h
  obtain ⟨d, hd, hc⟩ := exists_digit_of_mem_natText (n := n) (c := '-') (by rw [h]; simp)
  exact digitChar_ne_minus hd hc.symm

@[simp] theorem intOfText_intText (i : ℤ) : intOfText (intText i) = some i := by
  cases i with
  | ofNat n =>
    rw [intText, intOfText.eq_def]
    split
    · exact absurd ‹_› (head?_natText_ne_minus n)
    · rw [natOfText_natText]; rfl
  | negSucc n => rw [intText, intOfText, natOfText_natText]; rfl

theorem intText_ne_nil (i : ℤ) : intText i ≠ [] := by
  cases i with
  | ofNat n => exact natText_ne_nil n
  | negSucc n => simp [intText]

theorem isAtomChar_of_mem_intText {i : ℤ} {c : Char} (h : c ∈ intText i) :
    isAtomChar c = true := by
  have hnat : ∀ n, c ∈ natText n → isAtomChar c = true := by
    intro n hn
    obtain ⟨d, hd, rfl⟩ := exists_digit_of_mem_natText hn
    exact isAtomChar_digitChar hd
  cases i with
  | ofNat n => exact hnat n h
  | negSucc n =>
    rcases List.mem_cons.mp h with rfl | h'
    · rfl
    · exact hnat _ h'

/-- The reserved words of JSON, none of which is an integer literal. -/
def reserved : List (List Char) :=
  [['n', 'u', 'l', 'l'], ['t', 'r', 'u', 'e'], ['f', 'a', 'l', 's', 'e']]

theorem intText_notMem_reserved (i : ℤ) : intText i ∉ reserved := by
  intro h
  have hnone : ∀ w ∈ reserved, intOfText w = none := by decide
  have hread := hnone _ h
  rw [intOfText_intText] at hread
  exact absurd hread (by simp)

/-! ## Floats -/

/-- What the encoder and the decoder use of a float type: the printed form, the reading of a
literal, the order that sorting asks for, and the laws that make the printed form readable. -/
class FloatText (F : Type) where
  /-- The text the encoder writes, `NaN` and the infinities included. -/
  repr : F → List Char
  /-- The number a float literal denotes, when the text is one. -/
  ofText : List Char → Option F
  /-- Comparison of two floats. -/
  lt : F → F → Bool
  /-- Comparison of a float with an integer. -/
  ltInt : F → ℤ → Bool
  /-- Comparison of an integer with a float. -/
  intLt : ℤ → F → Bool
  /-- Reading the printed form returns the number. -/
  ofText_repr : ∀ f, ofText (repr f) = some f
  /-- The printed form is not empty. -/
  repr_ne_nil : ∀ f, repr f ≠ []
  /-- The printed form is one atom. -/
  isAtomChar_of_mem_repr : ∀ f, ∀ c ∈ repr f, isAtomChar c = true
  /-- The printed form is no reserved word. -/
  repr_notMem_reserved : ∀ f, repr f ∉ reserved
  /-- The printed form is no integer literal: it has a point, an exponent or letters. -/
  intOfText_repr : ∀ f, intOfText (repr f) = none

/-! ### The whole numbers among the floats -/

/-- The floats without a fractional part, as far as they are printed with a point. -/
structure WholeFloat where
  value : ℤ
  deriving DecidableEq, Repr

theorem intOfText_eq_none_of_point_mem {cs : List Char} (h : '.' ∈ cs) : intOfText cs = none := by
  have hnat : ∀ ds : List Char, '.' ∈ ds → natOfText ds = none := by
    intro ds hds
    refine if_neg fun hc ↦ ?_
    exact absurd (List.all_eq_true.mp hc.2.1 '.' hds) (by decide)
  rw [intOfText.eq_def]
  split
  · rename_i ds
    rw [hnat ds (by simpa using h), Option.map_none]
  · rw [hnat cs h, Option.map_none]

instance : FloatText WholeFloat where
  repr f := intText f.value ++ ['.', '0']
  ofText cs :=
    match cs.reverse with
    | '0' :: '.' :: ds => (intOfText ds.reverse).map .mk
    | _ => none
  lt f g := decide (f.value < g.value)
  ltInt f i := decide (f.value < i)
  intLt i f := decide (i < f.value)
  ofText_repr f := by simp
  repr_ne_nil f := by simp
  isAtomChar_of_mem_repr f c hc := by
    rcases List.mem_append.mp hc with h | h
    · exact isAtomChar_of_mem_intText h
    · have htail : ['.', '0'].all isAtomChar = true := by decide
      exact List.all_eq_true.mp htail c h
  repr_notMem_reserved f h := by
    have hpoint : ∀ w ∈ reserved, '.' ∉ w := by decide
    exact hpoint _ h (by simp)
  intOfText_repr f := intOfText_eq_none_of_point_mem (by simp)

/-- Values without floats. -/
instance : FloatText Empty where
  repr := Empty.elim
  ofText _ := none
  lt f _ := f.elim
  ltInt f _ := f.elim
  intLt _ f := f.elim
  ofText_repr f := f.elim
  repr_ne_nil f := f.elim
  isAtomChar_of_mem_repr f := f.elim
  repr_notMem_reserved f := f.elim
  intOfText_repr f := f.elim

/-! ## Hexadecimal escapes -/

/-- The lower-case hexadecimal digit of a value below sixteen. -/
def hexChar (d : ℕ) : Char := if d < 10 then digitChar d else Char.ofNat (d - 10 + 'a'.toNat)

/-- The value of a hexadecimal digit in either case. -/
def hexVal (c : Char) : Option ℕ :=
  if c.isDigit then some (digitVal c)
  else if 'a' ≤ c ∧ c ≤ 'f' then some (c.toNat - 'a'.toNat + 10)
  else if 'A' ≤ c ∧ c ≤ 'F' then some (c.toNat - 'A'.toNat + 10)
  else none

theorem hexVal_hexChar {d : ℕ} (h : d < 16) : hexVal (hexChar d) = some d := by
  interval_cases d <;> decide

/-- The four digits of a sixteen-bit unit. -/
def hex4 (u : ℕ) : List Char :=
  [hexChar (u / 4096 % 16), hexChar (u / 256 % 16), hexChar (u / 16 % 16), hexChar (u % 16)]

/-- The unit four hexadecimal digits denote. -/
def readHex4 (a b c d : Char) : Option ℕ := do
  let w ← hexVal a
  let x ← hexVal b
  let y ← hexVal c
  let z ← hexVal d
  return w * 4096 + x * 256 + y * 16 + z

theorem readHex4_hex4 {u : ℕ} (h : u < 65536) :
    readHex4 (hexChar (u / 4096 % 16)) (hexChar (u / 256 % 16)) (hexChar (u / 16 % 16))
      (hexChar (u % 16)) = some u := by
  have hdigit : ∀ n, hexVal (hexChar (n % 16)) = some (n % 16) :=
    fun n ↦ hexVal_hexChar (Nat.mod_lt _ (by omega))
  simp only [readHex4, hdigit, Option.bind_eq_bind, Option.bind_some, Option.pure_def,
    Option.some.injEq]
  omega

end DriftGuardX.Json
