import DriftGuardX.Json.Literal
import Mathlib.Algebra.Order.Group.Unbundled.Int
import Mathlib.Tactic.IntervalCases

/-!
# Times and their texts

A `datetime` with or without an offset from UTC, and `isoformat`. The fields have fixed widths; the
fraction of a second, the offset and the seconds of the offset are left out where they are zero or
absent, and each starts with a character of its own. So the text determines the time
(`Datetime.isoformat_injective`).
-/

namespace DriftGuardX

open Json

/-! ## Numbers of a fixed width -/

/-- A number with leading zeros. -/
def padded : ℕ → ℕ → List Char
  | 0, _ => []
  | k + 1, n => padded k (n / 10) ++ [digitChar (n % 10)]

section Padded

variable {k m n : ℕ} {c : Char} {r s : List Char}

theorem length_padded : (padded k n).length = k := by
  induction k generalizing n with
  | zero => rfl
  | succ k ih => rw [padded, List.length_append, ih, List.length_singleton]

theorem isDigit_of_mem_padded (h : c ∈ padded k n) : c.isDigit = true := by
  induction k generalizing n with
  | zero => exact absurd h List.not_mem_nil
  | succ k ih =>
    obtain hmem | hmem := List.mem_append.mp h
    · exact ih hmem
    · rw [List.mem_singleton.mp hmem]
      exact isDigit_digitChar (Nat.mod_lt n (by decide))

theorem padded_injective (hm : m < 10 ^ k) (hn : n < 10 ^ k) (h : padded k m = padded k n) :
    m = n := by
  induction k generalizing m n with
  | zero => omega
  | succ k ih =>
    obtain ⟨hinit, hlast⟩ := List.append_inj' h rfl
    have hdigit : m % 10 = n % 10 := by
      have hval := congrArg digitVal (List.cons.inj hlast).1
      rwa [digitVal_digitChar (Nat.mod_lt m (by decide)),
        digitVal_digitChar (Nat.mod_lt n (by decide))] at hval
    have hrest : m / 10 = n / 10 := by
      apply ih _ _ hinit
      all_goals rw [pow_succ] at hm hn; omega
    omega

theorem padded_append_inj (hm : m < 10 ^ k) (hn : n < 10 ^ k)
    (h : padded k m ++ r = padded k n ++ s) : m = n ∧ r = s := by
  obtain ⟨hnumber, hrest⟩ := List.append_inj h (by rw [length_padded, length_padded])
  exact ⟨padded_injective hm hn hnumber, hrest⟩

end Padded

/-! ## The text of a time -/

/-- A time of a calendar day, and the offset from UTC in microseconds if it has a time zone. -/
@[ext] structure Datetime where
  year : ℕ
  month : ℕ
  day : ℕ
  hour : ℕ
  minute : ℕ
  second : ℕ
  microsecond : ℕ
  utcoffset : Option ℤ
  year_le : year ≤ 9999
  month_le : month ≤ 12
  day_le : day ≤ 31
  hour_lt : hour < 24
  minute_lt : minute < 60
  second_lt : second < 60
  microsecond_lt : microsecond < 1000000
  utcoffset_lt : ∀ offset ∈ utcoffset, offset.natAbs < 86400000000
  deriving DecidableEq

namespace Datetime

theorem utcoffset_utc : ∀ offset ∈ (some 0 : Option ℤ), offset.natAbs < 86400000000 := by
  intro offset hoffset
  rw [← Option.some.inj hoffset]
  decide

/-- The fraction of a second, unless it is zero. -/
def fractionText (microsecond : ℕ) : List Char :=
  if microsecond = 0 then [] else '.' :: padded 6 microsecond

/-- The seconds of an offset, unless they are zero. -/
def secondsText (microseconds : ℕ) : List Char :=
  if microseconds = 0 then []
  else ':' :: (padded 2 (microseconds / 1000000) ++ fractionText (microseconds % 1000000))

/-- An offset in hours, minutes and seconds. -/
def offsetText : Option ℤ → List Char
  | none => []
  | some offset =>
    (if offset < 0 then '-' else '+') :: (padded 2 (offset.natAbs / 3600000000)
      ++ ':' :: (padded 2 (offset.natAbs / 60000000 % 60)
        ++ secondsText (offset.natAbs % 60000000)))

/-- `isoformat`. -/
def isoformat (d : Datetime) : List Char :=
  padded 4 d.year ++ '-' :: (padded 2 d.month ++ '-' :: (padded 2 d.day ++ 'T' ::
    (padded 2 d.hour ++ ':' :: (padded 2 d.minute ++ ':' :: (padded 2 d.second
      ++ (fractionText d.microsecond ++ offsetText d.utcoffset))))))

section Injective

variable {m n : ℕ} {r s : List Char}

theorem fractionText_append_inj (hm : m < 1000000) (hn : n < 1000000) (hr : r.head? ≠ some '.')
    (hs : s.head? ≠ some '.') (h : fractionText m ++ r = fractionText n ++ s) : m = n ∧ r = s := by
  rw [fractionText, fractionText] at h
  split_ifs at h with hzero hzero' hzero'
  · exact ⟨hzero.trans hzero'.symm, h⟩
  · exact absurd (congrArg List.head? h) hr
  · exact absurd (congrArg List.head? h).symm hs
  · exact padded_append_inj hm hn (List.cons.inj h).2

theorem fractionText_injective (hm : m < 1000000) (hn : n < 1000000)
    (h : fractionText m = fractionText n) : m = n := by
  have hnil : ([] : List Char).head? ≠ some '.' := by simp
  apply (fractionText_append_inj hm hn hnil hnil _).1
  rw [List.append_nil, List.append_nil, h]

theorem secondsText_injective (hm : m < 60000000) (hn : n < 60000000)
    (h : secondsText m = secondsText n) : m = n := by
  rw [secondsText, secondsText] at h
  split_ifs at h with hzero hzero'
  · exact hzero.trans hzero'.symm
  · obtain ⟨hseconds, hfraction⟩ := padded_append_inj (by omega) (by omega) (List.cons.inj h).2
    have hrest := fractionText_injective (Nat.mod_lt m (by decide)) (Nat.mod_lt n (by decide))
      hfraction
    omega

theorem offsetText_injective {a b : Option ℤ} (ha : ∀ offset ∈ a, offset.natAbs < 86400000000)
    (hb : ∀ offset ∈ b, offset.natAbs < 86400000000) (h : offsetText a = offsetText b) : a = b := by
  match a, b with
  | none, none => rfl
  | none, some b => exact absurd h (by simp [offsetText])
  | some a, none => exact absurd h (by simp [offsetText])
  | some a, some b =>
    have ha := ha a rfl
    have hb := hb b rfl
    obtain ⟨hsign, htail⟩ := List.cons.inj h
    obtain ⟨hhours, htail⟩ := padded_append_inj (by omega) (by omega) htail
    obtain ⟨hminutes, htail⟩ := padded_append_inj (by omega) (by omega) (List.cons.inj htail).2
    have hseconds := secondsText_injective (Nat.mod_lt _ (by decide)) (Nat.mod_lt _ (by decide)) htail
    have habs : a.natAbs = b.natAbs := by omega
    have hiff : a < 0 ↔ b < 0 := by
      split_ifs at hsign with h₁ h₂ h₂
      · exact iff_of_true h₁ h₂
      · exact absurd hsign (by decide)
      · exact absurd hsign (by decide)
      · exact iff_of_false h₁ h₂
    exact congrArg some (by omega)

theorem head?_offsetText (offset : Option ℤ) : (offsetText offset).head? ≠ some '.' := by
  cases offset with
  | none => simp [offsetText]
  | some offset =>
    rw [offsetText]
    split_ifs <;> simp

theorem isoformat_injective : Function.Injective isoformat := by
  intro d e h
  have hd := d.year_le
  have he := e.year_le
  have hd' := d.month_le
  have he' := e.month_le
  have := d.day_le; have := e.day_le
  have := d.hour_lt; have := e.hour_lt
  have := d.minute_lt; have := e.minute_lt
  have := d.second_lt; have := e.second_lt
  obtain ⟨hyear, h⟩ := padded_append_inj (by omega) (by omega) h
  obtain ⟨hmonth, h⟩ := padded_append_inj (by omega) (by omega) (List.cons.inj h).2
  obtain ⟨hday, h⟩ := padded_append_inj (by omega) (by omega) (List.cons.inj h).2
  obtain ⟨hhour, h⟩ := padded_append_inj (by omega) (by omega) (List.cons.inj h).2
  obtain ⟨hminute, h⟩ := padded_append_inj (by omega) (by omega) (List.cons.inj h).2
  obtain ⟨hsecond, h⟩ := padded_append_inj (by omega) (by omega) (List.cons.inj h).2
  obtain ⟨hmicrosecond, h⟩ := fractionText_append_inj d.microsecond_lt e.microsecond_lt
    (head?_offsetText _) (head?_offsetText _) h
  have hoffset := offsetText_injective d.utcoffset_lt e.utcoffset_lt h
  exact Datetime.ext hyear hmonth hday hhour hminute hsecond hmicrosecond hoffset

example : isoformat ⟨1999, 2, 13, 3, 4, 5, 60, some (-5400000000), by decide, by decide, by decide,
    by decide, by decide, by decide, by decide, by decide⟩
      = "1999-02-13T03:04:05.000060-01:30".toList := by decide

end Injective

/-! ## The characters of the text -/

/-- The characters that a time is written with. -/
def IsTimeChar (c : Char) : Prop := c.isDigit = true ∨ c ∈ ['-', 'T', ':', '.', '+']

theorem forall_mem_padded (k n : ℕ) : ∀ c ∈ padded k n, IsTimeChar c :=
  fun _ hc ↦ .inl (isDigit_of_mem_padded hc)

theorem forall_mem_fractionText (n : ℕ) : ∀ c ∈ fractionText n, IsTimeChar c := by
  rw [fractionText]
  split_ifs
  · exact List.forall_mem_nil _
  · exact List.forall_mem_cons.mpr ⟨.inr (by decide), forall_mem_padded _ _⟩

theorem forall_mem_offsetText (offset : Option ℤ) : ∀ c ∈ offsetText offset, IsTimeChar c := by
  cases offset with
  | none => exact List.forall_mem_nil _
  | some offset =>
    have hsign : IsTimeChar (if offset < 0 then '-' else '+') := by
      split_ifs <;> exact .inr (by decide)
    have hseconds : ∀ c ∈ secondsText (offset.natAbs % 60000000), IsTimeChar c := by
      rw [secondsText]
      split_ifs
      · exact List.forall_mem_nil _
      · exact List.forall_mem_cons.mpr ⟨.inr (by decide), List.forall_mem_append.mpr
          ⟨forall_mem_padded _ _, forall_mem_fractionText _⟩⟩
    have hcolon : IsTimeChar ':' := .inr (by decide)
    exact List.forall_mem_cons.mpr ⟨hsign, List.forall_mem_append.mpr ⟨forall_mem_padded _ _,
      List.forall_mem_cons.mpr ⟨hcolon, List.forall_mem_append.mpr
        ⟨forall_mem_padded _ _, hseconds⟩⟩⟩⟩

theorem forall_mem_isoformat (d : Datetime) : ∀ c ∈ d.isoformat, IsTimeChar c := by
  have hfield : ∀ {k n : ℕ} {c : Char} {rest : List Char}, IsTimeChar c →
      (∀ c ∈ rest, IsTimeChar c) → ∀ d ∈ padded k n ++ c :: rest, IsTimeChar d :=
    fun hc hrest ↦ List.forall_mem_append.mpr
      ⟨forall_mem_padded _ _, List.forall_mem_cons.mpr ⟨hc, hrest⟩⟩
  refine hfield (.inr (by decide)) (hfield (.inr (by decide)) (hfield (.inr (by decide))
    (hfield (.inr (by decide)) (hfield (.inr (by decide)) ?_))))
  exact List.forall_mem_append.mpr ⟨forall_mem_padded _ _, List.forall_mem_append.mpr
    ⟨forall_mem_fractionText _, forall_mem_offsetText _⟩⟩

theorem notMem_isoformat {c : Char} (hc : ¬ IsTimeChar c) (d : Datetime) : c ∉ d.isoformat :=
  fun h ↦ hc (d.forall_mem_isoformat c h)

end Datetime

end DriftGuardX
