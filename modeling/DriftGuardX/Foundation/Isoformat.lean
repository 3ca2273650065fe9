import DriftGuardX.Foundation.Calendar
import DriftGuardX.Foundation.Datetime

/-!
# Reading and normalising times

A time whose date is in the calendar, its instant in microseconds, and the time in UTC of an instant.
An instant is read off as the time it came from (`fromInstant_instant`), and the text of a time with
all its microseconds is read back by `fromisoformat` (`fromisoformat_zulu`).
-/

namespace DriftGuardX

open Json Calendar

/-! ## Times of the calendar -/

/-- A time whose date is in the calendar. -/
structure CalendarDatetime extends Datetime where
  isDate : IsDate year month day

/-- A time in UTC. -/
structure UtcDatetime extends CalendarDatetime where
  utc : utcoffset = some 0

theorem UtcDatetime.ext_fields {d e : UtcDatetime} (h : d.toDatetime = e.toDatetime) : d = e := by
  obtain ⟨⟨d, _⟩, _⟩ := d
  obtain ⟨⟨e, _⟩, _⟩ := e
  obtain rfl : d = e := h
  rfl

namespace CalendarDatetime

/-- A time from its components, which have to be in their ranges. -/
def ofComponents (year month day hour minute second microsecond : ℕ) (utcoffset : Option ℤ) :
    Option CalendarDatetime :=
  if h : IsDate year month day ∧ hour < 24 ∧ minute < 60 ∧ second < 60 ∧ microsecond < 1000000 ∧
      ∀ offset ∈ utcoffset, offset.natAbs < 86400000000 then
    some {
      year, month, day, hour, minute, second, microsecond, utcoffset
      year_le := h.1.year_le
      month_le := h.1.month_le
      day_le := h.1.day_le.trans (daysInMonth_le _ _)
      hour_lt := h.2.1
      minute_lt := h.2.2.1
      second_lt := h.2.2.2.1
      microsecond_lt := h.2.2.2.2.1
      utcoffset_lt := h.2.2.2.2.2
      isDate := h.1 }
  else none

theorem ofComponents_self (d : CalendarDatetime) :
    ofComponents d.year d.month d.day d.hour d.minute d.second d.microsecond d.utcoffset = some d :=
  dif_pos ⟨d.isDate, d.hour_lt, d.minute_lt, d.second_lt, d.microsecond_lt, d.utcoffset_lt⟩

/-- The microseconds up to a time, on its own clock. -/
def localMicroseconds (d : CalendarDatetime) : ℕ :=
  ymd2ord d.year d.month d.day * 86400000000 + d.hour * 3600000000 + d.minute * 60000000
    + d.second * 1000000 + d.microsecond

/-- The microseconds up to a time, in UTC. -/
def instant (d : CalendarDatetime) : ℤ := d.localMicroseconds - d.utcoffset.getD 0

end CalendarDatetime

namespace UtcDatetime

/-- The time in UTC of an instant, which may be outside the calendar. -/
def fromInstant (t : ℤ) : Option UtcDatetime :=
  if h : 1 ≤ (t / 86400000000).toNat ∧ (t / 86400000000).toNat ≤ maxOrdinal then
    some {
      year := (ord2ymd (t / 86400000000).toNat).1
      month := (ord2ymd (t / 86400000000).toNat).2.1
      day := (ord2ymd (t / 86400000000).toNat).2.2
      hour := (t % 86400000000).toNat / 3600000000
      minute := (t % 86400000000).toNat / 60000000 % 60
      second := (t % 86400000000).toNat / 1000000 % 60
      microsecond := (t % 86400000000).toNat % 1000000
      utcoffset := some 0
      year_le := (ymd2ord_ord2ymd h.1 h.2).1.year_le
      month_le := (ymd2ord_ord2ymd h.1 h.2).1.month_le
      day_le := (ymd2ord_ord2ymd h.1 h.2).1.day_le.trans (daysInMonth_le _ _)
      hour_lt := by omega
      minute_lt := by omega
      second_lt := by omega
      microsecond_lt := by omega
      utcoffset_lt := Datetime.utcoffset_utc
      isDate := (ymd2ord_ord2ymd h.1 h.2).1
      utc := rfl }
  else none

theorem instant_of_fromInstant {t : ℤ} {d : UtcDatetime} (h : fromInstant t = some d) :
    d.instant = t := by
  rw [fromInstant] at h
  split_ifs at h with hrange
  obtain rfl := Option.some.inj h
  have hord := (ymd2ord_ord2ymd hrange.1 hrange.2).2
  simp only [CalendarDatetime.instant, CalendarDatetime.localMicroseconds, hord,
    Option.getD_some]
  omega

/-- **A time in UTC is normalised to itself.** -/
theorem fromInstant_instant (d : UtcDatetime) : fromInstant d.instant = some d := by
  have hour := d.hour_lt
  have minute := d.minute_lt
  have second := d.second_lt
  have microsecond := d.microsecond_lt
  have hinstant : d.instant = d.localMicroseconds := by
    rw [CalendarDatetime.instant, d.utc, Option.getD_some, sub_zero]
  obtain ⟨rest, hrest⟩ : ∃ rest, d.hour * 3600000000 + d.minute * 60000000 + d.second * 1000000
      + d.microsecond = rest := ⟨_, rfl⟩
  have hlocal : d.localMicroseconds = ymd2ord d.year d.month d.day * 86400000000 + rest := by
    rw [← hrest, ← Nat.add_assoc, ← Nat.add_assoc, ← Nat.add_assoc]
    rfl
  have hday : (d.instant / 86400000000).toNat = ymd2ord d.year d.month d.day := by
    rw [hinstant, hlocal]
    omega
  have htime : (d.instant % 86400000000).toNat = rest := by
    rw [hinstant, hlocal]
    omega
  have hdate := ord2ymd_ymd2ord d.isDate
  rw [fromInstant, dif_pos (by rw [hday]; exact ⟨ymd2ord_pos d.isDate, ymd2ord_le d.isDate⟩)]
  apply congrArg some
  apply ext_fields
  apply Datetime.ext
  · simp only [hday, hdate]
  · simp only [hday, hdate]
  · simp only [hday, hdate]
  · simp only [htime]
    omega
  · simp only [htime]
    omega
  · simp only [htime]
    omega
  · simp only [htime]
    omega
  · exact d.utc.symm

end UtcDatetime

/-! ## Writing -/

/-- The fields of a time up to its microseconds. -/
def timeText (d : Datetime) : List Char :=
  padded 2 d.hour ++ ':' :: (padded 2 d.minute ++ ':' :: (padded 2 d.second
    ++ '.' :: padded 6 d.microsecond))

/-- The date of a time. -/
def dateText (d : Datetime) : List Char :=
  padded 4 d.year ++ '-' :: (padded 2 d.month ++ '-' :: padded 2 d.day)

/-- `isoformat(timespec="microseconds")`. -/
def isoformatMicroseconds (d : Datetime) : List Char :=
  dateText d ++ 'T' :: (timeText d ++ Datetime.offsetText d.utcoffset)

/-- `replace` from a position that may still be inside a replaced text. -/
def replaceFrom (old new : List Char) : ℕ → List Char → List Char
  | _, [] => []
  | skip + 1, _ :: cs => replaceFrom old new skip cs
  | 0, c :: cs =>
    if old.isPrefixOf (c :: cs) then new ++ replaceFrom old new (old.length - 1) cs
    else c :: replaceFrom old new 0 cs

/-- `str.replace` of a text that is not empty. -/
def replaceText (old new s : List Char) : List Char := replaceFrom old new 0 s

theorem replaceFrom_self (old new s : List Char) : replaceFrom old new s.length s = [] := by
  induction s with
  | nil => rfl
  | cons c s ih => rw [List.length_cons, replaceFrom, ih]

theorem replaceText_append {c : Char} {old new s : List Char} (hs : c ∉ s) :
    replaceText (c :: old) new (s ++ c :: old) = s ++ new := by
  induction s with
  | nil =>
    rw [List.nil_append, replaceText, replaceFrom, if_pos (List.isPrefixOf_iff_prefix.mpr
      List.prefix_rfl), List.length_cons, Nat.add_sub_cancel, replaceFrom_self, List.append_nil,
      List.nil_append]
  | cons d s ih =>
    have hne : ¬ (c :: old).isPrefixOf (d :: (s ++ c :: old)) = true := by
      rw [List.isPrefixOf_iff_prefix, List.cons_prefix_cons]
      rintro ⟨rfl, -⟩
      exact hs List.mem_cons_self
    rw [List.cons_append, replaceText, replaceFrom, if_neg hne, ← replaceText,
      ih fun hmem ↦ hs (List.mem_cons_of_mem d hmem), List.cons_append]

/-! ## Reading -/

/-- A number of exactly so many digits, and what follows it. -/
def readDigits (k : ℕ) (cs : List Char) : Option (ℕ × List Char) :=
  if (cs.take k).length = k ∧ (cs.take k).all Char.isDigit then
    some ((cs.take k).foldl (fun n c ↦ n * 10 + digitVal c) 0, cs.drop k)
  else none

/-- The length of the date in a text of at least seven characters. -/
def separatorLocation (s : List Char) : Option ℕ :=
  if s.length = 7 then some 7
  else if s[4]? = some '-' then
    if s[5]? = some 'W' then
      if s[8]? = some '-' then
        if s.length = 9 then none
        -- a digit here makes the hyphen the separator
        else if s[10]?.any Char.isDigit then some 8
        else some 10
      else some 8
    else some 10
  else if s[4]? = some 'W' then
    let stop := 7 + ((s.drop 7).takeWhile Char.isDigit).length
    if stop < 9 then some stop
    else if stop % 2 = 0 then some 7
    else some 8
  else some 8

/-- The date of a day of an ISO week. -/
def isoWeekDate (year week day : ℕ) : Option (ℕ × ℕ × ℕ) :=
  let first := ymd2ord year 1 1
  let weeks := if first % 7 = 4 ∨ first % 7 = 3 ∧ isLeap year = true then 53 else 52
  if 1 ≤ year ∧ year ≤ 9999 ∧ 1 ≤ week ∧ week ≤ weeks ∧ 1 ≤ day ∧ day ≤ 7 then
    -- the first week is the one with the first Thursday
    let monday := first + (if 3 < (first + 6) % 7 then 7 else 0) - (first + 6) % 7
    some (ord2ymd (monday + (week - 1) * 7 + (day - 1)))
  else none

/-- The date of `YYYY-MM-DD`, `YYYYMMDD` or a week of a year. -/
def readDate (s : List Char) : Option (ℕ × ℕ × ℕ) := do
  let (year, rest) ← readDigits 4 s
  let dash := rest.head? = some '-'
  let rest := if dash then rest.tail else rest
  if rest.head? = some 'W' then
    let (week, rest) ← readDigits 2 rest.tail
    if rest = [] then isoWeekDate year week 1
    else if (rest.head? = some '-') = dash then
      let (day, rest) ← readDigits 1 (if dash then rest.tail else rest)
      if rest = [] then isoWeekDate year week day else none
    else none
  else
    let (month, rest) ← readDigits 2 rest
    if (rest.head? = some '-') = dash then
      let (day, rest) ← readDigits 2 (if dash then rest.tail else rest)
      if rest = [] then some (year, month, day) else none
    else none

/-- The microseconds of a fraction of a second, of which six digits count. -/
def readFraction : List Char → Option ℕ
  | [] => some 0
  | c :: ds =>
    if (c = '.' ∨ c = ',') ∧ ds ≠ [] ∧ ds.all Char.isDigit then
      some ((ds.take 6).foldl (fun n c ↦ n * 10 + digitVal c) 0 * 10 ^ (6 - ds.length))
    else none

/-- Whether a component of a time is the last one: nothing or a fraction of a second follows it. -/
def endsTime (rest : List Char) : Bool :=
  rest = [] || rest.head? = some '.' || rest.head? = some ','

/-- The hours, minutes, seconds and microseconds of `HH[:MM[:SS[.ffffff]]]`, with or without the
colons. -/
def readTime (s : List Char) : Option (ℕ × ℕ × ℕ × ℕ) := do
  let (hour, rest) ← readDigits 2 s
  if endsTime rest then return (hour, 0, 0, ← readFraction rest)
  else
    let colon := rest.head? = some ':'
    let (minute, rest) ← readDigits 2 (if colon then rest.tail else rest)
    if endsTime rest then return (hour, minute, 0, ← readFraction rest)
    else if colon ∧ rest.head? ≠ some ':' then none
    else
      let (second, rest) ← readDigits 2 (if colon then rest.tail else rest)
      return (hour, minute, second, ← readFraction rest)

/-- An offset from UTC: absent, `Z`, or a time with a sign. -/
def readOffset (s : List Char) : Option (Option ℤ) :=
  if s = [] then some none
  else if s.head? = some 'Z' then if s = ['Z'] then some (some 0) else none
  else do
    let (hour, minute, second, microsecond) ← readTime s.tail
    let offset : ℤ := hour * 3600000000 + minute * 60000000 + second * 1000000 + microsecond
    some (some (if s.head? = some '-' then -offset else offset))

/-- `datetime.fromisoformat`; nothing where it raises. -/
def fromisoformat (s : List Char) : Option CalendarDatetime := do
  if s.length < 7 then none
  else
    let k ← separatorLocation s
    let (year, month, day) ← readDate (s.take k)
    if s.length ≤ k then CalendarDatetime.ofComponents year month day 0 0 0 0 none
    else
      let isTime := fun c ↦ decide (c ∉ ['+', '-', 'Z'])
      let (hour, minute, second, microsecond) ← readTime ((s.drop (k + 1)).takeWhile isTime)
      let utcoffset ← readOffset ((s.drop (k + 1)).dropWhile isTime)
      CalendarDatetime.ofComponents year month day hour minute second microsecond utcoffset

/-! ## The round trip -/

section RoundTrip

variable {k n : ℕ} {rest : List Char}

theorem foldl_padded (k n : ℕ) :
    (padded k n).foldl (fun n c ↦ n * 10 + digitVal c) 0 = n % 10 ^ k := by
  induction k generalizing n with
  | zero => rw [pow_zero, Nat.mod_one, padded, List.foldl_nil]
  | succ k ih =>
    have hdigit := digitVal_digitChar (Nat.mod_lt n (by decide : 10 > 0))
    rw [padded, List.foldl_append, ih, List.foldl_cons, List.foldl_nil, hdigit, pow_succ',
      Nat.mod_mul]
    omega

theorem readDigits_padded (h : n < 10 ^ k) : readDigits k (padded k n ++ rest) = some (n, rest) := by
  have htake : (padded k n ++ rest).take k = padded k n := List.take_left' length_padded
  have hdrop : (padded k n ++ rest).drop k = rest := List.drop_left' length_padded
  have hall : (padded k n).all Char.isDigit = true :=
    List.all_eq_true.mpr fun _ hc ↦ isDigit_of_mem_padded hc
  rw [readDigits, htake, hdrop, if_pos ⟨length_padded, hall⟩, foldl_padded, Nat.mod_eq_of_lt h]

theorem readDigits_padded_nil (h : n < 10 ^ k) : readDigits k (padded k n) = some (n, []) := by
  rw [← List.append_nil (padded k n)]
  exact readDigits_padded h

theorem head?_padded_ne {c : Char} (hc : c.isDigit = false) :
    (padded (k + 1) n ++ rest).head? ≠ some c := by
  obtain ⟨d, ds, hds⟩ : ∃ d ds, padded (k + 1) n = d :: ds := by
    apply List.exists_cons_of_length_pos
    rw [length_padded]
    exact Nat.succ_pos k
  have hdigit : d.isDigit = true := isDigit_of_mem_padded (by rw [hds]; exact List.mem_cons_self)
  rw [hds, List.cons_append, List.head?_cons]
  rintro ⟨⟩
  exact absurd hc (by rw [hdigit]; decide)

theorem length_dateText (d : Datetime) : (dateText d).length = 10 := by
  simp [dateText, length_padded]

theorem length_timeText (d : Datetime) : (timeText d).length = 15 := by
  simp [timeText, length_padded]

theorem readDate_dateText (d : Datetime) :
    readDate (dateText d) = some (d.year, d.month, d.day) := by
  have hyear : d.year < 10 ^ 4 := Nat.lt_succ_of_le d.year_le
  have hmonth : d.month < 10 ^ 2 := d.month_le.trans_lt (by decide)
  have hday : d.day < 10 ^ 2 := d.day_le.trans_lt (by decide)
  have hnotWeek : (padded 2 d.month ++ '-' :: padded 2 d.day).head? ≠ some 'W' :=
    head?_padded_ne (by decide)
  simp only [readDate, dateText, readDigits_padded hyear, Option.bind_eq_bind, Option.bind_some,
    List.head?_cons, if_true, List.tail_cons, if_neg hnotWeek,
    readDigits_padded hmonth, readDigits_padded_nil hday]

theorem readTime_timeText (d : Datetime) :
    readTime (timeText d) = some (d.hour, d.minute, d.second, d.microsecond) := by
  have hhour : d.hour < 10 ^ 2 := d.hour_lt.trans (by decide)
  have hminute : d.minute < 10 ^ 2 := d.minute_lt.trans (by decide)
  have hsecond : d.second < 10 ^ 2 := d.second_lt.trans (by decide)
  have hmicrosecond : d.microsecond % 10 ^ 6 = d.microsecond := Nat.mod_eq_of_lt d.microsecond_lt
  have hfraction : readFraction ('.' :: padded 6 d.microsecond) = some d.microsecond := by
    have hall : (padded 6 d.microsecond).all Char.isDigit = true :=
      List.all_eq_true.mpr fun _ hc ↦ isDigit_of_mem_padded hc
    have hne : padded 6 d.microsecond ≠ [] := List.ne_nil_of_length_pos (by simp [length_padded])
    have htake : (padded 6 d.microsecond).take 6 = padded 6 d.microsecond :=
      List.take_of_length_le (by rw [length_padded])
    rw [readFraction, if_pos ⟨.inl rfl, hne, hall⟩, htake, foldl_padded, hmicrosecond, length_padded,
      Nat.sub_self, pow_zero, Nat.mul_one]
  have hcolon : ∀ cs, endsTime (':' :: cs) = false := fun _ ↦ rfl
  simp only [readTime, timeText, readDigits_padded hhour, Option.bind_eq_bind, Option.bind_some,
    hcolon, List.head?_cons, if_true, List.tail_cons, readDigits_padded hminute,
    readDigits_padded hsecond, hfraction]
  rfl

theorem notMem_padded {c : Char} (hc : c.isDigit = false) : c ∉ padded k n := fun hmem ↦
  absurd (isDigit_of_mem_padded hmem) (by rw [hc]; decide)

/-- A character that is neither a digit nor a separator of times is not in the text of a time. -/
theorem notMem_timeText {c : Char} (hc : c.isDigit = false) (hcolon : c ≠ ':') (hpoint : c ≠ '.')
    (d : Datetime) : c ∉ timeText d := by
  simp [timeText, notMem_padded hc, hcolon, hpoint]

theorem plus_notMem (d : Datetime) : '+' ∉ dateText d ++ 'T' :: timeText d := by
  have hdigit : ('+' : Char).isDigit = false := by decide
  simp [dateText, notMem_padded hdigit, notMem_timeText hdigit]

theorem isoformatMicroseconds_utc (d : UtcDatetime) :
    replaceText ['+', '0', '0', ':', '0', '0'] ['Z'] (isoformatMicroseconds d.toDatetime)
      = dateText d.toDatetime ++ 'T' :: (timeText d.toDatetime ++ ['Z']) := by
  have hoffset : Datetime.offsetText (some 0) = ['+', '0', '0', ':', '0', '0'] := by decide
  have happend : ∀ tail, dateText d.toDatetime ++ 'T' :: (timeText d.toDatetime ++ tail)
      = (dateText d.toDatetime ++ 'T' :: timeText d.toDatetime) ++ tail := by simp
  rw [isoformatMicroseconds, d.utc, hoffset, happend, replaceText_append (plus_notMem _), happend]

theorem separatorLocation_dateText (d : Datetime) (tail : List Char) (htail : 8 ≤ tail.length) :
    separatorLocation (dateText d ++ tail) = some 10 := by
  have hlength : (dateText d ++ tail).length ≠ 7 := by
    rw [List.length_append, length_dateText]
    omega
  have hdash : (dateText d ++ tail)[4]? = some '-' := by
    rw [dateText, List.append_assoc, List.getElem?_append_right (by rw [length_padded]),
      length_padded]
    rfl
  have hnotWeek : (dateText d ++ tail)[5]? ≠ some 'W' := by
    rw [dateText, List.append_assoc, List.getElem?_append_right (by rw [length_padded]; decide),
      length_padded, List.cons_append, List.getElem?_cons_succ, List.append_assoc,
      ← List.head?_eq_getElem?]
    exact head?_padded_ne (by decide)
  rw [separatorLocation, if_neg hlength, if_pos hdash, if_neg hnotWeek]

/-- **A time in UTC is read back from its text with microseconds and a `Z`.** -/
theorem fromisoformat_zulu (d : UtcDatetime) :
    fromisoformat (replaceText ['+', '0', '0', ':', '0', '0'] ['Z']
      (isoformatMicroseconds d.toDatetime)) = some d.toCalendarDatetime := by
  have hlocation := separatorLocation_dateText d.toDatetime
    ('T' :: (timeText d.toDatetime ++ ['Z'])) (by simp [length_timeText])
  have hlength : (dateText d.toDatetime ++ 'T' :: (timeText d.toDatetime ++ ['Z'])).length = 27 := by
    simp [length_dateText, length_timeText]
  have hdate : (dateText d.toDatetime ++ 'T' :: (timeText d.toDatetime ++ ['Z'])).take 10
      = dateText d.toDatetime := List.take_left' (length_dateText _)
  have hrest : (dateText d.toDatetime ++ 'T' :: (timeText d.toDatetime ++ ['Z'])).drop 11
      = timeText d.toDatetime ++ ['Z'] := by
    rw [List.append_cons]
    exact List.drop_left' (by simp [length_dateText])
  -- neither a sign nor a `Z` is in the time, so the offset starts after it
  have htime : ∀ c ∈ timeText d.toDatetime, decide (c ∉ ['+', '-', 'Z']) = true := by
    intro c hc
    rw [decide_eq_true_eq]
    intro hmem
    simp only [List.mem_cons, List.not_mem_nil, or_false] at hmem
    obtain rfl | rfl | rfl := hmem
    · exact notMem_timeText (by decide) (by decide) (by decide) _ hc
    · exact notMem_timeText (by decide) (by decide) (by decide) _ hc
    · exact notMem_timeText (by decide) (by decide) (by decide) _ hc
  have htake : (timeText d.toDatetime ++ ['Z']).takeWhile (fun c ↦ decide (c ∉ ['+', '-', 'Z']))
      = timeText d.toDatetime := by
    rw [List.takeWhile_append_of_pos htime]
    exact List.append_nil _
  have hdrop : (timeText d.toDatetime ++ ['Z']).dropWhile (fun c ↦ decide (c ∉ ['+', '-', 'Z']))
      = ['Z'] := List.dropWhile_append_of_pos htime
  have hoffset : readOffset ['Z'] = some (some 0) := by decide
  have hself := d.ofComponents_self
  rw [d.utc] at hself
  rw [isoformatMicroseconds_utc]
  simp only [fromisoformat, hlength, hlocation, hdate, hrest, htake, hdrop, Option.bind_eq_bind,
    Option.bind_some, readDate_dateText, readTime_timeText, hoffset, hself]
  rw [if_neg (by decide), if_neg (by decide)]

end RoundTrip

end DriftGuardX
