import DriftGuardX.Json.Literal

/-!
# Percent-encoded text

`urllib.parse.unquote`: each run of ASCII characters has its `%XX` escapes replaced by bytes, and
the bytes are read as UTF-8, where a sequence that is cut short or cannot go on is read as one
replacement character. A text without an escape comes back as it is, and a text whose percent signs
were escaped comes back as it was before.
-/

namespace DriftGuardX.PercentEncoding

open DriftGuardX.Json (hexVal)

variable {text run : List Char}

/-! ## UTF-8 with replacement characters -/

/-- U+FFFD. -/
def replacementChar : Char := Char.ofNat 0xFFFD

/-- A UTF-8 sequence that has begun: how many bytes follow the next one, the bounds of the next
one, and the value of the bits read so far. -/
structure Pending where
  more : ℕ
  low : ℕ
  high : ℕ
  value : ℕ

/-- What a byte at the start of a sequence yields, and the sequence it begins. -/
def firstByte (b : ℕ) : List Char × Option Pending :=
  if b ≤ 0x7F then ([Char.ofNat b], none)
  else if 0xC2 ≤ b ∧ b ≤ 0xDF then ([], some ⟨0, 0x80, 0xBF, b - 0xC0⟩)
  else if b = 0xE0 then ([], some ⟨1, 0xA0, 0xBF, 0⟩)
  else if b = 0xED then ([], some ⟨1, 0x80, 0x9F, 0xD⟩)
  else if 0xE1 ≤ b ∧ b ≤ 0xEF then ([], some ⟨1, 0x80, 0xBF, b - 0xE0⟩)
  else if b = 0xF0 then ([], some ⟨2, 0x90, 0xBF, 0⟩)
  else if 0xF1 ≤ b ∧ b ≤ 0xF3 then ([], some ⟨2, 0x80, 0xBF, b - 0xF0⟩)
  else if b = 0xF4 then ([], some ⟨2, 0x80, 0x8F, 4⟩)
  else ([replacementChar], none)

/-- `bytes.decode("utf-8", "replace")`, from inside a sequence that has begun. -/
def decodeUtf8 : Option Pending → List ℕ → List Char
  | none, [] => []
  | some _, [] => [replacementChar]
  | none, b :: rest => (firstByte b).1 ++ decodeUtf8 (firstByte b).2 rest
  | some p, b :: rest =>
    if p.low ≤ b ∧ b ≤ p.high then
      match p.more with
      | 0 => Char.ofNat (p.value * 64 + (b - 0x80)) :: decodeUtf8 none rest
      | more + 1 => decodeUtf8 (some ⟨more, 0x80, 0xBF, p.value * 64 + (b - 0x80)⟩) rest
    else
      -- the byte that does not fit is looked at again, as the start of a sequence
      replacementChar :: ((firstByte b).1 ++ decodeUtf8 (firstByte b).2 rest)

theorem length_firstByte (b : ℕ) :
    (firstByte b).1.length + (firstByte b).2.toList.length = 1 := by
  rw [firstByte]
  split_ifs <;> rfl

/-- No more characters are read than there are bytes, and one more for a sequence cut short. -/
theorem length_decodeUtf8_le (bytes : List ℕ) (p : Option Pending) :
    (decodeUtf8 p bytes).length ≤ bytes.length + p.toList.length := by
  induction bytes generalizing p with
  | nil => cases p <;> simp [decodeUtf8]
  | cons b rest ih =>
    have hfirst := length_firstByte b
    have hnext := ih (firstByte b).2
    cases p with
    | none =>
      rw [decodeUtf8, List.length_append, List.length_cons]
      simp only [Option.toList_none, List.length_nil]
      omega
    | some p =>
      simp only [decodeUtf8, Option.toList_some, List.length_cons, List.length_nil]
      split
      · split
        · have hrest := ih none
          simp only [Option.toList_none, List.length_nil] at hrest
          rw [List.length_cons]
          omega
        · exact (ih _).trans (by simp)
      · rw [List.length_cons, List.length_append]
        omega

/-- An ASCII character. -/
def isAscii (c : Char) : Bool := decide (c.toNat < 128)

theorem decodeUtf8_ascii (h : ∀ c ∈ run, isAscii c = true) :
    decodeUtf8 none (run.map Char.toNat) = run := by
  induction run with
  | nil => rfl
  | cons c rest ih =>
    have hc : c.toNat ≤ 0x7F := Nat.le_of_lt_succ (of_decide_eq_true (h c List.mem_cons_self))
    have hrest := ih fun d hd ↦ h d (List.mem_cons_of_mem c hd)
    rw [List.map_cons, decodeUtf8, firstByte, if_pos hc]
    simp only [Char.ofNat_toNat, List.cons_append, List.nil_append, hrest]

/-! ## Escapes -/

/-- The byte that three characters stand for, when they are an escape. -/
def escapedByte (c a b : Char) : Option ℕ :=
  if c = '%' then do
    let high ← hexVal a
    let low ← hexVal b
    return high * 16 + low
  else none

/-- `unquote_to_bytes` of a run of ASCII characters. The source splits the run at its percent signs
and looks at the first two characters of each item; no digit is a percent sign, so reading from left
to right finds the same escapes. -/
def unquoteToBytes : List Char → List ℕ
  | c :: a :: b :: rest =>
    match escapedByte c a b with
    | some byte => byte :: unquoteToBytes rest
    | none => c.toNat :: unquoteToBytes (a :: b :: rest)
  | run => run.map Char.toNat

/-- The ASCII run a text starts with, and each other character with the ASCII run after it. -/
def asciiRuns : List Char → List Char × List (Char × List Char)
  | [] => ([], [])
  | c :: rest =>
    if isAscii c then (c :: (asciiRuns rest).1, (asciiRuns rest).2)
    else ([], (c, (asciiRuns rest).1) :: (asciiRuns rest).2)

/-- The text that an ASCII run stands for. -/
def unquoteRun (run : List Char) : List Char :=
  decodeUtf8 none (unquoteToBytes run)

/-- `urllib.parse.unquote`. -/
def unquote (text : List Char) : List Char :=
  if '%' ∉ text then text
  else unquoteRun (asciiRuns text).1 ++ (asciiRuns text).2.flatMap fun p ↦ p.1 :: unquoteRun p.2

/-- Some percent sign is followed by two hexadecimal digits. -/
def escapes : List Char → Bool
  | c :: a :: b :: rest => (escapedByte c a b).isSome || escapes (a :: b :: rest)
  | _ => false

/-! ### Runs -/

theorem asciiRuns_cons_ascii {c : Char} (h : isAscii c = true) :
    asciiRuns (c :: text) = (c :: (asciiRuns text).1, (asciiRuns text).2) := by
  rw [asciiRuns, if_pos h]

theorem asciiRuns_cons_other {c : Char} (h : isAscii c = false) :
    asciiRuns (c :: text) = ([], (c, (asciiRuns text).1) :: (asciiRuns text).2) := by
  rw [asciiRuns, if_neg (by rw [h]; exact Bool.false_ne_true)]

theorem isAscii_of_mem_asciiRuns :
    (∀ c ∈ (asciiRuns text).1, isAscii c = true) ∧
      ∀ p ∈ (asciiRuns text).2, ∀ c ∈ p.2, isAscii c = true := by
  induction text with
  | nil => exact ⟨fun c hc ↦ absurd hc List.not_mem_nil, fun p hp ↦ absurd hp List.not_mem_nil⟩
  | cons d rest ih =>
    cases hd : isAscii d with
    | true =>
      rw [asciiRuns_cons_ascii hd]
      refine ⟨fun c hc ↦ ?_, ih.2⟩
      rcases List.mem_cons.mp hc with rfl | hc
      · exact hd
      · exact ih.1 c hc
    | false =>
      rw [asciiRuns_cons_other hd]
      refine ⟨fun c hc ↦ absurd hc List.not_mem_nil, fun p hp ↦ ?_⟩
      rcases List.mem_cons.mp hp with rfl | hp
      · exact ih.1
      · exact ih.2 p hp

theorem asciiRuns_append (text : List Char) :
    (asciiRuns text).1 ++ (asciiRuns text).2.flatMap (fun p ↦ p.1 :: p.2) = text := by
  induction text with
  | nil => rfl
  | cons d rest ih =>
    cases hd : isAscii d with
    | true =>
      rw [asciiRuns_cons_ascii hd, List.cons_append, ih]
    | false =>
      rw [asciiRuns_cons_other hd, List.nil_append, List.flatMap_cons, List.cons_append, ih]

theorem asciiRuns_of_ascii (h : ∀ c ∈ text, isAscii c = true) : asciiRuns text = (text, []) := by
  induction text with
  | nil => rfl
  | cons c rest ih =>
    rw [asciiRuns_cons_ascii (h c List.mem_cons_self),
      ih fun d hd ↦ h d (List.mem_cons_of_mem c hd)]

theorem unquote_eq_self (hfirst : unquoteRun (asciiRuns text).1 = (asciiRuns text).1)
    (hmore : ∀ p ∈ (asciiRuns text).2, unquoteRun p.2 = p.2) : unquote text = text := by
  rw [unquote]
  split
  · rfl
  · have hflat : (asciiRuns text).2.flatMap (fun p ↦ p.1 :: unquoteRun p.2) =
        (asciiRuns text).2.flatMap fun p ↦ p.1 :: p.2 :=
      List.flatMap_congr fun p hp ↦ by rw [hmore p hp]
    rw [hfirst, hflat, asciiRuns_append]

/-! ### Texts without an escape -/

theorem escapes_of_cons {c : Char} (h : escapes (c :: text) = false) : escapes text = false := by
  match text with
  | [] => rfl
  | [_] => rfl
  | a :: b :: rest =>
    rw [escapes, Bool.or_eq_false_iff] at h
    exact h.2

theorem escapes_of_part {part : List Char} (hpart : part <:+: text) (h : escapes text = false) :
    escapes part = false := by
  obtain ⟨before, after, rfl⟩ := hpart
  rw [List.append_assoc] at h
  induction before with
  | cons c before ih => exact ih (escapes_of_cons h)
  | nil =>
    rw [List.nil_append] at h
    fun_induction escapes part with
    | case1 c a b rest ih =>
      have htail : escapes ((a :: b :: rest) ++ after) = false := escapes_of_cons h
      rw [List.cons_append, List.cons_append, List.cons_append, escapes,
        Bool.or_eq_false_iff] at h
      rw [h.1, ih htail, Bool.false_or]
    | case2 => rfl

theorem unquoteToBytes_of_escapes (h : escapes run = false) :
    unquoteToBytes run = run.map Char.toNat := by
  fun_induction unquoteToBytes run with
  | case1 c a b rest byte hbyte ih =>
    rw [escapes, hbyte] at h
    exact absurd h (by simp)
  | case2 c a b rest hnone ih => rw [ih (escapes_of_cons h), ← List.map_cons]
  | case3 => rfl

theorem unquoteRun_of_escapes (hascii : ∀ c ∈ run, isAscii c = true) (h : escapes run = false) :
    unquoteRun run = run := by
  rw [unquoteRun, unquoteToBytes_of_escapes h, decodeUtf8_ascii hascii]

theorem unquote_of_escapes (h : escapes text = false) : unquote text = text := by
  have hwhole := asciiRuns_append text
  refine unquote_eq_self ?_ fun p hp ↦ ?_
  · refine unquoteRun_of_escapes isAscii_of_mem_asciiRuns.1 (escapes_of_part ?_ h)
    exact ⟨[], (asciiRuns text).2.flatMap fun p ↦ p.1 :: p.2, by rw [List.nil_append, hwhole]⟩
  · refine unquoteRun_of_escapes (isAscii_of_mem_asciiRuns.2 p hp) (escapes_of_part ?_ h)
    obtain ⟨before, after, hsplit⟩ := List.append_of_mem hp
    refine ⟨(asciiRuns text).1 ++ before.flatMap (fun p ↦ p.1 :: p.2) ++ [p.1],
      after.flatMap fun p ↦ p.1 :: p.2, ?_⟩
    calc (asciiRuns text).1 ++ before.flatMap (fun p ↦ p.1 :: p.2) ++ [p.1] ++ p.2 ++
          after.flatMap (fun p ↦ p.1 :: p.2)
        = (asciiRuns text).1 ++ (asciiRuns text).2.flatMap (fun p ↦ p.1 :: p.2) := by
          rw [hsplit, List.flatMap_append, List.flatMap_cons]
          simp
      _ = text := hwhole

theorem length_unquoteToBytes (run : List Char) :
    (unquoteToBytes run).length ≤ run.length ∧
      (escapes run = true → (unquoteToBytes run).length < run.length) := by
  fun_induction unquoteToBytes run with
  | case1 c a b rest byte hbyte ih =>
    have hle := ih.1
    simp only [List.length_cons]
    omega
  | case2 c a b rest hnone ih =>
    refine ⟨Nat.succ_le_succ ih.1, fun hesc ↦ Nat.succ_lt_succ (ih.2 ?_)⟩
    rwa [escapes, hnone, Option.isSome_none, Bool.false_or] at hesc
  | case3 run hshort =>
    refine ⟨(List.length_map _).le, fun hesc ↦ ?_⟩
    match run, hshort with
    | c :: a :: b :: rest, hshort => exact absurd rfl (hshort c a b rest)

theorem percent_mem_of_escapes (h : escapes text = true) : '%' ∈ text := by
  fun_induction escapes text with
  | case1 c a b rest ih =>
    rcases Bool.or_eq_true_iff.mp h with hhere | hlater
    · by_cases hc : c = '%'
      · exact hc ▸ List.mem_cons_self
      · rw [escapedByte, if_neg hc] at hhere
        cases hhere
    · exact List.mem_cons_of_mem c (ih hlater)
  | case2 => cases h

theorem escapes_of_unquote (hascii : ∀ c ∈ text, isAscii c = true) (h : unquote text = text) :
    escapes text = false := by
  by_contra hesc
  rw [Bool.not_eq_false] at hesc
  have hshort := (length_unquoteToBytes text).2 hesc
  have hread := length_decodeUtf8_le (unquoteToBytes text) none
  rw [unquote, if_neg (not_not_intro (percent_mem_of_escapes hesc)), asciiRuns_of_ascii hascii,
    List.flatMap_nil, List.append_nil] at h
  rw [← unquoteRun, h, Option.toList_none, List.length_nil, Nat.add_zero] at hread
  omega

/-- Two hexadecimal digits come first. -/
def startsDigits : List Char → Bool
  | a :: b :: _ => (hexVal a).isSome && (hexVal b).isSome
  | _ => false

theorem isSome_escapedByte (c a b : Char) :
    (escapedByte c a b).isSome = (c == '%' && ((hexVal a).isSome && (hexVal b).isSome)) := by
  by_cases hc : c = '%'
  · subst hc
    cases ha : hexVal a with
    | none => simp [escapedByte, ha]
    | some high =>
      cases hb : hexVal b with
      | none => simp [escapedByte, ha, hb]
      | some low => simp [escapedByte, ha, hb]
  · simp [escapedByte, hc]

theorem escapes_cons (c : Char) (text : List Char) :
    escapes (c :: text) = (c == '%' && startsDigits text || escapes text) := by
  match text with
  | [] => simp [escapes, startsDigits]
  | [_] => simp [escapes, startsDigits]
  | a :: b :: rest => rw [escapes, isSome_escapedByte, startsDigits]

/-- Replacing characters so that digits stay digits and percent signs stay percent signs makes no
escape and takes none away. -/
theorem escapes_map {f : Char → Char}
    (hf : ∀ c ∈ text, (f c == '%') = (c == '%') ∧ (hexVal (f c)).isSome = (hexVal c).isSome) :
    escapes (text.map f) = escapes text := by
  induction text with
  | nil => rfl
  | cons c rest ih =>
    have hrest : ∀ d ∈ rest,
        (f d == '%') = (d == '%') ∧ (hexVal (f d)).isSome = (hexVal d).isSome :=
      fun d hd ↦ hf d (List.mem_cons_of_mem c hd)
    have hdigits : startsDigits (rest.map f) = startsDigits rest := by
      match rest, hrest with
      | [], _ => rfl
      | [_], _ => rfl
      | a :: b :: _, hrest =>
        simp only [List.map_cons, startsDigits, (hrest a (by simp)).2, (hrest b (by simp)).2]
    rw [List.map_cons, escapes_cons, escapes_cons, (hf c List.mem_cons_self).1, hdigits, ih hrest]

/-! ### One layer of encoding -/

/-- The text with its percent signs escaped. -/
def percentQuoted (text : List Char) : List Char :=
  text.flatMap fun c ↦ if c = '%' then ['%', '2', '5'] else [c]

@[simp] theorem percentQuoted_nil : percentQuoted [] = [] := rfl

theorem percentQuoted_percent :
    percentQuoted ('%' :: text) = '%' :: '2' :: '5' :: percentQuoted text := rfl

theorem percentQuoted_cons {c : Char} (h : c ≠ '%') :
    percentQuoted (c :: text) = c :: percentQuoted text := by
  rw [percentQuoted, List.flatMap_cons, if_neg h, List.singleton_append, ← percentQuoted]

theorem mem_percentQuoted_iff {c : Char} (h₂ : c ≠ '2') (h₅ : c ≠ '5') :
    c ∈ percentQuoted text ↔ c ∈ text := by
  rw [percentQuoted, List.mem_flatMap]
  constructor
  · rintro ⟨d, hd, hc⟩
    split at hc
    · next hpercent =>
      rcases List.mem_cons.mp hc with rfl | hc
      · exact hpercent ▸ hd
      · simp [h₂, h₅] at hc
    · exact List.mem_singleton.mp hc ▸ hd
  · intro hc
    refine ⟨c, hc, ?_⟩
    split
    · next hpercent => exact hpercent ▸ List.mem_cons_self
    · exact List.mem_singleton_self c

theorem asciiRuns_percentQuoted (text : List Char) :
    asciiRuns (percentQuoted text) =
      (percentQuoted (asciiRuns text).1,
        (asciiRuns text).2.map fun p ↦ (p.1, percentQuoted p.2)) := by
  induction text with
  | nil => rfl
  | cons c rest ih =>
    by_cases hc : c = '%'
    · subst hc
      rw [percentQuoted_percent, asciiRuns_cons_ascii rfl, asciiRuns_cons_ascii rfl,
        asciiRuns_cons_ascii rfl, asciiRuns_cons_ascii rfl, ih,
        percentQuoted_percent]
    · rw [percentQuoted_cons hc]
      cases hd : isAscii c with
      | true => rw [asciiRuns_cons_ascii hd, asciiRuns_cons_ascii hd, ih, percentQuoted_cons hc]
      | false => rw [asciiRuns_cons_other hd, asciiRuns_cons_other hd, ih]; rfl

theorem unquoteToBytes_cons {c : Char} (h : c ≠ '%') :
    unquoteToBytes (c :: run) = c.toNat :: unquoteToBytes run := by
  match run with
  | [] => rfl
  | [_] => rfl
  | a :: b :: rest => rw [unquoteToBytes, escapedByte, if_neg h]

theorem unquoteToBytes_percentQuoted (run : List Char) :
    unquoteToBytes (percentQuoted run) = run.map Char.toNat := by
  induction run with
  | nil => rfl
  | cons c rest ih =>
    by_cases hc : c = '%'
    · subst hc
      have hbyte : escapedByte '%' '2' '5' = some '%'.toNat := by decide
      rw [percentQuoted_percent, unquoteToBytes, hbyte, ih, List.map_cons]
    · rw [percentQuoted_cons hc, unquoteToBytes_cons hc, ih, List.map_cons]

theorem unquoteRun_percentQuoted (h : ∀ c ∈ run, isAscii c = true) :
    unquoteRun (percentQuoted run) = run := by
  rw [unquoteRun, unquoteToBytes_percentQuoted, decodeUtf8_ascii h]

theorem percentQuoted_eq_self (h : '%' ∉ text) : percentQuoted text = text := by
  induction text with
  | nil => rfl
  | cons c rest ih =>
    rw [List.mem_cons, not_or] at h
    rw [percentQuoted_cons (Ne.symm h.1), ih h.2]

theorem unquote_percentQuoted (text : List Char) : unquote (percentQuoted text) = text := by
  by_cases hpercent : '%' ∈ text
  · have hquoted : '%' ∈ percentQuoted text :=
      (mem_percentQuoted_iff (by decide) (by decide)).mpr hpercent
    have hflat : (asciiRuns text).2.flatMap (fun p ↦ p.1 :: unquoteRun (percentQuoted p.2)) =
        (asciiRuns text).2.flatMap fun p ↦ p.1 :: p.2 :=
      List.flatMap_congr fun p hp ↦ by
        rw [unquoteRun_percentQuoted (isAscii_of_mem_asciiRuns.2 p hp)]
    rw [unquote, if_neg (not_not_intro hquoted), asciiRuns_percentQuoted, List.flatMap_map, hflat,
      unquoteRun_percentQuoted isAscii_of_mem_asciiRuns.1, asciiRuns_append]
  · rw [percentQuoted_eq_self hpercent, unquote, if_pos hpercent]

end DriftGuardX.PercentEncoding
