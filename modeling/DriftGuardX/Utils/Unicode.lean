import DriftGuardX.Foundation.CharacterReferences
import DriftGuardX.Foundation.Lines
import DriftGuardX.Foundation.PercentEncoding

/-!
# Normalised text

A text is normalised before it is searched for banned words: a bounded number of passes takes layers
of percent and character-reference encoding off, the rest is brought to a compatible, case-folded
form, look-alike letters are mapped, zero-width characters go and white space is collapsed.

The bound on the passes is what keeps a normalised text from being a fixed point. A text with more
layers than passes comes out encoded, and a second run takes the next layers off. Where no layer is
left the second run changes nothing.
-/

namespace DriftGuardX.Utils

open DriftGuardX.CharacterReferences (NameTable unescape unescape_of_notMem)
open DriftGuardX.Json (hexVal)
open DriftGuardX.Lines (isSpace)
open DriftGuardX.PercentEncoding

/-! ## The source -/

/-- What the normalisation takes from the Unicode character database and from the HTML standard. -/
structure UnicodeLibrary where
  /-- `unicodedata.normalize("NFKC", text)`. -/
  nfkc : List Char → List Char
  /-- `str.casefold`. -/
  casefold : List Char → List Char
  /-- `str.isalnum`, for one character. -/
  isAlnum : Char → Bool
  /-- `html.entities.html5`. -/
  html5 : NameTable

/-- How the normalisation fails. -/
inductive NormalizationFailure where
  | unicodeNormalizationError (message : String)
  | valueError (message : String)

variable (lib : UnicodeLibrary)

/-- One pass of the decoding loop. -/
def decodePass (prev : List Char) : Except NormalizationFailure (List Char) :=
  (unescape lib.html5 (unquote prev)).mapError .valueError

/-- The decoding loop: as many passes as it may still make, unless one changes nothing. -/
def decodeLoop : ℕ → List Char → Except NormalizationFailure (List Char)
  | 0, decoded => .ok decoded
  | passes + 1, prev => do
    let decoded ← decodePass lib prev
    if prev = decoded then return decoded else decodeLoop passes decoded

/-- `homoglyphs`: Cyrillic letters and the Latin ones they look like. -/
def homoglyphs : List (Char × Char) :=
  [(Char.ofNat 0x430, 'a'), (Char.ofNat 0x441, 'c'), (Char.ofNat 0x435, 'e'),
    (Char.ofNat 0x43E, 'o'), (Char.ofNat 0x440, 'p'), (Char.ofNat 0x445, 'x'),
    (Char.ofNat 0x443, 'y'), (Char.ofNat 0x456, 'i')]

def translate (text : List Char) : List Char :=
  text.map fun c ↦ (homoglyphs.lookup c).getD c

/-- The Unicode normalisation, the case folding and the homoglyph mapping. -/
def foldCharacters (decoded : List Char) : List Char :=
  translate (lib.casefold (lib.nfkc decoded))

def isBidiOverride (c : Char) : Bool :=
  decide ((0x202A ≤ c.toNat ∧ c.toNat ≤ 0x202E) ∨ (0x2066 ≤ c.toNat ∧ c.toNat ≤ 0x2069))

def isZeroWidth (c : Char) : Bool :=
  decide (c.toNat ∈ [0x200B, 0x200C, 0x200D, 0xFEFF])

/-- `re.sub(r"\s+", " ", text)`: the last character of each run of white space becomes the space. -/
def collapseWhitespace : List Char → List Char
  | [] => []
  | c :: rest =>
    if isSpace c then
      if rest.head?.any isSpace then collapseWhitespace rest else ' ' :: collapseWhitespace rest
    else c :: collapseWhitespace rest

/-- What is left of a text without zero-width characters and with its white space collapsed. -/
def tidy (normalized : List Char) : List Char :=
  collapseWhitespace (normalized.filter fun c ↦ !isZeroWidth c)

def lengthMessage (length : ℕ) (maxLength : ℤ) : String :=
  "Text length (" ++ toString length ++ ") exceeds maximum allowed (" ++ toString maxLength ++ ")."

def bidiMessage : String :=
  "BiDi override characters detected. Possible payload obfuscation."

/-- The default of `max_decode_passes`. -/
def defaultMaxDecodePasses : ℤ := 3

/-- The default of `max_length`. -/
def defaultMaxLength : ℤ := 500000

def secureNormalize (text : List Char) (maxDecodePasses maxLength : ℤ) :
    Except NormalizationFailure (List Char) :=
  if text = [] then .ok []
  else if maxLength < text.length then
    .error (.unicodeNormalizationError (lengthMessage text.length maxLength))
  else do
    let decoded ← decodeLoop lib maxDecodePasses.toNat text
    let normalized := foldCharacters lib decoded
    if normalized.any isBidiOverride then .error (.unicodeNormalizationError bidiMessage)
    else return tidy normalized

/-- `[^\w\s]|_`. -/
def isPunctuation (c : Char) : Bool :=
  !(lib.isAlnum c || c == '_' || isSpace c) || c == '_'

def aggressiveNormalizeForBanlist (text : List Char) (maxDecodePasses maxLength : ℤ) :
    Except NormalizationFailure (List Char) := do
  let normalized ← secureNormalize lib text maxDecodePasses maxLength
  return (normalized.filter fun c ↦ !isPunctuation lib c).filter (· ≠ ' ')

/-! ## The decoding loop -/

variable {lib} {text result decoded : List Char} {maxDecodePasses maxLength : ℤ}

/-- A number of passes, none of them left out. -/
def decodePasses (lib : UnicodeLibrary) : ℕ → List Char → Except NormalizationFailure (List Char)
  | 0, decoded => .ok decoded
  | passes + 1, prev => do
    let decoded ← decodePass lib prev
    decodePasses lib passes decoded

theorem decodePasses_of_decodePass (h : decodePass lib text = .ok text) (passes : ℕ) :
    decodePasses lib passes text = .ok text := by
  induction passes with
  | zero => rfl
  | succ passes ih => rw [decodePasses, h]; exact ih

theorem decodeLoop_eq (passes : ℕ) (text : List Char) :
    decodeLoop lib passes text = decodePasses lib passes text := by
  induction passes generalizing text with
  | zero => rfl
  | succ passes ih =>
    rw [decodeLoop, decodePasses]
    cases hpass : decodePass lib text with
    | error failure => rfl
    | ok decoded =>
      by_cases hsame : text = decoded
      · subst hsame
        have hrest := decodePasses_of_decodePass hpass passes
        simp only [bind, Except.bind, if_true, hrest]
        rfl
      · simp only [bind, Except.bind, if_neg hsame, ih]

theorem decodePass_of_escapes (hescapes : escapes text = false) (hamp : '&' ∉ text) :
    decodePass lib text = .ok text := by
  rw [decodePass, unquote_of_escapes hescapes, unescape_of_notMem _ hamp]
  rfl

theorem decodePass_percentQuoted (hamp : '&' ∉ text) :
    decodePass lib (percentQuoted text) = .ok text := by
  rw [decodePass, unquote_percentQuoted, unescape_of_notMem _ hamp]
  rfl

theorem amp_notMem_iterate (hamp : '&' ∉ text) (layers : ℕ) :
    '&' ∉ percentQuoted^[layers] text := by
  induction layers with
  | zero => exact hamp
  | succ layers ih =>
    rw [Function.iterate_succ_apply', mem_percentQuoted_iff (by decide) (by decide)]
    exact ih

theorem decodePasses_iterate (hamp : '&' ∉ text) (passes layers : ℕ) :
    decodePasses lib passes (percentQuoted^[passes + layers] text) =
      .ok (percentQuoted^[layers] text) := by
  induction passes with
  | zero => rw [Nat.zero_add, decodePasses]
  | succ passes ih =>
    rw [Nat.add_right_comm, Function.iterate_succ_apply', decodePasses,
      decodePass_percentQuoted (amp_notMem_iterate hamp _)]
    exact ih

/-! ## White space -/

theorem head?_collapseWhitespace (text : List Char) :
    (collapseWhitespace text).head? = text.head?.map fun c ↦ if isSpace c then ' ' else c := by
  fun_induction collapseWhitespace text with
  | case1 => rfl
  | case2 c rest hspace hnext ih =>
    obtain ⟨d, hd, hdspace⟩ := Option.any_eq_true _ _ |>.mp hnext
    rw [ih, hd, List.head?_cons, Option.map_some, Option.map_some, if_pos hspace, if_pos hdspace]
  | case3 c rest hspace hnext ih =>
    rw [List.head?_cons, List.head?_cons, Option.map_some, if_pos hspace]
  | case4 c rest hspace ih => rw [List.head?_cons, List.head?_cons, Option.map_some, if_neg hspace]

theorem mem_of_mem_collapseWhitespace {c : Char} (h : c ∈ collapseWhitespace text) :
    c = ' ' ∨ (c ∈ text ∧ isSpace c = false) := by
  fun_induction collapseWhitespace text with
  | case1 => cases h
  | case2 d rest hspace hnext ih => exact (ih h).imp_right (And.imp_left (List.mem_cons_of_mem d))
  | case3 d rest hspace hnext ih =>
    rcases List.mem_cons.mp h with rfl | h
    · exact .inl rfl
    · exact (ih h).imp_right (And.imp_left (List.mem_cons_of_mem d))
  | case4 d rest hspace ih =>
    rcases List.mem_cons.mp h with rfl | h
    · exact .inr ⟨List.mem_cons_self, Bool.eq_false_iff.mpr hspace⟩
    · exact (ih h).imp_right (And.imp_left (List.mem_cons_of_mem d))

/-- No two characters of white space stand side by side. -/
def SingleSpaced (text : List Char) : Prop :=
  text.IsChain fun a b ↦ isSpace a = true → isSpace b = false

theorem singleSpaced_cons {c : Char} (h : SingleSpaced text)
    (hhead : isSpace c = true → ∀ d ∈ text.head?, isSpace d = false) :
    SingleSpaced (c :: text) := by
  rw [SingleSpaced, List.isChain_cons]
  exact ⟨fun d hd hc ↦ hhead hc d hd, h⟩

theorem singleSpaced_collapseWhitespace (text : List Char) :
    SingleSpaced (collapseWhitespace text) := by
  fun_induction collapseWhitespace text with
  | case1 => exact .nil
  | case2 c rest hspace hnext ih => exact ih
  | case3 c rest hspace hnext ih =>
    refine singleSpaced_cons ih fun _ d hd ↦ ?_
    rw [head?_collapseWhitespace, Option.mem_map] at hd
    obtain ⟨e, he, rfl⟩ := hd
    have hother : isSpace e = false := by
      rw [Bool.eq_false_iff]
      exact fun hsp ↦ hnext ((Option.any_eq_true _ _).mpr ⟨e, he, hsp⟩)
    rw [if_neg (Bool.eq_false_iff.mp hother), hother]
  | case4 c rest hspace ih => exact singleSpaced_cons ih fun hc ↦ absurd hc hspace

theorem collapseWhitespace_eq_self (hspaced : SingleSpaced text)
    (hspaces : ∀ c ∈ text, isSpace c = true → c = ' ') : collapseWhitespace text = text := by
  fun_induction collapseWhitespace text with
  | case1 => rfl
  | case2 c rest hspace hnext ih =>
    obtain ⟨d, hd, hdspace⟩ := Option.any_eq_true _ _ |>.mp hnext
    have hnot := (List.isChain_cons.mp hspaced).1 d hd hspace
    rw [hnot] at hdspace
    cases hdspace
  | case3 c rest hspace hnext ih =>
    rw [ih (List.isChain_cons.mp hspaced).2 fun d hd ↦ hspaces d (List.mem_cons_of_mem c hd),
      hspaces c List.mem_cons_self hspace]
  | case4 c rest hspace ih =>
    rw [ih (List.isChain_cons.mp hspaced).2 fun d hd ↦ hspaces d (List.mem_cons_of_mem c hd)]

/-! ### Escapes and white space -/

theorem hexVal_of_isSpace {c : Char} (h : isSpace c = true) : hexVal c = none := by
  have hdigit : c.isDigit = false := by
    simp [isSpace, Char.isDigit, UInt32.le_iff_toNat_le] at h ⊢
    omega
  have hlower : ¬('a' ≤ c ∧ c ≤ 'f') := by
    simp [isSpace, Char.le_def, UInt32.le_iff_toNat_le] at h ⊢
    omega
  have hupper : ¬('A' ≤ c ∧ c ≤ 'F') := by
    simp [isSpace, Char.le_def, UInt32.le_iff_toNat_le] at h ⊢
    omega
  rw [hexVal, hdigit, if_neg Bool.false_ne_true, if_neg hlower, if_neg hupper]

theorem startsDigits_cons (c : Char) (text : List Char) :
    startsDigits (c :: text) = ((hexVal c).isSome && text.head?.any fun d ↦ (hexVal d).isSome) := by
  cases text with
  | nil => rw [startsDigits, List.head?_nil, Option.any_none, Bool.and_false]; rintro _ _ _ ⟨⟩
  | cons d rest => rfl

theorem startsDigits_collapseWhitespace (text : List Char) :
    startsDigits (collapseWhitespace text) = startsDigits text := by
  match text with
  | [] => rfl
  | c :: rest =>
    have hdigit : ∀ d, (hexVal (if isSpace d then ' ' else d)).isSome = (hexVal d).isSome := by
      intro d
      split
      · next hspace => rw [hexVal_of_isSpace hspace]; decide
      · rfl
    cases hspace : isSpace c with
    | true =>
      -- a text that starts with white space starts with no digits, before and after
      have hhead := head?_collapseWhitespace (c :: rest)
      rw [List.head?_cons, Option.map_some, if_pos hspace] at hhead
      obtain ⟨others, hothers⟩ := List.head?_eq_some_iff.mp hhead
      rw [hothers, startsDigits_cons, startsDigits_cons, hexVal_of_isSpace hspace]
      rfl
    | false =>
      rw [collapseWhitespace, if_neg (by rw [hspace]; exact Bool.false_ne_true), startsDigits_cons,
        startsDigits_cons, head?_collapseWhitespace, Option.any_map]
      simp only [hdigit]

theorem ne_percent_of_isSpace {c : Char} (h : isSpace c = true) : c ≠ '%' := by
  rintro rfl
  revert h
  decide

theorem escapes_collapseWhitespace (text : List Char) :
    escapes (collapseWhitespace text) = escapes text := by
  fun_induction collapseWhitespace text with
  | case1 => rfl
  | case2 c rest hspace hnext ih =>
    rw [ih, escapes_cons, beq_eq_false_iff_ne.mpr (ne_percent_of_isSpace hspace), Bool.false_and,
      Bool.false_or]
  | case3 c rest hspace hnext ih =>
    rw [escapes_cons, escapes_cons, ih, beq_eq_false_iff_ne.mpr (ne_percent_of_isSpace hspace),
      beq_eq_false_iff_ne.mpr (by decide : ' ' ≠ '%'), Bool.false_and, Bool.false_and]
  | case4 c rest hspace ih => rw [escapes_cons, escapes_cons, startsDigits_collapseWhitespace, ih]

/-! ## Normalised texts -/

/-- What the last two steps see to. -/
structure Tidied (text : List Char) : Prop where
  bidi : ∀ c ∈ text, isBidiOverride c = false
  zeroWidth : ∀ c ∈ text, isZeroWidth c = false
  space : ∀ c ∈ text, isSpace c = true → c = ' '
  singleSpaced : SingleSpaced text

theorem tidied_tidy (h : text.any isBidiOverride = false) : Tidied (tidy text) := by
  have hmem : ∀ c ∈ tidy text,
      c = ' ' ∨ (c ∈ text ∧ isZeroWidth c = false ∧ isSpace c = false) := by
    intro c hc
    refine (mem_of_mem_collapseWhitespace hc).imp_right fun ⟨hin, hspace⟩ ↦ ?_
    rw [List.mem_filter, Bool.not_eq_true'] at hin
    exact ⟨hin.1, hin.2, hspace⟩
  refine ⟨fun c hc ↦ ?_, fun c hc ↦ ?_, fun c hc hspace ↦ ?_, singleSpaced_collapseWhitespace _⟩
  · rcases hmem c hc with rfl | ⟨hin, -, -⟩
    · decide
    · exact Bool.eq_false_iff.mpr (List.any_eq_false.mp h c hin)
  · rcases hmem c hc with rfl | ⟨-, hzero, -⟩
    · decide
    · exact hzero
  · rcases hmem c hc with rfl | ⟨-, -, hother⟩
    · rfl
    · rw [hspace] at hother
      cases hother

theorem tidy_eq_self (h : Tidied text) : tidy text = text := by
  have hfilter : text.filter (fun c ↦ !isZeroWidth c) = text :=
    List.filter_eq_self.mpr fun c hc ↦ by rw [h.zeroWidth c hc]; rfl
  rw [tidy, hfilter, collapseWhitespace_eq_self h.singleSpaced h.space]

/-- When the normalisation succeeds, and what it returns. -/
theorem secureNormalize_eq_ok_iff :
    secureNormalize lib text maxDecodePasses maxLength = .ok result ↔ (text = [] ∧ result = []) ∨
      (text ≠ [] ∧ (text.length : ℤ) ≤ maxLength ∧
        ∃ decoded, decodePasses lib maxDecodePasses.toNat text = .ok decoded ∧
          (foldCharacters lib decoded).any isBidiOverride = false ∧
          result = tidy (foldCharacters lib decoded)) := by
  by_cases hempty : text = []
  · rw [secureNormalize, if_pos hempty, Except.ok.injEq]
    exact ⟨fun h ↦ .inl ⟨hempty, h.symm⟩, fun h ↦ h.elim (·.2.symm) (absurd hempty ·.1)⟩
  rw [secureNormalize, if_neg hempty, decodeLoop_eq]
  constructor
  · intro h
    split at h
    · cases h
    · next hlength =>
      refine .inr ⟨hempty, not_lt.mp hlength, ?_⟩
      cases hdecoded : decodePasses lib maxDecodePasses.toNat text with
      | error failure => rw [hdecoded] at h; cases h
      | ok decoded =>
        rw [hdecoded] at h
        refine ⟨decoded, rfl, ?_⟩
        cases hbidi : (foldCharacters lib decoded).any isBidiOverride with
        | true => simp only [bind, Except.bind, hbidi, if_true] at h; cases h
        | false =>
          simp only [bind, Except.bind, hbidi, Bool.false_eq_true, if_false] at h
          exact ⟨rfl, (Except.ok.inj h).symm⟩
  · rintro (⟨hnil, -⟩ | ⟨-, hlength, decoded, hdecoded, hbidi, rfl⟩)
    · exact absurd hnil hempty
    · rw [if_neg (not_lt.mpr hlength), hdecoded]
      simp only [bind, Except.bind, hbidi, Bool.false_eq_true, if_false]
      rfl

theorem tidied_of_ok (h : secureNormalize lib text maxDecodePasses maxLength = .ok result) :
    Tidied result := by
  rcases secureNormalize_eq_ok_iff.mp h with ⟨-, rfl⟩ | ⟨-, -, decoded, -, hbidi, rfl⟩
  · exact ⟨by simp, by simp, by simp, .nil⟩
  · exact tidied_tidy hbidi

/-- Nothing in a text is left to decode or to fold, and it is not too long to be normalised. -/
structure Exhausted (lib : UnicodeLibrary) (maxLength : ℤ) (text : List Char) : Prop where
  length_le : (text.length : ℤ) ≤ maxLength
  decodePass_eq : decodePass lib text = .ok text
  foldCharacters_eq : foldCharacters lib text = text

/-- A tidied text with nothing left to decode or to fold is a fixed point, however many passes the
decoding may make. -/
theorem secureNormalize_eq_self (htidied : Tidied text) (h : Exhausted lib maxLength text)
    (passes : ℤ) : secureNormalize lib text passes maxLength = .ok text := by
  rw [secureNormalize_eq_ok_iff]
  by_cases hempty : text = []
  · exact .inl ⟨hempty, hempty⟩
  refine .inr ⟨hempty, h.length_le, text, decodePasses_of_decodePass h.decodePass_eq _, ?_, ?_⟩
  · rw [h.foldCharacters_eq, List.any_eq_false]
    exact fun c hc ↦ Bool.eq_false_iff.mp (htidied.bidi c hc)
  · rw [h.foldCharacters_eq, tidy_eq_self htidied]

/-! ### ASCII texts -/

/-- What the normalisation forms and the case folding do to ASCII texts. -/
structure UnicodeLibrary.AsciiLaws (lib : UnicodeLibrary) : Prop where
  nfkc_eq : ∀ text, (∀ c ∈ text, isAscii c = true) → lib.nfkc text = text
  casefold_eq : ∀ text, (∀ c ∈ text, isAscii c = true) → lib.casefold text = text.map Char.toLower

theorem forall_ascii {P : Char → Prop} (h : ∀ n < 128, P (Char.ofNat n)) {c : Char}
    (hc : isAscii c = true) : P c := by
  have hchar := h c.toNat (of_decide_eq_true hc)
  rwa [Char.ofNat_toNat] at hchar

theorem isAscii_toLower {c : Char} (h : isAscii c = true) : isAscii c.toLower = true :=
  forall_ascii (P := fun c ↦ isAscii c.toLower = true) (by decide) h

theorem toLower_toLower {c : Char} (h : isAscii c = true) : c.toLower.toLower = c.toLower :=
  forall_ascii (P := fun c ↦ c.toLower.toLower = c.toLower) (by decide) h

theorem eq_amp_of_toLower {c : Char} (h : isAscii c = true) : c.toLower = '&' → c = '&' :=
  forall_ascii (P := fun c ↦ c.toLower = '&' → c = '&') (by decide) h

theorem toLower_digit {c : Char} (h : isAscii c = true) :
    (c.toLower == '%') = (c == '%') ∧ (hexVal c.toLower).isSome = (hexVal c).isSome :=
  forall_ascii (P := fun c ↦
    (c.toLower == '%') = (c == '%') ∧ (hexVal c.toLower).isSome = (hexVal c).isSome) (by decide) h

theorem ascii_plain {c : Char} (h : isAscii c = true) :
    homoglyphs.lookup c = none ∧ isZeroWidth c = false :=
  forall_ascii (P := fun c ↦ homoglyphs.lookup c = none ∧ isZeroWidth c = false) (by decide) h

theorem foldCharacters_ascii (laws : lib.AsciiLaws) (h : ∀ c ∈ text, isAscii c = true) :
    foldCharacters lib text = text.map Char.toLower := by
  rw [foldCharacters, laws.nfkc_eq text h, laws.casefold_eq text h, translate, List.map_map]
  refine List.map_congr_left fun c hc ↦ ?_
  rw [Function.comp_apply, (ascii_plain (isAscii_toLower (h c hc))).1, Option.getD_none]

theorem tidy_ascii (h : ∀ c ∈ text, isAscii c = true) : tidy text = collapseWhitespace text := by
  have hfilter : text.filter (fun c ↦ !isZeroWidth c) = text :=
    List.filter_eq_self.mpr fun c hc ↦ by rw [(ascii_plain (h c hc)).2]; rfl
  rw [tidy, hfilter]

/-- What comes of an ASCII text without an ampersand and without an escape has nothing left to
decode or to fold. -/
theorem exhausted_of_ascii (laws : lib.AsciiLaws) (hascii : ∀ c ∈ decoded, isAscii c = true)
    (hamp : '&' ∉ decoded) (hunquote : unquote decoded = decoded)
    (hlength : ((tidy (foldCharacters lib decoded)).length : ℤ) ≤ maxLength) :
    Exhausted lib maxLength (tidy (foldCharacters lib decoded)) := by
  have hlower : ∀ c ∈ decoded.map Char.toLower, isAscii c = true := by
    rintro _ hc
    obtain ⟨d, hd, rfl⟩ := List.mem_map.mp hc
    exact isAscii_toLower (hascii d hd)
  rw [foldCharacters_ascii laws hascii, tidy_ascii hlower] at hlength ⊢
  have hmem : ∀ c ∈ collapseWhitespace (decoded.map Char.toLower),
      c = ' ' ∨ ∃ d ∈ decoded, d.toLower = c := fun c hc ↦
    (mem_of_mem_collapseWhitespace hc).imp_right fun h ↦ List.mem_map.mp h.1
  have hresult : ∀ c ∈ collapseWhitespace (decoded.map Char.toLower), isAscii c = true := by
    intro c hc
    rcases hmem c hc with rfl | ⟨d, hd, rfl⟩
    · decide
    · exact isAscii_toLower (hascii d hd)
  refine ⟨hlength, decodePass_of_escapes ?_ fun hc ↦ ?_, ?_⟩
  · rw [escapes_collapseWhitespace, escapes_map fun c hc ↦ toLower_digit (hascii c hc)]
    exact escapes_of_unquote hascii hunquote
  · rcases hmem _ hc with h | ⟨d, hd, h⟩
    · exact absurd h (by decide)
    · exact hamp (eq_amp_of_toLower (hascii d hd) h ▸ hd)
  · rw [foldCharacters_ascii laws hresult]
    refine (List.map_congr_left fun c hc ↦ ?_).trans (List.map_id _)
    rcases hmem c hc with rfl | ⟨d, hd, rfl⟩
    · rfl
    · exact toLower_toLower (hascii d hd)

/-! ## Fixed points -/

/-- A library for ASCII texts, with the names of the characters that HTML itself escapes. -/
def asciiLibrary : UnicodeLibrary where
  nfkc text := text
  casefold text := text.map Char.toLower
  isAlnum := Char.isAlphanum
  html5 name :=
    if name ∈ [['a', 'm', 'p'], ['a', 'm', 'p', ';'], ['A', 'M', 'P'], ['A', 'M', 'P', ';']] then
      some ['&']
    else if name ∈ [['l', 't'], ['l', 't', ';'], ['L', 'T'], ['L', 'T', ';']] then some ['<']
    else if name ∈ [['g', 't'], ['g', 't', ';'], ['G', 'T'], ['G', 'T', ';']] then some ['>']
    else none

theorem asciiLaws_asciiLibrary : asciiLibrary.AsciiLaws where
  nfkc_eq _ _ := rfl
  casefold_eq _ _ := rfl

/-- Every normalised text is normalised to itself. -/
def Idempotent (lib : UnicodeLibrary) (maxDecodePasses maxLength : ℤ) : Prop :=
  ∀ text result, secureNormalize lib text maxDecodePasses maxLength = .ok result →
    secureNormalize lib result maxDecodePasses maxLength = .ok result

/-- The normalisation decodes in exactly as many passes as it may make, so a text encoded in more
layers keeps the others. It returns a tidied text, and one with nothing left to decode or to fold is
normalised to itself, to the same effect on a search for banned words. That is so whenever the
decoded text is ASCII, has no ampersand and no escape. -/
theorem secureNormalize_of_ok (laws : lib.AsciiLaws)
    (h : secureNormalize lib text maxDecodePasses maxLength = .ok result) :
    (text ≠ [] → ∃ decoded, decodePasses lib maxDecodePasses.toNat text = .ok decoded ∧
      result = tidy (foldCharacters lib decoded)) ∧
    (∀ plain layers, '&' ∉ plain → text = percentQuoted^[maxDecodePasses.toNat + layers] plain →
      decodePasses lib maxDecodePasses.toNat text = .ok (percentQuoted^[layers] plain)) ∧
    Tidied result ∧
    (Exhausted lib maxLength result → ∀ passes,
      secureNormalize lib result passes maxLength = .ok result ∧
      aggressiveNormalizeForBanlist lib result passes maxLength =
        aggressiveNormalizeForBanlist lib text maxDecodePasses maxLength) ∧
    (∀ decoded, decodePasses lib maxDecodePasses.toNat text = .ok decoded →
      (∀ c ∈ decoded, isAscii c = true) → '&' ∉ decoded → unquote decoded = decoded →
      (result.length : ℤ) ≤ maxLength → Exhausted lib maxLength result) := by
  have hok := secureNormalize_eq_ok_iff.mp h
  have htidied : Tidied result := tidied_of_ok h
  have hresult : text ≠ [] → ∃ decoded, decodePasses lib maxDecodePasses.toNat text = .ok decoded ∧
      result = tidy (foldCharacters lib decoded) := by
    intro hne
    rcases hok with ⟨hnil, -⟩ | ⟨-, -, decoded, hdecoded, -, rfl⟩
    · exact absurd hnil hne
    · exact ⟨decoded, hdecoded, rfl⟩
  refine ⟨hresult, ?_, htidied, fun hexhausted passes ↦ ?_, ?_⟩
  · rintro plain layers hamp rfl
    exact decodePasses_iterate hamp _ layers
  · have hagain := secureNormalize_eq_self htidied hexhausted passes
    exact ⟨hagain, by rw [aggressiveNormalizeForBanlist, aggressiveNormalizeForBanlist, hagain, h]⟩
  · intro decoded hdecoded hascii hamp hunquote hlength
    by_cases hne : text = []
    · rcases hok with ⟨-, rfl⟩ | ⟨hne', -⟩
      · refine ⟨hlength, decodePass_of_escapes rfl List.not_mem_nil, ?_⟩
        exact foldCharacters_ascii laws fun c hc ↦ absurd hc List.not_mem_nil
      · exact absurd hne hne'
    · obtain ⟨decoded', hdecoded', rfl⟩ := hresult hne
      obtain rfl := Except.ok.inj (hdecoded.symm.trans hdecoded')
      exact exhausted_of_ascii laws hascii hamp hunquote hlength

/-- `a%20%2520B`, with its layers taken off, folded and collapsed, is a fixed point. -/
theorem secureNormalize_of_ok_spaces :
    secureNormalize asciiLibrary ['a', '%', '2', '0', '%', '2', '5', '2', '0', 'B']
      defaultMaxDecodePasses defaultMaxLength = .ok ['a', ' ', 'b'] ∧
    secureNormalize asciiLibrary ['a', ' ', 'b'] defaultMaxDecodePasses defaultMaxLength =
      .ok ['a', ' ', 'b'] := by
  have hok : secureNormalize asciiLibrary ['a', '%', '2', '0', '%', '2', '5', '2', '0', 'B']
      defaultMaxDecodePasses defaultMaxLength = .ok ['a', ' ', 'b'] := by rfl
  obtain ⟨-, -, -, hfixed, hascii⟩ := secureNormalize_of_ok asciiLaws_asciiLibrary hok
  have hdecoded : decodePasses asciiLibrary defaultMaxDecodePasses.toNat
      ['a', '%', '2', '0', '%', '2', '5', '2', '0', 'B'] = .ok ['a', ' ', ' ', 'B'] := by rfl
  have hplain : ∀ c ∈ ['a', ' ', ' ', 'B'], isAscii c = true := by
    simp [isAscii]
  exact ⟨hok, (hfixed (hascii _ hdecoded hplain (by decide) (by rfl) (by decide)) _).1⟩

/-- `%25252541` is encoded in four layers: three come off, and a second run takes the fourth off. -/
theorem not_idempotent_fourLayers :
    ¬ Idempotent asciiLibrary defaultMaxDecodePasses defaultMaxLength := by
  intro h
  have hfirst : secureNormalize asciiLibrary ['%', '2', '5', '2', '5', '2', '5', '4', '1']
      defaultMaxDecodePasses defaultMaxLength = .ok ['%', '4', '1'] := by rfl
  have hsecond : secureNormalize asciiLibrary ['%', '4', '1'] defaultMaxDecodePasses
      defaultMaxLength = .ok ['a'] := by rfl
  have hsame := hsecond.symm.trans (h _ _ hfirst)
  exact absurd (Except.ok.inj hsame) (by decide)

end DriftGuardX.Utils
