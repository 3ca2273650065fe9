import DriftGuardX.Json.RoundTrip

/-!
# JSON text

Printing and reading. The printer has the two options the encoder exposes: whether characters
beyond printable ASCII are escaped, and whether separators carry a space. The reader accepts every
JSON text, with its optional white space and both ways of writing a character.

An escaped character beyond the basic plane is written as two surrogate units, so a string is read
in two passes: first into units, then into characters. A unit that is half of a pair and stands
alone has no character here and is refused; a decoder that keeps it produces a string that no UTF-8
encoder accepts.

`parse_render` is the round trip, for both options at once, and `render_injective` follows from it:
the text determines the document, which is what makes a digest of the text commit to the value.
-/

namespace DriftGuardX.Json

variable {F : Type}

/-- A JSON text, as its characters. -/
abbrev Text := List Char

/-! ## Strings -/

/-- The characters with a two-character escape. -/
def shortEscape (c : Char) : Option Char :=
  if c = '\x22' then some '\x22'
  else if c = '\x5c' then some '\x5c'
  else if c = '\x0a' then some 'n'
  else if c = '\x0d' then some 'r'
  else if c = '\x09' then some 't'
  else if c = '\x0c' then some 'f'
  else if c = '\x08' then some 'b'
  else none

/-- The character a two-character escape denotes. -/
def shortUnescape (e : Char) : Option Char :=
  if e = '\x22' then some '\x22'
  else if e = '\x5c' then some '\x5c'
  else if e = '/' then some '/'
  else if e = 'n' then some '\x0a'
  else if e = 'r' then some '\x0d'
  else if e = 't' then some '\x09'
  else if e = 'f' then some '\x0c'
  else if e = 'b' then some '\x08'
  else none

/-- The sixteen-bit units of a character. -/
def units (c : Char) : List ℕ :=
  if c.toNat < 65536 then [c.toNat]
  else [55296 + (c.toNat - 65536) / 1024, 56320 + (c.toNat - 65536) % 1024]

/-- Whether a character without a short escape is written with `\u`. -/
def needsHex (ascii : Bool) (c : Char) : Bool :=
  decide (c.toNat < 32) || (ascii && decide (126 < c.toNat))

def hexEscape (u : ℕ) : List Char := '\x5c' :: 'u' :: hex4 u

def escapeChar (ascii : Bool) (c : Char) : List Char :=
  match shortEscape c with
  | some e => ['\x5c', e]
  | none => if needsHex ascii c then (units c).flatMap hexEscape else [c]

def escapeString (ascii : Bool) (s : List Char) : List Char := s.flatMap (escapeChar ascii)

/-- Reading up to the closing quote, into units. -/
def scanUnits : List Char → Option (List ℕ × List Char)
  | [] => none
  | '\x22' :: cs => some ([], cs)
  | '\x5c' :: 'u' :: a :: b :: c :: d :: cs =>
    (readHex4 a b c d).bind fun u ↦ (scanUnits cs).map fun p ↦ (u :: p.1, p.2)
  | '\x5c' :: e :: cs =>
    (shortUnescape e).bind fun c ↦ (scanUnits cs).map fun p ↦ (c.toNat :: p.1, p.2)
  | c :: cs => if c.toNat < 32 then none else (scanUnits cs).map fun p ↦ (c.toNat :: p.1, p.2)

def isHighUnit (u : ℕ) : Bool := decide (55296 ≤ u) && decide (u < 56320)

def isLowUnit (u : ℕ) : Bool := decide (56320 ≤ u) && decide (u < 57344)

/-- Units to characters, joining surrogate pairs and refusing single halves. -/
def joinUnits : List ℕ → Option (List Char)
  | [] => some []
  | [u] => if isHighUnit u || isLowUnit u then none else some [Char.ofNat u]
  | u :: v :: us =>
    if isHighUnit u then
      if isLowUnit v then
        (joinUnits us).map (Char.ofNat (65536 + (u - 55296) * 1024 + (v - 56320)) :: ·)
      else none
    else if isLowUnit u then none
    else (joinUnits (v :: us)).map (Char.ofNat u :: ·)

/-- A string after its opening quote. -/
def parseString (cs : List Char) : Option (String × List Char) :=
  (scanUnits cs).bind fun p ↦ (joinUnits p.1).map fun s ↦ (String.ofList s, p.2)

/-- What the scanner makes of an escaped character. -/
def scanned (ascii : Bool) (c : Char) : List ℕ :=
  if (shortEscape c).isNone && needsHex ascii c then units c else [c.toNat]

theorem shortUnescape_shortEscape {c e : Char} (h : shortEscape c = some e) :
    e ≠ 'u' ∧ shortUnescape e = some c := by
  unfold shortEscape at h
  split_ifs at h with h1 h2 h3 h4 h5 h6 h7
  all_goals
    rw [Option.some_inj] at h
    subst h
    subst_vars
    exact ⟨by decide, by decide⟩

theorem scanUnits_hexEscape {u : ℕ} (hu : u < 65536) (cs : List Char) :
    scanUnits (hexEscape u ++ cs) = (scanUnits cs).map fun p ↦ (u :: p.1, p.2) := by
  rw [hexEscape, hex4, List.cons_append, List.cons_append, List.cons_append, List.cons_append,
    List.cons_append, List.cons_append, List.nil_append, scanUnits, readHex4_hex4 hu,
    Option.bind_some]

theorem lt_of_mem_units {c : Char} {u : ℕ} (h : u ∈ units c) : u < 65536 := by
  have hc : c.toNat < 1114112 := by
    have := c.valid
    rw [UInt32.isValidChar, Nat.isValidChar] at this
    rw [Char.toNat]
    omega
  rw [units] at h
  split at h
  · rw [List.mem_singleton] at h
    omega
  · simp only [List.mem_cons, List.not_mem_nil, or_false] at h
    omega

theorem scanUnits_flatMap_hexEscape {us : List ℕ} (h : ∀ u ∈ us, u < 65536) (cs : List Char) :
    scanUnits (us.flatMap hexEscape ++ cs) = (scanUnits cs).map fun p ↦ (us ++ p.1, p.2) := by
  induction us with
  | nil => simp
  | cons u us ih =>
    rw [List.flatMap_cons, List.append_assoc, scanUnits_hexEscape (h u List.mem_cons_self),
      ih fun v hv ↦ h v (List.mem_cons_of_mem u hv), Option.map_map]
    rfl

theorem scanUnits_escapeChar (ascii : Bool) (c : Char) (cs : List Char) :
    scanUnits (escapeChar ascii c ++ cs)
      = (scanUnits cs).map fun p ↦ (scanned ascii c ++ p.1, p.2) := by
  rw [escapeChar, scanned]
  cases h : shortEscape c with
  | some e =>
    obtain ⟨hu, he⟩ := shortUnescape_shortEscape h
    simp only [Option.isNone_some, Bool.false_and, Bool.false_eq_true, if_false]
    rw [List.cons_append, List.cons_append, List.nil_append, scanUnits, he, Option.bind_some]
    · rfl
    · rintro _ _ _ _ _ rfl -
      exact hu rfl
  -- no short escape: a hex escape, or the character itself
  | none =>
    have hq : c ≠ '\x22' := by rintro rfl; exact absurd h (by decide)
    have hb : c ≠ '\x5c' := by rintro rfl; exact absurd h (by decide)
    simp only [Option.isNone_none, Bool.true_and]
    split
    · exact scanUnits_flatMap_hexEscape (fun u hu ↦ lt_of_mem_units hu) cs
    · rename_i hex
      have hge : ¬ c.toNat < 32 := by
        intro hlt
        exact hex (by simp [needsHex, hlt])
      rw [List.singleton_append, scanUnits, if_neg hge]
      · rfl
      all_goals simp_all

theorem joinUnits_cons {u : ℕ} (hh : isHighUnit u = false) (hl : isLowUnit u = false)
    (us : List ℕ) : joinUnits (u :: us) = (joinUnits us).map (Char.ofNat u :: ·) := by
  cases us with
  | nil => simp [joinUnits, hh, hl]
  | cons v us => simp [joinUnits, hh, hl]

theorem not_surrogate (c : Char) : isHighUnit c.toNat = false ∧ isLowUnit c.toNat = false := by
  have := c.valid
  rw [UInt32.isValidChar, Nat.isValidChar] at this
  simp only [isHighUnit, isLowUnit, Char.toNat, Bool.and_eq_false_iff, decide_eq_false_iff_not]
  omega

theorem joinUnits_units (c : Char) (us : List ℕ) :
    joinUnits (units c ++ us) = (joinUnits us).map (c :: ·) := by
  rw [units]
  split
  · rw [List.singleton_append, joinUnits_cons (not_surrogate c).1 (not_surrogate c).2,
      Char.ofNat_toNat]
  -- outside the basic plane: the two surrogates are put together again
  · have hc : c.toNat < 1114112 := by
      have := c.valid
      rw [UInt32.isValidChar, Nat.isValidChar] at this
      rw [Char.toNat]
      omega
    have hhigh : isHighUnit (55296 + (c.toNat - 65536) / 1024) = true := by
      simp only [isHighUnit, Bool.and_eq_true, decide_eq_true_eq]
      omega
    have hlow : isLowUnit (56320 + (c.toNat - 65536) % 1024) = true := by
      simp only [isLowUnit, Bool.and_eq_true, decide_eq_true_eq]
      omega
    have hsum : 65536 + (55296 + (c.toNat - 65536) / 1024 - 55296) * 1024
        + (56320 + (c.toNat - 65536) % 1024 - 56320) = c.toNat := by omega
    rw [List.cons_append, List.cons_append, List.nil_append, joinUnits, if_pos hhigh, if_pos hlow,
      hsum, Char.ofNat_toNat]

theorem joinUnits_scanned (ascii : Bool) (c : Char) (us : List ℕ) :
    joinUnits (scanned ascii c ++ us) = (joinUnits us).map (c :: ·) := by
  rw [scanned]
  split
  · exact joinUnits_units c us
  · rw [List.singleton_append, joinUnits_cons (not_surrogate c).1 (not_surrogate c).2,
      Char.ofNat_toNat]

theorem scanUnits_escapeString (ascii : Bool) (s cs : List Char) :
    scanUnits (escapeString ascii s ++ '\x22' :: cs) = some (s.flatMap (scanned ascii), cs) := by
  induction s with
  | nil => rw [escapeString, List.flatMap_nil, List.nil_append, scanUnits, List.flatMap_nil]
  | cons c s ih =>
    rw [escapeString, List.flatMap_cons, List.append_assoc, scanUnits_escapeChar, ← escapeString,
      ih, Option.map_some, List.flatMap_cons]

theorem joinUnits_flatMap_scanned (ascii : Bool) (s : List Char) :
    joinUnits (s.flatMap (scanned ascii)) = some s := by
  induction s with
  | nil => rfl
  | cons c s ih => rw [List.flatMap_cons, joinUnits_scanned, ih, Option.map_some]

@[simp] theorem parseString_escapeString (ascii : Bool) (s : String) (cs : List Char) :
    parseString (escapeString ascii s.toList ++ '\x22' :: cs) = some (s, cs) := by
  rw [parseString, scanUnits_escapeString, Option.bind_some, joinUnits_flatMap_scanned,
    Option.map_some, String.ofList_toList]

/-! ## Atoms -/

section Texts

variable [FloatText F]

/-- The text of a scalar other than a string. -/
def atomText : Scalar F → List Char
  | .null => ['n', 'u', 'l', 'l']
  | .bool true => ['t', 'r', 'u', 'e']
  | .bool false => ['f', 'a', 'l', 's', 'e']
  | .int i => intText i
  | .float f => FloatText.repr f
  | .str _ => []

def atomOfText (cs : List Char) : Option (Scalar F) :=
  if cs = ['n', 'u', 'l', 'l'] then some .null
  else if cs = ['t', 'r', 'u', 'e'] then some (.bool true)
  else if cs = ['f', 'a', 'l', 's', 'e'] then some (.bool false)
  else
    match intOfText cs with
    | some i => some (.int i)
    | none => (FloatText.ofText cs).map .float

def Scalar.isStr : Scalar F → Bool
  | .str _ => true
  | _ => false

theorem atomOfText_of_notMem_reserved {cs : List Char} (h : cs ∉ reserved) :
    atomOfText (F := F) cs
      = match intOfText cs with
        | some i => some (.int i)
        | none => (FloatText.ofText cs).map .float := by
  simp only [reserved, List.mem_cons, List.not_mem_nil, or_false, not_or] at h
  rw [atomOfText, if_neg h.1, if_neg h.2.1, if_neg h.2.2]

theorem atomOfText_atomText {a : Scalar F} (h : a.isStr = false) :
    atomOfText (atomText a) = some a := by
  cases a with
  | null => rfl
  | bool b => cases b <;> rfl
  | int i =>
    rw [atomText, atomOfText_of_notMem_reserved (intText_notMem_reserved i), intOfText_intText]
  | float f =>
    rw [atomText, atomOfText_of_notMem_reserved (FloatText.repr_notMem_reserved f),
      FloatText.intOfText_repr, FloatText.ofText_repr]
    rfl
  | str s => exact absurd h (by simp [Scalar.isStr])

theorem isAtomChar_of_mem_atomText {a : Scalar F} {c : Char} (h : c ∈ atomText a) :
    isAtomChar c = true := by
  have hall : reserved.all (·.all isAtomChar) = true := by decide
  have hword : ∀ w ∈ reserved, ∀ c ∈ w, isAtomChar c = true := fun w hw ↦
    List.all_eq_true.mp (List.all_eq_true.mp hall w hw)
  cases a with
  | null => exact hword _ (by simp [reserved, atomText]) c h
  | bool b => cases b <;> exact hword _ (by simp [reserved, atomText]) c h
  | int i => exact isAtomChar_of_mem_intText h
  | float f => exact FloatText.isAtomChar_of_mem_repr f c h
  | str s => exact absurd h List.not_mem_nil

theorem atomText_ne_nil {a : Scalar F} (h : a.isStr = false) : atomText a ≠ [] := by
  cases a with
  | null => simp [atomText]
  | bool b => cases b <;> simp [atomText]
  | int i => exact intText_ne_nil i
  | float f => exact FloatText.repr_ne_nil f
  | str s => exact absurd h (by simp [Scalar.isStr])

/-! ## Printing -/

/-- The options of the encoder: `ensure_ascii`, and separators without spaces. -/
structure Style where
  /-- Escape every character beyond printable ASCII. -/
  ascii : Bool
  /-- Write `,` and `:` without a following space. -/
  compact : Bool

def Style.itemSep (st : Style) : List Char := if st.compact then [','] else [',', ' ']

def Style.keySep (st : Style) : List Char := if st.compact then [':'] else [':', ' ']

def stringText (st : Style) (s : String) : List Char :=
  '\x22' :: (escapeString st.ascii s.toList ++ ['\x22'])

def scalarText (st : Style) : Scalar F → List Char
  | .str s => stringText st s
  | a => atomText a

mutual

/-- The text of a document. -/
def render (st : Style) : Doc F → List Char
  | .scalar a => scalarText st a
  | .arr [] => ['[', ']']
  | .arr (d :: ds) => '[' :: (render st d ++ renderItems st ds)
  | .obj [] => ['\x7b', '\x7d']
  | .obj ((k, d) :: ms) =>
    '\x7b' :: (stringText st k ++ (st.keySep ++ (render st d ++ renderMembers st ms)))

/-- The items of an array after the first, with the closing bracket. -/
def renderItems (st : Style) : List (Doc F) → List Char
  | [] => [']']
  | d :: ds => st.itemSep ++ (render st d ++ renderItems st ds)

/-- The members of an object after the first, with the closing brace. -/
def renderMembers (st : Style) : List (String × Doc F) → List Char
  | [] => ['\x7d']
  | (k, d) :: ms =>
    st.itemSep ++ (stringText st k ++ (st.keySep ++ (render st d ++ renderMembers st ms)))

end

/-! ## Reading -/

def isSpace (c : Char) : Bool := c == ' ' || c == '\x09' || c == '\x0a' || c == '\x0d'

def skipSpace (cs : List Char) : List Char := cs.dropWhile isSpace

mutual

/-- A value at the head of the text, and the rest of the text. -/
def parseValue : ℕ → List Char → Option (Doc F × List Char)
  | 0, _ => none
  | n + 1, cs =>
    match cs with
    | '\x22' :: cs => (parseString cs).map fun p ↦ (.scalar (.str p.1), p.2)
    | '[' :: cs =>
      match skipSpace cs with
      | ']' :: cs => some (.arr [], cs)
      | cs => (parseItems n cs).map fun p ↦ (.arr p.1, p.2)
    | '\x7b' :: cs =>
      match skipSpace cs with
      | '\x7d' :: cs => some (.obj [], cs)
      | cs => (parseMembers n cs).map fun p ↦ (.obj p.1, p.2)
    | cs => (atomOfText (cs.takeWhile isAtomChar)).map fun a ↦
        (.scalar a, cs.dropWhile isAtomChar)

/-- The items of a non-empty array and its closing bracket. -/
def parseItems : ℕ → List Char → Option (List (Doc F) × List Char)
  | 0, _ => none
  | n + 1, cs =>
    (parseValue n cs).bind fun p ↦
      match skipSpace p.2 with
      | ']' :: cs => some ([p.1], cs)
      | ',' :: cs => (parseItems n (skipSpace cs)).map fun q ↦ (p.1 :: q.1, q.2)
      | _ => none

/-- The members of a non-empty object and its closing brace. -/
def parseMembers : ℕ → List Char → Option (List (String × Doc F) × List Char)
  | 0, _ => none
  | n + 1, cs =>
    match cs with
    | '\x22' :: cs =>
      (parseString cs).bind fun k ↦
        match skipSpace k.2 with
        | ':' :: cs =>
          (parseValue n (skipSpace cs)).bind fun p ↦
            match skipSpace p.2 with
            | '\x7d' :: cs => some ([(k.1, p.1)], cs)
            | ',' :: cs => (parseMembers n (skipSpace cs)).map fun q ↦ ((k.1, p.1) :: q.1, q.2)
            | _ => none
        | _ => none
    | _ => none

end

/-- Reading a whole text. The length of the text bounds the nesting, so it is enough fuel. -/
def parse (s : Text) : Option (Doc F) :=
  match parseValue s.length (skipSpace s) with
  | some (d, rest) => if skipSpace rest = [] then some d else none
  | none => none

/-! ## The round trip -/

/-- The text after a value does not continue an atom. -/
def Ends (rest : List Char) : Prop := ∀ c cs, rest = c :: cs → isAtomChar c = false

omit [FloatText F] in
theorem ends_cons {c : Char} (h : isAtomChar c = false) (cs : List Char) : Ends (c :: cs) := by
  rintro _ _ ⟨⟩
  exact h

theorem skipSpace_cons {c : Char} (h : isSpace c = false) (cs : List Char) :
    skipSpace (c :: cs) = c :: cs := by
  rw [skipSpace, List.dropWhile_cons_of_neg (by simp [h])]

theorem isSpace_of_isAtomChar {c : Char} (h : isAtomChar c = true) : isSpace c = false := by
  by_contra hs
  rw [Bool.not_eq_false, isSpace] at hs
  simp only [Bool.or_eq_true, beq_iff_eq] at hs
  rcases hs with ((rfl | rfl) | rfl) | rfl <;> exact absurd h (by decide)

theorem atomText_takeWhile (a : Scalar F) {rest : List Char} (h : Ends rest) :
    (atomText a ++ rest).takeWhile isAtomChar = atomText a ∧
      (atomText a ++ rest).dropWhile isAtomChar = rest := by
  have hall : ∀ c ∈ atomText a, isAtomChar c = true := fun c hc ↦ isAtomChar_of_mem_atomText hc
  rw [List.takeWhile_append_of_pos hall, List.dropWhile_append_of_pos hall]
  cases rest with
  | nil => simp
  | cons c cs => simp [h c cs rfl]

theorem render_of_not_isStr (st : Style) {a : Scalar F} (h : a.isStr = false) :
    render st (.scalar a) = atomText a := by
  cases a with
  | str s => exact absurd h (by simp [Scalar.isStr])
  | _ => rw [render, scalarText]; simp

theorem exists_head_render (st : Style) (d : Doc F) :
    ∃ c cs, render st d = c :: cs ∧ isSpace c = false ∧ c ≠ ']' ∧ c ≠ '\x7d' := by
  cases d with
  | scalar a =>
    by_cases ha : a.isStr = true
    · cases a with
      | str s => exact ⟨_, _, by rw [render, scalarText, stringText], by decide⟩
      | _ => exact absurd ha (by simp [Scalar.isStr])
    · rw [Bool.not_eq_true] at ha
      obtain ⟨c, cs, hcs⟩ := List.exists_cons_of_ne_nil (atomText_ne_nil ha)
      have hc : isAtomChar c = true := isAtomChar_of_mem_atomText (a := a) (by rw [hcs]; simp)
      refine ⟨c, cs, (render_of_not_isStr st ha).trans hcs, isSpace_of_isAtomChar hc, ?_, ?_⟩
      all_goals rintro rfl; exact absurd hc (by decide)
  | arr ds => cases ds with
    | nil => exact ⟨_, _, by rw [render], by decide⟩
    | cons d ds => exact ⟨_, _, by rw [render], by decide⟩
  | obj ms => cases ms with
    | nil => exact ⟨_, _, by rw [render], by decide⟩
    | cons m ms => exact ⟨_, _, by rw [render], by decide⟩

theorem skipSpace_render (st : Style) (d : Doc F) (rest : List Char) :
    skipSpace (render st d ++ rest) = render st d ++ rest := by
  obtain ⟨c, cs, h, hs, -⟩ := exists_head_render st d
  rw [h, List.cons_append, skipSpace_cons hs]

theorem skipSpace_stringText (st : Style) (k : String) (rest : List Char) :
    skipSpace (stringText st k ++ rest) = stringText st k ++ rest := by
  rw [stringText, List.cons_append, skipSpace_cons (by decide)]

theorem exists_itemSep (st : Style) (rest : List Char) :
    ∃ t, st.itemSep ++ rest = ',' :: t ∧ skipSpace t = skipSpace rest := by
  rw [Style.itemSep]
  split
  · exact ⟨rest, rfl, rfl⟩
  · exact ⟨' ' :: rest, rfl, by rw [skipSpace, List.dropWhile_cons_of_pos (by decide), skipSpace]⟩

theorem exists_keySep (st : Style) (rest : List Char) :
    ∃ t, st.keySep ++ rest = ':' :: t ∧ skipSpace t = skipSpace rest := by
  rw [Style.keySep]
  split
  · exact ⟨rest, rfl, rfl⟩
  · exact ⟨' ' :: rest, rfl, by rw [skipSpace, List.dropWhile_cons_of_pos (by decide), skipSpace]⟩

theorem parseString_stringText (st : Style) (k : String) (rest : List Char) :
    ∃ t, stringText st k ++ rest = '\x22' :: t ∧ parseString t = some (k, rest) :=
  ⟨_, by rw [stringText, List.cons_append, List.append_assoc], by simp⟩

/-- What the induction carries for one document. -/
def Reads (st : Style) (d : Doc F) : Prop :=
  ∀ n rest, (render st d).length ≤ n → Ends rest →
    parseValue n (render st d ++ rest) = some (d, rest)

theorem reads_scalar (st : Style) (a : Scalar F) : Reads st (.scalar a) := by
  intro n rest hn hrest
  have hpos : 0 < (render st (.scalar a)).length := by
    obtain ⟨c, cs, h, -⟩ := exists_head_render st (.scalar a : Doc F)
    rw [h]; simp
  obtain ⟨n, rfl⟩ : ∃ m, n = m + 1 := ⟨n - 1, by omega⟩
  by_cases ha : a.isStr = true
  · cases a with
    | str s =>
      obtain ⟨t, ht, hp⟩ := parseString_stringText st s rest
      rw [render, scalarText, ht, parseValue, hp]
      rfl
    | _ => exact absurd ha (by simp [Scalar.isStr])
  · rw [Bool.not_eq_true] at ha
    obtain ⟨htake, hdrop⟩ := atomText_takeWhile a hrest
    -- an atom starts with neither a quote nor a bracket
    have hhead : ∀ c cs, atomText a ++ rest = c :: cs → isAtomChar c = true := by
      intro c cs h
      obtain ⟨c', cs', hcs⟩ := List.exists_cons_of_ne_nil (atomText_ne_nil ha)
      rw [hcs, List.cons_append, List.cons.injEq] at h
      exact h.1 ▸ isAtomChar_of_mem_atomText (a := a) (by rw [hcs]; simp)
    rw [render_of_not_isStr st ha, parseValue]
    · rw [htake, hdrop, atomOfText_atomText ha]
      rfl
    all_goals
      intro cs h
      exact absurd (hhead _ _ h) (by decide)

theorem length_renderItems_pos (st : Style) (ds : List (Doc F)) :
    0 < (renderItems st ds).length := by
  cases ds <;> simp [renderItems, Style.itemSep]
  split <;> simp

theorem ends_renderItems (st : Style) (ds : List (Doc F)) (rest : List Char) :
    Ends (renderItems st ds ++ rest) := by
  cases ds with
  | nil => exact ends_cons (by decide) _
  | cons d ds =>
    obtain ⟨t, ht, -⟩ := exists_itemSep st (render st d ++ renderItems st ds ++ rest)
    rw [renderItems, List.append_assoc, ht]
    exact ends_cons (by decide) _

theorem ends_renderMembers (st : Style) (ms : List (String × Doc F)) (rest : List Char) :
    Ends (renderMembers st ms ++ rest) := by
  cases ms with
  | nil => exact ends_cons (by decide) _
  | cons m ms =>
    obtain ⟨k, d⟩ := m
    rw [renderMembers, List.append_assoc]
    obtain ⟨t, ht, -⟩ := exists_itemSep st
      ((stringText st k ++ (st.keySep ++ (render st d ++ renderMembers st ms))) ++ rest)
    rw [ht]
    exact ends_cons (by decide) _

theorem parseItems_render (st : Style) (ds : List (Doc F)) :
    ∀ (d : Doc F) (n : ℕ) (rest : List Char), Reads st d → (∀ e ∈ ds, Reads st e) →
      (render st d ++ renderItems st ds).length ≤ n →
      parseItems n (render st d ++ (renderItems st ds ++ rest)) = some (d :: ds, rest) := by
  induction ds with
  | nil =>
    intro d n rest hd _ hn
    rw [List.length_append, renderItems, List.length_singleton] at hn
    obtain ⟨n, rfl⟩ : ∃ m, n = m + 1 := ⟨n - 1, by omega⟩
    rw [parseItems, hd n _ (by omega) (ends_renderItems st [] rest), Option.bind_some, renderItems,
      List.singleton_append, skipSpace_cons (by decide)]
    rfl
  | cons e ds ih =>
    intro d n rest hd hds hn
    have hpos := length_renderItems_pos st (e :: ds)
    rw [List.length_append] at hn
    obtain ⟨n, rfl⟩ : ∃ m, n = m + 1 := ⟨n - 1, by omega⟩
    obtain ⟨t, ht, hskip⟩ := exists_itemSep st (render st e ++ (renderItems st ds ++ rest))
    have hitems : renderItems st (e :: ds) ++ rest = ',' :: t := by
      rw [renderItems, List.append_assoc, List.append_assoc, ht]
    -- one unit of fuel for each character that is left
    have hlen : (render st e ++ renderItems st ds).length ≤ n := by
      have hdpos : 0 < (render st d).length := by
        obtain ⟨c, cs, h, -⟩ := exists_head_render st d
        rw [h]; simp
      rw [renderItems, List.length_append] at hn
      omega
    rw [parseItems, hd n _ (by omega) (ends_renderItems st (e :: ds) rest), Option.bind_some,
      hitems, skipSpace_cons (by decide)]
    simp only [hskip, skipSpace_render]
    rw [ih e n rest (hds e List.mem_cons_self) (fun x hx ↦ hds x (List.mem_cons_of_mem e hx)) hlen]
    rfl

/-- The members of an object, in the same way. -/
theorem parseMembers_render (st : Style) (ms : List (String × Doc F)) :
    ∀ (k : String) (d : Doc F) (n : ℕ) (rest : List Char), Reads st d → (∀ m ∈ ms, Reads st m.2) →
      (stringText st k ++ (st.keySep ++ (render st d ++ renderMembers st ms))).length ≤ n →
      parseMembers n
          (stringText st k ++ (st.keySep ++ (render st d ++ (renderMembers st ms ++ rest))))
        = some ((k, d) :: ms, rest) := by
  induction ms with
  | nil =>
    intro k d n rest hd _ hn
    obtain ⟨tk, htk, hk⟩ := parseString_stringText st k
      (st.keySep ++ (render st d ++ (renderMembers st ([] : List (String × Doc F)) ++ rest)))
    obtain ⟨tc, htc, hskip⟩ := exists_keySep st
      (render st d ++ (renderMembers st ([] : List (String × Doc F)) ++ rest))
    rw [stringText] at hn
    simp only [List.length_append, List.length_cons] at hn
    obtain ⟨n, rfl⟩ : ∃ m, n = m + 1 := ⟨n - 1, by omega⟩
    rw [htk, parseMembers]
    simp only [hk, Option.bind_some, htc, skipSpace_cons (c := ':') (by decide), hskip,
      skipSpace_render]
    rw [hd n _ (by omega) (ends_renderMembers st [] rest), Option.bind_some, renderMembers,
      List.singleton_append, skipSpace_cons (by decide)]
    rfl
  | cons m ms ih =>
    obtain ⟨j, e⟩ := m
    intro k d n rest hd hms hn
    obtain ⟨tk, htk, hk⟩ := parseString_stringText st k
      (st.keySep ++ (render st d ++ (renderMembers st ((j, e) :: ms) ++ rest)))
    obtain ⟨tc, htc, hskip⟩ :=
      exists_keySep st (render st d ++ (renderMembers st ((j, e) :: ms) ++ rest))
    obtain ⟨ti, hti, hskip'⟩ := exists_itemSep st
      (stringText st j ++ (st.keySep ++ (render st e ++ (renderMembers st ms ++ rest))))
    have hmembers : renderMembers st ((j, e) :: ms) ++ rest = ',' :: ti := by
      rw [← hti, renderMembers]
      simp only [List.append_assoc]
    have hquote : 2 ≤ (stringText st k).length := by
      rw [stringText]
      simp only [List.length_append, List.length_cons]
      omega
    rw [List.length_append, List.length_append, List.length_append] at hn
    have hlen : (stringText st j ++ (st.keySep ++ (render st e ++ renderMembers st ms))).length
        ≤ n - 1 := by
      rw [renderMembers, List.length_append] at hn
      omega
    obtain ⟨n, rfl⟩ : ∃ m, n = m + 1 := ⟨n - 1, by omega⟩
    rw [htk, parseMembers]
    simp only [hk, Option.bind_some, htc, skipSpace_cons (c := ':') (by decide), hskip,
      skipSpace_render]
    rw [hd n _ (by omega) (ends_renderMembers st ((j, e) :: ms) rest), Option.bind_some, hmembers,
      skipSpace_cons (by decide)]
    simp only [hskip', skipSpace_stringText]
    rw [ih j e n rest (hms _ List.mem_cons_self) (fun x hx ↦ hms x (List.mem_cons_of_mem _ hx))
      (by simpa using hlen)]
    rfl

theorem reads_render (st : Style) (d : Doc F) : Reads st d := by
  induction d using Doc.induct with
  | scalar a => exact reads_scalar st a
  | arr ds ih =>
    intro n rest hn hrest
    cases ds with
    | nil =>
      rw [render] at hn ⊢
      obtain ⟨n, rfl⟩ : ∃ m, n = m + 1 := ⟨n - 1, by simp at hn; omega⟩
      rw [List.cons_append, parseValue, List.singleton_append, skipSpace_cons (by decide)]
      rfl
    | cons d ds =>
      rw [render, List.length_cons] at hn
      obtain ⟨n, rfl⟩ : ∃ m, n = m + 1 := ⟨n - 1, by omega⟩
      obtain ⟨c, cs, hc, -, hne, -⟩ := exists_head_render st d
      rw [render, List.cons_append, List.append_assoc, parseValue, skipSpace_render]
      split
      · rename_i h
        rw [hc, List.cons_append, List.cons.injEq] at h
        exact absurd h.1 hne
      · rw [parseItems_render st ds d n rest (ih d List.mem_cons_self)
          (fun e he ↦ ih e (List.mem_cons_of_mem d he)) (by omega)]
        rfl
  | obj ms ih =>
    intro n rest hn hrest
    cases ms with
    | nil =>
      rw [render] at hn ⊢
      obtain ⟨n, rfl⟩ : ∃ m, n = m + 1 := ⟨n - 1, by simp at hn; omega⟩
      rw [List.cons_append, parseValue, List.singleton_append, skipSpace_cons (by decide)]
      rfl
    | cons m ms =>
      obtain ⟨k, d⟩ := m
      rw [render, List.length_cons] at hn
      obtain ⟨n, rfl⟩ : ∃ m, n = m + 1 := ⟨n - 1, by omega⟩
      rw [render, List.cons_append]
      simp only [List.append_assoc]
      rw [parseValue, skipSpace_stringText]
      split
      · rename_i h
        rw [stringText, List.cons_append, List.cons.injEq] at h
        exact absurd h.1 (by decide)
      · rw [parseMembers_render st ms k d n rest (ih _ List.mem_cons_self)
          (fun e he ↦ ih e (List.mem_cons_of_mem _ he)) (by omega)]
        rfl

/-- **The round trip.** Reading a printed document returns it, whatever the style. -/
theorem parse_render (st : Style) (d : Doc F) : parse (render st d) = some d := by
  have hread := reads_render st d (render st d).length [] le_rfl (by rintro _ _ ⟨⟩)
  have hskip := skipSpace_render st d []
  rw [List.append_nil] at hread hskip
  rw [parse, hskip, hread]
  rfl

theorem render_injective (st : Style) :
    Function.Injective (render st : Doc F → Text) := by
  intro d e h
  have hd := parse_render st d
  rw [h, parse_render] at hd
  exact (Option.some.inj hd).symm

/-! ## The encoder and the decoder -/

/-- `json.dumps`: the text of a value, or nothing when the encoder raises. -/
def dumps (st : Style) (sort : Bool) (v : Val F) : Option Text :=
  (toDoc sort v).map (render st)

/-- `json.loads`: the value of a text, or nothing when the text is refused. -/
def loads (s : Text) : Option (Val F) := (parse s).map ofDoc

theorem loads_render (st : Style) (d : Doc F) :
    loads (render st d) = some (ofDoc d) := by
  rw [loads, parse_render, Option.map_some]

theorem dumps_eq_dumps_iff (st : Style) {v w : Val F} :
    dumps st true v = dumps st true w ↔ toDoc true v = toDoc true w :=
  Option.map_injective (render_injective st) |>.eq_iff

/-- **Encoding is stable under a round trip exactly for stable values**, also when the text that
is read back was written in another style than the one compared. -/
theorem exists_loads_of_dumps {st : Style} {v : Val F} {s : Text} (h : dumps st true v = some s) :
    ∃ w : Val F, loads s = some w ∧ ∀ st', dumps st' true w = dumps st' true v ↔ v.Stable := by
  obtain ⟨d, hd, rfl⟩ := Option.map_eq_some_iff.mp h
  refine ⟨ofDoc d, loads_render st d, fun st' ↦ ?_⟩
  rw [dumps_eq_dumps_iff, hd, toDoc_ofDoc_eq_self_iff]
  refine ⟨fun hs d' hd' ↦ ?_, fun hs ↦ hs d hd⟩
  rw [hd, Option.some_inj] at hd'
  exact hd' ▸ hs

/-! ## Records of scalars -/

theorem objDocs_scalar (sort : Bool) (kvs : List (String × Scalar F)) :
    objDocs sort (kvs.map fun m ↦ (m.1, Val.scalar m.2))
      = some (kvs.map fun m ↦ (m.1, Doc.scalar m.2)) := by
  induction kvs with
  | nil => rfl
  | cons m kvs ih => rw [List.map_cons, objDocs, ih, toDoc]; rfl

omit [FloatText F] in
theorem ofDoc_record {kvs : List (String × Scalar F)} (hnd : (kvs.map Prod.fst).Nodup) :
    ofDoc (.obj (kvs.map fun m ↦ (m.1, Doc.scalar m.2))) = .record kvs := by
  have hvals : (kvs.map fun m ↦ (m.1, Doc.scalar m.2)).map (fun m ↦ (m.1, ofDoc m.2))
      = kvs.map fun m ↦ (m.1, Val.scalar m.2) := by
    simp only [List.map_map, Function.comp_def, ofDoc]
  rw [ofDoc, ofMembers_eq_map, hvals, dictOf_eq_self, Val.record]
  simpa only [List.map_map, Function.comp_def] using hnd

theorem exists_loads_record (st : Style) (sort : Bool) {kvs : List (String × Scalar F)}
    (hnd : (kvs.map Prod.fst).Nodup) :
    ∃ (s : Text) (kvs' : List (String × Scalar F)), dumps st sort (.record kvs) = some s ∧
      loads s = some (.record kvs') ∧ kvs'.Perm kvs := by
  obtain ⟨kvs', hperm, hdoc⟩ : ∃ kvs' : List (String × Scalar F), kvs'.Perm kvs ∧
      toDoc sort (.record kvs) = some (.obj (kvs'.map fun m ↦ (m.1, Doc.scalar m.2))) := by
    cases sort with
    | false =>
      exact ⟨kvs, .refl _, by rw [Val.record, toDoc_false_object, objDocs_scalar, Option.map_some]⟩
    | true =>
      refine ⟨kvs.insertionSort fun a b ↦ a.1 ≤ b.1, List.perm_insertionSort _ _, ?_⟩
      rw [Val.record, toDoc_true_object, objDocs_scalar, Option.map_some,
        List.map_insertionSort (fun a b : String × Scalar F ↦ a.1 ≤ b.1)
          (fun a b : String × Doc F ↦ a.1 ≤ b.1)]
      exact fun _ _ _ _ ↦ Iff.rfl
  refine ⟨_, kvs', by rw [dumps, hdoc, Option.map_some], ?_, hperm⟩
  rw [loads_render, ofDoc_record]
  exact (hperm.map Prod.fst).nodup_iff.mpr hnd

theorem stable_record {kvs : List (String × Scalar F)} (hnd : (kvs.map Prod.fst).Nodup) :
    (Val.record kvs).Stable := by
  refine stable_object ?_ fun m hm ↦ ?_
  · simpa only [List.map_map, Function.comp_def] using hnd
  · obtain ⟨n, -, rfl⟩ := List.mem_map.mp hm
    exact stable_scalar n.2

end Texts

end DriftGuardX.Json
