import DriftGuardX.Foundation.Patterns
import DriftGuardX.Trace.Artifact

/-!
# Redaction

The values of sensitive keys are replaced by a placeholder, and personal data is replaced in the strings
under other keys. The recursion scrubs a string only as the value of a key: a string that is an element
of a list stays as it is. A sensitive value is reported also when it was the placeholder already. Where
there is neither, every string is reached and the report is exact (`redactionHolds_iff`).
-/

namespace DriftGuardX.Trace

open Patterns

/-! ## Scrubbing texts -/

/-- `str.lower`, and the classes of characters of regular expressions. -/
structure TextLibrary where
  lower : String → String
  isWord : Char → Bool
  isDecimal : Char → Bool

/-- `_SENSITIVE_FIELD_NAMES`. -/
def sensitiveFieldNames : List String :=
  ["password", "secret", "token", "api_key", "apikey", "authorization", "bearer", "credit_card", "ssn",
    "private_key", "access_key", "prompt", "completion", "raw_query", "pii"]

/-- `_REDACTED_PLACEHOLDER`. -/
def redactedPlaceholder : String := "[REDACTED]"

section Scrub

variable (lib : TextLibrary)

/-- `\w`, a point or a dash. -/
def isAddressChar (c : Char) : Bool := lib.isWord c || c == '.' || c == '-'

/-- `[\w\.-]+@[\w\.-]+\.\w+`. -/
def emailPattern : List (Item Char) :=
  [some1 (isAddressChar lib), exactly (· == '@') 1, some1 (isAddressChar lib), exactly (· == '.') 1,
    some1 lib.isWord]

def isPhoneSeparator (c : Char) : Bool := c == '-' || c == '.'

/-- `\b\d{3}[-.]?\d{3}[-.]?\d{4}\b`. -/
def phonePattern : List (Item Char) :=
  [.boundary lib.isWord, exactly lib.isDecimal 3, optional isPhoneSeparator, exactly lib.isDecimal 3,
    optional isPhoneSeparator, exactly lib.isDecimal 4, .boundary lib.isWord]

/-- `\b\d{3}-\d{2}-\d{4}\b`. -/
def ssnPattern : List (Item Char) :=
  [.boundary lib.isWord, exactly lib.isDecimal 3, exactly (· == '-') 1, exactly lib.isDecimal 2,
    exactly (· == '-') 1, exactly lib.isDecimal 4, .boundary lib.isWord]

/-- `(?:\d{4}[ -]?)`. -/
def cardGroup : List (Item Char) :=
  [exactly lib.isDecimal 4, optional fun c ↦ c == ' ' || c == '-']

/-- `\b(?:\d{4}[ -]?){3}\d{4}\b`. -/
def creditCardPattern : List (Item Char) :=
  .boundary lib.isWord :: (cardGroup lib ++ cardGroup lib ++ cardGroup lib ++
    [exactly lib.isDecimal 4, .boundary lib.isWord])

/-- `_PII_PATTERNS`, with what the matches are replaced by. -/
def piiPatterns : List (List (Item Char) × String) :=
  [(emailPattern lib, "[EMAIL_REDACTED]"), (phonePattern lib, "[PHONE_REDACTED]"),
    (ssnPattern lib, "[SSN_REDACTED]"), (creditCardPattern lib, "[CREDIT_CARD_REDACTED]")]

/-- `pattern.sub`. -/
def patternSub (pattern : List (Item Char)) (new text : String) : String :=
  String.ofList (substitute pattern new.toList 0 none text.toList)

/-- The loop over the patterns. -/
def scrubLoop (text : String) : String :=
  (piiPatterns lib).foldl (fun v entry ↦
    if search entry.1 none v.toList then patternSub entry.1 entry.2 v else v) text

end Scrub

/-! ## Redacting values -/

/-- A value of dictionaries with string keys, lists, strings and other scalars. -/
inductive Payload (A : Type) where
  | str (text : String)
  | scalar (value : A)
  | list (items : List (Payload A))
  | dict (members : List (String × Payload A))

structure RedactionOptions where
  /-- `_ENABLE_REDACTION`. -/
  enableRedaction : Bool
  force : Bool
  /-- An empty list stands for `None` as well. -/
  allowlist : List String
  privacyMode : PrivacyMode

namespace RedactionOptions

/-- The path is on the allowlist, or below one that is. -/
def allows (options : RedactionOptions) (fieldPath : String) : Bool :=
  options.allowlist.any fun allowed ↦ fieldPath == allowed || (allowed ++ ".").isPrefixOf fieldPath

end RedactionOptions

namespace Payload

variable {A : Type}

def text? : Payload A → Option String
  | str text => some text
  | _ => none

end Payload

section Redact

variable {A : Type} (lib : TextLibrary) (options : RedactionOptions)

def isSensitive (key : String) : Bool := lib.lower key ∈ sensitiveFieldNames

def joinPath (path key : String) : String := if path = "" then key else path ++ "." ++ key

def itemPath (path : String) (i : ℕ) : String := path ++ "[" ++ toString i ++ "]"

/-- A string under a key, which is reported when it has changed. -/
def redactText (fieldPath text : String) : Payload A × List String :=
  let v := scrubLoop lib text
  (.str v, if v ≠ text then [fieldPath] else [])

mutual

/-- `_redact`: the redacted value, and the paths that are reported. -/
def redactValue (path : String) : Payload A → Payload A × List String
  | .str text => (.str text, [])
  | .scalar value => (.scalar value, [])
  | .list items =>
    let redacted := redactItems path 0 items
    (.list redacted.1, redacted.2)
  | .dict members =>
    let redacted := redactMembers path members
    (.dict redacted.1, redacted.2)

/-- The elements of a list, from an index. -/
def redactItems (path : String) (i : ℕ) : List (Payload A) → List (Payload A) × List String
  | [] => ([], [])
  | item :: items =>
    let redacted := redactValue (itemPath path i) item
    let rest := redactItems path (i + 1) items
    (redacted.1 :: rest.1, redacted.2 ++ rest.2)

/-- The members of a dictionary. -/
def redactMembers (path : String) :
    List (String × Payload A) → List (String × Payload A) × List String
  | [] => ([], [])
  | (k, v) :: members =>
    let fieldPath := joinPath path k
    let redacted :=
      if options.allows fieldPath then redactValue fieldPath v
      else if isSensitive lib k ∨ options.privacyMode = .metadataOnly then
        (.str redactedPlaceholder, [fieldPath])
      else
        match v.text? with
        | some text => redactText lib fieldPath text
        | none => redactValue fieldPath v
    let rest := redactMembers path members
    ((k, redacted.1) :: rest.1, redacted.2 ++ rest.2)

end

/-- `redact_dict`. -/
def redactDict (data : List (String × Payload A)) : List (String × Payload A) × List String :=
  if ¬ (options.enableRedaction ∨ options.force) then (data, [])
  else redactMembers lib options "" data

end Redact

/-! ## What is meant by it -/

section Meaning

variable {A : Type} (lib : TextLibrary)

/-- The substitution of the four patterns in order. -/
def scrub (text : String) : String :=
  (piiPatterns lib).foldl (fun v entry ↦ patternSub entry.1 entry.2 v) text

mutual

/-- Every sensitive value is the placeholder, and every other string is scrubbed. -/
def scrubbed : Payload A → Payload A
  | .str text => .str (scrub lib text)
  | .scalar value => .scalar value
  | .list items => .list (scrubbedItems items)
  | .dict members => .dict (scrubbedMembers members)

def scrubbedItems : List (Payload A) → List (Payload A)
  | [] => []
  | item :: items => scrubbed item :: scrubbedItems items

def scrubbedMembers : List (String × Payload A) → List (String × Payload A)
  | [] => []
  | (k, v) :: members =>
    (k, if isSensitive lib k then .str redactedPlaceholder else scrubbed v) :: scrubbedMembers members

end

mutual

/-- The paths of the values that are changed by it. -/
def changedPaths (path : String) : Payload A → List String
  | .str text => if scrub lib text ≠ text then [path] else []
  | .scalar _ => []
  | .list items => changedItems path 0 items
  | .dict members => changedMembers path members

def changedItems (path : String) (i : ℕ) : List (Payload A) → List String
  | [] => []
  | item :: items => changedPaths (itemPath path i) item ++ changedItems path (i + 1) items

def changedMembers (path : String) : List (String × Payload A) → List String
  | [] => []
  | (k, v) :: members =>
    (if isSensitive lib k then
        if v.text? ≠ some redactedPlaceholder then [joinPath path k] else []
      else changedPaths (joinPath path k) v) ++ changedMembers path members

end

/-- **Redaction reaches every string**, and reports what it has changed. -/
def RedactionHolds (options : RedactionOptions) (data : List (String × Payload A)) : Prop :=
  redactDict lib options data = (scrubbedMembers lib data, changedMembers lib "" data)

mutual

/-- No element of a list would be changed, and no sensitive value is the placeholder already. -/
def Clean : Payload A → Prop
  | .str text => scrub lib text = text
  | .scalar _ => True
  | .list items => CleanItems items
  | .dict members => CleanMembers members

def CleanItems : List (Payload A) → Prop
  | [] => True
  | item :: items => Clean item ∧ CleanItems items

/-- A string under a key that is not sensitive may be anything. -/
def CleanMembers : List (String × Payload A) → Prop
  | [] => True
  | (k, v) :: members =>
    (if isSensitive lib k then v.text? ≠ some redactedPlaceholder else v.text?.isSome ∨ Clean v) ∧
      CleanMembers members

end

end Meaning

/-! ## Texts -/

section Proofs

variable {A : Type} {lib : TextLibrary} {options : RedactionOptions}

theorem scrubLoop_eq_scrub (text : String) : scrubLoop lib text = scrub lib text := by
  rw [scrubLoop, scrub]
  congr 1
  funext v entry
  split_ifs with hfound
  · rfl
  · rw [patternSub, substitute_of_not_search (Bool.eq_false_iff.mpr hfound), String.ofList_toList]

theorem redactText_eq (fieldPath text : String) : redactText (A := A) lib fieldPath text
    = (scrubbed lib (.str text), changedPaths lib fieldPath (.str text : Payload A)) := by
  rw [redactText, scrubLoop_eq_scrub, scrubbed, changedPaths]

theorem Payload.eq_str_of_text? {v : Payload A} {text : String} (h : v.text? = some text) :
    v = .str text := by
  cases v with
  | str text' => exact congrArg Payload.str (Option.some.inj h)
  | _ => exact absurd h (Option.some_ne_none _).symm

/-! ## Values -/

/-- Induction over values, with the elements of a list and the members of a dictionary as hypotheses. -/
@[elab_as_elim] theorem Payload.induct {P : Payload A → Prop} (str : ∀ text, P (.str text))
    (scalar : ∀ value, P (.scalar value)) (list : ∀ items, (∀ item ∈ items, P item) → P (.list items))
    (dict : ∀ members, (∀ m ∈ members, P m.2) → P (.dict members)) (v : Payload A) : P v :=
  @Payload.rec A P (fun items ↦ ∀ item ∈ items, P item) (fun members ↦ ∀ m ∈ members, P m.2)
    (fun m ↦ P m.2) str scalar list dict (by simp)
    (fun _ _ hitem hitems ↦ List.forall_mem_cons.mpr ⟨hitem, hitems⟩) (by simp)
    (fun _ _ hm hmembers ↦ List.forall_mem_cons.mpr ⟨hm, hmembers⟩) (fun _ _ hv ↦ hv) v

/-- What was redacted is as it should be under a condition. Where the value is, no path is missing. -/
structure Fits {β : Type} (redacted : β × List String) (value : β) (paths : List String)
    (clean : Prop) : Prop where
  sublist : redacted.1 = value → paths.Sublist redacted.2
  eq_iff : redacted = (value, paths) ↔ clean

namespace Fits

variable {β γ δ : Type} {redacted : β × List String} {value : β} {paths : List String} {clean : Prop}

theorem of_eq (h : redacted = (value, paths)) (hclean : clean) : Fits redacted value paths clean where
  sublist := fun _ ↦ h ▸ List.Sublist.refl _
  eq_iff := iff_of_true h hclean

theorem wrap (h : Fits redacted value paths clean) {f : β → γ} (hf : Function.Injective f) :
    Fits (f redacted.1, redacted.2) (f value) paths clean where
  sublist := fun heq ↦ h.sublist (hf heq)
  eq_iff := by
    rw [← h.eq_iff, Prod.mk.injEq, hf.eq_iff, Prod.ext_iff]

/-- Two parts fit together exactly when both do: no path of one can stand for a missing one of the
other. -/
theorem pair {rest : γ × List String} {value' : γ} {paths' : List String} {clean' : Prop}
    (h : Fits redacted value paths clean) (h' : Fits rest value' paths' clean') {f : β → γ → δ}
    (hf : Function.Injective2 f) : Fits (f redacted.1 rest.1, redacted.2 ++ rest.2) (f value value')
      (paths ++ paths') (clean ∧ clean') where
  sublist := by
    intro heq
    obtain ⟨hvalue, hvalue'⟩ := hf heq
    exact (h.sublist hvalue).append (h'.sublist hvalue')
  eq_iff := by
    rw [← h.eq_iff, ← h'.eq_iff, Prod.mk.injEq, hf.eq_iff, Prod.ext_iff, Prod.ext_iff]
    constructor
    · rintro ⟨⟨hvalue, hvalue'⟩, hpaths⟩
      have hle := (h.sublist hvalue).length_le
      have hle' := (h'.sublist hvalue').length_le
      have hlength := congrArg List.length hpaths
      rw [List.length_append, List.length_append] at hlength
      have hfirst := (h.sublist hvalue).eq_of_length (by omega)
      have hsecond := (h'.sublist hvalue').eq_of_length (by omega)
      exact ⟨⟨hvalue, hfirst.symm⟩, hvalue', hsecond.symm⟩
    · rintro ⟨⟨hvalue, hpaths⟩, hvalue', hpaths'⟩
      exact ⟨⟨hvalue, hvalue'⟩, by rw [hpaths, hpaths']⟩

end Fits

theorem fits_str (path text : String) :
    Fits (Payload.str text, []) (scrubbed lib (.str text : Payload A))
      (changedPaths lib path (.str text : Payload A)) (Clean lib (.str text : Payload A)) := by
  rw [scrubbed, changedPaths, Clean]
  by_cases h : scrub lib text = text
  · exact .of_eq (by simp [h]) h
  · refine ⟨fun heq ↦ absurd (Payload.str.inj heq).symm h, iff_of_false ?_ h⟩
    simp [h]

theorem fits_items {items : List (Payload A)} (h : ∀ item ∈ items, ∀ path,
    Fits (redactValue lib options path item) (scrubbed lib item) (changedPaths lib path item)
      (Clean lib item)) (path : String) (i : ℕ) :
    Fits (redactItems lib options path i items) (scrubbedItems lib items)
      (changedItems lib path i items) (CleanItems lib items) := by
  induction items generalizing i with
  | nil => exact .of_eq rfl trivial
  | cons item items ih =>
    obtain ⟨hitem, hitems⟩ := List.forall_mem_cons.mp h
    rw [redactItems, scrubbedItems, changedItems, CleanItems]
    exact (hitem _).pair (ih hitems (i + 1)) fun _ _ _ _ heq ↦ List.cons.inj heq

/-- A value under a key. -/
theorem fits_member {k : String} {v : Payload A} {fieldPath : String}
    (hv : Fits (redactValue lib options fieldPath v) (scrubbed lib v) (changedPaths lib fieldPath v)
      (Clean lib v)) (hlist : options.allowlist = []) (hmode : options.privacyMode = .redactedContent) :
    Fits (if options.allows fieldPath then redactValue lib options fieldPath v
        else if isSensitive lib k ∨ options.privacyMode = .metadataOnly then
          (.str redactedPlaceholder, [fieldPath])
        else
          match v.text? with
          | some text => redactText lib fieldPath text
          | none => redactValue lib options fieldPath v)
      (if isSensitive lib k then .str redactedPlaceholder else scrubbed lib v)
      (if isSensitive lib k then if v.text? ≠ some redactedPlaceholder then [fieldPath] else []
        else changedPaths lib fieldPath v)
      (if isSensitive lib k then v.text? ≠ some redactedPlaceholder
        else v.text?.isSome ∨ Clean lib v) := by
  have hallows : options.allows fieldPath = false := by rw [RedactionOptions.allows, hlist, List.any_nil]
  have hmetadata : options.privacyMode ≠ .metadataOnly := by rw [hmode]; decide
  by_cases hsensitive : isSensitive lib k
  · by_cases hplaceholder : v.text? = some redactedPlaceholder
    · simp only [hallows, hsensitive, hplaceholder, Bool.false_eq_true, if_false, true_or, if_true,
        ne_eq, not_true_eq_false]
      exact ⟨fun _ ↦ List.nil_sublist _, by simp⟩
    · simp only [hallows, hsensitive, hplaceholder, Bool.false_eq_true, if_false, true_or, if_true,
        ne_eq, not_false_eq_true]
      exact .of_eq rfl trivial
  · simp only [hallows, hsensitive, hmetadata, Bool.false_eq_true, if_false, or_self]
    cases htext : v.text? with
    | some text =>
      obtain rfl := Payload.eq_str_of_text? htext
      exact .of_eq (redactText_eq fieldPath text) (.inl rfl)
    | none => exact ⟨hv.sublist, hv.eq_iff.trans (by simp)⟩

theorem fits_members {members : List (String × Payload A)} (h : ∀ m ∈ members, ∀ path,
    Fits (redactValue lib options path m.2) (scrubbed lib m.2) (changedPaths lib path m.2)
      (Clean lib m.2)) (hlist : options.allowlist = [])
    (hmode : options.privacyMode = .redactedContent) (path : String) :
    Fits (redactMembers lib options path members) (scrubbedMembers lib members)
      (changedMembers lib path members) (CleanMembers lib members) := by
  induction members with
  | nil => exact .of_eq rfl trivial
  | cons m members ih =>
    obtain ⟨hm, hmembers⟩ := List.forall_mem_cons.mp h
    rw [redactMembers, scrubbedMembers, changedMembers, CleanMembers]
    have hmember := fits_member (k := m.1) (hm (joinPath path m.1)) hlist hmode
    refine hmember.pair (ih hmembers) (f := fun v rest ↦ (m.1, v) :: rest) fun _ _ _ _ heq ↦ ?_
    obtain ⟨hfirst, hrest⟩ := List.cons.inj heq
    exact ⟨congrArg Prod.snd hfirst, hrest⟩

theorem fits_value (hlist : options.allowlist = []) (hmode : options.privacyMode = .redactedContent)
    (v : Payload A) (path : String) : Fits (redactValue lib options path v) (scrubbed lib v)
      (changedPaths lib path v) (Clean lib v) := by
  induction v using Payload.induct generalizing path with
  | str text => exact fits_str path text
  | scalar value => exact .of_eq rfl trivial
  | list items ih => exact (fits_items ih path 0).wrap fun _ _ heq ↦ Payload.list.inj heq
  | dict members ih =>
    exact (fits_members ih hlist hmode path).wrap fun _ _ heq ↦ Payload.dict.inj heq

/-- **Redaction reaches every string exactly when** no element of a list that is reached would be
changed, and no sensitive value that is reached is the placeholder already. -/
theorem redactionHolds_iff (lib : TextLibrary) {options : RedactionOptions}
    (henabled : options.enableRedaction ∨ options.force) (hlist : options.allowlist = [])
    (hmode : options.privacyMode = .redactedContent) (data : List (String × Payload A)) :
    RedactionHolds lib options data ↔ CleanMembers lib data := by
  rw [RedactionHolds, redactDict, if_neg (not_not.mpr henabled)]
  exact (fits_members (fun m _ ↦ fits_value hlist hmode m.2) hlist hmode "").eq_iff

end Proofs

/-! ### Two dictionaries -/

/-- Lower case and the classes of ASCII characters. -/
def asciiLibrary : TextLibrary where
  lower text := String.ofList (text.toList.map Char.toLower)
  isWord c := c.isAlphanum || c == '_'
  isDecimal c := c.isDigit

def defaultOptions : RedactionOptions := ⟨true, false, [], .redactedContent⟩

def nestedData : List (String × Payload Empty) :=
  [("user", .str "alice"), ("auth", .dict [("token", .str "t"), ("mail", .str "a@b.c")])]

theorem redactionHolds_iff_nestedData :
    RedactionHolds asciiLibrary defaultOptions nestedData ↔ CleanMembers asciiLibrary nestedData :=
  redactionHolds_iff asciiLibrary (.inl rfl) rfl rfl nestedData

/-- An address in a list stays. -/
theorem not_redactionHolds_list : ¬ RedactionHolds asciiLibrary defaultOptions
    [("contacts", (.list [.str "a@b.c"] : Payload Empty))] := by
  have hscrub : scrub asciiLibrary "a@b.c" = "[EMAIL_REDACTED]" := by decide
  have hsensitive : isSensitive asciiLibrary "contacts" = false := by decide
  intro h
  have hvalue := congrArg Prod.fst h
  simp [redactDict, defaultOptions, redactMembers, redactValue, redactItems, RedactionOptions.allows,
    Payload.text?, hsensitive, scrubbedMembers, scrubbed, scrubbedItems, hscrub] at hvalue

end DriftGuardX.Trace
