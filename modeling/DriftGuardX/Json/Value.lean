import DriftGuardX.Json.Literal
import Mathlib.Data.List.Sort
import Mathlib.Data.String.Basic

/-!
# Values and documents

Two trees. A `Val` is what a dynamically typed program holds in memory: dictionaries whose keys may
be strings, numbers, booleans or `None`, and objects no encoder accepts. A `Doc` is what a JSON text
says: objects with string keys, in the order of the text.

`toDoc` is the encoder up to the choice of separators and escapes. With `sort_keys` it orders the
members of a dictionary by the *keys in memory* and only then turns those keys into strings.
`ofDoc` is the decoder, which sees strings only. The two orders need not agree: the integer keys
`9 < 10` become the strings `"10" < "9"`. So encoding is stable under a round trip exactly when the
document it writes already lists every object in strictly increasing order of its string keys, and
`SortedKeys` is that condition.
-/

namespace DriftGuardX.Json

variable {F : Type}

/-! ## The two trees -/

/-- The scalars both trees share. -/
inductive Scalar (F : Type) where
  | null
  | bool (b : Bool)
  | int (i : ℤ)
  | float (f : F)
  | str (s : String)
  deriving DecidableEq, Repr

/-- A dictionary key. The last constructor stands for the hashable objects that the encoder
refuses as keys, such as tuples. -/
inductive Key (F : Type) where
  | none
  | bool (b : Bool)
  | int (i : ℤ)
  | float (f : F)
  | str (s : String)
  | other (tag : String)
  deriving DecidableEq, Repr

/-- A value in memory. Tuples are written as lists, which is how the encoder treats them; the last
constructor stands for the objects that it refuses. -/
inductive Val (F : Type) where
  | scalar (a : Scalar F)
  | list (xs : List (Val F))
  | dict (kvs : List (Key F × Val F))
  | other (tag : String)

/-- A JSON document, with the members of an object in the order of the text. -/
inductive Doc (F : Type) where
  | scalar (a : Scalar F)
  | arr (ds : List (Doc F))
  | obj (ms : List (String × Doc F))

namespace Val

@[match_pattern] abbrev none : Val F := .scalar .null

@[match_pattern] abbrev bool (b : Bool) : Val F := .scalar (.bool b)

@[match_pattern] abbrev int (i : ℤ) : Val F := .scalar (.int i)

@[match_pattern] abbrev float (f : F) : Val F := .scalar (.float f)

@[match_pattern] abbrev str (s : String) : Val F := .scalar (.str s)

/-- A dictionary with string keys. -/
def object (kvs : List (String × Val F)) : Val F := .dict (kvs.map fun m ↦ (.str m.1, m.2))

/-- A dictionary with string keys and scalar values. -/
def record (kvs : List (String × Scalar F)) : Val F := .object (kvs.map fun m ↦ (m.1, .scalar m.2))

end Val

/-- Induction over documents, with the members of a list or an object as hypotheses. -/
@[elab_as_elim] theorem Doc.induct {P : Doc F → Prop} (scalar : ∀ a, P (.scalar a))
    (arr : ∀ ds, (∀ d ∈ ds, P d) → P (.arr ds))
    (obj : ∀ ms, (∀ m ∈ ms, P m.2) → P (.obj ms)) (d : Doc F) : P d :=
  @Doc.rec F P (fun ds ↦ ∀ d ∈ ds, P d) (fun ms ↦ ∀ m ∈ ms, P m.2) (fun m ↦ P m.2)
    scalar arr obj (by simp)
    (fun d ds hd hds d' hd' ↦ (List.mem_cons.mp hd').elim (fun h ↦ h ▸ hd) (hds d'))
    (by simp)
    (fun m ms hm hms m' hm' ↦ (List.mem_cons.mp hm').elim (fun h ↦ h ▸ hm) (hms m'))
    (fun _ _ hd ↦ hd) d

/-- Induction over values, in the same form. -/
@[elab_as_elim] theorem Val.induct {P : Val F → Prop} (scalar : ∀ a, P (.scalar a))
    (list : ∀ xs, (∀ v ∈ xs, P v) → P (.list xs))
    (dict : ∀ kvs, (∀ m ∈ kvs, P m.2) → P (.dict kvs))
    (other : ∀ t, P (.other t)) (v : Val F) : P v :=
  @Val.rec F P (fun xs ↦ ∀ v ∈ xs, P v) (fun kvs ↦ ∀ m ∈ kvs, P m.2) (fun m ↦ P m.2)
    scalar list dict other (by simp)
    (fun v vs hv hvs v' hv' ↦ (List.mem_cons.mp hv').elim (fun h ↦ h ▸ hv) (hvs v'))
    (by simp)
    (fun m ms hm hms m' hm' ↦ (List.mem_cons.mp hm').elim (fun h ↦ h ▸ hm) (hms m'))
    (fun _ _ hv ↦ hv) v

/-! ## Keys -/

section Keys

variable [FloatText F]

/-- The string the encoder writes for a key, when it accepts the key. -/
def Key.text : Key F → Option String
  | .none => some "null"
  | .bool b => some (if b then "true" else "false")
  | .int i => some (String.ofList (intText i))
  | .float f => some (String.ofList (FloatText.repr f))
  | .str s => some s
  | .other _ => Option.none

/-- The number a key is, booleans being the integers zero and one. -/
def Key.num : Key F → Option (ℤ ⊕ F)
  | .bool b => some (.inl (if b then 1 else 0))
  | .int i => some (.inl i)
  | .float f => some (.inr f)
  | _ => Option.none

/-- The order of two numbers of either kind. -/
def numLt : ℤ ⊕ F → ℤ ⊕ F → Bool
  | .inl i, .inl j => decide (i < j)
  | .inl i, .inr g => FloatText.intLt i g
  | .inr f, .inl j => FloatText.ltInt f j
  | .inr f, .inr g => FloatText.lt f g

/-- Key order as a sort sees it: code points for strings, magnitude for numbers. -/
def Key.le : Key F → Key F → Bool
  | .str s, .str t => decide (s ≤ t)
  | a, b =>
    match a.num, b.num with
    | some x, some y => !numLt y x
    | _, _ => true

/-- Whether a key is the given string. -/
def Key.isText (k : Key F) (s : String) : Bool :=
  match k with
  | .str t => t == s
  | _ => false

def Key.isStr : Key F → Bool
  | .str _ => true
  | _ => false

def Key.isNum (k : Key F) : Bool := k.num.isSome

/-- Sorting the members of a dictionary by key. A sort of at least two members compares every
member with another, so it raises as soon as strings and numbers, or two kinds without an order,
occur together. -/
def sortKeys {α : Type} (kvs : List (Key F × α)) : Option (List (Key F × α)) :=
  if kvs.length ≤ 1 ∨ (kvs.all fun m ↦ m.1.isStr) ∨ (kvs.all fun m ↦ m.1.isNum) then
    some (kvs.insertionSort fun a b ↦ a.1.le b.1 = true)
  else Option.none

/-- The strings of all keys, in the order given. -/
def keyTexts {α : Type} : List (Key F × α) → Option (List (String × α))
  | [] => some []
  | (k, a) :: kvs => do
    let s ← k.text
    let ms ← keyTexts kvs
    return (s, a) :: ms

/-- The members of an object as they are written, with or without `sort_keys`. -/
def arrange {α : Type} (sort : Bool) (kvs : List (Key F × α)) : Option (List (String × α)) :=
  if sort then (sortKeys kvs).bind keyTexts else keyTexts kvs

end Keys

/-! ## Encoding and decoding -/

section Codec

variable [FloatText F]

mutual

/-- The document the encoder writes, or nothing when it raises. -/
def toDoc (sort : Bool) : Val F → Option (Doc F)
  | .scalar a => some (.scalar a)
  | .list xs => (toDocs sort xs).map .arr
  | .dict kvs => ((toMembers sort kvs).bind (arrange sort)).map .obj
  | .other _ => none

def toDocs (sort : Bool) : List (Val F) → Option (List (Doc F))
  | [] => some []
  | v :: vs => (toDoc sort v).bind fun d ↦ (toDocs sort vs).map (d :: ·)

def toMembers (sort : Bool) : List (Key F × Val F) → Option (List (Key F × Doc F))
  | [] => some []
  | (k, v) :: kvs => (toDoc sort v).bind fun d ↦ (toMembers sort kvs).map ((k, d) :: ·)

end

end Codec

/-- The value a dictionary has under a string key. -/
def dictGet (kvs : List (Key F × Val F)) (k : String) : Option (Val F) :=
  (kvs.find? fun m ↦ m.1.isText k).map Prod.snd

/-- Assignment to a dictionary: an existing key keeps its position. -/
def setItem {α : Type} (kvs : List (String × α)) (k : String) (a : α) : List (String × α) :=
  if k ∈ kvs.map Prod.fst then kvs.map fun m ↦ if m.1 = k then (k, a) else m else kvs ++ [(k, a)]

theorem eq_of_mem_setItem {α : Type} {kvs : List (String × α)} {k : String} {a b : α}
    (h : (k, b) ∈ setItem kvs k a) : b = a := by
  rw [setItem] at h
  split at h
  · obtain ⟨m, -, heq⟩ := List.mem_map.mp h
    split at heq
    · exact (congrArg Prod.snd heq).symm
    · rename_i hne
      exact absurd (congrArg Prod.fst heq) hne
  · rename_i hmem
    rcases List.mem_append.mp h with hold | hnew
    · exact absurd (List.mem_map_of_mem hold) hmem
    · exact congrArg Prod.snd (List.mem_singleton.mp hnew)

/-- The dictionary of a list of members, the last of equal keys winning. -/
def dictOf {α : Type} (ms : List (String × α)) : List (String × α) :=
  ms.foldl (fun kvs m ↦ setItem kvs m.1 m.2) []

mutual

/-- The value the decoder builds. -/
def ofDoc : Doc F → Val F
  | .scalar a => .scalar a
  | .arr ds => .list (ofDocs ds)
  | .obj ms => .object (dictOf (ofMembers ms))

def ofDocs : List (Doc F) → List (Val F)
  | [] => []
  | d :: ds => ofDoc d :: ofDocs ds

def ofMembers : List (String × Doc F) → List (String × Val F)
  | [] => []
  | (k, d) :: ms => (k, ofDoc d) :: ofMembers ms

end

theorem ofDocs_eq_map (ds : List (Doc F)) : ofDocs ds = ds.map ofDoc := by
  induction ds with
  | nil => rw [ofDocs, List.map_nil]
  | cons d ds ih => rw [ofDocs, ih, List.map_cons]

theorem ofMembers_eq_map (ms : List (String × Doc F)) :
    ofMembers ms = ms.map fun m ↦ (m.1, ofDoc m.2) := by
  induction ms with
  | nil => rw [ofMembers, List.map_nil]
  | cons m ms ih => obtain ⟨k, d⟩ := m; rw [ofMembers, ih, List.map_cons]

/-! ## Sorted documents -/

/-- Every object of the document lists its members in strictly increasing key order. -/
inductive Doc.SortedKeys : Doc F → Prop
  | scalar (a : Scalar F) : SortedKeys (.scalar a)
  | arr {ds : List (Doc F)} (h : ∀ d ∈ ds, SortedKeys d) : SortedKeys (.arr ds)
  | obj {ms : List (String × Doc F)} (hs : (ms.map Prod.fst).Pairwise (· < ·))
      (h : ∀ m ∈ ms, SortedKeys m.2) : SortedKeys (.obj ms)

mutual

/-- The executable form of `Doc.SortedKeys`. -/
def Doc.sortedKeys : Doc F → Bool
  | .scalar _ => true
  | .arr ds => Doc.allSorted ds
  | .obj ms => decide ((ms.map Prod.fst).Pairwise (· < ·)) && Doc.allMembersSorted ms

def Doc.allSorted : List (Doc F) → Bool
  | [] => true
  | d :: ds => d.sortedKeys && Doc.allSorted ds

def Doc.allMembersSorted : List (String × Doc F) → Bool
  | [] => true
  | (_, d) :: ms => d.sortedKeys && Doc.allMembersSorted ms

end

theorem Doc.allSorted_iff (ds : List (Doc F)) :
    Doc.allSorted ds = true ↔ ∀ d ∈ ds, d.sortedKeys = true := by
  induction ds with
  | nil => simp [Doc.allSorted]
  | cons d ds ih => simp [Doc.allSorted, ih]

theorem Doc.allMembersSorted_iff (ms : List (String × Doc F)) :
    Doc.allMembersSorted ms = true ↔ ∀ m ∈ ms, m.2.sortedKeys = true := by
  induction ms with
  | nil => simp [Doc.allMembersSorted]
  | cons m ms ih =>
    obtain ⟨k, d⟩ := m
    simp only [Doc.allMembersSorted, Bool.and_eq_true, ih, List.mem_cons, forall_eq_or_imp]

theorem Doc.sortedKeys_iff (d : Doc F) : d.sortedKeys = true ↔ d.SortedKeys := by
  induction d using Doc.induct with
  | scalar a => exact ⟨fun _ ↦ .scalar a, fun _ ↦ by rw [Doc.sortedKeys]⟩
  | arr ds ih =>
    rw [Doc.sortedKeys, Doc.allSorted_iff]
    constructor
    · exact fun h ↦ .arr fun d hd ↦ (ih d hd).mp (h d hd)
    · rintro (_ | h | _) d hd
      exact (ih d hd).mpr (h d hd)
  | obj ms ih =>
    rw [Doc.sortedKeys, Bool.and_eq_true, decide_eq_true_iff, Doc.allMembersSorted_iff]
    constructor
    · exact fun h ↦ .obj h.1 fun m hm ↦ (ih m hm).mp (h.2 m hm)
    · rintro (_ | _ | ⟨hs, h⟩)
      exact ⟨hs, fun m hm ↦ (ih m hm).mpr (h m hm)⟩

instance (d : Doc F) : Decidable d.SortedKeys := decidable_of_iff _ d.sortedKeys_iff

end DriftGuardX.Json
