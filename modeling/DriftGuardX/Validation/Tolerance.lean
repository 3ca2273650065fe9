import DriftGuardX.Validation.Divergence

/-!
# Tolerance rules

What the rule of a constraint says of the two outputs of a node. There are rules for equal hashes,
equal keys, overlapping sets, similar texts and close numbers; a type that is not known lets nothing
pass. A rule that cannot be applied lets nothing pass either, except that numbers which cannot be
read are compared by their hashes, and that a threshold for numbers has to be one.
-/

namespace DriftGuardX.Validation

open Json Bytes Transaction
open Recovery (Raised)

variable {F : Type}

/-- Functions of the language and of its library on values: `str`, equality, `set`, `str.split`,
`float`, the division of two lengths, a difference in which a float takes part, the ratio of a
`SequenceMatcher`, the formats of two decimals and of six, and the exception for a missing
attribute. -/
structure RuleLibrary (F : Type) where
  str : Val F → String
  keyStr : Key F → String
  sameKey : Key F → Key F → Bool
  same : Val F → Val F → Bool
  set : Val F → Except Raised (List (Val F))
  split : String → List String
  float : Val F → Except Raised F
  div : ℕ → ℕ → F
  sub : ℤ ⊕ F → ℤ ⊕ F → Except Raised (ℤ ⊕ F)
  ratio : String → String → F
  fixed2 : F → String
  fixed6 : ℤ ⊕ F → String
  noAttribute : String → Val F → Raised
  zero : F
  eightTenths : F
  nineTenths : F

section Rules

variable [FloatText F] (lib : DivergenceLibrary F) (rules : RuleLibrary F) (id : String)
  (original replay : Val F)

/-- The comparison by hashes. -/
def exactMatch (reason : String) : Except Raised (Bool × String) := do
  let originalHash ← stableHash lib original
  let replayHash ← stableHash lib replay
  return if originalHash ≠ replayHash then (false, reason) else (true, "")

omit [FloatText F] in
/-- The threshold of a constraint. -/
def threshold (constraint : List (Key F × Val F)) (default : F) : Except Raised F :=
  rules.float ((dictGet constraint "threshold").getD (.float default))

/-! ## Keys of documents -/

/-- The keys of a value, which is read from its text if it is one. -/
def jsonKeys (v : Val F) : Option (List (Key F)) :=
  let json := match v with
    | .str s => loads s.toList
    | v => some v
  match json with
  | some (.dict kvs) => some (kvs.map Prod.fst)
  | _ => none

/-- The rule `semantic_json`: the same keys. -/
def semanticJson : Bool × String :=
  match jsonKeys original, jsonKeys replay with
  | some ks, some ls =>
    if (ks.all fun k ↦ ls.any (rules.sameKey k)) && ls.all fun l ↦ ks.any (rules.sameKey l) then
      (true, "")
    else (false, s!"Node {id}: JSON schema keys mismatch")
  | _, _ => (false, s!"Node {id}: Invalid JSON for semantic check")

/-! ## Overlapping sets -/

omit [FloatText F] in
def itemTexts (kvs : List (Key F × Val F)) : List (Val F) :=
  kvs.map fun m ↦ .str (rules.keyStr m.1 ++ ":" ++ rules.str m.2)

omit [FloatText F] in
/-- `_flatten_to_set`, with repetitions. -/
def flattenToSet : Val F → Except Raised (List (Val F))
  | .dict kvs => .ok (itemTexts rules kvs)
  | .list (.dict kvs :: vs) => do
    let rest ← vs.mapM fun
      | .dict kvs => .ok (itemTexts rules kvs)
      | v => .error (rules.noAttribute "items" v)
    return itemTexts rules kvs ++ rest.flatten
  | .str s => .ok ((rules.split s).map .str)
  | v => rules.set v

omit [FloatText F] in
/-- The number of different values. -/
def count (vs : List (Val F)) : ℕ :=
  (vs.foldl (fun seen v ↦ if seen.any (rules.same v) then seen else v :: seen) []).length

/-- The part of the rule `jaccard_overlap` in which exceptions are caught. -/
def jaccardVerdict (constraint : List (Key F × Val F)) : Except Raised (Bool × String) := do
  let o ← flattenToSet rules original
  let r ← flattenToSet rules replay
  if o = [] ∧ r = [] then return (true, "")
  else do
    let overlap := rules.div (count rules (o.filter fun v ↦ r.any (rules.same v)))
      (count rules (o ++ r))
    let threshold ← threshold rules constraint rules.eightTenths
    return if FloatText.lt overlap threshold then
      (false, s!"Node {id}: Jaccard overlap {rules.fixed2 overlap} < " ++
        rules.str (.float threshold))
    else (true, "")

/-- A computation whose exceptions make a verdict. -/
def orVerdict (x : Except Raised (Bool × String)) (reason : String) : Bool × String :=
  match x with
  | .ok verdict => verdict
  | .error e => (false, reason ++ e.message)

/-- The rule `jaccard_overlap`. -/
def jaccardOverlap (constraint : List (Key F × Val F)) : Bool × String :=
  orVerdict (jaccardVerdict rules id original replay constraint)
    s!"Node {id}: Could not compute Jaccard overlap on values: "

/-! ## Similar texts -/

def semanticTextVerdict (constraint : List (Key F × Val F)) : Except Raised (Bool × String) := do
  let similarity := rules.ratio (rules.str original) (rules.str replay)
  let threshold ← threshold rules constraint rules.nineTenths
  return if FloatText.lt similarity threshold then
    (false, s!"Node {id}: Semantic text similarity {rules.fixed2 similarity} < " ++
      rules.str (.float threshold))
  else (true, "")

/-- The rule `semantic_text`. -/
def semanticText (constraint : List (Key F × Val F)) : Bool × String :=
  orVerdict (semanticTextVerdict rules id original replay constraint)
    s!"Node {id}: Could not compute semantic text similarity: "

/-! ## Close numbers -/

omit [FloatText F] in
/-- A number, or what `float` makes of anything else. Booleans are numbers. -/
def numberOf : Val F → Except Raised (ℤ ⊕ F)
  | .bool b => .ok (.inl (if b then 1 else 0))
  | .int i => .ok (.inl i)
  | .float x => .ok (.inr x)
  | v => (rules.float v).map .inr

omit [FloatText F] in
/-- The difference of two numbers, without its sign. -/
def delta : ℤ ⊕ F → ℤ ⊕ F → Except Raised (ℤ ⊕ F)
  | .inl i, .inl j => .ok (.inl |i - j|)
  | x, y => rules.sub x y

/-- The rule `numeric_delta`. The threshold is read before exceptions are caught. -/
def numericDelta (constraint : List (Key F × Val F)) : Except Raised (Bool × String) := do
  let threshold ← threshold rules constraint rules.zero
  let difference := do
    let x ← numberOf rules original
    let y ← numberOf rules replay
    delta rules x y
  match difference with
  | .ok d => return if numLt (.inr threshold) d then
      (false, s!"Node {id}: numeric delta {rules.fixed6 d} exceeds threshold " ++
        rules.str (.float threshold))
    else (true, "")
  | .error e =>
    if e.kind = .typeError ∨ e.kind.isValueError then
      exactMatch lib original replay
        s!"Node {id}: numeric tolerance check fell back to hash; mismatch"
    else .error e

/-! ## The rule of a constraint -/

/-- What `_check_tolerance` does with a constraint. -/
def checkRule (constraint : Val F) : Except Raised (Bool × String) :=
  match constraint with
  | .dict kvs =>
    match (dictGet kvs "type").getD (.str "exact") with
    | .str "exact" => exactMatch lib original replay s!"Node {id}: exact match failed"
    | .str "semantic_json" => .ok (semanticJson rules id original replay)
    | .str "jaccard_overlap" => .ok (jaccardOverlap rules id original replay kvs)
    | .str "semantic_text" => .ok (semanticText rules id original replay kvs)
    | .str "numeric_delta" => numericDelta lib rules id original replay kvs
    | .str "ignore" => .ok (true, "")
    | type => .ok (false, s!"Node {id}: unknown tolerance type '{rules.str type}'")
  | v => .error (rules.noAttribute "get" v)

/-- The library of a comparison in which constraints have these rules. -/
def DivergenceLibrary.withRules : DivergenceLibrary F :=
  { lib with rule := fun constraint id original replay ↦
      checkRule lib rules id original replay constraint }

end Rules

end DriftGuardX.Validation
