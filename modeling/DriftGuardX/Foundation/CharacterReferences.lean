import DriftGuardX.Json.Literal
import Mathlib.Data.List.DropRight

/-!
# Character references

`html.unescape`: each character reference of a text, numeric or named, is replaced by what it
stands for. The table of names is a parameter; what is done with a name that is not in it, and with a
number that is no character, is not.
-/

namespace DriftGuardX.CharacterReferences

open DriftGuardX.Json (digitVal hexVal)

variable {text : List Char}

/-- `html.entities.html5`: what a name, with or without its semicolon, stands for. -/
abbrev NameTable := List Char → Option (List Char)

/-! ## The references of a text -/

/-- A character of a name: any but `\t`, `\n`, `\f`, a space, `<`, `&`, `#` and `;`. -/
def isNameChar (c : Char) : Bool :=
  c.toNat ∉ [0x09, 0x0A, 0x0C, 0x20, 0x3C, 0x26, 0x23, 0x3B]

/-- The semicolon a text starts with, if it does. -/
def semicolon : List Char → List Char
  | ';' :: _ => [';']
  | _ => []

/-- The group of `_charref` right after an ampersand: a decimal number, a hexadecimal number or a
name of at most thirty-two characters, with the semicolon after it. -/
def charref (rest : List Char) : Option (List Char) :=
  match rest with
  | '#' :: number =>
    let digits := number.takeWhile Char.isDigit
    if digits ≠ [] then some ('#' :: digits ++ semicolon (number.drop digits.length))
    else
      match number with
      | x :: hexadecimal =>
        let digits := hexadecimal.takeWhile fun c ↦ (hexVal c).isSome
        if (x = 'x' ∨ x = 'X') ∧ digits ≠ [] then
          some ('#' :: x :: digits ++ semicolon (hexadecimal.drop digits.length))
        else none
      | [] => none
  | _ =>
    let name := (rest.takeWhile isNameChar).take 32
    if name ≠ [] then some (name ++ semicolon (rest.drop name.length)) else none

/-! ## What a reference stands for -/

/-- `_invalid_charrefs`. -/
def invalidCharrefs : List (ℕ × ℕ) :=
  [(0x00, 0xFFFD), (0x0D, 0x0D), (0x80, 0x20AC), (0x81, 0x81), (0x82, 0x201A), (0x83, 0x0192),
    (0x84, 0x201E), (0x85, 0x2026), (0x86, 0x2020), (0x87, 0x2021), (0x88, 0x02C6), (0x89, 0x2030),
    (0x8A, 0x0160), (0x8B, 0x2039), (0x8C, 0x0152), (0x8D, 0x8D), (0x8E, 0x017D), (0x8F, 0x8F),
    (0x90, 0x90), (0x91, 0x2018), (0x92, 0x2019), (0x93, 0x201C), (0x94, 0x201D), (0x95, 0x2022),
    (0x96, 0x2013), (0x97, 0x2014), (0x98, 0x02DC), (0x99, 0x2122), (0x9A, 0x0161), (0x9B, 0x203A),
    (0x9C, 0x0153), (0x9D, 0x9D), (0x9E, 0x017E), (0x9F, 0x0178)]

/-- `_invalid_codepoints`: control characters and the code points that are no characters. -/
def isInvalidCodepoint (n : ℕ) : Bool :=
  (0x1 ≤ n ∧ n ≤ 0x8) ∨ n = 0xB ∨ (0xE ≤ n ∧ n ≤ 0x1F) ∨ (0x7F ≤ n ∧ n ≤ 0x9F) ∨
    (0xFDD0 ≤ n ∧ n ≤ 0xFDEF) ∨ 0xFFFE ≤ n % 0x10000

/-- The text a numeric reference stands for. -/
def numericText (n : ℕ) : List Char :=
  match invalidCharrefs.lookup n with
  | some codepoint => [Char.ofNat codepoint]
  | none =>
    if (0xD800 ≤ n ∧ n ≤ 0xDFFF) ∨ 0x10FFFF < n then [Char.ofNat 0xFFFD]
    else if isInvalidCodepoint n then []
    else [Char.ofNat n]

/-- The text a name stands for: its own, or that of the longest name it starts with, at least two
characters long. -/
def namedText (html5 : NameTable) (name : List Char) : List Char :=
  match html5 name with
  | some text => text
  | none =>
    ((List.range' 2 (name.length - 2)).reverse.findSome? fun x ↦
      (html5 (name.take x)).map (· ++ name.drop x)).getD ('&' :: name)

/-- The number that digits of a base denote. -/
def ofDigits (base : ℕ) (value : Char → ℕ) (digits : List Char) : ℕ :=
  digits.foldl (fun n c ↦ n * base + value c) 0

/-- The number of decimal digits that `int` reads at most. -/
def maxStrDigits : ℕ := 4300

/-- The message of the `ValueError` that `int` raises for a longer numeral. -/
def digitLimitMessage (digits : ℕ) : String :=
  "Exceeds the limit (4300 digits) for integer string conversion: value has " ++ toString digits ++
    " digits; use sys.set_int_max_str_digits() to increase the limit"

/-- `_replace_charref`. -/
def replaceCharref (html5 : NameTable) : List Char → Except String (List Char)
  | '#' :: number =>
    match number.rdropWhile (· == ';') with
    | 'x' :: digits => .ok (numericText (ofDigits 16 (fun c ↦ (hexVal c).getD 0) digits))
    | 'X' :: digits => .ok (numericText (ofDigits 16 (fun c ↦ (hexVal c).getD 0) digits))
    | digits =>
      if maxStrDigits < digits.length then .error (digitLimitMessage digits.length)
      else .ok (numericText (ofDigits 10 digitVal digits))
  | name => .ok (namedText html5 name)

/-- `_charref.sub(_replace_charref, s)`, after as many characters as the last reference had. -/
def substitute (html5 : NameTable) : ℕ → List Char → Except String (List Char)
  | _, [] => .ok []
  | skip + 1, _ :: rest => substitute html5 skip rest
  | 0, c :: rest =>
    match if c = '&' then charref rest else none with
    | some reference => do
      let replaced ← replaceCharref html5 reference
      let others ← substitute html5 reference.length rest
      return replaced ++ others
    | none => do
      let others ← substitute html5 0 rest
      return c :: others

/-- `html.unescape`, or the message of the `ValueError` it raises. -/
def unescape (html5 : NameTable) (text : List Char) : Except String (List Char) :=
  if '&' ∉ text then .ok text else substitute html5 0 text

theorem unescape_of_notMem (html5 : NameTable) (h : '&' ∉ text) :
    unescape html5 text = .ok text := by
  rw [unescape, if_pos h]

end DriftGuardX.CharacterReferences
