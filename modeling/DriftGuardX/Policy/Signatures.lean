import DriftGuardX.Foundation.Bytes
import DriftGuardX.Json.Literal
import Mathlib.Logic.Encodable.Basic
import Mathlib.Logic.Equiv.List

/-!
# Signatures by key

The signature of bytes by a key, and how a stored signature is verified: an absent or empty one is
refused, any other is compared with the expected one, and the comparison raises on texts that are
not ASCII.
-/

namespace DriftGuardX.Policy

open Bytes Json

def IsAscii (text : String) : Prop := ∀ c ∈ text.toList, c.toNat < 128

instance (text : String) : Decidable (IsAscii text) :=
  inferInstanceAs (Decidable (∀ c ∈ text.toList, c.toNat < 128))

/-- HMAC-SHA256 in base64, taken as injective in the message. -/
structure Signing where
  sign : String → List UInt8 → String
  sign_injective : ∀ key, Function.Injective (sign key)
  sign_ne_empty : ∀ key bytes, sign key bytes ≠ ""
  sign_isAscii : ∀ key bytes, IsAscii (sign key bytes)

/-- `hmac.compare_digest` of two strings, which raises when one is not ASCII. -/
def compareDigest (a b : String) : Option Bool :=
  if IsAscii a ∧ IsAscii b then some (a = b) else none

namespace Signing

variable (signing : Signing) {key : String} {signature : Option String} {data : List UInt8}

/-- The check of a stored signature of some bytes. -/
def verify (key : String) (signature : Option String) (data : List UInt8) : Option Bool :=
  match signature with
  | none => some false
  | some text => if text = "" then some false else compareDigest (signing.sign key data) text

theorem verify_eq_true_iff :
    signing.verify key signature data = some true ↔ signature = some (signing.sign key data) := by
  rw [verify.eq_def]
  cases signature with
  | none => simp
  | some text =>
    by_cases hempty : text = ""
    · simp only [hempty, if_true, Option.some.injEq]
      exact iff_of_false (by simp) (signing.sign_ne_empty key data).symm
    · simp only [hempty, if_false, compareDigest, Option.some.injEq]
      by_cases hascii : IsAscii text
      · rw [if_pos ⟨signing.sign_isAscii key data, hascii⟩, Option.some.injEq, decide_eq_true_iff]
        exact eq_comm
      · rw [if_neg fun h ↦ hascii h.2]
        refine iff_of_false (by simp) ?_
        rintro rfl
        exact hascii (signing.sign_isAscii key data)

theorem data_eq_of_verify {signature' : Option String} {data' : List UInt8}
    (h : signing.verify key signature data = some true)
    (h' : signing.verify key signature' data' = some true) (hsame : signature = signature') :
    data = data' := by
  rw [verify_eq_true_iff] at h h'
  rw [h, h', Option.some.injEq] at hsame
  exact signing.sign_injective key hsame

end Signing

/-- Two checks, the second of which is made when the first one passes. -/
def checkBoth (a b : Option Bool) : Option Bool := a.bind fun ok ↦ if ok then b else some false

theorem checkBoth_eq_true_iff {a b : Option Bool} :
    checkBoth a b = some true ↔ a = some true ∧ b = some true := by
  cases a with
  | none => simp [checkBoth]
  | some ok => cases ok <;> simp [checkBoth]

/-- The signature that writes a number for the bytes. -/
def decimalSigning : Signing where
  sign _ bytes := String.ofList (natText (Encodable.encode (bytes.map UInt8.toNat)))
  sign_injective key := by
    intro bytes bytes' h
    have htext := congrArg natOfText (String.ofList_injective h)
    rw [natOfText_natText, natOfText_natText, Option.some.injEq] at htext
    have hnats := Encodable.encode_injective htext
    exact List.map_injective_iff.mpr (fun a b hab ↦ UInt8.toNat_inj.mp hab) hnats
  sign_ne_empty key bytes h := by
    have htext := congrArg String.toList h
    rw [String.toList_ofList] at htext
    exact natText_ne_nil _ htext
  sign_isAscii key bytes c hc := by
    rw [String.toList_ofList] at hc
    obtain ⟨d, hd, rfl⟩ := exists_digit_of_mem_natText hc
    have hdigit : ∀ d < 10, (digitChar d).toNat < 128 := by decide
    exact hdigit d hd

end DriftGuardX.Policy
