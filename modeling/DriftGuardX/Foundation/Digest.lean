import DriftGuardX.Foundation.Bytes
import DriftGuardX.Json.Literal

/-!
# A digest in hexadecimal

An injective digest whose text has hexadecimal digits only, for instances.
-/

namespace DriftGuardX.Bytes

open Json

/-- The two digits of a byte. -/
def hexByte (b : UInt8) : List Char := [hexChar (b.toNat / 16 % 16), hexChar (b.toNat % 16)]

theorem hexByte_injective {b c : UInt8} (h : hexByte b = hexByte c) : b = c := by
  have hdigit : ∀ m n : ℕ, hexChar (m % 16) = hexChar (n % 16) → m % 16 = n % 16 := by
    intro m n heq
    have hval := congrArg hexVal heq
    rwa [hexVal_hexChar (Nat.mod_lt m (by decide)), hexVal_hexChar (Nat.mod_lt n (by decide)),
      Option.some.injEq] at hval
  obtain ⟨hhigh, hlow⟩ := List.cons.inj h
  have hhigh := hdigit _ _ hhigh
  have hlow := hdigit _ _ (List.cons.inj hlow).1
  have hb := b.toNat_lt
  have hc := c.toNat_lt
  exact UInt8.toNat_inj.mp (by omega)

/-- The bytes in hexadecimal after a digit. -/
def hexDigest (bytes : List UInt8) : String := String.ofList ('0' :: bytes.flatMap hexByte)

theorem hexDigest_injective : Function.Injective hexDigest := by
  intro bytes bytes' h
  have hdigits := (List.cons.inj (String.ofList_injective h)).2
  induction bytes generalizing bytes' with
  | nil =>
    cases bytes' with
    | nil => rfl
    | cons _ _ => exact nomatch hdigits
  | cons b bytes ih =>
    cases bytes' with
    | nil => exact nomatch hdigits
    | cons c bytes' =>
      obtain ⟨hbyte, hrest⟩ := List.append_inj hdigits rfl
      rw [hexByte_injective hbyte, ih (congrArg (fun cs ↦ String.ofList ('0' :: cs)) hrest) hrest]

theorem hexDigest_hexadecimal (bytes : List UInt8) :
    ∀ c ∈ (hexDigest bytes).toList, (hexVal c).isSome = true := by
  have hdigit : ∀ n, (hexVal (hexChar (n % 16))).isSome = true := by
    intro n
    rw [hexVal_hexChar (Nat.mod_lt n (by decide))]
    rfl
  rw [hexDigest, String.toList_ofList]
  refine List.forall_mem_cons.mpr ⟨rfl, fun c hc ↦ ?_⟩
  obtain ⟨b, -, hb⟩ := List.mem_flatMap.mp hc
  rcases List.mem_cons.mp hb with rfl | hb
  · exact hdigit _
  · rw [List.mem_singleton.mp hb]
    exact hdigit _

end DriftGuardX.Bytes
