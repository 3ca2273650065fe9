import Mathlib.Data.List.Basic
import Mathlib.Tactic.Ring

/-!
# Byte encodings

Fixed-width big-endian integers, UTF-8 strings, and fields that carry their own length. A message
built from length-prefixed fields can be taken apart again, so a digest of it commits to each field
separately: without the lengths, moving the boundary between two adjacent fields would leave the
message unchanged.
-/

namespace DriftGuardX.Bytes

/-! ## Fixed-width integers -/

/-- The last `k` base-256 digits of a number, most significant first. -/
def bigEndian : ℕ → ℕ → List UInt8
  | 0, _ => []
  | k + 1, n => bigEndian k (n / 256) ++ [UInt8.ofNat (n % 256)]

@[simp] theorem length_bigEndian (k n : ℕ) : (bigEndian k n).length = k := by
  induction k generalizing n with
  | zero => rfl
  | succ k ih => rw [bigEndian, List.length_append, ih, List.length_singleton]

theorem bigEndian_injective {k : ℕ} : ∀ {m n : ℕ}, m < 256 ^ k → n < 256 ^ k →
    bigEndian k m = bigEndian k n → m = n := by
  induction k with
  | zero =>
    intro m n hm hn _
    rw [pow_zero] at hm hn
    omega
  | succ k ih =>
    intro m n hm hn h
    obtain ⟨hhigh, hlow⟩ := List.append_inj h (by simp)
    rw [pow_succ, mul_comm] at hm hn
    have hdiv : m / 256 = n / 256 :=
      ih (Nat.div_lt_of_lt_mul hm) (Nat.div_lt_of_lt_mul hn) hhigh
    have hmod : m % 256 = n % 256 := by
      have := congrArg UInt8.toNat (List.singleton_inj.mp hlow)
      simpa using this
    omega

/-- A number packed into `k` bytes, or nothing when it does not fit. -/
def pack (k n : ℕ) : Option (List UInt8) := if n < 256 ^ k then some (bigEndian k n) else none

theorem pack_eq_some_iff {k n : ℕ} {bs : List UInt8} :
    pack k n = some bs ↔ n < 256 ^ k ∧ bigEndian k n = bs := by
  rw [pack]
  split
  · simp [*]
  · simp [*]

theorem length_of_pack {k n : ℕ} {bs : List UInt8} (h : pack k n = some bs) : bs.length = k := by
  rw [← (pack_eq_some_iff.mp h).2, length_bigEndian]

theorem pack_injective {k m n : ℕ} {bs : List UInt8} (hm : pack k m = some bs)
    (hn : pack k n = some bs) : m = n := by
  rw [pack_eq_some_iff] at hm hn
  exact bigEndian_injective hm.1 hn.1 (hm.2.trans hn.2.symm)

/-! ## Strings -/

/-- The UTF-8 bytes of a string. -/
def utf8 (s : String) : List UInt8 := s.toByteArray.data.toList

theorem utf8_injective : Function.Injective utf8 := by
  intro s t h
  have harray : s.toByteArray.data = t.toByteArray.data := Array.toList_inj.mp h
  exact String.toByteArray_inj.mp (ByteArray.ext harray)

/-- The UTF-8 bytes of a text that is given by its characters. -/
def utf8Chars (cs : List Char) : List UInt8 := cs.flatMap String.utf8EncodeChar

theorem utf8_ofList (cs : List Char) : utf8 (String.ofList cs) = utf8Chars cs := by
  rw [utf8, String.toByteArray_ofList, List.utf8Encode, utf8Chars]
  simp

theorem utf8Chars_injective : Function.Injective utf8Chars := by
  intro cs ds h
  rw [← utf8_ofList, ← utf8_ofList] at h
  exact String.ofList_injective (utf8_injective h)

theorem toNat_ofNat_toNat (b : UInt8) : (Char.ofNat b.toNat).toNat = b.toNat := by
  have hvalid : b.toNat.isValidChar := Or.inl (b.toNat_lt.trans (by decide))
  rw [Char.ofNat, dif_pos hvalid]
  rfl

/-- The string with one character for each byte: an injective digest, for instances. -/
def latin1 (bs : List UInt8) : String := String.ofList (bs.map fun b ↦ Char.ofNat b.toNat)

theorem latin1_injective : Function.Injective latin1 := by
  have hchar : Function.Injective fun b : UInt8 ↦ Char.ofNat b.toNat := by
    intro a b h
    have hcode := congrArg Char.toNat h
    rw [toNat_ofNat_toNat, toNat_ofNat_toNat] at hcode
    exact UInt8.toNat_inj.mp hcode
  intro a b h
  exact hchar.list_map (String.ofList_injective h)

theorem map_toList_latin1 (bs : List UInt8) :
    (latin1 bs).toList.map (fun c ↦ UInt8.ofNat c.toNat) = bs := by
  have hbyte : ∀ b : UInt8, UInt8.ofNat (Char.ofNat b.toNat).toNat = b := by
    intro b
    rw [toNat_ofNat_toNat, UInt8.ofNat_toNat]
  rw [latin1, String.toList_ofList, List.map_map]
  exact (List.map_congr_left fun b _ ↦ hbyte b).trans (List.map_id _)

theorem eq_nil_of_latin1 (bs : List UInt8) (h : latin1 bs = "") : bs = [] := by
  rw [← map_toList_latin1 bs, h]
  rfl

/-- A short digest, for instances that need no injectivity. -/
def checksum (bs : List UInt8) : String :=
  String.ofList (Nat.toDigits 10 (bs.foldl (fun h b ↦ (h * 257 + b.toNat + 1) % (2 ^ 61 - 1)) 0))

/-! ## Length-prefixed fields -/

/-- A field preceded by its length in four bytes, or nothing when it is too long for that. -/
def field (bs : List UInt8) : Option (List UInt8) := (pack 4 bs.length).map (· ++ bs)

theorem field_append_inj {a b x y r s : List UInt8} (ha : field a = some x) (hb : field b = some y)
    (h : x ++ r = y ++ s) : a = b ∧ r = s := by
  obtain ⟨la, hla, rfl⟩ := Option.map_eq_some_iff.mp ha
  obtain ⟨lb, hlb, rfl⟩ := Option.map_eq_some_iff.mp hb
  rw [List.append_assoc, List.append_assoc] at h
  obtain ⟨rfl, hrest⟩ := List.append_inj h (by rw [length_of_pack hla, length_of_pack hlb])
  have hlen : a.length = b.length := pack_injective hla hlb
  exact List.append_inj hrest hlen

end DriftGuardX.Bytes
