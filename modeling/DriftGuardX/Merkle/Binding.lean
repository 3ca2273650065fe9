import DriftGuardX.Foundation.Transaction
import DriftGuardX.Merkle.Dag

/-!
# What a node hash binds

Under an injective digest a hash of the current version determines the JSON text of the payload and,
up to their order, the hashes of the parents. The first byte tells leaves from other nodes, and the
next one tells the versions apart: the old one goes on with a hexadecimal digit. Then come the
fields with their lengths.
-/

namespace DriftGuardX.Merkle

open Json Bytes Transaction
open Recovery (Raised)

variable {F : Type} [FloatText F] {lib : MerkleLibrary F}

/-! ## Fields with their lengths -/

/-- Two messages that start with a field and its length agree on the field and on what follows. -/
theorem lengthPrefixEncode_append_inj {a b x y r s : List UInt8}
    (ha : lengthPrefixEncode a = .ok x) (hb : lengthPrefixEncode b = .ok y)
    (h : x ++ r = y ++ s) : a = b ∧ r = s := by
  rw [lengthPrefixEncode] at ha hb
  split at ha
  · rename_i la hla
    split at hb
    · rename_i lb hlb
      obtain rfl := Except.ok.inj ha
      obtain rfl := Except.ok.inj hb
      rw [List.append_assoc, List.append_assoc] at h
      obtain ⟨rfl, hrest⟩ := List.append_inj h (by rw [length_of_pack hla, length_of_pack hlb])
      exact List.append_inj hrest (pack_injective hla hlb)
    · exact nomatch hb
  · exact nomatch ha

theorem length_lengthPrefixEncode {a x : List UInt8} (h : lengthPrefixEncode a = .ok x) :
    8 ≤ x.length := by
  rw [lengthPrefixEncode] at h
  split at h
  · rename_i la hla
    obtain rfl := Except.ok.inj h
    rw [List.length_append, length_of_pack hla]
    exact Nat.le_add_right 8 _
  · exact nomatch h

theorem eq_utf8_of_encodeAscii {s : String} {bytes : List UInt8} (h : encodeAscii s = .ok bytes) :
    bytes = utf8 s := by
  rw [encodeAscii] at h
  split at h
  · exact (Except.ok.inj h).symm
  · exact nomatch h

theorem encodeParents_injective {ps qs : List String} {bytes : List UInt8}
    (hp : encodeParents ps = .ok bytes) (hq : encodeParents qs = .ok bytes) : ps = qs := by
  -- an encoding that is not of the empty list has a length in it
  have hcons : ∀ {p ps bytes}, encodeParents (p :: ps) = .ok bytes → bytes ≠ [] := by
    rintro p ps _ h rfl
    obtain ⟨_, -, h⟩ := bind_eq_ok_iff.mp h
    obtain ⟨x, hx, h⟩ := bind_eq_ok_iff.mp h
    obtain ⟨rest, -, h⟩ := bind_eq_ok_iff.mp h
    have hnil := List.append_eq_nil_iff.mp (pure_eq_ok_iff.mp h)
    have hlength := length_lengthPrefixEncode hx
    rw [hnil.1] at hlength
    exact absurd hlength (by decide)
  induction ps generalizing qs bytes with
  | nil =>
    obtain rfl := Except.ok.inj hp
    cases qs with
    | nil => rfl
    | cons q qs => exact absurd rfl (hcons hq)
  | cons p ps ih =>
    cases qs with
    | nil =>
      obtain rfl := Except.ok.inj hq
      exact absurd rfl (hcons hp)
    | cons q qs =>
      obtain ⟨a, ha, hp⟩ := bind_eq_ok_iff.mp hp
      obtain ⟨x, hx, hp⟩ := bind_eq_ok_iff.mp hp
      obtain ⟨r, hr, hp⟩ := bind_eq_ok_iff.mp hp
      obtain ⟨b, hb, hq⟩ := bind_eq_ok_iff.mp hq
      obtain ⟨y, hy, hq⟩ := bind_eq_ok_iff.mp hq
      obtain ⟨s, hs, hq⟩ := bind_eq_ok_iff.mp hq
      have hbytes := (pure_eq_ok_iff.mp hp).trans (pure_eq_ok_iff.mp hq).symm
      obtain ⟨rfl, rfl⟩ := lengthPrefixEncode_append_inj hx hy hbytes
      rw [eq_utf8_of_encodeAscii ha] at hb
      rw [utf8_injective (eq_utf8_of_encodeAscii hb), ih hr hs]

theorem sorted_eq_iff {ps qs : List String} : sorted ps = sorted qs ↔ ps.Perm qs := by
  have hp : (sorted ps).Perm ps := List.perm_insertionSort _ ps
  have hq : (sorted qs).Perm qs := List.perm_insertionSort _ qs
  constructor
  · exact fun h ↦ hp.symm.trans (h ▸ hq)
  · exact fun h ↦ (hp.trans (h.trans hq.symm)).eq_of_pairwise' (List.pairwise_insertionSort _ ps)
      (List.pairwise_insertionSort _ qs)

/-! ## The versions -/

theorem lt_of_hexadecimal {c : Char} (h : (hexVal c).isSome = true) : c.toNat < 128 := by
  by_contra hlarge
  have hdigit : c.isDigit = false := by
    rw [Bool.eq_false_iff]
    intro hc
    have hle : c.toNat ≤ 57 := (Char.isDigit_iff_toNat.mp hc).2
    omega
  have hle : ∀ d : Char, d.toNat < 128 → ¬ c ≤ d := fun d hd hcd ↦ by
    have hcodes : c.toNat ≤ d.toNat := hcd
    omega
  rw [hexVal, if_neg (by simp [hdigit]), if_neg fun hc ↦ hle 'f' (by decide) hc.2,
    if_neg fun hc ↦ hle 'F' (by decide) hc.2] at h
  exact absurd h (by simp)

/-- A text that starts with a hexadecimal digit is not the name of a version and what follows. -/
theorem utf8_ne_of_hexadecimal {s : String} (hs : s ≠ "")
    (hhex : ∀ c ∈ s.toList, (hexVal c).isSome = true) (t : String) (rest : List UInt8) :
    utf8 (s ++ t) ≠ utf8 "V1" ++ rest := by
  intro h
  obtain ⟨c, cs, hcs⟩ : ∃ c cs, s.toList = c :: cs :=
    List.exists_cons_of_ne_nil fun hnil ↦ hs (String.toList_eq_nil_iff.mp hnil)
  have hc : (hexVal c).isSome = true := hhex c (hcs ▸ List.mem_cons_self)
  have hlt := lt_of_hexadecimal hc
  have hsize : c.utf8Size = 1 := Char.utf8Size_eq_one_iff.mpr (by
    rw [UInt32.le_iff_toNat_le]
    exact Nat.le_of_lt_succ hlt)
  have hutf8 : utf8 (s ++ t) = c.val.toUInt8 :: utf8Chars (cs ++ t.toList) := by
    rw [← String.ofList_toList (s := s ++ t), utf8_ofList, String.toList_append, hcs,
      List.cons_append, utf8Chars, List.flatMap_cons, String.utf8EncodeChar_eq_singleton hsize]
    rfl
  rw [hutf8] at h
  have hhead : c.val.toUInt8 = 86 := (List.cons.inj h).1
  have hcode : c.toNat = 86 := by
    have hbyte := congrArg UInt8.toNat hhead
    rw [UInt32.toNat_toUInt8] at hbyte
    exact (Nat.mod_eq_of_lt (hlt.trans (by decide))).symm.trans hbyte
  have heq : c = 'V' := Char.toNat_inj.mp hcode
  exact absurd (heq ▸ hc) (by decide)

/-! ## Hashes -/

theorem payloadBytes_eq_ok_iff {payload : Val F} {bytes : List UInt8} :
    payloadBytes lib payload = .ok bytes ↔
      ∃ text, dumps ⟨true, false⟩ true payload = some text ∧ utf8Chars text = bytes := by
  rw [payloadBytes]
  split
  · rename_i text htext
    simp [htext]
  · rename_i hnone
    simp [hnone]

theorem ne_empty_of_contentHash {payload : Val F} {hash : String}
    (h : contentHash lib payload = .ok hash) :
    hash ≠ "" ∧ ∀ c ∈ hash.toList, (hexVal c).isSome = true := by
  obtain ⟨bytes, -, h⟩ := bind_eq_ok_iff.mp h
  obtain rfl := pure_eq_ok_iff.mp h
  exact ⟨lib.sha256_ne_empty bytes, lib.sha256_hexadecimal bytes⟩

/-- The fields of what is hashed in the current version. -/
theorem exists_of_preimage {payload : Val F} {parentHashes : List String} {bytes : List UInt8}
    (h : preimage lib payload parentHashes "v1" = .ok bytes) :
    ∃ domain text encoded parents, dumps ⟨true, false⟩ true payload = some text ∧
      lengthPrefixEncode (utf8Chars text) = .ok encoded ∧
      encodeParents (sorted parentHashes) = .ok parents ∧
      bytes = domain :: (utf8 "V1" ++ (encoded ++ parents)) := by
  rw [preimage, if_neg (by decide), if_pos rfl] at h
  obtain ⟨_, hpayload, h⟩ := bind_eq_ok_iff.mp h
  obtain ⟨encoded, hencoded, h⟩ := bind_eq_ok_iff.mp h
  obtain ⟨parents, hparents, h⟩ := bind_eq_ok_iff.mp h
  have hbytes := pure_eq_ok_iff.mp h
  rw [List.append_assoc] at hbytes
  obtain ⟨text, htext, rfl⟩ := payloadBytes_eq_ok_iff.mp hpayload
  exact ⟨_, text, encoded, parents, htext, hencoded, hparents, hbytes.symm⟩

/-- **A hash of the current version binds** the text of the payload and the hashes of the parents,
up to their order, whatever version the other node has. -/
theorem binds_of_computeHash (hinj : Function.Injective lib.sha256) {payload payload' : Val F}
    {parentHashes parentHashes' : List String} {version' hash : String}
    (h : computeHash lib payload parentHashes "v1" = .ok hash)
    (h' : computeHash lib payload' parentHashes' version' = .ok hash) :
    dumps ⟨true, false⟩ true payload' = dumps ⟨true, false⟩ true payload ∧
      parentHashes'.Perm parentHashes := by
  obtain ⟨bytes, hbytes, hhash⟩ := bind_eq_ok_iff.mp h
  obtain ⟨bytes', hbytes', hhash'⟩ := bind_eq_ok_iff.mp h'
  obtain rfl : bytes = bytes' :=
    hinj ((pure_eq_ok_iff.mp hhash).trans (pure_eq_ok_iff.mp hhash').symm)
  obtain ⟨domain, text, encoded, parents, htext, hencoded, hparents, rfl⟩ :=
    exists_of_preimage hbytes
  by_cases hnew : version' = "v1"
  · subst hnew
    obtain ⟨domain', text', encoded', parents', htext', hencoded', hparents', heq⟩ :=
      exists_of_preimage hbytes'
    have hfields := List.append_cancel_left (List.cons.inj heq).2
    obtain ⟨hutf8, rfl⟩ := lengthPrefixEncode_append_inj hencoded hencoded' hfields
    rw [htext, htext', utf8Chars_injective hutf8]
    exact ⟨rfl, sorted_eq_iff.mp (encodeParents_injective hparents' hparents)⟩
  · rw [preimage, if_neg hnew] at hbytes'
    split at hbytes'
    · -- the old version goes on with a digest
      obtain ⟨content, hcontent, heq⟩ := bind_eq_ok_iff.mp hbytes'
      obtain ⟨hne, hhex⟩ := ne_empty_of_contentHash hcontent
      have htail := (List.cons.inj (pure_eq_ok_iff.mp heq)).2
      exact absurd htail (utf8_ne_of_hexadecimal hne hhex _ _)
    · exact nomatch hbytes'

end DriftGuardX.Merkle
