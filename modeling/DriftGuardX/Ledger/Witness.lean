import DriftGuardX.Foundation.Bytes
import DriftGuardX.Foundation.HashTree
import DriftGuardX.Json.Literal

/-!
# The Merkle root of the witness

The witness commits a list of certificate hashes as the root of a tree, in which the last hash of an
odd level is hashed with itself. The byte that marks a leaf is only hashed at the top, so nothing tells
the hashes of a level from certificate hashes.

So there are two ways for different lists to have the same root: one repeats at its end what the other
one is filled up with, or one holds the inner hashes of the other. There is no third one
(`binds_iff`), and lists of one length with the same root are the same.
-/

namespace DriftGuardX.Ledger

open Bytes Json

/-- The digest in hexadecimal. -/
structure WitnessLibrary where
  sha256 : List UInt8 → String

variable (lib : WitnessLibrary)

/-! ## The root -/

def leafHash (hash : String) : String := lib.sha256 (0 :: utf8 hash)

def internalHash (left right : String) : String := lib.sha256 (1 :: (utf8 left ++ utf8 right))

/-- The loop over the pairs of a level. -/
def newLevel : List String → List String
  | [] => []
  | [left] => [internalHash lib left left]
  | left :: right :: rest => internalHash lib left right :: newLevel rest

theorem newLevel_eq (hashes : List String) :
    newLevel lib hashes = HashTree.level (internalHash lib) hashes := by
  induction hashes using newLevel.induct with
  | case1 => rfl
  | case2 left => rfl
  | case3 left right rest ih => rw [newLevel, ih, HashTree.level, HashTree.level, HashTree.pairs, List.map_cons]

/-- `_compute_merkle_root` -/
def computeMerkleRoot : List String → String
  | [] => ""
  | [hash] => leafHash lib hash
  | left :: right :: rest => computeMerkleRoot (newLevel lib (left :: right :: rest))
termination_by hashes => hashes.length
decreasing_by
  rw [newLevel_eq, HashTree.length_level, List.length_cons, List.length_cons]
  omega

theorem computeMerkleRoot_eq (hashes : List String) :
    computeMerkleRoot lib hashes
      = (HashTree.root? (internalHash lib) hashes).elim "" (leafHash lib) := by
  induction hashes using computeMerkleRoot.induct lib with
  | case1 => rw [computeMerkleRoot, HashTree.root?, Option.elim_none]
  | case2 hash => rw [computeMerkleRoot, HashTree.root?, Option.elim_some]
  | case3 left right rest ih => rw [computeMerkleRoot, ih, newLevel_eq, HashTree.root?]

/-! ## Binding -/

/-- 64 hexadecimal characters. -/
def IsHash (text : String) : Prop :=
  text.toList.length = 64 ∧ ∀ c ∈ text.toList, (hexVal c).isSome = true

/-- The byte strings whose digests are taken for the root of a list. -/
def messages (hashes : List String) : List (List UInt8) :=
  ((HashTree.root? (internalHash lib) hashes).toList.map fun root ↦ 0 :: utf8 root) ++
    (HashTree.hashed (internalHash lib) hashes).map fun p ↦ 1 :: (utf8 p.1 ++ utf8 p.2)

/-- Digests are hashes, and no two of the byte strings hashed for two lists have the same one. -/
structure CollisionFree (xs ys : List String) : Prop where
  isHash : ∀ message, IsHash (lib.sha256 message)
  injective : ∀ m ∈ messages lib xs ++ messages lib ys, ∀ m' ∈ messages lib xs ++ messages lib ys,
    lib.sha256 m = lib.sha256 m' → m = m'

variable {lib} {xs ys : List String}

theorem utf8Size_of_hexVal {c : Char} (h : (hexVal c).isSome = true) : c.utf8Size = 1 := by
  have hval : c.val ≤ 127 := by
    rw [hexVal] at h
    split_ifs at h with hdigit hlower hupper
    · rw [Char.isDigit, Bool.and_eq_true, decide_eq_true_eq, decide_eq_true_eq] at hdigit
      exact UInt32.le_trans hdigit.2 (by decide)
    · exact UInt32.le_trans hlower.2 (by decide)
    · exact UInt32.le_trans hupper.2 (by decide)
    · contradiction
  exact if_pos hval

theorem length_utf8_of_isHash {text : String} (h : IsHash text) : (utf8 text).length = 64 := by
  have hbytes : ∀ cs : List Char, (∀ c ∈ cs, (hexVal c).isSome = true) →
      (utf8Chars cs).length = cs.length := by
    intro cs hcs
    induction cs with
    | nil => rfl
    | cons c cs ih =>
      rw [utf8Chars, List.flatMap_cons, List.length_append, String.length_utf8EncodeChar,
        utf8Size_of_hexVal (hcs c List.mem_cons_self), ← utf8Chars,
        ih fun d hd ↦ hcs d (List.mem_cons_of_mem c hd), List.length_cons, Nat.add_comm]
  rw [← String.ofList_toList (s := text), utf8_ofList, hbytes _ h.2, h.1]

theorem noCollision_of_collisionFree (h : CollisionFree lib xs ys) (hxs : ∀ x ∈ xs, IsHash x)
    (hys : ∀ y ∈ ys, IsHash y) : HashTree.NoCollision (internalHash lib) xs ys := by
  have hmem : ∀ p, (p ∈ HashTree.hashed (internalHash lib) xs ∨
      p ∈ HashTree.hashed (internalHash lib) ys) →
      (1 :: (utf8 p.1 ++ utf8 p.2)) ∈ messages lib xs ++ messages lib ys ∧ IsHash p.1 := by
    rintro p (hp | hp)
    · refine ⟨List.mem_append_left _ (List.mem_append_right _ (List.mem_map_of_mem hp)), ?_⟩
      exact ((HashTree.forall_hashed (fun _ _ ↦ h.isHash _) hxs).1 p hp).1
    · refine ⟨List.mem_append_right _ (List.mem_append_right _ (List.mem_map_of_mem hp)), ?_⟩
      exact ((HashTree.forall_hashed (fun _ _ ↦ h.isHash _) hys).1 p hp).1
  intro p hp q hq heq
  obtain ⟨hpmem, hphash⟩ := hmem p hp
  obtain ⟨hqmem, hqhash⟩ := hmem q hq
  -- two hashes one after the other can be told apart by their length
  have hbytes := (List.cons.inj (h.injective _ hpmem _ hqmem heq)).2
  obtain ⟨hfirst, hsecond⟩ := List.append_inj hbytes
    (by rw [length_utf8_of_isHash hphash, length_utf8_of_isHash hqhash])
  exact Prod.ext (utf8_injective hfirst) (utf8_injective hsecond)

theorem leafHash_ne (h : CollisionFree lib xs ys) (hash : String) : leafHash lib hash ≠ "" := by
  intro heq
  have hlength := (h.isHash (0 :: utf8 hash)).1
  change (leafHash lib hash).toList.length = 64 at hlength
  rw [heq] at hlength
  contradiction

theorem computeMerkleRoot_eq_iff (h : CollisionFree lib xs ys) :
    computeMerkleRoot lib xs = computeMerkleRoot lib ys ↔
      HashTree.root? (internalHash lib) xs = HashTree.root? (internalHash lib) ys := by
  rw [computeMerkleRoot_eq, computeMerkleRoot_eq]
  cases hx : HashTree.root? (internalHash lib) xs with
  | none =>
    cases hy : HashTree.root? (internalHash lib) ys with
    | none => exact iff_of_true rfl rfl
    | some y => exact iff_of_false (leafHash_ne h y).symm (by simp)
  | some x =>
    cases hy : HashTree.root? (internalHash lib) ys with
    | none => exact iff_of_false (leafHash_ne h x) (by simp)
    | some y =>
      refine ⟨fun heq ↦ ?_, fun heq ↦ by rw [heq]⟩
      have hxmem : (0 :: utf8 x) ∈ messages lib xs ++ messages lib ys := by
        simp [messages, hx]
      have hymem : (0 :: utf8 y) ∈ messages lib xs ++ messages lib ys := by
        simp [messages, hy]
      rw [utf8_injective (List.cons.inj (h.injective _ hxmem _ hymem heq)).2]

/-- **What the root binds.** For lists of hashes without a collision, equal roots mean equal lists
exactly when the lists are equal or not alike: when, filled up at their ends to perfect trees, they
differ at some place of the shallower tree, where the deeper one has the hash of a block. -/
theorem binds_iff (lib : WitnessLibrary) (xs ys : List String) (hxs : ∀ x ∈ xs, IsHash x)
    (hys : ∀ y ∈ ys, IsHash y) (h : CollisionFree lib xs ys) :
    (computeMerkleRoot lib xs = computeMerkleRoot lib ys → xs = ys) ↔
      xs = ys ∨ ¬ HashTree.Alike (internalHash lib) xs ys := by
  have hno := noCollision_of_collisionFree h hxs hys
  rw [computeMerkleRoot_eq_iff h]
  by_cases hsame : xs = ys
  · exact iff_of_true (fun _ ↦ hsame) (Or.inl hsame)
  · have halike : HashTree.root? (internalHash lib) xs = HashTree.root? (internalHash lib) ys ↔
        HashTree.Alike (internalHash lib) xs ys := by
      rcases eq_or_ne xs [] with rfl | hxne
      · have hyne : ys ≠ [] := fun hnil ↦ hsame hnil.symm
        refine iff_of_false ?_ fun halike ↦ halike.1 rfl
        rw [HashTree.root?_eq_perfect _ hyne, HashTree.root?]
        exact fun heq ↦ Option.some_ne_none _ heq.symm
      · rcases eq_or_ne ys [] with rfl | hyne
        · refine iff_of_false ?_ fun halike ↦ halike.2.1 rfl
          rw [HashTree.root?_eq_perfect _ hxne, HashTree.root?]
          exact Option.some_ne_none _
        · exact HashTree.root?_eq_root?_iff hxne hyne hno
    rw [halike]
    simp [hsame]

/-! ## Some lists -/

/-- A digest of 64 digits. -/
def digest64 (message : List UInt8) : String :=
  let value := message.foldl (fun h b ↦ (h * 257 + b.toNat + 1) % 2 ^ 256) 0
  String.ofList ((List.range 64).map fun i ↦ hexChar (value / 16 ^ i % 16))

theorem isHash_digest64 (message : List UInt8) : IsHash (digest64 message) := by
  rw [IsHash, digest64, String.toList_ofList, List.length_map, List.length_range]
  refine ⟨rfl, fun c hc ↦ ?_⟩
  obtain ⟨i, -, rfl⟩ := List.mem_map.mp hc
  rw [hexVal_hexChar (Nat.mod_lt _ (by decide))]
  rfl

def sampleWitness : WitnessLibrary := ⟨digest64⟩

/-- The hash that repeats a digit. -/
def sampleHash (digit : Char) : String := String.ofList (List.replicate 64 digit)

theorem isHash_of_mem_sampleHash (digits : List Char)
    (h : (digits.all fun c ↦ (hexVal c).isSome) = true) :
    ∀ x ∈ digits.map sampleHash, IsHash x := by
  intro x hx
  obtain ⟨digit, hdigit, rfl⟩ := List.mem_map.mp hx
  rw [IsHash, sampleHash, String.toList_ofList, List.length_replicate]
  exact ⟨rfl, fun c hc ↦ List.eq_of_mem_replicate hc ▸ List.all_eq_true.mp h digit hdigit⟩

theorem collisionFree_sampleHash : CollisionFree sampleWitness [sampleHash 'a', sampleHash 'b']
    [sampleHash 'a', sampleHash 'c'] where
  isHash := isHash_digest64
  injective := by
    have htwo : ∀ x y, messages sampleWitness [x, y]
        = [0 :: utf8 (internalHash sampleWitness x y), 1 :: (utf8 x ++ utf8 y)] := by
      intro x y
      simp [messages, HashTree.hashed, HashTree.root?, HashTree.level, HashTree.pairs]
    rw [htwo, htwo]
    decide +kernel

theorem binds_sampleHash :
    (∀ x ∈ [sampleHash 'a', sampleHash 'b'], IsHash x) ∧
    (∀ y ∈ [sampleHash 'a', sampleHash 'c'], IsHash y) ∧
    CollisionFree sampleWitness [sampleHash 'a', sampleHash 'b'] [sampleHash 'a', sampleHash 'c'] ∧
    ((computeMerkleRoot sampleWitness [sampleHash 'a', sampleHash 'b']
        = computeMerkleRoot sampleWitness [sampleHash 'a', sampleHash 'c'] →
      [sampleHash 'a', sampleHash 'b'] = [sampleHash 'a', sampleHash 'c']) ↔
      [sampleHash 'a', sampleHash 'b'] = [sampleHash 'a', sampleHash 'c'] ∨
        ¬ HashTree.Alike (internalHash sampleWitness) [sampleHash 'a', sampleHash 'b']
          [sampleHash 'a', sampleHash 'c']) := by
  have hxs := isHash_of_mem_sampleHash ['a', 'b'] rfl
  have hys := isHash_of_mem_sampleHash ['a', 'c'] rfl
  exact ⟨hxs, hys, collisionFree_sampleHash, binds_iff sampleWitness
    [sampleHash 'a', sampleHash 'b'] [sampleHash 'a', sampleHash 'c'] hxs hys
    collisionFree_sampleHash⟩

theorem collisionFree_repeated : CollisionFree sampleWitness
    [sampleHash 'a', sampleHash 'b', sampleHash 'c']
    [sampleHash 'a', sampleHash 'b', sampleHash 'c', sampleHash 'c'] where
  isHash := isHash_digest64
  injective := by
    have hsame : ∀ x y z, messages sampleWitness [x, y, z, z] = messages sampleWitness [x, y, z] := by
      intro x y z
      simp [messages, HashTree.hashed, HashTree.root?, HashTree.level, HashTree.pairs]
    have hthree : ∀ x y z, messages sampleWitness [x, y, z]
        = [0 :: utf8 (internalHash sampleWitness (internalHash sampleWitness x y)
            (internalHash sampleWitness z z)), 1 :: (utf8 x ++ utf8 y), 1 :: (utf8 z ++ utf8 z),
          1 :: (utf8 (internalHash sampleWitness x y) ++ utf8 (internalHash sampleWitness z z))] := by
      intro x y z
      simp [messages, HashTree.hashed, HashTree.root?, HashTree.level, HashTree.pairs]
    rw [hsame, hthree]
    decide +kernel

/-- Three hashes have the root of four of which the last is repeated. -/
theorem not_binds_sampleHash :
    ((∀ x ∈ [sampleHash 'a', sampleHash 'b', sampleHash 'c'], IsHash x) ∧
      (∀ y ∈ [sampleHash 'a', sampleHash 'b', sampleHash 'c', sampleHash 'c'], IsHash y) ∧
      CollisionFree sampleWitness [sampleHash 'a', sampleHash 'b', sampleHash 'c']
        [sampleHash 'a', sampleHash 'b', sampleHash 'c', sampleHash 'c']) ∧
    computeMerkleRoot sampleWitness [sampleHash 'a', sampleHash 'b', sampleHash 'c']
        = computeMerkleRoot sampleWitness
            [sampleHash 'a', sampleHash 'b', sampleHash 'c', sampleHash 'c'] ∧
      [sampleHash 'a', sampleHash 'b', sampleHash 'c']
        ≠ [sampleHash 'a', sampleHash 'b', sampleHash 'c', sampleHash 'c'] := by
  refine ⟨⟨isHash_of_mem_sampleHash ['a', 'b', 'c'] rfl,
    isHash_of_mem_sampleHash ['a', 'b', 'c', 'c'] rfl, collisionFree_repeated⟩, ?_, by simp⟩
  rw [computeMerkleRoot, computeMerkleRoot]
  simp only [newLevel]

end DriftGuardX.Ledger
