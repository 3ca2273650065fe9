import DriftGuardX.Json.Canonical
import DriftGuardX.Recovery.Capsule

/-!
# The integrity of a capsule

A capsule in which a field that the hash covers is written otherwise than in the one whose hash it
carries is not usable (`isUsable_of_changed`). The hash and the texts of times are taken to be
injective.
-/

namespace DriftGuardX.Recovery

open Json Bytes Transaction

namespace RollbackCapsule

variable {V F : Type} [PyValue V F]

/-- The dictionary of the artifact hashes as the encoder sees it. -/
def artifactsVal (c : RollbackCapsule V) : Val F :=
  .dict (c.artifactHashes.map fun m ↦ (PyValue.toKey m.1, .str m.2))

/-- The compatibility constraints as the encoder sees them. -/
def constraintsVal (c : RollbackCapsule V) : Val F :=
  .list (c.compatibilityConstraints.map fun k ↦ .object
    [("component_id", PyValue.toVal k.componentId),
      ("expected_version_id", .str k.expectedVersionId), ("description", .str k.description)])

variable [FloatText F] {lib : Library F} {c c' : RollbackCapsule V}

/-- A field that the integrity hash covers is not the same, whatever it means for values to be the
same. -/
def Differs (Same : Val F → Val F → Prop) (c c' : RollbackCapsule V) : Prop :=
  (c.capsuleId ≠ c'.capsuleId ∨ c.proposalId ≠ c'.proposalId ∨ c.actionType ≠ c'.actionType ∨
    c.tenantId ≠ c'.tenantId ∨ c.verifySteps ≠ c'.verifySteps ∨ c.createdAt ≠ c'.createdAt ∨
    c.expiresAt ≠ c'.expiresAt ∨ c.createdBy ≠ c'.createdBy) ∨
  ¬ Same (PyValue.toVal c.componentId) (PyValue.toVal c'.componentId) ∨
  ¬ Same (dictVal c.previousState) (dictVal c'.previousState) ∨
  ¬ Same (dictVal c.targetState) (dictVal c'.targetState) ∨
  ¬ Same c.artifactsVal c'.artifactsVal ∨ ¬ Same c.constraintsVal c'.constraintsVal ∨
  ¬ Same (dictVal c.rollbackParams) (dictVal c'.rollbackParams)

/-- The values are written as the same document. -/
def SameDoc (v w : Val F) : Prop := toDoc true v = toDoc true w

theorem not_differs_of_toDoc_payload (hiso : Function.Injective lib.isoformat) {d : Doc F}
    (h : toDoc true (c.payload lib) = some d) (h' : toDoc true (c'.payload lib) = some d) :
    ¬ Differs SameDoc c c' := by
  rw [payload] at h h'
  have hfields := forall₂_of_toDoc_object (by simp) (by simp) h h'
  simp only [List.forall₂_cons] at hfields
  obtain ⟨⟨-, h1⟩, ⟨-, h2⟩, ⟨-, h3⟩, ⟨-, h4⟩, ⟨-, h5⟩, ⟨-, h6⟩, ⟨-, h7⟩, ⟨-, h8⟩, ⟨-, h9⟩,
    ⟨-, h10⟩, ⟨-, h11⟩, ⟨-, h12⟩, ⟨-, h13⟩, ⟨-, h14⟩, -⟩ := hfields
  rintro ((hne | hne | hne | hne | hne | hne | hne | hne) | hne | hne | hne | hne | hne | hne)
  exacts [hne (toDoc_str_inj.mp h1), hne (toDoc_str_inj.mp h2), hne (toDoc_str_inj.mp h3),
    hne (toDoc_str_inj.mp h4), hne (toDoc_strs_inj.mp h11), hne (hiso (toDoc_str_inj.mp h12)),
    hne (hiso (toDoc_str_inj.mp h13)), hne (toDoc_str_inj.mp h14), hne h5, hne h6, hne h7, hne h8,
    hne h9, hne h10]

theorem computeIntegrity_eq_ok_iff {hash : String} : c.computeIntegrity lib = .ok hash ↔
    ∃ text, dumps ⟨true, false⟩ true (c.payload lib) = some text ∧
      lib.sha256 (utf8Chars text) = hash := by
  rw [computeIntegrity]
  cases dumps ⟨true, false⟩ true (c.payload lib) with
  | none => simp
  | some text => simp

theorem exists_computeIntegrity_iff : (∃ hash, c.computeIntegrity lib = .ok hash) ↔
    ∃ d, toDoc true (c.payload lib) = some d := by
  simp only [computeIntegrity_eq_ok_iff, dumps, Option.map_eq_some_iff]
  constructor
  · rintro ⟨_, _, ⟨d, hd, -⟩, -⟩
    exact ⟨d, hd⟩
  · rintro ⟨d, hd⟩
    exact ⟨_, _, ⟨d, hd, rfl⟩, rfl⟩

/-- A capsule with a changed field does not have the hash that it carries. -/
theorem verifyIntegrity_of_changed (hhash : Function.Injective lib.sha256)
    (hiso : Function.Injective lib.isoformat)
    (horiginal : c.computeIntegrity lib = .ok c'.integrityHash)
    (hserialisable : ∃ hash, c'.computeIntegrity lib = .ok hash) (hchanged : Differs SameDoc c c') :
    c'.verifyIntegrity lib = .ok false := by
  obtain ⟨text, htext, hash⟩ := computeIntegrity_eq_ok_iff.mp horiginal
  obtain ⟨hash', hcompute⟩ := hserialisable
  obtain ⟨text', htext', rfl⟩ := computeIntegrity_eq_ok_iff.mp hcompute
  have hne : lib.sha256 (utf8Chars text') ≠ c'.integrityHash := by
    intro heq
    obtain rfl : text' = text := utf8Chars_injective (hhash (heq.trans hash.symm))
    obtain ⟨d, hd, -⟩ := Option.map_eq_some_iff.mp htext
    have hdocs := (dumps_eq_dumps_iff ⟨true, false⟩).mp (htext'.trans htext.symm)
    exact not_differs_of_toDoc_payload hiso hd (hdocs.trans hd) hchanged
  rw [verifyIntegrity, hcompute, ok_bind, decide_eq_false hne]
  rfl

/-- A capsule with a changed field is refused at any time. -/
theorem isUsable_of_changed (hhash : Function.Injective lib.sha256)
    (hiso : Function.Injective lib.isoformat)
    (horiginal : c.computeIntegrity lib = .ok c'.integrityHash)
    (hserialisable : ∃ hash, c'.computeIntegrity lib = .ok hash) (hchanged : Differs SameDoc c c')
    (now : ℤ) : ∃ reason, c'.isUsable lib now = .ok (some reason) := by
  rw [isUsable]
  split
  · exact ⟨_, rfl⟩
  split
  · exact ⟨_, rfl⟩
  split
  · exact ⟨_, rfl⟩
  · rw [verifyIntegrity_of_changed hhash hiso horiginal hserialisable hchanged]
    exact ⟨_, rfl⟩

end RollbackCapsule

end DriftGuardX.Recovery
