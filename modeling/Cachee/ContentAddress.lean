import Cachee.Archive.Bundle
import Cachee.Crypto
import Cachee.Slot.CacheSlot

/-!
# What a content address determines

The digest of a fingerprint hashes the concatenation of its strings without their lengths.
Two fingerprints with equal hashes and equal concatenations have the same digest, however the
concatenation is cut into engine, version, circuit and hardware.  So a digest determines a
fingerprint exactly up to the places of these cuts, and a content address determines a bundle
or a slot up to the same.
-/

open Text

namespace Cachee

namespace ComputationFingerprint

/-- The part of the digest input after the three hashes. -/
def identityBytes (f : ComputationFingerprint) : Bytes :=
  asBytes f.version.engine ++ (asBytes f.version.version
    ++ (circuitDigestBytes f.version.circuitId ++ hardwareDigestBytes f.hardwareClass))

/-- Two fingerprints have equal hashes and equal concatenations of their strings. -/
structure SameDigestInput (f g : ComputationFingerprint) : Prop where
  inputHash : f.inputHash = g.inputHash
  computationHash : f.computationHash = g.computationHash
  parameterHash : f.parameterHash = g.parameterHash
  identityBytes : f.identityBytes = g.identityBytes

/-- The strings of two fingerprints are cut at the same places: their engines and versions
have equal lengths, and they both have circuits of equal length or both have none. -/
structure SameCuts (f g : ComputationFingerprint) : Prop where
  engine : (asBytes f.version.engine).length = (asBytes g.version.engine).length
  version : (asBytes f.version.version).length = (asBytes g.version.version).length
  circuitId : f.version.circuitId.map (fun cid => (asBytes cid).length)
    = g.version.circuitId.map fun cid => (asBytes cid).length

variable {f g : ComputationFingerprint}

/-- Digest inputs are equal when hashes and concatenations are. -/
theorem digestInput_eq_iff :
  f.digestInput = g.digestInput ↔ f.SameDigestInput g
  := by
  simp only [digestInput, List.append_assoc, Block.append_inj_iff]
  constructor
  · rintro ⟨hinput, hcomputation, hparameter, hidentity⟩
    exact ⟨hinput, hcomputation, hparameter, hidentity⟩
  · rintro ⟨hinput, hcomputation, hparameter, hidentity⟩
    exact ⟨hinput, hcomputation, hparameter, hidentity⟩

/-- The hardware bytes determine the hardware class, as nothing follows them. -/
theorem hardwareDigestBytes_injective :
  Function.Injective hardwareDigestBytes
  := by
  rintro (_ | _ | _ | id) (_ | _ | _ | id') h
  all_goals first | rfl | skip
  all_goals simp [hardwareDigestBytes] at h
  rw [asBytes_injective h]

/-- Circuits with equal presence and length are determined by their bytes. -/
theorem circuitId_eq {c d : Option String}
    (hlen : c.map (fun cid => (asBytes cid).length) = d.map fun cid => (asBytes cid).length)
    (h : circuitDigestBytes c = circuitDigestBytes d) :
  c = d
  := by
  cases c with
  | none =>
    cases d with
    | none => rfl
    | some _ => simp at hlen
  | some cid =>
    cases d with
    | none => simp at hlen
    | some cid' => rw [asBytes_injective h]

/-- Fingerprints with equal hashes and concatenations that are cut at the same places are
equal. -/
theorem SameDigestInput.eq (h : f.SameDigestInput g) (hcuts : f.SameCuts g) :
  f = g
  := by
  obtain ⟨hinput, hcomputation, hparameter, hidentity⟩ := h
  obtain ⟨hengine, hrest⟩ := List.append_inj hidentity hcuts.engine
  obtain ⟨hversion, hrest⟩ := List.append_inj hrest hcuts.version
  have hcircuitLen : (circuitDigestBytes f.version.circuitId).length
      = (circuitDigestBytes g.version.circuitId).length := by
    have hlen := hcuts.circuitId
    cases hf : f.version.circuitId with
    | none =>
      cases hg : g.version.circuitId with
      | none => rfl
      | some _ => simp [hf, hg] at hlen
    | some _ =>
      cases hg : g.version.circuitId with
      | none => simp [hf, hg] at hlen
      | some _ => simpa [hf, hg, circuitDigestBytes] using hlen
  obtain ⟨hcircuit, hhardware⟩ := List.append_inj hrest hcircuitLen
  have hcircuit' := circuitId_eq hcuts.circuitId hcircuit
  obtain ⟨fi, fc, fp, ⟨fe, fv, fci⟩, fh⟩ := f
  obtain ⟨gi, gc, gp, ⟨ge, gv, gci⟩, gh⟩ := g
  simp only at *
  rw [hinput, hcomputation, hparameter, asBytes_injective hengine, asBytes_injective hversion,
    hcircuit', hardwareDigestBytes_injective hhardware]

theorem SameCuts.refl (f : ComputationFingerprint) :
  f.SameCuts f
  := ⟨rfl, rfl, rfl⟩

/-- Without a collision, a digest determines what was hashed. -/
theorem digest_eq_iff {sha3 : Bytes → Block 32} (h : NoCollision sha3 f.digestInput g.digestInput) :
  f.digest sha3 = g.digest sha3 ↔ f.SameDigestInput g
  := by
  rw [digest, digest, h.eq_iff, digestInput_eq_iff]

/-- A fingerprint is the only one with its digest when every other one with the same digest
input is cut at the same places. -/
theorem eq_of_sameDigestInput_iff :
  (f.SameDigestInput g → f = g) ↔ (f.SameDigestInput g → f.SameCuts g)
  := by
  constructor
  · intro h hinput
    obtain rfl := h hinput
    apply SameCuts.refl
  · intro h hinput
    apply hinput.eq (h hinput)

end ComputationFingerprint

/-! ### Bundles and slots -/

section Addresses

variable {sha3 : Bytes → Block 32}

/-- The content address of a bundle determines its primitive, its content hash and the digest
input of its fingerprint. -/
theorem CacheeArchiveBundle.contentAddress_eq_iff {a b : CacheeArchiveBundle}
    (hdigest : NoCollision sha3 a.computationFingerprint.digestInput
      b.computationFingerprint.digestInput)
    (haddress : NoCollision sha3 (a.addressInput sha3) (b.addressInput sha3)) :
  a.contentAddress sha3 = b.contentAddress sha3 ↔
    a.primitive = b.primitive ∧ a.contentHash = b.contentHash ∧
      a.computationFingerprint.SameDigestInput b.computationFingerprint
  := by
  rw [contentAddress, contentAddress, haddress.eq_iff, addressInput, addressInput]
  constructor
  · intro h
    have hlen : a.primitive.toBytes.length = b.primitive.toBytes.length := by simp
    obtain ⟨hprimitive, hrest⟩ := List.append_inj h hlen
    obtain ⟨hcontent, hval⟩ := Block.append_inj_iff.mp hrest
    refine ⟨H33Primitive.toBytes_injective hprimitive, hcontent, ?_⟩
    apply (ComputationFingerprint.digest_eq_iff hdigest).mp (Subtype.ext hval)
  · rintro ⟨hprimitive, hcontent, hinput⟩
    rw [hprimitive, hcontent, (ComputationFingerprint.digest_eq_iff hdigest).mpr hinput]

/-- The content address of a value with a fingerprint determines the value and the digest
input of the fingerprint. -/
theorem CacheSlot.computeContentAddress_eq_iff {v w : Bytes} {f g : ComputationFingerprint}
    (hvalue : NoCollision sha3 v w) (hdigest : NoCollision sha3 f.digestInput g.digestInput)
    (haddress : NoCollision sha3 (addressInput sha3 v f) (addressInput sha3 w g)) :
  computeContentAddress sha3 v f = computeContentAddress sha3 w g ↔
    v = w ∧ f.SameDigestInput g
  := by
  rw [computeContentAddress, computeContentAddress, haddress.eq_iff, addressInput, addressInput,
    Block.append_inj_iff, hvalue.eq_iff, Subtype.val_inj,
    ComputationFingerprint.digest_eq_iff hdigest]

end Addresses

/-- Where the hash function does not collide on what is hashed, a digest separates two
fingerprints, and a content address two bundles or two slots, exactly when their fingerprints
are cut at the same places as soon as all else that is hashed is equal. -/
theorem addresses_separate_iff (sha3 : Bytes → Block 32) :
  (∀ f g : ComputationFingerprint, NoCollision sha3 f.digestInput g.digestInput →
    ((f.digest sha3 = g.digest sha3 → f = g) ↔ (f.SameDigestInput g → f.SameCuts g))) ∧
  (∀ a b : CacheeArchiveBundle,
    NoCollision sha3 a.computationFingerprint.digestInput b.computationFingerprint.digestInput →
    NoCollision sha3 (a.addressInput sha3) (b.addressInput sha3) →
    ((a.contentAddress sha3 = b.contentAddress sha3 →
        a.primitive = b.primitive ∧ a.contentHash = b.contentHash ∧
          a.computationFingerprint = b.computationFingerprint) ↔
      (a.primitive = b.primitive → a.contentHash = b.contentHash →
        a.computationFingerprint.SameDigestInput b.computationFingerprint →
          a.computationFingerprint.SameCuts b.computationFingerprint))) ∧
  ∀ s t : CacheSlot, s.WellAddressed sha3 → t.WellAddressed sha3 →
    NoCollision sha3 s.value t.value →
    NoCollision sha3 s.fingerprint.digestInput t.fingerprint.digestInput →
    NoCollision sha3 (CacheSlot.addressInput sha3 s.value s.fingerprint)
      (CacheSlot.addressInput sha3 t.value t.fingerprint) →
    ((s.contentAddress = t.contentAddress →
        s.value = t.value ∧ s.fingerprint = t.fingerprint) ↔
      (s.value = t.value → s.fingerprint.SameDigestInput t.fingerprint →
        s.fingerprint.SameCuts t.fingerprint))
  := by
  refine ⟨?_, ?_, ?_⟩
  · intro f g hdigest
    rw [ComputationFingerprint.digest_eq_iff hdigest,
      ComputationFingerprint.eq_of_sameDigestInput_iff]
  · intro a b hdigest haddress
    have hcut := ComputationFingerprint.eq_of_sameDigestInput_iff
      (f := a.computationFingerprint) (g := b.computationFingerprint)
    rw [CacheeArchiveBundle.contentAddress_eq_iff hdigest haddress]
    tauto
  · intro s t hs ht hvalue hdigest haddress
    have hcut := ComputationFingerprint.eq_of_sameDigestInput_iff
      (f := s.fingerprint) (g := t.fingerprint)
    rw [hs, ht, CacheSlot.computeContentAddress_eq_iff hvalue hdigest haddress]
    tauto

/-- The fingerprint `ComputationFingerprint.ones` with the version cut at another place. -/
def ComputationFingerprint.onesRecut : ComputationFingerprint :=
  { ones with version := ⟨"a", "bc", none⟩ }

/-- Whatever the hash function, the two fingerprints have the same digest, and two bundles and
two slots with them the same content address. -/
theorem addresses_onesRecut :
  ((fun sha3 => ComputationFingerprint.ones.digest sha3)
      = fun sha3 => ComputationFingerprint.onesRecut.digest sha3) ∧
    ((fun sha3 =>
        { CacheeArchiveBundle.blank with computationFingerprint := .ones }.contentAddress sha3)
      = fun sha3 =>
        { CacheeArchiveBundle.blank with computationFingerprint := .onesRecut }.contentAddress
          sha3) ∧
    ((fun sha3 => CacheSlot.computeContentAddress sha3 [] .ones)
      = fun sha3 => CacheSlot.computeContentAddress sha3 [] .onesRecut) ∧
    ComputationFingerprint.ones ≠ ComputationFingerprint.onesRecut
  := by
  have hinput : ComputationFingerprint.ones.digestInput
      = ComputationFingerprint.onesRecut.digestInput := by
    decide
  have hdigest : ∀ sha3, ComputationFingerprint.ones.digest sha3
      = ComputationFingerprint.onesRecut.digest sha3 := by
    intro sha3
    rw [ComputationFingerprint.digest, ComputationFingerprint.digest, hinput]
  refine ⟨funext hdigest, ?_, ?_, by decide⟩
  · funext sha3
    simp only [CacheeArchiveBundle.contentAddress, CacheeArchiveBundle.addressInput, hdigest]
  · funext sha3
    simp only [CacheSlot.computeContentAddress, CacheSlot.addressInput, hdigest]

/-- The digest of the fingerprint `ComputationFingerprint.ones` is not that of the empty one. -/
theorem addresses_separate_ones :
  ComputationFingerprint.ones.digest primeHash ≠ ComputationFingerprint.empty.digest primeHash
  := by
  intro h
  have hsame : NoCollision primeHash ComputationFingerprint.ones.digestInput
      ComputationFingerprint.empty.digestInput := by
    unfold NoCollision
    decide +kernel
  have hcuts : ComputationFingerprint.ones.SameDigestInput .empty →
      ComputationFingerprint.ones.SameCuts .empty := by
    rintro ⟨hinput, -⟩
    exact absurd hinput (by decide)
  have heq := ((addresses_separate_iff primeHash).1 .ones .empty hsame).mpr hcuts h
  revert heq
  decide

end Cachee
