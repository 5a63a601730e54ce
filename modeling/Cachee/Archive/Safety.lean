import Cachee.Archive.Wire

/-!
# Reading never panics

Every reader of the format checks the buffer before it takes a slice or a byte of it: it
does not panic, and it moves forward within the buffer.  So a byte string is either
deserialized to a bundle or refused with an error.
-/

open Text

namespace Cachee

/-! ### The fingerprint -/

namespace ComputationFingerprint

theorem safe_fromUtf8 {bs : Bytes} :
  Safe (fromUtf8 bs) fun _ => True
  := by
  unfold fromUtf8
  split
  · trivial
  · trivial

/-- A hash is read where the buffer has 32 bytes left. -/
theorem safe_readHash {bytes : Bytes} {pos : ℕ} (h : pos + 32 ≤ bytes.length) :
  Safe (readHash bytes pos) fun r => r.2 = pos + 32
  := by
  apply (safe_slice (Nat.le_add_right pos 32) h).bind
  intro bs _
  apply safe_tryIntoBlock.bind
  intro hash _
  rfl

theorem advances_readString (missing truncated : String) :
  Advances (readString missing truncated)
  := by
  intro bytes pos hpos
  apply safe_bailIf.bind
  intro _ hprefix
  apply (safe_slice (by omega) (by omega)).bind
  intro bs _
  apply safe_bailIf.bind
  intro _ hbody
  apply (safe_slice (by omega) (by omega)).bind
  intro bs' _
  apply safe_fromUtf8.bind
  intro s _
  apply safe_pure
  constructor
  · simp only
    omega
  · omega

theorem advances_readCircuitId :
  Advances readCircuitId
  := by
  intro bytes pos hpos
  apply safe_bailIf.bind
  intro _ hflag
  apply (safe_index (by omega)).bind
  intro flag _
  apply safe_ite
  · intro _
    apply (advances_readString _ _ (by omega : pos + 1 ≤ bytes.length)).bind
    rintro ⟨cid, pos'⟩ hpos'
    apply safe_pure
    simp only at hpos' ⊢
    omega
  · intro _
    apply safe_pure
    simp only
    omega

theorem advances_readHardwareClass :
  Advances readHardwareClass
  := by
  intro bytes pos hpos
  apply safe_bailIf.bind
  intro _ htag
  apply (safe_index (by omega)).bind
  intro tag _
  have hnext : pos ≤ pos + 1 ∧ pos + 1 ≤ bytes.length := by omega
  apply safe_ite
  · intro _
    apply hnext
  intro _
  apply safe_ite
  · intro _
    apply hnext
  intro _
  apply safe_ite
  · intro _
    apply hnext
  intro _
  apply safe_ite
  · intro _
    apply (advances_readString _ _ hnext.2).bind
    rintro ⟨id, pos'⟩ hpos'
    apply safe_pure
    simp only at hpos' ⊢
    omega
  · intro _
    apply safe_bail

/-- Reading a fingerprint consumes no more bytes than there are. -/
theorem safe_fromBytes {bytes : Bytes} :
  Safe (fromBytes bytes) fun r => r.2 ≤ bytes.length
  := by
  apply safe_bailIf.bind
  intro _ hlen
  apply (safe_readHash (by omega)).bind
  rintro ⟨inputHash, pos⟩ h₁
  apply (safe_readHash (by simp only at h₁ ⊢; omega)).bind
  rintro ⟨computationHash, pos⟩ h₂
  apply (safe_readHash (by simp only at h₁ h₂ ⊢; omega)).bind
  rintro ⟨parameterHash, pos⟩ h₃
  apply (advances_readString _ _ (by simp only at h₁ h₂ h₃ ⊢; omega)).bind
  rintro ⟨engine, pos⟩ ⟨-, h₄⟩
  apply (advances_readString _ _ h₄).bind
  rintro ⟨version, pos⟩ ⟨-, h₅⟩
  apply (advances_readCircuitId h₅).bind
  rintro ⟨circuitId, pos⟩ ⟨-, h₆⟩
  apply (advances_readHardwareClass h₆).bind
  rintro ⟨hardwareClass, pos⟩ ⟨-, h₇⟩
  apply safe_pure h₇

end ComputationFingerprint

/-! ### The sections of the format -/

theorem advances_readBe (w : ℕ) :
  Advances (readBe w)
  := by
  intro bytes pos hpos
  apply safe_bailIf.bind
  intro _ hlen
  apply (safe_slice (by omega) (by omega)).bind
  intro bs _
  apply safe_pure
  simp only
  omega

theorem advances_readU16 :
  Advances readU16
  := by
  intro bytes pos hpos
  apply (advances_readBe 2 hpos).bind
  rintro ⟨val, pos'⟩ hpos'
  apply safe_pure hpos'

theorem advances_readU64 :
  Advances readU64
  := by
  intro bytes pos hpos
  apply (advances_readBe 8 hpos).bind
  rintro ⟨val, pos'⟩ hpos'
  apply safe_pure hpos'

theorem advances_readLengthPrefixed (w : ℕ) :
  Advances (readLengthPrefixed w)
  := by
  intro bytes pos hpos
  apply (advances_readBe w hpos).bind
  rintro ⟨len, pos'⟩ ⟨hle, hle'⟩
  simp only at hle hle'
  apply safe_bailIf.bind
  intro _ hlen
  apply (safe_slice (by omega) (by omega)).bind
  intro data _
  apply safe_pure
  simp only
  omega

/-- The magic bytes that are read are the right ones, and stand at the front of the buffer. -/
theorem safe_readMagic {bytes : Bytes} :
  Safe (readMagic bytes 0) fun r =>
    r.1 = cabMagic ∧ bytes.take 4 = cabMagic.1 ∧ r.2 ≤ bytes.length
  := by
  apply safe_bailIf.bind
  intro _ hlen
  apply (safe_slice (by omega) (by omega)).bind
  intro bs hbs
  apply safe_tryIntoBlock.bind
  intro magic hval
  apply safe_bailIf.bind
  intro _ hmagic
  have heq : magic = cabMagic := not_not.mp hmagic
  apply safe_pure
  refine ⟨heq, ?_, ?_⟩
  · rw [← heq, hval, hbs]
    rfl
  · simp only
    omega

theorem H33Primitive.safe_fromBytes {bytes : Bytes} :
  Safe (fromBytes bytes) fun _ => True
  := by
  apply safe_ite
  · intro _
    trivial
  intro hlen
  simp only [size] at hlen
  apply (safe_index (by omega)).bind
  intro version _
  apply (safe_slice (by decide) (by omega)).bind
  intro timestamp _
  apply (safe_slice (by decide) (by omega)).bind
  intro valueHash _
  apply (safe_slice (by decide) (by omega)).bind
  intro mldsaPrefix _
  apply (safe_slice (by decide) (by omega)).bind
  intro falconPrefix _
  apply (safe_slice (by decide) (by omega)).bind
  intro slhdsaPrefix _
  apply (safe_slice (by decide) (by omega)).bind
  intro flags _
  trivial

theorem OnChainAnchor.safe_fromBytes {bytes : Bytes} :
  Safe (fromBytes bytes) fun _ => True
  := by
  apply safe_ite
  · intro _
    trivial
  intro hlen
  simp only [size] at hlen
  apply (safe_slice (by decide) (by omega)).bind
  intro hash _
  apply (safe_slice (by decide) (by omega)).bind
  intro retrievalPointer _
  trivial

theorem advances_readPrimitive :
  Advances readPrimitive
  := by
  intro bytes pos hpos
  apply safe_bailIf.bind
  intro _ hlen
  apply (safe_slice hpos le_rfl).bind
  intro bs _
  apply H33Primitive.safe_fromBytes.bind
  rintro (_ | primitive) _
  · apply safe_bail
  · apply safe_pure
    simp only
    omega

theorem advances_readContentHash :
  Advances readContentHash
  := by
  intro bytes pos hpos
  apply safe_bailIf.bind
  intro _ hlen
  apply (safe_slice (by omega) (by omega)).bind
  intro bs _
  apply safe_tryIntoBlock.bind
  intro contentHash _
  apply safe_pure
  simp only
  omega

theorem advances_readOnChainAnchor :
  Advances readOnChainAnchor
  := by
  intro bytes pos hpos
  apply safe_bailIf.bind
  intro _ hflag
  apply (safe_index (by omega)).bind
  intro flag _
  apply safe_ite
  · intro _
    apply safe_bailIf.bind
    intro _ hlen
    apply (safe_slice (by omega) le_rfl).bind
    intro bs _
    apply OnChainAnchor.safe_fromBytes.bind
    rintro (_ | anchor) _
    · apply safe_bail
    · apply safe_pure
      simp only
      omega
  · intro _
    apply safe_pure
    simp only
    omega

theorem advances_readCompleteness :
  Advances readCompleteness
  := by
  intro bytes pos hpos
  apply safe_bailIf.bind
  intro _ hlevel
  apply (safe_index (by omega)).bind
  intro level _
  have hnext : pos ≤ pos + 1 ∧ pos + 1 ≤ bytes.length := by omega
  apply safe_ite
  · intro _
    apply hnext
  intro _
  apply safe_ite
  · intro _
    apply hnext
  intro _
  apply safe_ite
  · intro _
    apply hnext
  · intro _
    apply safe_bail

/-- Reading the signer identity always gives one. -/
theorem readSignerIdentity_eq_ok (json : JsonCodec SignerIdentity) {bytes : Bytes} {pos : ℕ}
    (hpos : pos ≤ bytes.length) :
  ∃ identity, readSignerIdentity json bytes pos = .ok identity
  := by
  unfold readSignerIdentity
  split
  · obtain ⟨⟨data, pos'⟩, hdata⟩ :=
      (advances_readLengthPrefixed 4 hpos).unwrapOr_eq_ok ([], pos)
    rw [readLengthPrefixedU32, hdata, ok_bind]
    dsimp only
    split
    · use .default
      rfl
    · use json.fromSliceOr data .default
      rfl
  · use .default
    rfl

namespace CacheeArchiveBundle

/-- Deserializing a byte string gives an error, or a bundle with the magic bytes at the front
of the string, which are the right ones. -/
theorem safe_deserialize (json : JsonCodec SignerIdentity) (bytes : Bytes) :
  Safe (deserialize json bytes) fun b => b.magic = cabMagic ∧ bytes.take 4 = cabMagic.1
  := by
  apply safe_readMagic.bind
  rintro ⟨magic, pos⟩ ⟨hmagic, htake, hpos⟩
  apply (advances_readU16 hpos).bind
  rintro ⟨version, pos⟩ ⟨-, hpos⟩
  apply (advances_readPrimitive hpos).bind
  rintro ⟨primitive, pos⟩ ⟨-, hpos⟩
  apply (advances_readContentHash hpos).bind
  rintro ⟨contentHash, pos⟩ ⟨-, hpos⟩
  apply (advances_readU16 hpos).bind
  rintro ⟨compTypeRaw, pos⟩ ⟨-, hpos⟩
  apply (advances_readU64 hpos).bind
  rintro ⟨timestampNs, pos⟩ ⟨-, hpos⟩
  apply (advances_readLengthPrefixed 2 hpos).bind
  rintro ⟨mldsa65Pk, pos⟩ ⟨-, hpos⟩
  apply (advances_readLengthPrefixed 2 hpos).bind
  rintro ⟨falcon512Pk, pos⟩ ⟨-, hpos⟩
  apply (advances_readLengthPrefixed 2 hpos).bind
  rintro ⟨slhdsa128fPk, pos⟩ ⟨-, hpos⟩
  apply (advances_readLengthPrefixed 2 hpos).bind
  rintro ⟨mldsa65Sig, pos⟩ ⟨-, hpos⟩
  apply (advances_readLengthPrefixed 2 hpos).bind
  rintro ⟨falcon512Sig, pos⟩ ⟨-, hpos⟩
  apply (advances_readLengthPrefixed 2 hpos).bind
  rintro ⟨slhdsa128fSig, pos⟩ ⟨-, hpos⟩
  apply (advances_readLengthPrefixed 4 hpos).bind
  rintro ⟨metadata, pos⟩ ⟨-, hpos⟩
  apply (advances_readOnChainAnchor hpos).bind
  rintro ⟨onChainAnchor, pos⟩ ⟨-, hpos⟩
  apply (advances_readCompleteness hpos).bind
  rintro ⟨completeness, pos⟩ ⟨-, hpos⟩
  apply (advances_readLengthPrefixed 4 hpos).bind
  rintro ⟨fpData, pos⟩ ⟨-, hpos⟩
  apply ComputationFingerprint.safe_fromBytes.bind
  rintro ⟨computationFingerprint, _⟩ -
  obtain ⟨identity, hidentity⟩ := readSignerIdentity_eq_ok json hpos
  dsimp only
  rw [hidentity]
  apply safe_pure ⟨hmagic, htake⟩

end CacheeArchiveBundle

end Cachee
