import Cachee.PqKeys
import Cachee.VerifyFile

/-!
# The identity of the signer

The identity in a bundle is not signed.  It is documented to be checked against the public
keys that come with the bundle, and the verdict asks of it only that it names some key and
that it does not name a development posture.
-/

namespace Cachee

/-- The key id of the public keys of a bundle. -/
def SignerPublicKeys.keyId (sha3 : Bytes → Block 32) (keys : SignerPublicKeys) : Block 32 :=
  computeKeyId sha3 keys.mldsa65 keys.falcon512 keys.slhdsa128f

namespace CacheeArchiveBundle

variable {lib : PqLibrary} {b : CacheeArchiveBundle}

/-- A bundle comes without a warning when its posture is not that of development, its key id
is not zero and it has a fingerprint. -/
theorem warnings_eq_nil_iff :
  b.warnings = [] ↔
    b.signerIdentity.posture ∉ ["development", "Development"] ∧
      b.signerIdentity.keyId ≠ Block.zero 32 ∧ b.hasValidFingerprint
  := by
  simp [warnings, signerIdentityPresent, and_assoc]

/-- The verdict is valid without warnings when the verdict is valid and there are none. -/
theorem verdict_eq_valid_iff :
  (b.verify lib).verdict = .valid ↔ (b.verify lib).isValid ∧ b.warnings = []
  := by
  by_cases hmagic : b.magic = cabMagic
  · rw [(verify_of_magic_eq lib hmagic).1, verify, if_neg (by simpa using hmagic)]
    cases hcore : b.coreValid lib with
    | false => simp
    | true => simp
  · rw [(verify_of_magic_ne lib hmagic).1, verify, if_pos hmagic]
    simp

/-- A valid verdict says that the bundle names the signer whose keys it carries, except for the
bundles that name another signer by a key id that is not zero, outside a development posture,
and come with the right magic bytes, two valid signatures, a fingerprint, consistent hashes
and a timestamp: no check compares the key id with the keys. -/
theorem keyId_of_valid_iff (sha3 : Bytes → Block 32) :
  ((b.verify lib).verdict = .valid →
    b.signerIdentity.keyId = b.signerKeys.keyId sha3) ↔
  ¬ (b.signerIdentity.keyId ∉ [b.signerKeys.keyId sha3, Block.zero 32] ∧
      b.signerIdentity.posture ∉ ["development", "Development"] ∧
      b.magic = cabMagic ∧ b.primitive.valueHash = b.contentHash ∧ b.timestampNs ≠ 0 ∧
      b.hasValidFingerprint ∧
      (verifyMldsa65 lib b.signerKeys.mldsa65 b.contentHash.1 b.signatures.mldsa65 = .ok true ∧
          (verifyFalcon512 lib b.signerKeys.falcon512 b.contentHash.1 b.signatures.falcon512
              = .ok true ∨
            verifySlhdsa128f lib b.signerKeys.slhdsa128f b.contentHash.1
              b.signatures.slhdsa128f = .ok true) ∨
        verifyFalcon512 lib b.signerKeys.falcon512 b.contentHash.1 b.signatures.falcon512
            = .ok true ∧
          verifySlhdsa128f lib b.signerKeys.slhdsa128f b.contentHash.1 b.signatures.slhdsa128f
            = .ok true))
  := by
  rw [verdict_eq_valid_iff, isValid_iff, warnings_eq_nil_iff, twoOfThree_iff, Consistent]
  simp only [mldsaValid, falconValid, slhdsaValid, unwrapOrFalse_iff, List.mem_cons,
    List.not_mem_nil, or_false]
  tauto

/-- A bundle that is signed with the keys `1`, `2` and `3`, and names the signer of the key
id `8`. -/
def impersonatingBundle : CacheeArchiveBundle :=
  { blank with
    timestampNs := 1
    signerKeys := ⟨[1], [2], [3]⟩
    signatures :=
      ⟨1 :: (Block.zero 32).1, 2 :: (Block.zero 32).1, 3 :: (Block.zero 32).1⟩
    computationFingerprint := .ones
    signerIdentity := { SignerIdentity.default with keyId := ⟨List.replicate 32 8, rfl⟩ } }

/-- The verdict on the bundle is valid, and the key id it names is not that of its keys. -/
theorem valid_impersonatingBundle :
  (impersonatingBundle.verify prefixLibrary).verdict = .valid ∧
    impersonatingBundle.signerIdentity.keyId ≠ impersonatingBundle.signerKeys.keyId primeHash
  := by
  constructor
  · decide +kernel
  · decide +kernel

end CacheeArchiveBundle

end Cachee
