import Cachee.Archive.Bundle
import Cachee.Crypto

/-!
# Verifying a bundle

The verdict on a bundle depends on its magic bytes, on the number of valid signatures of its
content hash, on the agreement of its two copies of that hash, and on its timestamp.
-/

namespace Cachee

/-- The verdict on a bundle. -/
inductive VerificationVerdict where
  | valid
  | validWithWarnings (warnings : List String)
  | invalid (reason : String)
  deriving DecidableEq

/-- Which signatures of a bundle are valid. -/
structure CryptographicValidity where
  mldsaValid : Bool
  falconValid : Bool
  slhdsaValid : Bool
  twoOfThree : Bool
  allThree : Bool
  deprecatedFamilyPresent : Bool
  deriving DecidableEq

/-- Which parts of a bundle are present and consistent. -/
structure StructuralValidity where
  magicValid : Bool
  versionSupported : Bool
  fingerprintPresent : Bool
  contentHashMatches : Bool
  timestampValid : Bool
  signerIdentityPresent : Bool
  deriving DecidableEq

/-- Per-family and aggregate verification outcome. -/
structure VerificationResult where
  verdict : VerificationVerdict
  cryptographic : CryptographicValidity
  structural : StructuralValidity
  deriving DecidableEq

/-- A result is valid when its verdict is, with or without warnings. -/
def VerificationResult.isValid (r : VerificationResult) : Bool :=
  match r.verdict with
  | .valid => true
  | .validWithWarnings _ => true
  | .invalid _ => false

/-- The number of valid signatures among three. -/
def validCount (mldsaValid falconValid slhdsaValid : Bool) : ℕ :=
  ([mldsaValid, falconValid, slhdsaValid].filter id).length

namespace CacheeArchiveBundle

variable (lib : PqLibrary) (b : CacheeArchiveBundle)

/-- The ML-DSA-65 signature of the content hash is valid. -/
def mldsaValid : Bool :=
  unwrapOrFalse (verifyMldsa65 lib b.signerKeys.mldsa65 b.contentHash.1 b.signatures.mldsa65)

/-- The FALCON-512 signature of the content hash is valid. -/
def falconValid : Bool :=
  unwrapOrFalse
    (verifyFalcon512 lib b.signerKeys.falcon512 b.contentHash.1 b.signatures.falcon512)

/-- The SLH-DSA signature of the content hash is valid. -/
def slhdsaValid : Bool :=
  unwrapOrFalse
    (verifySlhdsa128f lib b.signerKeys.slhdsa128f b.contentHash.1 b.signatures.slhdsa128f)

/-- At least two of the three signatures of the content hash are valid. -/
def twoOfThree : Bool :=
  2 ≤ validCount (b.mldsaValid lib) (b.falconValid lib) (b.slhdsaValid lib)

/-- All three signatures of the content hash are valid. -/
def allThree : Bool :=
  validCount (b.mldsaValid lib) (b.falconValid lib) (b.slhdsaValid lib) = 3

/-- The value hash of the primitive is the content hash. -/
def contentHashMatches : Bool := b.primitive.valueHash = b.contentHash

/-- The timestamp is not zero. -/
def timestampValid : Bool := 0 < b.timestampNs

/-- The signer identity has a key id that is not zero. -/
def signerIdentityPresent : Bool := b.signerIdentity.keyId ≠ Block.zero 32

/-- The warnings about a bundle. -/
def warnings : List String :=
  (if b.signerIdentity.posture = "development" || b.signerIdentity.posture = "Development" then
    ["development posture"] else [])
  ++ (if !b.signerIdentityPresent then ["missing signer identity"] else [])
  ++ (if !b.hasValidFingerprint then ["fingerprint not present"] else [])

/-- The checks that decide between a valid and an invalid verdict. -/
def coreValid : Bool := b.contentHashMatches && b.twoOfThree lib && b.timestampValid

/-- The reasons for an invalid verdict. -/
def invalidReasons : List String :=
  (if !b.contentHashMatches then ["content hash mismatch"] else [])
  ++ (if !b.twoOfThree lib then ["fewer than 2-of-3 signatures valid"] else [])
  ++ (if !b.timestampValid then ["invalid timestamp"] else [])

/-- Verify the signatures and the structure of a bundle. -/
def verify : VerificationResult :=
  if b.magic ≠ cabMagic then
    { verdict := .invalid "invalid CAB magic"
      cryptographic := ⟨false, false, false, false, false, false⟩
      structural := ⟨false, false, false, false, false, false⟩ }
  else
    { verdict :=
        if !b.coreValid lib then .invalid ("; ".intercalate (b.invalidReasons lib))
        else if !b.warnings.isEmpty then .validWithWarnings b.warnings
        else .valid
      cryptographic :=
        { mldsaValid := b.mldsaValid lib
          falconValid := b.falconValid lib
          slhdsaValid := b.slhdsaValid lib
          twoOfThree := b.twoOfThree lib
          allThree := b.allThree lib
          deprecatedFamilyPresent := false }
      structural :=
        { magicValid := true
          versionSupported := b.version = cabVersion
          fingerprintPresent := b.hasValidFingerprint
          contentHashMatches := b.contentHashMatches
          timestampValid := b.timestampValid
          signerIdentityPresent := b.signerIdentityPresent } }

/-! ### The verdict -/

variable {lib b}

/-- A bundle with other magic bytes is invalid, and none of its signatures counts. -/
theorem verify_of_magic_ne (lib : PqLibrary) (h : b.magic ≠ cabMagic) :
  (b.verify lib).isValid = false ∧ (b.verify lib).cryptographic.twoOfThree = false
  := by
  rw [verify, if_pos h]
  constructor
  · rfl
  · rfl

/-- The verdict on a bundle with the right magic bytes is decided by its core checks. -/
theorem verify_of_magic_eq (lib : PqLibrary) (h : b.magic = cabMagic) :
  (b.verify lib).isValid = b.coreValid lib ∧
    (b.verify lib).cryptographic.twoOfThree = b.twoOfThree lib
  := by
  rw [verify, if_neg (by simpa using h)]
  constructor
  · cases hcore : b.coreValid lib with
    | false => simp [VerificationResult.isValid]
    | true =>
      simp only [VerificationResult.isValid, Bool.not_true, Bool.false_eq_true, if_false]
      cases b.warnings.isEmpty with
      | false => simp
      | true => simp
  · rfl

/-- Two of three signatures are valid when the first and another one is, or the other two. -/
theorem twoOfThree_iff :
  b.twoOfThree lib ↔
    b.mldsaValid lib ∧ (b.falconValid lib ∨ b.slhdsaValid lib) ∨
      b.falconValid lib ∧ b.slhdsaValid lib
  := by
  unfold twoOfThree
  cases b.mldsaValid lib <;> cases b.falconValid lib <;> cases b.slhdsaValid lib <;>
    decide

end CacheeArchiveBundle

end Cachee
