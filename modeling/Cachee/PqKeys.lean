import Cachee.Archive.Bundle
import Cachee.Crypto
import Cachee.Library.Cursor

/-!
# Key sets

A key set holds a key pair of each of the three signature schemes, with the identity of the set
and the posture under which it was made.  A message is signed with all three.  Signing panics
on a secret key that the library of its scheme does not accept.
-/

namespace Cachee

/-- How far the keys may be trusted. -/
inductive CryptoPosture where
  | development
  | testing
  | production
  deriving DecidableEq

/-- The debug text of a posture. -/
def CryptoPosture.debug : CryptoPosture → String
  | development => "Development"
  | testing => "Testing"
  | production => "Production"

/-- The identity and the posture of a key set. -/
structure KeyMetadata where
  keyId : Block 32
  version : UInt32
  posture : CryptoPosture
  deriving DecidableEq

/-- The key pairs of the three schemes. -/
structure PqKeySet where
  mldsaPk : Bytes
  mldsaSk : Bytes
  falconPk : Bytes
  falconSk : Bytes
  slhdsaPk : Bytes
  slhdsaSk : Bytes
  metadata : KeyMetadata
  deriving DecidableEq

/-- The signatures of a message with all three schemes. -/
structure SignResult where
  mldsaSig : Bytes
  falconSig : Bytes
  slhdsaSig : Bytes
  deriving DecidableEq

/-- The random bytes that the three signatures of a message use. -/
structure SignSeeds where
  mldsa : Bytes
  falcon : Bytes
  slhdsa : Bytes

/-- The identity of a key set with the given public keys. -/
def computeKeyId (sha3 : Bytes → Block 32) (mldsaPk falconPk slhdsaPk : Bytes) : Block 32 :=
  sha3 (mldsaPk ++ (falconPk ++ slhdsaPk))

/-- Sign a message with a secret key, which panics if the scheme does not accept the key. -/
def SignatureScheme.sign (scheme : SignatureScheme) (seed secretKey message : Bytes) :
    Outcome Bytes :=
  if scheme.acceptsSecretKey secretKey then .ok (scheme.detachedSign seed message secretKey)
  else .error .panic

/-- A scheme is correct for a key pair: it signs hashes with the secret key, and what it signs
verifies under the public key.  The public key and the signatures fit their length prefixes. -/
structure SignatureScheme.Correct (scheme : SignatureScheme) (publicKey secretKey : Bytes) :
    Prop where
  acceptsSecretKey : scheme.acceptsSecretKey secretKey = true
  acceptsPublicKey : scheme.acceptsPublicKey publicKey = true
  acceptsSignature : ∀ seed (hash : Block 32),
    scheme.acceptsSignature (scheme.detachedSign seed hash.1 secretKey) = true
  verifies : ∀ seed (hash : Block 32),
    scheme.verifyDetachedSignature (scheme.detachedSign seed hash.1 secretKey) hash.1 publicKey
      = true
  publicKeyFits : publicKey.length < 2 ^ 16
  signatureFits : ∀ seed (hash : Block 32),
    (scheme.detachedSign seed hash.1 secretKey).length < 2 ^ 16

/-- Under a correct scheme, a hash is signed by a signature that fits and verifies. -/
theorem SignatureScheme.Correct.sign {scheme : SignatureScheme} {publicKey secretKey : Bytes}
    (h : scheme.Correct publicKey secretKey) (seed : Bytes) (hash : Block 32) :
  ∃ signature, scheme.sign seed secretKey hash.1 = .ok signature ∧
    signature.length < 2 ^ 16 ∧
    ∀ name expected, scheme.verify name expected publicKey hash.1 signature = .ok true
  := by
  refine ⟨_, if_pos h.acceptsSecretKey, h.signatureFits seed hash, ?_⟩
  intro name expected
  simp [SignatureScheme.verify, h.acceptsPublicKey, h.acceptsSignature, h.verifies]

namespace PqKeySet

/-- Sign a message with all three families. -/
def sign (lib : PqLibrary) (seeds : SignSeeds) (keys : PqKeySet) (message : Bytes) :
    Outcome SignResult := do
  let mldsaSig ← lib.dilithium3.sign seeds.mldsa keys.mldsaSk message
  let falconSig ← lib.falcon512.sign seeds.falcon keys.falconSk message
  let slhdsaSig ← lib.sphincssha2128fsimple.sign seeds.slhdsa keys.slhdsaSk message
  return { mldsaSig, falconSig, slhdsaSig }

/-- The public keys of a key set. -/
def publicKeys (keys : PqKeySet) : SignerPublicKeys where
  mldsa65 := keys.mldsaPk
  falcon512 := keys.falconPk
  slhdsa128f := keys.slhdsaPk

/-- The libraries accept all three secret keys. -/
def Accepted (lib : PqLibrary) (keys : PqKeySet) : Prop :=
  lib.dilithium3.acceptsSecretKey keys.mldsaSk = true ∧
    lib.falcon512.acceptsSecretKey keys.falconSk = true ∧
    lib.sphincssha2128fsimple.acceptsSecretKey keys.slhdsaSk = true

instance (lib : PqLibrary) (keys : PqKeySet) : Decidable (keys.Accepted lib) :=
  inferInstanceAs (Decidable (_ ∧ _ ∧ _))

/-- The three schemes are correct for the key pairs of a key set. -/
structure Correct (lib : PqLibrary) (keys : PqKeySet) : Prop where
  mldsa : lib.dilithium3.Correct keys.mldsaPk keys.mldsaSk
  falcon : lib.falcon512.Correct keys.falconPk keys.falconSk
  slhdsa : lib.sphincssha2128fsimple.Correct keys.slhdsaPk keys.slhdsaSk

variable {lib : PqLibrary} {seeds : SignSeeds} {keys : PqKeySet} {message : Bytes}

/-- Accepted keys sign every message. -/
theorem sign_of_accepted (seeds : SignSeeds) (message : Bytes) (h : keys.Accepted lib) :
  ∃ sigs, keys.sign lib seeds message = .ok sigs
  := by
  obtain ⟨hmldsa, hfalcon, hslhdsa⟩ := h
  simp only [sign, SignatureScheme.sign, hmldsa, hfalcon, hslhdsa, if_true, ok_bind]
  exact ⟨_, rfl⟩

/-- Signing with a key that is not accepted panics. -/
theorem sign_of_not_accepted (h : ¬ keys.Accepted lib) :
  keys.sign lib seeds message = .error .panic
  := by
  unfold sign SignatureScheme.sign
  split
  · split
    · split
      · rename_i hmldsa hfalcon hslhdsa
        exact absurd ⟨hmldsa, hfalcon, hslhdsa⟩ h
      · rfl
    · rfl
  · rfl

end PqKeySet

end Cachee
