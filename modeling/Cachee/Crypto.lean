import Cachee.Library.Bytes

/-!
# Signature verification

The three signature schemes come from libraries.  A scheme says which byte strings it
accepts as keys and signatures, and signs and verifies with the accepted ones; signing may
be randomized, which its first argument stands for.  Verification fails with an error on a
key or a signature that the scheme does not accept.
-/

namespace Cachee

/-- A signature scheme, as its library gives it. -/
structure SignatureScheme where
  publicKeyBytes : ℕ
  signatureBytes : ℕ
  acceptsPublicKey : Bytes → Bool
  acceptsSecretKey : Bytes → Bool
  acceptsSignature : Bytes → Bool
  detachedSign : Bytes → Bytes → Bytes → Bytes
  verifyDetachedSignature : Bytes → Bytes → Bytes → Bool

/-- The libraries of the three schemes. -/
structure PqLibrary where
  dilithium3 : SignatureScheme
  falcon512 : SignatureScheme
  sphincssha2128fsimple : SignatureScheme

namespace SignatureScheme

/-- Verify a signature with a scheme, whose name and whose description of the length of a
signature stand in the errors. -/
def verify (scheme : SignatureScheme) (name expected : String)
    (publicKey message signature : Bytes) : Except String Bool :=
  if !scheme.acceptsPublicKey publicKey then
    .error (s!"Invalid {name} public key ({publicKey.length} bytes, "
      ++ s!"expected {scheme.publicKeyBytes})")
  else if !scheme.acceptsSignature signature then
    .error (s!"Invalid {name} signature ({signature.length} bytes, "
      ++ s!"{expected} {scheme.signatureBytes})")
  else .ok (scheme.verifyDetachedSignature signature message publicKey)

end SignatureScheme

/-- Verify an ML-DSA-65 signature against a public key and message. -/
def verifyMldsa65 (lib : PqLibrary) : Bytes → Bytes → Bytes → Except String Bool :=
  lib.dilithium3.verify "ML-DSA-65" "expected"

/-- Verify a FALCON-512 signature against a public key and message. -/
def verifyFalcon512 (lib : PqLibrary) : Bytes → Bytes → Bytes → Except String Bool :=
  lib.falcon512.verify "FALCON-512" "expected up to"

/-- Verify an SLH-DSA-SHA2-128f signature against a public key and message. -/
def verifySlhdsa128f (lib : PqLibrary) : Bytes → Bytes → Bytes → Except String Bool :=
  lib.sphincssha2128fsimple.verify "SLH-DSA" "expected"

/-- A verification result, where an error counts as a failed verification. -/
def unwrapOrFalse : Except String Bool → Bool
  | .ok valid => valid
  | .error _ => false

@[simp]
theorem unwrapOrFalse_iff {r : Except String Bool} :
  unwrapOrFalse r = true ↔ r = .ok true
  := by
  cases r with
  | ok valid => simp [unwrapOrFalse]
  | error _ => simp [unwrapOrFalse]

/-! ### A concrete library -/

/-- A scheme that signs by writing the key before the message. -/
def prefixScheme : SignatureScheme where
  publicKeyBytes := 1
  signatureBytes := 33
  acceptsPublicKey _ := true
  acceptsSecretKey _ := true
  acceptsSignature _ := true
  detachedSign _ message secretKey := secretKey ++ message
  verifyDetachedSignature signature message publicKey := signature = publicKey ++ message

def prefixLibrary : PqLibrary := ⟨prefixScheme, prefixScheme, prefixScheme⟩

/-- The remainder of a byte string, read as a number, modulo a prime. -/
def primeHash (bs : Bytes) : Block 32 :=
  ⟨beBytes 32 (beNat (1 :: bs) % (2 ^ 255 - 19)), length_beBytes _ _⟩

end Cachee
