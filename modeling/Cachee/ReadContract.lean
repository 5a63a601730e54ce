import Cachee.Archive.Fingerprint
import Cachee.Slot.Lifecycle

/-!
# The read contract

A verified read returns the value with the fingerprint of its computation, what was found out
about its signatures on this read, and its provenance and lifecycle.
-/

namespace Cachee

/-- Whether the signatures were checked on a read, and what came of it. -/
inductive VerificationStatus where
  | fullyVerified (verifiedAt : UInt64) (allThree twoOfThree : Bool)
  | verificationFailed (reason : String)
  | cachedVerification (originallyVerifiedAt ageSecs : UInt64)
  | unverified (lastVerifiedAt : UInt64) (trustScore : ℚ)
  deriving DecidableEq

/-- The validity of the signatures, family by family; `none` if it was not checked. -/
structure SignatureSummary where
  mldsaValid : Option Bool
  falconValid : Option Bool
  slhdsaValid : Option Bool
  twoOfThree : Bool
  lastFullCheck : UInt64
  deriving DecidableEq

/-- The summary of signatures that were not checked. -/
def SignatureSummary.unchecked : SignatureSummary := ⟨none, none, none, false, 0⟩

/-- What a verified read returns. -/
structure CacheeReadResponse where
  value : Bytes
  fingerprint : ComputationFingerprint
  verification : VerificationStatus
  signatures : SignatureSummary
  provenance : Provenance
  state : EntryState
  validity : ValidityWindow
  deriving DecidableEq

end Cachee
