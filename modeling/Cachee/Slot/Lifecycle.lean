import Cachee.Library.Text

/-!
# Lifecycle and trust

The lifecycle state of a cache entry, the authority and the proof behind a change of state,
the window in which a result is valid, and what is known about how far it can be trusted.
-/

open Text

namespace Cachee

/-! ### Lifecycle -/

/-- The lifecycle state of a cache entry. -/
inductive EntryState where
  | active
  | superseded (successor : Block 32)
  | revoked (reason : String) (revokedAt : UInt64) (revocationAttestation : Option (Block 58))
  | expired (validUntil : UInt64)
  | deprecated (family : String) (deprecationDate : UInt64) (twoOfThreeValid : Bool)
  deriving DecidableEq

/-- The debug text of a list of bytes. -/
def debugBytes (bs : Bytes) : String := s!"{bs.map UInt8.toNat}"

/-- The debug text of a state, for the debug text of strings. -/
def EntryState.debug (debugStr : String → String) : EntryState → String
  | active => "Active"
  | superseded successor => s!"Superseded \x7b successor: {debugBytes successor.1} \x7d"
  | revoked reason revokedAt revocationAttestation =>
    let attestation := match revocationAttestation with
      | some attestation => s!"Some({debugBytes attestation.1})"
      | none => "None"
    s!"Revoked \x7b reason: {debugStr reason}, revoked_at: {revokedAt.toNat}, "
      ++ s!"revocation_attestation: {attestation} \x7d"
  | expired validUntil => s!"Expired \x7b valid_until: {validUntil.toNat} \x7d"
  | deprecated family deprecationDate twoOfThreeValid =>
    s!"Deprecated \x7b family: {debugStr family}, deprecation_date: {deprecationDate.toNat}, "
      ++ s!"two_of_three_valid: {twoOfThreeValid} \x7d"

/-- Who performs a change of state. -/
inductive TransitionAuthority where
  | originalIssuer (issuerId : String)
  | regulator (keyId : Block 32)
  | signatureBearer
  | system
  deriving DecidableEq

/-- The proof behind a change of state. -/
inductive TransitionProof where
  | systemInitiated
  | issuerSignature (signature : Bytes)
  | regulatorAttestation (keyId : Block 32) (attestation : Bytes)
  deriving DecidableEq

/-- Whether a change of state can be followed by another. -/
def isReversible : EntryState → Bool
  | .superseded _ => false
  | .revoked _ _ _ => false
  | .expired _ => true
  | .deprecated _ _ _ => true
  | .active => true

/-- What triggers the revalidation of a result. -/
inductive RevalidationTrigger where
  | timeBased (intervalSecs : UInt64)
  | stateDependent (stateHash : Block 32)
  | externalSignal (webhookUrl : String)
  deriving DecidableEq

/-- The window in which a result is considered trustworthy. -/
structure ValidityWindow where
  validFrom : UInt64
  validUntil : Option UInt64
  revalidationTrigger : Option RevalidationTrigger
  deriving DecidableEq

/-- The state of an external system to which a result is bound. -/
structure StateAnchor where
  system : String
  stateId : Bytes
  stateTimestamp : UInt64
  deriving DecidableEq

/-- When and how a result is revalidated. -/
structure RevalidationPolicy where
  maxAgeSecs : UInt64
  autoRevalidate : Bool
  triggers : List RevalidationTrigger
  deriving DecidableEq

/-- The moment at which a result was computed and the time for which it is valid. -/
structure TemporalBinding where
  computedAt : UInt64
  stateAnchor : Option StateAnchor
  validity : ValidityWindow
  revalidation : Option RevalidationPolicy
  deriving DecidableEq

/-! ### Trust -/

/-- How often a cached result is verified when it is read. -/
inductive VerificationMode where
  | alwaysVerify
  | trustCached
  | probabilistic (sampleRate : ℚ)
  | ageWeighted (maxAgeBeforeReverifySecs : UInt64)
  deriving DecidableEq

/-- How far a result is trusted. -/
structure TrustLevel where
  verificationMode : VerificationMode
  lastVerifiedAt : UInt64
  verificationCount : UInt64
  signaturesChecked : UInt8
  trustScore : ℚ
  deriving DecidableEq

/-- Who computed a result, when, and who has verified it. -/
structure Provenance where
  computedBy : String
  computedAt : UInt64
  computationDurationUs : UInt64
  verifiedBy : List String
  deriving DecidableEq

end Cachee
