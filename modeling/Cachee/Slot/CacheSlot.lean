import Cachee.Archive.Fingerprint
import Cachee.Slot.Lifecycle

/-!
# Cache slots

A slot holds a value with its fingerprint, lifecycle state and trust metadata.  Its content
address is the hash of the hash of the value and the digest of the fingerprint.
-/

open Text

namespace Cachee

/-- A value with its metadata. -/
structure CacheSlot where
  value : Bytes
  fingerprint : ComputationFingerprint
  cacheExpiresAt : ℕ
  state : EntryState
  trust : TrustLevel
  temporal : TemporalBinding
  provenance : Provenance
  createdAt : UInt64
  contentAddress : Block 32
  deriving DecidableEq

/-- The record of a change of state. -/
structure StateTransition where
  fromState : EntryState
  toState : EntryState
  transitionedAt : UInt64
  contentAddress : Block 32
  authority : TransitionAuthority
  proof : TransitionProof
  deriving DecidableEq

namespace CacheSlot

variable (sha3 : Bytes → Block 32)

/-- The byte string that the content address hashes. -/
def addressInput (value : Bytes) (fingerprint : ComputationFingerprint) : Bytes :=
  (sha3 value).1 ++ (fingerprint.digest sha3).1

/-- The content address of a value with a fingerprint. -/
def computeContentAddress (value : Bytes) (fingerprint : ComputationFingerprint) : Block 32 :=
  sha3 (addressInput sha3 value fingerprint)

/-- Create a slot at the time `now`, in nanoseconds since the epoch, and at the time `instant`
of the monotonic clock.  The time to live is in nanoseconds. -/
def new (now : UInt64) (instant : ℕ) (value : Bytes) (fingerprint : ComputationFingerprint)
    (ttl : ℕ) (verificationMode : VerificationMode) (nodeId : String) : CacheSlot where
  value := value
  fingerprint := fingerprint
  cacheExpiresAt := instant + ttl
  state := .active
  trust :=
    { verificationMode
      lastVerifiedAt := now
      verificationCount := 0
      signaturesChecked := 0
      trustScore := 1 }
  temporal :=
    { computedAt := now
      stateAnchor := none
      validity :=
        { validFrom := now
          validUntil := some (now + UInt64.ofNat ttl)
          revalidationTrigger := none }
      revalidation := none }
  provenance :=
    { computedBy := nodeId
      computedAt := now
      computationDurationUs := 0
      verifiedBy := [] }
  createdAt := now
  contentAddress := computeContentAddress sha3 value fingerprint

/-- The fingerprint of a slot is valid when its input and computation hashes are not zero. -/
def hasValidFingerprint (slot : CacheSlot) : Bool := slot.fingerprint.isValid

/-- Why a slot in state `old` may not change to state `new`, if it may not. -/
def illegalTransition (debugStr : String → String) : EntryState → EntryState → Option String
  | .active, .superseded _ => none
  | .active, .revoked _ _ _ => none
  | .active, .expired _ => none
  | .active, .deprecated _ _ _ => none
  | .expired _, .active => none
  | .deprecated _ _ _, .active => none
  | .superseded _, _ => some "terminal state: superseded"
  | .revoked _ _ _, _ => some "terminal state: revoked"
  | old, new => some s!"illegal transition: {old.debug debugStr} -> {new.debug debugStr}"

/-- Change the state of a slot.  Returns the slot with the record of the change, or an error
if the change is illegal. -/
def transition (debugStr : String → String) (now : UInt64) (slot : CacheSlot)
    (newState : EntryState) (authority : TransitionAuthority) (proof : TransitionProof) :
    Except String (CacheSlot × StateTransition) :=
  match illegalTransition debugStr slot.state newState with
  | some e => .error e
  | none =>
    .ok ({ slot with state := newState },
      { fromState := slot.state
        toState := newState
        transitionedAt := now
        contentAddress := slot.contentAddress
        authority, proof })

/-- The content address of a slot is that of its value and fingerprint. -/
def WellAddressed (slot : CacheSlot) : Prop :=
  slot.contentAddress = computeContentAddress sha3 slot.value slot.fingerprint

variable {sha3}

theorem wellAddressed_new (now : UInt64) (instant : ℕ) (value : Bytes)
    (fingerprint : ComputationFingerprint) (ttl : ℕ) (mode : VerificationMode)
    (nodeId : String) :
  (new sha3 now instant value fingerprint ttl mode nodeId).WellAddressed sha3
  := rfl

/-- A change of state is legal and changes nothing else. -/
theorem transition_eq_ok {debugStr : String → String} {now : UInt64} {slot slot' : CacheSlot}
    {newState : EntryState} {authority : TransitionAuthority} {proof : TransitionProof}
    {record : StateTransition}
    (h : slot.transition debugStr now newState authority proof = .ok (slot', record)) :
  illegalTransition debugStr slot.state newState = none ∧ slot' = { slot with state := newState }
  := by
  unfold transition at h
  split at h
  · cases h
  · rename_i hlegal
    cases h
    exact ⟨hlegal, rfl⟩

/-- Only an active slot is revoked. -/
theorem active_of_revoked {debugStr : String → String} {old : EntryState} {reason : String}
    {revokedAt : UInt64} {attestation : Option (Block 58)}
    (h : illegalTransition debugStr old (.revoked reason revokedAt attestation) = none) :
  old = .active
  := by
  cases old with
  | active => rfl
  | superseded _ => cases h
  | revoked _ _ _ => cases h
  | expired _ => cases h
  | deprecated _ _ _ => cases h

/-- Only an active slot is superseded. -/
theorem active_of_superseded {debugStr : String → String} {old : EntryState} {successor : Block 32}
    (h : illegalTransition debugStr old (.superseded successor) = none) :
  old = .active
  := by
  cases old with
  | active => rfl
  | superseded _ => cases h
  | revoked _ _ _ => cases h
  | expired _ => cases h
  | deprecated _ _ _ => cases h

end CacheSlot

/-! ### Parsing a fingerprint -/

/-- The name of the engine of the fingerprints that clients send. -/
def engineName : String := "cachee-cli"

/-- The version of the package. -/
def packageVersion : String := "0.3.0"

/-- Parse a fingerprint from hexadecimal text: its three hashes.  Malformed or short text gives
the empty fingerprint. -/
def parseFingerprint (hexStr : String) : ComputationFingerprint :=
  match hexDecode hexStr with
  | none => .empty
  | some bytes =>
    if h : bytes.length < 96 then .empty
    else
      { inputHash := ⟨bytes.take 32, by simp; omega⟩
        computationHash := ⟨(bytes.drop 32).take 32, by simp; omega⟩
        parameterHash := ⟨(bytes.drop 64).take 32, by simp; omega⟩
        version := ⟨engineName, packageVersion, none⟩
        hardwareClass := none }

/-- The strings of a parsed fingerprint fit. -/
theorem fits_parseFingerprint (hexStr : String) :
  (parseFingerprint hexStr).Fits
  := by
  unfold parseFingerprint
  split
  · apply ComputationFingerprint.fits_empty
  · split
    · apply ComputationFingerprint.fits_empty
    · have hengine : ComputationFingerprint.StringFits engineName := by decide
      have hversion : ComputationFingerprint.StringFits packageVersion := by decide
      exact ⟨hengine, hversion, by rintro cid ⟨⟩, by rintro id ⟨⟩⟩

end Cachee
