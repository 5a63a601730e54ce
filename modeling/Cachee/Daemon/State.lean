import Cachee.Archive.Verify
import Cachee.Audit.Log
import Cachee.ContentStore
import Cachee.PqKeys
import Cachee.ReadContract
import Cachee.Slot.CacheSlot
import Mathlib.Data.List.AList

/-!
# The state of the daemon

The daemon keeps the bytes of each key in an engine, and the metadata of each key in a slot
registry.  Slots with a valid fingerprint are also stored as bundles, and what is done is
recorded in the audit log.  A command performs several steps on these, each under the lock of
what it reads or writes: a `SET` inserts a slot, stores a bundle, stores the bytes and records
the entry; a `DEL` deletes the bytes, removes the slot and records the deletion; a verified read
gets the bytes, and then looks up the slot and checks the signatures of its bundle.
-/

open Text

namespace Cachee

/-- What the daemon uses of other libraries. -/
structure Externals where
  sha3 : Bytes → Block 32
  identityJson : JsonCodec SignerIdentity
  auditJson : AuditJson
  library : PqLibrary
  debugStr : String → String
  responseJson : CacheeReadResponse → Except String String

/-- The settings of the daemon. -/
structure DaemonConfig where
  strictMode : Bool
  safeReadMode : Bool
  issuerId : String
  pqKeys : Option PqKeySet

/-- The statistics of the engine, with the hit rate as text. -/
structure EngineStats where
  totalOps : ℕ
  hitRate : String
  hitsL0 : ℕ
  hitsL1 : ℕ
  misses : ℕ
  keyCount : ℕ
  memoryBytes : ℕ

/-- What a command meets with while it is handled: the time, in nanoseconds since the epoch, at
which it is handled and at which it is recorded, the time of the monotonic clock, the random
bytes of signatures, the failures of the databases, the statistics of the engine, and the times
of the last reload of the keys and of the last flush of the usage. -/
structure Ambient where
  now : UInt64
  auditNow : UInt64
  instant : ℕ
  seeds : SignSeeds
  putFault : Option WriteFault
  getFault : Option String
  auditFault : Option WriteFault
  stats : EngineStats
  lastReload : UInt64
  lastFlush : UInt64

/-- The engine, the slot registry, the content store and the audit log. -/
structure DaemonState where
  engine : AList fun _ : String => Bytes
  slots : AList fun _ : String => CacheSlot
  contentStore : ContentStore
  auditLog : AuditLog

/-! ### Bundles of slots -/

/-- The first two bytes of a signature, or zeros if it is shorter. -/
def sigPrefix : Bytes → Block 2
  | a :: b :: _ => ⟨[a, b], rfl⟩
  | _ => Block.zero 2

/-- Convert a slot to a bundle, which is signed if there are keys. -/
def slotToBundle (ext : Externals) (seeds : SignSeeds) (slot : CacheSlot)
    (pqKeys : Option PqKeySet) (issuerId : String) : Outcome CacheeArchiveBundle := do
  let contentHash := ext.sha3 slot.value
  let (signerKeys, signatures, completeness, mldsaPrefix, falconPrefix, slhdsaPrefix) ←
    match pqKeys with
    | some keys => do
      let sigs ← keys.sign ext.library seeds contentHash.1
      pure (keys.publicKeys, (⟨sigs.mldsaSig, sigs.falconSig, sigs.slhdsaSig⟩ : SignatureBundle),
        CompletenessLevel.complete, sigPrefix sigs.mldsaSig, sigPrefix sigs.falconSig,
        sigPrefix sigs.slhdsaSig)
    | none =>
      pure ((⟨[], [], []⟩ : SignerPublicKeys), (⟨[], [], []⟩ : SignatureBundle),
        CompletenessLevel.partialEvidence, Block.zero 2, Block.zero 2, Block.zero 2)
  let signerIdentity : SignerIdentity :=
    match pqKeys with
    | some keys =>
      { keyId := keys.metadata.keyId
        keyVersion := keys.metadata.version
        families := ["ML-DSA-65", "FALCON-512", "SLH-DSA-SHA2-128f"]
        issuer := issuerId
        posture := keys.metadata.posture.debug }
    | none => .default
  return {
    magic := cabMagic
    version := 1
    primitive :=
      { version := 1
        timestamp := ⟨beBytes 8 slot.createdAt.toNat, length_beBytes _ _⟩
        valueHash := contentHash
        mldsaPrefix, falconPrefix, slhdsaPrefix
        flags := Block.zero 11 }
    contentHash
    computationType := .custom 0
    timestampNs := slot.createdAt
    signerKeys, signatures
    metadata := []
    onChainAnchor := none
    completeness
    computationFingerprint := slot.fingerprint
    signerIdentity }

/-- The bundle of a slot has the right magic bytes, the hash of the value and the fingerprint. -/
theorem slotToBundle_eq_ok {ext : Externals} {seeds : SignSeeds} {slot : CacheSlot}
    {pqKeys : Option PqKeySet} {issuerId : String} {bundle : CacheeArchiveBundle}
    (h : slotToBundle ext seeds slot pqKeys issuerId = .ok bundle) :
  bundle.magic = cabMagic ∧ bundle.contentHash = ext.sha3 slot.value ∧
    bundle.computationFingerprint = slot.fingerprint
  := by
  unfold slotToBundle at h
  cases pqKeys with
  | none =>
    obtain rfl := Except.ok.inj h
    exact ⟨rfl, rfl, rfl⟩
  | some keys =>
    obtain ⟨sigs, -, h⟩ := bind_eq_ok_iff.mp h
    obtain rfl := Except.ok.inj h
    exact ⟨rfl, rfl, rfl⟩

/-- Check the signatures of a slot, by the bundle that is found under its address. -/
def verifySlot (ext : Externals) (amb : Ambient) (store : ContentStore) (slot : CacheSlot) :
    Outcome (VerificationStatus × SignatureSummary) :=
  if slot.hasValidFingerprint then do
    -- A failed read counts as a bundle that is not found.
    match ← unwrapOr (store.get ext.identityJson amb.getFault slot.contentAddress) none with
    | some bundle =>
      let result := (bundle.verify ext.library).cryptographic
      let mldsa := result.mldsaValid
      let falcon := result.falconValid
      let slhdsa := result.slhdsaValid
      let two := result.twoOfThree
      if two then
        return (.fullyVerified amb.now (mldsa && falcon && slhdsa) two,
          ⟨some mldsa, some falcon, some slhdsa, two, amb.now⟩)
      else
        return (.verificationFailed (s!"signature check failed: mldsa={mldsa}, falcon={falcon}, "
            ++ s!"slhdsa={slhdsa}"),
          ⟨some mldsa, some falcon, some slhdsa, false, amb.now⟩)
    | none => return (.unverified slot.trust.lastVerifiedAt slot.trust.trustScore, .unchecked)
  else return (.unverified slot.trust.lastVerifiedAt 0, .unchecked)

/-! ### Steps of the commands -/

/-- The time to live of a slot that is set, of 3600 seconds. -/
def setTtl : ℕ := 3600 * 10 ^ 9

/-- The slot that is made for a `SET`. -/
def newSlot (ext : Externals) (cfg : DaemonConfig) (amb : Ambient) (value : Bytes)
    (fingerprint : ComputationFingerprint) : CacheSlot :=
  CacheSlot.new ext.sha3 amb.now amb.instant value fingerprint setTtl .trustCached cfg.issuerId

namespace DaemonState

variable (ext : Externals) (cfg : DaemonConfig) (amb : Ambient) (s : DaemonState)

/-- Append an event to the audit log, whatever comes of it. -/
def log (event : AuditEventType) : DaemonState :=
  { s with auditLog := (s.auditLog.append ext.sha3 ext.auditJson amb.auditNow amb.auditFault event).1 }

/-- Store slot metadata. -/
def insertSlot (key : String) (slot : CacheSlot) : DaemonState :=
  { s with slots := s.slots.insert key slot }

/-- Store the slot of a key as a bundle, if its fingerprint is valid.  A failed write is
ignored. -/
def persistSlot (key : String) : Outcome DaemonState :=
  match s.slots.lookup key with
  | some slot =>
    if slot.hasValidFingerprint then do
      let bundle ← slotToBundle ext amb.seeds slot cfg.pqKeys cfg.issuerId
      return { s with
        contentStore := (s.contentStore.put ext.sha3 ext.identityJson amb.putFault bundle).1 }
    else return s
  | none => return s

/-- Store raw bytes in the engine. -/
def setValue (key : String) (value : Bytes) : DaemonState :=
  { s with engine := s.engine.insert key value }

/-- Record the creation of an entry. -/
def logCreated (key : String) : DaemonState :=
  match s.slots.lookup key with
  | some slot =>
    s.log ext amb (.entryCreated key (hexEncode slot.contentAddress.1)
      (hexEncode (slot.fingerprint.digest ext.sha3).1)
      (cfg.pqKeys.isSome && slot.hasValidFingerprint))
  | none => s

/-- Delete the bytes of a key from the engine.  Returns whether there were any. -/
def deleteValue (key : String) : DaemonState × Bool :=
  ({ s with engine := s.engine.erase key }, (s.engine.lookup key).isSome)

/-- Remove the slot of a key. -/
def removeSlot (key : String) : DaemonState :=
  { s with slots := s.slots.erase key }

/-- Record a deletion, if something was deleted. -/
def logDeleted (key : String) (deleted : Bool) : DaemonState :=
  if deleted then s.log ext amb (.entryDeleted key) else s

/-- The response for the bytes of a key. -/
def respond (key : String) (value : Bytes) : Outcome CacheeReadResponse :=
  match s.slots.lookup key with
  | some slot => do
    let (verification, signatures) ← verifySlot ext amb s.contentStore slot
    return {
      value
      fingerprint := slot.fingerprint
      verification, signatures
      provenance := slot.provenance
      state := slot.state
      validity := slot.temporal.validity }
  | none =>
    return {
      value
      fingerprint := .empty
      verification := .unverified 0 0
      signatures := .unchecked
      provenance := ⟨"unknown", 0, 0, []⟩
      state := .active
      validity := ⟨0, none, none⟩ }

/-- The verified read of a key: its bytes, and the response for them. -/
def getVerified (key : String) : Outcome (Option CacheeReadResponse) :=
  match s.engine.lookup key with
  | some value => do
    let response ← s.respond ext amb key value
    return some response
  | none => return none

/-- Record what came of the verification of a response. -/
def logVerification (key : String) (response : CacheeReadResponse) : DaemonState :=
  match response.verification with
  | .fullyVerified _ _ _ =>
    let mldsa := response.signatures.mldsaValid.getD false
    let falcon := response.signatures.falconValid.getD false
    let slhdsa := response.signatures.slhdsaValid.getD false
    s.log ext amb (.verificationPerformed key mldsa falcon slhdsa
      response.signatures.twoOfThree (mldsa && falcon && slhdsa))
  | .verificationFailed reason => s.log ext amb (.verificationFailed key reason)
  | _ => s

/-- Change the state of the slot of a key, and record the change.  Returns the reply, which is
`missing` if the key has no slot. -/
def transitionSlot (key missing : String) (newState : EntryState) (toState : String)
    (reason : Option String) : DaemonState × String :=
  match s.slots.lookup key with
  | some slot =>
    match slot.transition ext.debugStr amb.now newState .system .systemInitiated with
    | .ok (slot, _) =>
      (({ s with slots := s.slots.insert key slot } : DaemonState).log ext amb
          (.stateTransition key "Active" toState "System" reason),
        "+OK\r\n")
    | .error e => (s, s!"-ERR {e}\r\n")
  | none => (s, missing)

/-! ### What the steps change -/

/-- Recording the creation of an entry changes the audit log only. -/
theorem logCreated_eq (key : String) :
  ∃ auditLog, s.logCreated ext cfg amb key = { s with auditLog }
  := by
  unfold logCreated
  split
  · exact ⟨_, rfl⟩
  · exact ⟨s.auditLog, rfl⟩

/-- Recording a deletion changes the audit log only. -/
theorem logDeleted_eq (key : String) (deleted : Bool) :
  ∃ auditLog, s.logDeleted ext amb key deleted = { s with auditLog }
  := by
  unfold logDeleted
  split
  · exact ⟨_, rfl⟩
  · exact ⟨s.auditLog, rfl⟩

/-- Recording a verification changes the audit log only. -/
theorem logVerification_eq (key : String) (response : CacheeReadResponse) :
  ∃ auditLog, s.logVerification ext amb key response = { s with auditLog }
  := by
  unfold logVerification
  split
  · exact ⟨_, rfl⟩
  · exact ⟨_, rfl⟩
  · exact ⟨s.auditLog, rfl⟩

/-- A change of state changes nothing, or is legal and gives the slot of the key another state and
records it. -/
theorem transitionSlot_cases (key missing toState : String) (newState : EntryState)
    (reason : Option String) :
  (s.transitionSlot ext amb key missing newState toState reason).1 = s ∨
    ∃ slot, s.slots.lookup key = some slot ∧
      CacheSlot.illegalTransition ext.debugStr slot.state newState = none ∧
      (s.transitionSlot ext amb key missing newState toState reason).1
        = (s.insertSlot key { slot with state := newState }).log ext amb
            (.stateTransition key "Active" toState "System" reason)
  := by
  unfold transitionSlot
  split
  · rename_i slot hslot
    split
    · rename_i slot' record htransition
      right
      obtain ⟨hlegal, rfl⟩ := CacheSlot.transition_eq_ok htransition
      exact ⟨slot, hslot, hlegal, rfl⟩
    · left
      rfl
  · left
    rfl

variable {ext cfg amb s} {key : String}

/-- A response has the bytes that were read, and the rest from the slot that was found. -/
theorem respond_eq_ok {value : Bytes} {response : CacheeReadResponse}
    (h : s.respond ext amb key value = .ok response) :
  response.value = value ∧
    ∀ slot ∈ s.slots.lookup key, response.fingerprint = slot.fingerprint ∧
      response.state = slot.state ∧ response.validity = slot.temporal.validity
  := by
  unfold respond at h
  cases hlookup : s.slots.lookup key with
  | none =>
    rw [hlookup] at h
    obtain rfl := Except.ok.inj h
    use rfl
    intro slot hslot
    cases hslot
  | some found =>
    rw [hlookup] at h
    obtain ⟨⟨verification, signatures⟩, -, hresponse⟩ := bind_eq_ok_iff.mp h
    obtain rfl := Except.ok.inj hresponse
    use rfl
    intro slot hslot
    obtain rfl := Option.some.inj hslot
    exact ⟨rfl, rfl, rfl⟩

/-- A verified read that finds something has found bytes in the engine, and responds for them. -/
theorem getVerified_eq_some {response : CacheeReadResponse}
    (h : s.getVerified ext amb key = .ok (some response)) :
  ∃ value, s.engine.lookup key = some value ∧ s.respond ext amb key value = .ok response
  := by
  unfold getVerified at h
  cases hvalue : s.engine.lookup key with
  | none =>
    rw [hvalue] at h
    cases h
  | some value =>
    rw [hvalue] at h
    obtain ⟨response', hrespond, hsome⟩ := bind_eq_ok_iff.mp h
    obtain rfl := Option.some.inj (Except.ok.inj hsome)
    exact ⟨value, rfl, hrespond⟩

/-- What was not verified is not recorded. -/
theorem logVerification_of_unverified {response : CacheeReadResponse} {lastVerifiedAt : UInt64}
    {trustScore : ℚ} (h : response.verification = .unverified lastVerifiedAt trustScore) :
  s.logVerification ext amb key response = s
  := by
  rw [logVerification, h]

/-- Storing a slot as a bundle changes the content store only, by putting the bundle of the
slot if its fingerprint is valid. -/
theorem persistSlot_cases {slot : CacheSlot} {s' : DaemonState}
    (hslot : s.slots.lookup key = some slot) (h : s.persistSlot ext cfg amb key = .ok s') :
  slot.hasValidFingerprint = false ∧ s' = s ∨
    ∃ bundle, slotToBundle ext amb.seeds slot cfg.pqKeys cfg.issuerId = .ok bundle ∧
      s' = { s with
        contentStore := (s.contentStore.put ext.sha3 ext.identityJson amb.putFault bundle).1 }
  := by
  unfold persistSlot at h
  rw [hslot] at h
  dsimp only at h
  split at h
  · right
    obtain ⟨bundle, hbundle, hs'⟩ := bind_eq_ok_iff.mp h
    use bundle, hbundle
    apply (Except.ok.inj hs').symm
  · rename_i hvalid
    left
    use Bool.eq_false_of_not_eq_true hvalid
    apply (Except.ok.inj h).symm

/-- Storing a slot that was just inserted as a bundle changes neither the slots nor the log. -/
theorem persistSlot_insertSlot {slot : CacheSlot} {s' : DaemonState}
    (h : (s.insertSlot key slot).persistSlot ext cfg amb key = .ok s') :
  s'.slots = s.slots.insert key slot ∧ s'.auditLog = s.auditLog
  := by
  rcases persistSlot_cases (AList.lookup_insert _) h with ⟨-, rfl⟩ | ⟨bundle, -, rfl⟩
  · exact ⟨rfl, rfl⟩
  · exact ⟨rfl, rfl⟩

end DaemonState

/-! ### A concrete daemon -/

/-- Keys of the concrete schemes. -/
def plainKeys : PqKeySet where
  mldsaPk := [1]
  mldsaSk := [1]
  falconPk := [2]
  falconSk := [2]
  slhdsaPk := [3]
  slhdsaSk := [3]
  metadata := ⟨computeKeyId primeHash [1] [2] [3], 1, .development⟩

/-- Settings with these keys. -/
def plainConfig : DaemonConfig where
  strictMode := false
  safeReadMode := false
  issuerId := "node"
  pqKeys := some plainKeys

/-- The identity of a signer with these keys. -/
def plainIdentity : SignerIdentity where
  keyId := plainKeys.metadata.keyId
  keyVersion := plainKeys.metadata.version
  families := ["ML-DSA-65", "FALCON-512", "SLH-DSA-SHA2-128f"]
  issuer := "node"
  posture := "Development"

/-- The concrete hash function and schemes, with the JSON text of this identity only. -/
def plainExternals : Externals where
  sha3 := primeHash
  identityJson := .only plainIdentity (asBytes (s!"\x7b\"key_id\":{arrayText plainIdentity.keyId.1}"
    ++ ",\"key_version\":1,\"families\":[\"ML-DSA-65\",\"FALCON-512\",\"SLH-DSA-SHA2-128f\"]"
    ++ ",\"issuer\":\"node\",\"posture\":\"Development\"\x7d"))
  auditJson :=
    { event := ⟨fun _ => .error "unsupported", fun _ => .error "unsupported"⟩
      entry := ⟨fun _ => .error "unsupported", fun _ => .error "unsupported"⟩
      history _ := .error "unsupported" }
  library := prefixLibrary
  debugStr s := "\"" ++ s ++ "\""
  responseJson _ := .error "unsupported"

/-- A command that is handled at time 1 and meets with no failure. -/
def plainAmbient : Ambient where
  now := 1
  auditNow := 1
  instant := 1
  seeds := ⟨[], [], []⟩
  putFault := none
  getFault := none
  auditFault := none
  stats := ⟨0, "0.0000", 0, 0, 0, 0, 0⟩
  lastReload := 0
  lastFlush := 0

namespace DaemonState

/-- The state of a daemon that has stored nothing. -/
def empty (issuerId : String) : DaemonState where
  engine := ∅
  slots := ∅
  contentStore := .openDb ∅
  auditLog := .fresh issuerId

end DaemonState

end Cachee
