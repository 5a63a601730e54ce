import Cachee.Daemon.Dispatch

/-!
# Conflicting writes

A write conflicts with the slot of its key when it has the fingerprint of that slot and another
value.  There is a function that detects such conflicts, and a setting that says what to do
about them; the handler of a `SET` consults neither.
-/

open Text

namespace Cachee

/-- A conflict of a write with the slot of its key. -/
inductive WriteConflict where
  | none
  | fingerprintCollision (existingAddress incomingHash : Block 32)
  | resultDuplicate (existingFingerprint incomingFingerprint : ComputationFingerprint)
  deriving DecidableEq

/-- Check for conflicts before writing. -/
def detectConflict (sha3 : Bytes → Block 32) (existing : Option CacheSlot) (incomingValue : Bytes)
    (incomingFingerprint : ComputationFingerprint) : WriteConflict :=
  match existing with
  | Option.none => .none
  | some existing =>
    let incomingValueHash := sha3 incomingValue
    let existingValueHash := sha3 existing.value
    if existing.fingerprint.digest sha3 = incomingFingerprint.digest sha3
        ∧ incomingValueHash ≠ existingValueHash then
      .fingerprintCollision existing.contentAddress incomingValueHash
    else if incomingValueHash = existingValueHash
        ∧ existing.fingerprint.digest sha3 ≠ incomingFingerprint.digest sha3 then
      .resultDuplicate existing.fingerprint incomingFingerprint
    else .none

/-- The settings of verification that concern reads and writes of the daemon. -/
structure VerificationConfig where
  strictFingerprint : Bool
  conflictPolicy : String
  readMode : String

/-- The default settings. -/
def VerificationConfig.default : VerificationConfig where
  strictFingerprint := false
  conflictPolicy := "reject"
  readMode := "compatible"

/-- What the daemon takes over from these settings when it starts. -/
def VerificationConfig.daemonConfig (config : VerificationConfig) (issuerId : String)
    (pqKeys : Option PqKeySet) : DaemonConfig where
  strictMode := config.strictFingerprint
  safeReadMode := config.readMode = "safe"
  issuerId := issuerId
  pqKeys := pqKeys

/-- A write is rejected: the reply is an error, and the engine, the slots, the content store and
the audit log stay as they were. -/
def WriteRejected (ext : Externals) (cfg : DaemonConfig) (amb : Ambient) (s : DaemonState)
    (data : Bytes) : Prop :=
  ∃ s' reply, handleResp ext cfg amb s data = .ok (s', reply) ∧ hasPrefix reply "-ERR" ∧
    s'.engine = s.engine ∧ s'.slots = s.slots ∧ s'.contentStore = s.contentStore ∧
    s'.auditLog = s.auditLog

variable {ext : Externals} {cfg : DaemonConfig} {amb : Ambient} {s : DaemonState} {data : Bytes}
  {key value : String} {fingerprint : ComputationFingerprint} {slot : CacheSlot}

/-- A value other than that of the slot, under the fingerprint of the slot, is detected as a
conflict. -/
theorem detectConflict_eq {incoming : Bytes} (hne : incoming ≠ slot.value)
    (hsha3 : NoCollision ext.sha3 incoming slot.value) :
  detectConflict ext.sha3 (some slot) incoming slot.fingerprint
    = .fingerprintCollision slot.contentAddress (ext.sha3 incoming)
  := by
  have hhash : ext.sha3 incoming ≠ ext.sha3 slot.value := by
    intro h
    exact hne (hsha3 h)
  unfold detectConflict
  dsimp only
  rw [if_pos ⟨rfl, hhash⟩]

/-- A write with the words of a `SET` is carried out or panics: it is not rejected. -/
theorem not_writeRejected
    (hset : (DaemonEvent.command amb data).set? cfg = some (key, value, fingerprint)) :
  ¬ WriteRejected ext cfg amb s data
  := by
  rintro ⟨s', reply, hresp, herror, -⟩
  obtain ⟨-, -, rfl⟩ := engine_slots_of_set? hset hresp
  revert herror
  decide

/-- No conflicting write is rejected, whatever the conflict policy: a `SET` of a key to another
value under the fingerprint of its slot, which is detected as a conflict, replaces the value and
the slot whenever it returns. -/
theorem conflict_overwrites (config : VerificationConfig) (issuerId : String)
    (pqKeys : Option PqKeySet) (hslot : s.slots.lookup key = some slot)
    (hset : (DaemonEvent.command amb data).set? (config.daemonConfig issuerId pqKeys)
      = some (key, value, slot.fingerprint))
    (hne : asBytes value ≠ slot.value) :
  (NoCollision ext.sha3 (asBytes value) slot.value →
    detectConflict ext.sha3 (s.slots.lookup key) (asBytes value) slot.fingerprint
      = .fingerprintCollision slot.contentAddress (ext.sha3 (asBytes value))) ∧
  ¬ WriteRejected ext (config.daemonConfig issuerId pqKeys) amb s data ∧
  ∀ s' reply, handleResp ext (config.daemonConfig issuerId pqKeys) amb s data = .ok (s', reply) →
    reply = "+OK\r\n" ∧ s'.engine.lookup key = some (asBytes value) ∧
    s'.slots.lookup key = some (newSlot ext (config.daemonConfig issuerId pqKeys) amb
      (asBytes value) slot.fingerprint)
  := by
  refine ⟨?_, not_writeRejected hset, ?_⟩
  · intro hsha3
    rw [hslot]
    apply detectConflict_eq hne hsha3
  · intro s' reply hresp
    obtain ⟨hengine, hslots, hreply⟩ := engine_slots_of_set? hset hresp
    refine ⟨hreply, ?_, ?_⟩
    · rw [hengine, AList.lookup_insert]
    · rw [hslots, AList.lookup_insert]

/-- The fingerprint whose hashes are all ones, as it is sent. -/
def onesHex : String := String.join (List.replicate 96 "01")

/-- The default settings, for a daemon without keys. -/
def rejectConfig : DaemonConfig := VerificationConfig.default.daemonConfig "node" none

/-- A slot with the value `v` and this fingerprint. -/
def heldSlot : CacheSlot :=
  newSlot plainExternals rejectConfig plainAmbient (asBytes "v") (parseFingerprint onesHex)

/-- The state that holds the value `v` under the key `k` in this slot. -/
def heldState : DaemonState :=
  { DaemonState.empty "node" with
    engine := (∅ : AList fun _ : String => Bytes).insert "k" (asBytes "v")
    slots := (∅ : AList fun _ : String => CacheSlot).insert "k" heldSlot }

/-- The `SET` of `k` to the value `w` under the same fingerprint. -/
def conflictingSet : Bytes := asBytes ("SET k w FP " ++ onesHex)

theorem set?_conflictingSet :
  (DaemonEvent.command plainAmbient conflictingSet).set? rejectConfig
    = some ("k", "w", heldSlot.fingerprint)
  := by
  decide +kernel

/-- The conflicting write is not rejected under the default policy. -/
theorem conflict_overwrites_held :
  ¬ WriteRejected plainExternals rejectConfig plainAmbient heldState conflictingSet
  := by
  have hne : asBytes "w" ≠ heldSlot.value := by decide +kernel
  have hslot : heldState.slots.lookup "k" = some heldSlot := AList.lookup_insert _
  exact (conflict_overwrites (s := heldState) VerificationConfig.default "node" none hslot
    set?_conflictingSet hne).2.1

/-- The key has a slot with a valid fingerprint, the write under this fingerprint is detected as
a conflict, and it is not rejected. -/
theorem overwritten_held :
  VerificationConfig.default.conflictPolicy = "reject" ∧
    heldState.slots.lookup "k" = some heldSlot ∧ heldSlot.hasValidFingerprint ∧
    detectConflict primeHash (some heldSlot) (asBytes "w") heldSlot.fingerprint
      = .fingerprintCollision heldSlot.contentAddress (primeHash (asBytes "w")) ∧
    (DaemonEvent.command plainAmbient conflictingSet).set? rejectConfig
      = some ("k", "w", heldSlot.fingerprint) ∧
    ¬ WriteRejected plainExternals rejectConfig plainAmbient heldState conflictingSet
  := by
  refine ⟨rfl, AList.lookup_insert _, by decide +kernel, by decide +kernel, set?_conflictingSet, ?_⟩
  apply not_writeRejected set?_conflictingSet

end Cachee
