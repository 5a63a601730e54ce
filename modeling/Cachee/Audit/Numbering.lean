import Cachee.Audit.Log

/-!
# Numbers for audit entries

Every event is determined by its kind, and by its texts, flags and numbers, and every entry by its
fields.  So the entries are numbered, and there are codecs for all of them.
-/

open Text

namespace Cachee

instance encodableUInt8 : Encodable UInt8 :=
  .ofLeftInverse UInt8.toNat UInt8.ofNat fun _ => UInt8.ofNat_toNat

instance encodableUInt64 : Encodable UInt64 :=
  .ofLeftInverse UInt64.toNat UInt64.ofNat fun _ => UInt64.ofNat_toNat

instance encodableString : Encodable String :=
  .ofLeftInverse (fun s => s.toList.map Char.toNat) (fun ns => .ofList (ns.map Char.ofNat)) (by
    intro s
    simp [Function.comp_def])

/-- The kind of an event, with its texts, flags and numbers. -/
def AuditEventType.fields : AuditEventType → ℕ × List String × List Bool × List ℕ
  | stateTransition key fromState toState authority reason =>
    (0, key :: fromState :: toState :: authority :: reason.toList, [], [])
  | verificationPerformed key mldsaValid falconValid slhdsaValid twoOfThree allThree =>
    (1, [key], [mldsaValid, falconValid, slhdsaValid, twoOfThree, allThree], [])
  | verificationFailed key error => (2, [key, error], [], [])
  | entryCreated key contentAddress fingerprintDigest signed =>
    (3, [key, contentAddress, fingerprintDigest], [signed], [])
  | entryDeleted key => (4, [key], [], [])
  | keyRotation oldKeyId newKeyId oldVersion newVersion =>
    (5, [], [], [oldKeyId.toNat, newKeyId.toNat, oldVersion.toNat, newVersion.toNat])
  | daemonStart version attestEnabled verifyMode => (6, [version, verifyMode], [attestEnabled], [])
  | replayRejected command nonce => (7, [command, nonce], [], [])
  | merkleAnchor merkleRoot fromSequence toSequence entryCount =>
    (8, [merkleRoot], [], [fromSequence.toNat, toSequence.toNat, entryCount.toNat])

/-- The event of a kind with these texts, flags and numbers. -/
def AuditEventType.ofFields? : ℕ × List String × List Bool × List ℕ → Option AuditEventType
  | (0, key :: fromState :: toState :: authority :: reason, [], []) =>
    some (stateTransition key fromState toState authority reason.head?)
  | (1, [key], [mldsaValid, falconValid, slhdsaValid, twoOfThree, allThree], []) =>
    some (verificationPerformed key mldsaValid falconValid slhdsaValid twoOfThree allThree)
  | (2, [key, error], [], []) => some (verificationFailed key error)
  | (3, [key, contentAddress, fingerprintDigest], [signed], []) =>
    some (entryCreated key contentAddress fingerprintDigest signed)
  | (4, [key], [], []) => some (entryDeleted key)
  | (5, [], [], [oldKeyId, newKeyId, oldVersion, newVersion]) =>
    some (keyRotation (.ofNat oldKeyId) (.ofNat newKeyId) (.ofNat oldVersion) (.ofNat newVersion))
  | (6, [version, verifyMode], [attestEnabled], []) =>
    some (daemonStart version attestEnabled verifyMode)
  | (7, [command, nonce], [], []) => some (replayRejected command nonce)
  | (8, [merkleRoot], [], [fromSequence, toSequence, entryCount]) =>
    some (merkleAnchor merkleRoot (.ofNat fromSequence) (.ofNat toSequence) (.ofNat entryCount))
  | _ => none

/-- An event is determined by its fields. -/
theorem AuditEventType.ofFields?_fields (event : AuditEventType) :
  ofFields? event.fields = some event
  := by
  cases event with
  | stateTransition key fromState toState authority reason =>
    cases reason with
    | none => rfl
    | some reason => rfl
  | verificationPerformed key mldsaValid falconValid slhdsaValid twoOfThree allThree => rfl
  | verificationFailed key error => rfl
  | entryCreated key contentAddress fingerprintDigest signed => rfl
  | entryDeleted key => rfl
  | keyRotation oldKeyId newKeyId oldVersion newVersion => simp [fields, ofFields?]
  | daemonStart version attestEnabled verifyMode => rfl
  | replayRejected command nonce => rfl
  | merkleAnchor merkleRoot fromSequence toSequence entryCount => simp [fields, ofFields?]

instance encodableEvent : Encodable AuditEventType :=
  .ofLeftInjection AuditEventType.fields AuditEventType.ofFields? AuditEventType.ofFields?_fields

instance encodableEntry : Encodable AuditEntry :=
  .ofLeftInverse
    (fun entry => (entry.sequence, entry.prevHash, entry.hash, entry.timestampNs, entry.event,
      entry.issuerId))
    (fun (sequence, prevHash, hash, timestampNs, event, issuerId) =>
      { sequence, prevHash, hash, timestampNs, event, issuerId })
    fun _ => rfl

end Cachee
