import Cachee.Library.OrderedMap
import Cachee.Library.Text

/-!
# The audit log

Every event is recorded in an entry that carries the hash of the entry before it.  Entries
are stored in a database under their sequence numbers, as JSON text; the log keeps the hash
of the last entry, the next sequence number and the list of all hashes in memory.
-/

open Text

namespace Cachee

/-- The events that are recorded. -/
inductive AuditEventType where
  | stateTransition (key fromState toState authority : String) (reason : Option String)
  | verificationPerformed (key : String) (mldsaValid falconValid slhdsaValid : Bool)
      (twoOfThree allThree : Bool)
  | verificationFailed (key error : String)
  | entryCreated (key contentAddress fingerprintDigest : String) (signed : Bool)
  | entryDeleted (key : String)
  | keyRotation (oldKeyId newKeyId : UInt64) (oldVersion newVersion : UInt32)
  | daemonStart (version : String) (attestEnabled : Bool) (verifyMode : String)
  | replayRejected (command nonce : String)
  | merkleAnchor (merkleRoot : String) (fromSequence toSequence entryCount : UInt64)
  deriving DecidableEq

/-- The key that an event is about, for the events of the lifecycle of a key. -/
def AuditEventType.key? : AuditEventType → Option String
  | stateTransition key _ _ _ _ => some key
  | verificationPerformed key _ _ _ _ _ => some key
  | verificationFailed key _ => some key
  | entryCreated key _ _ _ => some key
  | entryDeleted key => some key
  | _ => none

/-- A single entry of the log. -/
structure AuditEntry where
  sequence : UInt64
  prevHash : Block 32
  hash : Block 32
  timestampNs : UInt64
  event : AuditEventType
  issuerId : String
  deriving DecidableEq

/-- The conversions to JSON text that the log uses: of events, of entries, and of the history
of a key, which is only written. -/
structure AuditJson where
  event : JsonCodec AuditEventType
  entry : JsonCodec AuditEntry
  history : List AuditEntry → Except String String

/-- The byte string that the hash of an entry hashes. -/
def AuditEntry.hashInput (json : AuditJson) (prevHash : Block 32) (event : AuditEventType)
    (timestampNs sequence : UInt64) : Bytes :=
  prevHash.1 ++ (beBytes 8 timestampNs.toNat ++ (beBytes 8 sequence.toNat
    ++ json.event.toVecOrDefault event))

/-- The hash of an entry. -/
def AuditEntry.computeHash (sha3 : Bytes → Block 32) (json : AuditJson) (prevHash : Block 32)
    (event : AuditEventType) (timestampNs sequence : UInt64) : Block 32 :=
  sha3 (hashInput json prevHash event timestampNs sequence)

/-- The audit log: its database, and what it keeps in memory. -/
structure AuditLog where
  db : Database
  headHash : Block 32
  nextSequence : UInt64
  issuerId : String
  seenNonces : Finset (Block 32)
  merkleLeaves : List (Block 32)
  lastMerkleRoot : Option (Block 32)
  lastAnchorSequence : UInt64

/-! ### Merkle roots -/

/-- The level above a level of a Merkle tree: hashes of pairs, where an odd last hash is paired
with itself. -/
def nextLevel (sha3 : Bytes → Block 32) : List (Block 32) → List (Block 32)
  | [] => []
  | [a] => [sha3 (a.1 ++ a.1)]
  | a :: b :: rest => sha3 (a.1 ++ b.1) :: nextLevel sha3 rest

/-- The first hash of the first level with at most one hash, after at most `fuel` levels. -/
def climbLevels (sha3 : Bytes → Block 32) : ℕ → List (Block 32) → Block 32
  | 0, currentLevel => currentLevel.headD (Block.zero 32)
  | fuel + 1, currentLevel =>
    if 1 < currentLevel.length then climbLevels sha3 fuel (nextLevel sha3 currentLevel)
    else currentLevel.headD (Block.zero 32)

/-- The Merkle root of a list of hashes.  Each level has fewer hashes than the one below it,
so there are no more levels than leaves. -/
def merkleRoot (sha3 : Bytes → Block 32) (leaves : List (Block 32)) : Block 32 :=
  match leaves with
  | [] => Block.zero 32
  | [leaf] => leaf
  | _ => climbLevels sha3 leaves.length leaves

namespace AuditLog

variable (sha3 : Bytes → Block 32) (json : AuditJson)

/-- The entry with the JSON text `value`, if it is one. -/
def readEntry? (value : Bytes) : Option AuditEntry :=
  match json.entry.fromSlice value with
  | .ok entry => some entry
  | .error _ => none

/-- The entries that are read from the database, in key order. -/
def exportAll (log : AuditLog) : List AuditEntry :=
  log.db.toList.filterMap fun item => readEntry? json item.2

/-- Open an audit log on a database. -/
def openDb (db : Database) (issuerId : String) : Except String AuditLog := do
  let (headHash, nextSequence) ←
    match db.toList.getLast? with
    | some (_, value) =>
      match json.entry.fromSlice value with
      | .ok entry => pure (entry.hash, entry.sequence + 1)
      | .error e => throw s!"audit deserialize: {e}"
    | none => pure (Block.zero 32, 0)
  let log : AuditLog :=
    { db, headHash, nextSequence, issuerId
      seenNonces := ∅
      merkleLeaves := []
      lastMerkleRoot := none
      lastAnchorSequence := 0 }
  return { log with merkleLeaves := (log.exportAll json).map AuditEntry.hash }

/-- The log of an empty database. -/
def fresh (issuerId : String) : AuditLog where
  db := ∅
  headHash := Block.zero 32
  nextSequence := 0
  issuerId := issuerId
  seenNonces := ∅
  merkleLeaves := []
  lastMerkleRoot := none
  lastAnchorSequence := 0

/-- The entry that is written for an event. -/
def newEntry (timestampNs : UInt64) (log : AuditLog) (event : AuditEventType) : AuditEntry where
  sequence := log.nextSequence
  prevHash := log.headHash
  hash := AuditEntry.computeHash sha3 json log.headHash event timestampNs log.nextSequence
  timestampNs := timestampNs
  event := event
  issuerId := log.issuerId

/-- The log after an entry has been inserted in its database. -/
def insertEntry (log : AuditLog) (entryBytes : Bytes) : AuditLog :=
  { log with db := log.db.insert (beBytes 8 log.nextSequence.toNat) entryBytes }

/-- Append an event to the log.  Returns the hash of its entry. -/
def append (timestampNs : UInt64) (fault : Option WriteFault) (log : AuditLog)
    (event : AuditEventType) : AuditLog × Except String (Block 32) :=
  let entry := log.newEntry sha3 json timestampNs event
  match json.entry.toVec entry with
  | .error e => (log, .error s!"audit serialize: {e}")
  | .ok entryBytes =>
    match fault with
    | some (.insert e) => (log, .error s!"audit write: {e}")
    | some (.flush e) => (log.insertEntry entryBytes, .error s!"audit flush: {e}")
    | none =>
      ({ log.insertEntry entryBytes with
          headHash := entry.hash
          nextSequence := log.nextSequence + 1
          merkleLeaves := log.merkleLeaves ++ [entry.hash] },
        .ok entry.hash)

/-- Verify the entries of a list against the hash of the entry before them, counting the valid
ones.  Returns the count with the sequence of the first broken entry. -/
def verifyFrom : Block 32 → UInt64 → List (Bytes × Bytes) →
    Except String (UInt64 × Option UInt64)
  | _, count, [] => .ok (count, none)
  | prevHash, count, (_, value) :: rest =>
    match json.entry.fromSlice value with
    | .error e => .error s!"audit deserialize: {e}"
    | .ok entry =>
      if entry.prevHash ≠ prevHash then .ok (count, some entry.sequence)
      else if entry.hash ≠ AuditEntry.computeHash sha3 json entry.prevHash entry.event
          entry.timestampNs entry.sequence then
        .ok (count, some entry.sequence)
      else verifyFrom entry.hash (count + 1) rest

/-- Verify the entire chain. -/
def verifyChain (log : AuditLog) : Except String (UInt64 × Option UInt64) :=
  verifyFrom sha3 json (Block.zero 32) 0 log.db.toList

/-- The entries of the lifecycle of a key. -/
def keyHistory (log : AuditLog) (key : String) : List AuditEntry :=
  (log.exportAll json).filter fun entry => entry.event.key? = some key

/-- The lifecycle of a key as a JSON array. -/
def exportKeyLifecycle (log : AuditLog) (key : String) : String :=
  match json.history (log.keyHistory json key) with
  | .ok text => text
  | .error _ => "[]"

/-- Check and register a nonce.  Returns `false` if it was already seen.  When there are more
than 100000 nonces, all the others are forgotten. -/
def checkNonce (log : AuditLog) (nonce : Block 32) : AuditLog × Bool :=
  if nonce ∈ log.seenNonces then (log, false)
  else
    let seen := insert nonce log.seenNonces
    ({ log with seenNonces := if 100000 < seen.card then {nonce} else seen }, true)

/-- The hashes since the last anchor. -/
def leavesSinceAnchor (log : AuditLog) : List (Block 32) :=
  log.merkleLeaves.drop log.lastAnchorSequence.toNat

/-- The event that records an anchor. -/
def anchorEvent (log : AuditLog) : AuditEventType :=
  .merkleAnchor (hexEncode (merkleRoot sha3 log.leavesSinceAnchor).1) log.lastAnchorSequence
    (if log.nextSequence = 0 then 0 else log.nextSequence - 1)
    (UInt64.ofNat log.leavesSinceAnchor.length)

/-- Compute the Merkle root of the hashes since the last anchor, and record it in an entry. -/
def computeMerkleAnchor (timestampNs : UInt64) (fault : Option WriteFault) (log : AuditLog) :
    AuditLog × Except String (Block 32) :=
  if log.leavesSinceAnchor.isEmpty then (log, .error "no entries since last anchor")
  else
    let root := merkleRoot sha3 log.leavesSinceAnchor
    match log.append sha3 json timestampNs fault (log.anchorEvent sha3) with
    | (log, .error e) => (log, .error e)
    | (log, .ok _) =>
      ({ log with lastMerkleRoot := some root, lastAnchorSequence := log.nextSequence },
        .ok root)

/-- The number of entries in the log. -/
def len (log : AuditLog) : UInt64 := log.nextSequence

/-- The hash of the last entry. -/
def head (log : AuditLog) : Block 32 := log.headHash

end AuditLog

end Cachee
