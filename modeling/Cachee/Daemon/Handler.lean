import Cachee.Archive.Safety
import Cachee.Daemon.State

/-!
# The command handler

A command is a line of words.  The handler splits it, dispatches on the upper case of its first
word, and returns the reply.  A word `FP` in a `SET` ends the value and announces a
fingerprint; it is looked for among all words, the key included.

The handler has a reply for every input but two: a `SET` whose key is the first word `FP`, for
which it takes a slice that ends before it starts, and a `SET` that is signed with keys that
their libraries do not accept.
-/

open Text

namespace Cachee

/-! ### Replies -/

/-- A bulk string: its length and its text. -/
def bulk (text : String) : String := s!"${(asBytes text).length}\r\n{text}\r\n"

/-- The reply for a key without a value. -/
def nilReply : String := "$-1\r\n"

/-! ### Commands -/

/-- The position of the first word `FP`. -/
def fpIndex (parts : List String) : Option ℕ :=
  parts.findIdx? fun p => eqIgnoreAsciiCase p "FP"

/-- The word after a position, as a fingerprint. -/
def fpArgument (parts : List String) (idx : ℕ) : ComputationFingerprint :=
  parseFingerprint (parts[idx + 1]?.getD "")

/-- The value and the fingerprint of a `SET`; none if there is no fingerprint in strict mode. -/
def setArguments (cfg : DaemonConfig) (parts : List String) :
    Outcome (Option (String × ComputationFingerprint)) :=
  match fpIndex parts with
  | some idx => do
    let value := " ".intercalate (← slice parts 2 idx)
    return some (value, fpArgument parts idx)
  | none =>
    if cfg.strictMode then return none
    else do
      let value := " ".intercalate (← slice parts 2 parts.length)
      return some (value, .empty)

section Commands

variable (ext : Externals) (cfg : DaemonConfig) (amb : Ambient) (s : DaemonState)
  (parts : List String)

/-- `SET key value [FP hex]` -/
def handleSet : Outcome (DaemonState × String) := do
  let key ← index parts 1
  match ← setArguments cfg parts with
  | none => return (s, "-ERR computation fingerprint required (strict mode)\r\n")
  | some (value, fingerprint) =>
    let slot := newSlot ext cfg amb (asBytes value) fingerprint
    let s ← (s.insertSlot key slot).persistSlot ext cfg amb key
    return ((s.setValue key (asBytes value)).logCreated ext cfg amb key, "+OK\r\n")

/-- `GET key` -/
def handleGet : Outcome (DaemonState × String) :=
  if cfg.safeReadMode then
    return (s, "-ERR Use GETVERIFIED for verified reads. GET is disabled in safe mode. "
      ++ "Set read_mode = \"compatible\" to enable unverified reads.\r\n")
  else do
    let key ← index parts 1
    match s.engine.lookup key with
    | some value => return (s, bulk (String.ofList (fromUtf8Lossy value)))
    | none => return (s, nilReply)

/-- The JSON text of a response, empty if it has none. -/
def responseText (response : CacheeReadResponse) : String :=
  match ext.responseJson response with
  | .ok text => text
  | .error _ => ""

/-- `GETVERIFIED key` -/
def handleGetVerified : Outcome (DaemonState × String) := do
  let key ← index parts 1
  match ← s.getVerified ext amb key with
  | some response =>
    return (s.logVerification ext amb key response, bulk (responseText ext response))
  | none => return (s, nilReply)

/-- `DEL key` -/
def handleDel : Outcome (DaemonState × String) := do
  let key ← index parts 1
  let (s, deleted) := s.deleteValue key
  let count := if deleted then 1 else 0
  return ((s.removeSlot key).logDeleted ext amb key deleted, s!":{count}\r\n")

/-- `INVALIDATE key REASON description` -/
def handleInvalidate : Outcome (DaemonState × String) := do
  let key ← index parts 1
  let reason := " ".intercalate (← slice parts 3 parts.length)
  return s.transitionSlot ext amb key "-ERR key not found\r\n" (.revoked reason amb.now none)
    "Revoked" (some reason)

/-- `SUPERSEDE old_key new_key` -/
def handleSupersede : Outcome (DaemonState × String) := do
  let oldKey ← index parts 1
  let newKey ← index parts 2
  match s.slots.lookup newKey with
  | none => return (s, "-ERR new key not found\r\n")
  | some newSlot =>
    return s.transitionSlot ext amb oldKey "-ERR old key not found\r\n"
      (.superseded newSlot.contentAddress) s!"Superseded({newKey})" none

/-- `STATE key` -/
def handleState : Outcome (DaemonState × String) := do
  let key ← index parts 1
  match s.slots.lookup key with
  | some slot => return (s, bulk (slot.state.debug ext.debugStr))
  | none => return (s, nilReply)

/-- `INFO` -/
def handleInfo : String :=
  bulk (s!"# Cachee\r\nversion:{packageVersion}\r\ntotal_ops:{amb.stats.totalOps}\r\n"
    ++ s!"hit_rate:{amb.stats.hitRate}\r\nhits_l0:{amb.stats.hitsL0}\r\nhits_l1:{amb.stats.hitsL1}\r\n"
    ++ s!"misses:{amb.stats.misses}\r\nkeys:{amb.stats.keyCount}\r\n"
    ++ s!"memory_bytes:{amb.stats.memoryBytes}\r\nslots:{s.slots.entries.length}\r\n"
    ++ s!"l2_bundles:{s.contentStore.len}\r\nkey_registry_last_reload:{amb.lastReload}\r\n"
    ++ s!"last_usage_flush:{amb.lastFlush}\r\n")

/-- `AUDITLOG key` -/
def handleAuditLog : Outcome (DaemonState × String) := do
  let key ← index parts 1
  return (s, bulk (s.auditLog.exportKeyLifecycle ext.auditJson key))

/-- `AUDITVERIFY` -/
def handleAuditVerify : String :=
  match s.auditLog.verifyChain ext.sha3 ext.auditJson with
  | .ok (count, none) =>
    bulk s!"OK {count} entries verified, chain intact, head={hexEncode s.auditLog.head.1}"
  | .ok (count, some brokenAt) =>
    s!"-ERR BROKEN chain broken at sequence {brokenAt}, {count} entries verified before break\r\n"
  | .error e => s!"-ERR audit verify failed: {e}\r\n"

/-- `AUDITANCHOR` -/
def handleAuditAnchor : DaemonState × String :=
  match s.auditLog.computeMerkleAnchor ext.sha3 ext.auditJson amb.auditNow amb.auditFault with
  | (log, .ok root) => ({ s with auditLog := log }, bulk s!"OK merkle_root={hexEncode root.1}")
  | (log, .error e) => ({ s with auditLog := log }, s!"-ERR {e}\r\n")

/-- Handle a command with at least one word. -/
def dispatch (command : String) : Outcome (DaemonState × String) :=
  if command = "PING" then return (s, "+PONG\r\n")
  else if command = "SET" ∧ 3 ≤ parts.length then handleSet ext cfg amb s parts
  else if command = "GET" ∧ 2 ≤ parts.length then handleGet cfg s parts
  else if command = "GETVERIFIED" ∧ 2 ≤ parts.length then handleGetVerified ext amb s parts
  else if command = "DEL" ∧ 2 ≤ parts.length then handleDel ext amb s parts
  else if command = "INVALIDATE" ∧ 4 ≤ parts.length then handleInvalidate ext amb s parts
  else if command = "SUPERSEDE" ∧ 3 ≤ parts.length then handleSupersede ext amb s parts
  else if command = "STATE" ∧ 2 ≤ parts.length then handleState ext s parts
  else if command = "INFO" then return (s, handleInfo amb s)
  else if command = "AUDITLOG" ∧ 2 ≤ parts.length then handleAuditLog ext s parts
  else if command = "AUDITVERIFY" then return (s, handleAuditVerify ext s)
  else if command = "AUDITANCHOR" then return handleAuditAnchor ext amb s
  else return (s, "-ERR unknown command\r\n")

end Commands

/-- The words of a line. -/
def words (data : Bytes) : List String := splitWhitespace (fromUtf8Lossy data)

/-- Handle a line.  Returns the state after it with the reply. -/
def handleResp (ext : Externals) (cfg : DaemonConfig) (amb : Ambient) (s : DaemonState)
    (data : Bytes) : Outcome (DaemonState × String) :=
  match words data with
  | [] => return (s, "-ERR empty command\r\n")
  | command :: args => dispatch ext cfg amb s (command :: args) (toUppercase command)

end Cachee
