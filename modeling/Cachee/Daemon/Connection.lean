import Cachee.Daemon.Handler

/-!
# Connections

A connection is served in a loop: what one read of its socket returns is a line.  An `AUTH` and a
`PING` are answered at once; any other line passes the checks of the connection, of the quota, of
the key and of its permissions, one after another, and then goes to the handler.
-/

open Text

namespace Cachee

/-! ### Keys -/

/-- What is registered for an API key.  An operations limit of zero stands for no limit. -/
structure ApiKeyEntry where
  keyId : String
  label : String
  permissions : String
  opsLimit : UInt64
  deriving DecidableEq

namespace ApiKeyEntry

def canRead (entry : ApiKeyEntry) : Bool :=
  contains entry.permissions "read" || contains entry.permissions "admin"

def canWrite (entry : ApiKeyEntry) : Bool :=
  contains entry.permissions "write" || contains entry.permissions "admin"

def canAdmin (entry : ApiKeyEntry) : Bool := contains entry.permissions "admin"

end ApiKeyEntry

/-- The registered keys, by the hashes of their secrets. -/
abbrev ApiKeyRegistry := AList fun _ : Block 32 => ApiKeyEntry

/-- The counters of operations, by the identifiers of the keys. -/
abbrev OpsCounters := AList fun _ : String => UInt64

/-! ### The checks of a line -/

/-- The authentication of a connection: whether it is authenticated, and the entry and the hash of
its key. -/
structure ConnState where
  authenticated : Bool
  keyEntry : Option ApiKeyEntry
  keyHash : Option (Block 32)
  deriving DecidableEq

namespace ConnState

/-- The state in which a connection starts. -/
def initial (requireAuth : Bool) : ConnState where
  authenticated := !requireAuth
  keyEntry := none
  keyHash := none

/-- The state after a key has been refused or revoked. -/
def cleared : ConnState where
  authenticated := false
  keyEntry := none
  keyHash := none

end ConnState

/-- The first word of a line, if it is the given one in any ASCII case. -/
def startsWith (parts : List String) (word : String) : Bool :=
  match parts with
  | command :: _ => eqIgnoreAsciiCase command word
  | [] => false

/-- `AUTH secret` -/
def handleAuth (sha3 : Bytes → Block 32) (registry : ApiKeyRegistry) (conn : ConnState)
    (parts : List String) : ConnState × String :=
  match parts[1]? with
  | none => (conn, "-ERR AUTH requires a key argument\r\n")
  | some secret =>
    let hash := sha3 (asBytes secret)
    match registry.lookup hash with
    | some entry =>
      let limit := if 0 < entry.opsLimit then toString entry.opsLimit else "unlimited"
      (⟨true, some entry, some hash⟩,
        s!"+OK authenticated as {entry.label} ({entry.permissions}, limit={limit})\r\n")
    | none => (.cleared, "-ERR invalid API key\r\n")

/-- The answer to an `AUTH`, to a `PING`, and to any line of a connection that is not
authenticated. -/
def checkAuthenticated (sha3 : Bytes → Block 32) (registry : ApiKeyRegistry) (conn : ConnState)
    (parts : List String) : ConnState × Option String :=
  if startsWith parts "AUTH" then
    let (conn, reply) := handleAuth sha3 registry conn parts
    (conn, some reply)
  else if startsWith parts "PING" then (conn, some "+PONG\r\n")
  else if !conn.authenticated then
    (conn, some "-NOAUTH Authentication required. Send AUTH <api_key> first.\r\n")
  else (conn, none)

/-- The refusal of a line when the counter of the key of its connection stood at `current`. -/
def quotaRefusal (conn : ConnState) (current : UInt64) : Option String :=
  match conn.keyEntry with
  | some entry =>
    if 0 < entry.opsLimit ∧ entry.opsLimit ≤ current then
      some (s!"-QUOTA ops limit exceeded ({current}/{entry.opsLimit} ops). "
        ++ "Upgrade your plan: cachee plan upgrade starter\r\n")
    else none
  | none => none

/-- Count a line under the key of its connection, if the key has a limit.  The counter is created
if there is none, and a line that is refused is taken back. -/
def checkQuota (counters : OpsCounters) (conn : ConnState) : OpsCounters × Option String :=
  match conn.keyEntry with
  | some entry =>
    if 0 < entry.opsLimit then
      let current := (counters.lookup entry.keyId).getD 0
      match quotaRefusal conn current with
      | some reply => (counters.insert entry.keyId (current + 1 - 1), some reply)
      | none => (counters.insert entry.keyId (current + 1), none)
    else (counters, none)
  | none => (counters, none)

/-- Check that the key of a connection is still registered. -/
def revalidate (requireAuth : Bool) (registry : ApiKeyRegistry) (conn : ConnState) :
    ConnState × Option String :=
  match conn.keyHash with
  | some hash =>
    if requireAuth ∧ hash ∉ registry then
      (.cleared, some "-NOAUTH key has been revoked. Re-authenticate.\r\n")
    else (conn, none)
  | none => (conn, none)

/-- The commands for which a key has to have the permission to write. -/
def writeCommands : List String := ["SET", "DEL", "INVALIDATE", "SUPERSEDE", "FLUSH"]

/-- The commands for which a key has to have the permission to administrate or to write. -/
def adminCommands : List String := ["AUDITLOG", "AUDITVERIFY", "AUDITANCHOR"]

/-- The upper case of the first word of a line. -/
def commandOf (parts : List String) : String := toUppercase (parts.headD "")

/-- The refusal of a line for which the key of its connection has no permission. -/
def permissionRefusal (requireAuth : Bool) (conn : ConnState) (parts : List String) :
    Option String :=
  match conn.keyEntry with
  | some entry =>
    if !requireAuth then none
    else if commandOf parts ∈ writeCommands ∧ !entry.canWrite then
      some "-NOPERM this key does not have write permission\r\n"
    else if commandOf parts ∈ adminCommands ∧ !entry.canAdmin ∧ !entry.canWrite then
      some "-NOPERM this key does not have admin permission\r\n"
    else none
  | none => none

/-! ### The loop -/

/-- The daemon, the registered keys, the counters and the connection that is served. -/
structure ServerState where
  daemon : DaemonState
  registry : ApiKeyRegistry
  counters : OpsCounters
  conn : ConnState

/-- The words of a line with the reply to it. -/
structure Exchange where
  parts : List String
  reply : String
  deriving DecidableEq

section Loop

variable (ext : Externals) (cfg : DaemonConfig) (requireAuth : Bool)

/-- Serve a line.  Returns the state after it with the reply. -/
def serveLine (amb : Ambient) (s : ServerState) (data : Bytes) :
    Outcome (ServerState × String) :=
  let parts := words data
  match checkAuthenticated ext.sha3 s.registry s.conn parts with
  | (conn, some reply) => return ({ s with conn }, reply)
  | (conn, none) =>
    match checkQuota s.counters conn with
    | (counters, some reply) => return ({ s with counters, conn }, reply)
    | (counters, none) =>
      match revalidate requireAuth s.registry conn with
      | (conn, some reply) => return ({ s with counters, conn }, reply)
      | (conn, none) =>
        match permissionRefusal requireAuth conn parts with
        | some reply => return ({ s with counters, conn }, reply)
        | none => do
          let (daemon, reply) ← handleResp ext cfg amb s.daemon data
          return ({ s with daemon, counters, conn }, reply)

/-- Serve what the reads of a connection return, until there is no more or the handler panics.
Returns the state after it with the lines and the replies. -/
def serve : ServerState → List (Ambient × Bytes) → Outcome (ServerState × List Exchange)
  | s, [] => return (s, [])
  | s, (amb, data) :: reads => do
    let (s, reply) ← serveLine ext cfg requireAuth amb s data
    let (s, exchanges) ← serve s reads
    return (s, ⟨words data, reply⟩ :: exchanges)

end Loop

end Cachee
