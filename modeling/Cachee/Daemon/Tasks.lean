import Cachee.Daemon.Connection
import Cachee.Daemon.Effects

/-!
# Tasks

The handler of a line is a task.  It takes the words of the line apart, and then performs steps,
each under the lock of what it reads or writes: a `SET`, a `DEL` and a verified read perform several
of them, and `INFO` reads its figures one after another.  Every other command is a single step, for
which it holds all the locks that it needs.
-/

open Text

namespace Cachee

/-- What the handler of a line does next.  A command that is a single step is given by its words. -/
inductive Task where
  | setInsert (key value : String) (fingerprint : ComputationFingerprint)
  | setPersist (key value : String)
  | setValue (key value : String)
  | setLog (key : String)
  | verifiedValue (key : String)
  | verifiedSlot (key : String) (value : Bytes)
  | verifiedLog (key : String) (response : CacheeReadResponse)
  | delValue (key : String)
  | delSlot (key : String) (deleted : Bool)
  | delLog (key : String) (deleted : Bool)
  | infoStats
  | infoSlots (stats : EngineStats)
  | infoReload (stats : EngineStats) (slotCount : ℕ)
  | infoFlush (stats : EngineStats) (slotCount : ℕ) (lastReload : UInt64)
  | infoBundles (stats : EngineStats) (slotCount : ℕ) (lastReload lastFlush : UInt64)
  | single (parts : List String)

/-- How a task goes on: with another step, or with its reply. -/
inductive TaskProgress where
  | next (task : Task)
  | reply (text : String)

/-! ### The start of a task -/

/-- The first step of a `SET`. -/
def startSet (cfg : DaemonConfig) (parts : List String) : Outcome TaskProgress := do
  let key ← index parts 1
  match ← setArguments cfg parts with
  | none => return .reply "-ERR computation fingerprint required (strict mode)\r\n"
  | some (value, fingerprint) => return .next (.setInsert key value fingerprint)

/-- The first step of a command with at least one word. -/
def startCommand (cfg : DaemonConfig) (parts : List String) (command : String) :
    Outcome TaskProgress :=
  if command = "SET" ∧ 3 ≤ parts.length then startSet cfg parts
  else if command = "GETVERIFIED" ∧ 2 ≤ parts.length then do
    let key ← index parts 1
    return .next (.verifiedValue key)
  else if command = "DEL" ∧ 2 ≤ parts.length then do
    let key ← index parts 1
    return .next (.delValue key)
  else if command = "INFO" then return .next .infoStats
  else return .next (.single parts)

/-- The first step of the handler of a line. -/
def startTask (cfg : DaemonConfig) (data : Bytes) : Outcome TaskProgress :=
  match words data with
  | [] => return .reply "-ERR empty command\r\n"
  | command :: args => startCommand cfg (command :: args) (toUppercase command)

/-! ### The steps -/

/-- A step of a task.  Returns the daemon after it, and how the task goes on. -/
def Task.step (ext : Externals) (cfg : DaemonConfig) (amb : Ambient) (s : DaemonState) :
    Task → Outcome (DaemonState × TaskProgress)
  | .setInsert key value fingerprint =>
    return (s.insertSlot key (newSlot ext cfg amb (asBytes value) fingerprint),
      .next (.setPersist key value))
  | .setPersist key value => do
    let s ← s.persistSlot ext cfg amb key
    return (s, .next (.setValue key value))
  | .setValue key value => return (s.setValue key (asBytes value), .next (.setLog key))
  | .setLog key => return (s.logCreated ext cfg amb key, .reply "+OK\r\n")
  | .verifiedValue key =>
    match s.engine.lookup key with
    | some value => return (s, .next (.verifiedSlot key value))
    | none => return (s, .reply nilReply)
  | .verifiedSlot key value => do
    let response ← s.respond ext amb key value
    return (s, .next (.verifiedLog key response))
  | .verifiedLog key response =>
    return (s.logVerification ext amb key response, .reply (bulk (responseText ext response)))
  | .delValue key => return ((s.deleteValue key).1, .next (.delSlot key (s.deleteValue key).2))
  | .delSlot key deleted => return (s.removeSlot key, .next (.delLog key deleted))
  | .delLog key deleted =>
    return (s.logDeleted ext amb key deleted, .reply s!":{if deleted then 1 else 0}\r\n")
  | .infoStats => return (s, .next (.infoSlots amb.stats))
  | .infoSlots stats => return (s, .next (.infoReload stats s.slots.entries.length))
  | .infoReload stats slotCount => return (s, .next (.infoFlush stats slotCount amb.lastReload))
  | .infoFlush stats slotCount lastReload =>
    return (s, .next (.infoBundles stats slotCount lastReload amb.lastFlush))
  | .infoBundles stats slotCount lastReload lastFlush =>
    return (s, .reply (bulk
      (s!"# Cachee\r\nversion:{packageVersion}\r\ntotal_ops:{stats.totalOps}\r\n"
      ++ s!"hit_rate:{stats.hitRate}\r\nhits_l0:{stats.hitsL0}\r\nhits_l1:{stats.hitsL1}\r\n"
      ++ s!"misses:{stats.misses}\r\nkeys:{stats.keyCount}\r\n"
      ++ s!"memory_bytes:{stats.memoryBytes}\r\nslots:{slotCount}\r\n"
      ++ s!"l2_bundles:{s.contentStore.len}\r\nkey_registry_last_reload:{lastReload}\r\n"
      ++ s!"last_usage_flush:{lastFlush}\r\n")))
  | .single parts => do
    let (s, reply) ← dispatch ext cfg amb s parts (commandOf parts)
    return (s, .reply reply)

/-! ### Tasks that are not interleaved -/

section Alone

variable (ext : Externals) (cfg : DaemonConfig) (amb : Ambient)

/-- Perform the steps of a task one after another, up to a number of them.  Returns nothing if the
task is not done then. -/
def TaskProgress.finish : ℕ → DaemonState → TaskProgress → Option (Outcome (DaemonState × String))
  | _, s, .reply text => some (.ok (s, text))
  | 0, _, .next _ => none
  | steps + 1, s, .next task =>
    match task.step ext cfg amb s with
    | .ok (s, progress) => progress.finish steps s
    | .error e => some (.error e)

/-- Start the task of a line, and perform its steps one after another. -/
def runTask (steps : ℕ) (s : DaemonState) (data : Bytes) :
    Option (Outcome (DaemonState × String)) :=
  match startTask cfg data with
  | .ok progress => progress.finish ext cfg amb steps s
  | .error e => some (.error e)

variable {ext cfg amb} {s s' : DaemonState} {command : String} {parts : List String} {e : Halt}
  {task : Task} {progress : TaskProgress} (steps : ℕ)

/-- A step that fails ends the task. -/
theorem finish_next_of_error (h : task.step ext cfg amb s = .error e) :
  (TaskProgress.next task).finish ext cfg amb (steps + 1) s = some (.error e)
  := by
  rw [TaskProgress.finish, h]

/-- A task goes on from what its step leads to. -/
theorem finish_next_of_ok (h : task.step ext cfg amb s = .ok (s', progress)) :
  (TaskProgress.next task).finish ext cfg amb (steps + 1) s = progress.finish ext cfg amb steps s'
  := by
  rw [TaskProgress.finish, h]

/-- A task that has replied is done. -/
theorem finish_reply (text : String) :
  (TaskProgress.reply text).finish ext cfg amb steps s = some (.ok (s, text))
  := by
  cases steps with
  | zero => rfl
  | succ steps => rfl

/-- The steps of a `SET` of some arguments are what its handler does with them. -/
theorem finish_setInsert (key value : String) (fingerprint : ComputationFingerprint) :
  (TaskProgress.next (.setInsert key value fingerprint)).finish ext cfg amb 5 s = some (do
    let s ← (s.insertSlot key (newSlot ext cfg amb (asBytes value) fingerprint)).persistSlot ext
      cfg amb key
    return ((s.setValue key (asBytes value)).logCreated ext cfg amb key, "+OK\r\n"))
  := by
  rw [finish_next_of_ok 4 rfl]
  cases hpersist : (s.insertSlot key (newSlot ext cfg amb (asBytes value) fingerprint)).persistSlot
      ext cfg amb key with
  | error e =>
    have hstep : Task.step ext cfg amb (s.insertSlot key
        (newSlot ext cfg amb (asBytes value) fingerprint)) (.setPersist key value) = .error e := by
      rw [Task.step, hpersist]
      rfl
    rw [finish_next_of_error 3 hstep]
    rfl
  | ok s' =>
    have hstep : Task.step ext cfg amb (s.insertSlot key
        (newSlot ext cfg amb (asBytes value) fingerprint)) (.setPersist key value)
        = .ok (s', .next (.setValue key value)) := by
      rw [Task.step, hpersist]
      rfl
    rw [finish_next_of_ok 3 hstep, finish_next_of_ok 2 rfl, finish_next_of_ok 1 rfl, finish_reply]
    rfl

/-- The steps of a verified read are what its handler does. -/
theorem finish_verifiedValue (key : String) :
  (TaskProgress.next (.verifiedValue key)).finish ext cfg amb 5 s = some (do
    match ← s.getVerified ext amb key with
    | some response =>
      return (s.logVerification ext amb key response, bulk (responseText ext response))
    | none => return (s, nilReply))
  := by
  rw [DaemonState.getVerified]
  cases hvalue : s.engine.lookup key with
  | none =>
    have hstep : Task.step ext cfg amb s (.verifiedValue key) = .ok (s, .reply nilReply) := by
      rw [Task.step, hvalue]
      rfl
    rw [finish_next_of_ok 4 hstep, finish_reply]
    rfl
  | some value =>
    have hstep : Task.step ext cfg amb s (.verifiedValue key)
        = .ok (s, .next (.verifiedSlot key value)) := by
      rw [Task.step, hvalue]
      rfl
    rw [finish_next_of_ok 4 hstep]
    cases hrespond : s.respond ext amb key value with
    | error e =>
      have hstep' : Task.step ext cfg amb s (.verifiedSlot key value) = .error e := by
        rw [Task.step, hrespond]
        rfl
      rw [finish_next_of_error 3 hstep']
      simp only [hrespond]
      rfl
    | ok response =>
      have hstep' : Task.step ext cfg amb s (.verifiedSlot key value)
          = .ok (s, .next (.verifiedLog key response)) := by
        rw [Task.step, hrespond]
        rfl
      rw [finish_next_of_ok 3 hstep', finish_next_of_ok 2 rfl, finish_reply]
      simp only [hrespond]
      rfl

/-- The steps of a deletion are what its handler does. -/
theorem finish_delValue (key : String) :
  (TaskProgress.next (.delValue key)).finish ext cfg amb 5 s = some (.ok
    (((s.deleteValue key).1.removeSlot key).logDeleted ext amb key (s.deleteValue key).2,
      s!":{if (s.deleteValue key).2 then 1 else 0}\r\n"))
  := by
  rw [finish_next_of_ok 4 rfl, finish_next_of_ok 3 rfl, finish_next_of_ok 2 rfl, finish_reply]

/-- The steps of `INFO` are what its handler does. -/
theorem finish_infoStats :
  (TaskProgress.next .infoStats).finish ext cfg amb 5 s = some (.ok (s, handleInfo amb s))
  := by
  rw [finish_next_of_ok 4 rfl, finish_next_of_ok 3 rfl, finish_next_of_ok 2 rfl,
    finish_next_of_ok 1 rfl, finish_next_of_ok 0 rfl, finish_reply, handleInfo]

/-- A command that is a single step is what it is dispatched to. -/
theorem finish_single (parts : List String) :
  (TaskProgress.next (.single parts)).finish ext cfg amb 5 s
    = some (dispatch ext cfg amb s parts (commandOf parts))
  := by
  cases hdispatch : dispatch ext cfg amb s parts (commandOf parts) with
  | error e =>
    apply finish_next_of_error
    rw [Task.step, hdispatch]
    rfl
  | ok result =>
    obtain ⟨s', reply⟩ := result
    have hstep : Task.step ext cfg amb s (.single parts) = .ok (s', .reply reply) := by
      rw [Task.step, hdispatch]
      rfl
    rw [finish_next_of_ok 4 hstep, finish_reply]

/-- Five steps are enough for a command, and one after another they are what it is dispatched
to. -/
theorem finish_startCommand :
  (match startCommand cfg parts (commandOf parts) with
    | .ok progress => progress.finish ext cfg amb 5 s
    | .error e => some (.error e))
    = some (dispatch ext cfg amb s parts (commandOf parts))
  := by
  have hsingle : (TaskProgress.next (.single parts)).finish ext cfg amb 5 s
      = some (dispatch ext cfg amb s parts (commandOf parts)) := finish_single parts
  generalize commandOf parts = command at hsingle ⊢
  rw [startCommand]
  by_cases hset : command = "SET" ∧ 3 ≤ parts.length
  · obtain ⟨rfl, hlen⟩ := hset
    rw [if_pos ⟨rfl, hlen⟩, dispatch, if_neg (by decide), if_pos ⟨rfl, hlen⟩, startSet, handleSet]
    cases index parts 1 with
    | error e => rfl
    | ok key =>
      cases setArguments cfg parts with
      | error e => rfl
      | ok arguments =>
        cases arguments with
        | none => rfl
        | some pair => apply finish_setInsert
  rw [if_neg hset]
  by_cases hverified : command = "GETVERIFIED" ∧ 2 ≤ parts.length
  · obtain ⟨rfl, hlen⟩ := hverified
    rw [if_pos ⟨rfl, hlen⟩, dispatch, if_neg (by decide), if_neg hset,
      if_neg fun h => absurd h.1 (by decide), if_pos ⟨rfl, hlen⟩, handleGetVerified]
    cases index parts 1 with
    | error e => rfl
    | ok key => apply finish_verifiedValue
  rw [if_neg hverified]
  by_cases hdel : command = "DEL" ∧ 2 ≤ parts.length
  · obtain ⟨rfl, hlen⟩ := hdel
    rw [if_pos ⟨rfl, hlen⟩, dispatch, if_neg (by decide), if_neg hset,
      if_neg fun h => absurd h.1 (by decide), if_neg hverified, if_pos ⟨rfl, hlen⟩, handleDel]
    cases index parts 1 with
    | error e => rfl
    | ok key => apply finish_delValue
  rw [if_neg hdel]
  by_cases hinfo : command = "INFO"
  · subst hinfo
    rw [if_pos rfl, dispatch, if_neg (by decide), if_neg hset,
      if_neg fun h => absurd h.1 (by decide), if_neg hverified, if_neg hdel,
      if_neg fun h => absurd h.1 (by decide), if_neg fun h => absurd h.1 (by decide),
      if_neg fun h => absurd h.1 (by decide), if_pos rfl]
    apply finish_infoStats
  rw [if_neg hinfo]
  apply hsingle

/-- Five steps are enough for the task of a line, and one after another they are what the handler
does. -/
theorem runTask_eq (ext : Externals) (cfg : DaemonConfig) (amb : Ambient) (s : DaemonState)
    (data : Bytes) :
  runTask ext cfg amb 5 s data = some (handleResp ext cfg amb s data)
  := by
  rw [runTask, startTask, handleResp]
  cases words data with
  | nil => rfl
  | cons command args => apply finish_startCommand

end Alone

end Cachee
