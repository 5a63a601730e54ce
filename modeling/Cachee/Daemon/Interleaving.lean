import Cachee.Daemon.Handler
import Cachee.Library.Run

/-!
# Interleaved commands

Commands of different connections are handled at the same time, and each step of a handler is
performed under the lock of what it reads or writes.  The steps of a `SET` are to insert the
slot, to store its bundle, to set the value in the engine and to record the entry; those of a
`DEL` are to delete the value, to remove the slot and to record the deletion; those of a verified
read are to get the value, to look the slot up and check its bundle, and to record the result.
-/

open Text

namespace Cachee

/-- What a handler does next. -/
inductive HandlerPhase where
  | setInsert (key : String) (value : Bytes) (fingerprint : ComputationFingerprint)
  | setPersist (key : String) (value : Bytes)
  | setValue (key : String) (value : Bytes)
  | setLog (key : String)
  | delValue (key : String)
  | delSlot (key : String) (deleted : Bool)
  | delLog (key : String) (deleted : Bool)
  | getValue (key : String)
  | getSlot (key : String) (value : Bytes)
  | getLog (key : String) (response : CacheeReadResponse)
  | done
  deriving DecidableEq

namespace HandlerPhase

/-- The key of the command. -/
def key? : HandlerPhase → Option String
  | setInsert key _ _ => some key
  | setPersist key _ => some key
  | setValue key _ => some key
  | setLog key => some key
  | delValue key => some key
  | delSlot key _ => some key
  | delLog key _ => some key
  | getValue key => some key
  | getSlot key _ => some key
  | getLog key _ => some key
  | done => none

/-- The slot has been inserted, and the value is not in the engine yet. -/
def writes : HandlerPhase → Bool
  | setPersist _ _ => true
  | setValue _ _ => true
  | _ => false

/-- The value has been deleted, and the slot has not been removed yet. -/
def deletes : HandlerPhase → Bool
  | delSlot _ _ => true
  | _ => false

/-- The value has been read, and the slot has not been looked up yet. -/
def reads : HandlerPhase → Bool
  | getSlot _ _ => true
  | _ => false

end HandlerPhase

/-- The reply to a verified read, with the slot that was found for the key. -/
structure VerifiedReply where
  key : String
  slot : Option CacheSlot
  response : CacheeReadResponse

/-- The state of the daemon and of the handlers, with a record of the keys, values and
fingerprints of the `SET`s and of the replies to verified reads. -/
structure ConcurrentState where
  daemon : DaemonState
  handlers : List HandlerPhase
  submitted : List (String × Bytes × ComputationFingerprint)
  replies : List VerifiedReply

/-- The start of a command, a step of a handler, or the engine giving up the value of a key. -/
inductive ConcurrentEvent where
  | startSet (key : String) (value : Bytes) (fingerprint : ComputationFingerprint)
  | startDel (key : String)
  | startGetVerified (key : String)
  | step (i : ℕ) (amb : Ambient)
  | evict (key : String)

namespace ConcurrentState

/-- The state in which a daemon starts. -/
def initial (daemon : DaemonState) : ConcurrentState where
  daemon := daemon
  handlers := []
  submitted := []
  replies := []

def start (s : ConcurrentState) (phase : HandlerPhase) : ConcurrentState :=
  { s with handlers := s.handlers ++ [phase] }

/-- The handler `i` leaves the daemon in a state, and goes on with a phase. -/
def advance (s : ConcurrentState) (i : ℕ) (daemon : DaemonState) (phase : HandlerPhase) :
    ConcurrentState :=
  { s with daemon, handlers := s.handlers.set i phase }

/-- The next step of the handler `i`.  A panic ends the daemon. -/
def stepHandler (ext : Externals) (cfg : DaemonConfig) (amb : Ambient) (s : ConcurrentState)
    (i : ℕ) : HandlerPhase → Option ConcurrentState
  | .setInsert key value fingerprint =>
    some (s.advance i (s.daemon.insertSlot key (newSlot ext cfg amb value fingerprint))
      (.setPersist key value))
  | .setPersist key value =>
    match s.daemon.persistSlot ext cfg amb key with
    | .ok daemon => some (s.advance i daemon (.setValue key value))
    | .error _ => none
  | .setValue key value => some (s.advance i (s.daemon.setValue key value) (.setLog key))
  | .setLog key => some (s.advance i (s.daemon.logCreated ext cfg amb key) .done)
  | .delValue key =>
    some (s.advance i (s.daemon.deleteValue key).1 (.delSlot key (s.daemon.deleteValue key).2))
  | .delSlot key deleted => some (s.advance i (s.daemon.removeSlot key) (.delLog key deleted))
  | .delLog key deleted => some (s.advance i (s.daemon.logDeleted ext amb key deleted) .done)
  | .getValue key =>
    match s.daemon.engine.lookup key with
    | some value => some (s.advance i s.daemon (.getSlot key value))
    | none => some (s.advance i s.daemon .done)
  | .getSlot key value =>
    match s.daemon.respond ext amb key value with
    | .ok response =>
      some { s.advance i s.daemon (.getLog key response) with
        replies := s.replies ++ [⟨key, s.daemon.slots.lookup key, response⟩] }
    | .error _ => none
  | .getLog key response => some (s.advance i (s.daemon.logVerification ext amb key response) .done)
  | .done => none

/-- The state after an event. -/
def step (ext : Externals) (cfg : DaemonConfig) (s : ConcurrentState) :
    ConcurrentEvent → Option ConcurrentState
  | .startSet key value fingerprint =>
    some { s.start (.setInsert key value fingerprint) with
      submitted := s.submitted ++ [(key, value, fingerprint)] }
  | .startDel key => some (s.start (.delValue key))
  | .startGetVerified key => some (s.start (.getValue key))
  | .step i amb =>
    match s.handlers[i]? with
    | some phase => s.stepHandler ext cfg amb i phase
    | none => none
  | .evict key => some { s with daemon := { s.daemon with engine := s.daemon.engine.erase key } }

/-- Only a handler makes a step of a handler. -/
theorem exists_phase_of_step {ext : Externals} {cfg : DaemonConfig} {s s' : ConcurrentState}
    {i : ℕ} {amb : Ambient} (hstep : step ext cfg s (.step i amb) = some s') :
  ∃ phase, s.handlers[i]? = some phase ∧ s.stepHandler ext cfg amb i phase = some s'
  := by
  rw [step] at hstep
  split at hstep
  · rename_i phase hi
    use phase, hi
  · cases hstep

/-! ### Commands that are not interleaved -/

section Sequential

variable {ext : Externals} {cfg : DaemonConfig} {amb : Ambient} {s s' : DaemonState}
  {command key reply : String} {args : List String}

/-- The daemon after a run from a state without handlers. -/
def daemonAfter (ext : Externals) (cfg : DaemonConfig) (s : DaemonState)
    (events : List ConcurrentEvent) : Option DaemonState :=
  (run (step ext cfg) (initial s) events).map daemon

/-- The steps of a `SET` one after another are what its handler does. -/
theorem daemonAfter_set {value : String} {fingerprint : ComputationFingerprint}
    (hargs : setArguments cfg (command :: key :: args) = .ok (some (value, fingerprint)))
    (h : handleSet ext cfg amb s (command :: key :: args) = .ok (s', reply)) :
  daemonAfter ext cfg s [.startSet key (asBytes value) fingerprint, .step 0 amb, .step 0 amb,
    .step 0 amb, .step 0 amb] = some s'
  := by
  obtain ⟨key', hkey, h⟩ := bind_eq_ok_iff.mp h
  obtain rfl : key = key' := Except.ok.inj hkey
  rw [hargs, ok_bind] at h
  obtain ⟨s₁, hs₁, h⟩ := bind_eq_ok_iff.mp h
  obtain ⟨rfl, -⟩ := Prod.mk.inj (Except.ok.inj h)
  simp [daemonAfter, run, step, start, stepHandler, initial, advance, hs₁]

/-- The steps of a `DEL` one after another are what its handler does. -/
theorem daemonAfter_del
    (h : handleDel ext amb s (command :: key :: args) = .ok (s', reply)) :
  daemonAfter ext cfg s [.startDel key, .step 0 amb, .step 0 amb, .step 0 amb] = some s'
  := by
  obtain ⟨key', hkey, h⟩ := bind_eq_ok_iff.mp h
  obtain rfl : key = key' := Except.ok.inj hkey
  have hs' : ((s.deleteValue key).1.removeSlot key).logDeleted ext amb key (s.deleteValue key).2
      = s' := (Prod.mk.inj (Except.ok.inj h)).1
  simp [daemonAfter, run, step, start, stepHandler, initial, advance, hs']

/-- The steps of a verified read of a key with a value, one after another, are what its handler
does. -/
theorem daemonAfter_getVerified {response : CacheeReadResponse}
    (hresponse : s.getVerified ext amb key = .ok (some response))
    (h : handleGetVerified ext amb s (command :: key :: args) = .ok (s', reply)) :
  daemonAfter ext cfg s [.startGetVerified key, .step 0 amb, .step 0 amb, .step 0 amb] = some s'
  := by
  obtain ⟨key', hkey, h⟩ := bind_eq_ok_iff.mp h
  obtain rfl : key = key' := Except.ok.inj hkey
  rw [hresponse, ok_bind] at h
  have hs' : s.logVerification ext amb key response = s' := (Prod.mk.inj (Except.ok.inj h)).1
  obtain ⟨value, hvalue, hrespond⟩ := DaemonState.getVerified_eq_some hresponse
  simp [daemonAfter, run, step, start, stepHandler, initial, advance, hvalue, hrespond, hs']

end Sequential

end ConcurrentState

end Cachee
