import Cachee.Daemon.Dispatch

/-!
# Expiry

The engine gives up a value when the time to live of its configuration has elapsed.  The window of
validity of a slot is fixed when it is made, with a time to live of its own, and no command moves
a slot to the expired state.  So a verified read answers within the window of its answer as long
as the engine gives up each value before the window of its slot closes.
-/

open Text

namespace Cachee

/-- The daemon, with the times at which the engine stored its values. -/
structure TimedState where
  daemon : DaemonState
  storedAt : AList fun _ : String => ℕ

/-- An event, and the time at which it uses the engine.  Times are in nanoseconds since the
epoch. -/
structure TimedEvent where
  time : ℕ
  event : DaemonEvent

namespace TimedState

variable (ext : Externals) (cfg : DaemonConfig) (defaultTtl : ℕ)

/-- A daemon whose engine has stored nothing. -/
def initial (daemon : DaemonState) : TimedState where
  daemon := daemon
  storedAt := ∅

/-- The value of a key has been in the engine for no longer than its time to live, in seconds. -/
def isLive (s : TimedState) (time : ℕ) (key : String) : Bool :=
  match s.storedAt.lookup key with
  | some stored => time ≤ stored + defaultTtl * 10 ^ 9
  | none => false

/-- The daemon at a time, when the engine has given up the values whose time has elapsed. -/
def daemonAt (s : TimedState) (time : ℕ) : DaemonState :=
  { s.daemon with engine := filterKeys s.daemon.engine (s.isLive defaultTtl time) }

/-- The state after an event.  A `SET` stores its value at the time of the event. -/
def step (s : TimedState) (e : TimedEvent) : Option TimedState := do
  let daemon ← daemonStep ext cfg (s.daemonAt defaultTtl e.time) e.event
  return {
    daemon
    storedAt :=
      match e.event.set? cfg with
      | some (key, _, _) => s.storedAt.insert key e.time
      | none => s.storedAt }

/-- A `SET` stores its value in time: the engine gives it up before the window of its slot
closes. -/
def InTime (_ : TimedState) (e : TimedEvent) : Prop :=
  ∀ amb data, e.event = .command amb data → (e.event.set? cfg).isSome →
    e.time + defaultTtl * 10 ^ 9 ≤ (amb.now + UInt64.ofNat setTtl).toNat

/-- Each value in the engine has a time at which it was stored, and is given up before the window
of the slot of its key closes. -/
def Windowed (s : TimedState) : Prop :=
  ∀ key value, s.daemon.engine.lookup key = some value →
    ∃ stored, s.storedAt.lookup key = some stored ∧
      ∀ slot, s.daemon.slots.lookup key = some slot →
        ∃ validUntil, slot.temporal.validity.validUntil = some validUntil ∧
          stored + defaultTtl * 10 ^ 9 ≤ validUntil.toNat

variable {ext cfg defaultTtl} {s s' : TimedState} {e : TimedEvent}

/-- What holds of the engine and the slots holds when values are given up and slots keep their
windows. -/
theorem Windowed.mono (h : s.Windowed defaultTtl) (hstored : s'.storedAt = s.storedAt)
    (hengine : ∀ key value, s'.daemon.engine.lookup key = some value →
      s.daemon.engine.lookup key = some value)
    (hslots : ∀ key slot', s'.daemon.slots.lookup key = some slot' →
      ∃ slot, s.daemon.slots.lookup key = some slot ∧ slot'.temporal = slot.temporal) :
  s'.Windowed defaultTtl
  := by
  intro key value hvalue
  obtain ⟨stored, hkey, hwindow⟩ := h key value (hengine key value hvalue)
  use stored, hstored ▸ hkey
  intro slot' hslot'
  obtain ⟨slot, hslot, htemporal⟩ := hslots key slot' hslot'
  rw [htemporal]
  apply hwindow slot hslot

/-- The engine has a value at a time only if it has it and the value is live. -/
theorem lookup_daemonAt {time : ℕ} {key : String} {value : Bytes} :
  (s.daemonAt defaultTtl time).engine.lookup key = some value ↔
    s.isLive defaultTtl time key = true ∧ s.daemon.engine.lookup key = some value
  := lookup_filterKeys_eq_some

/-- A value in the engine after a `SET` is its value, or an old one at another key. -/
theorem Windowed.set {amb : Ambient} {key value : String} {fingerprint : ComputationFingerprint}
    {time : ℕ} (h : s.Windowed defaultTtl)
    (htime : time + defaultTtl * 10 ^ 9 ≤ (amb.now + UInt64.ofNat setTtl).toNat)
    (hstored : s'.storedAt = s.storedAt.insert key time)
    (hengine : ∀ key' value', s'.daemon.engine.lookup key' = some value' → key' ≠ key →
      s.daemon.engine.lookup key' = some value')
    (hslots : s'.daemon.slots
      = s.daemon.slots.insert key (newSlot ext cfg amb (asBytes value) fingerprint)) :
  s'.Windowed defaultTtl
  := by
  intro key' value' hvalue'
  rw [hstored, hslots]
  by_cases hkey : key' = key
  · subst hkey
    refine ⟨time, AList.lookup_insert _, ?_⟩
    intro slot hslot
    rw [AList.lookup_insert] at hslot
    obtain rfl := Option.some.inj hslot
    exact ⟨_, rfl, htime⟩
  · rw [AList.lookup_insert_ne hkey, AList.lookup_insert_ne hkey]
    apply h key' value' (hengine key' value' hvalue' hkey)

/-- An event whose `SET`, if it is one, stores its value in time keeps the values windowed. -/
theorem Windowed.step (h : s.Windowed defaultTtl) (hintime : s.InTime cfg defaultTtl e)
    (hstep : s.step ext cfg defaultTtl e = some s') :
  s'.Windowed defaultTtl
  := by
  obtain ⟨daemon, hdaemon, hs'⟩ := Option.bind_eq_some_iff.mp hstep
  obtain rfl := Option.some.inj hs'
  obtain ⟨time, event⟩ := e
  have hlive : ∀ key value, (s.daemonAt defaultTtl time).engine.lookup key = some value →
      s.daemon.engine.lookup key = some value :=
    fun key value hvalue => (lookup_daemonAt.mp hvalue).2
  cases hset : event.set? cfg with
  | some set =>
    obtain ⟨key, value, fingerprint⟩ := set
    cases event with
    | evict key => cases hset
    | command amb data =>
      obtain ⟨reply, hreply⟩ := daemonStep_command_eq_some.mp hdaemon
      obtain ⟨hengine, hslots, -⟩ := engine_slots_of_set? hset hreply
      apply h.set (hintime amb data rfl (by rw [hset]; rfl)) rfl _ hslots
      intro key' value' hvalue' hkey
      simp only [hengine, AList.lookup_insert_ne hkey] at hvalue'
      apply hlive key' value' hvalue'
  | none =>
    rcases daemonStep_cases hdaemon with ⟨amb, data, rfl, hcommand⟩ | ⟨key, rfl, rfl⟩
    · obtain ⟨hengine, hslots⟩ := hcommand.keeps hset
      refine h.mono rfl ?_ ?_
      · intro key' value' hvalue'
        apply hlive key' value' (hengine key' value' hvalue')
      · intro key' slot' hslot'
        obtain ⟨slot, hslot, heq⟩ := hslots key' slot' hslot'
        use slot, hslot
        rw [heq]
    · refine h.mono rfl ?_ ?_
      · intro key' value' hvalue'
        apply hlive key' value' (lookup_erase_eq_some.mp hvalue').2
      · intro key' slot hslot
        exact ⟨slot, hslot, rfl⟩

/-- In every run whose `SET`s store their values in time, at every time of reading, a verified
read of a key with a slot answers within the window of validity of its answer. -/
theorem within_window_of_run {daemon : DaemonState} {events : List TimedEvent} {time : ℕ}
    {amb : Ambient} {key : String} {slot : CacheSlot} {response : CacheeReadResponse}
    (hengine : daemon.engine = ∅)
    (hcond : MeetsAlong (TimedState.step ext cfg defaultTtl) (InTime cfg defaultTtl)
      (initial daemon) events)
    (hrun : run (TimedState.step ext cfg defaultTtl) (initial daemon) events = some s)
    (hslot : s.daemon.slots.lookup key = some slot)
    (hread : (s.daemonAt defaultTtl time).getVerified ext amb key = .ok (some response)) :
  ∃ validUntil, response.validity.validUntil = some validUntil ∧ time ≤ validUntil.toNat
  := by
  have hwindowed : s.Windowed defaultTtl := by
    apply run_invariant (fun _ _ _ h hintime hstep => h.step hintime hstep) _ hcond hrun
    intro key value hvalue
    rw [initial, hengine] at hvalue
    cases hvalue
  obtain ⟨value, hvalue, hrespond⟩ := DaemonState.getVerified_eq_some hread
  obtain ⟨hlive, hvalue⟩ := lookup_daemonAt.mp hvalue
  obtain ⟨stored, hstored, hwindow⟩ := hwindowed key value hvalue
  obtain ⟨validUntil, hvalid, hle⟩ := hwindow slot hslot
  have hvalidity : response.validity = slot.temporal.validity :=
    ((DaemonState.respond_eq_ok hrespond).2 slot hslot).2.2
  rw [hvalidity]
  use validUntil, hvalid
  rw [isLive, hstored] at hlive
  apply le_trans (of_decide_eq_true hlive) hle

/-- What a verified read of `k` at a time answers after a `SET` of it at time 1: the state and the
end of the window of the slot. -/
def answerAt (defaultTtl time : ℕ) : Option (Outcome (Option (EntryState × Option UInt64))) :=
  (run (TimedState.step plainExternals plainConfig defaultTtl) (initial (.empty "node"))
    [⟨1, setV⟩]).map fun s =>
      ((s.daemonAt defaultTtl time).getVerified plainExternals plainAmbient "k").map fun response =>
        response.map fun r => (r.state, r.validity.validUntil)

/-- With a time to live of two hours, a read at 5000 seconds finds the key active, although the
window of its slot has closed at 3600 seconds. -/
theorem answerAt_twoHours :
  answerAt 7200 (5000 * 10 ^ 9) = some (.ok (some (.active, some 3600000000001))) ∧
    (run (TimedState.step plainExternals plainConfig 7200) (initial (.empty "node"))
      [⟨1, setV⟩]).map (fun s => (s.daemon.slots.lookup "k").isSome) = some true
  := by
  constructor
  · decide +kernel
  · decide +kernel

/-- With a time to live of 3599 seconds, a read at the last moment is within the window. -/
theorem within_window_shorter :
  ∃ s response validUntil, run (TimedState.step plainExternals plainConfig 3599)
      (initial (.empty "node")) [⟨1, setV⟩] = some s ∧
    (s.daemonAt 3599 (3599 * 10 ^ 9)).getVerified plainExternals plainAmbient "k"
      = .ok (some response) ∧
    response.validity.validUntil = some validUntil ∧ 3599 * 10 ^ 9 ≤ validUntil.toNat
  := by
  have hfound : (run (TimedState.step plainExternals plainConfig 3599) (initial (.empty "node"))
      [⟨1, setV⟩]).map (fun s => ((s.daemon.slots.lookup "k").isSome,
        ((s.daemonAt 3599 (3599 * 10 ^ 9)).getVerified plainExternals plainAmbient "k").map
          Option.isSome)) = some (true, .ok true) := by
    decide +kernel
  obtain ⟨s, hrun, hs⟩ := Option.map_eq_some_iff.mp hfound
  obtain ⟨hslot, hread⟩ := Prod.mk.inj hs
  obtain ⟨slot, hslot⟩ := Option.isSome_iff_exists.mp hslot
  obtain ⟨response, hread⟩ : ∃ response,
      (s.daemonAt 3599 (3599 * 10 ^ 9)).getVerified plainExternals plainAmbient "k"
        = .ok (some response) := by
    cases hresult : (s.daemonAt 3599 (3599 * 10 ^ 9)).getVerified plainExternals plainAmbient "k"
      with
    | error e =>
      rw [hresult] at hread
      cases hread
    | ok found =>
      rw [hresult] at hread
      obtain ⟨response, rfl⟩ := Option.isSome_iff_exists.mp (Except.ok.inj hread)
      exact ⟨response, rfl⟩
  have hwindow : 1 + 3599 * 10 ^ 9 ≤ (plainAmbient.now + UInt64.ofNat setTtl).toNat := by
    decide +kernel
  have hcond : MeetsAlong (TimedState.step plainExternals plainConfig 3599)
      (InTime plainConfig 3599) (initial (.empty "node")) [⟨1, setV⟩] := by
    refine ⟨?_, fun _ _ => trivial⟩
    intro amb data heq _
    obtain ⟨rfl, -⟩ := DaemonEvent.command.inj heq
    apply hwindow
  obtain ⟨validUntil, hvalid, hle⟩ := within_window_of_run rfl hcond hrun hslot hread
  exact ⟨s, response, validUntil, hrun, hread, hvalid, hle⟩

end TimedState

end Cachee
