import Cachee.Daemon.Effects
import Cachee.Daemon.Replies

/-!
# What each request does

The line of a request is dispatched to the handler of its command, which replies and leaves a
state that are given here exactly.
-/

open Text

namespace Cachee

/-- A `SET` that is not refused inserts its slot, stores the bundle, and sets the value. -/
theorem handleResp_of_set? {ext : Externals} {cfg : DaemonConfig} {amb : Ambient}
    {s s' : DaemonState} {data : Bytes} {key value reply : String}
    {fingerprint : ComputationFingerprint}
    (hset : (DaemonEvent.command amb data).set? cfg = some (key, value, fingerprint))
    (h : handleResp ext cfg amb s data = .ok (s', reply)) :
  ∃ s₁, (s.insertSlot key (newSlot ext cfg amb (asBytes value) fingerprint)).persistSlot ext cfg
      amb key = .ok s₁ ∧
    s' = (s₁.setValue key (asBytes value)).logCreated ext cfg amb key ∧ reply = "+OK\r\n"
  := by
  obtain ⟨command, word, args, hparts, hcommand, hargs⟩ := DaemonEvent.set?_eq_some.mp hset
  have hwords : words data = command :: key :: word :: args := hparts
  have hset : handleResp ext cfg amb s data = handleSet ext cfg amb s (words data) := by
    rw [handleResp, hwords]
    dsimp only
    rw [hcommand, dispatch_set (by simp)]
  rw [hset, hwords] at h
  rw [DaemonEvent.parts, hwords] at hargs
  rcases handleSet_cases h with ⟨hnone, -, -⟩ | ⟨value', fingerprint', s₁, hargs', hs₁, hs', hreply⟩
  · rw [hargs] at hnone
    cases hnone
  · rw [hargs] at hargs'
    obtain ⟨rfl, rfl⟩ := Prod.mk.inj (Option.some.inj (Except.ok.inj hargs'))
    exact ⟨s₁, hs₁, hs', hreply⟩

/-- After a `SET` that is not refused, its key has the value and a new slot. -/
theorem engine_slots_of_set? {ext : Externals} {cfg : DaemonConfig} {amb : Ambient}
    {s s' : DaemonState} {data : Bytes} {key value reply : String}
    {fingerprint : ComputationFingerprint}
    (hset : (DaemonEvent.command amb data).set? cfg = some (key, value, fingerprint))
    (h : handleResp ext cfg amb s data = .ok (s', reply)) :
  s'.engine = s.engine.insert key (asBytes value) ∧
    s'.slots = s.slots.insert key (newSlot ext cfg amb (asBytes value) fingerprint) ∧
    reply = "+OK\r\n"
  := by
  obtain ⟨s₁, hs₁, rfl, hreply⟩ := handleResp_of_set? hset h
  obtain ⟨auditLog, hlog⟩ :=
    DaemonState.logCreated_eq ext cfg amb (s₁.setValue key (asBytes value)) key
  rw [hlog]
  rcases DaemonState.persistSlot_cases (AList.lookup_insert _) hs₁ with
    ⟨-, rfl⟩ | ⟨bundle, -, rfl⟩
  · exact ⟨rfl, rfl, hreply⟩
  · exact ⟨rfl, rfl, hreply⟩

/-- A command other than a `SET` adds no value to the engine, and changes no more of a slot than
its state. -/
theorem CommandStep.keeps {ext : Externals} {cfg : DaemonConfig} {amb : Ambient} {data : Bytes}
    {s s' : DaemonState} (h : CommandStep ext cfg amb (words data) s s')
    (hset : (DaemonEvent.command amb data).set? cfg = none) :
  (∀ key value, s'.engine.lookup key = some value → s.engine.lookup key = some value) ∧
    ∀ key slot', s'.slots.lookup key = some slot' →
      ∃ slot, s.slots.lookup key = some slot ∧ slot' = { slot with state := slot'.state }
  := by
  have hstate : ∀ (key : String) (slot : CacheSlot) (state : EntryState),
      s.slots.lookup key = some slot → ∀ key' slot',
        (s.slots.insert key { slot with state := state }).lookup key' = some slot' →
        ∃ slot, s.slots.lookup key' = some slot ∧ slot' = { slot with state := slot'.state } := by
    intro key slot state hslot key' slot' hslot'
    rcases lookup_insert_eq_some.mp hslot' with ⟨rfl, rfl⟩ | ⟨-, hslot'⟩
    · exact ⟨slot, hslot, rfl⟩
    · exact ⟨slot', hslot', rfl⟩
  cases h with
  | same => exact ⟨fun _ _ h => h, fun _ slot hslot => ⟨slot, hslot, rfl⟩⟩
  | @set command key word args value fingerprint s₁ hparts hcommand hargs hpersist =>
    have hsome : (DaemonEvent.command amb data).set? cfg = some (key, value, fingerprint) :=
      DaemonEvent.set?_eq_some.mpr ⟨command, word, args, hparts, hcommand, hargs⟩
    rw [hsome] at hset
    cases hset
  | @delete command key args hparts hcommand =>
    obtain ⟨auditLog, hlog⟩ := DaemonState.logDeleted_eq ext amb
      ((s.deleteValue key).1.removeSlot key) key (s.deleteValue key).2
    rw [hlog]
    constructor
    · intro key' value hvalue
      apply (lookup_erase_eq_some.mp hvalue).2
    · intro key' slot hslot
      exact ⟨slot, (lookup_erase_eq_some.mp hslot).2, rfl⟩
  | revoke reason hparts hcommand hslot hactive =>
    exact ⟨fun _ _ h => h, hstate _ _ _ hslot⟩
  | supersede hparts hcommand hslot hactive hsuccessor =>
    exact ⟨fun _ _ h => h, hstate _ _ _ hslot⟩
  | verifiedRead key response =>
    obtain ⟨auditLog, hlog⟩ := s.logVerification_eq ext amb key response
    rw [hlog]
    exact ⟨fun _ _ h => h, fun _ slot hslot => ⟨slot, hslot, rfl⟩⟩
  | anchor =>
    rw [handleAuditAnchor_eq]
    exact ⟨fun _ _ h => h, fun _ slot hslot => ⟨slot, hslot, rfl⟩⟩

/-- A command is performed when its handler replies. -/
theorem daemonStep_command_eq_some {ext : Externals} {cfg : DaemonConfig} {amb : Ambient}
    {s s' : DaemonState} {data : Bytes} :
  daemonStep ext cfg s (.command amb data) = some s' ↔
    ∃ reply, handleResp ext cfg amb s data = .ok (s', reply)
  := by
  rw [daemonStep]
  rcases handleResp ext cfg amb s data with e | ⟨s'', reply⟩
  · simp
  · simp

/-! ### Dispatching -/

section Dispatch

variable {ext : Externals} {cfg : DaemonConfig} {amb : Ambient} {s s' : DaemonState} {data : Bytes}
  {command name key oldKey newKey word word' reply : String} {args parts : List String}

/-- A line is dispatched on the upper case of its first word. -/
theorem handleResp_of_words (hwords : words data = command :: args)
    (hcommand : toUppercase command = name) :
  handleResp ext cfg amb s data = dispatch ext cfg amb s (command :: args) name
  := by
  rw [handleResp, hwords]
  dsimp only
  rw [hcommand]

/-- A read is dispatched to its handler. -/
theorem dispatch_get (h : 2 ≤ parts.length) :
  dispatch ext cfg amb s parts "GET" = handleGet cfg s parts
  := by
  simp [dispatch, h]

/-- A deletion is dispatched to its handler. -/
theorem dispatch_del (h : 2 ≤ parts.length) :
  dispatch ext cfg amb s parts "DEL" = handleDel ext amb s parts
  := by
  simp [dispatch, h]

/-- An invalidation is dispatched to its handler. -/
theorem dispatch_invalidate (h : 4 ≤ parts.length) :
  dispatch ext cfg amb s parts "INVALIDATE" = handleInvalidate ext amb s parts
  := by
  simp [dispatch, h]

/-- A replacement is dispatched to its handler. -/
theorem dispatch_supersede (h : 3 ≤ parts.length) :
  dispatch ext cfg amb s parts "SUPERSEDE" = handleSupersede ext amb s parts
  := by
  simp [dispatch, h]

/-- A question for a state is dispatched to its handler. -/
theorem dispatch_state (h : 2 ≤ parts.length) :
  dispatch ext cfg amb s parts "STATE" = handleState ext s parts
  := by
  simp [dispatch, h]

/-! ### Replies and changes of state -/

theorem index_one :
  index (command :: key :: args) 1 = .ok key
  := rfl

/-- A read in compatible mode replies with the bytes of the engine, as text. -/
theorem handleGet_eq (hsafe : cfg.safeReadMode = false) :
  handleGet cfg s (command :: key :: args) = .ok (s,
    match s.engine.lookup key with
    | some value => bulk (String.ofList (fromUtf8Lossy value))
    | none => nilReply)
  := by
  rw [handleGet, hsafe, if_neg (by decide), index_one, ok_bind]
  cases s.engine.lookup key with
  | none => rfl
  | some value => rfl

/-- A question for a state replies with the text of the state of the slot. -/
theorem handleState_eq :
  handleState ext s (command :: key :: args) = .ok (s,
    match s.slots.lookup key with
    | some slot => bulk (slot.state.debug ext.debugStr)
    | none => nilReply)
  := by
  rw [handleState, index_one, ok_bind]
  cases s.slots.lookup key with
  | none => rfl
  | some slot => rfl

/-- An invalidation revokes the slot with the words from the fourth on as the reason. -/
theorem handleInvalidate_eq :
  handleInvalidate ext amb s (command :: key :: word :: word' :: args)
    = .ok (s.transitionSlot ext amb key "-ERR key not found\r\n"
      (.revoked (" ".intercalate (word' :: args)) amb.now none) "Revoked"
      (some (" ".intercalate (word' :: args))))
  := by
  have hslice : slice (command :: key :: word :: word' :: args) 3
      (command :: key :: word :: word' :: args).length = .ok (word' :: args) := by
    rw [slice_eq (by simp) le_rfl]
    exact congrArg _ List.take_length
  rw [handleInvalidate, index_one, ok_bind, hslice, ok_bind]
  rfl

/-- A replacement supersedes the slot with the address of the slot of the new key. -/
theorem handleSupersede_eq :
  handleSupersede ext amb s (command :: oldKey :: newKey :: args) = .ok (
    match s.slots.lookup newKey with
    | some successor =>
      s.transitionSlot ext amb oldKey "-ERR old key not found\r\n"
        (.superseded successor.contentAddress) s!"Superseded({newKey})" none
    | none => (s, "-ERR new key not found\r\n"))
  := by
  have hnewKey : index (command :: oldKey :: newKey :: args) 2 = .ok newKey := rfl
  rw [handleSupersede, index_one, ok_bind, hnewKey, ok_bind]
  cases s.slots.lookup newKey with
  | none => rfl
  | some successor => rfl

/-- Retiring a slot gives it the new state if it is active, and keeps the other slots, the engine
and the content store. -/
theorem DaemonState.transitionSlot_retires {missing toState : String} {newState : EntryState}
    {reason : Option String}
    (hs' : s' = (s.transitionSlot ext amb key missing newState toState reason).1)
    (hretires : ∀ old,
      CacheSlot.illegalTransition ext.debugStr old newState = none ↔ old = .active) :
  s'.engine = s.engine ∧ s'.contentStore = s.contentStore ∧
    (∀ other, other ≠ key → s'.slots.lookup other = s.slots.lookup other) ∧
    s'.slots.lookup key = (s.slots.lookup key).map fun slot =>
      if slot.state = .active then { slot with state := newState } else slot
  := by
  subst hs'
  unfold transitionSlot
  cases hslot : s.slots.lookup key with
  | none => exact ⟨rfl, rfl, fun _ _ => rfl, hslot⟩
  | some slot =>
    dsimp only
    rw [CacheSlot.transition, Option.map_some]
    cases hlegal : CacheSlot.illegalTransition ext.debugStr slot.state newState with
    | none =>
      rw [if_pos ((hretires slot.state).mp hlegal)]
      exact ⟨rfl, rfl, fun _ hne => AList.lookup_insert_ne hne, AList.lookup_insert _⟩
    | some e =>
      have hstate : slot.state ≠ .active := by
        intro hactive
        rw [(hretires slot.state).mpr hactive] at hlegal
        cases hlegal
      rw [if_neg hstate]
      exact ⟨rfl, rfl, fun _ _ => rfl, hslot⟩

end Dispatch

end Cachee
