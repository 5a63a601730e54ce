import Cachee.Daemon.Requests
import Cachee.Library.Lookup
import Cachee.Library.Run

/-!
# What commands change

A command that is not refused performs the steps of a `SET`, a `DEL`, an `INVALIDATE`, a
`SUPERSEDE` or a verified read, or records an anchor.  So it changes at most one slot: a `SET`
inserts one, a `DEL` removes one, and `INVALIDATE` and `SUPERSEDE` give one another state.  Only a
`SET` writes to the content store, and it puts at most one bundle.
-/

open Text

namespace Cachee

/-- What a command with the words `parts` does to the daemon. -/
inductive CommandStep (ext : Externals) (cfg : DaemonConfig) (amb : Ambient)
    (parts : List String) (s : DaemonState) : DaemonState → Prop
  | same : CommandStep ext cfg amb parts s s
  | set {command key word : String} {args : List String} {value : String}
      {fingerprint : ComputationFingerprint} {s₁ : DaemonState}
      (hparts : parts = command :: key :: word :: args) (hcommand : toUppercase command = "SET")
      (hargs : setArguments cfg parts = .ok (some (value, fingerprint)))
      (hpersist : (s.insertSlot key (newSlot ext cfg amb (asBytes value) fingerprint)).persistSlot
        ext cfg amb key = .ok s₁) :
      CommandStep ext cfg amb parts s ((s₁.setValue key (asBytes value)).logCreated ext cfg amb key)
  | delete {command key : String} {args : List String}
      (hparts : parts = command :: key :: args) (hcommand : toUppercase command = "DEL") :
      CommandStep ext cfg amb parts s
        (((s.deleteValue key).1.removeSlot key).logDeleted ext amb key (s.deleteValue key).2)
  | revoke {command key word word' : String} {args : List String} {slot : CacheSlot}
      (reason : String) (hparts : parts = command :: key :: word :: word' :: args)
      (hcommand : toUppercase command = "INVALIDATE")
      (hslot : s.slots.lookup key = some slot) (hactive : slot.state = .active) :
      CommandStep ext cfg amb parts s
        ((s.insertSlot key { slot with state := .revoked reason amb.now none }).log ext amb
          (.stateTransition key "Active" "Revoked" "System" (some reason)))
  | supersede {command oldKey newKey : String} {args : List String} {slot successor : CacheSlot}
      (hparts : parts = command :: oldKey :: newKey :: args)
      (hcommand : toUppercase command = "SUPERSEDE")
      (hslot : s.slots.lookup oldKey = some slot) (hactive : slot.state = .active)
      (hsuccessor : s.slots.lookup newKey = some successor) :
      CommandStep ext cfg amb parts s
        ((s.insertSlot oldKey { slot with state := .superseded successor.contentAddress }).log ext
          amb (.stateTransition oldKey "Active" s!"Superseded({newKey})" "System" none))
  | verifiedRead (key : String) (response : CacheeReadResponse) :
      CommandStep ext cfg amb parts s (s.logVerification ext amb key response)
  | anchor : CommandStep ext cfg amb parts s (handleAuditAnchor ext amb s).1

/-- What a command with the words `parts` may do to the slots and to the content store. -/
inductive CommandEffect (ext : Externals) (parts : List String) (s s' : DaemonState) : Prop
  | keep (hslots : s'.slots = s.slots) (hstore : s'.contentStore = s.contentStore)
  | set (command key : String) (args : List String) (slot : CacheSlot)
      (hparts : parts = command :: key :: args) (hcommand : toUppercase command = "SET")
      (hslots : s'.slots = s.slots.insert key slot)
      (hstore : s'.contentStore = s.contentStore ∨ ∃ fault bundle,
        s'.contentStore = (s.contentStore.put ext.sha3 ext.identityJson fault bundle).1)
  | delete (command key : String) (args : List String)
      (hparts : parts = command :: key :: args) (hcommand : toUppercase command = "DEL")
      (hslots : s'.slots = s.slots.erase key) (hstore : s'.contentStore = s.contentStore)
  | transition (key : String) (slot : CacheSlot) (state : EntryState)
      (hslot : s.slots.lookup key = some slot)
      (hslots : s'.slots = s.slots.insert key { slot with state := state })
      (hstore : s'.contentStore = s.contentStore)

section Commands

variable {ext : Externals} {cfg : DaemonConfig} {amb : Ambient} {s s' : DaemonState}
  {parts args : List String} {command key reply : String}

/-! ### What each command does -/

/-- A command that returns the state it was given changes nothing. -/
theorem step_of_same {text : String}
    (h : (.ok (s, text) : Outcome (DaemonState × String)) = .ok (s', reply)) :
  CommandStep ext cfg amb parts s s'
  := by
  obtain ⟨rfl, -⟩ := Prod.mk.inj (Except.ok.inj h)
  exact .same

/-- A line with two words has a command and a key. -/
theorem exists_eq_cons_cons (h : 2 ≤ parts.length) :
  ∃ command key args, parts = command :: key :: args
  := by
  match parts, h with
  | command :: key :: args, _ => exact ⟨command, key, args, rfl⟩

/-- A line with three words has a command, a key and one more word. -/
theorem exists_eq_cons_cons_cons (h : 3 ≤ parts.length) :
  ∃ command key word args, parts = command :: key :: word :: args
  := by
  match parts, h with
  | command :: key :: word :: args, _ => exact ⟨command, key, word, args, rfl⟩

/-- A line with four words has a command, a key and two more words. -/
theorem exists_eq_cons_cons_cons_cons (h : 4 ≤ parts.length) :
  ∃ command key word word' args, parts = command :: key :: word :: word' :: args
  := by
  match parts, h with
  | command :: key :: word :: word' :: args, _ => exact ⟨command, key, word, word', args, rfl⟩

/-- A `SET` without an error inserts the slot of its arguments, stores it as a bundle, and sets
the value in the engine, unless a fingerprint is missing. -/
theorem handleSet_cases
    (h : handleSet ext cfg amb s (command :: key :: args) = .ok (s', reply)) :
  (setArguments cfg (command :: key :: args) = .ok none ∧ s' = s ∧
    reply = "-ERR computation fingerprint required (strict mode)\r\n") ∨
    ∃ value fingerprint s₁,
      setArguments cfg (command :: key :: args) = .ok (some (value, fingerprint)) ∧
      (s.insertSlot key (newSlot ext cfg amb (asBytes value) fingerprint)).persistSlot ext cfg
        amb key = .ok s₁ ∧
      s' = (s₁.setValue key (asBytes value)).logCreated ext cfg amb key ∧ reply = "+OK\r\n"
  := by
  obtain ⟨key', hkey, h⟩ := bind_eq_ok_iff.mp h
  obtain rfl : key = key' := Except.ok.inj hkey
  obtain ⟨setArgs, hargs, h⟩ := bind_eq_ok_iff.mp h
  cases setArgs with
  | none =>
    left
    obtain ⟨rfl, rfl⟩ := Prod.mk.inj (Except.ok.inj h)
    exact ⟨hargs, rfl, rfl⟩
  | some pair =>
    right
    obtain ⟨value, fingerprint⟩ := pair
    obtain ⟨s₁, hs₁, h⟩ := bind_eq_ok_iff.mp h
    obtain ⟨rfl, rfl⟩ := Prod.mk.inj (Except.ok.inj h)
    exact ⟨value, fingerprint, s₁, hargs, hs₁, rfl, rfl⟩

theorem step_handleSet (hlen : 3 ≤ parts.length)
    (hcommand : parts.head?.map toUppercase = some "SET")
    (h : handleSet ext cfg amb s parts = .ok (s', reply)) :
  CommandStep ext cfg amb parts s s'
  := by
  obtain ⟨command, key, word, args, rfl⟩ := exists_eq_cons_cons_cons hlen
  rcases handleSet_cases h with ⟨-, rfl, -⟩ | ⟨value, fingerprint, s₁, hargs, hs₁, rfl, -⟩
  · exact .same
  · exact .set rfl (Option.some.inj hcommand) hargs hs₁

theorem step_handleDel (hlen : 2 ≤ parts.length)
    (hcommand : parts.head?.map toUppercase = some "DEL")
    (h : handleDel ext amb s parts = .ok (s', reply)) :
  CommandStep ext cfg amb parts s s'
  := by
  obtain ⟨command, key, args, rfl⟩ := exists_eq_cons_cons hlen
  obtain ⟨key', hkey, h⟩ := bind_eq_ok_iff.mp h
  obtain rfl : key = key' := Except.ok.inj hkey
  obtain ⟨rfl, -⟩ := Prod.mk.inj (Except.ok.inj h)
  exact .delete rfl (Option.some.inj hcommand)

/-- An invalidation revokes an active slot, or changes nothing. -/
theorem step_handleInvalidate (hlen : 4 ≤ parts.length)
    (hcommand : parts.head?.map toUppercase = some "INVALIDATE")
    (h : handleInvalidate ext amb s parts = .ok (s', reply)) :
  CommandStep ext cfg amb parts s s'
  := by
  obtain ⟨command, key, word, word', args, rfl⟩ := exists_eq_cons_cons_cons_cons hlen
  obtain ⟨key', hkey, h⟩ := bind_eq_ok_iff.mp h
  obtain rfl : key = key' := Except.ok.inj hkey
  obtain ⟨words, -, h⟩ := bind_eq_ok_iff.mp h
  have hs' := congrArg Prod.fst (Except.ok.inj h)
  rcases s.transitionSlot_cases ext amb key "-ERR key not found\r\n" "Revoked"
      (.revoked (" ".intercalate words) amb.now none) (some (" ".intercalate words)) with
    heq | ⟨slot, hslot, hlegal, heq⟩
  · rw [heq] at hs'
    obtain rfl : s = s' := hs'
    exact .same
  · rw [heq] at hs'
    obtain rfl : _ = s' := hs'
    exact .revoke _ rfl (Option.some.inj hcommand) hslot (CacheSlot.active_of_revoked hlegal)

/-- A replacement supersedes an active slot, or changes nothing. -/
theorem step_handleSupersede (hlen : 3 ≤ parts.length)
    (hcommand : parts.head?.map toUppercase = some "SUPERSEDE")
    (h : handleSupersede ext amb s parts = .ok (s', reply)) :
  CommandStep ext cfg amb parts s s'
  := by
  obtain ⟨command, oldKey, newKey, args, rfl⟩ := exists_eq_cons_cons_cons hlen
  obtain ⟨oldKey', hold, h⟩ := bind_eq_ok_iff.mp h
  obtain rfl : oldKey = oldKey' := Except.ok.inj hold
  obtain ⟨newKey', hnew, h⟩ := bind_eq_ok_iff.mp h
  obtain rfl : newKey = newKey' := Except.ok.inj hnew
  split at h
  · apply step_of_same h
  · rename_i successor hsuccessor
    have hs' := congrArg Prod.fst (Except.ok.inj h)
    rcases s.transitionSlot_cases ext amb oldKey "-ERR old key not found\r\n"
        s!"Superseded({newKey})" (.superseded successor.contentAddress) none with
      heq | ⟨slot, hslot, hlegal, heq⟩
    · rw [heq] at hs'
      obtain rfl : s = s' := hs'
      exact .same
    · rw [heq] at hs'
      obtain rfl : _ = s' := hs'
      exact .supersede rfl (Option.some.inj hcommand) hslot (CacheSlot.active_of_superseded hlegal)
        hsuccessor

/-- A verified read records what came of the verification. -/
theorem step_handleGetVerified (h : handleGetVerified ext amb s parts = .ok (s', reply)) :
  CommandStep ext cfg amb parts s s'
  := by
  obtain ⟨key, -, h⟩ := bind_eq_ok_iff.mp h
  obtain ⟨response, -, h⟩ := bind_eq_ok_iff.mp h
  cases response with
  | none =>
    apply step_of_same h
  | some response =>
    obtain ⟨rfl, -⟩ := Prod.mk.inj (Except.ok.inj h)
    exact .verifiedRead key response

/-- A read changes nothing. -/
theorem step_handleGet (h : handleGet cfg s parts = .ok (s', reply)) :
  CommandStep ext cfg amb parts s s'
  := by
  unfold handleGet at h
  split at h
  · apply step_of_same h
  · obtain ⟨key, -, h⟩ := bind_eq_ok_iff.mp h
    split at h
    · apply step_of_same h
    · apply step_of_same h

/-- Looking a state up changes nothing. -/
theorem step_handleState (h : handleState ext s parts = .ok (s', reply)) :
  CommandStep ext cfg amb parts s s'
  := by
  obtain ⟨key, -, h⟩ := bind_eq_ok_iff.mp h
  split at h
  · apply step_of_same h
  · apply step_of_same h

/-- Exporting the lifecycle of a key changes nothing. -/
theorem step_handleAuditLog (h : handleAuditLog ext s parts = .ok (s', reply)) :
  CommandStep ext cfg amb parts s s'
  := by
  obtain ⟨key, -, h⟩ := bind_eq_ok_iff.mp h
  apply step_of_same h

/-- What a command does to the daemon. -/
theorem step_dispatch (hcommand : parts.head?.map toUppercase = some command)
    (h : dispatch ext cfg amb s parts command = .ok (s', reply)) :
  CommandStep ext cfg amb parts s s'
  := by
  rcases ite_eq_iff.mp h with ⟨-, h⟩ | ⟨-, h⟩
  · apply step_of_same h
  rcases ite_eq_iff.mp h with ⟨hset, h⟩ | ⟨-, h⟩
  · apply step_handleSet hset.2 (hset.1 ▸ hcommand) h
  rcases ite_eq_iff.mp h with ⟨-, h⟩ | ⟨-, h⟩
  · apply step_handleGet h
  rcases ite_eq_iff.mp h with ⟨-, h⟩ | ⟨-, h⟩
  · apply step_handleGetVerified h
  rcases ite_eq_iff.mp h with ⟨hdel, h⟩ | ⟨-, h⟩
  · apply step_handleDel hdel.2 (hdel.1 ▸ hcommand) h
  rcases ite_eq_iff.mp h with ⟨hinvalidate, h⟩ | ⟨-, h⟩
  · apply step_handleInvalidate hinvalidate.2 (hinvalidate.1 ▸ hcommand) h
  rcases ite_eq_iff.mp h with ⟨hsupersede, h⟩ | ⟨-, h⟩
  · apply step_handleSupersede hsupersede.2 (hsupersede.1 ▸ hcommand) h
  rcases ite_eq_iff.mp h with ⟨-, h⟩ | ⟨-, h⟩
  · apply step_handleState h
  rcases ite_eq_iff.mp h with ⟨-, h⟩ | ⟨-, h⟩
  · apply step_of_same h
  rcases ite_eq_iff.mp h with ⟨-, h⟩ | ⟨-, h⟩
  · apply step_handleAuditLog h
  rcases ite_eq_iff.mp h with ⟨-, h⟩ | ⟨-, h⟩
  · apply step_of_same h
  rcases ite_eq_iff.mp h with ⟨-, h⟩ | ⟨-, h⟩
  · obtain rfl : (handleAuditAnchor ext amb s).1 = s' := congrArg Prod.fst (Except.ok.inj h)
    exact .anchor
  · apply step_of_same h

/-- What a line does to the daemon. -/
theorem step_handleResp {data : Bytes} (h : handleResp ext cfg amb s data = .ok (s', reply)) :
  CommandStep ext cfg amb (words data) s s'
  := by
  unfold handleResp at h
  split at h
  · apply step_of_same h
  · rename_i command args hwords
    rw [hwords]
    apply step_dispatch rfl h

/-! ### What changes in the slots and in the content store -/

/-- Recording an anchor changes the audit log only. -/
theorem handleAuditAnchor_eq (ext : Externals) (amb : Ambient) (s : DaemonState) :
  (handleAuditAnchor ext amb s).1 = { s with
    auditLog := (s.auditLog.computeMerkleAnchor ext.sha3 ext.auditJson amb.auditNow
      amb.auditFault).1 }
  := by
  unfold handleAuditAnchor
  rcases s.auditLog.computeMerkleAnchor ext.sha3 ext.auditJson amb.auditNow amb.auditFault with
    ⟨log, e | root⟩
  · rfl
  · rfl

/-- What a command does to the slots and to the content store. -/
theorem CommandStep.effect (h : CommandStep ext cfg amb parts s s') :
  CommandEffect ext parts s s'
  := by
  cases h with
  | same => exact .keep rfl rfl
  | @set command key word args value fingerprint s₁ hparts hcommand hargs hpersist =>
    obtain ⟨auditLog, hlog⟩ :=
      DaemonState.logCreated_eq ext cfg amb (s₁.setValue key (asBytes value)) key
    rw [hlog]
    rcases DaemonState.persistSlot_cases (AList.lookup_insert _) hpersist with
      ⟨-, rfl⟩ | ⟨bundle, -, rfl⟩
    · exact .set command key (word :: args) _ hparts hcommand rfl (Or.inl rfl)
    · exact .set command key (word :: args) _ hparts hcommand rfl (Or.inr ⟨_, bundle, rfl⟩)
  | @delete command key args hparts hcommand =>
    obtain ⟨auditLog, hlog⟩ := DaemonState.logDeleted_eq ext amb
      ((s.deleteValue key).1.removeSlot key) key (s.deleteValue key).2
    rw [hlog]
    exact .delete command key args hparts hcommand rfl rfl
  | revoke reason hparts hcommand hslot hactive => exact .transition _ _ _ hslot rfl rfl
  | supersede hparts hcommand hslot hactive hsuccessor => exact .transition _ _ _ hslot rfl rfl
  | verifiedRead key response =>
    obtain ⟨auditLog, hlog⟩ := s.logVerification_eq ext amb key response
    rw [hlog]
    exact .keep rfl rfl
  | anchor =>
    rw [handleAuditAnchor_eq]
    exact .keep rfl rfl

end Commands

/-! ### Runs of the daemon -/

/-- The state after an event.  A panic of the handler ends the daemon. -/
def daemonStep (ext : Externals) (cfg : DaemonConfig) (s : DaemonState) :
    DaemonEvent → Option DaemonState
  | .command amb data =>
    match handleResp ext cfg amb s data with
    | .ok (s', _) => some s'
    | .error _ => none
  | .evict key => some { s with engine := s.engine.erase key }

/-- An event performs the steps of a command, or drops a value from the engine. -/
theorem daemonStep_cases {ext : Externals} {cfg : DaemonConfig} {s s' : DaemonState}
    {e : DaemonEvent} (h : daemonStep ext cfg s e = some s') :
  (∃ amb data, e = .command amb data ∧ CommandStep ext cfg amb (words data) s s') ∨
    ∃ key, e = .evict key ∧ s' = { s with engine := s.engine.erase key }
  := by
  cases e with
  | command amb data =>
    left
    rw [daemonStep] at h
    split at h
    · rename_i s'' reply hreply
      obtain rfl := Option.some.inj h
      exact ⟨amb, data, rfl, step_handleResp hreply⟩
    · cases h
  | evict key =>
    right
    exact ⟨key, rfl, (Option.some.inj h).symm⟩

/-- What an event does to the slots. -/
inductive SlotStep (ext : Externals) (cfg : DaemonConfig) (e : DaemonEvent)
    (slots : AList fun _ : String => CacheSlot) : (AList fun _ : String => CacheSlot) → Prop
  | same : SlotStep ext cfg e slots slots
  | set {key value : String} {fingerprint : ComputationFingerprint} (amb : Ambient)
      (hset : e.set? cfg = some (key, value, fingerprint)) :
      SlotStep ext cfg e slots
        (slots.insert key (newSlot ext cfg amb (asBytes value) fingerprint))
  | delete {key : String} (hdel : e.del? = some key) : SlotStep ext cfg e slots (slots.erase key)
  | revoke {key : String} {slot : CacheSlot} (reason : String) (now : UInt64)
      (hinvalidate : e.invalidate? = some key) (hslot : slots.lookup key = some slot)
      (hactive : slot.state = .active) :
      SlotStep ext cfg e slots (slots.insert key { slot with state := .revoked reason now none })
  | supersede {oldKey newKey : String} {slot successor : CacheSlot}
      (hsupersede : e.supersede? = some (oldKey, newKey))
      (hslot : slots.lookup oldKey = some slot) (hactive : slot.state = .active)
      (hsuccessor : slots.lookup newKey = some successor) :
      SlotStep ext cfg e slots
        (slots.insert oldKey { slot with state := .superseded successor.contentAddress })

/-- What a command does to the slots. -/
theorem CommandStep.slots {ext : Externals} {cfg : DaemonConfig} {amb : Ambient} {data : Bytes}
    {s s' : DaemonState} (h : CommandStep ext cfg amb (words data) s s') :
  SlotStep ext cfg (.command amb data) s.slots s'.slots
  := by
  cases h with
  | same => exact .same
  | @set command key word args value fingerprint s₁ hparts hcommand hargs hpersist =>
    obtain ⟨auditLog, hlog⟩ :=
      DaemonState.logCreated_eq ext cfg amb (s₁.setValue key (asBytes value)) key
    have hset : (DaemonEvent.command amb data).set? cfg = some (key, value, fingerprint) :=
      DaemonEvent.set?_eq_some.mpr ⟨command, word, args, hparts, hcommand, hargs⟩
    rw [hlog, DaemonState.setValue, (DaemonState.persistSlot_insertSlot hpersist).1]
    exact .set amb hset
  | @delete command key args hparts hcommand =>
    obtain ⟨auditLog, hlog⟩ := DaemonState.logDeleted_eq ext amb
      ((s.deleteValue key).1.removeSlot key) key (s.deleteValue key).2
    rw [hlog]
    exact .delete (DaemonEvent.del?_eq_some.mpr ⟨command, args, hparts, hcommand⟩)
  | @revoke command key word word' args slot reason hparts hcommand hslot hactive =>
    have hinvalidate : (DaemonEvent.command amb data).invalidate? = some key :=
      DaemonEvent.invalidate?_eq_some.mpr ⟨command, word, word', args, hparts, hcommand⟩
    exact .revoke reason amb.now hinvalidate hslot hactive
  | @supersede command oldKey newKey args slot successor hparts hcommand hslot hactive hsuccessor =>
    have hsupersede : (DaemonEvent.command amb data).supersede? = some (oldKey, newKey) :=
      DaemonEvent.supersede?_eq_some.mpr ⟨command, args, hparts, hcommand⟩
    exact .supersede hsupersede hslot hactive hsuccessor
  | verifiedRead key response =>
    obtain ⟨auditLog, hlog⟩ := s.logVerification_eq ext amb key response
    rw [hlog]
    exact .same
  | anchor =>
    rw [handleAuditAnchor_eq]
    exact .same

/-- What an event does to the slots. -/
theorem daemonStep_slots {ext : Externals} {cfg : DaemonConfig} {s s' : DaemonState}
    {e : DaemonEvent} (h : daemonStep ext cfg s e = some s') :
  SlotStep ext cfg e s.slots s'.slots
  := by
  rcases daemonStep_cases h with ⟨amb, data, rfl, hcommand⟩ | ⟨key, rfl, rfl⟩
  · apply hcommand.slots
  · exact .same

/-- A property of slots that the new slot of a `SET` has, and that does not speak about the state,
is kept by all slots. -/
theorem forall_slots_of_step {ext : Externals} {cfg : DaemonConfig} {s s' : DaemonState}
    {e : DaemonEvent} {p : CacheSlot → Prop}
    (h : ∀ key slot, s.slots.lookup key = some slot → p slot)
    (hset : ∀ amb key value fingerprint, e.set? cfg = some (key, value, fingerprint) →
      p (newSlot ext cfg amb (asBytes value) fingerprint))
    (hstate : ∀ slot state, p slot → p { slot with state := state })
    (hstep : daemonStep ext cfg s e = some s') :
  ∀ key slot, s'.slots.lookup key = some slot → p slot
  := by
  have hslots := daemonStep_slots hstep
  generalize s'.slots = slots' at hslots ⊢
  cases hslots with
  | same => apply h
  | set amb hset' => apply forall_lookup_insert h (hset amb _ _ _ hset')
  | delete hdel => apply forall_lookup_erase h
  | revoke reason now hinvalidate hslot hactive =>
    apply forall_lookup_insert h
    apply hstate _ _ (h _ _ hslot)
  | supersede hsupersede hslot hactive hsuccessor =>
    apply forall_lookup_insert h
    apply hstate _ _ (h _ _ hslot)

/-- The event is a `SET` or a `DEL` of the key. -/
def DaemonEvent.Writes (key : String) : DaemonEvent → Prop
  | command _ data => ∃ command args, words data = command :: key :: args ∧
      (toUppercase command = "SET" ∨ toUppercase command = "DEL")
  | evict _ => False

/-- An event has the effect of some command, which writes the keys that the event writes. -/
theorem daemonStep_effect {ext : Externals} {cfg : DaemonConfig} {s s' : DaemonState}
    {e : DaemonEvent} (h : daemonStep ext cfg s e = some s') :
  ∃ parts, CommandEffect ext parts s s' ∧ ∀ command key args, parts = command :: key :: args →
    toUppercase command = "SET" ∨ toUppercase command = "DEL" → e.Writes key
  := by
  rcases daemonStep_cases h with ⟨amb, data, rfl, hcommand⟩ | ⟨key, rfl, rfl⟩
  · refine ⟨words data, hcommand.effect, ?_⟩
    intro command key args hparts hwrites
    exact ⟨command, args, hparts, hwrites⟩
  · refine ⟨[], .keep rfl rfl, ?_⟩
    rintro command key args ⟨⟩

end Cachee
