import Cachee.Daemon.Tasks

/-!
# What tasks change

A task belongs to the words of its line: its key, its value and its fingerprint are those of the
line.  So whatever a step of a task changes in the daemon is what the words of the line ask for.
-/

open Text

namespace Cachee

/-- The words are a `SET` of a key to a value with a fingerprint. -/
def Sets (cfg : DaemonConfig) (parts : List String) (key value : String)
    (fingerprint : ComputationFingerprint) : Prop :=
  ∃ command word args, parts = command :: key :: word :: args ∧ toUppercase command = "SET" ∧
    setArguments cfg parts = .ok (some (value, fingerprint))

/-- The words are a command with a name, on a key. -/
def Commands (name : String) (parts : List String) (key : String) : Prop :=
  ∃ command args, parts = command :: key :: args ∧ toUppercase command = name

/-- The words are a command that is a single step. -/
structure IsSingle (parts : List String) : Prop where
  set : ¬ (commandOf parts = "SET" ∧ 3 ≤ parts.length)
  verified : ¬ (commandOf parts = "GETVERIFIED" ∧ 2 ≤ parts.length)
  delete : ¬ (commandOf parts = "DEL" ∧ 2 ≤ parts.length)
  info : commandOf parts ≠ "INFO"

/-- The task is a step of the handler of the words. -/
def Task.BelongsTo (cfg : DaemonConfig) (parts : List String) : Task → Prop
  | .setInsert key value fingerprint => Sets cfg parts key value fingerprint
  | .setPersist key value => ∃ fingerprint, Sets cfg parts key value fingerprint
  | .setValue key value => ∃ fingerprint, Sets cfg parts key value fingerprint
  | .setLog key => Commands "SET" parts key
  | .verifiedValue key => Commands "GETVERIFIED" parts key
  | .verifiedSlot key _ => Commands "GETVERIFIED" parts key
  | .verifiedLog key _ => Commands "GETVERIFIED" parts key
  | .delValue key => Commands "DEL" parts key
  | .delSlot key _ => Commands "DEL" parts key
  | .delLog key _ => Commands "DEL" parts key
  | .single parts' => parts' = parts ∧ IsSingle parts
  | _ => commandOf parts = "INFO"

/-- The task goes on as a step of the handler of the words, or has replied. -/
def TaskProgress.BelongsTo (cfg : DaemonConfig) (parts : List String) : TaskProgress → Prop
  | .next task => task.BelongsTo cfg parts
  | .reply _ => True

/-- The key whose slot a `SET` has inserted, and stores next. -/
def Task.inserted? : Task → Option String
  | .setPersist key _ => some key
  | _ => none

/-- What a step of a task changes in the daemon. -/
inductive TaskEffect (ext : Externals) (cfg : DaemonConfig) (amb : Ambient) (parts : List String)
    (task : Task) (s : DaemonState) : DaemonState → Prop
  | same : TaskEffect ext cfg amb parts task s s
  | insertSlot {key value : String} {fingerprint : ComputationFingerprint}
      (hsets : Sets cfg parts key value fingerprint) :
      TaskEffect ext cfg amb parts task s
        (s.insertSlot key (newSlot ext cfg amb (asBytes value) fingerprint))
  | put {key : String} {slot : CacheSlot} {bundle : CacheeArchiveBundle}
      (hinserted : task.inserted? = some key) (hslot : s.slots.lookup key = some slot)
      (hvalid : slot.hasValidFingerprint = true)
      (hbundle : slotToBundle ext amb.seeds slot cfg.pqKeys cfg.issuerId = .ok bundle) :
      TaskEffect ext cfg amb parts task s { s with
        contentStore := (s.contentStore.put ext.sha3 ext.identityJson amb.putFault bundle).1 }
  | setValue {key value : String} {fingerprint : ComputationFingerprint}
      (hsets : Sets cfg parts key value fingerprint) :
      TaskEffect ext cfg amb parts task s (s.setValue key (asBytes value))
  | created {key : String} {slot : CacheSlot} (hcommand : Commands "SET" parts key)
      (hslot : s.slots.lookup key = some slot) :
      TaskEffect ext cfg amb parts task s (s.log ext amb (.entryCreated key
        (hexEncode slot.contentAddress.1) (hexEncode (slot.fingerprint.digest ext.sha3).1)
        (cfg.pqKeys.isSome && slot.hasValidFingerprint)))
  | deleteValue {key : String} (hcommand : Commands "DEL" parts key) :
      TaskEffect ext cfg amb parts task s { s with engine := s.engine.erase key }
  | removeSlot {key : String} (hcommand : Commands "DEL" parts key) :
      TaskEffect ext cfg amb parts task s (s.removeSlot key)
  | deleted {key : String} (hcommand : Commands "DEL" parts key) :
      TaskEffect ext cfg amb parts task s (s.log ext amb (.entryDeleted key))
  | verified {key : String} (response : CacheeReadResponse)
      (hcommand : Commands "GETVERIFIED" parts key) :
      TaskEffect ext cfg amb parts task s (s.logVerification ext amb key response)
  | revoke {key reason : String} {slot : CacheSlot} (hcommand : Commands "INVALIDATE" parts key)
      (hslot : s.slots.lookup key = some slot) (hactive : slot.state = .active) :
      TaskEffect ext cfg amb parts task s
        ((s.insertSlot key { slot with state := .revoked reason amb.now none }).log ext amb
          (.stateTransition key "Active" "Revoked" "System" (some reason)))
  | supersede {oldKey newKey : String} {slot successor : CacheSlot}
      (hcommand : Commands "SUPERSEDE" parts oldKey)
      (hslot : s.slots.lookup oldKey = some slot) (hactive : slot.state = .active)
      (hsuccessor : s.slots.lookup newKey = some successor) :
      TaskEffect ext cfg amb parts task s
        ((s.insertSlot oldKey { slot with state := .superseded successor.contentAddress }).log ext
          amb (.stateTransition oldKey "Active" s!"Superseded({newKey})" "System" none))
  | anchor (hcommand : commandOf parts = "AUDITANCHOR") :
      TaskEffect ext cfg amb parts task s (handleAuditAnchor ext amb s).1

variable {ext : Externals} {cfg : DaemonConfig} {amb : Ambient} {s s' : DaemonState}
  {parts : List String} {task : Task} {progress : TaskProgress} {key value reply : String}
  {fingerprint : ComputationFingerprint}

/-! ### The words of a task -/

/-- A `SET` of a key to a value is a `SET` on the key. -/
theorem Sets.commands (h : Sets cfg parts key value fingerprint) :
  Commands "SET" parts key
  := by
  obtain ⟨command, word, args, hparts, hcommand, -⟩ := h
  exact ⟨command, word :: args, hparts, hcommand⟩

/-- The name of a command is the upper case of the first word. -/
theorem Commands.commandOf_eq {name : String} (h : Commands name parts key) :
  commandOf parts = name
  := by
  obtain ⟨command, args, rfl, hcommand⟩ := h
  apply hcommand

/-- The key of a command is its second word. -/
theorem commands_of_index (hlen : 2 ≤ parts.length) (hkey : index parts 1 = .ok key) :
  Commands (commandOf parts) parts key
  := by
  obtain ⟨command, key', args, rfl⟩ := exists_eq_cons_cons hlen
  obtain rfl : key' = key := Except.ok.inj hkey
  exact ⟨command, args, rfl, rfl⟩

/-- How the handler of the words starts: it refuses them, or its first step is that of their
command. -/
inductive TaskStart (cfg : DaemonConfig) (parts : List String) : TaskProgress → Prop
  | refused (text : String) (hcommand : commandOf parts = "" ∨ commandOf parts = "SET") :
      TaskStart cfg parts (.reply text)
  | set {key value : String} {fingerprint : ComputationFingerprint}
      (hsets : Sets cfg parts key value fingerprint) :
      TaskStart cfg parts (.next (.setInsert key value fingerprint))
  | verified {key : String} (hcommand : Commands "GETVERIFIED" parts key) :
      TaskStart cfg parts (.next (.verifiedValue key))
  | delete {key : String} (hcommand : Commands "DEL" parts key) :
      TaskStart cfg parts (.next (.delValue key))
  | info (hcommand : commandOf parts = "INFO") : TaskStart cfg parts (.next .infoStats)
  | single (hsingle : IsSingle parts) : TaskStart cfg parts (.next (.single parts))

/-- A `SET` is refused, or its first step is to insert its slot. -/
theorem taskStart_startSet (hlen : 3 ≤ parts.length) (hcommand : commandOf parts = "SET")
    (h : startSet cfg parts = .ok progress) :
  TaskStart cfg parts progress
  := by
  obtain ⟨key, hkey, h⟩ := bind_eq_ok_iff.mp h
  obtain ⟨arguments, harguments, h⟩ := bind_eq_ok_iff.mp h
  cases arguments with
  | none =>
    obtain rfl := Except.ok.inj h
    exact .refused _ (Or.inr hcommand)
  | some pair =>
    obtain rfl := Except.ok.inj h
    obtain ⟨command, key', word, args, rfl⟩ := exists_eq_cons_cons_cons hlen
    obtain rfl : key' = key := Except.ok.inj hkey
    exact .set ⟨command, word, args, rfl, hcommand, harguments⟩

/-- The handler of a line starts with the command of its words. -/
theorem taskStart_of_startTask {data : Bytes} (h : startTask cfg data = .ok progress) :
  TaskStart cfg (words data) progress
  := by
  unfold startTask at h
  split at h
  · rename_i hwords
    obtain rfl := Except.ok.inj h
    rw [hwords]
    exact .refused _ (Or.inl rfl)
  · rename_i command args hwords
    rw [hwords]
    have hcommand : commandOf (command :: args) = toUppercase command := rfl
    rw [← hcommand] at h
    generalize command :: args = parts at h ⊢
    rcases ite_eq_iff.mp h with ⟨hset, h⟩ | ⟨hset, h⟩
    · apply taskStart_startSet hset.2 hset.1 h
    rcases ite_eq_iff.mp h with ⟨hverified, h⟩ | ⟨hverified, h⟩
    · obtain ⟨key, hkey, h⟩ := bind_eq_ok_iff.mp h
      obtain rfl := Except.ok.inj h
      have hcommands := commands_of_index hverified.2 hkey
      rw [hverified.1] at hcommands
      exact .verified hcommands
    rcases ite_eq_iff.mp h with ⟨hdel, h⟩ | ⟨hdel, h⟩
    · obtain ⟨key, hkey, h⟩ := bind_eq_ok_iff.mp h
      obtain rfl := Except.ok.inj h
      have hcommands := commands_of_index hdel.2 hkey
      rw [hdel.1] at hcommands
      exact .delete hcommands
    rcases ite_eq_iff.mp h with ⟨hinfo, h⟩ | ⟨hinfo, h⟩
    · obtain rfl := Except.ok.inj h
      exact .info hinfo
    · obtain rfl := Except.ok.inj h
      exact .single ⟨hset, hverified, hdel, hinfo⟩

/-- The first step of the handler of words belongs to the words. -/
theorem TaskStart.belongsTo (h : TaskStart cfg parts progress) :
  progress.BelongsTo cfg parts
  := by
  cases h with
  | refused text hcommand => trivial
  | set hsets => apply hsets
  | verified hcommand => apply hcommand
  | delete hcommand => apply hcommand
  | info hcommand => apply hcommand
  | single hsingle => exact ⟨rfl, hsingle⟩

/-- The first step of the handler of words has inserted nothing. -/
theorem TaskStart.inserted? (h : TaskStart cfg parts (.next task)) :
  task.inserted? = none
  := by
  cases h with
  | set hsets => rfl
  | verified hcommand => rfl
  | delete hcommand => rfl
  | info hcommand => rfl
  | single hsingle => rfl

/-! ### The effects of the steps -/

/-- Storing the slot of a key as a bundle puts its bundle, or changes nothing. -/
theorem effect_persistSlot (hinserted : task.inserted? = some key)
    (h : s.persistSlot ext cfg amb key = .ok s') :
  TaskEffect ext cfg amb parts task s s'
  := by
  unfold DaemonState.persistSlot at h
  split at h
  · rename_i slot hslot
    split at h
    · rename_i hvalid
      obtain ⟨bundle, hbundle, h⟩ := bind_eq_ok_iff.mp h
      obtain rfl := Except.ok.inj h
      exact .put hinserted hslot hvalid hbundle
    · obtain rfl := Except.ok.inj h
      exact .same
  · obtain rfl := Except.ok.inj h
    exact .same

/-- Recording the creation of an entry records that of the slot of its key, if there is one. -/
theorem effect_logCreated (hcommand : Commands "SET" parts key) :
  TaskEffect ext cfg amb parts task s (s.logCreated ext cfg amb key)
  := by
  unfold DaemonState.logCreated
  split
  · rename_i slot hslot
    exact .created hcommand hslot
  · exact .same

/-- An invalidation revokes an active slot, or changes nothing. -/
theorem effect_handleInvalidate (hlen : 4 ≤ parts.length) (hcommand : commandOf parts = "INVALIDATE")
    (h : handleInvalidate ext amb s parts = .ok (s', reply)) :
  TaskEffect ext cfg amb parts task s s'
  := by
  obtain ⟨key, hkey, h⟩ := bind_eq_ok_iff.mp h
  obtain ⟨reason, -, h⟩ := bind_eq_ok_iff.mp h
  have hcommands := commands_of_index (by omega) hkey
  rw [hcommand] at hcommands
  have hs' := congrArg Prod.fst (Except.ok.inj h)
  rcases s.transitionSlot_cases ext amb key "-ERR key not found\r\n" "Revoked"
      (.revoked (" ".intercalate reason) amb.now none) (some (" ".intercalate reason)) with
    heq | ⟨slot, hslot, hlegal, heq⟩
  · obtain rfl : s = s' := heq.symm.trans hs'
    exact .same
  · obtain rfl : _ = s' := heq.symm.trans hs'
    exact .revoke hcommands hslot (CacheSlot.active_of_revoked hlegal)

/-- A replacement supersedes an active slot, or changes nothing. -/
theorem effect_handleSupersede (hlen : 3 ≤ parts.length) (hcommand : commandOf parts = "SUPERSEDE")
    (h : handleSupersede ext amb s parts = .ok (s', reply)) :
  TaskEffect ext cfg amb parts task s s'
  := by
  obtain ⟨oldKey, hold, h⟩ := bind_eq_ok_iff.mp h
  obtain ⟨newKey, -, h⟩ := bind_eq_ok_iff.mp h
  have hcommands := commands_of_index (by omega) hold
  rw [hcommand] at hcommands
  split at h
  · obtain rfl : s = s' := congrArg Prod.fst (Except.ok.inj h)
    exact .same
  · rename_i successor hsuccessor
    have hs' := congrArg Prod.fst (Except.ok.inj h)
    rcases s.transitionSlot_cases ext amb oldKey "-ERR old key not found\r\n"
        s!"Superseded({newKey})" (.superseded successor.contentAddress) none with
      heq | ⟨slot, hslot, hlegal, heq⟩
    · obtain rfl : s = s' := heq.symm.trans hs'
      exact .same
    · obtain rfl : _ = s' := heq.symm.trans hs'
      exact .supersede hcommands hslot (CacheSlot.active_of_superseded hlegal) hsuccessor

/-- A read changes nothing. -/
theorem eq_of_handleGet (h : handleGet cfg s parts = .ok (s', reply)) :
  s = s'
  := by
  unfold handleGet at h
  split at h
  · apply congrArg Prod.fst (Except.ok.inj h)
  · obtain ⟨key, -, h⟩ := bind_eq_ok_iff.mp h
    split at h
    · apply congrArg Prod.fst (Except.ok.inj h)
    · apply congrArg Prod.fst (Except.ok.inj h)

/-- Looking a state up changes nothing. -/
theorem eq_of_handleState (h : handleState ext s parts = .ok (s', reply)) :
  s = s'
  := by
  obtain ⟨key, -, h⟩ := bind_eq_ok_iff.mp h
  split at h
  · apply congrArg Prod.fst (Except.ok.inj h)
  · apply congrArg Prod.fst (Except.ok.inj h)

/-- A command that is a single step is a read, an `INVALIDATE`, a `SUPERSEDE` or an
`AUDITANCHOR`. -/
theorem effect_dispatch (hsingle : IsSingle parts)
    (h : dispatch ext cfg amb s parts (commandOf parts) = .ok (s', reply)) :
  TaskEffect ext cfg amb parts task s s'
  := by
  have hsame : s = s' → TaskEffect ext cfg amb parts task s s' := by
    rintro rfl
    exact .same
  rcases ite_eq_iff.mp h with ⟨-, h⟩ | ⟨-, h⟩
  · apply hsame (congrArg Prod.fst (Except.ok.inj h))
  rw [if_neg hsingle.set] at h
  rcases ite_eq_iff.mp h with ⟨-, h⟩ | ⟨-, h⟩
  · apply hsame (eq_of_handleGet h)
  rw [if_neg hsingle.verified, if_neg hsingle.delete] at h
  rcases ite_eq_iff.mp h with ⟨hinvalidate, h⟩ | ⟨-, h⟩
  · apply effect_handleInvalidate hinvalidate.2 hinvalidate.1 h
  rcases ite_eq_iff.mp h with ⟨hsupersede, h⟩ | ⟨-, h⟩
  · apply effect_handleSupersede hsupersede.2 hsupersede.1 h
  rcases ite_eq_iff.mp h with ⟨-, h⟩ | ⟨-, h⟩
  · apply hsame (eq_of_handleState h)
  rw [if_neg hsingle.info] at h
  rcases ite_eq_iff.mp h with ⟨-, h⟩ | ⟨-, h⟩
  · obtain ⟨key, -, h⟩ := bind_eq_ok_iff.mp h
    apply hsame (congrArg Prod.fst (Except.ok.inj h))
  rcases ite_eq_iff.mp h with ⟨-, h⟩ | ⟨-, h⟩
  · apply hsame (congrArg Prod.fst (Except.ok.inj h))
  rcases ite_eq_iff.mp h with ⟨hanchor, h⟩ | ⟨-, h⟩
  · obtain rfl : (handleAuditAnchor ext amb s).1 = s' := congrArg Prod.fst (Except.ok.inj h)
    exact .anchor hanchor
  · apply hsame (congrArg Prod.fst (Except.ok.inj h))

/-- A step of a task changes what the words of its line ask for, and goes on with a step that
belongs to them. -/
theorem Task.effect (hbelongs : task.BelongsTo cfg parts)
    (h : task.step ext cfg amb s = .ok (s', progress)) :
  TaskEffect ext cfg amb parts task s s' ∧ progress.BelongsTo cfg parts
  := by
  cases task with
  | setInsert key value fingerprint =>
    obtain ⟨rfl, rfl⟩ := Prod.mk.inj (Except.ok.inj h)
    exact ⟨.insertSlot hbelongs, fingerprint, hbelongs⟩
  | setPersist key value =>
    obtain ⟨s₁, hpersist, h⟩ := bind_eq_ok_iff.mp h
    obtain ⟨rfl, rfl⟩ := Prod.mk.inj (Except.ok.inj h)
    obtain ⟨fingerprint, hsets⟩ := hbelongs
    exact ⟨effect_persistSlot rfl hpersist, fingerprint, hsets⟩
  | setValue key value =>
    obtain ⟨rfl, rfl⟩ := Prod.mk.inj (Except.ok.inj h)
    obtain ⟨fingerprint, hsets⟩ := hbelongs
    exact ⟨.setValue hsets, hsets.commands⟩
  | setLog key =>
    obtain ⟨rfl, rfl⟩ := Prod.mk.inj (Except.ok.inj h)
    exact ⟨effect_logCreated hbelongs, trivial⟩
  | verifiedValue key =>
    rw [Task.step] at h
    split at h
    · obtain ⟨rfl, rfl⟩ := Prod.mk.inj (Except.ok.inj h)
      exact ⟨.same, hbelongs⟩
    · obtain ⟨rfl, rfl⟩ := Prod.mk.inj (Except.ok.inj h)
      exact ⟨.same, trivial⟩
  | verifiedSlot key value =>
    obtain ⟨response, -, h⟩ := bind_eq_ok_iff.mp h
    obtain ⟨rfl, rfl⟩ := Prod.mk.inj (Except.ok.inj h)
    exact ⟨.same, hbelongs⟩
  | verifiedLog key response =>
    obtain ⟨rfl, rfl⟩ := Prod.mk.inj (Except.ok.inj h)
    exact ⟨.verified response hbelongs, trivial⟩
  | delValue key =>
    obtain ⟨rfl, rfl⟩ := Prod.mk.inj (Except.ok.inj h)
    exact ⟨.deleteValue hbelongs, hbelongs⟩
  | delSlot key deleted =>
    obtain ⟨rfl, rfl⟩ := Prod.mk.inj (Except.ok.inj h)
    exact ⟨.removeSlot hbelongs, hbelongs⟩
  | delLog key deleted =>
    obtain ⟨rfl, rfl⟩ := Prod.mk.inj (Except.ok.inj h)
    cases deleted with
    | true => exact ⟨.deleted hbelongs, trivial⟩
    | false => exact ⟨.same, trivial⟩
  | single parts' =>
    obtain ⟨rfl, hsingle⟩ := hbelongs
    obtain ⟨⟨s₁, reply⟩, hdispatch, h⟩ := bind_eq_ok_iff.mp h
    obtain ⟨rfl, rfl⟩ := Prod.mk.inj (Except.ok.inj h)
    exact ⟨effect_dispatch hsingle hdispatch, trivial⟩
  | infoBundles stats slotCount lastReload lastFlush =>
    obtain ⟨rfl, rfl⟩ := Prod.mk.inj (Except.ok.inj h)
    exact ⟨.same, trivial⟩
  | _ =>
    obtain ⟨rfl, rfl⟩ := Prod.mk.inj (Except.ok.inj h)
    exact ⟨.same, hbelongs⟩

end Cachee
