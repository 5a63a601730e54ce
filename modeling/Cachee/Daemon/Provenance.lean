import Cachee.Daemon.Server
import Cachee.Daemon.TaskEffects

/-!
# Where the data of the server comes from

Lines of many connections are handled at the same time.  In every interleaving, the value of a key
is one that the daemon started with or one that a `SET` of this key has asked for; a slot is one
that the daemon started with or that was made for a `SET` of this key, and its state is the one it
was made with unless an `INVALIDATE` or a `SUPERSEDE` of this key has retired it; and a bundle that
is put in the content store is that of a slot that was made for a `SET`.  With required
authentication, what is not there from the start has been asked for with a key that may write.
-/

open Text

namespace Cachee

/-! ### Sources -/

section Sources

variable (ext : Externals) (cfg : DaemonConfig) (start : DaemonState)
  (asked : List String → Prop)

/-- The daemon started with the value of the key, or a `SET` has asked for it. -/
def ValueFrom (key : String) (value : Bytes) : Prop :=
  start.engine.lookup key = some value ∨
    ∃ parts text fingerprint, asked parts ∧ Sets cfg parts key text fingerprint ∧
      value = asBytes text

/-- An `INVALIDATE` has asked for the revocation of the slot of a key, or a `SUPERSEDE` for another
slot in its place. -/
def Retires (parts : List String) (key : String) (state : EntryState) : Prop :=
  Commands "INVALIDATE" parts key ∧ (∃ reason now, state = .revoked reason now none) ∨
    Commands "SUPERSEDE" parts key ∧ ∃ successor, state = .superseded successor

/-- The slot of the key is as it was made, or has been retired since. -/
def RetiredFrom (key : String) (origin slot : CacheSlot) : Prop :=
  slot = origin ∨
    ∃ parts state, asked parts ∧ Retires parts key state ∧ slot = { origin with state }

/-- The slot of the key was made for a `SET`. -/
def SlotOfSet (key : String) (slot : CacheSlot) : Prop :=
  ∃ parts text fingerprint amb, asked parts ∧ Sets cfg parts key text fingerprint ∧
    RetiredFrom asked key (newSlot ext cfg amb (asBytes text) fingerprint) slot

/-- The daemon started with the slot of the key, or it was made for a `SET`. -/
def SlotFrom (key : String) (slot : CacheSlot) : Prop :=
  (∃ origin, start.slots.lookup key = some origin ∧ RetiredFrom asked key origin slot) ∨
    SlotOfSet ext cfg asked key slot

/-- The content store started with what is held under the address, or it is the bundle of a slot
that was made for a `SET`. -/
def BundleFrom (address bytes : Bytes) : Prop :=
  start.contentStore.db[address]? = some bytes ∨
    ∃ key slot seeds bundle, SlotOfSet ext cfg asked key slot ∧
      slot.hasValidFingerprint = true ∧
      slotToBundle ext seeds slot cfg.pqKeys cfg.issuerId = .ok bundle ∧
      address = (bundle.contentAddress ext.sha3).1 ∧ bytes = bundle.serialize ext.identityJson

/-- All that the daemon has comes from its start or was asked for, and what it has no more was
deleted. -/
structure Sourced (d : DaemonState) : Prop where
  engine : ∀ key value, d.engine.lookup key = some value → ValueFrom cfg start asked key value
  slots : ∀ key slot, d.slots.lookup key = some slot → SlotFrom ext cfg start asked key slot
  removed : ∀ key, key ∈ start.slots → key ∉ d.slots →
    ∃ parts, asked parts ∧ Commands "DEL" parts key
  bundles : ∀ address bytes, d.contentStore.db[address]? = some bytes →
    BundleFrom ext cfg start asked address bytes
  kept : ∀ address, address ∈ start.contentStore.db → address ∈ d.contentStore.db

/-- The value of a response comes from the start or was asked for, and so does the slot that the
rest of it describes, if there was one. -/
structure ResponseFrom (key : String) (response : CacheeReadResponse) : Prop where
  value : ValueFrom cfg start asked key response.value
  slot : (response.fingerprint = .empty ∧ response.provenance.computedBy = "unknown" ∧
      response.state = .active ∧ response.signatures = .unchecked) ∨
    ∃ slot, SlotFrom ext cfg start asked key slot ∧ response.fingerprint = slot.fingerprint ∧
      response.provenance = slot.provenance ∧ response.state = slot.state ∧
      response.validity = slot.temporal.validity

/-- The commands that change what the daemon holds. -/
def changeCommands : List String := ["SET", "DEL", "INVALIDATE", "SUPERSEDE"]

end Sources

variable {ext : Externals} {cfg : DaemonConfig} {start : DaemonState}
  {asked asked' : List String → Prop} {key value : String} {parts : List String}

/-! ### More lines -/

section Mono

variable (h : ∀ parts, asked parts → commandOf parts ∈ changeCommands → asked' parts)

include h

theorem ValueFrom.mono {value : Bytes} (hvalue : ValueFrom cfg start asked key value) :
  ValueFrom cfg start asked' key value
  := by
  rcases hvalue with hstart | ⟨parts, text, fingerprint, hasked, hsets, rfl⟩
  · left
    apply hstart
  · right
    have hasked' := h parts hasked (by simp [hsets.commands.commandOf_eq, changeCommands])
    exact ⟨parts, text, fingerprint, hasked', hsets, rfl⟩

theorem RetiredFrom.mono {origin slot : CacheSlot} (hslot : RetiredFrom asked key origin slot) :
  RetiredFrom asked' key origin slot
  := by
  rcases hslot with rfl | ⟨parts, state, hasked, hretires, rfl⟩
  · left
    rfl
  · right
    have hcommand : commandOf parts ∈ changeCommands := by
      rcases hretires with ⟨hcommand, -⟩ | ⟨hcommand, -⟩
      · simp [hcommand.commandOf_eq, changeCommands]
      · simp [hcommand.commandOf_eq, changeCommands]
    exact ⟨parts, state, h parts hasked hcommand, hretires, rfl⟩

theorem SlotOfSet.mono {slot : CacheSlot} (hslot : SlotOfSet ext cfg asked key slot) :
  SlotOfSet ext cfg asked' key slot
  := by
  obtain ⟨parts, text, fingerprint, amb, hasked, hsets, hretired⟩ := hslot
  have hasked' := h parts hasked (by simp [hsets.commands.commandOf_eq, changeCommands])
  exact ⟨parts, text, fingerprint, amb, hasked', hsets, hretired.mono h⟩

theorem SlotFrom.mono {slot : CacheSlot} (hslot : SlotFrom ext cfg start asked key slot) :
  SlotFrom ext cfg start asked' key slot
  := by
  rcases hslot with ⟨origin, hstart, hretired⟩ | hset
  · left
    exact ⟨origin, hstart, hretired.mono h⟩
  · right
    apply hset.mono h

theorem BundleFrom.mono {address bytes : Bytes}
    (hbundle : BundleFrom ext cfg start asked address bytes) :
  BundleFrom ext cfg start asked' address bytes
  := by
  rcases hbundle with hstart | ⟨key, slot, seeds, bundle, hslot, hbundle⟩
  · left
    apply hstart
  · right
    exact ⟨key, slot, seeds, bundle, hslot.mono h, hbundle⟩

/-- The sources of a daemon are sources when more lines have been passed. -/
theorem Sourced.mono {d : DaemonState} (hsourced : Sourced ext cfg start asked d) :
  Sourced ext cfg start asked' d
  := by
  constructor
  · intro key value hvalue
    apply (hsourced.engine key value hvalue).mono h
  · intro key slot hslot
    apply (hsourced.slots key slot hslot).mono h
  · intro key hstart hremoved
    obtain ⟨parts, hasked, hcommand⟩ := hsourced.removed key hstart hremoved
    have hasked' := h parts hasked (by simp [hcommand.commandOf_eq, changeCommands])
    exact ⟨parts, hasked', hcommand⟩
  · intro address bytes hbytes
    apply (hsourced.bundles address bytes hbytes).mono h
  · apply hsourced.kept

theorem ResponseFrom.mono {response : CacheeReadResponse}
    (hresponse : ResponseFrom ext cfg start asked key response) :
  ResponseFrom ext cfg start asked' key response
  := by
  refine ⟨hresponse.value.mono h, ?_⟩
  rcases hresponse.slot with hnone | ⟨slot, hslot, hfields⟩
  · left
    apply hnone
  · right
    exact ⟨slot, hslot.mono h, hfields⟩

end Mono

/-! ### What a step of a task adds -/

section Steps

variable {amb : Ambient} {d d' : DaemonState}

/-- The sources do not depend on the audit log. -/
theorem Sourced.withLog (hd : Sourced ext cfg start asked d) (auditLog : AuditLog) :
  Sourced ext cfg start asked { d with auditLog }
  := ⟨hd.engine, hd.slots, hd.removed, hd.bundles, hd.kept⟩

/-- A value that comes from somewhere is set. -/
theorem Sourced.setValue (hd : Sourced ext cfg start asked d) {value : Bytes}
    (hvalue : ValueFrom cfg start asked key value) :
  Sourced ext cfg start asked (d.setValue key value)
  := by
  refine ⟨?_, hd.slots, hd.removed, hd.bundles, hd.kept⟩
  intro key' value' hvalue'
  rcases lookup_insert_eq_some.mp hvalue' with ⟨rfl, rfl⟩ | ⟨-, hvalue'⟩
  · apply hvalue
  · apply hd.engine key' value' hvalue'

/-- A value is dropped. -/
theorem Sourced.eraseValue (hd : Sourced ext cfg start asked d) (key : String) :
  Sourced ext cfg start asked { d with engine := d.engine.erase key }
  := by
  refine ⟨?_, hd.slots, hd.removed, hd.bundles, hd.kept⟩
  intro key' value' hvalue'
  apply hd.engine key' value' (lookup_erase_eq_some.mp hvalue').2

/-- A slot that comes from somewhere is inserted. -/
theorem Sourced.insertSlot (hd : Sourced ext cfg start asked d) {slot : CacheSlot}
    (hslot : SlotFrom ext cfg start asked key slot) :
  Sourced ext cfg start asked (d.insertSlot key slot)
  := by
  refine ⟨hd.engine, ?_, ?_, hd.bundles, hd.kept⟩
  · intro key' slot' hslot'
    rcases lookup_insert_eq_some.mp hslot' with ⟨rfl, rfl⟩ | ⟨-, hslot'⟩
    · apply hslot
    · apply hd.slots key' slot' hslot'
  · intro key' hstart hremoved
    apply hd.removed key' hstart
    intro hmem
    apply hremoved
    apply (AList.mem_insert _).mpr (Or.inr hmem)

/-- The slot of a key is removed when a `DEL` asks for it. -/
theorem Sourced.removeSlot (hd : Sourced ext cfg start asked d) (hasked : asked parts)
    (hcommand : Commands "DEL" parts key) :
  Sourced ext cfg start asked (d.removeSlot key)
  := by
  refine ⟨hd.engine, ?_, ?_, hd.bundles, hd.kept⟩
  · intro key' slot' hslot'
    apply hd.slots key' slot' (lookup_erase_eq_some.mp hslot').2
  · intro key' hstart hremoved
    by_cases hkey : key' = key
    · subst hkey
      exact ⟨parts, hasked, hcommand⟩
    · apply hd.removed key' hstart
      intro hmem
      apply hremoved
      apply AList.mem_erase.mpr ⟨hkey, hmem⟩

/-- The bundle of a slot that was made for a `SET` is put. -/
theorem Sourced.put (hd : Sourced ext cfg start asked d) {slot : CacheSlot}
    (hslot : SlotOfSet ext cfg asked key slot) (hvalid : slot.hasValidFingerprint = true)
    {seeds : SignSeeds} {bundle : CacheeArchiveBundle}
    (hbundle : slotToBundle ext seeds slot cfg.pqKeys cfg.issuerId = .ok bundle)
    (fault : Option WriteFault) :
  Sourced ext cfg start asked { d with
    contentStore := (d.contentStore.put ext.sha3 ext.identityJson fault bundle).1 }
  := by
  have hinserted : ∀ address bytes, (d.contentStore.db.insert (bundle.contentAddress ext.sha3).1
      (bundle.serialize ext.identityJson))[address]? = some bytes →
      BundleFrom ext cfg start asked address bytes := by
    intro address bytes hbytes
    rcases getElem?_insert_eq_some.mp hbytes with ⟨rfl, rfl⟩ | ⟨-, hbytes⟩
    · right
      exact ⟨key, slot, seeds, bundle, hslot, hvalid, hbundle, rfl, rfl⟩
    · apply hd.bundles address bytes
        (Std.ExtTreeMap.mem_toList_iff_getElem?_eq_some.mp hbytes)
  have hkept : ∀ address, address ∈ start.contentStore.db →
      address ∈ d.contentStore.db.insert (bundle.contentAddress ext.sha3).1
        (bundle.serialize ext.identityJson) := by
    intro address haddress
    apply Std.ExtTreeMap.mem_insert.mpr (Or.inr (hd.kept address haddress))
  rcases fault with _ | (e | e)
  · exact ⟨hd.engine, hd.slots, hd.removed, hinserted, hkept⟩
  · exact ⟨hd.engine, hd.slots, hd.removed, hd.bundles, hd.kept⟩
  · exact ⟨hd.engine, hd.slots, hd.removed, hinserted, hkept⟩

/-- A slot of a key is retired when an `INVALIDATE` or a `SUPERSEDE` asks for it. -/
theorem RetiredFrom.retire {origin slot : CacheSlot} {state : EntryState}
    (hslot : RetiredFrom asked key origin slot) (hasked : asked parts)
    (hretires : Retires parts key state) :
  RetiredFrom asked key origin { slot with state := state }
  := by
  right
  rcases hslot with rfl | ⟨parts', state', -, -, rfl⟩
  · exact ⟨parts, state, hasked, hretires, rfl⟩
  · exact ⟨parts, state, hasked, hretires, rfl⟩

theorem SlotOfSet.retire {slot : CacheSlot} {state : EntryState}
    (hslot : SlotOfSet ext cfg asked key slot) (hasked : asked parts)
    (hretires : Retires parts key state) :
  SlotOfSet ext cfg asked key { slot with state := state }
  := by
  obtain ⟨parts', text, fingerprint, amb, hasked', hsets, hretired⟩ := hslot
  exact ⟨parts', text, fingerprint, amb, hasked', hsets, hretired.retire hasked hretires⟩

theorem SlotFrom.retire {slot : CacheSlot} {state : EntryState}
    (hslot : SlotFrom ext cfg start asked key slot) (hasked : asked parts)
    (hretires : Retires parts key state) :
  SlotFrom ext cfg start asked key { slot with state := state }
  := by
  rcases hslot with ⟨origin, hstart, hretired⟩ | hset
  · left
    exact ⟨origin, hstart, hretired.retire hasked hretires⟩
  · right
    apply hset.retire hasked hretires

/-- If there is a slot of the key, it was made for a `SET`. -/
def HasSlotOfSet (ext : Externals) (cfg : DaemonConfig) (asked : List String → Prop)
    (d : DaemonState) (key : String) : Prop :=
  ∀ slot, d.slots.lookup key = some slot → SlotOfSet ext cfg asked key slot

/-- A step of a task whose line was passed changes nothing that is not asked for. -/
theorem Sourced.effect {task : Task} (hd : Sourced ext cfg start asked d) (hasked : asked parts)
    (hinserted : ∀ key, task.inserted? = some key → HasSlotOfSet ext cfg asked d key)
    (heffect : TaskEffect ext cfg amb parts task d d') :
  Sourced ext cfg start asked d'
  := by
  cases heffect with
  | same => apply hd
  | @insertSlot key value fingerprint hsets =>
    apply hd.insertSlot
    right
    exact ⟨parts, value, fingerprint, amb, hasked, hsets, Or.inl rfl⟩
  | put hkey hslot hvalid hbundle => apply hd.put (hinserted _ hkey _ hslot) hvalid hbundle
  | setValue hsets =>
    apply hd.setValue
    exact Or.inr ⟨parts, _, _, hasked, hsets, rfl⟩
  | deleteValue hcommand => apply hd.eraseValue
  | removeSlot hcommand => apply hd.removeSlot hasked hcommand
  | created hcommand hslot => apply hd.withLog
  | deleted hcommand => apply hd.withLog
  | verified response hcommand =>
    obtain ⟨auditLog, hlog⟩ := d.logVerification_eq ext amb _ response
    rw [hlog]
    apply hd.withLog
  | @revoke key reason slot hcommand hslot hactive =>
    have hretires : Retires parts key (.revoked reason amb.now none) :=
      Or.inl ⟨hcommand, reason, amb.now, rfl⟩
    have hd' := hd.insertSlot ((hd.slots _ _ hslot).retire hasked hretires)
    apply hd'.withLog
  | @supersede oldKey newKey slot successor hcommand hslot hactive hsuccessor =>
    have hretires : Retires parts oldKey (.superseded successor.contentAddress) :=
      Or.inr ⟨hcommand, successor.contentAddress, rfl⟩
    have hd' := hd.insertSlot ((hd.slots _ _ hslot).retire hasked hretires)
    apply hd'.withLog
  | anchor hcommand =>
    rw [handleAuditAnchor_eq]
    apply hd.withLog

/-- A slot that was made for a `SET` is replaced by such a slot only. -/
theorem HasSlotOfSet.insertSlot (h : HasSlotOfSet ext cfg asked d key) {key' : String}
    {slot : CacheSlot} (hslot : key = key' → SlotOfSet ext cfg asked key slot) :
  HasSlotOfSet ext cfg asked (d.insertSlot key' slot) key
  := by
  intro slot' hslot'
  rcases lookup_insert_eq_some.mp hslot' with ⟨hkey, rfl⟩ | ⟨-, hslot'⟩
  · apply hslot hkey
  · apply h slot' hslot'

/-- A step of a task leaves the slots that were made for a `SET` such slots. -/
theorem HasSlotOfSet.effect {task : Task} (h : HasSlotOfSet ext cfg asked d key)
    (hasked : asked parts) (heffect : TaskEffect ext cfg amb parts task d d') :
  HasSlotOfSet ext cfg asked d' key
  := by
  cases heffect with
  | @insertSlot key' value fingerprint hsets =>
    apply h.insertSlot
    rintro rfl
    exact ⟨parts, value, fingerprint, amb, hasked, hsets, Or.inl rfl⟩
  | removeSlot hcommand =>
    intro slot hslot
    apply h slot (lookup_erase_eq_some.mp hslot).2
  | verified response hcommand =>
    obtain ⟨auditLog, hlog⟩ := d.logVerification_eq ext amb _ response
    rw [hlog]
    apply h
  | @revoke key' reason slot hcommand hslot hactive =>
    have hretires : Retires parts key' (.revoked reason amb.now none) :=
      Or.inl ⟨hcommand, reason, amb.now, rfl⟩
    have h' : HasSlotOfSet ext cfg asked (d.insertSlot key' { slot with
        state := .revoked reason amb.now none }) key := by
      apply h.insertSlot
      rintro rfl
      apply (h slot hslot).retire hasked hretires
    apply h'
  | @supersede oldKey newKey slot successor hcommand hslot hactive hsuccessor =>
    have hretires : Retires parts oldKey (.superseded successor.contentAddress) :=
      Or.inr ⟨hcommand, successor.contentAddress, rfl⟩
    have h' : HasSlotOfSet ext cfg asked (d.insertSlot oldKey { slot with
        state := .superseded successor.contentAddress }) key := by
      apply h.insertSlot
      rintro rfl
      apply (h slot hslot).retire hasked hretires
    apply h'
  | anchor hcommand =>
    rw [handleAuditAnchor_eq]
    apply h
  | _ => apply h

/-- A task that has inserted a slot has just done so, for its `SET`. -/
theorem hasSlotOfSet_of_inserted {task task' : Task} (hbelongs : task.BelongsTo cfg parts)
    (hasked : asked parts) (h : task.step ext cfg amb d = .ok (d', .next task'))
    (hkey : task'.inserted? = some key) :
  HasSlotOfSet ext cfg asked d' key
  := by
  have hnext : ∀ {d₁ : DaemonState} {progress : TaskProgress},
      (.ok (d₁, progress) : Outcome (DaemonState × TaskProgress)) = .ok (d', .next task') →
      d₁ = d' ∧ progress = .next task' := fun h => Prod.mk.inj (Except.ok.inj h)
  cases task with
  | setInsert key' value fingerprint =>
    obtain ⟨rfl, hprogress⟩ := hnext h
    obtain rfl := TaskProgress.next.inj hprogress
    obtain rfl := Option.some.inj hkey
    intro slot hslot
    obtain rfl : newSlot ext cfg amb (asBytes value) fingerprint = slot :=
      Option.some.inj ((AList.lookup_insert _).symm.trans hslot)
    exact ⟨parts, value, fingerprint, amb, hasked, hbelongs, Or.inl rfl⟩
  | setPersist key' value =>
    obtain ⟨d₁, -, h⟩ := bind_eq_ok_iff.mp h
    obtain rfl := TaskProgress.next.inj (hnext h).2
    cases hkey
  | verifiedValue key' =>
    rw [Task.step] at h
    split at h
    · obtain rfl := TaskProgress.next.inj (hnext h).2
      cases hkey
    · cases (hnext h).2
  | verifiedSlot key' value =>
    obtain ⟨response, -, h⟩ := bind_eq_ok_iff.mp h
    obtain rfl := TaskProgress.next.inj (hnext h).2
    cases hkey
  | single parts' =>
    obtain ⟨⟨d₁, reply⟩, -, h⟩ := bind_eq_ok_iff.mp h
    cases (hnext h).2
  | setLog key' => cases (hnext h).2
  | verifiedLog key' response => cases (hnext h).2
  | delLog key' deleted => cases (hnext h).2
  | infoBundles stats slotCount lastReload lastFlush => cases (hnext h).2
  | _ =>
    obtain rfl := TaskProgress.next.inj (hnext h).2
    cases hkey

/-- The response for a value of a key comes from where the value and the slot of the key do. -/
theorem Sourced.respond (hd : Sourced ext cfg start asked d) {value : Bytes}
    (hvalue : ValueFrom cfg start asked key value) {response : CacheeReadResponse}
    (h : d.respond ext amb key value = .ok response) :
  ResponseFrom ext cfg start asked key response
  := by
  unfold DaemonState.respond at h
  cases hslot : d.slots.lookup key with
  | none =>
    rw [hslot] at h
    obtain rfl := Except.ok.inj h
    exact ⟨hvalue, Or.inl ⟨rfl, rfl, rfl, rfl⟩⟩
  | some slot =>
    rw [hslot] at h
    obtain ⟨⟨verification, signatures⟩, -, h⟩ := bind_eq_ok_iff.mp h
    obtain rfl := Except.ok.inj h
    exact ⟨hvalue, Or.inr ⟨slot, hd.slots key slot hslot, rfl, rfl, rfl, rfl⟩⟩

end Steps

/-! ### What a task has read -/

section Tasks

variable (ext : Externals) (cfg : DaemonConfig) (start : DaemonState)
  (asked : List String → Prop)

/-- The value, or the response, that a verified read has got so far comes from somewhere. -/
def Task.Holds : Task → Prop
  | .verifiedSlot key value => ValueFrom cfg start asked key value
  | .verifiedLog key response => ResponseFrom ext cfg start asked key response
  | _ => True

/-- The reply to a `GET` in safe mode. -/
def safeReadRefusal : String :=
  "-ERR Use GETVERIFIED for verified reads. GET is disabled in safe mode. "
    ++ "Set read_mode = \"compatible\" to enable unverified reads.\r\n"

/-- In safe mode, the reply to a `GET` is that reads have to be verified.  Otherwise, and for a
verified read, it is that there is no value, or has a value or a response that comes from
somewhere. -/
structure ReplyFrom (parts : List String) (reply : String) : Prop where
  refused : ∀ key, Commands "GET" parts key → cfg.safeReadMode = true → reply = safeReadRefusal
  get : ∀ key, Commands "GET" parts key → cfg.safeReadMode = false → reply = nilReply ∨
    ∃ value, ValueFrom cfg start asked key value ∧
      reply = bulk (String.ofList (fromUtf8Lossy value))
  verified : ∀ key, Commands "GETVERIFIED" parts key → reply = nilReply ∨
    ∃ response, ResponseFrom ext cfg start asked key response ∧
      reply = bulk (responseText ext response)

/-- What a task holds, or has replied, comes from somewhere. -/
def TaskProgress.Holds (parts : List String) : TaskProgress → Prop
  | .next task => task.Holds ext cfg start asked
  | .reply text => ReplyFrom ext cfg start asked parts text

end Tasks

/-- What a task holds comes from somewhere when more lines have been passed. -/
theorem Task.Holds.mono (h : ∀ parts, asked parts → asked' parts) {task : Task}
    (hholds : task.Holds ext cfg start asked) :
  task.Holds ext cfg start asked'
  := by
  cases task with
  | verifiedSlot key value => exact ValueFrom.mono (fun parts hasked _ => h parts hasked) hholds
  | verifiedLog key response =>
    exact ResponseFrom.mono (fun parts hasked _ => h parts hasked) hholds
  | _ => trivial

/-- What has been replied comes from somewhere when more lines have been passed. -/
theorem ReplyFrom.mono (h : ∀ parts, asked parts → commandOf parts ∈ changeCommands → asked' parts)
    {reply : String} (hreply : ReplyFrom ext cfg start asked parts reply) :
  ReplyFrom ext cfg start asked' parts reply
  := by
  refine ⟨hreply.refused, ?_, ?_⟩
  · intro key hcommand hsafe
    rcases hreply.get key hcommand hsafe with hnil | ⟨value, hvalue, hbulk⟩
    · exact Or.inl hnil
    · exact Or.inr ⟨value, hvalue.mono h, hbulk⟩
  · intro key hcommand
    rcases hreply.verified key hcommand with hnil | ⟨response, hresponse, hbulk⟩
    · exact Or.inl hnil
    · exact Or.inr ⟨response, hresponse.mono h, hbulk⟩

section Reads

variable {amb : Ambient} {d d' : DaemonState} {progress : TaskProgress} {reply : String}

/-- Words are a command with one name only. -/
theorem Commands.name_eq {name name' key' : String} (h : Commands name parts key)
    (h' : Commands name' parts key') :
  name = name'
  := h.commandOf_eq.symm.trans h'.commandOf_eq

/-- Words are a command on one key only. -/
theorem Commands.key_eq {name name' key' : String} (h : Commands name parts key)
    (h' : Commands name' parts key') :
  key = key'
  := by
  obtain ⟨command, args, rfl, -⟩ := h
  obtain ⟨command', args', hparts, -⟩ := h'
  obtain ⟨-, hparts⟩ := List.cons.inj hparts
  apply (List.cons.inj hparts).1

/-- The reply to any other command says nothing about values. -/
theorem replyFrom_of_commandOf {name : String} (hname : commandOf parts = name)
    (hget : name ≠ "GET") (hverified : name ≠ "GETVERIFIED") (reply : String) :
  ReplyFrom ext cfg start asked parts reply
  := by
  constructor
  · intro key hcommand
    apply absurd (hname.symm.trans hcommand.commandOf_eq) hget
  · intro key hcommand
    apply absurd (hname.symm.trans hcommand.commandOf_eq) hget
  · intro key hcommand
    apply absurd (hname.symm.trans hcommand.commandOf_eq) hverified

/-- The first step of a handler holds nothing, and words that are refused are no read. -/
theorem TaskStart.holds (h : TaskStart cfg parts progress) :
  progress.Holds ext cfg start asked parts
  := by
  cases h with
  | refused text hcommand =>
    rcases hcommand with hcommand | hcommand
    · apply replyFrom_of_commandOf hcommand (by decide) (by decide)
    · apply replyFrom_of_commandOf hcommand (by decide) (by decide)
  | _ => trivial

/-- In safe mode, a `GET` is refused. -/
theorem reply_of_handleGet (hsafe : cfg.safeReadMode = true)
    (h : handleGet cfg d parts = .ok (d', reply)) :
  reply = safeReadRefusal
  := by
  rw [handleGet, if_pos hsafe] at h
  apply (Prod.mk.inj (Except.ok.inj h)).2.symm

/-- What is read for a `GET` comes from somewhere. -/
theorem Sourced.handleGet (hd : Sourced ext cfg start asked d)
    (hcommand : Commands "GET" parts key) (hsafe : cfg.safeReadMode = false)
    (h : handleGet cfg d parts = .ok (d', reply)) :
  reply = nilReply ∨ ∃ value, ValueFrom cfg start asked key value ∧
    reply = bulk (String.ofList (fromUtf8Lossy value))
  := by
  obtain ⟨command, args, rfl, -⟩ := hcommand
  rw [Cachee.handleGet, if_neg (by simp [hsafe])] at h
  obtain ⟨key', hkey, h⟩ := bind_eq_ok_iff.mp h
  obtain rfl : key = key' := Except.ok.inj hkey
  split at h
  · rename_i value hvalue
    right
    obtain ⟨-, rfl⟩ := Prod.mk.inj (Except.ok.inj h)
    exact ⟨value, hd.engine key value hvalue, rfl⟩
  · left
    apply (Prod.mk.inj (Except.ok.inj h)).2.symm

/-- What is read for a single step comes from somewhere. -/
theorem Sourced.dispatch (hd : Sourced ext cfg start asked d) (hsingle : IsSingle parts)
    (h : dispatch ext cfg amb d parts (commandOf parts) = .ok (d', reply)) :
  ReplyFrom ext cfg start asked parts reply
  := by
  have hget : ∀ {key : String}, Commands "GET" parts key →
      Cachee.handleGet cfg d parts = .ok (d', reply) := by
    intro key hcommand
    have hlen : 2 ≤ parts.length := by
      obtain ⟨command, args, rfl, -⟩ := hcommand
      simp
    rwa [hcommand.commandOf_eq, Cachee.dispatch, if_neg (by decide), if_neg (by simp),
      if_pos ⟨rfl, hlen⟩] at h
  constructor
  · intro key hcommand hsafe
    apply reply_of_handleGet hsafe (hget hcommand)
  · intro key hcommand hsafe
    apply hd.handleGet hcommand hsafe (hget hcommand)
  · intro key hcommand
    have hlen : 2 ≤ parts.length := by
      obtain ⟨command, args, rfl, -⟩ := hcommand
      simp
    apply absurd ⟨hcommand.commandOf_eq, hlen⟩ hsingle.verified

/-- What a step of a task reads comes from somewhere. -/
theorem Sourced.holds (hd : Sourced ext cfg start asked d) {task : Task}
    (hbelongs : task.BelongsTo cfg parts) (hholds : task.Holds ext cfg start asked)
    (h : task.step ext cfg amb d = .ok (d', progress)) :
  progress.Holds ext cfg start asked parts
  := by
  cases task with
  | setPersist key value =>
    obtain ⟨d₁, -, h⟩ := bind_eq_ok_iff.mp h
    obtain ⟨-, rfl⟩ := Prod.mk.inj (Except.ok.inj h)
    trivial
  | setLog key =>
    obtain ⟨-, rfl⟩ := Prod.mk.inj (Except.ok.inj h)
    apply replyFrom_of_commandOf hbelongs.commandOf_eq (by decide) (by decide)
  | verifiedValue key =>
    rw [Task.step] at h
    split at h
    · rename_i value hvalue
      obtain ⟨-, rfl⟩ := Prod.mk.inj (Except.ok.inj h)
      apply hd.engine key value hvalue
    · obtain ⟨-, rfl⟩ := Prod.mk.inj (Except.ok.inj h)
      constructor
      · intro key' hcommand
        apply absurd (hcommand.name_eq hbelongs) (by decide)
      · intro key' hcommand
        apply absurd (hcommand.name_eq hbelongs) (by decide)
      · intro key' hcommand
        left
        rfl
  | verifiedSlot key value =>
    obtain ⟨response, hrespond, h⟩ := bind_eq_ok_iff.mp h
    obtain ⟨-, rfl⟩ := Prod.mk.inj (Except.ok.inj h)
    apply hd.respond hholds hrespond
  | verifiedLog key response =>
    obtain ⟨-, rfl⟩ := Prod.mk.inj (Except.ok.inj h)
    constructor
    · intro key' hcommand
      apply absurd (hcommand.name_eq hbelongs) (by decide)
    · intro key' hcommand
      apply absurd (hcommand.name_eq hbelongs) (by decide)
    · intro key' hcommand
      right
      rw [hcommand.key_eq hbelongs]
      exact ⟨response, hholds, rfl⟩
  | delLog key deleted =>
    obtain ⟨-, rfl⟩ := Prod.mk.inj (Except.ok.inj h)
    apply replyFrom_of_commandOf hbelongs.commandOf_eq (by decide) (by decide)
  | infoBundles stats slotCount lastReload lastFlush =>
    obtain ⟨-, rfl⟩ := Prod.mk.inj (Except.ok.inj h)
    apply replyFrom_of_commandOf hbelongs (by decide) (by decide)
  | single parts' =>
    obtain ⟨rfl, hsingle⟩ := hbelongs
    obtain ⟨⟨d₁, reply⟩, hdispatch, h⟩ := bind_eq_ok_iff.mp h
    obtain ⟨-, rfl⟩ := Prod.mk.inj (Except.ok.inj h)
    apply hd.dispatch hsingle hdispatch
  | _ =>
    obtain ⟨-, rfl⟩ := Prod.mk.inj (Except.ok.inj h)
    trivial

end Reads

/-! ### Runs of the server -/

namespace Server

/-- The words of a line that was passed to the handler. -/
def Asked (s : Server) (parts : List String) : Prop :=
  ∃ line ∈ s.gate.passed, words line.data = parts

/-- The daemon, the tasks that are running and the replies come from the start or from lines that
were passed. -/
structure Traced (ext : Externals) (cfg : DaemonConfig) (start : DaemonState) (s : Server) :
    Prop where
  daemon : Sourced ext cfg start s.Asked s.daemon
  tasks : ∀ running ∈ s.tasks, running.line ∈ s.gate.passed ∧
    running.task.BelongsTo cfg (words running.line.data) ∧
    running.task.Holds ext cfg start s.Asked
  inserted : ∀ running ∈ s.tasks, ∀ key, running.task.inserted? = some key →
    HasSlotOfSet ext cfg s.Asked s.daemon key
  answers : ∀ answer ∈ s.answers, answer.line ∈ s.gate.passed ∧
    ReplyFrom ext cfg start s.Asked (words answer.line.data) answer.reply

variable {s s' : Server} {requireAuth : Bool} {e : ServerEvent}

/-- The server is traced when the gate has passed more lines. -/
theorem Traced.withGate (h : s.Traced ext cfg start) {gate : GateState}
    (hpassed : s.gate.passed ⊆ gate.passed) :
  Traced ext cfg start { s with gate }
  := by
  have hasked : ∀ parts, s.Asked parts → Asked { s with gate } parts := by
    rintro parts ⟨line, hline, hparts⟩
    exact ⟨line, hpassed hline, hparts⟩
  constructor
  · apply h.daemon.mono
    intro parts hparts _
    apply hasked parts hparts
  · intro running hrunning
    obtain ⟨hline, hbelongs, hholds⟩ := h.tasks running hrunning
    exact ⟨hpassed hline, hbelongs, hholds.mono hasked⟩
  · intro running hrunning key hkey slot hslot
    apply (h.inserted running hrunning key hkey slot hslot).mono
    intro parts hparts _
    apply hasked parts hparts
  · intro answer hanswer
    obtain ⟨hline, hreply⟩ := h.answers answer hanswer
    use hpassed hline
    apply hreply.mono
    intro parts hparts _
    apply hasked parts hparts

/-- The server is traced when a task of a line that was passed goes on, or has replied. -/
theorem Traced.goOn (h : s.Traced ext cfg start) {line : PassedLine}
    (hline : line ∈ s.gate.passed) {outcome : Outcome TaskProgress}
    (houtcome : ∀ progress, outcome = .ok progress → progress.BelongsTo cfg (words line.data) ∧
      progress.Holds ext cfg start s.Asked (words line.data))
    (hinserted : ∀ task, outcome = .ok (.next task) → ∀ key, task.inserted? = some key →
      HasSlotOfSet ext cfg s.Asked s.daemon key) :
  (s.goOn line outcome).Traced ext cfg start
  := by
  unfold Server.goOn
  split
  · rename_i task
    obtain ⟨hbelongs, hholds⟩ := houtcome _ rfl
    refine ⟨h.daemon, ?_, ?_, h.answers⟩
    · intro running hrunning
      rcases List.mem_append.mp hrunning with hrunning | hrunning
      · apply h.tasks running hrunning
      · obtain rfl := List.mem_singleton.mp hrunning
        exact ⟨hline, hbelongs, hholds⟩
    · intro running hrunning
      rcases List.mem_append.mp hrunning with hrunning | hrunning
      · apply h.inserted running hrunning
      · obtain rfl := List.mem_singleton.mp hrunning
        apply hinserted task rfl
  · rename_i reply
    obtain ⟨-, hholds⟩ := houtcome _ rfl
    refine ⟨h.daemon, h.tasks, h.inserted, ?_⟩
    intro answer hanswer
    rcases List.mem_append.mp hanswer with hanswer | hanswer
    · apply h.answers answer hanswer
    · obtain rfl := List.mem_singleton.mp hanswer
      exact ⟨hline, hholds⟩
  · exact ⟨h.daemon, h.tasks, h.inserted, h.answers⟩

/-- Every event keeps the server traced. -/
theorem Traced.step (h : s.Traced ext cfg start)
    (hstep : ServerStep ext cfg requireAuth s e s') :
  s'.Traced ext cfg start
  := by
  cases hstep with
  | gate hadmits hgate hpassed =>
    apply h.withGate
    rw [hpassed]
    apply List.Subset.refl
  | @pass e gate line hadmits hgate hpassed =>
    have htraced : Traced ext cfg start { s with gate } := by
      apply h.withGate
      rw [hpassed]
      apply List.subset_append_left
    apply htraced.goOn
    · simp only [hpassed, List.mem_append, List.mem_singleton, or_true]
    · intro progress hprogress
      have hbegin := taskStart_of_startTask hprogress
      exact ⟨hbegin.belongsTo, hbegin.holds⟩
    · intro task htask key hkey
      rw [(taskStart_of_startTask htask).inserted?] at hkey
      cases hkey
  | @task i amb line task daemon progress hi hstep =>
    have hmem := List.mem_of_getElem? hi
    obtain ⟨hline, hbelongs, hholds⟩ := h.tasks _ hmem
    have hasked : s.Asked (words line.data) := ⟨line, hline, rfl⟩
    obtain ⟨heffect, hbelongs'⟩ := Task.effect hbelongs hstep
    have hholds' := h.daemon.holds hbelongs hholds hstep
    have htraced : Traced ext cfg start { s with tasks := s.tasks.eraseIdx i, daemon } := by
      refine ⟨h.daemon.effect hasked (h.inserted _ hmem) heffect, ?_, ?_, h.answers⟩
      · intro running hrunning
        apply h.tasks running ((List.eraseIdx_sublist _ _).subset hrunning)
      · intro running hrunning key hkey
        have hbefore := h.inserted running ((List.eraseIdx_sublist _ _).subset hrunning) key hkey
        apply hbefore.effect hasked heffect
    apply htraced.goOn hline
    · intro progress' hprogress
      obtain rfl := Except.ok.inj hprogress
      exact ⟨hbelongs', hholds'⟩
    · intro task' htask' key hkey
      obtain rfl := Except.ok.inj htask'
      apply hasSlotOfSet_of_inserted hbelongs hasked hstep hkey
  | panic hi hstep =>
    refine ⟨h.daemon, ?_, ?_, h.answers⟩
    · intro running hrunning
      apply h.tasks running ((List.eraseIdx_sublist _ _).subset hrunning)
    · intro running hrunning
      apply h.inserted running ((List.eraseIdx_sublist _ _).subset hrunning)
  | evict key => exact ⟨h.daemon.eraseValue key, h.tasks, h.inserted, h.answers⟩

/-- A server before its first connection is traced. -/
theorem traced_initial (ext : Externals) (cfg : DaemonConfig) (registry : ApiKeyRegistry)
    (start : DaemonState) :
  (initial registry start).Traced ext cfg start
  := by
  constructor
  · constructor
    · intro key value hvalue
      left
      apply hvalue
    · intro key slot hslot
      exact Or.inl ⟨slot, hslot, Or.inl rfl⟩
    · intro key hstart hremoved
      apply absurd hstart hremoved
    · intro address bytes hbytes
      left
      apply hbytes
    · intro address haddress
      apply haddress
  · intro running hrunning
    cases hrunning
  · intro running hrunning
    cases hrunning
  · intro answer hanswer
    cases hanswer

/-- In every run the server is traced. -/
theorem traced_of_run {registry : ApiKeyRegistry} {events : List ServerEvent}
    (hrun : run (step ext cfg requireAuth) (initial registry start) events = some s) :
  s.Traced ext cfg start
  := by
  apply run_invariant_of_step _ (traced_initial ext cfg registry start) hrun
  intro s₁ e s₂ h hstep
  apply h.step (step_eq_some hstep)

/-! ### Required authentication -/

/-- A connection with a registered key that may write has asked for the words: the secret that its
last successful `AUTH` accepted had been registered with the permission to write or to
administrate, and its key was still registered when the line was checked. -/
def Authorized (sha3 : Bytes → Block 32) (s : Server) (parts : List String) : Prop :=
  ∃ line ∈ s.gate.passed, words line.data = parts ∧ ∃ secret entry,
    line.accepted = some (secret, entry) ∧ sha3 (asBytes secret) ∈ line.registry ∧
    entry.canWrite = true

/-- A command that changes something and that was passed by a guarded gate is authorized. -/
theorem authorized_of_guarded (h : s.gate.Guarded ext.sha3) {parts : List String}
    (hasked : s.Asked parts) (hcommand : commandOf parts ∈ changeCommands) :
  s.Authorized ext.sha3 parts
  := by
  obtain ⟨line, hline, rfl⟩ := hasked
  obtain ⟨secret, entry, haccepted, hregistered, hwrite⟩ := h.passed line hline
  refine ⟨line, hline, rfl, secret, entry, haccepted, hregistered, ?_⟩
  cases hwords : words line.data with
  | nil =>
    rw [hwords] at hcommand
    apply absurd hcommand
    decide
  | cons command args =>
    rw [hwords] at hcommand
    apply hwrite command args hwords hcommand

/-- Two connections authenticate; one sets `k` to `v`, and the other reads it before the first has
its reply. -/
def readerRun : List ServerEvent :=
  [.gate .connect, .gate .connect, .gate (.read 0 (asBytes "auth s")),
    .gate (.read 1 (asBytes "auth s")), .gate (.read 0 (asBytes "set k v")),
    .gate (.checkQuota 0 0), .gate (.revalidate 0), .gate (.checkPermission 0),
    .step 0 plainAmbient, .step 0 plainAmbient, .step 0 plainAmbient,
    .gate (.read 1 (asBytes "get k")), .gate (.checkQuota 1 1), .gate (.revalidate 1),
    .gate (.checkPermission 1), .step 1 plainAmbient, .step 0 plainAmbient]

/-- With required authentication, in every interleaving of the lines of any number of connections,
all that the daemon holds it held at the start, or a connection with a key that may write has asked
for it: each value and each slot by a `SET` of its key, each state of a slot that is not the one it
was made with by an `INVALIDATE` or a `SUPERSEDE` of its key, and each bundle by a `SET` of the key
of its slot.  The slots of the start that are gone were deleted by such a connection, and the
content store holds all addresses that it held. -/
theorem sourced_of_run {registry : ApiKeyRegistry} {events : List ServerEvent}
    (hrun : run (step ext cfg true) (initial registry start) events = some s) :
  Sourced ext cfg start (s.Authorized ext.sha3) s.daemon
  := by
  have hguarded := guarded_of_run hrun
  apply (traced_of_run hrun).daemon.mono
  intro parts hasked hcommand
  apply authorized_of_guarded hguarded hasked hcommand

/-- After this run, the value of `k` was asked for by the connection that may write. -/
theorem sourced_readerRun :
  ∃ s, run (step plainExternals plainConfig true)
      (initial GateState.writerRegistry (.empty "node")) readerRun = some s ∧
    s.daemon.engine.lookup "k" = some (asBytes "v") ∧
    Sourced plainExternals plainConfig (.empty "node") (s.Authorized plainExternals.sha3) s.daemon
  := by
  have hvalue : (run (step plainExternals plainConfig true)
      (initial GateState.writerRegistry (.empty "node")) readerRun).map
        (fun s => s.daemon.engine.lookup "k") = some (some (asBytes "v")) := by
    decide +kernel
  obtain ⟨s, hrun, hvalue⟩ := Option.map_eq_some_iff.mp hvalue
  exact ⟨s, hrun, hvalue, sourced_of_run hrun⟩

/-- With required authentication, in every interleaving, a `GET` in safe mode is refused, and what
any other `GET` or a verified read replies is that there is nothing, or comes from the start or from
a connection with a key that may write: the value, and the fingerprint, the provenance, the state
and the validity of the slot that was found for the key. -/
theorem replyFrom_of_run {registry : ApiKeyRegistry} {events : List ServerEvent}
    (hrun : run (step ext cfg true) (initial registry start) events = some s) :
  ∀ answer ∈ s.answers, ReplyFrom ext cfg start (s.Authorized ext.sha3)
    (words answer.line.data) answer.reply
  := by
  intro answer hanswer
  have hguarded := guarded_of_run hrun
  apply ((traced_of_run hrun).answers answer hanswer).2.mono
  intro parts hasked hcommand
  apply authorized_of_guarded hguarded hasked hcommand

/-- In this run, the second connection gets the value, which the first has asked for. -/
theorem replyFrom_readerRun :
  ∃ s, run (step plainExternals plainConfig true)
      (initial GateState.writerRegistry (.empty "node")) readerRun = some s ∧
    s.answers.map Answer.reply = [bulk "v", "+OK\r\n"] ∧
    ∀ answer ∈ s.answers, ReplyFrom plainExternals plainConfig (.empty "node")
      (s.Authorized plainExternals.sha3) (words answer.line.data) answer.reply
  := by
  have hreplies : (run (step plainExternals plainConfig true)
      (initial GateState.writerRegistry (.empty "node")) readerRun).map
        (fun s => s.answers.map Answer.reply) = some [bulk "v", "+OK\r\n"] := by
    decide +kernel
  obtain ⟨s, hrun, hreplies⟩ := Option.map_eq_some_iff.mp hreplies
  exact ⟨s, hrun, hreplies, replyFrom_of_run hrun⟩

end Server

end Cachee
