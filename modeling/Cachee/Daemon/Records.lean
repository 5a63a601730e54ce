import Cachee.ContentStore.History
import Cachee.Daemon.Coherence
import Cachee.Daemon.Reconstruction

/-!
# Records of interleaved commands

A `SET` inserts its slot, and looks the slot of its key up again when it stores the bundle and
when it records the entry.  Between these steps another `SET` may have replaced the slot, or a `DEL`
removed it; then the `SET` stores the bundle and records the entry of the other, or nothing at
all.  It leaves its own records in the runs in which it finds its own slot.
-/

open Text

namespace Cachee

/-! ### What a step records -/

namespace HandlerPhase

variable (ext : Externals) (cfg : DaemonConfig) (amb : Ambient) (d : DaemonState)

/-- The bundle that the step of a phase puts in the content store. -/
def stored? : HandlerPhase → Option CacheeArchiveBundle
  | .setPersist key _ =>
    match d.slots.lookup key with
    | some slot =>
      if slot.hasValidFingerprint then
        (slotToBundle ext amb.seeds slot cfg.pqKeys cfg.issuerId).toOption
      else none
    | none => none
  | _ => none

/-- The event that the step of a phase appends to the audit log. -/
def event? : HandlerPhase → Option AuditEventType
  | .setLog key =>
    match d.slots.lookup key with
    | some slot =>
      some (.entryCreated key (hexEncode slot.contentAddress.1)
        (hexEncode (slot.fingerprint.digest ext.sha3).1)
        (cfg.pqKeys.isSome && slot.hasValidFingerprint))
    | none => none
  | .delLog key deleted => if deleted then some (.entryDeleted key) else none
  | .getLog key response =>
    match response.verification with
    | .fullyVerified _ _ _ =>
      let mldsa := response.signatures.mldsaValid.getD false
      let falcon := response.signatures.falconValid.getD false
      let slhdsa := response.signatures.slhdsaValid.getD false
      some (.verificationPerformed key mldsa falcon slhdsa response.signatures.twoOfThree
        (mldsa && falcon && slhdsa))
    | .verificationFailed reason => some (.verificationFailed key reason)
    | _ => none
  | _ => none

/-- The entry that the step of a phase appends to the audit log. -/
def appended? (phase : HandlerPhase) : Option AuditEntry :=
  (phase.event? ext cfg d).map (d.auditLog.newEntry ext.sha3 ext.auditJson amb.auditNow)

/-- The step of the phase looks the slot of a `SET` up again. -/
def looksUp : HandlerPhase → Bool
  | .setPersist _ _ => true
  | .setLog _ => true
  | _ => false

end HandlerPhase

/-- The first phase of a command that starts. -/
def ConcurrentEvent.command? : ConcurrentEvent → Option HandlerPhase
  | .startSet key value fingerprint => some (.setInsert key value fingerprint)
  | .startDel key => some (.delValue key)
  | .startGetVerified key => some (.getValue key)
  | .step _ _ => none
  | .evict _ => none

/-- No write to a database fails in the event. -/
def ConcurrentEvent.Succeeds : ConcurrentEvent → Prop
  | .step _ amb => amb.putFault = none ∧ amb.auditFault = none
  | _ => True

instance : (e : ConcurrentEvent) → Decidable e.Succeeds
  | .step _ amb => inferInstanceAs (Decidable (amb.putFault = none ∧ amb.auditFault = none))
  | .startSet _ _ _ => isTrue trivial
  | .startDel _ => isTrue trivial
  | .startGetVerified _ => isTrue trivial
  | .evict _ => isTrue trivial

/-- The items of a list with the number `i`. -/
def itemsOf {α : Type} (l : List (ℕ × α)) (i : ℕ) : List α :=
  (l.filter fun item => item.1 = i).map Prod.snd

/-- The state of the daemon and its handlers, with the first phase of each handler, and the
bundles that were put and the entries that were appended, with the number of the handler. -/
structure RecordedState where
  concurrent : ConcurrentState
  commands : List HandlerPhase
  stored : List (ℕ × CacheeArchiveBundle)
  recorded : List (ℕ × AuditEntry)

namespace ConcurrentState

variable (ext : Externals) (cfg : DaemonConfig) (s : ConcurrentState)

/-- The bundle that an event puts in the content store. -/
def stores : ConcurrentEvent → List (ℕ × CacheeArchiveBundle)
  | .step i amb =>
    (s.handlers[i]?.bind (HandlerPhase.stored? ext cfg amb s.daemon)).toList.map (i, ·)
  | _ => []

/-- The entry that an event appends to the audit log. -/
def records : ConcurrentEvent → List (ℕ × AuditEntry)
  | .step i amb =>
    (s.handlers[i]?.bind (HandlerPhase.appended? ext cfg amb s.daemon)).toList.map (i, ·)
  | _ => []

end ConcurrentState

namespace RecordedState

variable (ext : Externals) (cfg : DaemonConfig)

/-- A daemon before its first command. -/
def initial (daemon : DaemonState) : RecordedState where
  concurrent := .initial daemon
  commands := []
  stored := []
  recorded := []

/-- The state after an event. -/
def step (s : RecordedState) (e : ConcurrentEvent) : Option RecordedState := do
  let concurrent ← s.concurrent.step ext cfg e
  return {
    concurrent
    commands := s.commands ++ e.command?.toList
    stored := s.stored ++ s.concurrent.stores ext cfg e
    recorded := s.recorded ++ s.concurrent.records ext cfg e }

/-- The daemon. -/
def daemon (s : RecordedState) : DaemonState := s.concurrent.daemon

/-- If the command is a `SET` with a valid fingerprint, the slot of its key has its value and its
fingerprint. -/
def HasSlotOf (d : DaemonState) : HandlerPhase → Prop
  | .setInsert key value fingerprint => fingerprint.isValid = true →
    ∃ slot ∈ d.slots.lookup key, slot.value = value ∧ slot.fingerprint = fingerprint
  | _ => True

instance {d : DaemonState} : (command : HandlerPhase) → Decidable (HasSlotOf d command)
  | .setInsert key value fingerprint => inferInstanceAs (Decidable (fingerprint.isValid = true →
      ∃ slot ∈ d.slots.lookup key, slot.value = value ∧ slot.fingerprint = fingerprint))
  | .setPersist _ _ => isTrue trivial
  | .setValue _ _ => isTrue trivial
  | .setLog _ => isTrue trivial
  | .delValue _ => isTrue trivial
  | .delSlot _ _ => isTrue trivial
  | .delLog _ _ => isTrue trivial
  | .getValue _ => isTrue trivial
  | .getSlot _ _ => isTrue trivial
  | .getLog _ _ => isTrue trivial
  | .done => isTrue trivial

/-- A `SET` with a valid fingerprint that looks the slot of its key up again finds its own value
and fingerprint. -/
def FindsOwn (s : RecordedState) : ConcurrentEvent → Prop
  | .step i _ => ∀ phase ∈ s.concurrent.handlers[i]?, phase.looksUp = true →
    ∀ command ∈ s.commands[i]?, HasSlotOf s.daemon command
  | _ => True

instance {s : RecordedState} : (e : ConcurrentEvent) → Decidable (s.FindsOwn e)
  | .step i _ => inferInstanceAs (Decidable (∀ phase ∈ s.concurrent.handlers[i]?,
      phase.looksUp = true → ∀ command ∈ s.commands[i]?, HasSlotOf s.daemon command))
  | .startSet _ _ _ => isTrue trivial
  | .startDel _ => isTrue trivial
  | .startGetVerified _ => isTrue trivial
  | .evict _ => isTrue trivial

end RecordedState

/-! ### Items of a handler -/

section Items

variable {α : Type} {l l' : List (ℕ × α)} {i j : ℕ}

theorem itemsOf_append :
  itemsOf (l ++ l') i = itemsOf l i ++ itemsOf l' i
  := by
  rw [itemsOf, List.filter_append, List.map_append]
  rfl

/-- A list has no items with a number that none of them has. -/
theorem itemsOf_eq_nil (h : ∀ item ∈ l, item.1 ≠ i) :
  itemsOf l i = []
  := by
  rw [itemsOf, List.map_eq_nil_iff, List.filter_eq_nil_iff]
  intro item hitem
  simpa using h item hitem

/-- The items of a handler are those that are numbered with it. -/
theorem itemsOf_map_self (l : List α) :
  itemsOf (l.map (i, ·)) i = l
  := by
  have hall : (l.map (i, ·)).filter (fun item => item.1 = i) = l.map (i, ·) := by
    rw [List.filter_eq_self]
    intro item hitem
    obtain ⟨a, -, rfl⟩ := List.mem_map.mp hitem
    simp
  rw [itemsOf, hall, List.map_map]
  apply List.map_id

/-- Items that are numbered with another handler are not added. -/
theorem itemsOf_append_map_ne {items : List α} (hne : j ≠ i) :
  itemsOf (l ++ items.map (i, ·)) j = itemsOf l j
  := by
  rw [itemsOf_append, itemsOf_eq_nil (l := items.map (i, ·)), List.append_nil]
  intro item hitem
  obtain ⟨a, -, rfl⟩ := List.mem_map.mp hitem
  exact hne.symm

end Items

/-! ### What a step does to the stores -/

section Steps

variable {ext : Externals} {cfg : DaemonConfig} {amb : Ambient} {s s' : ConcurrentState} {i : ℕ}
  {phase : HandlerPhase}

/-- Storing the slot of a key puts its bundle, if there is one to put. -/
theorem DaemonState.persistSlot_eq_ok {d d' : DaemonState} {key : String} (value : Bytes)
    (h : d.persistSlot ext cfg amb key = .ok d') :
  d' = { d with
    contentStore := d.contentStore.performAll ext.sha3 ext.identityJson
      (((HandlerPhase.setPersist key value).stored? ext cfg amb d).toList.map
        (.put amb.putFault)) }
  := by
  rw [HandlerPhase.stored?]
  cases hslot : d.slots.lookup key with
  | none =>
    rw [persistSlot, hslot] at h
    rw [← Except.ok.inj h]
    rfl
  | some slot =>
    rw [persistSlot, hslot] at h
    dsimp only at h ⊢
    by_cases hvalid : slot.hasValidFingerprint = true
    · rw [if_pos hvalid] at h ⊢
      obtain ⟨bundle, hbundle, hd'⟩ := bind_eq_ok_iff.mp h
      rw [hbundle, ← Except.ok.inj hd']
      rfl
    · rw [if_neg hvalid] at h ⊢
      rw [← Except.ok.inj h]
      rfl

/-- A step leaves the other handlers as they are, puts the bundle of its phase, appends the event of
its phase, and adds well addressed slots only. -/
theorem ConcurrentState.stepHandler_eq_some
    (h : s.stepHandler ext cfg amb i phase = some s') :
  (∃ new, s'.handlers = s.handlers.set i new) ∧
    s'.daemon.contentStore = s.daemon.contentStore.performAll ext.sha3 ext.identityJson
      ((phase.stored? ext cfg amb s.daemon).toList.map (.put amb.putFault)) ∧
    (s'.daemon.auditLog = (phase.event? ext cfg s.daemon).elim s.daemon.auditLog fun event =>
      (s.daemon.log ext amb event).auditLog) ∧
    ∀ key slot, s'.daemon.slots.lookup key = some slot →
      s.daemon.slots.lookup key = some slot ∨ slot.WellAddressed ext.sha3
  := by
  cases phase with
  | setInsert key value fingerprint =>
    obtain rfl := Option.some.inj h
    refine ⟨⟨_, rfl⟩, rfl, rfl, ?_⟩
    intro key' slot hslot
    rcases lookup_insert_eq_some.mp hslot with ⟨-, rfl⟩ | ⟨-, hslot⟩
    · right
      apply CacheSlot.wellAddressed_new
    · left
      apply hslot
  | setPersist key value =>
    rw [stepHandler] at h
    split at h
    · rename_i daemon hpersist
      obtain rfl := Option.some.inj h
      obtain rfl := DaemonState.persistSlot_eq_ok value hpersist
      exact ⟨⟨_, rfl⟩, rfl, rfl, fun _ _ => Or.inl⟩
    · cases h
  | setValue key value =>
    obtain rfl := Option.some.inj h
    exact ⟨⟨_, rfl⟩, rfl, rfl, fun _ _ => Or.inl⟩
  | setLog key =>
    obtain rfl := Option.some.inj h
    rw [HandlerPhase.event?, advance, DaemonState.logCreated]
    cases s.daemon.slots.lookup key with
    | none => exact ⟨⟨_, rfl⟩, rfl, rfl, fun _ _ => Or.inl⟩
    | some slot => exact ⟨⟨_, rfl⟩, rfl, rfl, fun _ _ => Or.inl⟩
  | delValue key =>
    obtain rfl := Option.some.inj h
    exact ⟨⟨_, rfl⟩, rfl, rfl, fun _ _ => Or.inl⟩
  | delSlot key deleted =>
    obtain rfl := Option.some.inj h
    exact ⟨⟨_, rfl⟩, rfl, rfl, fun _ _ hslot => Or.inl (lookup_erase_eq_some.mp hslot).2⟩
  | delLog key deleted =>
    obtain rfl := Option.some.inj h
    cases deleted with
    | true => exact ⟨⟨_, rfl⟩, rfl, rfl, fun _ _ => Or.inl⟩
    | false => exact ⟨⟨_, rfl⟩, rfl, rfl, fun _ _ => Or.inl⟩
  | getValue key =>
    rw [stepHandler] at h
    split at h
    · obtain rfl := Option.some.inj h
      exact ⟨⟨_, rfl⟩, rfl, rfl, fun _ _ => Or.inl⟩
    · obtain rfl := Option.some.inj h
      exact ⟨⟨_, rfl⟩, rfl, rfl, fun _ _ => Or.inl⟩
  | getSlot key value =>
    rw [stepHandler] at h
    split at h
    · obtain rfl := Option.some.inj h
      exact ⟨⟨_, rfl⟩, rfl, rfl, fun _ _ => Or.inl⟩
    · cases h
  | getLog key response =>
    obtain rfl := Option.some.inj h
    rw [HandlerPhase.event?, advance, DaemonState.logVerification]
    cases response.verification with
    | fullyVerified _ _ _ => exact ⟨⟨_, rfl⟩, rfl, rfl, fun _ _ => Or.inl⟩
    | verificationFailed _ => exact ⟨⟨_, rfl⟩, rfl, rfl, fun _ _ => Or.inl⟩
    | _ => exact ⟨⟨_, rfl⟩, rfl, rfl, fun _ _ => Or.inl⟩
  | done => cases h

end Steps

/-! ### The records of one handler -/

section Progress

variable (ext : Externals) (cfg : DaemonConfig) (key : String) (value : Bytes)
  (fingerprint : ComputationFingerprint)

/-- The bundle has the hash of the value, and the fingerprint. -/
structure IsBundleOf (bundle : CacheeArchiveBundle) : Prop where
  contentHash : bundle.contentHash = ext.sha3 value
  fingerprint : bundle.computationFingerprint = fingerprint

/-- The entry is the creation of the key with the address and the digest of a `SET`. -/
def IsEntryOf (entry : AuditEntry) : Prop :=
  entry.event = .entryCreated key
    (hexEncode (CacheSlot.computeContentAddress ext.sha3 value fingerprint).1)
    (hexEncode (fingerprint.digest ext.sha3).1) cfg.pqKeys.isSome

/-- How far a `SET` is, with the bundles and the entries that it has recorded. -/
inductive Progress : HandlerPhase → List CacheeArchiveBundle → List AuditEntry → Prop
  | inserts : Progress (.setInsert key value fingerprint) [] []
  | persists : Progress (.setPersist key value) [] []
  | sets {bundle : CacheeArchiveBundle} (hbundle : IsBundleOf ext value fingerprint bundle) :
    Progress (.setValue key value) [bundle] []
  | logs {bundle : CacheeArchiveBundle} (hbundle : IsBundleOf ext value fingerprint bundle) :
    Progress (.setLog key) [bundle] []
  | done {bundle : CacheeArchiveBundle} {entry : AuditEntry}
    (hbundle : IsBundleOf ext value fingerprint bundle)
    (hentry : IsEntryOf ext cfg key value fingerprint entry) :
    Progress .done [bundle] [entry]

variable {ext cfg key value fingerprint} {amb : Ambient} {s s' : ConcurrentState} {i : ℕ}
  {phase : HandlerPhase} {bundles : List CacheeArchiveBundle} {entries : List AuditEntry}

/-- A `SET` that finds its own slot puts its own bundle. -/
theorem stored?_of_own {d d' : DaemonState} {slot : CacheSlot} (hvalid : fingerprint.isValid = true)
    (hslot : d.slots.lookup key = some slot) (hvalue : slot.value = value)
    (hfingerprint : slot.fingerprint = fingerprint)
    (hpersist : d.persistSlot ext cfg amb key = .ok d') :
  ∃ bundle, (HandlerPhase.setPersist key value).stored? ext cfg amb d = some bundle ∧
    IsBundleOf ext value fingerprint bundle
  := by
  have hslotValid : slot.hasValidFingerprint = true := by
    rw [CacheSlot.hasValidFingerprint, hfingerprint, hvalid]
  rcases DaemonState.persistSlot_cases hslot hpersist with ⟨hinvalid, -⟩ | ⟨bundle, hbundle, -⟩
  · rw [hslotValid] at hinvalid
    cases hinvalid
  · obtain ⟨-, hhash, hbundleFingerprint⟩ := slotToBundle_eq_ok hbundle
    refine ⟨bundle, ?_, hvalue ▸ hhash, hfingerprint ▸ hbundleFingerprint⟩
    rw [HandlerPhase.stored?, hslot]
    dsimp only
    rw [if_pos hslotValid, hbundle]
    rfl

/-- A `SET` that finds its own slot records its own entry. -/
theorem appended?_of_own {d : DaemonState} {slot : CacheSlot} (hvalid : fingerprint.isValid = true)
    (hslot : d.slots.lookup key = some slot) (hwell : slot.WellAddressed ext.sha3)
    (hvalue : slot.value = value) (hfingerprint : slot.fingerprint = fingerprint) :
  ∃ entry, (HandlerPhase.setLog key).appended? ext cfg amb d = some entry ∧
    IsEntryOf ext cfg key value fingerprint entry
  := by
  have hslotValid : slot.hasValidFingerprint = true := by
    rw [CacheSlot.hasValidFingerprint, hfingerprint, hvalid]
  rw [HandlerPhase.appended?, HandlerPhase.event?, hslot]
  refine ⟨_, rfl, ?_⟩
  rw [IsEntryOf, AuditLog.newEntry, hwell, hvalue, hfingerprint, hslotValid, Bool.and_true]

/-- A `SET` that finds its own slot when it looks it up makes progress with its step. -/
theorem Progress.step (h : Progress ext cfg key value fingerprint phase bundles entries)
    (hvalid : fingerprint.isValid = true)
    (hslots : ∀ key slot, s.daemon.slots.lookup key = some slot → slot.WellAddressed ext.sha3)
    (hown : phase.looksUp = true → ∃ slot ∈ s.daemon.slots.lookup key,
      slot.value = value ∧ slot.fingerprint = fingerprint)
    (hstep : s.stepHandler ext cfg amb i phase = some s') :
  ∃ new, s'.handlers = s.handlers.set i new ∧
    Progress ext cfg key value fingerprint new
      (bundles ++ (phase.stored? ext cfg amb s.daemon).toList)
      (entries ++ (phase.appended? ext cfg amb s.daemon).toList)
  := by
  cases h with
  | inserts =>
    obtain rfl := Option.some.inj hstep
    exact ⟨_, rfl, .persists⟩
  | persists =>
    obtain ⟨slot, hslot, hvalue, hfingerprint⟩ := hown rfl
    rw [ConcurrentState.stepHandler] at hstep
    split at hstep
    · rename_i daemon hpersist
      obtain rfl := Option.some.inj hstep
      obtain ⟨bundle, hbundle, hown⟩ := stored?_of_own hvalid hslot hvalue hfingerprint hpersist
      rw [hbundle]
      exact ⟨_, rfl, .sets hown⟩
    · cases hstep
  | sets hbundle =>
    obtain rfl := Option.some.inj hstep
    exact ⟨_, rfl, .logs hbundle⟩
  | logs hbundle =>
    obtain ⟨slot, hslot, hvalue, hfingerprint⟩ := hown rfl
    obtain rfl := Option.some.inj hstep
    obtain ⟨entry, hentry, hown⟩ : ∃ entry,
        (HandlerPhase.setLog key).appended? ext cfg amb s.daemon = some entry ∧
        IsEntryOf ext cfg key value fingerprint entry :=
      appended?_of_own hvalid hslot (hslots key slot hslot) hvalue hfingerprint
    rw [hentry]
    exact ⟨_, rfl, .done hbundle hown⟩
  | done hbundle hentry => cases hstep

/-- A `SET` that is done has put one bundle and appended one entry, and both are its own. -/
theorem Progress.of_done (h : Progress ext cfg key value fingerprint .done bundles entries) :
  ∃ bundle entry, bundles = [bundle] ∧ entries = [entry] ∧
    IsBundleOf ext value fingerprint bundle ∧ IsEntryOf ext cfg key value fingerprint entry
  := by
  cases h with
  | done hbundle hentry => exact ⟨_, _, rfl, rfl, hbundle, hentry⟩

end Progress

/-! ### Runs -/

namespace RecordedState

variable {ext : Externals} {cfg : DaemonConfig} {s s' : RecordedState} {e : ConcurrentEvent}

/-- Every `SET` with a valid fingerprint has made the records of its progress. -/
structure Attributed (ext : Externals) (cfg : DaemonConfig) (s : RecordedState) : Prop where
  length : s.commands.length = s.concurrent.handlers.length
  stored : ∀ item ∈ s.stored, item.1 < s.commands.length
  recorded : ∀ item ∈ s.recorded, item.1 < s.commands.length
  slots : ∀ key slot, s.daemon.slots.lookup key = some slot → slot.WellAddressed ext.sha3
  progress : ∀ i key value fingerprint phase,
    s.commands[i]? = some (.setInsert key value fingerprint) → fingerprint.isValid = true →
    s.concurrent.handlers[i]? = some phase →
    Progress ext cfg key value fingerprint phase (itemsOf s.stored i) (itemsOf s.recorded i)

/-- A command that starts has no records. -/
theorem Attributed.start (h : s.Attributed ext cfg) {concurrent : ConcurrentState}
    {command : HandlerPhase} (hhandlers : concurrent.handlers = s.concurrent.handlers ++ [command])
    (hdaemon : concurrent.daemon = s.daemon) :
  Attributed ext cfg ⟨concurrent, s.commands ++ [command], s.stored, s.recorded⟩
  := by
  constructor
  · simp only [hhandlers, List.length_append, h.length, List.length_singleton]
  · intro item hitem
    rw [List.length_append]
    apply Nat.lt_add_right _ (h.stored item hitem)
  · intro item hitem
    rw [List.length_append]
    apply Nat.lt_add_right _ (h.recorded item hitem)
  · rw [daemon, hdaemon]
    apply h.slots
  · intro i key value fingerprint phase hcommand hvalid hphase
    simp only [hhandlers] at hphase
    rcases Nat.lt_trichotomy i s.commands.length with hlt | rfl | hgt
    · rw [List.getElem?_append_left hlt] at hcommand
      rw [List.getElem?_append_left (h.length ▸ hlt)] at hphase
      apply h.progress i key value fingerprint phase hcommand hvalid hphase
    · rw [List.getElem?_concat_length] at hcommand
      rw [h.length, List.getElem?_concat_length] at hphase
      obtain rfl := Option.some.inj hcommand
      obtain rfl := Option.some.inj hphase
      rw [itemsOf_eq_nil fun item hitem => (h.stored item hitem).ne,
        itemsOf_eq_nil fun item hitem => (h.recorded item hitem).ne]
      apply Progress.inserts
    · rw [List.getElem?_eq_none (by simpa using hgt)] at hcommand
      cases hcommand

/-- A handler that goes on numbers its records with its number. -/
theorem Attributed.stepHandler (h : s.Attributed ext cfg) {concurrent : ConcurrentState} {i : ℕ}
    {amb : Ambient} {phase : HandlerPhase} (hi : s.concurrent.handlers[i]? = some phase)
    (hfinds : s.FindsOwn (.step i amb))
    (hstep : s.concurrent.stepHandler ext cfg amb i phase = some concurrent) :
  Attributed ext cfg ⟨concurrent, s.commands,
    s.stored ++ (phase.stored? ext cfg amb s.daemon).toList.map (i, ·),
    s.recorded ++ (phase.appended? ext cfg amb s.daemon).toList.map (i, ·)⟩
  := by
  obtain ⟨⟨new, hhandlers⟩, -, -, hslots⟩ := ConcurrentState.stepHandler_eq_some hstep
  have hlt : i < s.commands.length := by
    rw [h.length]
    apply (List.getElem?_eq_some_iff.mp hi).1
  constructor
  · rw [hhandlers, List.length_set]
    apply h.length
  · intro item hitem
    rcases List.mem_append.mp hitem with hitem | hitem
    · apply h.stored item hitem
    · obtain ⟨bundle, -, rfl⟩ := List.mem_map.mp hitem
      apply hlt
  · intro item hitem
    rcases List.mem_append.mp hitem with hitem | hitem
    · apply h.recorded item hitem
    · obtain ⟨entry, -, rfl⟩ := List.mem_map.mp hitem
      apply hlt
  · intro key slot hslot
    rcases hslots key slot hslot with hslot | hwell
    · apply h.slots key slot hslot
    · apply hwell
  · intro j key value fingerprint phase' hcommand hvalid hphase
    by_cases hj : j = i
    · subst hj
      have hprogress := h.progress j key value fingerprint phase hcommand hvalid hi
      have hown : phase.looksUp = true → ∃ slot ∈ s.daemon.slots.lookup key,
          slot.value = value ∧ slot.fingerprint = fingerprint :=
        fun hlooksUp => hfinds phase hi hlooksUp _ hcommand hvalid
      obtain ⟨new', hhandlers', hnew'⟩ := hprogress.step hvalid h.slots hown hstep
      simp only [hhandlers', List.getElem?_set_self (h.length ▸ hlt)] at hphase
      obtain rfl := Option.some.inj hphase
      rw [itemsOf_append, itemsOf_append, itemsOf_map_self, itemsOf_map_self]
      apply hnew'
    · simp only [hhandlers, List.getElem?_set_ne (Ne.symm hj)] at hphase
      rw [itemsOf_append_map_ne hj, itemsOf_append_map_ne hj]
      apply h.progress j key value fingerprint phase' hcommand hvalid hphase

/-- An event in which every `SET` finds its own slot keeps the records attributed. -/
theorem Attributed.step (h : s.Attributed ext cfg) (hfinds : s.FindsOwn e)
    (hstep : s.step ext cfg e = some s') :
  s'.Attributed ext cfg
  := by
  obtain ⟨concurrent, hconcurrent, hs'⟩ := Option.bind_eq_some_iff.mp hstep
  obtain rfl := Option.some.inj hs'
  cases e with
  | startSet _ _ _ | startDel _ | startGetVerified _ =>
    obtain rfl := Option.some.inj hconcurrent
    simp only [ConcurrentState.stores, ConcurrentState.records, ConcurrentEvent.command?,
      Option.toList_some, List.append_nil]
    apply h.start
    · rfl
    · rfl
  | step i amb =>
    obtain ⟨phase, hi, hphase⟩ := ConcurrentState.exists_phase_of_step hconcurrent
    simp only [ConcurrentState.stores, ConcurrentState.records, ConcurrentEvent.command?, hi,
      Option.bind_some, Option.toList_none, List.append_nil]
    apply h.stepHandler hi hfinds hphase
  | evict key =>
    obtain rfl := Option.some.inj hconcurrent
    simp only [ConcurrentState.stores, ConcurrentState.records, ConcurrentEvent.command?,
      Option.toList_none, List.append_nil]
    exact ⟨h.length, h.stored, h.recorded, h.slots, h.progress⟩

/-- If the hashes of a log fit in memory and the entries are read back from their texts, the log is
complete and has the entries in addition to those of the log before. -/
def Extends (ext : Externals) (before log : AuditLog) (entries : List AuditEntry) : Prop :=
  log.merkleLeaves.length ≤ maxLeaves →
    (∀ entry ∈ entries, ext.auditJson.entry.RoundTripsAt entry) →
    log.IsComplete ext.sha3 ext.auditJson ∧
      log.exportAll ext.auditJson = before.exportAll ext.auditJson ++ entries

/-- A log that appends an entry is extended by it. -/
theorem Extends.log {before : AuditLog} {d : DaemonState} {entries : List AuditEntry}
    {amb : Ambient} (h : Extends ext before d.auditLog entries) (haudit : amb.auditFault = none)
    (event : AuditEventType) :
  Extends ext before (d.log ext amb event).auditLog
    (entries ++ [d.auditLog.newEntry ext.sha3 ext.auditJson amb.auditNow event])
  := by
  intro hfits hread
  have hle : d.auditLog.merkleLeaves.length ≤ (d.log ext amb event).auditLog.merkleLeaves.length :=
    length_leaves_le_append d.auditLog event
  obtain ⟨hcomplete, hentries⟩ := h (hle.trans hfits) fun entry hentry =>
    hread entry (List.mem_append_left _ hentry)
  rw [DaemonState.log, haudit] at hfits ⊢
  obtain ⟨hcomplete', hentries'⟩ := hcomplete.append amb.auditNow event
    (hread _ (List.mem_append_right _ (List.mem_singleton_self _))) hfits
  use hcomplete'
  rw [hentries', hentries, List.append_assoc]

/-- The content store and the audit log are what the recorded bundles and entries have made of those
of the daemon that was started. -/
structure Kept (ext : Externals) (start : DaemonState) (s : RecordedState) : Prop where
  contentStore : s.daemon.contentStore = start.contentStore.performAll ext.sha3 ext.identityJson
    (s.stored.map fun item => .put none item.2)
  auditLog : Extends ext start.auditLog s.daemon.auditLog (s.recorded.map Prod.snd)

variable {start : DaemonState}

/-- A handler that goes on puts its bundle and appends its entry. -/
theorem Kept.stepHandler (h : s.Kept ext start) {concurrent : ConcurrentState} {i : ℕ}
    {amb : Ambient} {phase : HandlerPhase} (hput : amb.putFault = none)
    (haudit : amb.auditFault = none)
    (hstep : s.concurrent.stepHandler ext cfg amb i phase = some concurrent) :
  Kept ext start ⟨concurrent, s.commands,
    s.stored ++ (phase.stored? ext cfg amb s.daemon).toList.map (i, ·),
    s.recorded ++ (phase.appended? ext cfg amb s.daemon).toList.map (i, ·)⟩
  := by
  obtain ⟨-, hstore, hlog, -⟩ := ConcurrentState.stepHandler_eq_some hstep
  constructor
  · have hbefore := h.contentStore
    simp only [daemon, ContentStore.performAll] at hbefore hstore ⊢
    rw [hstore, hput, hbefore, List.map_append, List.foldl_append, List.map_map]
    rfl
  · rw [daemon, hlog, HandlerPhase.appended?, daemon]
    cases phase.event? ext cfg s.concurrent.daemon with
    | none =>
      simp only [Option.map_none, Option.toList_none, List.map_nil, List.append_nil]
      apply h.auditLog
    | some event =>
      simp only [Option.map_some, Option.toList_some, List.map_singleton, List.map_append]
      apply h.auditLog.log haudit

/-- An event in which no write fails keeps the records. -/
theorem Kept.step (h : s.Kept ext start) (hsucceeds : e.Succeeds)
    (hstep : s.step ext cfg e = some s') :
  s'.Kept ext start
  := by
  obtain ⟨concurrent, hconcurrent, hs'⟩ := Option.bind_eq_some_iff.mp hstep
  obtain rfl := Option.some.inj hs'
  cases e with
  | step i amb =>
    obtain ⟨phase, hi, hphase⟩ := ConcurrentState.exists_phase_of_step hconcurrent
    simp only [ConcurrentState.stores, ConcurrentState.records, ConcurrentEvent.command?, hi,
      Option.bind_some, Option.toList_none, List.append_nil]
    apply h.stepHandler hsucceeds.1 hsucceeds.2 hphase
  | _ =>
    obtain rfl := Option.some.inj hconcurrent
    simp only [ConcurrentState.stores, ConcurrentState.records, List.append_nil]
    exact ⟨h.contentStore, h.auditLog⟩

/-- The handlers of a run are those of the run without records. -/
theorem run_concurrent (s : RecordedState) (events : List ConcurrentEvent) :
  (run (RecordedState.step ext cfg) s events).map concurrent
    = run (ConcurrentState.step ext cfg) s.concurrent events
  := by
  induction events generalizing s with
  | nil => rfl
  | cons e events ih =>
    rw [run, run, RecordedState.step]
    cases s.concurrent.step ext cfg e with
    | none => rfl
    | some concurrent => apply ih

/-- From a daemon whose slots are well addressed and whose log is complete, in every run without
failed writes in which every `SET` with a valid fingerprint finds its own slot when it stores its
bundle and when it records its entry: the log has the recorded entries in addition to the old ones,
the content store is what the stored bundles have made of the old one, and every `SET` with a valid
fingerprint that is done has recorded exactly one entry, with its own address and digest, and stored
exactly one bundle, with the hash of its own value and with its own fingerprint. -/
theorem recorded_of_run {events : List ConcurrentEvent}
    (hslots : ∀ key slot, start.slots.lookup key = some slot → slot.WellAddressed ext.sha3)
    (hlog : start.auditLog.IsComplete ext.sha3 ext.auditJson)
    (hsucceeds : ∀ e ∈ events, e.Succeeds)
    (hfinds : MeetsAlong (RecordedState.step ext cfg) FindsOwn (initial start) events)
    (hrun : run (RecordedState.step ext cfg) (initial start) events = some s)
    (hfits : s.daemon.auditLog.merkleLeaves.length ≤ maxLeaves)
    (hread : ∀ item ∈ s.recorded, ext.auditJson.entry.RoundTripsAt item.2) :
  s.daemon.auditLog.exportAll ext.auditJson
      = start.auditLog.exportAll ext.auditJson ++ s.recorded.map Prod.snd ∧
    s.daemon.contentStore = start.contentStore.performAll ext.sha3 ext.identityJson
      (s.stored.map fun item => .put none item.2) ∧
    ∀ i key value fingerprint, s.commands[i]? = some (.setInsert key value fingerprint) →
      fingerprint.isValid = true → s.concurrent.handlers[i]? = some .done →
      (∃ entry, itemsOf s.recorded i = [entry] ∧
        entry.event = .entryCreated key
          (hexEncode (CacheSlot.computeContentAddress ext.sha3 value fingerprint).1)
          (hexEncode (fingerprint.digest ext.sha3).1) cfg.pqKeys.isSome) ∧
      ∃ bundle, itemsOf s.stored i = [bundle] ∧ bundle.contentHash = ext.sha3 value ∧
        bundle.computationFingerprint = fingerprint
  := by
  have hattributed : s.Attributed ext cfg := by
    apply run_invariant (fun _ _ _ h hfinds hstep => h.step hfinds hstep) _ hfinds hrun
    constructor
    · rfl
    · intro item hitem
      cases hitem
    · intro item hitem
      cases hitem
    · apply hslots
    · intro i key value fingerprint phase hcommand
      cases hcommand
  have hkept : s.Kept ext start := by
    apply run_invariant (fun _ _ _ h hsucceeds hstep => h.step hsucceeds hstep) _
      (meetsAlong_of_forall hsucceeds _) hrun
    constructor
    · rfl
    · intro _ _
      use hlog
      simp [initial, daemon, ConcurrentState.initial]
  refine ⟨(hkept.auditLog hfits ?_).2, hkept.contentStore, ?_⟩
  · intro entry hentry
    obtain ⟨item, hitem, rfl⟩ := List.mem_map.mp hentry
    apply hread item hitem
  · intro i key value fingerprint hcommand hvalid hdone
    have hprogress := hattributed.progress i key value fingerprint .done hcommand hvalid hdone
    obtain ⟨bundle, entry, hbundles, hentries, hbundle, hentry⟩ := hprogress.of_done
    exact ⟨⟨entry, hentries, hentry⟩, bundle, hbundles, hbundle.contentHash, hbundle.fingerprint⟩

/-! ### A lost record -/

/-- The creation of the slot of `k` with the value `v` and a valid fingerprint. -/
def attestedEvent : AuditEventType :=
  .entryCreated "k"
    (hexEncode (CacheSlot.computeContentAddress primeHash (asBytes "v")
      ConcurrentState.onesFingerprint).1)
    (hexEncode (ConcurrentState.onesFingerprint.digest primeHash).1) true

/-- The JSON text of this event. -/
def attestedText : Bytes :=
  asBytes ("\x7b\"EntryCreated\":\x7b\"key\":\"k\",\"content_address\":\""
    ++ hexEncode (CacheSlot.computeContentAddress primeHash (asBytes "v")
      ConcurrentState.onesFingerprint).1
    ++ "\",\"fingerprint_digest\":\""
    ++ hexEncode (ConcurrentState.onesFingerprint.digest primeHash).1
    ++ "\",\"signed\":true\x7d\x7d")

/-- The entry of this event, as the first one of a log. -/
def attestedEntry : AuditEntry where
  sequence := 0
  prevHash := Block.zero 32
  hash := primeHash ((Block.zero 32).1 ++ (beBytes 8 1 ++ (beBytes 8 0 ++ attestedText)))
  timestampNs := 1
  event := attestedEvent
  issuerId := "node"

/-- The codecs of this event and of its entry. -/
def attestedExternals : Externals :=
  { plainExternals with
    auditJson :=
      { event := .only attestedEvent attestedText
        entry := .only attestedEntry (entryText attestedEntry attestedText)
        history := fun _ => .error "unsupported" } }

/-- A `SET` of `k`, and a `DEL` that removes its slot before the `SET` looks it up. -/
def lostRun : List ConcurrentEvent :=
  [.startSet "k" (asBytes "v") ConcurrentState.onesFingerprint, .startDel "k",
    .step 0 plainAmbient, .step 1 plainAmbient, .step 1 plainAmbient, .step 0 plainAmbient,
    .step 0 plainAmbient, .step 0 plainAmbient, .step 1 plainAmbient]

/-- No write fails, both handlers are done, and the `SET` has a valid fingerprint; but it has
stored no bundle and recorded no entry. -/
theorem lost_lostRun :
  ConcurrentState.onesFingerprint.isValid = true ∧ (∀ e ∈ lostRun, e.Succeeds) ∧
    (run (RecordedState.step attestedExternals plainConfig) (initial (.empty "node")) lostRun).map
      (fun s => (s.commands[0]?, s.concurrent.handlers, (itemsOf s.stored 0).length,
        (itemsOf s.recorded 0).length))
      = some (some (.setInsert "k" (asBytes "v") ConcurrentState.onesFingerprint),
        [.done, .done], 0, 0)
  := by
  refine ⟨?_, ?_, ?_⟩
  · decide +kernel
  · decide +kernel
  · decide +kernel

/-- The same `SET` with a `DEL` of another key. -/
def keptRun : List ConcurrentEvent :=
  [.startSet "k" (asBytes "v") ConcurrentState.onesFingerprint, .startDel "l",
    .step 0 plainAmbient, .step 1 plainAmbient, .step 1 plainAmbient, .step 0 plainAmbient,
    .step 0 plainAmbient, .step 0 plainAmbient, .step 1 plainAmbient]

/-- After this run, the log has the entry of the `SET`, and one bundle of its value and its
fingerprint has been stored. -/
theorem recorded_keptRun :
  ∃ s bundle, run (RecordedState.step attestedExternals plainConfig) (initial (.empty "node"))
      keptRun = some s ∧
    s.daemon.auditLog.exportAll attestedExternals.auditJson = [attestedEntry] ∧
    itemsOf s.stored 0 = [bundle] ∧ bundle.contentHash = primeHash (asBytes "v") ∧
    bundle.computationFingerprint = ConcurrentState.onesFingerprint
  := by
  have hsucceeds : ∀ e ∈ keptRun, e.Succeeds := by
    decide +kernel
  have hvalid : ConcurrentState.onesFingerprint.isValid = true := by
    decide +kernel
  have hfinds : MeetsAlong (RecordedState.step attestedExternals plainConfig) FindsOwn
      (initial (.empty "node")) keptRun := by
    decide +kernel
  have hmap : (run (RecordedState.step attestedExternals plainConfig) (initial (.empty "node"))
      keptRun).map (fun s => (s.recorded, s.commands[0]?, s.concurrent.handlers,
        s.daemon.auditLog.merkleLeaves.length)) = some ([(0, attestedEntry)],
        some (.setInsert "k" (asBytes "v") ConcurrentState.onesFingerprint), [.done, .done], 1) := by
    decide +kernel
  obtain ⟨s, hrun, hs⟩ := Option.map_eq_some_iff.mp hmap
  obtain ⟨hrecorded, hs⟩ := Prod.mk.inj hs
  obtain ⟨hcommand, hs⟩ := Prod.mk.inj hs
  obtain ⟨hhandlers, hleaves⟩ := Prod.mk.inj hs
  have hfits : s.daemon.auditLog.merkleLeaves.length ≤ maxLeaves := by
    rw [hleaves]
    decide
  have hread : ∀ item ∈ s.recorded,
      attestedExternals.auditJson.entry.RoundTripsAt item.2 := by
    intro item hitem
    rw [hrecorded, List.mem_singleton] at hitem
    rw [hitem]
    apply JsonCodec.roundTripsAt_only
  obtain ⟨hentries, -, hown⟩ := recorded_of_run (by rintro key slot ⟨⟩)
    (AuditLog.isComplete_fresh "node") hsucceeds hfinds hrun hfits hread
  have hdone : s.concurrent.handlers[0]? = some .done := by
    rw [hhandlers]
    rfl
  obtain ⟨-, bundle, hbundle, hhash, hfingerprint⟩ := hown 0 _ _ _ hcommand hvalid hdone
  refine ⟨s, bundle, hrun, ?_, hbundle, hhash, hfingerprint⟩
  rw [hentries, hrecorded]
  rfl

end RecordedState

end Cachee
