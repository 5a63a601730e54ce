import Cachee.Daemon.Lifetime

/-!
# What a daemon inherits

A daemon that is started again has the bundles of its earlier lives, and slots that are rebuilt from
them.  With required authentication, every bundle in every life was asked for by a connection with a
key that may write, in this life or an earlier one; and every address that was flushed is held in
all later lives.
-/

open Text

namespace Cachee

/-! ### Origins in earlier lives -/

section Origins

variable (ext : Externals) (lines : List (DaemonConfig × PassedLine))

/-- A connection with a registered key that may write has asked for the words in a life with the
settings. -/
def AuthorizedIn (cfg : DaemonConfig) (parts : List String) : Prop :=
  ∃ line, (cfg, line) ∈ lines ∧ words line.data = parts ∧ ∃ secret entry,
    line.accepted = some (secret, entry) ∧ ext.sha3 (asBytes secret) ∈ line.registry ∧
    entry.canWrite = true

/-- What is held under the address is the bundle of a slot that was made for an authorized `SET` in
some life. -/
def BundleOfLife (address bytes : Bytes) : Prop :=
  ∃ cfg key slot seeds bundle, SlotOfSet ext cfg (AuthorizedIn ext lines cfg) key slot ∧
    slot.hasValidFingerprint = true ∧
    slotToBundle ext seeds slot cfg.pqKeys cfg.issuerId = .ok bundle ∧
    address = (bundle.contentAddress ext.sha3).1 ∧ bytes = bundle.serialize ext.identityJson

/-- The slot was rebuilt from the bundle that was read under an address, and is filed under the
first half of this address. -/
def RebuiltSlot (key : String) (slot : CacheSlot) : Prop :=
  ∃ address bytes bundle amb defaultTtl, BundleOfLife ext lines address.1 bytes ∧
    CacheeArchiveBundle.deserialize ext.identityJson bytes = .ok bundle ∧
    key = coldStartKey address ∧
    slot = coldStartSlot ext amb defaultTtl bundle.computationFingerprint

/-- What a daemon was started with: no values, the bundles of earlier lives, and slots that were
rebuilt from them. -/
structure Inherited (start : DaemonState) : Prop where
  engine : start.engine = ∅
  slots : ∀ key slot, start.slots.lookup key = some slot → RebuiltSlot ext lines key slot
  bundles : ∀ address bytes, start.contentStore.db[address]? = some bytes →
    BundleOfLife ext lines address bytes

end Origins

variable {ext : Externals} {lines lines' : List (DaemonConfig × PassedLine)} {cfg : DaemonConfig}
  {start : DaemonState} {address bytes : Bytes} {key : String} {slot : CacheSlot}

section Mono

variable (h : lines ⊆ lines')

include h

theorem AuthorizedIn.mono {parts : List String} (hparts : AuthorizedIn ext lines cfg parts) :
  AuthorizedIn ext lines' cfg parts
  := by
  obtain ⟨line, hline, hwords, hkey⟩ := hparts
  exact ⟨line, h hline, hwords, hkey⟩

theorem BundleOfLife.mono (hbundle : BundleOfLife ext lines address bytes) :
  BundleOfLife ext lines' address bytes
  := by
  obtain ⟨cfg, key, slot, seeds, bundle, hslot, hbundle⟩ := hbundle
  refine ⟨cfg, key, slot, seeds, bundle, hslot.mono ?_, hbundle⟩
  intro parts hparts _
  apply hparts.mono h

/-- What a daemon was started with stays inherited when more lines have been passed. -/
theorem Inherited.mono (hstart : Inherited ext lines start) :
  Inherited ext lines' start
  := by
  refine ⟨hstart.engine, ?_, ?_⟩
  · intro key slot hslot
    obtain ⟨address, bytes, bundle, amb, ttl, hbundle, hslot⟩ := hstart.slots key slot hslot
    exact ⟨address, bytes, bundle, amb, ttl, hbundle.mono h, hslot⟩
  · intro address bytes hbytes
    apply (hstart.bundles address bytes hbytes).mono h

end Mono

/-! ### Cold start -/

/-- A step of the cold start leaves the slots as they are, or makes one for the bundle that it
reads. -/
theorem rebuildSlot_eq_ok {amb : Ambient} {defaultTtl : ℕ} {store : ContentStore}
    {slots slots' : AList fun _ : String => CacheSlot} {address : Block 32}
    (h : rebuildSlot ext amb defaultTtl store slots address = .ok slots') :
  slots' = slots ∨ ∃ bytes bundle, store.db[address.1]? = some bytes ∧
    CacheeArchiveBundle.deserialize ext.identityJson bytes = .ok bundle ∧
    slots' = slots.insert (coldStartKey address)
      (coldStartSlot ext amb defaultTtl bundle.computationFingerprint)
  := by
  obtain ⟨found, hfound, h⟩ := bind_eq_ok_iff.mp h
  cases found with
  | none =>
    left
    apply (Except.ok.inj h).symm
  | some bundle =>
    right
    cases hfault : amb.getFault with
    | some e =>
      rw [hfault] at hfound
      cases hfound
    | none =>
      rw [hfault] at hfound
      have hget : store.get ext.identityJson none address = .ok (some bundle) := by
        cases hresult : store.get ext.identityJson none address with
        | ok found =>
          rw [hresult, unwrapOr_ok] at hfound
          rw [Except.ok.inj hfound]
        | error e =>
          rw [hresult] at hfound
          cases e with
          | error msg => cases hfound
          | panic => cases hfound
      obtain ⟨bytes, hbytes, hread⟩ := ContentStore.get_eq_some_iff.mp hget
      exact ⟨bytes, bundle, hbytes, hread, (Except.ok.inj h).symm⟩

/-- All slots after a cold start are rebuilt from what the store holds. -/
theorem rebuiltSlot_of_coldStart {found : Block 32 → Ambient} {defaultTtl : ℕ}
    {store : ContentStore} {slots : AList fun _ : String => CacheSlot}
    (hstore : ∀ address bytes, store.db[address]? = some bytes →
      BundleOfLife ext lines address bytes)
    (h : coldStart ext found defaultTtl store = .ok slots) :
  ∀ key slot, slots.lookup key = some slot → RebuiltSlot ext lines key slot
  := by
  refine foldlM_invariant (p := fun slots : AList fun _ : String => CacheSlot =>
    ∀ key slot, slots.lookup key = some slot → RebuiltSlot ext lines key slot) ?_ ?_ h
  · intro address _ slots₁ slots₂ hslots₁ hstep
    rcases rebuildSlot_eq_ok hstep with rfl | ⟨bytes, bundle, hbytes, hread, rfl⟩
    · apply hslots₁
    · intro key slot hslot
      rcases lookup_insert_eq_some.mp hslot with ⟨rfl, rfl⟩ | ⟨-, hslot⟩
      · exact ⟨address, bytes, bundle, found address, defaultTtl, hstore _ _ hbytes, hread, rfl, rfl⟩
      · apply hslots₁ key slot hslot
  · intro key slot hslot
    cases hslot

/-! ### The bundles of a server -/

/-- What a guarded gate has passed for a change is authorized in this life. -/
theorem authorizedIn_of_guarded {s : Server} (hguarded : s.gate.Guarded ext.sha3)
    (hlines : ∀ line ∈ s.gate.passed, (cfg, line) ∈ lines) {parts : List String}
    (hasked : s.Asked parts) (hcommand : commandOf parts ∈ changeCommands) :
  AuthorizedIn ext lines cfg parts
  := by
  obtain ⟨line, hline, hwords, hkey⟩ := Server.authorized_of_guarded hguarded hasked hcommand
  exact ⟨line, hlines line hline, hwords, hkey⟩

/-- What the content store of a server holds comes from this life or an earlier one. -/
theorem bundleOfLife_of_traced {s : Server} (htraced : s.Traced ext cfg start)
    (hguarded : s.gate.Guarded ext.sha3) (hstart : Inherited ext lines start)
    (hlines : ∀ line ∈ s.gate.passed, (cfg, line) ∈ lines)
    (hbytes : s.daemon.contentStore.db[address]? = some bytes) :
  BundleOfLife ext lines address bytes
  := by
  rcases htraced.daemon.bundles address bytes hbytes with hheld |
    ⟨key, slot, seeds, bundle, hslot, hbundle⟩
  · apply hstart.bundles address bytes hheld
  · refine ⟨cfg, key, slot, seeds, bundle, hslot.mono ?_, hbundle⟩
    intro parts hasked hcommand
    apply authorizedIn_of_guarded hguarded hlines hasked hcommand

namespace Lifetime

variable {s s' : Lifetime} {e : LifetimeEvent} {requireAuth : Bool}

/-! ### All lives -/

/-- A daemon that is running started with what it inherited, and has served lines that passed its
gate; its content store is one that may be found; and all that may be found comes from some life. -/
structure Sound (ext : Externals) (s : Lifetime) : Prop where
  running : ∀ daemon, s.running = some daemon → daemon.server.gate.Guarded ext.sha3 ∧
    daemon.server.daemon.contentStore.db ∈ s.storeDisk ∧
    ∃ start, daemon.server.Traced ext daemon.cfg start ∧ Inherited ext s.lines start
  disk : ∀ db ∈ s.storeDisk, ∀ address bytes : Bytes, db[address]? = some bytes →
    BundleOfLife ext s.lines address bytes

/-- The lines of earlier lives, and those of the daemon that is running. -/
theorem mem_lines {line : DaemonConfig × PassedLine} :
  line ∈ s.lines ↔ line ∈ s.past ∨ ∃ daemon, s.running = some daemon ∧
    line.1 = daemon.cfg ∧ line.2 ∈ daemon.server.gate.passed
  := by
  obtain ⟨cfg, line⟩ := line
  rw [lines, List.mem_append]
  cases s.running with
  | none => simp
  | some daemon =>
    simp only [List.mem_map, Prod.mk.injEq, Option.some.injEq, exists_eq_left']
    constructor
    · rintro (hpast | ⟨line', hline', rfl, rfl⟩)
      · left
        apply hpast
      · right
        exact ⟨rfl, hline'⟩
    · rintro (hpast | ⟨rfl, hline⟩)
      · left
        apply hpast
      · right
        exact ⟨line, hline, rfl, rfl⟩

/-- No line is forgotten. -/
theorem lines_subset (hstep : LifetimeStep ext requireAuth s e s') :
  s.lines ⊆ s'.lines
  := by
  intro line hline
  rw [mem_lines] at hline ⊢
  cases hstep with
  | @serve e daemon server hrunning hserver hfits =>
    rcases hline with hpast | ⟨daemon', hdaemon', hcfg, hline⟩
    · left
      apply hpast
    · obtain rfl := Option.some.inj (hrunning.symm.trans hdaemon')
      right
      exact ⟨_, rfl, hcfg, Server.passed_subset hserver hline⟩
  | kill =>
    left
    apply mem_lines.mpr hline
  | start hrunning hstore hlog hopen hstart hfits =>
    rcases hline with hpast | ⟨daemon', hdaemon', -⟩
    · left
      apply hpast
    · rw [hrunning] at hdaemon'
      cases hdaemon'

/-- The store of a daemon may be found after it has changed, and whatever else may be found then
could be found before. -/
theorem mem_storeDiskAfter {disk : List Database} {before after : ContentStore} {db : Database}
    (h : db ∈ storeDiskAfter disk before after) :
  db ∈ disk ∨ db = after.db
  := by
  rw [storeDiskAfter] at h
  split at h
  · rcases List.mem_append.mp h with h | h
    · left
      apply h
    · right
      apply List.mem_singleton.mp h
  · right
    apply List.mem_singleton.mp h

theorem db_mem_storeDiskAfter (disk : List Database) (before after : ContentStore) :
  after.db ∈ storeDiskAfter disk before after
  := by
  rw [storeDiskAfter]
  split
  · apply List.mem_append_right _ (List.mem_singleton_self _)
  · apply List.mem_singleton_self

/-- With required authentication, every event keeps the lifetime sound. -/
theorem Sound.step (h : s.Sound ext) (hstep : LifetimeStep ext true s e s') :
  s'.Sound ext
  := by
  have hlines := lines_subset hstep
  cases hstep with
  | @serve e daemon server hrunning hserver hfits =>
    obtain ⟨hguarded, -, start, htraced, hstart⟩ := h.running daemon hrunning
    have hguarded' := Server.guarded_of_step hguarded hserver
    have htraced' := htraced.step hserver
    have hstart' := hstart.mono hlines
    constructor
    · intro daemon' hdaemon'
      obtain rfl := Option.some.inj hdaemon'
      exact ⟨hguarded', db_mem_storeDiskAfter _ _ _, start, htraced', hstart'⟩
    · intro db hdb address bytes hbytes
      rcases mem_storeDiskAfter hdb with hdb | rfl
      · apply (h.disk db hdb address bytes hbytes).mono hlines
      · apply bundleOfLife_of_traced htraced' hguarded' hstart' _ hbytes
        intro line hline
        apply mem_lines.mpr
        right
        exact ⟨_, rfl, rfl, hline⟩
  | kill =>
    constructor
    · rintro daemon ⟨⟩
    · intro db hdb address bytes hbytes
      apply (h.disk db hdb address bytes hbytes).mono hlines
  | @start i j startup storeDb logDb opened daemon hrunning hstore hlog hopen hstart hfits =>
    obtain ⟨-, hengine, hcontentStore, hslots, -⟩ := startDaemon_eq_ok hstart
    have hheld : ∀ address bytes : Bytes, storeDb[address]? = some bytes →
        BundleOfLife ext s.lines address bytes := h.disk storeDb hstore
    constructor
    · intro daemon' hdaemon'
      obtain rfl := Option.some.inj hdaemon'
      refine ⟨GateState.guarded_initial _, ?_, daemon, Server.traced_initial _ _ _ _, ?_⟩
      · rw [Server.initial, hcontentStore]
        apply List.mem_singleton_self
      · apply Inherited.mono hlines
        refine ⟨hengine, rebuiltSlot_of_coldStart hheld hslots, ?_⟩
        rw [hcontentStore]
        apply hheld
    · intro db hdb address bytes hbytes
      obtain rfl := List.mem_singleton.mp hdb
      apply (hheld address bytes hbytes).mono hlines

/-- Before the first start, nothing can be found. -/
theorem sound_initial (ext : Externals) :
  initial.Sound ext
  := by
  constructor
  · rintro daemon ⟨⟩
  · intro db hdb address bytes hbytes
    obtain rfl := List.mem_singleton.mp hdb
    rw [Std.ExtTreeMap.getElem?_empty] at hbytes
    cases hbytes

/-- With required authentication, over all lives of a daemon, which may be killed at any moment and
started on any databases that may be found then, with other settings and other keys: every bundle in
the content store was asked for by a connection with a key that may write, in some life; every slot
was asked for by such a connection in this life, or was rebuilt from such a bundle, and its state is
the one it was made with unless such a connection has retired it in this life; and every value was
asked for by such a connection in this life. -/
theorem origins_of_run {events : List LifetimeEvent} {daemon : RunningDaemon}
    (hrun : run (step ext true) initial events = some s) (hdaemon : s.running = some daemon) :
  let d := daemon.server.daemon
  let authorized := daemon.server.Authorized ext.sha3
  (∀ address bytes, d.contentStore.db[address]? = some bytes →
    BundleOfLife ext s.lines address bytes) ∧
  (∀ key slot, d.slots.lookup key = some slot →
    SlotOfSet ext daemon.cfg authorized key slot ∨
      ∃ origin, RebuiltSlot ext s.lines key origin ∧ RetiredFrom authorized key origin slot) ∧
  ∀ key value, d.engine.lookup key = some value → ∃ parts text fingerprint,
    authorized parts ∧ Sets daemon.cfg parts key text fingerprint ∧ value = asBytes text
  := by
  have hsound : s.Sound ext := by
    apply run_invariant_of_step _ (sound_initial ext) hrun
    intro s₁ e s₂ h hstep
    apply h.step (step_eq_some hstep)
  obtain ⟨hguarded, hmem, start, htraced, hstart⟩ := hsound.running daemon hdaemon
  intro d authorized
  have hsourced : Sourced ext daemon.cfg start authorized d := by
    apply htraced.daemon.mono
    intro parts hasked hcommand
    apply Server.authorized_of_guarded hguarded hasked hcommand
  refine ⟨?_, ?_, ?_⟩
  · intro address bytes hbytes
    apply hsound.disk _ hmem address bytes hbytes
  · intro key slot hslot
    rcases hsourced.slots key slot hslot with ⟨origin, horigin, hretired⟩ | hset
    · right
      exact ⟨origin, hstart.slots key origin horigin, hretired⟩
    · left
      apply hset
  · intro key value hvalue
    rcases hsourced.engine key value hvalue with hheld | hset
    · rw [hstart.engine] at hheld
      cases hheld
    · apply hset

/-- In the last life there is no value, and one slot, which was rebuilt from the bundle of the first
life. -/
theorem origins_nextLives :
  ∃ s daemon, run (step livesExternals true) initial
      (firstLife ++ .serve putStep :: firstReply ++ nextLives) = some s ∧
    s.running = some daemon ∧
    daemon.server.daemon.engine.keys = [] ∧
    daemon.server.daemon.slots.keys
      = [coldStartKey (attestedBundle.contentAddress primeHash)] ∧
    (∀ address bytes, daemon.server.daemon.contentStore.db[address]? = some bytes →
      BundleOfLife livesExternals s.lines address bytes) ∧
    (∀ key slot, daemon.server.daemon.slots.lookup key = some slot →
      SlotOfSet livesExternals daemon.cfg (daemon.server.Authorized livesExternals.sha3) key slot ∨
        ∃ origin, RebuiltSlot livesExternals s.lines key origin ∧
          RetiredFrom (daemon.server.Authorized livesExternals.sha3) key origin slot) ∧
    ∀ key value, daemon.server.daemon.engine.lookup key = some value →
      ∃ parts text fingerprint, daemon.server.Authorized livesExternals.sha3 parts ∧
        Sets daemon.cfg parts key text fingerprint ∧ value = asBytes text
  := by
  have hkeys : (run (step livesExternals true) initial
      (firstLife ++ .serve putStep :: firstReply ++ nextLives)).bind (fun s =>
        s.running.map fun daemon =>
          (daemon.server.daemon.engine.keys, daemon.server.daemon.slots.keys))
      = some ([], [coldStartKey (attestedBundle.contentAddress primeHash)]) := by
    decide +kernel
  obtain ⟨s, hrun, hkeys⟩ := Option.bind_eq_some_iff.mp hkeys
  obtain ⟨daemon, hdaemon, hkeys⟩ := Option.map_eq_some_iff.mp hkeys
  obtain ⟨hvalues, hslots⟩ := Prod.mk.inj hkeys
  exact ⟨s, daemon, hrun, hdaemon, hvalues, hslots, origins_of_run hrun hdaemon⟩

/-! ### Addresses that were flushed -/

/-- The address is held by every database that may be found. -/
def Flushed (s : Lifetime) (address : Bytes) : Prop := ∀ db ∈ s.storeDisk, address ∈ db

/-- The content store of a daemon that is running is one that may be found. -/
def IsShelved (s : Lifetime) : Prop :=
  ∀ daemon, s.running = some daemon → daemon.server.daemon.contentStore.db ∈ s.storeDisk

/-- No address is removed from the content store of a server. -/
theorem mem_db_of_step {start : DaemonState} {server server' : Server} {e : ServerEvent}
    (htraced : server.Traced ext cfg start)
    (hstep : ServerStep ext cfg requireAuth server e server') {address : Bytes}
    (h : address ∈ server.daemon.contentStore.db) :
  address ∈ server'.daemon.contentStore.db
  := by
  cases hstep with
  | gate hadmits hgate hpassed => apply h
  | pass hadmits hgate hpassed =>
    rw [Server.begin, (Server.goOn_gate_daemon _ _ _).2]
    apply h
  | @task i amb line task daemon progress hi hstep =>
    obtain ⟨-, hbelongs, -⟩ := htraced.tasks _ (List.mem_of_getElem? hi)
    rw [(Server.goOn_gate_daemon _ _ _).2]
    have heffect := (Task.effect hbelongs hstep).1
    generalize server.daemon = d at h heffect
    cases heffect with
    | put hkey hslot hvalid hbundle =>
      rcases amb.putFault with _ | (e | e)
      · apply Std.ExtTreeMap.mem_insert.mpr (Or.inr h)
      · apply h
      · apply Std.ExtTreeMap.mem_insert.mpr (Or.inr h)
    | verified response hcommand =>
      obtain ⟨auditLog, hlog⟩ := d.logVerification_eq ext amb _ response
      rw [hlog]
      apply h
    | anchor hcommand =>
      rw [handleAuditAnchor_eq]
      apply h
    | _ => apply h
  | panic hi hstep => apply h
  | evict key => apply h

/-- After every event, the content store of a daemon that is running is one that may be found. -/
theorem isShelved_of_step (hstep : LifetimeStep ext requireAuth s e s') :
  s'.IsShelved
  := by
  intro daemon' hdaemon'
  cases hstep with
  | serve hrunning hserver hfits =>
    obtain rfl := Option.some.inj hdaemon'
    apply db_mem_storeDiskAfter
  | kill => cases hdaemon'
  | start hrunning hstore hlog hopen hstart hfits =>
    obtain rfl := Option.some.inj hdaemon'
    rw [Server.initial, (startDaemon_eq_ok hstart).2.2.1]
    apply List.mem_singleton_self

/-- An address that was flushed stays so. -/
theorem Flushed.step (h : s.Flushed address) (htraced : s.IsTraced ext) (hshelved : s.IsShelved)
    (hstep : LifetimeStep ext requireAuth s e s') :
  s'.Flushed address
  := by
  intro db hdb
  cases hstep with
  | serve hrunning hserver hfits =>
    rcases mem_storeDiskAfter hdb with hdb | rfl
    · apply h db hdb
    · obtain ⟨start, htraced⟩ := htraced _ hrunning
      apply mem_db_of_step htraced hserver
      apply h _ (hshelved _ hrunning)
  | kill => apply h db hdb
  | start hrunning hstore hlog hopen hstart hfits =>
    obtain rfl := List.mem_singleton.mp hdb
    apply h _ hstore

/-- Over all lives of a daemon, whichever writes fail: once a bundle has been stored and flushed,
all addresses that the content store then holds are held by the content store of every later daemon.
-/
theorem mem_db_of_run {before after : List LifetimeEvent} {e : ServerEvent} {s'' : Lifetime}
    {daemon daemon' daemon'' : RunningDaemon}
    (hbefore : run (step ext requireAuth) initial before = some s)
    (hserve : s.step ext requireAuth (.serve e) = some s')
    (hafter : run (step ext requireAuth) s' after = some s'')
    (hdaemon : s.running = some daemon) (hdaemon' : s'.running = some daemon')
    (hdaemon'' : s''.running = some daemon'')
    (hflushed : daemon'.server.daemon.contentStore.count
      ≠ daemon.server.daemon.contentStore.count) :
  ∀ address ∈ daemon'.server.daemon.contentStore.db,
    address ∈ daemon''.server.daemon.contentStore.db
  := by
  intro address haddress
  have hkept : s.IsTraced ext ∧ s.IsShelved := by
    apply run_invariant_of_step _ _ hbefore
    · intro s₁ e s₂ h hstep
      exact ⟨h.1.step (step_eq_some hstep), isShelved_of_step (step_eq_some hstep)⟩
    · constructor
      · rintro daemon ⟨⟩
      · rintro daemon ⟨⟩
  have hstep := step_eq_some hserve
  have hfirst : s'.Flushed address := by
    intro db hdb
    cases hstep with
    | serve hrunning hserver hfits =>
      obtain rfl := Option.some.inj (hrunning.symm.trans hdaemon)
      obtain rfl := Option.some.inj hdaemon'
      simp only [storeDiskAfter, if_neg hflushed, List.mem_singleton] at hdb
      rw [hdb]
      apply haddress
  have hlast : s''.IsTraced ext ∧ s''.IsShelved ∧ s''.Flushed address := by
    apply run_invariant_of_step _ _ hafter
    · intro s₁ e s₂ ⟨htraced, hshelved, hflushed⟩ hstep
      have hstep := step_eq_some hstep
      exact ⟨htraced.step hstep, isShelved_of_step hstep, hflushed.step htraced hshelved hstep⟩
    · exact ⟨hkept.1.step hstep, isShelved_of_step hstep, hfirst⟩
  apply hlast.2.2 _ (hlast.2.1 daemon'' hdaemon'')

/-- The address of the bundle of the first life, which has been flushed, is held in the last one. -/
theorem mem_db_nextLives :
  ∃ s s' s'' daemon daemon' daemon'',
    run (step livesExternals true) initial firstLife = some s ∧
    s.step livesExternals true (.serve putStep) = some s' ∧
    run (step livesExternals true) s' (firstReply ++ nextLives) = some s'' ∧
    s.running = some daemon ∧ s'.running = some daemon' ∧ s''.running = some daemon'' ∧
    daemon'.server.daemon.contentStore.addresses = [attestedBundle.contentAddress primeHash] ∧
    ∀ address ∈ daemon'.server.daemon.contentStore.db,
      address ∈ daemon''.server.daemon.contentStore.db
  := by
  have hstore : (run (step livesExternals true) initial firstLife).bind (fun s =>
      (s.step livesExternals true (.serve putStep)).bind fun s' =>
        (run (step livesExternals true) s' (firstReply ++ nextLives)).bind fun s'' =>
          s.running.bind fun daemon => s'.running.bind fun daemon' => s''.running.map fun _ =>
            (daemon.server.daemon.contentStore.count, daemon'.server.daemon.contentStore.count,
              daemon'.server.daemon.contentStore.addresses))
      = some (0, 1, [attestedBundle.contentAddress primeHash]) := by
    decide +kernel
  obtain ⟨s, hbefore, hstore⟩ := Option.bind_eq_some_iff.mp hstore
  obtain ⟨s', hserve, hstore⟩ := Option.bind_eq_some_iff.mp hstore
  obtain ⟨s'', hafter, hstore⟩ := Option.bind_eq_some_iff.mp hstore
  obtain ⟨daemon, hdaemon, hstore⟩ := Option.bind_eq_some_iff.mp hstore
  obtain ⟨daemon', hdaemon', hstore⟩ := Option.bind_eq_some_iff.mp hstore
  obtain ⟨daemon'', hdaemon'', hstore⟩ := Option.map_eq_some_iff.mp hstore
  obtain ⟨hcount, hstore⟩ := Prod.mk.inj hstore
  obtain ⟨hcount', haddresses⟩ := Prod.mk.inj hstore
  have hflushed : daemon'.server.daemon.contentStore.count
      ≠ daemon.server.daemon.contentStore.count := by
    rw [hcount, hcount']
    decide
  exact ⟨s, s', s'', daemon, daemon', daemon'', hbefore, hserve, hafter, hdaemon, hdaemon',
    hdaemon'', haddresses,
    mem_db_of_run hbefore hserve hafter hdaemon hdaemon' hdaemon'' hflushed⟩

end Lifetime

end Cachee
