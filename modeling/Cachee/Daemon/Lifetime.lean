import Cachee.Daemon.AuditTrail
import Cachee.Daemon.ColdStart
import Cachee.Daemon.Records

/-!
# The lifetime of the data

A daemon may be killed at any moment and started again.  What it keeps in memory is lost: the
values, the slots, the connections and the tasks.  Of its databases, what was flushed is found
again; what was written and not flushed may be found or lost.  So the entries that the log knows are
never lost, nor are the addresses of bundles that were flushed; and what is found was asked for in
an earlier life.
-/

open Text

namespace Cachee

/-! ### Starting the daemon -/

/-- What a daemon is started with: its settings, the registered keys, the time to live of the slots
that are rebuilt, in seconds, and what the record of the start and each rebuilt slot meet with. -/
structure Startup where
  cfg : DaemonConfig
  registry : ApiKeyRegistry
  attestEnabled : Bool
  verifyMode : String
  defaultTtl : ℕ
  amb : Ambient
  found : Block 32 → Ambient

/-- Start the daemon on a content store and an audit log that have been opened: record the start,
and rebuild the slots.  With required authentication it is not started without keys. -/
def startDaemon (ext : Externals) (requireAuth : Bool) (startup : Startup) (storeDb : Database)
    (opened : AuditLog) : Outcome DaemonState :=
  if requireAuth && startup.registry.entries.isEmpty then
    bail ("FATAL: require_auth=true but no API keys found. "
      ++ "Create keys with: cachee auth create --label \"my-app\"")
  else do
    let s : DaemonState :=
      { engine := ∅, slots := ∅, contentStore := .openDb storeDb, auditLog := opened }
    let s := s.log ext startup.amb
      (.daemonStart packageVersion startup.attestEnabled startup.verifyMode)
    let slots ← coldStart ext startup.found startup.defaultTtl s.contentStore
    return { s with slots }

/-! ### Lives -/

/-- A daemon that is running, with its settings. -/
structure RunningDaemon where
  cfg : DaemonConfig
  server : Server

/-- The daemon, if it is running; the databases of the content store and of the audit log that may
be found if it is killed now; and a record of the lines that were passed in its earlier lives, with
the settings of the life. -/
structure Lifetime where
  running : Option RunningDaemon
  storeDisk : List Database
  logDisk : List Database
  past : List (DaemonConfig × PassedLine)

/-- The daemon serves, is killed, or is started on databases that may be found. -/
inductive LifetimeEvent where
  | serve (e : ServerEvent)
  | kill
  | start (store log : ℕ) (startup : Startup)

namespace Lifetime

/-- Before the first start there is nothing. -/
def initial : Lifetime where
  running := none
  storeDisk := [∅]
  logDisk := [∅]
  past := []

/-- The lines that were passed so far, with the settings of the life. -/
def lines (s : Lifetime) : List (DaemonConfig × PassedLine) :=
  s.past ++ match s.running with
    | some daemon => daemon.server.gate.passed.map (daemon.cfg, ·)
    | none => []

/-- The databases that may be found after the content store has changed: only the last one if a
bundle was flushed. -/
def storeDiskAfter (disk : List Database) (before after : ContentStore) : List Database :=
  if after.count = before.count then disk ++ [after.db] else [after.db]

/-- The databases that may be found after the audit log has changed: only the last one if an entry
was flushed. -/
def logDiskAfter (disk : List Database) (before after : AuditLog) : List Database :=
  if after.nextSequence = before.nextSequence then disk ++ [after.db] else [after.db]

/-- The state in which a daemon serves, unless the hashes of its log do not fit in memory. -/
def withDaemon (s : Lifetime) (daemon : RunningDaemon) : Option Lifetime :=
  if daemon.server.daemon.auditLog.merkleLeaves.length ≤ maxLeaves then
    some { s with running := some daemon }
  else none

/-- The state after an event. -/
def step (ext : Externals) (requireAuth : Bool) (s : Lifetime) : LifetimeEvent → Option Lifetime
  | .serve e =>
    match s.running with
    | some daemon => do
      let server ← daemon.server.step ext daemon.cfg requireAuth e
      let before := daemon.server.daemon
      withDaemon { s with
          storeDisk := storeDiskAfter s.storeDisk before.contentStore server.daemon.contentStore
          logDisk := logDiskAfter s.logDisk before.auditLog server.daemon.auditLog }
        { daemon with server }
    | none => none
  | .kill => some { s with running := none, past := s.lines }
  | .start i j startup =>
    match s.running, s.storeDisk[i]?, s.logDisk[j]? with
    | none, some storeDb, some logDb =>
      match AuditLog.openDb ext.auditJson logDb startup.cfg.issuerId with
      | .ok opened =>
        match startDaemon ext requireAuth startup storeDb opened with
        | .ok daemon =>
          withDaemon { s with
              storeDisk := [storeDb]
              logDisk := logDiskAfter [logDb] opened daemon.auditLog }
            ⟨startup.cfg, .initial startup.registry daemon⟩
        | .error _ => none
      | .error _ => none
    | _, _, _ => none

end Lifetime

/-! ### What an event does -/

/-- What an event does: a step of the server, the end of a life, or the start of the next one. -/
inductive LifetimeStep (ext : Externals) (requireAuth : Bool) (s : Lifetime) :
    LifetimeEvent → Lifetime → Prop
  | serve {e : ServerEvent} {daemon : RunningDaemon} {server : Server}
      (hrunning : s.running = some daemon)
      (hserver : ServerStep ext daemon.cfg requireAuth daemon.server e server)
      (hfits : server.daemon.auditLog.merkleLeaves.length ≤ maxLeaves) :
      LifetimeStep ext requireAuth s (.serve e) {
        running := some { daemon with server }
        storeDisk := Lifetime.storeDiskAfter s.storeDisk daemon.server.daemon.contentStore
          server.daemon.contentStore
        logDisk := Lifetime.logDiskAfter s.logDisk daemon.server.daemon.auditLog
          server.daemon.auditLog
        past := s.past }
  | kill : LifetimeStep ext requireAuth s .kill { s with running := none, past := s.lines }
  | start {i j : ℕ} {startup : Startup} {storeDb logDb : Database} {opened : AuditLog}
      {daemon : DaemonState} (hrunning : s.running = none)
      (hstore : storeDb ∈ s.storeDisk) (hlog : logDb ∈ s.logDisk)
      (hopen : AuditLog.openDb ext.auditJson logDb startup.cfg.issuerId = .ok opened)
      (hstart : startDaemon ext requireAuth startup storeDb opened = .ok daemon)
      (hfits : daemon.auditLog.merkleLeaves.length ≤ maxLeaves) :
      LifetimeStep ext requireAuth s (.start i j startup) {
        running := some ⟨startup.cfg, .initial startup.registry daemon⟩
        storeDisk := [storeDb]
        logDisk := Lifetime.logDiskAfter [logDb] opened daemon.auditLog
        past := s.past }

namespace Lifetime

variable {ext : Externals} {requireAuth : Bool} {s s' : Lifetime} {e : LifetimeEvent}

/-- A daemon whose hashes fit in memory serves. -/
theorem withDaemon_eq_some {daemon : RunningDaemon} (h : s.withDaemon daemon = some s') :
  daemon.server.daemon.auditLog.merkleLeaves.length ≤ maxLeaves ∧
    s' = { s with running := some daemon }
  := by
  obtain ⟨hfits, h⟩ := Option.ite_none_right_eq_some.mp h
  exact ⟨hfits, (Option.some.inj h).symm⟩

/-- An event does what it says. -/
theorem step_eq_some (h : s.step ext requireAuth e = some s') :
  LifetimeStep ext requireAuth s e s'
  := by
  cases e with
  | serve e =>
    rw [step] at h
    split at h
    · rename_i daemon hrunning
      obtain ⟨server, hserver, h⟩ := Option.bind_eq_some_iff.mp h
      obtain ⟨hfits, rfl⟩ := withDaemon_eq_some h
      exact .serve hrunning (Server.step_eq_some hserver) hfits
    · cases h
  | kill =>
    obtain rfl := Option.some.inj h
    exact .kill
  | start i j startup =>
    rw [step] at h
    split at h
    · rename_i storeDb logDb hrunning hstore hlog
      split at h
      · rename_i opened hopen
        split at h
        · rename_i daemon hstart
          obtain ⟨hfits, rfl⟩ := withDaemon_eq_some h
          exact .start hrunning (List.mem_of_getElem? hstore) (List.mem_of_getElem? hlog) hopen
            hstart hfits
        · cases h
      · cases h
    · cases h

/-- A daemon that is started has nothing but rebuilt slots, the content store, and the log with a
record of the start. -/
theorem startDaemon_eq_ok {startup : Startup} {storeDb : Database} {opened : AuditLog}
    {daemon : DaemonState} (h : startDaemon ext requireAuth startup storeDb opened = .ok daemon) :
  (requireAuth = true → startup.registry.entries ≠ []) ∧ daemon.engine = ∅ ∧
    daemon.contentStore = .openDb storeDb ∧
    coldStart ext startup.found startup.defaultTtl (.openDb storeDb) = .ok daemon.slots ∧
    daemon.auditLog = (opened.append ext.sha3 ext.auditJson startup.amb.auditNow
      startup.amb.auditFault
      (.daemonStart packageVersion startup.attestEnabled startup.verifyMode)).1
  := by
  unfold startDaemon at h
  split at h
  · cases h
  · rename_i hkeys
    obtain ⟨slots, hslots, h⟩ := bind_eq_ok_iff.mp h
    obtain rfl := Except.ok.inj h
    refine ⟨?_, rfl, rfl, hslots, rfl⟩
    rintro rfl hempty
    apply hkeys
    rw [hempty]
    rfl

/-! ### The audit log -/

section Log

variable (ext)

/-- The entries are a chain.  Every database of the log that may be found stores them, or one more,
and the log of a daemon that is running knows them. -/
structure KeepsLog (s : Lifetime) (entries : List AuditEntry) : Prop where
  chain : IsChain ext.sha3 ext.auditJson (Block.zero 32) 0 entries
  length_le : entries.length ≤ maxLeaves
  disk : ∀ db ∈ s.logDisk, StoresUpTo ext.sha3 ext.auditJson db entries
  running : ∀ daemon, s.running = some daemon →
    AuditState.Tracks ext.sha3 ext.auditJson daemon.server.daemon.auditLog entries ∧
      daemon.server.daemon.auditLog.db ∈ s.logDisk

/-- The tasks of a daemon that is running come from its lines and from what it was started with. -/
def IsTraced (s : Lifetime) : Prop :=
  ∀ daemon, s.running = some daemon → ∃ start, daemon.server.Traced ext daemon.cfg start

variable {ext} {amb : Ambient} {justified : AuditEventType → Prop} {log log' : AuditLog}
  {entries : List AuditEntry} {disk : List Database}

/-- After a change of the log, every database that may be found stores the entries that the log
knows then, or one more. -/
theorem disk_of_logChange (hread : ∀ entry, ext.auditJson.entry.RoundTripsAt entry)
    (hchange : LogChange ext amb justified log log')
    (htracks : AuditState.Tracks ext.sha3 ext.auditJson log entries)
    (hdisk : ∀ db ∈ disk, StoresUpTo ext.sha3 ext.auditJson db entries)
    (hmem : log.db ∈ disk) (hfits : log'.merkleLeaves.length ≤ maxLeaves) :
  ∃ more, AuditState.Tracks ext.sha3 ext.auditJson log' (entries ++ more) ∧
    (∀ db ∈ logDiskAfter disk log log', StoresUpTo ext.sha3 ext.auditJson db (entries ++ more)) ∧
    log'.db ∈ logDiskAfter disk log log'
  := by
  obtain ⟨more, htracks', hstores, hmore⟩ :=
    hchange.stores hread htracks (hdisk _ hmem) hfits
  refine ⟨more, htracks', ?_, ?_⟩
  · intro db hdb
    rw [logDiskAfter] at hdb
    split at hdb
    · -- The log has not moved on, so it knows what it knew before.
      rename_i hsame
      have hnil : more = [] := by
        have hlength := htracks'.nextSequence
        rw [hsame, htracks.nextSequence, List.length_append] at hlength
        apply List.length_eq_zero_iff.mp
        omega
      rcases List.mem_append.mp hdb with hdb | hdb
      · rw [hnil, List.append_nil]
        apply hdisk db hdb
      · obtain rfl := List.mem_singleton.mp hdb
        apply hstores
    · obtain rfl := List.mem_singleton.mp hdb
      apply hstores
  · rw [logDiskAfter]
    split
    · apply List.mem_append_right _ (List.mem_singleton_self _)
    · apply List.mem_singleton_self

/-- A database that stores a chain, or one more entry, is opened as a log that knows all of them. -/
theorem tracks_of_openDb {db : Database} {issuerId : String}
    (hchain : IsChain ext.sha3 ext.auditJson (Block.zero 32) 0 entries)
    (hlength : entries.length ≤ maxLeaves)
    (hstores : StoresUpTo ext.sha3 ext.auditJson db entries)
    (hopen : AuditLog.openDb ext.auditJson db issuerId = .ok log)
    (hfits : log.merkleLeaves.length ≤ maxLeaves) :
  ∃ more, AuditState.Tracks ext.sha3 ext.auditJson log (entries ++ more) ∧
    Stores ext.auditJson db (entries ++ more) ∧ log.db = db
  := by
  have hopened : ∀ stored, IsChain ext.sha3 ext.auditJson (Block.zero 32) 0 stored →
      stored.length ≤ maxLeaves + 1 → Stores ext.auditJson db stored →
      AuditState.Tracks ext.sha3 ext.auditJson log stored ∧ log.db = db := by
    intro stored hchain hlength hstores
    have hlt : stored.length < 2 ^ 64 := by
      simp only [maxLeaves] at hlength
      omega
    obtain ⟨log', hopen', hdb, hhead, hnext, hleaves, -⟩ :=
      AuditLog.openDb_of_stores issuerId hchain hlt hstores
    obtain rfl := Except.ok.inj (hopen.symm.trans hopen')
    rw [hleaves, List.length_map] at hfits
    exact ⟨⟨hchain, hhead, hnext, hleaves, hfits⟩, hdb⟩
  rcases hstores with hstores | ⟨entry, hcont, hstores⟩
  · obtain ⟨htracks, hdb⟩ := hopened entries hchain (by omega) hstores
    use []
    rw [List.append_nil]
    exact ⟨htracks, hstores, hdb⟩
  · have hchain' : IsChain ext.sha3 ext.auditJson (Block.zero 32) 0 (entries ++ [entry]) := by
      apply isChain_append.mpr ⟨hchain, ?_⟩
      rw [Nat.zero_add]
      apply hcont
    have hlength' : (entries ++ [entry]).length ≤ maxLeaves + 1 := by
      rw [List.length_append, List.length_singleton]
      omega
    obtain ⟨htracks, hdb⟩ := hopened _ hchain' hlength' hstores
    exact ⟨[entry], htracks, hstores, hdb⟩

/-- Every event keeps the entries of the log, in their order, and may add more. -/
theorem KeepsLog.step (hread : ∀ entry, ext.auditJson.entry.RoundTripsAt entry)
    (h : s.KeepsLog ext entries) (htraced : s.IsTraced ext)
    (hstep : LifetimeStep ext requireAuth s e s') :
  ∃ more, s'.KeepsLog ext (entries ++ more)
  := by
  cases hstep with
  | @serve e daemon server hrunning hserver hfits =>
    obtain ⟨htracks, hmem⟩ := h.running daemon hrunning
    obtain ⟨start, htraced⟩ := htraced daemon hrunning
    obtain ⟨amb, hchange⟩ := htraced.logChange hserver
    obtain ⟨more, htracks', hdisk, hmem'⟩ :=
      disk_of_logChange hread hchange htracks h.disk hmem hfits
    use more
    refine ⟨htracks'.chain, htracks'.length_le, hdisk, ?_⟩
    intro daemon' hrunning'
    obtain rfl := Option.some.inj hrunning'
    exact ⟨htracks', hmem'⟩
  | kill =>
    use []
    rw [List.append_nil]
    refine ⟨h.chain, h.length_le, h.disk, ?_⟩
    rintro daemon ⟨⟩
  | @start i j startup storeDb logDb opened daemon hrunning hstore hlog hopen hstart hfits =>
    obtain ⟨-, -, -, -, hauditLog⟩ := startDaemon_eq_ok hstart
    have hchange : LogChange ext startup.amb (fun _ => True) opened daemon.auditLog := by
      rw [hauditLog]
      exact .append trivial
    obtain ⟨more, htracks, hstores, hdb⟩ := tracks_of_openDb h.chain h.length_le
      (h.disk logDb hlog) hopen (hchange.length_leaves_le.trans hfits)
    have hdisk : ∀ db ∈ [logDb], StoresUpTo ext.sha3 ext.auditJson db (entries ++ more) := by
      intro db hdb'
      obtain rfl := List.mem_singleton.mp hdb'
      left
      apply hstores
    obtain ⟨more', htracks', hdisk', hmem⟩ := disk_of_logChange hread hchange htracks hdisk
      (hdb ▸ List.mem_singleton_self _) hfits
    use more ++ more'
    rw [← List.append_assoc]
    refine ⟨htracks'.chain, htracks'.length_le, hdisk', ?_⟩
    intro daemon' hrunning'
    obtain rfl := Option.some.inj hrunning'
    exact ⟨htracks', hmem⟩

/-- Every event leaves the tasks of a daemon that is running traced. -/
theorem IsTraced.step (h : s.IsTraced ext) (hstep : LifetimeStep ext requireAuth s e s') :
  s'.IsTraced ext
  := by
  intro daemon' hrunning'
  cases hstep with
  | serve hrunning hserver hfits =>
    obtain rfl := Option.some.inj hrunning'
    obtain ⟨start, htraced⟩ := h _ hrunning
    exact ⟨start, htraced.step hserver⟩
  | kill => cases hrunning'
  | start hrunning hstore hlog hopen hstart hfits =>
    obtain rfl := Option.some.inj hrunning'
    exact ⟨_, Server.traced_initial _ _ _ _⟩

end Log

/-- The stored entries that the log of a daemon knows. -/
def knownEntries (json : AuditJson) (log : AuditLog) : List AuditEntry :=
  (log.exportAll json).take log.nextSequence.toNat

/-- The entries that a log knows are those that it tracks. -/
theorem knownEntries_eq {log : AuditLog} {entries : List AuditEntry}
    (htracks : AuditState.Tracks ext.sha3 ext.auditJson log entries)
    (hstores : StoresUpTo ext.sha3 ext.auditJson log.db entries) :
  knownEntries ext.auditJson log = entries ∧ entries <+: log.exportAll ext.auditJson
  := by
  rw [knownEntries, htracks.nextSequence]
  rcases hstores with hstores | ⟨entry, -, hstores⟩
  · rw [AuditLog.exportAll_of_stores hstores, List.take_length]
    exact ⟨rfl, List.prefix_refl _⟩
  · rw [AuditLog.exportAll_of_stores hstores, List.take_left]
    exact ⟨rfl, List.prefix_append _ _⟩

/-- Before the first start the log has no entries. -/
theorem keepsLog_initial (ext : Externals) :
  initial.KeepsLog ext []
  := by
  refine ⟨trivial, Nat.zero_le _, ?_, ?_⟩
  · intro db hdb
    obtain rfl := List.mem_singleton.mp hdb
    left
    constructor
    · simp
    · intro entry hentry
      cases hentry
  · rintro daemon ⟨⟩

/-- In every run, and in every one that goes on from it, the log keeps its entries. -/
theorem keepsLog_of_run (hread : ∀ entry, ext.auditJson.entry.RoundTripsAt entry)
    {events : List LifetimeEvent} {entries : List AuditEntry} (h : s.KeepsLog ext entries)
    (htraced : s.IsTraced ext) (hrun : run (step ext requireAuth) s events = some s') :
  ∃ more, s'.KeepsLog ext (entries ++ more) ∧ s'.IsTraced ext
  := by
  induction events generalizing s entries with
  | nil =>
    obtain rfl := Option.some.inj hrun
    use []
    rw [List.append_nil]
    exact ⟨h, htraced⟩
  | cons e events ih =>
    obtain ⟨s₁, he, hevents⟩ := run_cons_eq_some.mp hrun
    obtain ⟨more, h₁⟩ := h.step hread htraced (step_eq_some he)
    obtain ⟨more', h', htraced'⟩ := ih h₁ (htraced.step (step_eq_some he)) hevents
    use more ++ more'
    rw [← List.append_assoc]
    exact ⟨h', htraced'⟩

/-- Over all lives of a daemon, which may be killed at any moment and started on any databases that
may be found then, whichever writes fail: the chain of every daemon that is running is valid, and
the entries that the log of any daemon knows are the first entries of the log of every later one. -/
theorem known_prefix_of_run (hread : ∀ entry, ext.auditJson.entry.RoundTripsAt entry)
    {before after : List LifetimeEvent} {daemon daemon' : RunningDaemon}
    (hbefore : run (step ext requireAuth) initial before = some s)
    (hafter : run (step ext requireAuth) s after = some s')
    (hdaemon : s.running = some daemon) (hdaemon' : s'.running = some daemon') :
  (∃ pending, AuditState.ChainValid ext.sha3 ext.auditJson
      ⟨daemon'.server.daemon.auditLog, pending, []⟩) ∧
    knownEntries ext.auditJson daemon.server.daemon.auditLog
      <+: daemon'.server.daemon.auditLog.exportAll ext.auditJson
  := by
  have htraced : initial.IsTraced ext := by
    rintro daemon ⟨⟩
  obtain ⟨entries, h, htraced'⟩ := keepsLog_of_run hread (keepsLog_initial ext) htraced hbefore
  obtain ⟨more, h', -⟩ := keepsLog_of_run hread h htraced' hafter
  obtain ⟨htracks, hmem⟩ := h.running daemon hdaemon
  obtain ⟨htracks', hmem'⟩ := h'.running daemon' hdaemon'
  constructor
  · obtain ⟨pending, hconsistent⟩ := (h'.disk _ hmem').consistent htracks'
    use pending
    apply hconsistent.chainValid
  · rw [(knownEntries_eq htracks (h.disk _ hmem)).1]
    apply (List.prefix_append _ _).trans (knownEntries_eq htracks' (h'.disk _ hmem')).2

/-! ### Two lives -/

/-- The record of a start. -/
def startEvent : AuditEventType := .daemonStart packageVersion true "full"

/-- The JSON text of this event. -/
def startText : Bytes :=
  asBytes ("\x7b\"DaemonStart\":\x7b\"version\":\"0.3.0\",\"attest_enabled\":true,"
    ++ "\"verify_mode\":\"full\"\x7d\x7d")

/-- The entry of an event with a text, written at time 1. -/
def entryAtOne (sequence : UInt64) (prevHash : Block 32) (event : AuditEventType) (text : Bytes) :
    AuditEntry where
  sequence := sequence
  prevHash := prevHash
  hash := primeHash (prevHash.1 ++ (beBytes 8 1 ++ (beBytes 8 sequence.toNat ++ text)))
  timestampNs := 1
  event := event
  issuerId := "node"

/-- The entry of the first start. -/
def firstStart : AuditEntry := entryAtOne 0 (Block.zero 32) startEvent startText

/-- The entry of a `SET` in the first life. -/
def firstSet : AuditEntry :=
  entryAtOne 1 firstStart.hash RecordedState.attestedEvent RecordedState.attestedText

/-- The entry of a start after this life. -/
def secondStart : AuditEntry := entryAtOne 2 firstSet.hash startEvent startText

/-- The codecs of these events, and of all entries, with the JSON texts of these three. -/
def livesExternals : Externals :=
  { plainExternals with
    auditJson :=
      { event := .table [(startEvent, startText),
          (RecordedState.attestedEvent, RecordedState.attestedText)]
        entry := .tableOrZeros [(firstStart, entryText firstStart startText),
          (firstSet, entryText firstSet RecordedState.attestedText),
          (secondStart, entryText secondStart startText)]
        history := fun _ => .error "unsupported" } }

/-- A start with a key that may write. -/
def plainStartup : Startup where
  cfg := plainConfig
  registry := GateState.writerRegistry
  attestEnabled := true
  verifyMode := "full"
  defaultTtl := 3600
  amb := plainAmbient
  found _ := plainAmbient

/-- A start whose record is not flushed. -/
def unflushedStartup : Startup :=
  { plainStartup with amb := { plainAmbient with auditFault := some (.flush "disk full") } }

/-- A daemon is started, and a connection authenticates and sends a `SET` with a valid fingerprint,
whose bundle is about to be stored. -/
def firstLife : List LifetimeEvent :=
  .start 0 0 plainStartup :: ([.gate .connect, .gate (.read 0 (asBytes "auth s")),
    .gate (.read 0 attestedSet), .gate (.checkQuota 0 0), .gate (.revalidate 0),
    .gate (.checkPermission 0), .step 0 plainAmbient] : List ServerEvent).map .serve

/-- The bundle is stored. -/
def putStep : ServerEvent := .step 0 plainAmbient

/-- The value is set, and the connection has its reply. -/
def firstReply : List LifetimeEvent :=
  ([.step 0 plainAmbient, .step 0 plainAmbient] : List ServerEvent).map .serve

/-- The daemon is killed and started, but the record of the start is not flushed; it is killed once
more, and started on what it had before. -/
def nextLives : List LifetimeEvent :=
  [.kill, .start 0 0 unflushedStartup, .kill, .start 0 0 plainStartup]

/-- The log of the first life knows its start and its `SET`, and that of the last life starts with
them. -/
theorem known_prefix_nextLives :
  ∃ s s' daemon daemon',
    run (step livesExternals true) initial (firstLife ++ .serve putStep :: firstReply) = some s ∧
    run (step livesExternals true) s nextLives = some s' ∧
    s.running = some daemon ∧ s'.running = some daemon' ∧
    knownEntries livesExternals.auditJson daemon.server.daemon.auditLog = [firstStart, firstSet] ∧
    (∃ pending, AuditState.ChainValid livesExternals.sha3 livesExternals.auditJson
      ⟨daemon'.server.daemon.auditLog, pending, []⟩) ∧
    knownEntries livesExternals.auditJson daemon.server.daemon.auditLog
      <+: daemon'.server.daemon.auditLog.exportAll livesExternals.auditJson
  := by
  have hknown : (run (step livesExternals true) initial
      (firstLife ++ .serve putStep :: firstReply)).bind (fun s =>
        (run (step livesExternals true) s nextLives).bind fun s' =>
          s.running.bind fun daemon => s'.running.map fun _ =>
            knownEntries livesExternals.auditJson daemon.server.daemon.auditLog)
      = some [firstStart, firstSet] := by
    decide +kernel
  have hread : ∀ entry, livesExternals.auditJson.entry.RoundTripsAt entry := by
    intro entry
    apply JsonCodec.roundTripsAt_tableOrZeros
    · decide +kernel
    · decide +kernel
  obtain ⟨s, hbefore, hknown⟩ := Option.bind_eq_some_iff.mp hknown
  obtain ⟨s', hafter, hknown⟩ := Option.bind_eq_some_iff.mp hknown
  obtain ⟨daemon, hdaemon, hknown⟩ := Option.bind_eq_some_iff.mp hknown
  obtain ⟨daemon', hdaemon', hknown⟩ := Option.map_eq_some_iff.mp hknown
  exact ⟨s, s', daemon, daemon', hbefore, hafter, hdaemon, hdaemon', hknown,
    known_prefix_of_run hread hbefore hafter hdaemon hdaemon'⟩

end Lifetime

end Cachee
