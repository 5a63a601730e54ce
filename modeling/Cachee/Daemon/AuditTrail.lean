import Cachee.Audit.Numbering
import Cachee.Audit.Replay
import Cachee.Daemon.Provenance
import Cachee.Daemon.Reconstruction

/-!
# The audit trail of the server

The tasks of all connections append to one audit log, and any of these writes may fail.  In every
interleaving the log that the daemon started with stays a part of the log, the chain verifies and
can be opened again, and every entry that is added says what the line of an authorized connection
has asked for.
-/

open Text

namespace Cachee

/-! ### Changes of the log -/

/-- The database stores the entries, or these and one more that continues them, whose flush failed.
-/
def StoresUpTo (sha3 : Bytes → Block 32) (json : AuditJson) (db : Database)
    (entries : List AuditEntry) : Prop :=
  Stores json db entries ∨
    ∃ entry, entry.Continues sha3 json (lastHash (Block.zero 32) entries) entries.length ∧
      Stores json db (entries ++ [entry])

/-- A change of the log: none, or an event that is as it should be is appended or anchored. -/
inductive LogChange (ext : Externals) (amb : Ambient) (justified : AuditEventType → Prop)
    (log : AuditLog) : AuditLog → Prop
  | same : LogChange ext amb justified log log
  | append {event : AuditEventType} (hevent : justified event) :
      LogChange ext amb justified log
        (log.append ext.sha3 ext.auditJson amb.auditNow amb.auditFault event).1
  | anchor (hevent : justified (log.anchorEvent ext.sha3)) :
      LogChange ext amb justified log
        (log.computeMerkleAnchor ext.sha3 ext.auditJson amb.auditNow amb.auditFault).1

section Log

variable {ext : Externals} {amb : Ambient} {justified : AuditEventType → Prop}
  {log log' : AuditLog} {entries : List AuditEntry}

open AuditState

/-- The log is consistent when its database stores its entries, or one more. -/
theorem StoresUpTo.consistent
    (h : StoresUpTo ext.sha3 ext.auditJson log.db entries)
    (htracks : Tracks ext.sha3 ext.auditJson log entries) :
  ∃ pending, AuditState.Consistent ext.sha3 ext.auditJson ⟨log, pending, []⟩
  := by
  rcases h with hstores | hstores
  · use false, entries, htracks
    simpa using hstores
  · use true, entries, htracks
    simpa using hstores

/-- An entry made for an event can be stored after the entries. -/
theorem StoresUpTo.insertEntry
    (h : StoresUpTo ext.sha3 ext.auditJson log.db entries)
    (htracks : Tracks ext.sha3 ext.auditJson log entries) {timestampNs : UInt64}
    {event : AuditEventType} {text : Bytes}
    (hread : ext.auditJson.entry.RoundTripsAt
      (log.newEntry ext.sha3 ext.auditJson timestampNs event))
    (htext : ext.auditJson.entry.toVec (log.newEntry ext.sha3 ext.auditJson timestampNs event)
      = .ok text) :
  Stores ext.auditJson (log.insertEntry text).db
    (entries ++ [log.newEntry ext.sha3 ext.auditJson timestampNs event])
  := by
  rcases h with hstores | hstores
  · apply Tracks.stores_newEntry (s := ⟨log, false, []⟩) htracks _ hread htext
    simpa using hstores
  · apply Tracks.stores_newEntry (s := ⟨log, true, []⟩) htracks _ hread htext
    simpa using hstores

/-- After an append, the entries that the log knows are followed by the new one if the append has
succeeded, and then the database stores exactly these. -/
theorem stores_append (hread : ∀ entry, ext.auditJson.entry.RoundTripsAt entry)
    (htracks : Tracks ext.sha3 ext.auditJson log entries)
    (hstores : StoresUpTo ext.sha3 ext.auditJson log.db entries) (event : AuditEventType)
    (hfits : (log.append ext.sha3 ext.auditJson amb.auditNow amb.auditFault event).1.merkleLeaves.length
      ≤ maxLeaves) :
  let log' := (log.append ext.sha3 ext.auditJson amb.auditNow amb.auditFault event).1
  ∃ more, Tracks ext.sha3 ext.auditJson log' (entries ++ more) ∧
    StoresUpTo ext.sha3 ext.auditJson log'.db (entries ++ more) ∧
    (log'.nextSequence = log.nextSequence ∧ more = [] ∨
      Stores ext.auditJson log'.db (entries ++ more))
  := by
  intro log'
  obtain ⟨text, htext, -⟩ := hread (log.newEntry ext.sha3 ext.auditJson amb.auditNow event)
  have hinsert := hstores.insertEntry htracks (hread _) htext
  have hcont := AuditLog.continues_newEntry ext.sha3 ext.auditJson amb.auditNow event
    htracks.headHash htracks.nextSequence
  rcases hfault : amb.auditFault with _ | (e | e)
  · -- The entry is stored, and the log moves on to it.
    rw [hfault] at hfits
    have hlog' : log' = (log.append ext.sha3 ext.auditJson amb.auditNow none event).1 := by
      rw [← hfault]
    have hdb : log'.db = (log.insertEntry text).db := by
      simp only [hlog', AuditLog.append, htext]
    use [log.newEntry ext.sha3 ext.auditJson amb.auditNow event]
    rw [hdb]
    refine ⟨?_, Or.inl hinsert, Or.inr hinsert⟩
    rw [hlog']
    apply htracks.append htext hfits
  · -- Nothing is stored.
    have hlog' : log' = log := by
      simp only [log', hfault, AuditLog.append, htext]
    use []
    rw [hlog', List.append_nil]
    exact ⟨htracks, hstores, Or.inl ⟨rfl, rfl⟩⟩
  · -- The entry is stored, but the log does not know it.
    have hlog' : log' = log.insertEntry text := by
      simp only [log', hfault, AuditLog.append, htext]
    use []
    rw [hlog', List.append_nil]
    refine ⟨htracks.of_eq rfl rfl rfl, ?_, Or.inl ⟨rfl, rfl⟩⟩
    right
    exact ⟨_, hcont, hinsert⟩

/-- A change of the log keeps the entries that the log knows, in their order, and the database
stores them and at most one more. -/
theorem LogChange.stores (h : LogChange ext amb justified log log')
    (hread : ∀ entry, ext.auditJson.entry.RoundTripsAt entry)
    (htracks : Tracks ext.sha3 ext.auditJson log entries)
    (hstores : StoresUpTo ext.sha3 ext.auditJson log.db entries)
    (hfits : log'.merkleLeaves.length ≤ maxLeaves) :
  ∃ more, Tracks ext.sha3 ext.auditJson log' (entries ++ more) ∧
    StoresUpTo ext.sha3 ext.auditJson log'.db (entries ++ more) ∧
    (log'.nextSequence = log.nextSequence ∧ more = [] ∨
      Stores ext.auditJson log'.db (entries ++ more))
  := by
  have hsame : log' = log → ∃ more, Tracks ext.sha3 ext.auditJson log' (entries ++ more) ∧
      StoresUpTo ext.sha3 ext.auditJson log'.db (entries ++ more) ∧
      (log'.nextSequence = log.nextSequence ∧ more = [] ∨
        Stores ext.auditJson log'.db (entries ++ more)) := by
    rintro rfl
    use []
    rw [List.append_nil]
    exact ⟨htracks, hstores, Or.inl ⟨rfl, rfl⟩⟩
  cases h with
  | same => apply hsame rfl
  | append hevent => apply stores_append hread htracks hstores _ hfits
  | anchor hevent =>
    cases hempty : log.leavesSinceAnchor.isEmpty with
    | true =>
      apply hsame
      rw [AuditLog.computeMerkleAnchor, if_pos hempty]
    | false =>
      obtain ⟨hdb, hhead, hnext, hleaves⟩ := computeMerkleAnchor_log_eq ext.sha3 ext.auditJson
        hempty amb.auditNow amb.auditFault
      rw [hleaves] at hfits
      obtain ⟨more, htracks', hstores', hmore⟩ :=
        stores_append hread htracks hstores (log.anchorEvent ext.sha3) hfits
      use more
      rw [hdb, hnext]
      exact ⟨htracks'.of_eq hhead hnext hleaves, hstores', hmore⟩

/-- The entries of a database in which an entry was inserted are the old ones and the new one. -/
theorem mem_exportAll_insertEntry {entry : AuditEntry} {text : Bytes}
    (hmem : entry ∈ (log.insertEntry text).exportAll ext.auditJson) :
  entry ∈ log.exportAll ext.auditJson ∨ AuditLog.readEntry? ext.auditJson text = some entry
  := by
  obtain ⟨⟨key, value⟩, hitem, hentry⟩ := List.mem_filterMap.mp hmem
  rw [AuditLog.insertEntry, Std.ExtTreeMap.mem_toList_iff_getElem?_eq_some] at hitem
  rcases getElem?_insert_eq_some.mp hitem with ⟨-, rfl⟩ | ⟨-, hitem⟩
  · right
    apply hentry
  · left
    apply List.mem_filterMap.mpr ⟨(key, value), hitem, hentry⟩

/-- An append adds an entry of its event only. -/
theorem mem_exportAll_append (hread : ∀ entry, ext.auditJson.entry.RoundTripsAt entry)
    {event : AuditEventType} {entry : AuditEntry}
    (hmem : entry ∈ (log.append ext.sha3 ext.auditJson amb.auditNow amb.auditFault
      event).1.exportAll ext.auditJson) :
  entry ∈ log.exportAll ext.auditJson ∨ entry.event = event
  := by
  obtain ⟨text, htext, hback⟩ :=
    hread (log.newEntry ext.sha3 ext.auditJson amb.auditNow event)
  have hinserted : entry ∈ (log.insertEntry text).exportAll ext.auditJson →
      entry ∈ log.exportAll ext.auditJson ∨ entry.event = event := by
    intro hmem
    rcases mem_exportAll_insertEntry hmem with hmem | hentry
    · left
      apply hmem
    · right
      rw [AuditLog.readEntry?, hback] at hentry
      rw [← Option.some.inj hentry]
      rfl
  rcases hfault : amb.auditFault with _ | (e | e)
  · simp only [hfault, AuditLog.append, htext] at hmem
    apply hinserted hmem
  · simp only [hfault, AuditLog.append, htext] at hmem
    left
    apply hmem
  · simp only [hfault, AuditLog.append, htext] at hmem
    apply hinserted hmem

/-- A change of the log adds entries of justified events only. -/
theorem LogChange.mem_exportAll (h : LogChange ext amb justified log log')
    (hread : ∀ entry, ext.auditJson.entry.RoundTripsAt entry) {entry : AuditEntry}
    (hmem : entry ∈ log'.exportAll ext.auditJson) :
  entry ∈ log.exportAll ext.auditJson ∨ justified entry.event
  := by
  cases h with
  | same =>
    left
    apply hmem
  | append hevent =>
    rcases mem_exportAll_append hread hmem with hmem | rfl
    · left
      apply hmem
    · right
      apply hevent
  | anchor hevent =>
    cases hempty : log.leavesSinceAnchor.isEmpty with
    | true =>
      rw [AuditLog.computeMerkleAnchor, if_pos hempty] at hmem
      left
      apply hmem
    | false =>
      obtain ⟨hdb, -⟩ := computeMerkleAnchor_log_eq ext.sha3 ext.auditJson hempty amb.auditNow
        amb.auditFault
      rw [AuditLog.exportAll, hdb] at hmem
      rcases mem_exportAll_append hread hmem with hmem | hevent'
      · left
        apply hmem
      · right
        rw [hevent']
        apply hevent

/-- The hashes of a log do not become fewer by a change. -/
theorem LogChange.length_leaves_le (h : LogChange ext amb justified log log') :
  log.merkleLeaves.length ≤ log'.merkleLeaves.length
  := by
  cases h with
  | same => apply le_rfl
  | append hevent => apply length_leaves_le_append
  | anchor hevent =>
    cases hempty : log.leavesSinceAnchor.isEmpty with
    | true => rw [AuditLog.computeMerkleAnchor, if_pos hempty]
    | false =>
      rw [(computeMerkleAnchor_log_eq _ _ hempty _ _).2.2.2]
      apply length_leaves_le_append

end Log

/-! ### Justified events -/

section Justified

variable (ext : Externals) (cfg : DaemonConfig) (start : DaemonState)
  (asked : List String → Prop)

/-- The event says what a line has asked for: the creation of an entry by a `SET` of its key, with
the address and the digest of a slot of this key; a deletion by a `DEL`; a change of state by an
`INVALIDATE` or a `SUPERSEDE`; a verification by a verified read; and an anchor by an
`AUDITANCHOR`. -/
inductive Justified : AuditEventType → Prop
  | created {parts : List String} {key : String} {slot : CacheSlot} (hasked : asked parts)
      (hcommand : Commands "SET" parts key) (hslot : SlotFrom ext cfg start asked key slot) :
      Justified (.entryCreated key (hexEncode slot.contentAddress.1)
        (hexEncode (slot.fingerprint.digest ext.sha3).1)
        (cfg.pqKeys.isSome && slot.hasValidFingerprint))
  | deleted {parts : List String} {key : String} (hasked : asked parts)
      (hcommand : Commands "DEL" parts key) : Justified (.entryDeleted key)
  | revoked {parts : List String} {key reason : String} (hasked : asked parts)
      (hcommand : Commands "INVALIDATE" parts key) :
      Justified (.stateTransition key "Active" "Revoked" "System" (some reason))
  | superseded {parts : List String} {oldKey newKey : String} (hasked : asked parts)
      (hcommand : Commands "SUPERSEDE" parts oldKey) :
      Justified (.stateTransition oldKey "Active" s!"Superseded({newKey})" "System" none)
  | verified {parts : List String} {key : String}
      {mldsaValid falconValid slhdsaValid twoOfThree allThree : Bool} (hasked : asked parts)
      (hcommand : Commands "GETVERIFIED" parts key) :
      Justified (.verificationPerformed key mldsaValid falconValid slhdsaValid twoOfThree allThree)
  | failed {parts : List String} {key error : String} (hasked : asked parts)
      (hcommand : Commands "GETVERIFIED" parts key) : Justified (.verificationFailed key error)
  | anchored {parts : List String} {merkleRoot : String}
      {fromSequence toSequence entryCount : UInt64} (hasked : asked parts)
      (hcommand : commandOf parts = "AUDITANCHOR") :
      Justified (.merkleAnchor merkleRoot fromSequence toSequence entryCount)

variable {ext cfg start asked} {asked' : List String → Prop} {parts : List String}
  {amb : Ambient} {d d' : DaemonState}

/-- A justified event is justified when more lines have been passed. -/
theorem Justified.mono {event : AuditEventType} (h : Justified ext cfg start asked event)
    (hmono : ∀ parts, asked parts → asked' parts) :
  Justified ext cfg start asked' event
  := by
  cases h with
  | created hasked hcommand hslot =>
    exact .created (hmono _ hasked) hcommand (hslot.mono fun parts hparts _ => hmono parts hparts)
  | deleted hasked hcommand => exact .deleted (hmono _ hasked) hcommand
  | revoked hasked hcommand => exact .revoked (hmono _ hasked) hcommand
  | superseded hasked hcommand => exact .superseded (hmono _ hasked) hcommand
  | verified hasked hcommand => exact .verified (hmono _ hasked) hcommand
  | failed hasked hcommand => exact .failed (hmono _ hasked) hcommand
  | anchored hasked hcommand => exact .anchored (hmono _ hasked) hcommand

/-- Recording a verification appends its event, or changes nothing. -/
theorem logChange_logVerification {key : String} (response : CacheeReadResponse)
    (hasked : asked parts) (hcommand : Commands "GETVERIFIED" parts key) :
  LogChange ext amb (Justified ext cfg start asked) d.auditLog
    (d.logVerification ext amb key response).auditLog
  := by
  unfold DaemonState.logVerification
  split
  · exact .append (.verified hasked hcommand)
  · exact .append (.failed hasked hcommand)
  · exact .same

/-- A step of a task changes the log by a justified event only. -/
theorem TaskEffect.logChange {task : Task} (heffect : TaskEffect ext cfg amb parts task d d')
    (hd : Sourced ext cfg start asked d) (hasked : asked parts) :
  LogChange ext amb (Justified ext cfg start asked) d.auditLog d'.auditLog
  := by
  cases heffect with
  | created hcommand hslot => exact .append (.created hasked hcommand (hd.slots _ _ hslot))
  | deleted hcommand => exact .append (.deleted hasked hcommand)
  | verified response hcommand => apply logChange_logVerification response hasked hcommand
  | revoke hcommand hslot hactive => exact .append (.revoked hasked hcommand)
  | supersede hcommand hslot hactive hsuccessor => exact .append (.superseded hasked hcommand)
  | anchor hcommand =>
    rw [handleAuditAnchor_eq]
    exact .anchor (.anchored hasked hcommand)
  | _ => exact .same

end Justified

/-! ### Runs of the server -/

namespace Server

variable {ext : Externals} {cfg : DaemonConfig} {requireAuth : Bool} {start : DaemonState}
  {s s' : Server} {e : ServerEvent}

/-- An event changes the log by a justified event only. -/
theorem Traced.logChange (h : s.Traced ext cfg start)
    (hstep : ServerStep ext cfg requireAuth s e s') :
  ∃ amb, LogChange ext amb (Justified ext cfg start s.Asked) s.daemon.auditLog s'.daemon.auditLog
  := by
  cases hstep with
  | gate hadmits hgate hpassed => exact ⟨plainAmbient, .same⟩
  | pass hadmits hgate hpassed =>
    rw [begin, (goOn_gate_daemon _ _ _).2]
    exact ⟨plainAmbient, .same⟩
  | @task i amb line task daemon progress hi hstep =>
    obtain ⟨hline, hbelongs, -⟩ := h.tasks _ (List.mem_of_getElem? hi)
    rw [(goOn_gate_daemon _ _ _).2]
    use amb
    apply (Task.effect hbelongs hstep).1.logChange h.daemon ⟨line, hline, rfl⟩
  | panic hi hstep => exact ⟨plainAmbient, .same⟩
  | evict key => exact ⟨plainAmbient, .same⟩

/-- The log that the daemon started with is a part of the log, and the entries that were added are
justified. -/
structure Trailed (ext : Externals) (cfg : DaemonConfig) (start : DaemonState) (s : Server) :
    Prop where
  traced : s.Traced ext cfg start
  stores : s.daemon.auditLog.merkleLeaves.length ≤ maxLeaves → ∃ more,
    AuditState.Tracks ext.sha3 ext.auditJson s.daemon.auditLog
      (start.auditLog.exportAll ext.auditJson ++ more) ∧
    StoresUpTo ext.sha3 ext.auditJson s.daemon.auditLog.db
      (start.auditLog.exportAll ext.auditJson ++ more)
  justified : ∀ entry ∈ s.daemon.auditLog.exportAll ext.auditJson,
    entry ∈ start.auditLog.exportAll ext.auditJson ∨ Justified ext cfg start s.Asked entry.event

/-- The lines that were passed so far are among those passed later. -/
theorem passed_subset (hstep : ServerStep ext cfg requireAuth s e s') :
  s.gate.passed ⊆ s'.gate.passed
  := by
  rcases gate_of_step hstep with hgate | ⟨e', hgate⟩
  · rw [hgate]
    apply List.Subset.refl
  · rcases GateState.passed_of_step hgate with hpassed | ⟨line, hpassed⟩
    · rw [hpassed]
      apply List.Subset.refl
    · rw [hpassed]
      apply List.subset_append_left

/-- Every event keeps the trail. -/
theorem Trailed.step (hread : ∀ entry, ext.auditJson.entry.RoundTripsAt entry)
    (h : s.Trailed ext cfg start) (hstep : ServerStep ext cfg requireAuth s e s') :
  s'.Trailed ext cfg start
  := by
  obtain ⟨amb, hchange⟩ := h.traced.logChange hstep
  refine ⟨h.traced.step hstep, ?_, ?_⟩
  · intro hfits
    obtain ⟨more, htracks, hstores⟩ := h.stores (hchange.length_leaves_le.trans hfits)
    obtain ⟨more', htracks', hstores', -⟩ := hchange.stores hread htracks hstores hfits
    use more ++ more'
    rw [← List.append_assoc]
    exact ⟨htracks', hstores'⟩
  · intro entry hentry
    have hmono : ∀ event, Justified ext cfg start s.Asked event →
        Justified ext cfg start s'.Asked event :=
      fun event hevent => hevent.mono fun parts ⟨line, hline, hparts⟩ =>
        ⟨line, passed_subset hstep hline, hparts⟩
    rcases hchange.mem_exportAll hread hentry with hentry | hevent
    · rcases h.justified entry hentry with hstart | hevent
      · left
        apply hstart
      · right
        apply hmono _ hevent
    · right
      apply hmono _ hevent

/-- In every run from a daemon whose log is complete, the trail is kept. -/
theorem trailed_of_run (hread : ∀ entry, ext.auditJson.entry.RoundTripsAt entry)
    (hstart : start.auditLog.IsComplete ext.sha3 ext.auditJson) {registry : ApiKeyRegistry}
    {events : List ServerEvent}
    (hrun : run (Server.step ext cfg requireAuth) (initial registry start) events = some s) :
  s.Trailed ext cfg start
  := by
  apply run_invariant_of_step _ _ hrun
  · intro s₁ e s₂ h hstep
    apply h.step hread (step_eq_some hstep)
  · refine ⟨traced_initial ext cfg registry start, ?_, ?_⟩
    · intro _
      obtain ⟨entries, htracks, hstores⟩ := hstart
      use []
      rw [List.append_nil, AuditLog.exportAll_of_stores hstores]
      exact ⟨htracks, Or.inl hstores⟩
    · intro entry hentry
      left
      apply hentry

/-- A line with the words was passed to the handler, and it was authorized. -/
def Passed (sha3 : Bytes → Block 32) (s : Server) (parts : List String) : Prop :=
  ∃ line ∈ s.gate.passed, words line.data = parts ∧ line.Authorized sha3

/-- With required authentication, from a daemon whose log is complete, in every interleaving and
whichever writes fail: the chain is valid; the entries of the start are the first of the log; and
every entry that was added says what an authorized line has asked for. -/
theorem chainValid_and_justified_of_run
    (hread : ∀ entry, ext.auditJson.entry.RoundTripsAt entry)
    (hstart : start.auditLog.IsComplete ext.sha3 ext.auditJson) {registry : ApiKeyRegistry}
    {events : List ServerEvent}
    (hrun : run (Server.step ext cfg true) (initial registry start) events = some s)
    (hfits : s.daemon.auditLog.merkleLeaves.length ≤ maxLeaves) :
  (∃ pending, AuditState.ChainValid ext.sha3 ext.auditJson ⟨s.daemon.auditLog, pending, []⟩) ∧
    start.auditLog.exportAll ext.auditJson <+: s.daemon.auditLog.exportAll ext.auditJson ∧
    ∀ entry ∈ s.daemon.auditLog.exportAll ext.auditJson,
      entry ∈ start.auditLog.exportAll ext.auditJson ∨
        Justified ext cfg start (s.Passed ext.sha3) entry.event
  := by
  have htrailed := trailed_of_run hread hstart hrun
  obtain ⟨more, htracks, hstores⟩ := htrailed.stores hfits
  refine ⟨?_, ?_, ?_⟩
  · obtain ⟨pending, hconsistent⟩ := hstores.consistent htracks
    use pending
    apply hconsistent.chainValid
  · rcases hstores with hstores | ⟨entry, -, hstores⟩
    · rw [AuditLog.exportAll_of_stores hstores]
      apply List.prefix_append
    · rw [AuditLog.exportAll_of_stores hstores, List.append_assoc]
      apply List.prefix_append
  · intro entry hentry
    rcases htrailed.justified entry hentry with hstart | hevent
    · left
      apply hstart
    · right
      apply hevent.mono
      rintro parts ⟨line, hline, hparts⟩
      exact ⟨line, hline, hparts, (guarded_of_run hrun).passed line hline⟩

/-- The codecs of the deletion of `k` and of all entries, with the JSON texts of the first entry. -/
def trailExternals : Externals :=
  { plainExternals with
    auditJson :=
      { event := .only (.entryDeleted "k") AuditState.deletionText
        entry := .tableOrZeros [(AuditState.deletionEntry,
          entryText AuditState.deletionEntry AuditState.deletionText)]
        history := fun _ => .error "unsupported" } }

/-- A daemon that has a value for `k`. -/
def heldDaemon : DaemonState := (DaemonState.empty "node").setValue "k" (asBytes "v")

/-- A connection deletes `k`, while another reads it. -/
def deleterRun : List ServerEvent :=
  [.gate .connect, .gate .connect, .gate (.read 0 (asBytes "auth s")),
    .gate (.read 1 (asBytes "auth s")), .gate (.read 0 (asBytes "del k")),
    .gate (.checkQuota 0 0), .gate (.revalidate 0), .gate (.checkPermission 0),
    .step 0 plainAmbient, .gate (.read 1 (asBytes "get k")), .gate (.checkQuota 1 1),
    .gate (.revalidate 1), .gate (.checkPermission 1), .step 0 plainAmbient, .step 0 plainAmbient,
    .step 0 plainAmbient]

/-- After this run, the log has the entry of the deletion, which the line `del k` has asked for. -/
theorem chainValid_and_justified_deleterRun :
  ∃ s, run (Server.step trailExternals plainConfig true)
      (initial GateState.writerRegistry heldDaemon) deleterRun = some s ∧
    s.daemon.auditLog.exportAll trailExternals.auditJson = [AuditState.deletionEntry] ∧
    (∃ pending, AuditState.ChainValid trailExternals.sha3 trailExternals.auditJson
      ⟨s.daemon.auditLog, pending, []⟩) ∧
    heldDaemon.auditLog.exportAll trailExternals.auditJson
      <+: s.daemon.auditLog.exportAll trailExternals.auditJson ∧
    ∀ entry ∈ s.daemon.auditLog.exportAll trailExternals.auditJson,
      entry ∈ heldDaemon.auditLog.exportAll trailExternals.auditJson ∨
        Justified trailExternals plainConfig heldDaemon (s.Passed trailExternals.sha3) entry.event
  := by
  have hlog : (run (Server.step trailExternals plainConfig true)
      (initial GateState.writerRegistry heldDaemon) deleterRun).map
        (fun s => (s.daemon.auditLog.exportAll trailExternals.auditJson,
          s.daemon.auditLog.merkleLeaves.length)) = some ([AuditState.deletionEntry], 1) := by
    decide +kernel
  obtain ⟨s, hrun, hs⟩ := Option.map_eq_some_iff.mp hlog
  obtain ⟨hexport, hleaves⟩ := Prod.mk.inj hs
  have hread : ∀ entry, trailExternals.auditJson.entry.RoundTripsAt entry := by
    intro entry
    apply JsonCodec.roundTripsAt_tableOrZeros
    · decide +kernel
    · decide +kernel
  have hfits : s.daemon.auditLog.merkleLeaves.length ≤ maxLeaves := by
    rw [hleaves]
    decide
  exact ⟨s, hrun, hexport, chainValid_and_justified_of_run hread
    (AuditLog.isComplete_fresh "node") hrun hfits⟩

end Server

end Cachee
