import Cachee.Audit.Chain
import Cachee.Crypto
import Cachee.Library.Run

/-!
# The reachable states of the audit log

A run of the log appends events, computes anchors and reopens the log from its database.  A
write may fail before the entry is inserted, or after it is inserted and before the log has
moved on; in the second case the entry is pending until it is overwritten by the next append
or picked up when the log is reopened.  In every reachable state the stored entries are a
chain: that of the log, followed by the pending entry if there is one.
-/

open Text

namespace Cachee

/-- The number of hashes that fit in memory: they take at most `2 ^ 63 - 1` bytes, 32 bytes
each. -/
def maxLeaves : ℕ := 2 ^ 58 - 1

/-- A log in a run, with the entries that have been made for it so far, and whether the last
stored entry is one whose flush failed and that the log does not know. -/
structure AuditState where
  log : AuditLog
  pending : Bool
  written : List AuditEntry

/-- What happens to the log. -/
inductive AuditEvent where
  | append (timestampNs : UInt64) (event : AuditEventType) (fault : Option WriteFault)
  | anchor (timestampNs : UInt64) (fault : Option WriteFault)
  | reopen (issuerId : String)

namespace AuditState

variable (sha3 : Bytes → Block 32) (json : AuditJson)

/-- Whether an entry is pending after an append. -/
def pendingAfter (pending : Bool) (entry : AuditEntry) (fault : Option WriteFault) : Bool :=
  match json.entry.toVec entry, fault with
  | .error _, _ => pending
  | .ok _, none => false
  | .ok _, some (.insert _) => pending
  | .ok _, some (.flush _) => true

/-- The state with another log, unless its hashes do not fit in memory. -/
def withLog (log : AuditLog) (pending : Bool) (written : List AuditEntry) : Option AuditState :=
  if log.merkleLeaves.length ≤ maxLeaves then some ⟨log, pending, written⟩ else none

/-- The state after an event.  No anchor is recorded when there are no hashes since the last
one. -/
def step (s : AuditState) : AuditEvent → Option AuditState
  | .append timestampNs event fault =>
    let entry := s.log.newEntry sha3 json timestampNs event
    withLog (s.log.append sha3 json timestampNs fault event).1
      (pendingAfter json s.pending entry fault) (s.written ++ [entry])
  | .anchor timestampNs fault =>
    if s.log.leavesSinceAnchor.isEmpty then some s
    else
      let entry := s.log.newEntry sha3 json timestampNs (s.log.anchorEvent sha3)
      withLog (s.log.computeMerkleAnchor sha3 json timestampNs fault).1
        (pendingAfter json s.pending entry fault) (s.written ++ [entry])
  | .reopen issuerId =>
    match AuditLog.openDb json s.log.db issuerId with
    | .ok log => withLog log false s.written
    | .error _ => none

/-- The chain that the log has in memory. -/
structure Tracks (log : AuditLog) (entries : List AuditEntry) : Prop where
  chain : IsChain sha3 json (Block.zero 32) 0 entries
  headHash : log.headHash = lastHash (Block.zero 32) entries
  nextSequence : log.nextSequence.toNat = entries.length
  merkleLeaves : log.merkleLeaves = entries.map AuditEntry.hash
  length_le : entries.length ≤ maxLeaves

/-- The invariant of the runs: the log has a chain in memory, and the database stores it, with
one more entry that continues it if an entry is pending. -/
def Consistent (s : AuditState) : Prop :=
  ∃ entries, Tracks sha3 json s.log entries ∧
    if s.pending then
      ∃ entry, AuditEntry.Continues sha3 json (lastHash (Block.zero 32) entries) entries.length
          entry ∧
        Stores json s.log.db (entries ++ [entry])
    else Stores json s.log.db entries

end AuditState

section Insert

variable {sha3 : Bytes → Block 32} {json : AuditJson} {entries : List AuditEntry}
  {entry : AuditEntry} {db : Database}

/-- Storing an entry that continues a stored chain stores the longer chain. -/
theorem Stores.insert (h : Stores json db entries)
    (hchain : IsChain sha3 json (Block.zero 32) 0 entries)
    (hcont : entry.Continues sha3 json (lastHash (Block.zero 32) entries) entries.length)
    (hread : json.entry.RoundTripsAt entry) :
  Stores json (db.insert (storedEntry json entry).1 (storedEntry json entry).2)
    (entries ++ [entry])
  := by
  constructor
  · rw [toList_insert_above, h.toList_eq, List.map_append]
    · rfl
    · intro p hp
      rw [h.toList_eq] at hp
      obtain ⟨e, he, rfl⟩ := List.mem_map.mp hp
      obtain ⟨i, hi⟩ := List.mem_iff_getElem?.mp he
      have hseq := hchain.sequence_eq i e hi
      have hlt := (List.getElem?_eq_some_iff.mp hi).1
      have hbound : entry.sequence.toNat < 256 ^ 8 := entry.sequence.toNat_lt
      apply compare_beBytes hbound
      rw [hcont.sequence]
      omega
  · intro e he
    rcases List.mem_append.mp he with he | he
    · apply h.roundTrips e he
    · obtain rfl := List.mem_singleton.mp he
      apply hread

/-- Storing an entry over the last one of a stored chain replaces it. -/
theorem Stores.insert_last {last : AuditEntry} (h : Stores json db (entries ++ [last]))
    (hseq : last.sequence = entry.sequence) (hread : json.entry.RoundTripsAt entry) :
  Stores json (db.insert (storedEntry json entry).1 (storedEntry json entry).2)
    (entries ++ [entry])
  := by
  constructor
  · have hlist := h.toList_eq
    rw [List.map_append, List.map_singleton, storedEntry, hseq] at hlist
    rw [storedEntry, toList_insert_present hlist, List.map_append]
    rfl
  · intro e he
    rcases List.mem_append.mp he with he | he
    · apply h.roundTrips e (List.mem_append_left _ he)
    · obtain rfl := List.mem_singleton.mp he
      apply hread

end Insert

namespace AuditState

variable {sha3 : Bytes → Block 32} {json : AuditJson}

/-- What a log has in memory is its head, next sequence and hashes. -/
theorem Tracks.of_eq {log log' : AuditLog} {entries : List AuditEntry}
    (h : Tracks sha3 json log entries) (hhead : log'.headHash = log.headHash)
    (hnext : log'.nextSequence = log.nextSequence) (hleaves : log'.merkleLeaves = log.merkleLeaves) :
  Tracks sha3 json log' entries
  := by
  constructor
  · apply h.chain
  · rw [hhead]
    apply h.headHash
  · rw [hnext]
    apply h.nextSequence
  · rw [hleaves]
    apply h.merkleLeaves
  · apply h.length_le

/-- The invariant speaks about the database, the head, the next sequence and the hashes only. -/
theorem Consistent.of_log_eq {log log' : AuditLog} {pending : Bool}
    {written written' : List AuditEntry}
    (h : Consistent sha3 json ⟨log, pending, written⟩) (hdb : log'.db = log.db)
    (hhead : log'.headHash = log.headHash) (hnext : log'.nextSequence = log.nextSequence)
    (hleaves : log'.merkleLeaves = log.merkleLeaves) :
  Consistent sha3 json ⟨log', pending, written'⟩
  := by
  obtain ⟨entries, htracks, hstores⟩ := h
  refine ⟨entries, htracks.of_eq hhead hnext hleaves, ?_⟩
  simp only [hdb] at hstores ⊢
  apply hstores

/-- An entry made for an event can be stored: the database then stores the chain of the log and
this entry, which takes the place of a pending one. -/
theorem Tracks.stores_newEntry {s : AuditState} {entries : List AuditEntry}
    (htracks : Tracks sha3 json s.log entries)
    (hstores : if s.pending then
        ∃ entry, AuditEntry.Continues sha3 json (lastHash (Block.zero 32) entries) entries.length
            entry ∧
          Stores json s.log.db (entries ++ [entry])
      else Stores json s.log.db entries)
    {timestampNs : UInt64} {event : AuditEventType} {text : Bytes}
    (hread : json.entry.RoundTripsAt (s.log.newEntry sha3 json timestampNs event))
    (htext : json.entry.toVec (s.log.newEntry sha3 json timestampNs event) = .ok text) :
  Stores json (s.log.insertEntry text).db
    (entries ++ [s.log.newEntry sha3 json timestampNs event])
  := by
  have hcont := AuditLog.continues_newEntry sha3 json timestampNs event
    htracks.headHash htracks.nextSequence
  have hinsert : (s.log.insertEntry text).db = s.log.db.insert
      (storedEntry json (s.log.newEntry sha3 json timestampNs event)).1
      (storedEntry json (s.log.newEntry sha3 json timestampNs event)).2 := by
    simp only [storedEntry, JsonCodec.toVecOrDefault, htext]
    rfl
  rw [hinsert]
  cases hpending : s.pending with
  | false =>
    simp only [hpending, Bool.false_eq_true, if_false] at hstores
    apply hstores.insert htracks.chain hcont hread
  | true =>
    simp only [hpending, if_true] at hstores
    obtain ⟨last, hlast, hstores⟩ := hstores
    apply hstores.insert_last _ hread
    apply UInt64.toNat_inj.mp
    rw [hlast.sequence, hcont.sequence]

/-- In a consistent state, an entry made for an event can be stored. -/
theorem Consistent.stores_newEntry {s : AuditState} (h : s.Consistent sha3 json)
    {timestampNs : UInt64} {event : AuditEventType} {text : Bytes}
    (hread : json.entry.RoundTripsAt (s.log.newEntry sha3 json timestampNs event))
    (htext : json.entry.toVec (s.log.newEntry sha3 json timestampNs event) = .ok text) :
  ∃ entries, Tracks sha3 json s.log entries ∧
    Stores json (s.log.insertEntry text).db
      (entries ++ [s.log.newEntry sha3 json timestampNs event])
  := by
  obtain ⟨entries, htracks, hstores⟩ := h
  use entries, htracks
  apply htracks.stores_newEntry hstores hread htext

/-- The log knows an entry that it has appended. -/
theorem Tracks.append {log : AuditLog} {entries : List AuditEntry}
    (h : Tracks sha3 json log entries) {timestampNs : UInt64} {event : AuditEventType}
    {text : Bytes}
    (htext : json.entry.toVec (log.newEntry sha3 json timestampNs event) = .ok text)
    (hfits : (log.append sha3 json timestampNs none event).1.merkleLeaves.length ≤ maxLeaves) :
  Tracks sha3 json (log.append sha3 json timestampNs none event).1
    (entries ++ [log.newEntry sha3 json timestampNs event])
  := by
  simp only [AuditLog.append, htext] at hfits ⊢
  constructor
  · apply isChain_append.mpr ⟨h.chain, ?_⟩
    rw [Nat.zero_add]
    apply AuditLog.continues_newEntry sha3 json timestampNs event h.headHash h.nextSequence
  · rw [lastHash_append]
  · have hlen := h.length_le
    have hnext := h.nextSequence
    simp only [maxLeaves] at hlen
    rw [List.length_append, List.length_singleton, ← hnext, UInt64.toNat_add]
    simp only [UInt64.reduceToNat]
    omega
  · rw [List.map_append, ← h.merkleLeaves]
    rfl
  · rw [h.merkleLeaves, List.length_append, List.length_map] at hfits
    rw [List.length_append]
    apply hfits

/-- An append keeps the invariant, however it ends. -/
theorem Consistent.append {s : AuditState} (h : s.Consistent sha3 json) (timestampNs : UInt64)
    (event : AuditEventType) (fault : Option WriteFault) (written : List AuditEntry)
    (hread : json.entry.RoundTripsAt (s.log.newEntry sha3 json timestampNs event))
    (hfits : (s.log.append sha3 json timestampNs fault event).1.merkleLeaves.length
      ≤ maxLeaves) :
  Consistent sha3 json
    ⟨(s.log.append sha3 json timestampNs fault event).1,
      pendingAfter json s.pending (s.log.newEntry sha3 json timestampNs event) fault, written⟩
  := by
  obtain ⟨text, htext, -⟩ := id hread
  obtain ⟨entries, htracks, hstores⟩ := h.stores_newEntry hread htext
  rcases fault with _ | (e | e)
  · -- The entry is stored, and the log moves on to it.
    refine ⟨_, htracks.append htext hfits, ?_⟩
    simp only [AuditLog.append, htext, pendingAfter]
    apply hstores
  · -- Nothing is stored.
    simp only [AuditLog.append, htext, pendingAfter]
    apply h.of_log_eq rfl rfl rfl rfl
  · -- The entry is stored, but the log does not know it.
    simp only [AuditLog.append, htext, pendingAfter]
    refine ⟨entries, ?_, ?_⟩
    · exact ⟨htracks.chain, htracks.headHash, htracks.nextSequence, htracks.merkleLeaves,
        htracks.length_le⟩
    · simp only [if_true]
      exact ⟨_, AuditLog.continues_newEntry sha3 json timestampNs event htracks.headHash
        htracks.nextSequence, hstores⟩

/-- A log whose hashes fit in memory is the log of the state. -/
theorem withLog_eq_some {log : AuditLog} {pending : Bool} {written : List AuditEntry}
    {s : AuditState} :
  withLog log pending written = some s ↔
    log.merkleLeaves.length ≤ maxLeaves ∧ s = ⟨log, pending, written⟩
  := by
  unfold withLog
  split
  · simp_all [eq_comm]
  · simp_all

/-- An anchor is an append of its event, up to the fields about anchors. -/
theorem computeMerkleAnchor_log_eq (sha3 : Bytes → Block 32) (json : AuditJson)
    {log : AuditLog} (h : log.leavesSinceAnchor.isEmpty = false)
    (timestampNs : UInt64) (fault : Option WriteFault) :
  (log.computeMerkleAnchor sha3 json timestampNs fault).1.db
      = (log.append sha3 json timestampNs fault (log.anchorEvent sha3)).1.db ∧
    (log.computeMerkleAnchor sha3 json timestampNs fault).1.headHash
      = (log.append sha3 json timestampNs fault (log.anchorEvent sha3)).1.headHash ∧
    (log.computeMerkleAnchor sha3 json timestampNs fault).1.nextSequence
      = (log.append sha3 json timestampNs fault (log.anchorEvent sha3)).1.nextSequence ∧
    (log.computeMerkleAnchor sha3 json timestampNs fault).1.merkleLeaves
      = (log.append sha3 json timestampNs fault (log.anchorEvent sha3)).1.merkleLeaves
  := by
  rw [AuditLog.computeMerkleAnchor, if_neg (by simp [h])]
  rcases log.append sha3 json timestampNs fault (log.anchorEvent sha3) with ⟨log', e | hash⟩
  · exact ⟨rfl, rfl, rfl, rfl⟩
  · exact ⟨rfl, rfl, rfl, rfl⟩

/-- The database of a consistent state stores a chain: the one that the log knows, with one more
entry if an entry is pending. -/
theorem Consistent.stores {s : AuditState} (h : s.Consistent sha3 json) :
  ∃ known stored, Tracks sha3 json s.log known ∧ IsChain sha3 json (Block.zero 32) 0 stored ∧
    Stores json s.log.db stored ∧
    stored.length = known.length + (if s.pending then 1 else 0) ∧
    (s.pending = false → stored = known)
  := by
  obtain ⟨known, htracks, hstores⟩ := h
  cases hpending : s.pending with
  | false =>
    simp only [hpending, Bool.false_eq_true, if_false] at hstores
    exact ⟨known, known, htracks, htracks.chain, hstores, rfl, fun _ => rfl⟩
  | true =>
    simp only [hpending, if_true] at hstores
    obtain ⟨entry, hcont, hstores⟩ := hstores
    refine ⟨known, known ++ [entry], htracks, ?_, hstores, by simp, by simp⟩
    apply isChain_append.mpr ⟨htracks.chain, ?_⟩
    rw [Nat.zero_add]
    apply hcont

/-- Sequence numbers do not wrap around. -/
theorem Tracks.length_lt {log : AuditLog} {known : List AuditEntry}
    (h : Tracks sha3 json log known) (pending : Bool) :
  known.length + (if pending then 1 else 0) < 2 ^ 64
  := by
  have hlen := h.length_le
  simp only [maxLeaves] at hlen
  split
  · omega
  · omega

/-- An anchor changes nothing if there are no hashes since the last one, and else leaves the log as
`computeMerkleAnchor` does. -/
theorem step_anchor {s s' : AuditState} {timestampNs : UInt64} {fault : Option WriteFault}
    (hstep : step sha3 json s (.anchor timestampNs fault) = some s') :
  s.log.leavesSinceAnchor.isEmpty = true ∧ s' = s ∨
    s.log.leavesSinceAnchor.isEmpty = false ∧
      (s.log.computeMerkleAnchor sha3 json timestampNs fault).1.merkleLeaves.length ≤ maxLeaves ∧
      s' = ⟨(s.log.computeMerkleAnchor sha3 json timestampNs fault).1,
        pendingAfter json s.pending
          (s.log.newEntry sha3 json timestampNs (s.log.anchorEvent sha3)) fault,
        s.written ++ [s.log.newEntry sha3 json timestampNs (s.log.anchorEvent sha3)]⟩
  := by
  rw [step] at hstep
  cases hempty : s.log.leavesSinceAnchor.isEmpty with
  | true =>
    rw [if_pos hempty] at hstep
    exact .inl ⟨rfl, (Option.some.inj hstep).symm⟩
  | false =>
    rw [if_neg (by simp [hempty])] at hstep
    exact .inr ⟨rfl, withLog_eq_some.mp hstep⟩

/-- After a reopening the log is what is opened from its database, and nothing is pending. -/
theorem step_reopen {s s' : AuditState} {issuerId : String}
    (hstep : step sha3 json s (.reopen issuerId) = some s') :
  ∃ log, AuditLog.openDb json s.log.db issuerId = .ok log ∧
    log.merkleLeaves.length ≤ maxLeaves ∧ s' = ⟨log, false, s.written⟩
  := by
  rw [step] at hstep
  split at hstep
  · rename_i log hopen
    exact ⟨log, hopen, withLog_eq_some.mp hstep⟩
  · cases hstep

/-- A step keeps the invariant, when the entries made for the log are read back from their
texts. -/
theorem Consistent.step {s s' : AuditState} {e : AuditEvent} (h : s.Consistent sha3 json)
    (hstep : step sha3 json s e = some s')
    (hread : ∀ entry ∈ s'.written, json.entry.RoundTripsAt entry) :
  s'.Consistent sha3 json
  := by
  cases e with
  | append timestampNs event fault =>
    obtain ⟨hfits, rfl⟩ := withLog_eq_some.mp hstep
    apply h.append timestampNs event fault _ (hread _ (by simp)) hfits
  | anchor timestampNs fault =>
    obtain ⟨-, rfl⟩ | ⟨hempty, hfits, rfl⟩ := step_anchor hstep
    · apply h
    · obtain ⟨hdb, hhead, hnext, hleaves⟩ :=
        computeMerkleAnchor_log_eq sha3 json hempty timestampNs fault
      rw [hleaves] at hfits
      apply (h.append timestampNs (s.log.anchorEvent sha3) fault [] (hread _ (by simp))
        hfits).of_log_eq hdb hhead hnext hleaves
  | reopen issuerId =>
    obtain ⟨known, stored, htracks, hchain, hstores, hlen, -⟩ := h.stores
    have hlt := hlen ▸ htracks.length_lt s.pending
    obtain ⟨log, hopen, hfits, rfl⟩ := step_reopen hstep
    obtain ⟨log', hopen', hdb, hhead, hnext, hleaves, -⟩ :=
      AuditLog.openDb_of_stores issuerId hchain hlt hstores
    obtain rfl := Except.ok.inj (hopen.symm.trans hopen')
    rw [hleaves, List.length_map] at hfits
    refine ⟨stored, ⟨hchain, hhead, hnext, hleaves, hfits⟩, ?_⟩
    simp only [Bool.false_eq_true, if_false, hdb]
    apply hstores

/-- The entries that have been made for the log are not forgotten. -/
theorem written_subset {s s' : AuditState} {e : AuditEvent}
    (hstep : step sha3 json s e = some s') :
  s.written ⊆ s'.written
  := by
  cases e with
  | append timestampNs event fault =>
    obtain ⟨-, rfl⟩ := withLog_eq_some.mp hstep
    apply List.subset_append_left
  | anchor timestampNs fault =>
    obtain ⟨-, rfl⟩ | ⟨-, -, rfl⟩ := step_anchor hstep
    · apply List.Subset.refl
    · apply List.subset_append_left
  | reopen issuerId =>
    obtain ⟨log, -, -, rfl⟩ := step_reopen hstep
    apply List.Subset.refl

/-! ### Runs from an empty database -/

/-- A log just opened on an empty database. -/
def initial (issuerId : String) : AuditState := ⟨.fresh issuerId, false, []⟩

/-- Opening an empty database gives the log of an empty database. -/
theorem openDb_empty (issuerId : String) :
  AuditLog.openDb json ∅ issuerId = .ok (initial issuerId).log
  := by
  rw [AuditLog.openDb]
  simp [initial, AuditLog.fresh, AuditLog.exportAll]
  rfl

/-- A log just opened on an empty database is consistent. -/
theorem consistent_initial (issuerId : String) :
  (initial issuerId).Consistent sha3 json
  := by
  refine ⟨[], ⟨trivial, rfl, rfl, rfl, by decide⟩, ?_⟩
  constructor
  · simp [initial, AuditLog.fresh]
  · intro entry hentry
    cases hentry

/-- Every run leads to a consistent state. -/
theorem consistent_of_run {issuerId : String} {events : List AuditEvent} {s : AuditState}
    (hrun : run (step sha3 json) (initial issuerId) events = some s)
    (hread : ∀ entry ∈ s.written, json.entry.RoundTripsAt entry) :
  s.Consistent sha3 json
  := by
  -- The texts of the entries made so far are among those of the entries made in the end.
  revert hread
  apply run_invariant_of_step _ _ hrun
  · intro s₁ e s₂ hinv hstep hread₂
    apply (hinv fun entry hentry => hread₂ entry (written_subset hstep hentry)).step hstep hread₂
  · intro _
    apply consistent_initial

/-- The audit chain is valid: it verifies, with a count of the stored entries; these carry the
sequences from 0 on, in key order; there is one more of them than the log knows only while an
entry is pending; and otherwise the log knows exactly the stored entries.  The log can be
opened again. -/
structure ChainValid (sha3 : Bytes → Block 32) (json : AuditJson) (s : AuditState) : Prop where
  length_lt : s.log.db.toList.length < 2 ^ 64
  verifies : s.log.verifyChain sha3 json = .ok (UInt64.ofNat s.log.db.toList.length, none)
  readable : (s.log.exportAll json).length = s.log.db.toList.length
  sequences : ∀ i entry, (s.log.exportAll json)[i]? = some entry →
    entry.sequence.toNat = i ∧ s.log.db.toList[i]?.map Prod.fst = some (beBytes 8 i)
  nextSequence : s.log.db.toList.length
    = s.log.nextSequence.toNat + if s.pending then 1 else 0
  known : s.pending = false →
    s.log.head = ((s.log.exportAll json).map AuditEntry.hash).getLastD (Block.zero 32) ∧
    s.log.len.toNat = s.log.db.toList.length ∧
    s.log.merkleLeaves = (s.log.exportAll json).map AuditEntry.hash
  reopens : ∀ issuerId, ∃ log, AuditLog.openDb json s.log.db issuerId = .ok log

/-- The audit chain is valid in a consistent state. -/
theorem Consistent.chainValid {s : AuditState} (h : s.Consistent sha3 json) :
  s.ChainValid sha3 json
  := by
  obtain ⟨known, stored, htracks, hchain, hstores, hlen, hknown⟩ := h.stores
  have hlt := hlen ▸ htracks.length_lt s.pending
  have hexport := AuditLog.exportAll_of_stores hstores
  have hlength : s.log.db.toList.length = stored.length := by
    rw [hstores.toList_eq, List.length_map]
  constructor
  · rw [hlength]
    apply hlt
  · rw [AuditLog.verifyChain, hlength, hstores.toList_eq,
      AuditLog.verifyFrom_of_isChain hchain hstores.roundTrips, UInt64.zero_add]
  · rw [hexport, hlength]
  · intro i entry hentry
    rw [hexport] at hentry
    have hseq := hchain.sequence_eq i entry hentry
    rw [Nat.zero_add] at hseq
    use hseq
    rw [hstores.toList_eq, List.getElem?_map, hentry, Option.map_some, Option.map_some,
      storedEntry, hseq]
  · rw [hlength, hlen, htracks.nextSequence]
  · intro hpending
    obtain rfl := hknown hpending
    rw [hexport, ← lastHash_eq_getLastD, hlength]
    exact ⟨htracks.headHash, htracks.nextSequence, htracks.merkleLeaves⟩
  · intro issuerId
    obtain ⟨log, hopen, -⟩ :=
      AuditLog.openDb_of_stores issuerId hchain hlt hstores
    use log

/-- In every state that a run leads to from an empty database, the audit chain is valid, when
the entries made for the log are read back from their texts. -/
theorem chainValid_of_run {issuerId : String} {events : List AuditEvent} {s : AuditState}
    (hrun : run (step sha3 json) (initial issuerId) events = some s)
    (hread : ∀ entry ∈ s.written, json.entry.RoundTripsAt entry) :
  s.ChainValid sha3 json
  := (consistent_of_run hrun hread).chainValid

/-- The JSON text of the deletion of the key `k`. -/
def deletionText : Bytes := asBytes "\x7b\"EntryDeleted\":\x7b\"key\":\"k\"\x7d\x7d"

/-- The first entry of a log, written at time 1 for the deletion of the key `k`. -/
def deletionEntry : AuditEntry where
  sequence := 0
  prevHash := Block.zero 32
  hash := primeHash ((Block.zero 32).1 ++ (beBytes 8 1 ++ (beBytes 8 0 ++ deletionText)))
  timestampNs := 1
  event := .entryDeleted "k"
  issuerId := "node"

/-- The JSON codecs restricted to the deletion and its entry. -/
def deletionJson : AuditJson where
  event := .only (.entryDeleted "k") deletionText
  entry := .only deletionEntry
    (asBytes s!"\x7b\"sequence\":0,\"prev_hash\":{arrayText deletionEntry.prevHash.1}"
      ++ asBytes s!",\"hash\":{arrayText deletionEntry.hash.1},\"timestamp_ns\":1,\"event\":"
      ++ deletionText ++ asBytes ",\"issuer_id\":\"node\"\x7d")
  history _ := .error "unsupported"

/-- A run that records the deletion, fails to flush it, records it again, and reopens the
log. -/
def deletionRun : List AuditEvent :=
  [.append 1 (.entryDeleted "k") (some (.flush "disk full")), .append 1 (.entryDeleted "k") none,
    .reopen "node"]

/-- After this run the only entry is the deletion, and the chain is valid. -/
theorem chainValid_deletionRun :
  ∃ s, run (step primeHash deletionJson) (initial "node") deletionRun = some s ∧
    s.log.db.toList.length = 1 ∧ s.ChainValid primeHash deletionJson
  := by
  have hsome : (run (step primeHash deletionJson) (initial "node") deletionRun).isSome := by
    decide +kernel
  obtain ⟨s, hs⟩ := Option.isSome_iff_exists.mp hsome
  have hwritten : (run (step primeHash deletionJson) (initial "node") deletionRun).map written
      = some [deletionEntry, deletionEntry] := by
    decide +kernel
  have hlength : (run (step primeHash deletionJson) (initial "node") deletionRun).map
      (fun s => s.log.db.toList.length) = some 1 := by
    decide +kernel
  rw [hs] at hwritten hlength
  refine ⟨s, hs, Option.some.inj hlength, chainValid_of_run hs ?_⟩
  intro entry hentry
  have heq : entry = deletionEntry := by
    rw [Option.some.inj hwritten] at hentry
    simpa using hentry
  rw [heq]
  apply JsonCodec.roundTripsAt_only

end AuditState

/-- The JSON text of an entry with the text of its event. -/
def entryText (entry : AuditEntry) (eventText : Bytes) : Bytes :=
  asBytes (s!"\x7b\"sequence\":{entry.sequence},\"prev_hash\":{arrayText entry.prevHash.1}"
      ++ s!",\"hash\":{arrayText entry.hash.1},\"timestamp_ns\":{entry.timestampNs},\"event\":")
    ++ (eventText ++ asBytes s!",\"issuer_id\":\"{entry.issuerId}\"\x7d")

end Cachee
