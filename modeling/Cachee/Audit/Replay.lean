import Cachee.Audit.Reachable
import Cachee.Slot.CacheSlot
import Mathlib.Data.List.AList

/-!
# Replaying the history of a key

The recorded events of a key are replayed in order: a creation makes the key present and active, a
change of state gives it the recorded state if it was in the recorded state before, and a deletion
makes it absent.  A log reconstructs the slots if this gives, for every key, the state of its slot.
-/

open Text

namespace Cachee

/-- The text of the state of a key after an event, from that before it, where an absent key has
none.  There is no such text after a change from a state in which the key was not. -/
def AuditEventType.replay (state : Option String) : AuditEventType → Option (Option String)
  | entryCreated _ _ _ _ => some (some "Active")
  | stateTransition _ fromState toState _ _ =>
    if state = some fromState then some (some toState) else none
  | entryDeleted _ => some none
  | _ => some state

/-- The text of the state of a key after the events of the entries, from its absence on. -/
def replay (entries : List AuditEntry) : Option (Option String) :=
  entries.foldlM (fun state entry => entry.event.replay state) none

/-- The text under which a state is recorded. -/
inductive EntryState.RecordedAs : EntryState → String → Prop
  | active : RecordedAs .active "Active"
  | revoked (reason : String) (revokedAt : UInt64) (attestation : Option (Block 58)) :
      RecordedAs (.revoked reason revokedAt attestation) "Revoked"
  | superseded (successor : Block 32) (newKey : String) :
      RecordedAs (.superseded successor) s!"Superseded({newKey})"

/-- An absent key has no text, and a present one has the text of its state. -/
def IsRecordedAs (slot? : Option CacheSlot) (text? : Option String) : Prop :=
  Option.Rel EntryState.RecordedAs (slot?.map CacheSlot.state) text?

/-- An active slot is recorded under one text. -/
theorem IsRecordedAs.eq_active {slot : CacheSlot} {text? : Option String}
    (h : IsRecordedAs (some slot) text?) (hactive : slot.state = .active) :
  text? = some "Active"
  := by
  obtain ⟨h⟩ := h
  rw [hactive] at h
  cases h
  rfl

/-- An event leads from the state of a slot to the state of another one. -/
def AuditEventType.LeadsTo (event : AuditEventType) (slot? slot?' : Option CacheSlot) : Prop :=
  ∀ text?, IsRecordedAs slot? text? →
    ∃ text?', event.replay text? = some text?' ∧ IsRecordedAs slot?' text?'

/-- Replaying one more entry. -/
theorem replay_append (entries : List AuditEntry) (entry : AuditEntry) :
  replay (entries ++ [entry]) = (replay entries).bind fun state => entry.event.replay state
  := by
  simp [replay]

namespace AuditLog

variable {sha3 : Bytes → Block 32} {json : AuditJson} {log log' : AuditLog} {entry : AuditEntry}

/-- Replaying the history of each key gives the state of its slot. -/
def Reconstructs (json : AuditJson) (log : AuditLog) (slots : AList fun _ : String => CacheSlot) :
    Prop :=
  ∀ key, ∃ text?, replay (log.keyHistory json key) = some text? ∧
    IsRecordedAs (slots.lookup key) text?

/-- A log still reconstructs the slots after an entry has been appended, if the slot of its key has
changed as the entry says, and no other. -/
theorem Reconstructs.append {slots slots' : AList fun _ : String => CacheSlot}
    (h : log.Reconstructs json slots)
    (hexport : log'.exportAll json = log.exportAll json ++ [entry])
    (hother : ∀ key, entry.event.key? ≠ some key → slots'.lookup key = slots.lookup key)
    (hkey : ∀ key, entry.event.key? = some key →
      entry.event.LeadsTo (slots.lookup key) (slots'.lookup key)) :
  log'.Reconstructs json slots'
  := by
  intro key
  obtain ⟨text?, hreplay, htext?⟩ := h key
  rw [keyHistory, hexport, List.filter_append]
  by_cases hmatches : entry.event.key? = some key
  · obtain ⟨text?', hreplay', htext?'⟩ := hkey key hmatches text? htext?
    rw [List.filter_singleton, decide_eq_true hmatches, cond_true, replay_append]
    rw [keyHistory] at hreplay
    rw [hreplay]
    exact ⟨text?', hreplay', htext?'⟩
  · rw [List.filter_singleton, decide_eq_false hmatches, cond_false, List.append_nil,
      hother key hmatches]
    exact ⟨text?, hreplay, htext?⟩

/-- Whether a log reconstructs the slots depends on what lookups find. -/
theorem Reconstructs.congr {slots slots' : AList fun _ : String => CacheSlot}
    (h : log.Reconstructs json slots) (hlookup : ∀ key, slots'.lookup key = slots.lookup key) :
  log.Reconstructs json slots'
  := by
  intro key
  rw [hlookup key]
  apply h key

/-- A log without entries about keys reconstructs the absence of all slots. -/
theorem reconstructs_empty (h : ∀ entry ∈ log.exportAll json, entry.event.key? = none) :
  log.Reconstructs json ∅
  := by
  intro key
  refine ⟨none, ?_, .none⟩
  have hnone : log.keyHistory json key = [] := by
    rw [keyHistory, List.filter_eq_nil_iff]
    intro entry hentry
    rw [h entry hentry]
    simp
  rw [hnone]
  rfl

/-! ### Complete logs -/

/-- The database of the log stores the chain that the log knows. -/
def IsComplete (sha3 : Bytes → Block 32) (json : AuditJson) (log : AuditLog) : Prop :=
  ∃ entries, AuditState.Tracks sha3 json log entries ∧ Stores json log.db entries

/-- A complete log is complete after an append that succeeds, and has the entry of the event in
addition. -/
theorem IsComplete.append (h : log.IsComplete sha3 json) (timestampNs : UInt64)
    (event : AuditEventType)
    (hread : json.entry.RoundTripsAt (log.newEntry sha3 json timestampNs event))
    (hfits : (log.append sha3 json timestampNs none event).1.merkleLeaves.length ≤ maxLeaves) :
  (log.append sha3 json timestampNs none event).1.IsComplete sha3 json ∧
    (log.append sha3 json timestampNs none event).1.exportAll json
      = log.exportAll json ++ [log.newEntry sha3 json timestampNs event]
  := by
  obtain ⟨entries, htracks, hstores⟩ := h
  obtain ⟨text, htext, -⟩ := id hread
  have hcont := continues_newEntry sha3 json timestampNs event htracks.headHash
    htracks.nextSequence
  have hstores' : Stores json (log.append sha3 json timestampNs none event).1.db
      (entries ++ [log.newEntry sha3 json timestampNs event]) := by
    have hinsert := hstores.insert htracks.chain hcont hread
    simp only [storedEntry, JsonCodec.toVecOrDefault, htext] at hinsert
    simp only [AuditLog.append, htext]
    apply hinsert
  refine ⟨⟨_, htracks.append htext hfits, hstores'⟩, ?_⟩
  rw [exportAll_of_stores hstores', exportAll_of_stores hstores]

/-- A log just opened on an empty database is complete. -/
theorem isComplete_fresh (issuerId : String) :
  (fresh issuerId).IsComplete sha3 json
  := by
  refine ⟨[], ⟨trivial, rfl, rfl, rfl, by decide⟩, ?_⟩
  constructor
  · simp [fresh]
  · intro entry hentry
    cases hentry

/-- Whether a log is complete depends on its database, head, next sequence and hashes only. -/
theorem IsComplete.of_eq (h : log.IsComplete sha3 json) (hdb : log'.db = log.db)
    (hhead : log'.headHash = log.headHash) (hnext : log'.nextSequence = log.nextSequence)
    (hleaves : log'.merkleLeaves = log.merkleLeaves) :
  log'.IsComplete sha3 json
  := by
  obtain ⟨entries, htracks, hstores⟩ := h
  exact ⟨entries, htracks.of_eq hhead hnext hleaves, hdb ▸ hstores⟩

/-- A complete log is complete after an anchor has been recorded, and has the entry of the anchor in
addition. -/
theorem IsComplete.computeMerkleAnchor (h : log.IsComplete sha3 json)
    (hsome : log.leavesSinceAnchor.isEmpty = false) (timestampNs : UInt64)
    (hread : json.entry.RoundTripsAt
      (log.newEntry sha3 json timestampNs (log.anchorEvent sha3)))
    (hfits : (log.computeMerkleAnchor sha3 json timestampNs none).1.merkleLeaves.length
      ≤ maxLeaves) :
  (log.computeMerkleAnchor sha3 json timestampNs none).1.IsComplete sha3 json ∧
    (log.computeMerkleAnchor sha3 json timestampNs none).1.exportAll json
      = log.exportAll json ++ [log.newEntry sha3 json timestampNs (log.anchorEvent sha3)]
  := by
  obtain ⟨hdb, hhead, hnext, hleaves⟩ :=
    AuditState.computeMerkleAnchor_log_eq sha3 json hsome timestampNs none
  rw [hleaves] at hfits
  obtain ⟨hcomplete, hexport⟩ := h.append timestampNs _ hread hfits
  refine ⟨hcomplete.of_eq hdb hhead hnext hleaves, ?_⟩
  rw [← hexport, exportAll, exportAll, hdb]

end AuditLog

end Cachee
