import Cachee.Audit.Numbering
import Cachee.Audit.Replay

/-!
# Merkle anchors

An anchor is an entry with the Merkle root of the hashes since the last anchor, and the range of
their sequences.  In every run of appends, anchors and reopenings, every recorded anchor describes
the stored entries of its range.  The log counts in memory how far the last anchor reached, and a
log that is reopened starts to count again: its next anchor covers all entries once more, even if
there are none since the last anchor.
-/

open Text

namespace Cachee

/-- The entries with the sequences of a range. -/
def entriesBetween (fromSequence toSequence : UInt64) (entries : List AuditEntry) :
    List AuditEntry :=
  entries.filter fun entry => fromSequence ≤ entry.sequence ∧ entry.sequence ≤ toSequence

/-- An anchor that was recorded: its entry, and the root that was returned. -/
structure Anchor where
  entry : AuditEntry
  root : Block 32
  deriving DecidableEq

/-- An anchor describes a range of the entries before it: it carries the Merkle root that was
returned, which is that of their hashes, and their number. -/
structure Anchor.Describes (sha3 : Bytes → Block 32) (entries : List AuditEntry) (anchor : Anchor)
    (fromSequence toSequence entryCount : UInt64) : Prop where
  event : anchor.entry.event
    = .merkleAnchor (hexEncode anchor.root.1) fromSequence toSequence entryCount
  root : anchor.root
    = merkleRoot sha3 ((entriesBetween fromSequence toSequence entries).map AuditEntry.hash)
  entryCount : entryCount.toNat = toSequence.toNat - fromSequence.toNat + 1
  from_le : fromSequence ≤ toSequence
  lt_sequence : toSequence < anchor.entry.sequence

/-- An anchor is truthful if its entry is stored and describes its range. -/
def Anchor.Truthful (sha3 : Bytes → Block 32) (entries : List AuditEntry) (anchor : Anchor) :
    Prop :=
  anchor.entry ∈ entries ∧
    ∃ fromSequence toSequence entryCount,
      anchor.Describes sha3 entries fromSequence toSequence entryCount

/-- The failure of the storage during an event. -/
def AuditEvent.fault? : AuditEvent → Option WriteFault
  | append _ _ fault => fault
  | anchor _ fault => fault
  | reopen _ => none

/-- A log in a run, with the anchors that were recorded so far, and whether it was reopened since
the last one. -/
structure AnchoringState where
  audit : AuditState
  anchors : List Anchor
  reopened : Bool

namespace AnchoringState

section Step

variable (sha3 : Bytes → Block 32) (json : AuditJson)

/-- A log just opened on an empty database. -/
def initial (issuerId : String) : AnchoringState := ⟨.initial issuerId, [], false⟩

/-- The state after an event that leaves the log and its entries as `audit`. -/
def after (s : AnchoringState) (audit : AuditState) : AuditEvent → AnchoringState
  | .append _ _ _ => { s with audit }
  | .anchor timestampNs fault =>
    let entry := s.audit.log.newEntry sha3 json timestampNs (s.audit.log.anchorEvent sha3)
    match (s.audit.log.computeMerkleAnchor sha3 json timestampNs fault).2 with
    | .ok root => ⟨audit, s.anchors ++ [⟨entry, root⟩], false⟩
    | .error _ => { s with audit }
  | .reopen _ => { s with audit, reopened := true }

/-- The state after an event. -/
def step (s : AnchoringState) (e : AuditEvent) : Option AnchoringState :=
  (s.audit.step sha3 json e).map fun audit => s.after sha3 json audit e

/-- The stored entries. -/
def entries (s : AnchoringState) : List AuditEntry := s.audit.log.exportAll json

/-- There are no entries since the last anchor: the last entry is that of the last anchor, or there
are none at all. -/
def NothingSinceAnchor (s : AnchoringState) : Prop :=
  (s.entries json).getLast? = s.anchors.getLast?.map Anchor.entry

/-- An attempt to anchor is an error, because there are no entries, and changes nothing. -/
def AnchorRefused (s : AnchoringState) (timestampNs : UInt64) : Prop :=
  s.audit.log.computeMerkleAnchor sha3 json timestampNs none
    = (s.audit.log, .error "no entries since last anchor")

/-- There is an anchor, and there are no entries since, but the log was reopened. -/
def ReopenedAtAnchor (s : AnchoringState) : Prop :=
  s.NothingSinceAnchor json ∧ s.reopened = true ∧ s.anchors ≠ []

/-- How far the last anchor reaches in the log, its own entry included, and 0 if there is none. -/
def anchoredLength (s : AnchoringState) : ℕ :=
  s.anchors.getLast?.elim 0 fun anchor => anchor.entry.sequence.toNat + 1

/-- The invariant of the runs: the stored entries are those of the log, the recorded anchors are
truthful, and the log counts from the last anchor on unless it was reopened. -/
structure Aligned (s : AnchoringState) : Prop where
  complete : s.audit.log.IsComplete sha3 json
  truthful : ∀ anchor ∈ s.anchors, anchor.Truthful sha3 (s.entries json)
  lastAnchorSequence :
    s.audit.log.lastAnchorSequence.toNat = if s.reopened then 0 else s.anchoredLength

end Step

end AnchoringState

variable {sha3 : Bytes → Block 32} {json : AuditJson} {entries : List AuditEntry}
  {entry : AuditEntry} {anchor : Anchor} {fromSequence toSequence entryCount : UInt64}

/-! ### Ranges of entries -/

/-- An entry beyond a range does not change the entries of the range. -/
theorem entriesBetween_append (h : toSequence < entry.sequence) :
  entriesBetween fromSequence toSequence (entries ++ [entry])
    = entriesBetween fromSequence toSequence entries
  := by
  have hbeyond : ¬ (fromSequence ≤ entry.sequence ∧ entry.sequence ≤ toSequence) := by
    rintro ⟨-, hle⟩
    exact absurd (UInt64.lt_iff_toNat_lt.mp h) (not_lt.mpr (UInt64.le_iff_toNat_le.mp hle))
  rw [entriesBetween, List.filter_append, List.filter_singleton, decide_eq_false hbeyond,
    cond_false, List.append_nil]
  rfl

/-- The entries of a chain with the sequences of a range up to the end are those that are left
when the entries before the range are dropped. -/
theorem IsChain.entriesBetween_eq (h : IsChain sha3 json (Block.zero 32) 0 entries)
    (hto : toSequence.toNat + 1 = entries.length) :
  entriesBetween fromSequence toSequence entries = entries.drop fromSequence.toNat
  := by
  have hbefore : (entries.take fromSequence.toNat).filter
      (fun entry => decide (fromSequence ≤ entry.sequence ∧ entry.sequence ≤ toSequence)) = [] := by
    rw [List.filter_eq_nil_iff]
    intro e he
    obtain ⟨i, hi⟩ := List.mem_iff_getElem?.mp he
    rw [List.getElem?_take] at hi
    split at hi
    · have hseq := h.sequence_eq i e hi
      simp only [decide_eq_true_eq, not_and, UInt64.le_iff_toNat_le]
      omega
    · cases hi
  have hinside : (entries.drop fromSequence.toNat).filter
      (fun entry => decide (fromSequence ≤ entry.sequence ∧ entry.sequence ≤ toSequence))
        = entries.drop fromSequence.toNat := by
    rw [List.filter_eq_self]
    intro e he
    obtain ⟨i, hi⟩ := List.mem_iff_getElem?.mp he
    rw [List.getElem?_drop] at hi
    have hseq := h.sequence_eq _ e hi
    have hlt := (List.getElem?_eq_some_iff.mp hi).1
    simp only [decide_eq_true_eq, UInt64.le_iff_toNat_le]
    omega
  rw [entriesBetween]
  conv_lhs => rw [← List.take_append_drop fromSequence.toNat entries]
  rw [List.filter_append, hbefore, hinside, List.nil_append]

/-- The last entry of a chain is the one with the last sequence. -/
theorem IsChain.getLast?_eq_iff (h : IsChain sha3 json (Block.zero 32) 0 entries)
    (hentry : entry ∈ entries) :
  entries.getLast? = some entry ↔ entries.length = entry.sequence.toNat + 1
  := by
  have hlt := h.sequence_lt hentry
  rw [List.getLast?_eq_getElem?]
  constructor
  · intro hlast
    have hseq := h.sequence_eq _ entry hlast
    omega
  · intro hlen
    rw [hlen, Nat.add_sub_cancel]
    apply h.getElem?_sequence hentry

/-- A truthful anchor stays truthful when entries are appended. -/
theorem Anchor.Truthful.append (h : anchor.Truthful sha3 entries)
    (hsequence : anchor.entry.sequence < entry.sequence) :
  anchor.Truthful sha3 (entries ++ [entry])
  := by
  obtain ⟨hmem, fromSequence, toSequence, entryCount, hdescribes⟩ := h
  refine ⟨List.mem_append_left _ hmem, fromSequence, toSequence, entryCount, ?_⟩
  have hbeyond := UInt64.lt_trans hdescribes.lt_sequence hsequence
  constructor
  · apply hdescribes.event
  · rw [entriesBetween_append hbeyond]
    apply hdescribes.root
  · apply hdescribes.entryCount
  · apply hdescribes.from_le
  · apply hdescribes.lt_sequence

namespace AuditLog

variable {log log' : AuditLog}

/-- An append does not move the place from which the log counts. -/
theorem lastAnchorSequence_append (sha3 : Bytes → Block 32) (json : AuditJson) (log : AuditLog)
    (timestampNs : UInt64) (fault : Option WriteFault) (event : AuditEventType) :
  (log.append sha3 json timestampNs fault event).1.lastAnchorSequence = log.lastAnchorSequence
  := by
  rw [append]
  cases json.entry.toVec (log.newEntry sha3 json timestampNs event) with
  | error e => rfl
  | ok entryBytes =>
    rcases fault with _ | (e | e)
    · rfl
    · rfl
    · rfl

/-- When there are hashes since the last anchor, and the entry of the anchor has a text, the anchor
is recorded, and its root is returned. -/
theorem computeMerkleAnchor_eq {timestampNs : UInt64}
    (hsome : log.leavesSinceAnchor.isEmpty = false)
    (hread : json.entry.RoundTripsAt
      (log.newEntry sha3 json timestampNs (log.anchorEvent sha3))) :
  log.computeMerkleAnchor sha3 json timestampNs none
    = ({ (log.append sha3 json timestampNs none (log.anchorEvent sha3)).1 with
          lastMerkleRoot := some (merkleRoot sha3 log.leavesSinceAnchor)
          lastAnchorSequence := log.nextSequence + 1 },
        .ok (merkleRoot sha3 log.leavesSinceAnchor))
  := by
  obtain ⟨text, htext, -⟩ := hread
  rw [computeMerkleAnchor, if_neg (by simp [hsome])]
  simp only [append, htext]

/-- A complete log knows its stored entries. -/
theorem IsComplete.tracks (h : log.IsComplete sha3 json) :
  AuditState.Tracks sha3 json log (log.exportAll json)
  := by
  obtain ⟨entries, htracks, hstores⟩ := h
  rw [exportAll_of_stores hstores]
  apply htracks

/-- The sequences of the stored entries are below the next one. -/
theorem IsComplete.sequence_lt (h : log.IsComplete sha3 json)
    (hentry : entry ∈ log.exportAll json) :
  entry.sequence < log.nextSequence
  := by
  rw [UInt64.lt_iff_toNat_lt, h.tracks.nextSequence]
  apply h.tracks.chain.sequence_lt hentry

/-- The hashes since the last anchor are those of the entries from the place on where the log
counts from. -/
theorem IsComplete.leavesSinceAnchor_eq (h : log.IsComplete sha3 json) :
  log.leavesSinceAnchor
    = ((log.exportAll json).drop log.lastAnchorSequence.toNat).map AuditEntry.hash
  := by
  rw [leavesSinceAnchor, h.tracks.merkleLeaves, List.map_drop]

/-- There are no hashes since the last anchor if the log counts from its end on. -/
theorem IsComplete.leavesSinceAnchor_isEmpty_iff (h : log.IsComplete sha3 json) :
  log.leavesSinceAnchor.isEmpty = true ↔
    (log.exportAll json).length ≤ log.lastAnchorSequence.toNat
  := by
  rw [h.leavesSinceAnchor_eq, List.isEmpty_iff, List.map_eq_nil_iff, List.drop_eq_nil_iff]

/-- A log that is reopened after all writes have succeeded is complete and has the same entries,
and counts the entries since the last anchor from the beginning on. -/
theorem IsComplete.reopen (h : log.IsComplete sha3 json) {issuerId : String}
    (hopen : openDb json log.db issuerId = .ok log') :
  log'.IsComplete sha3 json ∧ log'.exportAll json = log.exportAll json ∧
    log'.lastAnchorSequence = 0
  := by
  obtain ⟨entries, htracks, hstores⟩ := h
  have hlt : entries.length < 2 ^ 64 := htracks.length_lt false
  obtain ⟨log₁, hopen₁, hdb, hhead, hnext, hleaves, hanchor⟩ :=
    openDb_of_stores issuerId htracks.chain hlt hstores
  obtain rfl := Except.ok.inj (hopen.symm.trans hopen₁)
  refine ⟨⟨entries, ⟨htracks.chain, hhead, hnext, hleaves, htracks.length_le⟩, hdb ▸ hstores⟩,
    ?_, hanchor⟩
  rw [exportAll, exportAll, hdb]

/-- An attempt to anchor is refused for the lack of entries if there are no hashes since the last
anchor, and only then. -/
theorem computeMerkleAnchor_refused_iff {timestampNs : UInt64} :
  log.computeMerkleAnchor sha3 json timestampNs none
      = (log, .error "no entries since last anchor") ↔
    log.leavesSinceAnchor.isEmpty = true
  := by
  constructor
  · intro hrefused
    by_contra hsome
    rw [computeMerkleAnchor, if_neg hsome] at hrefused
    cases htext : json.entry.toVec (log.newEntry sha3 json timestampNs (log.anchorEvent sha3)) with
    | error e =>
      -- The message is another one.
      simp only [append, htext, Prod.mk.injEq, Except.error.injEq, true_and] at hrefused
      have hfirst : ("audit serialize: " ++ e).toList.head?
          = "no entries since last anchor".toList.head? :=
        congrArg (fun message => message.toList.head?) hrefused
      simp at hfirst
    | ok text =>
      simp only [append, htext, Prod.mk.injEq, reduceCtorEq, and_false] at hrefused
  · intro hempty
    rw [computeMerkleAnchor, if_pos hempty]

/-- The anchor of a complete log describes its range. -/
theorem IsComplete.describes (h : log.IsComplete sha3 json) (timestampNs : UInt64)
    (hsome : log.leavesSinceAnchor.isEmpty = false) :
  ∃ fromSequence toSequence entryCount,
    Anchor.Describes sha3 (log.exportAll json ++
        [log.newEntry sha3 json timestampNs (log.anchorEvent sha3)])
      ⟨log.newEntry sha3 json timestampNs (log.anchorEvent sha3),
        merkleRoot sha3 log.leavesSinceAnchor⟩ fromSequence toSequence entryCount
  := by
  have hnext := h.tracks.nextSequence
  have hlen := h.tracks.length_le
  have hlt : log.lastAnchorSequence.toNat < (log.exportAll json).length := by
    rw [← not_le, ← h.leavesSinceAnchor_isEmpty_iff, hsome]
    simp
  have hne : log.nextSequence ≠ 0 := by
    intro hzero
    rw [hzero] at hnext
    simp only [UInt64.toNat_zero] at hnext
    omega
  have hto : (log.nextSequence - 1).toNat + 1 = (log.exportAll json).length := by
    rw [UInt64.toNat_sub_of_le]
    · simp only [UInt64.reduceToNat]
      omega
    · rw [UInt64.le_iff_toNat_le]
      simp only [UInt64.reduceToNat]
      omega
  have hbefore : log.nextSequence - 1 < log.nextSequence := by
    rw [UInt64.lt_iff_toNat_lt]
    omega
  refine ⟨log.lastAnchorSequence, log.nextSequence - 1,
    UInt64.ofNat log.leavesSinceAnchor.length, ?_⟩
  constructor
  · simp only [newEntry, anchorEvent, if_neg hne]
  · rw [entriesBetween_append hbefore, h.tracks.chain.entriesBetween_eq hto,
      ← h.leavesSinceAnchor_eq]
  · rw [h.leavesSinceAnchor_eq, List.length_map, List.length_drop, UInt64.toNat_ofNat_of_lt']
    · omega
    · simp only [maxLeaves] at hlen
      simp only [UInt64.size]
      omega
  · rw [UInt64.le_iff_toNat_le]
    omega
  · apply hbefore

end AuditLog

namespace AnchoringState

variable {s s' : AnchoringState}

/-- A log just opened on an empty database is aligned. -/
theorem aligned_initial (issuerId : String) :
  (initial issuerId).Aligned sha3 json
  := by
  constructor
  · apply AuditLog.isComplete_fresh
  · intro anchor hanchor
    cases hanchor
  · rfl

@[simp]
theorem after_audit (audit : AuditState) (e : AuditEvent) :
  (s.after sha3 json audit e).audit = audit
  := by
  cases e with
  | append timestampNs event fault => rfl
  | anchor timestampNs fault =>
    rw [after]
    cases (s.audit.log.computeMerkleAnchor sha3 json timestampNs fault).2 with
    | ok root => rfl
    | error e => rfl
  | reopen issuerId => rfl

/-- A step is a step of the log and its entries. -/
theorem step_eq_some {e : AuditEvent} :
  step sha3 json s e = some s' ↔
    s.audit.step sha3 json e = some s'.audit ∧ s' = s.after sha3 json s'.audit e
  := by
  rw [step, Option.map_eq_some_iff]
  constructor
  · rintro ⟨audit, haudit, rfl⟩
    rw [after_audit]
    exact ⟨haudit, rfl⟩
  · rintro ⟨haudit, hs'⟩
    exact ⟨_, haudit, hs'.symm⟩

/-- A state with the same anchors, whose log has an entry in addition and counts from the same place
on, is aligned. -/
theorem Aligned.append (h : s.Aligned sha3 json) {audit : AuditState}
    (hcomplete : audit.log.IsComplete sha3 json)
    (hexport : audit.log.exportAll json = s.entries json ++ [entry])
    (hsequence : entry.sequence = s.audit.log.nextSequence)
    (hanchor : audit.log.lastAnchorSequence = s.audit.log.lastAnchorSequence) :
  Aligned sha3 json { s with audit }
  := by
  constructor
  · apply hcomplete
  · intro anchor hmem
    have htruthful := h.truthful anchor hmem
    rw [entries, hexport]
    apply htruthful.append
    rw [hsequence]
    apply h.complete.sequence_lt htruthful.1
  · rw [hanchor]
    apply h.lastAnchorSequence

/-- A state with the anchor of an aligned state in addition is aligned. -/
theorem Aligned.recordAnchor (h : s.Aligned sha3 json) {timestampNs : UInt64} {pending : Bool}
    {written : List AuditEntry} (hsome : s.audit.log.leavesSinceAnchor.isEmpty = false)
    (hread : json.entry.RoundTripsAt
      (s.audit.log.newEntry sha3 json timestampNs (s.audit.log.anchorEvent sha3)))
    (hfits : (s.audit.log.computeMerkleAnchor sha3 json timestampNs none).1.merkleLeaves.length
      ≤ maxLeaves) :
  Aligned sha3 json
    ⟨⟨(s.audit.log.computeMerkleAnchor sha3 json timestampNs none).1, pending, written⟩,
      s.anchors ++ [⟨s.audit.log.newEntry sha3 json timestampNs (s.audit.log.anchorEvent sha3),
        merkleRoot sha3 s.audit.log.leavesSinceAnchor⟩], false⟩
  := by
  obtain ⟨hcomplete, hexport⟩ := h.complete.computeMerkleAnchor hsome timestampNs hread hfits
  constructor
  · apply hcomplete
  · intro anchor hanchor
    rw [entries, hexport]
    rcases List.mem_append.mp hanchor with hmem | hmem
    · have htruthful := h.truthful anchor hmem
      apply htruthful.append (h.complete.sequence_lt htruthful.1)
    · obtain rfl := List.mem_singleton.mp hmem
      exact ⟨by simp, h.complete.describes timestampNs hsome⟩
  · have hnext := h.complete.tracks.nextSequence
    have hlen := h.complete.tracks.length_le
    rw [AuditLog.computeMerkleAnchor_eq hsome hread, anchoredLength, List.getLast?_concat]
    simp only [maxLeaves] at hlen
    simp only [Bool.false_eq_true, if_false, Option.elim_some, AuditLog.newEntry]
    rw [UInt64.toNat_add]
    simp only [UInt64.reduceToNat]
    omega

/-- A step whose writes succeed keeps the state aligned. -/
theorem Aligned.step (h : s.Aligned sha3 json) {e : AuditEvent} (hfault : e.fault? = none)
    (hstep : step sha3 json s e = some s')
    (hread : ∀ entry ∈ s'.audit.written, json.entry.RoundTripsAt entry) :
  s'.Aligned sha3 json
  := by
  obtain ⟨haudit, hs'⟩ := step_eq_some.mp hstep
  rw [hs']
  cases e with
  | append timestampNs event fault =>
    obtain rfl : fault = none := hfault
    obtain ⟨hfits, haudit⟩ := AuditState.withLog_eq_some.mp haudit
    rw [haudit] at hread ⊢
    have htext := hread (s.audit.log.newEntry sha3 json timestampNs event) (by simp)
    obtain ⟨hcomplete, hexport⟩ := h.complete.append timestampNs event htext hfits
    apply h.append hcomplete hexport rfl
    apply AuditLog.lastAnchorSequence_append
  | anchor timestampNs fault =>
    obtain rfl : fault = none := hfault
    obtain ⟨hempty, haudit⟩ | ⟨hempty, hfits, haudit⟩ := AuditState.step_anchor haudit
    · rw [haudit, after, AuditLog.computeMerkleAnchor, if_pos hempty]
      apply h
    · rw [haudit] at hread ⊢
      have htext := hread (s.audit.log.newEntry sha3 json timestampNs
        (s.audit.log.anchorEvent sha3)) (by simp)
      have hroot := congrArg Prod.snd (AuditLog.computeMerkleAnchor_eq hempty htext)
      rw [after, hroot]
      apply h.recordAnchor hempty htext hfits
  | reopen issuerId =>
    obtain ⟨log, hopen, -, haudit⟩ := AuditState.step_reopen haudit
    obtain ⟨hcomplete, hexport, hzero⟩ := h.complete.reopen hopen
    rw [haudit]
    constructor
    · apply hcomplete
    · rw [after, entries, hexport]
      apply h.truthful
    · rw [after, hzero]
      rfl

/-- Every run whose writes succeed leads to an aligned state. -/
theorem aligned_of_run {issuerId : String} {events : List AuditEvent}
    (hrun : run (AnchoringState.step sha3 json) (initial issuerId) events = some s)
    (hfaults : ∀ e ∈ events, e.fault? = none)
    (hread : ∀ entry ∈ s.audit.written, json.entry.RoundTripsAt entry) :
  s.Aligned sha3 json
  := by
  -- The texts of the entries made so far are among those of the entries made in the end.
  revert hread
  apply run_invariant _ _ (meetsAlong_of_forall hfaults _) hrun
  · intro s₁ e s₂ hinv hfault hstep hread
    have hwritten := AuditState.written_subset (step_eq_some.mp hstep).1
    apply (hinv fun entry hentry => hread entry (hwritten hentry)).step hfault hstep hread
  · intro _
    apply aligned_initial

/-- There are no entries since the last anchor if it reaches to the end of the log. -/
theorem Aligned.nothingSinceAnchor_iff (h : s.Aligned sha3 json) :
  s.NothingSinceAnchor json ↔ (s.entries json).length = s.anchoredLength
  := by
  rw [NothingSinceAnchor, anchoredLength]
  cases hlast : s.anchors.getLast? with
  | none =>
    rw [Option.map_none, Option.elim_none, List.getLast?_eq_none_iff, List.length_eq_zero_iff]
  | some anchor =>
    have hmem := (h.truthful anchor (List.mem_of_getLast? hlast)).1
    rw [Option.map_some, Option.elim_some]
    apply h.complete.tracks.chain.getLast?_eq_iff hmem

/-- With no entries since the last anchor, an attempt to anchor is refused unless there is an anchor
and the log was reopened since. -/
theorem Aligned.anchorRefused_iff (h : s.Aligned sha3 json) (timestampNs : UInt64)
    (hnothing : s.NothingSinceAnchor json) :
  s.AnchorRefused sha3 json timestampNs ↔ ¬ (s.reopened = true ∧ s.anchors ≠ [])
  := by
  have hlen := h.nothingSinceAnchor_iff.mp hnothing
  rw [AnchorRefused, AuditLog.computeMerkleAnchor_refused_iff,
    h.complete.leavesSinceAnchor_isEmpty_iff, h.lastAnchorSequence]
  change (s.entries json).length ≤ _ ↔ _
  rw [hlen, anchoredLength]
  cases s.reopened with
  | false => simp
  | true =>
    rcases List.eq_nil_or_concat' s.anchors with hanchors | ⟨anchors, anchor, hanchors⟩
    · simp [hanchors]
    · simp [hanchors]

/-- In every run whose writes succeed, every recorded anchor is truthful; and an attempt to anchor
with no entries since the last anchor is refused, except when the log was reopened since that
anchor. -/
theorem truthful_and_refused_iff_of_run {issuerId : String} {events : List AuditEvent}
    (hrun : run (AnchoringState.step sha3 json) (initial issuerId) events = some s)
    (hfaults : ∀ e ∈ events, e.fault? = none)
    (hread : ∀ entry ∈ s.audit.written, json.entry.RoundTripsAt entry) :
  (∀ anchor ∈ s.anchors, anchor.Truthful sha3 (s.entries json)) ∧
    ∀ timestampNs, (s.NothingSinceAnchor json → s.AnchorRefused sha3 json timestampNs) ↔
      ¬ s.ReopenedAtAnchor json
  := by
  have haligned := aligned_of_run hrun hfaults hread
  use haligned.truthful
  intro timestampNs
  rw [ReopenedAtAnchor, not_and]
  constructor
  · intro hrefused hnothing
    apply (haligned.anchorRefused_iff timestampNs hnothing).mp (hrefused hnothing)
  · intro hreopened hnothing
    apply (haligned.anchorRefused_iff timestampNs hnothing).mpr (hreopened hnothing)

/-! ### An anchored deletion -/

/-- The event of the anchor of the first deletion: the root of one hash is that hash. -/
def deletionAnchorEvent : AuditEventType :=
  .merkleAnchor (hexEncode AuditState.deletionEntry.hash.1) 0 0 1

/-- The JSON text of this event. -/
def deletionAnchorText : Bytes :=
  asBytes ("\x7b\"MerkleAnchor\":\x7b\"merkle_root\":\""
    ++ hexEncode AuditState.deletionEntry.hash.1
    ++ "\",\"from_sequence\":0,\"to_sequence\":0,\"entry_count\":1\x7d\x7d")

/-- The entry of this anchor, written at time 2. -/
def deletionAnchorEntry : AuditEntry where
  sequence := 1
  prevHash := AuditState.deletionEntry.hash
  hash := primeHash (AuditState.deletionEntry.hash.1
    ++ (beBytes 8 2 ++ (beBytes 8 1 ++ deletionAnchorText)))
  timestampNs := 2
  event := deletionAnchorEvent
  issuerId := "node"

/-- The root of the hashes of the deletion and of its anchor. -/
def secondRoot : Block 32 :=
  merkleRoot primeHash [AuditState.deletionEntry.hash, deletionAnchorEntry.hash]

/-- The event of an anchor of both entries. -/
def secondAnchorEvent : AuditEventType := .merkleAnchor (hexEncode secondRoot.1) 0 1 2

/-- The JSON text of this event. -/
def secondAnchorText : Bytes :=
  asBytes ("\x7b\"MerkleAnchor\":\x7b\"merkle_root\":\"" ++ hexEncode secondRoot.1
    ++ "\",\"from_sequence\":0,\"to_sequence\":1,\"entry_count\":2\x7d\x7d")

/-- The entry of the second anchor, written at time 3. -/
def secondAnchorEntry : AuditEntry where
  sequence := 2
  prevHash := deletionAnchorEntry.hash
  hash := primeHash (deletionAnchorEntry.hash.1
    ++ (beBytes 8 3 ++ (beBytes 8 2 ++ secondAnchorText)))
  timestampNs := 3
  event := secondAnchorEvent
  issuerId := "node"

/-- The codecs of these events, and of all entries, with the JSON texts of these three. -/
def anchorsJson : AuditJson where
  event := .table [(.entryDeleted "k", AuditState.deletionText),
    (deletionAnchorEvent, deletionAnchorText), (secondAnchorEvent, secondAnchorText)]
  entry := .tableOrZeros [(AuditState.deletionEntry,
      entryText AuditState.deletionEntry AuditState.deletionText),
    (deletionAnchorEntry, entryText deletionAnchorEntry deletionAnchorText),
    (secondAnchorEntry, entryText secondAnchorEntry secondAnchorText)]
  history _ := .error "unsupported"

/-- Every entry is read back from its text. -/
theorem roundTripsAt_anchors (entry : AuditEntry) :
  anchorsJson.entry.RoundTripsAt entry
  := by
  apply JsonCodec.roundTripsAt_tableOrZeros
  · decide +kernel
  · decide +kernel

/-- A run that records the deletion and an anchor. -/
def anchorRun : List AuditEvent :=
  [.append 1 (.entryDeleted "k") none, .anchor 2 none]

/-- The anchor of this run is truthful, and another attempt is refused. -/
theorem truthful_and_refused_anchorRun :
  ∃ s, run (AnchoringState.step primeHash anchorsJson) (initial "node") anchorRun = some s ∧
    s.anchors = [⟨deletionAnchorEntry, AuditState.deletionEntry.hash⟩] ∧
    (∀ anchor ∈ s.anchors, anchor.Truthful primeHash (s.entries anchorsJson)) ∧
    s.AnchorRefused primeHash anchorsJson 3
  := by
  have hsummary : (run (AnchoringState.step primeHash anchorsJson) (initial "node")
      anchorRun).map (fun s => (s.entries anchorsJson, s.anchors, s.reopened))
        = some ([AuditState.deletionEntry, deletionAnchorEntry],
          [⟨deletionAnchorEntry, AuditState.deletionEntry.hash⟩], false) := by
    decide +kernel
  obtain ⟨s, hrun, hs⟩ := Option.map_eq_some_iff.mp hsummary
  simp only [Prod.mk.injEq] at hs
  obtain ⟨hentries, hanchors, hreopened⟩ := hs
  have hfaults : ∀ e ∈ anchorRun, e.fault? = none := by
    decide
  have hsound := truthful_and_refused_iff_of_run hrun hfaults fun entry _ =>
    roundTripsAt_anchors entry
  refine ⟨s, hrun, hanchors, hsound.1, (hsound.2 3).mpr ?_ ?_⟩
  · rintro ⟨-, hreopened', -⟩
    rw [hreopened] at hreopened'
    cases hreopened'
  · rw [NothingSinceAnchor, hentries, hanchors]
    rfl

/-- After the same run and a reopening, there are no entries since the anchor, but an anchor of both
entries is recorded. -/
theorem reanchored_anchorRun :
  ∃ s, run (AnchoringState.step primeHash anchorsJson) (initial "node")
      (anchorRun ++ [.reopen "node"]) = some s ∧
    (∀ e ∈ anchorRun ++ [.reopen "node"], e.fault? = none) ∧
    (∀ entry, anchorsJson.entry.RoundTripsAt entry) ∧
    s.NothingSinceAnchor anchorsJson ∧
    (s.audit.log.computeMerkleAnchor primeHash anchorsJson 3 none).2 = .ok secondRoot ∧
    (s.audit.log.computeMerkleAnchor primeHash anchorsJson 3 none).1.exportAll anchorsJson
      = [AuditState.deletionEntry, deletionAnchorEntry, secondAnchorEntry] ∧
    ¬ s.AnchorRefused primeHash anchorsJson 3
  := by
  have hsummary : (run (AnchoringState.step primeHash anchorsJson) (initial "node")
      (anchorRun ++ [.reopen "node"])).map (fun s => (s.entries anchorsJson, s.anchors))
      = some ([AuditState.deletionEntry, deletionAnchorEntry],
          [⟨deletionAnchorEntry, AuditState.deletionEntry.hash⟩]) := by
    decide +kernel
  have hattempt : (run (AnchoringState.step primeHash anchorsJson) (initial "node")
      (anchorRun ++ [.reopen "node"])).map (fun s =>
        ((s.audit.log.computeMerkleAnchor primeHash anchorsJson 3 none).2.toOption,
          (s.audit.log.computeMerkleAnchor primeHash anchorsJson 3 none).1.exportAll anchorsJson))
      = some (some secondRoot,
          [AuditState.deletionEntry, deletionAnchorEntry, secondAnchorEntry]) := by
    decide +kernel
  obtain ⟨s, hrun, hs⟩ := Option.map_eq_some_iff.mp hsummary
  obtain ⟨hentries, hanchors⟩ := Prod.mk.inj hs
  rw [hrun] at hattempt
  obtain ⟨hroot, hexport⟩ := Prod.mk.inj (Option.some.inj hattempt)
  have hok : (s.audit.log.computeMerkleAnchor primeHash anchorsJson 3 none).2
      = .ok secondRoot := by
    cases h : (s.audit.log.computeMerkleAnchor primeHash anchorsJson 3 none).2 with
    | error e =>
      rw [h] at hroot
      cases hroot
    | ok root =>
      rw [h] at hroot
      rw [Option.some.inj hroot]
  refine ⟨s, hrun, by decide, roundTripsAt_anchors, ?_, hok, hexport, ?_⟩
  · rw [NothingSinceAnchor, hentries, hanchors]
    rfl
  · intro hrefused
    rw [hrefused] at hok
    cases hok

end AnchoringState

end Cachee
