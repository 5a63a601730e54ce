import Cachee.Audit.Anchors
import Cachee.Library.Spans

/-!
# The ranges of successive anchors

An anchor covers the entries since the last one, but not its own entry, which comes before the place
from which the log counts on.  So the ranges of the stored anchors are spaced, with a gap of one
sequence for the entry of each anchor: once there is a later anchor, every other entry lies in
exactly one range.  This is said about runs without an anchor that is taken while the log counts
from the beginning again, because it was reopened after an anchor.
-/

open Text

namespace Cachee

/-- The sequences that an anchor covers. -/
def AuditEventType.span? : AuditEventType → Option Span
  | merkleAnchor _ fromSequence toSequence _ => some ⟨fromSequence.toNat, toSequence.toNat⟩
  | _ => none

/-- The ranges of the anchors among the entries. -/
def anchorSpans (entries : List AuditEntry) : List Span :=
  entries.filterMap fun entry => entry.event.span?

/-- The ranges of the anchors among the entries start at 0 and are spaced by one sequence, which is
that of the entry of the anchor. -/
structure AnchorsSpaced (entries : List AuditEntry) : Prop where
  spaced : Span.Spaced 1 0 (anchorSpans entries)
  sequence : ∀ entry ∈ entries, ∀ span, entry.event.span? = some span →
    entry.sequence.toNat = span.last + 1

namespace AuditState

section Definitions

variable (sha3 : Bytes → Block 32) (json : AuditJson)

/-- The stored entries that the log knows. -/
def known (s : AuditState) : List AuditEntry :=
  (s.log.exportAll json).take s.log.nextSequence.toNat

/-- The log knows an anchor, but counts from the beginning again, because it was reopened. -/
def CountsAgain (s : AuditState) : Prop :=
  s.log.lastAnchorSequence = 0 ∧ anchorSpans (s.known json) ≠ []

instance (s : AuditState) : Decidable (s.CountsAgain json) :=
  inferInstanceAs (Decidable (_ ∧ _))

/-- An event appends no anchor but by anchoring, and does not anchor while the log counts from the
beginning again. -/
def Continues (s : AuditState) : AuditEvent → Prop
  | .append _ event _ => event.span? = none
  | .anchor _ _ => ¬ s.CountsAgain json
  | .reopen _ => True

instance (s : AuditState) (e : AuditEvent) : Decidable (s.Continues json e) :=
  match e with
  | .append _ event _ => inferInstanceAs (Decidable (event.span? = none))
  | .anchor _ _ => inferInstanceAs (Decidable (¬ s.CountsAgain json))
  | .reopen _ => isTrue trivial

/-- The invariant of the runs: the ranges of the stored anchors are spaced, and the log counts from
the place of the next one on unless it counts again. -/
structure Covered (s : AuditState) : Prop where
  spaced : AnchorsSpaced (s.log.exportAll json)
  lastAnchorSequence :
    s.log.lastAnchorSequence.toNat = Span.next 1 0 (anchorSpans (s.known json)) ∨
      s.CountsAgain json

end Definitions

end AuditState

variable {sha3 : Bytes → Block 32} {json : AuditJson} {entries : List AuditEntry}
  {entry : AuditEntry}

/-! ### Spaced anchors -/

theorem anchorSpans_concat (entries : List AuditEntry) (entry : AuditEntry) :
  anchorSpans (entries ++ [entry]) = anchorSpans entries ++ entry.event.span?.toList
  := by
  rw [anchorSpans, List.filterMap_append, List.filterMap_cons, List.filterMap_nil]
  cases entry.event.span? with
  | none => rfl
  | some span => rfl

theorem anchorsSpaced_nil :
  AnchorsSpaced []
  := ⟨trivial, by simp⟩

/-- Another entry keeps the anchors spaced, if it is no anchor, or one whose range starts at the next
place and ends before its own sequence. -/
theorem AnchorsSpaced.concat (h : AnchorsSpaced entries)
    (hentry : ∀ span, entry.event.span? = some span →
      span.first = Span.next 1 0 (anchorSpans entries) ∧ span.first ≤ span.last ∧
        entry.sequence.toNat = span.last + 1) :
  AnchorsSpaced (entries ++ [entry])
  := by
  constructor
  · rw [anchorSpans_concat]
    cases hspan : entry.event.span? with
    | none =>
      rw [Option.toList_none, List.append_nil]
      apply h.spaced
    | some span =>
      obtain ⟨hfirst, hle, -⟩ := hentry span hspan
      exact Span.spaced_concat.mpr ⟨h.spaced, hfirst, hle⟩
  · intro other hother span hspan
    rcases List.mem_append.mp hother with hmem | hmem
    · apply h.sequence other hmem span hspan
    · obtain rfl := List.mem_singleton.mp hmem
      exact (hentry span hspan).2.2

/-- The anchors among the first entries are spaced. -/
theorem AnchorsSpaced.take (h : AnchorsSpaced entries) (n : ℕ) :
  AnchorsSpaced (entries.take n)
  := by
  constructor
  · have hspaced := h.spaced
    rw [← List.take_append_drop n entries, anchorSpans, List.filterMap_append] at hspaced
    apply hspaced.of_append
  · intro entry hentry
    apply h.sequence entry (List.mem_of_mem_take hentry)

/-- Once there is a later anchor, an entry of a chain lies in exactly one range, or in none if it
is that of an anchor. -/
theorem AnchorsSpaced.count_eq (h : AnchorsSpaced entries)
    (hchain : IsChain sha3 json (Block.zero 32) 0 entries) (hentry : entry ∈ entries)
    {anchor : AuditEntry} (hanchor : anchor ∈ entries) (hevent : anchor.event.span?.isSome)
    (hlater : entry.sequence < anchor.sequence) :
  Span.count (anchorSpans entries) entry.sequence.toNat
    = if entry.event.span?.isSome then 0 else 1
  := by
  obtain ⟨span, hspan⟩ := Option.isSome_iff_exists.mp hevent
  have hsequence := h.sequence anchor hanchor span hspan
  rw [UInt64.lt_iff_toNat_lt] at hlater
  have hmem : span ∈ anchorSpans entries := List.mem_filterMap.mpr ⟨anchor, hanchor, hspan⟩
  rw [h.spaced.count_eq (Nat.zero_le _) hmem (by omega)]
  -- The gaps are the sequences of the anchors.
  have hgap : Span.InGap 1 (anchorSpans entries) entry.sequence.toNat
      ↔ entry.event.span?.isSome := by
    constructor
    · rintro ⟨other, hother, hlt, hle⟩
      obtain ⟨own, hown, hspan'⟩ := List.mem_filterMap.mp hother
      have hown' := h.sequence own hown other hspan'
      have heq : own.sequence = entry.sequence := by
        apply UInt64.toNat_inj.mp
        omega
      have hget := hchain.getElem?_sequence hown
      rw [heq, hchain.getElem?_sequence hentry] at hget
      rw [Option.some.inj hget, hspan']
      rfl
    · intro hsome
      obtain ⟨other, hother⟩ := Option.isSome_iff_exists.mp hsome
      have hown := h.sequence entry hentry other hother
      exact ⟨other, List.mem_filterMap.mpr ⟨entry, hentry, hother⟩, by omega, by omega⟩
  simp only [hgap]

namespace AuditState

variable {s s' : AuditState}

/-! ### The entries that the log knows -/

/-- In a consistent state, the log has the entries that it knows in memory. -/
theorem Consistent.stores_known (h : s.Consistent sha3 json) :
  Tracks sha3 json s.log (s.known json) ∧
    if s.pending then
      ∃ entry, AuditEntry.Continues sha3 json (lastHash (Block.zero 32) (s.known json))
          (s.known json).length entry ∧
        Stores json s.log.db (s.known json ++ [entry])
    else Stores json s.log.db (s.known json)
  := by
  obtain ⟨entries, htracks, hstores⟩ := h
  have hknown : s.known json = entries := by
    rw [AuditState.known, htracks.nextSequence]
    cases hpending : s.pending with
    | false =>
      simp only [hpending, Bool.false_eq_true, if_false] at hstores
      rw [AuditLog.exportAll_of_stores hstores, List.take_length]
    | true =>
      simp only [hpending, if_true] at hstores
      obtain ⟨entry, -, hstores⟩ := hstores
      rw [AuditLog.exportAll_of_stores hstores, List.take_left]
  rw [hknown]
  exact ⟨htracks, hstores⟩

/-- The entries that are stored with a new one are those that the log knows, and the new one. -/
theorem Consistent.exportAll_insertEntry (h : s.Consistent sha3 json) {timestampNs : UInt64}
    {event : AuditEventType} {text : Bytes}
    (hread : json.entry.RoundTripsAt (s.log.newEntry sha3 json timestampNs event))
    (htext : json.entry.toVec (s.log.newEntry sha3 json timestampNs event) = .ok text)
    (hdb : s'.log.db = (s.log.insertEntry text).db) :
  s'.log.exportAll json = s.known json ++ [s.log.newEntry sha3 json timestampNs event]
  := by
  obtain ⟨htracks, hstores⟩ := h.stores_known
  apply AuditLog.exportAll_of_stores
  rw [hdb]
  apply htracks.stores_newEntry hstores hread htext

/-- The log knows as many entries as it has sequences. -/
theorem Consistent.length_known (h : s.Consistent sha3 json) :
  (s.known json).length = s.log.nextSequence.toNat
  := h.stores_known.1.nextSequence.symm

/-- A log that has not moved on to a new entry knows the entries that it knew before. -/
theorem Consistent.known_of_stored (h : s.Consistent sha3 json)
    (hexport : s'.log.exportAll json = s.known json ++ [entry])
    (hnext : s'.log.nextSequence = s.log.nextSequence) :
  s'.known json = s.known json
  := by
  rw [known, hexport, hnext, ← h.length_known, List.take_left]

/-- A log that has moved on to a new entry knows it as well. -/
theorem Consistent.known_of_appended (h : s.Consistent sha3 json)
    (hexport : s'.log.exportAll json = s.known json ++ [entry])
    (hnext : s'.log.nextSequence.toNat = s.log.nextSequence.toNat + 1) :
  s'.known json = s.known json ++ [entry]
  := by
  rw [known, hexport, hnext, ← h.length_known]
  apply List.take_of_length_le
  rw [List.length_append, List.length_singleton]

/-- The range of an anchor goes from the place from which the log counts to the last sequence. -/
theorem Tracks.anchorEvent_span? {log : AuditLog} (h : Tracks sha3 json log entries)
    (hsome : log.leavesSinceAnchor.isEmpty = false) :
  log.lastAnchorSequence.toNat < log.nextSequence.toNat ∧
    (log.anchorEvent sha3).span?
      = some ⟨log.lastAnchorSequence.toNat, log.nextSequence.toNat - 1⟩
  := by
  have hlt : log.lastAnchorSequence.toNat < log.nextSequence.toNat := by
    rw [AuditLog.leavesSinceAnchor, h.merkleLeaves, List.isEmpty_eq_false_iff, ne_eq,
      List.drop_eq_nil_iff, List.length_map, not_le, ← h.nextSequence] at hsome
    apply hsome
  use hlt
  have hne : log.nextSequence ≠ 0 := by
    intro hzero
    rw [hzero] at hlt
    exact absurd hlt (Nat.not_lt_zero _)
  rw [AuditLog.anchorEvent, AuditEventType.span?, if_neg hne, UInt64.toNat_sub_of_le]
  · rfl
  · rw [UInt64.le_iff_toNat_le]
    simp only [UInt64.reduceToNat]
    omega

/-! ### What the steps keep -/

/-- Whether a state is covered depends on the stored entries, and on the sequences that the log has
in memory. -/
theorem Covered.of_eq (h : s.Covered json)
    (hexport : s'.log.exportAll json = s.log.exportAll json)
    (hnext : s'.log.nextSequence = s.log.nextSequence)
    (hanchor : s'.log.lastAnchorSequence = s.log.lastAnchorSequence) :
  s'.Covered json
  := by
  have hknown : s'.known json = s.known json := by
    rw [known, known, hexport, hnext]
  constructor
  · rw [hexport]
    apply h.spaced
  · rw [CountsAgain, hanchor, hknown]
    apply h.lastAnchorSequence

/-- An entry that is stored, but to which the log has not moved on, keeps the state covered. -/
theorem Covered.stored (h : s.Covered json) (hconsistent : s.Consistent sha3 json)
    (hexport : s'.log.exportAll json = s.known json ++ [entry])
    (hspaced : AnchorsSpaced (s.known json ++ [entry]))
    (hnext : s'.log.nextSequence = s.log.nextSequence)
    (hanchor : s'.log.lastAnchorSequence = s.log.lastAnchorSequence) :
  s'.Covered json
  := by
  constructor
  · rw [hexport]
    apply hspaced
  · rw [CountsAgain, hanchor, hconsistent.known_of_stored hexport hnext]
    apply h.lastAnchorSequence

/-- An appended entry that is no anchor keeps the state covered. -/
theorem Covered.appended (h : s.Covered json) (hconsistent : s.Consistent sha3 json)
    (hexport : s'.log.exportAll json = s.known json ++ [entry])
    (hevent : entry.event.span? = none)
    (hnext : s'.log.nextSequence.toNat = s.log.nextSequence.toNat + 1)
    (hanchor : s'.log.lastAnchorSequence = s.log.lastAnchorSequence) :
  s'.Covered json
  := by
  constructor
  · rw [hexport]
    apply (h.spaced.take _).concat
    simp [hevent]
  · rw [CountsAgain, hanchor, hconsistent.known_of_appended hexport hnext, anchorSpans_concat,
      hevent, Option.toList_none, List.append_nil]
    apply h.lastAnchorSequence

/-- The sequences do not reach the end of their type. -/
theorem Consistent.toNat_nextSequence_add_one (h : s.Consistent sha3 json) :
  (s.log.nextSequence + 1).toNat = s.log.nextSequence.toNat + 1
  := by
  have hlength := h.stores_known.1.length_le
  rw [h.length_known] at hlength
  simp only [maxLeaves] at hlength
  rw [UInt64.toNat_add]
  simp only [UInt64.reduceToNat]
  omega

/-- An append keeps the state covered, however it ends, if its event is no anchor. -/
theorem Covered.append (h : s.Covered json) (hconsistent : s.Consistent sha3 json)
    {timestampNs : UInt64} {event : AuditEventType} (hevent : event.span? = none)
    (hread : json.entry.RoundTripsAt (s.log.newEntry sha3 json timestampNs event))
    (fault : Option WriteFault)
    (hlog : s'.log = (s.log.append sha3 json timestampNs fault event).1) :
  s'.Covered json
  := by
  obtain ⟨text, htext, -⟩ := id hread
  have hexport (hdb : s'.log.db = (s.log.insertEntry text).db) :=
    hconsistent.exportAll_insertEntry hread htext hdb
  simp only [AuditLog.append, htext] at hlog
  rcases fault with _ | (e | e)
  · apply h.appended hconsistent (hexport (by rw [hlog])) hevent
    · rw [hlog]
      apply hconsistent.toNat_nextSequence_add_one
    · rw [hlog]
      rfl
  · apply h.of_eq
    · rw [hlog]
    · rw [hlog]
    · rw [hlog]
  · apply h.stored hconsistent (hexport (by rw [hlog]))
    · apply (h.spaced.take _).concat
      intro span hspan
      rw [AuditLog.newEntry, hevent] at hspan
      cases hspan
    · rw [hlog]
      rfl
    · rw [hlog]
      rfl

/-- The next anchor starts behind the entry of the last one, if the log does not count again. -/
theorem Covered.anchorsSpaced_newEntry (h : s.Covered json) (hconsistent : s.Consistent sha3 json)
    (hcounts : ¬ s.CountsAgain json) (hsome : s.log.leavesSinceAnchor.isEmpty = false)
    (timestampNs : UInt64) :
  AnchorsSpaced
    (s.known json ++ [s.log.newEntry sha3 json timestampNs (s.log.anchorEvent sha3)])
  := by
  obtain ⟨hlt, hspan⟩ := hconsistent.stores_known.1.anchorEvent_span? hsome
  have hstart := h.lastAnchorSequence.resolve_right hcounts
  apply (h.spaced.take _).concat
  intro span hspan'
  obtain rfl := Option.some.inj (hspan.symm.trans hspan')
  refine ⟨hstart, Nat.le_sub_one_of_lt hlt, ?_⟩
  simp only [AuditLog.newEntry]
  omega

/-- An anchor keeps the state covered, however it ends, if the log does not count again. -/
theorem Covered.anchor (h : s.Covered json) (hconsistent : s.Consistent sha3 json)
    (hcounts : ¬ s.CountsAgain json) (hsome : s.log.leavesSinceAnchor.isEmpty = false)
    {timestampNs : UInt64}
    (hread : json.entry.RoundTripsAt
      (s.log.newEntry sha3 json timestampNs (s.log.anchorEvent sha3)))
    (fault : Option WriteFault)
    (hlog : s'.log = (s.log.computeMerkleAnchor sha3 json timestampNs fault).1) :
  s'.Covered json
  := by
  obtain ⟨text, htext, -⟩ := id hread
  have hexport (hdb : s'.log.db = (s.log.insertEntry text).db) :=
    hconsistent.exportAll_insertEntry hread htext hdb
  obtain ⟨hlt, hspan⟩ := hconsistent.stores_known.1.anchorEvent_span? hsome
  have hspaced := h.anchorsSpaced_newEntry hconsistent hcounts hsome timestampNs
  rw [AuditLog.computeMerkleAnchor, if_neg (by simp [hsome])] at hlog
  simp only [AuditLog.append, htext] at hlog
  rcases fault with _ | (e | e)
  · -- The log counts from behind the entry of the anchor on.
    have hnext : s'.log.nextSequence.toNat = s.log.nextSequence.toNat + 1 := by
      rw [hlog]
      apply hconsistent.toNat_nextSequence_add_one
    have hexport' := hexport (by rw [hlog])
    have hevent : (s.log.newEntry sha3 json timestampNs (s.log.anchorEvent sha3)).event.span?
        = some ⟨s.log.lastAnchorSequence.toNat, s.log.nextSequence.toNat - 1⟩ := hspan
    constructor
    · rw [hexport']
      apply hspaced
    · left
      rw [hconsistent.known_of_appended hexport' hnext, anchorSpans_concat, hevent,
        Option.toList_some, Span.next_concat, hlog]
      simp only [hconsistent.toNat_nextSequence_add_one]
      omega
  · apply h.of_eq
    · rw [hlog]
    · rw [hlog]
    · rw [hlog]
  · apply h.stored hconsistent (hexport (by rw [hlog])) hspaced
    · rw [hlog]
      rfl
    · rw [hlog]
      rfl

/-- Reopening keeps the state covered: the log knows all stored entries, and counts from the
beginning on. -/
theorem Covered.reopen (h : s.Covered json) (hconsistent : s.Consistent sha3 json)
    {issuerId : String} (hopen : AuditLog.openDb json s.log.db issuerId = .ok s'.log) :
  s'.Covered json
  := by
  obtain ⟨known, stored, htracks, hchain, hstores, hlen, -⟩ := hconsistent.stores
  have hlt := hlen ▸ htracks.length_lt s.pending
  obtain ⟨log, hopen', hdb, -, hnext, -, hanchor⟩ :=
    AuditLog.openDb_of_stores issuerId hchain hlt hstores
  obtain rfl := Except.ok.inj (hopen.symm.trans hopen')
  have hexport : s'.log.exportAll json = s.log.exportAll json := by
    rw [AuditLog.exportAll, AuditLog.exportAll, hdb]
  constructor
  · rw [hexport]
    apply h.spaced
  · rw [CountsAgain, hanchor]
    rcases eq_or_ne (anchorSpans (s'.known json)) [] with hnone | hsome
    · left
      rw [hnone]
      rfl
    · exact .inr ⟨rfl, hsome⟩

/-- A step keeps a state covered, when it does not anchor while the log counts again. -/
theorem Covered.step (h : s.Covered json) (hconsistent : s.Consistent sha3 json) {e : AuditEvent}
    (hcontinues : s.Continues json e) (hstep : AuditState.step sha3 json s e = some s')
    (hread : ∀ entry ∈ s'.written, json.entry.RoundTripsAt entry) :
  s'.Covered json
  := by
  cases e with
  | append timestampNs event fault =>
    obtain ⟨-, rfl⟩ := withLog_eq_some.mp hstep
    apply h.append hconsistent hcontinues (hread _ (by simp)) fault rfl
  | anchor timestampNs fault =>
    obtain ⟨-, rfl⟩ | ⟨hempty, -, rfl⟩ := step_anchor hstep
    · apply h
    · apply h.anchor hconsistent hcontinues hempty (hread _ (by simp)) fault rfl
  | reopen issuerId =>
    obtain ⟨log, hopen, -, rfl⟩ := step_reopen hstep
    apply h.reopen hconsistent hopen

theorem covered_initial (json : AuditJson) (issuerId : String) :
  (initial issuerId).Covered json
  := by
  have hexport : (initial issuerId).log.exportAll json = [] := rfl
  constructor
  · rw [hexport]
    apply anchorsSpaced_nil
  · left
    rw [known, hexport, List.take_nil]
    rfl

/-- In every run that anchors only while the log counts on from its last anchor, the ranges of the
stored anchors start at 0 and are spaced by one sequence, which is that of the entry of the anchor;
and once there is a later anchor, an entry lies in exactly one range, or in none if it is that of
an anchor. -/
theorem anchorsSpaced_and_count_eq_of_run {issuerId : String} {events : List AuditEvent}
    (hrun : run (AuditState.step sha3 json) (initial issuerId) events = some s)
    (hcontinues : MeetsAlong (AuditState.step sha3 json) (Continues json) (initial issuerId)
      events)
    (hread : ∀ entry ∈ s.written, json.entry.RoundTripsAt entry) :
  AnchorsSpaced (s.log.exportAll json) ∧
    ∀ entry ∈ s.log.exportAll json, ∀ anchor ∈ s.log.exportAll json,
      anchor.event.span?.isSome → entry.sequence < anchor.sequence →
        Span.count (anchorSpans (s.log.exportAll json)) entry.sequence.toNat
          = if entry.event.span?.isSome then 0 else 1
  := by
  have hinvariant : s.Consistent sha3 json ∧ s.Covered json := by
    -- The texts of the entries made so far are among those of the entries made in the end.
    revert hread
    apply run_invariant _ _ hcontinues hrun
    · intro s₁ e s₂ hinv hcontinues₁ hstep hread₂
      obtain ⟨hconsistent, hcovered⟩ :=
        hinv fun entry hentry => hread₂ entry (written_subset hstep hentry)
      exact ⟨hconsistent.step hstep hread₂,
        hcovered.step hconsistent hcontinues₁ hstep hread₂⟩
    · intro _
      exact ⟨consistent_initial issuerId, covered_initial json issuerId⟩
  obtain ⟨hconsistent, hcovered⟩ := hinvariant
  use hcovered.spaced
  intro entry hentry anchor hanchor hevent hlater
  obtain ⟨known, stored, -, hchain, hstores, -⟩ := hconsistent.stores
  rw [← AuditLog.exportAll_of_stores hstores] at hchain
  apply hcovered.spaced.count_eq hchain hentry hanchor hevent hlater

/-! ### Two anchored deletions -/

/-- The entry of another deletion of the key `k` after an anchored one, written at time 3. -/
def laterDeletionEntry : AuditEntry where
  sequence := 2
  prevHash := AnchoringState.deletionAnchorEntry.hash
  hash := primeHash (AnchoringState.deletionAnchorEntry.hash.1
    ++ (beBytes 8 3 ++ (beBytes 8 2 ++ deletionText)))
  timestampNs := 3
  event := .entryDeleted "k"
  issuerId := "node"

/-- The event of the anchor of this deletion. -/
def laterAnchorEvent : AuditEventType :=
  .merkleAnchor (hexEncode laterDeletionEntry.hash.1) 2 2 1

/-- The JSON text of this event. -/
def laterAnchorText : Bytes :=
  asBytes ("\x7b\"MerkleAnchor\":\x7b\"merkle_root\":\"" ++ hexEncode laterDeletionEntry.hash.1
    ++ "\",\"from_sequence\":2,\"to_sequence\":2,\"entry_count\":1\x7d\x7d")

/-- The entry of this anchor, written at time 4. -/
def laterAnchorEntry : AuditEntry where
  sequence := 3
  prevHash := laterDeletionEntry.hash
  hash := primeHash (laterDeletionEntry.hash.1
    ++ (beBytes 8 4 ++ (beBytes 8 3 ++ laterAnchorText)))
  timestampNs := 4
  event := laterAnchorEvent
  issuerId := "node"

/-- The codecs of these events, and of all entries, with the JSON texts of these four. -/
def coverageJson : AuditJson where
  event := .table [(.entryDeleted "k", deletionText),
    (AnchoringState.deletionAnchorEvent, AnchoringState.deletionAnchorText),
    (laterAnchorEvent, laterAnchorText)]
  entry := .tableOrZeros [(deletionEntry, entryText deletionEntry deletionText),
    (AnchoringState.deletionAnchorEntry,
      entryText AnchoringState.deletionAnchorEntry AnchoringState.deletionAnchorText),
    (laterDeletionEntry, entryText laterDeletionEntry deletionText),
    (laterAnchorEntry, entryText laterAnchorEntry laterAnchorText)]
  history _ := .error "unsupported"

/-- Every entry is read back from its text. -/
theorem roundTripsAt_coverage (entry : AuditEntry) :
  coverageJson.entry.RoundTripsAt entry
  := by
  apply JsonCodec.roundTripsAt_tableOrZeros
  · decide +kernel
  · decide +kernel

/-- A run that records a deletion and an anchor twice. -/
def coverageRun : List AuditEvent :=
  [.append 1 (.entryDeleted "k") none, .anchor 2 none, .append 3 (.entryDeleted "k") none,
    .anchor 4 none]

/-- What this run stores. -/
theorem exportAll_coverageRun :
  ∃ s, run (step primeHash coverageJson) (initial "node") coverageRun = some s ∧
    s.log.exportAll coverageJson = [deletionEntry, AnchoringState.deletionAnchorEntry,
      laterDeletionEntry, laterAnchorEntry]
  := by
  have hexport : (run (step primeHash coverageJson) (initial "node") coverageRun).map
      (fun s => s.log.exportAll coverageJson)
        = some [deletionEntry, AnchoringState.deletionAnchorEntry, laterDeletionEntry,
          laterAnchorEntry] := by
    decide +kernel
  apply Option.map_eq_some_iff.mp hexport

/-- In this run the two deletions lie in exactly one range, and the first anchor lies in none. -/
theorem count_eq_coverageRun :
  ∃ s, run (step primeHash coverageJson) (initial "node") coverageRun = some s ∧
    Span.count (anchorSpans (s.log.exportAll coverageJson)) 0 = 1 ∧
    Span.count (anchorSpans (s.log.exportAll coverageJson)) 1 = 0 ∧
    Span.count (anchorSpans (s.log.exportAll coverageJson)) 2 = 1
  := by
  obtain ⟨s, hrun, hexport⟩ := exportAll_coverageRun
  have hcontinues : MeetsAlong (step primeHash coverageJson) (Continues coverageJson)
      (initial "node") coverageRun := by
    decide +kernel
  obtain ⟨-, hcount⟩ := anchorsSpaced_and_count_eq_of_run hrun hcontinues
    fun entry _ => roundTripsAt_coverage entry
  have hanchor : laterAnchorEntry ∈ s.log.exportAll coverageJson := by
    simp [hexport]
  refine ⟨s, hrun, ?_, ?_, ?_⟩
  · exact hcount deletionEntry (by simp [hexport]) laterAnchorEntry hanchor rfl (by decide)
  · exact hcount AnchoringState.deletionAnchorEntry (by simp [hexport]) laterAnchorEntry hanchor
      rfl (by decide)
  · exact hcount laterDeletionEntry (by simp [hexport]) laterAnchorEntry hanchor rfl (by decide)

/-- In this run, without a reopening or a failure, the ranges of the two anchors are not adjacent,
and the entry of the first one, which is before the second one, lies in no range. -/
theorem uncovered_coverageRun :
  ∃ s, run (step primeHash coverageJson) (initial "node") coverageRun = some s ∧
    (∀ entry, coverageJson.entry.RoundTripsAt entry) ∧
    anchorSpans (s.log.exportAll coverageJson) = [⟨0, 0⟩, ⟨2, 2⟩] ∧
    ¬ Span.Spaced 0 0 (anchorSpans (s.log.exportAll coverageJson)) ∧
    AnchoringState.deletionAnchorEntry ∈ s.log.exportAll coverageJson ∧
    laterAnchorEntry ∈ s.log.exportAll coverageJson ∧
    AnchoringState.deletionAnchorEntry.sequence < laterAnchorEntry.sequence ∧
    Span.count (anchorSpans (s.log.exportAll coverageJson))
      AnchoringState.deletionAnchorEntry.sequence.toNat = 0
  := by
  obtain ⟨s, hrun, hexport⟩ := exportAll_coverageRun
  have hspans : anchorSpans (s.log.exportAll coverageJson) = [⟨0, 0⟩, ⟨2, 2⟩] := by
    rw [hexport]
    rfl
  refine ⟨s, hrun, roundTripsAt_coverage, hspans, ?_, ?_, ?_, by decide, ?_⟩
  · rw [hspans]
    rintro ⟨-, -, hfirst, -⟩
    cases hfirst
  · simp [hexport]
  · simp [hexport]
  · rw [hspans]
    decide

end AuditState

end Cachee
