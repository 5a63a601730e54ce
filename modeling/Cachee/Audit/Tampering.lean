import Cachee.Audit.Reachable

/-!
# Tampering with the audit log

Verification of the chain looks at two things in each entry: whether it carries the hash of the
entry before it, and whether it carries its own hash.  As an own hash covers the hash before it,
the last hash commits to all entries of a chain, up to the issuers, which no hash covers.  So a
changed entry is detected when more than its issuer has changed, except at the end of the chain,
where an entry can be replaced by any other that carries the right hashes.
-/

open Text

namespace Cachee

section Linked

variable (sha3 : Bytes → Block 32) (json : AuditJson)

/-- The byte string that the hash of the entry should hash. -/
def AuditEntry.input (entry : AuditEntry) : Bytes :=
  hashInput json entry.prevHash entry.event entry.timestampNs entry.sequence

/-- The entry carries the hash `prevHash` of the entry before it, and its own hash. -/
structure AuditEntry.Rehashed (prevHash : Block 32) (entry : AuditEntry) : Prop where
  prevHash : entry.prevHash = prevHash
  hash : entry.hash = computeHash sha3 json entry.prevHash entry.event entry.timestampNs
    entry.sequence

/-- Every entry carries the hash of the one before it, and its own hash. -/
def IsLinked : Block 32 → List AuditEntry → Prop
  | _, [] => True
  | prevHash, entry :: rest => entry.Rehashed sha3 json prevHash ∧ IsLinked entry.hash rest

/-- Two entries differ at most in the issuer. -/
structure AuditEntry.Agrees (entry entry' : AuditEntry) : Prop where
  prevHash : entry.prevHash = entry'.prevHash
  hash : entry.hash = entry'.hash
  timestampNs : entry.timestampNs = entry'.timestampNs
  sequence : entry.sequence = entry'.sequence
  event : entry.event = entry'.event

/-- Two events with the same JSON text are equal. -/
def SeparatesEvents (event event' : AuditEventType) : Prop :=
  json.event.toVecOrDefault event = json.event.toVecOrDefault event' → event = event'

/-- A verification has found a broken entry. -/
def ReportsBreak (result : Except String (UInt64 × Option UInt64)) : Prop :=
  ∃ count brokenAt, result = .ok (count, some brokenAt)

end Linked

variable {sha3 : Bytes → Block 32} {json : AuditJson} {prevHash : Block 32} {n : ℕ}
  {entries rest : List AuditEntry} {entry entry' : AuditEntry}

/-! ### What verification checks -/

theorem AuditEntry.Continues.rehashed (h : entry.Continues sha3 json prevHash n) :
  entry.Rehashed sha3 json prevHash
  := ⟨h.prevHash, h.hash⟩

/-- A chain is linked. -/
theorem IsChain.isLinked (h : IsChain sha3 json prevHash n entries) :
  IsLinked sha3 json prevHash entries
  := by
  induction entries generalizing prevHash n with
  | nil => trivial
  | cons e rest ih => exact ⟨h.1.rehashed, ih h.2⟩

/-- A list is linked when its two parts are, the second one from the last hash of the first. -/
theorem isLinked_append :
  IsLinked sha3 json prevHash (entries ++ rest) ↔
    IsLinked sha3 json prevHash entries ∧ IsLinked sha3 json (lastHash prevHash entries) rest
  := by
  induction entries generalizing prevHash with
  | nil => simp [IsLinked, lastHash]
  | cons e es ih => rw [List.cons_append, IsLinked, IsLinked, ih, lastHash, and_assoc]

namespace AuditLog

/-- Texts are read as linked entries when the first one is read as a linked entry, and the others
as entries that are linked from its hash on. -/
theorem exists_isLinked_cons_iff {items : List (Bytes × Bytes)} {key value : Bytes}
    (hread : json.entry.fromSlice value = .ok entry) :
  (∃ entries, ((key, value) :: items).map (fun item => json.entry.fromSlice item.2)
      = entries.map .ok ∧ IsLinked sha3 json prevHash entries) ↔
    entry.Rehashed sha3 json prevHash ∧
      ∃ entries, items.map (fun item => json.entry.fromSlice item.2) = entries.map .ok ∧
        IsLinked sha3 json entry.hash entries
  := by
  constructor
  · rintro ⟨entries, hmap, hlinked⟩
    rw [List.map_cons, hread] at hmap
    cases entries with
    | nil => cases hmap
    | cons e es =>
      obtain ⟨he, hes⟩ := List.cons.inj hmap
      obtain rfl := Except.ok.inj he
      exact ⟨hlinked.1, es, hes, hlinked.2⟩
  · rintro ⟨he, es, hes, hlinked⟩
    refine ⟨entry :: es, ?_, he, hlinked⟩
    rw [List.map_cons, hread, hes, List.map_cons]

/-- Verification succeeds when all texts are read as entries and the entries are linked. -/
theorem verifyFrom_eq_ok_iff {items : List (Bytes × Bytes)} {count : UInt64} :
  (∃ count', verifyFrom sha3 json prevHash count items = .ok (count', none)) ↔
    ∃ entries, items.map (fun item => json.entry.fromSlice item.2) = entries.map .ok ∧
      IsLinked sha3 json prevHash entries
  := by
  induction items generalizing prevHash count with
  | nil =>
    constructor
    · intro _
      exact ⟨[], rfl, trivial⟩
    · intro _
      exact ⟨count, rfl⟩
  | cons item items ih =>
    obtain ⟨key, value⟩ := item
    rw [verifyFrom]
    cases hread : json.entry.fromSlice value with
    | error e =>
      constructor
      · rintro ⟨_, ⟨⟩⟩
      · rintro ⟨entries, hmap, -⟩
        rw [List.map_cons, hread] at hmap
        cases entries with
        | nil => cases hmap
        | cons _ _ => cases (List.cons.inj hmap).1
    | ok e =>
      dsimp only
      rw [exists_isLinked_cons_iff hread, ← @ih _ (count + 1)]
      by_cases hprev : e.prevHash = prevHash
      · by_cases hhash : e.hash = AuditEntry.computeHash sha3 json e.prevHash e.event
            e.timestampNs e.sequence
        · rw [if_neg (not_not.mpr hprev), if_neg (not_not.mpr hhash)]
          exact ⟨fun h => ⟨⟨hprev, hhash⟩, h⟩, And.right⟩
        · rw [if_neg (not_not.mpr hprev), if_pos hhash]
          constructor
          · rintro ⟨_, ⟨⟩⟩
          · intro h
            exact absurd h.1.hash hhash
      · rw [if_pos hprev]
        constructor
        · rintro ⟨_, ⟨⟩⟩
        · intro h
          exact absurd h.1.prevHash hprev

/-- Verification has a result when all texts are read as entries. -/
theorem exists_verifyFrom_eq_ok (sha3 : Bytes → Block 32) (prevHash : Block 32) (count : UInt64)
    {items : List (Bytes × Bytes)}
    (hmap : items.map (fun item => json.entry.fromSlice item.2) = entries.map .ok) :
  ∃ result, verifyFrom sha3 json prevHash count items = .ok result
  := by
  induction items generalizing prevHash count entries with
  | nil => exact ⟨_, rfl⟩
  | cons item items ih =>
    cases entries with
    | nil => cases hmap
    | cons e rest =>
      obtain ⟨he, hrest⟩ := List.cons.inj hmap
      have htext : json.entry.fromSlice item.2 = .ok e := he
      rw [verifyFrom, htext]
      dsimp only
      split
      · exact ⟨_, rfl⟩
      · split
        · exact ⟨_, rfl⟩
        · apply ih _ _ hrest

/-- The texts in the database of a log are read as the given entries. -/
def ReadsAs (json : AuditJson) (log : AuditLog) (entries : List AuditEntry) : Prop :=
  log.db.toList.map (fun item => json.entry.fromSlice item.2) = entries.map .ok

/-- A database that stores entries is read as these. -/
theorem readsAs_of_stores {log : AuditLog} (h : Stores json log.db entries) :
  log.ReadsAs json entries
  := by
  rw [ReadsAs, h.toList_eq, List.map_map]
  apply List.map_congr_left
  intro e he
  apply (h.roundTrips e he).fromSlice_eq

/-- Verification of a database that is read as entries succeeds when the entries are linked. -/
theorem ReadsAs.verifyChain_eq_ok_iff {log : AuditLog} (h : log.ReadsAs json entries) :
  (∃ count, log.verifyChain sha3 json = .ok (count, none)) ↔
    IsLinked sha3 json (Block.zero 32) entries
  := by
  rw [verifyChain, verifyFrom_eq_ok_iff]
  constructor
  · rintro ⟨entries', hmap, hlinked⟩
    rw [h] at hmap
    rwa [List.map_injective_iff.mpr (fun _ _ => Except.ok.inj) hmap]
  · intro hlinked
    exact ⟨entries, h, hlinked⟩

/-- Verification of a database that is read as entries finds a broken entry when the entries are
not linked. -/
theorem ReadsAs.reportsBreak_iff {log : AuditLog} (h : log.ReadsAs json entries) :
  ReportsBreak (log.verifyChain sha3 json) ↔ ¬ IsLinked sha3 json (Block.zero 32) entries
  := by
  rw [← h.verifyChain_eq_ok_iff]
  obtain ⟨⟨count, brokenAt⟩, hresult⟩ :=
    exists_verifyFrom_eq_ok sha3 (Block.zero 32) 0 h
  rw [verifyChain, hresult]
  cases brokenAt with
  | none => simp [ReportsBreak]
  | some n => simp [ReportsBreak]

/-- A database that verifies stores linked entries: those that are read from it. -/
theorem isLinked_exportAll {log : AuditLog} {count : UInt64}
    (h : log.verifyChain sha3 json = .ok (count, none)) :
  (log.exportAll json).length = log.db.toList.length ∧
    IsLinked sha3 json (Block.zero 32) (log.exportAll json)
  := by
  obtain ⟨entries, hmap, hlinked⟩ := verifyFrom_eq_ok_iff.mp ⟨count, h⟩
  have hexport : log.exportAll json = entries := by
    have hread : (fun item : Bytes × Bytes => readEntry? json item.2)
        = (fun result => result.toOption) ∘ fun item => json.entry.fromSlice item.2 := by
      funext item
      simp only [ readEntry?, Function.comp_apply]
      cases json.entry.fromSlice item.2 with
      | ok e => rfl
      | error e => rfl
    rw [exportAll, hread, ← List.filterMap_map, hmap, List.filterMap_map]
    apply List.filterMap_some
  rw [hexport]
  constructor
  · have hlen := congrArg List.length hmap
    rw [List.length_map, List.length_map] at hlen
    apply hlen.symm
  · apply hlinked

end AuditLog

/-! ### What the last hash commits to -/

/-- What is hashed for an entry determines all of it but the hash and the issuer, up to the JSON
text of the event. -/
theorem AuditEntry.eq_of_input_eq (h : entry.input json = entry'.input json) :
  entry.prevHash = entry'.prevHash ∧ entry.timestampNs = entry'.timestampNs ∧
    entry.sequence = entry'.sequence ∧
    json.event.toVecOrDefault entry.event = json.event.toVecOrDefault entry'.event
  := by
  obtain ⟨hprev, h⟩ := Block.append_inj_iff.mp h
  obtain ⟨htime, h⟩ := List.append_inj h (by simp)
  obtain ⟨hsequence, htext⟩ := List.append_inj h (by simp)
  exact ⟨hprev, beBytes_toNat_injective htime, beBytes_toNat_injective hsequence, htext⟩

/-- Where nothing collides, linked entries with the same hash differ at most in the issuer. -/
theorem AuditEntry.Rehashed.agrees {prevHash' : Block 32} (h : entry.Rehashed sha3 json prevHash)
    (h' : entry'.Rehashed sha3 json prevHash') (hhash : entry.hash = entry'.hash)
    (hsha3 : NoCollision sha3 (entry.input json) (entry'.input json))
    (hevents : SeparatesEvents json entry.event entry'.event) :
  entry.Agrees entry'
  := by
  have hinput : entry.input json = entry'.input json := by
    apply hsha3
    have heq := hhash
    rw [h.hash, h'.hash] at heq
    apply heq
  obtain ⟨hprev, htime, hsequence, htext⟩ := eq_of_input_eq hinput
  exact ⟨hprev, hhash, htime, hsequence, hevents htext⟩

/-- Where nothing collides and no hash is zero, lists that are linked from the zero hash and have
the same last hash differ at most in the issuers. -/
theorem IsLinked.agrees {entries' : List AuditEntry}
    (h : IsLinked sha3 json (Block.zero 32) entries)
    (h' : IsLinked sha3 json (Block.zero 32) entries')
    (hlast : lastHash (Block.zero 32) entries = lastHash (Block.zero 32) entries')
    (hzero : ∀ e ∈ entries ++ entries', sha3 (e.input json) ≠ Block.zero 32)
    (hsha3 : ∀ e ∈ entries, ∀ e' ∈ entries', NoCollision sha3 (e.input json) (e'.input json))
    (hevents : ∀ e ∈ entries, ∀ e' ∈ entries', SeparatesEvents json e.event e'.event) :
  List.Forall₂ AuditEntry.Agrees entries entries'
  := by
  -- The induction goes from the last entry back: equal hashes have equal hashes before them.
  induction entries using List.reverseRecOn generalizing entries' with
  | nil =>
    rcases List.eq_nil_or_concat' entries' with rfl | ⟨es', e', rfl⟩
    · apply List.Forall₂.nil
    · have he' := (isLinked_append.mp h').2.1
      rw [lastHash_append, he'.hash] at hlast
      exact absurd hlast.symm (hzero e' (by simp))
  | append_singleton es e ih =>
    have he := (isLinked_append.mp h).2.1
    rcases List.eq_nil_or_concat' entries' with rfl | ⟨es', e', rfl⟩
    · rw [lastHash_append, he.hash] at hlast
      exact absurd hlast (hzero e (by simp))
    · have he' := (isLinked_append.mp h').2.1
      rw [lastHash_append, lastHash_append] at hlast
      have hagrees := he.agrees he' hlast (hsha3 e (by simp) e' (by simp))
        (hevents e (by simp) e' (by simp))
      apply List.rel_append
      · apply ih (isLinked_append.mp h).1 (isLinked_append.mp h').1
        · rw [← he.prevHash, ← he'.prevHash, hagrees.prevHash]
        · intro d hd
          apply hzero
          simp only [List.mem_append] at hd ⊢
          tauto
        · intro d hd d' hd'
          apply hsha3 d (List.mem_append_left _ hd) d' (List.mem_append_left _ hd')
        · intro d hd d' hd'
          apply hevents d (List.mem_append_left _ hd) d' (List.mem_append_left _ hd')
      · exact .cons hagrees .nil

/-- The log after the text of entry `i` has been replaced by that of another entry. -/
def AuditLog.replaceEntry (json : AuditJson) (log : AuditLog) (i : ℕ) (entry : AuditEntry) :
    AuditLog :=
  { log with db := log.db.insert (beBytes 8 i) (json.entry.toVecOrDefault entry) }

/-! ### Two deletions -/

/-- A second deletion of the key `k`, recorded after the first one. -/
def secondDeletion : AuditEntry where
  sequence := 1
  prevHash := AuditState.deletionEntry.hash
  hash := primeHash (AuditState.deletionEntry.hash.1
    ++ (beBytes 8 2 ++ (beBytes 8 1 ++ AuditState.deletionText)))
  timestampNs := 2
  event := .entryDeleted "k"
  issuerId := "node"

/-- The first deletion, with another issuer. -/
def reissuedDeletion : AuditEntry := { AuditState.deletionEntry with issuerId := "other" }

/-- The first deletion, with another time. -/
def lateDeletion : AuditEntry := { AuditState.deletionEntry with timestampNs := 3 }

/-- The JSON text of a deletion of the key `k`. -/
def deletionEntryText (entry : AuditEntry) : Bytes :=
  asBytes (s!"\x7b\"sequence\":{entry.sequence},\"prev_hash\":{arrayText entry.prevHash.1}"
      ++ s!",\"hash\":{arrayText entry.hash.1},\"timestamp_ns\":{entry.timestampNs},\"event\":")
    ++ (AuditState.deletionText ++ asBytes s!",\"issuer_id\":\"{entry.issuerId}\"\x7d")

/-- The JSON codecs of these deletions. -/
def deletionsJson : AuditJson where
  event := .only (.entryDeleted "k") AuditState.deletionText
  entry := .table ([AuditState.deletionEntry, secondDeletion, reissuedDeletion, lateDeletion].map
    fun entry => (entry, deletionEntryText entry))
  history _ := .error "unsupported"

/-- The deletions are read back from their texts. -/
theorem roundTripsAt_deletion {entry : AuditEntry}
    (h : entry ∈ [AuditState.deletionEntry, secondDeletion, reissuedDeletion, lateDeletion]) :
  deletionsJson.entry.RoundTripsAt entry
  := by
  have hmem := List.mem_map_of_mem (f := fun entry => (entry, deletionEntryText entry)) h
  refine JsonCodec.roundTripsAt_table ?_ ?_ hmem
  · decide +kernel
  · decide +kernel

/-- A run that records the two deletions. -/
def deletionsRun : List AuditEvent :=
  [.append 1 (.entryDeleted "k") none, .append 2 (.entryDeleted "k") none]

/-- The log after this run. -/
def deletionsLog : AuditLog :=
  match run (AuditState.step primeHash deletionsJson) (.initial "node") deletionsRun with
  | some s => s.log
  | none => .fresh "node"

/-- This log has the two entries. -/
theorem exportAll_deletionsLog :
  deletionsLog.exportAll deletionsJson = [AuditState.deletionEntry, secondDeletion]
  := by
  decide +kernel

/-- The run leads to this log, and the codecs read back the entries made in it. -/
theorem run_deletionsRun :
  ∃ s, run (AuditState.step primeHash deletionsJson) (.initial "node") deletionsRun = some s ∧
    s.log = deletionsLog ∧ ∀ entry ∈ s.written, deletionsJson.entry.RoundTripsAt entry
  := by
  have hwritten : (run (AuditState.step primeHash deletionsJson) (.initial "node")
      deletionsRun).map AuditState.written
        = some [AuditState.deletionEntry, secondDeletion] := by
    decide +kernel
  cases hrun : run (AuditState.step primeHash deletionsJson) (.initial "node") deletionsRun with
  | none =>
    rw [hrun] at hwritten
    cases hwritten
  | some s =>
    rw [hrun] at hwritten
    refine ⟨s, rfl, ?_, ?_⟩
    · rw [deletionsLog, hrun]
    · intro entry hentry
      rw [Option.some.inj hwritten] at hentry
      apply roundTripsAt_deletion
      simp only [List.mem_cons] at hentry ⊢
      tauto

/-! ### The chain head -/

/-- The chain head commits to the whole history: two databases that verify and whose last entries
carry the same hash have the same number of entries, and their entries differ at most in the
issuers. -/
theorem history_of_last_hash {log log' : AuditLog} {count count' : UInt64}
    (hverify : log.verifyChain sha3 json = .ok (count, none))
    (hverify' : log'.verifyChain sha3 json = .ok (count', none))
    (hlast : ((log.exportAll json).map AuditEntry.hash).getLast?
      = ((log'.exportAll json).map AuditEntry.hash).getLast?)
    (hzero : ∀ e ∈ log.exportAll json ++ log'.exportAll json,
      sha3 (e.input json) ≠ Block.zero 32)
    (hsha3 : ∀ e ∈ log.exportAll json, ∀ e' ∈ log'.exportAll json,
      NoCollision sha3 (e.input json) (e'.input json))
    (hevents : ∀ e ∈ log.exportAll json, ∀ e' ∈ log'.exportAll json,
      SeparatesEvents json e.event e'.event) :
  log.db.toList.length = log'.db.toList.length ∧
    (log.exportAll json).length = log.db.toList.length ∧
    List.Forall₂ AuditEntry.Agrees (log.exportAll json) (log'.exportAll json)
  := by
  obtain ⟨hlen, hlinked⟩ := AuditLog.isLinked_exportAll hverify
  obtain ⟨hlen', hlinked'⟩ := AuditLog.isLinked_exportAll hverify'
  have hhash : lastHash (Block.zero 32) (log.exportAll json)
      = lastHash (Block.zero 32) (log'.exportAll json) := by
    rw [lastHash_eq_getLastD, lastHash_eq_getLastD, List.getLastD_eq_getLast?,
      List.getLastD_eq_getLast?, hlast]
  have hagrees := hlinked.agrees hlinked' hhash hzero hsha3 hevents
  refine ⟨?_, hlen, hagrees⟩
  rw [← hlen, ← hlen', hagrees.length_eq]

/-- The log of the two deletions, and the same with another issuer of the first one, differ at most
in the issuers. -/
theorem history_of_last_hash_reissued :
  deletionsLog.exportAll deletionsJson
      ≠ (deletionsLog.replaceEntry deletionsJson 0 reissuedDeletion).exportAll deletionsJson ∧
    List.Forall₂ AuditEntry.Agrees (deletionsLog.exportAll deletionsJson)
      ((deletionsLog.replaceEntry deletionsJson 0 reissuedDeletion).exportAll deletionsJson)
  := by
  have hexport' : (deletionsLog.replaceEntry deletionsJson 0 reissuedDeletion).exportAll
      deletionsJson = [reissuedDeletion, secondDeletion] := by
    decide +kernel
  have hverify : deletionsLog.verifyChain primeHash deletionsJson = .ok (2, none) := by
    decide +kernel
  have hverify' : (deletionsLog.replaceEntry deletionsJson 0 reissuedDeletion).verifyChain
      primeHash deletionsJson = .ok (2, none) := by
    decide +kernel
  constructor
  · rw [exportAll_deletionsLog, hexport']
    decide +kernel
  · apply (history_of_last_hash hverify hverify' _ _ _ _).2.2
    · rw [exportAll_deletionsLog, hexport']
      decide +kernel
    · rw [exportAll_deletionsLog, hexport']
      decide +kernel
    · rw [exportAll_deletionsLog, hexport']
      unfold NoCollision
      decide +kernel
    · rw [exportAll_deletionsLog, hexport']
      unfold SeparatesEvents
      decide +kernel

/-! ### A changed entry -/

/-- The hashes of an entry do not cover the issuer. -/
theorem AuditEntry.Rehashed.of_agrees (h : entry.Rehashed sha3 json prevHash)
    (hagrees : entry'.Agrees entry) :
  entry'.Rehashed sha3 json prevHash
  := by
  constructor
  · rw [hagrees.prevHash, h.prevHash]
  · rw [hagrees.hash, h.hash, hagrees.prevHash, hagrees.timestampNs, hagrees.sequence,
      hagrees.event]

/-- The entry at an index of a linked list is linked to the entries before it. -/
theorem IsLinked.rehashed {i : ℕ} (h : IsLinked sha3 json prevHash entries)
    (hentry : entries[i]? = some entry) :
  entry.Rehashed sha3 json (lastHash prevHash (entries.take i))
  := by
  obtain ⟨hi, rfl⟩ := List.getElem?_eq_some_iff.mp hentry
  rw [← List.take_append_drop i entries, isLinked_append, ← List.getElem_cons_drop hi] at h
  apply h.2.1

/-- Linked entries are still linked with one of them changed when at most its issuer has changed,
or when it is the last one and carries the right hashes. -/
theorem IsLinked.replace_iff {es : List AuditEntry}
    (h : IsLinked sha3 json prevHash (es ++ entry :: rest))
    (hsha3 : NoCollision sha3 (entry'.input json) (entry.input json))
    (hevents : SeparatesEvents json entry'.event entry.event) :
  IsLinked sha3 json prevHash (es ++ entry' :: rest) ↔
    entry'.Agrees entry ∨ rest = [] ∧ entry'.Rehashed sha3 json (lastHash prevHash es)
  := by
  obtain ⟨hes, hentry, hrest⟩ := isLinked_append.mp h
  rw [isLinked_append, IsLinked, and_iff_right hes]
  constructor
  · rintro ⟨hentry', hrest'⟩
    cases rest with
    | nil =>
      right
      exact ⟨rfl, hentry'⟩
    | cons next rest =>
      left
      have hhash : entry'.hash = entry.hash := by
        rw [← hrest'.1.prevHash, hrest.1.prevHash]
      apply hentry'.agrees hentry hhash hsha3 hevents
  · rintro (hagrees | ⟨rfl, hentry'⟩)
    · use hentry.of_agrees hagrees
      rw [hagrees.hash]
      apply hrest
    · exact ⟨hentry', trivial⟩

/-- Entry `i` is the last one of the log, and the other entry is linked to the entry before it. -/
def AuditLog.IsNewEnd (sha3 : Bytes → Block 32) (json : AuditJson) (log : AuditLog) (i : ℕ)
    (entry : AuditEntry) : Prop :=
  i + 1 = (log.exportAll json).length ∧
    entry.Rehashed sha3 json (lastHash (Block.zero 32) ((log.exportAll json).take i))

/-- The log with one entry of a stored chain replaced is read as the chain with this entry
replaced. -/
theorem AuditLog.readsAs_replaceEntry {log : AuditLog} {es : List AuditEntry}
    (hchain : IsChain sha3 json (Block.zero 32) 0 (es ++ entry :: rest))
    (hstores : Stores json log.db (es ++ entry :: rest)) (hread : json.entry.RoundTripsAt entry') :
  (log.replaceEntry json es.length entry').ReadsAs json (es ++ entry' :: rest)
  := by
  have hsequence : entry.sequence.toNat = es.length := by
    rw [hchain.sequence_eq es.length entry (by simp), Nat.zero_add]
  have hlist := hstores.toList_eq
  rw [List.map_append, List.map_cons, storedEntry, hsequence] at hlist
  have hmap := readsAs_of_stores hstores
  rw [ReadsAs, hlist] at hmap
  simp only [List.map_append, List.map_cons] at hmap
  obtain ⟨hes, hrest⟩ := List.append_inj hmap (by simp)
  rw [ReadsAs, replaceEntry, toList_insert_present hlist]
  simp only [List.map_append, List.map_cons]
  rw [hes, (List.cons.inj hrest).2, hread.fromSlice_eq]

/-- With one entry of a stored chain replaced, verification finds a broken entry when more than the
issuer has changed, unless the other entry is a new end of the chain. -/
theorem AuditLog.reportsBreak_replaceEntry_iff {log : AuditLog} {i : ℕ}
    (hchain : IsChain sha3 json (Block.zero 32) 0 entries) (hstores : Stores json log.db entries)
    (hentry : (log.exportAll json)[i]? = some entry) (hread : json.entry.RoundTripsAt entry')
    (hsha3 : NoCollision sha3 (entry'.input json) (entry.input json))
    (hevents : SeparatesEvents json entry'.event entry.event) :
  ReportsBreak ((log.replaceEntry json i entry').verifyChain sha3 json) ↔
    ¬ entry'.Agrees entry ∧ ¬ log.IsNewEnd sha3 json i entry'
  := by
  rw [IsNewEnd, exportAll_of_stores hstores] at *
  obtain ⟨hi, rfl⟩ := List.getElem?_eq_some_iff.mp hentry
  have hsplit : entries.take i ++ entries[i] :: entries.drop (i + 1) = entries := by
    rw [List.getElem_cons_drop, List.take_append_drop]
  have hlen : (entries.take i).length = i := List.length_take_of_le hi.le
  have hlast : entries.drop (i + 1) = [] ↔ i + 1 = entries.length := by
    rw [List.drop_eq_nil_iff]
    omega
  have hreads := readsAs_replaceEntry (hsplit ▸ hchain) (hsplit ▸ hstores) hread
  have hlinked := (hsplit ▸ hchain.isLinked).replace_iff hsha3 hevents
  rw [hlen] at hreads
  rw [hreads.reportsBreak_iff, hlinked, hlast, not_or]

namespace AuditState

/-- In every reachable state of the log, after one entry has been replaced, verification finds a
broken entry when more than the issuer has changed, unless the other entry is a new end of the
chain.  So the changes that are detected or make a new end are those of the last entry, and those
of more than the issuer. -/
theorem tampering_detected_iff {issuerId : String} {events : List AuditEvent} {s : AuditState}
    {i : ℕ} (hrun : run (step sha3 json) (initial issuerId) events = some s)
    (hread : ∀ entry ∈ s.written, json.entry.RoundTripsAt entry)
    (hentry : (s.log.exportAll json)[i]? = some entry)
    (hread' : json.entry.RoundTripsAt entry')
    (hsha3 : NoCollision sha3 (entry'.input json) (entry.input json))
    (hevents : SeparatesEvents json entry'.event entry.event) :
  (ReportsBreak ((s.log.replaceEntry json i entry').verifyChain sha3 json) ↔
    ¬ entry'.Agrees entry ∧ ¬ s.log.IsNewEnd sha3 json i entry') ∧
  (ReportsBreak ((s.log.replaceEntry json i entry').verifyChain sha3 json) ∨
      s.log.IsNewEnd sha3 json i entry' ↔
    ¬ entry'.Agrees entry ∨ i + 1 = (s.log.exportAll json).length)
  := by
  obtain ⟨known, stored, -, hchain, hstores, -, -⟩ := (consistent_of_run hrun hread).stores
  have hbreak := AuditLog.reportsBreak_replaceEntry_iff hchain hstores hentry hread' hsha3 hevents
  use hbreak
  rw [hbreak]
  constructor
  · rintro (⟨hagrees, -⟩ | hend)
    · left
      apply hagrees
    · right
      apply hend.1
  · intro h
    by_cases hend : s.log.IsNewEnd sha3 json i entry'
    · right
      apply hend
    · left
      refine ⟨?_, hend⟩
      intro hagrees
      rcases h with h | hlast
      · exact h hagrees
      · -- An entry that agrees with the last one carries the right hashes.
        rw [AuditLog.IsNewEnd, AuditLog.exportAll_of_stores hstores] at hend
        rw [AuditLog.exportAll_of_stores hstores] at hentry hlast
        exact hend ⟨hlast, (hchain.isLinked.rehashed hentry).of_agrees hagrees⟩

/-- A change of the time of the first of the two deletions is detected. -/
theorem tampering_detected_late :
  ReportsBreak ((deletionsLog.replaceEntry deletionsJson 0 lateDeletion).verifyChain primeHash
    deletionsJson)
  := by
  obtain ⟨s, hrun, hlog, hread⟩ := run_deletionsRun
  have hexport := exportAll_deletionsLog
  rw [← hlog] at hexport ⊢
  have hentry : (s.log.exportAll deletionsJson)[0]? = some deletionEntry := by
    rw [hexport]
    rfl
  apply (tampering_detected_iff hrun hread hentry (roundTripsAt_deletion (by simp)) _ _).1.mpr
  · constructor
    · intro hagrees
      exact absurd hagrees.timestampNs (by decide)
    · intro hend
      have hlen := hend.1
      rw [hexport] at hlen
      cases hlen
  · unfold NoCollision
    decide +kernel
  · intro _
    rfl

/-- A change of the issuer of the first of the two deletions is not detected. -/
theorem tampering_reissued :
  run (step primeHash deletionsJson) (initial "node") deletionsRun ≠ none ∧
    (deletionsLog.exportAll deletionsJson)[0]? = some deletionEntry ∧
    reissuedDeletion ≠ deletionEntry ∧ (deletionsLog.exportAll deletionsJson).length = 2 ∧
    (deletionsLog.replaceEntry deletionsJson 0 reissuedDeletion).verifyChain primeHash
      deletionsJson = .ok (2, none)
  := by
  refine ⟨?_, ?_, ?_, ?_, ?_⟩
  · obtain ⟨s, hrun, -⟩ := run_deletionsRun
    rw [hrun]
    simp
  · rw [exportAll_deletionsLog]
    rfl
  · decide +kernel
  · rw [exportAll_deletionsLog]
    rfl
  · decide +kernel

end AuditState

end Cachee
