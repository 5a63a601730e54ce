import Cachee.Audit.Log

/-!
# Chains of audit entries

A list of entries is a chain when each entry carries the hash of the one before it, the next
sequence number, and its own hash.  A database stores a chain when its entries are the texts of
the entries of the chain under their sequence numbers; then the chain is read back from it, and
verifies.
-/

open Text

namespace Cachee

section Chain

variable (sha3 : Bytes → Block 32) (json : AuditJson)

/-- An entry continues a chain that ends with the hash `prevHash` and has `n` entries. -/
structure AuditEntry.Continues (prevHash : Block 32) (n : ℕ) (entry : AuditEntry) : Prop where
  prevHash : entry.prevHash = prevHash
  sequence : entry.sequence.toNat = n
  hash : entry.hash = computeHash sha3 json entry.prevHash entry.event entry.timestampNs
    entry.sequence

/-- The entries continue one another, from the hash `prevHash` and the sequence number `n` on. -/
def IsChain : Block 32 → ℕ → List AuditEntry → Prop
  | _, _, [] => True
  | prevHash, n, entry :: rest =>
    entry.Continues sha3 json prevHash n ∧ IsChain entry.hash (n + 1) rest

/-- The hash of the last entry of a list, or `prevHash` if there is none. -/
def lastHash : Block 32 → List AuditEntry → Block 32
  | prevHash, [] => prevHash
  | _, entry :: rest => lastHash entry.hash rest

/-- The entry of the database for an entry of the log. -/
def storedEntry (entry : AuditEntry) : Bytes × Bytes :=
  (beBytes 8 entry.sequence.toNat, json.entry.toVecOrDefault entry)

/-- The database stores the entries, which are read back from their texts. -/
structure Stores (db : Database) (entries : List AuditEntry) : Prop where
  toList_eq : db.toList = entries.map (storedEntry json)
  roundTrips : ∀ entry ∈ entries, json.entry.RoundTripsAt entry

end Chain

variable {sha3 : Bytes → Block 32} {json : AuditJson} {prevHash : Block 32} {n : ℕ}
  {entries : List AuditEntry} {entry : AuditEntry} {db : Database}

@[simp]
theorem lastHash_append :
  lastHash prevHash (entries ++ [entry]) = entry.hash
  := by
  induction entries generalizing prevHash with
  | nil => rfl
  | cons e rest ih => apply ih

theorem lastHash_eq_getLastD :
  lastHash prevHash entries = (entries.map AuditEntry.hash).getLastD prevHash
  := by
  induction entries generalizing prevHash with
  | nil => rfl
  | cons e rest ih =>
    rw [lastHash, ih, List.map_cons, List.getLastD_cons]

/-- A chain is extended by an entry that continues it. -/
theorem isChain_append :
  IsChain sha3 json prevHash n (entries ++ [entry]) ↔
    IsChain sha3 json prevHash n entries ∧
      entry.Continues sha3 json (lastHash prevHash entries) (n + entries.length)
  := by
  induction entries generalizing prevHash n with
  | nil => simp [IsChain, lastHash]
  | cons e rest ih =>
    have hlen : n + (e :: rest).length = n + 1 + rest.length := by
      simp only [List.length_cons]
      omega
    rw [List.cons_append, IsChain, IsChain, ih, lastHash, hlen, and_assoc]

/-- The entries of a chain have the numbers from `n` on. -/
theorem IsChain.sequence_eq (h : IsChain sha3 json prevHash n entries) (i : ℕ) (e : AuditEntry)
    (he : entries[i]? = some e) :
  e.sequence.toNat = n + i
  := by
  induction entries generalizing prevHash n i with
  | nil => simp at he
  | cons e' rest ih =>
    obtain ⟨hcont, hrest⟩ := h
    cases i with
    | zero =>
      obtain rfl := Option.some.inj he
      apply hcont.sequence
    | succ i =>
      rw [ih hrest i he]
      omega

/-- Each entry of a chain is found at its number. -/
theorem IsChain.getElem?_sequence (h : IsChain sha3 json prevHash 0 entries) {e : AuditEntry}
    (he : e ∈ entries) :
  entries[e.sequence.toNat]? = some e
  := by
  obtain ⟨i, hi⟩ := List.mem_iff_getElem?.mp he
  have hseq := h.sequence_eq i e hi
  rw [Nat.zero_add] at hseq
  rw [hseq, hi]

/-- The entries of a chain have numbers below its length. -/
theorem IsChain.sequence_lt (h : IsChain sha3 json prevHash 0 entries) {e : AuditEntry}
    (he : e ∈ entries) :
  e.sequence.toNat < entries.length
  := (List.getElem?_eq_some_iff.mp (h.getElem?_sequence he)).1

namespace AuditLog

/-- A chain whose entries are read back verifies, each entry being counted. -/
theorem verifyFrom_of_isChain {count : UInt64}
    (hchain : IsChain sha3 json prevHash n entries)
    (hread : ∀ entry ∈ entries, json.entry.RoundTripsAt entry) :
  verifyFrom sha3 json prevHash count (entries.map (storedEntry json))
    = .ok (count + UInt64.ofNat entries.length, none)
  := by
  induction entries generalizing prevHash n count with
  | nil => simp [verifyFrom]
  | cons e rest ih =>
    obtain ⟨hcont, hrest⟩ := hchain
    have htext := (hread e (List.mem_cons_self ..)).fromSlice_eq
    rw [List.map_cons, storedEntry, verifyFrom, htext]
    dsimp only
    rw [if_neg (not_not.mpr hcont.prevHash), if_neg (not_not.mpr hcont.hash),
      ih hrest fun e' he' => hread e' (List.mem_cons_of_mem e he')]
    rw [List.length_cons, UInt64.add_assoc, Nat.add_comm rest.length 1, UInt64.ofNat_add]
    rfl

/-- The entries that a database stores are read from it. -/
theorem exportAll_of_stores {log : AuditLog} (h : Stores json log.db entries) :
  log.exportAll json = entries
  := by
  rw [exportAll, h.toList_eq, List.filterMap_map]
  have hread : ∀ e ∈ entries,
      ((fun item => readEntry? json item.2) ∘ storedEntry json) e = some e := by
    intro e he
    simp only [Function.comp_apply, storedEntry, readEntry?, (h.roundTrips e he).fromSlice_eq]
  rw [List.filterMap_congr hread, List.filterMap_some]

/-- The entry that is written for an event continues the chain of a log. -/
theorem continues_newEntry (sha3 : Bytes → Block 32) (json : AuditJson) {log : AuditLog}
    (timestampNs : UInt64) (event : AuditEventType)
    (hhead : log.headHash = prevHash) (hnext : log.nextSequence.toNat = n) :
  (log.newEntry sha3 json timestampNs event).Continues sha3 json prevHash n
  := ⟨hhead, hnext, rfl⟩

/-- A database with a chain is opened with the state of the chain in memory, and without a last
anchor. -/
theorem openDb_of_stores (issuerId : String) (hchain : IsChain sha3 json (Block.zero 32) 0 entries)
    (hlen : entries.length < 2 ^ 64) (h : Stores json db entries) :
  ∃ log, openDb json db issuerId = .ok log ∧ log.db = db ∧
    log.headHash = lastHash (Block.zero 32) entries ∧
    log.nextSequence.toNat = entries.length ∧ log.merkleLeaves = entries.map AuditEntry.hash ∧
    log.lastAnchorSequence = 0
  := by
  have hexport : ∀ log : AuditLog, log.db = db → log.exportAll json = entries := by
    rintro log rfl
    apply exportAll_of_stores h
  rw [openDb]
  rcases List.eq_nil_or_concat' entries with rfl | ⟨es, e, rfl⟩
  · have hempty : db.toList = [] := h.toList_eq
    simp only [hempty]
    refine ⟨_, rfl, rfl, rfl, rfl, ?_, rfl⟩
    simp only
    rw [hexport _ rfl]
  · obtain ⟨-, hcont⟩ := isChain_append.mp hchain
    have hread := (h.roundTrips e (by simp)).fromSlice_eq
    have hlast : db.toList.getLast? = some (storedEntry json e) := by
      rw [h.toList_eq]
      simp
    simp only [hlast, storedEntry, hread]
    refine ⟨_, rfl, rfl, ?_, ?_, ?_, rfl⟩
    · rw [lastHash_append]
    · simp only [List.length_append, List.length_singleton] at hlen ⊢
      rw [UInt64.toNat_add, hcont.sequence]
      simp
      omega
    · simp only
      rw [hexport _ rfl]

end AuditLog

end Cachee
