import Cachee.Audit.Tampering
import Cachee.Daemon.Handler

/-!
# Removed audit entries

`AUDITVERIFY` verifies the entries that the database holds, and reports the head of the log beside
their count, without comparing the two.  The entries that are left after a removal are linked
exactly when they are the first ones of the chain.  So a removal is detected exactly when an
entry is left that follows a removed one.
-/

open Text

namespace Cachee

/-! ### What a filter leaves -/

/-- A filter keeps the first elements of a list when it keeps no element that follows one it
drops. -/
theorem filter_prefix_iff {α : Type} {p : α → Bool} {l : List α} :
  l.filter p <+: l ↔ l.Pairwise fun a b => p b → p a
  := by
  induction l with
  | nil => simp
  | cons a l ih =>
    rw [List.pairwise_cons]
    by_cases ha : p a = true
    · rw [List.filter_cons_of_pos ha, List.cons_prefix_cons, ih]
      simp [ha]
    · rw [List.filter_cons_of_neg ha]
      constructor
      · intro hkept
        have hnone : ∀ b ∈ l, ¬ p b = true := by
          cases hfilter : l.filter p with
          | nil => apply List.filter_eq_nil_iff.mp hfilter
          | cons b kept =>
            rw [hfilter] at hkept
            obtain ⟨rfl, -⟩ := List.cons_prefix_cons.mp hkept
            have hb : b ∈ l.filter p := hfilter ▸ List.mem_cons_self
            exact absurd (List.mem_filter.mp hb).2 ha
        constructor
        · intro b hb hpb
          exact absurd hpb (hnone b hb)
        · apply List.pairwise_of_forall_mem_list
          intro b _ c hc hpc
          exact absurd hpc (hnone c hc)
      · rintro ⟨hnone, -⟩
        have hfilter : l.filter p = [] := by
          apply List.filter_eq_nil_iff.mpr
          intro b hb hpb
          exact ha (hnone b hb hpb)
        rw [hfilter]
        apply List.nil_prefix

section Removal

variable {sha3 : Bytes → Block 32} {json : AuditJson} {prevHash : Block 32} {n : ℕ}
  {entries kept : List AuditEntry}

/-- The entries of a chain have the numbers from `n` on. -/
theorem IsChain.map_sequence (h : IsChain sha3 json prevHash n entries) :
  entries.map (fun e => e.sequence.toNat) = List.range' n entries.length
  := by
  induction entries generalizing prevHash n with
  | nil => rfl
  | cons e rest ih =>
    rw [List.map_cons, ih h.2, h.1.sequence, List.length_cons, List.range'_succ]

/-- The last hash of a list is the hash before it, or that of one of its entries. -/
theorem lastHash_mem (prevHash : Block 32) (entries : List AuditEntry) :
  lastHash prevHash entries ∈ prevHash :: entries.map AuditEntry.hash
  := by
  induction entries generalizing prevHash with
  | nil => simp [lastHash]
  | cons e rest ih =>
    rw [lastHash, List.map_cons]
    apply List.mem_cons_of_mem _ (ih e.hash)

/-- Every entry of a linked list carries its own hash. -/
theorem IsLinked.hash_eq (h : IsLinked sha3 json prevHash entries) {e : AuditEntry}
    (he : e ∈ entries) :
  e.hash = sha3 (e.input json)
  := by
  obtain ⟨i, hi⟩ := List.mem_iff_getElem?.mp he
  apply (h.rehashed hi).hash

/-- When no hash occurs twice, entries that are left of a linked list are linked only if they are
its first ones. -/
theorem IsLinked.prefix_of_sublist (h : IsLinked sha3 json prevHash entries)
    (hsub : kept.Sublist entries) (hkept : IsLinked sha3 json prevHash kept)
    (hnodup : (prevHash :: entries.map AuditEntry.hash).Nodup) :
  kept <+: entries
  := by
  induction hsub generalizing prevHash with
  | slnil => apply List.prefix_rfl
  | @cons kept rest e hsub ih =>
    -- The entry `e` is dropped, so the first one that is kept is not linked to what precedes `e`.
    cases kept with
    | nil => apply List.nil_prefix
    | cons f kept =>
      exfalso
      obtain ⟨es, rest', rfl⟩ := List.append_of_mem (hsub.subset List.mem_cons_self)
      have hf := (isLinked_append.mp h.2).2.1
      have hmem := lastHash_mem e.hash es
      rw [← hf.prevHash, hkept.1.prevHash] at hmem
      rw [List.nodup_cons] at hnodup
      apply hnodup.1
      rw [List.map_cons, List.map_append]
      rcases List.mem_cons.mp hmem with heq | hmem
      · rw [heq]
        apply List.mem_cons_self
      · apply List.mem_cons_of_mem _ (List.mem_append_left _ hmem)
  | cons_cons e hsub ih =>
    rw [List.cons_prefix_cons]
    use rfl
    apply ih h.2 hkept.2
    apply (List.nodup_cons.mp hnodup).2

/-- The hashes of a chain do not repeat, when nothing collides. -/
theorem IsChain.nodup_map_hash (h : IsChain sha3 json (Block.zero 32) 0 entries)
    (hsha3 : ∀ e ∈ entries, ∀ e' ∈ entries, NoCollision sha3 (e.input json) (e'.input json)) :
  (entries.map AuditEntry.hash).Nodup
  := by
  have hnumbers : (entries.map fun e => e.sequence.toNat).Nodup := by
    rw [h.map_sequence]
    apply List.nodup_range' _
  apply List.Nodup.map_on _ hnumbers.of_map
  intro e he e' he' hhash
  rw [h.isLinked.hash_eq he, h.isLinked.hash_eq he'] at hhash
  obtain ⟨-, -, hsequence, -⟩ := AuditEntry.eq_of_input_eq (hsha3 e he e' he' hhash)
  apply List.inj_on_of_nodup_map hnumbers he he'
  rw [hsequence]

/-- The hashes of a chain are not zero and do not repeat, when nothing collides and no hash is
zero. -/
theorem IsChain.nodup_hashes (h : IsChain sha3 json (Block.zero 32) 0 entries)
    (hsha3 : ∀ e ∈ entries, ∀ e' ∈ entries, NoCollision sha3 (e.input json) (e'.input json))
    (hzero : ∀ e ∈ entries, sha3 (e.input json) ≠ Block.zero 32) :
  (Block.zero 32 :: entries.map AuditEntry.hash).Nodup
  := by
  rw [List.nodup_cons]
  constructor
  · intro hmem
    obtain ⟨e, he, hhash⟩ := List.mem_map.mp hmem
    rw [h.isLinked.hash_eq he] at hhash
    exact hzero e he hhash
  · apply h.nodup_map_hash hsha3

/-- The log after the entries with the given sequence numbers have been removed from its
database. -/
def AuditLog.removeEntries (log : AuditLog) (removed : Finset UInt64) : AuditLog :=
  { log with db := log.db.filter fun key _ => key ∉ removed.image fun i => beBytes 8 i.toNat }

/-- What is stored after a removal. -/
theorem Stores.removeEntries {log : AuditLog} (h : Stores json log.db entries)
    (removed : Finset UInt64) :
  Stores json (log.removeEntries removed).db
    (entries.filter fun e => e.sequence ∉ removed)
  := by
  constructor
  · rw [AuditLog.removeEntries, toList_filter_keys, h.toList_eq, List.filter_map]
    apply congrArg
    apply List.filter_congr
    intro e _
    rw [Function.comp_apply, decide_eq_decide, storedEntry, Finset.mem_image, not_iff_not]
    constructor
    · rintro ⟨i, hi, heq⟩
      rw [← beBytes_toNat_injective heq]
      exact hi
    · intro hmem
      exact ⟨e.sequence, hmem, rfl⟩
  · intro e he
    apply h.roundTrips e (List.mem_filter.mp he).1

/-- The entries that are left of a chain are linked when none of them follows a removed one. -/
theorem IsChain.isLinked_filter_iff (h : IsChain sha3 json (Block.zero 32) 0 entries)
    (hsha3 : ∀ e ∈ entries, ∀ e' ∈ entries, NoCollision sha3 (e.input json) (e'.input json))
    (hzero : ∀ e ∈ entries, sha3 (e.input json) ≠ Block.zero 32) (removed : Finset UInt64) :
  IsLinked sha3 json (Block.zero 32) (entries.filter fun e => e.sequence ∉ removed) ↔
    ∀ i ∈ removed, ∀ j, i < j → j.toNat < entries.length → j ∈ removed
  := by
  have hbeginning : IsLinked sha3 json (Block.zero 32)
      (entries.filter fun e => e.sequence ∉ removed) ↔
        (entries.filter fun e => e.sequence ∉ removed) <+: entries := by
    constructor
    · intro hkept
      apply h.isLinked.prefix_of_sublist List.filter_sublist hkept (h.nodup_hashes hsha3 hzero)
    · rintro ⟨rest, hrest⟩
      apply (isLinked_append.mp (hrest ▸ h.isLinked)).1
  rw [hbeginning, filter_prefix_iff, List.pairwise_iff_getElem]
  have hsequence : ∀ (i : ℕ) (hi : i < entries.length), entries[i].sequence.toNat = i := by
    intro i hi
    rw [h.sequence_eq i entries[i] (List.getElem?_eq_getElem hi), Nat.zero_add]
  simp only [decide_eq_true_eq]
  constructor
  · intro hpairs i hi j hij hj
    have hij' := UInt64.lt_iff_toNat_lt.mp hij
    have hi' : entries[i.toNat].sequence = i := UInt64.toNat_inj.mp (hsequence _ (hij'.trans hj))
    have hj' : entries[j.toNat].sequence = j := UInt64.toNat_inj.mp (hsequence _ hj)
    by_contra hmem
    apply hpairs i.toNat j.toNat (hij'.trans hj) hj hij'
    · rw [hj']
      apply hmem
    · rw [hi']
      apply hi
  · intro hclosed i j hi hj hij hkept hmem
    apply hkept
    apply hclosed _ hmem
    · rw [UInt64.lt_iff_toNat_lt, hsequence i hi, hsequence j hj]
      apply hij
    · rw [hsequence j hj]
      apply hj

end Removal

/-! ### What `AUDITVERIFY` reports -/

/-- The reply says that the chain is intact. -/
def ReportsIntact (reply : String) : Prop :=
  ∃ (count : UInt64) (head : String),
    reply = bulk s!"OK {count} entries verified, chain intact, head={head}"

/-- A reply that starts with a minus sign does not say so. -/
theorem not_reportsIntact {reply : String} (h : reply.toList.head? = some '-') :
  ¬ ReportsIntact reply
  := by
  rintro ⟨count, head, rfl⟩
  simp [bulk, ToString.toString] at h

/-- `AUDITVERIFY` reports the chain intact when verification succeeds. -/
theorem reportsIntact_iff {ext : Externals} {s : DaemonState} :
  ReportsIntact (handleAuditVerify ext s) ↔
    ∃ count, s.auditLog.verifyChain ext.sha3 ext.auditJson = .ok (count, none)
  := by
  unfold handleAuditVerify
  split
  · rename_i count hverify
    simp only [hverify]
    constructor
    · intro _
      exact ⟨count, rfl⟩
    · intro _
      exact ⟨count, _, rfl⟩
  · rename_i count brokenAt hverify
    simp only [hverify]
    constructor
    · intro h
      exact absurd h (not_reportsIntact (by simp [ToString.toString]))
    · rintro ⟨_, ⟨⟩⟩
  · rename_i e hverify
    simp only [hverify]
    constructor
    · intro h
      exact absurd h (not_reportsIntact (by simp [ToString.toString]))
    · rintro ⟨_, ⟨⟩⟩

/-- In every reachable state of the log, after entries have been removed, `AUDITVERIFY` does not
report the chain intact exactly when an entry is left that follows a removed one. -/
theorem removal_detected_iff {ext : Externals} {issuerId : String} {events : List AuditEvent}
    {a : AuditState}
    (hrun : run (AuditState.step ext.sha3 ext.auditJson) (.initial issuerId) events = some a)
    (hread : ∀ entry ∈ a.written, ext.auditJson.entry.RoundTripsAt entry)
    (hsha3 : ∀ e ∈ a.log.exportAll ext.auditJson, ∀ e' ∈ a.log.exportAll ext.auditJson,
      NoCollision ext.sha3 (e.input ext.auditJson) (e'.input ext.auditJson))
    (hzero : ∀ e ∈ a.log.exportAll ext.auditJson,
      ext.sha3 (e.input ext.auditJson) ≠ Block.zero 32)
    (s : DaemonState) (removed : Finset UInt64) :
  ¬ ReportsIntact (handleAuditVerify ext { s with auditLog := a.log.removeEntries removed }) ↔
    ∃ i ∈ removed, ∃ j, i < j ∧ j.toNat < (a.log.exportAll ext.auditJson).length ∧ j ∉ removed
  := by
  obtain ⟨known, stored, -, hchain, hstores, -, -⟩ :=
    (AuditState.consistent_of_run hrun hread).stores
  rw [AuditLog.exportAll_of_stores hstores] at hsha3 hzero ⊢
  have hkept := AuditLog.readsAs_of_stores (hstores.removeEntries removed)
  rw [reportsIntact_iff, hkept.verifyChain_eq_ok_iff,
    hchain.isLinked_filter_iff hsha3 hzero removed]
  simp only [not_forall, exists_prop]

/-- Removing the first of two entries is detected. -/
theorem removal_detected_first :
  ¬ ReportsIntact (handleAuditVerify { plainExternals with auditJson := deletionsJson }
    { DaemonState.empty "node" with auditLog := deletionsLog.removeEntries {0} })
  := by
  obtain ⟨a, hrun, hlog, hread⟩ := run_deletionsRun
  have hexport := exportAll_deletionsLog
  rw [← hlog] at hexport ⊢
  apply (@removal_detected_iff { plainExternals with auditJson := deletionsJson } _ _ _ hrun hread
    _ _ (.empty "node") {0}).mpr
  · refine ⟨0, by decide, 1, by decide, ?_, by decide⟩
    rw [hexport]
    decide
  · rw [hexport]
    unfold NoCollision
    decide +kernel
  · rw [hexport]
    decide +kernel

/-- Removing the second of two entries is not detected: the chain is reported intact, with the
head of the removed entry. -/
theorem removal_second :
  deletionsLog.len = 2 ∧
    handleAuditVerify { plainExternals with auditJson := deletionsJson }
        { DaemonState.empty "node" with auditLog := deletionsLog.removeEntries {1} }
      = bulk ("OK 1 entries verified, chain intact, head=" ++ hexEncode secondDeletion.hash.1)
  := by
  decide +kernel

end Cachee
