import Cachee.Audit.Anchors
import Cachee.Audit.MerkleRoot
import Cachee.Daemon.AuditVerify
import Cachee.Resp

/-!
# Published Merkle roots

`AUDITANCHOR` replies with a Merkle root, without the number of hashes.  Among all lists of hashes,
the root does not tell the number: an odd last hash is paired with itself, and nothing tells a leaf
from the hash of a pair.  So lists share a root exactly if they have the same hashes once what is
paired with itself is repeated, at the height of the lower tree.  But the hashes of the entries of a
log do not repeat, and they are no hashes of pairs, as more is hashed for an entry than two hashes.
So the root that is published for a log still determines the hashes that it is of.
-/

open PairTree Text

namespace Cachee

section Definitions

variable (sha3 : Bytes → Block 32) (json : AuditJson)

/-- The text of an event has the name of its kind and those of its fields, so it is longer than 16
bytes. -/
def AuditJson.LongEventTexts : Prop :=
  ∀ event text, json.event.toVec event = .ok text → 16 < text.length

/-- The hash function does not collide on any two of the messages. -/
def NoCollisionAmong (messages : List Bytes) : Prop :=
  ∀ x ∈ messages, ∀ y ∈ messages, NoCollision sha3 x y

/-- The messages that are hashed for the stored entries, and for the root of the hashes since the
last anchor. -/
def AuditState.hashedMessages (a : AuditState) : List Bytes :=
  (a.log.exportAll json).map (AuditEntry.input json)
    ++ merkleMessages sha3 a.log.leavesSinceAnchor

/-- `AUDITANCHOR` replies with the root. -/
def PublishesRoot (ext : Externals) (amb : Ambient) (s : DaemonState) (root : Block 32) : Prop :=
  (handleAuditAnchor ext amb s).2 = bulk s!"OK merkle_root={hexEncode root.1}"

end Definitions

variable {sha3 : Bytes → Block 32} {json : AuditJson} {entries : List AuditEntry}
  {leaves leaves' : List (Block 32)} {ext : Externals} {amb : Ambient} {s : DaemonState}
  {root : Block 32}

/-! ### Lists with the same root -/

/-- Where the hash function does not collide, a list whose tree is not higher has the root of
another if both have the same hashes at the height of its tree, where what is paired with itself is
repeated. -/
theorem merkleRoot_eq_iff_padded_eq (h : leaves ≠ []) (h' : leaves' ≠ [])
    (hcollision : ∀ x ∈ merkleMessages sha3 leaves, ∀ y ∈ merkleMessages sha3 leaves',
      NoCollision sha3 x y)
    (hheight : height leaves ≤ height leaves') :
  merkleRoot sha3 leaves = merkleRoot sha3 leaves' ↔
    padded (height leaves) leaves = padded (height leaves)
      (level (hashPair sha3) leaves' (height leaves' - height leaves))
  := by
  rw [← root?_hashPair_eq_iff h h']
  apply root?_eq_iff_padded_eq h h' hheight (eq_of_mem_nodePairs hcollision)

/-- Where the hash function does not collide, lists of pairwise different hashes with the same root
are equal if none has a hash of a pair of the other. -/
theorem eq_of_merkleRoot_eq_of_nodup (h : leaves ≠ []) (h' : leaves' ≠ [])
    (hcollision : ∀ x ∈ merkleMessages sha3 leaves, ∀ y ∈ merkleMessages sha3 leaves',
      NoCollision sha3 x y)
    (hnodup : leaves.Nodup) (hnodup' : leaves'.Nodup)
    (hleaves : leaves.Disjoint (nodes (hashPair sha3) leaves'))
    (hleaves' : leaves'.Disjoint (nodes (hashPair sha3) leaves))
    (hroot : merkleRoot sha3 leaves = merkleRoot sha3 leaves') :
  leaves = leaves'
  := by
  apply eq_of_root?_eq_of_nodup h h' hnodup hnodup' hleaves hleaves'
    (eq_of_mem_nodePairs hcollision)
  apply (root?_hashPair_eq_iff h h').mpr hroot

/-! ### The hashes of a log -/

/-- More or less is hashed for an entry than two hashes. -/
theorem AuditJson.LongEventTexts.length_input (h : json.LongEventTexts) (entry : AuditEntry) :
  (entry.input json).length ≠ 64
  := by
  have hlen : (entry.input json).length
      = 48 + (json.event.toVecOrDefault entry.event).length := by
    simp only [AuditEntry.input, AuditEntry.hashInput, List.length_append, length_beBytes,
      entry.prevHash.2]
    omega
  rw [hlen, JsonCodec.toVecOrDefault]
  split
  · rename_i text htext
    have hlong := h entry.event text htext
    omega
  · simp

/-- The hashes of a chain are no hashes of pairs. -/
theorem IsChain.disjoint_nodes (h : IsChain sha3 json (Block.zero 32) 0 entries)
    (hevents : json.LongEventTexts)
    (hcollision : ∀ e ∈ entries, ∀ x ∈ merkleMessages sha3 leaves,
      NoCollision sha3 (e.input json) x) :
  (entries.map AuditEntry.hash).Disjoint (nodes (hashPair sha3) leaves)
  := by
  intro hash hentry hnode
  obtain ⟨e, he, rfl⟩ := List.mem_map.mp hentry
  obtain ⟨p, hp, hhash⟩ := List.mem_map.mp hnode
  rw [h.isLinked.hash_eq he] at hhash
  have hinput := hcollision e he _ (List.mem_map_of_mem hp) hhash.symm
  apply hevents.length_input e
  rw [hinput, List.length_append, p.1.2, p.2.2]

/-- A log in a run knows a chain of stored entries. -/
theorem AuditState.Consistent.exists_tracks {a : AuditState} (h : a.Consistent sha3 json) :
  ∃ known, Tracks sha3 json a.log known ∧ known ⊆ a.log.exportAll json
  := by
  obtain ⟨known, htracks, hstores⟩ := h
  use known, htracks
  split at hstores
  · obtain ⟨entry, -, hstores⟩ := hstores
    rw [AuditLog.exportAll_of_stores hstores]
    apply List.subset_append_left
  · rw [AuditLog.exportAll_of_stores hstores]
    apply List.Subset.refl

/-- An anchor returns the root of the hashes since the last one, of which there are some. -/
theorem AuditLog.of_computeMerkleAnchor_eq_ok {log log' : AuditLog} {timestampNs : UInt64}
    {fault : Option WriteFault}
    (h : log.computeMerkleAnchor sha3 json timestampNs fault = (log', .ok root)) :
  log.leavesSinceAnchor ≠ [] ∧ root = merkleRoot sha3 log.leavesSinceAnchor
  := by
  rw [computeMerkleAnchor] at h
  split at h
  · cases h
  · rename_i hempty
    rw [List.isEmpty_iff] at hempty
    use hempty
    dsimp only at h
    split at h
    · cases h
    · cases h
      rfl

/-- The root that is published is that of the hashes since the last anchor, of which there are
some. -/
theorem PublishesRoot.leavesSinceAnchor (h : PublishesRoot ext amb s root) :
  s.auditLog.leavesSinceAnchor ≠ [] ∧
    root = merkleRoot ext.sha3 s.auditLog.leavesSinceAnchor
  := by
  rw [PublishesRoot, handleAuditAnchor] at h
  split at h
  · rename_i log root' hanchor
    have hroot : root' = root := by
      have htext := congrArg String.toList (Resp.bulk_injective h)
      have hhex : hexEncode root'.1 = hexEncode root.1 := by
        apply String.toList_inj.mp
        simpa [toString] using htext
      apply Subtype.ext (hexEncode_injective hhex)
    rw [← hroot]
    apply AuditLog.of_computeMerkleAnchor_eq_ok hanchor
  · rename_i log e hanchor
    obtain ⟨d, ds, -, -, hlist⟩ := Resp.toList_bulk s!"OK merkle_root={hexEncode root.1}"
    rw [← h] at hlist
    simp [toString] at hlist

/-- The hashes since the last anchor do not repeat, where nothing that is hashed for the stored
entries collides. -/
theorem AuditState.Consistent.nodup_leavesSinceAnchor {a : AuditState}
    (h : a.Consistent sha3 json)
    (hcollision : ∀ e ∈ a.log.exportAll json, ∀ e' ∈ a.log.exportAll json,
      NoCollision sha3 (e.input json) (e'.input json)) :
  a.log.leavesSinceAnchor.Nodup
  := by
  obtain ⟨known, htracks, hknown⟩ := h.exists_tracks
  have hnodup : (known.map AuditEntry.hash).Nodup := by
    apply htracks.chain.nodup_map_hash
    intro e he e' he'
    apply hcollision e (hknown he) e' (hknown he')
  rw [AuditLog.leavesSinceAnchor, htracks.merkleLeaves]
  apply (List.drop_sublist _ _).nodup hnodup

/-- The hashes since the last anchor are no hashes of pairs, where nothing that is hashed for the
stored entries collides with a pair. -/
theorem AuditState.Consistent.disjoint_leavesSinceAnchor {a : AuditState}
    (h : a.Consistent sha3 json) (hevents : json.LongEventTexts)
    (hcollision : ∀ e ∈ a.log.exportAll json, ∀ x ∈ merkleMessages sha3 leaves,
      NoCollision sha3 (e.input json) x) :
  a.log.leavesSinceAnchor.Disjoint (nodes (hashPair sha3) leaves)
  := by
  obtain ⟨known, htracks, hknown⟩ := h.exists_tracks
  have hdisjoint : (known.map AuditEntry.hash).Disjoint (nodes (hashPair sha3) leaves) := by
    apply htracks.chain.disjoint_nodes hevents
    intro e he
    apply hcollision e (hknown he)
  rw [AuditLog.leavesSinceAnchor, htracks.merkleLeaves]
  apply List.disjoint_of_subset_left (List.drop_subset _ _) hdisjoint

theorem AuditState.input_mem_hashedMessages {a : AuditState} {e : AuditEntry}
    (he : e ∈ a.log.exportAll json) :
  e.input json ∈ a.hashedMessages sha3 json
  := List.mem_append_left _ (List.mem_map_of_mem he)

theorem AuditState.merkleMessages_subset (a : AuditState) :
  merkleMessages sha3 a.log.leavesSinceAnchor ⊆ a.hashedMessages sha3 json
  := List.subset_append_right _ _

/-- Logs for which `AUDITANCHOR` publishes the same root have the same hashes since their last
anchors, where nothing that is hashed collides. -/
theorem AuditState.Consistent.leavesSinceAnchor_eq {a a' : AuditState} {amb' : Ambient}
    {s' : DaemonState} {messages : List Bytes} (h : a.Consistent ext.sha3 ext.auditJson)
    (h' : a'.Consistent ext.sha3 ext.auditJson) (hevents : ext.auditJson.LongEventTexts)
    (hcollision : NoCollisionAmong ext.sha3 messages)
    (hhashed : a.hashedMessages ext.sha3 ext.auditJson ⊆ messages)
    (hhashed' : a'.hashedMessages ext.sha3 ext.auditJson ⊆ messages)
    (hroot : PublishesRoot ext amb { s with auditLog := a.log } root)
    (hroot' : PublishesRoot ext amb' { s' with auditLog := a'.log } root) :
  a.log.leavesSinceAnchor = a'.log.leavesSinceAnchor
  := by
  obtain ⟨hne, heq⟩ := hroot.leavesSinceAnchor
  obtain ⟨hne', heq'⟩ := hroot'.leavesSinceAnchor
  apply eq_of_merkleRoot_eq_of_nodup hne hne'
  · intro x hx y hy
    apply hcollision x (hhashed (a.merkleMessages_subset hx)) y
      (hhashed' (a'.merkleMessages_subset hy))
  · apply h.nodup_leavesSinceAnchor
    intro e he e' he'
    apply hcollision _ (hhashed (input_mem_hashedMessages he)) _
      (hhashed (input_mem_hashedMessages he'))
  · apply h'.nodup_leavesSinceAnchor
    intro e he e' he'
    apply hcollision _ (hhashed' (input_mem_hashedMessages he)) _
      (hhashed' (input_mem_hashedMessages he'))
  · apply h.disjoint_leavesSinceAnchor hevents
    intro e he x hx
    apply hcollision _ (hhashed (input_mem_hashedMessages he)) x
      (hhashed' (a'.merkleMessages_subset hx))
  · apply h'.disjoint_leavesSinceAnchor hevents
    intro e he x hx
    apply hcollision _ (hhashed' (input_mem_hashedMessages he)) x
      (hhashed (a.merkleMessages_subset hx))
  · rw [← heq, ← heq']

/-! ### The number of hashes -/

/-- Three hashes and the same with the last one repeated have the same root, and so have the hash of
a pair and the pair, though nothing that is hashed for them collides. -/
theorem merkleRoot_eq_of_length_ne :
  (merkleRoot primeHash [numberedBlock 1, numberedBlock 2, numberedBlock 3]
      = merkleRoot primeHash [numberedBlock 1, numberedBlock 2, numberedBlock 3, numberedBlock 3] ∧
    NoCollisionAmong primeHash
      (merkleMessages primeHash [numberedBlock 1, numberedBlock 2, numberedBlock 3]
        ++ merkleMessages primeHash
          [numberedBlock 1, numberedBlock 2, numberedBlock 3, numberedBlock 3])) ∧
  merkleRoot primeHash [hashPair primeHash (numberedBlock 1) (numberedBlock 2)]
      = merkleRoot primeHash [numberedBlock 1, numberedBlock 2] ∧
    NoCollisionAmong primeHash
      (merkleMessages primeHash [hashPair primeHash (numberedBlock 1) (numberedBlock 2)]
        ++ merkleMessages primeHash [numberedBlock 1, numberedBlock 2])
  := by
  unfold NoCollisionAmong NoCollision
  decide +kernel

/-- Where nothing that is hashed collides: lists of hashes have the same root exactly if they have
the same hashes at the height of the lower tree, where what is paired with itself is repeated; lists
of pairwise different hashes with the same root are equal if none has a hash of a pair of the other;
and in all states that runs lead to, logs for which `AUDITANCHOR` publishes the same root have the
same hashes since their last anchors. -/
theorem merkleRoot_shared_and_published (ext : Externals) :
  (∀ leaves leaves' : List (Block 32), leaves ≠ [] → leaves' ≠ [] →
    (∀ x ∈ merkleMessages ext.sha3 leaves, ∀ y ∈ merkleMessages ext.sha3 leaves',
      NoCollision ext.sha3 x y) →
    (height leaves ≤ height leaves' →
      (merkleRoot ext.sha3 leaves = merkleRoot ext.sha3 leaves' ↔
        padded (height leaves) leaves = padded (height leaves)
          (level (hashPair ext.sha3) leaves' (height leaves' - height leaves)))) ∧
    (leaves.Nodup → leaves'.Nodup → leaves.Disjoint (nodes (hashPair ext.sha3) leaves') →
      leaves'.Disjoint (nodes (hashPair ext.sha3) leaves) →
      merkleRoot ext.sha3 leaves = merkleRoot ext.sha3 leaves' → leaves = leaves')) ∧
  ∀ issuerId issuerId' events events' a a',
    run (AuditState.step ext.sha3 ext.auditJson) (.initial issuerId) events = some a →
    run (AuditState.step ext.sha3 ext.auditJson) (.initial issuerId') events' = some a' →
    (∀ entry ∈ a.written ++ a'.written, ext.auditJson.entry.RoundTripsAt entry) →
    ext.auditJson.LongEventTexts →
    NoCollisionAmong ext.sha3 (a.hashedMessages ext.sha3 ext.auditJson
      ++ a'.hashedMessages ext.sha3 ext.auditJson) →
    ∀ (amb amb' : Ambient) (s s' : DaemonState) root,
      PublishesRoot ext amb { s with auditLog := a.log } root →
      PublishesRoot ext amb' { s' with auditLog := a'.log } root →
      a.log.leavesSinceAnchor = a'.log.leavesSinceAnchor
  := by
  constructor
  · intro leaves leaves' h h' hcollision
    constructor
    · apply merkleRoot_eq_iff_padded_eq h h' hcollision
    · apply eq_of_merkleRoot_eq_of_nodup h h' hcollision
  · intro issuerId issuerId' events events' a a' hrun hrun' hread hevents hcollision
      amb amb' s s' root
    apply AuditState.Consistent.leavesSinceAnchor_eq _ _ hevents hcollision
      (List.subset_append_left _ _) (List.subset_append_right _ _)
    · apply AuditState.consistent_of_run hrun
      intro entry hentry
      apply hread entry (List.mem_append_left _ hentry)
    · apply AuditState.consistent_of_run hrun'
      intro entry hentry
      apply hread entry (List.mem_append_right _ hentry)

/-! ### Two logs of a deletion -/

/-- The codecs of the anchored deletion have long texts for events. -/
theorem longEventTexts_anchors :
  AnchoringState.anchorsJson.LongEventTexts
  := by
  have hlong : ∀ entry ∈ [(AuditEventType.entryDeleted "k", AuditState.deletionText),
      (AnchoringState.deletionAnchorEvent, AnchoringState.deletionAnchorText),
      (AnchoringState.secondAnchorEvent, AnchoringState.secondAnchorText)],
      16 < entry.2.length := by
    decide +kernel
  intro event text htext
  simp only [AnchoringState.anchorsJson, JsonCodec.table] at htext
  split at htext
  · rename_i entry hfind
    rw [← Except.ok.inj htext]
    apply hlong entry (List.mem_of_find?_eq_some hfind)
  · cases htext

/-- The program with the codecs of the anchored deletion. -/
def anchorsExternals : Externals := { plainExternals with auditJson := AnchoringState.anchorsJson }

/-- A run that records the deletion. -/
def recordedRun : List AuditEvent := [.append 1 (.entryDeleted "k") none]

/-- A run that fails to flush the deletion, and reopens the log. -/
def reopenedRun : List AuditEvent :=
  [.append 1 (.entryDeleted "k") (some (.flush "disk full")), .reopen "node"]

/-- The run leads to a log of the deletion, whose hash is published as the root. -/
structure PublishesDeletion (events : List AuditEvent) (a : AuditState) : Prop where
  run_eq : run (AuditState.step primeHash AnchoringState.anchorsJson) (.initial "node") events
    = some a
  exportAll : a.log.exportAll AnchoringState.anchorsJson = [AuditState.deletionEntry]
  leaves : a.log.leavesSinceAnchor = [AuditState.deletionEntry.hash]
  root : PublishesRoot anchorsExternals plainAmbient
    { DaemonState.empty "node" with auditLog := a.log } AuditState.deletionEntry.hash

/-- A run publishes the deletion if its entries, hashes and reply are those of the deletion. -/
theorem exists_publishesDeletion {events : List AuditEvent}
    (h : (run (AuditState.step primeHash AnchoringState.anchorsJson) (.initial "node") events).map
      (fun a => (a.log.exportAll AnchoringState.anchorsJson, a.log.leavesSinceAnchor,
        (handleAuditAnchor anchorsExternals plainAmbient
          { DaemonState.empty "node" with auditLog := a.log }).2))
      = some ([AuditState.deletionEntry], [AuditState.deletionEntry.hash],
          bulk s!"OK merkle_root={hexEncode AuditState.deletionEntry.hash.1}")) :
  ∃ a, PublishesDeletion events a
  := by
  obtain ⟨a, hrun, ha⟩ := Option.map_eq_some_iff.mp h
  simp only [Prod.mk.injEq] at ha
  exact ⟨a, hrun, ha.1, ha.2.1, ha.2.2⟩

/-- Three hashes, and the same with the last one repeated, have the same root, and the first two of
them another; and after both runs the same hashes are published. -/
theorem merkleRoot_shared_and_published_deletion :
  merkleRoot primeHash [numberedBlock 1, numberedBlock 2, numberedBlock 3]
      = merkleRoot primeHash [numberedBlock 1, numberedBlock 2, numberedBlock 3, numberedBlock 3] ∧
    merkleRoot primeHash [numberedBlock 1, numberedBlock 2]
      ≠ merkleRoot primeHash [numberedBlock 1, numberedBlock 2, numberedBlock 3] ∧
    ∃ a a', PublishesDeletion recordedRun a ∧ PublishesDeletion reopenedRun a' ∧
      a.log.leavesSinceAnchor = a'.log.leavesSinceAnchor
  := by
  obtain ⟨hlists, hruns⟩ := merkleRoot_shared_and_published anchorsExternals
  refine ⟨?_, ?_, ?_⟩
  · apply ((hlists [numberedBlock 1, numberedBlock 2, numberedBlock 3]
      [numberedBlock 1, numberedBlock 2, numberedBlock 3, numberedBlock 3] _ _ _).1 _).mpr
    · decide +kernel
    · apply List.cons_ne_nil
    · apply List.cons_ne_nil
    · unfold NoCollision
      decide +kernel
    · decide +kernel
  · intro hroot
    have heq := (hlists [numberedBlock 1, numberedBlock 2]
      [numberedBlock 1, numberedBlock 2, numberedBlock 3] (List.cons_ne_nil _ _)
      (List.cons_ne_nil _ _) (by
        unfold NoCollision
        decide +kernel)).2 (by decide +kernel) (by decide +kernel)
      (List.disjoint_iff_ne.mpr (by decide +kernel)) (List.disjoint_iff_ne.mpr (by decide +kernel))
      hroot
    cases congrArg List.length heq
  · obtain ⟨a, ha⟩ : ∃ a, PublishesDeletion recordedRun a :=
      exists_publishesDeletion (by decide +kernel)
    obtain ⟨a', ha'⟩ : ∃ a', PublishesDeletion reopenedRun a' :=
      exists_publishesDeletion (by decide +kernel)
    refine ⟨a, a', ha, ha', ?_⟩
    apply hruns _ _ _ _ a a' ha.run_eq ha'.run_eq _ longEventTexts_anchors _ _ _ _ _ _ ha.root
      ha'.root
    · intro entry _
      apply AnchoringState.roundTripsAt_anchors
    · rw [AuditState.hashedMessages, AuditState.hashedMessages]
      change NoCollisionAmong primeHash ((a.log.exportAll AnchoringState.anchorsJson).map _ ++ _
        ++ ((a'.log.exportAll AnchoringState.anchorsJson).map _ ++ _))
      rw [ha.exportAll, ha'.exportAll, ha.leaves, ha'.leaves]
      unfold NoCollisionAmong NoCollision
      decide +kernel

end Cachee
