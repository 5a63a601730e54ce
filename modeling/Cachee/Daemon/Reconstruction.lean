import Cachee.Audit.Numbering
import Cachee.Audit.Replay
import Cachee.Daemon.Effects
import Cachee.Library.Lookup

/-!
# The audit log and the slots

A `SET` records the creation of its slot, `INVALIDATE` and `SUPERSEDE` the change of the state, and
the other commands what does not concern the state of a slot.  But a `DEL` removes the slot
whatever the engine says, and records a deletion only if the engine had the value.  So the log
reconstructs the slots as long as no slot is deleted whose value the engine has given up.
-/

open Text

namespace Cachee

/-- The entry of the event is written without failure. -/
def DaemonEvent.IsRecorded : DaemonEvent → Prop
  | command amb _ => amb.auditFault = none
  | evict _ => True

/-- If the event is a `DEL` of a key with a slot, then the engine has the value of the key. -/
def DeletesFound (s : DaemonState) (e : DaemonEvent) : Prop :=
  ∀ key ∈ e.del?, (s.slots.lookup key).isSome → (s.engine.lookup key).isSome

instance decidableDeletesFound {s : DaemonState} {e : DaemonEvent} : Decidable (DeletesFound s e) :=
  inferInstanceAs
    (Decidable (∀ key ∈ e.del?, (s.slots.lookup key).isSome → (s.engine.lookup key).isSome))

/-- The log is complete and reconstructs the slots. -/
structure Tracked (ext : Externals) (s : DaemonState) : Prop where
  complete : s.auditLog.IsComplete ext.sha3 ext.auditJson
  reconstructs : s.auditLog.Reconstructs ext.auditJson s.slots

section Log

variable {ext : Externals} {cfg : DaemonConfig} {amb : Ambient} {s s' : DaemonState}
  {parts : List String}

/-- The hashes of a log do not become fewer by an append. -/
theorem length_leaves_le_append (log : AuditLog) (event : AuditEventType) :
  log.merkleLeaves.length
    ≤ (log.append ext.sha3 ext.auditJson amb.auditNow amb.auditFault event).1.merkleLeaves.length
  := by
  rw [AuditLog.append]
  split
  · apply le_rfl
  · split
    · apply le_rfl
    · apply le_rfl
    · simp

/-- The hashes of a log do not become fewer. -/
theorem CommandStep.length_leaves_le (h : CommandStep ext cfg amb parts s s') :
  s.auditLog.merkleLeaves.length ≤ s'.auditLog.merkleLeaves.length
  := by
  cases h with
  | same => apply le_rfl
  | @set command key word args value fingerprint s₁ hparts hcommand hargs hpersist =>
    rw [← (DaemonState.persistSlot_insertSlot hpersist).2, DaemonState.logCreated]
    split
    · apply length_leaves_le_append
    · apply le_rfl
  | @delete command key args hparts hcommand =>
    rw [DaemonState.logDeleted]
    split
    · apply length_leaves_le_append
    · apply le_rfl
  | revoke reason hparts hcommand hslot hactive => apply length_leaves_le_append
  | supersede hparts hcommand hslot hactive hsuccessor => apply length_leaves_le_append
  | verifiedRead key response =>
    rw [DaemonState.logVerification]
    split
    · apply length_leaves_le_append
    · apply length_leaves_le_append
    · apply le_rfl
  | anchor =>
    rw [handleAuditAnchor_eq]
    cases hempty : s.auditLog.leavesSinceAnchor.isEmpty with
    | true =>
      rw [AuditLog.computeMerkleAnchor, if_pos hempty]
    | false =>
      rw [(AuditState.computeMerkleAnchor_log_eq _ _ hempty _ _).2.2.2]
      apply length_leaves_le_append

/-- The log tracks the slots after an event has been recorded that says how they have changed. -/
theorem Tracked.log {s₁ : DaemonState} (h : Tracked ext s) (hlog : s₁.auditLog = s.auditLog)
    (event : AuditEventType) (hread : ∀ entry, ext.auditJson.entry.RoundTripsAt entry)
    (hfault : amb.auditFault = none)
    (hfits : (s₁.log ext amb event).auditLog.merkleLeaves.length ≤ maxLeaves)
    (hother : ∀ key, event.key? ≠ some key → s₁.slots.lookup key = s.slots.lookup key)
    (hkey : ∀ key, event.key? = some key →
      event.LeadsTo (s.slots.lookup key) (s₁.slots.lookup key)) :
  Tracked ext (s₁.log ext amb event)
  := by
  rw [DaemonState.log, hlog, hfault] at hfits ⊢
  obtain ⟨hcomplete, hexport⟩ := h.complete.append amb.auditNow event (hread _) hfits
  exact ⟨hcomplete, h.reconstructs.append hexport hother hkey⟩

/-- A `SET` that has been recorded keeps the log tracking the slots. -/
theorem Tracked.set {key : String} {value : Bytes} {slot : CacheSlot} {s₁ : DaemonState}
    (h : Tracked ext s) (hread : ∀ entry, ext.auditJson.entry.RoundTripsAt entry)
    (hfault : amb.auditFault = none) (hactive : slot.state = .active)
    (hpersist : (s.insertSlot key slot).persistSlot ext cfg amb key = .ok s₁)
    (hfits : ((s₁.setValue key value).logCreated ext cfg amb key).auditLog.merkleLeaves.length
      ≤ maxLeaves) :
  Tracked ext ((s₁.setValue key value).logCreated ext cfg amb key)
  := by
  obtain ⟨hslots, hlog⟩ := DaemonState.persistSlot_insertSlot hpersist
  have hslot : (s₁.setValue key value).slots.lookup key = some slot := by
    rw [DaemonState.setValue, hslots, AList.lookup_insert]
  rw [DaemonState.logCreated, hslot] at hfits ⊢
  dsimp only at hfits ⊢
  refine h.log (by exact hlog) _ hread hfault hfits ?_ ?_
  · intro key' hne
    apply (congrArg _ hslots).trans
    apply AList.lookup_insert_ne
    rintro rfl
    exact hne rfl
  · intro key' heq text? _
    obtain rfl : key = key' := Option.some.inj heq
    rw [hslot]
    refine ⟨_, rfl, .some ?_⟩
    rw [hactive]
    exact .active

/-- A `DEL` keeps the log tracking the slots if it is recorded or there was no slot. -/
theorem Tracked.delete {key : String} {deleted : Bool} {s₁ : DaemonState} (h : Tracked ext s)
    (hlog : s₁.auditLog = s.auditLog) (hslots : s₁.slots = s.slots)
    (hread : ∀ entry, ext.auditJson.entry.RoundTripsAt entry) (hfault : amb.auditFault = none)
    (hfound : (s.slots.lookup key).isSome → deleted)
    (hfits : ((s₁.removeSlot key).logDeleted ext amb key deleted).auditLog.merkleLeaves.length
      ≤ maxLeaves) :
  Tracked ext ((s₁.removeSlot key).logDeleted ext amb key deleted)
  := by
  have hother (key' : String) (hne : key' ≠ key) :
      (s₁.removeSlot key).slots.lookup key' = s.slots.lookup key' := by
    rw [DaemonState.removeSlot, hslots, AList.lookup_erase_ne hne]
  have hgone : (s₁.removeSlot key).slots.lookup key = none := AList.lookup_erase _ _
  rw [DaemonState.logDeleted] at hfits ⊢
  by_cases hdeleted : deleted = true
  · rw [if_pos hdeleted] at hfits ⊢
    refine h.log (by exact hlog) _ hread hfault hfits ?_ ?_
    · intro key' hne
      apply hother
      rintro rfl
      exact hne rfl
    · intro key' heq text? _
      obtain rfl : key = key' := Option.some.inj heq
      rw [hgone]
      exact ⟨none, rfl, .none⟩
  · -- Nothing is recorded, and there was no slot.
    rw [if_neg hdeleted]
    have hnone : s.slots.lookup key = none := by
      by_contra hsome
      exact hdeleted (hfound (Option.isSome_iff_ne_none.mpr hsome))
    refine ⟨hlog ▸ h.complete, hlog ▸ h.reconstructs.congr ?_⟩
    intro key'
    by_cases hkey : key' = key
    · rw [hkey, hgone, hnone]
    · apply hother key' hkey

/-- A change of the state of an active slot that has been recorded keeps the log tracking the
slots. -/
theorem Tracked.transition {key toState : String} {reason : Option String} {slot : CacheSlot}
    {state : EntryState} (h : Tracked ext s)
    (hread : ∀ entry, ext.auditJson.entry.RoundTripsAt entry) (hfault : amb.auditFault = none)
    (hslot : s.slots.lookup key = some slot) (hactive : slot.state = .active)
    (hstate : state.RecordedAs toState)
    (hfits : ((s.insertSlot key { slot with state }).log ext amb
      (.stateTransition key "Active" toState "System" reason)).auditLog.merkleLeaves.length
        ≤ maxLeaves) :
  Tracked ext ((s.insertSlot key { slot with state }).log ext amb
    (.stateTransition key "Active" toState "System" reason))
  := by
  refine h.log (by rfl) _ hread hfault hfits ?_ ?_
  · intro key' hne
    apply AList.lookup_insert_ne
    rintro rfl
    exact hne rfl
  · intro key' heq text? htext?
    obtain rfl : key = key' := Option.some.inj heq
    rw [hslot] at htext?
    obtain rfl := htext?.eq_active hactive
    rw [DaemonState.insertSlot, AList.lookup_insert]
    exact ⟨some toState, rfl, .some hstate⟩

/-- A verification that has been recorded keeps the log tracking the slots. -/
theorem Tracked.logVerification (h : Tracked ext s)
    (hread : ∀ entry, ext.auditJson.entry.RoundTripsAt entry) (hfault : amb.auditFault = none)
    (key : String) (response : CacheeReadResponse)
    (hfits : (s.logVerification ext amb key response).auditLog.merkleLeaves.length ≤ maxLeaves) :
  Tracked ext (s.logVerification ext amb key response)
  := by
  rw [DaemonState.logVerification] at hfits ⊢
  split at hfits
  · apply h.log rfl _ hread hfault hfits (fun _ _ => rfl)
    intro key' _ text? htext?
    exact ⟨text?, rfl, htext?⟩
  · apply h.log rfl _ hread hfault hfits (fun _ _ => rfl)
    intro key' _ text? htext?
    exact ⟨text?, rfl, htext?⟩
  · apply h

/-- An anchor keeps the log tracking the slots. -/
theorem Tracked.anchor (h : Tracked ext s)
    (hread : ∀ entry, ext.auditJson.entry.RoundTripsAt entry) (hfault : amb.auditFault = none)
    (hfits : (handleAuditAnchor ext amb s).1.auditLog.merkleLeaves.length ≤ maxLeaves) :
  Tracked ext (handleAuditAnchor ext amb s).1
  := by
  rw [handleAuditAnchor_eq, hfault] at hfits ⊢
  cases hempty : s.auditLog.leavesSinceAnchor.isEmpty with
  | true =>
    rw [AuditLog.computeMerkleAnchor, if_pos hempty]
    apply h
  | false =>
    obtain ⟨hcomplete, hexport⟩ :=
      h.complete.computeMerkleAnchor hempty amb.auditNow (hread _) hfits
    refine ⟨hcomplete, h.reconstructs.append hexport (fun _ _ => rfl) ?_⟩
    rintro key ⟨⟩

/-- A command keeps the log tracking the slots, if its entry is written and it does not delete a
slot whose value the engine has given up. -/
theorem Tracked.command {data : Bytes} (h : Tracked ext s)
    (hread : ∀ entry, ext.auditJson.entry.RoundTripsAt entry) (hfault : amb.auditFault = none)
    (hfound : DeletesFound s (.command amb data))
    (hfits : s'.auditLog.merkleLeaves.length ≤ maxLeaves)
    (hstep : CommandStep ext cfg amb (words data) s s') :
  Tracked ext s'
  := by
  cases hstep with
  | same => apply h
  | set hparts hcommand hargs hpersist => apply h.set hread hfault rfl hpersist hfits
  | @delete command key args hparts hcommand =>
    have hdel : (DaemonEvent.command amb data).del? = some key :=
      DaemonEvent.del?_eq_some.mpr ⟨command, args, hparts, hcommand⟩
    have hlog : (s.deleteValue key).1.auditLog = s.auditLog := rfl
    have hslots : (s.deleteValue key).1.slots = s.slots := rfl
    apply h.delete hlog hslots hread hfault (hfound key hdel) hfits
  | revoke reason hparts hcommand hslot hactive =>
    apply h.transition hread hfault hslot hactive (.revoked _ _ _) hfits
  | supersede hparts hcommand hslot hactive hsuccessor =>
    apply h.transition hread hfault hslot hactive (.superseded _ _) hfits
  | verifiedRead key response => apply h.logVerification hread hfault key response hfits
  | anchor => apply h.anchor hread hfault hfits

/-- An event keeps the log tracking the slots, if its entry is written and it does not delete a
slot whose value the engine has given up. -/
theorem Tracked.step {e : DaemonEvent} (h : Tracked ext s)
    (hread : ∀ entry, ext.auditJson.entry.RoundTripsAt entry) (hrecorded : e.IsRecorded)
    (hfound : DeletesFound s e) (hfits : s'.auditLog.merkleLeaves.length ≤ maxLeaves)
    (hstep : daemonStep ext cfg s e = some s') :
  Tracked ext s'
  := by
  rcases daemonStep_cases hstep with ⟨amb, data, rfl, hcommand⟩ | ⟨key, rfl, rfl⟩
  · apply h.command hread hrecorded hfound hfits hcommand
  · exact ⟨h.complete, h.reconstructs⟩

/-- The hashes of a log do not become fewer by an event. -/
theorem length_leaves_le_step {e : DaemonEvent} (hstep : daemonStep ext cfg s e = some s') :
  s.auditLog.merkleLeaves.length ≤ s'.auditLog.merkleLeaves.length
  := by
  rcases daemonStep_cases hstep with ⟨amb, data, rfl, hcommand⟩ | ⟨key, rfl, rfl⟩
  · apply hcommand.length_leaves_le
  · apply le_rfl

end Log

/-- From a daemon without slots, whose log is complete and has no entries about keys, in every run
in which all entries are written and every `DEL` of a key with a slot finds its value in the engine,
replaying the history of each key gives the state of its slot.  The entries are read back from
their texts, and the hashes of the log fit in memory. -/
theorem reconstructs_of_run {ext : Externals} {cfg : DaemonConfig} {s s' : DaemonState}
    {events : List DaemonEvent} (hslots : s.slots = ∅)
    (hlog : s.auditLog.IsComplete ext.sha3 ext.auditJson)
    (hnew : ∀ entry ∈ s.auditLog.exportAll ext.auditJson, entry.event.key? = none)
    (hread : ∀ entry, ext.auditJson.entry.RoundTripsAt entry)
    (hrecorded : ∀ e ∈ events, e.IsRecorded)
    (hfound : MeetsAlong (daemonStep ext cfg) DeletesFound s events)
    (hrun : run (daemonStep ext cfg) s events = some s')
    (hfits : s'.auditLog.merkleLeaves.length ≤ maxLeaves) :
  s'.auditLog.Reconstructs ext.auditJson s'.slots
  := by
  -- The hashes fit in memory at all times, since they do so in the end.
  have htracked : s'.auditLog.merkleLeaves.length ≤ maxLeaves → Tracked ext s' := by
    have hboth : MeetsAlong (daemonStep ext cfg) (fun s e => DeletesFound s e ∧ e.IsRecorded)
        s events := hfound.and (meetsAlong_of_forall hrecorded s)
    refine @run_invariant _ _ _ _
      (fun s => s.auditLog.merkleLeaves.length ≤ maxLeaves → Tracked ext s) ?_ _ _ _ ?_ hboth hrun
    · intro s₁ e s₂ h hcond hstep hfits₂
      apply (h ((length_leaves_le_step hstep).trans hfits₂)).step hread hcond.2 hcond.1 hfits₂ hstep
    · intro _
      refine ⟨hlog, ?_⟩
      rw [hslots]
      apply AuditLog.reconstructs_empty hnew
  apply (htracked hfits).reconstructs

/-! ### A deletion -/

/-- The creation of the slot of `k` with the value `v`. -/
def createdEvent : AuditEventType :=
  .entryCreated "k" (hexEncode (CacheSlot.computeContentAddress primeHash (asBytes "v") .empty).1)
    (hexEncode (ComputationFingerprint.digest primeHash .empty).1) false

/-- The JSON text of this event. -/
def createdText : Bytes :=
  asBytes ("\x7b\"EntryCreated\":\x7b\"key\":\"k\",\"content_address\":\""
    ++ hexEncode (CacheSlot.computeContentAddress primeHash (asBytes "v") .empty).1
    ++ "\",\"fingerprint_digest\":\""
    ++ hexEncode (ComputationFingerprint.digest primeHash .empty).1
    ++ "\",\"signed\":false\x7d\x7d")

/-- The entry of this event, as the first one of a log. -/
def createdEntry : AuditEntry where
  sequence := 0
  prevHash := Block.zero 32
  hash := primeHash ((Block.zero 32).1 ++ (beBytes 8 1 ++ (beBytes 8 0 ++ createdText)))
  timestampNs := 1
  event := createdEvent
  issuerId := "node"

/-- The entry of the deletion of `k` after it. -/
def deletedEntry : AuditEntry where
  sequence := 1
  prevHash := createdEntry.hash
  hash := primeHash (createdEntry.hash.1 ++ (beBytes 8 1 ++ (beBytes 8 1
    ++ AuditState.deletionText)))
  timestampNs := 1
  event := .entryDeleted "k"
  issuerId := "node"

/-- The codecs of these events, and of all entries, with the JSON texts of these two. -/
def deletionExternals : Externals :=
  { plainExternals with
    auditJson :=
      { event := .table [(createdEvent, createdText), (.entryDeleted "k", AuditState.deletionText)]
        entry := .tableOrZeros [(createdEntry, entryText createdEntry createdText),
          (deletedEntry, entryText deletedEntry AuditState.deletionText)]
        history := fun _ => .error "unsupported" } }

/-- Delete `k`. -/
def deleteK : DaemonEvent := .command plainAmbient (asBytes "DEL k")

/-- After `k` has been set and deleted, its history has these two entries, and replays to its
absence. -/
theorem reconstructs_deleted :
  ∃ s', run (daemonStep deletionExternals plainConfig) (.empty "node") [setV, deleteK] = some s' ∧
    s'.auditLog.keyHistory deletionExternals.auditJson "k" = [createdEntry, deletedEntry] ∧
    s'.auditLog.Reconstructs deletionExternals.auditJson s'.slots
  := by
  have hhistory : (run (daemonStep deletionExternals plainConfig) (.empty "node")
      [setV, deleteK]).map (fun s => (s.auditLog.keyHistory deletionExternals.auditJson "k",
        s.auditLog.merkleLeaves.length)) = some ([createdEntry, deletedEntry], 2) := by
    decide +kernel
  have hread (entry : AuditEntry) : deletionExternals.auditJson.entry.RoundTripsAt entry := by
    apply JsonCodec.roundTripsAt_tableOrZeros
    · decide +kernel
    · decide +kernel
  have hfound : MeetsAlong (daemonStep deletionExternals plainConfig) DeletesFound (.empty "node")
      [setV, deleteK] := by
    decide +kernel
  obtain ⟨s', hrun, hs'⟩ := Option.map_eq_some_iff.mp hhistory
  obtain ⟨hentries, hlength⟩ := Prod.mk.inj hs'
  refine ⟨s', hrun, hentries, ?_⟩
  apply reconstructs_of_run rfl (AuditLog.isComplete_fresh "node") _ hread _ hfound hrun _
  · intro entry hentry
    cases hentry
  · intro e he
    simp only [List.mem_cons, List.not_mem_nil, or_false] at he
    rcases he with rfl | rfl
    · rfl
    · rfl
  · rw [hlength]
    decide

/-- When the engine has given up the value of `k` before `k` is deleted, its history has its
creation only, and replays to its presence. -/
theorem not_reconstructs_evicted :
  ∃ s', run (daemonStep deletionExternals plainConfig) (.empty "node")
      [setV, .evict "k", deleteK] = some s' ∧
    s'.slots.lookup "k" = none ∧
    s'.auditLog.keyHistory deletionExternals.auditJson "k" = [createdEntry] ∧
    ¬ s'.auditLog.Reconstructs deletionExternals.auditJson s'.slots
  := by
  have hhistory : (run (daemonStep deletionExternals plainConfig) (.empty "node")
      [setV, .evict "k", deleteK]).map (fun s => (s.slots.lookup "k",
        s.auditLog.keyHistory deletionExternals.auditJson "k"))
        = some (none, [createdEntry]) := by
    decide +kernel
  obtain ⟨s', hrun, hs'⟩ := Option.map_eq_some_iff.mp hhistory
  obtain ⟨hslot, hentries⟩ := Prod.mk.inj hs'
  refine ⟨s', hrun, hslot, hentries, ?_⟩
  intro hreconstructs
  obtain ⟨text?, hreplay, htext?⟩ := hreconstructs "k"
  rw [hentries] at hreplay
  obtain rfl := Option.some.inj hreplay
  rw [hslot] at htext?
  cases htext?

end Cachee
