import Cachee.Daemon.Interleaving

/-!
# Values and slots of interleaved commands

The value of a key and its slot are written in different steps, so two interleaved `SET`s of a
key may leave the value of one with the slot of the other, and a read between the steps of a
write may see them mixed.  A value and its slot belong to one `SET` in the runs in which no step
on a key falls between the two steps on it that it must not separate.
-/

namespace Cachee

namespace ConcurrentState

open HandlerPhase (writes deletes reads)

variable (s : ConcurrentState)

/-- No handler of the key is in a phase of the given kind. -/
def NoneIn (kind : HandlerPhase → Bool) (key : String) : Prop :=
  ∀ h ∈ s.handlers, h.key? = some key → kind h = false

instance (kind : HandlerPhase → Bool) (key : String) : Decidable (s.NoneIn kind key) :=
  inferInstanceAs (Decidable (∀ h ∈ s.handlers, h.key? = some key → kind h = false))

/-- A phase does not begin between two steps of other handlers that it must not separate: a
slot is inserted when no other `SET`, `DEL` or verified read of the key is between its steps on
the engine and on the slots, and a value is deleted or read when no `SET` is. -/
def MayBegin : HandlerPhase → Prop
  | .setInsert key _ _ =>
    s.NoneIn writes key ∧ s.NoneIn deletes key ∧ s.NoneIn reads key
  | .delValue key => s.NoneIn writes key
  | .getValue key => (s.daemon.engine.lookup key).isSome = true → s.NoneIn writes key
  | _ => True

instance : (phase : HandlerPhase) → Decidable (s.MayBegin phase)
  | .setInsert key _ _ => inferInstanceAs
      (Decidable (s.NoneIn writes key ∧ s.NoneIn deletes key ∧ s.NoneIn reads key))
  | .delValue key => inferInstanceAs (Decidable (s.NoneIn writes key))
  | .getValue key => inferInstanceAs
      (Decidable ((s.daemon.engine.lookup key).isSome = true → s.NoneIn writes key))
  | .setPersist _ _ => isTrue trivial
  | .setValue _ _ => isTrue trivial
  | .setLog _ => isTrue trivial
  | .delSlot _ _ => isTrue trivial
  | .delLog _ _ => isTrue trivial
  | .getSlot _ _ => isTrue trivial
  | .getLog _ _ => isTrue trivial
  | .done => isTrue trivial

/-- The step of a handler separates no two steps of the others. -/
def Undisturbed : ConcurrentEvent → Prop
  | .step i _ => ∀ phase ∈ s.handlers[i]?, s.MayBegin phase
  | _ => True

instance : (e : ConcurrentEvent) → Decidable (s.Undisturbed e)
  | .step i _ => inferInstanceAs (Decidable (∀ phase ∈ s.handlers[i]?, s.MayBegin phase))
  | .startSet _ _ _ => isTrue trivial
  | .startDel _ => isTrue trivial
  | .startGetVerified _ => isTrue trivial
  | .evict _ => isTrue trivial

/-! ### The invariant -/

/-- The slot belongs to the value: one `SET` of the key submitted the value with the fingerprint
of the slot, and the slot has the value. -/
def Belongs (key : String) (value : Bytes) (slot : CacheSlot) : Prop :=
  slot.value = value ∧ (key, value, slot.fingerprint) ∈ s.submitted

/-- What a handler relies on in a phase. -/
def Supports : HandlerPhase → Prop
  | .setInsert key value fingerprint => (key, value, fingerprint) ∈ s.submitted
  | .setPersist key value => ∃ slot ∈ s.daemon.slots.lookup key, s.Belongs key value slot
  | .setValue key value => ∃ slot ∈ s.daemon.slots.lookup key, s.Belongs key value slot
  | .delSlot key _ => s.daemon.engine.lookup key = none ∧ s.NoneIn writes key
  | .getSlot key value => ∀ slot ∈ s.daemon.slots.lookup key, s.Belongs key value slot
  | _ => True

/-- What holds of a key: its handlers have what they rely on, and its value has a slot that
belongs to it, unless a `SET` is between its two steps. -/
structure CoherentAt (key : String) : Prop where
  supports : ∀ h ∈ s.handlers, h.key? = some key → s.Supports h
  value : ∀ value ∈ s.daemon.engine.lookup key, s.NoneIn writes key →
    ∃ slot ∈ s.daemon.slots.lookup key, s.Belongs key value slot

/-- What holds of a reply: it has the fingerprint of the slot that was found, and the slot
belongs to the value that was read. -/
def ReplyCoherent (r : VerifiedReply) : Prop :=
  ∀ slot ∈ r.slot, r.response.fingerprint = slot.fingerprint ∧
    s.Belongs r.key r.response.value slot

/-- Every key and every reply is coherent. -/
structure Coherent : Prop where
  at_key : ∀ key, s.CoherentAt key
  replies : ∀ r ∈ s.replies, s.ReplyCoherent r

variable {s} {s' : ConcurrentState} {i : ℕ} {key : String} {old new : HandlerPhase}

/-- What a handler relies on concerns its key only. -/
theorem Supports.congr {h : HandlerPhase} (hsupports : s.Supports h) (hkey : h.key? = some key)
    (hvalue : s'.daemon.engine.lookup key = s.daemon.engine.lookup key)
    (hslot : s'.daemon.slots.lookup key = s.daemon.slots.lookup key)
    (hsubmitted : s.submitted ⊆ s'.submitted)
    (hwrites : s.NoneIn writes key → s'.NoneIn writes key) :
  s'.Supports h
  := by
  have hbelongs : ∀ {value slot}, s.Belongs key value slot → s'.Belongs key value slot :=
    fun hb => ⟨hb.1, hsubmitted hb.2⟩
  cases h with
  | setInsert key' value fingerprint => apply hsubmitted hsupports
  | setPersist key' value =>
    obtain rfl := Option.some.inj hkey
    obtain ⟨slot, hmem, hb⟩ := hsupports
    exact ⟨slot, hslot ▸ hmem, hbelongs hb⟩
  | setValue key' value =>
    obtain rfl := Option.some.inj hkey
    obtain ⟨slot, hmem, hb⟩ := hsupports
    exact ⟨slot, hslot ▸ hmem, hbelongs hb⟩
  | delSlot key' deleted =>
    obtain rfl := Option.some.inj hkey
    exact ⟨hvalue ▸ hsupports.1, hwrites hsupports.2⟩
  | getSlot key' value =>
    obtain rfl := Option.some.inj hkey
    intro slot hmem
    apply hbelongs (hsupports slot (hslot ▸ hmem))
  | _ => trivial

/-! ### Handlers that go on -/

section Advance

variable {kind : HandlerPhase → Bool}

/-- A handler other than the one that goes on stays. -/
theorem mem_set_of_ne {l : List HandlerPhase} {h : HandlerPhase} (hi : l[i]? = some old)
    (hmem : h ∈ l) (hne : h ≠ old) :
  h ∈ l.set i new
  := by
  obtain ⟨j, hj⟩ := List.mem_iff_getElem?.mp hmem
  apply List.mem_iff_getElem?.mpr
  use j
  have hij : i ≠ j := by
    rintro rfl
    rw [hi] at hj
    exact hne (Option.some.inj hj).symm
  rw [List.getElem?_set_ne hij, hj]

/-- No handler of a key is in a phase of a kind after one goes on, if none was before. -/
theorem NoneIn.set (h : s.NoneIn kind key) (hhandlers : s'.handlers = s.handlers.set i new)
    (hnew : new.key? = some key → kind new = false) :
  s'.NoneIn kind key
  := by
  intro phase hmem hkey
  rw [hhandlers] at hmem
  rcases List.mem_or_eq_of_mem_set hmem with hmem | rfl
  · apply h phase hmem hkey
  · apply hnew hkey

/-- No handler of a key was in a phase of a kind before one goes on, if none is after that. -/
theorem NoneIn.of_set (h : s'.NoneIn kind key) (hi : s.handlers[i]? = some old)
    (hhandlers : s'.handlers = s.handlers.set i new)
    (hold : old.key? = some key → kind old = false) :
  s.NoneIn kind key
  := by
  intro phase hmem hkey
  by_cases hne : phase = old
  · subst hne
    apply hold hkey
  · apply h phase _ hkey
    rw [hhandlers]
    apply mem_set_of_ne hi hmem hne

/-- A key stays coherent when a handler goes on and the value and the slot of the key stay. -/
theorem CoherentAt.keep (h : s.CoherentAt key)
    (hhandlers : s'.handlers = s.handlers.set i new) (hsubmitted : s.submitted ⊆ s'.submitted)
    (hvalue : s'.daemon.engine.lookup key = s.daemon.engine.lookup key)
    (hslot : s'.daemon.slots.lookup key = s.daemon.slots.lookup key)
    (hwrites : s'.NoneIn writes key ↔ s.NoneIn writes key)
    (hnew : new.key? = some key → s'.Supports new) :
  s'.CoherentAt key
  := by
  constructor
  · intro phase hmem hkey
    rw [hhandlers] at hmem
    rcases List.mem_or_eq_of_mem_set hmem with hmem | rfl
    · apply (h.supports phase hmem hkey).congr hkey hvalue hslot hsubmitted hwrites.mpr
    · apply hnew hkey
  · intro value hmem hnone
    rw [hvalue] at hmem
    obtain ⟨slot, hslot', hb⟩ := h.value value hmem (hwrites.mp hnone)
    exact ⟨slot, hslot ▸ hslot', hb.1, hsubmitted hb.2⟩

/-- A key stays coherent when a handler of another key goes on. -/
theorem CoherentAt.frame {other : String} (h : s.CoherentAt key)
    (hi : s.handlers[i]? = some old) (hhandlers : s'.handlers = s.handlers.set i new)
    (hsubmitted : s.submitted ⊆ s'.submitted)
    (hvalue : s'.daemon.engine.lookup key = s.daemon.engine.lookup key)
    (hslot : s'.daemon.slots.lookup key = s.daemon.slots.lookup key)
    (hold : old.key? = some other) (hnew : new.key? = some other) (hne : key ≠ other) :
  s'.CoherentAt key
  := by
  have hother : some other ≠ some key := fun heq => hne (Option.some.inj heq).symm
  apply h.keep hhandlers hsubmitted hvalue hslot
  · constructor
    · intro hnone
      apply hnone.of_set hi hhandlers
      intro hkey
      exact absurd (hold ▸ hkey) hother
    · intro hnone
      apply hnone.set hhandlers
      intro hkey
      exact absurd (hnew ▸ hkey) hother
  · intro hkey
    exact absurd (hnew ▸ hkey) hother

/-- A handler goes on and leaves the engine and the slots as they are. -/
theorem Coherent.advance (h : s.Coherent) (hi : s.handlers[i]? = some old) {daemon : DaemonState}
    (hengine : daemon.engine = s.daemon.engine) (hslots : daemon.slots = s.daemon.slots)
    (hwrites : writes old = true ∨ writes new = true →
      writes new = writes old ∧ new.key? = old.key?)
    (hnew : (s.advance i daemon new).Supports new) :
  (s.advance i daemon new).Coherent
  := by
  have hhandlers : (s.advance i daemon new).handlers = s.handlers.set i new := rfl
  constructor
  · intro key
    apply (h.at_key key).keep hhandlers (List.Subset.refl _)
    · rw [ConcurrentState.advance, hengine]
    · rw [ConcurrentState.advance, hslots]
    · constructor
      · intro hnone
        apply hnone.of_set hi hhandlers
        intro hkey
        by_contra htrue
        obtain ⟨hsame, hkey'⟩ := hwrites (Or.inl (by simpa using htrue))
        apply htrue
        rw [← hsame]
        have hmem := List.mem_set (List.getElem?_eq_some_iff.mp hi).1 new
        apply hnone new hmem (hkey' ▸ hkey)
      · intro hnone
        apply hnone.set hhandlers
        intro hkey
        by_contra htrue
        obtain ⟨hsame, hkey'⟩ := hwrites (Or.inr (by simpa using htrue))
        apply htrue
        rw [hsame]
        apply hnone old (List.mem_of_getElem? hi) (hkey' ▸ hkey)
    · intro _
      apply hnew
  · apply h.replies

/-- A handler goes on, and is not between its two steps before and after that. -/
theorem Coherent.advance_idle (h : s.Coherent) (hi : s.handlers[i]? = some old)
    {daemon : DaemonState} (hengine : daemon.engine = s.daemon.engine)
    (hslots : daemon.slots = s.daemon.slots) (hold : writes old = false)
    (hwrites : writes new = false) (hnew : (s.advance i daemon new).Supports new) :
  (s.advance i daemon new).Coherent
  := by
  apply h.advance hi hengine hslots _ hnew
  rw [hold, hwrites]
  rintro (htrue | htrue)
  · cases htrue
  · cases htrue

/-- A handler goes on, and changes the value and the slot of its own key only. -/
theorem Coherent.advance_at (h : s.Coherent) (hi : s.handlers[i]? = some old)
    {daemon : DaemonState} (hold : old.key? = some key) (hnew : new.key? = some key)
    (hengine : ∀ other, other ≠ key → daemon.engine.lookup other = s.daemon.engine.lookup other)
    (hslots : ∀ other, other ≠ key → daemon.slots.lookup other = s.daemon.slots.lookup other)
    (hkey : (s.advance i daemon new).CoherentAt key) :
  (s.advance i daemon new).Coherent
  := by
  constructor
  · intro other
    by_cases hne : other = key
    · rw [hne]
      apply hkey
    · exact (h.at_key other).frame hi rfl (List.Subset.refl _) (hengine other hne)
        (hslots other hne) hold hnew hne
  · apply h.replies

end Advance

/-! ### Steps on the value and on the slot -/

section Steps

variable {daemon : DaemonState} {value : Bytes} {fingerprint : ComputationFingerprint}
  {deleted : Bool}

/-- A phase that is not between two steps relies on what was submitted only. -/
theorem Supports.of_idle {h : HandlerPhase} (hsupports : s.Supports h)
    (hsubmitted : s.submitted ⊆ s'.submitted) (hwrites : writes h = false)
    (hdeletes : deletes h = false) (hreads : reads h = false) :
  s'.Supports h
  := by
  cases h with
  | setInsert key value fingerprint => apply hsubmitted hsupports
  | setPersist key value => cases hwrites
  | setValue key value => cases hwrites
  | delSlot key deleted => cases hdeletes
  | getSlot key value => cases hreads
  | _ => trivial

/-- A slot is inserted when no other handler of the key is between two steps. -/
theorem Coherent.setInsert (h : s.Coherent)
    (hi : s.handlers[i]? = some (.setInsert key value fingerprint))
    (hbegin : s.MayBegin (.setInsert key value fingerprint)) {slot : CacheSlot}
    (hvalue : slot.value = value) (hfingerprint : slot.fingerprint = fingerprint) :
  (s.advance i (s.daemon.insertSlot key slot) (.setPersist key value)).Coherent
  := by
  obtain ⟨hwrites, hdeletes, hreads⟩ := hbegin
  have hsubmitted : (key, value, fingerprint) ∈ s.submitted :=
    (h.at_key key).supports _ (List.mem_of_getElem? hi) rfl
  refine h.advance_at hi rfl rfl (fun _ _ => rfl) (fun _ hne => AList.lookup_insert_ne hne) ?_
  constructor
  · intro phase hmem hphase
    rcases List.mem_or_eq_of_mem_set hmem with hmem | rfl
    · exact ((h.at_key key).supports phase hmem hphase).of_idle (List.Subset.refl _)
        (hwrites phase hmem hphase) (hdeletes phase hmem hphase) (hreads phase hmem hphase)
    · use slot, AList.lookup_insert _, hvalue
      rw [hfingerprint]
      apply hsubmitted
  · intro value' _ hnone
    -- The `SET` itself is now between its two steps.
    have hidle := hnone _ (List.mem_set (List.getElem?_eq_some_iff.mp hi).1 _) rfl
    cases hidle

/-- The value is set under the slot that was inserted for it. -/
theorem Coherent.setValue (h : s.Coherent) (hi : s.handlers[i]? = some (.setValue key value)) :
  (s.advance i (s.daemon.setValue key value) (.setLog key)).Coherent
  := by
  have hmem := List.mem_of_getElem? hi
  obtain ⟨slot, hslot, hbelongs⟩ := (h.at_key key).supports _ hmem rfl
  refine h.advance_at hi rfl rfl (fun _ hne => AList.lookup_insert_ne hne) (fun _ _ => rfl) ?_
  constructor
  · intro phase hphase hkey
    rcases List.mem_or_eq_of_mem_set hphase with hphase | rfl
    · have hsupports := (h.at_key key).supports phase hphase hkey
      cases phase with
      | delSlot key' deleted =>
        -- No value is deleted while a slot has been inserted for it.
        obtain rfl := Option.some.inj hkey
        have hidle := hsupports.2 _ hmem rfl
        cases hidle
      | _ => apply hsupports
    · trivial
  · intro value' hvalue' _
    have hget : (s.daemon.engine.insert key value).lookup key = some value' := hvalue'
    rw [AList.lookup_insert] at hget
    obtain rfl := Option.some.inj hget
    exact ⟨slot, hslot, hbelongs⟩

/-- A value is deleted when no slot has been inserted for a value that is to be set. -/
theorem Coherent.delValue (h : s.Coherent) (hi : s.handlers[i]? = some (.delValue key))
    (hbegin : s.NoneIn writes key) :
  (s.advance i (s.daemon.deleteValue key).1 (.delSlot key deleted)).Coherent
  := by
  have hnone : (s.advance i (s.daemon.deleteValue key).1 (.delSlot key deleted)).NoneIn writes key :=
    hbegin.set rfl (fun _ => rfl)
  have herased : (s.daemon.engine.erase key).lookup key = none := AList.lookup_erase _ _
  refine h.advance_at hi rfl rfl (fun _ hne => AList.lookup_erase_ne hne) (fun _ _ => rfl) ?_
  constructor
  · intro phase hphase hkey
    rcases List.mem_or_eq_of_mem_set hphase with hphase | rfl
    · have hsupports := (h.at_key key).supports phase hphase hkey
      cases phase with
      | delSlot key' deleted =>
        obtain rfl := Option.some.inj hkey
        exact ⟨herased, hnone⟩
      | _ => apply hsupports
    · exact ⟨herased, hnone⟩
  · intro value hvalue _
    have hget : (s.daemon.engine.erase key).lookup key = some value := hvalue
    rw [herased] at hget
    cases hget

/-- A slot is removed when its value has been deleted. -/
theorem Coherent.delSlot (h : s.Coherent) (hi : s.handlers[i]? = some (.delSlot key deleted)) :
  (s.advance i (s.daemon.removeSlot key) (.delLog key deleted)).Coherent
  := by
  obtain ⟨hvalue, hbegin⟩ := (h.at_key key).supports _ (List.mem_of_getElem? hi) rfl
  have hnone : (s.advance i (s.daemon.removeSlot key) (.delLog key deleted)).NoneIn writes key :=
    hbegin.set rfl (fun _ => rfl)
  have herased : (s.daemon.slots.erase key).lookup key = none := AList.lookup_erase _ _
  refine h.advance_at hi rfl rfl (fun _ _ => rfl) (fun _ hne => AList.lookup_erase_ne hne) ?_
  constructor
  · intro phase hphase hkey
    rcases List.mem_or_eq_of_mem_set hphase with hphase | rfl
    · have hsupports := (h.at_key key).supports phase hphase hkey
      have hidle := hbegin phase hphase hkey
      cases phase with
      | setInsert key' value fingerprint => apply hsupports
      | setPersist key' value => cases hidle
      | setValue key' value => cases hidle
      | delSlot key' deleted =>
        obtain rfl := Option.some.inj hkey
        exact ⟨hvalue, hnone⟩
      | getSlot key' value =>
        obtain rfl := Option.some.inj hkey
        intro slot hslot
        have hget : (s.daemon.slots.erase key').lookup key' = some slot := hslot
        rw [herased] at hget
        cases hget
      | _ => trivial
    · trivial
  · intro value hmem _
    have hget : s.daemon.engine.lookup key = some value := hmem
    rw [hvalue] at hget
    cases hget

/-- The engine gives up the value of a key. -/
theorem Coherent.evict (h : s.Coherent) (key : String) :
  Coherent { s with daemon := { s.daemon with engine := s.daemon.engine.erase key } }
  := by
  have herased : (s.daemon.engine.erase key).lookup key = none := AList.lookup_erase _ _
  have hvalue : ∀ key' value, (s.daemon.engine.erase key).lookup key' = some value →
      s.daemon.engine.lookup key' = some value := by
    intro key' value hget
    by_cases hkey : key' = key
    · rw [hkey, herased] at hget
      cases hget
    · rwa [AList.lookup_erase_ne hkey] at hget
  constructor
  · intro key'
    constructor
    · intro phase hphase hkey
      have hsupports := (h.at_key key').supports phase hphase hkey
      cases phase with
      | delSlot key'' deleted =>
        constructor
        · apply Option.eq_none_iff_forall_ne_some.mpr
          intro value hget
          have hsome := hvalue key'' value hget
          rw [hsupports.1] at hsome
          cases hsome
        · apply hsupports.2
      | _ => apply hsupports
    · intro value hmem hnone
      apply (h.at_key key').value value (hvalue key' value hmem) hnone
  · apply h.replies

/-- A command starts, and a `SET` is recorded. -/
theorem Coherent.start (h : s.Coherent) {submitted : List (String × Bytes × ComputationFingerprint)}
    (hsubmitted : s.submitted ⊆ submitted) (hwrites : writes new = false)
    (hnew : Supports { s.start new with submitted } new) :
  Coherent { s.start new with submitted }
  := by
  have hnone : ∀ key, NoneIn { s.start new with submitted } writes key ↔ s.NoneIn writes key := by
    intro key
    simp [NoneIn, ConcurrentState.start, or_imp, forall_and, hwrites]
  constructor
  · intro key
    constructor
    · intro phase hphase hkey
      rcases List.mem_append.mp hphase with hphase | hphase
      · have hsupports := (h.at_key key).supports phase hphase hkey
        apply Supports.congr hsupports hkey
        · rfl
        · rfl
        · apply hsubmitted
        · apply (hnone key).mpr
      · rw [List.mem_singleton.mp hphase]
        apply hnew
    · intro value hmem hidle
      obtain ⟨slot, hslot, hb⟩ := (h.at_key key).value value hmem ((hnone key).mp hidle)
      exact ⟨slot, hslot, hb.1, hsubmitted hb.2⟩
  · intro r hr slot hslot
    obtain ⟨hfingerprint, hb⟩ := h.replies r hr slot hslot
    exact ⟨hfingerprint, hb.1, hsubmitted hb.2⟩

/-- A reply is recorded. -/
theorem Coherent.reply (h : s.Coherent) {r : VerifiedReply} (hr : s.ReplyCoherent r) :
  Coherent { s with replies := s.replies ++ [r] }
  := by
  constructor
  · intro key
    exact ⟨(h.at_key key).supports, (h.at_key key).value⟩
  · intro r' hr'
    rcases List.mem_append.mp hr' with hr' | hr'
    · apply h.replies r' hr'
    · rw [List.mem_singleton.mp hr']
      apply hr

end Steps

/-! ### Runs -/

variable {ext : Externals} {cfg : DaemonConfig} {amb : Ambient}

/-- A step of a handler that separates no two steps of the others keeps the state coherent. -/
theorem Coherent.stepHandler (h : s.Coherent) {phase : HandlerPhase}
    (hi : s.handlers[i]? = some phase) (hbegin : s.MayBegin phase)
    (hstep : s.stepHandler ext cfg amb i phase = some s') :
  s'.Coherent
  := by
  have hmem := List.mem_of_getElem? hi
  cases phase with
  | setInsert key value fingerprint =>
    obtain rfl := Option.some.inj hstep
    apply h.setInsert hi hbegin rfl rfl
  | setPersist key value =>
    rw [ConcurrentState.stepHandler] at hstep
    split at hstep
    · rename_i daemon hpersist
      obtain rfl := Option.some.inj hstep
      obtain ⟨slot, hslot, hb⟩ := (h.at_key key).supports _ hmem rfl
      rcases DaemonState.persistSlot_cases hslot hpersist with ⟨-, rfl⟩ | ⟨bundle, -, rfl⟩
      · exact h.advance hi rfl rfl (fun _ => ⟨rfl, rfl⟩) ⟨slot, hslot, hb⟩
      · exact h.advance hi rfl rfl (fun _ => ⟨rfl, rfl⟩) ⟨slot, hslot, hb⟩
    · cases hstep
  | setValue key value =>
    obtain rfl := Option.some.inj hstep
    apply h.setValue hi
  | setLog key =>
    obtain rfl := Option.some.inj hstep
    obtain ⟨auditLog, hlog⟩ := s.daemon.logCreated_eq ext cfg amb key
    rw [hlog]
    exact h.advance_idle hi rfl rfl rfl rfl trivial
  | delValue key =>
    obtain rfl := Option.some.inj hstep
    apply h.delValue hi hbegin
  | delSlot key deleted =>
    obtain rfl := Option.some.inj hstep
    apply h.delSlot hi
  | delLog key deleted =>
    obtain rfl := Option.some.inj hstep
    obtain ⟨auditLog, hlog⟩ := s.daemon.logDeleted_eq ext amb key deleted
    rw [hlog]
    exact h.advance_idle hi rfl rfl rfl rfl trivial
  | getValue key =>
    rw [ConcurrentState.stepHandler] at hstep
    split at hstep
    · rename_i value hvalue
      obtain rfl := Option.some.inj hstep
      refine h.advance_idle hi rfl rfl rfl rfl ?_
      obtain ⟨slot, hslot, hb⟩ := (h.at_key key).value value hvalue (hbegin (by simp [hvalue]))
      intro slot' hslot'
      obtain rfl := Option.mem_unique hslot hslot'
      apply hb
    · obtain rfl := Option.some.inj hstep
      exact h.advance_idle hi rfl rfl rfl rfl trivial
  | getSlot key value =>
    rw [ConcurrentState.stepHandler] at hstep
    split at hstep
    · rename_i response hrespond
      obtain rfl := Option.some.inj hstep
      obtain ⟨hvalue, hfound⟩ := DaemonState.respond_eq_ok hrespond
      apply Coherent.reply
      · exact h.advance_idle hi rfl rfl rfl rfl trivial
      · intro slot hslot
        use (hfound slot hslot).1
        rw [hvalue]
        apply (h.at_key key).supports _ hmem rfl slot hslot
    · cases hstep
  | getLog key response =>
    obtain rfl := Option.some.inj hstep
    obtain ⟨auditLog, hlog⟩ := s.daemon.logVerification_eq ext amb key response
    rw [hlog]
    exact h.advance_idle hi rfl rfl rfl rfl trivial
  | done => cases hstep

/-- An event that separates no two steps of the handlers keeps the state coherent. -/
theorem Coherent.step (h : s.Coherent) {e : ConcurrentEvent} (hundisturbed : s.Undisturbed e)
    (hstep : s.step ext cfg e = some s') :
  s'.Coherent
  := by
  cases e with
  | startSet key value fingerprint =>
    obtain rfl := Option.some.inj hstep
    apply h.start (List.subset_append_left _ _) rfl
    simp [Supports]
  | startDel key =>
    obtain rfl := Option.some.inj hstep
    exact h.start (List.Subset.refl _) rfl trivial
  | startGetVerified key =>
    obtain rfl := Option.some.inj hstep
    exact h.start (List.Subset.refl _) rfl trivial
  | step i amb =>
    obtain ⟨phase, hi, hphase⟩ := exists_phase_of_step hstep
    apply h.stepHandler hi (hundisturbed phase hi) hphase
  | evict key =>
    obtain rfl := Option.some.inj hstep
    apply h.evict

/-- The state in which a daemon starts is coherent, as its engine is empty. -/
theorem coherent_initial {daemon : DaemonState} (hengine : daemon.engine = ∅) :
  (initial daemon).Coherent
  := by
  constructor
  · intro key
    constructor
    · intro phase hphase
      cases hphase
    · intro value hvalue
      simp [initial, hengine] at hvalue
  · intro r hr
    cases hr

/-- In every run from an empty engine in which no step separates two steps of other handlers,
every reply that has the fingerprint of a slot has the value that was submitted with it in one
`SET` of the key; and when all handlers are done, every value in the engine has a slot with that
value. -/
theorem coherent_of_run {daemon : DaemonState} {events : List ConcurrentEvent}
    (hengine : daemon.engine = ∅)
    (hcond : MeetsAlong (step ext cfg) Undisturbed (initial daemon) events)
    (hrun : run (step ext cfg) (initial daemon) events = some s) :
  (∀ r ∈ s.replies, ∀ slot, r.slot = some slot →
    r.response.fingerprint = slot.fingerprint ∧ slot.value = r.response.value ∧
      (r.key, r.response.value, slot.fingerprint) ∈ s.submitted) ∧
  ((∀ h ∈ s.handlers, h = .done) → ∀ key value, s.daemon.engine.lookup key = some value →
    ∃ slot, s.daemon.slots.lookup key = some slot ∧ slot.value = value)
  := by
  have hcoherent : s.Coherent := by
    apply run_invariant _ (coherent_initial hengine) hcond hrun
    intro s₁ e s₂ hs₁ he hstep
    apply hs₁.step he hstep
  constructor
  · intro r hr slot hslot
    apply hcoherent.replies r hr slot hslot
  · intro hdone key value hvalue
    have hnone : s.NoneIn writes key := by
      intro phase hphase hkey
      rw [hdone phase hphase] at hkey
      cases hkey
    obtain ⟨slot, hslot, hb⟩ := (hcoherent.at_key key).value value hvalue hnone
    exact ⟨slot, hslot, hb.1⟩

/-- A fingerprint of three hashes that are all ones. -/
def onesFingerprint : ComputationFingerprint :=
  parseFingerprint (String.join (List.replicate 96 "01"))

/-- Two `SET`s of the key `k`: the first inserts its slot before the second and sets its value
after it, and then the key is read. -/
def mixedRun : List ConcurrentEvent :=
  [.startSet "k" [1] .empty, .startSet "k" [2] onesFingerprint, .step 0 plainAmbient,
    .step 1 plainAmbient, .step 1 plainAmbient, .step 1 plainAmbient, .step 0 plainAmbient,
    .step 0 plainAmbient, .startGetVerified "k", .step 2 plainAmbient, .step 2 plainAmbient,
    .step 0 plainAmbient, .step 1 plainAmbient, .step 2 plainAmbient]

/-- The reply has the value of the first `SET` with the fingerprint of the second, and when all
handlers are done the key has this value with the slot of the other. -/
theorem mixed_mixedRun :
  (run (step plainExternals plainConfig) (initial (.empty "node")) mixedRun).map (fun s =>
      (s.replies.map fun r => (r.response.value, r.response.fingerprint),
        s.handlers, s.daemon.engine.lookup "k",
        (s.daemon.slots.lookup "k").map CacheSlot.value))
    = some ([([1], onesFingerprint)], [.done, .done, .done], some [1], some [2])
  := by
  decide +kernel

/-- The same commands one after another. -/
def orderedRun : List ConcurrentEvent :=
  [.startSet "k" [1] .empty, .step 0 plainAmbient, .step 0 plainAmbient, .step 0 plainAmbient,
    .step 0 plainAmbient, .startSet "k" [2] onesFingerprint, .step 1 plainAmbient,
    .step 1 plainAmbient, .step 1 plainAmbient, .step 1 plainAmbient, .startGetVerified "k",
    .step 2 plainAmbient, .step 2 plainAmbient, .step 2 plainAmbient]

/-- After these, the reply and the key have a value and a slot of one `SET`. -/
theorem coherent_orderedRun :
  ∃ s, run (step plainExternals plainConfig) (initial (.empty "node")) orderedRun = some s ∧
    s.replies.length = 1 ∧
    (∀ r ∈ s.replies, ∀ slot, r.slot = some slot → slot.value = r.response.value) ∧
    ∃ slot, s.daemon.slots.lookup "k" = some slot ∧ slot.value = [2]
  := by
  have hcond : MeetsAlong (step plainExternals plainConfig) Undisturbed (initial (.empty "node"))
      orderedRun := by
    decide +kernel
  have hmap : (run (step plainExternals plainConfig) (initial (.empty "node")) orderedRun).map
      (fun s => (s.replies.length, s.handlers, s.daemon.engine.lookup "k"))
      = some (1, [.done, .done, .done], some [2]) := by
    decide +kernel
  obtain ⟨s, hrun, heq⟩ := Option.map_eq_some_iff.mp hmap
  obtain ⟨hlength, hrest⟩ := Prod.mk.inj heq
  obtain ⟨hhandlers, hvalue⟩ := Prod.mk.inj hrest
  obtain ⟨hreplies, hslots⟩ := coherent_of_run rfl hcond hrun
  refine ⟨s, hrun, hlength, fun r hr slot hslot => (hreplies r hr slot hslot).2.1, ?_⟩
  apply hslots _ "k" [2] hvalue
  rw [hhandlers]
  simp

end ConcurrentState

end Cachee
