import Cachee.Daemon.Effects
import Cachee.Library.Lookup

/-!
# Retired artifacts

A content address is retired when a slot with it has been superseded or revoked.  A slot keeps its
address when its state changes, and never leaves these two states, but a `SET` replaces it by an
active one, and other keys may have active slots with the same address.  So a retired address stays
without active slots in the runs in which no `SET` has a retired address, and no `INVALIDATE` or
`SUPERSEDE` retires an address that another key still has.
-/

open Text

namespace Cachee

/-- A state that is never left. -/
def EntryState.isTerminal : EntryState → Bool
  | superseded _ => true
  | revoked _ _ _ => true
  | _ => false

/-- The addresses of the slots in a terminal state. -/
def terminalAddresses (slots : AList fun _ : String => CacheSlot) : List (Block 32) :=
  (slots.entries.filter fun entry => entry.2.state.isTerminal).map fun entry =>
    entry.2.contentAddress

/-- Some slot with the address is active. -/
def HasActive (slots : AList fun _ : String => CacheSlot) (address : Block 32) : Prop :=
  ∃ key slot, slots.lookup key = some slot ∧ slot.state = .active ∧ slot.contentAddress = address

/-- The address of the slot that the event inserts, if it is a `SET`. -/
def DaemonEvent.setAddress? (ext : Externals) (cfg : DaemonConfig) (e : DaemonEvent) :
    Option (Block 32) :=
  (e.set? cfg).map fun (_, value, fingerprint) =>
    CacheSlot.computeContentAddress ext.sha3 (asBytes value) fingerprint

/-- The key whose slot the event revokes or supersedes, if it is active. -/
def DaemonEvent.retiredKey? (slots : AList fun _ : String => CacheSlot) (e : DaemonEvent) :
    Option String :=
  e.invalidate?.or
    (e.supersede?.bind fun (oldKey, newKey) => (slots.lookup newKey).map fun _ => oldKey)

/-- Another key than `key` has an active slot with the address. -/
def SharesActive (slots : AList fun _ : String => CacheSlot) (key : String) (address : Block 32) :
    Prop :=
  ∃ entry ∈ slots.entries,
    entry.1 ≠ key ∧ entry.2.state = .active ∧ entry.2.contentAddress = address

instance decidableSharesActive {slots : AList fun _ : String => CacheSlot} {key : String}
    {address : Block 32} :
    Decidable (SharesActive slots key address) :=
  List.decidableBEx _ slots.entries

section Slots

variable {slots : AList fun _ : String => CacheSlot} {key : String} {slot : CacheSlot}
  {address : Block 32}

/-- The addresses of the slots in a terminal state. -/
theorem mem_terminalAddresses :
  address ∈ terminalAddresses slots ↔
    ∃ key slot, slots.lookup key = some slot ∧ slot.state.isTerminal ∧
      slot.contentAddress = address
  := by
  simp only [terminalAddresses, List.mem_map, List.mem_filter]
  constructor
  · rintro ⟨⟨key, slot⟩, ⟨hentry, hterminal⟩, haddress⟩
    exact ⟨key, slot, mem_entries_iff_lookup.mp hentry, hterminal, haddress⟩
  · rintro ⟨key, slot, hlookup, hterminal, haddress⟩
    exact ⟨⟨key, slot⟩, ⟨mem_entries_iff_lookup.mpr hlookup, hterminal⟩, haddress⟩

/-- An active slot with the address is that of `key`, unless another key shares the address. -/
theorem eq_of_not_sharesActive {key' : String} {slot' : CacheSlot}
    (h : ¬ SharesActive slots key address) (hlookup : slots.lookup key' = some slot')
    (hactive : slot'.state = .active) (haddress : slot'.contentAddress = address) :
  key' = key
  := by
  by_contra hne
  exact h ⟨⟨key', slot'⟩, mem_entries_iff_lookup.mpr hlookup, hne, hactive, haddress⟩

/-- The addresses of the slots in a terminal state after an insertion. -/
theorem terminalAddresses_insert
    (h : address ∈ terminalAddresses (slots.insert key slot)) :
  address = slot.contentAddress ∧ slot.state.isTerminal ∨ address ∈ terminalAddresses slots
  := by
  obtain ⟨key', slot', hlookup, hterminal, rfl⟩ := mem_terminalAddresses.mp h
  rcases lookup_insert_eq_some.mp hlookup with ⟨rfl, rfl⟩ | ⟨-, hlookup⟩
  · left
    exact ⟨rfl, hterminal⟩
  · right
    exact mem_terminalAddresses.mpr ⟨key', slot', hlookup, hterminal, rfl⟩

/-- The addresses with active slots after an insertion. -/
theorem HasActive.of_insert (h : HasActive (slots.insert key slot) address) :
  slot.state = .active ∧ slot.contentAddress = address ∨ HasActive slots address
  := by
  obtain ⟨key', slot', hlookup, hactive, haddress⟩ := h
  rcases lookup_insert_eq_some.mp hlookup with ⟨rfl, rfl⟩ | ⟨-, hlookup⟩
  · left
    exact ⟨hactive, haddress⟩
  · right
    exact ⟨key', slot', hlookup, hactive, haddress⟩

/-- The addresses of the slots in a terminal state after a removal. -/
theorem terminalAddresses_erase (h : address ∈ terminalAddresses (slots.erase key)) :
  address ∈ terminalAddresses slots
  := by
  obtain ⟨key', slot', hlookup, hslot'⟩ := mem_terminalAddresses.mp h
  exact mem_terminalAddresses.mpr ⟨key', slot', (lookup_erase_eq_some.mp hlookup).2, hslot'⟩

/-- The addresses with active slots after a removal. -/
theorem HasActive.of_erase (h : HasActive (slots.erase key) address) :
  HasActive slots address
  := by
  obtain ⟨key', slot', hlookup, hslot'⟩ := h
  exact ⟨key', slot', (lookup_erase_eq_some.mp hlookup).2, hslot'⟩

/-- After the state of the only active slot with the address has changed to another one, no slot
with the address is active. -/
theorem not_hasActive_insert {state : EntryState} (h : ¬ SharesActive slots key slot.contentAddress)
    (hstate : state ≠ .active) :
  ¬ HasActive (slots.insert key { slot with state }) slot.contentAddress
  := by
  rintro ⟨key', slot', hlookup, hactive, haddress⟩
  rcases lookup_insert_eq_some.mp hlookup with ⟨-, rfl⟩ | ⟨hkey, hlookup⟩
  · exact hstate hactive
  · exact hkey (eq_of_not_sharesActive h hlookup hactive haddress)

end Slots

/-- The daemon, and the addresses that have been retired so far. -/
structure RetirementState where
  daemon : DaemonState
  retired : List (Block 32)

namespace RetirementState

/-- A daemon as it is started. -/
def initial (daemon : DaemonState) : RetirementState where
  daemon := daemon
  retired := terminalAddresses daemon.slots

/-- An event retires the addresses of the slots that are in a terminal state after it. -/
def step (ext : Externals) (cfg : DaemonConfig) (s : RetirementState) (e : DaemonEvent) :
    Option RetirementState :=
  (daemonStep ext cfg s.daemon e).map fun daemon =>
    { daemon, retired := s.retired ++ terminalAddresses daemon.slots }

/-- The event brings no retired address back, and retires no address that another key has. -/
structure Permits (ext : Externals) (cfg : DaemonConfig) (s : RetirementState) (e : DaemonEvent) :
    Prop where
  set : ∀ address ∈ e.setAddress? ext cfg, address ∉ s.retired
  retire : ∀ key ∈ e.retiredKey? s.daemon.slots, ∀ slot ∈ s.daemon.slots.lookup key,
    slot.state = .active → ¬ SharesActive s.daemon.slots key slot.contentAddress

instance decidablePermits {ext : Externals} {cfg : DaemonConfig} {s : RetirementState}
    {e : DaemonEvent} :
    Decidable (s.Permits ext cfg e) :=
  decidable_of_iff
    ((∀ address ∈ e.setAddress? ext cfg, address ∉ s.retired) ∧
      ∀ key ∈ e.retiredKey? s.daemon.slots, ∀ slot ∈ s.daemon.slots.lookup key,
        slot.state = .active → ¬ SharesActive s.daemon.slots key slot.contentAddress)
    ⟨fun h => ⟨h.1, h.2⟩, fun h => ⟨h.set, h.retire⟩⟩

/-- The addresses of slots in a terminal state are retired, and those that are retired have no
active slot. -/
structure Kept (s : RetirementState) : Prop where
  terminal : ∀ address ∈ terminalAddresses s.daemon.slots, address ∈ s.retired
  retired : ∀ address ∈ s.retired, ¬ HasActive s.daemon.slots address

variable {ext : Externals} {cfg : DaemonConfig} {amb : Ambient} {s s' : RetirementState}
  {e : DaemonEvent}

/-- The invariant holds after an event that leaves retired addresses, old and new, without active
slots. -/
theorem kept_of_step {daemon : DaemonState}
    (h : ∀ address, address ∈ s.retired ∨ address ∈ terminalAddresses daemon.slots →
      ¬ HasActive daemon.slots address) :
  Kept { daemon, retired := s.retired ++ terminalAddresses daemon.slots }
  where
  terminal _ haddress := List.mem_append_right _ haddress
  retired address haddress := h address (List.mem_append.mp haddress)

/-- The state of a slot changes to a terminal one, and no other key has an active slot with its
address: then retired addresses, old and new, have no active slot. -/
theorem Kept.not_hasActive_retire {key : String} {slot : CacheSlot} {state : EntryState}
    {address : Block 32} (h : s.Kept) (hstate : state ≠ .active)
    (hshares : ¬ SharesActive s.daemon.slots key slot.contentAddress)
    (haddress : address ∈ s.retired ∨
      address ∈ terminalAddresses (s.daemon.slots.insert key { slot with state })) :
  ¬ HasActive (s.daemon.slots.insert key { slot with state }) address
  := by
  have hold : address ∈ s.retired →
      ¬ HasActive (s.daemon.slots.insert key { slot with state }) address := by
    intro hretired hactive
    rcases hactive.of_insert with ⟨hstate', -⟩ | hactive
    · exact hstate hstate'
    · exact h.retired address hretired hactive
  rcases haddress with hretired | hterminal
  · apply hold hretired
  · rcases terminalAddresses_insert hterminal with ⟨rfl, -⟩ | hterminal
    · apply not_hasActive_insert hshares hstate
    · apply hold (h.terminal address hterminal)

/-- A permitted event keeps retired addresses without active slots. -/
theorem Kept.step (h : s.Kept) (hpermits : s.Permits ext cfg e)
    (hstep : s.step ext cfg e = some s') :
  s'.Kept
  := by
  obtain ⟨daemon, hdaemon, rfl⟩ := Option.map_eq_some_iff.mp hstep
  apply kept_of_step
  have hslots := daemonStep_slots hdaemon
  intro address
  generalize daemon.slots = slots at hslots ⊢
  intro haddress
  cases hslots with
  | same =>
    rcases haddress with hretired | hterminal
    · apply h.retired address hretired
    · apply h.retired address (h.terminal address hterminal)
  | @set key value fingerprint amb hset =>
    have hfresh := hpermits.set _ (Option.mem_map_of_mem _ hset)
    have hretired : address ∈ s.retired := by
      rcases haddress with hretired | hterminal
      · apply hretired
      · rcases terminalAddresses_insert hterminal with ⟨-, hstate⟩ | hterminal
        · cases hstate
        · apply h.terminal address hterminal
    intro hactive
    rcases hactive.of_insert with ⟨-, rfl⟩ | hactive
    · exact hfresh hretired
    · exact h.retired address hretired hactive
  | @delete key hdel =>
    intro hactive
    rcases haddress with hretired | hterminal
    · exact h.retired address hretired hactive.of_erase
    · exact h.retired address (h.terminal address (terminalAddresses_erase hterminal))
        hactive.of_erase
  | @revoke key slot reason now hinvalidate hslot hactive =>
    apply h.not_hasActive_retire (by simp) _ haddress
    apply hpermits.retire key _ slot hslot hactive
    rw [DaemonEvent.retiredKey?, hinvalidate]
    rfl
  | @supersede oldKey newKey slot successor hsupersede hslot hactive hsuccessor =>
    apply h.not_hasActive_retire (by simp) _ haddress
    apply hpermits.retire oldKey _ slot hslot hactive
    rw [DaemonEvent.retiredKey?, e.invalidate?_of_supersede? hsupersede, hsupersede]
    simp [hsuccessor]

/-- A run of permitted events keeps retired addresses without active slots. -/
theorem Kept.run {events : List DaemonEvent} (h : s.Kept)
    (hpermits : MeetsAlong (RetirementState.step ext cfg) (Permits ext cfg) s events)
    (hrun : run (RetirementState.step ext cfg) s events = some s') :
  s'.Kept
  := by
  apply run_invariant _ h hpermits hrun
  intro s₁ e s₂ h₁ hpermit hstep
  apply h₁.step hpermit hstep

/-- When a daemon is started, all of its slots are active, and nothing is retired. -/
theorem kept_initial {daemon : DaemonState}
    (h : ∀ key slot, daemon.slots.lookup key = some slot → slot.state = .active) :
  (initial daemon).Kept
  where
  terminal _ haddress := haddress
  retired address haddress := by
    obtain ⟨key, slot, hlookup, hterminal, -⟩ := mem_terminalAddresses.mp haddress
    rw [h key slot hlookup] at hterminal
    cases hterminal

/-- A run of the daemon retires addresses along the way. -/
theorem exists_run (s : RetirementState) {events : List DaemonEvent} {daemon : DaemonState}
    (h : run (daemonStep ext cfg) s.daemon events = some daemon) :
  ∃ s', run (RetirementState.step ext cfg) s events = some s' ∧ s'.daemon = daemon
  := by
  induction events generalizing s with
  | nil => exact ⟨s, rfl, Option.some.inj h⟩
  | cons e events ih =>
    obtain ⟨daemon₁, hdaemon₁, h⟩ := run_cons_eq_some.mp h
    have hstep : s.step ext cfg e
        = some { daemon := daemon₁, retired := s.retired ++ terminalAddresses daemon₁.slots } := by
      rw [RetirementState.step, hdaemon₁]
      rfl
    obtain ⟨s', hrun, hs'⟩ := ih ⟨daemon₁, s.retired ++ terminalAddresses daemon₁.slots⟩ h
    exact ⟨s', run_cons_eq_some.mpr ⟨_, hstep, hrun⟩, hs'⟩

/-- An address stays retired. -/
theorem mem_retired_of_run {events : List DaemonEvent} {address : Block 32}
    (h : address ∈ s.retired) (hrun : run (RetirementState.step ext cfg) s events = some s') :
  address ∈ s'.retired
  := by
  refine @run_invariant_of_step _ _ _ (fun s => address ∈ s.retired) ?_ _ _ _ h hrun
  intro s₁ e s₂ h₁ hstep
  obtain ⟨daemon, -, rfl⟩ := Option.map_eq_some_iff.mp hstep
  apply List.mem_append_left _ h₁

end RetirementState

/-- If a daemon is started with active slots, and in a run no `SET` has the address of a slot that
was superseded or revoked before, and no `INVALIDATE` or `SUPERSEDE` changes an active slot whose
address another key's active slot has, then after a slot has been superseded or revoked, no slot
with its address is ever active. -/
theorem inactive_of_retired {ext : Externals} {cfg : DaemonConfig} {daemon s s' : DaemonState}
    {events events' : List DaemonEvent} {key : String} {slot : CacheSlot}
    (hstart : ∀ key slot, daemon.slots.lookup key = some slot → slot.state = .active)
    (hpermits : MeetsAlong (RetirementState.step ext cfg) (RetirementState.Permits ext cfg)
      (.initial daemon) (events ++ events'))
    (hrun : run (daemonStep ext cfg) daemon events = some s)
    (hslot : s.slots.lookup key = some slot) (hterminal : slot.state.isTerminal)
    (hrun' : run (daemonStep ext cfg) s events' = some s') :
  ¬ HasActive s'.slots slot.contentAddress
  := by
  obtain ⟨t, ht, rfl⟩ := RetirementState.exists_run (.initial daemon) hrun
  obtain ⟨t', ht', rfl⟩ := RetirementState.exists_run t hrun'
  have hinitial := RetirementState.kept_initial hstart
  have hretired : slot.contentAddress ∈ t.retired := by
    apply (hinitial.run hpermits.of_append ht).terminal
    exact mem_terminalAddresses.mpr ⟨key, slot, hslot, hterminal, rfl⟩
  have hboth : run (RetirementState.step ext cfg) (.initial daemon) (events ++ events')
      = some t' := by
    rw [run_append, ht]
    apply ht'
  apply (hinitial.run hpermits hboth).retired
  apply RetirementState.mem_retired_of_run hretired ht'

/-- Set `k` to `w`. -/
def setW : DaemonEvent := .command plainAmbient (asBytes "SET k w")

/-- After the value `v` of `k` has been revoked and replaced by `w`, no slot with the address of `v`
is active. -/
theorem inactive_recalled :
  ∃ s slot s', run (daemonStep plainExternals plainConfig) (.empty "node") [setV, invalidateK]
      = some s ∧ s.slots.lookup "k" = some slot ∧ slot.state.isTerminal ∧
    run (daemonStep plainExternals plainConfig) s [setW] = some s' ∧
    ¬ HasActive s'.slots slot.contentAddress
  := by
  have hstates : (run (daemonStep plainExternals plainConfig) (.empty "node")
      [setV, invalidateK]).map (fun s => ((s.slots.lookup "k").map fun slot =>
        slot.state.isTerminal,
        (run (daemonStep plainExternals plainConfig) s [setW]).isSome))
      = some (some true, true) := by
    decide +kernel
  have hpermits : MeetsAlong (RetirementState.step plainExternals plainConfig)
      (RetirementState.Permits plainExternals plainConfig) (.initial (.empty "node"))
      ([setV, invalidateK] ++ [setW]) := by
    decide +kernel
  obtain ⟨s, hrun, hs⟩ := Option.map_eq_some_iff.mp hstates
  obtain ⟨hslot, hrun'⟩ := Prod.mk.inj hs
  obtain ⟨slot, hslot, hterminal⟩ := Option.map_eq_some_iff.mp hslot
  obtain ⟨s', hrun'⟩ := Option.isSome_iff_exists.mp hrun'
  refine ⟨s, slot, s', hrun, hslot, hterminal, hrun', ?_⟩
  apply inactive_of_retired _ hpermits hrun hslot hterminal hrun'
  intro key slot hlookup
  cases hlookup

/-- When `v` is set again after it has been revoked, its address is active again. -/
theorem active_again :
  ∃ s slot s', run (daemonStep plainExternals plainConfig) (.empty "node") [setV, invalidateK]
      = some s ∧ s.slots.lookup "k" = some slot ∧ slot.state.isTerminal ∧
    run (daemonStep plainExternals plainConfig) s [setV] = some s' ∧
    HasActive s'.slots slot.contentAddress
  := by
  have hstates : (run (daemonStep plainExternals plainConfig) (.empty "node")
      [setV, invalidateK]).map (fun s => (s.slots.lookup "k").map fun slot =>
        (slot.state.isTerminal, (run (daemonStep plainExternals plainConfig) s [setV]).map
          fun s' => (s'.slots.lookup "k").map fun slot' =>
            decide (slot'.state = .active ∧ slot'.contentAddress = slot.contentAddress)))
      = some (some (true, some (some true))) := by
    decide +kernel
  obtain ⟨s, hrun, hs⟩ := Option.map_eq_some_iff.mp hstates
  obtain ⟨slot, hslot, hs⟩ := Option.map_eq_some_iff.mp hs
  obtain ⟨hterminal, hs⟩ := Prod.mk.inj hs
  obtain ⟨s', hrun', hs'⟩ := Option.map_eq_some_iff.mp hs
  obtain ⟨slot', hslot', hs'⟩ := Option.map_eq_some_iff.mp hs'
  exact ⟨s, slot, s', hrun, hslot, hterminal, hrun', "k", slot', hslot', of_decide_eq_true hs'⟩

end Cachee
