import Cachee.Daemon.VerifiedRead

/-!
# Cold start

When the daemon is started, it makes a slot for every bundle in the content store.  A bundle has the
fingerprint of its slot, but neither its value nor its state: the new slot is active, with an empty
value and the address of this value.  So a slot comes back with its address and its state exactly
when its value was empty and it was active.
-/

open Text

namespace Cachee

/-! ### The rebuilt slots -/

/-- The key of the slot that is made for a bundle: the first half of the address of the bundle, in
hexadecimal. -/
def coldStartKey (address : Block 32) : String := hexEncode (address.1.take 16)

/-- The slot that is made for a bundle with the fingerprint, with a time to live in seconds. -/
def coldStartSlot (ext : Externals) (amb : Ambient) (defaultTtl : ℕ)
    (fingerprint : ComputationFingerprint) : CacheSlot :=
  CacheSlot.new ext.sha3 amb.now amb.instant [] fingerprint (defaultTtl * 10 ^ 9) .trustCached
    "cold-start"

/-- Make a slot for the bundle under an address, if it can be read. -/
def rebuildSlot (ext : Externals) (amb : Ambient) (defaultTtl : ℕ) (store : ContentStore)
    (slots : AList fun _ : String => CacheSlot) (address : Block 32) :
    Outcome (AList fun _ : String => CacheSlot) := do
  match ← unwrapOr (store.get ext.identityJson amb.getFault address) none with
  | some bundle =>
    return slots.insert (coldStartKey address)
      (coldStartSlot ext amb defaultTtl bundle.computationFingerprint)
  | none => return slots

/-- Rebuild the slots from the content store, where `amb` is what each address meets with. -/
def coldStart (ext : Externals) (amb : Block 32 → Ambient) (defaultTtl : ℕ)
    (store : ContentStore) : Outcome (AList fun _ : String => CacheSlot) :=
  store.addresses.foldlM
    (fun slots address => rebuildSlot ext (amb address) defaultTtl store slots address) ∅

/-- Some slot has the address, the fingerprint and the state of the given one. -/
def Restored (slots : AList fun _ : String => CacheSlot) (slot : CacheSlot) : Prop :=
  ∃ key slot', slots.lookup key = some slot' ∧ slot'.contentAddress = slot.contentAddress ∧
    slot'.fingerprint = slot.fingerprint ∧ slot'.state = slot.state

/-- The slot is active, with the address of an empty value. -/
structure IsRebuilt (sha3 : Bytes → Block 32) (slot : CacheSlot) : Prop where
  active : slot.state = .active
  contentAddress : slot.contentAddress
    = CacheSlot.computeContentAddress sha3 [] slot.fingerprint

variable {ext : Externals} {cfg : DaemonConfig} {amb : Block 32 → Ambient} {defaultTtl : ℕ}
  {store : ContentStore} {slots : AList fun _ : String => CacheSlot}

/-- The slots can be rebuilt from any store. -/
theorem returns_coldStart (ext : Externals) (amb : Block 32 → Ambient) (defaultTtl : ℕ)
    (store : ContentStore) :
  Returns (coldStart ext amb defaultTtl store)
  := by
  apply returns_foldlM
  intro slots address
  apply Returns.bind
  · apply (store.safe_get ext.identityJson (amb address).getFault address).unwrapOr_eq_ok
  · rintro (_ | bundle) _
    · apply returns_pure
    · apply returns_pure

/-- What a step of the cold start does to the slots. -/
theorem rebuildSlot_cases {address : Block 32} {slots' : AList fun _ : String => CacheSlot}
    (h : rebuildSlot ext (amb address) defaultTtl store slots address = .ok slots') :
  slots' = slots ∨ ∃ fingerprint, slots' = slots.insert (coldStartKey address)
    (coldStartSlot ext (amb address) defaultTtl fingerprint)
  := by
  obtain ⟨bundle, -, h⟩ := bind_eq_ok_iff.mp h
  cases bundle with
  | none =>
    left
    apply (Except.ok.inj h).symm
  | some bundle =>
    right
    use bundle.computationFingerprint
    apply (Except.ok.inj h).symm

/-- All slots are rebuilt ones after a cold start. -/
theorem isRebuilt_of_coldStart (h : coldStart ext amb defaultTtl store = .ok slots) :
  ∀ key slot, slots.lookup key = some slot → IsRebuilt ext.sha3 slot
  := by
  refine foldlM_invariant (p := fun slots : AList fun _ : String => CacheSlot =>
    ∀ key slot, slots.lookup key = some slot → IsRebuilt ext.sha3 slot) ?_ ?_ h
  · intro address _ slots₁ slots₂ hslots₁ hstep
    rcases rebuildSlot_cases hstep with rfl | ⟨fingerprint, rfl⟩
    · apply hslots₁
    · apply forall_lookup_insert hslots₁
      exact ⟨rfl, rfl⟩
  · intro key slot hslot
    cases hslot

/-- After a cold start there is a slot for every bundle that is read, if no other address has the
same first half. -/
theorem lookup_of_coldStart {address : Block 32} {bundle : CacheeArchiveBundle}
    (hmem : address ∈ store.addresses)
    (hget : store.get ext.identityJson (amb address).getFault address = .ok (some bundle))
    (hkeys : ∀ a ∈ store.addresses, a.1.take 16 = address.1.take 16 → a = address)
    (h : coldStart ext amb defaultTtl store = .ok slots) :
  slots.lookup (coldStartKey address)
    = some (coldStartSlot ext (amb address) defaultTtl bundle.computationFingerprint)
  := by
  have hmake : ∀ slots₁ slots₂ : AList fun _ : String => CacheSlot,
      rebuildSlot ext (amb address) defaultTtl store slots₁ address = .ok slots₂ →
        slots₂.lookup (coldStartKey address)
          = some (coldStartSlot ext (amb address) defaultTtl bundle.computationFingerprint) := by
    intro slots₁ slots₂ hstep
    rw [rebuildSlot, hget, unwrapOr_ok, ok_bind] at hstep
    obtain rfl := Except.ok.inj hstep
    apply AList.lookup_insert
  refine foldlM_of_mem
    (f := fun slots address => rebuildSlot ext (amb address) defaultTtl store slots address)
    (p := fun slots => slots.lookup (coldStartKey address)
      = some (coldStartSlot ext (amb address) defaultTtl bundle.computationFingerprint))
    hmem hmake ?_ h
  intro a ha slots₁ slots₂ hslots₁ hstep
  by_cases heq : a = address
  · subst heq
    apply hmake _ _ hstep
  · rcases rebuildSlot_cases hstep with rfl | ⟨fingerprint, rfl⟩
    · apply hslots₁
    · rw [AList.lookup_insert_ne, hslots₁]
      intro hkey
      apply heq (hkeys a ha (hexEncode_injective hkey.symm))

/-! ### What comes back -/

/-- A stored bundle whose sections fit is read with its fingerprint. -/
theorem ContentStore.exists_get {json : JsonCodec SignerIdentity} {address : Block 32}
    {bundle : CacheeArchiveBundle} (hmagic : bundle.magic = cabMagic) (hfits : bundle.SectionsFit)
    (hheld : store.db[address.1]? = some (bundle.serialize json)) :
  ∃ bundle', store.get json none address = .ok (some bundle') ∧
    bundle'.computationFingerprint = bundle.computationFingerprint
  := by
  obtain ⟨identity, hread⟩ :=
    CacheeArchiveBundle.exists_deserialize_serialize_eq json hmagic hfits
  exact ⟨_, get_eq hheld hread, rfl⟩

/-- The empty value is the only one with its address, without collisions. -/
theorem value_eq_nil {sha3 : Bytes → Block 32} {slot : CacheSlot} (hslot : slot.WellAddressed sha3)
    (haddress : NoCollision sha3 (CacheSlot.addressInput sha3 [] slot.fingerprint)
      (CacheSlot.addressInput sha3 slot.value slot.fingerprint))
    (hvalue : NoCollision sha3 [] slot.value)
    (h : CacheSlot.computeContentAddress sha3 [] slot.fingerprint = slot.contentAddress) :
  slot.value = []
  := by
  rw [hslot] at h
  have hinput := haddress h
  apply (hvalue _).symm
  apply Subtype.ext
  apply List.append_cancel_right hinput

/-- In every run all slots keep the address of their value and fingerprint. -/
theorem wellAddressed_of_run {s s' : DaemonState} {events : List DaemonEvent}
    (hstart : ∀ key slot, s.slots.lookup key = some slot → slot.WellAddressed ext.sha3)
    (hrun : run (daemonStep ext cfg) s events = some s') :
  ∀ key slot, s'.slots.lookup key = some slot → slot.WellAddressed ext.sha3
  := by
  refine @run_invariant_of_step _ _ _ (fun s : DaemonState =>
    ∀ key slot, s.slots.lookup key = some slot → slot.WellAddressed ext.sha3) ?_ _ _ _ hstart hrun
  intro s₁ e s₂ h hstep
  apply forall_slots_of_step h _ (fun _ _ hslot => hslot) hstep
  intro amb key value fingerprint _
  apply CacheSlot.wellAddressed_new

/-- In every state that a run leads to, if the store holds the bundle of a slot, then the slots that
a cold start rebuilds from the store have one with the address, the fingerprint and the state of
this slot exactly when its value is empty and it is active.  The sections of the bundle fit, it is
read at the start, no other address in the store has the same first half, and the hash function does
not collide on an empty value. -/
theorem restored_iff {s s' : DaemonState} {events : List DaemonEvent} {key : String}
    {slot : CacheSlot} {seeds : SignSeeds} {bundle : CacheeArchiveBundle}
    (hstart : ∀ key slot, s.slots.lookup key = some slot → slot.WellAddressed ext.sha3)
    (hrun : run (daemonStep ext cfg) s events = some s')
    (hslot : s'.slots.lookup key = some slot)
    (hbundle : slotToBundle ext seeds slot cfg.pqKeys cfg.issuerId = .ok bundle)
    (hheld : s'.contentStore.db[(bundle.contentAddress ext.sha3).1]?
      = some (bundle.serialize ext.identityJson))
    (hfits : bundle.SectionsFit)
    (hread : (amb (bundle.contentAddress ext.sha3)).getFault = none)
    (hkeys : ∀ address ∈ s'.contentStore.addresses,
      address.1.take 16 = (bundle.contentAddress ext.sha3).1.take 16 →
        address = bundle.contentAddress ext.sha3)
    (haddress : NoCollision ext.sha3 (CacheSlot.addressInput ext.sha3 [] slot.fingerprint)
      (CacheSlot.addressInput ext.sha3 slot.value slot.fingerprint))
    (hvalue : NoCollision ext.sha3 [] slot.value) :
  ∃ slots, coldStart ext amb defaultTtl (.openDb s'.contentStore.db) = .ok slots ∧
    (Restored slots slot ↔ slot.value = [] ∧ slot.state = .active)
  := by
  have hwell := wellAddressed_of_run hstart hrun key slot hslot
  obtain ⟨slots, hcold⟩ := returns_coldStart ext amb defaultTtl (.openDb s'.contentStore.db)
  refine ⟨slots, hcold, ?_⟩
  constructor
  · rintro ⟨key', slot', hslot', hsame, hfingerprint, hstate⟩
    have hrebuilt := isRebuilt_of_coldStart hcold key' slot' hslot'
    refine ⟨value_eq_nil hwell haddress hvalue ?_, hstate ▸ hrebuilt.active⟩
    rw [← hfingerprint, ← hrebuilt.contentAddress, hsame]
  · rintro ⟨hnil, hactive⟩
    obtain ⟨hmagic, -, hfingerprint⟩ := slotToBundle_eq_ok hbundle
    have hheld' : (ContentStore.openDb s'.contentStore.db).db[(bundle.contentAddress ext.sha3).1]?
        = some (bundle.serialize ext.identityJson) := hheld
    obtain ⟨bundle', hget, hbundle'⟩ := ContentStore.exists_get hmagic hfits hheld'
    rw [← hread] at hget
    have hlookup := lookup_of_coldStart (ContentStore.mem_addresses_iff.mpr ⟨_, hheld'⟩) hget hkeys hcold
    refine ⟨_, _, hlookup, ?_, hbundle'.trans hfingerprint, hactive.symm⟩
    rw [hwell, hnil, ← hfingerprint, ← hbundle']
    rfl

/-! ### An empty value and a revoked one -/

/-- A `SET` of the key `k` to nothing, with a fingerprint of three hashes that are all ones. -/
def emptySet : Bytes := asBytes ("SET k FP " ++ String.join (List.replicate 96 "01"))

/-- The slot of this `SET`. -/
def emptySlot : CacheSlot :=
  newSlot plainExternals plainConfig plainAmbient [] (fpArgument (words emptySet) 2)

/-- The bundle of this slot. -/
def emptyBundle : CacheeArchiveBundle :=
  match slotToBundle plainExternals plainAmbient.seeds emptySlot plainConfig.pqKeys
    plainConfig.issuerId with
  | .ok bundle => bundle
  | .error _ => .blank

/-- This bundle is made of the slot. -/
theorem slotToBundle_emptySlot :
  slotToBundle plainExternals plainAmbient.seeds emptySlot plainConfig.pqKeys plainConfig.issuerId
    = .ok emptyBundle
  := by
  decide +kernel

/-- The sections of this bundle fit. -/
theorem sectionsFit_emptyBundle :
  emptyBundle.SectionsFit
  := by
  have hslot : emptySlot.fingerprint = fpArgument (words emptySet) 2 := by
    rw [emptySlot, newSlot, CacheSlot.new]
  have hfits : emptyBundle.computationFingerprint.Fits := by
    rw [(slotToBundle_eq_ok slotToBundle_emptySlot).2.2, hslot]
    apply fits_parseFingerprint
  refine ⟨?_, ?_, ?_, ?_, ?_, ?_, ?_, hfits⟩
  iterate 7 decide +kernel

/-- After the `SET` and a restart there is a slot with the address, the fingerprint and the state of
this one. -/
theorem restored_emptySlot :
  ∃ s' slots, run (daemonStep plainExternals plainConfig) (.empty "node")
      [.command plainAmbient emptySet] = some s' ∧
    coldStart plainExternals (fun _ => plainAmbient) 3600 (.openDb s'.contentStore.db)
      = .ok slots ∧ Restored slots emptySlot
  := by
  have hrun : (run (daemonStep plainExternals plainConfig) (.empty "node")
      [.command plainAmbient emptySet]).map (fun s' => (s'.slots.lookup "k",
        s'.contentStore.addresses,
        s'.contentStore.db[(emptyBundle.contentAddress primeHash).1]?))
      = some (some emptySlot, [emptyBundle.contentAddress primeHash],
          some (emptyBundle.serialize plainExternals.identityJson)) := by
    decide +kernel
  obtain ⟨s', hrun, hs'⟩ := Option.map_eq_some_iff.mp hrun
  obtain ⟨hslot, hs'⟩ := Prod.mk.inj hs'
  obtain ⟨haddresses, hheld⟩ := Prod.mk.inj hs'
  have hrestored := @restored_iff plainExternals plainConfig (fun _ => plainAmbient) 3600
    (.empty "node") s' [.command plainAmbient emptySet] "k" emptySlot plainAmbient.seeds
    emptyBundle (by rintro key slot ⟨⟩) hrun hslot slotToBundle_emptySlot hheld
    sectionsFit_emptyBundle rfl
    (by
      intro address haddress _
      rw [haddresses] at haddress
      apply List.mem_singleton.mp haddress)
    (fun _ => rfl) (fun _ => rfl)
  obtain ⟨slots, hcold, hiff⟩ := hrestored
  exact ⟨s', slots, hrun, hcold, hiff.mpr ⟨rfl, rfl⟩⟩

/-- After the value `v` of `k` has been set with a fingerprint and revoked, and a restart, there is
no slot with its address, fingerprint and state, but an active one with its fingerprint. -/
theorem not_restored_revoked :
  ∃ s' slot slots key' slot', run (daemonStep plainExternals plainConfig) (.empty "node")
      [.command plainAmbient attestedSet, invalidateK] = some s' ∧
    s'.slots.lookup "k" = some slot ∧ slot.state = .revoked "recalled" 1 none ∧
    s'.contentStore.db[(attestedBundle.contentAddress primeHash).1]?
      = some (attestedBundle.serialize plainExternals.identityJson) ∧
    coldStart plainExternals (fun _ => plainAmbient) 3600 (.openDb s'.contentStore.db)
      = .ok slots ∧ ¬ Restored slots slot ∧
    slots.lookup key' = some slot' ∧ slot'.fingerprint = slot.fingerprint ∧ slot'.state = .active
  := by
  have hrun : (run (daemonStep plainExternals plainConfig) (.empty "node")
      [.command plainAmbient attestedSet, invalidateK]).map (fun s' => (s'.slots.lookup "k",
        s'.contentStore.db[(attestedBundle.contentAddress primeHash).1]?,
        (coldStart plainExternals (fun _ => plainAmbient) 3600
          (.openDb s'.contentStore.db)).map fun slots =>
            slots.lookup (coldStartKey (attestedBundle.contentAddress primeHash))))
      = some (some { attestedSlot with state := .revoked "recalled" 1 none },
          some (attestedBundle.serialize plainExternals.identityJson),
          .ok (some (coldStartSlot plainExternals plainAmbient 3600 attestedSlot.fingerprint))) := by
    decide +kernel
  obtain ⟨s', hrun, hs'⟩ := Option.map_eq_some_iff.mp hrun
  obtain ⟨hslot, hs'⟩ := Prod.mk.inj hs'
  obtain ⟨hheld, hcold⟩ := Prod.mk.inj hs'
  cases hslots : coldStart plainExternals (fun _ => plainAmbient) 3600
      (.openDb s'.contentStore.db) with
  | error e =>
    rw [hslots] at hcold
    cases hcold
  | ok slots =>
    rw [hslots] at hcold
    refine ⟨s', _, slots, _, _, hrun, hslot, rfl, hheld, hslots, ?_, Except.ok.inj hcold, rfl, rfl⟩
    rintro ⟨key', slot', hslot', -, -, hstate⟩
    rw [(isRebuilt_of_coldStart hslots key' slot' hslot').active] at hstate
    cases hstate

end Cachee
