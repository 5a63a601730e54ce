import Cachee.Daemon.Effects
import Cachee.Daemon.Replies

/-!
# Verified reads of attested writes

A `SET` with a valid fingerprint files a bundle under the content address of the bundle, and a
verified read looks for it under the content address of the slot.  The first hashes a primitive,
a content hash and a digest, the second a hash and a digest only.  So unless the hash function
collides on these, the bundle is never found, and the read reports that nothing was verified.
-/

open Text

namespace Cachee

/-! ### The two addresses -/

/-- The byte strings that are hashed for the addresses of a slot and of a bundle have different
lengths. -/
theorem CacheSlot.addressInput_ne (sha3 : Bytes → Block 32) (value : Bytes)
    (fingerprint : ComputationFingerprint) (b : CacheeArchiveBundle) :
  addressInput sha3 value fingerprint ≠ b.addressInput sha3
  := by
  intro h
  have hlen := congrArg List.length h
  simp [addressInput, CacheeArchiveBundle.addressInput, (sha3 value).2, b.contentHash.2,
    (fingerprint.digest sha3).2, (b.computationFingerprint.digest sha3).2,
    H33Primitive.size] at hlen

/-- Without a collision, a slot and a bundle have different addresses. -/
theorem CacheSlot.contentAddress_ne {sha3 : Bytes → Block 32} {slot : CacheSlot}
    {b : CacheeArchiveBundle} (hslot : slot.WellAddressed sha3)
    (h : NoCollision sha3 (addressInput sha3 slot.value slot.fingerprint) (b.addressInput sha3)) :
  slot.contentAddress ≠ b.contentAddress sha3
  := by
  rw [hslot]
  intro heq
  apply addressInput_ne sha3 slot.value slot.fingerprint b (h heq)

namespace ContentStore

variable {sha3 : Bytes → Block 32} {json : JsonCodec SignerIdentity} {store : ContentStore}

/-- Everything that is held is held under the address of one of the given bundles. -/
def FiledBy (sha3 : Bytes → Block 32) (store : ContentStore)
    (bundles : List CacheeArchiveBundle) : Prop :=
  ∀ key ∈ store.db.keys, ∃ b ∈ bundles, key = (b.contentAddress sha3).1

/-- What is held after a bundle is put was held before, or is held under its address. -/
theorem mem_keys_put {fault : Option WriteFault} {b : CacheeArchiveBundle} {key : Bytes} :
  key ∈ (store.put sha3 json fault b).1.db.keys →
    key ∈ store.db.keys ∨ key = (b.contentAddress sha3).1
  := by
  rw [Std.ExtTreeMap.mem_keys, Std.ExtTreeMap.mem_keys]
  intro h
  unfold put at h
  split at h
  · left
    apply h
  · rcases Std.ExtTreeMap.mem_insert.mp h with heq | hmem
    · right
      apply (Std.LawfulEqCmp.eq_of_compare heq).symm
    · left
      apply hmem
  · rcases Std.ExtTreeMap.mem_insert.mp h with heq | hmem
    · right
      apply (Std.LawfulEqCmp.eq_of_compare heq).symm
    · left
      apply hmem

/-- What is held stays held when a bundle is put. -/
theorem keys_subset_put (fault : Option WriteFault) (b : CacheeArchiveBundle) :
  store.db.keys ⊆ (store.put sha3 json fault b).1.db.keys
  := by
  intro key
  rw [Std.ExtTreeMap.mem_keys, Std.ExtTreeMap.mem_keys]
  intro h
  unfold put
  split
  · apply h
  · apply Std.ExtTreeMap.mem_insert.mpr (Or.inr h)
  · apply Std.ExtTreeMap.mem_insert.mpr (Or.inr h)

/-- A bundle is not found under an address that is not held, nor when reading fails. -/
theorem get_of_notMem {fault : Option String} {address : Block 32}
    (h : address.1 ∉ store.db.keys) :
  unwrapOr (store.get json fault address) none = .ok none
  := by
  have hnone : store.db[address.1]? = none := by
    apply Std.ExtTreeMap.getElem?_eq_none
    rwa [Std.ExtTreeMap.mem_keys] at h
  unfold get
  cases fault with
  | some e => rfl
  | none =>
    dsimp only
    rw [hnone]
    rfl

end ContentStore

/-! ### Runs after a `SET` -/

variable {ext : Externals} {cfg : DaemonConfig}

/-- A key has a slot, up to its state, and the store holds something under an address. -/
structure KeepsSlot (key : String) (slot : CacheSlot) (address : Block 32) (s : DaemonState) :
    Prop where
  slot : ∃ state, s.slots.lookup key = some { slot with state := state }
  held : address.1 ∈ s.contentStore.db.keys

/-- A command that does not write a key keeps its slot and what the store holds. -/
theorem KeepsSlot.effect {key : String} {slot : CacheSlot} {address : Block 32}
    {s s' : DaemonState} {parts : List String} (h : KeepsSlot key slot address s)
    (heffect : CommandEffect ext parts s s')
    (hwrites : ∀ command args, parts = command :: key :: args →
      ¬ (toUppercase command = "SET" ∨ toUppercase command = "DEL")) :
  KeepsSlot key slot address s'
  := by
  obtain ⟨⟨state, hslot⟩, hheld⟩ := h
  cases heffect with
  | keep hslots hstore =>
    constructor
    · use state
      rw [hslots, hslot]
    · rw [hstore]
      apply hheld
  | set command key' args slot' hparts hcommand hslots hstore =>
    have hne : key ≠ key' := by
      rintro rfl
      exact hwrites command args hparts (Or.inl hcommand)
    constructor
    · use state
      rw [hslots, AList.lookup_insert_ne hne, hslot]
    · rcases hstore with hstore | ⟨fault, bundle, hstore⟩
      · rw [hstore]
        apply hheld
      · rw [hstore]
        apply ContentStore.keys_subset_put fault bundle hheld
  | delete command key' args hparts hcommand hslots hstore =>
    have hne : key ≠ key' := by
      rintro rfl
      exact hwrites command args hparts (Or.inr hcommand)
    constructor
    · use state
      rw [hslots, AList.lookup_erase_ne hne, hslot]
    · rw [hstore]
      apply hheld
  | transition key' slot' state' hslot' hslots hstore =>
    constructor
    · by_cases hkey : key = key'
      · subst hkey
        rw [hslot] at hslot'
        obtain rfl := Option.some.inj hslot'
        use state'
        rw [hslots, AList.lookup_insert]
      · use state
        rw [hslots, AList.lookup_insert_ne hkey, hslot]
    · rw [hstore]
      apply hheld

/-- A run that does not write a key keeps its slot and what the store holds. -/
theorem KeepsSlot.run {key : String} {slot : CacheSlot} {address : Block 32}
    {s s' : DaemonState} {events : List DaemonEvent} (h : KeepsSlot key slot address s)
    (hwrites : ∀ e ∈ events, ¬ e.Writes key)
    (hrun : run (daemonStep ext cfg) s events = some s') :
  KeepsSlot key slot address s'
  := by
  apply run_invariant _ h (meetsAlong_of_forall hwrites s) hrun
  intro s₁ e s₂ hs₁ he hstep
  obtain ⟨parts, heffect, hparts⟩ := daemonStep_effect hstep
  apply hs₁.effect heffect
  intro command args hcommand hwritten
  exact he (hparts command key args hcommand hwritten)

/-- In every state that a run leads to, what the store holds is filed by bundles, if it is
before the run. -/
theorem exists_filedBy_of_run {s s' : DaemonState} {events : List DaemonEvent}
    {bundles : List CacheeArchiveBundle} (h : s.contentStore.FiledBy ext.sha3 bundles)
    (hrun : run (daemonStep ext cfg) s events = some s') :
  ∃ bundles', s'.contentStore.FiledBy ext.sha3 bundles'
  := by
  apply @run_invariant_of_step _ _ _
    (fun s => ∃ bundles, s.contentStore.FiledBy ext.sha3 bundles) _ _ _ _ ⟨bundles, h⟩ hrun
  rintro s₁ e s₂ ⟨bundles, hfiled⟩ hstep
  obtain ⟨parts, heffect, -⟩ := daemonStep_effect hstep
  cases heffect with
  | keep hslots hstore => exact ⟨bundles, hstore ▸ hfiled⟩
  | delete command key args hparts hcommand hslots hstore => exact ⟨bundles, hstore ▸ hfiled⟩
  | transition key slot state hslot hslots hstore => exact ⟨bundles, hstore ▸ hfiled⟩
  | set command key args slot hparts hcommand hslots hstore =>
    rcases hstore with hstore | ⟨fault, bundle, hstore⟩
    · exact ⟨bundles, hstore ▸ hfiled⟩
    · use bundle :: bundles
      intro held hheld
      rw [hstore] at hheld
      rcases ContentStore.mem_keys_put hheld with hold | hnew
      · obtain ⟨b, hb, hkey⟩ := hfiled held hold
        exact ⟨b, List.mem_cons_of_mem bundle hb, hkey⟩
      · exact ⟨bundle, List.mem_cons_self, hnew⟩

/-! ### The read -/

section Read

variable {amb amb' : Ambient} {s s₁ s₂ : DaemonState} {data : Bytes} {command key : String}
  {args : List String} {idx : ℕ} {slot : CacheSlot}

/-- The signatures of a slot are not checked when the store holds nothing under its address. -/
theorem verifySlot_of_notMem {store : ContentStore} (hvalid : slot.hasValidFingerprint = true)
    (h : slot.contentAddress.1 ∉ store.db.keys) :
  verifySlot ext amb store slot
    = .ok (.unverified slot.trust.lastVerifiedAt slot.trust.trustScore, .unchecked)
  := by
  rw [verifySlot, if_pos hvalid, ContentStore.get_of_notMem h, ok_bind]
  rfl

/-- A `SET` with a valid fingerprint makes a slot with it, and puts the bundle of the slot. -/
theorem handleResp_attestedSet {word : String}
    (hwords : words data = command :: key :: word :: args)
    (hcommand : toUppercase command = "SET") (hidx : fpIndex (words data) = some idx)
    (hvalid : (fpArgument (words data) idx).isValid = true) (hput : amb.putFault = none)
    (hset : handleResp ext cfg amb s data = .ok (s₁, "+OK\r\n")) :
  ∃ value bundle,
    s₁.slots.lookup key
      = some (newSlot ext cfg amb (asBytes value) (fpArgument (words data) idx)) ∧
    slotToBundle ext amb.seeds (newSlot ext cfg amb (asBytes value) (fpArgument (words data) idx))
      cfg.pqKeys cfg.issuerId = .ok bundle ∧
    (bundle.contentAddress ext.sha3).1 ∈ s₁.contentStore.db.keys
  := by
  rw [handleResp, hwords] at hset
  rw [hwords] at hidx hvalid ⊢
  dsimp only at hset
  rw [hcommand, dispatch_set (by simp)] at hset
  rcases handleSet_cases hset with ⟨hargs, -⟩ | ⟨value, fingerprint, s', hargs, hs', rfl, -⟩
  · rw [setArguments, hidx] at hargs
    obtain ⟨_, -, hnone⟩ := bind_eq_ok_iff.mp hargs
    cases hnone
  · rw [setArguments, hidx] at hargs
    obtain ⟨_, -, hsome⟩ := bind_eq_ok_iff.mp hargs
    obtain ⟨rfl, rfl⟩ := Prod.mk.inj (Option.some.inj (Except.ok.inj hsome))
    rcases DaemonState.persistSlot_cases (AList.lookup_insert _) hs' with
      ⟨hinvalid, -⟩ | ⟨bundle, hbundle, rfl⟩
    · rw [hasValidFingerprint_newSlot, hvalid] at hinvalid
      cases hinvalid
    · obtain ⟨auditLog, hlog⟩ := DaemonState.logCreated_eq ext cfg amb _ key
      rw [hlog]
      refine ⟨_, bundle, AList.lookup_insert _, hbundle, ?_⟩
      rw [hput, Std.ExtTreeMap.mem_keys]
      apply Std.ExtTreeMap.mem_insert_self

/-- A verified read of a key whose slot has an address under which nothing is held reports that
nothing was verified, and changes nothing. -/
theorem handleResp_unverified {state : EntryState} {value : Bytes}
    (hengine : s.engine.lookup key = some value)
    (hslot : s.slots.lookup key = some { slot with state := state })
    (hvalid : slot.hasValidFingerprint = true)
    (hheld : slot.contentAddress.1 ∉ s.contentStore.db.keys) :
  ∃ response, s.getVerified ext amb key = .ok (some response) ∧
    response.verification = .unverified slot.trust.lastVerifiedAt slot.trust.trustScore ∧
    ∀ data command args, words data = command :: key :: args →
      toUppercase command = "GETVERIFIED" →
        handleResp ext cfg amb s data = .ok (s, bulk (responseText ext response))
  := by
  have hverify : verifySlot ext amb s.contentStore { slot with state := state }
      = .ok (.unverified slot.trust.lastVerifiedAt slot.trust.trustScore, .unchecked) :=
    verifySlot_of_notMem hvalid hheld
  have hread : ∃ response, s.getVerified ext amb key = .ok (some response) ∧
      response.verification = .unverified slot.trust.lastVerifiedAt slot.trust.trustScore := by
    rw [DaemonState.getVerified, hengine]
    dsimp only
    rw [DaemonState.respond, hslot]
    dsimp only
    rw [hverify]
    exact ⟨_, rfl, rfl⟩
  obtain ⟨response, hread, hverification⟩ := hread
  refine ⟨response, hread, hverification, ?_⟩
  intro data command args hwords hcommand
  rw [handleResp, hwords]
  dsimp only
  rw [hcommand, dispatch_getVerified (by simp), handleGetVerified]
  have hkey : index (command :: key :: args) 1 = .ok key := rfl
  rw [hkey, ok_bind, hread, ok_bind]
  dsimp only
  rw [DaemonState.logVerification_of_unverified hverification]
  rfl

/-- After a `SET` with a valid fingerprint that stored its bundle, and any later events that do
not write the key and leave its value in the engine, a verified read of the key reports that
nothing was verified, unless the hash function collides on the addresses.  The bundle is in the
store, but under another address than the one that is read. -/
theorem unverified_after_set {bundles : List CacheeArchiveBundle} {events : List DaemonEvent}
    {word : String} {value : Bytes} (hwords : words data = command :: key :: word :: args)
    (hcommand : toUppercase command = "SET") (hidx : fpIndex (words data) = some idx)
    (hvalid : (fpArgument (words data) idx).isValid = true) (hput : amb.putFault = none)
    (hset : handleResp ext cfg amb s data = .ok (s₁, "+OK\r\n"))
    (hslot : s₁.slots.lookup key = some slot)
    (hrun : run (daemonStep ext cfg) s₁ events = some s₂)
    (hwrites : ∀ e ∈ events, ¬ e.Writes key)
    (hengine : s₂.engine.lookup key = some value)
    (hfiled : s₂.contentStore.FiledBy ext.sha3 bundles)
    (hsha3 : ∀ b ∈ bundles, NoCollision ext.sha3
      (CacheSlot.addressInput ext.sha3 slot.value slot.fingerprint) (b.addressInput ext.sha3)) :
  (∃ bundle, slotToBundle ext amb.seeds slot cfg.pqKeys cfg.issuerId = .ok bundle ∧
    (bundle.contentAddress ext.sha3).1 ∈ s₂.contentStore.db.keys ∧
    bundle.contentAddress ext.sha3 ≠ slot.contentAddress) ∧
  ∃ response, s₂.getVerified ext amb' key = .ok (some response) ∧
    response.verification = .unverified slot.trust.lastVerifiedAt slot.trust.trustScore ∧
    ∀ data command args, words data = command :: key :: args →
      toUppercase command = "GETVERIFIED" →
        handleResp ext cfg amb' s₂ data = .ok (s₂, bulk (responseText ext response))
  := by
  obtain ⟨value', bundle, hslot', hbundle, hstored⟩ :=
    handleResp_attestedSet hwords hcommand hidx hvalid hput hset
  have heq : slot = newSlot ext cfg amb (asBytes value') (fpArgument (words data) idx) := by
    rw [hslot] at hslot'
    apply Option.some.inj hslot'
  rw [← heq] at hbundle
  have hwell : slot.WellAddressed ext.sha3 := by
    rw [heq]
    apply CacheSlot.wellAddressed_new
  have hfingerprint : slot.hasValidFingerprint = true := by
    rw [heq]
    apply hvalid
  have hkeeps : KeepsSlot key slot (bundle.contentAddress ext.sha3) s₁ :=
    ⟨⟨slot.state, hslot⟩, hstored⟩
  obtain ⟨⟨state, hstate⟩, hheld⟩ := hkeeps.run hwrites hrun
  have hnot : ∀ address : Block 32, address.1 ∈ s₂.contentStore.db.keys →
      address ≠ slot.contentAddress := by
    rintro address hmem rfl
    obtain ⟨b, hb, hkey⟩ := hfiled _ hmem
    exact CacheSlot.contentAddress_ne hwell (hsha3 b hb) (Subtype.ext hkey)
  constructor
  · exact ⟨bundle, hbundle, hheld, hnot _ hheld⟩
  · apply handleResp_unverified hengine hstate hfingerprint
    intro hmem
    exact hnot _ hmem rfl

end Read

/-- A `SET` of the key `k` to `v`, with a fingerprint of three hashes that are all ones. -/
def attestedSet : Bytes :=
  asBytes ("SET k v FP " ++ String.join (List.replicate 96 "01"))

/-- The slot of this `SET`. -/
def attestedSlot : CacheSlot :=
  newSlot plainExternals plainConfig plainAmbient (asBytes "v") (fpArgument (words attestedSet) 3)

/-- All three signatures of the bundle of this slot are valid, but a verified read of the key
after the `SET` reports that nothing was verified. -/
theorem unverified_attestedSet :
  ((slotToBundle plainExternals plainAmbient.seeds attestedSlot plainConfig.pqKeys
      plainConfig.issuerId).map fun b => (b.verify plainExternals.library).cryptographic.allThree)
    = .ok true ∧
  (handleResp plainExternals plainConfig plainAmbient (.empty "node") attestedSet).map Prod.snd
    = .ok "+OK\r\n" ∧
  ((handleResp plainExternals plainConfig plainAmbient (.empty "node") attestedSet >>= fun r =>
      r.1.getVerified plainExternals plainAmbient "k").map fun response =>
        response.map CacheeReadResponse.verification)
    = .ok (some (.unverified 1 1))
  := by
  decide +kernel

/-- The bundle of this slot. -/
def attestedBundle : CacheeArchiveBundle :=
  match slotToBundle plainExternals plainAmbient.seeds attestedSlot plainConfig.pqKeys
    plainConfig.issuerId with
  | .ok bundle => bundle
  | .error _ => .blank

/-- After the `SET` the key has this slot and the value `v`, and the store holds this bundle. -/
theorem handleResp_attestedSet_eq :
  (handleResp plainExternals plainConfig plainAmbient (.empty "node") attestedSet).map (fun r =>
      (r.2, r.1.slots.lookup "k", r.1.engine.lookup "k", r.1.contentStore.db.keys))
    = .ok ("+OK\r\n", some attestedSlot, some (asBytes "v"),
        [(attestedBundle.contentAddress primeHash).1])
  := by
  decide +kernel

/-- The read right after the `SET` reports that nothing was verified. -/
theorem unverified_after_attestedSet :
  ∃ s₁ response,
    handleResp plainExternals plainConfig plainAmbient (.empty "node") attestedSet
      = .ok (s₁, "+OK\r\n") ∧
    s₁.getVerified plainExternals plainAmbient "k" = .ok (some response) ∧
    response.verification = .unverified 1 1
  := by
  have hwords : words attestedSet
      = ["SET", "k", "v", "FP", String.join (List.replicate 96 "01")] := by
    decide +kernel
  have hidx : fpIndex (words attestedSet) = some 3 := by
    rw [hwords]
    decide +kernel
  have hvalid : (fpArgument (words attestedSet) 3).isValid = true := by
    rw [hwords]
    decide +kernel
  have hsha3 : ∀ b ∈ [attestedBundle], NoCollision plainExternals.sha3
      (CacheSlot.addressInput plainExternals.sha3 attestedSlot.value attestedSlot.fingerprint)
      (b.addressInput plainExternals.sha3) := by
    unfold NoCollision
    decide +kernel
  have hmap := handleResp_attestedSet_eq
  cases hset : handleResp plainExternals plainConfig plainAmbient (.empty "node") attestedSet with
  | error e =>
    rw [hset] at hmap
    cases hmap
  | ok r =>
    obtain ⟨s₁, reply⟩ := r
    rw [hset] at hmap
    obtain ⟨hreply, hrest⟩ := Prod.mk.inj (Except.ok.inj hmap)
    obtain ⟨hslot, hrest⟩ := Prod.mk.inj hrest
    obtain ⟨hengine, hkeys⟩ := Prod.mk.inj hrest
    obtain rfl : reply = "+OK\r\n" := hreply
    have hfiled : s₁.contentStore.FiledBy plainExternals.sha3 [attestedBundle] := by
      intro key hkey
      use attestedBundle, List.mem_singleton_self attestedBundle
      have hmem : key ∈ [(attestedBundle.contentAddress primeHash).1] := hkeys ▸ hkey
      apply List.mem_singleton.mp hmem
    have hread := (@unverified_after_set plainExternals plainConfig plainAmbient plainAmbient
      (.empty "node") s₁ s₁ attestedSet "SET" "k" _ 3 attestedSlot [attestedBundle] [] "v" _
      hwords (by decide) hidx hvalid rfl hset hslot rfl (by simp) hengine hfiled hsha3).2
    obtain ⟨response, hread, hverification, -⟩ := hread
    exact ⟨s₁, response, rfl, hread, hverification⟩

end Cachee
