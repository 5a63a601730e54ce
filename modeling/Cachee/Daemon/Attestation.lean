import Cachee.Daemon.State
import Cachee.VerifyFile

/-!
# Attested slots

With a key set whose schemes are correct, the bundle of a slot attests its value from end to
end: it is built, stored under its content address, retrieved, exported and read back, and at
the end all three signatures of the hash of the value verify.
-/

open Text

namespace Cachee

variable {ext : Externals} {slot : CacheSlot} {keys : PqKeySet} {seeds : SignSeeds}
  {issuerId : String} {b : CacheeArchiveBundle} {address : Block 32}

/-- A bundle attests the value of a slot under a content address: it carries the hash of the
value and the time of the slot, the three signatures of the hash verify, and it has the
address. -/
structure Attests (ext : Externals) (slot : CacheSlot) (address : Block 32)
    (b : CacheeArchiveBundle) : Prop where
  magic : b.magic = cabMagic
  contentHash : b.contentHash = ext.sha3 slot.value
  valueHash : b.primitive.valueHash = b.contentHash
  timestampNs : b.timestampNs = slot.createdAt
  contentAddress : b.contentAddress ext.sha3 = address
  mldsaValid : b.mldsaValid ext.library = true
  falconValid : b.falconValid ext.library = true
  slhdsaValid : b.slhdsaValid ext.library = true
  sectionsFit : b.SectionsFit

namespace Attests

/-- Two of the signatures verify. -/
theorem twoOfThree (h : Attests ext slot address b) :
  b.twoOfThree ext.library = true
  := by
  rw [CacheeArchiveBundle.twoOfThree_iff]
  left
  exact ⟨h.mldsaValid, Or.inl h.falconValid⟩

/-- The verdict on the bundle is valid when the slot has a time. -/
theorem isValid (h : Attests ext slot address b) (hcreated : 0 < slot.createdAt) :
  (b.verify ext.library).isValid
  := by
  apply isValid_iff.mpr ⟨h.magic, h.twoOfThree, h.valueHash, _⟩
  rw [h.timestampNs]
  apply (UInt64.pos_iff_ne_zero).mp hcreated

/-- The bundle that is read back from the serialization attests the same. -/
theorem deserialize (h : Attests ext slot address b) :
  ∃ b', CacheeArchiveBundle.deserialize ext.identityJson (b.serialize ext.identityJson) = .ok b' ∧
    Attests ext slot address b'
  := by
  obtain ⟨identity, hread⟩ := CacheeArchiveBundle.exists_deserialize_serialize_eq
    ext.identityJson h.magic h.sectionsFit
  refine ⟨_, hread, h.magic, h.contentHash, h.valueHash, h.timestampNs, h.contentAddress,
    h.mldsaValid, h.falconValid, h.slhdsaValid, ?_⟩
  exact ⟨h.sectionsFit.mldsa65Pk, h.sectionsFit.falcon512Pk, h.sectionsFit.slhdsa128fPk,
    h.sectionsFit.mldsa65Sig, h.sectionsFit.falcon512Sig, h.sectionsFit.slhdsa128fSig,
    h.sectionsFit.metadata, h.sectionsFit.fingerprint⟩

/-- The verifier reports the serialization as valid, with the address. -/
theorem verifyFile (h : Attests ext slot address b) (path : String) :
  ∃ r, Cachee.verifyFile ext.sha3 ext.library ext.identityJson path
      (.ok (b.serialize ext.identityJson)) = .ok r ∧
    r.valid ∧ r.contentAddressHex = hexEncode address.1
  := by
  obtain ⟨b', hread, hb'⟩ := h.deserialize
  simp only [Cachee.verifyFile, hread, Except.ok.injEq, exists_eq_left']
  constructor
  · rw [valid_ofBundle hb'.magic, hb'.twoOfThree]
  · rw [BundleVerification.ofBundle, hb'.contentAddress]

end Attests

/-- With correct keys the bundle of a slot is built, and attests the slot. -/
theorem slotToBundle_of_correct (hkeys : keys.Correct ext.library)
    (hfits : slot.fingerprint.Fits) (seeds : SignSeeds) (issuerId : String) :
  ∃ b, slotToBundle ext seeds slot (some keys) issuerId = .ok b ∧
    Attests ext slot (b.contentAddress ext.sha3) b
  := by
  obtain ⟨mldsaSig, hmldsa, hmldsaFits, hmldsaVerifies⟩ :=
    hkeys.mldsa.sign seeds.mldsa (ext.sha3 slot.value)
  obtain ⟨falconSig, hfalcon, hfalconFits, hfalconVerifies⟩ :=
    hkeys.falcon.sign seeds.falcon (ext.sha3 slot.value)
  obtain ⟨slhdsaSig, hslhdsa, hslhdsaFits, hslhdsaVerifies⟩ :=
    hkeys.slhdsa.sign seeds.slhdsa (ext.sha3 slot.value)
  have hsign : keys.sign ext.library seeds (ext.sha3 slot.value).1
      = .ok ⟨mldsaSig, falconSig, slhdsaSig⟩ := by
    simp only [PqKeySet.sign, hmldsa, hfalcon, hslhdsa, ok_bind]
    rfl
  cases hb : slotToBundle ext seeds slot (some keys) issuerId with
  | error e =>
    simp only [slotToBundle, hsign, ok_bind] at hb
    cases hb
  | ok b =>
    simp only [slotToBundle, hsign, ok_bind] at hb
    obtain rfl := Except.ok.inj hb
    refine ⟨_, rfl, rfl, rfl, rfl, rfl, rfl, ?_, ?_, ?_, ?_⟩
    · apply unwrapOrFalse_iff.mpr (hmldsaVerifies _ _)
    · apply unwrapOrFalse_iff.mpr (hfalconVerifies _ _)
    · apply unwrapOrFalse_iff.mpr (hslhdsaVerifies _ _)
    · exact ⟨hkeys.mldsa.publicKeyFits, hkeys.falcon.publicKeyFits, hkeys.slhdsa.publicKeyFits,
        hmldsaFits, hfalconFits, hslhdsaFits, Nat.two_pow_pos 32, hfits⟩

/-- The bundle carries the hash of the value of the slot, all its signatures verify and its
verdict is valid. -/
structure Verifies (ext : Externals) (slot : CacheSlot) (b : CacheeArchiveBundle) : Prop where
  contentHash : b.contentHash = ext.sha3 slot.value
  mldsaValid : (b.verify ext.library).cryptographic.mldsaValid = true
  falconValid : (b.verify ext.library).cryptographic.falconValid = true
  slhdsaValid : (b.verify ext.library).cryptographic.slhdsaValid = true
  isValid : (b.verify ext.library).isValid = true

theorem Attests.verifies (h : Attests ext slot address b) (hcreated : 0 < slot.createdAt) :
  Verifies ext slot b
  := by
  constructor
  · apply h.contentHash
  · rw [CacheeArchiveBundle.verify, if_neg (by simpa using h.magic)]
    apply h.mldsaValid
  · rw [CacheeArchiveBundle.verify, if_neg (by simpa using h.magic)]
    apply h.falconValid
  · rw [CacheeArchiveBundle.verify, if_neg (by simpa using h.magic)]
    apply h.slhdsaValid
  · apply h.isValid hcreated

/-- With correct keys, a slot with a parsed fingerprint and a time stays verifiable from end to
end: its bundle is built and stored; the bundle that is retrieved from its address verifies; and
so does the bundle that is read from the exported bytes, which the verifier reports as valid
under the address at which the bundle was stored. -/
theorem attested_endToEnd {hexStr : String} (hkeys : keys.Correct ext.library)
    (hfingerprint : slot.fingerprint = parseFingerprint hexStr) (hcreated : 0 < slot.createdAt)
    (seeds : SignSeeds) (issuerId : String) (store : ContentStore) :
  ∃ bundle store' address,
    slotToBundle ext seeds slot (some keys) issuerId = .ok bundle ∧
    store.put ext.sha3 ext.identityJson none bundle = (store', .ok address) ∧
    (∃ b, store'.get ext.identityJson none address = .ok (some b) ∧ Verifies ext slot b) ∧
    ∃ bytes, store'.exportBundle ext.identityJson none address = .ok bytes ∧
      (∃ b, CacheeArchiveBundle.deserialize ext.identityJson bytes = .ok b ∧
        Verifies ext slot b) ∧
      ∀ path, ∃ r, verifyFile ext.sha3 ext.library ext.identityJson path (.ok bytes) = .ok r ∧
        r.valid ∧ r.contentAddressHex = hexEncode address.1
  := by
  have hfits : slot.fingerprint.Fits := by
    rw [hfingerprint]
    apply fits_parseFingerprint
  obtain ⟨bundle, hbundle, hattests⟩ := slotToBundle_of_correct hkeys hfits seeds issuerId
  obtain ⟨b, hread, hb⟩ := hattests.deserialize
  obtain ⟨b', hread', hb'⟩ := hb.deserialize
  have hheld := @ContentStore.getElem?_put ext.sha3 ext.identityJson store bundle
  have hget := ContentStore.get_eq hheld hread
  refine ⟨bundle, _, _, hbundle, rfl, ⟨b, hget, hb.verifies hcreated⟩,
    b.serialize ext.identityJson, ?_, ⟨b', hread', hb'.verifies hcreated⟩, hb.verifyFile⟩
  apply ContentStore.exportBundle_eq hget

/-- The concrete scheme is correct for equal keys of one byte. -/
theorem correct_prefixScheme (key : UInt8) :
  prefixScheme.Correct [key] [key]
  := by
  constructor
  · rfl
  · rfl
  · intro seed hash
    rfl
  · intro seed hash
    simp [prefixScheme]
  · simp
  · intro seed hash
    simp [prefixScheme, hash.2]

/-- The three schemes are correct for the concrete keys. -/
theorem correct_plainKeys :
  plainKeys.Correct plainExternals.library
  := by
  constructor
  · apply correct_prefixScheme
  · apply correct_prefixScheme
  · apply correct_prefixScheme

/-- The export of the bundle of a slot with the value `v` is reported valid. -/
theorem attested_endToEnd_plain :
  let slot := newSlot plainExternals plainConfig plainAmbient (asBytes "v")
    (parseFingerprint (String.join (List.replicate 96 "01")))
  ∃ bundle store' address bytes r,
    slotToBundle plainExternals plainAmbient.seeds slot (some plainKeys) "node" = .ok bundle ∧
    (ContentStore.openDb ∅).put primeHash plainExternals.identityJson none bundle
      = (store', .ok address) ∧
    store'.exportBundle plainExternals.identityJson none address = .ok bytes ∧
    verifyFile primeHash plainExternals.library plainExternals.identityJson "v.cab" (.ok bytes)
      = .ok r ∧ r.valid
  := by
  dsimp only
  have hcreated : ∀ fingerprint, 0 < (newSlot plainExternals plainConfig plainAmbient
      (asBytes "v") fingerprint).createdAt := by
    intro fingerprint
    rw [newSlot, CacheSlot.new]
    exact (by decide : 0 < plainAmbient.now)
  have hfingerprint : ∀ fingerprint, (newSlot plainExternals plainConfig plainAmbient
      (asBytes "v") fingerprint).fingerprint = fingerprint := by
    intro fingerprint
    rw [newSlot, CacheSlot.new]
  obtain ⟨bundle, store', address, hbundle, hput, -, bytes, hexport, -, hverify⟩ :=
    @attested_endToEnd plainExternals (newSlot plainExternals plainConfig plainAmbient
        (asBytes "v") (parseFingerprint (String.join (List.replicate 96 "01"))))
      plainKeys _ correct_plainKeys (hfingerprint _) (hcreated _) plainAmbient.seeds "node"
      (.openDb ∅)
  obtain ⟨r, hr, hvalid, -⟩ := hverify "v.cab"
  exact ⟨bundle, store', address, bytes, r, hbundle, hput, hexport, hr, hvalid⟩

end Cachee
