import Cachee.Archive.RoundTrip
import Cachee.Library.OrderedMap

/-!
# The content store

Bundles are stored in a database under their content addresses, as their serializations.
A bundle is exported by reading it and serializing it again; all bundles are exported by
writing out the stored bytes.
-/

open Text

namespace Cachee

/-- The content store: its database, and the count of stored bundles. -/
structure ContentStore where
  db : Database
  count : UInt64

namespace ContentStore

/-- Open a content store on a database. -/
def openDb (db : Database) : ContentStore where
  db := db
  count := UInt64.ofNat db.size

/-- Store a bundle by its content address.  Returns the address. -/
def put (sha3 : Bytes → Block 32) (json : JsonCodec SignerIdentity) (store : ContentStore)
    (fault : Option WriteFault) (bundle : CacheeArchiveBundle) :
    ContentStore × Except String (Block 32) :=
  let address := bundle.contentAddress sha3
  let bytes := bundle.serialize json
  match fault with
  | some (.insert e) => (store, .error s!"Content store write failed: {e}")
  | some (.flush e) =>
    ({ store with db := store.db.insert address.1 bytes },
      .error s!"Content store flush failed: {e}")
  | none =>
    ({ db := store.db.insert address.1 bytes, count := store.count + 1 }, .ok address)

/-- Retrieve a bundle by its content address. -/
def get (json : JsonCodec SignerIdentity) (store : ContentStore) (fault : Option String)
    (address : Block 32) : Outcome (Option CacheeArchiveBundle) :=
  match fault with
  | some e => bail s!"Content store read failed: {e}"
  | none =>
    match store.db[address.1]? with
    | some bytes => do
      let bundle ← mapErr (fun e => s!"Bundle deserialization failed: {e}")
        (CacheeArchiveBundle.deserialize json bytes)
      return some bundle
    | none => return none

/-- Check if a bundle exists.  A failed read counts as a missing bundle. -/
def existsBundle (store : ContentStore) (fault : Option String) (address : Block 32) : Bool :=
  match fault with
  | some _ => false
  | none => store.db.contains address.1

/-- The bytes written when a bundle is exported to a file. -/
def exportBundle (json : JsonCodec SignerIdentity) (store : ContentStore)
    (fault : Option String) (address : Block 32) : Outcome Bytes := do
  match ← store.get json fault address with
  | none => bail s!"Bundle not found: {hexEncode address.1}"
  | some bundle => return bundle.serialize json

/-- The name of the file of a stored key. -/
def fileName (key : Bytes) : String := s!"{hexEncode key}.cab"

/-- The files written when all bundles are exported to a directory. -/
def exportAll (store : ContentStore) : List (String × Bytes) :=
  store.db.toList.map fun (key, value) => (fileName key, value)

/-- The number of stored bundles. -/
def len (store : ContentStore) : UInt64 := store.count

/-- Whether the store is empty. -/
def isEmpty (store : ContentStore) : Bool := store.len == 0

/-- All content addresses: the keys of 32 bytes. -/
def addresses (store : ContentStore) : List (Block 32) :=
  store.db.keys.filterMap (Block.ofBytes? 32)

/-! ### Stored bundles -/

variable {sha3 : Bytes → Block 32} {json : JsonCodec SignerIdentity} {store : ContentStore}

/-- After a bundle is stored, its serialization is held under its content address. -/
theorem getElem?_put (b : CacheeArchiveBundle) :
  (store.put sha3 json none b).1.db[(b.contentAddress sha3).1]? = some (b.serialize json)
  := by
  simp [put]

/-- A bundle that is held and deserialized is retrieved. -/
theorem get_eq {a : Block 32} {bytes : Bytes} {b : CacheeArchiveBundle}
    (hheld : store.db[a.1]? = some bytes)
    (hread : CacheeArchiveBundle.deserialize json bytes = .ok b) :
  store.get json none a = .ok (some b)
  := by
  simp only [get, hheld, hread, mapErr_ok, ok_bind]
  rfl

/-- An address under which nothing is held is missing. -/
theorem get_eq_none {a : Block 32} (hheld : store.db[a.1]? = none) :
  store.get json none a = .ok none
  := by
  simp only [get, hheld]
  rfl

/-- A retrieved bundle is exported as its serialization. -/
theorem exportBundle_eq {a : Block 32} {b : CacheeArchiveBundle}
    (hget : store.get json none a = .ok (some b)) :
  store.exportBundle json none a = .ok (b.serialize json)
  := by
  rw [exportBundle, hget]
  rfl

/-- A retrieved bundle has been deserialized from the bytes held under its address. -/
theorem get_eq_some_iff {a : Block 32} {b : CacheeArchiveBundle} :
  store.get json none a = .ok (some b) ↔
    ∃ bytes, store.db[a.1]? = some bytes ∧
      CacheeArchiveBundle.deserialize json bytes = .ok b
  := by
  constructor
  · intro h
    cases hheld : store.db[a.1]? with
    | none =>
      rw [get_eq_none hheld] at h
      cases h
    | some bytes =>
      simp only [get, hheld] at h
      cases hread : CacheeArchiveBundle.deserialize json bytes with
      | error e =>
        rw [hread] at h
        cases e <;> cases h
      | ok b' =>
        rw [hread] at h
        obtain rfl := Option.some.inj (Except.ok.inj h)
        exact ⟨bytes, rfl, hread⟩
  · rintro ⟨bytes, hheld, hread⟩
    apply get_eq hheld hread

/-- No address is listed twice. -/
theorem nodup_addresses (store : ContentStore) :
  store.addresses.Nodup
  := by
  apply List.Nodup.filterMap _ store.db.nodup_keys
  intro key key' a hkey hkey'
  rw [Option.mem_def, Block.ofBytes?_eq_some_iff] at hkey hkey'
  rw [hkey, hkey']

/-- The listed addresses are those under which something is held. -/
theorem mem_addresses_iff {a : Block 32} :
  a ∈ store.addresses ↔ ∃ bytes, store.db[a.1]? = some bytes
  := by
  rw [addresses, List.mem_filterMap]
  simp only [Block.ofBytes?_eq_some_iff, exists_eq_right, Std.ExtTreeMap.mem_keys, Std.ExtTreeMap.mem_iff_isSome_getElem?,
    Option.isSome_iff_exists]

theorem fileName_injective :
  Function.Injective fileName
  := by
  intro key key' h
  apply hexEncode_injective
  apply (String.append_left_inj ".cab").mp h

/-- The file of a held key has the held bytes, and no others. -/
theorem mem_exportAll_iff {key bytes bytes' : Bytes} (hheld : store.db[key]? = some bytes) :
  (fileName key, bytes') ∈ store.exportAll ↔ bytes' = bytes
  := by
  rw [exportAll, List.mem_map]
  constructor
  · rintro ⟨⟨key', value⟩, hmem, heq⟩
    obtain ⟨hname, rfl⟩ := Prod.mk.inj heq
    rw [fileName_injective hname, Std.ExtTreeMap.mem_toList_iff_getElem?_eq_some, hheld] at hmem
    apply (Option.some.inj hmem).symm
  · rintro rfl
    use (key, bytes')
    constructor
    · apply Std.ExtTreeMap.mem_toList_iff_getElem?_eq_some.mpr hheld
    · rfl

end ContentStore

/-! ### The round trip -/

namespace CacheeArchiveBundle

/-- Reading back a bundle changes no byte of its serialization. -/
theorem serialize_withNamedType (json : JsonCodec SignerIdentity) (b : CacheeArchiveBundle) :
  b.withNamedType.serialize json = b.serialize json
  := by
  simp [serialize, withNamedType]

/-- A bundle whose sections and identity fit is deserialized from its serialization in every
field, except that a custom computation type with the discriminant of a named one comes back
as that one; the result has the same serialization.  A store that holds the serialization
under an address, as after storing the bundle, exports the same bytes in both ways. -/
theorem deserialize_serialize
    {json : JsonCodec SignerIdentity} {b : CacheeArchiveBundle}
    (hempty : ∀ identity, json.fromSlice [] ≠ .ok identity)
    (hjson : json.RoundTripsAt b.signerIdentity) (hmagic : b.magic = cabMagic)
    (hb : b.SectionsFit) (hidentity : (json.toVecOrDefault b.signerIdentity).length < 2 ^ 32) :
  (∀ t : ComputationType, t.IsNamed → b.computationType = .custom t.toU16 →
    deserialize json (b.serialize json) = .ok { b with computationType := t }) ∧
  ((∀ t : ComputationType, t.IsNamed → b.computationType ≠ .custom t.toU16) →
    deserialize json (b.serialize json) = .ok b) ∧
  (∀ b', deserialize json (b.serialize json) = .ok b' →
    b'.serialize json = b.serialize json) ∧
  (∀ (store : ContentStore) (a : Block 32), store.db[a.1]? = some (b.serialize json) →
    store.exportBundle json none a = .ok (b.serialize json) ∧
    ∀ bytes, (ContentStore.fileName a.1, bytes) ∈ store.exportAll ↔
      bytes = b.serialize json) ∧
  ∀ (sha3 : Bytes → Block 32) (store : ContentStore),
    (store.put sha3 json none b).1.db[(b.contentAddress sha3).1]? = some (b.serialize json)
  := by
  have hread := deserialize_serialize_eq hempty hjson hmagic hb hidentity
  refine ⟨?_, ?_, ?_, ?_, ?_⟩
  · intro t ht heq
    rw [hread, withNamedType, heq, ComputationType.toU16_custom, ComputationType.fromU16_toU16 ht]
  · intro halias
    rw [hread, withNamedType, ComputationType.fromU16_toU16_of_not_alias halias]
  · intro b' hb'
    rw [hread] at hb'
    obtain rfl := Except.ok.inj hb'
    apply serialize_withNamedType
  · intro store a hheld
    constructor
    · rw [ContentStore.exportBundle_eq (ContentStore.get_eq hheld hread),
        serialize_withNamedType]
    · intro bytes
      apply ContentStore.mem_exportAll_iff hheld
  · intro sha3 store
    apply ContentStore.getElem?_put

/-- The blank bundle of custom type 3 is read back as a bundle of the type named by 3. -/
theorem deserialize_serialize_blank :
  deserialize SignerIdentity.defaultCodec
      ({ blank with computationType := .custom 3 }.serialize SignerIdentity.defaultCodec)
    = .ok { blank with computationType := .supplyChainVerify }
  := by
  have hne : ([] : Bytes) ≠ asBytes SignerIdentity.defaultJson := by decide +kernel
  have h := deserialize_serialize (b := { blank with computationType := .custom 3 })
    (JsonCodec.fromSlice_only_ne hne) (JsonCodec.roundTripsAt_only _ _) rfl
    ⟨by decide, by decide, by decide, by decide, by decide, by decide, by decide,
      ComputationFingerprint.fits_empty⟩
    (by decide +kernel)
  apply h.1 .supplyChainVerify (by rintro v ⟨⟩) rfl

end CacheeArchiveBundle

end Cachee
