import Cachee.ContentStore.History
import Cachee.Library.Run

/-!
# The count of a content store

A content store keeps a count beside its database.  Opening counts the keys of the database, and
every bundle that is stored with success is counted once more.  So the count is the number of
addresses as long as no bundle is stored twice under one address, and no new bundle is inserted by
a failing call; the store that is opened again counts right again.
-/

open Text

namespace Cachee

/-- All keys of a database are content addresses. -/
def AllAddresses (db : Database) : Prop := ∀ key ∈ db, key.length = 32

namespace ContentStore

variable {sha3 : Bytes → Block 32} {json : JsonCodec SignerIdentity} {store : ContentStore}
  {db : Database} {a : Block 32} {bytes : Bytes}

/-- The count is the number of addresses in the database. -/
def CountsExactly (store : ContentStore) : Prop := store.len.toNat = store.addresses.length

/-- When an event leaves the count exact: a bundle that is stored has a new address, for which
the count has room; a bundle that is inserted without being flushed has an old one. -/
def KeepsCount (sha3 : Bytes → Block 32) (store : ContentStore) : StoreEvent → Prop
  | .put (some (.insert _)) _ => True
  | .put (some (.flush _)) bundle => bundle.contentAddress sha3 ∈ store.addresses
  | .put none bundle =>
    bundle.contentAddress sha3 ∉ store.addresses ∧ store.addresses.length + 1 < 2 ^ 64
  | .reopen => True

/-! ### The number of addresses -/

/-- In a database of addresses, every key is listed. -/
theorem length_addresses (h : AllAddresses store.db) :
  store.addresses.length = store.db.size
  := by
  rw [addresses, List.filterMap_length_eq_length.mpr, Std.ExtTreeMap.length_keys]
  intro key hkey
  rw [Block.ofBytes?, dif_pos (h key (Std.ExtTreeMap.mem_keys.mp hkey))]
  rfl

/-- An address is listed when it is a key. -/
theorem mem_addresses_iff_mem_db :
  a ∈ store.addresses ↔ a.1 ∈ store.db
  := by
  rw [mem_addresses_iff, Std.ExtTreeMap.mem_iff_isSome_getElem?, Option.isSome_iff_exists]

theorem allAddresses_insert (h : AllAddresses db) (a : Block 32) (bytes : Bytes) :
  AllAddresses (db.insert a.1 bytes)
  := by
  intro key hkey
  rw [Std.ExtTreeMap.mem_insert, Std.LawfulEqCmp.compare_eq_iff_eq] at hkey
  rcases hkey with rfl | hkey
  · apply a.2
  · apply h key hkey

/-- The keys of a store remain addresses. -/
theorem allAddresses_perform (sha3 : Bytes → Block 32) (json : JsonCodec SignerIdentity)
    (h : AllAddresses store.db) (e : StoreEvent) :
  AllAddresses (store.perform sha3 json e).db
  := by
  rw [perform_db]
  cases e.written with
  | none => apply h
  | some b => apply allAddresses_insert h

/-- An insertion adds an address unless it is there. -/
theorem length_addresses_insert (h : AllAddresses store.db) (count : UInt64) :
  ({ db := store.db.insert a.1 bytes, count } : ContentStore).addresses.length
    = if a ∈ store.addresses then store.addresses.length else store.addresses.length + 1
  := by
  rw [length_addresses (allAddresses_insert h a bytes), length_addresses h,
    Std.ExtTreeMap.size_insert]
  simp only [mem_addresses_iff_mem_db, Std.ExtTreeMap.contains_iff_mem]

/-! ### The count -/

/-- The store opened on a database of addresses counts exactly when there are fewer than
`2 ^ 64`. -/
theorem countsExactly_openDb_iff (h : AllAddresses db) :
  (openDb db).CountsExactly ↔ db.size < 2 ^ 64
  := by
  have hlength : (openDb db).addresses.length = db.size := length_addresses h
  rw [CountsExactly, hlength, len, openDb, UInt64.toNat_ofNat']
  omega

/-- A store that counts exactly is empty when it has no addresses. -/
theorem isEmpty_iff (hexact : store.CountsExactly) :
  store.isEmpty ↔ store.addresses = []
  := by
  rw [isEmpty, beq_iff_eq, ← UInt64.toNat_inj, hexact, ← List.length_eq_zero_iff]
  rfl

/-- A bundle that is stored keeps an exact count when its address is new and the count has room
for it. -/
theorem countsExactly_put_iff (sha3 : Bytes → Block 32) (json : JsonCodec SignerIdentity)
    (h : AllAddresses store.db) (hexact : store.CountsExactly) (b : CacheeArchiveBundle) :
  (store.put sha3 json none b).1.CountsExactly ↔
    b.contentAddress sha3 ∉ store.addresses ∧ store.addresses.length + 1 < 2 ^ 64
  := by
  have hbound := store.count.toNat_lt
  have hone : (1 : UInt64).toNat = 1 := rfl
  rw [CountsExactly, len] at hexact
  rw [CountsExactly, put, length_addresses_insert h, len, UInt64.toNat_add, hexact]
  by_cases hmem : b.contentAddress sha3 ∈ store.addresses
  · -- The count goes up, but the addresses stay.
    rw [if_pos hmem]
    apply iff_of_false
    · omega
    · intro hkeeps
      apply hkeeps.1 hmem
  · rw [if_neg hmem]
    constructor
    · intro hcount
      use hmem
      omega
    · rintro ⟨-, hroom⟩
      omega

/-- A bundle that is inserted, but not flushed, keeps an exact count when its address is old. -/
theorem countsExactly_put_flush_iff (sha3 : Bytes → Block 32) (json : JsonCodec SignerIdentity)
    (h : AllAddresses store.db) (hexact : store.CountsExactly) (e : String)
    (b : CacheeArchiveBundle) :
  (store.put sha3 json (some (.flush e)) b).1.CountsExactly ↔
    b.contentAddress sha3 ∈ store.addresses
  := by
  rw [CountsExactly, len] at hexact
  rw [CountsExactly, put, length_addresses_insert h, len, hexact]
  by_cases hmem : b.contentAddress sha3 ∈ store.addresses
  · rw [if_pos hmem]
    apply iff_of_true rfl hmem
  · -- A new address that is not counted.
    rw [if_neg hmem]
    apply iff_of_false _ hmem
    omega

/-- One event keeps an exact count exactly when it meets the condition. -/
theorem countsExactly_perform_iff (sha3 : Bytes → Block 32) (json : JsonCodec SignerIdentity)
    (h : AllAddresses store.db) (hexact : store.CountsExactly) (e : StoreEvent) :
  (store.perform sha3 json e).CountsExactly ↔ store.KeepsCount sha3 e
  := by
  cases e with
  | reopen =>
    apply iff_of_true _ trivial
    apply (countsExactly_openDb_iff h).mpr
    rw [← length_addresses h, ← hexact]
    apply store.count.toNat_lt
  | put fault bundle =>
    cases fault with
    | none => apply countsExactly_put_iff sha3 json h hexact
    | some fault =>
      cases fault with
      | insert e => apply iff_of_true hexact trivial
      | flush e => apply countsExactly_put_flush_iff sha3 json h hexact

/-- In every run from a database of addresses, the count is the number of addresses at every
point exactly when it has room for those of the database, every bundle that is stored has a new
address, for which there is room, and every bundle whose flush fails has an old one. -/
theorem countsExactly_iff (sha3 : Bytes → Block 32) (json : JsonCodec SignerIdentity)
    (hdb : AllAddresses db) (events : List StoreEvent) :
  (∀ before after, events = before ++ after →
      ((openDb db).performAll sha3 json before).CountsExactly) ↔
    db.size < 2 ^ 64 ∧ ∀ before e after, events = before ++ e :: after →
      ((openDb db).performAll sha3 json before).KeepsCount sha3 e
  := by
  rw [← countsExactly_openDb_iff hdb]
  apply forall_prefix_iff fun store => AllAddresses store.db
  · intro store e h
    apply allAddresses_perform sha3 json h
  · intro store e h hexact
    apply countsExactly_perform_iff sha3 json h hexact
  · apply hdb

/-! ### Blank bundles -/

theorem allAddresses_empty :
  AllAddresses ∅
  := by
  intro key hkey
  apply absurd hkey Std.ExtTreeMap.not_mem_empty

/-- The first bundle that is stored in an empty store is counted. -/
theorem keepsCount_put_empty (sha3 : Bytes → Block 32) (b : CacheeArchiveBundle) :
  (openDb ∅).KeepsCount sha3 (.put none b)
  := by
  have hlength : (openDb ∅).addresses.length = (∅ : Database).size :=
    length_addresses allAddresses_empty
  rw [Std.ExtTreeMap.size_empty] at hlength
  constructor
  · rw [List.length_eq_zero_iff.mp hlength]
    apply List.not_mem_nil
  · rw [hlength]
    decide

/-- A store that is opened again after a bundle was stored counts exactly. -/
theorem countsExactly_put_reopen :
  ((openDb ∅).performAll primeHash SignerIdentity.defaultCodec
    [.put none .blank, .reopen]).CountsExactly
  := by
  apply (countsExactly_iff primeHash SignerIdentity.defaultCodec allAddresses_empty _).mpr _
    _ [] (List.append_nil _).symm
  constructor
  · rw [Std.ExtTreeMap.size_empty]
    decide
  · intro before e after h
    rcases before with _ | ⟨e', before⟩
    · obtain ⟨rfl, -⟩ := List.cons.inj h
      apply keepsCount_put_empty
    · obtain ⟨-, h⟩ := List.cons.inj h
      rcases before with _ | ⟨e', before⟩
      · obtain ⟨rfl, -⟩ := List.cons.inj h
        trivial
      · simp at h

/-- A bundle that is stored twice is counted twice, and a bundle whose flush fails is not
counted. -/
theorem not_countsExactly_blank :
  ¬ ((openDb ∅).performAll primeHash SignerIdentity.defaultCodec
      [.put none .blank, .put none .blank]).CountsExactly ∧
    ¬ ((openDb ∅).performAll primeHash SignerIdentity.defaultCodec
      [.put (some (.flush "disk full")) .blank]).CountsExactly
  := by
  have hempty : (openDb ∅).CountsExactly := by
    apply (countsExactly_openDb_iff allAddresses_empty).mpr
    rw [Std.ExtTreeMap.size_empty]
    decide
  have hput := keepsCount_put_empty primeHash .blank
  have hiff := countsExactly_perform_iff primeHash SignerIdentity.defaultCodec
    allAddresses_empty hempty
  constructor
  · have hopen : AllAddresses (openDb ∅).db := allAddresses_empty
    have hkeys := allAddresses_perform primeHash SignerIdentity.defaultCodec hopen
      (.put none .blank)
    intro htwice
    have hagain := (countsExactly_perform_iff primeHash SignerIdentity.defaultCodec hkeys
      ((hiff (.put none .blank)).mpr hput) (.put none .blank)).mp htwice
    apply hagain.1
    rw [mem_addresses_iff]
    exact ⟨_, getElem?_put _⟩
  · intro hflush
    apply hput.1
    apply (hiff (.put (some (.flush "disk full")) .blank)).mp hflush

end ContentStore

end Cachee
