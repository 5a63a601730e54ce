import Cachee.Archive.Decodable
import Cachee.ContentStore
import Cachee.Crypto

/-!
# The history of a content store

What a content store holds under an address is the bundle that was last stored there.  So the
store is a map from addresses to bundles, in which an address belongs to the bundle it returns.
It is not immutable: an address covers the primitive, the content hash and the fingerprint
only, and a later bundle of the same address replaces the earlier one.
-/

open Text

namespace Cachee

/-- What happens to a content store: a bundle is stored, or the store is opened again. -/
inductive StoreEvent where
  | put (fault : Option WriteFault) (bundle : CacheeArchiveBundle)
  | reopen

/-- The bundle that an event writes to the database. -/
def StoreEvent.written : StoreEvent → Option CacheeArchiveBundle
  | put (some (.insert _)) _ => none
  | put (some (.flush _)) bundle => some bundle
  | put none bundle => some bundle
  | reopen => none

/-- The bundle of the address `a` that was written last. -/
def lastWritten (sha3 : Bytes → Block 32) (events : List StoreEvent) (a : Block 32) :
    Option CacheeArchiveBundle :=
  ((events.filterMap StoreEvent.written).filter fun b => b.contentAddress sha3 = a).getLast?

namespace ContentStore

/-- The content store after an event. -/
def perform (sha3 : Bytes → Block 32) (json : JsonCodec SignerIdentity) (store : ContentStore) :
    StoreEvent → ContentStore
  | .put fault bundle => (store.put sha3 json fault bundle).1
  | .reopen => openDb store.db

/-- The content store after some events. -/
def performAll (sha3 : Bytes → Block 32) (json : JsonCodec SignerIdentity)
    (store : ContentStore) (events : List StoreEvent) : ContentStore :=
  events.foldl (perform sha3 json) store

variable {sha3 : Bytes → Block 32} {json : JsonCodec SignerIdentity} {store : ContentStore}
  {a : Block 32} {b : CacheeArchiveBundle} {events : List StoreEvent}

/-! ### What is held -/

theorem perform_db (e : StoreEvent) :
  (store.perform sha3 json e).db =
    match e.written with
    | some b => store.db.insert (b.contentAddress sha3).1 (b.serialize json)
    | none => store.db
  := by
  cases e with
  | put fault bundle =>
    cases fault with
    | none => rfl
    | some fault =>
      cases fault with
      | insert _ => rfl
      | flush _ => rfl
  | reopen => rfl

theorem lastWritten_append (es es' : List StoreEvent) :
  lastWritten sha3 (es ++ es') a = (lastWritten sha3 es' a).or (lastWritten sha3 es a)
  := by
  rw [lastWritten, List.filterMap_append, List.filter_append, List.getLast?_append]
  rfl

/-- The bundle that the last event writes was written last. -/
theorem lastWritten_concat {e : StoreEvent} (es : List StoreEvent) (hwritten : e.written = some b)
    (haddress : b.contentAddress sha3 = a) :
  lastWritten sha3 (es ++ [e]) a = some b
  := by
  rw [lastWritten_append, lastWritten]
  simp [hwritten, haddress]

/-- What one event holds under an address: the bundle it writes, or what was held before. -/
theorem getElem?_perform (e : StoreEvent) :
  (store.perform sha3 json e).db[a.1]? =
    ((lastWritten sha3 [e] a).map fun b => b.serialize json).or store.db[a.1]?
  := by
  rw [perform_db, lastWritten]
  cases he : e.written with
  | none => simp [he]
  | some b =>
    simp only [Std.ExtTreeMap.getElem?_insert, Std.LawfulEqCmp.compare_eq_iff_eq]
    by_cases hb : b.contentAddress sha3 = a
    · simp [he, hb]
    · have hne : (b.contentAddress sha3).1 ≠ a.1 := fun h => hb (Subtype.ext h)
      simp [he, hb, hne]

/-- What is held under an address after some events: the bundle of that address that was
written last, or what was held before. -/
theorem getElem?_performAll (store : ContentStore) (events : List StoreEvent) :
  (store.performAll sha3 json events).db[a.1]? =
    ((lastWritten sha3 events a).map fun b => b.serialize json).or store.db[a.1]?
  := by
  induction events using List.reverseRecOn with
  | nil => rfl
  | append_singleton es e ih =>
    rw [performAll, List.foldl_concat]
    change ((performAll sha3 json store es).perform sha3 json e).db[a.1]? = _
    rw [getElem?_perform, ih, lastWritten_append, Option.map_or, Option.or_assoc]

/-! ### What is retrieved -/

/-- What is retrieved depends on what is held under the address. -/
theorem get_congr {store' : ContentStore} (h : store'.db[a.1]? = store.db[a.1]?) :
  store'.get json none a = store.get json none a
  := by
  simp only [get, h]

/-- Under an address to which no bundle was written, the same is retrieved as before. -/
theorem get_performAll_of_none (hlast : lastWritten sha3 events a = none) :
  (store.performAll sha3 json events).get json none a = store.get json none a
  := by
  apply get_congr
  rw [getElem?_performAll, hlast]
  rfl

/-- Under any other address, the bundle that was written last is read back. -/
theorem get_performAll_of_some {b' : CacheeArchiveBundle}
    (hlast : lastWritten sha3 events a = some b') :
  (store.performAll sha3 json events).get json none a = .ok (some b) ↔
    CacheeArchiveBundle.deserialize json (b'.serialize json) = .ok b
  := by
  rw [get_eq_some_iff, getElem?_performAll, hlast]
  simp

/-- The bundle of an address that was written last is one of the bundles of that address that
were written. -/
theorem mem_of_lastWritten (hlast : lastWritten sha3 events a = some b) :
  b ∈ events.filterMap StoreEvent.written ∧ b.contentAddress sha3 = a
  := by
  have hmem := List.mem_of_getLast? hlast
  rw [List.mem_filter, decide_eq_true_eq] at hmem
  apply hmem

/-- No bundle of an address was written last when none was written. -/
theorem lastWritten_eq_none_iff :
  lastWritten sha3 events a = none ↔
    ∀ b ∈ events.filterMap StoreEvent.written, b.contentAddress sha3 ≠ a
  := by
  rw [lastWritten, List.getLast?_eq_none_iff, List.filter_eq_nil_iff]
  simp only [decide_eq_true_eq]

end ContentStore

/-- A bundle that is read back from its serialization: it has the right magic bytes, its
sections and its identity fit their length prefixes, and the identity is read back from its
JSON text. -/
structure CacheeArchiveBundle.Encodes (json : JsonCodec SignerIdentity)
    (b : CacheeArchiveBundle) : Prop where
  magic : b.magic = cabMagic
  sectionsFit : b.SectionsFit
  roundTrips : json.RoundTripsAt b.signerIdentity
  identityFits : (json.toVecOrDefault b.signerIdentity).length < 2 ^ 32

theorem CacheeArchiveBundle.Encodes.readsBack {json : JsonCodec SignerIdentity}
    {b : CacheeArchiveBundle} (h : b.Encodes json)
    (hempty : ∀ identity, json.fromSlice [] ≠ .ok identity) :
  CacheeArchiveBundle.deserialize json (b.serialize json) = .ok b.withNamedType
  := by
  apply deserialize_serialize_eq hempty h.roundTrips h.magic h.sectionsFit h.identityFits

namespace ContentStore

variable {sha3 : Bytes → Block 32} {json : JsonCodec SignerIdentity} {store : ContentStore}
  {a : Block 32} {b : CacheeArchiveBundle} {events : List StoreEvent}

/-! ### A map of bundles -/

/-- The successful events of a store: bundles that are read back are stored without a fault,
and the store is opened again. -/
def Successful (json : JsonCodec SignerIdentity) (events : List StoreEvent) : Prop :=
  ∀ e ∈ events, e = .reopen ∨ ∃ b, b.Encodes json ∧ e = .put none b

/-- The bundles that are written by successful events are those that are put. -/
theorem mem_written_iff (hevents : Successful json events) :
  b ∈ events.filterMap StoreEvent.written ↔ .put none b ∈ events
  := by
  rw [List.mem_filterMap]
  constructor
  · rintro ⟨e, he, hwritten⟩
    obtain rfl | ⟨b', -, rfl⟩ := hevents e he
    · cases hwritten
    · obtain rfl := Option.some.inj hwritten
      apply he
  · intro h
    exact ⟨_, h, rfl⟩

theorem Successful.encodes (hevents : Successful json events) (h : .put none b ∈ events) :
  b.Encodes json
  := by
  obtain heq | ⟨b', hb', heq⟩ := hevents _ h
  · cases heq
  · obtain ⟨-, rfl⟩ := StoreEvent.put.inj heq
    apply hb'

theorem existsBundle_iff :
  store.existsBundle none a ↔ ∃ bytes, store.db[a.1]? = some bytes
  := by
  rw [existsBundle, Std.ExtTreeMap.contains_iff_mem, Std.ExtTreeMap.mem_iff_isSome_getElem?,
    Option.isSome_iff_exists]

/-- After successful events, the store that was created empty is a map: under every address it
returns the last bundle of that address that was put, up to its computation type, and nothing
when there was none.  A returned bundle has the address it is returned under, the address
exists exactly then, and the addresses are listed once each. -/
theorem get_performAll_empty (sha3 : Bytes → Block 32)
    (hempty : ∀ identity, json.fromSlice [] ≠ .ok identity)
    (hevents : Successful json events) (a : Block 32) :
  let store := (openDb ∅).performAll sha3 json events
  store.get json none a
      = .ok ((lastWritten sha3 events a).map CacheeArchiveBundle.withNamedType) ∧
    (∀ b, store.get json none a = .ok (some b) → b.contentAddress sha3 = a) ∧
    (store.existsBundle none a ↔ ∃ b, store.get json none a = .ok (some b)) ∧
    store.addresses.Nodup ∧
    (a ∈ store.addresses ↔ ∃ b, .put none b ∈ events ∧ b.contentAddress sha3 = a)
  := by
  dsimp only
  have hheld : ((openDb ∅).performAll sha3 json events).db[a.1]?
      = ((lastWritten sha3 events a).map fun b => b.serialize json).or (openDb ∅).db[a.1]? :=
    getElem?_performAll (openDb ∅) events
  have hnone : (openDb ∅).db[a.1]? = none := Std.ExtTreeMap.getElem?_empty
  have hwritten : ∀ b, .put none b ∈ events ↔ b ∈ events.filterMap StoreEvent.written :=
    fun b => (mem_written_iff hevents).symm
  simp only [existsBundle_iff, mem_addresses_iff, hwritten]
  cases hlast : lastWritten sha3 events a with
  | none =>
    rw [hlast, hnone] at hheld
    have hput := lastWritten_eq_none_iff.mp hlast
    have hget : ((openDb ∅).performAll sha3 json events).get json none a = .ok none :=
      get_eq_none hheld
    refine ⟨hget, ?_, ?_, nodup_addresses _, ?_⟩
    · intro b hb
      rw [hget] at hb
      cases hb
    · rw [hheld, hget]
      simp
    · rw [hheld]
      constructor
      · rintro ⟨bytes, hbytes⟩
        cases hbytes
      · rintro ⟨b, hb, haddress⟩
        apply absurd haddress (hput b hb)
  | some b =>
    rw [hlast] at hheld
    obtain ⟨hb, haddress⟩ := mem_of_lastWritten hlast
    have hread := (hevents.encodes ((hwritten b).mpr hb)).readsBack hempty
    have hget := get_eq hheld hread
    refine ⟨hget, ?_, ?_, nodup_addresses _, ?_⟩
    · intro b' hb'
      rw [hget] at hb'
      obtain rfl := Option.some.inj (Except.ok.inj hb')
      apply haddress
    · constructor
      · intro _
        exact ⟨_, hget⟩
      · intro _
        exact ⟨_, hheld⟩
    · constructor
      · intro _
        exact ⟨b, hb, haddress⟩
      · intro _
        exact ⟨_, hheld⟩

/-- A blank bundle with an ML-DSA-65 signature. -/
def signedBlank (signature : Bytes) : CacheeArchiveBundle :=
  { CacheeArchiveBundle.blank with signatures := ⟨signature, [], []⟩ }

theorem fromSlice_nil_defaultCodec (identity : SignerIdentity) :
  SignerIdentity.defaultCodec.fromSlice [] ≠ .ok identity
  := by
  have hne : ([] : Bytes) ≠ asBytes SignerIdentity.defaultJson := by decide +kernel
  apply JsonCodec.fromSlice_only_ne hne

theorem encodes_signedBlank {signature : Bytes} (h : signature.length < 2 ^ 16) :
  (signedBlank signature).Encodes SignerIdentity.defaultCodec
  := by
  have hnil : ([] : Bytes).length < 2 ^ 16 := by decide
  have hidentity : (SignerIdentity.defaultCodec.toVecOrDefault .default).length < 2 ^ 32 := by
    decide +kernel
  constructor
  · rfl
  · exact ⟨hnil, hnil, hnil, h, hnil, hnil, hnil.trans (by decide),
      ComputationFingerprint.fits_empty⟩
  · apply JsonCodec.roundTripsAt_only
  · apply hidentity

/-- Blank bundles that are signed differently have the same address. -/
theorem lastWritten_signedBlank (sha3 : Bytes → Block 32) (signature : Bytes)
    (before : List StoreEvent) :
  lastWritten sha3 (before ++ [.put none (signedBlank signature)])
      (CacheeArchiveBundle.blank.contentAddress sha3) = some (signedBlank signature)
  := by
  apply lastWritten_concat
  · rfl
  · rfl

/-- A store that is opened again between two bundles of one address returns the second. -/
theorem get_performAll_empty_signedBlank :
  ((openDb ∅).performAll primeHash SignerIdentity.defaultCodec
      [.put none (signedBlank [1]), .reopen, .put none (signedBlank [2])]).get
    SignerIdentity.defaultCodec none (CacheeArchiveBundle.blank.contentAddress primeHash)
    = .ok (some (signedBlank [2]))
  := by
  have hevents : Successful SignerIdentity.defaultCodec
      ([.put none (signedBlank [1]), .reopen] ++ [.put none (signedBlank [2])]) := by
    intro e he
    obtain rfl | rfl | rfl : e = _ ∨ e = _ ∨ e = _ := by simpa using he
    · exact Or.inr ⟨_, encodes_signedBlank (by decide), rfl⟩
    · exact Or.inl rfl
    · exact Or.inr ⟨_, encodes_signedBlank (by decide), rfl⟩
  have h := (get_performAll_empty primeHash fromSlice_nil_defaultCodec hevents
    (CacheeArchiveBundle.blank.contentAddress primeHash)).1
  rw [lastWritten_signedBlank] at h
  apply h

/-! ### Immutability -/

/-- After each of the events, the bundle `b` is retrieved from the address `a`. -/
def KeepsRetrieving (sha3 : Bytes → Block 32) (json : JsonCodec SignerIdentity)
    (store : ContentStore) (a : Block 32) (b : CacheeArchiveBundle) (events : List StoreEvent) :
    Prop :=
  ∀ before after, events = before ++ after →
    (store.performAll sha3 json before).get json none a = .ok (some b)

/-- The bundle `b` is retrieved after all events exactly when the bundles that they write under the
address are read back as it. -/
theorem keepsRetrieving_iff (hget : store.get json none a = .ok (some b))
    (events : List StoreEvent) :
  KeepsRetrieving sha3 json store a b events ↔
    ∀ b' ∈ events.filterMap StoreEvent.written, b'.contentAddress sha3 = a →
      CacheeArchiveBundle.deserialize json (b'.serialize json) = .ok b
  := by
  constructor
  · intro h b' hb' haddress
    obtain ⟨e, he, hwritten⟩ := List.mem_filterMap.mp hb'
    obtain ⟨before, after, rfl⟩ := List.append_of_mem he
    have hlast := lastWritten_concat before hwritten haddress
    rw [← get_performAll_of_some hlast]
    apply h _ after
    simp
  · rintro h before after rfl
    cases hlast : lastWritten sha3 before a with
    | none =>
      rw [get_performAll_of_none hlast, hget]
    | some b' =>
      obtain ⟨hb', haddress⟩ := mem_of_lastWritten hlast
      rw [get_performAll_of_some hlast]
      apply h b' _ haddress
      rw [List.filterMap_append]
      apply List.mem_append_left _ hb'

/-- Bundles that are equal up to their computation type have the same serialization. -/
theorem serialize_congr {b' : CacheeArchiveBundle} (h : b'.withNamedType = b.withNamedType) :
  b'.serialize json = b.serialize json
  := by
  rw [← CacheeArchiveBundle.serialize_withNamedType json b', h,
    CacheeArchiveBundle.serialize_withNamedType]

/-- Of any lengths with too long a key, signature or metadata, a bundle of the address replaces the
one that is retrieved. -/
theorem exists_not_keepsRetrieving {b₀ : CacheeArchiveBundle}
    (haddress : b₀.contentAddress sha3 = a) (hget : store.get json none a = .ok (some b))
    {ℓ : PrefixedField → ℕ} (hlong : ∃ f ∈ PrefixedField.byteSections, f.limit ≤ ℓ f) :
  ∃ b' : CacheeArchiveBundle, b'.contentAddress sha3 = a ∧
    (∀ f ∈ PrefixedField.byteSections, f.lengthIn b' = ℓ f) ∧
    ¬ KeepsRetrieving sha3 json store a b [.put none b']
  := by
  obtain ⟨pre, f, post, hsplit, hpre, hf⟩ := CacheeArchiveBundle.exists_first_overlong hlong
  refine ⟨b₀.withContents fun f => List.replicate (ℓ f) 0, haddress, ?_, ?_⟩
  · intro g hg
    rw [PrefixedField.lengthIn, CacheeArchiveBundle.contentIn_withContents hg]
    apply List.length_replicate
  · rw [keepsRetrieving_iff hget]
    intro hkeeps
    have hread := hkeeps _ (List.mem_singleton_self _) haddress
    apply CacheeArchiveBundle.deserialize_ne_ok_of_zeros hsplit hpre hf b₀ b hread

/-- After the bundle `b₀` was stored last under an address, and `b` was retrieved from it, `b` is
retrieved after all later events if each bundle that they write under the address is `b₀` again,
or a bundle that fits and is `b`, up to its computation type.  If all that they write there fit,
`b` is retrieved exactly when each of them is `b`: another bundle of the address, with other keys,
signatures, metadata or signer, replaces it.  Of any lengths with too long a key, signature or
metadata, there is a bundle of the address that replaces it. -/
theorem get_immutable_iff (sha3 : Bytes → Block 32)
    (hempty : ∀ identity, json.fromSlice [] ≠ .ok identity) {earlier : List StoreEvent}
    {b₀ : CacheeArchiveBundle} (hlast : lastWritten sha3 earlier a = some b₀)
    (hget : (store.performAll sha3 json earlier).get json none a = .ok (some b)) :
  (∀ later : List StoreEvent,
    ((∀ b' ∈ later.filterMap StoreEvent.written, b'.contentAddress sha3 = a →
        b'.withNamedType = b₀.withNamedType ∨ b'.Encodes json ∧ b'.withNamedType = b) →
      KeepsRetrieving sha3 json (store.performAll sha3 json earlier) a b later) ∧
    ((∀ b' ∈ later.filterMap StoreEvent.written, b'.contentAddress sha3 = a → b'.Encodes json) →
      (KeepsRetrieving sha3 json (store.performAll sha3 json earlier) a b later ↔
        ∀ b' ∈ later.filterMap StoreEvent.written, b'.contentAddress sha3 = a →
          b'.withNamedType = b))) ∧
  ∀ ℓ : PrefixedField → ℕ, (∃ f ∈ PrefixedField.byteSections, f.limit ≤ ℓ f) →
    ∃ b' : CacheeArchiveBundle, b'.contentAddress sha3 = a ∧
      (∀ f ∈ PrefixedField.byteSections, f.lengthIn b' = ℓ f) ∧
      ¬ KeepsRetrieving sha3 json (store.performAll sha3 json earlier) a b [.put none b']
  := by
  obtain ⟨-, haddress⟩ := mem_of_lastWritten hlast
  refine ⟨?_, fun ℓ hlong => exists_not_keepsRetrieving haddress hget hlong⟩
  intro later
  rw [keepsRetrieving_iff hget]
  constructor
  · intro h b' hb' haddress
    rcases h b' hb' haddress with hsame | ⟨hencodes, rfl⟩
    · rw [serialize_congr hsame]
      apply (get_performAll_of_some hlast).mp hget
    · apply hencodes.readsBack hempty
  · intro hencodes
    apply forall₃_congr
    intro b' hb' haddress
    rw [(hencodes b' hb' haddress).readsBack hempty, Except.ok.injEq]

/-- A bundle that is signed by `1` is retrieved after it was stored, and no longer after a
bundle without signatures was stored under the same address. -/
theorem get_signedBlank_replaced :
  let store (events : List StoreEvent) :=
    (openDb ∅).performAll primeHash SignerIdentity.defaultCodec events
  let a := CacheeArchiveBundle.blank.contentAddress primeHash
  (store [.put none (signedBlank [1])]).get SignerIdentity.defaultCodec none a
      = .ok (some (signedBlank [1])) ∧
    (store [.put none (signedBlank [1]), .put none (signedBlank [])]).get
        SignerIdentity.defaultCodec none a = .ok (some (signedBlank [])) ∧
    signedBlank [] ≠ signedBlank [1]
  := by
  dsimp only
  refine ⟨?_, ?_, by decide⟩
  · apply (get_performAll_of_some (lastWritten_signedBlank primeHash [1] [])).mpr
    apply (encodes_signedBlank (by decide)).readsBack fromSlice_nil_defaultCodec
  · apply (get_performAll_of_some (lastWritten_signedBlank primeHash [] [_])).mpr
    apply (encodes_signedBlank (by decide)).readsBack fromSlice_nil_defaultCodec

/-- The bundle is still retrieved when it is stored once more. -/
theorem get_signedBlank_again :
  let store := (openDb ∅).performAll primeHash SignerIdentity.defaultCodec
    [.put none (signedBlank [1])]
  (store.performAll primeHash SignerIdentity.defaultCodec
      [.reopen, .put none (signedBlank [1])]).get SignerIdentity.defaultCodec none
      (CacheeArchiveBundle.blank.contentAddress primeHash)
    = .ok (some (signedBlank [1]))
  := by
  dsimp only
  have hencodes : (signedBlank [1]).Encodes SignerIdentity.defaultCodec :=
    encodes_signedBlank (by decide)
  have hread := hencodes.readsBack fromSlice_nil_defaultCodec
  have hlast := lastWritten_signedBlank primeHash [1] []
  have hget := (@get_performAll_of_some _ _ (openDb ∅) _ _ _ _ hlast).mpr hread
  apply ((get_immutable_iff primeHash fromSlice_nil_defaultCodec hlast hget).1 _).1 _ _ []
    (List.append_nil _).symm
  simp only [List.filterMap_cons, StoreEvent.written, List.filterMap_nil, List.mem_singleton]
  rintro b' rfl -
  left
  rfl

end ContentStore

end Cachee
