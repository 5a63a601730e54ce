import Cachee.Archive.RoundTrip

/-!
# What the reader accepts

Each reader of the format consumes bytes that are laid out as the value it returns.  So a byte
string is deserialized to a bundle exactly when it is a layout of the bundle: the converse of
reading back what is written.
-/

open Text

namespace Cachee

/-! ### The fingerprint -/

namespace ComputationFingerprint

/-- Bytes that are read as a string are its encoding. -/
theorem asBytes_of_fromUtf8 {bs : Bytes} {s : String} (h : fromUtf8 bs = .ok s) :
  asBytes s = bs
  := by
  unfold fromUtf8 String.fromUTF8? at h
  split at h
  · rename_i s' hs'
    obtain rfl := Except.ok.inj h
    split at hs'
    · obtain rfl := Option.some.inj hs'
      rfl
    · cases hs'
  · cases h

theorem consumes_readHash :
  Consumes readHash fun hash seg => seg = hash.1
  := by
  intro bytes pos hash pos' h
  obtain ⟨seg, hslice, h⟩ := bind_eq_ok_iff.mp h
  obtain ⟨hash', hhash, h⟩ := bind_eq_ok_iff.mp h
  obtain ⟨rfl, rfl⟩ := Prod.mk.inj (Except.ok.inj h)
  exact ⟨seg, eq_of_tryIntoBlock hhash, (drop_of_slice hslice).2⟩

theorem consumes_readString (missing truncated : String) :
  Consumes (readString missing truncated) fun s seg => StringFits s ∧ seg = stringBytes s
  := by
  intro bytes pos s pos' h
  obtain ⟨-, h⟩ := bailIf_bind_eq_ok_iff.mp h
  obtain ⟨lenBytes, hlenBytes, h⟩ := bind_eq_ok_iff.mp h
  obtain ⟨-, h⟩ := bailIf_bind_eq_ok_iff.mp h
  obtain ⟨body, hbody, h⟩ := bind_eq_ok_iff.mp h
  obtain ⟨s', hs', h⟩ := bind_eq_ok_iff.mp h
  obtain ⟨rfl, rfl⟩ := Prod.mk.inj (Except.ok.inj h)
  obtain ⟨hlen, hdrop⟩ := drop_of_slice hlenBytes
  obtain ⟨hlen', hdrop'⟩ := drop_of_slice hbody
  obtain rfl := asBytes_of_fromUtf8 hs'
  have hlt := beNat_lt lenBytes
  have hbytes := beBytes_beNat lenBytes
  rw [hlen] at hlt hbytes
  refine ⟨stringBytes s', ⟨?_, rfl⟩, ?_⟩
  · rw [StringFits, hlen']
    exact hlt
  · rw [hdrop, hdrop', stringBytes, hlen', hbytes, List.append_assoc]

theorem consumes_readCircuitId :
  Consumes readCircuitId fun c seg => (∀ cid, c = some cid → StringFits cid) ∧
    ∃ flag : UInt8, (flag = 1 ↔ c.isSome) ∧ seg = flaggedBytes stringBytes flag c
  := by
  intro bytes pos c pos' h
  obtain ⟨-, h⟩ := bailIf_bind_eq_ok_iff.mp h
  obtain ⟨flag, hflag, h⟩ := bind_eq_ok_iff.mp h
  have hdrop := drop_of_index hflag
  dsimp only at h
  split at h
  · rename_i heq
    obtain ⟨cid, pos'', seg, ⟨hfits, rfl⟩, hdrop', h⟩ := (consumes_readString _ _).of_bind h
    obtain ⟨rfl, rfl⟩ := Prod.mk.inj (Except.ok.inj h)
    refine ⟨_, ⟨?_, flag, by simp [heq], rfl⟩, ?_⟩
    · rintro cid' ⟨⟩
      exact hfits
    · rw [hdrop, hdrop']
      rfl
  · rename_i hne
    obtain ⟨rfl, rfl⟩ := Prod.mk.inj (Except.ok.inj h)
    refine ⟨_, ⟨?_, flag, by simp [hne], rfl⟩, hdrop⟩
    rintro cid' ⟨⟩

theorem consumes_readHardwareClass :
  Consumes readHardwareClass fun c seg =>
    (∀ id, c = some (.nonDeterministic id) → StringFits id) ∧ seg = hardwareBytes c
  := by
  intro bytes pos c pos' h
  obtain ⟨-, h⟩ := bailIf_bind_eq_ok_iff.mp h
  obtain ⟨tag, htag, h⟩ := bind_eq_ok_iff.mp h
  have hdrop := drop_of_index htag
  dsimp only at h
  split at h
  · rename_i htag
    apply exists_segment_of_byte hdrop htag h
    exact ⟨by rintro id ⟨⟩, rfl⟩
  split at h
  · rename_i htag
    apply exists_segment_of_byte hdrop htag h
    exact ⟨by rintro id ⟨⟩, rfl⟩
  split at h
  · rename_i htag
    apply exists_segment_of_byte hdrop htag h
    exact ⟨by rintro id ⟨⟩, rfl⟩
  split at h
  · obtain ⟨id, pos'', seg, ⟨hfits, rfl⟩, hdrop', h⟩ := (consumes_readString _ _).of_bind h
    obtain ⟨rfl, rfl⟩ := Prod.mk.inj (Except.ok.inj h)
    subst tag
    refine ⟨3 :: stringBytes id, ⟨?_, rfl⟩, ?_⟩
    · rintro id' ⟨⟩
      exact hfits
    · rw [hdrop, hdrop']
      rfl
  · cases h

/-- A byte string that is read as a fingerprint starts with an encoding of it. -/
theorem bytesWith_of_fromBytes {bytes : Bytes} {f : ComputationFingerprint} {n : ℕ}
    (h : fromBytes bytes = .ok (f, n)) :
  f.Fits ∧ ∃ (circuitFlag : UInt8) (unread : Bytes),
    (circuitFlag = 1 ↔ f.version.circuitId.isSome) ∧
    bytes = f.bytesWith circuitFlag ++ unread
  := by
  unfold fromBytes at h
  dsimp only at h
  obtain ⟨-, h⟩ := bailIf_bind_eq_ok_iff.mp h
  obtain ⟨inputHash, _, _, rfl, h₁, h⟩ := consumes_readHash.of_bind h
  obtain ⟨computationHash, _, _, rfl, h₂, h⟩ := consumes_readHash.of_bind h
  obtain ⟨parameterHash, _, _, rfl, h₃, h⟩ := consumes_readHash.of_bind h
  obtain ⟨engine, _, _, ⟨hengine, rfl⟩, h₄, h⟩ := (consumes_readString _ _).of_bind h
  obtain ⟨version, _, _, ⟨hversion, rfl⟩, h₅, h⟩ := (consumes_readString _ _).of_bind h
  obtain ⟨circuitId, _, _, ⟨hcircuit, flag, hflag, rfl⟩, h₆, h⟩ :=
    consumes_readCircuitId.of_bind h
  obtain ⟨hardwareClass, pos, _, ⟨hhardware, rfl⟩, h₇, h⟩ := consumes_readHardwareClass.of_bind h
  obtain ⟨rfl, rfl⟩ := Prod.mk.inj (Except.ok.inj h)
  refine ⟨⟨hengine, hversion, hcircuit, hhardware⟩, flag, bytes.drop pos, hflag, ?_⟩
  apply (List.drop_zero (l := bytes)).symm.trans
  rw [h₁, h₂, h₃, h₄, h₅, h₆, h₇]
  simp only [bytesWith, List.append_assoc]

end ComputationFingerprint

/-! ### The sections of the format -/

theorem consumes_readBe (w : ℕ) :
  Consumes (readBe w) fun n seg => n < 256 ^ w ∧ seg = beBytes w n
  := by
  intro bytes pos n pos' h
  obtain ⟨-, h⟩ := bailIf_bind_eq_ok_iff.mp h
  obtain ⟨seg, hslice, h⟩ := bind_eq_ok_iff.mp h
  obtain ⟨rfl, rfl⟩ := Prod.mk.inj (Except.ok.inj h)
  obtain ⟨hlen, hdrop⟩ := drop_of_slice hslice
  have hlt := beNat_lt seg
  have hbytes := beBytes_beNat seg
  rw [hlen] at hlt hbytes
  exact ⟨seg, ⟨hlt, hbytes.symm⟩, hdrop⟩

theorem consumes_readU16 :
  Consumes readU16 fun v seg => seg = beBytes 2 v.toNat
  := by
  intro bytes pos v pos' h
  obtain ⟨n, pos'', _, ⟨hn, rfl⟩, hdrop, h⟩ := (consumes_readBe 2).of_bind h
  obtain ⟨rfl, rfl⟩ := Prod.mk.inj (Except.ok.inj h)
  refine ⟨beBytes 2 n, ?_, hdrop⟩
  dsimp only
  rw [UInt16.toNat_ofNat_of_lt' hn]

theorem consumes_readU64 :
  Consumes readU64 fun v seg => seg = beBytes 8 v.toNat
  := by
  intro bytes pos v pos' h
  obtain ⟨n, pos'', _, ⟨hn, rfl⟩, hdrop, h⟩ := (consumes_readBe 8).of_bind h
  obtain ⟨rfl, rfl⟩ := Prod.mk.inj (Except.ok.inj h)
  refine ⟨beBytes 8 n, ?_, hdrop⟩
  dsimp only
  rw [UInt64.toNat_ofNat_of_lt' hn]

theorem consumes_readLengthPrefixed (w : ℕ) :
  Consumes (readLengthPrefixed w) fun data seg =>
    data.length < 256 ^ w ∧ seg = writeLengthPrefixed w data
  := by
  intro bytes pos data pos' h
  obtain ⟨len, pos'', _, ⟨hlen, rfl⟩, hdrop, h⟩ := (consumes_readBe w).of_bind h
  obtain ⟨-, h⟩ := bailIf_bind_eq_ok_iff.mp h
  obtain ⟨data', hslice, h⟩ := bind_eq_ok_iff.mp h
  obtain ⟨rfl, rfl⟩ := Prod.mk.inj (Except.ok.inj h)
  obtain ⟨rfl, hdrop'⟩ := drop_of_slice hslice
  refine ⟨writeLengthPrefixed w data', ⟨hlen, rfl⟩, ?_⟩
  rw [hdrop, hdrop', writeLengthPrefixed, List.append_assoc]

theorem consumes_readMagic :
  Consumes readMagic fun magic seg => magic = cabMagic ∧ seg = cabMagic.1
  := by
  intro bytes pos magic pos' h
  obtain ⟨-, h⟩ := bailIf_bind_eq_ok_iff.mp h
  obtain ⟨seg, hslice, h⟩ := bind_eq_ok_iff.mp h
  obtain ⟨magic', hmagic, h⟩ := bind_eq_ok_iff.mp h
  obtain ⟨heq, h⟩ := bailIf_bind_eq_ok_iff.mp h
  obtain ⟨rfl, rfl⟩ := Prod.mk.inj (Except.ok.inj h)
  obtain rfl := not_not.mp heq
  exact ⟨seg, ⟨rfl, eq_of_tryIntoBlock hmagic⟩, (drop_of_slice hslice).2⟩

/-- A part of a byte string that is an array of `n` bytes stands at its position. -/
theorem drop_of_ofBytes? {n : ℕ} {bytes seg : Bytes} {pos : ℕ} {b : Block n}
    (hslice : slice bytes pos (pos + n) = .ok seg) (hb : Block.ofBytes? n seg = some b) :
  bytes.drop pos = b.1 ++ bytes.drop (pos + n)
  := by
  rw [← Block.ofBytes?_eq_some_iff.mp hb]
  exact (drop_of_slice hslice).2

/-- A byte string that is read as a primitive starts with its bytes. -/
theorem H33Primitive.toBytes_of_fromBytes {bytes : Bytes} {p : H33Primitive}
    (h : fromBytes bytes = .ok (some p)) :
  bytes = p.toBytes ++ bytes.drop size
  := by
  unfold fromBytes at h
  split at h
  · cases h
  obtain ⟨version, hversion, h⟩ := bind_eq_ok_iff.mp h
  obtain ⟨s₁, h₁, h⟩ := bind_eq_ok_iff.mp h
  obtain ⟨s₂, h₂, h⟩ := bind_eq_ok_iff.mp h
  obtain ⟨s₃, h₃, h⟩ := bind_eq_ok_iff.mp h
  obtain ⟨s₄, h₄, h⟩ := bind_eq_ok_iff.mp h
  obtain ⟨s₅, h₅, h⟩ := bind_eq_ok_iff.mp h
  obtain ⟨s₆, h₆, h⟩ := bind_eq_ok_iff.mp h
  have hsome := Except.ok.inj h
  simp only [Option.bind_eq_bind, Option.bind_eq_some_iff] at hsome
  obtain ⟨timestamp, ht, valueHash, hv, mldsaPrefix, hm, falconPrefix, hf, slhdsaPrefix, hs,
    flags, hfl, hp⟩ := hsome
  obtain rfl := Option.some.inj hp
  apply (List.drop_zero (l := bytes)).symm.trans
  rw [drop_of_index hversion, drop_of_ofBytes? h₁ ht, drop_of_ofBytes? h₂ hv,
    drop_of_ofBytes? h₃ hm, drop_of_ofBytes? h₄ hf, drop_of_ofBytes? h₅ hs,
    drop_of_ofBytes? h₆ hfl]
  simp only [toBytes, size, List.append_assoc, List.cons_append, List.nil_append]

/-- A byte string that is read as an anchor starts with its bytes. -/
theorem OnChainAnchor.toBytes_of_fromBytes {bytes : Bytes} {a : OnChainAnchor}
    (h : fromBytes bytes = .ok (some a)) :
  bytes = a.toBytes ++ bytes.drop size
  := by
  unfold fromBytes at h
  split at h
  · cases h
  obtain ⟨s₁, h₁, h⟩ := bind_eq_ok_iff.mp h
  obtain ⟨s₂, h₂, h⟩ := bind_eq_ok_iff.mp h
  have hsome := Except.ok.inj h
  simp only [Option.bind_eq_bind, Option.bind_eq_some_iff] at hsome
  obtain ⟨hash, hh, retrievalPointer, hr, ha⟩ := hsome
  obtain rfl := Option.some.inj ha
  apply (List.drop_zero (l := bytes)).symm.trans
  rw [drop_of_ofBytes? h₁ hh, drop_of_ofBytes? h₂ hr]
  simp only [toBytes, size, List.append_assoc]

/-- The slice up to the end of a buffer is what stands at its position. -/
theorem drop_of_slice_to_end {bytes seg : Bytes} {pos : ℕ}
    (h : slice bytes pos bytes.length = .ok seg) :
  bytes.drop pos = seg
  := by
  unfold slice at h
  split at h
  · obtain rfl := Except.ok.inj h
    rw [← List.length_drop, List.take_length]
  · cases h

theorem consumes_readPrimitive :
  Consumes readPrimitive fun p seg => seg = p.toBytes
  := by
  intro bytes pos p pos' h
  obtain ⟨-, h⟩ := bailIf_bind_eq_ok_iff.mp h
  obtain ⟨rest, hslice, h⟩ := bind_eq_ok_iff.mp h
  obtain ⟨p', hp, h⟩ := bind_eq_ok_iff.mp h
  cases p' with
  | none => cases h
  | some p' =>
    obtain ⟨rfl, rfl⟩ := Prod.mk.inj (Except.ok.inj h)
    have hrest := H33Primitive.toBytes_of_fromBytes hp
    rw [← drop_of_slice_to_end hslice, List.drop_drop] at hrest
    exact ⟨p'.toBytes, rfl, hrest⟩

theorem consumes_readContentHash :
  Consumes readContentHash fun hash seg => seg = hash.1
  := by
  intro bytes pos hash pos' h
  obtain ⟨-, h⟩ := bailIf_bind_eq_ok_iff.mp h
  exact ComputationFingerprint.consumes_readHash h

theorem consumes_readOnChainAnchor :
  Consumes readOnChainAnchor fun anchor seg =>
    ∃ flag : UInt8, (flag = 1 ↔ anchor.isSome) ∧
      seg = flaggedBytes OnChainAnchor.toBytes flag anchor
  := by
  intro bytes pos anchor pos' h
  obtain ⟨-, h⟩ := bailIf_bind_eq_ok_iff.mp h
  obtain ⟨flag, hflag, h⟩ := bind_eq_ok_iff.mp h
  have hdrop := drop_of_index hflag
  dsimp only at h
  split at h
  · rename_i heq
    obtain ⟨-, h⟩ := bailIf_bind_eq_ok_iff.mp h
    obtain ⟨rest, hslice, h⟩ := bind_eq_ok_iff.mp h
    obtain ⟨a, ha, h⟩ := bind_eq_ok_iff.mp h
    cases a with
    | none => cases h
    | some a =>
      obtain ⟨rfl, rfl⟩ := Prod.mk.inj (Except.ok.inj h)
      refine ⟨_, ⟨flag, by simp [heq], rfl⟩, ?_⟩
      have hrest := OnChainAnchor.toBytes_of_fromBytes ha
      rw [← drop_of_slice_to_end hslice, List.drop_drop] at hrest
      rw [hdrop, hrest]
      rfl
  · rename_i hne
    obtain ⟨rfl, rfl⟩ := Prod.mk.inj (Except.ok.inj h)
    exact ⟨_, ⟨flag, by simp [hne], rfl⟩, hdrop⟩

theorem consumes_readCompleteness :
  Consumes readCompleteness fun level seg => seg = [level.toByte]
  := by
  intro bytes pos level pos' h
  obtain ⟨-, h⟩ := bailIf_bind_eq_ok_iff.mp h
  obtain ⟨b, hb, h⟩ := bind_eq_ok_iff.mp h
  have hdrop := drop_of_index hb
  split at h
  · rename_i hlevel
    apply exists_segment_of_byte hdrop hlevel h
    rfl
  split at h
  · rename_i hlevel
    apply exists_segment_of_byte hdrop hlevel h
    rfl
  split at h
  · rename_i hlevel
    apply exists_segment_of_byte hdrop hlevel h
    rfl
  · cases h

/-! ### The bundle -/

namespace CacheeArchiveBundle

/-- A byte string is laid out as a bundle when it is the sections of the bundle, which fit, in
one of their allowed layouts, and bytes after them from which its signer identity is read.  The
computation type of the bundle is the named one of its discriminant, if there is one. -/
structure LaidOut (json : JsonCodec SignerIdentity) (x : Bytes) (slack : Slack) (tail : Bytes)
    (b : CacheeArchiveBundle) : Prop where
  magic : b.magic = cabMagic
  named : b.withNamedType = b
  fits : b.SectionsFit
  allowed : slack.Allowed b
  bytes : x = b.sectionsWith slack ++ tail
  identity : b.signerIdentity = identityOf json tail

/-- A byte string that is deserialized to a bundle is laid out as that bundle. -/
theorem laidOut_of_deserialize {json : JsonCodec SignerIdentity} {x : Bytes}
    {b : CacheeArchiveBundle} (h : deserialize json x = .ok b) :
  ∃ slack tail, LaidOut json x slack tail b
  := by
  unfold deserialize at h
  dsimp only at h
  obtain ⟨magic, _, _, ⟨hmagic, rfl⟩, h₁, h⟩ := consumes_readMagic.of_bind h
  obtain ⟨version, _, _, rfl, h₂, h⟩ := consumes_readU16.of_bind h
  obtain ⟨primitive, _, _, rfl, h₃, h⟩ := consumes_readPrimitive.of_bind h
  obtain ⟨contentHash, _, _, rfl, h₄, h⟩ := consumes_readContentHash.of_bind h
  obtain ⟨compTypeRaw, _, _, rfl, h₅, h⟩ := consumes_readU16.of_bind h
  obtain ⟨timestampNs, _, _, rfl, h₆, h⟩ := consumes_readU64.of_bind h
  obtain ⟨mldsa65Pk, _, _, ⟨hMldsaPk, rfl⟩, h₇, h⟩ := (consumes_readLengthPrefixed 2).of_bind h
  obtain ⟨falcon512Pk, _, _, ⟨hFalconPk, rfl⟩, h₈, h⟩ := (consumes_readLengthPrefixed 2).of_bind h
  obtain ⟨slhdsa128fPk, _, _, ⟨hSlhdsaPk, rfl⟩, h₉, h⟩ :=
    (consumes_readLengthPrefixed 2).of_bind h
  obtain ⟨mldsa65Sig, _, _, ⟨hMldsaSig, rfl⟩, h₁₀, h⟩ := (consumes_readLengthPrefixed 2).of_bind h
  obtain ⟨falcon512Sig, _, _, ⟨hFalconSig, rfl⟩, h₁₁, h⟩ :=
    (consumes_readLengthPrefixed 2).of_bind h
  obtain ⟨slhdsa128fSig, _, _, ⟨hSlhdsaSig, rfl⟩, h₁₂, h⟩ :=
    (consumes_readLengthPrefixed 2).of_bind h
  obtain ⟨metadata, _, _, ⟨hMetadata, rfl⟩, h₁₃, h⟩ := (consumes_readLengthPrefixed 4).of_bind h
  obtain ⟨onChainAnchor, _, _, ⟨anchorFlag, hanchor, rfl⟩, h₁₄, h⟩ :=
    consumes_readOnChainAnchor.of_bind h
  obtain ⟨completeness, _, _, rfl, h₁₅, h⟩ := consumes_readCompleteness.of_bind h
  obtain ⟨fpData, pos, _, ⟨hfpData, rfl⟩, h₁₆, h⟩ := (consumes_readLengthPrefixed 4).of_bind h
  obtain ⟨⟨fingerprint, _⟩, hfp, h⟩ := bind_eq_ok_iff.mp h
  obtain ⟨hfits, circuitFlag, unread, hcircuit, rfl⟩ :=
    ComputationFingerprint.bytesWith_of_fromBytes hfp
  rw [readSignerIdentity_eq, ok_bind] at h
  obtain rfl := Except.ok.inj h
  refine ⟨⟨anchorFlag, circuitFlag, unread⟩, x.drop pos, hmagic, ?_,
    ⟨hMldsaPk, hFalconPk, hSlhdsaPk, hMldsaSig, hFalconSig, hSlhdsaSig, hMetadata, hfits⟩,
    ⟨hanchor, hcircuit, hfpData⟩, ?_, rfl⟩
  · simp only [withNamedType, ComputationType.toU16_fromU16]
  · apply (List.drop_zero (l := x)).symm.trans
    rw [h₁, h₂, h₃, h₄, h₅, h₆, h₇, h₈, h₉, h₁₀, h₁₁, h₁₂, h₁₃, h₁₄, h₁₅, h₁₆, hmagic]
    simp only [sectionsWith, ComputationType.toU16_fromU16, List.append_assoc]
    rfl

/-- A byte string is deserialized to a bundle exactly when it is laid out as that bundle. -/
theorem deserialize_eq_ok_iff {json : JsonCodec SignerIdentity} {x : Bytes}
    {b : CacheeArchiveBundle} :
  deserialize json x = .ok b ↔ ∃ slack tail, LaidOut json x slack tail b
  := by
  constructor
  · apply laidOut_of_deserialize
  · rintro ⟨slack, tail, h⟩
    rw [h.bytes, deserialize_sectionsWith json h.magic h.fits h.allowed, ← h.identity, h.named]

end CacheeArchiveBundle

end Cachee
