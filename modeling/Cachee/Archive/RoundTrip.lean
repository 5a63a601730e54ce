import Cachee.Archive.Layout
import Cachee.Archive.Safety

/-!
# Reading back a serialized bundle

Each section of the format is read back by its reader wherever it stands.  A bundle whose
sections fit their length prefixes is therefore read back from its serialization, up to a
custom computation type with the discriminant of a named one.
-/

open Text

namespace Cachee

/-! ### Numbers and byte strings -/

/-- A number that fits on `w` bytes is read back. -/
theorem reads_be {w n : ℕ} (hw : w ≠ 0) (hn : n < 256 ^ w) :
  Reads (readBe w) n (beBytes w n)
  := by
  intro bytes pos rest hdrop
  have hne : beBytes w n ≠ [] := by
    apply List.ne_nil_of_length_pos
    rw [length_beBytes]
    omega
  have hlen := length_of_drop_eq hdrop hne
  have hslice := slice_segment hdrop hne
  rw [length_beBytes] at hlen hslice
  rw [readBe, bailIf_neg (by omega), ok_bind, hslice, ok_bind, beNat_beBytes_of_lt hn,
    length_beBytes]
  rfl

theorem reads_u16 (v : UInt16) :
  Reads readU16 v (beBytes 2 v.toNat)
  := by
  intro bytes pos rest hdrop
  rw [readU16, (reads_be (by decide) v.toNat_lt).bind_eq hdrop]
  simp only [UInt16.ofNat_toNat]
  rfl

theorem reads_u64 (v : UInt64) :
  Reads readU64 v (beBytes 8 v.toNat)
  := by
  intro bytes pos rest hdrop
  rw [readU64, (reads_be (by decide) v.toNat_lt).bind_eq hdrop]
  simp only [UInt64.ofNat_toNat]
  rfl

/-- A byte string whose length fits on `w` bytes is read back. -/
theorem reads_lengthPrefixed {w : ℕ} {data : Bytes} (hw : w ≠ 0)
    (hdata : data.length < 256 ^ w) :
  Reads (readLengthPrefixed w) data (writeLengthPrefixed w data)
  := by
  intro bytes pos rest hdrop
  have hne : writeLengthPrefixed w data ≠ [] := by
    apply List.ne_nil_of_length_pos
    rw [writeLengthPrefixed, List.length_append, length_beBytes]
    omega
  have hlen := length_of_drop_eq hdrop hne
  rw [writeLengthPrefixed, List.append_assoc] at hdrop
  have hdrop' := drop_segment hdrop
  simp only [writeLengthPrefixed, List.length_append, length_beBytes] at hlen hdrop' ⊢
  have hslice := slice_segment_of_le hdrop' (by omega)
  rw [readLengthPrefixed, (reads_be hw hdata).bind_eq hdrop]
  simp only [length_beBytes]
  rw [bailIf_neg (by omega), ok_bind, hslice, ok_bind, Nat.add_assoc]
  rfl

theorem reads_lengthPrefixedU16 {data : Bytes} (hdata : data.length < 2 ^ 16) :
  Reads readLengthPrefixedU16 data (writeLengthPrefixedU16 data)
  := reads_lengthPrefixed (by decide) hdata

theorem reads_lengthPrefixedU32 {data : Bytes} (hdata : data.length < 2 ^ 32) :
  Reads readLengthPrefixedU32 data (writeLengthPrefixedU32 data)
  := reads_lengthPrefixed (by decide) hdata

/-! ### Sections -/

/-- The magic bytes at the front of a buffer are read back. -/
theorem reads_magic {bytes rest : Bytes} (h : bytes.drop 0 = cabMagic.1 ++ rest)
    {β : Type} (f : Block 4 × ℕ → Outcome β) :
  (readMagic bytes 0 >>= f) = f (cabMagic, 4)
  := by
  have hne : cabMagic.1 ≠ [] := by decide
  have hlen := length_of_drop_eq h hne
  have hslice := slice_segment h hne
  rw [cabMagic.2] at hlen hslice
  rw [readMagic, bailIf_neg (by omega), ok_bind, hslice, ok_bind, tryIntoBlock_val, ok_bind,
    bailIf_neg (by simp)]
  rfl

/-- A primitive is read back from the front of a byte string. -/
theorem H33Primitive.fromBytes_append (p : H33Primitive) (rest : Bytes) :
  fromBytes (p.toBytes ++ rest) = .ok (some p)
  := by
  have hlen : ¬ (p.toBytes ++ rest).length < size := by simp
  have h₀ : (p.toBytes ++ rest).drop 0 = p.toBytes ++ rest := rfl
  nth_rewrite 2 [toBytes] at h₀
  simp only [List.cons_append, List.nil_append, List.append_assoc] at h₀
  have h₁ := drop_byte h₀
  have h₂ := drop_block h₁
  have h₃ := drop_block h₂
  have h₄ := drop_block h₃
  have h₅ := drop_block h₄
  have h₆ := drop_block h₅
  rw [fromBytes, if_neg hlen, index_segment h₀, ok_bind, slice_block h₁ (by decide), ok_bind,
    slice_block h₂ (by decide), ok_bind, slice_block h₃ (by decide), ok_bind,
    slice_block h₄ (by decide), ok_bind, slice_block h₅ (by decide), ok_bind,
    slice_block h₆ (by decide), ok_bind]
  simp only [Block.ofBytes?_val]
  rfl

/-- An anchor is read back from the front of a byte string. -/
theorem OnChainAnchor.fromBytes_append (a : OnChainAnchor) (rest : Bytes) :
  fromBytes (a.toBytes ++ rest) = .ok (some a)
  := by
  have hlen : ¬ (a.toBytes ++ rest).length < size := by simp
  have h₀ : (a.toBytes ++ rest).drop 0 = a.toBytes ++ rest := rfl
  nth_rewrite 2 [toBytes] at h₀
  rw [List.append_assoc] at h₀
  have h₁ := drop_block h₀
  rw [fromBytes, if_neg hlen, slice_block h₀ (by decide), ok_bind, slice_block h₁ (by decide),
    ok_bind]
  simp only [Block.ofBytes?_val]
  rfl

theorem reads_primitive (p : H33Primitive) :
  Reads readPrimitive p p.toBytes
  := by
  intro bytes pos rest hdrop
  have hne : p.toBytes ≠ [] := by simp [H33Primitive.toBytes]
  have hlen := length_of_drop_eq hdrop hne
  rw [H33Primitive.length_toBytes] at hlen ⊢
  rw [readPrimitive, bailIf_neg (by omega), ok_bind, slice_to_end hdrop hne, ok_bind,
    H33Primitive.fromBytes_append, ok_bind]
  rfl

theorem reads_contentHash (h : Block 32) :
  Reads readContentHash h h.1
  := by
  intro bytes pos rest hdrop
  have hne : h.1 ≠ [] := by
    apply List.ne_nil_of_length_pos
    rw [h.2]
    decide
  have hlen := length_of_drop_eq hdrop hne
  rw [h.2] at hlen ⊢
  rw [readContentHash, bailIf_neg (by omega), ok_bind, slice_block hdrop (by decide), ok_bind,
    tryIntoBlock_val, ok_bind]
  rfl

/-- The anchor is read back after flag 1, and its absence after any other flag. -/
theorem reads_onChainAnchor {flag : UInt8} {anchor : Option OnChainAnchor}
    (hflag : flag = 1 ↔ anchor.isSome) :
  Reads readOnChainAnchor anchor (flaggedBytes OnChainAnchor.toBytes flag anchor)
  := by
  intro bytes pos rest hdrop
  cases anchor with
  | none =>
    have hne : flag ≠ 1 := by simpa using hflag
    rw [readOnChainAnchor, bailIf_index_eq hdrop]
    dsimp only
    rw [if_neg hne]
    rfl
  | some a =>
    have heq : flag = 1 := by simpa using hflag
    have hlen := length_of_drop_eq hdrop (by simp [flaggedBytes])
    have hdrop' : bytes.drop (pos + 1) = a.toBytes ++ rest := drop_byte hdrop
    have hne : a.toBytes ≠ [] := by
      apply List.ne_nil_of_length_pos
      rw [OnChainAnchor.length_toBytes]
      decide
    simp only [flaggedBytes, Option.elim_some, List.length_cons,
      OnChainAnchor.length_toBytes] at hlen ⊢
    rw [readOnChainAnchor, bailIf_index_eq hdrop]
    dsimp only
    rw [if_pos heq, bailIf_neg (by omega), ok_bind, slice_to_end hdrop' hne, ok_bind,
      OnChainAnchor.fromBytes_append, ok_bind]
    simp only [Nat.add_assoc, Nat.add_comm 1]
    rfl

theorem reads_completeness (level : CompletenessLevel) :
  Reads readCompleteness level [level.toByte]
  := by
  intro bytes pos rest hdrop
  rw [readCompleteness, bailIf_index_eq hdrop]
  cases level with
  | complete => rfl
  | partialEvidence => rfl
  | minimalViable => rfl

/-- The JSON text of an identity is read back, if it fits its length prefix. -/
theorem identityOf_toVec {json : JsonCodec SignerIdentity} {identity : SignerIdentity}
    (hempty : ∀ identity, json.fromSlice [] ≠ .ok identity)
    (hjson : json.RoundTripsAt identity)
    (hlen : (json.toVecOrDefault identity).length < 2 ^ 32) :
  identityOf json (writeLengthPrefixedU32 (json.toVecOrDefault identity)) = identity
  := by
  have hread := hjson.fromSlice_eq
  have hne : json.toVecOrDefault identity ≠ [] := by
    intro h
    rw [h] at hread
    apply hempty identity hread
  rw [← List.append_nil (writeLengthPrefixedU32 _), identityOf_section json hlen, if_neg hne,
    JsonCodec.fromSliceOr, hread]

/-! ### The bundle -/

namespace CacheeArchiveBundle

/-- The keys, signatures, metadata and fingerprint strings of a bundle fit their length
prefixes. -/
structure SectionsFit (b : CacheeArchiveBundle) : Prop where
  mldsa65Pk : b.signerKeys.mldsa65.length < 2 ^ 16
  falcon512Pk : b.signerKeys.falcon512.length < 2 ^ 16
  slhdsa128fPk : b.signerKeys.slhdsa128f.length < 2 ^ 16
  mldsa65Sig : b.signatures.mldsa65.length < 2 ^ 16
  falcon512Sig : b.signatures.falcon512.length < 2 ^ 16
  slhdsa128fSig : b.signatures.slhdsa128f.length < 2 ^ 16
  metadata : b.metadata.length < 2 ^ 32
  fingerprint : b.computationFingerprint.Fits

end CacheeArchiveBundle

/-- The encoding of a fingerprint with strings that fit is itself shorter than `2 ^ 32`. -/
theorem ComputationFingerprint.Fits.length_toBytes {f : ComputationFingerprint} (hf : f.Fits) :
  f.toBytes.length < 2 ^ 32
  := by
  have hengine := hf.engine
  have hversion := hf.version
  have hcircuit : (circuitBytes f.version.circuitId).length < 2 ^ 17 := by
    cases hc : f.version.circuitId with
    | none => simp [circuitBytes]
    | some cid =>
      have hcid := hf.circuitId cid hc
      simp only [StringFits] at hcid
      simp only [circuitBytes, stringBytes, List.length_cons, List.length_append, length_beBytes]
      omega
  have hhardware : (hardwareBytes f.hardwareClass).length < 2 ^ 17 := by
    rcases hh : f.hardwareClass with _ | _ | _ | id
    · simp [hardwareBytes]
    · simp [hardwareBytes]
    · simp [hardwareBytes]
    · have hid := hf.hardwareClass id hh
      simp only [StringFits] at hid
      simp only [hardwareBytes, stringBytes, List.length_cons, List.length_append,
        length_beBytes]
      omega
  simp only [StringFits] at hengine hversion
  simp only [toBytes, stringBytes, List.length_append, length_beBytes, f.inputHash.2,
    f.computationHash.2, f.parameterHash.2]
  omega

namespace CacheeArchiveBundle

/-- The bundle that is read back: a custom computation type with the discriminant of a named
one has become that type. -/
def withNamedType (b : CacheeArchiveBundle) : CacheeArchiveBundle :=
  { b with computationType := .fromU16 b.computationType.toU16 }

/-- A bundle whose sections fit is read back from every layout of it, up to its computation type
and the identity, which is read from what follows the sections. -/
theorem deserialize_sectionsWith (json : JsonCodec SignerIdentity) {b : CacheeArchiveBundle}
    (hmagic : b.magic = cabMagic) (hb : b.SectionsFit) {slack : Slack} (hs : slack.Allowed b)
    (tail : Bytes) :
  deserialize json (b.sectionsWith slack ++ tail)
    = .ok { b.withNamedType with signerIdentity := identityOf json tail }
  := by
  have h₀ : (b.sectionsWith slack ++ tail).drop 0 = b.sectionsWith slack ++ tail := rfl
  nth_rewrite 2 [sectionsWith] at h₀
  simp only [List.append_assoc] at h₀
  rw [hmagic] at h₀
  -- One fact for each section: what the buffer holds from its position on.
  have hVersion : (b.sectionsWith slack ++ tail).drop 4 = _ := drop_block h₀
  have hPrimitive := drop_segment hVersion
  have hContentHash := drop_segment hPrimitive
  have hType := drop_segment hContentHash
  have hTimestamp := drop_segment hType
  have hMldsaPk := drop_segment hTimestamp
  have hFalconPk := drop_segment hMldsaPk
  have hSlhdsaPk := drop_segment hFalconPk
  have hMldsaSig := drop_segment hSlhdsaPk
  have hFalconSig := drop_segment hMldsaSig
  have hSlhdsaSig := drop_segment hFalconSig
  have hMetadata := drop_segment hSlhdsaSig
  have hAnchor := drop_segment hMetadata
  have hCompleteness := drop_segment hAnchor
  have hFingerprint := drop_segment hCompleteness
  have hIdentity := drop_segment hFingerprint
  rw [deserialize]
  dsimp only
  rw [reads_magic h₀, (reads_u16 b.version).bind_eq hVersion,
    (reads_primitive b.primitive).bind_eq hPrimitive,
    (reads_contentHash b.contentHash).bind_eq hContentHash,
    (reads_u16 b.computationType.toU16).bind_eq hType,
    (reads_u64 b.timestampNs).bind_eq hTimestamp,
    (reads_lengthPrefixedU16 hb.mldsa65Pk).bind_eq hMldsaPk,
    (reads_lengthPrefixedU16 hb.falcon512Pk).bind_eq hFalconPk,
    (reads_lengthPrefixedU16 hb.slhdsa128fPk).bind_eq hSlhdsaPk,
    (reads_lengthPrefixedU16 hb.mldsa65Sig).bind_eq hMldsaSig,
    (reads_lengthPrefixedU16 hb.falcon512Sig).bind_eq hFalconSig,
    (reads_lengthPrefixedU16 hb.slhdsa128fSig).bind_eq hSlhdsaSig,
    (reads_lengthPrefixedU32 hb.metadata).bind_eq hMetadata,
    (reads_onChainAnchor hs.anchor).bind_eq hAnchor,
    (reads_completeness b.completeness).bind_eq hCompleteness,
    (reads_lengthPrefixedU32 hs.fits).bind_eq hFingerprint]
  dsimp only
  rw [ComputationFingerprint.fromBytes_bytesWith hb.fingerprint hs.circuit, ok_bind,
    readSignerIdentity_eq, hIdentity, ← hmagic]
  rfl

/-- The layout that is written is one of the allowed ones. -/
theorem SectionsFit.allowed_standardSlack {b : CacheeArchiveBundle} (hb : b.SectionsFit) :
  b.standardSlack.Allowed b
  := by
  constructor
  · apply flagOf_eq_one_iff
  · apply flagOf_eq_one_iff
  · rw [standardSlack, List.append_nil, ← ComputationFingerprint.toBytes_eq]
    apply hb.fingerprint.length_toBytes

/-- A bundle whose sections fit is read back up to its computation type, if its signer
identity is read back from its JSON text and that text fits. -/
theorem deserialize_serialize_eq {json : JsonCodec SignerIdentity} {b : CacheeArchiveBundle}
    (hempty : ∀ identity, json.fromSlice [] ≠ .ok identity)
    (hjson : json.RoundTripsAt b.signerIdentity) (hmagic : b.magic = cabMagic)
    (hb : b.SectionsFit) (hidentity : (json.toVecOrDefault b.signerIdentity).length < 2 ^ 32) :
  deserialize json (b.serialize json) = .ok b.withNamedType
  := by
  rw [serialize_eq, sections, deserialize_sectionsWith json hmagic hb hb.allowed_standardSlack,
    identityOf_toVec hempty hjson hidentity]
  rfl

/-- Whatever its signer identity, a bundle whose sections fit is read back up to its
computation type and its identity. -/
theorem exists_deserialize_serialize_eq (json : JsonCodec SignerIdentity)
    {b : CacheeArchiveBundle} (hmagic : b.magic = cabMagic) (hb : b.SectionsFit) :
  ∃ identity, deserialize json (b.serialize json)
    = .ok { b.withNamedType with signerIdentity := identity }
  := by
  use identityOf json (writeLengthPrefixedU32 (json.toVecOrDefault b.signerIdentity))
  rw [serialize_eq, sections, deserialize_sectionsWith json hmagic hb hb.allowed_standardSlack]

end CacheeArchiveBundle

end Cachee
