import Cachee.Archive.Wire

/-!
# The layouts of a bundle

The reader of the archive format accepts more byte strings than the writer makes.  It takes
any flag other than 1 for the absence of an anchor or a circuit, it does not look at what
follows the fingerprint in its section, and it makes the best of whatever follows the sections.
A layout fixes these bytes.
-/

open Text

namespace Cachee

/-- The bytes that the reader leaves open: two flags, and the rest of the section of the
fingerprint. -/
structure Slack where
  anchorFlag : UInt8
  circuitFlag : UInt8
  unread : Bytes
  deriving DecidableEq

theorem anchorBytes_eq (anchor : Option OnChainAnchor) :
  anchorBytes anchor = flaggedBytes OnChainAnchor.toBytes (flagOf anchor) anchor
  := by
  cases anchor with
  | none => rfl
  | some a => rfl

/-- The signer identity that is read from the bytes after the other sections: that of the JSON
text in a section there, or the default one. -/
def identityOf (json : JsonCodec SignerIdentity) (tail : Bytes) : SignerIdentity :=
  let len := beNat (tail.take 4)
  let data := (tail.drop 4).take len
  if tail.length < 4 + len ∨ data = [] then .default else json.fromSliceOr data .default

/-- No bytes are left for the signer identity of the legacy format. -/
theorem identityOf_nil (json : JsonCodec SignerIdentity) :
  identityOf json [] = .default
  := rfl

/-- The signer identity is read from the bytes at the position, wherever that is. -/
theorem readSignerIdentity_eq (json : JsonCodec SignerIdentity) (bytes : Bytes) (pos : ℕ) :
  readSignerIdentity json bytes pos = .ok (identityOf json (bytes.drop pos))
  := by
  unfold readSignerIdentity identityOf
  by_cases hprefix : pos + 4 ≤ bytes.length
  · have hslice : slice bytes pos (pos + 4) = .ok ((bytes.drop pos).take 4) := by
      rw [slice_eq (by omega) hprefix, Nat.add_sub_cancel_left]
    rw [if_pos hprefix, readLengthPrefixedU32, readLengthPrefixed, readBe,
      bailIf_neg (by omega), ok_bind, hslice, ok_bind]
    simp only [pure_bind, List.drop_drop, List.length_drop]
    generalize beNat ((bytes.drop pos).take 4) = len
    by_cases hbody : bytes.length < pos + 4 + len
    · have hshort : bytes.length - pos < 4 + len := by omega
      rw [bailIf, if_pos hbody, if_pos (Or.inl hshort)]
      rfl
    · have hbody' : slice bytes (pos + 4) (pos + 4 + len) = .ok ((bytes.drop (pos + 4)).take len) := by
        rw [slice_eq (by omega) (by omega), Nat.add_sub_cancel_left]
      have hlong : ¬ bytes.length - pos < 4 + len := by omega
      rw [bailIf_neg hbody, ok_bind, hbody', ok_bind]
      simp only [pure, Except.pure, unwrapOr_ok, ok_bind, hlong, false_or, List.isEmpty_iff]
      split
      · rfl
      · rfl
  · have hshort : (bytes.drop pos).length < 4 + beNat ((bytes.drop pos).take 4) := by
      rw [List.length_drop]
      omega
    rw [if_neg hprefix, if_pos (Or.inl hshort)]
    rfl

/-- The signer identity of a section whose text fits its length prefix. -/
theorem identityOf_section (json : JsonCodec SignerIdentity) {data : Bytes}
    (hdata : data.length < 2 ^ 32) (rest : Bytes) :
  identityOf json (writeLengthPrefixedU32 data ++ rest) =
    if data = [] then .default else json.fromSliceOr data .default
  := by
  have hlen : beNat (beBytes 4 data.length) = data.length := beNat_beBytes_of_lt hdata
  have htake : (writeLengthPrefixedU32 data ++ rest).take 4 = beBytes 4 data.length := by
    rw [writeLengthPrefixedU32, writeLengthPrefixed, List.append_assoc,
      List.take_left' (length_beBytes 4 _)]
  have hdrop : (writeLengthPrefixedU32 data ++ rest).drop 4 = data ++ rest := by
    rw [writeLengthPrefixedU32, writeLengthPrefixed, List.append_assoc,
      List.drop_left' (length_beBytes 4 _)]
  have hlong : ¬ (writeLengthPrefixedU32 data ++ rest).length < 4 + data.length := by
    simp only [writeLengthPrefixedU32, writeLengthPrefixed, List.length_append, length_beBytes]
    omega
  unfold identityOf
  simp only [htake, hdrop, hlen, List.take_left, hlong, false_or]

namespace CacheeArchiveBundle

/-- The sections of a bundle up to its fingerprint. -/
def sectionsWith (slack : Slack) (b : CacheeArchiveBundle) : Bytes :=
  b.magic.1 ++ (beBytes 2 b.version.toNat ++ (b.primitive.toBytes ++ (b.contentHash.1
    ++ (beBytes 2 b.computationType.toU16.toNat ++ (beBytes 8 b.timestampNs.toNat
    ++ (writeLengthPrefixedU16 b.signerKeys.mldsa65
    ++ (writeLengthPrefixedU16 b.signerKeys.falcon512
    ++ (writeLengthPrefixedU16 b.signerKeys.slhdsa128f
    ++ (writeLengthPrefixedU16 b.signatures.mldsa65
    ++ (writeLengthPrefixedU16 b.signatures.falcon512
    ++ (writeLengthPrefixedU16 b.signatures.slhdsa128f
    ++ (writeLengthPrefixedU32 b.metadata
    ++ (flaggedBytes OnChainAnchor.toBytes slack.anchorFlag b.onChainAnchor
    ++ ([b.completeness.toByte]
    ++ writeLengthPrefixedU32
      (b.computationFingerprint.bytesWith slack.circuitFlag ++ slack.unread)))))))))))))))

/-- The slack of the writer: the flags are 0 or 1, and the fingerprint fills its section. -/
def standardSlack (b : CacheeArchiveBundle) : Slack where
  anchorFlag := flagOf b.onChainAnchor
  circuitFlag := flagOf b.computationFingerprint.version.circuitId
  unread := []

/-- The sections of a bundle up to its fingerprint, as they are written. -/
def sections (b : CacheeArchiveBundle) : Bytes := b.sectionsWith b.standardSlack

/-- A bundle is written as its sections and that of its signer identity. -/
theorem serialize_eq (json : JsonCodec SignerIdentity) (b : CacheeArchiveBundle) :
  b.serialize json
    = b.sections ++ writeLengthPrefixedU32 (json.toVecOrDefault b.signerIdentity)
  := by
  simp only [serialize, sections, sectionsWith, standardSlack, anchorBytes_eq,
    ComputationFingerprint.toBytes_eq, List.append_nil, List.append_assoc]

end CacheeArchiveBundle

/-- A slack is allowed for a bundle when its flags announce what the bundle has, and the section
of the fingerprint fits its length prefix. -/
structure Slack.Allowed (slack : Slack) (b : CacheeArchiveBundle) : Prop where
  anchor : slack.anchorFlag = 1 ↔ b.onChainAnchor.isSome
  circuit : slack.circuitFlag = 1 ↔ b.computationFingerprint.version.circuitId.isSome
  fits : (b.computationFingerprint.bytesWith slack.circuitFlag ++ slack.unread).length < 2 ^ 32

/-- Two byte strings that fit their length prefixes are equal when bytes that start with them
are. -/
theorem writeLengthPrefixed_append_inj {w : ℕ} {x y t u : Bytes} (hx : x.length < 256 ^ w)
    (hy : y.length < 256 ^ w) :
  writeLengthPrefixed w x ++ t = writeLengthPrefixed w y ++ u ↔ x = y ∧ t = u
  := by
  constructor
  · intro h
    rw [writeLengthPrefixed, writeLengthPrefixed, List.append_assoc, List.append_assoc] at h
    obtain ⟨hfront, hrest⟩ := List.append_inj h (by rw [length_beBytes, length_beBytes])
    have hlen := congrArg beNat hfront
    rw [beNat_beBytes_of_lt hx, beNat_beBytes_of_lt hy] at hlen
    apply List.append_inj hrest hlen
  · rintro ⟨rfl, rfl⟩
    rfl

/-- The bytes of a layout determine the slack and what follows the sections. -/
theorem CacheeArchiveBundle.sectionsWith_append_inj {b : CacheeArchiveBundle} {s s' : Slack}
    {t t' : Bytes} (hs : s.Allowed b) (hs' : s'.Allowed b)
    (h : b.sectionsWith s ++ t = b.sectionsWith s' ++ t') :
  s = s' ∧ t = t'
  := by
  simp only [sectionsWith, flaggedBytes, List.append_assoc, List.append_cancel_left_eq,
    List.cons_append, List.cons.injEq] at h
  obtain ⟨hanchor, -, hfingerprint⟩ := h
  obtain ⟨hblob, htail⟩ := (writeLengthPrefixed_append_inj hs.fits hs'.fits).mp hfingerprint
  simp only [ComputationFingerprint.bytesWith, flaggedBytes, List.append_assoc,
    List.append_cancel_left_eq, List.cons_append, List.cons.injEq] at hblob
  obtain ⟨hcircuit, hunread⟩ := hblob
  obtain ⟨anchorFlag, circuitFlag, unread⟩ := s
  obtain ⟨anchorFlag', circuitFlag', unread'⟩ := s'
  obtain rfl := hanchor
  obtain rfl := hcircuit
  obtain rfl := hunread
  exact ⟨rfl, htail⟩

end Cachee
