import Cachee.Archive.Acceptance

/-!
# The contents of a bundle

Eleven fields of a bundle are written after their length: three keys, three signatures and the
metadata, each in a section of its own, and four texts in the section of the fingerprint.  A bundle
fits when each of these fields is shorter than what its prefix holds.  Sections of bytes that fit
are determined by the bytes that start with them.
-/

open Text

namespace Cachee

/-! ### The fields with a length prefix -/

/-- The fields of a bundle that are written after their length. -/
inductive PrefixedField where
  | mldsa65Pk
  | falcon512Pk
  | slhdsa128fPk
  | mldsa65Sig
  | falcon512Sig
  | slhdsa128fSig
  | metadata
  | engine
  | version
  | circuitId
  | hardwareId
  deriving DecidableEq

/-- The bytes of the identifier of the hardware, if there is one. -/
def hardwareIdBytes : Option HardwareClass → Bytes
  | some (.nonDeterministic id) => asBytes id
  | _ => []

namespace PrefixedField

open ComputationFingerprint

/-- The number of bytes of the prefix. -/
def width : PrefixedField → ℕ
  | metadata => 4
  | _ => 2

/-- The first length that does not fit the prefix. -/
def limit (f : PrefixedField) : ℕ := 256 ^ f.width

/-- The bytes of the field of a bundle.  An identifier that is missing is not written. -/
def contentIn (b : CacheeArchiveBundle) : PrefixedField → Bytes
  | mldsa65Pk => b.signerKeys.mldsa65
  | falcon512Pk => b.signerKeys.falcon512
  | slhdsa128fPk => b.signerKeys.slhdsa128f
  | mldsa65Sig => b.signatures.mldsa65
  | falcon512Sig => b.signatures.falcon512
  | slhdsa128fSig => b.signatures.slhdsa128f
  | metadata => b.metadata
  | engine => asBytes b.computationFingerprint.version.engine
  | version => asBytes b.computationFingerprint.version.version
  | circuitId => circuitDigestBytes b.computationFingerprint.version.circuitId
  | hardwareId => hardwareIdBytes b.computationFingerprint.hardwareClass

/-- The length of the field of a bundle. -/
def lengthIn (b : CacheeArchiveBundle) (f : PrefixedField) : ℕ := (f.contentIn b).length

/-- The fields that are sections of their own, in the order in which they are written.  The others
are in the section of the fingerprint. -/
def byteSections : List PrefixedField :=
  [mldsa65Pk, falcon512Pk, slhdsa128fPk, mldsa65Sig, falcon512Sig, slhdsa128fSig, metadata]

theorem le_limit (f : PrefixedField) :
  2 ^ 16 ≤ f.limit
  := by
  cases f with
  | _ => decide

end PrefixedField

open PrefixedField

namespace CacheeArchiveBundle

variable {b : CacheeArchiveBundle}

/-- The sections of a bundle fit when all of the fields do. -/
theorem sectionsFit_iff_lengthIn :
  b.SectionsFit ↔ ∀ f : PrefixedField, f.lengthIn b < f.limit
  := by
  constructor
  · rintro ⟨h₁, h₂, h₃, h₄, h₅, h₆, h₇, ⟨h₈, h₉, hcircuit, hhardware⟩⟩ f
    cases f with
    | mldsa65Pk => apply h₁
    | falcon512Pk => apply h₂
    | slhdsa128fPk => apply h₃
    | mldsa65Sig => apply h₄
    | falcon512Sig => apply h₅
    | slhdsa128fSig => apply h₆
    | metadata => apply h₇
    | engine => apply h₈
    | version => apply h₉
    | circuitId =>
      rw [lengthIn, contentIn]
      cases hid : b.computationFingerprint.version.circuitId with
      | none => decide
      | some id => apply hcircuit id hid
    | hardwareId =>
      rw [lengthIn, contentIn]
      rcases hid : b.computationFingerprint.hardwareClass with _ | _ | _ | id
      · decide
      · decide
      · decide
      · apply hhardware id hid
  · intro h
    refine ⟨h .mldsa65Pk, h .falcon512Pk, h .slhdsa128fPk, h .mldsa65Sig, h .falcon512Sig,
      h .slhdsa128fSig, h .metadata, ⟨h .engine, h .version, ?_, ?_⟩⟩
    · intro id hid
      have hcircuit := h .circuitId
      rw [lengthIn, contentIn, hid] at hcircuit
      apply hcircuit
    · intro id hid
      have hhardware := h .hardwareId
      rw [lengthIn, contentIn, hid] at hhardware
      apply hhardware

/-! ### Sections of bytes -/

/-- The sections of a bundle before its keys. -/
def front (b : CacheeArchiveBundle) : Bytes :=
  b.magic.1 ++ (beBytes 2 b.version.toNat ++ (b.primitive.toBytes ++ (b.contentHash.1
    ++ (beBytes 2 b.computationType.toU16.toNat ++ beBytes 8 b.timestampNs.toNat))))

/-- The sections of a bundle after its metadata. -/
def back (slack : Slack) (b : CacheeArchiveBundle) : Bytes :=
  flaggedBytes OnChainAnchor.toBytes slack.anchorFlag b.onChainAnchor
    ++ ([b.completeness.toByte]
    ++ writeLengthPrefixedU32
      (b.computationFingerprint.bytesWith slack.circuitFlag ++ slack.unread))

/-- The contents of some sections of bytes, as they are written. -/
def writeContents (content : PrefixedField → Bytes) (fields : List PrefixedField) : Bytes :=
  fields.flatMap fun f => writeLengthPrefixed f.width (content f)

/-- The sections of bytes stand between the others. -/
theorem sectionsWith_eq (slack : Slack) (b : CacheeArchiveBundle) :
  b.sectionsWith slack
    = b.front ++ (writeContents (fun f => f.contentIn b) byteSections ++ back slack b)
  := by
  simp only [front, back, writeContents, byteSections, List.flatMap_cons, List.flatMap_nil,
    List.append_assoc, List.nil_append]
  rfl

theorem writeContents_append (content : PrefixedField → Bytes) (pre post : List PrefixedField) :
  writeContents content (pre ++ post) = writeContents content pre ++ writeContents content post
  := List.flatMap_append

theorem writeContents_cons (content : PrefixedField → Bytes) (f : PrefixedField)
    (post : List PrefixedField) :
  writeContents content (f :: post)
    = writeLengthPrefixed f.width (content f) ++ writeContents content post
  := List.flatMap_cons

theorem writeContents_congr {content content' : PrefixedField → Bytes} {fields : List PrefixedField}
    (h : ∀ f ∈ fields, content f = content' f) :
  writeContents content fields = writeContents content' fields
  := by
  apply List.flatMap_congr
  intro f hf
  rw [h f hf]

/-- On `w` bytes, a byte string whose length leaves the remainder of the length of `x` is written as
its first bytes, and then the rest. -/
theorem writeLengthPrefixed_append_of_mod {w : ℕ} {x y : Bytes}
    (h : (x ++ y).length % 256 ^ w = x.length) :
  writeLengthPrefixed w (x ++ y) = writeLengthPrefixed w x ++ y
  := by
  rw [writeLengthPrefixed, writeLengthPrefixed, ← beBytes_mod, h, List.append_assoc]

/-- Bytes that start with sections whose contents fit determine the contents. -/
theorem writeContents_append_inj {content content' : PrefixedField → Bytes}
    {fields : List PrefixedField} (h : ∀ f ∈ fields, (content f).length < f.limit)
    (h' : ∀ f ∈ fields, (content' f).length < f.limit) {x y : Bytes}
    (heq : writeContents content fields ++ x = writeContents content' fields ++ y) :
  (∀ f ∈ fields, content f = content' f) ∧ x = y
  := by
  induction fields with
  | nil => exact ⟨by simp, heq⟩
  | cons f fields ih =>
    obtain ⟨hf, hfields⟩ := List.forall_mem_cons.mp h
    obtain ⟨hf', hfields'⟩ := List.forall_mem_cons.mp h'
    rw [writeContents_cons, writeContents_cons, List.append_assoc, List.append_assoc] at heq
    obtain ⟨hcontent, hrest⟩ := (writeLengthPrefixed_append_inj hf hf').mp heq
    obtain ⟨hcontents, htail⟩ := ih hfields hfields' hrest
    exact ⟨List.forall_mem_cons.mpr ⟨hcontent, hcontents⟩, htail⟩

theorem length_front (b : CacheeArchiveBundle) :
  b.front.length = 106
  := by
  simp only [front, List.length_append, length_beBytes, H33Primitive.length_toBytes, b.magic.2,
    b.contentHash.2]
  rfl

/-- The sections before the keys determine the content hash. -/
theorem contentHash_eq_of_front {b b' : CacheeArchiveBundle} (h : b.front = b'.front) :
  b.contentHash = b'.contentHash
  := by
  have hlen {n : ℕ} (x y : Block n) : x.1.length = y.1.length := x.2.trans y.2.symm
  unfold front at h
  obtain ⟨-, h⟩ := List.append_inj h (hlen _ _)
  obtain ⟨-, h⟩ := List.append_inj h (by rw [length_beBytes, length_beBytes])
  obtain ⟨-, h⟩ := List.append_inj h
    (by rw [H33Primitive.length_toBytes, H33Primitive.length_toBytes])
  apply Subtype.ext
  apply (List.append_inj h (hlen _ _)).1

/-- A bundle with some contents in its sections of bytes. -/
def withContents (base : CacheeArchiveBundle) (content : PrefixedField → Bytes) :
    CacheeArchiveBundle :=
  { base with
    signerKeys := ⟨content .mldsa65Pk, content .falcon512Pk, content .slhdsa128fPk⟩
    signatures := ⟨content .mldsa65Sig, content .falcon512Sig, content .slhdsa128fSig⟩
    metadata := content .metadata }

section Contents

variable {base : CacheeArchiveBundle} {content : PrefixedField → Bytes}

theorem contentIn_withContents {f : PrefixedField} (hf : f ∈ byteSections) :
  f.contentIn (base.withContents content) = content f
  := by
  cases f with
  | engine => simp [byteSections] at hf
  | version => simp [byteSections] at hf
  | circuitId => simp [byteSections] at hf
  | hardwareId => simp [byteSections] at hf
  | _ => rfl

theorem sectionsWith_withContents (slack : Slack) :
  (base.withContents content).sectionsWith slack
    = base.front ++ (writeContents content byteSections ++ back slack base)
  := by
  rw [sectionsWith_eq, writeContents_congr fun f hf => contentIn_withContents hf]
  rfl

/-- A bundle fits when its contents and its fingerprint do. -/
theorem sectionsFit_withContents (h : ∀ f ∈ byteSections, (content f).length < f.limit)
    (hfingerprint : base.computationFingerprint.Fits) :
  (base.withContents content).SectionsFit
  where
  mldsa65Pk := h .mldsa65Pk (by decide)
  falcon512Pk := h .falcon512Pk (by decide)
  slhdsa128fPk := h .slhdsa128fPk (by decide)
  mldsa65Sig := h .mldsa65Sig (by decide)
  falcon512Sig := h .falcon512Sig (by decide)
  slhdsa128fSig := h .slhdsa128fSig (by decide)
  metadata := h .metadata (by decide)
  fingerprint := hfingerprint

end Contents

end CacheeArchiveBundle

end Cachee
