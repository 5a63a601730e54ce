import Cachee.Archive.Acceptance

/-!
# Bundles that are cut off

No strict prefix of the sections of a bundle up to its fingerprint is accepted.  What follows
them is another matter: the reader takes whatever it finds there, so that a bundle that is cut
off inside its signer identity is accepted without it.
-/

open Text

namespace Cachee

namespace CacheeArchiveBundle

variable {json : JsonCodec SignerIdentity} {b b' : CacheeArchiveBundle} {p tail : Bytes}
  {slack : Slack}

/-- The sections up to the fingerprint do not depend on the signer identity, and on the
computation type only by its discriminant. -/
theorem sectionsWith_eq_of_withNamedType {identity identity' : SignerIdentity}
    (h : { b.withNamedType with signerIdentity := identity }
      = { b'.withNamedType with signerIdentity := identity' }) :
  b.sectionsWith slack = b'.sectionsWith slack ∧ (slack.Allowed b ↔ slack.Allowed b')
  := by
  have hsections := congrArg (sectionsWith slack) h
  simp only [sectionsWith, withNamedType, ComputationType.toU16_fromU16] at hsections
  refine ⟨hsections, ?_⟩
  have hanchor := congrArg onChainAnchor h
  have hfingerprint := congrArg computationFingerprint h
  simp only [withNamedType] at hanchor hfingerprint
  constructor
  · rintro ⟨h₁, h₂, h₃⟩
    rw [hanchor] at h₁
    rw [hfingerprint] at h₂ h₃
    exact ⟨h₁, h₂, h₃⟩
  · rintro ⟨h₁, h₂, h₃⟩
    rw [← hanchor] at h₁
    rw [← hfingerprint] at h₂ h₃
    exact ⟨h₁, h₂, h₃⟩

/-- The sections of a bundle with the right magic bytes are read back before any bytes. -/
theorem deserialize_sections_append (json : JsonCodec SignerIdentity) (hmagic : b.magic = cabMagic)
    (hb : b.SectionsFit) (tail : Bytes) :
  deserialize json (b.sections ++ tail)
    = .ok { b.withNamedType with signerIdentity := identityOf json tail }
  := deserialize_sectionsWith json hmagic hb hb.allowed_standardSlack tail

/-- A bundle with other magic bytes is refused. -/
theorem exists_error_of_magic_ne (json : JsonCodec SignerIdentity) (hmagic : b.magic ≠ cabMagic)
    (tail : Bytes) :
  ∃ msg, deserialize json (b.sections ++ tail) = .error (.error msg)
  := by
  rcases (safe_deserialize json (b.sections ++ tail)).cases with ⟨b', -, -, htake⟩ | herror
  · rw [sections, sectionsWith, List.append_assoc, List.take_left' b.magic.2] at htake
    exact absurd (Subtype.ext htake) hmagic
  · exact herror

/-! ### Truncation -/

/-- A prefix of what is written that is accepted contains the sections up to the fingerprint. -/
theorem sections_prefix_of_accepted (hb : b.SectionsFit) (hmagic : b.magic = cabMagic)
    (hp : p <+: b.serialize json) (haccept : deserialize json p = .ok b') :
  b.sections <+: p
  := by
  obtain ⟨slack, tail, hlaid⟩ := laidOut_of_deserialize haccept
  obtain ⟨rest, hrest⟩ := hp
  -- The whole of what is written is read in two ways: by its own layout, and by that of the prefix.
  have hread := deserialize_sections_append json hmagic hb
    (writeLengthPrefixedU32 (json.toVecOrDefault b.signerIdentity))
  have hread' := deserialize_sectionsWith json hlaid.magic hlaid.fits hlaid.allowed (tail ++ rest)
  rw [← List.append_assoc, ← hlaid.bytes, hrest, serialize_eq, hread] at hread'
  obtain ⟨hsections, hallowed⟩ : b.sectionsWith slack = b'.sectionsWith slack ∧
      (slack.Allowed b ↔ slack.Allowed b') :=
    sectionsWith_eq_of_withNamedType (Except.ok.inj hread')
  have hbytes : b.sectionsWith b.standardSlack
      ++ writeLengthPrefixedU32 (json.toVecOrDefault b.signerIdentity)
      = b.sectionsWith slack ++ (tail ++ rest) := by
    rw [hsections, ← List.append_assoc, ← hlaid.bytes, hrest, serialize_eq, sections]
  obtain ⟨hslack, -⟩ :=
    sectionsWith_append_inj hb.allowed_standardSlack (hallowed.mpr hlaid.allowed) hbytes
  rw [sections, hslack, hsections, hlaid.bytes]
  apply List.prefix_append

/-- The reader handles a cut as documented: it refuses what is left of a bundle, unless exactly
the sections up to the fingerprint are left, which are the bundle in the legacy format, without a
signer identity. -/
structure CutHandled (json : JsonCodec SignerIdentity) (b : CacheeArchiveBundle) (p : Bytes) :
    Prop where
  legacy : p = b.sections → deserialize json p = .ok { b with signerIdentity := .default }
  refused : p ≠ b.sections → ∃ msg, deserialize json p = .error (.error msg)

/-- A cut before the end of the sections is refused. -/
theorem exists_error_of_prefix (hb : b.SectionsFit) (hp : p <+: b.serialize json)
    (hlen : p.length < b.sections.length) :
  ∃ msg, deserialize json p = .error (.error msg)
  := by
  rcases (safe_deserialize json p).cases with ⟨b', haccept, -, htake⟩ | herror
  · have hmagic : b.magic = cabMagic := by
      obtain ⟨rest, hrest⟩ := hp
      have hlen' : 4 ≤ p.length := by
        have h := congrArg List.length htake
        rw [List.length_take, cabMagic.2] at h
        omega
      have htake' := congrArg (List.take 4) hrest
      rw [List.take_append_of_le_length hlen', htake, serialize, List.take_left' b.magic.2]
        at htake'
      exact Subtype.ext htake'.symm
    have hprefix := (sections_prefix_of_accepted hb hmagic hp haccept).length_le
    omega
  · exact herror

/-- Before the end of the sections, a cut is handled as documented. -/
theorem cutHandled_of_lt (hb : b.SectionsFit) (hp : p <+: b.serialize json)
    (hlen : p.length < b.sections.length) :
  CutHandled json b p
  := by
  have herror := exists_error_of_prefix hb hp hlen
  constructor
  · rintro rfl
    omega
  · intro _
    exact herror

/-- At the end of the sections, it is for a bundle that is its own legacy form. -/
theorem cutHandled_sections_iff (hb : b.SectionsFit) :
  CutHandled json b b.sections ↔ b.magic = cabMagic ∧ b.withNamedType = b
  := by
  have hnil : b.sections = b.sections ++ [] := (List.append_nil _).symm
  constructor
  · rintro ⟨hlegacy, -⟩
    have hlegacy := hlegacy rfl
    have hmagic : b.magic = cabMagic := ((safe_deserialize json _).of_eq_ok hlegacy).1
    rw [hnil, deserialize_sections_append json hmagic hb, identityOf_nil] at hlegacy
    have htype := congrArg computationType (Except.ok.inj hlegacy)
    refine ⟨hmagic, ?_⟩
    rw [withNamedType] at htype ⊢
    dsimp only at htype
    rw [htype]
  · rintro ⟨hmagic, hnamed⟩
    constructor
    · intro _
      rw [hnil, deserialize_sections_append json hmagic hb, identityOf_nil, hnamed]
    · intro hne
      exact absurd rfl hne

/-- After the end of the sections, it is for a bundle that is refused for its magic bytes. -/
theorem cutHandled_append_iff (hb : b.SectionsFit) (htail : tail ≠ []) :
  CutHandled json b (b.sections ++ tail) ↔ b.magic ≠ cabMagic
  := by
  have hne : b.sections ++ tail ≠ b.sections := by simpa using htail
  constructor
  · rintro ⟨-, hrefused⟩ hmagic
    obtain ⟨msg, hmsg⟩ := hrefused hne
    rw [deserialize_sections_append json hmagic hb] at hmsg
    cases hmsg
  · intro hmagic
    constructor
    · intro h
      exact absurd h hne
    · intro _
      apply exists_error_of_magic_ne json hmagic

/-- A prefix of what is written of a bundle is shorter than the sections up to the fingerprint,
or consists of them and of some bytes after them. -/
theorem prefix_cases (hp : p <+: b.serialize json) :
  p.length < b.sections.length ∨ ∃ tail, p = b.sections ++ tail
  := by
  by_cases hlen : p.length < b.sections.length
  · left
    exact hlen
  · right
    have hsections : b.sections <+: b.serialize json := by
      rw [serialize_eq]
      apply List.prefix_append
    obtain ⟨tail, htail⟩ := List.prefix_of_prefix_length_le hsections hp (not_lt.mp hlen)
    exact ⟨tail, htail.symm⟩

/-- Cutting what is written of a bundle is handled as documented before the end of the sections,
and there if the bundle is its own legacy form.  A cut inside the section of the signer identity
is accepted, unless the magic bytes are wrong. -/
theorem cutHandled_iff (hb : b.SectionsFit) (hp : p <+: b.serialize json) :
  CutHandled json b p ↔
    p.length < b.sections.length ∨
    (p.length = b.sections.length ∧ b.magic = cabMagic ∧ b.withNamedType = b) ∨
    (b.sections.length < p.length ∧ b.magic ≠ cabMagic)
  := by
  rcases prefix_cases hp with hlt | ⟨tail, rfl⟩
  · simp only [hlt, true_or, iff_true]
    apply cutHandled_of_lt hb hp hlt
  · by_cases htail : tail = []
    · subst htail
      rw [List.append_nil, cutHandled_sections_iff hb]
      simp
    · rw [cutHandled_append_iff hb htail]
      have hpos := List.length_pos_of_ne_nil htail
      simp [htail, hpos]

theorem sectionsFit_blank :
  blank.SectionsFit
  := by
  refine ⟨by decide, by decide, by decide, by decide, by decide, by decide, by decide, ?_⟩
  apply ComputationFingerprint.fits_empty

/-- What is left of the blank bundle after 200 bytes is refused. -/
theorem cutHandled_blank :
  CutHandled SignerIdentity.defaultCodec blank
    ((blank.serialize SignerIdentity.defaultCodec).take 200)
  := by
  apply (cutHandled_iff sectionsFit_blank (List.take_prefix _ _)).mpr
  left
  decide +kernel

/-- The identity of a signer in the development posture. -/
def developmentIdentity : SignerIdentity := { SignerIdentity.default with posture := "development" }

/-- The JSON codec restricted to that identity. -/
def developmentCodec : JsonCodec SignerIdentity :=
  .only developmentIdentity (asBytes ("\x7b\"key_id\":[0,0,0,0,0,0,0,0,0,0,0,0,0,0,0,0,"
    ++ "0,0,0,0,0,0,0,0,0,0,0,0,0,0,0,0],\"key_version\":0,\"families\":[],"
    ++ "\"issuer\":\"\",\"posture\":\"development\"\x7d"))

/-- A bundle of that signer. -/
def developmentBundle : CacheeArchiveBundle := { blank with signerIdentity := developmentIdentity }

/-- Without its last byte, the bundle is accepted as one without a signer. -/
theorem cut_developmentBundle :
  deserialize developmentCodec (developmentBundle.serialize developmentCodec).dropLast
      = .ok { developmentBundle with signerIdentity := .default } ∧
    ¬ CutHandled developmentCodec developmentBundle
      (developmentBundle.serialize developmentCodec).dropLast
  := by
  have hne : writeLengthPrefixedU32 (developmentCodec.toVecOrDefault
      developmentBundle.signerIdentity) ≠ [] := by
    simp [writeLengthPrefixedU32, writeLengthPrefixed, beBytes]
  have hcut : (developmentBundle.serialize developmentCodec).dropLast = developmentBundle.sections
      ++ (writeLengthPrefixedU32 (developmentCodec.toVecOrDefault
        developmentBundle.signerIdentity)).dropLast := by
    rw [serialize_eq, List.dropLast_append_of_ne_nil hne]
  have hfits : developmentBundle.SectionsFit := { sectionsFit_blank with }
  constructor
  · rw [hcut, deserialize_sections_append developmentCodec rfl hfits]
    decide +kernel
  · rw [hcut, cutHandled_append_iff hfits (by decide +kernel)]
    exact not_not.mpr rfl

end CacheeArchiveBundle

end Cachee
