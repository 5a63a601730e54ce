import Cachee.Archive.Truncation

/-!
# How far the format is canonical

A byte string that is accepted differs from what is written of the bundle in its slack and in
what follows its sections.
-/

open Text

namespace Cachee

namespace CacheeArchiveBundle

variable {json : JsonCodec SignerIdentity} {b b' : CacheeArchiveBundle} {x tail : Bytes}
  {slack : Slack}

/-! ### Accepted byte strings -/

/-- Bytes end with the section of the signer identity: there is exactly one section, or, in the
legacy format, there is nothing. -/
def EndsExactly (tail : Bytes) : Prop :=
  tail = [] ∨ ∃ data : Bytes, data.length < 2 ^ 32 ∧ tail = writeLengthPrefixedU32 data

/-- A byte string is canonical for a bundle when it starts with the sections of the bundle as
they are written, and nothing follows its signer identity. -/
def Canonical (x : Bytes) (b : CacheeArchiveBundle) : Prop :=
  ∃ tail, x = b.sections ++ tail ∧ EndsExactly tail

/-- A slack is that of the writer when its flags are 0 or 1 and nothing in the section of the
fingerprint is left unread. -/
theorem eq_standardSlack_iff (hs : slack.Allowed b) :
  slack = b.standardSlack ↔
    (slack.anchorFlag = 0 ∨ slack.anchorFlag = 1) ∧
    (slack.circuitFlag = 0 ∨ slack.circuitFlag = 1) ∧ slack.unread = []
  := by
  rw [← eq_flagOf_iff hs.anchor, ← eq_flagOf_iff hs.circuit]
  obtain ⟨anchorFlag, circuitFlag, unread⟩ := slack
  simp only [standardSlack, Slack.mk.injEq]

/-- A layout is canonical when its slack is that of the writer and it ends exactly. -/
theorem LaidOut.canonical_iff (h : LaidOut json x slack tail b) :
  Canonical x b ↔ slack = b.standardSlack ∧ EndsExactly tail
  := by
  constructor
  · rintro ⟨tail', hx, hends⟩
    have hbytes := h.bytes.symm.trans hx
    obtain ⟨rfl, rfl⟩ :=
      sectionsWith_append_inj h.allowed h.fits.allowed_standardSlack hbytes
    exact ⟨rfl, hends⟩
  · rintro ⟨rfl, hends⟩
    exact ⟨tail, h.bytes, hends⟩

/-- A byte string that is accepted as a bundle is laid out as it, and it is canonical exactly
when the two flags in it are 0 or 1, nothing follows the fingerprint in its section, and nothing
follows the signer identity. -/
theorem canonical_of_accepted_iff (h : deserialize json x = .ok b) :
  (∃ slack tail, LaidOut json x slack tail b) ∧
  ∀ slack tail, LaidOut json x slack tail b →
    (Canonical x b ↔
      (slack.anchorFlag = 0 ∨ slack.anchorFlag = 1) ∧
      (slack.circuitFlag = 0 ∨ slack.circuitFlag = 1) ∧ slack.unread = [] ∧
      EndsExactly tail)
  := by
  constructor
  · apply laidOut_of_deserialize h
  · intro slack tail hlaid
    rw [hlaid.canonical_iff, eq_standardSlack_iff hlaid.allowed, and_assoc, and_assoc]

/-- The slack of a bundle without an anchor and a circuit whose flag for the anchor is 2. -/
def strayFlag : Slack := ⟨2, 0, []⟩

theorem allowed_strayFlag :
  strayFlag.Allowed blank
  := by
  constructor
  · decide
  · decide
  · decide

/-- The layout of the blank bundle with the flag 2 is accepted. -/
theorem laidOut_strayFlag :
  LaidOut SignerIdentity.defaultCodec (blank.sectionsWith strayFlag) strayFlag [] blank
  where
  magic := rfl
  named := rfl
  fits := sectionsFit_blank
  allowed := allowed_strayFlag
  bytes := (List.append_nil _).symm
  identity := rfl

/-- What is written of the blank bundle is canonical. -/
theorem canonical_sections_blank :
  Canonical blank.sections blank
  := by
  have hread : deserialize SignerIdentity.defaultCodec blank.sections = .ok blank := by
    have h := deserialize_sections_append SignerIdentity.defaultCodec rfl sectionsFit_blank []
    rwa [List.append_nil] at h
  obtain ⟨⟨slack, tail, hlaid⟩, hiff⟩ := canonical_of_accepted_iff hread
  have hbytes : blank.sectionsWith blank.standardSlack ++ [] = blank.sectionsWith slack ++ tail := by
    rw [List.append_nil, ← hlaid.bytes, sections]
  obtain ⟨rfl, rfl⟩ :=
    sectionsWith_append_inj sectionsFit_blank.allowed_standardSlack hlaid.allowed hbytes
  apply (hiff _ _ hlaid).mpr
  exact ⟨Or.inl rfl, Or.inl rfl, rfl, Or.inl rfl⟩

/-- The blank bundle with the flag 2 is accepted, and it is not canonical. -/
theorem accepted_strayFlag :
  deserialize SignerIdentity.defaultCodec (blank.sectionsWith strayFlag) = .ok blank ∧
    ¬ Canonical (blank.sectionsWith strayFlag) blank
  := by
  constructor
  · apply deserialize_eq_ok_iff.mpr
    exact ⟨_, _, laidOut_strayFlag⟩
  · rw [laidOut_strayFlag.canonical_iff]
    rintro ⟨hslack, -⟩
    revert hslack
    decide

end CacheeArchiveBundle

end Cachee
