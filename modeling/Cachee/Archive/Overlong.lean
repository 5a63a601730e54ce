import Cachee.Archive.Contents
import Cachee.Archive.Truncation
import Cachee.Library.Lines

/-!
# Bundles that do not fit

The writer casts the length of a field to the width of its prefix.  A field that is too long is
written after a smaller length, and the bytes behind that many of its own stand where the next
sections are read.  Whether they are read as sections depends on them.  But of any lengths that do
not all fit, there is a bundle whose fields have these lengths and that is read back as another one,
while a bundle whose fields all fit is read back as itself.
-/

open Text

namespace Cachee

open PrefixedField

namespace CacheeArchiveBundle

variable {json : JsonCodec SignerIdentity} {b : CacheeArchiveBundle} {identity : SignerIdentity}

/-! ### A section of bytes that is too long -/

/-- Sections without contents are short. -/
theorem length_writeContents_nil (fields : List PrefixedField) :
  (writeContents (fun _ => []) fields).length ≤ 4 * fields.length
  := by
  induction fields with
  | nil => rfl
  | cons f fields ih =>
    have hwidth : f.width ≤ 4 := by
      cases f with
      | _ => decide
    have hcons : writeContents (fun _ => []) (f :: fields)
        = beBytes f.width 0 ++ writeContents (fun _ => []) fields := by
      simp [writeContents, writeLengthPrefixed]
    rw [hcons, List.length_append, length_beBytes, List.length_cons]
    omega

/-- Of the sections of bytes that are too long, there is a first one. -/
theorem exists_first_overlong {ℓ : PrefixedField → ℕ} (h : ∃ f ∈ byteSections, f.limit ≤ ℓ f) :
  ∃ pre f post, byteSections = pre ++ f :: post ∧ (∀ g ∈ pre, ℓ g < g.limit) ∧ f.limit ≤ ℓ f
  := by
  cases hfirst : byteSections.find? fun g => decide (g.limit ≤ ℓ g) with
  | none =>
    obtain ⟨f, hmem, hf⟩ := h
    exact absurd (decide_eq_true hf) (List.find?_eq_none.mp hfirst f hmem)
  | some f =>
    obtain ⟨hf, pre, post, hsplit, hpre⟩ := List.find?_eq_some_iff_append.mp hfirst
    refine ⟨pre, f, post, hsplit, ?_, of_decide_eq_true hf⟩
    intro g hg
    simpa using hpre g hg

section Overlong

variable {pre post : List PrefixedField} {f : PrefixedField} (ℓ : PrefixedField → ℕ)

/-- The sections of the blank bundle behind one of its sections of bytes. -/
def emptyBack (post : List PrefixedField) : Bytes :=
  writeContents (fun _ => []) post ++ back blank.standardSlack blank

/-- The contents of a bundle that is read back as another one: the bytes of `f` behind those that
its prefix counts are the next sections. -/
def overlongContent (post : List PrefixedField) (f g : PrefixedField) : Bytes :=
  if g = f then
    List.replicate (ℓ f % f.limit) 0
      ++ (emptyBack post ++ List.replicate (ℓ f - ℓ f % f.limit - (emptyBack post).length) 0)
  else List.replicate (ℓ g) 0

/-- The contents that are read back. -/
def readContent (pre : List PrefixedField) (f g : PrefixedField) : Bytes :=
  if g = f then List.replicate (ℓ f % f.limit) 0
  else if g ∈ pre then List.replicate (ℓ g) 0
  else []

variable {ℓ}

/-- A length that does not fit counts enough bytes too few. -/
theorem le_sub_mod {n m : ℕ} (hn : 0 < n) (h : n ≤ m) :
  n ≤ m - m % n
  := by
  have hdiv := Nat.div_add_mod m n
  have hone : 1 ≤ m / n := Nat.div_pos h hn
  have hle : n * 1 ≤ n * (m / n) := Nat.mul_le_mul_left n hone
  omega

theorem length_emptyBack_le (hsplit : byteSections = pre ++ f :: post) (hf : f.limit ≤ ℓ f) :
  (emptyBack post).length ≤ ℓ f - ℓ f % f.limit
  := by
  have hlimit := f.le_limit
  have hmod := le_sub_mod (by omega) hf
  have hcontents := length_writeContents_nil post
  have hlen := congrArg List.length hsplit
  have hback : (back blank.standardSlack blank).length = 108 := by decide
  have hseven : byteSections.length = 7 := rfl
  rw [List.length_append, List.length_cons] at hlen
  rw [emptyBack, List.length_append, hback]
  omega

theorem length_overlongContent (hsplit : byteSections = pre ++ f :: post) (hf : f.limit ≤ ℓ f)
    (g : PrefixedField) :
  (overlongContent ℓ post f g).length = ℓ g
  := by
  unfold overlongContent
  split
  · rename_i heq
    subst heq
    have hback := length_emptyBack_le hsplit hf
    have hmod := Nat.mod_le (ℓ g) g.limit
    simp only [List.length_append, List.length_replicate]
    omega
  · apply List.length_replicate

/-- The bundle with too long a section is written as the sections of another bundle, and then some
more. -/
theorem exists_serialize_overlong (hsplit : byteSections = pre ++ f :: post)
    (hf : f.limit ≤ ℓ f) {base : CacheeArchiveBundle} (hfront : base.front = blank.front) :
  ∃ tail, (base.withContents (overlongContent ℓ post f)).serialize json
    = (blank.withContents (readContent ℓ pre f)).sections ++ tail
  := by
  have hnodup : (pre ++ f :: post).Nodup := by
    rw [← hsplit]
    decide
  obtain ⟨-, hpost, hdisjoint⟩ := List.nodup_append.mp hnodup
  have hpre : writeContents (overlongContent ℓ post f) pre
      = writeContents (readContent ℓ pre f) pre := by
    apply writeContents_congr
    intro g hg
    have hne : g ≠ f := hdisjoint g hg f (by simp)
    rw [overlongContent, if_neg hne, readContent, if_neg hne, if_pos hg]
  have hafter : writeContents (readContent ℓ pre f) post = writeContents (fun _ => []) post := by
    apply writeContents_congr
    intro g hg
    have hne : g ≠ f := by
      rintro rfl
      exact (List.nodup_cons.mp hpost).1 hg
    have hnotin : g ∉ pre := fun hpre => hdisjoint g hpre g (by simp [hg]) rfl
    rw [readContent, if_neg hne, if_neg hnotin]
  have hfield : writeLengthPrefixed f.width (overlongContent ℓ post f f)
      = writeLengthPrefixed f.width (readContent ℓ pre f f) ++ (emptyBack post
        ++ List.replicate (ℓ f - ℓ f % f.limit - (emptyBack post).length) 0) := by
    have hmod := length_overlongContent hsplit hf f
    rw [overlongContent, if_pos rfl] at hmod ⊢
    rw [readContent, if_pos rfl]
    apply writeLengthPrefixed_append_of_mod
    rw [hmod, List.length_replicate]
    rfl
  use List.replicate (ℓ f - ℓ f % f.limit - (emptyBack post).length) 0
    ++ (writeContents (overlongContent ℓ post f) post
    ++ (back base.standardSlack base
    ++ writeLengthPrefixedU32 (json.toVecOrDefault base.signerIdentity)))
  rw [serialize_eq, sections, sections, sectionsWith_withContents, sectionsWith_withContents,
    hfront, hsplit, writeContents_append, writeContents_append, writeContents_cons,
    writeContents_cons, hpre, hafter, hfield, emptyBack]
  simp only [List.append_assoc]
  rfl

end Overlong

/-- Writing a bundle does not corrupt it: what is written is read back as the bundle, up to its
computation type, or not at all. -/
def NeverCorrupted (json : JsonCodec SignerIdentity) (b : CacheeArchiveBundle) : Prop :=
  ∀ b', deserialize json (b.serialize json) = .ok b' → b' = b.withNamedType

/-- The lengths do not depend on what is read for the computation type and the identity. -/
theorem lengthIn_withNamedType (b : CacheeArchiveBundle) (identity : SignerIdentity)
    (f : PrefixedField) :
  f.lengthIn { b.withNamedType with signerIdentity := identity } = f.lengthIn b
  := by
  cases f with
  | _ => rfl

/-- A bundle is corrupted when what is written of it starts with the sections of a bundle with
another length of some field. -/
theorem not_neverCorrupted_of_sections {b' : CacheeArchiveBundle} {tail : Bytes}
    (hmagic : b'.magic = cabMagic) (hfits : b'.SectionsFit) {slack : Slack}
    (hslack : slack.Allowed b') (hbytes : b.serialize json = b'.sectionsWith slack ++ tail)
    {f : PrefixedField} (hne : f.lengthIn b' ≠ f.lengthIn b) :
  ¬ NeverCorrupted json b
  := by
  intro hkept
  have hread := deserialize_sectionsWith json hmagic hfits hslack tail
  rw [← hbytes] at hread
  apply hne
  rw [← lengthIn_withNamedType b' (identityOf json tail), hkept _ hread]
  apply lengthIn_withNamedType b b.signerIdentity

theorem length_readContent_lt {pre : List PrefixedField} {f : PrefixedField}
    {ℓ : PrefixedField → ℕ} (hpre : ∀ g ∈ pre, ℓ g < g.limit) (g : PrefixedField) :
  (readContent ℓ pre f g).length < g.limit
  := by
  have hlimit := g.le_limit
  unfold readContent
  split
  · rename_i heq
    subst heq
    rw [List.length_replicate]
    apply Nat.mod_lt
    omega
  · split
    · rename_i hg
      rw [List.length_replicate]
      apply hpre g hg
    · rw [List.length_nil]
      omega

/-- A bundle with too long a section of bytes, before which all sections fit, is corrupted if the
bytes of the section are the next sections. -/
theorem not_neverCorrupted_overlongContent {pre post : List PrefixedField} {f : PrefixedField}
    {ℓ : PrefixedField → ℕ} (hsplit : byteSections = pre ++ f :: post)
    (hpre : ∀ g ∈ pre, ℓ g < g.limit) (hf : f.limit ≤ ℓ f) {base : CacheeArchiveBundle}
    (hfront : base.front = blank.front) :
  ¬ NeverCorrupted json (base.withContents (overlongContent ℓ post f))
  := by
  obtain ⟨tail, hbytes⟩ := @exists_serialize_overlong json pre post f ℓ hsplit hf base hfront
  have hmem : f ∈ byteSections := by
    rw [hsplit]
    simp
  have hfits : (blank.withContents (readContent ℓ pre f)).SectionsFit :=
    sectionsFit_withContents (fun g _ => length_readContent_lt hpre g)
      ComputationFingerprint.fits_empty
  apply not_neverCorrupted_of_sections rfl hfits hfits.allowed_standardSlack hbytes (f := f)
  rw [lengthIn, lengthIn, contentIn_withContents hmem, contentIn_withContents hmem,
    length_overlongContent hsplit hf, readContent, if_pos rfl, List.length_replicate]
  have hlt := Nat.mod_lt (ℓ f) (Nat.lt_of_lt_of_le (by decide) f.le_limit)
  omega

/-! ### A text of the fingerprint that is too long -/

/-- The text of `n` zero characters. -/
def nul (n : ℕ) : String := String.ofList (List.replicate n '\x00')

theorem asBytes_nul (n : ℕ) :
  asBytes (nul n) = List.replicate n 0
  := by
  rw [asBytes_eq_flatMap, nul, String.toList_ofList, List.flatMap_replicate]
  have hzero : String.utf8EncodeChar '\x00' = [0] := by decide
  rw [hzero, List.flatten_replicate_singleton]

@[simp]
theorem length_asBytes_nul (n : ℕ) :
  (asBytes (nul n)).length = n
  := by
  rw [asBytes_nul, List.length_replicate]

open ComputationFingerprint

/-- A text of zero characters is written as one that fits, and then zeros. -/
theorem stringBytes_nul (n : ℕ) :
  stringBytes (nul n) = stringBytes (nul (n % 2 ^ 16)) ++ List.replicate (n - n % 2 ^ 16) 0
  := by
  have hmod := Nat.mod_le n (2 ^ 16)
  have hsum : List.replicate n (0 : UInt8)
      = List.replicate (n % 2 ^ 16) 0 ++ List.replicate (n - n % 2 ^ 16) 0 := by
    rw [List.replicate_append_replicate, Nat.add_sub_cancel' hmod]
  have hwritten := @writeLengthPrefixed_append_of_mod 2 (List.replicate (n % 2 ^ 16) 0)
    (List.replicate (n - n % 2 ^ 16) 0) (by rw [← hsum]; simp)
  rw [← hsum] at hwritten
  rw [stringBytes, stringBytes, asBytes_nul, asBytes_nul]
  apply hwritten

/-- Behind a text of zero characters that is too long, there are zeros for all that follows. -/
theorem stringBytes_nul_of_le {n : ℕ} (hn : 2 ^ 16 ≤ n) {k : ℕ} (hk : k ≤ 2 ^ 16) :
  ∃ unread, stringBytes (nul n)
    = stringBytes (nul (n % 2 ^ 16)) ++ (List.replicate k 0 ++ unread)
  := by
  have hmod := le_sub_mod (by decide) hn
  use List.replicate (n - n % 2 ^ 16 - k) 0
  rw [stringBytes_nul, List.replicate_append_replicate, Nat.add_sub_cancel' (hk.trans hmod)]

/-- The fingerprint of zero hashes with some texts. -/
def textFingerprint (text : PrefixedField → String) : ComputationFingerprint :=
  { ComputationFingerprint.empty with
    version := ⟨text .engine, text .version, some (text .circuitId)⟩
    hardwareClass := some (.nonDeterministic (text .hardwareId)) }

/-- The one whose texts are zero characters, of some lengths. -/
def nulFingerprint (ℓ : PrefixedField → ℕ) : ComputationFingerprint :=
  textFingerprint fun f => nul (ℓ f)

/-- What is written of such a fingerprint, whatever the lengths, starts with what is written of a
fingerprint that fits. -/
theorem exists_toBytes_nulFingerprint (ℓ : PrefixedField → ℕ) :
  ∃ (fingerprint : ComputationFingerprint) (circuitFlag : UInt8) (unread : Bytes),
    fingerprint.Fits ∧ (circuitFlag = 1 ↔ fingerprint.version.circuitId.isSome) ∧
    (nulFingerprint ℓ).toBytes = fingerprint.bytesWith circuitFlag ++ unread
  := by
  have hfits {n : ℕ} (hn : n < 2 ^ 16) : StringFits (nul n) := by
    rw [StringFits, length_asBytes_nul]
    apply hn
  have hmod (n : ℕ) : n % 2 ^ 16 < 2 ^ 16 := Nat.mod_lt _ (by decide)
  have hnone : StringFits "" := by decide
  by_cases hengine : ℓ .engine < 2 ^ 16
  · by_cases hversion : ℓ .version < 2 ^ 16
    · by_cases hcircuit : ℓ .circuitId < 2 ^ 16
      · refine ⟨{ ComputationFingerprint.empty with
          version := ⟨nul (ℓ .engine), nul (ℓ .version), some (nul (ℓ .circuitId))⟩
          hardwareClass := some (.nonDeterministic (nul (ℓ .hardwareId % 2 ^ 16))) }, 1,
          List.replicate (ℓ .hardwareId - ℓ .hardwareId % 2 ^ 16) 0, ?_, by simp, ?_⟩
        · refine ⟨hfits hengine, hfits hversion, ?_, ?_⟩
          · rintro id ⟨⟩
            apply hfits hcircuit
          · rintro id ⟨⟩
            apply hfits (hmod _)
        · simp only [toBytes, bytesWith, nulFingerprint, textFingerprint, circuitBytes,
            hardwareBytes, flaggedBytes, Option.elim_some, stringBytes_nul (ℓ .hardwareId),
            List.append_assoc, List.cons_append]
      · obtain ⟨unread, hunread⟩ := @stringBytes_nul_of_le (ℓ .circuitId) (by omega) 1 (by decide)
        refine ⟨{ ComputationFingerprint.empty with
          version := ⟨nul (ℓ .engine), nul (ℓ .version), some (nul (ℓ .circuitId % 2 ^ 16))⟩ }, 1,
          unread ++ hardwareBytes (nulFingerprint ℓ).hardwareClass, ?_, by simp, ?_⟩
        · refine ⟨hfits hengine, hfits hversion, ?_, ?_⟩
          · rintro id ⟨⟩
            apply hfits (hmod _)
          · rintro id ⟨⟩
        · simp only [toBytes, bytesWith, nulFingerprint, textFingerprint, circuitBytes,
            flaggedBytes, Option.elim_some, hunread, List.append_assoc, List.cons_append]
          rfl
    · obtain ⟨unread, hunread⟩ := @stringBytes_nul_of_le (ℓ .version) (by omega) 2 (by decide)
      refine ⟨{ ComputationFingerprint.empty with
        version := ⟨nul (ℓ .engine), nul (ℓ .version % 2 ^ 16), none⟩ }, 0,
        unread ++ (circuitBytes (nulFingerprint ℓ).version.circuitId
          ++ hardwareBytes (nulFingerprint ℓ).hardwareClass), ?_, by simp, ?_⟩
      · refine ⟨hfits hengine, hfits (hmod _), ?_, ?_⟩
        · rintro id ⟨⟩
        · rintro id ⟨⟩
      · simp only [toBytes, bytesWith, nulFingerprint, textFingerprint, flaggedBytes, hunread,
          List.append_assoc]
        rfl
  · obtain ⟨unread, hunread⟩ := @stringBytes_nul_of_le (ℓ .engine) (by omega) 4 (by decide)
    refine ⟨{ ComputationFingerprint.empty with
      version := ⟨nul (ℓ .engine % 2 ^ 16), "", none⟩ }, 0,
      unread ++ (stringBytes (nul (ℓ .version)) ++ (circuitBytes
        (nulFingerprint ℓ).version.circuitId
        ++ hardwareBytes (nulFingerprint ℓ).hardwareClass)), ?_, by simp, ?_⟩
    · refine ⟨hfits (hmod _), hnone, ?_, ?_⟩
      · rintro id ⟨⟩
      · rintro id ⟨⟩
    · simp only [toBytes, bytesWith, nulFingerprint, textFingerprint, flaggedBytes, hunread,
        List.append_assoc]
      rfl

/-- The length of what is written of a fingerprint with a circuit and a hardware identifier, of the
lengths of its texts. -/
def fingerprintLength (ℓ : PrefixedField → ℕ) : ℕ :=
  106 + ℓ .engine + ℓ .version + ℓ .circuitId + ℓ .hardwareId

theorem length_toBytes_textFingerprint {ℓ : PrefixedField → ℕ} {text : PrefixedField → String}
    (htext : ∀ f ∉ byteSections, (asBytes (text f)).length = ℓ f) :
  (textFingerprint text).toBytes.length = fingerprintLength ℓ
  := by
  have hzero : (Block.zero 32).1.length = 32 := rfl
  have hengine := htext .engine (by decide)
  have hversion := htext .version (by decide)
  have hcircuit := htext .circuitId (by decide)
  have hhardware := htext .hardwareId (by decide)
  simp only [toBytes, textFingerprint, ComputationFingerprint.empty, stringBytes, circuitBytes,
    hardwareBytes, List.length_append, List.length_cons, length_beBytes, hzero, hengine, hversion,
    hcircuit, hhardware, fingerprintLength]
  omega

/-! ### The lengths of bundles that are not corrupted -/

/-- The bundle of an identity with zeros in all fields, of some lengths. -/
def zerosBundle (ℓ : PrefixedField → ℕ) (identity : SignerIdentity) : CacheeArchiveBundle :=
  { blank with
    computationFingerprint := nulFingerprint ℓ
    signerIdentity := identity }.withContents fun f => List.replicate (ℓ f) 0

section Lengths

variable {ℓ : PrefixedField → ℕ}

/-- The lengths of a bundle with a fingerprint of some texts. -/
theorem lengthIn_textFingerprint (text : PrefixedField → String) {base : CacheeArchiveBundle}
    {content : PrefixedField → Bytes} (hbase : base.computationFingerprint = textFingerprint text)
    (htext : ∀ f ∉ byteSections, (asBytes (text f)).length = ℓ f)
    (h : ∀ f ∈ byteSections, (content f).length = ℓ f) (f : PrefixedField) :
  f.lengthIn (base.withContents content) = ℓ f
  := by
  by_cases hf : f ∈ byteSections
  · rw [lengthIn, contentIn_withContents hf]
    apply h f hf
  · rw [← htext f hf]
    cases f with
    | engine => rw [lengthIn, contentIn, withContents, hbase, textFingerprint]
    | version => rw [lengthIn, contentIn, withContents, hbase, textFingerprint]
    | circuitId =>
      rw [lengthIn, contentIn, withContents, hbase, textFingerprint]
      rfl
    | hardwareId =>
      rw [lengthIn, contentIn, withContents, hbase, textFingerprint]
      rfl
    | _ => exact absurd (by decide) hf

theorem lengthIn_zerosBundle (f : PrefixedField) :
  f.lengthIn (zerosBundle ℓ identity) = ℓ f
  := by
  apply lengthIn_textFingerprint (fun f => nul (ℓ f)) rfl
  · intro f _
    apply length_asBytes_nul
  · intro f _
    apply List.length_replicate

/-- Zeros are corrupted if a text of the fingerprint is too long, and the sections of bytes fit. -/
theorem not_neverCorrupted_zerosBundle (hbytes : ∀ f ∈ byteSections, ℓ f < f.limit)
    {f : PrefixedField} (hf : f.limit ≤ ℓ f) (htotal : fingerprintLength ℓ < 2 ^ 32) :
  ¬ NeverCorrupted json (zerosBundle ℓ identity)
  := by
  obtain ⟨fingerprint, circuitFlag, unread, hfits, hflag, htoBytes⟩ :=
    exists_toBytes_nulFingerprint ℓ
  let b' := { blank with computationFingerprint := fingerprint }.withContents fun f =>
    List.replicate (ℓ f) 0
  have hb' : b'.SectionsFit := by
    apply sectionsFit_withContents _ hfits
    intro g hg
    rw [List.length_replicate]
    apply hbytes g hg
  have hslack : Slack.Allowed ⟨0, circuitFlag, unread⟩ b' := by
    refine ⟨by simp [b', withContents, blank], hflag, ?_⟩
    have hlen : (nulFingerprint ℓ).toBytes.length = fingerprintLength ℓ :=
      length_toBytes_textFingerprint fun f _ => length_asBytes_nul (ℓ f)
    rw [htoBytes] at hlen
    exact Nat.lt_of_le_of_lt hlen.le htotal
  have hwritten : (zerosBundle ℓ identity).serialize json
      = b'.sectionsWith ⟨0, circuitFlag, unread⟩
        ++ writeLengthPrefixedU32 (json.toVecOrDefault identity) := by
    have hfingerprint : (zerosBundle ℓ identity).computationFingerprint = nulFingerprint ℓ := rfl
    rw [serialize, hfingerprint, htoBytes]
    simp only [sectionsWith, List.append_assoc]
    rfl
  -- The field that is too long has a length that fits when it is read back.
  have hne : f.lengthIn b' ≠ f.lengthIn (zerosBundle ℓ identity) := by
    have hlt := sectionsFit_iff_lengthIn.mp hb' f
    rw [lengthIn_zerosBundle]
    omega
  apply not_neverCorrupted_of_sections rfl hb' hslack hwritten hne

/-- Of any lengths that do not all fit, some bundle is corrupted. -/
theorem exists_not_neverCorrupted (json : JsonCodec SignerIdentity) (identity : SignerIdentity)
    (htotal : fingerprintLength ℓ < 2 ^ 32) {f : PrefixedField} (hf : f.limit ≤ ℓ f) :
  ∃ b : CacheeArchiveBundle, b.magic = cabMagic ∧ b.signerIdentity = identity ∧
    (∀ f : PrefixedField, f.lengthIn b = ℓ f) ∧ ¬ NeverCorrupted json b
  := by
  by_cases hlong : ∃ g ∈ byteSections, g.limit ≤ ℓ g
  · obtain ⟨pre, g, post, hsplit, hpre, hg⟩ := exists_first_overlong hlong
    let base : CacheeArchiveBundle :=
      { blank with
        computationFingerprint := nulFingerprint ℓ
        signerIdentity := identity }
    refine ⟨base.withContents (overlongContent ℓ post g), rfl, rfl, ?_,
      not_neverCorrupted_overlongContent hsplit hpre hg rfl⟩
    apply lengthIn_textFingerprint (fun f => nul (ℓ f)) rfl
    · intro f _
      apply length_asBytes_nul
    · intro f _
      apply length_overlongContent hsplit hg
  · have hbytes : ∀ g ∈ byteSections, ℓ g < g.limit := by
      simpa using hlong
    exact ⟨zerosBundle ℓ identity, rfl, rfl, lengthIn_zerosBundle,
      not_neverCorrupted_zerosBundle hbytes hf htotal⟩

end Lengths

/-- An identity whose JSON text does not fit its length prefix is read as the default one, if no
strict prefix of its text is the text of an identity. -/
theorem identityOf_overlong {data : Bytes} (hlong : 2 ^ 32 ≤ data.length)
    (hprefixes : ∀ text, text <+: data → text ≠ data →
      ∀ identity, json.fromSlice text ≠ .ok identity) :
  identityOf json (writeLengthPrefixedU32 data) = .default
  := by
  have hlen : beNat (beBytes 4 data.length) = data.length % 2 ^ 32 := beNat_beBytes 4 _
  have hlt : data.length % 2 ^ 32 < data.length :=
    (Nat.mod_lt _ (by decide)).trans_le hlong
  have htake : (writeLengthPrefixedU32 data).take 4 = beBytes 4 data.length := by
    rw [writeLengthPrefixedU32, writeLengthPrefixed, List.take_left' (length_beBytes 4 _)]
  have hdrop : (writeLengthPrefixedU32 data).drop 4 = data := by
    rw [writeLengthPrefixedU32, writeLengthPrefixed, List.drop_left' (length_beBytes 4 _)]
  have hcut : data.take (data.length % 2 ^ 32) ≠ data := by
    intro h
    have hlength := congrArg List.length h
    rw [List.length_take] at hlength
    omega
  have hread := hprefixes _ (List.take_prefix _ data) hcut
  unfold identityOf JsonCodec.fromSliceOr
  simp only [htake, hdrop, hlen]
  split
  · rfl
  · split
    · rename_i identity hidentity
      exact absurd hidentity (hread identity)
    · rfl

section Identity

variable (hempty : ∀ identity, json.fromSlice [] ≠ .ok identity)
  (hjson : json.RoundTripsAt identity)
  (hprefixes : ∀ text, text <+: json.toVecOrDefault identity → text ≠ json.toVecOrDefault identity →
    ∀ identity, json.fromSlice text ≠ .ok identity)
  (hdefault : (json.toVecOrDefault .default).length < 2 ^ 32)

include hempty hjson hprefixes hdefault

/-- A bundle whose sections fit is not corrupted exactly when the text of its identity fits. -/
theorem neverCorrupted_iff_of_sectionsFit (hmagic : b.magic = cabMagic)
    (hidentity : b.signerIdentity = identity) (hfits : b.SectionsFit) :
  NeverCorrupted json b ↔ (json.toVecOrDefault identity).length < 2 ^ 32
  := by
  subst hidentity
  constructor
  · intro hkept
    by_contra hlong
    have hread := deserialize_sections_append json hmagic hfits
      (writeLengthPrefixedU32 (json.toVecOrDefault b.signerIdentity))
    rw [identityOf_overlong (not_lt.mp hlong) hprefixes, ← serialize_eq] at hread
    have hsame : SignerIdentity.default = b.signerIdentity :=
      congrArg signerIdentity (hkept _ hread)
    rw [← hsame] at hlong
    exact hlong hdefault
  · intro hlen b' hread
    rw [deserialize_serialize_eq hempty hjson hmagic hfits hlen] at hread
    exact (Except.ok.inj hread).symm

/-- A bundle with the right magic bytes whose fields fit is not corrupted exactly when the JSON text
of its identity fits too.  Of any lengths of the fields and any identity, no bundle is corrupted
exactly when all of them fit, as long as the fingerprint is written on less than `2 ^ 32` bytes.  Of
the text of the identity it is assumed that it is read back, and that no strict prefix of it is the
text of an identity; the text of the default identity fits its length prefix. -/
theorem neverCorrupted_iff :
  (∀ b : CacheeArchiveBundle, b.magic = cabMagic → b.signerIdentity = identity →
    (∀ f : PrefixedField, f.lengthIn b < f.limit) →
      (NeverCorrupted json b ↔ (json.toVecOrDefault identity).length < 2 ^ 32)) ∧
  ∀ ℓ : PrefixedField → ℕ, fingerprintLength ℓ < 2 ^ 32 →
    ((∀ b : CacheeArchiveBundle, b.magic = cabMagic → b.signerIdentity = identity →
        (∀ f : PrefixedField, f.lengthIn b = ℓ f) → NeverCorrupted json b) ↔
      (∀ f : PrefixedField, ℓ f < f.limit) ∧ (json.toVecOrDefault identity).length < 2 ^ 32)
  := by
  have hfits : ∀ b : CacheeArchiveBundle, b.magic = cabMagic → b.signerIdentity = identity →
      (∀ f : PrefixedField, f.lengthIn b < f.limit) →
        (NeverCorrupted json b ↔ (json.toVecOrDefault identity).length < 2 ^ 32) := by
    intro b hmagic hidentity hlengths
    apply neverCorrupted_iff_of_sectionsFit hempty hjson hprefixes hdefault hmagic hidentity
    apply sectionsFit_iff_lengthIn.mpr hlengths
  refine ⟨hfits, ?_⟩
  intro ℓ htotal
  constructor
  · intro hkept
    have hlengths : ∀ f : PrefixedField, ℓ f < f.limit := by
      intro f
      by_contra hf
      obtain ⟨b, hmagic, hidentity, hlengths, hcorrupted⟩ :=
        exists_not_neverCorrupted json identity htotal (not_lt.mp hf)
      apply hcorrupted (hkept b hmagic hidentity hlengths)
    refine ⟨hlengths, ?_⟩
    apply (hfits (zerosBundle ℓ identity) rfl rfl _).mp
    · apply hkept _ rfl rfl lengthIn_zerosBundle
    · intro f
      rw [lengthIn_zerosBundle]
      apply hlengths
  · rintro ⟨hlengths, hlen⟩ b hmagic hidentity hb
    apply (hfits b hmagic hidentity _).mpr hlen
    intro f
    rw [hb]
    apply hlengths

end Identity

/-- The blank bundle is not corrupted. -/
theorem neverCorrupted_blank :
  NeverCorrupted SignerIdentity.defaultCodec blank
  := by
  have hne : ([] : Bytes) ≠ asBytes SignerIdentity.defaultJson := by decide +kernel
  have hlen : (SignerIdentity.defaultCodec.toVecOrDefault .default).length < 2 ^ 32 := by
    decide +kernel
  have hiff := @neverCorrupted_iff SignerIdentity.defaultCodec .default
    (JsonCodec.fromSlice_only_ne hne) (JsonCodec.roundTripsAt_only _ _)
    (fun text _ htext => JsonCodec.fromSlice_only_ne htext) hlen
  apply (hiff.1 blank rfl rfl (sectionsFit_iff_lengthIn.mp sectionsFit_blank)).mpr hlen

/-- The fingerprint of zeros of the engine that is named by `n` zero characters. -/
def longEngine (n : ℕ) : ComputationFingerprint :=
  { ComputationFingerprint.empty with
    version := ⟨nul n, "", none⟩ }

/-- Where the length of the name is written as zero, its first characters stand where the
version, the circuit and the hardware are read, and the others are not read. -/
theorem toBytes_longEngine {n : ℕ} (hn : beBytes 2 n = [0, 0]) :
  (longEngine n).toBytes = ComputationFingerprint.empty.bytesWith 0 ++ List.replicate n 0
  := by
  have hcommute : List.replicate n (0 : UInt8) ++ List.replicate 4 0
      = List.replicate 4 0 ++ List.replicate n 0 := by
    rw [List.replicate_append_replicate, List.replicate_append_replicate, Nat.add_comm]
  simp only [longEngine, toBytes, stringBytes, bytesWith, asBytes_nul, List.length_replicate, hn,
    List.append_assoc]
  apply congrArg (_ ++ ·)
  apply congrArg (_ ++ ·)
  apply congrArg (_ ++ ·)
  exact congrArg ([0, 0] ++ ·) hcommute

/-- The blank bundle with such a fingerprint. -/
def longEngineBundle (n : ℕ) : CacheeArchiveBundle :=
  { blank with computationFingerprint := longEngine n }

/-- What is written of the bundle with such a name is a layout of the blank bundle. -/
theorem serialize_longEngineBundle (json : JsonCodec SignerIdentity) {n : ℕ}
    (hn : beBytes 2 n = [0, 0]) :
  (longEngineBundle n).serialize json = blank.sectionsWith ⟨0, 0, List.replicate n 0⟩
    ++ writeLengthPrefixedU32 (json.toVecOrDefault .default)
  := by
  have hfingerprint : (longEngineBundle n).computationFingerprint = longEngine n := rfl
  rw [serialize, hfingerprint, toBytes_longEngine hn]
  simp only [sectionsWith, List.append_assoc]
  rfl

/-- The layout is allowed while it is not too long. -/
theorem allowed_replicate {n : ℕ} (hn : n < 2 ^ 31) :
  Slack.Allowed ⟨0, 0, List.replicate n 0⟩ blank
  := by
  have hanchor : (0 : UInt8) = 1 ↔ blank.onChainAnchor.isSome := by decide
  have hcircuit : (0 : UInt8) = 1 ↔ blank.computationFingerprint.version.circuitId.isSome := by
    decide
  have hlen : (blank.computationFingerprint.bytesWith 0).length = 102 := rfl
  refine ⟨hanchor, hcircuit, ?_⟩
  rw [List.length_append, List.length_replicate, hlen]
  omega

/-- The bundle whose engine is named by 65536 zero characters is read back as the blank one. -/
theorem corrupted_longEngineBundle :
  deserialize SignerIdentity.defaultCodec
      ((longEngineBundle 65536).serialize SignerIdentity.defaultCodec) = .ok blank ∧
    blank ≠ (longEngineBundle 65536).withNamedType
  := by
  have hallowed : Slack.Allowed ⟨0, 0, List.replicate 65536 0⟩ blank :=
    allowed_replicate (by decide)
  constructor
  · rw [serialize_longEngineBundle _ (by decide),
      deserialize_sectionsWith SignerIdentity.defaultCodec rfl sectionsFit_blank hallowed]
    decide +kernel
  · intro heq
    have hengine := congrArg (fun b => asBytes b.computationFingerprint.version.engine) heq
    have hlen := congrArg List.length hengine
    simp only [withNamedType, longEngineBundle, longEngine] at hlen
    rw [length_asBytes_nul] at hlen
    revert hlen
    decide

end CacheeArchiveBundle

end Cachee
