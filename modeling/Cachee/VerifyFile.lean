import Cachee.Archive.Decodable
import Cachee.Federation

/-!
# The standalone verifier

The verifier reads the file of a bundle and reports whether it is valid.  It reports and
federation accepts more bundles than the verdict of the bundle calls valid: two valid
signatures are enough for them, whatever the other checks say.
-/

open Text

namespace Cachee

/-- The report of the verifier on a file. -/
structure BundleVerification where
  file : String
  valid : Bool
  magicOk : Bool
  version : UInt16
  computationType : String
  timestamp : UInt64
  fingerprintPresent : Bool
  mldsaValid : Bool
  falconValid : Bool
  slhdsaValid : Bool
  twoOfThree : Bool
  contentHashHex : String
  contentAddressHex : String
  engine : String
  engineVersion : String
  circuitId : Option String
  onChainAnchored : Bool
  posture : String
  error : Option String

/-- The report on a file without a bundle. -/
def BundleVerification.failed (file : String) (magicOk : Bool) (error : String) :
    BundleVerification where
  file := file
  valid := false
  magicOk := magicOk
  version := 0
  computationType := ""
  timestamp := 0
  fingerprintPresent := false
  mldsaValid := false
  falconValid := false
  slhdsaValid := false
  twoOfThree := false
  contentHashHex := ""
  contentAddressHex := ""
  engine := ""
  engineVersion := ""
  circuitId := none
  onChainAnchored := false
  posture := ""
  error := some error

/-- The debug text of a computation type. -/
def ComputationType.debug : ComputationType → String
  | biometricAuth => "BiometricAuth"
  | documentAttest => "DocumentAttest"
  | supplyChainVerify => "SupplyChainVerify"
  | financialAudit => "FinancialAudit"
  | aiModelAttest => "AIModelAttest"
  | postQuantumMigration => "PostQuantumMigration"
  | custom v => s!"Custom({v.toNat})"

/-- The report on a bundle that has been read. -/
def BundleVerification.ofBundle (sha3 : Bytes → Block 32) (lib : PqLibrary) (file : String)
    (magicOk : Bool) (bundle : CacheeArchiveBundle) : BundleVerification :=
  let result := bundle.verify lib
  let fp := bundle.computationFingerprint
  { file, magicOk
    valid := result.isValid || result.cryptographic.twoOfThree
    version := bundle.version
    computationType := bundle.computationType.debug
    timestamp := bundle.timestampNs
    fingerprintPresent := fp.isValid
    mldsaValid := result.cryptographic.mldsaValid
    falconValid := result.cryptographic.falconValid
    slhdsaValid := result.cryptographic.slhdsaValid
    twoOfThree := result.cryptographic.twoOfThree
    contentHashHex := hexEncode bundle.contentHash.1
    contentAddressHex := hexEncode (bundle.contentAddress sha3).1
    engine := fp.version.engine
    engineVersion := fp.version.version
    circuitId := fp.version.circuitId
    onChainAnchored := bundle.onChainAnchor.isSome
    posture := bundle.signerIdentity.posture
    error := none }

/-- Verify the file at a path, given its content or the error of reading it. -/
def verifyFile (sha3 : Bytes → Block 32) (lib : PqLibrary) (json : JsonCodec SignerIdentity)
    (path : String) (content : Except String Bytes) : Outcome BundleVerification :=
  match content with
  | .error e => .ok (.failed path false s!"Failed to read file: {e}")
  | .ok bytes =>
    let magicOk := 4 ≤ bytes.length && bytes.take 4 = cabMagic.1
    match CacheeArchiveBundle.deserialize json bytes with
    | .ok bundle => .ok (.ofBundle sha3 lib path magicOk bundle)
    | .error (.error e) => .ok (.failed path magicOk s!"Deserialization failed: {e}")
    | .error .panic => .error .panic

/-! ### What is reported valid -/

variable {sha3 : Bytes → Block 32} {lib : PqLibrary} {json : JsonCodec SignerIdentity}
  {path : String} {b : CacheeArchiveBundle}

/-- A bundle with the right magic bytes is reported valid when two of its signatures are. -/
theorem valid_ofBundle (hmagic : b.magic = cabMagic) (magicOk : Bool) :
  (BundleVerification.ofBundle sha3 lib path magicOk b).valid = b.twoOfThree lib
  := by
  obtain ⟨hvalid, htwo⟩ := CacheeArchiveBundle.verify_of_magic_eq lib hmagic
  simp only [BundleVerification.ofBundle, hvalid, htwo, CacheeArchiveBundle.coreValid]
  cases b.twoOfThree lib with
  | true => simp
  | false => simp

/-- The bundle that is read from some bytes has two valid signatures. -/
def ReadBackTwoOfThree (lib : PqLibrary) (json : JsonCodec SignerIdentity) (bytes : Bytes) :
    Prop :=
  ∃ b, CacheeArchiveBundle.deserialize json bytes = .ok b ∧ b.twoOfThree lib

/-- A file is always reported on, and as valid when the bundle that is read from it has two
valid signatures. -/
theorem verifyFile_eq (sha3 : Bytes → Block 32) (lib : PqLibrary)
    (json : JsonCodec SignerIdentity) (path : String) (bytes : Bytes) :
  ∃ r, verifyFile sha3 lib json path (.ok bytes) = .ok r ∧
    (r.valid ↔ ReadBackTwoOfThree lib json bytes)
  := by
  simp only [verifyFile, ReadBackTwoOfThree]
  rcases (CacheeArchiveBundle.safe_deserialize json bytes).cases with
    ⟨b, hread, hmagic, -⟩ | ⟨msg, hread⟩
  · simp only [hread, Except.ok.injEq, exists_eq_left']
    rw [valid_ofBundle hmagic]
  · simp [hread, BundleVerification.failed]

/-- A bundle whose sections fit has two valid signatures after it is read back when it has
them before. -/
theorem readBackTwoOfThree_serialize (hmagic : b.magic = cabMagic) (hb : b.SectionsFit) :
  ReadBackTwoOfThree lib json (b.serialize json) ↔ b.twoOfThree lib
  := by
  obtain ⟨identity, hread⟩ :=
    CacheeArchiveBundle.exists_deserialize_serialize_eq json hmagic hb
  simp only [ReadBackTwoOfThree, hread, Except.ok.injEq, exists_eq_left']
  rfl

/-- A bundle with other magic bytes is not read back. -/
theorem not_readBackTwoOfThree_serialize (lib : PqLibrary)
    (json : JsonCodec SignerIdentity) (hmagic : b.magic ≠ cabMagic) :
  ¬ ReadBackTwoOfThree lib json (b.serialize json)
  := by
  rintro ⟨b', hread, -⟩
  obtain ⟨-, htake⟩ := (CacheeArchiveBundle.safe_deserialize json _).of_eq_ok hread
  apply hmagic
  apply Subtype.ext
  rw [← htake, CacheeArchiveBundle.serialize, List.take_left' b.magic.2]

/-! ### Agreement with the verdict -/

/-- Both consumers of a bundle's verdict agree with it: the verifier reports the serialized
bundle as valid exactly when the verdict is valid, federation accepts only bundles with a valid
verdict, and neither passes a bundle whose hashes differ or whose timestamp is zero. -/
structure ConsumersAgree (sha3 : Bytes → Block 32) (lib : PqLibrary)
    (json : JsonCodec SignerIdentity) (path : String) (b : CacheeArchiveBundle) : Prop where
  verifier : ∃ r, verifyFile sha3 lib json path (.ok (b.serialize json)) = .ok r ∧
    (r.valid ↔ (b.verify lib).isValid)
  federation : ∀ trust trustedIssuers,
    acceptRemoteBundle sha3 lib b trust trustedIssuers = .accepted → (b.verify lib).isValid
  structural : b.primitive.valueHash ≠ b.contentHash ∨ b.timestampNs = 0 →
    (∀ r, verifyFile sha3 lib json path (.ok (b.serialize json)) = .ok r → ¬ r.valid) ∧
    ∀ trust trustedIssuers,
      acceptRemoteBundle sha3 lib b trust trustedIssuers ≠ .accepted

/-- The checks of the verdict besides the signatures. -/
def CacheeArchiveBundle.Consistent (b : CacheeArchiveBundle) : Prop :=
  b.primitive.valueHash = b.contentHash ∧ b.timestampNs ≠ 0

/-- The core checks are those of the signatures and of the consistency of the bundle. -/
theorem coreValid_iff :
  b.coreValid lib ↔ b.twoOfThree lib ∧ b.Consistent
  := by
  have hts : b.timestampValid ↔ b.timestampNs ≠ 0 := by
    simp [CacheeArchiveBundle.timestampValid, UInt64.pos_iff_ne_zero]
  simp only [CacheeArchiveBundle.coreValid, CacheeArchiveBundle.contentHashMatches,
    CacheeArchiveBundle.Consistent, Bool.and_eq_true, hts, decide_eq_true_eq]
  tauto

/-- The verdict is valid when the magic bytes are right and the core checks pass. -/
theorem isValid_iff :
  (b.verify lib).isValid ↔ b.magic = cabMagic ∧ b.twoOfThree lib ∧ b.Consistent
  := by
  by_cases hmagic : b.magic = cabMagic
  · rw [(CacheeArchiveBundle.verify_of_magic_eq lib hmagic).1, coreValid_iff]
    tauto
  · rw [(CacheeArchiveBundle.verify_of_magic_ne lib hmagic).1]
    tauto

/-- Federation agrees with the verdict when two valid signatures and a fingerprint come with
consistent hashes and a timestamp. -/
theorem federation_agrees_iff (sha3 : Bytes → Block 32) :
  (∀ trust trustedIssuers, acceptRemoteBundle sha3 lib b trust trustedIssuers = .accepted →
    (b.verify lib).isValid) ↔
  (b.magic = cabMagic → b.twoOfThree lib ∧ b.hasValidFingerprint → b.Consistent)
  := by
  constructor
  · rintro h hmagic ⟨htwo, hfingerprint⟩
    -- A boundary that admits every verifiable bundle accepts this one.
    have haccept : acceptRemoteBundle sha3 lib b .anyVerifiable [] = .accepted :=
      acceptRemoteBundle_of_passes hmagic htwo hfingerprint
    apply (isValid_iff.mp (h _ _ haccept)).2.2
  · intro h trust trustedIssuers haccept
    obtain ⟨hmagic, htwo, hfingerprint⟩ := passes_of_accepted haccept
    apply isValid_iff.mpr ⟨hmagic, htwo, h hmagic ⟨htwo, hfingerprint⟩⟩

/-- The agreement of the consumers in terms of the bundle that is read back. -/
theorem consumersAgree_iff_readBack :
  ConsumersAgree sha3 lib json path b ↔
    (ReadBackTwoOfThree lib json (b.serialize json) ↔ (b.verify lib).isValid) ∧
    (b.magic = cabMagic → b.twoOfThree lib ∧ b.hasValidFingerprint → b.Consistent)
  := by
  obtain ⟨r, hr, hvalid⟩ := verifyFile_eq sha3 lib json path (b.serialize json)
  rw [← federation_agrees_iff sha3]
  constructor
  · rintro ⟨⟨r', hr', hiff⟩, hfederation, -⟩
    obtain rfl := Except.ok.inj (hr.symm.trans hr')
    exact ⟨hvalid.symm.trans hiff, hfederation⟩
  · rintro ⟨hiff, hfederation⟩
    refine ⟨⟨r, hr, hvalid.trans hiff⟩, hfederation, ?_⟩
    intro hbad
    have hinvalid : ¬ (b.verify lib).isValid := by
      rw [isValid_iff, CacheeArchiveBundle.Consistent]
      tauto
    constructor
    · intro r' hr' hvalid'
      obtain rfl := Except.ok.inj (hr.symm.trans hr')
      apply hinvalid (hiff.mp (hvalid.mp hvalid'))
    · intro trust trustedIssuers haccept
      apply hinvalid (hfederation trust trustedIssuers haccept)

/-! ### Fields that are too long -/

/-- The keys and the signatures. -/
def signatureFields : List PrefixedField :=
  [.mldsa65Pk, .falcon512Pk, .slhdsa128fPk, .mldsa65Sig, .falcon512Sig, .slhdsa128fSig]

/-- A bundle whose keys and signatures fit is read back with them, if at all. -/
theorem CacheeArchiveBundle.twoOfThree_of_deserialize {b' : CacheeArchiveBundle}
    (hfits : ∀ f ∈ signatureFields, f.lengthIn b < f.limit)
    (hread : deserialize json (b.serialize json) = .ok b') :
  b'.twoOfThree lib = b.twoOfThree lib
  := by
  obtain ⟨slack, tail, hlaid⟩ := laidOut_of_deserialize hread
  have hfits' := sectionsFit_iff_lengthIn.mp hlaid.fits
  have hsplit : PrefixedField.byteSections = signatureFields ++ [.metadata] := rfl
  have hbytes := hlaid.bytes
  rw [serialize_eq, sections, sectionsWith_eq, sectionsWith_eq, hsplit, writeContents_append,
    writeContents_append] at hbytes
  simp only [List.append_assoc] at hbytes
  obtain ⟨hfront, hcontents⟩ := List.append_inj hbytes (by rw [length_front, length_front])
  have hhash := contentHash_eq_of_front hfront
  have hsame := (writeContents_append_inj hfits (fun f _ => hfits' f) hcontents).1
  have hmldsaPk : b.signerKeys.mldsa65 = b'.signerKeys.mldsa65 := hsame .mldsa65Pk (by decide)
  have hfalconPk : b.signerKeys.falcon512 = b'.signerKeys.falcon512 :=
    hsame .falcon512Pk (by decide)
  have hslhdsaPk : b.signerKeys.slhdsa128f = b'.signerKeys.slhdsa128f :=
    hsame .slhdsa128fPk (by decide)
  have hmldsaSig : b.signatures.mldsa65 = b'.signatures.mldsa65 := hsame .mldsa65Sig (by decide)
  have hfalconSig : b.signatures.falcon512 = b'.signatures.falcon512 :=
    hsame .falcon512Sig (by decide)
  have hslhdsaSig : b.signatures.slhdsa128f = b'.signatures.slhdsa128f :=
    hsame .slhdsa128fSig (by decide)
  have hmldsa : b'.mldsaValid lib = b.mldsaValid lib := by
    rw [mldsaValid, mldsaValid, hhash, hmldsaPk, hmldsaSig]
  have hfalcon : b'.falconValid lib = b.falconValid lib := by
    rw [falconValid, falconValid, hhash, hfalconPk, hfalconSig]
  have hslhdsa : b'.slhdsaValid lib = b.slhdsaValid lib := by
    rw [slhdsaValid, slhdsaValid, hhash, hslhdsaPk, hslhdsaSig]
  rw [twoOfThree, twoOfThree, hmldsa, hfalcon, hslhdsa]

/-- A bundle of decodable lengths has two valid signatures after it is read back when it has them
before. -/
theorem readBackTwoOfThree_of_decodable (hmagic : b.magic = cabMagic)
    (h : CacheeArchiveBundle.Decodable fun f => f.lengthIn b)
    (hlen : b.computationFingerprint.toBytes.length < 2 ^ 32) :
  ReadBackTwoOfThree lib json (b.serialize json) ↔ b.twoOfThree lib
  := by
  obtain ⟨b', hread⟩ := CacheeArchiveBundle.exists_deserialize_of_decodable json hmagic h hlen
  have hfits : ∀ f ∈ signatureFields, f.lengthIn b < f.limit := by
    intro f hf
    apply h.1
    rintro rfl
    exact absurd hf (by decide)
  simp only [ReadBackTwoOfThree, hread, Except.ok.injEq, exists_eq_left',
    b.twoOfThree_of_deserialize hfits hread]

/-- A library that accepts every signature. -/
def acceptingLibrary : PqLibrary :=
  let scheme : SignatureScheme := { prefixScheme with
    verifyDetachedSignature := fun _ _ _ => true }
  ⟨scheme, scheme, scheme⟩

theorem twoOfThree_acceptingLibrary (b : CacheeArchiveBundle) :
  b.twoOfThree acceptingLibrary = true
  := rfl

/-- Of lengths that are not decodable, there is a bundle with two valid signatures, equal hashes and
a timestamp that the verifier cannot read. -/
theorem exists_not_consumersAgree (sha3 : Bytes → Block 32) (json : JsonCodec SignerIdentity)
    (path : String) {ℓ : PrefixedField → ℕ}
    (htotal : CacheeArchiveBundle.fingerprintLength ℓ < 2 ^ 32)
    (hlong : ¬ CacheeArchiveBundle.Decodable ℓ) :
  ∃ b : CacheeArchiveBundle, b.magic = cabMagic ∧ (∀ f : PrefixedField, f.lengthIn b = ℓ f) ∧
    b.Consistent ∧ ¬ ConsumersAgree sha3 acceptingLibrary json path b
  := by
  obtain ⟨b, hmagic, hhash, htimestamp, hlengths, hunread⟩ :=
    CacheeArchiveBundle.exists_not_deserialize json htotal hlong
  have hconsistent : b.Consistent := ⟨hhash, htimestamp⟩
  refine ⟨b, hmagic, hlengths, hconsistent, ?_⟩
  rw [consumersAgree_iff_readBack, isValid_iff]
  rintro ⟨hiff, -⟩
  obtain ⟨b', hread, -⟩ := hiff.mpr ⟨hmagic, twoOfThree_acceptingLibrary b, hconsistent⟩
  apply hunread b' hread

/-- On a bundle of decodable lengths, the consumers agree exactly when two valid signatures come
with equal hashes and a timestamp. -/
theorem consumersAgree_iff_of_decodable
    (h : CacheeArchiveBundle.Decodable fun f => f.lengthIn b)
    (hlen : b.computationFingerprint.toBytes.length < 2 ^ 32) :
  ConsumersAgree sha3 lib json path b ↔ (b.magic = cabMagic → b.twoOfThree lib → b.Consistent)
  := by
  rw [consumersAgree_iff_readBack, isValid_iff]
  by_cases hmagic : b.magic = cabMagic
  · rw [readBackTwoOfThree_of_decodable hmagic h hlen]
    tauto
  · have hread := not_readBackTwoOfThree_serialize lib json hmagic
    tauto

/-- The consumers agree with the verdict on a bundle with the right magic bytes whose keys and
signatures fit, if two valid signatures only come with equal hashes, a timestamp and decodable
lengths.  On a bundle of decodable lengths, they agree exactly when two valid signatures come with
equal hashes and a timestamp; and wherever they agree, two valid signatures and a valid fingerprint
do.  Of the lengths alone, they agree on all bundles whose two valid signatures come with equal
hashes and a timestamp exactly when the lengths are decodable, as long as the fingerprint is written
on less than `2 ^ 32` bytes. -/
theorem consumersAgree_iff :
  ((b.magic = cabMagic → (∀ f ∈ signatureFields, f.lengthIn b < f.limit) ∧
      (b.twoOfThree lib → b.Consistent ∧
        CacheeArchiveBundle.Decodable (fun f => f.lengthIn b) ∧
        b.computationFingerprint.toBytes.length < 2 ^ 32)) →
    ConsumersAgree sha3 lib json path b) ∧
  (CacheeArchiveBundle.Decodable (fun f => f.lengthIn b) →
    b.computationFingerprint.toBytes.length < 2 ^ 32 →
      (ConsumersAgree sha3 lib json path b ↔
        (b.magic = cabMagic → b.twoOfThree lib → b.Consistent))) ∧
  (ConsumersAgree sha3 lib json path b →
    b.magic = cabMagic → b.twoOfThree lib → b.hasValidFingerprint → b.Consistent) ∧
  ∀ ℓ : PrefixedField → ℕ, CacheeArchiveBundle.fingerprintLength ℓ < 2 ^ 32 →
    ((∀ (lib : PqLibrary) (b : CacheeArchiveBundle), b.magic = cabMagic →
        (∀ f : PrefixedField, f.lengthIn b = ℓ f) → (b.twoOfThree lib → b.Consistent) →
        ConsumersAgree sha3 lib json path b) ↔
      CacheeArchiveBundle.Decodable ℓ)
  := by
  refine ⟨?_, consumersAgree_iff_of_decodable, ?_, ?_⟩
  · intro h
    by_cases htwo : b.magic = cabMagic ∧ b.twoOfThree lib = true
    · obtain ⟨hconsistent, hlengths, hlen⟩ := (h htwo.1).2 htwo.2
      apply (consumersAgree_iff_of_decodable hlengths hlen).mpr
      intro _ _
      apply hconsistent
    · have hread : ¬ ReadBackTwoOfThree lib json (b.serialize json) := by
        by_cases hmagic : b.magic = cabMagic
        · rintro ⟨b', hread, htwo'⟩
          rw [b.twoOfThree_of_deserialize (h hmagic).1 hread] at htwo'
          exact htwo ⟨hmagic, htwo'⟩
        · apply not_readBackTwoOfThree_serialize lib json hmagic
      rw [consumersAgree_iff_readBack, isValid_iff]
      tauto
  · intro hagree hmagic htwo hfingerprint
    apply (consumersAgree_iff_readBack.mp hagree).2 hmagic ⟨htwo, hfingerprint⟩
  · intro ℓ htotal
    constructor
    · intro hall
      by_contra hlong
      obtain ⟨b, hmagic, hlengths, hconsistent, hdisagree⟩ :=
        exists_not_consumersAgree sha3 json path htotal hlong
      apply hdisagree (hall _ b hmagic hlengths fun _ => hconsistent)
    · intro hdecodable lib b hmagic hlengths hconsistent
      obtain rfl : (fun f : PrefixedField => f.lengthIn b) = ℓ := funext hlengths
      apply (consumersAgree_iff_of_decodable hdecodable _).mpr fun _ => hconsistent
      apply Nat.lt_of_le_of_lt b.length_toBytes_le htotal

/-- A bundle with two signatures, a fingerprint, and neither a timestamp nor a matching value
hash in its primitive. -/
def inconsistentBundle : CacheeArchiveBundle :=
  { CacheeArchiveBundle.blank with
    contentHash := ⟨List.replicate 32 7, rfl⟩
    signerKeys := ⟨[1], [2], [3]⟩
    signatures := ⟨1 :: List.replicate 32 7, 2 :: List.replicate 32 7, []⟩
    computationFingerprint := .ones }

/-- The inconsistent bundle is reported valid and accepted, while its verdict is invalid. -/
theorem inconsistentBundle_passes :
  (∃ r, verifyFile primeHash prefixLibrary SignerIdentity.defaultCodec "bundle.cab"
      (.ok (inconsistentBundle.serialize SignerIdentity.defaultCodec)) = .ok r ∧ r.valid) ∧
    acceptRemoteBundle primeHash prefixLibrary inconsistentBundle .anyVerifiable [] = .accepted ∧
    (inconsistentBundle.verify prefixLibrary).verdict
      = .invalid "content hash mismatch; invalid timestamp"
  := by
  have hfits : inconsistentBundle.SectionsFit :=
    ⟨by decide, by decide, by decide, by decide, by decide, by decide, by decide,
      ComputationFingerprint.fits_ones⟩
  obtain ⟨r, hr, hvalid⟩ := verifyFile_eq primeHash prefixLibrary SignerIdentity.defaultCodec
    "bundle.cab" (inconsistentBundle.serialize SignerIdentity.defaultCodec)
  refine ⟨⟨r, hr, ?_⟩, by decide +kernel, by decide +kernel⟩
  rw [hvalid, readBackTwoOfThree_serialize rfl hfits]
  decide

end Cachee
