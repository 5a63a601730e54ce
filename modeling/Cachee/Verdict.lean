import Cachee.SignerBinding

/-!
# The flags behind a verdict

Beside its verdict, a verification reports six flags about the structure of the bundle.  The
verdict is folded from three of them and the signatures, two more of them make warnings, and the
flag of the version makes neither.
-/

namespace Cachee

/-- The structural flags, each with the word that a warning names it by. -/
def StructuralValidity.flags (s : StructuralValidity) : List (String × Bool) :=
  [("magic", s.magicValid),
    ("version", s.versionSupported),
    ("fingerprint", s.fingerprintPresent),
    ("content hash", s.contentHashMatches),
    ("timestamp", s.timestampValid),
    ("signer identity", s.signerIdentityPresent)]

/-- A verdict covers the flags and signatures it comes with: when it is valid, all flags are true
and two signatures are valid, and when it is valid with warnings, each flag that is false is
named by one of them. -/
structure VerificationResult.Covers (r : VerificationResult) : Prop where
  valid : r.verdict = .valid →
    (∀ flag ∈ r.structural.flags, flag.2 = true) ∧
    2 ≤ validCount r.cryptographic.mldsaValid r.cryptographic.falconValid
      r.cryptographic.slhdsaValid
  warned : ∀ warnings, r.verdict = .validWithWarnings warnings →
    ∀ flag ∈ r.structural.flags, flag.2 = false → ∃ w ∈ warnings, Text.contains w flag.1

namespace CacheeArchiveBundle

variable {lib : PqLibrary} {b : CacheeArchiveBundle}

/-- The flags of a bundle that passes the core checks: those of the magic bytes, of the hashes
and of the timestamp are true. -/
theorem structural_of_core (hmagic : b.magic = cabMagic) (hcore : b.coreValid lib) :
  (b.verify lib).structural =
    { magicValid := true
      versionSupported := b.version = cabVersion
      fingerprintPresent := b.hasValidFingerprint
      contentHashMatches := true
      timestampValid := true
      signerIdentityPresent := b.signerIdentityPresent }
  := by
  simp only [coreValid, Bool.and_eq_true] at hcore
  obtain ⟨⟨hhash, -⟩, htime⟩ := hcore
  rw [verify, if_neg (by simpa using hmagic)]
  simp only [hhash, htime]

/-- The verdict on a bundle that passes the core checks lists its warnings. -/
theorem verdict_of_core (hmagic : b.magic = cabMagic) (hcore : b.coreValid lib) :
  (b.verify lib).verdict =
    if b.warnings = [] then .valid else .validWithWarnings b.warnings
  := by
  rw [verify, if_neg (by simpa using hmagic)]
  simp only [hcore, Bool.not_true, Bool.false_eq_true, if_false]
  cases b.warnings with
  | nil => rfl
  | cons w ws => rfl

/-- No warning is about the version. -/
theorem not_contains_version {w : String} (hw : w ∈ b.warnings) :
  ¬ Text.contains w "version"
  := by
  have hcases : w ∈ ["development posture", "missing signer identity",
      "fingerprint not present"] := by
    unfold warnings at hw
    simp only [List.mem_append, List.mem_ite_nil_right, List.mem_singleton] at hw
    simp only [List.mem_cons, List.not_mem_nil, or_false]
    tauto
  clear hw
  revert w
  decide

/-- A missing fingerprint is named by a warning. -/
theorem exists_warning_fingerprint (h : b.hasValidFingerprint = false) :
  ∃ w ∈ b.warnings, Text.contains w "fingerprint"
  := by
  refine ⟨"fingerprint not present", ?_, by decide⟩
  simp [warnings, h]

/-- A missing signer identity is named by a warning. -/
theorem exists_warning_signerIdentity (h : b.signerIdentityPresent = false) :
  ∃ w ∈ b.warnings, Text.contains w "signer identity"
  := by
  refine ⟨"missing signer identity", ?_, by decide⟩
  simp [warnings, h]

/-- On a bundle that passes the core checks the verdict covers the flags when the version is the
supported one. -/
theorem covers_of_core_iff (hmagic : b.magic = cabMagic) (hcore : b.coreValid lib) :
  (b.verify lib).Covers ↔ b.version = cabVersion
  := by
  constructor
  · rintro ⟨hvalid, hwarned⟩
    rw [structural_of_core hmagic hcore, verdict_of_core hmagic hcore] at hvalid hwarned
    by_contra hversion
    by_cases hnil : b.warnings = []
    · rw [if_pos hnil] at hvalid
      have hflag := (hvalid rfl).1 ("version", decide (b.version = cabVersion))
        (by simp [StructuralValidity.flags])
      exact hversion (by simpa using hflag)
    · rw [if_neg hnil] at hwarned
      obtain ⟨w, hw, hnamed⟩ := hwarned _ rfl ("version", decide (b.version = cabVersion))
        (by simp [StructuralValidity.flags]) (by simpa using hversion)
      exact not_contains_version hw hnamed
  · intro hversion
    constructor
    · intro hvalid
      rw [verdict_eq_valid_iff, warnings_eq_nil_iff] at hvalid
      obtain ⟨-, -, hidentity, hfingerprint⟩ := hvalid
      rw [structural_of_core hmagic hcore]
      constructor
      · simp [StructuralValidity.flags, hversion, hfingerprint, signerIdentityPresent, hidentity]
      · have htwo := (coreValid_iff.mp hcore).1
        rw [verify, if_neg (by simpa using hmagic)]
        simpa [twoOfThree] using htwo
    · intro ws hverdict flag hflag hfalse
      have hws : ws = b.warnings := by
        rw [verdict_of_core hmagic hcore] at hverdict
        by_cases hnil : b.warnings = []
        · rw [if_pos hnil] at hverdict
          cases hverdict
        · rw [if_neg hnil] at hverdict
          exact (VerificationVerdict.validWithWarnings.inj hverdict).symm
      subst hws
      rw [structural_of_core hmagic hcore] at hflag
      simp only [StructuralValidity.flags, List.mem_cons, List.not_mem_nil, or_false] at hflag
      rcases hflag with rfl | rfl | rfl | rfl | rfl | rfl
      · cases hfalse
      · simp [hversion] at hfalse
      · exact exists_warning_fingerprint hfalse
      · cases hfalse
      · cases hfalse
      · exact exists_warning_signerIdentity hfalse

/-- An invalid verdict promises nothing about the flags. -/
theorem covers_of_not_isValid (h : ¬ (b.verify lib).isValid) :
  (b.verify lib).Covers
  := by
  constructor
  · intro hvalid
    exact absurd (by rw [VerificationResult.isValid, hvalid]) h
  · intro ws hwarned
    exact absurd (by rw [VerificationResult.isValid, hwarned]) h

/-- The verdict covers the flags of every bundle of the supported version, and of the bundles
that a core check makes invalid.  The flag of the version enters neither the verdict nor the
warnings. -/
theorem verify_covers_iff :
  (b.verify lib).Covers ↔
    b.version = cabVersion ∨
      ¬ (b.magic = cabMagic ∧ b.twoOfThree lib ∧ b.primitive.valueHash = b.contentHash ∧
        b.timestampNs ≠ 0)
  := by
  by_cases hvalid : (b.verify lib).isValid
  · obtain ⟨hmagic, htwo, hconsistent⟩ := isValid_iff.mp hvalid
    rw [covers_of_core_iff hmagic (coreValid_iff.mpr ⟨htwo, hconsistent⟩)]
    unfold Consistent at hconsistent
    tauto
  · have hcovers := covers_of_not_isValid hvalid
    rw [isValid_iff, Consistent] at hvalid
    tauto

/-- A bundle of the version 65535 with three valid signatures. -/
def futureBundle : CacheeArchiveBundle :=
  { blank with
    version := 65535
    timestampNs := 1
    signerKeys := ⟨[4], [5], [6]⟩
    signatures :=
      ⟨4 :: (Block.zero 32).1, 5 :: (Block.zero 32).1, 6 :: (Block.zero 32).1⟩
    computationFingerprint := .ones
    signerIdentity := { SignerIdentity.default with keyId := ⟨List.replicate 32 9, rfl⟩ } }

/-- The verdict on the bundle is valid, and its version is not supported. -/
theorem valid_futureBundle :
  (futureBundle.verify prefixLibrary).verdict = .valid ∧
    (futureBundle.verify prefixLibrary).structural.versionSupported = false
  := by
  constructor
  · decide +kernel
  · decide +kernel

end CacheeArchiveBundle

end Cachee
