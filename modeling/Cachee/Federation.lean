import Cachee.Archive.Verify

/-!
# Accepting bundles of other nodes

A node accepts a remote bundle when its signatures verify, it has a fingerprint, and the
trust boundary of the node admits it.  Under a boundary of trusted peers or trusted issuers
the hash of the ML-DSA-65 key of the bundle must be among the trusted ones.
-/

namespace Cachee

/-- Which results of other nodes a node accepts. -/
inductive TrustBoundary where
  | selfOnly
  | trustedPeers (peerIds : List (Block 32))
  | anyVerifiable
  | trustedIssuers (issuerKeys : List Bytes)

/-- Result of a federation bundle acceptance check. -/
inductive AcceptanceResult where
  | accepted
  | rejected (reason : String)
  deriving DecidableEq

/-- The acceptance rule for remote bundles. -/
def acceptRemoteBundle (sha3 : Bytes → Block 32) (lib : PqLibrary)
    (bundle : CacheeArchiveBundle) (trust : TrustBoundary) (trustedIssuers : List (Block 32)) :
    AcceptanceResult :=
  let verification := bundle.verify lib
  if !verification.isValid && !verification.cryptographic.twoOfThree then
    .rejected "signature verification failed"
  else if !bundle.hasValidFingerprint then
    .rejected "missing computation fingerprint"
  else
    let issuerHash := sha3 bundle.signerKeys.mldsa65
    let issuerTrusted := trustedIssuers.contains issuerHash
    match trust with
    | .selfOnly => .rejected "self-only mode"
    | .trustedPeers _ =>
      if !issuerTrusted then .rejected "issuer not in trusted peers" else .accepted
    | .anyVerifiable => .accepted
    | .trustedIssuers _ =>
      if !issuerTrusted then .rejected "issuer not in trusted issuers" else .accepted

/-- The boundaries that ask for a trusted issuer. -/
def TrustBoundary.needsTrustedIssuer : TrustBoundary → Prop
  | .trustedPeers _ => True
  | .trustedIssuers _ => True
  | _ => False

variable {sha3 : Bytes → Block 32} {lib : PqLibrary} {b : CacheeArchiveBundle}
  {trust : TrustBoundary} {trustedIssuers : List (Block 32)}

/-- The checks on the bundle alone: a bundle that is accepted under any boundary has the right
magic bytes, two valid signatures and a fingerprint. -/
theorem passes_of_accepted (h : acceptRemoteBundle sha3 lib b trust trustedIssuers = .accepted) :
  b.magic = cabMagic ∧ b.twoOfThree lib ∧ b.hasValidFingerprint
  := by
  unfold acceptRemoteBundle at h
  dsimp only at h
  split at h
  · cases h
  rename_i hverify
  split at h
  · cases h
  rename_i hfingerprint
  by_cases hmagic : b.magic = cabMagic
  · obtain ⟨hvalid, htwo⟩ := CacheeArchiveBundle.verify_of_magic_eq lib hmagic
    rw [hvalid, htwo] at hverify
    refine ⟨hmagic, ?_, by simpa using hfingerprint⟩
    simp only [CacheeArchiveBundle.coreValid] at hverify
    cases htwo' : b.twoOfThree lib with
    | true => rfl
    | false => simp [htwo'] at hverify
  · obtain ⟨hvalid, htwo⟩ := CacheeArchiveBundle.verify_of_magic_ne lib hmagic
    simp [hvalid, htwo] at hverify

/-- On a bundle that passes the checks on the bundle alone, the boundary decides. -/
theorem acceptRemoteBundle_of_passes (hmagic : b.magic = cabMagic) (htwo : b.twoOfThree lib)
    (hfingerprint : b.hasValidFingerprint) :
  acceptRemoteBundle sha3 lib b trust trustedIssuers =
    match trust with
    | .selfOnly => .rejected "self-only mode"
    | .trustedPeers _ =>
      if sha3 b.signerKeys.mldsa65 ∈ trustedIssuers then .accepted
      else .rejected "issuer not in trusted peers"
    | .anyVerifiable => .accepted
    | .trustedIssuers _ =>
      if sha3 b.signerKeys.mldsa65 ∈ trustedIssuers then .accepted
      else .rejected "issuer not in trusted issuers"
  := by
  have htwo' := (CacheeArchiveBundle.verify_of_magic_eq lib hmagic).2
  rw [htwo] at htwo'
  unfold acceptRemoteBundle
  simp only [htwo', hfingerprint, Bool.not_true, Bool.and_false, Bool.false_eq_true, if_false,
    Bool.not_eq_true']
  cases trust with
  | selfOnly => rfl
  | anyVerifiable => rfl
  | trustedPeers _ => by_cases h : sha3 b.signerKeys.mldsa65 ∈ trustedIssuers <;> simp [h]
  | trustedIssuers _ => by_cases h : sha3 b.signerKeys.mldsa65 ∈ trustedIssuers <;> simp [h]

/-- Under a boundary that asks for a trusted issuer, a bundle is accepted exactly when it
passes the checks on the bundle and the hash of its ML-DSA-65 key is trusted. -/
theorem accepted_iff (htrust : trust.needsTrustedIssuer) :
  acceptRemoteBundle sha3 lib b trust trustedIssuers = .accepted ↔
    b.magic = cabMagic ∧ b.twoOfThree lib ∧ b.hasValidFingerprint ∧
      sha3 b.signerKeys.mldsa65 ∈ trustedIssuers
  := by
  constructor
  · intro h
    obtain ⟨hmagic, htwo, hfingerprint⟩ := passes_of_accepted h
    refine ⟨hmagic, htwo, hfingerprint, ?_⟩
    rw [acceptRemoteBundle_of_passes hmagic htwo hfingerprint] at h
    by_contra hissuer
    cases trust with
    | selfOnly => exact htrust
    | anyVerifiable => exact htrust
    | trustedPeers _ => simp [hissuer] at h
    | trustedIssuers _ => simp [hissuer] at h
  · rintro ⟨hmagic, htwo, hfingerprint, hissuer⟩
    rw [acceptRemoteBundle_of_passes hmagic htwo hfingerprint]
    cases trust with
    | selfOnly => exact htrust.elim
    | anyVerifiable => exact htrust.elim
    | trustedPeers _ => apply if_pos hissuer
    | trustedIssuers _ => apply if_pos hissuer

/-- Under a boundary that asks for a trusted issuer, acceptance means that the trusted
ML-DSA-65 key signed the bundle, except for the bundles with a valid fingerprint whose other
two signatures are valid while that of the trusted key is not. -/
theorem mldsa_of_accepted_iff (htrust : trust.needsTrustedIssuer) :
  (acceptRemoteBundle sha3 lib b trust trustedIssuers = .accepted →
    verifyMldsa65 lib b.signerKeys.mldsa65 b.contentHash.1 b.signatures.mldsa65 = .ok true) ↔
  ¬ (b.magic = cabMagic ∧ b.hasValidFingerprint ∧
      sha3 b.signerKeys.mldsa65 ∈ trustedIssuers ∧
      verifyFalcon512 lib b.signerKeys.falcon512 b.contentHash.1 b.signatures.falcon512
        = .ok true ∧
      verifySlhdsa128f lib b.signerKeys.slhdsa128f b.contentHash.1 b.signatures.slhdsa128f
        = .ok true ∧
      verifyMldsa65 lib b.signerKeys.mldsa65 b.contentHash.1 b.signatures.mldsa65 ≠ .ok true)
  := by
  rw [accepted_iff htrust, CacheeArchiveBundle.twoOfThree_iff]
  simp only [CacheeArchiveBundle.mldsaValid, CacheeArchiveBundle.falconValid,
    CacheeArchiveBundle.slhdsaValid, unwrapOrFalse_iff]
  tauto

/-- A bundle that names the key `1` and is signed with the keys `2` and `3` only. -/
def forgedBundle : CacheeArchiveBundle :=
  { CacheeArchiveBundle.blank with
    timestampNs := 1
    signerKeys := ⟨[1], [2], [3]⟩
    signatures := ⟨[], 2 :: (Block.zero 32).1, 3 :: (Block.zero 32).1⟩
    computationFingerprint := .ones }

/-- The forged bundle is accepted from the trusted issuer with the key `1`. -/
theorem accepted_forgedBundle :
  acceptRemoteBundle primeHash prefixLibrary forgedBundle (.trustedIssuers [[1]])
      [primeHash [1]] = .accepted ∧
    verifyMldsa65 prefixLibrary forgedBundle.signerKeys.mldsa65 forgedBundle.contentHash.1
      forgedBundle.signatures.mldsa65 = .ok false
  := by
  constructor
  · decide +kernel
  · rfl

/-- The bundle signed with the trusted key as well is accepted, and that key signed it. -/
theorem mldsa_of_accepted_signed :
  verifyMldsa65 prefixLibrary [1] (Block.zero 32).1 (1 :: (Block.zero 32).1) = .ok true
  := by
  let b := { forgedBundle with signatures := ⟨1 :: (Block.zero 32).1, [], 3 :: (Block.zero 32).1⟩ }
  have htrust : (TrustBoundary.trustedPeers []).needsTrustedIssuer := trivial
  apply (@mldsa_of_accepted_iff primeHash prefixLibrary b _ [primeHash [1]] htrust).mpr
  · rintro ⟨-, -, -, hfalcon, -⟩
    revert hfalcon
    decide +kernel
  · decide +kernel

/-! ### The lists of the boundary -/

/-- The boundary itself admits the bundles signed with a key. -/
def TrustBoundary.Admits (sha3 : Bytes → Block 32) (key : Bytes) : TrustBoundary → Prop
  | .selfOnly => False
  | .trustedPeers peerIds => sha3 key ∈ peerIds
  | .anyVerifiable => True
  | .trustedIssuers issuerKeys => key ∈ issuerKeys

/-- The list of the boundary, where it has one, leaves a key out. -/
def TrustBoundary.LeavesOut (sha3 : Bytes → Block 32) (key : Bytes) : TrustBoundary → Prop
  | .trustedPeers peerIds => sha3 key ∉ peerIds
  | .trustedIssuers issuerKeys => key ∉ issuerKeys
  | _ => False

/-- A boundary that leaves a key out asks for a trusted issuer. -/
theorem TrustBoundary.LeavesOut.needsTrustedIssuer {key : Bytes} (h : trust.LeavesOut sha3 key) :
  trust.needsTrustedIssuer
  := by
  cases trust with
  | selfOnly => exact h
  | trustedPeers _ => trivial
  | anyVerifiable => exact h
  | trustedIssuers _ => trivial

/-- A boundary that leaves a key out does not admit it. -/
theorem TrustBoundary.LeavesOut.not_admits {key : Bytes} (h : trust.LeavesOut sha3 key) :
  ¬ trust.Admits sha3 key
  := by
  cases trust with
  | selfOnly => exact id
  | trustedPeers _ => exact h
  | anyVerifiable => exact h.elim
  | trustedIssuers _ => exact h

/-- A bundle that is accepted is admitted by the boundary, or left out by its list. -/
theorem admits_or_leavesOut_of_accepted
    (h : acceptRemoteBundle sha3 lib b trust trustedIssuers = .accepted) :
  trust.Admits sha3 b.signerKeys.mldsa65 ∨ trust.LeavesOut sha3 b.signerKeys.mldsa65
  := by
  obtain ⟨hmagic, htwo, hfingerprint⟩ := passes_of_accepted h
  rw [acceptRemoteBundle_of_passes hmagic htwo hfingerprint] at h
  cases trust with
  | selfOnly => cases h
  | trustedPeers peerIds => exact em (sha3 b.signerKeys.mldsa65 ∈ peerIds)
  | anyVerifiable => exact Or.inl trivial
  | trustedIssuers issuerKeys => exact em (b.signerKeys.mldsa65 ∈ issuerKeys)

/-- A bundle is accepted only when the boundary admits it and it has a fingerprint, except for
the bundles that pass the checks on the bundle, whose key is trusted by its hash, and which the
list of the boundary leaves out: that list is never looked at. -/
theorem admits_of_accepted_iff :
  (acceptRemoteBundle sha3 lib b trust trustedIssuers = .accepted →
    trust.Admits sha3 b.signerKeys.mldsa65 ∧ b.hasValidFingerprint) ↔
  ¬ (b.magic = cabMagic ∧ b.twoOfThree lib ∧ b.hasValidFingerprint ∧
      sha3 b.signerKeys.mldsa65 ∈ trustedIssuers ∧
      trust.LeavesOut sha3 b.signerKeys.mldsa65)
  := by
  constructor
  · rintro hadmits ⟨hmagic, htwo, hfingerprint, hissuer, hout⟩
    have haccept := (accepted_iff hout.needsTrustedIssuer).mpr
      ⟨hmagic, htwo, hfingerprint, hissuer⟩
    apply hout.not_admits (hadmits haccept).1
  · intro hlist haccept
    obtain ⟨hmagic, htwo, hfingerprint⟩ := passes_of_accepted haccept
    refine ⟨?_, hfingerprint⟩
    apply (admits_or_leavesOut_of_accepted haccept).resolve_right
    intro hout
    have hissuer := ((accepted_iff hout.needsTrustedIssuer).mp haccept).2.2.2
    exact hlist ⟨hmagic, htwo, hfingerprint, hissuer, hout⟩

/-- Under a boundary of trusted issuers that lists no key, the forged bundle is accepted. -/
theorem accepted_leftOut :
  acceptRemoteBundle primeHash prefixLibrary forgedBundle (.trustedIssuers []) [primeHash [1]]
      = .accepted ∧
    forgedBundle.signerKeys.mldsa65 ∉ ([] : List Bytes)
  := by
  constructor
  · decide +kernel
  · decide

end Cachee
