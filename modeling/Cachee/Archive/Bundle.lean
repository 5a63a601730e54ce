import Cachee.Archive.Fingerprint

/-!
# The archive bundle

A bundle carries the attestation primitive of a result, the hash of the result, three
signatures of that hash with the public keys that verify them, and the fingerprint of the
computation.  Its content address is the hash of its primitive, its content hash and the
digest of its fingerprint.
-/

namespace Cachee

/-- The first four bytes of a bundle: `CAB1`. -/
def cabMagic : Block 4 := ⟨[0x43, 0x41, 0x42, 0x31], rfl⟩

/-- The current format version. -/
def cabVersion : UInt16 := 1

/-- The type of an attested computation. -/
inductive ComputationType where
  | biometricAuth
  | documentAttest
  | supplyChainVerify
  | financialAudit
  | aiModelAttest
  | postQuantumMigration
  | custom (v : UInt16)
  deriving DecidableEq

namespace ComputationType

/-- Encode to a two-byte discriminant. -/
def toU16 : ComputationType → UInt16
  | biometricAuth => 0x01
  | documentAttest => 0x02
  | supplyChainVerify => 0x03
  | financialAudit => 0x04
  | aiModelAttest => 0x05
  | postQuantumMigration => 0x12
  | custom v => v

/-- Decode from a two-byte discriminant. -/
def fromU16 (v : UInt16) : ComputationType :=
  if v = 0x01 then biometricAuth
  else if v = 0x02 then documentAttest
  else if v = 0x03 then supplyChainVerify
  else if v = 0x04 then financialAudit
  else if v = 0x05 then aiModelAttest
  else if v = 0x12 then postQuantumMigration
  else custom v

@[simp]
theorem toU16_custom (v : UInt16) :
  (custom v).toU16 = v
  := rfl

/-- A discriminant is decoded to a type with that discriminant. -/
@[simp]
theorem toU16_fromU16 (v : UInt16) :
  (fromU16 v).toU16 = v
  := by
  unfold fromU16
  split_ifs with h₁ h₂ h₃ h₄ h₅ h₆
  · exact h₁.symm
  · exact h₂.symm
  · exact h₃.symm
  · exact h₄.symm
  · exact h₅.symm
  · exact h₆.symm
  · rfl

/-- The types other than custom ones. -/
def IsNamed (t : ComputationType) : Prop := ∀ v, t ≠ custom v

/-- A named type is decoded from its discriminant. -/
theorem fromU16_toU16 {t : ComputationType} (h : t.IsNamed) :
  fromU16 t.toU16 = t
  := by
  cases t with
  | custom v => exact absurd rfl (h v)
  | _ => rfl

/-- A type is decoded from its discriminant, unless it is a custom type with the discriminant
of a named one. -/
theorem fromU16_toU16_of_not_alias {t : ComputationType}
    (h : ∀ t' : ComputationType, t'.IsNamed → t ≠ custom t'.toU16) :
  fromU16 t.toU16 = t
  := by
  by_cases ht : t.IsNamed
  · apply fromU16_toU16 ht
  · simp only [IsNamed, not_forall, not_not] at ht
    obtain ⟨v, rfl⟩ := ht
    by_cases hv : (fromU16 v).IsNamed
    · apply absurd _ (h _ hv)
      rw [toU16_fromU16]
    · simp only [IsNamed, not_forall, not_not] at hv
      obtain ⟨w, hw⟩ := hv
      have hvw : v = w := by
        rw [← toU16_fromU16 v, hw]
        rfl
      rw [toU16, hw, hvw]

end ComputationType

/-- How complete the evidence in a bundle is. -/
inductive CompletenessLevel where
  | complete
  | partialEvidence
  | minimalViable
  deriving DecidableEq

/-- The 58-byte attestation primitive. -/
structure H33Primitive where
  version : UInt8
  timestamp : Block 8
  valueHash : Block 32
  mldsaPrefix : Block 2
  falconPrefix : Block 2
  slhdsaPrefix : Block 2
  flags : Block 11
  deriving DecidableEq

namespace H33Primitive

/-- The number of bytes of a primitive. -/
def size : ℕ := 58

/-- Serialize the primitive to its 58 bytes. -/
def toBytes (p : H33Primitive) : Bytes :=
  [p.version] ++ (p.timestamp.1 ++ (p.valueHash.1 ++ (p.mldsaPrefix.1 ++ (p.falconPrefix.1
    ++ (p.slhdsaPrefix.1 ++ p.flags.1)))))

@[simp]
theorem length_toBytes (p : H33Primitive) :
  p.toBytes.length = size
  := by
  simp [toBytes, size, p.timestamp.2, p.valueHash.2, p.mldsaPrefix.2, p.falconPrefix.2,
    p.slhdsaPrefix.2, p.flags.2]

/-- The bytes of a primitive determine it. -/
theorem toBytes_injective :
  Function.Injective toBytes
  := by
  rintro ⟨v, t, h, m, f, s, fl⟩ ⟨v', t', h', m', f', s', fl'⟩ heq
  simp only [toBytes, List.cons_append, List.nil_append, List.cons.injEq,
    Block.append_inj_iff] at heq
  obtain ⟨rfl, rfl, rfl, rfl, rfl, rfl, hval⟩ := heq
  rw [Subtype.ext hval]

/-- Deserialize from a byte string.  Returns `none` if it is too short. -/
def fromBytes (bytes : Bytes) : Outcome (Option H33Primitive) :=
  if bytes.length < size then return none
  else do
    let version ← index bytes 0
    let timestamp := Block.ofBytes? 8 (← slice bytes 1 9)
    let valueHash := Block.ofBytes? 32 (← slice bytes 9 41)
    let mldsaPrefix := Block.ofBytes? 2 (← slice bytes 41 43)
    let falconPrefix := Block.ofBytes? 2 (← slice bytes 43 45)
    let slhdsaPrefix := Block.ofBytes? 2 (← slice bytes 45 47)
    let flags := Block.ofBytes? 11 (← slice bytes 47 58)
    return do
      some ⟨version, ← timestamp, ← valueHash, ← mldsaPrefix, ← falconPrefix, ← slhdsaPrefix,
        ← flags⟩

end H33Primitive

/-- The three public keys that verify the signatures of a bundle. -/
structure SignerPublicKeys where
  mldsa65 : Bytes
  falcon512 : Bytes
  slhdsa128f : Bytes
  deriving DecidableEq

/-- The three signatures over the content hash. -/
structure SignatureBundle where
  mldsa65 : Bytes
  falcon512 : Bytes
  slhdsa128f : Bytes
  deriving DecidableEq

/-- The identity of the signer that produced a bundle. -/
structure SignerIdentity where
  keyId : Block 32
  keyVersion : UInt32
  families : List String
  issuer : String
  posture : String
  deriving DecidableEq

/-- The identity of a bundle that names no signer. -/
def SignerIdentity.default : SignerIdentity where
  keyId := Block.zero 32
  keyVersion := 0
  families := []
  issuer := ""
  posture := "unknown"

/-- The 74-byte commitment that links a bundle to a blockchain. -/
structure OnChainAnchor where
  hash : Block 32
  retrievalPointer : Block 42
  deriving DecidableEq

namespace OnChainAnchor

/-- The number of bytes of an anchor. -/
def size : ℕ := 74

/-- Serialize to bytes. -/
def toBytes (a : OnChainAnchor) : Bytes := a.hash.1 ++ a.retrievalPointer.1

@[simp]
theorem length_toBytes (a : OnChainAnchor) :
  a.toBytes.length = size
  := by
  simp [toBytes, size, a.hash.2, a.retrievalPointer.2]

/-- Deserialize from a byte string.  Returns `none` if it is too short. -/
def fromBytes (bytes : Bytes) : Outcome (Option OnChainAnchor) :=
  if bytes.length < size then return none
  else do
    let hash := Block.ofBytes? 32 (← slice bytes 0 32)
    let retrievalPointer := Block.ofBytes? 42 (← slice bytes 32 74)
    return do some ⟨← hash, ← retrievalPointer⟩

end OnChainAnchor

/-- A self-contained, independently verifiable attestation package. -/
structure CacheeArchiveBundle where
  magic : Block 4
  version : UInt16
  primitive : H33Primitive
  contentHash : Block 32
  computationType : ComputationType
  timestampNs : UInt64
  signerKeys : SignerPublicKeys
  signatures : SignatureBundle
  metadata : Bytes
  onChainAnchor : Option OnChainAnchor
  completeness : CompletenessLevel
  computationFingerprint : ComputationFingerprint
  signerIdentity : SignerIdentity
  deriving DecidableEq

namespace CacheeArchiveBundle

/-- The bundle with the magic bytes and the version of the format and nothing else in it. -/
def blank : CacheeArchiveBundle where
  magic := cabMagic
  version := cabVersion
  primitive := ⟨0, Block.zero 8, Block.zero 32, Block.zero 2, Block.zero 2, Block.zero 2,
    Block.zero 11⟩
  contentHash := Block.zero 32
  computationType := .custom 0
  timestampNs := 0
  signerKeys := ⟨[], [], []⟩
  signatures := ⟨[], [], []⟩
  metadata := []
  onChainAnchor := none
  completeness := .partialEvidence
  computationFingerprint := .empty
  signerIdentity := .default

/-- The byte string that the content address hashes, for the hash function `sha3`. -/
def addressInput (sha3 : Bytes → Block 32) (b : CacheeArchiveBundle) : Bytes :=
  b.primitive.toBytes ++ (b.contentHash.1 ++ (b.computationFingerprint.digest sha3).1)

/-- The content address of a bundle, under which it is stored. -/
def contentAddress (sha3 : Bytes → Block 32) (b : CacheeArchiveBundle) : Block 32 :=
  sha3 (b.addressInput sha3)

/-- A bundle has a valid fingerprint when its input and computation hashes are not zero. -/
def hasValidFingerprint (b : CacheeArchiveBundle) : Bool :=
  b.computationFingerprint.isValid

end CacheeArchiveBundle

end Cachee
