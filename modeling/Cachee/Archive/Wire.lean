import Cachee.Archive.Bundle

/-!
# The archive format

A bundle is serialized as a sequence of sections: fixed-size ones, byte strings after their
length, an optional anchor after its flag, the encoded fingerprint after its length, and the
JSON text of the signer identity after its length.  All numbers are big-endian.
`deserialize` reads the sections back in order.
-/

open Text

namespace Cachee

/-! ### Wire helpers -/

/-- A byte string after its length on `w` bytes. -/
def writeLengthPrefixed (w : ℕ) (data : Bytes) : Bytes := beBytes w data.length ++ data

def writeLengthPrefixedU16 (data : Bytes) : Bytes := writeLengthPrefixed 2 data

def writeLengthPrefixedU32 (data : Bytes) : Bytes := writeLengthPrefixed 4 data

/-- Read a number on `w` bytes. -/
def readBe (w : ℕ) : Reader ℕ := fun bytes pos => do
  bailIf (bytes.length < pos + w) s!"unexpected end of CAB at offset {pos}"
  let val := beNat (← slice bytes pos (pos + w))
  return (val, pos + w)

def readU16 : Reader UInt16 := fun bytes pos => do
  let (val, pos) ← readBe 2 bytes pos
  return (UInt16.ofNat val, pos)

def readU64 : Reader UInt64 := fun bytes pos => do
  let (val, pos) ← readBe 8 bytes pos
  return (UInt64.ofNat val, pos)

/-- Read a byte string after its length on `w` bytes. -/
def readLengthPrefixed (w : ℕ) : Reader Bytes := fun bytes pos => do
  let (len, pos) ← readBe w bytes pos
  bailIf (bytes.length < pos + len)
    s!"unexpected end of CAB at offset {pos}, need {len} bytes"
  let data ← slice bytes pos (pos + len)
  return (data, pos + len)

def readLengthPrefixedU16 : Reader Bytes := readLengthPrefixed 2

def readLengthPrefixedU32 : Reader Bytes := readLengthPrefixed 4

/-! ### Sections -/

/-- A flag byte, and the anchor after flag 1. -/
def anchorBytes : Option OnChainAnchor → Bytes
  | some anchor => 1 :: anchor.toBytes
  | none => [0]

/-- The byte of a completeness level. -/
def CompletenessLevel.toByte : CompletenessLevel → UInt8
  | complete => 0
  | partialEvidence => 1
  | minimalViable => 2

/-- The JSON text of the default signer identity. -/
def SignerIdentity.defaultJson : String :=
  "\x7b\"key_id\":[0,0,0,0,0,0,0,0,0,0,0,0,0,0,0,0,"
    ++ "0,0,0,0,0,0,0,0,0,0,0,0,0,0,0,0],\"key_version\":0,\"families\":[],\"issuer\":\"\",\"posture\":\"unknown\"\x7d"

/-- The JSON codec restricted to the default signer identity. -/
def SignerIdentity.defaultCodec : JsonCodec SignerIdentity :=
  .only .default (asBytes defaultJson)

/-- Read the magic bytes, which must be `CAB1`. -/
def readMagic : Reader (Block 4) := fun bytes pos => do
  bailIf (bytes.length < 4) "CAB too short: missing magic bytes"
  let magic ← tryIntoBlock 4 (← slice bytes pos (pos + 4))
  bailIf (magic ≠ cabMagic)
    s!"invalid CAB magic: expected CAB1, got {magic.1.map UInt8.toNat}"
  return (magic, pos + 4)

/-- Read the 58-byte primitive. -/
def readPrimitive : Reader H33Primitive := fun bytes pos => do
  bailIf (bytes.length < pos + H33Primitive.size) "CAB too short: missing primitive"
  match ← H33Primitive.fromBytes (← slice bytes pos bytes.length) with
  | none => bail "failed to parse H33Primitive"
  | some primitive => return (primitive, pos + H33Primitive.size)

/-- Read the content hash. -/
def readContentHash : Reader (Block 32) := fun bytes pos => do
  bailIf (bytes.length < pos + 32) "CAB too short: missing content_hash"
  let contentHash ← tryIntoBlock 32 (← slice bytes pos (pos + 32))
  return (contentHash, pos + 32)

/-- Read the anchor: any flag other than 1 stands for none. -/
def readOnChainAnchor : Reader (Option OnChainAnchor) := fun bytes pos => do
  bailIf (bytes.length ≤ pos) "CAB too short: missing anchor flag"
  let hasAnchor ← index bytes pos
  let pos := pos + 1
  if hasAnchor = 1 then
    bailIf (bytes.length < pos + OnChainAnchor.size) "CAB too short: missing anchor data"
    match ← OnChainAnchor.fromBytes (← slice bytes pos bytes.length) with
    | none => bail "failed to parse OnChainAnchor"
    | some anchor => return (some anchor, pos + OnChainAnchor.size)
  else
    return (none, pos)

/-- Read the completeness level. -/
def readCompleteness : Reader CompletenessLevel := fun bytes pos => do
  bailIf (bytes.length ≤ pos) "CAB too short: missing completeness"
  let level ← index bytes pos
  if level = 0 then return (.complete, pos + 1)
  else if level = 1 then return (.partialEvidence, pos + 1)
  else if level = 2 then return (.minimalViable, pos + 1)
  else bail s!"invalid completeness level: {level.toNat}"

/-- Read the signer identity.  An identity that is missing, cut off, empty or not JSON
text of an identity is replaced by the default one. -/
def readSignerIdentity (json : JsonCodec SignerIdentity) (bytes : Bytes) (pos : ℕ) :
    Outcome SignerIdentity :=
  if pos + 4 ≤ bytes.length then do
    let (identityData, _) ← unwrapOr (readLengthPrefixedU32 bytes pos) ([], pos)
    if identityData.isEmpty then return .default
    else return json.fromSliceOr identityData .default
  else return .default

namespace CacheeArchiveBundle

/-- Serialize the bundle to its canonical binary representation. -/
def serialize (json : JsonCodec SignerIdentity) (b : CacheeArchiveBundle) : Bytes :=
  b.magic.1 ++ (beBytes 2 b.version.toNat ++ (b.primitive.toBytes ++ (b.contentHash.1
    ++ (beBytes 2 b.computationType.toU16.toNat ++ (beBytes 8 b.timestampNs.toNat
    ++ (writeLengthPrefixedU16 b.signerKeys.mldsa65
    ++ (writeLengthPrefixedU16 b.signerKeys.falcon512
    ++ (writeLengthPrefixedU16 b.signerKeys.slhdsa128f
    ++ (writeLengthPrefixedU16 b.signatures.mldsa65
    ++ (writeLengthPrefixedU16 b.signatures.falcon512
    ++ (writeLengthPrefixedU16 b.signatures.slhdsa128f
    ++ (writeLengthPrefixedU32 b.metadata
    ++ (anchorBytes b.onChainAnchor
    ++ ([b.completeness.toByte]
    ++ (writeLengthPrefixedU32 b.computationFingerprint.toBytes
    ++ writeLengthPrefixedU32 (json.toVecOrDefault b.signerIdentity))))))))))))))))

/-- Deserialize a bundle from its canonical binary representation. -/
def deserialize (json : JsonCodec SignerIdentity) (bytes : Bytes) :
    Outcome CacheeArchiveBundle := do
  let pos := 0
  let (magic, pos) ← readMagic bytes pos
  let (version, pos) ← readU16 bytes pos
  let (primitive, pos) ← readPrimitive bytes pos
  let (contentHash, pos) ← readContentHash bytes pos
  let (compTypeRaw, pos) ← readU16 bytes pos
  let computationType := ComputationType.fromU16 compTypeRaw
  let (timestampNs, pos) ← readU64 bytes pos
  let (mldsa65Pk, pos) ← readLengthPrefixedU16 bytes pos
  let (falcon512Pk, pos) ← readLengthPrefixedU16 bytes pos
  let (slhdsa128fPk, pos) ← readLengthPrefixedU16 bytes pos
  let (mldsa65Sig, pos) ← readLengthPrefixedU16 bytes pos
  let (falcon512Sig, pos) ← readLengthPrefixedU16 bytes pos
  let (slhdsa128fSig, pos) ← readLengthPrefixedU16 bytes pos
  let (metadata, pos) ← readLengthPrefixedU32 bytes pos
  let (onChainAnchor, pos) ← readOnChainAnchor bytes pos
  let (completeness, pos) ← readCompleteness bytes pos
  let (fpData, pos) ← readLengthPrefixedU32 bytes pos
  let (computationFingerprint, _) ← ComputationFingerprint.fromBytes fpData
  let signerIdentity ← readSignerIdentity json bytes pos
  return {
    magic, version, primitive, contentHash, computationType, timestampNs,
    signerKeys := ⟨mldsa65Pk, falcon512Pk, slhdsa128fPk⟩,
    signatures := ⟨mldsa65Sig, falcon512Sig, slhdsa128fSig⟩,
    metadata, onChainAnchor, completeness, computationFingerprint, signerIdentity }

end CacheeArchiveBundle

end Cachee
