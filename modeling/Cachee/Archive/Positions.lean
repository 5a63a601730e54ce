import Cachee.Archive.Acceptance
import Cachee.Library.Tracked

/-!
# The positions of the reader

The reader of the archive format once more, with each sum of offsets in 64-bit arithmetic and
every value of its position recorded.  On a buffer of less than `2 ^ 63` bytes, and there is no
longer one on a 64-bit target, it has the same outcome, and its position moves forward within
the buffer.
-/

open Text Tracked

namespace Cachee

namespace Positions

/-! ### The readers -/

def readBe (w : ℕ) (bytes : Bytes) (pos : ℕ) : Tracked (ℕ × ℕ) := do
  let bound ← lift (offset pos w)
  lift (bailIf (bytes.length < bound) s!"unexpected end of CAB at offset {pos}")
  let val := beNat (← lift (slice bytes pos (← lift (offset pos w))))
  let pos ← advance pos w
  return (val, pos)

def readU16 (bytes : Bytes) (pos : ℕ) : Tracked (UInt16 × ℕ) := do
  let (val, pos) ← readBe 2 bytes pos
  return (UInt16.ofNat val, pos)

def readU64 (bytes : Bytes) (pos : ℕ) : Tracked (UInt64 × ℕ) := do
  let (val, pos) ← readBe 8 bytes pos
  return (UInt64.ofNat val, pos)

def readLengthPrefixed (w : ℕ) (bytes : Bytes) (pos : ℕ) : Tracked (Bytes × ℕ) := do
  let (len, pos) ← readBe w bytes pos
  let bound ← lift (offset pos len)
  lift (bailIf (bytes.length < bound)
    s!"unexpected end of CAB at offset {pos}, need {len} bytes")
  let data ← lift (slice bytes pos (← lift (offset pos len)))
  let pos ← advance pos len
  return (data, pos)

def readHash (bytes : Bytes) (pos : ℕ) : Tracked (Block 32 × ℕ) := do
  let hash ← lift (tryIntoBlock 32 (← lift (slice bytes pos (← lift (offset pos 32)))))
  let pos ← advance pos 32
  return (hash, pos)

def readString (missing truncated : String) (bytes : Bytes) (pos : ℕ) : Tracked (String × ℕ) := do
  let bound ← lift (offset pos 2)
  lift (bailIf (bytes.length < bound) missing)
  let len := beNat (← lift (slice bytes pos (← lift (offset pos 2))))
  let pos ← advance pos 2
  let bound ← lift (offset pos len)
  lift (bailIf (bytes.length < bound) truncated)
  let s ← lift (fromUtf8 (← lift (slice bytes pos (← lift (offset pos len)))))
  let pos ← advance pos len
  return (s, pos)

def readCircuitId (bytes : Bytes) (pos : ℕ) : Tracked (Option String × ℕ) := do
  lift (bailIf (bytes.length ≤ pos) "ComputationFingerprint: missing circuit_id flag")
  let hasCircuit ← lift (index bytes pos)
  let pos ← advance pos 1
  if hasCircuit = 1 then
    let (cid, pos) ← readString "ComputationFingerprint: missing circuit_id length"
      "ComputationFingerprint: circuit_id string truncated" bytes pos
    return (some cid, pos)
  else
    return (none, pos)

def readHardwareClass (bytes : Bytes) (pos : ℕ) : Tracked (Option HardwareClass × ℕ) := do
  lift (bailIf (bytes.length ≤ pos) "ComputationFingerprint: missing hardware_class")
  let hwTag ← lift (index bytes pos)
  let pos ← advance pos 1
  if hwTag = 0 then return (none, pos)
  else if hwTag = 1 then return (some .deterministic, pos)
  else if hwTag = 2 then return (some .nearDeterministic, pos)
  else if hwTag = 3 then
    let (id, pos) ← readString "ComputationFingerprint: missing hw id length"
      "ComputationFingerprint: hw id truncated" bytes pos
    return (some (.nonDeterministic id), pos)
  else lift (bail s!"ComputationFingerprint: invalid hw class tag {hwTag.toNat}")

/-- The reader of the fingerprint, with positions in its own buffer. -/
def fromBytes (bytes : Bytes) : Tracked (ComputationFingerprint × ℕ) := do
  let pos := 0
  lift (bailIf (bytes.length < 96) "ComputationFingerprint too short")
  let (inputHash, pos) ← readHash bytes pos
  let (computationHash, pos) ← readHash bytes pos
  let (parameterHash, pos) ← readHash bytes pos
  let (engine, pos) ← readString "ComputationFingerprint: missing engine length"
    "ComputationFingerprint: engine string truncated" bytes pos
  let (version, pos) ← readString "ComputationFingerprint: missing version length"
    "ComputationFingerprint: version string truncated" bytes pos
  let (circuitId, pos) ← readCircuitId bytes pos
  let (hardwareClass, pos) ← readHardwareClass bytes pos
  return (⟨inputHash, computationHash, parameterHash, ⟨engine, version, circuitId⟩,
    hardwareClass⟩, pos)

def readMagic (bytes : Bytes) (pos : ℕ) : Tracked (Block 4 × ℕ) := do
  lift (bailIf (bytes.length < 4) "CAB too short: missing magic bytes")
  let magic ← lift (tryIntoBlock 4 (← lift (slice bytes pos (← lift (offset pos 4)))))
  lift (bailIf (magic ≠ cabMagic)
    s!"invalid CAB magic: expected CAB1, got {magic.1.map UInt8.toNat}")
  let pos ← advance pos 4
  return (magic, pos)

def readPrimitive (bytes : Bytes) (pos : ℕ) : Tracked (H33Primitive × ℕ) := do
  let bound ← lift (offset pos H33Primitive.size)
  lift (bailIf (bytes.length < bound) "CAB too short: missing primitive")
  match ← lift (H33Primitive.fromBytes (← lift (slice bytes pos bytes.length))) with
  | none => lift (bail "failed to parse H33Primitive")
  | some primitive => do
    let pos ← advance pos H33Primitive.size
    return (primitive, pos)

def readContentHash (bytes : Bytes) (pos : ℕ) : Tracked (Block 32 × ℕ) := do
  let bound ← lift (offset pos 32)
  lift (bailIf (bytes.length < bound) "CAB too short: missing content_hash")
  readHash bytes pos

def readOnChainAnchor (bytes : Bytes) (pos : ℕ) : Tracked (Option OnChainAnchor × ℕ) := do
  lift (bailIf (bytes.length ≤ pos) "CAB too short: missing anchor flag")
  let hasAnchor ← lift (index bytes pos)
  let pos ← advance pos 1
  if hasAnchor = 1 then
    let bound ← lift (offset pos OnChainAnchor.size)
    lift (bailIf (bytes.length < bound) "CAB too short: missing anchor data")
    match ← lift (OnChainAnchor.fromBytes (← lift (slice bytes pos bytes.length))) with
    | none => lift (bail "failed to parse OnChainAnchor")
    | some anchor => do
      let pos ← advance pos OnChainAnchor.size
      return (some anchor, pos)
  else
    return (none, pos)

def readCompleteness (bytes : Bytes) (pos : ℕ) : Tracked (CompletenessLevel × ℕ) := do
  lift (bailIf (bytes.length ≤ pos) "CAB too short: missing completeness")
  let level ← lift (index bytes pos)
  if level = 0 then
    let pos ← advance pos 1
    return (.complete, pos)
  else if level = 1 then
    let pos ← advance pos 1
    return (.partialEvidence, pos)
  else if level = 2 then
    let pos ← advance pos 1
    return (.minimalViable, pos)
  else lift (bail s!"invalid completeness level: {level.toNat}")

def readSignerIdentity (json : JsonCodec SignerIdentity) (bytes : Bytes) (pos : ℕ) :
    Tracked SignerIdentity := do
  let bound ← lift (offset pos 4)
  if bound ≤ bytes.length then
    let (identityData, _) ← (readLengthPrefixed 4 bytes pos).orDefault ([], pos)
    if identityData.isEmpty then return .default
    else return json.fromSliceOr identityData .default
  else return .default

/-- The reader of a bundle. -/
def deserialize (json : JsonCodec SignerIdentity) (bytes : Bytes) :
    Tracked CacheeArchiveBundle := do
  let pos := 0
  let (magic, pos) ← readMagic bytes pos
  let (version, pos) ← readU16 bytes pos
  let (primitive, pos) ← readPrimitive bytes pos
  let (contentHash, pos) ← readContentHash bytes pos
  let (compTypeRaw, pos) ← readU16 bytes pos
  let computationType := ComputationType.fromU16 compTypeRaw
  let (timestampNs, pos) ← readU64 bytes pos
  let (mldsa65Pk, pos) ← readLengthPrefixed 2 bytes pos
  let (falcon512Pk, pos) ← readLengthPrefixed 2 bytes pos
  let (slhdsa128fPk, pos) ← readLengthPrefixed 2 bytes pos
  let (mldsa65Sig, pos) ← readLengthPrefixed 2 bytes pos
  let (falcon512Sig, pos) ← readLengthPrefixed 2 bytes pos
  let (slhdsa128fSig, pos) ← readLengthPrefixed 2 bytes pos
  let (metadata, pos) ← readLengthPrefixed 4 bytes pos
  let (onChainAnchor, pos) ← readOnChainAnchor bytes pos
  let (completeness, pos) ← readCompleteness bytes pos
  let (fpData, pos) ← readLengthPrefixed 4 bytes pos
  let (computationFingerprint, _) ← lift (fromBytes fpData).outcome
  let signerIdentity ← readSignerIdentity json bytes pos
  return {
    magic, version, primitive, contentHash, computationType, timestampNs,
    signerKeys := ⟨mldsa65Pk, falcon512Pk, slhdsa128fPk⟩,
    signatures := ⟨mldsa65Sig, falcon512Sig, slhdsa128fSig⟩,
    metadata, onChainAnchor, completeness, computationFingerprint, signerIdentity }

/-! ### Each reader stays within the buffer -/

section

variable {bytes : Bytes} {pos : ℕ}

theorem staysWithin_readBe {w : ℕ} (hw : w ≤ 8) (hlen : bytes.length < 2 ^ 63)
    (hpos : pos ≤ bytes.length) :
  StaysWithin pos bytes.length Prod.snd (readBe w bytes pos) (Cachee.readBe w bytes pos)
  := by
  unfold readBe Cachee.readBe
  simp only [offset_eq (show pos + w < 2 ^ 64 by omega), lift_ok_bind]
  apply staysWithin_bailIf_bind
  intro hbound
  apply staysWithin_lift_bind
  intro bs _
  apply staysWithin_advance_pair (by omega) (by omega)

theorem staysWithin_readU16 (hlen : bytes.length < 2 ^ 63) (hpos : pos ≤ bytes.length) :
  StaysWithin pos bytes.length Prod.snd (readU16 bytes pos) (Cachee.readU16 bytes pos)
  := by
  apply (staysWithin_readBe (by decide) hlen hpos).bind
  rintro ⟨val, pos'⟩ - - hpos'
  exact staysWithin_pair hpos'

theorem staysWithin_readU64 (hlen : bytes.length < 2 ^ 63) (hpos : pos ≤ bytes.length) :
  StaysWithin pos bytes.length Prod.snd (readU64 bytes pos) (Cachee.readU64 bytes pos)
  := by
  apply (staysWithin_readBe (by decide) hlen hpos).bind
  rintro ⟨val, pos'⟩ - - hpos'
  exact staysWithin_pair hpos'

/-- A length that is read on `w` bytes fits on them. -/
theorem lt_of_readBe {w len pos' : ℕ} (h : Cachee.readBe w bytes pos = .ok (len, pos')) :
  len < 256 ^ w
  := by
  obtain ⟨-, h⟩ := bailIf_bind_eq_ok_iff.mp h
  obtain ⟨seg, hslice, h⟩ := bind_eq_ok_iff.mp h
  obtain ⟨rfl, rfl⟩ := Prod.mk.inj (Except.ok.inj h)
  rw [← (drop_of_slice hslice).1]
  apply beNat_lt

theorem staysWithin_readLengthPrefixed {w : ℕ} (hw : w ≤ 4) (hlen : bytes.length < 2 ^ 63)
    (hpos : pos ≤ bytes.length) :
  StaysWithin pos bytes.length Prod.snd (readLengthPrefixed w bytes pos)
    (Cachee.readLengthPrefixed w bytes pos)
  := by
  apply (staysWithin_readBe (by omega) hlen hpos).bind
  rintro ⟨len, pos'⟩ hread - hpos'
  have hlt : len < 256 ^ 4 := (lt_of_readBe hread).trans_le (Nat.pow_le_pow_right (by decide) hw)
  simp only at hpos' ⊢
  simp only [offset_eq (show pos' + len < 2 ^ 64 by omega), lift_ok_bind]
  apply staysWithin_bailIf_bind
  intro hbound
  apply staysWithin_lift_bind
  intro data _
  apply staysWithin_advance_pair (by omega) (by omega)

theorem staysWithin_readHash (hlen : bytes.length < 2 ^ 63) (hbound : pos + 32 ≤ bytes.length) :
  StaysWithin pos bytes.length Prod.snd (readHash bytes pos)
    (ComputationFingerprint.readHash bytes pos)
  := by
  unfold readHash ComputationFingerprint.readHash
  simp only [offset_eq (show pos + 32 < 2 ^ 64 by omega), lift_ok_bind]
  apply staysWithin_lift_bind
  intro bs _
  apply staysWithin_lift_bind
  intro hash _
  apply staysWithin_advance_pair hbound (by omega)

theorem staysWithin_readString (missing truncated : String) (hlen : bytes.length < 2 ^ 63)
    (hpos : pos ≤ bytes.length) :
  StaysWithin pos bytes.length Prod.snd (readString missing truncated bytes pos)
    (ComputationFingerprint.readString missing truncated bytes pos)
  := by
  unfold readString ComputationFingerprint.readString
  simp only [offset_eq (show pos + 2 < 2 ^ 64 by omega), lift_ok_bind]
  apply staysWithin_bailIf_bind
  intro hprefix
  apply staysWithin_lift_bind
  intro lenBytes hslice
  have hlt := beNat_lt lenBytes
  rw [(drop_of_slice hslice).1] at hlt
  apply staysWithin_advance_bind (by omega) (by omega)
  simp only [offset_eq (show pos + 2 + beNat lenBytes < 2 ^ 64 by omega), lift_ok_bind]
  apply staysWithin_bailIf_bind
  intro hbody
  apply staysWithin_lift_bind
  intro body _
  apply staysWithin_lift_bind
  intro s _
  apply staysWithin_advance_pair (by omega) (by omega)

theorem staysWithin_readCircuitId (hlen : bytes.length < 2 ^ 63) :
  StaysWithin pos bytes.length Prod.snd (readCircuitId bytes pos)
    (ComputationFingerprint.readCircuitId bytes pos)
  := by
  unfold readCircuitId ComputationFingerprint.readCircuitId
  apply staysWithin_bailIf_bind
  intro hflag
  apply staysWithin_lift_bind
  intro flag _
  apply staysWithin_advance_bind (by omega) (by omega)
  apply staysWithin_ite
  · intro _
    apply (staysWithin_readString _ _ hlen (by omega : pos + 1 ≤ bytes.length)).bind
    rintro ⟨cid, pos'⟩ - - hpos'
    exact staysWithin_pair hpos'
  · intro _
    apply staysWithin_pair
    omega

theorem staysWithin_readHardwareClass (hlen : bytes.length < 2 ^ 63) :
  StaysWithin pos bytes.length Prod.snd (readHardwareClass bytes pos)
    (ComputationFingerprint.readHardwareClass bytes pos)
  := by
  unfold readHardwareClass ComputationFingerprint.readHardwareClass
  apply staysWithin_bailIf_bind
  intro htag
  have hnext : pos + 1 ≤ bytes.length := by omega
  apply staysWithin_lift_bind
  intro tag _
  apply staysWithin_advance_bind hnext (by omega)
  apply staysWithin_ite
  · intro _
    apply staysWithin_pair hnext
  intro _
  apply staysWithin_ite
  · intro _
    apply staysWithin_pair hnext
  intro _
  apply staysWithin_ite
  · intro _
    apply staysWithin_pair hnext
  intro _
  apply staysWithin_ite
  · intro _
    apply (staysWithin_readString _ _ hlen hnext).bind
    rintro ⟨id, pos'⟩ - - hpos'
    exact staysWithin_pair hpos'
  · intro _
    apply staysWithin_lift_error

/-- The reader of the fingerprint stays within its buffer. -/
theorem staysWithin_fromBytes (hlen : bytes.length < 2 ^ 63) :
  StaysWithin 0 bytes.length Prod.snd (fromBytes bytes) (ComputationFingerprint.fromBytes bytes)
  := by
  unfold fromBytes ComputationFingerprint.fromBytes
  dsimp only
  apply staysWithin_bailIf_bind
  intro hmin
  apply (staysWithin_readHash hlen (by omega)).bind
  rintro ⟨inputHash, pos⟩ h₁ - -
  have h₁ := (ComputationFingerprint.safe_readHash (by omega)).of_eq_ok h₁
  simp only at h₁ ⊢
  apply (staysWithin_readHash hlen (by omega)).bind
  rintro ⟨computationHash, pos⟩ h₂ - -
  have h₂ := (ComputationFingerprint.safe_readHash (by omega)).of_eq_ok h₂
  simp only at h₂ ⊢
  apply (staysWithin_readHash hlen (by omega)).bind
  rintro ⟨parameterHash, pos⟩ - - h₃
  apply (staysWithin_readString _ _ hlen h₃).bind
  rintro ⟨engine, pos⟩ - - h₄
  apply (staysWithin_readString _ _ hlen h₄).bind
  rintro ⟨version, pos⟩ - - -
  apply (staysWithin_readCircuitId hlen).bind
  rintro ⟨circuitId, pos⟩ - - -
  apply (staysWithin_readHardwareClass hlen).bind
  rintro ⟨hardwareClass, pos⟩ - - h₅
  apply staysWithin_pair h₅

theorem staysWithin_readMagic (hlen : bytes.length < 2 ^ 63) :
  StaysWithin 0 bytes.length Prod.snd (readMagic bytes 0) (Cachee.readMagic bytes 0)
  := by
  unfold readMagic Cachee.readMagic
  simp only [offset_eq (show 0 + 4 < 2 ^ 64 by decide), lift_ok_bind]
  apply staysWithin_bailIf_bind
  intro hbound
  apply staysWithin_lift_bind
  intro bs _
  apply staysWithin_lift_bind
  intro magic _
  apply staysWithin_bailIf_bind
  intro _
  apply staysWithin_advance_pair (by omega) (by omega)

theorem staysWithin_readPrimitive (hlen : bytes.length < 2 ^ 63) (hpos : pos ≤ bytes.length) :
  StaysWithin pos bytes.length Prod.snd (readPrimitive bytes pos) (Cachee.readPrimitive bytes pos)
  := by
  have hsize : H33Primitive.size = 58 := rfl
  unfold readPrimitive Cachee.readPrimitive
  simp only [offset_eq (show pos + H33Primitive.size < 2 ^ 64 by omega), lift_ok_bind]
  apply staysWithin_bailIf_bind
  intro hbound
  apply staysWithin_lift_bind
  intro rest _
  apply staysWithin_lift_bind
  rintro (_ | primitive) _
  · apply staysWithin_lift_error
  · apply staysWithin_advance_pair (by omega) (by omega)

theorem staysWithin_readContentHash (hlen : bytes.length < 2 ^ 63) (hpos : pos ≤ bytes.length) :
  StaysWithin pos bytes.length Prod.snd (readContentHash bytes pos)
    (Cachee.readContentHash bytes pos)
  := by
  unfold readContentHash Cachee.readContentHash
  simp only [offset_eq (show pos + 32 < 2 ^ 64 by omega), lift_ok_bind]
  apply staysWithin_bailIf_bind
  intro hbound
  apply staysWithin_readHash hlen (by omega)

theorem staysWithin_readOnChainAnchor (hlen : bytes.length < 2 ^ 63) :
  StaysWithin pos bytes.length Prod.snd (readOnChainAnchor bytes pos)
    (Cachee.readOnChainAnchor bytes pos)
  := by
  have hsize : OnChainAnchor.size = 74 := rfl
  unfold readOnChainAnchor Cachee.readOnChainAnchor
  apply staysWithin_bailIf_bind
  intro hflag
  apply staysWithin_lift_bind
  intro flag _
  apply staysWithin_advance_bind (by omega) (by omega)
  apply staysWithin_ite
  · intro _
    simp only [offset_eq (show pos + 1 + OnChainAnchor.size < 2 ^ 64 by omega), lift_ok_bind]
    apply staysWithin_bailIf_bind
    intro hbound
    apply staysWithin_lift_bind
    intro rest _
    apply staysWithin_lift_bind
    rintro (_ | anchor) _
    · apply staysWithin_lift_error
    · apply staysWithin_advance_pair (by omega) (by omega)
  · intro _
    apply staysWithin_pair
    omega

theorem staysWithin_readCompleteness (hlen : bytes.length < 2 ^ 63) :
  StaysWithin pos bytes.length Prod.snd (readCompleteness bytes pos)
    (Cachee.readCompleteness bytes pos)
  := by
  unfold readCompleteness Cachee.readCompleteness
  apply staysWithin_bailIf_bind
  intro hlevel
  have hnext : pos + 1 ≤ bytes.length := by omega
  apply staysWithin_lift_bind
  intro level _
  apply staysWithin_ite
  · intro _
    apply staysWithin_advance_pair hnext (by omega)
  intro _
  apply staysWithin_ite
  · intro _
    apply staysWithin_advance_pair hnext (by omega)
  intro _
  apply staysWithin_ite
  · intro _
    apply staysWithin_advance_pair hnext (by omega)
  · intro _
    apply staysWithin_lift_error

theorem staysWithin_readSignerIdentity (json : JsonCodec SignerIdentity)
    (hlen : bytes.length < 2 ^ 63) (hpos : pos ≤ bytes.length) :
  StaysWithin pos bytes.length (fun _ => bytes.length) (readSignerIdentity json bytes pos)
    (Cachee.readSignerIdentity json bytes pos)
  := by
  unfold readSignerIdentity Cachee.readSignerIdentity
  simp only [offset_eq (show pos + 4 < 2 ^ 64 by omega), lift_ok_bind]
  apply staysWithin_ite
  · intro _
    apply ((staysWithin_readLengthPrefixed le_rfl hlen hpos).orDefault hpos ([], pos)).bind
    rintro ⟨data, pos'⟩ - - -
    apply staysWithin_ite
    · intro _
      apply staysWithin_end le_rfl
    · intro _
      apply staysWithin_end le_rfl
  · intro _
    apply staysWithin_end hpos

/-- The reader of a bundle stays within its buffer. -/
theorem staysWithin_deserialize (json : JsonCodec SignerIdentity) (hlen : bytes.length < 2 ^ 63) :
  StaysWithin 0 bytes.length (fun _ => bytes.length) (deserialize json bytes)
    (CacheeArchiveBundle.deserialize json bytes)
  := by
  unfold deserialize CacheeArchiveBundle.deserialize
  dsimp only
  apply (staysWithin_readMagic hlen).bind
  rintro ⟨magic, pos⟩ - - hpos
  apply (staysWithin_readU16 hlen hpos).bind
  rintro ⟨version, pos⟩ - - hpos
  apply (staysWithin_readPrimitive hlen hpos).bind
  rintro ⟨primitive, pos⟩ - - hpos
  apply (staysWithin_readContentHash hlen hpos).bind
  rintro ⟨contentHash, pos⟩ - - hpos
  apply (staysWithin_readU16 hlen hpos).bind
  rintro ⟨compTypeRaw, pos⟩ - - hpos
  apply (staysWithin_readU64 hlen hpos).bind
  rintro ⟨timestampNs, pos⟩ - - hpos
  apply (staysWithin_readLengthPrefixed (by decide) hlen hpos).bind
  rintro ⟨mldsa65Pk, pos⟩ - - hpos
  apply (staysWithin_readLengthPrefixed (by decide) hlen hpos).bind
  rintro ⟨falcon512Pk, pos⟩ - - hpos
  apply (staysWithin_readLengthPrefixed (by decide) hlen hpos).bind
  rintro ⟨slhdsa128fPk, pos⟩ - - hpos
  apply (staysWithin_readLengthPrefixed (by decide) hlen hpos).bind
  rintro ⟨mldsa65Sig, pos⟩ - - hpos
  apply (staysWithin_readLengthPrefixed (by decide) hlen hpos).bind
  rintro ⟨falcon512Sig, pos⟩ - - hpos
  apply (staysWithin_readLengthPrefixed (by decide) hlen hpos).bind
  rintro ⟨slhdsa128fSig, pos⟩ - - hpos
  apply (staysWithin_readLengthPrefixed (by decide) hlen hpos).bind
  rintro ⟨metadata, pos⟩ - - -
  apply (staysWithin_readOnChainAnchor hlen).bind
  rintro ⟨onChainAnchor, pos⟩ - - -
  apply (staysWithin_readCompleteness hlen).bind
  rintro ⟨completeness, pos⟩ - - hpos
  apply (staysWithin_readLengthPrefixed (by decide) hlen hpos).bind
  rintro ⟨fpData, pos⟩ hfpData - hpos
  obtain ⟨-, ⟨hfits, -⟩, -⟩ := consumes_readLengthPrefixed 4 hfpData
  have hlen' : fpData.length < 2 ^ 63 := by omega
  apply staysWithin_lift_outcome_bind (staysWithin_fromBytes hlen').outcome
  rintro ⟨computationFingerprint, consumed⟩ -
  apply (staysWithin_readSignerIdentity json hlen hpos).bind
  intro signerIdentity _ _ _
  apply staysWithin_end le_rfl

/-- The reader of a primitive returns on every byte string. -/
theorem returns_fromBytes (bytes : Bytes) :
  Returns (H33Primitive.fromBytes bytes)
  := by
  unfold H33Primitive.fromBytes
  apply returns_ite
  · intro _
    apply returns_pure
  intro hlen
  simp only [H33Primitive.size] at hlen
  apply (returns_index (by omega)).bind
  intro version _
  apply (returns_slice (by decide) (by omega)).bind
  intro timestamp _
  apply (returns_slice (by decide) (by omega)).bind
  intro valueHash _
  apply (returns_slice (by decide) (by omega)).bind
  intro mldsaPrefix _
  apply (returns_slice (by decide) (by omega)).bind
  intro falconPrefix _
  apply (returns_slice (by decide) (by omega)).bind
  intro slhdsaPrefix _
  apply (returns_slice (by decide) (by omega)).bind
  intro flags _
  apply returns_pure

/-- On every buffer of less than `2 ^ 63` bytes, the readers of a bundle and of a fingerprint are
range safe: no sum of offsets overflows, no slice or index is outside the buffer, the position
moves forward within it, and they end with a result or an error.  The reader of a fingerprint
consumes no more bytes than there are, and that of a primitive returns. -/
theorem readers_rangeSafe (json : JsonCodec SignerIdentity) (hlen : bytes.length < 2 ^ 63) :
  RangeSafe bytes.length (deserialize json bytes)
      (CacheeArchiveBundle.deserialize json bytes) ∧
    RangeSafe bytes.length (fromBytes bytes) (ComputationFingerprint.fromBytes bytes) ∧
    (∀ f n, ComputationFingerprint.fromBytes bytes = .ok (f, n) → n ≤ bytes.length) ∧
    Returns (H33Primitive.fromBytes bytes)
  := by
  have hsafe := CacheeArchiveBundle.safe_deserialize json bytes
  have hsafe' := @ComputationFingerprint.safe_fromBytes bytes
  refine ⟨(staysWithin_deserialize json hlen).rangeSafe hsafe,
    (staysWithin_fromBytes hlen).rangeSafe hsafe', ?_, returns_fromBytes bytes⟩
  intro f n h
  exact hsafe'.of_eq_ok h

end

/-- Reading what is written of the blank bundle up to its fingerprint is range safe. -/
theorem readers_rangeSafe_blank :
  RangeSafe CacheeArchiveBundle.blank.sections.length
    (deserialize SignerIdentity.defaultCodec CacheeArchiveBundle.blank.sections)
    (CacheeArchiveBundle.deserialize SignerIdentity.defaultCodec
      CacheeArchiveBundle.blank.sections)
  := (readers_rangeSafe SignerIdentity.defaultCodec (by decide +kernel)).1

end Positions

end Cachee
