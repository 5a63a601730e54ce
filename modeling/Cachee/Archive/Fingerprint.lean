import Cachee.Library.Text

/-!
# The computation fingerprint

The identity of a computation: the hashes of its input, of its definition and of its
parameters, the version of the engine that ran it and the class of the hardware it ran
on.  A fingerprint has a digest, the hash of the concatenation of its fields, and a
self-delimiting encoding, which `fromBytes` reads back.
-/

open Text

namespace Cachee

/-- The class of the hardware of a computation, with an identifier of the hardware when
the computation is not deterministic on it. -/
inductive HardwareClass where
  | deterministic
  | nearDeterministic
  | nonDeterministic (id : String)
  deriving DecidableEq

/-- The engine, its version and the circuit that produced a result. -/
structure ComputationVersion where
  engine : String
  version : String
  circuitId : Option String
  deriving DecidableEq

/-- The identity of a computation: its input, definition and parameters, its engine and hardware. -/
structure ComputationFingerprint where
  inputHash : Block 32
  computationHash : Block 32
  parameterHash : Block 32
  version : ComputationVersion
  hardwareClass : Option HardwareClass
  deriving DecidableEq

namespace ComputationFingerprint

/-- The fingerprint with zero hashes and no identity. -/
def empty : ComputationFingerprint where
  inputHash := Block.zero 32
  computationHash := Block.zero 32
  parameterHash := Block.zero 32
  version := ⟨"", "", none⟩
  hardwareClass := none

/-- A fingerprint is valid when its input hash and its computation hash are not zero. -/
def isValid (f : ComputationFingerprint) : Bool :=
  f.inputHash ≠ Block.zero 32 && f.computationHash ≠ Block.zero 32

/-- The fingerprint whose hashes are all ones, of the engine `ab` in version `c`. -/
def ones : ComputationFingerprint where
  inputHash := ⟨List.replicate 32 1, rfl⟩
  computationHash := ⟨List.replicate 32 1, rfl⟩
  parameterHash := ⟨List.replicate 32 1, rfl⟩
  version := ⟨"ab", "c", none⟩
  hardwareClass := none

/-! ### The digest -/

/-- What the digest hashes for the circuit: nothing, or its identifier. -/
def circuitDigestBytes : Option String → Bytes
  | some circuitId => asBytes circuitId
  | none => []

/-- What the digest hashes for the hardware: a tag, and the identifier after tag 3. -/
def hardwareDigestBytes : Option HardwareClass → Bytes
  | none => [0]
  | some .deterministic => [1]
  | some .nearDeterministic => [2]
  | some (.nonDeterministic id) => 3 :: asBytes id

/-- The byte string that the digest hashes. -/
def digestInput (f : ComputationFingerprint) : Bytes :=
  f.inputHash.1 ++ f.computationHash.1 ++ f.parameterHash.1
    ++ asBytes f.version.engine ++ asBytes f.version.version
    ++ circuitDigestBytes f.version.circuitId ++ hardwareDigestBytes f.hardwareClass

/-- The digest of a fingerprint, for the hash function `sha3`. -/
def digest (sha3 : Bytes → Block 32) (f : ComputationFingerprint) : Block 32 :=
  sha3 f.digestInput

/-! ### The encoding -/

/-- A string after its length on two bytes. -/
def stringBytes (s : String) : Bytes :=
  beBytes 2 (asBytes s).length ++ asBytes s

/-- A flag byte, and the circuit identifier after flag 1. -/
def circuitBytes : Option String → Bytes
  | some cid => 1 :: stringBytes cid
  | none => [0]

/-- A tag byte, and the hardware identifier after tag 3. -/
def hardwareBytes : Option HardwareClass → Bytes
  | none => [0]
  | some .deterministic => [1]
  | some .nearDeterministic => [2]
  | some (.nonDeterministic id) => 3 :: stringBytes id

/-- Serialize to bytes for inclusion in the archive format. -/
def toBytes (f : ComputationFingerprint) : Bytes :=
  f.inputHash.1 ++ (f.computationHash.1 ++ (f.parameterHash.1
    ++ (stringBytes f.version.engine ++ (stringBytes f.version.version
      ++ (circuitBytes f.version.circuitId ++ hardwareBytes f.hardwareClass)))))

/-- The encoding with any value of the flag before the circuit identifier. -/
def bytesWith (circuitFlag : UInt8) (f : ComputationFingerprint) : Bytes :=
  f.inputHash.1 ++ (f.computationHash.1 ++ (f.parameterHash.1
    ++ (stringBytes f.version.engine ++ (stringBytes f.version.version
      ++ (flaggedBytes stringBytes circuitFlag f.version.circuitId
        ++ hardwareBytes f.hardwareClass)))))

/-- The encoding has the flag that tells whether there is a circuit identifier. -/
theorem toBytes_eq (f : ComputationFingerprint) :
  f.toBytes = f.bytesWith (flagOf f.version.circuitId)
  := by
  rw [toBytes, bytesWith]
  cases f.version.circuitId with
  | none => rfl
  | some cid => rfl

/-- Read a hash of 32 bytes. -/
def readHash : Reader (Block 32) := fun bytes pos => do
  let hash ← tryIntoBlock 32 (← slice bytes pos (pos + 32))
  return (hash, pos + 32)

/-- Read a string after its length, with the messages for a missing length and for a
string that is cut off. -/
def readString (missing truncated : String) : Reader String := fun bytes pos => do
  bailIf (bytes.length < pos + 2) missing
  let len := beNat (← slice bytes pos (pos + 2))
  let pos := pos + 2
  bailIf (bytes.length < pos + len) truncated
  let s ← fromUtf8 (← slice bytes pos (pos + len))
  return (s, pos + len)

/-- Read the circuit identifier: any flag other than 1 stands for none. -/
def readCircuitId : Reader (Option String) := fun bytes pos => do
  bailIf (bytes.length ≤ pos) "ComputationFingerprint: missing circuit_id flag"
  let hasCircuit ← index bytes pos
  let pos := pos + 1
  if hasCircuit = 1 then
    let (cid, pos) ← readString "ComputationFingerprint: missing circuit_id length"
      "ComputationFingerprint: circuit_id string truncated" bytes pos
    return (some cid, pos)
  else
    return (none, pos)

/-- Read the hardware class. -/
def readHardwareClass : Reader (Option HardwareClass) := fun bytes pos => do
  bailIf (bytes.length ≤ pos) "ComputationFingerprint: missing hardware_class"
  let hwTag ← index bytes pos
  let pos := pos + 1
  if hwTag = 0 then return (none, pos)
  else if hwTag = 1 then return (some .deterministic, pos)
  else if hwTag = 2 then return (some .nearDeterministic, pos)
  else if hwTag = 3 then
    let (id, pos) ← readString "ComputationFingerprint: missing hw id length"
      "ComputationFingerprint: hw id truncated" bytes pos
    return (some (.nonDeterministic id), pos)
  else bail s!"ComputationFingerprint: invalid hw class tag {hwTag.toNat}"

/-- Deserialize from bytes.  Returns the fingerprint and the number of bytes consumed. -/
def fromBytes (bytes : Bytes) : Outcome (ComputationFingerprint × ℕ) := do
  let pos := 0
  bailIf (bytes.length < 96) "ComputationFingerprint too short"
  let (inputHash, pos) ← readHash bytes pos
  let (computationHash, pos) ← readHash bytes pos
  let (parameterHash, pos) ← readHash bytes pos
  let (engine, pos) ← readString "ComputationFingerprint: missing engine length"
    "ComputationFingerprint: engine string truncated" bytes pos
  let (version, pos) ← readString "ComputationFingerprint: missing version length"
    "ComputationFingerprint: version string truncated" bytes pos
  let (circuitId, pos) ← readCircuitId bytes pos
  let (hardwareClass, pos) ← readHardwareClass bytes pos
  return (⟨inputHash, computationHash, parameterHash, ⟨engine, version, circuitId⟩,
    hardwareClass⟩, pos)

/-! ### Reading back the encoding -/

/-- A string fits when its length fits on the two bytes of its prefix. -/
def StringFits (s : String) : Prop := (asBytes s).length < 2 ^ 16

instance (s : String) : Decidable (StringFits s) :=
  inferInstanceAs (Decidable ((asBytes s).length < 2 ^ 16))

/-- The strings of a fingerprint fit their length prefixes. -/
structure Fits (f : ComputationFingerprint) : Prop where
  engine : StringFits f.version.engine
  version : StringFits f.version.version
  circuitId : ∀ cid, f.version.circuitId = some cid → StringFits cid
  hardwareClass : ∀ id, f.hardwareClass = some (.nonDeterministic id) → StringFits id

theorem fits_empty :
  empty.Fits
  := by
  constructor
  · decide
  · decide
  · rintro cid ⟨⟩
  · rintro id ⟨⟩

theorem fits_ones :
  ones.Fits
  := by
  constructor
  · decide
  · decide
  · rintro cid ⟨⟩
  · rintro id ⟨⟩

theorem reads_hash (h : Block 32) :
  Reads readHash h h.1
  := by
  intro bytes pos rest hdrop
  rw [readHash, slice_block hdrop (by decide), ok_bind, tryIntoBlock_val, ok_bind, h.2]
  rfl

/-- A string that fits is read back, whatever the messages for one that is cut off. -/
theorem reads_string {s : String} (hs : StringFits s) (missing truncated : String) :
  Reads (readString missing truncated) s (stringBytes s)
  := by
  intro bytes pos rest hdrop
  have hlen := length_of_drop_eq hdrop (by simp [stringBytes, beBytes])
  rw [stringBytes, List.append_assoc] at hdrop
  have hprefix := slice_segment hdrop (by simp [beBytes])
  have hdrop' := drop_segment hdrop
  simp only [stringBytes, List.length_append, length_beBytes] at hlen hprefix hdrop' ⊢
  have hbody := slice_segment_of_le hdrop' (by omega)
  have hnat : beNat (beBytes 2 (asBytes s).length) = (asBytes s).length :=
    beNat_beBytes_of_lt hs
  rw [readString, bailIf_neg (by omega), ok_bind, hprefix, ok_bind, hnat]
  dsimp only
  rw [bailIf_neg (by omega), ok_bind, hbody, ok_bind, fromUtf8_asBytes, ok_bind, Nat.add_assoc]
  rfl

/-- The circuit identifier is read back after flag 1, and its absence after any other flag. -/
theorem reads_circuitId {flag : UInt8} {c : Option String} (hflag : flag = 1 ↔ c.isSome)
    (hc : ∀ cid, c = some cid → StringFits cid) :
  Reads readCircuitId c (flaggedBytes stringBytes flag c)
  := by
  intro bytes pos rest hdrop
  cases c with
  | none =>
    have hne : flag ≠ 1 := by simpa using hflag
    rw [readCircuitId, bailIf_index_eq hdrop, if_neg hne]
    rfl
  | some cid =>
    have heq : flag = 1 := by simpa using hflag
    simp only [flaggedBytes, Option.elim_some, List.length_cons]
    rw [readCircuitId, bailIf_index_eq hdrop, if_pos heq,
      (reads_string (hc cid rfl) _ _).bind_eq (drop_byte hdrop), Nat.add_right_comm]
    rfl

theorem reads_hardwareClass {c : Option HardwareClass}
    (hc : ∀ id, c = some (.nonDeterministic id) → StringFits id) :
  Reads readHardwareClass c (hardwareBytes c)
  := by
  intro bytes pos rest hdrop
  rcases c with _ | _ | _ | id
  · rw [readHardwareClass, bailIf_index_eq hdrop]
    rfl
  · rw [readHardwareClass, bailIf_index_eq hdrop]
    rfl
  · rw [readHardwareClass, bailIf_index_eq hdrop]
    rfl
  · simp only [hardwareBytes, List.length_cons]
    rw [readHardwareClass, bailIf_index_eq hdrop, if_neg (by decide), if_neg (by decide),
      if_neg (by decide), if_pos rfl, (reads_string (hc id rfl) _ _).bind_eq (drop_byte hdrop),
      Nat.add_right_comm]
    rfl

/-- A fingerprint with strings that fit is read back from its encoding, whatever value stands
for the absence of a circuit identifier and whatever follows. -/
theorem fromBytes_bytesWith {f : ComputationFingerprint} (hf : f.Fits) {circuitFlag : UInt8}
    (hflag : circuitFlag = 1 ↔ f.version.circuitId.isSome) (unread : Bytes) :
  fromBytes (f.bytesWith circuitFlag ++ unread) = .ok (f, (f.bytesWith circuitFlag).length)
  := by
  have h₀ : (f.bytesWith circuitFlag ++ unread).drop 0 = f.bytesWith circuitFlag ++ unread := rfl
  nth_rewrite 2 [bytesWith] at h₀
  simp only [List.append_assoc] at h₀
  have h₁ := drop_segment h₀
  have h₂ := drop_segment h₁
  have h₃ := drop_segment h₂
  have h₄ := drop_segment h₃
  have h₅ := drop_segment h₄
  have h₆ := drop_segment h₅
  have hlen : ¬ (f.bytesWith circuitFlag ++ unread).length < 96 := by
    simp only [bytesWith, List.length_append, f.inputHash.2, f.computationHash.2,
      f.parameterHash.2]
    omega
  rw [fromBytes]
  dsimp only
  rw [bailIf_neg hlen, ok_bind, (reads_hash f.inputHash).bind_eq h₀,
    (reads_hash f.computationHash).bind_eq h₁, (reads_hash f.parameterHash).bind_eq h₂,
    (reads_string hf.engine _ _).bind_eq h₃, (reads_string hf.version _ _).bind_eq h₄,
    (reads_circuitId hflag hf.circuitId).bind_eq h₅,
    (reads_hardwareClass hf.hardwareClass).bind_eq h₆]
  simp only [bytesWith, List.length_append, Nat.zero_add, Nat.add_assoc]
  rfl

/-- A fingerprint with strings that fit is read back from its encoding, which is consumed
whole. -/
theorem fromBytes_toBytes {f : ComputationFingerprint} (hf : f.Fits) :
  fromBytes f.toBytes = .ok (f, f.toBytes.length)
  := by
  rw [toBytes_eq, ← fromBytes_bytesWith hf flagOf_eq_one_iff [], List.append_nil]

end ComputationFingerprint

end Cachee
