import Cachee.Archive.Overlong

/-!
# Lengths that can be decoded

A bundle with a field that is too long may be decoded or not, which depends on the bytes that the
length prefix does not count.  Of lengths that all fit, every bundle is decoded, with the keys and
signatures that were written; and so it is if only the identifier of the hardware is too long, and
its prefix counts zero: this field is the last one of the fingerprint, so that its bytes are not
read.  Of any other lengths there is a bundle that is not decoded.
-/

open Text

namespace Cachee

open PrefixedField

namespace CacheeArchiveBundle

variable {json : JsonCodec SignerIdentity} {b : CacheeArchiveBundle}

/-! ### Zeros in a section of bytes that is too long -/

/-- Sections without contents are zeros. -/
theorem writeContents_nil (fields : List PrefixedField) :
  writeContents (fun _ => []) fields
    = List.replicate (writeContents (fun _ => []) fields).length 0
  := by
  rw [List.eq_replicate_iff]
  refine ⟨rfl, ?_⟩
  intro byte hbyte
  obtain ⟨f, -, hf⟩ := List.mem_flatMap.mp hbyte
  have hzeros : writeLengthPrefixed f.width [] = List.replicate f.width 0 := by
    cases f with
    | _ => rfl
  rw [hzeros] at hf
  apply List.eq_of_mem_replicate hf

/-- Zeros are read as sections without contents. -/
theorem zeros_of_writeContents {content : PrefixedField → Bytes} {fields : List PrefixedField}
    (h : ∀ f ∈ fields, (content f).length < f.limit) {n : ℕ} (hn : 4 * fields.length ≤ n)
    {x y : Bytes} (heq : List.replicate n 0 ++ x = writeContents content fields ++ y) :
  ∃ m, n ≤ m + 4 * fields.length ∧ List.replicate m 0 ++ x = y
  := by
  have hlen := length_writeContents_nil fields
  have hpos (f : PrefixedField) : ([] : Bytes).length < f.limit :=
    Nat.lt_of_lt_of_le (by decide) f.le_limit
  refine ⟨n - (writeContents (fun _ => []) fields).length, by omega, ?_⟩
  have hsplit : List.replicate n (0 : UInt8) = writeContents (fun _ => []) fields
      ++ List.replicate (n - (writeContents (fun _ => []) fields).length) 0 := by
    rw [writeContents_nil, List.length_replicate, List.replicate_append_replicate]
    congr 1
    omega
  rw [hsplit, List.append_assoc] at heq
  apply (writeContents_append_inj (fun f _ => hpos f) h heq).2

/-- The sections after the metadata do not start with zeros: the section of the fingerprint is not
empty. -/
theorem zeros_ne_back {slack : Slack} (hslack : slack.Allowed b) {n : ℕ} (hn : 6 ≤ n)
    (x y : Bytes) :
  List.replicate n 0 ++ x ≠ back slack b ++ y
  := by
  obtain ⟨m, rfl⟩ := Nat.exists_eq_add_of_le hn
  intro heq
  have hsix : List.replicate (6 + m) (0 : UInt8)
      = 0 :: 0 :: (writeLengthPrefixedU32 [] ++ List.replicate m 0) := by
    rw [← List.replicate_append_replicate]
    rfl
  have hnone : b.onChainAnchor = none := by
    have hflag : slack.anchorFlag = 0 := by
      rw [hsix, back, flaggedBytes] at heq
      exact (List.cons.inj heq).1.symm
    rw [← Option.not_isSome_iff_eq_none, ← hslack.anchor, hflag]
    decide
  rw [hsix, back, flaggedBytes, hnone] at heq
  simp only [Option.elim_none, List.cons_append, List.nil_append, List.append_assoc,
    List.cons.injEq] at heq
  obtain ⟨-, -, heq⟩ := heq
  have hempty : ([] : Bytes).length < 256 ^ 4 := by decide
  obtain ⟨hnil, -⟩ := (writeLengthPrefixed_append_inj hempty hslack.fits).mp heq
  have hlen := congrArg List.length hnil
  simp only [ComputationFingerprint.bytesWith, List.length_append, List.length_nil,
    b.computationFingerprint.inputHash.2] at hlen
  omega

/-- A bundle with zeros in too long a section of bytes, before which all sections fit, is not read
back. -/
theorem deserialize_ne_ok_of_zeros {pre post : List PrefixedField} {f : PrefixedField}
    {ℓ : PrefixedField → ℕ} (hsplit : byteSections = pre ++ f :: post)
    (hpre : ∀ g ∈ pre, ℓ g < g.limit) (hf : f.limit ≤ ℓ f) (base b' : CacheeArchiveBundle) :
  deserialize json ((base.withContents fun g => List.replicate (ℓ g) 0).serialize json) ≠ .ok b'
  := by
  intro hread
  obtain ⟨slack, tail, hlaid⟩ := laidOut_of_deserialize hread
  have hbytes := hlaid.bytes
  have hfits := sectionsFit_iff_lengthIn.mp hlaid.fits
  rw [serialize_eq, sections, sectionsWith_withContents, sectionsWith_eq, hsplit,
    writeContents_append, writeContents_append, writeContents_cons, writeContents_cons] at hbytes
  simp only [List.append_assoc] at hbytes
  obtain ⟨-, hbytes⟩ := List.append_inj hbytes (by rw [length_front, length_front])
  have hpre' : ∀ g ∈ pre, (List.replicate (ℓ g) (0 : UInt8)).length < g.limit := by
    intro g hg
    rw [List.length_replicate]
    apply hpre g hg
  obtain ⟨-, hbytes⟩ := writeContents_append_inj hpre' (fun g _ => hfits g) hbytes
  -- The prefix of the section counts the remainder of its length; zeros follow.
  have hmod := Nat.mod_le (ℓ f) f.limit
  have hlt := Nat.mod_lt (ℓ f) (Nat.lt_of_lt_of_le (by decide) f.le_limit)
  have hfield : writeLengthPrefixed f.width (List.replicate (ℓ f) 0)
      = writeLengthPrefixed f.width (List.replicate (ℓ f % f.limit) 0)
        ++ List.replicate (ℓ f - ℓ f % f.limit) 0 := by
    rw [← writeLengthPrefixed_append_of_mod, List.replicate_append_replicate,
      Nat.add_sub_cancel' hmod]
    rw [List.replicate_append_replicate, Nat.add_sub_cancel' hmod, List.length_replicate,
      List.length_replicate]
    rfl
  rw [hfield, List.append_assoc] at hbytes
  have hshort : (List.replicate (ℓ f % f.limit) (0 : UInt8)).length < 256 ^ f.width := by
    rw [List.length_replicate]
    exact hlt
  obtain ⟨-, hbytes⟩ := (writeLengthPrefixed_append_inj hshort (hfits f)).mp hbytes
  have hlong := le_sub_mod (Nat.lt_of_lt_of_le (by decide) f.le_limit) hf
  have hlimit := f.le_limit
  have hseven := congrArg List.length hsplit
  have hlength : byteSections.length = 7 := rfl
  rw [List.length_append, List.length_cons, hlength] at hseven
  obtain ⟨m, hm, hzeros⟩ := zeros_of_writeContents (fun g _ => hfits g) (by omega) hbytes
  apply zeros_ne_back hlaid.allowed (by omega) _ _ hzeros

/-! ### A text at which decoding stops -/

/-- The text of `n` bytes, zeros but for a mark behind the first `i`. -/
def marked (n i : ℕ) (mark : Char) : String :=
  String.ofList (List.replicate i '\x00' ++ mark :: List.replicate (n - i - mark.utf8Size) '\x00')

theorem asBytes_marked (n i : ℕ) (mark : Char) :
  asBytes (marked n i mark) = List.replicate i 0
    ++ (String.utf8EncodeChar mark ++ List.replicate (n - i - mark.utf8Size) 0)
  := by
  have hzeros (k : ℕ) : (List.replicate k '\x00').flatMap String.utf8EncodeChar
      = List.replicate k 0 := by
    rw [← asBytes_nul, asBytes_eq_flatMap, nul, String.toList_ofList]
  rw [asBytes_eq_flatMap, marked, String.toList_ofList, List.flatMap_append, List.flatMap_cons,
    hzeros, hzeros]

theorem length_asBytes_marked {n i : ℕ} {mark : Char} (h : i + mark.utf8Size ≤ n) :
  (asBytes (marked n i mark)).length = n
  := by
  simp only [asBytes_marked, List.length_append, List.length_replicate,
    String.length_utf8EncodeChar]
  omega

/-- A text of `n` bytes behind the first of which, as many as its prefix counts, the reader finds a
hardware tag of four where it looks for the tag; or, for the identifier of the hardware, whose
prefix ends inside a character. -/
def stopText (n : ℕ) : PrefixedField → String
  | .engine => marked n (n % 2 ^ 16 + 3) '\x04'
  | .version => marked n (n % 2 ^ 16 + 1) '\x04'
  | .circuitId => marked n (n % 2 ^ 16) '\x04'
  | .hardwareId => marked n (n % 2 ^ 16 - 1) 'é'
  | _ => nul n

open ComputationFingerprint

/-- No hardware class has the tag four. -/
theorem four_ne_hardwareBytes (c : Option HardwareClass) (x y : Bytes) :
  4 :: x ≠ hardwareBytes c ++ y
  := by
  rcases c with _ | _ | _ | id
  · simp [hardwareBytes]
  · simp [hardwareBytes]
  · simp [hardwareBytes]
  · simp [hardwareBytes]

/-- Behind the flag that there is no circuit identifier, there is a hardware tag. -/
theorem four_ne_circuitBytes {circuitFlag : UInt8} {id : Option String}
    (hflag : circuitFlag = 1 ↔ id.isSome) (c : Option HardwareClass) (x y : Bytes) :
  0 :: 4 :: x ≠ flaggedBytes stringBytes circuitFlag id ++ (hardwareBytes c ++ y)
  := by
  intro heq
  rw [flaggedBytes, List.cons_append] at heq
  obtain ⟨hzero, hrest⟩ := List.cons.inj heq
  cases id with
  | none => apply four_ne_hardwareBytes c x y hrest
  | some id =>
    have hone := hflag.mpr rfl
    rw [← hzero] at hone
    exact absurd hone (by decide)

/-- A text whose first bytes, as many as its prefix counts, are `u`. -/
theorem stringBytes_of_mod {s : String} {u v : Bytes} (hs : asBytes s = u ++ v)
    (hlen : (asBytes s).length % 2 ^ 16 = u.length) :
  stringBytes s = writeLengthPrefixed 2 u ++ v
  := by
  rw [stringBytes, hs]
  apply writeLengthPrefixed_append_of_mod
  rw [← hs]
  apply hlen

/-- Bytes that start with a text that fits determine it. -/
theorem stringBytes_append_inj {s : String} {u x y : Bytes} (hu : u.length < 2 ^ 16)
    (hs : StringFits s) (heq : writeLengthPrefixed 2 u ++ x = stringBytes s ++ y) :
  u = asBytes s ∧ x = y
  := (writeLengthPrefixed_append_inj hu hs).mp heq

/-- The texts of a fingerprint stand behind its hashes. -/
theorem texts_of_toBytes {text : PrefixedField → String} {fingerprint : ComputationFingerprint}
    {circuitFlag : UInt8} {unread : Bytes}
    (heq : (textFingerprint text).toBytes = fingerprint.bytesWith circuitFlag ++ unread) :
  stringBytes (text .engine) ++ (stringBytes (text .version)
      ++ (1 :: (stringBytes (text .circuitId) ++ (3 :: stringBytes (text .hardwareId)))))
    = stringBytes fingerprint.version.engine ++ (stringBytes fingerprint.version.version
      ++ (flaggedBytes stringBytes circuitFlag fingerprint.version.circuitId
        ++ (hardwareBytes fingerprint.hardwareClass ++ unread)))
  := by
  have hlen (x y : Block 32) : x.1.length = y.1.length := x.2.trans y.2.symm
  simp only [toBytes, bytesWith, List.append_assoc] at heq
  obtain ⟨-, heq⟩ := List.append_inj heq (hlen _ _)
  obtain ⟨-, heq⟩ := List.append_inj heq (hlen _ _)
  obtain ⟨-, heq⟩ := List.append_inj heq (hlen _ _)
  apply heq

/-- A text does not end inside a character. -/
theorem asBytes_ne_zeros_append (s : String) (n : ℕ) :
  asBytes s ≠ List.replicate n 0 ++ [0xC3]
  := by
  rw [asBytes_eq_flatMap]
  generalize s.toList = cs
  induction n generalizing cs with
  | zero =>
    intro heq
    cases cs with
    | nil => cases heq
    | cons c cs =>
      have hfront : decodeChar? [0xC3] = some c := by
        rw [decodeChar?_eq_some_iff]
        exact ⟨_, heq⟩
      have hnone : decodeChar? [0xC3] = none := by decide
      rw [hnone] at hfront
      cases hfront
  | succ n ih =>
    intro heq
    cases cs with
    | nil => cases heq
    | cons c cs =>
      rw [List.replicate_succ, List.cons_append, List.flatMap_cons] at heq
      have hfront : decodeChar? (0 :: (List.replicate n 0 ++ [0xC3])) = some c := by
        rw [decodeChar?_eq_some_iff]
        exact ⟨_, heq⟩
      rw [decodeChar?_ascii (by decide)] at hfront
      obtain rfl := Option.some.inj hfront
      have hzero : String.utf8EncodeChar (Char.ofNat (0 : UInt8).toNat) = [0] := by decide
      rw [hzero] at heq
      apply ih cs (List.cons.inj heq).2

/-- Behind what is read of a text that is too long, with a four behind the zeros that its prefix
counts and `k` more, there are these zeros and the four. -/
theorem marked_append_inj {n : ℕ} (hn : 2 ^ 16 ≤ n) {k : ℕ} (hk : k ≤ 3) {s : String} {x y : Bytes}
    (hs : StringFits s)
    (heq : stringBytes (marked n (n % 2 ^ 16 + k) '\x04') ++ x = stringBytes s ++ y) :
  ∃ rest, List.replicate k 0 ++ 4 :: rest = y
  := by
  have hmod := le_sub_mod (by decide) hn
  have hsize : '\x04'.utf8Size = 1 := by decide
  have hfour : String.utf8EncodeChar '\x04' = [4] := by decide
  have hcounted : (List.replicate (n % 2 ^ 16) (0 : UInt8)).length = n % 2 ^ 16 :=
    List.length_replicate
  have hwritten : stringBytes (marked n (n % 2 ^ 16 + k) '\x04')
      = writeLengthPrefixed 2 (List.replicate (n % 2 ^ 16) 0)
        ++ (List.replicate k 0 ++ 4 :: List.replicate (n - (n % 2 ^ 16 + k) - 1) 0) := by
    apply stringBytes_of_mod
    · rw [asBytes_marked, hfour, hsize, ← List.replicate_append_replicate, List.append_assoc]
      rfl
    · rw [length_asBytes_marked (by omega), hcounted]
  rw [hwritten, List.append_assoc] at heq
  obtain ⟨-, hrest⟩ :=
    stringBytes_append_inj (by rw [hcounted]; exact Nat.mod_lt _ (by decide)) hs heq
  rw [List.append_assoc] at hrest
  exact ⟨_, hrest⟩

/-- An identifier that is too long, with a character at the end of what its prefix counts. -/
theorem stringBytes_cut {n : ℕ} (hn : 2 ^ 16 ≤ n) (hmod : n % 2 ^ 16 ≠ 0) :
  ∃ rest, stringBytes (marked n (n % 2 ^ 16 - 1) 'é')
    = writeLengthPrefixed 2 (List.replicate (n % 2 ^ 16 - 1) 0 ++ [0xC3]) ++ rest
  := by
  have hle := le_sub_mod (by decide) hn
  have hsize : 'é'.utf8Size = 2 := by decide
  have hbytes : String.utf8EncodeChar 'é' = [0xC3, 0xA9] := by decide
  use 0xA9 :: List.replicate (n - (n % 2 ^ 16 - 1) - 2) 0
  apply stringBytes_of_mod
  · rw [asBytes_marked, hbytes, hsize, List.append_assoc]
    rfl
  · rw [length_asBytes_marked (by omega), List.length_append, List.length_replicate,
      List.length_singleton]
    omega

/-- The texts of zeros of some lengths, but for one at which decoding stops. -/
def stopTexts (ℓ : PrefixedField → ℕ) (f g : PrefixedField) : String :=
  if g = f then stopText (ℓ g) g else nul (ℓ g)

section Stop

variable {ℓ : PrefixedField → ℕ} {fingerprint : ComputationFingerprint} {circuitFlag : UInt8}
  {unread : Bytes}

/-- Texts of zeros that fit may be read. -/
theorem nul_append_inj {n : ℕ} {s : String} {x y : Bytes} (hn : n < 2 ^ 16) (hs : StringFits s)
    (heq : stringBytes (nul n) ++ x = stringBytes s ++ y) :
  x = y
  := by
  have hlen : (asBytes (nul n)).length < 2 ^ 16 := by
    rw [length_asBytes_nul]
    apply hn
  apply (stringBytes_append_inj hlen hs heq).2

theorem engine_stops (hengine : 2 ^ 16 ≤ ℓ .engine) (hfits : fingerprint.Fits)
    (hflag : circuitFlag = 1 ↔ fingerprint.version.circuitId.isSome) :
  (textFingerprint (stopTexts ℓ .engine)).toBytes ≠ fingerprint.bytesWith circuitFlag ++ unread
  := by
  intro heq
  have hafter := texts_of_toBytes heq
  obtain ⟨rest, hversion⟩ := @marked_append_inj _ hengine 3 (by decide) _ _ _ hfits.engine hafter
  -- The version is read from two of the zeros.
  have hempty : ([] : Bytes).length < 2 ^ 16 := by decide
  obtain ⟨-, hcircuit⟩ := stringBytes_append_inj hempty hfits.version hversion
  apply four_ne_circuitBytes hflag _ _ _ hcircuit

theorem version_stops (hengine : ℓ .engine < 2 ^ 16) (hversion : 2 ^ 16 ≤ ℓ .version)
    (hfits : fingerprint.Fits)
    (hflag : circuitFlag = 1 ↔ fingerprint.version.circuitId.isSome) :
  (textFingerprint (stopTexts ℓ .version)).toBytes ≠ fingerprint.bytesWith circuitFlag ++ unread
  := by
  intro heq
  have hafter := nul_append_inj hengine hfits.engine (texts_of_toBytes heq)
  obtain ⟨rest, hcircuit⟩ := @marked_append_inj _ hversion 1 (by decide) _ _ _ hfits.version hafter
  apply four_ne_circuitBytes hflag _ _ _ hcircuit

/-- A circuit identifier that was written is read. -/
theorem circuitId_of_flaggedBytes {id : Option String} {x y : Bytes}
    (hflag : circuitFlag = 1 ↔ id.isSome)
    (heq : 1 :: x = flaggedBytes stringBytes circuitFlag id ++ y) :
  ∃ s, id = some s ∧ x = stringBytes s ++ y
  := by
  rw [flaggedBytes, List.cons_append] at heq
  obtain ⟨hone, hrest⟩ := List.cons.inj heq
  obtain ⟨s, rfl⟩ := Option.isSome_iff_exists.mp (hflag.mp hone.symm)
  exact ⟨s, rfl, hrest⟩

theorem circuitId_stops (hengine : ℓ .engine < 2 ^ 16) (hversion : ℓ .version < 2 ^ 16)
    (hcircuit : 2 ^ 16 ≤ ℓ .circuitId) (hfits : fingerprint.Fits)
    (hflag : circuitFlag = 1 ↔ fingerprint.version.circuitId.isSome) :
  (textFingerprint (stopTexts ℓ .circuitId)).toBytes
    ≠ fingerprint.bytesWith circuitFlag ++ unread
  := by
  intro heq
  have hafter := nul_append_inj hversion hfits.version
    (nul_append_inj hengine hfits.engine (texts_of_toBytes heq))
  obtain ⟨id, hid, hafter⟩ := circuitId_of_flaggedBytes hflag hafter
  obtain ⟨rest, hhardware⟩ :=
    @marked_append_inj _ hcircuit 0 (by decide) _ _ _ (hfits.circuitId id hid) hafter
  apply four_ne_hardwareBytes _ _ _ hhardware

theorem hardwareId_stops (hengine : ℓ .engine < 2 ^ 16) (hversion : ℓ .version < 2 ^ 16)
    (hcircuit : ℓ .circuitId < 2 ^ 16) (hhardware : 2 ^ 16 ≤ ℓ .hardwareId)
    (hcut : ℓ .hardwareId % 2 ^ 16 ≠ 0) (hfits : fingerprint.Fits)
    (hflag : circuitFlag = 1 ↔ fingerprint.version.circuitId.isSome) :
  (textFingerprint (stopTexts ℓ .hardwareId)).toBytes
    ≠ fingerprint.bytesWith circuitFlag ++ unread
  := by
  intro heq
  obtain ⟨rest, hrest⟩ := stringBytes_cut hhardware hcut
  have htext : stringBytes (stopTexts ℓ .hardwareId .hardwareId) = _ := hrest
  have hmod : (List.replicate (ℓ .hardwareId % 2 ^ 16 - 1) (0 : UInt8) ++ [0xC3]).length
      < 2 ^ 16 := by
    have hlt := Nat.mod_lt (ℓ .hardwareId) (show 0 < 2 ^ 16 by decide)
    rw [List.length_append, List.length_replicate, List.length_singleton]
    omega
  have hafter := nul_append_inj hversion hfits.version
    (nul_append_inj hengine hfits.engine (texts_of_toBytes heq))
  obtain ⟨id, hid, hafter⟩ := circuitId_of_flaggedBytes hflag hafter
  have hafter := nul_append_inj hcircuit (hfits.circuitId id hid) hafter
  rw [htext] at hafter
  rcases hclass : fingerprint.hardwareClass with _ | _ | _ | id'
  · simp [hclass, hardwareBytes] at hafter
  · simp [hclass, hardwareBytes] at hafter
  · simp [hclass, hardwareBytes] at hafter
  · rw [hclass, hardwareBytes, List.cons_append] at hafter
    obtain ⟨-, hafter⟩ := List.cons.inj hafter
    obtain ⟨hcutText, -⟩ :=
      stringBytes_append_inj hmod (hfits.hardwareClass id' hclass) hafter
    apply asBytes_ne_zeros_append _ _ hcutText.symm

end Stop

/-! ### The lengths of bundles that are decoded -/

/-- The lengths of which every bundle is decoded: all fit, but for that of the identifier of the
hardware, whose prefix may also count zero. -/
def Decodable (ℓ : PrefixedField → ℕ) : Prop :=
  (∀ f : PrefixedField, f ≠ .hardwareId → ℓ f < f.limit) ∧
    (ℓ .hardwareId < 2 ^ 16 ∨ ℓ .hardwareId % 2 ^ 16 = 0)

theorem length_stopTexts {ℓ : PrefixedField → ℕ} {f : PrefixedField} (hf : 2 ^ 16 ≤ ℓ f)
    (hcut : f = .hardwareId → ℓ f % 2 ^ 16 ≠ 0) (g : PrefixedField) :
  (asBytes (stopTexts ℓ f g)).length = ℓ g
  := by
  unfold stopTexts
  split
  · rename_i heq
    subst heq
    have hmod := le_sub_mod (by decide) hf
    have hfour : '\x04'.utf8Size = 1 := by decide
    have htwo : 'é'.utf8Size = 2 := by decide
    cases g with
    | engine => apply length_asBytes_marked (by omega)
    | version => apply length_asBytes_marked (by omega)
    | circuitId => apply length_asBytes_marked (by omega)
    | hardwareId =>
      have hne := hcut rfl
      apply length_asBytes_marked (by omega)
    | _ => apply length_asBytes_nul
  · apply length_asBytes_nul

/-- Of lengths that are not all decodable, though those of the sections of bytes fit, there are
texts of a fingerprint that is not read. -/
theorem exists_texts_stop {ℓ : PrefixedField → ℕ} (hlong : ¬ Decodable ℓ)
    (hbytes : ∀ f ∈ byteSections, ℓ f < f.limit) :
  ∃ text : PrefixedField → String, (∀ f, (asBytes (text f)).length = ℓ f) ∧
    ∀ (fingerprint : ComputationFingerprint) (circuitFlag : UInt8) (unread : Bytes),
      fingerprint.Fits → (circuitFlag = 1 ↔ fingerprint.version.circuitId.isSome) →
      (textFingerprint text).toBytes ≠ fingerprint.bytesWith circuitFlag ++ unread
  := by
  by_cases hengine : ℓ .engine < 2 ^ 16
  · by_cases hversion : ℓ .version < 2 ^ 16
    · by_cases hcircuit : ℓ .circuitId < 2 ^ 16
      · have hfits : ∀ f, f ≠ .hardwareId → ℓ f < f.limit := by
          intro f hf
          cases f with
          | engine => apply hengine
          | version => apply hversion
          | circuitId => apply hcircuit
          | hardwareId => exact absurd rfl hf
          | _ => apply hbytes _ (by decide)
        have hhardware : ¬ (ℓ .hardwareId < 2 ^ 16 ∨ ℓ .hardwareId % 2 ^ 16 = 0) :=
          fun h => hlong ⟨hfits, h⟩
        obtain ⟨hlong, hcut⟩ := not_or.mp hhardware
        exact ⟨stopTexts ℓ .hardwareId, length_stopTexts (not_lt.mp hlong) fun _ => hcut,
          fun _ _ _ => hardwareId_stops hengine hversion hcircuit (not_lt.mp hlong) hcut⟩
      · exact ⟨stopTexts ℓ .circuitId, length_stopTexts (not_lt.mp hcircuit) nofun,
          fun _ _ _ => circuitId_stops hengine hversion (not_lt.mp hcircuit)⟩
    · exact ⟨stopTexts ℓ .version, length_stopTexts (not_lt.mp hversion) nofun,
        fun _ _ _ => version_stops hengine (not_lt.mp hversion)⟩
  · exact ⟨stopTexts ℓ .engine, length_stopTexts (not_lt.mp hengine) nofun,
      fun _ _ _ => engine_stops (not_lt.mp hengine)⟩

/-- Behind the flag that there is no anchor, there is the section of the fingerprint. -/
theorem fingerprint_of_back {b' : CacheeArchiveBundle} {slack slack' : Slack} {x y : Bytes}
    (hanchor : b.onChainAnchor = none) (hflag : slack.anchorFlag = 0) (hslack : slack'.Allowed b')
    (hlen : (b.computationFingerprint.bytesWith slack.circuitFlag ++ slack.unread).length < 2 ^ 32)
    (heq : back slack b ++ x = back slack' b' ++ y) :
  b.computationFingerprint.bytesWith slack.circuitFlag ++ slack.unread
    = b'.computationFingerprint.bytesWith slack'.circuitFlag ++ slack'.unread
  := by
  have hanchor' : b'.onChainAnchor = none := by
    rw [back, back, flaggedBytes, flaggedBytes, hflag] at heq
    have hzero : 0 = slack'.anchorFlag := (List.cons.inj heq).1
    rw [← Option.not_isSome_iff_eq_none, ← hslack.anchor, ← hzero]
    decide
  rw [back, back, flaggedBytes, flaggedBytes, hanchor, hanchor'] at heq
  simp only [Option.elim_none, List.cons_append, List.nil_append, List.cons.injEq] at heq
  obtain ⟨-, -, heq⟩ := heq
  apply ((writeLengthPrefixed_append_inj hlen hslack.fits).mp heq).1

/-- A bundle whose fingerprint is not read is not decoded. -/
theorem deserialize_ne_ok_of_fingerprint {b' : CacheeArchiveBundle}
    (hbytes : ∀ f ∈ byteSections, f.lengthIn b < f.limit) (hanchor : b.onChainAnchor = none)
    (hlen : b.computationFingerprint.toBytes.length < 2 ^ 32)
    (hstop : ∀ (fingerprint : ComputationFingerprint) (circuitFlag : UInt8) (unread : Bytes),
      fingerprint.Fits → (circuitFlag = 1 ↔ fingerprint.version.circuitId.isSome) →
      b.computationFingerprint.toBytes ≠ fingerprint.bytesWith circuitFlag ++ unread) :
  deserialize json (b.serialize json) ≠ .ok b'
  := by
  intro hread
  obtain ⟨slack, tail, hlaid⟩ := laidOut_of_deserialize hread
  have hfits := sectionsFit_iff_lengthIn.mp hlaid.fits
  have hwritten := hlaid.bytes
  rw [serialize_eq, sections, sectionsWith_eq, sectionsWith_eq] at hwritten
  simp only [List.append_assoc] at hwritten
  obtain ⟨-, hwritten⟩ := List.append_inj hwritten (by rw [length_front, length_front])
  obtain ⟨-, hwritten⟩ := writeContents_append_inj hbytes (fun f _ => hfits f) hwritten
  have hstandard : b.computationFingerprint.bytesWith b.standardSlack.circuitFlag
      ++ b.standardSlack.unread = b.computationFingerprint.toBytes := by
    rw [standardSlack, List.append_nil, ← toBytes_eq]
  have hflag : b.standardSlack.anchorFlag = 0 := by
    rw [standardSlack, hanchor]
    rfl
  have hfingerprint := fingerprint_of_back hanchor hflag hlaid.allowed
    (by rw [hstandard]; exact hlen) hwritten
  rw [hstandard] at hfingerprint
  apply hstop _ _ _ hlaid.fits.fingerprint hlaid.allowed.circuit hfingerprint

/-- Of lengths that are not all decodable, with a fingerprint that fits its section, there is a
bundle with equal hashes and a timestamp that is not decoded. -/
theorem exists_not_deserialize (json : JsonCodec SignerIdentity) {ℓ : PrefixedField → ℕ}
    (htotal : fingerprintLength ℓ < 2 ^ 32) (hlong : ¬ Decodable ℓ) :
  ∃ b : CacheeArchiveBundle, b.magic = cabMagic ∧ b.primitive.valueHash = b.contentHash ∧
    b.timestampNs ≠ 0 ∧ (∀ f : PrefixedField, f.lengthIn b = ℓ f) ∧
    ∀ b', deserialize json (b.serialize json) ≠ .ok b'
  := by
  have hone : (1 : UInt64) ≠ 0 := by decide
  have hzeros (f : PrefixedField) : (List.replicate (ℓ f) (0 : UInt8)).length = ℓ f :=
    List.length_replicate
  by_cases hbytes : ∀ f ∈ byteSections, ℓ f < f.limit
  · obtain ⟨text, htext, hstop⟩ := exists_texts_stop hlong hbytes
    let base : CacheeArchiveBundle :=
      { blank with
        timestampNs := 1
        computationFingerprint := textFingerprint text }
    let b := base.withContents fun f => List.replicate (ℓ f) 0
    have hlengths : ∀ f : PrefixedField, f.lengthIn b = ℓ f :=
      lengthIn_textFingerprint text rfl (fun f _ => htext f) (fun f _ => hzeros f)
    refine ⟨b, rfl, rfl, hone, hlengths, ?_⟩
    intro b'
    apply deserialize_ne_ok_of_fingerprint _ rfl _ hstop
    · intro f hf
      rw [hlengths]
      apply hbytes f hf
    · apply Nat.lt_of_le_of_lt _ htotal
      apply (length_toBytes_textFingerprint fun f _ => htext f).le
  · simp only [not_forall, not_lt] at hbytes
    obtain ⟨f, hmem, hf⟩ := hbytes
    obtain ⟨pre, f, post, hsplit, hpre, hf⟩ := exists_first_overlong ⟨f, hmem, hf⟩
    let base : CacheeArchiveBundle :=
      { blank with
        timestampNs := 1
        computationFingerprint := nulFingerprint ℓ }
    let b := base.withContents fun f => List.replicate (ℓ f) 0
    have hlengths : ∀ f : PrefixedField, f.lengthIn b = ℓ f :=
      lengthIn_textFingerprint (fun f => nul (ℓ f)) rfl (fun f _ => length_asBytes_nul (ℓ f))
        (fun f _ => hzeros f)
    refine ⟨b, rfl, rfl, hone, hlengths, ?_⟩
    intro b'
    apply deserialize_ne_ok_of_zeros hsplit hpre hf

theorem length_circuitBytes_le (id : Option String) :
  (circuitBytes id).length ≤ 3 + (circuitDigestBytes id).length
  := by
  cases id with
  | none => decide
  | some id =>
    simp only [circuitBytes, circuitDigestBytes, stringBytes, List.length_cons, List.length_append,
      length_beBytes]
    omega

theorem length_hardwareBytes_le (c : Option HardwareClass) :
  (hardwareBytes c).length ≤ 3 + (hardwareIdBytes c).length
  := by
  rcases c with _ | _ | _ | id
  · decide
  · decide
  · decide
  · simp only [hardwareBytes, hardwareIdBytes, stringBytes, List.length_cons, List.length_append,
      length_beBytes]
    omega

/-- The length of what is written of a fingerprint is bounded by the lengths of its texts. -/
theorem length_toBytes_le (b : CacheeArchiveBundle) :
  b.computationFingerprint.toBytes.length ≤ fingerprintLength fun f => f.lengthIn b
  := by
  have hcircuit := length_circuitBytes_le b.computationFingerprint.version.circuitId
  have hhardware := length_hardwareBytes_le b.computationFingerprint.hardwareClass
  simp only [toBytes, stringBytes, List.length_append, length_beBytes,
    b.computationFingerprint.inputHash.2, b.computationFingerprint.computationHash.2,
    b.computationFingerprint.parameterHash.2, fingerprintLength, lengthIn, contentIn]
  omega

/-- An identifier of the hardware that its prefix counts as zero bytes is not read. -/
theorem exists_deserialize_of_hardwareId (json : JsonCodec SignerIdentity) {id : String}
    (hclass : b.computationFingerprint.hardwareClass = some (.nonDeterministic id))
    (hzero : (asBytes id).length % 2 ^ 16 = 0) (hmagic : b.magic = cabMagic)
    (hfits : ∀ f : PrefixedField, f ≠ .hardwareId → f.lengthIn b < f.limit)
    (hlen : b.computationFingerprint.toBytes.length < 2 ^ 32) :
  ∃ b', deserialize json (b.serialize json) = .ok b'
  := by
  let b' : CacheeArchiveBundle :=
    { b with
      computationFingerprint := { b.computationFingerprint with
        hardwareClass := some (.nonDeterministic "") } }
  let slack : Slack :=
    ⟨flagOf b.onChainAnchor, flagOf b.computationFingerprint.version.circuitId, asBytes id⟩
  have hid : stringBytes id = stringBytes "" ++ asBytes id :=
    @stringBytes_of_mod id [] (asBytes id) rfl hzero
  have hfingerprint : b.computationFingerprint.toBytes
      = b'.computationFingerprint.bytesWith slack.circuitFlag ++ slack.unread := by
    rw [toBytes_eq, bytesWith, bytesWith, hclass, hardwareBytes, hid]
    simp only [b', hardwareBytes, List.append_assoc, List.cons_append]
    rfl
  have hb' : b'.SectionsFit := by
    apply sectionsFit_iff_lengthIn.mpr
    intro f
    by_cases hf : f = .hardwareId
    · subst hf
      have hempty : PrefixedField.hardwareId.lengthIn b' = 0 := rfl
      rw [hempty]
      decide
    · have hsame : f.lengthIn b' = f.lengthIn b := by
        cases f with
        | hardwareId => exact absurd rfl hf
        | _ => rfl
      rw [hsame]
      apply hfits f hf
  have hslack : slack.Allowed b' := by
    refine ⟨flagOf_eq_one_iff, flagOf_eq_one_iff, ?_⟩
    rw [← hfingerprint]
    apply hlen
  have hwritten : b.serialize json
      = b'.sectionsWith slack ++ writeLengthPrefixedU32 (json.toVecOrDefault b.signerIdentity) := by
    rw [serialize, hfingerprint, anchorBytes_eq]
    simp only [sectionsWith, List.append_assoc]
    rfl
  have hmagic' : b'.magic = cabMagic := hmagic
  have hread := deserialize_sectionsWith json hmagic' hb' hslack
    (writeLengthPrefixedU32 (json.toVecOrDefault b.signerIdentity))
  rw [hwritten]
  exact ⟨_, hread⟩

/-- A bundle of decodable lengths is decoded, if its fingerprint fits its section. -/
theorem exists_deserialize_of_decodable (json : JsonCodec SignerIdentity)
    (hmagic : b.magic = cabMagic) (h : Decodable fun f => f.lengthIn b)
    (hlen : b.computationFingerprint.toBytes.length < 2 ^ 32) :
  ∃ b', deserialize json (b.serialize json) = .ok b'
  := by
  obtain ⟨hfits, hhardware⟩ := h
  by_cases hshort : PrefixedField.hardwareId.lengthIn b < 2 ^ 16
  · have hall : b.SectionsFit := by
      apply sectionsFit_iff_lengthIn.mpr
      intro f
      by_cases hf : f = .hardwareId
      · rw [hf]
        apply hshort
      · apply hfits f hf
    obtain ⟨identity, hread⟩ := exists_deserialize_serialize_eq json hmagic hall
    exact ⟨_, hread⟩
  · have hlong : ¬ (hardwareIdBytes b.computationFingerprint.hardwareClass).length < 2 ^ 16 :=
      hshort
    have hzero : (hardwareIdBytes b.computationFingerprint.hardwareClass).length % 2 ^ 16 = 0 :=
      hhardware.resolve_left hshort
    rcases hclass : b.computationFingerprint.hardwareClass with _ | _ | _ | id
    · rw [hclass] at hlong
      exact absurd (by decide) hlong
    · rw [hclass] at hlong
      exact absurd (by decide) hlong
    · rw [hclass] at hlong
      exact absurd (by decide) hlong
    · rw [hclass] at hzero
      apply exists_deserialize_of_hardwareId json hclass hzero hmagic hfits hlen

end CacheeArchiveBundle

end Cachee
