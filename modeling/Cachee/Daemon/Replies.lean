import Cachee.Daemon.Handler

/-!
# When the handler replies

Every command but `SET` is replied to in every state, as each index and slice that it takes is
within the bounds that its dispatch has checked, and reading a stored bundle does not panic.  A
`SET` is replied to unless its key is its first word `FP`, or it is signed with keys that are
not accepted.
-/

open Text

namespace Cachee

variable {ext : Externals} {cfg : DaemonConfig} {amb : Ambient} {s : DaemonState}
  {parts : List String}

/-! ### Bundles -/

/-- A store is read without a panic. -/
theorem ContentStore.safe_get (json : JsonCodec SignerIdentity) (store : ContentStore)
    (fault : Option String) (address : Block 32) :
  Safe (store.get json fault address) fun _ => True
  := by
  unfold get
  split
  · apply safe_bail
  · split
    · rename_i bytes _
      rcases (CacheeArchiveBundle.safe_deserialize json bytes).cases with
        ⟨bundle, hread, -⟩ | ⟨msg, hread⟩
      · rw [hread, mapErr_ok, ok_bind]
        apply safe_pure trivial
      · rw [hread]
        trivial
    · apply safe_pure trivial

theorem returns_verifySlot (store : ContentStore) (slot : CacheSlot) :
  Returns (verifySlot ext amb store slot)
  := by
  unfold verifySlot
  apply returns_ite
  · intro _
    apply Returns.bind
    · apply (store.safe_get ext.identityJson amb.getFault slot.contentAddress).unwrapOr_eq_ok
    rintro (_ | bundle) _
    · apply returns_pure
    · apply returns_ite
      · intro _
        apply returns_pure
      · intro _
        apply returns_pure
  · intro _
    apply returns_pure

theorem DaemonState.returns_respond (key : String) (value : Bytes) :
  Returns (s.respond ext amb key value)
  := by
  unfold respond
  split
  · apply (returns_verifySlot s.contentStore _).bind
    intro _ _
    apply returns_pure
  · apply returns_pure

theorem DaemonState.returns_getVerified (key : String) :
  Returns (s.getVerified ext amb key)
  := by
  unfold getVerified
  split
  · apply (returns_respond key _).bind
    intro _ _
    apply returns_pure
  · apply returns_pure

/-! ### Commands other than `SET` -/

theorem returns_handleGet (h : 2 ≤ parts.length) :
  Returns (handleGet cfg s parts)
  := by
  unfold handleGet
  apply returns_ite
  · intro _
    apply returns_pure
  · intro _
    apply (returns_index (by omega)).bind
    intro key _
    split
    · apply returns_pure
    · apply returns_pure

theorem returns_handleGetVerified (h : 2 ≤ parts.length) :
  Returns (handleGetVerified ext amb s parts)
  := by
  apply (returns_index (by omega)).bind
  intro key _
  apply (DaemonState.returns_getVerified key).bind
  rintro (_ | response) _
  · apply returns_pure
  · apply returns_pure

theorem returns_handleDel (h : 2 ≤ parts.length) :
  Returns (handleDel ext amb s parts)
  := by
  apply (returns_index (by omega)).bind
  intro key _
  apply returns_pure

theorem returns_handleInvalidate (h : 4 ≤ parts.length) :
  Returns (handleInvalidate ext amb s parts)
  := by
  apply (returns_index (by omega)).bind
  intro key _
  apply (returns_slice (by omega) le_rfl).bind
  intro reason _
  apply returns_pure

theorem returns_handleSupersede (h : 3 ≤ parts.length) :
  Returns (handleSupersede ext amb s parts)
  := by
  apply (returns_index (by omega)).bind
  intro oldKey _
  apply (returns_index (by omega)).bind
  intro newKey _
  split
  · apply returns_pure
  · apply returns_pure

theorem returns_handleState (h : 2 ≤ parts.length) :
  Returns (handleState ext s parts)
  := by
  apply (returns_index (by omega)).bind
  intro key _
  split
  · apply returns_pure
  · apply returns_pure

theorem returns_handleAuditLog (h : 2 ≤ parts.length) :
  Returns (handleAuditLog ext s parts)
  := by
  apply (returns_index (by omega)).bind
  intro key _
  apply returns_pure

/-! ### `SET` -/

/-- The libraries accept the secret keys that are configured, if there are any. -/
def DaemonConfig.KeysAccepted (cfg : DaemonConfig) (lib : PqLibrary) : Prop :=
  ∀ keys, cfg.pqKeys = some keys → keys.Accepted lib

theorem returns_slotToBundle_iff (seeds : SignSeeds) (slot : CacheSlot) (issuerId : String) :
  Returns (slotToBundle ext seeds slot cfg.pqKeys issuerId) ↔ cfg.KeysAccepted ext.library
  := by
  unfold DaemonConfig.KeysAccepted slotToBundle
  cases hkeys : cfg.pqKeys with
  | none =>
    constructor
    · rintro _ keys ⟨⟩
    · intro _
      apply returns_pure
  | some keys =>
    by_cases haccepted : keys.Accepted ext.library
    · constructor
      · rintro _ _ ⟨⟩
        apply haccepted
      · intro _
        obtain ⟨sigs, hsigs⟩ := PqKeySet.sign_of_accepted seeds (ext.sha3 slot.value).1 haccepted
        dsimp only
        rw [hsigs]
        apply returns_pure
    · dsimp only
      rw [PqKeySet.sign_of_not_accepted haccepted]
      constructor
      · intro h
        exact absurd h not_returns_panic
      · intro h
        exact absurd (h keys rfl) haccepted

theorem hasValidFingerprint_newSlot (value : Bytes) (fingerprint : ComputationFingerprint) :
  (newSlot ext cfg amb value fingerprint).hasValidFingerprint = fingerprint.isValid
  := rfl

/-- The slot of a key is stored unless it is to be signed with keys that are not accepted. -/
theorem returns_persistSlot_iff {key : String} :
  Returns (s.persistSlot ext cfg amb key) ↔
    ∀ slot, s.slots.lookup key = some slot → slot.hasValidFingerprint = true →
      cfg.KeysAccepted ext.library
  := by
  unfold DaemonState.persistSlot
  cases s.slots.lookup key with
  | none =>
    apply iff_of_true returns_pure
    rintro slot ⟨⟩
  | some slot =>
    dsimp only
    by_cases hvalid : slot.hasValidFingerprint = true
    · rw [if_pos hvalid, returns_bind_iff (fun _ => returns_pure), returns_slotToBundle_iff]
      constructor
      · rintro h slot' ⟨⟩ -
        apply h
      · intro h
        apply h slot rfl hvalid
    · rw [if_neg hvalid]
      apply iff_of_true returns_pure
      rintro slot' ⟨⟩ h
      exact absurd h hvalid

/-- A slot that was just inserted is stored unless it is to be signed with keys that are not
accepted. -/
theorem returns_persistSlot_insertSlot_iff {key : String} {slot : CacheSlot} :
  Returns ((s.insertSlot key slot).persistSlot ext cfg amb key) ↔
    (slot.hasValidFingerprint = true → cfg.KeysAccepted ext.library)
  := by
  have hlookup : (s.insertSlot key slot).slots.lookup key = some slot := AList.lookup_insert _
  rw [returns_persistSlot_iff, hlookup]
  simp

/-- The line is a `SET` with a key and a value. -/
def IsSet (parts : List String) : Prop :=
  3 ≤ parts.length ∧ parts.head?.map toUppercase = some "SET"

/-- The key of a `SET` is its first word `FP`. -/
def KeyIsFp (parts : List String) : Prop :=
  IsSet parts ∧ fpIndex parts = some 1

/-- A `SET` with a valid fingerprint is to be signed with keys that are not accepted. -/
def SignsWithRejectedKeys (lib : PqLibrary) (cfg : DaemonConfig) (parts : List String) : Prop :=
  IsSet parts ∧ (∃ idx, fpIndex parts = some idx ∧ (fpArgument parts idx).isValid = true) ∧
    ¬ cfg.KeysAccepted lib

/-- The handler does not panic on the words. -/
def Replied (lib : PqLibrary) (cfg : DaemonConfig) (parts : List String) : Prop :=
  ¬ KeyIsFp parts ∧ ¬ SignsWithRejectedKeys lib cfg parts

theorem replied_of_not_isSet {lib : PqLibrary} (h : ¬ IsSet parts) :
  Replied lib cfg parts
  := by
  constructor
  · rintro ⟨hset, -⟩
    exact h hset
  · rintro ⟨hset, -⟩
    exact h hset

/-- The first word of a `SET` is not a word with another upper case. -/
theorem eqIgnoreAsciiCase_of_isSet {command : String} {args : List String}
    (h : IsSet (command :: args)) {word : String} (hword : toUppercase word ≠ "SET") :
  eqIgnoreAsciiCase command word = false
  := by
  by_contra heq
  apply hword
  rw [← toUppercase_congr (Bool.eq_true_of_not_eq_false heq)]
  exact Option.some.inj h.2

/-- The first word of a `SET` is not `FP`. -/
theorem fpIndex_ne_zero (h : IsSet parts) :
  fpIndex parts ≠ some 0
  := by
  intro hidx
  cases parts with
  | nil => cases hidx
  | cons command args =>
    have hne : eqIgnoreAsciiCase command "FP" = false :=
      eqIgnoreAsciiCase_of_isSet h (by decide)
    simp [fpIndex, List.findIdx?_cons, hne] at hidx

/-- The arguments of a `SET` whose first word `FP` comes after the key are read. -/
theorem setArguments_of_fp (cfg : DaemonConfig) {idx : ℕ} (hidx : fpIndex parts = some idx)
    (h : 2 ≤ idx) :
  ∃ value, setArguments cfg parts = .ok (some (value, fpArgument parts idx))
  := by
  have hlt : idx < parts.length := by
    obtain ⟨hlt, -⟩ := List.findIdx?_eq_some_iff_getElem.mp hidx
    apply hlt
  rw [setArguments, hidx]
  dsimp only
  rw [slice_eq h hlt.le, ok_bind]
  exact ⟨_, rfl⟩

/-- A `SET` is replied to unless its key is its first word `FP` or it is signed with keys that
are not accepted. -/
theorem returns_handleSet_iff (amb : Ambient) (s : DaemonState) (h : IsSet parts) :
  Returns (handleSet ext cfg amb s parts) ↔ Replied ext.library cfg parts
  := by
  obtain ⟨key, hkey⟩ := returns_index (i := 1) (Nat.lt_of_lt_of_le (by decide) h.1)
  rw [handleSet, hkey, ok_bind]
  cases hidx : fpIndex parts with
  | none =>
    have hright : Replied ext.library cfg parts := by
      simp [Replied, KeyIsFp, SignsWithRejectedKeys, hidx]
    apply iff_of_true _ hright
    rw [setArguments, hidx]
    dsimp only
    by_cases hstrict : cfg.strictMode = true
    · rw [if_pos hstrict]
      apply returns_pure
    · rw [if_neg hstrict, slice_eq (Nat.le_of_succ_le h.1) le_rfl, ok_bind]
      apply (returns_persistSlot_insertSlot_iff.mpr _).bind
      · intro s' _
        apply returns_pure
      · rw [hasValidFingerprint_newSlot]
        intro hvalid
        exact absurd hvalid (by decide)
  | some idx =>
    rcases Nat.lt_trichotomy idx 1 with hlt | rfl | hgt
    · obtain rfl : idx = 0 := by omega
      exact absurd hidx (fpIndex_ne_zero h)
    · apply iff_of_false
      · rw [setArguments, hidx]
        dsimp only
        rw [slice_panics_iff.mpr (Or.inl (by decide))]
        apply not_returns_panic
      · rintro ⟨hkeyFp, -⟩
        exact hkeyFp ⟨h, hidx⟩
    · obtain ⟨value, hargs⟩ := setArguments_of_fp cfg hidx hgt
      rw [hargs, ok_bind]
      dsimp only
      rw [returns_bind_iff (fun _ => returns_pure), returns_persistSlot_insertSlot_iff,
        hasValidFingerprint_newSlot]
      have hkeyFp : ¬ KeyIsFp parts := by
        rintro ⟨-, hone⟩
        rw [hidx] at hone
        obtain rfl := Option.some.inj hone
        omega
      have hsigns : SignsWithRejectedKeys ext.library cfg parts ↔
          (fpArgument parts idx).isValid = true ∧ ¬ cfg.KeysAccepted ext.library := by
        simp [SignsWithRejectedKeys, h, hidx]
      rw [Replied, hsigns]
      tauto

/-! ### All commands -/

/-- Every command but a `SET` is replied to. -/
theorem returns_dispatch {command : String} (h : ¬ (command = "SET" ∧ 3 ≤ parts.length)) :
  Returns (dispatch ext cfg amb s parts command)
  := by
  unfold dispatch
  apply returns_ite (fun _ => returns_pure)
  intro _
  rw [if_neg h]
  apply returns_ite (fun hget => returns_handleGet hget.2)
  intro _
  apply returns_ite (fun hget => returns_handleGetVerified hget.2)
  intro _
  apply returns_ite (fun hdel => returns_handleDel hdel.2)
  intro _
  apply returns_ite (fun hinvalidate => returns_handleInvalidate hinvalidate.2)
  intro _
  apply returns_ite (fun hsupersede => returns_handleSupersede hsupersede.2)
  intro _
  apply returns_ite (fun hstate => returns_handleState hstate.2)
  intro _
  apply returns_ite (fun _ => returns_pure)
  intro _
  apply returns_ite (fun haudit => returns_handleAuditLog haudit.2)
  intro _
  apply returns_ite (fun _ => returns_pure)
  intro _
  apply returns_ite (fun _ => returns_pure)
  intro _
  apply returns_pure

/-- A `SET` is dispatched to its handler. -/
theorem dispatch_set (h : 3 ≤ parts.length) :
  dispatch ext cfg amb s parts "SET" = handleSet ext cfg amb s parts
  := by
  rw [dispatch, if_neg (by decide), if_pos ⟨rfl, h⟩]

/-- A verified read is dispatched to its handler. -/
theorem dispatch_getVerified (h : 2 ≤ parts.length) :
  dispatch ext cfg amb s parts "GETVERIFIED" = handleGetVerified ext amb s parts
  := by
  rw [dispatch, if_neg (by decide), if_neg (fun hset => absurd hset.1 (by decide)),
    if_neg (fun hget => absurd hget.1 (by decide)), if_pos ⟨rfl, h⟩]

/-- What the handler does with the words of a line. -/
def handleWords (ext : Externals) (cfg : DaemonConfig) (amb : Ambient) (s : DaemonState) :
    List String → Outcome (DaemonState × String)
  | [] => return (s, "-ERR empty command\r\n")
  | command :: args => dispatch ext cfg amb s (command :: args) (toUppercase command)

theorem handleResp_eq (ext : Externals) (cfg : DaemonConfig) (amb : Ambient) (s : DaemonState)
    (data : Bytes) :
  handleResp ext cfg amb s data = handleWords ext cfg amb s (words data)
  := rfl

/-- The words of a line are replied to in every state, exactly when they are not those of a `SET`
whose key is its first word `FP`, nor of one that is signed with keys that are not accepted. -/
theorem returns_handleWords_iff (ext : Externals) (cfg : DaemonConfig) (amb : Ambient)
    (s : DaemonState) (parts : List String) :
  Returns (handleWords ext cfg amb s parts) ↔ Replied ext.library cfg parts
  := by
  by_cases hset : IsSet parts
  · rw [← returns_handleSet_iff amb s hset]
    obtain ⟨hlen, hhead⟩ := hset
    cases parts with
    | nil => cases hhead
    | cons command args =>
      have hcommand : toUppercase command = "SET" := Option.some.inj hhead
      rw [handleWords, hcommand, dispatch_set hlen]
  · apply iff_of_true _ (replied_of_not_isSet hset)
    cases parts with
    | nil => apply returns_pure
    | cons command args =>
      apply returns_dispatch
      rintro ⟨hcommand, hlen⟩
      apply hset
      exact ⟨hlen, congrArg some hcommand⟩

/-- The handler replies to a line in every state, exactly when the line is not a `SET` whose
key is its first word `FP`, nor one that is signed with keys that are not accepted. -/
theorem handleResp_returns_iff (ext : Externals) (cfg : DaemonConfig) (amb : Ambient)
    (s : DaemonState) (data : Bytes) :
  (∃ s' reply, handleResp ext cfg amb s data = .ok (s', reply)) ↔
    ¬ KeyIsFp (words data) ∧ ¬ SignsWithRejectedKeys ext.library cfg (words data)
  := by
  rw [← Replied, ← returns_handleWords_iff ext cfg amb s, ← handleResp_eq, Returns, Prod.exists]

/-- The handler panics on a `SET` of the key `FP`. -/
theorem handleResp_setFp :
  handleResp plainExternals plainConfig plainAmbient (.empty "node") (asBytes "SET FP v")
    = .error .panic
  := by
  have hwords : words (asBytes "SET FP v") = ["SET", "FP", "v"] := by
    decide +kernel
  have hupper : toUppercase "SET" = "SET" := by decide
  have hidx : fpIndex ["SET", "FP", "v"] = some 1 := by decide
  rw [handleResp, hwords]
  dsimp only
  rw [hupper, dispatch_set (by decide), handleSet, setArguments, hidx]
  rfl

end Cachee
