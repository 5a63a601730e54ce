import Cachee.Daemon.Attestation
import Cachee.Home.Settings

/-!
# What becomes of the key files

Each command writes or removes only certain files of the directory of keys.  No command but an
`init` touches a file of the key set, so the daemon finds the keys of the last `init` there.  An
`init` that is killed leaves some files of its key set and some of the one before.
-/

namespace Cachee

open Script

/-! ### What commands touch -/

variable {ext : CliExternals} {name : String} {home : Home} {line : CommandLine}

/-- A key file is as before after a change by a command that does not touch it. -/
theorem Home.Change.lookup_keys {home' : Home} (h : Home.Change ext line home home')
    (hname : ¬ line.Touches name) :
  home'.keys.lookup name = home.keys.lookup name
  := by
  have hne : ∀ {file}, line.Touches file → name ≠ file := by
    rintro file hfile rfl
    apply hname hfile
  cases h with
  | writeKey bytes hfile => apply AList.lookup_insert_ne (hne hfile)
  | removeKey hfile => apply AList.lookup_erase_ne (hne hfile)
  | _ => rfl

/-- A key file is as before after a command that does not touch it. -/
theorem Home.lookup_after (ext : CliExternals) (home : Home) (h : ¬ line.Touches name) :
  (home.after ext line).keys.lookup name = home.keys.lookup name
  := by
  apply Home.after_of_change (P := fun home' => home'.keys.lookup name = home.keys.lookup name) _ rfl
  intro home₁ home₂ hchange hsame
  apply (hchange.lookup_keys h).trans hsame

variable {sha3 : Bytes → Block 32} {json : TextCodec StoredMetadata} {keys : StoredKeySet}
  {text configText : String} {files : AList fun _ : String => Bytes}

namespace StoredKeySet

/-- The key files are those of a key set. -/
def KeysIn (keys : StoredKeySet) (files : AList fun _ : String => Bytes) : Prop :=
  ∀ file ∈ keys.keyFiles, files.lookup file.1 = some file.2

/-- The files are those of a key set with the text of its metadata. -/
def KeptIn (keys : StoredKeySet) (text : String) (files : AList fun _ : String => Bytes) : Prop :=
  ∀ file ∈ keys.files text, files.lookup file.1 = some file.2

theorem KeptIn.keysIn (h : keys.KeptIn text files) :
  keys.KeysIn files
  := fun file hfile => h file (List.mem_append_left _ hfile)

/-- The keys are loaded from their files, with the metadata if they can be read. -/
theorem KeysIn.load (sha3 : Bytes → Block 32) (json : TextCodec StoredMetadata)
    (h : keys.KeysIn files) :
  load sha3 json files = .ok { keys with
    metadata := ((readToString files "metadata.json").bind fun jsonStr =>
      (json.fromStr jsonStr).toOption).getD
        (fallbackMetadata sha3 keys.mldsaPk keys.falconPk keys.slhdsaPk) }
  := by
  simp only [KeysIn, keyFiles, List.forall_mem_cons] at h
  obtain ⟨hmldsaPk, hfalconPk, hslhdsaPk, hmldsaSk, hfalconSk, hslhdsaSk, -⟩ := h
  simp only [StoredKeySet.load, read, hmldsaPk, hfalconPk, hslhdsaPk, hmldsaSk, hfalconSk,
    hslhdsaSk, ok_bind]
  rfl

/-- There is a file for each key. -/
theorem KeysIn.existsIn (h : keys.KeysIn files) :
  StoredKeySet.existsIn files = true
  := by
  have hmem : ∀ name ∈ keys.keyFiles.map Prod.fst, name ∈ files := by
    intro name hname
    obtain ⟨file, hfile, rfl⟩ := List.mem_map.mp hname
    rw [← AList.lookup_isSome, h file hfile]
    rfl
  rw [StoredKeySet.existsIn, List.all_eq_true]
  intro name hname
  rw [decide_eq_true_eq]
  apply hmem
  have hnames : keys.keyFiles.map Prod.fst = keySetNames.take 6 := rfl
  rw [hnames]
  revert name
  decide

/-- A key set is loaded from its files. -/
theorem KeptIn.load (sha3 : Bytes → Block 32) (hread : json.ReadsBack)
    (hmetadata : json.toStringPretty keys.metadata = .ok text) (h : keys.KeptIn text files) :
  StoredKeySet.load sha3 json files = .ok keys
  := by
  have hjson : readToString files "metadata.json" = some text := by
    rw [readToString, h ("metadata.json", Text.asBytes text) List.mem_concat_self, Option.bind_some,
      Text.fromUtf8_asBytes]
    rfl
  rw [h.keysIn.load sha3 json, hjson, Option.bind_some, hread _ _ hmetadata]
  rfl

end StoredKeySet

/-! ### What an `init` leaves -/

/-- The key files that an `init` writes after the configuration. -/
def Cli.initFiles (now : UInt64) (idBytes : Block 16) (keys : StoredKeySet) (text : String) :
    List (String × Bytes) :=
  ("identity.toml", Text.asBytes (identityText (toString now) (Text.hexEncode idBytes.1)))
    :: keys.files text

theorem Cli.nodup_initFiles (now : UInt64) (idBytes : Block 16) (keys : StoredKeySet) (text : String) :
  ((initFiles now idBytes keys text).map Prod.fst).Nodup
  := by
  have hnames : ("identity.toml" :: keySetNames).Nodup := by decide
  exact hnames

/-- What is left by an `init` that is killed after it has written the configuration and the first
`n` of its key files. -/
def Home.afterKilledInit (home : Home) (configText : String) (n : ℕ)
    (files : List (String × Bytes)) : Home :=
  (home.writeRoot "config.toml" (Text.asBytes configText)).writeKeys (files.take n)

/-- The files of the key set that a killed `init` has written are found, and the others are as
before. -/
theorem Home.lookup_afterKilledInit (home : Home) (configText : String) (n : ℕ) (now : UInt64)
    (idBytes : Block 16) {i : ℕ} {file : String × Bytes} (hi : (keys.files text)[i]? = some file) :
  (home.afterKilledInit configText n (Cli.initFiles now idBytes keys text)).keys.lookup file.1
    = if i + 1 < n then some file.2 else home.keys.lookup file.1
  := by
  apply lookup_insertAll_take (Cli.nodup_initFiles now idBytes keys text)
  rw [Cli.initFiles, List.getElem?_cons_succ, hi]

theorem readsBack_twoKeysJson :
  twoKeysJson.ReadsBack
  := by
  apply TextCodec.readsBack_table
  decide +kernel

theorem toStringPretty_twoKeysJson :
  twoKeysJson.toStringPretty (generatedKeys 1).metadata = .ok (generatedText 1) ∧
    twoKeysJson.toStringPretty (generatedKeys 2).metadata = .ok (generatedText 2)
  := by
  decide +kernel

namespace StoredKeySet

/-- An `init` that is killed in a directory without keys leaves the daemon without keys, or with the
keys that were generated: the metadata are written last, and without them the identity of the keys
is computed. -/
theorem loadPqKeys_of_killedInit (hread : json.ReadsBack) {nowNs : UInt64} {pairs : KeyPairs}
    (hmetadata : json.toStringPretty (generate sha3 nowNs .production pairs).metadata = .ok text)
    {home : Home} (hfresh : ∀ name ∈ keySetNames, home.keys.lookup name = none)
    (configText : String) (n : ℕ) (now : UInt64) (idBytes : Block 16) :
  loadPqKeys sha3 json true (home.afterKilledInit configText n
      (Cli.initFiles now idBytes (generate sha3 nowNs .production pairs) text)).keys
    = if 7 ≤ n then some (generate sha3 nowNs .production pairs).keySet else none
  := by
  have hlookup : ∀ (i : ℕ) (file : String × Bytes),
      ((generate sha3 nowNs .production pairs).files text)[i]? = some file →
      (home.afterKilledInit configText n (Cli.initFiles now idBytes
          (generate sha3 nowNs .production pairs) text)).keys.lookup file.1
        = if i + 1 < n then some file.2 else home.keys.lookup file.1 := by
    intro i file hi
    apply Home.lookup_afterKilledInit home configText n now idBytes hi
  generalize (home.afterKilledInit configText n _).keys = files at hlookup ⊢
  split
  · rename_i hn
    have hkeys : (generate sha3 nowNs .production pairs).KeysIn files := by
      intro file hfile
      obtain ⟨i, hi⟩ := List.mem_iff_getElem?.mp hfile
      have hlt : i < 6 := (List.getElem?_eq_some_iff.mp hi).1
      rw [hlookup i file, if_pos (by omega)]
      rw [StoredKeySet.files, List.getElem?_append_left hlt, hi]
    have hjson : files.lookup "metadata.json" = if 7 < n then some (Text.asBytes text)
        else home.keys.lookup "metadata.json" := hlookup 6 ("metadata.json", Text.asBytes text) rfl
    rw [loadPqKeys, hkeys.existsIn, Bool.and_true, if_pos rfl, hkeys.load, readToString, hjson]
    by_cases hlast : 7 < n
    · rw [if_pos hlast, Option.bind_some, Text.fromUtf8_asBytes]
      simp only [Except.toOption, Option.bind_some, hread _ _ hmetadata]
      rfl
    · rw [if_neg hlast, hfresh "metadata.json" (by decide)]
      rfl
  · rename_i hn
    have hmissing : files.lookup "slhdsa128f.key" = none := by
      have hkey := hlookup 5 ("slhdsa128f.key", _) rfl
      rw [if_neg (by omega)] at hkey
      apply hkey.trans (hfresh "slhdsa128f.key" (by decide))
    have hexists : ¬ StoredKeySet.existsIn files = true := by
      rw [StoredKeySet.existsIn, List.all_eq_true]
      intro hall
      have hmem := hall "slhdsa128f.key" (by decide)
      rw [decide_eq_true_eq] at hmem
      apply AList.lookup_eq_none.mp hmissing hmem
    rw [loadPqKeys, Bool.not_eq_true _ |>.mp hexists]
    rfl

/-- An `init` that is killed before it writes the metadata. -/
theorem loadPqKeys_of_killedInit_seven :
  loadPqKeys primeHash twoKeysJson true (Home.empty.afterKilledInit
      (configWithText "free" 10000000 false) 7
      (Cli.initFiles 1 (.zero 16) (generatedKeys 1) (generatedText 1))).keys
    = some (generatedKeys 1).keySet
  := loadPqKeys_of_killedInit readsBack_twoKeysJson toStringPretty_twoKeysJson.1
    (fun _ _ => rfl) _ 7 1 (.zero 16)

/-- The key set whose first `n` files are those of a new one, and the others those of an old one. -/
def torn (n : ℕ) (new old : StoredKeySet) : StoredKeySet where
  mldsaPk := if 0 < n then new.mldsaPk else old.mldsaPk
  falconPk := if 1 < n then new.falconPk else old.falconPk
  slhdsaPk := if 2 < n then new.slhdsaPk else old.slhdsaPk
  mldsaSk := if 3 < n then new.mldsaSk else old.mldsaSk
  falconSk := if 4 < n then new.falconSk else old.falconSk
  slhdsaSk := if 5 < n then new.slhdsaSk else old.slhdsaSk
  metadata := if 6 < n then new.metadata else old.metadata

/-- An `init` that is killed over an old key set leaves a torn one. -/
theorem keptIn_of_killedInit (new : StoredKeySet) {old : StoredKeySet} (newText : String)
    {oldText : String} {home : Home} (h : old.KeptIn oldText home.keys) (configText : String)
    (n : ℕ) (now : UInt64) (idBytes : Block 16) :
  (torn (n - 1) new old).KeptIn (if 6 < n - 1 then newText else oldText)
    (home.afterKilledInit configText n (Cli.initFiles now idBytes new newText)).keys
  := by
  have hlookup : ∀ i fileNew fileOld, (new.files newText)[i]? = some fileNew →
      (old.files oldText)[i]? = some fileOld → fileNew.1 = fileOld.1 →
      (home.afterKilledInit configText n
          (Cli.initFiles now idBytes new newText)).keys.lookup fileNew.1
        = some (if i < n - 1 then fileNew.2 else fileOld.2) := by
    intro i fileNew fileOld hnew hold hname
    rw [Home.lookup_afterKilledInit home configText n now idBytes hnew]
    simp only [Nat.lt_sub_iff_add_lt]
    split
    · rfl
    · rw [hname]
      apply h fileOld (List.mem_of_getElem? hold)
  intro file hfile
  simp only [files, keyFiles, List.cons_append, List.nil_append, List.mem_cons,
    List.not_mem_nil, or_false] at hfile
  rcases hfile with rfl | rfl | rfl | rfl | rfl | rfl | rfl
  · apply hlookup 0 _ _ rfl rfl rfl
  · apply hlookup 1 _ _ rfl rfl rfl
  · apply hlookup 2 _ _ rfl rfl rfl
  · apply hlookup 3 _ _ rfl rfl rfl
  · apply hlookup 4 _ _ rfl rfl rfl
  · apply hlookup 5 _ _ rfl rfl rfl
  · rw [hlookup 6 _ _ rfl rfl rfl]
    split
    · rfl
    · rfl

/-- The pairs of a torn key set belong together exactly if none or all of its keys are new. -/
theorem correct_torn_iff {lib : PqLibrary} {new old : StoredKeySet} (hnew : new.keySet.Correct lib)
    (hold : old.keySet.Correct lib) (hmldsa : ¬ lib.dilithium3.Correct new.mldsaPk old.mldsaSk)
    (hfalcon : ¬ lib.falcon512.Correct new.falconPk old.falconSk)
    (hslhdsa : ¬ lib.sphincssha2128fsimple.Correct new.slhdsaPk old.slhdsaSk) (n : ℕ) :
  (torn n new old).keySet.Correct lib ↔ n = 0 ∨ 6 ≤ n
  := by
  constructor
  · intro h
    by_contra hn
    obtain ⟨hpos, hlt⟩ := not_or.mp hn
    have hm := h.mldsa
    have hf := h.falcon
    have hs := h.slhdsa
    simp only [keySet, torn] at hm hf hs
    rcases Nat.lt_or_ge 3 n with h3 | h3
    · rcases Nat.lt_or_ge 4 n with h4 | h4
      · rw [if_pos (by omega), if_neg (by omega)] at hs
        apply hslhdsa hs
      · rw [if_pos (by omega), if_neg (by omega)] at hf
        apply hfalcon hf
    · rw [if_pos (by omega), if_neg (by omega)] at hm
      apply hmldsa hm
  · rintro (rfl | hn)
    · exact ⟨hold.mldsa, hold.falcon, hold.slhdsa⟩
    · have hkeys : ∀ i < 6, i < n := fun i hi => lt_of_lt_of_le hi hn
      have hmldsa := hnew.mldsa
      have hfalcon := hnew.falcon
      have hslhdsa := hnew.slhdsa
      simp only [keySet] at hmldsa hfalcon hslhdsa
      constructor
      · simp only [keySet, torn, hkeys 0 (by decide), hkeys 3 (by decide), if_true]
        apply hmldsa
      · simp only [keySet, torn, hkeys 1 (by decide), hkeys 4 (by decide), if_true]
        apply hfalcon
      · simp only [keySet, torn, hkeys 2 (by decide), hkeys 5 (by decide), if_true]
        apply hslhdsa

/-- An `init` that is killed over an old key set leaves keys that the daemon loads.  They belong
together, so that what is signed with them is verified, exactly if none or all of the new keys were
written. -/
theorem loadPqKeys_of_killedInit_again {lib : PqLibrary} (hread : json.ReadsBack)
    {new old : StoredKeySet} {newText oldText : String}
    (hnewText : json.toStringPretty new.metadata = .ok newText)
    (holdText : json.toStringPretty old.metadata = .ok oldText) (hnew : new.keySet.Correct lib)
    (hold : old.keySet.Correct lib) (hmldsa : ¬ lib.dilithium3.Correct new.mldsaPk old.mldsaSk)
    (hfalcon : ¬ lib.falcon512.Correct new.falconPk old.falconSk)
    (hslhdsa : ¬ lib.sphincssha2128fsimple.Correct new.slhdsaPk old.slhdsaSk) {home : Home}
    (hkept : old.KeptIn oldText home.keys) (configText : String) (n : ℕ) (now : UInt64)
    (idBytes : Block 16) :
  ∃ keys, loadPqKeys sha3 json true (home.afterKilledInit configText n
      (Cli.initFiles now idBytes new newText)).keys = some keys ∧
    (keys.Correct lib ↔ n ≤ 1 ∨ 7 ≤ n)
  := by
  have htorn := keptIn_of_killedInit new newText hkept configText n now idBytes
  have hmetadata : json.toStringPretty (torn (n - 1) new old).metadata
      = .ok (if 6 < n - 1 then newText else oldText) := by
    simp only [torn]
    split
    · apply hnewText
    · apply holdText
  refine ⟨(torn (n - 1) new old).keySet, ?_, ?_⟩
  · rw [loadPqKeys, htorn.keysIn.existsIn, htorn.load sha3 hread hmetadata]
    rfl
  · rw [correct_torn_iff hnew hold hmldsa hfalcon hslhdsa]
    omega

/-- An `init` that is killed over an old key set after four key files. -/
theorem loadPqKeys_of_killedInit_again_four :
  ∃ keys, loadPqKeys primeHash twoKeysJson true ((Home.empty.writeKeys
      ((generatedKeys 1).files (generatedText 1))).afterKilledInit
        (configWithText "free" 10000000 false) 4
        (Cli.initFiles 2 (.zero 16) (generatedKeys 2) (generatedText 2))).keys = some keys ∧
    (keys.Correct prefixLibrary ↔ 4 ≤ 1 ∨ 7 ≤ 4)
  := by
  have hcorrect : ∀ key, (generatedKeys key).keySet.Correct prefixLibrary := by
    intro key
    constructor
    · apply correct_prefixScheme
    · apply correct_prefixScheme
    · apply correct_prefixScheme
  have hcross : ¬ prefixScheme.Correct [2] [1] := by
    intro h
    have hverifies := h.verifies [] (.zero 32)
    revert hverifies
    decide
  have hkept : (generatedKeys 1).KeptIn (generatedText 1)
      (Home.empty.writeKeys ((generatedKeys 1).files (generatedText 1))).keys := by
    intro file hfile
    apply lookup_insertAll_of_mem _ hfile
    have hnames : keySetNames.Nodup := by decide
    exact hnames
  exact loadPqKeys_of_killedInit_again readsBack_twoKeysJson toStringPretty_twoKeysJson.2
    toStringPretty_twoKeysJson.1 (hcorrect 2) (hcorrect 1) hcross hcross hcross hkept _ 4 2 (.zero 16)

end StoredKeySet

end Cachee
