import Cachee.Crypto
import Cachee.Daemon.Connection
import Cachee.Library.Fields
import Cachee.Library.Lookup

/-!
# Files of API keys

An API key is created as a file of fields in quotes, which the daemon loads when it starts.  The
fields are written as they are, without escapes, and read by the beginnings of their lines.  So a
key is loaded as it was created exactly when its label and its permissions have no quotes and no
newlines in them; a label that has both can bring its own permissions.
-/

open Text

namespace Cachee

/-! ### Creation -/

/-- An API key as it is created: its identifier and its secret, and the name and the content of
its file. -/
structure CreatedKey where
  keyId : String
  secret : String
  fileName : String
  content : String

/-- Create an API key at the time `now`, in seconds since the epoch, from random bytes for its
identifier and for its secret. -/
def authCreate (sha3 : Bytes → Block 32) (now : UInt64) (idBytes : Block 8)
    (secretBytes : Block 32) (label permissions : String) : CreatedKey :=
  let keyId := hexEncode idBytes.1
  let secret := hexEncode secretBytes.1
  { keyId
    secret
    fileName := s!"apikey-{keyId}.toml"
    content := s!"key_id = \"{keyId}\"\nlabel = \"{label}\"\npermissions = \"{permissions}\"\n"
      ++ s!"secret_hash = \"{hexEncode (sha3 (asBytes secret)).1}\"\ncreated = {now}\n" }

/-! ### Loading -/

/-- The text between the first two quotes of the first line that starts with a field, empty if
there is none. -/
def extractTomlField (content field : String) : String :=
  String.ofList ((fieldPart '"' field.toList content.toList).getD [])

/-- The entry of a file of an API key, with the hash of its secret.  The content is missing when
the file cannot be read. -/
def loadKeyFile (name : String) (content : Option String) : Option (Block 32 × ApiKeyEntry) := do
  if hasPrefix name "apikey-" && hasSuffix name ".toml" then
    let content ← content
    let hashBytes ← hexDecode (extractTomlField content "secret_hash")
    let hash ← Block.ofBytes? 32 hashBytes
    some (hash,
      { keyId := extractTomlField content "key_id"
        label := extractTomlField content "label"
        permissions := extractTomlField content "permissions"
        opsLimit := (parseU64 (extractTomlField content "ops_limit").toList).getD 0 })
  else none

/-- The entry of the key in the credentials of the command line, with the hash of the key.  The
limit of its plan is missing when the configuration cannot be loaded. -/
def loadCredentials (sha3 : Bytes → Block 32) (content : Option String)
    (planLimit : Option UInt64) : Option (Block 32 × ApiKeyEntry) := do
  let content ← content
  let apiKey := extractTomlField content "api_key"
  if apiKey = "" then none
  else
    some (sha3 (asBytes apiKey),
      { keyId := "cli-credentials"
        label := "CLI signup key"
        permissions := "read,write"
        opsLimit := planLimit.getD 1000 })

/-- Register an entry, if there is one. -/
def ApiKeyRegistry.register (registry : ApiKeyRegistry)
    (loaded : Option (Block 32 × ApiKeyEntry)) : ApiKeyRegistry :=
  match loaded with
  | some (hash, entry) => registry.insert hash entry
  | none => registry

/-- Load all API keys: those of the files of a directory, in its order, and that of the
credentials. -/
def loadApiKeys (sha3 : Bytes → Block 32) (files : List (String × Option String))
    (credentials : Option String) (planLimit : Option UInt64) : ApiKeyRegistry :=
  let loaded := files.map fun file => loadKeyFile file.1 file.2
  (loaded ++ [loadCredentials sha3 credentials planLimit]).foldl ApiKeyRegistry.register ∅

/-! ### Files of fields -/

variable {sha3 : Bytes → Block 32} {name content field keyId label permissions value : String}
  {hash : Block 32} {now : UInt64}

/-- The line of a field in quotes. -/
def fieldLine (field value : String) : List Char :=
  (field.toList ++ " = ".toList) ++ '"' :: (value.toList ++ ['"'])

/-- The lines of the fields of a key with some permissions, one after another. -/
def keyLines (keyId label : String) (permissions : List String) (hash : Block 32)
    (time : String) : List (List Char) :=
  [fieldLine "key_id" keyId, fieldLine "label" label]
    ++ permissions.map (fieldLine "permissions")
    ++ [fieldLine "secret_hash" (hexEncode hash.1), "created = ".toList ++ time.toList]

/-- A text that stays within its quotes and on its line. -/
def Unquoted (text : String) : Prop := '"' ∉ text.toList ∧ '\n' ∉ text.toList

theorem unquoted_hexEncode (bs : Bytes) :
  Unquoted (hexEncode bs)
  := by
  constructor
  · apply not_mem_hexEncode (by decide)
  · apply not_mem_hexEncode (by decide)

/-- A field without quotes and newlines is on a line of its own. -/
theorem line_fieldLine (hfield : '\n' ∉ field.toList) (hvalue : Unquoted value) :
  '\n' ∉ fieldLine field value ∧ stripCr (fieldLine field value) = fieldLine field value
  := by
  constructor
  · intro hmem
    simp only [fieldLine, List.mem_append, List.mem_cons, List.not_mem_nil, or_false] at hmem
    rcases hmem with (h | h) | h | h | h
    · apply hfield h
    · exact absurd h (by decide)
    · exact absurd h (by decide)
    · apply hvalue.2 h
    · exact absurd h (by decide)
  · rw [fieldLine, ← List.cons_append, ← List.append_assoc]
    apply stripCr_of_ne (by decide)

/-- The time of creation is on a line of its own. -/
theorem line_created (now : UInt64) :
  '\n' ∉ "created = ".toList ++ (toString now).toList ∧
    stripCr ("created = ".toList ++ (toString now).toList)
      = "created = ".toList ++ (toString now).toList
  := by
  have hmem : ∀ c : Char, c ∉ "created = ".toList → c.isDigit = false →
      c ∉ "created = ".toList ++ (toString now).toList := by
    intro c hprefix hdigit hc
    rcases List.mem_append.mp hc with h | h
    · apply hprefix h
    · apply not_mem_toString hdigit now.toNat h
  constructor
  · apply hmem _ (by decide) (by decide)
  · apply stripCr_of_not_mem
    apply hmem _ (by decide) (by decide)

/-- The lines of fields without quotes and newlines are read back. -/
theorem lines_keyLines {permissions : List String} (hkeyId : Unquoted keyId)
    (hlabel : Unquoted label) (hpermissions : ∀ p ∈ permissions, Unquoted p) :
  lines ((keyLines keyId label permissions hash (toString now)).flatMap fun line => line ++ ['\n'])
    = keyLines keyId label permissions hash (toString now)
  := by
  apply lines_flatMap_newline
  intro line hline
  simp only [keyLines, List.mem_append, List.mem_cons, List.not_mem_nil, or_false,
    List.mem_map] at hline
  rcases hline with ((rfl | rfl) | ⟨p, hp, rfl⟩) | rfl | rfl
  · apply line_fieldLine (by decide) hkeyId
  · apply line_fieldLine (by decide) hlabel
  · apply line_fieldLine (by decide) (hpermissions p hp)
  · apply line_fieldLine (by decide) (unquoted_hexEncode _)
  · apply line_created

/-! ### Reading fields -/

/-- The value of a field that is written in a line without other quotes. -/
theorem fieldPart_of_fieldLine {text : List Char} (hfield : '"' ∉ field.toList)
    (hvalue : '"' ∉ value.toList)
    (hfind : (lines text).find? name.toList.isPrefixOf = some (fieldLine field value)) :
  fieldPart '"' name.toList text = some value.toList
  := by
  have hbefore : '"' ∉ field.toList ++ " = ".toList := by
    rw [List.mem_append, not_or]
    exact ⟨hfield, by decide⟩
  rw [fieldPart, hfind, Option.bind_some, fieldLine, splitOn_between hbefore hvalue]

theorem extractTomlField_eq (hfield : '"' ∉ field.toList) (hvalue : '"' ∉ value.toList)
    (hfind : (lines content.toList).find? name.toList.isPrefixOf = some (fieldLine field value)) :
  extractTomlField content name = value
  := by
  rw [extractTomlField, fieldPart_of_fieldLine hfield hvalue hfind, Option.getD_some,
    String.ofList_toList]

/-- A field that is read is within quotes and on a line. -/
theorem unquoted_extractTomlField (content field : String) :
  Unquoted (extractTomlField content field)
  := by
  rw [Unquoted, extractTomlField, String.toList_ofList]
  cases h : fieldPart '"' field.toList content.toList with
  | none => exact ⟨List.not_mem_nil, List.not_mem_nil⟩
  | some value => apply not_mem_of_fieldPart h

/-- The label and the permissions that are loaded have no quotes and no newlines in them. -/
theorem unquoted_of_loadKeyFile {entry : ApiKeyEntry}
    (h : loadKeyFile name (some content) = some (hash, entry)) :
  Unquoted entry.label ∧ Unquoted entry.permissions
  := by
  rw [loadKeyFile] at h
  split at h
  · simp only [Option.bind_eq_bind, Option.bind_eq_some_iff, Option.some.injEq,
      Prod.mk.injEq] at h
    obtain ⟨_, rfl, _, -, _, -, -, rfl⟩ := h
    exact ⟨unquoted_extractTomlField _ _, unquoted_extractTomlField _ _⟩
  · cases h

/-- The fields of a key are read from its lines: the first of its permissions, and no limit. -/
theorem extractTomlField_of_keyLines {more : List String} {time : String}
    (hkeyId : Unquoted keyId) (hlabel : Unquoted label) (hpermissions : Unquoted permissions)
    (hlines : lines content.toList = keyLines keyId label (permissions :: more) hash time) :
  extractTomlField content "key_id" = keyId ∧ extractTomlField content "label" = label ∧
    extractTomlField content "permissions" = permissions ∧
    extractTomlField content "secret_hash" = hexEncode hash.1 ∧
    extractTomlField content "ops_limit" = ""
  := by
  -- All permissions are passed over when another field is looked up.
  have hskip : ∀ field : List Char, (∀ p, field.isPrefixOf (fieldLine "permissions" p) = false) →
      ((permissions :: more).map (fieldLine "permissions")).find? field.isPrefixOf = none := by
    intro field h
    rw [List.find?_map, Option.map_eq_none_iff, List.find?_eq_none]
    intro p _
    rw [Function.comp_apply, h p]
    decide
  rw [keyLines] at hlines
  refine ⟨?_, ?_, ?_, ?_, ?_⟩
  · refine extractTomlField_eq (by decide : '"' ∉ "key_id".toList) hkeyId.1 ?_
    rw [hlines]
    rfl
  · refine extractTomlField_eq (by decide : '"' ∉ "label".toList) hlabel.1 ?_
    rw [hlines]
    rfl
  · refine extractTomlField_eq (by decide : '"' ∉ "permissions".toList) hpermissions.1 ?_
    rw [hlines]
    rfl
  · refine extractTomlField_eq (by decide : '"' ∉ "secret_hash".toList)
      (unquoted_hexEncode hash.1).1 ?_
    rw [hlines, List.find?_append, List.find?_append, hskip _ fun _ => rfl]
    rfl
  · rw [extractTomlField, fieldPart, hlines, List.find?_append, List.find?_append,
      hskip _ fun _ => rfl]
    rfl

/-- A key is loaded from the lines of its fields, with the first of its permissions. -/
theorem loadKeyFile_of_keyLines (more : List String)
    (hname : (hasPrefix name "apikey-" && hasSuffix name ".toml") = true)
    (hkeyId : Unquoted keyId) (hlabel : Unquoted label)
    (hpermissions : ∀ p ∈ permissions :: more, Unquoted p)
    (hcontent : content.toList =
      (keyLines keyId label (permissions :: more) hash (toString now)).flatMap
        fun line => line ++ ['\n']) :
  loadKeyFile name (some content) = some (hash, ⟨keyId, label, permissions, 0⟩)
  := by
  have hlines : lines content.toList
      = keyLines keyId label (permissions :: more) hash (toString now) := by
    rw [hcontent, lines_keyLines hkeyId hlabel hpermissions]
  obtain ⟨hid, hlab, hperms, hsecret, hlimit⟩ := extractTomlField_of_keyLines hkeyId hlabel
    (hpermissions permissions List.mem_cons_self) hlines
  rw [loadKeyFile, if_pos hname]
  simp only [Option.bind_eq_bind, Option.bind_some, hsecret, hexDecode_hexEncode,
    Block.ofBytes?_val, hid, hlab, hperms, hlimit]
  rfl

/-! ### The round trip -/

/-- The name of a created file is that of a file of an API key. -/
theorem isKeyFile_fileName (sha3 : Bytes → Block 32) (now : UInt64) (idBytes : Block 8)
    (secretBytes : Block 32) (label permissions : String) :
  (hasPrefix (authCreate sha3 now idBytes secretBytes label permissions).fileName "apikey-" &&
    hasSuffix (authCreate sha3 now idBytes secretBytes label permissions).fileName ".toml") = true
  := by
  rw [Bool.and_eq_true, hasPrefix, hasSuffix, List.isPrefixOf_iff_prefix,
    List.isSuffixOf_iff_suffix]
  constructor
  · simp [authCreate, toString]
  · use ("apikey-" ++ hexEncode idBytes.1).toList
    simp [authCreate, toString]

/-- A created file has a line for each field. -/
theorem toList_content (sha3 : Bytes → Block 32) (now : UInt64) (idBytes : Block 8)
    (secretBytes : Block 32) (label permissions : String) :
  (authCreate sha3 now idBytes secretBytes label permissions).content.toList =
    (keyLines (hexEncode idBytes.1) label [permissions]
      (sha3 (asBytes (hexEncode secretBytes.1))) (toString now)).flatMap
      fun line => line ++ ['\n']
  := by
  simp [authCreate, keyLines, fieldLine, toString]

/-- A label that ends its line makes another line of permissions. -/
theorem toList_content_of_injected (sha3 : Bytes → Block 32) (now : UInt64) (idBytes : Block 8)
    (secretBytes : Block 32) (label injected permissions : String) :
  (authCreate sha3 now idBytes secretBytes (label ++ "\"\npermissions = \"" ++ injected)
      permissions).content.toList =
    (keyLines (hexEncode idBytes.1) label [injected, permissions]
      (sha3 (asBytes (hexEncode secretBytes.1))) (toString now)).flatMap
      fun line => line ++ ['\n']
  := by
  simp [authCreate, keyLines, fieldLine, toString]

/-- A key whose label and permissions have no quotes and no newlines in them is loaded as it was
created. -/
theorem loadKeyFile_authCreate (sha3 : Bytes → Block 32) (now : UInt64) (idBytes : Block 8)
    (secretBytes : Block 32) (hlabel : Unquoted label) (hpermissions : Unquoted permissions) :
  let created := authCreate sha3 now idBytes secretBytes label permissions
  loadKeyFile created.fileName (some created.content)
    = some (sha3 (asBytes created.secret), ⟨created.keyId, label, permissions, 0⟩)
  := by
  apply loadKeyFile_of_keyLines [] (isKeyFile_fileName _ _ _ _ _ _) (unquoted_hexEncode _) hlabel
    (by simpa using hpermissions) (toList_content _ _ _ _ _ _)

/-- A label can bring its own permissions, which are loaded instead of those of the key. -/
theorem loadKeyFile_authCreate_of_injected (sha3 : Bytes → Block 32) (now : UInt64)
    (idBytes : Block 8) (secretBytes : Block 32) {injected : String} (hlabel : Unquoted label)
    (hinjected : Unquoted injected) (hpermissions : Unquoted permissions) :
  let created := authCreate sha3 now idBytes secretBytes
    (label ++ "\"\npermissions = \"" ++ injected) permissions
  loadKeyFile created.fileName (some created.content)
    = some (sha3 (asBytes created.secret), ⟨created.keyId, label, injected, 0⟩)
  := by
  apply loadKeyFile_of_keyLines [permissions] (isKeyFile_fileName _ _ _ _ _ _)
    (unquoted_hexEncode _) hlabel (by simpa using ⟨hinjected, hpermissions⟩)
    (toList_content_of_injected _ _ _ _ _ _ _)

/-- A key is loaded from its file with its identifier, label and permissions, under the hash of its
secret, exactly when its label and its permissions have no quotes and no newlines in them. -/
theorem loadKeyFile_authCreate_iff (sha3 : Bytes → Block 32) (now : UInt64) (idBytes : Block 8)
    (secretBytes : Block 32) (label permissions : String) :
  let created := authCreate sha3 now idBytes secretBytes label permissions
  (∃ entry, loadKeyFile created.fileName (some created.content)
      = some (sha3 (asBytes created.secret), entry) ∧
    entry.keyId = created.keyId ∧ entry.label = label ∧ entry.permissions = permissions) ↔
  Unquoted label ∧ Unquoted permissions
  := by
  intro created
  constructor
  · rintro ⟨entry, hload, -, hlabel, hpermissions⟩
    have hunquoted := unquoted_of_loadKeyFile hload
    rwa [hlabel, hpermissions] at hunquoted
  · rintro ⟨hlabel, hpermissions⟩
    exact ⟨_, loadKeyFile_authCreate sha3 now idBytes secretBytes hlabel hpermissions, rfl, rfl,
      rfl⟩

/-- A key that may only read is loaded as one that may do everything when its label says so. -/
theorem loadKeyFile_label_admin :
  let created := authCreate primeHash 0 (.zero 8) (.zero 32) "x\"\npermissions = \"admin" "read"
  (∃ entry, loadKeyFile created.fileName (some created.content)
      = some (primeHash (asBytes created.secret), entry) ∧ entry.permissions = "admin") ∧
    ¬ ∃ entry, loadKeyFile created.fileName (some created.content)
        = some (primeHash (asBytes created.secret), entry) ∧
      entry.keyId = created.keyId ∧ entry.label = "x\"\npermissions = \"admin" ∧
      entry.permissions = "read"
  := by
  have hlabel : "x" ++ "\"\npermissions = \"" ++ "admin" = "x\"\npermissions = \"admin" := by
    decide
  have hload := loadKeyFile_authCreate_of_injected primeHash 0 (.zero 8) (.zero 32)
    (⟨by decide, by decide⟩ : Unquoted "x") (⟨by decide, by decide⟩ : Unquoted "admin")
    (⟨by decide, by decide⟩ : Unquoted "read")
  rw [hlabel] at hload
  intro created
  constructor
  · exact ⟨_, hload, rfl⟩
  · rintro ⟨entry, h, -, -, hpermissions⟩
    rw [hload] at h
    obtain ⟨-, rfl⟩ := Prod.mk.inj (Option.some.inj h)
    exact absurd hpermissions (by decide)

/-! ### The registry -/

/-- An entry remains registered while no other is filed under its hash. -/
theorem lookup_foldl_register {loaded : List (Option (Block 32 × ApiKeyEntry))}
    (hloaded : ∀ entry, some (hash, entry) ∉ loaded) (registry : ApiKeyRegistry) :
  (loaded.foldl ApiKeyRegistry.register registry).lookup hash = registry.lookup hash
  := by
  induction loaded generalizing registry with
  | nil => rfl
  | cons first loaded ih =>
    have hrest : ∀ entry, some (hash, entry) ∉ loaded :=
      fun entry hmem => hloaded entry (List.mem_cons_of_mem first hmem)
    rw [List.foldl_cons, ih hrest]
    cases first with
    | none => rfl
    | some filed =>
      obtain ⟨hash', entry⟩ := filed
      have hne : hash ≠ hash' := by
        rintro rfl
        apply hloaded entry List.mem_cons_self
      apply AList.lookup_insert_ne hne

/-- The entry of a file is registered under its hash when no later file and not the credentials
are filed there. -/
theorem lookup_loadApiKeys (before : List (String × Option String))
    {after : List (String × Option String)} {credentials : Option String}
    {planLimit : Option UInt64} {entry : ApiKeyEntry}
    (hfile : loadKeyFile name (some content) = some (hash, entry))
    (hafter : ∀ file ∈ after, ∀ entry', loadKeyFile file.1 file.2 ≠ some (hash, entry'))
    (hcredentials : ∀ entry', loadCredentials sha3 credentials planLimit ≠ some (hash, entry')) :
  (loadApiKeys sha3 (before ++ (name, some content) :: after) credentials planLimit).lookup hash
    = some entry
  := by
  rw [loadApiKeys, List.map_append, List.map_cons, List.append_assoc, List.cons_append,
    List.foldl_append, List.foldl_cons, lookup_foldl_register, hfile]
  · apply AList.lookup_insert
  · intro entry' hmem
    rcases List.mem_append.mp hmem with h | h
    · obtain ⟨file, hfile', heq⟩ := List.mem_map.mp h
      apply hafter file hfile' entry' heq
    · apply hcredentials entry' (List.mem_singleton.mp h).symm

/-- A connection that sends the secret under whose hash a file was loaded is given the entry of that
file. -/
theorem handleAuth_of_loadKeyFile {before after : List (String × Option String)}
    {credentials : Option String} {planLimit : Option UInt64} {entry : ApiKeyEntry}
    {secret : String}
    (hfile : loadKeyFile name (some content) = some (sha3 (asBytes secret), entry))
    (hafter : ∀ file ∈ after, ∀ entry',
      loadKeyFile file.1 file.2 ≠ some (sha3 (asBytes secret), entry'))
    (hcredentials : ∀ entry',
      loadCredentials sha3 credentials planLimit ≠ some (sha3 (asBytes secret), entry'))
    (conn : ConnState) :
  (handleAuth sha3 (loadApiKeys sha3 (before ++ (name, some content) :: after) credentials planLimit)
      conn ["AUTH", secret]).1 = ⟨true, some entry, some (sha3 (asBytes secret))⟩
  := by
  have hlookup := lookup_loadApiKeys before hfile hafter hcredentials
  simp only [handleAuth, List.getElem?_cons_succ, List.getElem?_cons_zero, hlookup]

end Cachee
