import Cachee.Home.KeyFiles

/-!
# The registry of the directory of keys

The API keys in force are those that were created and not revoked.  Each has a file in the directory
of keys, and there are no other files of API keys; so the registry that is loaded from the
directory, in whatever order it is listed, has an entry for each key in force and for the key of the
credentials, and no other entries.
-/

open Text

namespace Cachee

open Script

/-! ### Keys in force -/

/-- A key as it was created. -/
structure GrantedKey where
  secret : String
  label : String
  permissions : String

/-- The keys in force after a command, by their identifiers. -/
def CommandLine.grant (keys : AList fun _ : String => GrantedKey) :
    CommandLine → AList fun _ : String => GrantedKey
  | .authCreate _ idBytes secretBytes label permissions =>
    keys.insert (hexEncode idBytes.1) ⟨hexEncode secretBytes.1, label, permissions⟩
  | .authRevoke keyId => keys.erase keyId
  | _ => keys

/-- The keys in force after some commands. -/
def granted (lines : List CommandLine) : AList fun _ : String => GrantedKey :=
  lines.foldl CommandLine.grant ∅

/-- A key is created only with a label and permissions that stay within their quotes. -/
def CommandLine.IsPlain : CommandLine → Prop
  | .authCreate _ _ _ label permissions => Unquoted label ∧ Unquoted permissions
  | _ => True

/-- The name of the file of an API key. -/
def keyFileName (keyId : String) : String := s!"apikey-{keyId}.toml"

theorem keyFileName_eq (keyId : String) :
  keyFileName keyId = "apikey-" ++ keyId ++ ".toml"
  := rfl

theorem keyFileName_inj {keyId keyId' : String} :
  keyFileName keyId = keyFileName keyId' ↔ keyId = keyId'
  := by
  constructor
  · intro h
    rw [keyFileName_eq, keyFileName_eq] at h
    have hlist := congrArg String.toList h
    simp only [String.toList_append, List.append_cancel_left_eq, List.append_cancel_right_eq] at hlist
    apply String.toList_inj.mp hlist
  · rintro rfl
    rfl

/-- The names of files of API keys are those of identifiers. -/
theorem exists_keyFileName {name : String}
    (h : (hasPrefix name "apikey-" && hasSuffix name ".toml") = true) :
  ∃ keyId, name = keyFileName keyId
  := by
  rw [Bool.and_eq_true, hasPrefix, hasSuffix, List.isPrefixOf_iff_prefix,
    List.isSuffixOf_iff_suffix] at h
  have hlast : '.' :: "toml".toList <:+ name.toList := h.2
  obtain ⟨middle, hmiddle⟩ := exists_between h.1 hlast (by decide)
  use String.ofList middle
  apply String.toList_inj.mp
  rw [keyFileName_eq, hmiddle]
  simp [String.toList_append]

variable {ext : CliExternals} {keys : AList fun _ : String => GrantedKey} {home : Home}
  {line : CommandLine} {keyId : String}

/-- The directory holds a file for each key in force, and no other files of API keys; the label and
the permissions of each key stay within their quotes. -/
structure Home.HoldsKeys (ext : CliExternals) (keys : AList fun _ : String => GrantedKey)
    (home : Home) : Prop where
  file : ∀ keyId key, keys.lookup keyId = some key → ∃ now idBytes secretBytes,
    keyId = hexEncode (Subtype.val idBytes) ∧ key.secret = hexEncode (Subtype.val secretBytes) ∧
      home.keys.lookup (keyFileName keyId) = some (asBytes
        (authCreate ext.sha3 now idBytes secretBytes key.label key.permissions).content)
  none_of : ∀ keyId, keys.lookup keyId = none → home.keys.lookup (keyFileName keyId) = none
  unquoted : ∀ keyId key, keys.lookup keyId = some key →
    Unquoted key.label ∧ Unquoted key.permissions

theorem holdsKeys_empty (ext : CliExternals) :
  Home.empty.HoldsKeys ext ∅
  := ⟨nofun, fun _ _ => rfl, nofun⟩

/-- A change of other files does not matter to the keys. -/
theorem Home.HoldsKeys.congr (h : home.HoldsKeys ext keys) {home' : Home}
    (hsame : ∀ keyId, home'.keys.lookup (keyFileName keyId) = home.keys.lookup (keyFileName keyId)) :
  home'.HoldsKeys ext keys
  := by
  constructor
  · intro keyId key hkey
    rw [hsame]
    apply h.file keyId key hkey
  · intro keyId hkey
    rw [hsame]
    apply h.none_of keyId hkey
  · apply h.unquoted

/-- A created key is in force, and has a file. -/
theorem Home.HoldsKeys.after_authCreate (h : home.HoldsKeys ext keys) (now : UInt64)
    (idBytes : Block 8) (secretBytes : Block 32) {label permissions : String}
    (hlabel : Unquoted label) (hpermissions : Unquoted permissions) :
  (home.after ext (.authCreate now idBytes secretBytes label permissions)).HoldsKeys ext
    (keys.insert (hexEncode idBytes.1) ⟨hexEncode secretBytes.1, label, permissions⟩)
  := by
  have hafter : home.after ext (.authCreate now idBytes secretBytes label permissions)
      = home.writeKey (keyFileName (hexEncode idBytes.1)) (asBytes
        (authCreate ext.sha3 now idBytes secretBytes label permissions).content) := rfl
  rw [hafter]
  constructor
  · intro keyId key hkey
    rcases lookup_insert_eq_some.mp hkey with ⟨rfl, rfl⟩ | ⟨hne, hkey⟩
    · exact ⟨now, idBytes, secretBytes, rfl, rfl, AList.lookup_insert _⟩
    · obtain ⟨now', idBytes', secretBytes', hkeyId, hsecret, hfile⟩ := h.file keyId key hkey
      refine ⟨now', idBytes', secretBytes', hkeyId, hsecret, ?_⟩
      rw [Home.writeKey, AList.lookup_insert_ne fun heq => hne (keyFileName_inj.mp heq), hfile]
  · intro keyId hkey
    have hne : keyId ≠ hexEncode idBytes.1 := by
      rintro rfl
      rw [AList.lookup_insert] at hkey
      cases hkey
    rw [AList.lookup_insert_ne hne] at hkey
    rw [Home.writeKey, AList.lookup_insert_ne fun heq => hne (keyFileName_inj.mp heq)]
    apply h.none_of keyId hkey
  · intro keyId key hkey
    rcases lookup_insert_eq_some.mp hkey with ⟨rfl, rfl⟩ | ⟨hne, hkey⟩
    · exact ⟨hlabel, hpermissions⟩
    · apply h.unquoted keyId key hkey

/-- A revocation removes the file of the key, if there is one. -/
theorem Home.lookup_after_authRevoke (ext : CliExternals) (home : Home) (keyId name : String) :
  (home.after ext (.authRevoke keyId)).keys.lookup name
    = if name = keyFileName keyId then none else home.keys.lookup name
  := by
  have hget : (get : Command Home).outcome home = .ok home ∧ (get : Command Home).exec home = home :=
    ⟨rfl, rfl⟩
  have hname : s!"apikey-{keyId}.toml" = keyFileName keyId := rfl
  rw [Home.after, CommandLine.command, Cli.authRevoke, (bind_of_ok hget.1).1, hget.2, hname]
  split
  · rename_i hmem
    rw [exec_modify, Home.removeKey]
    split
    · rename_i heq
      rw [heq]
      apply AList.lookup_erase
    · rename_i hne
      apply AList.lookup_erase_ne hne
  · rename_i hmem
    rw [exec_pure]
    split
    · rename_i heq
      rw [heq]
      apply AList.lookup_eq_none.mpr hmem
    · rfl

/-- A revoked key is no longer in force, and has no file. -/
theorem Home.HoldsKeys.after_authRevoke (h : home.HoldsKeys ext keys) (keyId : String) :
  (home.after ext (.authRevoke keyId)).HoldsKeys ext (keys.erase keyId)
  := by
  constructor
  · intro keyId' key hkey
    obtain ⟨hne, hkey⟩ := lookup_erase_eq_some.mp hkey
    rw [Home.lookup_after_authRevoke, if_neg fun heq => hne (keyFileName_inj.mp heq)]
    apply h.file keyId' key hkey
  · intro keyId' hkey
    rw [Home.lookup_after_authRevoke]
    split
    · rfl
    · rename_i hne
      rw [AList.lookup_erase_ne fun heq => hne (congrArg keyFileName heq)] at hkey
      apply h.none_of keyId' hkey
  · intro keyId' key hkey
    apply h.unquoted keyId' key (lookup_erase_eq_some.mp hkey).2

/-- Every command keeps the directory in line with the keys in force. -/
theorem Home.HoldsKeys.after (h : home.HoldsKeys ext keys) (hplain : line.IsPlain) :
  (home.after ext line).HoldsKeys ext (line.grant keys)
  := by
  have hfirst : ∀ keyId, (keyFileName keyId).toList.head? = some 'a' := by
    intro keyId
    rw [keyFileName_eq]
    simp [String.toList_append]
  have hother : ∀ keyId name, name.toList.head? ≠ some 'a' → keyFileName keyId ≠ name := by
    rintro keyId name hname rfl
    apply hname (hfirst keyId)
  cases line with
  | authCreate now idBytes secretBytes label permissions =>
    apply h.after_authCreate now idBytes secretBytes hplain.1 hplain.2
  | authRevoke keyId => apply h.after_authRevoke keyId
  | init port maxKeys ttl issuerId now nowNs idBytes pairs =>
    have hnames : ∀ name ∈ keySetNames, name.toList.head? ≠ some 'a' := by decide
    apply h.congr
    intro keyId
    apply Home.lookup_after
    rintro (hidentity | hname)
    · apply hother keyId _ _ hidentity
      decide
    · apply hnames _ hname (hfirst keyId)
  | rotateKeys now idBytes =>
    apply h.congr
    intro keyId
    apply Home.lookup_after
    rintro (hidentity | ⟨oldKeyId, harchive⟩)
    · apply hother keyId _ _ hidentity
      decide
    · apply hother keyId _ _ harchive
      simp [toString]
  | _ =>
    apply h.congr
    intro keyId
    apply Home.lookup_after _ _ id

/-- After commands that create only plain keys, the directory is in line with the keys in force. -/
theorem holdsKeys_granted (ext : CliExternals) {lines : List CommandLine}
    (hplain : ∀ line ∈ lines, line.IsPlain) :
  (lines.foldl (Home.after ext) .empty).HoldsKeys ext (granted lines)
  := by
  induction lines using List.reverseRecOn with
  | nil => apply holdsKeys_empty
  | append_singleton lines line ih =>
    rw [granted, List.foldl_concat, List.foldl_concat]
    apply (ih fun line' hline' => hplain line' (List.mem_append_left _ hline')).after
    apply hplain line List.mem_concat_self

/-! ### Loading the registry -/

/-- The limit of the plan, if the configuration can be loaded. -/
def Home.planLimit (ext : CliExternals) (home : Home) : Option UInt64 :=
  (home.loadConfig ext.toml).toOption.map fun cfg => cfg.plan.opsPerMonth

/-- The entry of the key of the credentials, with the hash of the key. -/
def Home.credentialsEntry (ext : CliExternals) (home : Home) : Option (Block 32 × ApiKeyEntry) :=
  Cachee.loadCredentials ext.sha3 (readToString home.root "credentials.toml") (home.planLimit ext)

/-- The key of the credentials is the same with another limit. -/
theorem exists_loadCredentials {sha3 : Bytes → Block 32} {content : Option String}
    {limit : Option UInt64} {hash : Block 32} {entry : ApiKeyEntry}
    (h : loadCredentials sha3 content limit = some (hash, entry))
    (limit' : Option UInt64) :
  ∃ entry', loadCredentials sha3 content limit' = some (hash, entry')
  := by
  cases content with
  | none => cases h
  | some content =>
    simp only [loadCredentials, Option.bind_eq_bind, Option.bind_some] at h ⊢
    split at h
    · cases h
    · rename_i hkey
      obtain ⟨rfl, -⟩ := Prod.mk.inj (Option.some.inj h)
      rw [if_neg hkey]
      exact ⟨_, rfl⟩

/-- The registry that is loaded when the directory of keys is listed in some order. -/
def Home.loadRegistry (ext : CliExternals) (home : Home) (order : List String) : ApiKeyRegistry :=
  loadApiKeys ext.sha3 (order.map fun name => (name, readToString home.keys name))
    (readToString home.root "credentials.toml") (home.planLimit ext)

/-- An entry is that of a key in force, under the hash of its secret, or that of the credentials. -/
inductive Filed (ext : CliExternals) (keys : AList fun _ : String => GrantedKey) (home : Home) :
    Block 32 → ApiKeyEntry → Prop
  | key {keyId : String} {key : GrantedKey} (hkey : keys.lookup keyId = some key) :
      Filed ext keys home (ext.sha3 (asBytes key.secret)) ⟨keyId, key.label, key.permissions, 0⟩
  | credentials {hash : Block 32} {entry : ApiKeyEntry}
      (hentry : home.credentialsEntry ext = some (hash, entry)) :
      Filed ext keys home hash entry

variable {hash : Block 32} {entry : ApiKeyEntry} {order : List String}

/-- What is registered was registered before, or is one of the entries that were loaded. -/
theorem mem_of_lookup_register {loaded : List (Option (Block 32 × ApiKeyEntry))}
    {registry : ApiKeyRegistry}
    (h : (loaded.foldl ApiKeyRegistry.register registry).lookup hash = some entry) :
  registry.lookup hash = some entry ∨ some (hash, entry) ∈ loaded
  := by
  induction loaded generalizing registry with
  | nil =>
    left
    apply h
  | cons first loaded ih =>
    rcases ih h with hfirst | hmem
    · cases first with
      | none =>
        left
        apply hfirst
      | some filed =>
        rcases lookup_insert_eq_some.mp hfirst with ⟨rfl, rfl⟩ | ⟨-, hbefore⟩
        · right
          apply List.mem_cons_self
        · left
          apply hbefore
    · right
      apply List.mem_cons_of_mem _ hmem

/-- There is an entry under each hash that was loaded. -/
theorem exists_lookup_register {loaded : List (Option (Block 32 × ApiKeyEntry))}
    (registry : ApiKeyRegistry) (h : hash ∈ registry ∨ some (hash, entry) ∈ loaded) :
  ∃ entry', (loaded.foldl ApiKeyRegistry.register registry).lookup hash = some entry'
  := by
  induction loaded generalizing registry with
  | nil =>
    rcases h with h | h
    · apply Option.isSome_iff_exists.mp (AList.lookup_isSome.mpr h)
    · cases h
  | cons first loaded ih =>
    rw [List.foldl_cons]
    apply ih
    rcases h with h | h
    · left
      cases first with
      | none => apply h
      | some filed => apply AList.mem_insert _ |>.mpr (Or.inr h)
    · rcases List.mem_cons.mp h with rfl | h
      · left
        apply AList.mem_insert _ |>.mpr (Or.inl rfl)
      · right
        apply h

/-- The file of a key in force is loaded as the key was created. -/
theorem Home.HoldsKeys.loadKeyFile_keyFileName (h : home.HoldsKeys ext keys) {key : GrantedKey}
    (hkey : keys.lookup keyId = some key) :
  loadKeyFile (keyFileName keyId) (readToString home.keys (keyFileName keyId))
    = some (ext.sha3 (asBytes key.secret), ⟨keyId, key.label, key.permissions, 0⟩)
  := by
  obtain ⟨now, idBytes, secretBytes, rfl, hsecret, hfile⟩ := h.file keyId key hkey
  obtain ⟨hlabel, hpermissions⟩ := h.unquoted _ key hkey
  have hread : readToString home.keys (keyFileName (hexEncode idBytes.1)) = some
      (authCreate ext.sha3 now idBytes secretBytes key.label key.permissions).content := by
    rw [readToString, hfile, Option.bind_some, fromUtf8_asBytes]
    rfl
  rw [hread, hsecret]
  apply loadKeyFile_authCreate ext.sha3 now idBytes secretBytes hlabel hpermissions

/-- Only the files of keys in force are loaded. -/
theorem Home.HoldsKeys.loadKeyFile_eq_some (h : home.HoldsKeys ext keys) {name : String}
    (hload : loadKeyFile name (readToString home.keys name) = some (hash, entry)) :
  ∃ keyId key, keys.lookup keyId = some key ∧ hash = ext.sha3 (asBytes key.secret) ∧
    entry = ⟨keyId, key.label, key.permissions, 0⟩
  := by
  have hname : (hasPrefix name "apikey-" && hasSuffix name ".toml") = true := by
    by_contra hnot
    rw [loadKeyFile, if_neg hnot] at hload
    cases hload
  obtain ⟨keyId, rfl⟩ := exists_keyFileName hname
  cases hkey : keys.lookup keyId with
  | none =>
    rw [readToString, h.none_of keyId hkey, Option.bind_none, loadKeyFile, if_pos hname] at hload
    cases hload
  | some key =>
    rw [h.loadKeyFile_keyFileName hkey] at hload
    obtain ⟨rfl, rfl⟩ := Prod.mk.inj (Option.some.inj hload)
    exact ⟨keyId, key, hkey, rfl, rfl⟩

/-- The entries that are loaded from the directory are those of the keys in force and of the
credentials, in whatever order it is listed. -/
theorem Home.HoldsKeys.mem_loaded_iff (h : home.HoldsKeys ext keys)
    (horder : order.Perm home.keys.keys) :
  some (hash, entry) ∈ (order.map fun name => (name, readToString home.keys name)).map
      (fun file => loadKeyFile file.1 file.2) ++ [home.credentialsEntry ext] ↔
    Filed ext keys home hash entry
  := by
  rw [List.map_map, List.mem_append, List.mem_singleton, List.mem_map]
  constructor
  · rintro (⟨name, -, hload⟩ | hcredentials)
    · obtain ⟨keyId, key, hkey, rfl, rfl⟩ := h.loadKeyFile_eq_some hload
      apply Filed.key hkey
    · apply Filed.credentials hcredentials.symm
  · intro hfiled
    cases hfiled with
    | @key keyId key hkey =>
      left
      obtain ⟨_, _, _, -, -, hfile⟩ := h.file keyId key hkey
      have hmem : keyFileName keyId ∈ home.keys := by
        rw [← AList.lookup_isSome, hfile]
        rfl
      exact ⟨keyFileName keyId, horder.mem_iff.mpr (AList.mem_keys.mp hmem),
        h.loadKeyFile_keyFileName hkey⟩
    | credentials hcredentials =>
      right
      apply hcredentials.symm

/-- An entry that is registered is that of a key in force or of the credentials. -/
theorem Home.HoldsKeys.filed_of_lookup (h : home.HoldsKeys ext keys)
    (horder : order.Perm home.keys.keys)
    (hlookup : (home.loadRegistry ext order).lookup hash = some entry) :
  Filed ext keys home hash entry
  := by
  rcases mem_of_lookup_register hlookup with hempty | hmem
  · cases hempty
  · apply (h.mem_loaded_iff horder).mp hmem

/-- After any commands that create only plain keys, however they ended, and in whatever order the
directory of keys is listed: each entry of the registry that is loaded is that of a key that was
created and not revoked since, with its label and its permissions under the hash of its secret, or
that of the credentials; and if no hash is that of two such keys, then there is an entry for each of
them. -/
theorem lookup_loadRegistry_of_commands {lines : List CommandLine}
    (hplain : ∀ line ∈ lines, line.IsPlain)
    (horder : order.Perm (lines.foldl (Home.after ext) .empty).keys.keys) :
  let home := lines.foldl (Home.after ext) .empty
  let registry := home.loadRegistry ext order
  (∀ hash entry, registry.lookup hash = some entry → Filed ext (granted lines) home hash entry) ∧
    ((∀ hash entry entry', Filed ext (granted lines) home hash entry →
        Filed ext (granted lines) home hash entry' → entry = entry') →
      ∀ hash entry, Filed ext (granted lines) home hash entry →
        registry.lookup hash = some entry)
  := by
  have hholds := holdsKeys_granted ext hplain
  generalize lines.foldl (Home.after ext) .empty = home at horder hholds
  intro home registry
  refine ⟨fun hash entry => hholds.filed_of_lookup horder, ?_⟩
  intro hunique hash entry hfiled
  obtain ⟨entry', hlookup⟩ := exists_lookup_register ∅
    (Or.inr ((hholds.mem_loaded_iff horder).mpr hfiled))
  rw [hunique hash entry entry' hfiled (hholds.filed_of_lookup horder hlookup)]
  apply hlookup

/-- Two keys are created, and the first of them is revoked. -/
def createdLines : List CommandLine :=
  [.authCreate 1 (.zero 8) (.zero 32) "app" "read",
    .authCreate 2 ⟨beBytes 8 1, rfl⟩ ⟨beBytes 32 1, rfl⟩ "ops" "admin",
    .authRevoke "0000000000000000"]

theorem plain_createdLines :
  ∀ line ∈ createdLines, line.IsPlain
  := by
  simp only [createdLines, List.forall_mem_cons]
  exact ⟨⟨⟨by decide, by decide⟩, by decide, by decide⟩,
    ⟨⟨by decide, by decide⟩, by decide, by decide⟩, trivial, nofun⟩

/-- After these commands, only the second key is registered. -/
theorem lookup_loadRegistry_createdLines :
  let home := createdLines.foldl (Home.after plainCli) .empty
  let registry := home.loadRegistry plainCli home.keys.keys
  (∀ hash entry, registry.lookup hash = some entry →
      Filed plainCli (granted createdLines) home hash entry) ∧
    ((∀ hash entry entry', Filed plainCli (granted createdLines) home hash entry →
        Filed plainCli (granted createdLines) home hash entry' → entry = entry') →
      ∀ hash entry, Filed plainCli (granted createdLines) home hash entry →
        registry.lookup hash = some entry)
  := lookup_loadRegistry_of_commands plain_createdLines (List.Perm.refl _)

end Cachee
