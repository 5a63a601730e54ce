import Cachee.Daemon.ApiKeys
import Cachee.Daemon.Conflict
import Cachee.Library.Lookup
import Cachee.Library.Script
import Cachee.PqKeys
import Mathlib.Data.Finmap

/-!
# The home directory

The commands that configure the cache work on the files of the directory `~/.cachee`: the
configuration, the credentials of the account, and the directory of keys.  A key set is kept in
seven files of the latter, which are written one after another.
-/

open Text

namespace Cachee

/-! ### Configuration -/

/-- The bits of a floating-point number. -/
abbrev F64 := UInt64

/-- The billing plan. -/
structure Plan where
  tier : String
  opsPerMonth : UInt64
  ratePerOp : F64
  memoryCapTb : F64
  overagePerTb : F64
  deriving DecidableEq

deriving instance DecidableEq for VerificationConfig

/-- How results are verified when they are read, with the settings that the daemon does not look at.
-/
structure VerificationSettings extends VerificationConfig where
  mode : String
  sampleRate : F64
  maxAgeSecs : UInt64
  overrides : Finmap fun _ : String => String
  modeLocked : Bool
  minimumMode : Option String
  writePolicy : String
  allowUnsignedExport : Bool
  allowUnsignedFederation : Bool
  deriving DecidableEq

/-- The configuration. -/
structure CacheeConfig where
  port : UInt16
  maxKeys : ℕ
  defaultTtl : UInt32
  l0Enabled : Bool
  l0Shards : ℕ
  l0MaxKeys : ℕ
  attestEnabled : Bool
  metricsPort : UInt16
  dataDir : String
  plan : Plan
  verification : VerificationSettings
  issuerId : String
  requireAuth : Bool
  deriving DecidableEq

/-- The verification of a new configuration; one in a hundred reads is sampled. -/
def VerificationSettings.default : VerificationSettings where
  toVerificationConfig := .default
  mode := "trust_cached"
  sampleRate := 0x3F847AE147AE147B
  maxAgeSecs := 3600
  overrides := ∅
  modeLocked := false
  minimumMode := none
  writePolicy := "allow_unsigned"
  allowUnsignedExport := false
  allowUnsignedFederation := false

/-- The plan of a new configuration. -/
def Plan.free : Plan where
  tier := "free"
  opsPerMonth := 10000000
  ratePerOp := 0
  memoryCapTb := 0
  overagePerTb := 0

/-- A new configuration for a home directory and an issuer. -/
def CacheeConfig.default (dataDir issuerId : String) : CacheeConfig where
  port := 6380
  maxKeys := 1000000
  defaultTtl := 3600
  l0Enabled := true
  l0Shards := 64
  l0MaxKeys := 100000
  attestEnabled := false
  metricsPort := 9090
  dataDir := dataDir
  plan := .free
  verification := .default
  issuerId := issuerId
  requireAuth := false

/-- The account of the user. -/
structure Credentials where
  apiKey : String
  email : String
  deriving DecidableEq

/-- Writing values as texts, in TOML or in JSON, and reading them back. -/
structure TextCodec (α : Type) where
  toStringPretty : α → Outcome String
  fromStr : String → Outcome α

/-- Whatever is written is read back. -/
def TextCodec.ReadsBack {α : Type} (codec : TextCodec α) : Prop :=
  ∀ a text, codec.toStringPretty a = .ok text → codec.fromStr text = .ok a

/-- The codec that knows the values and the texts of a table. -/
def TextCodec.table {α : Type} [DecidableEq α] (entries : List (α × String)) : TextCodec α where
  toStringPretty a :=
    match entries.find? fun entry => entry.1 = a with
    | some entry => .ok entry.2
    | none => bail "unsupported value"
  fromStr text :=
    match entries.find? fun entry => entry.2 = text with
    | some entry => .ok entry.1
    | none => bail "unsupported text"

/-- The texts of a table without repetitions are read back. -/
theorem TextCodec.readsBack_table {α : Type} [DecidableEq α] {entries : List (α × String)}
    (h : (entries.map Prod.snd).Nodup) :
  (table entries).ReadsBack
  := by
  intro a text hwrite
  simp only [table] at hwrite
  split at hwrite
  · rename_i entry hentry
    obtain rfl := Except.ok.inj hwrite
    have ha : entry.1 = a := by simpa using List.find?_some hentry
    simp only [table, find?_eq_of_nodup h (List.mem_of_find?_eq_some hentry), ha]
  · cases hwrite

/-! ### Files -/

/-- The files of the home directory and of its directory of keys. -/
structure Home where
  root : AList fun _ : String => Bytes
  keys : AList fun _ : String => Bytes

/-- A command of the command line. -/
abbrev Command (α : Type) := Script Home α

/-- The text of a file, if there is a file of the name and it is text. -/
def readToString (files : AList fun _ : String => Bytes) (name : String) : Option String :=
  (files.lookup name).bind fun bytes => (fromUtf8 bytes).toOption

namespace Home

/-- Before the first command there are no files. -/
def empty : Home := ⟨∅, ∅⟩

def writeRoot (home : Home) (name : String) (bytes : Bytes) : Home :=
  { home with root := home.root.insert name bytes }

def removeRoot (home : Home) (name : String) : Home := { home with root := home.root.erase name }

def writeKey (home : Home) (name : String) (bytes : Bytes) : Home :=
  { home with keys := home.keys.insert name bytes }

/-- Write some key files, one after another. -/
def writeKeys (home : Home) (files : List (String × Bytes)) : Home :=
  { home with keys := insertAll home.keys files }

def removeKey (home : Home) (name : String) : Home := { home with keys := home.keys.erase name }

/-- The configuration. -/
def loadConfig (toml : TextCodec CacheeConfig) (home : Home) : Outcome CacheeConfig :=
  match home.root.lookup "config.toml" with
  | none => bail "Cachee not initialized. Run `cachee init` first."
  | some bytes => do
    let contents ← fromUtf8 bytes
    toml.fromStr contents

/-- The credentials, if they can be read. -/
def loadCredentials (toml : TextCodec Credentials) (home : Home) : Option Credentials :=
  (readToString home.root "credentials.toml").bind fun content => (toml.fromStr content).toOption

end Home

/-! ### Key sets -/

/-- The metadata of a key set, as it is stored. -/
structure StoredMetadata where
  keyId : Block 32
  version : UInt32
  createdAt : UInt64
  lastUsedAt : UInt64
  expiresAt : Option UInt64
  revoked : Bool
  rotatedFrom : Option (Block 32)
  posture : CryptoPosture
  deriving DecidableEq

/-- A key set, as it is stored. -/
structure StoredKeySet where
  mldsaPk : Bytes
  mldsaSk : Bytes
  falconPk : Bytes
  falconSk : Bytes
  slhdsaPk : Bytes
  slhdsaSk : Bytes
  metadata : StoredMetadata
  deriving DecidableEq

/-- The key pairs that the three schemes have made. -/
structure KeyPairs where
  mldsa : Bytes × Bytes
  falcon : Bytes × Bytes
  slhdsa : Bytes × Bytes

namespace StoredKeySet

/-- The key set that the daemon signs with. -/
def keySet (keys : StoredKeySet) : PqKeySet where
  mldsaPk := keys.mldsaPk
  mldsaSk := keys.mldsaSk
  falconPk := keys.falconPk
  falconSk := keys.falconSk
  slhdsaPk := keys.slhdsaPk
  slhdsaSk := keys.slhdsaSk
  metadata := ⟨keys.metadata.keyId, keys.metadata.version, keys.metadata.posture⟩

/-- A new key set of key pairs, made at the time `now`, in nanoseconds since the epoch. -/
def generate (sha3 : Bytes → Block 32) (now : UInt64) (posture : CryptoPosture) (pairs : KeyPairs) :
    StoredKeySet where
  mldsaPk := pairs.mldsa.1
  mldsaSk := pairs.mldsa.2
  falconPk := pairs.falcon.1
  falconSk := pairs.falcon.2
  slhdsaPk := pairs.slhdsa.1
  slhdsaSk := pairs.slhdsa.2
  metadata := {
    keyId := computeKeyId sha3 pairs.mldsa.1 pairs.falcon.1 pairs.slhdsa.1
    version := 1
    createdAt := now
    lastUsedAt := now
    expiresAt := none
    revoked := false
    rotatedFrom := none
    posture := posture }

/-- The key files of a key set, in the order in which they are written. -/
def keyFiles (keys : StoredKeySet) : List (String × Bytes) :=
  [("mldsa65.pub", keys.mldsaPk), ("falcon512.pub", keys.falconPk),
    ("slhdsa128f.pub", keys.slhdsaPk), ("mldsa65.key", keys.mldsaSk),
    ("falcon512.key", keys.falconSk), ("slhdsa128f.key", keys.slhdsaSk)]

/-- The files of a key set with the text of its metadata, in the order in which they are written. -/
def files (keys : StoredKeySet) (metadataJson : String) : List (String × Bytes) :=
  keys.keyFiles ++ [("metadata.json", asBytes metadataJson)]

/-- Save a key set: the key files, and then its metadata. -/
def save (json : TextCodec StoredMetadata) (keys : StoredKeySet) : Command Unit := do
  modify fun home => home.writeKeys keys.keyFiles
  let metadataJson ← Script.lift (mapErr (fun e => s!"serialize metadata: {e}")
    (json.toStringPretty keys.metadata))
  modify fun home => home.writeKey "metadata.json" (asBytes metadataJson)

/-- The metadata of key files without readable metadata. -/
def fallbackMetadata (sha3 : Bytes → Block 32) (mldsaPk falconPk slhdsaPk : Bytes) :
    StoredMetadata where
  keyId := computeKeyId sha3 mldsaPk falconPk slhdsaPk
  version := 1
  createdAt := 0
  lastUsedAt := 0
  expiresAt := none
  revoked := false
  rotatedFrom := none
  posture := .production

/-- Read a key file. -/
def read (files : AList fun _ : String => Bytes) (name : String) : Outcome Bytes :=
  match files.lookup name with
  | some bytes => .ok bytes
  | none => bail s!"read {name}: No such file or directory (os error 2)"

/-- Load a key set from the files of a directory. -/
def load (sha3 : Bytes → Block 32) (json : TextCodec StoredMetadata)
    (files : AList fun _ : String => Bytes) : Outcome StoredKeySet := do
  let mldsaPk ← read files "mldsa65.pub"
  let falconPk ← read files "falcon512.pub"
  let slhdsaPk ← read files "slhdsa128f.pub"
  let metadata := ((readToString files "metadata.json").bind fun jsonStr =>
    (json.fromStr jsonStr).toOption).getD (fallbackMetadata sha3 mldsaPk falconPk slhdsaPk)
  let mldsaSk ← read files "mldsa65.key"
  let falconSk ← read files "falcon512.key"
  let slhdsaSk ← read files "slhdsa128f.key"
  return { mldsaPk, mldsaSk, falconPk, falconSk, slhdsaPk, slhdsaSk, metadata }

/-- Whether there is a file for each key. -/
def existsIn (files : AList fun _ : String => Bytes) : Bool :=
  ["mldsa65.pub", "mldsa65.key", "falcon512.pub", "falcon512.key", "slhdsa128f.pub",
    "slhdsa128f.key"].all fun name => name ∈ files

/-- The keys that the daemon loads when it starts: none if attestation is disabled, or the keys are
not there or cannot be loaded. -/
def loadPqKeys (sha3 : Bytes → Block 32) (json : TextCodec StoredMetadata) (attestEnabled : Bool)
    (files : AList fun _ : String => Bytes) : Option PqKeySet :=
  if attestEnabled && existsIn files then
    match load sha3 json files with
    | .ok keys => some keys.keySet
    | .error _ => none
  else none

end StoredKeySet

end Cachee
