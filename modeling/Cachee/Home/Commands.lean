import Cachee.Home

/-!
# The commands of the command line

A command reads a file of the home directory, and writes another one in place of it; it may stop
between two writes.  The web service of the account is asked over the network, and may reply
anything.
-/

open Text

namespace Cachee

/-- What the commands use: the hash function, the codecs of their files, the name of the home
directory, and the reading of the field `error` of a reply. -/
structure CliExternals where
  sha3 : Bytes → Block 32
  toml : TextCodec CacheeConfig
  credentialsToml : TextCodec Credentials
  metadataJson : TextCodec StoredMetadata
  homeName : String
  errorField : String → Option String

/-- The settings that the daemon takes over when it starts. -/
def Home.daemonConfig (ext : CliExternals) (home : Home) : Outcome DaemonConfig := do
  let cfg ← home.loadConfig ext.toml
  let pqKeys := StoredKeySet.loadPqKeys ext.sha3 ext.metadataJson cfg.attestEnabled home.keys
  return cfg.verification.daemonConfig cfg.issuerId pqKeys

/-! ### The web service -/

/-- What comes of a request to the web service: it fails, it is refused with a status and a body, or
it succeeds, and its body can be read or not. -/
inductive HttpReply (α : Type) where
  | failed (e : String)
  | refused (status body : String)
  | unreadable (e : String)
  | ok (body : α)

/-- The reply to a signup. -/
structure SignupResponse where
  email : String
  verificationId : String

/-- The reply to a verification. -/
structure VerifyResponse where
  apiKey : String
  email : String
  plan : String
  opsLimit : UInt64

/-- The fields of the reply to a question for the usage. -/
structure UsageBody where
  plan : Option String
  opsLimit : Option UInt64

/-- The body of a reply that was successful; one that cannot be read has no fields. -/
def UsageBody.ofReply : HttpReply UsageBody → Option UsageBody
  | .ok body => some body
  | .unreadable _ => some ⟨none, none⟩
  | _ => none

namespace Cli

section Commands

variable (ext : CliExternals)

/-- Load the configuration. -/
def load : Command CacheeConfig := do
  let home ← get
  Script.lift (home.loadConfig ext.toml)

/-- Write a configuration in place of the one that is there. -/
def saveConfig (cfg : CacheeConfig) : Command Unit := do
  let tomlStr ← Script.lift (ext.toml.toStringPretty cfg)
  modify fun home => home.writeRoot "config.toml" (asBytes tomlStr)

/-! ### Attestation -/

/-- `cachee attest enable` -/
def attestEnable : Command Unit := do
  let cfg ← load ext
  saveConfig ext { cfg with attestEnabled := true }
  let home ← get
  Script.lift (bailIf ("identity.toml" ∉ home.keys)
    "No PQ identity found. Run `cachee init` first.")

/-- `cachee attest disable` -/
def attestDisable : Command Unit := do
  let cfg ← load ext
  saveConfig ext { cfg with attestEnabled := false }

/-- `cachee tls enable`, which writes the configuration as it is. -/
def tlsEnable : Command Unit := do
  let cfg ← load ext
  saveConfig ext cfg

/-! ### Keys -/

/-- `cachee auth create` -/
def authCreate (now : UInt64) (idBytes : Block 8) (secretBytes : Block 32)
    (label permissions : String) : Command Unit := do
  let created := Cachee.authCreate ext.sha3 now idBytes secretBytes label permissions
  modify fun home => home.writeKey created.fileName (asBytes created.content)

/-- `cachee auth revoke` -/
def authRevoke (keyId : String) : Command Unit := do
  let home ← get
  if s!"apikey-{keyId}.toml" ∈ home.keys then
    modify fun home => home.removeKey s!"apikey-{keyId}.toml"

/-- The text of an identity, with the comments of its header. -/
def identityText (comments keyId : String) : String :=
  s!"# Cachee PQ Identity\n# Generated: {comments}\nkey_id = \"{keyId}\"\n"
    ++ "algorithms = [\"ML-DSA-65\", \"FALCON-512\", \"SLH-DSA\"]\n"

/-- The text between the first two quotes of the first line that starts with a field, or `unknown`.
-/
def extractField (content field : String) : String :=
  ((fieldPart '"' field.toList content.toList).map String.ofList).getD "unknown"

/-- `cachee rotate-keys` -/
def rotateKeys (now : UInt64) (idBytes : Block 16) : Command Unit := do
  let home ← get
  match home.keys.lookup "identity.toml" with
  | none => Script.lift (bail "No PQ identity found. Run `cachee init` first.")
  | some bytes =>
    let oldContent ← Script.lift (fromUtf8 bytes)
    let oldKeyId := extractField oldContent "key_id"
    modify fun home => home.writeKey s!"identity-{oldKeyId}.toml.bak" bytes
    let newKeyId := hexEncode idBytes.1
    modify fun home => home.writeKey "identity.toml"
      (asBytes (identityText s!"{now}\n# Rotated from: {oldKeyId}" newKeyId))

/-- The configuration of an `init`. -/
def initConfig (port : UInt16) (maxKeys : ℕ) (ttl : UInt32) (issuerId : String) : CacheeConfig :=
  { CacheeConfig.default ext.homeName issuerId with
    port := port
    maxKeys := maxKeys
    defaultTtl := ttl }

/-- Write the identity and the keys of an `init`. -/
def initKeys (now nowNs : UInt64) (idBytes : Block 16) (pairs : KeyPairs) : Command Unit := do
  modify fun home => home.writeKey "identity.toml"
    (asBytes (identityText (toString now) (hexEncode idBytes.1)))
  (StoredKeySet.generate ext.sha3 nowNs .production pairs).save ext.metadataJson

/-- `cachee init`, with the key pairs that were made for it. -/
def init (port : UInt16) (maxKeys : ℕ) (ttl : UInt32) (issuerId : String) (now nowNs : UInt64)
    (idBytes : Block 16) (pairs : KeyPairs) : Command Unit := do
  saveConfig ext (initConfig ext port maxKeys ttl issuerId)
  initKeys ext now nowNs idBytes pairs

/-! ### The account -/

/-- `cachee signup` -/
def signup (email : String) (reply : HttpReply SignupResponse) : Command Unit := do
  Script.lift (bailIf (!contains email "@" || !contains email ".")
    s!"Invalid email address: {email}")
  let home ← get
  if (home.loadCredentials ext.credentialsToml).isNone then
    match reply with
    | .failed e => Script.lift (bail e)
    | .refused status body => Script.lift (bail s!"Signup failed ({status}): {body}")
    | .unreadable e => Script.lift (bail e)
    | .ok result =>
      modify fun home => home.writeRoot "pending_signup.toml" (asBytes
        s!"email = \"{result.email}\"\nverification_id = \"{result.verificationId}\"\n")

/-- The text between the first two quotes of the first line that starts with a field. -/
def pendingField (content field : String) : Option String :=
  (fieldPart '"' field.toList content.toList).map String.ofList

/-- Write the credentials in place of those that are there. -/
def saveCredentials (creds : Credentials) : Command Unit := do
  let content ← Script.lift (ext.credentialsToml.toStringPretty creds)
  modify fun home => home.writeRoot "credentials.toml" (asBytes content)

/-- Set the plan of the configuration, if it can be loaded. -/
def savePlan (plan : String) (opsLimit : UInt64) : Command Unit := do
  let home ← get
  match home.loadConfig ext.toml with
  | .ok cfg =>
    saveConfig ext { cfg with plan := { cfg.plan with tier := plan, opsPerMonth := opsLimit } }
  | .error _ => pure ()

/-- `cachee verify`.  The ends of the API key are printed, which panics if it is short. -/
def verify (email : Option String) (reply : HttpReply VerifyResponse) : Command Unit := do
  let home ← get
  let pendingContent := (readToString home.root "pending_signup.toml").getD ""
  Script.lift (bailIf (email.or (pendingField pendingContent "email")).isNone
    "No pending signup found. Run cachee signup --email <email> first")
  Script.lift (bailIf (pendingField pendingContent "verification_id").isNone
    "No verification_id found. Run cachee signup --email <email> first")
  match reply with
  | .failed e => Script.lift (bail e)
  | .refused status body => Script.lift (bail s!"Verification failed ({status}): {body}")
  | .unreadable e => Script.lift (bail e)
  | .ok result =>
    saveCredentials ext ⟨result.apiKey, result.email⟩
    modify fun home => home.removeRoot "pending_signup.toml"
    savePlan ext result.plan result.opsLimit
    let _ ← Script.lift (sliceTo result.apiKey 12)
    let _ ← Script.lift (sliceTo (String.ofList result.apiKey.toList.reverse) 4)

/-- `cachee logout` -/
def logout : Command Unit :=
  modify fun home => home.removeRoot "credentials.toml"

/-! ### The plan -/

/-- The tiers that can be bought. -/
def validTiers : List String :=
  ["payg", "starter", "scale", "institutional", "institutional-plus", "unlimited"]

/-- Set the plan that the web service has reported, and enable attestation if it is paid for. -/
def applyPlan (plan : String) (opsLimit : UInt64) : Command Unit := do
  let cfg ← load ext
  saveConfig ext { cfg with
    plan := { cfg.plan with tier := plan, opsPerMonth := opsLimit }
    attestEnabled := if plan ≠ "free" ∧ plan ≠ "payg" then true else cfg.attestEnabled }

/-- The limit in the first of some replies that reports a tier. -/
def confirmedLimit (tier : String) : List (HttpReply UsageBody) → Option UInt64
  | [] => none
  | reply :: replies =>
    match UsageBody.ofReply reply with
    | some body =>
      if body.plan.getD "free" = tier then some (body.opsLimit.getD 0)
      else confirmedLimit tier replies
    | none => confirmedLimit tier replies

/-- `cachee plan upgrade`, with the replies to the request for the checkout, and to at most 60
questions for the usage. -/
def upgrade (tier : String) (checkout : HttpReply (Option String))
    (polls : List (HttpReply UsageBody)) : Command Unit := do
  let valid := ", ".intercalate validTiers
  Script.lift (bailIf (tier ∉ validTiers) s!"Unknown tier '{tier}'. Valid: {valid}")
  let home ← get
  if (home.loadCredentials ext.credentialsToml).isSome then
    match checkout with
    | .failed e => Script.lift (bail s!"Could not reach cachee.ai: {e}")
    | .refused _ body =>
      let err := (ext.errorField body).getD "Unknown error"
      Script.lift (bail s!"Upgrade failed: {err}")
    | .unreadable _ | .ok none =>
      Script.lift (bail "No checkout URL returned. Contact support@cachee.ai")
    | .ok (some _) =>
      match confirmedLimit tier (polls.take 60) with
      | some opsLimit => applyPlan ext tier opsLimit
      | none => pure ()

/-- `cachee plan sync` -/
def sync (reply : HttpReply UsageBody) : Command Unit := do
  let home ← get
  if (home.loadCredentials ext.credentialsToml).isSome then
    match reply with
    | .failed e => Script.lift (bail s!"Could not reach server: {e}")
    | .refused status _ => Script.lift (bail s!"Server returned {status}")
    | .unreadable _ => applyPlan ext "free" 10000000
    | .ok body => applyPlan ext (body.plan.getD "free") (body.opsLimit.getD 10000000)

end Commands

end Cli

/-! ### Runs of commands -/

/-- A command line, with what it draws at random, the time, and the replies of the web service. -/
inductive CommandLine where
  | init (port : UInt16) (maxKeys : ℕ) (ttl : UInt32) (issuerId : String) (now nowNs : UInt64)
      (idBytes : Block 16) (pairs : KeyPairs)
  | attestEnable
  | attestDisable
  | tlsEnable
  | authCreate (now : UInt64) (idBytes : Block 8) (secretBytes : Block 32) (label permissions : String)
  | authRevoke (keyId : String)
  | rotateKeys (now : UInt64) (idBytes : Block 16)
  | signup (email : String) (reply : HttpReply SignupResponse)
  | verify (email : Option String) (reply : HttpReply VerifyResponse)
  | logout
  | upgrade (tier : String) (checkout : HttpReply (Option String))
      (polls : List (HttpReply UsageBody))
  | sync (reply : HttpReply UsageBody)

/-- The command of a command line. -/
def CommandLine.command (ext : CliExternals) : CommandLine → Command Unit
  | .init port maxKeys ttl issuerId now nowNs idBytes pairs =>
    Cli.init ext port maxKeys ttl issuerId now nowNs idBytes pairs
  | .attestEnable => Cli.attestEnable ext
  | .attestDisable => Cli.attestDisable ext
  | .tlsEnable => Cli.tlsEnable ext
  | .authCreate now idBytes secretBytes label permissions =>
    Cli.authCreate ext now idBytes secretBytes label permissions
  | .authRevoke keyId => Cli.authRevoke keyId
  | .rotateKeys now idBytes => Cli.rotateKeys now idBytes
  | .signup email reply => Cli.signup ext email reply
  | .verify email reply => Cli.verify ext email reply
  | .logout => Cli.logout
  | .upgrade tier checkout polls => Cli.upgrade ext tier checkout polls
  | .sync reply => Cli.sync ext reply

/-- The home directory after a command line, however the command has ended. -/
def Home.after (ext : CliExternals) (home : Home) (line : CommandLine) : Home :=
  (line.command ext).exec home

end Cachee
