import Cachee.Home.Commands

/-!
# What commands write

Whatever a command does, however it ends and whatever the web service replies, it only makes changes
to the home directory that are known for it: it writes or removes certain files, and it writes the
configuration of an `init`, or the one that is there with some fields changed.
-/

namespace Cachee

/-! ### The changes of a command -/

/-- The configuration that an `init` writes. -/
def CommandLine.settings (ext : CliExternals) : CommandLine → Option CacheeConfig
  | .init port maxKeys ttl issuerId _ _ _ _ =>
    some (Cli.initConfig ext port maxKeys ttl issuerId)
  | _ => none

/-- The web service has reported a tier with a limit in reply to a command. -/
def CommandLine.Reports (tier : String) (opsLimit : UInt64) : CommandLine → Prop
  | .verify _ (.ok result) => result.plan = tier ∧ result.opsLimit = opsLimit
  | .upgrade bought (.ok (some _)) polls =>
    bought = tier ∧ tier ∈ Cli.validTiers ∧ ∃ reply ∈ polls, ∃ body,
      UsageBody.ofReply reply = some body ∧ body.plan.getD "free" = tier ∧
        body.opsLimit.getD 0 = opsLimit
  | .sync reply => ∃ body, UsageBody.ofReply reply = some body ∧
      body.plan.getD "free" = tier ∧ body.opsLimit.getD 10000000 = opsLimit
  | _ => False

/-- The web service has reported a tier that is paid for. -/
def CommandLine.ReportsPaid (line : CommandLine) : Prop :=
  ∃ tier opsLimit, line.Reports tier opsLimit ∧ tier ≠ "free" ∧ tier ≠ "payg"

/-- The command may enable attestation. -/
def CommandLine.Enables : CommandLine → Prop
  | .attestEnable => True
  | .upgrade tier checkout polls => (CommandLine.upgrade tier checkout polls).ReportsPaid
  | .sync reply => (CommandLine.sync reply).ReportsPaid
  | _ => False

/-- The names of the files of a key set. -/
def keySetNames : List String :=
  ["mldsa65.pub", "falcon512.pub", "slhdsa128f.pub", "mldsa65.key", "falcon512.key",
    "slhdsa128f.key", "metadata.json"]

/-- The command may write or remove the key file of a name. -/
def CommandLine.Touches (name : String) : CommandLine → Prop
  | .init .. => name = "identity.toml" ∨ name ∈ keySetNames
  | .authCreate _ idBytes _ _ _ => name = s!"apikey-{Text.hexEncode idBytes.1}.toml"
  | .authRevoke keyId => name = s!"apikey-{keyId}.toml"
  | .rotateKeys .. =>
    name = "identity.toml" ∨ ∃ keyId : String, name = s!"identity-{keyId}.toml.bak"
  | _ => False

/-- The command may write or remove the file of a name that is not the configuration. -/
def CommandLine.TouchesAccount (name : String) : CommandLine → Prop
  | .signup .. => name = "pending_signup.toml"
  | .verify .. => name = "pending_signup.toml" ∨ name = "credentials.toml"
  | .logout => name = "credentials.toml"
  | _ => False

theorem CommandLine.TouchesAccount.ne {line : CommandLine} {name : String}
    (h : line.TouchesAccount name) :
  "config.toml" ≠ name
  := by
  have hname : name = "pending_signup.toml" ∨ name = "credentials.toml" := by
    cases line with
    | signup email reply => exact .inl h
    | verify email reply => exact h
    | logout => exact .inr h
    | _ => cases h
  rcases hname with rfl | rfl
  · decide
  · decide

/-- The command may write the configuration: that of an `init`, or the one that is there, with
attestation enabled only if it was or if the command may do so, and with the same plan or one that
was reported in reply to the command. -/
inductive CommandLine.Saves (ext : CliExternals) (home : Home) (line : CommandLine) :
    CacheeConfig → Prop
  | init {cfg : CacheeConfig} (hsettings : line.settings ext = some cfg) : line.Saves ext home cfg
  | attestation {cfg : CacheeConfig} {attestEnabled : Bool}
      (hload : home.loadConfig ext.toml = .ok cfg)
      (hattest : attestEnabled = true → cfg.attestEnabled = true ∨ line.Enables) :
      line.Saves ext home { cfg with attestEnabled := attestEnabled }
  | plan {cfg : CacheeConfig} {tier : String} {opsLimit : UInt64} {attestEnabled : Bool}
      (hload : home.loadConfig ext.toml = .ok cfg) (hreports : line.Reports tier opsLimit)
      (hattest : attestEnabled = true → cfg.attestEnabled = true ∨ line.Enables) :
      line.Saves ext home { cfg with
        plan := { cfg.plan with tier := tier, opsPerMonth := opsLimit }
        attestEnabled := attestEnabled }

/-- A change of the home directory by a command. -/
inductive Home.Change (ext : CliExternals) (line : CommandLine) (home : Home) : Home → Prop
  | writeKey {name : String} (bytes : Bytes) (hname : line.Touches name) :
      Change ext line home (home.writeKey name bytes)
  | removeKey {name : String} (hname : line.Touches name) :
      Change ext line home (home.removeKey name)
  | writeRoot {name : String} (bytes : Bytes) (hname : line.TouchesAccount name) :
      Change ext line home (home.writeRoot name bytes)
  | removeRoot {name : String} (hname : line.TouchesAccount name) :
      Change ext line home (home.removeRoot name)
  | saveConfig {cfg : CacheeConfig} {text : String} (hsaves : line.Saves ext home cfg)
      (hwrite : ext.toml.toStringPretty cfg = .ok text) :
      Change ext line home (home.writeRoot "config.toml" (Text.asBytes text))

namespace Cli

open Script

/-! ### Parts of commands -/

variable {ext : CliExternals} {line : CommandLine} {home : Home} {cfg : CacheeConfig}

/-- Going on with a computation that does not change the home directory is no change. -/
theorem proceeds_lift {α : Type} (x : Outcome α) :
  Proceeds (Home.Change ext line) (lift x) home fun _ _ => True
  := Proceeds.lift fun _ _ => trivial

/-- A file that the command may touch is written or removed. -/
theorem proceeds_writeKey {name : String} (bytes : Bytes) (hname : line.Touches name) :
  Proceeds (Home.Change ext line) (modify fun home => home.writeKey name bytes) home fun _ _ => True
  := Proceeds.modify (.single (.writeKey bytes hname))

theorem proceeds_writeRoot {name : String} (bytes : Bytes) (hname : line.TouchesAccount name) :
  Proceeds (Home.Change ext line) (modify fun home => home.writeRoot name bytes) home
    fun _ _ => True
  := Proceeds.modify (.single (.writeRoot bytes hname))

theorem proceeds_removeRoot {name : String} (hname : line.TouchesAccount name) :
  Proceeds (Home.Change ext line) (modify fun home => home.removeRoot name) home fun _ _ => True
  := Proceeds.modify (.single (.removeRoot hname))

/-- Loading gives the configuration that is there. -/
theorem proceeds_load :
  Proceeds (Home.Change ext line) (load ext) home fun cfg home =>
    home.loadConfig ext.toml = .ok cfg
  := by
  unfold load
  apply Proceeds.bind .get
  rintro _ home rfl
  apply Proceeds.lift
  intro cfg hload
  apply hload

/-- A configuration that the command may write is written. -/
theorem proceeds_saveConfig (hsaves : line.Saves ext home cfg) :
  Proceeds (Home.Change ext line) (saveConfig ext cfg) home fun _ _ => True
  := by
  unfold saveConfig
  apply Proceeds.bind (Q := fun text home' =>
    home' = home ∧ ext.toml.toStringPretty cfg = .ok text)
  · apply Proceeds.lift
    intro text hwrite
    exact ⟨rfl, hwrite⟩
  · rintro text _ ⟨rfl, hwrite⟩
    apply Proceeds.modify (.single (.saveConfig hsaves hwrite))

/-- Key files that the command may touch are written one after another. -/
theorem proceeds_writeKeys {files : List (String × Bytes)}
    (hfiles : ∀ file ∈ files, line.Touches file.1) :
  Proceeds (Home.Change ext line) (modify fun home => home.writeKeys files) home fun _ _ => True
  := by
  apply Proceeds.modify
  induction files generalizing home with
  | nil => exact .refl
  | cons file files ih =>
    have hfirst : Home.Change ext line home (home.writeKey file.1 file.2) :=
      .writeKey file.2 (hfiles file List.mem_cons_self)
    apply Relation.ReflTransGen.head hfirst
    apply ih fun file' hfile' => hfiles file' (List.mem_cons_of_mem _ hfile')

/-- A plan that was reported in reply to the command is set. -/
theorem proceeds_applyPlan {plan : String} {opsLimit : UInt64}
    (hreports : line.Reports plan opsLimit)
    (hattest : plan ≠ "free" → plan ≠ "payg" → line.Enables) :
  Proceeds (Home.Change ext line) (applyPlan ext plan opsLimit) home fun _ _ => True
  := by
  unfold applyPlan
  apply Proceeds.bind proceeds_load
  intro cfg home hload
  apply proceeds_saveConfig
  apply CommandLine.Saves.plan hload hreports
  intro henabled
  split at henabled
  · rename_i hpaid
    right
    apply hattest hpaid.1 hpaid.2
  · left
    apply henabled

/-- The limit that confirms a tier is that of a reply that reports the tier. -/
theorem confirmedLimit_eq_some {tier : String} {replies : List (HttpReply UsageBody)}
    {opsLimit : UInt64} (h : confirmedLimit tier replies = some opsLimit) :
  ∃ reply ∈ replies, ∃ body, UsageBody.ofReply reply = some body ∧
    body.plan.getD "free" = tier ∧ body.opsLimit.getD 0 = opsLimit
  := by
  induction replies with
  | nil => cases h
  | cons reply replies ih =>
    rw [confirmedLimit] at h
    have hlater : confirmedLimit tier replies = some opsLimit →
        ∃ reply' ∈ reply :: replies, ∃ body, UsageBody.ofReply reply' = some body ∧
          body.plan.getD "free" = tier ∧ body.opsLimit.getD 0 = opsLimit := by
      intro hlater
      obtain ⟨reply', hmem, hreply'⟩ := ih hlater
      exact ⟨reply', List.mem_cons_of_mem _ hmem, hreply'⟩
    split at h
    · rename_i body hbody
      split at h
      · rename_i htier
        exact ⟨reply, List.mem_cons_self, body, hbody, htier, Option.some.inj h⟩
      · apply hlater h
    · apply hlater h

/-! ### The commands -/

theorem proceeds_attestEnable :
  Proceeds (Home.Change ext .attestEnable) (attestEnable ext) home fun _ _ => True
  := by
  unfold attestEnable
  apply Proceeds.bind proceeds_load
  intro cfg home hload
  apply Proceeds.bind
  · apply proceeds_saveConfig
    apply CommandLine.Saves.attestation hload
    intro _
    right
    trivial
  · intro _ home _
    apply Proceeds.bind .get
    intro _ home _
    apply proceeds_lift

theorem proceeds_attestDisable :
  Proceeds (Home.Change ext .attestDisable) (attestDisable ext) home fun _ _ => True
  := by
  unfold attestDisable
  apply Proceeds.bind proceeds_load
  intro cfg home hload
  apply proceeds_saveConfig
  apply CommandLine.Saves.attestation hload
  exact nofun

theorem proceeds_tlsEnable :
  Proceeds (Home.Change ext .tlsEnable) (tlsEnable ext) home fun _ _ => True
  := by
  unfold tlsEnable
  apply Proceeds.bind proceeds_load
  intro cfg home hload
  apply proceeds_saveConfig
  apply CommandLine.Saves.attestation hload Or.inl

theorem proceeds_authRevoke (keyId : String) :
  Proceeds (Home.Change ext (.authRevoke keyId)) (authRevoke keyId) home fun _ _ => True
  := by
  unfold authRevoke
  apply Proceeds.bind .get
  intro _ home _
  split
  · apply Proceeds.modify
    exact .single (.removeKey rfl)
  · apply Proceeds.pure trivial

theorem proceeds_rotateKeys (now : UInt64) (idBytes : Block 16) :
  Proceeds (Home.Change ext (.rotateKeys now idBytes)) (rotateKeys now idBytes) home
    fun _ _ => True
  := by
  unfold rotateKeys
  apply Proceeds.bind .get
  intro _ home _
  split
  · apply proceeds_lift
  · apply Proceeds.bind (proceeds_lift _)
    intro oldContent home _
    apply Proceeds.bind
    · apply proceeds_writeKey
      right
      exact ⟨_, rfl⟩
    · intro _ home _
      apply proceeds_writeKey
      left
      rfl

/-- An `init` writes the identity and the key set after the configuration. -/
theorem proceeds_initKeys {port : UInt16} {maxKeys : ℕ} {ttl : UInt32} {issuerId : String}
    (now nowNs : UInt64) (idBytes : Block 16) (pairs : KeyPairs) :
  Proceeds (Home.Change ext (.init port maxKeys ttl issuerId now nowNs idBytes pairs))
    (initKeys ext now nowNs idBytes pairs) home fun _ _ => True
  := by
  unfold initKeys
  apply Proceeds.bind
  · apply proceeds_writeKey
    left
    rfl
  · intro _ home _
    unfold StoredKeySet.save
    apply Proceeds.bind
    · apply proceeds_writeKeys
      intro file hfile
      have hnames : keySetNames
          = (StoredKeySet.generate ext.sha3 nowNs .production pairs).keyFiles.map Prod.fst
            ++ ["metadata.json"] := rfl
      right
      rw [hnames]
      apply List.mem_append_left _ (List.mem_map_of_mem hfile)
    · intro _ home _
      apply Proceeds.bind (proceeds_lift _)
      intro metadataJson home _
      apply proceeds_writeKey
      right
      decide

theorem proceeds_signup (email : String) (reply : HttpReply SignupResponse) :
  Proceeds (Home.Change ext (.signup email reply)) (signup ext email reply) home fun _ _ => True
  := by
  unfold signup
  apply Proceeds.bind (proceeds_lift _)
  intro _ home _
  apply Proceeds.bind .get
  intro _ home _
  split
  · cases reply with
    | failed e => apply proceeds_lift
    | refused status body => apply proceeds_lift
    | unreadable e => apply proceeds_lift
    | ok result =>
      apply proceeds_writeRoot
      exact rfl
  · apply Proceeds.pure trivial

/-- The plan of the reply to a `verify` is set. -/
theorem proceeds_savePlan (email : Option String) (result : VerifyResponse) :
  Proceeds (Home.Change ext (.verify email (.ok result))) (savePlan ext result.plan result.opsLimit)
    home fun _ _ => True
  := by
  unfold savePlan
  apply Proceeds.bind .get
  rintro _ home rfl
  split
  · rename_i cfg hload
    have hreports : (CommandLine.verify email (.ok result)).Reports result.plan result.opsLimit :=
      ⟨rfl, rfl⟩
    apply proceeds_saveConfig
    apply CommandLine.Saves.plan hload hreports Or.inl
  · apply Proceeds.pure trivial

theorem proceeds_saveCredentials (email : Option String) (reply : HttpReply VerifyResponse)
    (creds : Credentials) :
  Proceeds (Home.Change ext (.verify email reply)) (saveCredentials ext creds) home fun _ _ => True
  := by
  unfold saveCredentials
  apply Proceeds.bind (proceeds_lift _)
  intro content home _
  apply proceeds_writeRoot
  right
  rfl

theorem proceeds_verify (email : Option String) (reply : HttpReply VerifyResponse) :
  Proceeds (Home.Change ext (.verify email reply)) (verify ext email reply) home fun _ _ => True
  := by
  unfold verify
  apply Proceeds.bind .get
  intro _ home _
  apply Proceeds.bind (proceeds_lift _)
  intro _ home _
  apply Proceeds.bind (proceeds_lift _)
  intro _ home _
  cases reply with
  | failed e => apply proceeds_lift
  | refused status body => apply proceeds_lift
  | unreadable e => apply proceeds_lift
  | ok result =>
    apply Proceeds.bind (proceeds_saveCredentials _ _ _)
    intro _ home _
    apply Proceeds.bind
    · apply proceeds_removeRoot
      left
      rfl
    · intro _ home _
      apply Proceeds.bind (proceeds_savePlan _ _)
      intro _ home _
      apply Proceeds.bind (proceeds_lift _)
      intro _ home _
      apply Proceeds.bind (proceeds_lift _)
      intro _ home _
      apply Proceeds.pure trivial

theorem proceeds_upgrade (tier : String) (checkout : HttpReply (Option String))
    (polls : List (HttpReply UsageBody)) :
  Proceeds (Home.Change ext (.upgrade tier checkout polls)) (upgrade ext tier checkout polls) home
    fun _ _ => True
  := by
  unfold upgrade
  apply Proceeds.bind (Q := fun _ _ => tier ∈ validTiers)
  · apply Proceeds.lift
    intro _ hvalid
    by_contra hinvalid
    rw [bailIf, if_pos hinvalid] at hvalid
    cases hvalid
  · intro _ home hvalid
    apply Proceeds.bind .get
    intro _ home _
    split
    · cases checkout with
      | failed e => apply proceeds_lift
      | refused status body => apply proceeds_lift
      | unreadable e => apply proceeds_lift
      | ok url =>
        cases url with
        | none => apply proceeds_lift
        | some url =>
          cases hlimit : confirmedLimit tier (polls.take 60) with
          | none => apply Proceeds.pure trivial
          | some opsLimit =>
            obtain ⟨reply, hreply, body, hbody⟩ := confirmedLimit_eq_some hlimit
            have hreports :
                (CommandLine.upgrade tier (.ok (some url)) polls).Reports tier opsLimit :=
              ⟨rfl, hvalid, reply, List.mem_of_mem_take hreply, body, hbody⟩
            apply proceeds_applyPlan hreports
            intro hfree hpaid
            exact ⟨tier, opsLimit, hreports, hfree, hpaid⟩
    · apply Proceeds.pure trivial

theorem proceeds_sync (reply : HttpReply UsageBody) :
  Proceeds (Home.Change ext (.sync reply)) (sync ext reply) home fun _ _ => True
  := by
  unfold sync
  apply Proceeds.bind .get
  intro _ home _
  split
  · cases reply with
    | failed e => apply proceeds_lift
    | refused status body => apply proceeds_lift
    | unreadable e =>
      have hreports : (CommandLine.sync (.unreadable e)).Reports "free" 10000000 :=
        ⟨⟨none, none⟩, rfl, rfl, rfl⟩
      apply proceeds_applyPlan hreports
      intro hfree
      exact absurd rfl hfree
    | ok body =>
      have hreports : (CommandLine.sync (.ok body)).Reports (body.plan.getD "free")
          (body.opsLimit.getD 10000000) := ⟨body, rfl, rfl, rfl⟩
      apply proceeds_applyPlan hreports
      intro hfree hpaid
      exact ⟨_, _, hreports, hfree, hpaid⟩
  · apply Proceeds.pure trivial

/-- A command makes its changes only. -/
theorem proceeds_command (ext : CliExternals) (line : CommandLine) (home : Home) :
  Proceeds (Home.Change ext line) (line.command ext) home fun _ _ => True
  := by
  cases line with
  | init port maxKeys ttl issuerId now nowNs idBytes pairs =>
    apply Proceeds.bind (proceeds_saveConfig (.init rfl))
    intro _ home _
    apply proceeds_initKeys
  | attestEnable => apply proceeds_attestEnable
  | attestDisable => apply proceeds_attestDisable
  | tlsEnable => apply proceeds_tlsEnable
  | authCreate now idBytes secretBytes label permissions =>
    apply proceeds_writeKey
    exact rfl
  | authRevoke keyId => apply proceeds_authRevoke
  | rotateKeys now idBytes => apply proceeds_rotateKeys
  | signup email reply => apply proceeds_signup
  | verify email reply => apply proceeds_verify
  | logout =>
    apply proceeds_removeRoot
    exact rfl
  | upgrade tier checkout polls => apply proceeds_upgrade
  | sync reply => apply proceeds_sync

end Cli

/-- What all changes of a command keep is kept by the command. -/
theorem Home.after_of_change {ext : CliExternals} {line : CommandLine} {P : Home → Prop}
    (hchange : ∀ home home', Home.Change ext line home home' → P home → P home') {home : Home}
    (hhome : P home) :
  P (home.after ext line)
  := (Cli.proceeds_command ext line home).keeps hchange hhome

end Cachee
