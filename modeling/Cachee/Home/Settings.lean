import Cachee.Home.Changes

/-!
# What becomes of the settings

Every command that changes the configuration loads it, changes some fields, and writes it again.  So
the settings of an `init` last until the next one; the plan is that of the `init` or one that the
web service has reported; and attestation is enabled only by a command that may do so.
-/

namespace Cachee

/-! ### Justified configurations -/

/-- The command is an `init`. -/
def CommandLine.IsInit : CommandLine → Prop
  | .init .. => True
  | _ => False

/-- The configuration has the settings of another one: it differs from it in the tier and the limit
of its plan, and in whether attestation is enabled, at most. -/
def CacheeConfig.SameSettings (cfg origin : CacheeConfig) : Prop :=
  { cfg with
    attestEnabled := origin.attestEnabled
    plan := { cfg.plan with
      tier := origin.plan.tier
      opsPerMonth := origin.plan.opsPerMonth } } = origin

/-- The configuration has the settings of another one; its plan is the free one or was reported in
reply to one of the commands; and if it enables attestation, then so may one of the commands. -/
structure CacheeConfig.Justified (cfg origin : CacheeConfig) (lines : List CommandLine) :
    Prop where
  settings : cfg.SameSettings origin
  plan : (cfg.plan.tier = "free" ∧ cfg.plan.opsPerMonth = 10000000) ∨
    ∃ line ∈ lines, line.Reports cfg.plan.tier cfg.plan.opsPerMonth
  attestation : cfg.attestEnabled = true → ∃ line ∈ lines, line.Enables

/-- The configuration file is one that was written for a justified configuration. -/
def Home.Configured (ext : CliExternals) (origin : CacheeConfig) (lines : List CommandLine)
    (home : Home) : Prop :=
  ∃ cfg text, home.root.lookup "config.toml" = some (Text.asBytes text) ∧
    ext.toml.toStringPretty cfg = .ok text ∧ cfg.Justified origin lines

variable {ext : CliExternals} {origin cfg : CacheeConfig} {lines : List CommandLine} {home : Home}

/-- An `init` has settings, and causes nothing else. -/
theorem CommandLine.isInit_of_settings {line : CommandLine} (h : line.settings ext = some cfg) :
  line.IsInit
  := by
  cases line with
  | init port maxKeys ttl issuerId now nowNs idBytes pairs => trivial
  | _ => cases h

theorem CommandLine.Reports.not_isInit {line : CommandLine} {tier : String} {opsLimit : UInt64}
    (h : line.Reports tier opsLimit) :
  ¬ line.IsInit
  := by
  cases line with
  | init port maxKeys ttl issuerId now nowNs idBytes pairs => cases h
  | _ => exact id

theorem CommandLine.Enables.not_isInit {line : CommandLine} (h : line.Enables) :
  ¬ line.IsInit
  := by
  cases line with
  | init port maxKeys ttl issuerId now nowNs idBytes pairs => cases h
  | _ => exact id

/-- The configuration of an `init` is justified without any commands. -/
theorem CacheeConfig.justified_settings {line : CommandLine} (h : line.settings ext = some cfg) :
  cfg.Justified cfg []
  := by
  cases line with
  | init port maxKeys ttl issuerId now nowNs idBytes pairs =>
    obtain rfl := Option.some.inj h
    refine ⟨rfl, ?_, nofun⟩
    left
    exact ⟨rfl, rfl⟩
  | _ => cases h

/-- What is justified by some commands is justified by more, and without the `init`s. -/
theorem CacheeConfig.Justified.mono {lines' : List CommandLine} (h : cfg.Justified origin lines)
    (hlines : ∀ line ∈ lines, ¬ line.IsInit → line ∈ lines') :
  cfg.Justified origin lines'
  := by
  refine ⟨h.settings, ?_, ?_⟩
  · rcases h.plan with hfree | ⟨line, hline, hreports⟩
    · left
      apply hfree
    · right
      exact ⟨line, hlines line hline hreports.not_isInit, hreports⟩
  · intro henabled
    obtain ⟨line, hline, henables⟩ := h.attestation henabled
    exact ⟨line, hlines line hline henables.not_isInit, henables⟩

namespace Home.Configured

theorem mono {lines' : List CommandLine} (h : home.Configured ext origin lines)
    (hlines : ∀ line ∈ lines, ¬ line.IsInit → line ∈ lines') :
  home.Configured ext origin lines'
  := by
  obtain ⟨cfg, text, hfile, hwrite, hcfg⟩ := h
  exact ⟨cfg, text, hfile, hwrite, hcfg.mono hlines⟩

/-- A written configuration is loaded. -/
theorem loadConfig (hread : ext.toml.ReadsBack) (h : home.Configured ext origin lines) :
  ∃ cfg, home.loadConfig ext.toml = .ok cfg ∧ cfg.Justified origin lines
  := by
  obtain ⟨cfg, text, hfile, hwrite, hcfg⟩ := h
  refine ⟨cfg, ?_, hcfg⟩
  rw [Home.loadConfig, hfile]
  simp only [Text.fromUtf8_asBytes, ok_bind]
  apply hread cfg text hwrite

/-- What is loaded is justified. -/
theorem justified (hread : ext.toml.ReadsBack) (h : home.Configured ext origin lines)
    (hload : home.loadConfig ext.toml = .ok cfg) :
  cfg.Justified origin lines
  := by
  obtain ⟨cfg', hload', hcfg⟩ := h.loadConfig hread
  rw [Except.ok.inj (hload.symm.trans hload')]
  apply hcfg

/-- Other files do not matter to the configuration. -/
theorem congr {home' : Home} (h : home.Configured ext origin lines)
    (hroot : home'.root.lookup "config.toml" = home.root.lookup "config.toml") :
  home'.Configured ext origin lines
  := by
  obtain ⟨cfg, text, hfile, hcfg⟩ := h
  exact ⟨cfg, text, hroot.trans hfile, hcfg⟩

/-! ### Changes of the configuration -/

/-- What one of the commands may write is justified, if an `init` among them has the settings. -/
theorem saves (hread : ext.toml.ReadsBack) (h : home.Configured ext origin lines)
    {line : CommandLine} (hline : line ∈ lines)
    (hsettings : ∀ cfg, line.settings ext = some cfg → cfg = origin)
    (hsaves : line.Saves ext home cfg) :
  cfg.Justified origin lines
  := by
  cases hsaves with
  | init hinit =>
    obtain rfl := hsettings cfg hinit
    apply (CacheeConfig.justified_settings hinit).mono nofun
  | attestation hload hattest =>
    have hcfg := h.justified hread hload
    refine ⟨hcfg.settings, hcfg.plan, ?_⟩
    intro henabled
    rcases hattest henabled with hbefore | henables
    · apply hcfg.attestation hbefore
    · exact ⟨line, hline, henables⟩
  | plan hload hreports hattest =>
    have hcfg := h.justified hread hload
    refine ⟨hcfg.settings, .inr ⟨line, hline, hreports⟩, ?_⟩
    intro henabled
    rcases hattest henabled with hbefore | henables
    · apply hcfg.attestation hbefore
    · exact ⟨line, hline, henables⟩

/-- A change by one of the commands leaves a justified configuration. -/
theorem change (hread : ext.toml.ReadsBack) {line : CommandLine} (hline : line ∈ lines)
    (hsettings : ∀ cfg, line.settings ext = some cfg → cfg = origin) {home' : Home}
    (hchange : Home.Change ext line home home') (h : home.Configured ext origin lines) :
  home'.Configured ext origin lines
  := by
  cases hchange with
  | writeKey bytes hname => apply h.congr rfl
  | removeKey hname => apply h.congr rfl
  | writeRoot bytes hname => apply h.congr (AList.lookup_insert_ne hname.ne)
  | removeRoot hname => apply h.congr (AList.lookup_erase_ne hname.ne)
  | saveConfig hsaves hwrite =>
    exact ⟨_, _, AList.lookup_insert _, hwrite, h.saves hread hline hsettings hsaves⟩

/-- A command but an `init` keeps the configuration justified, if it is one of the commands. -/
theorem after (hread : ext.toml.ReadsBack) {line : CommandLine} (hinit : ¬ line.IsInit)
    (hline : line ∈ lines) (h : home.Configured ext origin lines) :
  (home.after ext line).Configured ext origin lines
  := by
  apply Home.after_of_change _ h
  intro home₁ home₂
  apply change hread hline
  intro cfg hsettings
  exact absurd (CommandLine.isInit_of_settings hsettings) hinit

end Home.Configured

/-- Commands that are no `init` keep the configuration justified by those that were run. -/
theorem Home.Configured.foldl (hread : ext.toml.ReadsBack) {later : List CommandLine}
    (hlater : ∀ line ∈ later, ¬ line.IsInit) (h : home.Configured ext origin lines) :
  (later.foldl (Home.after ext) home).Configured ext origin (lines ++ later)
  := by
  have hall : home.Configured ext origin (lines ++ later) :=
    h.mono fun line hline _ => List.mem_append_left later hline
  have hmem : ∀ line ∈ later, line ∈ lines ++ later := by
    intro line hline
    apply List.mem_append_right _ hline
  clear h
  generalize lines ++ later = all at hall hmem
  induction later generalizing home with
  | nil => apply hall
  | cons line later ih =>
    rw [List.foldl_cons]
    apply ih
    · intro line' hline'
      apply hlater line' (List.mem_cons_of_mem _ hline')
    · apply hall.after hread (hlater line List.mem_cons_self) (hmem line List.mem_cons_self)
    · intro line' hline'
      apply hmem line' (List.mem_cons_of_mem _ hline')

/-- The configuration of an `init` in which the tier, the limit and the attestation are changed. -/
def configWith (tier : String) (opsLimit : UInt64) (attestEnabled : Bool) : CacheeConfig :=
  { CacheeConfig.default "/root/.cachee" "node" with
    plan := { Plan.free with tier := tier, opsPerMonth := opsLimit }
    attestEnabled := attestEnabled }

/-- Its text. -/
def configWithText (tier : String) (opsLimit : UInt64) (attestEnabled : Bool) : String :=
  "port = 6380\nmax_keys = 1000000\ndefault_ttl = 3600\nl0_enabled = true\nl0_shards = 64\n"
    ++ s!"l0_max_keys = 100000\nattest_enabled = {attestEnabled}\nmetrics_port = 9090\n"
    ++ "data_dir = \"/root/.cachee\"\nissuer_id = \"node\"\nrequire_auth = false\n\n[plan]\n"
    ++ s!"tier = \"{tier}\"\nops_per_month = {opsLimit}\nrate_per_op = 0.0\nmemory_cap_tb = 0.0\n"
    ++ "overage_per_tb = 0.0\n\n[verification]\nmode = \"trust_cached\"\nsample_rate = 0.01\n"
    ++ "max_age_secs = 3600\nstrict_fingerprint = false\nconflict_policy = \"reject\"\n"
    ++ "read_mode = \"compatible\"\nmode_locked = false\nwrite_policy = \"allow_unsigned\"\n"
    ++ "allow_unsigned_export = false\nallow_unsigned_federation = false\n\n"
    ++ "[verification.overrides]\n"

/-- An account. -/
def plainCredentials : Credentials := ⟨"ck_0123456789", "a@b.c"⟩

/-- Key pairs of equal keys of one byte. -/
def plainPairs (key : UInt8) : KeyPairs := ⟨([key], [key]), ([key], [key]), ([key], [key])⟩

/-- A key set that was generated from them. -/
def generatedKeys (key : UInt8) : StoredKeySet :=
  .generate primeHash 1 .production (plainPairs key)

/-- The text of its metadata. -/
def generatedText (key : UInt8) : String :=
  let keyId := ",\n    ".intercalate ((generatedKeys key).metadata.keyId.1.map toString)
  s!"\x7b\n  \"key_id\": [\n    {keyId}\n  ],\n  \"version\": 1,\n  \"created_at\": 1,\n"
    ++ "  \"last_used_at\": 1,\n  \"expires_at\": null,\n  \"revoked\": false,\n"
    ++ "  \"rotated_from\": null,\n  \"posture\": \"Production\"\n\x7d"

/-- A codec of the metadata of two key sets. -/
def twoKeysJson : TextCodec StoredMetadata :=
  .table [((generatedKeys 1).metadata, generatedText 1),
    ((generatedKeys 2).metadata, generatedText 2)]

/-- The codecs of these configurations, of this account and of the metadata of these key sets. -/
def plainCli : CliExternals where
  sha3 := primeHash
  toml := .table [(configWith "free" 10000000 false, configWithText "free" 10000000 false),
    (configWith "free" 10000000 true, configWithText "free" 10000000 true),
    (configWith "free" 10000 false, configWithText "free" 10000 false),
    (configWith "starter" 5000000 true, configWithText "starter" 5000000 true)]
  credentialsToml := .table [(plainCredentials,
    "api_key = \"ck_0123456789\"\nemail = \"a@b.c\"\n")]
  metadataJson := twoKeysJson
  homeName := "/root/.cachee"
  errorField _ := none

end Cachee
