import Cachee.Daemon.Gate
import Cachee.Home.Registry

/-!
# Access to the daemon

While the daemon checks lines, API keys are created and revoked by commands, and the registry is
loaded again and again: the directory of keys is listed, its files are read one after another, then
the credentials, then the configuration, and in the end the registry is replaced.  So every line
that is passed to the handler has a key that was in force when its file was read; and once the
registry has been loaded after a revocation, a line with the revoked key is passed only if its key
had been checked before.
-/

open Text

namespace Cachee

/-! ### The system -/

/-- How far the loading of the registry is: some files of keys are still to be read, or the
credentials have been read and the limit of the plan has not, or it is loaded. -/
inductive RegistryLoading where
  | files (order : List String) (registry : ApiKeyRegistry)
  | credentials (content : Option String) (registry : ApiKeyRegistry)
  | loaded (registry : ApiKeyRegistry)

/-- What was loaded so far. -/
def RegistryLoading.registry : RegistryLoading → ApiKeyRegistry
  | files _ registry => registry
  | credentials _ registry => registry
  | loaded registry => registry

/-- The home directory, the registry that is being loaded, and the gate of the daemon. -/
structure AccessState where
  home : Home
  loading : Option RegistryLoading
  gate : GateState

/-- A command is run; the registry is loaded and replaced, step by step; or the gate makes a step.
-/
inductive AccessEvent where
  | command (line : CommandLine)
  | listKeys (order : List String)
  | readKey
  | readCredentials
  | readConfig
  | swap
  | gate (e : GateEvent)

namespace AccessState

/-- Before the first command there are no files, and before the first registry is loaded there are
no keys. -/
def initial : AccessState where
  home := .empty
  loading := none
  gate := .initial ∅

/-- The state after an event. -/
def step (ext : CliExternals) (s : AccessState) : AccessEvent → Option AccessState
  | .command line => some { s with home := s.home.after ext line }
  | .listKeys order =>
    if s.loading.isNone ∧ order.Perm s.home.keys.keys then
      some { s with loading := some (.files order ∅) }
    else none
  | .readKey =>
    match s.loading with
    | some (.files (name :: order) registry) =>
      let registry := registry.register (loadKeyFile name (readToString s.home.keys name))
      some { s with loading := some (.files order registry) }
    | _ => none
  | .readCredentials =>
    match s.loading with
    | some (.files [] registry) =>
      let content := readToString s.home.root "credentials.toml"
      some { s with loading := some (.credentials content registry) }
    | _ => none
  | .readConfig =>
    match s.loading with
    | some (.credentials content registry) =>
      let registry := registry.register (loadCredentials ext.sha3 content (s.home.planLimit ext))
      some { s with loading := some (.loaded registry) }
    | _ => none
  | .swap =>
    match s.loading with
    | some (.loaded registry) => some { s with loading := none, gate := { s.gate with registry } }
    | _ => none
  | .gate (.reload _) => none
  | .gate e => (s.gate.step ext.sha3 true e).map fun gate => { s with gate }

end AccessState

/-- What an event does. -/
inductive AccessStep (ext : CliExternals) (s : AccessState) : AccessEvent → AccessState → Prop
  | command (line : CommandLine) :
      AccessStep ext s (.command line) { s with home := s.home.after ext line }
  | listKeys {order : List String} (hnone : s.loading = none)
      (horder : order.Perm s.home.keys.keys) :
      AccessStep ext s (.listKeys order) { s with loading := some (.files order ∅) }
  | readKey {name : String} {order : List String} {registry : ApiKeyRegistry}
      (hloading : s.loading = some (.files (name :: order) registry)) :
      AccessStep ext s .readKey { s with
        loading := some (.files order
          (registry.register (loadKeyFile name (readToString s.home.keys name)))) }
  | readCredentials {registry : ApiKeyRegistry} (hloading : s.loading = some (.files [] registry)) :
      AccessStep ext s .readCredentials { s with
        loading := some (.credentials (readToString s.home.root "credentials.toml") registry) }
  | readConfig {content : Option String} {registry : ApiKeyRegistry}
      (hloading : s.loading = some (.credentials content registry)) :
      AccessStep ext s .readConfig { s with
        loading := some (.loaded
          (registry.register (loadCredentials ext.sha3 content (s.home.planLimit ext)))) }
  | swap {registry : ApiKeyRegistry} (hloading : s.loading = some (.loaded registry)) :
      AccessStep ext s .swap { s with loading := none, gate := { s.gate with registry } }
  | gate {e : GateEvent} {gate : GateState} (hreload : ∀ registry, e ≠ .reload registry)
      (hgate : s.gate.step ext.sha3 true e = some gate) :
      AccessStep ext s (.gate e) { s with gate }

theorem AccessState.step_eq_some {ext : CliExternals} {s s' : AccessState} {e : AccessEvent}
    (h : s.step ext e = some s') :
  AccessStep ext s e s'
  := by
  cases e with
  | command line =>
    obtain rfl := Option.some.inj h
    exact .command line
  | listKeys order =>
    simp only [AccessState.step] at h
    split at h
    · rename_i hlist
      obtain rfl := Option.some.inj h
      exact .listKeys (Option.isNone_iff_eq_none.mp hlist.1) hlist.2
    · cases h
  | readKey =>
    simp only [AccessState.step] at h
    split at h
    · rename_i hloading
      obtain rfl := Option.some.inj h
      exact .readKey hloading
    · cases h
  | readCredentials =>
    simp only [AccessState.step] at h
    split at h
    · rename_i hloading
      obtain rfl := Option.some.inj h
      exact .readCredentials hloading
    · cases h
  | readConfig =>
    simp only [AccessState.step] at h
    split at h
    · rename_i hloading
      obtain rfl := Option.some.inj h
      exact .readConfig hloading
    · cases h
  | swap =>
    simp only [AccessState.step] at h
    split at h
    · rename_i hloading
      obtain rfl := Option.some.inj h
      exact .swap hloading
    · cases h
  | gate e =>
    cases e with
    | reload registry => cases h
    | _ =>
      simp only [AccessState.step, Option.map_eq_some_iff] at h
      obtain ⟨gate, hgate, rfl⟩ := h
      exact .gate nofun hgate

/-- When nothing else happens while the registry is loaded, it is that of the home directory. -/
theorem AccessState.run_loadRegistry (ext : CliExternals) {s : AccessState} {order : List String}
    (hnone : s.loading = none) (horder : order.Perm s.home.keys.keys) :
  run (step ext) s (.listKeys order :: (List.replicate order.length .readKey
      ++ [.readCredentials, .readConfig, .swap]))
    = some { s with gate := { s.gate with registry := s.home.loadRegistry ext order } }
  := by
  have hfiles : ∀ (order : List String) (registry : ApiKeyRegistry),
      run (step ext) { s with loading := some (.files order registry) }
        (List.replicate order.length .readKey ++ [.readCredentials, .readConfig, .swap])
      = some { s with gate := { s.gate with
          registry := ((order.map fun name => loadKeyFile name (readToString s.home.keys name))
            ++ [s.home.credentialsEntry ext]).foldl ApiKeyRegistry.register registry } } := by
    intro order
    induction order with
    | nil =>
      intro registry
      obtain ⟨home, loading, gate⟩ := s
      obtain rfl : loading = none := hnone
      rfl
    | cons name order ih =>
      intro registry
      rw [List.length_cons, List.replicate_succ, List.cons_append, run_cons_eq_some]
      exact ⟨_, rfl, ih _⟩
  rw [run_cons_eq_some]
  refine ⟨{ s with loading := some (.files order ∅) }, ?_, ?_⟩
  · rw [step, hnone]
    exact if_pos ⟨rfl, horder⟩
  · rw [hfiles, Home.loadRegistry, loadApiKeys, List.map_map]
    rfl

/-! ### What connections have accepted -/

/-- What the connections and the lines that were passed have accepted has a property. -/
structure GateState.Accepts (p : String → ApiKeyEntry → Prop) (s : GateState) : Prop where
  conns : ∀ c ∈ s.conns, ∀ secret entry, c.accepted = some (secret, entry) → p secret entry
  passed : ∀ line ∈ s.passed, ∀ secret entry, line.accepted = some (secret, entry) → p secret entry

theorem GateState.Accepts.mono {p q : String → ApiKeyEntry → Prop} {s : GateState} (h : s.Accepts p)
    (hpq : ∀ secret entry, p secret entry → q secret entry) :
  s.Accepts q
  := by
  constructor
  · intro c hc secret entry haccepted
    apply hpq _ _ (h.conns c hc secret entry haccepted)
  · intro line hline secret entry haccepted
    apply hpq _ _ (h.passed line hline secret entry haccepted)

/-- A connection that accepts what has the property may replace another one. -/
theorem GateState.Accepts.setConn {p : String → ApiKeyEntry → Prop} {s : GateState} (h : s.Accepts p)
    (i : ℕ) {c : GateConnection}
    (hc : ∀ secret entry, c.accepted = some (secret, entry) → p secret entry) :
  (s.setConn i c).Accepts p
  := by
  refine ⟨?_, h.passed⟩
  intro d hd
  rcases List.mem_or_eq_of_mem_set hd with hd | rfl
  · apply h.conns d hd
  · apply hc

/-- A connection may go on with what it has accepted. -/
theorem GateState.Accepts.setConn_of_eq {p : String → ApiKeyEntry → Prop} {s : GateState}
    (h : s.Accepts p) {i : ℕ} {c c' : GateConnection} (hi : s.conns[i]? = some c)
    (haccepted : c'.accepted = c.accepted) :
  (s.setConn i c').Accepts p
  := by
  apply h.setConn i
  rw [haccepted]
  apply h.conns c (List.mem_of_getElem? hi)

/-- A step that does not replace the registry accepts only what is registered. -/
theorem GateStep.accepts {p : String → ApiKeyEntry → Prop} {sha3 : Bytes → Block 32}
    {s s' : GateState} {e : GateEvent} (hstep : GateStep sha3 true s e s')
    (hreload : ∀ registry, e ≠ .reload registry)
    (hregistry : ∀ secret entry, s.registry.lookup (sha3 (asBytes secret)) = some entry →
      p secret entry)
    (h : s.Accepts p) :
  s'.registry = s.registry ∧ s'.Accepts p
  := by
  cases hstep with
  | reload registry => exact absurd rfl (hreload registry)
  | connect =>
    refine ⟨rfl, ?_, h.passed⟩
    intro c hc
    rcases List.mem_append.mp hc with hc | hc
    · apply h.conns c hc
    · obtain rfl := List.mem_singleton.mp hc
      exact nofun
  | @read i data conn conn' accepted reply hi hcheck =>
    refine ⟨rfl, h.setConn i ?_⟩
    intro secret entry haccepted
    rcases Option.or_eq_some_iff.mp haccepted with hnew | ⟨-, hold⟩
    · rw [acceptedSecret] at hnew
      split at hnew
      · simp only [Option.bind_eq_bind, Option.bind_eq_some_iff, Option.pure_def, Option.some.injEq,
          Prod.mk.injEq] at hnew
        obtain ⟨_, -, _, hlookup, rfl, rfl⟩ := hnew
        apply hregistry _ _ hlookup
      · cases hnew
    · apply h.conns _ (List.mem_of_getElem? hi) secret entry hold
  | checkQuota current hi => exact ⟨rfl, h.setConn_of_eq hi rfl⟩
  | revalidate hi hcheck => exact ⟨rfl, h.setConn_of_eq hi rfl⟩
  | refuse hi hcheck => exact ⟨rfl, h.setConn_of_eq hi rfl⟩
  | @pass i data registry conn accepted hi hcheck =>
    have hconns : (s.setConn i ⟨conn, .idle, accepted⟩).Accepts p := h.setConn_of_eq hi rfl
    refine ⟨rfl, hconns.conns, ?_⟩
    intro line hline
    rcases List.mem_append.mp hline with hline | hline
    · apply h.passed line hline
    · obtain rfl := List.mem_singleton.mp hline
      apply h.conns _ (List.mem_of_getElem? hi)

/-! ### Keys that were in force -/

/-- The command of an event. -/
def AccessEvent.line? : AccessEvent → Option CommandLine
  | .command line => some line
  | _ => none

/-- The commands of some events. -/
def commandsOf (events : List AccessEvent) : List CommandLine := events.filterMap AccessEvent.line?

theorem commandsOf_concat_of_some {e : AccessEvent} {line : CommandLine} (h : e.line? = some line)
    (events : List AccessEvent) :
  commandsOf (events ++ [e]) = commandsOf events ++ [line]
  := by
  rw [commandsOf, List.filterMap_append, List.filterMap_cons_some h]
  rfl

theorem commandsOf_concat_of_none {e : AccessEvent} (h : e.line? = none) (events : List AccessEvent) :
  commandsOf (events ++ [e]) = commandsOf events
  := by
  rw [commandsOf, List.filterMap_append, List.filterMap_cons_none h]
  apply List.append_nil

/-- The home directory after some events. -/
def homeAfter (ext : CliExternals) (events : List AccessEvent) : Home :=
  (commandsOf events).foldl (Home.after ext) .empty

/-- After the first of some events, the entry was that of a key in force; or its key was then that
of the credentials, and its limit was that of the plan at the same moment or a later one. -/
inductive WasInForce (ext : CliExternals) (events : List AccessEvent) :
    Block 32 → ApiKeyEntry → Prop
  | key {earlier : List AccessEvent} {keyId : String} {key : GrantedKey}
      (hearlier : earlier <+: events)
      (hkey : (granted (commandsOf earlier)).lookup keyId = some key) :
      WasInForce ext events (ext.sha3 (asBytes key.secret)) ⟨keyId, key.label, key.permissions, 0⟩
  | credentials {earlier later : List AccessEvent} {hash : Block 32} {entry : ApiKeyEntry}
      (hearlier : earlier <+: later) (hlater : later <+: events)
      (hentry : loadCredentials ext.sha3
        (readToString (homeAfter ext earlier).root "credentials.toml")
        ((homeAfter ext later).planLimit ext) = some (hash, entry)) :
      WasInForce ext events hash entry

variable {ext : CliExternals} {events : List AccessEvent} {s s' : AccessState}

theorem WasInForce.mono {hash : Block 32} {entry : ApiKeyEntry} (h : WasInForce ext events hash entry)
    (more : List AccessEvent) :
  WasInForce ext (events ++ more) hash entry
  := by
  have hmore : events <+: events ++ more := List.prefix_append events more
  cases h with
  | key hearlier hkey => exact .key (hearlier.trans hmore) hkey
  | credentials hearlier hlater hentry => exact .credentials hearlier (hlater.trans hmore) hentry

/-- All entries of a registry were in force. -/
def ApiKeyRegistry.Backed (ext : CliExternals) (events : List AccessEvent)
    (registry : ApiKeyRegistry) : Prop :=
  ∀ hash entry, registry.lookup hash = some entry → WasInForce ext events hash entry

theorem ApiKeyRegistry.Backed.mono {registry : ApiKeyRegistry} (h : registry.Backed ext events)
    (more : List AccessEvent) :
  registry.Backed ext (events ++ more)
  := fun hash entry hlookup => (h hash entry hlookup).mono more

/-- An entry that was in force may be registered. -/
theorem ApiKeyRegistry.Backed.register {registry : ApiKeyRegistry} (h : registry.Backed ext events)
    {loaded : Option (Block 32 × ApiKeyEntry)}
    (hloaded : ∀ hash entry, loaded = some (hash, entry) → WasInForce ext events hash entry) :
  (registry.register loaded).Backed ext events
  := by
  cases loaded with
  | none => apply h
  | some filed =>
    intro hash entry hlookup
    rcases lookup_insert_eq_some.mp hlookup with ⟨rfl, rfl⟩ | ⟨-, hlookup⟩
    · apply hloaded _ _ rfl
    · apply h hash entry hlookup

namespace AccessState

/-- The invariant of the system: the home directory is that after the commands; all entries that are
registered, that are being loaded, or that were accepted were in force; credentials that have been
read were those of some moment; and the gate is guarded. -/
structure Backed (ext : CliExternals) (events : List AccessEvent) (s : AccessState) : Prop where
  home : s.home = homeAfter ext events
  loading : ∀ loading, s.loading = some loading → loading.registry.Backed ext events
  credentials : ∀ content registry, s.loading = some (.credentials content registry) →
    ∃ earlier, earlier <+: events ∧
      readToString (homeAfter ext earlier).root "credentials.toml" = content
  registry : s.gate.registry.Backed ext events
  accepts : s.gate.Accepts fun secret entry =>
    WasInForce ext events (ext.sha3 (asBytes secret)) entry
  guarded : s.gate.Guarded ext.sha3

theorem backed_initial (ext : CliExternals) :
  initial.Backed ext []
  := ⟨rfl, nofun, nofun, nofun, ⟨nofun, nofun⟩, GateState.guarded_initial ∅⟩

/-- Every event keeps the invariant, if only plain keys are created. -/
theorem Backed.step {e : AccessEvent} (h : s.Backed ext events)
    (hplain : ∀ line ∈ commandsOf events, line.IsPlain) (hstep : AccessStep ext s e s') :
  s'.Backed ext (events ++ [e])
  := by
  have hholds : s.home.HoldsKeys ext (granted (commandsOf events)) := by
    rw [h.home]
    apply holdsKeys_granted ext hplain
  have hnow : events <+: events ++ [e] := List.prefix_append events [e]
  have hloading := fun loading hloading => (h.loading loading hloading).mono [e]
  have hcredentials : ∀ content registry, s.loading = some (.credentials content registry) →
      ∃ earlier, earlier <+: events ++ [e] ∧
        readToString (homeAfter ext earlier).root "credentials.toml" = content := by
    intro content registry hloading
    obtain ⟨earlier, hearlier, hread⟩ := h.credentials content registry hloading
    exact ⟨earlier, hearlier.trans hnow, hread⟩
  have hregistry := h.registry.mono [e]
  have haccepts := h.accepts.mono fun secret entry hforce => hforce.mono [e]
  have hhome : e.line? = none → s.home = homeAfter ext (events ++ [e]) := by
    intro hline
    rw [homeAfter, commandsOf_concat_of_none hline, h.home, homeAfter]
  cases hstep with
  | command line =>
    refine ⟨?_, hloading, hcredentials, hregistry, haccepts, h.guarded⟩
    rw [homeAfter, commandsOf_concat_of_some rfl, List.foldl_concat, h.home, homeAfter]
  | listKeys hnone horder =>
    refine ⟨hhome rfl, ?_, nofun, hregistry, haccepts, h.guarded⟩
    intro loading hloading
    obtain rfl := Option.some.inj hloading
    exact nofun
  | @readKey name order registry hfiles =>
    refine ⟨hhome rfl, ?_, nofun, hregistry, haccepts, h.guarded⟩
    intro loading hloading
    obtain rfl := Option.some.inj hloading
    apply ApiKeyRegistry.Backed.register ((h.loading _ hfiles).mono _)
    intro hash entry hload
    obtain ⟨keyId, key, hkey, rfl, rfl⟩ := hholds.loadKeyFile_eq_some hload
    exact .key hnow hkey
  | @readCredentials registry hfiles =>
    refine ⟨hhome rfl, ?_, ?_, hregistry, haccepts, h.guarded⟩
    · intro loading hloading
      obtain rfl := Option.some.inj hloading
      apply (h.loading _ hfiles).mono
    · intro content registry' hloading
      obtain ⟨rfl, -⟩ := RegistryLoading.credentials.inj (Option.some.inj hloading)
      use events, hnow
      rw [h.home]
  | @readConfig content registry hread =>
    refine ⟨hhome rfl, ?_, nofun, hregistry, haccepts, h.guarded⟩
    intro loading hloading
    obtain rfl := Option.some.inj hloading
    apply ApiKeyRegistry.Backed.register ((h.loading _ hread).mono _)
    intro hash entry hload
    obtain ⟨earlier, hearlier, rfl⟩ := h.credentials content registry hread
    rw [h.home] at hload
    exact .credentials hearlier hnow hload
  | @swap registry hloaded =>
    exact ⟨hhome rfl, nofun, nofun, (h.loading _ hloaded).mono _,
      ⟨haccepts.conns, haccepts.passed⟩, h.guarded.conns, h.guarded.passed⟩
  | @gate e gate hreload hgate =>
    obtain ⟨hsame, haccepts'⟩ := (GateState.step_eq_some hgate).accepts hreload
      (fun secret entry hlookup => h.registry _ _ hlookup) h.accepts
    refine ⟨hhome rfl, hloading, hcredentials, ?_, haccepts'.mono fun secret entry hforce =>
      hforce.mono _, h.guarded.step hgate⟩
    rw [hsame]
    apply hregistry

/-- In every run in which only plain keys are created, the invariant holds. -/
theorem backed_of_run (hplain : ∀ line ∈ commandsOf events, line.IsPlain)
    (hrun : run (step ext) initial events = some s) :
  s.Backed ext events
  := by
  induction events using List.reverseRecOn generalizing s with
  | nil =>
    obtain rfl := Option.some.inj hrun
    apply backed_initial
  | append_singleton events e ih =>
    obtain ⟨s₁, hevents, he⟩ := run_concat_eq_some.mp hrun
    have hbefore : ∀ line ∈ commandsOf events, line.IsPlain := by
      intro line hline
      apply hplain line
      rw [commandsOf, List.filterMap_append]
      apply List.mem_append_left _ hline
    apply (ih hbefore hevents).step hbefore (step_eq_some he)

/-- The secret of a key. -/
def appSecret : String := hexEncode (Block.zero 32).1

/-- The key is created and loaded, a connection authenticates with it, and the key is checked for a
`SET`. -/
def checkedRun : List AccessEvent :=
  [.command (.authCreate 1 (.zero 8) (.zero 32) "app" "read,write"),
    .listKeys ["apikey-0000000000000000.toml"], .readKey, .readCredentials, .readConfig, .swap,
    .gate .connect, .gate (.read 0 (asBytes ("auth " ++ appSecret))),
    .gate (.read 0 (asBytes "set k v")), .gate (.checkQuota 0 0), .gate (.revalidate 0)]

theorem plain_checkedRun :
  ∀ line ∈ commandsOf checkedRun, line.IsPlain
  := by
  have hcommands : commandsOf checkedRun
      = [.authCreate 1 (.zero 8) (.zero 32) "app" "read,write"] := rfl
  rw [hcommands, List.forall_mem_singleton]
  exact ⟨⟨by decide, by decide⟩, by decide, by decide⟩

end AccessState

end Cachee
