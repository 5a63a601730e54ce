import Cachee.Home.Access

/-!
# What follows a revocation

Once the registry has been loaded without the hash of a key, the check of the key refuses every line
of a connection that has accepted it.  Only lines whose check came before may still be passed: at
most one for each connection.
-/

open Text

namespace Cachee

/-! ### Lines of a key -/

/-- The line was passed with a secret of a hash. -/
def PassedLine.uses (sha3 : Bytes → Block 32) (hash : Block 32) (line : PassedLine) : Bool :=
  line.accepted.any fun accepted => sha3 (asBytes accepted.1) = hash

/-- The connections of the lines that were passed with secrets of a hash. -/
def connectionsOf (sha3 : Bytes → Block 32) (hash : Block 32) (lines : List PassedLine) : List ℕ :=
  (lines.filter (PassedLine.uses sha3 hash)).map PassedLine.connection

theorem connectionsOf_concat (sha3 : Bytes → Block 32) (hash : Block 32) (lines : List PassedLine)
    (line : PassedLine) :
  connectionsOf sha3 hash (lines ++ [line])
    = connectionsOf sha3 hash lines ++ if line.uses sha3 hash then [line.connection] else []
  := by
  rw [connectionsOf, List.filter_append, List.map_append, ← connectionsOf]
  cases h : line.uses sha3 hash with
  | true => simp [h]
  | false => simp [h]

namespace GateState

variable {sha3 : Bytes → Block 32} {hash : Block 32} {origin s s' : GateState}
  {later : List PassedLine} {e : GateEvent}

/-- The key of the hash is not registered; of the lines that were passed later than in the state
`origin`, those of the key are of different connections, whose lines had been checked in this state;
and what is still checked with the key has been so since then. -/
structure StaleSince (sha3 : Bytes → Block 32) (hash : Block 32) (origin : GateState)
    (later : List PassedLine) (s : GateState) : Prop where
  registry : hash ∉ s.registry
  passed : s.passed = origin.passed ++ later
  nodup : (connectionsOf sha3 hash later).Nodup
  checked : ∀ line ∈ later, line.uses sha3 hash = true → ∃ conn, origin.conns[line.connection]?
    = some ⟨conn, .validated line.data line.registry, line.accepted⟩
  waiting : ∀ i conn data registry accepted,
    s.conns[i]? = some ⟨conn, .validated data registry, accepted⟩ → hash ∈ registry →
      origin.conns[i]? = some ⟨conn, .validated data registry, accepted⟩ ∧
        i ∉ connectionsOf sha3 hash later

/-- After a connection is replaced, it is the new one, and the others are as before. -/
theorem getElem?_setConn {i j : ℕ} {c d : GateConnection} (h : (s.setConn i c).conns[j]? = some d) :
  j = i ∧ d = c ∨ j ≠ i ∧ s.conns[j]? = some d
  := by
  rw [setConn, List.getElem?_set] at h
  split at h
  · rename_i heq
    split at h
    · left
      exact ⟨heq.symm, (Option.some.inj h).symm⟩
    · cases h
  · rename_i hne
    right
    exact ⟨fun heq => hne heq.symm, h⟩

/-- A connection whose line is not checked with the key may replace another one. -/
theorem StaleSince.setConn (h : StaleSince sha3 hash origin later s) (i : ℕ) {c : GateConnection}
    (hc : ∀ data registry, c.phase = .validated data registry → hash ∉ registry) :
  StaleSince sha3 hash origin later (s.setConn i c)
  := by
  refine ⟨h.registry, h.passed, h.nodup, h.checked, ?_⟩
  intro j conn data registry accepted hj hmem
  rcases getElem?_setConn hj with ⟨rfl, rfl⟩ | ⟨-, hj⟩
  · exact absurd hmem (hc data registry rfl)
  · apply h.waiting j conn data registry accepted hj hmem

/-- A line that is passed with the key was checked in the state `origin`, and is the first of its
connection. -/
theorem StaleSince.pass (h : StaleSince sha3 hash origin later s) {i : ℕ} {conn : ConnState}
    {data : Bytes} {registry : ApiKeyRegistry} {accepted : Option (String × ApiKeyEntry)}
    (hi : s.conns[i]? = some ⟨conn, .validated data registry, accepted⟩)
    (hvalid : GateConnection.Valid sha3 ⟨conn, .validated data registry, accepted⟩) :
  StaleSince sha3 hash origin (later ++ [⟨i, data, accepted, registry⟩])
    { s.setConn i ⟨conn, .idle, accepted⟩ with
      passed := s.passed ++ [⟨i, data, accepted, registry⟩] }
  := by
  have hkey : PassedLine.uses sha3 hash ⟨i, data, accepted, registry⟩ = true →
      origin.conns[i]? = some ⟨conn, .validated data registry, accepted⟩ ∧
        i ∉ connectionsOf sha3 hash later := by
    intro huses
    obtain ⟨secret, entry, hkey, hmem⟩ := hvalid
    obtain rfl : accepted = some (secret, entry) := hkey.accepted
    have hhash : sha3 (asBytes secret) = hash := by simpa [PassedLine.uses] using huses
    rw [hhash] at hmem
    apply h.waiting i conn data registry _ hi hmem
  constructor
  · apply h.registry
  · rw [h.passed, List.append_assoc]
  · rw [connectionsOf_concat]
    split
    · rename_i huses
      rw [List.nodup_append]
      refine ⟨h.nodup, List.nodup_singleton i, ?_⟩
      intro j hj j' hj'
      obtain rfl := List.mem_singleton.mp hj'
      rintro rfl
      apply (hkey huses).2 hj
    · rw [List.append_nil]
      apply h.nodup
  · intro line hline huses
    rcases List.mem_append.mp hline with hline | hline
    · apply h.checked line hline huses
    · obtain rfl := List.mem_singleton.mp hline
      exact ⟨conn, (hkey huses).1⟩
  · intro j conn' data' registry' accepted' hj hmem
    rcases getElem?_setConn hj with ⟨-, hidle⟩ | ⟨hne, hj⟩
    · cases hidle
    · obtain ⟨horigin, hnot⟩ := h.waiting j conn' data' registry' accepted' hj hmem
      refine ⟨horigin, ?_⟩
      rw [connectionsOf_concat, List.mem_append, not_or]
      refine ⟨hnot, ?_⟩
      split
      · rw [List.mem_singleton]
        apply hne
      · exact List.not_mem_nil

/-- A step that does not replace the registry passes at most one line of the key for each
connection. -/
theorem StaleSince.step (h : StaleSince sha3 hash origin later s) (hguarded : s.Guarded sha3)
    (hreload : ∀ registry, e ≠ .reload registry) (hstep : GateStep sha3 true s e s') :
  ∃ more, StaleSince sha3 hash origin (later ++ more) s'
  := by
  cases hstep with
  | reload registry => exact absurd rfl (hreload registry)
  | connect =>
    use []
    rw [List.append_nil]
    refine ⟨h.registry, h.passed, h.nodup, h.checked, ?_⟩
    intro i conn data registry accepted hi hmem
    rw [List.getElem?_append] at hi
    split at hi
    · apply h.waiting i conn data registry accepted hi hmem
    · cases List.mem_singleton.mp (List.mem_of_getElem? hi)
  | read hi hcheck =>
    use []
    rw [List.append_nil]
    apply h.setConn
    intro data registry hphase
    dsimp only at hphase
    split at hphase
    · cases hphase
    · cases hphase
  | checkQuota current hi =>
    use []
    rw [List.append_nil]
    apply h.setConn
    intro data registry hphase
    dsimp only at hphase
    split at hphase
    · cases hphase
    · cases hphase
  | revalidate hi hcheck =>
    use []
    rw [List.append_nil]
    apply h.setConn
    intro data registry hphase
    dsimp only at hphase
    split at hphase
    · cases hphase
    · obtain ⟨-, rfl⟩ := GatePhase.validated.inj hphase
      apply h.registry
  | refuse hi hcheck =>
    use []
    rw [List.append_nil]
    apply h.setConn
    exact nofun
  | @pass i data registry conn accepted hi hcheck =>
    exact ⟨_, h.pass hi (hguarded.conns _ (List.mem_of_getElem? hi))⟩

end GateState

/-! ### Loading the registry after a revocation -/

variable {ext : CliExternals} {hash : Block 32} {s s' : AccessState} {e : AccessEvent}
  {origin : GateState} {later : List PassedLine}

/-- No key in force has a secret of the hash. -/
def Home.Unfiled (ext : CliExternals) (hash : Block 32) (home : Home) : Prop :=
  ∃ keys, home.HoldsKeys ext keys ∧
    ∀ keyId key, keys.lookup keyId = some key → ext.sha3 (asBytes (GrantedKey.secret key)) ≠ hash

/-- The command creates no key with a secret of the hash. -/
def CommandLine.Spares (ext : CliExternals) (hash : Block 32) : CommandLine → Prop
  | .authCreate _ _ secretBytes _ _ => ext.sha3 (asBytes (hexEncode secretBytes.1)) ≠ hash
  | _ => True

/-- The event is not a command that creates a key with a secret of the hash, or a key that is not
plain; and if the credentials are read, then their key has another hash. -/
def KeepsUnfiled (ext : CliExternals) (hash : Block 32) (s : AccessState) : AccessEvent → Prop
  | .command line => line.IsPlain ∧ line.Spares ext hash
  | .readCredentials => ∀ entry, s.home.credentialsEntry ext ≠ some (hash, entry)
  | _ => True

theorem Home.Unfiled.after {home : Home} {line : CommandLine} (h : home.Unfiled ext hash)
    (hplain : line.IsPlain) (hspares : line.Spares ext hash) :
  (home.after ext line).Unfiled ext hash
  := by
  obtain ⟨keys, hholds, hother⟩ := h
  refine ⟨line.grant keys, hholds.after hplain, ?_⟩
  intro keyId key hkey
  cases line with
  | authCreate now idBytes secretBytes label permissions =>
    rcases lookup_insert_eq_some.mp hkey with ⟨-, rfl⟩ | ⟨-, hkey⟩
    · apply hspares
    · apply hother keyId key hkey
  | authRevoke revoked => apply hother keyId key (lookup_erase_eq_some.mp hkey).2
  | _ => apply hother keyId key hkey

/-- A registry stays without the hash when something else is registered. -/
theorem not_mem_register {registry : ApiKeyRegistry} (h : hash ∉ registry)
    {loaded : Option (Block 32 × ApiKeyEntry)} (hloaded : ∀ entry, loaded ≠ some (hash, entry)) :
  hash ∉ registry.register loaded
  := by
  cases loaded with
  | none => apply h
  | some filed =>
    intro hmem
    rcases (AList.mem_insert _).mp hmem with rfl | hmem
    · apply hloaded _ rfl
    · apply h hmem

namespace AccessState

/-- The hash is neither filed nor being loaded, nor is it that of the credentials that were read. -/
structure Revoking (ext : CliExternals) (hash : Block 32) (s : AccessState) : Prop where
  unfiled : s.home.Unfiled ext hash
  loading : ∀ loading, s.loading = some loading → hash ∉ loading.registry
  credentials : ∀ content registry, s.loading = some (.credentials content registry) →
    ∀ limit entry, loadCredentials ext.sha3 content limit ≠ some (hash, entry)

/-- A hash that is neither filed nor being loaded remains so. -/
theorem Revoking.step (h : s.Revoking ext hash) (hcond : KeepsUnfiled ext hash s e)
    (hstep : AccessStep ext s e s') :
  s'.Revoking ext hash
  := by
  cases hstep with
  | command line => exact ⟨h.unfiled.after hcond.1 hcond.2, h.loading, h.credentials⟩
  | listKeys hnone horder =>
    refine ⟨h.unfiled, ?_, nofun⟩
    intro loading hloading
    obtain rfl := Option.some.inj hloading
    exact AList.notMem_empty hash
  | readKey hfiles =>
    refine ⟨h.unfiled, ?_, nofun⟩
    intro loading hloading
    obtain rfl := Option.some.inj hloading
    apply not_mem_register (h.loading _ hfiles)
    intro entry hload
    obtain ⟨keys, hholds, hother⟩ := h.unfiled
    obtain ⟨keyId, key, hkey, hhash, -⟩ := hholds.loadKeyFile_eq_some hload
    apply hother keyId key hkey hhash.symm
  | readCredentials hfiles =>
    refine ⟨h.unfiled, ?_, ?_⟩
    · intro loading hloading
      obtain rfl := Option.some.inj hloading
      apply h.loading _ hfiles
    · intro content registry hloading limit entry hentry
      obtain ⟨rfl, -⟩ := RegistryLoading.credentials.inj (Option.some.inj hloading)
      -- Only the limit depends on the configuration, which is read later.
      obtain ⟨entry', hentry'⟩ := exists_loadCredentials hentry (s.home.planLimit ext)
      apply hcond entry' hentry'
  | readConfig hread =>
    refine ⟨h.unfiled, ?_, nofun⟩
    intro loading hloading
    obtain rfl := Option.some.inj hloading
    apply not_mem_register (h.loading _ hread)
    apply h.credentials _ _ hread
  | swap hloaded => exact ⟨h.unfiled, nofun, nofun⟩
  | gate hreload hgate => exact ⟨h.unfiled, h.loading, h.credentials⟩

/-- The hash is neither filed nor being loaded, and its key is stale. -/
structure Revoked (ext : CliExternals) (hash : Block 32) (origin : GateState)
    (later : List PassedLine) (s : AccessState) : Prop extends s.Revoking ext hash where
  guarded : s.gate.Guarded ext.sha3
  stale : GateState.StaleSince ext.sha3 hash origin later s.gate

/-- A key that is stale remains so, and at most one line of it is passed for each connection. -/
theorem Revoked.step (h : s.Revoked ext hash origin later) (hcond : KeepsUnfiled ext hash s e)
    (hstep : AccessStep ext s e s') :
  ∃ more, s'.Revoked ext hash origin (later ++ more)
  := by
  have hrevoking := h.toRevoking.step hcond hstep
  cases hstep with
  | swap hloaded =>
    use []
    rw [List.append_nil]
    refine ⟨hrevoking, ⟨h.guarded.conns, h.guarded.passed⟩, ?_⟩
    exact ⟨h.loading _ hloaded, h.stale.passed, h.stale.nodup, h.stale.checked, h.stale.waiting⟩
  | gate hreload hgate =>
    obtain ⟨more, hstale⟩ := h.stale.step h.guarded hreload (GateState.step_eq_some hgate)
    exact ⟨more, hrevoking, h.guarded.step hgate, hstale⟩
  | _ =>
    use []
    rw [List.append_nil]
    exact ⟨hrevoking, h.guarded, h.stale⟩

/-- While no key with the hash is created, a stale key remains so. -/
theorem Revoked.of_run {events : List AccessEvent} (h : s.Revoked ext hash origin later)
    (hcond : MeetsAlong (AccessState.step ext) (KeepsUnfiled ext hash) s events)
    (hrun : run (AccessState.step ext) s events = some s') :
  ∃ more, s'.Revoked ext hash origin (later ++ more)
  := by
  have hfirst : ∃ more, s.Revoked ext hash origin (later ++ more) := by
    use []
    rw [List.append_nil]
    apply h
  have hkeeps : ∀ s₁ e s₂, (∃ more, s₁.Revoked ext hash origin (later ++ more)) →
      KeepsUnfiled ext hash s₁ e → AccessState.step ext s₁ e = some s₂ →
      ∃ more, s₂.Revoked ext hash origin (later ++ more) := by
    rintro s₁ e s₂ ⟨more, h₁⟩ hc hstep
    obtain ⟨more', h₂⟩ := h₁.step hc (step_eq_some hstep)
    use more ++ more'
    rw [← List.append_assoc]
    apply h₂
  apply run_invariant hkeeps hfirst hcond hrun

/-- Every event keeps the gate guarded. -/
theorem guarded_step (h : s.gate.Guarded ext.sha3) (hstep : AccessStep ext s e s') :
  s'.gate.Guarded ext.sha3
  := by
  cases hstep with
  | swap hloaded => exact ⟨h.conns, h.passed⟩
  | gate hreload hgate => apply h.step hgate
  | _ => apply h

/-- While no key with the hash is created, the registry that is loaded from a listing that begins
when no key in force has the hash is without it. -/
theorem revoked_of_swap {middle : List AccessEvent} {order : List String}
    (hunfiled : s.home.Unfiled ext hash) (hguarded : s.gate.Guarded ext.sha3)
    (hcond : MeetsAlong (step ext) (KeepsUnfiled ext hash) s
      (.listKeys order :: (middle ++ [.swap])))
    (hrun : run (step ext) s (.listKeys order :: (middle ++ [.swap])) = some s') :
  s'.Revoked ext hash s'.gate []
  := by
  obtain ⟨s₁, hlist, hrest⟩ := run_cons_eq_some.mp hrun
  obtain ⟨s₂, hmiddle, hswap⟩ := run_concat_eq_some.mp hrest
  have hrevoking₁ : s₁.Revoking ext hash := by
    cases step_eq_some hlist with
    | listKeys hnone horder =>
      refine ⟨hunfiled, ?_, nofun⟩
      intro loading hloading
      obtain rfl := Option.some.inj hloading
      exact AList.notMem_empty hash
  have hrevoking₂ : s₂.Revoking ext hash := by
    apply run_invariant _ hrevoking₁ (hcond.2 s₁ hlist).of_append hmiddle
    intro s₃ e s₄ h hc hstep
    apply h.step hc (step_eq_some hstep)
  have hkeeps : ∀ (s₃ : AccessState) e s₄, s₃.gate.Guarded ext.sha3 → step ext s₃ e = some s₄ →
      s₄.gate.Guarded ext.sha3 := fun s₃ e s₄ h hstep => guarded_step h (step_eq_some hstep)
  have hguarded' : s'.gate.Guarded ext.sha3 := run_invariant_of_step hkeeps hguarded hrun
  cases step_eq_some hswap with
  | swap hloaded =>
    refine ⟨⟨hrevoking₂.unfiled, nofun, nofun⟩, hguarded', ?_⟩
    refine ⟨hrevoking₂.loading _ hloaded, (List.append_nil _).symm, List.nodup_nil, nofun, ?_⟩
    intro i conn data registry accepted hi _
    exact ⟨hi, List.not_mem_nil⟩

/-- In every interleaving of commands, of the loading of the registry, and of the lines of any
number of connections: if no key in force has a hash, since the keys with it were revoked, and then
the registry is loaded, from the listing of the directory to the replacement, while no key with the
hash is created; then of the lines that are passed to the handler afterwards with a secret of the
hash, there is at most one for each connection, and its key had already been checked when the
registry was replaced. -/
theorem stale_of_run {before middle after : List AccessEvent} {order : List String}
    {s₀ s₁ s₂ : AccessState} (hplain : ∀ line ∈ commandsOf before, line.IsPlain)
    (hunfiled : ∀ keyId key, (granted (commandsOf before)).lookup keyId = some key →
      ext.sha3 (asBytes key.secret) ≠ hash)
    (hbefore : run (step ext) initial before = some s₀)
    (hcond : MeetsAlong (step ext) (KeepsUnfiled ext hash) s₀
      (.listKeys order :: (middle ++ [.swap])))
    (hloaded : run (step ext) s₀ (.listKeys order :: (middle ++ [.swap])) = some s₁)
    (hcond' : MeetsAlong (step ext) (KeepsUnfiled ext hash) s₁ after)
    (hafter : run (step ext) s₁ after = some s₂) :
  ∃ later, s₂.gate.passed = s₁.gate.passed ++ later ∧
    (connectionsOf ext.sha3 hash later).Nodup ∧
    ∀ line ∈ later, line.uses ext.sha3 hash = true → ∃ conn,
      s₁.gate.conns[line.connection]?
        = some ⟨conn, .validated line.data line.registry, line.accepted⟩
  := by
  have hbacked := backed_of_run hplain hbefore
  have hunfiled₀ : s₀.home.Unfiled ext hash := by
    rw [hbacked.home]
    exact ⟨_, holdsKeys_granted ext hplain, hunfiled⟩
  have hrevoked := revoked_of_swap hunfiled₀ hbacked.guarded hcond hloaded
  obtain ⟨later, h⟩ := hrevoked.of_run hcond' hafter
  exact ⟨later, h.stale.passed, h.stale.nodup, h.stale.checked⟩

/-- After the key is checked, it is revoked. -/
def revokedRun : List AccessEvent := checkedRun ++ [.command (.authRevoke "0000000000000000")]

/-- No key is in force after this run. -/
theorem lookup_granted_revokedRun (keyId : String) :
  (granted (commandsOf revokedRun)).lookup keyId = none
  := by
  have hgranted : granted (commandsOf revokedRun) = AList.erase "0000000000000000"
      ((∅ : AList fun _ : String => GrantedKey).insert (hexEncode (Block.zero 8).1)
        ⟨appSecret, "app", "read,write"⟩) := rfl
  have hkeyId : hexEncode (Block.zero 8).1 = "0000000000000000" := by decide
  rw [hgranted, hkeyId, AList.lookup_eq_none, AList.mem_erase]
  rintro ⟨hne, hmem⟩
  rcases (AList.mem_insert _).mp hmem with heq | hempty
  · apply hne heq
  · apply AList.notMem_empty keyId hempty

theorem plain_revokedRun :
  ∀ line ∈ commandsOf revokedRun, line.IsPlain
  := by
  rw [revokedRun, commandsOf_concat_of_some rfl, List.forall_mem_append, List.forall_mem_singleton]
  exact ⟨plain_checkedRun, trivial⟩

/-- Then the registry is loaded without the key, and the `SET` whose key had been checked is
passed. -/
theorem stale_revokedRun :
  ∃ s₁ s₂ later, run (step plainCli) initial
      (revokedRun ++ .listKeys [] :: ([.readCredentials, .readConfig] ++ [.swap])) = some s₁ ∧
    run (step plainCli) s₁ [.gate (.checkPermission 0)] = some s₂ ∧
    s₂.gate.passed.map PassedLine.data = [asBytes "set k v"] ∧
    s₂.gate.passed = s₁.gate.passed ++ later ∧
    (connectionsOf plainCli.sha3 (plainCli.sha3 (asBytes appSecret)) later).Nodup ∧
    ∀ line ∈ later, line.uses plainCli.sha3 (plainCli.sha3 (asBytes appSecret)) = true → ∃ conn,
      s₁.gate.conns[line.connection]?
        = some ⟨conn, .validated line.data line.registry, line.accepted⟩
  := by
  have hcredentials : (run (step plainCli) initial revokedRun).map
      (fun s => (s.home.credentialsEntry plainCli).isNone) = some true := by
    decide +kernel
  have hpassed : (run (step plainCli) initial (revokedRun
      ++ .listKeys [] :: ([.readCredentials, .readConfig] ++ [.swap])
      ++ [.gate (.checkPermission 0)])).map (fun s => s.gate.passed.map PassedLine.data)
      = some [asBytes "set k v"] := by
    decide +kernel
  obtain ⟨s₀, hbefore, hnone⟩ := Option.map_eq_some_iff.mp hcredentials
  obtain ⟨s₂, hrun, hpassed⟩ := Option.map_eq_some_iff.mp hpassed
  rw [run_append, Option.bind_eq_some_iff] at hrun
  obtain ⟨s₁, hrun, hafter⟩ := hrun
  have hloaded := hrun
  rw [run_append, hbefore, Option.bind_some] at hloaded
  have hunfiled : ∀ keyId key, (granted (commandsOf revokedRun)).lookup keyId = some key →
      plainCli.sha3 (asBytes key.secret) ≠ plainCli.sha3 (asBytes appSecret) := by
    intro keyId key hkey
    rw [lookup_granted_revokedRun] at hkey
    cases hkey
  have hcond : MeetsAlong (step plainCli)
      (KeepsUnfiled plainCli (plainCli.sha3 (asBytes appSecret))) s₀
      (.listKeys [] :: ([.readCredentials, .readConfig] ++ [.swap])) := by
    refine ⟨trivial, ?_⟩
    intro s hlist
    cases step_eq_some hlist with
    | listKeys hloading horder =>
      refine ⟨?_, fun _ _ => ⟨trivial, fun _ _ => ⟨trivial, fun _ _ => trivial⟩⟩⟩
      intro entry hentry
      rw [hentry] at hnone
      cases hnone
  have hcond' : MeetsAlong (step plainCli)
      (KeepsUnfiled plainCli (plainCli.sha3 (asBytes appSecret))) s₁
      [.gate (.checkPermission 0)] := ⟨trivial, fun _ _ => trivial⟩
  obtain ⟨later, hstale⟩ :=
    stale_of_run plain_revokedRun hunfiled hbefore hcond hloaded hcond' hafter
  exact ⟨s₁, s₂, later, hrun, hafter, hpassed, hstale⟩

end AccessState

end Cachee
