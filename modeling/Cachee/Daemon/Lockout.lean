import Cachee.Daemon.Charges
import Cachee.Daemon.Failures
import Cachee.Library.Run

/-!
# Connections without required authentication

When the daemon requires no authentication, a connection starts as an authenticated one.  An `AUTH`
with a secret that is not registered takes this away, as if authentication were required: every
other line is then denied until a registered secret is sent.
-/

open Text

namespace Cachee

/-- Whether the secret of a line is registered, if the line is an `AUTH` with a secret. -/
def acceptsSecret? (sha3 : Bytes → Block 32) (registry : ApiKeyRegistry) (parts : List String) :
    Option Bool :=
  if startsWith parts "AUTH" then
    parts[1]?.map fun secret => (registry.lookup (sha3 (asBytes secret))).isSome
  else none

/-- A connection that is served, with a record of whether the secrets that were sent were
registered. -/
structure ServedConnection where
  server : ServerState
  secrets : List Bool

/-- A line is read, or the rest of the daemon changes what the connections share. -/
inductive ConnectionEvent where
  | line (amb : Ambient) (data : Bytes)
  | other (daemon : DaemonState) (registry : ApiKeyRegistry) (counters : OpsCounters)

/-- A line of a connection is served, when no authentication is required: it is not denied for lack
of authentication, and it is passed to the handler, unless it is an `AUTH` or a `PING`, or the quota
refuses it. -/
structure Served (sha3 : Bytes → Block 32) (s : ServerState) (parts : List String)
    (reply : String) : Prop where
  authenticated : hasPrefix reply "-NOAUTH" = false
  passed : startsWith parts "AUTH" = false → startsWith parts "PING" = false →
    (∀ entry, s.conn.keyEntry = some entry → quotaRefusal s.conn (s.opsOf entry) = none) →
    (checkLine sha3 false s parts).2 = none

namespace ServedConnection

variable (ext : Externals) (cfg : DaemonConfig)

/-- A new connection to a daemon. -/
def initial (daemon : DaemonState) (registry : ApiKeyRegistry) (counters : OpsCounters) :
    ServedConnection where
  server := ⟨daemon, registry, counters, .initial false⟩
  secrets := []

/-- The state after an event.  There is none after a panic of the handler, which ends the
connection at least. -/
def step (s : ServedConnection) : ConnectionEvent → Option ServedConnection
  | .line amb data =>
    match serveLine ext cfg false amb s.server data with
    | .ok (server, _) =>
      some ⟨server, s.secrets
        ++ (acceptsSecret? ext.sha3 s.server.registry (words data)).toList⟩
    | .error _ => none
  | .other daemon registry counters =>
    some { s with server := ⟨daemon, registry, counters, s.server.conn⟩ }

/-- Every line that is answered is served. -/
def ServesAll (s : ServedConnection) : Prop :=
  ∀ amb data server reply, serveLine ext cfg false amb s.server data = .ok (server, reply) →
    Served ext.sha3 s.server (words data) reply

end ServedConnection

variable {ext : Externals} {cfg : DaemonConfig} {amb : Ambient} {s s' : ServerState} {data : Bytes}
  {parts : List String} {sha3 : Bytes → Block 32} {reply : String}

/-! ### The authentication of a connection -/

/-- A line authenticates its connection, or takes the authentication away, as its secret is
registered; without a secret it leaves it as it was. -/
theorem authenticated_checkAuthenticated (sha3 : Bytes → Block 32) (registry : ApiKeyRegistry)
    (conn : ConnState) (parts : List String) :
  (checkAuthenticated sha3 registry conn parts).1.authenticated
    = (acceptsSecret? sha3 registry parts).getD conn.authenticated
  := by
  rw [checkAuthenticated, acceptsSecret?]
  cases startsWith parts "AUTH" with
  | true =>
    simp only [if_true, handleAuth]
    cases parts[1]? with
    | none => rfl
    | some secret =>
      cases hentry : registry.lookup (sha3 (asBytes secret)) with
      | none => simp [hentry, ConnState.cleared]
      | some entry => simp [hentry]
  | false =>
    simp only [Bool.false_eq_true, if_false]
    split
    · rfl
    · split
      · rfl
      · rfl

/-- Without required authentication, the key of a connection is not checked again. -/
theorem revalidate_false (registry : ApiKeyRegistry) (conn : ConnState) :
  revalidate false registry conn = (conn, none)
  := by
  rw [revalidate]
  cases conn.keyHash with
  | none => rfl
  | some hash => simp

theorem permissionRefusal_false (conn : ConnState) (parts : List String) :
  permissionRefusal false conn parts = none
  := by
  rw [permissionRefusal]
  cases conn.keyEntry with
  | none => rfl
  | some entry => rfl

/-- The checks leave the connection as the check of the authentication does. -/
theorem conn_checkLine (sha3 : Bytes → Block 32) (s : ServerState) (parts : List String) :
  (checkLine sha3 false s parts).1.conn = (checkAuthenticated sha3 s.registry s.conn parts).1
  := by
  rw [checkLine]
  rcases checkAuthenticated sha3 s.registry s.conn parts with ⟨conn, _ | reply⟩
  · simp only [revalidate_false]
    rcases checkQuota s.counters conn with ⟨counters, _ | reply⟩
    · rfl
    · rfl
  · rfl

/-- Serving a line leaves the connection as its checks do. -/
theorem conn_of_serveLine {requireAuth : Bool}
    (h : serveLine ext cfg requireAuth amb s data = .ok (s', reply)) :
  s'.conn = (checkLine ext.sha3 requireAuth s (words data)).1.conn
  := by
  obtain ⟨daemon, rfl⟩ := exists_daemon_of_serveLine h
  rfl

/-! ### What is answered -/

/-- A reply that starts with something else does not deny a line for lack of authentication. -/
theorem not_noauth_of_hasPrefix {pattern : String} (h : hasPrefix reply pattern = true)
    (hp : hasPrefix pattern "-NOAUTH" = false) (hq : hasPrefix "-NOAUTH" pattern = false) :
  hasPrefix reply "-NOAUTH" = false
  := by
  rw [← Bool.not_eq_true]
  intro hdenied
  rcases hasPrefix_or_of_hasPrefix h hdenied with hprefix | hprefix
  · rw [hp] at hprefix
    cases hprefix
  · rw [hq] at hprefix
    cases hprefix

/-- The handler denies nothing for lack of authentication. -/
theorem not_noauth_handleResp {daemon daemon' : DaemonState}
    (h : handleResp ext cfg amb daemon data = .ok (daemon', reply)) :
  hasPrefix reply "-NOAUTH" = false
  := by
  rcases errorsKeep_handleResp data daemon' reply h with hhead | ⟨herror, -⟩
  · rw [← Bool.not_eq_true]
    intro hdenied
    obtain ⟨rest, hrest⟩ := List.isPrefixOf_iff_prefix.mp hdenied
    rw [← hrest] at hhead
    exact hhead rfl
  · exact not_noauth_of_hasPrefix herror (by decide) (by decide)

/-- An `AUTH` is not denied for lack of authentication. -/
theorem not_noauth_handleAuth (sha3 : Bytes → Block 32) (registry : ApiKeyRegistry)
    (conn : ConnState) (parts : List String) :
  hasPrefix (handleAuth sha3 registry conn parts).2 "-NOAUTH" = false
  := by
  have herror (text : String) (h : isError text = true) : hasPrefix text "-NOAUTH" = false :=
    not_noauth_of_hasPrefix h (by decide) (by decide)
  rw [handleAuth]
  cases parts[1]? with
  | none => exact herror "-ERR AUTH requires a key argument\r\n" (by decide)
  | some secret =>
    dsimp only
    cases registry.lookup (sha3 (asBytes secret)) with
    | none => exact herror "-ERR invalid API key\r\n" (by decide)
    | some entry =>
      have hok : hasPrefix (toString "+OK authenticated as ") "+OK" = true := by
        decide
      exact not_noauth_of_hasPrefix (hasPrefix_append (hasPrefix_append (hasPrefix_append
        (hasPrefix_append (hasPrefix_append (hasPrefix_append hok _) _) _) _) _) _)
        (by decide) (by decide)

/-- The quota does not deny a line for lack of authentication. -/
theorem not_noauth_quotaRefusal {conn : ConnState} {current : UInt64}
    (h : quotaRefusal conn current = some reply) :
  hasPrefix reply "-NOAUTH" = false
  := by
  rw [quotaRefusal] at h
  cases hentry : conn.keyEntry with
  | none =>
    rw [hentry] at h
    cases h
  | some entry =>
    rw [hentry] at h
    dsimp only at h
    split at h
    · obtain rfl := Option.some.inj h
      have hquota : hasPrefix (toString "-QUOTA ops limit exceeded (") "-QUOTA" = true := by
        decide
      exact not_noauth_of_hasPrefix (hasPrefix_append (hasPrefix_append (hasPrefix_append
        (hasPrefix_append (hasPrefix_append hquota _) _) _) _) _) (by decide) (by decide)
    · cases h

/-- A line that reaches the quota is refused by it, or passed to the handler. -/
theorem ReachesQuota.answer_eq (h : ReachesQuota s parts) :
  (checkLine sha3 false s parts).2 = (checkQuota s.counters s.conn).2
  := by
  rw [checkLine, h.checkAuthenticated_eq]
  simp only [revalidate_false, permissionRefusal_false]
  rcases checkQuota s.counters s.conn with ⟨counters, _ | reply⟩
  · rfl
  · rfl

/-- The quota refuses a line if the counter of the key stands at its limit. -/
theorem checkQuota_snd (s : ServerState) :
  (checkQuota s.counters s.conn).2
    = s.conn.keyEntry.bind fun entry => quotaRefusal s.conn (s.opsOf entry)
  := by
  rw [checkQuota]
  cases hentry : s.conn.keyEntry with
  | none => rfl
  | some entry =>
    dsimp only
    rw [Option.bind_some, ServerState.opsOf]
    by_cases hlimit : 0 < entry.opsLimit
    · rw [if_pos hlimit]
      cases quotaRefusal s.conn ((s.counters.lookup entry.keyId).getD 0) with
      | none => rfl
      | some reply => rfl
    · rw [if_neg hlimit, quotaRefusal, hentry]
      simp [hlimit]

/-- The checks of an authenticated connection do not deny a line for lack of authentication, when
none is required. -/
theorem not_noauth_checkLine (hconn : s.conn.authenticated = true)
    (h : (checkLine sha3 false s parts).2 = some reply) :
  hasPrefix reply "-NOAUTH" = false
  := by
  cases hauth : startsWith parts "AUTH" with
  | true =>
    rw [checkLine, checkAuthenticated, if_pos hauth] at h
    obtain rfl := Option.some.inj h
    apply not_noauth_handleAuth
  | false =>
    cases hping : startsWith parts "PING" with
    | true =>
      rw [checkLine, checkAuthenticated, hauth, hping] at h
      obtain rfl := Option.some.inj h
      decide
    | false =>
      have hreaches : ReachesQuota s parts := ⟨hauth, hping, hconn⟩
      rw [hreaches.answer_eq, checkQuota_snd] at h
      obtain ⟨entry, -, hrefused⟩ := Option.bind_eq_some_iff.mp h
      apply not_noauth_quotaRefusal hrefused

/-- A connection that is authenticated has every line served. -/
theorem served_of_authenticated (hconn : s.conn.authenticated = true)
    (h : serveLine ext cfg false amb s data = .ok (s', reply)) :
  Served ext.sha3 s (words data) reply
  := by
  constructor
  · rw [serveLine_eq] at h
    split at h
    · rename_i s₁ answer hcheck
      obtain ⟨-, rfl⟩ := Prod.mk.inj (Except.ok.inj h)
      apply not_noauth_checkLine hconn
      rw [hcheck]
    · cases hresp : handleResp ext cfg amb s.daemon data with
      | error e =>
        rw [hresp] at h
        cases h
      | ok result =>
        rw [hresp] at h
        obtain ⟨-, rfl⟩ := Prod.mk.inj (Except.ok.inj h)
        apply not_noauth_handleResp hresp
  · intro hauth hping hquota
    have hreaches : ReachesQuota s (words data) := ⟨hauth, hping, hconn⟩
    rw [hreaches.answer_eq, checkQuota_snd]
    cases hentry : s.conn.keyEntry with
    | none => rfl
    | some entry => exact hquota entry hentry

/-- A connection that is not authenticated has an empty line denied. -/
theorem serveLine_of_unauthenticated (ext : Externals) (cfg : DaemonConfig) (amb : Ambient)
    (hconn : s.conn.authenticated = false) :
  serveLine ext cfg false amb s []
    = .ok (s, "-NOAUTH Authentication required. Send AUTH <api_key> first.\r\n")
  := by
  have hwords : words [] = [] := rfl
  have hcheck : checkAuthenticated ext.sha3 s.registry s.conn []
      = (s.conn, some "-NOAUTH Authentication required. Send AUTH <api_key> first.\r\n") := by
    rw [checkAuthenticated, hconn]
    rfl
  rw [serveLine_eq, hwords, checkLine, hcheck]

namespace ServedConnection

/-- Every line of a connection is served if it is authenticated, and only then. -/
theorem servesAll_iff (s : ServedConnection) :
  s.ServesAll ext cfg ↔ s.server.conn.authenticated = true
  := by
  constructor
  · intro hall
    rw [← Bool.not_eq_false]
    intro hconn
    have hserved := hall plainAmbient [] s.server _
      (serveLine_of_unauthenticated ext cfg plainAmbient hconn)
    cases hserved.authenticated
  · intro hconn amb data server reply h
    apply served_of_authenticated hconn h

/-- A connection is authenticated unless the last secret that was sent is not registered. -/
theorem authenticated_of_run {daemon : DaemonState} {registry : ApiKeyRegistry}
    {counters : OpsCounters} {events : List ConnectionEvent} {s : ServedConnection}
    (hrun : run (step ext cfg) (initial daemon registry counters) events = some s) :
  s.server.conn.authenticated = s.secrets.getLast?.getD true
  := by
  have hstep : ∀ (s₁ : ServedConnection) (e : ConnectionEvent) (s₂ : ServedConnection),
      s₁.server.conn.authenticated = s₁.secrets.getLast?.getD true →
      step ext cfg s₁ e = some s₂ →
      s₂.server.conn.authenticated = s₂.secrets.getLast?.getD true := by
    intro s₁ e s₂ hinv hstep
    cases e with
    | line amb data =>
      rw [step] at hstep
      cases hserve : serveLine ext cfg false amb s₁.server data with
      | error e =>
        rw [hserve] at hstep
        cases hstep
      | ok result =>
        obtain ⟨server, reply⟩ := result
        rw [hserve] at hstep
        obtain rfl := Option.some.inj hstep
        dsimp only
        rw [conn_of_serveLine hserve, conn_checkLine, authenticated_checkAuthenticated, hinv]
        cases acceptsSecret? ext.sha3 s₁.server.registry (words data) with
        | none => simp
        | some accepted => simp
    | other daemon registry counters =>
      obtain rfl := Option.some.inj hstep
      apply hinv
  apply run_invariant_of_step hstep rfl hrun

/-- Without required authentication, in every run of a connection whose shared state others change
at will, every line is served if the last secret that was sent, if any, was registered, and only
then. -/
theorem servesAll_iff_of_run {daemon : DaemonState} {registry : ApiKeyRegistry}
    {counters : OpsCounters} {events : List ConnectionEvent} {s : ServedConnection}
    (hrun : run (step ext cfg) (initial daemon registry counters) events = some s) :
  s.ServesAll ext cfg ↔ s.secrets.getLast? ≠ some false
  := by
  rw [servesAll_iff, authenticated_of_run hrun]
  cases s.secrets.getLast? with
  | none => simp
  | some accepted => simp

/-! ### A wrong secret -/

/-- A client sends a secret that is not registered. -/
def wrongRun : List ConnectionEvent := [.line plainAmbient (asBytes "AUTH wrong")]

/-- The client then sends one that is registered. -/
def correctedRun : List ConnectionEvent :=
  wrongRun ++ [.line plainAmbient (asBytes "AUTH secret")]

/-- After the wrong secret, a read is denied, although no authentication is required. -/
theorem denied_wrongRun :
  ∃ s, run (step plainExternals plainConfig) (initial (.empty "node") readOnlyServer.registry ∅)
      wrongRun = some s ∧
    serveLine plainExternals plainConfig false plainAmbient s.server (asBytes "GET k")
      = .ok (s.server, "-NOAUTH Authentication required. Send AUTH <api_key> first.\r\n") ∧
    ¬ s.ServesAll plainExternals plainConfig
  := by
  have hsecrets : (run (step plainExternals plainConfig)
      (initial (.empty "node") readOnlyServer.registry ∅) wrongRun).map
        (fun s => (s.secrets, s.server.conn)) = some ([false], .cleared) := by
    decide +kernel
  obtain ⟨s, hrun, hs⟩ := Option.map_eq_some_iff.mp hsecrets
  obtain ⟨-, hconn⟩ := Prod.mk.inj hs
  have hserve : serveLine plainExternals plainConfig false plainAmbient s.server (asBytes "GET k")
      = .ok (s.server, "-NOAUTH Authentication required. Send AUTH <api_key> first.\r\n") := by
    have hwords : words (asBytes "GET k") = ["GET", "k"] := by
      decide +kernel
    have hcheck : checkAuthenticated plainExternals.sha3 s.server.registry s.server.conn
        ["GET", "k"] = (s.server.conn,
          some "-NOAUTH Authentication required. Send AUTH <api_key> first.\r\n") := by
      rw [hconn]
      rfl
    rw [serveLine_eq, hwords, checkLine, hcheck]
  refine ⟨s, hrun, hserve, ?_⟩
  intro hall
  cases (hall _ _ _ _ hserve).authenticated

/-- After a registered secret, every line is served again. -/
theorem servesAll_correctedRun :
  ∃ s, run (step plainExternals plainConfig) (initial (.empty "node") readOnlyServer.registry ∅)
      correctedRun = some s ∧ s.secrets = [false, true] ∧ s.ServesAll plainExternals plainConfig
  := by
  have hsecrets : (run (step plainExternals plainConfig)
      (initial (.empty "node") readOnlyServer.registry ∅) correctedRun).map secrets
        = some [false, true] := by
    decide +kernel
  obtain ⟨s, hrun, hs⟩ := Option.map_eq_some_iff.mp hsecrets
  refine ⟨s, hrun, hs, (servesAll_iff_of_run hrun).mpr ?_⟩
  rw [hs]
  decide

end ServedConnection

end Cachee
