import Cachee.Daemon.Connection
import Cachee.Library.Run

/-!
# The authentication gate

Connections are served at the same time, while the registry of keys is replaced now and then.  A
line is checked in several steps, each of which reads the registry or a counter: the connection,
the quota, the key, and the permissions.  The checks of the key and of the permissions are skipped
where the connection has no key, so they protect the handler only as long as a connection is
authenticated exactly when it has a key.
-/

open Text

namespace Cachee

/-- Where a connection stands with its current line.  After the check of the key, the registry
that it was checked against is recorded. -/
inductive GatePhase where
  | idle
  | authenticated (data : Bytes)
  | metered (data : Bytes)
  | validated (data : Bytes) (registry : ApiKeyRegistry)

/-- A connection, with a record of the secret that its last successful `AUTH` accepted and of the
entry that was found for it. -/
structure GateConnection where
  conn : ConnState
  phase : GatePhase
  accepted : Option (String × ApiKeyEntry)

/-- A record of a line that was passed to the handler: the connection, what its last successful
`AUTH` accepted, and the registry that its key was checked against. -/
structure PassedLine where
  connection : ℕ
  data : Bytes
  accepted : Option (String × ApiKeyEntry)
  registry : ApiKeyRegistry

/-- The registry, the connections, and a record of the lines passed to the handler. -/
structure GateState where
  registry : ApiKeyRegistry
  conns : List GateConnection
  passed : List PassedLine

/-- The registry is replaced, a client connects, or a connection performs the next step with its
line; the counter of its key stands at some value when the quota is checked. -/
inductive GateEvent where
  | reload (registry : ApiKeyRegistry)
  | connect
  | read (i : ℕ) (data : Bytes)
  | checkQuota (i : ℕ) (current : UInt64)
  | revalidate (i : ℕ)
  | checkPermission (i : ℕ)

/-- The secret that a line authenticates with, and its entry. -/
def acceptedSecret (sha3 : Bytes → Block 32) (registry : ApiKeyRegistry) (parts : List String) :
    Option (String × ApiKeyEntry) :=
  if startsWith parts "AUTH" then do
    let secret ← parts[1]?
    let entry ← registry.lookup (sha3 (asBytes secret))
    return (secret, entry)
  else none

namespace GateState

variable (sha3 : Bytes → Block 32) (requireAuth : Bool)

/-- The state in which the daemon starts. -/
def initial (registry : ApiKeyRegistry) : GateState where
  registry := registry
  conns := []
  passed := []

def setConn (s : GateState) (i : ℕ) (c : GateConnection) : GateState :=
  { s with conns := s.conns.set i c }

/-- The state after a step. -/
def step (s : GateState) : GateEvent → Option GateState
  | .reload registry => some { s with registry }
  | .connect => some { s with conns := s.conns ++ [⟨.initial requireAuth, .idle, none⟩] }
  | .read i data =>
    match s.conns[i]? with
    | some ⟨conn, .idle, accepted⟩ =>
      let accepted := (acceptedSecret sha3 s.registry (words data)).or accepted
      match checkAuthenticated sha3 s.registry conn (words data) with
      | (conn, some _) => some (s.setConn i ⟨conn, .idle, accepted⟩)
      | (conn, none) => some (s.setConn i ⟨conn, .authenticated data, accepted⟩)
    | _ => none
  | .checkQuota i current =>
    match s.conns[i]? with
    | some ⟨conn, .authenticated data, accepted⟩ =>
      match quotaRefusal conn current with
      | some _ => some (s.setConn i ⟨conn, .idle, accepted⟩)
      | none => some (s.setConn i ⟨conn, .metered data, accepted⟩)
    | _ => none
  | .revalidate i =>
    match s.conns[i]? with
    | some ⟨conn, .metered data, accepted⟩ =>
      match Cachee.revalidate requireAuth s.registry conn with
      | (conn, some _) => some (s.setConn i ⟨conn, .idle, accepted⟩)
      | (conn, none) => some (s.setConn i ⟨conn, .validated data s.registry, accepted⟩)
    | _ => none
  | .checkPermission i =>
    match s.conns[i]? with
    | some ⟨conn, .validated data registry, accepted⟩ =>
      match permissionRefusal requireAuth conn (words data) with
      | some _ => some (s.setConn i ⟨conn, .idle, accepted⟩)
      | none =>
        some { s.setConn i ⟨conn, .idle, accepted⟩ with
          passed := s.passed ++ [⟨i, data, accepted, registry⟩] }
    | _ => none

end GateState

/-! ### What a step does -/

/-- What an event does to the gate: a connection that goes on with its line has a new phase, which
is idle if the line was answered. -/
inductive GateStep (sha3 : Bytes → Block 32) (requireAuth : Bool) (s : GateState) :
    GateEvent → GateState → Prop
  | reload (registry : ApiKeyRegistry) :
      GateStep sha3 requireAuth s (.reload registry) { s with registry }
  | connect :
      GateStep sha3 requireAuth s .connect
        { s with conns := s.conns ++ [⟨.initial requireAuth, .idle, none⟩] }
  | read {i : ℕ} {data : Bytes} {conn conn' : ConnState}
      {accepted : Option (String × ApiKeyEntry)} {reply : Option String}
      (hi : s.conns[i]? = some ⟨conn, .idle, accepted⟩)
      (hcheck : checkAuthenticated sha3 s.registry conn (words data) = (conn', reply)) :
      GateStep sha3 requireAuth s (.read i data)
        (s.setConn i ⟨conn', if reply.isSome then .idle else .authenticated data,
          (acceptedSecret sha3 s.registry (words data)).or accepted⟩)
  | checkQuota {i : ℕ} {data : Bytes} {conn : ConnState}
      {accepted : Option (String × ApiKeyEntry)} (current : UInt64)
      (hi : s.conns[i]? = some ⟨conn, .authenticated data, accepted⟩) :
      GateStep sha3 requireAuth s (.checkQuota i current)
        (s.setConn i ⟨conn, if (quotaRefusal conn current).isSome then .idle else .metered data,
          accepted⟩)
  | revalidate {i : ℕ} {data : Bytes} {conn conn' : ConnState}
      {accepted : Option (String × ApiKeyEntry)} {reply : Option String}
      (hi : s.conns[i]? = some ⟨conn, .metered data, accepted⟩)
      (hcheck : Cachee.revalidate requireAuth s.registry conn = (conn', reply)) :
      GateStep sha3 requireAuth s (.revalidate i)
        (s.setConn i ⟨conn', if reply.isSome then .idle else .validated data s.registry, accepted⟩)
  | refuse {i : ℕ} {data : Bytes} {registry : ApiKeyRegistry} {conn : ConnState}
      {accepted : Option (String × ApiKeyEntry)} {reply : String}
      (hi : s.conns[i]? = some ⟨conn, .validated data registry, accepted⟩)
      (hcheck : permissionRefusal requireAuth conn (words data) = some reply) :
      GateStep sha3 requireAuth s (.checkPermission i) (s.setConn i ⟨conn, .idle, accepted⟩)
  | pass {i : ℕ} {data : Bytes} {registry : ApiKeyRegistry} {conn : ConnState}
      {accepted : Option (String × ApiKeyEntry)}
      (hi : s.conns[i]? = some ⟨conn, .validated data registry, accepted⟩)
      (hcheck : permissionRefusal requireAuth conn (words data) = none) :
      GateStep sha3 requireAuth s (.checkPermission i)
        { s.setConn i ⟨conn, .idle, accepted⟩ with
          passed := s.passed ++ [⟨i, data, accepted, registry⟩] }

/-- A step of the gate does what its event does. -/
theorem GateState.step_eq_some {sha3 : Bytes → Block 32} {requireAuth : Bool} {s s' : GateState}
    {e : GateEvent} (h : GateState.step sha3 requireAuth s e = some s') :
  GateStep sha3 requireAuth s e s'
  := by
  cases e with
  | reload registry =>
    obtain rfl := Option.some.inj h
    exact .reload registry
  | connect =>
    obtain rfl := Option.some.inj h
    exact .connect
  | read i data =>
    simp only [GateState.step] at h
    split at h
    · rename_i conn accepted hi
      split at h
      · rename_i conn' reply hcheck
        obtain rfl := Option.some.inj h
        exact .read hi hcheck
      · rename_i conn' hcheck
        obtain rfl := Option.some.inj h
        exact .read hi hcheck
    · cases h
  | checkQuota i current =>
    simp only [GateState.step] at h
    split at h
    · rename_i conn data accepted hi
      have hstep : GateStep sha3 requireAuth s _ _ := .checkQuota current hi
      split at h
      · rename_i reply hcheck
        obtain rfl := Option.some.inj h
        rw [hcheck] at hstep
        apply hstep
      · rename_i hcheck
        obtain rfl := Option.some.inj h
        rw [hcheck] at hstep
        apply hstep
    · cases h
  | revalidate i =>
    simp only [GateState.step] at h
    split at h
    · rename_i conn data accepted hi
      split at h
      · rename_i conn' reply hcheck
        obtain rfl := Option.some.inj h
        exact .revalidate hi hcheck
      · rename_i conn' hcheck
        obtain rfl := Option.some.inj h
        exact .revalidate hi hcheck
    · cases h
  | checkPermission i =>
    simp only [GateState.step] at h
    split at h
    · rename_i conn data registry accepted hi
      split at h
      · rename_i reply hcheck
        obtain rfl := Option.some.inj h
        exact .refuse hi hcheck
      · rename_i hcheck
        obtain rfl := Option.some.inj h
        exact .pass hi hcheck
    · cases h

/-! ### What the checks rely on -/

section Invariant

variable (sha3 : Bytes → Block 32)

/-- The connection is authenticated with a secret, and has the entry and the hash of its key. -/
structure GateConnection.HasKey (c : GateConnection) (secret : String) (entry : ApiKeyEntry) :
    Prop where
  accepted : c.accepted = some (secret, entry)
  conn : c.conn = ⟨true, some entry, some (sha3 (asBytes secret))⟩

/-- The connection is cleared or has a key; it has a key while a line is checked; and after the
check of the key, the key was in the registry that it was checked against. -/
def GateConnection.Valid (c : GateConnection) : Prop :=
  match c.phase with
  | .idle => c.conn = .cleared ∨ ∃ secret entry, c.HasKey sha3 secret entry
  | .authenticated _ => ∃ secret entry, c.HasKey sha3 secret entry
  | .metered _ => ∃ secret entry, c.HasKey sha3 secret entry
  | .validated _ registry =>
    ∃ secret entry, c.HasKey sha3 secret entry ∧ sha3 (asBytes secret) ∈ registry

/-- The line was passed with the key of a secret that was accepted, whose hash was in the registry
when the key was checked; and if the handler takes it for a `SET`, a `DEL`, an `INVALIDATE` or a
`SUPERSEDE`, the entry has the permission to write or to administrate. -/
def PassedLine.Authorized (line : PassedLine) : Prop :=
  ∃ secret entry, line.accepted = some (secret, entry) ∧
    sha3 (asBytes secret) ∈ line.registry ∧
    ∀ command args, words line.data = command :: args →
      toUppercase command ∈ ["SET", "DEL", "INVALIDATE", "SUPERSEDE"] → entry.canWrite = true

/-- The fields of the connection are set or cleared together. -/
structure ConnState.Coupled (conn : ConnState) : Prop where
  keyEntry : conn.keyEntry.isSome = conn.authenticated
  keyHash : conn.keyHash.isSome = conn.authenticated

/-- The invariant of the gate. -/
structure GateState.Guarded (s : GateState) : Prop where
  conns : ∀ c ∈ s.conns, c.Valid sha3
  passed : ∀ line ∈ s.passed, line.Authorized sha3

end Invariant

variable {sha3 : Bytes → Block 32} {registry : ApiKeyRegistry} {conn : ConnState}
  {accepted : Option (String × ApiKeyEntry)} {parts : List String}

/-- An `AUTH` clears the connection, gives it the key of the secret that it accepts, or changes
nothing. -/
theorem handleAuth_valid
    (h : conn = .cleared ∨ ∃ secret entry,
      GateConnection.HasKey sha3 ⟨conn, .idle, accepted⟩ secret entry)
    (hauth : startsWith parts "AUTH" = true) :
  GateConnection.Valid sha3 ⟨(handleAuth sha3 registry conn parts).1, .idle,
    (acceptedSecret sha3 registry parts).or accepted⟩
  := by
  rw [acceptedSecret, if_pos hauth]
  unfold handleAuth
  cases hsecret : parts[1]? with
  | none => apply h
  | some secret =>
    dsimp only
    cases hentry : registry.lookup (sha3 (asBytes secret)) with
    | none =>
      left
      rfl
    | some entry =>
      right
      refine ⟨secret, entry, ?_, rfl⟩
      simp [hentry]

/-- The first check answers a line, or lets a line of a connection with a key pass. -/
theorem checkAuthenticated_valid (data : Bytes) {reply : Option String} {conn' : ConnState}
    (h : conn = .cleared ∨ ∃ secret entry,
      GateConnection.HasKey sha3 ⟨conn, .idle, accepted⟩ secret entry)
    (hcheck : checkAuthenticated sha3 registry conn parts = (conn', reply)) :
  GateConnection.Valid sha3 ⟨conn', if reply.isSome then .idle else .authenticated data,
    (acceptedSecret sha3 registry parts).or accepted⟩
  := by
  unfold checkAuthenticated at hcheck
  split at hcheck
  · rename_i hauth
    obtain ⟨rfl, rfl⟩ := Prod.mk.inj hcheck
    apply handleAuth_valid h hauth
  · rename_i hauth
    rw [acceptedSecret, if_neg hauth, Option.none_or]
    split at hcheck
    · obtain ⟨rfl, rfl⟩ := Prod.mk.inj hcheck
      apply h
    · split at hcheck
      · obtain ⟨rfl, rfl⟩ := Prod.mk.inj hcheck
        apply h
      · rename_i hconn
        obtain ⟨rfl, rfl⟩ := Prod.mk.inj hcheck
        rcases h with rfl | ⟨secret, entry, haccepted, hkey⟩
        · exact absurd rfl hconn
        · exact ⟨secret, entry, haccepted, hkey⟩

/-- The check of the key clears the connection, or finds the key in the registry. -/
theorem revalidate_valid {data : Bytes} {reply : Option String} {conn' : ConnState}
    (h : ∃ secret entry, GateConnection.HasKey sha3 ⟨conn, .metered data, accepted⟩ secret entry)
    (hcheck : revalidate true registry conn = (conn', reply)) :
  GateConnection.Valid sha3
    ⟨conn', if reply.isSome then .idle else .validated data registry, accepted⟩
  := by
  obtain ⟨secret, entry, haccepted, rfl⟩ := h
  unfold revalidate at hcheck
  dsimp only at hcheck
  split at hcheck
  · obtain ⟨rfl, rfl⟩ := Prod.mk.inj hcheck
    left
    rfl
  · rename_i hregistered
    obtain ⟨rfl, rfl⟩ := Prod.mk.inj hcheck
    refine ⟨secret, entry, ⟨haccepted, rfl⟩, ?_⟩
    simpa using hregistered

/-- A line for which the check of the permissions has no refusal is authorized. -/
theorem authorized_of_permissionRefusal {i : ℕ} {data : Bytes}
    (h : GateConnection.Valid sha3 ⟨conn, .validated data registry, accepted⟩)
    (hcheck : permissionRefusal true conn (words data) = none) :
  PassedLine.Authorized sha3 ⟨i, data, accepted, registry⟩
  := by
  obtain ⟨secret, entry, ⟨haccepted, hconn⟩, hregistered⟩ := h
  refine ⟨secret, entry, haccepted, hregistered, ?_⟩
  intro command args hwords hcommand
  obtain rfl : conn = _ := hconn
  by_contra hwrite
  have hwrites : commandOf (words data) ∈ writeCommands := by
    rw [hwords]
    apply List.mem_append_left ["FLUSH"] hcommand
  rw [permissionRefusal] at hcheck
  dsimp only at hcheck
  rw [if_neg (by decide), if_pos ⟨hwrites, by simpa using hwrite⟩] at hcheck
  cases hcheck

/-- A valid connection is cleared or has a key. -/
theorem GateConnection.Valid.cases {c : GateConnection} (h : c.Valid sha3) :
  c.conn = .cleared ∨ ∃ secret entry, c.HasKey sha3 secret entry
  := by
  obtain ⟨conn, phase, accepted⟩ := c
  cases phase with
  | idle => apply h
  | authenticated data =>
    right
    apply h
  | metered data =>
    right
    apply h
  | validated data registry =>
    obtain ⟨secret, entry, hkey, -⟩ := h
    right
    exact ⟨secret, entry, hkey⟩

/-- A valid connection stays valid when it is done with its line. -/
theorem GateConnection.Valid.idle {phase : GatePhase}
    (h : GateConnection.Valid sha3 ⟨conn, phase, accepted⟩) :
  GateConnection.Valid sha3 ⟨conn, .idle, accepted⟩
  := by
  rcases h.cases with hconn | ⟨secret, entry, hkey⟩
  · left
    apply hconn
  · right
    exact ⟨secret, entry, hkey.accepted, hkey.conn⟩

/-- The fields of a valid connection are set or cleared together. -/
theorem GateConnection.Valid.coupled {c : GateConnection} (h : c.Valid sha3) :
  c.conn.Coupled
  := by
  rcases h.cases with hconn | ⟨secret, entry, -, hconn⟩
  · rw [hconn]
    exact ⟨rfl, rfl⟩
  · rw [hconn]
    exact ⟨rfl, rfl⟩

namespace GateState

variable {s s' : GateState} {i : ℕ}

/-- Replacing a valid connection by a valid one keeps the invariant. -/
theorem Guarded.setConn (h : s.Guarded sha3) (i : ℕ) {c : GateConnection} (hc : c.Valid sha3) :
  (s.setConn i c).Guarded sha3
  := by
  constructor
  · intro d hd
    rcases List.mem_or_eq_of_mem_set hd with hd | rfl
    · apply h.conns d hd
    · apply hc
  · apply h.passed

/-- Every step keeps the invariant. -/
theorem Guarded.step {e : GateEvent} (h : s.Guarded sha3) (hstep : step sha3 true s e = some s') :
  s'.Guarded sha3
  := by
  cases step_eq_some hstep with
  | reload registry => exact ⟨h.conns, h.passed⟩
  | connect =>
    refine ⟨?_, h.passed⟩
    intro c hc
    rcases List.mem_append.mp hc with hc | hc
    · apply h.conns c hc
    · obtain rfl := List.mem_singleton.mp hc
      left
      rfl
  | @read i data conn conn' accepted reply hi hcheck =>
    have hvalid := h.conns _ (List.mem_of_getElem? hi)
    apply h.setConn i (checkAuthenticated_valid data hvalid hcheck)
  | @checkQuota i data conn accepted current hi =>
    have hvalid := h.conns _ (List.mem_of_getElem? hi)
    apply h.setConn i
    split
    · apply hvalid.idle
    · obtain ⟨secret, entry, hkey⟩ := hvalid
      exact ⟨secret, entry, hkey.accepted, hkey.conn⟩
  | @revalidate i data conn conn' accepted reply hi hcheck =>
    have hvalid := h.conns _ (List.mem_of_getElem? hi)
    apply h.setConn i (revalidate_valid hvalid hcheck)
  | @refuse i data registry conn accepted reply hi hcheck =>
    have hvalid := h.conns _ (List.mem_of_getElem? hi)
    apply h.setConn i hvalid.idle
  | @pass i data registry conn accepted hi hcheck =>
    have hvalid := h.conns _ (List.mem_of_getElem? hi)
    refine ⟨(h.setConn i hvalid.idle).conns, ?_⟩
    intro line hline
    rcases List.mem_append.mp hline with hline | hline
    · apply h.passed line hline
    · obtain rfl := List.mem_singleton.mp hline
      apply authorized_of_permissionRefusal hvalid hcheck

/-- A gate without connections is guarded. -/
theorem guarded_initial (registry : ApiKeyRegistry) :
  (initial registry).Guarded sha3
  := by
  constructor
  · intro c hc
    cases hc
  · intro line hline
    cases hline

/-- In every run the gate stays guarded. -/
theorem guarded_of_run {registry : ApiKeyRegistry} {events : List GateEvent}
    (hrun : run (GateState.step sha3 true) (initial registry) events = some s) :
  s.Guarded sha3
  := by
  apply run_invariant_of_step _ (guarded_initial registry) hrun
  intro s₁ e s₂ h hstep
  apply h.step hstep

/-- With required authentication, in every run, each line that is passed to the handler has the key
of the secret that its connection last authenticated with in the registry that it was checked
against, and the permission to write if it is a command that writes; and the fields of each
connection are set or cleared together. -/
theorem authorized_of_run {registry : ApiKeyRegistry} {events : List GateEvent}
    (hrun : run (GateState.step sha3 true) (initial registry) events = some s) :
  (∀ line ∈ s.passed, line.Authorized sha3) ∧ ∀ c ∈ s.conns, c.conn.Coupled
  := by
  have hguarded := guarded_of_run hrun
  refine ⟨hguarded.passed, ?_⟩
  intro c hc
  apply (hguarded.conns c hc).coupled

/-- A registry with a key that may write, with the secret `s`. -/
def writerRegistry : ApiKeyRegistry :=
  (∅ : ApiKeyRegistry).insert (primeHash (asBytes "s")) ⟨"id", "writer", "read,write", 10⟩

/-- A run in which a connection authenticates with this key, the registry is replaced, and the
connection sends a `SET`. -/
def writerRun : List GateEvent :=
  [.connect, .read 0 (asBytes "auth s"), .reload writerRegistry, .read 0 (asBytes "set k v"),
    .checkQuota 0 9, .revalidate 0, .checkPermission 0]

/-- The `SET` is passed to the handler, with this key. -/
theorem authorized_writerRun :
  ∃ s, run (GateState.step primeHash true) (initial writerRegistry) writerRun = some s ∧
    s.passed.map PassedLine.data = [asBytes "set k v"] ∧
    ∀ line ∈ s.passed, line.Authorized primeHash
  := by
  have hpassed : (run (GateState.step primeHash true) (initial writerRegistry) writerRun).map
      (fun s => s.passed.map PassedLine.data) = some [asBytes "set k v"] := by
    decide +kernel
  cases hrun : run (GateState.step primeHash true) (initial writerRegistry) writerRun with
  | none =>
    rw [hrun] at hpassed
    cases hpassed
  | some s =>
    rw [hrun] at hpassed
    exact ⟨s, rfl, Option.some.inj hpassed, (authorized_of_run hrun).1⟩

end GateState

end Cachee
