import Cachee.Daemon.Gate

/-!
# The rights in force

A connection keeps the entry that its last `AUTH` found, and the check of the key asks only whether
its hash is still registered.  So the limit and the permissions that apply to a connection are
those of that entry.  They are also those of the registry unless a reload changes the rights of a
key with which a connection is authenticated.

Of the commands that do not write, those on the audit log need the permission to administrate or to
write, and the others need none.
-/

open Text

namespace Cachee

/-- Two entries let the same commands through: they have the same permission to write and the same
limit. -/
structure ApiKeyEntry.SameRights (entry entry' : ApiKeyEntry) : Prop where
  canWrite : entry.canWrite = entry'.canWrite
  opsLimit : entry.opsLimit = entry'.opsLimit

section Agreement

variable (sha3 : Bytes → Block 32)

/-- If the registry has an entry for the key of a connection, it has the rights of the entry that
the connection has accepted. -/
def GateConnection.Agrees (registry : ApiKeyRegistry) (c : GateConnection) : Prop :=
  ∀ secret entry, c.HasKey sha3 secret entry → ∀ current,
    registry.lookup (sha3 (asBytes secret)) = some current → current.SameRights entry

/-- The event is not a reload that changes the rights of a key with which a connection is
authenticated. -/
def GateState.KeepsRights (s : GateState) : GateEvent → Prop
  | .reload registry => ∀ c ∈ s.conns, c.Agrees sha3 registry
  | _ => True

/-- All connections agree with the registry and with the registries that their keys were checked
against, and so do the lines that were passed to the handler. -/
structure GateState.Current (s : GateState) : Prop where
  conns : ∀ c ∈ s.conns, c.Agrees sha3 s.registry
  validated : ∀ c ∈ s.conns, ∀ data registry, c.phase = .validated data registry →
    c.Agrees sha3 registry
  passed : ∀ line ∈ s.passed, ∀ secret entry, line.accepted = some (secret, entry) →
    ∀ current, line.registry.lookup (sha3 (asBytes secret)) = some current →
      current.SameRights entry

end Agreement

variable {sha3 : Bytes → Block 32} {registry : ApiKeyRegistry} {conn conn' : ConnState}
  {accepted : Option (String × ApiKeyEntry)} {phase phase' : GatePhase} {parts : List String}

/-! ### Agreement with the registry -/

/-- Whether a connection agrees with a registry does not depend on its phase. -/
theorem GateConnection.Agrees.of_phase
    (h : GateConnection.Agrees sha3 registry ⟨conn, phase, accepted⟩) (phase' : GatePhase) :
  GateConnection.Agrees sha3 registry ⟨conn, phase', accepted⟩
  := by
  intro secret entry hkey
  apply h secret entry ⟨hkey.accepted, hkey.conn⟩

/-- A cleared connection agrees with every registry. -/
theorem GateConnection.agrees_cleared :
  GateConnection.Agrees sha3 registry ⟨.cleared, phase, accepted⟩
  := by
  intro secret entry hkey
  cases hkey.conn

/-- An `AUTH` gives the connection an entry of the registry, clears it, or changes nothing. -/
theorem handleAuth_agrees (h : GateConnection.Agrees sha3 registry ⟨conn, phase, accepted⟩)
    (hauth : startsWith parts "AUTH" = true) :
  GateConnection.Agrees sha3 registry ⟨(handleAuth sha3 registry conn parts).1, phase',
    (acceptedSecret sha3 registry parts).or accepted⟩
  := by
  rw [acceptedSecret, if_pos hauth]
  unfold handleAuth
  cases hsecret : parts[1]? with
  | none => apply h.of_phase
  | some secret =>
    dsimp only
    cases hentry : registry.lookup (sha3 (asBytes secret)) with
    | none => apply GateConnection.agrees_cleared
    | some entry =>
      intro secret' entry' hkey current hcurrent
      obtain ⟨rfl, rfl⟩ : secret = secret' ∧ entry = entry' := by
        simpa [hentry] using hkey.accepted
      rw [hentry] at hcurrent
      obtain rfl := Option.some.inj hcurrent
      exact ⟨rfl, rfl⟩

/-- The first check of a line keeps the agreement with the registry. -/
theorem checkAuthenticated_agrees {reply : Option String}
    (h : GateConnection.Agrees sha3 registry ⟨conn, phase, accepted⟩)
    (hcheck : checkAuthenticated sha3 registry conn parts = (conn', reply)) :
  GateConnection.Agrees sha3 registry
    ⟨conn', phase', (acceptedSecret sha3 registry parts).or accepted⟩
  := by
  unfold checkAuthenticated at hcheck
  split at hcheck
  · rename_i hauth
    obtain ⟨rfl, rfl⟩ := Prod.mk.inj hcheck
    apply handleAuth_agrees h hauth
  · rename_i hauth
    rw [acceptedSecret, if_neg hauth, Option.none_or]
    have hconn : conn' = conn := by
      split at hcheck
      · apply (Prod.mk.inj hcheck).1.symm
      · split at hcheck
        · apply (Prod.mk.inj hcheck).1.symm
        · apply (Prod.mk.inj hcheck).1.symm
    rw [hconn]
    apply h.of_phase

/-- The check of the key keeps the agreement with every registry. -/
theorem revalidate_agrees {registry' : ApiKeyRegistry} {reply : Option String}
    (h : GateConnection.Agrees sha3 registry' ⟨conn, phase, accepted⟩)
    (hcheck : revalidate true registry conn = (conn', reply)) :
  GateConnection.Agrees sha3 registry' ⟨conn', phase', accepted⟩
  := by
  unfold revalidate at hcheck
  split at hcheck
  · split at hcheck
    · obtain ⟨rfl, -⟩ := Prod.mk.inj hcheck
      apply GateConnection.agrees_cleared
    · obtain ⟨rfl, -⟩ := Prod.mk.inj hcheck
      apply h.of_phase
  · obtain ⟨rfl, -⟩ := Prod.mk.inj hcheck
    apply h.of_phase

namespace GateState

variable {s s' : GateState} {i : ℕ}

/-- Replacing a connection by one that agrees keeps the agreement. -/
theorem Current.setConn (h : s.Current sha3) (i : ℕ) {c : GateConnection}
    (hc : c.Agrees sha3 s.registry)
    (hvalidated : ∀ data registry, c.phase = .validated data registry → c.Agrees sha3 registry) :
  (s.setConn i c).Current sha3
  := by
  constructor
  · intro d hd
    rcases List.mem_or_eq_of_mem_set hd with hd | rfl
    · apply h.conns d hd
    · apply hc
  · intro d hd
    rcases List.mem_or_eq_of_mem_set hd with hd | rfl
    · apply h.validated d hd
    · apply hvalidated
  · apply h.passed

/-- A connection that is idle if its line was answered has its key checked only if the line goes
on. -/
theorem phase_eq_of_ite {answered : Bool} {data : Bytes}
    (h : (if answered then .idle else phase) = GatePhase.validated data registry) :
  phase = .validated data registry
  := by
  cases answered with
  | true => cases h
  | false => apply h

/-- Every step that keeps the rights keeps the agreement. -/
theorem Current.step {e : GateEvent} (h : s.Current sha3) (hguarded : s.Guarded sha3)
    (hkeeps : s.KeepsRights sha3 e) (hstep : GateState.step sha3 true s e = some s') :
  s'.Current sha3
  := by
  cases step_eq_some hstep with
  | reload registry => exact ⟨hkeeps, h.validated, h.passed⟩
  | connect =>
    constructor
    · intro c hc
      rcases List.mem_append.mp hc with hc | hc
      · apply h.conns c hc
      · obtain rfl := List.mem_singleton.mp hc
        apply GateConnection.agrees_cleared
    · intro c hc data registry hphase
      rcases List.mem_append.mp hc with hc | hc
      · apply h.validated c hc data registry hphase
      · obtain rfl := List.mem_singleton.mp hc
        cases hphase
    · apply h.passed
  | @read i data conn conn' accepted reply hi hcheck =>
    have hagrees := h.conns _ (List.mem_of_getElem? hi)
    apply h.setConn i (checkAuthenticated_agrees hagrees hcheck)
    intro _ _ hphase
    cases phase_eq_of_ite hphase
  | @checkQuota i data conn accepted current hi =>
    have hagrees := h.conns _ (List.mem_of_getElem? hi)
    apply h.setConn i (hagrees.of_phase _)
    intro _ _ hphase
    cases phase_eq_of_ite hphase
  | @revalidate i data conn conn' accepted reply hi hcheck =>
    have hagrees := h.conns _ (List.mem_of_getElem? hi)
    apply h.setConn i (revalidate_agrees hagrees hcheck)
    intro _ _ hphase
    cases phase_eq_of_ite hphase
    apply revalidate_agrees hagrees hcheck
  | @refuse i data registry conn accepted reply hi hcheck =>
    have hagrees := h.conns _ (List.mem_of_getElem? hi)
    apply h.setConn i (hagrees.of_phase _)
    rintro _ _ ⟨⟩
  | @pass i data registry conn accepted hi hcheck =>
    have hmem := List.mem_of_getElem? hi
    have hidle : (s.setConn i ⟨conn, .idle, accepted⟩).Current sha3 := by
      apply h.setConn i ((h.conns _ hmem).of_phase _)
      rintro _ _ ⟨⟩
    refine ⟨hidle.conns, hidle.validated, ?_⟩
    intro line hline
    rcases List.mem_append.mp hline with hline | hline
    · apply h.passed line hline
    · obtain rfl := List.mem_singleton.mp hline
      obtain ⟨secret, entry, hkey, -⟩ := hguarded.conns _ hmem
      intro secret' entry' haccepted
      obtain ⟨rfl, rfl⟩ := Prod.mk.inj (Option.some.inj (hkey.accepted.symm.trans haccepted))
      apply h.validated _ hmem data registry rfl secret entry hkey

/-- In a run that keeps the rights, all connections agree with the registry. -/
theorem current_of_run {events : List GateEvent}
    (hkeeps : MeetsAlong (GateState.step sha3 true) (KeepsRights sha3) (initial registry) events)
    (hrun : run (GateState.step sha3 true) (initial registry) events = some s) :
  s.Current sha3
  := by
  have hinv : s.Guarded sha3 ∧ s.Current sha3 := by
    apply run_invariant _ _ hkeeps hrun
    · rintro s₁ e s₂ ⟨hguarded, hcurrent⟩ hkeeps hstep
      exact ⟨hguarded.step hstep, hcurrent.step hguarded hkeeps hstep⟩
    · refine ⟨guarded_initial registry, ?_, ?_, ?_⟩
      · intro c hc
        cases hc
      · intro c hc
        cases hc
      · intro line hline
        cases hline
  apply hinv.2

/-! ### The rights in force -/

/-- What a connection has accepted are the rights of its key in a registry: the registry has an
entry for the key, with the same rights. -/
def InForce (sha3 : Bytes → Block 32) (registry : ApiKeyRegistry)
    (accepted : Option (String × ApiKeyEntry)) : Prop :=
  ∃ secret entry current, accepted = some (secret, entry) ∧
    registry.lookup (sha3 (asBytes secret)) = some current ∧ current.SameRights entry

/-- The limit of an entry decides on the quota of a connection that has it. -/
theorem quotaRefusal_iff {entry : ApiKeyEntry} {hash : Option (Block 32)} (current : UInt64) :
  (quotaRefusal ⟨true, some entry, hash⟩ current).isSome ↔
    0 < entry.opsLimit ∧ entry.opsLimit ≤ current
  := by
  rw [quotaRefusal]
  dsimp only
  split
  · rename_i h
    simp [h]
  · rename_i h
    simp [h]

/-- A connection that goes on with its line, or is done with it, keeps what it has accepted. -/
theorem accepted_setConn {c : GateConnection} {j : ℕ} {phase : GatePhase}
    (hi : s.conns[i]? = some c) (hj : s.conns[j]? = some ⟨conn, phase, accepted⟩)
    (conn' : ConnState) (phase' : GatePhase) :
  ∃ c', (s.setConn j ⟨conn', phase', accepted⟩).conns[i]? = some c' ∧ c'.accepted = c.accepted
  := by
  have hlt := (List.getElem?_eq_some_iff.mp hi).1
  rw [GateState.setConn, List.getElem?_set]
  by_cases hji : j = i
  · subst hji
    rw [hi] at hj
    obtain rfl := Option.some.inj hj
    rw [if_pos rfl, if_pos hlt]
    exact ⟨_, rfl, rfl⟩
  · rw [if_neg hji]
    exact ⟨c, hi, rfl⟩

/-- Only a line of the connection itself changes what it has accepted. -/
theorem accepted_step {e : GateEvent} {c : GateConnection} (hi : s.conns[i]? = some c)
    (he : ∀ data, e ≠ .read i data) (hstep : GateState.step sha3 true s e = some s') :
  ∃ c', s'.conns[i]? = some c' ∧ c'.accepted = c.accepted
  := by
  cases step_eq_some hstep with
  | reload registry => exact ⟨c, hi, rfl⟩
  | connect =>
    have hlt := (List.getElem?_eq_some_iff.mp hi).1
    refine ⟨c, ?_, rfl⟩
    rw [List.getElem?_append_left hlt, hi]
  | @read j data conn conn' accepted reply hj hcheck =>
    have hji : j ≠ i := by
      rintro rfl
      apply he data rfl
    refine ⟨c, ?_, rfl⟩
    rw [GateState.setConn, List.getElem?_set_ne hji, hi]
  | checkQuota current hj => apply accepted_setConn hi hj
  | revalidate hj hcheck => apply accepted_setConn hi hj
  | refuse hj hcheck => apply accepted_setConn hi hj
  | pass hj hcheck => apply accepted_setConn hi hj

/-- With required authentication, each line that is passed to the handler comes with a key that is
registered when it is checked and, if it writes, with the permission of the entry that the `AUTH`
of its connection found; the limit of this entry decides on the quota of the connection; and only
an `AUTH` of the connection changes it.  As long as no reload changes the rights of a key with
which a connection is authenticated, these are the rights that the registry holds when the key is
checked, for the lines that were passed and for those whose key has just been checked. -/
theorem rights_of_run {events : List GateEvent}
    (hrun : run (GateState.step sha3 true) (initial registry) events = some s) :
  (∀ line ∈ s.passed, line.Authorized sha3) ∧
  (∀ c ∈ s.conns, ∀ data, c.phase = .authenticated data →
    ∃ secret entry, c.accepted = some (secret, entry) ∧ ∀ current,
      (quotaRefusal c.conn current).isSome ↔ 0 < entry.opsLimit ∧ entry.opsLimit ≤ current) ∧
  (∀ i c e s', s.conns[i]? = some c → (∀ data, e ≠ .read i data) →
    GateState.step sha3 true s e = some s' →
    ∃ c', s'.conns[i]? = some c' ∧ c'.accepted = c.accepted) ∧
  (MeetsAlong (GateState.step sha3 true) (KeepsRights sha3) (initial registry) events →
    (∀ line ∈ s.passed, InForce sha3 line.registry line.accepted) ∧
    ∀ c ∈ s.conns, ∀ data registry, c.phase = .validated data registry →
      InForce sha3 registry c.accepted)
  := by
  have hguarded := guarded_of_run hrun
  refine ⟨hguarded.passed, ?_, fun _ _ _ _ hi he hstep => accepted_step hi he hstep, ?_⟩
  · rintro ⟨conn, phase, accepted⟩ hc data rfl
    obtain ⟨secret, entry, haccepted, hconn⟩ := hguarded.conns _ hc
    obtain rfl : conn = _ := hconn
    exact ⟨secret, entry, haccepted, quotaRefusal_iff⟩
  · intro hkeeps
    have hcurrent := current_of_run hkeeps hrun
    constructor
    · intro line hline
      obtain ⟨secret, entry, haccepted, hregistered, -⟩ := hguarded.passed line hline
      obtain ⟨current, hlookup⟩ := Option.isSome_iff_exists.mp (AList.lookup_isSome.mpr hregistered)
      exact ⟨secret, entry, current, haccepted, hlookup,
        hcurrent.passed line hline secret entry haccepted current hlookup⟩
    · rintro ⟨conn, phase, accepted⟩ hc data registry rfl
      obtain ⟨secret, entry, hkey, hregistered⟩ := hguarded.conns _ hc
      obtain ⟨current, hlookup⟩ := Option.isSome_iff_exists.mp (AList.lookup_isSome.mpr hregistered)
      exact ⟨secret, entry, current, hkey.accepted, hlookup,
        hcurrent.validated _ hc data registry rfl secret entry hkey current hlookup⟩

/-- A run in which the registry is loaded, a connection authenticates with a key that may write,
and sends a `SET`. -/
def loadedRun : List GateEvent :=
  [.reload writerRegistry, .connect, .read 0 (asBytes "auth s"), .read 0 (asBytes "set k v"),
    .checkQuota 0 9, .revalidate 0, .checkPermission 0]

/-- The `SET` is passed to the handler with the rights that the registry holds. -/
theorem rights_of_loadedRun :
  ∃ s, run (GateState.step primeHash true) (initial ∅) loadedRun = some s ∧
    s.passed.map PassedLine.data = [asBytes "set k v"] ∧
    ∀ line ∈ s.passed, InForce primeHash line.registry line.accepted
  := by
  have hpassed : (run (GateState.step primeHash true) (initial ∅) loadedRun).map
      (fun s => s.passed.map PassedLine.data) = some [asBytes "set k v"] := by
    decide +kernel
  have hkeeps : MeetsAlong (GateState.step primeHash true) (KeepsRights primeHash) (initial ∅)
      loadedRun := by
    refine ⟨by rintro c ⟨⟩, fun _ _ => ?_⟩
    iterate 6 refine ⟨trivial, fun _ _ => ?_⟩
    trivial
  obtain ⟨s, hrun, hs⟩ := Option.map_eq_some_iff.mp hpassed
  exact ⟨s, hrun, hs, ((rights_of_run hrun).2.2.2 hkeeps).1⟩

/-- The registry after the permission of the writer was withdrawn and its limit lowered. -/
def demotedRegistry : ApiKeyRegistry :=
  (∅ : ApiKeyRegistry).insert (primeHash (asBytes "s")) ⟨"id", "writer", "read", 1⟩

/-- A run in which a connection authenticates, its key is demoted, and the connection sends a
`SET` when the counter of its key stands at 9. -/
def demotedRun : List GateEvent :=
  [.connect, .read 0 (asBytes "auth s"), .reload demotedRegistry, .read 0 (asBytes "set k v"),
    .checkQuota 0 9, .revalidate 0, .checkPermission 0]

/-- The `SET` is passed to the handler, although the registry that its key is checked against has
no permission to write for it and the limit 1. -/
theorem passed_demotedRun :
  (run (GateState.step primeHash true) (initial writerRegistry) demotedRun).map
      (fun s => s.passed.map fun line => (line.data,
        (line.registry.lookup (primeHash (asBytes "s"))).map fun entry =>
          (entry.canWrite, entry.opsLimit)))
    = some [(asBytes "set k v", some (false, 1))]
  := by
  decide +kernel

/-! ### Commands that do not write -/

/-- Neither of two refusals applies when both conditions are met. -/
theorem refusals_eq_none_iff {writes admin : Prop} [Decidable writes] [Decidable admin]
    {canWrite canAdmin : Bool} {refusal refusal' : String} :
  (if writes ∧ !canWrite then some refusal
    else if admin ∧ !canAdmin ∧ !canWrite then some refusal' else none) = none ↔
    (writes → canWrite = true) ∧ (admin → canAdmin = true ∨ canWrite = true)
  := by
  cases canWrite with
  | true => simp
  | false =>
    by_cases hwrites : writes
    · simp [hwrites]
    · cases canAdmin with
      | true => simp [hwrites]
      | false => simp [hwrites]

/-- The check of the permissions lets a line pass when the entry has what its command needs. -/
theorem permissionRefusal_eq_none_iff {entry : ApiKeyEntry} {hash : Option (Block 32)} :
  permissionRefusal true ⟨true, some entry, hash⟩ parts = none ↔
    (commandOf parts ∈ writeCommands → entry.canWrite = true) ∧
      (commandOf parts ∈ adminCommands → entry.canAdmin = true ∨ entry.canWrite = true)
  := by
  apply refusals_eq_none_iff

/-- The commands that read the cache. -/
def readCommands : List String := ["GET", "GETVERIFIED", "STATE"]

/-- Reading needs neither the permission to write nor that to administrate. -/
theorem not_mem_of_readCommand {command : String} (h : command ∈ readCommands) :
  command ∉ writeCommands ∧ command ∉ adminCommands
  := by
  obtain rfl | rfl | rfl : command = _ ∨ command = _ ∨ command = _ := by
    simpa [readCommands] using h
  · decide
  · decide
  · decide

theorem not_mem_of_adminCommand {command : String} (h : command ∈ adminCommands) :
  command ∉ writeCommands
  := by
  obtain rfl | rfl | rfl : command = _ ∨ command = _ ∨ command = _ := by
    simpa [adminCommands] using h
  · decide
  · decide
  · decide

/-- The last check passes the line of a connection with a key to the handler, unless its command
is one for which the entry has no permission. -/
theorem step_checkPermission {c : GateConnection} {data : Bytes} {registry : ApiKeyRegistry}
    {secret : String} {entry : ApiKeyEntry} (hi : s.conns[i]? = some c)
    (hphase : c.phase = .validated data registry) (hkey : c.HasKey sha3 secret entry) :
  ∃ s', GateState.step sha3 true s (.checkPermission i) = some s' ∧
    (s'.passed = s.passed ++ [⟨i, data, c.accepted, registry⟩] ↔
      (commandOf (words data) ∈ writeCommands → entry.canWrite = true) ∧
        (commandOf (words data) ∈ adminCommands →
          entry.canAdmin = true ∨ entry.canWrite = true))
  := by
  obtain ⟨conn, phase, accepted⟩ := c
  obtain rfl : phase = _ := hphase
  obtain rfl : conn = _ := hkey.conn
  have hpermitted : permissionRefusal true ⟨true, some entry, some (sha3 (asBytes secret))⟩
        (words data) = none ↔
      (commandOf (words data) ∈ writeCommands → entry.canWrite = true) ∧
        (commandOf (words data) ∈ adminCommands →
          entry.canAdmin = true ∨ entry.canWrite = true) := permissionRefusal_eq_none_iff
  rw [← hpermitted, GateState.step, hi]
  dsimp only
  cases hcheck : permissionRefusal true ⟨true, some entry, some (sha3 (asBytes secret))⟩
      (words data) with
  | none =>
    refine ⟨_, rfl, ?_⟩
    simp
  | some reply =>
    refine ⟨_, rfl, ?_⟩
    simp [GateState.setConn]

/-- A line is passed to the handler only by the last check of its connection. -/
theorem passed_step {e : GateEvent} (hstep : GateState.step sha3 true s e = some s') :
  s'.passed = s.passed ∨
    ∃ i c data registry, e = .checkPermission i ∧ s.conns[i]? = some c ∧
      c.phase = .validated data registry ∧
      s'.passed = s.passed ++ [⟨i, data, c.accepted, registry⟩]
  := by
  cases step_eq_some hstep with
  | @pass i data registry conn accepted hi hcheck =>
    right
    exact ⟨i, _, data, registry, rfl, hi, rfl, rfl⟩
  | _ =>
    left
    rfl

/-- A line on the audit log that was passed to the handler came with an entry that may
administrate or write. -/
def AdminsPermitted (s : GateState) : Prop :=
  ∀ line ∈ s.passed, ∀ secret entry, line.accepted = some (secret, entry) →
    commandOf (words line.data) ∈ adminCommands → entry.canAdmin = true ∨ entry.canWrite = true

/-- Every step keeps the lines on the audit log permitted. -/
theorem AdminsPermitted.step {e : GateEvent} (h : s.AdminsPermitted) (hguarded : s.Guarded sha3)
    (hstep : GateState.step sha3 true s e = some s') :
  s'.AdminsPermitted
  := by
  rcases passed_step hstep with hpassed | ⟨i, c, data, registry, rfl, hi, hphase, hpassed⟩
  · intro line hline
    rw [hpassed] at hline
    apply h line hline
  · intro line hline
    rw [hpassed] at hline
    rcases List.mem_append.mp hline with hline | hline
    · apply h line hline
    · obtain rfl := List.mem_singleton.mp hline
      have hvalid := hguarded.conns c (List.mem_of_getElem? hi)
      rw [GateConnection.Valid, hphase] at hvalid
      obtain ⟨secret, entry, hkey, -⟩ := hvalid
      intro secret' entry' haccepted hadmin
      obtain ⟨rfl, rfl⟩ := Prod.mk.inj (Option.some.inj (hkey.accepted.symm.trans haccepted))
      obtain ⟨s'', hstep', hiff⟩ := step_checkPermission hi hphase hkey
      obtain rfl := Option.some.inj (hstep.symm.trans hstep')
      apply (hiff.mp hpassed).2 hadmin

/-- With required authentication, each line that is passed to the handler comes with a key that an
`AUTH` accepted and that is registered when it is checked; if its command is one on the audit
log, the entry of the key may administrate or write.  After the check of the key, a command that
reads is passed whatever the permissions are, and one on the audit log exactly with these. -/
theorem permitted_of_run {events : List GateEvent}
    (hrun : run (GateState.step sha3 true) (initial registry) events = some s) :
  (∀ line ∈ s.passed, ∃ secret entry, line.accepted = some (secret, entry) ∧
    sha3 (asBytes secret) ∈ line.registry ∧
    (commandOf (words line.data) ∈ adminCommands →
      entry.canAdmin = true ∨ entry.canWrite = true)) ∧
  ∀ i c data registry, s.conns[i]? = some c → c.phase = .validated data registry →
    ∃ secret entry s', c.accepted = some (secret, entry) ∧
      GateState.step sha3 true s (.checkPermission i) = some s' ∧
      (commandOf (words data) ∈ readCommands →
        s'.passed = s.passed ++ [⟨i, data, c.accepted, registry⟩]) ∧
      (commandOf (words data) ∈ adminCommands →
        (s'.passed = s.passed ++ [⟨i, data, c.accepted, registry⟩] ↔
          entry.canAdmin = true ∨ entry.canWrite = true))
  := by
  have hguarded := guarded_of_run hrun
  have hadmins : s.Guarded sha3 ∧ s.AdminsPermitted := by
    refine @run_invariant_of_step _ _ _ (fun s : GateState => s.Guarded sha3 ∧ s.AdminsPermitted)
      ?_ _ _ _ ⟨guarded_initial registry, ?_⟩ hrun
    · rintro s₁ e s₂ ⟨hguarded, hadmins⟩ hstep
      exact ⟨hguarded.step hstep, hadmins.step hguarded hstep⟩
    · intro line hline
      cases hline
  constructor
  · intro line hline
    obtain ⟨secret, entry, haccepted, hregistered, -⟩ := hguarded.passed line hline
    exact ⟨secret, entry, haccepted, hregistered,
      hadmins.2 line hline secret entry haccepted⟩
  · intro i c data registry hi hphase
    have hvalid := hguarded.conns c (List.mem_of_getElem? hi)
    rw [GateConnection.Valid, hphase] at hvalid
    obtain ⟨secret, entry, hkey, -⟩ := hvalid
    obtain ⟨s', hstep, hiff⟩ := step_checkPermission hi hphase hkey
    refine ⟨secret, entry, s', hkey.accepted, hstep, ?_, ?_⟩
    · intro hread
      obtain ⟨hwrite, hadmin⟩ := not_mem_of_readCommand hread
      apply hiff.mpr ⟨fun h => absurd h hwrite, fun h => absurd h hadmin⟩
    · intro hadmin
      rw [hiff]
      constructor
      · rintro ⟨-, h⟩
        apply h hadmin
      · intro h
        exact ⟨fun hwrite => absurd hwrite (not_mem_of_adminCommand hadmin), fun _ => h⟩

/-- A registry with a key that may write only, with the secret `s`. -/
def writeOnlyRegistry : ApiKeyRegistry :=
  (∅ : ApiKeyRegistry).insert (primeHash (asBytes "s")) ⟨"id", "writer", "write", 0⟩

/-- A connection with this key reads a value and the audit log. -/
def writeOnlyRun : List GateEvent :=
  [.connect, .read 0 (asBytes "auth s"), .read 0 (asBytes "get k"), .checkQuota 0 0,
    .revalidate 0, .checkPermission 0, .read 0 (asBytes "AuditLog k"), .checkQuota 0 0,
    .revalidate 0, .checkPermission 0]

/-- Both lines are passed to the handler, and the key may neither read nor administrate. -/
theorem passed_writeOnlyRun :
  (run (GateState.step primeHash true) (initial writeOnlyRegistry) writeOnlyRun).map
      (fun s => s.passed.map fun line => (line.data,
        line.accepted.map fun accepted => (accepted.2.canRead, accepted.2.canAdmin)))
    = some [(asBytes "get k", some (false, false)), (asBytes "AuditLog k", some (false, false))]
  := by
  decide +kernel

/-- The line on the audit log is passed with a key that may write. -/
theorem permitted_writeOnlyRun :
  ∃ s, run (GateState.step primeHash true) (initial writeOnlyRegistry) writeOnlyRun = some s ∧
    ∀ line ∈ s.passed, commandOf (words line.data) ∈ adminCommands →
      ∃ secret entry, line.accepted = some (secret, entry) ∧
        (entry.canAdmin = true ∨ entry.canWrite = true)
  := by
  have hsome : (run (GateState.step primeHash true) (initial writeOnlyRegistry)
      writeOnlyRun).isSome = true := by
    decide +kernel
  obtain ⟨s, hrun⟩ := Option.isSome_iff_exists.mp hsome
  use s, hrun
  intro line hline hadmin
  obtain ⟨secret, entry, haccepted, -, hpermitted⟩ := (permitted_of_run hrun).1 line hline
  exact ⟨secret, entry, haccepted, hpermitted hadmin⟩

end GateState

end Cachee
