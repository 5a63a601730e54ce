import Cachee.Daemon.Connection

/-!
# What is counted under a key

A line that is passed to the handler under a key with a limit raises the counter of the key by one.
A line that the quota refuses is taken back; but a line that is refused later, because the key was
revoked or has no permission, stays counted.
-/

open Text

namespace Cachee

/-- The checks of a line with the words `parts`, one after another.  Returns the state after them
with the answer, if one of them has answered the line; otherwise the line is passed to the
handler. -/
def checkLine (sha3 : Bytes → Block 32) (requireAuth : Bool) (s : ServerState)
    (parts : List String) : ServerState × Option String :=
  match checkAuthenticated sha3 s.registry s.conn parts with
  | (conn, some reply) => ({ s with conn }, some reply)
  | (conn, none) =>
    match checkQuota s.counters conn with
    | (counters, some reply) => ({ s with counters, conn }, some reply)
    | (counters, none) =>
      match revalidate requireAuth s.registry conn with
      | (conn, some reply) => ({ s with counters, conn }, some reply)
      | (conn, none) => ({ s with counters, conn }, permissionRefusal requireAuth conn parts)

/-- The counter of the operations under a key. -/
def ServerState.opsOf (s : ServerState) (entry : ApiKeyEntry) : UInt64 :=
  (s.counters.lookup entry.keyId).getD 0

/-- An answer denies a line. -/
def isDenial (reply : String) : Bool :=
  hasPrefix reply "-NOAUTH" || hasPrefix reply "-NOPERM" || hasPrefix reply "-QUOTA"

/-- A line that is served in `s`, and leads to `s'`, is charged to the key of the connection if it is
passed to the handler, and not charged if it is denied. -/
structure ChargedIfPassed (sha3 : Bytes → Block 32) (requireAuth : Bool) (s s' : ServerState)
    (parts : List String) : Prop where
  denied : ∀ entry reply, s.conn.keyEntry = some entry →
    (checkLine sha3 requireAuth s parts).2 = some reply → isDenial reply = true →
    s'.opsOf entry = s.opsOf entry
  passed : ∀ entry, s.conn.keyEntry = some entry → (checkLine sha3 requireAuth s parts).2 = none →
    0 < entry.opsLimit → (s'.opsOf entry).toNat = (s.opsOf entry).toNat + 1

/-- A line reaches the quota: it is another one than an `AUTH` and a `PING`, on an authenticated
connection. -/
structure ReachesQuota (s : ServerState) (parts : List String) : Prop where
  auth : startsWith parts "AUTH" = false
  ping : startsWith parts "PING" = false
  authenticated : s.conn.authenticated = true

/-- A line is refused after it was counted: under a key with a limit that is not reached, the key
has been revoked, or has no permission for the command. -/
def RefusedAfterCount (s : ServerState) (parts : List String) : Prop :=
  ReachesQuota s parts ∧
    ∃ entry, s.conn.keyEntry = some entry ∧ 0 < entry.opsLimit ∧
      s.opsOf entry < entry.opsLimit ∧
      ((∃ hash, s.conn.keyHash = some hash ∧ hash ∉ s.registry) ∨
        (commandOf parts ∈ writeCommands ∧ entry.canWrite = false) ∨
        (commandOf parts ∈ adminCommands ∧ entry.canAdmin = false ∧ entry.canWrite = false))

variable {ext : Externals} {cfg : DaemonConfig} {requireAuth : Bool} {amb : Ambient}
  {s s' : ServerState} {data : Bytes} {parts : List String} {entry : ApiKeyEntry}
  {sha3 : Bytes → Block 32}

/-! ### The checks, and the handler after them -/

/-- A line is answered by the checks, or passed to the handler. -/
theorem serveLine_eq (ext : Externals) (cfg : DaemonConfig) (requireAuth : Bool) (amb : Ambient)
    (s : ServerState) (data : Bytes) :
  serveLine ext cfg requireAuth amb s data
    = match checkLine ext.sha3 requireAuth s (words data) with
      | (s', some reply) => .ok (s', reply)
      | (s', none) =>
        (handleResp ext cfg amb s.daemon data).map fun result =>
          ({ s' with daemon := result.1 }, result.2)
  := by
  rw [serveLine, checkLine]
  rcases checkAuthenticated ext.sha3 s.registry s.conn (words data) with ⟨conn, _ | reply⟩
  · simp only
    rcases checkQuota s.counters conn with ⟨counters, _ | reply⟩
    · simp only
      rcases revalidate requireAuth s.registry conn with ⟨conn', _ | reply⟩
      · simp only
        cases permissionRefusal requireAuth conn' (words data) with
        | none =>
          cases handleResp ext cfg amb s.daemon data with
          | ok result => rfl
          | error e => rfl
        | some reply => rfl
      · rfl
    · rfl
  · rfl

/-- Serving a line leaves all but the daemon as its checks do. -/
theorem exists_daemon_of_serveLine {reply : String}
    (h : serveLine ext cfg requireAuth amb s data = .ok (s', reply)) :
  ∃ daemon, s' = { (checkLine ext.sha3 requireAuth s (words data)).1 with daemon }
  := by
  rw [serveLine_eq] at h
  split at h
  · rename_i s₁ answer hcheck
    obtain ⟨rfl, -⟩ := Prod.mk.inj (Except.ok.inj h)
    use s₁.daemon
    rw [hcheck]
  · rename_i s₁ hcheck
    cases hresp : handleResp ext cfg amb s.daemon data with
    | error e =>
      rw [hresp] at h
      cases h
    | ok result =>
      rw [hresp] at h
      obtain ⟨rfl, -⟩ := Prod.mk.inj (Except.ok.inj h)
      use result.1
      rw [hcheck]

/-- Serving a line counts what its checks have counted. -/
theorem counters_of_serveLine {reply : String}
    (h : serveLine ext cfg requireAuth amb s data = .ok (s', reply)) :
  s'.counters = (checkLine ext.sha3 requireAuth s (words data)).1.counters
  := by
  obtain ⟨daemon, rfl⟩ := exists_daemon_of_serveLine h
  rfl

/-- A line that does not reach the quota is answered, and is not counted. -/
theorem checkLine_of_answered (sha3 : Bytes → Block 32) (requireAuth : Bool)
    (h : ¬ ReachesQuota s parts) :
  (checkLine sha3 requireAuth s parts).1.counters = s.counters ∧
    (checkLine sha3 requireAuth s parts).2.isSome
  := by
  have hanswered : (checkAuthenticated sha3 s.registry s.conn parts).2 ≠ none := by
    rw [checkAuthenticated]
    cases hauth : startsWith parts "AUTH" with
    | true => simp
    | false =>
      cases hping : startsWith parts "PING" with
      | true => simp
      | false =>
        cases hconn : s.conn.authenticated with
        | true => exact absurd ⟨hauth, hping, hconn⟩ h
        | false => simp
  rw [checkLine]
  revert hanswered
  rcases checkAuthenticated sha3 s.registry s.conn parts with ⟨conn, _ | reply⟩
  · intro hnone
    exact absurd rfl hnone
  · intro _
    exact ⟨rfl, rfl⟩

/-- Any other line goes on to the quota. -/
theorem ReachesQuota.checkAuthenticated_eq (h : ReachesQuota s parts) (sha3 : Bytes → Block 32) :
  checkAuthenticated sha3 s.registry s.conn parts = (s.conn, none)
  := by
  rw [checkAuthenticated, h.auth, h.ping, h.authenticated]
  rfl

/-- The refusal of a line that has passed the quota. -/
def refusal (requireAuth : Bool) (registry : ApiKeyRegistry) (conn : ConnState)
    (parts : List String) : Option String :=
  match revalidate requireAuth registry conn with
  | (_, some reply) => some reply
  | (conn, none) => permissionRefusal requireAuth conn parts

/-- A line that has passed the quota is refused if its key has been revoked, or has no permission
for its command. -/
theorem isSome_refusal_iff {entry : ApiKeyEntry} (hentry : s.conn.keyEntry = some entry) :
  (refusal true s.registry s.conn parts).isSome ↔
    (∃ hash, s.conn.keyHash = some hash ∧ hash ∉ s.registry) ∨
      (commandOf parts ∈ writeCommands ∧ entry.canWrite = false) ∨
      (commandOf parts ∈ adminCommands ∧ entry.canAdmin = false ∧ entry.canWrite = false)
  := by
  have hpermission : (permissionRefusal true s.conn parts).isSome ↔
      (commandOf parts ∈ writeCommands ∧ entry.canWrite = false) ∨
      (commandOf parts ∈ adminCommands ∧ entry.canAdmin = false ∧ entry.canWrite = false) := by
    rw [permissionRefusal, hentry]
    simp only [Bool.not_true, Bool.false_eq_true, if_false, Bool.not_eq_true']
    split
    · rename_i hwrite
      simp [hwrite]
    · rename_i hwrite
      split
      · rename_i hadmin
        simp [hadmin]
      · rename_i hadmin
        simp [hwrite, hadmin]
  rw [refusal, revalidate]
  cases hhash : s.conn.keyHash with
  | none => simpa using hpermission
  | some hash =>
    by_cases hmem : hash ∈ s.registry
    · simpa [hmem] using hpermission
    · simp [hmem]

/-- A refusal after the quota denies the line. -/
theorem isDenial_of_refusal {registry : ApiKeyRegistry} {conn : ConnState} {reply : String}
    (h : refusal requireAuth registry conn parts = some reply) :
  isDenial reply = true
  := by
  have hpermission : ∀ conn', permissionRefusal requireAuth conn' parts = some reply →
      isDenial reply = true := by
    intro conn' hrefused
    rw [permissionRefusal] at hrefused
    split at hrefused
    · split at hrefused
      · cases hrefused
      · split at hrefused
        · obtain rfl := Option.some.inj hrefused
          decide
        · split at hrefused
          · obtain rfl := Option.some.inj hrefused
            decide
          · cases hrefused
    · cases hrefused
  rw [refusal, revalidate] at h
  cases hhash : conn.keyHash with
  | none =>
    rw [hhash] at h
    apply hpermission conn h
  | some hash =>
    rw [hhash] at h
    by_cases hrevoked : requireAuth = true ∧ hash ∉ registry
    · simp only [if_pos hrevoked] at h
      obtain rfl := Option.some.inj h
      decide
    · simp only [if_neg hrevoked] at h
      apply hpermission conn h

/-! ### What is counted -/

/-- Under a key without a limit, nothing is counted. -/
theorem ReachesQuota.of_unlimited (h : ReachesQuota s parts) (hentry : s.conn.keyEntry = some entry)
    (hlimit : ¬ 0 < entry.opsLimit) :
  (checkLine sha3 requireAuth s parts).1.counters = s.counters
  := by
  rw [checkLine, h.checkAuthenticated_eq]
  simp only [checkQuota, hentry, if_neg hlimit]
  rcases revalidate requireAuth s.registry s.conn with ⟨conn, _ | reply⟩
  · rfl
  · rfl

/-- A line beyond the limit is refused, and is taken back. -/
theorem ReachesQuota.of_reached (h : ReachesQuota s parts) (sha3 : Bytes → Block 32)
    (requireAuth : Bool) (hentry : s.conn.keyEntry = some entry) (hlimit : 0 < entry.opsLimit)
    (hreached : entry.opsLimit ≤ s.opsOf entry) :
  (checkLine sha3 requireAuth s parts).1.opsOf entry = s.opsOf entry ∧
    (checkLine sha3 requireAuth s parts).2.isSome
  := by
  have hcurrent : (s.counters.lookup entry.keyId).getD 0 = s.opsOf entry := rfl
  rw [checkLine, h.checkAuthenticated_eq]
  have hrefused : (quotaRefusal s.conn (s.opsOf entry)).isSome := by
    rw [quotaRefusal, hentry]
    simp [hlimit, hreached]
  obtain ⟨reply, hreply⟩ := Option.isSome_iff_exists.mp hrefused
  simp only [checkQuota, hentry, if_pos hlimit, hcurrent, hreply]
  exact ⟨by simp [ServerState.opsOf], rfl⟩

/-- A line below the limit is counted, and then refused for its key or passed. -/
theorem ReachesQuota.of_counted (h : ReachesQuota s parts) (sha3 : Bytes → Block 32)
    (requireAuth : Bool) (hentry : s.conn.keyEntry = some entry) (hlimit : 0 < entry.opsLimit)
    (hlt : s.opsOf entry < entry.opsLimit) :
  (checkLine sha3 requireAuth s parts).1.opsOf entry = s.opsOf entry + 1 ∧
    (checkLine sha3 requireAuth s parts).2 = refusal requireAuth s.registry s.conn parts
  := by
  have hcurrent : (s.counters.lookup entry.keyId).getD 0 = s.opsOf entry := rfl
  rw [checkLine, h.checkAuthenticated_eq]
  have hpassed : quotaRefusal s.conn (s.opsOf entry) = none := by
    have hnot : ¬ (0 < entry.opsLimit ∧ entry.opsLimit ≤ s.opsOf entry) := by
      rintro ⟨-, hle⟩
      exact absurd hlt (UInt64.not_lt.mpr hle)
    rw [quotaRefusal, hentry]
    simp only [if_neg hnot]
  simp only [checkQuota, hentry, if_pos hlimit, hcurrent, hpassed, refusal]
  rcases revalidate requireAuth s.registry s.conn with ⟨conn, _ | reply⟩
  · exact ⟨by simp [ServerState.opsOf], rfl⟩
  · exact ⟨by simp [ServerState.opsOf], rfl⟩

/-- A counter below a limit has room for one more. -/
theorem toNat_add_one_of_lt {n limit : UInt64} (h : n < limit) :
  (n + 1).toNat = n.toNat + 1
  := by
  have hlimit := limit.toNat_lt
  rw [UInt64.lt_iff_toNat_lt] at h
  rw [UInt64.toNat_add]
  simp only [UInt64.reduceToNat]
  omega

/-- A line that is denied is not counted, unless it is refused after it was counted. -/
theorem opsOf_checkLine_of_denied {reply : String} (hnot : ¬ RefusedAfterCount s parts)
    (hentry : s.conn.keyEntry = some entry)
    (hdenied : (checkLine sha3 true s parts).2 = some reply) :
  (checkLine sha3 true s parts).1.opsOf entry = s.opsOf entry
  := by
  by_cases hreaches : ReachesQuota s parts
  · by_cases hlimit : 0 < entry.opsLimit
    · by_cases hlt : s.opsOf entry < entry.opsLimit
      · -- The line would be refused after it was counted.
        obtain ⟨-, hanswer⟩ := hreaches.of_counted sha3 true hentry hlimit hlt
        have hrefused : (refusal true s.registry s.conn parts).isSome := by
          rw [← hanswer, hdenied]
          rfl
        exact absurd ⟨hreaches, entry, hentry, hlimit, hlt,
          (isSome_refusal_iff hentry).mp hrefused⟩ hnot
      · exact (hreaches.of_reached sha3 true hentry hlimit (UInt64.not_lt.mp hlt)).1
    · rw [ServerState.opsOf, ServerState.opsOf, hreaches.of_unlimited hentry hlimit]
  · rw [ServerState.opsOf, ServerState.opsOf, (checkLine_of_answered sha3 true hreaches).1]

/-- A line that is passed to the handler is counted once. -/
theorem opsOf_checkLine_of_passed (hentry : s.conn.keyEntry = some entry)
    (hpassed : (checkLine sha3 true s parts).2 = none) (hlimit : 0 < entry.opsLimit) :
  ((checkLine sha3 true s parts).1.opsOf entry).toNat = (s.opsOf entry).toNat + 1
  := by
  have hnone : ¬ (checkLine sha3 true s parts).2.isSome := by
    rw [hpassed]
    decide
  by_cases hreaches : ReachesQuota s parts
  · by_cases hlt : s.opsOf entry < entry.opsLimit
    · rw [(hreaches.of_counted sha3 true hentry hlimit hlt).1, toNat_add_one_of_lt hlt]
    · apply absurd _ hnone
      apply (hreaches.of_reached sha3 true hentry hlimit (UInt64.not_lt.mp hlt)).2
  · apply absurd _ hnone
    apply (checkLine_of_answered sha3 true hreaches).2

/-- Every line that is answered is charged to the key if it is passed to the handler, and not
charged if it is denied, unless it is refused after it was counted. -/
theorem chargedIfPassed_iff {reply : String}
    (h : serveLine ext cfg true amb s data = .ok (s', reply)) :
  ChargedIfPassed ext.sha3 true s s' (words data) ↔ ¬ RefusedAfterCount s (words data)
  := by
  have hops : ∀ entry, s'.opsOf entry
      = (checkLine ext.sha3 true s (words data)).1.opsOf entry := by
    intro entry
    rw [ServerState.opsOf, ServerState.opsOf, counters_of_serveLine h]
  constructor
  · rintro hcharged ⟨hreaches, entry, hentry, hlimit, hlt, hrefused⟩
    obtain ⟨hcount, hanswer⟩ := hreaches.of_counted ext.sha3 true hentry hlimit hlt
    obtain ⟨reply', hreply'⟩ :=
      Option.isSome_iff_exists.mp ((isSome_refusal_iff hentry).mpr hrefused)
    have hsame := hcharged.denied entry reply' hentry (hanswer.trans hreply')
      (isDenial_of_refusal hreply')
    rw [hops, hcount] at hsame
    have hnat := congrArg UInt64.toNat hsame
    rw [toNat_add_one_of_lt hlt] at hnat
    omega
  · intro hnot
    constructor
    · intro entry reply' hentry hdenied _
      rw [hops, opsOf_checkLine_of_denied hnot hentry hdenied]
    · intro entry hentry hpassed hlimit
      rw [hops, opsOf_checkLine_of_passed hentry hpassed hlimit]

/-! ### A key that may only read -/

/-- A key with the permission to read and a limit of ten operations. -/
def readOnlyEntry : ApiKeyEntry := ⟨"k1", "reader", "read", 10⟩

/-- A connection that is authenticated with this key, which is registered and was not used yet. -/
def readOnlyServer : ServerState where
  daemon := .empty "node"
  registry := (∅ : ApiKeyRegistry).insert (primeHash (asBytes "secret")) readOnlyEntry
  counters := ∅
  conn := ⟨true, some readOnlyEntry, some (primeHash (asBytes "secret"))⟩

/-- A read under this key is charged. -/
theorem chargedIfPassed_readOnly :
  ∃ s', serveLine plainExternals plainConfig true plainAmbient readOnlyServer (asBytes "GET k")
      = .ok (s', nilReply) ∧
    (checkLine primeHash true readOnlyServer (words (asBytes "GET k"))).2 = none ∧
    (s'.opsOf readOnlyEntry).toNat = 1
  := by
  have hreply : (serveLine plainExternals plainConfig true plainAmbient readOnlyServer
      (asBytes "GET k")).toOption.map Prod.snd = some nilReply := by
    decide +kernel
  obtain ⟨⟨s', reply⟩, hserve, rfl⟩ := map_toOption_eq_some_iff.mp hreply
  have hpassed : (checkLine primeHash true readOnlyServer (words (asBytes "GET k"))).2 = none := by
    decide +kernel
  have hcommand : commandOf (words (asBytes "GET k")) = "GET" := by
    decide +kernel
  have hnot : ¬ RefusedAfterCount readOnlyServer (words (asBytes "GET k")) := by
    rintro ⟨-, entry, -, -, -, ⟨hash, hhash, hrevoked⟩ | ⟨hwrite, -⟩ | ⟨hadmin, -⟩⟩
    · obtain rfl := Option.some.inj hhash
      revert hrevoked
      decide +kernel
    · rw [hcommand] at hwrite
      revert hwrite
      decide
    · rw [hcommand] at hadmin
      revert hadmin
      decide
  have hcharged := (chargedIfPassed_iff hserve).mpr hnot
  exact ⟨s', hserve, hpassed, hcharged.passed readOnlyEntry rfl hpassed (by decide)⟩

/-- A write under this key is denied for lack of permission, and is counted. -/
theorem counted_denied_readOnly :
  ∃ s', serveLine plainExternals plainConfig true plainAmbient readOnlyServer (asBytes "SET k v")
      = .ok (s', "-NOPERM this key does not have write permission\r\n") ∧
    readOnlyServer.opsOf readOnlyEntry = 0 ∧ s'.opsOf readOnlyEntry = 1 ∧
    ¬ ChargedIfPassed primeHash true readOnlyServer s' (words (asBytes "SET k v"))
  := by
  have hresult : (serveLine plainExternals plainConfig true plainAmbient readOnlyServer
      (asBytes "SET k v")).toOption.map (fun result => (result.2, result.1.opsOf readOnlyEntry))
        = some ("-NOPERM this key does not have write permission\r\n", 1) := by
    decide +kernel
  obtain ⟨⟨s', reply⟩, hserve, hresult⟩ := map_toOption_eq_some_iff.mp hresult
  obtain ⟨rfl, hops⟩ := Prod.mk.inj hresult
  have hdenied : (checkLine primeHash true readOnlyServer (words (asBytes "SET k v"))).2
      = some "-NOPERM this key does not have write permission\r\n" := by
    decide +kernel
  refine ⟨s', hserve, rfl, hops, ?_⟩
  intro hcharged
  have hsame := hcharged.denied readOnlyEntry _ rfl hdenied (by decide)
  rw [hops] at hsame
  revert hsame
  decide

end Cachee
