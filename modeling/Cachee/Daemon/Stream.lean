import Cachee.Daemon.Charges
import Cachee.Daemon.Replies
import Cachee.Library.Lines

/-!
# Reads and commands

Clients send commands that end with a carriage return and a line feed, and the loop of a
connection takes what each read returns for one line.  Both bytes are white space, so the words of
the stream are those of its commands, one after another.  The loop executes the commands that were
sent, and replies to each, exactly when no word is cut by the end of a read, every read has as many
words as the command in its place, and no command is one on which the handler panics.
-/

open Text

namespace Cachee

variable {ext : Externals} {cfg : DaemonConfig} {requireAuth : Bool}

/-! ### The words of a stream -/

/-- The bytes that a client sends for commands. -/
def stream (commands : List Bytes) : Bytes := commands.flatMap fun command => command ++ [13, 10]

/-- The words on both sides of a line feed or a carriage return. -/
theorem words_append_cons {bs rest : Bytes} {a : UInt8} (ha : a < 0x80)
    (hspace : isWhitespace (Char.ofNat a.toNat) = true) :
  words (bs ++ a :: rest) = words bs ++ words rest
  := by
  rw [words, fromUtf8Lossy_append_ascii ha, splitWhitespace_append_cons hspace]
  rfl

/-- The words of a stream are those of its commands. -/
theorem words_stream (commands : List Bytes) :
  words (stream commands) = commands.flatMap words
  := by
  induction commands with
  | nil => rfl
  | cons command commands ih =>
    have hsplit : stream (command :: commands)
        = command ++ 13 :: ([] ++ 10 :: stream commands) := by
      simp [stream]
    have hnil : words [] = [] := rfl
    rw [hsplit, words_append_cons (by decide) (by decide),
      words_append_cons (by decide) (by decide), ih, hnil, List.nil_append, List.flatMap_cons]

/-! ### Commands that are executed -/

section Executes

variable (ext : Externals) (cfg : DaemonConfig) (requireAuth : Bool)

/-- In `s`, the command with the words `parts` is executed: it leads to a state, with a reply. -/
inductive Executes (amb : Ambient) (s : ServerState) (parts : List String) :
    ServerState → String → Prop
  /-- One of the checks answers the command. -/
  | answered {s' : ServerState} {reply : String}
    (hcheck : checkLine ext.sha3 requireAuth s parts = (s', some reply)) :
    Executes amb s parts s' reply
  /-- The command passes the checks, and the handler replies to it. -/
  | handled {s' : ServerState} {daemon : DaemonState} {reply : String}
    (hcheck : checkLine ext.sha3 requireAuth s parts = (s', none))
    (hhandle : handleWords ext cfg amb s.daemon parts = .ok (daemon, reply)) :
    Executes amb s parts { s' with daemon } reply

/-- From `s` on, commands are executed one after another, with a reply to each of them. -/
inductive ExecutesAll :
    ServerState → List Ambient → List (List String) → ServerState → List Exchange → Prop
  | nil {s : ServerState} : ExecutesAll s [] [] s []
  | cons {s s₁ s' : ServerState} {amb : Ambient} {ambs : List Ambient} {parts : List String}
    {commands : List (List String)} {reply : String} {exchanges : List Exchange}
    (hhead : Executes ext cfg requireAuth amb s parts s₁ reply)
    (htail : ExecutesAll s₁ ambs commands s' exchanges) :
    ExecutesAll s (amb :: ambs) (parts :: commands) s' (⟨parts, reply⟩ :: exchanges)

end Executes

variable {amb : Ambient} {s s' : ServerState} {parts : List String} {exchanges : List Exchange}

/-- Each command that is executed has one exchange. -/
theorem parts_of_executesAll {ambs : List Ambient} {commands : List (List String)}
    (h : ExecutesAll ext cfg requireAuth s ambs commands s' exchanges) :
  exchanges.map Exchange.parts = commands
  := by
  induction h with
  | nil => rfl
  | cons _ _ ih => rw [List.map_cons, ih]

/-- A line is served exactly when its words are executed. -/
theorem serveLine_eq_ok_iff {data : Bytes} {reply : String} :
  serveLine ext cfg requireAuth amb s data = .ok (s', reply) ↔
    Executes ext cfg requireAuth amb s (words data) s' reply
  := by
  rw [serveLine_eq]
  constructor
  · intro h
    split at h
    · rename_i hcheck
      obtain ⟨rfl, rfl⟩ := Prod.mk.inj (Except.ok.inj h)
      apply Executes.answered hcheck
    · rename_i hcheck
      cases hresp : handleResp ext cfg amb s.daemon data with
      | error e =>
        rw [hresp] at h
        cases h
      | ok result =>
        rw [hresp] at h
        obtain ⟨rfl, rfl⟩ := Prod.mk.inj (Except.ok.inj h)
        apply Executes.handled hcheck hresp
  · rintro (hcheck | ⟨hcheck, hhandle⟩)
    · rw [hcheck]
    · rw [hcheck, handleResp_eq, hhandle]
      rfl

/-- The loop of a connection executes the words of what each read returns, one read after
another. -/
theorem serve_eq_ok_iff {input : List (Ambient × Bytes)} :
  serve ext cfg requireAuth s input = .ok (s', exchanges) ↔
    ExecutesAll ext cfg requireAuth s (input.map Prod.fst) (input.map fun read => words read.2)
      s' exchanges
  := by
  induction input generalizing s exchanges with
  | nil =>
    constructor
    · intro h
      obtain ⟨rfl, rfl⟩ := Prod.mk.inj (Except.ok.inj h)
      apply ExecutesAll.nil
    · rintro ⟨⟩
      rfl
  | cons read input ih =>
    obtain ⟨amb, data⟩ := read
    constructor
    · intro h
      obtain ⟨⟨s₁, reply⟩, hline, h⟩ := bind_eq_ok_iff.mp h
      obtain ⟨⟨s₂, exchanges'⟩, hrest, h⟩ := bind_eq_ok_iff.mp h
      obtain ⟨rfl, rfl⟩ := Prod.mk.inj (Except.ok.inj h)
      apply ExecutesAll.cons (serveLine_eq_ok_iff.mp hline) (ih.mp hrest)
    · rintro (_ | ⟨hhead, htail⟩)
      rw [serve, serveLine_eq_ok_iff.mpr hhead, ok_bind]
      dsimp only
      rw [ih.mpr htail]
      rfl

/-- Whatever the connection and the daemon are like, the loop returns on the reads, and has executed
the commands that were sent, once each and in order, with a reply to each. -/
def ExecutesSent (ext : Externals) (cfg : DaemonConfig) (requireAuth : Bool)
    (commands reads : List Bytes) : Prop :=
  ∀ (s : ServerState) (input : List (Ambient × Bytes)), input.map Prod.snd = reads →
    ∃ s' exchanges, serve ext cfg requireAuth s input = .ok (s', exchanges) ∧
      ExecutesAll ext cfg requireAuth s (input.map Prod.fst) (commands.map words) s' exchanges

/-! ### Commands that are replied to -/

/-- A command on which the handler does not panic is executed in every state. -/
theorem exists_executes (requireAuth : Bool) (amb : Ambient) (s : ServerState)
    (h : Replied ext.library cfg parts) :
  ∃ s' reply, Executes ext cfg requireAuth amb s parts s' reply
  := by
  rcases hcheck : checkLine ext.sha3 requireAuth s parts with ⟨s', _ | reply⟩
  · obtain ⟨⟨daemon, reply⟩, hhandle⟩ :=
      (returns_handleWords_iff ext cfg amb s.daemon parts).mpr h
    exact ⟨_, reply, .handled hcheck hhandle⟩
  · exact ⟨s', reply, .answered hcheck⟩

/-- Commands on which the handler does not panic are all executed. -/
theorem exists_executesAll {input : List (Ambient × List String)} (s : ServerState)
    (h : ∀ command ∈ input, Replied ext.library cfg command.2) :
  ∃ s' exchanges, ExecutesAll ext cfg requireAuth s (input.map Prod.fst) (input.map Prod.snd)
    s' exchanges
  := by
  induction input generalizing s with
  | nil => exact ⟨s, [], .nil⟩
  | cons command input ih =>
    obtain ⟨hcommand, hrest⟩ := List.forall_mem_cons.mp h
    obtain ⟨s₁, reply, hhead⟩ := exists_executes requireAuth command.1 s hcommand
    obtain ⟨s', exchanges, htail⟩ := ih s₁ hrest
    exact ⟨s', _, .cons hhead htail⟩

/-! ### A connection that passes every command -/

/-- A key with the permission to write, and without a limit. -/
def writerEntry : ApiKeyEntry := ⟨"writer", "writer", "write", 0⟩

/-- The secret that a command gives, if it is an `AUTH`, is that of `writerEntry`. -/
def Registered (sha3 : Bytes → Block 32) (registry : ApiKeyRegistry) (parts : List String) : Prop :=
  ∀ secret, parts[1]? = some secret → registry.lookup (sha3 (asBytes secret)) = some writerEntry

/-- The secrets of any commands are registered somewhere. -/
theorem exists_registered (sha3 : Bytes → Block 32) (commands : List (List String)) :
  ∃ registry, ∀ parts ∈ commands, Registered sha3 registry parts
  := by
  induction commands with
  | nil => exact ⟨∅, by simp⟩
  | cons parts commands ih =>
    obtain ⟨registry, hregistry⟩ := ih
    let secret := (parts[1]?).getD ""
    refine ⟨registry.insert (sha3 (asBytes secret)) writerEntry, List.forall_mem_cons.mpr ⟨?_, ?_⟩⟩
    · intro secret' hsecret'
      have hsame : secret = secret' := by
        simp [secret, hsecret']
      rw [← hsame, AList.lookup_insert]
    · intro parts' hparts' secret' hsecret'
      by_cases hhash : sha3 (asBytes secret') = sha3 (asBytes secret)
      · rw [hhash, AList.lookup_insert]
      · rw [AList.lookup_insert_ne hhash]
        apply hregistry parts' hparts' secret' hsecret'

/-- A connection passes every command: it is authenticated, without a key or with `writerEntry`, and
its key is registered. -/
structure Unhindered (registry : ApiKeyRegistry) (s : ServerState) : Prop where
  registry_eq : s.registry = registry
  authenticated : s.conn.authenticated = true
  keyEntry : ∀ entry, s.conn.keyEntry = some entry → entry = writerEntry
  keyHash : ∀ hash, s.conn.keyHash = some hash → hash ∈ registry

namespace Unhindered

variable {registry : ApiKeyRegistry}

theorem handleAuth {sha3 : Bytes → Block 32} (h : Unhindered registry s)
    (hparts : Registered sha3 registry parts) :
  Unhindered registry { s with conn := (handleAuth sha3 registry s.conn parts).1 }
  := by
  unfold Cachee.handleAuth
  cases hsecret : parts[1]? with
  | none => apply h
  | some secret =>
    have hlookup := hparts secret hsecret
    dsimp only
    rw [hlookup]
    refine ⟨h.registry_eq, rfl, ?_, ?_⟩
    · rintro entry ⟨⟩
      rfl
    · rintro hash ⟨⟩
      apply AList.lookup_isSome.mp
      rw [hlookup]
      rfl

/-- No command is counted on such a connection. -/
theorem checkQuota (h : Unhindered registry s) :
  checkQuota s.counters s.conn = (s.counters, none)
  := by
  unfold Cachee.checkQuota
  cases hentry : s.conn.keyEntry with
  | none => rfl
  | some entry =>
    obtain rfl := h.keyEntry entry hentry
    rfl

theorem revalidate (requireAuth : Bool) (h : Unhindered registry s) :
  revalidate requireAuth s.registry s.conn = (s.conn, none)
  := by
  unfold Cachee.revalidate
  cases hhash : s.conn.keyHash with
  | none => rfl
  | some hash =>
    dsimp only
    rw [h.registry_eq, if_neg (fun hrevoked => hrevoked.2 (h.keyHash hash hhash))]

theorem permissionRefusal (requireAuth : Bool) (h : Unhindered registry s) (parts : List String) :
  permissionRefusal requireAuth s.conn parts = none
  := by
  unfold Cachee.permissionRefusal
  have hwrite : writerEntry.canWrite = true := by decide
  cases hentry : s.conn.keyEntry with
  | none => rfl
  | some entry =>
    obtain rfl := h.keyEntry entry hentry
    simp [hwrite]

/-- Such a connection is kept by the checks, which answer an `AUTH` and a `PING` only. -/
theorem checkLine {sha3 : Bytes → Block 32} (requireAuth : Bool) (h : Unhindered registry s)
    (hparts : Registered sha3 registry parts) :
  Unhindered registry (checkLine sha3 requireAuth s parts).1 ∧
    ((checkLine sha3 requireAuth s parts).2 ≠ none →
      startsWith parts "AUTH" = true ∨ startsWith parts "PING" = true)
  := by
  unfold Cachee.checkLine checkAuthenticated
  cases hauth : startsWith parts "AUTH" with
  | true =>
    obtain rfl := h.registry_eq
    exact ⟨h.handleAuth hparts, fun _ => Or.inl rfl⟩
  | false =>
    rw [if_neg Bool.false_ne_true]
    cases hping : startsWith parts "PING" with
    | true =>
      rw [if_pos rfl]
      exact ⟨h, fun _ => Or.inr rfl⟩
    | false =>
      rw [if_neg Bool.false_ne_true, h.authenticated, if_neg (by decide)]
      dsimp only
      rw [h.checkQuota]
      dsimp only
      rw [h.revalidate]
      dsimp only
      rw [h.permissionRefusal]
      exact ⟨h, fun hanswer => absurd rfl hanswer⟩

end Unhindered

/-- A `SET` is neither an `AUTH` nor a `PING`. -/
theorem startsWith_of_isSet (h : IsSet parts) {word : String} (hword : toUppercase word ≠ "SET") :
  startsWith parts word = false
  := by
  cases parts with
  | nil => rfl
  | cons command args => apply eqIgnoreAsciiCase_of_isSet h hword

/-- On a connection that passes every command, the handler does not panic on a command that is
executed, and the connection stays so. -/
theorem Unhindered.executes {registry : ApiKeyRegistry} {reply : String} (h : Unhindered registry s)
    (hparts : Registered ext.sha3 registry parts)
    (hexecutes : Executes ext cfg requireAuth amb s parts s' reply) :
  Unhindered registry s' ∧ Replied ext.library cfg parts
  := by
  obtain ⟨hunhindered, hanswer⟩ := h.checkLine requireAuth hparts
  cases hexecutes with
  | answered hcheck =>
    rw [hcheck] at hunhindered hanswer
    refine ⟨hunhindered, replied_of_not_isSet ?_⟩
    intro hset
    rcases hanswer (by simp) with hauth | hping
    · rw [startsWith_of_isSet hset (by decide)] at hauth
      cases hauth
    · rw [startsWith_of_isSet hset (by decide)] at hping
      cases hping
  | handled hcheck hhandle =>
    rw [hcheck] at hunhindered
    refine ⟨⟨hunhindered.registry_eq, hunhindered.authenticated, hunhindered.keyEntry,
      hunhindered.keyHash⟩, ?_⟩
    apply (returns_handleWords_iff ext cfg amb s.daemon parts).mp ⟨_, hhandle⟩

/-- On such a connection, the handler panics on no command that is executed. -/
theorem Unhindered.executesAll {registry : ApiKeyRegistry} {ambs : List Ambient}
    {commands : List (List String)} (h : Unhindered registry s)
    (hcommands : ∀ parts ∈ commands, Registered ext.sha3 registry parts)
    (hexecutes : ExecutesAll ext cfg requireAuth s ambs commands s' exchanges) :
  ∀ parts ∈ commands, Replied ext.library cfg parts
  := by
  induction hexecutes with
  | nil => simp
  | cons hhead _ ih =>
    obtain ⟨hparts, hrest⟩ := List.forall_mem_cons.mp hcommands
    obtain ⟨hunhindered, hreplied⟩ := h.executes hparts hhead
    apply List.forall_mem_cons.mpr ⟨hreplied, ih hunhindered hrest⟩

/-! ### When the commands that were sent are executed -/

/-- The commands that were sent are executed if the words of each read are those of the command in
its place, and the handler panics on none of them. -/
theorem executesSent_of_words {commands reads : List Bytes}
    (hwords : reads.map words = commands.map words)
    (hreplied : ∀ command ∈ commands, Replied ext.library cfg (words command)) :
  ExecutesSent ext cfg requireAuth commands reads
  := by
  intro s input hinput
  have hparts : (input.map fun read => words read.2) = commands.map words := by
    rw [← hwords, ← hinput, List.map_map]
    rfl
  have hinputReplied : ∀ command ∈ input.map fun read => (read.1, words read.2),
      Replied ext.library cfg command.2 := by
    intro command hcommand
    have hmem : command.2 ∈ commands.map words := by
      obtain ⟨read, hread, rfl⟩ := List.mem_map.mp hcommand
      rw [← hparts]
      apply List.mem_map_of_mem hread
    obtain ⟨sent, hsent, heq⟩ := List.mem_map.mp hmem
    rw [← heq]
    apply hreplied sent hsent
  obtain ⟨s', exchanges, hexecutes⟩ := @exists_executesAll ext cfg requireAuth _ s hinputReplied
  rw [List.map_map, List.map_map] at hexecutes
  refine ⟨s', exchanges, serve_eq_ok_iff.mpr hexecutes, ?_⟩
  rw [← hparts]
  apply hexecutes

/-- What the loop has executed are the words of the reads. -/
theorem words_of_executesSent {commands reads : List Bytes}
    (h : ExecutesSent ext cfg requireAuth commands reads) :
  reads.map words = commands.map words
  := by
  let input := reads.map fun read => (plainAmbient, read)
  have hinput : input.map Prod.snd = reads := by
    simp [input]
  obtain ⟨s', exchanges, hserve, hexecutes⟩ :=
    h ⟨.empty "node", ∅, ∅, .initial requireAuth⟩ input hinput
  rw [← parts_of_executesAll hexecutes, parts_of_executesAll (serve_eq_ok_iff.mp hserve),
    List.map_map]
  rfl

/-- The loop executes the commands that were sent, and replies to each, exactly when no word is cut
by the end of a read, every read has as many words as the command in its place, and no command is a
`SET` whose key is its first word `FP`, or one that is to be signed with keys that are not
accepted. -/
theorem executesSent_iff {commands reads : List Bytes} (hstream : reads.flatten = stream commands) :
  ExecutesSent ext cfg requireAuth commands reads ↔
    reads.flatMap words = words reads.flatten ∧
      (reads.map fun read => (words read).length)
        = (commands.map fun command => (words command).length) ∧
      ∀ command ∈ commands, ¬ KeyIsFp (words command) ∧
        ¬ SignsWithRejectedKeys ext.library cfg (words command)
  := by
  have hlists : reads.map words = commands.map words ↔
      reads.flatMap words = words reads.flatten ∧
        (reads.map fun read => (words read).length)
          = commands.map fun command => (words command).length := by
    rw [List.eq_iff_flatten_eq, hstream, words_stream, List.map_map, List.map_map]
    rfl
  rw [← and_assoc, ← hlists]
  constructor
  · intro h
    refine ⟨words_of_executesSent h, ?_⟩
    -- A panic is seen on a connection that passes all of the commands.
    obtain ⟨registry, hregistry⟩ := exists_registered ext.sha3 (commands.map words)
    obtain ⟨s', exchanges, -, hexecutes⟩ :=
      h ⟨.empty "node", registry, ∅, .initial false⟩ (reads.map fun read => (plainAmbient, read))
        (by simp)
    have hunhindered : Unhindered registry ⟨.empty "node", registry, ∅, .initial false⟩ :=
      ⟨rfl, rfl, by simp [ConnState.initial], by simp [ConnState.initial]⟩
    intro command hcommand
    apply hunhindered.executesAll hregistry hexecutes
    apply List.mem_map_of_mem hcommand
  · rintro ⟨hwords, hreplied⟩
    apply executesSent_of_words hwords hreplied

/-- A `SET` and a `GET` that were read one by one are executed as they were sent. -/
theorem executesSent_setGet :
  ExecutesSent plainExternals plainConfig true [asBytes "SET k v", asBytes "GET k"]
    [asBytes "SET k v\r\n", asBytes "GET k\r\n"]
  := by
  have hset : words (asBytes "SET k v") = ["SET", "k", "v"] := by decide +kernel
  have hget : words (asBytes "GET k") = ["GET", "k"] := by decide +kernel
  apply (executesSent_iff (by decide +kernel)).mpr
  refine ⟨by decide +kernel, by decide +kernel, ?_⟩
  have hfp : fpIndex ["SET", "k", "v"] = none := by decide
  simp [hset, hget, KeyIsFp, SignsWithRejectedKeys, IsSet, hfp]

/-- A `SET` of the key `k` to `DEL x`, which is sent as one command. -/
def sentCommands : List Bytes := [asBytes "SET k DEL x"]

/-- Two reads of this command. -/
def cutReads : List (Ambient × Bytes) :=
  [(plainAmbient, asBytes "SET k "), (plainAmbient, asBytes "DEL x\r\n")]

/-- The two reads are those of the command, but a `SET` without a value and a `DEL` are executed,
and replied to. -/
theorem not_executesSent_cutReads :
  (cutReads.map Prod.snd).flatten = stream sentCommands ∧
    (serve plainExternals plainConfig false ⟨.empty "node", ∅, ∅, .initial false⟩ cutReads).map
        Prod.snd
      = .ok [⟨["SET", "k"], "-ERR unknown command\r\n"⟩, ⟨["DEL", "x"], ":0\r\n"⟩] ∧
    ¬ ExecutesSent plainExternals plainConfig false sentCommands (cutReads.map Prod.snd)
  := by
  refine ⟨by decide +kernel, by decide +kernel, ?_⟩
  intro hsent
  have hlengths := congrArg List.length (words_of_executesSent hsent)
  revert hlengths
  decide

end Cachee
