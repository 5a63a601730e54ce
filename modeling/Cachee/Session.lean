import Cachee.Library.Fields
import Cachee.Resp

/-!
# Sessions of the client

The commands of the command line that work on the entries of a running daemon are performed one
after another, and in between the engine may give up entries.  What they print is what they would
print about a map of texts: a time to live becomes a part of the value, and the daemon knows no
commands to flush the entries, to list the keys or to ask for the time to live.  A daemon that
requires authentication refuses them all, since they send no key.
-/

open Text

namespace Cachee

namespace Resp

/-! ### The other commands -/

/-- `str::parse::<i64>`, without the reason of its error. -/
def parseI64 (text : List Char) : Option ℤ :=
  let negative := text.head? = some '-'
  let digits := if text.head? = some '+' ∨ negative then text.tail else text
  let value : ℤ := if negative then -(Nat.ofDigitChars 10 digits 0) else Nat.ofDigitChars 10 digits 0
  if digits = [] ∨ digits.any (fun c => !c.isDigit) then none
  else if -2 ^ 63 ≤ value ∧ value < 2 ^ 63 then some value
  else none

/-- The text of a reply in a buffer. -/
def responseOf (buf : Bytes) : String := String.ofList (fromUtf8Lossy buf)

/-- What a `del` prints about a reply. -/
def printDel (buf : Bytes) : List String :=
  if contains (responseOf buf) ":1" then ["(integer) 1"] else ["(integer) 0"]

/-- What a `ttl` prints about a reply. -/
def printTtl (buf : Bytes) : List String :=
  let response := responseOf buf
  match response.toList with
  | ':' :: val =>
    let secs := (parseI64 (trim (String.ofList val)).toList).getD (-2)
    if secs = -2 then ["(key does not exist)"]
    else if secs = -1 then ["(no expiry)"]
    else [s!"(integer) {secs} seconds"]
  | _ => [trim response]

/-- What a `keys` prints about a reply. -/
def printKeys (limit : ℕ) (buf : Bytes) : List String :=
  [trim (responseOf buf), s!"(limit: {limit})"]

/-- What a `flush` prints about a reply. -/
def printFlush (buf : Bytes) : List String :=
  if contains (responseOf buf) "OK" then ["All entries flushed."]
  else [s!"Flush response: {trim (responseOf buf)}"]

/-- A command of the command line on the entries of the cache. -/
inductive ClientCommand where
  | set (key value : String) (ttl : Option UInt32)
  | get (key : String) (showReceipt : Bool)
  | del (key : String)
  | ttl (key : String)
  | keys (pattern : String) (limit : ℕ)
  | flush (skipConfirm : Bool)

section Commands

variable (ext : Externals) (cfg : DaemonConfig) (requireAuth : Bool) (amb : Ambient)
  (s : ServerState)

/-- `del`: returns the state after it with the lines that it prints. -/
def del (key : String) : Outcome (ServerState × List String) := do
  let (s, reply) ← request ext cfg requireAuth amb s s!"DEL {key}\r\n"
  return (s, printDel (readInto 256 reply))

/-- `ttl`: returns the state after it with the lines that it prints. -/
def ttl (key : String) : Outcome (ServerState × List String) := do
  let (s, reply) ← request ext cfg requireAuth amb s s!"TTL {key}\r\n"
  return (s, printTtl (readInto 256 reply))

/-- `keys`: returns the state after it with the lines that it prints. -/
def keys (pattern : String) (limit : ℕ) : Outcome (ServerState × List String) := do
  let (s, reply) ← request ext cfg requireAuth amb s s!"KEYS {pattern}\r\n"
  return (s, printKeys limit (readInto 65536 reply))

/-- `flush`: returns the state after it with the lines that it prints.  Unless the confirmation is
skipped, it does not connect. -/
def flush (skipConfirm : Bool) : Outcome (ServerState × List String) :=
  if skipConfirm then do
    let (s, reply) ← request ext cfg requireAuth amb s "FLUSHALL\r\n"
    return (s, printFlush (readInto 256 reply))
  else
    return (s, ["This will delete ALL cached entries. Are you sure?",
      "  Run with --yes to skip this prompt."])

/-- Perform a command. -/
def ClientCommand.perform : ClientCommand → Outcome (ServerState × List String)
  | .set key value t => Resp.set ext cfg requireAuth amb s key value t
  | .get key showReceipt => Resp.get ext cfg requireAuth amb s key showReceipt
  | .del key => Resp.del ext cfg requireAuth amb s key
  | .ttl key => Resp.ttl ext cfg requireAuth amb s key
  | .keys pattern limit => Resp.keys ext cfg requireAuth amb s pattern limit
  | .flush skipConfirm => Resp.flush ext cfg requireAuth amb s skipConfirm

end Commands

/-- A command that is performed, with what the daemon meets with, or an entry that the engine gives
up. -/
inductive SessionEvent where
  | command (amb : Ambient) (c : ClientCommand)
  | evict (key : String)

/-- Perform the events of a session.  Returns the state after them with the lines of each command.
-/
def session (ext : Externals) (cfg : DaemonConfig) (requireAuth : Bool) :
    ServerState → List SessionEvent → Outcome (ServerState × List (List String))
  | s, [] => return (s, [])
  | s, .command amb c :: events => do
    let (s, lines) ← c.perform ext cfg requireAuth amb s
    let (s, printed) ← session ext cfg requireAuth s events
    return (s, lines :: printed)
  | s, .evict key :: events =>
    session ext cfg requireAuth
      { s with daemon := { s.daemon with engine := s.daemon.engine.erase key } } events

/-! ### A map of texts -/

/-- The texts of the keys. -/
abbrev TextMap := AList fun _ : String => String

/-- What a command prints that is refused with a line. -/
def ClientCommand.refused (reply : String) : ClientCommand → List String
  | .del _ => ["(integer) 0"]
  | .keys _ limit => [reply, s!"(limit: {limit})"]
  | .flush _ => [s!"Flush response: {reply}"]
  | _ => [reply]

/-- The text that a `set` stores. -/
def storedText (value : String) (ttl : Option UInt32) : String :=
  match ttl with
  | some t => s!"{value} EX {t}"
  | none => value

/-- What a command does to a map of texts, and what it prints. -/
def ClientCommand.meaning (cfg : DaemonConfig) (requireAuth : Bool) (m : TextMap) (c : ClientCommand) :
    TextMap × List String :=
  match c with
  | .flush false => (m, ["This will delete ALL cached entries. Are you sure?",
      "  Run with --yes to skip this prompt."])
  | c =>
    if requireAuth then
      (m, c.refused "-NOAUTH Authentication required. Send AUTH <api_key> first.")
    else
      match c with
      | .set key value t =>
        if cfg.strictMode then
          (m, c.refused "-ERR computation fingerprint required (strict mode)")
        else (m.insert key (storedText value t), ["OK"])
      | .get key showReceipt =>
        if cfg.safeReadMode then
          (m, c.refused ("-ERR Use GETVERIFIED for verified reads. GET is disabled in safe mode. "
            ++ "Set read_mode = \"compatible\" to enable unverified reads."))
        else
          match m.lookup key with
          | some text => (m, text :: receiptNotice showReceipt)
          | none => (m, ["(nil)"])
      | .del key =>
        (m.erase key, if (m.lookup key).isSome then ["(integer) 1"] else ["(integer) 0"])
      | c => (m, c.refused "-ERR unknown command")

/-- What a session does to a map of texts, and what its commands print. -/
def sessionMeaning (cfg : DaemonConfig) (requireAuth : Bool) :
    TextMap → List SessionEvent → TextMap × List (List String)
  | m, [] => (m, [])
  | m, .command _ c :: events =>
    let (m, lines) := c.meaning cfg requireAuth m
    let (m, printed) := sessionMeaning cfg requireAuth m events
    (m, lines :: printed)
  | m, .evict key :: events => sessionMeaning cfg requireAuth (m.erase key) events

/-! ### Lines -/

/-- The words of the line that a command sends. -/
def ClientCommand.words : ClientCommand → List String
  | .set key value t => "SET" :: key :: (splitWhitespace value.toList ++ optionWords t)
  | .get key _ => ["GET", key]
  | .del key => ["DEL", key]
  | .ttl key => ["TTL", key]
  | .keys pattern _ => ["KEYS", pattern]
  | .flush _ => ["FLUSHALL"]

/-- The line of a command is made of words that the daemon can tell apart: a key or a pattern is one
word, the value of a `set` is one or more with single spaces between them, neither has the word
`FP`, and the line fits into the buffer of the daemon. -/
structure ClientCommand.Plain (c : ClientCommand) : Prop where
  words : ∀ w ∈ c.words, IsWord w ∧ eqIgnoreAsciiCase w "FP" = false
  value : ∀ key value t, c = .set key value t →
    ∃ ws, ws ≠ [] ∧ (∀ w ∈ ws, IsWord w) ∧ value = " ".intercalate ws
  fits : (asBytes (" ".intercalate c.words ++ "\r\n")).length ≤ 4096

/-- The events of a session have plain commands. -/
def PlainSession (events : List SessionEvent) : Prop :=
  ∀ amb c, .command amb c ∈ events → c.Plain

/-- The engine holds the texts of a map, which are short and have no line ends. -/
structure Shows (m : TextMap) (s : ServerState) : Prop where
  engine : ∀ key, s.daemon.engine.lookup key = (m.lookup key).map asBytes
  lines : ∀ key text, m.lookup key = some text →
    '\r' ∉ text.toList ∧ (asBytes text).length ≤ 4096

variable {ext : Externals} {cfg : DaemonConfig} {requireAuth : Bool} {amb : Ambient}
  {s : ServerState} {m : TextMap} {c : ClientCommand} {events : List SessionEvent} {key : String}

/-- The line that a command sends. -/
def ClientCommand.line : ClientCommand → String
  | .set key value t => setCommand key value t
  | .get key _ => getCommand key
  | .del key => s!"DEL {key}\r\n"
  | .ttl key => s!"TTL {key}\r\n"
  | .keys pattern _ => s!"KEYS {pattern}\r\n"
  | .flush _ => "FLUSHALL\r\n"

/-- What a command prints about a reply. -/
def ClientCommand.print (reply : String) : ClientCommand → List String
  | .set _ _ _ => printSet (readInto 256 reply)
  | .get _ showReceipt => printGet showReceipt (readInto 65536 reply)
  | .del _ => printDel (readInto 256 reply)
  | .ttl _ => printTtl (readInto 256 reply)
  | .keys _ limit => printKeys limit (readInto 65536 reply)
  | .flush _ => printFlush (readInto 256 reply)

/-- A command that connects prints what it reads of the reply to its line. -/
theorem ClientCommand.perform_eq (hflush : c ≠ .flush false) {s' : ServerState} {reply : String}
    (hrequest : request ext cfg requireAuth amb s c.line = .ok (s', reply)) :
  c.perform ext cfg requireAuth amb s = .ok (s', c.print reply)
  := by
  cases c with
  | set key value t =>
    rw [line] at hrequest
    rw [perform, Resp.set, hrequest]
    rfl
  | get key showReceipt =>
    rw [line] at hrequest
    rw [perform, Resp.get, hrequest]
    rfl
  | del key =>
    rw [line] at hrequest
    rw [perform, Resp.del, hrequest]
    rfl
  | ttl key =>
    rw [line] at hrequest
    rw [perform, Resp.ttl, hrequest]
    rfl
  | keys pattern limit =>
    rw [line] at hrequest
    rw [perform, Resp.keys, hrequest]
    rfl
  | flush skipConfirm =>
    cases skipConfirm with
    | true =>
      rw [line] at hrequest
      rw [perform, Resp.flush, if_pos rfl, hrequest]
      rfl
    | false => exact absurd rfl hflush

theorem line_of_pair (name word : String) :
  s!"{name} {word}\r\n" = " ".intercalate [name, word] ++ "\r\n"
  := by
  apply String.toList_inj.mp
  rw [String.intercalate_cons_cons, String.intercalate_singleton]
  simp [toString]

/-- The line of a plain command is made of its words. -/
theorem ClientCommand.Plain.line_eq (h : c.Plain) :
  c.line = " ".intercalate c.words ++ "\r\n"
  := by
  cases c with
  | set key value t =>
    obtain ⟨ws, hne, hws, rfl⟩ := h.value key value t rfl
    rw [line, ClientCommand.words, splitWhitespace_intercalate hws]
    apply setCommand_eq hne
  | get key showReceipt => apply getCommand_eq
  | del key => apply line_of_pair "DEL"
  | ttl key => apply line_of_pair "TTL"
  | keys pattern limit => apply line_of_pair "KEYS"
  | flush skipConfirm => rfl

/-- The daemon reads the words of a plain command. -/
theorem ClientCommand.Plain.words_readInto (h : c.Plain) :
  Cachee.words (readInto 4096 c.line) = c.words
  := by
  apply Resp.words_readInto (fun w hw => (h.words w hw).1) h.line_eq
  rw [h.line_eq]
  apply h.fits

/-! ### Refusals -/

/-- A reply by which a command is refused with a line. -/
structure IsRefusal (reply line : String) : Prop where
  fits : (asBytes reply).length ≤ 256
  ok : contains reply "OK" = false
  one : contains reply ":1" = false
  dollar : hasPrefix reply "$" = false
  nil : hasPrefix reply "$-1" = false
  colon : reply.toList.head? ≠ some ':'
  line : trim reply = line

/-- A command that is refused with a line prints the line, except that a `del` prints a zero. -/
theorem IsRefusal.print_eq {reply line : String} (h : IsRefusal reply line) (c : ClientCommand) :
  c.print reply = c.refused line
  := by
  have hshort : readInto 256 reply = asBytes reply := readInto_of_le h.fits
  have hlong : readInto 65536 reply = asBytes reply := by
    apply readInto_of_le (h.fits.trans (by decide))
  have hresponse : responseOf (asBytes reply) = reply := ofList_fromUtf8Lossy_asBytes reply
  cases c with
  | set key value t =>
    rw [ClientCommand.print, hshort, printSet, ofList_fromUtf8Lossy_asBytes]
    simp only [h.ok, h.line]
    rfl
  | get key showReceipt =>
    rw [ClientCommand.print, hlong, printGet, ofList_fromUtf8Lossy_asBytes]
    simp only [h.nil, h.dollar, h.line]
    rfl
  | del key =>
    rw [ClientCommand.print, hshort, printDel, hresponse, h.one]
    rfl
  | ttl key =>
    rw [ClientCommand.print, hshort, printTtl, hresponse]
    split
    · rename_i hlist
      exact absurd (congrArg List.head? hlist) h.colon
    · rw [h.line]
      rfl
  | keys pattern limit =>
    rw [ClientCommand.print, hlong, printKeys, hresponse, h.line]
    rfl
  | flush skipConfirm =>
    rw [ClientCommand.print, hshort, printFlush, hresponse, h.ok, h.line]
    rfl

/-- Whether a reply is a refusal is checked on its text. -/
theorem isRefusal_iff {reply line : String} :
  IsRefusal reply line ↔
    (asBytes reply).length ≤ 256 ∧ contains reply "OK" = false ∧ contains reply ":1" = false ∧
      hasPrefix reply "$" = false ∧ hasPrefix reply "$-1" = false ∧
      reply.toList.head? ≠ some ':' ∧ trim reply = line
  := by
  constructor
  · rintro ⟨hfits, hok, hone, hdollar, hnil, hcolon, hline⟩
    exact ⟨hfits, hok, hone, hdollar, hnil, hcolon, hline⟩
  · rintro ⟨hfits, hok, hone, hdollar, hnil, hcolon, hline⟩
    exact ⟨hfits, hok, hone, hdollar, hnil, hcolon, hline⟩

instance decidableIsRefusal (reply line : String) : Decidable (IsRefusal reply line) :=
  decidable_of_iff _ isRefusal_iff.symm

theorem isRefusal_noAuth :
  IsRefusal "-NOAUTH Authentication required. Send AUTH <api_key> first.\r\n"
    "-NOAUTH Authentication required. Send AUTH <api_key> first."
  := by
  decide

theorem isRefusal_strict :
  IsRefusal "-ERR computation fingerprint required (strict mode)\r\n"
    "-ERR computation fingerprint required (strict mode)"
  := by
  decide

theorem isRefusal_unknown :
  IsRefusal "-ERR unknown command\r\n" "-ERR unknown command"
  := by
  decide

theorem isRefusal_safe :
  IsRefusal ("-ERR Use GETVERIFIED for verified reads. GET is disabled in safe mode. "
      ++ "Set read_mode = \"compatible\" to enable unverified reads.\r\n")
    ("-ERR Use GETVERIFIED for verified reads. GET is disabled in safe mode. "
      ++ "Set read_mode = \"compatible\" to enable unverified reads.")
  := by
  decide +kernel

/-! ### Requests -/

/-- No command of the client is an `AUTH` or a `PING`. -/
theorem ClientCommand.exists_words (c : ClientCommand) :
  ∃ command args, c.words = command :: args ∧ eqIgnoreAsciiCase command "AUTH" = false ∧
    eqIgnoreAsciiCase command "PING" = false
  := by
  cases c <;> exact ⟨_, _, rfl, by decide, by decide⟩

/-- A daemon that requires authentication refuses every command. -/
theorem ClientCommand.Plain.request_of_requireAuth (h : c.Plain) :
  request ext cfg true amb s c.line = .ok ({ s with conn := .initial true },
    "-NOAUTH Authentication required. Send AUTH <api_key> first.\r\n")
  := by
  obtain ⟨command, args, hwords, hauth, hping⟩ := c.exists_words
  rw [← h.words_readInto] at hwords
  apply Resp.request_of_requireAuth hwords hauth hping

/-- Any other daemon handles it. -/
theorem ClientCommand.Plain.request_of_handleResp (h : c.Plain) {daemon : DaemonState}
    {reply : String} (hresp : handleResp ext cfg amb s.daemon (readInto 4096 c.line)
      = .ok (daemon, reply)) :
  request ext cfg false amb s c.line = .ok ({ s with daemon, conn := .initial false }, reply)
  := by
  obtain ⟨command, args, hwords, hauth, hping⟩ := c.exists_words
  rw [← h.words_readInto] at hwords
  rw [request_of_not_requireAuth hwords hauth hping, hresp]
  rfl

theorem ClientCommand.Plain.fpIndex_eq_none (h : c.Plain) :
  fpIndex c.words = none
  := by
  rw [fpIndex, List.findIdx?_eq_none_iff]
  intro w hw
  apply (h.words w hw).2

/-- The daemon does not know the command. -/
theorem ClientCommand.Plain.handleResp_unknown (h : c.Plain) {daemon : DaemonState}
    {command : String} {args : List String} (hwords : c.words = command :: args)
    (hcommand : command = "TTL" ∨ command = "KEYS" ∨ command = "FLUSHALL") :
  handleResp ext cfg amb daemon (readInto 4096 c.line) = .ok (daemon, "-ERR unknown command\r\n")
  := by
  have hdispatch : toUppercase command = command ∧
      dispatch ext cfg amb daemon (command :: args) command
        = .ok (daemon, "-ERR unknown command\r\n") := by
    rcases hcommand with rfl | rfl | rfl
    · exact ⟨by decide, rfl⟩
    · exact ⟨by decide, rfl⟩
    · exact ⟨by decide, rfl⟩
  rw [← h.words_readInto] at hwords
  rw [handleResp_of_words hwords hdispatch.1, hdispatch.2]

/-! ### The map -/

/-- Giving up an entry of both. -/
theorem Shows.erase (h : Shows m s) (key : String) :
  Shows (m.erase key)
    { s with daemon := { s.daemon with engine := s.daemon.engine.erase key } }
  := by
  constructor
  · intro key'
    dsimp only
    by_cases hkey : key' = key
    · rw [hkey, AList.lookup_erase, AList.lookup_erase]
      rfl
    · rw [AList.lookup_erase_ne hkey, AList.lookup_erase_ne hkey]
      apply h.engine
  · apply forall_lookup_erase h.lines

theorem Shows.of_engine (h : Shows m s) {s' : ServerState}
    (hengine : s'.daemon.engine = s.daemon.engine) :
  Shows m s'
  := by
  constructor
  · rw [hengine]
    apply h.engine
  · apply h.lines

theorem Shows.insert (h : Shows m s) {s' : ServerState} {text : String}
    (hengine : s'.daemon.engine = s.daemon.engine.insert key (asBytes text))
    (htext : '\r' ∉ text.toList) (hfits : (asBytes text).length ≤ 4096) :
  Shows (m.insert key text) s'
  := by
  constructor
  · intro key'
    rw [hengine]
    by_cases hkey : key' = key
    · rw [hkey, AList.lookup_insert, AList.lookup_insert]
      rfl
    · rw [AList.lookup_insert_ne hkey, AList.lookup_insert_ne hkey]
      apply h.engine
  · intro key' text' hlookup
    rcases lookup_insert_eq_some.mp hlookup with ⟨-, rfl⟩ | ⟨-, hlookup⟩
    · exact ⟨htext, hfits⟩
    · apply h.lines key' text' hlookup

/-- The text that a `set` stores is that of the words after the key. -/
theorem storedText_eq {ws : List String} (hne : ws ≠ []) (t : Option UInt32) :
  storedText (" ".intercalate ws) t = " ".intercalate (ws ++ optionWords t)
  := by
  cases t with
  | none =>
    rw [optionWords, List.append_nil]
    rfl
  | some t =>
    rw [optionWords, String.intercalate_append_of_ne_nil hne (List.cons_ne_nil _ _)]
    apply String.toList_inj.mp
    simp [storedText, toString]

/-- The bulk string of a text that was sent fits into the buffer of the client. -/
theorem length_bulk_le {text : String} (h : (asBytes text).length ≤ 4096) :
  (asBytes (bulk text)).length ≤ 65536
  := by
  have hdigits : (toString (asBytes text).length).toList.length ≤ 4 :=
    length_toString_le (by decide) (by omega)
  have hbytes := length_asBytes_le (toString (asBytes text).length)
  have hbulk : bulk text = "$" ++ toString (asBytes text).length ++ "\r\n" ++ text ++ "\r\n" := rfl
  have hdollar : (asBytes "$").length = 1 := rfl
  have hend : (asBytes "\r\n").length = 2 := rfl
  rw [hbulk, length_asBytes_append, length_asBytes_append, length_asBytes_append,
    length_asBytes_append, hdollar, hend]
  omega

section Unannounced

variable {data : Bytes} {word : String} {rest : List String}
  (hwords : Cachee.words data = "SET" :: key :: word :: rest)
  (hfp : fpIndex ("SET" :: key :: word :: rest) = none)

include hwords hfp

/-- In strict mode, a `SET` without `FP` is refused. -/
theorem handleResp_set_of_strict (hstrict : cfg.strictMode = true) (ext : Externals)
    (amb : Ambient) (daemon : DaemonState) :
  handleResp ext cfg amb daemon data
    = .ok (daemon, "-ERR computation fingerprint required (strict mode)\r\n")
  := by
  have hupper : toUppercase "SET" = "SET" := by decide
  rw [handleResp_of_words hwords hupper, dispatch_set (by simp), handleSet, index_one, ok_bind,
    setArguments, hfp, hstrict]
  rfl

/-- Otherwise it returns, and the engine has its words, with single spaces between them. -/
theorem exists_handleResp_set (hstrict : cfg.strictMode = false) (ext : Externals) (amb : Ambient)
    (daemon : DaemonState) :
  ∃ daemon', handleResp ext cfg amb daemon data = .ok (daemon', "+OK\r\n") ∧
    daemon'.engine = daemon.engine.insert key (asBytes (" ".intercalate (word :: rest)))
  := by
  have hreturns : Returns (handleResp ext cfg amb daemon data) := by
    rw [handleResp_eq, returns_handleWords_iff, hwords]
    constructor
    · rintro ⟨-, hkey⟩
      rw [hfp] at hkey
      cases hkey
    · rintro ⟨-, ⟨idx, hidx, -⟩, -⟩
      rw [hfp] at hidx
      cases hidx
  obtain ⟨⟨daemon', reply⟩, hresp⟩ := hreturns
  have hwrite := set?_of_reply hstrict hwords (by decide) hresp
  obtain ⟨hengine, -, rfl⟩ := engine_slots_of_set? hwrite hresp
  have hvalue : Request.valueOf (word :: rest) = " ".intercalate (word :: rest) := by
    rw [fpIndex, List.findIdx?_eq_none_iff] at hfp
    rw [Request.valueOf, List.takeWhile_eq_self_iff.mpr]
    intro w hw
    rw [Request.announcesFp, hfp w (List.mem_cons_of_mem _ (List.mem_cons_of_mem _ hw))]
    rfl
  rw [hvalue] at hengine
  exact ⟨daemon', hresp, hengine⟩

end Unannounced

/-- A `set` inserts its text, unless it is refused in strict mode. -/
theorem Shows.perform_set (h : Shows m s) {value : String} {t : Option UInt32}
    (hplain : (ClientCommand.set key value t).Plain) (ext : Externals) (cfg : DaemonConfig)
    (amb : Ambient) :
  ∃ s', (ClientCommand.set key value t).perform ext cfg false amb s
      = .ok (s', ((ClientCommand.set key value t).meaning cfg false m).2) ∧
    Shows ((ClientCommand.set key value t).meaning cfg false m).1 s'
  := by
  obtain ⟨ws, hne, hws, rfl⟩ := hplain.value key value t rfl
  have hall := hplain.words
  have hindex := hplain.fpIndex_eq_none
  have hwords := hplain.words_readInto
  have hfits := hplain.fits
  rw [ClientCommand.words, splitWhitespace_intercalate hws] at hall hindex hwords hfits
  obtain ⟨word, rest, hargs⟩ := List.exists_cons_of_ne_nil
    (List.append_ne_nil_of_left_ne_nil hne (optionWords t))
  rw [ClientCommand.meaning]
  simp only [Bool.false_eq_true, if_false, storedText_eq hne]
  rw [hargs] at hall hindex hwords hfits ⊢
  cases hstrict : cfg.strictMode with
  | true =>
    have hresp := handleResp_set_of_strict hwords hindex hstrict ext amb s.daemon
    have hperform := ClientCommand.perform_eq (by simp) (hplain.request_of_handleResp hresp)
    rw [isRefusal_strict.print_eq] at hperform
    exact ⟨_, hperform, h.of_engine rfl⟩
  | false =>
    obtain ⟨daemon, hresp, hengine⟩ :=
      exists_handleResp_set hwords hindex hstrict ext amb s.daemon
    have hperform := ClientCommand.perform_eq (by simp) (hplain.request_of_handleResp hresp)
    have hok : printSet (readInto 256 "+OK\r\n") = ["OK"] := by
      decide
    rw [ClientCommand.print, hok] at hperform
    refine ⟨_, hperform, h.insert hengine ?_ ?_⟩
    · apply cr_notMem_intercalate
      intro w hw
      apply (hall w (List.mem_cons_of_mem _ (List.mem_cons_of_mem _ hw))).1
    · rw [String.intercalate_cons_cons, String.intercalate_cons_cons] at hfits
      simp only [length_asBytes_append] at hfits
      omega

/-- A `get` prints the text of the key, unless it is refused in safe mode. -/
theorem Shows.perform_get (h : Shows m s) {showReceipt : Bool}
    (hplain : (ClientCommand.get key showReceipt).Plain) (ext : Externals) (cfg : DaemonConfig)
    (amb : Ambient) :
  ∃ s', (ClientCommand.get key showReceipt).perform ext cfg false amb s
      = .ok (s', ((ClientCommand.get key showReceipt).meaning cfg false m).2) ∧
    Shows ((ClientCommand.get key showReceipt).meaning cfg false m).1 s'
  := by
  have hwords : Cachee.words (readInto 4096 (ClientCommand.get key showReceipt).line)
      = ["GET", key] := hplain.words_readInto
  have hupper : toUppercase "GET" = "GET" := by decide
  rw [ClientCommand.meaning]
  simp only [Bool.false_eq_true, if_false]
  cases hsafe : cfg.safeReadMode with
  | true =>
    have hresp : handleResp ext cfg amb s.daemon (readInto 4096
        (ClientCommand.get key showReceipt).line)
        = .ok (s.daemon, "-ERR Use GETVERIFIED for verified reads. GET is disabled in safe mode. "
          ++ "Set read_mode = \"compatible\" to enable unverified reads.\r\n") := by
      rw [handleResp_of_words hwords hupper, dispatch_get (by simp), handleGet, hsafe]
      rfl
    have hperform := ClientCommand.perform_eq (by simp) (hplain.request_of_handleResp hresp)
    rw [isRefusal_safe.print_eq] at hperform
    exact ⟨_, hperform, h.of_engine rfl⟩
  | false =>
    have hresp : handleResp ext cfg amb s.daemon (readInto 4096
        (ClientCommand.get key showReceipt).line)
        = .ok (s.daemon, match m.lookup key with
          | some text => bulk text
          | none => nilReply) := by
      rw [handleResp_of_words hwords hupper, dispatch_get (by simp), handleGet_eq hsafe, h.engine]
      cases m.lookup key with
      | none => rfl
      | some text =>
        dsimp only [Option.map_some]
        rw [ofList_fromUtf8Lossy_asBytes]
    have hperform := ClientCommand.perform_eq (by simp) (hplain.request_of_handleResp hresp)
    cases hlookup : m.lookup key with
    | none =>
      have hnil : printGet showReceipt (readInto 65536 nilReply) = ["(nil)"] := by
        cases showReceipt <;> decide
      rw [hlookup, ClientCommand.print, hnil] at hperform
      exact ⟨_, hperform, h.of_engine rfl⟩
    | some text =>
      obtain ⟨hline, hshort⟩ := h.lines key text hlookup
      rw [hlookup, ClientCommand.print,
        printGet_bulk hline showReceipt (length_bulk_le hshort)] at hperform
      exact ⟨_, hperform, h.of_engine rfl⟩

/-- A `del` removes the text of the key, and prints whether there was one. -/
theorem Shows.perform_del (h : Shows m s) (hplain : (ClientCommand.del key).Plain)
    (ext : Externals) (cfg : DaemonConfig) (amb : Ambient) :
  ∃ s', (ClientCommand.del key).perform ext cfg false amb s
      = .ok (s', ((ClientCommand.del key).meaning cfg false m).2) ∧
    Shows ((ClientCommand.del key).meaning cfg false m).1 s'
  := by
  have hwords : Cachee.words (readInto 4096 (ClientCommand.del key).line) = ["DEL", key] :=
    hplain.words_readInto
  have hupper : toUppercase "DEL" = "DEL" := by decide
  -- Whatever is recorded, the engine has lost the key.
  have hresp : ∃ daemon,
      handleResp ext cfg amb s.daemon (readInto 4096 (ClientCommand.del key).line)
        = .ok (daemon, if (m.lookup key).isSome then ":1\r\n" else ":0\r\n") ∧
      daemon.engine = s.daemon.engine.erase key := by
    rw [handleResp_of_words hwords hupper, dispatch_del (by simp), handleDel, index_one, ok_bind]
    dsimp only [DaemonState.deleteValue]
    rw [h.engine, Option.isSome_map]
    obtain ⟨auditLog, hlog⟩ := DaemonState.logDeleted_eq ext amb
      (DaemonState.removeSlot { s.daemon with engine := s.daemon.engine.erase key } key) key
      (m.lookup key).isSome
    rw [hlog]
    cases (m.lookup key).isSome with
    | true => exact ⟨_, rfl, rfl⟩
    | false => exact ⟨_, rfl, rfl⟩
  obtain ⟨daemon, hresp, hengine⟩ := hresp
  have hperform := ClientCommand.perform_eq (by simp) (hplain.request_of_handleResp hresp)
  have hprint : (ClientCommand.del key).print
      (if (m.lookup key).isSome then ":1\r\n" else ":0\r\n")
      = ((ClientCommand.del key).meaning cfg false m).2 := by
    have hone : printDel (readInto 256 ":1\r\n") = ["(integer) 1"] := by decide
    have hzero : printDel (readInto 256 ":0\r\n") = ["(integer) 0"] := by decide
    rw [ClientCommand.print, ClientCommand.meaning]
    simp only [Bool.false_eq_true, if_false]
    cases (m.lookup key).isSome with
    | true => exact hone
    | false => exact hzero
  rw [hprint] at hperform
  exact ⟨_, hperform, (h.erase key).of_engine hengine⟩

/-- A command does to a daemon that shows a map what it does to the map, and prints the same. -/
theorem Shows.perform (h : Shows m s) (hplain : c.Plain) (ext : Externals) (cfg : DaemonConfig)
    (requireAuth : Bool) (amb : Ambient) :
  ∃ s', c.perform ext cfg requireAuth amb s = .ok (s', (c.meaning cfg requireAuth m).2) ∧
    Shows (c.meaning cfg requireAuth m).1 s'
  := by
  by_cases hflush : c = .flush false
  · subst hflush
    exact ⟨s, rfl, h⟩
  cases requireAuth with
  | true =>
    have hmeaning : c.meaning cfg true m
        = (m, c.refused "-NOAUTH Authentication required. Send AUTH <api_key> first.") := by
      unfold ClientCommand.meaning
      split
      · exact absurd rfl hflush
      · rw [if_pos rfl]
    have hperform : c.perform ext cfg true amb s = .ok ({ s with conn := .initial true },
        c.print "-NOAUTH Authentication required. Send AUTH <api_key> first.\r\n") :=
      ClientCommand.perform_eq hflush hplain.request_of_requireAuth
    rw [isRefusal_noAuth.print_eq] at hperform
    rw [hmeaning]
    exact ⟨_, hperform, h.of_engine rfl⟩
  | false =>
    have hunknown : ∀ {command args}, c.words = command :: args →
        command = "TTL" ∨ command = "KEYS" ∨ command = "FLUSHALL" →
        ∃ s', c.perform ext cfg false amb s = .ok (s', c.refused "-ERR unknown command") ∧
          Shows m s' := by
      intro command args hwords hcommand
      have hperform : c.perform ext cfg false amb s
          = .ok ({ s with conn := .initial false }, c.print "-ERR unknown command\r\n") :=
        ClientCommand.perform_eq hflush
          (hplain.request_of_handleResp (hplain.handleResp_unknown hwords hcommand))
      rw [isRefusal_unknown.print_eq] at hperform
      exact ⟨_, hperform, h.of_engine rfl⟩
    cases c with
    | set key value t => apply h.perform_set hplain
    | get key showReceipt => apply h.perform_get hplain
    | del key => apply h.perform_del hplain
    | ttl key => apply hunknown rfl (Or.inl rfl)
    | keys pattern limit => apply hunknown rfl (Or.inr (Or.inl rfl))
    | flush skipConfirm =>
      cases skipConfirm with
      | true => apply hunknown rfl (Or.inr (Or.inr rfl))
      | false => exact absurd rfl hflush

/-- A session with a daemon that shows a map of texts does to it what it does to the map, and prints
what it prints about the map; no command of it makes the daemon panic. -/
theorem session_eq_sessionMeaning (h : Shows m s) (hplain : PlainSession events) (ext : Externals)
    (cfg : DaemonConfig) (requireAuth : Bool) :
  ∃ s', session ext cfg requireAuth s events
      = .ok (s', (sessionMeaning cfg requireAuth m events).2) ∧
    Shows (sessionMeaning cfg requireAuth m events).1 s'
  := by
  induction events generalizing s m with
  | nil => exact ⟨s, rfl, h⟩
  | cons e events ih =>
    have hrest : PlainSession events := fun amb c hc => hplain amb c (List.mem_cons_of_mem _ hc)
    cases e with
    | evict key =>
      rw [session, sessionMeaning]
      apply ih (h.erase key) hrest
    | command amb c =>
      obtain ⟨s₁, hs₁, hshows⟩ :=
        h.perform (hplain amb c List.mem_cons_self) ext cfg requireAuth amb
      obtain ⟨s₂, hs₂, hshows₂⟩ := ih hshows hrest
      use s₂
      rw [session, hs₁, ok_bind]
      dsimp only
      rw [hs₂]
      exact ⟨rfl, hshows₂⟩

/-! ### A session -/

/-- A value is set with a time to live, read, flushed, read again, and deleted. -/
def flushedCommands : List ClientCommand :=
  [.set "k" "v w" (some 60), .get "k" false, .flush true, .get "k" false, .del "k"]

def flushedSession : List SessionEvent := flushedCommands.map (.command plainAmbient)

theorem plain_flushedSession :
  PlainSession flushedSession
  := by
  intro amb c hc
  obtain ⟨c', hmem, heq⟩ := List.mem_map.mp hc
  obtain ⟨-, rfl⟩ := SessionEvent.command.inj heq
  have hall : ∀ c ∈ flushedCommands, (∀ w ∈ c.words, IsWord w ∧ eqIgnoreAsciiCase w "FP" = false) ∧
      (asBytes (" ".intercalate c.words ++ "\r\n")).length ≤ 4096 := by
    decide +kernel
  obtain ⟨hwords, hfits⟩ := hall c' hmem
  refine ⟨hwords, ?_, hfits⟩
  rintro key value t rfl
  simp only [flushedCommands, List.mem_cons, List.not_mem_nil, or_false, reduceCtorEq] at hmem
  obtain ⟨-, rfl, -⟩ := ClientCommand.set.inj hmem
  exact ⟨["v", "w"], by decide, by decide, by decide⟩

theorem shows_plainServer :
  Shows ∅ plainServer
  := by
  constructor
  · intro key
    rfl
  · intro key text hlookup
    cases hlookup

/-- The value is still there after the flush, with its time to live as a part of it. -/
theorem session_flushedSession :
  ∃ s', session plainExternals plainConfig false plainServer flushedSession
    = .ok (s', [["OK"], ["v w EX 60"], ["Flush response: -ERR unknown command"], ["v w EX 60"],
      ["(integer) 1"]])
  := by
  obtain ⟨s', hs', -⟩ := session_eq_sessionMeaning shows_plainServer plain_flushedSession
    plainExternals plainConfig false
  have hprinted : (sessionMeaning plainConfig false ∅ flushedSession).2
      = [["OK"], ["v w EX 60"], ["Flush response: -ERR unknown command"], ["v w EX 60"],
        ["(integer) 1"]] := by
    decide +kernel
  rw [hprinted] at hs'
  exact ⟨s', hs'⟩

end Resp

end Cachee
