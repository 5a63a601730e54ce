import Cachee.Daemon.Connection
import Cachee.Daemon.Refinement

/-!
# Commands of the client

A `set` or a `get` on the command line connects to the daemon, sends one line, reads one reply and
prints what it finds in it.  The line of a `set` is formatted from the key, the value and the
options, and the daemon splits it into words again.  It does not know which words come from the
value: it takes the words of an option for words of the value, and a word `FP` of the value for an
announcement.
-/

open Text

namespace Cachee

namespace Resp

/-! ### Lines and replies -/

/-- What one read into a buffer of some size returns of a text that was sent. -/
def readInto (size : ℕ) (text : String) : Bytes := (asBytes text).take size

/-- The line of a `set`. -/
def setCommand (key value : String) (ttl : Option UInt32) : String :=
  match ttl with
  | some t => s!"SET {key} {value} EX {t}\r\n"
  | none => s!"SET {key} {value}\r\n"

/-- The line of a `get`. -/
def getCommand (key : String) : String := s!"GET {key}\r\n"

/-- What a `set` prints about a reply, line by line. -/
def printSet (buf : Bytes) : List String :=
  let response := String.ofList (fromUtf8Lossy buf)
  if contains response "OK" then ["OK"] else [trim response]

/-- What is printed after a value when its receipt is asked for. -/
def receiptNotice (showReceipt : Bool) : List String :=
  if showReceipt then
    ["\n  [attestation receipt would be shown here when attest is enabled]"]
  else []

/-- What a `get` prints about a reply, line by line. -/
def printGet (showReceipt : Bool) (buf : Bytes) : List String :=
  let response := String.ofList (fromUtf8Lossy buf)
  if hasPrefix response "$-1" then ["(nil)"]
  else if hasPrefix response "$" then
    match (splitCrLf response.toList)[1]? with
    | some payload => String.ofList payload :: receiptNotice showReceipt
    | none => []
  else [trim response]

section Commands

variable (ext : Externals) (cfg : DaemonConfig) (requireAuth : Bool) (amb : Ambient)
  (s : ServerState)

/-- Connect to the daemon and send a line.  Returns the state after it with the reply, which there
is unless the handler panics. -/
def request (line : String) : Outcome (ServerState × String) :=
  serveLine ext cfg requireAuth amb { s with conn := .initial requireAuth } (readInto 4096 line)

/-- `set`: returns the state after it with the lines that it prints. -/
def set (key value : String) (ttl : Option UInt32) : Outcome (ServerState × List String) := do
  let (s, reply) ← request ext cfg requireAuth amb s (setCommand key value ttl)
  return (s, printSet (readInto 256 reply))

/-- `get`: returns the state after it with the lines that it prints. -/
def get (key : String) (showReceipt : Bool) : Outcome (ServerState × List String) := do
  let (s, reply) ← request ext cfg requireAuth amb s (getCommand key)
  return (s, printGet showReceipt (readInto 65536 reply))

end Commands

/-- The words of the options of a `set`. -/
def optionWords (ttl : Option UInt32) : List String :=
  match ttl with
  | some t => ["EX", toString t]
  | none => []

/-- A text that fits into a buffer is read completely. -/
theorem readInto_of_le {size : ℕ} {text : String} (h : (asBytes text).length ≤ size) :
  readInto size text = asBytes text
  := List.take_of_length_le h

/-- The words of a line that fits into the buffer of the daemon. -/
theorem words_readInto {ws : List String} {line : String} (hws : ∀ w ∈ ws, IsWord w)
    (hline : line = " ".intercalate ws ++ "\r\n") (hfits : (asBytes line).length ≤ 4096) :
  words (readInto 4096 line) = ws
  := by
  have htext : line.toList = (" ".intercalate ws).toList ++ '\r' :: ['\n'] := by
    rw [hline, String.toList_append]
    rfl
  rw [readInto_of_le hfits, words, asBytes_eq_flatMap, fromUtf8Lossy_flatMap, htext,
    splitWhitespace_append_cons rfl, splitWhitespace_intercalate hws]
  apply List.append_nil

/-- The words of the options are words. -/
theorem isWord_of_mem_optionWords {ttl : Option UInt32} {w : String} (h : w ∈ optionWords ttl) :
  IsWord w
  := by
  cases ttl with
  | none => cases h
  | some t =>
    simp only [optionWords, List.mem_cons, List.not_mem_nil, or_false] at h
    rcases h with rfl | rfl
    · decide
    · apply isWord_toString t.toNat

/-- The line of a `set` has the words of the value and of the options after the key. -/
theorem setCommand_eq {ws : List String} (hws : ws ≠ []) (key : String) (ttl : Option UInt32) :
  setCommand key (" ".intercalate ws) ttl
    = " ".intercalate ("SET" :: key :: (ws ++ optionWords ttl)) ++ "\r\n"
  := by
  have hne : ws ++ optionWords ttl ≠ [] := List.append_ne_nil_of_left_ne_nil hws _
  rw [String.intercalate_cons_cons, String.intercalate_cons_of_ne_nil hne]
  apply String.toList_inj.mp
  cases ttl with
  | none =>
    rw [optionWords, List.append_nil]
    simp [setCommand, toString]
  | some t =>
    rw [optionWords, String.intercalate_append_of_ne_nil hws (List.cons_ne_nil _ _)]
    simp [setCommand, toString]

/-- The line of a `get` has the key as its only argument. -/
theorem getCommand_eq (key : String) :
  getCommand key = " ".intercalate ["GET", key] ++ "\r\n"
  := by
  apply String.toList_inj.mp
  rw [String.intercalate_cons_cons, String.intercalate_singleton]
  simp [getCommand, toString]

/-- A bulk string starts with a dollar sign and a digit, and its text stands between its line
ends. -/
theorem toList_bulk (text : String) :
  ∃ d ds, d.isDigit = true ∧ '\r' ∉ '$' :: d :: ds ∧
    (bulk text).toList = ('$' :: d :: ds) ++ '\r' :: '\n' :: (text.toList ++ '\r' :: '\n' :: [])
  := by
  have hlist : (bulk text).toList = ('$' :: (toString (asBytes text).length).toList)
      ++ '\r' :: '\n' :: (text.toList ++ '\r' :: '\n' :: []) := by
    simp [bulk, toString]
  cases hdigits : (toString (asBytes text).length).toList with
  | nil => exact absurd (String.toList_eq_nil_iff.mp hdigits) (isWord_toString _).ne_empty
  | cons d ds =>
    have hdigit : ∀ c ∈ d :: ds, c.isDigit = true := by
      rw [← hdigits]
      intro c hc
      apply isDigit_of_mem_toString hc
    refine ⟨d, ds, hdigit d List.mem_cons_self, ?_, hdigits ▸ hlist⟩
    rw [List.mem_cons, not_or]
    use by decide
    intro hcr
    exact absurd (hdigit _ hcr) (by decide)

theorem bulk_injective :
  Function.Injective bulk
  := by
  intro text text' h
  obtain ⟨d, ds, -, hcr, hlist⟩ := toList_bulk text
  obtain ⟨d', ds', -, hcr', hlist'⟩ := toList_bulk text'
  rw [h, hlist'] at hlist
  -- The lengths stand before the first line ends.
  have hlength := congrArg splitCrLf hlist
  rw [splitCrLf_append hcr, splitCrLf_append hcr'] at hlength
  rw [(List.cons.inj hlength).1] at hlist
  simpa [String.toList_inj, eq_comm] using hlist

/-- A `get` prints the text of a bulk string, if it has no line end. -/
theorem printGet_bulk {text : String} (htext : '\r' ∉ text.toList) (showReceipt : Bool)
    (hfits : (asBytes (bulk text)).length ≤ 65536) :
  printGet showReceipt (readInto 65536 (bulk text)) = text :: receiptNotice showReceipt
  := by
  obtain ⟨d, ds, hdigit, hcr, hlist⟩ := toList_bulk text
  have hd : ('-' == d) = false := by
    rw [beq_eq_false_iff_ne]
    rintro rfl
    exact absurd hdigit (by decide)
  have hnil : hasPrefix (bulk text) "$-1" = false := by
    rw [hasPrefix, hlist]
    change ('$' == '$' && ('-' == d && _)) = false
    rw [hd, Bool.false_and, Bool.and_false]
  have hbulk : hasPrefix (bulk text) "$" = true := by
    rw [hasPrefix, hlist]
    rfl
  have hparts : (splitCrLf (bulk text).toList)[1]? = some text.toList := by
    rw [hlist, splitCrLf_append hcr, splitCrLf_append htext]
    rfl
  rw [readInto_of_le hfits, printGet, ofList_fromUtf8Lossy_asBytes]
  rw [hnil, hbulk, if_neg (by decide), if_pos rfl, hparts]
  dsimp only
  rw [String.ofList_toList]

/-! ### Requests -/

section Requests

variable {ext : Externals} {cfg : DaemonConfig} {requireAuth : Bool} {amb : Ambient}
  {s : ServerState} {line command : String} {args : List String}

/-- On a new connection, a command other than an `AUTH` and a `PING` is refused if the daemon
requires authentication. -/
theorem checkAuthenticated_initial (sha3 : Bytes → Block 32) (registry : ApiKeyRegistry)
    (hauth : eqIgnoreAsciiCase command "AUTH" = false)
    (hping : eqIgnoreAsciiCase command "PING" = false) :
  checkAuthenticated sha3 registry (.initial requireAuth) (command :: args)
    = (.initial requireAuth, if requireAuth then
        some "-NOAUTH Authentication required. Send AUTH <api_key> first.\r\n" else none)
  := by
  rw [checkAuthenticated, startsWith, hauth, if_neg (by decide), startsWith, hping,
    if_neg (by decide)]
  cases requireAuth with
  | true => rfl
  | false => rfl

/-- A daemon that requires authentication refuses such a request. -/
theorem request_of_requireAuth (hwords : words (readInto 4096 line) = command :: args)
    (hauth : eqIgnoreAsciiCase command "AUTH" = false)
    (hping : eqIgnoreAsciiCase command "PING" = false) :
  request ext cfg true amb s line = .ok ({ s with conn := .initial true },
    "-NOAUTH Authentication required. Send AUTH <api_key> first.\r\n")
  := by
  rw [request, serveLine, hwords]
  dsimp only
  rw [checkAuthenticated_initial _ _ hauth hping]
  rfl

/-- A daemon that requires no authentication passes it on to its handler. -/
theorem request_of_not_requireAuth (hwords : words (readInto 4096 line) = command :: args)
    (hauth : eqIgnoreAsciiCase command "AUTH" = false)
    (hping : eqIgnoreAsciiCase command "PING" = false) :
  request ext cfg false amb s line = (do
    let (daemon, reply) ← handleResp ext cfg amb s.daemon (readInto 4096 line)
    return ({ s with daemon, conn := .initial false }, reply))
  := by
  rw [request, serveLine, hwords]
  dsimp only
  rw [checkAuthenticated_initial _ _ hauth hping]
  rfl

end Requests

/-! ### What is read back -/

section ReadBack

variable {ext : Externals} {cfg : DaemonConfig} {requireAuth : Bool} {amb amb' : Ambient}
  {s s₁ s₂ : ServerState} {key : String} {ws : List String} {ttl : Option UInt32}

/-- The words that the daemon takes for the value are words. -/
theorem isWord_of_mem_takeWhile {p : String → Bool} (hws : ∀ w ∈ ws, IsWord w) {w : String}
    (hw : w ∈ (ws ++ optionWords ttl).takeWhile p) :
  IsWord w
  := by
  rcases List.mem_append.mp (List.takeWhile_subset _ hw) with h | h
  · apply hws w h
  · apply isWord_of_mem_optionWords h

/-- The value that the daemon takes from the line of a `set` is the value that was given exactly if
there is no option and no word `FP` in it. -/
theorem valueOf_eq_iff (hws : ∀ w ∈ ws, IsWord w) :
  Request.valueOf (ws ++ optionWords ttl) = " ".intercalate ws ↔
    ttl = none ∧ ∀ w ∈ ws, eqIgnoreAsciiCase w "FP" = false
  := by
  rw [Request.valueOf, intercalate_inj (fun w hw => isWord_of_mem_takeWhile hws hw) hws]
  constructor
  · intro htake
    have hnot : ∀ w ∈ ws, (!Request.announcesFp w) = true := by
      intro w hw
      rw [← htake] at hw
      apply List.mem_takeWhile_imp hw
    rw [List.takeWhile_append_of_pos hnot, List.append_right_eq_self] at htake
    constructor
    · cases ttl with
      | none => rfl
      | some t => cases htake
    · intro w hw
      simpa [Request.announcesFp] using hnot w hw
  · rintro ⟨rfl, hnot⟩
    rw [optionWords, List.append_nil, List.takeWhile_eq_self_iff]
    intro w hw
    rw [Request.announcesFp, hnot w hw]
    rfl

/-- A `set` that prints `OK` has stored the value that the daemon takes from its line, and the
daemon requires no authentication. -/
theorem lookup_of_set (hstrict : cfg.strictMode = false) (hkey : IsWord key) (hne : ws ≠ [])
    (hws : ∀ w ∈ ws, IsWord w)
    (hfits : (asBytes (setCommand key (" ".intercalate ws) ttl)).length ≤ 4096)
    (hset : set ext cfg requireAuth amb s key (" ".intercalate ws) ttl = .ok (s₁, ["OK"])) :
  requireAuth = false ∧ s₁.daemon.engine.lookup key
    = some (asBytes (Request.valueOf (ws ++ optionWords ttl)))
  := by
  have hall : ∀ w ∈ "SET" :: key :: (ws ++ optionWords ttl), IsWord w := by
    intro w hw
    rw [List.mem_cons, List.mem_cons, List.mem_append] at hw
    rcases hw with rfl | rfl | hw | hw
    · decide
    · apply hkey
    · apply hws w hw
    · apply isWord_of_mem_optionWords hw
  have hwords := words_readInto hall (setCommand_eq hne key ttl) hfits
  rw [set] at hset
  cases requireAuth with
  | true =>
    -- The refusal has no `OK` in it.
    rw [request_of_requireAuth hwords (by decide) (by decide), ok_bind] at hset
    have hprinted : printSet (readInto 256
        "-NOAUTH Authentication required. Send AUTH <api_key> first.\r\n") = ["OK"] :=
      congrArg Prod.snd (Except.ok.inj hset)
    exact absurd hprinted (by decide +kernel)
  | false =>
    rw [request_of_not_requireAuth hwords (by decide) (by decide)] at hset
    obtain ⟨⟨s', reply⟩, hrequest, hset⟩ := bind_eq_ok_iff.mp hset
    obtain ⟨⟨daemon, reply'⟩, hresp, hrequest⟩ := bind_eq_ok_iff.mp hrequest
    obtain ⟨rfl, rfl⟩ := Prod.mk.inj (Except.ok.inj hrequest)
    obtain ⟨rfl, -⟩ := Prod.mk.inj (Except.ok.inj hset)
    use rfl
    obtain ⟨w, ws, rfl⟩ := List.exists_cons_of_ne_nil hne
    have hwrite := set?_of_reply hstrict hwords (by decide) hresp
    rw [(engine_slots_of_set? hwrite hresp).1, AList.lookup_insert]
    rfl

/-- A `get` that reads a stored text of words prints it. -/
theorem get_eq (hsafe : cfg.safeReadMode = false) (hkey : IsWord key)
    (hfits : (asBytes (getCommand key)).length ≤ 4096) {text : String} (htext : '\r' ∉ text.toList)
    (hlookup : s₂.daemon.engine.lookup key = some (asBytes text))
    (hreply : ∀ s' reply, request ext cfg false amb s₂ (getCommand key) = .ok (s', reply) →
      (asBytes reply).length ≤ 65536) (showReceipt : Bool) :
  get ext cfg false amb s₂ key showReceipt
    = .ok ({ s₂ with conn := .initial false }, text :: receiptNotice showReceipt)
  := by
  have hall : ∀ w ∈ ["GET", key], IsWord w := by
    intro w hw
    rw [List.mem_cons, List.mem_singleton] at hw
    rcases hw with rfl | rfl
    · decide
    · apply hkey
  have hwords := words_readInto hall (getCommand_eq key) hfits
  have hresp : handleResp ext cfg amb s₂.daemon (readInto 4096 (getCommand key))
      = .ok (s₂.daemon, bulk text) := by
    have hcommand : toUppercase "GET" = "GET" := by
      decide
    rw [handleResp_of_words hwords hcommand, dispatch_get (by simp), handleGet_eq hsafe, hlookup]
    dsimp only
    rw [ofList_fromUtf8Lossy_asBytes]
  have hrequest : request ext cfg false amb s₂ (getCommand key)
      = .ok ({ s₂ with conn := .initial false }, bulk text) := by
    rw [request_of_not_requireAuth hwords (by decide) (by decide), hresp]
    rfl
  rw [get, hrequest, ok_bind]
  dsimp only
  rw [printGet_bulk htext showReceipt (hreply _ _ hrequest)]
  rfl

/-- After a `set` has printed `OK`, a `get` prints exactly the value that was given, as long as the
engine holds what was stored, if no time to live was given and no word of the value is `FP`, and
only then. -/
theorem get_prints_value_iff (hstrict : cfg.strictMode = false) (hsafe : cfg.safeReadMode = false)
    (hkey : IsWord key) (hne : ws ≠ []) (hws : ∀ w ∈ ws, IsWord w)
    (hsetFits : (asBytes (setCommand key (" ".intercalate ws) ttl)).length ≤ 4096)
    (hset : set ext cfg requireAuth amb s key (" ".intercalate ws) ttl = .ok (s₁, ["OK"]))
    (hheld : s₂.daemon.engine.lookup key = s₁.daemon.engine.lookup key)
    (hgetFits : (asBytes (getCommand key)).length ≤ 4096)
    (hreplyFits : ∀ s' reply, request ext cfg requireAuth amb' s₂ (getCommand key)
      = .ok (s', reply) → (asBytes reply).length ≤ 65536) (showReceipt : Bool) :
  (∃ s₃, get ext cfg requireAuth amb' s₂ key showReceipt
      = .ok (s₃, " ".intercalate ws :: receiptNotice showReceipt)) ↔
    ttl = none ∧ ∀ w ∈ ws, eqIgnoreAsciiCase w "FP" = false
  := by
  obtain ⟨rfl, hlookup⟩ := lookup_of_set hstrict hkey hne hws hsetFits hset
  have hstored : '\r' ∉ (Request.valueOf (ws ++ optionWords ttl)).toList := by
    apply cr_notMem_intercalate
    intro w hw
    apply isWord_of_mem_takeWhile hws hw
  rw [get_eq hsafe hkey hgetFits hstored (hheld.trans hlookup) hreplyFits showReceipt,
    ← valueOf_eq_iff hws]
  constructor
  · rintro ⟨s₃, hget⟩
    apply (List.cons.inj (Prod.mk.inj (Except.ok.inj hget)).2).1
  · intro hvalue
    rw [hvalue]
    exact ⟨_, rfl⟩

end ReadBack

/-! ### A daemon that has stored nothing -/

/-- A daemon that has stored nothing, and knows no keys of users. -/
def plainServer : ServerState where
  daemon := .empty "node"
  registry := ∅
  counters := ∅
  conn := .initial false

/-- The key `k` of this daemon is set. -/
def setK (value : String) (ttl : Option UInt32) : Outcome (ServerState × List String) :=
  set plainExternals plainConfig false plainAmbient plainServer "k" value ttl

/-- After the value `v w` has been set, it is printed. -/
theorem get_prints_value_setK :
  ∃ s₁ s₃, setK "v w" none = .ok (s₁, ["OK"]) ∧
    get plainExternals plainConfig false plainAmbient s₁ "k" false = .ok (s₃, ["v w"])
  := by
  have hsummary : (setK "v w" none).toOption.map (fun p => (p.2, (request plainExternals plainConfig
      false plainAmbient p.1 (getCommand "k")).toOption.map fun q => (asBytes q.2).length))
        = some (["OK"], some 9) := by
    decide +kernel
  obtain ⟨⟨s₁, lines⟩, hset, hs₁⟩ := map_toOption_eq_some_iff.mp hsummary
  obtain ⟨rfl, hreply⟩ := Prod.mk.inj hs₁
  have hfits : ∀ s' reply, request plainExternals plainConfig false plainAmbient s₁
      (getCommand "k") = .ok (s', reply) → (asBytes reply).length ≤ 65536 := by
    intro s' reply hrequest
    rw [hrequest] at hreply
    have hlength : (asBytes reply).length = 9 := Option.some.inj hreply
    omega
  have hwords : ∀ w ∈ ["v", "w"], IsWord w := by
    intro w hw
    rw [List.mem_cons, List.mem_singleton] at hw
    rcases hw with rfl | rfl
    · decide
    · decide
  have hkey : IsWord "k" := by
    decide
  obtain ⟨s₃, hget⟩ := (get_prints_value_iff rfl rfl hkey (List.cons_ne_nil _ _) hwords
    (by decide) hset rfl (by decide) hfits false).mpr ⟨rfl, by decide⟩
  exact ⟨s₁, s₃, hset, hget⟩

/-- After the value `v` has been set with a time to live, the option is printed as a part of it,
although both commands and their replies fit into their buffers. -/
theorem get_prints_option_setK :
  (asBytes (setCommand "k" "v" (some 60))).length ≤ 4096 ∧
    (asBytes (getCommand "k")).length ≤ 4096 ∧
    ∃ s₁ s₃ reply, setK "v" (some 60) = .ok (s₁, ["OK"]) ∧
      request plainExternals plainConfig false plainAmbient s₁ (getCommand "k") = .ok (s₃, reply) ∧
      (asBytes reply).length ≤ 65536 ∧
      get plainExternals plainConfig false plainAmbient s₁ "k" false = .ok (s₃, ["v EX 60"])
  := by
  have hsummary : (setK "v" (some 60)).toOption.map (fun p => (p.2,
      (request plainExternals plainConfig false plainAmbient p.1 (getCommand "k")).toOption.map
        Prod.snd)) = some (["OK"], some (bulk "v EX 60")) := by
    decide +kernel
  obtain ⟨⟨s₁, lines⟩, hset, hs₁⟩ := map_toOption_eq_some_iff.mp hsummary
  obtain ⟨rfl, hreply⟩ := Prod.mk.inj hs₁
  obtain ⟨⟨s₃, reply⟩, hrequest, rfl⟩ := map_toOption_eq_some_iff.mp hreply
  have hfits : (asBytes (bulk "v EX 60")).length ≤ 65536 := by
    decide +kernel
  refine ⟨by decide, by decide, s₁, s₃, _, hset, hrequest, hfits, ?_⟩
  rw [get, hrequest, ok_bind]
  dsimp only
  rw [printGet_bulk (by decide) false hfits]
  rfl

end Resp

end Cachee
