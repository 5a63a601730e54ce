import Cachee.Library.Fields
import Cachee.Resp

/-!
# The usage report

The usage of a plan is reported from the reply of the daemon to an `INFO`.  The reply is a text
with a line for each figure, and a figure is looked up by the name of its line.  The report asks
for names that the reply does not have: only the number of operations is found, and the memory and
the keys are reported as zero.
-/

open Text

namespace Cachee

/-! ### The report -/

/-- The figures of the report, without the hit rate. -/
structure UsageFigures where
  liveOps : UInt64
  memoryBytes : UInt64
  keys : UInt64
  deriving DecidableEq

/-- The number behind the first colon of the first line that starts with a key, or zero. -/
def getVal (info : List Char) (key : String) : UInt64 :=
  ((fieldPart ':' key.toList info).bind fun v => parseU64 (trim (String.ofList v)).toList).getD 0

/-- The figures in a reply that was read. -/
def usageFigures (buf : Bytes) : UsageFigures :=
  let info := fromUtf8Lossy buf
  { liveOps := getVal info "total_ops:"
    memoryBytes := getVal info "used_memory:"
    keys := getVal info "total_keys:" }

/-- `usage`: ask the daemon.  Returns the state after it with the figures. -/
def usage (ext : Externals) (cfg : DaemonConfig) (requireAuth : Bool) (amb : Ambient)
    (s : ServerState) : Outcome (ServerState × UsageFigures) := do
  let (s, reply) ← Resp.request ext cfg requireAuth amb s "INFO\r\n"
  return (s, usageFigures (Resp.readInto 8192 reply))

/-! ### The reply -/

/-- The numbers of the statistics have 64 bits, and the hit rate is the text of a floating-point
number with four decimals: it has at most 320 characters, and is on one line. -/
structure EngineStats.Fits (stats : EngineStats) : Prop where
  totalOps : stats.totalOps < 2 ^ 64
  hitsL0 : stats.hitsL0 < 2 ^ 64
  hitsL1 : stats.hitsL1 < 2 ^ 64
  misses : stats.misses < 2 ^ 64
  keyCount : stats.keyCount < 2 ^ 64
  memoryBytes : stats.memoryBytes < 2 ^ 64
  length_hitRate : stats.hitRate.toList.length ≤ 320
  hitRate : '\n' ∉ stats.hitRate.toList

variable {amb : Ambient} {s : DaemonState}

/-- The fields of the reply, in its order. -/
def infoFields (amb : Ambient) (s : DaemonState) : List (String × String) :=
  [("version", packageVersion), ("total_ops", toString amb.stats.totalOps),
    ("hit_rate", amb.stats.hitRate), ("hits_l0", toString amb.stats.hitsL0),
    ("hits_l1", toString amb.stats.hitsL1), ("misses", toString amb.stats.misses),
    ("keys", toString amb.stats.keyCount), ("memory_bytes", toString amb.stats.memoryBytes),
    ("slots", toString s.slots.entries.length),
    ("l2_bundles", toString s.contentStore.len.toNat),
    ("key_registry_last_reload", toString amb.lastReload.toNat),
    ("last_usage_flush", toString amb.lastFlush.toNat)]

/-- The line of a field. -/
def infoLine (f : String × String) : List Char := f.1.toList ++ ':' :: f.2.toList

/-- The lines of the reply but the first, which has the length, and the last, which is blank. -/
def infoLines (amb : Ambient) (s : DaemonState) : List (List Char) :=
  "# Cachee".toList :: (infoFields amb s).map infoLine

/-- The text of the reply. -/
theorem handleInfo_eq (amb : Ambient) (s : DaemonState) :
  ∃ text, handleInfo amb s = bulk text ∧
    text.toList = (infoLines amb s).flatMap fun line => line ++ ['\r', '\n']
  := by
  refine ⟨_, rfl, ?_⟩
  simp [infoLines, infoFields, infoLine, toString]

/-- No field of the reply has a newline in it. -/
theorem newline_not_mem_infoFields (hstats : amb.stats.Fits) :
  ∀ f ∈ infoFields amb s, '\n' ∉ f.1.toList ∧ '\n' ∉ f.2.toList
  := by
  have hdigits : ∀ n : ℕ, '\n' ∉ (toString n).toList := not_mem_toString (by decide)
  simp only [infoFields, List.forall_mem_cons, hdigits, hstats.hitRate, not_false_eq_true, and_true]
  simp [packageVersion]

/-- No line of the reply has a newline in it. -/
theorem newline_not_mem_infoLines (hstats : amb.stats.Fits) :
  ∀ line ∈ infoLines amb s, '\n' ∉ line
  := by
  intro line hline
  rcases List.mem_cons.mp hline with rfl | hline
  · decide
  · obtain ⟨f, hf, rfl⟩ := List.mem_map.mp hline
    obtain ⟨hname, hvalue⟩ := newline_not_mem_infoFields hstats f hf
    rw [infoLine, List.mem_append, List.mem_cons, not_or, not_or]
    exact ⟨hname, by decide, hvalue⟩

/-- The reply is read as its lines. -/
theorem lines_handleInfo (hstats : amb.stats.Fits) :
  ∃ n : ℕ, lines (handleInfo amb s).toList
    = ('$' :: (toString n).toList) :: infoLines amb s ++ [[]]
  := by
  obtain ⟨text, hreply, htext⟩ := handleInfo_eq amb s
  use (asBytes text).length
  have hlist : (handleInfo amb s).toList = (('$' :: (toString (asBytes text).length).toList)
      :: infoLines amb s ++ [[]]).flatMap fun line => line ++ ['\r', '\n'] := by
    rw [hreply, List.cons_append, List.flatMap_cons, List.flatMap_append, ← htext]
    simp [bulk, toString]
  rw [hlist]
  apply lines_flatMap_crLf
  intro line hline
  rcases List.mem_append.mp hline with h | h
  · rcases List.mem_cons.mp h with rfl | h
    · rintro (_ | ⟨_, hmem⟩)
      apply not_mem_toString (by decide) _ hmem
    · apply newline_not_mem_infoLines hstats line h
  · rw [List.mem_singleton.mp h]
    apply List.not_mem_nil

/-- Lines of fields with short names are about as long as the values. -/
theorem length_flatMap_infoLine_le {fields : List (String × String)}
    (hnames : ∀ f ∈ fields, f.1.toList.length ≤ 24) :
  ((fields.map infoLine).flatMap fun line => line ++ ['\r', '\n']).length
    ≤ 27 * fields.length + (fields.map fun f => f.2.toList.length).sum
  := by
  induction fields with
  | nil => rfl
  | cons f fields ih =>
    have hname := hnames f List.mem_cons_self
    have hrest := ih fun f' hf' => hnames f' (List.mem_cons_of_mem f hf')
    simp only [List.map_cons, List.flatMap_cons, List.length_append, List.length_cons,
      List.length_nil, List.sum_cons, infoLine]
    omega

/-- The values of the reply are short. -/
theorem length_infoFields_le (hstats : amb.stats.Fits) (hslots : s.slots.entries.length < 2 ^ 64) :
  ((infoFields amb s).map fun f => f.2.toList.length).sum ≤ 525
  := by
  have hdigits : ∀ n : ℕ, n < 2 ^ 64 → (toString n).toList.length ≤ 20 :=
    fun n hn => length_toString_le (by decide) (by omega)
  have hversion : packageVersion.toList.length = 5 := by decide
  have htotalOps := hdigits _ hstats.totalOps
  have hhitsL0 := hdigits _ hstats.hitsL0
  have hhitsL1 := hdigits _ hstats.hitsL1
  have hmisses := hdigits _ hstats.misses
  have hkeyCount := hdigits _ hstats.keyCount
  have hmemoryBytes := hdigits _ hstats.memoryBytes
  have hslotCount := hdigits _ hslots
  have hbundles := hdigits _ s.contentStore.len.toNat_lt
  have hreload := hdigits _ amb.lastReload.toNat_lt
  have hflush := hdigits _ amb.lastFlush.toNat_lt
  have hrate := hstats.length_hitRate
  simp only [infoFields, List.map_cons, List.map_nil, List.sum_cons, List.sum_nil]
  linarith

/-- The reply fits into the buffer of the report. -/
theorem length_handleInfo_le (hstats : amb.stats.Fits) (hslots : s.slots.entries.length < 2 ^ 64) :
  (asBytes (handleInfo amb s)).length ≤ 8192
  := by
  obtain ⟨text, hreply, htext⟩ := handleInfo_eq amb s
  have hnames : ∀ f ∈ infoFields amb s, f.1.toList.length ≤ 24 := by
    simp [infoFields]
  have hlines := length_flatMap_infoLine_le hnames
  have hvalues := length_infoFields_le hstats hslots
  have hlength : text.toList.length ≤ 859 := by
    rw [htext, infoLines, List.flatMap_cons, List.length_append]
    have htitle : ("# Cachee".toList ++ ['\r', '\n']).length = 10 := by decide
    have hcount : (infoFields amb s).length = 12 := rfl
    omega
  have hbytes := length_asBytes_le text
  have hdigits : (toString (asBytes text).length).toList.length ≤ 20 :=
    length_toString_le (by decide) (by omega)
  have hlist : (handleInfo amb s).toList = ('$' :: (toString (asBytes text).length).toList)
      ++ '\r' :: '\n' :: (text.toList ++ ['\r', '\n']) := by
    rw [hreply]
    simp [bulk, toString]
  have hreplyBytes := length_asBytes_le (handleInfo amb s)
  rw [hlist] at hreplyBytes
  simp only [List.length_append, List.length_cons, List.length_nil] at hreplyBytes
  omega

/-! ### What is reported -/

variable {info : List Char} {key name : String}

/-- A key that starts no line gives zero. -/
theorem getVal_of_find?_none (h : (lines info).find? key.toList.isPrefixOf = none) :
  getVal info key = 0
  := by
  rw [getVal, fieldPart, h]
  rfl

/-- A number of 64 bits is read back from the first line that starts with its name. -/
theorem getVal_of_find? {n : ℕ} (hn : n < 2 ^ 64) (hname : ':' ∉ name.toList)
    (h : (lines info).find? key.toList.isPrefixOf = some (infoLine (name, toString n))) :
  getVal info key = UInt64.ofNat n
  := by
  have hvalue : ':' ∉ (toString n).toList := not_mem_toString (by decide) n
  rw [getVal, fieldPart, h, Option.bind_some, infoLine, splitOn_behind hname hvalue,
    Option.bind_some, String.ofList_toList, trim_of_isWord (isWord_toString n),
    parseU64_toString hn, Option.getD_some]

/-- The report has the number of operations, and zero for the memory and for the keys. -/
theorem usageFigures_handleInfo (hstats : amb.stats.Fits)
    (hslots : s.slots.entries.length < 2 ^ 64) :
  usageFigures (Resp.readInto 8192 (handleInfo amb s))
    = ⟨UInt64.ofNat amb.stats.totalOps, 0, 0⟩
  := by
  obtain ⟨n, hlines⟩ := lines_handleInfo (s := s) hstats
  simp only [infoLines, infoFields, List.map_cons, List.map_nil, infoLine] at hlines
  have hops : getVal (handleInfo amb s).toList "total_ops:" = UInt64.ofNat amb.stats.totalOps := by
    apply getVal_of_find? hstats.totalOps (by decide : ':' ∉ "total_ops".toList)
    rw [hlines]
    rfl
  have hmemory : getVal (handleInfo amb s).toList "used_memory:" = 0 := by
    apply getVal_of_find?_none
    rw [hlines]
    rfl
  have hkeys : getVal (handleInfo amb s).toList "total_keys:" = 0 := by
    apply getVal_of_find?_none
    rw [hlines]
    rfl
  rw [Resp.readInto_of_le (length_handleInfo_le hstats hslots), asBytes_eq_flatMap, usageFigures,
    fromUtf8Lossy_flatMap, hops, hmemory, hkeys]

/-- For all statistics, the report has the number of operations, the memory and the number of keys
that the reply was made from exactly when there is no memory used and there are no keys. -/
theorem usageFigures_eq_iff (hstats : amb.stats.Fits) (hslots : s.slots.entries.length < 2 ^ 64) :
  let figures := usageFigures (Resp.readInto 8192 (handleInfo amb s))
  (figures.liveOps.toNat = amb.stats.totalOps ∧
    figures.memoryBytes.toNat = amb.stats.memoryBytes ∧
    figures.keys.toNat = amb.stats.keyCount) ↔
  amb.stats.memoryBytes = 0 ∧ amb.stats.keyCount = 0
  := by
  intro figures
  have hfigures : figures = ⟨UInt64.ofNat amb.stats.totalOps, 0, 0⟩ :=
    usageFigures_handleInfo hstats hslots
  rw [hfigures]
  have hops : (UInt64.ofNat amb.stats.totalOps).toNat = amb.stats.totalOps :=
    UInt64.toNat_ofNat_of_lt' hstats.totalOps
  constructor
  · rintro ⟨-, hmemory, hkeys⟩
    exact ⟨hmemory.symm, hkeys.symm⟩
  · rintro ⟨hmemory, hkeys⟩
    exact ⟨hops, hmemory.symm, hkeys.symm⟩

/-- A command that meets with an engine of as much memory and as many keys as given, after 7
operations. -/
def ambientWith (memoryBytes keyCount : ℕ) : Ambient :=
  { plainAmbient with stats := ⟨7, "0.5000", 1, 2, 3, keyCount, memoryBytes⟩ }

theorem fits_ambientWith {memoryBytes keyCount : ℕ} (hmemory : memoryBytes < 2 ^ 64)
    (hkeys : keyCount < 2 ^ 64) :
  (ambientWith memoryBytes keyCount).stats.Fits
  := by
  constructor
  · change 7 < 2 ^ 64
    decide
  · change 1 < 2 ^ 64
    decide
  · change 2 < 2 ^ 64
    decide
  · change 3 < 2 ^ 64
    decide
  · apply hkeys
  · apply hmemory
  · change "0.5000".toList.length ≤ 320
    decide
  · change '\n' ∉ "0.5000".toList
    decide

/-- The report on an empty engine is right. -/
theorem usageFigures_empty :
  let figures := usageFigures (Resp.readInto 8192 (handleInfo (ambientWith 0 0) (.empty "node")))
  figures.liveOps.toNat = 7 ∧ figures.memoryBytes.toNat = 0 ∧ figures.keys.toNat = 0
  := by
  have hstats : (ambientWith 0 0).stats.Fits := fits_ambientWith (by decide) (by decide)
  apply (usageFigures_eq_iff hstats (by decide)).mpr
  exact ⟨rfl, rfl⟩

/-- The report on an engine with 4096 bytes and 12 keys has neither. -/
theorem usageFigures_4096 :
  let figures := usageFigures
    (Resp.readInto 8192 (handleInfo (ambientWith 4096 12) (.empty "node")))
  ¬ (figures.liveOps.toNat = 7 ∧ figures.memoryBytes.toNat = 4096 ∧ figures.keys.toNat = 12)
  := by
  have hstats : (ambientWith 4096 12).stats.Fits := fits_ambientWith (by decide) (by decide)
  intro figures h
  have hfigures : figures = ⟨UInt64.ofNat 7, 0, 0⟩ := usageFigures_handleInfo hstats (by decide)
  rw [hfigures] at h
  exact absurd h.2.1 (by decide)

/-! ### The request -/

variable {ext : Externals} {cfg : DaemonConfig} {server : ServerState}

theorem words_info :
  words (Resp.readInto 4096 "INFO\r\n") = ["INFO"]
  := by
  have hws : ∀ w ∈ ["INFO"], IsWord w := by
    simp only [List.mem_singleton, forall_eq]
    decide
  apply Resp.words_readInto hws _ (by decide)
  decide

/-- A daemon that requires no authentication is reported on by its reply. -/
theorem usage_of_not_requireAuth :
  usage ext cfg false amb server = .ok ({ server with conn := .initial false },
    usageFigures (Resp.readInto 8192 (handleInfo amb server.daemon)))
  := by
  have hupper : toUppercase "INFO" = "INFO" := by decide
  have hreply : handleResp ext cfg amb server.daemon (Resp.readInto 4096 "INFO\r\n")
      = .ok (server.daemon, handleInfo amb server.daemon) := by
    rw [handleResp, words_info]
    simp [hupper, dispatch]
    rfl
  rw [usage, Resp.request_of_not_requireAuth words_info (by decide) (by decide), hreply]
  rfl

/-- A daemon that requires authentication is reported on with zeros only. -/
theorem usage_of_requireAuth :
  usage ext cfg true amb server = .ok ({ server with conn := .initial true }, ⟨0, 0, 0⟩)
  := by
  rw [usage, Resp.request_of_requireAuth words_info (by decide) (by decide)]
  have hreply : usageFigures (Resp.readInto 8192
      "-NOAUTH Authentication required. Send AUTH <api_key> first.\r\n") = ⟨0, 0, 0⟩ := by
    decide +kernel
  rw [← hreply]
  rfl

end Cachee
