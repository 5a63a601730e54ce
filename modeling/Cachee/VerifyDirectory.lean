import Cachee.Library.Script
import Cachee.VerifyReport

/-!
# The verifier on a directory, and its command line

The verifier goes through the files of a directory with the extension `cab`, in the order in which
they are listed, counts the valid ones and the others, and exits with 1 if there are others.  Its
command line names a file or a directory, and asks for text or for JSON.  It exits with 0 only when
all that it was asked about is valid.
-/

open Text

namespace Cachee

/-! ### Files -/

/-- What the verifier sees of the files: what comes of reading the file at a path, and of listing
the names in the directory at a path. -/
structure FileSystem where
  read : String → Except String Bytes
  readDir : String → Except String (List String)

/-- The path of a name in a directory. -/
def joinPath (dir name : String) : String :=
  if hasSuffix dir "/" then dir ++ name else dir ++ "/" ++ name

/-- The extension of a file name: what follows its last dot, unless this begins the name. -/
def extension (name : String) : Option String :=
  let reversed := name.toList.reverse
  match reversed.dropWhile (· ≠ '.') with
  | [] | [_] => none
  | _ => some (String.ofList (reversed.takeWhile (· ≠ '.')).reverse)

/-- Whether a name is that of an archive. -/
def isCab (name : String) : Bool := extension name = some "cab"

/-! ### Reports in JSON -/

/-- A JSON value. -/
inductive Json where
  | null
  | bool (b : Bool)
  | number (n : ℕ)
  | string (s : String)
  | array (items : List Json)
  | object (fields : List (String × Json))

/-- An optional text in JSON. -/
def Json.ofOption : Option String → Json
  | some s => .string s
  | none => .null

/-- The report as JSON. -/
def resultToJson (r : BundleVerification) : Json :=
  .object
    [("file", .string r.file),
      ("valid", .bool r.valid),
      ("magic", .bool r.magicOk),
      ("version", .number r.version.toNat),
      ("computation_type", .string r.computationType),
      ("timestamp_ns", .number r.timestamp.toNat),
      ("fingerprint_present", .bool r.fingerprintPresent),
      ("engine", .string r.engine),
      ("engine_version", .string r.engineVersion),
      ("circuit_id", .ofOption r.circuitId),
      ("signatures", .object
        [("mldsa65", .bool r.mldsaValid),
          ("falcon512", .bool r.falconValid),
          ("slhdsa128f", .bool r.slhdsaValid),
          ("two_of_three", .bool r.twoOfThree)]),
      ("content_hash", .string r.contentHashHex),
      ("content_address", .string r.contentAddressHex),
      ("on_chain_anchored", .bool r.onChainAnchored),
      ("posture", .string r.posture),
      ("error", .ofOption r.error)]

/-! ### The directory -/

/-- The files verified so far: how many, and the reports that are kept for the end. -/
structure VerifierTally where
  total : ℕ
  valid : ℕ
  invalid : ℕ
  results : List BundleVerification

/-- Count a file, and keep its report for the JSON output. -/
def VerifierTally.add (jsonMode : Bool) (tally : VerifierTally) (r : BundleVerification) :
    VerifierTally where
  total := tally.total + 1
  valid := if r.valid then tally.valid + 1 else tally.valid
  invalid := if r.valid then tally.invalid else tally.invalid + 1
  results := if jsonMode then tally.results ++ [r] else tally.results

/-- The line about a file. -/
def entryLine (r : BundleVerification) : String :=
  let status := if r.valid then "VALID" else "INVALID"
  let ok (valid : Bool) := if valid then "ok" else "FAIL"
  let sigs := s!"ML-DSA:{ok r.mldsaValid} FALCON:{ok r.falconValid} SLH-DSA:{ok r.slhdsaValid}"
  s!"  {status} {r.file} [{sigs}]"

/-- The end of the output, after the lines about the files. -/
def VerifierTally.summary (jsonMode : Bool) (pretty : Json → String) (dir : String)
    (tally : VerifierTally) :
    List String :=
  if jsonMode then
    [pretty (.object
      [("directory", .string dir),
        ("total", .number tally.total),
        ("valid", .number tally.valid),
        ("invalid", .number tally.invalid),
        ("results", .array (tally.results.map resultToJson))])]
  else
    ["", s!"  Total: {tally.total} | Valid: {tally.valid} | Invalid: {tally.invalid}"]

section Verifier

variable (sha3 : Bytes → Block 32) (lib : PqLibrary) (json : JsonCodec SignerIdentity)
  (pretty : Json → String) (fs : FileSystem)

/-- Go through the names in a directory. -/
def verifyEntries (jsonMode : Bool) (dir : String) :
    VerifierTally → List String → Console VerifierTally
  | tally, [] => return tally
  | tally, name :: names => do
    if isCab name then
      let path := joinPath dir name
      let result ← verifyFile sha3 lib json path (fs.read path)
      unless jsonMode do printLines [entryLine result]
      verifyEntries jsonMode dir (tally.add jsonMode result) names
    else
      verifyEntries jsonMode dir tally names

/-- The verifier on a directory.  Returns the exit code. -/
def verifyDirectory (jsonMode : Bool) (dir : String) : Console ℕ := do
  match fs.readDir dir with
  | .error e =>
    printLines [s!"Error reading directory '{dir}': {e}"]
    return 1
  | .ok names =>
    let tally ← verifyEntries sha3 lib json fs jsonMode dir ⟨0, 0, 0, []⟩ names
    printLines (tally.summary jsonMode pretty dir)
    return if 0 < tally.invalid then 1 else 0

/-- The text about the usage. -/
def usageLines : List String :=
  ["cachee-verify — standalone CAB bundle verification",
    "",
    "Usage:",
    "  cachee-verify <file.cab>          Verify a single bundle",
    "  cachee-verify <file.cab> --json    Output as JSON",
    "  cachee-verify --dir <path>         Verify all .cab files in directory",
    "",
    "No network calls. No Cachee account. No H33 dependency.",
    "Verification uses only NIST public specifications (FIPS 203/204/205)",
    "and the signer's public keys included in the bundle."]

/-- The verifier on a single file, with its report as text or as JSON.  Returns the exit code. -/
def verifySingle (jsonMode : Bool) (path : String) : Console ℕ :=
  if jsonMode then do
    let result ← verifyFile sha3 lib json path (fs.read path)
    printLines [pretty (resultToJson result)]
    return if result.valid then 0 else 1
  else
    verifyMain sha3 lib json path (fs.read path)

/-- The command line of the verifier.  Returns the exit code. -/
def verifyBin (args : List String) : Console ℕ := do
  match args[1]? with
  | none =>
    printLines usageLines
    return 1
  | some first =>
    if first = "--help" ∨ first = "-h" then
      printLines usageLines
      return 0
    else
      let jsonMode := args.any (· = "--json")
      match args.findIdx? (· = "--dir") with
      | some idx =>
        match args[idx + 1]? with
        | none =>
          printLines ["Error: --dir requires a path argument"]
          return 1
        | some dir => verifyDirectory sha3 lib json pretty fs jsonMode dir
      | none =>
        if hasPrefix first "-" then
          printLines [s!"Error: unknown flag '{first}'"]
          return 1
        else
          verifySingle sha3 lib json pretty fs jsonMode first

end Verifier

variable {sha3 : Bytes → Block 32} {lib : PqLibrary} {json : JsonCodec SignerIdentity}
  {pretty : Json → String} {fs : FileSystem} {jsonMode : Bool} {path dir : String}
  {names : List String} {results : List BundleVerification} {r : BundleVerification}

theorem isCab_append {stem : String} (h : stem ≠ "") :
  isCab (stem ++ ".cab")
  := by
  have hne : stem.toList.reverse ≠ [] := by
    rw [ne_eq, List.reverse_eq_nil_iff, String.toList_eq_nil_iff]
    apply h
  have hreversed : (stem ++ ".cab").toList.reverse
      = 'b' :: 'a' :: 'c' :: '.' :: stem.toList.reverse := by
    rw [String.toList_append, List.reverse_append]
    rfl
  obtain ⟨c, rest, hrest⟩ := List.exists_cons_of_ne_nil hne
  rw [isCab, extension, hreversed, hrest]
  rfl

/-! ### Single files -/

/-- The file at a path can be read, and the bundle that is read from it has two valid
signatures. -/
def FileSystem.Verifies (fs : FileSystem) (lib : PqLibrary) (json : JsonCodec SignerIdentity)
    (path : String) : Prop :=
  ∃ bytes, fs.read path = .ok bytes ∧ ReadBackTwoOfThree lib json bytes

/-- There is a report on every file, and it is valid when the file verifies. -/
theorem exists_verifyFile (sha3 : Bytes → Block 32) (lib : PqLibrary)
    (json : JsonCodec SignerIdentity) (fs : FileSystem) (path : String) :
  ∃ r, verifyFile sha3 lib json path (fs.read path) = .ok r ∧
    (r.valid ↔ fs.Verifies lib json path)
  := by
  rw [FileSystem.Verifies]
  cases hread : fs.read path with
  | error e => simp [verifyFile, BundleVerification.failed]
  | ok bytes => simpa using verifyFile_eq sha3 lib json path bytes

/-- The report that the verifier makes on a file is valid when the file verifies. -/
theorem valid_iff_verifies (hr : verifyFile sha3 lib json path (fs.read path) = .ok r) :
  r.valid ↔ fs.Verifies lib json path
  := by
  obtain ⟨r', hr', hvalid⟩ := exists_verifyFile sha3 lib json fs path
  obtain rfl := Except.ok.inj (hr.symm.trans hr')
  apply hvalid

/-- The verifier exits with 0 on a single file when the file verifies. -/
theorem verifySingle_eq_zero_iff :
  (verifySingle sha3 lib json pretty fs jsonMode path).output.1 = .ok 0 ↔
    fs.Verifies lib json path
  := by
  obtain ⟨r, hr, hvalid⟩ := exists_verifyFile sha3 lib json fs path
  rw [← hvalid, verifySingle]
  cases jsonMode with
  | true =>
    rw [if_pos rfl, hr]
    change Except.ok (if r.valid = true then 0 else 1) = .ok 0 ↔ _
    simp
  | false =>
    rw [if_neg Bool.false_ne_true]
    constructor
    · intro hzero
      rw [output_verifyMain hr] at hzero
      change Script.outcome (printResult r >>= fun _ => pure (if r.valid = true then 0 else 1)) []
        = .ok 0 at hzero
      -- Unless the report panics, the exit code is that of the verdict.
      cases hprint : Script.outcome (printResult r) [] with
      | error e =>
        rw [(Script.bind_of_error hprint).2] at hzero
        cases hzero
      | ok _ =>
        rw [(Script.bind_of_ok hprint).2] at hzero
        change Except.ok (if r.valid = true then 0 else 1) = .ok 0 at hzero
        simpa using hzero
    · intro h
      obtain ⟨bytes, hread, b, hb, -⟩ := hvalid.mp h
      obtain ⟨r', body, hr', houtput⟩ : ReachesVerdict sha3 lib json path (fs.read path) := by
        rw [hread]
        apply reachesVerdict_of_bundle hb
      obtain rfl := Except.ok.inj (hr.symm.trans hr')
      rw [houtput, if_pos h]

/-! ### Directories -/

/-- The reports on the archives among some names. -/
def Reports (sha3 : Bytes → Block 32) (lib : PqLibrary) (json : JsonCodec SignerIdentity)
    (fs : FileSystem) (dir : String) (names : List String) (results : List BundleVerification) :
    Prop :=
  List.Forall₂
    (fun name r => verifyFile sha3 lib json (joinPath dir name) (fs.read (joinPath dir name)) = .ok r)
    (names.filter isCab) results

/-- All archives are reported on. -/
theorem exists_reports (sha3 : Bytes → Block 32) (lib : PqLibrary)
    (json : JsonCodec SignerIdentity) (fs : FileSystem) (dir : String) (names : List String) :
  ∃ results, Reports sha3 lib json fs dir names results
  := by
  unfold Reports
  induction names.filter isCab with
  | nil => exact ⟨[], .nil⟩
  | cons name names ih =>
    obtain ⟨results, hresults⟩ := ih
    obtain ⟨r, hr, -⟩ := exists_verifyFile sha3 lib json fs (joinPath dir name)
    exact ⟨r :: results, .cons hr hresults⟩

/-- What is counted and printed of the names in a directory: the reports on the archives. -/
theorem run_verifyEntries (tally : VerifierTally) (printed : List String)
    (hresults : Reports sha3 lib json fs dir names results) :
  (verifyEntries sha3 lib json fs jsonMode dir tally names).run.run printed
    = (.ok (results.foldl (VerifierTally.add jsonMode) tally),
      printed ++ if jsonMode then [] else results.map entryLine)
  := by
  induction names generalizing tally printed results with
  | nil =>
    cases hresults
    cases jsonMode <;> simp [verifyEntries] <;> rfl
  | cons name names ih =>
    rw [verifyEntries]
    rw [Reports, List.filter_cons] at hresults
    by_cases hcab : isCab name = true
    · rw [if_pos hcab] at hresults ⊢
      obtain ⟨r, rest, hr, hrest, rfl⟩ := List.forall₂_cons_left_iff.mp hresults
      dsimp only
      rw [hr]
      cases jsonMode with
      | true => apply ih _ _ hrest
      | false =>
        change (verifyEntries sha3 lib json fs false dir (tally.add false r) names).run.run
          (printed ++ [entryLine r]) = _
        rw [ih _ _ hrest]
        simp
    · rw [if_neg hcab] at hresults ⊢
      apply ih _ _ hresults

/-- The counts of some reports. -/
def VerifierTally.of (jsonMode : Bool) (results : List BundleVerification) : VerifierTally where
  total := results.length
  valid := results.countP (·.valid)
  invalid := results.countP (!·.valid)
  results := if jsonMode then results else []

/-- Going through reports adds them to those that have been counted. -/
theorem foldl_add (before results : List BundleVerification) :
  results.foldl (VerifierTally.add jsonMode) (.of jsonMode before)
    = .of jsonMode (before ++ results)
  := by
  induction results generalizing before with
  | nil => simp
  | cons r results ih =>
    have hadd : VerifierTally.add jsonMode (.of jsonMode before) r
        = .of jsonMode (before ++ [r]) := by
      cases hvalid : r.valid <;> cases jsonMode <;>
        simp [VerifierTally.add, VerifierTally.of, hvalid]
    rw [List.foldl_cons, hadd, ih, List.append_assoc, List.singleton_append]

/-- The output of the verifier on a directory that can be listed. -/
theorem output_verifyDirectory (hnames : fs.readDir dir = .ok names)
    (hresults : Reports sha3 lib json fs dir names results) :
  (verifyDirectory sha3 lib json pretty fs jsonMode dir).output
    = (.ok (if ∀ r ∈ results, r.valid then 0 else 1),
      (if jsonMode then [] else results.map entryLine)
        ++ (VerifierTally.of jsonMode results).summary jsonMode pretty dir)
  := by
  have hloop : (verifyEntries sha3 lib json fs jsonMode dir ⟨0, 0, 0, []⟩ names).run.run []
      = (.ok (.of jsonMode results), if jsonMode then [] else results.map entryLine) := by
    have hempty : (⟨0, 0, 0, []⟩ : VerifierTally) = .of jsonMode [] := by simp [VerifierTally.of]
    rw [run_verifyEntries _ _ hresults, hempty, foldl_add, List.nil_append, List.nil_append]
  have hinvalid : 0 < (VerifierTally.of jsonMode results).invalid ↔ ¬ ∀ r ∈ results, r.valid := by
    simp [VerifierTally.of, List.countP_pos_iff]
  have houtcome :
      Script.outcome (verifyEntries sha3 lib json fs jsonMode dir ⟨0, 0, 0, []⟩ names) []
      = .ok (.of jsonMode results) := congrArg Prod.fst hloop
  have hexec : Script.exec (verifyEntries sha3 lib json fs jsonMode dir ⟨0, 0, 0, []⟩ names) []
      = if jsonMode then [] else results.map entryLine := congrArg Prod.snd hloop
  unfold verifyDirectory
  rw [hnames]
  apply Prod.ext
  · apply (Script.bind_of_ok houtcome).2.trans
    rw [hexec]
    change Except.ok (if 0 < (VerifierTally.of jsonMode results).invalid then 1 else 0) = _
    simp only [hinvalid, ite_not]
  · apply (Script.bind_of_ok houtcome).1.trans
    rw [hexec]
    rfl

/-- All reports are valid when all archives verify. -/
theorem forall_valid_iff (hresults : Reports sha3 lib json fs dir names results) :
  (∀ r ∈ results, r.valid) ↔
    ∀ name ∈ names, isCab name → fs.Verifies lib json (joinPath dir name)
  := by
  have hiff : (∀ r ∈ results, r.valid) ↔
      ∀ name ∈ names.filter isCab, fs.Verifies lib json (joinPath dir name) := by
    unfold Reports at hresults
    generalize names.filter isCab = archives at hresults ⊢
    induction hresults with
    | nil => simp
    | cons hr hresults ih =>
      rw [List.forall_mem_cons, List.forall_mem_cons, ih, valid_iff_verifies hr]
  simp only [hiff, List.mem_filter, and_imp]

/-- Each of the archives is reported on. -/
theorem exists_report (hresults : Reports sha3 lib json fs dir names results) {name : String}
    (hname : name ∈ names) (hcab : isCab name) :
  ∃ r ∈ results,
    verifyFile sha3 lib json (joinPath dir name) (fs.read (joinPath dir name)) = .ok r
  := by
  have hmem : name ∈ names.filter isCab := List.mem_filter.mpr ⟨hname, hcab⟩
  unfold Reports at hresults
  generalize names.filter isCab = archives at hresults hmem
  induction hresults with
  | nil => cases hmem
  | cons hr _ ih =>
    rcases List.mem_cons.mp hmem with rfl | hmem
    · exact ⟨_, List.mem_cons_self, hr⟩
    · obtain ⟨r, hmem, hr⟩ := ih hmem
      exact ⟨r, List.mem_cons_of_mem _ hmem, hr⟩

/-- The directory at a path can be listed, and all archives in it verify. -/
def FileSystem.DirVerifies (fs : FileSystem) (lib : PqLibrary) (json : JsonCodec SignerIdentity)
    (dir : String) : Prop :=
  ∃ names, fs.readDir dir = .ok names ∧
    ∀ name ∈ names, isCab name → fs.Verifies lib json (joinPath dir name)

/-- The verifier exits with 0 on a directory when all archives in it verify. -/
theorem verifyDirectory_eq_zero_iff :
  (verifyDirectory sha3 lib json pretty fs jsonMode dir).output.1 = .ok 0 ↔
    fs.DirVerifies lib json dir
  := by
  rw [FileSystem.DirVerifies]
  cases hnames : fs.readDir dir with
  | error e =>
    unfold verifyDirectory
    rw [hnames]
    change Except.ok 1 = .ok 0 ↔ _
    simp
  | ok names =>
    obtain ⟨results, hresults⟩ := exists_reports sha3 lib json fs dir names
    rw [output_verifyDirectory hnames hresults]
    simp [forall_valid_iff hresults]

/-! ### The command line -/

/-- What the verifier may be asked for: its usage, a directory, or a file. -/
inductive VerifierRequest where
  | usage
  | directory (dir : String)
  | file (path : String)

/-- The arguments, of which the first is the name of the program, ask for the usage. -/
def AskUsage (args : List String) : Prop :=
  ∃ program flag rest, args = program :: flag :: rest ∧ (flag = "--help" ∨ flag = "-h")

/-- The arguments ask for something. -/
def VerifierRequest.AskedBy (args : List String) : VerifierRequest → Prop
  | usage => AskUsage args
  | directory dir => ¬ AskUsage args ∧
    ∃ before after, args = before ++ "--dir" :: dir :: after ∧ "--dir" ∉ before
  | file path => ¬ AskUsage args ∧ "--dir" ∉ args ∧
    ∃ program rest, args = program :: path :: rest ∧ ¬ hasPrefix path "-"

/-- What is asked for is there, and all of it verifies. -/
def VerifierRequest.Verifies (lib : PqLibrary) (json : JsonCodec SignerIdentity) (fs : FileSystem) :
    VerifierRequest → Prop
  | usage => True
  | directory dir => fs.DirVerifies lib json dir
  | file path => fs.Verifies lib json path

theorem dir_notMem_iff {args : List String} :
  args.findIdx? (· = "--dir") = none ↔ "--dir" ∉ args
  := by
  rw [List.findIdx?_eq_none_iff]
  constructor
  · intro h hmem
    have hne := h _ hmem
    simp at hne
  · intro h a ha
    apply decide_eq_false
    rintro rfl
    apply h ha

/-- What follows the first flag for a directory. -/
theorem getElem?_findIdx?_iff {args : List String} :
  (∃ idx, args.findIdx? (· = "--dir") = some idx ∧ args[idx + 1]? = some dir) ↔
    ∃ before after, args = before ++ "--dir" :: dir :: after ∧ "--dir" ∉ before
  := by
  constructor
  · rintro ⟨idx, hidx, hdir⟩
    obtain ⟨hlt, hflag, hbefore⟩ := List.findIdx?_eq_some_iff_getElem.mp hidx
    obtain ⟨hlt', rfl⟩ := List.getElem?_eq_some_iff.mp hdir
    use args.take idx, args.drop (idx + 2)
    constructor
    · have hflag : args[idx] = "--dir" := by simpa using hflag
      rw [← hflag, ← List.drop_eq_getElem_cons, ← List.drop_eq_getElem_cons, List.take_append_drop]
    · intro hmem
      obtain ⟨j, hj, heq⟩ := List.mem_take_iff_getElem.mp hmem
      apply hbefore j (by omega)
      simpa using heq
  · rintro ⟨before, after, rfl, hbefore⟩
    use before.length
    have hnone : before.findIdx? (· = "--dir") = none := dir_notMem_iff.mpr hbefore
    constructor
    · simp [List.findIdx?_append, hnone, List.findIdx?_cons]
    · simp

/-- Nothing is asked for by less than one argument. -/
theorem VerifierRequest.AskedBy.exists_cons_cons {request : VerifierRequest} {args : List String}
    (h : request.AskedBy args) :
  ∃ program first rest, args = program :: first :: rest
  := by
  cases request with
  | usage =>
    obtain ⟨program, flag, rest, rfl, -⟩ := h
    exact ⟨program, flag, rest, rfl⟩
  | directory dir =>
    obtain ⟨-, before, after, rfl, -⟩ := h
    cases before with
    | nil => exact ⟨_, _, _, rfl⟩
    | cons program before =>
      cases before with
      | nil => exact ⟨_, _, _, rfl⟩
      | cons first before => exact ⟨_, _, _, rfl⟩
  | file path =>
    obtain ⟨-, -, program, rest, rfl, -⟩ := h
    exact ⟨program, path, rest, rfl⟩

/-- The arguments ask for one thing at most. -/
theorem VerifierRequest.AskedBy.unique {request request' : VerifierRequest} {args : List String}
    (h : request.AskedBy args) (h' : request'.AskedBy args) :
  request = request'
  := by
  have hflag : ∀ {dir : String},
      (∃ before after, args = before ++ "--dir" :: dir :: after ∧ "--dir" ∉ before) →
      "--dir" ∈ args := by
    rintro dir ⟨before, after, rfl, -⟩
    simp
  cases request with
  | usage =>
    cases request' with
    | usage => rfl
    | directory dir' => exact absurd h h'.1
    | file path' => exact absurd h h'.1
  | directory dir =>
    cases request' with
    | usage => exact absurd h' h.1
    | directory dir' =>
      obtain ⟨idx, hidx, hdir⟩ := getElem?_findIdx?_iff.mpr h.2
      obtain ⟨idx', hidx', hdir'⟩ := getElem?_findIdx?_iff.mpr h'.2
      obtain rfl := Option.some.inj (hidx.symm.trans hidx')
      obtain rfl := Option.some.inj (hdir.symm.trans hdir')
      rfl
    | file path' => exact absurd (hflag h.2) h'.2.1
  | file path =>
    cases request' with
    | usage => exact absurd h' h.1
    | directory dir' => exact absurd (hflag h'.2) h.2.1
    | file path' =>
      obtain ⟨-, -, program, rest, rfl, -⟩ := h
      obtain ⟨-, -, program', rest', heq, -⟩ := h'
      obtain ⟨-, heq⟩ := List.cons.inj heq
      obtain ⟨rfl, -⟩ := List.cons.inj heq
      rfl

theorem askUsage_cons_cons_iff {program first : String} {rest : List String} :
  AskUsage (program :: first :: rest) ↔ first = "--help" ∨ first = "-h"
  := by
  constructor
  · rintro ⟨_, _, _, heq, hflag⟩
    cases heq
    apply hflag
  · intro hflag
    exact ⟨program, first, rest, rfl, hflag⟩

/-! ### What the verifier does with its arguments -/

variable {args : List String}

theorem verifyBin_of_usage (h : AskUsage args) :
  (verifyBin sha3 lib json pretty fs args).output = (.ok 0, usageLines)
  := by
  obtain ⟨program, flag, rest, rfl, hflag⟩ := h
  change (if flag = "--help" ∨ flag = "-h" then _ else _ : Console ℕ).output = _
  rw [if_pos hflag]
  rfl

/-- Where a directory is asked for, the verifier goes through it. -/
theorem verifyBin_of_directory (h : (VerifierRequest.directory dir).AskedBy args) :
  verifyBin sha3 lib json pretty fs args
    = verifyDirectory sha3 lib json pretty fs (args.any (· = "--json")) dir
  := by
  obtain ⟨idx, hidx, hdir⟩ := getElem?_findIdx?_iff.mpr h.2
  obtain ⟨program, first, rest, rfl⟩ := h.exists_cons_cons
  have husage := h.1
  rw [askUsage_cons_cons_iff] at husage
  unfold verifyBin
  rw [hidx]
  dsimp only [List.getElem?_cons_succ, List.getElem?_cons_zero]
  rw [if_neg husage, ← List.getElem?_cons_succ (a := program), hdir]

/-- Where a file is asked for, the verifier verifies it. -/
theorem verifyBin_of_file (h : (VerifierRequest.file path).AskedBy args) :
  verifyBin sha3 lib json pretty fs args
    = verifySingle sha3 lib json pretty fs (args.any (· = "--json")) path
  := by
  obtain ⟨husage, hdir, program, rest, rfl, hdash⟩ := h
  rw [askUsage_cons_cons_iff] at husage
  rw [← dir_notMem_iff] at hdir
  unfold verifyBin
  rw [hdir]
  dsimp only [List.getElem?_cons_succ, List.getElem?_cons_zero]
  rw [if_neg husage, if_neg hdash]

/-- Where nothing is asked for, the verifier exits with 1. -/
theorem verifyBin_of_forall_not (h : ∀ request : VerifierRequest, ¬ request.AskedBy args) :
  (verifyBin sha3 lib json pretty fs args).output.1 = .ok 1
  := by
  unfold verifyBin
  match args with
  | [] => rfl
  | [_] => rfl
  | program :: first :: rest =>
    have husage : ¬ AskUsage (program :: first :: rest) := h .usage
    dsimp only [List.getElem?_cons_succ, List.getElem?_cons_zero]
    rw [if_neg (askUsage_cons_cons_iff.not.mp husage)]
    cases hidx : (program :: first :: rest).findIdx? (· = "--dir") with
    | some idx =>
      dsimp only
      cases hdir : (program :: first :: rest)[idx + 1]? with
      | none =>
        rw [← List.getElem?_cons_succ (a := program), hdir]
        rfl
      | some dir =>
        exact absurd ⟨husage, getElem?_findIdx?_iff.mp ⟨idx, hidx, hdir⟩⟩ (h (.directory dir))
    | none =>
      dsimp only
      split
      · rfl
      · rename_i hdash
        exact absurd ⟨husage, dir_notMem_iff.mp hidx, program, rest, rfl, hdash⟩ (h (.file first))

/-- The verifier exits with 0 exactly when something is asked of it that it finds, and all of it
verifies, whether it reports in text or in JSON. -/
theorem verifyBin_eq_zero_iff (sha3 : Bytes → Block 32) (lib : PqLibrary)
    (json : JsonCodec SignerIdentity) (pretty : Json → String) (fs : FileSystem)
    (args : List String) :
  (verifyBin sha3 lib json pretty fs args).output.1 = .ok 0 ↔
    ∃ request : VerifierRequest, request.AskedBy args ∧ request.Verifies lib json fs
  := by
  have hrequest : ∀ request : VerifierRequest, request.AskedBy args →
      ((verifyBin sha3 lib json pretty fs args).output.1 = .ok 0 ↔
        request.Verifies lib json fs) := by
    intro request hasked
    cases request with
    | usage => simp [verifyBin_of_usage hasked, VerifierRequest.Verifies]
    | directory dir =>
      rw [verifyBin_of_directory hasked]
      apply verifyDirectory_eq_zero_iff
    | file path =>
      rw [verifyBin_of_file hasked]
      apply verifySingle_eq_zero_iff
  by_cases hnone : ∃ request : VerifierRequest, request.AskedBy args
  · obtain ⟨request, hasked⟩ := hnone
    rw [hrequest request hasked]
    constructor
    · intro hverifies
      exact ⟨request, hasked, hverifies⟩
    · rintro ⟨request', hasked', hverifies⟩
      rw [hasked.unique hasked']
      apply hverifies
  · rw [not_exists] at hnone
    rw [verifyBin_of_forall_not hnone]
    constructor
    · intro hone
      cases hone
    · rintro ⟨request, hasked, -⟩
      exact absurd hasked (hnone request)

end Cachee
