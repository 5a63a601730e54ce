import Cachee.Archive.Acceptance
import Cachee.VerifyFile

/-!
# The report of the standalone verifier

The verifier prints its report on a file line by line, cuts the two hashes in it to sixteen
characters, and exits with the verdict.  The report on a file without a bundle has no hashes, and
there the cut panics.
-/

open Text

namespace Cachee

/-! ### Printing -/

/-- A computation that prints lines and may fail. -/
abbrev Console := ExceptT Halt (StateM (List String))

/-- Print lines. -/
def printLines (lines : List String) : Console Unit := modify (· ++ lines)

/-- The end of a computation from nothing printed, with what it has printed. -/
def Console.output {α : Type} (c : Console α) : Outcome α × List String := c.run.run []

/-! ### The report -/

def passText (valid : Bool) : String := if valid then "PASS" else "FAIL"

/-- The report up to the hashes. -/
def BundleVerification.headLines (r : BundleVerification) : List String :=
  let magic := if r.magicOk then "CAB1 (valid)" else "INVALID"
  ["",
    "Cachee Archive Bundle Verification",
    "===================================",
    s!"  File             : {r.file}",
    s!"  Magic            : {magic}",
    s!"  Version          : {r.version}",
    s!"  Computation type : {r.computationType}",
    s!"  Timestamp        : {r.timestamp}"]

/-- The part of the report about the fingerprint. -/
def BundleVerification.fingerprintLines (r : BundleVerification) : List String :=
  if r.fingerprintPresent then
    [s!"    Engine         : {r.engine}/{r.engineVersion}"]
    ++ (match r.circuitId with
      | some circuit => [s!"    Circuit        : {circuit}"]
      | none => [])
    ++ ["    Present        : YES"]
  else ["    Present        : NO (structural only)"]

/-- The part of the report about the posture of the signer. -/
def postureLines (posture : String) : List String :=
  if posture = "development" then
    ["  WARNING: Development keys — NOT valid for production use", ""]
  else if posture = "testing" then ["  WARNING: Testing keys — NOT valid for federation", ""]
  else if posture = "production" then ["  Posture          : Production", ""]
  else if posture.isEmpty || posture = "unknown" then
    ["  Posture          : Unknown (pre-v0.2 bundle)", ""]
  else []

/-- The report after the hashes, up to the verdict. -/
def BundleVerification.bodyLines (r : BundleVerification) : List String :=
  let anchored := if r.onChainAnchored then "YES" else "NO"
  ["", "  Computation Fingerprint:"] ++ r.fingerprintLines
  ++ ["",
    "  Signature Verification:",
    s!"    ML-DSA-65      : {passText r.mldsaValid}",
    s!"    FALCON-512     : {passText r.falconValid}",
    s!"    SLH-DSA-128f   : {passText r.slhdsaValid}",
    s!"    2-of-3         : {passText r.twoOfThree}",
    "",
    s!"  On-chain anchor  : {anchored}",
    ""]
  ++ postureLines r.posture
  ++ (match r.error with
    | some err => [s!"  ERROR: {err}", ""]
    | none => [])

/-- The end of the report: the verdict, and where it comes from. -/
def verdictLines (valid : Bool) : List String :=
  let verdict := if valid then "VALID" else "INVALID"
  [s!"  RESULT: {verdict}",
    "",
    "  Verified using NIST FIPS 203/204/205 public specifications.",
    "  No Cachee account. No network calls. No H33 dependency."]

/-- Print the report as text. -/
def printResult (r : BundleVerification) : Console Unit := do
  printLines r.headLines
  let contentHash ← sliceTo r.contentHashHex 16
  printLines [s!"  Content hash     : {contentHash}"]
  let contentAddress ← sliceTo r.contentAddressHex 16
  printLines [s!"  Content address  : {contentAddress}"]
  printLines r.bodyLines
  printLines (verdictLines r.valid)

/-- The verifier on a single file: verify it, print the report, and return the exit code. -/
def verifyMain (sha3 : Bytes → Block 32) (lib : PqLibrary) (json : JsonCodec SignerIdentity)
    (path : String) (content : Except String Bytes) : Console ℕ := do
  let result ← verifyFile sha3 lib json path content
  printResult result
  return if result.valid then 0 else 1

variable {sha3 : Bytes → Block 32} {lib : PqLibrary} {json : JsonCodec SignerIdentity}
  {path : String} {content : Except String Bytes} {r : BundleVerification}

/-- A file that is verified has its report printed. -/
theorem output_verifyMain (hr : verifyFile sha3 lib json path content = .ok r) :
  (verifyMain sha3 lib json path content).output =
    (do printResult r; return if r.valid then 0 else 1 : Console ℕ).output
  := by
  unfold verifyMain
  rw [hr]
  rfl

/-- The report on hashes of sixteen characters is printed up to its end. -/
theorem output_verifyMain_of_slices {contentHash contentAddress : String}
    (hr : verifyFile sha3 lib json path content = .ok r)
    (hhash : sliceTo r.contentHashHex 16 = .ok contentHash)
    (haddress : sliceTo r.contentAddressHex 16 = .ok contentAddress) :
  ∃ body, (verifyMain sha3 lib json path content).output
    = (.ok (if r.valid then 0 else 1), body ++ verdictLines r.valid)
  := by
  use (((r.headLines ++ [s!"  Content hash     : {contentHash}"])
    ++ [s!"  Content address  : {contentAddress}"]) ++ r.bodyLines)
  rw [output_verifyMain hr, printResult, hhash, haddress]
  rfl

/-- The report without a hash panics after its head. -/
theorem output_verifyMain_of_panic (hr : verifyFile sha3 lib json path content = .ok r)
    (hhash : sliceTo r.contentHashHex 16 = .error .panic) :
  (verifyMain sha3 lib json path content).output = (.error .panic, r.headLines)
  := by
  rw [output_verifyMain hr, printResult, hhash]
  rfl

/-! ### Reaching a verdict -/

/-- The verifier reaches its verdict on a file: it ends with exit code 0 or 1 as the file is
valid or not, and with the verdict at the end of what it has printed. -/
def ReachesVerdict (sha3 : Bytes → Block 32) (lib : PqLibrary) (json : JsonCodec SignerIdentity)
    (path : String) (content : Except String Bytes) : Prop :=
  ∃ r body, verifyFile sha3 lib json path content = .ok r ∧
    (verifyMain sha3 lib json path content).output
      = (.ok (if r.valid then 0 else 1), body ++ verdictLines r.valid)

/-- The report on a bundle reaches its verdict. -/
theorem reachesVerdict_of_bundle {bytes : Bytes} {b : CacheeArchiveBundle}
    (hb : CacheeArchiveBundle.deserialize json bytes = .ok b) :
  ReachesVerdict sha3 lib json path (.ok bytes)
  := by
  have hr : ∃ magicOk, verifyFile sha3 lib json path (.ok bytes)
      = .ok (.ofBundle sha3 lib path magicOk b) := by
    simp only [verifyFile, hb]
    exact ⟨_, rfl⟩
  obtain ⟨magicOk, hr⟩ := hr
  have hhash : 16 ≤ 2 * b.contentHash.1.length := by
    rw [b.contentHash.2]
    decide
  have haddress : 16 ≤ 2 * (b.contentAddress sha3).1.length := by
    rw [(b.contentAddress sha3).2]
    decide
  obtain ⟨body, hbody⟩ :=
    output_verifyMain_of_slices hr (sliceTo_hexEncode hhash) (sliceTo_hexEncode haddress)
  exact ⟨_, body, hr, hbody⟩

/-- The report on a file without a bundle panics. -/
theorem output_verifyMain_of_failed {magicOk : Bool} {error : String}
    (hr : verifyFile sha3 lib json path content = .ok (.failed path magicOk error)) :
  (verifyMain sha3 lib json path content).output
    = (.error .panic, (BundleVerification.failed path magicOk error).headLines)
  := by
  apply output_verifyMain_of_panic hr
  rfl

theorem not_reachesVerdict_of_failed {magicOk : Bool} {error : String}
    (hr : verifyFile sha3 lib json path content = .ok (.failed path magicOk error)) :
  ¬ ReachesVerdict sha3 lib json path content
  := by
  rintro ⟨r, body, -, houtput⟩
  rw [output_verifyMain_of_failed hr] at houtput
  cases houtput

/-- The verifier reaches its verdict on the files that can be read and are laid out as a bundle,
and on no others. -/
theorem reachesVerdict_iff :
  ReachesVerdict sha3 lib json path content ↔
    ∃ bytes slack tail b, content = .ok bytes ∧
      CacheeArchiveBundle.LaidOut json bytes slack tail b
  := by
  constructor
  · intro hreach
    cases content with
    | error e => exact absurd hreach (not_reachesVerdict_of_failed rfl)
    | ok bytes =>
      rcases (CacheeArchiveBundle.safe_deserialize json bytes).cases with ⟨b, hb, -⟩ | ⟨msg, hmsg⟩
      · obtain ⟨slack, tail, hlaid⟩ := CacheeArchiveBundle.laidOut_of_deserialize hb
        exact ⟨bytes, slack, tail, b, rfl, hlaid⟩
      · have hr : ∃ magicOk, verifyFile sha3 lib json path (.ok bytes)
            = .ok (.failed path magicOk s!"Deserialization failed: {msg}") := by
          simp only [verifyFile, hmsg]
          exact ⟨_, rfl⟩
        obtain ⟨magicOk, hr⟩ := hr
        exact absurd hreach (not_reachesVerdict_of_failed hr)
  · rintro ⟨bytes, slack, tail, b, rfl, hlaid⟩
    apply reachesVerdict_of_bundle
    exact CacheeArchiveBundle.deserialize_eq_ok_iff.mpr ⟨slack, tail, hlaid⟩

/-- On an empty file, the verifier panics after the head of its report. -/
theorem output_verifyMain_empty :
  (verifyMain primeHash prefixLibrary SignerIdentity.defaultCodec "empty.cab" (.ok [])).output
      = (.error .panic, (BundleVerification.failed "empty.cab" false
        "Deserialization failed: CAB too short: missing magic bytes").headLines) ∧
    ¬ ReachesVerdict primeHash prefixLibrary SignerIdentity.defaultCodec "empty.cab" (.ok [])
  := by
  have hr : verifyFile primeHash prefixLibrary SignerIdentity.defaultCodec "empty.cab" (.ok [])
      = .ok (.failed "empty.cab" false
        "Deserialization failed: CAB too short: missing magic bytes") := rfl
  exact ⟨output_verifyMain_of_failed hr, not_reachesVerdict_of_failed hr⟩

end Cachee
