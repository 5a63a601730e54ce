import Cachee.Archive.Truncation
import Cachee.ContentStore.Count
import Cachee.Library.Lookup
import Cachee.VerifyDirectory

/-!
# Exporting the content store

All bundles of the content store are written to the files of a directory, one after another, until
a write fails: then a part of the file may have been written.  The verifier on the directory reports
on the bundles that were stored last.  A file that was cut off is reported as valid only if all that
is signed of its bundle, and its signatures, have been written.
-/

open Text

namespace Cachee

/-- The files of a directory by their names. -/
abbrev Directory := AList fun _ : String => Bytes

/-- What makes an export stop at a bundle: it cannot be read, its file cannot be opened, or only the
first bytes of it can be written. -/
inductive ExportFault where
  | iterate (e : String)
  | create (e : String)
  | write (written : ℕ) (e : String)

/-- Write a file in place of the one that is there. -/
def writeFile (fault : Option ExportFault) (filename : String) (bytes : Bytes) :
    Script Directory Unit :=
  match fault with
  | none => modify fun dir => dir.insert filename bytes
  | some (.iterate e) => Script.lift (bail s!"Iterator error: {e}")
  | some (.create e) => Script.lift (bail s!"Write failed for {filename}: {e}")
  | some (.write written e) => do
    modify fun dir => dir.insert filename (bytes.take written)
    Script.lift (bail s!"Write failed for {filename}: {e}")

/-- Write some files, of which `count` have been written before.  Returns the count. -/
def writeFiles (faults : ℕ → Option ExportFault) : ℕ → List (String × Bytes) → Script Directory ℕ
  | count, [] => return count
  | count, (filename, bytes) :: files => do
    writeFile (faults count) filename bytes
    writeFiles faults (count + 1) files

namespace ContentStore

/-- Export all bundles to a directory.  Returns the number of bundles. -/
def exportTo (store : ContentStore) (createFault : Option String)
    (faults : ℕ → Option ExportFault) : Script Directory ℕ := do
  match createFault with
  | some e => Script.lift (bail s!"Failed to create export dir: {e}")
  | none => writeFiles faults 0 store.exportAll

end ContentStore

/-- What goes wrong in an export: the directory cannot be created, by the command or once more
before the bundles are written, or the writing stops at a bundle. -/
structure ExportFaults where
  createDir : Option String
  createDirAgain : Option String
  files : ℕ → Option ExportFault

/-- The lines about an export. -/
def exportLines (store : ContentStore) (dest : String) (count : ℕ) : List String :=
  [s!"Exported {count} bundles to {dest}", ""]
    ++ (store.addresses.take 5).map (fun addr => s!"  {hexEncode (addr.1.take 16)}.cab")
    ++ if 5 < store.len then [s!"  ... and {store.len - 5} more"] else []

/-- Nothing goes wrong. -/
def ExportFaults.absent : ExportFaults := ⟨none, none, fun _ => none⟩

/-- `cachee export`, on the database of the content store, if there is one.  Returns the lines that
are printed at its end. -/
def exportCommand (db : Option (Except String Database)) (dest : String) (faults : ExportFaults) :
    Script Directory (List String) :=
  match db with
  | none => return ["No content store found. Start the daemon first: cachee start"]
  | some (.error e) => Script.lift (bail s!"Failed to open content store: {e}")
  | some (.ok db) =>
    let store := ContentStore.openDb db
    if store.isEmpty then return ["Content store is empty. No bundles to export."]
    else
      match faults.createDir with
      | some e => Script.lift (bail e)
      | none => do
        let count ← store.exportTo faults.createDirAgain faults.files
        return exportLines store dest count

/-! ### What is written -/

variable {faults : ℕ → Option ExportFault} {files : List (String × Bytes)} {dir dir' : Directory}
  {count : ℕ}

/-- The first files have been written, and perhaps a part of the next one. -/
def WrittenUpTo (files written : List (String × Bytes)) : Prop :=
  ∃ n, written = files.take n ∨
    ∃ file k, files[n]? = some file ∧ written = files.take n ++ [(file.1, file.2.take k)]

theorem WrittenUpTo.cons {written : List (String × Bytes)} (h : WrittenUpTo files written)
    (file : String × Bytes) :
  WrittenUpTo (file :: files) (file :: written)
  := by
  obtain ⟨n, rfl | ⟨last, k, hlast, rfl⟩⟩ := h
  · exact ⟨n + 1, Or.inl rfl⟩
  · exact ⟨n + 1, Or.inr ⟨last, k, hlast, rfl⟩⟩

theorem WrittenUpTo.names_subset {written : List (String × Bytes)} (h : WrittenUpTo files written) :
  written.map Prod.fst ⊆ files.map Prod.fst
  := by
  obtain ⟨n, rfl | ⟨last, k, hlast, rfl⟩⟩ := h
  · rw [List.map_take]
    apply List.take_subset
  · rw [List.map_append, List.map_take]
    apply List.append_subset.mpr ⟨List.take_subset _ _, ?_⟩
    intro name hname
    obtain rfl := List.mem_singleton.mp hname
    apply List.mem_map_of_mem (List.mem_of_getElem? hlast)

/-- A file is written, or the writing stops with nothing or a part of it written. -/
theorem writeFile_cases (fault : Option ExportFault) (filename : String) (bytes : Bytes)
    (dir : Directory) :
  ((writeFile fault filename bytes).outcome dir = .ok () ∧
      (writeFile fault filename bytes).exec dir = dir.insert filename bytes) ∨
    ∃ e, (writeFile fault filename bytes).outcome dir = .error e ∧
      ((writeFile fault filename bytes).exec dir = dir ∨
        ∃ k, (writeFile fault filename bytes).exec dir = dir.insert filename (bytes.take k))
  := by
  cases fault with
  | none => exact Or.inl ⟨rfl, rfl⟩
  | some fault =>
    right
    cases fault with
    | iterate e => exact ⟨_, rfl, Or.inl rfl⟩
    | create e => exact ⟨_, rfl, Or.inl rfl⟩
    | write written e => exact ⟨_, rfl, Or.inr ⟨written, rfl⟩⟩

/-- However the writing of files ends, it has written the first ones; when it ends well, all. -/
theorem exec_writeFiles (faults : ℕ → Option ExportFault) (count : ℕ)
    (files : List (String × Bytes)) (dir : Directory) :
  ∃ written, (writeFiles faults count files).exec dir = insertAll dir written ∧
    WrittenUpTo files written ∧
    ∀ count', (writeFiles faults count files).outcome dir = .ok count' →
      written = files ∧ count' = count + files.length
  := by
  induction files generalizing count dir with
  | nil =>
    use []
    refine ⟨rfl, ⟨0, Or.inl rfl⟩, ?_⟩
    intro count' hcount'
    exact ⟨rfl, (Except.ok.inj hcount').symm⟩
  | cons file files ih =>
    obtain ⟨filename, bytes⟩ := file
    rw [writeFiles]
    rcases writeFile_cases (faults count) filename bytes dir with
      ⟨hok, hexec⟩ | ⟨e, herror, hexec⟩
    · obtain ⟨hrest, houtcome⟩ :=
        Script.bind_of_ok (f := fun _ => writeFiles faults (count + 1) files) hok
      obtain ⟨written, hwritten, hfirst, hall⟩ := ih (count + 1) (dir.insert filename bytes)
      use (filename, bytes) :: written
      rw [hrest, houtcome, hexec, hwritten]
      refine ⟨rfl, hfirst.cons _, ?_⟩
      intro count' hcount'
      obtain ⟨rfl, rfl⟩ := hall count' hcount'
      refine ⟨rfl, ?_⟩
      rw [List.length_cons]
      omega
    · obtain ⟨hrest, houtcome⟩ :=
        Script.bind_of_error (f := fun _ => writeFiles faults (count + 1) files) herror
      rw [hrest, houtcome]
      have hstop : ∀ count', (.error e : Outcome ℕ) = .ok count' → False := by
        intro count' h
        cases h
      rcases hexec with hexec | ⟨k, hexec⟩
      · use []
        exact ⟨hexec, ⟨0, Or.inl rfl⟩, fun count' h => (hstop count' h).elim⟩
      · use [(filename, bytes.take k)]
        refine ⟨hexec, ⟨0, Or.inr ⟨(filename, bytes), k, rfl, rfl⟩⟩, ?_⟩
        intro count' h
        exact (hstop count' h).elim

/-! ### What is found -/

/-- Of files that have been written up to one of them, what is found was there before, is whole, or
is a part of the last one. -/
theorem exists_torn_of_writtenUpTo (dir : Directory) {written : List (String × Bytes)}
    (h : WrittenUpTo files written) :
  ∃ torn, ∀ filename bytes, (insertAll dir written).lookup filename = some bytes →
    dir.lookup filename = some bytes ∨ (filename, bytes) ∈ files ∨
      filename = torn ∧ ∃ whole, (filename, whole) ∈ files ∧ bytes <+: whole
  := by
  obtain ⟨n, rfl | ⟨last, k, hlast, rfl⟩⟩ := h
  · use ""
    intro filename bytes hlookup
    rcases mem_or_of_lookup_insertAll hlookup with hmem | ⟨-, hlookup⟩
    · exact Or.inr (Or.inl (List.mem_of_mem_take hmem))
    · exact Or.inl hlookup
  · use last.1
    intro filename bytes hlookup
    rcases mem_or_of_lookup_insertAll hlookup with hmem | ⟨-, hlookup⟩
    · rw [List.mem_append, List.mem_singleton] at hmem
      rcases hmem with hmem | heq
      · exact Or.inr (Or.inl (List.mem_of_mem_take hmem))
      · cases heq
        exact Or.inr (Or.inr ⟨rfl, last.2, List.mem_of_getElem? hlast, List.take_prefix _ _⟩)
    · exact Or.inl hlookup

namespace ContentStore

variable {sha3 : Bytes → Block 32} {json : JsonCodec SignerIdentity} {events : List StoreEvent}
  {a : Block 32} {b : CacheeArchiveBundle} {filename : String} {bytes : Bytes}

/-- The keys of a store that was created empty are addresses. -/
theorem allAddresses_performAll (sha3 : Bytes → Block 32) (json : JsonCodec SignerIdentity)
    (events : List StoreEvent) :
  AllAddresses ((openDb ∅).performAll sha3 json events).db
  := by
  induction events using List.reverseRecOn with
  | nil =>
    intro key hkey
    exact absurd hkey Std.ExtTreeMap.not_mem_empty
  | append_singleton es e ih =>
    rw [performAll, List.foldl_concat]
    apply allAddresses_perform sha3 json ih

/-- The exported files of a store that was created empty are those of the bundles that were written
last to their addresses. -/
theorem mem_exportAll_performAll_iff :
  (filename, bytes) ∈ ((openDb ∅).performAll sha3 json events).exportAll ↔
    ∃ a b, lastWritten sha3 events a = some b ∧ filename = fileName a.1 ∧
      bytes = b.serialize json
  := by
  have hheld : ∀ a : Block 32, ((openDb ∅).performAll sha3 json events).db[a.1]?
      = (lastWritten sha3 events a).map fun b => b.serialize json := by
    intro a
    have hnone : (openDb ∅).db[a.1]? = none := Std.ExtTreeMap.getElem?_empty
    rw [getElem?_performAll, hnone, Option.or_none]
  rw [exportAll, List.mem_map]
  constructor
  · rintro ⟨⟨key, value⟩, hmem, heq⟩
    obtain ⟨rfl, rfl⟩ := Prod.mk.inj heq
    rw [Std.ExtTreeMap.mem_toList_iff_getElem?_eq_some] at hmem
    have hkey : key.length = 32 := by
      apply allAddresses_performAll sha3 json events
      apply Std.ExtTreeMap.mem_iff_isSome_getElem?.mpr
      rw [hmem]
      rfl
    have hvalue := hheld ⟨key, hkey⟩
    rw [hmem] at hvalue
    obtain ⟨b, hlast, hb⟩ := Option.map_eq_some_iff.mp hvalue.symm
    exact ⟨⟨key, hkey⟩, b, hlast, rfl, hb.symm⟩
  · rintro ⟨a, b, hlast, rfl, rfl⟩
    use (a.1, b.serialize json)
    refine ⟨?_, rfl⟩
    rw [Std.ExtTreeMap.mem_toList_iff_getElem?_eq_some, hheld, hlast]
    rfl

/-- The exported files have different names. -/
theorem nodup_exportAll (store : ContentStore) :
  (store.exportAll.map Prod.fst).Nodup
  := by
  have hkeys : store.exportAll.map Prod.fst = store.db.keys.map fileName := by
    rw [exportAll, List.map_map, ← Std.ExtTreeMap.map_fst_toList_eq_keys, List.map_map]
    rfl
  rw [hkeys]
  apply store.db.nodup_keys.map fileName_injective

end ContentStore

/-! ### The command -/

variable {db : Database} {dest : String} {lines : List String}

/-- However the command ends, it has written the first of the files of the store; when it ends well,
it has written all of them, and it prints how many these are. -/
theorem exec_exportCommand (db : Database) (dest : String) (faults : ExportFaults)
    (dir : Directory) :
  ∃ written, (exportCommand (some (.ok db)) dest faults).exec dir = insertAll dir written ∧
    WrittenUpTo (ContentStore.openDb db).exportAll written ∧
    ∀ lines, (exportCommand (some (.ok db)) dest faults).outcome dir = .ok lines →
      db.size < 2 ^ 64 → written = (ContentStore.openDb db).exportAll ∧
        (db.size ≠ 0 → lines.head? = some s!"Exported {db.size} bundles to {dest}")
  := by
  have hlength : (ContentStore.openDb db).exportAll.length = db.size := by
    rw [ContentStore.exportAll, List.length_map]
    apply Std.ExtTreeMap.length_toList
  unfold exportCommand
  dsimp only
  split
  · rename_i hempty
    refine ⟨[], rfl, ⟨0, Or.inl rfl⟩, ?_⟩
    intro lines _ hsize
    have hzero : db.size = 0 := by
      rw [ContentStore.isEmpty, ContentStore.len, ContentStore.openDb, beq_iff_eq,
        ← UInt64.toNat_inj, UInt64.toNat_ofNat', Nat.mod_eq_of_lt hsize] at hempty
      exact hempty
    refine ⟨(List.eq_nil_of_length_eq_zero (hlength.trans hzero)).symm, ?_⟩
    intro hne
    exact absurd hzero hne
  · cases faults.createDir with
    | some e =>
      refine ⟨[], rfl, ⟨0, Or.inl rfl⟩, ?_⟩
      intro lines hlines
      cases hlines
    | none =>
      dsimp only
      obtain ⟨hexec, hvalue⟩ := Script.bind_pure
        ((ContentStore.openDb db).exportTo faults.createDirAgain faults.files)
        (exportLines (ContentStore.openDb db) dest) dir
      rw [hexec]
      cases hagain : faults.createDirAgain with
      | some e =>
        refine ⟨[], rfl, ⟨0, Or.inl rfl⟩, ?_⟩
        intro lines hlines
        cases hlines
      | none =>
        rw [hagain] at hvalue
        obtain ⟨written, hwritten, hfirst, hall⟩ :=
          exec_writeFiles faults.files 0 (ContentStore.openDb db).exportAll dir
        refine ⟨written, hwritten, hfirst, ?_⟩
        intro lines hlines _
        obtain ⟨count, hcount, rfl⟩ := hvalue lines hlines
        obtain ⟨hwhole, rfl⟩ := hall count hcount
        refine ⟨hwhole, ?_⟩
        intro _
        rw [Nat.zero_add, hlength]
        rfl

/-- A command that ends well has written all files of the store, and prints how many these are. -/
theorem exec_exportCommand_of_ok {faults : ExportFaults} {dir : Directory}
    (hsize : db.size < 2 ^ 64)
    (hok : (exportCommand (some (.ok db)) dest faults).outcome dir = .ok lines) :
  (exportCommand (some (.ok db)) dest faults).exec dir
      = insertAll dir (ContentStore.openDb db).exportAll ∧
    (db.size ≠ 0 → lines.head? = some s!"Exported {db.size} bundles to {dest}")
  := by
  obtain ⟨written, hexec, -, hall⟩ := exec_exportCommand db dest faults dir
  obtain ⟨rfl, hhead⟩ := hall lines hok hsize
  exact ⟨hexec, hhead⟩

theorem outcome_writeFiles (count : ℕ) (files : List (String × Bytes)) (dir : Directory) :
  (writeFiles (fun _ => none) count files).outcome dir = .ok (count + files.length)
  := by
  induction files generalizing count dir with
  | nil => rfl
  | cons file files ih =>
    have hok : (writeFile none file.1 file.2).outcome dir = .ok () := rfl
    obtain ⟨-, houtcome⟩ :=
      Script.bind_of_ok (f := fun _ => writeFiles (fun _ => none) (count + 1) files) hok
    rw [writeFiles, houtcome, ih, List.length_cons, Nat.add_right_comm, Nat.add_assoc]

/-- Where nothing goes wrong, the command ends well. -/
theorem exists_outcome_exportCommand (db : Database) (dest : String) (dir : Directory) :
  ∃ lines, (exportCommand (some (.ok db)) dest .absent).outcome dir = .ok lines
  := by
  unfold exportCommand
  dsimp only [ExportFaults.absent]
  split
  · exact ⟨_, rfl⟩
  · have hok : ((ContentStore.openDb db).exportTo none fun _ => none).outcome dir
        = .ok (0 + (ContentStore.openDb db).exportAll.length) := outcome_writeFiles _ _ _
    obtain ⟨-, houtcome⟩ := Script.bind_of_ok
      (f := fun count => pure (exportLines (ContentStore.openDb db) dest count)) hok
    exact ⟨_, houtcome⟩

/-! ### Verifying the export -/

variable {lib : PqLibrary} {pretty : Json → String} {fs : FileSystem} {name : String}
  {bytes : Bytes} {sha3 : Bytes → Block 32} {json : JsonCodec SignerIdentity}
  {events : List StoreEvent}

/-- A directory is at a path: its names are listed there in some order, and its files are read. -/
structure FileSystem.Holds (fs : FileSystem) (dest : String) (dir : Directory) : Prop where
  listed : ∃ names, fs.readDir dest = .ok names ∧ ∀ name, name ∈ names ↔ name ∈ dir.keys
  read : ∀ name bytes, dir.lookup name = some bytes → fs.read (joinPath dest name) = .ok bytes

/-- A file of the directory verifies when two signatures of the bundle in it are valid. -/
theorem FileSystem.Holds.verifies_iff (h : fs.Holds dest dir)
    (hlookup : dir.lookup name = some bytes) :
  fs.Verifies lib json (joinPath dest name) ↔ ReadBackTwoOfThree lib json bytes
  := by
  rw [FileSystem.Verifies, h.read name bytes hlookup]
  simp

theorem mem_keys_iff_lookup :
  name ∈ dir.keys ↔ ∃ bytes, dir.lookup name = some bytes
  := by
  rw [← AList.mem_keys, ← AList.lookup_isSome, Option.isSome_iff_exists]

/-- The directory verifies when all archives in it do. -/
theorem FileSystem.Holds.dirVerifies_iff (h : fs.Holds dest dir) :
  fs.DirVerifies lib json dest ↔
    ∀ name bytes, dir.lookup name = some bytes → isCab name → ReadBackTwoOfThree lib json bytes
  := by
  obtain ⟨names, hnames, hmem⟩ := h.listed
  simp only [FileSystem.DirVerifies, hnames, Except.ok.injEq, exists_eq_left', hmem,
    mem_keys_iff_lookup]
  constructor
  · intro hall name bytes hlookup hcab
    rw [← h.verifies_iff hlookup]
    apply hall name ⟨bytes, hlookup⟩ hcab
  · rintro hall name ⟨bytes, hlookup⟩ hcab
    rw [h.verifies_iff hlookup]
    apply hall name bytes hlookup hcab

/-- The bundles that are written can be read back: they have the right magic bytes, and their
sections fit. -/
def Legible (events : List StoreEvent) : Prop :=
  ∀ b ∈ events.filterMap StoreEvent.written, b.magic = cabMagic ∧ b.SectionsFit

theorem Legible.fits {a : Block 32} {b : CacheeArchiveBundle} (hlegible : Legible events)
    (hlast : lastWritten sha3 events a = some b) :
  b.magic = cabMagic ∧ b.SectionsFit
  := hlegible b (ContentStore.mem_of_lastWritten hlast).1

/-- The file of a bundle is an archive. -/
theorem isCab_fileName (a : Block 32) :
  isCab (ContentStore.fileName a.1)
  := by
  apply isCab_append
  intro h
  have hlen : (hexEncode a.1).toList.length = 0 := by
    apply congrArg (fun s : String => s.toList.length) h
  rw [hexEncode, String.toList_ofList, List.length_flatMap] at hlen
  simp [a.2] at hlen

/-- The line of the verifier about a bundle is decided by its signatures. -/
theorem entryLine_ofBundle_congr {b b' : CacheeArchiveBundle} {path : String}
    {magicOk magicOk' : Bool} (hmagic : b.magic = cabMagic) (hmagic' : b'.magic = cabMagic)
    (hmldsa : b.mldsaValid lib = b'.mldsaValid lib)
    (hfalcon : b.falconValid lib = b'.falconValid lib)
    (hslhdsa : b.slhdsaValid lib = b'.slhdsaValid lib) :
  entryLine (.ofBundle sha3 lib path magicOk b) = entryLine (.ofBundle sha3 lib path magicOk' b')
  := by
  have hcrypto : ∀ c : CacheeArchiveBundle, c.magic = cabMagic →
      (c.verify lib).cryptographic
        = ⟨c.mldsaValid lib, c.falconValid lib, c.slhdsaValid lib, c.twoOfThree lib,
          c.allThree lib, false⟩ := by
    intro c hc
    rw [CacheeArchiveBundle.verify, if_neg (not_not.mpr hc)]
  have htwo : b.twoOfThree lib = b'.twoOfThree lib := by
    rw [CacheeArchiveBundle.twoOfThree, hmldsa, hfalcon, hslhdsa]
    rfl
  rw [entryLine, entryLine, valid_ofBundle hmagic, valid_ofBundle hmagic']
  simp only [BundleVerification.ofBundle, hcrypto b hmagic, hcrypto b' hmagic', hmldsa, hfalcon,
    hslhdsa, htwo]

/-- The line of the verifier about the serialization of a bundle is the one about the bundle. -/
theorem entryLine_of_verifyFile_serialize {b : CacheeArchiveBundle} {path : String}
    {r : BundleVerification} (hmagic : b.magic = cabMagic) (hb : b.SectionsFit)
    (hr : verifyFile sha3 lib json path (.ok (b.serialize json)) = .ok r) :
  entryLine r = entryLine (.ofBundle sha3 lib path true b)
  := by
  obtain ⟨identity, hread⟩ := CacheeArchiveBundle.exists_deserialize_serialize_eq json hmagic hb
  simp only [verifyFile, hread, Except.ok.injEq] at hr
  obtain rfl := hr
  apply entryLine_ofBundle_congr
  · exact hmagic
  · exact hmagic
  · rfl
  · rfl
  · rfl

/-! ### A store with one bundle -/

/-- A directory as the only one in a file system. -/
def FileSystem.ofDirectory (dest : String) (dir : Directory) : FileSystem where
  read path :=
    match dir.entries.find? fun entry => joinPath dest entry.1 = path with
    | some entry => .ok entry.2
    | none => .error "No such file or directory (os error 2)"
  readDir path :=
    if path = dest then .ok dir.keys else .error "No such file or directory (os error 2)"

theorem joinPath_injective (dest : String) :
  Function.Injective (joinPath dest)
  := by
  intro name name' h
  unfold joinPath at h
  split at h
  · apply (String.append_right_inj dest).mp h
  · apply (String.append_right_inj (dest ++ "/")).mp h

theorem FileSystem.holds_ofDirectory (dest : String) (dir : Directory) :
  (ofDirectory dest dir).Holds dest dir
  := by
  constructor
  · exact ⟨dir.keys, if_pos rfl, fun name => Iff.rfl⟩
  · intro name bytes hlookup
    have hnodup : (dir.entries.map fun entry => joinPath dest entry.1).Nodup := by
      have hmap : (dir.entries.map fun entry => joinPath dest entry.1)
          = dir.keys.map (joinPath dest) := by
        rw [AList.keys, List.keys, List.map_map]
        rfl
      rw [hmap]
      apply dir.keys_nodup.map (joinPath_injective dest)
    have hfind := find?_eq_of_nodup hnodup (mem_entries_iff_lookup.mpr hlookup)
    simp only [ofDirectory, hfind]

/-- A blank bundle with two signatures. -/
def endorsedBundle : CacheeArchiveBundle :=
  { CacheeArchiveBundle.blank with
    signerKeys := ⟨[1], [2], []⟩
    signatures := ⟨1 :: List.replicate 32 0, 2 :: List.replicate 32 0, []⟩ }

theorem legible_endorsedBundle :
  Legible [.put none endorsedBundle]
  := by
  intro b hb
  obtain rfl := List.mem_singleton.mp hb
  refine ⟨rfl, ⟨by decide, by decide, by decide, by decide, by decide, by decide, by decide, ?_⟩⟩
  apply ComputationFingerprint.fits_empty

/-- The database of a store with the endorsed bundle. -/
def endorsedDb : Database :=
  ((ContentStore.openDb ∅).performAll primeHash SignerIdentity.defaultCodec
    [.put none endorsedBundle]).db

theorem size_endorsedDb :
  endorsedDb.size < 2 ^ 64
  := by
  have hle : endorsedDb.size ≤ (∅ : Database).size + 1 := Std.ExtTreeMap.size_insert_le
  rw [Std.ExtTreeMap.size_empty] at hle
  omega

namespace ContentStore

section Created

variable {db : Database} {a : Block 32} {b : CacheeArchiveBundle}
  (hdb : db = ((openDb ∅).performAll sha3 json events).db)

include hdb

/-- The files of a store that was created empty are those of the bundles that were stored last. -/
theorem mem_exportAll_created_iff :
  (name, bytes) ∈ (openDb db).exportAll ↔
    ∃ a b, lastWritten sha3 events a = some b ∧ name = fileName a.1 ∧ bytes = b.serialize json
  := by
  rw [hdb]
  apply mem_exportAll_performAll_iff

/-- The file of a bundle is found where all files have been written. -/
theorem lookup_insertAll_exportAll (dir : Directory) (hlast : lastWritten sha3 events a = some b) :
  (insertAll dir (openDb db).exportAll).lookup (fileName a.1) = some (b.serialize json)
  := by
  have hentry : (fileName a.1, b.serialize json) ∈ (openDb db).exportAll :=
    (mem_exportAll_created_iff hdb).mpr ⟨a, b, hlast, rfl, rfl⟩
  apply lookup_insertAll_of_mem (nodup_exportAll _) hentry

/-- Where all files have been written, the archives can be read back with two valid signatures when
the bundles have these, and the archives that are not written over can be read back so. -/
theorem readBackTwoOfThree_insertAll_iff (hlegible : Legible events) :
  (∀ name bytes, (insertAll dir (openDb db).exportAll).lookup name = some bytes → isCab name →
      ReadBackTwoOfThree lib json bytes) ↔
    (∀ a b, lastWritten sha3 events a = some b → b.twoOfThree lib) ∧
    ∀ name bytes, dir.lookup name = some bytes → isCab name →
      (∀ a, lastWritten sha3 events a ≠ none → name ≠ fileName a.1) →
      ReadBackTwoOfThree lib json bytes
  := by
  constructor
  · intro hall
    constructor
    · intro a b hlast
      obtain ⟨hmagic, hfits⟩ := hlegible.fits hlast
      apply (readBackTwoOfThree_serialize hmagic hfits).mp
      apply hall _ _ (lookup_insertAll_exportAll hdb dir hlast) (isCab_fileName a)
    · intro name bytes hlookup hcab hother
      apply hall name bytes _ hcab
      rw [lookup_insertAll_of_not_mem, hlookup]
      intro hname
      obtain ⟨⟨_, value⟩, hentry, rfl⟩ := List.mem_map.mp hname
      obtain ⟨a, b, hlast, hname, -⟩ := (mem_exportAll_created_iff hdb).mp hentry
      apply hother a _ hname
      rw [hlast]
      exact Option.some_ne_none b
  · rintro ⟨hsigned, hothers⟩ name bytes hlookup hcab
    rcases mem_or_of_lookup_insertAll hlookup with hentry | ⟨hname, hlookup⟩
    · obtain ⟨a, b, hlast, -, rfl⟩ := (mem_exportAll_created_iff hdb).mp hentry
      obtain ⟨hmagic, hfits⟩ := hlegible.fits hlast
      rw [readBackTwoOfThree_serialize hmagic hfits]
      apply hsigned a b hlast
    · apply hothers name bytes hlookup hcab
      rintro a hlast rfl
      obtain ⟨b, hlast⟩ := Option.ne_none_iff_exists'.mp hlast
      apply hname
      apply List.mem_map.mpr ⟨_, (mem_exportAll_created_iff hdb).mpr ⟨a, b, hlast, rfl, rfl⟩, rfl⟩

/-- Where all files have been written, the verifier prints the line of each bundle. -/
theorem entryLine_mem_output (hlegible : Legible events) (lib : PqLibrary) (pretty : Json → String)
    (hfs : fs.Holds dest (insertAll dir (openDb db).exportAll))
    (hlast : lastWritten sha3 events a = some b) :
  entryLine (.ofBundle sha3 lib (joinPath dest (fileName a.1)) true b)
    ∈ (verifyDirectory sha3 lib json pretty fs false dest).output.2
  := by
  obtain ⟨hmagic, hfits⟩ := hlegible.fits hlast
  have hlookup := lookup_insertAll_exportAll hdb dir hlast
  obtain ⟨names, hnames, hlisted⟩ := hfs.listed
  obtain ⟨results, hresults⟩ := exists_reports sha3 lib json fs dest names
  have hname : fileName a.1 ∈ names := by
    rw [hlisted, mem_keys_iff_lookup]
    exact ⟨_, hlookup⟩
  obtain ⟨r, hr, hreport⟩ := exists_report hresults hname (isCab_fileName a)
  rw [hfs.read _ _ hlookup] at hreport
  rw [output_verifyDirectory hnames hresults,
    ← entryLine_of_verifyFile_serialize hmagic hfits hreport]
  apply List.mem_append_left
  apply List.mem_map.mpr ⟨r, hr, rfl⟩

end Created

/-- A store that was created empty is exported with success into a directory, and the directory is
verified, whatever else is in it.  The export prints the number of its bundles; the verifier exits
with 0 when the bundles that were stored last under their addresses have two valid signatures, and
the archives that are there besides them verify; and it prints the line of each of these bundles,
under the name of its address. -/
theorem verify_exportCommand {db : Database} {faults : ExportFaults}
    (hdb : db = ((openDb ∅).performAll sha3 json events).db) (hlegible : Legible events)
    (hsize : db.size < 2 ^ 64)
    (hok : (exportCommand (some (.ok db)) dest faults).outcome dir = .ok lines)
    (hfs : fs.Holds dest ((exportCommand (some (.ok db)) dest faults).exec dir)) :
  (db.size ≠ 0 → lines.head? = some s!"Exported {db.size} bundles to {dest}") ∧
  (∀ jsonMode,
    (verifyDirectory sha3 lib json pretty fs jsonMode dest).output.1 = .ok 0 ↔
      (∀ a b, lastWritten sha3 events a = some b → b.twoOfThree lib) ∧
      ∀ name bytes, dir.lookup name = some bytes → isCab name →
        (∀ a, lastWritten sha3 events a ≠ none → name ≠ fileName a.1) →
        ReadBackTwoOfThree lib json bytes) ∧
  ∀ a b, lastWritten sha3 events a = some b →
    entryLine (.ofBundle sha3 lib (joinPath dest (fileName a.1)) true b)
      ∈ (verifyDirectory sha3 lib json pretty fs false dest).output.2
  := by
  obtain ⟨hexec, hhead⟩ := exec_exportCommand_of_ok hsize hok
  rw [hexec] at hfs
  refine ⟨hhead, ?_, ?_⟩
  · intro jsonMode
    rw [verifyDirectory_eq_zero_iff, hfs.dirVerifies_iff]
    apply readBackTwoOfThree_insertAll_iff hdb hlegible
  · intro a b hlast
    apply entryLine_mem_output hdb hlegible lib pretty hfs hlast

/-- The export of the endorsed bundle verifies. -/
theorem verify_exportCommand_endorsed :
  (verifyDirectory primeHash prefixLibrary SignerIdentity.defaultCodec (fun _ => "")
    (.ofDirectory "out" ((exportCommand (some (.ok endorsedDb)) "out" .absent).exec ∅)) true
    "out").output.1 = .ok 0
  := by
  obtain ⟨lines, hok⟩ := exists_outcome_exportCommand endorsedDb "out" ∅
  apply ((verify_exportCommand rfl legible_endorsedBundle size_endorsedDb hok
    (FileSystem.holds_ofDirectory _ _)).2.1 true).mpr
  constructor
  · intro a b hlast
    obtain rfl := List.mem_singleton.mp (mem_of_lastWritten hlast).1
    decide
  · intro name bytes hlookup
    rw [AList.lookup_empty] at hlookup
    cases hlookup

/-- Of what is written of a bundle, a first part that is read back with two valid signatures has all
sections up to the fingerprint. -/
theorem readBackTwoOfThree_prefix_iff {b : CacheeArchiveBundle} (hmagic : b.magic = cabMagic)
    (hb : b.SectionsFit) (hp : bytes <+: b.serialize json) :
  ReadBackTwoOfThree lib json bytes ↔ b.sections <+: bytes ∧ b.twoOfThree lib
  := by
  constructor
  · rintro ⟨b', hread, htwo⟩
    have hsections := CacheeArchiveBundle.sections_prefix_of_accepted hb hmagic hp hread
    refine ⟨hsections, ?_⟩
    obtain ⟨tail, rfl⟩ := hsections
    rw [CacheeArchiveBundle.deserialize_sections_append json hmagic hb] at hread
    obtain rfl := Except.ok.inj hread
    exact htwo
  · rintro ⟨⟨tail, rfl⟩, htwo⟩
    exact ⟨_, CacheeArchiveBundle.deserialize_sections_append json hmagic hb tail, htwo⟩

/-- A store that was created empty is exported into a directory, and the export may stop anywhere.
All files of the directory but one are as before, or hold the bundles that were stored last under
their addresses.  A file that the verifier reports as valid was there before, or holds at least all
sections up to the fingerprint of such a bundle, which has two valid signatures.  When the export is
repeated with success, the directory is as if it had not stopped. -/
theorem interrupted_exportCommand (lib : PqLibrary) {db : Database} {faults : ExportFaults}
    (hdb : db = ((openDb ∅).performAll sha3 json events).db) (hlegible : Legible events)
    (hsize : db.size < 2 ^ 64)
    (hfs : fs.Holds dest ((exportCommand (some (.ok db)) dest faults).exec dir)) :
  (∃ torn, ∀ name bytes, name ≠ torn →
    ((exportCommand (some (.ok db)) dest faults).exec dir).lookup name = some bytes →
    dir.lookup name = some bytes ∨
      ∃ a b, lastWritten sha3 events a = some b ∧ name = fileName a.1 ∧
        bytes = b.serialize json) ∧
  (∀ name bytes,
    ((exportCommand (some (.ok db)) dest faults).exec dir).lookup name = some bytes →
    fs.Verifies lib json (joinPath dest name) →
    dir.lookup name = some bytes ∨
      ∃ a b, lastWritten sha3 events a = some b ∧ name = fileName a.1 ∧ b.twoOfThree lib ∧
        b.sections <+: bytes ∧ bytes <+: b.serialize json) ∧
  ∀ faults' lines,
    (exportCommand (some (.ok db)) dest faults').outcome
      ((exportCommand (some (.ok db)) dest faults).exec dir) = .ok lines →
    ∀ name,
      ((exportCommand (some (.ok db)) dest faults').exec
        ((exportCommand (some (.ok db)) dest faults).exec dir)).lookup name
      = ((exportCommand (some (.ok db)) dest .absent).exec dir).lookup name
  := by
  obtain ⟨written, hexec, hfirst, -⟩ := exec_exportCommand db dest faults dir
  rw [hexec] at hfs ⊢
  obtain ⟨torn, htorn⟩ := exists_torn_of_writtenUpTo dir hfirst
  refine ⟨⟨torn, ?_⟩, ?_, ?_⟩
  · intro name bytes hne hlookup
    rcases htorn name bytes hlookup with hold | hnew | ⟨heq, -⟩
    · exact Or.inl hold
    · exact Or.inr ((mem_exportAll_created_iff hdb).mp hnew)
    · exact absurd heq hne
  · intro name bytes hlookup hverifies
    rw [hfs.verifies_iff hlookup] at hverifies
    have hpart : dir.lookup name = some bytes ∨
        ∃ whole, (name, whole) ∈ (openDb db).exportAll ∧ bytes <+: whole := by
      rcases htorn name bytes hlookup with hold | hnew | ⟨-, hpart⟩
      · exact Or.inl hold
      · exact Or.inr ⟨bytes, hnew, List.prefix_rfl⟩
      · exact Or.inr hpart
    rcases hpart with hold | ⟨whole, hentry, hprefix⟩
    · exact Or.inl hold
    · obtain ⟨a, b, hlast, rfl, rfl⟩ := (mem_exportAll_created_iff hdb).mp hentry
      obtain ⟨hmagic, hfits⟩ := hlegible.fits hlast
      obtain ⟨hsections, htwo⟩ := (readBackTwoOfThree_prefix_iff hmagic hfits hprefix).mp hverifies
      exact Or.inr ⟨a, b, hlast, rfl, htwo, hsections, hprefix⟩
  · intro faults' lines hok name
    obtain ⟨lines', hok'⟩ := exists_outcome_exportCommand db dest dir
    rw [(exec_exportCommand_of_ok hsize hok).1, (exec_exportCommand_of_ok hsize hok').1]
    apply lookup_insertAll_congr
    intro name hname
    apply lookup_insertAll_of_not_mem
    intro hmem
    exact hname (hfirst.names_subset hmem)

/-- An export of the endorsed bundle that stops after ten bytes, and is repeated. -/
theorem interrupted_exportCommand_endorsed :
  ((exportCommand (some (.ok endorsedDb)) "out" .absent).exec
      ((exportCommand (some (.ok endorsedDb)) "out"
        { ExportFaults.absent with files := fun _ => some (.write 10 "disk full") }).exec ∅)).lookup
      (fileName (endorsedBundle.contentAddress primeHash).1)
    = ((exportCommand (some (.ok endorsedDb)) "out" .absent).exec ∅).lookup
      (fileName (endorsedBundle.contentAddress primeHash).1)
  := by
  obtain ⟨lines, hok⟩ := exists_outcome_exportCommand endorsedDb "out"
    ((exportCommand (some (.ok endorsedDb)) "out"
      { ExportFaults.absent with files := fun _ => some (.write 10 "disk full") }).exec ∅)
  apply (interrupted_exportCommand prefixLibrary rfl legible_endorsedBundle size_endorsedDb
    (FileSystem.holds_ofDirectory "out" _)).2.2 .absent lines hok

end ContentStore

end Cachee
