import Cachee.Home.KeyFiles

/-!
# What becomes of the identity

Every `rotate-keys` archives the identity under its identifier and writes a new one that names it.
So if no identifier is drawn twice, all identities since the last `init` can be followed back
through the archives, whatever other commands were run in between.
-/

open Text

namespace Cachee

/-- An identity: when it was made, the identity that it was rotated from, and its random bytes. -/
structure Identity where
  now : UInt64
  rotatedFrom : Option (Block 16)
  idBytes : Block 16

/-- The last line of the file of an identity. -/
def algorithmsLine : String := "algorithms = [\"ML-DSA-65\", \"FALCON-512\", \"SLH-DSA\"]"

theorem Cli.identityText_eq (comments keyId : String) :
  identityText comments keyId = "# Cachee PQ Identity\n# Generated: " ++ comments ++ "\nkey_id = \""
    ++ keyId ++ "\"\n" ++ "algorithms = [\"ML-DSA-65\", \"FALCON-512\", \"SLH-DSA\"]\n"
  := rfl

/-- The text of an identity has four lines, or more if there are newlines in the comments. -/
theorem Cli.toList_identityText (comments keyId : String) :
  (identityText comments keyId).toList =
    "# Cachee PQ Identity".toList ++ '\n' :: ("# Generated: ".toList ++ comments.toList ++ '\n' ::
      (fieldLine "key_id" keyId ++ '\n' :: (algorithmsLine.toList ++ ['\n'])))
  := by
  rw [identityText_eq]
  simp only [String.toList_append, fieldLine, algorithmsLine]
  simp

namespace Identity

/-- The identifier. -/
def keyId (identity : Identity) : String := hexEncode identity.idBytes.1

/-- What stands behind `Generated` in the file of an identity that was rotated from another one. -/
def rotatedComments (now : UInt64) (oldKeyId : String) : String :=
  s!"{now}\n# Rotated from: {oldKeyId}"

/-- What stands behind `Generated` in the file of the identity. -/
def comments (identity : Identity) : String :=
  match identity.rotatedFrom with
  | some old => rotatedComments identity.now (hexEncode old.1)
  | none => toString identity.now

/-- The file of the identity. -/
def text (identity : Identity) : String := Cli.identityText identity.comments identity.keyId

/-- The name of the file in which the identity is archived. -/
def archiveName (identity : Identity) : String := s!"identity-{identity.keyId}.toml.bak"

/-- The identity that is rotated from another one. -/
def next (identity : Identity) (now : UInt64) (idBytes : Block 16) : Identity :=
  ⟨now, some identity.idBytes, idBytes⟩

/-- The identities that are rotated from one another, the first one included. -/
def successors (identity : Identity) : List (UInt64 × Block 16) → List Identity
  | [] => [identity]
  | (now, idBytes) :: rotations => identity :: (identity.next now idBytes).successors rotations

/-- The lines of the comments of an identity. -/
def commentLines (identity : Identity) : List (List Char) :=
  ("# Generated: ".toList ++ (toString identity.now).toList) ::
    match identity.rotatedFrom with
    | some old => ["# Rotated from: ".toList ++ (hexEncode old.1).toList]
    | none => []

theorem toList_text (identity : Identity) :
  identity.text.toList = ("# Cachee PQ Identity".toList :: (identity.commentLines
    ++ [fieldLine "key_id" identity.keyId, algorithmsLine.toList])).flatMap fun line => line ++ ['\n']
  := by
  rw [text, Cli.toList_identityText, comments, commentLines]
  cases identity.rotatedFrom with
  | none => simp
  | some old =>
    have hcomments : rotatedComments identity.now (hexEncode old.1)
        = toString identity.now ++ "\n# Rotated from: " ++ hexEncode old.1 := rfl
    simp only [hcomments, String.toList_append]
    simp

/-- There are no newlines and no carriage returns in the lines of the comments. -/
theorem not_mem_commentLines (identity : Identity) :
  ∀ line ∈ identity.commentLines, '\n' ∉ line ∧ '\r' ∉ line
  := by
  have hgenerated : ∀ c : Char, c ∉ "# Generated: ".toList → c.isDigit = false →
      c ∉ "# Generated: ".toList ++ (toString identity.now).toList := by
    intro c hprefix hdigit hc
    rcases List.mem_append.mp hc with h | h
    · apply hprefix h
    · apply not_mem_toString hdigit identity.now.toNat h
  have hrotated : ∀ (old : Block 16) (c : Char), c ∉ "# Rotated from: ".toList →
      (∀ n < 16, hexDigit n ≠ c) → c ∉ "# Rotated from: ".toList ++ (hexEncode old.1).toList := by
    intro old c hprefix hdigit hc
    rcases List.mem_append.mp hc with h | h
    · apply hprefix h
    · apply not_mem_hexEncode hdigit old.1 h
  rw [commentLines, List.forall_mem_cons]
  constructor
  · exact ⟨hgenerated _ (by decide) (by decide), hgenerated _ (by decide) (by decide)⟩
  · cases identity.rotatedFrom with
    | none => exact nofun
    | some old =>
      rw [List.forall_mem_singleton]
      exact ⟨hrotated old _ (by decide) (by decide), hrotated old _ (by decide) (by decide)⟩

theorem lines_text (identity : Identity) :
  lines identity.text.toList = "# Cachee PQ Identity".toList :: (identity.commentLines
    ++ [fieldLine "key_id" identity.keyId, algorithmsLine.toList])
  := by
  rw [toList_text]
  apply lines_flatMap_newline
  have hhead : '\n' ∉ "# Cachee PQ Identity".toList ∧ '\r' ∉ "# Cachee PQ Identity".toList := by
    decide
  have hlast : '\n' ∉ algorithmsLine.toList ∧ '\r' ∉ algorithmsLine.toList := by
    decide
  rw [List.forall_mem_cons, List.forall_mem_append, List.forall_mem_cons, List.forall_mem_singleton]
  refine ⟨⟨hhead.1, stripCr_of_not_mem hhead.2⟩, ?_, ?_, hlast.1, stripCr_of_not_mem hlast.2⟩
  · intro line hline
    obtain ⟨hnewline, hreturn⟩ := identity.not_mem_commentLines line hline
    exact ⟨hnewline, stripCr_of_not_mem hreturn⟩
  · apply line_fieldLine (by decide) (unquoted_hexEncode _)

/-- The identifier is read from the file of an identity. -/
theorem extractField_text (identity : Identity) :
  Cli.extractField identity.text "key_id" = identity.keyId
  := by
  have hcomments : identity.commentLines.find? "key_id".toList.isPrefixOf = none := by
    rw [commentLines]
    cases identity.rotatedFrom with
    | none => rfl
    | some old => rfl
  have hbefore : '"' ∉ "key_id".toList ++ " = ".toList := by decide
  have hkeyId : '"' ∉ identity.keyId.toList := (unquoted_hexEncode identity.idBytes.1).1
  rw [Cli.extractField, fieldPart, lines_text, List.find?_cons_of_neg (by decide), List.find?_append,
    hcomments, Option.none_or, List.find?_cons_of_pos rfl, Option.bind_some, fieldLine,
    splitOn_between hbefore hkeyId, Option.map_some, Option.getD_some, String.ofList_toList]

theorem archiveName_eq (identity : Identity) :
  identity.archiveName = "identity-" ++ identity.keyId ++ ".toml.bak"
  := rfl

/-- Different identities have different archives. -/
theorem idBytes_eq_of_archiveName {identity identity' : Identity}
    (h : identity.archiveName = identity'.archiveName) :
  identity.idBytes = identity'.idBytes
  := by
  have hkeyId : identity.keyId = identity'.keyId := by
    rw [archiveName_eq, archiveName_eq] at h
    have hlist := congrArg String.toList h
    simp only [String.toList_append, List.append_cancel_left_eq, List.append_cancel_right_eq] at hlist
    apply String.toList_inj.mp hlist
  have hbytes := congrArg hexDecode hkeyId
  rw [keyId, keyId, hexDecode_hexEncode, hexDecode_hexEncode] at hbytes
  apply Subtype.ext (Option.some.inj hbytes)

theorem archiveName_ne (identity : Identity) :
  identity.archiveName ≠ "identity.toml"
  := by
  intro h
  have hchar := congrArg (fun name => name.toList[8]?) h
  rw [archiveName_eq] at hchar
  simp [String.toList_append] at hchar

end Identity

/-! ### Rotations -/

/-- The time and the random bytes of a `rotate-keys`. -/
def CommandLine.rotation : CommandLine → Option (UInt64 × Block 16)
  | .rotateKeys now idBytes => some (now, idBytes)
  | _ => none

/-- The identity is in its file, and the past ones are archived. -/
structure Home.Identified (past : List Identity) (current : Identity) (home : Home) : Prop where
  current : home.keys.lookup "identity.toml" = some (asBytes current.text)
  past : ∀ identity ∈ past, home.keys.lookup identity.archiveName = some (asBytes identity.text)

variable {ext : CliExternals} {past : List Identity} {current : Identity} {home : Home}

/-- A rotation archives the identity, and writes the next one. -/
theorem Home.Identified.after_rotateKeys (h : home.Identified past current) (now : UInt64)
    (idBytes : Block 16) (hnew : ∀ identity ∈ past, identity.idBytes ≠ current.idBytes) :
  (home.after ext (.rotateKeys now idBytes)).Identified (past ++ [current])
    (current.next now idBytes)
  := by
  have hexec : home.after ext (.rotateKeys now idBytes)
      = (home.writeKey current.archiveName (asBytes current.text)).writeKey "identity.toml"
        (asBytes (current.next now idBytes).text) := by
    have hget : (get : Command Home).outcome home = .ok home ∧
        (get : Command Home).exec home = home := ⟨rfl, rfl⟩
    have hcontent : (Script.lift (fromUtf8 (asBytes current.text)) : Command String).outcome home
          = .ok current.text ∧
        (Script.lift (fromUtf8 (asBytes current.text)) : Command String).exec home = home := by
      rw [fromUtf8_asBytes]
      exact ⟨rfl, rfl⟩
    rw [Home.after, CommandLine.command, Cli.rotateKeys, (Script.bind_of_ok hget.1).1, hget.2,
      h.current]
    dsimp only
    rw [(Script.bind_of_ok hcontent.1).1, hcontent.2, current.extractField_text]
    rfl
  rw [hexec]
  constructor
  · apply AList.lookup_insert
  · intro identity hidentity
    rw [Home.writeKey, AList.lookup_insert_ne identity.archiveName_ne, Home.writeKey]
    rcases List.mem_append.mp hidentity with hpast | hcurrent
    · rw [AList.lookup_insert_ne]
      · apply h.past identity hpast
      · intro hname
        apply hnew identity hpast (Identity.idBytes_eq_of_archiveName hname)
    · obtain rfl := List.mem_singleton.mp hcurrent
      apply AList.lookup_insert

/-- A command that is no rotation and no `init` does not touch the identity and its archives. -/
theorem not_touches_of_rotation_eq_none {line : CommandLine} (hrotation : line.rotation = none)
    (hline : ¬ line.IsInit) :
  ¬ line.Touches "identity.toml" ∧ ∀ identity : Identity, ¬ line.Touches identity.archiveName
  := by
  have hkey : ∀ keyId : String, (s!"apikey-{keyId}.toml").toList.head? = some 'a' := by
    intro keyId
    simp [toString]
  have hidentity : "identity.toml".toList.head? = some 'i' := rfl
  have harchive : ∀ identity : Identity, identity.archiveName.toList.head? = some 'i' := by
    intro identity
    rw [Identity.archiveName_eq]
    simp [String.toList_append]
  have hne : ∀ (name : String) (keyId : String), name.toList.head? = some 'i' →
      name ≠ s!"apikey-{keyId}.toml" := by
    rintro name keyId hname rfl
    rw [hkey] at hname
    cases hname
  cases line with
  | init port maxKeys ttl issuerId now nowNs idBytes pairs => exact absurd trivial hline
  | authCreate now idBytes secretBytes label permissions =>
    exact ⟨hne _ _ hidentity, fun identity => hne _ _ (harchive identity)⟩
  | authRevoke keyId => exact ⟨hne _ _ hidentity, fun identity => hne _ _ (harchive identity)⟩
  | rotateKeys now idBytes => cases hrotation
  | _ => exact ⟨id, fun _ => id⟩

/-- After commands that are no `init`, the identity is the last of the successors, and those before
it are archived, if no identifier is drawn twice. -/
theorem Home.Identified.foldl (ext : CliExternals) (h : home.Identified past current)
    {lines : List CommandLine} (hlines : ∀ line ∈ lines, ¬ line.IsInit)
    (hnodup : ((past ++ current.successors (lines.filterMap CommandLine.rotation)).map
      Identity.idBytes).Nodup) :
  ∃ past' current', past ++ current.successors (lines.filterMap CommandLine.rotation)
      = past' ++ [current'] ∧
    (lines.foldl (Home.after ext) home).Identified past' current'
  := by
  induction lines generalizing home past current with
  | nil => exact ⟨past, current, rfl, h⟩
  | cons line lines ih =>
    have hrest : ∀ line ∈ lines, ¬ line.IsInit :=
      fun line' hline' => hlines line' (List.mem_cons_of_mem _ hline')
    rw [List.foldl_cons]
    cases hrotation : line.rotation with
    | none =>
      rw [List.filterMap_cons_none hrotation] at hnodup ⊢
      obtain ⟨hidentity, harchive⟩ := not_touches_of_rotation_eq_none hrotation
        (hlines line List.mem_cons_self)
      apply ih _ hrest hnodup
      constructor
      · rw [Home.lookup_after ext home hidentity, h.current]
      · intro identity hmem
        rw [Home.lookup_after ext home (harchive identity), h.past identity hmem]
    | some rotation =>
      obtain ⟨now, idBytes⟩ := rotation
      rw [List.filterMap_cons_some hrotation, Identity.successors] at hnodup ⊢
      cases line with
      | rotateKeys now' idBytes' =>
        obtain ⟨rfl, rfl⟩ := Prod.mk.inj (Option.some.inj hrotation)
        have hnew : ∀ identity ∈ past, identity.idBytes ≠ current.idBytes := by
          intro identity hidentity
          rw [List.map_append, List.map_cons, List.nodup_append] at hnodup
          apply hnodup.2.2 _ (List.mem_map_of_mem hidentity) _ List.mem_cons_self
        rw [← List.singleton_append, ← List.append_assoc] at hnodup ⊢
        apply ih (h.after_rotateKeys now' idBytes' hnew) hrest hnodup
      | _ => cases hrotation

end Cachee
