import Cachee.Slot.CacheSlot
import Mathlib.Logic.Function.Basic

/-!
# Artifacts

What the daemon is for, when its commands are performed one after another: it keeps an artifact
for each key, which is what was last set, with a state.  A `SET` makes a new artifact, a `DEL`
removes it, and `INVALIDATE` and `SUPERSEDE` retire an active one.
-/

open Text

namespace Cachee

/-- A value with its fingerprint, in a state. -/
structure Artifact where
  value : String
  fingerprint : ComputationFingerprint
  state : EntryState
  deriving DecidableEq

namespace Artifact

/-- The content address. -/
def contentAddress (sha3 : Bytes → Block 32) (a : Artifact) : Block 32 :=
  CacheSlot.computeContentAddress sha3 (asBytes a.value) a.fingerprint

/-- Change the state of an active artifact.  The others keep theirs. -/
def retire (state : EntryState) (a : Artifact) : Artifact :=
  if a.state = .active then { a with state } else a

/-- A change of state keeps the value. -/
theorem value_retire (state : EntryState) (a : Artifact) :
  (a.retire state).value = a.value
  := by
  unfold retire
  split
  · rfl
  · rfl

/-- What was set: the value and the fingerprint. -/
def write (a : Artifact) : String × ComputationFingerprint := (a.value, a.fingerprint)

/-- A change of state keeps what was set. -/
theorem write_retire (state : EntryState) (a : Artifact) :
  (a.retire state).write = a.write
  := by
  unfold retire
  split
  · rfl
  · rfl

end Artifact

/-- The artifact of each key that has one. -/
abbrev ArtifactMap : Type := String → Option Artifact

/-! ### Requests -/

/-- What a line asks for. -/
inductive Request where
  | set (key value : String) (fingerprint : ComputationFingerprint)
  | get (key : String)
  | getVerified (key : String)
  | del (key : String)
  | invalidate (key reason : String)
  | supersede (oldKey newKey : String)
  | state (key : String)
  | other
  deriving DecidableEq

namespace Request

/-- The word announces a fingerprint. -/
def announcesFp (word : String) : Bool := eqIgnoreAsciiCase word "FP"

/-- The words before the one that announces a fingerprint, with single spaces between them. -/
def valueOf (args : List String) : String :=
  " ".intercalate (args.takeWhile fun word => !announcesFp word)

/-- The fingerprint in the word after the one that announces it. -/
def fingerprintOf (args : List String) : ComputationFingerprint :=
  match args.dropWhile fun word => !announcesFp word with
  | _ :: hexStr :: _ => parseFingerprint hexStr
  | _ => .empty

/-- What the words of a line ask for. -/
def ofWords : List String → Request
  | [] => .other
  | command :: args =>
    match toUppercase command, args with
    | "SET", key :: word :: args => .set key (valueOf (word :: args)) (fingerprintOf (word :: args))
    | "GET", key :: _ => .get key
    | "GETVERIFIED", key :: _ => .getVerified key
    | "DEL", key :: _ => .del key
    | "INVALIDATE", key :: _ :: word :: args => .invalidate key (" ".intercalate (word :: args))
    | "SUPERSEDE", oldKey :: newKey :: _ => .supersede oldKey newKey
    | "STATE", key :: _ => .state key
    | _, _ => .other

/-- The key whose artifact the request may change. -/
def key? : Request → Option String
  | set key _ _ => some key
  | del key => some key
  | invalidate key _ => some key
  | supersede oldKey _ => some oldKey
  | _ => none

/-- The request changes at most the state of an artifact. -/
def changesState : Request → Bool
  | invalidate _ _ => true
  | supersede _ _ => true
  | _ => false

/-- The artifacts after a request at the time `now`. -/
def apply (sha3 : Bytes → Block 32) (now : UInt64) (m : ArtifactMap) : Request → ArtifactMap
  | set key value fingerprint => Function.update m key (some ⟨value, fingerprint, .active⟩)
  | del key => Function.update m key none
  | invalidate key reason =>
    Function.update m key ((m key).map (Artifact.retire (.revoked reason now none)))
  | supersede oldKey newKey =>
    match m newKey with
    | some successor =>
      Function.update m oldKey
        ((m oldKey).map (Artifact.retire (.superseded (successor.contentAddress sha3))))
    | none => m
  | _ => m

/-- The value and the fingerprint that the request sets for the key. -/
def written? (key : String) : Request → Option (String × ComputationFingerprint)
  | set key' value fingerprint => if key' = key then some (value, fingerprint) else none
  | _ => none

/-! ### Words of requests -/

section Words

variable {command key oldKey newKey word word' : String} {args : List String}

theorem ofWords_set (h : toUppercase command = "SET") :
  ofWords (command :: key :: word :: args)
    = .set key (valueOf (word :: args)) (fingerprintOf (word :: args))
  := by
  unfold ofWords
  dsimp only
  rw [h]
  rfl

theorem ofWords_del (h : toUppercase command = "DEL") :
  ofWords (command :: key :: args) = .del key
  := by
  unfold ofWords
  dsimp only
  rw [h]
  rfl

theorem ofWords_invalidate (h : toUppercase command = "INVALIDATE") :
  ofWords (command :: key :: word :: word' :: args)
    = .invalidate key (" ".intercalate (word' :: args))
  := by
  unfold ofWords
  dsimp only
  rw [h]
  rfl

theorem ofWords_supersede (h : toUppercase command = "SUPERSEDE") :
  ofWords (command :: oldKey :: newKey :: args) = .supersede oldKey newKey
  := by
  unfold ofWords
  dsimp only
  rw [h]
  rfl

end Words

end Request

/-! ### The last value that was set -/

/-- The value and the fingerprint of the last `SET` of a key since its last `DEL`. -/
def lastSet (key : String) (requests : List (UInt64 × Request)) :
    Option (String × ComputationFingerprint) :=
  (requests.reverse.takeWhile fun r => r.2 ≠ .del key).findSome? fun r => r.2.written? key

namespace ArtifactMap

/-- The artifacts after some requests, each at its time, when there was none before. -/
def after (sha3 : Bytes → Block 32) (requests : List (UInt64 × Request)) : ArtifactMap :=
  requests.foldl (fun m r => r.2.apply sha3 r.1 m) fun _ => none

variable {sha3 : Bytes → Block 32} {m : ArtifactMap} {key : String} {request : Request}

/-- What was last set, after one more request. -/
theorem lastSet_concat (requests : List (UInt64 × Request)) (now : UInt64) :
  lastSet key (requests ++ [(now, request)])
    = if request = .del key then none else (request.written? key).or (lastSet key requests)
  := by
  rw [lastSet, List.reverse_append, List.reverse_singleton, List.singleton_append,
    List.takeWhile_cons]
  by_cases hdel : request = .del key
  · simp [hdel]
  · rw [if_pos (by simpa using hdel), if_neg hdel, List.findSome?_cons]
    cases request.written? key with
    | none => rfl
    | some write => rfl

/-- A request changes the artifact of its key only. -/
theorem apply_of_ne (now : UInt64) (hkey : request.key? ≠ some key) :
  request.apply sha3 now m key = m key
  := by
  cases request with
  | set key' value fingerprint =>
    apply Function.update_of_ne
    rintro rfl
    exact hkey rfl
  | del key' =>
    apply Function.update_of_ne
    rintro rfl
    exact hkey rfl
  | invalidate key' reason =>
    apply Function.update_of_ne
    rintro rfl
    exact hkey rfl
  | supersede oldKey newKey =>
    rw [Request.apply]
    cases m newKey with
    | none => rfl
    | some successor =>
      apply Function.update_of_ne
      rintro rfl
      exact hkey rfl
  | _ => rfl

/-- What is set for a key, after a change of the state of a key. -/
theorem map_write_update_retire {key' : String} {state : EntryState} :
  (Function.update m key' ((m key').map (Artifact.retire state)) key).map Artifact.write
    = (m key).map Artifact.write
  := by
  by_cases hkey : key = key'
  · subst hkey
    rw [Function.update_self, Option.map_map]
    congr 1
    funext a
    apply a.write_retire
  · rw [Function.update_of_ne hkey]

/-- What is set for a key after a request: what the request sets, nothing after a `DEL` of the key,
or what was set before. -/
theorem map_write_apply (now : UInt64) :
  (request.apply sha3 now m key).map Artifact.write
    = if request = .del key then none
      else (request.written? key).or ((m key).map Artifact.write)
  := by
  cases request with
  | set key' value fingerprint =>
    rw [if_neg nofun, Request.apply, Request.written?]
    by_cases hkey : key' = key
    · subst hkey
      rw [Function.update_self, if_pos rfl]
      rfl
    · rw [Function.update_of_ne (Ne.symm hkey), if_neg hkey]
      rfl
  | del key' =>
    rw [Request.apply]
    by_cases hkey : key' = key
    · subst hkey
      rw [Function.update_self, if_pos rfl]
      rfl
    · rw [Function.update_of_ne (Ne.symm hkey), if_neg (by simpa using hkey)]
      rfl
  | invalidate key' reason =>
    rw [if_neg nofun, Request.apply, map_write_update_retire]
    rfl
  | supersede oldKey newKey =>
    rw [if_neg nofun, Request.apply]
    cases m newKey with
    | none => rfl
    | some successor =>
      dsimp only
      rw [map_write_update_retire]
      rfl
  | _ =>
    rw [if_neg nofun]
    rfl

/-- The artifact of a key has the value and the fingerprint of the last `SET` of the key since its
last `DEL`. -/
theorem map_write_after (requests : List (UInt64 × Request)) :
  (after sha3 requests key).map Artifact.write = lastSet key requests
  := by
  induction requests using List.reverseRecOn with
  | nil => rfl
  | append_singleton requests r ih =>
    rw [after, List.foldl_concat]
    change (r.2.apply sha3 r.1 (after sha3 requests) key).map Artifact.write = _
    rw [map_write_apply, ih, lastSet_concat]

end ArtifactMap

end Cachee
