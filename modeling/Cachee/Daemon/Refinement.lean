import Cachee.Daemon.Artifacts
import Cachee.Daemon.Dispatch
import Cachee.Library.Lines
import Mathlib.Data.List.TakeWhile

/-!
# The daemon and its artifacts

Commands that are performed one after another maintain an artifact for each key.  The slot of a
key holds its artifact.  The engine has the value of the artifact or none, since it may give up any
value at any time.  So a read answers with the artifact of the key, or with nothing.
-/

open Text

namespace Cachee

/-! ### The words of a `SET` -/

section SetArguments

variable {cfg : DaemonConfig} {command key : String} {args : List String}

/-- The first word `FP` of a `SET` is among the words after the key, unless the key is one. -/
theorem fpIndex_eq_map (hset : IsSet (command :: key :: args))
    (hkey : ¬ KeyIsFp (command :: key :: args)) :
  fpIndex (command :: key :: args) = (args.findIdx? Request.announcesFp).map (· + 2)
  := by
  have hcommand : eqIgnoreAsciiCase command "FP" = false := by
    by_contra hne
    apply fpIndex_ne_zero hset
    rw [fpIndex, List.findIdx?_cons, if_pos (by simpa using hne)]
  have hkey : eqIgnoreAsciiCase key "FP" = false := by
    by_contra hne
    apply hkey
    use hset
    rw [fpIndex, List.findIdx?_cons, List.findIdx?_cons, hcommand, if_neg (by decide),
      if_pos (by simpa using hne)]
    rfl
  rw [fpIndex, List.findIdx?_cons, List.findIdx?_cons, hcommand, hkey, if_neg (by decide),
    if_neg (by decide), Option.map_map]
  rfl

/-- Without a fingerprint, the value is all words. -/
theorem valueOf_of_none (hidx : args.findIdx? Request.announcesFp = none) :
  Request.valueOf args = " ".intercalate args ∧ Request.fingerprintOf args = .empty
  := by
  have hall : ∀ word ∈ args, (!Request.announcesFp word) = true := by
    intro word hword
    rw [List.findIdx?_eq_none_iff.mp hidx word hword]
    rfl
  rw [Request.valueOf, Request.fingerprintOf, List.takeWhile_eq_self_iff.mpr hall,
    List.dropWhile_eq_nil_iff.mpr hall]
  exact ⟨rfl, rfl⟩

/-- No text gives the empty fingerprint. -/
theorem parseFingerprint_empty :
  parseFingerprint "" = .empty
  := by
  decide

/-- With a fingerprint, the value is the words before it. -/
theorem valueOf_of_some {i : ℕ} (hidx : args.findIdx? Request.announcesFp = some i) :
  Request.valueOf args = " ".intercalate (args.take i) ∧
    Request.fingerprintOf args = parseFingerprint (args[i + 1]?.getD "")
  := by
  obtain ⟨hlt, hfind⟩ := List.findIdx?_eq_some_iff_findIdx_eq.mp hidx
  have hnot : args.findIdx (fun word => !!Request.announcesFp word) = i := by
    simpa using hfind
  rw [Request.valueOf, Request.fingerprintOf, List.takeWhile_eq_take_findIdx_not,
    List.dropWhile_eq_drop_findIdx_not, hnot, List.drop_eq_getElem_cons hlt]
  use rfl
  cases hrest : args.drop (i + 1) with
  | nil =>
    rw [List.getElem?_eq_none (List.drop_eq_nil_iff.mp hrest), Option.getD_none,
      parseFingerprint_empty]
  | cons hexStr rest =>
    have hget : args[i + 1]? = some hexStr := by
      rw [← List.head?_drop, hrest, List.head?_cons]
    rw [hget, Option.getD_some]

/-- In permissive mode, the arguments of a `SET` whose key is not `FP` are its value and its
fingerprint. -/
theorem setArguments_eq (hstrict : cfg.strictMode = false) (hset : IsSet (command :: key :: args))
    (hkey : ¬ KeyIsFp (command :: key :: args)) :
  setArguments cfg (command :: key :: args)
    = .ok (some (Request.valueOf args, Request.fingerprintOf args))
  := by
  rw [setArguments, fpIndex_eq_map hset hkey]
  cases hidx : args.findIdx? Request.announcesFp with
  | none =>
    obtain ⟨hvalue, hfingerprint⟩ := valueOf_of_none hidx
    rw [hvalue, hfingerprint, Option.map_none]
    dsimp only
    have hall : ((command :: key :: args).drop 2).take ((command :: key :: args).length - 2) = args :=
      List.take_length
    rw [hstrict, if_neg (by decide), slice_eq (by simp) le_rfl, ok_bind, hall]
    rfl
  | some i =>
    obtain ⟨hvalue, hfingerprint⟩ := valueOf_of_some hidx
    have hlt := (List.findIdx?_eq_some_iff_findIdx_eq.mp hidx).1
    rw [hvalue, hfingerprint, Option.map_some]
    dsimp only
    have hle : i + 2 ≤ (command :: key :: args).length := by
      simp only [List.length_cons]
      omega
    rw [slice_eq (Nat.le_add_left 2 i) hle, ok_bind, Nat.add_sub_cancel]
    rfl

end SetArguments

/-! ### Artifacts and slots -/

/-- The slot holds the artifact. -/
structure Artifact.HeldBy (sha3 : Bytes → Block 32) (slot : CacheSlot) (a : Artifact) : Prop where
  value : slot.value = asBytes a.value
  fingerprint : slot.fingerprint = a.fingerprint
  state : slot.state = a.state
  wellAddressed : slot.WellAddressed sha3

/-- A slot holds an artifact that is retired with it. -/
theorem Artifact.HeldBy.retire {sha3 : Bytes → Block 32} {slot : CacheSlot} {a : Artifact}
    (h : a.HeldBy sha3 slot) (state : EntryState) :
  (a.retire state).HeldBy sha3 (if slot.state = .active then { slot with state } else slot)
  := by
  rw [Artifact.retire, h.state]
  split
  · exact ⟨h.value, h.fingerprint, rfl, h.wellAddressed⟩
  · apply h

/-- The slot of each key holds its artifact, and the engine has values of artifacts only. -/
structure Represents (sha3 : Bytes → Block 32) (s : DaemonState) (m : ArtifactMap) : Prop where
  slots : ∀ key, Option.Rel (Artifact.HeldBy sha3) (s.slots.lookup key) (m key)
  engine : ∀ key value, s.engine.lookup key = some value →
    ∃ a, m key = some a ∧ value = asBytes a.value

/-- The request of a line, with the time at which it is performed. -/
def DaemonEvent.request? : DaemonEvent → Option (UInt64 × Request)
  | command amb data => some (amb.now, .ofWords (words data))
  | evict _ => none

/-- What a read may reply, when these are the artifacts. -/
def Request.Allows (ext : Externals) (m : ArtifactMap) (reply : String) : Request → Prop
  | get key => reply = nilReply ∨ ∃ a, m key = some a ∧ reply = bulk a.value
  | getVerified key => reply = nilReply ∨ ∃ a response, m key = some a ∧
      response.value = asBytes a.value ∧ response.fingerprint = a.fingerprint ∧
      response.state = a.state ∧ reply = bulk (responseText ext response)
  | state key => (m key = none ∧ reply = nilReply) ∨
      ∃ a, m key = some a ∧ reply = bulk (a.state.debug ext.debugStr)
  | _ => True

/-- The two slots differ in their state at most. -/
def CacheSlot.EqUpToState (slot slot' : CacheSlot) : Prop :=
  slot' = { slot with state := slot'.state }

theorem CacheSlot.eqUpToState_refl (slot : CacheSlot) :
  slot.EqUpToState slot
  := rfl

/-- What a request does, when these are the artifacts before it: the slots hold the artifacts after
it, the reply is one that is allowed, the other keys keep their values and slots, and a request that
is to change a state changes nothing else. -/
structure Performs (ext : Externals) (amb : Ambient) (m : ArtifactMap) (request : Request)
    (s s' : DaemonState) (reply : String) : Prop where
  represents : Represents ext.sha3 s' (request.apply ext.sha3 amb.now m)
  allows : request.Allows ext m reply
  frame : ∀ key, request.key? ≠ some key →
    s'.engine.lookup key = s.engine.lookup key ∧ s'.slots.lookup key = s.slots.lookup key
  state : request.changesState = true → s'.engine = s.engine ∧ s'.contentStore = s.contentStore ∧
    ∀ key, Option.Rel CacheSlot.EqUpToState (s.slots.lookup key) (s'.slots.lookup key)

section Requests

variable {ext : Externals} {cfg : DaemonConfig} {amb : Ambient} {s s' : DaemonState}
  {m : ArtifactMap} {key reply : String}

/-- A request that changes no artifact is performed when the stores are kept. -/
theorem Performs.of_keep {request : Request} (h : Represents ext.sha3 s m)
    (hengine : s'.engine = s.engine) (hslots : s'.slots = s.slots)
    (hstore : s'.contentStore = s.contentStore)
    (happly : request.apply ext.sha3 amb.now m = m) (hallows : request.Allows ext m reply) :
  Performs ext amb m request s s' reply
  := by
  constructor
  · rw [happly]
    constructor
    · rw [hslots]
      apply h.slots
    · rw [hengine]
      apply h.engine
  · apply hallows
  · intro key _
    rw [hengine, hslots]
    exact ⟨rfl, rfl⟩
  · intro _
    refine ⟨hengine, hstore, ?_⟩
    intro key
    rw [hslots]
    cases s.slots.lookup key with
    | none => apply Option.Rel.none
    | some slot => exact Option.Rel.some slot.eqUpToState_refl

/-- A key with a slot has the artifact that it holds. -/
theorem Represents.exists_artifact (h : Represents ext.sha3 s m) {slot : CacheSlot}
    (hslot : s.slots.lookup key = some slot) :
  ∃ a, m key = some a ∧ a.HeldBy ext.sha3 slot
  := by
  have hrel := h.slots key
  rw [hslot] at hrel
  generalize m key = found at hrel
  cases hrel with
  | some hheld => exact ⟨_, rfl, hheld⟩

/-- A key without a slot has no artifact. -/
theorem Represents.eq_none (h : Represents ext.sha3 s m) (hslot : s.slots.lookup key = none) :
  m key = none
  := by
  have hrel := h.slots key
  rw [hslot] at hrel
  generalize m key = found at hrel
  cases hrel with
  | none => rfl

/-- The engine may give up any value. -/
theorem Represents.evict (h : Represents ext.sha3 s m) (key : String) :
  Represents ext.sha3 { s with engine := s.engine.erase key } m
  := by
  refine ⟨h.slots, ?_⟩
  intro key' value hvalue
  apply h.engine key' value (lookup_erase_eq_some.mp hvalue).2

/-- An artifact that is set is held by its slot and is the value of the engine. -/
theorem Represents.set (h : Represents ext.sha3 s m) {value : String}
    {fingerprint : ComputationFingerprint}
    (hengine : s'.engine = s.engine.insert key (asBytes value))
    (hslots : s'.slots = s.slots.insert key (newSlot ext cfg amb (asBytes value) fingerprint)) :
  Represents ext.sha3 s' (Function.update m key (some ⟨value, fingerprint, .active⟩))
  := by
  constructor
  · intro key'
    rw [hslots]
    by_cases hkey : key' = key
    · subst hkey
      rw [AList.lookup_insert, Function.update_self]
      apply Option.Rel.some
      exact ⟨rfl, rfl, rfl, CacheSlot.wellAddressed_new _ _ _ _ _ _ _⟩
    · rw [AList.lookup_insert_ne hkey, Function.update_of_ne hkey]
      apply h.slots
  · intro key' value' hvalue'
    rw [hengine] at hvalue'
    rcases lookup_insert_eq_some.mp hvalue' with ⟨rfl, rfl⟩ | ⟨hkey, hvalue'⟩
    · exact ⟨_, Function.update_self .., rfl⟩
    · rw [Function.update_of_ne hkey]
      apply h.engine key' value' hvalue'

/-- An artifact that is deleted has neither a slot nor a value. -/
theorem Represents.delete (h : Represents ext.sha3 s m) (hengine : s'.engine = s.engine.erase key)
    (hslots : s'.slots = s.slots.erase key) :
  Represents ext.sha3 s' (Function.update m key none)
  := by
  constructor
  · intro key'
    rw [hslots]
    by_cases hkey : key' = key
    · subst hkey
      rw [AList.lookup_erase, Function.update_self]
      apply Option.Rel.none
    · rw [AList.lookup_erase_ne hkey, Function.update_of_ne hkey]
      apply h.slots
  · intro key' value hvalue
    rw [hengine] at hvalue
    obtain ⟨hkey, hvalue⟩ := lookup_erase_eq_some.mp hvalue
    rw [Function.update_of_ne hkey]
    apply h.engine key' value hvalue

/-- An artifact is retired with its slot, and the request changes no more than the state. -/
theorem Represents.retire (h : Represents ext.sha3 s m) {missing toState : String}
    {newState : EntryState} {reason : Option String} {request : Request}
    (hretires : ∀ old, CacheSlot.illegalTransition ext.debugStr old newState = none ↔ old = .active)
    (hkey : request.key? = some key) (hallows : request.Allows ext m reply)
    (happly : request.apply ext.sha3 amb.now m
      = Function.update m key ((m key).map (Artifact.retire newState)))
    (hs' : s' = (s.transitionSlot ext amb key missing newState toState reason).1) :
  Performs ext amb m request s s' reply
  := by
  obtain ⟨hengine, hstore, hother, hlookup⟩ := DaemonState.transitionSlot_retires hs' hretires
  constructor
  · rw [happly]
    constructor
    · intro key'
      by_cases hkey' : key' = key
      · subst hkey'
        rw [hlookup, Function.update_self]
        cases hslot : s.slots.lookup key' with
        | none =>
          rw [h.eq_none hslot]
          apply Option.Rel.none
        | some slot =>
          obtain ⟨a, ha, hheld⟩ := h.exists_artifact hslot
          rw [ha]
          apply Option.Rel.some (hheld.retire newState)
      · rw [hother key' hkey', Function.update_of_ne hkey']
        apply h.slots
    · intro key' value hvalue
      rw [hengine] at hvalue
      obtain ⟨a, ha, hvalue⟩ := h.engine key' value hvalue
      by_cases hkey' : key' = key
      · subst hkey'
        rw [Function.update_self, ha]
        refine ⟨_, rfl, ?_⟩
        rw [hvalue, Artifact.value_retire]
      · rw [Function.update_of_ne hkey']
        exact ⟨a, ha, hvalue⟩
  · apply hallows
  · intro key' hne
    have hne : key' ≠ key := by
      rintro rfl
      exact hne hkey
    exact ⟨by rw [hengine], hother key' hne⟩
  · intro _
    refine ⟨hengine, hstore, ?_⟩
    intro key'
    by_cases hkey' : key' = key
    · subst hkey'
      rw [hlookup]
      cases s.slots.lookup key' with
      | none => apply Option.Rel.none
      | some slot =>
        apply Option.Rel.some
        dsimp only
        split
        · rfl
        · rfl
    · rw [hother key' hkey']
      cases s.slots.lookup key' with
      | none => apply Option.Rel.none
      | some slot => exact Option.Rel.some slot.eqUpToState_refl

/-! ### What each request performs -/

variable {data : Bytes} {command oldKey newKey word word' : String} {args : List String}

/-- In permissive mode, a `SET` that is replied to writes its value and its fingerprint. -/
theorem set?_of_reply (hstrict : cfg.strictMode = false)
    (hwords : words data = command :: key :: word :: args) (hcommand : toUppercase command = "SET")
    (hreply : handleResp ext cfg amb s data = .ok (s', reply)) :
  (DaemonEvent.command amb data).set? cfg
    = some (key, Request.valueOf (word :: args), Request.fingerprintOf (word :: args))
  := by
  have hset : IsSet (command :: key :: word :: args) := ⟨by simp, congrArg some hcommand⟩
  have hkey : ¬ KeyIsFp (command :: key :: word :: args) := by
    rw [← hwords]
    apply ((returns_handleWords_iff ext cfg amb s (words data)).mp ⟨(s', reply), hreply⟩).1
  apply DaemonEvent.set?_eq_some.mpr
  refine ⟨command, word, args, hwords, hcommand, ?_⟩
  rw [DaemonEvent.parts, hwords, setArguments_eq hstrict hset hkey]

theorem Represents.performs_set (h : Represents ext.sha3 s m) (hstrict : cfg.strictMode = false)
    (hwords : words data = command :: key :: word :: args) (hcommand : toUppercase command = "SET")
    (hreply : handleResp ext cfg amb s data = .ok (s', reply)) :
  Performs ext amb m
    (.set key (Request.valueOf (word :: args)) (Request.fingerprintOf (word :: args))) s s' reply
  := by
  have hrequest := set?_of_reply hstrict hwords hcommand hreply
  obtain ⟨hengine, hslots, -⟩ := engine_slots_of_set? hrequest hreply
  constructor
  · apply h.set hengine hslots
  · trivial
  · intro other hne
    have hne : other ≠ key := by
      rintro rfl
      exact hne rfl
    rw [hengine, hslots]
    exact ⟨AList.lookup_insert_ne hne, AList.lookup_insert_ne hne⟩
  · intro hfalse
    cases hfalse

theorem Represents.performs_get (h : Represents ext.sha3 s m) (hsafe : cfg.safeReadMode = false)
    (hwords : words data = command :: key :: args) (hcommand : toUppercase command = "GET")
    (hreply : handleResp ext cfg amb s data = .ok (s', reply)) :
  Performs ext amb m (.get key) s s' reply
  := by
  rw [handleResp_of_words hwords hcommand, dispatch_get (by simp), handleGet_eq hsafe] at hreply
  obtain ⟨rfl, rfl⟩ := Prod.mk.inj (Except.ok.inj hreply)
  apply Performs.of_keep h rfl rfl rfl rfl
  cases hvalue : s.engine.lookup key with
  | none =>
    left
    rfl
  | some value =>
    right
    obtain ⟨a, ha, rfl⟩ := h.engine key value hvalue
    use a, ha
    dsimp only
    rw [ofList_fromUtf8Lossy_asBytes]

theorem Represents.performs_getVerified (h : Represents ext.sha3 s m)
    (hwords : words data = command :: key :: args) (hcommand : toUppercase command = "GETVERIFIED")
    (hreply : handleResp ext cfg amb s data = .ok (s', reply)) :
  Performs ext amb m (.getVerified key) s s' reply
  := by
  rw [handleResp_of_words hwords hcommand, dispatch_getVerified (by simp), handleGetVerified,
    index_one, ok_bind] at hreply
  obtain ⟨response?, hresponse, hreply⟩ := bind_eq_ok_iff.mp hreply
  cases response? with
  | none =>
    obtain ⟨rfl, rfl⟩ := Prod.mk.inj (Except.ok.inj hreply)
    exact .of_keep h rfl rfl rfl rfl (Or.inl rfl)
  | some response =>
    obtain ⟨rfl, rfl⟩ := Prod.mk.inj (Except.ok.inj hreply)
    obtain ⟨auditLog, hlog⟩ := s.logVerification_eq ext amb key response
    rw [hlog]
    obtain ⟨value, hvalue, hrespond⟩ := DaemonState.getVerified_eq_some hresponse
    obtain ⟨a, ha, rfl⟩ := h.engine key value hvalue
    cases hslot : s.slots.lookup key with
    | none =>
      rw [h.eq_none hslot] at ha
      cases ha
    | some slot =>
      obtain ⟨a', ha', hheld⟩ := h.exists_artifact hslot
      obtain rfl := Option.some.inj (ha.symm.trans ha')
      obtain ⟨hvalue', hfound⟩ := DaemonState.respond_eq_ok hrespond
      obtain ⟨hfingerprint, hstate, -⟩ := hfound slot hslot
      refine .of_keep h rfl rfl rfl rfl (Or.inr ⟨a, response, ha, hvalue', ?_, ?_, rfl⟩)
      · rw [hfingerprint, hheld.fingerprint]
      · rw [hstate, hheld.state]

theorem Represents.performs_del (h : Represents ext.sha3 s m)
    (hwords : words data = command :: key :: args) (hcommand : toUppercase command = "DEL")
    (hreply : handleResp ext cfg amb s data = .ok (s', reply)) :
  Performs ext amb m (.del key) s s' reply
  := by
  rw [handleResp_of_words hwords hcommand, dispatch_del (by simp), handleDel, index_one,
    ok_bind] at hreply
  obtain ⟨auditLog, hlog⟩ := DaemonState.logDeleted_eq ext amb
    ((s.deleteValue key).1.removeSlot key) key (s.deleteValue key).2
  have hs' : s' = ((s.deleteValue key).1.removeSlot key).logDeleted ext amb key
      (s.deleteValue key).2 := congrArg Prod.fst (Except.ok.inj hreply).symm
  rw [hlog] at hs'
  subst hs'
  constructor
  · apply h.delete rfl rfl
  · trivial
  · intro other hne
    have hne : other ≠ key := by
      rintro rfl
      exact hne rfl
    exact ⟨AList.lookup_erase_ne hne, AList.lookup_erase_ne hne⟩
  · intro hfalse
    cases hfalse

theorem Represents.performs_invalidate (h : Represents ext.sha3 s m)
    (hwords : words data = command :: key :: word :: word' :: args)
    (hcommand : toUppercase command = "INVALIDATE")
    (hreply : handleResp ext cfg amb s data = .ok (s', reply)) :
  Performs ext amb m (.invalidate key (" ".intercalate (word' :: args))) s s' reply
  := by
  rw [handleResp_of_words hwords hcommand, dispatch_invalidate (by simp),
    handleInvalidate_eq] at hreply
  have hs' := congrArg Prod.fst (Except.ok.inj hreply).symm
  refine h.retire ?_ rfl trivial rfl hs'
  intro old
  constructor
  · apply CacheSlot.active_of_revoked
  · rintro rfl
    rfl

theorem Represents.performs_supersede (h : Represents ext.sha3 s m)
    (hwords : words data = command :: oldKey :: newKey :: args)
    (hcommand : toUppercase command = "SUPERSEDE")
    (hreply : handleResp ext cfg amb s data = .ok (s', reply)) :
  Performs ext amb m (.supersede oldKey newKey) s s' reply
  := by
  rw [handleResp_of_words hwords hcommand, dispatch_supersede (by simp),
    handleSupersede_eq] at hreply
  have hs' := congrArg Prod.fst (Except.ok.inj hreply).symm
  cases hslot : s.slots.lookup newKey with
  | none =>
    rw [hslot] at hs'
    obtain rfl : s' = s := hs'
    refine Performs.of_keep h rfl rfl rfl ?_ trivial
    rw [Request.apply, h.eq_none hslot]
  | some successor =>
    obtain ⟨a, ha, hheld⟩ := h.exists_artifact hslot
    rw [hslot] at hs'
    refine h.retire ?_ rfl trivial ?_ hs'
    · intro old
      constructor
      · apply CacheSlot.active_of_superseded
      · rintro rfl
        rfl
    · rw [Request.apply, ha, hheld.wellAddressed, hheld.value, hheld.fingerprint]
      rfl

theorem Represents.performs_state (h : Represents ext.sha3 s m)
    (hwords : words data = command :: key :: args) (hcommand : toUppercase command = "STATE")
    (hreply : handleResp ext cfg amb s data = .ok (s', reply)) :
  Performs ext amb m (.state key) s s' reply
  := by
  rw [handleResp_of_words hwords hcommand, dispatch_state (by simp), handleState_eq] at hreply
  obtain ⟨rfl, rfl⟩ := Prod.mk.inj (Except.ok.inj hreply)
  apply Performs.of_keep h rfl rfl rfl rfl
  cases hslot : s.slots.lookup key with
  | none =>
    left
    exact ⟨h.eq_none hslot, rfl⟩
  | some slot =>
    right
    obtain ⟨a, ha, hheld⟩ := h.exists_artifact hslot
    use a, ha
    dsimp only
    rw [hheld.state]

/-- A line that asks for none of these keeps the engine, the slots and the content store. -/
theorem Represents.performs_other (h : Represents ext.sha3 s m)
    (hother : Request.ofWords (words data) = .other)
    (hreply : handleResp ext cfg amb s data = .ok (s', reply)) :
  Performs ext amb m .other s s' reply
  := by
  cases step_handleResp hreply with
  | same => exact .of_keep h rfl rfl rfl rfl trivial
  | set hparts hcommand hargs hpersist =>
    rw [hparts, Request.ofWords_set hcommand] at hother
    cases hother
  | delete hparts hcommand =>
    rw [hparts, Request.ofWords_del hcommand] at hother
    cases hother
  | revoke reason hparts hcommand hslot hactive =>
    rw [hparts, Request.ofWords_invalidate hcommand] at hother
    cases hother
  | supersede hparts hcommand hslot hactive hsuccessor =>
    rw [hparts, Request.ofWords_supersede hcommand] at hother
    cases hother
  | verifiedRead key response =>
    obtain ⟨auditLog, hlog⟩ := s.logVerification_eq ext amb key response
    rw [hlog]
    exact .of_keep h rfl rfl rfl rfl trivial
  | anchor =>
    rw [handleAuditAnchor_eq]
    exact .of_keep h rfl rfl rfl rfl trivial

/-- A line that is replied to performs its request. -/
theorem Represents.performs (h : Represents ext.sha3 s m) (hstrict : cfg.strictMode = false)
    (hsafe : cfg.safeReadMode = false)
    (hreply : handleResp ext cfg amb s data = .ok (s', reply)) :
  Performs ext amb m (.ofWords (words data)) s s' reply
  := by
  cases hwords : words data with
  | nil =>
    apply h.performs_other
    · rw [hwords]
      rfl
    · apply hreply
  | cons command args =>
    generalize hrequest : Request.ofWords (command :: args) = request
    have hcases := hrequest
    unfold Request.ofWords at hcases
    dsimp only at hcases
    split at hcases
    all_goals subst hcases
    · rename_i key word args hcommand
      apply h.performs_set hstrict hwords hcommand hreply
    · rename_i key args hcommand
      apply h.performs_get hsafe hwords hcommand hreply
    · rename_i key args hcommand
      apply h.performs_getVerified hwords hcommand hreply
    · rename_i key args hcommand
      apply h.performs_del hwords hcommand hreply
    · rename_i key word word' args hcommand
      apply h.performs_invalidate hwords hcommand hreply
    · rename_i oldKey newKey args hcommand
      apply h.performs_supersede hwords hcommand hreply
    · rename_i key args hcommand
      apply h.performs_state hwords hcommand hreply
    · apply h.performs_other (hwords ▸ hrequest) hreply

/-! ### Runs -/

/-- The requests of some events, each at its time. -/
def requestsOf (events : List DaemonEvent) : List (UInt64 × Request) :=
  events.filterMap DaemonEvent.request?

/-- One more event has at most one more request. -/
theorem requestsOf_concat (events : List DaemonEvent) (e : DaemonEvent) :
  requestsOf (events ++ [e]) = requestsOf events ++ e.request?.toList
  := by
  rw [requestsOf, List.filterMap_append]
  cases e with
  | command amb data => rfl
  | evict key => rfl

/-- An event that is performed leaves the slots holding the artifacts after its request. -/
theorem Represents.step {events : List DaemonEvent} {e : DaemonEvent}
    (hstrict : cfg.strictMode = false) (hsafe : cfg.safeReadMode = false)
    (h : Represents ext.sha3 s (.after ext.sha3 (requestsOf events)))
    (hstep : daemonStep ext cfg s e = some s') :
  Represents ext.sha3 s' (.after ext.sha3 (requestsOf (events ++ [e])))
  := by
  rw [requestsOf_concat]
  cases e with
  | command amb data =>
    obtain ⟨reply, hreply⟩ := daemonStep_command_eq_some.mp hstep
    rw [ArtifactMap.after, DaemonEvent.request?, Option.toList_some, List.foldl_concat]
    apply (h.performs hstrict hsafe hreply).represents
  | evict key =>
    obtain rfl := Option.some.inj hstep
    rw [DaemonEvent.request?, Option.toList_none, List.append_nil]
    apply h.evict

end Requests

/-- In permissive and compatible mode, after every run from an empty daemon: the artifact of each
key has the value and the fingerprint of the last `SET` of the key since its last `DEL`; every line
is replied to, unless it is a `SET` of the key `FP` or is to be signed with keys that are not
accepted; and a line that is replied to performs its request on the artifacts. -/
theorem performs_of_run {ext : Externals} {cfg : DaemonConfig} {start s : DaemonState}
    {events : List DaemonEvent} (hstrict : cfg.strictMode = false)
    (hsafe : cfg.safeReadMode = false) (hengine : start.engine = ∅) (hslots : start.slots = ∅)
    (hrun : run (daemonStep ext cfg) start events = some s) :
  Represents ext.sha3 s (.after ext.sha3 (requestsOf events)) ∧
    (∀ key, (ArtifactMap.after ext.sha3 (requestsOf events) key).map Artifact.write
      = lastSet key (requestsOf events)) ∧
    ∀ amb data,
      (¬ KeyIsFp (words data) → ¬ SignsWithRejectedKeys ext.library cfg (words data) →
        ∃ s' reply, handleResp ext cfg amb s data = .ok (s', reply)) ∧
      ∀ s' reply, handleResp ext cfg amb s data = .ok (s', reply) →
        Performs ext amb (.after ext.sha3 (requestsOf events)) (.ofWords (words data)) s s' reply
  := by
  have hrepresents : Represents ext.sha3 s (.after ext.sha3 (requestsOf events)) := by
    refine @run_invariant_history _ _ _
      (fun events s => Represents ext.sha3 s (.after ext.sha3 (requestsOf events))) _ ?_ ?_ _ _ hrun
    · intro events s₁ e s₂ h hstep
      apply h.step hstrict hsafe hstep
    · constructor
      · intro key
        rw [hslots]
        apply Option.Rel.none
      · intro key value hvalue
        rw [hengine] at hvalue
        cases hvalue
  refine ⟨hrepresents, ?_, ?_⟩
  · intro key
    apply ArtifactMap.map_write_after
  · intro amb data
    constructor
    · intro hkey hsigns
      obtain ⟨⟨s', reply⟩, hreply⟩ :=
        (returns_handleWords_iff ext cfg amb s (words data)).mpr ⟨hkey, hsigns⟩
      exact ⟨s', reply, hreply⟩
    · intro s' reply hreply
      apply hrepresents.performs hstrict hsafe hreply

/-- After `k` has been set to `v`, a read of `k` is replied to, with this value or with none. -/
theorem performs_getK :
  ∃ s s' reply, run (daemonStep plainExternals plainConfig) (.empty "node") [setV] = some s ∧
    handleResp plainExternals plainConfig plainAmbient s (asBytes "GET k") = .ok (s', reply) ∧
    (reply = nilReply ∨ reply = bulk "v")
  := by
  have hsome : (run (daemonStep plainExternals plainConfig) (.empty "node") [setV]).isSome = true := by
    decide +kernel
  obtain ⟨s, hrun⟩ := Option.isSome_iff_exists.mp hsome
  obtain ⟨-, -, hperforms⟩ := performs_of_run rfl rfl rfl rfl hrun
  obtain ⟨hreturns, hperforms⟩ := hperforms plainAmbient (asBytes "GET k")
  have hwords : words (asBytes "GET k") = ["GET", "k"] := by
    decide +kernel
  have hset : ¬ IsSet (words (asBytes "GET k")) := by
    rw [hwords]
    rintro ⟨hlength, -⟩
    simp at hlength
  obtain ⟨s', reply, hreply⟩ := hreturns (fun h => hset h.1) (fun h => hset h.1)
  use s, s', reply, hrun, hreply
  have hallows := (hperforms s' reply hreply).allows
  have hrequest : Request.ofWords ["GET", "k"] = .get "k" := by
    decide +kernel
  have hartifact : ArtifactMap.after plainExternals.sha3 (requestsOf [setV]) "k"
      = some ⟨"v", .empty, .active⟩ := by
    decide +kernel
  rw [hwords, hrequest, Request.Allows, hartifact] at hallows
  rcases hallows with hnil | ⟨a, ha, hvalue⟩
  · left
    apply hnil
  · right
    obtain rfl := Option.some.inj ha
    apply hvalue

end Cachee
