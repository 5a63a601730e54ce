import Cachee.Daemon.Effects
import Cachee.Daemon.VerifiedRead

/-!
# Strict mode

In strict mode a `SET` without a word `FP` is refused.  With one, the next word is parsed, and a
word that is missing or malformed gives the empty fingerprint, with which the value is stored.  So
all slots have valid fingerprints exactly as long as each announced fingerprint is a valid one.
-/

open Text

namespace Cachee

variable {ext : Externals} {cfg : DaemonConfig} {amb : Ambient} {s s' : DaemonState}
  {parts : List String}

/-- If the event is a `SET` that announces a fingerprint, then the fingerprint is valid. -/
def DaemonEvent.FingerprintValid : DaemonEvent → Prop
  | command _ data => ∀ command key word args idx, words data = command :: key :: word :: args →
      toUppercase command = "SET" → fpIndex (words data) = some idx →
        (fpArgument (words data) idx).isValid = true
  | evict _ => True

/-- In strict mode the value of a `SET` comes with an announced fingerprint. -/
theorem fpArgument_of_strictMode {value : String} {fingerprint : ComputationFingerprint}
    (hstrict : cfg.strictMode = true)
    (h : setArguments cfg parts = .ok (some (value, fingerprint))) :
  ∃ idx, fpIndex parts = some idx ∧ fingerprint = fpArgument parts idx
  := by
  unfold setArguments at h
  cases hidx : fpIndex parts with
  | none =>
    rw [hidx, if_pos hstrict] at h
    cases h
  | some idx =>
    rw [hidx] at h
    obtain ⟨_, -, hsome⟩ := bind_eq_ok_iff.mp h
    obtain ⟨-, rfl⟩ := Prod.mk.inj (Option.some.inj (Except.ok.inj hsome))
    exact ⟨idx, rfl, rfl⟩

/-- A fingerprint is missing only if none is announced. -/
theorem fpIndex_of_setArguments (h : setArguments cfg parts = .ok none) :
  fpIndex parts = none
  := by
  unfold setArguments at h
  cases hidx : fpIndex parts with
  | none => rfl
  | some idx =>
    rw [hidx] at h
    obtain ⟨_, -, hnone⟩ := bind_eq_ok_iff.mp h
    cases hnone

/-- All slots have valid fingerprints. -/
def AllFingerprinted (slots : AList fun _ : String => CacheSlot) : Prop :=
  ∀ key slot, slots.lookup key = some slot → slot.hasValidFingerprint = true

/-- An event keeps all fingerprints valid, if the fingerprint that it announces is. -/
theorem AllFingerprinted.step {e : DaemonEvent} (hstrict : cfg.strictMode = true)
    (h : AllFingerprinted s.slots) (he : e.FingerprintValid)
    (hstep : daemonStep ext cfg s e = some s') :
  AllFingerprinted s'.slots
  := by
  apply forall_slots_of_step h _ (fun _ _ hslot => hslot) hstep
  intro amb' key value fingerprint hset
  obtain ⟨command, word, args, hwords, hcommand, hargs⟩ := DaemonEvent.set?_eq_some.mp hset
  obtain ⟨idx, hidx, rfl⟩ := fpArgument_of_strictMode hstrict hargs
  rw [hasValidFingerprint_newSlot]
  cases e with
  | evict key => cases hwords
  | command amb data => apply he _ _ _ _ idx hwords hcommand hidx

/-- In strict mode a `SET` that announces no fingerprint is refused and changes nothing, and one
that announces an invalid fingerprint is not. -/
theorem handleResp_set_refused_iff {data : Bytes} {command key word : String} {args : List String}
    (hstrict : cfg.strictMode = true) (hwords : words data = command :: key :: word :: args)
    (hcommand : toUppercase command = "SET") :
  (∃ text, handleResp ext cfg amb s data = .ok (s, "-ERR " ++ text)) ↔
    fpIndex (words data) = none
  := by
  rw [handleResp, hwords]
  dsimp only
  rw [hcommand, dispatch_set (by simp)]
  constructor
  · rintro ⟨text, h⟩
    rcases handleSet_cases h with ⟨hargs, -⟩ | ⟨value, fingerprint, s₁, -, -, -, hreply⟩
    · apply fpIndex_of_setArguments hargs
    · have hfirst := congrArg (fun reply => reply.toList.head?) hreply
      simp at hfirst
  · intro hidx
    use "computation fingerprint required (strict mode)\r\n"
    rw [handleSet, setArguments, hidx, hstrict]
    rfl

/-- In strict mode, from a daemon without slots, in every run in which each announced fingerprint is
valid, all slots have valid fingerprints; and a `SET` with a missing or an invalid fingerprint is
refused and changes nothing exactly when it announces none. -/
theorem fingerprinted_of_run {events : List DaemonEvent} (hstrict : cfg.strictMode = true)
    (hslots : s.slots = ∅) (hvalid : ∀ e ∈ events, e.FingerprintValid)
    (hrun : run (daemonStep ext cfg) s events = some s') :
  AllFingerprinted s'.slots ∧
    ∀ amb data command key word args, words data = command :: key :: word :: args →
      toUppercase command = "SET" →
        ((∃ text, handleResp ext cfg amb s' data = .ok (s', "-ERR " ++ text)) ↔
          fpIndex (words data) = none)
  := by
  constructor
  · apply run_invariant _ _ (meetsAlong_of_forall hvalid s) hrun
    · intro s₁ e s₂ h he hstep
      apply h.step hstrict he hstep
    · intro key slot hlookup
      rw [hslots, AList.lookup_empty] at hlookup
      cases hlookup
  · intro amb data command key word args hwords hcommand
    apply handleResp_set_refused_iff hstrict hwords hcommand

/-- These settings in strict mode. -/
def strictConfig : DaemonConfig := { plainConfig with strictMode := true }

/-- After a `SET` with a valid fingerprint in strict mode, all slots have valid fingerprints. -/
theorem fingerprinted_attestedSet :
  ∃ s', run (daemonStep plainExternals strictConfig) (.empty "node")
      [.command plainAmbient attestedSet] = some s' ∧
    (s'.slots.lookup "k").isSome ∧ AllFingerprinted s'.slots
  := by
  have hslot : (run (daemonStep plainExternals strictConfig) (.empty "node")
      [.command plainAmbient attestedSet]).map (fun s' => (s'.slots.lookup "k").isSome)
        = some true := by
    decide +kernel
  have hidx : fpIndex (words attestedSet) = some 3 := by
    decide +kernel
  have hvalid : ∀ e ∈ [DaemonEvent.command plainAmbient attestedSet], e.FingerprintValid := by
    intro e he
    obtain rfl := List.mem_singleton.mp he
    intro command key word args idx _ _ hidx'
    rw [hidx] at hidx'
    obtain rfl := Option.some.inj hidx'
    decide +kernel
  cases hrun : run (daemonStep plainExternals strictConfig) (.empty "node")
      [.command plainAmbient attestedSet] with
  | none =>
    rw [hrun] at hslot
    cases hslot
  | some s' =>
    rw [hrun] at hslot
    exact ⟨s', rfl, Option.some.inj hslot, (fingerprinted_of_run rfl rfl hvalid hrun).1⟩

/-- In strict mode, a `SET` with the malformed fingerprint `zz` is accepted, and its slot has no
valid fingerprint. -/
theorem strictMode_malformed :
  (handleResp plainExternals strictConfig plainAmbient (.empty "node")
      (asBytes "SET k v FP zz")).map (fun r =>
        (r.2, (r.1.slots.lookup "k").map CacheSlot.hasValidFingerprint))
    = .ok ("+OK\r\n", some false)
  := by
  decide +kernel

end Cachee
