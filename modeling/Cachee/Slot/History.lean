import Cachee.Library.Attempts
import Cachee.Slot.CacheSlot

/-!
# The history of a slot

The changes of state of a slot, over any sequence of calls.  The records of the calls that
succeed form a path through the lifecycle from the active state to the state of the slot.  No
call leaves a terminal state, every other state can be left, and no call changes anything but the
state.
-/

open Text Attempts

namespace Cachee

/-- A call that changes the state of a slot, and the time at which it is made. -/
structure TransitionCall where
  now : UInt64
  newState : EntryState
  authority : TransitionAuthority
  proof : TransitionProof

namespace CacheSlot

/-- Perform a call. -/
def perform (debugStr : String → String) (slot : CacheSlot) (call : TransitionCall) :
    Except String (CacheSlot × StateTransition) :=
  slot.transition debugStr call.now call.newState call.authority call.proof

variable {sha3 : Bytes → Block 32} {debugStr : String → String} {slot slot' : CacheSlot}
  {call : TransitionCall} {record : StateTransition}

/-! ### One call -/

/-- A call that succeeds is legal, changes only the state, and is recorded. -/
theorem perform_eq_ok_iff :
  slot.perform debugStr call = .ok (slot', record) ↔
    illegalTransition debugStr slot.state call.newState = none ∧
    slot' = { slot with state := call.newState } ∧
    record = ⟨slot.state, call.newState, call.now, slot.contentAddress, call.authority,
      call.proof⟩
  := by
  rw [perform, transition]
  cases illegalTransition debugStr slot.state call.newState with
  | some e => simp
  | none =>
    rw [Except.ok.injEq, Prod.mk.injEq]
    constructor
    · rintro ⟨rfl, rfl⟩
      exact ⟨rfl, rfl, rfl⟩
    · rintro ⟨-, rfl, rfl⟩
      exact ⟨rfl, rfl⟩

/-- The record of a call tells the states before and after it. -/
theorem states_of_perform (h : slot.perform debugStr call = .ok (slot', record)) :
  record.fromState = slot.state ∧ record.toState = slot'.state
  := by
  obtain ⟨-, rfl, rfl⟩ := perform_eq_ok_iff.mp h
  exact ⟨rfl, rfl⟩

/-- A state can be left exactly when it is reversible: an active slot can be superseded, and an
expired or deprecated one can become active again. -/
theorem exists_legal_iff (debugStr : String → String) (state : EntryState) :
  (∃ newState, illegalTransition debugStr state newState = none) ↔ isReversible state
  := by
  cases state with
  | active => exact iff_of_true ⟨.superseded (Block.zero 32), rfl⟩ rfl
  | expired _ => exact iff_of_true ⟨.active, rfl⟩ rfl
  | deprecated _ _ _ => exact iff_of_true ⟨.active, rfl⟩ rfl
  | superseded _ =>
    apply iff_of_false
    · rintro ⟨newState, h⟩
      cases h
    · rintro ⟨⟩
  | revoked _ _ _ =>
    apply iff_of_false
    · rintro ⟨newState, h⟩
      cases h
    · rintro ⟨⟩

/-- Some call succeeds exactly when the state of the slot is reversible. -/
theorem exists_attempt_ok_iff (debugStr : String → String) (slot : CacheSlot) :
  (∃ call record, (attempt (perform debugStr) slot call).2 = .ok record) ↔
    isReversible slot.state
  := by
  rw [← exists_legal_iff debugStr]
  constructor
  · rintro ⟨call, record, h⟩
    obtain ⟨slot', hok⟩ := attempt_snd_eq_ok.mp h
    exact ⟨_, (perform_eq_ok_iff.mp hok).1⟩
  · rintro ⟨newState, hlegal⟩
    have hok : slot.perform debugStr ⟨0, newState, .system, .systemInitiated⟩
        = .ok ({ slot with state := newState },
          ⟨slot.state, newState, 0, slot.contentAddress, .system, .systemInitiated⟩) :=
      perform_eq_ok_iff.mpr ⟨hlegal, rfl, rfl⟩
    exact ⟨_, _, attempt_snd_eq_ok.mpr ⟨_, hok⟩⟩

/-- No call succeeds on a slot whose state is not reversible. -/
theorem perform_ne_ok (hterminal : isReversible slot.state = false) (call : TransitionCall)
    (next : CacheSlot × StateTransition) :
  slot.perform debugStr call ≠ .ok next
  := by
  intro h
  have hreversible := (exists_attempt_ok_iff debugStr slot).mp
    ⟨call, next.2, attempt_snd_eq_ok.mpr ⟨next.1, h⟩⟩
  rw [hterminal] at hreversible
  cases hreversible

/-! ### Whole histories -/

/-- The records of the calls that succeed lead from the first state of a slot to its last. -/
theorem path_performAll (debugStr : String → String) (slot : CacheSlot)
    (calls : List TransitionCall) :
  Path StateTransition.fromState StateTransition.toState slot.state
    (records (attemptAll (perform debugStr) slot calls).2)
    (attemptAll (perform debugStr) slot calls).1.state
  := by
  apply path_attemptAll CacheSlot.state _ slot calls
  intro slot call slot' record h
  apply states_of_perform h

/-- Calls change nothing but the state. -/
theorem performAll_eq (debugStr : String → String) (slot : CacheSlot)
    (calls : List TransitionCall) :
  (attemptAll (perform debugStr) slot calls).1
    = { slot with state := (attemptAll (perform debugStr) slot calls).1.state }
  := by
  let unchanged (slot' : CacheSlot) : Prop := slot' = { slot with state := slot'.state }
  apply attemptAll_invariant unchanged _ rfl
  intro slot₁ call slot₂ record hunchanged h
  obtain ⟨-, rfl, -⟩ := perform_eq_ok_iff.mp h
  dsimp only [unchanged] at hunchanged ⊢
  rw [hunchanged]

/-- No call succeeds after a record that led to a state that is not reversible. -/
theorem error_after_terminal {calls : List TransitionCall}
    {earlier later : List (Except String StateTransition)}
    (hresults : (attemptAll (perform debugStr) slot calls).2 = earlier ++ .ok record :: later)
    (hterminal : isReversible record.toState = false) :
  ∀ result ∈ later, ∃ e, result = .error e
  := by
  apply error_after_stuck CacheSlot.state _ hresults
  · intro slot' hslot'
    apply perform_ne_ok
    rw [hslot', hterminal]
  · intro slot call slot' record h
    apply (states_of_perform h).2

/-- Over every sequence of calls on a new slot, the records of the calls that succeed lead from
the active state to the state of the slot, and no call succeeds after a record that led to a
superseded or revoked state.  From a state some call succeeds exactly when it is reversible.  A
call that fails leaves the slot as it was, and the calls that succeed change nothing but the
state. -/
theorem history_of_new (sha3 : Bytes → Block 32) (debugStr : String → String) (now : UInt64)
    (instant : ℕ) (value : Bytes) (fingerprint : ComputationFingerprint) (ttl : ℕ)
    (mode : VerificationMode) (nodeId : String) (calls : List TransitionCall) :
  let slot₀ := new sha3 now instant value fingerprint ttl mode nodeId
  let after (calls : List TransitionCall) := (attemptAll (perform debugStr) slot₀ calls).1
  let results := (attemptAll (perform debugStr) slot₀ calls).2
  Path StateTransition.fromState StateTransition.toState .active (records results)
      (after calls).state ∧
    (∀ earlier later record, results = earlier ++ .ok record :: later →
      ((∃ successor, record.toState = .superseded successor) ∨
        ∃ reason revokedAt attestation,
          record.toState = .revoked reason revokedAt attestation) →
      ∀ result ∈ later, ∃ e, result = .error e) ∧
    (∀ slot : CacheSlot, (∃ call record, (attempt (perform debugStr) slot call).2 = .ok record) ↔
      isReversible slot.state) ∧
    (∀ earlier call e, (attempt (perform debugStr) (after earlier) call).2 = .error e →
      after (earlier ++ [call]) = after earlier) ∧
    after calls = { slot₀ with state := (after calls).state }
  := by
  intro slot₀ after results
  refine ⟨path_performAll debugStr slot₀ calls, ?_, exists_attempt_ok_iff debugStr, ?_,
    performAll_eq debugStr slot₀ calls⟩
  · rintro earlier later record hresults hterminal
    apply error_after_terminal hresults
    rcases hterminal with ⟨_, h⟩ | ⟨_, _, _, h⟩
    · rw [h]
      rfl
    · rw [h]
      rfl
  · intro earlier call e h
    dsimp only [after]
    rw [attemptAll_append]
    apply attempt_fst_of_error h

end CacheSlot

end Cachee
