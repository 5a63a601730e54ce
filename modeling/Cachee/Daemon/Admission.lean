import Cachee.Daemon.Quota

/-!
# The quota without flushes

While nothing is flushed, the counter of a key is the number of operations let through plus the
attempts that are being taken back.  An attempt that finds the counter at the limit overshoots it
for a moment, which rejects nothing that should pass, since by then the limit is reached.  The
counter has room for the overshoot unless limit and connections exceed its last value together.
-/

namespace Cachee

/-- An attempt to perform a command: it starts by looking the counter up. -/
def QuotaEvent.isAttempt : QuotaEvent → Bool
  | lookup _ => true
  | _ => false

/-- A step that adds one to the counter. -/
def QuotaEvent.isAdd : QuotaEvent → Bool
  | fetchAdd _ => true
  | _ => false

/-- A step of the flusher. -/
def QuotaEvent.isFlush : QuotaEvent → Bool
  | swap => true
  | postOk => true
  | postFail => true
  | _ => false

/-- A connection that has started an attempt and not added one yet. -/
def ConnPhase.isChecking : ConnPhase → Bool
  | missed => true
  | ready _ => true
  | _ => false

/-- A connection that is between two commands or has ended. -/
def ConnPhase.isFinished (phase : ConnPhase) : Prop := phase = .idle ∨ phase = .closed

namespace Tally

variable {limit n : ℕ} {t : Tally}

/-- After `n` additions the operations let through are exactly those below the limit, attempts
are taken back only at the limit, and the counter has both in it. -/
structure Exact (limit n : ℕ) (t : Tally) : Prop where
  counter : t.counter = (t.admitted + t.pending) % counterSize
  admitted : t.admitted = min n limit
  full : 0 < t.pending → t.admitted = limit

/-- With room for the pending attempts, one more addition is let through below the limit, and
only there. -/
theorem Exact.add (h : t.Exact limit n) (hroom : limit + t.pending < counterSize) :
  (t.step limit .add).Exact limit (n + 1) ∧ (limit ≤ t.counter ↔ t.admitted = limit)
  := by
  obtain ⟨hcounter, hadmitted, hfull⟩ := h
  rw [Nat.mod_eq_of_lt (by omega)] at hcounter
  have hiff : limit ≤ t.counter ↔ t.admitted = limit := by omega
  refine ⟨?_, hiff⟩
  rw [step]
  split
  · constructor
    · simp only [hcounter]
      congr 1
    · simp only
      omega
    · intro _
      simp only
      omega
  · constructor
    · simp only [hcounter]
      congr 1
      omega
    · simp only
      omega
    · simp only
      omega

/-- An attempt that is taken back leaves the rest. -/
theorem Exact.sub (h : t.Exact limit n) (hpending : 0 < t.pending)
    (hroom : limit + t.pending ≤ counterSize) :
  (t.step limit .sub).Exact limit n
  := by
  obtain ⟨hcounter, hadmitted, hfull⟩ := h
  have hlimit := hfull hpending
  have hlast : (limit + t.pending) % counterSize = 0 ∧ limit + t.pending = counterSize ∨
      (limit + t.pending) % counterSize = limit + t.pending ∧
        limit + t.pending < counterSize := by
    obtain heq | hlt := hroom.eq_or_lt
    · rw [heq, Nat.mod_self]
      omega
    · rw [Nat.mod_eq_of_lt hlt]
      omega
  rw [hlimit] at hcounter
  constructor
  · rw [step]
    simp only [hlimit]
    rw [Nat.mod_eq_of_lt (by omega)]
    split <;> omega
  · apply hadmitted
  · intro _
    apply hlimit

end Tally

namespace QuotaState

variable {limit : UInt64} {s s' : QuotaState} {events : List QuotaEvent}

/-! ### Connections, attempts and counters -/

/-- What the events of a run without flushes account for: the connections, the attempts that
have not added one yet, and at most one counter. -/
structure Census (events : List QuotaEvent) (s : QuotaState) : Prop where
  conns : s.conns.length = events.count .connect
  attempts : s.conns.countP ConnPhase.isChecking + events.countP QuotaEvent.isAdd
    = events.countP QuotaEvent.isAttempt
  cells : s.cells.length = if s.counters.isSome then 1 else 0

/-- A connection that changes its phase changes the attempts that have not added one yet. -/
theorem countP_setConn {i : ℕ} {old phase : ConnPhase} (hi : s.conns[i]? = some old) :
  (s.setConn i phase).conns.countP ConnPhase.isChecking + (if old.isChecking then 1 else 0)
    = s.conns.countP ConnPhase.isChecking + if phase.isChecking then 1 else 0
  := by
  obtain ⟨hlt, hget⟩ := List.getElem?_eq_some_iff.mp hi
  rw [QuotaState.setConn, List.countP_set hlt, hget]
  have hpos : old.isChecking = true → 0 < s.conns.countP ConnPhase.isChecking := by
    intro hold
    apply List.countP_pos_iff.mpr
    exact ⟨old, List.mem_of_getElem? hi, hold⟩
  cases hold : old.isChecking with
  | false => simp
  | true =>
    have := hpos hold
    simp only [if_true]
    omega

/-- The census after an event in which a connection changes its phase. -/
theorem Census.setConn {i : ℕ} {old phase : ConnPhase} {e : QuotaEvent} (h : s.Census events)
    (hi : s.conns[i]? = some old) (he : e ≠ .connect)
    (hcount : (if phase.isChecking then 1 else 0) + (if e.isAdd then 1 else 0)
      = (if old.isChecking then 1 else 0) + if e.isAttempt then 1 else 0) :
  (s.setConn i phase).Census (events ++ [e])
  := by
  have hset : (s.setConn i phase).conns.countP ConnPhase.isChecking
        + (if old.isChecking then 1 else 0)
      = s.conns.countP ConnPhase.isChecking + if phase.isChecking then 1 else 0 :=
    countP_setConn hi
  have hattempts := h.attempts
  constructor
  · rw [QuotaState.setConn, List.length_set, h.conns, List.count_append]
    simp [he]
  · rw [List.countP_append, List.countP_append, List.countP_singleton, List.countP_singleton]
    omega
  · apply h.cells

theorem Census.setCell (h : s.Census events) (c : ℕ) (v : UInt64) :
  (s.setCell c v).Census events
  := by
  constructor
  · apply h.conns
  · apply h.attempts
  · rw [QuotaState.setCell, List.length_set]
    apply h.cells

theorem Census.letThrough (h : s.Census events) :
  s.letThrough.Census events
  := ⟨h.conns, h.attempts, h.cells⟩

theorem Census.recordSub (h : s.Census events) (current : UInt64) :
  (s.recordSub current).Census events
  := ⟨h.conns, h.attempts, h.cells⟩

/-- The first counter is created. -/
theorem Census.create (h : s.Census events) (hc : s.counters = none) :
  Census events { s with cells := s.cells ++ [0], counters := some s.cells.length }
  := by
  constructor
  · apply h.conns
  · apply h.attempts
  · simp [h.cells, hc]

/-- A step keeps the census, except for a step of the flusher. -/
theorem Census.step {e : QuotaEvent} (h : s.Census events) (he : e.isFlush = false)
    (hstep : QuotaState.step limit s e = some s') :
  s'.Census (events ++ [e])
  := by
  cases e with
  | connect =>
    obtain rfl := Option.some.inj hstep
    have hattempts := h.attempts
    constructor
    · simp [h.conns]
    · simpa [QuotaEvent.isAdd, QuotaEvent.isAttempt, ConnPhase.isChecking] using hattempts
    · apply h.cells
  | disconnect i =>
    rw [QuotaState.step] at hstep
    split at hstep
    · rename_i hi
      obtain rfl := Option.some.inj hstep
      exact h.setConn hi (by rintro ⟨⟩) rfl
    · cases hstep
  | reauth i =>
    rw [QuotaState.step] at hstep
    split at hstep
    · obtain rfl := Option.some.inj hstep
      constructor
      · simp [h.conns]
      · simpa [QuotaEvent.isAdd, QuotaEvent.isAttempt] using h.attempts
      · apply h.cells
    · cases hstep
  | lookup i =>
    rw [QuotaState.step] at hstep
    split at hstep
    · rename_i hi
      split at hstep
      · obtain rfl := Option.some.inj hstep
        exact h.setConn hi (by rintro ⟨⟩) rfl
      · obtain rfl := Option.some.inj hstep
        exact h.setConn hi (by rintro ⟨⟩) rfl
    · cases hstep
  | create i =>
    rw [QuotaState.step] at hstep
    split at hstep
    · rename_i hi _
      split at hstep
      · obtain rfl := Option.some.inj hstep
        exact h.setConn hi (by rintro ⟨⟩) rfl
      · rename_i hc
        obtain rfl := Option.some.inj hstep
        exact (h.create hc).setConn hi (by rintro ⟨⟩) rfl
    · cases hstep
  | fetchAdd i =>
    rw [QuotaState.step] at hstep
    split at hstep
    · rename_i c hi
      dsimp only at hstep
      split at hstep
      · obtain rfl := Option.some.inj hstep
        exact (h.setCell c _).setConn hi (by rintro ⟨⟩) rfl
      · obtain rfl := Option.some.inj hstep
        exact (h.setCell c _).letThrough.setConn hi (by rintro ⟨⟩) rfl
    · cases hstep
  | fetchSub i =>
    rw [QuotaState.step] at hstep
    split at hstep
    · rename_i c hi
      obtain rfl := Option.some.inj hstep
      exact ((h.setCell c _).recordSub _).setConn hi (by rintro ⟨⟩) rfl
    · cases hstep
  | swap | postOk | postFail => cases he

/-! ### Exact quotas -/

/-- There are at most as many pending attempts as connections. -/
theorem Census.pending_le (h : s.Census events) :
  s.tally.pending ≤ events.count .connect
  := by
  rw [← h.conns]
  apply List.countP_le_length

/-- A connection that adds one to the counter has no pending attempt. -/
theorem Census.room_add (h : s.Census events) {i : ℕ}
    (hstep : QuotaState.step limit s (.fetchAdd i) = some s') :
  s.tally.pending < events.count .connect
  := by
  rw [QuotaState.step] at hstep
  split at hstep
  · rename_i c hi
    rw [← h.conns]
    apply lt_of_le_of_ne List.countP_le_length
    rw [Ne, List.countP_eq_length]
    intro hall
    cases hall _ (List.mem_of_getElem? hi)
  · cases hstep

/-- In a run without flushes, with room for the pending attempts of all connections, there is
one counter, and the attempts below the limit are let through. -/
theorem exact_of_run (hflush : ∀ e ∈ events, e.isFlush = false)
    (hroom : limit.toNat + events.count .connect ≤ counterSize)
    (hrun : run (step limit) initial events = some s) :
  s.OneCounter ∧ s.Census events ∧
    s.tally.Exact limit.toNat (events.countP QuotaEvent.isAdd)
  := by
  refine @run_invariant_history _ _ _ (fun events s => (∀ e ∈ events, e.isFlush = false) →
    limit.toNat + events.count .connect ≤ counterSize → s.OneCounter ∧ s.Census events ∧
      s.tally.Exact limit.toNat (events.countP QuotaEvent.isAdd)) _ ?_ ?_ _ _ hrun hflush hroom
  · intro es s₁ e s₂ hinv hstep hflush hroom
    have hflush' : ∀ e' ∈ es, e'.isFlush = false :=
      fun e' he' => hflush e' (List.mem_append_left _ he')
    have he : e.isFlush = false := hflush e (List.mem_append_right _ List.mem_cons_self)
    rw [List.count_append] at hroom
    obtain ⟨hone, hcensus, hexact⟩ := hinv hflush' (by omega)
    obtain ⟨hone', hallows, htally⟩ := step_tally hone hstep
    refine ⟨hone', hcensus.step he hstep, ?_⟩
    rw [htally, List.countP_append]
    cases e with
    | fetchAdd i =>
      apply (hexact.add _).1
      have hlt := hcensus.room_add hstep
      omega
    | fetchSub i =>
      apply hexact.sub hallows
      have hle := hcensus.pending_le
      omega
    | swap | postOk | postFail => cases he
    | _ => exact hexact
  · intro _ _
    refine ⟨oneCounter_initial, ⟨rfl, rfl, rfl⟩, rfl, ?_, ?_⟩
    · exact (Nat.zero_min _).symm
    · intro hpending
      cases hpending

/-- In a run without flushes all connections use one counter, and no attempt is rejected while
fewer operations than the limit have been let through.  When all attempts have finished, those
below the limit have been let through, and the counter is their number.  This holds for every
limit and number of connections that do not exceed the number of values of the counter together,
which leaves room for the attempts that are taken back. -/
theorem quota_exact (hflush : ∀ e ∈ events, e.isFlush = false)
    (hroom : limit.toNat + events.count .connect ≤ counterSize)
    (hrun : run (step limit) initial events = some s) :
  s.OneCounter ∧ s.cells.length ≤ 1 ∧
    (∀ i s', step limit s (.fetchAdd i) = some s' → s.admitted < limit.toNat →
      s'.admitted = s.admitted + 1) ∧
    ((∀ phase ∈ s.conns, phase.isFinished) →
      s.admitted = min (events.countP QuotaEvent.isAttempt) limit.toNat ∧
        s.tally.counter = min (events.countP QuotaEvent.isAttempt) limit.toNat)
  := by
  obtain ⟨hone, hcensus, hexact⟩ := exact_of_run hflush hroom hrun
  refine ⟨hone, ?_, ?_, ?_⟩
  · rw [hcensus.cells]
    split <;> omega
  · intro i s' hstep hlt
    have hpending := hcensus.room_add hstep
    obtain ⟨-, hiff⟩ := hexact.add (by omega)
    obtain ⟨-, -, htally⟩ := step_tally hone hstep
    have hadmitted : s'.admitted = (s.tally.step limit.toNat .add).admitted :=
      congrArg Tally.admitted htally
    have hbelow : ¬ limit.toNat ≤ s.tally.counter := fun hle => hlt.ne (hiff.mp hle)
    rw [hadmitted, Tally.step, if_neg hbelow]
    rfl
  · intro hfinished
    have hchecking : s.conns.countP ConnPhase.isChecking = 0 := by
      rw [List.countP_eq_zero]
      intro phase hphase
      obtain rfl | rfl := hfinished phase hphase
      · simp [ConnPhase.isChecking]
      · simp [ConnPhase.isChecking]
    have hpending : s.tally.pending = 0 := by
      rw [tally, List.countP_eq_zero]
      intro phase hphase
      obtain rfl | rfl := hfinished phase hphase
      · simp [ConnPhase.isRejected]
      · simp [ConnPhase.isRejected]
    have hattempts := hcensus.attempts
    rw [hchecking, Nat.zero_add] at hattempts
    have hadmitted := hexact.admitted
    have hlt := UInt64.toNat_lt limit
    rw [hattempts] at hadmitted
    use hadmitted
    rw [hexact.counter, hpending, hadmitted, Nat.add_zero, Nat.mod_eq_of_lt]
    rw [counterSize]
    omega

/-- Two connections that create the counter in a race, under the limit 1. -/
theorem quota_exact_race :
  ∃ s, run (step 1) initial [.connect, .connect, .lookup 0, .lookup 1, .create 1, .create 0,
      .fetchAdd 0, .fetchAdd 1, .fetchSub 1] = some s ∧ s.admitted = 1 ∧ s.tally.counter = 1
  := by
  have hrun : run (step 1) initial [.connect, .connect, .lookup 0, .lookup 1, .create 1, .create 0,
      .fetchAdd 0, .fetchAdd 1, .fetchSub 1] = some ⟨[1], some 0, [.idle, .idle], .idle, 1, 0,
        false⟩ := by
    decide
  obtain ⟨-, -, -, hfinished⟩ := quota_exact (by decide) (by decide) hrun
  exact ⟨_, hrun, hfinished (by simp [ConnPhase.isFinished])⟩

/-! ### Without room -/

/-- The greatest limit. -/
def maxLimit : UInt64 := 18446744073709551615

/-- Two connections between commands, after `n` operations were let through. -/
def afterOps (n : ℕ) : QuotaState where
  cells := [UInt64.ofNat n]
  counters := some 0
  conns := [.idle, .idle]
  flusher := .idle
  admitted := n
  acknowledged := 0
  subAtZero := false

/-- Attempts of the first connection, `n` of them. -/
def attempts (n : ℕ) : List QuotaEvent := (List.replicate n [.lookup 0, .fetchAdd 0]).flatten

/-- Below the greatest limit, an attempt is let through. -/
theorem run_attempt {n : ℕ} (hn : n < maxLimit.toNat) :
  run (step maxLimit) (afterOps n) [.lookup 0, .fetchAdd 0] = some (afterOps (n + 1))
  := by
  have hlt : n < 2 ^ 64 := hn.trans (UInt64.toNat_lt maxLimit)
  have hbelow : ¬ maxLimit ≤ UInt64.ofNat n := by
    rw [UInt64.le_iff_toNat_le, UInt64.toNat_ofNat_of_lt' hlt]
    omega
  simp [run, step, afterOps, value, setCell, setConn, letThrough, hbelow, UInt64.ofNat_add]

/-- All attempts below the greatest limit are let through. -/
theorem run_attempts {n m : ℕ} (h : n + m ≤ maxLimit.toNat) :
  run (step maxLimit) (afterOps n) (attempts m) = some (afterOps (n + m))
  := by
  induction m generalizing n with
  | zero => rfl
  | succ m ih =>
    have hattempts : attempts (m + 1) = [.lookup 0, .fetchAdd 0] ++ attempts m := by
      simp [attempts, List.replicate_succ]
    rw [hattempts, run_append, run_attempt (by omega), Option.bind_some, ih (by omega)]
    congr 2
    omega

/-- Two connections, of which the first performs its first command. -/
def overflowStart : List QuotaEvent :=
  [.connect, .connect, .lookup 0, .create 0, .fetchAdd 0]

/-- The first connection is rejected, which carries the counter past its last value, and the
second one attempts a command before one is taken back. -/
def overflowEnd : List QuotaEvent :=
  [.lookup 0, .fetchAdd 0, .lookup 1, .fetchAdd 1, .fetchSub 0]

/-- With two connections and the greatest limit, one operation more than the limit is let
through. -/
theorem exceeds_maxLimit :
  ∃ events s, (∀ e ∈ events, e.isFlush = false) ∧ events.count .connect = 2 ∧
    run (step maxLimit) initial events = some s ∧ (∀ phase ∈ s.conns, phase.isFinished) ∧
    min (events.countP QuotaEvent.isAttempt) maxLimit.toNat < s.admitted
  := by
  have hlast : 1 + (maxLimit.toNat - 1) = maxLimit.toNat := by decide
  have hstart : run (step maxLimit) initial overflowStart = some (afterOps 1) := by decide
  have hend : run (step maxLimit) (afterOps maxLimit.toNat) overflowEnd
      = some { afterOps 0 with admitted := maxLimit.toNat + 1 } := by decide
  have hflushStart : ∀ e ∈ overflowStart, e.isFlush = false := by decide
  have hflushEnd : ∀ e ∈ overflowEnd, e.isFlush = false := by decide
  have hmem : ∀ e ∈ attempts (maxLimit.toNat - 1), e = .lookup 0 ∨ e = .fetchAdd 0 := by
    intro e he
    obtain ⟨l, hl, he⟩ := List.mem_flatten.mp he
    obtain rfl := List.eq_of_mem_replicate hl
    simpa using he
  refine ⟨overflowStart ++ attempts (maxLimit.toNat - 1) ++ overflowEnd,
    { afterOps 0 with admitted := maxLimit.toNat + 1 }, ?_, ?_, ?_, ?_, ?_⟩
  · intro e he
    rcases List.mem_append.mp he with he | he
    · rcases List.mem_append.mp he with he | he
      · apply hflushStart e he
      · obtain rfl | rfl := hmem e he
        · rfl
        · rfl
    · apply hflushEnd e he
  · have hnone : (attempts (maxLimit.toNat - 1)).count .connect = 0 := by
      rw [List.count_eq_zero]
      intro he
      cases hmem _ he with
      | inl h => cases h
      | inr h => cases h
    rw [List.count_append, List.count_append, hnone]
    decide
  · rw [run_append, run_append, hstart, Option.bind_some, run_attempts hlast.le, Option.bind_some,
      hlast, hend]
  · simp [afterOps, ConnPhase.isFinished]
  · apply lt_of_le_of_lt (min_le_right _ _)
    exact Nat.lt_succ_self _

end QuotaState

end Cachee
