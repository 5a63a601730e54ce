import Cachee.Daemon.Quota

/-!
# What the quota guarantees while usage is flushed

The counter of a key serves as the quota and as the usage that has not been reported yet, and a
flush sets it to zero.  So the quota bounds the operations since the last flush only, and a
flush between the two steps of a rejected attempt makes the second one wrap the counter around.
The quota holds, and no operation is lost or invented, in the runs in which this does not
happen.
-/

namespace Cachee

namespace Tally

/-! ### Conditions on a step -/

/-- The step does not carry the counter past its last value. -/
def NoWrap (t : Tally) : TallyAct → Prop
  | .add => t.counter + 1 < counterSize
  | .restore => t.counter + t.held < counterSize
  | _ => True

/-- The step lets an operation through only if the counter is below the limit together with
all that flushes have taken from it. -/
def CountsFlushed (limit : ℕ) (t : Tally) : TallyAct → Prop
  | .add => limit ≤ t.counter ∨ t.counter + t.held + t.acknowledged < limit
  | _ => True

/-- The step does not swap the counter while an attempt is between its two steps. -/
def SwapsSettled (t : Tally) : TallyAct → Prop
  | .swap => t.pending = 0
  | _ => True

instance (t : Tally) : (a : TallyAct) → Decidable (t.NoWrap a)
  | .add => inferInstanceAs (Decidable (t.counter + 1 < counterSize))
  | .restore => inferInstanceAs (Decidable (t.counter + t.held < counterSize))
  | .stay => isTrue trivial
  | .sub => isTrue trivial
  | .swap => isTrue trivial
  | .acknowledge => isTrue trivial

instance (limit : ℕ) (t : Tally) : (a : TallyAct) → Decidable (t.CountsFlushed limit a)
  | .add => inferInstanceAs
      (Decidable (limit ≤ t.counter ∨ t.counter + t.held + t.acknowledged < limit))
  | .restore => isTrue trivial
  | .stay => isTrue trivial
  | .sub => isTrue trivial
  | .swap => isTrue trivial
  | .acknowledge => isTrue trivial

instance (t : Tally) : (a : TallyAct) → Decidable (t.SwapsSettled a)
  | .swap => inferInstanceAs (Decidable (t.pending = 0))
  | .add => isTrue trivial
  | .restore => isTrue trivial
  | .stay => isTrue trivial
  | .sub => isTrue trivial
  | .acknowledge => isTrue trivial

/-! ### Invariants of the steps -/

/-- The operations let through and the pending attempts are covered by the counter and what
flushes have taken from it. -/
def Covered (t : Tally) : Prop :=
  t.admitted + t.pending ≤ t.counter + t.held + t.acknowledged

/-- Each operation is accounted for once, and the counter has the pending attempts in it. -/
structure Balanced (t : Tally) : Prop where
  accounted : t.acknowledged + t.held + t.counter = t.admitted + t.pending
  pending_le : t.pending ≤ t.counter
  subAtZero : t.subAtZero = false

variable {limit : ℕ} {t : Tally} {a : TallyAct}

/-- Adding one does not wrap the counter. -/
theorem next_of_noWrap (hwrap : t.NoWrap .add) :
  (t.counter + 1) % counterSize = t.counter + 1
  := by
  have hlt : t.counter + 1 < counterSize := hwrap
  rw [Nat.mod_eq_of_lt hlt]

/-- Adding back what the flusher holds does not wrap the counter. -/
theorem restored_of_noWrap (hwrap : t.NoWrap .restore) :
  (t.counter + t.held) % counterSize = t.counter + t.held
  := by
  have hlt : t.counter + t.held < counterSize := hwrap
  rw [Nat.mod_eq_of_lt hlt]

/-- A step that does not wrap the counter keeps the operations covered. -/
theorem Covered.step (h : t.Covered) (hallows : t.Allows a)
    (hwrap : t.NoWrap a) :
  (t.step limit a).Covered
  := by
  unfold Covered at *
  cases a with
  | stay => apply h
  | add =>
    have hnext : (t.counter + 1) % counterSize = t.counter + 1 := next_of_noWrap hwrap
    rw [Tally.step]
    split
    · simp only [hnext]
      omega
    · simp only [hnext]
      omega
  | sub =>
    have hpending : 0 < t.pending := hallows
    rw [Tally.step]
    generalize counterSize - 1 = last
    simp only
    split
    · omega
    · omega
  | swap =>
    have hheld : t.held = 0 := hallows
    simp only [Tally.step]
    omega
  | acknowledge =>
    simp only [Tally.step]
    omega
  | restore =>
    have hnext : (t.counter + t.held) % counterSize = t.counter + t.held :=
      restored_of_noWrap hwrap
    simp only [Tally.step, hnext]
    omega

/-- The quota is kept by a step that counts what was flushed. -/
theorem admitted_step_le (h : t.Covered) (hquota : t.admitted ≤ limit)
    (hcounts : t.CountsFlushed limit a) :
  (t.step limit a).admitted ≤ limit
  := by
  unfold Covered at h
  cases a with
  | add =>
    have hcounts : limit ≤ t.counter ∨ t.counter + t.held + t.acknowledged < limit := hcounts
    rw [Tally.step]
    split
    · apply hquota
    · simp only
      omega
  | _ => apply hquota

/-- A step that neither wraps the counter nor swaps it during an attempt keeps the balance. -/
theorem Balanced.step (h : t.Balanced) (hallows : t.Allows a)
    (hwrap : t.NoWrap a) (hsettled : t.SwapsSettled a) :
  (t.step limit a).Balanced
  := by
  obtain ⟨haccounted, hle, hzero⟩ := h
  cases a with
  | stay => exact ⟨haccounted, hle, hzero⟩
  | add =>
    have hnext : (t.counter + 1) % counterSize = t.counter + 1 := next_of_noWrap hwrap
    rw [Tally.step]
    split
    · constructor
      · simp only [hnext]
        omega
      · simp only [hnext]
        omega
      · apply hzero
    · constructor
      · simp only [hnext]
        omega
      · simp only [hnext]
        omega
      · apply hzero
  | sub =>
    have hpending : 0 < t.pending := hallows
    have hpos : t.counter ≠ 0 := by omega
    rw [Tally.step, if_neg hpos]
    constructor
    · simp only
      omega
    · simp only
      omega
    · simp only [hzero, Bool.false_or, beq_eq_false_iff_ne]
      apply hpos
  | swap =>
    have hheld : t.held = 0 := hallows
    have hpending : t.pending = 0 := hsettled
    constructor
    · simp only [Tally.step]
      omega
    · simp only [Tally.step]
      omega
    · apply hzero
  | acknowledge =>
    constructor
    · simp only [Tally.step]
      omega
    · apply hle
    · apply hzero
  | restore =>
    have hnext : (t.counter + t.held) % counterSize = t.counter + t.held :=
      restored_of_noWrap hwrap
    constructor
    · simp only [Tally.step, hnext]
      omega
    · simp only [Tally.step, hnext]
      omega
    · apply hzero

end Tally

/-! ### Runs -/

namespace QuotaState

variable {limit : UInt64} {events : List QuotaEvent} {s : QuotaState}

/-- No more operations are let through than the limit, in a run that never wraps the counter
and whose every operation let through is below the limit together with all that flushes have
taken from the counter. -/
theorem admitted_le_of_run
    (hcond : MeetsAlong (step limit)
      (fun s e => s.tally.NoWrap e.act ∧ s.tally.CountsFlushed limit.toNat e.act) initial events)
    (hrun : run (step limit) initial events = some s) :
  s.admitted ≤ limit.toNat
  := by
  have hinv : s.OneCounter ∧ s.tally.Covered ∧ s.tally.admitted ≤ limit.toNat := by
    apply run_invariant _ _ hcond hrun
    · rintro s₁ e s₂ ⟨hone, hcovered, hquota⟩ ⟨hwrap, hcounts⟩ hstep
      obtain ⟨hone', hallows, htally⟩ := step_tally hone hstep
      rw [htally]
      exact ⟨hone', hcovered.step hallows hwrap,
        Tally.admitted_step_le hcovered hquota hcounts⟩
    · refine ⟨oneCounter_initial, le_rfl, Nat.zero_le _⟩
  apply hinv.2.2

/-- A single operation is let through under the limit 1 before its usage is flushed, and a
second one after that. -/
def flushedRun : List QuotaEvent :=
  [.connect, .lookup 0, .create 0, .fetchAdd 0, .swap, .postOk, .lookup 0, .fetchAdd 0]

/-- Two operations are let through in this run. -/
theorem admitted_flushedRun :
  (run (step 1) initial flushedRun).map admitted = some 2
  := by
  decide

/-- With the limit 2, the same commands and a report that fails keep the quota. -/
theorem admitted_le_failedReport :
  ∃ s, run (step 2) initial [.connect, .lookup 0, .create 0, .fetchAdd 0, .swap, .postFail,
      .lookup 0, .fetchAdd 0] = some s ∧ s.admitted ≤ 2
  := ⟨_, rfl, @admitted_le_of_run 2 [.connect, .lookup 0, .create 0, .fetchAdd 0, .swap,
    .postFail, .lookup 0, .fetchAdd 0] _ (by decide) rfl⟩

/-- One is never taken from a counter at zero, and every operation is accounted for, in a run
that never wraps the counter and that never swaps it while an attempt is between its two
steps. -/
theorem balanced_of_run
    (hcond : MeetsAlong (step limit)
      (fun s e => s.tally.NoWrap e.act ∧ s.tally.SwapsSettled e.act) initial events)
    (hrun : run (step limit) initial events = some s) :
  s.subAtZero = false ∧
    s.tally.acknowledged + s.tally.held + s.tally.counter = s.tally.admitted + s.tally.pending
  := by
  have hinv : s.OneCounter ∧ s.tally.Balanced := by
    apply run_invariant _ _ hcond hrun
    · rintro s₁ e s₂ ⟨hone, hbalanced⟩ ⟨hwrap, hsettled⟩ hstep
      obtain ⟨hone', hallows, htally⟩ := step_tally hone hstep
      rw [htally]
      exact ⟨hone', hbalanced.step hallows hwrap hsettled⟩
    · exact ⟨oneCounter_initial, rfl, le_rfl, rfl⟩
  exact ⟨hinv.2.subAtZero, hinv.2.accounted⟩

/-- A rejected attempt under the limit 1 whose two steps are separated by a flush. -/
def interruptedRun : List QuotaEvent :=
  [.connect, .lookup 0, .create 0, .fetchAdd 0, .lookup 0, .fetchAdd 0, .swap, .fetchSub 0]

/-- The subtraction wraps the counter, and two operations are held of one that was let through. -/
theorem subAtZero_interruptedRun :
  (run (step 1) initial interruptedRun).map
      (fun s => (s.subAtZero, s.tally.counter, s.tally.held, s.tally.admitted))
    = some (true, 2 ^ 64 - 1, 2, 1)
  := by
  decide

/-- The same attempt with a flush after both of its steps. -/
theorem balanced_settledRun :
  ∃ s, run (step 1) initial [.connect, .lookup 0, .create 0, .fetchAdd 0, .lookup 0,
      .fetchAdd 0, .fetchSub 0, .swap] = some s ∧ s.subAtZero = false
  := ⟨_, rfl, (@balanced_of_run 1 [.connect, .lookup 0, .create 0, .fetchAdd 0, .lookup 0,
    .fetchAdd 0, .fetchSub 0, .swap] _ (by decide) rfl).1⟩

end QuotaState

end Cachee
