import Cachee.Library.Run
import Mathlib.Data.List.Count

/-!
# The operations quota

The commands of all connections with one key go through one atomic counter.  A connection looks
the counter up, creating it if there is none, adds one to it, and takes the one back in a second
step if the counter had reached the limit.  The flusher swaps the same counter to zero, reports
what it took, and adds it back if the report fails.

A `Tally` is what these steps amount to: the counter, the attempts between their two steps, what
the flusher holds, and the numbers of operations let through and reported so far.
-/

namespace Cachee

/-- Where a connection stands in the quota check of its current command. -/
inductive ConnPhase where
  /-- The connection has ended. -/
  | closed
  /-- Between two commands. -/
  | idle
  /-- No counter was found. -/
  | missed
  /-- The counter was found or created. -/
  | ready (counter : ℕ)
  /-- One was added to a counter that had reached the limit, and not taken back yet. -/
  | rejected (counter : ℕ)
  deriving DecidableEq

/-- What the flusher holds. -/
inductive FlusherPhase where
  | idle
  | holding (counter : ℕ) (ops : UInt64)
  deriving DecidableEq

/-- The counters that have been created, the one that is filed under the key, the connections
and the flusher; and a record of what has happened: the operations let through, those whose
report was acknowledged, and whether one was taken from a counter at zero. -/
structure QuotaState where
  cells : List UInt64
  counters : Option ℕ
  conns : List ConnPhase
  flusher : FlusherPhase
  admitted : ℕ
  acknowledged : ℕ
  subAtZero : Bool
  deriving DecidableEq

/-- The atomic steps of the connections and of the flusher. -/
inductive QuotaEvent where
  | connect
  | disconnect (i : ℕ)
  | reauth (i : ℕ)
  | lookup (i : ℕ)
  | create (i : ℕ)
  | fetchAdd (i : ℕ)
  | fetchSub (i : ℕ)
  | swap
  | postOk
  | postFail
  deriving DecidableEq

namespace QuotaState

/-- The state in which the daemon starts. -/
def initial : QuotaState where
  cells := []
  counters := none
  conns := []
  flusher := .idle
  admitted := 0
  acknowledged := 0
  subAtZero := false

/-- The value of a counter. -/
def value (s : QuotaState) (c : ℕ) : UInt64 := s.cells.getD c 0

def setCell (s : QuotaState) (c : ℕ) (v : UInt64) : QuotaState :=
  { s with cells := s.cells.set c v }

def setConn (s : QuotaState) (i : ℕ) (phase : ConnPhase) : QuotaState :=
  { s with conns := s.conns.set i phase }

def setFlusher (s : QuotaState) (phase : FlusherPhase) : QuotaState :=
  { s with flusher := phase }

/-- Record that an operation is let through. -/
def letThrough (s : QuotaState) : QuotaState := { s with admitted := s.admitted + 1 }

/-- Record that one is taken from a counter with the value `current`. -/
def recordSub (s : QuotaState) (current : UInt64) : QuotaState :=
  { s with subAtZero := s.subAtZero || current == 0 }

/-- Record that the report of some operations is acknowledged. -/
def acknowledge (s : QuotaState) (ops : UInt64) : QuotaState :=
  { s with acknowledged := s.acknowledged + ops.toNat }

/-- The state after a step, for the limit of the key. -/
def step (limit : UInt64) (s : QuotaState) : QuotaEvent → Option QuotaState
  | .connect => some { s with conns := s.conns ++ [.idle] }
  | .disconnect i =>
    match s.conns[i]? with
    | some .idle => some (s.setConn i .closed)
    | _ => none
  | .reauth i =>
    match s.conns[i]? with
    | some .idle => some s
    | _ => none
  | .lookup i =>
    match s.conns[i]? with
    | some .idle =>
      match s.counters with
      | some c => some (s.setConn i (.ready c))
      | none => some (s.setConn i .missed)
    | _ => none
  | .create i =>
    -- The flusher holds a read lock on the counters while it reports.
    match s.conns[i]?, s.flusher with
    | some .missed, .idle =>
      match s.counters with
      | some c => some (s.setConn i (.ready c))
      | none =>
        some ({ s with cells := s.cells ++ [0], counters := some s.cells.length }.setConn i
          (.ready s.cells.length))
    | _, _ => none
  | .fetchAdd i =>
    match s.conns[i]? with
    | some (.ready c) =>
      let current := s.value c
      let s := s.setCell c (current + 1)
      if limit ≤ current then some (s.setConn i (.rejected c))
      else some (s.letThrough.setConn i .idle)
    | _ => none
  | .fetchSub i =>
    match s.conns[i]? with
    | some (.rejected c) =>
      let current := s.value c
      some (((s.setCell c (current - 1)).recordSub current).setConn i .idle)
    | _ => none
  | .swap =>
    match s.flusher, s.counters with
    | .idle, some c =>
      let ops := s.value c
      -- There is nothing to report of a counter at zero.
      if ops = 0 then some s else some ((s.setCell c 0).setFlusher (.holding c ops))
    | .idle, none => some s
    | .holding _ _, _ => none
  | .postOk =>
    match s.flusher with
    | .holding _ ops => some ((s.acknowledge ops).setFlusher .idle)
    | .idle => none
  | .postFail =>
    match s.flusher with
    | .holding c ops => some ((s.setCell c (s.value c + ops)).setFlusher .idle)
    | .idle => none

end QuotaState

/-! ### Tallies -/

/-- The number of values of a counter. -/
def counterSize : ℕ := 2 ^ 64

/-- What matters about a state: the value of the counter, the attempts between their addition
and their subtraction, the operations held by the flusher, and the record. -/
structure Tally where
  counter : ℕ
  pending : ℕ
  held : ℕ
  admitted : ℕ
  acknowledged : ℕ
  subAtZero : Bool

/-- What a step does to a tally. -/
inductive TallyAct where
  | stay
  | add
  | sub
  | swap
  | acknowledge
  | restore

namespace Tally

/-- The tally after a step, for the limit of the key. -/
def step (limit : ℕ) (t : Tally) : TallyAct → Tally
  | .stay => t
  | .add =>
    if limit ≤ t.counter then
      { t with counter := (t.counter + 1) % counterSize, pending := t.pending + 1 }
    else { t with counter := (t.counter + 1) % counterSize, admitted := t.admitted + 1 }
  | .sub =>
    { t with
      counter := if t.counter = 0 then counterSize - 1 else t.counter - 1
      pending := t.pending - 1
      subAtZero := t.subAtZero || t.counter == 0 }
  | .swap => { t with counter := 0, held := t.counter }
  | .acknowledge => { t with held := 0, acknowledged := t.acknowledged + t.held }
  | .restore => { t with counter := (t.counter + t.held) % counterSize, held := 0 }

/-- Swapping a counter at zero changes nothing. -/
theorem step_swap_of_zero {limit : ℕ} {t : Tally} (hcounter : t.counter = 0)
    (hheld : t.held = 0) :
  t.step limit .swap = t
  := by
  obtain ⟨counter, pending, held, admitted, acknowledged, subAtZero⟩ := t
  simp only at hcounter hheld
  rw [step, hcounter, hheld]

/-- When a step can happen: only an attempt that is pending is taken back, and the flusher
swaps only when it holds nothing. -/
def Allows (t : Tally) : TallyAct → Prop
  | .sub => 0 < t.pending
  | .swap => t.held = 0
  | _ => True

end Tally

/-- What an event does to the tally. -/
def QuotaEvent.act : QuotaEvent → TallyAct
  | fetchAdd _ => .add
  | fetchSub _ => .sub
  | swap => .swap
  | postOk => .acknowledge
  | postFail => .restore
  | _ => .stay

/-- A connection that has added one and not taken it back. -/
def ConnPhase.isRejected : ConnPhase → Bool
  | rejected _ => true
  | _ => false

/-- The operations that the flusher holds. -/
def FlusherPhase.held : FlusherPhase → ℕ
  | holding _ ops => ops.toNat
  | idle => 0

namespace QuotaState

/-- The tally of a state. -/
def tally (s : QuotaState) : Tally where
  counter :=
    match s.counters with
    | some c => (s.value c).toNat
    | none => 0
  pending := s.conns.countP ConnPhase.isRejected
  held := s.flusher.held
  admitted := s.admitted
  acknowledged := s.acknowledged
  subAtZero := s.subAtZero

/-- All connections and the flusher use the counter that is filed under the key. -/
structure OneCounter (s : QuotaState) : Prop where
  ready : ∀ (i c : ℕ), s.conns[i]? = some (.ready c) → s.counters = some c
  rejected : ∀ (i c : ℕ), s.conns[i]? = some (.rejected c) → s.counters = some c
  holding : ∀ c ops, s.flusher = .holding c ops → s.counters = some c
  created : ∀ c, s.counters = some c → c < s.cells.length

theorem oneCounter_initial :
  initial.OneCounter
  := by
  constructor
  · intro i c h
    simp [initial] at h
  · intro i c h
    simp [initial] at h
  · intro c ops h
    cases h
  · intro c h
    cases h

/-! ### The tally of a step -/

section Updates

variable {s : QuotaState} {i c : ℕ} {old phase : ConnPhase}

/-- The phases that use no counter other than the one that is filed under the key. -/
def UsesFiled (s : QuotaState) (phase : ConnPhase) : Prop :=
  ∀ c, phase = .ready c ∨ phase = .rejected c → s.counters = some c

/-- A phase without a counter uses no other one. -/
theorem usesFiled_of_ne (hready : ∀ c, phase ≠ .ready c) (hrejected : ∀ c, phase ≠ .rejected c) :
  s.UsesFiled phase
  := by
  rintro c (hphase | hphase)
  · exact absurd hphase (hready c)
  · exact absurd hphase (hrejected c)

theorem usesFiled_ready (hc : s.counters = some c) :
  s.UsesFiled (.ready c)
  := by
  rintro c' (hphase | hphase)
  · obtain rfl := ConnPhase.ready.inj hphase
    apply hc
  · cases hphase

theorem usesFiled_rejected (hc : s.counters = some c) :
  s.UsesFiled (.rejected c)
  := by
  rintro c' (hphase | hphase)
  · cases hphase
  · obtain rfl := ConnPhase.rejected.inj hphase
    apply hc

/-- A connection may change to a phase that uses the filed counter. -/
theorem OneCounter.setConn (h : s.OneCounter) (hphase : s.UsesFiled phase) :
  (s.setConn i phase).OneCounter
  := by
  constructor
  · intro j c hj
    simp only [QuotaState.setConn, List.getElem?_set] at hj ⊢
    split at hj
    · split at hj
      · apply hphase c (Or.inl (Option.some.inj hj))
      · cases hj
    · apply h.ready j c hj
  · intro j c hj
    simp only [QuotaState.setConn, List.getElem?_set] at hj ⊢
    split at hj
    · split at hj
      · apply hphase c (Or.inr (Option.some.inj hj))
      · cases hj
    · apply h.rejected j c hj
  · apply h.holding
  · apply h.created

/-- A new connection uses no counter. -/
theorem OneCounter.connect (h : s.OneCounter) :
  OneCounter { s with conns := s.conns ++ [.idle] }
  := by
  have hnew : ∀ (j : ℕ) (phase : ConnPhase), (s.conns ++ [.idle])[j]? = some phase →
      s.conns[j]? = some phase ∨ phase = .idle := by
    intro j phase hj
    rw [List.getElem?_append] at hj
    split at hj
    · left
      apply hj
    · right
      rw [List.getElem?_singleton] at hj
      split at hj
      · apply (Option.some.inj hj).symm
      · cases hj
  constructor
  · intro j c hj
    rcases hnew j _ hj with hold | hidle
    · apply h.ready j c hold
    · cases hidle
  · intro j c hj
    rcases hnew j _ hj with hold | hidle
    · apply h.rejected j c hold
    · cases hidle
  · apply h.holding
  · apply h.created

theorem OneCounter.setCell (h : s.OneCounter) (v : UInt64) :
  (s.setCell c v).OneCounter
  := by
  constructor
  · apply h.ready
  · apply h.rejected
  · apply h.holding
  · intro c' hc'
    rw [QuotaState.setCell, List.length_set]
    apply h.created c' hc'

theorem OneCounter.letThrough (h : s.OneCounter) :
  s.letThrough.OneCounter
  := ⟨h.ready, h.rejected, h.holding, h.created⟩

theorem OneCounter.recordSub (h : s.OneCounter) (current : UInt64) :
  (s.recordSub current).OneCounter
  := ⟨h.ready, h.rejected, h.holding, h.created⟩

theorem OneCounter.acknowledge (h : s.OneCounter) (ops : UInt64) :
  (s.acknowledge ops).OneCounter
  := ⟨h.ready, h.rejected, h.holding, h.created⟩

theorem OneCounter.setFlusher (h : s.OneCounter) {flusher : FlusherPhase}
    (hholding : ∀ c ops, flusher = .holding c ops → s.counters = some c) :
  (s.setFlusher flusher).OneCounter
  := ⟨h.ready, h.rejected, hholding, h.created⟩

/-- A connection that changes its phase changes the pending attempts. -/
theorem tally_setConn (hi : s.conns[i]? = some old) :
  (s.setConn i phase).tally =
    { s.tally with
      pending := s.tally.pending - (if old.isRejected then 1 else 0)
        + if phase.isRejected then 1 else 0 }
  := by
  obtain ⟨hlt, hget⟩ := List.getElem?_eq_some_iff.mp hi
  simp only [tally, QuotaState.setConn, List.countP_set hlt, hget]
  rfl

/-- Setting the counter that is filed under the key sets the counter of the tally. -/
theorem tally_setCell (h : s.OneCounter) (hc : s.counters = some c) (v : UInt64) :
  (s.setCell c v).tally = { s.tally with counter := v.toNat }
  := by
  have hlt := h.created c hc
  have hget : (s.setCell c v).value c = v := by
    simp [value, QuotaState.setCell, List.getD_eq_getElem?_getD, hlt]
  simp only [tally]
  rw [show (s.setCell c v).counters = some c from hc]
  simp only [hget]
  rfl

theorem tally_letThrough :
  s.letThrough.tally = { s.tally with admitted := s.tally.admitted + 1 }
  := rfl

theorem tally_recordSub (current : UInt64) :
  (s.recordSub current).tally =
    { s.tally with subAtZero := s.tally.subAtZero || current == 0 }
  := rfl

theorem tally_acknowledge (ops : UInt64) :
  (s.acknowledge ops).tally =
    { s.tally with acknowledged := s.tally.acknowledged + ops.toNat }
  := rfl

theorem tally_setFlusher (flusher : FlusherPhase) :
  (s.setFlusher flusher).tally = { s.tally with held := flusher.held }
  := rfl

theorem held_tally {ops : UInt64} (hflusher : s.flusher = .holding c ops) :
  s.tally.held = ops.toNat
  := by
  simp [tally, hflusher, FlusherPhase.held]

/-- The counter of the tally is the value of the filed counter. -/
theorem counter_tally (hc : s.counters = some c) :
  s.tally.counter = (s.value c).toNat
  := by
  simp [tally, hc]

/-- A rejected attempt is pending. -/
theorem pending_pos (hi : s.conns[i]? = some (.rejected c)) :
  0 < s.tally.pending
  := by
  apply List.countP_pos_iff.mpr
  use .rejected c, List.mem_of_getElem? hi
  rfl

end Updates

variable {limit : UInt64} {s s' : QuotaState}

/-- A connection adds one to the counter. -/
theorem step_fetchAdd {i : ℕ} (h : s.OneCounter)
    (hstep : step limit s (.fetchAdd i) = some s') :
  s'.OneCounter ∧ s'.tally = s.tally.step limit.toNat .add
  := by
  rw [step] at hstep
  split at hstep
  · rename_i c hi
    have hc := h.ready i c hi
    have hcount := counter_tally hc
    have hnext : (s.value c + 1).toNat = (s.tally.counter + 1) % counterSize := by
      rw [hcount, UInt64.toNat_add]
      rfl
    have hle : limit ≤ s.value c ↔ limit.toNat ≤ s.tally.counter := by
      rw [hcount]
      rfl
    have hset := tally_setCell h hc (s.value c + 1)
    dsimp only at hstep
    split at hstep
    · rename_i hlimit
      obtain rfl := Option.some.inj hstep
      constructor
      · apply (h.setCell _).setConn (usesFiled_rejected hc)
      · rw [tally_setConn (s := s.setCell c (s.value c + 1)) hi, hset, hnext, Tally.step,
          if_pos (hle.mp hlimit)]
        rfl
    · rename_i hlimit
      obtain rfl := Option.some.inj hstep
      constructor
      · apply (h.setCell _).letThrough.setConn
        exact usesFiled_of_ne nofun nofun
      · rw [tally_setConn (s := (s.setCell c (s.value c + 1)).letThrough) hi, tally_letThrough, hset,
          hnext, Tally.step, if_neg (fun hge => hlimit (hle.mpr hge))]
        rfl
  · cases hstep

/-- Taking one from a counter wraps it around at zero. -/
theorem toNat_sub_one (v : UInt64) :
  (v - 1).toNat = if v.toNat = 0 then counterSize - 1 else v.toNat - 1
  := by
  have hlt := UInt64.toNat_lt v
  rw [UInt64.toNat_sub, UInt64.toNat_one]
  unfold counterSize
  split
  · rename_i hzero
    rw [hzero]
    rfl
  · omega

/-- A connection takes one back from the counter. -/
theorem step_fetchSub {i : ℕ} (h : s.OneCounter)
    (hstep : step limit s (.fetchSub i) = some s') :
  s'.OneCounter ∧ 0 < s.tally.pending ∧ s'.tally = s.tally.step limit.toNat .sub
  := by
  rw [step] at hstep
  split at hstep
  · rename_i c hi
    obtain rfl := Option.some.inj hstep
    have hc := h.rejected i c hi
    have hcount := counter_tally hc
    have hnext : (s.value c - 1).toNat =
        if s.tally.counter = 0 then counterSize - 1 else s.tally.counter - 1 := by
      rw [hcount]
      apply toNat_sub_one
    have hzero : (s.value c == 0) = (s.tally.counter == 0) := by
      rw [hcount, Bool.eq_iff_iff, beq_iff_eq, beq_iff_eq, ← UInt64.toNat_inj]
      rfl
    refine ⟨?_, pending_pos hi, ?_⟩
    · apply ((h.setCell _).recordSub _).setConn
      exact usesFiled_of_ne nofun nofun
    · rw [tally_setConn (s := (s.setCell c (s.value c - 1)).recordSub (s.value c)) hi,
        tally_recordSub, tally_setCell h hc, hnext, hzero]
      rfl
  · cases hstep

/-- The flusher takes the whole counter. -/
theorem step_swap (h : s.OneCounter) (hstep : step limit s .swap = some s') :
  s'.OneCounter ∧ s.tally.held = 0 ∧ s'.tally = s.tally.step limit.toNat .swap
  := by
  rw [step] at hstep
  split at hstep
  · rename_i c hflusher hc
    have hheld : s.tally.held = 0 := by simp [tally, FlusherPhase.held, hflusher]
    have hcount := counter_tally hc
    dsimp only at hstep
    split at hstep
    · rename_i hzero
      obtain rfl := Option.some.inj hstep
      refine ⟨h, hheld, ?_⟩
      rw [hzero, UInt64.toNat_zero] at hcount
      rw [Tally.step_swap_of_zero hcount hheld]
    · obtain rfl := Option.some.inj hstep
      refine ⟨?_, hheld, ?_⟩
      · apply (h.setCell 0).setFlusher
        intro c' ops hholding
        obtain ⟨rfl, -⟩ := FlusherPhase.holding.inj hholding
        apply hc
      · rw [tally_setFlusher, tally_setCell h hc, Tally.step, hcount]
        rfl
  · rename_i hflusher hc
    obtain rfl := Option.some.inj hstep
    refine ⟨h, by simp [tally, FlusherPhase.held, hflusher], ?_⟩
    simp [tally, Tally.step, FlusherPhase.held, hflusher, hc]
  · cases hstep

/-- The report of what the flusher holds is acknowledged. -/
theorem step_postOk (h : s.OneCounter) (hstep : step limit s .postOk = some s') :
  s'.OneCounter ∧ s'.tally = s.tally.step limit.toNat .acknowledge
  := by
  rw [step] at hstep
  split at hstep
  · rename_i c ops hflusher
    obtain rfl := Option.some.inj hstep
    constructor
    · apply (h.acknowledge ops).setFlusher
      rintro c' ops' ⟨⟩
    · rw [tally_setFlusher, tally_acknowledge, Tally.step, held_tally hflusher]
      rfl
  · cases hstep

/-- The report of what the flusher holds fails, and the flusher adds it back. -/
theorem step_postFail (h : s.OneCounter) (hstep : step limit s .postFail = some s') :
  s'.OneCounter ∧ s'.tally = s.tally.step limit.toNat .restore
  := by
  rw [step] at hstep
  split at hstep
  · rename_i c ops hflusher
    obtain rfl := Option.some.inj hstep
    have hc := h.holding c ops hflusher
    constructor
    · apply (h.setCell (s.value c + ops)).setFlusher
      rintro c' ops' ⟨⟩
    · rw [tally_setFlusher, tally_setCell h hc, Tally.step, held_tally hflusher,
        counter_tally hc, UInt64.toNat_add]
      rfl
  · cases hstep

/-- A connection between the steps on the counter changes its phase. -/
theorem stay_setConn {i : ℕ} {old phase : ConnPhase} (h : s.OneCounter)
    (hi : s.conns[i]? = some old) (hold : old.isRejected = false)
    (hphase : phase.isRejected = false) (huses : s.UsesFiled phase) :
  (s.setConn i phase).OneCounter ∧ (s.setConn i phase).tally = s.tally
  := by
  use h.setConn huses
  rw [tally_setConn hi, hold, hphase]
  rfl

/-- The first counter is created at zero. -/
theorem stay_create (h : s.OneCounter) (hc : s.counters = none) :
  OneCounter { s with cells := s.cells ++ [0], counters := some s.cells.length } ∧
    tally { s with cells := s.cells ++ [0], counters := some s.cells.length } = s.tally
  := by
  have hnone : ∀ c, s.counters ≠ some c := by
    intro c hsome
    rw [hc] at hsome
    cases hsome
  constructor
  · constructor
    · intro i c hi
      exact absurd (h.ready i c hi) (hnone c)
    · intro i c hi
      exact absurd (h.rejected i c hi) (hnone c)
    · intro c ops hflusher
      exact absurd (h.holding c ops hflusher) (hnone c)
    · rintro c ⟨⟩
      simp
  · simp [tally, hc, value]

/-- Looking a counter up, creating one, and the other steps of a connection between commands
change nothing in the tally. -/
theorem step_stay {e : QuotaEvent} (h : s.OneCounter) (hstep : step limit s e = some s')
    (he : e.act = .stay) :
  s'.OneCounter ∧ s'.tally = s.tally
  := by
  cases e with
  | connect =>
    obtain rfl := Option.some.inj hstep
    use h.connect
    simp [tally, ConnPhase.isRejected, value]
  | disconnect i =>
    rw [step] at hstep
    split at hstep
    · rename_i hi
      obtain rfl := Option.some.inj hstep
      apply stay_setConn h hi rfl rfl
      exact usesFiled_of_ne nofun nofun
    · cases hstep
  | reauth i =>
    rw [step] at hstep
    split at hstep
    · obtain rfl := Option.some.inj hstep
      exact ⟨h, rfl⟩
    · cases hstep
  | lookup i =>
    rw [step] at hstep
    split at hstep
    · rename_i hi
      split at hstep
      · rename_i c hc
        obtain rfl := Option.some.inj hstep
        apply stay_setConn h hi rfl rfl (usesFiled_ready hc)
      · obtain rfl := Option.some.inj hstep
        apply stay_setConn h hi rfl rfl
        exact usesFiled_of_ne nofun nofun
    · cases hstep
  | create i =>
    rw [step] at hstep
    split at hstep
    · rename_i hi _
      split at hstep
      · rename_i c hc
        obtain rfl := Option.some.inj hstep
        apply stay_setConn h hi rfl rfl (usesFiled_ready hc)
      · rename_i hc
        obtain rfl := Option.some.inj hstep
        obtain ⟨hone, htally⟩ := stay_create h hc
        rw [← htally]
        apply stay_setConn hone hi rfl rfl (usesFiled_ready rfl)
    · cases hstep
  | fetchAdd _ => cases he
  | fetchSub _ => cases he
  | swap => cases he
  | postOk => cases he
  | postFail => cases he

/-- A step of the connections or of the flusher is a step of the tally. -/
theorem step_tally {e : QuotaEvent} (h : s.OneCounter) (hstep : step limit s e = some s') :
  s'.OneCounter ∧ s.tally.Allows e.act ∧ s'.tally = s.tally.step limit.toNat e.act
  := by
  cases e with
  | fetchAdd i =>
    obtain ⟨hone, htally⟩ := step_fetchAdd h hstep
    exact ⟨hone, trivial, htally⟩
  | fetchSub i => apply step_fetchSub h hstep
  | swap => apply step_swap h hstep
  | postOk =>
    obtain ⟨hone, htally⟩ := step_postOk h hstep
    exact ⟨hone, trivial, htally⟩
  | postFail =>
    obtain ⟨hone, htally⟩ := step_postFail h hstep
    exact ⟨hone, trivial, htally⟩
  | _ =>
    obtain ⟨hone, htally⟩ := step_stay h hstep rfl
    exact ⟨hone, trivial, htally⟩

end QuotaState

end Cachee
