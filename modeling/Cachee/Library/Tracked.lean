import Cachee.Library.Cursor

/-!
# Tracking a position

Computations that record every position they move to, with sums of offsets in 64-bit
arithmetic.  `StaysWithin lo hi next x y` says that the tracked computation `x` has the outcome of
`y`, that the positions it records start from `lo`, do not decrease and do not pass `hi`, and that
its result stands at a position after all of them.
-/

/-- A computation that records the positions it moves to. -/
structure Tracked (α : Type) where
  outcome : Outcome α
  positions : List ℕ

namespace Tracked

variable {α β : Type}

/-- A computation that does not move. -/
def lift (x : Outcome α) : Tracked α := ⟨x, []⟩

instance : Monad Tracked where
  pure a := ⟨.ok a, []⟩
  bind x f :=
    match x.outcome with
    | .ok a => ⟨(f a).outcome, x.positions ++ (f a).positions⟩
    | .error e => ⟨.error e, x.positions⟩

/-- The sum of two offsets, which panics when it does not fit in 64 bits. -/
def offset (a b : ℕ) : Outcome ℕ := if a + b < 2 ^ 64 then .ok (a + b) else .error .panic

/-- Move a position forward. -/
def advance (pos n : ℕ) : Tracked ℕ :=
  match offset pos n with
  | .ok pos' => ⟨.ok pos', [pos']⟩
  | .error e => ⟨.error e, []⟩

/-- The result of a computation, or a value in place of its error. -/
def orDefault (x : Tracked α) (a : α) : Tracked α := ⟨unwrapOr x.outcome a, x.positions⟩

theorem offset_eq {a b : ℕ} (h : a + b < 2 ^ 64) :
  offset a b = .ok (a + b)
  := if_pos h

theorem lift_ok_bind (a : α) (f : α → Tracked β) :
  (lift (.ok a) >>= f) = f a
  := rfl

/-- `StaysWithin lo hi next x y`: the tracked computation `x` has the outcome of `y`, its positions
start from `lo`, do not decrease and do not pass `hi`, and on a result `a` they do not pass the
position `next a`. -/
structure StaysWithin (lo hi : ℕ) (next : α → ℕ) (x : Tracked α) (y : Outcome α) : Prop where
  outcome : x.outcome = y
  sorted : (lo :: x.positions).Pairwise (· ≤ ·)
  bounded : ∀ p ∈ x.positions, p ≤ hi
  next_le : ∀ a, y = .ok a → next a ≤ hi
  le_next : ∀ a, y = .ok a → ∀ p ∈ lo :: x.positions, p ≤ next a

section StaysWithin

variable {lo hi : ℕ} {next : α → ℕ} {next' : β → ℕ} {x : Tracked α} {y : Outcome α}
  {f : α → Tracked β} {g : α → Outcome β}

/-- A result at the position it stands at. -/
theorem staysWithin_pure {a : α} (hlo : lo ≤ next a) (hhi : next a ≤ hi) :
  StaysWithin lo hi next (pure a) (pure a)
  where
  outcome := rfl
  sorted := List.pairwise_singleton _ _
  bounded := by
    intro p hp
    cases hp
  next_le := by
    rintro a' ⟨⟩
    exact hhi
  le_next := by
    rintro a' ⟨⟩ p hp
    obtain rfl := List.mem_singleton.mp hp
    exact hlo

/-- A result with the position it stands at. -/
theorem staysWithin_pair {a : α} {pos : ℕ} (hpos : pos ≤ hi) :
  StaysWithin pos hi Prod.snd (pure (a, pos)) (pure (a, pos))
  := staysWithin_pure le_rfl hpos

/-- A result of which no position is known. -/
theorem staysWithin_end {a : α} (hlo : lo ≤ hi) :
  StaysWithin lo hi (fun _ => hi) (pure a) (pure a)
  := staysWithin_pure hlo le_rfl

/-- A computation that does not move and has no result. -/
theorem staysWithin_lift_error {e : Halt} :
  StaysWithin lo hi next (lift (.error e)) (.error e)
  where
  outcome := rfl
  sorted := List.pairwise_singleton _ _
  bounded := by
    intro p hp
    cases hp
  next_le := by
    rintro a ⟨⟩
  le_next := by
    rintro a ⟨⟩

/-- A step that does not move, and is the same in both computations. -/
theorem staysWithin_lift_bind (h : ∀ a, y = .ok a → StaysWithin lo hi next' (f a) (g a)) :
  StaysWithin lo hi next' (lift y >>= f) (y >>= g)
  := by
  cases y with
  | ok a => exact h a rfl
  | error e => apply staysWithin_lift_error

/-- A requirement, which is the same in both computations. -/
theorem staysWithin_bailIf_bind {c : Prop} [Decidable c] {msg : String} {f : Unit → Tracked β}
    {g : Unit → Outcome β} (h : ¬ c → StaysWithin lo hi next' (f ()) (g ())) :
  StaysWithin lo hi next' (lift (bailIf c msg) >>= f) (bailIf c msg >>= g)
  := by
  by_cases hc : c
  · rw [bailIf, if_pos hc]
    apply staysWithin_lift_error
  · rw [bailIf_neg hc]
    exact h hc

theorem staysWithin_ite {c : Prop} [Decidable c] {x' : Tracked α} {y' : Outcome α}
    (hpos : c → StaysWithin lo hi next x y) (hneg : ¬ c → StaysWithin lo hi next x' y') :
  StaysWithin lo hi next (if c then x else x') (if c then y else y')
  := by
  by_cases hc : c
  · rw [if_pos hc, if_pos hc]
    exact hpos hc
  · rw [if_neg hc, if_neg hc]
    exact hneg hc

/-- A computation whose outcome is that of another one, and whose positions are not its own. -/
theorem staysWithin_lift_outcome_bind (hx : x.outcome = y)
    (h : ∀ a, y = .ok a → StaysWithin lo hi next' (f a) (g a)) :
  StaysWithin lo hi next' (lift x.outcome >>= f) (y >>= g)
  := by
  rw [hx]
  apply staysWithin_lift_bind h

/-- The rule of composition: the second computation goes on from where the first one ends. -/
theorem StaysWithin.bind (hx : StaysWithin lo hi next x y)
    (hf : ∀ a, y = .ok a → lo ≤ next a → next a ≤ hi →
      StaysWithin (next a) hi next' (f a) (g a)) :
  StaysWithin lo hi next' (x >>= f) (y >>= g)
  := by
  obtain ⟨outcome, positions⟩ := x
  obtain ⟨rfl, hsorted, hbounded, hnext, hle⟩ := hx
  cases outcome with
  | error e =>
    constructor
    · rfl
    · exact hsorted
    · exact hbounded
    · rintro b ⟨⟩
    · rintro b ⟨⟩
  | ok a =>
    have hle := hle a rfl
    have hfa := hf a rfl (hle lo List.mem_cons_self) (hnext a rfl)
    obtain ⟨houtcome, hsorted', hbounded', hnext', hle'⟩ := hfa
    rw [List.pairwise_cons] at hsorted'
    constructor
    · exact houtcome
    · rw [show lo :: (({ outcome := .ok a, positions } : Tracked α) >>= f).positions
        = (lo :: positions) ++ (f a).positions from rfl, List.pairwise_append]
      refine ⟨hsorted, hsorted'.2, ?_⟩
      intro p hp q hq
      exact (hle p hp).trans (hsorted'.1 q hq)
    · intro p hp
      rcases List.mem_append.mp hp with hp | hp
      · exact hbounded p hp
      · exact hbounded' p hp
    · intro b hb
      exact hnext' b hb
    · intro b hb p hp
      rcases List.mem_append.mp (show p ∈ (lo :: positions) ++ (f a).positions from hp) with hp | hp
      · exact (hle p hp).trans (hle' b hb _ List.mem_cons_self)
      · exact hle' b hb p (List.mem_cons_of_mem _ hp)

/-- A move forward within the bound, where the other computation does nothing. -/
theorem staysWithin_advance_bind {n : ℕ} {f : ℕ → Tracked α} (hbound : lo + n ≤ hi)
    (hhi : hi < 2 ^ 64) (hf : StaysWithin (lo + n) hi next (f (lo + n)) y) :
  StaysWithin lo hi next (advance lo n >>= f) y
  := by
  have hadvance : StaysWithin lo hi id (advance lo n) (.ok (lo + n)) := by
    rw [advance, offset_eq (by omega)]
    constructor
    · rfl
    · simp
    · intro p hp
      obtain rfl := List.mem_singleton.mp hp
      exact hbound
    · rintro a ⟨⟩
      exact hbound
    · rintro a ⟨⟩ p hp
      simp only [List.mem_cons, List.not_mem_nil, or_false] at hp
      rcases hp with rfl | rfl
      · exact Nat.le_add_right p n
      · exact le_rfl
  apply hadvance.bind (g := fun _ => y)
  rintro a ⟨⟩ - -
  exact hf

/-- A move forward within the bound, and a result at its end. -/
theorem staysWithin_advance_pair {n : ℕ} {a : α} (hbound : lo + n ≤ hi) (hhi : hi < 2 ^ 64) :
  StaysWithin lo hi Prod.snd (advance lo n >>= fun pos => pure (a, pos)) (pure (a, lo + n))
  := by
  apply staysWithin_advance_bind hbound hhi
  apply staysWithin_pair hbound

/-- A default in place of an error. -/
theorem StaysWithin.orDefault (hx : StaysWithin lo hi next x y) (hlo : lo ≤ hi) (a : α) :
  StaysWithin lo hi (fun _ => hi) (x.orDefault a) (unwrapOr y a)
  where
  outcome := by rw [Tracked.orDefault, hx.outcome]
  sorted := hx.sorted
  bounded := hx.bounded
  next_le := by
    intro a' _
    exact le_rfl
  le_next := by
    intro a' _ p hp
    rcases List.mem_cons.mp hp with rfl | hp
    · exact hlo
    · exact hx.bounded p hp

/-- A tracked computation is range safe when it has the outcome of the computation it tracks, which
is a result or an error, and its positions do not decrease and do not pass the bound. -/
structure RangeSafe (hi : ℕ) (x : Tracked α) (y : Outcome α) : Prop where
  outcome : x.outcome = y
  result : (∃ a, y = .ok a) ∨ ∃ msg, y = .error (.error msg)
  sorted : x.positions.Pairwise (· ≤ ·)
  bounded : ∀ p ∈ x.positions, p ≤ hi

/-- A computation that stays within its bound and does not panic is range safe. -/
theorem StaysWithin.rangeSafe {Q : α → Prop} (hx : StaysWithin lo hi next x y) (hy : Safe y Q) :
  RangeSafe hi x y
  where
  outcome := hx.outcome
  result := by
    rcases hy.cases with ⟨a, ha, -⟩ | herror
    · exact Or.inl ⟨a, ha⟩
    · exact Or.inr herror
  sorted := (List.pairwise_cons.mp hx.sorted).2
  bounded := hx.bounded

end StaysWithin

end Tracked
