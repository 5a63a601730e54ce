import Cachee.Library.Bytes

/-!
# Reading a buffer at a position

Computations that may fail with an error or panic, checked slices of a buffer, and
readers: computations that take a buffer and a position in it and return a value with
the position after it.  `Reads p x seg` says that the reader `p` returns `x` wherever the
bytes `seg` stand.  Readers are chained by `Reads.bind_eq`, which replaces a reader at the
front of a computation by its result.  `Consumes p R` is the converse: the bytes that `p` moves
over are laid out as `R` says.
-/

/-- The way a computation without a result ends: with an error that its caller may
handle, or with a panic. -/
inductive Halt where
  | error (msg : String)
  | panic
  deriving DecidableEq, Repr

/-- The outcome of a computation that may fail. -/
abbrev Outcome (α : Type) := Except Halt α

/-- Fail with an error message. -/
def bail {α : Type} (msg : String) : Outcome α := .error (.error msg)

/-- Fail with an error message when a condition holds. -/
def bailIf (c : Prop) [Decidable c] (msg : String) : Outcome Unit :=
  if c then bail msg else .ok ()

theorem bailIf_neg {c : Prop} [Decidable c] {msg : String} (h : ¬ c) :
  bailIf c msg = .ok ()
  := if_neg h

/-- A result at the front of a computation is passed on. -/
@[simp]
theorem ok_bind {α β : Type} (a : α) (f : α → Outcome β) :
  ((.ok a : Outcome α) >>= f) = f a
  := rfl

/-- A composition has a result when its first part has one on which the second has it. -/
theorem bind_eq_ok_iff {α β : Type} {x : Outcome α} {f : α → Outcome β} {b : β} :
  (x >>= f) = .ok b ↔ ∃ a, x = .ok a ∧ f a = .ok b
  := by
  cases x with
  | ok a => simp
  | error e =>
    constructor
    · intro h
      cases h
    · rintro ⟨a, ha, -⟩
      cases ha

/-- A function of the result of a computation has a value when there is a result. -/
theorem map_toOption_eq_some_iff {α β ε : Type} {x : Except ε α} {f : α → β} {b : β} :
  x.toOption.map f = some b ↔ ∃ a, x = .ok a ∧ f a = b
  := by
  cases x with
  | ok a => simp [Except.toOption]
  | error e => simp [Except.toOption]

/-- The result of a computation, or a value in place of its error; a panic stays. -/
def unwrapOr {α : Type} (x : Outcome α) (a : α) : Outcome α :=
  match x with
  | .error (.error _) => .ok a
  | x => x

/-- The result of a computation, with its error message changed. -/
def mapErr {α : Type} (f : String → String) (x : Outcome α) : Outcome α :=
  match x with
  | .error (.error msg) => bail (f msg)
  | x => x

@[simp]
theorem mapErr_ok {α : Type} (f : String → String) (x : α) :
  mapErr f (.ok x) = .ok x
  := rfl

@[simp]
theorem unwrapOr_ok {α : Type} (x a : α) :
  unwrapOr (.ok x) a = .ok x
  := rfl

/-- The slice `bytes[lo..hi]`, which panics unless `lo ≤ hi ≤ bytes.len()`. -/
def slice {α : Type} (xs : List α) (lo hi : ℕ) : Outcome (List α) :=
  if lo ≤ hi ∧ hi ≤ xs.length then .ok ((xs.drop lo).take (hi - lo)) else .error .panic

/-- The element `xs[i]`, which panics unless `i < xs.len()`. -/
def index {α : Type} (xs : List α) (i : ℕ) : Outcome α :=
  match xs[i]? with
  | some x => .ok x
  | none => .error .panic

/-- A slice as an array of `n` bytes, with the error of `TryFromSliceError`. -/
def tryIntoBlock (n : ℕ) (bs : Bytes) : Outcome (Block n) :=
  match Block.ofBytes? n bs with
  | some b => .ok b
  | none => bail "could not convert slice to array"

@[simp]
theorem tryIntoBlock_val {n : ℕ} (b : Block n) :
  tryIntoBlock n b.1 = .ok b
  := by
  simp [tryIntoBlock]

/-- A slice within bounds is the segment between its ends. -/
theorem slice_eq {α : Type} {xs : List α} {lo hi : ℕ} (hlo : lo ≤ hi) (hhi : hi ≤ xs.length) :
  slice xs lo hi = .ok ((xs.drop lo).take (hi - lo))
  := if_pos ⟨hlo, hhi⟩

/-- A slice panics exactly when its ends are out of order or past the end. -/
theorem slice_panics_iff {α : Type} {xs : List α} {lo hi : ℕ} :
  slice xs lo hi = .error .panic ↔ hi < lo ∨ xs.length < hi
  := by
  unfold slice
  split
  · simp
    omega
  · simp
    omega

/-! ### Segments at a position -/

section Segment

variable {bytes seg rest : Bytes} {pos : ℕ}

/-- A buffer with a segment at a position reaches at least to the end of the segment. -/
theorem length_of_drop_eq (h : bytes.drop pos = seg ++ rest) (hseg : seg ≠ []) :
  pos + seg.length + rest.length = bytes.length
  := by
  have hlen := congrArg List.length h
  rw [List.length_drop, List.length_append] at hlen
  have hpos := List.length_pos_of_ne_nil hseg
  omega

/-- The buffer after a segment. -/
theorem drop_segment (h : bytes.drop pos = seg ++ rest) :
  bytes.drop (pos + seg.length) = rest
  := by
  rw [← List.drop_drop, h, List.drop_left]

/-- The buffer after its first byte at a position. -/
theorem drop_byte {b : UInt8} (h : bytes.drop pos = b :: rest) :
  bytes.drop (pos + 1) = rest
  := by
  rw [← List.drop_drop, h, List.drop_one, List.tail_cons]

/-- The slice at a segment is the segment. -/
theorem slice_segment (h : bytes.drop pos = seg ++ rest) (hseg : seg ≠ []) :
  slice bytes pos (pos + seg.length) = .ok seg
  := by
  have hlen := length_of_drop_eq h hseg
  rw [slice_eq (by omega) (by omega), h, Nat.add_sub_cancel_left, List.take_left]

/-- The slice at a possibly empty segment of a buffer that reaches its position. -/
theorem slice_segment_of_le (h : bytes.drop pos = seg ++ rest) (hpos : pos ≤ bytes.length) :
  slice bytes pos (pos + seg.length) = .ok seg
  := by
  have hlen := congrArg List.length h
  rw [List.length_drop, List.length_append] at hlen
  rw [slice_eq (by omega) (by omega), h, Nat.add_sub_cancel_left, List.take_left]

/-- The slice at a block is the block. -/
theorem slice_block {n : ℕ} {b : Block n} (h : bytes.drop pos = b.1 ++ rest) (hn : n ≠ 0) :
  slice bytes pos (pos + n) = .ok b.1
  := by
  have hne : b.1 ≠ [] := by
    apply List.ne_nil_of_length_pos
    rw [b.2]
    omega
  have hslice := slice_segment h hne
  rwa [b.2] at hslice

/-- The buffer after a block. -/
theorem drop_block {n : ℕ} {b : Block n} (h : bytes.drop pos = b.1 ++ rest) :
  bytes.drop (pos + n) = rest
  := by
  have hdrop := drop_segment h
  rwa [b.2] at hdrop

/-- The rest of a buffer from the position of a segment on. -/
theorem slice_to_end (h : bytes.drop pos = seg ++ rest)
    (hseg : seg ≠ []) :
  slice bytes pos bytes.length = .ok (seg ++ rest)
  := by
  have hlen := length_of_drop_eq h hseg
  rw [slice_eq (by omega) le_rfl, ← List.length_drop, List.take_length, h]

/-- The element at the first byte of a segment is that byte. -/
theorem index_segment {b : UInt8} (h : bytes.drop pos = b :: rest) :
  index bytes pos = .ok b
  := by
  have hget : bytes[pos]? = some b := by
    rw [← List.head?_drop, h]
    rfl
  rw [index, hget]

/-- A byte that is required and then read at the front of a computation is replaced by the
byte at the position. -/
theorem bailIf_index_eq {β : Type} {b : UInt8} (h : bytes.drop pos = b :: rest) (missing : String)
    (f : UInt8 → Outcome β) :
  (bailIf (bytes.length ≤ pos) missing >>= fun _ => index bytes pos >>= f) = f b
  := by
  have hlen := @length_of_drop_eq bytes [b] rest pos h (List.cons_ne_nil b [])
  rw [List.length_singleton] at hlen
  rw [bailIf_neg (by omega), ok_bind, index_segment h, ok_bind]

end Segment

/-! ### Readers -/

/-- A reader takes a buffer and a position and returns a value and the position after
it. -/
abbrev Reader (α : Type) := Bytes → ℕ → Outcome (α × ℕ)

/-- `Reads p x seg`: wherever the bytes `seg` stand in a buffer, `p` returns `x` and the
position after them. -/
def Reads {α : Type} (p : Reader α) (x : α) (seg : Bytes) : Prop :=
  ∀ ⦃bytes : Bytes⦄ ⦃pos : ℕ⦄ ⦃rest : Bytes⦄, bytes.drop pos = seg ++ rest →
    p bytes pos = .ok (x, pos + seg.length)

/-- A reader at the front of a computation is replaced by what it reads. -/
theorem Reads.bind_eq {α β : Type} {p : Reader α} {x : α} {seg : Bytes} (hp : Reads p x seg)
    {bytes : Bytes} {pos : ℕ} {rest : Bytes} (h : bytes.drop pos = seg ++ rest)
    (f : α × ℕ → Outcome β) :
  (p bytes pos >>= f) = f (x, pos + seg.length)
  := by
  rw [hp h]
  rfl

/-! ### What a reader consumes -/

section Consumes

variable {α β : Type} {bytes : Bytes} {pos : ℕ}

/-- A requirement at the front of a computation with a result is met. -/
theorem bailIf_bind_eq_ok_iff {c : Prop} [Decidable c] {msg : String} {f : Unit → Outcome β}
    {b : β} :
  (bailIf c msg >>= f) = .ok b ↔ ¬ c ∧ f () = .ok b
  := by
  by_cases hc : c
  · rw [bailIf, if_pos hc]
    constructor
    · intro h
      cases h
    · rintro ⟨hnot, -⟩
      exact absurd hc hnot
  · rw [bailIf_neg hc, ok_bind]
    simp [hc]

/-- A slice that is taken stands at its position. -/
theorem drop_of_slice {n : ℕ} {seg : Bytes} (h : slice bytes pos (pos + n) = .ok seg) :
  seg.length = n ∧ bytes.drop pos = seg ++ bytes.drop (pos + n)
  := by
  unfold slice at h
  split at h
  · rename_i hbound
    obtain rfl := Except.ok.inj h
    rw [Nat.add_sub_cancel_left]
    constructor
    · rw [List.length_take, List.length_drop]
      omega
    · rw [← List.drop_drop, List.take_append_drop]
  · cases h

/-- A byte that is taken stands at its position. -/
theorem drop_of_index {b : UInt8} (h : index bytes pos = .ok b) :
  bytes.drop pos = b :: bytes.drop (pos + 1)
  := by
  unfold index at h
  cases hget : bytes[pos]? with
  | none =>
    rw [hget] at h
    cases h
  | some b' =>
    rw [hget] at h
    obtain rfl := Except.ok.inj h
    obtain ⟨hpos, rfl⟩ := List.getElem?_eq_some_iff.mp hget
    apply List.drop_eq_getElem_cons hpos

/-- A slice that is an array of `n` bytes is that array. -/
theorem eq_of_tryIntoBlock {n : ℕ} {bs : Bytes} {b : Block n} (h : tryIntoBlock n bs = .ok b) :
  bs = b.1
  := by
  unfold tryIntoBlock at h
  cases hb : Block.ofBytes? n bs with
  | none =>
    rw [hb] at h
    cases h
  | some b' =>
    rw [hb] at h
    obtain rfl := Except.ok.inj h
    apply Block.ofBytes?_eq_some_iff.mp hb

/-- `Consumes p R`: where `p` returns `x` in a buffer, it moves over bytes that are laid out
as `R x` says.  For readers this is the converse of `Reads`. -/
def Consumes (p : Reader α) (R : α → Bytes → Prop) : Prop :=
  ∀ ⦃bytes : Bytes⦄ ⦃pos : ℕ⦄ ⦃x : α⦄ ⦃pos' : ℕ⦄, p bytes pos = .ok (x, pos') →
    ∃ seg, R x seg ∧ bytes.drop pos = seg ++ bytes.drop pos'

/-- A reader at the front of a computation with a result has consumed its segment. -/
theorem Consumes.of_bind {p : Reader α} {R : α → Bytes → Prop} (hp : Consumes p R)
    {f : α × ℕ → Outcome β} {b : β} (h : (p bytes pos >>= f) = .ok b) :
  ∃ x pos' seg, R x seg ∧ bytes.drop pos = seg ++ bytes.drop pos' ∧ f (x, pos') = .ok b
  := by
  obtain ⟨⟨x, pos'⟩, hread, h⟩ := bind_eq_ok_iff.mp h
  obtain ⟨seg, hseg, hdrop⟩ := hp hread
  exact ⟨x, pos', seg, hseg, hdrop, h⟩

/-- A reader that has looked at one byte, and returns right after it, has consumed this byte. -/
theorem exists_segment_of_byte {b tag : UInt8} {x y : α} {pos' : ℕ} {R : α → Bytes → Prop}
    (hdrop : bytes.drop pos = tag :: bytes.drop (pos + 1)) (htag : tag = b)
    (h : (pure (x, pos + 1) : Outcome (α × ℕ)) = .ok (y, pos')) (hx : R x [b]) :
  ∃ seg, R y seg ∧ bytes.drop pos = seg ++ bytes.drop pos'
  := by
  obtain ⟨rfl, rfl⟩ := Prod.mk.inj (Except.ok.inj h)
  subst htag
  exact ⟨[tag], hx, hdrop⟩

end Consumes

/-! ### Computations that do not panic -/

/-- `Safe x Q`: the computation `x` does not panic, and its result satisfies `Q`. -/
def Safe {α : Type} (x : Outcome α) (Q : α → Prop) : Prop :=
  match x with
  | .ok a => Q a
  | .error (.error _) => True
  | .error .panic => False

section Safe

variable {α β : Type} {x : Outcome α} {f : α → Outcome β} {P Q : α → Prop} {R : β → Prop}

theorem safe_pure {a : α} (h : Q a) : Safe (pure a) Q := h

theorem safe_bail {msg : String} : Safe (bail msg) Q := trivial

/-- A result of a safe computation satisfies its postcondition. -/
theorem Safe.of_eq_ok {a : α} (hx : Safe x Q) (h : x = .ok a) :
  Q a
  := by
  rw [h] at hx
  apply hx

/-- A safe computation has a result or fails with an error. -/
theorem Safe.cases (hx : Safe x Q) :
  (∃ a, x = .ok a ∧ Q a) ∨ ∃ msg, x = .error (.error msg)
  := by
  rcases x with (msg | _) | a
  · right
    use msg
  · exact hx.elim
  · left
    use a
    exact ⟨rfl, hx⟩

/-- The rule of composition: the second computation is safe on what the first returns. -/
theorem Safe.bind (hx : Safe x P) (hf : ∀ a, P a → Safe (f a) R) :
  Safe (x >>= f) R
  := by
  rcases x with (_ | _) | a
  · trivial
  · apply hx
  · apply hf a hx

theorem safe_bailIf {c : Prop} [Decidable c] {msg : String} :
  Safe (bailIf c msg) fun _ => ¬ c
  := by
  by_cases hc : c
  · rw [bailIf, if_pos hc]
    apply safe_bail
  · rw [bailIf_neg hc]
    apply hc

theorem safe_ite {c : Prop} [Decidable c] {y : Outcome α} (hx : c → Safe x Q) (hy : ¬ c → Safe y Q) :
  Safe (if c then x else y) Q
  := by
  split
  · apply hx
    assumption
  · apply hy
    assumption

theorem safe_slice {xs : List α} {lo hi : ℕ} (hlo : lo ≤ hi) (hhi : hi ≤ xs.length) :
  Safe (slice xs lo hi) fun ys => ys = (xs.drop lo).take (hi - lo)
  := by
  rw [slice_eq hlo hhi]
  rfl

theorem safe_index {xs : List α} {i : ℕ} (hi : i < xs.length) :
  Safe (index xs i) fun x => xs[i]? = some x
  := by
  rw [index, List.getElem?_eq_getElem hi]
  rfl

theorem safe_tryIntoBlock {n : ℕ} {bs : Bytes} :
  Safe (tryIntoBlock n bs) fun b => b.1 = bs
  := by
  unfold tryIntoBlock Block.ofBytes?
  by_cases hn : bs.length = n
  · rw [dif_pos hn]
    rfl
  · rw [dif_neg hn]
    trivial

/-- A computation that does not panic has a result when a default stands for its errors. -/
theorem Safe.unwrapOr_eq_ok (hx : Safe x Q) (a : α) :
  ∃ a', unwrapOr x a = .ok a'
  := by
  rcases x with (_ | _) | a'
  · use a
    rfl
  · exact hx.elim
  · use a'
    rfl

end Safe

/-- A reader advances when from a position in a buffer it does not panic, and moves to a
position that is not before it and not past the end. -/
def Advances {α : Type} (p : Reader α) : Prop :=
  ∀ ⦃bytes : Bytes⦄ ⦃pos : ℕ⦄, pos ≤ bytes.length →
    Safe (p bytes pos) fun r => pos ≤ r.2 ∧ r.2 ≤ bytes.length

/-! ### Computations that return -/

/-- The computation has a result. -/
def Returns {α : Type} (x : Outcome α) : Prop := ∃ a, x = .ok a

section Returns

variable {α β : Type} {x : Outcome α} {f : α → Outcome β}

theorem returns_pure {a : α} : Returns (pure a) := ⟨a, rfl⟩

/-- A panic is not a result. -/
theorem not_returns_panic :
  ¬ Returns (.error .panic : Outcome α)
  := by
  rintro ⟨a, h⟩
  cases h

/-- The rule of composition: the second computation returns on what the first returns. -/
theorem Returns.bind (hx : Returns x) (hf : ∀ a, x = .ok a → Returns (f a)) :
  Returns (x >>= f)
  := by
  obtain ⟨a, ha⟩ := hx
  rw [ha, ok_bind]
  apply hf a ha

/-- A computation followed by one that always returns, returns when it does. -/
theorem returns_bind_iff (hf : ∀ a, Returns (f a)) :
  Returns (x >>= f) ↔ Returns x
  := by
  constructor
  · rintro ⟨b, hb⟩
    cases x with
    | ok a => exact ⟨a, rfl⟩
    | error e => cases hb
  · intro hx
    apply hx.bind
    intro a _
    apply hf a

theorem returns_index {xs : List α} {i : ℕ} (hi : i < xs.length) :
  Returns (index xs i)
  := by
  use xs[i]
  rw [index, List.getElem?_eq_getElem hi]

theorem returns_slice {xs : List α} {lo hi : ℕ} (hlo : lo ≤ hi) (hhi : hi ≤ xs.length) :
  Returns (slice xs lo hi)
  := ⟨_, slice_eq hlo hhi⟩

theorem returns_ite {c : Prop} [Decidable c] {y : Outcome α} (hx : c → Returns x)
    (hy : ¬ c → Returns y) :
  Returns (if c then x else y)
  := by
  split
  · apply hx
    assumption
  · apply hy
    assumption

/-- A fold of computations that return, returns. -/
theorem returns_foldlM {f : β → α → Outcome β} (hf : ∀ b a, Returns (f b a)) (l : List α) (b : β) :
  Returns (l.foldlM f b)
  := by
  induction l generalizing b with
  | nil => apply returns_pure
  | cons a l ih =>
    rw [List.foldlM_cons]
    apply (hf b a).bind
    intro b' _
    apply ih

/-- What every step of a fold keeps holds of its result. -/
theorem foldlM_invariant {f : β → α → Outcome β} {p : β → Prop} {l : List α} {b b' : β}
    (hkeep : ∀ a ∈ l, ∀ b b', p b → f b a = .ok b' → p b') (hb : p b)
    (h : l.foldlM f b = .ok b') :
  p b'
  := by
  induction l generalizing b with
  | nil =>
    obtain rfl := Except.ok.inj h
    apply hb
  | cons a l ih =>
    rw [List.foldlM_cons] at h
    obtain ⟨b₁, hstep, h⟩ := bind_eq_ok_iff.mp h
    apply ih _ (hkeep a List.mem_cons_self b b₁ hb hstep) h
    intro a' ha'
    apply hkeep a' (List.mem_cons_of_mem a ha')

/-- What one step of a fold makes true, and the others keep, holds of its result. -/
theorem foldlM_of_mem {f : β → α → Outcome β} {p : β → Prop} {l : List α} {a : α} {b b' : β}
    (ha : a ∈ l) (hmake : ∀ b b', f b a = .ok b' → p b')
    (hkeep : ∀ a' ∈ l, ∀ b b', p b → f b a' = .ok b' → p b') (h : l.foldlM f b = .ok b') :
  p b'
  := by
  induction l generalizing b with
  | nil => cases ha
  | cons a' l ih =>
    rw [List.foldlM_cons] at h
    obtain ⟨b₁, hstep, hrest⟩ := bind_eq_ok_iff.mp h
    have hkeep' : ∀ a₁ ∈ l, ∀ b b', p b → f b a₁ = .ok b' → p b' := by
      intro a₁ ha₁
      apply hkeep a₁ (List.mem_cons_of_mem a' ha₁)
    rcases List.mem_cons.mp ha with rfl | ha
    · apply foldlM_invariant hkeep' (hmake b b₁ hstep) hrest
    · apply ih ha hkeep' hrest

end Returns
