import Mathlib.Tactic

/-!
# Spans of numbers

A span is a closed range of natural numbers.  Successive spans are spaced if each of them starts
right after a gap of a fixed size behind the one before.  Up to the end of the last span, a number
is in exactly one of spaced spans, unless it lies in a gap.
-/

/-- The numbers from `first` to `last`. -/
structure Span where
  first : ℕ
  last : ℕ
  deriving DecidableEq

namespace Span

/-- A number lies in a span. -/
def Contains (span : Span) (n : ℕ) : Prop := span.first ≤ n ∧ n ≤ span.last

instance (span : Span) (n : ℕ) : Decidable (span.Contains n) :=
  inferInstanceAs (Decidable (_ ∧ _))

/-- The number of spans in which a number lies. -/
def count (spans : List Span) (n : ℕ) : ℕ := spans.countP fun span => span.Contains n

/-- The first span starts at `start`, and every other one after a gap behind the one before. -/
def Spaced (gap : ℕ) : ℕ → List Span → Prop
  | _, [] => True
  | start, span :: rest =>
    span.first = start ∧ span.first ≤ span.last ∧ Spaced gap (span.last + 1 + gap) rest

/-- The place where the next span starts. -/
def next (gap start : ℕ) (spans : List Span) : ℕ :=
  spans.getLast?.elim start fun span => span.last + 1 + gap

/-- A number lies in the gap behind a span. -/
def InGap (gap : ℕ) (spans : List Span) (n : ℕ) : Prop :=
  ∃ span ∈ spans, span.last < n ∧ n ≤ span.last + gap

instance (gap : ℕ) (spans : List Span) (n : ℕ) : Decidable (InGap gap spans n) :=
  inferInstanceAs (Decidable (∃ span ∈ spans, span.last < n ∧ n ≤ span.last + gap))

variable {gap start n : ℕ} {spans : List Span} {span : Span}

@[simp]
theorem next_nil (gap start : ℕ) :
  next gap start [] = start
  := rfl

@[simp]
theorem next_concat (gap start : ℕ) (spans : List Span) (span : Span) :
  next gap start (spans ++ [span]) = span.last + 1 + gap
  := by
  rw [next, List.getLast?_concat]
  rfl

theorem next_cons (gap start : ℕ) (span : Span) (spans : List Span) :
  next gap start (span :: spans) = next gap (span.last + 1 + gap) spans
  := by
  rw [next, next, List.getLast?_cons]
  cases spans.getLast? with
  | none => rfl
  | some last => rfl

/-- One more span is spaced if it starts at the next place. -/
theorem spaced_concat :
  Spaced gap start (spans ++ [span]) ↔
    Spaced gap start spans ∧ span.first = next gap start spans ∧ span.first ≤ span.last
  := by
  induction spans generalizing start with
  | nil => simp [Spaced]
  | cons head rest ih => rw [List.cons_append, Spaced, Spaced, ih, next_cons, and_assoc, and_assoc]

/-- The first ones of spaced spans are spaced. -/
theorem Spaced.of_append {rest : List Span} (h : Spaced gap start (spans ++ rest)) :
  Spaced gap start spans
  := by
  induction spans generalizing start with
  | nil => trivial
  | cons head tail ih =>
    obtain ⟨hfirst, hle, htail⟩ := h
    exact ⟨hfirst, hle, ih htail⟩

/-- A number before the start is in no span. -/
theorem Spaced.count_of_lt (h : Spaced gap start spans) (hlt : n < start) :
  count spans n = 0
  := by
  induction spans generalizing start with
  | nil => rfl
  | cons head rest ih =>
    obtain ⟨rfl, hle, hrest⟩ := h
    have htail := ih hrest (by omega)
    have hhead : ¬ head.Contains n := fun hin => absurd hin.1 (not_le.mpr hlt)
    rw [count, List.countP_cons_of_neg (by simpa using hhead)]
    apply htail

/-- All spans end behind the start. -/
theorem Spaced.start_le (h : Spaced gap start spans) (hmem : span ∈ spans) :
  start ≤ span.last
  := by
  induction spans generalizing start with
  | nil => cases hmem
  | cons head rest ih =>
    obtain ⟨rfl, hle, hrest⟩ := h
    rcases List.mem_cons.mp hmem with rfl | hmem
    · apply hle
    · have := ih hrest hmem
      omega

/-- A number from the start to the end of some span lies in exactly one span, unless it lies in a
gap. -/
theorem Spaced.count_eq (h : Spaced gap start spans) (hstart : start ≤ n) (hmem : span ∈ spans)
    (hle : n ≤ span.last) :
  count spans n = if InGap gap spans n then 0 else 1
  := by
  induction spans generalizing start with
  | nil => cases hmem
  | cons head rest ih =>
    obtain ⟨rfl, hfirst, hrest⟩ := h
    rcases le_or_gt n head.last with hin | hbehind
    · -- The number lies in the first span.
      have hgap : ¬ InGap gap (head :: rest) n := by
        rintro ⟨other, hother, hlt, -⟩
        rcases List.mem_cons.mp hother with rfl | hother
        · omega
        · have := hrest.start_le hother
          omega
      have hhead : head.Contains n := ⟨hstart, hin⟩
      have htail := hrest.count_of_lt (n := n) (by omega)
      rw [count] at htail
      rw [if_neg hgap, count, List.countP_cons_of_pos (by simpa using hhead), htail]
    · have hhead : ¬ head.Contains n := fun hin => absurd hin.2 (not_le.mpr hbehind)
      have htail : count (head :: rest) n = count rest n := by
        rw [count, List.countP_cons_of_neg (by simpa using hhead)]
        rfl
      rw [htail]
      rcases le_or_gt n (head.last + gap) with hgap | hafter
      · have hin : InGap gap (head :: rest) n := ⟨head, List.mem_cons_self, hbehind, hgap⟩
        rw [if_pos hin]
        apply hrest.count_of_lt
        omega
      · have hrestMem : span ∈ rest := by
          rcases List.mem_cons.mp hmem with rfl | hrestMem
          · omega
          · apply hrestMem
        have hiff : InGap gap (head :: rest) n ↔ InGap gap rest n := by
          rw [InGap, List.exists_mem_cons_iff, or_iff_right (by omega)]
          rfl
        rw [ih hrest (by omega) hrestMem]
        simp only [hiff]

end Span
