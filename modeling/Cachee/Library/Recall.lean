import Mathlib.Data.Finset.Card
import Mathlib.Tactic

/-!
# Refusing repetitions with a bounded memory

A filter admits the items that it does not remember, and remembers what it admits.  It remembers
no more than `cap` items: when there would be more, it forgets all but the last one.  So the
admitted items fall into successive blocks of `cap` items, and the filter remembers those of the
last block: an item is admitted at most once in each block, but it can be admitted again in a later
one.
-/

namespace Recall

variable {α : Type} {cap : ℕ} {xs : List α} {x : α}

/-! ### Blocks -/

/-- The block with the number `k` of successive items. -/
def block (cap k : ℕ) (xs : List α) : List α := (xs.drop (cap * k)).take cap

/-- The last block that has any items. -/
def lastBlock (cap : ℕ) (xs : List α) : List α := block cap ((xs.length - 1) / cap) xs

@[simp]
theorem block_nil (cap k : ℕ) :
  block cap k ([] : List α) = []
  := by
  rw [block, List.drop_nil, List.take_nil]

/-- An item at the end belongs to the block whose number is that of the full blocks before it. -/
theorem block_concat (hcap : 0 < cap) (k : ℕ) (xs : List α) (x : α) :
  block cap k (xs ++ [x])
    = if k = xs.length / cap then block cap k xs ++ [x] else block cap k xs
  := by
  have hdiv := Nat.div_add_mod xs.length cap
  have hmod := Nat.mod_lt xs.length hcap
  rcases lt_trichotomy k (xs.length / cap) with hlt | rfl | hgt
  · -- The block is full already.
    have hfull : cap * k + cap ≤ xs.length := by
      calc cap * k + cap = cap * (k + 1) := by ring
        _ ≤ cap * (xs.length / cap) := Nat.mul_le_mul_left cap hlt
        _ ≤ xs.length := by omega
    rw [if_neg hlt.ne, block, block, List.drop_append_of_le_length (by omega),
      List.take_append_of_le_length (by rw [List.length_drop]; omega)]
  · rw [if_pos rfl, block, block, List.drop_append_of_le_length (by omega),
      List.take_of_length_le (by simp; omega), List.take_of_length_le (by simp; omega)]
  · -- The block is beyond the end.
    have hbeyond : xs.length + 1 ≤ cap * k := by
      calc xs.length + 1 ≤ cap * (xs.length / cap) + cap := by omega
        _ = cap * (xs.length / cap + 1) := by ring
        _ ≤ cap * k := Nat.mul_le_mul_left cap hgt
    rw [if_neg hgt.ne', block, block, List.drop_of_length_le (by simp; omega),
      List.drop_of_length_le (by omega)]

/-- After one more item, the last block is the one of that item. -/
theorem lastBlock_concat (hcap : 0 < cap) (xs : List α) (x : α) :
  lastBlock cap (xs ++ [x]) = block cap (xs.length / cap) xs ++ [x]
  := by
  rw [lastBlock, block_concat hcap, List.length_append, List.length_singleton,
    Nat.add_sub_cancel, if_pos rfl]

/-- After full blocks only, there is nothing in the next block yet, and the last one is full. -/
theorem block_next_of_dvd (hcap : 0 < cap) (hne : xs ≠ []) (hdvd : cap ∣ xs.length) :
  block cap (xs.length / cap) xs = [] ∧ (lastBlock cap xs).length = cap
  := by
  obtain ⟨q, hq⟩ := hdvd
  have hpos := List.length_pos_iff.mpr hne
  obtain ⟨p, rfl⟩ : ∃ p, q = p + 1 := by
    cases q with
    | zero => omega
    | succ p => exact ⟨p, rfl⟩
  have hlast : (xs.length - 1) / cap = p := by
    rw [hq]
    apply Nat.div_eq_of_lt_le
    · rw [Nat.mul_comm p cap, Nat.mul_succ]
      omega
    · rw [Nat.mul_comm (p + 1) cap]
      have := Nat.mul_pos hcap (Nat.succ_pos p)
      omega
  constructor
  · rw [block, hq, Nat.mul_div_cancel_left _ hcap, List.drop_of_length_le hq.le, List.take_nil]
  · rw [lastBlock, hlast, block, List.length_take, List.length_drop, hq, Nat.mul_succ]
    omega

/-- While the last block is not full, the next item goes there. -/
theorem block_next_of_not_dvd (hnext : ¬ (xs ≠ [] ∧ cap ∣ xs.length)) :
  block cap (xs.length / cap) xs = lastBlock cap xs
  := by
  rcases eq_or_ne xs [] with rfl | hne
  · simp [lastBlock]
  have hdvd : ¬ cap ∣ xs.length := fun h => hnext ⟨hne, h⟩
  have hpos := List.length_pos_iff.mpr hne
  rw [lastBlock]
  congr 1
  rw [← Nat.sub_one_add_one hpos.ne'] at hdvd
  conv_lhs => rw [← Nat.sub_one_add_one hpos.ne', Nat.succ_div, if_neg hdvd, Nat.add_zero]

/-- While the last block is not full, it is shorter than the memory. -/
theorem length_lastBlock_lt (hcap : 0 < cap) (hnext : ¬ (xs ≠ [] ∧ cap ∣ xs.length)) :
  (lastBlock cap xs).length < cap
  := by
  have hdiv := Nat.div_add_mod xs.length cap
  have hmod := Nat.mod_lt xs.length hcap
  rw [← block_next_of_not_dvd hnext, block, List.length_take, List.length_drop]
  omega

/-! ### What the filter remembers -/

variable [DecidableEq α] {seen : Finset α}

/-- The memory after an item, and whether the item is admitted. -/
def offer (cap : ℕ) (seen : Finset α) (x : α) : Finset α × Bool :=
  if x ∈ seen then (seen, false)
  else (if cap < (insert x seen).card then {x} else insert x seen, true)

/-- The memory after successive items, and which of them are admitted. -/
def offerAll (cap : ℕ) (seen : Finset α) : List α → Finset α × List (α × Bool)
  | [] => (seen, [])
  | x :: rest =>
    let (seen', new) := offer cap seen x
    let (seen'', answers) := offerAll cap seen' rest
    (seen'', (x, new) :: answers)

/-- The items that are admitted according to the answers. -/
def admitted (answers : List (α × Bool)) : List α :=
  (answers.filter Prod.snd).map Prod.fst

/-- The invariant of the filter: no item was admitted twice in a block, and the filter remembers
the last block. -/
structure Remembers (cap : ℕ) (seen : Finset α) (xs : List α) : Prop where
  nodup : ∀ k, (block cap k xs).Nodup
  seen_eq : seen = (lastBlock cap xs).toFinset

theorem remembers_empty (cap : ℕ) :
  Remembers cap (∅ : Finset α) []
  := by
  constructor
  · intro k
    rw [block_nil]
    apply List.nodup_nil
  · rw [lastBlock, block_nil]
    rfl

/-- An item is refused if it is in the last block, and only then. -/
theorem Remembers.offer_eq_false_iff (h : Remembers cap seen xs) (x : α) :
  (offer cap seen x).2 = false ↔ x ∈ lastBlock cap xs
  := by
  rw [← List.mem_toFinset, ← h.seen_eq, offer]
  split
  · simp_all
  · simp_all

/-- An admitted item is remembered. -/
theorem Remembers.offer (h : Remembers cap seen xs) (hcap : 0 < cap) (hnew : x ∉ seen) :
  Remembers cap (Recall.offer cap seen x).1 (xs ++ [x])
  := by
  have hlast : (lastBlock cap xs).Nodup := h.nodup _
  have hcard : (insert x seen).card = (lastBlock cap xs).length + 1 := by
    rw [Finset.card_insert_of_notMem hnew, h.seen_eq, List.toFinset_card_of_nodup hlast]
  have hx : x ∉ lastBlock cap xs := by
    rw [← List.mem_toFinset, ← h.seen_eq]
    apply hnew
  rw [Recall.offer, if_neg hnew]
  by_cases hnext : xs ≠ [] ∧ cap ∣ xs.length
  · -- The last block is full: all of it is forgotten.
    obtain ⟨hblock, hlength⟩ := block_next_of_dvd hcap hnext.1 hnext.2
    constructor
    · intro k
      rw [block_concat hcap]
      split
      · rename_i hk
        rw [hk, hblock]
        apply List.nodup_singleton
      · apply h.nodup
    · rw [if_pos (by omega), lastBlock_concat hcap, hblock]
      rfl
  · have hblock := block_next_of_not_dvd hnext
    have hlength := length_lastBlock_lt hcap hnext
    have hconcat : (lastBlock cap xs ++ [x]).Nodup := by
      rw [← List.concat_eq_append, List.nodup_concat]
      exact ⟨hx, hlast⟩
    constructor
    · intro k
      rw [block_concat hcap]
      split
      · rename_i hk
        rw [hk, hblock]
        apply hconcat
      · apply h.nodup
    · rw [if_neg (by omega), lastBlock_concat hcap, hblock, h.seen_eq]
      ext y
      simp

/-- A refused item changes nothing. -/
theorem offer_of_mem (cap : ℕ) (h : x ∈ seen) :
  offer cap seen x = (seen, false)
  := if_pos h

theorem offer_snd_of_notMem (cap : ℕ) (h : x ∉ seen) :
  (offer cap seen x).2 = true
  := by
  rw [offer, if_neg h]

/-- The filter remembers the last block of what it has admitted, after any items. -/
theorem Remembers.offerAll (h : Remembers cap seen xs) (hcap : 0 < cap) (ys : List α) :
  Remembers cap (Recall.offerAll cap seen ys).1
    (xs ++ admitted (Recall.offerAll cap seen ys).2)
  := by
  induction ys generalizing seen xs with
  | nil =>
    rw [Recall.offerAll, admitted, List.filter_nil, List.map_nil, List.append_nil]
    apply h
  | cons y rest ih =>
    by_cases hmem : y ∈ seen
    · simp only [Recall.offerAll, offer_of_mem cap hmem]
      apply ih h
    · have hrest := ih (h.offer hcap hmem)
      rw [List.append_assoc] at hrest
      simp only [Recall.offerAll, offer_snd_of_notMem cap hmem]
      apply hrest

/-- The memory after successive items in two parts. -/
theorem offerAll_append (cap : ℕ) (seen : Finset α) (xs ys : List α) :
  offerAll cap seen (xs ++ ys)
    = ((offerAll cap (offerAll cap seen xs).1 ys).1,
      (offerAll cap seen xs).2 ++ (offerAll cap (offerAll cap seen xs).1 ys).2)
  := by
  induction xs generalizing seen with
  | nil => rfl
  | cons x rest ih =>
    simp only [List.cons_append, offerAll, ih]

/-- Items that differ from each other and from what is remembered are all admitted. -/
theorem admitted_of_nodup (hnodup : xs.Nodup) (hnew : ∀ x ∈ xs, x ∉ seen) :
  admitted (offerAll cap seen xs).2 = xs
  := by
  induction xs generalizing seen with
  | nil => rfl
  | cons x rest ih =>
    obtain ⟨hx, hrest⟩ := List.nodup_cons.mp hnodup
    have hnotMem := hnew x List.mem_cons_self
    have hadmitted : admitted (offerAll cap (offer cap seen x).1 rest).2 = rest := by
      apply ih hrest
      intro y hy
      have hne : y ≠ x := fun h => hx (h ▸ hy)
      have hy' := hnew y (List.mem_cons_of_mem x hy)
      rw [offer, if_neg hnotMem]
      simp only
      split
      · simpa using hne
      · simp [hne, hy']
    rw [offerAll]
    simp only [offer_snd_of_notMem cap hnotMem]
    rw [admitted, List.filter_cons_of_pos rfl, List.map_cons]
    exact congrArg (x :: ·) hadmitted

/-- After one item more than the filter remembers, all different, the first one is admitted
again. -/
theorem offer_again (hcap : 0 < cap) (hnodup : (x :: xs).Nodup) (hlen : xs.length = cap) :
  (offer cap (offerAll cap ∅ (x :: xs)).1 x).2 = true
  := by
  have hremembers := (remembers_empty cap).offerAll hcap (x :: xs)
  rw [admitted_of_nodup hnodup (by simp), List.nil_append] at hremembers
  rw [← Bool.not_eq_false, hremembers.offer_eq_false_iff]
  have hx : x ∉ xs := (List.nodup_cons.mp hnodup).1
  have hlast : lastBlock cap (x :: xs) = (xs.drop (cap - 1)).take cap := by
    obtain ⟨c, rfl⟩ : ∃ c, cap = c + 1 := ⟨cap - 1, by omega⟩
    rw [lastBlock, block, List.length_cons, Nat.add_sub_cancel, hlen, Nat.div_self hcap,
      Nat.mul_one, List.drop_succ_cons]
    rfl
  rw [hlast]
  intro hmem
  apply hx (List.mem_of_mem_drop (List.mem_of_mem_take hmem))

/-- So the first item is admitted twice. -/
theorem not_nodup_admitted (hcap : 0 < cap) (hnodup : (x :: xs).Nodup)
    (hlen : xs.length = cap) :
  ¬ (admitted (offerAll cap ∅ (x :: xs ++ [x])).2).Nodup
  := by
  have hfirst : admitted (offerAll cap ∅ (x :: xs)).2 = x :: xs :=
    admitted_of_nodup hnodup (by simp)
  have hagain := offer_again hcap hnodup hlen
  rw [admitted] at hfirst
  rw [offerAll_append, admitted, List.filter_append, List.map_append, hfirst, offerAll]
  simp [hagain]

end Recall
