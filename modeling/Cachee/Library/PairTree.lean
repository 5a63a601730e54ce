import Mathlib.Data.Nat.Log
import Mathlib.Tactic

/-!
# Trees of pairs

A tree over a list of leaves is built level by level: each level has the nodes of the successive
pairs of the level below it, where an odd last item is paired with itself.  The number of items is
halved and rounded up from level to level, so the first level with a single item is the one whose
number is the logarithm of the number of leaves.

If the nodes that occur in the trees determine their pairs, the root determines the leaves up to
what the trees do not show: how often the last leaves are repeated, and whether an item is a leaf or
the node of a pair.  So lists with the same root are equal if they have the same length, or if their
leaves are pairwise different and no nodes of the trees.
-/

namespace PairTree

variable {α : Type}

/-- The successive pairs of a level, where an odd last item is paired with itself. -/
def pairs : List α → List (α × α)
  | [] => []
  | [a] => [(a, a)]
  | a :: b :: rest => (a, b) :: pairs rest

/-- The level above a level: the nodes of its pairs. -/
def levelUp (node : α → α → α) (level : List α) : List α :=
  (pairs level).map fun p => node p.1 p.2

/-- The level with the number `k` over the leaves. -/
def level (node : α → α → α) (leaves : List α) (k : ℕ) : List α := (levelUp node)^[k] leaves

/-- The number of the first level that is no longer than 1. -/
def height (leaves : List α) : ℕ := Nat.clog 2 leaves.length

/-- The item of the first level that is no longer than 1. -/
def root? (node : α → α → α) (leaves : List α) : Option α :=
  (level node leaves (height leaves)).head?

/-- All pairs of the levels below the root. -/
def nodePairs (node : α → α → α) (leaves : List α) : List (α × α) :=
  (List.range (height leaves)).flatMap fun k => pairs (level node leaves k)

/-- The nodes of all pairs of the levels below the root. -/
def nodes (node : α → α → α) (leaves : List α) : List α :=
  (nodePairs node leaves).map fun p => node p.1 p.2

/-- The items of pairs, one after the other. -/
def items (ps : List (α × α)) : List α := ps.flatMap fun p => [p.1, p.2]

/-- The leaves that `k` levels of pairs are made of: those of the list, where what is paired with
itself is repeated. -/
def padded : ℕ → {α : Type} → List α → List α
  | 0, _, leaves => leaves
  | k + 1, _, leaves => items (padded k (pairs leaves))

variable {β : Type} {node : α → α → α} {leaves leaves' : List α}

theorem length_pairs (leaves : List α) :
  (pairs leaves).length = (leaves.length + 1) / 2
  := by
  induction leaves using pairs.induct with
  | case1 => simp [pairs]
  | case2 a => simp [pairs]
  | case3 a b rest ih =>
    simp only [pairs, List.length_cons, ih]
    omega

@[simp]
theorem length_levelUp (leaves : List α) :
  (levelUp node leaves).length = (leaves.length + 1) / 2
  := by
  rw [levelUp, List.length_map, length_pairs]

@[simp]
theorem level_zero (leaves : List α) :
  level node leaves 0 = leaves
  := rfl

theorem level_succ (leaves : List α) (k : ℕ) :
  level node leaves (k + 1) = levelUp node (level node leaves k)
  := Function.iterate_succ_apply' _ _ _

/-- A level over the first level is the next one over the leaves. -/
theorem level_levelUp (leaves : List α) (k : ℕ) :
  level node (levelUp node leaves) k = level node leaves (k + 1)
  := rfl

/-- A level over a level is a level over the leaves. -/
theorem level_level (i j : ℕ) :
  level node (level node leaves i) j = level node leaves (i + j)
  := by
  rw [level, level, level, Nat.add_comm, Function.iterate_add_apply]

/-! ### The height of the tree -/

theorem height_eq_zero (h : leaves.length ≤ 1) :
  height leaves = 0
  := Nat.clog_of_right_le_one h 2

theorem one_lt_length_of_height_pos (h : 0 < height leaves) :
  1 < leaves.length
  := by
  by_contra hle
  rw [height_eq_zero (not_lt.mp hle)] at h
  omega

/-- Above more than one leaf, there is one level more than above their first level. -/
theorem height_eq_succ (node : α → α → α) (h : 1 < leaves.length) :
  height leaves = height (levelUp node leaves) + 1
  := by
  have hhalf : (leaves.length + 2 - 1) / 2 = (leaves.length + 1) / 2 := rfl
  rw [height, height, length_levelUp, Nat.clog_of_two_le Nat.one_lt_two h, hhalf]

/-- The levels below the height are longer than 1. -/
theorem one_lt_length_level {k : ℕ} (h : k < height leaves) :
  1 < (level node leaves k).length
  := by
  induction k generalizing leaves with
  | zero => apply one_lt_length_of_height_pos h
  | succ k ih =>
    have hlt : 1 < leaves.length := by
      apply one_lt_length_of_height_pos
      omega
    rw [← level_levelUp]
    apply ih
    rw [height_eq_succ node hlt] at h
    omega

/-- Over any leaves at all, the level at the height has a single item. -/
theorem length_level_height (node : α → α → α) (h : leaves ≠ []) :
  (level node leaves (height leaves)).length = 1
  := by
  induction hn : height leaves generalizing leaves with
  | zero =>
    have hle : leaves.length ≤ 1 := by
      by_contra hlt
      rw [height_eq_succ node (not_le.mp hlt)] at hn
      omega
    have hpos := List.length_pos_iff.mpr h
    rw [level_zero]
    omega
  | succ n ih =>
    have hlt : 1 < leaves.length := by
      apply one_lt_length_of_height_pos
      omega
    rw [← level_levelUp]
    apply ih
    · rw [← List.length_pos_iff, length_levelUp]
      omega
    · rw [height_eq_succ node hlt] at hn
      omega

/-! ### Padded leaves -/

theorem mem_of_mem_pairs {p : α × α} (h : p ∈ pairs leaves) :
  p.1 ∈ leaves ∧ p.2 ∈ leaves
  := by
  induction leaves using pairs.induct with
  | case1 => simp [pairs] at h
  | case2 a => simp_all [pairs]
  | case3 a b rest ih =>
    rcases List.mem_cons.mp h with rfl | h
    · simp
    · have hrest := ih h
      simp [hrest]

theorem pairs_map (f : α → β) (leaves : List α) :
  pairs (leaves.map f) = (pairs leaves).map (Prod.map f f)
  := by
  induction leaves using pairs.induct with
  | case1 => rfl
  | case2 a => rfl
  | case3 a b rest ih =>
    rw [List.map_cons, List.map_cons, pairs, ih]
    rfl

theorem items_map (f : α → β) (ps : List (α × α)) :
  items (ps.map (Prod.map f f)) = (items ps).map f
  := by
  induction ps with
  | nil => rfl
  | cons p rest ih =>
    rw [List.map_cons, items, List.flatMap_cons, ← items, ih]
    rfl

/-- The items of pairs are paired as they were. -/
theorem pairs_items (ps : List (α × α)) :
  pairs (items ps) = ps
  := by
  induction ps with
  | nil => rfl
  | cons p rest ih =>
    change p :: pairs (items rest) = _
    rw [ih]

/-- A list starts the items of its pairs. -/
theorem prefix_items_pairs (leaves : List α) :
  leaves <+: items (pairs leaves)
  := by
  induction leaves using pairs.induct with
  | case1 => apply List.prefix_refl
  | case2 a => apply List.prefix_append
  | case3 a b rest ih =>
    change a :: b :: rest <+: a :: b :: items (pairs rest)
    simpa using ih

theorem items_mono {ps qs : List (α × α)} (h : ps <+: qs) :
  items ps <+: items qs
  := by
  obtain ⟨rest, rfl⟩ := h
  rw [items, items, List.flatMap_append]
  apply List.prefix_append

theorem padded_map (f : α → β) (k : ℕ) (leaves : List α) :
  padded k (leaves.map f) = (padded k leaves).map f
  := by
  induction k generalizing α β with
  | zero => rfl
  | succ k ih => rw [padded, pairs_map, ih, items_map, ← padded]

/-- Padding only appends leaves. -/
theorem prefix_padded (k : ℕ) (leaves : List α) :
  leaves <+: padded k leaves
  := by
  induction k generalizing α with
  | zero => apply List.prefix_refl
  | succ k ih => exact (prefix_items_pairs leaves).trans (items_mono (ih (pairs leaves)))

/-- Padding appends no other leaves. -/
theorem padded_subset (k : ℕ) (leaves : List α) :
  padded k leaves ⊆ leaves
  := by
  induction k generalizing α with
  | zero => apply List.Subset.refl
  | succ k ih =>
    intro a ha
    obtain ⟨p, hp, hap⟩ := List.mem_flatMap.mp ha
    obtain ⟨hfst, hsnd⟩ := mem_of_mem_pairs (ih (pairs leaves) hp)
    rcases List.mem_pair.mp hap with rfl | rfl
    · apply hfst
    · apply hsnd

/-- The level above the padded leaves is the padded level above the leaves. -/
theorem levelUp_padded (node : α → α → α) (k : ℕ) (leaves : List α) :
  levelUp node (padded (k + 1) leaves) = padded k (levelUp node leaves)
  := by
  rw [levelUp, padded, pairs_items, levelUp, padded_map]

/-- The leaves and the padded leaves have the same level above the padding. -/
theorem level_padded (node : α → α → α) (k : ℕ) (leaves : List α) :
  level node (padded k leaves) k = level node leaves k
  := by
  induction k generalizing leaves with
  | zero => rfl
  | succ k ih => rw [← level_levelUp, levelUp_padded, ih, level_levelUp]

/-- Lists are equal if their images are, and a function separates the items of one from those of the
other. -/
theorem eq_of_map_eq {f : α → β} {as bs : List α} (hf : ∀ a ∈ as, ∀ b ∈ bs, f a = f b → a = b)
    (hmap : as.map f = bs.map f) :
  as = bs
  := by
  induction as generalizing bs with
  | nil => exact (List.map_eq_nil_iff.mp hmap.symm).symm
  | cons a as ih =>
    cases bs with
    | nil => cases hmap
    | cons b bs =>
      obtain ⟨hhead, htail⟩ := List.cons.inj hmap
      rw [hf a (by simp) b (by simp) hhead, ih _ htail]
      intro a' ha' b' hb'
      apply hf a' (List.mem_cons_of_mem a ha') b' (List.mem_cons_of_mem b hb')

/-- A level determines the padded leaves below it, if the nodes of the levels below it determine
their pairs. -/
theorem level_eq_iff_padded_eq {k : ℕ}
    (hnode : ∀ j < k, ∀ p ∈ pairs (level node leaves j), ∀ q ∈ pairs (level node leaves' j),
      node p.1 p.2 = node q.1 q.2 → p = q) :
  level node leaves k = level node leaves' k ↔ padded k leaves = padded k leaves'
  := by
  constructor
  · intro hlevel
    induction k generalizing leaves leaves' with
    | zero => apply hlevel
    | succ k ih =>
      -- Above the first level the padded lists agree, and these are the nodes of padded pairs.
      have hup : padded k (levelUp node leaves) = padded k (levelUp node leaves') := by
        apply ih _ hlevel
        intro j hj
        apply hnode (j + 1) (by omega)
      rw [levelUp, levelUp, padded_map, padded_map] at hup
      rw [padded, padded]
      apply congrArg
      apply eq_of_map_eq _ hup
      intro p hp q hq
      apply hnode 0 (by omega) p (padded_subset k _ hp) q (padded_subset k _ hq)
  · intro hpadded
    rw [← level_padded, hpadded, level_padded]

/-- Lists with the same padded leaves are equal if they have the same length. -/
theorem eq_of_padded_eq {k : ℕ} (hlen : leaves.length = leaves'.length)
    (hpadded : padded k leaves = padded k leaves') :
  leaves = leaves'
  := by
  have hprefix : leaves <+: padded k leaves' := by
    rw [← hpadded]
    apply prefix_padded
  have hleaves := List.prefix_of_prefix_length_le hprefix (prefix_padded k leaves') hlen.le
  apply hleaves.eq_of_length hlen

/-- Lists with the same padded leaves are equal if the items of each are pairwise different. -/
theorem eq_of_padded_eq_of_nodup {k : ℕ} (hnodup : leaves.Nodup) (hnodup' : leaves'.Nodup)
    (hpadded : padded k leaves = padded k leaves') :
  leaves = leaves'
  := by
  -- Each list has the items of the padded one, so both have as many.
  have hle {xs ys : List α} (hxs : xs.Nodup) (h : padded k xs = padded k ys) :
      xs.length ≤ ys.length := by
    have hsub : xs ⊆ ys := by
      apply List.Subset.trans (prefix_padded k xs).subset
      rw [h]
      apply padded_subset
    apply (hxs.subperm hsub).length_le
  apply eq_of_padded_eq _ hpadded
  apply (hle hnodup hpadded).antisymm (hle hnodup' hpadded.symm)

/-! ### Roots -/

/-- Over any leaves at all, the roots agree when the levels of the roots do. -/
theorem root?_eq_iff (h : leaves ≠ []) (h' : leaves' ≠ []) :
  root? node leaves = root? node leaves' ↔
    level node leaves (height leaves) = level node leaves' (height leaves')
  := by
  obtain ⟨a, ha⟩ := List.length_eq_one_iff.mp (length_level_height node h)
  obtain ⟨b, hb⟩ := List.length_eq_one_iff.mp (length_level_height node h')
  rw [root?, root?, ha, hb]
  simp

/-- The pairs below the height are pairs of the tree. -/
theorem mem_nodePairs {k : ℕ} (hk : k < height leaves) {p : α × α}
    (hp : p ∈ pairs (level node leaves k)) :
  p ∈ nodePairs node leaves
  := List.mem_flatMap.mpr ⟨k, List.mem_range.mpr hk, hp⟩

/-- The items of the levels above the leaves are nodes of the tree. -/
theorem mem_nodes {k : ℕ} (hk : k < height leaves) {a : α}
    (ha : a ∈ level node leaves (k + 1)) :
  a ∈ nodes node leaves
  := by
  rw [level_succ, levelUp] at ha
  obtain ⟨p, hp, rfl⟩ := List.mem_map.mp ha
  apply List.mem_map_of_mem (mem_nodePairs hk hp)

/-- Where the nodes of the trees determine their pairs, the roots agree when the list with the lower
tree and the level of the other tree with as many levels above it have the same padded leaves. -/
theorem root?_eq_iff_padded_eq (h : leaves ≠ []) (h' : leaves' ≠ [])
    (hheight : height leaves ≤ height leaves')
    (hnode : ∀ p ∈ nodePairs node leaves, ∀ q ∈ nodePairs node leaves',
      node p.1 p.2 = node q.1 q.2 → p = q) :
  root? node leaves = root? node leaves' ↔
    padded (height leaves) leaves
      = padded (height leaves) (level node leaves' (height leaves' - height leaves))
  := by
  have hlevel : level node leaves' (height leaves')
      = level node (level node leaves' (height leaves' - height leaves)) (height leaves) := by
    rw [level_level, Nat.sub_add_cancel hheight]
  rw [root?_eq_iff h h', hlevel]
  apply level_eq_iff_padded_eq
  intro j hj p hp q hq
  rw [level_level] at hq
  apply hnode p (mem_nodePairs hj hp) q
  apply mem_nodePairs _ hq
  omega

/-- The root determines a list of leaves, together with its length, if the nodes of the trees
determine their pairs. -/
theorem eq_of_root?_eq (node : α → α → α) (hlen : leaves.length = leaves'.length)
    (hnode : ∀ p ∈ nodePairs node leaves, ∀ q ∈ nodePairs node leaves',
      node p.1 p.2 = node q.1 q.2 → p = q)
    (hroot : root? node leaves = root? node leaves') :
  leaves = leaves'
  := by
  rcases eq_or_ne leaves [] with rfl | h
  · exact (List.length_eq_zero_iff.mp hlen.symm).symm
  have h' : leaves' ≠ [] := by
    rw [← List.length_pos_iff, ← hlen]
    apply List.length_pos_iff.mpr h
  have hheight : height leaves = height leaves' := by
    rw [height, height, hlen]
  have hpadded := (root?_eq_iff_padded_eq h h' hheight.le hnode).mp hroot
  rw [hheight, Nat.sub_self, level_zero] at hpadded
  apply eq_of_padded_eq hlen hpadded

/-- The root determines a list of pairwise different leaves among those whose leaves are no nodes of
its tree, and whose tree does not have its leaves as nodes, if the nodes of the trees determine
their pairs. -/
theorem eq_of_root?_eq_of_nodup (h : leaves ≠ []) (h' : leaves' ≠ [])
    (hnodup : leaves.Nodup) (hnodup' : leaves'.Nodup)
    (hleaves : leaves.Disjoint (nodes node leaves'))
    (hleaves' : leaves'.Disjoint (nodes node leaves))
    (hnode : ∀ p ∈ nodePairs node leaves, ∀ q ∈ nodePairs node leaves',
      node p.1 p.2 = node q.1 q.2 → p = q)
    (hroot : root? node leaves = root? node leaves') :
  leaves = leaves'
  := by
  wlog hheight : height leaves ≤ height leaves' generalizing leaves leaves'
  · symm
    apply this h' h hnodup' hnodup hleaves' hleaves _ hroot.symm (not_le.mp hheight).le
    intro p hp q hq heq
    exact (hnode q hq p hp heq.symm).symm
  have hpadded := (root?_eq_iff_padded_eq h h' hheight hnode).mp hroot
  cases hd : height leaves' - height leaves with
  | zero =>
    rw [hd, level_zero] at hpadded
    apply eq_of_padded_eq_of_nodup hnodup hnodup' hpadded
  | succ d =>
    -- The leaves of the lower tree would be nodes of the other one.
    obtain ⟨a, ha⟩ := List.exists_mem_of_ne_nil leaves h
    have hlevel : a ∈ padded (height leaves) leaves := (prefix_padded _ _).subset ha
    rw [hpadded, hd] at hlevel
    exact absurd (mem_nodes (by omega) (padded_subset _ _ hlevel)) (hleaves ha)

end PairTree
