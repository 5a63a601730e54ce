import Cachee.Audit.Log
import Cachee.Crypto
import Cachee.Library.PairTree

/-!
# Merkle roots

The Merkle root of a list of hashes is the root of a tree of pairs, whose nodes are hashes of the
concatenations of their pairs.  So the loop over the levels ends, after as many rounds as the tree
is high, and lists of the same length with the same root are equal, if the hash function does not
collide on what is hashed for them.
-/

open PairTree

namespace Cachee

section Definitions

variable (sha3 : Bytes → Block 32)

/-- The hash of a pair of hashes. -/
def hashPair (a b : Block 32) : Block 32 := sha3 (a.1 ++ b.1)

/-- The messages that are hashed for the Merkle root of a list of hashes. -/
def merkleMessages (leaves : List (Block 32)) : List Bytes :=
  (nodePairs (hashPair sha3) leaves).map fun p => p.1.1 ++ p.2.1

/-- The loop over the levels ends after a number of rounds: all levels before have more than one
hash, and the root is the only hash of the last one, or there are no hashes at all. -/
structure LoopEnds (leaves : List (Block 32)) (rounds : ℕ) : Prop where
  continues : ∀ k < rounds, 1 < ((nextLevel sha3)^[k] leaves).length
  ends : ((nextLevel sha3)^[rounds] leaves).length ≤ 1
  root : merkleRoot sha3 leaves = ((nextLevel sha3)^[rounds] leaves).headD (Block.zero 32)

end Definitions

variable {sha3 : Bytes → Block 32} {leaves leaves' : List (Block 32)}

theorem nextLevel_eq (sha3 : Bytes → Block 32) :
  nextLevel sha3 = levelUp (hashPair sha3)
  := by
  funext leaves
  induction leaves using nextLevel.induct with
  | case1 => rfl
  | case2 a => rfl
  | case3 a b rest ih =>
    rw [nextLevel, ih]
    rfl

/-- With enough fuel for the height of the tree, the loop reaches the root. -/
theorem climbLevels_eq {fuel : ℕ} (h : height leaves ≤ fuel) :
  climbLevels sha3 fuel leaves
    = (level (hashPair sha3) leaves (height leaves)).headD (Block.zero 32)
  := by
  induction fuel generalizing leaves with
  | zero =>
    rw [Nat.le_zero.mp h, level_zero]
    rfl
  | succ fuel ih =>
    rw [climbLevels]
    split
    · rename_i hlt
      rw [height_eq_succ (hashPair sha3) hlt] at h
      rw [nextLevel_eq, ih (Nat.le_of_succ_le_succ h), level_levelUp,
        height_eq_succ (hashPair sha3) hlt]
    · rename_i hle
      rw [height_eq_zero (not_lt.mp hle), level_zero]

/-- The fuel of the number of leaves is enough. -/
theorem height_le_length (leaves : List (Block 32)) :
  height leaves ≤ leaves.length
  := Nat.clog_le_of_le_pow Nat.lt_two_pow_self.le

/-- The Merkle root is the root of the tree of pairs. -/
theorem merkleRoot_eq (sha3 : Bytes → Block 32) (leaves : List (Block 32)) :
  merkleRoot sha3 leaves
    = (level (hashPair sha3) leaves (height leaves)).headD (Block.zero 32)
  := by
  match leaves with
  | [] => rfl
  | [leaf] =>
    rw [height_eq_zero (by simp), level_zero]
    rfl
  | a :: b :: rest =>
    rw [← climbLevels_eq (height_le_length _)]
    rfl

/-- The loop ends after as many rounds as the tree is high. -/
theorem loopEnds (sha3 : Bytes → Block 32) (leaves : List (Block 32)) :
  LoopEnds sha3 leaves (height leaves)
  := by
  have hlevel (k : ℕ) : (nextLevel sha3)^[k] leaves = level (hashPair sha3) leaves k := by
    rw [nextLevel_eq]
    rfl
  constructor
  · intro k hk
    rw [hlevel]
    apply one_lt_length_level hk
  · rw [hlevel]
    rcases eq_or_ne leaves [] with rfl | hne
    · simp [height, level]
    · rw [length_level_height _ hne]
  · rw [hlevel]
    apply merkleRoot_eq

/-- Over any leaves at all, the Merkle root is the item of the last level. -/
theorem root?_eq_merkleRoot (h : leaves ≠ []) :
  root? (hashPair sha3) leaves = some (merkleRoot sha3 leaves)
  := by
  obtain ⟨root, hroot⟩ := List.length_eq_one_iff.mp
    (length_level_height (hashPair sha3) h)
  rw [root?, merkleRoot_eq, hroot]
  rfl

/-- Pairs with the same node are equal if the hash function does not collide on their messages. -/
theorem eq_of_hashPair_eq {p q : Block 32 × Block 32}
    (h : NoCollision sha3 (p.1.1 ++ p.2.1) (q.1.1 ++ q.2.1))
    (hnode : hashPair sha3 p.1 p.2 = hashPair sha3 q.1 q.2) :
  p = q
  := by
  obtain ⟨hfst, hsnd⟩ := Block.append_inj_iff.mp (h hnode)
  exact Prod.ext hfst (Subtype.ext hsnd)

/-- The nodes of two trees determine their pairs if the hash function does not collide on what is
hashed for them. -/
theorem eq_of_mem_nodePairs
    (hcollision : ∀ x ∈ merkleMessages sha3 leaves, ∀ y ∈ merkleMessages sha3 leaves',
      NoCollision sha3 x y) :
  ∀ p ∈ nodePairs (hashPair sha3) leaves, ∀ q ∈ nodePairs (hashPair sha3) leaves',
    hashPair sha3 p.1 p.2 = hashPair sha3 q.1 q.2 → p = q
  := by
  intro p hp q hq
  apply eq_of_hashPair_eq
  apply hcollision _ (List.mem_map_of_mem hp) _ (List.mem_map_of_mem hq)

/-- Over any leaves at all, the Merkle roots agree when the roots of the trees do. -/
theorem root?_hashPair_eq_iff (h : leaves ≠ []) (h' : leaves' ≠ []) :
  root? (hashPair sha3) leaves = root? (hashPair sha3) leaves' ↔
    merkleRoot sha3 leaves = merkleRoot sha3 leaves'
  := by
  rw [root?_eq_merkleRoot h, root?_eq_merkleRoot h', Option.some_inj]

/-- For any number of leaves, the Merkle root determines the leaves if the hash function does not
collide on what is hashed for them, and the loop over the levels ends after as many rounds as the
logarithm of their number. -/
theorem merkleRoot_binding_and_loopEnds (sha3 : Bytes → Block 32) (n : ℕ) :
  (∀ leaves leaves' : List (Block 32), leaves.length = n → leaves'.length = n →
    (∀ x ∈ merkleMessages sha3 leaves, ∀ y ∈ merkleMessages sha3 leaves', NoCollision sha3 x y) →
    merkleRoot sha3 leaves = merkleRoot sha3 leaves' → leaves = leaves') ∧
  ∀ leaves : List (Block 32), leaves.length = n → LoopEnds sha3 leaves (Nat.clog 2 n)
  := by
  constructor
  · intro leaves leaves' hn hn' hcollision hroot
    rcases eq_or_ne leaves [] with rfl | hne
    · rw [← hn] at hn'
      exact (List.length_eq_zero_iff.mp hn').symm
    have hne' : leaves' ≠ [] := by
      rw [← List.length_pos_iff, hn', ← hn]
      apply List.length_pos_iff.mpr hne
    apply eq_of_root?_eq (hashPair sha3) (hn.trans hn'.symm) (eq_of_mem_nodePairs hcollision)
    apply (root?_hashPair_eq_iff hne hne').mpr hroot
  · rintro leaves rfl
    apply loopEnds

/-- The block of the number `n`. -/
def numberedBlock (n : ℕ) : Block 32 := ⟨beBytes 32 n, length_beBytes _ _⟩

/-- Three leaves whose odd last one is paired with itself, and others that differ in it, have
different roots. -/
theorem merkleRoot_ne_of_last_ne :
  merkleRoot primeHash [numberedBlock 1, numberedBlock 2, numberedBlock 3]
    ≠ merkleRoot primeHash [numberedBlock 1, numberedBlock 2, numberedBlock 4]
  := by
  intro hroot
  have hleaves := (merkleRoot_binding_and_loopEnds primeHash 3).1
    [numberedBlock 1, numberedBlock 2, numberedBlock 3]
    [numberedBlock 1, numberedBlock 2, numberedBlock 4] rfl rfl (by
      unfold NoCollision
      decide +kernel) hroot
  revert hleaves
  decide +kernel

end Cachee
