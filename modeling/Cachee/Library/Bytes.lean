import Mathlib.Tactic
import Mathlib.Data.List.Basic

/-!
# Bytes

Byte strings, blocks of a fixed number of bytes, and the big-endian encoding of a
natural number on a fixed number of bytes.  On numbers that fit, the encoding is
inverted by `beNat`, and the lexicographic order of the encodings is the order of the
numbers.  An optional value is encoded after a flag byte.
-/

/-- A byte string. -/
abbrev Bytes := List UInt8

/-- A byte string of length `n`. -/
abbrev Block (n : ℕ) := { bs : Bytes // bs.length = n }

namespace Block

/-- The block of `n` zero bytes. -/
def zero (n : ℕ) : Block n := ⟨List.replicate n 0, List.length_replicate⟩

/-- The byte string `bs` as a block, when it has the length of one. -/
def ofBytes? (n : ℕ) (bs : Bytes) : Option (Block n) :=
  if h : bs.length = n then some ⟨bs, h⟩ else none

@[simp]
theorem ofBytes?_val {n : ℕ} (b : Block n) :
  ofBytes? n b.1 = some b
  := by
  simp [ofBytes?, b.2]

/-- A byte string is a block when it is the byte string of that block. -/
theorem ofBytes?_eq_some_iff {n : ℕ} {bs : Bytes} {b : Block n} :
  ofBytes? n bs = some b ↔ bs = b.1
  := by
  constructor
  · intro h
    rw [ofBytes?] at h
    split at h
    · obtain rfl := Option.some.inj h
      rfl
    · cases h
  · rintro rfl
    apply ofBytes?_val

end Block

/-- The hash function `hash` does not collide on two messages. -/
def NoCollision {n : ℕ} (hash : Bytes → Block n) (x y : Bytes) : Prop :=
  hash x = hash y → x = y

/-- Where a hash function does not collide, equal hashes mean equal messages. -/
theorem NoCollision.eq_iff {n : ℕ} {hash : Bytes → Block n} {x y : Bytes}
    (h : NoCollision hash x y) :
  hash x = hash y ↔ x = y
  := ⟨h, congrArg hash⟩

/-- Two pairs of byte strings with first parts of equal length are equal when their
concatenations are. -/
theorem Block.append_inj_iff {n : ℕ} {a b : Block n} {x y : Bytes} :
  a.1 ++ x = b.1 ++ y ↔ a = b ∧ x = y
  := by
  constructor
  · intro h
    obtain ⟨hval, hrest⟩ := List.append_inj h (a.2.trans b.2.symm)
    exact ⟨Subtype.ext hval, hrest⟩
  · rintro ⟨rfl, rfl⟩
    rfl

/-- The number `n` on `w` bytes, most significant byte first, modulo `256 ^ w`. -/
def beBytes : ℕ → ℕ → Bytes
  | 0, _ => []
  | w + 1, n => UInt8.ofNat (n / 256 ^ w) :: beBytes w n

/-- The number whose big-endian digits in base 256 are the given bytes. -/
def beNat : Bytes → ℕ
  | [] => 0
  | b :: bs => b.toNat * 256 ^ bs.length + beNat bs

@[simp]
theorem length_beBytes (w n : ℕ) :
  (beBytes w n).length = w
  := by
  induction w with
  | zero => rfl
  | succ w ih => simp [beBytes, ih]

/-- Reading back the encoding of `n` on `w` bytes gives `n` modulo `256 ^ w`. -/
theorem beNat_beBytes (w n : ℕ) :
  beNat (beBytes w n) = n % 256 ^ w
  := by
  induction w with
  | zero => simp [beBytes, beNat, Nat.mod_one]
  | succ w ih =>
    simp only [beBytes, beNat, length_beBytes, ih]
    have hdigit : (UInt8.ofNat (n / 256 ^ w)).toNat = n / 256 ^ w % 256 := by simp
    rw [hdigit, pow_succ, Nat.mod_mul, Nat.mul_comm, Nat.add_comm]

/-- A number that fits on `w` bytes is read back from its encoding. -/
theorem beNat_beBytes_of_lt {w n : ℕ} (h : n < 256 ^ w) :
  beNat (beBytes w n) = n
  := by
  rw [beNat_beBytes, Nat.mod_eq_of_lt h]

/-- A 64-bit number is determined by its encoding. -/
theorem beBytes_toNat_injective :
  Function.Injective fun n : UInt64 => beBytes 8 n.toNat
  := by
  intro m n h
  have hval := congrArg beNat h
  simp only [beNat_beBytes_of_lt (w := 8) (UInt64.toNat_lt _)] at hval
  apply UInt64.toNat_inj.mp hval

/-- The leading digit and the remainder of a number decide its order. -/
theorem lt_iff_digits (w m n : ℕ) :
  m < n ↔ m / 256 ^ w < n / 256 ^ w ∨ m / 256 ^ w = n / 256 ^ w ∧ m % 256 ^ w < n % 256 ^ w
  := by
  have hpos : 0 < 256 ^ w := Nat.pow_pos (by decide)
  have hm := Nat.div_add_mod m (256 ^ w)
  have hn := Nat.div_add_mod n (256 ^ w)
  have hmr := Nat.mod_lt m hpos
  have hnr := Nat.mod_lt n hpos
  constructor
  · intro h
    rcases Nat.lt_or_ge (m / 256 ^ w) (n / 256 ^ w) with hlt | hge
    · left
      apply hlt
    · right
      have heq : m / 256 ^ w = n / 256 ^ w :=
        Nat.le_antisymm (Nat.div_le_div_right h.le) hge
      use heq
      rw [heq] at hm
      omega
  · rintro (h | ⟨h, hr⟩)
    · apply Nat.lt_of_div_lt_div h
    · rw [h] at hm
      omega

/-- On `w` bytes the encoding depends on the number modulo `256 ^ w` only. -/
theorem beBytes_mod (w n : ℕ) :
  beBytes w (n % 256 ^ w) = beBytes w n
  := by
  have aux : ∀ k v, k ≤ v → beBytes k (n % 256 ^ v) = beBytes k n := by
    intro k v
    induction k with
    | zero => intro _; rfl
    | succ k ih =>
      intro hk
      simp only [beBytes, ih (by omega)]
      congr 1
      obtain ⟨d, rfl⟩ := Nat.exists_eq_add_of_le hk
      have hsplit : 256 ^ (k + 1 + d) = 256 ^ k * (256 * 256 ^ d) := by ring
      apply UInt8.toNat_inj.mp
      simp only [UInt8.toNat_ofNat']
      rw [hsplit, Nat.mod_mul_right_div_self, Nat.mod_mul_right_mod]
  apply aux w w le_rfl

theorem beNat_lt (bs : Bytes) :
  beNat bs < 256 ^ bs.length
  := by
  induction bs with
  | nil => simp [beNat]
  | cons b bs ih =>
    have hb : b.toNat + 1 ≤ 256 := b.toNat_lt
    calc b.toNat * 256 ^ bs.length + beNat bs
      _ < (b.toNat + 1) * 256 ^ bs.length := by rw [Nat.succ_mul]; omega
      _ ≤ 256 * 256 ^ bs.length := Nat.mul_le_mul_right _ hb
      _ = 256 ^ (b :: bs).length := by rw [List.length_cons, pow_succ, Nat.mul_comm]

/-- A byte string is the encoding of the number it stands for, on as many bytes. -/
theorem beBytes_beNat (bs : Bytes) :
  beBytes bs.length (beNat bs) = bs
  := by
  induction bs with
  | nil => rfl
  | cons b bs ih =>
    have hlt := beNat_lt bs
    have hpos : 0 < 256 ^ bs.length := Nat.pow_pos (by decide)
    have hdigit : (b.toNat * 256 ^ bs.length + beNat bs) / 256 ^ bs.length = b.toNat := by
      rw [Nat.mul_comm, Nat.mul_add_div hpos, Nat.div_eq_of_lt hlt, Nat.add_zero]
    have hrest : beBytes bs.length (b.toNat * 256 ^ bs.length + beNat bs) = bs := by
      rw [← beBytes_mod, Nat.mul_add_mod_self_right, Nat.mod_eq_of_lt hlt, ih]
    rw [List.length_cons, beBytes, beNat, hdigit, hrest, UInt8.ofNat_toNat]

/-- The lexicographic order of encodings on `w` bytes is the order of the numbers. -/
theorem compare_beBytes {w m n : ℕ} (hn : n < 256 ^ w) (h : m < n) :
  compare (beBytes w m) (beBytes w n) = .lt
  := by
  induction w generalizing m n with
  | zero => simp at hn; omega
  | succ w ih =>
    have hn' : n / 256 ^ w < 256 := by
      apply Nat.div_lt_of_lt_mul
      rw [pow_succ] at hn
      omega
    rw [beBytes, beBytes, List.compare_cons_cons]
    rcases (lt_iff_digits w m n).mp h with hd | ⟨hd, hr⟩
    · have hlt : compare (UInt8.ofNat (m / 256 ^ w)) (UInt8.ofNat (n / 256 ^ w)) = .lt := by
        rw [Std.compare_eq_lt, UInt8.lt_iff_toNat_lt]
        simp only [UInt8.toNat_ofNat']
        rw [Nat.mod_eq_of_lt hn', Nat.mod_eq_of_lt (hd.trans hn')]
        apply hd
      rw [hlt]
      rfl
    · rw [hd, Std.compare_self]
      apply Eq.trans _ (ih (Nat.mod_lt n (Nat.pow_pos (by decide))) hr)
      rw [beBytes_mod, beBytes_mod]
      rfl

/-! ### Optional values -/

section Flagged

variable {α : Type}

/-- The flag byte that tells whether a value follows. -/
def flagOf (a : Option α) : UInt8 := if a.isSome then 1 else 0

/-- A flag byte, and the encoding of a value if there is one. -/
def flaggedBytes (encode : α → Bytes) (flag : UInt8) (a : Option α) : Bytes :=
  flag :: a.elim [] encode

theorem flagOf_eq_one_iff {a : Option α} :
  flagOf a = 1 ↔ a.isSome
  := by
  cases a with
  | none => simp [flagOf]
  | some a => simp [flagOf]

/-- A flag that stands for the absence or the presence of a value is that of the value when it
is 0 or 1. -/
theorem eq_flagOf_iff {flag : UInt8} {a : Option α} (h : flag = 1 ↔ a.isSome) :
  flag = flagOf a ↔ flag = 0 ∨ flag = 1
  := by
  cases a with
  | none =>
    simp only [Option.isSome_none, Bool.false_eq_true, iff_false] at h
    simp [flagOf, h]
  | some a =>
    simp only [Option.isSome_some, iff_true] at h
    simp [flagOf, h]

end Flagged
