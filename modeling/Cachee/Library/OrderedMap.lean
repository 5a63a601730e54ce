import Cachee.Library.Bytes
import Mathlib.Data.List.Sort
import Std.Data.ExtTreeMap

/-!
# Ordered maps listed in key order

Maps from keys of a linear comparison to values.  A map is determined by the list of its
entries in key order; inserting above all keys appends to the list, and inserting at the
last key replaces the last entry.  A database is such a map from byte strings to byte
strings, in the lexicographic order of its keys.
-/

open Std

variable {κ ν : Type} [Ord κ] [TransOrd κ]

/-- The order on the entries of a map: that of their keys. -/
abbrev EntryLt (a b : κ × ν) : Prop := compare a.1 b.1 = .lt

theorem EntryLt.irrefl (a : κ × ν) :
  ¬ EntryLt a a
  := by
  intro h
  rw [EntryLt, compare_self] at h
  cases h

theorem nodup_of_ordered {l : List (κ × ν)} (hl : l.Pairwise EntryLt) :
  l.Nodup
  := by
  apply hl.imp
  rintro a _ hlt rfl
  apply EntryLt.irrefl a hlt

/-- Two lists of entries in strict key order with the same entries are equal. -/
theorem eq_of_ordered {l l' : List (κ × ν)} (hl : l.Pairwise EntryLt) (hl' : l'.Pairwise EntryLt)
    (h : ∀ p, p ∈ l ↔ p ∈ l') :
  l = l'
  := by
  apply List.Perm.eq_of_pairwise _ hl hl'
  · apply (List.perm_ext_iff_of_nodup (nodup_of_ordered hl) (nodup_of_ordered hl')).mpr h
  · intro a b _ _ hab hba
    apply absurd (TransCmp.lt_trans hab hba) (EntryLt.irrefl a)

variable [LawfulEqOrd κ] {t : ExtTreeMap κ ν compare} {k : κ} {v : ν}

/-- A list in strict key order with the entries of a map is the list of its entries. -/
theorem toList_eq_of_ordered {l : List (κ × ν)} (hl : l.Pairwise EntryLt)
    (h : ∀ a b, (a, b) ∈ l ↔ t[a]? = some b) :
  t.toList = l
  := by
  apply eq_of_ordered ExtTreeMap.ordered_keys_toList hl
  rintro ⟨a, b⟩
  rw [h, ExtTreeMap.mem_toList_iff_getElem?_eq_some]

/-- The entries after an insertion: the new one, and the old ones at other keys. -/
theorem getElem?_insert_eq_some {a : κ} {b : ν} :
  (t.insert k v)[a]? = some b ↔ k = a ∧ v = b ∨ k ≠ a ∧ (a, b) ∈ t.toList
  := by
  rw [ExtTreeMap.getElem?_insert, ExtTreeMap.mem_toList_iff_getElem?_eq_some]
  by_cases hk : k = a
  · subst hk
    simp
  · simp [hk]

/-- Inserting a key above all others appends its entry. -/
theorem toList_insert_above (h : ∀ p ∈ t.toList, compare p.1 k = .lt) :
  (t.insert k v).toList = t.toList ++ [(k, v)]
  := by
  apply toList_eq_of_ordered
  · apply List.pairwise_append.mpr
    use ExtTreeMap.ordered_keys_toList, List.pairwise_singleton _ _
    intro a ha b hb
    obtain rfl := List.mem_singleton.mp hb
    apply h a ha
  · intro a b
    rw [getElem?_insert_eq_some, List.mem_append, List.mem_singleton, Prod.mk.injEq]
    constructor
    · rintro (hmem | ⟨rfl, rfl⟩)
      · right
        constructor
        · rintro rfl
          apply absurd (h _ hmem) (EntryLt.irrefl (k, b))
        · apply hmem
      · left
        exact ⟨rfl, rfl⟩
    · rintro (⟨rfl, rfl⟩ | ⟨-, hmem⟩)
      · right
        exact ⟨rfl, rfl⟩
      · left
        apply hmem

/-- Inserting at a key that is present replaces its entry. -/
theorem toList_insert_present {l r : List (κ × ν)} {w : ν} (h : t.toList = l ++ (k, w) :: r) :
  (t.insert k v).toList = l ++ (k, v) :: r
  := by
  have hord : t.toList.Pairwise EntryLt := ExtTreeMap.ordered_keys_toList
  rw [h, List.pairwise_append, List.pairwise_cons] at hord
  obtain ⟨hl, ⟨habove, hr⟩, hbelow⟩ := hord
  have hne : ∀ p ∈ l ++ r, p.1 ≠ k := by
    rintro ⟨a, b⟩ hp rfl
    rcases List.mem_append.mp hp with hp | hp
    · apply EntryLt.irrefl (a, b) (hbelow _ hp (a, w) List.mem_cons_self)
    · apply EntryLt.irrefl (a, b) (habove _ hp)
  apply toList_eq_of_ordered
  · rw [List.pairwise_append, List.pairwise_cons]
    refine ⟨hl, ⟨habove, hr⟩, ?_⟩
    intro a ha b hb
    rcases List.mem_cons.mp hb with rfl | hb
    · apply hbelow a ha _ List.mem_cons_self
    · apply hbelow a ha b (List.mem_cons_of_mem _ hb)
  · intro a b
    rw [getElem?_insert_eq_some, h]
    simp only [List.mem_append, List.mem_cons, Prod.mk.injEq] at hne ⊢
    constructor
    · rintro (hmem | ⟨rfl, rfl⟩ | hmem)
      · right
        exact ⟨fun hk => hne _ (Or.inl hmem) hk.symm, Or.inl hmem⟩
      · left
        exact ⟨rfl, rfl⟩
      · right
        exact ⟨fun hk => hne _ (Or.inr hmem) hk.symm, Or.inr (Or.inr hmem)⟩
    · rintro (⟨rfl, rfl⟩ | ⟨hk, hmem | ⟨rfl, -⟩ | hmem⟩)
      · right
        left
        exact ⟨rfl, rfl⟩
      · left
        apply hmem
      · exact absurd rfl hk
      · right
        right
        apply hmem

/-- The entries that are left when some keys are removed. -/
theorem toList_filter_keys {p : κ → Bool} :
  (t.filter fun a _ => p a).toList = t.toList.filter fun item => p item.1
  := by
  apply toList_eq_of_ordered
  · apply ExtTreeMap.ordered_keys_toList.filter
  · intro a b
    rw [List.mem_filter, ExtTreeMap.mem_toList_iff_getElem?_eq_some, ExtTreeMap.getElem?_filter',
      Option.filter_eq_some_iff]

/-! ### Databases -/

/-- A database: an ordered map from byte strings to byte strings. -/
abbrev Database := ExtTreeMap Bytes Bytes compare

/-- The failures of a write, with the message of the database: of the insertion, or of the
flush after the entry has been inserted. -/
inductive WriteFault where
  | insert (e : String)
  | flush (e : String)
