import Mathlib.Data.List.AList

/-!
# Lookups in association lists

What a lookup finds in an association list after an insertion or a removal, and the entries of the
list as what lookups find.
-/

variable {κ ν : Type} [DecidableEq κ] {l : AList fun _ : κ => ν} {k k' : κ} {v v' : ν}

/-- The entries of a list are what lookups find. -/
theorem mem_entries_iff_lookup :
  (⟨k, v⟩ : Sigma fun _ : κ => ν) ∈ l.entries ↔ l.lookup k = some v
  := AList.mem_lookup_iff.symm

/-- A lookup after an insertion finds the new value, or an old value at another key. -/
theorem lookup_insert_eq_some :
  (l.insert k v).lookup k' = some v' ↔ k' = k ∧ v' = v ∨ k' ≠ k ∧ l.lookup k' = some v'
  := by
  by_cases hk : k' = k
  · subst hk
    simp [eq_comm]
  · simp [AList.lookup_insert_ne hk, hk]

/-- A lookup after a removal finds an old value at another key. -/
theorem lookup_erase_eq_some :
  (l.erase k).lookup k' = some v' ↔ k' ≠ k ∧ l.lookup k' = some v'
  := by
  by_cases hk : k' = k
  · subst hk
    simp
  · simp [AList.lookup_erase_ne hk, hk]

/-- What all values have, and a new one too, all values have after it is inserted. -/
theorem forall_lookup_insert {p : ν → Prop} (h : ∀ k v, l.lookup k = some v → p v) (hv : p v) :
  ∀ k' v', (l.insert k v).lookup k' = some v' → p v'
  := by
  intro k' v' hlookup
  rcases lookup_insert_eq_some.mp hlookup with ⟨-, rfl⟩ | ⟨-, hlookup⟩
  · apply hv
  · apply h k' v' hlookup

/-- What all values have, all values have after one is removed. -/
theorem forall_lookup_erase {p : ν → Prop} (h : ∀ k v, l.lookup k = some v → p v) :
  ∀ k' v', (l.erase k).lookup k' = some v' → p v'
  := by
  intro k' v' hlookup
  apply h k' v' (lookup_erase_eq_some.mp hlookup).2

/-- The list without the entries whose keys do not have a property. -/
def filterKeys (l : AList fun _ : κ => ν) (p : κ → Bool) : AList fun _ : κ => ν where
  entries := l.entries.filter fun entry => p entry.1
  nodupKeys := l.nodupKeys.sublist List.filter_sublist

/-- A lookup among the entries whose keys have a property finds an old value at such a key. -/
theorem lookup_filterKeys_eq_some {p : κ → Bool} :
  (filterKeys l p).lookup k = some v ↔ p k = true ∧ l.lookup k = some v
  := by
  rw [← mem_entries_iff_lookup, ← mem_entries_iff_lookup, filterKeys, List.mem_filter, and_comm]

/-! ### Successive insertions -/

/-- Insert values at keys, one after another. -/
def insertAll (l : AList fun _ : κ => ν) (new : List (κ × ν)) : AList fun _ : κ => ν :=
  new.foldl (fun l entry => l.insert entry.1 entry.2) l

/-- Nothing changes at other keys. -/
theorem lookup_insertAll_of_not_mem {new : List (κ × ν)} (hk : k ∉ new.map Prod.fst) :
  (insertAll l new).lookup k = l.lookup k
  := by
  induction new generalizing l with
  | nil => rfl
  | cons entry new ih =>
    rw [List.map_cons, List.mem_cons, not_or] at hk
    rw [insertAll, List.foldl_cons, ← insertAll, ih hk.2]
    apply AList.lookup_insert_ne hk.1

/-- What is found has been inserted, or was there at a key at which nothing is inserted. -/
theorem mem_or_of_lookup_insertAll {new : List (κ × ν)} (h : (insertAll l new).lookup k = some v) :
  (k, v) ∈ new ∨ k ∉ new.map Prod.fst ∧ l.lookup k = some v
  := by
  induction new generalizing l with
  | nil => exact Or.inr ⟨List.not_mem_nil, h⟩
  | cons entry new ih =>
    rcases ih h with hmem | ⟨hk, hlookup⟩
    · exact Or.inl (List.mem_cons_of_mem _ hmem)
    · rcases lookup_insert_eq_some.mp hlookup with ⟨rfl, rfl⟩ | ⟨hne, hlookup⟩
      · exact Or.inl List.mem_cons_self
      · right
        refine ⟨?_, hlookup⟩
        rw [List.map_cons, List.mem_cons, not_or]
        exact ⟨hne, hk⟩

/-- After the same insertions, two lists agree where they agreed at the other keys before. -/
theorem lookup_insertAll_congr {l' : AList fun _ : κ => ν} {new : List (κ × ν)}
    (h : ∀ k, k ∉ new.map Prod.fst → l.lookup k = l'.lookup k) (k : κ) :
  (insertAll l new).lookup k = (insertAll l' new).lookup k
  := by
  induction new generalizing l l' with
  | nil => apply h k List.not_mem_nil
  | cons entry new ih =>
    apply ih
    intro k hk
    by_cases heq : k = entry.1
    · rw [heq, AList.lookup_insert, AList.lookup_insert]
    · rw [AList.lookup_insert_ne heq, AList.lookup_insert_ne heq]
      apply h k
      rw [List.map_cons, List.mem_cons, not_or]
      exact ⟨heq, hk⟩

/-- What is inserted at different keys is found. -/
theorem lookup_insertAll_of_mem {new : List (κ × ν)} (hnew : (new.map Prod.fst).Nodup)
    {entry : κ × ν} (hentry : entry ∈ new) :
  (insertAll l new).lookup entry.1 = some entry.2
  := by
  induction new generalizing l with
  | nil => cases hentry
  | cons first rest ih =>
    obtain ⟨hfirst, hrest⟩ := List.nodup_cons.mp hnew
    rw [insertAll, List.foldl_cons, ← insertAll]
    rcases List.mem_cons.mp hentry with rfl | hentry
    · rw [lookup_insertAll_of_not_mem hfirst]
      apply AList.lookup_insert
    · apply ih hrest hentry

/-- After the first `n` insertions at different keys, these values are found, and the others are as
before. -/
theorem lookup_insertAll_take {new : List (κ × ν)} (hnew : (new.map Prod.fst).Nodup) {i : ℕ}
    {entry : κ × ν} (hi : new[i]? = some entry) (n : ℕ) :
  (insertAll l (new.take n)).lookup entry.1 = if i < n then some entry.2 else l.lookup entry.1
  := by
  have hfirst : ((new.take n).map Prod.fst).Nodup := by
    rw [List.map_take]
    apply hnew.sublist (List.take_sublist _ _)
  split
  · rename_i hlt
    apply lookup_insertAll_of_mem hfirst
    apply List.mem_of_getElem? (i := i)
    rw [List.getElem?_take_of_lt hlt, hi]
  · rename_i hge
    apply lookup_insertAll_of_not_mem
    intro hmem
    obtain ⟨j, hj⟩ := List.mem_iff_getElem?.mp hmem
    have hlt : j < n := by
      by_contra hnlt
      rw [List.map_take, List.getElem?_take_eq_none (not_lt.mp hnlt)] at hj
      cases hj
    rw [List.map_take, List.getElem?_take_of_lt hlt] at hj
    have hij : (new.map Prod.fst)[i]? = (new.map Prod.fst)[j]? := by
      rw [hj, List.getElem?_map, hi]
      rfl
    have hlen : i < (new.map Prod.fst).length := by
      rw [List.length_map]
      apply (List.getElem?_eq_some_iff.mp hi).1
    obtain rfl := (List.getElem?_inj hlen hnew).mp hij
    apply hge hlt
