import Cachee.Daemon.Effects
import Cachee.Library.Inevitable
import Cachee.Library.Lookup

/-!
# Chains of superseded slots

A superseded slot names the content address of its successor, and a chain goes on at every slot
with that address.  A chain does not end if it comes back to where it was, which a `SUPERSEDE`
achieves when the old slot is found from the new one, or if no slot has the address, which happens
when the last slot with it is replaced or deleted.
-/

open Text Relation

namespace Cachee

/-- The slot of the second key has the address of the successor of the slot of the first. -/
def Follows (slots : AList fun _ : String => CacheSlot) (key key' : String) : Prop :=
  ∃ slot slot', slots.lookup key = some slot ∧ slots.lookup key' = some slot' ∧
    slot.state = .superseded slot'.contentAddress

/-- The key has a slot that is not superseded. -/
def Settled (slots : AList fun _ : String => CacheSlot) (key : String) : Prop :=
  ∃ slot, slots.lookup key = some slot ∧ ∀ address, slot.state ≠ .superseded address

/-- From every slot, following successors reaches a slot that is not superseded. -/
def ChainsEnd (slots : AList fun _ : String => CacheSlot) : Prop :=
  ∀ key slot, slots.lookup key = some slot → Inevitable (Follows slots) (Settled slots) key

/-- Another key than `key` has a slot with the address. -/
def HeldByOther (slots : AList fun _ : String => CacheSlot) (key : String) (address : Block 32) :
    Prop :=
  ∃ key' slot, key' ≠ key ∧ slots.lookup key' = some slot ∧ slot.contentAddress = address

/-- The address is that of the successor of the slot of another key than `key`. -/
def FollowedByOther (slots : AList fun _ : String => CacheSlot) (key : String)
    (address : Block 32) : Prop :=
  ∃ key' slot, key' ≠ key ∧ slots.lookup key' = some slot ∧ slot.state = .superseded address

/-- The event neither takes away the last slot at which a chain goes on, nor supersedes a slot to
which a slot with the address of the new one leads. -/
structure KeepsChains (ext : Externals) (cfg : DaemonConfig) (s : DaemonState) (e : DaemonEvent) :
    Prop where
  set : ∀ key value fingerprint slot, e.set? cfg = some (key, value, fingerprint) →
    s.slots.lookup key = some slot → FollowedByOther s.slots key slot.contentAddress →
      CacheSlot.computeContentAddress ext.sha3 (asBytes value) fingerprint = slot.contentAddress ∨
        HeldByOther s.slots key slot.contentAddress
  delete : ∀ key slot, e.del? = some key → s.slots.lookup key = some slot →
    FollowedByOther s.slots key slot.contentAddress → HeldByOther s.slots key slot.contentAddress
  supersede : ∀ oldKey newKey slot successor, e.supersede? = some (oldKey, newKey) →
    s.slots.lookup oldKey = some slot → slot.state = .active →
      s.slots.lookup newKey = some successor → ∀ key slot', s.slots.lookup key = some slot' →
        slot'.contentAddress = successor.contentAddress →
          ¬ ReflTransGen (Follows s.slots) key oldKey

section Slots

variable {slots slots' : AList fun _ : String => CacheSlot} {key key' : String} {slot : CacheSlot}

/-- No chain goes on at a slot that is not superseded. -/
theorem Settled.not_follows (h : Settled slots key) :
  ¬ Follows slots key key'
  := by
  rintro ⟨slot', successor, hslot', -, hstate⟩
  obtain ⟨slot, hslot, hsettled⟩ := h
  obtain rfl := Option.some.inj (hslot.symm.trans hslot')
  apply hsettled _ hstate

/-- A slot that is not superseded leads to no other slot. -/
theorem Settled.not_reaches (h : Settled slots key) (hne : key ≠ key') :
  ¬ ReflTransGen (Follows slots) key key'
  := by
  intro hreaches
  rcases ReflTransGen.cases_head hreaches with heq | ⟨key₁, hfollows, -⟩
  · exact hne heq
  · exact h.not_follows hfollows

/-- There is no cycle of successors where chains end. -/
theorem ChainsEnd.not_transGen (h : ChainsEnd slots) :
  ¬ TransGen (Follows slots) key key
  := by
  intro hcycle
  obtain ⟨key', ⟨slot, slot', hslot, -, -⟩, -⟩ := TransGen.head'_iff.mp hcycle
  apply (h key slot hslot).not_transGen _ hcycle
  intro key₁ key₂ hsettled
  apply hsettled.not_follows

/-- Chains end after the slot of a key has been removed or replaced by one that is not superseded,
if a slot with its old address is left for the chains that went on there. -/
theorem ChainsEnd.replace (h : ChainsEnd slots)
    (hother : ∀ key', key' ≠ key → slots'.lookup key' = slots.lookup key')
    (hkey : ∀ slot', slots'.lookup key = some slot' → Settled slots' key)
    (hleft : ∀ slot, slots.lookup key = some slot → FollowedByOther slots key slot.contentAddress →
      ∃ key' slot', slots'.lookup key' = some slot' ∧ slot'.contentAddress = slot.contentAddress) :
  ChainsEnd slots'
  := by
  intro key₁ slot₁ hslot₁
  by_cases hne : key₁ = key
  · subst hne
    exact .stop (hkey slot₁ hslot₁)
  rw [hother key₁ hne] at hslot₁
  refine (h key₁ slot₁ hslot₁).redirect (p := fun key' => key' ≠ key) hne ?_ ?_ ?_
  · rintro key₂ hne₂ ⟨slot₂, hslot₂, hsettled⟩
    rw [← hother key₂ hne₂] at hslot₂
    exact ⟨slot₂, hslot₂, hsettled⟩
  · rintro key₂ key₃ hne₂ ⟨slot₂, slot₃, hslot₂, hslot₃, hstate⟩
    have hslot₂' := hslot₂
    rw [← hother key₂ hne₂] at hslot₂'
    by_cases hne₃ : key₃ = key
    · subst hne₃
      obtain ⟨key', slot', hslot', haddress⟩ :=
        hleft slot₃ hslot₃ ⟨key₂, slot₂, hne₂, hslot₂, hstate⟩
      exact ⟨key', slot₂, slot', hslot₂', hslot', haddress ▸ hstate⟩
    · rw [← hother key₃ hne₃] at hslot₃
      exact ⟨key₃, slot₂, slot₃, hslot₂', hslot₃, hstate⟩
  · rintro key₂ key₃ hne₂ ⟨slot₂, slot₃, hslot₂, hslot₃, hstate⟩
    by_cases hne₃ : key₃ = key
    · subst hne₃
      left
      apply hkey slot₃ hslot₃
    · right
      rw [hother key₂ hne₂] at hslot₂
      rw [hother key₃ hne₃] at hslot₃
      exact ⟨hne₃, slot₂, slot₃, hslot₂, hslot₃, hstate⟩

/-- Changing the state of a slot keeps all addresses. -/
theorem exists_lookup_insert_iff {state : EntryState} {address : Block 32}
    (hslot : slots.lookup key = some slot) :
  (∃ slot', (slots.insert key { slot with state }).lookup key' = some slot' ∧
    slot'.contentAddress = address) ↔
      ∃ slot', slots.lookup key' = some slot' ∧ slot'.contentAddress = address
  := by
  by_cases hkey : key' = key
  · subst hkey
    simp [hslot]
  · rw [AList.lookup_insert_ne hkey]

/-- An edge goes from a superseded slot to a slot with the address of its successor. -/
theorem follows_iff :
  Follows slots key key' ↔ ∃ slot address, slots.lookup key = some slot ∧
    slot.state = .superseded address ∧
      ∃ slot', slots.lookup key' = some slot' ∧ slot'.contentAddress = address
  := by
  constructor
  · rintro ⟨slot, slot', hslot, hslot', hstate⟩
    exact ⟨slot, _, hslot, hstate, slot', hslot', rfl⟩
  · rintro ⟨slot, address, hslot, hstate, slot', hslot', rfl⟩
    exact ⟨slot, slot', hslot, hslot', hstate⟩

/-- Chains end after an active slot has been superseded, if no slot with the address of its
successor leads to it. -/
theorem ChainsEnd.supersede {newKey : String} {successor : CacheSlot} (h : ChainsEnd slots)
    (hslot : slots.lookup key = some slot) (hsuccessor : slots.lookup newKey = some successor)
    (havoids : ∀ key' slot', slots.lookup key' = some slot' →
      slot'.contentAddress = successor.contentAddress → ¬ ReflTransGen (Follows slots) key' key) :
  ChainsEnd (slots.insert key { slot with state := .superseded successor.contentAddress })
  := by
  intro key₁ slot₁ hslot₁
  obtain ⟨slot₁', hslot₁', -⟩ := (exists_lookup_insert_iff hslot).mp ⟨slot₁, hslot₁, rfl⟩
  refine (h key₁ slot₁' hslot₁').extend (o := key) ?_ ?_ ?_ ?_
  · rintro key₂ hne ⟨slot₂, hslot₂, hsettled⟩
    rw [← AList.lookup_insert_ne hne] at hslot₂
    exact ⟨slot₂, hslot₂, hsettled⟩
  · intro key₂ key₃ hne
    simp only [follows_iff, exists_lookup_insert_iff hslot, AList.lookup_insert_ne hne]
  · use newKey
    apply follows_iff.mpr
    refine ⟨_, _, AList.lookup_insert _, rfl, ?_⟩
    apply (exists_lookup_insert_iff hslot).mpr
    exact ⟨successor, hsuccessor, rfl⟩
  · intro key₂ hfollows
    obtain ⟨slot', address, hslot', hstate, hheld⟩ := follows_iff.mp hfollows
    rw [AList.lookup_insert] at hslot'
    obtain rfl := Option.some.inj hslot'
    obtain rfl := EntryState.superseded.inj hstate
    obtain ⟨slot₂, hslot₂, haddress⟩ := (exists_lookup_insert_iff hslot).mp hheld
    exact ⟨h key₂ slot₂ hslot₂, havoids key₂ slot₂ hslot₂ haddress⟩

end Slots

section Steps

variable {ext : Externals} {cfg : DaemonConfig} {s s' : DaemonState} {e : DaemonEvent}

/-- An event that meets the condition keeps chains ending. -/
theorem ChainsEnd.step (h : ChainsEnd s.slots) (hkeeps : KeepsChains ext cfg s e)
    (hstep : daemonStep ext cfg s e = some s') :
  ChainsEnd s'.slots
  := by
  have hslots := daemonStep_slots hstep
  generalize s'.slots = slots' at hslots ⊢
  cases hslots with
  | same => apply h
  | @set key value fingerprint amb hset =>
    refine h.replace (fun key' hne => AList.lookup_insert_ne hne) ?_ ?_
    · intro _ _
      refine ⟨_, AList.lookup_insert _, ?_⟩
      rintro address ⟨⟩
    · intro slot hslot hfollowed
      rcases hkeeps.set key value fingerprint slot hset hslot hfollowed with
        hsame | ⟨key', slot', hne, hslot', haddress⟩
      · exact ⟨key, _, AList.lookup_insert _, hsame⟩
      · exact ⟨key', slot', (AList.lookup_insert_ne hne).trans hslot', haddress⟩
  | @delete key hdel =>
    refine h.replace (fun key' hne => AList.lookup_erase_ne hne) ?_ ?_
    · intro slot' hslot'
      rw [AList.lookup_erase] at hslot'
      cases hslot'
    · intro slot hslot hfollowed
      obtain ⟨key', slot', hne, hslot', haddress⟩ := hkeeps.delete key slot hdel hslot hfollowed
      exact ⟨key', slot', (AList.lookup_erase_ne hne).trans hslot', haddress⟩
  | @revoke key slot reason now hinvalidate hslot hactive =>
    refine h.replace (fun key' hne => AList.lookup_insert_ne hne) ?_ ?_
    · intro _ _
      refine ⟨_, AList.lookup_insert _, ?_⟩
      rintro address ⟨⟩
    · intro slot' hslot' _
      obtain rfl := Option.some.inj (hslot.symm.trans hslot')
      exact ⟨key, _, AList.lookup_insert _, rfl⟩
  | @supersede oldKey newKey slot successor hsupersede hslot hactive hsuccessor =>
    apply h.supersede hslot hsuccessor
    apply hkeeps.supersede oldKey newKey slot successor hsupersede hslot hactive hsuccessor

/-- Setting a new key keeps chains. -/
theorem keepsChains_of_new {key value : String} {fingerprint : ComputationFingerprint}
    (hset : e.set? cfg = some (key, value, fingerprint)) (hnew : s.slots.lookup key = none)
    (hdel : e.del? = none) (hsupersede : e.supersede? = none) :
  KeepsChains ext cfg s e
  where
  set key' value' fingerprint' slot hset' hslot := by
    obtain ⟨rfl, -⟩ := Prod.mk.inj (Option.some.inj (hset.symm.trans hset'))
    rw [hnew] at hslot
    cases hslot
  delete key' slot hdel' := by
    rw [hdel] at hdel'
    cases hdel'
  supersede oldKey newKey slot successor hsupersede' := by
    rw [hsupersede] at hsupersede'
    cases hsupersede'

end Steps

/-- From a daemon without slots, in every run in which no `SET` or `DEL` takes away the last slot
with the address of a successor, and no `SUPERSEDE` supersedes a slot to which a slot with the
address of its successor leads, following successors ends at a slot that is not superseded, and
there are no cycles. -/
theorem chainsEnd_of_run {ext : Externals} {cfg : DaemonConfig} {s s' : DaemonState}
    {events : List DaemonEvent} (hslots : s.slots = ∅)
    (hkeeps : MeetsAlong (daemonStep ext cfg) (KeepsChains ext cfg) s events)
    (hrun : run (daemonStep ext cfg) s events = some s') :
  ChainsEnd s'.slots ∧ ∀ key, ¬ TransGen (Follows s'.slots) key key
  := by
  have hends : ChainsEnd s'.slots := by
    refine @run_invariant _ _ _ _ (fun s => ChainsEnd s.slots) ?_ _ _ _ ?_ hkeeps hrun
    · intro s₁ e s₂ h hkeep hstep
      apply h.step hkeep hstep
    · intro key slot hslot
      rw [hslots, AList.lookup_empty] at hslot
      cases hslot
  use hends
  intro key
  apply hends.not_transGen

/-- Set `a` to `1`. -/
def setA : DaemonEvent := .command plainAmbient (asBytes "SET a 1")

/-- Set `b` to `2`. -/
def setB : DaemonEvent := .command plainAmbient (asBytes "SET b 2")

/-- Supersede `a` by `b`. -/
def supersedeAB : DaemonEvent := .command plainAmbient (asBytes "SUPERSEDE a b")

/-- Supersede `a` by itself. -/
def supersedeAA : DaemonEvent := .command plainAmbient (asBytes "SUPERSEDE a a")

/-- After `a` has been superseded by `b`, its chain ends. -/
theorem chainsEnd_replaced :
  ∃ s', run (daemonStep plainExternals plainConfig) (.empty "node") [setA, setB, supersedeAB]
      = some s' ∧ Follows s'.slots "a" "b" ∧ ChainsEnd s'.slots
  := by
  have hfirst : (daemonStep plainExternals plainConfig (.empty "node") setA).map
      (fun s => s.slots.lookup "b") = some none := by
    decide +kernel
  have hsecond : (run (daemonStep plainExternals plainConfig) (.empty "node") [setA, setB]).map
      (fun s => decide (∀ entry ∈ s.slots.entries, entry.2.state = .active ∧
        ∀ successor ∈ s.slots.lookup "b", entry.2.contentAddress = successor.contentAddress →
          entry.1 ≠ "a")) = some true := by
    decide +kernel
  have hthird : (run (daemonStep plainExternals plainConfig) (.empty "node")
      [setA, setB, supersedeAB]).map (fun s => (s.slots.lookup "a").bind fun slot =>
        (s.slots.lookup "b").map fun slot' =>
          decide (slot.state = .superseded slot'.contentAddress)) = some (some true) := by
    decide +kernel
  have hkeeps : MeetsAlong (daemonStep plainExternals plainConfig)
      (KeepsChains plainExternals plainConfig) (.empty "node") [setA, setB, supersedeAB] := by
    refine ⟨?_, fun s₁ h₁ => ⟨?_, fun s₂ h₂ => ⟨?_, fun _ _ => trivial⟩⟩⟩
    · exact keepsChains_of_new (show setA.set? plainConfig = some ("a", "1", .empty) by
        decide +kernel) rfl (by decide +kernel) (by decide +kernel)
    · rw [h₁] at hfirst
      exact keepsChains_of_new (show setB.set? plainConfig = some ("b", "2", .empty) by
        decide +kernel) (Option.some.inj hfirst) (by decide +kernel) (by decide +kernel)
    · rw [run_cons_eq_some.mpr ⟨s₁, h₁, run_cons_eq_some.mpr ⟨s₂, h₂, rfl⟩⟩] at hsecond
      have hentries := of_decide_eq_true (Option.some.inj hsecond)
      have hset : supersedeAB.set? plainConfig = none := by decide +kernel
      have hdel : supersedeAB.del? = none := by decide +kernel
      have hsupersede : supersedeAB.supersede? = some ("a", "b") := by decide +kernel
      constructor
      · intro key value fingerprint slot hset'
        rw [hset] at hset'
        cases hset'
      · intro key slot hdel'
        rw [hdel] at hdel'
        cases hdel'
      · intro oldKey newKey slot successor hsupersede' _ _ hsuccessor key slot' hslot' haddress
        obtain ⟨rfl, rfl⟩ := Option.some.inj (hsupersede.symm.trans hsupersede')
        obtain ⟨hactive, hother⟩ := hentries _ (mem_entries_iff_lookup.mpr hslot')
        refine Settled.not_reaches ⟨slot', hslot', ?_⟩ (hother successor hsuccessor haddress)
        rw [hactive]
        rintro address ⟨⟩
  obtain ⟨s', hrun, hs'⟩ := Option.map_eq_some_iff.mp hthird
  obtain ⟨slot, hslot, hs'⟩ := Option.bind_eq_some_iff.mp hs'
  obtain ⟨slot', hslot', hs'⟩ := Option.map_eq_some_iff.mp hs'
  refine ⟨s', hrun, ⟨slot, slot', hslot, hslot', of_decide_eq_true hs'⟩, ?_⟩
  exact (chainsEnd_of_run rfl hkeeps hrun).1

/-- After `a` has been superseded by itself, its chain does not end. -/
theorem not_chainsEnd_self :
  ∃ s', run (daemonStep plainExternals plainConfig) (.empty "node") [setA, supersedeAA] = some s' ∧
    Follows s'.slots "a" "a" ∧ ¬ ChainsEnd s'.slots
  := by
  have hstate : (run (daemonStep plainExternals plainConfig) (.empty "node")
      [setA, supersedeAA]).map (fun s => (s.slots.lookup "a").map fun slot =>
        decide (slot.state = .superseded slot.contentAddress)) = some (some true) := by
    decide +kernel
  obtain ⟨s', hrun, hs'⟩ := Option.map_eq_some_iff.mp hstate
  obtain ⟨slot, hslot, hself⟩ := Option.map_eq_some_iff.mp hs'
  have hfollows : Follows s'.slots "a" "a" :=
    ⟨slot, slot, hslot, hslot, of_decide_eq_true hself⟩
  refine ⟨s', hrun, hfollows, ?_⟩
  intro hends
  apply hends.not_transGen (.single hfollows)

end Cachee
