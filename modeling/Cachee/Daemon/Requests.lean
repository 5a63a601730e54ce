import Cachee.Daemon.Handler

/-!
# Requests

What a line asks the daemon to do to the slots: the key, the value and the fingerprint of a `SET`
that is not refused, and the keys of a `DEL`, an `INVALIDATE` and a `SUPERSEDE` that have enough
words.
-/

open Text

namespace Cachee

/-- A command with what it meets with, or the engine giving up the bytes of a key. -/
inductive DaemonEvent where
  | command (amb : Ambient) (data : Bytes)
  | evict (key : String)

namespace DaemonEvent

/-- The words of the line. -/
def parts : DaemonEvent → List String
  | command _ data => words data
  | evict _ => []

/-- The key, the value and the fingerprint of a `SET`. -/
def set? (cfg : DaemonConfig) (e : DaemonEvent) :
    Option (String × String × ComputationFingerprint) :=
  match e.parts with
  | name :: key :: _ :: _ =>
    if toUppercase name = "SET" then
      match setArguments cfg e.parts with
      | .ok (some (value, fingerprint)) => some (key, value, fingerprint)
      | _ => none
    else none
  | _ => none

/-- The key of a `DEL`. -/
def del? (e : DaemonEvent) : Option String :=
  match e.parts with
  | name :: key :: _ => if toUppercase name = "DEL" then some key else none
  | _ => none

/-- The key of an `INVALIDATE`. -/
def invalidate? (e : DaemonEvent) : Option String :=
  match e.parts with
  | name :: key :: _ :: _ :: _ => if toUppercase name = "INVALIDATE" then some key else none
  | _ => none

/-- The old and the new key of a `SUPERSEDE`. -/
def supersede? (e : DaemonEvent) : Option (String × String) :=
  match e.parts with
  | name :: oldKey :: newKey :: _ =>
    if toUppercase name = "SUPERSEDE" then some (oldKey, newKey) else none
  | _ => none

variable {cfg : DaemonConfig} {e : DaemonEvent} {key newKey value : String}
  {fingerprint : ComputationFingerprint}

/-- The words of a `SET`. -/
theorem set?_eq_some :
  e.set? cfg = some (key, value, fingerprint) ↔
    ∃ name word args, e.parts = name :: key :: word :: args ∧ toUppercase name = "SET" ∧
      setArguments cfg e.parts = .ok (some (value, fingerprint))
  := by
  unfold set?
  constructor
  · intro h
    split at h
    · rename_i name key' word args hparts
      obtain ⟨hname, h⟩ := Option.ite_none_right_eq_some.mp h
      split at h
      · rename_i value' fingerprint' hargs
        obtain ⟨rfl, rfl, rfl⟩ := Option.some.inj h
        exact ⟨name, word, args, hparts, hname, hargs⟩
      · cases h
    · cases h
  · rintro ⟨name, word, args, hparts, hname, hargs⟩
    rw [hargs, hparts]
    dsimp only
    rw [if_pos hname]

/-- The words of a `DEL`. -/
theorem del?_eq_some :
  e.del? = some key ↔ ∃ name args, e.parts = name :: key :: args ∧ toUppercase name = "DEL"
  := by
  unfold del?
  constructor
  · intro h
    split at h
    · rename_i name key' args hparts
      obtain ⟨hname, h⟩ := Option.ite_none_right_eq_some.mp h
      obtain rfl := Option.some.inj h
      exact ⟨name, args, hparts, hname⟩
    · cases h
  · rintro ⟨name, args, hparts, hname⟩
    rw [hparts]
    dsimp only
    rw [if_pos hname]

/-- The words of an `INVALIDATE`. -/
theorem invalidate?_eq_some :
  e.invalidate? = some key ↔ ∃ name word word' args,
    e.parts = name :: key :: word :: word' :: args ∧ toUppercase name = "INVALIDATE"
  := by
  unfold invalidate?
  constructor
  · intro h
    split at h
    · rename_i name key' word word' args hparts
      obtain ⟨hname, h⟩ := Option.ite_none_right_eq_some.mp h
      obtain rfl := Option.some.inj h
      exact ⟨name, word, word', args, hparts, hname⟩
    · cases h
  · rintro ⟨name, word, word', args, hparts, hname⟩
    rw [hparts]
    dsimp only
    rw [if_pos hname]

/-- The words of a `SUPERSEDE`. -/
theorem supersede?_eq_some :
  e.supersede? = some (key, newKey) ↔ ∃ name args,
    e.parts = name :: key :: newKey :: args ∧ toUppercase name = "SUPERSEDE"
  := by
  unfold supersede?
  constructor
  · intro h
    split at h
    · rename_i name key' newKey' args hparts
      obtain ⟨hname, h⟩ := Option.ite_none_right_eq_some.mp h
      obtain ⟨rfl, rfl⟩ := Option.some.inj h
      exact ⟨name, args, hparts, hname⟩
    · cases h
  · rintro ⟨name, args, hparts, hname⟩
    rw [hparts]
    dsimp only
    rw [if_pos hname]

/-- A `SUPERSEDE` is not an `INVALIDATE`. -/
theorem invalidate?_of_supersede? (h : e.supersede? = some (key, newKey)) :
  e.invalidate? = none
  := by
  obtain ⟨name, args, hparts, hname⟩ := supersede?_eq_some.mp h
  rw [Option.eq_none_iff_forall_ne_some]
  intro key' hkey'
  obtain ⟨name', word, word', args', hparts', hname'⟩ := invalidate?_eq_some.mp hkey'
  obtain ⟨rfl, -⟩ := List.cons.inj (hparts.symm.trans hparts')
  rw [hname] at hname'
  simp at hname'

end DaemonEvent

/-- Set `k` to `v`. -/
def setV : DaemonEvent := .command plainAmbient (asBytes "SET k v")

/-- Revoke the slot of `k`. -/
def invalidateK : DaemonEvent := .command plainAmbient (asBytes "INVALIDATE k REASON recalled")

end Cachee
