import Cachee.Library.Cursor
import Mathlib.Logic.Relation

/-!
# Scripts

A script works on a state and may stop with an error or a panic, and then leaves the state as it is
at this moment: what it has changed before stays changed.  A script proceeds by a relation if it
changes the state by steps of the relation only, however it ends; and then its value may be known to
meet a condition.  There is one rule for each way of making scripts.
-/

/-- A computation that works on a state and may stop. -/
abbrev Script (σ α : Type) := ExceptT Halt (StateM σ) α

namespace Script

variable {σ α β : Type} {R : σ → σ → Prop} {Q : α → σ → Prop} {T : β → σ → Prop} {s : σ}

/-- How a script ends. -/
def outcome (x : Script σ α) (s : σ) : Outcome α := (x.run.run s).1

/-- The state that a script leaves. -/
def exec (x : Script σ α) (s : σ) : σ := (x.run.run s).2

/-- Go on with the outcome of a computation that does not change the state. -/
def lift (x : Outcome α) : Script σ α :=
  match x with
  | .ok a => pure a
  | .error e => throw e

/-! ### What scripts leave -/

theorem exec_pure (a : α) :
  (pure a : Script σ α).exec s = s
  := rfl

theorem exec_modify (f : σ → σ) :
  (modify f : Script σ PUnit).exec s = f s
  := rfl

/-- A sequence goes on with the value of its first script, from the state that this leaves. -/
theorem bind_of_ok {x : Script σ α} {f : α → Script σ β} {a : α} (h : x.outcome s = .ok a) :
  (x >>= f).exec s = (f a).exec (x.exec s) ∧ (x >>= f).outcome s = (f a).outcome (x.exec s)
  := by
  have hrun : (x >>= f).run.run s = ExceptT.bindCont (fun a => f a) (x.outcome s) (x.exec s) := rfl
  rw [h] at hrun
  exact ⟨congrArg Prod.snd hrun, congrArg Prod.fst hrun⟩

/-- A sequence stops with its first script. -/
theorem bind_of_error {x : Script σ α} {f : α → Script σ β} {e : Halt}
    (h : x.outcome s = .error e) :
  (x >>= f).exec s = x.exec s ∧ (x >>= f).outcome s = .error e
  := by
  have hrun : (x >>= f).run.run s = ExceptT.bindCont (fun a => f a) (x.outcome s) (x.exec s) := rfl
  rw [h] at hrun
  exact ⟨congrArg Prod.snd hrun, congrArg Prod.fst hrun⟩

/-- Going on with a function of its value, a script leaves what it leaves. -/
theorem bind_pure (x : Script σ α) (f : α → β) (s : σ) :
  (x >>= fun a => pure (f a)).exec s = x.exec s ∧
    ∀ b, (x >>= fun a => pure (f a)).outcome s = .ok b → ∃ a, x.outcome s = .ok a ∧ f a = b
  := by
  cases h : x.outcome s with
  | ok a =>
    obtain ⟨hexec, houtcome⟩ := bind_of_ok (f := fun a => (pure (f a) : Script σ β)) h
    rw [hexec, houtcome]
    refine ⟨rfl, ?_⟩
    intro b hb
    exact ⟨a, rfl, Except.ok.inj hb⟩
  | error e =>
    obtain ⟨hexec, houtcome⟩ := bind_of_error (f := fun a => (pure (f a) : Script σ β)) h
    rw [hexec, houtcome]
    refine ⟨rfl, ?_⟩
    intro b hb
    cases hb

/-! ### What scripts do -/

/-- From the state, steps of the relation lead to the state that the script leaves; and the value of
the script, if it has one, meets the condition in this state. -/
def Proceeds (R : σ → σ → Prop) (x : Script σ α) (s : σ) (Q : α → σ → Prop) : Prop :=
  Relation.ReflTransGen R s (x.exec s) ∧ ∀ a, x.outcome s = .ok a → Q a (x.exec s)

theorem Proceeds.pure {a : α} (ha : Q a s) :
  Proceeds R (pure a) s Q
  := by
  refine ⟨.refl, ?_⟩
  intro a' ha'
  obtain rfl := Except.ok.inj ha'
  apply ha

theorem Proceeds.get :
  Proceeds R get s fun a s' => a = s'
  := by
  refine ⟨.refl, ?_⟩
  intro s' hs'
  obtain rfl := Except.ok.inj hs'
  rfl

theorem Proceeds.modify {f : σ → σ} (hf : Relation.ReflTransGen R s (f s)) :
  Proceeds R (modify f) s fun _ _ => True
  := ⟨hf, fun _ _ => trivial⟩

theorem Proceeds.lift {x : Outcome α} (hx : ∀ a, x = .ok a → Q a s) :
  Proceeds R (lift x) s Q
  := by
  cases x with
  | ok a => apply Proceeds.pure (hx a rfl)
  | error e => exact ⟨.refl, nofun⟩

theorem Proceeds.bind {x : Script σ α} {f : α → Script σ β} (hx : Proceeds R x s Q)
    (hf : ∀ a s', Q a s' → Proceeds R (f a) s' T) :
  Proceeds R (x >>= f) s T
  := by
  obtain ⟨hsteps, hvalue⟩ := hx
  cases h : x.outcome s with
  | ok a =>
    obtain ⟨hexec, houtcome⟩ := bind_of_ok (f := f) h
    obtain ⟨hsteps', hvalue'⟩ := hf a _ (hvalue a h)
    rw [Proceeds, hexec, houtcome]
    exact ⟨hsteps.trans hsteps', hvalue'⟩
  | error e =>
    obtain ⟨hexec, houtcome⟩ := bind_of_error (f := f) h
    rw [Proceeds, hexec, houtcome]
    exact ⟨hsteps, nofun⟩

/-- What each step of the relation keeps is kept by a script that proceeds by it. -/
theorem Proceeds.keeps {P : σ → Prop} {x : Script σ α} (h : Proceeds R x s Q)
    (hstep : ∀ s₁ s₂, R s₁ s₂ → P s₁ → P s₂) (hs : P s) :
  P (x.exec s)
  := by
  have hsteps := h.1
  generalize x.exec s = s' at hsteps ⊢
  induction hsteps with
  | refl => apply hs
  | tail _ hlast ih => apply hstep _ _ hlast ih

end Script
