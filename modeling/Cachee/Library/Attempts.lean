import Mathlib.Tactic

/-!
# Recorded attempts

A step either fails with an error or gives a new state and a record of what was done.  An
attempt of a step that fails leaves the state as it was.  If every record tells from where the
step went and where it led, then the records of a run form a path, and no attempt succeeds after
a record that led to a place which no step leaves.
-/

namespace Attempts

variable {σ ε ρ E α : Type} {step : σ → ε → Except E (σ × ρ)}

/-! ### Attempts -/

/-- The state after an attempt of an event, and its result. -/
def attempt (step : σ → ε → Except E (σ × ρ)) (s : σ) (e : ε) : σ × Except E ρ :=
  match step s e with
  | .ok (s', record) => (s', .ok record)
  | .error err => (s, .error err)

/-- The state after attempts of some events, and their results. -/
def attemptAll (step : σ → ε → Except E (σ × ρ)) : σ → List ε → σ × List (Except E ρ)
  | s, [] => (s, [])
  | s, e :: es =>
    let (s', result) := attempt step s e
    let (s'', results) := attemptAll step s' es
    (s'', result :: results)

/-- The records of the attempts that succeeded. -/
def records (results : List (Except E ρ)) : List ρ := results.filterMap Except.toOption

theorem attempt_of_ok {s s' : σ} {e : ε} {record : ρ} (h : step s e = .ok (s', record)) :
  attempt step s e = (s', .ok record)
  := by
  rw [attempt, h]

theorem attempt_of_error {s : σ} {e : ε} {err : E} (h : step s e = .error err) :
  attempt step s e = (s, .error err)
  := by
  rw [attempt, h]

/-- An attempt succeeds with a record when its step gives that record. -/
theorem attempt_snd_eq_ok {s : σ} {e : ε} {record : ρ} :
  (attempt step s e).2 = .ok record ↔ ∃ s', step s e = .ok (s', record)
  := by
  cases h : step s e with
  | error err =>
    rw [attempt_of_error h]
    simp
  | ok next =>
    obtain ⟨s', record'⟩ := next
    rw [attempt_of_ok h]
    simp

/-- A failed attempt leaves the state as it was. -/
theorem attempt_fst_of_error {s : σ} {e : ε} {err : E} (h : (attempt step s e).2 = .error err) :
  (attempt step s e).1 = s
  := by
  cases hstep : step s e with
  | error err' => rw [attempt_of_error hstep]
  | ok next =>
    rw [attempt_of_ok hstep] at h
    cases h

theorem attemptAll_cons (s : σ) (e : ε) (es : List ε) :
  attemptAll step s (e :: es) =
    ((attemptAll step (attempt step s e).1 es).1,
      (attempt step s e).2 :: (attemptAll step (attempt step s e).1 es).2)
  := rfl

/-- More attempts start from the state after the first ones. -/
theorem attemptAll_append (s : σ) (es es' : List ε) :
  attemptAll step s (es ++ es') =
    ((attemptAll step (attemptAll step s es).1 es').1,
      (attemptAll step s es).2 ++ (attemptAll step (attemptAll step s es).1 es').2)
  := by
  induction es generalizing s with
  | nil => rfl
  | cons e es ih =>
    rw [List.cons_append, attemptAll_cons, ih, attemptAll_cons, List.cons_append]

/-- A property kept by every step holds after every run of attempts. -/
theorem attemptAll_invariant (inv : σ → Prop)
    (hstep : ∀ s e s' record, inv s → step s e = .ok (s', record) → inv s') {s : σ}
    (hs : inv s) (es : List ε) :
  inv (attemptAll step s es).1
  := by
  induction es generalizing s with
  | nil => apply hs
  | cons e es ih =>
    rw [attemptAll_cons]
    apply ih
    cases he : step s e with
    | error err =>
      rw [attempt_of_error he]
      apply hs
    | ok next =>
      obtain ⟨s', record⟩ := next
      rw [attempt_of_ok he]
      apply hstep s e s' record hs he

/-! ### Paths of records -/

/-- The records lead from the place `a` to the place `b`, each one from where the one before it
led. -/
def Path (source target : ρ → α) : α → List ρ → α → Prop
  | a, [], b => a = b
  | a, record :: rest, b => source record = a ∧ Path source target (target record) rest b

variable {source target : ρ → α}

/-- The records of a run lead from the place of its first state to that of its last. -/
theorem path_attemptAll (place : σ → α)
    (hstep : ∀ s e s' record, step s e = .ok (s', record) →
      source record = place s ∧ target record = place s')
    (s : σ) (es : List ε) :
  Path source target (place s) (records (attemptAll step s es).2)
    (place (attemptAll step s es).1)
  := by
  induction es generalizing s with
  | nil => rfl
  | cons e es ih =>
    rw [attemptAll_cons]
    cases he : step s e with
    | error err =>
      rw [attempt_of_error he]
      apply ih
    | ok next =>
      obtain ⟨s', record⟩ := next
      obtain ⟨hsource, htarget⟩ := hstep s e s' record he
      rw [attempt_of_ok he]
      constructor
      · apply hsource
      · rw [htarget]
        apply ih

/-- No attempt succeeds from a state that no step leaves. -/
theorem error_of_stuck {s : σ} (hstuck : ∀ e next, step s e ≠ .ok next) (es : List ε) :
  ∀ result ∈ (attemptAll step s es).2, ∃ err, result = .error err
  := by
  induction es with
  | nil => simp [attemptAll]
  | cons e es ih =>
    cases he : step s e with
    | ok next => apply absurd he (hstuck e next)
    | error err =>
      rw [attemptAll_cons, attempt_of_error he]
      intro result hresult
      rcases List.mem_cons.mp hresult with rfl | hresult
      · exact ⟨err, rfl⟩
      · apply ih result hresult

/-- No attempt of a run succeeds after a record that led to a place which no step leaves. -/
theorem error_after_stuck (place : σ → α)
    (hstep : ∀ s e s' record, step s e = .ok (s', record) → target record = place s')
    {s : σ} {es : List ε} {before after : List (Except E ρ)} {record : ρ}
    (hresults : (attemptAll step s es).2 = before ++ .ok record :: after)
    (hstuck : ∀ s', place s' = target record → ∀ e next, step s' e ≠ .ok next) :
  ∀ result ∈ after, ∃ err, result = .error err
  := by
  induction es generalizing s before with
  | nil => simp [attemptAll] at hresults
  | cons e es ih =>
    rw [attemptAll_cons] at hresults
    cases before with
    | cons result before => apply ih (List.cons.inj hresults).2
    | nil =>
      obtain ⟨hfirst, rfl⟩ := List.cons.inj hresults
      obtain ⟨s', he⟩ := attempt_snd_eq_ok.mp hfirst
      rw [attempt_of_ok he]
      apply error_of_stuck
      apply hstuck s' (hstep s e s' record he).symm

end Attempts
