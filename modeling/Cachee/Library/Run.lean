import Mathlib.Tactic

/-!
# Runs of a transition system

A system is a guarded step function: `step s e` is the state after the event `e`, or
`none` when `e` cannot happen in `s`.  `run step s es` performs the events `es` in order.
An invariant of the steps that meet a condition is an invariant of the runs all of whose
steps meet it.
-/

variable {σ ε : Type}

/-- The state after the events `es` from `s`, or `none` if one of them cannot happen. -/
def run (step : σ → ε → Option σ) : σ → List ε → Option σ
  | s, [] => some s
  | s, e :: es => (step s e).bind fun s' => run step s' es

/-- Every step of the run of `es` from `s` meets the condition `cond`, which speaks about
the state before the step and its event. -/
def MeetsAlong (step : σ → ε → Option σ) (cond : σ → ε → Prop) : σ → List ε → Prop
  | _, [] => True
  | s, e :: es => cond s e ∧ ∀ s', step s e = some s' → MeetsAlong step cond s' es

variable {step : σ → ε → Option σ}

/-- Whether the first step of a run meets a condition, and the rest of the run does. -/
theorem meetsAlong_cons {cond : σ → ε → Prop} {s : σ} {e : ε} {es : List ε} :
  MeetsAlong step cond s (e :: es) ↔
    cond s e ∧ (step s e).elim True fun s' => MeetsAlong step cond s' es
  := by
  rw [MeetsAlong]
  cases step s e with
  | none => simp
  | some s' => simp

instance decidableMeetsAlong {cond : σ → ε → Prop} [∀ s e, Decidable (cond s e)] :
    ∀ s es, Decidable (MeetsAlong step cond s es)
  | _, [] => isTrue trivial
  | s, e :: es =>
    have : Decidable ((step s e).elim True fun s' => MeetsAlong step cond s' es) :=
      match step s e with
      | none => isTrue trivial
      | some s' => decidableMeetsAlong s' es
    decidable_of_iff _ meetsAlong_cons.symm

/-- A run that starts with an event performs its step and then the rest. -/
theorem run_cons_eq_some {s s'' : σ} {e : ε} {es : List ε} :
  run step s (e :: es) = some s'' ↔ ∃ s', step s e = some s' ∧ run step s' es = some s''
  := by
  simp [run, Option.bind_eq_some_iff]

/-- A run of a system whose steps are steps of another is a run of the other. -/
theorem run_mono {step' : σ → ε → Option σ}
    (h : ∀ s e s', step' s e = some s' → step s e = some s') {s s' : σ} {es : List ε}
    (hrun : run step' s es = some s') :
  run step s es = some s'
  := by
  induction es generalizing s with
  | nil => apply hrun
  | cons e es ih =>
    obtain ⟨s₁, hstep, hrest⟩ := run_cons_eq_some.mp hrun
    apply run_cons_eq_some.mpr ⟨s₁, h s e s₁ hstep, ih hrest⟩

/-- A run of two lists of events performs the second after the first. -/
theorem run_append (s : σ) (es es' : List ε) :
  run step s (es ++ es') = (run step s es).bind fun s' => run step s' es'
  := by
  induction es generalizing s with
  | nil => rfl
  | cons e es ih =>
    rw [List.cons_append, run, run, Option.bind_assoc]
    congr 1
    funext s'
    apply ih

/-- A condition that is met along a run is met along its beginning. -/
theorem MeetsAlong.of_append {cond : σ → ε → Prop} {s : σ} {es es' : List ε}
    (h : MeetsAlong step cond s (es ++ es')) :
  MeetsAlong step cond s es
  := by
  induction es generalizing s with
  | nil => trivial
  | cons e es ih =>
    use h.1
    intro s' hs'
    apply ih (h.2 s' hs')

/-- Two conditions that are met along a run are both met along it. -/
theorem MeetsAlong.and {cond cond' : σ → ε → Prop} {s : σ} {es : List ε}
    (h : MeetsAlong step cond s es) (h' : MeetsAlong step cond' s es) :
  MeetsAlong step (fun s e => cond s e ∧ cond' s e) s es
  := by
  induction es generalizing s with
  | nil => trivial
  | cons e es ih =>
    use ⟨h.1, h'.1⟩
    intro s' hs'
    apply ih (h.2 s' hs') (h'.2 s' hs')

/-- A condition on events that all events of a run meet is met along the run. -/
theorem meetsAlong_of_forall {cond : ε → Prop} {es : List ε} (h : ∀ e ∈ es, cond e) (s : σ) :
  MeetsAlong step (fun _ => cond) s es
  := by
  induction es generalizing s with
  | nil => trivial
  | cons e es ih =>
    constructor
    · apply h e List.mem_cons_self
    · intro s' _
      apply ih
      intro e' he'
      apply h e' (List.mem_cons_of_mem e he')

/-- A property kept by every step that meets a condition holds at the end of every run
whose steps meet the condition. -/
theorem run_invariant {cond : σ → ε → Prop} {inv : σ → Prop}
    (hstep : ∀ s e s', inv s → cond s e → step s e = some s' → inv s')
    {es : List ε} {s s' : σ} (hs : inv s) (hcond : MeetsAlong step cond s es)
    (hrun : run step s es = some s') :
  inv s'
  := by
  induction es generalizing s with
  | nil =>
    obtain rfl := Option.some.inj hrun
    apply hs
  | cons e es ih =>
    obtain ⟨s₁, he, hes⟩ := run_cons_eq_some.mp hrun
    obtain ⟨hc, hcs⟩ := hcond
    apply ih (hstep s e s₁ hs hc he) (hcs s₁ he) hes

/-- A property kept by every step holds at the end of every run. -/
theorem run_invariant_of_step {inv : σ → Prop}
    (hstep : ∀ s e s', inv s → step s e = some s' → inv s')
    {es : List ε} {s s' : σ} (hs : inv s) (hrun : run step s es = some s') :
  inv s'
  := by
  induction es generalizing s with
  | nil =>
    obtain rfl := Option.some.inj hrun
    apply hs
  | cons e es ih =>
    obtain ⟨s₁, he, hes⟩ := run_cons_eq_some.mp hrun
    apply ih (hstep s e s₁ hs he) hes

/-- A run that ends with an event performs its step last. -/
theorem run_concat_eq_some {s s'' : σ} {e : ε} {es : List ε} :
  run step s (es ++ [e]) = some s'' ↔ ∃ s', run step s es = some s' ∧ step s' e = some s''
  := by
  simp [run_append, run, Option.bind_eq_some_iff]

/-- A property of the events so far and the state, kept by every step, holds at the end of
every run. -/
theorem run_invariant_history {inv : List ε → σ → Prop} {s : σ}
    (hstep : ∀ es s₁ e s₂, inv es s₁ → step s₁ e = some s₂ → inv (es ++ [e]) s₂)
    (hs : inv [] s) {es : List ε} {s' : σ} (hrun : run step s es = some s') :
  inv es s'
  := by
  induction es using List.reverseRecOn generalizing s' with
  | nil =>
    obtain rfl := Option.some.inj hrun
    apply hs
  | append_singleton es e ih =>
    obtain ⟨s₁, hes, he⟩ := run_concat_eq_some.mp hrun
    apply hstep es s₁ e s' (ih hes) he

/-- If the cost of every step is covered by what is earned and what is owed less, then so is the
cost of every run. -/
theorem run_sum_cost_le {cost : ε → ℕ} {earned owed : σ → ℕ}
    (hstep : ∀ s e s', step s e = some s' →
      cost e + earned s + owed s' ≤ earned s' + owed s)
    {es : List ε} {s s' : σ} (hrun : run step s es = some s') :
  (es.map cost).sum + earned s + owed s' ≤ earned s' + owed s
  := by
  induction es generalizing s with
  | nil =>
    obtain rfl := Option.some.inj hrun
    rw [List.map_nil, List.sum_nil, Nat.zero_add]
  | cons e es ih =>
    obtain ⟨s₁, he, hes⟩ := run_cons_eq_some.mp hrun
    have hfirst := hstep s e s₁ he
    have hrest := ih hes
    rw [List.map_cons, List.sum_cons]
    omega

/-! ### Steps that always happen -/

/-- An invariant of the steps holds after every run. -/
theorem foldl_invariant {next : σ → ε → σ} (inv : σ → Prop)
    (hnext : ∀ s e, inv s → inv (next s e)) {s : σ} (hs : inv s) (es : List ε) :
  inv (es.foldl next s)
  := by
  induction es generalizing s with
  | nil => apply hs
  | cons e es ih => apply ih (hnext s e hs)

/-- If a step keeps a property exactly when it meets a condition, then the property holds in
every state of a run exactly when it holds in the first and every step meets the condition. -/
theorem forall_prefix_iff {next : σ → ε → σ} (inv : σ → Prop) {prop : σ → Prop}
    {cond : σ → ε → Prop} (hinv : ∀ s e, inv s → inv (next s e))
    (hnext : ∀ s e, inv s → prop s → (prop (next s e) ↔ cond s e))
    {s : σ} (hs : inv s) (es : List ε) :
  (∀ before after, es = before ++ after → prop (before.foldl next s)) ↔
    prop s ∧ ∀ before e after, es = before ++ e :: after → cond (before.foldl next s) e
  := by
  constructor
  · intro h
    use h [] es rfl
    rintro before e after rfl
    have hbefore := h before (e :: after) rfl
    have hafter := h (before ++ [e]) after (List.append_cons before e after)
    rw [List.foldl_concat] at hafter
    apply (hnext _ e (foldl_invariant inv hinv hs before) hbefore).mp hafter
  · rintro ⟨hfirst, hcond⟩ before
    induction before using List.reverseRecOn with
    | nil =>
      intro after _
      apply hfirst
    | append_singleton before e ih =>
      intro after hes
      rw [List.append_assoc] at hes
      rw [List.foldl_concat]
      apply (hnext _ e (foldl_invariant inv hinv hs before) (ih _ hes)).mpr
      apply hcond before e after hes
