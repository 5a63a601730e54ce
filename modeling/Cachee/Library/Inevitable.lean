import Mathlib.Logic.Relation

/-!
# Inevitable goals

A goal is inevitable from a node of a graph if following edges from it, whichever they are, ends at
a goal: the node is a goal, or it has an edge and the goal is inevitable after each of its edges.
This stays so when edges are redirected to goals, and when a node is given edges to nodes that do
not lead back to it.
-/

open Relation

variable {α : Type*}

/-- Following edges from a node ends at a goal. -/
inductive Inevitable (next : α → α → Prop) (goal : α → Prop) : α → Prop
  | stop {a : α} (hgoal : goal a) : Inevitable next goal a
  | follow {a : α} (hnext : ∃ b, next a b) (hafter : ∀ b, next a b → Inevitable next goal b) :
      Inevitable next goal a

namespace Inevitable

variable {next next' : α → α → Prop} {goal goal' : α → Prop} {a : α}

/-- If goals have no edges, then there is no cycle at a node from which a goal is inevitable. -/
theorem not_transGen (h : Inevitable next goal a) (hstop : ∀ b c, goal b → ¬ next b c) :
  ¬ TransGen next a a
  := by
  induction h with
  | stop hgoal =>
    intro hcycle
    obtain ⟨b, hb, -⟩ := TransGen.head'_iff.mp hcycle
    apply hstop _ b hgoal hb
  | follow hnext hafter ih =>
    intro hcycle
    obtain ⟨b, hb, hba⟩ := TransGen.head'_iff.mp hcycle
    apply ih b hb
    apply TransGen.tail' hba hb

/-- A goal stays inevitable when it is so in a part of the graph from which the changed edges lead
to goals or stay in the part. -/
theorem redirect {p : α → Prop} (h : Inevitable next goal a) (ha : p a)
    (hgoal : ∀ b, p b → goal b → goal' b)
    (hnext : ∀ b c, p b → next b c → ∃ d, next' b d)
    (hnew : ∀ b c, p b → next' b c → goal' c ∨ p c ∧ next b c) :
  Inevitable next' goal' a
  := by
  induction h with
  | stop hstop => exact .stop (hgoal _ ha hstop)
  | follow hfollow hafter ih =>
    obtain ⟨c, hc⟩ := hfollow
    refine .follow (hnext _ c ha hc) ?_
    intro b hb
    rcases hnew _ b ha hb with hstop | ⟨hpart, hold⟩
    · exact .stop hstop
    · apply ih b hold hpart

/-- A goal stays inevitable when a node `o` is given other edges, if there is one, and from their
ends the goal was inevitable without passing through `o`. -/
theorem extend {o : α} (h : Inevitable next goal a)
    (hgoal : ∀ b, b ≠ o → goal b → goal' b) (hsame : ∀ b c, b ≠ o → (next' b c ↔ next b c))
    (hexists : ∃ b, next' o b)
    (hnew : ∀ b, next' o b → Inevitable next goal b ∧ ¬ ReflTransGen next b o) :
  Inevitable next' goal' a
  := by
  have ho : Inevitable next' goal' o := by
    refine .follow hexists ?_
    intro b hb
    obtain ⟨hinevitable, havoids⟩ := hnew b hb
    refine hinevitable.redirect (p := fun c => ¬ ReflTransGen next c o) havoids ?_ ?_ ?_
    · intro c hc
      apply hgoal
      rintro rfl
      exact hc .refl
    · intro c d hc hd
      refine ⟨d, (hsame c d ?_).mpr hd⟩
      rintro rfl
      exact hc .refl
    · intro c d hc hd
      have hold : next c d := by
        refine (hsame c d ?_).mp hd
        rintro rfl
        exact hc .refl
      right
      use fun hreaches => hc (.head hold hreaches)
  induction h with
  | @stop b hstop =>
    by_cases hb : b = o
    · rw [hb]
      apply ho
    · exact .stop (hgoal b hb hstop)
  | @follow b hfollow hafter ih =>
    by_cases hb : b = o
    · rw [hb]
      apply ho
    · obtain ⟨c, hc⟩ := hfollow
      refine .follow ⟨c, (hsame b c hb).mpr hc⟩ ?_
      intro d hd
      apply ih d ((hsame b d hb).mp hd)

end Inevitable
