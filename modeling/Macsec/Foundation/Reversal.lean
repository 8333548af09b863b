import Mathlib.Data.List.Basic

/-!
# Undoing a loop

A loop whose steps can be undone one by one is undone by a loop over the same
steps in the opposite order.
-/

namespace Transition

/-- Undoing the steps of a loop in the opposite order restores the state,
provided every step keeps the invariant under which it can be undone. -/
theorem foldl_reverse_cancel
    {σ ι : Type*} (inv : σ → Prop)
    {forward backward : σ → ι → σ}
    (steps : List ι)
    (keeps : ∀ state, ∀ step ∈ steps, inv state → inv (forward state step))
    (cancels : ∀ state, ∀ step ∈ steps, inv state →
      backward (forward state step) step = state)
    {state : σ} (start : inv state) :
    steps.reverse.foldl backward (steps.foldl forward state) = state := by
  induction steps generalizing state with
  | nil => rfl
  | cons step steps inductionHypothesis =>
      have rest :
          steps.reverse.foldl backward
              (steps.foldl forward (forward state step)) =
            forward state step :=
        inductionHypothesis
          (fun state later member =>
            keeps state later (List.mem_cons_of_mem step member))
          (fun state later member =>
            cancels state later (List.mem_cons_of_mem step member))
          (keeps state step List.mem_cons_self start)
      rw [List.foldl_cons, List.reverse_cons, List.foldl_append, rest,
        List.foldl_cons, List.foldl_nil]
      exact cancels state step List.mem_cons_self start

/-- An invariant every step of a loop keeps holds after the loop. -/
theorem foldl_invariant
    {σ ι : Type*} (inv : σ → Prop) {forward : σ → ι → σ}
    (steps : List ι)
    (keeps : ∀ state, ∀ step ∈ steps, inv state → inv (forward state step))
    {state : σ} (start : inv state) :
    inv (steps.foldl forward state) := by
  induction steps generalizing state with
  | nil => exact start
  | cons step steps inductionHypothesis =>
      exact inductionHypothesis
        (fun state later member =>
          keeps state later (List.mem_cons_of_mem step member))
        (keeps state step List.mem_cons_self start)

end Transition
