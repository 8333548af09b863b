import Mathlib.Data.List.Pairwise
import Macsec.Foundation.Machine

/-!
# Copies of a machine

Copies of a machine run side by side, each in a state of its own, and every
input goes to one of them.  The steps of one copy make up a run of the machine,
so what is known of the runs of the machine is known of every copy.
-/

namespace Transition

variable {κ σ ι ο : Type*} [DecidableEq κ]

/-- The copies of a machine. -/
def Machine.copies (machine : Machine σ ι ο) :
    Machine (κ → σ) (κ × ι) ο where
  step states input :=
    (Function.update states input.1
      (machine.step (states input.1) input.2).1,
      (machine.step (states input.1) input.2).2)

/-- What an input is to a copy. -/
def inputTo (copy : κ) (input : κ × ι) : Option ι :=
  if input.1 = copy then some input.2 else none

/-- What a step is to a copy. -/
def Event.part (copy : κ) (event : Event (κ → σ) (κ × ι) ο) :
    Option (Event σ ι ο) :=
  if event.input.1 = copy then
    some
      { before := event.before copy
        input := event.input.2
        output := event.output
        after := event.after copy }
  else
    none

/-- The steps of one copy. -/
def partOf (copy : κ) (events : List (Event (κ → σ) (κ × ι) ο)) :
    List (Event σ ι ο) :=
  events.filterMap (Event.part copy)

/-- The copy that moves makes a step of the machine. -/
theorem part_copies_self (machine : Machine σ ι ο) (copy : κ)
    (states : κ → σ) (input : ι) :
    (machine.copies.event states (copy, input)).part copy =
      some (machine.event (states copy) input) := by
  have moved :
      (machine.copies.event states (copy, input)).after copy =
        (machine.step (states copy) input).1 :=
    Function.update_self ..
  refine (if_pos rfl).trans ?_
  rw [moved]
  rfl

/-- The steps of a copy are the run over its inputs. -/
theorem partOf_events (machine : Machine σ ι ο) (copy : κ) (states : κ → σ)
    (inputs : List (κ × ι)) :
    partOf copy (machine.copies.events states inputs) =
      machine.events (states copy) (inputs.filterMap (inputTo copy)) := by
  induction inputs generalizing states with
  | nil => rfl
  | cons input inputs inductionHypothesis =>
      obtain ⟨moved, input⟩ := input
      unfold partOf at inductionHypothesis ⊢
      rw [Machine.events]
      by_cases same : moved = copy
      · subst same
        have stays :
            (machine.copies.step states (moved, input)).1 moved =
              (machine.step (states moved) input).1 :=
          Function.update_self ..
        rw [List.filterMap_cons_some (part_copies_self machine moved states
            input),
          List.filterMap_cons_some
            (show inputTo moved (moved, input) = some input from if_pos rfl),
          inductionHypothesis, stays]
        rfl
      · have stays :
            (machine.copies.step states (moved, input)).1 copy =
              states copy :=
          Function.update_of_ne (Ne.symm same) ..
        rw [List.filterMap_cons_none
            (show (machine.copies.event states (moved, input)).part copy = none
              from if_neg same),
          List.filterMap_cons_none
            (show inputTo copy (moved, input) = none from if_neg same),
          inductionHypothesis, stays]

/-- What relates the reports of any two steps of a copy, in their order,
relates them in the run of all copies. -/
theorem pairwise_of_part {ν : Type*} {report : Event σ ι ο → Option ν}
    {related : ν → ν → Prop} {copy : κ}
    {events : List (Event (κ → σ) (κ × ι) ο)}
    (part : ((partOf copy events).filterMap report).Pairwise related) :
    events.Pairwise fun first second => ∀ one two,
      first.part copy = some one → second.part copy = some two →
        ∀ used, report one = some used →
          ∀ again, report two = some again → related used again := by
  apply (List.pairwise_filterMap.mp (List.pairwise_filterMap.mp part)).imp
  intro first second apart one two first second
  exact apart one first two second

/-- If it relates those of every copy, it relates all that are of one copy. -/
theorem pairwise_of_parts {ν : Type*} {report : Event σ ι ο → Option ν}
    {related : ν → ν → Prop} {events : List (Event (κ → σ) (κ × ι) ο)}
    (all : ∀ copy,
      ((partOf copy events).filterMap report).Pairwise related) :
    events.Pairwise fun first second => ∀ copy one two,
      first.part copy = some one → second.part copy = some two →
        ∀ used, report one = some used →
          ∀ again, report two = some again → related used again := by
  rw [List.pairwise_iff_getElem]
  intro i j hi hj before copy
  exact List.pairwise_iff_getElem.mp (pairwise_of_part (all copy)) i j hi hj
    before

end Transition
