import Macsec.Foundation.Machine

/-!
# Words that a run completes

Some inputs of a run bring a letter.  A word is awaited letter by letter: the
letter that comes strikes out the next one awaited if it is the same, and is
ignored otherwise.  The whole word is struck out precisely if it is a
subsequence of the letters that came, so an invariant that speaks of what is
still awaited tells what holds in the end.
-/

namespace Transition

variable {α ι : Type*} [DecidableEq α]

/-- A letter that comes, or none, strikes out the next one awaited if it is the
same. -/
def strike (letter : Option α) : List α → List α
  | [] => []
  | next :: word => if letter = some next then word else next :: word

@[simp] theorem strike_none (word : List α) : strike none word = word := by
  cases word with
  | nil => rfl
  | cons next word => simp [strike]

/-- What is awaited of a word after some inputs. -/
def awaited (letter : ι → Option α) (word : List α) : List ι → List α
  | [] => word
  | input :: inputs => awaited letter (strike (letter input) word) inputs

/-- Nothing is awaited any more precisely if the word is a subsequence of the
letters that came. -/
theorem awaited_eq_nil_iff {letter : ι → Option α} {word : List α}
    {inputs : List ι} :
    awaited letter word inputs = [] ↔
      word.Sublist (inputs.filterMap letter) := by
  induction inputs generalizing word with
  | nil => simp [awaited]
  | cons input inputs inductionHypothesis =>
      rw [awaited, inductionHypothesis]
      cases brought : letter input with
      | none => rw [strike_none, List.filterMap_cons_none brought]
      | some came =>
          rw [List.filterMap_cons_some brought]
          cases word with
          | nil => simp [strike]
          | cons next word =>
              rw [strike]
              by_cases same : came = next
              · rw [same, if_pos rfl, List.cons_sublist_cons]
              · rw [if_neg (mt Option.some.inj same), List.sublist_cons_iff]
                refine ⟨Or.inl, ?_⟩
                rintro (later | ⟨rest, starts, -⟩)
                · exact later
                · exact absurd (List.cons.inj starts).1.symm same

/-- If every step keeps an invariant that speaks of the inputs to come and of
what is awaited, the invariant tells what holds at the end of a run. -/
theorem Machine.awaits {σ ο : Type*} {machine : Machine σ ι ο}
    {letter : ι → Option α} {inv : List ι → List α → σ → Prop}
    (keep : ∀ input inputs word state, inv (input :: inputs) word state →
      inv inputs (strike (letter input) word) (machine.step state input).1)
    {inputs : List ι} {word : List α} {start : σ}
    (initial : inv inputs word start) :
    inv [] (awaited letter word inputs) (machine.final start inputs) := by
  induction inputs generalizing word start with
  | nil => exact initial
  | cons input inputs inductionHypothesis =>
      exact inductionHypothesis (keep _ _ _ _ initial)

end Transition
