import Macsec.Api.Defs

/-!
# Several parties

Each party has a context of its own.  An input of the system is a call at one
of the parties; what the network does is in the choice of the frames that the
calls receive.
-/

namespace Macsec

namespace System

variable {ι : Type} [DecidableEq ι]

/-- The machine of several parties. -/
def machine (aes : BlockCipher) :
    Transition.Machine (ι → Ctx) (ι × Call) Reply where
  step parties input :=
    (Function.update parties input.1
      (perform aes (parties input.1) input.2).1,
      (perform aes (parties input.1) input.2).2)

/-- A step of the system. -/
abbrev Event (ι : Type) := Transition.Event (ι → Ctx) (ι × Call) Reply

/-- The two sides of a link. -/
inductive Side
  | a
  | b
  deriving DecidableEq

/-- The opposite side. -/
def Side.other : Side → Side
  | .a => .b
  | .b => .a

@[simp] theorem Side.other_other (side : Side) : side.other.other = side := by
  cases side <;> rfl

theorem Side.eq_other {side another : Side} (differ : another ≠ side) :
    another = side.other := by
  cases side <;> cases another
  · exact absurd rfl differ
  · rfl
  · rfl
  · exact absurd rfl differ

/-- The party that makes a call ends in the state the call leads to; the others
stay where they are. -/
theorem forall_step {aes : BlockCipher} {parties : ι → Ctx} {party : ι}
    {call : Call} (holds : ι → Ctx → Prop)
    (rest : ∀ other, holds other (parties other))
    (moved : holds party (perform aes (parties party) call).1) :
    ∀ other,
      holds other (((machine aes).step parties (party, call)).1 other) := by
  intro other
  change holds other
    (Function.update parties party (perform aes (parties party) call).1 other)
  by_cases same : other = party
  · subst same
    rw [Function.update_self]
    exact moved
  · rw [Function.update_of_ne same]
    exact rest other

end System

end Macsec
