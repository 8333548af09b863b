import Macsec.Foundation.Octets
import Mathlib.Data.List.Rotate

/-!
# The key wrap of RFC 3394

Wrapping and unwrapping in the form with a shift register: in every step the
first register is encrypted, and the result enters at the other end.  Strings
are given as registers of eight octets.
-/

namespace Macsec

namespace KeyWrap

/-- The integrity check register and the shift register. -/
structure Shift where
  a : Octets 8
  r : List (Octets 8)

/-- The initial value of the integrity check register. -/
def iv : Octets 8 :=
  ⟨[0xA6, 0xA6, 0xA6, 0xA6, 0xA6, 0xA6, 0xA6, 0xA6], rfl⟩

/-- The most significant 64 bits of a block. -/
def msb64 (block : Octets 16) : Octets 8 :=
  block.1.slice 0 8

/-- The least significant 64 bits of a block. -/
def lsb64 (block : Octets 16) : Octets 8 :=
  block.1.slice 8 8

/-- Step `t` of the wrap. -/
def wrapStep (ciph : Octets 16 → Octets 16) (state : Shift) (t : Nat) :
    Shift :=
  match state.r with
  | [] => state
  | first :: rest =>
      let b := ciph (state.a.append first)
      { a := (msb64 b).xor (Octets.ofNat 8 t), r := rest ++ [lsb64 b] }

/-- Step `t` of the wrap undone. -/
def unwrapStep (decrypt : Octets 16 → Octets 16) (state : Shift) (t : Nat) :
    Shift :=
  match state.r.getLast? with
  | none => state
  | some last =>
      let b := decrypt ((state.a.xor (Octets.ofNat 8 t)).append last)
      { a := msb64 b, r := lsb64 b :: state.r.dropLast }

/-- The numbers of the steps for `n` registers. -/
def stepNumbers (n : Nat) : List Nat :=
  (List.range (6 * n)).map (· + 1)

/-- Wrap the registers of a key. -/
def wrap (ciph : Octets 16 → Octets 16) (plain : List (Octets 8)) : Shift :=
  (stepNumbers plain.length).foldl (wrapStep ciph) { a := iv, r := plain }

/-- Unwrap registers, unless the integrity check fails. -/
def unwrap (decrypt : Octets 16 → Octets 16) (wrapped : Shift) :
    Option (List (Octets 8)) :=
  let state :=
    (stepNumbers wrapped.r.length).reverse.foldl (unwrapStep decrypt) wrapped
  if state.a = iv then some state.r else none

/-! ## Shifting -/

section Shifting

variable {α : Type*} {r : List α} {k index : Nat}

/-- The registers behind the one at an index, in the order of their turns. -/
def others (r : List α) (index : Nat) : List α :=
  r.drop (index + 1) ++ r.take index

/-- The register that is at the front after `k` shifts, and those behind it. -/
theorem rotate_eq_cons (inside : index < r.length)
    (turn : k % r.length = index) :
    r.rotate k = r[index] :: others r index := by
  rw [← List.rotate_mod, turn, List.rotate_eq_drop_append_take inside.le,
    List.drop_eq_getElem_cons inside, List.cons_append]
  rfl

/-- One more shift moves that register to the back. -/
theorem rotate_succ_eq (inside : index < r.length)
    (turn : k % r.length = index) :
    r.rotate (k + 1) = others r index ++ [r[index]] := by
  rw [← List.rotate_rotate, rotate_eq_cons inside turn,
    List.rotate_cons_succ, List.rotate_zero]

/-- Replacing that register does not change the others. -/
theorem others_set (register : α) :
    others (r.set index register) index = others r index := by
  rw [others, others, List.drop_set_of_lt (Nat.lt_succ_self index),
    List.take_set_of_le (Nat.le_refl index)]

theorem rotate_set (inside : index < r.length) (turn : k % r.length = index)
    (register : α) :
    (r.set index register).rotate k = register :: others r index := by
  have length := @List.length_set _ r index register
  rw [rotate_eq_cons (length.symm ▸ inside) (length.symm ▸ turn), others_set,
    List.getElem_set_self]

theorem rotate_succ_set (inside : index < r.length)
    (turn : k % r.length = index) (register : α) :
    (r.set index register).rotate (k + 1) = others r index ++ [register] := by
  rw [← List.rotate_rotate, rotate_set inside turn, List.rotate_cons_succ,
    List.rotate_zero]

end Shifting

end KeyWrap

end Macsec
