import Mathlib.Algebra.BigOperators.Intervals
import Mathlib.Algebra.BigOperators.Ring.Finset
import Mathlib.Algebra.CharP.Algebra
import Mathlib.Algebra.CharP.Two
import Mathlib.Algebra.Field.ZMod
import Mathlib.Data.BitVec
import Mathlib.FieldTheory.Finiteness
import Mathlib.RingTheory.AdjoinRoot
import Macsec.Foundation.Octets

/-!
# Bit strings as polynomials

A bit string stands for the polynomial with its bits as coefficients, the first
bit the constant one.  In a ring of characteristic two the value of such a
polynomial turns exclusive or into addition, concatenation into a shifted sum,
and a shift of the string into a multiplication by a power of the point.
-/

namespace BitPolynomial

variable {R : Type*} [CommRing R] {n m : Nat}

/-- The value at a point of the polynomial of a bit string. -/
def eval (point : R) (bits : BitVec n) : R :=
  ∑ i ∈ Finset.range n, if bits.getMsbD i then point ^ i else 0

/-- The value at a point of the polynomial of an octet string. -/
def evalBytes (point : R) : Bytes → R
  | [] => 0
  | octet :: rest =>
      eval point octet.toBitVec + point ^ 8 * evalBytes point rest

variable (point : R)

@[simp] theorem eval_zero : eval point (BitVec.ofNat n 0) = 0 := by
  simp [eval]

theorem eval_xor [CharP R 2] (left right : BitVec n) :
    eval point (left ^^^ right) = eval point left + eval point right := by
  unfold eval
  rw [← Finset.sum_add_distrib]
  apply Finset.sum_congr rfl
  intro i _
  rw [BitVec.getMsbD_xor]
  cases left.getMsbD i with
  | false => simp
  | true =>
      cases right.getMsbD i with
      | false => simp
      | true => simp [CharTwo.add_self_eq_zero]

theorem eval_append (left : BitVec n) (right : BitVec m) :
    eval point (left ++ right) =
      eval point left + point ^ n * eval point right := by
  unfold eval
  rw [Finset.sum_range_add, Finset.mul_sum]
  refine congrArg₂ (· + ·) (Finset.sum_congr rfl ?_) (Finset.sum_congr rfl ?_)
  · intro i inside
    have inLeft : ¬n ≤ i := Nat.not_le.mpr (Finset.mem_range.mp inside)
    rw [BitVec.getMsbD_append, if_neg inLeft]
  · intro i _
    rw [BitVec.getMsbD_append, if_pos (Nat.le_add_right n i),
      Nat.add_sub_cancel_left, pow_add, mul_ite, mul_zero]

/-- Shifting a string to the right multiplies its value; the bits that are
shifted out come back with the power of the point behind the string. -/
theorem pow_mul_eval {count : Nat} (fits : count ≤ n) (bits : BitVec n) :
    point ^ count * eval point bits =
      eval point (bits >>> count) +
        point ^ n * eval point (bits.setWidth count) := by
  obtain ⟨kept, rfl⟩ := Nat.exists_eq_add_of_le' fits
  have whole :
      eval point bits =
        (∑ i ∈ Finset.range kept, if bits.getMsbD i then point ^ i else 0) +
          point ^ kept * eval point (bits.setWidth count) := by
    unfold eval
    rw [Finset.sum_range_add, Finset.mul_sum]
    congr 1
    apply Finset.sum_congr rfl
    intro i inside
    have small := Finset.mem_range.mp inside
    rw [BitVec.getMsbD_setWidth, pow_add, mul_ite, mul_zero,
      show i + (kept + count) - count = kept + i by omega,
      decide_eq_true (by omega), Bool.true_and]
  have shifted :
      eval point (bits >>> count) =
        point ^ count *
          ∑ i ∈ Finset.range kept, if bits.getMsbD i then point ^ i else 0 := by
    have split (term : Nat → R) :
        ∑ i ∈ Finset.range (kept + count), term i =
          ∑ i ∈ Finset.range count, term i +
            ∑ i ∈ Finset.range kept, term (count + i) := by
      rw [Nat.add_comm, Finset.sum_range_add]
    have first :
        ∑ i ∈ Finset.range count,
          (if (bits >>> count).getMsbD i then point ^ i else 0) = 0 := by
      apply Finset.sum_eq_zero
      intro i inside
      simp [BitVec.getMsbD_ushiftRight, Finset.mem_range.mp inside]
    unfold eval
    rw [split, first, zero_add, Finset.mul_sum]
    apply Finset.sum_congr rfl
    intro i inside
    have small := Finset.mem_range.mp inside
    rw [BitVec.getMsbD_ushiftRight, Nat.add_sub_cancel_left,
      decide_eq_true (by omega), decide_eq_false (by omega), Bool.not_false,
      Bool.true_and, Bool.true_and, pow_add, mul_ite, mul_zero]
  rw [whole, shifted]
  ring

/-- A shift that only shifts out zeros. -/
theorem eval_ushiftRight {count : Nat} (fits : count ≤ n) {bits : BitVec n}
    (zeros : bits.setWidth count = BitVec.ofNat count 0) :
    eval point (bits >>> count) = point ^ count * eval point bits := by
  rw [pow_mul_eval point fits, zeros, eval_zero, mul_zero, add_zero]

/-! ## Octet strings -/

theorem two_pow_mul (length : Nat) : 2 ^ (8 * length) = 256 ^ length := by
  rw [pow_mul]
  rfl

theorem evalBytes_append (left right : Bytes) :
    evalBytes point (left ++ right) =
      evalBytes point left +
        point ^ (8 * left.length) * evalBytes point right := by
  induction left with
  | nil => simp [evalBytes]
  | cons octet left inductionHypothesis =>
      rw [List.cons_append, evalBytes, evalBytes, inductionHypothesis,
        List.length_cons]
      ring

/-- The value of the big-endian rendering of a number is the value of its bits.
-/
theorem evalBytes_bigEndian (width value : Nat) :
    evalBytes point (Bytes.bigEndian width value) =
      eval point (BitVec.ofNat (8 * width) value) := by
  induction width with
  | zero => simp [Bytes.bigEndian, evalBytes, eval]
  | succ width inductionHypothesis =>
      have length : 8 * (width + 1) = 8 + 8 * width := by ring
      have split :
          BitVec.ofNat (8 + 8 * width) value =
            (UInt8.ofNat (value / 256 ^ width)).toBitVec ++
              BitVec.ofNat (8 * width) value := by
        have power : 256 ^ width = 2 ^ (8 * width) := (two_pow_mul width).symm
        apply BitVec.eq_of_toNat_eq
        rw [BitVec.toNat_append, BitVec.toNat_ofNat, BitVec.toNat_ofNat,
          ← Nat.shiftLeft_add_eq_or_of_lt (Nat.mod_lt _ (Nat.two_pow_pos _)),
          Nat.shiftLeft_eq, UInt8.toNat_toBitVec, UInt8.toNat_ofNat', power,
          Nat.add_comm 8, pow_add, Nat.mod_mul]
        ring
      rw [Bytes.bigEndian, evalBytes, inductionHypothesis, length, split,
        eval_append]

/-- The value of an octet string is the value of the number it denotes. -/
theorem evalBytes_eq (bytes : Bytes) :
    evalBytes point bytes =
      eval point
        (BitVec.ofNat (8 * bytes.length) (Bytes.ofBigEndian bytes)) := by
  rw [← evalBytes_bigEndian, Bytes.bigEndian_ofBigEndian]

/-- Where the values of bit strings tell them apart, the values of octet strings
do. -/
theorem evalBytes_injective {left right : Bytes} {length : Nat}
    (injective : Function.Injective (eval point : BitVec (8 * length) → R))
    (leftLength : left.length = length) (rightLength : right.length = length)
    (same : evalBytes point left = evalBytes point right) : left = right := by
  rw [evalBytes_eq, evalBytes_eq, leftLength, rightLength] at same
  have leftSmall := Bytes.ofBigEndian_lt left
  have rightSmall := Bytes.ofBigEndian_lt right
  rw [leftLength, ← two_pow_mul] at leftSmall
  rw [rightLength, ← two_pow_mul] at rightSmall
  have numbers := congrArg BitVec.toNat (injective same)
  rw [BitVec.toNat_ofNat, BitVec.toNat_ofNat, Nat.mod_eq_of_lt leftSmall,
    Nat.mod_eq_of_lt rightSmall] at numbers
  rw [← Bytes.bigEndian_ofBigEndian left, ← Bytes.bigEndian_ofBigEndian right,
    leftLength, rightLength, numbers]

/-! ## Residues -/

section Residues

open Polynomial

/-- Residues modulo a binary polynomial that is not constant cancel
themselves. -/
theorem charP_residues {modulus : (ZMod 2)[X]} (monic : modulus.Monic)
    (positive : modulus.natDegree ≠ 0) : CharP (AdjoinRoot modulus) 2 := by
  have degree : modulus.degree ≠ 0 := by
    rw [degree_eq_natDegree monic.ne_zero]
    exact Nat.cast_ne_zero.mpr positive
  exact charP_of_injective_ringHom
    (AdjoinRoot.of.injective_of_degree_ne_zero degree) 2

theorem map_eval {S : Type*} [CommRing S] (f : R →+* S) (bits : BitVec n) :
    f (eval point bits) = eval (f point) bits := by
  unfold eval
  rw [map_sum]
  apply Finset.sum_congr rfl
  intro i _
  rw [apply_ite f, map_pow, map_zero]

/-- The coefficients of the polynomial of a bit string are its bits. -/
theorem coeff_eval_X (bits : BitVec n) (i : Nat) :
    (eval (X : R[X]) bits).coeff i = if bits.getMsbD i then 1 else 0 := by
  have term (j : Nat) :
      (if bits.getMsbD j then X ^ j else 0 : R[X]).coeff i =
        if i = j then if bits.getMsbD j then 1 else 0 else 0 := by
    rw [apply_ite (coeff · i), coeff_X_pow, coeff_zero]
    split_ifs
    all_goals rfl
  unfold eval
  rw [finsetSum_coeff, Finset.sum_congr rfl fun j _ => term j,
    Finset.sum_ite_eq]
  split
  next => rfl
  next outside =>
      have behind : n ≤ i := by simpa using outside
      rw [BitVec.getMsbD_of_ge bits i behind]
      rfl

theorem degree_eval_X_lt (bits : BitVec n) :
    (eval (X : R[X]) bits).degree < n := by
  rw [degree_lt_iff_coeff_zero]
  intro i behind
  rw [coeff_eval_X, BitVec.getMsbD_of_ge bits i behind]
  rfl

/-- At the root of a monic polynomial, the values of bit strings no longer than
its degree tell them apart. -/
theorem eval_root_injective [Nontrivial R] {modulus : R[X]}
    (monic : modulus.Monic) (short : n ≤ modulus.natDegree) :
    Function.Injective
      (eval (AdjoinRoot.root modulus) : BitVec n → AdjoinRoot modulus) := by
  intro left right same
  have value (bits : BitVec n) :
      eval (AdjoinRoot.root modulus) bits =
        AdjoinRoot.mk modulus (eval X bits) := by
    rw [map_eval, AdjoinRoot.mk_X]
  rw [value, value, AdjoinRoot.mk_eq_mk] at same
  have small :
      (eval (X : R[X]) left - eval X right).degree < modulus.degree := by
    rw [degree_eq_natDegree monic.ne_zero]
    refine (degree_sub_le _ _).trans_lt (max_lt ?_ ?_)
    · exact (degree_eval_X_lt left).trans_le (Nat.cast_le.mpr short)
    · exact (degree_eval_X_lt right).trans_le (Nat.cast_le.mpr short)
  have polynomials : eval (X : R[X]) left = eval X right := by
    by_contra differ
    exact monic.not_dvd_of_degree_lt (sub_ne_zero.mpr differ) small same
  apply BitVec.eq_of_getMsbD_eq
  intro i _
  have coefficients := congrArg (coeff · i) polynomials
  rw [coeff_eval_X, coeff_eval_X] at coefficients
  cases leftBit : left.getMsbD i with
  | false =>
      cases rightBit : right.getMsbD i with
      | false => rfl
      | true => simp [leftBit, rightBit] at coefficients
  | true =>
      cases rightBit : right.getMsbD i with
      | false => simp [leftBit, rightBit] at coefficients
      | true => rfl

/-- Every residue modulo a binary polynomial is the value of a bit string. -/
theorem eval_root_bijective {modulus : (ZMod 2)[X]} (monic : modulus.Monic)
    (degree : modulus.natDegree = n) :
    Function.Bijective
      (eval (AdjoinRoot.root modulus) : BitVec n → AdjoinRoot modulus) := by
  have finite : Module.Finite (ZMod 2) (AdjoinRoot modulus) :=
    (AdjoinRoot.powerBasis' monic).finite
  have : Finite (AdjoinRoot modulus) :=
    Module.finite_of_finite (ZMod 2)
  apply (eval_root_injective monic degree.ge).bijective_of_nat_card_le
  rw [Module.natCard_eq_pow_finrank (K := ZMod 2), Nat.card_zmod,
    (AdjoinRoot.powerBasis' monic).finrank, AdjoinRoot.powerBasis'_dim, degree,
    Nat.card_congr BitVec.equivFin.toEquiv, Nat.card_fin]

end Residues

end BitPolynomial
