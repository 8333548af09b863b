import Mathlib.Tactic.ComputeDegree
import Mathlib.Tactic.LinearCombination
import Macsec.Foundation.BitPolynomial

/-!
# The byte field

Octets stand for the binary polynomials modulo `x^8 + x^4 + x^3 + x + 1`: the
last bit of an octet is the constant coefficient of its polynomial.  The
multiplication by shifting and reducing is that of the residues.
-/

namespace Macsec

namespace Aes

open Polynomial

/-! ## Shifting and reducing -/

/-- Multiply an octet by the variable. -/
def xtime (b : UInt8) : UInt8 :=
  if b &&& 0x80 != 0 then b <<< 1 ^^^ 0x1B else b <<< 1

/-- Multiply by the polynomial of the last bits of an octet. -/
def multiplyFrom : (bits : Nat) → (a b : UInt8) → UInt8
  | 0, _, _ => 0
  | bits + 1, a, b =>
      (if a &&& 1 != 0 then b else 0) ^^^ multiplyFrom bits (a >>> 1) (xtime b)

/-- Multiply two octets. -/
def multiply (a b : UInt8) : UInt8 :=
  multiplyFrom 8 a b

/-! ## Residues -/

/-- The polynomial that products are reduced by. -/
noncomputable def modulus : (ZMod 2)[X] :=
  X ^ 8 + X ^ 4 + X ^ 3 + X + 1

theorem natDegree_modulus : modulus.natDegree = 8 := by
  unfold modulus
  compute_degree!

theorem monic_modulus : modulus.Monic := by
  unfold modulus
  monicity!

/-- The binary polynomials modulo the reduction polynomial. -/
abbrev ByteField := AdjoinRoot modulus

/-- The residue of the variable. -/
noncomputable abbrev root : ByteField := AdjoinRoot.root modulus

instance : CharP ByteField 2 :=
  BitPolynomial.charP_residues monic_modulus
    (by rw [natDegree_modulus]; decide)

theorem eval₂_modulus {R : Type*} [CommRing R] (f : ZMod 2 →+* R) (point : R) :
    eval₂ f point modulus =
      point ^ 8 + (point ^ 4 + point ^ 3 + point + 1) := by
  unfold modulus
  simp only [eval₂_add, eval₂_pow, eval₂_X, eval₂_one]
  ring

/-- The power of the variable that the reduction replaces. -/
theorem root_pow : root ^ 8 = root ^ 4 + root ^ 3 + root + 1 := by
  have relation := AdjoinRoot.eval₂_root modulus
  rw [eval₂_modulus] at relation
  exact CharTwo.add_eq_zero.mp relation

/-- The element that an octet stands for. -/
noncomputable def element (b : UInt8) : ByteField :=
  BitPolynomial.eval root b.toBitVec.reverse

theorem element_injective : Function.Injective element := by
  intro left right same
  have strings :=
    BitPolynomial.eval_root_injective monic_modulus natDegree_modulus.ge same
  apply UInt8.eq_of_toBitVec_eq
  rw [← @BitVec.reverse_reverse_eq _ left.toBitVec, strings,
    BitVec.reverse_reverse_eq]

@[simp] theorem element_zero : element 0 = 0 := by
  rw [element]
  exact BitPolynomial.eval_zero root

theorem element_xor (left right : UInt8) :
    element (left ^^^ right) = element left + element right := by
  have reversed :
      (left ^^^ right).toBitVec.reverse =
        left.toBitVec.reverse ^^^ right.toBitVec.reverse := by
    apply BitVec.eq_of_getLsbD_eq
    intro i inside
    rw [BitVec.getLsbD_xor, BitVec.getLsbD_reverse, BitVec.getLsbD_reverse,
      BitVec.getLsbD_reverse, UInt8.toBitVec_xor, BitVec.getMsbD_xor]
  rw [element, reversed, BitPolynomial.eval_xor]
  rfl

/-- The last bit of an octet is the constant coefficient. -/
theorem element_eq (b : UInt8) :
    element b =
      ∑ i ∈ Finset.range 8, if b.toBitVec.getLsbD i then root ^ i else 0 := by
  rw [element, BitPolynomial.eval]
  simp only [BitVec.getMsbD_reverse]

/-- The octet one stands for one. -/
@[simp] theorem element_one : element 1 = 1 := by
  simp [element_eq]

/-- The octet two stands for the variable. -/
theorem element_two : element 2 = root := by
  simp [element_eq, Finset.sum_range_succ]

/-- The octet that reduces a shifted one stands for the power shifted out. -/
theorem element_reduction : element 0x1B = root ^ 8 := by
  rw [root_pow]
  simp [element_eq, Finset.sum_range_succ]
  ring

/-! ## Products -/

/-- Shifting and reducing multiplies by the variable. -/
theorem element_xtime (b : UInt8) : element (xtime b) = root * element b := by
  have shifted :=
    BitPolynomial.pow_mul_eval root (show 1 ≤ 8 by decide) b.toBitVec.reverse
  have kept :
      BitPolynomial.eval root (b.toBitVec.reverse >>> 1) =
        element (b <<< 1) := by
    have reversed :
        b.toBitVec.reverse >>> 1 = (b <<< 1).toBitVec.reverse := by
      apply BitVec.eq_of_getMsbD_eq
      intro i inside
      rw [BitVec.getMsbD_reverse, BitVec.getMsbD_ushiftRight,
        BitVec.getMsbD_reverse]
      change _ = (b.toBitVec <<< (1 % 8 : Nat)).getLsbD i
      rw [BitVec.getLsbD_shiftLeft, Bool.and_assoc]
    rw [reversed]
    rfl
  have out :
      BitPolynomial.eval root (b.toBitVec.reverse.setWidth 1) =
        if b &&& 0x80 != 0 then 1 else 0 := by
    have top : (b &&& 0x80 != 0) = b.toBitVec.msb := by
      have all :
          ∀ b : Fin 256,
            (UInt8.ofFin b &&& 0x80 != 0) = (UInt8.ofFin b).toBitVec.msb := by
        decide +kernel
      exact all b.toFin
    rw [top, BitPolynomial.eval, Finset.sum_range_one, pow_zero,
      BitVec.getMsbD_setWidth, BitVec.msb_eq_getLsbD_last]
    simp [BitVec.getMsbD_reverse]
  rw [pow_one, kept, out] at shifted
  change root * element b = _ at shifted
  rw [shifted, xtime]
  split
  next => rw [element_xor, element_reduction, mul_one]
  next => rw [mul_zero, add_zero]

/-- The product of octets is the product of residues. -/
theorem element_multiply (a b : UInt8) :
    element (multiply a b) = element a * element b := by
  have sums (bits : Nat) (a b : UInt8) :
      element (multiplyFrom bits a b) =
        (∑ i ∈ Finset.range bits,
          if a.toBitVec.getLsbD i then root ^ i else 0) * element b := by
    induction bits generalizing a b with
    | zero => simp [multiplyFrom]
    | succ bits inductionHypothesis =>
        rw [multiplyFrom, element_xor, inductionHypothesis, element_xtime,
          Finset.sum_range_succ']
        have low : (a &&& 1 != 0) = a.toBitVec.getLsbD 0 := by
          have all :
              ∀ a : Fin 256,
                (UInt8.ofFin a &&& 1 != 0) =
                  (UInt8.ofFin a).toBitVec.getLsbD 0 := by
            decide +kernel
          exact all a.toFin
        have rest (i : Nat) :
            (a >>> 1).toBitVec.getLsbD i = a.toBitVec.getLsbD (i + 1) := by
          change (a.toBitVec >>> (1 % 8 : Nat)).getLsbD i = _
          rw [BitVec.getLsbD_ushiftRight, Nat.add_comm]
        have first :
            element (if a &&& 1 != 0 then b else 0) =
              (if a.toBitVec.getLsbD 0 then 1 else 0) * element b := by
          rw [low, apply_ite element, element_zero, ite_mul, one_mul, zero_mul]
        have shifted :
            (∑ i ∈ Finset.range bits,
              if a.toBitVec.getLsbD (i + 1) then root ^ (i + 1) else 0) =
              (∑ i ∈ Finset.range bits,
                if a.toBitVec.getLsbD (i + 1) then root ^ i else 0) * root := by
          rw [Finset.sum_mul]
          apply Finset.sum_congr rfl
          intro i _
          rw [ite_mul, zero_mul, pow_succ]
        rw [first, shifted, pow_zero]
        simp only [rest]
        ring
  rw [multiply, sums, ← element_eq]

/-! ## Powers -/

/-- The product of the powers of an octet with the exponents `2, 4, 8, …`. -/
def powerProduct : (count : Nat) → (b : UInt8) → UInt8
  | 0, _ => 1
  | count + 1, b =>
      multiply (multiply b b) (powerProduct count (multiply b b))

/-- The multiplicative inverse, as the power with exponent 254; the inverse of
zero is zero. -/
def inverse (b : UInt8) : UInt8 :=
  powerProduct 7 b

theorem element_powerProduct (count : Nat) (b : UInt8) :
    element (powerProduct count b) * element b ^ 2 =
      element b ^ 2 ^ (count + 1) := by
  induction count generalizing b with
  | zero => simp [powerProduct]
  | succ count inductionHypothesis =>
      have rest := inductionHypothesis (multiply b b)
      rw [element_multiply, ← pow_two, ← pow_mul, ← pow_mul, ← pow_succ']
        at rest
      rw [powerProduct, element_multiply, element_multiply, ← rest]
      ring

/-- Multiply an octet by three, the generator of the nonzero octets. -/
def multiplyByThree (b : UInt8) : UInt8 :=
  b ^^^ xtime b

/-- The element of the generator. -/
noncomputable def generator : ByteField :=
  1 + root

theorem element_iterate (n : Nat) :
    element (multiplyByThree^[n] 1) = generator ^ n := by
  induction n with
  | zero => simp
  | succ n inductionHypothesis =>
      rw [Function.iterate_succ_apply', multiplyByThree, element_xor,
        element_xtime, inductionHypothesis, generator, pow_succ]
      ring

/-- The generator has the order of the group of nonzero octets. -/
theorem orderOf_generator : orderOf generator = 255 := by
  have cycle : generator ^ 255 = 1 := by
    have returns : multiplyByThree^[255] 1 = 1 := by decide +kernel
    rw [← element_iterate, returns, element_one]
  apply orderOf_eq_of_pow_and_pow_div_prime (by decide) cycle
  intro p prime divides
  have early (n : Nat) (returns : generator ^ n = 1) :
      multiplyByThree^[n] 1 = 1 := by
    apply element_injective
    rw [element_iterate, returns, element_one]
  have primes : p = 3 ∨ p = 5 ∨ p = 17 := by
    rw [show 255 = 3 * (5 * 17) by rfl, prime.dvd_mul, prime.dvd_mul,
      Nat.prime_dvd_prime_iff_eq prime Nat.prime_three,
      Nat.prime_dvd_prime_iff_eq prime Nat.prime_five,
      Nat.prime_dvd_prime_iff_eq prime (by decide)] at divides
    exact divides
  rcases primes with rfl | rfl | rfl
  · exact fun returns => absurd (early 85 returns) (by decide +kernel)
  · exact fun returns => absurd (early 51 returns) (by decide +kernel)
  · exact fun returns => absurd (early 15 returns) (by decide +kernel)

theorem generator_pow : generator ^ 255 = 1 := by
  rw [← orderOf_generator, pow_orderOf_eq_one]

/-- The powers of the generator below its order are different. -/
theorem iterate_injective {i j : Nat} (firstSmall : i < 255)
    (secondSmall : j < 255)
    (same : multiplyByThree^[i] 1 = multiplyByThree^[j] 1) : i = j := by
  obtain ⟨unit, unitEq⟩ : IsUnit generator :=
    IsUnit.of_mul_eq_one (generator ^ 254) (by
      rw [← pow_succ', generator_pow])
  have order : orderOf unit = 255 := by
    rw [← orderOf_units, unitEq, orderOf_generator]
  have powers : unit ^ i = unit ^ j := by
    apply Units.ext
    rw [Units.val_pow_eq_pow_val, Units.val_pow_eq_pow_val, unitEq,
      ← element_iterate, ← element_iterate, same]
  apply pow_injOn_Iio_orderOf _ _ powers
  · rw [order]
    exact firstSmall
  · rw [order]
    exact secondSmall

theorem iterate_ne_zero {i : Nat} (small : i ≤ 255) :
    multiplyByThree^[i] 1 ≠ 0 := by
  intro zero
  have product : element (multiplyByThree^[i] 1) * generator ^ (255 - i) = 1 := by
    rw [element_iterate, ← pow_add, Nat.add_sub_cancel' small, generator_pow]
  rw [zero, element_zero, zero_mul, ← element_zero, ← element_one] at product
  exact absurd (element_injective product) (by decide)

/-- Every nonzero octet is a power of the generator. -/
theorem exists_iterate {b : UInt8} (nonzero : b ≠ 0) :
    ∃ j < 255, multiplyByThree^[j] 1 = b := by
  let power (i : Fin 256) : Fin 256 :=
    if i.val < 255 then (multiplyByThree^[i.val] 1).toFin else 0
  have below {i : Fin 256} (small : i.val < 255) :
      power i = (multiplyByThree^[i.val] 1).toFin :=
    if_pos small
  have nonzeroPower {i : Fin 256} (small : i.val < 255) : power i ≠ 0 := by
    intro zero
    rw [below small] at zero
    exact iterate_ne_zero small.le (UInt8.toFin_inj.mp zero)
  have top {i : Fin 256} (large : ¬i.val < 255) : power i = 0 := if_neg large
  have injective : Function.Injective power := by
    intro i j same
    apply Fin.ext
    by_cases firstSmall : i.val < 255
    · by_cases secondSmall : j.val < 255
      · rw [below firstSmall, below secondSmall] at same
        exact iterate_injective firstSmall secondSmall
          (UInt8.toFin_inj.mp same)
      · rw [top secondSmall] at same
        exact absurd same (nonzeroPower firstSmall)
    · by_cases secondSmall : j.val < 255
      · rw [top firstSmall] at same
        exact absurd same.symm (nonzeroPower secondSmall)
      · omega
  obtain ⟨j, found⟩ := Finite.surjective_of_injective injective b.toFin
  by_cases small : j.val < 255
  · rw [below small] at found
    exact ⟨j.val, small, UInt8.toFin_inj.mp found⟩
  · rw [top small] at found
    have zero : (0 : UInt8).toFin = b.toFin := found
    exact absurd (UInt8.toFin_inj.mp zero).symm nonzero

/-! ## Inverses -/

/-- A nonzero octet to the power 255 is one. -/
theorem element_pow {b : UInt8} (nonzero : b ≠ 0) : element b ^ 255 = 1 := by
  obtain ⟨j, -, rfl⟩ := exists_iterate nonzero
  rw [element_iterate, ← pow_mul, Nat.mul_comm, pow_mul, generator_pow, one_pow]

/-- The inverse is the inverse. -/
theorem multiply_inverse {b : UInt8} (nonzero : b ≠ 0) :
    multiply b (inverse b) = 1 := by
  have product := element_powerProduct 7 b
  have one := element_pow nonzero
  apply element_injective
  rw [element_multiply, element_one, inverse]
  calc element b * element (powerProduct 7 b)
      = element (powerProduct 7 b) * element b ^ 2 * element b ^ 254 := by
        rw [mul_assoc, ← pow_add, show 2 + 254 = 1 + 255 by rfl, pow_add, one]
        ring
    _ = element b ^ (255 + 255) := by
        rw [product, ← pow_add, show 2 ^ (7 + 1) + 254 = 255 + 255 by rfl]
    _ = 1 := by rw [pow_add, one, one_mul]

/-- There is no other inverse. -/
theorem eq_inverse {a b : UInt8} (product : multiply a b = 1) :
    b = inverse a := by
  have nonzero : a ≠ 0 := by
    rintro rfl
    have elements := congrArg element product
    rw [element_multiply, element_zero, zero_mul, ← element_zero]
      at elements
    exact absurd (element_injective elements) (by decide)
  apply element_injective
  have first := congrArg element product
  have second := congrArg element (multiply_inverse nonzero)
  rw [element_multiply, element_one] at first second
  calc element b = element b * (element a * element (inverse a)) := by
        rw [second, mul_one]
    _ = element a * element b * element (inverse a) := by ring
    _ = element (inverse a) := by rw [first, one_mul]

@[simp] theorem inverse_zero : inverse 0 = 0 := by
  decide

@[simp] theorem inverse_inverse (b : UInt8) : inverse (inverse b) = b := by
  by_cases zero : b = 0
  · rw [zero, inverse_zero, inverse_zero]
  · have product := multiply_inverse zero
    symm
    apply eq_inverse
    apply element_injective
    rw [element_multiply, mul_comm, ← element_multiply, product]

end Aes

end Macsec
