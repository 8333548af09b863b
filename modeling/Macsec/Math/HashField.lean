import Mathlib.Tactic.ComputeDegree
import Mathlib.Tactic.LinearCombination
import Macsec.Foundation.BitPolynomial

/-!
# The hash field

Blocks of 16 octets stand for the binary polynomials modulo
`x^128 + x^7 + x^2 + x + 1`: the first bit of a block is the constant
coefficient of its polynomial.
-/

namespace Macsec

namespace Gcm

open Polynomial BitPolynomial

/-! ## Residues -/

/-- The polynomial that products are reduced by. -/
noncomputable def modulus : (ZMod 2)[X] :=
  X ^ 128 + X ^ 7 + X ^ 2 + X + 1

theorem natDegree_modulus : modulus.natDegree = 128 := by
  unfold modulus
  compute_degree!

theorem monic_modulus : modulus.Monic := by
  unfold modulus
  monicity!

/-- The binary polynomials modulo the reduction polynomial. -/
abbrev HashField := AdjoinRoot modulus

/-- The residue of the variable. -/
noncomputable abbrev root : HashField := AdjoinRoot.root modulus

instance : CharP HashField 2 :=
  charP_residues monic_modulus (by rw [natDegree_modulus]; decide)

theorem eval₂_modulus {R : Type*} [CommRing R] (f : ZMod 2 →+* R) (point : R) :
    eval₂ f point modulus =
      point ^ 128 + (point ^ 7 + point ^ 2 + point + 1) := by
  unfold modulus
  simp only [eval₂_add, eval₂_pow, eval₂_X, eval₂_one]
  ring

/-- The power of the variable that the reduction replaces. -/
theorem root_pow : root ^ 128 = root ^ 7 + root ^ 2 + root + 1 := by
  have relation := AdjoinRoot.eval₂_root modulus
  rw [eval₂_modulus] at relation
  exact CharTwo.add_eq_zero.mp relation

/-! ## Blocks -/

/-- The element that a block stands for. -/
noncomputable def element (block : Octets 16) : HashField :=
  evalBytes root block.1

theorem element_bijective : Function.Bijective element := by
  have bits : Function.Bijective (eval root : BitVec (8 * 16) → HashField) :=
    eval_root_bijective monic_modulus natDegree_modulus
  constructor
  · intro left right same
    apply Subtype.ext
    exact evalBytes_injective root bits.1 left.2 right.2 same
  · intro value
    obtain ⟨string, rfl⟩ := bits.2 value
    refine ⟨Octets.ofNat 16 string.toNat, ?_⟩
    change evalBytes root (Bytes.bigEndian 16 string.toNat) = _
    rw [evalBytes_bigEndian, BitVec.ofNat_toNat, BitVec.setWidth_eq]

/-- Blocks and elements correspond. -/
noncomputable def blockEquiv : Octets 16 ≃ HashField :=
  Equiv.ofBijective element element_bijective

/-- The product of two blocks. -/
noncomputable def blockMul (left right : Octets 16) : Octets 16 :=
  blockEquiv.symm (element left * element right)

theorem element_blockMul (left right : Octets 16) :
    element (blockMul left right) = element left * element right :=
  blockEquiv.apply_symm_apply _

/-- The product is the only block that stands for the product. -/
theorem eq_blockMul {block left right : Octets 16}
    (product : element block = element left * element right) :
    block = blockMul left right := by
  apply element_bijective.1
  rw [product, element_blockMul]

end Gcm

end Macsec
