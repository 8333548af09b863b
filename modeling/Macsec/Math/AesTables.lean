import Mathlib.Data.Fin.VecNotation
import Mathlib.Tactic.FinCases
import Macsec.Math.Aes
import Macsec.Math.AesSpec

/-!
# The tables of the cipher

Words are determined by their octets.  In every configuration, constant or
generated, full or reduced, the tables hold the S-boxes, the products of the
substituted octets with the coefficients of the column mixing, and the round
constants.
-/

namespace Macsec

namespace Aes

/-! ## Octets of words -/

theorem getLsbD_byte (x : BitVec 32) (r : Fin 4) (i : Nat) :
    (byte x r).toBitVec.getLsbD i =
      (decide (i < 8) && x.getLsbD (8 * r.val + i)) := by
  rw [byte, UInt8.toBitVec_ofBitVec, BitVec.getLsbD_setWidth,
    BitVec.getLsbD_ushiftRight]

/-- Words with the same octets are the same. -/
theorem word_ext {x y : BitVec 32} (same : ∀ r, byte x r = byte y r) :
    x = y := by
  apply BitVec.eq_of_getLsbD_eq
  intro i inside
  have bits :=
    congrArg (fun b => b.toBitVec.getLsbD (i % 8))
      (same ⟨i / 8, by omega⟩)
  rw [getLsbD_byte, getLsbD_byte] at bits
  simpa [Nat.mod_lt, Nat.div_add_mod] using bits

theorem byte_xor (x y : BitVec 32) (r : Fin 4) :
    byte (x ^^^ y) r = byte x r ^^^ byte y r := by
  apply UInt8.eq_of_toBitVec_eq
  apply BitVec.eq_of_getLsbD_eq
  intro i inside
  rw [UInt8.toBitVec_xor, BitVec.getLsbD_xor, getLsbD_byte, getLsbD_byte,
    getLsbD_byte, BitVec.getLsbD_xor, Bool.and_xor_distrib_left]

theorem byte_or (x y : BitVec 32) (r : Fin 4) :
    byte (x ||| y) r = byte x r ||| byte y r := by
  apply UInt8.eq_of_toBitVec_eq
  apply BitVec.eq_of_getLsbD_eq
  intro i inside
  rw [UInt8.toBitVec_or, BitVec.getLsbD_or, getLsbD_byte, getLsbD_byte,
    getLsbD_byte, BitVec.getLsbD_or, Bool.and_or_distrib_left]

/-- An octet in a place of an otherwise empty word. -/
theorem byte_placed (b : UInt8) (k r : Fin 4) :
    byte (b.toBitVec.setWidth 32 <<< (8 * k.val)) r =
      if r = k then b else 0 := by
  apply UInt8.eq_of_toBitVec_eq
  apply BitVec.eq_of_getLsbD_eq
  intro i inside
  rw [getLsbD_byte, BitVec.getLsbD_shiftLeft, BitVec.getLsbD_setWidth]
  split
  next same =>
    subst same
    have inner : 8 * r.val + i < 32 := by omega
    have moved : 8 * r.val + i - 8 * r.val = i := by omega
    simp [inside, inner, moved, show i < 32 by omega]
  next other =>
    have numbers : r.val ≠ k.val := fun same => other (Fin.ext same)
    by_cases before : 8 * r.val + i < 8 * k.val
    · simp [before]
    · have behind :
          b.toBitVec.getLsbD (8 * r.val + i - 8 * k.val) = false :=
        BitVec.getLsbD_of_ge _ _ (by omega)
      simp [behind]

/-- The octets of a word that was made of octets. -/
theorem byte_u32 (b0 b1 b2 b3 : UInt8) (r : Fin 4) :
    byte (u32 b0 b1 b2 b3) r = ![b0, b1, b2, b3] r := by
  have first : byte (b0.toBitVec.setWidth 32) r = if r = 0 then b0 else 0 := by
    simpa using byte_placed b0 0 r
  have second :
      byte (b1.toBitVec.setWidth 32 <<< 8) r = if r = 1 then b1 else 0 :=
    byte_placed b1 1 r
  have third :
      byte (b2.toBitVec.setWidth 32 <<< 16) r = if r = 2 then b2 else 0 :=
    byte_placed b2 2 r
  have fourth :
      byte (b3.toBitVec.setWidth 32 <<< 24) r = if r = 3 then b3 else 0 :=
    byte_placed b3 3 r
  rw [u32, byte_or, byte_or, byte_or, first, second, third, fourth]
  fin_cases r <;> simp

/-- Rotating a word moves its octets. -/
theorem byte_rotl (x : BitVec 32) (r s : Fin 4) :
    byte (rotl x s) r = byte x (r - s) := by
  apply UInt8.eq_of_toBitVec_eq
  apply BitVec.eq_of_getLsbD_eq
  intro i inside
  rw [getLsbD_byte, getLsbD_byte, rotl, BitVec.getLsbD_or,
    BitVec.getLsbD_shiftLeft, BitVec.getLsbD_ushiftRight]
  by_cases wrapped : r < s
  · have moved : (r - s).val = 4 + r.val - s.val := by
      rw [Fin.coe_sub_iff_lt.mpr wrapped]
    have kept :
        32 - 8 * s.val + (8 * r.val + i) = 8 * (4 + r.val - s.val) + i := by
      omega
    have low : 8 * r.val + i < 8 * s.val := by omega
    rw [moved, kept]
    simp [low]
  · have moved : (r - s).val = r.val - s.val :=
      Fin.coe_sub_iff_le.mpr (not_lt.mp wrapped)
    have kept : 8 * r.val + i - 8 * s.val = 8 * (r.val - s.val) + i := by
      omega
    have behind : x.getLsbD (32 - 8 * s.val + (8 * r.val + i)) = false :=
      BitVec.getLsbD_of_ge _ _ (by omega)
    have high : ¬8 * r.val + i < 8 * s.val := by omega
    have inner : 8 * r.val + i < 32 := by omega
    rw [moved, kept, behind]
    simp [high, inner]

/-! ## S-boxes -/

theorem finite_octet : Finite UInt8 :=
  Finite.of_injective UInt8.toFin fun _ _ same => UInt8.toFin_inj.mp same

/-- All octets in their order. -/
def octets : List UInt8 :=
  (List.finRange 256).map UInt8.ofFin

theorem getElem_octets (b : UInt8) (inside : b.toNat < octets.length) :
    octets[b.toNat] = b := by
  simp [octets]

theorem eq_of_map_octets {α : Type*} {f g : UInt8 → α}
    (same : octets.map f = octets.map g) (b : UInt8) : f b = g b := by
  apply List.map_inj_left.mp same
  exact List.mem_map.mpr ⟨b.toFin, List.mem_finRange _, rfl⟩

theorem substitute_eq (b : UInt8) : substitute b = Spec.affine b := by
  have all : octets.map substitute = octets.map Spec.affine := by
    decide +kernel
  exact eq_of_map_octets all b

@[simp] theorem invAffine_affine (b : UInt8) :
    Spec.invAffine (Spec.affine b) = b := by
  have all :
      octets.map (fun b => Spec.invAffine (Spec.affine b)) =
        octets.map id := by
    decide +kernel
  exact eq_of_map_octets all b

@[simp] theorem affine_invAffine (b : UInt8) :
    Spec.affine (Spec.invAffine b) = b := by
  have injective : Function.Injective Spec.affine :=
    Function.LeftInverse.injective invAffine_affine
  have finite := finite_octet
  have surjective := Finite.surjective_of_injective injective
  exact Function.LeftInverse.rightInverse_of_surjective invAffine_affine
    surjective b

@[simp] theorem invSBox_sBox (b : UInt8) : Spec.invSBox (Spec.sBox b) = b := by
  rw [Spec.invSBox, Spec.sBox, invAffine_affine, inverse_inverse]

@[simp] theorem sBox_invSBox (b : UInt8) : Spec.sBox (Spec.invSBox b) = b := by
  rw [Spec.invSBox, Spec.sBox, inverse_inverse, affine_invAffine]

/-! ## What the tables hold -/

theorem multiply_one (b : UInt8) : multiply 1 b = b := by
  apply element_injective
  rw [element_multiply, element_one, one_mul]

theorem multiply_two (b : UInt8) : multiply 2 b = xtime b := by
  apply element_injective
  rw [element_multiply, element_two, element_xtime]

theorem multiply_three (b : UInt8) : multiply 3 b = xtime b ^^^ b := by
  apply element_injective
  rw [element_multiply, show (3 : UInt8) = 2 ^^^ 1 by rfl, element_xor,
    element_xor, element_two, element_one, element_xtime, add_mul, one_mul]

/-- The products of an octet with the coefficients of a polynomial. -/
def columnWord (coefficients : Spec.Word) (b : UInt8) : BitVec 32 :=
  u32 (multiply (coefficients 0) b) (multiply (coefficients 1) b)
    (multiply (coefficients 2) b) (multiply (coefficients 3) b)

theorem byte_columnWord (coefficients : Spec.Word) (b : UInt8) (r : Fin 4) :
    byte (columnWord coefficients b) r = multiply (coefficients r) b := by
  rw [columnWord, byte_u32]
  fin_cases r <;> rfl

theorem forwardWord_eq (b : UInt8) :
    forwardWord b = columnWord Spec.mixPolynomial b := by
  change u32 (xtime b) b b (xtime b ^^^ b) =
    u32 (multiply 2 b) (multiply 1 b) (multiply 1 b) (multiply 3 b)
  rw [multiply_one, multiply_two, multiply_three]

/-- The tables hold the S-boxes, the products of the substituted octets with
the coefficients of the column mixing, and the round constants. -/
structure Tables.Correct (tables : Tables) : Prop where
  forwardSBox : ∀ b, forwardOctet tables b = Spec.sBox b
  forwardTables :
    ∀ r b,
      (tables.forwardTables.get r).get b.toFin =
        rotl (columnWord Spec.mixPolynomial (Spec.sBox b)) r
  reverseSBox : ∀ b, reverseOctet tables b = Spec.invSBox b
  reverseTables :
    ∀ r b,
      (tables.reverseTables.get r).get b.toFin =
        rotl (columnWord Spec.invMixPolynomial (Spec.invSBox b)) r
  rcon : ∀ i, byte (tables.rcon.get i) = Spec.rcon (i + 1)

/-- Rotating the entries of the first table makes up for the other ones. -/
theorem byte_tableEntry (config : Config)
    {tables : Vector (Vector (BitVec 32) 256) 4} {coefficients : Spec.Word}
    {octet : UInt8 → UInt8}
    (entries : ∀ r b,
      (tables.get r).get b.toFin = rotl (columnWord coefficients (octet b)) r)
    (k : Fin 4) (b : UInt8) (r : Fin 4) :
    byte (tableEntry config tables k b) r =
      multiply (coefficients (r - k)) (octet b) := by
  rw [tableEntry]
  split
  next =>
    rw [byte_rotl, entries, byte_rotl, byte_columnWord, sub_zero]
  next =>
    rw [entries, byte_rotl, byte_columnWord]

theorem Tables.Correct.byte_forwardTable {tables : Tables}
    (correct : tables.Correct) (config : Config) (k : Fin 4) (b : UInt8)
    (r : Fin 4) :
    byte (forwardTable config tables k b) r =
      multiply (Spec.mixPolynomial (r - k)) (Spec.sBox b) :=
  byte_tableEntry config correct.forwardTables k b r

theorem Tables.Correct.byte_reverseTable {tables : Tables}
    (correct : tables.Correct) (config : Config) (k : Fin 4) (b : UInt8)
    (r : Fin 4) :
    byte (reverseTable config tables k b) r =
      multiply (Spec.invMixPolynomial (r - k)) (Spec.invSBox b) :=
  byte_tableEntry config correct.reverseTables k b r

/-! ## The constant tables -/

/-- Whether the value is the inverse; that of zero is zero. -/
def isInverse (b value : UInt8) : Bool :=
  if b = 0 then value == 0 else multiply b value == 1

theorem eq_inverse_of_isInverse {b value : UInt8} (found : isInverse b value) :
    value = inverse b := by
  rw [isInverse] at found
  split at found
  next zero => rw [zero, inverse_zero, beq_iff_eq.mp found]
  next => exact eq_inverse (beq_iff_eq.mp found)

/-- What holds of all pairs of an octet and an entry holds of every lookup. -/
theorem lookup_of_zip {α : Type*} (entries : List α)
    (related : UInt8 → α → Bool)
    (all : (octets.zip entries).all fun pair => related pair.1 pair.2)
    (size : entries.toArray.size = 256) (b : UInt8) :
    related b ((Vector.mk entries.toArray size).get b.toFin) := by
  have small : b.toNat < 256 := b.toNat_lt
  have inside : b.toNat < (octets.zip entries).length := by
    rw [List.length_zip, ← List.size_toArray, ← List.size_toArray, size]
    simpa [octets] using small
  have holds := List.all_eq_true.mp all _ (List.getElem_mem inside)
  rw [List.getElem_zip, getElem_octets] at holds
  exact holds

/-- A table made of another one entry by entry holds what its entries are made
into. -/
theorem lookup_of_map {α β : Type*} {entries : List α} {values : List β}
    {f : β → α} (same : entries = values.map f)
    (size : entries.toArray.size = 256)
    (valuesSize : values.toArray.size = 256) (b : UInt8) :
    (Vector.mk entries.toArray size).get b.toFin =
      f ((Vector.mk values.toArray valuesSize).get b.toFin) := by
  subst same
  exact List.getElem_map f

theorem tableRom_get (entries : Vector (BitVec 32) 256) (r : Fin 4)
    (b : UInt8) :
    ((tableRom entries).get r).get b.toFin = rotl (entries.get b.toFin) r := by
  have table :
      (tableRom entries).get r = entries.map fun entry => rotl entry r :=
    Vector.getElem_ofFn r.isLt
  rw [table]
  exact Vector.getElem_map _ b.toNat_lt

/-- The constant tables are correct. -/
theorem correct_tablesRom : tablesRom.Correct := by
  have forward (b : UInt8) : forwardOctet tablesRom b = Spec.sBox b := by
    have inverses :=
      lookup_of_zip forwardSBoxRom
        (fun b entry => isInverse b (Spec.invAffine entry)) (by decide +kernel)
        (by decide +kernel) b
    rw [Spec.sBox, ← eq_inverse_of_isInverse inverses, affine_invAffine]
    rfl
  have reverse (b : UInt8) : reverseOctet tablesRom b = Spec.invSBox b := by
    have inverses :=
      lookup_of_zip reverseSBoxRom
        (fun b entry => isInverse (Spec.invAffine b) entry) (by decide +kernel)
        (by decide +kernel) b
    exact eq_inverse_of_isInverse inverses
  constructor
  · exact forward
  · intro r b
    have words :
        forwardTablesRom =
          forwardSBoxRom.map (columnWord Spec.mixPolynomial) := by
      decide +kernel
    have entry :=
      lookup_of_map words (by decide +kernel) (by decide +kernel) b
    rw [← forward, tablesRom, tableRom_get, entry]
    rfl
  · exact reverse
  · intro r b
    have words :
        reverseTablesRom =
          reverseSBoxRom.map (columnWord Spec.invMixPolynomial) := by
      decide +kernel
    have entry :=
      lookup_of_map words (by decide +kernel) (by decide +kernel) b
    rw [← reverse, tablesRom, tableRom_get, entry]
    rfl
  · have all :
        ∀ i : Fin 10, ∀ r, byte (tablesRom.rcon.get i) r =
          Spec.rcon (i + 1) r := by
      decide +kernel
    exact fun i => funext (all i)

end Aes

end Macsec
