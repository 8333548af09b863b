import Macsec.Math.ByteField

/-!
# The cipher of FIPS-197

The Advanced Encryption Standard on its state of four rows and four columns of
octets: the transformations of a round, the key expansion and the cipher.
-/

namespace Macsec

namespace Aes

namespace Spec

/-- Four octets: a word of the key schedule, or a column of the state. -/
abbrev Word := Fin 4 → UInt8

/-- The state: the octet in a row and a column. -/
abbrev State := Fin 4 → Fin 4 → UInt8

/-! ## Octets -/

/-- Bit `i` of an octet. -/
def bit (b : UInt8) (i : Fin 8) : Bool :=
  b.toBitVec.getLsbD i

/-- The octet with the given bits. -/
def ofBits (bits : Fin 8 → Bool) : UInt8 :=
  (List.finRange 8).foldl
    (fun b i => if bits i then b ||| 1 <<< UInt8.ofNat i else b) 0

/-- The affine transformation over the bits of an octet. -/
def affine (b : UInt8) : UInt8 :=
  ofBits fun i =>
    bit b i ^^ bit b (i + 4) ^^ bit b (i + 5) ^^ bit b (i + 6) ^^
      bit b (i + 7) ^^ bit 0x63 i

/-- The inverse of the affine transformation. -/
def invAffine (b : UInt8) : UInt8 :=
  ofBits fun i =>
    bit b (i + 2) ^^ bit b (i + 5) ^^ bit b (i + 7) ^^ bit 0x05 i

/-- The S-box: the multiplicative inverse, followed by the affine
transformation. -/
def sBox (b : UInt8) : UInt8 :=
  affine (inverse b)

/-- The inverse S-box. -/
def invSBox (b : UInt8) : UInt8 :=
  inverse (invAffine b)

/-! ## Words -/

/-- The product of two polynomials with octets as coefficients, modulo
`x^4 + 1`. -/
def wordProduct (a b : Word) : Word := fun r =>
  multiply (a r) (b 0) ^^^ multiply (a (r - 1)) (b 1) ^^^
    multiply (a (r - 2)) (b 2) ^^^ multiply (a (r - 3)) (b 3)

/-- The sum of two words. -/
def wordXor (a b : Word) : Word := fun r =>
  a r ^^^ b r

/-- The substitution of the octets of a word. -/
def subWord (a : Word) : Word := fun r =>
  sBox (a r)

/-- The rotation of a word by one octet. -/
def rotWord (a : Word) : Word := fun r =>
  a (r + 1)

/-- The round constants. -/
def rcon (i : Nat) : Word :=
  ![xtime^[i - 1] 1, 0, 0, 0]

/-! ## Transformations of the state -/

/-- The substitution of the octets of a state. -/
def subBytes (s : State) : State := fun r c =>
  sBox (s r c)

/-- Row `r` is shifted to the left by `r` columns. -/
def shiftRows (s : State) : State := fun r c =>
  s r (c + r)

/-- The coefficients of the polynomial of the column mixing. -/
def mixPolynomial : Word :=
  ![0x02, 0x01, 0x01, 0x03]

/-- Every column is multiplied by the polynomial. -/
def mixColumns (s : State) : State := fun r c =>
  wordProduct mixPolynomial (fun row => s row c) r

/-- Column `c` is masked with word `c` of the round key. -/
def addRoundKey (key : Fin 4 → Word) (s : State) : State := fun r c =>
  s r c ^^^ key c r

/-- The coefficients of the polynomial that undoes the column mixing. -/
def invMixPolynomial : Word :=
  ![0x0E, 0x09, 0x0D, 0x0B]

/-! ## The key expansion -/

/-- Word `i` of a key. -/
def keyWord (key : Bytes) (i : Nat) : Word := fun r =>
  key.octetAt (4 * i + r)

/-- The word that follows on a schedule under a key of `nk` words. -/
def nextWord (nk : Nat) (w : List Word) : Word :=
  let i := w.length
  let temp := w.getD (i - 1) 0
  let temp :=
    if i % nk = 0 then
      wordXor (subWord (rotWord temp)) (rcon (i / nk))
    else if nk > 6 ∧ i % nk = 4 then
      subWord temp
    else
      temp
  wordXor (w.getD (i - nk) 0) temp

/-- The schedule of a key with `count` words behind those of the key. -/
def keyExpansion (nk : Nat) (key : Bytes) : (count : Nat) → List Word
  | 0 => (List.range nk).map (keyWord key)
  | count + 1 =>
      let w := keyExpansion nk key count
      w ++ [nextWord nk w]

/-- The round key for a round. -/
def roundKey (w : List Word) (round : Nat) : Fin 4 → Word := fun c =>
  w.getD (4 * round + c) 0

/-! ## The cipher -/

/-- The state that holds a block: column by column. -/
def load (block : Octets 16) : State := fun r c =>
  block.get (r + 4 * c)

/-- The block that a state holds. -/
def store (s : State) : Octets 16 :=
  ⟨(List.finRange 4).flatMap fun c => (List.finRange 4).map fun r => s r c,
    by simp⟩

/-- The cipher with `nr` rounds. -/
def cipher (nr : Nat) (w : List Word) (s : State) : State :=
  let s := addRoundKey (roundKey w 0) s
  let s :=
    (List.range' 1 (nr - 1)).foldl
      (fun s round =>
        addRoundKey (roundKey w round) (mixColumns (shiftRows (subBytes s))))
      s
  addRoundKey (roundKey w nr) (shiftRows (subBytes s))

/-- Encrypt a block under a key of four, six or eight words. -/
def encrypt (key : Bytes) (block : Octets 16) : Octets 16 :=
  let nk := key.length / 4
  let nr := nk + 6
  let w := keyExpansion nk key (4 * (nr + 1) - nk)
  store (cipher nr w (load block))

end Spec

end Aes

end Macsec
