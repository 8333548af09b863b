import Macsec.Math.HashField

/-!
# The Galois/Counter mode

The mode over an arbitrary function on blocks, as its standard specifies it: the
hash of a string of whole blocks, the counter mode, and from both the ciphertext
and the tag of a message.  Strings consist of octets.
-/

namespace Macsec

namespace Gcm

namespace Spec

/-! ## Hashing -/

/-- A string filled up with zeros to whole blocks. -/
def padded (bytes : Bytes) : Bytes :=
  bytes ++ List.replicate ((16 - bytes.length % 16) % 16) 0

/-- Hash the blocks of a string into a block: each is added, and the sum
multiplied by the hash key. -/
noncomputable def ghashFrom (h y : Octets 16) (bytes : Bytes) : Octets 16 :=
  if 16 ≤ bytes.length then
    ghashFrom h (blockMul (y.xor (bytes.slice 0 16)) h) (bytes.drop 16)
  else
    y
termination_by bytes.length
decreasing_by
  rw [List.length_drop]
  omega

/-- The hash of a string of whole blocks. -/
noncomputable def ghash (h : Octets 16) (bytes : Bytes) : Octets 16 :=
  ghashFrom h (Octets.zero 16) bytes

/-- The length of a string in bits. -/
def bitLength (bytes : Bytes) : Octets 8 :=
  Octets.ofNat 8 (bytes.length * 8)

/-! ## Counter mode -/

/-- Increment the last 32 bits of a block. -/
def inc32 (block : Octets 16) : Octets 16 :=
  (block.1.slice 0 12).append
    (Octets.ofNat 4 ((Bytes.ofBigEndian (block.1.slice 12 4).1 + 1) % 2 ^ 32))

/-- Mask a string with the images of the counter blocks; the last one is cut. -/
def gctr (ciph : Octets 16 → Octets 16) (icb : Octets 16) (bytes : Bytes) :
    Bytes :=
  if bytes.length > 0 then
    List.zipWith (· ^^^ ·) (ciph icb).1 (bytes.take 16) ++
      gctr ciph (inc32 icb) (bytes.drop 16)
  else
    []
termination_by bytes.length
decreasing_by
  rw [List.length_drop]
  omega

/-! ## Messages -/

section Messages

variable (ciph : Octets 16 → Octets 16) (iv add : Bytes)

/-- The hash key of a function on blocks. -/
def hashKey : Octets 16 :=
  ciph (Octets.zero 16)

/-- The block in front of the first counter block. -/
noncomputable def preCounter : Octets 16 :=
  if standard : iv.length = 12 then
    Octets.append (n := 12) (m := 4) ⟨iv, standard⟩ ⟨[0, 0, 0, 1], rfl⟩
  else
    ghash (hashKey ciph)
      (padded iv ++ ((Octets.zero 8).1 ++ (bitLength iv).1))

/-- The ciphertext of a plaintext, and the plaintext of a ciphertext. -/
noncomputable def crypt (text : Bytes) : Bytes :=
  gctr ciph (inc32 (preCounter ciph iv)) text

/-- The tag of additional data and a ciphertext, cut to a length. -/
noncomputable def tag (ciphertext : Bytes) (tagLen : Nat) : Bytes :=
  let hash :=
    ghash (hashKey ciph)
      (padded add ++ (padded ciphertext ++
        ((bitLength add).1 ++ (bitLength ciphertext).1)))
  (gctr ciph (preCounter ciph iv) hash.1).take tagLen

end Messages

/-! ## Padding -/

theorem length_padded (bytes : Bytes) :
    (padded bytes).length % 16 = 0 ∧ bytes.length ≤ (padded bytes).length ∧
      (padded bytes).length < bytes.length + 16 := by
  unfold padded
  rw [List.length_append, List.length_replicate]
  omega

@[simp] theorem padded_nil : padded [] = [] := rfl

/-- The first block of a padded string, and what follows it. -/
theorem padded_split {bytes : Bytes} (nonempty : bytes.length > 0) :
    16 ≤ (padded bytes).length ∧
      (padded bytes).slice 0 16 = bytes.slice 0 16 ∧
      (padded bytes).drop 16 = padded (bytes.drop 16) := by
  obtain ⟨whole, long, short⟩ := length_padded bytes
  refine ⟨by omega, ?_, ?_⟩
  · apply Subtype.ext
    exact Bytes.takeD_append_zeros bytes _ 16
  · by_cases inside : 16 ≤ bytes.length
    · have zeros : (bytes.length - 16) % 16 = bytes.length % 16 := by omega
      unfold padded
      rw [List.drop_append_of_le_length inside, List.length_drop, zeros]
    · rw [List.drop_eq_nil_of_le (by omega : bytes.length ≤ 16)]
      exact List.drop_eq_nil_of_le (by omega)

/-! ## Hashing in parts -/

/-- Whole blocks are hashed before what follows them. -/
theorem ghashFrom_append (h y : Octets 16) {front : Bytes}
    (whole : front.length % 16 = 0) (back : Bytes) :
    ghashFrom h y (front ++ back) = ghashFrom h (ghashFrom h y front) back := by
  fun_induction ghashFrom h y front with
  | case1 y front long inductionHypothesis =>
      have longer : 16 ≤ (front ++ back).length := by
        rw [List.length_append]
        omega
      have rest : (front.drop 16).length % 16 = 0 := by
        rw [List.length_drop]
        omega
      rw [ghashFrom, if_pos longer, Bytes.slice_append_left _ _ (by omega),
        List.drop_append_of_le_length long]
      exact inductionHypothesis rest
  | case2 y front short =>
      have nothing : front = [] := List.length_eq_zero_iff.mp (by omega)
      rw [nothing]
      rfl

/-- A string of one block. -/
theorem ghashFrom_block (h y block : Octets 16) :
    ghashFrom h y block.1 = blockMul (y.xor block) h := by
  have first := Bytes.slice_append_self block []
  rw [List.append_nil] at first
  rw [ghashFrom, if_pos block.2.ge, first,
    List.drop_eq_nil_of_le block.2.le, ghashFrom, if_neg (by simp)]

/-! ## Masking -/

/-- A single block is masked with the image of the counter block. -/
theorem gctr_block (ciph : Octets 16 → Octets 16) (icb block : Octets 16) :
    gctr ciph icb block.1 = ((ciph icb).xor block).1 := by
  have size : block.1.length > 0 := by
    rw [block.2]
    decide
  rw [gctr, if_pos size, List.drop_eq_nil_of_le block.2.le, gctr,
    if_neg (by simp), List.append_nil, List.take_of_length_le block.2.le]
  rfl

/-- The tag, hashed in three parts. -/
theorem tag_eq (ciph : Octets 16 → Octets 16) (iv add ciphertext : Bytes)
    (tagLen : Nat) :
    tag ciph iv add ciphertext tagLen =
      ((ciph (preCounter ciph iv)).xor
        (ghashFrom (hashKey ciph)
          (ghashFrom (hashKey ciph) (ghash (hashKey ciph) (padded add))
            (padded ciphertext))
          ((bitLength add).append (bitLength ciphertext)).1)).1.take
        tagLen := by
  unfold tag
  dsimp only
  rw [gctr_block]
  unfold ghash
  rw [ghashFrom_append _ _ (length_padded add).1,
    ghashFrom_append _ _ (length_padded ciphertext).1]
  rfl

end Spec

end Gcm

end Macsec
