import Macsec.Foundation.Octets
import Mathlib.Data.Nat.Bitwise

/-!
# The cipher-based message authentication code

The code over an arbitrary function on blocks, as RFC 4493 specifies it: the
subkeys as numbers of 128 bits, and the chain of the blocks of a message, the
last of which is completed and masked with a subkey.
-/

namespace Macsec

namespace Cmac

namespace Spec

/-- The constant of the subkey generation. -/
def constRb : BitVec 128 := 0x87

/-- The number that a block denotes. -/
def number (block : Octets 16) : BitVec 128 :=
  BitVec.ofNat 128 (Bytes.ofBigEndian block.1)

/-- The block that denotes a number. -/
def block (number : BitVec 128) : Octets 16 :=
  Octets.ofNat 16 number.toNat

/-- The next subkey: the number is shifted to the left, and the constant is
added if its most significant bit was set. -/
def nextSubkey (l : BitVec 128) : BitVec 128 :=
  if l.msb then l <<< 1 ^^^ constRb else l <<< 1

section Messages

variable (ciph : Octets 16 → Octets 16)

/-- The subkey for complete last blocks. -/
def k1 : Octets 16 :=
  block (nextSubkey (number (ciph (Octets.zero 16))))

/-- The subkey for incomplete last blocks. -/
def k2 : Octets 16 :=
  block (nextSubkey (number (k1 ciph)))

/-- The number of blocks; the empty message has one, too. -/
def blockCount (message : Bytes) : Nat :=
  max 1 ((message.length + 15) / 16)

/-- The chain over the first blocks of a message. -/
def chain (message : Bytes) : Nat → Octets 16
  | 0 => Octets.zero 16
  | count + 1 =>
      ciph ((chain message count).xor (message.slice (16 * count) 16))

/-- An incomplete block with a one bit and zeros behind it. -/
def padding (last : Bytes) : Octets 16 :=
  Bytes.slice (last ++ 0x80 :: List.replicate (15 - last.length) 0) 0 16

/-- The last block of a message, completed and masked. -/
def lastBlock (message : Bytes) : Octets 16 :=
  let start := 16 * (blockCount message - 1)
  if message.length ≠ 0 ∧ message.length % 16 = 0 then
    (message.slice start 16).xor (k1 ciph)
  else
    (padding (message.drop start)).xor (k2 ciph)

/-- The authentication code of a message. -/
def mac (message : Bytes) : Octets 16 :=
  ciph ((chain ciph message (blockCount message - 1)).xor
    (lastBlock ciph message))

end Messages

/-! ## Blocks and numbers -/

@[simp] theorem block_number (octets : Octets 16) :
    block (number octets) = octets := by
  have fits := Bytes.ofBigEndian_lt octets.1
  have small : Bytes.ofBigEndian octets.1 < 2 ^ 128 := by
    rw [octets.2] at fits
    exact fits
  apply Subtype.ext
  change Bytes.bigEndian 16 (number octets).toNat = octets.1
  rw [number, BitVec.toNat_ofNat, Nat.mod_eq_of_lt small]
  have rendered := Bytes.bigEndian_ofBigEndian octets.1
  rwa [octets.2] at rendered

/-! ## Chains -/

/-- The chain over blocks that are there does not see what follows them. -/
theorem chain_append
    (ciph : Octets 16 → Octets 16) (front back : Bytes) {count : Nat}
    (inside : 16 * count ≤ front.length) :
    chain ciph (front ++ back) count = chain ciph front count := by
  induction count with
  | zero => rfl
  | succ count inductionHypothesis =>
      rw [chain, chain, inductionHypothesis (by omega),
        Bytes.slice_append_left front back (by omega)]

end Spec

end Cmac

end Macsec
