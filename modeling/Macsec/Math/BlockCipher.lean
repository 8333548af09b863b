import Macsec.Foundation.Octets

/-!
# Block ciphers

Everything above the cipher uses it only as a keyed permutation of 16-octet
blocks, and the Galois/Counter mode only as a keyed function of such blocks.
The development therefore holds for every block cipher whose decryption inverts
its encryption.
-/

namespace Macsec

/-- A keyed function on 16-octet blocks.  `encrypt` stands for
`math_aes_encrypt` under the schedule of `math_aes_setenckey`. -/
structure BlockFunction where
  encrypt : Bytes → Octets 16 → Octets 16

/-- A block cipher: a keyed function that can be undone.  `decrypt` stands for
`math_aes_decrypt` under the schedule of `math_aes_setdeckey`. -/
structure BlockCipher extends BlockFunction where
  decrypt : Bytes → Octets 16 → Octets 16
  decrypt_encrypt :
    ∀ key block, decrypt key (encrypt key block) = block

instance : Coe BlockCipher BlockFunction where
  coe := BlockCipher.toBlockFunction

/-- Since there are finitely many blocks, encryption also inverts
decryption. -/
theorem BlockCipher.encrypt_decrypt (aes : BlockCipher) (key : Bytes)
    (block : Octets 16) : aes.encrypt key (aes.decrypt key block) = block := by
  have injective : Function.Injective (aes.encrypt key) :=
    Function.LeftInverse.injective (aes.decrypt_encrypt key)
  obtain ⟨plain, rfl⟩ := Finite.surjective_of_injective injective block
  rw [aes.decrypt_encrypt]

/-- The cipher that leaves every block as it is. -/
def BlockCipher.null : BlockCipher where
  encrypt _ block := block
  decrypt _ block := block
  decrypt_encrypt _ _ := rfl

/-- The key sizes, in bits, that the key schedules accept. -/
def keyBitsSupported (keyBits : Nat) : Bool :=
  keyBits == 128 || keyBits == 192 || keyBits == 256

end Macsec
