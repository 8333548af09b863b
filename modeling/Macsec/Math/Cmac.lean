import Macsec.Math.BlockCipher

/-!
# AES-CMAC

The streaming CMAC of `math/cmac.c`.  The unprocessed part of the message is
kept as a byte string of at most one block.
-/

namespace Macsec

namespace Cmac

/-- The streaming state of a CMAC computation. -/
structure Ctx where
  aesKey : Bytes
  state : Octets 16
  unprocessed : Bytes

/-- The constant that reduces a doubled subkey. -/
def rb : UInt8 := 0x87

/-- Shift to the left, from the last octet on; the second component is the bit
shifted out so far. -/
def shiftOctets : Bytes → Bytes × UInt8
  | [] => ([], 0)
  | current :: rest =>
      let (shifted, overflow) := shiftOctets rest
      ((current <<< 1 ||| overflow) :: shifted,
        if current &&& 0x80 != 0 then 1 else 0)

@[simp] theorem length_shiftOctets (octets : Bytes) :
    (shiftOctets octets).1.length = octets.length := by
  induction octets with
  | nil => rfl
  | cons octet octets inductionHypothesis =>
      rw [shiftOctets, List.length_cons, List.length_cons,
        inductionHypothesis]

/-- Shift a block to the left by one bit. -/
def leftShiftOneBit (block : Octets 16) : Octets 16 :=
  ⟨(shiftOctets block.1).1, by rw [length_shiftOctets, block.2]⟩

/-- Double a subkey: shift it and reduce the bit shifted out. -/
def doubleSubkey (block : Octets 16) : Octets 16 :=
  let shifted := leftShiftOneBit block
  if block.get 0 &&& 0x80 != 0 then
    shifted.set 15 (shifted.get 15 ^^^ rb)
  else
    shifted

/-- The two subkeys of a key. -/
def generateSubkeys (aes : BlockFunction) (ctx : Ctx) : Octets 16 × Octets 16 :=
  let l := aes.encrypt ctx.aesKey (Octets.zero 16)
  let k1 := doubleSubkey l
  (k1, doubleSubkey k1)

/-- Start a computation under a key of a supported size. -/
def starts (key : Bytes) (keyBits : Nat) : Option Ctx :=
  if keyBitsSupported keyBits then
    some { aesKey := key, state := Octets.zero 16, unprocessed := [] }
  else
    none

/-- Process all blocks but the last, which stays unprocessed. -/
def absorb (aes : BlockFunction) (ctx : Ctx) (input : Bytes) : Ctx :=
  if input.length > 16 then
    let temp := ctx.state.xor (input.slice 0 16)
    absorb aes { ctx with state := aes.encrypt ctx.aesKey temp }
      (input.drop 16)
  else if input.length > 0 then
    { ctx with unprocessed := input }
  else
    ctx
termination_by input.length
decreasing_by
  rw [List.length_drop]
  omega

/-- Feed a piece of the message. -/
def update (aes : BlockFunction) (ctx : Ctx) (input : Bytes) : Ctx :=
  if input.length = 0 then
    ctx
  else if ctx.unprocessed.length > 0 then
    let useLen := min (16 - ctx.unprocessed.length) input.length
    let ctx :=
      { ctx with unprocessed := ctx.unprocessed ++ input.take useLen }
    let input := input.drop useLen
    if ctx.unprocessed.length < 16 then
      ctx
    else if input.length = 0 then
      ctx
    else
      let temp := ctx.state.xor (ctx.unprocessed.slice 0 16)
      absorb aes
        { ctx with state := aes.encrypt ctx.aesKey temp, unprocessed := [] }
        input
  else
    absorb aes ctx input

/-- Process the last block under the subkey its length selects. -/
def finish (aes : BlockFunction) (ctx : Ctx) : Octets 16 :=
  let (k1, k2) := generateSubkeys aes ctx
  let lastBlock :=
    if ctx.unprocessed.length = 16 then
      (ctx.unprocessed.slice 0 16).xor k1
    else
      ((ctx.unprocessed ++ [0x80]).slice 0 16).xor k2
  aes.encrypt ctx.aesKey (ctx.state.xor lastBlock)

/-- The CMAC of a message given in one piece. -/
def cmacAes (aes : BlockFunction) (key : Bytes) (keyBits : Nat) (input : Bytes) :
    Option (Octets 16) :=
  (starts key keyBits).map fun ctx => finish aes (update aes ctx input)

end Cmac

end Macsec
