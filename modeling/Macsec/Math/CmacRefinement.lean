import Mathlib.Tactic.LinearCombination
import Macsec.Math.Cmac
import Macsec.Math.CmacSpec

/-!
# The code meets RFC 4493

The octetwise subkey generation doubles numbers of 128 bits.  Between its pieces
a message is chained up to its last block, which is held back even if it is
complete; what is held back and what is chained depends on the message only, not
on the way it was cut into pieces.
-/

namespace Macsec

namespace Cmac

/-! ## Subkeys -/

/-- Shifting an octet and entering the bit shifted out behind it. -/
theorem shift_octet (current overflow : UInt8) (bit : overflow.toNat ≤ 1) :
    (current <<< 1 ||| overflow).toNat +
        256 * (if current &&& 0x80 != 0 then 1 else 0 : UInt8).toNat =
      2 * current.toNat + overflow.toNat := by
  have all :
      ∀ current : Fin 256, ∀ overflow : Fin 2,
        (UInt8.ofFin current <<< 1 ||| UInt8.ofNat overflow).toNat +
            256 * (if UInt8.ofFin current &&& 0x80 != 0 then 1 else 0 :
              UInt8).toNat =
          2 * current.val + overflow.val := by
    decide +kernel
  have found := all current.toFin ⟨overflow.toNat, by omega⟩
  simpa using found

/-- The shifted octets and the bit shifted out denote twice the number. -/
theorem shiftOctets_number (octets : Bytes) :
    (shiftOctets octets).2.toNat ≤ 1 ∧
      Bytes.ofBigEndian (shiftOctets octets).1 +
          256 ^ octets.length * (shiftOctets octets).2.toNat =
        2 * Bytes.ofBigEndian octets := by
  induction octets with
  | nil => exact ⟨Nat.zero_le 1, rfl⟩
  | cons current rest inductionHypothesis =>
      obtain ⟨bit, number⟩ := inductionHypothesis
      have shifted := shift_octet current (shiftOctets rest).2 bit
      constructor
      · rw [shiftOctets]
        dsimp only
        split <;> decide
      · rw [shiftOctets]
        dsimp only
        rw [Bytes.ofBigEndian_cons, Bytes.ofBigEndian_cons, length_shiftOctets,
          List.length_cons, pow_succ]
        linear_combination 256 ^ rest.length * shifted + number

/-- An octet added into the last octet of a block is added to its number. -/
theorem number_set_last (octets : Octets 16) (octet : UInt8) :
    Spec.number (octets.set 15 (octets.get 15 ^^^ octet)) =
      Spec.number octets ^^^ BitVec.ofNat 128 octet.toNat := by
  obtain ⟨front, last, content⟩ : ∃ front last, octets.1 = front ++ [last] := by
    have nonempty : octets.1 ≠ [] := by
      rw [← List.length_pos_iff, octets.2]
      decide
    exact ⟨_, _, (List.dropLast_append_getLast nonempty).symm⟩
  have place : front.length = 15 := by
    have size := octets.2
    rw [content, List.length_append, List.length_singleton] at size
    omega
  obtain ⟨read, write⟩ := Octets.get_set_behind place content
  have sum :
      (Bytes.ofBigEndian front * 256 + last.toNat) ^^^ octet.toNat =
        Bytes.ofBigEndian front * 256 + (last.toNat ^^^ octet.toNat) := by
    have lastSmall : last.toNat < 2 ^ 8 := last.toNat_lt
    have octetSmall : octet.toNat < 2 ^ 8 := octet.toNat_lt
    have high :
        (Bytes.ofBigEndian front * 256 + last.toNat ^^^ octet.toNat) / 2 ^ 8 =
          Bytes.ofBigEndian front := by
      rw [Nat.xor_div_two_pow, Nat.div_eq_of_lt octetSmall, Nat.xor_zero]
      omega
    have low :
        (Bytes.ofBigEndian front * 256 + last.toNat ^^^ octet.toNat) % 2 ^ 8 =
          last.toNat ^^^ octet.toNat := by
      rw [Nat.xor_mod_two_pow, Nat.mod_eq_of_lt octetSmall]
      congr 1
      omega
    rw [← Nat.div_add_mod
      (Bytes.ofBigEndian front * 256 + last.toNat ^^^ octet.toNat) (2 ^ 8),
      high, low, Nat.mul_comm]
    rfl
  rw [Spec.number, Spec.number, read, write, content,
    Bytes.ofBigEndian_concat, Bytes.ofBigEndian_concat, UInt8.toNat_xor, ← sum]
  apply BitVec.eq_of_toNat_eq
  rw [BitVec.toNat_xor, BitVec.toNat_ofNat, BitVec.toNat_ofNat,
    BitVec.toNat_ofNat, Nat.xor_mod_two_pow]

/-- The most significant bit of a block is that of its first octet. -/
theorem msb_number (block : Octets 16) :
    (Spec.number block).msb = (block.get 0 &&& 0x80 != 0) := by
  have first (octet : UInt8) :
      (octet &&& 0x80 != 0) = decide (128 ≤ octet.toNat) := by
    have all :
        ∀ octet : Fin 256,
          (UInt8.ofFin octet &&& 0x80 != 0) = decide (128 ≤ octet.val) := by
      decide +kernel
    exact all octet.toFin
  obtain ⟨octets, size⟩ := block
  cases octets with
  | nil => cases size
  | cons octet rest =>
      have restSize : rest.length = 15 := Nat.succ.inj size
      have restSmall := Bytes.ofBigEndian_lt rest
      have octetSmall := octet.toNat_lt
      rw [restSize] at restSmall
      rw [BitVec.msb_eq_decide, Spec.number, BitVec.toNat_ofNat,
        Bytes.ofBigEndian_cons, restSize]
      change _ = (octet &&& 0x80 != 0)
      rw [first, decide_eq_decide]
      omega

/-- The octetwise doubling is the doubling of numbers. -/
theorem doubleSubkey_eq (block : Octets 16) :
    doubleSubkey block = Spec.block (Spec.nextSubkey (Spec.number block)) := by
  have shiftedNumber :
      Spec.number (leftShiftOneBit block) = Spec.number block <<< 1 := by
    have number := (shiftOctets_number block.1).2
    rw [block.2] at number
    apply BitVec.eq_of_toNat_eq
    rw [BitVec.toNat_shiftLeft, Spec.number, Spec.number, BitVec.toNat_ofNat,
      BitVec.toNat_ofNat, Nat.shiftLeft_eq]
    change Bytes.ofBigEndian (shiftOctets block.1).1 % 2 ^ 128 = _
    omega
  have lifted (octets : Octets 16) (number : BitVec 128)
      (same : Spec.number octets = number) : octets = Spec.block number := by
    rw [← same, Spec.block_number]
  apply lifted
  rw [doubleSubkey, Spec.nextSubkey, msb_number, ← shiftedNumber]
  split
  next => exact number_set_last (leftShiftOneBit block) rb
  next => rfl

/-- The subkeys of the code are those of the specification. -/
theorem generateSubkeys_eq (aes : BlockFunction) (ctx : Ctx) :
    generateSubkeys aes ctx =
      (Spec.k1 (aes.encrypt ctx.aesKey), Spec.k2 (aes.encrypt ctx.aesKey)) := by
  rw [generateSubkeys, doubleSubkey_eq, doubleSubkey_eq]
  rfl

/-! ## Streaming -/

section Streaming

variable (aes : BlockFunction) (key : Bytes)

/-- The state after a message: all blocks but the last one are chained, and the
last one is held back. -/
structure Holds (ctx : Ctx) (message : Bytes) : Prop where
  aesKey : ctx.aesKey = key
  state :
    ctx.state =
      Spec.chain (aes.encrypt key) message (Spec.blockCount message - 1)
  unprocessed :
    ctx.unprocessed = message.drop (16 * (Spec.blockCount message - 1))

variable {aes key}

/-- What is held back is empty only for the empty message and at most one
block. -/
theorem Holds.length {ctx : Ctx} {message : Bytes}
    (holds : Holds aes key ctx message) :
    16 * (Spec.blockCount message - 1) + ctx.unprocessed.length =
        message.length ∧
      ctx.unprocessed.length ≤ 16 ∧
      (ctx.unprocessed.length = 0 → message.length = 0) := by
  rw [holds.unprocessed, List.length_drop, Spec.blockCount]
  omega

/-- The state after `count` blocks, with input that is left, becomes the state
after the message. -/
theorem holds_absorb
    {ctx : Ctx} {message input : Bytes} {count : Nat}
    (aesKey : ctx.aesKey = key)
    (state : ctx.state = Spec.chain (aes.encrypt key) message count)
    (left : input = message.drop (16 * count)) (nonempty : input.length > 0) :
    Holds aes key (absorb aes ctx input) message := by
  fun_induction absorb aes ctx input generalizing count with
  | case1 ctx input long temp =>
      rename_i inductionHypothesis
      have first : input.slice 0 16 = message.slice (16 * count) 16 := by
        rw [left]
        simp only [Bytes.slice, List.drop_drop, Nat.add_zero]
      have next :
          aes.encrypt ctx.aesKey temp =
            Spec.chain (aes.encrypt key) message (count + 1) := by
        rw [Spec.chain, ← state, ← first, aesKey]
      apply @inductionHypothesis (count + 1) aesKey next
      · rw [left, List.drop_drop]
        congr 1
      · rw [List.length_drop]
        omega
  | case2 ctx input short present =>
      have position : Spec.blockCount message - 1 = count := by
        rw [left, List.length_drop] at short present
        rw [Spec.blockCount]
        omega
      constructor
      · exact aesKey
      · rw [position]
        exact state
      · rw [position]
        exact left
  | case3 ctx input short empty => exact absurd nonempty empty

/-- What is chained so far is chained in every longer message. -/
theorem Holds.state_append {ctx : Ctx} {message : Bytes}
    (holds : Holds aes key ctx message) (input : Bytes) :
    ctx.state =
      Spec.chain (aes.encrypt key) (message ++ input)
        (Spec.blockCount message - 1) := by
  have whole := holds.length.1
  rw [Spec.chain_append _ _ _ (by omega)]
  exact holds.state

/-- What is held back and the input are what follows in the longer message. -/
theorem Holds.unprocessed_append {ctx : Ctx} {message : Bytes}
    (holds : Holds aes key ctx message) (input : Bytes) :
    ctx.unprocessed ++ input =
      (message ++ input).drop (16 * (Spec.blockCount message - 1)) := by
  have whole := holds.length.1
  rw [List.drop_append_of_le_length (by omega), holds.unprocessed]

/-- Input that fits behind what is held back is held back, too. -/
theorem Holds.hold {ctx : Ctx} {message input : Bytes}
    (holds : Holds aes key ctx message) (begun : ctx.unprocessed.length > 0)
    (fits : ctx.unprocessed.length + input.length ≤ 16) :
    Holds aes key { ctx with unprocessed := ctx.unprocessed ++ input }
      (message ++ input) := by
  have position :
      Spec.blockCount (message ++ input) = Spec.blockCount message := by
    obtain ⟨whole, -, -⟩ := holds.length
    rw [Spec.blockCount] at whole
    rw [Spec.blockCount, Spec.blockCount, List.length_append]
    omega
  constructor
  · exact holds.aesKey
  · rw [position]
    exact holds.state_append input
  · rw [position]
    exact holds.unprocessed_append input

/-- A block that is complete is chained as soon as there is more input. -/
theorem Holds.pass {ctx : Ctx} {message front back : Bytes}
    (holds : Holds aes key ctx message)
    (complete : (ctx.unprocessed ++ front).length = 16)
    (more : back.length > 0) :
    let temp := ctx.state.xor (Bytes.slice (ctx.unprocessed ++ front) 0 16)
    Holds aes key
      (absorb aes
        { ctx with state := aes.encrypt ctx.aesKey temp, unprocessed := [] }
        back)
      (message ++ (front ++ back)) := by
  intro temp
  have state := holds.state_append (front ++ back)
  have following := holds.unprocessed_append (front ++ back)
  rw [← List.append_assoc] at following
  have block :
      (message ++ (front ++ back)).slice
          (16 * (Spec.blockCount message - 1)) 16 =
        Bytes.slice (ctx.unprocessed ++ front) 0 16 := by
    rw [← Bytes.slice_append_left (ctx.unprocessed ++ front) back complete.ge]
    simp only [Bytes.slice, following, List.drop_zero]
  apply @holds_absorb _ _ _ _ _ (Spec.blockCount message - 1 + 1)
  · exact holds.aesKey
  · rw [Spec.chain, block, ← state, holds.aesKey]
  · rw [Nat.mul_succ, ← List.drop_drop, ← following]
    exact (List.drop_left' complete).symm
  · exact more

/-- Feeding a piece continues the message with it. -/
theorem Holds.update {ctx : Ctx} {message : Bytes}
    (holds : Holds aes key ctx message) (input : Bytes) :
    Holds aes key (update aes ctx input) (message ++ input) := by
  obtain ⟨-, short, nothing⟩ := holds.length
  unfold Cmac.update
  split
  next empty =>
      rw [List.length_eq_zero_iff.mp empty, List.append_nil]
      exact holds
  next present =>
  split
  next begun =>
      dsimp only
      generalize used :
        min (16 - ctx.unprocessed.length) input.length = useLen
      have taken : (input.take useLen).length = useLen := by
        rw [List.length_take]
        omega
      have stays (all : useLen = input.length) :
          Holds aes key
            { ctx with unprocessed := ctx.unprocessed ++ input.take useLen }
            (message ++ input) := by
        rw [all, List.take_length]
        exact holds.hold begun (by omega)
      split
      next incomplete =>
          rw [List.length_append, taken] at incomplete
          exact stays (by omega)
      next full =>
          rw [List.length_append, taken] at full
          split
          next last =>
              rw [List.length_drop] at last
              exact stays (by omega)
          next more =>
              have complete :
                  (ctx.unprocessed ++ input.take useLen).length = 16 := by
                rw [List.length_append, taken]
                omega
              have passed := holds.pass complete (Nat.pos_of_ne_zero more)
              rwa [List.take_append_drop] at passed
  next unbegun =>
      have first : message = [] :=
        List.length_eq_zero_iff.mp (nothing (by omega))
      subst first
      exact @holds_absorb _ _ _ _ _ 0 holds.aesKey holds.state rfl (by omega)

/-- Feeding pieces continues the message with all of them. -/
theorem Holds.foldl_update {ctx : Ctx} {message : Bytes}
    (holds : Holds aes key ctx message) (chunks : List Bytes) :
    Holds aes key (chunks.foldl (Cmac.update aes) ctx)
      (message ++ chunks.flatten) := by
  induction chunks generalizing ctx message with
  | nil =>
      rw [List.flatten_nil, List.append_nil]
      exact holds
  | cons chunk chunks inductionHypothesis =>
      rw [List.flatten_cons, ← List.append_assoc]
      exact inductionHypothesis (holds.update chunk)

/-- The last block selects its subkey as specified. -/
theorem Holds.finish {ctx : Ctx} {message : Bytes}
    (holds : Holds aes key ctx message) :
    finish aes ctx = Spec.mac (aes.encrypt key) message := by
  obtain ⟨whole, short, nothing⟩ := holds.length
  have complete :
      ctx.unprocessed.length = 16 ↔
        message.length ≠ 0 ∧ message.length % 16 = 0 := by
    rw [Spec.blockCount] at whole
    omega
  have block :
      ctx.unprocessed.slice 0 16 =
        message.slice (16 * (Spec.blockCount message - 1)) 16 := by
    rw [holds.unprocessed]
    rfl
  have padded :
      Bytes.slice (ctx.unprocessed ++ [0x80]) 0 16 =
        Spec.padding (message.drop (16 * (Spec.blockCount message - 1))) := by
    have behind :=
      List.append_cons ctx.unprocessed 0x80
        (List.replicate (15 - ctx.unprocessed.length) 0)
    rw [← holds.unprocessed]
    apply Subtype.ext
    change _ = (_ ++ 0x80 :: _ : Bytes).takeD 16 0
    rw [behind]
    exact (Bytes.takeD_append_zeros _ _ 16).symm
  rw [Cmac.finish, generateSubkeys_eq, Spec.mac, Spec.lastBlock, holds.aesKey,
    holds.state]
  dsimp only
  rw [if_congr complete rfl rfl, block, padded]

end Streaming

/-- The code computes the authentication code of RFC 4493 for every function on
blocks, however the message is cut into pieces, also into empty ones; the
one-shot function is the case of a single piece. -/
theorem cmac_meets_specification
    (aes : BlockFunction) (key : Bytes) (keyBits : Nat) (chunks : List Bytes) :
    (starts key keyBits).map
        (fun ctx => finish aes (chunks.foldl (update aes) ctx)) =
      (if keyBitsSupported keyBits then
        some (Spec.mac (aes.encrypt key) chunks.flatten)
      else
        none) ∧
    ∀ message,
      cmacAes aes key keyBits message =
          (starts key keyBits).map
            (fun ctx => finish aes ([message].foldl (update aes) ctx)) ∧
        cmacAes aes key keyBits message =
          if keyBitsSupported keyBits then
            some (Spec.mac (aes.encrypt key) message)
          else
            none := by
  have streamed (chunks : List Bytes) :
      (starts key keyBits).map
          (fun ctx => finish aes (chunks.foldl (update aes) ctx)) =
        if keyBitsSupported keyBits then
          some (Spec.mac (aes.encrypt key) chunks.flatten)
        else
          none := by
    unfold starts
    split
    next =>
        have begun :
            Holds aes key
              { aesKey := key, state := Octets.zero 16, unprocessed := [] }
              [] :=
          ⟨rfl, rfl, rfl⟩
        exact congrArg some (begun.foldl_update chunks).finish
    next => rfl
  refine ⟨streamed chunks, ?_⟩
  intro message
  refine ⟨rfl, ?_⟩
  have single := streamed [message]
  rw [List.flatten_singleton] at single
  exact single

end Cmac

end Macsec
