import Macsec.Foundation.CounterMode
import Macsec.Math.CmacRefinement
import Macsec.MkaCrypto

/-!
# The key derivation against its specification

The derivation runs the authentication code in counter mode, with a counter of
one octet.  Labels are strings, so the octet behind them separates them from the
context, and no two blocks of the two derived keys come from the same input.
-/

namespace Macsec

namespace MkaCrypto

variable {aes : BlockCipher} {key : Bytes}

/-- The authentication code of the participant is that of the
specification. -/
theorem cmac_eq (size : keyLenValid key.length = true) (input : Bytes) :
    cmac aes key input = .ok (Cmac.Spec.mac (aes.encrypt key) input) := by
  have bits : keyBitsSupported (key.length * 8) = true := by
    rcases (by simpa [keyLenValid] using size :
      key.length = 16 ∨ key.length = 32) with size | size
    · rw [size]
      rfl
    · rw [size]
      rfl
  have begun :
      Cmac.Holds aes key
        { aesKey := key, state := Octets.zero 16, unprocessed := [] } [] :=
    ⟨rfl, rfl, rfl⟩
  rw [cmac, if_neg (by simp [size]), Cmac.cmacAes, Cmac.starts, if_pos bits]
  exact congrArg Except.ok (begun.update input).finish

/-- The input for the block with a counter. -/
def kdfInput (label context : Bytes) (outBits : UInt16) (counter : UInt8) :
    Bytes :=
  CounterMode.input 0 counter label context (wrBe16 outBits).1

/-- The blocks from a counter on. -/
def kdfStream (aes : BlockCipher) (key label context : Bytes)
    (outBits : UInt16) (counter : UInt8) (index : Nat) : Bytes :=
  (Cmac.Spec.mac (aes.encrypt key)
    (kdfInput label context outBits (counter + UInt8.ofNat index))).1

theorem kdfStream_succ (aes : BlockCipher) (key label context : Bytes)
    (outBits : UInt16) (counter : UInt8) :
    (fun index =>
      kdfStream aes key label context outBits counter (index + 1)) =
        kdfStream aes key label context outBits (counter + 1) := by
  funext index
  unfold kdfStream
  rw [UInt8.ofNat_add, UInt8.add_comm (UInt8.ofNat index), UInt8.add_assoc]
  rfl

/-- The loop yields the beginning of the stream of blocks. -/
theorem kdfBlocks_eq (size : keyLenValid key.length = true)
    (label context : Bytes) (outBits : UInt16) (counter : UInt8)
    (remaining : Nat) :
    kdfBlocks aes key label context outBits counter remaining =
      .ok ((CounterMode.stream
        (kdfStream aes key label context outBits counter)
        ((remaining + 15) / 16)).take remaining) := by
  induction remaining using Nat.strongRecOn generalizing counter with
  | ind remaining inductionHypothesis =>
      rw [kdfBlocks]
      by_cases more : remaining > 0
      · have first :
            (kdfStream aes key label context outBits counter 0).length = 16 :=
          (Cmac.Spec.mac _ _).2
        have left :
            (remaining + 15) / 16 =
              (remaining - min remaining 16 + 15) / 16 + 1 := by
          omega
        have input :
            [counter] ++ label ++ [0x00] ++ context ++ (wrBe16 outBits).1 =
              kdfInput label context outBits (counter + UInt8.ofNat 0) := by
          simp [kdfInput, CounterMode.input]
        rw [if_pos more, left, CounterMode.take_stream_succ first,
          kdfStream_succ]
        dsimp only
        rw [cmac_eq size, input]
        change (do
          let rest ← kdfBlocks aes key label context outBits (counter + 1)
            (remaining - min remaining 16)
          return _ ++ rest) = _
        rw [inductionHypothesis _ (by omega)]
        rfl
      · rw [if_neg more, Nat.eq_zero_of_not_pos more]
        rfl

/-- The derivation succeeds exactly on supported sizes, and then it yields the
beginning of the stream of blocks from the counter one on. -/
theorem kdf_meets_specification (aes : BlockCipher) (key label context : Bytes)
    (outBits : UInt16) (outLen : Nat) :
    kdf aes key label context outBits outLen =
      if keyLenValid key.length = true ∧ label.length ≤ 12 ∧
          context.length ≤ cknMaxLen ∧
          outLen = (outBits.toNat + 7) / 8 then
        .ok ((CounterMode.stream (kdfStream aes key label context outBits 1)
          ((outLen + 15) / 16)).take outLen)
      else
        .error .param := by
  unfold kdf
  by_cases size : keyLenValid key.length = true
  · rw [if_neg (by simp [size]), kdfBlocks_eq size]
    by_cases fits : label.length ≤ 12 ∧ context.length ≤ cknMaxLen
    · rw [if_neg (by simp [fits])]
      by_cases whole : outLen = (outBits.toNat + 7) / 8
      · rw [if_neg (not_not_intro whole),
          if_pos ⟨size, fits.1, fits.2, whole⟩]
      · rw [if_pos whole, if_neg fun all => whole all.2.2.2]
    · rw [if_pos (by simpa [imp_iff_not_or, Nat.not_le] using fits),
        if_neg fun all => fits ⟨all.2.1, all.2.2.1⟩]
  · rw [if_pos (by simpa using size), if_neg fun all => size all.1]

/-! ## The two derived keys -/

/-- The inputs for the blocks of a key of the pre-shared key's length. -/
def derivedInputs (ctx : Ctx) (label : Bytes) : List Bytes :=
  (List.range ((ctx.psk.cak.length + 15) / 16)).map fun index =>
    kdfInput label (ctx.psk.ckn.slice 0 16).1
      (UInt16.ofNat (ctx.psk.cak.length * 8)) (1 + UInt8.ofNat index)

/-- The key that these blocks begin with. -/
def derivedKey (aes : BlockCipher) (ctx : Ctx) (label : Bytes) : Bytes :=
  ((derivedInputs ctx label).flatMap fun input =>
    (Cmac.Spec.mac (aes.encrypt ctx.psk.cak) input).1).take
      ctx.psk.cak.length

theorem kdfInput_inj {label name context subject : Bytes}
    {outBits size : UInt16} {counter number : UInt8} (inLabel : 0 ∉ label)
    (inName : 0 ∉ name)
    (same : kdfInput label context outBits counter =
      kdfInput name subject size number) :
    counter = number ∧ label = name ∧ context = subject := by
  obtain ⟨counters, labels, contexts, -⟩ :=
    CounterMode.input_inj inLabel inName
      ((wrBe16 outBits).2.trans (wrBe16 size).2.symm) same
  exact ⟨counters, labels, contexts⟩

theorem deriveOne_eq {ctx : Ctx} (configured : ctx.psk.valid = true)
    (size : keyLenValid ctx.psk.cak.length = true) {label : Bytes}
    (fits : label.length ≤ 12) :
    deriveOne aes ctx label ctx.psk.cak.length =
      .ok (derivedKey aes ctx label) := by
  have bits :
      (UInt16.ofNat (ctx.psk.cak.length * 8)).toNat =
        ctx.psk.cak.length * 8 := by
    rcases (by simpa [keyLenValid] using size :
      ctx.psk.cak.length = 16 ∨ ctx.psk.cak.length = 32) with size | size
    · rw [size]
      rfl
    · rw [size]
      rfl
  unfold deriveOne
  rw [if_neg (by simp [configured]), if_neg (by simp [size])]
  dsimp only
  rw [kdf, if_neg (by simp [size]), if_neg (by
      simp [fits, (ctx.psk.ckn.slice 0 16).2, cknMaxLen]),
    if_neg (by rw [bits]; omega), kdfBlocks_eq size, derivedKey,
    derivedInputs, List.flatMap_map]
  rfl

theorem separator_ickLabel : (0 : UInt8) ∉ ickLabel := by decide

theorem separator_kekLabel : (0 : UInt8) ∉ kekLabel := by decide

/-- No two blocks of a key come from the same input. -/
theorem nodup_derivedInputs {ctx : Ctx}
    (size : keyLenValid ctx.psk.cak.length = true) {label : Bytes}
    (inLabel : 0 ∉ label) : (derivedInputs ctx label).Nodup := by
  have few : (ctx.psk.cak.length + 15) / 16 ≤ 256 := by
    rcases (by simpa [keyLenValid] using size :
      ctx.psk.cak.length = 16 ∨ ctx.psk.cak.length = 32) with size | size
    · rw [size]
      decide
    · rw [size]
      decide
  refine List.Nodup.map_on ?_ List.nodup_range
  intro index inRange other otherInRange same
  rw [List.mem_range] at inRange otherInRange
  obtain ⟨counters, -, -⟩ := kdfInput_inj inLabel inLabel same
  have octets := congrArg UInt8.toNat ((UInt8.add_right_inj 1).mp counters)
  rwa [UInt8.toNat_ofNat_of_lt' (Nat.lt_of_lt_of_le inRange few),
    UInt8.toNat_ofNat_of_lt' (Nat.lt_of_lt_of_le otherInRange few)] at octets

/-- The blocks of an ICK and those of a KEK come from different inputs. -/
theorem disjoint_derivedInputs (ctx other : Ctx) :
    (derivedInputs ctx ickLabel).Disjoint (derivedInputs other kekLabel) := by
  intro input first second
  obtain ⟨index, -, rfl⟩ := List.mem_map.mp first
  obtain ⟨number, -, same⟩ := List.mem_map.mp second
  obtain ⟨-, labels, -⟩ :=
    kdfInput_inj separator_kekLabel separator_ickLabel same
  exact absurd labels (by decide)

/-- The two keys of a pre-shared key are derived in counter mode.  All their
blocks come from different inputs, and those of an ICK never from inputs of a
KEK, be it of another pre-shared key. -/
theorem ick_kek_separated {ctx : Ctx} (configured : ctx.psk.valid = true)
    (size : keyLenValid ctx.psk.cak.length = true) :
    deriveIckKek aes ctx =
        (.ok,
          { ctx with
            keys :=
              { ick := derivedKey aes ctx ickLabel
                kek := derivedKey aes ctx kekLabel
                valid := true } }) ∧
      (derivedInputs ctx ickLabel ++ derivedInputs ctx kekLabel).Nodup ∧
      ∀ other,
        (derivedInputs ctx ickLabel).Disjoint
          (derivedInputs other kekLabel) := by
  refine ⟨?_, ?_, disjoint_derivedInputs ctx⟩
  · unfold deriveIckKek
    rw [if_neg (by simp [configured])]
    dsimp only
    rw [if_neg (by simp [size]), deriveOne_eq configured size (by decide),
      deriveOne_eq configured size (by decide)]
  · exact (nodup_derivedInputs size separator_ickLabel).append
      (nodup_derivedInputs size separator_kekLabel)
      (disjoint_derivedInputs ctx ctx)

/-- A pre-shared key of 128 bits yields separated keys. -/
theorem short_ick_kek_separated :
    let ctx : Ctx :=
      { psk := { cak := List.replicate 16 1, ckn := [2], valid := true }
        keys := init.keys }
    deriveIckKek BlockCipher.null ctx =
        (.ok,
          { ctx with
            keys :=
              { ick := derivedKey BlockCipher.null ctx ickLabel
                kek := derivedKey BlockCipher.null ctx kekLabel
                valid := true } }) ∧
      (derivedInputs ctx ickLabel ++ derivedInputs ctx kekLabel).Nodup ∧
      ∀ other,
        (derivedInputs ctx ickLabel).Disjoint
          (derivedInputs other kekLabel) :=
  ick_kek_separated rfl rfl

end MkaCrypto

end Macsec
