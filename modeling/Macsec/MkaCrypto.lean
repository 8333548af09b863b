import Mathlib.Data.List.GetD
import Macsec.Common
import Macsec.Foundation.Reversal
import Macsec.Math.Cmac

/-!
# Cryptographic services of MKA

Key derivation from the pre-shared key, the integrity check value of MKPDUs
and the AES key wrap of distributed SAKs, as in `mka_crypto.c`.  The scratch
contexts of the source carry no state from call to call and are left out.
-/

namespace Macsec

namespace MkaCrypto

/-- The pre-shared key: CAK and its name. -/
structure Psk where
  cak : Bytes
  ckn : Bytes
  valid : Bool
  deriving DecidableEq

/-- The keys derived from the CAK. -/
structure Keys where
  ick : Bytes
  kek : Bytes
  valid : Bool
  deriving DecidableEq

/-- The key material of a participant. -/
structure Ctx where
  psk : Psk
  keys : Keys
  deriving DecidableEq

/-- The longest CAK name. -/
def cknMaxLen : Nat := 32

/-- The length of the integrity check value. -/
def micLen : Nat := 16

/-- The cleared key material. -/
def init : Ctx where
  psk := { cak := [], ckn := [], valid := false }
  keys := { ick := [], kek := [], valid := false }

/-- Keys have 128 or 256 bits. -/
def keyLenValid (keyLen : Nat) : Bool :=
  keyLen == 16 || keyLen == 32

/-- Whether there is an ICK to verify with. -/
def ickReady (ctx : Ctx) : Bool :=
  ctx.keys.valid && keyLenValid ctx.keys.ick.length

/-- Whether there is a KEK to wrap with. -/
def kekReady (ctx : Ctx) : Bool :=
  ctx.keys.valid && keyLenValid ctx.keys.kek.length

/-- The CMAC of a message under a key of the participant. -/
def cmac (aes : BlockCipher) (key input : Bytes) : Except Err (Octets 16) :=
  if !keyLenValid key.length then
    .error .param
  else
    match Cmac.cmacAes aes key (key.length * 8) input with
    | some out => .ok out
    | none => .error .crypto

/-! ## Key derivation -/

/-- The output of the key derivation from a counter value on. -/
def kdfBlocks
    (aes : BlockCipher) (key label context : Bytes) (outBits : UInt16)
    (counter : UInt8) (remaining : Nat) : Except Err Bytes :=
  if remaining > 0 then do
    let input :=
      [counter] ++ label ++ [0x00] ++ context ++ (wrBe16 outBits).1
    let out ← cmac aes key input
    let copyLen := min remaining 16
    let rest ←
      kdfBlocks aes key label context outBits (counter + 1)
        (remaining - copyLen)
    return out.1.take copyLen ++ rest
  else
    return []
termination_by remaining

/-- The key derivation function. -/
def kdf
    (aes : BlockCipher) (key label context : Bytes) (outBits : UInt16)
    (outLen : Nat) : Except Err Bytes :=
  if !keyLenValid key.length then
    .error .param
  else if label.length > 12 || context.length > cknMaxLen then
    .error .param
  else if outLen ≠ (outBits.toNat + 7) / 8 then
    .error .param
  else
    kdfBlocks aes key label context outBits 1 outLen

/-- Derive one key from the pre-shared key. -/
def deriveOne (aes : BlockCipher) (ctx : Ctx) (label : Bytes) (outLen : Nat) :
    Except Err Bytes :=
  if !ctx.psk.valid then
    .error .state
  else if !keyLenValid outLen then
    .error .param
  else
    let keyid := ctx.psk.ckn.slice 0 16
    kdf aes ctx.psk.cak label keyid.1 (UInt16.ofNat (outLen * 8)) outLen

/-- The octets of the label "IEEE8021 ICK". -/
def ickLabel : Bytes :=
  [0x49, 0x45, 0x45, 0x45, 0x38, 0x30, 0x32, 0x31, 0x20, 0x49, 0x43, 0x4B]

/-- The octets of the label "IEEE8021 KEK". -/
def kekLabel : Bytes :=
  [0x49, 0x45, 0x45, 0x45, 0x38, 0x30, 0x32, 0x31, 0x20, 0x4B, 0x45, 0x4B]

/-- Configure the pre-shared key. -/
def setPsk (ctx : Ctx) (cak ckn : Bytes) : Err × Ctx :=
  if !keyLenValid cak.length then
    (.param, ctx)
  else if ckn.length = 0 || ckn.length > cknMaxLen then
    (.param, ctx)
  else
    (.ok, { psk := { cak, ckn, valid := true }, keys := init.keys })

/-- Derive the integrity check key and the key encrypting key. -/
def deriveIckKek (aes : BlockCipher) (ctx : Ctx) : Err × Ctx :=
  if !ctx.psk.valid then
    (.state, ctx)
  else
    let derivedLen := ctx.psk.cak.length
    if !keyLenValid derivedLen then
      (.param, ctx)
    else
      match deriveOne aes ctx ickLabel derivedLen with
      | .error ret => (ret, { ctx with keys := init.keys })
      | .ok ick =>
          match deriveOne aes ctx kekLabel derivedLen with
          | .error ret => (ret, { ctx with keys := init.keys })
          | .ok kek => (.ok, { ctx with keys := { ick, kek, valid := true } })

/-! ## Integrity check value -/

/-- The integrity check value of an MKPDU. -/
def calcMic (aes : BlockCipher) (ctx : Ctx) (pdu : Bytes) :
    Except Err (Octets 16) :=
  if !ickReady ctx then .error .state else cmac aes ctx.keys.ick pdu

/-- Verify the integrity check value of an MKPDU. -/
def verifyMic (aes : BlockCipher) (ctx : Ctx) (pdu : Bytes) (mic : Octets 16) :
    Err :=
  match calcMic aes ctx pdu with
  | .error ret => ret
  | .ok calculated =>
      if compare calculated.1 mic.1 ≠ 0 then .auth else .ok

/-! ## AES key wrap -/

/-- The registers of the key wrap. -/
structure WrapState where
  a : Octets 8
  r : List (Octets 8)

/-- A step of the key wrap: the register it works on and the counter it mixes
in. -/
structure WrapStep where
  i : Nat
  t : Nat

/-- The steps for `n` registers, in the order of wrapping. -/
def wrapSteps (n : Nat) : List WrapStep :=
  (List.range 6).flatMap fun j =>
    (List.range n).map fun i => { i, t := j * n + i + 1 }

/-- The `n` 8-octet registers a byte string consists of. -/
def registers (bytes : Bytes) (n : Nat) : List (Octets 8) :=
  (List.range n).map fun i => bytes.slice (i * 8) 8

/-- The byte string that consists of the given registers. -/
def joined (r : List (Octets 8)) : Bytes :=
  r.flatMap Subtype.val

/-- The effect of a step when a key is wrapped. -/
def wrapStep (aes : BlockCipher) (kek : Bytes) (state : WrapState)
    (step : WrapStep) : WrapState :=
  let block := state.a.append (state.r.getD step.i default)
  let b := aes.encrypt kek block
  { a := (b.1.slice 0 8).xor (Octets.ofNat 8 step.t)
    r := state.r.set step.i (b.1.slice 8 8) }

/-- The effect of a step when a key is unwrapped. -/
def unwrapStep (aes : BlockCipher) (kek : Bytes) (state : WrapState)
    (step : WrapStep) : WrapState :=
  let block :=
    (state.a.xor (Octets.ofNat 8 step.t)).append
      (state.r.getD step.i default)
  let b := aes.decrypt kek block
  { a := b.1.slice 0 8
    r := state.r.set step.i (b.1.slice 8 8) }

/-- The initial value that marks a wrapped key. -/
def kwIv : Octets 8 :=
  ⟨List.replicate 8 0xA6, List.length_replicate⟩

/-- AES key wrap. -/
def aesKwWrap (aes : BlockCipher) (kek plain : Bytes) (wrappedMaxLen : Nat) :
    Except Err Bytes :=
  if !keyLenValid kek.length then
    .error .param
  else if plain.length < 16 || plain.length % 8 ≠ 0 then
    .error .param
  else if plain.length + 8 > wrappedMaxLen then
    .error .buffer
  else
    let n := plain.length / 8
    let wrapped :=
      (wrapSteps n).foldl (wrapStep aes kek)
        { a := kwIv, r := registers plain n }
    .ok (wrapped.a.1 ++ joined wrapped.r)

/-- AES key unwrap.  The steps of the wrap are undone in the opposite
order. -/
def aesKwUnwrap (aes : BlockCipher) (kek wrapped : Bytes) (plainMaxLen : Nat) :
    Except Err Bytes :=
  if !keyLenValid kek.length then
    .error .param
  else if wrapped.length < 24 || wrapped.length % 8 ≠ 0 then
    .error .param
  else
    let n := wrapped.length / 8 - 1
    if n * 8 > plainMaxLen then
      .error .buffer
    else
      let plain :=
        (wrapSteps n).reverse.foldl (unwrapStep aes kek)
          { a := wrapped.slice 0 8, r := registers (wrapped.drop 8) n }
      if compare plain.a.1 kwIv.1 ≠ 0 then
        .error .auth
      else
        .ok (joined plain.r)

/-- Wrap a SAK for distribution. -/
def wrapSak (aes : BlockCipher) (ctx : Ctx) (sak : Bytes)
    (wrappedMaxLen : Nat) : Except Err Bytes :=
  if !kekReady ctx then
    .error .state
  else if !keyLenValid sak.length then
    .error .param
  else
    aesKwWrap aes ctx.keys.kek sak wrappedMaxLen

/-- Unwrap a distributed SAK. -/
def unwrapSak (aes : BlockCipher) (ctx : Ctx) (wrapped : Bytes)
    (sakMaxLen : Nat) : Except Err Bytes :=
  if !kekReady ctx then
    .error .state
  else if wrapped.length ≠ 24 && wrapped.length ≠ 40 then
    .error .param
  else
    match aesKwUnwrap aes ctx.keys.kek wrapped sakMaxLen with
    | .error ret => .error ret
    | .ok sak => if !keyLenValid sak.length then .error .crypto else .ok sak

/-! ## Derivation succeeds -/

/-- Key material as a successful initialisation leaves it. -/
structure Ctx.Keyed (ctx : Ctx) : Prop where
  ick : ickReady ctx = true
  kek : kekReady ctx = true
  ckn : ctx.psk.ckn.length ≤ cknMaxLen

/-- A CMAC under a key of a supported size exists. -/
theorem exists_cmac
    (aes : BlockCipher) {key : Bytes} (size : keyLenValid key.length = true)
    (input : Bytes) : ∃ out, cmac aes key input = .ok out := by
  have bits : keyBitsSupported (key.length * 8) = true := by
    rcases (by simpa [keyLenValid] using size :
      key.length = 16 ∨ key.length = 32) with size | size
    · rw [size]
      rfl
    · rw [size]
      rfl
  rw [cmac, if_neg (by simp [size]), Cmac.cmacAes, Cmac.starts, if_pos bits]
  exact ⟨_, rfl⟩

/-- The key derivation yields as many octets as asked for. -/
theorem exists_kdfBlocks
    (aes : BlockCipher) {key : Bytes} (size : keyLenValid key.length = true)
    (label context : Bytes) (outBits : UInt16) (counter : UInt8)
    (remaining : Nat) :
    ∃ out,
      kdfBlocks aes key label context outBits counter remaining = .ok out ∧
        out.length = remaining := by
  induction remaining using Nat.strongRecOn generalizing counter with
  | ind remaining inductionHypothesis =>
      rw [kdfBlocks]
      by_cases done : remaining > 0
      · obtain ⟨block, blockOk⟩ := exists_cmac aes size
          ([counter] ++ label ++ [0x00] ++ context ++ (wrBe16 outBits).1)
        obtain ⟨rest, restOk, restLength⟩ :=
          inductionHypothesis (remaining - min remaining 16) (by omega)
            (counter + 1)
        refine ⟨block.1.take (min remaining 16) ++ rest, ?_, ?_⟩
        · rw [if_pos done]
          dsimp only
          rw [blockOk]
          change (do
            let rest ← kdfBlocks aes key label context outBits (counter + 1)
              (remaining - min remaining 16)
            return block.1.take (min remaining 16) ++ rest) = _
          rw [restOk]
          rfl
        · rw [List.length_append, List.length_take, block.2, restLength]
          omega
      · rw [if_neg done]
        exact ⟨[], rfl, by simp; omega⟩

/-- A configured pre-shared key yields keys of its size. -/
theorem exists_deriveOne
    (aes : BlockCipher) {ctx : Ctx} (valid : ctx.psk.valid = true)
    {label : Bytes} (labelLength : label.length = 12)
    (size : keyLenValid ctx.psk.cak.length = true) :
    ∃ key, deriveOne aes ctx label ctx.psk.cak.length = .ok key ∧
      key.length = ctx.psk.cak.length := by
  have sizes : ctx.psk.cak.length = 16 ∨ ctx.psk.cak.length = 32 := by
    simpa [keyLenValid] using size
  have bits :
      (UInt16.ofNat (ctx.psk.cak.length * 8)).toNat =
        ctx.psk.cak.length * 8 := by
    rcases sizes with size | size
    · rw [size]
      rfl
    · rw [size]
      rfl
  obtain ⟨key, derived, keyLength⟩ :=
    exists_kdfBlocks aes size label (ctx.psk.ckn.slice 0 16).1
      (UInt16.ofNat (ctx.psk.cak.length * 8)) 1 ctx.psk.cak.length
  refine ⟨key, ?_, keyLength⟩
  rw [deriveOne, if_neg (by simp [valid]), if_neg (by simp [size])]
  dsimp only
  rw [kdf, if_neg (by simp [size]),
    if_neg (by simp [labelLength, (ctx.psk.ckn.slice 0 16).2, cknMaxLen]),
    if_neg (by rw [bits]; omega), derived]

/-- Deriving the keys of a pre-shared key of a supported size succeeds. -/
theorem exists_keyed
    (aes : BlockCipher) {cak ckn : Bytes}
    (cakSize : keyLenValid cak.length = true) (cknPresent : ckn.length ≠ 0)
    (cknFits : ckn.length ≤ cknMaxLen) :
    ∃ keys,
      setPsk init cak ckn =
          (.ok, { psk := { cak, ckn, valid := true }, keys := init.keys }) ∧
        deriveIckKek aes
            { psk := { cak, ckn, valid := true }, keys := init.keys } =
          (.ok, { psk := { cak, ckn, valid := true }, keys := keys }) ∧
        Ctx.Keyed { psk := { cak, ckn, valid := true }, keys := keys } := by
  let ctx : Ctx := { psk := { cak, ckn, valid := true }, keys := init.keys }
  obtain ⟨ick, ickOk, ickLength⟩ :=
    @exists_deriveOne aes ctx rfl ickLabel rfl cakSize
  obtain ⟨kek, kekOk, kekLength⟩ :=
    @exists_deriveOne aes ctx rfl kekLabel rfl cakSize
  have ickSize : keyLenValid ick.length = true := by
    rw [ickLength]
    exact cakSize
  have kekSize : keyLenValid kek.length = true := by
    rw [kekLength]
    exact cakSize
  refine ⟨{ ick, kek, valid := true }, ?_, ?_, ⟨?_, ?_, cknFits⟩⟩
  · rw [setPsk, if_neg (by simp [cakSize]),
      if_neg (by simp [cknPresent, cknFits])]
  · rw [deriveIckKek, if_neg (by simp)]
    dsimp only
    rw [if_neg (by simp [cakSize])]
    change (match deriveOne aes ctx ickLabel ctx.psk.cak.length with
      | .error ret => _
      | .ok ick => _) = _
    rw [ickOk]
    change (match deriveOne aes ctx kekLabel ctx.psk.cak.length with
      | .error ret => _
      | .ok kek => _) = _
    rw [kekOk]
  · rw [ickReady, ickSize]
    rfl
  · rw [kekReady, kekSize]
    rfl

/-- The key material of a pre-shared key. -/
def keysOf (aes : BlockCipher) (cak ckn : Bytes) : Ctx :=
  (deriveIckKek aes (setPsk init cak ckn).2).2

theorem ckn_keysOf (aes : BlockCipher) {cak ckn : Bytes}
    (cakSize : keyLenValid cak.length = true) (cknPresent : ckn.length ≠ 0)
    (cknFits : ckn.length ≤ cknMaxLen) :
    (keysOf aes cak ckn).psk.ckn = ckn := by
  obtain ⟨keys, set, derived, -⟩ :=
    exists_keyed aes cakSize cknPresent cknFits
  rw [keysOf, set, derived]

/-- A pre-shared key is accepted only with sizes that are supported. -/
theorem setPsk_sizes {ctx : Ctx} {cak ckn : Bytes}
    (accepted : (setPsk ctx cak ckn).1 = .ok) :
    keyLenValid cak.length = true ∧ ckn.length ≠ 0 ∧
      ckn.length ≤ cknMaxLen := by
  unfold setPsk at accepted
  split at accepted
  next => exact Err.noConfusion accepted
  next cakSize =>
      split at accepted
      next => exact Err.noConfusion accepted
      next cknSize =>
          simp only [Bool.or_eq_true, decide_eq_true_eq, not_or,
            Nat.not_lt] at cknSize
          exact ⟨by simpa using cakSize, cknSize⟩

/-! ## Unwrapping inverts wrapping -/

@[simp] theorem length_joined (r : List (Octets 8)) :
    (joined r).length = r.length * 8 := by
  induction r with
  | nil => rfl
  | cons register r inductionHypothesis =>
      rw [joined, List.flatMap_cons, List.length_append, register.2,
        ← joined, inductionHypothesis, List.length_cons]
      omega

/-- The registers of a string of registers. -/
theorem registers_joined (r : List (Octets 8)) :
    registers (joined r) r.length = r := by
  apply List.ext_getElem
  · simp [registers]
  · intro index inRegisters inRange
    simp only [registers, List.getElem_map, List.getElem_range]
    induction r generalizing index with
    | nil => simp at inRange
    | cons register r inductionHypothesis =>
        rw [joined, List.flatMap_cons, ← joined]
        cases index with
        | zero =>
            rw [Nat.zero_mul]
            exact Bytes.slice_append_self register (joined r)
        | succ index =>
            have offset : (index + 1) * 8 = register.1.length + index * 8 := by
              rw [register.2]
              omega
            rw [offset, Bytes.slice_append_right]
            exact inductionHypothesis index
              (by simpa [registers] using inRange) (by simpa using inRange)

/-- The string of the registers of a string. -/
theorem joined_registers
    {bytes : Bytes} {n : Nat} (size : bytes.length = n * 8) :
    joined (registers bytes n) = bytes := by
  induction n generalizing bytes with
  | zero =>
      rw [List.length_eq_zero_iff.mp (size.trans (Nat.zero_mul 8))]
      rfl
  | succ n inductionHypothesis =>
      have tailSize : (bytes.drop 8).length = n * 8 := by
        rw [List.length_drop]
        omega
      have tail :
          registers (bytes.drop 8) n =
            (List.range n).map fun i => bytes.slice ((i + 1) * 8) 8 := by
        apply List.map_congr_left
        intro i _
        apply Subtype.ext
        simp only [Bytes.slice, List.drop_drop]
        congr 2
        omega
      have head : (bytes.slice 0 8).1 = bytes.take 8 := by
        rw [Bytes.slice_val _ (by omega), List.drop_zero]
      rw [registers, List.range_succ_eq_map, List.map_cons, List.map_map,
        joined, List.flatMap_cons, Nat.zero_mul, head]
      change _ ++ joined ((List.range n).map fun i =>
        bytes.slice ((i + 1) * 8) 8) = _
      rw [← tail, inductionHypothesis tailSize, List.take_append_drop]

theorem length_registers (bytes : Bytes) (n : Nat) :
    (registers bytes n).length = n := by
  rw [registers, List.length_map, List.length_range]

/-- The step undoes what wrapping did to its register. -/
theorem unwrapStep_wrapStep
    (aes : BlockCipher) (kek : Bytes) {state : WrapState} {step : WrapStep}
    (inRange : step.i < state.r.length) :
    unwrapStep aes kek (wrapStep aes kek state step) step = state := by
  let block := state.a.append (state.r.getD step.i default)
  let b := aes.encrypt kek block
  have register :
      (state.r.set step.i (b.1.slice 8 8)).getD step.i default =
        b.1.slice 8 8 := by
    rw [List.getD_eq_getElem _ _ (by rwa [List.length_set]),
      List.getElem_set_self]
  have unmasked :
      ((b.1.slice 0 8).xor (Octets.ofNat 8 step.t)).xor
          (Octets.ofNat 8 step.t) =
        b.1.slice 0 8 := by
    rw [Octets.xor_comm (b.1.slice 0 8), Octets.xor_comm,
      Octets.xor_xor_cancel]
  have decrypted :
      aes.decrypt kek ((b.1.slice 0 8).append (b.1.slice 8 8)) = block := by
    rw [Octets.append_slices, aes.decrypt_encrypt]
  simp only [unwrapStep, wrapStep]
  change
    WrapState.mk
        ((aes.decrypt kek
          ((((b.1.slice 0 8).xor (Octets.ofNat 8 step.t)).xor
            (Octets.ofNat 8 step.t)).append
              ((state.r.set step.i (b.1.slice 8 8)).getD step.i
                default))).1.slice 0 8)
        ((state.r.set step.i (b.1.slice 8 8)).set step.i
          ((aes.decrypt kek
            ((((b.1.slice 0 8).xor (Octets.ofNat 8 step.t)).xor
              (Octets.ofNat 8 step.t)).append
                ((state.r.set step.i (b.1.slice 8 8)).getD step.i
                  default))).1.slice 8 8)) =
      state
  rw [register, unmasked, decrypted, List.set_set]
  have first : block.1.slice 0 8 = state.a :=
    Octets.slice_append_left _ _
  have second : block.1.slice 8 8 = state.r.getD step.i default :=
    Octets.slice_append_right _ _
  rw [first, second, List.getD_eq_getElem _ _ inRange, List.set_getElem_self]

theorem wrapSteps_inRange {n : Nat} {step : WrapStep}
    (member : step ∈ wrapSteps n) : step.i < n := by
  simp only [wrapSteps, List.mem_flatMap, List.mem_range,
    List.mem_map] at member
  obtain ⟨_, _, i, inRange, rfl⟩ := member
  exact inRange

/-- Unwrapping a wrapped string of at least two registers restores it. -/
theorem aesKwUnwrap_aesKwWrap
    (aes : BlockCipher) {kek plain wrapped : Bytes} {wrappedMaxLen : Nat}
    {plainMaxLen : Nat} (room : plain.length ≤ plainMaxLen)
    (wrap : aesKwWrap aes kek plain wrappedMaxLen = .ok wrapped) :
    aesKwUnwrap aes kek wrapped plainMaxLen = .ok plain := by
  unfold aesKwWrap at wrap
  split at wrap
  · cases wrap
  next kekValid =>
  split at wrap
  · cases wrap
  next plainValid =>
  split at wrap
  · cases wrap
  next _ =>
  simp only [Bool.or_eq_true, decide_eq_true_eq, not_or, not_lt, ne_eq,
    Decidable.not_not] at plainValid
  obtain ⟨n, size⟩ : ∃ n, plain.length = n * 8 :=
    ⟨plain.length / 8, by omega⟩
  have count : plain.length / 8 = n := by omega
  rw [count] at wrap
  let start : WrapState := { a := kwIv, r := registers plain n }
  let final := (wrapSteps n).foldl (wrapStep aes kek) start
  have keepsLength :
      ∀ state : WrapState, ∀ step ∈ wrapSteps n, state.r.length = n →
        (wrapStep aes kek state step).r.length = n := by
    intro state step _ sameLength
    simpa only [wrapStep, List.length_set] using sameLength
  have startLength : start.r.length = n := length_registers plain n
  have finalLength : final.r.length = n :=
    Transition.foldl_invariant
      (fun state : WrapState => state.r.length = n)
      (wrapSteps n) keepsLength startLength
  have undone :
      (wrapSteps n).reverse.foldl (unwrapStep aes kek) final = start :=
    Transition.foldl_reverse_cancel
      (fun state : WrapState => state.r.length = n)
      (wrapSteps n) keepsLength
      (fun state step member sameLength =>
        unwrapStep_wrapStep aes kek
          (sameLength.symm ▸ wrapSteps_inRange member))
      startLength
  have result : wrapped = final.a.1 ++ joined final.r := by
    cases wrap
    rfl
  have wrappedSize : wrapped.length = 8 + n * 8 := by
    rw [result, List.length_append, final.a.2, length_joined, finalLength]
  have wrappedCount : wrapped.length / 8 - 1 = n := by omega
  have first : wrapped.slice 0 8 = final.a := by
    rw [result]
    exact Bytes.slice_append_self final.a (joined final.r)
  have rest : registers (wrapped.drop 8) n = final.r := by
    have behind : wrapped.drop 8 = joined final.r := by
      rw [result]
      exact List.drop_left' final.a.2
    rw [behind, ← finalLength, registers_joined]
  unfold aesKwUnwrap
  rw [if_neg kekValid, if_neg (by simp; omega)]
  simp only [wrappedCount]
  rw [if_neg (by omega), first, rest]
  change (if compare
      ((wrapSteps n).reverse.foldl (unwrapStep aes kek) final).a.1 kwIv.1 ≠ 0
    then _ else _) = _
  simp only [undone]
  rw [if_neg (by simp [start]), joined_registers size]

/-- The wrapped form of a SAK is 8 octets longer than the SAK. -/
theorem length_aesKwWrap
    (aes : BlockCipher) {kek plain wrapped : Bytes} {wrappedMaxLen : Nat}
    (wrap : aesKwWrap aes kek plain wrappedMaxLen = .ok wrapped) :
    wrapped.length = plain.length + 8 := by
  unfold aesKwWrap at wrap
  split at wrap
  · cases wrap
  split at wrap
  · cases wrap
  next plainValid =>
  split at wrap
  · cases wrap
  cases wrap
  simp only [Bool.or_eq_true, decide_eq_true_eq, not_or, not_lt, ne_eq,
    Decidable.not_not] at plainValid
  let final :=
    (wrapSteps (plain.length / 8)).foldl (wrapStep aes kek)
      { a := kwIv, r := registers plain (plain.length / 8) }
  have keeps : final.r.length = plain.length / 8 := by
    apply Transition.foldl_invariant
      (fun state : WrapState => state.r.length = plain.length / 8)
    · intro state step _ sameLength
      simpa only [wrapStep, List.length_set] using sameLength
    · exact length_registers plain _
  change (final.a.1 ++ joined final.r).length = plain.length + 8
  rw [List.length_append, final.a.2, length_joined, keeps]
  omega

/-- Wrapping a SAK of a supported size under a derived KEK succeeds, and
unwrapping under the same key material restores it. -/
theorem exists_wrapSak
    (aes : BlockCipher) {ctx : Ctx} {sak : Bytes}
    (ready : kekReady ctx = true) (size : keyLenValid sak.length = true) :
    ∃ wrapped, wrapSak aes ctx sak 40 = .ok wrapped ∧
      wrapped.length = sak.length + 8 ∧
      unwrapSak aes ctx wrapped 32 = .ok sak := by
  have kekSize : keyLenValid ctx.keys.kek.length = true := by
    simp only [kekReady, Bool.and_eq_true] at ready
    exact ready.2
  have sakSize : sak.length = 16 ∨ sak.length = 32 := by
    simpa [keyLenValid] using size
  obtain ⟨wrapped, wrap⟩ :
      ∃ wrapped, aesKwWrap aes ctx.keys.kek sak 40 = .ok wrapped := by
    unfold aesKwWrap
    rw [if_neg (by simp [kekSize]), if_neg (by simp; omega),
      if_neg (by omega)]
    exact ⟨_, rfl⟩
  have wrappedLength := length_aesKwWrap aes wrap
  have unwrap :
      aesKwUnwrap aes ctx.keys.kek wrapped 32 = .ok sak :=
    aesKwUnwrap_aesKwWrap aes (by omega) wrap
  refine ⟨wrapped, ?_, wrappedLength, ?_⟩
  · rw [wrapSak, if_neg (by simp [ready]), if_neg (by simp [size]), wrap]
  · rw [unwrapSak, if_neg (by simp [ready]), if_neg (by simp; omega), unwrap]
    simp [size]

end MkaCrypto

end Macsec
