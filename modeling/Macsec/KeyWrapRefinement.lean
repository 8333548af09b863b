import Macsec.MkaCrypto
import Macsec.Math.KeyWrapSpec

/-!
# The key wrap meets RFC 3394

The loops over the registers compute the shift register form of the wrap.
Unwrapping writes into a buffer; it succeeds exactly on what wrapping yields,
and leaves zeros otherwise.
-/

namespace Macsec

namespace MkaCrypto

/-! ## Unwrapping into a buffer -/

/-- The result of unwrapping: the output buffer and the length stored. -/
structure UnwrapResult where
  ret : Err
  plain : Bytes
  plainLen : Nat
  deriving DecidableEq

/-- Overwrite the start of a buffer with zeros. -/
def zeroize (buffer : Bytes) (count : Nat) : Bytes :=
  Bytes.overlay buffer 0 (List.replicate count 0)

/-- AES key unwrap into the buffer `plain` with room for `plainMaxLen`
octets. -/
def aesKwUnwrapInto (aes : BlockCipher) (kek wrapped plain : Bytes)
    (plainMaxLen : Nat) : UnwrapResult :=
  if !keyLenValid kek.length then
    { ret := .param, plain, plainLen := 0 }
  else if wrapped.length < 24 || wrapped.length % 8 ≠ 0 then
    { ret := .param, plain, plainLen := 0 }
  else
    let n := wrapped.length / 8 - 1
    if n * 8 > plainMaxLen then
      { ret := .buffer, plain, plainLen := 0 }
    else
      let state :=
        (wrapSteps n).reverse.foldl (unwrapStep aes kek)
          { a := wrapped.slice 0 8, r := registers (wrapped.drop 8) n }
      if compare state.a.1 kwIv.1 ≠ 0 then
        { ret := .auth, plain := zeroize plain (n * 8), plainLen := 0 }
      else
        { ret := .ok, plain := Bytes.overlay plain 0 (joined state.r)
          plainLen := n * 8 }

/-- Unwrap a distributed SAK into the buffer `sak` with room for `sakMaxLen`
octets.  The length `sakLen` stored before stays if the KEK is not ready. -/
def unwrapSakInto (aes : BlockCipher) (ctx : Ctx) (wrapped sak : Bytes)
    (sakLen sakMaxLen : Nat) : UnwrapResult :=
  if !kekReady ctx then
    { ret := .state, plain := sak, plainLen := sakLen }
  else if wrapped.length ≠ 24 && wrapped.length ≠ 40 then
    { ret := .param, plain := sak, plainLen := 0 }
  else
    let result := aesKwUnwrapInto aes ctx.keys.kek wrapped sak sakMaxLen
    if result.ret ≠ .ok then
      { ret := result.ret, plain := zeroize result.plain sakMaxLen
        plainLen := 0 }
    else if !keyLenValid result.plainLen then
      { ret := .crypto, plain := zeroize result.plain sakMaxLen, plainLen := 0 }
    else
      result

/-- What a result hands to the caller. -/
def UnwrapResult.value (result : UnwrapResult) : Except Err Bytes :=
  if result.ret = .ok then
    .ok (result.plain.take result.plainLen)
  else
    .error result.ret

/-! ## The loops and the shift register -/

/-- The steps in a single count. -/
theorem wrapSteps_eq (n : Nat) :
    wrapSteps n =
      (List.range (6 * n)).map fun k => { i := k % n, t := k + 1 } := by
  have rounds (count : Nat) :
      ((List.range count).flatMap fun j =>
          (List.range n).map fun i =>
            ({ i, t := j * n + i + 1 } : WrapStep)) =
        (List.range (count * n)).map fun k => { i := k % n, t := k + 1 } := by
    induction count with
    | zero => simp
    | succ count inductionHypothesis =>
        rw [List.range_succ, List.flatMap_append, inductionHypothesis,
          List.flatMap_singleton, Nat.succ_mul, List.range_add,
          List.map_append, List.map_map]
        congr 1
        apply List.map_congr_left
        intro i inRange
        rw [List.mem_range] at inRange
        rw [Function.comp_apply, Nat.mul_add_mod_self_right,
          Nat.mod_eq_of_lt inRange]
  exact rounds 6

/-- After `k` steps the shift register holds the registers in turned order. -/
def Aligned (k : Nat) (state : WrapState) (shift : KeyWrap.Shift) : Prop :=
  shift.a = state.a ∧ shift.r = state.r.rotate k

section Steps

variable {aes : BlockCipher} {kek : Bytes} {state : WrapState}
  {shift : KeyWrap.Shift} {k n : Nat}

/-- The shift register keeps up with a step of wrapping. -/
theorem aligned_wrapStep (aligned : Aligned k state shift)
    (count : state.r.length = n) (positive : 0 < n) :
    Aligned (k + 1) (wrapStep aes kek state { i := k % n, t := k + 1 })
      (KeyWrap.wrapStep (aes.encrypt kek) shift (k + 1)) := by
  obtain ⟨sameA, turned⟩ := aligned
  subst count
  have inside := Nat.mod_lt k positive
  rw [KeyWrap.rotate_eq_cons inside rfl] at turned
  rw [KeyWrap.wrapStep, turned, sameA, wrapStep,
    List.getD_eq_getElem _ _ inside]
  exact ⟨rfl, (KeyWrap.rotate_succ_set inside rfl _).symm⟩

/-- The shift register keeps up with a step of unwrapping. -/
theorem aligned_unwrapStep (aligned : Aligned (k + 1) state shift)
    (count : state.r.length = n) (positive : 0 < n) :
    Aligned k (unwrapStep aes kek state { i := k % n, t := k + 1 })
      (KeyWrap.unwrapStep (aes.decrypt kek) shift (k + 1)) := by
  obtain ⟨sameA, turned⟩ := aligned
  subst count
  have inside := Nat.mod_lt k positive
  rw [KeyWrap.rotate_succ_eq inside rfl] at turned
  rw [KeyWrap.unwrapStep, turned, List.getLast?_concat, sameA, unwrapStep,
    List.getD_eq_getElem _ _ inside]
  refine ⟨rfl, ?_⟩
  dsimp only
  rw [List.dropLast_concat, KeyWrap.rotate_set inside rfl]
  rfl

/-- The shift register keeps up with the loop of wrapping. -/
theorem aligned_wrap (aligned : Aligned 0 state shift)
    (count : state.r.length = n) (positive : 0 < n) (steps : Nat) :
    Aligned steps
        (((List.range steps).map fun k =>
          ({ i := k % n, t := k + 1 } : WrapStep)).foldl (wrapStep aes kek)
            state)
        (((List.range steps).map (· + 1)).foldl
          (KeyWrap.wrapStep (aes.encrypt kek)) shift) ∧
      (((List.range steps).map fun k =>
        ({ i := k % n, t := k + 1 } : WrapStep)).foldl (wrapStep aes kek)
          state).r.length = n := by
  induction steps with
  | zero => exact ⟨aligned, count⟩
  | succ steps inductionHypothesis =>
      obtain ⟨keepsUp, sameCount⟩ := inductionHypothesis
      rw [List.range_succ, List.map_append, List.map_append, List.foldl_append,
        List.foldl_append]
      refine ⟨aligned_wrapStep keepsUp sameCount positive, ?_⟩
      exact (List.length_set).trans sameCount

/-- The shift register keeps up with the loop of unwrapping. -/
theorem aligned_unwrap (positive : 0 < n) (steps : Nat)
    (aligned : Aligned steps state shift) (count : state.r.length = n) :
    Aligned 0
      (((List.range steps).map fun k =>
        ({ i := k % n, t := k + 1 } : WrapStep)).reverse.foldl
          (unwrapStep aes kek) state)
      (((List.range steps).map (· + 1)).reverse.foldl
        (KeyWrap.unwrapStep (aes.decrypt kek)) shift) := by
  induction steps generalizing state shift with
  | zero => exact aligned
  | succ steps inductionHypothesis =>
      rw [List.range_succ, List.map_append, List.map_append,
        List.reverse_append, List.reverse_append, List.foldl_append,
        List.foldl_append]
      apply inductionHypothesis (aligned_unwrapStep aligned count positive)
      exact (List.length_set).trans count

/-! ## The loops undo each other -/

/-- Decryption undoes encryption on both sides, and so does a step. -/
theorem wrapStep_unwrapStep (step : WrapStep)
    (inRange : step.i < state.r.length) :
    wrapStep aes kek (unwrapStep aes kek state step) step = state := by
  let masked := state.a.xor (Octets.ofNat 8 step.t)
  let b := aes.decrypt kek (masked.append (state.r.getD step.i default))
  have register :
      (state.r.set step.i (b.1.slice 8 8)).getD step.i default =
        b.1.slice 8 8 := by
    rw [List.getD_eq_getElem _ _ (by rwa [List.length_set]),
      List.getElem_set_self]
  have encrypted :
      aes.encrypt kek ((b.1.slice 0 8).append (b.1.slice 8 8)) =
        masked.append (state.r.getD step.i default) := by
    rw [Octets.append_slices, aes.encrypt_decrypt]
  have first :
      (masked.append (state.r.getD step.i default)).1.slice 0 8 = masked :=
    Octets.slice_append_left _ _
  have second :
      (masked.append (state.r.getD step.i default)).1.slice 8 8 =
        state.r.getD step.i default :=
    Octets.slice_append_right _ _
  have unmasked : masked.xor (Octets.ofNat 8 step.t) = state.a := by
    rw [Octets.xor_comm masked]
    change (Octets.ofNat 8 step.t).xor
      (state.a.xor (Octets.ofNat 8 step.t)) = state.a
    rw [Octets.xor_comm state.a, Octets.xor_xor_cancel]
  rw [wrapStep]
  change
    WrapState.mk
        (((aes.encrypt kek ((b.1.slice 0 8).append
          ((state.r.set step.i (b.1.slice 8 8)).getD step.i
            default))).1.slice 0 8).xor (Octets.ofNat 8 step.t))
        ((state.r.set step.i (b.1.slice 8 8)).set step.i
          ((aes.encrypt kek ((b.1.slice 0 8).append
            ((state.r.set step.i (b.1.slice 8 8)).getD step.i
              default))).1.slice 8 8)) =
      state
  rw [register, encrypted, first, second, unmasked, List.set_set,
    List.getD_eq_getElem _ _ inRange, List.set_getElem_self]

theorem length_unwrapLoop (steps : List WrapStep) :
    (steps.foldl (unwrapStep aes kek) state).r.length = state.r.length := by
  apply Transition.foldl_invariant
    (fun later : WrapState => later.r.length = state.r.length)
  · intro later step _ sameLength
    exact (List.length_set).trans sameLength
  · rfl

/-- Wrapping again what was unwrapped. -/
theorem wrapLoop_unwrapLoop (count : state.r.length = n) :
    (wrapSteps n).foldl (wrapStep aes kek)
        ((wrapSteps n).reverse.foldl (unwrapStep aes kek) state) =
      state := by
  have undone :=
    @Transition.foldl_reverse_cancel _ _
      (fun state : WrapState => state.r.length = n) (unwrapStep aes kek)
      (wrapStep aes kek) (wrapSteps n).reverse
      (fun state step _ sameLength => (List.length_set).trans sameLength)
      (fun state step member sameLength => wrapStep_unwrapStep step
        (sameLength.symm ▸ wrapSteps_inRange (List.mem_reverse.mp member)))
      state count
  rwa [List.reverse_reverse] at undone

end Steps

/-! ## The strings of RFC 3394 -/

/-- The wrapped form of a string of registers. -/
def rfcWrap (ciph : Octets 16 → Octets 16) (plain : Bytes) : Bytes :=
  let shift := KeyWrap.wrap ciph (registers plain (plain.length / 8))
  shift.a.1 ++ joined shift.r

/-- The string that a wrapped form unwraps to. -/
def rfcUnwrap (decrypt : Octets 16 → Octets 16) (wrapped : Bytes) :
    Option Bytes :=
  (KeyWrap.unwrap decrypt
    { a := wrapped.slice 0 8
      r := registers (wrapped.drop 8) (wrapped.length / 8 - 1) }).map joined

section Strings

variable {aes : BlockCipher} {kek : Bytes}
  (kekSize : keyLenValid kek.length = true)

include kekSize

/-- What admissible strings are wrapped to. -/
theorem aesKwWrap_eq {plain : Bytes} {wrappedMaxLen n : Nat}
    (size : plain.length = n * 8) (long : 2 ≤ n)
    (room : plain.length + 8 ≤ wrappedMaxLen) :
    aesKwWrap aes kek plain wrappedMaxLen =
      .ok (((wrapSteps n).foldl (wrapStep aes kek)
          { a := kwIv, r := registers plain n }).a.1 ++
        joined ((wrapSteps n).foldl (wrapStep aes kek)
          { a := kwIv, r := registers plain n }).r) := by
  have count : plain.length / 8 = n := by omega
  rw [aesKwWrap, if_neg (by simp [kekSize]), if_neg (by simp; omega),
    if_neg (by omega), count]

/-- Wrapping follows RFC 3394. -/
theorem aesKwWrap_eq_rfcWrap {plain : Bytes} {wrappedMaxLen n : Nat}
    (size : plain.length = n * 8) (long : 2 ≤ n)
    (room : plain.length + 8 ≤ wrappedMaxLen) :
    aesKwWrap aes kek plain wrappedMaxLen =
      .ok (rfcWrap (aes.encrypt kek) plain) := by
  have count : plain.length / 8 = n := by omega
  have start :
      Aligned 0 { a := kwIv, r := registers plain n }
        { a := KeyWrap.iv, r := registers plain n } :=
    ⟨rfl, (List.rotate_zero _).symm⟩
  obtain ⟨⟨sameA, turned⟩, length⟩ :=
    @aligned_wrap aes kek _ _ n start (length_registers plain n) (by omega)
      (6 * n)
  rw [← wrapSteps_eq] at sameA turned length
  rw [aesKwWrap_eq kekSize size long room, rfcWrap, KeyWrap.wrap,
    KeyWrap.stepNumbers, count, length_registers]
  rw [sameA, turned, Nat.mul_comm 6 n]
  have whole := List.rotate_length_mul
    ((wrapSteps n).foldl (wrapStep aes kek)
      { a := kwIv, r := registers plain n }).r 6
  rw [length] at whole
  rw [whole]

end Strings

/-! ## Unwrapping -/

/-- The registers after all steps of unwrapping `n` of them. -/
def unwrappedState (aes : BlockCipher) (kek wrapped : Bytes) (n : Nat) :
    WrapState :=
  (wrapSteps n).reverse.foldl (unwrapStep aes kek)
    { a := wrapped.slice 0 8, r := registers (wrapped.drop 8) n }

section Unwrapping

variable {aes : BlockCipher} {kek wrapped : Bytes} {n : Nat}

theorem length_unwrappedState :
    (unwrappedState aes kek wrapped n).r.length = n := by
  rw [unwrappedState, length_unwrapLoop]
  exact length_registers (wrapped.drop 8) n

/-- Whatever unwrapping into a buffer yields, `aesKwUnwrap` yields it. -/
theorem value_aesKwUnwrapInto (plain : Bytes) (plainMaxLen : Nat) :
    (aesKwUnwrapInto aes kek wrapped plain plainMaxLen).value =
      aesKwUnwrap aes kek wrapped plainMaxLen := by
  unfold aesKwUnwrapInto aesKwUnwrap
  split
  next => rfl
  next =>
  split
  next => rfl
  next =>
  dsimp only
  split
  next => rfl
  next =>
  split
  next => rfl
  next =>
      have taken :=
        Bytes.take_overlay_zero plain
          (joined (unwrappedState aes kek wrapped (wrapped.length / 8 - 1)).r)
      rw [length_joined, length_unwrappedState] at taken
      rw [UnwrapResult.value, if_pos rfl]
      exact congrArg Except.ok taken

/-- As many octets are reported as are written. -/
theorem length_of_ok {plain : Bytes} {plainMaxLen : Nat}
    (ok : (aesKwUnwrapInto aes kek wrapped plain plainMaxLen).ret = .ok) :
    ((aesKwUnwrapInto aes kek wrapped plain plainMaxLen).plain.take
        (aesKwUnwrapInto aes kek wrapped plain plainMaxLen).plainLen).length =
      (aesKwUnwrapInto aes kek wrapped plain plainMaxLen).plainLen := by
  have length :=
    length_joined
      (unwrappedState aes kek wrapped (wrapped.length / 8 - 1)).r
  rw [length_unwrappedState] at length
  unfold aesKwUnwrapInto at ok ⊢
  split at ok
  next => cases ok
  next valid =>
  split at ok
  next => cases ok
  next sizes =>
  dsimp only at ok
  split at ok
  next => cases ok
  next room =>
  split at ok
  next => cases ok
  next genuine =>
      rw [if_neg valid, if_neg sizes]
      dsimp only
      rw [if_neg room, if_neg genuine]
      dsimp only
      rw [Bytes.overlay_zero]
      change (List.take _ (joined (unwrappedState aes kek wrapped _).r ++
        _)).length = _
      rw [← length, List.take_left]

/-- Whatever unwrapping a SAK into a buffer yields, `unwrapSak` yields it. -/
theorem value_unwrapSakInto (ctx : Ctx) (sak : Bytes)
    (sakLen sakMaxLen : Nat) :
    (unwrapSakInto aes ctx wrapped sak sakLen sakMaxLen).value =
      unwrapSak aes ctx wrapped sakMaxLen := by
  have value :=
    @value_aesKwUnwrapInto aes ctx.keys.kek wrapped sak sakMaxLen
  unfold unwrapSakInto unwrapSak
  split
  next => rfl
  next =>
  split
  next => rfl
  next =>
  rw [← value]
  dsimp only
  by_cases ok :
      (aesKwUnwrapInto aes ctx.keys.kek wrapped sak sakMaxLen).ret = .ok
  · rw [if_neg (not_not_intro ok), UnwrapResult.value, UnwrapResult.value,
      if_pos ok]
    dsimp only
    rw [length_of_ok ok]
    split
    next => rfl
    next => rfl
  · rw [if_pos ok, UnwrapResult.value, UnwrapResult.value, if_neg ok,
      if_neg (by exact ok)]

variable (kekSize : keyLenValid kek.length = true)
  (size : wrapped.length = (n + 1) * 8) (long : 2 ≤ n)

include size in
theorem registers_unwrapping :
    (wrapped.slice 0 8).1 ++ joined (registers (wrapped.drop 8) n) =
      wrapped := by
  have rest : (wrapped.drop 8).length = n * 8 := by
    rw [List.length_drop]
    omega
  rw [joined_registers rest, Bytes.slice_val _ (by omega), List.drop_zero,
    List.take_append_drop]

include kekSize size long

/-- On an admissible length the integrity check decides. -/
theorem aesKwUnwrapInto_eq {plainMaxLen : Nat} (room : n * 8 ≤ plainMaxLen)
    (plain : Bytes) :
    aesKwUnwrapInto aes kek wrapped plain plainMaxLen =
      if (unwrappedState aes kek wrapped n).a = kwIv then
        { ret := .ok
          plain :=
            Bytes.overlay plain 0
              (joined (unwrappedState aes kek wrapped n).r)
          plainLen := n * 8 }
      else
        { ret := .auth, plain := zeroize plain (n * 8), plainLen := 0 } := by
  have count : wrapped.length / 8 - 1 = n := by omega
  rw [aesKwUnwrapInto, if_neg (by simp [kekSize]), if_neg (by simp; omega),
    count]
  dsimp only
  rw [if_neg (by omega)]
  change (if compare (unwrappedState aes kek wrapped n).a.1 kwIv.1 ≠ 0 then _
    else _) = _
  rw [ite_not, if_congr (compare_octets_eq_zero _ _) rfl rfl]
  rfl

omit kekSize in
/-- Unwrapping follows RFC 3394. -/
theorem rfcUnwrap_eq :
    rfcUnwrap (aes.decrypt kek) wrapped =
      if (unwrappedState aes kek wrapped n).a = kwIv then
        some (joined (unwrappedState aes kek wrapped n).r)
      else
        none := by
  have count : wrapped.length / 8 - 1 = n := by omega
  have length := length_registers (wrapped.drop 8) n
  have start :
      Aligned (6 * n)
        { a := wrapped.slice 0 8, r := registers (wrapped.drop 8) n }
        { a := wrapped.slice 0 8, r := registers (wrapped.drop 8) n } := by
    have whole := List.rotate_length_mul (registers (wrapped.drop 8) n) 6
    rw [length, Nat.mul_comm] at whole
    exact ⟨rfl, whole.symm⟩
  obtain ⟨sameA, turned⟩ :=
    @aligned_unwrap aes kek _ _ n (by omega) (6 * n) start length
  rw [← wrapSteps_eq] at sameA turned
  rw [List.rotate_zero] at turned
  rw [rfcUnwrap, KeyWrap.unwrap, KeyWrap.stepNumbers, count, length, sameA,
    turned]
  change Option.map joined
    (if (unwrappedState aes kek wrapped n).a = kwIv then
      some (unwrappedState aes kek wrapped n).r else none) = _
  rw [apply_ite (Option.map joined)]
  rfl

/-- The integrity check accepts exactly what wrapping yields. -/
theorem unwrappedState_iff :
    (unwrappedState aes kek wrapped n).a = kwIv ↔
      ∃ plain wrappedMaxLen,
        aesKwWrap aes kek plain wrappedMaxLen = .ok wrapped := by
  constructor
  · intro genuine
    have length := @length_unwrappedState aes kek wrapped n
    have plainSize :
        (joined (unwrappedState aes kek wrapped n).r).length = n * 8 := by
      rw [length_joined, length]
    have again :=
      @wrapLoop_unwrapLoop aes kek
        { a := wrapped.slice 0 8, r := registers (wrapped.drop 8) n } n
        (length_registers _ _)
    have start :
        WrapState.mk kwIv
            (registers (joined (unwrappedState aes kek wrapped n).r) n) =
          unwrappedState aes kek wrapped n := by
      have restored := registers_joined (unwrappedState aes kek wrapped n).r
      rw [length] at restored
      rw [restored, ← genuine]
    refine ⟨joined (unwrappedState aes kek wrapped n).r, n * 8 + 8, ?_⟩
    rw [aesKwWrap_eq kekSize plainSize long (by rw [plainSize]), start,
      unwrappedState, again]
    exact congrArg Except.ok (registers_unwrapping size)
  · rintro ⟨plain, wrappedMaxLen, wrap⟩
    have plainSize := length_aesKwWrap aes wrap
    have unwrap :
        aesKwUnwrap aes kek wrapped (n * 8) = .ok plain :=
      aesKwUnwrap_aesKwWrap aes (by omega) wrap
    rw [← value_aesKwUnwrapInto [],
      aesKwUnwrapInto_eq kekSize size long le_rfl] at unwrap
    by_contra forged
    rw [if_neg forged] at unwrap
    cases unwrap

/-- What is accepted is the only plaintext that is wrapped so. -/
theorem joined_of_aesKwWrap {plain : Bytes} {wrappedMaxLen : Nat}
    (wrap : aesKwWrap aes kek plain wrappedMaxLen = .ok wrapped) :
    (unwrappedState aes kek wrapped n).a = kwIv ∧
      joined (unwrappedState aes kek wrapped n).r = plain := by
  have genuine :=
    (unwrappedState_iff kekSize size long).mpr ⟨plain, wrappedMaxLen, wrap⟩
  have plainSize := length_aesKwWrap aes wrap
  have unwrap :
      aesKwUnwrap aes kek wrapped (n * 8) = .ok plain :=
    aesKwUnwrap_aesKwWrap aes (by omega) wrap
  rw [← value_aesKwUnwrapInto [],
    aesKwUnwrapInto_eq kekSize size long le_rfl, if_pos genuine,
    UnwrapResult.value, if_pos rfl] at unwrap
  have taken :=
    Bytes.take_overlay_zero [] (joined (unwrappedState aes kek wrapped n).r)
  rw [length_joined, length_unwrappedState] at taken
  rw [taken] at unwrap
  exact ⟨genuine, Except.ok.inj unwrap⟩

end Unwrapping

/-! ## Results -/

/-- The data and its length are stored, and nothing behind the data is
written. -/
def UnwrapResult.Returns (result : UnwrapResult) (buffer data : Bytes) :
    Prop :=
  result =
    { ret := .ok, plain := data ++ buffer.drop data.length
      plainLen := data.length }

/-- An error is returned with the length zero and an area of zeros. -/
def UnwrapResult.Zeroed (result : UnwrapResult) (buffer : Bytes) (area : Nat) :
    Prop :=
  result.ret ≠ .ok ∧ result.plainLen = 0 ∧
    result.plain = List.replicate area 0 ++ buffer.drop area

theorem zeroize_eq (buffer : Bytes) (count : Nat) :
    zeroize buffer count = List.replicate count 0 ++ buffer.drop count := by
  rw [zeroize, Bytes.overlay_zero, List.length_replicate]

/-- Zeros are written over what was written in front of them. -/
theorem zeroize_append {data : Bytes} {count : Nat} (fits : data.length ≤ count)
    (buffer : Bytes) :
    zeroize (data ++ buffer.drop data.length) count = zeroize buffer count := by
  rw [zeroize_eq, zeroize_eq, List.drop_append,
    List.drop_eq_nil_of_le fits, List.nil_append, List.drop_drop,
    Nat.add_sub_cancel' fits]

section Results

variable {aes : BlockCipher} {kek wrapped : Bytes} {plainMaxLen : Nat}
  (kekSize : keyLenValid kek.length = true)
  (whole : wrapped.length % 8 = 0) (long : 24 ≤ wrapped.length)
  (room : wrapped.length - 8 ≤ plainMaxLen)

include kekSize whole long room

/-- A wrapped string is unwrapped. -/
theorem aesKwUnwrapInto_returns {plain : Bytes} {wrappedMaxLen : Nat}
    (wrap : aesKwWrap aes kek plain wrappedMaxLen = .ok wrapped)
    (buffer : Bytes) :
    (aesKwUnwrapInto aes kek wrapped buffer plainMaxLen).Returns buffer
      plain := by
  obtain ⟨n, size⟩ : ∃ n, wrapped.length = (n + 1) * 8 :=
    ⟨wrapped.length / 8 - 1, by omega⟩
  obtain ⟨genuine, same⟩ :=
    joined_of_aesKwWrap kekSize size (by omega) wrap
  have plainSize := length_aesKwWrap aes wrap
  have length : plain.length = n * 8 := by omega
  rw [UnwrapResult.Returns,
    aesKwUnwrapInto_eq kekSize size (by omega) (by omega), if_pos genuine,
    same, Bytes.overlay_zero, length]

/-- Everything else is refused, and the area of the plaintext is zero. -/
theorem aesKwUnwrapInto_cases (buffer : Bytes) :
    let result := aesKwUnwrapInto aes kek wrapped buffer plainMaxLen
    (result.ret = .ok ↔
      ∃ plain wrappedMaxLen,
        aesKwWrap aes kek plain wrappedMaxLen = .ok wrapped) ∧
    (result.ret ≠ .ok → result.Zeroed buffer (wrapped.length - 8)) ∧
    rfcUnwrap (aes.decrypt kek) wrapped =
      if result.ret = .ok then
        some (result.plain.take result.plainLen)
      else
        none := by
  obtain ⟨n, size⟩ : ∃ n, wrapped.length = (n + 1) * 8 :=
    ⟨wrapped.length / 8 - 1, by omega⟩
  have area : wrapped.length - 8 = n * 8 := by omega
  rw [← unwrappedState_iff kekSize size (by omega),
    rfcUnwrap_eq size (by omega),
    aesKwUnwrapInto_eq kekSize size (by omega) (by omega), area]
  dsimp only
  by_cases genuine : (unwrappedState aes kek wrapped n).a = kwIv
  · have taken :=
      Bytes.take_overlay_zero buffer
        (joined (unwrappedState aes kek wrapped n).r)
    rw [length_joined, length_unwrappedState] at taken
    simp only [if_pos genuine, taken]
    exact ⟨⟨fun _ => genuine, fun _ => trivial⟩,
      fun refused => absurd rfl refused, rfl⟩
  · simp only [if_neg genuine]
    refine ⟨⟨fun accepted => ?_, fun same => absurd same genuine⟩, ?_, rfl⟩
    · cases accepted
    · intro refused
      exact ⟨refused, rfl, zeroize_eq buffer (n * 8)⟩

end Results

section Saks

variable {aes : BlockCipher} {ctx : Ctx} {wrapped : Bytes} {sakMaxLen : Nat}
  (ready : kekReady ctx = true)
  (size : wrapped.length = 24 ∨ wrapped.length = 40)

include ready size

/-- Wrapped SAKs of these lengths are wrapped strings. -/
theorem wrapSak_iff (sak : Bytes) (wrappedMaxLen : Nat) :
    wrapSak aes ctx sak wrappedMaxLen = .ok wrapped ↔
      aesKwWrap aes ctx.keys.kek sak wrappedMaxLen = .ok wrapped := by
  rw [wrapSak, if_neg (by simp [ready])]
  constructor
  · intro wrap
    split at wrap
    next => cases wrap
    next => exact wrap
  · intro wrap
    have length := length_aesKwWrap aes wrap
    rw [if_neg]
    · exact wrap
    · simp only [keyLenValid, Bool.not_eq_true', Bool.or_eq_false_iff,
        beq_eq_false_iff_ne]
      omega

/-- A buffer without room is cleared. -/
theorem unwrapSakInto_of_small (small : sakMaxLen < wrapped.length - 8)
    (sak : Bytes) (sakLen : Nat) :
    unwrapSakInto aes ctx wrapped sak sakLen sakMaxLen =
      { ret := .buffer, plain := zeroize sak sakMaxLen, plainLen := 0 } := by
  have kekSize : keyLenValid ctx.keys.kek.length = true :=
    (Bool.and_eq_true_iff.mp ready).2
  have refused :
      aesKwUnwrapInto aes ctx.keys.kek wrapped sak sakMaxLen =
        { ret := .buffer, plain := sak, plainLen := 0 } := by
    rw [aesKwUnwrapInto, if_neg (by simp [kekSize]),
      if_neg (by simp; omega)]
    dsimp only
    rw [if_pos (by omega)]
  rw [unwrapSakInto, if_neg (by simp [ready]), if_neg (by simp; omega),
    refused]
  rfl

/-- In a buffer with room, a string is unwrapped or the buffer is cleared. -/
theorem unwrapSakInto_eq (room : wrapped.length - 8 ≤ sakMaxLen)
    (sak : Bytes) (sakLen : Nat) :
    unwrapSakInto aes ctx wrapped sak sakLen sakMaxLen =
      let result := aesKwUnwrapInto aes ctx.keys.kek wrapped sak sakMaxLen
      if result.ret = .ok then
        result
      else
        { ret := result.ret, plain := zeroize sak sakMaxLen, plainLen := 0 } := by
  have kekSize : keyLenValid ctx.keys.kek.length = true :=
    (Bool.and_eq_true_iff.mp ready).2
  obtain ⟨accepted, refused, -⟩ :=
    @aesKwUnwrapInto_cases aes ctx.keys.kek wrapped sakMaxLen kekSize
      (by omega) (by omega) room sak
  rw [unwrapSakInto, if_neg (by simp [ready]), if_neg (by simp; omega)]
  dsimp only
  by_cases ok :
      (aesKwUnwrapInto aes ctx.keys.kek wrapped sak sakMaxLen).ret = .ok
  · obtain ⟨plain, wrappedMaxLen, wrap⟩ := accepted.mp ok
    have returned :=
      aesKwUnwrapInto_returns kekSize (by omega) (by omega) room wrap sak
    have plainSize := length_aesKwWrap aes wrap
    have valid : keyLenValid plain.length = true := by
      simp only [keyLenValid, Bool.or_eq_true, beq_iff_eq]
      omega
    rw [UnwrapResult.Returns] at returned
    rw [returned, if_neg (by simp), if_neg (by simp [valid]), if_pos rfl]
  · obtain ⟨-, -, zeros⟩ := refused ok
    have cleared :
        zeroize (aesKwUnwrapInto aes ctx.keys.kek wrapped sak sakMaxLen).plain
            sakMaxLen =
          zeroize sak sakMaxLen := by
      have length :
          (List.replicate (wrapped.length - 8) (0 : UInt8)).length ≤
            sakMaxLen := by
        rwa [List.length_replicate]
      have erased := zeroize_append length sak
      rw [List.length_replicate] at erased
      rw [zeros, erased]
    rw [if_pos ok, if_neg ok, cleared]

end Saks

/-- The key wrap and its inverse are exact.  An admissible string is wrapped and
unwrapped as RFC 3394 says, and unwrapping restores it with its length.  Among
all strings of an admissible length, unwrapping accepts exactly the wrapped
ones; everything else is refused with the length zero and zeros in the output
area.  Unwrapping a SAK inherits this, and clears its whole buffer on errors. -/
theorem aesKw_exact
    (aes : BlockCipher) (kek : Bytes)
    (kekSize : keyLenValid kek.length = true) :
    (∀ plain buffer wrappedMaxLen plainMaxLen,
      plain.length % 8 = 0 → 16 ≤ plain.length →
      plain.length + 8 ≤ wrappedMaxLen → plain.length ≤ plainMaxLen →
      ∃ wrapped,
        aesKwWrap aes kek plain wrappedMaxLen = .ok wrapped ∧
          wrapped = rfcWrap (aes.encrypt kek) plain ∧
          (aesKwUnwrapInto aes kek wrapped buffer plainMaxLen).Returns buffer
            plain) ∧
    (∀ wrapped buffer plainMaxLen,
      wrapped.length % 8 = 0 → 24 ≤ wrapped.length →
      wrapped.length - 8 ≤ plainMaxLen →
      let result := aesKwUnwrapInto aes kek wrapped buffer plainMaxLen
      (result.ret = .ok ↔
        ∃ plain wrappedMaxLen,
          aesKwWrap aes kek plain wrappedMaxLen = .ok wrapped) ∧
      (∀ plain wrappedMaxLen,
        aesKwWrap aes kek plain wrappedMaxLen = .ok wrapped →
        result.Returns buffer plain) ∧
      (result.ret ≠ .ok → result.Zeroed buffer (wrapped.length - 8)) ∧
      rfcUnwrap (aes.decrypt kek) wrapped =
        if result.ret = .ok then
          some (result.plain.take result.plainLen)
        else
          none) ∧
    ∀ ctx wrapped sak sakLen sakMaxLen,
      kekReady ctx = true → ctx.keys.kek = kek →
      (wrapped.length = 24 ∨ wrapped.length = 40) →
      let result := unwrapSakInto aes ctx wrapped sak sakLen sakMaxLen
      (result.ret = .ok ↔
        wrapped.length - 8 ≤ sakMaxLen ∧
          ∃ plain wrappedMaxLen,
            wrapSak aes ctx plain wrappedMaxLen = .ok wrapped) ∧
      (∀ plain wrappedMaxLen, wrapped.length - 8 ≤ sakMaxLen →
        wrapSak aes ctx plain wrappedMaxLen = .ok wrapped →
        result.Returns sak plain) ∧
      (result.ret ≠ .ok → result.Zeroed sak sakMaxLen) := by
  refine ⟨?_, ?_, ?_⟩
  · intro plain buffer wrappedMaxLen plainMaxLen whole long wrappedRoom room
    obtain ⟨n, size⟩ : ∃ n, plain.length = n * 8 :=
      ⟨plain.length / 8, by omega⟩
    have wrap :=
      @aesKwWrap_eq_rfcWrap aes kek kekSize plain wrappedMaxLen n size
        (by omega) wrappedRoom
    have wrappedSize := length_aesKwWrap aes wrap
    exact ⟨_, wrap, rfl,
      aesKwUnwrapInto_returns kekSize (by omega) (by omega) (by omega) wrap
        buffer⟩
  · intro wrapped buffer plainMaxLen whole long room
    obtain ⟨accepted, refused, specified⟩ :=
      @aesKwUnwrapInto_cases aes kek wrapped plainMaxLen kekSize whole long
        room buffer
    refine ⟨accepted, ?_, refused, specified⟩
    intro plain wrappedMaxLen wrap
    exact aesKwUnwrapInto_returns kekSize whole long room wrap buffer
  · rintro ctx wrapped sak sakLen sakMaxLen ready rfl size
    simp only [wrapSak_iff ready size]
    by_cases room : wrapped.length - 8 ≤ sakMaxLen
    · obtain ⟨accepted, -, -⟩ :=
        @aesKwUnwrapInto_cases aes ctx.keys.kek wrapped sakMaxLen kekSize
          (by omega) (by omega) room sak
      rw [unwrapSakInto_eq ready size room]
      dsimp only
      by_cases ok :
          (aesKwUnwrapInto aes ctx.keys.kek wrapped sak sakMaxLen).ret = .ok
      · rw [if_pos ok]
        refine ⟨⟨fun _ => ⟨room, accepted.mp ok⟩, fun _ => ok⟩, ?_,
          fun refused => absurd ok refused⟩
        intro plain wrappedMaxLen _ wrap
        exact aesKwUnwrapInto_returns kekSize (by omega) (by omega) room wrap
          sak
      · rw [if_neg ok]
        refine ⟨⟨fun same => absurd same ok,
          fun wrapping => absurd (accepted.mpr wrapping.2) ok⟩, ?_, ?_⟩
        · intro plain wrappedMaxLen _ wrap
          exact absurd (accepted.mpr ⟨plain, wrappedMaxLen, wrap⟩) ok
        · exact fun _ => ⟨ok, rfl, zeroize_eq sak sakMaxLen⟩
    · rw [unwrapSakInto_of_small ready size (by omega)]
      refine ⟨⟨fun same => Err.noConfusion same, fun fits => absurd fits.1 room⟩,
        fun _ _ fits => absurd fits room, fun refused => ?_⟩
      exact ⟨refused, rfl, zeroize_eq sak sakMaxLen⟩

/-- A string of two registers, wrapped and unwrapped under a cipher that does
nothing. -/
theorem aesKw_exact_null :
    ∃ wrapped,
      aesKwWrap .null (List.replicate 16 0) (List.replicate 16 7) 24 =
          .ok wrapped ∧
        wrapped =
          rfcWrap (BlockCipher.null.encrypt (List.replicate 16 0))
            (List.replicate 16 7) ∧
        (aesKwUnwrapInto .null (List.replicate 16 0) wrapped
            (List.replicate 20 9) 20).Returns (List.replicate 20 9)
          (List.replicate 16 7) :=
  (aesKw_exact .null (List.replicate 16 0) (by decide)).1
    (List.replicate 16 7) (List.replicate 20 9) 24 20 (by decide) (by decide)
    (by decide) (by decide)

end MkaCrypto

end Macsec
