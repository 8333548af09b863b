import Mathlib.Data.List.Range
import Mathlib.Logic.Function.Iterate
import Macsec.Math.GcmRefinement

/-!
# The counter blocks of a message

The payload loop encrypts one counter block for each block of the payload.
Within the length that an operation accepts, the 32-bit counter does not come
back to a value it had, and not to that of the block that masks the tag.
-/

namespace Macsec

namespace Gcm

open Spec

/-! ## The loop and its counter blocks -/

/-- The counter blocks that the payload loop encrypts, from a context with the
counter block `y` on. -/
def counterBlocks (y : Octets 16) (input : Bytes) : List (Octets 16) :=
  if input.length > 0 then
    incrementCounter y :: counterBlocks (incrementCounter y) (input.drop 16)
  else
    []
termination_by input.length
decreasing_by
  rw [List.length_drop]
  omega

/-- The blocks of the payload; the last one may be partial. -/
def payloadBlocks (input : Bytes) : List Bytes :=
  if input.length > 0 then
    input.take 16 :: payloadBlocks (input.drop 16)
  else
    []
termination_by input.length
decreasing_by
  rw [List.length_drop]
  omega

/-- The output of the payload loop: each block under the image of its counter
block. -/
theorem updateBlocks_counterBlocks
    (aes : BlockFunction) (ctx : Ctx) (input : Bytes) :
    (updateBlocks aes ctx input).2 =
      (List.zipWith (fun y => maskBlock (aes.encrypt ctx.aesKey y))
        (counterBlocks ctx.y input) (payloadBlocks input)).flatten := by
  fun_induction updateBlocks aes ctx input with
  | case1 ctx input nonempty first rest inductionHypothesis =>
      rw [counterBlocks, if_pos nonempty, payloadBlocks, if_pos nonempty,
        List.zipWith_cons_cons, List.flatten_cons]
      exact congrArg (first.2 ++ ·) inductionHypothesis
  | case2 ctx input empty =>
      rw [counterBlocks, if_neg empty]
      rfl

/-- The counter blocks continue the first counter block, one for each block of
the payload. -/
theorem counterBlocks_eq (y : Octets 16) (input : Bytes) :
    counterBlocks y input =
      (List.range ((input.length + 15) / 16)).map fun k => inc32^[k + 1] y := by
  fun_induction counterBlocks y input with
  | case1 y input nonempty inductionHypothesis =>
      have count :
          (input.length + 15) / 16 =
            ((input.drop 16).length + 15) / 16 + 1 := by
        rw [List.length_drop]
        omega
      rw [inductionHypothesis, count, List.range_succ_eq_map, List.map_cons,
        List.map_map, incrementCounter_eq]
      rfl
  | case2 y input empty =>
      have none : (input.length + 15) / 16 = 0 := by omega
      rw [none]
      rfl

theorem length_payloadBlocks (input : Bytes) :
    (payloadBlocks input).length = (input.length + 15) / 16 := by
  fun_induction payloadBlocks input with
  | case1 input nonempty inductionHypothesis =>
      rw [List.length_cons, inductionHypothesis, List.length_drop]
      omega
  | case2 input empty =>
      rw [List.length_nil]
      omega

/-! ## Counting -/

/-- The number in the last 32 bits of a counter block. -/
def counterValue (y : Octets 16) : Nat :=
  Bytes.ofBigEndian (y.1.slice 12 4).1

/-- The number of a counter block that counted on. -/
theorem counterValue_append (front : Octets 12) (value : Nat) :
    counterValue (front.append (Octets.ofNat 4 (value % 2 ^ 32))) =
      value % 2 ^ 32 := by
  rw [counterValue, Octets.slice_append_right]
  exact Bytes.ofBigEndian_bigEndian_of_lt (Nat.mod_lt _ (by decide))

/-- Counting keeps the first twelve octets and adds to the number modulo
`2 ^ 32`. -/
theorem inc32_iterate (y : Octets 16) (k : Nat) :
    inc32^[k + 1] y =
      (y.1.slice 0 12).append
        (Octets.ofNat 4 ((counterValue y + (k + 1)) % 2 ^ 32)) := by
  induction k with
  | zero => rfl
  | succ k inductionHypothesis =>
      have read :
          counterValue (inc32^[k + 1] y) =
            (counterValue y + (k + 1)) % 2 ^ 32 := by
        rw [inductionHypothesis, counterValue_append]
      rw [Function.iterate_succ_apply']
      change ((inc32^[k + 1] y).1.slice 0 12).append
        (Octets.ofNat 4 ((counterValue (inc32^[k + 1] y) + 1) % 2 ^ 32)) = _
      rw [read, Nat.mod_add_mod, inductionHypothesis,
        Octets.slice_append_left, Nat.add_assoc (counterValue y)]

/-- Every counter block of a message counts on from the first counter block
with the same first twelve octets. -/
theorem exists_of_mem_counterBlocks
    {y counter : Octets 16} {input : Bytes}
    (member : counter ∈ counterBlocks y input) :
    ∃ k, k < (input.length + 15) / 16 ∧
      counter =
        (y.1.slice 0 12).append
          (Octets.ofNat 4 ((counterValue y + (k + 1)) % 2 ^ 32)) := by
  rw [counterBlocks_eq, List.mem_map] at member
  obtain ⟨k, inRange, rfl⟩ := member
  exact ⟨k, List.mem_range.mp inRange, inc32_iterate y k⟩

theorem counterValue_lt (y : Octets 16) : counterValue y < 2 ^ 32 := by
  have small := Bytes.ofBigEndian_lt (y.1.slice 12 4).1
  rw [(y.1.slice 12 4).2] at small
  exact small

/-- A counter block that counted on less than `2 ^ 32` times does not come back
to an earlier one. -/
theorem inc32_iterate_injective {y : Octets 16} {j k : Nat}
    (firstSmall : j < 2 ^ 32) (secondSmall : k < 2 ^ 32)
    (same : inc32^[j] y = inc32^[k] y) : j = k := by
  have value (k : Nat) :
      counterValue (inc32^[k] y) = (counterValue y + k) % 2 ^ 32 := by
    cases k with
    | zero =>
        rw [Function.iterate_zero_apply, Nat.add_zero,
          Nat.mod_eq_of_lt (counterValue_lt y)]
    | succ k => rw [inc32_iterate, counterValue_append]
  have values := congrArg counterValue same
  rw [value, value] at values
  exact Nat.ModEq.add_left_cancel' (counterValue y) values |>.eq_of_lt_of_lt
    firstSmall secondSmall

/-- No counter block of a message that fits is used twice or equals the first
counter block. -/
theorem counterBlocks_nodup (y : Octets 16) {input : Bytes}
    (fits : input.length ≤ 0xFFFFFFFE0) :
    (y :: counterBlocks y input).Nodup := by
  have form :
      y :: counterBlocks y input =
        (List.range ((input.length + 15) / 16 + 1)).map
          fun k => inc32^[k] y := by
    rw [counterBlocks_eq, List.range_succ_eq_map, List.map_cons, List.map_map]
    rfl
  rw [form]
  apply List.Nodup.map_on _ List.nodup_range
  intro j inFirst k inSecond same
  rw [List.mem_range] at inFirst inSecond
  exact inc32_iterate_injective (by omega) (by omega) same

/-! ## Operations -/

/-- Absorbing the additional data leaves the counter block alone. -/
theorem absorbAdd_counter (ctx : Ctx) (add : Bytes) :
    (absorbAdd ctx add).y = ctx.y ∧
      (absorbAdd ctx add).baseEctr = ctx.baseEctr := by
  fun_induction absorbAdd ctx add with
  | case1 ctx add nonempty useLen buf buf' inductionHypothesis =>
      exact inductionHypothesis
  | case2 ctx add empty => exact ⟨rfl, rfl⟩

/-- An operation starts from the first counter block of its initialisation
vector, whose image masks the tag. -/
theorem starts_counter
    {aes : BlockFunction} {ctx started : Ctx} {mode : Mode} {iv add : Bytes}
    (start : starts aes ctx mode iv add = (.ok, started)) :
    started.y = initialCounter ctx iv ∧
      started.baseEctr = aes.encrypt ctx.aesKey started.y := by
  obtain ⟨y, baseEctr⟩ := absorbAdd_counter (prepare aes ctx mode iv add) add
  have masked :
      (absorbAdd (prepare aes ctx mode iv add) add).baseEctr =
        aes.encrypt ctx.aesKey
          (absorbAdd (prepare aes ctx mode iv add) add).y := by
    rw [baseEctr, y]
    rfl
  unfold starts at start
  split at start
  next => cases start
  next =>
      dsimp only at start
      split at start
      next =>
          cases start
          exact ⟨y, masked⟩
      next =>
          cases start
          exact ⟨y, masked⟩

/-- Within a message no block of the key stream is used twice.  The payload is
masked, block by block, with the images of counter blocks that are pairwise
different, differ from the first counter block, whose image masks the tag, and
agree with it in the first twelve octets. -/
theorem update_counterBlocks
    {aes : BlockFunction} {ctx started processed : Ctx} {mode : Mode}
    {iv add input output : Bytes}
    (start : starts aes ctx mode iv add = (.ok, started))
    (process : update aes started input = (.ok, processed, output)) :
    started.y = initialCounter ctx iv ∧
      started.baseEctr = aes.encrypt ctx.aesKey started.y ∧
      output =
        (List.zipWith (fun y => maskBlock (aes.encrypt ctx.aesKey y))
          (counterBlocks started.y input) (payloadBlocks input)).flatten ∧
      (counterBlocks started.y input).length =
        (payloadBlocks input).length ∧
      (counterBlocks started.y input).Nodup ∧
      ∀ counter ∈ counterBlocks started.y input,
        counter ≠ started.y ∧
          counter.1.take 12 = started.y.1.take 12 := by
  obtain ⟨first, masked⟩ := starts_counter start
  have sameKey := (starts_sameKey aes ctx mode iv add).aesKey
  rw [start] at sameKey
  unfold update at process
  split at process
  next => cases process
  next fits =>
      cases process
      have distinct :=
        @counterBlocks_nodup started.y input (by omega)
      rw [List.nodup_cons] at distinct
      refine ⟨first, masked, ?_, ?_, distinct.2, ?_⟩
      · rw [updateBlocks_counterBlocks, sameKey]
      · rw [counterBlocks_eq, List.length_map, List.length_range,
          length_payloadBlocks]
      · intro counter member
        refine ⟨?_, ?_⟩
        · rintro rfl
          exact distinct.1 member
        · obtain ⟨k, -, rfl⟩ := exists_of_mem_counterBlocks member
          have front : (started.y.1.slice 0 12).1 = started.y.1.take 12 := by
            rw [Bytes.slice_val _ (by rw [started.y.2]; decide),
              List.drop_zero]
          rw [← front]
          exact List.take_left' (started.y.1.slice 0 12).2

/-- A message of two blocks under an initialisation vector of one octet. -/
theorem two_block_message_counterBlocks :
    ∃ started processed output,
      starts ⟨fun _ block => block⟩ init .encrypt [7] [] = (.ok, started) ∧
        update ⟨fun _ block => block⟩ started (List.replicate 20 1) =
          (.ok, processed, output) ∧
        (counterBlocks started.y (List.replicate 20 1)).Nodup ∧
        ∀ counter ∈ counterBlocks started.y (List.replicate 20 1),
          counter ≠ started.y ∧
            counter.1.take 12 = started.y.1.take 12 := by
  obtain ⟨started, start, len⟩ :=
    @exists_starts ⟨fun _ block => block⟩ init .encrypt [7] []
      (by decide) (by decide) (by decide)
  have process :
      update ⟨fun _ block => block⟩ started (List.replicate 20 1) =
        (.ok,
          updateBlocks ⟨fun _ block => block⟩ started
            (List.replicate 20 1)) := by
    rw [update, len]
    rfl
  obtain ⟨-, -, -, -, distinct, others⟩ := update_counterBlocks start process
  exact ⟨started, _, _, start, process, distinct, others⟩

end Gcm

end Macsec
