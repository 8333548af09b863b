import Macsec.Math.Gcm
import Macsec.Math.HashField

/-!
# Table-driven multiplication

The tables of the key setup hold the products of the hash key with the sixteen
polynomials of degree below four, and the multiplication that looks them up,
nibble by nibble, is the multiplication of the hash field.
-/

namespace Macsec

namespace Gcm

open BitPolynomial

/-! ## Pairs of halves -/

/-- The element that two halves of a block stand for. -/
noncomputable def pairElement (z : BitVec 64 × BitVec 64) : HashField :=
  eval root (z.1 ++ z.2)

theorem pairElement_xor (z z' : BitVec 64 × BitVec 64) :
    pairElement (z.1 ^^^ z'.1, z.2 ^^^ z'.2) =
      pairElement z + pairElement z' := by
  unfold pairElement
  rw [eval_append, eval_append, eval_append, eval_xor, eval_xor]
  ring

/-- Joining the halves yields the block that stands for the same element. -/
theorem element_join (z : BitVec 64 × BitVec 64) :
    element ((Octets.ofNat 8 z.1.toNat).append (Octets.ofNat 8 z.2.toNat)) =
      pairElement z := by
  change evalBytes root (Bytes.bigEndian 8 z.1.toNat ++
    Bytes.bigEndian 8 z.2.toNat) = _
  unfold pairElement
  rw [evalBytes_append, evalBytes_bigEndian, evalBytes_bigEndian, eval_append,
    Bytes.length_bigEndian, BitVec.ofNat_toNat, BitVec.ofNat_toNat,
    BitVec.setWidth_eq, BitVec.setWidth_eq]

/-- The element of a block from its halves. -/
theorem element_halves (block : Octets 16) :
    element block =
      pairElement
        (BitVec.ofNat 64 (Bytes.ofBigEndian (block.1.slice 0 8).1),
          BitVec.ofNat 64 (Bytes.ofBigEndian (block.1.slice 8 8).1)) := by
  have halves : (block.1.slice 0 8).1 ++ (block.1.slice 8 8).1 = block.1 :=
    congrArg Subtype.val (Octets.append_slices (n := 8) (m := 8) block)
  calc
    element block =
        evalBytes root ((block.1.slice 0 8).1 ++ (block.1.slice 8 8).1) :=
      congrArg (evalBytes root) halves.symm
    _ = _ := by
      unfold pairElement
      rw [evalBytes_append, evalBytes_eq, evalBytes_eq, eval_append,
        (block.1.slice 0 8).2, (block.1.slice 8 8).2]

/-- Shifting the two halves to the right, the bits in between carried over, and
adding the reduction of what is shifted out multiplies by a power of the
variable. -/
theorem pairElement_shift {count : Nat} (fits : count ≤ 64)
    {z : BitVec 64 × BitVec 64} {reduction : BitVec 64}
    (reduces :
      eval root reduction = root ^ 128 * eval root (z.2.setWidth count)) :
    pairElement
        (z.1 >>> count ^^^ reduction, z.1 <<< (64 - count) ||| z.2 >>> count) =
      root ^ count * pairElement z := by
  have shifted :
      (z.1 ++ z.2) >>> count =
        z.1 >>> count ++ (z.1 <<< (64 - count) ||| z.2 >>> count) := by
    apply BitVec.eq_of_getLsbD_eq
    intro i small
    rw [BitVec.getLsbD_ushiftRight, BitVec.getLsbD_append,
      BitVec.getLsbD_append, BitVec.getLsbD_or, BitVec.getLsbD_shiftLeft,
      BitVec.getLsbD_ushiftRight, BitVec.getLsbD_ushiftRight]
    by_cases behind : i < 64
    · by_cases inside : count + i < 64
      · simp [behind, inside, show i < 64 - count by omega]
      · have position : count + i - 64 = i - (64 - count) := by omega
        simp [behind, inside, position, show ¬i < 64 - count by omega,
          BitVec.getLsbD_of_ge z.2 (count + i) (by omega)]
    · have position : count + i - 64 = count + (i - 64) := by omega
      simp [behind, position, show ¬count + i < 64 by omega]
  have low : (z.1 ++ z.2).setWidth count = z.2.setWidth count := by
    apply BitVec.eq_of_getLsbD_eq
    intro i small
    rw [BitVec.getLsbD_setWidth, BitVec.getLsbD_setWidth, BitVec.getLsbD_append,
      if_pos (by omega)]
  unfold pairElement
  rw [pow_mul_eval root (show count ≤ 64 + 64 by omega), shifted, low,
    ← reduces, eval_append, eval_append, eval_xor]
  ring

/-! ## Reduction -/

/-- The reduction of the bit behind the last one, as a half of a block. -/
def overflow : BitVec 64 := 0xE100000000000000

theorem eval_overflow : eval root overflow = root ^ 128 := by
  have split : overflow = 0xE1#8 ++ 0#56 := by decide
  rw [split, eval_append, eval_zero, root_pow]
  simp only [eval, Finset.sum_range_succ, Finset.sum_range_zero]
  simp
  ring

theorem eval_overflow_shift {count : Nat} (fits : count ≤ 56) :
    eval root (overflow >>> count) = root ^ count * root ^ 128 := by
  have zeros : overflow.setWidth count = BitVec.ofNat count 0 := by
    apply BitVec.eq_of_getLsbD_eq
    intro i small
    have split : overflow = 0xE1#8 ++ 0#56 := by decide
    rw [BitVec.getLsbD_setWidth, split, BitVec.getLsbD_append,
      if_pos (by omega), BitVec.getLsbD_zero, BitVec.getLsbD_zero,
      Bool.and_false]
  rw [eval_ushiftRight root (by omega) zeros, eval_overflow]

/-- The polynomial of degree below four that a nibble stands for. -/
noncomputable def nibbleElement (nibble : Fin 16) : HashField :=
  eval root (BitVec.ofFin nibble : BitVec 4)

/-- The part of the reduction of a nibble that one of its bits is responsible
for. -/
def reductionOf (nibble : Fin 16) (i : Nat) : BitVec 64 :=
  if (BitVec.ofFin nibble : BitVec 4).getMsbD i then overflow >>> i else 0#64

/-- The table of reductions, bit by bit. -/
theorem last4_eq (nibble : Fin 16) :
    last4.get nibble <<< 48 =
      reductionOf nibble 0 ^^^ reductionOf nibble 1 ^^^ reductionOf nibble 2 ^^^
        reductionOf nibble 3 := by
  revert nibble
  decide

theorem eval_reductionOf (nibble : Fin 16) {i : Nat} (fits : i ≤ 56) :
    eval root (reductionOf nibble i) =
      root ^ 128 *
        if (BitVec.ofFin nibble : BitVec 4).getMsbD i then root ^ i else 0 := by
  unfold reductionOf
  rw [apply_ite (eval root), eval_overflow_shift fits, eval_zero, mul_ite,
    mul_zero, mul_comm]

theorem eval_last4 (nibble : Fin 16) :
    eval root (last4.get nibble <<< 48) = root ^ 128 * nibbleElement nibble := by
  rw [last4_eq, eval_xor, eval_xor, eval_xor, eval_reductionOf _ (by decide),
    eval_reductionOf _ (by decide), eval_reductionOf _ (by decide),
    eval_reductionOf _ (by decide)]
  unfold nibbleElement eval
  simp only [Finset.sum_range_succ, Finset.sum_range_zero]
  ring

/-- Shifting by four bits multiplies by the fourth power of the variable. -/
theorem pairElement_shift4 (z : BitVec 64 × BitVec 64) :
    pairElement (shift4 z) = root ^ 4 * pairElement z := by
  refine pairElement_shift (by decide) ?_
  change eval root (last4.get (Fin.ofNat 16 z.2.toNat) <<< 48) = _
  rw [eval_last4, ← BitVec.ofNat_toNat]
  rfl

/-- The reduction of a single bit. -/
theorem halve_reduction (bit : BitVec 1) :
    (bit.setWidth 64 * 0xE1000000) <<< 32 =
      if bit.getMsbD 0 then overflow else 0#64 := by
  revert bit
  decide

/-- Halving multiplies by the variable. -/
theorem pairElement_halve (vh vl : BitVec 64) (ctx : Ctx) (i : Fin 16) :
    pairElement (halveEntry ((vh, vl), ctx) i).1 =
      root * pairElement (vh, vl) := by
  have lowest : vl &&& 1 = (vl.setWidth 1).setWidth 64 := by
    apply BitVec.eq_of_toNat_eq
    rw [BitVec.toNat_setWidth, BitVec.toNat_setWidth, BitVec.toNat_and]
    have bit : vl.toNat &&& 1 = vl.toNat % 2 := Nat.and_one_is_mod _
    change vl.toNat &&& 1 = vl.toNat % 2 % 2 ^ 64
    omega
  have reduces :
      eval root (((vl &&& 1) * 0xE1000000) <<< 32) =
        root ^ 128 * eval root (vl.setWidth 1) := by
    rw [lowest, halve_reduction, apply_ite (eval root), eval_overflow,
      eval_zero]
    simp [eval]
  have halved := @pairElement_shift 1 (by decide) (vh, vl) _ reduces
  rw [pow_one] at halved
  exact halved

/-! ## Tables -/

/-- The table entry of a nibble is its product with the hash key. -/
def Ctx.Holds (ctx : Ctx) (hashKey : HashField) (nibble : Fin 16) : Prop :=
  pairElement (ctx.entry nibble) = nibbleElement nibble * hashKey

theorem entry_enter (ctx : Ctx) (nibble other : Fin 16)
    (z : BitVec 64 × BitVec 64) :
    (ctx.enter nibble z).entry other =
      if other = nibble then z else ctx.entry other := by
  unfold Ctx.entry Ctx.enter
  simp only [Fin.getElem_fin, Vector.getElem_set, Fin.ext_iff]
  split
  next same => simp [same]
  next differ => simp [Ne.symm differ]

theorem Ctx.Holds.enter {ctx : Ctx} {hashKey : HashField} {other : Fin 16}
    (holds : ctx.Holds hashKey other) {nibble : Fin 16}
    {z : BitVec 64 × BitVec 64}
    (product : pairElement z = nibbleElement nibble * hashKey) :
    (ctx.enter nibble z).Holds hashKey other := by
  unfold Ctx.Holds
  rw [entry_enter]
  split
  next same =>
      rw [same]
      exact product
  next => exact holds

theorem Ctx.holds_enter_self {ctx : Ctx} {hashKey : HashField}
    {nibble : Fin 16} {z : BitVec 64 × BitVec 64}
    (product : pairElement z = nibbleElement nibble * hashKey) :
    (ctx.enter nibble z).Holds hashKey nibble := by
  unfold Ctx.Holds
  rw [entry_enter, if_pos rfl]
  exact product

/-- Halving an entry enters the next one. -/
theorem holds_halveEntry {state : (BitVec 64 × BitVec 64) × Ctx}
    {hashKey : HashField} {previous nibble : Fin 16}
    (known : pairElement state.1 = nibbleElement previous * hashKey)
    (next : nibbleElement nibble = root * nibbleElement previous) :
    pairElement (halveEntry state nibble).1 =
        nibbleElement nibble * hashKey ∧
      (halveEntry state nibble).2.Holds hashKey nibble ∧
      ∀ other, state.2.Holds hashKey other →
        (halveEntry state nibble).2.Holds hashKey other := by
  obtain ⟨⟨vh, vl⟩, ctx⟩ := state
  have product :
      pairElement (halveEntry ((vh, vl), ctx) nibble).1 =
        nibbleElement nibble * hashKey := by
    rw [pairElement_halve, known, next, mul_assoc]
  have entered :
      (halveEntry ((vh, vl), ctx) nibble).2 =
        ctx.enter nibble (halveEntry ((vh, vl), ctx) nibble).1 := rfl
  rw [entered]
  exact ⟨product, Ctx.holds_enter_self product,
    fun other holds => holds.enter product⟩

theorem nibbleElement_zero : nibbleElement 0 = 0 :=
  eval_zero root

theorem nibbleElement_powers :
    nibbleElement 8 = 1 ∧ nibbleElement 4 = root * nibbleElement 8 ∧
      nibbleElement 2 = root * nibbleElement 4 ∧
      nibbleElement 1 = root * nibbleElement 2 := by
  unfold nibbleElement eval
  simp only [Finset.sum_range_succ, Finset.sum_range_zero]
  refine ⟨?_, ?_, ?_, ?_⟩
  · simp
  · simp
  · simp [sq]
  · simp [pow_succ, mul_assoc]

/-- Nibbles without a common bit add up. -/
theorem nibbleElement_add {i j : Fin 16} (power : i ∈ [2, 4, 8])
    (small : j < i) :
    nibbleElement (i + j) = nibbleElement i + nibbleElement j := by
  have bits :
      ∀ i ∈ ([2, 4, 8] : List (Fin 16)), ∀ j < i,
        (BitVec.ofFin (i + j) : BitVec 4) =
          BitVec.ofFin i ^^^ BitVec.ofFin j := by
    decide
  unfold nibbleElement
  rw [bits i power j small, eval_xor]

/-- Enter the sum of an entry with the one at a nibble. -/
def sumEntry (first : BitVec 64 × BitVec 64) (i : Fin 16) (ctx : Ctx)
    (j : Nat) : Ctx :=
  let second := ctx.entry (Fin.ofNat 16 j)
  ctx.enter (i + Fin.ofNat 16 j) (first.1 ^^^ second.1, first.2 ^^^ second.2)

/-- Summing the entries at some nibbles enters their sums and keeps the products
there are. -/
theorem holds_foldl_sumEntry {first : BitVec 64 × BitVec 64}
    {hashKey : HashField} {i : Fin 16} (power : i ∈ [2, 4, 8])
    (known : pairElement first = nibbleElement i * hashKey)
    {nibbles : List Nat} (small : ∀ j ∈ nibbles, Fin.ofNat 16 j < i)
    {ctx : Ctx} (holds : ∀ n < i, ctx.Holds hashKey n) :
    (∀ j ∈ nibbles,
        (nibbles.foldl (sumEntry first i) ctx).Holds hashKey
          (i + Fin.ofNat 16 j)) ∧
      ∀ n, ctx.Holds hashKey n →
        (nibbles.foldl (sumEntry first i) ctx).Holds hashKey n := by
  induction nibbles generalizing ctx with
  | nil => exact ⟨fun _ member => absurd member List.not_mem_nil, fun _ => id⟩
  | cons j nibbles inductionHypothesis =>
      obtain ⟨smallJ, smallRest⟩ := List.forall_mem_cons.mp small
      have product :
          pairElement
              (first.1 ^^^ (ctx.entry (Fin.ofNat 16 j)).1,
                first.2 ^^^ (ctx.entry (Fin.ofNat 16 j)).2) =
            nibbleElement (i + Fin.ofNat 16 j) * hashKey := by
        rw [pairElement_xor, known, holds _ smallJ,
          nibbleElement_add power smallJ, add_mul]
      have kept (n : Fin 16) (before : ctx.Holds hashKey n) :
          (sumEntry first i ctx j).Holds hashKey n :=
        before.enter product
      obtain ⟨entered, keeps⟩ :=
        inductionHypothesis smallRest fun n below => kept n (holds n below)
      refine ⟨List.forall_mem_cons.mpr ⟨?_, entered⟩, ?_⟩
      · exact keeps _ (Ctx.holds_enter_self product)
      · exact fun n before => keeps n (kept n before)

/-- Summing enters the nibbles below the double of a power of two and keeps the
products there are. -/
theorem holds_sumEntries {ctx : Ctx} {hashKey : HashField} {i : Fin 16}
    (power : i ∈ [2, 4, 8]) (holds : ∀ n ≤ i, ctx.Holds hashKey n) :
    (∀ n : Fin 16, n.1 < 2 * i.1 → (sumEntries ctx i).Holds hashKey n) ∧
      ∀ n, ctx.Holds hashKey n → (sumEntries ctx i).Holds hashKey n := by
  have bound : 2 * i.1 ≤ 16 := by
    have bounds : ∀ i ∈ ([2, 4, 8] : List (Fin 16)), 2 * i.1 ≤ 16 := by decide
    exact bounds i power
  have small : ∀ j ∈ List.range' 1 (i.1 - 1), Fin.ofNat 16 j < i := by
    intro j member
    rw [List.mem_range'_1] at member
    rw [Fin.lt_def, Fin.val_ofNat]
    omega
  obtain ⟨sums, keeps⟩ :=
    holds_foldl_sumEntry power (holds i le_rfl) small fun n below =>
      holds n below.le
  refine ⟨fun n below => ?_, keeps⟩
  by_cases low : n ≤ i
  · exact keeps n (holds n low)
  · rw [Fin.le_def] at low
    have sum : n = i + Fin.ofNat 16 (n.1 - i.1) := by
      apply Fin.ext
      rw [Fin.val_add, Fin.val_ofNat]
      omega
    rw [sum]
    apply sums
    rw [List.mem_range'_1]
    omega

/-- Halving three times enters the products at the powers of two. -/
theorem holds_halveEntries {start : Ctx} {z : BitVec 64 × BitVec 64} :
    let halved :=
      (([4, 2, 1] : List (Fin 16)).foldl halveEntry
        (z, (start.enter 8 z).enter 0 (0, 0))).2
    ∀ n ∈ ([0, 1, 2, 4, 8] : List (Fin 16)),
      halved.Holds (pairElement z) n := by
  obtain ⟨eight, four, two, one⟩ := nibbleElement_powers
  have known : pairElement z = nibbleElement 8 * pairElement z := by
    rw [eight, one_mul]
  have zero :
      pairElement (0, 0) = nibbleElement 0 * pairElement z := by
    rw [nibbleElement_zero, zero_mul]
    exact eval_zero root
  have holds₀ := @Ctx.holds_enter_self (start.enter 8 z) _ _ _ zero
  have holds₈ := (@Ctx.holds_enter_self start _ _ _ known).enter zero
  obtain ⟨known₄, holds₄, keeps₄⟩ :=
    @holds_halveEntry (z, (start.enter 8 z).enter 0 (0, 0)) _ _ _ known four
  obtain ⟨known₂, holds₂, keeps₂⟩ := holds_halveEntry known₄ two
  obtain ⟨-, holds₁, keeps₁⟩ := holds_halveEntry known₂ one
  intro halved n member
  simp only [List.mem_cons, List.not_mem_nil, or_false] at member
  rcases member with rfl | rfl | rfl | rfl | rfl
  · exact keeps₁ 0 (keeps₂ 0 (keeps₄ 0 holds₀))
  · exact holds₁
  · exact keeps₁ 2 holds₂
  · exact keeps₁ 4 (keeps₂ 4 holds₄)
  · exact keeps₁ 8 (keeps₂ 8 (keeps₄ 8 holds₈))

/-- Summing three times enters the products at all nibbles. -/
theorem holds_foldl_sumEntries {ctx : Ctx} {hashKey : HashField}
    (powers : ∀ n ∈ ([0, 1, 2, 4, 8] : List (Fin 16)), ctx.Holds hashKey n)
    (n : Fin 16) :
    (([2, 4, 8] : List (Fin 16)).foldl sumEntries ctx).Holds hashKey n := by
  obtain ⟨sums₂, keeps₂⟩ :=
    @holds_sumEntries ctx hashKey 2 (by decide) fun n low =>
      powers n (by revert n; decide)
  obtain ⟨sums₄, keeps₄⟩ :=
    @holds_sumEntries (sumEntries ctx 2) hashKey 4 (by decide) fun n low => by
      rcases Nat.lt_or_ge n.1 4 with below | above
      · exact sums₂ n below
      · exact keeps₂ n (powers n (by revert n; decide))
  obtain ⟨sums₈, -⟩ :=
    @holds_sumEntries (sumEntries (sumEntries ctx 2) 4) hashKey 8 (by decide)
      fun n low => by
        rcases Nat.lt_or_ge n.1 8 with below | above
        · exact sums₄ n below
        · exact keeps₄ n (keeps₂ n (powers n (by revert n; decide)))
  simp only [List.foldl_cons, List.foldl_nil]
  exact sums₈ n n.2

/-- The key setup enters the products of the hash key at every nibble. -/
theorem holds_setKey (aes : BlockFunction) (ctx : Ctx) (key : Bytes)
    {keyBits : Nat} (supported : keyBitsSupported keyBits = true)
    (nibble : Fin 16) :
    (setKey aes ctx key keyBits).2.Holds
      (element (aes.encrypt key (Octets.zero 16))) nibble := by
  rw [element_halves]
  unfold setKey
  rw [if_neg (by simp [supported])]
  exact holds_foldl_sumEntries
    (@holds_halveEntries { ctx with aesKey := key } _) nibble

/-! ## Multiplication -/

/-- The nibbles of an octet. -/
theorem eval_octet (octet : UInt8) :
    eval root octet.toBitVec =
      nibbleElement (hiNibble octet) +
        root ^ 4 * nibbleElement (loNibble octet) := by
  have nibbles :
      octet.toBitVec =
        (BitVec.ofFin (hiNibble octet) : BitVec 4) ++
          (BitVec.ofFin (loNibble octet) : BitVec 4) := by
    have small := octet.toNat_lt
    apply BitVec.eq_of_toNat_eq
    rw [BitVec.toNat_append, ← Nat.shiftLeft_add_eq_or_of_lt (BitVec.isLt _),
      Nat.shiftLeft_eq]
    change octet.toNat = octet.toNat / 16 % 16 * 2 ^ 4 + octet.toNat % 16
    omega
  unfold nibbleElement
  rw [nibbles, eval_append]

section Multiplication

variable {ctx : Ctx} {hashKey : HashField}
  (tables : ∀ nibble, ctx.Holds hashKey nibble) (x : Octets 16)

include tables

theorem pairElement_addEntry (nibble : Fin 16) (z : BitVec 64 × BitVec 64) :
    pairElement (addEntry ctx nibble z) =
      pairElement z + nibbleElement nibble * hashKey := by
  rw [← tables nibble]
  exact pairElement_xor z (ctx.entry nibble)

/-- A round multiplies by the eighth power of the variable and adds the product
of its octet. -/
theorem pairElement_multRound (z : BitVec 64 × BitVec 64) {i : Nat}
    (notLast : i ≠ 15) :
    pairElement (multRound ctx x z i) =
      root ^ 8 * pairElement z +
        eval root (x.get i).toBitVec * hashKey := by
  unfold multRound
  rw [if_pos (by simpa using notLast), pairElement_addEntry tables,
    pairElement_shift4, pairElement_addEntry tables, pairElement_shift4,
    eval_octet]
  ring

/-- The first round, which starts with the product of the last nibble. -/
theorem pairElement_multRound_last :
    pairElement
        (multRound ctx x (ctx.entry (loNibble (x.get 15))) 15) =
      eval root (x.get 15).toBitVec * hashKey := by
  unfold multRound
  rw [if_neg (by decide), pairElement_addEntry tables, pairElement_shift4,
    tables, eval_octet]
  ring

omit tables in
theorem take_succ_octets {count : Nat} (inside : count < 16) :
    x.1.take (count + 1) = x.1.take count ++ [x.get count] := by
  have size : count < x.1.length := by
    rw [x.2]
    exact inside
  rw [List.take_succ_eq_append_getElem size, Octets.get,
    List.getD_eq_getElem?_getD, List.getElem?_eq_getElem size, Option.getD_some]

/-- The rounds evaluate the polynomial of the block from its end. -/
theorem pairElement_foldl_multRound {count : Nat} (fits : count ≤ 15)
    (z : BitVec 64 × BitVec 64) :
    pairElement ((List.range count).reverse.foldl (multRound ctx x) z) =
      evalBytes root (x.1.take count) * hashKey +
        root ^ (8 * count) * pairElement z := by
  induction count generalizing z with
  | zero => simp [evalBytes]
  | succ count inductionHypothesis =>
      have length : (x.1.take count).length = count := by
        rw [List.length_take, x.2]
        omega
      rw [List.range_succ, List.reverse_append, List.reverse_singleton,
        List.singleton_append, List.foldl_cons,
        inductionHypothesis (by omega),
        pairElement_multRound tables x z (by omega),
        take_succ_octets x (by omega), evalBytes_append, length, evalBytes,
        evalBytes]
      ring

/-- The multiplication is the multiplication of the hash field. -/
theorem element_mult : element (mult ctx x) = element x * hashKey := by
  have whole : x.1.take 15 ++ [x.get 15] = x.1 := by
    rw [← take_succ_octets x (by decide)]
    exact List.take_of_length_le x.2.le
  have length : (x.1.take 15).length = 15 := by
    rw [List.length_take, x.2]
    rfl
  calc
    element (mult ctx x) =
        pairElement
          ((List.range 15).reverse.foldl (multRound ctx x)
            (multRound ctx x (ctx.entry (loNibble (x.get 15))) 15)) :=
      element_join _
    _ = evalBytes root (x.1.take 15) * hashKey +
          root ^ (8 * 15) * (eval root (x.get 15).toBitVec * hashKey) := by
      rw [pairElement_foldl_multRound tables x le_rfl,
        pairElement_multRound_last tables]
    _ = evalBytes root (x.1.take 15 ++ [x.get 15]) * hashKey := by
      rw [evalBytes_append, length, evalBytes, evalBytes]
      ring
    _ = element x * hashKey := by
      rw [whole]
      rfl

end Multiplication

/-- The multiplication with the tables of the key setup. -/
theorem mult_setKey (aes : BlockFunction) (ctx : Ctx) (key : Bytes)
    {keyBits : Nat} (supported : keyBitsSupported keyBits = true)
    (x : Octets 16) :
    mult (setKey aes ctx key keyBits).2 x =
      blockMul x (aes.encrypt key (Octets.zero 16)) :=
  eq_blockMul (element_mult (holds_setKey aes ctx key supported) x)

/-- The table-driven multiplication is the multiplication of the hash field:
with the tables that the key setup builds from a hash key, the product of a
block is the one block that stands for the product of the two elements. -/
theorem table_multiplication (h x : Octets 16) (aes : BlockFunction) (ctx : Ctx)
    (key : Bytes) {keyBits : Nat}
    (supported : keyBitsSupported keyBits = true)
    (hashKey : aes.encrypt key (Octets.zero 16) = h) :
    let product := mult (setKey aes ctx key keyBits).2 x
    element product = element x * element h ∧
      ∀ block, element block = element x * element h → block = product := by
  have product : mult (setKey aes ctx key keyBits).2 x = blockMul x h := by
    rw [mult_setKey aes ctx key supported, hashKey]
  dsimp only
  rw [product]
  exact ⟨element_blockMul x h, fun block same => eq_blockMul same⟩

/-- The block of the variable times itself. -/
theorem table_multiplication_of_variable :
    let x : Octets 16 := (Octets.zero 16).set 0 0x40
    let product :=
      mult (setKey ⟨fun _ _ => x⟩ init [] 128).2 x
    element product = element x * element x ∧
      ∀ block, element block = element x * element x →
        block = product :=
  table_multiplication ((Octets.zero 16).set 0 0x40) ((Octets.zero 16).set 0 0x40)
    ⟨fun _ _ => (Octets.zero 16).set 0 0x40⟩ init [] (by decide) rfl

end Gcm

end Macsec
