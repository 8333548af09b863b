import Macsec.Common
import Macsec.Math.GcmSpec
import Macsec.Math.Ghash

/-!
# The code meets the mode

Where the multiplication is that of the hash field, sealing yields the
ciphertext and the tag that the mode specifies, and a message opens exactly if
its tag is the specified one.
-/

namespace Macsec

namespace Gcm

open Spec

/-! ## Counter blocks -/

/-- The rendering of a number with one more octet behind it. -/
theorem bigEndian_concat (width value : Nat) {octet : Nat}
    (small : octet < 256) :
    Bytes.bigEndian (width + 1) (value * 256 + octet) =
      Bytes.bigEndian width value ++ [UInt8.ofNat octet] := by
  induction width with
  | zero =>
      have same : UInt8.ofNat (value * 256 + octet) = UInt8.ofNat octet := by
        apply UInt8.toNat_inj.mp
        rw [UInt8.toNat_ofNat', UInt8.toNat_ofNat']
        omega
      simp [Bytes.bigEndian, same]
  | succ width inductionHypothesis =>
      have shift :
          (value * 256 + octet) / 256 ^ (width + 1) = value / 256 ^ width := by
        rw [Nat.pow_succ', ← Nat.div_div_eq_div_mul]
        congr 1
        omega
      rw [Bytes.bigEndian, shift, inductionHypothesis, Bytes.bigEndian,
        List.cons_append]

/-- Incrementing octet by octet with a carry increments the number of these
octets. -/
theorem incrementFrom_eq {front middle back : Bytes} {counter : Octets 16}
    (place : front.length = 12)
    (content : counter.1 = front ++ (middle ++ back)) :
    (incrementFrom middle.length counter).1 =
      front ++ (Bytes.bigEndian middle.length
        (Bytes.ofBigEndian middle + 1) ++ back) := by
  induction middle using List.reverseRecOn generalizing back counter with
  | nil => exact content
  | append_singleton middle octet inductionHypothesis =>
      have position : (front ++ middle).length = 12 + middle.length := by
        rw [List.length_append, place]
      have split :
          counter.1 = (front ++ middle) ++ octet :: back := by
        rw [content]
        simp
      obtain ⟨read, write⟩ := Octets.get_set_behind position split
      have written := write (octet + 1)
      have reread := (Octets.get_set_behind position written).1
      have small := octet.toNat_lt
      have number : (octet + 1).toNat = (octet.toNat + 1) % 256 :=
        UInt8.toNat_add octet 1
      rw [List.length_append, List.length_singleton,
        Bytes.ofBigEndian_concat, incrementFrom, read, reread]
      by_cases carry : octet + 1 = 0
      · rw [carry] at written number
        have full : octet.toNat = 255 := by
          change 0 = _ at number
          omega
        rw [if_neg (by simp [carry]), full, Nat.add_assoc,
          ← Nat.succ_mul, ← Nat.add_zero (_ * 256),
          bigEndian_concat _ _ (by decide), carry,
          @inductionHypothesis (0 :: back) _ (by simp [written])]
        simp
      · have next : octet.toNat + 1 = (octet + 1).toNat := by
          have nonzero : (octet + 1).toNat ≠ 0 :=
            fun zero => carry (UInt8.toNat_inj.mp zero)
          omega
        rw [if_pos (by simpa using carry), written, Nat.add_assoc, next,
          bigEndian_concat _ _ (UInt8.toNat_lt _), UInt8.ofNat_toNat,
          Bytes.bigEndian_ofBigEndian]
        simp

/-- The counter is incremented as a number of 32 bits. -/
theorem incrementCounter_eq (counter : Octets 16) :
    incrementCounter counter = inc32 counter := by
  have parts := congrArg Subtype.val
    (Octets.append_slices (n := 12) (m := 4) counter)
  have content :
      counter.1 =
        (counter.1.slice 0 12).1 ++ ((counter.1.slice 12 4).1 ++ []) := by
    rw [List.append_nil]
    exact parts.symm
  have incremented := incrementFrom_eq (counter.1.slice 0 12).2 content
  rw [(counter.1.slice 12 4).2, List.append_nil] at incremented
  apply Subtype.ext
  have wrapped (number : Nat) :
      Bytes.bigEndian 4 number = Bytes.bigEndian 4 (number % 2 ^ 32) := by
    have whole := Bytes.bigEndian_add_mul 4 (number / 2 ^ 32) (number % 2 ^ 32)
    rw [← whole, show (256 : Nat) ^ 4 = 2 ^ 32 by rfl, Nat.div_add_mod']
  exact incremented.trans (congrArg _ (wrapped _))

/-! ## Hashing -/

/-- The multiplication of a context is the one with a block in the hash field.
-/
def Multiplies (ctx : Ctx) (h : Octets 16) : Prop :=
  ∀ x, mult ctx x = blockMul x h

theorem SameKey.multiplies {ctx ctx' : Ctx} {h : Octets 16}
    (same : SameKey ctx ctx') (multiplies : Multiplies ctx' h) :
    Multiplies ctx h := by
  intro x
  rw [same.mult]
  exact multiplies x

section Hashing

variable {ctx : Ctx} {h : Octets 16} (multiplies : Multiplies ctx h)

include multiplies

/-- Hashing a string into a block hashes its padding. -/
theorem hashPadded_eq (y : Octets 16) (data : Bytes) :
    hashPadded ctx y data = ghashFrom h y (padded data) := by
  fun_induction hashPadded ctx y data with
  | case1 y data nonempty inductionHypothesis =>
      obtain ⟨long, first, rest⟩ := padded_split nonempty
      rw [inductionHypothesis, ghashFrom.eq_def h y, if_pos long, first, rest,
        multiplies]
  | case2 y data empty =>
      have nothing : data = [] := List.length_eq_zero_iff.mp (by omega)
      rw [nothing, padded_nil, ghashFrom, if_neg (by simp)]

omit multiplies in
/-- The standard initialisation vector with the number one behind it. -/
theorem standard_initialCounter {iv : Bytes} (standard : iv.length = 12) :
    ((iv.slice 0 16).set 15 1).1 = iv ++ [0, 0, 0, 1] := by
  have filled : (iv.slice 0 16).1 = iv ++ [0, 0, 0, 0] := by
    have length : (iv ++ List.replicate 4 0).length = 16 := by
      rw [List.length_append, standard, List.length_replicate]
    change iv.takeD 16 0 = _
    rw [← Bytes.takeD_append_zeros iv 4 16, List.takeD_eq_take _ length.ge,
      List.take_of_length_le length.le]
    rfl
  have position : (iv ++ [0, 0, 0]).length = 15 := by
    rw [List.length_append, standard]
    rfl
  have split : (iv.slice 0 16).1 = (iv ++ [0, 0, 0]) ++ 0 :: [] := by
    rw [filled]
    simp
  rw [(Octets.get_set_behind position split).2 1]
  simp

/-- The first counter block of the code is the block in front of the counter
blocks of the mode. -/
theorem initialCounter_eq {ciph : Octets 16 → Octets 16}
    (key : hashKey ciph = h) (iv : Bytes) :
    initialCounter ctx iv = preCounter ciph iv := by
  unfold initialCounter preCounter
  by_cases standard : iv.length = 12
  · rw [if_pos standard, dif_pos standard]
    exact Subtype.ext (standard_initialCounter standard)
  · rw [if_neg standard, dif_neg standard, key]
    dsimp only
    rw [multiplies, hashPadded_eq multiplies]
    unfold ghash
    rw [ghashFrom_append h _ (length_padded iv).1]
    exact (ghashFrom_block h _
      (Octets.append (n := 8) (m := 8) (Octets.zero 8) (bitLength iv))).symm

/-- Absorbing the additional data changes the buffer only, to the hash of its
padding as soon as a last partial block is multiplied. -/
theorem absorbAdd_eq (add : Bytes) :
    ∃ buf, absorbAdd ctx add = { ctx with buf := buf } ∧
      (if add.length % 16 ≠ 0 then mult ctx buf else buf) =
        ghashFrom h ctx.buf (padded add) := by
  fun_induction absorbAdd ctx add with
  | case1 ctx add nonempty useLen buf buf' inductionHypothesis =>
      obtain ⟨long, first, rest⟩ := padded_split nonempty
      rw [ghashFrom, if_pos long, first, rest]
      have same : mult { ctx with buf := buf' } = mult ctx :=
        SameKey.mult ⟨rfl, rfl, rfl⟩
      obtain ⟨result, absorbed, hashed⟩ :=
        inductionHypothesis (SameKey.multiplies ⟨rfl, rfl, rfl⟩ multiplies)
      refine ⟨result, absorbed, ?_⟩
      rw [same] at hashed
      dsimp only at hashed
      by_cases whole : 16 ≤ add.length
      · have full : useLen = 16 := Nat.min_eq_right whole
        have product :
            buf' = blockMul (ctx.buf.xor (add.slice 0 16)) h :=
          (dif_pos full).trans (multiplies buf)
        have length : (add.drop 16).length % 16 = add.length % 16 := by
          rw [List.length_drop]
          omega
        rw [full, length, product] at hashed
        exact hashed
      · have short : useLen = add.length := Nat.min_eq_left (by omega)
        have unmultiplied : buf' = ctx.buf.xor (add.slice 0 16) :=
          dif_neg (by omega)
        rw [short, List.drop_length, if_neg (by simp), padded_nil, ghashFrom,
          if_neg (by simp)] at hashed
        rw [if_pos (by omega), hashed, unmultiplied, multiplies,
          List.drop_eq_nil_of_le (by omega), padded_nil, ghashFrom,
          if_neg (by simp)]
  | case2 ctx add empty =>
      have nothing : add = [] := List.length_eq_zero_iff.mp (by omega)
      refine ⟨ctx.buf, rfl, ?_⟩
      rw [nothing, padded_nil, ghashFrom, if_neg (by simp), if_neg (by simp)]

end Hashing

/-! ## Masking -/

/-- The output of the payload loop is the counter mode from the next counter
block on. -/
theorem updateBlocks_output (aes : BlockFunction) (ctx : Ctx) (input : Bytes) :
    (updateBlocks aes ctx input).2 =
      gctr (aes.encrypt ctx.aesKey) (inc32 ctx.y) input := by
  fun_induction updateBlocks aes ctx input with
  | case1 ctx input nonempty first rest inductionHypothesis =>
      have counter : first.1.y = inc32 ctx.y := incrementCounter_eq ctx.y
      have output :
          first.2 =
            List.zipWith (· ^^^ ·)
              (aes.encrypt ctx.aesKey (inc32 ctx.y)).1 (input.take 16) := by
        rw [← incrementCounter_eq]
        rfl
      rw [gctr, if_pos nonempty, ← output, ← counter]
      exact congrArg (first.2 ++ ·) inductionHypothesis
  | case2 ctx input empty => rw [gctr, if_neg empty]

/-- The ciphertext among the input and the output of an operation. -/
def ciphertextOf (mode : Mode) (input output : Bytes) : Bytes :=
  if mode = .decrypt then input else output

/-- The first block of a string is that of its first 16 octets. -/
theorem slice_take (bytes : Bytes) :
    Bytes.slice (bytes.take 16) 0 16 = Bytes.slice bytes 0 16 := by
  by_cases whole : 16 ≤ bytes.length
  · have split := Bytes.slice_append_left (bytes.take 16) (bytes.drop 16)
      (show 0 + 16 ≤ (bytes.take 16).length by rw [List.length_take]; omega)
    rw [List.take_append_drop] at split
    exact split.symm
  · rw [List.take_of_length_le (by omega)]

/-- One block of the payload is hashed, if it is whole. -/
theorem updateBlock_buf (aes : BlockFunction) {ctx : Ctx} {h : Octets 16}
    (multiplies : Multiplies ctx h) (block : Bytes) :
    let updated := updateBlock aes ctx block
    let sum :=
      ctx.buf.xor
        (Bytes.slice (ciphertextOf ctx.mode block updated.2) 0 16)
    updated.1.buf = if block.length = 16 then blockMul sum h else sum := by
  intro updated sum
  rw [← multiplies]
  rfl

/-- The payload loop hashes the padding of the ciphertext into the buffer, as
soon as a last partial block is multiplied. -/
theorem updateBlocks_hash (aes : BlockFunction) {ctx : Ctx} {h : Octets 16}
    (multiplies : Multiplies ctx h) (aligned : ctx.len % 16 = 0)
    (input : Bytes) :
    let updated := updateBlocks aes ctx input
    (if updated.1.len % 16 ≠ 0 then mult updated.1 updated.1.buf
        else updated.1.buf) =
      ghashFrom h ctx.buf (padded (ciphertextOf ctx.mode input updated.2)) := by
  fun_induction updateBlocks aes ctx input with
  | case1 ctx input nonempty first rest inductionHypothesis =>
      have split :
          (first.2 ++ rest.2).take 16 = first.2 ∧
            (first.2 ++ rest.2).drop 16 = rest.2 :=
        updateBlocks_split aes ctx input
      have same : Multiplies first.1 h :=
        SameKey.multiplies ⟨rfl, rfl, rfl⟩ multiplies
      have rehashed := inductionHypothesis same
      have sameMode : first.1.mode = ctx.mode := rfl
      rw [sameMode] at rehashed
      dsimp only at rehashed ⊢
      generalize ciphertext :
        ciphertextOf ctx.mode input (first.2 ++ rest.2) = text
      have start :
          text.take 16 = ciphertextOf ctx.mode (input.take 16) first.2 := by
        rw [← ciphertext, ciphertextOf, apply_ite (List.take 16), split.1]
        rfl
      have following :
          text.drop 16 = ciphertextOf ctx.mode (input.drop 16) rest.2 := by
        rw [← ciphertext, ciphertextOf, apply_ite (List.drop 16), split.2]
        rfl
      have something : text.length > 0 := by
        rw [← ciphertext, ciphertextOf]
        split
        next => exact nonempty
        next =>
            rw [List.length_append, length_updateBlock aes ctx
              (List.length_take_le _ _), List.length_take]
            omega
      have buffer := updateBlock_buf aes multiplies (input.take 16)
      dsimp only at buffer
      rw [← start, slice_take] at buffer
      obtain ⟨long, block, others⟩ := padded_split something
      rw [ghashFrom, if_pos long, block, others, following]
      by_cases whole : 16 ≤ input.length
      · rw [if_pos (by rw [List.length_take]; omega)] at buffer
        rw [← buffer]
        apply rehashed
        change (ctx.len + (input.take 16).length) % 16 = 0
        rw [List.length_take]
        omega
      · have nothing : input.drop 16 = [] :=
          List.drop_eq_nil_of_le (by omega)
        have last : rest = (first.1, []) := by
          rw [show rest = updateBlocks aes first.1 (input.drop 16) from rfl,
            nothing, updateBlocks, if_neg (by simp)]
        have length : first.1.len = ctx.len + input.length := by
          change ctx.len + (input.take 16).length = _
          rw [List.length_take]
          omega
        rw [if_neg (by rw [List.length_take]; omega)] at buffer
        have unfinished : first.1.len % 16 ≠ 0 := by omega
        rw [last, nothing, ciphertextOf, ite_self, padded_nil,
          if_pos (by exact unfinished), ghashFrom, if_neg (by simp), ← buffer]
        exact same _
  | case2 ctx input empty =>
      have nothing : input = [] := List.length_eq_zero_iff.mp (by omega)
      dsimp only
      rw [nothing, ciphertextOf, ite_self, padded_nil, ghashFrom,
        if_neg (not_not_intro aligned), if_neg (by simp)]

/-- What the payload loop leaves alone, and the octets it counts. -/
theorem updateBlocks_rest (aes : BlockFunction) (ctx : Ctx) (input : Bytes) :
    (updateBlocks aes ctx input).1.addLen = ctx.addLen ∧
      (updateBlocks aes ctx input).1.baseEctr = ctx.baseEctr ∧
      (updateBlocks aes ctx input).1.len = ctx.len + input.length := by
  fun_induction updateBlocks aes ctx input with
  | case1 ctx input nonempty first rest inductionHypothesis =>
      obtain ⟨addLen, baseEctr, len⟩ := inductionHypothesis
      have counted : first.1.len = ctx.len + (input.take 16).length := rfl
      refine ⟨addLen, baseEctr, len.trans ?_⟩
      rw [counted, List.length_take, List.length_drop]
      omega
  | case2 ctx input empty =>
      have nothing : input = [] := List.length_eq_zero_iff.mp (by omega)
      rw [nothing]
      exact ⟨rfl, rfl, rfl⟩

/-! ## Operations -/

/-- The lengths of the strings that an operation accepts. -/
structure Accepts (iv add : Bytes) (textLen tagLen : Nat) : Prop where
  ivPresent : iv.length ≠ 0
  ivFits : iv.length < 2 ^ 61
  addFits : add.length < 2 ^ 61
  textFits : textLen ≤ 0xFFFFFFFE0
  tagLong : 4 ≤ tagLen
  tagShort : tagLen ≤ 16

/-- A context in which an operation has processed its initialisation vector and
additional data. -/
structure Begun (ciph : Octets 16 → Octets 16) (mode : Mode) (iv add : Bytes)
    (ctx : Ctx) : Prop where
  multiplies : Multiplies ctx (hashKey ciph)
  y : ctx.y = preCounter ciph iv
  baseEctr : ctx.baseEctr = ciph (preCounter ciph iv)
  buf : ctx.buf = ghash (hashKey ciph) (padded add)
  mode : ctx.mode = mode
  len : ctx.len = 0
  addLen : ctx.addLen = add.length

section Operations

variable {aes : BlockFunction} {ctx : Ctx} {iv add : Bytes}
  (multiplies : Multiplies ctx (hashKey (aes.encrypt ctx.aesKey)))

include multiplies

theorem exists_begun (mode : Mode) (ivPresent : iv.length ≠ 0)
    (ivFits : iv.length < 2 ^ 61) (addFits : add.length < 2 ^ 61) :
    ∃ started, starts aes ctx mode iv add = (.ok, started) ∧
      started.aesKey = ctx.aesKey ∧
      Begun (aes.encrypt ctx.aesKey) mode iv add started := by
  have sizes := not_sizes_refused ivPresent ivFits addFits
  have same : SameKey (prepare aes ctx mode iv add) ctx := ⟨rfl, rfl, rfl⟩
  have prepared := same.multiplies multiplies
  obtain ⟨buf, absorbed, hashed⟩ := absorbAdd_eq prepared add
  have counter :
      initialCounter ctx iv = preCounter (aes.encrypt ctx.aesKey) iv :=
    initialCounter_eq multiplies rfl iv
  have started :
      starts aes ctx mode iv add =
        (.ok,
          { prepare aes ctx mode iv add with
            buf := ghashFrom (hashKey (aes.encrypt ctx.aesKey))
              (Octets.zero 16) (padded add) }) := by
    unfold starts
    rw [if_neg sizes, absorbed]
    dsimp only
    rw [show (prepare aes ctx mode iv add).addLen = add.length from rfl]
    have cleared : (prepare aes ctx mode iv add).buf = Octets.zero 16 := rfl
    rw [cleared] at hashed
    split
    next unfinished =>
        rw [if_pos unfinished] at hashed
        rw [← hashed]
        rfl
    next finished =>
        rw [if_neg finished] at hashed
        rw [← hashed]
  refine ⟨_, started, rfl, ?_⟩
  exact ⟨SameKey.multiplies ⟨rfl, rfl, rfl⟩ multiplies, counter,
    congrArg (aes.encrypt ctx.aesKey) counter, rfl, rfl, rfl, rfl⟩

omit multiplies in
/-- The tag that finishing yields. -/
theorem finish_tag {processed : Ctx} {h hash : Octets 16} {tagLen : Nat}
    (product : Multiplies processed h)
    (size : ¬(tagLen > 16 || tagLen < 4) = true)
    (hashed :
      (if processed.len % 16 ≠ 0 then mult processed processed.buf
        else processed.buf) = hash) :
    (finish processed tagLen).1 = .ok ∧
      (finish processed tagLen).2.2 =
        (processed.baseEctr.xor
          (ghashFrom h hash
            ((Octets.ofNat 8 (processed.addLen * 8)).append
              (Octets.ofNat 8 (processed.len * 8))).1)).1.take tagLen := by
  have block :
      ghashFrom h hash
          ((Octets.ofNat 8 (processed.addLen * 8)).append
            (Octets.ofNat 8 (processed.len * 8))).1 =
        blockMul
          (hash.xor
            ((Octets.ofNat 8 (processed.addLen * 8)).append
              (Octets.ofNat 8 (processed.len * 8)))) h :=
    ghashFrom_block h hash _
  unfold finish
  rw [if_neg size, hashed]
  refine ⟨rfl, ?_⟩
  dsimp only
  rw [product, block]

/-- An operation that is accepted yields the output and the tag that the mode
specifies. -/
theorem cryptAndTag_eq (mode : Mode) {input : Bytes} {tagLen : Nat}
    (accepts : Accepts iv add input.length tagLen) :
    let ciph := aes.encrypt ctx.aesKey
    let result := cryptAndTag aes ctx mode iv add input tagLen
    result.ret = .ok ∧ result.output = crypt ciph iv input ∧
      result.tag =
        tag ciph iv add (ciphertextOf mode input result.output) tagLen := by
  obtain ⟨started, start, key, begun⟩ :=
    exists_begun multiplies mode accepts.ivPresent accepts.ivFits
      accepts.addFits
  have fits : ¬started.len + input.length > 0xFFFFFFFE0 := by
    have bound := accepts.textFits
    rw [begun.len]
    omega
  have size : ¬(tagLen > 16 || tagLen < 4) = true := by
    have long := accepts.tagLong
    have short := accepts.tagShort
    simp only [Bool.or_eq_true, decide_eq_true_eq]
    omega
  have output := updateBlocks_output aes started input
  have outputLength := length_updateBlocks aes started input
  have hashed :=
    updateBlocks_hash aes begun.multiplies (by rw [begun.len]) input
  obtain ⟨addLen, baseEctr, len⟩ := updateBlocks_rest aes started input
  have product :=
    (updateBlocks_sameKey aes started input).multiplies begun.multiplies
  rw [key, begun.y] at output
  dsimp only at hashed
  rw [begun.buf, begun.mode] at hashed
  rw [begun.addLen] at addLen
  rw [begun.baseEctr] at baseEctr
  rw [begun.len, Nat.zero_add] at len
  obtain ⟨finished, tagged⟩ := finish_tag product size hashed
  intro ciph result
  have form :
      result.ret = (finish (updateBlocks aes started input).1 tagLen).1 ∧
        result.output = (updateBlocks aes started input).2 ∧
        result.tag =
          (finish (updateBlocks aes started input).1 tagLen).2.2 := by
    change (cryptAndTag aes ctx mode iv add input tagLen).ret = _ ∧
      (cryptAndTag aes ctx mode iv add input tagLen).output = _ ∧
      (cryptAndTag aes ctx mode iv add input tagLen).tag = _
    unfold cryptAndTag
    rw [start]
    dsimp only
    rw [update, if_neg fits]
    exact ⟨rfl, rfl, rfl⟩
  obtain ⟨retForm, outputForm, tagForm⟩ := form
  refine ⟨retForm.trans finished, outputForm.trans output, ?_⟩
  rw [tagForm, tagged, outputForm, addLen, baseEctr, len]
  generalize text : ciphertextOf mode input
    (updateBlocks aes started input).2 = ciphertext
  have textLength : ciphertext.length = input.length := by
    rw [← text, ciphertextOf]
    split
    next => rfl
    next => exact outputLength
  rw [tag_eq, bitLength, bitLength, textLength]

omit multiplies in
/-- Only what is accepted is processed. -/
theorem accepts_of_ok {mode : Mode} {input : Bytes} {tagLen : Nat}
    (ok : (cryptAndTag aes ctx mode iv add input tagLen).ret = .ok) :
    Accepts iv add input.length tagLen := by
  by_cases sizes :
    (iv.length = 0 || iv.length ≥ 2 ^ 61 || add.length ≥ 2 ^ 61) = true
  · have refused : starts aes ctx mode iv add = (.badInput, ctx) := if_pos sizes
    unfold cryptAndTag at ok
    rw [refused] at ok
    cases ok
  · simp only [Bool.or_eq_true, decide_eq_true_eq, not_or, ge_iff_le,
      Nat.not_le] at sizes
    obtain ⟨⟨ivPresent, ivFits⟩, addFits⟩ := sizes
    obtain ⟨started, start, len⟩ :=
      exists_starts aes ctx mode ivPresent ivFits addFits
    unfold cryptAndTag at ok
    rw [start] at ok
    dsimp only at ok
    by_cases long : started.len + input.length > 0xFFFFFFFE0
    · rw [update, if_pos long] at ok
      cases ok
    · rw [update, if_neg long] at ok
      dsimp only at ok
      by_cases size : (tagLen > 16 || tagLen < 4) = true
      · rw [finish, if_pos size] at ok
        cases ok
      · simp only [Bool.or_eq_true, decide_eq_true_eq, not_or] at size
        exact ⟨ivPresent, ivFits, addFits, by omega, by omega, by omega⟩

omit multiplies in
/-- Tags of one length are compared for equality. -/
theorem compareTag_iff {given check : Bytes}
    (sameLength : given.length = check.length) :
    authDecrypt.compareTag given check = true ↔ given = check := by
  rw [← compare_eq_zero sameLength, compare, Int.natCast_eq_zero,
    authDecrypt.compareTag, beq_iff_eq, ← UInt8.toNat_zero, UInt8.toNat_inj]

omit multiplies in
/-- Masking twice changes nothing. -/
theorem crypt_crypt (ciph : Octets 16 → Octets 16) (iv text : Bytes) :
    crypt ciph iv (crypt ciph iv text) = text := by
  have twice :=
    updateBlocks_updateBlocks ⟨fun _ => ciph⟩
      { init with y := preCounter ciph iv, mode := .encrypt } text rfl
  have outputs := congrArg Prod.snd twice
  rw [updateBlocks_output, updateBlocks_output] at outputs
  exact outputs

omit multiplies in
/-- What a message is opened to is the only plaintext it is sealed from. -/
theorem crypt_eq_iff (ciph : Octets 16 → Octets 16)
    (iv plain ciphertext : Bytes) :
    crypt ciph iv plain = ciphertext ↔ plain = crypt ciph iv ciphertext := by
  constructor
  · rintro rfl
    exact (crypt_crypt ciph iv plain).symm
  · rintro rfl
    exact crypt_crypt ciph iv ciphertext

/-- A message opens exactly if its tag is the specified one, to its plaintext,
and to zeros otherwise. -/
theorem authDecrypt_eq {given ciphertext : Bytes}
    (accepts : Accepts iv add ciphertext.length given.length) :
    let ciph := aes.encrypt ctx.aesKey
    let opening := authDecrypt aes ctx iv add given ciphertext
    if given = tag ciph iv add ciphertext given.length then
      opening.1 = .ok ∧ opening.2.2 = crypt ciph iv ciphertext
    else
      opening.1 = .authFailed ∧
        opening.2.2 = List.replicate ciphertext.length 0 := by
  obtain ⟨ok, output, tagged⟩ := cryptAndTag_eq multiplies .decrypt accepts
  obtain ⟨-, -, tagLength⟩ :=
    cryptAndTag_ok aes ctx .decrypt accepts.ivPresent accepts.ivFits
      accepts.addFits accepts.textFits accepts.tagLong accepts.tagShort
  have compared := compareTag_iff tagLength.symm
  intro ciph opening
  rw [tagged] at compared
  change _ ↔ given = tag ciph iv add ciphertext given.length at compared
  change if _ then (authDecrypt aes ctx iv add given ciphertext).1 = _ ∧
      (authDecrypt aes ctx iv add given ciphertext).2.2 = _
    else (authDecrypt aes ctx iv add given ciphertext).1 = _ ∧
      (authDecrypt aes ctx iv add given ciphertext).2.2 = _
  unfold authDecrypt
  dsimp only
  rw [if_neg (not_not_intro ok), tagged]
  split
  next same =>
      rw [if_pos (compared.mpr same)]
      exact ⟨rfl, output⟩
  next differ =>
      rw [if_neg (mt compared.mp differ)]
      exact ⟨rfl, rfl⟩

end Operations

/-- The code computes the Galois/Counter mode of an arbitrary function on
blocks.  Sealing is accepted exactly for strings of admissible lengths and then
yields the specified ciphertext and tag.  Opening succeeds exactly if the tag is
the specified one, with the only plaintext that seals to the ciphertext, and
leaves zeros if it is not. -/
theorem gcm_meets_specification (aes : BlockFunction) (ctx : Ctx)
    (field : ∀ x, mult ctx x =
      blockMul x (aes.encrypt ctx.aesKey (Octets.zero 16)))
    (iv add : Bytes) :
    let ciph := aes.encrypt ctx.aesKey
    (∀ plain tagLen,
      let sealing := cryptAndTag aes ctx .encrypt iv add plain tagLen
      (sealing.ret = .ok ↔ Accepts iv add plain.length tagLen) ∧
        (sealing.ret = .ok →
          sealing.output = Spec.crypt ciph iv plain ∧
            sealing.tag =
              Spec.tag ciph iv add (Spec.crypt ciph iv plain) tagLen)) ∧
    ∀ given ciphertext,
      Accepts iv add ciphertext.length given.length →
      let opening := authDecrypt aes ctx iv add given ciphertext
      (opening.1 = .ok ↔
          given = Spec.tag ciph iv add ciphertext given.length) ∧
        (opening.1 = .ok → ∀ plain,
          Spec.crypt ciph iv plain = ciphertext ↔ plain = opening.2.2) ∧
        (given ≠ Spec.tag ciph iv add ciphertext given.length →
          opening.2.2 = List.replicate ciphertext.length 0) := by
  constructor
  · intro plain tagLen
    dsimp only
    refine ⟨⟨accepts_of_ok, ?_⟩, ?_⟩
    · exact fun accepts => (cryptAndTag_eq field .encrypt accepts).1
    · intro ok
      obtain ⟨-, output, tagged⟩ :=
        cryptAndTag_eq field .encrypt (accepts_of_ok ok)
      refine ⟨output, ?_⟩
      rw [← output]
      exact tagged
  · intro given ciphertext accepts
    have opened := authDecrypt_eq field accepts
    dsimp only at opened ⊢
    split at opened
    next same =>
        obtain ⟨ok, output⟩ := opened
        refine ⟨⟨fun _ => same, fun _ => ok⟩, ?_, ?_⟩
        · intro _ plain
          rw [output]
          exact crypt_eq_iff ..
        · exact fun differ => absurd same differ
    next differ =>
        obtain ⟨failed, output⟩ := opened
        have refused :
            ¬(authDecrypt aes ctx iv add given ciphertext).1 = .ok := by
          rw [failed]
          exact Ret.noConfusion
        refine ⟨⟨fun ok => absurd ok refused, fun same => absurd same differ⟩,
          fun ok => absurd ok refused, fun _ => output⟩

/-- A function that maps many blocks to one is good enough. -/
theorem constant_block_function_meets_specification :
    let aes : BlockFunction := ⟨fun _ _ => Octets.ofNat 16 0x42⟩
    let ctx := (setKey aes init [] 128).2
    let ciph := aes.encrypt ctx.aesKey
    (∀ plain tagLen,
      let sealing := cryptAndTag aes ctx .encrypt [7] [] plain tagLen
      (sealing.ret = .ok ↔ Accepts [7] [] plain.length tagLen) ∧
        (sealing.ret = .ok →
          sealing.output = Spec.crypt ciph [7] plain ∧
            sealing.tag =
              Spec.tag ciph [7] [] (Spec.crypt ciph [7] plain) tagLen)) ∧
    ∀ given ciphertext,
      Accepts [7] [] ciphertext.length given.length →
      let opening := authDecrypt aes ctx [7] [] given ciphertext
      (opening.1 = .ok ↔
          given = Spec.tag ciph [7] [] ciphertext given.length) ∧
        (opening.1 = .ok → ∀ plain,
          Spec.crypt ciph [7] plain = ciphertext ↔ plain = opening.2.2) ∧
        (given ≠ Spec.tag ciph [7] [] ciphertext given.length →
          opening.2.2 = List.replicate ciphertext.length 0) :=
  gcm_meets_specification ⟨fun _ _ => Octets.ofNat 16 0x42⟩ _
    (mult_setKey ⟨fun _ _ => Octets.ofNat 16 0x42⟩ init [] (by decide)) [7] []

end Gcm

end Macsec
