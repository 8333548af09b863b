import Macsec.Math.BlockCipher

/-!
# AES-GCM

The Galois/Counter mode of `math/gcm.c`: the key setup with its two 4-bit
tables, the table-driven multiplication, counter-mode encryption and the tag.
Opening a sealed message recovers its plaintext under every block cipher.
-/

namespace Macsec

namespace Gcm

/-- The results of the GCM functions. -/
inductive Ret
  | ok
  | badInput
  | authFailed
  deriving DecidableEq, Repr

/-- The direction of a GCM operation. -/
inductive Mode
  | encrypt
  | decrypt
  deriving DecidableEq, Repr

/-- The working context of a GCM operation. -/
structure Ctx where
  aesKey : Bytes
  hl : Vector (BitVec 64) 16
  hh : Vector (BitVec 64) 16
  len : Nat
  addLen : Nat
  baseEctr : Octets 16
  y : Octets 16
  buf : Octets 16
  mode : Mode

/-- The cleared context. -/
def init : Ctx where
  aesKey := []
  hl := Vector.replicate 16 0
  hh := Vector.replicate 16 0
  len := 0
  addLen := 0
  baseEctr := Octets.zero 16
  y := Octets.zero 16
  buf := Octets.zero 16
  mode := .decrypt

/-! ## Multiplication in the hash field -/

/-- The reductions of the four bits shifted out at the right. -/
def last4 : Vector (BitVec 64) 16 :=
  #v[0x0000, 0x1C20, 0x3840, 0x2460, 0x7080, 0x6CA0, 0x48C0, 0x54E0,
    0xE100, 0xFD20, 0xD940, 0xC560, 0x9180, 0x8DA0, 0xA9C0, 0xB5E0]

/-- The low four bits of an octet. -/
def loNibble (octet : UInt8) : Fin 16 :=
  Fin.ofNat 16 octet.toNat

/-- The high four bits of an octet. -/
def hiNibble (octet : UInt8) : Fin 16 :=
  Fin.ofNat 16 (octet.toNat / 16)

/-- Shift a field element to the right by four bits and reduce it. -/
def shift4 (z : BitVec 64 × BitVec 64) : BitVec 64 × BitVec 64 :=
  let (zh, zl) := z
  let rem : Fin 16 := Fin.ofNat 16 zl.toNat
  (zh >>> 4 ^^^ last4[rem] <<< 48, zh <<< 60 ||| zl >>> 4)

/-- The table entry of a nibble. -/
def Ctx.entry (ctx : Ctx) (nibble : Fin 16) : BitVec 64 × BitVec 64 :=
  (ctx.hh[nibble], ctx.hl[nibble])

/-- Enter a pair at a nibble. -/
def Ctx.enter (ctx : Ctx) (nibble : Fin 16) (z : BitVec 64 × BitVec 64) : Ctx :=
  { ctx with hl := ctx.hl.set nibble z.2, hh := ctx.hh.set nibble z.1 }

/-- Add the table entry of a nibble to a field element. -/
def addEntry (ctx : Ctx) (nibble : Fin 16) (z : BitVec 64 × BitVec 64) :
    BitVec 64 × BitVec 64 :=
  (z.1 ^^^ ctx.hh[nibble], z.2 ^^^ ctx.hl[nibble])

/-- One round of the multiplication, for the octet at an index. -/
def multRound (ctx : Ctx) (x : Octets 16) (z : BitVec 64 × BitVec 64)
    (i : Nat) : BitVec 64 × BitVec 64 :=
  let z :=
    if i != 15 then addEntry ctx (loNibble (x.get i)) (shift4 z) else z
  addEntry ctx (hiNibble (x.get i)) (shift4 z)

/-- Multiply a block by the hash key. -/
def mult (ctx : Ctx) (x : Octets 16) : Octets 16 :=
  let lo := loNibble (x.get 15)
  let z :=
    (List.range 16).reverse.foldl (multRound ctx x) (ctx.hh[lo], ctx.hl[lo])
  (Octets.ofNat 8 z.1.toNat).append (Octets.ofNat 8 z.2.toNat)

/-- Increment the last four octets of a counter block, starting with the given
number of them that remain. -/
def incrementFrom : Nat → Octets 16 → Octets 16
  | 0, counter => counter
  | remaining + 1, counter =>
      let index := 12 + remaining
      let counter := counter.set index (counter.get index + 1)
      if counter.get index != 0 then counter
      else incrementFrom remaining counter

/-- Increment the 32-bit counter at the end of a counter block. -/
def incrementCounter (counter : Octets 16) : Octets 16 :=
  incrementFrom 4 counter

/-! ## Key setup -/

/-- Halve the hash key and enter it at a power of two. -/
def halveEntry (state : (BitVec 64 × BitVec 64) × Ctx) (i : Fin 16) :
    (BitVec 64 × BitVec 64) × Ctx :=
  let ((vh, vl), ctx) := state
  let reduction : BitVec 64 := (vl &&& 1) * 0xE1000000
  let vl' := vh <<< 63 ||| vl >>> 1
  let vh' := vh >>> 1 ^^^ reduction <<< 32
  ((vh', vl'), { ctx with hl := ctx.hl.set i vl', hh := ctx.hh.set i vh' })

/-- Enter the sums of the entry at `i` with the entries below it. -/
def sumEntries (ctx : Ctx) (i : Fin 16) : Ctx :=
  let vh := ctx.hh[i]
  let vl := ctx.hl[i]
  (List.range' 1 (i - 1)).foldl
    (fun ctx j =>
      let j := Fin.ofNat 16 j
      let sum := i + j
      { ctx with
        hh := ctx.hh.set sum.1 (vh ^^^ ctx.hh[j]) sum.2
        hl := ctx.hl.set sum.1 (vl ^^^ ctx.hl[j]) sum.2 })
    ctx

/-- Set the key and build the multiplication tables of its hash key. -/
def setKey (aes : BlockFunction) (ctx : Ctx) (key : Bytes) (keyBits : Nat) :
    Ret × Ctx :=
  if !keyBitsSupported keyBits then
    (.badInput, ctx)
  else
    let h := aes.encrypt key (Octets.zero 16)
    let vh := BitVec.ofNat 64 (Bytes.ofBigEndian (h.1.slice 0 8).1)
    let vl := BitVec.ofNat 64 (Bytes.ofBigEndian (h.1.slice 8 8).1)
    let ctx :=
      { ctx with
        aesKey := key
        hl := (ctx.hl.set 8 vl).set 0 0
        hh := (ctx.hh.set 8 vh).set 0 0 }
    let (_, ctx) := ([4, 2, 1] : List (Fin 16)).foldl halveEntry ((vh, vl), ctx)
    (.ok, ([2, 4, 8] : List (Fin 16)).foldl sumEntries ctx)

/-! ## Sealing and opening -/

/-- Hash a string into a block, the last piece padded with zeros. -/
def hashPadded (ctx : Ctx) (y : Octets 16) (data : Bytes) : Octets 16 :=
  if data.length > 0 then
    hashPadded ctx (mult ctx (y.xor (data.slice 0 16))) (data.drop 16)
  else
    y
termination_by data.length
decreasing_by
  rw [List.length_drop]
  omega

/-- The first counter block for an initialisation vector. -/
def initialCounter (ctx : Ctx) (iv : Bytes) : Octets 16 :=
  if iv.length = 12 then
    (iv.slice 0 16).set 15 1
  else
    let tmp := (Octets.zero 8).append (Octets.ofNat 8 (iv.length * 8))
    mult ctx ((hashPadded ctx (Octets.zero 16) iv).xor tmp)

/-- Add the additional data to the hash buffer; a last partial block is not
multiplied yet. -/
def absorbAdd (ctx : Ctx) (add : Bytes) : Ctx :=
  if add.length > 0 then
    let useLen := min add.length 16
    let buf := ctx.buf.xor (add.slice 0 16)
    let buf := if useLen = 16 then mult ctx buf else buf
    absorbAdd { ctx with buf := buf } (add.drop useLen)
  else
    ctx
termination_by add.length
decreasing_by
  rw [List.length_drop]
  omega

/-- Clear what earlier operations left behind and enter the counter block and
the tag mask. -/
def prepare (aes : BlockFunction) (ctx : Ctx) (mode : Mode) (iv add : Bytes) :
    Ctx :=
  let y := initialCounter ctx iv
  { ctx with
    y := y
    buf := Octets.zero 16
    mode := mode
    len := 0
    addLen := add.length
    baseEctr := aes.encrypt ctx.aesKey y }

/-- Start an operation and hash its additional data. -/
def starts (aes : BlockFunction) (ctx : Ctx) (mode : Mode) (iv add : Bytes) :
    Ret × Ctx :=
  if iv.length = 0 || iv.length ≥ 2 ^ 61 || add.length ≥ 2 ^ 61 then
    (.badInput, ctx)
  else
    let ctx := absorbAdd (prepare aes ctx mode iv add) add
    if ctx.addLen % 16 ≠ 0 then
      (.ok, { ctx with buf := mult ctx ctx.buf })
    else
      (.ok, ctx)

/-- The part of the payload a keystream block covers, masked by it. -/
def maskBlock (ectr : Octets 16) (input : Bytes) : Bytes :=
  List.zipWith (· ^^^ ·) ectr.1 input

/-- Mask one block of the payload and hash its ciphertext. -/
def updateBlock (aes : BlockFunction) (ctx : Ctx) (block : Bytes) :
    Ctx × Bytes :=
  let y := incrementCounter ctx.y
  let out := maskBlock (aes.encrypt ctx.aesKey y) block
  let hashed := if ctx.mode = .decrypt then block else out
  let buf := ctx.buf.xor (Bytes.slice hashed 0 16)
  let buf := if block.length = 16 then mult ctx buf else buf
  ({ ctx with y := y, buf := buf, len := ctx.len + block.length }, out)

/-- Process the payload block by block. -/
def updateBlocks (aes : BlockFunction) (ctx : Ctx) (input : Bytes) :
    Ctx × Bytes :=
  if input.length > 0 then
    let first := updateBlock aes ctx (input.take 16)
    let rest := updateBlocks aes first.1 (input.drop 16)
    (rest.1, first.2 ++ rest.2)
  else
    (ctx, [])
termination_by input.length
decreasing_by
  rw [List.length_drop]
  omega

/-- Process the payload, unless it is too long for one counter. -/
def update (aes : BlockFunction) (ctx : Ctx) (input : Bytes) :
    Ret × Ctx × Bytes :=
  if ctx.len + input.length > 0xFFFFFFFE0 then
    (.badInput, ctx, [])
  else
    let (ctx, output) := updateBlocks aes ctx input
    (.ok, ctx, output)

/-- Hash the lengths and mask the tag. -/
def finish (ctx : Ctx) (tagLen : Nat) : Ret × Ctx × Bytes :=
  if tagLen > 16 || tagLen < 4 then
    (.badInput, ctx, [])
  else
    let buf := if ctx.len % 16 ≠ 0 then mult ctx ctx.buf else ctx.buf
    let tmp :=
      (Octets.ofNat 8 (ctx.addLen * 8)).append (Octets.ofNat 8 (ctx.len * 8))
    let buf := mult ctx (buf.xor tmp)
    (.ok, { ctx with buf := buf }, (ctx.baseEctr.xor buf).1.take tagLen)

/-- The result of a whole GCM operation. -/
structure Result where
  ret : Ret
  ctx : Ctx
  output : Bytes
  tag : Bytes

/-- Process additional data and payload and compute the tag. -/
def cryptAndTag
    (aes : BlockFunction) (ctx : Ctx) (mode : Mode)
    (iv add input : Bytes) (tagLen : Nat) : Result :=
  match starts aes ctx mode iv add with
  | (.ok, ctx) =>
      match update aes ctx input with
      | (.ok, ctx, output) =>
          let (ret, ctx, tag) := finish ctx tagLen
          { ret, ctx, output, tag }
      | (ret, ctx, output) => { ret, ctx, output, tag := [] }
  | (ret, ctx) => { ret, ctx, output := [], tag := [] }

/-- Open a sealed message.  If the tag does not match, the plaintext is
replaced by zeros. -/
def authDecrypt
    (aes : BlockFunction) (ctx : Ctx)
    (iv add tag input : Bytes) : Ret × Ctx × Bytes :=
  let result := cryptAndTag aes ctx .decrypt iv add input tag.length
  if result.ret ≠ .ok then
    (result.ret, result.ctx, result.output)
  else if compareTag tag result.tag then
    (.ok, result.ctx, result.output)
  else
    (.authFailed, result.ctx, List.replicate input.length 0)
where
  /-- Accumulate the differences of two tags and test them for zero. -/
  compareTag (tag checkTag : Bytes) : Bool :=
    (List.zipWith (· ^^^ ·) tag checkTag).foldl (· ||| ·) 0 == 0

/-! ## Operations keep the key -/

/-- Two contexts are set up for the same key. -/
structure SameKey (ctx ctx' : Ctx) : Prop where
  aesKey : ctx.aesKey = ctx'.aesKey
  hl : ctx.hl = ctx'.hl
  hh : ctx.hh = ctx'.hh

theorem SameKey.refl (ctx : Ctx) : SameKey ctx ctx := ⟨rfl, rfl, rfl⟩

theorem SameKey.trans {ctx ctx' ctx'' : Ctx}
    (first : SameKey ctx ctx') (second : SameKey ctx' ctx'') :
    SameKey ctx ctx'' :=
  ⟨first.aesKey.trans second.aesKey, first.hl.trans second.hl,
    first.hh.trans second.hh⟩

/-- The product depends only on the tables. -/
theorem SameKey.mult {ctx ctx' : Ctx} (same : SameKey ctx ctx') :
    mult ctx = mult ctx' := by
  have round : multRound ctx = multRound ctx' := by
    funext x z i
    simp only [multRound, addEntry, same.hl, same.hh]
  funext x
  simp only [Gcm.mult, round, same.hl, same.hh]

theorem SameKey.hashPadded {ctx ctx' : Ctx} (same : SameKey ctx ctx')
    (y : Octets 16) (data : Bytes) :
    hashPadded ctx y data = hashPadded ctx' y data := by
  fun_induction Gcm.hashPadded ctx y data with
  | case1 y data nonempty inductionHypothesis =>
      rw [Gcm.hashPadded.eq_def ctx' y data, if_pos nonempty,
        inductionHypothesis, same.mult]
  | case2 y data empty =>
      rw [Gcm.hashPadded, if_neg empty]

theorem SameKey.initialCounter {ctx ctx' : Ctx} (same : SameKey ctx ctx')
    (iv : Bytes) : initialCounter ctx iv = initialCounter ctx' iv := by
  simp only [Gcm.initialCounter, same.mult, same.hashPadded]

theorem absorbAdd_sameKey (ctx : Ctx) (add : Bytes) :
    SameKey (absorbAdd ctx add) ctx := by
  fun_induction absorbAdd ctx add with
  | case1 ctx add nonempty useLen buf buf' inductionHypothesis =>
      exact inductionHypothesis.trans ⟨rfl, rfl, rfl⟩
  | case2 ctx add empty => exact SameKey.refl ctx

theorem starts_sameKey
    (aes : BlockFunction) (ctx : Ctx) (mode : Mode) (iv add : Bytes) :
    SameKey (starts aes ctx mode iv add).2 ctx := by
  have absorbed :
      SameKey (absorbAdd (prepare aes ctx mode iv add) add) ctx :=
    (absorbAdd_sameKey _ add).trans ⟨rfl, rfl, rfl⟩
  unfold starts
  split
  · exact SameKey.refl ctx
  · dsimp only
    split
    · exact ⟨absorbed.aesKey, absorbed.hl, absorbed.hh⟩
    · exact absorbed

theorem updateBlocks_sameKey
    (aes : BlockFunction) (ctx : Ctx) (input : Bytes) :
    SameKey (updateBlocks aes ctx input).1 ctx := by
  fun_induction updateBlocks aes ctx input with
  | case1 ctx input nonempty first rest inductionHypothesis =>
      exact inductionHypothesis.trans ⟨rfl, rfl, rfl⟩
  | case2 ctx input empty => exact SameKey.refl ctx

theorem update_sameKey (aes : BlockFunction) (ctx : Ctx) (input : Bytes) :
    SameKey (update aes ctx input).2.1 ctx := by
  unfold update
  split
  · exact SameKey.refl ctx
  · exact updateBlocks_sameKey aes ctx input

theorem finish_sameKey (ctx : Ctx) (tagLen : Nat) :
    SameKey (finish ctx tagLen).2.1 ctx := by
  unfold finish
  split
  · exact SameKey.refl ctx
  · exact ⟨rfl, rfl, rfl⟩

/-- An operation keeps the key its context was set up for. -/
theorem cryptAndTag_sameKey
    (aes : BlockFunction) (ctx : Ctx) (mode : Mode)
    (iv add input : Bytes) (tagLen : Nat) :
    SameKey (cryptAndTag aes ctx mode iv add input tagLen).ctx ctx := by
  have started := starts_sameKey aes ctx mode iv add
  unfold cryptAndTag
  split
  next ctx' equal =>
      rw [equal] at started
      have updated := update_sameKey aes ctx' input
      split
      next ctx'' output equal' =>
          rw [equal'] at updated
          exact ((finish_sameKey ctx'' tagLen).trans updated).trans started
      next equal' =>
          rw [equal'] at updated
          exact updated.trans started
  next equal =>
      rw [equal] at started
      exact started

theorem authDecrypt_sameKey
    (aes : BlockFunction) (ctx : Ctx) (iv add tag input : Bytes) :
    SameKey (authDecrypt aes ctx iv add tag input).2.1 ctx := by
  have processed :=
    cryptAndTag_sameKey aes ctx .decrypt iv add input tag.length
  unfold authDecrypt
  dsimp only
  split
  · exact processed
  · split
    · exact processed
    · exact processed

/-! ## Opening inverts sealing -/

/-- The context with another direction. -/
def Ctx.withMode (ctx : Ctx) (mode : Mode) : Ctx :=
  { ctx with mode := mode }

theorem prepare_withMode
    (aes : BlockFunction) {ctx ctx' : Ctx} (same : SameKey ctx ctx')
    (mode mode' : Mode) (iv add : Bytes) :
    prepare aes ctx' mode' iv add =
      (prepare aes ctx mode iv add).withMode mode' := by
  simp only [prepare, Ctx.withMode, same.initialCounter, same.aesKey,
    same.hl, same.hh]

theorem absorbAdd_withMode (ctx : Ctx) (mode : Mode) (add : Bytes) :
    absorbAdd (ctx.withMode mode) add = (absorbAdd ctx add).withMode mode := by
  fun_induction absorbAdd ctx add with
  | case1 ctx add nonempty useLen buf buf' inductionHypothesis =>
      rw [absorbAdd, if_pos nonempty, ← inductionHypothesis]
      rfl
  | case2 ctx add empty => rw [absorbAdd, if_neg empty]

/-- Starting in the other direction differs only in the direction. -/
theorem starts_withMode
    (aes : BlockFunction) {ctx ctx' started : Ctx} (same : SameKey ctx ctx')
    {mode : Mode} (mode' : Mode) {iv add : Bytes}
    (start : starts aes ctx mode iv add = (.ok, started)) :
    starts aes ctx' mode' iv add = (.ok, started.withMode mode') := by
  unfold starts at start ⊢
  split at start
  · cases start
  next fits =>
      rw [if_neg fits]
      dsimp only at start ⊢
      rw [prepare_withMode aes same mode mode', absorbAdd_withMode]
      split at start
      next partialBlock =>
          cases start
          rw [if_pos (by exact partialBlock)]
          rfl
      next whole =>
          cases start
          rw [if_neg (by exact whole)]

theorem length_maskBlock
    (ectr : Octets 16) {block : Bytes} (short : block.length ≤ 16) :
    (maskBlock ectr block).length = block.length := by
  rw [maskBlock, List.length_zipWith, ectr.2]
  exact Nat.min_eq_right short

/-- A mask cancels itself. -/
theorem zipWith_xor_cancel {mask block : Bytes}
    (covered : block.length ≤ mask.length) :
    List.zipWith (· ^^^ ·) mask (List.zipWith (· ^^^ ·) mask block) =
      block := by
  induction mask generalizing block with
  | nil =>
      have empty : block = [] :=
        List.length_eq_zero_iff.mp (Nat.le_zero.mp covered)
      rw [empty]
      rfl
  | cons head mask inductionHypothesis =>
      cases block with
      | nil => rfl
      | cons octet block =>
          have rest : block.length ≤ mask.length := by simpa using covered
          rw [List.zipWith_cons_cons, List.zipWith_cons_cons,
            inductionHypothesis rest, ← UInt8.xor_assoc, UInt8.xor_self,
            UInt8.zero_xor]

/-- A keystream block masks its piece of the payload twice to no effect. -/
theorem maskBlock_maskBlock
    (ectr : Octets 16) {block : Bytes} (short : block.length ≤ 16) :
    maskBlock ectr (maskBlock ectr block) = block :=
  zipWith_xor_cancel (short.trans_eq ectr.2.symm)

theorem length_updateBlock
    (aes : BlockFunction) (ctx : Ctx) {block : Bytes}
    (short : block.length ≤ 16) :
    (updateBlock aes ctx block).2.length = block.length :=
  length_maskBlock _ short

@[simp] theorem length_updateBlocks
    (aes : BlockFunction) (ctx : Ctx) (input : Bytes) :
    (updateBlocks aes ctx input).2.length = input.length := by
  fun_induction updateBlocks aes ctx input with
  | case1 ctx input nonempty first rest inductionHypothesis =>
      have firstLength : first.2.length = (input.take 16).length :=
        length_updateBlock aes ctx (List.length_take_le _ _)
      rw [List.length_append, firstLength, inductionHypothesis,
        ← List.length_append, List.take_append_drop]
  | case2 ctx input empty =>
      rw [List.length_nil]
      omega

/-- The output consists of the first block and the rest. -/
theorem updateBlocks_split
    (aes : BlockFunction) (ctx : Ctx) (input : Bytes) :
    let first := updateBlock aes ctx (input.take 16)
    let rest := updateBlocks aes first.1 (input.drop 16)
    (first.2 ++ rest.2).take 16 = first.2 ∧
      (first.2 ++ rest.2).drop 16 = rest.2 := by
  intro first rest
  have firstLength : first.2.length = (input.take 16).length :=
    length_updateBlock aes ctx (List.length_take_le _ _)
  by_cases whole : 16 ≤ input.length
  · have full : first.2.length = 16 := by
      rw [firstLength, List.length_take, Nat.min_eq_left whole]
    exact ⟨List.take_left' full, List.drop_left' full⟩
  · have nothing : rest.2 = [] := by
      apply List.length_eq_zero_iff.mp
      rw [length_updateBlocks, List.length_drop]
      omega
    have shortOutput : first.2.length ≤ 16 := by
      rw [firstLength, List.length_take]
      omega
    rw [nothing, List.append_nil]
    exact ⟨List.take_of_length_le shortOutput,
      List.drop_eq_nil_of_le shortOutput⟩

/-- Decrypting an encrypted block yields it again and hashes the same
ciphertext. -/
theorem updateBlock_updateBlock
    (aes : BlockFunction) {ctx : Ctx} {block : Bytes}
    (sealing : ctx.mode = .encrypt) (short : block.length ≤ 16) :
    updateBlock aes (ctx.withMode .decrypt) (updateBlock aes ctx block).2 =
      ((updateBlock aes ctx block).1.withMode .decrypt, block) := by
  have sameMult : mult (ctx.withMode .decrypt) = mult ctx :=
    SameKey.mult ⟨rfl, rfl, rfl⟩
  have outLength := length_updateBlock aes ctx short
  have unmask :
      maskBlock (aes.encrypt ctx.aesKey (incrementCounter ctx.y))
          (updateBlock aes ctx block).2 =
        block :=
    maskBlock_maskBlock _ short
  simp only [updateBlock, Ctx.withMode] at unmask outLength sameMult ⊢
  simp only [unmask, outLength, sameMult, sealing, reduceCtorEq, if_true,
    if_false]

/-- Decrypting what was encrypted yields the payload again and hashes the same
ciphertext. -/
theorem updateBlocks_updateBlocks
    (aes : BlockFunction) (ctx : Ctx) (input : Bytes)
    (sealing : ctx.mode = .encrypt) :
    updateBlocks aes (ctx.withMode .decrypt) (updateBlocks aes ctx input).2 =
      ((updateBlocks aes ctx input).1.withMode .decrypt, input) := by
  fun_induction updateBlocks aes ctx input with
  | case1 ctx input nonempty first rest inductionHypothesis =>
      have firstLength : first.2.length = (input.take 16).length :=
        length_updateBlock aes ctx (List.length_take_le _ _)
      have nonemptyOutput : (first.2 ++ rest.2).length > 0 := by
        rw [List.length_append, firstLength, List.length_take]
        omega
      have split :
          (first.2 ++ rest.2).take 16 = first.2 ∧
            (first.2 ++ rest.2).drop 16 = rest.2 :=
        updateBlocks_split aes ctx input
      have opened :
          updateBlock aes (ctx.withMode .decrypt) first.2 =
            (first.1.withMode .decrypt, input.take 16) :=
        updateBlock_updateBlock aes sealing (List.length_take_le _ _)
      have openedRest :
          updateBlocks aes (first.1.withMode .decrypt) rest.2 =
            (rest.1.withMode .decrypt, input.drop 16) :=
        inductionHypothesis sealing
      rw [updateBlocks, if_pos nonemptyOutput]
      simp only [split.1, split.2, opened, openedRest,
        List.take_append_drop]
  | case2 ctx input empty =>
      have nil : input = [] := List.length_eq_zero_iff.mp (by omega)
      rw [updateBlocks, if_neg (by simp), nil]

theorem update_update
    (aes : BlockFunction) {ctx ctx' : Ctx} {input output : Bytes}
    (sealing : ctx.mode = .encrypt)
    (sealed : update aes ctx input = (.ok, ctx', output)) :
    update aes (ctx.withMode .decrypt) output =
      (.ok, ctx'.withMode .decrypt, input) := by
  unfold update at sealed ⊢
  split at sealed
  · cases sealed
  next fits =>
      cases sealed
      rw [length_updateBlocks, if_neg (by exact fits),
        updateBlocks_updateBlocks aes ctx input sealing]

theorem finish_withMode (ctx : Ctx) (mode : Mode) (tagLen : Nat) :
    (finish (ctx.withMode mode) tagLen).1 = (finish ctx tagLen).1 ∧
      (finish (ctx.withMode mode) tagLen).2.2 = (finish ctx tagLen).2.2 := by
  have sameMult : mult (ctx.withMode mode) = mult ctx :=
    SameKey.mult ⟨rfl, rfl, rfl⟩
  unfold finish
  split
  · exact ⟨rfl, rfl⟩
  · rw [sameMult]
    exact ⟨rfl, rfl⟩

/-- Equal tags are accepted. -/
theorem compareTag_self (tag : Bytes) :
    authDecrypt.compareTag tag tag = true := by
  have same : ∀ tag : Bytes, (List.zipWith (· ^^^ ·) tag tag).foldl
      (· ||| ·) (0 : UInt8) = 0 := by
    intro tag
    induction tag with
    | nil => rfl
    | cons octet tag inductionHypothesis =>
        rw [List.zipWith_cons_cons, List.foldl_cons, UInt8.xor_self,
          UInt8.or_self, inductionHypothesis]
  rw [authDecrypt.compareTag, same, beq_self_eq_true]

theorem starts_mode
    (aes : BlockFunction) {ctx started : Ctx} {mode : Mode} {iv add : Bytes}
    (start : starts aes ctx mode iv add = (.ok, started)) :
    started.mode = mode := by
  have same := starts_withMode aes (SameKey.refl ctx) mode start
  rw [start] at same
  exact congrArg (fun result => result.2.mode) same

theorem length_tag_of_ok
    {ctx ctx' : Ctx} {tag : Bytes} {tagLen : Nat}
    (finished : finish ctx tagLen = (.ok, ctx', tag)) :
    tag.length = tagLen := by
  unfold finish at finished
  split at finished
  · cases finished
  next size =>
      cases finished
      rw [List.length_take, (Octets.xor _ _).2]
      simp only [Bool.or_eq_true, decide_eq_true_eq] at size
      omega

/-- A sealed message is opened, under the same key, to the plaintext it was
sealed from. -/
theorem authDecrypt_cryptAndTag
    (aes : BlockFunction) {ctx ctx' : Ctx} (same : SameKey ctx ctx')
    {iv add input : Bytes} {tagLen : Nat}
    (sealed : (cryptAndTag aes ctx .encrypt iv add input tagLen).ret = .ok) :
    let result := cryptAndTag aes ctx .encrypt iv add input tagLen
    (authDecrypt aes ctx' iv add result.tag result.output).1 = .ok ∧
      (authDecrypt aes ctx' iv add result.tag result.output).2.2 = input := by
  intro result
  cases start : starts aes ctx .encrypt iv add with
  | mk ret started =>
      cases ret with
      | badInput => simp [cryptAndTag, start] at sealed
      | authFailed => simp [cryptAndTag, start] at sealed
      | ok =>
          cases process : update aes started input with
          | mk ret rest =>
              obtain ⟨processed, output⟩ := rest
              cases ret with
              | badInput => simp [cryptAndTag, start, process] at sealed
              | authFailed => simp [cryptAndTag, start, process] at sealed
              | ok =>
                  cases complete : finish processed tagLen with
                  | mk ret rest =>
                      obtain ⟨final, tag⟩ := rest
                      have resultEq :
                          result = { ret, ctx := final, output, tag } := by
                        simp only [result, cryptAndTag, start, process,
                          complete]
                      have retOk : ret = .ok := by
                        simpa only [cryptAndTag, start, process, complete]
                          using sealed
                      subst retOk
                      have tagLength := length_tag_of_ok complete
                      have openStart :=
                        starts_withMode aes same .decrypt start
                      have openProcess :=
                        update_update aes (starts_mode aes start) process
                      have openFinish :=
                        finish_withMode processed .decrypt tagLen
                      rw [complete] at openFinish
                      have opened :
                          cryptAndTag aes ctx' .decrypt iv add output
                              tag.length =
                            { ret := .ok
                              ctx :=
                                (finish (processed.withMode .decrypt)
                                  tagLen).2.1
                              output := input
                              tag := tag } := by
                        rw [cryptAndTag, openStart, tagLength]
                        dsimp only
                        rw [openProcess]
                        dsimp only
                        rw [openFinish.1, openFinish.2]
                      rw [resultEq]
                      simp only [authDecrypt, opened, compareTag_self]
                      exact ⟨rfl, rfl⟩

/-- The output of a successful operation is as long as its input. -/
theorem length_output_of_ok
    (aes : BlockFunction) {ctx : Ctx} {mode : Mode} {iv add input : Bytes}
    {tagLen : Nat}
    (ok : (cryptAndTag aes ctx mode iv add input tagLen).ret = .ok) :
    (cryptAndTag aes ctx mode iv add input tagLen).output.length =
      input.length := by
  revert ok
  unfold cryptAndTag
  rcases starts aes ctx mode iv add with ⟨ret, started⟩
  cases ret with
  | badInput => exact fun ok => Ret.noConfusion ok
  | authFailed => exact fun ok => Ret.noConfusion ok
  | ok =>
      dsimp only
      by_cases fits : started.len + input.length > 0xFFFFFFFE0
      · have result : update aes started input = (.badInput, started, []) :=
          if_pos fits
        rw [result]
        exact fun ok => Ret.noConfusion ok
      · have result :
            update aes started input =
              (.ok, updateBlocks aes started input) :=
          if_neg fits
        rw [result]
        exact fun _ => length_updateBlocks aes started input

/-- What a message opens to is as long as the message. -/
theorem length_authDecrypt_of_ok
    (aes : BlockFunction) {ctx : Ctx} {iv add tag input : Bytes}
    (ok : (authDecrypt aes ctx iv add tag input).1 = .ok) :
    (authDecrypt aes ctx iv add tag input).2.2.length = input.length := by
  unfold authDecrypt at ok ⊢
  dsimp only at ok ⊢
  split at ok
  next failed => exact absurd ok failed
  next succeeded =>
      rw [if_neg succeeded]
      split at ok
      next sameTag =>
          rw [if_pos sameTag]
          exact length_output_of_ok aes (not_not.mp succeeded)
      next => exact absurd ok Ret.noConfusion

/-! ## Results depend on the key only -/

/-- The context that setting a key up yields. -/
def keyed (aes : BlockFunction) (key : Bytes) : Ctx :=
  (setKey aes init key (key.length * 8)).2

theorem setKey_eq (aes : BlockFunction) {key : Bytes}
    (supported : keyBitsSupported (key.length * 8) = true) :
    setKey aes init key (key.length * 8) = (.ok, keyed aes key) := by
  unfold keyed setKey
  rw [if_neg (by simp [supported])]

theorem absorbAdd_len (ctx : Ctx) (add : Bytes) :
    (absorbAdd ctx add).len = ctx.len := by
  fun_induction absorbAdd ctx add with
  | case1 ctx add nonempty useLen buf buf' inductionHypothesis =>
      exact inductionHypothesis
  | case2 ctx add empty => rfl

section Success

variable (aes : BlockFunction) (ctx : Ctx) (mode : Mode) {iv add : Bytes}
  (ivPresent : iv.length ≠ 0) (ivFits : iv.length < 2 ^ 61)
  (addFits : add.length < 2 ^ 61)

include ivPresent ivFits addFits

/-- Admissible sizes are not refused. -/
theorem not_sizes_refused :
    ¬(iv.length = 0 || iv.length ≥ 2 ^ 61 || add.length ≥ 2 ^ 61) = true := by
  simp only [Bool.or_eq_true, decide_eq_true_eq, not_or, ge_iff_le, Nat.not_le]
  exact ⟨⟨ivPresent, ivFits⟩, addFits⟩

/-- An operation starts on an initialisation vector and additional data of
admissible sizes. -/
theorem exists_starts :
    ∃ started, starts aes ctx mode iv add = (.ok, started) ∧
      started.len = 0 := by
  unfold starts
  rw [if_neg (not_sizes_refused ivPresent ivFits addFits)]
  dsimp only
  split
  next => exact ⟨_, rfl, absorbAdd_len _ _⟩
  next => exact ⟨_, rfl, absorbAdd_len _ _⟩

/-- An operation on a payload of an admissible size succeeds, and its output is
as long as its input. -/
theorem cryptAndTag_ok {input : Bytes} (inputFits : input.length ≤ 0xFFFFFFFE0)
    {tagLen : Nat} (long : 4 ≤ tagLen) (short : tagLen ≤ 16) :
    (cryptAndTag aes ctx mode iv add input tagLen).ret = .ok ∧
      (cryptAndTag aes ctx mode iv add input tagLen).output.length =
        input.length ∧
      (cryptAndTag aes ctx mode iv add input tagLen).tag.length = tagLen := by
  obtain ⟨started, start, len⟩ :=
    exists_starts aes ctx mode ivPresent ivFits addFits
  have size : ¬(tagLen > 16 || tagLen < 4) = true := by
    simp only [Bool.or_eq_true, decide_eq_true_eq, not_or, gt_iff_lt,
      Nat.not_lt]
    exact ⟨short, long⟩
  unfold cryptAndTag
  rw [start]
  dsimp only
  rw [update, len, if_neg (by omega)]
  dsimp only
  rw [finish, if_neg size]
  refine ⟨rfl, length_updateBlocks aes started input, ?_⟩
  dsimp only
  rw [List.length_take, (Octets.xor _ _).2]
  exact Nat.min_eq_left short

/-- The result of an operation depends on the key only. -/
theorem SameKey.cryptAndTag {ctx' : Ctx} (same : SameKey ctx ctx')
    (input : Bytes) (tagLen : Nat) :
    cryptAndTag aes ctx mode iv add input tagLen =
      cryptAndTag aes ctx' mode iv add input tagLen := by
  obtain ⟨started, start, -⟩ :=
    exists_starts aes ctx mode ivPresent ivFits addFits
  have restart := starts_withMode aes same mode start
  have unchanged : started.withMode mode = started := by
    rw [← starts_mode aes start]
    rfl
  rw [unchanged] at restart
  rw [Gcm.cryptAndTag, Gcm.cryptAndTag, start, restart]

/-- Whether a message opens depends on the key only. -/
theorem SameKey.authDecrypt {ctx' : Ctx} (same : SameKey ctx ctx')
    (tag input : Bytes) :
    authDecrypt aes ctx iv add tag input =
      authDecrypt aes ctx' iv add tag input := by
  rw [Gcm.authDecrypt, Gcm.authDecrypt,
    same.cryptAndTag aes ctx .decrypt ivPresent ivFits addFits]

end Success

end Gcm

end Macsec
