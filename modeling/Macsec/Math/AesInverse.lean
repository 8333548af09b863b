import Mathlib.Data.List.GetD
import Mathlib.Tactic.IntervalCases
import Macsec.Math.AesRefinement

/-!
# Decryption

The rounds of decryption undo those of encryption in the opposite order.  Mixing
columns inversely undoes the mixing, and a round key can be moved through it:
that is what the key schedule for decryption does to the round keys in between.
-/

namespace Macsec

namespace Aes

/-! ## Columns -/

/-- Multiplying by a product of polynomials. -/
theorem wordProduct_wordProduct (a b w : Spec.Word) :
    Spec.wordProduct a (Spec.wordProduct b w) =
      Spec.wordProduct (Spec.wordProduct a b) w := by
  funext r
  apply element_injective
  simp only [Spec.wordProduct, element_xor, element_multiply]
  fin_cases r
  all_goals
    simp only [Fin.reduceFinMk, Fin.reduceSub, Fin.zero_eta, Fin.mk_one]
    ring

theorem wordProduct_one (w : Spec.Word) :
    Spec.wordProduct ![1, 0, 0, 0] w = w := by
  funext r
  apply element_injective
  simp only [Spec.wordProduct, element_xor, element_multiply]
  fin_cases r
  all_goals simp

/-- Mixing inversely undoes the mixing of a column. -/
theorem wordProduct_inverse (w : Spec.Word) :
    Spec.wordProduct Spec.invMixPolynomial
        (Spec.wordProduct Spec.mixPolynomial w) =
      w := by
  have one :
      Spec.wordProduct Spec.invMixPolynomial Spec.mixPolynomial =
        ![1, 0, 0, 0] := by
    decide +kernel
  rw [wordProduct_wordProduct, one, wordProduct_one]

theorem wordProduct_wordXor (a x y : Spec.Word) :
    Spec.wordProduct a (Spec.wordXor x y) =
      Spec.wordXor (Spec.wordProduct a x) (Spec.wordProduct a y) := by
  funext r
  apply element_injective
  simp only [Spec.wordProduct, Spec.wordXor, element_xor, element_multiply]
  ring

/-! ## The transformations -/

/-- Masking with a key twice changes nothing. -/
theorem addRoundKey_addRoundKey (key : Fin 4 → Spec.Word) (s : Spec.State) :
    Spec.addRoundKey key (Spec.addRoundKey key s) = s := by
  funext r c
  rw [Spec.addRoundKey, Spec.addRoundKey, UInt8.xor_assoc, UInt8.xor_self,
    UInt8.xor_zero]

/-- Substituting and shifting back. -/
theorem layer_inverse (s : Spec.State) :
    layer Spec.invSBox (fun column r => column - r)
        (layer Spec.sBox (fun column r => column + r) s) =
      s := by
  funext r c
  rw [layer, layer, invSBox_sBox, sub_add_cancel]

theorem mix_inverse (s : Spec.State) :
    mix Spec.invMixPolynomial (mix Spec.mixPolynomial s) = s := by
  funext r c
  exact congrFun (wordProduct_inverse fun row => s row c) r

/-- A round key with its columns mixed inversely. -/
def mixedKey (key : Fin 4 → Spec.Word) : Fin 4 → Spec.Word := fun c =>
  Spec.wordProduct Spec.invMixPolynomial (key c)

/-- A key is moved through the inverse mixing. -/
theorem mix_addRoundKey (key : Fin 4 → Spec.Word) (s : Spec.State) :
    mix Spec.invMixPolynomial (Spec.addRoundKey key s) =
      Spec.addRoundKey (mixedKey key) (mix Spec.invMixPolynomial s) := by
  funext r c
  exact
    congrFun
      (wordProduct_wordXor Spec.invMixPolynomial (fun row => s row c) (key c)) r

theorem load_store (s : Spec.State) : Spec.load (Spec.store s) = s := by
  funext r c
  fin_cases c
  all_goals
    fin_cases r
    all_goals rfl

theorem store_load (block : Octets 16) :
    Spec.store (Spec.load block) = block := by
  apply Subtype.ext
  apply List.ext_getElem
  · rw [(Spec.store (Spec.load block)).2, block.2]
  · intro i inside inBlock
    have octet :
        (Spec.store (Spec.load block)).1.getD i 0 = block.1.getD i 0 := by
      have small : i < 16 := block.2 ▸ inBlock
      interval_cases i
      all_goals rfl
    rwa [List.getD_eq_getElem _ 0 inside, List.getD_eq_getElem _ 0 inBlock]
      at octet

/-! ## The key schedule for decryption -/

/-- The lookups of the code mix a column inversely: the reverse tables undo the
substitution first. -/
theorem Tables.Correct.byte_invMixKey {tables : Tables}
    (correct : tables.Correct) (config : Config) (x : BitVec 32) :
    byte (invMixKey config tables x) =
      Spec.wordProduct Spec.invMixPolynomial (byte x) := by
  funext r
  rw [invMixKey, byte_xor, byte_xor, byte_xor]
  simp only [correct.byte_reverseTable, correct.forwardSBox, invSBox_sBox]
  rw [Spec.wordProduct, sub_zero]

/-- A word among groups of four. -/
theorem getD_flatMap {α : Type*} (group : Nat → List α)
    (four : ∀ number, (group number).length = 4) (value : α) (c : Fin 4)
    {numbers : List Nat} {i : Nat} (inside : i < numbers.length) :
    (numbers.flatMap group).getD (i * 4 + c) value =
      (group (numbers.getD i 0)).getD c value := by
  induction numbers generalizing i with
  | nil => exact absurd inside (Nat.not_lt_zero _)
  | cons number numbers inductionHypothesis =>
      rw [List.flatMap_cons]
      cases i with
      | zero =>
          rw [Nat.zero_mul, Nat.zero_add, List.getD_append _ _ _ _ (by
            rw [four]
            exact c.isLt)]
          rfl
      | succ i =>
          have behind : (group number).length ≤ (i + 1) * 4 + c := by
            rw [four]
            omega
          have place : (i + 1) * 4 + c - (group number).length = i * 4 + c := by
            rw [four]
            omega
          rw [List.getD_append_right _ _ _ _ behind, place,
            inductionHypothesis (Nat.lt_of_succ_lt_succ inside),
            List.getD_cons_succ]

/-- The four words of the schedule for decryption that come from those for a
round of encryption. -/
def undoingWords (config : Config) (tables : Tables)
    (source : List (BitVec 32)) (last number : Nat) : List (BitVec 32) :=
  if number = 0 ∨ number = last then
    keyWordsAt source number
  else
    (keyWordsAt source number).map (invMixKey config tables)

/-- The code writes the groups in the opposite order. -/
theorem flatMap_undoingWords (config : Config) (tables : Tables)
    (source : List (BitVec 32)) (middle : Nat) :
    (List.range (middle + 2)).reverse.flatMap
        (undoingWords config tables source (middle + 1)) =
      keyWordsAt source (middle + 1) ++
          ((List.range' 1 middle).reverse.flatMap fun round =>
            (keyWordsAt source round).map (invMixKey config tables)) ++
        keyWordsAt source 0 := by
  have numbers :
      (List.range (middle + 2)).reverse =
        (middle + 1) :: ((List.range' 1 middle).reverse ++ [0]) := by
    rw [List.range_eq_range', List.range'_succ, List.range'_1_concat,
      List.reverse_cons, List.reverse_append, Nat.add_comm 0 1,
      Nat.add_comm 1 middle]
    rfl
  have between :
      (List.range' 1 middle).reverse.flatMap
          (undoingWords config tables source (middle + 1)) =
        (List.range' 1 middle).reverse.flatMap fun round =>
          (keyWordsAt source round).map (invMixKey config tables) := by
    apply List.flatMap_congr
    intro round member
    rw [List.mem_reverse, List.mem_range'_1] at member
    exact if_neg (by omega)
  rw [numbers, List.flatMap_cons, List.flatMap_append, between,
    List.flatMap_cons, List.flatMap_nil, List.append_nil, undoingWords,
    if_pos (Or.inr rfl), undoingWords, if_pos (Or.inl rfl), List.append_assoc]

theorem length_undoingWords (config : Config) (tables : Tables)
    (source : List (BitVec 32)) (last number : Nat) :
    (undoingWords config tables source last number).length = 4 := by
  rw [undoingWords]
  split
  next => simp [keyWordsAt]
  next => simp [keyWordsAt]

/-- The round keys of the schedule for decryption. -/
theorem Tables.Correct.roundKey_undoing {tables : Tables}
    (correct : tables.Correct) (config : Config) (source : List (BitVec 32))
    {last round : Nat} (inside : round ≤ last) :
    roundKey
        ((List.range (last + 1)).reverse.flatMap
          (undoingWords config tables source last))
        round =
      Alternation.undoing mixedKey (roundKey source) last round := by
  funext c
  have number : (List.range (last + 1)).reverse.getD round 0 = last - round := by
    have within : round < (List.range (last + 1)).reverse.length := by
      rw [List.length_reverse, List.length_range]
      omega
    rw [List.getD_eq_getElem _ 0 within, List.getElem_reverse,
      List.getElem_range, List.length_range]
    omega
  have word (number : Nat) :
      (keyWordsAt source number)[c.val]? =
        some (source.getD (number * 4 + c) 0) := by
    simp [keyWordsAt]
  rw [roundKey,
    getD_flatMap _ (length_undoingWords config tables source last) 0 c (by
      rw [List.length_reverse, List.length_range]
      omega),
    number, undoingWords, Alternation.undoing]
  have ends :
      last - round = 0 ∨ last - round = last ↔ round = 0 ∨ round = last := by
    omega
  simp only [ends]
  split
  next =>
    rw [List.getD_eq_getElem?_getD, word]
    rfl
  next =>
    rw [List.getD_eq_getElem?_getD, List.getElem?_map, word]
    exact correct.byte_invMixKey config _

/-- What the setup of a supported key for decryption leaves behind, in terms of
its setup for encryption. -/
structure Setup.Undoes (forward setup : Setup) : Prop where
  ret : setup.ret = 0
  rounds : setup.ctx.numberOfRounds = forward.ctx.numberOfRounds
  keys :
    ∀ round ≤ forward.ctx.numberOfRounds,
      roundKey setup.ctx.roundKeys round =
        Alternation.undoing mixedKey (roundKey forward.ctx.roundKeys)
          forward.ctx.numberOfRounds round

theorem setdeckey_undoes {config : Config} {shared : Shared}
    (valid : shared.Valid config) (logs : Logs) (ctx : Ctx) {key : Bytes}
    {keyBits : Nat} (supported : keyBitsSupported keyBits)
    (length : key.length * 8 = keyBits) :
    Setup.Undoes (setenckey config logs shared init key keyBits)
      (setdeckey config logs shared ctx key keyBits) := by
  have ready :=
    setenckey_ready valid logs init supported length
  have correct :
      (setenckey config logs shared init key keyBits).shared.tables.Correct := by
    rw [shared_setenckey]
    exact (valid.prepare logs).2
  obtain ⟨middle, rounds⟩ :
      ∃ middle,
        (setenckey config logs shared init key keyBits).ctx.numberOfRounds =
          middle + 1 :=
    ⟨key.length / 4 + 5, ready.rounds⟩
  rw [setdeckey, if_pos ready.ret]
  refine ⟨ready.ret, rfl, ?_⟩
  intro round inside
  have keys := correct.roundKey_undoing config
    (setenckey config logs shared init key keyBits).ctx.roundKeys inside
  rw [rounds, flatMap_undoingWords] at keys
  dsimp only
  rw [rounds, Nat.add_sub_cancel]
  exact keys

/-! ## Decryption -/

/-- With correct tables, decryption under a schedule that undoes another one
undoes the cipher. -/
theorem decrypt_encrypt (config : Config) {tables : Tables}
    (correct : tables.Correct) {forward setup : Setup}
    (undoes : forward.Undoes setup)
    (positive : 0 < forward.ctx.numberOfRounds) (otherConfig : Config)
    {otherTables : Tables} (otherCorrect : otherTables.Correct)
    (block : Octets 16) :
    decrypt config tables setup.ctx
        (encrypt otherConfig otherTables forward.ctx block) =
      block := by
  have forwardSBox : forwardOctet otherTables = Spec.sBox :=
    funext otherCorrect.forwardSBox
  have reverseSBox : reverseOctet tables = Spec.invSBox :=
    funext correct.reverseSBox
  rw [encrypt, decrypt, forwardSBox, reverseSBox,
    crypt_eq (otherCorrect.byte_forwardTable otherConfig),
    crypt_eq (correct.byte_reverseTable config), load_store, undoes.rounds,
    Alternation.cipher_congr _ _ _ undoes.keys,
    Alternation.cipher_undoing addRoundKey_addRoundKey layer_inverse
      mix_inverse mix_addRoundKey _ positive,
    store_load]

/-- The schedule of a key does not depend on the tables it was expanded
with. -/
theorem Setup.Ready.ctx_eq {key : Bytes} {first second : Setup}
    (firstReady : first.Ready key) (secondReady : second.Ready key) :
    first.ctx = second.ctx := by
  have octets : Function.Injective byte := fun x y same =>
    word_ext (congrFun same)
  apply Ctx.ext
  · apply List.map_injective_iff.mpr octets
    rw [firstReady.words, secondReady.words]
  · rw [firstReady.rounds, secondReady.rounds]

theorem Session.decrypt_encrypt (encryption decryption : Session) {key : Bytes}
    {keyBits : Nat} (supported : keyBitsSupported keyBits)
    (length : key.length * 8 = keyBits) (block : Octets 16) :
    decryption.decrypt key keyBits (encryption.encrypt key keyBits block) =
      block := by
  have ready := encryption.ready supported length
  have otherReady :=
    setenckey_ready decryption.valid_shared decryption.logs init supported
      length
  have undoes :=
    setdeckey_undoes decryption.valid_shared decryption.logs decryption.ctx
      supported length
  have positive : 0 < (encryption.setenckey key keyBits).ctx.numberOfRounds := by
    rw [ready.rounds]
    omega
  have schedule := ready.ctx_eq otherReady
  apply Aes.decrypt_encrypt decryption.config
    (decryption.correct_tables (shared_setdeckey _ _ _ _ _ _)) _ positive
    encryption.config
    (encryption.correct_tables (shared_setenckey _ _ _ _ _ _))
  constructor
  · exact undoes.ret
  · rw [schedule]
    exact undoes.rounds
  · rw [schedule]
    exact undoes.keys

/-- Under every build option, whatever keys were set up before and in between,
decryption under the schedule of a supported key inverts encryption under the
schedule of the same key, and encryption inverts decryption. -/
theorem decrypt_inverts_encrypt (encryption decryption : Session) {key : Bytes}
    {keyBits : Nat} (supported : keyBitsSupported keyBits)
    (length : key.length * 8 = keyBits) (block : Octets 16) :
    (encryption.setenckey key keyBits).ret = 0 ∧
      (decryption.setdeckey key keyBits).ret = 0 ∧
      decryption.decrypt key keyBits
          (encryption.encrypt key keyBits block) = block ∧
      encryption.encrypt key keyBits
          (decryption.decrypt key keyBits block) = block := by
  have decrypts : Function.LeftInverse (decryption.decrypt key keyBits)
      (encryption.encrypt key keyBits) :=
    encryption.decrypt_encrypt decryption supported length
  have surjective : Function.Surjective (encryption.encrypt key keyBits) :=
    Finite.surjective_of_injective decrypts.injective
  have encrypts := decrypts.rightInverse_of_surjective surjective
  refine ⟨?_, ?_, decrypts block, encrypts block⟩
  · exact (encryption.ready supported length).ret
  · exact (setdeckey_undoes decryption.valid_shared decryption.logs
      decryption.ctx supported length).ret

/-- With generated tables on one side and constant ones on the other. -/
theorem decrypt_inverts_encrypt_across_builds :
    let logs : Logs :=
      { pow := Vector.replicate 256 0, log := Vector.replicate 256 0 }
    let encryption : Session :=
      { config := { romTables := false, fewerTables := true }
        earlier := [], logs, ctx := init, later := [] }
    let decryption : Session :=
      { config := { romTables := true, fewerTables := false }
        earlier := [], logs, ctx := init, later := [] }
    let key : Bytes := List.replicate 32 0x2B
    let block : Octets 16 := Octets.zero 16
    (encryption.setenckey key 256).ret = 0 ∧
      (decryption.setdeckey key 256).ret = 0 ∧
      decryption.decrypt key 256 (encryption.encrypt key 256 block) = block ∧
      encryption.encrypt key 256 (decryption.decrypt key 256 block) = block := by
  intro logs encryption decryption key block
  exact
    @decrypt_inverts_encrypt encryption decryption key 256 (by decide)
      (by decide) block

/-! ## The block cipher -/

/-- The code as a block cipher: with sessions for encryption and decryption, and
every block left as it is under a key that no schedule accepts. -/
def Session.blockCipher (encryption decryption : Session) : BlockCipher where
  encrypt key block :=
    if keyBitsSupported (key.length * 8) then
      encryption.encrypt key (key.length * 8) block
    else
      block
  decrypt key block :=
    if keyBitsSupported (key.length * 8) then
      decryption.decrypt key (key.length * 8) block
    else
      block
  decrypt_encrypt key block := by
    split
    next supported =>
      exact encryption.decrypt_encrypt decryption supported rfl block
    next => rfl

/-- Under a supported key it is the cipher of the standard. -/
theorem Session.blockCipher_encrypt (encryption decryption : Session)
    {key : Bytes} (supported : keyBitsSupported (key.length * 8)) :
    (encryption.blockCipher decryption).encrypt key = Spec.encrypt key := by
  funext block
  change (if _ then _ else _) = _
  rw [if_pos supported, encryption.encrypt_eq supported rfl]

end Aes

end Macsec
