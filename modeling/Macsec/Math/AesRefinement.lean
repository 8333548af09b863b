import Macsec.Foundation.Alternation
import Macsec.Math.AesGeneration

/-!
# The cipher against FIPS-197

The words of the code are the columns of the state.  A merged round is the
substitution and the shift, the mixing and the mask in one, and the words of the
schedule are those of the key expansion.
-/

namespace Macsec

namespace Aes

/-! ## States in words -/

/-- The state that four words hold: one column each. -/
def columns (words : Vector (BitVec 32) 4) : Spec.State := fun r c =>
  byte (words.get c) r

/-- A round key of a schedule of words. -/
def roundKey (roundKeys : List (BitVec 32)) (round : Nat) :
    Fin 4 → Spec.Word := fun c =>
  byte (roundKeys.getD (round * 4 + c) 0)

/-- Substitute the octets of the state, and take those of every row from other
columns. -/
def layer (octet : UInt8 → UInt8) (source : Fin 4 → Fin 4 → Fin 4)
    (s : Spec.State) : Spec.State := fun r c =>
  octet (s r (source c r))

/-- Multiply every column by a polynomial. -/
def mix (coefficients : Spec.Word) (s : Spec.State) : Spec.State := fun r c =>
  Spec.wordProduct coefficients (fun row => s row c) r

theorem byte_getLe32 (p : Bytes) (index : Nat) (r : Fin 4) :
    byte (getLe32 p index) r = p.octetAt (index + r) := by
  rw [getLe32, byte_u32]
  fin_cases r <;> rfl

/-- A column of a merged round. -/
theorem byte_roundWord {table : Fin 4 → UInt8 → BitVec 32}
    {octet : UInt8 → UInt8} {coefficients : Spec.Word}
    (products : ∀ k b r,
      byte (table k b) r = multiply (coefficients (r - k)) (octet b))
    (rk : BitVec 32) (taken : Fin 4 → BitVec 32) (r : Fin 4) :
    byte (roundWord table rk (taken 0) (taken 1) (taken 2) (taken 3)) r =
      Spec.wordProduct coefficients (fun row => octet (byte (taken row) row))
          r ^^^
        byte rk r := by
  rw [roundWord, byte_xor, byte_xor, byte_xor, byte_xor, products, products,
    products, products, Spec.wordProduct, sub_zero, UInt8.xor_comm _ (byte rk r),
    UInt8.xor_assoc, UInt8.xor_assoc, UInt8.xor_assoc, UInt8.xor_assoc,
    UInt8.xor_assoc]

/-- A column of the final round. -/
theorem byte_finalWord (octet : UInt8 → UInt8) (rk : BitVec 32)
    (taken : Fin 4 → BitVec 32) (r : Fin 4) :
    byte (finalWord octet rk (taken 0) (taken 1) (taken 2) (taken 3)) r =
      octet (byte (taken r) r) ^^^ byte rk r := by
  rw [finalWord, byte_xor, byte_u32, UInt8.xor_comm]
  fin_cases r <;> rfl

/-- The octets of the words, one after the other. -/
theorem store_columns (words : Vector (BitVec 32) 4) :
    (Spec.store (columns words)).1 =
      (List.finRange 4).flatMap fun column => putLe32 (words.get column) :=
  rfl

/-- The rounds on words are rounds on the state. -/
theorem crypt_eq {table : Fin 4 → UInt8 → BitVec 32} {octet : UInt8 → UInt8}
    {coefficients : Spec.Word}
    (products : ∀ k b r,
      byte (table k b) r = multiply (coefficients (r - k)) (octet b))
    (source : Fin 4 → Fin 4 → Fin 4) (ctx : Ctx) (input : Octets 16) :
    crypt table octet source ctx input =
      Spec.store
        (Alternation.cipher Spec.addRoundKey (layer octet source)
          (mix coefficients) (roundKey ctx.roundKeys) ctx.numberOfRounds
          (Spec.load input)) := by
  have start :
      columns
          (Vector.ofFn fun column : Fin 4 =>
            getLe32 input.1 (column * 4) ^^^
              ctx.roundKeys.getD (0 * 4 + column) 0) =
        Spec.addRoundKey (roundKey ctx.roundKeys 0) (Spec.load input) := by
    funext r c
    rw [columns, get_ofFn, byte_xor, byte_getLe32, Nat.add_comm, Nat.mul_comm]
    rfl
  have round (words : Vector (BitVec 32) 4) (number : Nat) :
      Spec.addRoundKey (roundKey ctx.roundKeys number)
          (mix coefficients (layer octet source (columns words))) =
        columns
          (Vector.ofFn fun column : Fin 4 =>
            roundWord table (ctx.roundKeys.getD (number * 4 + column) 0)
              (words.get (source column 0)) (words.get (source column 1))
              (words.get (source column 2)) (words.get (source column 3))) := by
    funext r c
    rw [columns, get_ofFn,
      byte_roundWord products _ fun row => words.get (source c row)]
    rfl
  have final (words : Vector (BitVec 32) 4) (number : Nat) :
      Spec.addRoundKey (roundKey ctx.roundKeys number)
          (layer octet source (columns words)) =
        columns
          (Vector.ofFn fun column : Fin 4 =>
            finalWord octet (ctx.roundKeys.getD (number * 4 + column) 0)
              (words.get (source column 0)) (words.get (source column 1))
              (words.get (source column 2)) (words.get (source column 3))) := by
    funext r c
    rw [columns, get_ofFn,
      byte_finalWord octet _ fun row => words.get (source c row)]
    rfl
  apply Subtype.ext
  rw [Alternation.cipher, ← Alternation.foldl_eq_rounds, ← start,
    List.foldl_hom columns round, final, store_columns]
  rfl

/-! ## The key expansion -/

theorem Tables.Correct.byte_subword {tables : Tables}
    (correct : tables.Correct) (x : BitVec 32) :
    byte (subword tables x) = Spec.subWord (byte x) := by
  funext r
  rw [subword, byte_u32]
  simp only [correct.forwardSBox]
  fin_cases r <;> rfl

theorem Tables.Correct.byte_subwordRot {tables : Tables}
    (correct : tables.Correct) (x : BitVec 32) :
    byte (subwordRot tables x) = Spec.subWord (Spec.rotWord (byte x)) := by
  funext r
  rw [subwordRot, byte_u32]
  simp only [correct.forwardSBox]
  fin_cases r <;> rfl

theorem byte_zero : byte 0 = 0 := by
  funext r
  fin_cases r <;> rfl

theorem getD_map_byte (words : List (BitVec 32)) (i : Nat) :
    (words.map byte).getD i 0 = byte (words.getD i 0) := by
  rw [List.getD_eq_getElem?_getD, List.getD_eq_getElem?_getD,
    List.getElem?_map]
  cases words[i]? with
  | none => exact byte_zero.symm
  | some word => rfl

theorem byte_xor_word (x y : BitVec 32) :
    byte (x ^^^ y) = Spec.wordXor (byte x) (byte y) :=
  funext (byte_xor x y)

/-- The numbers of words of a key. -/
def KeyWords (nk : Nat) : Prop :=
  nk = 4 ∨ nk = 6 ∨ nk = 8

/-- The code expands a key to the words of the key expansion. -/
theorem Tables.Correct.expandKey_eq {tables : Tables}
    (correct : tables.Correct) {nk : Nat} (keyWords : KeyWords nk)
    (key : Bytes) {done count : Nat} {words : List (BitVec 32)}
    (expanded : words.map byte = Spec.keyExpansion nk key done)
    (length : words.length = nk + done)
    (inside : nk + done + count ≤ 4 * (nk + 7)) :
    (expandKey tables nk count words).map byte =
      Spec.keyExpansion nk key (done + count) := by
  induction count generalizing done words with
  | zero => exact expanded
  | succ count inductionHypothesis =>
      rw [expandKey, Nat.add_comm count, ← Nat.add_assoc]
      apply inductionHypothesis
      · rw [List.map_append, expanded, List.map_cons, List.map_nil,
          Spec.keyExpansion]
        congr 2
        rw [Spec.nextWord, byte_xor_word, ← expanded, List.length_map,
          getD_map_byte, getD_map_byte]
        congr 1
        by_cases first : words.length % nk = 0
        · have number : words.length / nk - 1 < 10 := by
            rcases keyWords with rfl | rfl | rfl <;> omega
          have positive : 1 ≤ words.length / nk := by
            rcases keyWords with rfl | rfl | rfl <;> omega
          have index :
              (Fin.ofNat 10 (words.length / nk - 1)).val + 1 =
                words.length / nk := by
            rw [Fin.val_ofNat, Nat.mod_eq_of_lt number,
              Nat.sub_add_cancel positive]
          rw [if_pos first, if_pos first, byte_xor_word,
            correct.byte_subwordRot, correct.rcon, index]
        · have size : nk = 8 ↔ nk > 6 := by
            rcases keyWords with rfl | rfl | rfl <;> decide
          rw [if_neg first, if_neg first]
          simp only [size]
          split
          next => exact correct.byte_subword _
          next => rfl
      · rw [List.length_append, length]
        rfl
      · omega

/-- The words of the key itself. -/
theorem map_byte_key (nk : Nat) (key : Bytes) :
    ((List.range nk).map fun i => getLe32 key (i * 4)).map byte =
      Spec.keyExpansion nk key 0 := by
  rw [List.map_map, Spec.keyExpansion]
  apply List.map_congr_left
  intro i _
  funext r
  rw [Function.comp, byte_getLe32, Spec.keyWord, Nat.mul_comm]

/-! ## Key setups -/

/-- The numbers of a supported key size, in terms of the words of the key. -/
theorem keySizes_eq {key : Bytes} {keyBits : Nat}
    (supported : keyBitsSupported keyBits) (length : key.length * 8 = keyBits) :
    KeyWords (key.length / 4) ∧
      keySizes keyBits = some (key.length / 4, key.length / 4 + 6) := by
  rw [keyBitsSupported, Bool.or_eq_true, Bool.or_eq_true, beq_iff_eq,
    beq_iff_eq, beq_iff_eq] at supported
  rcases supported with (rfl | rfl) | rfl
  · have words : key.length = 16 := by omega
    rw [words]
    exact ⟨Or.inl rfl, rfl⟩
  · have words : key.length = 24 := by omega
    rw [words]
    exact ⟨Or.inr (Or.inl rfl), rfl⟩
  · have words : key.length = 32 := by omega
    rw [words]
    exact ⟨Or.inr (Or.inr rfl), rfl⟩

/-- What the setup of a supported key leaves behind. -/
structure Setup.Ready (key : Bytes) (setup : Setup) : Prop where
  ret : setup.ret = 0
  rounds : setup.ctx.numberOfRounds = key.length / 4 + 6
  words :
    setup.ctx.roundKeys.map byte =
      Spec.keyExpansion (key.length / 4) key
        (4 * (key.length / 4 + 6 + 1) - key.length / 4)

theorem setenckey_ready {config : Config} {shared : Shared}
    (valid : shared.Valid config) (logs : Logs) (ctx : Ctx) {key : Bytes}
    {keyBits : Nat} (supported : keyBitsSupported keyBits)
    (length : key.length * 8 = keyBits) :
    (setenckey config logs shared ctx key keyBits).Ready key := by
  obtain ⟨keyWords, sizes⟩ := keySizes_eq supported length
  have correct := (valid.prepare logs).2
  have expanded :=
    correct.expandKey_eq keyWords key (map_byte_key (key.length / 4) key)
      (by rw [List.length_map, List.length_range, Nat.add_zero])
      (show key.length / 4 + 0 +
          (4 * (key.length / 4 + 6 + 1) - key.length / 4) ≤ _ by omega)
  rw [Nat.zero_add] at expanded
  rw [setenckey, sizes]
  exact ⟨rfl, rfl, expanded⟩

/-- The round keys are those of the standard. -/
theorem roundKey_eq (roundKeys : List (BitVec 32)) :
    roundKey roundKeys = Spec.roundKey (roundKeys.map byte) := by
  funext round c
  rw [roundKey, Spec.roundKey, getD_map_byte, Nat.mul_comm]

/-- The cipher alternates its transformations with the round keys. -/
theorem cipher_eq (nr : Nat) (w : List Spec.Word) (s : Spec.State) :
    Spec.cipher nr w s =
      Alternation.cipher Spec.addRoundKey
        (layer Spec.sBox fun column r => column + r)
        (mix Spec.mixPolynomial) (Spec.roundKey w) nr s := by
  rw [Alternation.cipher, ← Alternation.foldl_eq_rounds]
  rfl

/-- With correct tables and a schedule of the key, encryption is the cipher. -/
theorem encrypt_eq (config : Config) {tables : Tables}
    (correct : tables.Correct) {key : Bytes} {setup : Setup}
    (ready : setup.Ready key) (block : Octets 16) :
    encrypt config tables setup.ctx block = Spec.encrypt key block := by
  have octet : forwardOctet tables = Spec.sBox := funext correct.forwardSBox
  rw [encrypt, octet, crypt_eq (correct.byte_forwardTable config),
    roundKey_eq, ready.words, ready.rounds, Spec.encrypt, cipher_eq]

/-! ## Runs -/

/-- A call of a key setup function. -/
structure KeySetup where
  decryption : Bool
  logs : Logs
  ctx : Ctx
  key : Bytes
  keyBits : Nat

/-- What the call leaves behind. -/
def KeySetup.call (config : Config) (shared : Shared) (setup : KeySetup) :
    Setup :=
  if setup.decryption then
    setdeckey config setup.logs shared setup.ctx setup.key setup.keyBits
  else
    setenckey config setup.logs shared setup.ctx setup.key setup.keyBits

/-- The static variables after calls of the key setup functions. -/
def Shared.after (config : Config) (setups : List KeySetup) (shared : Shared) :
    Shared :=
  setups.foldl (fun shared setup => (setup.call config shared).shared) shared

/-- The surroundings of a key setup: the build options, the key setups before
it, its buffers, and the key setups between it and the use of the key. -/
structure Session where
  config : Config
  earlier : List KeySetup
  logs : Logs
  ctx : Ctx
  later : List KeySetup

namespace Session

/-- The static variables at the key setup. -/
def shared (session : Session) : Shared :=
  (Shared.start session.config).after session.config session.earlier

/-- The key setup for encryption in a session. -/
def setenckey (session : Session) (key : Bytes) (keyBits : Nat) : Setup :=
  Aes.setenckey session.config session.logs session.shared session.ctx key
    keyBits

/-- The key setup for decryption in a session. -/
def setdeckey (session : Session) (key : Bytes) (keyBits : Nat) : Setup :=
  Aes.setdeckey session.config session.logs session.shared session.ctx key
    keyBits

/-- The tables at the use of the key. -/
def tables (session : Session) (setup : Setup) : Tables :=
  (setup.shared.after session.config session.later).tables

/-- Encrypt a block under the schedule of a key. -/
def encrypt (session : Session) (key : Bytes) (keyBits : Nat)
    (block : Octets 16) : Octets 16 :=
  let setup := session.setenckey key keyBits
  Aes.encrypt session.config (session.tables setup) setup.ctx block

/-- Decrypt a block under the schedule of a key. -/
def decrypt (session : Session) (key : Bytes) (keyBits : Nat)
    (block : Octets 16) : Octets 16 :=
  let setup := session.setdeckey key keyBits
  Aes.decrypt session.config (session.tables setup) setup.ctx block

end Session

theorem shared_setenckey (config : Config) (logs : Logs) (shared : Shared)
    (ctx : Ctx) (key : Bytes) (keyBits : Nat) :
    (setenckey config logs shared ctx key keyBits).shared =
      shared.prepare config logs := by
  rw [setenckey]
  split
  next => rfl
  next => rfl

theorem shared_setdeckey (config : Config) (logs : Logs) (shared : Shared)
    (ctx : Ctx) (key : Bytes) (keyBits : Nat) :
    (setdeckey config logs shared ctx key keyBits).shared =
      shared.prepare config logs := by
  rw [setdeckey]
  split
  next => exact shared_setenckey config logs shared init key keyBits
  next => exact shared_setenckey config logs shared init key keyBits

theorem KeySetup.shared_call (config : Config) (shared : Shared)
    (setup : KeySetup) :
    (setup.call config shared).shared = shared.prepare config setup.logs := by
  rw [KeySetup.call]
  split
  next => exact shared_setdeckey _ _ _ _ _ _
  next => exact shared_setenckey _ _ _ _ _ _

/-- Key setups change the static variables by preparing the tables only. -/
theorem Shared.after_invariant {config : Config} (invariant : Shared → Prop)
    (prepares : ∀ shared logs,
      invariant shared → invariant (shared.prepare config logs))
    (setups : List KeySetup) {shared : Shared} (start : invariant shared) :
    invariant (shared.after config setups) := by
  induction setups generalizing shared with
  | nil => exact start
  | cons setup setups inductionHypothesis =>
      apply inductionHypothesis
      change invariant (setup.call config shared).shared
      rw [setup.shared_call]
      exact prepares shared setup.logs start

namespace Session

theorem valid_shared (session : Session) :
    session.shared.Valid session.config :=
  Shared.after_invariant (Shared.Valid session.config)
    (fun _ logs valid => (valid.prepare logs).1) session.earlier
    (Shared.valid_start session.config)

/-- At the use of a key the tables are correct. -/
theorem correct_tables (session : Session) {setup : Setup}
    (prepared : setup.shared =
      session.shared.prepare session.config session.logs) :
    (session.tables setup).Correct := by
  have kept :=
    Shared.after_invariant
      (fun shared => shared.Valid session.config ∧ shared.tables.Correct)
      (fun _ logs before => before.1.prepare logs) session.later
      (session.valid_shared.prepare session.logs)
  rw [← prepared] at kept
  exact kept.2

end Session

theorem Session.ready (session : Session) {key : Bytes} {keyBits : Nat}
    (supported : keyBitsSupported keyBits)
    (length : key.length * 8 = keyBits) :
    (session.setenckey key keyBits).Ready key :=
  setenckey_ready session.valid_shared session.logs session.ctx supported length

theorem Session.encrypt_eq (session : Session) {key : Bytes} {keyBits : Nat}
    (supported : keyBitsSupported keyBits)
    (length : key.length * 8 = keyBits) (block : Octets 16) :
    session.encrypt key keyBits block = Spec.encrypt key block :=
  Aes.encrypt_eq session.config
    (session.correct_tables (shared_setenckey _ _ _ _ _ _))
    (session.ready supported length) block

/-- Under every build option, whatever keys were set up before and in between,
encryption under the schedule of a supported key is the cipher of the
standard. -/
theorem encrypt_meets_specification (session : Session) {key : Bytes}
    {keyBits : Nat} (supported : keyBitsSupported keyBits)
    (length : key.length * 8 = keyBits) (block : Octets 16) :
    (session.setenckey key keyBits).ret = 0 ∧
      session.encrypt key keyBits block = Spec.encrypt key block := by
  constructor
  · exact (session.ready supported length).ret
  · exact session.encrypt_eq supported length block

/-- The cipher example of the standard. -/
theorem encrypt_example :
    let session : Session :=
      { config := { romTables := true, fewerTables := true }
        earlier := []
        logs :=
          { pow := Vector.replicate 256 0, log := Vector.replicate 256 0 }
        ctx := init
        later := [] }
    let key : Bytes :=
      [0x2B, 0x7E, 0x15, 0x16, 0x28, 0xAE, 0xD2, 0xA6, 0xAB, 0xF7, 0x15, 0x88,
        0x09, 0xCF, 0x4F, 0x3C]
    let block : Octets 16 :=
      ⟨[0x32, 0x43, 0xF6, 0xA8, 0x88, 0x5A, 0x30, 0x8D, 0x31, 0x31, 0x98, 0xA2,
        0xE0, 0x37, 0x07, 0x34], rfl⟩
    let encrypted : Bytes :=
      [0x39, 0x25, 0x84, 0x1D, 0x02, 0xDC, 0x09, 0xFB, 0xDC, 0x11, 0x85, 0x97,
        0x19, 0x6A, 0x0B, 0x32]
    (session.setenckey key 128).ret = 0 ∧
      (session.encrypt key 128 block).1 = encrypted ∧
      (Spec.encrypt key block).1 = encrypted := by
  intro session key block encrypted
  have meets :=
    @encrypt_meets_specification session key 128 (by decide) (by decide) block
  have evaluated : (session.encrypt key 128 block).1 = encrypted := by
    decide +kernel
  refine ⟨meets.1, evaluated, ?_⟩
  rw [← meets.2, evaluated]

end Aes

end Macsec
