import Macsec.Math.AesRom
import Macsec.Math.BlockCipher
import Macsec.Math.ByteField

/-!
# AES

The cipher of `math/aes.c`: its tables, which are constants or generated at the
first key expansion, the key schedules for both directions and the merged rounds
on words.  Words hold a column of the state, its first octet least significant.
-/

namespace Macsec

namespace Aes

/-! ## Words -/

/-- Octet `r` of a word: `AES_BYTE0` to `AES_BYTE3`. -/
def byte (x : BitVec 32) (r : Fin 4) : UInt8 :=
  UInt8.ofBitVec ((x >>> (8 * r.val)).setWidth 8)

/-- The word of four octets, the first one least significant: `AES_U32`. -/
def u32 (b0 b1 b2 b3 : UInt8) : BitVec 32 :=
  b0.toBitVec.setWidth 32 ||| b1.toBitVec.setWidth 32 <<< 8 |||
    b2.toBitVec.setWidth 32 <<< 16 ||| b3.toBitVec.setWidth 32 <<< 24

/-- Rotate a word to the left by `r` octets: `AES_ROTL8` to `AES_ROTL24`. -/
def rotl (x : BitVec 32) (r : Fin 4) : BitVec 32 :=
  x <<< (8 * r.val) ||| x >>> (32 - 8 * r.val)

/-- Read a word. -/
def getLe32 (p : Bytes) (index : Nat) : BitVec 32 :=
  u32 (p.octetAt index) (p.octetAt (index + 1)) (p.octetAt (index + 2))
    (p.octetAt (index + 3))

/-- The octets of a word in the order they are written. -/
def putLe32 (x : BitVec 32) : Bytes :=
  [byte x 0, byte x 1, byte x 2, byte x 3]

/-! ## Tables -/

/-- The build options of the tables: `MATH_AES_ROM_TABLES` and
`MATH_AES_FEWER_TABLES`. -/
structure Config where
  romTables : Bool
  fewerTables : Bool

/-- The tables of the file.  With fewer tables only the first one of either
family is used. -/
structure Tables where
  forwardSBox : Vector UInt8 256
  forwardTables : Vector (Vector (BitVec 32) 256) 4
  reverseSBox : Vector UInt8 256
  reverseTables : Vector (Vector (BitVec 32) 256) 4
  rcon : Vector (BitVec 32) 10

/-- The words of a table with the octets of its entries rotated: `W32`. -/
def tableRom (entries : Vector (BitVec 32) 256) :
    Vector (Vector (BitVec 32) 256) 4 :=
  Vector.ofFn fun r => entries.map fun entry => rotl entry r

/-- The constant tables. -/
def tablesRom : Tables where
  forwardSBox := ⟨forwardSBoxRom.toArray, by decide +kernel⟩
  forwardTables := tableRom ⟨forwardTablesRom.toArray, by decide +kernel⟩
  reverseSBox := ⟨reverseSBoxRom.toArray, by decide +kernel⟩
  reverseTables := tableRom ⟨reverseTablesRom.toArray, by decide +kernel⟩
  rcon := ⟨rconRom.toArray, by decide⟩

/-! ## Table generation -/

/-- The exponents and logarithms of the table generation. -/
structure Logs where
  pow : Vector UInt8 256
  log : Vector UInt8 256

/-- Enter a power and its logarithm. -/
def Logs.enter (logs : Logs) (index : Fin 256) (value : UInt8) : Logs where
  pow := logs.pow.set index value
  log := logs.log.set value.toFin (UInt8.ofFin index) value.toFin.isLt

/-- Enter the powers of the generator, from `value` on, into the tables. -/
def genLogs : (indices : List (Fin 256)) → (value : UInt8) → Logs → Logs
  | [], _, logs => logs
  | index :: indices, value, logs =>
      genLogs indices (value ^^^ xtime value) (logs.enter index value)

/-- Enter the round constants, from `value` on. -/
def genRcon :
    (indices : List (Fin 10)) → (value : UInt8) → Vector (BitVec 32) 10 →
      Vector (BitVec 32) 10
  | [], _, rcon => rcon
  | index :: indices, value, rcon =>
      genRcon indices (xtime value)
        (rcon.set index (value.toBitVec.setWidth 32))

/-- Rotate an octet to the left by one bit. -/
def rotl1 (b : UInt8) : UInt8 :=
  b <<< 1 ||| b >>> 7

/-- Add the rotations of an octet, `count` times, to it. -/
def addRotations : (count : Nat) → (rotated substituted : UInt8) → UInt8
  | 0, _, substituted => substituted
  | count + 1, rotated, substituted =>
      addRotations count (rotl1 rotated) (substituted ^^^ rotl1 rotated)

/-- An entry of the forward S-box, from the inverse of its index. -/
def substitute (inverse : UInt8) : UInt8 :=
  addRotations 4 inverse inverse ^^^ 0x63

/-- Enter a value for each index. -/
def enter {α : Type} {n : Nat} (place : Fin n → Fin n) (entry : Fin n → α)
    (indices : List (Fin n)) (table : Vector α n) : Vector α n :=
  indices.foldl (fun table index => table.set (place index) (entry index)) table

/-- The forward S-box. -/
def genForwardSBox (logs : Logs) (table : Vector UInt8 256) :
    Vector UInt8 256 :=
  enter id
    (fun index =>
      substitute
        (logs.pow.get (Fin.ofNat 256 (255 - (logs.log.get index).toNat))))
    (List.finRange 256).tail (table.set 0 0x63)

/-- The reverse S-box: index and value of the forward S-box exchanged. -/
def genReverseSBox (forwardSBox table : Vector UInt8 256) :
    Vector UInt8 256 :=
  enter (fun index => (forwardSBox.get index).toFin) UInt8.ofFin
    (List.finRange 256) table

/-- The product of two octets by their logarithms. -/
def mul (logs : Logs) (x y : UInt8) : UInt8 :=
  if x != 0 && y != 0 then
    logs.pow.get
      (Fin.ofNat 256
        (((logs.log.get x.toFin).toNat + (logs.log.get y.toFin).toNat) % 255))
  else
    0

/-- A word of the first forward table. -/
def forwardWord (substituted : UInt8) : BitVec 32 :=
  u32 (xtime substituted) substituted substituted
    (xtime substituted ^^^ substituted)

/-- A word of the first reverse table. -/
def reverseWord (logs : Logs) (substituted : UInt8) : BitVec 32 :=
  u32 (mul logs 0x0E substituted) (mul logs 0x09 substituted)
    (mul logs 0x0D substituted) (mul logs 0x0B substituted)

/-- A word rotated by one octet, `r` times. -/
def rotated (r : Fin 4) (word : BitVec 32) : BitVec 32 :=
  (rotl · 1)^[r.val] word

/-- Generate all tables.  Every entry is written, so that the tables before do
not matter. -/
def genTables (logs : Logs) (tables : Tables) : Tables :=
  let logs := genLogs (List.finRange 256) 1 logs
  let forwardSBox := genForwardSBox logs tables.forwardSBox
  let reverseSBox := genReverseSBox forwardSBox tables.reverseSBox
  { forwardSBox
    forwardTables := Vector.ofFn fun r =>
      enter id
        (fun index => rotated r (forwardWord (forwardSBox.get index)))
        (List.finRange 256) (tables.forwardTables.get r)
    reverseSBox
    reverseTables := Vector.ofFn fun r =>
      enter id
        (fun index => rotated r (reverseWord logs (reverseSBox.get index)))
        (List.finRange 256) (tables.reverseTables.get r)
    rcon := genRcon (List.finRange 10) 1 tables.rcon }

/-! ## Table access -/

/-- The static variables of the file. -/
structure Shared where
  initDone : Bool
  tables : Tables

/-- The static variables before the first call. -/
def Shared.start (config : Config) : Shared where
  initDone := false
  tables :=
    if config.romTables then
      tablesRom
    else
      { forwardSBox := Vector.replicate 256 0
        forwardTables := Vector.replicate 4 (Vector.replicate 256 0)
        reverseSBox := Vector.replicate 256 0
        reverseTables := Vector.replicate 4 (Vector.replicate 256 0)
        rcon := Vector.replicate 10 0 }

/-- Generate the tables, unless they are constants or have been generated. -/
def Shared.prepare (config : Config) (logs : Logs) (shared : Shared) :
    Shared :=
  if config.romTables || shared.initDone then
    shared
  else
    { initDone := true, tables := genTables logs shared.tables }

/-- An entry of table `r`, or of the first table, rotated. -/
def tableEntry (config : Config) (tables : Vector (Vector (BitVec 32) 256) 4)
    (r : Fin 4) (index : UInt8) : BitVec 32 :=
  if config.fewerTables then
    rotl ((tables.get 0).get index.toFin) r
  else
    (tables.get r).get index.toFin

/-- `AES_FORWARD_TABLE_0` to `AES_FORWARD_TABLE_3`. -/
def forwardTable (config : Config) (tables : Tables) :
    (r : Fin 4) → (index : UInt8) → BitVec 32 :=
  tableEntry config tables.forwardTables

/-- `AES_REVERSE_TABLE_0` to `AES_REVERSE_TABLE_3`. -/
def reverseTable (config : Config) (tables : Tables) :
    (r : Fin 4) → (index : UInt8) → BitVec 32 :=
  tableEntry config tables.reverseTables

/-- Substitute an octet. -/
def forwardOctet (tables : Tables) (b : UInt8) : UInt8 :=
  tables.forwardSBox.get b.toFin

/-- Substitute an octet back. -/
def reverseOctet (tables : Tables) (b : UInt8) : UInt8 :=
  tables.reverseSBox.get b.toFin

/-! ## Key schedules -/

/-- The key context: the words of the schedule and the number of rounds. -/
@[ext] structure Ctx where
  roundKeys : List (BitVec 32)
  numberOfRounds : Nat

/-- The cleared key context. -/
def init : Ctx where
  roundKeys := []
  numberOfRounds := 0

/-- `AES_SUBWORD`. -/
def subword (tables : Tables) (x : BitVec 32) : BitVec 32 :=
  u32 (forwardOctet tables (byte x 0)) (forwardOctet tables (byte x 1))
    (forwardOctet tables (byte x 2)) (forwardOctet tables (byte x 3))

/-- `AES_SUBWORD_ROT`. -/
def subwordRot (tables : Tables) (x : BitVec 32) : BitVec 32 :=
  u32 (forwardOctet tables (byte x 1)) (forwardOctet tables (byte x 2))
    (forwardOctet tables (byte x 3)) (forwardOctet tables (byte x 0))

/-- `AES_INV_MIX_KEY`. -/
def invMixKey (config : Config) (tables : Tables) (x : BitVec 32) : BitVec 32 :=
  reverseTable config tables 0 (forwardOctet tables (byte x 0)) ^^^
    reverseTable config tables 1 (forwardOctet tables (byte x 1)) ^^^
    reverseTable config tables 2 (forwardOctet tables (byte x 2)) ^^^
    reverseTable config tables 3 (forwardOctet tables (byte x 3))

/-- Expand a key word by word. -/
def expandKey (tables : Tables) (keyWords : Nat) :
    (count : Nat) → (roundKeys : List (BitVec 32)) → List (BitVec 32)
  | 0, roundKeys => roundKeys
  | count + 1, roundKeys =>
      let i := roundKeys.length
      let temp := roundKeys.getD (i - 1) 0
      let temp :=
        if i % keyWords = 0 then
          subwordRot tables temp ^^^
            tables.rcon.get (Fin.ofNat 10 (i / keyWords - 1))
        else if keyWords = 8 ∧ i % keyWords = 4 then
          subword tables temp
        else
          temp
      expandKey tables keyWords count
        (roundKeys ++ [roundKeys.getD (i - keyWords) 0 ^^^ temp])

/-- The number of words of a key and of rounds under it. -/
def keySizes (keyBits : Nat) : Option (Nat × Nat) :=
  if keyBits = 128 then
    some (4, 10)
  else if keyBits = 192 then
    some (6, 12)
  else if keyBits = 256 then
    some (8, 14)
  else
    none

/-- What a key setup leaves behind. -/
structure Setup where
  ret : Int
  shared : Shared
  ctx : Ctx

/-- Key schedule for encryption.  `logs` are the buffers of the context that
the table generation works in. -/
def setenckey (config : Config) (logs : Logs) (shared : Shared) (ctx : Ctx)
    (key : Bytes) (keyBits : Nat) : Setup :=
  let shared := shared.prepare config logs
  match keySizes keyBits with
  | none => { ret := -1, shared, ctx }
  | some (keyWords, numberOfRounds) =>
      let keyPart := (List.range keyWords).map fun i => getLe32 key (i * 4)
      let totalWords := 4 * (numberOfRounds + 1)
      { ret := 0
        shared
        ctx :=
          { roundKeys :=
              expandKey shared.tables keyWords (totalWords - keyWords) keyPart
            numberOfRounds } }

/-- Four words of a schedule. -/
def keyWordsAt (roundKeys : List (BitVec 32)) (round : Nat) :
    List (BitVec 32) :=
  (List.range 4).map fun word => roundKeys.getD (round * 4 + word) 0

/-- Key schedule for decryption: the round keys in the opposite order, those in
between with their columns mixed inversely. -/
def setdeckey (config : Config) (logs : Logs) (shared : Shared) (ctx : Ctx)
    (key : Bytes) (keyBits : Nat) : Setup :=
  let setup := setenckey config logs shared init key keyBits
  if setup.ret = 0 then
    let source := setup.ctx.roundKeys
    let numberOfRounds := setup.ctx.numberOfRounds
    let middle :=
      (List.range' 1 (numberOfRounds - 1)).reverse.flatMap fun round =>
        (keyWordsAt source round).map (invMixKey config setup.shared.tables)
    { ret := setup.ret
      shared := setup.shared
      ctx :=
        { roundKeys :=
            keyWordsAt source numberOfRounds ++ middle ++ keyWordsAt source 0
          numberOfRounds } }
  else
    { ret := setup.ret, shared := setup.shared, ctx }

/-! ## Rounds -/

/-- A column of a merged round: `AES_FORWARD_ROUND_WORD` and
`AES_REVERSE_ROUND_WORD`. -/
def roundWord (table : Fin 4 → UInt8 → BitVec 32) (rk : BitVec 32)
    (a b c d : BitVec 32) : BitVec 32 :=
  rk ^^^ table 0 (byte a 0) ^^^ table 1 (byte b 1) ^^^ table 2 (byte c 2) ^^^
    table 3 (byte d 3)

/-- A column of the final round: `AES_FORWARD_FINAL_WORD` and
`AES_REVERSE_FINAL_WORD`. -/
def finalWord (octet : UInt8 → UInt8) (rk : BitVec 32)
    (a b c d : BitVec 32) : BitVec 32 :=
  rk ^^^ u32 (octet (byte a 0)) (octet (byte b 1)) (octet (byte c 2))
    (octet (byte d 3))

/-- The rounds over a block.  `source column r` is the column that row `r` of a
column is taken from. -/
def crypt (table : Fin 4 → UInt8 → BitVec 32) (octet : UInt8 → UInt8)
    (source : Fin 4 → Fin 4 → Fin 4) (ctx : Ctx) (input : Octets 16) :
    Octets 16 :=
  let roundKey (round : Nat) (column : Fin 4) : BitVec 32 :=
    ctx.roundKeys.getD (round * 4 + column) 0
  let state : Vector (BitVec 32) 4 :=
    Vector.ofFn fun column =>
      getLe32 input.1 (column * 4) ^^^ roundKey 0 column
  let state :=
    (List.range' 1 (ctx.numberOfRounds - 1)).foldl
      (fun state round =>
        Vector.ofFn fun column =>
          roundWord table (roundKey round column) (state.get (source column 0))
            (state.get (source column 1)) (state.get (source column 2))
            (state.get (source column 3)))
      state
  let transformed : Vector (BitVec 32) 4 :=
    Vector.ofFn fun column =>
      finalWord octet (roundKey ctx.numberOfRounds column)
        (state.get (source column 0)) (state.get (source column 1))
        (state.get (source column 2)) (state.get (source column 3))
  ⟨(List.finRange 4).flatMap fun column => putLe32 (transformed.get column),
    by simp [putLe32]⟩

/-- Encrypt a block: row `r` of a column comes from the column `r` places to the
right. -/
def encrypt (config : Config) (tables : Tables) (ctx : Ctx)
    (input : Octets 16) : Octets 16 :=
  crypt (forwardTable config tables) (forwardOctet tables)
    (fun column r => column + r) ctx input

/-- Decrypt a block: row `r` of a column comes from the column `r` places to the
left. -/
def decrypt (config : Config) (tables : Tables) (ctx : Ctx)
    (input : Octets 16) : Octets 16 :=
  crypt (reverseTable config tables) (reverseOctet tables)
    (fun column r => column - r) ctx input

end Aes

end Macsec
