import Mathlib.Logic.Function.Basic
import Macsec.Common
import Macsec.Math.Gcm

/-!
# Frame protection

The secure associations of a context, the replay window, and the protection
and recovery of Ethernet frames, as in `frame_crypto.c`.  Association numbers
range over `Fin 4`, which makes the source's checks against
`MACSEC_FRAME_MAX_SA` true by construction.
-/

namespace Macsec

namespace FrameCrypto

/-! ## Constants -/

/-- The EtherType of protected frames. -/
def ethertype : UInt16 := 0x88E5

/-- The length of an Ethernet header: two addresses and the EtherType. -/
def ethHdrLen : Nat := 14

/-- The length of a SecTAG with an SCI, behind its EtherType. -/
def secTagLen : Nat := 14

/-- The length of the integrity check value of a protected frame. -/
def icvLen : Nat := 16

/-- The length of what is authenticated but not encrypted. -/
def aadLen : Nat := ethHdrLen + secTagLen

/-- The widest replay window, which the bitmap has just bits for. -/
def maxReplayWindow : UInt32 := 64

/-- The size of the largest frame that can be protected. -/
def maxPlainSize : Nat := 1600

/-- The size of the largest protected frame. -/
def maxSecureSize : Nat := 1700

/-- The tag control information of frames that carry an SCI and are encrypted.
-/
def tciBase : UInt8 := 0x2C

/-- The bits of the tag control information above the association number. -/
def tciMask : UInt8 := 0xFC

/-- The length from which on a payload is not short. -/
def shortLenMax : Nat := 48

/-! ## Secure associations -/

/-- A secure association: its key and the packet numbers sent and received
under it.  The key carries its length. -/
structure Sak where
  key : Bytes
  an : Fin 4
  nextPn : UInt32
  lowestAcceptablePn : UInt32
  highestReceivedPn : UInt32
  replayBitmap : BitVec 64
  replayExhausted : Bool
  valid : Bool
  deriving DecidableEq

/-- The cleared association. -/
def Sak.cleared : Sak where
  key := []
  an := 0
  nextPn := 0
  lowestAcceptablePn := 0
  highestReceivedPn := 0
  replayBitmap := 0
  replayExhausted := false
  valid := false

/-- The frame protection state without the GCM working context.  The last
three fields describe which key that context is set up for. -/
structure SaTable where
  localSci : Octets 8
  txSak : Sak
  rxSak : Fin 4 → Sak
  encrypt : Bool
  replayProtect : Bool
  replayWindow : UInt32
  gcmInitialized : Bool
  currentGcmKey : Bytes
  currentGcmKeyValid : Bool

/-- The frame protection context. -/
structure Ctx extends SaTable where
  gcm : Gcm.Ctx

/-- Keys have 128 or 256 bits. -/
def keyLenValid (keyLen : Nat) : Bool :=
  keyLen == 16 || keyLen == 32

/-! ## Installation and removal -/

/-- The context before any association is installed. -/
def init (localSci : Octets 8) : Ctx where
  localSci := localSci
  txSak := Sak.cleared
  rxSak := fun _ => Sak.cleared
  encrypt := true
  replayProtect := true
  replayWindow := 0
  gcmInitialized := true
  currentGcmKey := []
  currentGcmKeyValid := false
  gcm := Gcm.init

/-- Install the transmit association. -/
def setTxSak (table : SaTable) (sak : Sak) : Err × SaTable :=
  if !sak.valid then
    (.param, table)
  else if !keyLenValid sak.key.length then
    (.param, table)
  else
    (.ok,
      { table with
        txSak :=
          { sak with
            nextPn := if sak.nextPn = 0 then 1 else sak.nextPn
            highestReceivedPn := 0
            replayBitmap := 0
            replayExhausted := false } })

/-- The receive state an association is installed with. -/
def normalizeRx (sak : Sak) : Sak :=
  let sak :=
    if sak.lowestAcceptablePn = 0 then { sak with lowestAcceptablePn := 1 }
    else sak
  if sak.highestReceivedPn = 0 ∧ sak.replayBitmap = 0 ∧
      sak.lowestAcceptablePn > 1 then
    { sak with highestReceivedPn := sak.lowestAcceptablePn - 1 }
  else
    sak

/-- Install the receive association of an association number. -/
def setRxSak (table : SaTable) (sak : Sak) : Err × SaTable :=
  if !sak.valid then
    (.param, table)
  else if !keyLenValid sak.key.length then
    (.param, table)
  else
    (.ok,
      { table with
        rxSak := Function.update table.rxSak sak.an (normalizeRx sak) })

/-- Forget which key the GCM context is set up for. -/
def SaTable.dropGcmKey (table : SaTable) : SaTable :=
  { table with currentGcmKey := [], currentGcmKeyValid := false }

/-- Remove the transmit association. -/
def removeTxSak (table : SaTable) : Err × SaTable :=
  (.ok, { table with txSak := Sak.cleared }.dropGcmKey)

/-- Remove the receive association of an association number. -/
def removeRxSak (table : SaTable) (an : Fin 4) : Err × SaTable :=
  (.ok,
    { table with
      rxSak := Function.update table.rxSak an Sak.cleared }.dropGcmKey)

/-- Whether frames can be protected: the transmit association is valid and has
packet numbers left. -/
def readyTx (table : SaTable) : Bool :=
  table.txSak.valid && keyLenValid table.txSak.key.length &&
    table.txSak.nextPn != 0

/-- Whether frames with an association number can be opened. -/
def readyRx (table : SaTable) (an : Fin 4) : Bool :=
  (table.rxSak an).valid && keyLenValid (table.rxSak an).key.length &&
    !(table.rxSak an).replayExhausted

/-! ## Replay window -/

/-- Bit 0 of the bitmap stands for the highest received packet number. -/
def replayBit (distance : UInt32) : BitVec 64 :=
  1#64 <<< distance.toNat

/-- The bits of the bitmap that lie inside the window. -/
def replayMask (replayWindow : UInt32) : BitVec 64 :=
  if replayWindow = maxReplayWindow then BitVec.allOnes 64
  else replayBit replayWindow - 1

/-- Whether a packet number is acceptable. -/
def replayCheck (table : SaTable) (sak : Sak) (pn : UInt32) : Err :=
  if !table.replayProtect then
    .ok
  else if table.replayWindow > maxReplayWindow then
    .unsupported
  else if sak.replayExhausted then
    .replay
  else if pn < sak.lowestAcceptablePn then
    .replay
  else if table.replayWindow = 0 then
    .ok
  else if sak.highestReceivedPn = 0 ∨ pn > sak.highestReceivedPn then
    .ok
  else
    let distance := sak.highestReceivedPn - pn
    if distance ≥ table.replayWindow then
      .replay
    else if sak.replayBitmap &&& replayBit distance ≠ 0 then
      .replay
    else
      .ok

/-- Record a packet number under the strict discipline of window zero. -/
def replayCommitStrict (sak : Sak) (pn : UInt32) : Sak :=
  let sak := { sak with highestReceivedPn := pn, replayBitmap := 1 }
  if pn = 0xFFFFFFFF then
    { sak with lowestAcceptablePn := 0xFFFFFFFF, replayExhausted := true }
  else
    { sak with lowestAcceptablePn := pn + 1 }

/-- Record a packet number in the bitmap of a nonempty window. -/
def replayCommitBitmap (replayWindow : UInt32) (sak : Sak) (pn : UInt32) :
    Sak :=
  let mask := replayMask replayWindow
  if sak.highestReceivedPn = 0 then
    { sak with highestReceivedPn := pn, replayBitmap := 1 }
  else if pn > sak.highestReceivedPn then
    let shift := pn - sak.highestReceivedPn
    if shift ≥ replayWindow then
      { sak with highestReceivedPn := pn, replayBitmap := 1 }
    else
      { sak with
        highestReceivedPn := pn
        replayBitmap := (sak.replayBitmap <<< shift.toNat ||| 1) &&& mask }
  else
    let distance := sak.highestReceivedPn - pn
    { sak with
      replayBitmap := (sak.replayBitmap ||| replayBit distance) &&& mask }

/-- Record an accepted packet number and move the lowest acceptable one on. -/
def replayCommit (table : SaTable) (sak : Sak) (pn : UInt32) : Sak :=
  if table.replayWindow = 0 then
    replayCommitStrict sak pn
  else
    let sak := replayCommitBitmap table.replayWindow sak pn
    let newLowestPn :=
      if sak.highestReceivedPn ≥ table.replayWindow then
        sak.highestReceivedPn - table.replayWindow + 1
      else
        1
    if newLowestPn > sak.lowestAcceptablePn then
      { sak with lowestAcceptablePn := newLowestPn }
    else
      sak

/-! ## Frames -/

/-- Whether a frame has the EtherType of protected frames. -/
def isMacsec (frame : Bytes) : Bool :=
  if frame.length < ethHdrLen then false
  else rdBe16 frame 12 == ethertype

/-- The octet that encodes payloads shorter than 48 octets. -/
def shortLen (payloadLen : Nat) : UInt8 :=
  if payloadLen < shortLenMax then UInt8.ofNat payloadLen else 0

/-- The additional data of a frame: its addresses, EtherType and SecTAG. -/
def aad (addresses : Octets 12) (an : Fin 4) (payloadLen : Nat) (pn : UInt32)
    (sci : Octets 8) : Bytes :=
  addresses.1 ++ (wrBe16 ethertype).1 ++
    [tciBase ||| UInt8.ofNat an.1, shortLen payloadLen] ++
    (wrBe32 pn).1 ++ sci.1

/-- The initialisation vector of a frame. -/
def frameIv (sci : Octets 8) (pn : UInt32) : Bytes :=
  sci.1 ++ (wrBe32 pn).1

/-- Set the GCM context up for a key, unless it already is. -/
def gcmSetKey (aes : BlockCipher) (ctx : Ctx) (key : Bytes) : Err × Ctx :=
  if ctx.currentGcmKeyValid && ctx.currentGcmKey.length == key.length &&
      compare ctx.currentGcmKey key == 0 then
    (.ok, ctx)
  else
    let ctx := { ctx with gcmInitialized := true }
    match Gcm.setKey aes Gcm.init key (key.length * 8) with
    | (.ok, gcm) =>
        (.ok,
          { ctx with
            gcm := gcm
            currentGcmKey := key
            currentGcmKeyValid := true })
    | (_, gcm) =>
        (.crypto,
          { ctx with
            gcm := gcm
            currentGcmKey := []
            currentGcmKeyValid := false })

/-- The checks before a frame is protected; they yield its packet number. -/
def encryptCheck (table : SaTable) (plainLen secureMaxLen : Nat) :
    Except Err UInt32 :=
  let outLen := ethHdrLen + secTagLen + (plainLen - 12) + icvLen
  if !table.encrypt then
    .error .unsupported
  else if !readyTx table then
    .error .state
  else if plainLen < ethHdrLen then
    .error .buffer
  else if plainLen > maxPlainSize then
    .error .buffer
  else if outLen > maxSecureSize then
    .error .buffer
  else if outLen > secureMaxLen then
    .error .buffer
  else if table.txSak.nextPn = 0 then
    .error .state
  else
    .ok table.txSak.nextPn

/-- Protect a frame.  The last component is the protected frame, empty on
every error. -/
def encrypt (aes : BlockCipher) (ctx : Ctx) (plain : Bytes)
    (secureMaxLen : Nat) : Err × Ctx × Bytes :=
  match encryptCheck ctx.toSaTable plain.length secureMaxLen with
  | .error ret => (ret, ctx, [])
  | .ok pn =>
      let secureData := plain.drop 12
      let header :=
        aad (plain.slice 0 12) ctx.txSak.an secureData.length pn ctx.localSci
      match gcmSetKey aes ctx ctx.txSak.key with
      | (.ok, ctx) =>
          let result :=
            Gcm.cryptAndTag aes ctx.gcm .encrypt (frameIv ctx.localSci pn)
              header secureData icvLen
          let ctx := { ctx with gcm := result.ctx }
          if result.ret ≠ .ok then
            (.crypto, ctx, [])
          else
            let nextPn := if pn = 0xFFFFFFFF then 0 else pn + 1
            (.ok, { ctx with txSak := { ctx.txSak with nextPn := nextPn } },
              header ++ result.output ++ result.tag)
      | (ret, ctx) => (ret, ctx, [])

/-- The association a protected frame selects. -/
def frameAn (secure : Bytes) : Fin 4 :=
  Fin.ofNat 4 (secure.octetAt ethHdrLen).toNat

/-- The packet number of a protected frame. -/
def framePn (secure : Bytes) : UInt32 :=
  rdBe32 secure (ethHdrLen + 2)

/-- The channel identifier of a protected frame. -/
def frameSci (secure : Bytes) : Octets 8 :=
  secure.slice (ethHdrLen + 6) 8

/-- The checks before a frame is opened. -/
def decryptCheck (table : SaTable) (secure : Bytes) (plainMaxLen : Nat) :
    Err :=
  if secure.length > maxSecureSize then
    .buffer
  else if !isMacsec secure then
    .param
  else if secure.length < aadLen + icvLen then
    .buffer
  else if secure.octetAt ethHdrLen &&& tciMask ≠ tciBase then
    .unsupported
  else if !readyRx table (frameAn secure) then
    .state
  else if framePn secure = 0 then
    .replay
  else
    let ret :=
      replayCheck table (table.rxSak (frameAn secure)) (framePn secure)
    let ciphertextLen := secure.length - aadLen - icvLen
    if ret ≠ .ok then
      ret
    else if 12 + ciphertextLen > maxPlainSize then
      .buffer
    else if 12 + ciphertextLen > plainMaxLen then
      .buffer
    else if secure.octetAt (ethHdrLen + 1) ≠ shortLen ciphertextLen then
      .param
    else
      .ok

/-- Update the replay state of an association after a frame was opened. -/
def recordPn (ctx : Ctx) (an : Fin 4) (pn : UInt32) : Ctx :=
  if ctx.replayProtect then
    let sak := replayCommit ctx.toSaTable (ctx.rxSak an) pn
    { ctx with rxSak := Function.update ctx.rxSak an sak }
  else
    ctx

/-- Open a protected frame into a buffer.  The results are the buffer and the
length of the plaintext in it, which is zero on every error. -/
def decrypt (aes : BlockCipher) (ctx : Ctx) (secure plain : Bytes) :
    Err × Ctx × Bytes × Nat :=
  match decryptCheck ctx.toSaTable secure plain.length with
  | .ok =>
      let an := frameAn secure
      let pn := framePn secure
      let ciphertextLen := secure.length - aadLen - icvLen
      let ciphertext := (secure.slice aadLen ciphertextLen).1
      let icv := (secure.slice (secure.length - icvLen) icvLen).1
      match gcmSetKey aes ctx (ctx.rxSak an).key with
      | (.ok, ctx) =>
          let (ret, gcm, payload) :=
            Gcm.authDecrypt aes ctx.gcm (frameIv (frameSci secure) pn)
              (secure.slice 0 aadLen).1 icv ciphertext
          let ctx := { ctx with gcm := gcm }
          if ret ≠ .ok then
            (.auth, ctx,
              plain.overlay 0 (List.replicate (12 + ciphertextLen) 0), 0)
          else
            (.ok, recordPn ctx an pn,
              plain.overlay 0 ((secure.slice 0 12).1 ++ payload),
              12 + ciphertextLen)
      | (ret, ctx) =>
          (ret, ctx, plain.overlay 0 (List.replicate 12 0), 0)
  | ret => (ret, ctx, plain, 0)

end FrameCrypto

end Macsec
