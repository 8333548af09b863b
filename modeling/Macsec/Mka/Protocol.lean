import Macsec.Mka.Participant
import Macsec.Mka.Wire

/-!
# The MKA protocol functions

Initialisation, reception and construction of MKPDUs: the functions of `mka.c`
that involve key material and frames.
-/

namespace Macsec

namespace Mka

/-- The MKA context: the protocol state with the key material and the records
of the last received frame. -/
structure Ctx extends Participant where
  crypto : MkaCrypto.Ctx
  lastBasic : Basic
  verifyIcv : Bool
  lastIcvValid : Bool
  micWork : Bytes
  lastRxMs : UInt32

/-- The all-zero Basic Parameter Set. -/
def Basic.cleared : Basic where
  dstMac := Octets.zero 6
  srcMac := Octets.zero 6
  eapolVersion := 0
  eapolType := 0
  eapolLen := 0
  mkaVersion := 0
  keyServerPriority := 0
  keyServer := false
  macsecDesired := false
  macsecCapability := 0
  bodyLen := 0
  sci := Octets.zero 8
  actorMi := Octets.zero 12
  actorMn := 0
  algorithmAgility := 0
  cakName := []
  icv := Octets.zero 16

/-- The all-zero context. -/
def Ctx.cleared : Ctx :=
  { Participant.cleared with
    crypto := MkaCrypto.init
    lastBasic := Basic.cleared
    verifyIcv := false
    lastIcvValid := false
    micWork := List.replicate maxFrameLen 0
    lastRxMs := 0 }

/-- The channel identifier of a port. -/
def buildSci (mac : Octets 6) (portId : UInt16) : Octets 8 :=
  mac.append (wrBe16 portId)

/-! ## Initialisation -/

/-- The participant before its keys are derived. -/
def Participant.start (localMac : Octets 6) (portId : UInt16)
    (keyServerPriority : UInt8) (txIntervalMs : UInt32) (mi : Octets 12) :
    Participant :=
  { Participant.cleared with
    localMac := localMac
    localSci := buildSci localMac portId
    localMi := mi
    localMn := 1
    keyServerPriority := keyServerPriority
    localKeyServer := true
    macsecDesired := true
    macsecCapability := defaultCapability
    keyServerNextKeyNumber := 1
    keyServerNextAn := 0
    txIntervalMs :=
      if txIntervalMs ≠ 0 then txIntervalMs else defaultTxIntervalMs }

/-- Initialisation failed: raise the error event and enter the error state. -/
def Participant.failInit (ctx : Participant) : Participant :=
  (ctx.raiseEvents EventFlag.error).setState .error

/-- Initialisation succeeded: wait for a peer and schedule the first frame. -/
def Participant.completeInit (ctx : Participant) : Participant :=
  ((ctx.setState .waitPeer).raiseEvents EventFlag.txInitial).scheduleTx
    TxReason.initial

/-- Initialise a context.  The member identifier is drawn at random. -/
def init (aes : BlockCipher) (cak ckn : Bytes) (localMac : Octets 6)
    (portId : UInt16) (keyServerPriority : UInt8) (txIntervalMs : UInt32)
    (mi : Octets 12) : Err × Ctx :=
  let start :=
    Participant.start localMac portId keyServerPriority txIntervalMs mi
  match MkaCrypto.setPsk MkaCrypto.init cak ckn with
  | (.ok, crypto) =>
      match MkaCrypto.deriveIckKek aes crypto with
      | (.ok, crypto) =>
          (.ok,
            { Ctx.cleared with
              toParticipant := start.completeInit
              crypto := crypto
              verifyIcv := true })
      | (ret, crypto) =>
          (ret,
            { Ctx.cleared with
              toParticipant := start.failInit
              crypto := crypto })
  | (ret, crypto) =>
      (ret,
        { Ctx.cleared with
          toParticipant := start.failInit
          crypto := crypto })

/-! ## Reception -/

/-- Verify the integrity check value of a frame. -/
def verifyIcv (aes : BlockCipher) (ctx : Ctx) (frame : Bytes)
    (basic : Basic) : Err × Ctx :=
  let micLen := 14 + 4 + basic.eapolLen - icvLen
  if !ctx.crypto.keys.valid then
    (.state, ctx)
  else if frame.length < micLen + icvLen then
    (.buffer, ctx)
  else if micLen > maxFrameLen then
    (.buffer, ctx)
  else
    let pdu := (frame.slice 0 micLen).1
    (MkaCrypto.verifyMic aes ctx.crypto pdu basic.icv,
      { ctx with micWork := ctx.micWork.overlay 0 pdu })

/-- Whether a frame carries the address, the channel identifier or the member
identifier of the participant itself. -/
def isOwnFrame (ctx : Participant) (basic : Basic) : Bool :=
  compare basic.srcMac.1 ctx.localMac.1 == 0 ||
    compare basic.sci.1 ctx.localSci.1 == 0 ||
    compare basic.actorMi.1 ctx.localMi.1 == 0

/-- Verify the frame if verification is on. -/
def authenticate (aes : BlockCipher) (ctx : Ctx) (frame : Bytes)
    (basic : Basic) : Err × Ctx :=
  let ctx := { ctx with lastIcvValid := false }
  if ctx.verifyIcv then
    match verifyIcv aes ctx frame basic with
    | (.ok, ctx) => (.ok, { ctx with lastIcvValid := true })
    | (ret, ctx) => (ret, ctx)
  else
    (.ok, ctx)

/-- Process an authenticated frame. -/
def processFrame (aes : BlockCipher) (ctx : Ctx) (frame : Bytes)
    (basic : Basic) (rnd : Octets 16) (nowMs : UInt32) : Err × Ctx :=
  let ctx := { ctx with lastBasic := basic, lastRxMs := nowMs }
  let pdu := decode aes ctx.crypto ctx.localMi frame basic
  let (ret, participant) := ctx.toParticipant.processMkpdu pdu rnd nowMs
  (ret, { ctx with toParticipant := participant })

/-- Receive an EAPOL-MKA frame. -/
def input (aes : BlockCipher) (ctx : Ctx) (frame : Bytes) (rnd : Octets 16)
    (nowMs : UInt32) : Err × Ctx :=
  if !isEapolMka frame then
    (.param, ctx)
  else
    match parseBasic frame with
    | .error ret => (ret, ctx)
    | .ok basic =>
        if isOwnFrame ctx.toParticipant basic then
          (.ok, ctx)
        else
          match authenticate aes ctx frame basic with
          | (.ok, ctx) => processFrame aes ctx frame basic rnd nowMs
          | (ret, ctx) => (ret, ctx)

/-! ## Construction -/

/-- The length of a frame without its integrity check value, as
`macsec_mka_build_tx_frame` sums it up from the parameter sets it will
write. -/
def Participant.txMicLen (ctx : Participant) (cknLen : Nat) : Nat :=
  14 + 4 + (4 + (28 + cknLen)) +
    (if ctx.includePeerList then 4 + 16 else 0) +
    (if ctx.includeDistributedSak then 4 + 4 + (ctx.latestSak.sak.length + 8)
      else 0) +
    (if ctx.includeSakUse then 4 + 40 else 0)

/-- The checks before a frame is written. -/
def Participant.txCheck (ctx : Participant) (cknLen frameMaxLen : Nat) : Err :=
  let totalLen := ctx.txMicLen cknLen + icvLen
  if ctx.includeDistributedSak && !sakLenValid ctx.latestSak.sak.length then
    .state
  else if totalLen > frameMaxLen then
    .buffer
  else if totalLen > maxFrameLen then
    .buffer
  else
    .ok

/-- The Distributed SAK of a frame, if it contains one. -/
def txDistributedSak (aes : BlockCipher) (crypto : MkaCrypto.Ctx)
    (ctx : Participant) : Except Err Bytes :=
  if ctx.includeDistributedSak then ctx.writeDistributedSak aes crypto
  else .ok []

/-- The frame without its integrity check value. -/
def Participant.writeFrame (ctx : Participant) (ckn distributedSak : Bytes) :
    Bytes :=
  let eapolLen := ctx.txMicLen ckn.length + icvLen - 18
  dstMac.1 ++ ctx.localMac.1 ++ (wrBe16 ethertypeEapol).1 ++
    [eapolVersion2010, eapolTypeMka] ++
    (wrBe16 (UInt16.ofNat eapolLen)).1 ++
    ctx.writeBasic ckn ++
    (if ctx.includePeerList then ctx.writePeerList else []) ++
    distributedSak ++
    (if ctx.includeSakUse then ctx.writeSakUse else [])

/-- The whole frame a participant builds in a state. -/
def buildFrame (aes : BlockCipher) (crypto : MkaCrypto.Ctx)
    (ctx : Participant) : Except Err Bytes := do
  let distributedSak ← txDistributedSak aes crypto ctx
  let pdu := ctx.writeFrame crypto.psk.ckn distributedSak
  let mic ← MkaCrypto.calcMic aes crypto pdu
  return pdu ++ mic.1

/-- Build an MKPDU.  Only the SAK slot may change: a Key Server generates a SAK
when one is due. -/
def buildTxFrame (aes : BlockCipher) (ctx : Ctx) (rnd : Octets 16)
    (frameMaxLen : Nat) : Err × Ctx × Bytes × TxMeta :=
  if !ctx.crypto.keys.valid then
    (.state, ctx, [], TxMeta.cleared)
  else if ctx.txReasons = 0 then
    (.notReady, ctx, [], TxMeta.cleared)
  else if ctx.crypto.psk.ckn.length > caNameMaxLen then
    (.buffer, ctx, [], TxMeta.cleared)
  else
    match ctx.toParticipant.ensureForTx rnd with
    | (.ok, participant) =>
        let ctx := { ctx with toParticipant := participant }
        match participant.txCheck ctx.crypto.psk.ckn.length frameMaxLen with
        | .ok =>
            match buildFrame aes ctx.crypto participant with
            | .ok frame => (.ok, ctx, frame, participant.txMeta)
            | .error ret => (ret, ctx, [], TxMeta.cleared)
        | ret => (ret, ctx, [], TxMeta.cleared)
    | (ret, participant) =>
        (ret, { ctx with toParticipant := participant }, [], TxMeta.cleared)

end Mka

end Macsec
