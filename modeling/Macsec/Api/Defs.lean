import Macsec.Foundation.Machine
import Macsec.FrameCrypto.Defs
import Macsec.Mka.Protocol

/-!
# The public interface

The functions of `macsec.c`.  `Control` is the part of a context that the key
agreement acts on: everything but the key material of MKA and the GCM working
context.  The servicing functions of the source act on it alone, and so do
three of the public functions; `Ctx.lift` applies them to a whole context.
-/

namespace Macsec

/-- The modes of operation.  `unknown` stands for every other value of the
enumeration type. -/
inductive Mode
  | disabled
  | staticSak
  | mkaPsk
  | unknown
  deriving DecidableEq, Repr

/-- The states of a context. -/
inductive State
  | init
  | waitMka
  | secured
  | error
  deriving DecidableEq, Repr

/-- The configuration of a context. -/
structure Config where
  mode : Mode
  localMac : Octets 6
  portId : UInt16
  cak : Bytes
  ckn : Bytes
  staticSak : Bytes
  staticAn : UInt8
  replayProtect : Bool
  replayWindow : UInt32
  keyServerPriority : UInt8
  mkaTxIntervalMs : UInt32
  deriving DecidableEq

/-- The part of a context that the key agreement acts on. -/
structure Control where
  cfg : Config
  state : State
  table : FrameCrypto.SaTable
  mka : Mka.Participant
  lastTickMs : UInt32
  pendingMkaTxMeta : Mka.TxMeta
  pendingMkaTxValid : Bool

/-- A context. -/
structure Ctx where
  cfg : Config
  state : State
  frameCrypto : FrameCrypto.Ctx
  mka : Mka.Ctx
  lastTickMs : UInt32
  pendingMkaTxMeta : Mka.TxMeta
  pendingMkaTxValid : Bool

namespace Ctx

/-- The part of a context that the key agreement acts on. -/
def control (ctx : Ctx) : Control where
  cfg := ctx.cfg
  state := ctx.state
  table := ctx.frameCrypto.toSaTable
  mka := ctx.mka.toParticipant
  lastTickMs := ctx.lastTickMs
  pendingMkaTxMeta := ctx.pendingMkaTxMeta
  pendingMkaTxValid := ctx.pendingMkaTxValid

/-- Replace that part of a context. -/
def withControl (ctx : Ctx) (control : Control) : Ctx where
  cfg := control.cfg
  state := control.state
  frameCrypto := { ctx.frameCrypto with toSaTable := control.table }
  mka := { ctx.mka with toParticipant := control.mka }
  lastTickMs := control.lastTickMs
  pendingMkaTxMeta := control.pendingMkaTxMeta
  pendingMkaTxValid := control.pendingMkaTxValid

/-- Apply a function on that part to a context. -/
def lift (step : Control → Err × Control) (ctx : Ctx) : Err × Ctx :=
  ((step ctx.control).1, ctx.withControl (step ctx.control).2)

@[simp] theorem control_withControl (ctx : Ctx) (control : Control) :
    (ctx.withControl control).control = control := rfl

@[simp] theorem lift_fst (step : Control → Err × Control) (ctx : Ctx) :
    (ctx.lift step).1 = (step ctx.control).1 := rfl

@[simp] theorem lift_control (step : Control → Err × Control) (ctx : Ctx) :
    (ctx.lift step).2.control = (step ctx.control).2 := rfl

end Ctx

/-! ## Installation -/

/-- Whether an association holds a key. -/
def sakEqual (sak : FrameCrypto.Sak) (key : Bytes) : Bool :=
  sak.valid && sak.key.length == key.length && compare sak.key key == 0

/-- A fresh association for a key. -/
def freshSak (key : Bytes) (an : Fin 4) (lowestPn : UInt32) :
    FrameCrypto.Sak :=
  { FrameCrypto.Sak.cleared with
    key := key
    an := an
    nextPn := 1
    lowestAcceptablePn := lowestPn
    valid := true }

namespace Control

/-- Install a key for reception, unless its slot holds it already. -/
def installRxSak (ctx : Control) (key : Bytes) (an : Fin 4)
    (lowestPn : UInt32) : Err × Control :=
  if !Mka.sakLenValid key.length then
    (.param, ctx)
  else if sakEqual (ctx.table.rxSak an) key then
    (.ok, ctx)
  else
    let lowestPn := if lowestPn = 0 then 1 else lowestPn
    match FrameCrypto.setRxSak ctx.table (freshSak key an lowestPn) with
    | (.ok, table) => (.ok, { ctx with table := table })
    | (_, table) => (.crypto, { ctx with table := table })

/-- Install a key for transmission, unless it is installed with this AN. -/
def installTxSak (ctx : Control) (key : Bytes) (an : Fin 4) : Err × Control :=
  if !Mka.sakLenValid key.length then
    (.param, ctx)
  else if sakEqual ctx.table.txSak key && ctx.table.txSak.an == an then
    (.ok, ctx)
  else
    match FrameCrypto.setTxSak ctx.table (freshSak key an 1) with
    | (.ok, table) => (.ok, { ctx with table := table })
    | (_, table) => (.crypto, { ctx with table := table })

/-- Remove the receive association of the old SAK, if it is installed. -/
def removeOldRx (ctx : Control) : Err × Control :=
  if ctx.mka.oldSak.rxInstalled then
    let (ret, table) := FrameCrypto.removeRxSak ctx.table ctx.mka.oldSak.an
    (ret, { ctx with table := table })
  else
    (.ok, ctx)

/-- Remove the transmit association of the old SAK, if it is installed and not
yet replaced. -/
def removeOldTx (ctx : Control) : Err × Control :=
  if ctx.mka.oldSak.txInstalled then
    if sakEqual ctx.table.txSak ctx.mka.oldSak.sak &&
        ctx.table.txSak.an == ctx.mka.oldSak.an then
      let (ret, table) := FrameCrypto.removeTxSak ctx.table
      (ret, { ctx with table := table })
    else
      (.ok, ctx)
  else
    (.ok, ctx)

/-- Retire the old SAK. -/
def removeMkaOldSak (ctx : Control) : Err × Control :=
  if ctx.mka.oldSak.lifecycleState = .none then
    (.ok, ctx)
  else if ctx.mka.oldSak.lifecycleState ≠ .retiring then
    (.state, ctx)
  else
    match ctx.removeOldRx with
    | (.ok, ctx) =>
        match ctx.removeOldTx with
        | (.ok, ctx) =>
            let (ret, mka) :=
              ctx.mka.notifySakRetired ctx.mka.oldSak.keyNumber
                ctx.mka.oldSak.an
            (ret, { ctx with mka := mka })
        | (ret, ctx) => (ret, ctx)
    | (ret, ctx) => (ret, ctx)

/-- Install the configured static SAK. -/
def installStaticSak (ctx : Control) : Err × Control :=
  if inRange : ctx.cfg.staticAn.toNat < 4 then
    let an : Fin 4 := ⟨ctx.cfg.staticAn.toNat, inRange⟩
    match ctx.installRxSak ctx.cfg.staticSak an 1 with
    | (.ok, ctx) =>
        match ctx.installTxSak ctx.cfg.staticSak an with
        | (.ok, ctx) => (.ok, { ctx with state := .secured })
        | (ret, ctx) => (ret, ctx)
    | (ret, ctx) => (ret, ctx)
  else
    (.param, ctx)

/-! ## Servicing the key agreement -/

/-- Install and confirm the receive direction of a SAK handed over by MKA. -/
def installMkaRx (ctx : Control) (sak : Mka.Sak) : Err × Control :=
  if sak.rxInstalled then
    (.ok, ctx)
  else
    match ctx.installRxSak sak.sak sak.an sak.lowestPn with
    | (.ok, ctx) =>
        let (ret, mka) :=
          ctx.mka.notifySakInstalled sak.keyNumber sak.an Mka.installRx
            sak.lowestPn
        (ret, { ctx with mka := mka })
    | (ret, ctx) => (ret, ctx)

/-- Install and confirm the transmit direction of a SAK handed over by
MKA. -/
def installMkaTx (ctx : Control) (sak : Mka.Sak) : Err × Control :=
  if sak.txInstalled then
    (.ok, ctx)
  else
    match ctx.installTxSak sak.sak sak.an with
    | (.ok, ctx) =>
        let (ret, mka) :=
          ctx.mka.notifySakInstalled sak.keyNumber sak.an Mka.installTx
            sak.lowestPn
        (ret, { ctx with mka := mka })
    | (ret, ctx) => (ret, ctx)

/-- Install the SAK that MKA has ready, if any. -/
def processMkaSakInstall (ctx : Control) : Err × Control :=
  let (ret, mka, sak) := ctx.mka.takeSakForInstall
  let ctx := { ctx with mka := mka }
  if ret = .notReady then
    (.ok, ctx)
  else if ret ≠ .ok then
    (ret, ctx)
  else if sak.lifecycleState ≠ .installPending ∨
      !Mka.sakLenValid sak.sak.length then
    (.state, ctx)
  else
    match ctx.installMkaRx sak with
    | (.ok, ctx) => ctx.installMkaTx sak
    | (ret, ctx) => (ret, ctx)

/-- The state after the peer was lost or a SAK became active. -/
def followEvents (ctx : Control) (events : UInt32) : Control :=
  let ctx :=
    if hasFlag events Mka.EventFlag.peerLost then { ctx with state := .waitMka }
    else ctx
  if hasFlag events Mka.EventFlag.sakActive then { ctx with state := .secured }
  else ctx

/-- Drain the events of MKA. -/
def processMkaEvents (ctx : Control) : Err × Control :=
  let (events, mka) := ctx.mka.takeEvents
  let ctx := { ctx with mka := mka }
  if events = 0 then
    (.ok, ctx)
  else if hasFlag events Mka.EventFlag.error then
    (.state, { ctx with state := .error })
  else
    let ctx := ctx.followEvents events
    if hasFlag events Mka.EventFlag.sakRetireRequired then
      ctx.removeMkaOldSak
    else
      (.ok, ctx)

/-- Process events, install a SAK, and process the events this raised. -/
def serviceMka (ctx : Control) : Err × Control :=
  match ctx.processMkaEvents with
  | (.ok, ctx) =>
      match ctx.processMkaSakInstall with
      | (.ok, ctx) => ctx.processMkaEvents
      | (ret, ctx) => (ret, ctx)
  | (ret, ctx) => (ret, ctx)

/-- Every public function enters the error state if servicing fails. -/
def serviceMkaOrFail (ctx : Control) : Err × Control :=
  match ctx.serviceMka with
  | (.ok, ctx) => (.ok, ctx)
  | (ret, ctx) => (ret, { ctx with state := .error })

/-! ## Public functions without key material -/

/-- The clock of the context moves on. -/
def tick (ctx : Control) (nowMs : UInt32) : Err × Control :=
  let ctx := { ctx with lastTickMs := nowMs }
  if ctx.cfg.mode = .mkaPsk then
    match ctx.mka.tick nowMs with
    | (.ok, mka) => { ctx with mka := mka }.serviceMkaOrFail
    | (ret, mka) => (ret, { ctx with mka := mka, state := .error })
  else
    (.ok, ctx)

/-- The pending frame is settled. -/
def clearPending (ctx : Control) : Control :=
  { ctx with
    pendingMkaTxMeta := Mka.TxMeta.cleared
    pendingMkaTxValid := false }

/-- The pending control frame was transmitted. -/
def notifyControlTxSuccess (ctx : Control) (nowMs : UInt32) : Err × Control :=
  if ctx.cfg.mode ≠ .mkaPsk then
    (.state, ctx)
  else if !ctx.pendingMkaTxValid then
    (.notReady, ctx)
  else
    match ctx.mka.notifyTxSuccess ctx.pendingMkaTxMeta nowMs with
    | (.ok, mka) =>
        { ctx with mka := mka }.clearPending.serviceMkaOrFail
    | (ret, mka) => (ret, { ctx with mka := mka, state := .error })

/-- The pending control frame was not transmitted. -/
def notifyControlTxFailure (ctx : Control) : Err × Control :=
  if ctx.cfg.mode ≠ .mkaPsk then
    (.state, ctx)
  else if !ctx.pendingMkaTxValid then
    (.notReady, ctx)
  else
    (.ok,
      { ctx with
        mka := ctx.mka.notifyTxFailure ctx.pendingMkaTxMeta }.clearPending)

end Control

/-! ## Public functions -/

/-- The context before its mode is set up. -/
def startCtx (cfg : Config) : Ctx :=
  let cfg := { cfg with portId := if cfg.portId = 0 then 1 else cfg.portId }
  { cfg := cfg
    state := .init
    frameCrypto :=
      { FrameCrypto.init (Mka.buildSci cfg.localMac cfg.portId) with
        replayProtect := cfg.replayProtect
        replayWindow := cfg.replayWindow }
    mka := Mka.Ctx.cleared
    lastTickMs := 0
    pendingMkaTxMeta := Mka.TxMeta.cleared
    pendingMkaTxValid := false }

/-- Initialise a context.  In MKA mode the member identifier is drawn at
random. -/
def init (aes : BlockCipher) (cfg : Config) (mi : Octets 12) : Err × Ctx :=
  let ctx := startCtx cfg
  match ctx.cfg.mode with
  | .disabled => (.ok, { ctx with state := .secured })
  | .staticSak =>
      match ctx.lift Control.installStaticSak with
      | (.ok, ctx) => (.ok, ctx)
      | (ret, ctx) => (ret, { ctx with state := .error })
  | .mkaPsk =>
      match
        Mka.init aes ctx.cfg.cak ctx.cfg.ckn ctx.cfg.localMac ctx.cfg.portId
          ctx.cfg.keyServerPriority ctx.cfg.mkaTxIntervalMs mi with
      | (.ok, mka) => (.ok, { ctx with mka := mka, state := .waitMka })
      | (ret, mka) => (ret, { ctx with mka := mka, state := .error })
  | .unknown => (.unsupported, { ctx with state := .error })

/-- The answer of a public function: its return code, the frame it produced,
and whether that frame goes to the stack. -/
structure Reply where
  ret : Err
  frame : Bytes
  passToStack : Bool
  deriving DecidableEq

/-- An answer without a frame. -/
def Reply.of (ret : Err) : Reply where
  ret := ret
  frame := []
  passToStack := false

/-- Receive an EAPOL-MKA frame. -/
def inputMka (aes : BlockCipher) (ctx : Ctx) (frame : Bytes)
    (rnd : Octets 16) : Err × Ctx :=
  match Mka.input aes ctx.mka frame rnd ctx.lastTickMs with
  | (.ok, mka) => { ctx with mka := mka }.lift Control.serviceMkaOrFail
  | (ret, mka) => (ret, { ctx with mka := mka, state := .error })

/-- Receive a protected frame into a buffer. -/
def inputSecure (aes : BlockCipher) (ctx : Ctx) (frame plain : Bytes) :
    Ctx × Reply :=
  if ctx.state ≠ .secured then
    (ctx, Reply.of .notReady)
  else
    match FrameCrypto.decrypt aes ctx.frameCrypto frame plain with
    | (.ok, frameCrypto, plain, len) =>
        ({ ctx with frameCrypto := frameCrypto },
          { ret := .ok, frame := plain.take len, passToStack := true })
    | (ret, frameCrypto, _, _) =>
        ({ ctx with frameCrypto := frameCrypto }, Reply.of ret)

/-- Receive a frame into a buffer.  The random octets are used if the frame
makes the context generate a SAK. -/
def input (aes : BlockCipher) (ctx : Ctx) (frame plain : Bytes)
    (rnd : Octets 16) : Ctx × Reply :=
  if ctx.cfg.mode = .disabled then
    if frame.length > plain.length then
      (ctx, Reply.of .buffer)
    else
      (ctx, { ret := .ok, frame := frame, passToStack := true })
  else if Mka.isEapolMka frame then
    let (ret, ctx) := inputMka aes ctx frame rnd
    (ctx, Reply.of ret)
  else if FrameCrypto.isMacsec frame then
    inputSecure aes ctx frame plain
  else if frame.length ≥ 14 ∧ rdBe16 frame 12 = Mka.ethertypeEapol then
    (ctx, Reply.of .unsupported)
  else
    (ctx, Reply.of .auth)

/-- Send a frame. -/
def output (aes : BlockCipher) (ctx : Ctx) (plain : Bytes) (txMaxLen : Nat) :
    Ctx × Reply :=
  if ctx.cfg.mode = .disabled then
    if plain.length > txMaxLen then
      (ctx, Reply.of .buffer)
    else
      (ctx, { ret := .ok, frame := plain, passToStack := false })
  else if ctx.state ≠ .secured then
    (ctx, Reply.of .notReady)
  else if !ctx.frameCrypto.txSak.valid then
    (ctx, Reply.of .notReady)
  else
    let (ret, frameCrypto, secure) :=
      FrameCrypto.encrypt aes ctx.frameCrypto plain txMaxLen
    ({ ctx with frameCrypto := frameCrypto },
      { ret := ret, frame := secure, passToStack := false })

/-- Build the control frame that is due. -/
def buildControlFrame (aes : BlockCipher) (ctx : Ctx) (txMaxLen : Nat)
    (rnd : Octets 16) : Ctx × Reply :=
  if ctx.cfg.mode ≠ .mkaPsk then
    (ctx, Reply.of .state)
  else if ctx.pendingMkaTxValid then
    (ctx, Reply.of .busy)
  else
    match Mka.buildTxFrame aes ctx.mka rnd txMaxLen with
    | (.ok, mka, frame, txMeta) =>
        ({ ctx with
            mka := mka
            pendingMkaTxMeta := txMeta
            pendingMkaTxValid := true },
          { ret := .ok, frame := frame, passToStack := false })
    | (ret, mka, _, _) =>
        ({ ctx with
            mka := mka
            pendingMkaTxMeta := Mka.TxMeta.cleared },
          Reply.of ret)

/-! ## Runs -/

/-- A call of a public function with its arguments and the random octets it
may draw. -/
inductive Call
  | input (frame plain : Bytes) (rnd : Octets 16)
  | output (plain : Bytes) (txMaxLen : Nat)
  | tick (nowMs : UInt32)
  | buildControlFrame (txMaxLen : Nat) (rnd : Octets 16)
  | notifyControlTxSuccess (nowMs : UInt32)
  | notifyControlTxFailure
  deriving DecidableEq

/-- Pair the result of a function that only returns a code. -/
def replyOf (result : Err × Ctx) : Ctx × Reply :=
  (result.2, Reply.of result.1)

/-- The effect of a call. -/
def perform (aes : BlockCipher) (ctx : Ctx) : Call → Ctx × Reply
  | .input frame plain rnd => input aes ctx frame plain rnd
  | .output plain txMaxLen => output aes ctx plain txMaxLen
  | .tick nowMs => replyOf (ctx.lift (·.tick nowMs))
  | .buildControlFrame txMaxLen rnd => buildControlFrame aes ctx txMaxLen rnd
  | .notifyControlTxSuccess nowMs =>
      replyOf (ctx.lift (·.notifyControlTxSuccess nowMs))
  | .notifyControlTxFailure =>
      replyOf (ctx.lift Control.notifyControlTxFailure)

/-- The machine whose inputs are the calls of the public interface. -/
def machine (aes : BlockCipher) : Transition.Machine Ctx Call Reply where
  step := perform aes

/-- The states some sequence of calls reaches from an initialised context of a
mode. -/
def Reachable (aes : BlockCipher) (mode : Mode) (ctx : Ctx) : Prop :=
  ∃ cfg mi start, cfg.mode = mode ∧ init aes cfg mi = (.ok, start) ∧
    (machine aes).Reachable start ctx

end Macsec
