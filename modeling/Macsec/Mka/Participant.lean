import Macsec.Mka.Types

/-!
# The MKA participant state machine

The functions of `mka.c` that act on the protocol state: its transitions, the
two SAK slots, Key Server election, rekeying, the installation handshake with
the data plane, and the processing of an authenticated MKPDU.  Where the
source draws random octets for a SAK, the functions take them as an argument.
-/

namespace Macsec

namespace Mka

/-! ## Transitions -/

/-- The transitions of the participant state that are allowed. -/
def stateTransitionAllowed (oldState newState : State) : Bool :=
  if oldState = newState then
    true
  else if newState = .error then
    true
  else
    match oldState with
    | .init => newState == .waitPeer
    | .waitPeer => newState == .peerDiscovered || newState == .peerLive
    | .peerDiscovered => newState == .waitPeer || newState == .peerLive
    | .peerLive =>
        newState == .waitPeer || newState == .peerDiscovered ||
          newState == .operational
    | .operational =>
        newState == .waitPeer || newState == .peerDiscovered ||
          newState == .peerLive
    | .error => false

/-- The transitions of the lifecycle of a SAK that are allowed. -/
def sakTransitionAllowed (oldState newState : SakState) : Bool :=
  if oldState = newState then
    true
  else
    match oldState with
    | .none => newState == .candidate
    | .candidate =>
        newState == .distributionPending || newState == .installPending ||
          newState == .none
    | .distributionPending => newState == .distributed || newState == .none
    | .distributed => newState == .installPending || newState == .retiring
    | .installPending => newState == .active || newState == .retiring
    | .active => newState == .confirmed || newState == .retiring
    | .confirmed => newState == .active || newState == .retiring
    | .retiring => newState == .none

namespace Participant

/-- Raise events for the context of the participant. -/
def raiseEvents (ctx : Participant) (events : UInt32) : Participant :=
  { ctx with pendingEvents := ctx.pendingEvents ||| events }

/-- Schedule a control frame for some reasons. -/
def scheduleTx (ctx : Participant) (reasons : UInt32) : Participant :=
  { ctx with txReasons := ctx.txReasons ||| reasons }

/-- Change the participant state.  A transition that is not allowed raises the
error event and ends in the error state. -/
def setState (ctx : Participant) (newState : State) : Participant :=
  if ctx.state = newState then
    ctx
  else if !stateTransitionAllowed ctx.state newState then
    { ctx.raiseEvents EventFlag.error with state := .error }
  else
    { ctx with state := newState }

/-- Change the lifecycle of the latest SAK.  A transition that is not allowed ends
in the error state. -/
def setLatestState (ctx : Participant) (newState : SakState) : Participant :=
  if ctx.latestSak.lifecycleState = newState then
    ctx
  else if !sakTransitionAllowed ctx.latestSak.lifecycleState newState then
    ctx.setState .error
  else
    { ctx with latestSak := { ctx.latestSak with lifecycleState := newState } }

/-- Change the lifecycle of the old SAK.  A transition that is not allowed ends
in the error state. -/
def setOldState (ctx : Participant) (newState : SakState) : Participant :=
  if ctx.oldSak.lifecycleState = newState then
    ctx
  else if !sakTransitionAllowed ctx.oldSak.lifecycleState newState then
    ctx.setState .error
  else
    { ctx with oldSak := { ctx.oldSak with lifecycleState := newState } }

/-- Take all pending events and clear them. -/
def takeEvents (ctx : Participant) : UInt32 × Participant :=
  (ctx.pendingEvents, { ctx with pendingEvents := 0 })

/-! ## The two SAK slots -/

/-- Retire the latest SAK to the old slot.  A SAK that never reached the data
plane is dropped instead. -/
def moveLatestToOld (ctx : Participant) : Err × Participant :=
  if ctx.latestSak.lifecycleState = .none then
    (.notReady, ctx)
  else if ctx.oldSak.lifecycleState ≠ .none then
    (.busy, ctx)
  else if !ctx.latestSak.rxInstalled && !ctx.latestSak.txInstalled then
    (.ok, { ctx with latestSak := Sak.cleared })
  else
    let ctx :=
      { ctx with
        oldSak :=
          { ctx.latestSak with
            peerRxConfirmed := false
            peerTxConfirmed := false } }
    let ctx := ctx.setOldState .retiring
    if ctx.oldSak.lifecycleState ≠ .retiring then
      (.state, ctx)
    else
      (.ok, { ctx with latestSak := Sak.cleared })

/-! ## Key Server -/

/-- Key Server election: the lower priority wins, and a tie goes to the sign of
the comparison of the channel identifiers. -/
def localWinsKeyServer (ctx : Participant) : Bool :=
  if !ctx.peer.valid then
    true
  else if ctx.keyServerPriority < ctx.peer.keyServerPriority then
    true
  else if ctx.keyServerPriority > ctx.peer.keyServerPriority then
    false
  else
    decide (compare ctx.localSci.1 ctx.peer.sci.1 < 0)

/-- The SAK a Key Server generates from its next key number and AN. -/
def generatedSak (ctx : Participant) (rnd : Octets 16) : Sak :=
  { Sak.cleared with
    sak := rnd.1
    an := ctx.keyServerNextAn
    keyNumber := ctx.keyServerNextKeyNumber
    origin := .localKeyServer
    lowestPn := 1 }

/-- Generate a SAK unless there is one. -/
def keyServerEnsureSak (ctx : Participant) (rnd : Octets 16) :
    Err × Participant :=
  if !ctx.localKeyServer then
    (.state, ctx)
  else if !(ctx.peer.valid && ctx.peer.live) then
    (.notReady, ctx)
  else if ctx.latestSak.lifecycleState ≠ .none then
    if ctx.latestSak.origin ≠ .localKeyServer then
      (.state, ctx)
    else
      (.ok, ctx)
  else
    let ctx := { ctx with latestSak := ctx.generatedSak rnd }
    let ctx := ctx.setLatestState .candidate
    let ctx := ctx.setLatestState .distributionPending
    let ctx := ctx.raiseEvents EventFlag.txDistributeSak
    (.ok, ctx.scheduleTx TxReason.distributeSak)

/-- Announce a rekey and, if there is a new SAK already, its distribution. -/
def announceRekey (ctx : Participant) : Participant :=
  let ctx := ctx.raiseEvents EventFlag.rekeyRequired
  let ctx := ctx.scheduleTx (TxReason.rekey ||| TxReason.peerChange)
  if ctx.latestSak.lifecycleState ≠ .none then
    (ctx.raiseEvents EventFlag.txDistributeSak).scheduleTx
      TxReason.distributeSak
  else
    ctx

/-- Replace the latest SAK.  Generating the new one waits for a live peer. -/
def startRekey (ctx : Participant) (rnd : Octets 16) : Err × Participant :=
  if !ctx.localKeyServer then
    (.state, ctx)
  else if ctx.oldSak.lifecycleState ≠ .none then
    (.busy, ctx)
  else
    match
      (if ctx.latestSak.lifecycleState ≠ .none then ctx.moveLatestToOld
        else (.ok, ctx)) with
    | (.ok, ctx) =>
        match
          (if ctx.peer.valid && ctx.peer.live then ctx.keyServerEnsureSak rnd
            else (.ok, ctx)) with
        | (.ok, ctx) => (.ok, ctx.announceRekey)
        | (ret, ctx) => (ret, ctx)
    | (ret, ctx) => (ret, ctx)

/-! ## Installation handshake -/

/-- Whether the latest SAK is due for installation. -/
def sakAvailable (sak : Sak) : Bool :=
  (sak.origin == .remoteKeyServer && sak.lifecycleState == .candidate) ||
    (sak.origin == .localKeyServer && sak.lifecycleState == .distributed) ||
    (sak.lifecycleState == .installPending &&
      (sak.origin == .remoteKeyServer || sak.origin == .localKeyServer))

/-- Hand the latest SAK to the data plane. -/
def takeSakForInstall (ctx : Participant) : Err × Participant × Sak :=
  if ctx.latestSak.lifecycleState = .none then
    (.notReady, ctx, Sak.cleared)
  else if !sakLenValid ctx.latestSak.sak.length then
    (.state, ctx, Sak.cleared)
  else if ctx.latestSak.keyNumber = 0 then
    (.state, ctx, Sak.cleared)
  else if !sakAvailable ctx.latestSak then
    (.notReady, ctx, Sak.cleared)
  else if ctx.latestSak.rxInstalled && ctx.latestSak.txInstalled then
    (.notReady, ctx, Sak.cleared)
  else
    let ctx :=
      if ctx.latestSak.lifecycleState ≠ .installPending then
        ctx.setLatestState .installPending
      else
        ctx
    (.ok, ctx, ctx.latestSak)

/-- Record the installed directions of the latest SAK.  Once it transmits, the
old SAK no longer does. -/
def markInstalled (ctx : Participant) (directions : UInt8)
    (lowestPn : UInt32) : Participant :=
  let latestSak :=
    if directions &&& installRx ≠ 0 then
      { ctx.latestSak with rxInstalled := true }
    else
      ctx.latestSak
  let latestSak :=
    if directions &&& installTx ≠ 0 then
      { latestSak with txInstalled := true }
    else
      latestSak
  let oldSak :=
    if directions &&& installTx ≠ 0 ∧
        ctx.oldSak.lifecycleState = .retiring then
      { ctx.oldSak with txInstalled := false }
    else
      ctx.oldSak
  { ctx with
    latestSak := { latestSak with lowestPn := lowestPn }
    oldSak := oldSak }

/-- The latest SAK was confirmed by the peer: the old one may be removed. -/
def raiseConfirmed (ctx : Participant) : Participant :=
  let ctx := ctx.raiseEvents EventFlag.sakConfirmed
  if ctx.oldSak.lifecycleState = .retiring then
    ctx.raiseEvents EventFlag.sakRetireRequired
  else
    ctx

/-- Complete the installation once both directions are installed. -/
def completeInstall (ctx : Participant) : Err × Participant :=
  let ctx := ctx.setLatestState .active
  if ctx.latestSak.lifecycleState ≠ .active then
    (.state, ctx)
  else
    let ctx :=
      ctx.raiseEvents (EventFlag.sakActive ||| EventFlag.txSakUse)
    let confirmed :=
      ctx.latestSak.peerRxConfirmed && ctx.latestSak.peerTxConfirmed
    let ctx := if confirmed then ctx.setLatestState .confirmed else ctx
    if confirmed ∧ ctx.latestSak.lifecycleState ≠ .confirmed then
      (.state, ctx)
    else
      let ctx := if confirmed then ctx.raiseConfirmed else ctx
      let ctx := ctx.scheduleTx TxReason.sakUse
      if ctx.peer.valid && ctx.peer.live then
        let ctx := ctx.setState .operational
        if ctx.state ≠ .operational then (.state, ctx) else (.ok, ctx)
      else
        (.ok, ctx)

/-- The data plane reports installed directions.  The source masks the
association number to two bits, which makes it an element of `Fin 4`. -/
def notifySakInstalled (ctx : Participant) (keyNumber : UInt32) (an : Fin 4)
    (directions : UInt8) (lowestPn : UInt32) : Err × Participant :=
  if ctx.latestSak.lifecycleState = .none then
    (.notReady, ctx)
  else if ctx.latestSak.lifecycleState ≠ .installPending then
    (.state, ctx)
  else if ctx.latestSak.keyNumber ≠ keyNumber then
    (.param, ctx)
  else if ctx.latestSak.an ≠ an then
    (.param, ctx)
  else if directions = 0 ∨ directions &&& ~~~(installRx ||| installTx) ≠ 0 then
    (.param, ctx)
  else
    let ctx :=
      ctx.markInstalled directions (if lowestPn ≠ 0 then lowestPn else 1)
    if !ctx.latestSak.rxInstalled || !ctx.latestSak.txInstalled then
      (.ok, ctx)
    else
      ctx.completeInstall

/-- The data plane reports the removal of the old SAK. -/
def notifySakRetired (ctx : Participant) (keyNumber : UInt32) (an : Fin 4) :
    Err × Participant :=
  if ctx.oldSak.lifecycleState = .none then
    (.notReady, ctx)
  else if ctx.oldSak.keyNumber ≠ keyNumber then
    (.param, ctx)
  else if ctx.oldSak.an ≠ an then
    (.param, ctx)
  else if ctx.oldSak.lifecycleState ≠ .retiring then
    (.state, ctx)
  else
    let ctx := ctx.setOldState .none
    if ctx.oldSak.lifecycleState ≠ .none then
      (.state, ctx)
    else
      (.ok,
        { ctx with oldSak := Sak.cleared }.raiseEvents EventFlag.sakRetired)

/-! ## Received MKPDUs -/

/-- Whether a Distributed SAK repeats the latest SAK. -/
def sameSak (ctx : Participant) (found : DistributedSak) : Bool :=
  ctx.latestSak.lifecycleState != .none &&
    ctx.latestSak.origin == .remoteKeyServer &&
    ctx.latestSak.keyNumber == found.keyNumber &&
    ctx.latestSak.an == found.an &&
    ctx.latestSak.sak.length == found.sak.length &&
    compare ctx.latestSak.sak found.sak == 0

/-- Adopt a Distributed SAK as the latest SAK, unless it is known. -/
def adoptDistributedSak (ctx : Participant) (found : DistributedSak) :
    Err × Participant :=
  if ctx.sameSak found then
    (.notReady, ctx)
  else
    match
      (if ctx.latestSak.lifecycleState ≠ .none then ctx.moveLatestToOld
        else (.ok, ctx)) with
    | (.ok, ctx) =>
        let ctx := { ctx with latestSak := found.toSak }
        let ctx := ctx.setLatestState .candidate
        (.ok, ctx.raiseEvents EventFlag.sakAvailable)
    | (ret, ctx) => (ret, ctx)

/-- Process the result of the scan for a Distributed SAK. -/
def parseDistributedSak (ctx : Participant)
    (found : Except Err DistributedSak) : Err × Participant :=
  match found with
  | .error ret => (ret, ctx)
  | .ok found => ctx.adoptDistributedSak found

/-- Whether an MKPDU comes from another participant than the recorded
peer. -/
def peerIdentityChanged (ctx : Participant) (basic : Basic) : Bool :=
  !ctx.peer.valid || compare ctx.peer.mi.1 basic.actorMi.1 != 0 ||
    compare ctx.peer.sci.1 basic.sci.1 != 0 ||
    compare ctx.peer.mac.1 basic.srcMac.1 != 0

/-- Record the identity and the capabilities of the sender. -/
def updatePeer (ctx : Participant) (basic : Basic) (nowMs : UInt32) :
    Participant :=
  { ctx with
    peer :=
      { ctx.peer with
        mac := basic.srcMac
        sci := basic.sci
        mi := basic.actorMi
        mn := basic.actorMn
        keyServerPriority := basic.keyServerPriority
        keyServer := basic.keyServer
        macsecDesired := basic.macsecDesired
        macsecCapability := basic.macsecCapability
        lastSeenMs := nowMs
        valid := true } }

/-- A peer that lists the participant is live; a new peer that does not is
only discovered. -/
def updateLiveness (ctx : Participant) (localSeen identityChanged
    previousPeerLive : Bool) : Participant :=
  if localSeen then
    { ctx with
      peer := { ctx.peer with seenInPeerList := true, live := true } }.setState
        .peerLive
  else if identityChanged || !previousPeerLive then
    { ctx with
      peer :=
        { ctx.peer with seenInPeerList := false, live := false } }.setState
          .peerDiscovered
  else
    { ctx with peer := { ctx.peer with live := true } }

/-- Whether the SAK Use of the peer is about the latest SAK. -/
def sakUseApplies (ctx : Participant) (report : SakUse) : Bool :=
  (ctx.latestSak.lifecycleState == .distributed ||
      ctx.latestSak.lifecycleState == .installPending ||
      ctx.latestSak.lifecycleState == .active ||
      ctx.latestSak.lifecycleState == .confirmed) &&
    ctx.latestSak.origin != .none &&
    (if ctx.localKeyServer then
      ctx.latestSak.origin == .localKeyServer &&
        compare report.keyServerMi.1 ctx.localMi.1 == 0
    else
      ctx.latestSak.origin == .remoteKeyServer && ctx.peer.valid &&
        compare report.keyServerMi.1 ctx.peer.mi.1 == 0) &&
    report.keyNumber == ctx.latestSak.keyNumber && report.an == ctx.latestSak.an

/-- Record the confirmation flags of the peer. -/
def confirmSak (ctx : Participant) (report : SakUse) : Err × Participant :=
  let ctx :=
    { ctx with
      latestSak :=
        { ctx.latestSak with
          peerTxConfirmed := report.latestTx
          peerRxConfirmed := report.latestRx } }
  if report.latestRx && report.latestTx then
    if ctx.latestSak.lifecycleState = .active then
      let ctx := ctx.setLatestState .confirmed
      if ctx.latestSak.lifecycleState ≠ .confirmed then
        (.state, ctx)
      else
        (.ok, ctx.raiseConfirmed)
    else
      (.ok, ctx)
  else if ctx.latestSak.lifecycleState = .confirmed then
    (.ok, ctx.setLatestState .active)
  else
    (.ok, ctx)

/-- Process the result of the scan for SAK Use. -/
def parseSakUse (ctx : Participant) (found : Except Err SakUse) :
    Err × Participant :=
  match found with
  | .error ret => (ret, ctx)
  | .ok report =>
      if ctx.sakUseApplies report then ctx.confirmSak report
      else (.notReady, ctx)

/-- Raise events and schedule a transmission if a condition holds. -/
def announceIf (ctx : Participant) (condition : Bool)
    (events reasons : UInt32) :
    Participant :=
  if condition then (ctx.raiseEvents events).scheduleTx reasons else ctx

/-- Announce what an MKPDU changed. -/
def announceInput (ctx : Participant) (identityChanged becameLive
    becameNotLive keyServerChanged : Bool) : Participant :=
  let ctx :=
    ctx.announceIf identityChanged
      (EventFlag.peerDiscovered ||| EventFlag.txPeerChange)
      TxReason.peerChange
  let ctx :=
    ctx.announceIf becameLive (EventFlag.peerLive ||| EventFlag.txPeerChange)
      TxReason.peerChange
  let ctx :=
    ctx.announceIf becameNotLive
      (EventFlag.peerLost ||| EventFlag.txPeerChange) TxReason.peerChange
  ctx.announceIf keyServerChanged
    (EventFlag.keyServerChanged ||| EventFlag.txKeyServerChange)
    TxReason.keyServerChange

/-- A Key Server whose peer was replaced begins a rekey. -/
def rekeyForPeer (ctx : Participant) (identityChanged : Bool)
    (rnd : Octets 16) : Err × Participant :=
  if identityChanged && ctx.localKeyServer &&
      ctx.latestSak.lifecycleState != .none then
    ctx.startRekey rnd
  else
    (.ok, ctx)

/-- Process an authenticated MKPDU: `macsec_mka_input` from the point on where
the integrity check value has been verified. -/
def processMkpdu (ctx : Participant) (pdu : Mkpdu) (rnd : Octets 16)
    (nowMs : UInt32) : Err × Participant :=
  let previousPeerLive := ctx.peer.live
  let previousLocalKeyServer := ctx.localKeyServer
  let identityChanged := ctx.peerIdentityChanged pdu.basic
  let (ret, ctx) := ctx.parseDistributedSak pdu.distributedSak
  if ret ≠ .ok ∧ ret ≠ .notReady then
    (ret, ctx)
  else
    let ctx := ctx.updatePeer pdu.basic nowMs
    let ctx :=
      ctx.updateLiveness pdu.localSeen identityChanged previousPeerLive
    let becameLive := !previousPeerLive && ctx.peer.live
    let becameNotLive :=
      !identityChanged && previousPeerLive && !ctx.peer.live
    let ctx := { ctx with localKeyServer := ctx.localWinsKeyServer }
    let keyServerChanged := previousLocalKeyServer != ctx.localKeyServer
    let (ret, ctx) := ctx.rekeyForPeer identityChanged rnd
    if ret ≠ .ok ∧ ret ≠ .busy then
      (ret, ctx)
    else
      let (ret, ctx) := ctx.parseSakUse pdu.sakUse
      if ret ≠ .ok ∧ ret ≠ .notReady then
        (ret, ctx)
      else
        (.ok,
          ctx.announceInput identityChanged becameLive becameNotLive
            keyServerChanged)

/-! ## Time -/

/-- Forget a peer that was silent for too long. -/
def expirePeer (ctx : Participant) (nowMs : UInt32) : Participant :=
  if ctx.peer.valid ∧
      nowMs - ctx.peer.lastSeenMs ≥
        ctx.txIntervalMs * peerTimeoutMultiplier then
    let ctx :=
      { ctx with
        peer :=
          { ctx.peer with
            valid := false
            live := false
            seenInPeerList := false } }
    let ctx := ctx.setState .waitPeer
    (ctx.raiseEvents (EventFlag.peerLost ||| EventFlag.txPeerChange)).scheduleTx
      TxReason.peerChange
  else
    ctx

/-- The clock of the participant moves on: the peer may expire, and the next
frame may be due. -/
def tick (ctx : Participant) (nowMs : UInt32) : Err × Participant :=
  let ctx := { ctx with lastTickMs := nowMs }
  let ctx := ctx.expirePeer nowMs
  if ctx.txReasons ≠ 0 then
    (.ok, ctx)
  else if ctx.lastTxMs = 0 then
    (.ok,
      (ctx.raiseEvents EventFlag.txInitial).scheduleTx TxReason.initial)
  else if nowMs - ctx.lastTxMs ≥ ctx.txIntervalMs then
    (.ok,
      (ctx.raiseEvents EventFlag.txPeriodic).scheduleTx TxReason.periodic)
  else
    (.ok, ctx)

/-! ## Transmission -/

/-- Commit the first transmission of a Distributed SAK and reserve the next
key number and AN. -/
def commitDistribution (ctx : Participant) : Err × Participant :=
  let ctx := ctx.setLatestState .distributed
  if ctx.latestSak.lifecycleState ≠ .distributed then
    (.state, ctx)
  else
    let ctx :=
      ctx.raiseEvents (EventFlag.sakDistributed ||| EventFlag.sakAvailable)
    let next := ctx.keyServerNextKeyNumber + 1
    (.ok,
      { ctx with
        keyServerNextKeyNumber := if next = 0 then 1 else next
        keyServerNextAn := ctx.keyServerNextAn + 1 })

/-- The Distributed SAK of a transmitted MKPDU, if it contains one. -/
def notifyDistributed (ctx : Participant) (txMeta : TxMeta) :
    Err × Participant :=
  if !txMeta.containsDistributedSak then
    (.ok, ctx)
  else if !sakDistributable ctx.latestSak ||
      ctx.latestSak.origin != .localKeyServer ||
      ctx.latestSak.keyNumber != txMeta.distributedKeyNumber ||
      ctx.latestSak.an != txMeta.distributedAn then
    (.state, ctx)
  else if ctx.latestSak.lifecycleState = .distributionPending then
    ctx.commitDistribution
  else
    (.ok, ctx)

/-- The frame described by the metadata was transmitted. -/
def notifyTxSuccess (ctx : Participant) (txMeta : TxMeta) (nowMs : UInt32) :
    Err × Participant :=
  if txMeta.messageNumber ≠ ctx.localMn then
    (.state, ctx)
  else if txMeta.reasons = 0 then
    (.param, ctx)
  else if txMeta.reasons &&& ~~~TxReason.all ≠ 0 then
    (.param, ctx)
  else
    match ctx.notifyDistributed txMeta with
    | (.ok, ctx) =>
        let next := ctx.localMn + 1
        (.ok,
          { ctx with
            localMn := if next = 0 then 1 else next
            lastTxMs := if nowMs ≠ 0 then nowMs else 1
            txReasons := ctx.txReasons &&& ~~~txMeta.reasons })
    | (ret, ctx) => (ret, ctx)

/-- The frame described by the metadata was not transmitted. -/
def notifyTxFailure (ctx : Participant) (txMeta : TxMeta) : Participant :=
  { ctx with txReasons := ctx.txReasons ||| txMeta.reasons }

/-- Generate a SAK if one is due before a frame is built. -/
def ensureForTx (ctx : Participant) (rnd : Octets 16) : Err × Participant :=
  if ctx.localKeyServer && ctx.peer.valid && ctx.peer.live then
    ctx.keyServerEnsureSak rnd
  else
    (.ok, ctx)

/-- A peer list is written for a valid peer. -/
def includePeerList (ctx : Participant) : Bool :=
  ctx.peer.valid

/-- A SAK is distributed by a Key Server to a live peer until the peer
confirms to receive under it. -/
def includeDistributedSak (ctx : Participant) : Bool :=
  ctx.localKeyServer && ctx.peer.valid && ctx.peer.live &&
    sakDistributable ctx.latestSak &&
    ctx.latestSak.origin == .localKeyServer &&
    (ctx.latestSak.lifecycleState == .distributionPending ||
      !ctx.latestSak.peerRxConfirmed)

/-- SAK Use is written for a live peer while there is a SAK to report. -/
def includeSakUse (ctx : Participant) : Bool :=
  (ctx.latestSak.lifecycleState != .none ||
      ctx.oldSak.lifecycleState == .retiring) &&
    ctx.peer.valid && ctx.peer.live

/-- The metadata of the frame that is built in a state. -/
def txMeta (ctx : Participant) : TxMeta where
  messageNumber := ctx.localMn
  reasons := ctx.txReasons
  containsPeerList := ctx.includePeerList
  containsDistributedSak := ctx.includeDistributedSak
  containsSakUse := ctx.includeSakUse
  distributedKeyNumber :=
    if ctx.includeDistributedSak then ctx.latestSak.keyNumber else 0
  distributedAn := if ctx.includeDistributedSak then ctx.latestSak.an else 0

end Participant

end Mka

end Macsec
