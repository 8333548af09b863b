import Macsec.Mka.Reception
import Macsec.Mka.Scripts

/-!
# No transition is ever refused

The transitions of the participant state and of the two SAK slots that each
operation attempts, in order.  In a participant that satisfies the invariant
all of them are allowed, so the error state is never entered; from this and
the invariant follows what every reachable participant looks like.
-/

namespace Macsec

namespace Mka

/-! ## Attempted transitions -/

/-- A transition that an operation asks for. -/
inductive Attempt
  | participant (oldState newState : State)
  | sak (oldState newState : SakState)

/-- Whether an attempted transition is allowed. -/
def Attempt.allowed : Attempt → Bool
  | .participant oldState newState => stateTransitionAllowed oldState newState
  | .sak oldState newState => sakTransitionAllowed oldState newState

/-- All of the attempted transitions are allowed. -/
def Permitted (attempts : List Attempt) : Prop :=
  ∀ attempt ∈ attempts, attempt.allowed = true

theorem permitted_nil : Permitted [] := by
  simp [Permitted]

theorem permitted_singleton {attempt : Attempt} :
    Permitted [attempt] ↔ attempt.allowed = true := by
  simp [Permitted]

theorem permitted_ite {condition : Prop} [Decidable condition]
    {first second : List Attempt} (ofFirst : condition → Permitted first)
    (ofSecond : ¬condition → Permitted second) :
    Permitted (if condition then first else second) := by
  split
  next holds => exact ofFirst holds
  next fails => exact ofSecond fails

theorem Permitted.append {first second : List Attempt}
    (ofFirst : Permitted first) (ofSecond : Permitted second) :
    Permitted (first ++ second) :=
  fun attempt member =>
    (List.mem_append.mp member).elim (ofFirst attempt) (ofSecond attempt)

namespace Participant

/-- The transitions of `moveLatestToOld`. -/
def moveLatestToOldAttempts (ctx : Participant) : List Attempt :=
  if ctx.latestSak.lifecycleState = .none then
    []
  else if ctx.oldSak.lifecycleState ≠ .none then
    []
  else if !ctx.latestSak.rxInstalled && !ctx.latestSak.txInstalled then
    []
  else
    [.sak ctx.latestSak.lifecycleState .retiring]

/-- The transitions of `keyServerEnsureSak`. -/
def keyServerEnsureSakAttempts (ctx : Participant) : List Attempt :=
  if !ctx.localKeyServer then
    []
  else if !(ctx.peer.valid && ctx.peer.live) then
    []
  else if ctx.latestSak.lifecycleState ≠ .none then
    []
  else
    [.sak .none .candidate, .sak .candidate .distributionPending]

/-- The transitions of `startRekey`. -/
def startRekeyAttempts (ctx : Participant) : List Attempt :=
  if !ctx.localKeyServer then
    []
  else if ctx.oldSak.lifecycleState ≠ .none then
    []
  else
    let (ret, moved) :=
      if ctx.latestSak.lifecycleState ≠ .none then ctx.moveLatestToOld
      else (.ok, ctx)
    (if ctx.latestSak.lifecycleState ≠ .none then ctx.moveLatestToOldAttempts
      else []) ++
      (if ret = .ok ∧ (moved.peer.valid && moved.peer.live) then
        moved.keyServerEnsureSakAttempts
      else
        [])

/-- The transitions of `takeSakForInstall`. -/
def takeSakForInstallAttempts (ctx : Participant) : List Attempt :=
  if ctx.takeSakForInstall.1 = .ok ∧
      ctx.latestSak.lifecycleState ≠ .installPending then
    [.sak ctx.latestSak.lifecycleState .installPending]
  else
    []

/-- The transitions of `completeInstall`. -/
def completeInstallAttempts (ctx : Participant) : List Attempt :=
  [.sak ctx.latestSak.lifecycleState .active] ++
    (if ctx.latestSak.peerRxConfirmed && ctx.latestSak.peerTxConfirmed then
      [.sak .active .confirmed]
    else
      []) ++
    (if ctx.peer.valid && ctx.peer.live then
      [.participant ctx.state .operational]
    else
      [])

/-- The transitions of `notifySakInstalled`. -/
def notifySakInstalledAttempts (ctx : Participant) (keyNumber : UInt32)
    (an : Fin 4) (directions : UInt8) (lowestPn : UInt32) : List Attempt :=
  let marked :=
    ctx.markInstalled directions (if lowestPn ≠ 0 then lowestPn else 1)
  if ctx.latestSak.lifecycleState ≠ .installPending then
    []
  else if ctx.latestSak.keyNumber ≠ keyNumber ∨ ctx.latestSak.an ≠ an then
    []
  else if directions = 0 ∨ directions &&& ~~~(installRx ||| installTx) ≠ 0 then
    []
  else if !marked.latestSak.rxInstalled || !marked.latestSak.txInstalled then
    []
  else
    marked.completeInstallAttempts

/-- The transitions of `notifySakRetired`. -/
def notifySakRetiredAttempts (ctx : Participant) (keyNumber : UInt32)
    (an : Fin 4) : List Attempt :=
  if ctx.oldSak.lifecycleState ≠ .retiring then
    []
  else if ctx.oldSak.keyNumber ≠ keyNumber ∨ ctx.oldSak.an ≠ an then
    []
  else
    [.sak ctx.oldSak.lifecycleState .none]

/-- The transitions of `parseDistributedSak`. -/
def parseDistributedSakAttempts (ctx : Participant)
    (found : Except Err DistributedSak) : List Attempt :=
  match found with
  | .error _ => []
  | .ok found =>
      if ctx.sameSak found then
        []
      else
        let (ret, _) :=
          if ctx.latestSak.lifecycleState ≠ .none then ctx.moveLatestToOld
          else (.ok, ctx)
        (if ctx.latestSak.lifecycleState ≠ .none then
          ctx.moveLatestToOldAttempts
        else
          []) ++
          (if ret = .ok then [.sak .none .candidate] else [])

/-- The transitions of `updateLiveness`. -/
def updateLivenessAttempts (ctx : Participant) (localSeen identityChanged
    previousPeerLive : Bool) : List Attempt :=
  if localSeen then
    [.participant ctx.state .peerLive]
  else if identityChanged || !previousPeerLive then
    [.participant ctx.state .peerDiscovered]
  else
    []

/-- The transitions of `rekeyForPeer`. -/
def rekeyForPeerAttempts (ctx : Participant) (identityChanged : Bool) :
    List Attempt :=
  if identityChanged && ctx.localKeyServer &&
      ctx.latestSak.lifecycleState != .none then
    ctx.startRekeyAttempts
  else
    []

/-- The transitions of `confirmSak`. -/
def confirmSakAttempts (ctx : Participant) (report : SakUse) : List Attempt :=
  if report.latestRx && report.latestTx then
    if ctx.latestSak.lifecycleState = .active then [.sak .active .confirmed]
    else []
  else if ctx.latestSak.lifecycleState = .confirmed then
    [.sak .confirmed .active]
  else
    []

/-- The transitions of `parseSakUse`. -/
def parseSakUseAttempts (ctx : Participant) (found : Except Err SakUse) :
    List Attempt :=
  match found with
  | .error _ => []
  | .ok report =>
      if ctx.sakUseApplies report then ctx.confirmSakAttempts report else []

/-- The transitions an authenticated MKPDU leads to, along the steps of
`processMkpdu`. -/
def processMkpduAttempts (ctx : Participant) (pdu : Mkpdu) (rnd : Octets 16)
    (nowMs : UInt32) : List Attempt :=
  let identityChanged := ctx.peerIdentityChanged pdu.basic
  let (ret, adopted) := ctx.parseDistributedSak pdu.distributedSak
  ctx.parseDistributedSakAttempts pdu.distributedSak ++
    (if ret ≠ .ok ∧ ret ≠ .notReady then
      []
    else
      let updated := adopted.updatePeer pdu.basic nowMs
      let recorded :=
        updated.updateLiveness pdu.localSeen identityChanged ctx.peer.live
      let elected :=
        { recorded with localKeyServer := recorded.localWinsKeyServer }
      let (_, rekeyed) := elected.rekeyForPeer identityChanged rnd
      updated.updateLivenessAttempts pdu.localSeen identityChanged
          ctx.peer.live ++
        elected.rekeyForPeerAttempts identityChanged ++
        rekeyed.parseSakUseAttempts pdu.sakUse)

/-- The transitions of `tick`. -/
def tickAttempts (ctx : Participant) (nowMs : UInt32) : List Attempt :=
  if ctx.peer.valid ∧
      nowMs - ctx.peer.lastSeenMs ≥
        ctx.txIntervalMs * peerTimeoutMultiplier then
    [.participant ctx.state .waitPeer]
  else
    []

/-- The transitions of `notifyTxSuccess`. -/
def notifyTxSuccessAttempts (ctx : Participant) (txMeta : TxMeta)
    (nowMs : UInt32) : List Attempt :=
  if (ctx.notifyTxSuccess txMeta nowMs).1 = .ok ∧
      txMeta.containsDistributedSak = true ∧
      ctx.latestSak.lifecycleState = .distributionPending then
    [.sak ctx.latestSak.lifecycleState .distributed]
  else
    []

/-- The transitions of `ensureForTx`. -/
def ensureForTxAttempts (ctx : Participant) : List Attempt :=
  if ctx.localKeyServer && ctx.peer.valid && ctx.peer.live then
    ctx.keyServerEnsureSakAttempts
  else
    []

/-! ## Refusals -/

variable {ctx : Participant}

theorem sakTransitionAllowed_refl (lifecycle : SakState) :
    sakTransitionAllowed lifecycle lifecycle = true := by
  cases lifecycle <;> rfl

theorem stateTransitionAllowed_error (state : State) :
    stateTransitionAllowed state .error = true := by
  cases state <;> rfl

/-- A refused transition of the participant state ends in the error state. -/
theorem setState_of_refused {newState : State}
    (refused :
      (Attempt.participant ctx.state newState).allowed = false) :
    (ctx.setState newState).state = .error := by
  unfold setState
  split
  next same =>
      rw [same] at refused
      cases newState <;> exact Bool.noConfusion refused
  next =>
      rw [Attempt.allowed] at refused
      rw [refused]
      rfl

/-- So does a refused transition of a SAK slot. -/
theorem setLatestState_of_refused {newState : SakState}
    (refused :
      (Attempt.sak ctx.latestSak.lifecycleState newState).allowed = false) :
    (ctx.setLatestState newState).state = .error := by
  rw [Attempt.allowed] at refused
  unfold setLatestState
  split
  next same =>
      rw [same, sakTransitionAllowed_refl] at refused
      exact Bool.noConfusion refused
  next =>
      rw [refused, if_pos (by decide),
        setState_of_allowed (stateTransitionAllowed_error ctx.state)]

theorem setOldState_of_refused {newState : SakState}
    (refused :
      (Attempt.sak ctx.oldSak.lifecycleState newState).allowed = false) :
    (ctx.setOldState newState).state = .error := by
  rw [Attempt.allowed] at refused
  unfold setOldState
  split
  next same =>
      rw [same, sakTransitionAllowed_refl] at refused
      exact Bool.noConfusion refused
  next =>
      rw [refused, if_pos (by decide),
        setState_of_allowed (stateTransitionAllowed_error ctx.state)]

/-! ## Every operation asks for allowed transitions only -/

theorem moveLatestToOld_permitted (shape : LatestShape ctx.latestSak) :
    Permitted ctx.moveLatestToOldAttempts := by
  refine permitted_ite (fun _ => permitted_nil) fun _ =>
    permitted_ite (fun _ => permitted_nil) fun _ =>
      permitted_ite (fun _ => permitted_nil) fun installed => ?_
  rw [← Bool.not_or, Bool.not_eq_true, Bool.not_eq_false'] at installed
  rw [permitted_singleton]
  rcases shape.of_installed installed with lifecycle | lifecycle | lifecycle
  all_goals
    rw [lifecycle]
    rfl

theorem keyServerEnsureSak_permitted (ctx : Participant) :
    Permitted ctx.keyServerEnsureSakAttempts := by
  refine permitted_ite (fun _ => permitted_nil) fun _ =>
    permitted_ite (fun _ => permitted_nil) fun _ =>
      permitted_ite (fun _ => permitted_nil) fun _ => ?_
  exact Permitted.append (permitted_singleton.mpr rfl)
    (permitted_singleton.mpr rfl)

theorem startRekey_permitted (shape : LatestShape ctx.latestSak) :
    Permitted ctx.startRekeyAttempts := by
  refine permitted_ite (fun _ => permitted_nil) fun _ =>
    permitted_ite (fun _ => permitted_nil) fun _ => ?_
  refine Permitted.append ?_ ?_
  · exact permitted_ite (fun _ => moveLatestToOld_permitted shape)
      fun _ => permitted_nil
  · exact permitted_ite (fun _ => keyServerEnsureSak_permitted _)
      fun _ => permitted_nil

theorem takeSakForInstall_permitted (inv : ctx.Inv) :
    Permitted ctx.takeSakForInstallAttempts := by
  refine permitted_ite (fun taken => ?_) fun _ => permitted_nil
  rw [permitted_singleton]
  rcases ctx.takeSakForInstall_cases inv with ⟨-, result⟩ | ⟨available, -⟩
  · rw [result] at taken
    exact Err.noConfusion taken.1
  · rcases lifecycle_of_available available with
      lifecycle | lifecycle | lifecycle
    all_goals
      rw [lifecycle]
      rfl

theorem completeInstall_permitted (shape : PeerShape ctx.state ctx.peer)
    (pending : ctx.latestSak.lifecycleState = .installPending) :
    Permitted ctx.completeInstallAttempts := by
  refine (Permitted.append ?_ ?_).append ?_
  · rw [permitted_singleton, pending]
    rfl
  · exact permitted_ite (fun _ => permitted_singleton.mpr rfl)
      fun _ => permitted_nil
  · exact permitted_ite
      (fun live => permitted_singleton.mpr (operational_allowed shape live))
      fun _ => permitted_nil

theorem notifySakInstalled_permitted (inv : ctx.Inv) (keyNumber : UInt32)
    (an : Fin 4) (directions : UInt8) (lowestPn : UInt32) :
    Permitted
      (ctx.notifySakInstalledAttempts keyNumber an directions lowestPn) := by
  refine permitted_ite (fun _ => permitted_nil) fun pending =>
    permitted_ite (fun _ => permitted_nil) fun _ =>
      permitted_ite (fun _ => permitted_nil) fun _ =>
        permitted_ite (fun _ => permitted_nil) fun _ => ?_
  obtain ⟨rx, tx, latest⟩ :=
    ctx.markInstalled_latest directions
      (if lowestPn ≠ 0 then lowestPn else 1)
  refine completeInstall_permitted inv.peer ?_
  rw [latest]
  exact not_not.mp pending

theorem notifySakRetired_permitted (keyNumber : UInt32) (an : Fin 4) :
    Permitted (ctx.notifySakRetiredAttempts keyNumber an) := by
  refine permitted_ite (fun _ => permitted_nil) fun retiring =>
    permitted_ite (fun _ => permitted_nil) fun _ => ?_
  rw [permitted_singleton, not_not.mp retiring]
  rfl

theorem parseDistributedSak_permitted (shape : LatestShape ctx.latestSak)
    (found : Except Err DistributedSak) :
    Permitted (ctx.parseDistributedSakAttempts found) := by
  cases found with
  | error ret => exact permitted_nil
  | ok found =>
      refine permitted_ite (fun _ => permitted_nil) fun _ => ?_
      refine Permitted.append ?_ ?_
      · exact permitted_ite (fun _ => moveLatestToOld_permitted shape)
          fun _ => permitted_nil
      · exact permitted_ite (fun _ => permitted_singleton.mpr rfl)
          fun _ => permitted_nil

theorem updateLiveness_permitted {former : Peer}
    (shape : PeerShape ctx.state former) (localSeen identityChanged
      previousPeerLive : Bool) :
    Permitted
      (ctx.updateLivenessAttempts localSeen identityChanged
        previousPeerLive) := by
  obtain ⟨live, discovered⟩ :=
    @allowed_of_peerShape { ctx with peer := former } shape
  exact permitted_ite (fun _ => permitted_singleton.mpr live) fun _ =>
    permitted_ite (fun _ => permitted_singleton.mpr discovered)
      fun _ => permitted_nil

theorem rekeyForPeer_permitted (shape : LatestShape ctx.latestSak)
    (identityChanged : Bool) :
    Permitted (ctx.rekeyForPeerAttempts identityChanged) :=
  permitted_ite (fun _ => startRekey_permitted shape) fun _ => permitted_nil

theorem parseSakUse_permitted (found : Except Err SakUse) :
    Permitted (ctx.parseSakUseAttempts found) := by
  cases found with
  | error ret => exact permitted_nil
  | ok report =>
      refine permitted_ite (fun _ => ?_) fun _ => permitted_nil
      refine permitted_ite (fun _ => ?_) fun _ => ?_
      · exact permitted_ite (fun _ => permitted_singleton.mpr rfl)
          fun _ => permitted_nil
      · exact permitted_ite (fun _ => permitted_singleton.mpr rfl)
          fun _ => permitted_nil

theorem processMkpdu_permitted (inv : ctx.Inv) (pdu : Mkpdu) (rnd : Octets 16)
    (nowMs : UInt32) : Permitted (ctx.processMkpduAttempts pdu rnd nowMs) := by
  have adoption := ctx.parseDistributedSak_keeps inv pdu.distributedSak
  have frame := ctx.parseDistributedSak_sameRest inv pdu.distributedSak
  refine (parseDistributedSak_permitted inv.latest _).append ?_
  refine permitted_ite (fun _ => permitted_nil) fun _ => ?_
  refine (Permitted.append ?_ ?_).append (parseSakUse_permitted _)
  · exact updateLiveness_permitted (by exact adoption.inv.peer) _ _ _
  · refine rekeyForPeer_permitted ?_ _
    have meeting :=
      (ctx.parseDistributedSak pdu.distributedSak).2.meet_eq
        adoption.inv.peer pdu.basic pdu.localSeen nowMs
    rw [show (ctx.parseDistributedSak
          pdu.distributedSak).2.peerIdentityChanged pdu.basic =
        ctx.peerIdentityChanged pdu.basic by rw [frame]; rfl,
      show (ctx.parseDistributedSak pdu.distributedSak).2.peer.live =
        ctx.peer.live by rw [frame]; rfl] at meeting
    have latest := congrArg (fun met => LatestShape met.latestSak) meeting
    exact latest.mpr adoption.inv.latest

theorem tick_permitted (inv : ctx.Inv) (nowMs : UInt32) :
    Permitted (ctx.tickAttempts nowMs) := by
  refine permitted_ite (fun _ => ?_) fun _ => permitted_nil
  rw [permitted_singleton]
  have shape := inv.peer
  cases state : ctx.state with
  | init | error =>
      rw [state] at shape
      exact shape.elim
  | waitPeer | peerDiscovered | peerLive | operational => rfl

theorem notifyTxSuccess_permitted (txMeta : TxMeta) (nowMs : UInt32) :
    Permitted (ctx.notifyTxSuccessAttempts txMeta nowMs) := by
  refine permitted_ite (fun committed => ?_) fun _ => permitted_nil
  rw [permitted_singleton, committed.2.2]
  rfl

theorem ensureForTx_permitted : Permitted ctx.ensureForTxAttempts :=
  permitted_ite (fun _ => keyServerEnsureSak_permitted ctx)
    fun _ => permitted_nil

end Participant

/-! ## Every reachable participant -/

/-- The transitions a call attempts. -/
def attempts (aes : BlockCipher) (ctx : Ctx) : Call → List Attempt
  | .input frame rnd nowMs =>
      match classify aes ctx frame with
      | .accepted pdu => ctx.toParticipant.processMkpduAttempts pdu rnd nowMs
      | _ => []
  | .tick nowMs => ctx.toParticipant.tickAttempts nowMs
  | .takeEvents => []
  | .buildTxFrame _ _ =>
      if !ctx.crypto.keys.valid then []
      else if ctx.txReasons = 0 then []
      else if ctx.crypto.psk.ckn.length > caNameMaxLen then []
      else ctx.toParticipant.ensureForTxAttempts
  | .notifyTxSuccess txMeta nowMs =>
      ctx.toParticipant.notifyTxSuccessAttempts txMeta nowMs
  | .notifyTxFailure _ => []
  | .takeSakForInstall => ctx.toParticipant.takeSakForInstallAttempts
  | .notifySakInstalled keyNumber an directions lowestPn =>
      ctx.toParticipant.notifySakInstalledAttempts keyNumber an directions
        lowestPn
  | .notifySakRetired keyNumber an =>
      ctx.toParticipant.notifySakRetiredAttempts keyNumber an

theorem attempts_permitted {aes : BlockCipher} {ctx : Ctx}
    (inv : ctx.toParticipant.Inv) (call : Call) :
    Permitted (attempts aes ctx call) := by
  cases call with
  | input frame rnd nowMs =>
      change Permitted (match classify aes ctx frame with
        | .accepted pdu => _
        | _ => [])
      cases classify aes ctx frame with
      | rejected ret => exact permitted_nil
      | own => exact permitted_nil
      | accepted pdu => exact ctx.processMkpdu_permitted inv pdu rnd nowMs
  | tick nowMs => exact Participant.tick_permitted inv nowMs
  | takeEvents => exact permitted_nil
  | buildTxFrame rnd frameMaxLen =>
      exact permitted_ite (fun _ => permitted_nil) fun _ =>
        permitted_ite (fun _ => permitted_nil) fun _ =>
          permitted_ite (fun _ => permitted_nil) fun _ =>
            Participant.ensureForTx_permitted
  | notifyTxSuccess txMeta nowMs =>
      exact Participant.notifyTxSuccess_permitted txMeta nowMs
  | notifyTxFailure txMeta => exact permitted_nil
  | takeSakForInstall => exact Participant.takeSakForInstall_permitted inv
  | notifySakInstalled keyNumber an directions lowestPn =>
      exact Participant.notifySakInstalled_permitted inv keyNumber an
        directions lowestPn
  | notifySakRetired keyNumber an =>
      exact Participant.notifySakRetired_permitted keyNumber an

/-- What holds of a participant in every state it reaches. -/
structure Participant.Regular (ctx : Participant) : Prop where
  notInit : ctx.state ≠ .init
  notError : ctx.state ≠ .error
  noErrorEvent : hasFlag ctx.pendingEvents EventFlag.error = false
  absent : ctx.peer.valid = false ↔ ctx.state = .waitPeer
  discovered : ctx.peer.valid = true ∧ ctx.peer.live = false ↔
    ctx.state = .peerDiscovered
  live : ctx.peer.valid = true ∧ ctx.peer.live = true ↔
    ctx.state = .peerLive ∨ ctx.state = .operational
  old : ctx.oldSak.lifecycleState = .none ∨
    ctx.oldSak.lifecycleState = .retiring
  latest : ctx.latestSak.lifecycleState ≠ .retiring
  installing : ctx.latestSak.rxInstalled = true ∨
      ctx.latestSak.txInstalled = true →
    ctx.latestSak.lifecycleState = .installPending ∨
      ctx.latestSak.lifecycleState = .active ∨
      ctx.latestSak.lifecycleState = .confirmed
  installed : ctx.latestSak.rxInstalled = true ∧
      ctx.latestSak.txInstalled = true ↔
    ctx.latestSak.lifecycleState = .active ∨
      ctx.latestSak.lifecycleState = .confirmed
  confirmed : ctx.latestSak.lifecycleState = .confirmed →
    ctx.latestSak.peerRxConfirmed = true ∧ ctx.latestSak.peerTxConfirmed = true

/-- The participant state tells whether the peer is recorded and live. -/
theorem peerShape_iffs {state : State} {peer : Peer}
    (shape : PeerShape state peer) :
    (peer.valid = false ↔ state = .waitPeer) ∧
      (peer.valid = true ∧ peer.live = false ↔ state = .peerDiscovered) ∧
      (peer.valid = true ∧ peer.live = true ↔
        state = .peerLive ∨ state = .operational) := by
  cases state with
  | init | error => exact shape.elim
  | waitPeer | peerDiscovered | peerLive | operational =>
      obtain ⟨valid, live⟩ := shape
      simp [valid, live]

theorem Participant.Inv.regular {ctx : Participant} (inv : ctx.Inv) :
    ctx.Regular := by
  have installing (some : (ctx.latestSak.rxInstalled ||
      ctx.latestSak.txInstalled) = true) := inv.latest.of_installed some
  obtain ⟨absent, discovered, live⟩ := peerShape_iffs inv.peer
  refine ⟨?_, ?_, inv.noError, absent, discovered, live, ?_,
    inv.latest.not_retiring, ?_, ⟨?_, inv.latest.installed⟩, ?_⟩
  · intro state
    exact (state ▸ inv.peer : PeerShape .init ctx.peer)
  · intro state
    exact (state ▸ inv.peer : PeerShape .error ctx.peer)
  · by_cases free : ctx.oldSak.lifecycleState = .none
    · exact Or.inl free
    · exact Or.inr (inv.old.retiring free)
  · intro some
    exact installing (by simpa using some)
  · intro both
    have shape := inv.latest
    rcases installing (by simp [both.1]) with lifecycle | lifecycle | lifecycle
    · rw [LatestShape, lifecycle] at shape
      exact absurd both shape.2
    · exact Or.inl lifecycle
    · exact Or.inr lifecycle
  · intro lifecycle
    have shape := inv.latest
    rw [LatestShape, lifecycle] at shape
    exact shape.2.2.2

/-- Every reachable participant is regular, and whatever is called next attempts
only transitions that are allowed. -/
theorem reachable_regular {aes : BlockCipher} {ctx : Ctx}
    (reachable : Reachable aes ctx) :
    ctx.toParticipant.Regular ∧
      ∀ call, Permitted (attempts aes ctx call) :=
  ⟨reachable.inv.regular, fun call => attempts_permitted reachable.inv call⟩

/-- Station 1 provides its peer with a SAK, and after a restart of the peer with
another one. -/
def rekeying : List Cue :=
  [.hear admirer (sakOctets 9) 5] ++ provision 1 0 1 ++
    [.hear ((newcomer 2 20 13).listing (newcomer 1 10 11)) (sakOctets 2) 6] ++
    provision 2 1 2

/-- Station 1 when it has done so. -/
def rekeyedCtx : Ctx :=
  (machine BlockCipher.null).final (stationCtx BlockCipher.null 1 10 11)
    (rekeying.map
      (Cue.call BlockCipher.null
        (MkaCrypto.keysOf BlockCipher.null stationCak stationCkn)))

theorem reachable_rekeyedCtx : Reachable BlockCipher.null rekeyedCtx :=
  (reachable_stationCtx BlockCipher.null 1 10 11).final _

/-- A station with a live peer, an installed SAK and a retiring one is regular,
also when it loses the peer. -/
theorem rekeyedCtx_regular :
    (rekeyedCtx.peer.live = true ∧
        rekeyedCtx.latestSak.lifecycleState = .active ∧
        rekeyedCtx.oldSak.lifecycleState = .retiring) ∧
      rekeyedCtx.toParticipant.Regular ∧
      attempts BlockCipher.null rekeyedCtx (.tick 9000) ≠ [] ∧
      Permitted (attempts BlockCipher.null rekeyedCtx (.tick 9000)) :=
  ⟨by decide +kernel, (reachable_regular reachable_rekeyedCtx).1,
    by decide +kernel,
    (reachable_regular reachable_rekeyedCtx).2 (.tick 9000)⟩

end Mka

end Macsec
