import Macsec.Mka.Election

/-!
# The operations of the participant keep the invariant

Each operation gets one lemma that says what it does to a participant that
satisfies the invariant.  No operation attempts a transition that is not
allowed.
-/

namespace Macsec

namespace Mka

/-- A scan fails on a parameter set it cannot read. -/
def scanFails {α : Type} : Except Err α → Bool
  | .error ret => ret != .ok && ret != .notReady
  | .ok _ => false

theorem scanFails_iff {α : Type} {found : Except Err α} :
    scanFails found = true ↔
      ∃ ret, found = .error ret ∧ ret ≠ .ok ∧ ret ≠ .notReady := by
  cases found with
  | error ret => simp [scanFails]
  | ok found => simp [scanFails]

namespace Participant

variable {ctx : Participant}

/-- A generated SAK, waiting for its distribution. -/
def pendingSak (ctx : Participant) (rnd : Octets 16) : Sak :=
  { ctx.generatedSak rnd with lifecycleState := .distributionPending }

theorem latestShape_pendingSak
    (nextKeyNumber : ctx.keyServerNextKeyNumber ≠ 0) (rnd : Octets 16) :
    LatestShape (ctx.pendingSak rnd) := by
  have size : sakLenValid rnd.1.length = true := by rw [rnd.2]; rfl
  exact ⟨⟨size, nextKeyNumber, SakOrigin.noConfusion⟩, rfl,
    ⟨rfl, rfl, rfl, rfl⟩⟩

/-! ## What the operations do -/

theorem setState_of_allowed {newState : State}
    (allowed : stateTransitionAllowed ctx.state newState = true) :
    ctx.setState newState = { ctx with state := newState } := by
  unfold setState
  split
  next same => rw [← same]
  next => rw [allowed]; rfl

theorem setLatestState_of_allowed {newState : SakState}
    (allowed :
      sakTransitionAllowed ctx.latestSak.lifecycleState newState = true) :
    ctx.setLatestState newState =
      { ctx with
        latestSak := { ctx.latestSak with lifecycleState := newState } } := by
  unfold setLatestState
  split
  next same => rw [← same]
  next => rw [allowed]; rfl

theorem setOldState_of_allowed {newState : SakState}
    (allowed :
      sakTransitionAllowed ctx.oldSak.lifecycleState newState = true) :
    ctx.setOldState newState =
      { ctx with
        oldSak := { ctx.oldSak with lifecycleState := newState } } := by
  unfold setOldState
  split
  next same => rw [← same]
  next => rw [allowed]; rfl

theorem moveLatestToOld_of_free (shape : LatestShape ctx.latestSak)
    (present : ctx.latestSak.lifecycleState ≠ .none)
    (free : ctx.oldSak.lifecycleState = .none) :
    ctx.moveLatestToOld =
      (.ok,
        { ctx with
          oldSak := ctx.slots.superseded
          latestSak := Sak.cleared }) := by
  rw [moveLatestToOld, if_neg present, if_neg (not_not_intro free),
    Slots.superseded, slots]
  cases installed :
      ctx.latestSak.rxInstalled || ctx.latestSak.txInstalled with
  | false =>
      simp only [Bool.or_eq_false_iff] at installed
      simp only [installed.1, installed.2, Bool.not_false, Bool.and_self,
        if_true, Bool.false_eq_true, if_false]
  | true =>
      have notUninstalled :
          (!ctx.latestSak.rxInstalled && !ctx.latestSak.txInstalled) ≠
            true := by
        rw [← Bool.not_or, installed]
        decide
      have allowed :
          sakTransitionAllowed ctx.latestSak.lifecycleState .retiring =
            true := by
        rcases shape.of_installed installed with
          lifecycle | lifecycle | lifecycle
        all_goals rw [lifecycle]; rfl
      rw [if_neg notUninstalled]
      dsimp only
      rw [setOldState_of_allowed (by exact allowed)]
      simp only [ne_eq, not_true_eq_false, if_true, if_false]

/-- Adopting a Distributed SAK: it is known, or both slots are occupied, or it
becomes the candidate. -/
theorem adoptDistributedSak_cases (shape : LatestShape ctx.latestSak)
    (found : DistributedSak) :
    (ctx.sameSak found = true ∧
      ctx.adoptDistributedSak found = (.notReady, ctx)) ∨
    (ctx.sameSak found = false ∧
      ctx.latestSak.lifecycleState ≠ .none ∧
      ctx.oldSak.lifecycleState ≠ .none ∧
      ctx.adoptDistributedSak found = (.busy, ctx)) ∨
    (ctx.sameSak found = false ∧
      (ctx.latestSak.lifecycleState = .none ∨
        ctx.oldSak.lifecycleState = .none) ∧
      ctx.adoptDistributedSak found =
        (.ok,
          { ctx with
            latestSak := found.candidate
            oldSak := ctx.slots.superseded
            pendingEvents :=
              ctx.pendingEvents ||| EventFlag.sakAvailable })) := by
  unfold adoptDistributedSak
  cases same : ctx.sameSak found with
  | true => exact Or.inl ⟨rfl, rfl⟩
  | false =>
      rw [if_neg Bool.false_ne_true]
      by_cases present : ctx.latestSak.lifecycleState = .none
      · have empty := shape.eq_cleared present
        have untouched : ctx.slots.superseded = ctx.oldSak := by
          rw [Slots.superseded, slots, empty]
          rfl
        refine Or.inr (Or.inr ⟨rfl, Or.inl present, ?_⟩)
        rw [if_neg (not_not_intro present), untouched]
        dsimp only
        rw [setLatestState_of_allowed (by rfl)]
        rfl
      · rw [if_pos present]
        by_cases free : ctx.oldSak.lifecycleState = .none
        · refine Or.inr (Or.inr ⟨rfl, Or.inr free, ?_⟩)
          rw [moveLatestToOld_of_free shape present free]
          dsimp only
          rw [setLatestState_of_allowed (by rfl)]
          rfl
        · refine Or.inr (Or.inl ⟨rfl, present, free, ?_⟩)
          rw [moveLatestToOld, if_neg present, if_pos free]

/-- A Key Server with a live peer and no SAK generates one. -/
theorem keyServerEnsureSak_of_none
    (server : ctx.localKeyServer = true)
    (live : (ctx.peer.valid && ctx.peer.live) = true)
    (absent : ctx.latestSak.lifecycleState = .none) (rnd : Octets 16) :
    ctx.keyServerEnsureSak rnd =
      (.ok,
        { ctx with
          latestSak := ctx.pendingSak rnd
          pendingEvents := ctx.pendingEvents ||| EventFlag.txDistributeSak
          txReasons := ctx.txReasons ||| TxReason.distributeSak }) := by
  rw [keyServerEnsureSak, server, live, if_neg (by decide),
    if_neg (by decide), if_neg (not_not_intro absent)]
  dsimp only
  rw [setLatestState_of_allowed (by rfl), setLatestState_of_allowed (by rfl)]
  rfl

/-- With a SAK in place nothing is generated. -/
theorem keyServerEnsureSak_of_some
    (present : ctx.latestSak.lifecycleState ≠ .none) (rnd : Octets 16) :
    (ctx.keyServerEnsureSak rnd).2 = ctx := by
  unfold keyServerEnsureSak
  rw [if_pos present]
  split
  next => rfl
  next =>
      split
      next => rfl
      next =>
          split
          next => rfl
          next => rfl

/-- The latest slot after a rekey: a fresh SAK if the peer is live. -/
def rekeyedLatest (ctx : Participant) (rnd : Octets 16) : Sak :=
  if ctx.peer.valid && ctx.peer.live then ctx.pendingSak rnd else Sak.cleared

/-- The reasons a rekey schedules; a SAK that is generated with it is
distributed. -/
def rekeyReasons (ctx : Participant) : UInt32 :=
  if ctx.peer.valid && ctx.peer.live then
    TxReason.distributeSak |||
      ((TxReason.rekey ||| TxReason.peerChange) ||| TxReason.distributeSak)
  else
    TxReason.rekey ||| TxReason.peerChange

/-- A rekey of a Key Server either finds the old slot occupied or replaces the
latest SAK. -/
theorem startRekey_cases (inv : ctx.Inv)
    (server : ctx.localKeyServer = true)
    (present : ctx.latestSak.lifecycleState ≠ .none) (rnd : Octets 16) :
    (ctx.oldSak.lifecycleState ≠ .none ∧
      ctx.startRekey rnd = (.busy, ctx)) ∨
    (ctx.oldSak.lifecycleState = .none ∧
      ∃ events,
        hasFlag events servicedEvents = false ∧
        ctx.startRekey rnd =
          (.ok,
            { ctx with
              latestSak := ctx.rekeyedLatest rnd
              oldSak := ctx.slots.superseded
              pendingEvents := ctx.pendingEvents ||| events
              txReasons := ctx.txReasons ||| ctx.rekeyReasons })) := by
  rw [startRekey, if_neg (by rw [server]; decide)]
  by_cases free : ctx.oldSak.lifecycleState = .none
  · refine Or.inr ⟨free, ?_⟩
    rw [if_neg (not_not_intro free), if_pos present,
      moveLatestToOld_of_free inv.latest present free]
    rw [rekeyedLatest, rekeyReasons]
    cases live : ctx.peer.valid && ctx.peer.live with
    | false =>
        refine ⟨EventFlag.rekeyRequired, rfl, ?_⟩
        dsimp only
        rw [live]
        rfl
    | true =>
        refine ⟨EventFlag.txDistributeSak |||
          (EventFlag.rekeyRequired ||| EventFlag.txDistributeSak), rfl, ?_⟩
        have generated := @keyServerEnsureSak_of_none
          { ctx with oldSak := ctx.slots.superseded, latestSak := Sak.cleared }
          server live rfl rnd
        dsimp only
        rw [live, if_pos rfl, generated]
        simp only [announceRekey, raiseEvents, scheduleTx, pendingSak,
          ne_eq, reduceCtorEq, not_false_eq_true, if_true, UInt32.or_assoc]
        rfl
  · exact Or.inl ⟨free, if_pos free⟩

/-! ## Adoption -/

/-- A SAK that enters the latest slot from a scanned Distributed SAK. -/
def Adopts (ctx : Participant) (found : Except Err DistributedSak)
    (sak : Sak) : Prop :=
  ∃ distributed, found = .ok distributed ∧
    ctx.sameSak distributed = false ∧ sak = distributed.candidate

/-- Processing the scan for a Distributed SAK keeps the invariant. -/
theorem parseDistributedSak_keeps (inv : ctx.Inv)
    (found : Except Err DistributedSak) :
    Keeps (ctx.Adopts found) ctx (ctx.parseDistributedSak found).2 := by
  cases found with
  | error ret => exact .refl inv
  | ok found =>
      rw [parseDistributedSak]
      rcases ctx.adoptDistributedSak_cases inv.latest found with
        ⟨same, result⟩ | ⟨different, present, occupied, result⟩ |
        ⟨different, room, result⟩
      · rw [result]
        exact .refl inv
      · rw [result]
        exact .refl inv
      · rw [result]
        have unused : found.candidate.Unused := ⟨rfl, rfl, rfl, rfl⟩
        exact .of_steps inv
          (.single (.replace room (latestShape_candidate found) unused
            (Or.inl rfl) ⟨found, rfl, different, rfl⟩))
          inv.peer inv.nextKeyNumber rfl rfl

/-! ## Meeting the sender -/

/-- The peer record after an MKPDU. -/
def metPeer (ctx : Participant) (basic : Basic) (localSeen : Bool)
    (nowMs : UInt32) : Peer where
  valid := true
  mac := basic.srcMac
  sci := basic.sci
  mi := basic.actorMi
  mn := basic.actorMn
  keyServerPriority := basic.keyServerPriority
  keyServer := basic.keyServer
  macsecDesired := basic.macsecDesired
  macsecCapability := basic.macsecCapability
  lastSeenMs := nowMs
  seenInPeerList :=
    localSeen ||
      (!(ctx.peerIdentityChanged basic || !ctx.peer.live) &&
        ctx.peer.seenInPeerList)
  live := localSeen || (!ctx.peerIdentityChanged basic && ctx.peer.live)

/-- The participant state after an MKPDU. -/
def metState (ctx : Participant) (basic : Basic) (localSeen : Bool) : State :=
  if localSeen then .peerLive
  else if ctx.peerIdentityChanged basic || !ctx.peer.live then .peerDiscovered
  else ctx.state

/-- The participant after it recorded the sender and repeated the election. -/
def met (ctx : Participant) (basic : Basic) (localSeen : Bool)
    (nowMs : UInt32) : Participant :=
  { ctx with
    peer := ctx.metPeer basic localSeen nowMs
    state := ctx.metState basic localSeen
    localKeyServer := decide (ctx.keyServerPriority < basic.keyServerPriority) }

/-- From a state of an initialised participant the peer may come to life. -/
theorem allowed_of_peerShape (shape : PeerShape ctx.state ctx.peer) :
    stateTransitionAllowed ctx.state .peerLive = true ∧
      stateTransitionAllowed ctx.state .peerDiscovered = true := by
  cases state : ctx.state with
  | init | error =>
      rw [state] at shape
      exact shape.elim
  | waitPeer | peerDiscovered | peerLive | operational => exact ⟨rfl, rfl⟩

/-- A sender that is not new was recorded. -/
theorem valid_of_not_changed {basic : Basic}
    (known : ctx.peerIdentityChanged basic = false) :
    ctx.peer.valid = true := by
  simp only [peerIdentityChanged, Bool.or_eq_false_iff] at known
  simpa using known.1.1.1

/-- A participant that knows a live sender is in one of the two states with a
live peer. -/
theorem peerShape_metState (shape : PeerShape ctx.state ctx.peer)
    (basic : Basic) (localSeen : Bool) (nowMs : UInt32) :
    PeerShape (ctx.metState basic localSeen)
      (ctx.metPeer basic localSeen nowMs) := by
  cases localSeen with
  | true => exact ⟨rfl, rfl⟩
  | false =>
      cases changed : ctx.peerIdentityChanged basic with
      | true =>
          have discovered : ctx.metState basic false = .peerDiscovered := by
            simp [metState, changed]
          rw [discovered]
          simp [PeerShape, metPeer, changed]
      | false =>
          cases live : ctx.peer.live with
          | false =>
              have discovered :
                  ctx.metState basic false = .peerDiscovered := by
                simp [metState, live]
              rw [discovered]
              simp [PeerShape, metPeer, live]
          | true =>
              have kept : ctx.metState basic false = ctx.state := by
                simp [metState, changed, live]
              rw [kept]
              cases state : ctx.state with
              | init | error | waitPeer | peerDiscovered =>
                  rw [state] at shape
                  simp [PeerShape, live] at shape
              | peerLive | operational =>
                  simp [PeerShape, metPeer, changed, live]

/-- Recording the sender, updating liveness and repeating the election. -/
theorem meet_eq (shape : PeerShape ctx.state ctx.peer) (basic : Basic)
    (localSeen : Bool) (nowMs : UInt32) :
    let recorded :=
      (ctx.updatePeer basic nowMs).updateLiveness localSeen
        (ctx.peerIdentityChanged basic) ctx.peer.live
    { recorded with localKeyServer := recorded.localWinsKeyServer } =
      ctx.met basic localSeen nowMs := by
  have recorded :
      (ctx.updatePeer basic nowMs).updateLiveness localSeen
          (ctx.peerIdentityChanged basic) ctx.peer.live =
        { ctx with
          peer := ctx.metPeer basic localSeen nowMs
          state := ctx.metState basic localSeen } := by
    obtain ⟨live, discovered⟩ := allowed_of_peerShape shape
    unfold updateLiveness
    split
    next seen =>
        rw [setState_of_allowed (by exact live)]
        simp [updatePeer, metPeer, metState, seen]
    next notSeen =>
        split
        next new =>
            rw [setState_of_allowed (by exact discovered)]
            have notLive :
                (!ctx.peerIdentityChanged basic && ctx.peer.live) = false := by
              revert new
              cases ctx.peerIdentityChanged basic <;> cases ctx.peer.live <;>
                decide
            simp only [metPeer, metState, notSeen, new, notLive, updatePeer]
            rfl
        next known =>
            simp only [Bool.or_eq_true, Bool.not_eq_true', not_or,
              Bool.not_eq_true, Bool.not_eq_false] at known
            simp [metPeer, metState, notSeen, known.1, known.2, updatePeer]
  have wins :
      ({ ctx with
          peer := ctx.metPeer basic localSeen nowMs
          state := ctx.metState basic localSeen }).localWinsKeyServer =
        decide (ctx.keyServerPriority < basic.keyServerPriority) := by
    rw [Bool.eq_iff_iff, localWinsKeyServer_iff rfl, decide_eq_true_iff]
    rfl
  dsimp only
  rw [recorded, wins]
  rfl

/-- Meeting the sender keeps the invariant. -/
theorem met_keeps (fresh : Sak → Prop) (inv : ctx.Inv) (basic : Basic)
    (localSeen : Bool) (nowMs : UInt32) :
    Keeps fresh ctx (ctx.met basic localSeen nowMs) :=
  .of_steps inv .refl (peerShape_metState inv.peer basic localSeen nowMs)
    inv.nextKeyNumber (UInt32.or_zero).symm (hasFlag_zero _)

/-! ## Rekeying -/

/-- A rekey for a new peer: it is not due, or the old slot is occupied, or the
latest SAK is replaced. -/
theorem rekeyForPeer_cases (inv : ctx.Inv) (identityChanged : Bool)
    (rnd : Octets 16) :
    ((identityChanged && ctx.localKeyServer &&
          ctx.latestSak.lifecycleState != .none) = false ∧
      ctx.rekeyForPeer identityChanged rnd = (.ok, ctx)) ∨
    ((identityChanged && ctx.localKeyServer &&
          ctx.latestSak.lifecycleState != .none) = true ∧
      ctx.oldSak.lifecycleState ≠ .none ∧
      ctx.rekeyForPeer identityChanged rnd = (.busy, ctx)) ∨
    ((identityChanged && ctx.localKeyServer &&
          ctx.latestSak.lifecycleState != .none) = true ∧
      ctx.oldSak.lifecycleState = .none ∧
      ∃ events,
        hasFlag events servicedEvents = false ∧
        ctx.rekeyForPeer identityChanged rnd =
          (.ok,
            { ctx with
              latestSak := ctx.rekeyedLatest rnd
              oldSak := ctx.slots.superseded
              pendingEvents := ctx.pendingEvents ||| events
              txReasons := ctx.txReasons ||| ctx.rekeyReasons })) := by
  rw [rekeyForPeer]
  cases due : identityChanged && ctx.localKeyServer &&
      ctx.latestSak.lifecycleState != .none with
  | false => exact Or.inl ⟨rfl, rfl⟩
  | true =>
      simp only [Bool.and_eq_true, bne_iff_ne] at due
      rw [if_pos rfl]
      rcases ctx.startRekey_cases inv due.1.2 due.2 rnd with
        ⟨occupied, result⟩ | ⟨free, replaced⟩
      · exact Or.inr (Or.inl ⟨rfl, occupied, result⟩)
      · exact Or.inr (Or.inr ⟨rfl, free, replaced⟩)

/-- A rekey for a new peer succeeds or finds both slots occupied, and keeps the
invariant. -/
theorem rekeyForPeer_keeps (inv : ctx.Inv) (identityChanged : Bool)
    (rnd : Octets 16) :
    ((ctx.rekeyForPeer identityChanged rnd).1 = .ok ∨
      (ctx.rekeyForPeer identityChanged rnd).1 = .busy) ∧
    Keeps (· = ctx.pendingSak rnd) ctx
      (ctx.rekeyForPeer identityChanged rnd).2 := by
  rcases ctx.rekeyForPeer_cases inv identityChanged rnd with
    ⟨-, result⟩ | ⟨-, -, result⟩ |
    ⟨-, free, events, harmless, result⟩
  · rw [result]
    exact ⟨Or.inl rfl, .refl inv⟩
  · rw [result]
    exact ⟨Or.inr rfl, .refl inv⟩
  · rw [result]
    refine ⟨Or.inl rfl, ?_⟩
    have step :
        Slots.Step (· = ctx.pendingSak rnd) ctx.slots
          ⟨ctx.rekeyedLatest rnd, ctx.slots.superseded⟩ := by
      rw [rekeyedLatest]
      split
      next =>
          exact .replace (Or.inr free)
            (latestShape_pendingSak inv.nextKeyNumber rnd)
            ⟨rfl, rfl, rfl, rfl⟩ (Or.inr rfl) rfl
      next => exact .clear free
    exact .of_steps inv (.single step) inv.peer inv.nextKeyNumber rfl harmless

/-! ## SAK Use -/

/-- The lifecycle after a report on both directions. -/
def reportedLifecycle (lifecycle : SakState) (bothInstalled : Bool) :
    SakState :=
  if bothInstalled then
    if lifecycle = .active then .confirmed else lifecycle
  else
    if lifecycle = .confirmed then .active else lifecycle

/-- The latest SAK after a report of the peer. -/
def reportedSak (sak : Sak) (report : SakUse) : Sak :=
  { sak with
    lifecycleState :=
      reportedLifecycle sak.lifecycleState (report.latestRx && report.latestTx)
    peerRxConfirmed := report.latestRx
    peerTxConfirmed := report.latestTx }

/-- Whether a report confirms the latest SAK. -/
def confirms (ctx : Participant) (report : SakUse) : Bool :=
  report.latestRx && report.latestTx &&
    ctx.latestSak.lifecycleState == .active

/-- The events a report raises. -/
def reportEvents (ctx : Participant) (report : SakUse) : UInt32 :=
  if ctx.confirms report then
    if ctx.oldSak.lifecycleState = .retiring then
      EventFlag.sakConfirmed ||| EventFlag.sakRetireRequired
    else
      EventFlag.sakConfirmed
  else
    0

theorem confirmSak_eq (report : SakUse) :
    ctx.confirmSak report =
      (.ok,
        { ctx with
          latestSak := reportedSak ctx.latestSak report
          pendingEvents := ctx.pendingEvents ||| ctx.reportEvents report }) := by
  unfold confirmSak
  cases both : report.latestRx && report.latestTx with
  | true =>
      rw [if_pos rfl]
      by_cases active : ctx.latestSak.lifecycleState = .active
      · have confirms : ctx.confirms report = true := by
          rw [Participant.confirms, both, active]
          rfl
        rw [if_pos active, setLatestState_of_allowed (by rw [active]; rfl),
          reportEvents, if_pos confirms, reportedSak, both, active]
        by_cases retiring : ctx.oldSak.lifecycleState = .retiring
        · simp [raiseConfirmed, reportedLifecycle, raiseEvents, retiring,
            UInt32.or_assoc]
        · simp [raiseConfirmed, reportedLifecycle, raiseEvents, retiring]
      · have confirms : ctx.confirms report = false := by
          simp [Participant.confirms, active]
        rw [if_neg active, reportEvents, confirms, reportedSak, both]
        simp [reportedLifecycle, active]
  | false =>
      have confirms : ctx.confirms report = false := by
        rw [Participant.confirms, both]
        rfl
      rw [if_neg Bool.false_ne_true, reportEvents, confirms, reportedSak, both]
      by_cases confirmed : ctx.latestSak.lifecycleState = .confirmed
      · rw [if_pos confirmed,
          setLatestState_of_allowed (by rw [confirmed]; rfl)]
        simp [reportedLifecycle, confirmed]
      · rw [if_neg confirmed]
        simp [reportedLifecycle, confirmed]

/-- A report applies to a SAK that was distributed or installed. -/
theorem lifecycle_of_sakUseApplies {report : SakUse}
    (applies : ctx.sakUseApplies report = true) :
    ctx.latestSak.lifecycleState = .distributed ∨
      ctx.latestSak.lifecycleState = .installPending ∨
      ctx.latestSak.lifecycleState = .active ∨
      ctx.latestSak.lifecycleState = .confirmed := by
  simp only [sakUseApplies, Bool.and_eq_true, Bool.or_eq_true,
    beq_iff_eq] at applies
  have states := applies.1.1.1.1
  simpa only [or_assoc] using states

/-- A report is one of the changes the protocol makes to the slots. -/
theorem step_reportedSak (fresh : Sak → Prop)
    (shape : LatestShape ctx.latestSak) {report : SakUse}
    (applies : ctx.sakUseApplies report = true) :
    Slots.Step fresh ctx.slots
      { ctx.slots with latest := reportedSak ctx.latestSak report } := by
  have states := lifecycle_of_sakUseApplies applies
  have known : ctx.latestSak.lifecycleState ≠ .none := by
    intro absent
    rw [absent] at states
    simp at states
  refine .report known ?_ ?_
  · rcases states with lifecycle | lifecycle | lifecycle | lifecycle
    all_goals
      cases both : report.latestRx && report.latestTx <;>
        simp [slots, reportedLifecycle, lifecycle]
  · have held := shape.held known
    change LatestShape (reportedSak ctx.latestSak report)
    have stays : (reportedSak ctx.latestSak report).Held :=
      ⟨held.length, held.keyNumber, held.origin⟩
    unfold LatestShape at shape ⊢
    rcases states with lifecycle | lifecycle | lifecycle | lifecycle
    all_goals
      rw [lifecycle] at shape
      cases rx : report.latestRx <;> cases tx : report.latestTx
    all_goals simp_all [reportedSak, reportedLifecycle]

/-! ## Announcements -/

theorem announceIf_eq (condition : Bool) (events reasons : UInt32) :
    ctx.announceIf condition events reasons =
      { ctx with
        pendingEvents := ctx.pendingEvents ||| (if condition then events else 0)
        txReasons := ctx.txReasons ||| (if condition then reasons else 0) } := by
  cases condition with
  | true => rfl
  | false => simp [announceIf]

/-- Announcing what an MKPDU changed only raises events and schedules
transmissions. -/
theorem announceInput_eq
    (identityChanged becameLive keyServerChanged : Bool) :
    ∃ events reasons,
      hasFlag events servicedEvents = false ∧
      ctx.announceInput identityChanged becameLive false keyServerChanged =
        { ctx with
          pendingEvents := ctx.pendingEvents ||| events
          txReasons := ctx.txReasons ||| reasons } := by
  rw [announceInput]
  simp only [announceIf_eq]
  simp only [UInt32.or_assoc]
  refine ⟨_, _, ?_, rfl⟩
  cases identityChanged <;> cases becameLive <;> cases keyServerChanged <;> rfl

/-! ## Processing an MKPDU -/

/-- Adoption touches the two slots and the pending events only. -/
theorem parseDistributedSak_sameRest (inv : ctx.Inv)
    (found : Except Err DistributedSak) :
    ctx.SameRest (ctx.parseDistributedSak found).2 := by
  cases found with
  | error ret => exact .refl ctx
  | ok found =>
      rw [parseDistributedSak]
      rcases ctx.adoptDistributedSak_cases inv.latest found with
        ⟨-, result⟩ | ⟨-, -, -, result⟩ | ⟨-, -, result⟩
      all_goals
        rw [result]
        rfl

/-- A participant that refuses a Distributed SAK stays as it is. -/
theorem parseDistributedSak_of_refused (inv : ctx.Inv)
    (found : Except Err DistributedSak)
    (refused : (ctx.parseDistributedSak found).1 ≠ .ok) :
    (ctx.parseDistributedSak found).2 = ctx := by
  cases found with
  | error ret => rfl
  | ok found =>
      rw [parseDistributedSak] at refused ⊢
      rcases ctx.adoptDistributedSak_cases inv.latest found with
        ⟨-, result⟩ | ⟨-, -, -, result⟩ | ⟨-, -, result⟩
      · rw [result]
      · rw [result]
      · rw [result] at refused
        exact absurd rfl refused

/-- The participant after adoption and the meeting with the sender. -/
def introduced (ctx : Participant) (pdu : Mkpdu) (nowMs : UInt32) :
    Participant :=
  (ctx.parseDistributedSak pdu.distributedSak).2.met pdu.basic pdu.localSeen
    nowMs

/-- The participant after adoption, the meeting with the sender and a rekey,
when SAK Use is processed. -/
def prepared (ctx : Participant) (pdu : Mkpdu) (rnd : Octets 16)
    (nowMs : UInt32) : Participant :=
  ((ctx.introduced pdu nowMs).rekeyForPeer (ctx.peerIdentityChanged pdu.basic)
    rnd).2

/-- Whether the sender came to life with an MKPDU. -/
def cameToLife (ctx : Participant) (pdu : Mkpdu) (nowMs : UInt32) : Bool :=
  !ctx.peer.live && (ctx.introduced pdu nowMs).peer.live

/-- Whether the election result changed with an MKPDU. -/
def electionFlipped (ctx : Participant) (pdu : Mkpdu) (nowMs : UInt32) : Bool :=
  ctx.localKeyServer != (ctx.introduced pdu nowMs).localKeyServer

/-- A sender that was live stays live unless it is new. -/
theorem not_becameNotLive (basic : Basic) (localSeen : Bool) (nowMs : UInt32) :
    (!ctx.peerIdentityChanged basic && ctx.peer.live &&
      !(ctx.met basic localSeen nowMs).peer.live) = false := by
  simp only [met, metPeer]
  cases localSeen <;> cases ctx.peerIdentityChanged basic <;>
    cases ctx.peer.live <;> rfl

/-- Processing an authenticated MKPDU, with the steps that never fail
named. -/
theorem processMkpdu_eq (inv : ctx.Inv) (pdu : Mkpdu) (rnd : Octets 16)
    (nowMs : UInt32) :
    ctx.processMkpdu pdu rnd nowMs =
      let adoption := ctx.parseDistributedSak pdu.distributedSak
      let reported := (ctx.prepared pdu rnd nowMs).parseSakUse pdu.sakUse
      if adoption.1 ≠ .ok ∧ adoption.1 ≠ .notReady then
        (adoption.1, ctx)
      else if reported.1 ≠ .ok ∧ reported.1 ≠ .notReady then
        reported
      else
        (.ok,
          reported.2.announceInput (ctx.peerIdentityChanged pdu.basic)
            (ctx.cameToLife pdu nowMs) false
            (ctx.electionFlipped pdu nowMs)) := by
  have keeps := ctx.parseDistributedSak_keeps inv pdu.distributedSak
  have frame := ctx.parseDistributedSak_sameRest inv pdu.distributedSak
  have refused :=
    ctx.parseDistributedSak_of_refused inv pdu.distributedSak
  unfold processMkpdu cameToLife electionFlipped prepared introduced
  rcases adoption : ctx.parseDistributedSak pdu.distributedSak with
    ⟨ret, adopted⟩
  rw [adoption] at keeps frame refused
  dsimp only at keeps frame refused ⊢
  split
  next failed => rw [refused failed.1]
  next =>
      have changed :
          adopted.peerIdentityChanged pdu.basic =
            ctx.peerIdentityChanged pdu.basic := by
        rw [frame]
        rfl
      have live : adopted.peer.live = ctx.peer.live := by
        rw [frame]
        rfl
      have meeting :=
        adopted.meet_eq keeps.inv.peer pdu.basic pdu.localSeen nowMs
      have alive :=
        adopted.not_becameNotLive pdu.basic pdu.localSeen nowMs
      rw [changed, live] at meeting alive
      have rekey :=
        (adopted.met pdu.basic pdu.localSeen nowMs).rekeyForPeer_keeps
          (adopted.met_keeps (fun _ => True) keeps.inv pdu.basic
            pdu.localSeen nowMs).inv
          (ctx.peerIdentityChanged pdu.basic) rnd
      have peer := congrArg Participant.peer meeting
      have server := congrArg Participant.localKeyServer meeting
      dsimp only at meeting peer server
      rw [meeting, peer, server, alive, if_neg (not_and_or.mpr ?_)]
      · exact rekey.1.imp not_not_intro not_not_intro

/-- A SAK that enters the latest slot with an MKPDU: adopted from it, or
generated for a new peer. -/
def Joins (ctx : Participant) (pdu : Mkpdu) (rnd : Octets 16) (sak : Sak) :
    Prop :=
  ctx.Adopts pdu.distributedSak sak ∨ sak = ctx.pendingSak rnd

theorem introduced_keeps (inv : ctx.Inv) (pdu : Mkpdu) (nowMs : UInt32) :
    Keeps (ctx.Adopts pdu.distributedSak) ctx (ctx.introduced pdu nowMs) :=
  have adoption := ctx.parseDistributedSak_keeps inv pdu.distributedSak
  adoption.trans (met_keeps _ adoption.inv pdu.basic pdu.localSeen nowMs)

/-- Before the rekey only the slots and the pending events differ from a plain
meeting with the sender. -/
theorem introduced_sameRest (inv : ctx.Inv) (pdu : Mkpdu) (nowMs : UInt32) :
    (ctx.met pdu.basic pdu.localSeen nowMs).SameRest
      (ctx.introduced pdu nowMs) := by
  have frame := ctx.parseDistributedSak_sameRest inv pdu.distributedSak
  unfold SameRest introduced
  conv_lhs => rw [frame]
  rfl

/-- A rekey touches the two slots, the pending events and the transmit reasons
only. -/
theorem rekeyForPeer_sameRest (inv : ctx.Inv) (identityChanged : Bool)
    (rnd : Octets 16) :
    ctx.SameRest (ctx.rekeyForPeer identityChanged rnd).2 := by
  rcases ctx.rekeyForPeer_cases inv identityChanged rnd with
    ⟨-, result⟩ | ⟨-, -, result⟩ | ⟨-, -, events, -, result⟩
  all_goals
    rw [result]
    rfl

theorem prepared_keeps (inv : ctx.Inv) (pdu : Mkpdu) (rnd : Octets 16)
    (nowMs : UInt32) :
    Keeps (ctx.Joins pdu rnd) ctx (ctx.prepared pdu rnd nowMs) := by
  have meeting := ctx.introduced_keeps inv pdu nowMs
  have rekey :=
    (ctx.introduced pdu nowMs).rekeyForPeer_keeps meeting.inv
      (ctx.peerIdentityChanged pdu.basic) rnd
  have generated :
      (ctx.introduced pdu nowMs).pendingSak rnd = ctx.pendingSak rnd := by
    rw [ctx.introduced_sameRest inv pdu nowMs]
    rfl
  rw [generated] at rekey
  exact (meeting.mono fun _ adopts => Or.inl adopts).trans
    (rekey.2.mono fun _ new => Or.inr new)

theorem prepared_sameRest (inv : ctx.Inv) (pdu : Mkpdu) (rnd : Octets 16)
    (nowMs : UInt32) :
    (ctx.met pdu.basic pdu.localSeen nowMs).SameRest
      (ctx.prepared pdu rnd nowMs) :=
  (ctx.introduced_sameRest inv pdu nowMs).trans
    (rekeyForPeer_sameRest (ctx.introduced_keeps inv pdu nowMs).inv _ rnd)

/-- Processing the scan for SAK Use: it does not apply, or the latest SAK takes
the reported flags. -/
theorem parseSakUse_cases (found : Except Err SakUse) :
    ((ctx.parseSakUse found).2 = ctx ∧
      ∀ report, found = .ok report → ctx.sakUseApplies report = false) ∨
    (∃ report, found = .ok report ∧ ctx.sakUseApplies report = true ∧
      ctx.parseSakUse found =
        (.ok,
          { ctx with
            latestSak := reportedSak ctx.latestSak report
            pendingEvents :=
              ctx.pendingEvents ||| ctx.reportEvents report })) := by
  cases found with
  | error ret =>
      exact Or.inl ⟨rfl, fun report found => by cases found⟩
  | ok report =>
      rw [parseSakUse]
      cases applies : ctx.sakUseApplies report with
      | true => exact Or.inr ⟨report, rfl, applies, confirmSak_eq report⟩
      | false =>
          refine Or.inl ⟨rfl, fun other found => ?_⟩
          cases found
          exact applies

/-- A report that raises an event servicing reacts to confirms the latest
SAK. -/
theorem reportEvents_of_hasFlag {report : SakUse} {mask : UInt32}
    (raised : hasFlag (ctx.reportEvents report) mask = true) :
    (reportedSak ctx.latestSak report).lifecycleState = .confirmed := by
  unfold reportEvents at raised
  split at raised
  next confirms =>
      simp only [Participant.confirms, Bool.and_eq_true, beq_iff_eq] at confirms
      simp [reportedSak, reportedLifecycle, confirms]
  next => simp at raised

/-- The events of a report are harmless apart from the request to retire the
old SAK. -/
theorem reportEvents_harmless (report : SakUse) :
    hasFlag (ctx.reportEvents report) EventFlag.error = false ∧
      hasFlag (ctx.reportEvents report) EventFlag.sakActive = false ∧
      hasFlag (ctx.reportEvents report) EventFlag.peerLost = false := by
  unfold reportEvents
  split
  next =>
      split
      next => exact ⟨rfl, rfl, rfl⟩
      next => exact ⟨rfl, rfl, rfl⟩
  next => exact ⟨hasFlag_zero _, hasFlag_zero _, hasFlag_zero _⟩

/-- A report of the peer keeps the invariant. -/
theorem parseSakUse_inv (inv : ctx.Inv) (found : Except Err SakUse) :
    (ctx.parseSakUse found).2.Inv := by
  rcases ctx.parseSakUse_cases found with
    ⟨same, -⟩ | ⟨report, -, applies, result⟩
  · rw [same]
    exact inv
  · rw [result]
    have step :=
      step_reportedSak (fun _ => True) inv.latest applies
    refine ⟨step.shape inv.slots, inv.peer, inv.nextKeyNumber, ?_⟩
    rw [hasFlag_or, inv.noError, (ctx.reportEvents_harmless report).1]
    rfl

/-- After a report of the peer a resting participant can be serviced. -/
theorem parseSakUse_serviceable (resting : ctx.Resting)
    (found : Except Err SakUse) :
    (ctx.parseSakUse found).2.Serviceable ∧
      (ctx.parseSakUse found).2.slots.Settled ∧
      hasFlag (ctx.parseSakUse found).2.pendingEvents EventFlag.peerLost =
        false := by
  have quiet := hasFlag_servicedEvents_eq_false.mp resting.quiet
  rcases ctx.parseSakUse_cases found with
    ⟨same, -⟩ | ⟨report, -, applies, result⟩
  · rw [same]
    exact ⟨resting.serviceable, resting.settled, quiet.2.2⟩
  · rw [result]
    have harmless := ctx.reportEvents_harmless report
    have step :=
      step_reportedSak (fun _ => True) resting.inv.latest applies
    have settled := step.settled resting.settled
    have inv := parseSakUse_inv resting.inv found
    rw [result] at inv
    refine ⟨⟨inv, ?_, ?_, settled.2, ?_⟩, settled, ?_⟩
    · rw [hasFlag_or, quiet.1.2, harmless.2.1]
      rfl
    · intro retire
      rw [hasFlag_or, quiet.2.1, Bool.false_or] at retire
      exact reportEvents_of_hasFlag retire
    · exact fun distributed => absurd distributed settled.1
    · rw [hasFlag_or, quiet.2.2, harmless.2.2]
      rfl

/-- A processed MKPDU was not refused at adoption, and only announcements follow
the processing of SAK Use. -/
theorem processMkpdu_of_ok (inv : ctx.Inv) {pdu : Mkpdu} {rnd : Octets 16}
    {nowMs : UInt32} (succeeded : (ctx.processMkpdu pdu rnd nowMs).1 = .ok) :
    ((ctx.parseDistributedSak pdu.distributedSak).1 = .ok ∨
      (ctx.parseDistributedSak pdu.distributedSak).1 = .notReady) ∧
    ∃ events reasons,
      hasFlag events servicedEvents = false ∧
      (ctx.processMkpdu pdu rnd nowMs).2 =
        { ((ctx.prepared pdu rnd nowMs).parseSakUse pdu.sakUse).2 with
          pendingEvents :=
            ((ctx.prepared pdu rnd nowMs).parseSakUse
              pdu.sakUse).2.pendingEvents ||| events
          txReasons :=
            ((ctx.prepared pdu rnd nowMs).parseSakUse pdu.sakUse).2.txReasons |||
              reasons } := by
  rw [ctx.processMkpdu_eq inv pdu rnd nowMs] at succeeded ⊢
  dsimp only at succeeded ⊢
  split at succeeded
  next refused => exact absurd succeeded refused.1
  next accepted =>
      rw [if_neg accepted]
      rw [not_and_or, not_not, not_not] at accepted
      split at succeeded
      next failed => exact absurd succeeded failed.1
      next reported =>
          rw [if_neg reported]
          exact ⟨accepted, announceInput_eq _ _ _⟩

/-- Announcing what an MKPDU changed keeps the invariant. -/
theorem announceInput_inv (inv : ctx.Inv)
    (identityChanged becameLive keyServerChanged : Bool) :
    (ctx.announceInput identityChanged becameLive false
      keyServerChanged).Inv := by
  obtain ⟨events, reasons, harmless, announced⟩ :=
    ctx.announceInput_eq identityChanged becameLive keyServerChanged
  have silent := hasFlag_servicedEvents_eq_false.mp harmless
  rw [announced]
  refine ⟨inv.slots, inv.peer, inv.nextKeyNumber, ?_⟩
  rw [hasFlag_or, inv.noError, silent.1.1]
  rfl

/-- Processing an MKPDU keeps the invariant. -/
theorem processMkpdu_inv (inv : ctx.Inv) (pdu : Mkpdu) (rnd : Octets 16)
    (nowMs : UInt32) : (ctx.processMkpdu pdu rnd nowMs).2.Inv := by
  have reported :=
    parseSakUse_inv (ctx.prepared_keeps inv pdu rnd nowMs).inv pdu.sakUse
  rw [ctx.processMkpdu_eq inv pdu rnd nowMs]
  dsimp only
  split
  next => exact inv
  next =>
      split
      next => exact reported
      next => exact announceInput_inv reported _ _ _

/-- A resting participant refuses an MKPDU and stays at rest, or processes it
and can be serviced. -/
theorem processMkpdu_serviceable (resting : ctx.Resting) (pdu : Mkpdu)
    (rnd : Octets 16) (nowMs : UInt32) :
    ((ctx.processMkpdu pdu rnd nowMs).1 ≠ .ok →
      (ctx.processMkpdu pdu rnd nowMs).2.Resting) ∧
    ((ctx.processMkpdu pdu rnd nowMs).1 = .ok →
      (ctx.processMkpdu pdu rnd nowMs).2.Serviceable ∧
      (ctx.processMkpdu pdu rnd nowMs).2.slots.Settled ∧
      hasFlag (ctx.processMkpdu pdu rnd nowMs).2.pendingEvents
        EventFlag.peerLost = false) := by
  have keeps := ctx.prepared_keeps resting.inv pdu rnd nowMs
  have prepared := keeps.resting resting
  rw [ctx.processMkpdu_eq resting.inv pdu rnd nowMs]
  dsimp only
  split
  next refused => exact ⟨fun _ => resting, fun ok => absurd ok refused.1⟩
  next =>
      split
      next failed =>
          refine ⟨fun _ => ?_, fun ok => absurd ok failed.1⟩
          rcases (ctx.prepared pdu rnd nowMs).parseSakUse_cases pdu.sakUse with
            ⟨same, -⟩ | ⟨report, -, -, result⟩
          · rw [same]
            exact prepared
          · rw [result] at failed
            exact absurd rfl failed.1
      next =>
          refine ⟨fun failed => absurd rfl failed, fun _ => ?_⟩
          obtain ⟨serviceable, settled, noLoss⟩ :=
            parseSakUse_serviceable prepared pdu.sakUse
          obtain ⟨events, reasons, harmless, announced⟩ :=
            ((ctx.prepared pdu rnd nowMs).parseSakUse
              pdu.sakUse).2.announceInput_eq (ctx.peerIdentityChanged pdu.basic)
              (ctx.cameToLife pdu nowMs) (ctx.electionFlipped pdu nowMs)
          have silent := hasFlag_servicedEvents_eq_false.mp harmless
          have inv :=
            announceInput_inv serviceable.inv
              (ctx.peerIdentityChanged pdu.basic) (ctx.cameToLife pdu nowMs)
              (ctx.electionFlipped pdu nowMs)
          rw [announced] at inv ⊢
          refine ⟨⟨inv, ?_, ?_, serviceable.notInstalling,
            serviceable.unused⟩, settled, ?_⟩
          · rw [hasFlag_or, serviceable.inactive, silent.1.2]
            rfl
          · intro retire
            rw [hasFlag_or, silent.2.1, Bool.or_false] at retire
            exact serviceable.confirmed retire
          · rw [hasFlag_or, noLoss, silent.2.2]
            rfl

/-! ## Time -/

/-- The participant after its peer was silent for too long. -/
def bereft (ctx : Participant) : Participant :=
  { ctx with
    peer :=
      { ctx.peer with valid := false, live := false, seenInPeerList := false }
    state := .waitPeer
    pendingEvents :=
      ctx.pendingEvents ||| (EventFlag.peerLost ||| EventFlag.txPeerChange)
    txReasons := ctx.txReasons ||| TxReason.peerChange }

/-- Whether a tick finds the peer silent for too long. -/
def Expires (ctx : Participant) (nowMs : UInt32) : Prop :=
  ctx.peer.valid = true ∧
    nowMs - ctx.peer.lastSeenMs ≥ ctx.txIntervalMs * peerTimeoutMultiplier

instance (ctx : Participant) (nowMs : UInt32) :
    Decidable (ctx.Expires nowMs) := by
  unfold Expires
  infer_instance

theorem expirePeer_cases (inv : ctx.Inv) (nowMs : UInt32) :
    (¬ctx.Expires nowMs ∧ ctx.expirePeer nowMs = ctx) ∨
      (ctx.Expires nowMs ∧ ctx.expirePeer nowMs = ctx.bereft) := by
  unfold expirePeer
  split
  next expires =>
      have allowed : stateTransitionAllowed ctx.state .waitPeer = true := by
        have shape := inv.peer
        cases state : ctx.state with
        | init | error =>
            rw [state] at shape
            exact shape.elim
        | waitPeer | peerDiscovered | peerLive | operational => rfl
      refine Or.inr ⟨expires, ?_⟩
      dsimp only
      rw [setState_of_allowed (by exact allowed)]
      rfl
  next stays => exact Or.inl ⟨stays, rfl⟩

/-- Losing the peer keeps the invariant. -/
theorem bereft_inv (inv : ctx.Inv) : ctx.bereft.Inv where
  slots := inv.slots
  peer := ⟨rfl, rfl⟩
  nextKeyNumber := inv.nextKeyNumber
  noError := by
    change hasFlag (_ ||| _) _ = false
    rw [hasFlag_or, inv.noError]
    rfl

/-- A tick may lose the peer, and then raises at most one event and schedules at
most one transmission. -/
theorem tick_cases (inv : ctx.Inv) (nowMs : UInt32) :
    ∃ expired events reasons,
      (¬ctx.Expires nowMs ∧ expired = ctx ∨
        ctx.Expires nowMs ∧ expired = ctx.bereft) ∧
      hasFlag events servicedEvents = false ∧
      ctx.tick nowMs =
        (.ok,
          { expired with
            lastTickMs := nowMs
            pendingEvents := expired.pendingEvents ||| events
            txReasons := expired.txReasons ||| reasons }) := by
  have kept : ({ ctx with lastTickMs := nowMs }).Inv :=
    ⟨inv.slots, inv.peer, inv.nextKeyNumber, inv.noError⟩
  have expiry :
      ∃ expired,
        (¬ctx.Expires nowMs ∧ expired = ctx ∨
          ctx.Expires nowMs ∧ expired = ctx.bereft) ∧
        ({ ctx with lastTickMs := nowMs }).expirePeer nowMs =
          { expired with lastTickMs := nowMs } := by
    rcases expirePeer_cases kept nowMs with ⟨stays, same⟩ | ⟨expires, lost⟩
    · exact ⟨ctx, Or.inl ⟨stays, rfl⟩, same⟩
    · exact ⟨ctx.bereft, Or.inr ⟨expires, rfl⟩, lost⟩
  obtain ⟨expired, which, result⟩ := expiry
  rw [tick, result]
  split
  next =>
      refine ⟨expired, 0, 0, which, hasFlag_zero _, ?_⟩
      simp only [UInt32.or_zero]
  next =>
      split
      next => exact ⟨expired, _, _, which, rfl, rfl⟩
      next =>
          split
          next => exact ⟨expired, _, _, which, rfl, rfl⟩
          next =>
              refine ⟨expired, 0, 0, which, hasFlag_zero _, ?_⟩
              simp only [UInt32.or_zero]

/-- A tick leaves the latest SAK alone, and the peer too unless it finds the
peer silent. -/
theorem tick_follows (inv : ctx.Inv) (nowMs : UInt32) :
    (ctx.tick nowMs).2.latestSak = ctx.latestSak ∧
      (¬ctx.Expires nowMs →
        (ctx.tick nowMs).2.peer = ctx.peer ∧
          (ctx.tick nowMs).2.state = ctx.state) ∧
      (ctx.Expires nowMs →
        (ctx.tick nowMs).2.peer = ctx.bereft.peer ∧
          (ctx.tick nowMs).2.state = .waitPeer) := by
  obtain ⟨expired, events, reasons, which, -, result⟩ := tick_cases inv nowMs
  rw [result]
  rcases which with ⟨stays, rfl⟩ | ⟨expires, rfl⟩
  · exact ⟨rfl, fun _ => ⟨rfl, rfl⟩, fun expires => absurd expires stays⟩
  · exact ⟨rfl, fun stays => absurd expires stays, fun _ => ⟨rfl, rfl⟩⟩

/-- A tick keeps the invariant. -/
theorem tick_inv (inv : ctx.Inv) (nowMs : UInt32) :
    (ctx.tick nowMs).2.Inv := by
  obtain ⟨expired, events, reasons, which, harmless, result⟩ :=
    tick_cases inv nowMs
  have silent := hasFlag_servicedEvents_eq_false.mp harmless
  have kept : expired.Inv := by
    rcases which with ⟨-, rfl⟩ | ⟨-, rfl⟩
    · exact inv
    · exact bereft_inv inv
  rw [result]
  refine ⟨kept.slots, kept.peer, kept.nextKeyNumber, ?_⟩
  rw [hasFlag_or, kept.noError, silent.1.1]
  rfl

/-- A tick succeeds, leaves the slots alone, and what it leaves can be
serviced. -/
theorem tick_serviceable (resting : ctx.Resting) (nowMs : UInt32) :
    (ctx.tick nowMs).1 = .ok ∧ (ctx.tick nowMs).2.Serviceable ∧
      (ctx.tick nowMs).2.slots = ctx.slots := by
  obtain ⟨expired, events, reasons, which, harmless, result⟩ :=
    tick_cases resting.inv nowMs
  have quiet := hasFlag_servicedEvents_eq_false.mp resting.quiet
  have silent := hasFlag_servicedEvents_eq_false.mp harmless
  have slots : expired.slots = ctx.slots := by
    rcases which with ⟨-, rfl⟩ | ⟨-, rfl⟩
    · rfl
    · rfl
  have pending :
      hasFlag expired.pendingEvents EventFlag.sakActive = false ∧
        hasFlag expired.pendingEvents EventFlag.sakRetireRequired = false := by
    rcases which with ⟨-, rfl⟩ | ⟨-, rfl⟩
    · exact ⟨quiet.1.2, quiet.2.1⟩
    · simp only [bereft, hasFlag_or, quiet.1.2, quiet.2.1]
      exact ⟨rfl, rfl⟩
  have latest : expired.latestSak = ctx.latestSak :=
    congrArg Slots.latest slots
  have inv := tick_inv resting.inv nowMs
  rw [result] at inv ⊢
  refine ⟨rfl, ⟨inv, ?_, ?_, ?_, ?_⟩, slots⟩
  · rw [hasFlag_or, pending.1, silent.1.2]
    rfl
  · intro retire
    rw [hasFlag_or, pending.2, silent.2.1] at retire
    exact Bool.noConfusion retire
  · exact latest ▸ resting.settled.2
  · intro distributed
    rw [latest] at distributed
    exact absurd distributed resting.settled.1

/-! ## Transmission -/

/-- A SAK is generated before a frame is built, or nothing happens. -/
theorem ensureForTx_cases (rnd : Octets 16) :
    (ctx.ensureForTx rnd).2 = ctx ∨
    (ctx.localKeyServer = true ∧ (ctx.peer.valid && ctx.peer.live) = true ∧
      ctx.latestSak.lifecycleState = .none ∧
      ctx.ensureForTx rnd =
        (.ok,
          { ctx with
            latestSak := ctx.pendingSak rnd
            pendingEvents := ctx.pendingEvents ||| EventFlag.txDistributeSak
            txReasons := ctx.txReasons ||| TxReason.distributeSak })) := by
  unfold ensureForTx
  split
  next due =>
      rw [Bool.and_assoc, Bool.and_eq_true] at due
      by_cases absent : ctx.latestSak.lifecycleState = .none
      · exact Or.inr ⟨due.1, due.2, absent,
          keyServerEnsureSak_of_none due.1 due.2 absent rnd⟩
      · exact Or.inl (keyServerEnsureSak_of_some absent rnd)
  next => exact Or.inl rfl

/-- Generating a SAK before a frame is built keeps the invariant. -/
theorem ensureForTx_keeps (inv : ctx.Inv) (rnd : Octets 16) :
    Keeps (· = ctx.pendingSak rnd) ctx (ctx.ensureForTx rnd).2 := by
  rcases ctx.ensureForTx_cases rnd with same | ⟨-, -, absent, result⟩
  · rw [same]
    exact .refl inv
  · have empty := inv.latest.eq_cleared absent
    have untouched : ctx.slots.superseded = ctx.oldSak := by
      rw [Slots.superseded, slots, empty]
      rfl
    have step :
        Slots.Step (· = ctx.pendingSak rnd) ctx.slots
          ⟨ctx.pendingSak rnd, ctx.slots.superseded⟩ :=
      .replace (Or.inl absent) (latestShape_pendingSak inv.nextKeyNumber rnd)
        ⟨rfl, rfl, rfl, rfl⟩ (Or.inr rfl) rfl
    rw [untouched] at step
    rw [result]
    exact .of_steps inv (.single step) inv.peer inv.nextKeyNumber rfl rfl

/-- The participant after the first transmission of its SAK. -/
def committed (ctx : Participant) : Participant :=
  { ctx with
    latestSak := { ctx.latestSak with lifecycleState := .distributed }
    pendingEvents :=
      ctx.pendingEvents |||
        (EventFlag.sakDistributed ||| EventFlag.sakAvailable)
    keyServerNextKeyNumber :=
      if ctx.keyServerNextKeyNumber + 1 = 0 then 1
      else ctx.keyServerNextKeyNumber + 1
    keyServerNextAn := ctx.keyServerNextAn + 1 }

/-- A transmitted Distributed SAK is committed once. -/
theorem notifyDistributed_cases (txMeta : TxMeta) :
    (ctx.notifyDistributed txMeta).2 = ctx ∨
    (txMeta.containsDistributedSak = true ∧
      ctx.latestSak.lifecycleState = .distributionPending ∧
      ctx.latestSak.origin = .localKeyServer ∧
      ctx.latestSak.keyNumber = txMeta.distributedKeyNumber ∧
      ctx.latestSak.an = txMeta.distributedAn ∧
      ctx.notifyDistributed txMeta = (.ok, ctx.committed)) := by
  unfold notifyDistributed
  split
  next => exact Or.inl rfl
  next contains =>
      split
      next => exact Or.inl rfl
      next own =>
          split
          next pending =>
              simp only [Bool.or_eq_true, not_or, bne_iff_ne, ne_eq,
                not_not] at own
              refine Or.inr ⟨by simpa using contains, pending, own.1.1.2,
                own.1.2, own.2, ?_⟩
              rw [commitDistribution,
                setLatestState_of_allowed (by rw [pending]; rfl)]
              rfl
          next => exact Or.inl rfl

/-- The next key number never becomes zero. -/
theorem committed_nextKeyNumber : ctx.committed.keyServerNextKeyNumber ≠ 0 := by
  unfold committed
  dsimp only
  split
  next => decide
  next nonzero => exact nonzero

/-- Committing the transmission of a SAK keeps the invariant. -/
theorem committed_inv (inv : ctx.Inv)
    (pending : ctx.latestSak.lifecycleState = .distributionPending) :
    ctx.committed.Inv := by
  have shape := inv.latest
  rw [LatestShape, pending] at shape
  obtain ⟨held, localOrigin, unused⟩ := shape
  have latest : LatestShape ctx.committed.latestSak :=
    ⟨⟨held.length, held.keyNumber, held.origin⟩, localOrigin, unused.rx,
      unused.tx⟩
  refine ⟨⟨latest, inv.old⟩, inv.peer, committed_nextKeyNumber, ?_⟩
  change hasFlag (_ ||| _) _ = false
  rw [hasFlag_or, inv.noError]
  rfl

/-- A participant that committed its SAK can be serviced. -/
theorem committed_serviceable (resting : ctx.Resting)
    (pending : ctx.latestSak.lifecycleState = .distributionPending) :
    ctx.committed.Serviceable := by
  have quiet := hasFlag_servicedEvents_eq_false.mp resting.quiet
  have shape := resting.inv.latest
  rw [LatestShape, pending] at shape
  obtain ⟨held, localOrigin, unused⟩ := shape
  refine ⟨committed_inv resting.inv pending, ?_, ?_, SakState.noConfusion,
    fun _ => ⟨unused.rx, unused.tx, unused.peerRx, unused.peerTx⟩⟩
  · change hasFlag (_ ||| _) _ = false
    rw [hasFlag_or, quiet.1.2]
    rfl
  · intro retire
    change hasFlag (_ ||| _) _ = true at retire
    rw [hasFlag_or, quiet.2.1] at retire
    exact Bool.noConfusion retire

/-- The participant after a transmission. -/
def sent (ctx : Participant) (txMeta : TxMeta) (nowMs : UInt32) :
    Participant :=
  { ctx with
    localMn := if ctx.localMn + 1 = 0 then 1 else ctx.localMn + 1
    lastTxMs := if nowMs ≠ 0 then nowMs else 1
    txReasons := ctx.txReasons &&& ~~~txMeta.reasons }

/-- A report of a transmission is refused, or the transmission is recorded. -/
theorem notifyTxSuccess_cases (txMeta : TxMeta) (nowMs : UInt32) :
    ((ctx.notifyTxSuccess txMeta nowMs).1 ≠ .ok ∧
      (ctx.notifyTxSuccess txMeta nowMs).2 = ctx) ∨
    (txMeta.messageNumber = ctx.localMn ∧
      (ctx.notifyDistributed txMeta).1 = .ok ∧
      ctx.notifyTxSuccess txMeta nowMs =
        (.ok, (ctx.notifyDistributed txMeta).2.sent txMeta nowMs)) := by
  unfold notifyTxSuccess
  split
  next => exact Or.inl ⟨Err.noConfusion, rfl⟩
  next number =>
      split
      next => exact Or.inl ⟨Err.noConfusion, rfl⟩
      next =>
          split
          next => exact Or.inl ⟨Err.noConfusion, rfl⟩
          next =>
              rcases notified : ctx.notifyDistributed txMeta with
                ⟨ret, distributed⟩
              cases ret with
              | ok => exact Or.inr ⟨not_not.mp number, rfl, rfl⟩
              | param | buffer | crypto | state | replay | unsupported | auth
              | timeout | notReady | busy =>
                  refine Or.inl ⟨Err.noConfusion, ?_⟩
                  rcases ctx.notifyDistributed_cases txMeta with
                    same | ⟨-, -, -, -, -, result⟩
                  · rw [notified] at same
                    exact same
                  · rw [notified, Prod.mk.injEq] at result
                    exact Err.noConfusion result.1

/-- A report of a transmission keeps the invariant. -/
theorem notifyTxSuccess_inv (inv : ctx.Inv) (txMeta : TxMeta)
    (nowMs : UInt32) : (ctx.notifyTxSuccess txMeta nowMs).2.Inv := by
  rcases ctx.notifyTxSuccess_cases txMeta nowMs with
    ⟨-, same⟩ | ⟨-, -, result⟩
  · rw [same]
    exact inv
  · have distributed : (ctx.notifyDistributed txMeta).2.Inv := by
      rcases ctx.notifyDistributed_cases txMeta with
        same | ⟨-, pending, -, -, -, distributed⟩
      · rw [same]
        exact inv
      · rw [distributed]
        exact committed_inv inv pending
    rw [result]
    exact ⟨distributed.slots, distributed.peer, distributed.nextKeyNumber,
      distributed.noError⟩

/-- After a recorded transmission a resting participant can be serviced. -/
theorem notifyTxSuccess_serviceable (resting : ctx.Resting) (txMeta : TxMeta)
    (nowMs : UInt32) :
    ((ctx.notifyTxSuccess txMeta nowMs).1 ≠ .ok ∧
      (ctx.notifyTxSuccess txMeta nowMs).2 = ctx) ∨
    ((ctx.notifyTxSuccess txMeta nowMs).1 = .ok ∧
      (ctx.notifyTxSuccess txMeta nowMs).2.Serviceable) := by
  rcases ctx.notifyTxSuccess_cases txMeta nowMs with
    refused | ⟨-, -, result⟩
  · exact Or.inl refused
  · rw [result]
    refine Or.inr ⟨rfl, ?_⟩
    have serviceable : (ctx.notifyDistributed txMeta).2.Serviceable := by
      rcases ctx.notifyDistributed_cases txMeta with
        same | ⟨-, pending, -, -, -, distributed⟩
      · rw [same]
        exact resting.serviceable
      · rw [distributed]
        exact committed_serviceable resting pending
    exact ⟨⟨serviceable.inv.slots, serviceable.inv.peer,
      serviceable.inv.nextKeyNumber, serviceable.inv.noError⟩,
      serviceable.inactive, serviceable.confirmed, serviceable.notInstalling,
      serviceable.unused⟩

/-- A failed transmission only schedules the next one. -/
theorem notifyTxFailure_resting (resting : ctx.Resting) (txMeta : TxMeta) :
    (ctx.notifyTxFailure txMeta).Resting :=
  ⟨⟨resting.inv.slots, resting.inv.peer, resting.inv.nextKeyNumber,
    resting.inv.noError⟩, resting.quiet, resting.settled⟩

/-! ## Installation -/

/-- The lifecycles of a SAK that is due for installation. -/
theorem lifecycle_of_available {sak : Sak}
    (available : sakAvailable sak = true) :
    sak.lifecycleState = .candidate ∨ sak.lifecycleState = .distributed ∨
      sak.lifecycleState = .installPending := by
  simp only [sakAvailable, Bool.or_eq_true, Bool.and_eq_true,
    beq_iff_eq] at available
  rcases available with (⟨-, lifecycle⟩ | ⟨-, lifecycle⟩) | ⟨lifecycle, -⟩
  · exact Or.inl lifecycle
  · exact Or.inr (Or.inl lifecycle)
  · exact Or.inr (Or.inr lifecycle)

/-- A SAK that is due is not installed in both directions. -/
theorem not_installed_of_available {sak : Sak} (shape : LatestShape sak)
    (available : sakAvailable sak = true) :
    (sak.rxInstalled && sak.txInstalled) = false := by
  unfold LatestShape at shape
  rcases lifecycle_of_available available with lifecycle | lifecycle | lifecycle
  · rw [lifecycle] at shape
    rw [shape.2.2.rx]
    rfl
  · rw [lifecycle] at shape
    rw [shape.2.2.1]
    rfl
  · rw [lifecycle] at shape
    rw [← Bool.not_eq_true, Bool.and_eq_true]
    exact shape.2

/-- A slot that keeps to the lifecycle is handed over whenever it is due. -/
theorem takeSakForInstall_cases (inv : ctx.Inv) :
    (sakAvailable ctx.latestSak = false ∧
      ctx.takeSakForInstall = (.notReady, ctx, Sak.cleared)) ∨
    (sakAvailable ctx.latestSak = true ∧
      ctx.takeSakForInstall =
        (.ok,
          { ctx with
            latestSak :=
              { ctx.latestSak with lifecycleState := .installPending } },
          { ctx.latestSak with lifecycleState := .installPending })) := by
  unfold takeSakForInstall
  by_cases absent : ctx.latestSak.lifecycleState = .none
  · refine Or.inl ⟨?_, if_pos absent⟩
    simp [sakAvailable, absent]
  · have held := inv.latest.held absent
    rw [if_neg absent, if_neg (by rw [held.length]; decide),
      if_neg held.keyNumber]
    cases available : sakAvailable ctx.latestSak with
    | false => exact Or.inl ⟨rfl, rfl⟩
    | true =>
        have partly := not_installed_of_available inv.latest available
        refine Or.inr ⟨rfl, ?_⟩
        rw [if_neg (by decide), if_neg (by rw [partly]; decide)]
        by_cases pending : ctx.latestSak.lifecycleState = .installPending
        · rw [if_neg (not_not_intro pending), ← pending]
        · have allowed :
              sakTransitionAllowed ctx.latestSak.lifecycleState
                .installPending = true := by
            rcases lifecycle_of_available available with
              lifecycle | lifecycle | lifecycle
            all_goals
              rw [lifecycle]
              rfl
          rw [if_pos pending, setLatestState_of_allowed allowed]

/-- Handing a SAK over keeps the invariant. -/
theorem takeSakForInstall_inv (inv : ctx.Inv) :
    ctx.takeSakForInstall.2.1.Inv := by
  rcases ctx.takeSakForInstall_cases inv with
    ⟨-, result⟩ | ⟨available, result⟩
  · rw [result]
    exact inv
  · rw [result]
    refine ⟨⟨?_, inv.old⟩, inv.peer, inv.nextKeyNumber, inv.noError⟩
    have partly := not_installed_of_available inv.latest available
    have present : ctx.latestSak.lifecycleState ≠ .none := by
      intro absent
      rcases lifecycle_of_available available with
        lifecycle | lifecycle | lifecycle
      all_goals
        rw [absent] at lifecycle
        exact SakState.noConfusion lifecycle
    have held := inv.latest.held present
    refine ⟨⟨held.length, held.keyNumber, held.origin⟩, fun both => ?_⟩
    change (ctx.latestSak.rxInstalled = true ∧
      ctx.latestSak.txInstalled = true) at both
    rw [both.1, both.2] at partly
    exact Bool.noConfusion partly

/-- The participant once both directions are installed. -/
def installed (ctx : Participant) : Participant :=
  let confirmed :=
    ctx.latestSak.peerRxConfirmed && ctx.latestSak.peerTxConfirmed
  let retire := confirmed && ctx.oldSak.lifecycleState == .retiring
  { ctx with
    latestSak :=
      { ctx.latestSak with
        lifecycleState := if confirmed then .confirmed else .active }
    state :=
      if ctx.peer.valid && ctx.peer.live then .operational else ctx.state
    pendingEvents :=
      ctx.pendingEvents ||| (EventFlag.sakActive ||| EventFlag.txSakUse) |||
        (if confirmed then EventFlag.sakConfirmed else 0) |||
        (if retire then EventFlag.sakRetireRequired else 0)
    txReasons := ctx.txReasons ||| TxReason.sakUse }

/-- With a live peer the participant may become operational. -/
theorem operational_allowed (shape : PeerShape ctx.state ctx.peer)
    (live : (ctx.peer.valid && ctx.peer.live) = true) :
    stateTransitionAllowed ctx.state .operational = true := by
  simp only [Bool.and_eq_true] at live
  cases state : ctx.state with
  | init | error =>
      rw [state] at shape
      exact shape.elim
  | waitPeer | peerDiscovered =>
      rw [state] at shape
      exact Bool.noConfusion (shape.2.symm.trans live.2)
  | peerLive | operational => rfl

/-- Completing an installation succeeds. -/
theorem completeInstall_eq (shape : PeerShape ctx.state ctx.peer)
    (pending : ctx.latestSak.lifecycleState = .installPending) :
    ctx.completeInstall = (.ok, ctx.installed) := by
  unfold completeInstall
  rw [setLatestState_of_allowed (by rw [pending]; rfl)]
  have operational (live : (ctx.peer.valid && ctx.peer.live) = true)
      (ctx' : Participant) (same : ctx'.state = ctx.state) :
      ctx'.setState .operational = { ctx' with state := .operational } :=
    setState_of_allowed (by rw [same]; exact operational_allowed shape live)
  have confirm (ctx' : Participant)
      (active : ctx'.latestSak.lifecycleState = .active) :
      ctx'.setLatestState .confirmed =
        { ctx' with
          latestSak :=
            { ctx'.latestSak with lifecycleState := .confirmed } } :=
    setLatestState_of_allowed (by rw [active]; rfl)
  cases confirmed :
      ctx.latestSak.peerRxConfirmed && ctx.latestSak.peerTxConfirmed with
  | false =>
      cases live : ctx.peer.valid && ctx.peer.live with
      | false => simp [raiseEvents, scheduleTx, confirmed, live, installed]
      | true =>
          simp [raiseEvents, scheduleTx, confirmed, live, installed,
            operational live]
  | true =>
      by_cases retiring : ctx.oldSak.lifecycleState = .retiring
      · cases live : ctx.peer.valid && ctx.peer.live with
        | false =>
            simp [raiseEvents, scheduleTx, raiseConfirmed, confirmed, live,
              installed, confirm, retiring]
        | true =>
            simp [raiseEvents, scheduleTx, raiseConfirmed, confirmed, live,
              installed, confirm, retiring, operational live]
      · cases live : ctx.peer.valid && ctx.peer.live with
        | false =>
            simp [raiseEvents, scheduleTx, raiseConfirmed, confirmed, live,
              installed, confirm, retiring]
        | true =>
            simp [raiseEvents, scheduleTx, raiseConfirmed, confirmed, live,
              installed, confirm, retiring, operational live]

/-- Completing an installation restores the invariant. -/
theorem installed_inv (old : OldShape ctx.oldSak)
    (peer : PeerShape ctx.state ctx.peer)
    (nextKeyNumber : ctx.keyServerNextKeyNumber ≠ 0)
    (noError : hasFlag ctx.pendingEvents EventFlag.error = false)
    (held : ctx.latestSak.Held)
    (both : ctx.latestSak.rxInstalled = true ∧
      ctx.latestSak.txInstalled = true) : ctx.installed.Inv := by
  refine ⟨⟨?_, old⟩, ?_, nextKeyNumber, ?_⟩
  · have stays : Sak.Held ctx.installed.latestSak :=
      ⟨held.length, held.keyNumber, held.origin⟩
    cases confirmed :
        ctx.latestSak.peerRxConfirmed && ctx.latestSak.peerTxConfirmed with
    | false =>
        have lifecycle :
            ctx.installed.latestSak.lifecycleState = .active := by
          simp [installed, confirmed]
        unfold slots LatestShape
        rw [lifecycle]
        exact ⟨stays, both⟩
    | true =>
        have lifecycle :
            ctx.installed.latestSak.lifecycleState = .confirmed := by
          simp [installed, confirmed]
        rw [Bool.and_eq_true] at confirmed
        unfold slots LatestShape
        rw [lifecycle]
        exact ⟨stays, both.1, both.2, confirmed⟩
  · cases live : ctx.peer.valid && ctx.peer.live with
    | false =>
        simp only [installed, live, Bool.false_eq_true, if_false]
        exact peer
    | true =>
        simp only [installed, live, if_true]
        simpa only [PeerShape, Bool.and_eq_true] using live
  · simp only [installed, hasFlag_or, noError]
    split
    all_goals
      split
      all_goals rfl

/-- A report on installed directions is refused, or marks them and completes the
installation once both are. -/
theorem notifySakInstalled_cases (shape : PeerShape ctx.state ctx.peer)
    (keyNumber : UInt32) (an : Fin 4) (directions : UInt8)
    (lowestPn : UInt32) :
    (ctx.notifySakInstalled keyNumber an directions lowestPn).2 = ctx ∨
    ∃ marked,
      marked = ctx.markInstalled directions
        (if lowestPn ≠ 0 then lowestPn else 1) ∧
      ctx.latestSak.lifecycleState = .installPending ∧
      ((marked.latestSak.rxInstalled && marked.latestSak.txInstalled) = false ∧
        ctx.notifySakInstalled keyNumber an directions lowestPn =
          (.ok, marked) ∨
      (marked.latestSak.rxInstalled && marked.latestSak.txInstalled) = true ∧
        ctx.notifySakInstalled keyNumber an directions lowestPn =
          (.ok, marked.installed)) := by
  unfold notifySakInstalled
  split
  next => exact Or.inl rfl
  next =>
      split
      next => exact Or.inl rfl
      next pending =>
          split
          next => exact Or.inl rfl
          next =>
              split
              next => exact Or.inl rfl
              next =>
                  split
                  next => exact Or.inl rfl
                  next =>
                      have lifecycle := not_not.mp pending
                      refine Or.inr ⟨_, rfl, lifecycle, ?_⟩
                      generalize described :
                        ctx.markInstalled directions
                          (if lowestPn ≠ 0 then lowestPn else 1) = marked
                      have same : marked.latestSak.lifecycleState =
                          .installPending := by
                        rw [← described, ← lifecycle, markInstalled]
                        dsimp only
                        split <;> split <;> rfl
                      have peer : PeerShape marked.state marked.peer := by
                        rw [← described]
                        exact shape
                      cases both : marked.latestSak.rxInstalled &&
                          marked.latestSak.txInstalled with
                      | false =>
                          refine Or.inl ⟨rfl, if_pos ?_⟩
                          rw [← Bool.not_and, both]
                          rfl
                      | true =>
                          refine Or.inr ⟨rfl, ?_⟩
                          have complete :=
                            completeInstall_eq peer same
                          rw [← complete]
                          refine if_neg ?_
                          rw [← Bool.not_and, both]
                          decide

/-- Marking directions leaves the key and its lifecycle alone. -/
theorem markInstalled_latest (directions : UInt8) (lowestPn : UInt32) :
    ∃ rx tx,
      (ctx.markInstalled directions lowestPn).latestSak =
        { ctx.latestSak with
          rxInstalled := rx
          txInstalled := tx
          lowestPn := lowestPn } := by
  refine ⟨(ctx.markInstalled directions lowestPn).latestSak.rxInstalled,
    (ctx.markInstalled directions lowestPn).latestSak.txInstalled, ?_⟩
  unfold markInstalled
  dsimp only
  split <;> split <;> rfl

theorem oldShape_markInstalled (shape : OldShape ctx.oldSak)
    (directions : UInt8) (lowestPn : UInt32) :
    OldShape (ctx.markInstalled directions lowestPn).oldSak := by
  unfold markInstalled
  dsimp only
  split
  next retiring =>
      unfold OldShape at shape ⊢
      rw [retiring.2] at shape
      dsimp only
      rw [retiring.2]
      exact ⟨shape.length, shape.keyNumber, shape.origin⟩
  next => exact shape

/-- A report on installed directions keeps the invariant. -/
theorem notifySakInstalled_inv (inv : ctx.Inv) (keyNumber : UInt32)
    (an : Fin 4) (directions : UInt8) (lowestPn : UInt32) :
    (ctx.notifySakInstalled keyNumber an directions lowestPn).2.Inv := by
  rcases ctx.notifySakInstalled_cases inv.peer keyNumber an directions
      lowestPn with
    same | ⟨marked, described, pending, outcome⟩
  · rw [same]
    exact inv
  · have held : marked.latestSak.Held := by
      have held := inv.latest.held
        (by rw [pending]; exact SakState.noConfusion)
      obtain ⟨rx, tx, latest⟩ :=
        ctx.markInstalled_latest directions
          (if lowestPn ≠ 0 then lowestPn else 1)
      rw [described, latest]
      exact ⟨held.length, held.keyNumber, held.origin⟩
    have lifecycle : marked.latestSak.lifecycleState = .installPending := by
      obtain ⟨rx, tx, latest⟩ :=
        ctx.markInstalled_latest directions
          (if lowestPn ≠ 0 then lowestPn else 1)
      rw [described, latest]
      exact pending
    have old : OldShape marked.oldSak := by
      rw [described]
      exact oldShape_markInstalled inv.old _ _
    have peer : PeerShape marked.state marked.peer := by
      rw [described]
      exact inv.peer
    have nextKeyNumber : marked.keyServerNextKeyNumber ≠ 0 := by
      rw [described]
      exact inv.nextKeyNumber
    have noError : hasFlag marked.pendingEvents EventFlag.error = false := by
      rw [described]
      exact inv.noError
    rcases outcome with ⟨partly, result⟩ | ⟨both, result⟩
    · rw [result]
      have latest : LatestShape marked.latestSak := by
        unfold LatestShape
        rw [lifecycle]
        refine ⟨held, fun both => ?_⟩
        rw [both.1, both.2] at partly
        exact Bool.noConfusion partly
      exact ⟨⟨latest, old⟩, peer, nextKeyNumber, noError⟩
    · rw [result]
      rw [Bool.and_eq_true] at both
      exact installed_inv old peer nextKeyNumber noError held both

/-- The report that the receive direction of an uninstalled SAK is
installed. -/
theorem notifySakInstalled_rx
    (pending : ctx.latestSak.lifecycleState = .installPending)
    (tx : ctx.latestSak.txInstalled = false) (lowestPn : UInt32) :
    ctx.notifySakInstalled ctx.latestSak.keyNumber ctx.latestSak.an installRx
        lowestPn =
      (.ok,
        { ctx with
          latestSak :=
            { ctx.latestSak with
              rxInstalled := true
              lowestPn := if lowestPn ≠ 0 then lowestPn else 1 } }) := by
  have present : ctx.latestSak.lifecycleState ≠ .none := by
    rw [pending]
    exact SakState.noConfusion
  have marked (pn : UInt32) :
      ctx.markInstalled installRx pn =
        { ctx with
          latestSak :=
            { ctx.latestSak with rxInstalled := true, lowestPn := pn } } := by
    have both : installRx ≠ 0 ∧ installRx &&& installTx = 0 := by
      decide
    simp [markInstalled, both]
  rw [notifySakInstalled, if_neg present, if_neg (not_not_intro pending),
    if_neg (not_not_intro rfl), if_neg (not_not_intro rfl),
    if_neg (by decide), marked]
  simp [tx]

/-- The latest SAK with both directions installed. -/
def markedSak (sak : Sak) (lowestPn : UInt32) : Sak :=
  { sak with rxInstalled := true, txInstalled := true, lowestPn := lowestPn }

/-- The old SAK once the latest one transmits. -/
def silencedSak (sak : Sak) : Sak :=
  if sak.lifecycleState = .retiring then { sak with txInstalled := false }
  else sak

/-- The report that the transmit direction is installed as well. -/
theorem notifySakInstalled_tx (shape : PeerShape ctx.state ctx.peer)
    (pending : ctx.latestSak.lifecycleState = .installPending)
    (rx : ctx.latestSak.rxInstalled = true) (lowestPn : UInt32) :
    ctx.notifySakInstalled ctx.latestSak.keyNumber ctx.latestSak.an installTx
        lowestPn =
      (.ok,
        ({ ctx with
            latestSak :=
              markedSak ctx.latestSak (if lowestPn ≠ 0 then lowestPn else 1)
            oldSak := silencedSak ctx.oldSak }).installed) := by
  have present : ctx.latestSak.lifecycleState ≠ .none := by
    rw [pending]
    exact SakState.noConfusion
  have marked (pn : UInt32) :
      ctx.markInstalled installTx pn =
        { ctx with
          latestSak := markedSak ctx.latestSak pn
          oldSak := silencedSak ctx.oldSak } := by
    have both : installTx &&& installRx = 0 ∧ installTx ≠ 0 := by
      decide
    simp [markInstalled, both, markedSak, silencedSak, rx]
  rw [notifySakInstalled, if_neg present, if_neg (not_not_intro pending),
    if_neg (not_not_intro rfl), if_neg (not_not_intro rfl),
    if_neg (by decide), marked]
  dsimp only [markedSak]
  rw [if_neg (by decide)]
  exact completeInstall_eq shape pending

/-- A report on the removal of the old SAK is refused, or clears the slot. -/
theorem notifySakRetired_cases (shape : OldShape ctx.oldSak)
    (keyNumber : UInt32) (an : Fin 4) :
    (ctx.notifySakRetired keyNumber an).2 = ctx ∨
    (ctx.oldSak.lifecycleState = .retiring ∧
      ctx.notifySakRetired keyNumber an =
        (.ok,
          { ctx with
            oldSak := Sak.cleared
            pendingEvents := ctx.pendingEvents ||| EventFlag.sakRetired })) := by
  by_cases absent : ctx.oldSak.lifecycleState = .none
  · exact Or.inl (by rw [notifySakRetired, if_pos absent])
  · have retiring := shape.retiring absent
    unfold notifySakRetired
    rw [if_neg absent]
    split
    next => exact Or.inl rfl
    next =>
        split
        next => exact Or.inl rfl
        next =>
            refine Or.inr ⟨retiring, ?_⟩
            rw [if_neg (not_not_intro retiring),
              setOldState_of_allowed (by rw [retiring]; rfl)]
            rfl

/-- A report on the removal of the old SAK keeps the invariant. -/
theorem notifySakRetired_inv (inv : ctx.Inv) (keyNumber : UInt32)
    (an : Fin 4) : (ctx.notifySakRetired keyNumber an).2.Inv := by
  rcases ctx.notifySakRetired_cases inv.old keyNumber an with
    same | ⟨-, result⟩
  · rw [same]
    exact inv
  · rw [result]
    refine ⟨⟨inv.latest, oldShape_cleared⟩, inv.peer, inv.nextKeyNumber, ?_⟩
    rw [hasFlag_or, inv.noError]
    rfl

end Participant

end Mka

end Macsec
