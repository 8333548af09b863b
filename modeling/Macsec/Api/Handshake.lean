import Macsec.Api.Rediscovery
import Macsec.Api.Scripts
import Macsec.Mka.Acquaintance
import Macsec.Mka.Companions

/-!
# One side of a handshake

A station takes turns: it ticks, builds the control frame that is due, and
reports what became of it.  In between it hears the other station.  As long as
neither has a SAK, turns change nothing but numbers and reasons to transmit; the
first MKPDU with a SAK secures its sender when it is transmitted and its
receiver when it arrives; and what follows leaves both secured.
-/

namespace Macsec

open Mka (Regard)

namespace Control

variable {ctx : Control} {nowMs : UInt32}

/-! ## Between turns -/

/-- A context between two turns: no frame awaits a report, and no old SAK its
retirement. -/
structure Idle (ctx : Control) : Prop where
  resting : ctx.Resting
  settled : ctx.pendingMkaTxValid = false
  known : Mka.TxReason.Known ctx.mka.txReasons
  free : ctx.mka.oldSak = Mka.Sak.cleared
  working : ctx.state ≠ .error

/-- No SAK of an idle context is due for installation. -/
theorem Idle.notDue (idle : ctx.Idle) :
    Mka.Participant.sakAvailable ctx.mka.latestSak = false := by
  rw [← Bool.not_eq_true]
  intro available
  rcases Mka.Participant.lifecycle_of_available available with
    candidate | distributed | installing
  · exact idle.working (idle.resting.waiting candidate)
  · exact idle.resting.mka.settled.1 distributed
  · exact idle.resting.mka.settled.2 installing

/-- Servicing drops the events if no SAK is due and none is to be retired. -/
theorem serviced_quiet
    (notDue : Mka.Participant.sakAvailable ctx.mka.latestSak = false)
    (free : ctx.mka.oldSak = Mka.Sak.cleared)
    (kept :
      hasFlag ctx.mka.pendingEvents Mka.EventFlag.peerLost = false) :
    ctx.serviced = { ctx with mka := { ctx.mka with pendingEvents := 0 } } := by
  have noRetire :
      ¬(hasFlag ctx.mka.pendingEvents Mka.EventFlag.sakRetireRequired = true ∧
        ctx.mka.oldSak.lifecycleState = .retiring) := by
    rw [free]
    exact fun retire => Mka.SakState.noConfusion retire.2
  rw [serviced, notDue, if_neg Bool.false_ne_true, drained, if_neg noRetire,
    kept]
  rfl

/-- Servicing installs the SAK that is due. -/
theorem serviced_due
    (due : Mka.Participant.sakAvailable ctx.mka.latestSak = true)
    (free : ctx.mka.oldSak = Mka.Sak.cleared) :
    let sak := ctx.mka.latestSak
    ctx.serviced =
      { ctx with
        state := .secured
        table := txTable (rxTable ctx.table sak.sak sak.an sak.lowestPn)
          sak.sak sak.an
        mka :=
          { ctx.mka with
            latestSak := activeSak sak
            state :=
              if ctx.mka.peer.valid && ctx.mka.peer.live then .operational
              else ctx.mka.state
            pendingEvents := 0
            txReasons := ctx.mka.txReasons ||| Mka.TxReason.sakUse } } := by
  have noRetire :
      ¬(hasFlag ctx.mka.pendingEvents Mka.EventFlag.sakRetireRequired = true ∧
        ctx.mka.oldSak.lifecycleState = .retiring) := by
    rw [free]
    exact fun retire => Mka.SakState.noConfusion retire.2
  dsimp only
  rw [serviced, due, if_pos rfl, drained, if_neg noRetire]
  unfold activated
  dsimp only
  rw [free]
  rfl

/-- The clock of a context does not let its peer expire. -/
def Awake (ctx : Control) (nowMs : UInt32) : Prop :=
  nowMs - ctx.lastTickMs <
      ctx.mka.txIntervalMs * Mka.peerTimeoutMultiplier ∧
    (ctx.mka.peer.valid = true →
      nowMs - ctx.mka.peer.lastSeenMs <
        ctx.mka.txIntervalMs * Mka.peerTimeoutMultiplier)

theorem Awake.stays (awake : ctx.Awake nowMs) : ¬ctx.mka.Expires nowMs :=
  fun expires => absurd (awake.2 expires.1) (UInt32.not_lt.mpr expires.2)

/-- A tick of an idle context only schedules transmissions. -/
theorem Idle.tick_eq (idle : ctx.Idle) (stays : ¬ctx.mka.Expires nowMs) :
    ∃ reasons, Mka.TxReason.Known reasons ∧
      (ctx.tick nowMs).2 =
        { ctx with
          lastTickMs := nowMs
          mka :=
            { ctx.mka with
              lastTickMs := nowMs
              pendingEvents := 0
              txReasons := ctx.mka.txReasons ||| reasons } } := by
  have inv := idle.resting.mka.inv
  obtain ⟨expired, events, more, which, harmless, result⟩ :=
    Mka.Participant.tick_cases inv nowMs
  obtain ⟨reasons, known, scheduled⟩ :=
    @Mka.Participant.schedules_tick ctx.mka nowMs
  rcases which with ⟨-, rfl⟩ | ⟨expires, -⟩
  · rw [result] at scheduled
    have before := Mka.Participant.hasFlag_servicedEvents_eq_false.mp
      idle.resting.mka.quiet
    have more := Mka.Participant.hasFlag_servicedEvents_eq_false.mp
      harmless
    refine ⟨reasons, known, ?_⟩
    rw [Control.tick_eq idle.resting nowMs, result, serviced_quiet]
    · exact congrArg
        (fun due => { ctx with
          lastTickMs := nowMs
          mka :=
            { ctx.mka with
              lastTickMs := nowMs
              pendingEvents := 0
              txReasons := due } }) scheduled
    · exact idle.notDue
    · exact idle.free
    · change hasFlag (_ ||| _) _ = false
      rw [hasFlag_or, before.2.2, more.2.2]
      rfl
  · exact absurd expires stays

/-! ## A turn -/

/-- A station ticks, builds the frame that is due, and reports what became of
it.  A frame that was transmitted says what its sender was when it built it. -/
def serve (ctx : Control) (nowMs : UInt32) (rnd : Octets 16) (sent : Bool) :
    Control × Option Mka.Participant :=
  let ticked := (ctx.tick nowMs).2
  if ticked.mka.txReasons = 0 then
    ({ ticked with pendingMkaTxMeta := Mka.TxMeta.cleared }, none)
  else
    let built := ticked.built rnd
    if sent then ((built.notifyControlTxSuccess nowMs).2, some built.mka)
    else (built.notifyControlTxFailure.2, none)

/-- Building a frame leaves a context at rest. -/
theorem built_resting (resting : ctx.Resting) (rnd : Octets 16) :
    (ctx.built rnd).Resting := by
  refine ⟨resting.mode,
    (Mka.Participant.ensureForTx_keeps resting.mka.inv rnd).resting
      resting.mka, ?_⟩
  rcases ctx.mka.ensureForTx_cases rnd with same | ⟨-, -, -, generated⟩
  · change (ctx.mka.ensureForTx rnd).2.latestSak.lifecycleState = _ → _
    rw [same]
    exact resting.waiting
  · change (ctx.mka.ensureForTx rnd).2.latestSak.lifecycleState = _ → _
    rw [generated]
    exact Mka.SakState.noConfusion

/-- The report of the transmission of a frame that was just built is accepted.
-/
theorem notifyControlTxSuccess_built (idle : ctx.Idle)
    (due : ctx.mka.txReasons ≠ 0) (rnd : Octets 16) :
    let mka := (ctx.mka.ensureForTx rnd).2
    ((ctx.built rnd).notifyControlTxSuccess nowMs).2 =
      { ctx with
        mka := (mka.notifyDistributed mka.txMeta).2.sent mka.txMeta nowMs
        pendingMkaTxMeta := Mka.TxMeta.cleared
        pendingMkaTxValid := false }.serviced := by
  intro mka
  have scheduled := @Mka.Participant.schedules_ensureForTx ctx.mka rnd
  have inv := (Mka.Participant.ensureForTx_keeps idle.resting.mka.inv rnd).inv
  have takes : mka.TakesReport mka.txMeta := by
    refine ⟨rfl, scheduled.due due, ?_, fun contains => ?_⟩
    · have known := scheduled.known idle.known
      rw [Mka.TxReason.Known, hasFlag, bne_eq_false_iff_eq] at known
      exact known
    · have offers := Mka.Participant.offers_txMeta contains
      exact ⟨Mka.Participant.distributable_of_local inv.latest offers.origin,
        offers.origin, offers.keyNumber, offers.an⟩
  have accepted : (mka.notifyTxSuccess mka.txMeta nowMs).1 = .ok :=
    (mka.notifyTxSuccess_ok_iff mka.txMeta nowMs).mpr takes
  have result : (mka.notifyTxSuccess mka.txMeta nowMs).2 =
      (mka.notifyDistributed mka.txMeta).2.sent mka.txMeta nowMs := by
    rcases mka.notifyTxSuccess_cases mka.txMeta nowMs with
      ⟨refused, -⟩ | ⟨-, -, result⟩
    · exact absurd accepted refused
    · rw [result]
  rcases notifyControlTxSuccess_cases (built_resting idle.resting rnd) nowMs
    with ⟨idle, -⟩ | ⟨-, refused, -⟩ | ⟨-, -, -, reported⟩
  · exact Bool.noConfusion idle
  · exact absurd accepted refused
  · rw [reported, ← result]
    rfl

/-- What a turn of an idle context does in any case. -/
structure Turned (before after : Control) (nowMs : UInt32) : Prop where
  idle : after.Idle
  standing : before.mka.SameStanding after.mka
  clock : after.lastTickMs = nowMs

/-- A turn may end without a frame. -/
theorem Turned.unbuilt {before after : Control}
    (turned : before.Turned after nowMs) :
    before.Turned { after with pendingMkaTxMeta := Mka.TxMeta.cleared }
      nowMs := by
  obtain ⟨⟨⟨mode, mka, waiting⟩, settled, known, free, working⟩, standing,
    clock⟩ := turned
  exact ⟨⟨⟨mode, mka, waiting⟩, settled, known, free, working⟩, standing,
    clock⟩

/-- The peer of a station does not expire soon after a turn either. -/
theorem Turned.awake {before after : Control} {later : UInt32}
    (turned : before.Turned after nowMs) (awake : before.Awake later)
    (soon : later - nowMs <
      before.mka.txIntervalMs * Mka.peerTimeoutMultiplier) :
    after.Awake later := by
  obtain ⟨-, -, -, -, interval⟩ :=
    Mka.Settings.mk.inj turned.standing.settings
  unfold Awake
  rw [turned.clock, turned.standing.peer, interval]
  exact ⟨soon, awake.2⟩

/-- The part of a context that a handshake without a SAK leaves alone. -/
structure SameKeys (before after : Control) : Prop where
  state : after.state = before.state
  table : after.table = before.table
  latest : after.mka.latestSak = before.mka.latestSak

/-- Ticking starts a turn. -/
theorem Idle.ticked (idle : ctx.Idle) (stays : ¬ctx.mka.Expires nowMs) :
    ctx.Turned (ctx.tick nowMs).2 nowMs ∧ ctx.SameKeys (ctx.tick nowMs).2 ∧
      (ctx.mka.txReasons ≠ 0 → (ctx.tick nowMs).2.mka.txReasons ≠ 0) := by
  have rests := Control.tick_resting idle.resting nowMs
  obtain ⟨reasons, known, result⟩ := idle.tick_eq stays
  rw [result] at rests ⊢
  exact ⟨⟨⟨rests, idle.settled, idle.known.union known, idle.free,
      idle.working⟩, ⟨rfl, rfl, rfl⟩, rfl⟩, ⟨rfl, rfl, rfl⟩,
    fun due none => due (UInt32.or_eq_zero_iff.mp none).1⟩

/-- A SAK that waits for its first transmission. -/
def Waits (sak : Mka.Sak) : Prop :=
  sak.lifecycleState = .distributionPending ∧ sak.lowestPn = 1

/-- Building a frame leaves a participant what it is, and its latest SAK too
unless it serves a live peer. -/
theorem ensured (mka : Mka.Participant) (rnd : Octets 16) :
    let after := (mka.ensureForTx rnd).2
    mka.SameStanding after ∧ after.oldSak = mka.oldSak ∧
      (after = mka ∨
        mka.localKeyServer = true ∧
          (mka.peer.valid && mka.peer.live) = true ∧
          mka.latestSak.lifecycleState = .none ∧ Waits after.latestSak) := by
  rcases mka.ensureForTx_cases rnd with same | ⟨server, live, none, result⟩
  · rw [same]
    exact ⟨.refl mka, rfl, Or.inl rfl⟩
  · rw [result]
    exact ⟨⟨rfl, rfl, rfl⟩, rfl, Or.inr ⟨server, live, none, rfl, rfl⟩⟩

theorem notifyControlTxFailure_built (mode : ctx.cfg.mode = .mkaPsk)
    (rnd : Octets 16) :
    let mka := (ctx.mka.ensureForTx rnd).2
    (ctx.built rnd).notifyControlTxFailure.2 =
      { ctx with
        mka := { mka with txReasons := mka.txReasons ||| mka.txReasons }
        pendingMkaTxMeta := Mka.TxMeta.cleared
        pendingMkaTxValid := false } := by
  unfold notifyControlTxFailure
  rw [if_neg
    (show ¬(ctx.built rnd).cfg.mode ≠ .mkaPsk from not_not_intro mode)]
  rfl

/-- A station has no SAK to generate, nor one to distribute for the first time.
-/
structure Content (ctx : Control) : Prop where
  distributed : ctx.mka.latestSak.lifecycleState ≠ .distributionPending
  noneDue : ¬(ctx.mka.localKeyServer = true ∧
    (ctx.mka.peer.valid && ctx.mka.peer.live) = true ∧
    ctx.mka.latestSak.lifecycleState = .none)

/-- A turn whose transmission fails only schedules transmissions and, as the
case may be, generates a SAK. -/
theorem serve_failed (idle : ctx.Idle) (awake : ctx.Awake nowMs)
    (rnd : Octets 16) :
    let after := (ctx.serve nowMs rnd false).1
    ctx.Turned after nowMs ∧ (ctx.serve nowMs rnd false).2 = none ∧
      after.state = ctx.state ∧ after.table = ctx.table ∧
      (after.mka.latestSak = ctx.mka.latestSak ∨
        ctx.mka.localKeyServer = true ∧
          (ctx.mka.peer.valid && ctx.mka.peer.live) = true ∧
          ctx.mka.latestSak.lifecycleState = .none ∧
          Waits after.mka.latestSak) ∧
      (ctx.mka.txReasons ≠ 0 → after.mka.txReasons ≠ 0) := by
  obtain ⟨turned, same, due⟩ := idle.ticked awake.stays
  unfold serve
  revert turned same due
  generalize (ctx.tick nowMs).2 = ticked
  intro turned same due
  dsimp only
  split
  next none =>
      exact ⟨turned.unbuilt, rfl, same.state, same.table, Or.inl same.latest,
        due⟩
  next some =>
      have rests :=
        notifyControlTxFailure_resting (built_resting turned.idle.resting rnd)
      obtain ⟨standing, old, latest⟩ := ensured ticked.mka rnd
      have scheduled := @Mka.Participant.schedules_ensureForTx ticked.mka rnd
      have known := scheduled.known turned.idle.known
      rw [if_neg Bool.false_ne_true]
      dsimp only
      rw [notifyControlTxFailure_built turned.idle.resting.mode] at rests ⊢
      refine ⟨⟨⟨rests, rfl, known.union known, old.trans turned.idle.free,
          turned.idle.working⟩, turned.standing.trans
            ⟨standing.settings, standing.peer, standing.server⟩,
          turned.clock⟩, rfl, same.state, same.table, ?_, fun some none => ?_⟩
      · rcases latest with kept | ⟨server, live, absent, waits⟩
        · exact Or.inl ((congrArg _ kept).trans same.latest)
        · rw [turned.standing.server] at server
          rw [turned.standing.peer] at live
          rw [same.latest] at absent
          exact Or.inr ⟨server, live, absent, waits⟩
      · exact scheduled.due (due some) (UInt32.or_eq_zero_iff.mp none).1

/-- A turn whose transmission succeeds leaves the SAK of a content station
alone. -/
theorem serve_sent (idle : ctx.Idle) (awake : ctx.Awake nowMs)
    (content : ctx.Content) (rnd : Octets 16) :
    let served := ctx.serve nowMs rnd true
    ctx.Turned served.1 nowMs ∧ ctx.SameKeys served.1 ∧
      (∀ sender, served.2 = some sender →
        ctx.mka.SameStanding sender ∧
          sender.latestSak = ctx.mka.latestSak) ∧
      (ctx.mka.txReasons ≠ 0 → served.2 ≠ none) := by
  obtain ⟨turned, same, due⟩ := idle.ticked awake.stays
  unfold serve
  revert turned same due
  generalize (ctx.tick nowMs).2 = ticked
  intro turned same due
  dsimp only
  split
  next idle =>
      exact ⟨turned.unbuilt, ⟨same.state, same.table, same.latest⟩,
        fun _ builds => absurd builds.symm (Option.some_ne_none _),
        fun some => absurd idle (due some)⟩
  next some =>
      have rests := notifyControlTxSuccess_resting
        (built_resting turned.idle.resting rnd) nowMs
      have reported :=
        @notifyControlTxSuccess_built ticked nowMs turned.idle some rnd
      rw [if_pos rfl]
      have noneDue : ¬(ticked.mka.localKeyServer = true ∧
          (ticked.mka.peer.valid && ticked.mka.peer.live) = true ∧
          ticked.mka.latestSak.lifecycleState = .none) := by
        rw [turned.standing.server, turned.standing.peer, same.latest]
        exact content.noneDue
      have kept : (ticked.mka.ensureForTx rnd).2 = ticked.mka := by
        rcases (ensured ticked.mka rnd).2.2 with
          kept | ⟨server, live, absent, -⟩
        · exact kept
        · exact absurd ⟨server, live, absent⟩ noneDue
      have silent :
          (ticked.mka.notifyDistributed ticked.mka.txMeta).2 = ticked.mka := by
        rcases ticked.mka.notifyDistributed_cases ticked.mka.txMeta with
          silent | ⟨-, pending, -⟩
        · exact silent
        · rw [same.latest] at pending
          exact absurd pending content.distributed
      have quiet := Mka.Participant.hasFlag_servicedEvents_eq_false.mp
        turned.idle.resting.mka.quiet
      dsimp only at reported ⊢
      rw [kept, silent, serviced_quiet (by exact turned.idle.notDue)
        (by exact turned.idle.free) (by exact quiet.2.2)] at reported
      rw [reported] at rests ⊢
      refine ⟨⟨⟨rests, rfl, turned.idle.known.inter _, turned.idle.free,
          turned.idle.working⟩, turned.standing.trans ⟨rfl, rfl, rfl⟩,
          turned.clock⟩, ⟨same.state, same.table, same.latest⟩, ?_,
        fun _ => Option.some_ne_none _⟩
      intro sender builds
      rw [← Option.some.inj builds]
      change ctx.mka.SameStanding (ticked.mka.ensureForTx rnd).2 ∧
        (ticked.mka.ensureForTx rnd).2.latestSak = _
      rw [kept]
      exact ⟨turned.standing, same.latest⟩

/-- So does any turn of a content station. -/
theorem serve_content (idle : ctx.Idle) (awake : ctx.Awake nowMs)
    (content : ctx.Content) (rnd : Octets 16) (sent : Bool) :
    let served := ctx.serve nowMs rnd sent
    ctx.Turned served.1 nowMs ∧ ctx.SameKeys served.1 ∧
      (∀ sender, served.2 = some sender →
        ctx.mka.SameStanding sender ∧
          sender.latestSak = ctx.mka.latestSak) ∧
      (if sent then ctx.mka.txReasons ≠ 0 → served.2 ≠ none
      else served.2 = none ∧
        (ctx.mka.txReasons ≠ 0 → served.1.mka.txReasons ≠ 0)) := by
  cases sent with
  | false =>
      obtain ⟨turned, unheard, state, table, latest, due⟩ :=
        serve_failed idle awake rnd
      have latest : (ctx.serve nowMs rnd false).1.mka.latestSak =
          ctx.mka.latestSak := by
        rcases latest with same | ⟨server, live, absent, -⟩
        · exact same
        · exact absurd ⟨server, live, absent⟩ content.noneDue
      refine ⟨turned, ⟨state, table, latest⟩, fun sender heard => ?_,
        unheard, due⟩
      rw [unheard] at heard
      exact absurd heard.symm (Option.some_ne_none sender)
  | true =>
      obtain ⟨turned, same, tells, due⟩ := serve_sent idle awake content rnd
      exact ⟨turned, same, tells, due⟩

/-- A Key Server with a live peer has a SAK once it built a frame. -/
theorem ensured_waits {mka : Mka.Participant}
    (server : mka.localKeyServer = true)
    (live : (mka.peer.valid && mka.peer.live) = true)
    (latest : mka.latestSak.lifecycleState = .none ∨ Waits mka.latestSak)
    (rnd : Octets 16) : Waits (mka.ensureForTx rnd).2.latestSak := by
  unfold Mka.Participant.ensureForTx
  rw [if_pos (by rw [server, Bool.true_and, live])]
  rcases latest with absent | waits
  · rw [Mka.Participant.keyServerEnsureSak_of_none server live absent]
    exact ⟨rfl, rfl⟩
  · rw [Mka.Participant.keyServerEnsureSak_of_some]
    · exact waits
    · rw [waits.1]
      exact Mka.SakState.noConfusion

/-- What servicing makes of a Key Server that committed its SAK. -/
theorem serviced_committed {mka : Mka.Participant}
    (shape : Mka.LatestShape mka.latestSak)
    (server : mka.localKeyServer = true)
    (live : (mka.peer.valid && mka.peer.live) = true)
    (waits : Waits mka.latestSak) (free : mka.oldSak = Mka.Sak.cleared)
    (known : Mka.TxReason.Known mka.txReasons) (nowMs : UInt32) :
    let after :=
      { ctx with
        mka := (mka.notifyDistributed mka.txMeta).2.sent mka.txMeta nowMs
        pendingMkaTxMeta := Mka.TxMeta.cleared
        pendingMkaTxValid := false }.serviced
    let sak := mka.latestSak
    (after.state = .secured ∧
      after.table =
        txTable (rxTable ctx.table sak.sak sak.an sak.lowestPn) sak.sak
          sak.an ∧
      after.mka.latestSak =
        activeSak { sak with lifecycleState := .distributed }) ∧
    (mka.SameStanding after.mka ∧ after.mka.oldSak = Mka.Sak.cleared ∧
      Mka.TxReason.Known after.mka.txReasons) ∧
    after.pendingMkaTxValid = false ∧ after.lastTickMs = ctx.lastTickMs := by
  intro after sak
  have origin : mka.latestSak.origin = .localKeyServer := by
    rw [Mka.LatestShape, waits.1] at shape
    exact shape.2.1
  have committed := (mka.notifyDistributed_first shape server live waits.1).2
  have result : after =
      { ctx with
        mka := mka.committed.sent mka.txMeta nowMs
        pendingMkaTxMeta := Mka.TxMeta.cleared
        pendingMkaTxValid := false }.serviced := by
    change Control.serviced _ = _
    rw [committed]
  rw [result, serviced_due]
  · exact ⟨⟨rfl, rfl, rfl⟩, ⟨⟨rfl, rfl, rfl⟩, free,
      (known.inter _).union rfl⟩, rfl, rfl⟩
  · change Mka.Participant.sakAvailable
      { mka.latestSak with lifecycleState := .distributed } = true
    rw [Mka.Participant.sakAvailable, origin]
    rfl
  · exact free

/-- The first MKPDU with a SAK that is transmitted secures its sender. -/
theorem serve_distributes (idle : ctx.Idle) (awake : ctx.Awake nowMs)
    (due : ctx.mka.txReasons ≠ 0) (server : ctx.mka.localKeyServer = true)
    (live : (ctx.mka.peer.valid && ctx.mka.peer.live) = true)
    (latest : ctx.mka.latestSak.lifecycleState = .none ∨
      Waits ctx.mka.latestSak) (rnd : Octets 16) :
    ∃ sender, (ctx.serve nowMs rnd true).2 = some sender ∧
      ctx.mka.SameStanding sender ∧ Mka.LatestShape sender.latestSak ∧
      Waits sender.latestSak ∧
      let after := (ctx.serve nowMs rnd true).1
      let sak := sender.latestSak
      ctx.Turned after nowMs ∧ after.state = .secured ∧
        after.table =
          txTable (rxTable ctx.table sak.sak sak.an sak.lowestPn) sak.sak
            sak.an ∧
        after.mka.latestSak =
          activeSak { sak with lifecycleState := .distributed } := by
  obtain ⟨turned, same, stays⟩ := idle.ticked awake.stays
  unfold serve
  revert turned same stays
  generalize (ctx.tick nowMs).2 = ticked
  intro turned same stays
  dsimp only
  rw [if_neg (stays due), if_pos rfl]
  have standing := turned.standing
  rw [← standing.server] at server
  rw [← standing.peer] at live
  rw [← same.latest] at latest
  have waits := ensured_waits server live latest rnd
  have keeps :=
    Mka.Participant.ensureForTx_keeps turned.idle.resting.mka.inv rnd
  obtain ⟨ensured, old, -⟩ := ensured ticked.mka rnd
  refine ⟨_, rfl, standing.trans ensured, keeps.inv.latest, waits, ?_⟩
  have rests := notifyControlTxSuccess_resting
    (built_resting turned.idle.resting rnd) nowMs
  have reported :=
    @notifyControlTxSuccess_built ticked nowMs turned.idle (stays due) rnd
  have known :=
    (@Mka.Participant.schedules_ensureForTx ticked.mka rnd).known
      turned.idle.known
  obtain ⟨⟨secured, table, latest⟩, ⟨committed, free, known⟩, settled,
    clock⟩ :=
    @serviced_committed ticked _ keeps.inv.latest
      (ensured.server.trans server) (by rw [ensured.peer, live]) waits
      (old.trans turned.idle.free) known nowMs
  dsimp only at reported
  rw [← reported] at secured table latest committed free known settled clock
  refine ⟨⟨⟨rests, settled, known, free, ?_⟩,
    (standing.trans ensured).trans committed, clock.trans turned.clock⟩,
    secured, ?_, latest⟩
  · rw [secured]
    exact State.noConfusion
  · rw [table, same.table]
    rfl

/-! ## Hearing the other station -/

/-- What hearing another participant does to an idle context in any case. -/
structure Hears (before after : Control) (sender : Mka.Participant)
    (regard : Regard) : Prop where
  idle : after.Idle
  settings : after.mka.settings = before.mka.settings
  regards : after.mka.Regards sender regard
  seen : after.mka.peer.lastSeenMs = before.lastTickMs
  clock : after.lastTickMs = before.lastTickMs
  due : before.mka.txReasons ≠ 0 → after.mka.txReasons ≠ 0

variable {sender : Mka.Participant} {ckn : Bytes} {own others : Regard}

/-- Nor does the peer that was just heard. -/
theorem Hears.awake {before after : Control} {later : UInt32}
    (hears : before.Hears after sender own) (awake : before.Awake later) :
    after.Awake later := by
  obtain ⟨-, -, -, -, interval⟩ := Mka.Settings.mk.inj hears.settings
  unfold Awake
  rw [hears.clock, hears.seen, interval]
  exact ⟨awake.1, fun _ => awake.1⟩

/-- A frame that is processed to the end is serviced. -/
theorem receiveMka_processed (idle : ctx.Idle) {pdu : Mka.Mkpdu}
    {rnd : Octets 16}
    (processed : (ctx.mka.processMkpdu pdu rnd ctx.lastTickMs).1 = .ok) :
    let mka := (ctx.mka.processMkpdu pdu rnd ctx.lastTickMs).2
    ctx.receiveMka (.accepted pdu) rnd =
        (.ok, { ctx with mka := mka }.serviced) ∧
      { ctx with mka := mka }.serviced.Resting ∧
      hasFlag mka.pendingEvents Mka.EventFlag.peerLost = false := by
  intro mka
  have rests := receiveMka_resting idle.resting (.accepted pdu)
    (fun same => Mka.Received.noConfusion same) rnd
  obtain ⟨-, kept⟩ :=
    (Mka.Participant.processMkpdu_serviceable idle.resting.mka pdu rnd
      ctx.lastTickMs).2 processed |>.2
  rcases receiveMka_cases idle.resting (.accepted pdu)
      (fun same => Mka.Received.noConfusion same) rnd with
    ⟨refused, -⟩ | ⟨-, -, result⟩
  · exact absurd processed refused
  · rw [result] at rests
    exact ⟨result, rests, kept⟩

/-- With a free slot, whatever another participant says is processed. -/
theorem processed_heard (idle : ctx.Idle)
    (shape : Mka.LatestShape sender.latestSak) (rnd : Octets 16) :
    ctx.mka.Takes (ctx.mka.heard ckn sender) ∧
      (ctx.mka.processMkpdu (ctx.mka.heard ckn sender) rnd
        ctx.lastTickMs).1 = .ok := by
  have takes : ctx.mka.Takes (ctx.mka.heard ckn sender) :=
    ⟨Mka.not_scanFails_offeredSak shape,
      fun _ => Or.inr (congrArg Mka.Sak.lifecycleState idle.free)⟩
  exact ⟨takes, (ctx.mka.processMkpdu_ok_iff idle.resting.mka.inv _ rnd
    _).mpr ⟨takes, Mka.not_scanFails_reportedUse sender⟩⟩

/-- A participant that may not include its SAK distributes none. -/
theorem not_distributes_of_excluded
    (excluded : sender.includeDistributedSak = false) :
    ¬ctx.mka.Distributes (ctx.mka.heard ckn sender) := by
  rintro ⟨found, scan, -⟩
  change sender.offeredSak = _ at scan
  rw [Mka.Participant.offeredSak, excluded] at scan
  cases scan

/-- A participant distributes no other SAK than the one that was adopted from
it. -/
theorem not_distributes_of_adopted
    (shape : Mka.LatestShape sender.latestSak)
    (present : ctx.mka.latestSak.lifecycleState ≠ .none)
    (adopted : ctx.mka.latestSak.origin = .remoteKeyServer)
    (key : ctx.mka.latestSak.sak = sender.latestSak.sak)
    (keyNumber : ctx.mka.latestSak.keyNumber = sender.latestSak.keyNumber)
    (an : ctx.mka.latestSak.an = sender.latestSak.an) :
    ¬ctx.mka.Distributes (ctx.mka.heard ckn sender) := by
  cases included : sender.includeDistributedSak with
  | false => exact not_distributes_of_excluded included
  | true =>
      obtain ⟨offered, scan, sameKey, sameNumber, sameAn⟩ :=
        Mka.exists_offeredSak shape included
      rintro ⟨found, found', different⟩
      change sender.offeredSak = _ at found'
      rw [scan] at found'
      cases found'
      rw [Mka.Participant.sameSak, adopted, key, keyNumber, an, sameKey,
        sameNumber, sameAn] at different
      simp [present, compare_eq_zero] at different

/-- A SAK stays as it is, or is in use and reported on. -/
def KeepsSak (before after : Mka.Participant) : Prop :=
  after.latestSak = before.latestSak ∨
    (before.InUse ∧ ∃ report,
      after.latestSak =
        Mka.Participant.reportedSak before.latestSak report)

/-- A SAK that stays is due for installation no more than before. -/
theorem KeepsSak.notDue {mka : Mka.Participant} (keeps : KeepsSak ctx.mka mka)
    (idle : ctx.Idle) :
    Mka.Participant.sakAvailable mka.latestSak = false := by
  rcases keeps with same | ⟨inUse, report, reported⟩
  · rw [same, idle.notDue]
  · have inUse : (Mka.Participant.reportedSak ctx.mka.latestSak
          report).lifecycleState = .active ∨
        (Mka.Participant.reportedSak ctx.mka.latestSak
          report).lifecycleState = .confirmed :=
      (Mka.Participant.reportedLifecycle_inUse _ _).1.mpr inUse
    rw [reported, Mka.Participant.sakAvailable]
    rcases inUse with active | confirmed
    · simp [active]
    · simp [confirmed]

/-- Hearing a participant that neither distributes another SAK nor is a stranger
to a Key Server with a SAK leaves the SAKs alone. -/
theorem keeps_heard (idle : ctx.Idle)
    (regards : ctx.mka.Regards sender own)
    (known : ctx.mka.latestSak = Mka.Sak.cleared ∨ own ≠ .unknown)
    (silent : ¬ctx.mka.Distributes (ctx.mka.heard ckn sender))
    (rnd : Octets 16) :
    let after := (ctx.mka.processMkpdu (ctx.mka.heard ckn sender) rnd
      ctx.lastTickMs).2
    KeepsSak ctx.mka after ∧ after.oldSak = Mka.Sak.cleared := by
  have stays : ¬ctx.mka.Displaces (ctx.mka.heard ckn sender) := by
    rintro ⟨-, found | ⟨⟨stranger, -⟩, present, -⟩⟩
    · exact silent found
    · rcases known with blank | known
      · rw [blank] at present
        exact present rfl
      · rw [Mka.Participant.peerIdentityChanged_heard regards,
          decide_eq_true_iff] at stranger
        exact known stranger
  rcases ctx.mka.processMkpdu_slots idle.resting.mka.inv
      (ctx.mka.heard ckn sender) rnd ctx.lastTickMs with
    ⟨-, ⟨slots, -⟩ | ⟨report, -, ⟨state, -⟩, slots⟩⟩ | ⟨displaces, -⟩
  · exact ⟨Or.inl (congrArg Mka.Slots.latest slots),
      (congrArg Mka.Slots.old slots).trans idle.free⟩
  · have inUse : ctx.mka.InUse := by
      rcases state with distributed | installing | active | confirmed
      · exact absurd distributed idle.resting.mka.settled.1
      · exact absurd installing idle.resting.mka.settled.2
      · exact Or.inl active
      · exact Or.inr confirmed
    exact ⟨Or.inr ⟨inUse, report, congrArg Mka.Slots.latest slots⟩,
      (congrArg Mka.Slots.old slots).trans idle.free⟩
  · exact absurd displaces stays

/-- Hearing such a participant only changes what it is thought of. -/
theorem hear_silent (idle : ctx.Idle)
    (regards : ctx.mka.Regards sender own)
    (returns : sender.Regards ctx.mka others) (long : 4 ≤ ckn.length)
    (shape : Mka.LatestShape sender.latestSak)
    (known : ctx.mka.latestSak = Mka.Sak.cleared ∨ own ≠ .unknown)
    (silent : ¬ctx.mka.Distributes (ctx.mka.heard ckn sender))
    (rnd : Octets 16) :
    let after :=
      (ctx.receiveMka (.accepted (ctx.mka.heard ckn sender)) rnd).2
    ctx.Hears after sender (own.onHearing others) ∧
      after.state = ctx.state ∧ after.table = ctx.table ∧
      KeepsSak ctx.mka after.mka ∧
      (own.onHearing others ≠ own → after.mka.txReasons ≠ 0) := by
  have inv := idle.resting.mka.inv
  obtain ⟨takes, processed⟩ := @processed_heard _ sender ckn idle shape rnd
  obtain ⟨keeps, free⟩ := keeps_heard idle regards known silent rnd
  obtain ⟨regards', seen⟩ :=
    Mka.Participant.regards_processMkpdu inv regards returns long takes rnd
      ctx.lastTickMs
  have news := Mka.Participant.due_processMkpdu inv regards returns long rnd
    ctx.lastTickMs processed
  have scheduled := Mka.Participant.schedules_processMkpdu inv
    (ctx.mka.heard ckn sender) rnd ctx.lastTickMs
  have settings := Mka.Participant.settings_processMkpdu inv
    (ctx.mka.heard ckn sender) rnd ctx.lastTickMs
  obtain ⟨result, rests, kept⟩ := receiveMka_processed idle processed
  rw [result]
  revert keeps free regards' seen news scheduled settings rests kept
  clear result
  generalize (ctx.mka.processMkpdu (ctx.mka.heard ckn sender) rnd
    ctx.lastTickMs).2 = mka
  intro keeps free regards' seen news scheduled settings rests kept
  dsimp only at kept rests ⊢
  rw [serviced_quiet (by exact keeps.notDue idle) free kept] at rests ⊢
  exact ⟨⟨⟨rests, idle.settled, scheduled.known idle.known, free,
      idle.working⟩, settings, regards'.of_standing ⟨rfl, rfl, rfl⟩, seen,
      rfl, scheduled.due⟩, rfl, rfl, keeps, news⟩

/-- Hearing the SAK of the Key Server for the first time secures a station. -/
theorem hear_distributed (idle : ctx.Idle)
    (blank : ctx.mka.latestSak = Mka.Sak.cleared)
    (regards : ctx.mka.Regards sender own)
    (returns : sender.Regards ctx.mka others) (long : 4 ≤ ckn.length)
    (shape : Mka.LatestShape sender.latestSak)
    (included : sender.includeDistributedSak = true)
    (wins : sender.keyServerPriority ≤ ctx.mka.keyServerPriority)
    (rnd : Octets 16) :
    let after :=
      (ctx.receiveMka (.accepted (ctx.mka.heard ckn sender)) rnd).2
    let sak := sender.latestSak
    ctx.Hears after sender (own.onHearing others) ∧
      after.state = .secured ∧
      after.table =
        txTable (rxTable ctx.table sak.sak sak.an 1) sak.sak sak.an ∧
      ∃ found : Mka.DistributedSak, found.sak = sak.sak ∧
        found.keyNumber = sak.keyNumber ∧ found.an = sak.an ∧
        after.mka.latestSak = activeSak found.candidate := by
  have inv := idle.resting.mka.inv
  obtain ⟨found, scan, key, keyNumber, an⟩ :=
    Mka.exists_offeredSak shape included
  have different : ctx.mka.sameSak found = false := by
    rw [Mka.Participant.sameSak, blank]
    rfl
  obtain ⟨takes, processed⟩ := @processed_heard _ sender ckn idle shape rnd
  have adopts := Mka.Participant.processMkpdu_adopts inv takes scan different
    wins rnd ctx.lastTickMs
  have free : (ctx.mka.processMkpdu (ctx.mka.heard ckn sender) rnd
      ctx.lastTickMs).2.oldSak = Mka.Sak.cleared := by
    have superseded : ctx.mka.slots.superseded = Mka.Sak.cleared :=
      (Mka.Slots.superseded_of_unused (congrArg Mka.Sak.rxInstalled blank)
        (congrArg Mka.Sak.txInstalled blank)).trans idle.free
    rcases ctx.mka.processMkpdu_slots inv (ctx.mka.heard ckn sender) rnd
        ctx.lastTickMs with ⟨stays, -⟩ | ⟨-, sak, -, slots⟩
    · exact absurd ⟨takes, Or.inl ⟨found, scan, different⟩⟩ stays
    · exact (congrArg Mka.Slots.old slots).trans superseded
  obtain ⟨regards', seen⟩ :=
    Mka.Participant.regards_processMkpdu inv regards returns long takes rnd
      ctx.lastTickMs
  have scheduled := Mka.Participant.schedules_processMkpdu inv
    (ctx.mka.heard ckn sender) rnd ctx.lastTickMs
  have settings := Mka.Participant.settings_processMkpdu inv
    (ctx.mka.heard ckn sender) rnd ctx.lastTickMs
  obtain ⟨result, rests, -⟩ := receiveMka_processed idle processed
  rw [result]
  revert adopts free regards' seen scheduled settings rests
  clear result
  generalize (ctx.mka.processMkpdu (ctx.mka.heard ckn sender) rnd
    ctx.lastTickMs).2 = mka
  intro adopts free regards' seen scheduled settings rests
  dsimp only at rests ⊢
  rw [serviced_due (by rw [adopts]; rfl) free] at rests ⊢
  refine ⟨⟨⟨rests, idle.settled, (scheduled.known idle.known).union rfl, free,
      State.noConfusion⟩, settings, regards'.of_standing ⟨rfl, rfl, rfl⟩, seen,
      rfl, fun due none => scheduled.due due (UInt32.or_eq_zero_iff.mp none).1⟩,
    rfl, ?_, found, key, keyNumber, an, congrArg activeSak adopts⟩
  rw [← key, ← an]
  dsimp only
  rw [adopts]
  rfl

end Control

end Macsec
