import Macsec.Api.Defs
import Macsec.Mka.Reception

/-!
# Servicing never fails

Whenever a public function services the key agreement, the participant can be
serviced: the pending events are handled, the SAK that is due is installed in
both directions, and the participant is at rest again.
-/

namespace Macsec

/-! ## Installation in the data plane -/

theorem keyLenValid_eq_sakLenValid (keyLen : Nat) :
    FrameCrypto.keyLenValid keyLen = Mka.sakLenValid keyLen := rfl

/-- Whether an association holds a key, as a proposition. -/
theorem sakEqual_iff {sak : FrameCrypto.Sak} {key : Bytes} :
    sakEqual sak key = true ↔ sak.valid = true ∧ sak.key = key := by
  unfold sakEqual
  constructor
  · intro equal
    simp only [Bool.and_eq_true, beq_iff_eq] at equal
    exact ⟨equal.1.1, (compare_eq_zero equal.1.2).mp equal.2⟩
  · rintro ⟨valid, rfl⟩
    simp [valid, compare_eq_zero]

/-- The associations after the receive direction of a SAK is installed. -/
def rxTable (table : FrameCrypto.SaTable) (key : Bytes) (an : Fin 4)
    (lowestPn : UInt32) : FrameCrypto.SaTable :=
  if sakEqual (table.rxSak an) key then
    table
  else
    { table with
      rxSak :=
        Function.update table.rxSak an
          (FrameCrypto.normalizeRx
            (freshSak key an (if lowestPn = 0 then 1 else lowestPn))) }

/-- The associations after the transmit direction of a SAK is installed. -/
def txTable (table : FrameCrypto.SaTable) (key : Bytes) (an : Fin 4) :
    FrameCrypto.SaTable :=
  if sakEqual table.txSak key && table.txSak.an == an then
    table
  else
    { table with txSak := freshSak key an 1 }

/-- The associations after the old SAK is removed. -/
def removedTable (table : FrameCrypto.SaTable) (old : Mka.Sak) :
    FrameCrypto.SaTable :=
  let table :=
    if old.rxInstalled then (FrameCrypto.removeRxSak table old.an).2 else table
  if old.txInstalled && (sakEqual table.txSak old.sak &&
      table.txSak.an == old.an) then
    (FrameCrypto.removeTxSak table).2
  else
    table

namespace Control

variable {ctx : Control}

theorem installRxSak_eq {key : Bytes}
    (valid : Mka.sakLenValid key.length = true) (an : Fin 4)
    (lowestPn : UInt32) :
    ctx.installRxSak key an lowestPn =
      (.ok, { ctx with table := rxTable ctx.table key an lowestPn }) := by
  have accepted (pn : UInt32) :
      FrameCrypto.setRxSak ctx.table (freshSak key an pn) =
        (.ok,
          { ctx.table with
            rxSak :=
              Function.update ctx.table.rxSak an
                (FrameCrypto.normalizeRx (freshSak key an pn)) }) := by
    rw [FrameCrypto.setRxSak, if_neg (by simp [freshSak]),
      if_neg (by rw [keyLenValid_eq_sakLenValid]; simp [freshSak, valid])]
    rfl
  rw [installRxSak, if_neg (by rw [valid]; decide), rxTable]
  split
  next => rfl
  next =>
      dsimp only
      rw [accepted]

theorem installTxSak_eq {key : Bytes}
    (valid : Mka.sakLenValid key.length = true) (an : Fin 4) :
    ctx.installTxSak key an =
      (.ok, { ctx with table := txTable ctx.table key an }) := by
  have accepted :
      FrameCrypto.setTxSak ctx.table (freshSak key an 1) =
        (.ok, { ctx.table with txSak := freshSak key an 1 }) := by
    rw [FrameCrypto.setTxSak, if_neg (by simp [freshSak]),
      if_neg (by rw [keyLenValid_eq_sakLenValid]; simp [freshSak, valid])]
    rfl
  rw [installTxSak, if_neg (by rw [valid]; decide), txTable]
  split
  next => rfl
  next => rw [accepted]

/-! ## Retirement -/

/-- The context after the old SAK is retired. -/
def retired (ctx : Control) : Control :=
  { ctx with
    table := removedTable ctx.table ctx.mka.oldSak
    mka :=
      { ctx.mka with
        oldSak := Mka.Sak.cleared
        pendingEvents := ctx.mka.pendingEvents ||| Mka.EventFlag.sakRetired } }

theorem removeOldRx_eq :
    ctx.removeOldRx =
      (.ok,
        { ctx with
          table :=
            if ctx.mka.oldSak.rxInstalled then
              (FrameCrypto.removeRxSak ctx.table ctx.mka.oldSak.an).2
            else
              ctx.table }) := by
  unfold removeOldRx
  split
  next => rfl
  next => rfl

theorem removeOldTx_eq :
    ctx.removeOldTx =
      (.ok,
        { ctx with
          table :=
            if ctx.mka.oldSak.txInstalled &&
                (sakEqual ctx.table.txSak ctx.mka.oldSak.sak &&
                  ctx.table.txSak.an == ctx.mka.oldSak.an) then
              (FrameCrypto.removeTxSak ctx.table).2
            else
              ctx.table }) := by
  unfold removeOldTx
  cases ctx.mka.oldSak.txInstalled with
  | false => rfl
  | true =>
      rw [if_pos rfl, Bool.true_and]
      split
      next => rfl
      next => rfl

theorem removeMkaOldSak_of_none
    (absent : ctx.mka.oldSak.lifecycleState = .none) :
    ctx.removeMkaOldSak = (.ok, ctx) := by
  rw [removeMkaOldSak, if_pos absent]

theorem removeMkaOldSak_of_retiring
    (retiring : ctx.mka.oldSak.lifecycleState = .retiring) :
    ctx.removeMkaOldSak = (.ok, ctx.retired) := by
  have present : ctx.mka.oldSak.lifecycleState ≠ .none := by
    rw [retiring]
    exact Mka.SakState.noConfusion
  have notified :
      ctx.mka.notifySakRetired ctx.mka.oldSak.keyNumber ctx.mka.oldSak.an =
        (.ok,
          { ctx.mka with
            oldSak := Mka.Sak.cleared
            pendingEvents :=
              ctx.mka.pendingEvents ||| Mka.EventFlag.sakRetired }) := by
    rw [Mka.Participant.notifySakRetired, if_neg present,
      if_neg (not_not_intro rfl), if_neg (not_not_intro rfl),
      if_neg (not_not_intro retiring),
      Mka.Participant.setOldState_of_allowed (by rw [retiring]; rfl)]
    rfl
  rw [removeMkaOldSak, if_neg present, if_neg (not_not_intro retiring),
    removeOldRx_eq]
  dsimp only
  rw [removeOldTx_eq]
  dsimp only
  rw [notified]
  rfl

/-! ## Draining the events -/

/-- The context after the first round of events. -/
def drained (ctx : Control) : Control :=
  let events := ctx.mka.pendingEvents
  let quiet :=
    { ctx with
      state := if hasFlag events Mka.EventFlag.peerLost then .waitMka
        else ctx.state
      mka := { ctx.mka with pendingEvents := 0 } }
  if hasFlag events Mka.EventFlag.sakRetireRequired = true ∧
      ctx.mka.oldSak.lifecycleState = .retiring then
    quiet.retired
  else
    quiet

theorem followEvents_eq (events : UInt32) :
    ctx.followEvents events =
      { ctx with
        state :=
          if hasFlag events Mka.EventFlag.sakActive then .secured
          else if hasFlag events Mka.EventFlag.peerLost then .waitMka
          else ctx.state } := by
  unfold followEvents
  cases hasFlag events Mka.EventFlag.sakActive <;>
    cases hasFlag events Mka.EventFlag.peerLost <;> rfl

/-- Events without an error and without a request to retire only change the
state. -/
theorem processMkaEvents_of_noRetire
    (noError : hasFlag ctx.mka.pendingEvents Mka.EventFlag.error = false)
    (noRetire :
      hasFlag ctx.mka.pendingEvents Mka.EventFlag.sakRetireRequired = false) :
    ctx.processMkaEvents =
      (.ok,
        { ctx with
          mka := { ctx.mka with pendingEvents := 0 }
          state :=
            if hasFlag ctx.mka.pendingEvents Mka.EventFlag.sakActive then
              .secured
            else if hasFlag ctx.mka.pendingEvents Mka.EventFlag.peerLost then
              .waitMka
            else ctx.state }) := by
  unfold processMkaEvents Mka.Participant.takeEvents
  dsimp only
  rw [noError, noRetire, followEvents_eq]
  split
  next none => simp [none]
  next => rfl

theorem processMkaEvents_eq (serviceable : ctx.mka.Serviceable) :
    ctx.processMkaEvents = (.ok, ctx.drained) := by
  have inactive := serviceable.inactive
  have noError := serviceable.inv.noError
  cases retire :
      hasFlag ctx.mka.pendingEvents Mka.EventFlag.sakRetireRequired with
  | false =>
      rw [processMkaEvents_of_noRetire noError retire, inactive, drained,
        retire]
      rfl
  | true =>
      have some : ctx.mka.pendingEvents ≠ 0 := by
        intro none
        rw [none, hasFlag_zero] at retire
        exact Bool.noConfusion retire
      unfold processMkaEvents drained Mka.Participant.takeEvents
      dsimp only
      rw [if_neg some, noError, if_neg Bool.false_ne_true, followEvents_eq,
        inactive, retire, if_pos rfl]
      by_cases absent : ctx.mka.oldSak.lifecycleState = .none
      · have keep :
            ¬(true = true ∧ ctx.mka.oldSak.lifecycleState = .retiring) := by
          rw [absent]
          exact fun both => Mka.SakState.noConfusion both.2
        rw [removeMkaOldSak_of_none (by exact absent), if_neg keep]
        rfl
      · have retiring := serviceable.inv.old.retiring absent
        have both :
            true = true ∧ ctx.mka.oldSak.lifecycleState = .retiring :=
          ⟨rfl, retiring⟩
        rw [removeMkaOldSak_of_retiring (by exact retiring), if_pos both]
        rfl

/-- What the first round of events leaves is ready for installation. -/
theorem drained_serviceable (serviceable : ctx.mka.Serviceable) :
    ctx.drained.mka.Serviceable := by
  have inv := serviceable.inv
  unfold drained
  dsimp only
  split
  next =>
      have pending :
          (0 : UInt32) ||| Mka.EventFlag.sakRetired =
            Mka.EventFlag.sakRetired := by decide
      refine ⟨⟨⟨inv.latest, Mka.oldShape_cleared⟩, inv.peer, inv.nextKeyNumber,
        ?_⟩, ?_, ?_, serviceable.notInstalling, serviceable.unused⟩
      · simp only [retired, pending]
        decide
      · simp only [retired, pending]
        decide
      · intro retire
        simp only [retired, pending] at retire
        exact absurd retire (by decide)
  next =>
      refine ⟨⟨inv.slots, inv.peer, inv.nextKeyNumber, hasFlag_zero _⟩,
        hasFlag_zero _, ?_, serviceable.notInstalling, serviceable.unused⟩
      intro retire
      rw [hasFlag_zero] at retire
      exact Bool.noConfusion retire

/-- The first round leaves at most the event that the old SAK is gone. -/
theorem drained_events :
    hasFlag ctx.drained.mka.pendingEvents Mka.EventFlag.sakRetireRequired =
        false ∧
      hasFlag ctx.drained.mka.pendingEvents Mka.EventFlag.peerLost = false := by
  unfold drained
  dsimp only
  split
  next =>
      change hasFlag (0 ||| Mka.EventFlag.sakRetired) _ = false ∧
        hasFlag (0 ||| Mka.EventFlag.sakRetired) _ = false
      decide
  next => exact ⟨hasFlag_zero _, hasFlag_zero _⟩

/-- The first round of events leaves the latest SAK alone. -/
theorem drained_latest : ctx.drained.mka.latestSak = ctx.mka.latestSak := by
  unfold drained
  dsimp only
  split
  next => rfl
  next => rfl

/-! ## Installation -/

/-- The latest SAK after both directions are installed. -/
def activeSak (sak : Mka.Sak) : Mka.Sak :=
  { Mka.Participant.markedSak sak
      (if sak.lowestPn ≠ 0 then sak.lowestPn else 1) with
    lifecycleState := .active }

/-- The context after the latest SAK is installed in both directions. -/
def activated (ctx : Control) : Control :=
  let sak := ctx.mka.latestSak
  { ctx with
    table := txTable (rxTable ctx.table sak.sak sak.an sak.lowestPn) sak.sak
      sak.an
    mka :=
      { ctx.mka with
        latestSak := activeSak sak
        oldSak := Mka.Participant.silencedSak ctx.mka.oldSak
        state :=
          if ctx.mka.peer.valid && ctx.mka.peer.live then .operational
          else ctx.mka.state
        pendingEvents :=
          ctx.mka.pendingEvents |||
            (Mka.EventFlag.sakActive ||| Mka.EventFlag.txSakUse)
        txReasons := ctx.mka.txReasons ||| Mka.TxReason.sakUse } }

/-- A SAK that is due and can be serviced is unused. -/
theorem unused_of_available (serviceable : ctx.mka.Serviceable)
    (available : Mka.Participant.sakAvailable ctx.mka.latestSak = true) :
    ctx.mka.latestSak.Unused ∧
      ctx.mka.latestSak.lifecycleState ≠ .none := by
  rcases Mka.Participant.lifecycle_of_available available with
    lifecycle | lifecycle | lifecycle
  · have shape := serviceable.inv.latest
    rw [Mka.LatestShape, lifecycle] at shape
    rw [lifecycle]
    exact ⟨shape.2.2, Mka.SakState.noConfusion⟩
  · refine ⟨serviceable.unused lifecycle, ?_⟩
    rw [lifecycle]
    exact Mka.SakState.noConfusion
  · exact absurd lifecycle serviceable.notInstalling

theorem processMkaSakInstall_eq (serviceable : ctx.mka.Serviceable) :
    ctx.processMkaSakInstall =
      (.ok,
        if Mka.Participant.sakAvailable ctx.mka.latestSak then ctx.activated
        else ctx) := by
  unfold processMkaSakInstall
  rcases ctx.mka.takeSakForInstall_cases serviceable.inv with
    ⟨notDue, result⟩ | ⟨available, result⟩
  · rw [result, notDue]
    rfl
  · obtain ⟨unused, present⟩ := unused_of_available serviceable available
    have length := (serviceable.inv.latest.held present).length
    have rx := @Mka.Participant.notifySakInstalled_rx
      { ctx.mka with
        latestSak :=
          { ctx.mka.latestSak with lifecycleState := .installPending } }
      rfl unused.tx ctx.mka.latestSak.lowestPn
    have tx := @Mka.Participant.notifySakInstalled_tx
      { ctx.mka with
        latestSak :=
          { ctx.mka.latestSak with
            lifecycleState := .installPending
            rxInstalled := true
            lowestPn :=
              if ctx.mka.latestSak.lowestPn ≠ 0 then ctx.mka.latestSak.lowestPn
              else 1 } }
      serviceable.inv.peer rfl rfl ctx.mka.latestSak.lowestPn
    rw [result, available, if_pos rfl]
    dsimp only at rx tx ⊢
    rw [if_neg Err.noConfusion, if_neg (not_not_intro rfl),
      if_neg (by rw [length]; simp)]
    rw [installMkaRx, if_neg (by rw [unused.rx]; decide),
      installRxSak_eq length]
    dsimp only
    rw [rx]
    dsimp only
    rw [installMkaTx, if_neg (by rw [unused.tx]; decide),
      installTxSak_eq length]
    dsimp only
    rw [tx]
    simp [activated, activeSak, Mka.Participant.installed,
      Mka.Participant.markedSak, unused.peerRx]

/-! ## The whole service -/

/-- The context after it was serviced. -/
def serviced (ctx : Control) : Control :=
  if Mka.Participant.sakAvailable ctx.mka.latestSak then
    { ctx.drained.activated with
      state := .secured
      mka := { ctx.drained.activated.mka with pendingEvents := 0 } }
  else
    { ctx.drained with mka := { ctx.drained.mka with pendingEvents := 0 } }

/-- Servicing leaves the configuration, the clock and the pending frame
alone. -/
theorem serviced_rest :
    ctx.serviced.cfg = ctx.cfg ∧
      ctx.serviced.lastTickMs = ctx.lastTickMs ∧
      ctx.serviced.pendingMkaTxMeta = ctx.pendingMkaTxMeta ∧
      ctx.serviced.pendingMkaTxValid = ctx.pendingMkaTxValid := by
  unfold serviced activated drained
  dsimp only
  split
  next =>
      split
      next => exact ⟨rfl, rfl, rfl, rfl⟩
      next => exact ⟨rfl, rfl, rfl, rfl⟩
  next =>
      split
      next => exact ⟨rfl, rfl, rfl, rfl⟩
      next => exact ⟨rfl, rfl, rfl, rfl⟩

/-- Servicing succeeds. -/
theorem serviceMka_eq (serviceable : ctx.mka.Serviceable) :
    ctx.serviceMka = (.ok, ctx.serviced) := by
  have ready := drained_serviceable serviceable
  rw [serviceMka, processMkaEvents_eq serviceable]
  dsimp only
  rw [processMkaSakInstall_eq ready, drained_latest]
  dsimp only
  unfold serviced
  have quiet := ctx.drained_events
  split
  next =>
      rw [processMkaEvents_of_noRetire]
      · have active :
            hasFlag ctx.drained.activated.mka.pendingEvents
              Mka.EventFlag.sakActive = true := by
          change hasFlag (_ ||| _) _ = true
          rw [hasFlag_or, Bool.or_eq_true]
          exact Or.inr (by decide)
        rw [active]
        rfl
      · change hasFlag (_ ||| _) _ = false
        rw [hasFlag_or, ready.inv.noError]
        decide
      · change hasFlag (_ ||| _) _ = false
        rw [hasFlag_or, quiet.1]
        decide
  next =>
      rw [processMkaEvents_of_noRetire ready.inv.noError quiet.1,
        ready.inactive, quiet.2]
      rfl

theorem serviceMkaOrFail_eq (serviceable : ctx.mka.Serviceable) :
    ctx.serviceMkaOrFail = (.ok, ctx.serviced) := by
  rw [serviceMkaOrFail, serviceMka_eq serviceable]

/-- Installing the latest SAK keeps the invariant. -/
theorem activated_inv (serviceable : ctx.mka.Serviceable)
    (available : Mka.Participant.sakAvailable ctx.mka.latestSak = true) :
    ctx.activated.mka.Inv := by
  have inv := serviceable.inv
  have held :=
    inv.latest.held (unused_of_available serviceable available).2
  refine ⟨⟨?_, ?_⟩, ?_, inv.nextKeyNumber, ?_⟩
  · exact ⟨⟨held.length, held.keyNumber, held.origin⟩, rfl, rfl⟩
  · have old := inv.old
    change Mka.OldShape (Mka.Participant.silencedSak ctx.mka.oldSak)
    unfold Mka.Participant.silencedSak
    split
    next retiring =>
        unfold Mka.OldShape at old ⊢
        rw [retiring] at old
        dsimp only
        rw [retiring]
        exact ⟨old.length, old.keyNumber, old.origin⟩
    next => exact old
  · cases live : ctx.mka.peer.valid && ctx.mka.peer.live with
    | false =>
        simp only [activated, live, Bool.false_eq_true, if_false]
        exact inv.peer
    | true =>
        simp only [activated, live, if_true]
        simpa only [Mka.PeerShape, Bool.and_eq_true] using live
  · change hasFlag (_ ||| _) _ = false
    rw [hasFlag_or, inv.noError]
    decide

/-- A serviced participant is at rest. -/
theorem serviced_resting (serviceable : ctx.mka.Serviceable) :
    ctx.serviced.mka.Resting := by
  have ready := drained_serviceable serviceable
  unfold serviced
  split
  next available =>
      rw [← ctx.drained_latest] at available
      have inv := activated_inv ready available
      exact ⟨⟨inv.slots, inv.peer, inv.nextKeyNumber, hasFlag_zero _⟩,
        hasFlag_zero _, Mka.SakState.noConfusion, Mka.SakState.noConfusion⟩
  next notDue =>
      refine ⟨⟨ready.inv.slots, ready.inv.peer, ready.inv.nextKeyNumber,
        hasFlag_zero _⟩, hasFlag_zero _, ?_, ready.notInstalling⟩
      change ctx.drained.mka.latestSak.lifecycleState ≠ .distributed
      rw [ctx.drained_latest]
      intro distributed
      have shape := serviceable.inv.latest
      rw [Mka.LatestShape, distributed] at shape
      refine notDue ?_
      simp [Mka.Participant.sakAvailable, distributed, shape.2.1]

/-- No adopted SAK is waiting after the service. -/
theorem serviced_not_candidate (serviceable : ctx.mka.Serviceable) :
    ctx.serviced.mka.latestSak.lifecycleState ≠ .candidate := by
  unfold serviced
  split
  next => exact Mka.SakState.noConfusion
  next notDue =>
      change ctx.drained.mka.latestSak.lifecycleState ≠ .candidate
      rw [ctx.drained_latest]
      intro candidate
      have shape := serviceable.inv.latest
      rw [Mka.LatestShape, candidate] at shape
      refine notDue ?_
      simp [Mka.Participant.sakAvailable, candidate, shape.2.1]

/-- Servicing ends secured if it installs a SAK, and waits for MKA if it learns
only that the peer was lost. -/
theorem serviced_state :
    ctx.serviced.state =
      if Mka.Participant.sakAvailable ctx.mka.latestSak then .secured
      else if hasFlag ctx.mka.pendingEvents Mka.EventFlag.peerLost then .waitMka
      else ctx.state := by
  unfold serviced drained
  dsimp only
  split
  next => rfl
  next =>
      split
      next => rfl
      next => rfl

/-- Servicing leaves the peer alone, and makes the participant operational if it
installs a SAK for a live peer. -/
theorem serviced_peer :
    ctx.serviced.mka.peer = ctx.mka.peer ∧
      ctx.serviced.mka.state =
        if Mka.Participant.sakAvailable ctx.mka.latestSak &&
            (ctx.mka.peer.valid && ctx.mka.peer.live) then .operational
        else ctx.mka.state := by
  have drained :
      ctx.drained.mka.peer = ctx.mka.peer ∧
        ctx.drained.mka.state = ctx.mka.state := by
    unfold Control.drained
    dsimp only
    split
    next => exact ⟨rfl, rfl⟩
    next => exact ⟨rfl, rfl⟩
  unfold serviced
  cases Mka.Participant.sakAvailable ctx.mka.latestSak with
  | false => exact drained
  | true =>
      rw [if_pos rfl, Bool.true_and]
      change ctx.drained.mka.peer = _ ∧
        (if ctx.drained.mka.peer.valid && ctx.drained.mka.peer.live then _
          else ctx.drained.mka.state) = _
      rw [drained.1, drained.2]
      exact ⟨rfl, rfl⟩

/-- The latest SAK is in use after its installation. -/
theorem serviced_latest :
    ctx.serviced.mka.latestSak =
      if Mka.Participant.sakAvailable ctx.mka.latestSak then
        activeSak ctx.mka.latestSak
      else ctx.mka.latestSak := by
  unfold serviced
  split
  next =>
      change activeSak ctx.drained.mka.latestSak = _
      rw [drained_latest]
  next => exact drained_latest

/-! ## The public functions -/

/-- What holds of an MKA context between calls.  A SAK that was adopted is
waiting for its installation only after an error. -/
structure Resting (ctx : Control) : Prop where
  mode : ctx.cfg.mode = .mkaPsk
  mka : ctx.mka.Resting
  waiting : ctx.mka.latestSak.lifecycleState = .candidate → ctx.state = .error

/-- The effect of a classified frame on a context. -/
def receiveMka (ctx : Control) (received : Mka.Received) (rnd : Octets 16) :
    Err × Control :=
  match ctx.mka.receive received rnd ctx.lastTickMs with
  | (.ok, mka) => { ctx with mka := mka }.serviceMkaOrFail
  | (ret, mka) => (ret, { ctx with mka := mka, state := .error })

/-- A received frame is refused and ends in the error state, or processed and
serviced. -/
theorem receiveMka_cases (resting : ctx.Resting)
    (received : Mka.Received) (notOk : received ≠ .rejected .ok)
    (rnd : Octets 16) :
    let processed := ctx.mka.receive received rnd ctx.lastTickMs
    (processed.1 ≠ .ok ∧ processed.2.Resting ∧
      ctx.receiveMka received rnd =
        (processed.1, { ctx with mka := processed.2, state := .error })) ∨
    (processed.1 = .ok ∧ processed.2.Serviceable ∧
      ctx.receiveMka received rnd =
        (.ok, { ctx with mka := processed.2 }.serviced)) := by
  have outcome :
      ((ctx.mka.receive received rnd ctx.lastTickMs).1 ≠ .ok →
        (ctx.mka.receive received rnd ctx.lastTickMs).2.Resting) ∧
      ((ctx.mka.receive received rnd ctx.lastTickMs).1 = .ok →
        (ctx.mka.receive received rnd ctx.lastTickMs).2.Serviceable) := by
    cases received with
    | rejected ret =>
        exact ⟨fun _ => resting.mka, fun ok => absurd ok fun same =>
          notOk (by rw [show ret = Err.ok from same])⟩
    | own => exact ⟨fun _ => resting.mka, fun _ => resting.mka.serviceable⟩
    | accepted pdu =>
        have processed :=
          Mka.Participant.processMkpdu_serviceable resting.mka pdu rnd
            ctx.lastTickMs
        exact ⟨processed.1, fun ok => (processed.2 ok).1⟩
  dsimp only
  unfold receiveMka
  revert outcome
  rcases ctx.mka.receive received rnd ctx.lastTickMs with ⟨ret, mka⟩
  intro outcome
  cases ret with
  | ok =>
      exact Or.inr ⟨rfl, outcome.2 rfl,
        serviceMkaOrFail_eq (by exact outcome.2 rfl)⟩
  | param | buffer | crypto | state | replay | unsupported | auth | timeout
  | notReady | busy =>
      exact Or.inl ⟨Err.noConfusion, outcome.1 Err.noConfusion, rfl⟩

/-- A tick succeeds. -/
theorem tick_eq (resting : ctx.Resting) (nowMs : UInt32) :
    ctx.tick nowMs =
      (.ok,
        { ctx with
          lastTickMs := nowMs
          mka := (ctx.mka.tick nowMs).2 }.serviced) := by
  obtain ⟨ok, serviceable, -⟩ :=
    Mka.Participant.tick_serviceable resting.mka nowMs
  unfold tick
  rw [if_pos (by exact resting.mode)]
  dsimp only
  rcases ticked : ctx.mka.tick nowMs with ⟨ret, mka⟩
  rw [ticked] at ok serviceable
  dsimp only at ok serviceable ⊢
  subst ok
  exact serviceMkaOrFail_eq (by exact serviceable)

/-- A report of a transmission without a pending frame is refused; else it is
refused by MKA and ends in the error state, or processed and serviced. -/
theorem notifyControlTxSuccess_cases (resting : ctx.Resting)
    (nowMs : UInt32) :
    let notified := ctx.mka.notifyTxSuccess ctx.pendingMkaTxMeta nowMs
    (ctx.pendingMkaTxValid = false ∧
      ctx.notifyControlTxSuccess nowMs = (.notReady, ctx)) ∨
    (ctx.pendingMkaTxValid = true ∧ notified.1 ≠ .ok ∧
      ctx.notifyControlTxSuccess nowMs =
        (notified.1, { ctx with state := .error })) ∨
    (ctx.pendingMkaTxValid = true ∧ notified.1 = .ok ∧
      notified.2.Serviceable ∧
      ctx.notifyControlTxSuccess nowMs =
        (.ok, { ctx with mka := notified.2 }.clearPending.serviced)) := by
  dsimp only
  unfold notifyControlTxSuccess
  rw [if_neg (not_not_intro resting.mode)]
  cases ctx.pendingMkaTxValid with
  | false => exact Or.inl ⟨rfl, rfl⟩
  | true =>
      refine Or.inr ?_
      rw [if_neg (by decide)]
      rcases Mka.Participant.notifyTxSuccess_serviceable resting.mka
          ctx.pendingMkaTxMeta nowMs with
        ⟨refused, same⟩ | ⟨ok, serviceable⟩
      · refine Or.inl ⟨rfl, refused, ?_⟩
        rcases notified :
            ctx.mka.notifyTxSuccess ctx.pendingMkaTxMeta nowMs with ⟨ret, mka⟩
        rw [notified] at refused same
        dsimp only at refused same ⊢
        subst same
        cases ret with
        | ok => exact absurd rfl refused
        | param | buffer | crypto | state | replay | unsupported | auth
        | timeout | notReady | busy => rfl
      · refine Or.inr ⟨rfl, ok, serviceable, ?_⟩
        rcases notified :
            ctx.mka.notifyTxSuccess ctx.pendingMkaTxMeta nowMs with ⟨ret, mka⟩
        rw [notified] at ok serviceable
        dsimp only at ok serviceable ⊢
        subst ok
        exact serviceMkaOrFail_eq (by exact serviceable)

theorem serviced_rests (mode : ctx.cfg.mode = .mkaPsk)
    (serviceable : ctx.mka.Serviceable) : ctx.serviced.Resting where
  mode := by rw [ctx.serviced_rest.1, mode]
  mka := serviced_resting serviceable
  waiting := fun candidate =>
    absurd candidate (serviced_not_candidate serviceable)

theorem receiveMka_resting (resting : ctx.Resting) (received : Mka.Received)
    (notOk : received ≠ .rejected .ok) (rnd : Octets 16) :
    (ctx.receiveMka received rnd).2.Resting := by
  rcases receiveMka_cases resting received notOk rnd with
    ⟨-, stays, result⟩ | ⟨-, serviceable, result⟩
  · rw [result]
    exact ⟨resting.mode, stays, fun _ => rfl⟩
  · rw [result]
    exact serviced_rests resting.mode serviceable

theorem tick_resting (resting : ctx.Resting) (nowMs : UInt32) :
    (ctx.tick nowMs).2.Resting := by
  rw [tick_eq resting nowMs]
  exact serviced_rests resting.mode
    (Mka.Participant.tick_serviceable resting.mka nowMs).2.1

theorem notifyControlTxSuccess_resting (resting : ctx.Resting)
    (nowMs : UInt32) : (ctx.notifyControlTxSuccess nowMs).2.Resting := by
  rcases notifyControlTxSuccess_cases resting nowMs with
    ⟨-, result⟩ | ⟨-, -, result⟩ | ⟨-, -, serviceable, result⟩
  · rw [result]
    exact resting
  · rw [result]
    exact ⟨resting.mode, resting.mka, fun _ => rfl⟩
  · rw [result]
    exact serviced_rests resting.mode serviceable

theorem notifyControlTxFailure_resting (resting : ctx.Resting) :
    ctx.notifyControlTxFailure.2.Resting := by
  unfold notifyControlTxFailure
  rw [if_neg (not_not_intro resting.mode)]
  split
  next => exact resting
  next =>
      exact ⟨resting.mode,
        Mka.Participant.notifyTxFailure_resting resting.mka _,
        resting.waiting⟩

end Control

end Macsec
