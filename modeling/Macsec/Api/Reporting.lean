import Macsec.Api.Construction
import Macsec.Mka.Numbering

/-!
# Reporting a transmission

Between the call that builds a control frame and the report of its transmission
frames may arrive and ticks may pass.  Neither touches the pending frame, the
message number or the reasons that the frame answers.  The report is refused in
one case: the frame offers a SAK, and a received MKPDU displaced that SAK.
-/

namespace Macsec

namespace Control

variable {ctx : Control}

/-! ## What servicing leaves alone -/

/-- The first round of events leaves the counters and the scheduled
transmissions alone. -/
theorem drained_counters :
    ctx.drained.mka.counters = ctx.mka.counters ∧
      ctx.drained.mka.localMn = ctx.mka.localMn ∧
      ctx.drained.mka.txReasons = ctx.mka.txReasons := by
  unfold drained
  dsimp only
  split
  next => exact ⟨rfl, rfl, rfl⟩
  next => exact ⟨rfl, rfl, rfl⟩

theorem serviced_counters :
    ctx.serviced.mka.counters = ctx.mka.counters ∧
      ctx.serviced.mka.localMn = ctx.mka.localMn := by
  have drained := ctx.drained_counters
  unfold serviced
  split
  next => exact ⟨drained.1, drained.2.1⟩
  next => exact ⟨drained.1, drained.2.1⟩

/-- Servicing only schedules transmissions. -/
theorem schedules_serviced : ctx.mka.Schedules ctx.serviced.mka := by
  have drained := ctx.drained_counters
  unfold serviced
  split
  next =>
      refine ⟨Mka.TxReason.sakUse, rfl, ?_⟩
      exact congrArg (· ||| Mka.TxReason.sakUse) drained.2.2
  next => exact .of_eq drained.2.2

/-- Servicing keeps the key and the number of the latest SAK. -/
theorem serviced_number :
    let latest := ctx.serviced.mka.latestSak
    latest.keyNumber = ctx.mka.latestSak.keyNumber ∧
      latest.an = ctx.mka.latestSak.an ∧
      latest.origin = ctx.mka.latestSak.origin ∧
      (latest.lifecycleState = .distributionPending ↔
        ctx.mka.latestSak.lifecycleState = .distributionPending) := by
  rw [serviced_latest]
  split
  next available =>
      refine ⟨rfl, rfl, rfl, fun active => Mka.SakState.noConfusion active,
        fun pending => ?_⟩
      have lifecycle := Mka.Participant.lifecycle_of_available available
      rw [pending] at lifecycle
      rcases lifecycle with other | other | other
      all_goals exact Mka.SakState.noConfusion other
  next => exact ⟨rfl, rfl, rfl, Iff.rfl⟩

/-- Servicing does not lead into the error state. -/
theorem state_of_serviced_error (failed : ctx.serviced.state = .error) :
    ctx.state = .error := by
  have drained (failed : ctx.drained.state = .error) : ctx.state = .error := by
    unfold Control.drained at failed
    dsimp only at failed
    split at failed
    all_goals
      simp only [retired] at failed
      split at failed
      · exact State.noConfusion failed
      · exact failed
  unfold serviced at failed
  split at failed
  next => exact State.noConfusion failed
  next => exact drained failed

/-! ## Accounts -/

/-- What holds of the transmissions between calls: every reason is known, and
the local SAKs are numbered. -/
structure Accounted (ctx : Control) : Prop where
  reasons : Mka.TxReason.Known ctx.mka.txReasons
  pending : Mka.TxReason.Known ctx.pendingMkaTxMeta.reasons
  numbered : ctx.mka.Numbered

theorem Accounted.serviced (accounted : ctx.Accounted) :
    ctx.serviced.Accounted := by
  obtain ⟨keyNumber, an, origin, waits⟩ := ctx.serviced_number
  refine ⟨ctx.schedules_serviced.known accounted.reasons, ?_, ?_⟩
  · rw [ctx.serviced_rest.2.2.1]
    exact accounted.pending
  · exact accounted.numbered.keep ctx.serviced_counters.1 keyNumber an origin
      waits

theorem Accounted.receiveMka (accounted : ctx.Accounted)
    (resting : ctx.Resting) (received : Mka.Received)
    (notOk : received ≠ .rejected .ok) (rnd : Octets 16) :
    (ctx.receiveMka received rnd).2.Accounted := by
  have inv := resting.mka.inv
  have processed :
      ({ ctx with
        mka := (ctx.mka.receive received rnd ctx.lastTickMs).2 }).Accounted :=
    ⟨(Mka.Participant.schedules_receive inv received rnd
        ctx.lastTickMs).known accounted.reasons,
      accounted.pending,
      Mka.Participant.numbered_receive inv accounted.numbered received rnd
        ctx.lastTickMs⟩
  rcases receiveMka_cases resting received notOk rnd with
    ⟨-, -, result⟩ | ⟨-, -, result⟩
  · rw [result]
    exact ⟨processed.reasons, processed.pending, processed.numbered⟩
  · rw [result]
    exact processed.serviced

theorem Accounted.tick (accounted : ctx.Accounted) (resting : ctx.Resting)
    (nowMs : UInt32) : (ctx.tick nowMs).2.Accounted := by
  have schedules := @Mka.Participant.schedules_tick ctx.mka nowMs
  rw [tick_eq resting nowMs]
  apply Accounted.serviced
  refine ⟨schedules.known accounted.reasons, accounted.pending, ?_⟩
  obtain ⟨expired, events, reasons, which, -, result⟩ :=
    Mka.Participant.tick_cases resting.mka.inv nowMs
  rw [result]
  rcases which with ⟨-, rfl⟩ | ⟨-, rfl⟩
  · exact accounted.numbered.keep rfl rfl rfl rfl Iff.rfl
  · exact accounted.numbered.keep rfl rfl rfl rfl Iff.rfl

theorem Accounted.notifyControlTxSuccess (accounted : ctx.Accounted)
    (resting : ctx.Resting) (nowMs : UInt32) :
    (ctx.notifyControlTxSuccess nowMs).2.Accounted := by
  rcases notifyControlTxSuccess_cases resting nowMs with
    ⟨-, result⟩ | ⟨-, -, result⟩ | ⟨-, -, -, result⟩
  · rw [result]
    exact accounted
  · rw [result]
    exact ⟨accounted.reasons, accounted.pending, accounted.numbered⟩
  · rw [result]
    apply Accounted.serviced
    refine ⟨?_, Mka.TxReason.known_zero,
      Mka.Participant.numbered_notifyTxSuccess accounted.numbered _ nowMs⟩
    change Mka.TxReason.Known
      (ctx.mka.notifyTxSuccess ctx.pendingMkaTxMeta nowMs).2.txReasons
    rcases ctx.mka.notifyTxSuccess_cases ctx.pendingMkaTxMeta nowMs with
      ⟨-, same⟩ | ⟨-, -, result⟩
    · rw [same]
      exact accounted.reasons
    · have distributed :
          (ctx.mka.notifyDistributed ctx.pendingMkaTxMeta).2.txReasons =
            ctx.mka.txReasons := by
        rcases ctx.mka.notifyDistributed_cases ctx.pendingMkaTxMeta with
          same | ⟨-, -, -, -, -, committed⟩
        · rw [same]
        · rw [committed]
          rfl
      rw [result]
      change Mka.TxReason.Known
        ((ctx.mka.notifyDistributed ctx.pendingMkaTxMeta).2.txReasons &&& _)
      rw [distributed]
      exact accounted.reasons.inter _

theorem Accounted.notifyControlTxFailure (accounted : ctx.Accounted)
    (resting : ctx.Resting) : ctx.notifyControlTxFailure.2.Accounted := by
  unfold Control.notifyControlTxFailure
  rw [if_neg (not_not_intro resting.mode)]
  split
  next => exact accounted
  next =>
      exact ⟨accounted.reasons.union accounted.pending,
        Mka.TxReason.known_zero,
        accounted.numbered.keep rfl rfl rfl rfl Iff.rfl⟩

theorem Accounted.ensureForTx (accounted : ctx.Accounted) (rnd : Octets 16) :
    ({ ctx with mka := (ctx.mka.ensureForTx rnd).2 }).Accounted :=
  ⟨(Mka.Participant.schedules_ensureForTx rnd).known accounted.reasons,
    accounted.pending,
    Mka.Participant.numbered_ensureForTx accounted.numbered rnd⟩

end Control

variable {aes : BlockCipher} {ctx : Ctx}

/-- A control frame is built and recorded as pending, or at most a SAK is
generated. -/
theorem buildControlFrame_cases (resting : ctx.control.Resting)
    (keyed : ctx.mka.crypto.Keyed) (txMaxLen : Nat) (rnd : Octets 16) :
    ((buildControlFrame aes ctx txMaxLen rnd).2.ret ≠ .ok ∧
      ∃ mka pendingMeta,
        (mka = ctx.mka.toParticipant ∨
          mka = (ctx.mka.toParticipant.ensureForTx rnd).2) ∧
        (pendingMeta = ctx.pendingMkaTxMeta ∨
          pendingMeta = Mka.TxMeta.cleared) ∧
        (buildControlFrame aes ctx txMaxLen rnd).1.control =
          { ctx.control with mka := mka, pendingMkaTxMeta := pendingMeta }) ∨
    (ctx.mka.txReasons ≠ 0 ∧
      (buildControlFrame aes ctx txMaxLen rnd).1.control =
        ctx.control.built rnd) := by
  have mode : ctx.cfg.mode = .mkaPsk := resting.mode
  have inv : ctx.mka.Inv := resting.mka.inv
  have generated := Mka.buildTxFrame_participant aes ctx.mka rnd txMaxLen
  unfold buildControlFrame
  rw [if_neg (not_not_intro mode)]
  split
  next =>
      exact Or.inl ⟨Err.noConfusion, _, _, Or.inl rfl, Or.inl rfl, rfl⟩
  next =>
      rcases @Mka.buildTxFrame_cases aes ctx.mka inv keyed rnd txMaxLen with
        ⟨failed, -⟩ | ⟨due, -, -, frame, -, result⟩
      · refine Or.inl ?_
        revert failed generated
        rcases Mka.buildTxFrame aes ctx.mka rnd txMaxLen with
          ⟨ret, mka, frame, txMeta⟩
        intro generated failed
        have which : mka.toParticipant = ctx.mka.toParticipant ∨
            mka.toParticipant = (ctx.mka.toParticipant.ensureForTx rnd).2 := by
          rcases generated with same | ensured
          · exact Or.inl (congrArg Mka.Ctx.toParticipant same)
          · exact Or.inr (congrArg Mka.Ctx.toParticipant ensured)
        cases ret with
        | ok => exact absurd rfl failed
        | param | buffer | crypto | state | replay | unsupported | auth
        | timeout | notReady | busy =>
            exact ⟨Err.noConfusion, _, _, which, Or.inr rfl, rfl⟩
      · rw [result]
        exact Or.inr ⟨due, rfl⟩

/-- Every call keeps the accounts. -/
theorem perform_accounted (resting : ctx.control.Resting)
    (keyed : ctx.mka.crypto.Keyed) (accounted : ctx.control.Accounted)
    (call : Call) : (perform aes ctx call).1.control.Accounted := by
  have mode := notDisabled_of_resting resting
  cases call with
  | input frame plain rnd =>
      change (input aes ctx frame plain rnd).1.control.Accounted
      rcases input_cases mode frame plain rnd with
        ⟨-, result⟩ | ⟨-, secured, result⟩ | ⟨-, ret, -, result⟩
      · rw [result, show (inputMka aes ctx frame rnd).2.control = _ from
          congrArg Prod.snd (inputMka_receive frame rnd)]
        exact accounted.receiveMka resting _
          (Mka.classify_ne_rejected_ok aes ctx.mka frame) rnd
      · rw [result, (inputSecure_cases secured frame plain).1]
        exact ⟨accounted.reasons, accounted.pending, accounted.numbered⟩
      · rw [result]
        exact accounted
  | output plain txMaxLen =>
      change (output aes ctx plain txMaxLen).1.control.Accounted
      rcases output_cases mode plain txMaxLen with
        ⟨ret, -, result⟩ | ⟨-, result⟩
      · rw [result]
        exact accounted
      · rw [result]
        exact ⟨accounted.reasons, accounted.pending, accounted.numbered⟩
  | tick nowMs => exact accounted.tick resting nowMs
  | buildControlFrame txMaxLen rnd =>
      change (buildControlFrame aes ctx txMaxLen rnd).1.control.Accounted
      have ensured := accounted.ensureForTx rnd
      rcases @buildControlFrame_cases aes ctx resting keyed txMaxLen rnd with
        ⟨-, mka, pendingMeta, which, cleared, result⟩ | ⟨-, result⟩
      · have pending : Mka.TxReason.Known pendingMeta.reasons := by
          rcases cleared with rfl | rfl
          · exact accounted.pending
          · exact Mka.TxReason.known_zero
        rw [result]
        rcases which with rfl | rfl
        · exact ⟨accounted.reasons, pending, accounted.numbered⟩
        · exact ⟨ensured.reasons, pending, ensured.numbered⟩
      · rw [result]
        exact ⟨ensured.reasons, ensured.reasons, ensured.numbered⟩
  | notifyControlTxSuccess nowMs =>
      exact accounted.notifyControlTxSuccess resting nowMs
  | notifyControlTxFailure => exact accounted.notifyControlTxFailure resting

theorem initialCtx_accounted (cfg : Config) (mi : Octets 12) :
    (initialCtx aes cfg mi).control.Accounted := by
  have initial :
      (initialCtx aes cfg mi).control.mka =
        (Mka.Participant.start cfg.localMac
          (if cfg.portId = 0 then 1 else cfg.portId) cfg.keyServerPriority
          cfg.mkaTxIntervalMs mi).completeInit := rfl
  rw [Mka.completeInit_eq] at initial
  refine ⟨?_, Mka.TxReason.known_zero, ?_⟩
  · rw [initial]
    change Mka.TxReason.Known Mka.TxReason.initial
    exact rfl
  · rw [initial]
    exact Mka.Participant.numbered_of_foreign Mka.SakState.noConfusion
      Mka.SakOrigin.noConfusion

/-- The accounts hold in every reachable context. -/
theorem Reachable.accounted (reachable : Reachable aes .mkaPsk ctx) :
    ctx.control.Accounted := by
  obtain ⟨cfg, mi, start, mode, initialised, run⟩ := reachable
  refine (run.invariant
    (fun ctx =>
      ctx.control.Resting ∧ ctx.mka.crypto.Keyed ∧ ctx.control.Accounted)
    ?_ ?_).2.2
  · obtain ⟨same, keyed⟩ := init_mkaPsk mode initialised
    exact ⟨init_resting mode initialised, keyed,
      same ▸ initialCtx_accounted cfg mi⟩
  · intro ctx call ⟨resting, keyed, accounted⟩
    obtain ⟨sameKeys, -⟩ :=
      @perform_keys aes ctx (notDisabled_of_resting resting) call
    exact ⟨perform_resting resting call, sameKeys ▸ keyed,
      perform_accounted resting keyed accounted call⟩

/-! ## Between a frame and its report -/

/-- Whether a call receives a frame or lets time pass. -/
def Call.isPassive : Call → Bool
  | .input _ _ _ => true
  | .tick _ => true
  | _ => false

/-- A step accepts an MKPDU that meets a condition. -/
def Accepts (aes : BlockCipher)
    (condition : Mka.Participant → Mka.Mkpdu → Prop)
    (event : Transition.Event Ctx Call Reply) : Prop :=
  ∃ frame plain rnd pdu, event.input = .input frame plain rnd ∧
    Mka.classify aes event.before.mka frame = .accepted pdu ∧
      condition event.before.mka.toParticipant pdu

variable {condition : Mka.Participant → Mka.Mkpdu → Prop}

/-- An accepted MKPDU is determined by its frame. -/
theorem accepts_input_iff {frame : Bytes} {pdu : Mka.Mkpdu}
    (accepted : Mka.classify aes ctx.mka frame = .accepted pdu)
    (plain : Bytes) (rnd : Octets 16) :
    Accepts aes condition ((machine aes).event ctx (.input frame plain rnd)) ↔
      condition ctx.mka.toParticipant pdu := by
  constructor
  · rintro ⟨frame', plain', rnd', pdu', same, accepted', met⟩
    cases same
    change Mka.classify aes ctx.mka frame = .accepted pdu' at accepted'
    rw [accepted, Mka.Received.accepted.injEq] at accepted'
    rw [accepted']
    exact met
  · exact fun met => ⟨frame, plain, rnd, pdu, rfl, accepted, met⟩

namespace Control

variable {control : Control}

/-- A received frame is offered what its processing leaves. -/
theorem offers_receiveMka (resting : control.Resting)
    (received : Mka.Received) (notOk : received ≠ .rejected .ok)
    (rnd : Octets 16) :
    (control.receiveMka received rnd).2.mka.Offers =
      (control.mka.receive received rnd control.lastTickMs).2.Offers := by
  rcases receiveMka_cases resting received notOk rnd with
    ⟨-, -, result⟩ | ⟨-, -, result⟩
  · rw [result]
  · obtain ⟨keyNumber, an, origin, -⟩ :=
      ({ control with
        mka := (control.mka.receive received rnd
          control.lastTickMs).2 }).serviced_number
    rw [result]
    exact Mka.Participant.offers_congr origin keyNumber an

theorem offers_tick (resting : control.Resting) (nowMs : UInt32) :
    (control.tick nowMs).2.mka.Offers = control.mka.Offers := by
  have ticked :
      (control.mka.tick nowMs).2.latestSak = control.mka.latestSak :=
    congrArg Mka.Slots.latest
      (Mka.Participant.tick_serviceable resting.mka nowMs).2.2
  obtain ⟨keyNumber, an, origin, -⟩ :=
    ({ control with
      lastTickMs := nowMs
      mka := (control.mka.tick nowMs).2 }).serviced_number
  dsimp only at keyNumber an origin
  rw [ticked] at keyNumber an origin
  rw [tick_eq resting nowMs]
  exact Mka.Participant.offers_congr origin keyNumber an

end Control

/-- A context waits for the report on a frame with the given metadata. -/
structure Awaits (txMeta : Mka.TxMeta) (counters : UInt32 × Fin 4)
    (ctx : Control) : Prop where
  resting : ctx.Resting
  valid : ctx.pendingMkaTxValid = true
  pending : ctx.pendingMkaTxMeta = txMeta
  number : txMeta.messageNumber = ctx.mka.localMn
  counters : ctx.mka.counters = counters

variable {txMeta : Mka.TxMeta} {counters : UInt32 × Fin 4}
  {control : Control}

theorem Awaits.serviced (awaits : Awaits txMeta counters control)
    {mka : Mka.Participant} (serviceable : mka.Serviceable)
    (kept : mka.counters = control.mka.counters ∧
      mka.localMn = control.mka.localMn) (lastTickMs : UInt32) :
    Awaits txMeta counters
      { control with mka := mka, lastTickMs := lastTickMs }.serviced := by
  have rest :=
    { control with mka := mka, lastTickMs := lastTickMs }.serviced_rest
  have numbers :=
    { control with mka := mka, lastTickMs := lastTickMs }.serviced_counters
  refine ⟨Control.serviced_rests awaits.resting.mode serviceable, ?_, ?_, ?_,
    ?_⟩
  · exact rest.2.2.2.trans awaits.valid
  · exact rest.2.2.1.trans awaits.pending
  · exact awaits.number.trans (numbers.2.trans kept.2).symm
  · exact numbers.1.trans (kept.1.trans awaits.counters)

theorem Awaits.receiveMka (awaits : Awaits txMeta counters control)
    (received : Mka.Received) (notOk : received ≠ .rejected .ok)
    (rnd : Octets 16) :
    Awaits txMeta counters (control.receiveMka received rnd).2 := by
  have kept :=
    Mka.Participant.receive_counters awaits.resting.mka.inv received rnd
      control.lastTickMs
  have resting := Control.receiveMka_resting awaits.resting received notOk rnd
  rcases Control.receiveMka_cases awaits.resting received notOk rnd with
    ⟨-, -, result⟩ | ⟨-, serviceable, result⟩
  · rw [result] at resting ⊢
    exact ⟨resting, awaits.valid, awaits.pending,
      awaits.number.trans kept.2.symm, kept.1.trans awaits.counters⟩
  · rw [result]
    exact awaits.serviced serviceable kept control.lastTickMs

theorem Awaits.tick (awaits : Awaits txMeta counters control)
    (nowMs : UInt32) :
    Awaits txMeta counters (control.tick nowMs).2 := by
  obtain ⟨expired, events, reasons, which, -, result⟩ :=
    Mka.Participant.tick_cases awaits.resting.mka.inv nowMs
  have serviceable :=
    (Mka.Participant.tick_serviceable awaits.resting.mka nowMs).2.1
  have kept :
      (control.mka.tick nowMs).2.counters = control.mka.counters ∧
        (control.mka.tick nowMs).2.localMn = control.mka.localMn := by
    rw [result]
    rcases which with ⟨-, rfl⟩ | ⟨-, rfl⟩
    · exact ⟨rfl, rfl⟩
    · exact ⟨rfl, rfl⟩
  rw [Control.tick_eq awaits.resting nowMs]
  exact awaits.serviced serviceable kept nowMs

/-- What a received frame does to the offered SAK. -/
theorem offers_receive (inv : ctx.mka.toParticipant.Inv) (frame plain : Bytes)
    (rnd : Octets 16) (nowMs keyNumber : UInt32) (an : Fin 4) :
    let event := (machine aes).event ctx (.input frame plain rnd)
    let after :=
      (ctx.mka.toParticipant.receive (Mka.classify aes ctx.mka frame) rnd
        nowMs).2
    (¬Accepts aes Mka.Participant.Displaces event →
      (after.Offers keyNumber an ↔ ctx.mka.Offers keyNumber an)) ∧
    (Accepts aes Mka.Participant.Displaces event →
      (after.Offers keyNumber an ↔
        ctx.mka.counters = (keyNumber, an) ∧
          Accepts aes Mka.Participant.Regenerates event)) := by
  dsimp only
  have turnedAway {pdu : Mka.Mkpdu}
      (other : Mka.classify aes ctx.mka frame ≠ .accepted pdu) :
      ¬∃ frame' plain' rnd', Call.input frame plain rnd =
        .input frame' plain' rnd' ∧
          Mka.classify aes ctx.mka frame' = .accepted pdu := by
    rintro ⟨frame', plain', rnd', same, accepted⟩
    cases same
    exact other accepted
  cases classified : Mka.classify aes ctx.mka frame with
  | accepted pdu =>
      rw [accepts_input_iff classified, accepts_input_iff classified]
      constructor
      · intro kept
        obtain ⟨-, keyNumber, an, origin, -⟩ :=
          Mka.Participant.processMkpdu_keeps_number inv kept rnd nowMs
        exact iff_of_eq
          (congrFun (congrFun
            (Mka.Participant.offers_congr origin keyNumber an) _) _)
      · exact fun displaces =>
          Mka.Participant.offers_of_displaces inv displaces rnd nowMs _ _
  | rejected | own =>
      refine ⟨fun _ => Iff.rfl, ?_⟩
      rintro ⟨frame', plain', rnd', pdu, same, accepted, -⟩
      refine absurd ⟨frame', plain', rnd', same, accepted⟩ (turnedAway ?_)
      rw [classified]
      exact Mka.Received.noConfusion

/-- A received frame or a tick keeps the context waiting, and changes the
offered SAK only with a displacement. -/
theorem Awaits.perform (awaits : Awaits txMeta counters ctx.control)
    {call : Call} (passive : call.isPassive = true) (keyNumber : UInt32)
    (an : Fin 4) :
    let event := (machine aes).event ctx call
    Awaits txMeta counters event.after.control ∧
      (¬Accepts aes Mka.Participant.Displaces event →
        (event.after.mka.Offers keyNumber an ↔
          ctx.mka.Offers keyNumber an)) ∧
      (Accepts aes Mka.Participant.Displaces event →
        (event.after.mka.Offers keyNumber an ↔
          counters = (keyNumber, an) ∧
            Accepts aes Mka.Participant.Regenerates event)) := by
  have resting := awaits.resting
  have mode := notDisabled_of_resting resting
  cases call with
  | output | buildControlFrame | notifyControlTxSuccess
  | notifyControlTxFailure => exact Bool.noConfusion passive
  | tick nowMs =>
      refine ⟨awaits.tick nowMs, fun _ => ?_, ?_⟩
      · exact iff_of_eq
          (congrFun (congrFun (Control.offers_tick resting nowMs) keyNumber)
            an)
      · rintro ⟨frame, plain, rnd, pdu, input, -⟩
        exact Call.noConfusion input
  | input frame plain rnd =>
      have unheard (other : Mka.isEapolMka frame = false) :
          ¬Accepts aes Mka.Participant.Displaces
            ((machine aes).event ctx (.input frame plain rnd)) := by
        rintro ⟨frame', plain', rnd', pdu, same, accepted, -⟩
        cases same
        have isMka := Mka.isEapolMka_of_accepted accepted
        rw [other] at isMka
        exact Bool.noConfusion isMka
      dsimp only [Transition.Machine.event]
      change Awaits txMeta counters (input aes ctx frame plain rnd).1.control ∧
        (_ → ((input aes ctx frame plain rnd).1.control.mka.Offers _ _ ↔ _)) ∧
          (_ → ((input aes ctx frame plain rnd).1.control.mka.Offers _ _ ↔ _))
      rcases input_cases mode frame plain rnd with
        ⟨-, result⟩ | ⟨other, secured, result⟩ | ⟨other, ret, -, result⟩
      · have notOk := Mka.classify_ne_rejected_ok aes ctx.mka frame
        have offers :=
          @offers_receive aes ctx resting.mka.inv frame plain rnd
            ctx.lastTickMs keyNumber an
        rw [show ctx.mka.counters = counters from awaits.counters] at offers
        rw [result, show (inputMka aes ctx frame rnd).2.control = _ from
          congrArg Prod.snd (inputMka_receive frame rnd),
          Control.offers_receiveMka resting _ notOk rnd]
        exact ⟨awaits.receiveMka _ notOk rnd, offers⟩
      · rw [result, (inputSecure_cases secured frame plain).1]
        exact ⟨⟨⟨resting.mode, resting.mka, resting.waiting⟩, awaits.valid,
          awaits.pending, awaits.number, awaits.counters⟩,
          fun _ => Iff.rfl, fun displaces => absurd displaces (unheard other)⟩
      · rw [result]
        exact ⟨awaits, fun _ => Iff.rfl,
          fun displaces => absurd displaces (unheard other)⟩

/-- Along received frames and ticks the SAK of the frame stays offered exactly
if the last displacement, if any, brings its number back. -/
theorem Awaits.run (awaits : Awaits txMeta counters ctx.control)
    (keyNumber : UInt32) (an : Fin 4) (calls : List Call)
    (passive : ∀ call ∈ calls, call.isPassive = true) :
    Awaits txMeta counters ((machine aes).final ctx calls).control ∧
      (ctx.mka.Offers keyNumber an →
        (((machine aes).final ctx calls).mka.Offers keyNumber an ↔
          Transition.LastMeets (Accepts aes Mka.Participant.Displaces)
            (fun event => counters = (keyNumber, an) ∧
              Accepts aes Mka.Participant.Regenerates event)
            ((machine aes).events ctx calls))) := by
  induction calls using List.reverseRecOn with
  | nil =>
      exact ⟨awaits, fun offers =>
        ⟨fun _ => Transition.LastMeets.nil, fun _ => offers⟩⟩
  | append_singleton calls call inductionHypothesis =>
      obtain ⟨waiting, offered⟩ := inductionHypothesis fun earlier member =>
        passive earlier (List.mem_append_left _ member)
      obtain ⟨after, kept, displaced⟩ :=
        @Awaits.perform aes _ _ _ waiting call (passive call (by simp))
          keyNumber an
      rw [Transition.Machine.final_concat, Transition.Machine.events_concat]
      refine ⟨after, fun offers => ?_⟩
      rw [Transition.lastMeets_concat_iff, ← offered offers]
      by_cases displaces : Accepts aes Mka.Participant.Displaces
          ((machine aes).event ((machine aes).final ctx calls) call)
      · exact (displaced displaces).trans
          ⟨fun back => ⟨fun _ => back, fun kept => absurd displaces kept⟩,
            fun last => last.1 displaces⟩
      · exact (kept displaces).trans
          ⟨fun still => ⟨fun moved => absurd moved displaces, fun _ => still⟩,
            fun last => last.2 displaces⟩

/-! ## The report -/

/-- A report of a transmission succeeds: it settles the pending frame and does
not lead into the error state. -/
def ReportSucceeds (aes : BlockCipher) (ctx : Ctx) (nowMs : UInt32) : Prop :=
  let reported := perform aes ctx (.notifyControlTxSuccess nowMs)
  reported.2.ret = .ok ∧ reported.1.pendingMkaTxValid = false ∧
    (reported.1.state = .error → ctx.state = .error)

/-- A waiting context takes the report exactly if the SAK of the frame is still
offered. -/
theorem Awaits.reportSucceeds_iff (awaits : Awaits txMeta counters ctx.control)
    (due : txMeta.reasons ≠ 0) (known : Mka.TxReason.Known txMeta.reasons)
    (nowMs : UInt32) :
    ReportSucceeds aes ctx nowMs ↔
      (txMeta.containsDistributedSak = true →
        ctx.mka.Offers txMeta.distributedKeyNumber txMeta.distributedAn) := by
  have accepted :=
    Mka.Participant.notifyTxSuccess_eq_ok_iff
      awaits.resting.mka.inv.latest awaits.number due known nowMs
  rw [← show ctx.control.mka.Offers = ctx.mka.Offers from rfl, ← accepted,
    ← awaits.pending]
  unfold ReportSucceeds
  change (ctx.control.notifyControlTxSuccess nowMs).1 = .ok ∧
    (ctx.control.notifyControlTxSuccess nowMs).2.pendingMkaTxValid = false ∧
      ((ctx.control.notifyControlTxSuccess nowMs).2.state = .error →
        ctx.control.state = .error) ↔ _
  rcases Control.notifyControlTxSuccess_cases awaits.resting nowMs with
    ⟨settled, -⟩ | ⟨-, refused, result⟩ | ⟨-, ok, -, result⟩
  · rw [awaits.valid] at settled
    exact Bool.noConfusion settled
  · rw [result]
    exact ⟨fun succeeds => absurd succeeds.1 refused,
      fun ok => absurd ok refused⟩
  · rw [result]
    refine ⟨fun _ => ok, fun _ => ⟨rfl, ?_, ?_⟩⟩
    · exact Control.serviced_rest.2.2.2
    · exact Control.state_of_serviced_error

/-- After received frames and ticks the report on a control frame succeeds
exactly if the frame offers no SAK, or the last MKPDU that displaced the SAK, if
any, did so before its first transmission and made the participant generate
another one. -/
theorem report_succeeds_iff (reachable : Reachable aes .mkaPsk ctx)
    {txMaxLen : Nat} {rnd : Octets 16}
    (built : (buildControlFrame aes ctx txMaxLen rnd).2.ret = .ok)
    {calls : List Call} (passive : ∀ call ∈ calls, call.isPassive = true)
    (nowMs : UInt32) :
    let start := (buildControlFrame aes ctx txMaxLen rnd).1
    ReportSucceeds aes ((machine aes).final start calls) nowMs ↔
      (start.pendingMkaTxMeta.containsDistributedSak = true →
        Transition.LastMeets (Accepts aes Mka.Participant.Displaces)
          (fun event =>
            start.mka.latestSak.lifecycleState = .distributionPending ∧
              Accepts aes Mka.Participant.Regenerates event)
          ((machine aes).events start calls)) := by
  have resting := reachable.resting
  have accounted := reachable.accounted.ensureForTx rnd
  rcases @buildControlFrame_cases aes ctx resting reachable.keyed.1 txMaxLen
      rnd with
    ⟨failed, -⟩ | ⟨due, result⟩
  · exact absurd built failed
  · dsimp only
    have rests :=
      @perform_resting aes ctx resting (.buildControlFrame txMaxLen rnd)
    change (buildControlFrame aes ctx txMaxLen rnd).1.control.Resting at rests
    generalize (buildControlFrame aes ctx txMaxLen rnd).1 = start
      at result rests ⊢
    have mka : start.mka.toParticipant =
        (ctx.mka.toParticipant.ensureForTx rnd).2 :=
      congrArg Control.mka result
    have pendingMeta :
        start.pendingMkaTxMeta = start.mka.toParticipant.txMeta := by
      rw [mka]
      exact congrArg Control.pendingMkaTxMeta result
    have awaits :
        Awaits start.pendingMkaTxMeta start.mka.counters start.control :=
      ⟨rests, congrArg Control.pendingMkaTxValid result, rfl,
        congrArg Mka.TxMeta.messageNumber pendingMeta, rfl⟩
    have reasons : start.pendingMkaTxMeta.reasons =
        (ctx.mka.toParticipant.ensureForTx rnd).2.txReasons := by
      rw [pendingMeta, mka]
      rfl
    have scheduled : start.pendingMkaTxMeta.reasons ≠ 0 := by
      rw [reasons]
      exact (Mka.Participant.schedules_ensureForTx rnd).due due
    have known : Mka.TxReason.Known start.pendingMkaTxMeta.reasons := by
      rw [reasons]
      exact accounted.reasons
    have numbered : start.mka.Numbered := by
      rw [mka]
      exact accounted.numbered
    obtain ⟨waiting, offered⟩ :=
      @Awaits.run aes _ _ _ awaits start.pendingMkaTxMeta.distributedKeyNumber
        start.pendingMkaTxMeta.distributedAn calls passive
    rw [waiting.reportSucceeds_iff scheduled known nowMs]
    refine imp_congr_right fun contains => ?_
    have offers :
        start.mka.Offers start.pendingMkaTxMeta.distributedKeyNumber
          start.pendingMkaTxMeta.distributedAn := by
      rw [pendingMeta] at contains ⊢
      exact Mka.Participant.offers_txMeta contains
    rw [offered offers, numbered.waits_iff offers]

/-- A context that heard its peer, and the frame that it can build then. -/
theorem courted_builds (aes : BlockCipher) :
    ∃ ctx, Reachable aes .mkaPsk ctx ∧
      (buildControlFrame aes ctx Mka.maxFrameLen (Mka.sakOctets 2)).2.ret =
        .ok ∧
      Plays (MkaCrypto.keysOf aes Mka.stationCak Mka.stationCkn)
        (buildControlFrame aes ctx Mka.maxFrameLen (Mka.sakOctets 2)).1
        ((stage Mka.stationCkn).final (stationControl 1 10 11)
          [.hear Mka.admirer (Mka.sakOctets 1),
            .build (Mka.sakOctets 2)]) := by
  obtain ⟨ctx, reachable, plays⟩ :=
    @exists_final aes 1 10 11 [.hear Mka.admirer (Mka.sakOctets 1)] (by decide)
  have playable : (Cue.build (Mka.sakOctets 2)).Playable
      ((stage Mka.stationCkn).final (stationControl 1 10 11)
        [.hear Mka.admirer (Mka.sakOctets 1)]) := by decide
  have built := (@Plays.build aes _ _ _ plays _ playable).2
  have after := @Plays.perform aes _ _ _ plays _ playable
  exact ⟨ctx, reachable, congrArg Reply.ret built, after⟩

/-- A frame with a SAK is built, a tick passes, and the report succeeds. -/
theorem courted_report_succeeds :
    ∃ ctx, Reachable BlockCipher.null .mkaPsk ctx ∧
      let start :=
        (buildControlFrame BlockCipher.null ctx Mka.maxFrameLen
          (Mka.sakOctets 2)).1
      start.pendingMkaTxMeta.containsDistributedSak = true ∧
        ReportSucceeds BlockCipher.null
          ((machine BlockCipher.null).final start [.tick 5]) 7 := by
  obtain ⟨ctx, reachable, built, plays⟩ := courted_builds BlockCipher.null
  refine ⟨ctx, reachable, ?_, ?_⟩
  · change (buildControlFrame BlockCipher.null ctx Mka.maxFrameLen
      (Mka.sakOctets 2)).1.control.pendingMkaTxMeta.containsDistributedSak =
        true
    rw [plays.same]
    decide
  · apply (report_succeeds_iff reachable built (by decide) 7).mpr
    intro _
    have single := @Transition.Machine.events_concat _ _ _
      (machine BlockCipher.null)
      (buildControlFrame BlockCipher.null ctx Mka.maxFrameLen
        (Mka.sakOctets 2)).1 [] (.tick 5)
    rw [List.nil_append] at single
    rw [single, Transition.Machine.events_nil, Transition.lastMeets_concat_iff]
    refine ⟨?_, fun _ => Transition.LastMeets.nil⟩
    rintro ⟨frame, plain, rnd, pdu, input, -⟩
    exact Call.noConfusion input

/-- Under no cipher does every report succeed: if the peer restarts between the
frame and its report, the SAK of the frame is dropped. -/
theorem not_forall_report_succeeds :
    ¬∃ aes, ∀ (ctx : Ctx) (txMaxLen : Nat) (rnd : Octets 16)
      (calls : List Call) (nowMs : UInt32),
        Reachable aes .mkaPsk ctx →
          (buildControlFrame aes ctx txMaxLen rnd).2.ret = .ok →
            (∀ call ∈ calls, call.isPassive = true) →
              ReportSucceeds aes
                ((machine aes).final (buildControlFrame aes ctx txMaxLen rnd).1
                  calls) nowMs := by
  rintro ⟨aes, alwaysReported⟩
  obtain ⟨ctx, reachable, built, plays⟩ := courted_builds aes
  have restarted :=
    @Plays.perform aes _ _ _ plays
      (.hear (Mka.newcomer 2 20 13) (Mka.sakOctets 3)) (by decide)
  rw [Mka.ckn_stations] at restarted
  have succeeds := alwaysReported ctx _ _
    [Cue.call aes (MkaCrypto.keysOf aes Mka.stationCak Mka.stationCkn)
      (.hear (Mka.newcomer 2 20 13) (Mka.sakOctets 3))] 7 reachable built
    (by simp [Cue.call, Call.isPassive])
  have ok := succeeds.1
  change (((machine aes).final _ [_]).control.notifyControlTxSuccess 7).1 = .ok
    at ok
  rw [show ((machine aes).final _ [_]).control = _ from restarted.same] at ok
  exact absurd ok (by decide)

end Macsec
