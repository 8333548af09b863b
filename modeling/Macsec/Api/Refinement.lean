import Macsec.Api.Runs
import Macsec.Mka.Authentication
import Macsec.Mka.Scripts

/-!
# The public interface drives a participant

Whatever a call of `macsec.h` does to the participant of a context, a run of
calls of `mka.h` does, and the only frames that these receive are the EAPOL-MKA
frames of the call.  So every run of the public interface is a run of the
participant, and what holds of all participants holds of those inside contexts.
-/

namespace Macsec

namespace Mka

/-- A call that neither receives nor builds a frame leads from one state to
another. -/
def Participant.Acts (before after : Participant) : Prop :=
  ∃ call : Call, call.isLocal = true ∧ (before.act call).2 = after

/-- Some such calls lead from one state to another. -/
def Participant.Drives : Participant → Participant → Prop :=
  Relation.ReflTransGen Participant.Acts

namespace Participant.Drives

variable {first second third : Participant}

theorem refl (ctx : Participant) : ctx.Drives ctx :=
  Relation.ReflTransGen.refl

theorem trans (toSecond : first.Drives second)
    (toThird : second.Drives third) : first.Drives third :=
  Relation.ReflTransGen.trans toSecond toThird

/-- One call is enough. -/
theorem act (ctx : Participant) {call : Call} (isLocal : call.isLocal = true) :
    ctx.Drives (ctx.act call).2 :=
  Relation.ReflTransGen.single ⟨call, isLocal, rfl⟩

end Participant.Drives

/-- A local call acts on the protocol state of a context alone. -/
theorem perform_of_isLocal {aes : BlockCipher} (ctx : Ctx) {call : Call}
    (isLocal : call.isLocal = true) :
    (perform aes ctx call).1 =
      { ctx with toParticipant := (ctx.toParticipant.act call).2 } := by
  cases call with
  | input | buildTxFrame => exact Bool.noConfusion isLocal
  | tick | takeEvents | notifyTxSuccess | notifyTxFailure | takeSakForInstall
  | notifySakInstalled | notifySakRetired => rfl

/-- What a call delivers to a participant: a frame, and random octets for its
processing. -/
def Call.delivery : Call → List (Bytes × Octets 16)
  | .input frame rnd _ => [(frame, rnd)]
  | _ => []

theorem Call.delivery_of_isLocal {call : Call} (isLocal : call.isLocal = true) :
    call.delivery = [] := by
  cases call with
  | input => exact Bool.noConfusion isLocal
  | buildTxFrame | tick | takeEvents | notifyTxSuccess | notifyTxFailure
  | takeSakForInstall | notifySakInstalled | notifySakRetired => rfl

/-- Driving the protocol state of a context is a run without deliveries. -/
theorem Participant.Drives.course {aes : BlockCipher} {ctx : Ctx}
    {after : Participant} (drives : ctx.toParticipant.Drives after) :
    (machine aes).Course Call.delivery ctx []
      { ctx with toParticipant := after } := by
  induction drives with
  | refl => exact .refl ctx
  | tail _ acts inductionHypothesis =>
      obtain ⟨call, isLocal, rfl⟩ := acts
      have next :=
        inductionHypothesis.trans
          (@Transition.Machine.Course.step _ _ _ (machine aes) _ Call.delivery
            _ call)
      rw [Call.delivery_of_isLocal isLocal,
        show (machine aes).step = perform aes from rfl,
        perform_of_isLocal _ isLocal] at next
      exact next

end Mka

namespace Control

variable {ctx : Control}

/-! ## Servicing -/

theorem mka_installRxSak (key : Bytes) (an : Fin 4) (lowestPn : UInt32) :
    (ctx.installRxSak key an lowestPn).2.mka = ctx.mka := by
  unfold installRxSak
  split
  next => rfl
  next =>
      split
      next => rfl
      next =>
          dsimp only
          split
          all_goals rfl

theorem mka_installTxSak (key : Bytes) (an : Fin 4) :
    (ctx.installTxSak key an).2.mka = ctx.mka := by
  unfold installTxSak
  split_ifs
  · rfl
  · rfl
  · split
    all_goals rfl

theorem mka_removeOldRx : ctx.removeOldRx.2.mka = ctx.mka := by
  rw [removeOldRx_eq]

theorem mka_removeOldTx : ctx.removeOldTx.2.mka = ctx.mka := by
  rw [removeOldTx_eq]

/-- Two functions in a row drive the participant if both do. -/
theorem drives_sequel {first : Err × Control}
    {next : Control → Err × Control} (start : ctx.mka.Drives first.2.mka)
    (continues : ∀ middle : Control, middle.mka.Drives (next middle).2.mka) :
    ctx.mka.Drives
      (match first with
        | (.ok, ctx) => next ctx
        | (ret, ctx) => (ret, ctx)).2.mka := by
  rcases first with ⟨ret, middle⟩
  cases ret with
  | ok => exact start.trans (continues middle)
  | param | buffer | crypto | state | replay | unsupported | auth | timeout
  | notReady | busy => exact start

theorem drives_of_eq {after : Control} (same : after.mka = ctx.mka) :
    ctx.mka.Drives after.mka := by
  rw [same]
  exact .refl _

theorem drives_removeMkaOldSak :
    ctx.mka.Drives ctx.removeMkaOldSak.2.mka := by
  unfold removeMkaOldSak
  split_ifs
  · exact .refl _
  · exact .refl _
  · apply drives_sequel (drives_of_eq mka_removeOldRx)
    intro middle
    apply drives_sequel (drives_of_eq mka_removeOldTx)
    intro last
    exact @Mka.Participant.Drives.act last.mka
      (.notifySakRetired last.mka.oldSak.keyNumber last.mka.oldSak.an) rfl

theorem drives_installMkaRx (sak : Mka.Sak) :
    ctx.mka.Drives (ctx.installMkaRx sak).2.mka := by
  unfold installMkaRx
  split_ifs
  · exact .refl _
  · apply drives_sequel (drives_of_eq (mka_installRxSak _ _ _))
    intro middle
    exact @Mka.Participant.Drives.act middle.mka
      (.notifySakInstalled sak.keyNumber sak.an Mka.installRx sak.lowestPn) rfl

theorem drives_installMkaTx (sak : Mka.Sak) :
    ctx.mka.Drives (ctx.installMkaTx sak).2.mka := by
  unfold installMkaTx
  split_ifs
  · exact .refl _
  · apply drives_sequel (drives_of_eq (mka_installTxSak _ _))
    intro middle
    exact @Mka.Participant.Drives.act middle.mka
      (.notifySakInstalled sak.keyNumber sak.an Mka.installTx sak.lowestPn) rfl

theorem drives_processMkaSakInstall :
    ctx.mka.Drives ctx.processMkaSakInstall.2.mka := by
  have taken : ctx.mka.Drives ctx.mka.takeSakForInstall.2.1 :=
    @Mka.Participant.Drives.act ctx.mka .takeSakForInstall rfl
  unfold processMkaSakInstall
  revert taken
  rcases ctx.mka.takeSakForInstall with ⟨ret, mka, sak⟩
  intro taken
  dsimp only
  split_ifs
  · exact taken
  · exact taken
  · exact taken
  · have installed : ({ ctx with mka := mka }).mka.Drives
        (match ({ ctx with mka := mka }).installMkaRx sak with
          | (.ok, ctx) => ctx.installMkaTx sak
          | (ret, ctx) => (ret, ctx)).2.mka :=
      drives_sequel (drives_installMkaRx sak) fun middle =>
        drives_installMkaTx sak
    exact taken.trans installed

theorem drives_processMkaEvents :
    ctx.mka.Drives ctx.processMkaEvents.2.mka := by
  have taken : ctx.mka.Drives ctx.mka.takeEvents.2 :=
    @Mka.Participant.Drives.act ctx.mka .takeEvents rfl
  unfold processMkaEvents
  revert taken
  rcases ctx.mka.takeEvents with ⟨events, mka⟩
  intro taken
  dsimp only
  split_ifs
  · exact taken
  · exact taken
  · rw [followEvents_eq]
    exact taken.trans
      (@drives_removeMkaOldSak { ctx with mka := mka, state := _ })
  · rw [followEvents_eq]
    exact taken

theorem drives_serviceMka : ctx.mka.Drives ctx.serviceMka.2.mka := by
  unfold serviceMka
  apply drives_sequel drives_processMkaEvents
  intro middle
  apply drives_sequel drives_processMkaSakInstall
  intro last
  exact drives_processMkaEvents

theorem drives_serviceMkaOrFail :
    ctx.mka.Drives ctx.serviceMkaOrFail.2.mka := by
  have served := @drives_serviceMka ctx
  unfold serviceMkaOrFail
  revert served
  rcases ctx.serviceMka with ⟨ret, middle⟩
  intro served
  cases ret with
  | ok => exact served
  | param | buffer | crypto | state | replay | unsupported | auth | timeout
  | notReady | busy => exact served

/-! ## Functions without key material -/

theorem drives_tick (nowMs : UInt32) :
    ctx.mka.Drives (ctx.tick nowMs).2.mka := by
  have ticked : ctx.mka.Drives (ctx.mka.tick nowMs).2 :=
    @Mka.Participant.Drives.act ctx.mka (.tick nowMs) rfl
  unfold tick
  dsimp only
  split_ifs
  · revert ticked
    rcases ctx.mka.tick nowMs with ⟨ret, mka⟩
    intro ticked
    cases ret with
    | ok =>
        exact ticked.trans (@drives_serviceMkaOrFail
          { ctx with lastTickMs := nowMs, mka := mka })
    | param | buffer | crypto | state | replay | unsupported | auth | timeout
    | notReady | busy => exact ticked
  · exact .refl _

theorem drives_notifyControlTxSuccess (nowMs : UInt32) :
    ctx.mka.Drives (ctx.notifyControlTxSuccess nowMs).2.mka := by
  have notified :
      ctx.mka.Drives
        (ctx.mka.notifyTxSuccess ctx.pendingMkaTxMeta nowMs).2 :=
    @Mka.Participant.Drives.act ctx.mka
      (.notifyTxSuccess ctx.pendingMkaTxMeta nowMs) rfl
  unfold notifyControlTxSuccess
  split_ifs
  · exact .refl _
  · exact .refl _
  · revert notified
    rcases ctx.mka.notifyTxSuccess ctx.pendingMkaTxMeta nowMs with ⟨ret, mka⟩
    intro notified
    cases ret with
    | ok =>
        exact notified.trans (@drives_serviceMkaOrFail
          { ctx with mka := mka }.clearPending)
    | param | buffer | crypto | state | replay | unsupported | auth | timeout
    | notReady | busy => exact notified

theorem drives_notifyControlTxFailure :
    ctx.mka.Drives ctx.notifyControlTxFailure.2.mka := by
  unfold notifyControlTxFailure
  split_ifs
  · exact .refl _
  · exact .refl _
  · exact @Mka.Participant.Drives.act ctx.mka
      (.notifyTxFailure ctx.pendingMkaTxMeta) rfl

end Control

/-! ## Runs -/

variable {aes : BlockCipher} {ctx : Ctx}

/-- What a call delivers to the participant: an EAPOL-MKA frame, and random
octets for its processing. -/
def Call.delivery : Call → List (Bytes × Octets 16)
  | .input frame _ rnd => if Mka.isEapolMka frame then [(frame, rnd)] else []
  | _ => []

/-- What a function does to the participant of a context, a run does. -/
theorem course_lift {step : Control → Err × Control}
    (drives : ctx.control.mka.Drives (step ctx.control).2.mka) :
    (Mka.machine aes).Course Mka.Call.delivery ctx.mka []
      (ctx.lift step).2.mka :=
  drives.course

/-- An EAPOL-MKA frame is delivered to the participant, which is then serviced.
-/
theorem inputMka_course (frame : Bytes) (rnd : Octets 16) :
    (Mka.machine aes).Course Mka.Call.delivery ctx.mka [(frame, rnd)]
      (inputMka aes ctx frame rnd).2.mka := by
  have received :
      (Mka.machine aes).Course Mka.Call.delivery ctx.mka [(frame, rnd)]
        (Mka.input aes ctx.mka frame rnd ctx.lastTickMs).2 :=
    @Transition.Machine.Course.step _ _ _ (Mka.machine aes) _
      Mka.Call.delivery ctx.mka (.input frame rnd ctx.lastTickMs)
  unfold inputMka
  revert received
  rcases Mka.input aes ctx.mka frame rnd ctx.lastTickMs with ⟨ret, mka⟩
  intro received
  cases ret with
  | ok =>
      exact received.extend (@course_lift aes { ctx with mka := mka } _
        Control.drives_serviceMkaOrFail)
  | param | buffer | crypto | state | replay | unsupported | auth | timeout
  | notReady | busy => exact received

/-- A control frame is built by the participant. -/
theorem buildControlFrame_course (txMaxLen : Nat) (rnd : Octets 16) :
    (Mka.machine aes).Course Mka.Call.delivery ctx.mka []
      (buildControlFrame aes ctx txMaxLen rnd).1.mka := by
  have built :
      (Mka.machine aes).Course Mka.Call.delivery ctx.mka []
        (Mka.buildTxFrame aes ctx.mka rnd txMaxLen).2.1 :=
    @Transition.Machine.Course.step _ _ _ (Mka.machine aes) _
      Mka.Call.delivery ctx.mka (.buildTxFrame rnd txMaxLen)
  unfold buildControlFrame
  split_ifs
  · exact .refl _
  · exact .refl _
  · revert built
    rcases Mka.buildTxFrame aes ctx.mka rnd txMaxLen with
      ⟨ret, mka, frame, txMeta⟩
    intro built
    cases ret with
    | ok => exact built
    | param | buffer | crypto | state | replay | unsupported | auth | timeout
    | notReady | busy => exact built

/-- Every call of the public interface is a run of the participant with the same
delivery. -/
theorem perform_course (mode : ctx.cfg.mode ≠ .disabled) (call : Call) :
    (Mka.machine aes).Course Mka.Call.delivery ctx.mka call.delivery
      (perform aes ctx call).1.mka := by
  cases call with
  | input frame plain rnd =>
      change (Mka.machine aes).Course _ _
        (if Mka.isEapolMka frame then [(frame, rnd)] else [])
        (input aes ctx frame plain rnd).1.mka
      rcases input_cases mode frame plain rnd with
        ⟨isMka, result⟩ | ⟨other, secured, result⟩ | ⟨other, ret, -, result⟩
      · rw [result, if_pos isMka]
        exact inputMka_course frame rnd
      · rw [result, (inputSecure_cases secured frame plain).1, other]
        exact .refl _
      · rw [result, other]
        exact .refl _
  | output plain txMaxLen =>
      change (Mka.machine aes).Course _ _ []
        (output aes ctx plain txMaxLen).1.mka
      rcases output_cases mode plain txMaxLen with
        ⟨ret, -, result⟩ | ⟨-, result⟩
      · rw [result]
        exact .refl _
      · rw [result]
        exact .refl _
  | tick nowMs =>
      exact @course_lift aes ctx (·.tick nowMs) (Control.drives_tick nowMs)
  | buildControlFrame txMaxLen rnd =>
      exact buildControlFrame_course txMaxLen rnd
  | notifyControlTxSuccess nowMs =>
      exact @course_lift aes ctx (·.notifyControlTxSuccess nowMs)
        (Control.drives_notifyControlTxSuccess nowMs)
  | notifyControlTxFailure =>
      exact course_lift Control.drives_notifyControlTxFailure

/-- Every run is a run of the participant with the same deliveries. -/
theorem final_course (resting : ctx.control.Resting) (calls : List Call) :
    (Mka.machine aes).Course Mka.Call.delivery ctx.mka
      (calls.flatMap Call.delivery) ((machine aes).final ctx calls).mka :=
  @Transition.Machine.Course.of_run _ _ _ (Mka.machine aes) _ _ _ _ _
    (machine aes) Ctx.mka Call.delivery (fun ctx => ctx.control.Resting)
    (fun _ call resting => perform_resting resting call)
    (fun _ call resting => perform_course (notDisabled_of_resting resting) call)
    _ resting calls

/-- Initialisation starts a participant. -/
theorem init_refines {cfg : Config} {mi : Octets 12} {start : Ctx}
    (mode : cfg.mode = .mkaPsk)
    (initialised : init aes cfg mi = (.ok, start)) :
    Mka.init aes cfg.cak cfg.ckn cfg.localMac
        (if cfg.portId = 0 then 1 else cfg.portId) cfg.keyServerPriority
        cfg.mkaTxIntervalMs mi = (.ok, start.mka) := by
  unfold init at initialised
  dsimp only at initialised
  rw [show (startCtx cfg).cfg.mode = cfg.mode from rfl, mode] at initialised
  dsimp only at initialised
  split at initialised
  next mka result =>
      cases initialised
      exact result
  next ret mka failed result =>
      cases initialised
      exact absurd rfl failed

/-- The participant of every reachable context is reachable. -/
theorem Reachable.mka (reachable : Reachable aes .mkaPsk ctx) :
    Mka.Reachable aes ctx.mka := by
  obtain ⟨cfg, mi, start, mode, initialised, calls, rfl⟩ := reachable
  exact ⟨_, _, _, _, _, _, _, _, init_refines mode initialised,
    (final_course (init_resting mode initialised) calls).reachable⟩

/-- Every reachable MKA context has its keys and verifies under them. -/
theorem Reachable.keyed (reachable : Reachable aes .mkaPsk ctx) :
    ctx.mka.crypto.Keyed ∧ ctx.mka.verifyIcv = true :=
  reachable.mka.keyed

/-- In every run of the public interface the participant starts initialised and
runs through calls of its own.  The frames that these receive are the EAPOL-MKA
frames that the context received, each once and in order. -/
theorem participant_runs {cfg : Config} {mi : Octets 12} {start : Ctx}
    (mode : cfg.mode = .mkaPsk) (initialised : init aes cfg mi = (.ok, start))
    (calls : List Call) :
    Mka.init aes cfg.cak cfg.ckn cfg.localMac
        (if cfg.portId = 0 then 1 else cfg.portId) cfg.keyServerPriority
        cfg.mkaTxIntervalMs mi = (.ok, start.mka) ∧
      ∃ inner : List Mka.Call,
        (Mka.machine aes).final start.mka inner =
            ((machine aes).final start calls).mka ∧
          inner.flatMap Mka.Call.delivery = calls.flatMap Call.delivery := by
  obtain ⟨inner, deliveries, reached⟩ :=
    final_course (init_resting mode initialised) calls
  exact ⟨init_refines mode initialised, inner, reached, deliveries⟩

/-- An MKPDU of a Key Server. -/
def suppliedFrame : Bytes :=
  Mka.frameOf BlockCipher.null
    (MkaCrypto.keysOf BlockCipher.null (List.replicate 16 1) [2]) Mka.supplier

/-- A station builds a control frame, hears from the Key Server and from a
station without key agreement, and loses the Key Server. -/
def stationCalls : List Call :=
  [.buildControlFrame Mka.maxFrameLen (Octets.zero 16),
    .notifyControlTxSuccess 5,
    .input suppliedFrame [] (Mka.sakOctets 3),
    .input (List.replicate 60 0) [] (Mka.sakOctets 4), .tick 9000]

/-- The station once that has happened. -/
def stationAfter : Ctx :=
  (machine BlockCipher.null).final
    (initialCtx BlockCipher.null (pskConfig (Octets.zero 6) 16)
      (Octets.zero 12)) stationCalls

/-- Its participant adopted the SAK in a run in which it received the MKPDU
alone. -/
theorem stationAfter_runs :
    (stationAfter.mka.latestSak.keyNumber = 1 ∧
        stationAfter.state = .waitMka) ∧
      ∃ inner : List Mka.Call,
        (Mka.machine BlockCipher.null).final
            (initialCtx BlockCipher.null (pskConfig (Octets.zero 6) 16)
              (Octets.zero 12)).mka inner = stationAfter.mka ∧
          inner.flatMap Mka.Call.delivery =
            [(suppliedFrame, Mka.sakOctets 3)] := by
  obtain ⟨-, inner, reached, deliveries⟩ :=
    participant_runs rfl
      (init_pskConfig BlockCipher.null (Octets.zero 6) 16 (Octets.zero 12))
      stationCalls
  have delivered :
      stationCalls.flatMap Call.delivery =
        [(suppliedFrame, Mka.sakOctets 3)] := by
    decide +kernel
  exact ⟨by decide +kernel, inner, reached, deliveries.trans delivered⟩

end Macsec
