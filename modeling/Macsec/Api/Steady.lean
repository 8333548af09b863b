import Macsec.Api.StaticMode
import Macsec.FrameCrypto.RoundTrip

/-!
# What every call leaves alone

Whatever state a context is in, no call changes its configuration or the
channel identifier it sends under, and the GCM working context always belongs
to the key that its records name.
-/

namespace Macsec

/-! ## The key agreement -/

/-- The parts of a context that no function on it changes.  The record of the
GCM key may only be dropped. -/
structure Control.Steady (before after : Control) : Prop where
  cfg : after.cfg = before.cfg
  localSci : after.table.localSci = before.table.localSci
  cache : after.table.currentGcmKeyValid = true →
    before.table.currentGcmKeyValid = true ∧
      after.table.currentGcmKey = before.table.currentGcmKey

namespace Control

variable {ctx : Control}

theorem Steady.refl (ctx : Control) : ctx.Steady ctx :=
  ⟨rfl, rfl, fun valid => ⟨valid, rfl⟩⟩

theorem Steady.trans {first second third : Control}
    (before : first.Steady second) (after : second.Steady third) :
    first.Steady third where
  cfg := after.cfg.trans before.cfg
  localSci := after.localSci.trans before.localSci
  cache valid :=
    ⟨(before.cache (after.cache valid).1).1,
      (after.cache valid).2.trans (before.cache (after.cache valid).1).2⟩

/-- A function continues with another one only if it succeeds. -/
theorem Steady.sequel {first : Err × Control}
    {next : Control → Err × Control} (start : ctx.Steady first.2)
    (continues : ∀ middle : Control, middle.Steady (next middle).2) :
    ctx.Steady
      (match first with
        | (.ok, ctx) => next ctx
        | (ret, ctx) => (ret, ctx)).2 := by
  rcases first with ⟨ret, middle⟩
  cases ret with
  | ok => exact start.trans (continues middle)
  | param | buffer | crypto | state | replay | unsupported | auth | timeout
  | notReady | busy => exact start

theorem steady_installRxSak (key : Bytes) (an : Fin 4) (lowestPn : UInt32) :
    ctx.Steady (ctx.installRxSak key an lowestPn).2 := by
  cases length : Mka.sakLenValid key.length with
  | true =>
      rw [installRxSak_eq length, rxTable]
      split
      next => exact .refl ctx
      next => exact ⟨rfl, rfl, fun valid => ⟨valid, rfl⟩⟩
  | false =>
      rw [installRxSak, length]
      exact .refl ctx

theorem steady_installTxSak (key : Bytes) (an : Fin 4) :
    ctx.Steady (ctx.installTxSak key an).2 := by
  cases length : Mka.sakLenValid key.length with
  | true =>
      rw [installTxSak_eq length, txTable]
      split
      next => exact .refl ctx
      next => exact ⟨rfl, rfl, fun valid => ⟨valid, rfl⟩⟩
  | false =>
      rw [installTxSak, length]
      exact .refl ctx

theorem steady_removeOldRx : ctx.Steady ctx.removeOldRx.2 := by
  unfold removeOldRx
  split
  next => exact ⟨rfl, rfl, fun valid => Bool.noConfusion valid⟩
  next => exact .refl ctx

theorem steady_removeOldTx : ctx.Steady ctx.removeOldTx.2 := by
  unfold removeOldTx
  split
  next =>
      split
      next => exact ⟨rfl, rfl, fun valid => Bool.noConfusion valid⟩
      next => exact .refl ctx
  next => exact .refl ctx

/-- A change of the participant alone is steady. -/
theorem steady_withMka (mka : Mka.Participant) :
    ctx.Steady { ctx with mka := mka } :=
  ⟨rfl, rfl, fun valid => ⟨valid, rfl⟩⟩

theorem steady_removeMkaOldSak : ctx.Steady ctx.removeMkaOldSak.2 := by
  unfold removeMkaOldSak
  split
  next => exact .refl ctx
  next =>
      split
      next => exact .refl ctx
      next =>
          exact steady_removeOldRx.sequel fun middle =>
            steady_removeOldTx.sequel fun last => steady_withMka _

theorem steady_installMkaRx (sak : Mka.Sak) :
    ctx.Steady (ctx.installMkaRx sak).2 := by
  unfold installMkaRx
  split
  next => exact .refl ctx
  next =>
      exact (steady_installRxSak _ _ _).sequel fun middle => steady_withMka _

theorem steady_installMkaTx (sak : Mka.Sak) :
    ctx.Steady (ctx.installMkaTx sak).2 := by
  unfold installMkaTx
  split
  next => exact .refl ctx
  next => exact (steady_installTxSak _ _).sequel fun middle => steady_withMka _

theorem steady_processMkaSakInstall :
    ctx.Steady ctx.processMkaSakInstall.2 := by
  unfold processMkaSakInstall
  rcases ctx.mka.takeSakForInstall with ⟨ret, mka, sak⟩
  have taken : ctx.Steady { ctx with mka := mka } := steady_withMka mka
  dsimp only
  split
  next => exact taken
  next =>
      split
      next => exact taken
      next =>
          split
          next => exact taken
          next =>
              exact taken.trans
                ((steady_installMkaRx sak).sequel fun middle =>
                  steady_installMkaTx sak)

theorem steady_processMkaEvents : ctx.Steady ctx.processMkaEvents.2 := by
  unfold processMkaEvents
  rcases ctx.mka.takeEvents with ⟨events, mka⟩
  have taken : ctx.Steady { ctx with mka := mka } := steady_withMka mka
  dsimp only
  split
  next => exact taken
  next =>
      split
      next => exact ⟨rfl, rfl, fun valid => ⟨valid, rfl⟩⟩
      next =>
          rw [followEvents_eq]
          have followed (state : State) :
              ctx.Steady { ctx with mka := mka, state := state } :=
            ⟨rfl, rfl, fun valid => ⟨valid, rfl⟩⟩
          split
          next => exact (followed _).trans steady_removeMkaOldSak
          next => exact followed _

theorem steady_serviceMka : ctx.Steady ctx.serviceMka.2 := by
  unfold serviceMka
  exact steady_processMkaEvents.sequel fun middle =>
    steady_processMkaSakInstall.sequel fun last => steady_processMkaEvents

theorem steady_serviceMkaOrFail : ctx.Steady ctx.serviceMkaOrFail.2 := by
  have served : ctx.Steady ctx.serviceMka.2 := steady_serviceMka
  unfold serviceMkaOrFail
  revert served
  rcases ctx.serviceMka with ⟨ret, middle⟩
  intro served
  cases ret with
  | ok => exact served
  | param | buffer | crypto | state | replay | unsupported | auth | timeout
  | notReady | busy => exact ⟨served.cfg, served.localSci, served.cache⟩

theorem steady_installStaticSak : ctx.Steady ctx.installStaticSak.2 := by
  unfold installStaticSak
  split
  next inRange =>
      exact (steady_installRxSak _ _ _).sequel fun middle =>
        (steady_installTxSak _ _).sequel fun last =>
          ⟨rfl, rfl, fun valid => ⟨valid, rfl⟩⟩
  next => exact .refl ctx

theorem steady_tick (nowMs : UInt32) : ctx.Steady (ctx.tick nowMs).2 := by
  unfold tick
  dsimp only
  split
  next =>
      rcases ctx.mka.tick nowMs with ⟨ret, mka⟩
      have ticked :
          ctx.Steady { ctx with lastTickMs := nowMs, mka := mka } :=
        ⟨rfl, rfl, fun valid => ⟨valid, rfl⟩⟩
      cases ret with
      | ok => exact ticked.trans steady_serviceMkaOrFail
      | param | buffer | crypto | state | replay | unsupported | auth
      | timeout | notReady | busy =>
          exact ⟨rfl, rfl, fun valid => ⟨valid, rfl⟩⟩
  next => exact ⟨rfl, rfl, fun valid => ⟨valid, rfl⟩⟩

theorem steady_notifyControlTxSuccess (nowMs : UInt32) :
    ctx.Steady (ctx.notifyControlTxSuccess nowMs).2 := by
  unfold notifyControlTxSuccess
  split
  next => exact .refl ctx
  next =>
      split
      next => exact .refl ctx
      next =>
          rcases ctx.mka.notifyTxSuccess ctx.pendingMkaTxMeta nowMs with
            ⟨ret, mka⟩
          have notified : ctx.Steady { ctx with mka := mka }.clearPending :=
            ⟨rfl, rfl, fun valid => ⟨valid, rfl⟩⟩
          cases ret with
          | ok => exact notified.trans steady_serviceMkaOrFail
          | param | buffer | crypto | state | replay | unsupported | auth
          | timeout | notReady | busy =>
              exact ⟨rfl, rfl, fun valid => ⟨valid, rfl⟩⟩

theorem steady_notifyControlTxFailure :
    ctx.Steady ctx.notifyControlTxFailure.2 := by
  unfold notifyControlTxFailure
  split
  next => exact .refl ctx
  next =>
      split
      next => exact .refl ctx
      next => exact ⟨rfl, rfl, fun valid => ⟨valid, rfl⟩⟩

end Control

/-! ## Whole contexts -/

variable {aes : BlockCipher} {start ctx : Ctx}

/-- What no call changes or breaks. -/
structure Steady (aes : BlockCipher) (start ctx : Ctx) : Prop where
  cfg : ctx.cfg = start.cfg
  localSci : ctx.frameCrypto.localSci = start.frameCrypto.localSci
  cached : ctx.frameCrypto.Cached aes

/-- A function on the part that the key agreement acts on is steady. -/
theorem Steady.withControl (steady : Steady aes start ctx)
    {control : Control} (step : ctx.control.Steady control) :
    Steady aes start (ctx.withControl control) where
  cfg := step.cfg.trans steady.cfg
  localSci := step.localSci.trans steady.localSci
  cached valid := by
    obtain ⟨before, same⟩ := step.cache valid
    change FrameCrypto.KeyedFor aes ctx.frameCrypto.gcm
      control.table.currentGcmKey
    rw [same]
    exact steady.cached before

/-- The key material of MKA does not matter. -/
theorem Steady.withMka (steady : Steady aes start ctx) (mka : Mka.Ctx)
    (state : State) :
    Steady aes start { ctx with mka := mka, state := state } :=
  ⟨steady.cfg, steady.localSci, steady.cached⟩

theorem encrypt_localSci (ctx : FrameCrypto.Ctx) (plain : Bytes)
    (secureMaxLen : Nat) :
    (FrameCrypto.encrypt aes ctx plain secureMaxLen).2.1.localSci =
      ctx.localSci := by
  rcases FrameCrypto.encrypt_cases aes ctx plain secureMaxLen with
    ⟨-, -, initialized, cached, valid, table⟩ |
    ⟨-, -, -, ⟨initialized, cached, valid, table⟩, -⟩
  · rw [table]
    rfl
  · rw [table]
    rfl

theorem decrypt_localSci (ctx : FrameCrypto.Ctx) (secure plain : Bytes) :
    (FrameCrypto.decrypt aes ctx secure plain).2.1.localSci =
      ctx.localSci := by
  rcases FrameCrypto.decrypt_cases aes ctx secure plain with
    ⟨-, initialized, cached, valid, table⟩ |
    ⟨-, -, -, -, initialized, cached, valid, table⟩
  · rw [table]
    rfl
  · rw [table]
    rfl

theorem Steady.inputMka (steady : Steady aes start ctx) (frame : Bytes)
    (rnd : Octets 16) : Steady aes start (inputMka aes ctx frame rnd).2 := by
  unfold Macsec.inputMka
  rcases Mka.input aes ctx.mka frame rnd ctx.lastTickMs with ⟨ret, mka⟩
  cases ret with
  | ok =>
      exact (steady.withMka mka ctx.state).withControl
        Control.steady_serviceMkaOrFail
  | param | buffer | crypto | state | replay | unsupported | auth | timeout
  | notReady | busy => exact steady.withMka mka .error

/-- No call changes the configuration or the channel identifier, and the GCM
context stays the one its records name. -/
theorem Steady.perform (steady : Steady aes start ctx)
    (enabled : start.cfg.mode ≠ .disabled) (call : Call) :
    Steady aes start (Macsec.perform aes ctx call).1 := by
  have mode : ctx.cfg.mode ≠ .disabled := by
    rw [steady.cfg]
    exact enabled
  cases call with
  | input frame plain rnd =>
      change Steady aes start (input aes ctx frame plain rnd).1
      rcases input_cases mode frame plain rnd with
        ⟨-, result⟩ | ⟨-, secured, result⟩ | ⟨-, ret, -, result⟩
      · rw [result]
        exact steady.inputMka frame rnd
      · rw [result, (inputSecure_cases secured frame plain).1]
        exact ⟨steady.cfg,
          (decrypt_localSci ctx.frameCrypto frame plain).trans steady.localSci,
          FrameCrypto.decrypt_cached steady.cached frame plain⟩
      · rw [result]
        exact steady
  | output plain txMaxLen =>
      change Steady aes start (output aes ctx plain txMaxLen).1
      rcases output_cases mode plain txMaxLen with
        ⟨ret, -, result⟩ | ⟨-, result⟩
      · rw [result]
        exact steady
      · rw [result]
        exact ⟨steady.cfg,
          (encrypt_localSci ctx.frameCrypto plain txMaxLen).trans
            steady.localSci,
          FrameCrypto.encrypt_cached steady.cached plain txMaxLen⟩
  | tick nowMs => exact steady.withControl (Control.steady_tick nowMs)
  | buildControlFrame txMaxLen rnd =>
      obtain ⟨mka, pendingMeta, pendingValid, -, result⟩ :=
        @buildControlFrame_control aes ctx txMaxLen rnd
      change Steady aes start (buildControlFrame aes ctx txMaxLen rnd).1
      rw [result]
      exact steady.withControl ⟨rfl, rfl, fun valid => ⟨valid, rfl⟩⟩
  | notifyControlTxSuccess nowMs =>
      exact steady.withControl (Control.steady_notifyControlTxSuccess nowMs)
  | notifyControlTxFailure =>
      exact steady.withControl Control.steady_notifyControlTxFailure

/-- Initialisation keeps the mode. -/
theorem init_mode {cfg : Config} {mi : Octets 12}
    (initialised : init aes cfg mi = (.ok, start)) :
    start.cfg.mode = cfg.mode := by
  unfold init at initialised
  dsimp only at initialised
  split at initialised
  next =>
      cases initialised
      rfl
  next =>
      split at initialised
      next installed result =>
          cases initialised
          have state := congrArg Prod.snd result
          have steady := @Control.steady_installStaticSak (startCtx cfg).control
          rw [← show ((startCtx cfg).lift Control.installStaticSak).2 = start
            from state]
          change (startCtx cfg).control.installStaticSak.2.cfg.mode = _
          rw [steady.cfg]
          rfl
      next failed result =>
          cases initialised
          exact absurd rfl failed
  next =>
      split at initialised
      next =>
          cases initialised
          rfl
      next failed result =>
          cases initialised
          exact absurd rfl failed
  next => cases initialised

/-- A context is steady from its initialisation on. -/
theorem steady_of_init {cfg : Config} {mi : Octets 12}
    (initialised : init aes cfg mi = (.ok, start)) :
    Steady aes start start := by
  refine ⟨rfl, rfl, ?_⟩
  have invalid : start.frameCrypto.currentGcmKeyValid = false := by
    unfold init at initialised
    dsimp only at initialised
    split at initialised
    next =>
        cases initialised
        rfl
    next =>
        split at initialised
        next installed result =>
            cases initialised
            have steady :=
              @Control.steady_installStaticSak (startCtx cfg).control
            have state := congrArg Prod.snd result
            rw [← Bool.not_eq_true]
            intro valid
            have table :
                ((startCtx cfg).lift
                  Control.installStaticSak).2.frameCrypto.currentGcmKeyValid =
                  true := by
              rw [state]
              exact valid
            exact Bool.noConfusion (steady.cache table).1
        next failed result =>
            cases initialised
            exact absurd rfl failed
    next =>
        split at initialised
        next =>
            cases initialised
            rfl
        next failed result =>
            cases initialised
            exact absurd rfl failed
    next => cases initialised
  intro valid
  rw [invalid] at valid
  exact Bool.noConfusion valid

/-- Every reachable context is steady since some start in the same mode. -/
theorem Reachable.steady {mode : Mode} (enabled : mode ≠ .disabled)
    (reachable : Reachable aes mode ctx) :
    ∃ start, start.cfg.mode = mode ∧ Steady aes start ctx := by
  obtain ⟨cfg, mi, start, same, initialised, run⟩ := reachable
  have startMode : start.cfg.mode = mode := (init_mode initialised).trans same
  refine ⟨start, startMode, ?_⟩
  exact run.invariant (fun ctx => Steady aes start ctx)
    (steady_of_init initialised) fun ctx call steady =>
      steady.perform (startMode ▸ enabled) call

end Macsec
