import Macsec.Api.Service
import Macsec.FrameCrypto.Frames

/-!
# Calls of the public interface

What each call does to the part of a context that the key agreement acts on,
and to the associations.  Between calls the participant of an MKA context is at
rest.
-/

namespace Macsec

variable {aes : BlockCipher} {ctx : Ctx}

/-! ## Receiving -/

/-- Receiving an EAPOL-MKA frame acts as its classification says. -/
theorem inputMka_receive (frame : Bytes) (rnd : Octets 16) :
    ((inputMka aes ctx frame rnd).1, (inputMka aes ctx frame rnd).2.control) =
      ctx.control.receiveMka (Mka.classify aes ctx.mka frame) rnd := by
  have received := Mka.input_receive aes ctx.mka frame rnd ctx.lastTickMs
  unfold inputMka Control.receiveMka
  have receives :
      ctx.control.mka.receive (Mka.classify aes ctx.mka frame) rnd
          ctx.control.lastTickMs =
        _ :=
    received.symm
  rw [receives]
  rcases Mka.input aes ctx.mka frame rnd ctx.lastTickMs with ⟨ret, mka⟩
  cases ret with
  | ok => rfl
  | param | buffer | crypto | state | replay | unsupported | auth | timeout
  | notReady | busy => rfl

/-- Receiving an EAPOL-MKA frame leaves the key material alone. -/
theorem inputMka_keys (frame : Bytes) (rnd : Octets 16) :
    (inputMka aes ctx frame rnd).2.frameCrypto.gcm = ctx.frameCrypto.gcm ∧
      (inputMka aes ctx frame rnd).2.mka.crypto = ctx.mka.crypto ∧
      (inputMka aes ctx frame rnd).2.mka.verifyIcv = ctx.mka.verifyIcv := by
  have keys := Mka.input_keys aes ctx.mka frame rnd ctx.lastTickMs
  unfold inputMka
  revert keys
  rcases Mka.input aes ctx.mka frame rnd ctx.lastTickMs with ⟨ret, mka⟩
  intro keys
  cases ret with
  | ok => exact ⟨rfl, keys⟩
  | param | buffer | crypto | state | replay | unsupported | auth | timeout
  | notReady | busy => exact ⟨rfl, keys⟩

/-- A received frame belongs to the key agreement, is opened by a secured
context, or is turned away. -/
theorem input_cases (mode : ctx.cfg.mode ≠ .disabled) (frame plain : Bytes)
    (rnd : Octets 16) :
    (Mka.isEapolMka frame = true ∧
      input aes ctx frame plain rnd =
        ((inputMka aes ctx frame rnd).2,
          Reply.of (inputMka aes ctx frame rnd).1)) ∨
    (Mka.isEapolMka frame = false ∧ ctx.state = .secured ∧
      input aes ctx frame plain rnd = inputSecure aes ctx frame plain) ∨
    (Mka.isEapolMka frame = false ∧
      ∃ ret, ret ≠ .ok ∧
        input aes ctx frame plain rnd = (ctx, Reply.of ret)) := by
  unfold input
  rw [if_neg mode]
  cases Mka.isEapolMka frame with
  | true => exact Or.inl ⟨rfl, rfl⟩
  | false =>
      refine Or.inr ?_
      rw [if_neg Bool.false_ne_true]
      split
      next =>
          by_cases secured : ctx.state = .secured
          · exact Or.inl ⟨rfl, secured, rfl⟩
          · refine Or.inr ⟨rfl, .notReady, Err.noConfusion, ?_⟩
            rw [inputSecure, if_pos secured]
      next =>
          refine Or.inr ⟨rfl, ?_⟩
          split
          next => exact ⟨.unsupported, Err.noConfusion, rfl⟩
          next => exact ⟨.auth, Err.noConfusion, rfl⟩

/-- A secured context passes on what it opens. -/
theorem inputSecure_cases (secured : ctx.state = .secured)
    (frame plain : Bytes) :
    (inputSecure aes ctx frame plain).1 =
        { ctx with
          frameCrypto :=
            (FrameCrypto.decrypt aes ctx.frameCrypto frame plain).2.1 } ∧
      (inputSecure aes ctx frame plain).2.ret =
        (FrameCrypto.decrypt aes ctx.frameCrypto frame plain).1 ∧
      ((inputSecure aes ctx frame plain).2.passToStack = true ↔
        (FrameCrypto.decrypt aes ctx.frameCrypto frame plain).1 = .ok) ∧
      ((FrameCrypto.decrypt aes ctx.frameCrypto frame plain).1 = .ok →
        (inputSecure aes ctx frame plain).2.frame =
          (FrameCrypto.decrypt aes ctx.frameCrypto frame plain).2.2.1.take
            (FrameCrypto.decrypt aes ctx.frameCrypto frame plain).2.2.2) := by
  unfold inputSecure
  rw [if_neg (not_not_intro secured)]
  rcases FrameCrypto.decrypt aes ctx.frameCrypto frame plain with
    ⟨ret, frameCrypto, opened, len⟩
  cases ret with
  | ok => exact ⟨rfl, rfl, by simp, fun _ => rfl⟩
  | param | buffer | crypto | state | replay | unsupported | auth | timeout
  | notReady | busy =>
      exact ⟨rfl, rfl, by simp [Reply.of], fun ok => Err.noConfusion ok⟩

/-! ## Sending -/

/-- A frame is turned away, or protected by a secured context. -/
theorem output_cases (mode : ctx.cfg.mode ≠ .disabled) (plain : Bytes)
    (txMaxLen : Nat) :
    (∃ ret, ret ≠ .ok ∧ output aes ctx plain txMaxLen = (ctx, Reply.of ret)) ∨
    (ctx.state = .secured ∧
      output aes ctx plain txMaxLen =
        ({ ctx with
            frameCrypto :=
              (FrameCrypto.encrypt aes ctx.frameCrypto plain txMaxLen).2.1 },
          { ret := (FrameCrypto.encrypt aes ctx.frameCrypto plain txMaxLen).1
            frame :=
              (FrameCrypto.encrypt aes ctx.frameCrypto plain txMaxLen).2.2
            passToStack := false })) := by
  unfold output
  rw [if_neg mode]
  by_cases secured : ctx.state = .secured
  · rw [if_neg (not_not_intro secured)]
    split
    next => exact Or.inl ⟨.notReady, Err.noConfusion, rfl⟩
    next => exact Or.inr ⟨secured, rfl⟩
  · rw [if_pos secured]
    exact Or.inl ⟨.notReady, Err.noConfusion, rfl⟩

/-- Building a control frame at most generates a SAK, and records the frame as
pending. -/
theorem buildControlFrame_control (txMaxLen : Nat) (rnd : Octets 16) :
    ∃ mka pendingMeta pendingValid,
      (mka = ctx.mka.toParticipant ∨
        mka = (ctx.mka.toParticipant.ensureForTx rnd).2) ∧
      (buildControlFrame aes ctx txMaxLen rnd).1 =
        ctx.withControl
          { ctx.control with
            mka := mka
            pendingMkaTxMeta := pendingMeta
            pendingMkaTxValid := pendingValid } := by
  unfold buildControlFrame
  split
  next =>
      exact ⟨_, ctx.pendingMkaTxMeta, ctx.pendingMkaTxValid, Or.inl rfl, rfl⟩
  next =>
      split
      next =>
          exact ⟨_, ctx.pendingMkaTxMeta, ctx.pendingMkaTxValid, Or.inl rfl,
            rfl⟩
      next =>
          have built := Mka.buildTxFrame_participant aes ctx.mka rnd txMaxLen
          revert built
          rcases Mka.buildTxFrame aes ctx.mka rnd txMaxLen with
            ⟨ret, mka, frame, txMeta⟩
          intro built
          dsimp only at built
          have generated :
              ∃ participant,
                (participant = ctx.mka.toParticipant ∨
                  participant = (ctx.mka.toParticipant.ensureForTx rnd).2) ∧
                mka = { ctx.mka with toParticipant := participant } := by
            rcases built with rfl | rfl
            · exact ⟨_, Or.inl rfl, rfl⟩
            · exact ⟨_, Or.inr rfl, rfl⟩
          obtain ⟨participant, which, rfl⟩ := generated
          cases ret with
          | ok => exact ⟨participant, txMeta, true, which, rfl⟩
          | param | buffer | crypto | state | replay | unsupported | auth
          | timeout | notReady | busy =>
              exact ⟨participant, Mka.TxMeta.cleared, ctx.pendingMkaTxValid,
                which, rfl⟩

/-! ## The state between calls -/

/-- The context that initialisation in MKA mode leaves. -/
def initialCtx (aes : BlockCipher) (cfg : Config) (mi : Octets 12) : Ctx :=
  { startCtx cfg with
    mka :=
      Mka.initialCtx aes cfg.cak cfg.ckn cfg.localMac
        (if cfg.portId = 0 then 1 else cfg.portId) cfg.keyServerPriority
        cfg.mkaTxIntervalMs mi
    state := .waitMka }

/-- Initialisation in MKA mode succeeds on keys and names of supported
sizes. -/
theorem init_eq {cfg : Config} (mode : cfg.mode = .mkaPsk)
    (cakSize : MkaCrypto.keyLenValid cfg.cak.length = true)
    (cknPresent : cfg.ckn.length ≠ 0)
    (cknFits : cfg.ckn.length ≤ MkaCrypto.cknMaxLen) (mi : Octets 12) :
    init aes cfg mi = (.ok, initialCtx aes cfg mi) := by
  unfold init
  dsimp only
  rw [show (startCtx cfg).cfg.mode = cfg.mode from rfl, mode]
  dsimp only
  have started :
      Mka.init aes (startCtx cfg).cfg.cak (startCtx cfg).cfg.ckn
          (startCtx cfg).cfg.localMac (startCtx cfg).cfg.portId
          (startCtx cfg).cfg.keyServerPriority
          (startCtx cfg).cfg.mkaTxIntervalMs mi =
        _ :=
    (Mka.init_eq aes cakSize cknPresent cknFits _ _ _ _ mi).1
  rw [started]
  rfl

/-- A successful initialisation in MKA mode starts the participant under the
keys of its pre-shared key. -/
theorem init_mkaPsk {cfg : Config} {mi : Octets 12} {start : Ctx}
    (mode : cfg.mode = .mkaPsk)
    (initialised : init aes cfg mi = (.ok, start)) :
    start = initialCtx aes cfg mi ∧ start.mka.crypto.Keyed := by
  unfold init at initialised
  dsimp only at initialised
  rw [show (startCtx cfg).cfg.mode = cfg.mode from rfl, mode] at initialised
  dsimp only at initialised
  split at initialised
  next mka result =>
      obtain ⟨same, keyed⟩ := Mka.init_ok result
      cases initialised
      subst same
      exact ⟨rfl, keyed⟩
  next ret mka failed result =>
      cases initialised
      exact absurd rfl failed

theorem initialCtx_resting {cfg : Config} (mode : cfg.mode = .mkaPsk)
    (mi : Octets 12) : (initialCtx aes cfg mi).control.Resting := by
  refine ⟨mode, Mka.resting_completeInit _ _ _ _ mi, ?_⟩
  change
    (Mka.Participant.start _ _ _ _ mi).completeInit.latestSak.lifecycleState
    = .candidate → _
  rw [Mka.completeInit_eq]
  exact Mka.SakState.noConfusion

theorem init_resting {cfg : Config} {mi : Octets 12} {start : Ctx}
    (mode : cfg.mode = .mkaPsk)
    (initialised : init aes cfg mi = (.ok, start)) :
    start.control.Resting := by
  rw [(init_mkaPsk mode initialised).1]
  exact initialCtx_resting mode mi

theorem notDisabled_of_resting (resting : ctx.control.Resting) :
    ctx.cfg.mode ≠ .disabled := by
  rw [show ctx.cfg.mode = .mkaPsk from resting.mode]
  exact Mode.noConfusion

/-- Every call leaves an MKA context at rest. -/
theorem perform_resting (resting : ctx.control.Resting) (call : Call) :
    (perform aes ctx call).1.control.Resting := by
  have mode := notDisabled_of_resting resting
  cases call with
  | input frame plain rnd =>
      change (input aes ctx frame plain rnd).1.control.Resting
      rcases input_cases mode frame plain rnd with
        ⟨-, result⟩ | ⟨-, secured, result⟩ | ⟨-, ret, -, result⟩
      · rw [result, show (inputMka aes ctx frame rnd).2.control = _ from
          congrArg Prod.snd (inputMka_receive frame rnd)]
        exact Control.receiveMka_resting resting _
          (Mka.classify_ne_rejected_ok aes ctx.mka frame) rnd
      · rw [result, (inputSecure_cases secured frame plain).1]
        exact ⟨resting.mode, resting.mka, resting.waiting⟩
      · rw [result]
        exact resting
  | output plain txMaxLen =>
      change (output aes ctx plain txMaxLen).1.control.Resting
      rcases output_cases mode plain txMaxLen with
        ⟨ret, -, result⟩ | ⟨-, result⟩
      · rw [result]
        exact resting
      · rw [result]
        exact ⟨resting.mode, resting.mka, resting.waiting⟩
  | tick nowMs => exact Control.tick_resting resting nowMs
  | buildControlFrame txMaxLen rnd =>
      obtain ⟨mka, pendingMeta, pendingValid, which, result⟩ :=
        @buildControlFrame_control aes ctx txMaxLen rnd
      change (buildControlFrame aes ctx txMaxLen rnd).1.control.Resting
      rw [result]
      rcases which with rfl | rfl
      · exact ⟨resting.mode, resting.mka, resting.waiting⟩
      · refine ⟨resting.mode,
          (Mka.Participant.ensureForTx_keeps resting.mka.inv rnd).resting
            resting.mka, ?_⟩
        rcases ctx.mka.toParticipant.ensureForTx_cases rnd with
          same | ⟨-, -, -, generated⟩
        · change
            (ctx.mka.toParticipant.ensureForTx rnd).2.latestSak.lifecycleState
            = .candidate → _
          rw [same]
          exact resting.waiting
        · change
            (ctx.mka.toParticipant.ensureForTx rnd).2.latestSak.lifecycleState
            = .candidate → _
          rw [generated]
          exact Mka.SakState.noConfusion
  | notifyControlTxSuccess nowMs =>
      exact Control.notifyControlTxSuccess_resting resting nowMs
  | notifyControlTxFailure =>
      exact Control.notifyControlTxFailure_resting resting

/-- No call touches the key material of MKA. -/
theorem perform_keys (mode : ctx.cfg.mode ≠ .disabled) (call : Call) :
    (perform aes ctx call).1.mka.crypto = ctx.mka.crypto ∧
      (perform aes ctx call).1.mka.verifyIcv = ctx.mka.verifyIcv := by
  cases call with
  | input frame plain rnd =>
      change (input aes ctx frame plain rnd).1.mka.crypto = _ ∧
        (input aes ctx frame plain rnd).1.mka.verifyIcv = _
      rcases input_cases mode frame plain rnd with
        ⟨-, result⟩ | ⟨-, secured, result⟩ | ⟨-, ret, -, result⟩
      · rw [result]
        exact (inputMka_keys frame rnd).2
      · rw [result, (inputSecure_cases secured frame plain).1]
        exact ⟨rfl, rfl⟩
      · rw [result]
        exact ⟨rfl, rfl⟩
  | output plain txMaxLen =>
      change (output aes ctx plain txMaxLen).1.mka.crypto = _ ∧
        (output aes ctx plain txMaxLen).1.mka.verifyIcv = _
      rcases output_cases mode plain txMaxLen with
        ⟨ret, -, result⟩ | ⟨-, result⟩
      · rw [result]
        exact ⟨rfl, rfl⟩
      · rw [result]
        exact ⟨rfl, rfl⟩
  | tick nowMs => exact ⟨rfl, rfl⟩
  | buildControlFrame txMaxLen rnd =>
      obtain ⟨mka, pendingMeta, pendingValid, -, result⟩ :=
        @buildControlFrame_control aes ctx txMaxLen rnd
      change (buildControlFrame aes ctx txMaxLen rnd).1.mka.crypto = _ ∧
        (buildControlFrame aes ctx txMaxLen rnd).1.mka.verifyIcv = _
      rw [result]
      exact ⟨rfl, rfl⟩
  | notifyControlTxSuccess nowMs => exact ⟨rfl, rfl⟩
  | notifyControlTxFailure => exact ⟨rfl, rfl⟩

/-- A run leads from a reachable context to a reachable one. -/
theorem Reachable.final {mode : Mode} (reachable : Reachable aes mode ctx)
    (calls : List Call) :
    Reachable aes mode ((machine aes).final ctx calls) := by
  obtain ⟨cfg, mi, start, sameMode, initialised, run⟩ := reachable
  exact ⟨cfg, mi, start, sameMode, initialised, run.trans ⟨calls, rfl⟩⟩

/-- Every reachable MKA context is at rest. -/
theorem Reachable.resting (reachable : Reachable aes .mkaPsk ctx) :
    ctx.control.Resting := by
  obtain ⟨cfg, mi, start, mode, initialised, run⟩ := reachable
  exact run.invariant (fun ctx => ctx.control.Resting)
    (init_resting mode initialised) fun ctx call resting =>
      perform_resting resting call

/-! ## A configuration -/

/-- A configuration of the key agreement. -/
def pskConfig (localMac : Octets 6) (keyServerPriority : UInt8) : Config where
  mode := .mkaPsk
  localMac := localMac
  portId := 1
  cak := List.replicate 16 1
  ckn := [2]
  staticSak := []
  staticAn := 0
  replayProtect := true
  replayWindow := 64
  keyServerPriority := keyServerPriority
  mkaTxIntervalMs := 2000

theorem init_pskConfig (aes : BlockCipher) (localMac : Octets 6)
    (keyServerPriority : UInt8) (mi : Octets 12) :
    init aes (pskConfig localMac keyServerPriority) mi =
      (.ok, initialCtx aes (pskConfig localMac keyServerPriority) mi) :=
  init_eq rfl rfl (by simp [pskConfig])
    (by simp [pskConfig, MkaCrypto.cknMaxLen])
    mi

/-- An initialised context is reachable. -/
theorem reachable_initialCtx (aes : BlockCipher) (localMac : Octets 6)
    (keyServerPriority : UInt8) (mi : Octets 12) :
    Reachable aes .mkaPsk
      (initialCtx aes (pskConfig localMac keyServerPriority) mi) :=
  ⟨pskConfig localMac keyServerPriority, mi, _, rfl,
    init_pskConfig aes localMac keyServerPriority mi,
    Transition.Machine.Reachable.refl _ _⟩

end Macsec
