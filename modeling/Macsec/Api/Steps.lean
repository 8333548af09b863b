import Macsec.Api.Runs
import Macsec.Mka.Displacement

/-!
# What a call can do

Every call in MKA mode does one of a few things to the part of a context that
the key agreement acts on: it protects or opens a frame, builds a control frame,
fails, or has the participant react to something and services it.
-/

namespace Macsec

/-! ## Failures -/

namespace Mka

variable {aes : BlockCipher}

theorem verifyMic_ne_notReady (crypto : MkaCrypto.Ctx) (pdu : Bytes)
    (mic : Octets 16) :
    MkaCrypto.verifyMic aes crypto pdu mic ≠ .notReady := by
  unfold MkaCrypto.verifyMic MkaCrypto.calcMic MkaCrypto.cmac
  split
  next ret failed =>
      split_ifs at failed
      · cases failed
        exact Err.noConfusion
      · cases failed
        exact Err.noConfusion
      · split at failed
        next => cases failed
        next =>
            cases failed
            exact Err.noConfusion
  next =>
      split_ifs
      · exact Err.noConfusion
      · exact Err.noConfusion

theorem authenticate_ne_notReady (ctx : Ctx) (frame : Bytes)
    (basic : Basic) : (authenticate aes ctx frame basic).1 ≠ .notReady := by
  have verified :
      (verifyIcv aes { ctx with lastIcvValid := false } frame basic).1 ≠
        .notReady := by
    unfold verifyIcv
    dsimp only
    split_ifs
    · exact Err.noConfusion
    · exact Err.noConfusion
    · exact Err.noConfusion
    · exact verifyMic_ne_notReady _ _ _
  unfold authenticate
  dsimp only
  split
  next =>
      split
      next => exact Err.noConfusion
      next ret records _ result =>
          rw [result] at verified
          exact verified
  next => exact Err.noConfusion

/-- A rejected frame is no reason to wait. -/
theorem classify_ne_rejected_notReady (ctx : Ctx) (frame : Bytes) :
    classify aes ctx frame ≠ .rejected .notReady := by
  have parsed : parseBasic frame ≠ .error .notReady := by
    rcases parseBasic_cases frame with ⟨ret, -, waits, failed⟩ | ⟨-, result⟩
    · rw [failed]
      exact fun same => waits (Except.error.inj same)
    · rw [result]
      exact nofun
  unfold classify
  intro rejected
  split at rejected
  next => cases rejected
  next =>
      split at rejected
      next ret failed =>
          cases rejected
          exact parsed failed
      next basic _ =>
          split at rejected
          next => cases rejected
          next =>
              split at rejected
              next => cases rejected
              next =>
                  injection rejected with code
                  exact authenticate_ne_notReady ctx frame basic code

namespace Participant

variable {ctx : Participant}

theorem processMkpdu_ne_notReady (inv : ctx.Inv) (pdu : Mkpdu)
    (rnd : Octets 16) (nowMs : UInt32) :
    (ctx.processMkpdu pdu rnd nowMs).1 ≠ .notReady := by
  rw [ctx.processMkpdu_eq inv pdu rnd nowMs]
  dsimp only
  split
  next refused => exact refused.2
  next =>
      split
      next failed => exact failed.2
      next => exact Err.noConfusion

theorem notifyTxSuccess_ne_notReady (txMeta : TxMeta) (nowMs : UInt32) :
    (ctx.notifyTxSuccess txMeta nowMs).1 ≠ .notReady := by
  have distributed : (ctx.notifyDistributed txMeta).1 ≠ .notReady := by
    unfold notifyDistributed commitDistribution
    dsimp only
    split_ifs
    all_goals exact Err.noConfusion
  unfold notifyTxSuccess
  revert distributed
  rcases ctx.notifyDistributed txMeta with ⟨ret, after⟩
  intro distributed
  split
  next => exact Err.noConfusion
  next =>
      split
      next => exact Err.noConfusion
      next =>
          split
          next => exact Err.noConfusion
          next =>
              cases ret with
              | ok => exact Err.noConfusion
              | param | buffer | crypto | state | replay | unsupported | auth
              | timeout | notReady | busy => exact distributed

end Participant

end Mka

/-! ## Steps -/

/-- The calls that service the key agreement. -/
def Call.Serves : Call → Prop
  | .input frame _ _ => Mka.isEapolMka frame = true
  | .tick _ => True
  | .notifyControlTxSuccess _ => True
  | _ => False

/-- What the participant reacts to before it is serviced. -/
inductive Prompts (aes : BlockCipher) (ctx : Ctx) : Call → Control → Prop
  | own {frame plain : Bytes} {rnd : Octets 16}
      (isMka : Mka.isEapolMka frame = true)
      (own : Mka.classify aes ctx.mka frame = .own) :
      Prompts aes ctx (.input frame plain rnd) ctx.control
  | heard {frame plain : Bytes} {rnd : Octets 16} {pdu : Mka.Mkpdu}
      (isMka : Mka.isEapolMka frame = true)
      (accepted : Mka.classify aes ctx.mka frame = .accepted pdu)
      (processed : (ctx.mka.processMkpdu pdu rnd ctx.lastTickMs).1 = .ok) :
      Prompts aes ctx (.input frame plain rnd)
        { ctx.control with
          mka := (ctx.mka.processMkpdu pdu rnd ctx.lastTickMs).2 }
  | ticked (nowMs : UInt32) :
      Prompts aes ctx (.tick nowMs)
        { ctx.control with
          lastTickMs := nowMs
          mka := (ctx.mka.tick nowMs).2 }
  | reported {nowMs : UInt32} (pending : ctx.pendingMkaTxValid = true)
      (accepted :
        (ctx.mka.notifyTxSuccess ctx.pendingMkaTxMeta nowMs).1 = .ok) :
      Prompts aes ctx (.notifyControlTxSuccess nowMs)
        { ctx.control with
          mka := (ctx.mka.notifyTxSuccess ctx.pendingMkaTxMeta
            nowMs).2 }.clearPending

/-- What a call does to the part of a context that the key agreement acts
on. -/
inductive Step (aes : BlockCipher) (ctx : Ctx) : Call → Err → Control → Prop
  | passive {call : Call} {ret : Err} {table : FrameCrypto.SaTable}
      (silent : ret = .ok → ¬call.Serves)
      (same : ctx.frameCrypto.toSaTable.SameKeys table) :
      Step aes ctx call ret { ctx.control with table := table }
  | built {txMaxLen : Nat} {rnd : Octets 16} {ret : Err}
      {mka : Mka.Participant} {txMeta : Mka.TxMeta} {pending : Bool}
      (generated : mka = ctx.mka.toParticipant ∨
        mka = (ctx.mka.toParticipant.ensureForTx rnd).2) :
      Step aes ctx (.buildControlFrame txMaxLen rnd) ret
        { ctx.control with
          mka := mka
          pendingMkaTxMeta := txMeta
          pendingMkaTxValid := pending }
  | returned :
      Step aes ctx .notifyControlTxFailure .ok
        { ctx.control with
          mka := ctx.mka.notifyTxFailure ctx.pendingMkaTxMeta }.clearPending
  | refused {call : Call} {ret : Err} (failed : ret ≠ .ok ∧ ret ≠ .notReady) :
      Step aes ctx call ret { ctx.control with state := .error }
  | failed {frame plain : Bytes} {rnd : Octets 16} {pdu : Mka.Mkpdu}
      (isMka : Mka.isEapolMka frame = true)
      (accepted : Mka.classify aes ctx.mka frame = .accepted pdu)
      (failed : (ctx.mka.processMkpdu pdu rnd ctx.lastTickMs).1 ≠ .ok ∧
        (ctx.mka.processMkpdu pdu rnd ctx.lastTickMs).1 ≠ .notReady) :
      Step aes ctx (.input frame plain rnd)
        (ctx.mka.processMkpdu pdu rnd ctx.lastTickMs).1
        { ctx.control with
          mka := (ctx.mka.processMkpdu pdu rnd ctx.lastTickMs).2
          state := .error }
  | serviced {call : Call} {before : Control} (serves : call.Serves)
      (prompts : Prompts aes ctx call before)
      (serviceable : before.mka.Serviceable) :
      Step aes ctx call .ok before.serviced

variable {aes : BlockCipher} {ctx : Ctx}

/-- A received frame of the key agreement is rejected, fails or is processed and
serviced. -/
theorem inputMka_step (resting : ctx.control.Resting) {frame plain : Bytes}
    (isMka : Mka.isEapolMka frame = true) (rnd : Octets 16) :
    Step aes ctx (.input frame plain rnd) (inputMka aes ctx frame rnd).1
      (inputMka aes ctx frame rnd).2.control := by
  have received := @inputMka_receive aes ctx frame rnd
  rw [Prod.ext_iff] at received
  dsimp only at received
  rw [received.1, received.2]
  have inv := resting.mka.inv
  have outcome :=
    Control.receiveMka_cases resting (Mka.classify aes ctx.mka frame)
      (Mka.classify_ne_rejected_ok aes ctx.mka frame) rnd
  dsimp only at outcome
  cases classified : Mka.classify aes ctx.mka frame with
  | rejected ret =>
      have waits : ret ≠ .notReady := fun same =>
        Mka.classify_ne_rejected_notReady ctx.mka frame (same ▸ classified)
      rw [classified] at outcome
      rcases outcome with ⟨failed, -, result⟩ | ⟨succeeded, -, -⟩
      · rw [result]
        exact .refused ⟨failed, waits⟩
      · exact absurd (show ret = Err.ok from succeeded) fun ok =>
          Mka.classify_ne_rejected_ok aes ctx.mka frame (ok ▸ classified)
  | own =>
      rw [classified] at outcome
      rcases outcome with ⟨failed, -, -⟩ | ⟨-, serviceable, result⟩
      · exact absurd rfl failed
      · rw [result]
        exact .serviced isMka (.own isMka classified) serviceable
  | accepted pdu =>
      rw [classified] at outcome
      rcases outcome with ⟨failed, -, result⟩ | ⟨processed, serviceable, result⟩
      · rw [result]
        exact .failed isMka classified
          ⟨failed, Mka.Participant.processMkpdu_ne_notReady inv pdu rnd _⟩
      · rw [result]
        exact .serviced isMka (.heard isMka classified processed) serviceable

/-- Every call is a step. -/
theorem perform_step (resting : ctx.control.Resting) (call : Call) :
    Step aes ctx call (perform aes ctx call).2.ret
      (perform aes ctx call).1.control := by
  have mode := notDisabled_of_resting resting
  have unchanged {call : Call} {ret : Err} (silent : ret = .ok → ¬call.Serves) :
      Step aes ctx call ret ctx.control := .passive silent (.refl _)
  cases call with
  | input frame plain rnd =>
      change Step aes ctx _ (input aes ctx frame plain rnd).2.ret
        (input aes ctx frame plain rnd).1.control
      rcases input_cases mode frame plain rnd with
        ⟨isMka, result⟩ | ⟨notMka, secured, result⟩ |
        ⟨notMka, ret, failed, result⟩
      · rw [result]
        exact inputMka_step resting isMka rnd
      · rw [result, (inputSecure_cases secured frame plain).1]
        exact .passive (fun _ serves => Bool.false_ne_true
          (notMka.symm.trans serves))
          (FrameCrypto.sameKeys_decrypt aes ctx.frameCrypto frame plain)
      · rw [result]
        exact unchanged fun ok => absurd ok failed
  | output plain txMaxLen =>
      change Step aes ctx _ (output aes ctx plain txMaxLen).2.ret
        (output aes ctx plain txMaxLen).1.control
      rcases output_cases mode plain txMaxLen with
        ⟨ret, -, result⟩ | ⟨-, result⟩
      · rw [result]
        exact unchanged fun _ => id
      · rw [result]
        exact .passive (fun _ => id)
          (FrameCrypto.sameKeys_encrypt aes ctx.frameCrypto plain txMaxLen)
  | tick nowMs =>
      have ticked := Control.tick_eq resting nowMs
      change Step aes ctx _ (ctx.control.tick nowMs).1
        (ctx.control.tick nowMs).2
      rw [ticked]
      exact .serviced trivial (.ticked nowMs)
        (Mka.Participant.tick_serviceable resting.mka nowMs).2.1
  | buildControlFrame txMaxLen rnd =>
      obtain ⟨mka, pendingMeta, pendingValid, which, result⟩ :=
        @buildControlFrame_control aes ctx txMaxLen rnd
      change Step aes ctx _ (buildControlFrame aes ctx txMaxLen rnd).2.ret
        (buildControlFrame aes ctx txMaxLen rnd).1.control
      rw [result]
      exact .built which
  | notifyControlTxSuccess nowMs =>
      change Step aes ctx _ (ctx.control.notifyControlTxSuccess nowMs).1
        (ctx.control.notifyControlTxSuccess nowMs).2
      rcases Control.notifyControlTxSuccess_cases resting nowMs with
        ⟨-, result⟩ | ⟨-, failed, result⟩ |
        ⟨pending, accepted, serviceable, result⟩
      · rw [result]
        exact unchanged fun ok => Err.noConfusion ok
      · rw [result]
        exact .refused
          ⟨failed, Mka.Participant.notifyTxSuccess_ne_notReady _ _⟩
      · rw [result]
        exact .serviced trivial (.reported pending accepted) serviceable
  | notifyControlTxFailure =>
      change Step aes ctx _ ctx.control.notifyControlTxFailure.1
        ctx.control.notifyControlTxFailure.2
      unfold Control.notifyControlTxFailure
      rw [if_neg (not_not_intro resting.mode)]
      split
      next => exact unchanged fun ok => Err.noConfusion ok
      next => exact .returned

/-- A call that services the key agreement succeeds only by servicing it. -/
theorem serviced_of_ok {call : Call} {ret : Err} {after : Control}
    (step : Step aes ctx call ret after) (succeeded : ret = .ok)
    (serves : call.Serves) :
    ∃ before, Prompts aes ctx call before ∧ before.mka.Serviceable ∧
      after = before.serviced := by
  cases step with
  | passive silent same => exact absurd serves (silent succeeded)
  | built generated => exact serves.elim
  | returned => exact serves.elim
  | refused failed => exact absurd succeeded failed.1
  | failed isMka accepted failed => exact absurd succeeded failed.1
  | serviced _ prompts serviceable => exact ⟨_, prompts, serviceable, rfl⟩

end Macsec
