import Macsec.Mka.Displacement

/-!
# The settings of a participant

No operation changes the address, the channel identifier, the member identifier,
the Key Server priority or the transmission interval of a participant.
-/

namespace Macsec

namespace Mka

/-- What a participant is initialised with. -/
structure Settings where
  localMac : Octets 6
  localSci : Octets 8
  localMi : Octets 12
  keyServerPriority : UInt8
  txIntervalMs : UInt32

namespace Participant

/-- The settings of a participant. -/
def settings (ctx : Participant) : Settings :=
  { localMac := ctx.localMac
    localSci := ctx.localSci
    localMi := ctx.localMi
    keyServerPriority := ctx.keyServerPriority
    txIntervalMs := ctx.txIntervalMs }

variable {ctx : Participant}

theorem settings_processMkpdu (inv : ctx.Inv) (pdu : Mkpdu)
    (rnd : Octets 16) (nowMs : UInt32) :
    (ctx.processMkpdu pdu rnd nowMs).2.settings = ctx.settings := by
  rcases ctx.processMkpdu_cases inv pdu rnd nowMs with
    ⟨-, same⟩ | ⟨-, rest, -⟩
  · rw [same]
  · rw [SameRest] at rest
    rw [rest]
    rfl

theorem settings_receive (inv : ctx.Inv) (received : Received)
    (rnd : Octets 16) (nowMs : UInt32) :
    (ctx.receive received rnd nowMs).2.settings = ctx.settings := by
  cases received with
  | rejected ret => rfl
  | own => rfl
  | accepted pdu => exact settings_processMkpdu inv pdu rnd nowMs

theorem settings_tick (inv : ctx.Inv) (nowMs : UInt32) :
    (ctx.tick nowMs).2.settings = ctx.settings := by
  obtain ⟨expired, events, reasons, ⟨-, rfl⟩ | ⟨-, rfl⟩, -, result⟩ :=
    tick_cases inv nowMs
  · rw [result]
    rfl
  · rw [result]
    rfl

theorem settings_ensureForTx (rnd : Octets 16) :
    (ctx.ensureForTx rnd).2.settings = ctx.settings := by
  rcases ctx.ensureForTx_cases rnd with same | ⟨-, -, -, result⟩
  · rw [same]
  · rw [result]
    rfl

theorem settings_notifyTxSuccess (txMeta : TxMeta) (nowMs : UInt32) :
    (ctx.notifyTxSuccess txMeta nowMs).2.settings = ctx.settings := by
  rcases ctx.notifyTxSuccess_cases txMeta nowMs with
    ⟨-, same⟩ | ⟨-, -, result⟩
  · rw [same]
  · rw [result]
    rcases ctx.notifyDistributed_cases txMeta with
      same | ⟨-, -, -, -, -, distributed⟩
    · rw [same]
      rfl
    · rw [distributed]
      rfl

theorem settings_takeSakForInstall (inv : ctx.Inv) :
    ctx.takeSakForInstall.2.1.settings = ctx.settings := by
  rcases ctx.takeSakForInstall_cases inv with ⟨-, result⟩ | ⟨-, result⟩
  · rw [result]
  · rw [result]
    rfl

theorem settings_notifySakInstalled (inv : ctx.Inv) (keyNumber : UInt32)
    (an : Fin 4) (directions : UInt8) (lowestPn : UInt32) :
    (ctx.notifySakInstalled keyNumber an directions lowestPn).2.settings =
      ctx.settings := by
  rcases ctx.notifySakInstalled_cases inv.peer keyNumber an directions
      lowestPn with
    same | ⟨marked, described, -, ⟨-, result⟩ | ⟨-, result⟩⟩
  · rw [same]
  · rw [result, described]
    rfl
  · rw [result, described]
    rfl

theorem settings_notifySakRetired (inv : ctx.Inv) (keyNumber : UInt32)
    (an : Fin 4) :
    (ctx.notifySakRetired keyNumber an).2.settings = ctx.settings := by
  rcases ctx.notifySakRetired_cases inv.old keyNumber an with
    same | ⟨-, result⟩
  · rw [same]
  · rw [result]
    rfl

end Participant

variable {aes : BlockCipher} {ctx : Ctx}

/-- No call changes the settings of a participant. -/
theorem perform_settings (inv : ctx.toParticipant.Inv) (call : Call) :
    (perform aes ctx call).1.settings = ctx.settings := by
  cases call with
  | input frame rnd nowMs =>
      have received :=
        congrArg Prod.snd (input_receive aes ctx frame rnd nowMs)
      change (input aes ctx frame rnd nowMs).2.toParticipant.settings = _
      rw [show (input aes ctx frame rnd nowMs).2.toParticipant = _ from
        received]
      exact Participant.settings_receive inv _ rnd nowMs
  | tick nowMs => exact Participant.settings_tick inv nowMs
  | takeEvents => rfl
  | buildTxFrame rnd frameMaxLen =>
      change (buildTxFrame aes ctx rnd frameMaxLen).2.1.settings = _
      rcases buildTxFrame_participant aes ctx rnd frameMaxLen with
        same | generated
      · rw [same]
      · rw [generated]
        exact Participant.settings_ensureForTx rnd
  | notifyTxSuccess txMeta nowMs =>
      exact Participant.settings_notifyTxSuccess txMeta nowMs
  | notifyTxFailure txMeta => rfl
  | takeSakForInstall => exact Participant.settings_takeSakForInstall inv
  | notifySakInstalled keyNumber an directions lowestPn =>
      exact Participant.settings_notifySakInstalled inv keyNumber an
        directions lowestPn
  | notifySakRetired keyNumber an =>
      exact Participant.settings_notifySakRetired inv keyNumber an

end Mka

end Macsec
