import Macsec.Mka.Reception

/-!
# What a call does to the latest SAK

Every call of `mka.h` either processes an authenticated MKPDU, generates the
SAK that is due, commits its first transmission, advances the installation of
the latest SAK, or leaves the latest SAK and the counters of the Key Server
alone.
-/

namespace Macsec

namespace Mka

/-- Two SAKs agree in everything but the progress of their installation. -/
def Sak.Advances (before after : Sak) : Prop :=
  after =
    { before with
      lifecycleState := after.lifecycleState
      rxInstalled := after.rxInstalled
      txInstalled := after.txInstalled
      lowestPn := after.lowestPn }

/-- The counters from which a Key Server numbers its SAKs. -/
def Participant.counters (ctx : Participant) : UInt32 × Fin 4 :=
  (ctx.keyServerNextKeyNumber, ctx.keyServerNextAn)

variable {aes : BlockCipher} {ctx : Ctx}

/-- The effect of a call on the protocol state. -/
inductive Move (aes : BlockCipher) (ctx : Ctx) : Call → Participant → Prop
  | receive {frame : Bytes} {rnd : Octets 16} {nowMs : UInt32} {pdu : Mkpdu}
      (accepted : classify aes ctx frame = .accepted pdu) :
      Move aes ctx (.input frame rnd nowMs)
        (ctx.toParticipant.processMkpdu pdu rnd nowMs).2
  | generate {rnd : Octets 16} {frameMaxLen : Nat} {after : Participant}
      (absent : ctx.latestSak.lifecycleState = .none)
      (latest : after.latestSak = ctx.toParticipant.pendingSak rnd)
      (counters : after.counters = ctx.counters)
      (peer : after.peer = ctx.peer) :
      Move aes ctx (.buildTxFrame rnd frameMaxLen) after
  | commit {txMeta : TxMeta} {nowMs : UInt32}
      (pending : ctx.latestSak.lifecycleState = .distributionPending) :
      Move aes ctx (.notifyTxSuccess txMeta nowMs)
        (ctx.toParticipant.committed.sent txMeta nowMs)
  | advance {call : Call} {after : Participant}
      (latest : ctx.latestSak.Advances after.latestSak)
      (due : ctx.latestSak.lifecycleState = .candidate ∨
        ctx.latestSak.lifecycleState = .distributed ∨
        ctx.latestSak.lifecycleState = .installPending)
      (installing : after.latestSak.lifecycleState = .installPending ∨
        after.latestSak.lifecycleState = .active ∨
        after.latestSak.lifecycleState = .confirmed)
      (counters : after.counters = ctx.counters)
      (peer : after.peer = ctx.peer) :
      Move aes ctx call after
  | rest {call : Call} {after : Participant}
      (latest : after.latestSak = ctx.latestSak)
      (counters : after.counters = ctx.counters)
      (peer : after.peer = ctx.peer ∨ after.peer.valid = false) :
      Move aes ctx call after

theorem Move.refl (call : Call) : Move aes ctx call ctx.toParticipant :=
  .rest rfl rfl (Or.inl rfl)

/-- Receiving a frame processes an MKPDU or does nothing. -/
theorem move_input (frame : Bytes) (rnd : Octets 16) (nowMs : UInt32) :
    Move aes ctx (.input frame rnd nowMs)
      (input aes ctx frame rnd nowMs).2.toParticipant := by
  have received := congrArg Prod.snd (input_receive aes ctx frame rnd nowMs)
  rw [show (input aes ctx frame rnd nowMs).2.toParticipant = _ from received]
  cases classified : classify aes ctx frame with
  | rejected ret => exact .refl _
  | own => exact .refl _
  | accepted pdu => exact .receive classified

/-- Building a frame generates a SAK or does nothing. -/
theorem move_buildTxFrame (rnd : Octets 16) (frameMaxLen : Nat) :
    Move aes ctx (.buildTxFrame rnd frameMaxLen)
      (buildTxFrame aes ctx rnd frameMaxLen).2.1.toParticipant := by
  rcases buildTxFrame_participant aes ctx rnd frameMaxLen with
    same | generated
  · rw [same]
    exact .refl _
  · rw [generated]
    rcases ctx.toParticipant.ensureForTx_cases rnd with
      same | ⟨-, -, absent, result⟩
    · rw [same]
      exact .refl _
    · rw [result]
      exact .generate absent rfl rfl rfl

/-- A report of a transmission commits a SAK or leaves it alone. -/
theorem move_notifyTxSuccess (txMeta : TxMeta) (nowMs : UInt32) :
    Move aes ctx (.notifyTxSuccess txMeta nowMs)
      (ctx.toParticipant.notifyTxSuccess txMeta nowMs).2 := by
  rcases ctx.toParticipant.notifyTxSuccess_cases txMeta nowMs with
    ⟨-, same⟩ | ⟨-, -, result⟩
  · rw [same]
    exact .refl _
  · rw [result]
    rcases ctx.toParticipant.notifyDistributed_cases txMeta with
      same | ⟨-, pending, -, -, -, distributed⟩
    · rw [same]
      exact .rest rfl rfl (Or.inl rfl)
    · rw [distributed]
      exact .commit pending

/-- Handing over a SAK begins its installation. -/
theorem move_takeSakForInstall (inv : ctx.toParticipant.Inv) :
    Move aes ctx .takeSakForInstall
      ctx.toParticipant.takeSakForInstall.2.1 := by
  rcases ctx.toParticipant.takeSakForInstall_cases inv with
    ⟨-, result⟩ | ⟨available, result⟩
  · rw [result]
    exact .refl _
  · rw [result]
    exact .advance rfl (Participant.lifecycle_of_available available)
      (Or.inl rfl) rfl rfl

/-- A report on installed directions advances the installation. -/
theorem move_notifySakInstalled (inv : ctx.toParticipant.Inv)
    (keyNumber : UInt32) (an : Fin 4) (directions : UInt8)
    (lowestPn : UInt32) :
    Move aes ctx (.notifySakInstalled keyNumber an directions lowestPn)
      (ctx.toParticipant.notifySakInstalled keyNumber an directions
        lowestPn).2 := by
  rcases ctx.toParticipant.notifySakInstalled_cases inv.peer keyNumber an
      directions lowestPn with
    same | ⟨marked, described, pending, outcome⟩
  · rw [same]
    exact .refl _
  · obtain ⟨rx, tx, latest⟩ :=
      ctx.toParticipant.markInstalled_latest directions
        (if lowestPn ≠ 0 then lowestPn else 1)
    rw [← described] at latest
    have due : ctx.latestSak.lifecycleState = .candidate ∨
        ctx.latestSak.lifecycleState = .distributed ∨
        ctx.latestSak.lifecycleState = .installPending :=
      Or.inr (Or.inr pending)
    have counters : marked.counters = ctx.counters := by
      rw [described]
      rfl
    have peer : marked.peer = ctx.peer := by
      rw [described]
      rfl
    rcases outcome with ⟨-, result⟩ | ⟨-, result⟩
    · rw [result]
      refine .advance ?_ due (Or.inl ?_) counters peer
      · dsimp only
        rw [Sak.Advances, latest]
      · dsimp only
        rw [latest]
        exact pending
    · rw [result]
      refine .advance ?_ due (Or.inr ?_) counters peer
      · dsimp only [Participant.installed]
        rw [Sak.Advances, latest]
      · dsimp only [Participant.installed]
        split
        next => exact Or.inr rfl
        next => exact Or.inl rfl

/-- Every call makes one of the moves. -/
theorem perform_move (inv : ctx.toParticipant.Inv) (call : Call) :
    Move aes ctx call (perform aes ctx call).1.toParticipant := by
  cases call with
  | input frame rnd nowMs => exact move_input frame rnd nowMs
  | tick nowMs =>
      obtain ⟨expired, events, reasons, which, -, result⟩ :=
        Participant.tick_cases inv nowMs
      change Move aes ctx _ (ctx.toParticipant.tick nowMs).2
      rw [result]
      rcases which with ⟨-, rfl⟩ | ⟨-, rfl⟩
      · exact .rest rfl rfl (Or.inl rfl)
      · exact .rest rfl rfl (Or.inr rfl)
  | takeEvents => exact .rest rfl rfl (Or.inl rfl)
  | buildTxFrame rnd frameMaxLen => exact move_buildTxFrame rnd frameMaxLen
  | notifyTxSuccess txMeta nowMs => exact move_notifyTxSuccess txMeta nowMs
  | notifyTxFailure txMeta => exact .rest rfl rfl (Or.inl rfl)
  | takeSakForInstall => exact move_takeSakForInstall inv
  | notifySakInstalled keyNumber an directions lowestPn =>
      exact move_notifySakInstalled inv keyNumber an directions lowestPn
  | notifySakRetired keyNumber an =>
      change Move aes ctx _
        (ctx.toParticipant.notifySakRetired keyNumber an).2
      rcases ctx.toParticipant.notifySakRetired_cases inv.old keyNumber an with
        same | ⟨-, result⟩
      · rw [same]
        exact .refl _
      · rw [result]
        exact .rest rfl rfl (Or.inl rfl)

end Mka

end Macsec
