import Macsec.Mka.Reception

/-!
# Scheduling transmissions

Whatever happens to a participant, apart from the report of a transmission, only
adds reasons to transmit, and all of them are known ones.
-/

namespace Macsec

namespace Mka

/-- No unknown reason is among the given ones. -/
def TxReason.Known (reasons : UInt32) : Prop :=
  hasFlag reasons (~~~TxReason.all) = false

theorem TxReason.known_zero : TxReason.Known 0 := hasFlag_zero _

theorem TxReason.Known.union {first second : UInt32}
    (knownFirst : TxReason.Known first) (knownSecond : TxReason.Known second) :
    TxReason.Known (first ||| second) := by
  rw [TxReason.Known, hasFlag_or, knownFirst, knownSecond]
  rfl

/-- A part of known reasons is known. -/
theorem TxReason.Known.inter {reasons : UInt32}
    (known : TxReason.Known reasons) (mask : UInt32) :
    TxReason.Known (reasons &&& mask) := by
  have split :
      reasons &&& mask &&& ~~~TxReason.all =
        reasons &&& ~~~TxReason.all &&& mask := by
    rw [UInt32.and_assoc, UInt32.and_comm mask, ← UInt32.and_assoc]
  simp only [TxReason.Known, hasFlag, bne_eq_false_iff_eq] at known ⊢
  rw [split, known, UInt32.zero_and]

namespace Participant

/-- Between two states only known reasons to transmit are added. -/
def Schedules (before after : Participant) : Prop :=
  ∃ reasons, TxReason.Known reasons ∧
    after.txReasons = before.txReasons ||| reasons

namespace Schedules

variable {first second third : Participant}

theorem of_eq (same : second.txReasons = first.txReasons) :
    first.Schedules second :=
  ⟨0, TxReason.known_zero, by rw [same, UInt32.or_zero]⟩

theorem trans (toSecond : first.Schedules second)
    (toThird : second.Schedules third) : first.Schedules third := by
  obtain ⟨reasons, known, result⟩ := toSecond
  obtain ⟨more, knownMore, resultMore⟩ := toThird
  exact ⟨reasons ||| more, known.union knownMore, by
    rw [resultMore, result, UInt32.or_assoc]⟩

theorem known (schedules : first.Schedules second)
    (known : TxReason.Known first.txReasons) :
    TxReason.Known second.txReasons := by
  obtain ⟨reasons, knownReasons, result⟩ := schedules
  rw [result]
  exact known.union knownReasons

/-- What is due stays due. -/
theorem due (schedules : first.Schedules second)
    (due : first.txReasons ≠ 0) : second.txReasons ≠ 0 := by
  obtain ⟨reasons, -, result⟩ := schedules
  rw [result]
  exact fun none => due (UInt32.or_eq_zero_iff.mp none).1

end Schedules

variable {ctx : Participant}

theorem txReasons_setState (newState : State) :
    (ctx.setState newState).txReasons = ctx.txReasons := by
  unfold setState
  split_ifs
  all_goals rfl

theorem txReasons_setLatestState (newState : SakState) :
    (ctx.setLatestState newState).txReasons = ctx.txReasons := by
  unfold setLatestState
  split_ifs
  · rfl
  · exact txReasons_setState _
  · rfl

theorem txReasons_setOldState (newState : SakState) :
    (ctx.setOldState newState).txReasons = ctx.txReasons := by
  unfold setOldState
  split_ifs
  · rfl
  · exact txReasons_setState _
  · rfl

theorem txReasons_moveLatestToOld :
    ctx.moveLatestToOld.2.txReasons = ctx.txReasons := by
  unfold moveLatestToOld
  split_ifs
  · rfl
  · rfl
  · rfl
  · dsimp only
    split_ifs
    all_goals exact txReasons_setOldState _

/-- Generating a SAK schedules its distribution. -/
theorem schedules_keyServerEnsureSak (rnd : Octets 16) :
    ctx.Schedules (ctx.keyServerEnsureSak rnd).2 := by
  unfold keyServerEnsureSak
  split_ifs
  · exact .of_eq rfl
  · exact .of_eq rfl
  · exact .of_eq rfl
  · exact .of_eq rfl
  · refine ⟨TxReason.distributeSak, rfl, ?_⟩
    change (setLatestState _ _).txReasons ||| _ = _
    rw [txReasons_setLatestState, txReasons_setLatestState]

theorem schedules_announceRekey : ctx.Schedules ctx.announceRekey := by
  have announced :
      ctx.Schedules
        ((ctx.raiseEvents EventFlag.rekeyRequired).scheduleTx
          (TxReason.rekey ||| TxReason.peerChange)) :=
    ⟨TxReason.rekey ||| TxReason.peerChange, rfl, rfl⟩
  unfold announceRekey
  dsimp only
  split
  next => exact announced.trans ⟨TxReason.distributeSak, rfl, rfl⟩
  next => exact announced

theorem schedules_startRekey (rnd : Octets 16) :
    ctx.Schedules (ctx.startRekey rnd).2 := by
  have freeing :
      ctx.Schedules
        (if ctx.latestSak.lifecycleState ≠ .none then ctx.moveLatestToOld
          else (.ok, ctx)).2 := by
    split
    next => exact .of_eq txReasons_moveLatestToOld
    next => exact .of_eq rfl
  have ensuring (freed : Participant) (ready : ctx.Schedules freed) :
      ctx.Schedules
        (if freed.peer.valid && freed.peer.live then
          freed.keyServerEnsureSak rnd else (.ok, freed)).2 := by
    split
    next => exact ready.trans (schedules_keyServerEnsureSak rnd)
    next => exact ready
  unfold startRekey
  split
  next => exact .of_eq rfl
  next =>
      split
      next => exact .of_eq rfl
      next =>
          split
          next freed result =>
              rw [result] at freeing
              have ensured := ensuring freed freeing
              split
              next generated result =>
                  rw [result] at ensured
                  exact ensured.trans schedules_announceRekey
              next ret generated failed result =>
                  rw [result] at ensured
                  exact ensured
          next ret freed failed result =>
              rw [result] at freeing
              exact freeing

theorem schedules_rekeyForPeer (identityChanged : Bool) (rnd : Octets 16) :
    ctx.Schedules (ctx.rekeyForPeer identityChanged rnd).2 := by
  unfold rekeyForPeer
  split_ifs
  · exact schedules_startRekey rnd
  · exact .of_eq rfl

theorem txReasons_parseDistributedSak (found : Except Err DistributedSak) :
    (ctx.parseDistributedSak found).2.txReasons = ctx.txReasons := by
  have adopt (freed : Participant) (found : DistributedSak) :
      (({ freed with latestSak := found.toSak }).setLatestState
        .candidate).txReasons = freed.txReasons :=
    txReasons_setLatestState _
  unfold parseDistributedSak adoptDistributedSak
  split
  next => rfl
  next found =>
      split_ifs
      · rfl
      · have moved := @txReasons_moveLatestToOld ctx
        revert moved
        rcases ctx.moveLatestToOld with ⟨ret, freed⟩
        intro moved
        cases ret with
        | ok => exact (adopt freed found).trans moved
        | param | buffer | crypto | state | replay | unsupported | auth
        | timeout | notReady | busy => exact moved
      · exact adopt ctx found

theorem txReasons_parseSakUse (found : Except Err SakUse) :
    (ctx.parseSakUse found).2.txReasons = ctx.txReasons := by
  have confirmed (other : Participant) :
      other.raiseConfirmed.txReasons = other.txReasons := by
    unfold raiseConfirmed
    dsimp only
    split
    all_goals rfl
  unfold parseSakUse confirmSak
  split
  next => rfl
  next =>
      dsimp only
      split_ifs
      · exact txReasons_setLatestState _
      · exact (confirmed _).trans (txReasons_setLatestState _)
      · rfl
      · exact txReasons_setLatestState _
      · rfl
      · rfl

theorem schedules_announceIf (condition : Bool) (events : UInt32)
    {reasons : UInt32} (known : TxReason.Known reasons) :
    ctx.Schedules (ctx.announceIf condition events reasons) := by
  unfold announceIf
  split_ifs
  · exact ⟨reasons, known, rfl⟩
  · exact .of_eq rfl

theorem schedules_announceInput
    (identityChanged becameLive becameNotLive keyServerChanged : Bool) :
    ctx.Schedules
      (ctx.announceInput identityChanged becameLive becameNotLive
        keyServerChanged) := by
  have peerChange : TxReason.Known TxReason.peerChange := rfl
  have keyServerChange : TxReason.Known TxReason.keyServerChange := rfl
  exact (((schedules_announceIf _ _ peerChange).trans
    (schedules_announceIf _ _ peerChange)).trans
      (schedules_announceIf _ _ peerChange)).trans
        (schedules_announceIf _ _ keyServerChange)

/-- Processing an MKPDU only schedules transmissions. -/
theorem schedules_processMkpdu (inv : ctx.Inv) (pdu : Mkpdu)
    (rnd : Octets 16) (nowMs : UInt32) :
    ctx.Schedules (ctx.processMkpdu pdu rnd nowMs).2 := by
  have introduced : ctx.Schedules (ctx.introduced pdu nowMs) :=
    .of_eq (txReasons_parseDistributedSak pdu.distributedSak)
  have prepared : ctx.Schedules (ctx.prepared pdu rnd nowMs) :=
    introduced.trans (schedules_rekeyForPeer _ rnd)
  have reported :
      ctx.Schedules
        ((ctx.prepared pdu rnd nowMs).parseSakUse pdu.sakUse).2 :=
    prepared.trans (.of_eq (txReasons_parseSakUse pdu.sakUse))
  rw [ctx.processMkpdu_eq inv pdu rnd nowMs]
  dsimp only
  split_ifs
  · exact .of_eq rfl
  · exact reported
  · exact reported.trans (schedules_announceInput _ _ _ _)

/-- So does a received frame. -/
theorem schedules_receive (inv : ctx.Inv) (received : Received)
    (rnd : Octets 16) (nowMs : UInt32) :
    ctx.Schedules (ctx.receive received rnd nowMs).2 := by
  cases received with
  | rejected ret => exact .of_eq rfl
  | own => exact .of_eq rfl
  | accepted pdu => exact schedules_processMkpdu inv pdu rnd nowMs

/-- So does a tick. -/
theorem schedules_tick (nowMs : UInt32) :
    ctx.Schedules (ctx.tick nowMs).2 := by
  have expired :
      ctx.Schedules ({ ctx with lastTickMs := nowMs }.expirePeer nowMs) := by
    unfold expirePeer
    split
    next =>
        refine ⟨TxReason.peerChange, rfl, ?_⟩
        exact congrArg (· ||| TxReason.peerChange) (txReasons_setState _)
    next => exact .of_eq rfl
  unfold tick
  dsimp only
  split_ifs
  · exact expired
  · exact expired.trans ⟨TxReason.initial, rfl, rfl⟩
  · exact expired.trans ⟨TxReason.periodic, rfl, rfl⟩
  · exact expired

/-- So does the generation of a SAK before a frame is built. -/
theorem schedules_ensureForTx (rnd : Octets 16) :
    ctx.Schedules (ctx.ensureForTx rnd).2 := by
  unfold ensureForTx
  split
  next => exact schedules_keyServerEnsureSak rnd
  next => exact .of_eq rfl

end Participant

end Mka

end Macsec
