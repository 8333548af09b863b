import Macsec.Mka.Scripts
import Macsec.Mka.Schedule
import Macsec.Mka.Displacement

/-!
# Transmit reasons

A call schedules reasons by adding them to the pending ones, and which reasons
it schedules does not depend on what is pending already, apart from the next
regular transmission.  Only the report that a frame was transmitted clears
reasons: all that were pending when the frame was built, including those that
were scheduled again in the meantime.
-/

namespace Macsec

namespace Mka

/-- What is scheduled in any case is what remains if nothing was pending. -/
theorem added_of_exists {left : UInt32 → UInt32}
    (added : ∃ reasons, ∀ pending, left pending = pending ||| reasons)
    (pending : UInt32) : left pending = pending ||| left 0 := by
  obtain ⟨reasons, result⟩ := added
  rw [result, result 0, UInt32.zero_or]

namespace Participant

variable {ctx : Participant} {pdu : Mkpdu}

/-! ## Reasons that do not depend on the pending ones -/

/-- The participant with given reasons pending. -/
def pendingOn (ctx : Participant) (reasons : UInt32) : Participant :=
  { ctx with txReasons := reasons }

theorem latestSak_pendingOn (reasons : UInt32) :
    (ctx.pendingOn reasons).latestSak = ctx.latestSak := rfl

theorem Inv.pendingOn (inv : ctx.Inv) (reasons : UInt32) :
    (ctx.pendingOn reasons).Inv :=
  ⟨inv.slots, inv.peer, inv.nextKeyNumber, inv.noError⟩

/-- A rekey for a new peer displaces the latest SAK while an MKPDU is
processed. -/
def RekeysFor (ctx : Participant) (pdu : Mkpdu) : Prop :=
  ctx.ServesNewPeer pdu ∧
    (ctx.Distributes pdu → ctx.slots.superseded.lifecycleState = .none) ∧
    ctx.oldSak.lifecycleState = .none ∧
    (ctx.Distributes pdu ∨ ctx.latestSak.lifecycleState ≠ .none)

theorem rekeysFor_iff (inv : ctx.Inv) (takes : ctx.Takes pdu)
    (nowMs : UInt32) :
    ctx.RekeysFor pdu ↔
      (ctx.peerIdentityChanged pdu.basic &&
          (ctx.introduced pdu nowMs).localKeyServer &&
          (ctx.introduced pdu nowMs).latestSak.lifecycleState != .none) =
        true ∧
      (ctx.introduced pdu nowMs).oldSak.lifecycleState = .none := by
  have wins : (ctx.introduced pdu nowMs).localKeyServer = true ↔
      ctx.keyServerPriority < pdu.basic.keyServerPriority := by
    rw [ctx.introduced_sameRest inv pdu nowMs]
    exact decide_eq_true_iff
  rw [Bool.and_eq_true, Bool.and_eq_true, wins, bne_iff_ne, RekeysFor,
    ServesNewPeer]
  have latest : (ctx.introduced pdu nowMs).latestSak =
      (ctx.introduced pdu nowMs).slots.latest := rfl
  have old : (ctx.introduced pdu nowMs).oldSak =
      (ctx.introduced pdu nowMs).slots.old := rfl
  rcases ctx.introduced_slots inv takes nowMs with
    ⟨silent, slots⟩ | ⟨found, scan, different, -, slots⟩
  · rw [latest, old, slots]
    simp only [silent, false_implies, false_or, true_and]
    tauto
  · rw [latest, old, slots]
    have distributes : ctx.Distributes pdu := ⟨found, scan, different⟩
    have present : found.candidate.lifecycleState ≠ .none :=
      SakState.noConfusion
    simp only [distributes, true_implies, true_or, and_true, present,
      ne_eq, not_false_eq_true]
    refine ⟨fun ⟨serves, free, _⟩ => ⟨serves, free⟩,
      fun ⟨serves, free⟩ => ⟨serves, free, ?_⟩⟩
    have same := free_of_superseded free
    exact same ▸ free

/-- A rekey schedules its reasons, and nothing else does before the SAK Use of
an MKPDU is processed. -/
theorem txReasons_prepared (inv : ctx.Inv) (takes : ctx.Takes pdu)
    (rnd : Octets 16) (nowMs : UInt32) :
    (¬ctx.RekeysFor pdu ∧
      (ctx.prepared pdu rnd nowMs).txReasons = ctx.txReasons) ∨
    (ctx.RekeysFor pdu ∧
      (ctx.prepared pdu rnd nowMs).txReasons =
        ctx.txReasons |||
          (ctx.met pdu.basic pdu.localSeen nowMs).rekeyReasons) := by
  have introduced :
      (ctx.introduced pdu nowMs).txReasons = ctx.txReasons :=
    txReasons_parseDistributedSak pdu.distributedSak
  have reasons :
      (ctx.introduced pdu nowMs).rekeyReasons =
        (ctx.met pdu.basic pdu.localSeen nowMs).rekeyReasons := by
    rw [ctx.introduced_sameRest inv pdu nowMs]
    rfl
  have met := (ctx.introduced_keeps inv pdu nowMs).inv
  rw [rekeysFor_iff inv takes nowMs, prepared, ← introduced, ← reasons]
  rcases (ctx.introduced pdu nowMs).rekeyForPeer_cases met
      (ctx.peerIdentityChanged pdu.basic) rnd with
    ⟨notDue, result⟩ | ⟨-, occupied, result⟩ | ⟨due, free, events, -, result⟩
  · rw [result, notDue]
    exact Or.inl ⟨fun due => Bool.false_ne_true due.1, rfl⟩
  · rw [result]
    exact Or.inl ⟨fun due => occupied due.2, rfl⟩
  · rw [result]
    exact Or.inr ⟨⟨due, free⟩, rfl⟩

/-- What the announcements after an MKPDU schedule. -/
theorem txReasons_announceInput
    (identityChanged becameLive keyServerChanged : Bool) :
    (ctx.announceInput identityChanged becameLive false
        keyServerChanged).txReasons =
      ctx.txReasons |||
        ((if identityChanged || becameLive then TxReason.peerChange else 0) |||
          if keyServerChanged then TxReason.keyServerChange else 0) := by
  rw [announceInput]
  simp only [announceIf_eq]
  cases identityChanged with
  | false | true =>
      cases becameLive with
      | false | true =>
          cases keyServerChanged with
          | false | true => simp [UInt32.or_assoc]

theorem cameToLife_pendingOn (inv : ctx.Inv) (pdu : Mkpdu) (nowMs : UInt32)
    (pending : UInt32) :
    (ctx.pendingOn pending).cameToLife pdu nowMs =
      ctx.cameToLife pdu nowMs := by
  unfold cameToLife
  rw [ctx.introduced_sameRest inv pdu nowMs,
    (ctx.pendingOn pending).introduced_sameRest (inv.pendingOn pending) pdu
      nowMs]
  rfl

theorem electionFlipped_pendingOn (inv : ctx.Inv) (pdu : Mkpdu)
    (nowMs : UInt32) (pending : UInt32) :
    (ctx.pendingOn pending).electionFlipped pdu nowMs =
      ctx.electionFlipped pdu nowMs := by
  unfold electionFlipped
  rw [ctx.introduced_sameRest inv pdu nowMs,
    (ctx.pendingOn pending).introduced_sameRest (inv.pendingOn pending) pdu
      nowMs]
  rfl

/-- An MKPDU schedules the same reasons whatever is pending. -/
theorem exists_reasons_processMkpdu (inv : ctx.Inv) (pdu : Mkpdu)
    (rnd : Octets 16) (nowMs : UInt32) :
    ∃ reasons, ∀ pending,
      ((ctx.pendingOn pending).processMkpdu pdu rnd nowMs).2.txReasons =
        pending ||| reasons := by
  have known (pending : UInt32) := inv.pendingOn pending
  by_cases takes : ctx.Takes pdu
  · obtain ⟨reasons, prepared⟩ :
        ∃ reasons, ∀ pending,
          ((ctx.pendingOn pending).prepared pdu rnd nowMs).txReasons =
            pending ||| reasons := by
      by_cases rekeys : ctx.RekeysFor pdu
      · refine ⟨(ctx.met pdu.basic pdu.localSeen nowMs).rekeyReasons,
          fun pending => ?_⟩
        rcases txReasons_prepared (known pending) takes rnd nowMs with
          ⟨idle, -⟩ | ⟨-, result⟩
        · exact absurd rekeys idle
        · exact result
      · refine ⟨0, fun pending => ?_⟩
        rcases txReasons_prepared (known pending) takes rnd nowMs with
          ⟨-, result⟩ | ⟨due, -⟩
        · rw [result, UInt32.or_zero]
          rfl
        · exact absurd due rekeys
    cases fails : scanFails pdu.sakUse with
    | true =>
        refine ⟨reasons, fun pending => ?_⟩
        rcases (ctx.pendingOn pending).processMkpdu_outcome (known pending) pdu
            rnd nowMs with
          ⟨refused, -⟩ | ⟨-, -, -, result⟩ | ⟨-, succeeds, -⟩
        · exact absurd takes refused
        · rw [result, prepared]
        · rw [fails] at succeeds
          exact Bool.noConfusion succeeds
    | false =>
        refine ⟨reasons |||
          ((if ctx.peerIdentityChanged pdu.basic || ctx.cameToLife pdu nowMs
            then TxReason.peerChange else 0) |||
          if ctx.electionFlipped pdu nowMs then TxReason.keyServerChange
            else 0), fun pending => ?_⟩
        rcases (ctx.pendingOn pending).processMkpdu_outcome (known pending) pdu
            rnd nowMs with
          ⟨refused, -⟩ | ⟨-, failed, -⟩ | ⟨-, -, result⟩
        · exact absurd takes refused
        · rw [fails] at failed
          exact Bool.noConfusion failed
        · rw [result]
          change (announceInput _ _ _ false _).txReasons = _
          rw [txReasons_announceInput, txReasons_parseSakUse, prepared,
            cameToLife_pendingOn inv, electionFlipped_pendingOn inv,
            UInt32.or_assoc]
          rfl
  · refine ⟨0, fun pending => ?_⟩
    rcases (ctx.pendingOn pending).processMkpdu_outcome (known pending) pdu rnd
        nowMs with
      ⟨-, -, result⟩ | ⟨taken, -⟩ | ⟨taken, -⟩
    · rw [result, UInt32.or_zero]
      rfl
    · exact absurd taken takes
    · exact absurd taken takes

/-- A received frame schedules the same reasons whatever is pending. -/
theorem txReasons_receive (inv : ctx.Inv) (received : Received)
    (rnd : Octets 16) (nowMs : UInt32) :
    (ctx.receive received rnd nowMs).2.txReasons =
      ctx.txReasons |||
        ((ctx.pendingOn 0).receive received rnd nowMs).2.txReasons := by
  cases received with
  | rejected ret => exact UInt32.or_zero.symm
  | own => exact UInt32.or_zero.symm
  | accepted pdu =>
      exact added_of_exists (exists_reasons_processMkpdu inv pdu rnd nowMs) _

/-- What a tick schedules: a frame for a silent peer, or a regular one if it is
time and none is due. -/
def tickReasons (ctx : Participant) (nowMs : UInt32) : UInt32 :=
  if ctx.Expires nowMs then TxReason.peerChange
  else if ctx.txReasons ≠ 0 then 0
  else if ctx.lastTxMs = 0 then TxReason.initial
  else if nowMs - ctx.lastTxMs ≥ ctx.txIntervalMs then TxReason.periodic
  else 0

theorem txReasons_tick (nowMs : UInt32) :
    (ctx.tick nowMs).2.txReasons =
      ctx.txReasons ||| ctx.tickReasons nowMs := by
  unfold tick expirePeer tickReasons
  by_cases expires : ctx.Expires nowMs
  · have due (reasons : UInt32) : reasons ||| TxReason.peerChange ≠ 0 :=
      fun none => absurd (UInt32.or_eq_zero_iff.mp none).2 (by decide)
    rw [if_pos expires]
    unfold Expires at expires
    simp only [expires, and_self, if_true, scheduleTx, raiseEvents,
      txReasons_setState, due, ne_eq, not_false_eq_true]
  · rw [if_neg expires]
    unfold Expires at expires
    simp only [expires, if_false]
    split_ifs
    all_goals simp [scheduleTx, raiseEvents]

/-- The participant once installed directions are recorded. -/
def installing (ctx : Participant) (directions : UInt8) (lowestPn : UInt32) :
    Participant :=
  ctx.markInstalled directions (if lowestPn ≠ 0 then lowestPn else 1)

/-- Completing an installation schedules the SAK Use. -/
theorem exists_reasons_notifySakInstalled (inv : ctx.Inv) (keyNumber : UInt32)
    (an : Fin 4) (directions : UInt8) (lowestPn : UInt32) :
    ∃ reasons, ∀ pending,
      ((ctx.pendingOn pending).notifySakInstalled keyNumber an directions
        lowestPn).2.txReasons = pending ||| reasons := by
  have refused
      (none : ∀ pending,
        ((ctx.pendingOn pending).notifySakInstalled keyNumber an directions
          lowestPn).2 = ctx.pendingOn pending) :
      ∃ reasons, ∀ pending,
        ((ctx.pendingOn pending).notifySakInstalled keyNumber an directions
          lowestPn).2.txReasons = pending ||| reasons := by
    refine ⟨0, fun pending => ?_⟩
    rw [none, UInt32.or_zero]
    rfl
  by_cases absent : ctx.latestSak.lifecycleState = .none
  · apply refused
    intro pending
    simp [notifySakInstalled, pendingOn, absent]
  · by_cases waiting : ctx.latestSak.lifecycleState = .installPending
    · by_cases named :
          ctx.latestSak.keyNumber = keyNumber ∧ ctx.latestSak.an = an
      · by_cases unknown :
            directions = 0 ∨ directions &&& ~~~(installRx ||| installTx) ≠ 0
        · apply refused
          intro pending
          simp [notifySakInstalled, pendingOn, waiting, named, unknown]
        · have accepted (pending : UInt32) :
              (ctx.pendingOn pending).notifySakInstalled keyNumber an
                  directions lowestPn =
                (if !(ctx.installing directions lowestPn).latestSak.rxInstalled ||
                    !(ctx.installing directions lowestPn).latestSak.txInstalled
                  then (.ok, (ctx.pendingOn pending).installing directions
                    lowestPn)
                else ((ctx.pendingOn pending).installing directions
                  lowestPn).completeInstall) := by
            rw [notifySakInstalled, latestSak_pendingOn, if_neg absent,
              if_neg (not_not_intro waiting), if_neg (not_not_intro named.1),
              if_neg (not_not_intro named.2), if_neg unknown]
            rfl
          cases both :
              !(ctx.installing directions lowestPn).latestSak.rxInstalled ||
                !(ctx.installing directions lowestPn).latestSak.txInstalled with
          | true =>
              refine ⟨0, fun pending => ?_⟩
              rw [accepted, both, if_pos rfl, UInt32.or_zero]
              rfl
          | false =>
              refine ⟨TxReason.sakUse, fun pending => ?_⟩
              have lifecycle :
                  ((ctx.pendingOn pending).installing directions
                    lowestPn).latestSak.lifecycleState = .installPending := by
                obtain ⟨rx, tx, latest⟩ :=
                  (ctx.pendingOn pending).markInstalled_latest directions
                    (if lowestPn ≠ 0 then lowestPn else 1)
                rw [installing, latest]
                exact waiting
              have peer :
                  PeerShape
                    ((ctx.pendingOn pending).installing directions
                      lowestPn).state
                    ((ctx.pendingOn pending).installing directions
                      lowestPn).peer := inv.peer
              rw [accepted, both, if_neg Bool.false_ne_true,
                completeInstall_eq peer lifecycle]
              rfl
      · apply refused
        intro pending
        rw [not_and_or] at named
        rcases named with number | association
        · simp [notifySakInstalled, pendingOn, waiting, number]
        · simp [notifySakInstalled, pendingOn, waiting, association]
    · apply refused
      intro pending
      simp [notifySakInstalled, pendingOn, absent, waiting]

/-- A SAK that is due before a frame is built schedules its distribution. -/
theorem exists_reasons_ensureForTx (rnd : Octets 16) :
    ∃ reasons, ∀ pending,
      ((ctx.pendingOn pending).ensureForTx rnd).2.txReasons =
        pending ||| reasons := by
  by_cases due :
      ctx.localKeyServer = true ∧ (ctx.peer.valid && ctx.peer.live) = true ∧
        ctx.latestSak.lifecycleState = .none
  · refine ⟨TxReason.distributeSak, fun pending => ?_⟩
    obtain ⟨server, live, absent⟩ := due
    have generated :=
      @keyServerEnsureSak_of_none (ctx.pendingOn pending) server live absent rnd
    rw [ensureForTx, if_pos, generated]
    · rfl
    · rw [Bool.and_assoc, Bool.and_eq_true]
      exact ⟨server, live⟩
  · refine ⟨0, fun pending => ?_⟩
    rcases (ctx.pendingOn pending).ensureForTx_cases rnd with
      same | ⟨server, live, absent, -⟩
    · rw [same, UInt32.or_zero]
      rfl
    · exact absurd ⟨server, live, absent⟩ due

/-! ## Reports -/

/-- The reports of a transmission that are accepted. -/
def TakesReport (ctx : Participant) (txMeta : TxMeta) : Prop :=
  txMeta.messageNumber = ctx.localMn ∧ txMeta.reasons ≠ 0 ∧
    txMeta.reasons &&& ~~~TxReason.all = 0 ∧
    (txMeta.containsDistributedSak = true →
      sakDistributable ctx.latestSak = true ∧
        ctx.latestSak.origin = .localKeyServer ∧
        ctx.latestSak.keyNumber = txMeta.distributedKeyNumber ∧
        ctx.latestSak.an = txMeta.distributedAn)

instance (ctx : Participant) (txMeta : TxMeta) :
    Decidable (ctx.TakesReport txMeta) := by
  unfold TakesReport
  infer_instance

theorem notifyDistributed_ok_iff (txMeta : TxMeta) :
    (ctx.notifyDistributed txMeta).1 = .ok ↔
      (txMeta.containsDistributedSak = true →
        sakDistributable ctx.latestSak = true ∧
          ctx.latestSak.origin = .localKeyServer ∧
          ctx.latestSak.keyNumber = txMeta.distributedKeyNumber ∧
          ctx.latestSak.an = txMeta.distributedAn) := by
  unfold notifyDistributed
  cases contains : txMeta.containsDistributedSak with
  | false => simp
  | true =>
      rw [if_neg (by decide)]
      simp only [true_implies]
      split
      next differs =>
          refine iff_of_false Err.noConfusion fun same => ?_
          simp [same] at differs
      next same =>
          simp only [Bool.or_eq_true, not_or, Bool.not_eq_true',
            Bool.not_eq_false, bne_iff_ne, ne_eq, not_not] at same
          refine iff_of_true ?_ ⟨same.1.1.1, same.1.1.2, same.1.2, same.2⟩
          split
          next pending =>
              rw [commitDistribution,
                setLatestState_of_allowed (by rw [pending]; rfl)]
              rfl
          next => rfl

theorem notifyTxSuccess_ok_iff (txMeta : TxMeta) (nowMs : UInt32) :
    (ctx.notifyTxSuccess txMeta nowMs).1 = .ok ↔ ctx.TakesReport txMeta := by
  rw [TakesReport, ← notifyDistributed_ok_iff, notifyTxSuccess]
  split
  next other => exact iff_of_false Err.noConfusion fun same => other same.1
  next same =>
      split
      next none =>
          exact iff_of_false Err.noConfusion fun some => some.2.1 none
      next some =>
          split
          next unknown =>
              exact iff_of_false Err.noConfusion fun known =>
                unknown known.2.2.1
          next known =>
              rw [not_not] at same known
              rcases ctx.notifyDistributed txMeta with ⟨ret, after⟩
              cases ret with
              | ok => exact iff_of_true rfl ⟨same, some, known, rfl⟩
              | param | buffer | crypto | state | replay | unsupported | auth
              | timeout | notReady | busy =>
                  exact iff_of_false Err.noConfusion fun accepted =>
                    Err.noConfusion accepted.2.2.2

/-- An accepted report settles the reasons it names. -/
theorem txReasons_notifyTxSuccess (txMeta : TxMeta) (nowMs : UInt32) :
    (ctx.notifyTxSuccess txMeta nowMs).2.txReasons =
      ctx.txReasons &&&
        ~~~(if ctx.TakesReport txMeta then txMeta.reasons else 0) := by
  have accepted := ctx.notifyTxSuccess_ok_iff txMeta nowMs
  rcases ctx.notifyTxSuccess_cases txMeta nowMs with
    ⟨refused, same⟩ | ⟨-, -, result⟩
  · rw [same, if_neg (mt accepted.mpr refused)]
    simp
  · rw [result] at accepted
    rw [result, if_pos (accepted.mp rfl)]
    change (ctx.notifyDistributed txMeta).2.txReasons &&& _ = _
    rcases ctx.notifyDistributed_cases txMeta with
      same | ⟨-, -, -, -, -, distributed⟩
    · rw [same]
    · rw [distributed]
      rfl

end Participant

/-! ## Single reasons -/

/-- The reasons to transmit. -/
def TxReason.flags : List UInt32 :=
  [initial, periodic, peerChange, keyServerChange, distributeSak, sakUse, rekey]

/-- Every reason is a single bit. -/
theorem TxReason.exists_bit {reason : UInt32}
    (member : reason ∈ TxReason.flags) :
    ∃ bit < 32, reason.toBitVec = BitVec.twoPow 32 bit := by
  simp only [flags, List.mem_cons, List.not_mem_nil, or_false] at member
  rcases member with rfl | rfl | rfl | rfl | rfl | rfl | rfl
  · exact ⟨0, by decide, by decide⟩
  · exact ⟨1, by decide, by decide⟩
  · exact ⟨2, by decide, by decide⟩
  · exact ⟨3, by decide, by decide⟩
  · exact ⟨4, by decide, by decide⟩
  · exact ⟨5, by decide, by decide⟩
  · exact ⟨6, by decide, by decide⟩

/-- A set of reasons contains a single one if its bit is set. -/
theorem hasFlag_of_bit {reason : UInt32} {bit : Nat} (bound : bit < 32)
    (single : reason.toBitVec = BitVec.twoPow 32 bit) (reasons : UInt32) :
    hasFlag reasons reason = reasons.toBitVec.getLsbD bit := by
  have masked :
      (reasons &&& reason).toBitVec =
        if reasons.toBitVec.getLsbD bit then BitVec.twoPow 32 bit
        else 0#32 := by
    rw [UInt32.toBitVec_and, single, BitVec.and_twoPow]
  have nonzero : BitVec.twoPow 32 bit ≠ 0#32 := by
    intro zero
    have value := congrArg BitVec.toNat zero
    rw [BitVec.toNat_twoPow_of_lt bound] at value
    exact absurd value (Nat.two_pow_pos bit).ne'
  rw [hasFlag, Bool.eq_iff_iff, bne_iff_ne, ne_eq, ← UInt32.toBitVec_inj,
    masked]
  cases reasons.toBitVec.getLsbD bit with
  | false => simp
  | true => simpa using nonzero

/-- Settled reasons are gone, and no others. -/
theorem hasFlag_and_not {reason : UInt32} (member : reason ∈ TxReason.flags)
    (reasons settled : UInt32) :
    hasFlag (reasons &&& ~~~settled) reason =
      (hasFlag reasons reason && !hasFlag settled reason) := by
  obtain ⟨bit, bound, single⟩ := TxReason.exists_bit member
  simp only [hasFlag_of_bit bound single, UInt32.toBitVec_and,
    UInt32.toBitVec_not, BitVec.getLsbD_and, BitVec.getLsbD_not, bound,
    decide_true, Bool.true_and]

/-! ## Calls -/

variable {aes : BlockCipher} {ctx : Ctx}

/-- The reasons that a call hands to `macsec_mka_schedule_tx`.  Receiving,
generating a SAK and completing an installation schedule what they leave if none
is pending. -/
def scheduled (aes : BlockCipher) (ctx : Ctx) : Call → UInt32
  | .input frame rnd nowMs =>
      ((ctx.toParticipant.pendingOn 0).receive (classify aes ctx frame) rnd
        nowMs).2.txReasons
  | .tick nowMs => ctx.toParticipant.tickReasons nowMs
  | .buildTxFrame rnd _ =>
      if ctx.crypto.keys.valid = true ∧ ctx.txReasons ≠ 0 ∧
          ctx.crypto.psk.ckn.length ≤ caNameMaxLen then
        ((ctx.toParticipant.pendingOn 0).ensureForTx rnd).2.txReasons
      else
        0
  | .notifySakInstalled keyNumber an directions lowestPn =>
      ((ctx.toParticipant.pendingOn 0).notifySakInstalled keyNumber an
        directions lowestPn).2.txReasons
  | _ => 0

/-- The reasons that the report of a failure makes pending again. -/
def Call.restored : Call → UInt32
  | .notifyTxFailure txMeta => txMeta.reasons
  | _ => 0

/-- The reasons that the accepted report of a success settles. -/
def Participant.settled (ctx : Participant) : Call → UInt32
  | .notifyTxSuccess txMeta _ =>
      if ctx.TakesReport txMeta then txMeta.reasons else 0
  | _ => 0

/-- Building a frame generates the SAK that is due, if it comes to that. -/
theorem buildTxFrame_generated (aes : BlockCipher) (ctx : Ctx)
    (rnd : Octets 16) (frameMaxLen : Nat) :
    (buildTxFrame aes ctx rnd frameMaxLen).2.1.toParticipant =
      if ctx.crypto.keys.valid = true ∧ ctx.txReasons ≠ 0 ∧
          ctx.crypto.psk.ckn.length ≤ caNameMaxLen then
        (ctx.toParticipant.ensureForTx rnd).2
      else
        ctx.toParticipant := by
  unfold buildTxFrame
  split
  next unkeyed => rw [if_neg fun reached => by simp [reached.1] at unkeyed]
  next keyed =>
      split
      next idle => rw [if_neg fun reached => reached.2.1 idle]
      next due =>
          split
          next long => rw [if_neg fun reached => by omega]
          next fits =>
              rw [if_pos ⟨by simpa using keyed, due, Nat.not_lt.mp fits⟩]
              rcases ctx.toParticipant.ensureForTx rnd with ⟨ret, participant⟩
              cases ret with
              | ok =>
                  dsimp only
                  split
                  next =>
                      split
                      next => rfl
                      next => rfl
                  next => rfl
              | param | buffer | crypto | state | replay | unsupported | auth
              | timeout | notReady | busy => rfl

/-- What every call does to the pending reasons. -/
theorem perform_txReasons (inv : ctx.toParticipant.Inv) (call : Call) :
    (perform aes ctx call).1.txReasons =
      (ctx.txReasons ||| (scheduled aes ctx call ||| call.restored)) &&&
        ~~~ctx.toParticipant.settled call := by
  have added {reasons more : UInt32} (same : reasons = ctx.txReasons ||| more) :
      reasons = (ctx.txReasons ||| (more ||| 0)) &&& ~~~0 := by
    simp [same]
  have kept {reasons : UInt32} (same : reasons = ctx.txReasons) :
      reasons = (ctx.txReasons ||| (0 ||| 0)) &&& ~~~0 := by
    simp [same]
  cases call with
  | input frame rnd nowMs =>
      apply added
      have received :=
        congrArg Prod.snd (input_receive aes ctx frame rnd nowMs)
      change (input aes ctx frame rnd nowMs).2.toParticipant.txReasons = _
      rw [show (input aes ctx frame rnd nowMs).2.toParticipant = _ from
        received]
      exact Participant.txReasons_receive inv _ rnd nowMs
  | tick nowMs =>
      exact added (ctx.toParticipant.txReasons_tick nowMs)
  | takeEvents => exact kept rfl
  | takeSakForInstall =>
      apply kept
      change ctx.toParticipant.takeSakForInstall.2.1.txReasons = _
      rcases Participant.takeSakForInstall_cases inv with
        ⟨-, result⟩ | ⟨-, result⟩
      · rw [result]
      · rw [result]
  | notifySakRetired keyNumber an =>
      apply kept
      change (ctx.toParticipant.notifySakRetired keyNumber an).2.txReasons = _
      rcases ctx.toParticipant.notifySakRetired_cases inv.old keyNumber an with
        same | ⟨-, result⟩
      · rw [same]
      · rw [result]
  | notifyTxFailure txMeta =>
      change ctx.txReasons ||| txMeta.reasons =
        (ctx.txReasons ||| (0 ||| txMeta.reasons)) &&& ~~~0
      simp
  | buildTxFrame rnd frameMaxLen =>
      apply added
      change (buildTxFrame aes ctx rnd frameMaxLen).2.1.toParticipant.txReasons
        = _
      rw [buildTxFrame_generated, scheduled]
      split
      next =>
          exact added_of_exists
            (ctx.toParticipant.exists_reasons_ensureForTx rnd) _
      next => exact UInt32.or_zero.symm
  | notifyTxSuccess txMeta nowMs =>
      change (ctx.toParticipant.notifyTxSuccess txMeta nowMs).2.txReasons =
        (ctx.txReasons ||| (0 ||| 0)) &&& _
      rw [Participant.txReasons_notifyTxSuccess]
      simp [Participant.settled]
  | notifySakInstalled keyNumber an directions lowestPn =>
      apply added
      exact added_of_exists
        (Participant.exists_reasons_notifySakInstalled inv keyNumber an
          directions lowestPn) _

/-! ## Runs -/

/-- A step that makes a reason pending. -/
def Raises (aes : BlockCipher) (reason : UInt32)
    (event : Transition.Event Ctx Call Err) : Prop :=
  hasFlag (scheduled aes event.before event.input) reason = true ∨
    hasFlag event.input.restored reason = true

/-- A step in which the success of a frame that carries a reason is reported and
accepted. -/
def Acknowledges (reason : UInt32) (event : Transition.Event Ctx Call Err) :
    Prop :=
  hasFlag (event.before.toParticipant.settled event.input) reason = true

/-- A step makes a reason pending, settles it or leaves it alone. -/
theorem pending_step (inv : ctx.toParticipant.Inv) {reason : UInt32}
    (member : reason ∈ TxReason.flags) (call : Call) :
    hasFlag (perform aes ctx call).1.txReasons reason = true ↔
      Raises aes reason ((machine aes).event ctx call) ∨
        (hasFlag ctx.txReasons reason = true ∧
          ¬Acknowledges reason ((machine aes).event ctx call)) := by
  have exclusive :
      hasFlag (ctx.toParticipant.settled call) reason = true →
        scheduled aes ctx call = 0 ∧ call.restored = 0 := by
    cases call with
    | notifyTxSuccess txMeta nowMs => exact fun _ => ⟨rfl, rfl⟩
    | input | tick | takeEvents | buildTxFrame | notifyTxFailure
    | takeSakForInstall | notifySakInstalled | notifySakRetired =>
        intro settled
        exact absurd ((hasFlag_zero reason).symm.trans settled)
          Bool.false_ne_true
  rw [perform_txReasons inv, hasFlag_and_not member, hasFlag_or, hasFlag_or]
  change _ ↔ (hasFlag (scheduled aes ctx call) reason = true ∨
    hasFlag call.restored reason = true) ∨ (hasFlag ctx.txReasons reason = true ∧
      ¬hasFlag (ctx.toParticipant.settled call) reason = true)
  cases settled : hasFlag (ctx.toParticipant.settled call) reason with
  | false => simp [or_comm]
  | true =>
      obtain ⟨none, nothing⟩ := exclusive settled
      simp [none, nothing]

/-- A reason that some step of a run raised is pending at the end unless it was
settled after it was last raised. -/
theorem pending_iff (inv : ctx.toParticipant.Inv) {reason : UInt32}
    (member : reason ∈ TxReason.flags) {calls : List Call}
    (raised : ∃ event ∈ (machine aes).events ctx calls,
      Raises aes reason event) :
    hasFlag ((machine aes).final ctx calls).txReasons reason = true ↔
      ∃ past event rest,
        (machine aes).events ctx calls = past ++ event :: rest ∧
          Raises aes reason event ∧
            ∀ later ∈ rest, ¬Acknowledges reason later := by
  have latch :=
    @Transition.Machine.latch_iff _ _ _ (machine aes)
      (fun ctx => ctx.toParticipant.Inv)
      (fun ctx => hasFlag ctx.txReasons reason = true) (Raises aes reason)
      (Acknowledges reason) (fun ctx call inv => perform_inv inv call)
      (fun ctx call inv => pending_step inv member call) ctx inv calls
  rw [latch]
  refine ⟨?_, Or.inl⟩
  rintro (kept | ⟨-, unsettled⟩)
  · exact kept
  · obtain ⟨event, happened, raises⟩ := raised
    obtain ⟨past, rest, split⟩ := List.append_of_mem happened
    refine ⟨past, event, rest, split, raises, fun later isLater => ?_⟩
    apply unsettled
    rw [split]
    exact List.mem_append_right past (List.mem_cons_of_mem event isLater)

/-- The frame that was built carries the reasons that were pending. -/
theorem reasons_of_built (inv : ctx.toParticipant.Inv)
    (keyed : ctx.crypto.Keyed) {rnd : Octets 16} {frameMaxLen : Nat}
    {after : Ctx} {frame : Bytes} {txMeta : TxMeta}
    (built :
      buildTxFrame aes ctx rnd frameMaxLen = (.ok, after, frame, txMeta)) :
    txMeta.reasons = after.txReasons := by
  rcases @buildTxFrame_cases aes ctx inv keyed rnd frameMaxLen with
    ⟨failed, -⟩ | ⟨-, -, -, other, -, result⟩
  · rw [built] at failed
    exact absurd rfl failed
  · rw [built, Prod.mk.injEq, Prod.mk.injEq, Prod.mk.injEq] at result
    obtain ⟨-, same, -, described⟩ := result
    rw [same, described]
    rfl

/-- A reason that is scheduled between the construction of a frame and the
report on it stays pending, if no other report settles it.  Only the accepted
report that the frame was transmitted settles it too, if the reason was pending
already when the frame was built. -/
theorem scheduled_reason_kept_iff {after : Ctx} (reachable : Reachable aes ctx)
    {rnd : Octets 16} {frameMaxLen : Nat} {frame : Bytes} {txMeta : TxMeta}
    (built :
      buildTxFrame aes ctx rnd frameMaxLen = (.ok, after, frame, txMeta))
    {between : List Call} {reason : UInt32}
    (member : reason ∈ TxReason.flags)
    (added : ∃ event ∈ (machine aes).events after between,
      hasFlag (scheduled aes event.before event.input) reason = true)
    (nowMs : UInt32) :
    let reached := (machine aes).final after between
    let kept := ∃ past event rest,
      (machine aes).events after between = past ++ event :: rest ∧
        Raises aes reason event ∧ ∀ later ∈ rest, ¬Acknowledges reason later
    (hasFlag (perform aes reached (.notifyTxSuccess txMeta nowMs)).1.txReasons
        reason = true ↔
      kept ∧ (hasFlag after.txReasons reason = true →
        ¬reached.toParticipant.TakesReport txMeta)) ∧
    (hasFlag (perform aes reached (.notifyTxFailure txMeta)).1.txReasons
        reason = true ↔
      kept ∨ hasFlag after.txReasons reason = true) := by
  intro reached kept
  have same : after = (perform aes ctx (.buildTxFrame rnd frameMaxLen)).1 :=
    (congrArg (fun result => result.2.1) built).symm
  have inv : after.toParticipant.Inv := same ▸ (reachable.perform _).inv
  have invReached : reached.toParticipant.Inv :=
    Transition.Machine.Reachable.invariant
      (fun state : Ctx => state.toParticipant.Inv) ⟨between, rfl⟩ inv
      fun state call inv => perform_inv inv call
  have pending : hasFlag reached.txReasons reason = true ↔ kept :=
    pending_iff inv member
      (added.imp fun event ⟨happened, scheduled⟩ =>
        ⟨happened, Or.inl scheduled⟩)
  have carried := reasons_of_built reachable.inv reachable.keyed.1 built
  rw [← carried, ← pending]
  constructor
  · rw [pending_step invReached member]
    by_cases takes : reached.toParticipant.TakesReport txMeta
    · simp [Raises, Acknowledges, Transition.Machine.event, scheduled,
        Call.restored, Participant.settled, takes]
    · simp [Raises, Acknowledges, Transition.Machine.event, scheduled,
        Call.restored, Participant.settled, takes]
  · rw [pending_step invReached member]
    simp [Raises, Acknowledges, Transition.Machine.event, scheduled,
      Call.restored, Participant.settled, or_comm]

/-- What a station schedules when it hears another one. -/
theorem StationPlays.scheduled_hear {state : Participant}
    (plays : StationPlays aes ctx state) {sender : Participant}
    (other : state.Other sender) (rnd : Octets 16) (nowMs : UInt32) :
    scheduled aes ctx (.input (stationFrame aes sender) rnd nowMs) =
      ((state.pendingOn 0).processMkpdu (state.heard stationCkn sender) rnd
        nowMs).2.txReasons := by
  obtain ⟨⟨icv, accepted⟩, -⟩ := StationPlays.hear plays other rnd nowMs
  rw [scheduled, accepted, plays.same]
  rfl

/-- A station that discovers its first peer while its first frame is sent
announces the peer afterwards. -/
theorem newcomer_reason_kept :
    ∃ (after : Ctx) (frame heard : Bytes) (txMeta : TxMeta),
      buildTxFrame BlockCipher.null (stationCtx BlockCipher.null 1 10 11)
          (sakOctets 1) maxFrameLen = (.ok, after, frame, txMeta) ∧
        hasFlag
          (perform BlockCipher.null
            (perform BlockCipher.null after
              (.input heard (sakOctets 2) 5)).1
            (.notifyTxSuccess txMeta 5)).1.txReasons
          TxReason.peerChange = true := by
  obtain ⟨frame, after, built, plays⟩ :=
    @StationPlays.build BlockCipher.null _ _
      (plays_stationCtx BlockCipher.null 1 10 11) (sakOctets 1) (by decide)
  have scheduled :=
    @StationPlays.scheduled_hear BlockCipher.null _ _ plays
      (newcomer 2 20 12) (by decide) (sakOctets 2) 5
  generalize stationFrame BlockCipher.null (newcomer 2 20 12) = heard
    at scheduled
  have raised :
      hasFlag
        (Mka.scheduled BlockCipher.null after
          (.input heard (sakOctets 2) 5)) TxReason.peerChange = true := by
    rw [scheduled]
    decide
  have fresh : hasFlag after.txReasons TxReason.peerChange = true → False := by
    rw [plays.same]
    decide
  refine ⟨after, frame, heard, _, built, ?_⟩
  have kept :=
    (@scheduled_reason_kept_iff BlockCipher.null _ after
      (reachable_stationCtx BlockCipher.null 1 10 11) _ _ _ _ built
      [.input heard (sakOctets 2) 5] TxReason.peerChange (by decide)
      ⟨_, List.mem_singleton_self _, raised⟩ 5).1
  refine kept.mpr ⟨⟨[], _, [], rfl, Or.inl raised, fun later none =>
    absurd none List.not_mem_nil⟩, fun pending => (fresh pending).elim⟩

/-- Under no cipher does every reason stay pending that is scheduled while a
frame is sent. -/
theorem not_forall_scheduled_reason_kept :
    ¬∃ aes, ∀ (ctx after : Ctx) (rnd : Octets 16) (frameMaxLen : Nat)
      (frame heard : Bytes) (txMeta : TxMeta) (reason nowMs : UInt32),
        Reachable aes ctx →
        buildTxFrame aes ctx rnd frameMaxLen = (.ok, after, frame, txMeta) →
        reason ∈ TxReason.flags →
        hasFlag (scheduled aes after (.input heard rnd nowMs)) reason = true →
          hasFlag
            (perform aes (perform aes after (.input heard rnd nowMs)).1
              (.notifyTxSuccess txMeta nowMs)).1.txReasons reason = true := by
  rintro ⟨aes, alwaysKept⟩
  obtain ⟨ctx, reachable, playsBefore⟩ :=
    @exists_final aes 1 10 11 [.hear (newcomer 2 20 12) (sakOctets 1) 5]
      (by decide)
  obtain ⟨frame, after, built, plays⟩ :=
    @StationPlays.build aes _ _ playsBefore (sakOctets 1) (by decide)
  have scheduled :=
    @StationPlays.scheduled_hear aes _ _ plays (newcomer 2 20 13) (by decide)
      (sakOctets 1) 5
  have heard :=
    @StationPlays.hear aes _ _ plays (newcomer 2 20 13) (by decide)
      (sakOctets 1) 5
  have kept :=
    alwaysKept ctx after (sakOctets 1) maxFrameLen frame _ _
      TxReason.peerChange 5
      reachable built (by decide) (by rw [scheduled]; decide)
  change hasFlag
    ((input aes after _ (sakOctets 1) 5).2.toParticipant.notifyTxSuccess _
      5).2.txReasons _ = true at kept
  rw [heard.2.2.same] at kept
  exact absurd kept (by decide)

end Mka

end Macsec
