import Macsec.Mka.Atomicity
import Macsec.Mka.Settings

/-!
# Repeated MKPDUs

An MKPDU that was processed says nothing new when it is delivered once more.
Only its Distributed SAK may be new again: a Key Server that rekeys for the
sender has displaced it by then.
-/

namespace Macsec

namespace Mka

namespace Participant

variable {ctx : Participant} {pdu : Mkpdu}

/-- The rekey for the sender of an MKPDU displaces the SAK that the MKPDU
distributes. -/
def Overrides (ctx : Participant) (pdu : Mkpdu) : Prop :=
  (∃ found, pdu.distributedSak = .ok found) ∧ ctx.ServesNewPeer pdu ∧
    ctx.oldSak.lifecycleState = .none ∧
    (ctx.Distributes pdu → ctx.slots.superseded.lifecycleState = .none)

/-! ## Reports -/

/-- A report says nothing new when it is repeated. -/
theorem reportedSak_reportedSak (sak : Sak) (report : SakUse) :
    reportedSak (reportedSak sak report) report = reportedSak sak report := by
  have settled (lifecycle : SakState) (both : Bool) :
      reportedLifecycle (reportedLifecycle lifecycle both) both =
        reportedLifecycle lifecycle both := by
    cases lifecycle with
    | none | candidate | distributionPending | distributed | installPending
    | active | confirmed | retiring =>
        cases both with
        | false | true => rfl
  simp only [reportedSak, settled]

/-- A report still applies once it was recorded. -/
theorem sakUseApplies_reported {after : Participant} {report : SakUse}
    (applies : ctx.sakUseApplies report = true)
    (same : after =
      { ctx with
        latestSak := reportedSak ctx.latestSak report
        pendingEvents := after.pendingEvents
        txReasons := after.txReasons }) :
    after.sakUseApplies report = true := by
  have states := lifecycle_of_sakUseApplies applies
  have kept :
      reportedLifecycle ctx.latestSak.lifecycleState
          (report.latestRx && report.latestTx) =
        ctx.latestSak.lifecycleState ∨
      reportedLifecycle ctx.latestSak.lifecycleState
          (report.latestRx && report.latestTx) = .active ∨
      reportedLifecycle ctx.latestSak.lifecycleState
          (report.latestRx && report.latestTx) = .confirmed := by
    unfold reportedLifecycle
    split_ifs
    all_goals simp
  rw [same]
  simp only [sakUseApplies, reportedSak, Bool.and_eq_true, Bool.or_eq_true,
    beq_iff_eq] at applies ⊢
  obtain ⟨⟨⟨⟨-, origin⟩, server⟩, keyNumber⟩, an⟩ := applies
  refine ⟨⟨⟨⟨?_, origin⟩, server⟩, keyNumber⟩, an⟩
  rcases kept with same | active | confirmed
  · rw [same]
    tauto
  · exact Or.inl (Or.inr active)
  · exact Or.inr confirmed

/-- Once a report was recorded it changes nothing. -/
theorem parseSakUse_again {after : Participant} {found : Except Err SakUse}
    (same : after =
      { (ctx.parseSakUse found).2 with
        pendingEvents := after.pendingEvents
        txReasons := after.txReasons }) :
    (after.parseSakUse found).2 = after := by
  rcases ctx.parseSakUse_cases found with
    ⟨unchanged, silent⟩ | ⟨report, scan, applies, result⟩
  · rw [unchanged] at same
    cases found with
    | error ret => rfl
    | ok report =>
        have still : after.sakUseApplies report = false := by
          rw [same]
          exact silent report rfl
        rw [parseSakUse, still]
        rfl
  · rw [result] at same
    have still := sakUseApplies_reported applies same
    have latest : after.latestSak = reportedSak ctx.latestSak report := by
      rw [same]
    have unconfirmed : after.confirms report = false := by
      rw [confirms, latest, reportedSak, reportedLifecycle]
      cases report.latestRx && report.latestTx with
      | false => rfl
      | true =>
          rw [if_pos rfl]
          split
          next => rfl
          next other => simpa using other
    rw [scan, parseSakUse, still, if_pos rfl, confirmSak_eq, reportEvents,
      unconfirmed, latest,
      reportedSak_reportedSak, ← latest]
    simp

/-! ## Known MKPDUs -/

/-- After an MKPDU was processed its sender is on record. -/
theorem knows_processed (inv : ctx.Inv) {rnd : Octets 16} {nowMs : UInt32}
    (succeeded : (ctx.processMkpdu pdu rnd nowMs).1 = .ok) :
    (ctx.processMkpdu pdu rnd nowMs).2.Knows pdu nowMs := by
  have rest : (ctx.met pdu.basic pdu.localSeen nowMs).SameRest
      (ctx.processMkpdu pdu rnd nowMs).2 := by
    rcases ctx.processMkpdu_cases inv pdu rnd nowMs with
      ⟨refused, -⟩ | ⟨-, rest, -⟩
    · rw [processMkpdu_ok_iff inv] at succeeded
      exact absurd succeeded.1 refused
    · exact rest
  rw [rest]
  refine ⟨?_, ?_, rfl⟩
  · change ctx.metPeer pdu.basic pdu.localSeen nowMs = _
    simp only [withSlots, met, metPeer, Peer.mk.injEq, true_and]
    cases pdu.localSeen with
    | true => exact ⟨rfl, rfl⟩
    | false =>
        cases ctx.peerIdentityChanged pdu.basic with
        | true => exact ⟨rfl, rfl⟩
        | false =>
            cases ctx.peer.live with
            | false | true => simp
  · intro listed
    change ctx.metState pdu.basic pdu.localSeen = _
    rw [metState, if_pos listed]

/-- A known MKPDU that distributes no SAK is only about the use of the latest
SAK. -/
theorem processMkpdu_of_knows (inv : ctx.Inv) {nowMs : UInt32}
    (knows : ctx.Knows pdu nowMs) (silent : ¬ctx.Distributes pdu)
    (readable : scanFails pdu.distributedSak = false)
    (wellFormed : scanFails pdu.sakUse = false) (rnd : Octets 16) :
    ctx.processMkpdu pdu rnd nowMs =
      (.ok, (ctx.parseSakUse pdu.sakUse).2) := by
  have takes : ctx.Takes pdu := ⟨readable, fun due => absurd due silent⟩
  have introduced : ctx.introduced pdu nowMs = ctx := by
    rw [Participant.introduced, parseDistributedSak_of_silent inv silent,
      (met_eq_self_iff inv.peer nowMs).mpr knows]
  have prepared : ctx.prepared pdu rnd nowMs = ctx :=
    (prepared_eq_self_iff inv takes rnd nowMs).mpr ⟨silent, knows⟩
  rcases ctx.processMkpdu_outcome inv pdu rnd nowMs with
    ⟨refused, -⟩ | ⟨-, fails, -⟩ | ⟨-, -, result⟩
  · exact absurd takes refused
  · rw [wellFormed] at fails
    exact Bool.noConfusion fails
  · rw [result, prepared, knows.identity, cameToLife, electionFlipped,
      introduced]
    simp [announceInput, announceIf]

/-! ## Repetition -/

/-- Whether an MKPDU distributes a SAK depends on the latest slot only. -/
theorem distributes_congr {other : Participant}
    (same : other.latestSak = ctx.latestSak) :
    other.Distributes pdu ↔ ctx.Distributes pdu := by
  simp only [Distributes, sameSak, same]

/-- A report about the latest SAK does not make it another one. -/
theorem distributes_reported_iff {report : SakUse} {other : Participant}
    (applies : ctx.sakUseApplies report = true)
    (reported : other.latestSak = reportedSak ctx.latestSak report) :
    other.Distributes pdu ↔ ctx.Distributes pdu := by
  have present :
      (reportedSak ctx.latestSak report).lifecycleState != .none := by
    simp only [reportedSak, reportedLifecycle]
    rcases lifecycle_of_sakUseApplies applies with
      lifecycle | lifecycle | lifecycle | lifecycle
    all_goals
      rw [lifecycle]
      split_ifs
      all_goals rfl
  have before : (ctx.latestSak.lifecycleState != .none) = true := by
    rcases lifecycle_of_sakUseApplies applies with
      lifecycle | lifecycle | lifecycle | lifecycle
    all_goals
      rw [lifecycle]
      rfl
  simp only [Distributes, sameSak, reported, present, before]
  simp only [reportedSak]

/-- A candidate is the SAK it was adopted from. -/
theorem not_distributes_of_candidate {found : DistributedSak}
    (scan : pdu.distributedSak = .ok found)
    (adopted : ctx.latestSak = found.candidate) : ¬ctx.Distributes pdu := by
  rintro ⟨other, distributes, different⟩
  rw [scan, Except.ok.injEq] at distributes
  rw [sameSak, adopted, ← distributes] at different
  simp [DistributedSak.candidate, DistributedSak.toSak, compare_eq_zero]
    at different

/-- Every readable SAK is new to a participant without a foreign one. -/
theorem distributes_of_not_remote {found : DistributedSak}
    (scan : pdu.distributedSak = .ok found)
    (own : ctx.latestSak.origin ≠ .remoteKeyServer) : ctx.Distributes pdu := by
  refine ⟨found, scan, ?_⟩
  simp [sameSak, own]

/-- The SAK of an MKPDU is new again before its SAK Use is processed, precisely
if the rekey for the sender displaced it. -/
theorem distributes_prepared_iff (inv : ctx.Inv) (takes : ctx.Takes pdu)
    (rnd : Octets 16) (nowMs : UInt32) :
    (ctx.prepared pdu rnd nowMs).Distributes pdu ↔ ctx.Overrides pdu := by
  rcases ctx.prepared_cases inv takes rnd nowMs with
    ⟨⟨silent, notDue⟩, slots⟩ | ⟨found, scan, different, room, stays, slots⟩ |
    ⟨⟨serves, freed, free, due⟩, slots⟩
  · rw [distributes_congr (congrArg Slots.latest slots)]
    refine iff_of_false silent ?_
    rintro ⟨⟨found, scan⟩, serves, free, -⟩
    refine notDue ⟨serves, fun absent => silent ?_, free⟩
    apply distributes_of_not_remote scan
    rw [inv.latest.eq_cleared absent]
    exact SakOrigin.noConfusion
  · refine iff_of_false
      (not_distributes_of_candidate scan (congrArg Slots.latest slots)) ?_
    rintro ⟨-, serves, -, freed⟩
    exact stays ⟨serves, freed ⟨found, scan, different⟩⟩
  · have latest := congrArg Slots.latest slots
    change (ctx.prepared pdu rnd nowMs).latestSak =
      if pdu.localSeen = true then ctx.pendingSak rnd else Sak.cleared
      at latest
    constructor
    · rintro ⟨found, scan, -⟩
      exact ⟨⟨found, scan⟩, serves, free, freed⟩
    · rintro ⟨⟨found, scan⟩, -⟩
      apply distributes_of_not_remote scan
      rw [latest]
      split
      next => exact SakOrigin.noConfusion
      next => exact SakOrigin.noConfusion

/-- After an MKPDU was processed its SAK is new again precisely if the rekey for
the sender displaced it. -/
theorem distributes_processed_iff (inv : ctx.Inv) {rnd : Octets 16}
    {nowMs : UInt32} (takes : ctx.Takes pdu) :
    (ctx.processMkpdu pdu rnd nowMs).2.Distributes pdu ↔
      ctx.Overrides pdu := by
  rw [← distributes_prepared_iff inv takes rnd nowMs]
  rcases ctx.processMkpdu_cases inv pdu rnd nowMs with
    ⟨refused, -⟩ | ⟨-, -, ⟨slots, -⟩ | ⟨report, -, applies, slots⟩⟩
  · exact absurd takes refused
  · exact distributes_congr (congrArg Slots.latest slots)
  · exact distributes_reported_iff applies (congrArg Slots.latest slots)

/-- An MKPDU that was processed changes nothing when it is processed again,
precisely unless the rekey for its sender displaced its SAK. -/
theorem processMkpdu_again_iff (inv : ctx.Inv) {rnd : Octets 16}
    {nowMs : UInt32}
    (succeeded : (ctx.processMkpdu pdu rnd nowMs).1 = .ok) (other : Octets 16) :
    (ctx.processMkpdu pdu rnd nowMs).2.processMkpdu pdu other nowMs =
        (.ok, (ctx.processMkpdu pdu rnd nowMs).2) ↔
      ¬ctx.Overrides pdu := by
  have after := ctx.processMkpdu_inv inv pdu rnd nowMs
  have knows := knows_processed inv succeeded
  have processed := (processMkpdu_ok_iff inv pdu rnd nowMs).mp succeeded
  rw [← distributes_processed_iff inv processed.1]
  constructor
  · rintro again ⟨found, scan, different⟩
    rcases (ctx.processMkpdu pdu rnd nowMs).2.processMkpdu_slots after pdu
        other nowMs with
      ⟨kept, -⟩ | ⟨-, sak, enters, slots⟩
    · have takes :=
        ((processMkpdu_ok_iff after pdu other nowMs).mp (by rw [again])).1
      exact kept ⟨takes, Or.inl ⟨found, scan, different⟩⟩
    · rw [again] at slots
      have latest : (ctx.processMkpdu pdu rnd nowMs).2.latestSak = sak :=
        congrArg Slots.latest slots
      have served (serves : (ctx.processMkpdu pdu rnd nowMs).2.ServesNewPeer
          pdu) : False := by
        have new := serves.1
        rw [knows.identity] at new
        exact Bool.noConfusion new
      cases enters with
      | @adopted same distributes _ _ =>
          exact not_distributes_of_candidate distributes latest
            ⟨found, scan, different⟩
      | generated regenerates => exact served regenerates.1
      | dropped serves unlisted => exact served serves
  · intro silent
    rw [processMkpdu_of_knows after knows silent processed.1.1 processed.2]
    obtain ⟨-, events, reasons, -, same⟩ := processMkpdu_of_ok inv succeeded
    rw [@parseSakUse_again (ctx.prepared pdu rnd nowMs)]
    rw [same]

end Participant

variable {aes : BlockCipher} {ctx : Ctx}

/-! ## Repeated frames -/

/-- The records of a verified frame are those of its next verification. -/
theorem verifyIcv_again {frame : Bytes} {basic : Basic} {verified : Ctx}
    (verifies : verifyIcv aes ctx frame basic = (.ok, verified))
    {after : Ctx} (sameKeys : after.crypto = verified.crypto)
    (sameWork : after.micWork = verified.micWork) :
    verifyIcv aes after frame basic = (.ok, after) := by
  unfold verifyIcv at verifies ⊢
  dsimp only at verifies ⊢
  split_ifs at verifies with valid _ _
  · exact Err.noConfusion (congrArg Prod.fst verifies)
  · exact Err.noConfusion (congrArg Prod.fst verifies)
  · exact Err.noConfusion (congrArg Prod.fst verifies)
  · obtain ⟨mic, work⟩ := Prod.mk.inj verifies
    have keys : after.crypto = ctx.crypto := by rw [sameKeys, ← work]
    have written :
        after.micWork.overlay 0
            (frame.slice 0 (14 + 4 + basic.eapolLen - icvLen)).1 =
          after.micWork := by
      rw [sameWork, ← work]
      exact Bytes.overlay_zero_overlay_zero _ _
    rw [keys, if_neg valid, if_neg ‹_›, if_neg ‹_›, mic, written, ← keys]

/-- The records of an authenticated frame are those of its next
authentication. -/
theorem authenticate_again {frame : Bytes} {basic : Basic} {verified : Ctx}
    (authentic : authenticate aes ctx frame basic = (.ok, verified))
    {after : Ctx} (sameKeys : after.crypto = verified.crypto)
    (sameWork : after.micWork = verified.micWork)
    (sameFlag : after.verifyIcv = verified.verifyIcv)
    (sameVerdict : after.lastIcvValid = verified.lastIcvValid) :
    authenticate aes after frame basic = (.ok, after) := by
  obtain ⟨micWork, records⟩ :=
    verifyIcv_records aes { ctx with lastIcvValid := false } frame basic
  unfold authenticate at authentic ⊢
  dsimp only at authentic ⊢
  split at authentic
  next verifying =>
      split at authentic
      next checked verification =>
          rw [verification] at records
          dsimp only at records
          obtain ⟨-, rfl⟩ := Prod.mk.inj authentic
          have flag : after.verifyIcv = true := by
            rw [sameFlag, records]
            exact verifying
          have again :=
            @verifyIcv_again aes _ frame basic checked verification
              { after with lastIcvValid := false } sameKeys sameWork
          rw [if_pos flag, again]
          dsimp only at sameVerdict ⊢
          rw [← sameVerdict]
      next ret checked failed verification =>
          exact absurd (congrArg Prod.fst authentic) failed
  next unverified =>
      obtain ⟨-, rfl⟩ := Prod.mk.inj authentic
      rw [if_neg (by rw [sameFlag]; exact unverified)]
      dsimp only at sameVerdict ⊢
      rw [← sameVerdict]

/-- A frame with an accepted MKPDU that is received again is accepted again. -/
theorem input_again {frame : Bytes} {pdu : Mkpdu}
    (inv : ctx.toParticipant.Inv)
    (accepted : classify aes ctx frame = .accepted pdu) (rnd other : Octets 16)
    (nowMs : UInt32) :
    let after := (input aes ctx frame rnd nowMs).2
    input aes after frame other nowMs =
      ((after.toParticipant.processMkpdu pdu other nowMs).1,
        { after with
          toParticipant :=
            (after.toParticipant.processMkpdu pdu other nowMs).2 }) := by
  obtain ⟨basic, isMka, parsed, foreign, authentic, rfl⟩ :=
    checks_of_accepted accepted
  rcases verification : authenticate aes ctx frame basic with ⟨ret, verified⟩
  rw [verification] at authentic
  dsimp only at authentic
  subst authentic
  obtain ⟨lastIcvValid, micWork, records⟩ :=
    authenticate_records aes ctx frame basic
  rw [verification] at records
  dsimp only at records
  have first :
      input aes ctx frame rnd nowMs =
        processFrame aes verified frame basic rnd nowMs := by
    unfold input
    rw [isMka, parsed]
    dsimp only
    rw [foreign, verification]
    rfl
  have second :=
    @authenticate_again aes ctx frame basic verified verification
      (processFrame aes verified frame basic rnd nowMs).2 rfl rfl rfl rfl
  have after :
      (processFrame aes verified frame basic rnd nowMs).2.toParticipant =
        (ctx.toParticipant.processMkpdu
          (decode aes ctx.crypto ctx.localMi frame basic) rnd nowMs).2 := by
    rw [records]
    rfl
  obtain ⟨mac, sci, mi, -, -⟩ :=
    Settings.mk.inj (Participant.settings_processMkpdu inv
      (decode aes ctx.crypto ctx.localMi frame basic) rnd nowMs)
  rw [← after] at mac sci mi
  have keys :
      (processFrame aes verified frame basic rnd nowMs).2.crypto =
        ctx.crypto := by
    rw [records]
    rfl
  have stillForeign :
      isOwnFrame
          (processFrame aes verified frame basic rnd nowMs).2.toParticipant
          basic = false := by
    rw [isOwnFrame, mac, sci, mi]
    exact foreign
  dsimp only
  rw [first]
  conv_lhs => unfold input
  rw [isMka, parsed]
  dsimp only
  rw [stillForeign, second, ← mi, ← keys]
  rfl

/-- The participant's own frames change nothing. -/
theorem input_of_own {frame : Bytes} (own : classify aes ctx frame = .own)
    (rnd : Octets 16) (nowMs : UInt32) :
    input aes ctx frame rnd nowMs = (.ok, ctx) := by
  revert own
  unfold classify input
  cases isEapolMka frame with
  | false => exact fun own => Received.noConfusion own
  | true =>
      cases parseBasic frame with
      | error ret => exact fun own => Received.noConfusion own
      | ok basic =>
          dsimp only
          cases isOwnFrame ctx.toParticipant basic with
          | true => exact fun _ => rfl
          | false =>
              cases (authenticate aes ctx frame basic).1 with
              | ok => exact fun own => Received.noConfusion own
              | param | buffer | crypto | state | replay | unsupported | auth
              | timeout | notReady | busy =>
                  exact fun own => Received.noConfusion own

/-- A frame that was received with success changes nothing when it is received
again at the same time, precisely unless the rekey for its sender displaced its
SAK. -/
theorem repeated_input_harmless_iff (reachable : Reachable aes ctx)
    (frame : Bytes) (rnd other : Octets 16) (nowMs : UInt32) :
    ((input aes ctx frame rnd nowMs).1 = .ok →
        input aes (input aes ctx frame rnd nowMs).2 frame other nowMs =
          (.ok, (input aes ctx frame rnd nowMs).2)) ↔
      ∀ pdu, classify aes ctx frame = .accepted pdu →
        scanFails pdu.sakUse = false → ¬ctx.Overrides pdu := by
  cases received : classify aes ctx frame with
  | rejected ret =>
      refine iff_of_true (fun succeeded => ?_) fun pdu => nofun
      have code :=
        congrArg Prod.fst (input_receive aes ctx frame rnd nowMs)
      rw [received, succeeded] at code
      rw [show ret = Err.ok from code.symm] at received
      exact absurd received (classify_ne_rejected_ok aes ctx frame)
  | own =>
      refine iff_of_true (fun _ => ?_) fun pdu => nofun
      rw [input_of_own received, input_of_own received]
  | accepted pdu =>
      obtain ⟨code, state⟩ := input_accepted received rnd nowMs
      have again := input_again reachable.inv received rnd other nowMs
      dsimp only at again
      simp only [Received.accepted.injEq, forall_eq']
      rw [code, again, Participant.processMkpdu_ok_iff reachable.inv]
      by_cases processed :
          ctx.toParticipant.Takes pdu ∧ scanFails pdu.sakUse = false
      · have succeeded :=
          (Participant.processMkpdu_ok_iff reachable.inv pdu rnd nowMs).mpr
            processed
        rw [← Participant.processMkpdu_again_iff reachable.inv succeeded other,
          ← state]
        simp only [processed, true_implies, and_self]
        rw [Prod.ext_iff, Prod.ext_iff]
        refine and_congr_right fun _ => ⟨?_, ?_⟩
        · exact fun same => congrArg Ctx.toParticipant same
        · intro same
          dsimp only at same ⊢
          rw [same]
      · refine iff_of_true (fun both => absurd both processed) ?_
        rintro wellFormed ⟨⟨found, scan⟩, -, free, -⟩
        refine processed ⟨⟨?_, fun _ => Or.inr free⟩, wellFormed⟩
        rw [scan]
        rfl

/-- A station that hears its first peer twice. -/
theorem newcomer_heard_again :
    let frame := frameOf BlockCipher.null
      (MkaCrypto.keysOf BlockCipher.null stationCak stationCkn)
      (newcomer 2 20 12)
    let after := (input BlockCipher.null (stationCtx BlockCipher.null 1 10 11)
      frame (sakOctets 1) 5).2
    input BlockCipher.null after frame (sakOctets 2) 5 = (.ok, after) := by
  obtain ⟨⟨icv, accepted⟩, ret, -⟩ :=
    @StationPlays.hear BlockCipher.null _ _
      (plays_stationCtx BlockCipher.null 1 10 11) (newcomer 2 20 12)
      (by decide) (sakOctets 1) 5
  refine (repeated_input_harmless_iff
    (reachable_stationCtx BlockCipher.null 1 10 11) _ (sakOctets 1)
    (sakOctets 2) 5).mpr ?_ ?_
  · intro pdu same _
    rw [accepted] at same
    cases same
    rintro ⟨⟨found, scan⟩, -⟩
    cases scan
  · exact ret.trans (by decide)

/-- Under no cipher is a second delivery always harmless. -/
theorem not_forall_repeated_input_harmless :
    ¬∃ aes, ∀ (ctx : Ctx) (frame : Bytes) (pdu : Mkpdu) (rnd other : Octets 16)
      (nowMs : UInt32),
        Reachable aes ctx → classify aes ctx frame = .accepted pdu →
          (input aes ctx frame rnd nowMs).1 = .ok →
            input aes (input aes ctx frame rnd nowMs).2 frame other nowMs =
              (.ok, (input aes ctx frame rnd nowMs).2) := by
  rintro ⟨aes, alwaysHarmless⟩
  have plays := plays_stationCtx aes 1 10 11
  obtain ⟨⟨icv, accepted⟩, ret, -⟩ :=
    @StationPlays.hear aes _ _ plays distributor (by decide) (sakOctets 1) 5
  generalize stationFrame aes distributor = frame at accepted ret
  have reachable := reachable_stationCtx aes 1 10 11
  have processed := input_accepted accepted (sakOctets 1) 5
  have succeeded :
      (input aes (stationCtx aes 1 10 11) frame (sakOctets 1) 5).1 = .ok :=
    ret.trans (by decide)
  have again :=
    alwaysHarmless _ frame _ (sakOctets 1) (sakOctets 2) 5 reachable accepted
    succeeded
  have overrides :
      (stationCtx aes 1 10 11).toParticipant.Overrides
        (distributor.mkpdu stationCkn icv (newcomer 1 10 11).localMi) :=
    ⟨⟨_, rfl⟩, ⟨rfl, (by decide : (10 : UInt8) < 20)⟩, rfl, fun _ => rfl⟩
  refine (Participant.processMkpdu_again_iff reachable.inv
    (processed.1.symm.trans succeeded) (sakOctets 2)).mp ?_ overrides
  rw [← processed.2]
  have second := input_again reachable.inv accepted (sakOctets 1) (sakOctets 2) 5
  dsimp only at second
  rw [second, Prod.ext_iff] at again
  exact Prod.ext again.1 (congrArg Ctx.toParticipant again.2)

end Mka

end Macsec
