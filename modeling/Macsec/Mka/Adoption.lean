import Macsec.Mka.Scripts

/-!
# Adoption of a Distributed SAK and the election

A Distributed SAK is adopted before the election is repeated for its sender.  A
participant that then wins the election keeps the SAK of a remote Key Server
unless a rekey for a new peer replaces it, which in turn needs a free old slot.
-/

namespace Macsec

namespace Mka

namespace Participant

variable {ctx : Participant}

/-- An MKPDU distributes another SAK than the latest one. -/
def Distributes (ctx : Participant) (pdu : Mkpdu) : Prop :=
  ∃ found, pdu.distributedSak = .ok found ∧ ctx.sameSak found = false

/-- The old slot is occupied once the SAK of an MKPDU is adopted. -/
def OldSlotTaken (ctx : Participant) (pdu : Mkpdu) : Prop :=
  ctx.oldSak.lifecycleState ≠ .none ∨
    (ctx.Distributes pdu ∧
      (ctx.latestSak.rxInstalled || ctx.latestSak.txInstalled) = true)

/-- The condition under which the winner of an election is left without a SAK of
a remote Key Server. -/
def DropsRemoteSak (ctx : Participant) (pdu : Mkpdu) : Prop :=
  ¬ctx.keyServerPriority < pdu.basic.keyServerPriority ∨
    ¬(ctx.Distributes pdu ∨ ctx.latestSak.origin = .remoteKeyServer) ∨
    (ctx.peerIdentityChanged pdu.basic = true ∧ ¬ctx.OldSlotTaken pdu)

/-- The latest slot of a participant that accepted an MKPDU: the scanned SAK if
it is another one, else the SAK it had. -/
theorem introduced_latest (inv : ctx.Inv) (pdu : Mkpdu) (nowMs : UInt32)
    (accepted : (ctx.parseDistributedSak pdu.distributedSak).1 = .ok ∨
      (ctx.parseDistributedSak pdu.distributedSak).1 = .notReady) :
    ((ctx.introduced pdu nowMs).latestSak.origin = .remoteKeyServer ↔
      ctx.Distributes pdu ∨ ctx.latestSak.origin = .remoteKeyServer) ∧
    ((ctx.introduced pdu nowMs).oldSak.lifecycleState ≠ .none ↔
      ctx.OldSlotTaken pdu) := by
  unfold introduced OldSlotTaken Distributes
  cases scan : pdu.distributedSak with
  | error ret => simp [parseDistributedSak, met]
  | ok found =>
      rw [scan] at accepted
      rw [parseDistributedSak] at accepted ⊢
      rcases ctx.adoptDistributedSak_cases inv.latest found with
        ⟨same, result⟩ | ⟨different, -, -, result⟩ | ⟨different, room, result⟩
      · rw [result]
        simp [same, met]
      · rw [result] at accepted
        simp at accepted
      · rw [result]
        have adopted : found.candidate.origin = .remoteKeyServer := rfl
        simp only [met, different, Except.ok.injEq, adopted, exists_eq_left',
          true_or, true_and]
        unfold Slots.superseded slots
        dsimp only
        split
        next installed => simp [installed]
        next uninstalled => simp [uninstalled]

/-- A rekey for a new peer drops the SAK of a remote Key Server unless the old
slot is occupied. -/
theorem rekeyForPeer_origin (inv : ctx.Inv) (identityChanged : Bool)
    (rnd : Octets 16) :
    (ctx.rekeyForPeer identityChanged rnd).2.latestSak.origin =
        .remoteKeyServer ↔
      ctx.latestSak.origin = .remoteKeyServer ∧
        ¬(identityChanged = true ∧ ctx.localKeyServer = true ∧
          ctx.oldSak.lifecycleState = .none) := by
  have present (remote : ctx.latestSak.origin = .remoteKeyServer) :
      ctx.latestSak.lifecycleState ≠ .none := by
    intro absent
    rw [inv.latest.eq_cleared absent] at remote
    exact SakOrigin.noConfusion remote
  rcases ctx.rekeyForPeer_cases inv identityChanged rnd with
    ⟨notDue, result⟩ | ⟨due, occupied, result⟩ |
    ⟨due, free, events, -, result⟩
  · rw [result]
    constructor
    · intro remote
      refine ⟨remote, fun conditions => ?_⟩
      simp [conditions, present remote] at notDue
    · exact And.left
  · rw [result]
    exact ⟨fun remote => ⟨remote, fun conditions => occupied conditions.2.2⟩,
      And.left⟩
  · simp only [Bool.and_eq_true] at due
    rw [result]
    constructor
    · intro remote
      change (ctx.rekeyedLatest rnd).origin = .remoteKeyServer at remote
      unfold rekeyedLatest at remote
      split at remote
      all_goals exact SakOrigin.noConfusion remote
    · intro kept
      exact absurd ⟨due.1.1, due.1.2, free⟩ kept.2

/-- A report on SAK Use leaves the origin of the latest SAK alone. -/
theorem parseSakUse_origin (found : Except Err SakUse) :
    (ctx.parseSakUse found).2.latestSak.origin = ctx.latestSak.origin ∧
      (ctx.parseSakUse found).2.localKeyServer = ctx.localKeyServer := by
  rcases ctx.parseSakUse_cases found with
    ⟨same, -⟩ | ⟨report, -, -, result⟩
  · rw [same]
    exact ⟨rfl, rfl⟩
  · rw [result]
    exact ⟨rfl, rfl⟩

/-- After an accepted MKPDU the winner of the election holds no SAK of a remote
Key Server precisely under the condition above. -/
theorem processMkpdu_origin (inv : ctx.Inv) (pdu : Mkpdu) (rnd : Octets 16)
    (nowMs : UInt32) (succeeded : (ctx.processMkpdu pdu rnd nowMs).1 = .ok) :
    ((ctx.processMkpdu pdu rnd nowMs).2.localKeyServer = true →
      (ctx.processMkpdu pdu rnd nowMs).2.latestSak.origin ≠
        .remoteKeyServer) ↔
      ctx.DropsRemoteSak pdu := by
  obtain ⟨accepted, events, reasons, -, result⟩ :=
    ctx.processMkpdu_of_ok inv succeeded
  have meeting := ctx.introduced_keeps inv pdu nowMs
  obtain ⟨remote, occupied⟩ := ctx.introduced_latest inv pdu nowMs accepted
  have kept :=
    rekeyForPeer_origin meeting.inv (ctx.peerIdentityChanged pdu.basic) rnd
  have server :
      (ctx.introduced pdu nowMs).localKeyServer =
        decide (ctx.keyServerPriority < pdu.basic.keyServerPriority) :=
    congrArg Participant.localKeyServer
      (ctx.introduced_sameRest inv pdu nowMs)
  have serverAfter :
      (ctx.prepared pdu rnd nowMs).localKeyServer =
        decide (ctx.keyServerPriority < pdu.basic.keyServerPriority) :=
    congrArg Participant.localKeyServer
      (ctx.prepared_sameRest inv pdu rnd nowMs)
  have reported :=
    (ctx.prepared pdu rnd nowMs).parseSakUse_origin pdu.sakUse
  rw [result]
  change (((ctx.prepared pdu rnd nowMs).parseSakUse
      pdu.sakUse).2.localKeyServer = true →
    ((ctx.prepared pdu rnd nowMs).parseSakUse pdu.sakUse).2.latestSak.origin ≠
      .remoteKeyServer) ↔ _
  rw [reported.1, reported.2, serverAfter, decide_eq_true_iff,
    DropsRemoteSak, ← remote, ← occupied, not_not]
  change (_ → ((ctx.introduced pdu nowMs).rekeyForPeer
    (ctx.peerIdentityChanged pdu.basic) rnd).2.latestSak.origin ≠ _) ↔ _
  rw [Ne, kept, server, decide_eq_true_iff]
  by_cases wins : ctx.keyServerPriority < pdu.basic.keyServerPriority
  · by_cases holds :
        (ctx.introduced pdu nowMs).latestSak.origin = .remoteKeyServer
    · simp only [wins, holds, true_and, not_not, true_implies, not_true,
        false_or]
    · simp only [wins, holds, false_and, not_false_eq_true, true_implies,
        not_true, true_or, or_true]
  · simp only [wins, false_implies, not_false_eq_true, true_or]

end Participant

/-- After every authenticated MKPDU that a reachable participant accepts, the
winner of the election holds no SAK of a remote Key Server precisely if it drops
the remote SAK. -/
theorem adopted_only_from_keyServer_iff
    (aes : BlockCipher) (ctx : Ctx)
    (reachable : Reachable aes ctx)
    (frame : Bytes) (rnd : Octets 16) (nowMs : UInt32) (pdu : Mkpdu)
    (authenticated : classify aes ctx frame = .accepted pdu)
    (succeeded : (input aes ctx frame rnd nowMs).1 = .ok) :
    ((input aes ctx frame rnd nowMs).2.localKeyServer = true →
      (input aes ctx frame rnd nowMs).2.latestSak.origin ≠
        .remoteKeyServer) ↔
      ctx.toParticipant.DropsRemoteSak pdu := by
  have received := input_receive aes ctx frame rnd nowMs
  rw [authenticated, Participant.receive, Prod.ext_iff] at received
  dsimp only at received
  rw [received.1] at succeeded
  rw [received.2]
  exact Participant.processMkpdu_origin reachable.inv pdu rnd nowMs succeeded

/-- A Key Server that distributes a SAK to a station of its own. -/
def distributor : Participant :=
  { (newcomer 2 20 12).listing (newcomer 3 30 13) with
    latestSak :=
      { Sak.cleared with
        sak := (sakOctets 7).1
        keyNumber := 1
        origin := .localKeyServer
        lifecycleState := .distributed
        lowestPn := 1 } }

/-- Station 1 once it heard from another one for the first time. -/
def introducedCtx (sender : Participant) : Ctx :=
  (input BlockCipher.null (stationCtx BlockCipher.null 1 10 11)
    (stationFrame BlockCipher.null sender) (sakOctets 9) 5).2

/-- The SAK of a Key Server that wins the election is adopted, and that of one
that loses it is not kept. -/
theorem first_saks_adopted_or_dropped :
    ((introducedCtx supplier).latestSak.origin = .remoteKeyServer ∧
        ((introducedCtx supplier).localKeyServer = true →
          (introducedCtx supplier).latestSak.origin ≠ .remoteKeyServer)) ∧
      ((introducedCtx distributor).localKeyServer = true ∧
        (introducedCtx distributor).latestSak.origin ≠ .remoteKeyServer) := by
  have plays := plays_stationCtx BlockCipher.null 1 10 11
  have reachable := reachable_stationCtx BlockCipher.null 1 10 11
  have supplied : (newcomer 1 10 11).Other supplier := by decide
  have distributed : (newcomer 1 10 11).Other distributor := by decide
  obtain ⟨⟨icv, fromWinner⟩, -⟩ :=
    @StationPlays.hear BlockCipher.null _ _ plays _ supplied (sakOctets 9) 5
  obtain ⟨⟨otherIcv, fromLoser⟩, -⟩ :=
    @StationPlays.hear BlockCipher.null _ _ plays _ distributed (sakOctets 9) 5
  have adopted :=
    (adopted_only_from_keyServer_iff _ _ reachable _ (sakOctets 9) 5 _
      fromWinner (by decide +kernel)).mpr
        (Or.inl (show ¬(10 : UInt8) < 5 by decide))
  have dropped :=
    (adopted_only_from_keyServer_iff _ _ reachable _ (sakOctets 9) 5 _
      fromLoser (by decide +kernel)).mpr (Or.inr (Or.inr ⟨rfl, ?_⟩))
  · have server : (introducedCtx distributor).localKeyServer = true := by
      decide +kernel
    exact ⟨⟨by decide +kernel, adopted⟩, server, dropped server⟩
  · rintro (occupied | ⟨-, installed⟩)
    · exact occupied rfl
    · exact Bool.noConfusion installed

/-- A station that wins the election against the Key Server of another station
adopts the SAK that is meant for that station. -/
theorem adopts_from_loser (aes : BlockCipher) :
    ∃ ctx frame pdu,
      Reachable aes ctx ∧ classify aes ctx frame = .accepted pdu ∧
      ctx.latestSak.origin = .none ∧
      (input aes ctx frame (sakOctets 9) 5).1 = .ok ∧
      (input aes ctx frame (sakOctets 9) 5).2.localKeyServer = true ∧
      (input aes ctx frame (sakOctets 9) 5).2.latestSak.origin =
        .remoteKeyServer := by
  obtain ⟨ctx, reachable, plays⟩ :=
    @exists_final aes 1 10 11 [.hear (newcomer 2 20 12) (sakOctets 9) 5]
      (by decide)
  obtain ⟨⟨icv, accepted⟩, ret, after⟩ :=
    @StationPlays.hear aes _ _ plays distributor (by decide) (sakOctets 9) 5
  refine ⟨ctx, _, _, reachable, accepted, ?_, ?_⟩
  · rw [plays.same]
    decide
  · rw [ret, after.same]
    decide

/-- Under no cipher do all winners of an election drop the SAK of a remote Key
Server. -/
theorem not_forall_adopted_only_from_keyServer :
    ¬∃ aes, ∀ (ctx : Ctx) (frame : Bytes) (rnd : Octets 16) (nowMs : UInt32)
      (pdu : Mkpdu), Reachable aes ctx →
        classify aes ctx frame = .accepted pdu →
          (input aes ctx frame rnd nowMs).1 = .ok →
            (input aes ctx frame rnd nowMs).2.localKeyServer = true →
              (input aes ctx frame rnd nowMs).2.latestSak.origin ≠
                .remoteKeyServer := by
  rintro ⟨aes, alwaysDropped⟩
  obtain ⟨ctx, frame, pdu, reachable, accepted, -, ret, server, remote⟩ :=
    adopts_from_loser aes
  exact alwaysDropped ctx frame _ 5 pdu reachable accepted ret server remote

end Mka

end Macsec
