import Macsec.Mka.Displacement
import Macsec.Mka.Scripts

/-!
# Failed MKPDUs

An MKPDU that fails on its Distributed SAK leaves the participant as it was.  A
malformed SAK Use is noticed only after the sender was recorded and a rekey was
begun, so that the failed MKPDU leaves no trace precisely if it said nothing
new.
-/

namespace Macsec

namespace Mka

namespace Participant

variable {ctx : Participant} {pdu : Mkpdu}

/-- What an MKPDU says about its sender is on record: the peer record carries
its fields and the time, a participant that is listed waits in the state of a
live peer, and the election is settled. -/
def Knows (ctx : Participant) (pdu : Mkpdu) (nowMs : UInt32) : Prop :=
  ctx.peer =
      { valid := true
        mac := pdu.basic.srcMac
        sci := pdu.basic.sci
        mi := pdu.basic.actorMi
        mn := pdu.basic.actorMn
        keyServerPriority := pdu.basic.keyServerPriority
        keyServer := pdu.basic.keyServer
        macsecDesired := pdu.basic.macsecDesired
        macsecCapability := pdu.basic.macsecCapability
        lastSeenMs := nowMs
        seenInPeerList :=
          pdu.localSeen || (ctx.peer.live && ctx.peer.seenInPeerList)
        live := pdu.localSeen || ctx.peer.live } ∧
    (pdu.localSeen = true → ctx.state = .peerLive) ∧
    ctx.localKeyServer =
      decide (ctx.keyServerPriority < pdu.basic.keyServerPriority)

instance (ctx : Participant) (pdu : Mkpdu) (nowMs : UInt32) :
    Decidable (ctx.Knows pdu nowMs) :=
  inferInstanceAs (Decidable (_ ∧ _))

/-- The sender of a known MKPDU is the recorded peer. -/
theorem Knows.identity {nowMs : UInt32} (knows : ctx.Knows pdu nowMs) :
    ctx.peerIdentityChanged pdu.basic = false := by
  rw [not_peerIdentityChanged_iff, knows.1]
  exact ⟨rfl, rfl, rfl, rfl⟩

/-- Recording the sender changes nothing precisely if it is on record. -/
theorem met_eq_self_iff (shape : PeerShape ctx.state ctx.peer)
    (nowMs : UInt32) :
    ctx.met pdu.basic pdu.localSeen nowMs = ctx ↔ ctx.Knows pdu nowMs := by
  constructor
  · intro same
    have peer : ctx.metPeer pdu.basic pdu.localSeen nowMs = ctx.peer :=
      congrArg Participant.peer same
    have state : ctx.metState pdu.basic pdu.localSeen = ctx.state :=
      congrArg Participant.state same
    have known : ctx.peerIdentityChanged pdu.basic = false := by
      rw [not_peerIdentityChanged_iff, ← peer]
      exact ⟨rfl, rfl, rfl, rfl⟩
    refine ⟨?_, ?_, (congrArg Participant.localKeyServer same).symm⟩
    · conv_lhs => rw [← peer]
      simp [metPeer, known]
    · intro listed
      rw [← state, metState, if_pos listed]
  · intro knows
    have known := knows.identity
    obtain ⟨peer, listed, server⟩ := knows
    have samePeer : ctx.metPeer pdu.basic pdu.localSeen nowMs = ctx.peer := by
      conv_rhs => rw [peer]
      simp [metPeer, known]
    have sameState : ctx.metState pdu.basic pdu.localSeen = ctx.state := by
      unfold metState
      split
      next seen => exact (listed seen).symm
      next =>
          rw [known, Bool.false_or]
          split
          next dead =>
              have valid := valid_of_not_changed known
              rw [Bool.not_eq_true'] at dead
              unfold PeerShape at shape
              cases state : ctx.state with
              | peerDiscovered => rfl
              | waitPeer | peerLive | operational =>
                  rw [state, valid, dead] at shape
                  simp at shape
              | init | error =>
                  rw [state] at shape
                  exact shape.elim
          next => rfl
    rw [met, samePeer, sameState, ← server]

/-- Up to its SAK Use an MKPDU changes nothing precisely if it distributes no
SAK and its sender is on record. -/
theorem prepared_eq_self_iff (inv : ctx.Inv) (takes : ctx.Takes pdu)
    (rnd : Octets 16) (nowMs : UInt32) :
    ctx.prepared pdu rnd nowMs = ctx ↔
      ¬ctx.Distributes pdu ∧ ctx.Knows pdu nowMs := by
  rw [← met_eq_self_iff inv.peer nowMs]
  constructor
  · intro same
    have rest := ctx.prepared_sameRest inv pdu rnd nowMs
    rw [same] at rest
    have recorded : ctx.met pdu.basic pdu.localSeen nowMs = ctx := rest.symm
    refine ⟨?_, recorded⟩
    have known := ((met_eq_self_iff inv.peer nowMs).mp recorded).identity
    rcases ctx.prepared_cases inv takes rnd nowMs with
      ⟨⟨silent, -⟩, -⟩ | ⟨found, scan, different, -, -, slots⟩ |
      ⟨⟨serves, -⟩, -⟩
    · exact silent
    · rw [same] at slots
      have latest : ctx.latestSak = found.candidate :=
        congrArg Slots.latest slots
      rw [sameSak, latest] at different
      simp [DistributedSak.candidate, DistributedSak.toSak,
        compare_eq_zero] at different
    · rw [serves.1] at known
      exact Bool.noConfusion known
  · rintro ⟨silent, recorded⟩
    have known := ((met_eq_self_iff inv.peer nowMs).mp recorded).identity
    have introduced : ctx.introduced pdu nowMs = ctx := by
      rw [Participant.introduced, parseDistributedSak_of_silent inv silent,
        recorded]
    rw [prepared, introduced, rekeyForPeer, known]
    rfl

end Participant

variable {aes : BlockCipher} {ctx : Ctx}

/-- A received frame that fails leaves the participant as it was, precisely
unless its SAK Use is malformed and it said something new before. -/
theorem failed_input_keeps_participant_iff (reachable : Reachable aes ctx)
    (frame : Bytes) (rnd : Octets 16) (nowMs : UInt32) :
    ((input aes ctx frame rnd nowMs).1 ≠ .ok →
        (input aes ctx frame rnd nowMs).2.toParticipant =
          ctx.toParticipant) ↔
      ∀ pdu, classify aes ctx frame = .accepted pdu → ctx.Takes pdu →
        scanFails pdu.sakUse = true →
          ¬ctx.Distributes pdu ∧ ctx.Knows pdu nowMs := by
  have received := input_receive aes ctx frame rnd nowMs
  rw [Prod.ext_iff] at received
  obtain ⟨code, state⟩ := received
  dsimp only at code state
  rw [code, state]
  cases classify aes ctx frame with
  | rejected ret =>
      exact iff_of_true (fun _ => rfl) fun _ taken =>
        Received.noConfusion taken
  | own =>
      exact iff_of_true (fun _ => rfl) fun _ taken =>
        Received.noConfusion taken
  | accepted pdu =>
      simp only [Participant.receive, Received.accepted.injEq, forall_eq']
      rcases ctx.toParticipant.processMkpdu_outcome reachable.inv pdu rnd
          nowMs with
        ⟨refused, -, same⟩ | ⟨takes, fails, failed, prepared⟩ |
        ⟨takes, succeeds, result⟩
      · exact iff_of_true (fun _ => same) fun takes => absurd takes refused
      · rw [prepared, Participant.prepared_eq_self_iff reachable.inv takes]
        exact ⟨fun unchanged _ _ => unchanged failed,
          fun known _ => known takes fails⟩
      · rw [result, succeeds]
        exact iff_of_true (fun failed => absurd rfl failed) fun _ fails =>
          absurd fails (by decide)

/-! ## Stubs -/

/-- A parameter set whose body has four octets. -/
def stub (type : UInt8) : List ParamSet :=
  [{ type := type, flags := 0, body := [0, 0, 0, 0] }]

theorem laid_stub (type : UInt8) : Laid stationCkn (stub type) where
  cknFits := by decide
  short set member := by
    rw [List.mem_singleton.mp member]
    exact (by decide : 4 < 256)
  frameFits := by
    change 50 + 16 + 8 + 16 ≤ 512
    decide

/-- A walk over the frame of a station with a stub visits the stub. -/
theorem walk_stub {ρ : Type} {overflow done : ρ}
    {visit : UInt8 → UInt8 → Nat → Nat → Option ρ} (sender : Participant)
    (icv : Octets 16) {type : UInt8} {result : Option ρ}
    (visits : ∀ bodyPos, visit type 0 bodyPos 4 = result) :
    walk (sender.layFrame stationCkn (stub type) ++ icv.1)
        (laidLen stationCkn (stub type)) overflow done visit basicOffset =
      result.getD done := by
  have walked :=
    @Participant.walk_layFrame ρ overflow done visit sender _ _
      (laid_stub type) icv (fun _ => result) (fun set member before after _ => by
        rw [List.mem_singleton.mp member]
        exact visits _)
  rw [walked, stub, List.findSome?_singleton]

/-- What the frame of a station with a stub says. -/
theorem decode_stub (crypto : MkaCrypto.Ctx) (sender : Participant)
    (icv : Octets 16) (mi : Octets 12) {type : UInt8}
    (notList : ¬(type = paramLivePeerList ∨ type = paramPotentialPeerList)) :
    decode aes crypto mi (sender.layFrame stationCkn (stub type) ++ icv.1)
        (sender.laidBasic stationCkn (stub type) icv) =
      { basic := sender.laidBasic stationCkn (stub type) icv
        distributedSak :=
          .error (if type = paramDistributedSak then .buffer else .notReady)
        localSeen := false
        sakUse :=
          .error (if type = paramSakUse then .buffer else .notReady) } := by
  have long :
      ¬(sender.layFrame stationCkn (stub type) ++ icv.1).length < 90 := by
    rw [List.length_append, Participant.length_layFrame, icv.2]
    exact Nat.lt_irrefl 90
  have finish :=
    (@Participant.parse_layFrame sender _ _ (laid_stub type) icv).2.2
  have distributed :
      scanDistributedSak aes crypto
          (sender.layFrame stationCkn (stub type) ++ icv.1) =
        .error (if type = paramDistributedSak then .buffer
          else .notReady) := by
    rw [scanDistributedSak, if_neg long, finish]
    refine (@walk_stub _ _ _ _ sender icv type
      (if type = paramDistributedSak then some (.error .buffer) else none)
      fun bodyPos => rfl).trans ?_
    by_cases isSet : type = paramDistributedSak
    · rw [if_pos isSet, if_pos isSet]
      rfl
    · rw [if_neg isSet, if_neg isSet]
      rfl
  have listed :
      frameContainsPeerEntry
        (sender.layFrame stationCkn (stub type) ++ icv.1) mi = none := by
    rw [frameContainsPeerEntry, if_neg long, finish]
    exact @walk_stub _ _ _ _ sender icv type none fun bodyPos => if_neg notList
  have sakUse :
      scanSakUse (sender.layFrame stationCkn (stub type) ++ icv.1) =
        .error (if type = paramSakUse then .buffer else .notReady) := by
    rw [scanSakUse, if_neg long, finish]
    refine (@walk_stub _ _ _ _ sender icv type
      (if type = paramSakUse then some (.error .buffer) else none)
      fun bodyPos => rfl).trans ?_
    by_cases isSet : type = paramSakUse
    · rw [if_pos isSet, if_pos isSet]
      rfl
    · rw [if_neg isSet, if_neg isSet]
      rfl
  rw [decode, distributed, listed, sakUse]
  rfl

/-- Station 1 accepts the frame of another station with a stub. -/
theorem exists_stub (aes : BlockCipher) {type : UInt8}
    (notList : ¬(type = paramLivePeerList ∨ type = paramPotentialPeerList)) :
    ∃ frame pdu,
      classify aes (stationCtx aes 1 10 11) frame = .accepted pdu ∧
        pdu.distributedSak =
          .error (if type = paramDistributedSak then .buffer else .notReady) ∧
        pdu.sakUse =
          .error (if type = paramSakUse then .buffer else .notReady) := by
  have plays := plays_stationCtx aes 1 10 11
  have keyed : (stationCtx aes 1 10 11).crypto.Keyed := plays.keyed
  have ickSize :
      MkaCrypto.keyLenValid (stationCtx aes 1 10 11).crypto.keys.ick.length =
        true := by
    have ready := keyed.ick
    simp only [MkaCrypto.ickReady, Bool.and_eq_true] at ready
    exact ready.2
  obtain ⟨icv, mic⟩ :=
    MkaCrypto.exists_cmac aes ickSize
      ((newcomer 2 20 12).layFrame stationCkn (stub type))
  obtain ⟨-, otherMac, otherSci, otherMi⟩ :
      (newcomer 1 10 11).Other (newcomer 2 20 12) := by decide
  have accepted :=
    classify_layFrame keyed rfl (laid_stub type) mic otherMac otherSci otherMi
  rw [decode_stub _ _ _ _ notList] at accepted
  exact ⟨_, _, accepted, rfl, rfl⟩

/-- A frame with a malformed Distributed SAK fails and leaves the participant as
it was. -/
theorem malformed_distributedSak_keeps_participant :
    ∃ frame rnd nowMs,
      (input BlockCipher.null (stationCtx BlockCipher.null 1 10 11) frame rnd
        nowMs).1 ≠ .ok ∧
      (input BlockCipher.null (stationCtx BlockCipher.null 1 10 11) frame rnd
        nowMs).2.toParticipant =
          (stationCtx BlockCipher.null 1 10 11).toParticipant := by
  obtain ⟨frame, pdu, accepted, distributed, -⟩ :=
    @exists_stub BlockCipher.null paramDistributedSak (by decide)
  have reachable := reachable_stationCtx BlockCipher.null 1 10 11
  have refused :
      ¬(stationCtx BlockCipher.null 1 10 11).toParticipant.Takes pdu := by
    intro takes
    have fails := takes.1
    rw [distributed] at fails
    exact absurd fails (by decide)
  have failed :
      (input BlockCipher.null (stationCtx BlockCipher.null 1 10 11) frame
        (sakOctets 1) 5).1 ≠ .ok := by
    rw [(input_accepted accepted _ _).1]
    rcases (stationCtx BlockCipher.null 1 10
        11).toParticipant.processMkpdu_outcome reachable.inv pdu (sakOctets 1)
        5 with
      ⟨-, failed, -⟩ | ⟨takes, -⟩ | ⟨takes, -⟩
    · exact failed
    · exact absurd takes refused
    · exact absurd takes refused
  refine ⟨frame, sakOctets 1, 5, failed, ?_⟩
  refine (failed_input_keeps_participant_iff reachable frame (sakOctets 1)
    5).mpr ?_ failed
  intro other same takes
  rw [accepted] at same
  cases same
  exact absurd takes refused

/-- Under no cipher do all failed frames leave the participant as it was. -/
theorem not_forall_failed_input_keeps_participant :
    ¬∃ aes, ∀ (ctx : Ctx) (frame : Bytes) (pdu : Mkpdu) (rnd : Octets 16)
      (nowMs : UInt32),
        Reachable aes ctx → classify aes ctx frame = .accepted pdu →
          (input aes ctx frame rnd nowMs).1 ≠ .ok →
            (input aes ctx frame rnd nowMs).2.toParticipant =
              ctx.toParticipant := by
  rintro ⟨aes, alwaysUnchanged⟩
  obtain ⟨frame, pdu, accepted, distributed, sakUse⟩ :=
    @exists_stub aes paramSakUse (by decide)
  have reachable := reachable_stationCtx aes 1 10 11
  have unchanged :=
    alwaysUnchanged _ frame pdu (sakOctets 1) 5 reachable accepted
  rw [(input_accepted accepted _ _).1, (input_accepted accepted _ _).2]
    at unchanged
  rcases (stationCtx aes 1 10 11).toParticipant.processMkpdu_outcome
      reachable.inv pdu (sakOctets 1) 5 with
    ⟨refused, -⟩ | ⟨takes, -, failed, prepared⟩ | ⟨-, succeeds, -⟩
  · refine refused ⟨by rw [distributed]; rfl, ?_⟩
    rintro ⟨found, distributes, -⟩
    rw [distributed] at distributes
    cases distributes
  · have same := unchanged failed
    rw [prepared] at same
    have knows :=
      ((Participant.prepared_eq_self_iff reachable.inv takes _ _).mp same).2
    exact Bool.noConfusion (congrArg Peer.valid knows.1)
  · rw [sakUse] at succeeds
    exact absurd succeeds (by decide)

end Mka

end Macsec
