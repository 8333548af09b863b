import Macsec.Mka.Distribution
import Macsec.Mka.Schedule

/-!
# A replacement peer and the previous SAK

A Key Server whose peer was replaced is not to distribute the SAK of the
previous peer any more.  It keeps to that unless the old slot is occupied: then
the rekey is refused, a local SAK stays in the latest slot, and it is
distributed as soon as the new peer is live and does not report to receive under
it.
-/

namespace Macsec

namespace Mka

/-- The random octets that a call may draw differ from a key. -/
def Call.Avoids (key : Bytes) : Call → Prop
  | .input _ rnd _ => rnd.1 ≠ key
  | .buildTxFrame rnd _ => rnd.1 ≠ key
  | _ => True

/-- Two peer records identify different peers. -/
def Peer.Differs (before after : Peer) : Prop :=
  after.mi ≠ before.mi ∨ after.sci ≠ before.sci ∨ after.mac ≠ before.mac

namespace Participant

variable {ctx after : Participant} {pdu : Mkpdu}

/-- A participant that does not distribute a key. -/
def Withholds (ctx : Participant) (key : Bytes) : Prop :=
  ctx.latestSak.origin = .localKeyServer → ctx.latestSak.sak ≠ key

/-- A SAK that enters the latest slot is generated from fresh octets or not
distributed. -/
theorem Enters.withholds {rnd : Octets 16} {sak : Sak} {key : Bytes}
    (enters : ctx.Enters pdu rnd sak) (fresh : rnd.1 ≠ key)
    (latest : after.latestSak = sak) : after.Withholds key := by
  intro own
  rw [latest] at own ⊢
  cases enters with
  | adopted => exact SakOrigin.noConfusion own
  | generated => exact fresh
  | dropped => exact SakOrigin.noConfusion own

/-- An MKPDU makes the sender another peer only if it is taken and the peer
identity changes. -/
theorem taken_of_differs (inv : ctx.Inv) {rnd : Octets 16} {nowMs : UInt32}
    (replaced : ctx.peer.Differs (ctx.processMkpdu pdu rnd nowMs).2.peer) :
    ctx.Takes pdu ∧ ctx.peerIdentityChanged pdu.basic = true ∧
      (ctx.met pdu.basic pdu.localSeen nowMs).SameRest
        (ctx.processMkpdu pdu rnd nowMs).2 := by
  rcases ctx.processMkpdu_cases inv pdu rnd nowMs with
    ⟨-, same⟩ | ⟨takes, rest, -⟩
  · rw [same] at replaced
    rcases replaced with other | other | other
    all_goals exact absurd rfl other
  · refine ⟨takes, ?_, rest⟩
    have peer : (ctx.processMkpdu pdu rnd nowMs).2.peer =
        ctx.metPeer pdu.basic pdu.localSeen nowMs := by
      rw [rest]
      rfl
    rw [peer] at replaced
    simp only [Peer.Differs, metPeer] at replaced
    simp only [peerIdentityChanged, Bool.or_eq_true, bne_iff_ne, ne_eq,
      compare_octets_eq_zero]
    rcases replaced with other | other | other
    · exact Or.inl (Or.inl (Or.inr (Ne.symm other)))
    · exact Or.inl (Or.inr (Ne.symm other))
    · exact Or.inr (Ne.symm other)

end Participant

variable {aes : BlockCipher} {ctx : Ctx} {key : Bytes}

/-- A call that draws other octets leaves a key withheld. -/
theorem withholds_of_move {call : Call} {after : Participant}
    (inv : ctx.toParticipant.Inv) (move : Move aes ctx call after)
    (avoids : call.Avoids key) (withholds : ctx.toParticipant.Withholds key) :
    after.Withholds key := by
  cases move with
  | @receive frame rnd nowMs pdu accepted =>
      rcases ctx.toParticipant.processMkpdu_slots inv pdu rnd nowMs with
        ⟨-, ⟨slots, -⟩ | ⟨report, -, -, slots⟩⟩ | ⟨-, sak, enters, slots⟩
      · have latest : (ctx.toParticipant.processMkpdu pdu rnd
            nowMs).2.latestSak = ctx.latestSak := congrArg Slots.latest slots
        intro own
        rw [latest] at own ⊢
        exact withholds own
      · have latest : (ctx.toParticipant.processMkpdu pdu rnd
            nowMs).2.latestSak = Participant.reportedSak ctx.latestSak report :=
          congrArg Slots.latest slots
        intro own
        rw [latest] at own ⊢
        exact withholds own
      · exact enters.withholds avoids (congrArg Slots.latest slots)
  | generate absent latest counters peer =>
      intro own
      rw [latest]
      exact avoids
  | commit pending => exact withholds
  | advance latest due installing counters peer =>
      intro own
      rw [latest] at own ⊢
      exact withholds own
  | rest latest counters peer =>
      intro own
      rw [latest] at own ⊢
      exact withholds own

/-- A withheld key is not distributed in any run that draws other octets. -/
theorem withheld_in_run (inv : ctx.toParticipant.Inv)
    (keyed : ctx.crypto.Keyed) (withholds : ctx.toParticipant.Withholds key)
    (calls : List Call) (avoids : ∀ call ∈ calls, call.Avoids key)
    (found : DistributedSak)
    (isSent : Sent aes ((machine aes).events ctx calls) found) :
    found.sak ≠ key := by
  induction calls generalizing ctx with
  | nil =>
      obtain ⟨event, member, -⟩ := isSent
      exact absurd member List.not_mem_nil
  | cons call calls inductionHypothesis =>
      rw [List.forall_mem_cons] at avoids
      have after :=
        withholds_of_move inv (@perform_move aes ctx inv call) avoids.1
          withholds
      obtain ⟨event, member, carries⟩ := isSent
      rcases List.mem_cons.mp member with rfl | later
      · obtain ⟨describes, included⟩ := latest_of_carries inv keyed carries
        rw [describes.sak]
        exact after (origin_of_included included)
      · refine inductionHypothesis (perform_inv inv call) ?_ after avoids.2
          ⟨event, later, carries⟩
        exact (@perform_keys aes ctx call).1 ▸ keyed

/-! ## A peer that complains -/

namespace Participant

variable {ctx : Participant} {pdu : Mkpdu}

/-- The peer of a participant, once it recognises the participant as a live peer
and reports that it does not receive under the latest SAK. -/
def complainant (ctx : Participant) : Participant :=
  { Participant.cleared with
    localMac := ctx.peer.mac
    localSci := ctx.peer.sci
    localMi := ctx.peer.mi
    keyServerPriority := ctx.peer.keyServerPriority
    peer :=
      { Peer.cleared with
        valid := true
        live := true
        mi := ctx.localMi }
    latestSak :=
      { Sak.cleared with
        sak := ctx.latestSak.sak
        an := ctx.latestSak.an
        keyNumber := ctx.latestSak.keyNumber
        origin := .remoteKeyServer
        lifecycleState := .candidate } }

/-- What the complaint says. -/
def complaint (ctx : Participant) : SakUse where
  keyServerMi := ctx.localMi
  keyNumber := ctx.latestSak.keyNumber
  an := ctx.latestSak.an
  latestTx := false
  latestRx := false

theorem mkpdu_complainant (ckn : Bytes) (icv : Octets 16) :
    let pdu := ctx.complainant.mkpdu ckn icv ctx.localMi
    pdu.basic.keyServerPriority = ctx.peer.keyServerPriority ∧
      pdu.distributedSak = .error .notReady ∧ pdu.localSeen = true ∧
      pdu.sakUse = .ok ctx.complaint := by
  refine ⟨rfl, rfl, ?_, rfl⟩
  have long : 90 ≤ ctx.complainant.txMicLen ckn.length + icvLen := by
    change 90 ≤ 14 + 4 + (4 + (28 + ckn.length)) + 20 + 0 + 44 + 16
    omega
  change (true && ctx.localMi == ctx.localMi && decide _) = true
  rw [beq_self_eq_true, decide_eq_true long]
  rfl

/-- A peer that was silent for long enough is lost. -/
theorem tick_of_silent (inv : ctx.Inv) (valid : ctx.peer.valid = true)
    {nowMs : UInt32}
    (silent : ctx.txIntervalMs * peerTimeoutMultiplier ≤
      nowMs - ctx.peer.lastSeenMs) :
    (ctx.tick nowMs).2 = { ctx.bereft with lastTickMs := nowMs } := by
  have allowed : stateTransitionAllowed ctx.state .waitPeer = true := by
    have shape := inv.peer
    cases state : ctx.state with
    | init | error =>
        rw [state] at shape
        exact shape.elim
    | waitPeer | peerDiscovered | peerLive | operational => rfl
  have expired :
      ({ ctx with lastTickMs := nowMs }).expirePeer nowMs =
        { ctx.bereft with lastTickMs := nowMs } := by
    rw [expirePeer, if_pos ⟨valid, silent⟩]
    dsimp only
    rw [setState_of_allowed (by exact allowed)]
    rfl
  have due :
      ({ ctx.bereft with lastTickMs := nowMs } : Participant).txReasons ≠ 0 :=
    fun none => absurd (UInt32.or_eq_zero_iff.mp none).2 (by decide)
  unfold tick
  dsimp only
  rw [expired, if_pos due]

theorem includeDistributedSak_iff :
    ctx.includeDistributedSak = true ↔
      ctx.localKeyServer = true ∧ ctx.peer.valid = true ∧
        ctx.peer.live = true ∧ sakDistributable ctx.latestSak = true ∧
        ctx.latestSak.origin = .localKeyServer ∧
        (ctx.latestSak.lifecycleState = .distributionPending ∨
          ctx.latestSak.peerRxConfirmed = false) := by
  simp [includeDistributedSak, and_assoc]

/-- A local SAK waits for its distribution, or it was distributed or
installed. -/
theorem lifecycle_of_own (shape : LatestShape ctx.latestSak)
    (own : ctx.latestSak.origin = .localKeyServer) :
    ctx.latestSak.lifecycleState = .distributionPending ∨
      ctx.latestSak.lifecycleState = .distributed ∨
      ctx.latestSak.lifecycleState = .installPending ∨
      ctx.latestSak.lifecycleState = .active ∨
      ctx.latestSak.lifecycleState = .confirmed := by
  unfold LatestShape at shape
  cases lifecycle : ctx.latestSak.lifecycleState with
  | none =>
      rw [lifecycle] at shape
      rw [shape] at own
      exact SakOrigin.noConfusion own
  | candidate =>
      rw [lifecycle, own] at shape
      exact SakOrigin.noConfusion shape.2.1
  | retiring =>
      rw [lifecycle] at shape
      exact shape.elim
  | distributionPending | distributed | installPending | active
  | confirmed => simp

/-- A complaint about a local SAK leaves it to be distributed again. -/
theorem processMkpdu_complaint (inv : ctx.Inv) {report : SakUse}
    (takes : ctx.Takes pdu) (stays : ¬ctx.Displaces pdu)
    (wins : ctx.keyServerPriority < pdu.basic.keyServerPriority)
    (own : ctx.latestSak.origin = .localKeyServer)
    (use : pdu.sakUse = .ok report)
    (named : report.keyServerMi = ctx.localMi ∧
      report.keyNumber = ctx.latestSak.keyNumber ∧
      report.an = ctx.latestSak.an)
    (denied : report.latestRx = false) (rnd : Octets 16) (nowMs : UInt32) :
    let after := (ctx.processMkpdu pdu rnd nowMs).2
    sakDistributable after.latestSak = true ∧
      after.latestSak.origin = .localKeyServer ∧
      (after.latestSak.lifecycleState = .distributionPending ∨
        after.latestSak.peerRxConfirmed = false) ∧
      after.latestSak.sak = ctx.latestSak.sak := by
  dsimp only
  have states := lifecycle_of_own inv.latest own
  rcases ctx.processMkpdu_slots inv pdu rnd nowMs with
    ⟨-, ⟨slots, silent⟩ | ⟨other, scan, reported, slots⟩⟩ | ⟨displaces, -⟩
  · have latest : (ctx.processMkpdu pdu rnd nowMs).2.latestSak =
        ctx.latestSak := congrArg Slots.latest slots
    have unreported := silent takes report use
    rcases states with pending | reportable
    · rw [latest]
      refine ⟨?_, own, Or.inl pending, rfl⟩
      rw [sakDistributable, pending]
      rfl
    · refine absurd ⟨reportable, ?_, named.2⟩ unreported
      rw [if_pos wins]
      exact ⟨own, named.1⟩
  · have latest : (ctx.processMkpdu pdu rnd nowMs).2.latestSak =
        reportedSak ctx.latestSak other := congrArg Slots.latest slots
    rw [use, Except.ok.injEq] at scan
    subst scan
    rw [latest]
    refine ⟨?_, own, Or.inr denied, rfl⟩
    simp only [sakDistributable, reportedSak, reportedLifecycle, denied]
    rcases reported.1 with lifecycle | lifecycle | lifecycle | lifecycle
    all_goals
      rw [lifecycle]
      rfl
  · exact absurd displaces stays

/-- A participant that holds a SAK of its own with both slots occupied puts it
into its MKPDUs again once its peer came back and complained. -/
theorem redistributes (inv : ctx.Inv) (valid : ctx.peer.valid = true)
    (wins : ctx.keyServerPriority < ctx.peer.keyServerPriority)
    (occupied : ctx.oldSak.lifecycleState ≠ .none)
    (own : ctx.latestSak.origin = .localKeyServer) (rnd : Octets 16)
    (ckn : Bytes) {nowMs : UInt32}
    (silent : ctx.txIntervalMs * peerTimeoutMultiplier ≤
      nowMs - ctx.peer.lastSeenMs) :
    let left := (ctx.tick nowMs).2
    let told :=
      (left.processMkpdu (left.heard ckn ctx.complainant) rnd nowMs).2
    told.Inv ∧ told.txReasons ≠ 0 ∧ told.includeDistributedSak = true ∧
      told.latestSak.sak = ctx.latestSak.sak := by
  dsimp only
  have leftInv := tick_inv inv nowMs
  rw [tick_of_silent inv valid silent] at leftInv ⊢
  generalize leaves : { ctx.bereft with lastTickMs := nowMs } = left
    at leftInv ⊢
  obtain ⟨priority, silence, listed, use⟩ :=
    ctx.mkpdu_complainant ckn (Octets.zero 16)
  have same : left.heard ckn ctx.complainant =
      ctx.complainant.mkpdu ckn (Octets.zero 16) ctx.localMi := by
    rw [← leaves]
    rfl
  rw [same]
  generalize ctx.complainant.mkpdu ckn (Octets.zero 16) ctx.localMi = pdu
    at priority silence listed use ⊢
  have undistributed : ¬left.Distributes pdu := by
    rintro ⟨found, distributes, -⟩
    rw [silence] at distributes
    cases distributes
  have takes : left.Takes pdu :=
    ⟨by rw [silence]; rfl, fun distributes => absurd distributes undistributed⟩
  have latest : left.latestSak = ctx.latestSak := by rw [← leaves]; rfl
  have stays : ¬left.Displaces pdu := by
    rintro ⟨-, distributes | ⟨-, -, free⟩⟩
    · exact undistributed distributes
    · rw [← leaves] at free
      exact occupied free
  have beats : left.keyServerPriority < pdu.basic.keyServerPriority := by
    rw [← leaves, priority]
    exact wins
  have told : (left.met pdu.basic pdu.localSeen nowMs).SameRest
      (left.processMkpdu pdu rnd nowMs).2 := by
    rcases left.processMkpdu_cases leftInv pdu rnd nowMs with
      ⟨refused, -⟩ | ⟨-, rest, -⟩
    · exact absurd takes refused
    · exact rest
  have due : (left.processMkpdu pdu rnd nowMs).2.txReasons ≠ 0 := by
    refine (schedules_processMkpdu leftInv pdu rnd nowMs).due ?_
    rw [← leaves]
    exact fun none => absurd (UInt32.or_eq_zero_iff.mp none).2 (by decide)
  obtain ⟨distributable, origin, waits, sak⟩ :=
    left.processMkpdu_complaint leftInv takes stays beats (latest ▸ own) use
      (by rw [← leaves]; exact ⟨rfl, rfl, rfl⟩) rfl rnd nowMs
  refine ⟨processMkpdu_inv leftInv pdu rnd nowMs, due, ?_, latest ▸ sak⟩
  rw [includeDistributedSak_iff]
  refine ⟨?_, ?_, ?_, distributable, origin, waits⟩
  · rw [told]
    exact decide_eq_true beats
  · rw [told]
    rfl
  · rw [told]
    change (pdu.localSeen || _) = true
    rw [listed]
    rfl

end Participant

/-- The sender of an accepted MKPDU differs from its receiver. -/
theorem not_own_of_accepted {frame : Bytes} {pdu : Mkpdu}
    (accepted : classify aes ctx frame = .accepted pdu) :
    pdu.basic.srcMac ≠ ctx.localMac ∧ pdu.basic.sci ≠ ctx.localSci ∧
      pdu.basic.actorMi ≠ ctx.localMi := by
  obtain ⟨basic, -, -, foreign, -, rfl⟩ := checks_of_accepted accepted
  simpa [isOwnFrame, and_assoc, compare_octets_eq_zero, decode] using foreign

/-- A SAK that may be included is offered. -/
theorem exists_offeredSak {sender : Participant}
    (shape : LatestShape sender.latestSak)
    (included : sender.includeDistributedSak = true) :
    ∃ found, sender.offeredSak = .ok found ∧
      found.sak = sender.latestSak.sak ∧
      found.keyNumber = sender.latestSak.keyNumber ∧
      found.an = sender.latestSak.an := by
  obtain ⟨held, -, -⟩ :=
    Participant.held_of_includeDistributedSak shape included
  rw [Participant.offeredSak, if_pos included, dif_pos held.keyNumber,
    dif_pos held.length]
  exact ⟨_, rfl, rfl, rfl, rfl⟩

/-- A participant that may include its SAK generates none and serves no foreign
one. -/
theorem settled_of_included {sender : Participant}
    (included : sender.includeDistributedSak = true) (rnd : Octets 16) :
    (sender.ensureForTx rnd).2 = sender ∧ ¬sender.ServesForeignSak := by
  obtain ⟨-, -, -, distributable, own, -⟩ :=
    Participant.includeDistributedSak_iff.mp included
  constructor
  · have present : sender.latestSak.lifecycleState ≠ .none := by
      intro absent
      rw [sakDistributable, absent] at distributable
      exact Bool.noConfusion distributable
    unfold Participant.ensureForTx
    split
    next => exact Participant.keyServerEnsureSak_of_some present rnd
    next => rfl
  · rintro ⟨-, -, foreign⟩
    rw [own] at foreign
    exact SakOrigin.noConfusion foreign

/-- If both slots are occupied and the latest SAK is a local one, some run that
draws given octets only sends it to the peer. -/
theorem exists_run_sending (reachable : Reachable aes ctx)
    (valid : ctx.peer.valid = true)
    (foreign : ctx.peer.mac ≠ ctx.localMac ∧ ctx.peer.sci ≠ ctx.localSci ∧
      ctx.peer.mi ≠ ctx.localMi)
    (wins : ctx.keyServerPriority < ctx.peer.keyServerPriority)
    (occupied : ctx.oldSak.lifecycleState ≠ .none)
    (own : ctx.latestSak.origin = .localKeyServer) (rnd : Octets 16) :
    ∃ calls : List Call,
      (∀ key : Bytes, rnd.1 ≠ key → ∀ call ∈ calls, call.Avoids key) ∧
        ∃ found, Sent aes ((machine aes).events ctx calls) found ∧
          found.sak = ctx.latestSak.sak := by
  have inv := reachable.inv
  have plays : Plays ctx.crypto ctx ctx.toParticipant :=
    ⟨reachable.keyed.1, rfl, reachable.keyed.2, inv, rfl⟩
  obtain ⟨nowMs, silent⟩ : ∃ nowMs,
      ctx.txIntervalMs * peerTimeoutMultiplier ≤
        nowMs - ctx.peer.lastSeenMs := by
    refine ⟨ctx.txIntervalMs * peerTimeoutMultiplier + ctx.peer.lastSeenMs, ?_⟩
    rw [UInt32.add_sub_cancel]
    exact UInt32.le_refl _
  obtain ⟨toldInv, due, included, sak⟩ :=
    ctx.toParticipant.redistributes inv valid wins occupied own rnd
      ctx.crypto.psk.ckn silent
  have held := inv.latest.held fun absent => by
    rw [inv.latest.eq_cleared absent] at own
    exact SakOrigin.noConfusion own
  have other : (ctx.toParticipant.tick nowMs).2.Other
      ctx.toParticipant.complainant := by
    rw [Participant.tick_of_silent inv valid silent]
    exact ⟨⟨⟨held.length, held.keyNumber, SakOrigin.noConfusion⟩, rfl,
      ⟨rfl, rfl, rfl, rfl⟩⟩, foreign⟩
  obtain ⟨found, offered, same, -, -⟩ :=
    exists_offeredSak toldInv.latest included
  obtain ⟨settled, own⟩ := settled_of_included included rnd
  refine ⟨[.act (.tick nowMs), .hear ctx.toParticipant.complainant rnd nowMs,
    .build rnd].map (Cue.call aes ctx.crypto), ?_, found, ?_, same.trans sak⟩
  · intro key fresh call member
    simp only [List.map_cons, List.map_nil, List.mem_cons, List.not_mem_nil,
      or_false] at member
    rcases member with rfl | rfl | rfl
    · trivial
    · exact fresh
    · exact fresh
  · refine @Plays.sent aes _ _ _ plays
      [.act (.tick nowMs), .hear ctx.toParticipant.complainant rnd nowMs] rnd
      [] ?_ found ?_
    · exact List.forall_mem_cons.mpr ⟨rfl, List.forall_mem_cons.mpr ⟨other,
        List.forall_mem_cons.mpr ⟨⟨due, own⟩, List.forall_mem_nil _⟩⟩⟩
    · exact (congrArg Participant.offeredSak settled).trans offered

/-- After every authenticated MKPDU that replaces the peer of a Key Server, no
MKPDU built later distributes the SAK it had, provided that the random octets
are fresh: precisely unless the old slot was occupied and the SAK a local
one. -/
theorem previous_sak_withheld_iff
    (aes : BlockCipher) (ctx : Ctx) (reachable : Reachable aes ctx)
    (present : ctx.latestSak.lifecycleState ≠ .none)
    (frame : Bytes) (rnd : Octets 16) (nowMs : UInt32) (pdu : Mkpdu)
    (authenticated : classify aes ctx frame = .accepted pdu)
    (fresh : rnd.1 ≠ ctx.latestSak.sak)
    (replaced :
      ctx.peer.Differs (input aes ctx frame rnd nowMs).2.peer)
    (stillServer : (input aes ctx frame rnd nowMs).2.localKeyServer = true) :
    (∀ calls : List Call, (∀ call ∈ calls, call.Avoids ctx.latestSak.sak) →
      ∀ found,
        Sent aes
            ((machine aes).events (input aes ctx frame rnd nowMs).2 calls)
            found →
          found.sak ≠ ctx.latestSak.sak) ↔
      ¬(ctx.oldSak.lifecycleState ≠ .none ∧
        ctx.latestSak.origin = .localKeyServer) := by
  have inv := reachable.inv
  have received : (input aes ctx frame rnd nowMs).2.toParticipant =
      (ctx.toParticipant.processMkpdu pdu rnd nowMs).2 := by
    have received := congrArg Prod.snd (input_receive aes ctx frame rnd nowMs)
    rw [authenticated] at received
    exact received
  have reached : Reachable aes (input aes ctx frame rnd nowMs).2 :=
    reachable.perform (.input frame rnd nowMs)
  generalize (input aes ctx frame rnd nowMs).2 = after
    at received reached replaced stillServer ⊢
  rw [received] at replaced stillServer
  obtain ⟨takes, changed, rest⟩ := Participant.taken_of_differs inv replaced
  have wins : ctx.keyServerPriority < pdu.basic.keyServerPriority := by
    rw [rest] at stillServer
    exact of_decide_eq_true stillServer
  have slots := ctx.toParticipant.processMkpdu_slots inv pdu rnd nowMs
  rw [← received] at rest slots
  constructor
  · rintro withheld ⟨occupied, own⟩
    obtain ⟨old, origin, sak⟩ :
        after.oldSak = ctx.oldSak ∧
          after.latestSak.origin = ctx.latestSak.origin ∧
          after.latestSak.sak = ctx.latestSak.sak := by
      rcases slots with
        ⟨-, ⟨same, -⟩ | ⟨report, -, -, same⟩⟩ |
        ⟨⟨-, distributes | ⟨-, -, free⟩⟩, -⟩
      · exact ⟨congrArg Slots.old same, congrArg (·.latest.origin) same,
          congrArg (·.latest.sak) same⟩
      · exact ⟨congrArg Slots.old same, congrArg (·.latest.origin) same,
          congrArg (·.latest.sak) same⟩
      · exact absurd (takes.2 distributes) (not_or.mpr ⟨present, occupied⟩)
      · exact absurd free occupied
    obtain ⟨calls, avoids, found, isSent, same⟩ :=
      exists_run_sending reached (by rw [rest]; rfl)
        (by rw [rest]; exact not_own_of_accepted authenticated)
        (by rw [rest]; exact wins) (old ▸ occupied) (origin.trans own) rnd
    exact withheld calls (avoids _ fresh) found isSent (same.trans sak)
  · intro notStuck calls avoids found isSent
    refine withheld_in_run reached.inv reached.keyed.1 ?_ calls avoids found
      isSent
    have displaces (own : ctx.latestSak.origin = .localKeyServer) :
        ctx.toParticipant.Displaces pdu := by
      refine ⟨takes, Or.inr ⟨⟨changed, wins⟩, present, ?_⟩⟩
      by_contra occupied
      exact notStuck ⟨occupied, own⟩
    rcases slots with
      ⟨stays, ⟨same, -⟩ | ⟨report, -, -, same⟩⟩ | ⟨-, sak, enters, same⟩
    · intro own
      have origin : after.latestSak.origin = ctx.latestSak.origin :=
        congrArg (·.latest.origin) same
      exact absurd (displaces (origin ▸ own)) stays
    · intro own
      have origin : after.latestSak.origin = ctx.latestSak.origin :=
        congrArg (·.latest.origin) same
      exact absurd (displaces (origin ▸ own)) stays
    · exact enters.withholds fresh (congrArg Slots.latest same)

/-- Station 1 holds a SAK that its peer may know when that peer restarts; the
new peer gets another one. -/
theorem restarted_peer_gets_new_sak :
    ∃ ctx frame, Reachable BlockCipher.null ctx ∧
      ctx.latestSak.sak = (sakOctets 2).1 ∧
      ∀ calls : List Call, (∀ call ∈ calls, call.Avoids ctx.latestSak.sak) →
        ∀ found,
          Sent BlockCipher.null
              ((machine BlockCipher.null).events
                (input BlockCipher.null ctx frame (sakOctets 3) 6).2 calls)
              found →
            found.sak ≠ ctx.latestSak.sak := by
  obtain ⟨ctx, reachable, plays⟩ :=
    @exists_final BlockCipher.null 1 10 11
      [.hear admirer (sakOctets 1) 5, .build (sakOctets 2)] (by decide)
  obtain ⟨⟨icv, accepted⟩, -, played⟩ :=
    @StationPlays.hear BlockCipher.null _ _ plays (newcomer 2 20 13) (by decide)
      (sakOctets 3) 6
  have after := played.same
  have latest := congrArg Participant.latestSak plays.same
  have old := congrArg Participant.oldSak plays.same
  have peer := congrArg Participant.peer plays.same
  have peerAfter := congrArg Participant.peer after
  have serverAfter := congrArg Participant.localKeyServer after
  refine ⟨ctx, _, reachable, by rw [latest]; decide,
    (previous_sak_withheld_iff _ ctx reachable ?_ _ _ _ _ accepted ?_ ?_
      ?_).mpr ?_⟩
  · rw [latest]
    decide
  · rw [latest]
    decide
  · rw [peer, peerAfter]
    exact Or.inl (by decide)
  · rw [serverAfter]
    decide
  · rw [old]
    exact fun stuck => absurd rfl stuck.1

/-- Station 1 provisions its peer with a SAK, and again once the peer has
restarted. -/
def remarriage : List Cue :=
  .hear admirer (sakOctets 1) 5 :: provision 1 0 2 ++
    .hear ((newcomer 2 20 13).listing (newcomer 1 10 11)) (sakOctets 3) 6 ::
      provision 2 1 4

/-- Under no cipher is the previous SAK withheld from every replacement peer:
the peer of station 1 restarts once more before it confirmed any SAK. -/
theorem not_forall_previous_sak_withheld :
    ¬∃ aes, ∀ (ctx : Ctx) (frame : Bytes) (rnd : Octets 16) (nowMs : UInt32)
      (pdu : Mkpdu), Reachable aes ctx → ctx.localKeyServer = true →
        ctx.latestSak.lifecycleState ≠ .none →
          classify aes ctx frame = .accepted pdu →
            rnd.1 ≠ ctx.latestSak.sak →
              ctx.peer.Differs (input aes ctx frame rnd nowMs).2.peer →
                (input aes ctx frame rnd nowMs).2.localKeyServer = true →
                  ∀ calls : List Call,
                    (∀ call ∈ calls, call.Avoids ctx.latestSak.sak) →
                      ∀ found,
                        Sent aes
                            ((machine aes).events
                              (input aes ctx frame rnd nowMs).2 calls)
                            found →
                          found.sak ≠ ctx.latestSak.sak := by
  rintro ⟨aes, alwaysWithheld⟩
  obtain ⟨ctx, reachable, plays⟩ :=
    @exists_final aes 1 10 11 remarriage (by decide)
  obtain ⟨⟨icv, accepted⟩, -, played⟩ :=
    @StationPlays.hear aes _ _ plays (newcomer 2 20 14) (by decide)
      (sakOctets 5) 7
  have after := played.same
  have latest := congrArg Participant.latestSak plays.same
  have server := congrArg Participant.localKeyServer plays.same
  have peer := congrArg Participant.peer plays.same
  have refuted := alwaysWithheld ctx _ (sakOctets 5) 7 _ reachable
    (by rw [server]; decide) (by rw [latest]; decide) accepted
    (by rw [latest]; decide)
  have reached := reachable.perform (.input (frameOf aes
    (MkaCrypto.keysOf aes stationCak stationCkn) (newcomer 2 20 14))
    (sakOctets 5) 7)
  change Reachable aes (input aes ctx _ _ _).2 at reached
  revert refuted reached after
  generalize (input aes ctx _ (sakOctets 5) 7).2 = next
  intro after refuted reached
  rw [peer, latest, after] at refuted
  obtain ⟨calls, avoids, found, isSent, same⟩ :=
    exists_run_sending reached (by rw [after]; decide)
      (by rw [after]; decide) (by rw [after]; decide) (by rw [after]; decide)
      (by rw [after]; decide) (sakOctets 5)
  rw [after] at same
  exact refuted (Or.inl (by decide)) (by decide) calls
    (avoids _ (by decide)) found isSent (same.trans (by decide))

end Mka

end Macsec
