import Macsec.Mka.Replacement

/-!
# Whose confirmation the flags record

The flags on the latest SAK record what the current peer confirmed.  An MKPDU
that changes the identity of the peer leaves them as they are if it neither
displaces the SAK nor reports on it; then they record what the previous peer
confirmed.
-/

namespace Macsec

namespace Mka

/-- A step records a peer, or another one than before. -/
def Establishes (event : Transition.Event Ctx Call Err) : Prop :=
  event.after.peer.valid = true ∧
    (event.before.peer.valid = false ∨
      event.before.peer.Differs event.after.peer)

/-- A SAK Use is about a SAK. -/
def SakUse.Names (report : SakUse) (slot : Sak) : Prop :=
  report.keyNumber = slot.keyNumber ∧ report.an = slot.an

/-- A step receives an authenticated MKPDU of a member with a SAK Use. -/
def Reports (aes : BlockCipher) (event : Transition.Event Ctx Call Err)
    (mi : Octets 12) (report : SakUse) : Prop :=
  ∃ frame rnd nowMs pdu,
    event.input = .input frame rnd nowMs ∧
      classify aes event.before frame = .accepted pdu ∧
        pdu.basic.actorMi = mi ∧ pdu.sakUse = .ok report

/-- Since the peer was last established, a member confirmed a direction of a
SAK. -/
def ConfirmedBy (aes : BlockCipher)
    (past : List (Transition.Event Ctx Call Err)) (mi : Octets 12) (slot : Sak)
    (direction : SakUse → Bool) : Prop :=
  ∃ early event late report,
    past = early ++ event :: late ∧ (∀ other ∈ late, ¬Establishes other) ∧
      Reports aes event mi report ∧ report.Names slot ∧
        direction report = true

/-- The flags of the latest SAK record what the current peer confirmed. -/
def Warranted (aes : BlockCipher)
    (past : List (Transition.Event Ctx Call Err)) (ctx : Participant) : Prop :=
  ctx.peer.valid = true →
    (ctx.latestSak.peerRxConfirmed = true →
      ConfirmedBy aes past ctx.peer.mi ctx.latestSak SakUse.latestRx) ∧
    (ctx.latestSak.peerTxConfirmed = true →
      ConfirmedBy aes past ctx.peer.mi ctx.latestSak SakUse.latestTx)

/-- The SAK Use of an MKPDU replaces a flag or confirms it. -/
def Participant.Renews (ctx : Participant) (pdu : Mkpdu)
    (direction : SakUse → Bool) : Prop :=
  ∃ report, pdu.sakUse = .ok report ∧
    (ctx.ReportedBy pdu report ∨
      report.Names ctx.latestSak ∧ direction report = true)

/-- The confirmation of the previous peer does not survive an MKPDU that changes
the identity of the peer: the latest SAK is displaced, or its flags were clear,
or the MKPDU reports on it. -/
def Participant.Renewing (ctx : Participant) (pdu : Mkpdu) : Prop :=
  ctx.Takes pdu → ctx.peerIdentityChanged pdu.basic = true →
    ctx.Displaces pdu ∨
      (ctx.latestSak.peerRxConfirmed = true →
        ctx.Renews pdu SakUse.latestRx) ∧
      (ctx.latestSak.peerTxConfirmed = true →
        ctx.Renews pdu SakUse.latestTx)

/-- No step of a run lets the confirmation of a previous peer survive. -/
def RenewsConfirmation (aes : BlockCipher)
    (event : Transition.Event Ctx Call Err) : Prop :=
  ∀ frame rnd nowMs pdu,
    event.input = .input frame rnd nowMs →
      classify aes event.before frame = .accepted pdu →
        event.before.Renewing pdu

variable {aes : BlockCipher} {ctx : Ctx}
  {past : List (Transition.Event Ctx Call Err)}

/-- A confirmation stays valid while the peer stays the same. -/
theorem ConfirmedBy.concat {event : Transition.Event Ctx Call Err}
    {mi : Octets 12} {slot : Sak} {direction : SakUse → Bool}
    (confirmed : ConfirmedBy aes past mi slot direction)
    (steady : ¬Establishes event) :
    ConfirmedBy aes (past ++ [event]) mi slot direction := by
  obtain ⟨early, source, late, report, split, calm, reports, rest⟩ := confirmed
  refine ⟨early, source, late ++ [event], report, ?_, ?_, reports, rest⟩
  · rw [split, List.append_assoc, List.cons_append]
  · intro other member
    rcases List.mem_append.mp member with earlier | last
    · exact calm other earlier
    · rw [List.mem_singleton.mp last]
      exact steady

/-- The last MKPDU itself may confirm. -/
theorem ConfirmedBy.last {event : Transition.Event Ctx Call Err}
    {mi : Octets 12} {slot : Sak} {direction : SakUse → Bool}
    {report : SakUse} (reports : Reports aes event mi report)
    (names : report.Names slot) (confirms : direction report = true) :
    ConfirmedBy aes (past ++ [event]) mi slot direction :=
  ⟨past, event, [], report, rfl, fun _ member => absurd member List.not_mem_nil,
    reports, names, confirms⟩

/-- After a step that establishes the peer only its own MKPDU confirms. -/
theorem ConfirmedBy.of_establishes {event : Transition.Event Ctx Call Err}
    {mi : Octets 12} {slot : Sak} {direction : SakUse → Bool}
    (confirmed : ConfirmedBy aes (past ++ [event]) mi slot direction)
    (establishes : Establishes event) :
    ∃ report, Reports aes event mi report ∧ report.Names slot ∧
      direction report = true := by
  obtain ⟨early, source, late, report, split, calm, reports, rest⟩ := confirmed
  induction late using List.reverseRecOn with
  | nil =>
      obtain ⟨-, same⟩ := List.append_inj' split rfl
      cases same
      exact ⟨report, reports, rest⟩
  | append_singleton late last _ =>
      rw [← List.cons_append, ← List.append_assoc] at split
      obtain ⟨-, same⟩ := List.append_inj' split rfl
      cases same
      exact absurd establishes
        (calm event (List.mem_append_right late (List.mem_singleton.mpr rfl)))

/-- Flags that are clear need no confirmation. -/
theorem warranted_of_clear {after : Participant}
    (rx : after.latestSak.peerRxConfirmed = false)
    (tx : after.latestSak.peerTxConfirmed = false) :
    Warranted aes past after := by
  refine fun _ => ⟨fun set => ?_, fun set => ?_⟩
  · rw [rx] at set
    exact Bool.noConfusion set
  · rw [tx] at set
    exact Bool.noConfusion set

/-- A step that leaves the peer, its flags and the numbers of the SAK alone
keeps the flags warranted. -/
theorem Warranted.keep {event : Transition.Event Ctx Call Err}
    {before after : Participant} (warranted : Warranted aes past before)
    (steady : ¬Establishes event)
    (valid : after.peer.valid = true → before.peer.valid = true)
    (mi : after.peer.mi = before.peer.mi)
    (keyNumber : after.latestSak.keyNumber = before.latestSak.keyNumber)
    (an : after.latestSak.an = before.latestSak.an)
    (rx : after.latestSak.peerRxConfirmed = before.latestSak.peerRxConfirmed)
    (tx : after.latestSak.peerTxConfirmed =
      before.latestSak.peerTxConfirmed) :
    Warranted aes (past ++ [event]) after := by
  intro known
  obtain ⟨rxConfirmed, txConfirmed⟩ := warranted (valid known)
  have names (report : SakUse) :
      report.Names before.latestSak → report.Names after.latestSak := by
    rw [SakUse.Names, SakUse.Names, keyNumber, an]
    exact id
  rw [mi]
  constructor
  · intro set
    obtain ⟨early, source, late, report, split, calm, reports, named, rest⟩ :=
      rxConfirmed (rx ▸ set)
    exact ConfirmedBy.concat
      ⟨early, source, late, report, split, calm, reports, names report named,
        rest⟩ steady
  · intro set
    obtain ⟨early, source, late, report, split, calm, reports, named, rest⟩ :=
      txConfirmed (tx ▸ set)
    exact ConfirmedBy.concat
      ⟨early, source, late, report, split, calm, reports, names report named,
        rest⟩ steady

/-- Recording the sender of an MKPDU establishes a peer precisely if the peer
identity changes. -/
theorem establishes_iff {event : Transition.Event Ctx Call Err} {pdu : Mkpdu}
    {nowMs : UInt32}
    (met : event.after.peer =
      event.before.metPeer pdu.basic pdu.localSeen nowMs) :
    Establishes event ↔
      event.before.peerIdentityChanged pdu.basic = true := by
  rw [← not_iff_not, Bool.not_eq_true, not_peerIdentityChanged_iff,
    Establishes, met, Peer.Differs]
  simp only [Participant.metPeer, true_and, not_or, Bool.not_eq_false, ne_eq,
    not_not]

/-- After a received MKPDU the flags are warranted precisely if it lets no
confirmation of a previous peer survive. -/
theorem warranted_receive_iff (inv : ctx.toParticipant.Inv)
    (warranted : Warranted aes past ctx.toParticipant) {frame : Bytes}
    {rnd : Octets 16} {nowMs : UInt32} {pdu : Mkpdu}
    (accepted : classify aes ctx frame = .accepted pdu)
    {event : Transition.Event Ctx Call Err}
    (before : event.before = ctx) (input : event.input = .input frame rnd nowMs)
    (after : event.after.toParticipant =
      (ctx.toParticipant.processMkpdu pdu rnd nowMs).2) :
    Warranted aes (past ++ [event]) event.after.toParticipant ↔
      ctx.toParticipant.Renewing pdu := by
  have reports {report : SakUse} (scan : pdu.sakUse = .ok report) :
      Reports aes event pdu.basic.actorMi report :=
    ⟨frame, rnd, nowMs, pdu, input, before ▸ accepted, rfl, scan⟩
  have only {report : SakUse}
      (reports : Reports aes event pdu.basic.actorMi report) :
      pdu.sakUse = .ok report := by
    obtain ⟨frame', rnd', nowMs', pdu', input', accepted', -, scan⟩ := reports
    rw [input, Call.input.injEq] at input'
    obtain ⟨rfl, -, -⟩ := input'
    rw [before, accepted, Received.accepted.injEq] at accepted'
    rw [accepted']
    exact scan
  rcases ctx.toParticipant.processMkpdu_cases inv pdu rnd nowMs with
    ⟨refused, same⟩ | ⟨takes, rest, -⟩
  · rw [after, same]
    have steady : ¬Establishes event := by
      rw [same] at after
      rw [Establishes, before, after]
      rintro ⟨valid, invalid | other | other | other⟩
      · rw [valid] at invalid
        exact Bool.noConfusion invalid
      all_goals exact other rfl
    exact iff_of_true
      (warranted.keep steady id rfl rfl rfl rfl rfl)
      fun takes => absurd takes refused
  · have peer : (ctx.toParticipant.processMkpdu pdu rnd nowMs).2.peer =
        ctx.toParticipant.metPeer pdu.basic pdu.localSeen nowMs := by
      rw [rest]
      rfl
    have establishes : Establishes event ↔
        ctx.toParticipant.peerIdentityChanged pdu.basic = true := by
      rw [← before]
      exact establishes_iff (by rw [after, before]; exact peer)
    have slots := ctx.toParticipant.processMkpdu_slots inv pdu rnd nowMs
    have mi : (ctx.toParticipant.processMkpdu pdu rnd nowMs).2.peer.mi =
        pdu.basic.actorMi := by
      rw [peer]
      rfl
    have valid : (ctx.toParticipant.processMkpdu pdu rnd nowMs).2.peer.valid =
        true := by
      rw [peer]
      rfl
    rw [after]
    generalize (ctx.toParticipant.processMkpdu pdu rnd nowMs).2 = next
      at mi valid slots ⊢
    rcases slots with
      ⟨stays, ⟨same, unreported⟩ | ⟨report, scan, reported, same⟩⟩ |
      ⟨displaces, sak, enters, same⟩
    · have latest : next.latestSak = ctx.latestSak :=
        congrArg Slots.latest same
      cases changed : ctx.toParticipant.peerIdentityChanged pdu.basic with
      | false =>
          rw [changed] at establishes
          obtain ⟨known, sameMi, -, -⟩ := not_peerIdentityChanged_iff.mp changed
          refine iff_of_true ?_ fun _ isChanged => ?_
          · exact warranted.keep
              (fun isNew => Bool.false_ne_true (establishes.mp isNew))
              (fun _ => known) (mi.trans sameMi) (by rw [latest])
              (by rw [latest]) (by rw [latest]) (by rw [latest])
          · rw [changed] at isChanged
            exact Bool.noConfusion isChanged
      | true =>
          have isNew := establishes.mpr changed
          simp only [Participant.Renewing, changed, takes, stays, false_or,
            true_implies, Warranted, valid, latest, mi]
          refine and_congr (imp_congr_right fun _ => ?_)
            (imp_congr_right fun _ => ?_)
          all_goals
            constructor
            · intro confirmed
              obtain ⟨report, isReport, confirms⟩ :=
                confirmed.of_establishes isNew
              exact ⟨report, only isReport, Or.inr confirms⟩
            · rintro ⟨report, scan, reported | ⟨named, confirms⟩⟩
              · exact absurd reported (unreported takes report scan)
              · exact .last (reports scan) named confirms
    · have latest : next.latestSak =
          Participant.reportedSak ctx.latestSak report :=
        congrArg Slots.latest same
      refine iff_of_true (fun _ => ?_) fun _ _ => Or.inr
        ⟨fun _ => ⟨report, scan, Or.inl reported⟩,
          fun _ => ⟨report, scan, Or.inl reported⟩⟩
      rw [latest, mi]
      exact ⟨fun confirms => .last (reports scan) reported.2.2 confirms,
        fun confirms => .last (reports scan) reported.2.2 confirms⟩
    · have latest : next.latestSak = sak := congrArg Slots.latest same
      obtain ⟨rx, tx⟩ := enters.clear
      exact iff_of_true
        (warranted_of_clear (by rw [latest, rx]) (by rw [latest, tx]))
        fun _ _ => Or.inl displaces

/-- A call that accepts no MKPDU keeps the flags warranted. -/
theorem warranted_of_silent (inv : ctx.toParticipant.Inv)
    (warranted : Warranted aes past ctx.toParticipant) {call : Call}
    (silent : ∀ frame rnd nowMs pdu, call = .input frame rnd nowMs →
      classify aes ctx frame ≠ .accepted pdu) :
    Warranted aes (past ++ [(machine aes).event ctx call])
      (perform aes ctx call).1.toParticipant := by
  have move := @perform_move aes ctx inv call
  have steady (peer : (perform aes ctx call).1.peer = ctx.peer ∨
      (perform aes ctx call).1.peer.valid = false) :
      ¬Establishes ((machine aes).event ctx call) := by
    change ¬((perform aes ctx call).1.peer.valid = true ∧
      (ctx.peer.valid = false ∨
        ctx.peer.Differs (perform aes ctx call).1.peer))
    rcases peer with same | invalid
    · rw [same]
      rintro ⟨valid, invalid | other | other | other⟩
      · rw [valid] at invalid
        exact Bool.noConfusion invalid
      all_goals exact other rfl
    · rw [invalid]
      exact fun isNew => Bool.false_ne_true isNew.1
  revert steady
  change (((perform aes ctx call).1.toParticipant.peer = _ ∨
    (perform aes ctx call).1.toParticipant.peer.valid = false) → _) → _
  generalize (perform aes ctx call).1.toParticipant = after at move ⊢
  intro steady
  cases move with
  | receive accepted => exact absurd accepted (silent _ _ _ _ rfl)
  | generate absent latest counters peer =>
      exact warranted_of_clear (by rw [latest]; rfl) (by rw [latest]; rfl)
  | commit pending =>
      exact warranted.keep (steady (Or.inl rfl)) id rfl rfl rfl rfl rfl
  | advance latest due installing counters peer =>
      exact warranted.keep (steady (Or.inl peer)) (by rw [peer]; exact id)
        (by rw [peer]) (by rw [latest]) (by rw [latest]) (by rw [latest])
        (by rw [latest])
  | rest latest counters peer =>
      rcases peer with same | invalid
      · exact warranted.keep (steady (Or.inl same)) (by rw [same]; exact id)
          (by rw [same]) (by rw [latest]) (by rw [latest]) (by rw [latest])
          (by rw [latest])
      · intro valid
        rw [invalid] at valid
        exact Bool.noConfusion valid

/-- After every step the flags are warranted precisely if the step lets no
confirmation of a previous peer survive. -/
theorem warranted_perform_iff (inv : ctx.toParticipant.Inv)
    (warranted : Warranted aes past ctx.toParticipant) (call : Call) :
    Warranted aes (past ++ [(machine aes).event ctx call])
        (perform aes ctx call).1.toParticipant ↔
      RenewsConfirmation aes ((machine aes).event ctx call) := by
  have idle (silent : ∀ frame rnd nowMs pdu, call = .input frame rnd nowMs →
      classify aes ctx frame ≠ .accepted pdu) :
      Warranted aes (past ++ [(machine aes).event ctx call])
          (perform aes ctx call).1.toParticipant ↔
        RenewsConfirmation aes ((machine aes).event ctx call) :=
    iff_of_true (warranted_of_silent inv warranted silent)
      fun frame rnd nowMs pdu same accepted =>
        absurd accepted (silent frame rnd nowMs pdu same)
  cases call with
  | input frame rnd nowMs =>
      have received := congrArg Prod.snd (input_receive aes ctx frame rnd nowMs)
      dsimp only at received
      cases classified : classify aes ctx frame with
      | accepted pdu =>
          rw [classified] at received
          refine (warranted_receive_iff inv warranted classified rfl rfl
            received).trans ⟨fun renewing frame' rnd' nowMs' pdu' same
              accepted => ?_, fun all => all frame rnd nowMs pdu rfl classified⟩
          cases same
          change classify aes ctx frame = _ at accepted
          rw [classified, Received.accepted.injEq] at accepted
          exact accepted ▸ renewing
      | rejected ret =>
          refine idle fun frame' rnd' nowMs' pdu same => ?_
          cases same
          rw [classified]
          exact Received.noConfusion
      | own =>
          refine idle fun frame' rnd' nowMs' pdu same => ?_
          cases same
          rw [classified]
          exact Received.noConfusion
  | tick | takeEvents | buildTxFrame | notifyTxSuccess | notifyTxFailure
  | takeSakForInstall | notifySakInstalled | notifySakRetired =>
      exact idle fun _ _ _ _ same => Call.noConfusion same

/-- In every run of an initialised participant the flags of the latest SAK
record what the current peer confirmed since it was established, precisely if no
step lets the confirmation of a previous peer survive. -/
theorem confirmations_warranted_iff
    (aes : BlockCipher) (cak ckn : Bytes) (localMac : Octets 6)
    (portId : UInt16) (priority : UInt8) (interval : UInt32) (mi : Octets 12)
    (start : Ctx)
    (initialised :
      init aes cak ckn localMac portId priority interval mi = (.ok, start))
    (calls : List Call) :
    Transition.Guarded
        (fun past event =>
          Warranted aes (past ++ [event]) event.after.toParticipant)
        ((machine aes).events start calls) ↔
      ∀ event ∈ (machine aes).events start calls,
        RenewsConfirmation aes event := by
  obtain ⟨rfl, keyed⟩ := init_ok initialised
  have first :
      (initialCtx aes cak ckn localMac portId priority interval
          mi).toParticipant.Inv ∧
        Warranted aes []
          (initialCtx aes cak ckn localMac portId priority interval
            mi).toParticipant := by
    refine ⟨(resting_completeInit localMac portId priority interval mi).inv, ?_⟩
    change Warranted aes []
      (Participant.start localMac portId priority interval mi).completeInit
    rw [completeInit_eq]
    exact warranted_of_clear rfl rfl
  rw [← Transition.guarded_const_iff]
  constructor
  · refine @Transition.Machine.guarded_events _ _ _ (machine aes) _
      (fun past ctx => ctx.toParticipant.Inv ∧
        Warranted aes past ctx.toParticipant) _ _ first ?_ ?_ calls
    · exact fun past ctx call ⟨inv, _⟩ warranted =>
        ⟨perform_inv inv call, warranted⟩
    · exact fun past ctx call ⟨inv, warranted⟩ after =>
        (warranted_perform_iff inv warranted call).mp after
  · refine @Transition.Machine.guarded_events _ _ _ (machine aes) _
      (fun past ctx => ctx.toParticipant.Inv ∧
        Warranted aes past ctx.toParticipant) _ _ first ?_ ?_ calls
    · exact fun past ctx call ⟨inv, warranted⟩ renews =>
        ⟨perform_inv inv call,
          (warranted_perform_iff inv warranted call).mpr renews⟩
    · exact fun past ctx call ⟨inv, warranted⟩ renews =>
        (warranted_perform_iff inv warranted call).mpr renews

/-- The flags of station 1 are warranted while it gets to know its peer. -/
theorem courtship_warranted :
    let events :=
      (machine BlockCipher.null).events (stationCtx BlockCipher.null 1 10 11)
        (courtship.map (Cue.call BlockCipher.null
          (MkaCrypto.keysOf BlockCipher.null stationCak stationCkn)))
    Transition.Guarded
      (fun past event =>
        Warranted BlockCipher.null (past ++ [event]) event.after.toParticipant)
      events := by
  have plays := plays_stationCtx BlockCipher.null 1 10 11
  refine (confirmations_warranted_iff BlockCipher.null stationCak stationCkn
    (stationMac 1) 1 10 2000 (memberId 11) _
    (init_eq BlockCipher.null rfl (by decide) (by decide) _ _ _ _ _).1
    _).mpr ?_
  refine List.forall_mem_cons.mpr ⟨?_, List.forall_mem_cons.mpr ⟨?_,
    List.forall_mem_cons.mpr ⟨?_, List.forall_mem_nil _⟩⟩⟩
  · intro frame rnd nowMs pdu input accepted takes changed
    change _ ∨ ((stationCtx _ 1 10 11).toParticipant.latestSak.peerRxConfirmed =
        true → _) ∧
      ((stationCtx _ 1 10 11).toParticipant.latestSak.peerTxConfirmed = true →
        _)
    rw [plays.same]
    exact Or.inr ⟨fun set => absurd set (by decide),
      fun set => absurd set (by decide)⟩
  · exact fun frame rnd nowMs pdu input => Call.noConfusion input
  · exact fun frame rnd nowMs pdu input => Call.noConfusion input

/-- A Key Server that distributes a SAK to station 1. -/
def provider : Participant :=
  { (newcomer 2 10 12).listing (newcomer 1 20 11) with
    latestSak :=
      { Sak.cleared with
        sak := (sakOctets 7).1
        keyNumber := 1
        origin := .localKeyServer
        lifecycleState := .distributed
        lowestPn := 1 } }

/-- The same Key Server once it installed the SAK. -/
def user : Participant :=
  { provider with
    latestSak :=
      { provider.latestSak with
        lifecycleState := .active
        rxInstalled := true
        txInstalled := true } }

/-- Station 1 adopts the SAK of its Key Server, installs it, and the Key Server
confirms it. -/
def allegiance : List Cue :=
  [.hear provider (sakOctets 1) 5, .act .takeSakForInstall,
    .act (.notifySakInstalled 1 0 (installRx ||| installTx) 1),
    .hear user (sakOctets 2) 6]

/-- Under no cipher do the flags always record what the current peer confirmed:
the Key Server of station 1 restarts, and its new incarnation has confirmed
nothing. -/
theorem not_forall_confirmations_warranted :
    ¬∃ aes, ∀ (cak ckn : Bytes) (localMac : Octets 6) (portId : UInt16)
      (priority : UInt8) (interval : UInt32) (mi : Octets 12) (start : Ctx)
      (calls : List Call),
        init aes cak ckn localMac portId priority interval mi =
            (.ok, start) →
          Transition.Guarded
            (fun past event =>
              Warranted aes (past ++ [event]) event.after.toParticipant)
            ((machine aes).events start calls) := by
  rintro ⟨aes, alwaysWarranted⟩
  have plays :=
    @StationPlays.stationFinal aes _ _ (plays_stationCtx aes 1 20 11)
      allegiance (by decide)
  obtain ⟨⟨icv, accepted⟩, -, played⟩ :=
    @StationPlays.hear aes _ _ plays (newcomer 2 10 13) (by decide)
      (sakOctets 3) 7
  have after := played.same
  have guarded := alwaysWarranted stationCak stationCkn (stationMac 1) 1 20 2000
    (memberId 11) _
    (allegiance.map (Cue.call aes
        (MkaCrypto.keysOf aes stationCak stationCkn)) ++
      [.input (frameOf aes (MkaCrypto.keysOf aes stationCak stationCkn)
        (newcomer 2 10 13)) (sakOctets 3) 7])
    (init_eq aes rfl (by decide) (by decide) _ _ _ _ _).1
  rw [Transition.Machine.events_concat] at guarded
  have warranted := guarded.last
  generalize lastCtx : (machine aes).final (initialCtx aes stationCak stationCkn
    (stationMac 1) 1 20 2000 (memberId 11)) (allegiance.map _) = ctx
    at warranted
  change (machine aes).final (stationCtx aes 1 20 11) (allegiance.map _) = ctx
    at lastCtx
  rw [lastCtx] at plays accepted after
  have establishes : Establishes ((machine aes).event ctx
      (.input (frameOf aes (MkaCrypto.keysOf aes stationCak stationCkn)
        (newcomer 2 10 13)) (sakOctets 3) 7)) := by
    change (input aes ctx _ _ _).2.toParticipant.peer.valid = true ∧
      (ctx.toParticipant.peer.valid = false ∨
        ctx.toParticipant.peer.Differs
          (input aes ctx _ _ _).2.toParticipant.peer)
    rw [after, plays.same]
    exact ⟨by decide, Or.inr (Or.inl (by decide))⟩
  change Warranted aes _ (input aes ctx _ _ _).2.toParticipant at warranted
  rw [after] at warranted
  obtain ⟨report, ⟨frame, rnd, nowMs, pdu, same, accepted', -, scan⟩, -⟩ :=
    ((warranted (by decide)).1 (by decide)).of_establishes establishes
  cases same
  change classify aes ctx _ = _ at accepted'
  rw [accepted, Received.accepted.injEq] at accepted'
  rw [← accepted'] at scan
  cases scan

end Mka

end Macsec
