import Macsec.Api.Identity
import Macsec.Api.Scripts
import Macsec.Mka.Companions

/-!
# MKPDUs of companions

A context accepts every MKPDU of a companion, services it and does not end in
the error state, with one exception.  While both SAK slots are taken, an MKPDU
that distributes another SAK is refused as busy.  The old slot is only freed by
a peer that confirms the latest SAK, so a Key Server that restarts before it
does so finds the slot taken.
-/

namespace Macsec

variable {aes : BlockCipher} {ctx : Ctx}

/-- The outcome of a call that receives an MKPDU for which a slot is free: it is
processed and serviced, and a SAK that a Key Server distributes is installed. -/
structure Established (aes : BlockCipher)
    (event : Transition.Event Ctx Call Reply) (frame : Bytes)
    (rnd : Octets 16) : Prop where
  processed :
    (Mka.input aes event.before.mka frame rnd event.before.lastTickMs).1 = .ok
  succeeded : event.output.ret = .ok
  noError : event.after.state = .error → event.before.state = .error
  adopted : ∀ basic found,
    Mka.parseBasic frame = .ok basic →
      Mka.scanDistributedSak aes event.before.mka.crypto frame = .ok found →
      event.before.mka.sameSak found = false →
      basic.keyServerPriority ≤ event.before.mka.keyServerPriority →
        (event.after.mka.latestSak.sak = found.sak ∧
          event.after.mka.latestSak.keyNumber = found.keyNumber ∧
          event.after.mka.latestSak.an = found.an) ∧
        event.after.mka.latestSak.lifecycleState = .active ∧
        event.after.state = .secured

/-- The SAK that an accepted MKPDU distributes is adopted. -/
theorem Established.adopts
    {event : Transition.Event Ctx Call Reply} {frame : Bytes}
    {rnd : Octets 16} (established : Established aes event frame rnd)
    {pdu : Mka.Mkpdu}
    (accepted : Mka.classify aes event.before.mka frame = .accepted pdu)
    {found : Mka.DistributedSak} (offered : pdu.distributedSak = .ok found)
    (different : event.before.mka.sameSak found = false)
    (wins : pdu.basic.keyServerPriority ≤ event.before.mka.keyServerPriority) :
    (event.after.mka.latestSak.sak = found.sak ∧
        event.after.mka.latestSak.keyNumber = found.keyNumber ∧
        event.after.mka.latestSak.an = found.an) ∧
      event.after.mka.latestSak.lifecycleState = .active ∧
      event.after.state = .secured := by
  obtain ⟨parsed, decoded⟩ := Mka.decode_of_accepted accepted
  rw [decoded] at offered
  exact established.adopted _ found parsed offered different wins

/-- The outcome of a call that receives an MKPDU for which no slot is free: it
is refused, and the participant stays as it was. -/
structure TurnedAway (aes : BlockCipher)
    (event : Transition.Event Ctx Call Reply) (frame : Bytes)
    (rnd : Octets 16) : Prop where
  busy :
    (Mka.input aes event.before.mka frame rnd event.before.lastTickMs).1 =
      .busy
  unchanged : event.after.mka.toParticipant = event.before.mka.toParticipant
  failed : event.output.ret = .busy
  error : event.after.state = .error

/-- A companion stays one. -/
theorem Mka.FromCompanion.of {cak ckn frame : Bytes}
    {before after : Mka.Participant}
    (companion : Mka.FromCompanion aes cak ckn before frame)
    (identity : before.SameIdentity after) :
    Mka.FromCompanion aes cak ckn after frame := by
  obtain ⟨mac, sci, mi, -⟩ := identity
  unfold Mka.FromCompanion
  rw [mac, sci, mi]
  exact companion

/-- The call with an MKPDU of a companion. -/
theorem received_of_companion {cak ckn frame : Bytes} {start : Ctx}
    (member : Member aes cak ckn start ctx)
    (companion : Mka.FromCompanion aes cak ckn start.mka.toParticipant frame)
    (plain : Bytes) (rnd : Octets 16) :
    let event := (machine aes).event ctx (.input frame plain rnd)
    (¬Mka.LacksSlot aes ctx.mka frame → Established aes event frame rnd) ∧
      (Mka.LacksSlot aes ctx.mka frame → TurnedAway aes event frame rnd) := by
  intro event
  obtain ⟨resting, keys, verifying, named, identity⟩ := member
  have inv : ctx.mka.toParticipant.Inv := resting.mka.inv
  obtain ⟨pdu, accepted, read, report⟩ :=
    Mka.accepted_of_companion keys verifying named (companion.of identity)
  obtain ⟨parsed, decoded⟩ := Mka.decode_of_accepted accepted
  have scan : pdu.distributedSak =
      Mka.scanDistributedSak aes ctx.mka.crypto frame :=
    congrArg Mka.Mkpdu.distributedSak decoded
  have lacks : Mka.LacksSlot aes ctx.mka frame ↔
      ctx.mka.toParticipant.Distributes pdu ∧
        ctx.mka.latestSak.lifecycleState ≠ .none ∧
        ctx.mka.oldSak.lifecycleState ≠ .none := by
    unfold Mka.LacksSlot Mka.Participant.Distributes
    rw [scan]
  have takes : ctx.mka.toParticipant.Takes pdu ↔
      ¬Mka.LacksSlot aes ctx.mka frame := by
    rw [lacks]
    exact Mka.Participant.takes_iff_of_read read
  have input := (Mka.input_accepted accepted rnd ctx.lastTickMs).1
  obtain ⟨after, ret⟩ := input_of_accepted resting accepted plain rnd
  change event.after.control = _ at after
  change event.output.ret = _ at ret
  have outcome :=
    Control.receiveMka_cases resting (.accepted pdu)
      (fun same => Mka.Received.noConfusion same) rnd
  dsimp only at outcome
  constructor
  · intro room
    have processed :=
      (Mka.Participant.processMkpdu_ok_iff inv pdu rnd ctx.lastTickMs).mpr
        ⟨takes.mpr room, report⟩
    rcases outcome with ⟨failed, -⟩ | ⟨-, serviceable, result⟩
    · exact absurd processed failed
    · rw [result] at after ret
      have state : event.after.state = _ :=
        (congrArg Control.state after).trans Control.serviced_state
      have latest : event.after.mka.latestSak = _ :=
        (congrArg (fun control : Control => control.mka.latestSak) after).trans
          Control.serviced_latest
      change event.after.state =
        if Mka.Participant.sakAvailable
            (ctx.mka.processMkpdu pdu rnd ctx.lastTickMs).2.latestSak then
          .secured
        else if hasFlag
            (ctx.mka.processMkpdu pdu rnd ctx.lastTickMs).2.pendingEvents _ then
          .waitMka
        else ctx.state at state
      change event.after.mka.latestSak =
        if Mka.Participant.sakAvailable
            (ctx.mka.processMkpdu pdu rnd ctx.lastTickMs).2.latestSak then
          Control.activeSak
            (ctx.mka.processMkpdu pdu rnd ctx.lastTickMs).2.latestSak
        else (ctx.mka.processMkpdu pdu rnd ctx.lastTickMs).2.latestSak at latest
      refine ⟨input.trans processed, ret, ?_, ?_⟩
      · rw [state]
        intro failed
        split_ifs at failed
        · exact failed
      · intro basic found isBasic isFound different wins
        rw [parsed, Except.ok.injEq] at isBasic
        have due : Mka.Participant.sakAvailable found.candidate = true := rfl
        rw [Mka.Participant.processMkpdu_adopts inv (takes.mpr room)
          (scan.trans isFound) different (isBasic ▸ wins), if_pos due]
          at state latest
        rw [latest]
        exact ⟨⟨rfl, rfl, rfl⟩, rfl, state⟩
  · intro none
    obtain ⟨distributes, present, occupied⟩ := lacks.mp none
    have busy :=
      Mka.Participant.processMkpdu_busy inv distributes present occupied rnd
        ctx.lastTickMs
    rcases outcome with ⟨-, -, result⟩ | ⟨processed, -, -⟩
    · rw [result] at after ret
      have same : event.after.mka.toParticipant = _ :=
        congrArg Control.mka after
      change event.after.mka.toParticipant =
        (ctx.mka.processMkpdu pdu rnd ctx.lastTickMs).2 at same
      change event.output.ret =
        (ctx.mka.processMkpdu pdu rnd ctx.lastTickMs).1 at ret
      rw [busy] at same ret input
      exact ⟨input, same, ret, congrArg Control.state after⟩
    · exact Err.noConfusion
        ((congrArg Prod.fst busy).symm.trans processed)

/-- In every run, an MKPDU of a companion is accepted and serviced, and what a
Key Server distributes in it is installed, unless it distributes another SAK
while both slots are taken; then it is refused as busy and changes nothing but
the state of the context. -/
theorem companion_mkpdu_received {cfg : Config} {mi : Octets 12}
    (mode : cfg.mode = .mkaPsk)
    (initialised : init aes cfg mi = (.ok, ctx)) (calls : List Call) :
    ∀ event ∈ (machine aes).events ctx calls, ∀ frame plain rnd,
      event.input = .input frame plain rnd →
      Mka.FromCompanion aes cfg.cak cfg.ckn ctx.mka.toParticipant frame →
      (¬Mka.LacksSlot aes event.before.mka frame →
          Established aes event frame rnd) ∧
        (Mka.LacksSlot aes event.before.mka frame →
          TurnedAway aes event frame rnd) := by
  refine @Transition.Machine.forall_guarded _ _ _ (machine aes)
    (fun later => Member aes cfg.cak cfg.ckn ctx later) (fun _ => True) _
    (fun ctx call member _ => member.perform call) ?_ ctx
    (member_of_init mode initialised) calls fun _ _ => trivial
  rintro later call member - frame plain rnd same companion
  change call = _ at same
  subst same
  exact received_of_companion member companion plain rnd

/-- Station 2 restarted and with a SAK to distribute. -/
def redistributor (incarnation octet : UInt8) : Mka.Participant :=
  ((Mka.restarted incarnation).ensureForTx (Mka.sakOctets octet)).2

/-- A station hears from its Key Server for the first time and installs what it
distributes. -/
theorem redistributor_received :
    let result :=
      perform BlockCipher.null (stationCtx BlockCipher.null 1 10 11)
        (Cue.call BlockCipher.null
          (MkaCrypto.keysOf BlockCipher.null Mka.stationCak Mka.stationCkn)
          (.hear (redistributor 12 1) (Mka.sakOctets 4)))
    result.2.ret = .ok ∧
      result.1.mka.latestSak.sak = (redistributor 12 1).latestSak.sak ∧
      result.1.mka.latestSak.lifecycleState = .active ∧
      result.1.state = .secured := by
  have companion :=
    @Mka.fromCompanion_of_final BlockCipher.null 2 5 12
      [.hear ((Mka.newcomer 1 10 11).listing (Mka.newcomer 2 5 12))
        (Mka.sakOctets 9) 5] (by decide) (Mka.sakOctets 1)
      (Mka.newcomer 1 10 11) (by decide) (by decide)
  have received :=
    companion_mkpdu_received rfl (init_stationCtx BlockCipher.null 1 10 11)
      [Cue.call BlockCipher.null
        (MkaCrypto.keysOf BlockCipher.null Mka.stationCak Mka.stationCkn)
        (.hear (redistributor 12 1) (Mka.sakOctets 4))] _ List.mem_cons_self _
      _ _ rfl companion
  obtain ⟨⟨icv, accepted⟩, -⟩ :=
    @Mka.Plays.hear BlockCipher.null _ _ _
      (plays_stationCtx BlockCipher.null 1 10 11).participant
      (redistributor 12 1) (by decide) (Mka.sakOctets 4) 0
  obtain ⟨found, offered, sak, -, -⟩ :=
    @Mka.exists_offeredSak (redistributor 12 1) (by decide) (by decide)
  have established := received.1 (by
    rintro ⟨-, present, -⟩
    exact present rfl)
  obtain ⟨⟨same, -⟩, active, secured⟩ :=
    established.adopts accepted offered rfl (show (5 : UInt8) ≤ 10 by decide)
  exact ⟨established.succeeded, same.trans sak, active, secured⟩
/-- Station 1 installs the SAKs of two incarnations of its Key Server. -/
def incarnations : List Cue :=
  [.hear (redistributor 12 1) (Mka.sakOctets 4),
    .hear (redistributor 13 2) (Mka.sakOctets 5)]

/-- Under every cipher a Key Server that restarted twice before it confirmed a
SAK is turned away. -/
theorem not_forall_companion_mkpdu_accepted :
    ¬∃ aes, ∀ (cfg : Config) (mi : Octets 12) (start : Ctx)
        (calls : List Call),
      cfg.mode = .mkaPsk → init aes cfg mi = (.ok, start) →
      (∀ event ∈ (machine aes).events start calls, ∀ frame plain rnd,
        event.input = .input frame plain rnd → Mka.isEapolMka frame = true →
        Mka.FromCompanion aes cfg.cak cfg.ckn start.mka.toParticipant frame) →
      ∀ event ∈ (machine aes).events start calls, ∀ frame plain rnd,
        event.input = .input frame plain rnd → Mka.isEapolMka frame = true →
        (Mka.input aes event.before.mka frame rnd
          event.before.lastTickMs).1 = .ok := by
  rintro ⟨aes, alwaysAccepted⟩
  have playable : ∀ event ∈ (stage Mka.stationCkn).events
      (stationControl 1 10 11) incarnations,
      event.input.Playable event.before := by
    decide
  rw [← Mka.ckn_stations aes] at playable
  have plays :=
    @Plays.final aes _ _ _ (plays_stationCtx aes 1 10 11) incarnations playable
  rw [Mka.ckn_stations] at plays
  have companion (incarnation : UInt8)
      (playable : ∀ event ∈ (Mka.stage Mka.stationCkn).events
          (Mka.newcomer 2 5 incarnation)
          [.hear ((Mka.newcomer 1 10 11).listing (Mka.newcomer 2 5 incarnation))
            (Mka.sakOctets 9) 5],
        event.input.Playable event.before) :=
    @Mka.fromCompanion_of_final aes 2 5 incarnation _ playable
  have companions (frame plain : Bytes) (rnd : Octets 16)
      (member : Call.input frame plain rnd ∈
        incarnations.map (Cue.call aes
            (MkaCrypto.keysOf aes Mka.stationCak Mka.stationCkn)) ++
          [Cue.call aes (MkaCrypto.keysOf aes Mka.stationCak Mka.stationCkn)
            (.hear (redistributor 14 3) (Mka.sakOctets 6))]) :
      Mka.FromCompanion aes Mka.stationCak Mka.stationCkn
        (Mka.newcomer 1 10 11) frame := by
    simp only [incarnations, List.cons_append, List.nil_append, List.map_cons,
      List.map_nil, List.mem_cons, Cue.call, Call.input.injEq,
      List.not_mem_nil, or_false] at member
    rcases member with ⟨rfl, -⟩ | ⟨rfl, -⟩ | ⟨rfl, -⟩
    · exact companion 12 (by decide) (by decide) (by decide)
    · exact companion 13 (by decide) (by decide) (by decide)
    · exact companion 14 (by decide) (by decide) (by decide)
  have accepted :=
    alwaysAccepted _ _ _ _ rfl (init_stationCtx aes 1 10 11)
      (fun event member frame plain rnd same _ => companions frame plain rnd
        (same ▸ Transition.Machine.input_mem_of_mem _ member))
  rw [Transition.Machine.events_concat] at accepted
  have third :=
    accepted _ (List.mem_append_right _ List.mem_cons_self) _ _ _ rfl
  have other : (Cue.hear (redistributor 14 3) (Mka.sakOctets 6)).Playable
      ((stage Mka.stationCkn).final (stationControl 1 10 11) incarnations) := by
    decide
  generalize (machine aes).final _ _ = ctx at plays third
  have result (nowMs : UInt32) :=
    @Mka.Plays.hear aes _ _ _ plays.participant _ other (Mka.sakOctets 6) nowMs
  obtain ⟨⟨icv, received⟩, -⟩ := result 0
  have refused := congrArg Prod.fst (result ctx.lastTickMs).2
  rw [Mka.ckn_stations, show ctx.lastTickMs = 0 from
    congrArg Control.lastTickMs plays.same] at refused
  have ok := third (Mka.isEapolMka_of_accepted received)
  change (Mka.input aes ctx.mka _ _ ctx.lastTickMs).1 = _ at ok
  rw [show ctx.lastTickMs = 0 from congrArg Control.lastTickMs plays.same,
    refused] at ok
  revert ok
  decide

end Macsec
