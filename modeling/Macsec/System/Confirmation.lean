import Macsec.Api.Confirmation
import Macsec.Mka.Companions
import Macsec.System.Origins

/-!
# What a confirmation is worth

Two stations exchange MKPDUs.  A SAK Use names a SAK by its key number and its
association number, and a Key Server that reads its own numbers in the SAK Use
of its peer takes its SAK for confirmed.  If no number that an MKPDU gave to one
SAK is given to another SAK, then the peer holds the SAK that it confirms.
-/

namespace Macsec

namespace System

variable {ι : Type} {aes : BlockCipher}

/-! ## SAKs and their numbers -/

/-- A step returns an MKPDU of a party that distributes a SAK. -/
def Distributes (aes : BlockCipher) (event : Event ι) (sender : ι)
    (identity : Mka.Identity) : Prop :=
  ∃ frame found, Builds event sender frame ∧
    Mka.scanDistributedSak aes (event.before sender).mka.crypto frame =
        .ok found ∧
      found.identity = identity

/-- A party built an MKPDU that distributes a SAK before. -/
def Distributed (aes : BlockCipher) (past : List (Event ι)) (sender : ι)
    (identity : Mka.Identity) : Prop :=
  ∃ event ∈ past, Distributes aes event sender identity

/-- A SAK was the latest one of a party before. -/
def Held (past : List (Event ι)) (party : ι) (identity : Mka.Identity) :
    Prop :=
  ∃ event ∈ past,
    (event.after party).mka.latestSak.lifecycleState ≠ .none ∧
      (event.after party).mka.latestSak.identity = identity

/-- The call makes a participant generate a SAK from random octets. -/
def Generates (aes : BlockCipher) (ctx : Ctx) (rnd : Octets 16) :
    Call → Prop
  | .input frame _ drawn =>
      drawn = rnd ∧ ∃ pdu, Mka.classify aes ctx.mka frame = .accepted pdu ∧
        ctx.mka.Displaces pdu ∧ ctx.mka.Regenerates pdu
  | .buildControlFrame _ drawn => drawn = rnd ∧ ctx.mka.toParticipant.Lacks
  | _ => False

/-- A party generates a SAK and gives it the key number and the association
number that another SAK has in an MKPDU that the party built. -/
def Renumbers (aes : BlockCipher) (past : List (Event ι)) (event : Event ι) :
    Prop :=
  ∃ rnd identity,
    let party := event.input.1
    let generated := ((event.before party).mka.pendingSak rnd).identity
    Generates aes (event.before party) rnd event.input.2 ∧
      Distributed aes past party identity ∧ identity ≠ generated ∧
        identity.2 = generated.2

variable {past : List (Event ι)} {event : Event ι} {party : ι}
  {identity : Mka.Identity}

/-- A SAK is generated from the octets that the call draws. -/
theorem Generates.draws {ctx : Ctx} {rnd : Octets 16} {call : Call}
    (generates : Generates aes ctx rnd call) : drawn call = some rnd := by
  cases call with
  | input => exact congrArg some generates.1
  | buildControlFrame => exact congrArg some generates.1
  | _ => exact generates.elim

theorem Distributed.concat (distributed : Distributed aes past party identity) :
    Distributed aes (past ++ [event]) party identity := by
  obtain ⟨earlier, member, distributes⟩ := distributed
  exact ⟨earlier, List.mem_append_left _ member, distributes⟩

theorem Held.concat (held : Held past party identity) :
    Held (past ++ [event]) party identity := by
  obtain ⟨earlier, member, present⟩ := held
  exact ⟨earlier, List.mem_append_left _ member, present⟩

/-- What was distributed after a step was distributed before or in the step. -/
theorem Distributed.of_concat
    (distributed : Distributed aes (past ++ [event]) party identity) :
    Distributed aes past party identity ∨
      Distributes aes event party identity := by
  obtain ⟨earlier, member, distributes⟩ := distributed
  rcases List.mem_append.mp member with before | last
  · exact Or.inl ⟨earlier, before, distributes⟩
  · rw [List.mem_singleton] at last
    exact Or.inr (last ▸ distributes)

/-! ## What is built -/

/-- An MKPDU was built by a station that had the keys and its identity. -/
structure Wrote (aes : BlockCipher) (crypto : MkaCrypto.Ctx) (start : ι → Ctx)
    (event : Event ι) (sender : ι) (frame : Bytes) : Prop where
  keys : (event.before sender).mka.crypto = crypto
  built : Mka.buildFrame aes crypto (event.after sender).mka.toParticipant =
    .ok frame
  shape : Mka.LatestShape (event.after sender).mka.latestSak
  identity : (start sender).mka.toParticipant.SameIdentity
    (event.after sender).mka.toParticipant

variable [DecidableEq ι] {start parties : ι → Ctx} {call : Call} {sender : ι}
  {frame : Bytes} {crypto : MkaCrypto.Ctx} {cak ckn : Bytes}

omit [DecidableEq ι] in
/-- A station that was just initialised has the keys and its identity. -/
theorem Grouped.member (grouped : Grouped aes cak ckn start) (party : ι) :
    Member aes cak ckn (start party) (start party) := by
  obtain ⟨cfg, mi, mode, rfl, rfl, result⟩ := grouped party
  exact member_of_init mode result

/-- A station builds its own MKPDUs. -/
theorem wrote_of_builds
    (member : Member aes cak ckn (start party) (parties party))
    (builds : Builds ((machine aes).event parties (party, call)) sender frame) :
    sender = party ∧
      Wrote aes (MkaCrypto.keysOf aes cak ckn) start
        ((machine aes).event parties (party, call)) sender frame := by
  obtain ⟨txMaxLen, rnd, same, ok, rfl⟩ := builds
  change (party, call) = _ at same
  cases same
  obtain ⟨built, control⟩ :=
    buildControlFrame_ok member.resting member.keyed ok
  have stays := member.perform (.buildControlFrame txMaxLen rnd)
  have after :
      ((machine aes).event parties
        (party, .buildControlFrame txMaxLen rnd)).after party =
          (perform aes (parties party)
            (.buildControlFrame txMaxLen rnd)).1 := Function.update_self ..
  refine ⟨rfl, member.keys, ?_, ?_, ?_⟩
  · rw [after, ← member.keys]
    change Mka.buildFrame aes _
      (buildControlFrame aes (parties party) txMaxLen rnd).1.control.mka = _
    rw [control]
    exact built
  · rw [after]
    exact stays.resting.mka.inv.latest
  · rw [after]
    exact stays.identity

/-- So it is in every run. -/
theorem wrote_of_run (grouped : Grouped aes cak ckn start)
    (inputs : List (ι × Call)) :
    ∀ event ∈ (machine aes).events start inputs, ∀ sender frame,
      Builds event sender frame →
        Wrote aes (MkaCrypto.keysOf aes cak ckn) start event sender frame := by
  refine @Transition.Machine.forall_guarded _ _ _ (machine aes)
    (fun parties => ∀ party,
      Member aes cak ckn (start party) (parties party))
    (fun _ => True) _ ?_ ?_ _ grouped.member inputs fun _ _ => trivial
  · rintro parties ⟨party, call⟩ members -
    exact forall_step
      (fun party ctx => Member aes cak ckn (start party) ctx) members
      ((members party).perform call)
  · rintro parties ⟨party, call⟩ members - sender frame builds
    exact (wrote_of_builds (members party) builds).2

omit [DecidableEq ι] in
/-- An MKPDU offers the latest SAK of its builder. -/
theorem Wrote.scan (wrote : Wrote aes crypto start event sender frame)
    (keyed : crypto.Keyed) :
    Mka.scanDistributedSak aes (event.before sender).mka.crypto frame =
      (event.after sender).mka.offeredSak := by
  rw [wrote.keys]
  exact Mka.scanDistributedSak_buildFrame keyed wrote.shape wrote.built

omit [DecidableEq ι] in
/-- The SAK that is distributed is a local one of its builder. -/
theorem Wrote.latest (wrote : Wrote aes crypto start event sender frame)
    {found : Mka.DistributedSak}
    (offered : (event.after sender).mka.offeredSak = .ok found) :
    (event.after sender).mka.latestSak.lifecycleState ≠ .none ∧
      (event.after sender).mka.latestSak.identity = found.identity ∧
      (event.after sender).mka.latestSak.origin = .localKeyServer := by
  obtain ⟨⟨sak, number, an⟩, included⟩ := Mka.describes_of_offeredSak offered
  obtain ⟨-, distributable, origin⟩ :=
    Mka.Participant.held_of_includeDistributedSak wrote.shape included
  refine ⟨fun absent => ?_, ?_, origin⟩
  · rw [Mka.sakDistributable, absent] at distributable
    exact Bool.noConfusion distributable
  · unfold Mka.DistributedSak.identity
    rw [sak, number, an]
    rfl

omit [DecidableEq ι] in
theorem Distributes.latest (distributes : Distributes aes event party identity)
    (wrote : ∀ frame, Builds event party frame →
      Wrote aes crypto start event party frame)
    (keyed : crypto.Keyed) :
    (event.after party).mka.latestSak.lifecycleState ≠ .none ∧
      (event.after party).mka.latestSak.identity = identity ∧
      (event.after party).mka.latestSak.origin = .localKeyServer := by
  obtain ⟨frame, found, builds, scan, rfl⟩ := distributes
  rw [(wrote frame builds).scan keyed] at scan
  exact (wrote frame builds).latest scan

/-! ## One participant -/

/-- A side has the better priority. -/
def Leads (start : Side → Ctx) (side : Side) : Prop :=
  (start side).mka.keyServerPriority <
    (start side.other).mka.keyServerPriority

variable {start : Side → Ctx} {past : List (Event Side)} {side : Side}
  {ctx after : Mka.Participant}

theorem Leads.not_other (leads : Leads start side) :
    ¬Leads start side.other := by
  unfold Leads at leads ⊢
  cases side with
  | a | b => exact UInt8.lt_asymm leads

/-- A SAK in the latest slot is the participant's own one only if it leads, and
one that the other participant distributed only if it does not. -/
structure Sourced (aes : BlockCipher) (start : Side → Ctx)
    (past : List (Event Side)) (side : Side) (ctx : Mka.Participant) :
    Prop where
  own : ctx.latestSak.origin = .localKeyServer → Leads start side
  foreign : ctx.latestSak.origin = .remoteKeyServer →
    ¬Leads start side ∧
      Distributed aes past side.other ctx.latestSak.identity

/-- What holds of a participant on a link: its peer is the other participant,
its numbers stand for one SAK, and what is confirmed to it was held by the
other participant. -/
structure Entitled (aes : BlockCipher) (start : Side → Ctx)
    (past : List (Event Side)) (side : Side) (ctx : Mka.Participant) :
    Prop extends Sourced aes start past side ctx where
  peer : ctx.peer.valid = true →
    ctx.peer.mi = (start side.other).mka.localMi ∧
      (ctx.localKeyServer = true ↔ Leads start side)
  unique : ctx.latestSak.origin = .localKeyServer →
    ∀ identity, Distributed aes past side identity →
      identity.2 = ctx.latestSak.identity.2 →
        identity = ctx.latestSak.identity
  confirmed : ctx.latestSak.peerRxConfirmed = true →
    Held past side.other ctx.latestSak.identity

theorem Sourced.concat {event : Event Side}
    (sourced : Sourced aes start past side ctx) :
    Sourced aes start (past ++ [event]) side ctx :=
  ⟨sourced.own, fun origin =>
    ⟨(sourced.foreign origin).1, (sourced.foreign origin).2.concat⟩⟩

/-- A participant whose latest SAK keeps its identity and its origin. -/
theorem Entitled.of_latest (entitled : Entitled aes start past side ctx)
    (identity : after.latestSak.identity = ctx.latestSak.identity)
    (origin : after.latestSak.origin = ctx.latestSak.origin)
    (peer : after.peer.valid = true →
      after.peer.mi = (start side.other).mka.localMi ∧
        (after.localKeyServer = true ↔ Leads start side))
    (confirmed : after.latestSak.peerRxConfirmed = true →
      Held past side.other ctx.latestSak.identity) :
    Entitled aes start past side after := by
  refine ⟨⟨?_, ?_⟩, peer, ?_, ?_⟩
  · rw [origin]
    exact entitled.own
  · rw [origin, identity]
    exact entitled.foreign
  · rw [origin, identity]
    exact entitled.unique
  · rw [identity]
    exact confirmed

/-- A participant that retains its SAK and its peer stays as it is. -/
theorem Entitled.retains (entitled : Entitled aes start past side ctx)
    (retains : ctx.Retains after) : Entitled aes start past side after := by
  obtain ⟨identity, origin, confirmed, peer⟩ := retains
  refine entitled.of_latest identity origin (fun valid => ?_) ?_
  · obtain ⟨samePeer, sameServer⟩ := peer valid
    rw [samePeer, sameServer]
    exact entitled.peer (samePeer ▸ valid)
  · rw [confirmed]
    exact entitled.confirmed

/-- A participant whose latest SAK is not its own one and not confirmed. -/
theorem entitled_of_foreign {sak : Mka.Sak} (latest : after.latestSak = sak)
    (others : sak.origin ≠ .localKeyServer)
    (unconfirmed : sak.peerRxConfirmed = false)
    (foreign : sak.origin = .remoteKeyServer →
      ¬Leads start side ∧ Distributed aes past side.other sak.identity)
    (peer : after.peer.valid = true →
      after.peer.mi = (start side.other).mka.localMi ∧
        (after.localKeyServer = true ↔ Leads start side)) :
    Entitled aes start past side after := by
  subst latest
  refine ⟨⟨fun origin => absurd origin others, foreign⟩, peer,
    fun origin => absurd origin others, fun confirmed => ?_⟩
  rw [unconfirmed] at confirmed
  exact Bool.noConfusion confirmed

/-- What an MKPDU of the other participant says. -/
structure Told (aes : BlockCipher) (start : Side → Ctx)
    (past : List (Event Side)) (side : Side) (pdu : Mka.Mkpdu) : Prop where
  mi : pdu.basic.actorMi = (start side.other).mka.localMi
  priority :
    pdu.basic.keyServerPriority = (start side.other).mka.keyServerPriority
  distributes : ∀ found, pdu.distributedSak = .ok found →
    ¬Leads start side ∧ Distributed aes past side.other found.identity
  reports : ∀ report, pdu.sakUse = .ok report → report.latestRx = true →
    ∃ identity, Held past side.other identity ∧
      identity.2 = (report.keyNumber, report.an) ∧
        (Leads start side → Distributed aes past side identity)

/-- The SAK that would be generated next has numbers of its own. -/
def FreshNumber (aes : BlockCipher) (past : List (Event Side)) (side : Side)
    (ctx : Mka.Participant) (rnd : Octets 16) : Prop :=
  ∀ identity, Distributed aes past side identity →
    identity.2 = (ctx.pendingSak rnd).identity.2 →
      identity = (ctx.pendingSak rnd).identity

/-- A leading participant may generate a SAK that has numbers of its own. -/
theorem entitled_of_pendingSak {rnd : Octets 16} (leads : Leads start side)
    (fresh : FreshNumber aes past side ctx rnd)
    (latest : after.latestSak = ctx.pendingSak rnd)
    (peer : after.peer.valid = true →
      after.peer.mi = (start side.other).mka.localMi ∧
        (after.localKeyServer = true ↔ Leads start side)) :
    Entitled aes start past side after := by
  refine ⟨⟨fun _ => leads, fun origin => ?_⟩, peer, fun _ => ?_,
    fun confirmed => ?_⟩
  · rw [latest] at origin
    exact Mka.SakOrigin.noConfusion origin
  · rw [latest]
    exact fresh
  · rw [latest] at confirmed
    exact Bool.noConfusion confirmed

/-- An MKPDU of the other participant leaves a participant as it is. -/
theorem Entitled.processMkpdu (entitled : Entitled aes start past side ctx)
    (inv : ctx.Inv)
    (identity : (start side).mka.toParticipant.SameIdentity ctx)
    (held : ∀ identity, Distributed aes past side.other identity →
      Held past side.other identity)
    {pdu : Mka.Mkpdu} (told : Told aes start past side pdu) (rnd : Octets 16)
    (nowMs : UInt32)
    (fresh : ctx.Displaces pdu → ctx.Regenerates pdu →
      FreshNumber aes past side ctx rnd) :
    Entitled aes start past side (ctx.processMkpdu pdu rnd nowMs).2 := by
  have leads_iff :
      ctx.keyServerPriority < pdu.basic.keyServerPriority ↔
        Leads start side := by
    rw [told.priority, identity.2.2.2]
    rfl
  have peer : (ctx.processMkpdu pdu rnd nowMs).2.peer.valid = true →
      (ctx.processMkpdu pdu rnd nowMs).2.peer.mi =
          (start side.other).mka.localMi ∧
        ((ctx.processMkpdu pdu rnd nowMs).2.localKeyServer = true ↔
          Leads start side) := by
    rcases ctx.processMkpdu_cases inv pdu rnd nowMs with
      ⟨-, same⟩ | ⟨-, rest, -⟩
    · rw [same]
      exact entitled.peer
    · rw [Mka.Participant.SameRest] at rest
      rw [rest]
      exact fun _ => ⟨told.mi, decide_eq_true_iff.trans leads_iff⟩
  rcases ctx.processMkpdu_slots inv pdu rnd nowMs with
    ⟨-, ⟨slots, -⟩ | ⟨report, reports, reported, slots⟩⟩ |
    ⟨displaces, sak, enters, slots⟩
  · have latest :
        (ctx.processMkpdu pdu rnd nowMs).2.latestSak = ctx.latestSak :=
      congrArg Mka.Slots.latest slots
    refine entitled.of_latest (congrArg Mka.Sak.identity latest)
      (congrArg Mka.Sak.origin latest) peer ?_
    rw [latest]
    exact entitled.confirmed
  · have latest :
        (ctx.processMkpdu pdu rnd nowMs).2.latestSak =
          Mka.Participant.reportedSak ctx.latestSak report :=
      congrArg Mka.Slots.latest slots
    refine entitled.of_latest ((congrArg Mka.Sak.identity latest).trans rfl)
      ((congrArg Mka.Sak.origin latest).trans rfl) peer
      fun confirmed => ?_
    rw [latest] at confirmed
    obtain ⟨-, about, number, an⟩ := reported
    by_cases leads : Leads start side
    · rw [if_pos (leads_iff.mpr leads)] at about
      obtain ⟨other, heldOther, numbers, distributed⟩ :=
        told.reports report reports confirmed
      rw [number, an] at numbers
      rw [← entitled.unique about.1 other (distributed leads) numbers]
      exact heldOther
    · rw [if_neg (mt leads_iff.mp leads)] at about
      exact held _ (entitled.foreign about.1).2
  · have latest : (ctx.processMkpdu pdu rnd nowMs).2.latestSak = sak :=
      congrArg Mka.Slots.latest slots
    cases enters with
    | adopted distributes different stays =>
        exact entitled_of_foreign latest Mka.SakOrigin.noConfusion rfl
          (fun _ => told.distributes _ distributes) peer
    | generated regenerates =>
        exact entitled_of_pendingSak (leads_iff.mp regenerates.1.2)
          (fresh displaces regenerates) latest peer
    | dropped serves unlisted =>
        exact entitled_of_foreign latest Mka.SakOrigin.noConfusion rfl
          Mka.SakOrigin.noConfusion peer

/-! ## Two participants -/

/-- Two stations on a link, and the MKPDUs that they built. -/
structure Linked (aes : BlockCipher) (cak ckn : Bytes) (start : Side → Ctx)
    (past : List (Event Side)) (parties : Side → Ctx) : Prop where
  members : ∀ side, Member aes cak ckn (start side) (parties side)
  entitled : ∀ side,
    Entitled aes start past side (parties side).mka.toParticipant
  wrote : ∀ event ∈ past, ∀ sender frame, Builds event sender frame →
    Wrote aes (MkaCrypto.keysOf aes cak ckn) start event sender frame ∧
      Sourced aes start past sender (event.after sender).mka.toParticipant

variable {parties : Side → Ctx}

namespace Linked

theorem keyed (linked : Linked aes cak ckn start past parties) :
    (MkaCrypto.keysOf aes cak ckn).Keyed :=
  (linked.members .a).keys ▸ (linked.members .a).keyed

/-- A SAK that a station distributed was its latest one. -/
theorem held (linked : Linked aes cak ckn start past parties)
    {identity : Mka.Identity}
    (distributed : Distributed aes past side identity) :
    Held past side identity := by
  obtain ⟨event, member, distributes⟩ := distributed
  obtain ⟨present, same, -⟩ :=
    distributes.latest
      (fun frame builds => (linked.wrote event member side frame builds).1)
      linked.keyed
  exact ⟨event, member, present, same⟩

/-- An MKPDU that is accepted comes from the other station. -/
theorem told (linked : Linked aes cak ckn start past parties)
    {frame plain : Bytes} {rnd : Octets 16} {pdu : Mka.Mkpdu}
    (authentic : Authentic aes past
      ((machine aes).event parties (side, .input frame plain rnd)))
    (accepted :
      Mka.classify aes (parties side).mka frame = .accepted pdu) :
    Told aes start past side pdu := by
  obtain ⟨event, member, sender, builds⟩ :=
    authentic side frame plain rnd pdu rfl accepted
  obtain ⟨wrote, sourced⟩ := linked.wrote event member sender frame builds
  have receiver := linked.members side
  have keyed := receiver.keyed
  have built := wrote.built
  rw [← receiver.keys] at built
  obtain ⟨icv, content⟩ :=
    Mka.mkpdu_of_accepted keyed wrote.shape built accepted
  have mi : pdu.basic.actorMi = (start sender).mka.localMi := by
    rw [content]
    exact wrote.identity.2.2.1
  have other : sender = side.other := by
    apply Side.eq_other
    rintro rfl
    exact (Mka.not_own_of_accepted accepted).2.2
      (mi.trans receiver.identity.2.2.1.symm)
  subst other
  refine ⟨mi, ?_, fun found distributes => ?_, fun report reports heard => ?_⟩
  · rw [content]
    exact wrote.identity.2.2.2
  · rw [content] at distributes
    obtain ⟨-, -, origin⟩ := wrote.latest distributes
    exact ⟨fun leads => leads.not_other (sourced.own origin), event, member,
      frame, found, builds, (wrote.scan linked.keyed).trans distributes, rfl⟩
  · rw [content] at reports
    change (event.after side.other).mka.reportedUse = _ at reports
    unfold Mka.Participant.reportedUse at reports
    split_ifs at reports
    cases reports
    unfold Mka.Participant.latestSakUse at heard ⊢
    by_cases absent :
        (event.after side.other).mka.latestSak.lifecycleState = .none
    · rw [if_neg (not_not_intro absent)] at heard
      exact Bool.noConfusion heard
    · rw [if_pos absent]
      refine ⟨_, ⟨event, member, absent, rfl⟩, rfl, fun leads => ?_⟩
      have origin := (wrote.shape.held absent).origin
      cases which : (event.after side.other).mka.latestSak.origin with
      | none => exact absurd which origin
      | localKeyServer => exact absurd (sourced.own which) leads.not_other
      | remoteKeyServer =>
          have distributed := (sourced.foreign which).2
          rwa [Side.other_other] at distributed

end Linked

/-- A step in which a participant distributes no other SAK leaves it as it
is. -/
theorem Entitled.concat {event : Event Side}
    (entitled : Entitled aes start past side ctx)
    (same : ∀ identity, Distributes aes event side identity →
      identity = ctx.latestSak.identity) :
    Entitled aes start (past ++ [event]) side ctx := by
  refine ⟨entitled.toSourced.concat, entitled.peer, ?_,
    fun confirmed => (entitled.confirmed confirmed).concat⟩
  intro origin identity distributed numbers
  rcases distributed.of_concat with before | now
  · exact entitled.unique origin identity before numbers
  · exact same identity now

namespace Linked

/-- A participant that gives no number to two SAKs stays as it is when its
station makes a call. -/
theorem moves (linked : Linked aes cak ckn start past parties)
    (authentic :
      Authentic aes past ((machine aes).event parties (side, call)))
    (numbered :
      ¬Renumbers aes past ((machine aes).event parties (side, call))) :
    Entitled aes start past side
      (perform aes (parties side) call).1.mka.toParticipant := by
  have member := linked.members side
  have entitled := linked.entitled side
  have resting := member.resting
  have effect := effect_of_step resting (@perform_step aes _ resting call)
  change Entitled aes start past side
    (perform aes (parties side) call).1.control.mka
  generalize (perform aes (parties side) call).1.control.mka = after
    at effect ⊢
  cases effect with
  | retains retains => exact entitled.retains retains
  | @generates txMaxLen rnd after lacks latest peer server =>
      have leads := (entitled.peer lacks.peer).2.mp lacks.server
      refine entitled_of_pendingSak leads ?_ latest ?_
      · intro identity distributed same
        by_contra other
        exact numbered
          ⟨rnd, identity, ⟨rfl, lacks⟩, distributed, other, same⟩
      · rw [peer, server]
        exact entitled.peer
  | @hears frame plain rnd pdu after accepted retains =>
      have told := linked.told authentic accepted
      refine (entitled.processMkpdu resting.mka.inv member.identity
        (fun _ => linked.held) told rnd _ ?_).retains retains
      intro displaces regenerates identity distributed same
      by_contra other
      exact numbered ⟨rnd, identity,
        ⟨rfl, pdu, accepted, displaces, regenerates⟩, distributed, other,
        same⟩

/-- Stations on a link stay on it. -/
theorem step (linked : Linked aes cak ckn start past parties)
    (authentic :
      Authentic aes past ((machine aes).event parties (side, call)))
    (numbered :
      ¬Renumbers aes past ((machine aes).event parties (side, call))) :
    Linked aes cak ckn start
      (past ++ [(machine aes).event parties (side, call)])
      ((machine aes).step parties (side, call)).1 := by
  have member := linked.members side
  have moved := linked.moves authentic numbered
  have after : ((machine aes).event parties (side, call)).after side =
      (perform aes (parties side) call).1 := Function.update_self ..
  refine ⟨?_, fun other => ?_, ?_⟩
  · exact forall_step (fun side ctx => Member aes cak ckn (start side) ctx)
      linked.members (member.perform call)
  · by_cases same : other = side
    · subst same
      rw [show ((machine aes).step parties (other, call)).1 other = _ from
        after]
      refine moved.concat fun identity distributes => ?_
      rw [← (distributes.latest
        (fun frame builds => (wrote_of_builds member builds).2)
        linked.keyed).2.1, after]
    · rw [show ((machine aes).step parties (side, call)).1 other =
        parties other from Function.update_of_ne same ..]
      refine (linked.entitled other).concat ?_
      rintro identity ⟨frame, found, builds, -⟩
      exact absurd (wrote_of_builds member builds).1 same
  · intro event inPast sender frame builds
    rcases List.mem_append.mp inPast with earlier | last
    · obtain ⟨wrote, sourced⟩ :=
        linked.wrote event earlier sender frame builds
      exact ⟨wrote, sourced.concat⟩
    · rw [List.mem_singleton] at last
      subst last
      obtain ⟨rfl, wrote⟩ := wrote_of_builds member builds
      refine ⟨wrote, ?_⟩
      rw [after]
      exact moved.toSourced.concat

end Linked

/-- A participant that was just initialised has no SAK and no peer. -/
theorem linked_of_grouped (grouped : Grouped aes cak ckn start) :
    Linked aes cak ckn start [] start := by
  refine ⟨grouped.member, fun side => ?_,
    fun _ member => absurd member List.not_mem_nil⟩
  obtain ⟨cfg, mi, mode, -, -, result⟩ := grouped side
  have blank : (start side).mka.latestSak = Mka.Sak.cleared ∧
      (start side).mka.peer.valid = false := by
    rw [(init_mkaPsk mode result).1]
    change
      (Mka.Participant.start _ _ _ _ mi).completeInit.latestSak = _ ∧
        (Mka.Participant.start _ _ _ _ mi).completeInit.peer.valid = _
    rw [Mka.completeInit_eq]
    exact ⟨rfl, rfl⟩
  refine entitled_of_foreign blank.1 Mka.SakOrigin.noConfusion rfl
    Mka.SakOrigin.noConfusion fun valid => ?_
  rw [blank.2] at valid
  exact Bool.noConfusion valid

/-- Where no number of a distributed SAK is given to another SAK, the peer of a
station holds the SAK that it confirms. -/
theorem confirmed_sak_held (grouped : Grouped aes cak ckn start)
    (inputs : List (Side × Call))
    (authentic : Transition.Guarded (Authentic aes)
      ((machine aes).events start inputs))
    (numbered : Transition.Guarded
      (fun past event => ¬Renumbers aes past event)
      ((machine aes).events start inputs))
    (side : Side) :
    let ctx := (machine aes).final start inputs side
    ctx.mka.latestSak.lifecycleState = .confirmed →
      Held ((machine aes).events start inputs) side.other
          ctx.mka.latestSak.identity ∧
        (ctx.mka.peer.valid = true →
          ctx.mka.peer.mi = (start side.other).mka.localMi) := by
  intro ctx confirmed
  have linked : Linked aes cak ckn start ((machine aes).events start inputs)
      ((machine aes).final start inputs) := by
    refine @Transition.Machine.historyInvariant _ _ _ (machine aes)
      (fun past event => Authentic aes past event ∧ ¬Renumbers aes past event)
      (Linked aes cak ckn start) _ (linked_of_grouped grouped) ?_ inputs ?_
    · rintro past parties ⟨side, call⟩ linked ⟨authentic, numbered⟩
      exact linked.step authentic numbered
    · intro past event rest split
      exact ⟨authentic past event rest split, numbered past event rest split⟩
  have entitled := linked.entitled side
  have shape := (linked.members side).resting.mka.inv.latest
  change Mka.LatestShape ctx.mka.latestSak at shape
  rw [Mka.LatestShape, confirmed] at shape
  exact ⟨entitled.confirmed shape.2.2.2.1, fun valid =>
    (entitled.peer valid).1⟩

/-- The stations agree on a SAK, and the Key Server hears that it is in use. -/
def reporting : List (Cue Side) :=
  agreement ++
    [.act .a (.build (Mka.sakOctets 108)), .act .a (.notifySuccess 0),
      .relay .b 4 (Mka.sakOctets 109)]

theorem playable_reporting :
    ∀ event ∈ (stage Mka.stationCkn).events opening reporting,
      event.before.Playable event.input := by
  decide +kernel

/-- The Key Server takes its SAK for confirmed. -/
theorem confirmed_reporting :
    let ctx := (((stage Mka.stationCkn).final opening reporting).parties .b).mka
    ctx.latestSak.lifecycleState = .confirmed ∧ ctx.peer.valid = true ∧
      ctx.latestSak.identity = ((Mka.sakOctets 1).1, 1, 0) := by
  decide +kernel

/-- A place of a script does not give the number of a SAK that its station had
at an earlier place to another SAK. -/
def Renews (first second : Transition.Event (Scene Side) (Cue Side) Unit) :
    Prop :=
  let side := second.input.party
  second.input.drawn ≠ none →
    (first.after.parties side).mka.latestSak.origin = .localKeyServer →
      (first.after.parties side).mka.latestSak.identity.2 ≠
        (second.before.parties side).mka.counters

instance (first second : Transition.Event (Scene Side) (Cue Side) Unit) :
    Decidable (Renews first second) :=
  inferInstanceAs (Decidable (_ → _ → _))

theorem renews_reporting :
    ((stage Mka.stationCkn).events opening reporting).Pairwise Renews := by
  decide +kernel

/-- In a run of such a script no number is given to two SAKs. -/
theorem guarded_of_renews {events : List (Event Side)}
    {played : List (Transition.Event (Scene Side) (Cue Side) Unit)}
    (mirrors : List.Forall₂ (Mirrors aes crypto) events played)
    (renews : played.Pairwise Renews)
    (wrote : ∀ event ∈ events, ∀ sender frame, Builds event sender frame →
      Wrote aes crypto start event sender frame)
    (keyed : crypto.Keyed) :
    Transition.Guarded (fun past event => ¬Renumbers aes past event)
      events := by
  have apart : events.Pairwise fun earlier event =>
      let side := event.input.1
      drawn event.input.2 ≠ none →
        (earlier.after side).mka.latestSak.origin = .localKeyServer →
          (earlier.after side).mka.latestSak.identity.2 ≠
            (event.before side).mka.counters := by
    refine Transition.pairwise_of_forall₂ mirrors renews ?_
    intro earlier event first second one two renews
    dsimp only
    rw [two.input, call_party, drawn_call]
    change _ → (earlier.after _).control.mka.latestSak.origin = _ →
      (earlier.after _).control.mka.latestSak.identity.2 ≠
        (event.before _).control.mka.counters
    rw [one.after, two.before]
    exact renews
  rintro past event rest rfl
    ⟨rnd, identity, generates, ⟨earlier, member, distributes⟩, -, numbers⟩
  obtain ⟨-, same, origin⟩ :=
    distributes.latest
      (wrote earlier (List.mem_append_left _ member) event.input.1) keyed
  have draws : drawn event.input.2 ≠ none := by
    rw [generates.draws]
    exact Option.some_ne_none rnd
  refine (List.pairwise_append.mp apart).2.2 earlier member event
    List.mem_cons_self draws origin ?_
  rw [same]
  exact numbers

/-- Two stations agree on a SAK that both of them hold. -/
theorem station_sak_held :
    ∃ inputs : List (Side × Call),
      let events :=
        (machine BlockCipher.null).events (stations BlockCipher.null) inputs
      let ctx :=
        (machine BlockCipher.null).final (stations BlockCipher.null) inputs .b
      ctx.mka.latestSak.identity = ((Mka.sakOctets 1).1, 1, 0) ∧
        Held events .a ctx.mka.latestSak.identity ∧
          ctx.mka.peer.mi = (stations BlockCipher.null .a).mka.localMi := by
  obtain ⟨inputs, -, same, faithful, mirrors⟩ :=
    stages_stations BlockCipher.null playable_reporting
  obtain ⟨confirmed, valid, identity⟩ := confirmed_reporting
  rw [← same] at confirmed valid identity
  have grouped := grouped_stations BlockCipher.null
  obtain ⟨held, peer⟩ :=
    confirmed_sak_held grouped inputs (authentic_of_faithful faithful)
      (guarded_of_renews mirrors renews_reporting
        (wrote_of_run grouped inputs) (linked_of_grouped grouped).keyed)
      .b confirmed
  exact ⟨inputs, identity, held, peer valid⟩

/-! ## Two SAKs with one number -/

/-- A Key Server builds an MKPDU with a SAK and loses its peer before it learns
that the MKPDU was sent.  An old MKPDU of the peer has it draw another SAK with
the same numbers, which it installs on the report about the first one.  The
peer receives the first one and reports it in use. -/
def renumbering : List (Cue Side) :=
  [.act .a (.build (Mka.sakOctets 101)), .act .a (.notifySuccess 0),
    .relay .b 0 (Mka.sakOctets 102), .act .b (.build (Mka.sakOctets 103)),
    .act .b (.notifySuccess 0), .relay .a 1 (Mka.sakOctets 104),
    .act .a (.build (Mka.sakOctets 105)), .act .a (.notifySuccess 0),
    .relay .b 2 (Mka.sakOctets 106), .act .b (.build (Mka.sakOctets 1)),
    .act .b (.tick 100000), .relay .b 2 (Mka.sakOctets 2),
    .act .b (.notifySuccess 100000), .relay .a 3 (Mka.sakOctets 107),
    .act .a (.build (Mka.sakOctets 108)), .act .a (.notifySuccess 0),
    .relay .b 4 (Mka.sakOctets 109)]

theorem playable_renumbering :
    ∀ event ∈ (stage Mka.stationCkn).events opening renumbering,
      event.before.Playable event.input := by
  decide +kernel

/-- The Key Server takes the second SAK for confirmed. -/
theorem confirmed_renumbering :
    let ctx :=
      (((stage Mka.stationCkn).final opening renumbering).parties .b).mka
    ctx.localKeyServer = true ∧ ctx.latestSak.lifecycleState = .confirmed ∧
      ctx.peer.valid = true ∧
      ctx.latestSak.identity = ((Mka.sakOctets 2).1, 1, 0) := by
  decide +kernel

/-- Its peer never has that one. -/
theorem unheld_renumbering :
    ∀ event ∈ (stage Mka.stationCkn).events opening renumbering,
      (event.after.parties .a).mka.latestSak.identity ≠
        ((Mka.sakOctets 2).1, 1, 0) := by
  decide +kernel

/-- So the peer of a Key Server need not have the SAK that is confirmed. -/
theorem not_forall_confirmed_sak_held :
    ¬∃ aes, ∀ (cak ckn : Bytes) (start : Side → Ctx)
      (inputs : List (Side × Call)),
        Grouped aes cak ckn start →
        Differ (start .a).mka.toParticipant (start .b).mka.toParticipant →
        (start .a).mka.keyServerPriority ≠ (start .b).mka.keyServerPriority →
        (inputs.filterMap (drawn ·.2)).Nodup →
        Transition.Guarded (Faithful aes)
          ((machine aes).events start inputs) →
        ∀ side,
          let ctx := (machine aes).final start inputs side
          ctx.mka.localKeyServer = true →
            ctx.mka.latestSak.lifecycleState = .confirmed →
              ctx.mka.peer.valid = true →
                Held ((machine aes).events start inputs) side.other
                  ctx.mka.latestSak.identity := by
  rintro ⟨aes, agrees⟩
  obtain ⟨inputs, draws, same, faithful, mirrors⟩ :=
    stages_stations aes playable_renumbering
  have fresh : (inputs.filterMap (drawn ·.2)).Nodup := by
    rw [draws]
    decide
  obtain ⟨server, confirmed, valid, identity⟩ := confirmed_renumbering
  rw [← same] at server confirmed valid identity
  obtain ⟨event, inEvents, -, held⟩ :=
    agrees _ _ _ inputs (grouped_stations aes)
      (show Differ (Mka.newcomer 1 10 11) (Mka.newcomer 2 5 12) by decide)
      (show (10 : UInt8) ≠ 5 by decide) fresh faithful .b server confirmed
      valid
  obtain ⟨place, inPlayed, mirror⟩ :=
    Transition.exists_of_forall₂ mirrors.flip inEvents
  refine unheld_renumbering place inPlayed ?_
  rw [← mirror.after .a, ← identity]
  exact held

end System

end Macsec
