import Macsec.System.BringUp

/-!
# Stations that never agree on a SAK

The election of the Key Server compares priorities only, and a participant whose
name has less than four octets does not find itself in a peer list without SAK
Use.  So where all stations have one priority, or the name is short, no station
is ever the Key Server of a live peer: no SAK is made, and none is secured,
however the calls interleave.
-/

namespace Macsec

namespace Mka

namespace Participant

variable {ctx : Participant} {pdu : Mkpdu} {long : Prop}

/-- A participant without SAKs is not the Key Server of a live peer. -/
structure Barren (long : Prop) (ctx : Participant) : Prop where
  latest : ctx.latestSak = Sak.cleared
  old : ctx.oldSak = Sak.cleared
  client : ctx.peer.live = true → long ∧ ctx.localKeyServer = false

/-- The sender of an MKPDU has nothing to say that would make a Key Server of
the receiver. -/
structure Fruitless (long : Prop) (ctx : Participant) (pdu : Mkpdu) : Prop where
  silent : ∀ found, pdu.distributedSak ≠ .ok found
  listed : pdu.localSeen = true → long
  draws : long → ¬ctx.keyServerPriority < pdu.basic.keyServerPriority

namespace Barren

theorem ensureForTx (barren : ctx.Barren long) (rnd : Octets 16) :
    (ctx.ensureForTx rnd).2 = ctx := by
  rcases ctx.ensureForTx_cases rnd with same | ⟨server, live, -⟩
  · exact same
  · rw [Bool.and_eq_true] at live
    rw [(barren.client live.2).2] at server
    exact Bool.noConfusion server

theorem tick (barren : ctx.Barren long) (inv : ctx.Inv) (nowMs : UInt32) :
    (ctx.tick nowMs).2.Barren long := by
  obtain ⟨expired, events, reasons, ⟨-, rfl⟩ | ⟨-, rfl⟩, -, result⟩ :=
    tick_cases inv nowMs
  · rw [result]
    exact ⟨barren.latest, barren.old, barren.client⟩
  · rw [result]
    exact ⟨barren.latest, barren.old, fun live => Bool.noConfusion live⟩

theorem notifyTxSuccess (barren : ctx.Barren long) (txMeta : TxMeta)
    (nowMs : UInt32) : (ctx.notifyTxSuccess txMeta nowMs).2.Barren long := by
  rcases ctx.notifyTxSuccess_cases txMeta nowMs with
    ⟨-, same⟩ | ⟨-, -, result⟩
  · rw [same]
    exact barren
  · rw [result]
    rcases ctx.notifyDistributed_cases txMeta with same | ⟨-, pending, -⟩
    · rw [same]
      exact ⟨barren.latest, barren.old, barren.client⟩
    · rw [barren.latest] at pending
      exact SakState.noConfusion pending

theorem processMkpdu (barren : ctx.Barren long) (inv : ctx.Inv)
    (fruitless : ctx.Fruitless long pdu) (rnd : Octets 16) (nowMs : UInt32) :
    (ctx.processMkpdu pdu rnd nowMs).2.Barren long := by
  have silent : ¬ctx.Distributes pdu := by
    rintro ⟨found, scan, -⟩
    exact fruitless.silent found scan
  have slots : (ctx.processMkpdu pdu rnd nowMs).2.slots = ctx.slots := by
    rcases ctx.processMkpdu_slots inv pdu rnd nowMs with
      ⟨-, ⟨same, -⟩ | ⟨report, -, ⟨state, -⟩, -⟩⟩ |
      ⟨⟨-, found | ⟨-, present, -⟩⟩, -⟩
    · exact same
    · rw [barren.latest] at state
      rcases state with state | state | state | state
      all_goals exact SakState.noConfusion state
    · exact absurd found silent
    · exact absurd (congrArg Sak.lifecycleState barren.latest) present
  refine ⟨(congrArg Slots.latest slots).trans barren.latest,
    (congrArg Slots.old slots).trans barren.old, ?_⟩
  rcases ctx.processMkpdu_cases inv pdu rnd nowMs with
    ⟨-, same⟩ | ⟨-, rest, -⟩
  · rw [same]
    exact barren.client
  · rw [SameRest] at rest
    rw [rest]
    intro live
    have name : long := by
      rcases metPeer_live.mp live with listed | ⟨-, -, before⟩
      · exact fruitless.listed listed
      · exact (barren.client before).1
    exact ⟨name, decide_eq_false (fruitless.draws name)⟩

end Barren

end Participant

end Mka

namespace Control

variable {ctx : Control} {long : Prop}

/-- A context has no SAKs and will get none by itself. -/
structure Barren (long : Prop) (ctx : Control) : Prop where
  mka : ctx.mka.Barren long
  unsecured : ctx.state ≠ .secured

theorem Barren.serviced (barren : ctx.Barren long) :
    ctx.serviced.Barren long := by
  have notDue : Mka.Participant.sakAvailable ctx.mka.latestSak = false := by
    rw [barren.mka.latest]
    rfl
  have noRetire :
      ¬(hasFlag ctx.mka.pendingEvents Mka.EventFlag.sakRetireRequired = true ∧
        ctx.mka.oldSak.lifecycleState = .retiring) := by
    rw [barren.mka.old]
    exact fun retire => Mka.SakState.noConfusion retire.2
  rw [Control.serviced, notDue, if_neg Bool.false_ne_true, drained,
    if_neg noRetire]
  refine ⟨⟨barren.mka.latest, barren.mka.old, barren.mka.client⟩, ?_⟩
  dsimp only
  split
  next => exact State.noConfusion
  next => exact barren.unsecured

end Control

variable {aes : BlockCipher} {ctx : Ctx} {long : Prop} {call : Call}

/-- A call that hears nothing fruitful leaves a barren context barren. -/
theorem barren_of_step {ret : Err} {after : Control}
    (resting : ctx.control.Resting) (step : Step aes ctx call ret after)
    (barren : ctx.control.Barren long)
    (fruitless : ∀ frame plain rnd pdu, call = .input frame plain rnd →
      Mka.classify aes ctx.mka frame = .accepted pdu →
        ctx.mka.toParticipant.Fruitless long pdu) :
    after.Barren long := by
  have inv := resting.mka.inv
  cases step with
  | passive silent same => exact ⟨barren.mka, barren.unsecured⟩
  | built generated =>
      rcases generated with rfl | rfl
      · exact ⟨barren.mka, barren.unsecured⟩
      · refine ⟨?_, barren.unsecured⟩
        change Mka.Participant.Barren long (ctx.control.mka.ensureForTx _).2
        rw [barren.mka.ensureForTx]
        exact barren.mka
  | returned =>
      exact ⟨⟨barren.mka.latest, barren.mka.old, barren.mka.client⟩,
        barren.unsecured⟩
  | refused failed => exact ⟨barren.mka, State.noConfusion⟩
  | failed isMka accepted failed =>
      exact ⟨Mka.Participant.Barren.processMkpdu barren.mka inv
        (fruitless _ _ _ _ rfl accepted) _ _, State.noConfusion⟩
  | serviced serves prompts serviceable =>
      apply Control.Barren.serviced
      cases prompts with
      | own isMka own => exact barren
      | heard isMka accepted processed =>
          exact ⟨Mka.Participant.Barren.processMkpdu barren.mka inv
            (fruitless _ _ _ _ rfl accepted) _ _, barren.unsecured⟩
      | ticked nowMs =>
          exact ⟨Mka.Participant.Barren.tick barren.mka inv nowMs,
            barren.unsecured⟩
      | reported pending accepted =>
          exact ⟨Mka.Participant.Barren.notifyTxSuccess barren.mka _ _,
            barren.unsecured⟩

namespace System

variable {ι : Type} [DecidableEq ι] {start : ι → Ctx} {cak ckn : Bytes}

/-- What a barren participant of an association builds is fruitless for every
other one that does not beat it. -/
theorem fruitless_of_barren {receiver : Mka.Ctx} {sender : Mka.Participant}
    {frame : Bytes} {pdu : Mka.Mkpdu} (keyed : receiver.crypto.Keyed)
    (barren : sender.Barren (4 ≤ receiver.crypto.psk.ckn.length))
    (built : Mka.buildFrame aes receiver.crypto sender = .ok frame)
    (accepted : Mka.classify aes receiver frame = .accepted pdu)
    (draws : 4 ≤ receiver.crypto.psk.ckn.length →
      ¬receiver.keyServerPriority < sender.keyServerPriority) :
    receiver.toParticipant.Fruitless (4 ≤ receiver.crypto.psk.ckn.length)
      pdu := by
  have shape : Mka.LatestShape sender.latestSak := by
    rw [barren.latest]
    exact Mka.latestShape_cleared
  obtain ⟨icv, rfl⟩ := Mka.mkpdu_of_accepted keyed shape built accepted
  refine ⟨fun found scan => ?_, fun listed => ?_, draws⟩
  · change sender.offeredSak = _ at scan
    rw [Mka.Participant.offeredSak,
      Control.excluded (Or.inl barren.latest)] at scan
    cases scan
  · change (sender.includePeerList && _ && decide _) = true at listed
    simp only [Bool.and_eq_true, decide_eq_true_iff] at listed
    obtain ⟨⟨includes, -⟩, scanned⟩ := listed
    rcases (sender.long_iff includes _).mp scanned with long | reports
    · exact long
    · rw [Mka.Participant.includeSakUse, barren.latest, barren.old] at reports
      exact Bool.noConfusion reports

/-- What holds of stations that never agree, and of the frames that they
built. -/
structure Stuck (aes : BlockCipher) (cak ckn : Bytes) (start : ι → Ctx)
    (past : List (Event ι)) (parties : ι → Ctx) : Prop where
  members : ∀ party, Member aes cak ckn (start party) (parties party)
  barren : ∀ party, (parties party).control.Barren (4 ≤ ckn.length)
  built : ∀ event ∈ past, ∀ sender frame, Builds event sender frame →
    ∃ builder : Mka.Participant, builder.Barren (4 ≤ ckn.length) ∧
      (start sender).mka.toParticipant.SameIdentity builder ∧
      Mka.buildFrame aes (MkaCrypto.keysOf aes cak ckn) builder = .ok frame

variable {past : List (Event ι)} {parties : ι → Ctx} {party : ι}

/-- Stations that are stuck stay so. -/
theorem Stuck.step (stuck : Stuck aes cak ckn start past parties)
    (named : (MkaCrypto.keysOf aes cak ckn).psk.ckn = ckn)
    (draws : 4 ≤ ckn.length → ∀ one other,
      (start one).mka.keyServerPriority = (start other).mka.keyServerPriority)
    (authentic :
      Authentic aes past ((machine aes).event parties (party, call))) :
    Stuck aes cak ckn start
      (past ++ [(machine aes).event parties (party, call)])
      ((machine aes).step parties (party, call)).1 := by
  have member := stuck.members party
  have barren := stuck.barren party
  have resting := member.resting
  have sameKeys := member.keys
  refine ⟨?_, ?_, ?_⟩
  · exact forall_step
      (fun party ctx => Member aes cak ckn (start party) ctx) stuck.members
      (member.perform call)
  · apply forall_step
      (fun _ ctx => ctx.control.Barren (4 ≤ ckn.length)) stuck.barren
    apply barren_of_step resting (perform_step resting call) barren
    intro frame plain rnd pdu input accepted
    obtain ⟨earlier, before, sender, builds⟩ :=
      authentic party frame plain rnd pdu (by rw [← input]; rfl) accepted
    obtain ⟨builder, childless, identity, built⟩ :=
      stuck.built earlier before sender frame builds
    have fruitless := @fruitless_of_barren aes (parties party).mka builder
      frame pdu member.keyed
    rw [sameKeys, named] at fruitless
    refine fruitless childless built accepted fun long beats => ?_
    rw [identity.2.2.2, member.identity.2.2.2, draws long party sender]
      at beats
    exact UInt8.lt_irrefl _ beats
  · intro event inPast sender frame builds
    rcases List.mem_append.mp inPast with earlier | last
    · exact stuck.built event earlier sender frame builds
    · rw [List.mem_singleton] at last
      subst last
      obtain ⟨txMaxLen, rnd, same, ok, rfl⟩ := builds
      change (party, call) = _ at same
      cases same
      obtain ⟨built, -⟩ := buildControlFrame_ok resting member.keyed ok
      have unchanged := Mka.Participant.Barren.ensureForTx barren.mka rnd
      change ((parties party).mka.ensureForTx rnd).2 = _ at unchanged
      rw [unchanged, sameKeys] at built
      exact ⟨_, barren.mka, member.identity, built⟩

/-- In a group without an order of priorities, or with a name of less than four
octets, no station is ever secured or has a key. -/
theorem no_rank_no_link (grouped : Grouped aes cak ckn start)
    (draws : 4 ≤ ckn.length → ∀ one other,
      (start one).mka.keyServerPriority = (start other).mka.keyServerPriority)
    (inputs : List (ι × Call))
    (authentic :
      Transition.Guarded (Authentic aes)
        ((machine aes).events start inputs))
    (party : ι) :
    let ctx := (machine aes).final start inputs party
    ctx.state ≠ .secured ∧
      ctx.mka.latestSak = Mka.Sak.cleared ∧
      ctx.mka.oldSak = Mka.Sak.cleared ∧
      ctx.frameCrypto.txSak.valid = false ∧
      ∀ an, (ctx.frameCrypto.rxSak an).valid = false := by
  have named : (MkaCrypto.keysOf aes cak ckn).psk.ckn = ckn := by
    obtain ⟨cfg, mi, mode, rfl, rfl, result⟩ := grouped party
    have member := member_of_init mode result
    exact ckn_of_keyed (member.keys ▸ member.keyed)
  have initial : Stuck aes cak ckn start [] start := by
    refine ⟨fun party => ?_, fun party => ?_,
      fun _ member => absurd member List.not_mem_nil⟩
    · obtain ⟨cfg, mi, mode, rfl, rfl, result⟩ := grouped party
      exact member_of_init mode result
    · obtain ⟨cfg, mi, mode, -, -, result⟩ := grouped party
      have ready := @ready_initialCtx aes _ mode mi
      rw [← (init_mkaPsk mode result).1] at ready
      obtain ⟨idle, blank, ⟨-, dead⟩, -⟩ := ready
      refine ⟨⟨blank.latest, idle.free, fun live => ?_⟩, ?_⟩
      · rw [dead] at live
        exact Bool.noConfusion live
      · rw [blank.state]
        exact State.noConfusion
  have stuck : Stuck aes cak ckn start ((machine aes).events start inputs)
      ((machine aes).final start inputs) :=
    Transition.Machine.historyInvariant initial
      (fun _ _ _ stuck guard => stuck.step named draws guard) inputs authentic
  have reachable := (traced_of_run grouped inputs authentic).2.reachable party
  intro ctx
  have barren := stuck.barren party
  have unheld {direction : Mka.Direction} {key : Bytes} {an : Fin 4}
      (carries : ctx.mka.slots.Carries direction key an) : False := by
    rcases carries.holds reachable.resting.mka.inv.slots with
      ⟨present, -⟩ | ⟨present, -⟩
    · exact present (congrArg Mka.Sak.lifecycleState barren.mka.latest)
    · exact present (congrArg Mka.Sak.lifecycleState barren.mka.old)
  refine ⟨barren.unsecured, barren.mka.latest, barren.mka.old, ?_,
    fun an => ?_⟩
  · rw [← Bool.not_eq_true]
    exact fun valid => unheld (reachable.backed.tx valid)
  · rw [← Bool.not_eq_true]
    exact fun valid => unheld (reachable.backed.rx an valid).2

/-- Two stations with one priority. -/
def equals (aes : BlockCipher) : Side → Ctx
  | .a => stationCtx aes 1 10 11
  | .b => stationCtx aes 2 10 12

/-- The first frame of one of them. -/
def firstFrame (aes : BlockCipher) : Bytes :=
  (buildControlFrame aes (equals aes .a) Mka.maxFrameLen
    (Mka.sakOctets 1)).2.frame

/-- It arrives at the other one. -/
def encounter (aes : BlockCipher) : List (Side × Call) :=
  [(.a, .buildControlFrame Mka.maxFrameLen (Mka.sakOctets 1)),
    (.b, .input (firstFrame aes) [] (Mka.sakOctets 2))]

/-- The other one has no key after it heard the frame. -/
theorem equals_stay_apart :
    let ctx := (machine BlockCipher.null).final (equals BlockCipher.null)
      (encounter BlockCipher.null) Side.b
    ctx.state ≠ .secured ∧
      ctx.mka.latestSak = Mka.Sak.cleared ∧
      ctx.mka.oldSak = Mka.Sak.cleared ∧
      ctx.frameCrypto.txSak.valid = false ∧
      ∀ an, (ctx.frameCrypto.rxSak an).valid = false := by
  have grouped : Grouped BlockCipher.null Mka.stationCak Mka.stationCkn
      (equals BlockCipher.null) := by
    intro side
    cases side with
    | a => exact ⟨_, _, rfl, rfl, rfl, init_stationCtx _ 1 10 11⟩
    | b => exact ⟨_, _, rfl, rfl, rfl, init_stationCtx _ 2 10 12⟩
  have draws : 4 ≤ Mka.stationCkn.length → ∀ one other : Side,
      (equals BlockCipher.null one).mka.keyServerPriority =
        (equals BlockCipher.null other).mka.keyServerPriority := by
    rintro - one other
    cases one <;> cases other <;> rfl
  have plays := plays_stationCtx BlockCipher.null 1 10 11
  have built := (@Plays.build BlockCipher.null _ _ _ plays (Mka.sakOctets 1)
    (by decide)).2
  refine no_rank_no_link grouped draws (encounter BlockCipher.null) ?_ .b
  refine (Transition.Guarded.nil.concat ?_).concat ?_
  · intro receiver frame plain rnd pdu same
    cases same
  · intro receiver frame plain rnd pdu same _
    cases same
    exact ⟨_, List.mem_cons_self, .a, Mka.maxFrameLen, Mka.sakOctets 1, rfl,
      congrArg Reply.ret built, rfl⟩

end System

end Macsec
