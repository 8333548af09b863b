import Macsec.Api.Handshake
import Macsec.Foundation.Awaited
import Macsec.System.Defs

/-!
# Two stations on a link

The stations of a link take turns in any order.  Which turns still have to come
before both are secured is a word over the two sides: the future Key Server, its
client, and the Key Server once more.  A turn whose frame arrives strikes its
side out of the word if it is the next one awaited, and leaves the word as it is
otherwise.
-/

namespace Macsec

open Mka (Regard)

namespace Control

/-- A station hears the frame that arrives, if one does. -/
def hearing (ctx : Control) (ckn : Bytes) (frame : Option Mka.Participant)
    (rnd : Octets 16) : Control :=
  frame.elim ctx fun sender =>
    (ctx.receiveMka (.accepted (ctx.mka.heard ckn sender)) rnd).2

/-- Two stations between turns, and what they think of each other. -/
structure Acquainted (own other : Control) (regard return' : Regard) :
    Prop where
  ready : own.Idle
  listening : other.Idle
  regards : own.mka.Regards other.mka regard
  returns : other.mka.Regards own.mka return'

/-- What a turn does to both stations in any case. -/
structure Moved (own other own' other' : Control) (nowMs : UInt32) : Prop where
  turned : own.Turned own' nowMs
  settings : other'.mka.settings = other.mka.settings
  awake : ∀ later, other.Awake later → other'.Awake later

/-- What becomes of a station while another one takes a turn. -/
structure Listens (before after : Control) (regard regard' : Regard) :
    Prop where
  state : after.state = before.state
  table : after.table = before.table
  keeps : KeepsSak before.mka after.mka
  due : before.mka.txReasons ≠ 0 → after.mka.txReasons ≠ 0
  news : regard' ≠ regard → after.mka.txReasons ≠ 0

variable {own other : Control} {nowMs : UInt32} {ckn : Bytes}
  {regard return' : Regard}

theorem Acquainted.symm (met : own.Acquainted other regard return') :
    other.Acquainted own return' regard :=
  ⟨met.listening, met.ready, met.returns, met.regards⟩

/-- The exchange of a turn of a content station that tells nothing new of SAKs.
-/
theorem exchange_content (met : own.Acquainted other regard return')
    (long : 4 ≤ ckn.length) (awake : own.Awake nowMs) (content : own.Content)
    (known : other.mka.latestSak = Mka.Sak.cleared ∨ return' ≠ .unknown)
    (silent : ∀ sender, own.mka.SameStanding sender →
      sender.latestSak = own.mka.latestSak →
      ¬other.mka.Distributes (other.mka.heard ckn sender))
    (rnd heardRnd : Octets 16) (sent : Bool) :
    let served := own.serve nowMs rnd sent
    let other' := other.hearing ckn served.2 heardRnd
    own.Moved other served.1 other' nowMs ∧ own.SameKeys served.1 ∧
      ∃ regard', served.1.Acquainted other' regard regard' ∧
        other.Listens other' return' regard' ∧
        (regard' = return' ∨ regard' = return'.onHearing regard) ∧
        if sent then
          own.mka.txReasons ≠ 0 → regard' = return'.onHearing regard
        else
          regard' = return' ∧
            (own.mka.txReasons ≠ 0 → served.1.mka.txReasons ≠ 0) := by
  have served := serve_content met.ready awake content rnd sent
  revert served
  generalize own.serve nowMs rnd sent = served
  obtain ⟨own', frame⟩ := served
  rintro ⟨turned, same, tells, due⟩
  have forth : own'.mka.Regards other.mka regard :=
    met.regards.of_standing turned.standing
  cases frame with
  | none =>
      have back : other.mka.Regards own'.mka return' :=
        met.returns.of_settings turned.standing.settings
      refine ⟨⟨turned, rfl, fun _ awake => awake⟩, same, return',
        ⟨turned.idle, met.listening, forth, back⟩,
        ⟨rfl, rfl, Or.inl rfl, id, fun news => absurd rfl news⟩,
        Or.inl rfl, ?_⟩
      cases sent with
      | false => exact ⟨rfl, due.2⟩
      | true => exact fun some => absurd rfl (due some)
  | some sender =>
      obtain ⟨standing, latest⟩ := tells sender rfl
      have shape : Mka.LatestShape sender.latestSak :=
        latest ▸ met.ready.resting.mka.inv.latest
      obtain ⟨hears, state, table, keeps, news⟩ :=
        hear_silent met.listening (met.returns.of_settings standing.settings)
          (met.regards.of_standing standing) long shape known
          (silent sender standing latest) heardRnd
      have back := hears.regards.of_settings
        (turned.standing.settings.trans standing.settings.symm)
      refine ⟨⟨turned, hears.settings, fun _ awake => hears.awake awake⟩, same,
        return'.onHearing regard,
        ⟨turned.idle, hears.idle, forth.of_settings hears.settings, back⟩,
        ⟨state, table, keeps, hears.due, news⟩, Or.inr rfl, ?_⟩
      cases sent with
      | false => exact absurd due.1 (Option.some_ne_none _)
      | true => exact fun _ => rfl

/-! ## What a station has -/

/-- A SAK that is not in use stays as it is. -/
theorem KeepsSak.same {before after : Mka.Participant}
    (keeps : KeepsSak before after) (unused : ¬before.InUse) :
    after.latestSak = before.latestSak := by
  rcases keeps with same | ⟨inUse, -⟩
  · exact same
  · exact absurd inUse unused

/-- A station waits for the key agreement and has no SAK. -/
structure Blank (start ctx : Control) : Prop where
  state : ctx.state = .waitMka
  table : ctx.table = start.table
  latest : ctx.mka.latestSak = Mka.Sak.cleared

/-- A station waits for the key agreement and has at most a SAK that nobody else
knows of. -/
structure Waiting (start ctx : Control) : Prop where
  state : ctx.state = .waitMka
  table : ctx.table = start.table
  latest : ctx.mka.latestSak = Mka.Sak.cleared ∨ Waits ctx.mka.latestSak

/-- A station has a SAK in use in both directions. -/
structure Uses (start ctx : Control) (origin : Mka.SakOrigin) (key : Bytes)
    (keyNumber : UInt32) (an : Fin 4) : Prop where
  state : ctx.state = .secured
  table : ctx.table = txTable (rxTable start.table key an 1) key an
  inUse : ctx.mka.InUse
  origin : ctx.mka.latestSak.origin = origin
  key : ctx.mka.latestSak.sak = key
  keyNumber : ctx.mka.latestSak.keyNumber = keyNumber
  an : ctx.mka.latestSak.an = an

variable {start before after : Control} {regard' : Regard}

theorem Waiting.unused (waiting : start.Waiting before) :
    ¬before.mka.InUse := by
  unfold Mka.Participant.InUse
  rcases waiting.latest with cleared | ⟨waits, -⟩
  · rw [cleared]
    exact fun inUse => inUse.elim Mka.SakState.noConfusion
      Mka.SakState.noConfusion
  · rw [waits]
    exact fun inUse => inUse.elim Mka.SakState.noConfusion
      Mka.SakState.noConfusion

theorem Blank.waiting (blank : start.Blank before) : start.Waiting before :=
  ⟨blank.state, blank.table, Or.inl blank.latest⟩

theorem Blank.served (blank : start.Blank before)
    (same : before.SameKeys after) : start.Blank after :=
  ⟨same.state.trans blank.state, same.table.trans blank.table,
    same.latest.trans blank.latest⟩

theorem Blank.listens (blank : start.Blank before)
    (listens : before.Listens after regard regard') :
    start.Blank after :=
  ⟨listens.state.trans blank.state, listens.table.trans blank.table,
    (listens.keeps.same blank.waiting.unused).trans blank.latest⟩

theorem Waiting.listens (waiting : start.Waiting before)
    (listens : before.Listens after regard regard') :
    start.Waiting after := by
  refine ⟨listens.state.trans waiting.state,
    listens.table.trans waiting.table, ?_⟩
  rw [listens.keeps.same waiting.unused]
  exact waiting.latest

variable {origin : Mka.SakOrigin} {key : Bytes} {keyNumber : UInt32}
  {an : Fin 4}

theorem Uses.served (uses : start.Uses before origin key keyNumber an)
    (same : before.SameKeys after) :
    start.Uses after origin key keyNumber an := by
  obtain ⟨state, table, latest⟩ := same
  refine ⟨state.trans uses.state, table.trans uses.table, ?_, ?_, ?_, ?_, ?_⟩
  · unfold Mka.Participant.InUse
    rw [latest]
    exact uses.inUse
  · rw [latest, uses.origin]
  · rw [latest, uses.key]
  · rw [latest, uses.keyNumber]
  · rw [latest, uses.an]

theorem Uses.listens (uses : start.Uses before origin key keyNumber an)
    (listens : before.Listens after regard regard') :
    start.Uses after origin key keyNumber an := by
  rcases listens.keeps with same | ⟨inUse, report, reported⟩
  · exact uses.served ⟨listens.state, listens.table, same⟩
  · refine ⟨listens.state.trans uses.state, listens.table.trans uses.table,
      ?_, ?_, ?_, ?_, ?_⟩
    · unfold Mka.Participant.InUse
      rw [reported]
      exact (Mka.Participant.reportedLifecycle_inUse _ _).1.mpr inUse
    · rw [reported, ← uses.origin]
      rfl
    · rw [reported, ← uses.key]
      rfl
    · rw [reported, ← uses.keyNumber]
      rfl
    · rw [reported, ← uses.an]
      rfl

theorem Uses.present (uses : start.Uses before origin key keyNumber an) :
    before.mka.latestSak.lifecycleState ≠ .none := by
  rcases uses.inUse with active | confirmed
  · rw [active]
    exact Mka.SakState.noConfusion
  · rw [confirmed]
    exact Mka.SakState.noConfusion

/-- A station that uses a SAK is content. -/
theorem Uses.content (uses : start.Uses before origin key keyNumber an) :
    before.Content := by
  refine ⟨?_, fun absent => uses.present absent.2.2⟩
  rcases uses.inUse with active | confirmed
  · rw [active]
    exact Mka.SakState.noConfusion
  · rw [confirmed]
    exact Mka.SakState.noConfusion

/-- A station without a SAK is content unless it is the Key Server of a live
peer. -/
theorem Blank.content (blank : start.Blank before)
    (other : before.mka.localKeyServer = false ∨
      before.mka.peer.live = false) : before.Content := by
  constructor
  · rw [blank.latest]
    exact Mka.SakState.noConfusion
  · rintro ⟨server, live, -⟩
    rw [Bool.and_eq_true] at live
    rcases other with client | dead
    · rw [client] at server
      exact Bool.noConfusion server
    · rw [dead] at live
      exact Bool.noConfusion live.2

/-- Neither a participant without a SAK nor a client may include a SAK. -/
theorem excluded {sender : Mka.Participant}
    (other : sender.latestSak = Mka.Sak.cleared ∨
      sender.localKeyServer = false) :
    sender.includeDistributedSak = false := by
  rw [Mka.Participant.includeDistributedSak]
  rcases other with blank | client
  · simp [blank, Mka.Sak.cleared]
  · simp [client]

end Control

namespace System

open Transition (strike)

variable {start : Side → Control} {a b : Control} {nowMs : UInt32}
  {ckn : Bytes} {regard return' : Regard}

/-- How far the stations of a link have come, by the turns that are awaited. -/
inductive Phase (start : Side → Control) (a b : Control) : List Side → Prop
  | strangers {regard : Regard} (met : a.Acquainted b regard .unknown)
      (unheard : regard ≠ .live) (first : (start .a).Blank a)
      (second : (start .b).Blank b) (due : a.mka.txReasons ≠ 0) :
      Phase start a b [.a, .b, .a]
  | heard {regard return' : Regard} (met : a.Acquainted b regard return')
      (unheard : regard ≠ .live) (known : return' ≠ .unknown)
      (first : (start .a).Blank a) (second : (start .b).Blank b)
      (due : b.mka.txReasons ≠ 0) : Phase start a b [.b, .a]
  | answered {return' : Regard} (met : a.Acquainted b .live return')
      (known : return' ≠ .unknown) (first : (start .a).Waiting a)
      (second : (start .b).Blank b) (due : a.mka.txReasons ≠ 0) :
      Phase start a b [.a]
  | linked {key : Bytes} {keyNumber : UInt32} {an : Fin 4}
      (met : a.Acquainted b .live .live)
      (first : (start .a).Uses a .localKeyServer key keyNumber an)
      (second : (start .b).Uses b .remoteKeyServer key keyNumber an) :
      Phase start a b []

/-- A participant that does not know its peer to be live has no live peer. -/
theorem dead_of_regards {ctx other : Mka.Participant}
    (regards : ctx.Regards other regard) (dead : regard ≠ .live) :
    ctx.peer.live = false := by
  rw [← Bool.not_eq_true, regards.live_iff]
  exact dead

/-- The lower priority value makes a Key Server of a station that knows its
peer. -/
theorem server_of_regards {ctx other : Mka.Participant}
    (regards : ctx.Regards other regard) (known : regard ≠ .unknown) :
    ctx.localKeyServer =
      decide (ctx.keyServerPriority < other.keyServerPriority) :=
  (regards.records known).elected

theorem Phase.ready {word : List Side} (phase : Phase start a b word) :
    a.Idle ∧ b.Idle := by
  cases phase with
  | strangers met | heard met | answered met | linked met =>
      exact ⟨met.ready, met.listening⟩

/-- Neither station is a Key Server with a SAK of the other one. -/
theorem Phase.not_servesForeignSak {word : List Side}
    (phase : Phase start a b word)
    (beats : a.mka.keyServerPriority < b.mka.keyServerPriority) :
    ¬a.mka.ServesForeignSak ∧ ¬b.mka.ServesForeignSak := by
  have dead {ctx : Mka.Participant} (unheard : ctx.peer.live = false) :
      ¬ctx.ServesForeignSak := by
    rintro ⟨-, live, -⟩
    rw [Bool.and_eq_true, unheard] at live
    exact Bool.noConfusion live.2
  have client {regard return' : Regard}
      (met : a.Acquainted b regard return') (known : return' ≠ .unknown) :
      ¬b.mka.ServesForeignSak := by
    rintro ⟨server, -, -⟩
    rw [server_of_regards met.returns known, decide_eq_true_iff] at server
    exact absurd beats (UInt8.not_lt.mpr (UInt8.le_of_lt server))
  cases phase with
  | strangers met unheard =>
      exact ⟨dead (dead_of_regards met.regards unheard),
        dead (dead_of_regards met.returns Regard.noConfusion)⟩
  | heard met unheard known =>
      exact ⟨dead (dead_of_regards met.regards unheard), client met known⟩
  | answered met known first =>
      refine ⟨?_, client met known⟩
      rintro ⟨-, -, foreign⟩
      rcases first.latest with cleared | ⟨waits, -⟩
      · rw [cleared] at foreign
        exact Mka.SakOrigin.noConfusion foreign
      · have shape := met.ready.resting.mka.inv.latest
        rw [Mka.LatestShape, waits] at shape
        rw [shape.2.1] at foreign
        exact Mka.SakOrigin.noConfusion foreign
  | linked met first =>
      refine ⟨?_, client met Regard.noConfusion⟩
      rintro ⟨-, -, foreign⟩
      rw [first.origin] at foreign
      exact Mka.SakOrigin.noConfusion foreign

/-- The first transmission of a SAK that arrives links the stations. -/
theorem Phase.distribute (met : a.Acquainted b .live return')
    (first : (start .a).Waiting a)
    (second : (start .b).Blank b) (due : a.mka.txReasons ≠ 0)
    (beats : a.mka.keyServerPriority < b.mka.keyServerPriority)
    (long : 4 ≤ ckn.length) (awake : a.Awake nowMs)
    (rnd heardRnd : Octets 16) :
    let served := a.serve nowMs rnd true
    let b' := b.hearing ckn served.2 heardRnd
    a.Moved b served.1 b' nowMs ∧ Phase start served.1 b' [] := by
  have server : a.mka.localKeyServer = true := by
    rw [server_of_regards met.regards Regard.noConfusion]
    exact decide_eq_true beats
  have live : (a.mka.peer.valid && a.mka.peer.live) = true := by
    rw [(met.regards.records Regard.noConfusion).valid,
      met.regards.live_iff.mpr rfl]
    rfl
  have latest : a.mka.latestSak.lifecycleState = .none ∨
      Control.Waits a.mka.latestSak :=
    first.latest.imp (congrArg Mka.Sak.lifecycleState) id
  have served :=
    Control.serve_distributes met.ready awake due server live latest rnd
  revert served
  generalize a.serve nowMs rnd true = served
  obtain ⟨a', frame⟩ := served
  rintro ⟨sender, builds, standing, shape, waits, turned, state, table,
    inUse⟩
  cases builds
  have included := (Mka.Participant.notifyDistributed_first shape
    (standing.server.trans server) (by rw [standing.peer, live]) waits.1).1
  have loses : sender.keyServerPriority ≤ b.mka.keyServerPriority := by
    obtain ⟨-, -, -, priority, -⟩ := Mka.Settings.mk.inj standing.settings
    rw [priority]
    exact UInt8.le_of_lt beats
  obtain ⟨hears, state', table', found, key, keyNumber, an, adopts⟩ :=
    Control.hear_distributed met.listening second.latest
      (met.returns.of_settings standing.settings)
      (met.regards.of_standing standing) long shape included loses heardRnd
  have origin : sender.latestSak.origin = .localKeyServer := by
    rw [Mka.LatestShape, waits.1] at shape
    exact shape.2.1
  have back := hears.regards.of_settings
    (turned.standing.settings.trans standing.settings.symm)
  rw [Regard.onHearing_of_known Regard.noConfusion] at back
  have own : (start .a).Uses a' .localKeyServer sender.latestSak.sak
      sender.latestSak.keyNumber sender.latestSak.an := by
    dsimp only at table inUse
    rw [waits.2, first.table] at table
    refine ⟨state, table, Or.inl (congrArg Mka.Sak.lifecycleState inUse), ?_,
      ?_, ?_, ?_⟩
    · rw [inUse]
      exact origin
    · rw [inUse]
      rfl
    · rw [inUse]
      rfl
    · rw [inUse]
      rfl
  rw [second.table] at table'
  exact ⟨⟨turned, hears.settings, fun _ awake => hears.awake awake⟩,
    .linked ⟨turned.idle, hears.idle,
        (met.regards.of_standing turned.standing).of_settings hears.settings,
        back⟩ own
      ⟨state', table', Or.inl (congrArg Mka.Sak.lifecycleState adopts),
        congrArg Mka.Sak.origin adopts,
        (congrArg Mka.Sak.sak adopts).trans key,
        (congrArg Mka.Sak.keyNumber adopts).trans keyNumber,
        (congrArg Mka.Sak.an adopts).trans an⟩⟩

/-- A turn of the future Key Server. -/
theorem Phase.step_a {word : List Side} (phase : Phase start a b word)
    (beats : a.mka.keyServerPriority < b.mka.keyServerPriority)
    (long : 4 ≤ ckn.length) (awake : a.Awake nowMs) (rnd heardRnd : Octets 16)
    (sent : Bool) :
    let served := a.serve nowMs rnd sent
    let b' := b.hearing ckn served.2 heardRnd
    a.Moved b served.1 b' nowMs ∧
      Phase start served.1 b'
        (strike (if sent then some .a else none) word) := by
  cases phase with
  | strangers met unheard first second due =>
      have content :=
        first.content (Or.inr (dead_of_regards met.regards unheard))
      obtain ⟨moved, same, regard', met, listens, -, does⟩ :=
        Control.exchange_content met long awake content
          (Or.inl second.latest)
          (fun sender _ latest => Control.not_distributes_of_excluded
            (Control.excluded (Or.inl (latest.trans first.latest))))
          rnd heardRnd sent
      refine ⟨moved, ?_⟩
      cases sent with
      | false =>
          obtain ⟨rfl, stays⟩ := does
          exact .strangers met unheard (first.served same)
            (second.listens listens) (stays due)
      | true =>
          have known : regard' ≠ .unknown := by
            rw [does due]
            exact Regard.onHearing_ne_unknown
          exact .heard met unheard known (first.served same)
            (second.listens listens) (listens.news known)
  | heard met unheard known first second due =>
      have content :=
        first.content (Or.inr (dead_of_regards met.regards unheard))
      obtain ⟨moved, same, regard', met, listens, either, -⟩ :=
        Control.exchange_content met long awake content
          (Or.inl second.latest)
          (fun sender _ latest => Control.not_distributes_of_excluded
            (Control.excluded (Or.inl (latest.trans first.latest))))
          rnd heardRnd sent
      refine ⟨moved, ?_⟩
      have still : regard' ≠ .unknown := by
        rcases either with rfl | rfl
        · exact known
        · exact Regard.onHearing_ne_unknown
      have stays := Phase.heard met unheard still (first.served same)
        (second.listens listens) (listens.due due)
      cases sent with
      | false => exact stays
      | true => exact stays
  | answered met known first second due =>
      cases sent with
      | false =>
          have served := Control.serve_failed met.ready awake rnd
          revert served
          generalize a.serve nowMs rnd false = served
          obtain ⟨a', frame⟩ := served
          rintro ⟨turned, rfl, state, table, latest, stays⟩
          refine ⟨⟨turned, rfl, fun _ awake => awake⟩,
            .answered ⟨turned.idle, met.listening,
              met.regards.of_standing turned.standing,
              met.returns.of_settings turned.standing.settings⟩ known
              ⟨state.trans first.state, table.trans first.table, ?_⟩ second
              (stays due)⟩
          rcases latest with same | ⟨-, -, -, waits⟩
          · rw [same]
            exact first.latest
          · exact Or.inr waits
      | true =>
          exact Phase.distribute met first second due beats long awake rnd
            heardRnd
  | linked met first second =>
      obtain ⟨moved, same, regard', met, listens, either, -⟩ :=
        Control.exchange_content met long awake first.content
          (Or.inr Regard.noConfusion)
          (fun sender _ latest => Control.not_distributes_of_adopted
            (latest ▸ met.ready.resting.mka.inv.latest) second.present
            second.origin
            (by rw [latest, first.key, second.key])
            (by rw [latest, first.keyNumber, second.keyNumber])
            (by rw [latest, first.an, second.an]))
          rnd heardRnd sent
      refine ⟨moved, ?_⟩
      have alive : regard' = .live := by
        rcases either with rfl | rfl
        · rfl
        · exact Regard.live_onHearing
      subst alive
      have stays :=
        Phase.linked met (first.served same) (second.listens listens)
      cases sent with
      | false => exact stays
      | true => exact stays

/-- A turn of the future client. -/
theorem Phase.step_b {word : List Side} (phase : Phase start a b word)
    (beats : a.mka.keyServerPriority < b.mka.keyServerPriority)
    (long : 4 ≤ ckn.length) (awake : b.Awake nowMs) (rnd heardRnd : Octets 16)
    (sent : Bool) :
    let served := b.serve nowMs rnd sent
    let a' := a.hearing ckn served.2 heardRnd
    b.Moved a served.1 a' nowMs ∧
      Phase start a' served.1
        (strike (if sent then some .b else none) word) := by
  have client {regard return' : Regard}
      (met : a.Acquainted b regard return') (known : return' ≠ .unknown) :
      b.mka.localKeyServer = false := by
    rw [server_of_regards met.returns known, decide_eq_false_iff_not,
      UInt8.not_lt]
    exact UInt8.le_of_lt beats
  cases phase with
  | strangers met unheard first second due =>
      have content := second.content
        (Or.inr (dead_of_regards met.returns Regard.noConfusion))
      obtain ⟨moved, same, regard', met, listens, either, -⟩ :=
        Control.exchange_content met.symm long awake content
          (Or.inl first.latest)
          (fun sender _ latest => Control.not_distributes_of_excluded
            (Control.excluded (Or.inl (latest.trans second.latest))))
          rnd heardRnd sent
      refine ⟨moved, ?_⟩
      have still : regard' ≠ .live := by
        rcases either with rfl | rfl
        · exact unheard
        · rw [Regard.onHearing_unknown unheard]
          exact Regard.noConfusion
      have stays := Phase.strangers met.symm still (first.listens listens)
        (second.served same) (listens.due due)
      cases sent with
      | false => exact stays
      | true => exact stays
  | heard met unheard known first second due =>
      have content := second.content (Or.inl (client met known))
      obtain ⟨moved, same, regard', met', listens, -, does⟩ :=
        Control.exchange_content met.symm long awake content
          (Or.inl first.latest)
          (fun sender _ latest => Control.not_distributes_of_excluded
            (Control.excluded (Or.inl (latest.trans second.latest))))
          rnd heardRnd sent
      refine ⟨moved, ?_⟩
      cases sent with
      | false =>
          obtain ⟨rfl, stays⟩ := does
          exact .heard met'.symm unheard known (first.listens listens)
            (second.served same) (stays due)
      | true =>
          have alive : regard' = .live := by
            rw [does due, Regard.onHearing_of_known known]
          subst alive
          exact .answered met'.symm known (first.listens listens).waiting
            (second.served same) (listens.news (Ne.symm unheard))
  | answered met known first second due =>
      have content := second.content (Or.inl (client met known))
      obtain ⟨moved, same, regard', met, listens, either, -⟩ :=
        Control.exchange_content met.symm long awake content
          (Or.inr Regard.noConfusion)
          (fun sender _ latest => Control.not_distributes_of_excluded
            (Control.excluded (Or.inl (latest.trans second.latest))))
          rnd heardRnd sent
      refine ⟨moved, ?_⟩
      have alive : regard' = .live := by
        rcases either with rfl | rfl
        · rfl
        · exact Regard.live_onHearing
      subst alive
      have stays := Phase.answered met.symm known (first.listens listens)
        (second.served same) (listens.due due)
      cases sent with
      | false => exact stays
      | true => exact stays
  | linked met first second =>
      have server := client met Regard.noConfusion
      obtain ⟨moved, same, regard', met, listens, either, -⟩ :=
        Control.exchange_content met.symm long awake second.content
          (Or.inr Regard.noConfusion)
          (fun sender standing _ => Control.not_distributes_of_excluded
            (Control.excluded (Or.inr (standing.server.trans server))))
          rnd heardRnd sent
      refine ⟨moved, ?_⟩
      have alive : regard' = .live := by
        rcases either with rfl | rfl
        · rfl
        · exact Regard.live_onHearing
      subst alive
      have stays :=
        Phase.linked met.symm (first.listens listens) (second.served same)
      cases sent with
      | false => exact stays
      | true => exact stays

end System

end Macsec
