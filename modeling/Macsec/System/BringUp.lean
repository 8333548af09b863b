import Macsec.Api.Identity
import Macsec.Api.Steady
import Macsec.System.Encounter
import Macsec.System.Origins

/-!
# Bringing up a link

Two stations that were just initialised with one pre-shared key, and with
different priorities, take turns as their event loops do: a station ticks,
builds the control frame that is due, and reports what became of it.  Whether
the link comes up depends on three transmissions only: one of the future Key
Server, then one of the client, then another one of the Key Server.  Once they
succeeded, whatever happens before, between and after them, both stations are
secured with the same SAK, and each carries frames to the other one.
-/

namespace Macsec

namespace System

open Mka (Regard)

variable {aes : BlockCipher}

/-! ## Turns -/

/-- A turn of a station, and what the other one calls its function with if a
frame arrives. -/
structure Turn where
  side : Side
  nowMs : UInt32
  rnd : Octets 16
  sent : Bool
  buffer : Bytes
  heardRnd : Octets 16

/-- The side whose transmission succeeded in a turn, if there was one. -/
def Turn.letter (turn : Turn) : Option Side :=
  if turn.sent then some turn.side else none

/-- A station ticks, builds the control frame that is due and reports what
became of it. -/
def takeTurn (aes : BlockCipher) (ctx : Ctx) (nowMs : UInt32)
    (rnd : Octets 16) (sent : Bool) : Ctx × Option Bytes :=
  let ticked := (perform aes ctx (.tick nowMs)).1
  let built := perform aes ticked (.buildControlFrame Mka.maxFrameLen rnd)
  if built.2.ret ≠ .ok then
    (built.1, none)
  else if sent then
    ((perform aes built.1 (.notifyControlTxSuccess nowMs)).1,
      some built.2.frame)
  else
    ((perform aes built.1 .notifyControlTxFailure).1, none)

/-- The stations of a link take turns, and a frame that was sent arrives. -/
def link (aes : BlockCipher) :
    Transition.Machine (Side → Ctx) Turn (Option Bytes) where
  step parties turn :=
    let own := takeTurn aes (parties turn.side) turn.nowMs turn.rnd turn.sent
    (fun side =>
      if side = turn.side then
        own.1
      else
        own.2.elim (parties side) fun frame =>
          (perform aes (parties side)
            (.input frame turn.buffer turn.heardRnd)).1,
      own.2)

/-! ## A turn of a context -/

variable {crypto : MkaCrypto.Ctx} {ctx : Ctx} {nowMs : UInt32}

/-- A context plays its own state. -/
abbrev PlaysItself (crypto : MkaCrypto.Ctx) (ctx : Ctx) : Prop :=
  Plays crypto ctx ctx.control

theorem PlaysItself.perform (plays : PlaysItself crypto ctx) (call : Call) :
    PlaysItself crypto (perform aes ctx call).1 := by
  have keys := @perform_keys aes ctx (notDisabled_of_resting plays.resting) call
  exact ⟨plays.keyed, keys.1.trans plays.sameKeys,
    keys.2.trans plays.verifying, perform_resting plays.resting call, rfl⟩

/-- No frame is built unless one is due. -/
theorem build_unbuilt (plays : PlaysItself crypto ctx)
    (settled : ctx.pendingMkaTxValid = false) (notDue : ctx.mka.txReasons = 0)
    (rnd : Octets 16) :
    (buildControlFrame aes ctx Mka.maxFrameLen rnd).2.ret = .notReady ∧
      (buildControlFrame aes ctx Mka.maxFrameLen rnd).1.control =
        { ctx.control with pendingMkaTxMeta := Mka.TxMeta.cleared } := by
  have mode : ctx.cfg.mode = .mkaPsk := plays.resting.mode
  have valid : ctx.mka.crypto.keys.valid = true := by
    have ready := plays.keyed.ick
    rw [← plays.sameKeys] at ready
    unfold MkaCrypto.ickReady at ready
    simp only [Bool.and_eq_true] at ready
    exact ready.1
  have idle :
      Mka.buildTxFrame aes ctx.mka rnd Mka.maxFrameLen =
        (.notReady, ctx.mka, [], Mka.TxMeta.cleared) := by
    rw [Mka.buildTxFrame, valid, Bool.not_true, if_neg Bool.false_ne_true,
      if_pos notDue]
  unfold buildControlFrame
  rw [if_neg (not_not_intro mode), if_neg (ne_true_of_eq_false settled), idle]
  exact ⟨rfl, rfl⟩

/-- The participant that built the frame of a turn. -/
theorem sender_of_serve (idle : ctx.control.Idle)
    (awake : ctx.control.Awake nowMs) {rnd : Octets 16} {sent : Bool}
    {sender : Mka.Participant}
    (builds : (ctx.control.serve nowMs rnd sent).2 = some sender) :
    ctx.mka.toParticipant.SameStanding sender ∧
      Mka.LatestShape sender.latestSak := by
  obtain ⟨turned, -, -⟩ := idle.ticked awake.stays
  unfold Control.serve at builds
  dsimp only at builds
  split at builds
  next => cases builds
  next =>
      cases sent with
      | false => cases builds
      | true =>
          rw [if_pos rfl] at builds
          cases builds
          have keeps := Mka.Participant.ensureForTx_keeps
            turned.idle.resting.mka.inv rnd
          exact ⟨turned.standing.trans
            (Control.ensured (ctx.control.tick nowMs).2.mka rnd).1,
            keeps.inv.latest⟩

/-- A turn of a context is a turn of the part that the key agreement acts on. -/
theorem takeTurn_control (plays : PlaysItself crypto ctx)
    (idle : ctx.control.Idle) (awake : ctx.control.Awake nowMs)
    (own : ¬ctx.mka.ServesForeignSak) (rnd : Octets 16) (sent : Bool) :
    let served := ctx.control.serve nowMs rnd sent
    let turn := takeTurn aes ctx nowMs rnd sent
    turn.1.control = served.1 ∧
      turn.2 = served.2.map (Mka.frameOf aes crypto) ∧
      PlaysItself crypto turn.1 := by
  obtain ⟨turned, same, -⟩ := idle.ticked awake.stays
  have plays' : PlaysItself crypto (perform aes ctx (.tick nowMs)).1 :=
    plays.perform _
  have ticked : (perform aes ctx (.tick nowMs)).1.control =
      (ctx.control.tick nowMs).2 := rfl
  unfold takeTurn Control.serve
  rw [← ticked] at turned same ⊢
  revert turned same plays'
  clear ticked
  generalize (perform aes ctx (.tick nowMs)).1 = ticked
  intro turned same plays'
  dsimp only
  by_cases none : ticked.control.mka.txReasons = 0
  · obtain ⟨notReady, result⟩ :=
      @build_unbuilt aes _ _ plays' turned.idle.settled none rnd
    rw [if_pos none, if_pos (by
      rw [show (perform aes ticked (.buildControlFrame Mka.maxFrameLen
        rnd)).2.ret = .notReady from notReady]
      exact Err.noConfusion)]
    exact ⟨result, rfl, plays'.perform _⟩
  · have own' : ¬ticked.mka.ServesForeignSak := by
      rintro ⟨server, live, foreign⟩
      exact own ⟨turned.standing.server.symm.trans server,
        turned.standing.peer ▸ live, same.latest ▸ foreign⟩
    obtain ⟨result, reply⟩ := @Plays.build aes _ _ _ plays' rnd
      ⟨turned.idle.settled, none, own'⟩
    have built : PlaysItself crypto
        (perform aes ticked (.buildControlFrame Mka.maxFrameLen rnd)).1 :=
      plays'.perform _
    change (perform aes ticked
      (.buildControlFrame Mka.maxFrameLen rnd)).1.control = _ at result
    change (perform aes ticked
      (.buildControlFrame Mka.maxFrameLen rnd)).2 = _ at reply
    rw [if_neg none, reply, if_neg (not_not_intro rfl), ← result]
    cases sent with
    | false => exact ⟨rfl, rfl, built.perform _⟩
    | true =>
        refine ⟨rfl, ?_, built.perform _⟩
        rw [result]
        rfl

/-- What a turn says is heard. -/
theorem hearing_control (plays : PlaysItself crypto ctx)
    {frame : Option Mka.Participant}
    (others : ∀ sender, frame = some sender → ctx.mka.Other sender)
    (buffer : Bytes) (rnd : Octets 16) :
    let after := (frame.map (Mka.frameOf aes crypto)).elim ctx fun frame =>
      (perform aes ctx (.input frame buffer rnd)).1
    after.control = ctx.control.hearing crypto.psk.ckn frame rnd ∧
      PlaysItself crypto after := by
  cases frame with
  | none => exact ⟨rfl, plays⟩
  | some sender =>
      exact ⟨(@Plays.hear aes _ _ _ plays _ (others sender rfl) buffer rnd).1,
        plays.perform _⟩

/-! ## Runs of the link -/

/-- The timeout of the peer of a station. -/
def timeout (ctx : Mka.Participant) : UInt32 :=
  ctx.txIntervalMs * Mka.peerTimeoutMultiplier

/-- What holds of the stations before the turns to come, with the turns that are
awaited. -/
structure Underway (aes : BlockCipher) (crypto : MkaCrypto.Ctx)
    (start : Side → Ctx) (turns : List Turn) (word : List Side)
    (parties : Side → Ctx) : Prop where
  plays : ∀ side, PlaysItself crypto (parties side)
  steady : ∀ side, Steady aes (start side) (parties side)
  settings : ∀ side,
    (parties side).mka.settings = (start side).mka.settings
  awake : ∀ turn ∈ turns, (parties turn.side).control.Awake turn.nowMs
  timely : turns.Pairwise fun earlier later => earlier.side = later.side →
    later.nowMs - earlier.nowMs < timeout (start later.side).mka.toParticipant
  phase : Phase (fun side => (start side).control) (parties .a).control
    (parties .b).control word

variable {start parties : Side → Ctx} {turn : Turn} {turns : List Turn}
  {word : List Side}

theorem steady_takeTurn {start : Ctx} (steady : Steady aes start ctx)
    (enabled : start.cfg.mode ≠ .disabled) (nowMs : UInt32)
    (rnd : Octets 16) (sent : Bool) :
    Steady aes start (takeTurn aes ctx nowMs rnd sent).1 := by
  have ticked := steady.perform enabled (.tick nowMs)
  have built :=
    ticked.perform enabled (.buildControlFrame Mka.maxFrameLen rnd)
  unfold takeTurn
  dsimp only
  split
  next => exact built
  next =>
      cases sent with
      | false => exact built.perform enabled .notifyControlTxFailure
      | true => exact built.perform enabled (.notifyControlTxSuccess nowMs)

theorem Steady.hearing {start : Ctx} (steady : Steady aes start ctx)
    (enabled : start.cfg.mode ≠ .disabled) (frame : Option Bytes)
    (buffer : Bytes) (rnd : Octets 16) :
    Steady aes start (frame.elim ctx fun frame =>
      (perform aes ctx (.input frame buffer rnd)).1) := by
  cases frame with
  | none => exact steady
  | some frame => exact steady.perform enabled (.input frame buffer rnd)

/-- What holds before the turns after the first one. -/
theorem Underway.next
    (underway : Underway aes crypto start (turn :: turns) word parties)
    {other : Side} (both : ∀ side, side = turn.side ∨ side = other)
    {parties' : Side → Ctx} (plays : ∀ side, PlaysItself crypto (parties' side))
    (steady : ∀ side, Steady aes (start side) (parties' side))
    (moved :
      (parties turn.side).control.Moved (parties other).control
        (parties' turn.side).control (parties' other).control turn.nowMs)
    {word' : List Side}
    (phase : Phase (fun side => (start side).control) (parties' .a).control
      (parties' .b).control word') :
    Underway aes crypto start turns word' parties' := by
  obtain ⟨-, -, settings, awake, timely, -⟩ := underway
  obtain ⟨first, rest⟩ := List.pairwise_cons.mp timely
  refine ⟨plays, steady, fun side => ?_, fun later member => ?_, rest, phase⟩
  · rcases both side with own | others
    · rw [own]
      exact moved.turned.standing.settings.trans (settings turn.side)
    · rw [others]
      exact moved.settings.trans (settings other)
  · have before := awake later (List.mem_cons_of_mem _ member)
    rcases both later.side with own | others
    · obtain ⟨-, -, -, -, interval⟩ :=
        Mka.Settings.mk.inj (settings turn.side)
      have soon := first later member own.symm
      rw [own] at before soon ⊢
      refine moved.turned.awake before ?_
      change _ < (parties turn.side).mka.txIntervalMs * _
      rw [interval]
      exact soon
    · rw [others] at before ⊢
      exact moved.awake _ before

/-- A turn of the link is an exchange of the parts that the key agreement acts
on. -/
theorem link_control {other : Side} (apart : other ≠ turn.side)
    (plays : ∀ side, PlaysItself crypto (parties side))
    (idle : (parties turn.side).control.Idle)
    (awake : (parties turn.side).control.Awake turn.nowMs)
    (own : ¬(parties turn.side).mka.ServesForeignSak)
    (differ : Differ (parties turn.side).mka.toParticipant
      (parties other).mka.toParticipant) :
    let after := ((link aes).step parties turn).1
    let served :=
      (parties turn.side).control.serve turn.nowMs turn.rnd turn.sent
    ((after turn.side).control = served.1 ∧
        PlaysItself crypto (after turn.side)) ∧
      (after other).control =
          (parties other).control.hearing crypto.psk.ckn served.2
            turn.heardRnd ∧
        PlaysItself crypto (after other) := by
  obtain ⟨control, frame, plays'⟩ :=
    @takeTurn_control aes _ _ _ (plays turn.side) idle awake own turn.rnd
      turn.sent
  have others (sender : Mka.Participant)
      (builds : ((parties turn.side).control.serve turn.nowMs turn.rnd
        turn.sent).2 = some sender) : (parties other).mka.Other sender := by
    obtain ⟨standing, shape⟩ := sender_of_serve idle awake builds
    obtain ⟨mac, sci, mi, -, -⟩ := Mka.Settings.mk.inj standing.settings
    exact ⟨shape, mac ▸ differ.1, sci ▸ differ.2.1, mi ▸ differ.2.2⟩
  have heard := @hearing_control aes _ _ (plays other) _ others turn.buffer
    turn.heardRnd
  rw [← frame] at heard
  have moved : ((link aes).step parties turn).1 turn.side =
      (takeTurn aes (parties turn.side) turn.nowMs turn.rnd turn.sent).1 :=
    if_pos rfl
  have listened : ((link aes).step parties turn).1 other =
      (takeTurn aes (parties turn.side) turn.nowMs turn.rnd
        turn.sent).2.elim (parties other) fun frame =>
          (perform aes (parties other)
            (.input frame turn.buffer turn.heardRnd)).1 :=
    if_neg apart
  dsimp only
  rw [moved, listened]
  exact ⟨⟨control, plays'⟩, heard⟩

theorem steady_link (steady : ∀ side, Steady aes (start side) (parties side))
    (enabled : ∀ side, (start side).cfg.mode ≠ .disabled) (side : Side) :
    Steady aes (start side) (((link aes).step parties turn).1 side) := by
  unfold link
  dsimp only
  split
  next own =>
      rw [own]
      exact steady_takeTurn (steady turn.side) (enabled turn.side) _ _ _
  next =>
      exact Steady.hearing (steady side) (enabled side) _ _ _

theorem Differ.symm {first second : Mka.Participant}
    (differ : Differ first second) : Differ second first :=
  ⟨differ.1.symm, differ.2.1.symm, differ.2.2.symm⟩

/-- Every turn keeps what holds before the turns to come. -/
theorem Underway.step
    (underway : Underway aes crypto start (turn :: turns) word parties)
    (enabled : ∀ side, (start side).cfg.mode ≠ .disabled)
    (differ :
      Differ (start .a).mka.toParticipant (start .b).mka.toParticipant)
    (beats : (start .a).mka.keyServerPriority <
      (start .b).mka.keyServerPriority)
    (long : 4 ≤ crypto.psk.ckn.length) :
    Underway aes crypto start turns (Transition.strike turn.letter word)
      ((link aes).step parties turn).1 := by
  obtain ⟨idleA, idleB⟩ := underway.phase.ready
  have awake := underway.awake turn List.mem_cons_self
  obtain ⟨macA, sciA, miA, priorityA, -⟩ :=
    Mka.Settings.mk.inj (underway.settings .a)
  obtain ⟨macB, sciB, miB, priorityB, -⟩ :=
    Mka.Settings.mk.inj (underway.settings .b)
  have wins : (parties .a).control.mka.keyServerPriority <
      (parties .b).control.mka.keyServerPriority := by
    change (parties .a).mka.keyServerPriority <
      (parties .b).mka.keyServerPriority
    rw [priorityA, priorityB]
    exact beats
  have apart :
      Differ (parties .a).mka.toParticipant (parties .b).mka.toParticipant := by
    unfold Differ
    rw [macA, sciA, miA, macB, sciB, miB]
    exact differ
  obtain ⟨ownA, ownB⟩ := underway.phase.not_servesForeignSak wins
  have steady := @steady_link aes start parties turn underway.steady enabled
  unfold Turn.letter
  obtain ⟨side, nowMs, rnd, sent, buffer, heardRnd⟩ := turn
  cases side with
  | a =>
      obtain ⟨⟨moves, playsA⟩, listens, playsB⟩ :=
        @link_control aes _ parties ⟨.a, nowMs, rnd, sent, buffer, heardRnd⟩ .b
          Side.noConfusion underway.plays idleA awake ownA apart
      obtain ⟨moved, phase⟩ :=
        underway.phase.step_a wins long awake rnd heardRnd sent
      rw [← moves, ← listens] at moved phase
      refine underway.next (fun side => ?_) (fun side => ?_) steady moved phase
      · cases side with
        | a => exact Or.inl rfl
        | b => exact Or.inr rfl
      · cases side with
        | a => exact playsA
        | b => exact playsB
  | b =>
      obtain ⟨⟨moves, playsB⟩, listens, playsA⟩ :=
        @link_control aes _ parties ⟨.b, nowMs, rnd, sent, buffer, heardRnd⟩ .a
          Side.noConfusion underway.plays idleB awake ownB apart.symm
      obtain ⟨moved, phase⟩ :=
        underway.phase.step_b wins long awake rnd heardRnd sent
      rw [← moves, ← listens] at moved phase
      refine underway.next (fun side => ?_) (fun side => ?_) steady moved phase
      · cases side with
        | a => exact Or.inr rfl
        | b => exact Or.inl rfl
      · cases side with
        | a => exact playsA
        | b => exact playsB

/-! ## The start of a link -/

/-- A context that was just initialised is idle, has no SAK, knows no peer and
has a transmission due. -/
theorem ready_initialCtx {cfg : Config} (mode : cfg.mode = .mkaPsk)
    (mi : Octets 12) :
    let ctx := (initialCtx aes cfg mi).control
    ctx.Idle ∧ ctx.Blank ctx ∧
      (ctx.mka.peer.valid = false ∧ ctx.mka.peer.live = false) ∧
      ctx.mka.txReasons ≠ 0 := by
  have resting := @initialCtx_resting aes _ mode mi
  have started : (initialCtx aes cfg mi).control.mka = _ :=
    Mka.completeInit_eq cfg.localMac (if cfg.portId = 0 then 1 else cfg.portId)
      cfg.keyServerPriority cfg.mkaTxIntervalMs mi
  dsimp only
  refine ⟨⟨resting, rfl, ?_, ?_, State.noConfusion⟩, ⟨rfl, rfl, ?_⟩,
    ⟨?_, ?_⟩, ?_⟩
  · rw [started]
    exact show Mka.TxReason.Known Mka.TxReason.initial from rfl
  · rw [started]
    rfl
  · rw [started]
    rfl
  · rw [started]
    rfl
  · rw [started]
    rfl
  · rw [started]
    exact show Mka.TxReason.initial ≠ 0 by decide

/-- So is one that ticked for the first time. -/
theorem awoken_of_init {cfg : Config} {mi : Octets 12}
    (mode : cfg.mode = .mkaPsk) (initialised : init aes cfg mi = (.ok, ctx))
    (nowMs : UInt32) :
    let after := (perform aes ctx (.tick nowMs)).1
    (PlaysItself (MkaCrypto.keysOf aes cfg.cak cfg.ckn) after ∧
        Steady aes ctx after) ∧
      (ctx.control.Turned after.control nowMs ∧
        ctx.control.Blank after.control) ∧
      (after.mka.peer.valid = false ∧ after.mka.peer.live = false) ∧
      after.mka.txReasons ≠ 0 := by
  intro after
  have member := member_of_init mode initialised
  have plays : PlaysItself (MkaCrypto.keysOf aes cfg.cak cfg.ckn) ctx :=
    ⟨member.keys ▸ member.keyed, member.keys, member.verifying,
      member.resting, rfl⟩
  have ready := @ready_initialCtx aes _ mode mi
  rw [← (init_mkaPsk mode initialised).1] at ready
  obtain ⟨idle, blank, ⟨valid, live⟩, due⟩ := ready
  have stays : ¬ctx.control.mka.Expires nowMs := fun expires => by
    rw [expires.1] at valid
    exact Bool.noConfusion valid
  obtain ⟨turned, same, stillDue⟩ := idle.ticked stays
  have enabled : ctx.cfg.mode ≠ .disabled :=
    notDisabled_of_resting member.resting
  refine ⟨⟨plays.perform _, (steady_of_init initialised).perform enabled _⟩,
    ⟨turned, blank.served same⟩, ⟨?_, ?_⟩, stillDue due⟩
  · exact (congrArg Mka.Peer.valid turned.standing.peer).trans valid
  · exact (congrArg Mka.Peer.live turned.standing.peer).trans live

/-- The stations after their first ticks. -/
def awoken (aes : BlockCipher) (start : Side → Ctx) (clock : Side → UInt32)
    (side : Side) : Ctx :=
  (perform aes (start side) (.tick (clock side))).1

/-- The times of the turns of a station. -/
def Turn.times (turns : List Turn) (side : Side) : List UInt32 :=
  (turns.filter fun turn => turn.side = side).map Turn.nowMs

/-- Every two times of a list, the first one earlier, are close together. -/
def Close (limit : UInt32) (times : List UInt32) : Prop :=
  times.Pairwise fun earlier later => later - earlier < limit

instance (limit : UInt32) (times : List UInt32) :
    Decidable (Close limit times) :=
  inferInstanceAs (Decidable (times.Pairwise _))

theorem enabled_of_grouped {cak ckn : Bytes}
    (grouped : Grouped aes cak ckn start) (side : Side) :
    (start side).cfg.mode ≠ .disabled := by
  obtain ⟨cfg, mi, mode, -, -, result⟩ := grouped side
  rw [init_mode result, mode]
  exact Mode.noConfusion

/-- Turns that are close on either side are close to those of the same side. -/
theorem timely_of_close {limit : Side → UInt32}
    (close : ∀ side, Close (limit side) (Turn.times turns side)) :
    turns.Pairwise fun earlier later => earlier.side = later.side →
      later.nowMs - earlier.nowMs < limit later.side := by
  have each (side : Side) :=
    List.pairwise_filter.mp (List.pairwise_map.mp (close side))
  refine ((each .a).and (each .b)).imp ?_
  rintro earlier later ⟨first, second⟩ same
  cases side : later.side with
  | a =>
      rw [side] at same
      exact first (decide_eq_true same) (decide_eq_true side)
  | b =>
      rw [side] at same
      exact second (decide_eq_true same) (decide_eq_true side)

/-- The stations are strangers after their first ticks. -/
theorem underway_awoken {cak ckn : Bytes}
    (grouped : Grouped aes cak ckn start) (clock : Side → UInt32)
    (close : ∀ side, Close (timeout (start side).mka.toParticipant)
      (clock side :: Turn.times turns side)) :
    Underway aes (MkaCrypto.keysOf aes cak ckn) start turns [.a, .b, .a]
      (awoken aes start clock) := by
  have woke (side : Side) :
      (PlaysItself (MkaCrypto.keysOf aes cak ckn)
            (awoken aes start clock side) ∧
          Steady aes (start side) (awoken aes start clock side)) ∧
        ((start side).control.Turned
            (awoken aes start clock side).control (clock side) ∧
          (start side).control.Blank (awoken aes start clock side).control) ∧
        ((awoken aes start clock side).mka.peer.valid = false ∧
          (awoken aes start clock side).mka.peer.live = false) ∧
        (awoken aes start clock side).mka.txReasons ≠ 0 := by
    obtain ⟨cfg, mi, mode, rfl, rfl, result⟩ := grouped side
    exact awoken_of_init mode result (clock side)
  refine ⟨fun side => (woke side).1.1, fun side => (woke side).1.2,
    fun side => (woke side).2.1.1.standing.settings, fun turn member => ?_,
    timely_of_close fun side => (List.pairwise_cons.mp (close side)).2, ?_⟩
  · obtain ⟨-, ⟨turned, -⟩, ⟨unknown, -⟩, -⟩ := woke turn.side
    obtain ⟨-, -, -, -, interval⟩ :=
      Mka.Settings.mk.inj turned.standing.settings
    have soon := (List.pairwise_cons.mp (close turn.side)).1 turn.nowMs
      (List.mem_map_of_mem
        (List.mem_filter.mpr ⟨member, decide_eq_true rfl⟩))
    refine ⟨?_, fun valid => ?_⟩
    · rw [turned.clock, interval]
      exact soon
    · exact absurd (unknown.symm.trans valid) Bool.false_ne_true
  · have met : (awoken aes start clock .a).control.Acquainted
        (awoken aes start clock .b).control .unknown .unknown :=
      ⟨(woke .a).2.1.1.idle, (woke .b).2.1.1.idle, (woke .a).2.2.1,
        (woke .b).2.2.1⟩
    exact .strangers met Regard.noConfusion (woke .a).2.1.2 (woke .b).2.1.2
      (woke .a).2.2.2

/-! ## The end of a link -/

/-- Both stations are secured once nothing is awaited any more, and neither is
before. -/
theorem secured_iff_of_phase {a b : Control} {start : Side → Control}
    (phase : Phase start a b word) :
    (a.state = .secured ↔ word = []) ∧ (b.state = .secured ↔ word = []) := by
  cases phase with
  | strangers _ _ first second | heard _ _ _ first second
  | answered _ _ first second =>
      rw [first.state, second.state]
      exact ⟨iff_of_false State.noConfusion (List.cons_ne_nil _ _),
        iff_of_false State.noConfusion (List.cons_ne_nil _ _)⟩
  | linked _ first second =>
      rw [first.state, second.state]
      exact ⟨iff_of_true rfl rfl, iff_of_true rfl rfl⟩

/-- A fresh association accepts the first packet number. -/
theorem replayCheck_freshSak {table : FrameCrypto.SaTable} {key : Bytes}
    {an : Fin 4}
    (window : table.replayProtect = true →
      table.replayWindow ≤ FrameCrypto.maxReplayWindow) :
    FrameCrypto.replayCheck table (freshSak key an 1) 1 = .ok := by
  unfold FrameCrypto.replayCheck
  cases protects : table.replayProtect with
  | false => rfl
  | true =>
      rw [Bool.not_true, if_neg Bool.false_ne_true,
        if_neg (UInt32.not_lt.mpr (window protects)),
        if_neg (show ¬(freshSak key an 1).replayExhausted = true from
          Bool.false_ne_true),
        if_neg (show ¬1 < (freshSak key an 1).lowestAcceptablePn from
          show ¬(1 : UInt32) < 1 by decide)]
      split
      next => rfl
      next => exact if_pos (Or.inl rfl)

/-- The table of a station that uses a SAK holds it as a fresh one. -/
theorem table_of_uses {start ctx : Control} {origin : Mka.SakOrigin}
    {key : Bytes} {keyNumber : UInt32} {an : Fin 4}
    (uses : start.Uses ctx origin key keyNumber an)
    (empty : start.table.txSak = FrameCrypto.Sak.cleared ∧
      start.table.rxSak an = FrameCrypto.Sak.cleared) :
    ctx.table =
      { start.table with
        txSak := freshSak key an 1
        rxSak :=
          Function.update start.table.rxSak an (freshSak key an 1) } := by
  have received : rxTable start.table key an 1 =
      { start.table with
        rxSak :=
          Function.update start.table.rxSak an (freshSak key an 1) } := by
    rw [rxTable, empty.2]
    rfl
  rw [uses.table, received, txTable, empty.1]
  rfl

/-- A station carries a plaintext to another one: what it sends for it is passed
on there as the same plaintext. -/
def Carries (aes : BlockCipher) (sender receiver : Ctx) (plain : Bytes)
    (txMaxLen : Nat) (buffer : Bytes) (rnd : Octets 16) : Prop :=
  let sent := perform aes sender (.output plain txMaxLen)
  let passed := perform aes receiver (.input sent.2.frame buffer rnd)
  sent.2.ret = .ok ∧ passed.2.ret = .ok ∧ passed.2.passToStack = true ∧
    passed.2.frame = plain

/-- Whatever can be sent and received under one key is carried. -/
theorem carries_of_receivable {sender receiver : Ctx}
    (cached : sender.frameCrypto.Cached aes)
    (cached' : receiver.frameCrypto.Cached aes)
    (mode : sender.cfg.mode ≠ .disabled) (mode' : receiver.cfg.mode ≠ .disabled)
    (secured : sender.state = .secured) (secured' : receiver.state = .secured)
    {plain buffer : Bytes} {txMaxLen : Nat}
    (sendable : FrameCrypto.Sendable sender.frameCrypto.toSaTable plain.length
      txMaxLen)
    (receivable : FrameCrypto.Receivable receiver.frameCrypto.toSaTable
      sender.frameCrypto.txSak.an sender.frameCrypto.txSak.nextPn plain.length
      buffer.length)
    (same : (receiver.frameCrypto.rxSak sender.frameCrypto.txSak.an).key =
      sender.frameCrypto.txSak.key) (rnd : Octets 16) :
    Carries aes sender receiver plain txMaxLen buffer rnd := by
  obtain ⟨ok, form⟩ := FrameCrypto.encrypt_eq cached sendable
  have valid : sender.frameCrypto.txSak.valid = true := by
    have ready := sendable.ready
    simp only [FrameCrypto.readyTx, Bool.and_eq_true] at ready
    exact ready.1.1
  have sent : (perform aes sender (.output plain txMaxLen)).2 =
      { ret := .ok
        frame :=
          FrameCrypto.sealFrame aes sender.frameCrypto.txSak.key
            sender.frameCrypto.txSak.an sender.frameCrypto.txSak.nextPn
            sender.frameCrypto.localSci plain
        passToStack := false } := by
    change (output aes sender plain txMaxLen).2 = _
    unfold output
    rw [if_neg mode, if_neg (not_not_intro secured), valid,
      if_neg (by decide)]
    dsimp only
    rw [ok, form]
  unfold Carries
  dsimp only
  rw [sent, ← same]
  refine ⟨rfl, ?_⟩
  obtain ⟨returned, passed⟩ := delivers_sealFrame cached' mode' secured'
    sender.frameCrypto.localSci receivable rnd
  obtain ⟨payload, opens, delivered⟩ :=
    (opened_of_passed cached' mode' passed).opens
  obtain ⟨-, -, selected, addresses⟩ :=
    @FrameCrypto.sealFrame_fields aes
      (receiver.frameCrypto.rxSak sender.frameCrypto.txSak.an).key
      sender.frameCrypto.txSak.an sender.frameCrypto.txSak.nextPn
      sender.frameCrypto.localSci plain
  rw [selected] at opens
  refine ⟨returned, passed, delivered.trans ?_⟩
  rw [FrameCrypto.payload_of_opens rfl sendable.short opens, addresses]
  exact FrameCrypto.take_append_drop_addresses sendable.long

/-- A plaintext has the size of a frame, and there is room for it on both
sides. -/
structure Fits (plain : Bytes) (txMaxLen : Nat) (buffer : Bytes) : Prop where
  long : FrameCrypto.ethHdrLen ≤ plain.length
  short : plain.length ≤ FrameCrypto.maxPlainSize
  room : FrameCrypto.ethHdrLen + FrameCrypto.secTagLen +
    (plain.length - 12) + FrameCrypto.icvLen ≤ txMaxLen
  space : plain.length ≤ buffer.length

/-- A station protects and opens frames with a fresh SAK. -/
structure Equipped (start ctx : Ctx) (key : Bytes) (an : Fin 4) : Prop where
  secured : ctx.state = .secured
  length : FrameCrypto.keyLenValid key.length = true
  table : ctx.frameCrypto.toSaTable =
    { start.frameCrypto.toSaTable with
      txSak := freshSak key an 1
      rxSak :=
        Function.update start.frameCrypto.rxSak an (freshSak key an 1) }

/-- A station that uses a SAK is equipped with it. -/
theorem equipped_of_uses {start : Ctx} {origin : Mka.SakOrigin} {key : Bytes}
    {keyNumber : UInt32} {an : Fin 4}
    (uses : start.control.Uses ctx.control origin key keyNumber an)
    (idle : ctx.control.Idle)
    (empty : start.frameCrypto.txSak = FrameCrypto.Sak.cleared ∧
      start.frameCrypto.rxSak an = FrameCrypto.Sak.cleared) :
    Equipped start ctx key an := by
  refine ⟨uses.state, ?_, table_of_uses uses empty⟩
  have held := idle.resting.mka.inv.latest.held uses.present
  rw [keyLenValid_eq_sakLenValid, ← uses.key]
  exact held.length

namespace Equipped

variable {before after : Ctx} {key : Bytes} {an : Fin 4}

theorem txSak (equipped : Equipped before after key an) :
    after.frameCrypto.txSak = freshSak key an 1 :=
  congrArg FrameCrypto.SaTable.txSak equipped.table

theorem rxSak (equipped : Equipped before after key an) :
    after.frameCrypto.rxSak an = freshSak key an 1 := by
  rw [congrArg FrameCrypto.SaTable.rxSak equipped.table]
  exact Function.update_self _ _ _

theorem readyTx (equipped : Equipped before after key an) :
    FrameCrypto.readyTx after.frameCrypto.toSaTable = true := by
  rw [FrameCrypto.readyTx, equipped.txSak]
  exact congrArg (fun valid => true && valid && true) equipped.length

theorem readyRx (equipped : Equipped before after key an) :
    FrameCrypto.readyRx after.frameCrypto.toSaTable an = true := by
  rw [FrameCrypto.readyRx, equipped.rxSak]
  exact congrArg (fun valid => true && valid && true) equipped.length

end Equipped

/-- A station starts without keys. -/
theorem empty_of_grouped {cak ckn : Bytes}
    (grouped : Grouped aes cak ckn start) (side : Side) (an : Fin 4) :
    (start side).frameCrypto.encrypt = true ∧
      (start side).frameCrypto.txSak = FrameCrypto.Sak.cleared ∧
      (start side).frameCrypto.rxSak an = FrameCrypto.Sak.cleared := by
  obtain ⟨cfg, mi, mode, -, -, result⟩ := grouped side
  rw [(init_mkaPsk mode result).1]
  exact ⟨rfl, rfl, rfl⟩

/-- The stations of a link that is up are equipped with one SAK. -/
theorem equipped_of_phase {cak ckn : Bytes}
    (grouped : Grouped aes cak ckn start)
    (phase : Phase (fun side => (start side).control) (parties .a).control
      (parties .b).control []) :
    ∃ key an, ∀ side, Equipped (start side) (parties side) key an := by
  obtain ⟨idleA, idleB⟩ := phase.ready
  cases phase with
  | @linked key keyNumber an met first second =>
      refine ⟨key, an, fun side => ?_⟩
      cases side with
      | a =>
          exact equipped_of_uses first idleA (empty_of_grouped grouped .a an).2
      | b =>
          exact equipped_of_uses second idleB
            (empty_of_grouped grouped .b an).2

/-- Stations that are equipped with one SAK share it. -/
theorem shares_of_equipped {key : Bytes} {an : Fin 4}
    (equipped : ∀ side, Equipped (start side) (parties side) key an) :
    Shares parties key an := fun side =>
  ⟨(equipped side).readyTx,
    congrArg FrameCrypto.Sak.key (equipped side).txSak,
    congrArg FrameCrypto.Sak.an (equipped side).txSak,
    (equipped side).readyRx,
    congrArg FrameCrypto.Sak.key (equipped side).rxSak⟩

/-- Stations that are equipped with one SAK carry whatever fits to each other.
-/
theorem carries_of_equipped {key : Bytes} {an : Fin 4}
    {sender receiver sender' receiver' : Ctx}
    (own : Equipped sender sender' key an)
    (other : Equipped receiver receiver' key an)
    (steady : Steady aes sender sender')
    (steady' : Steady aes receiver receiver')
    (mode : sender.cfg.mode ≠ .disabled) (mode' : receiver.cfg.mode ≠ .disabled)
    (encrypts : sender.frameCrypto.encrypt = true)
    (window : receiver.frameCrypto.replayProtect = true →
      receiver.frameCrypto.replayWindow ≤ FrameCrypto.maxReplayWindow)
    {plain buffer : Bytes} {txMaxLen : Nat} (fits : Fits plain txMaxLen buffer)
    (rnd : Octets 16) :
    Carries aes sender' receiver' plain txMaxLen buffer rnd := by
  apply carries_of_receivable steady.cached steady'.cached (steady.cfg ▸ mode)
    (steady'.cfg ▸ mode') own.secured other.secured
  · refine ⟨own.readyTx, ?_, fits.long, fits.short, fits.room⟩
    rw [own.table]
    exact encrypts
  · rw [own.txSak]
    refine ⟨other.readyRx, show (1 : UInt32) ≠ 0 by decide, ?_, fits.long,
      fits.short, fits.space⟩
    change FrameCrypto.replayCheck _ (receiver'.frameCrypto.rxSak an) 1 = .ok
    rw [other.rxSak]
    apply replayCheck_freshSak
    rw [other.table]
    exact window
  · rw [own.txSak]
    exact congrArg FrameCrypto.Sak.key other.rxSak

/-- Keys that could be derived carry the name that they were derived from. -/
theorem ckn_of_keyed {cak ckn : Bytes}
    (keyed : (MkaCrypto.keysOf aes cak ckn).Keyed) :
    (MkaCrypto.keysOf aes cak ckn).psk.ckn = ckn := by
  have accepted : (MkaCrypto.setPsk MkaCrypto.init cak ckn).1 = .ok := by
    by_contra refused
    have same :
        (MkaCrypto.setPsk MkaCrypto.init cak ckn).2 = MkaCrypto.init := by
      unfold MkaCrypto.setPsk at refused ⊢
      split_ifs at refused ⊢
      · rfl
      · rfl
      · exact absurd rfl refused
    have ready := keyed.ick
    rw [MkaCrypto.keysOf, same] at ready
    exact Bool.noConfusion ready
  obtain ⟨cakSize, cknPresent, cknFits⟩ := MkaCrypto.setPsk_sizes accepted
  exact MkaCrypto.ckn_keysOf aes cakSize cknPresent cknFits

/-- The link is up precisely if three transmissions succeeded, in this order:
one of the station with the higher priority, one of the other, and one more of
the first one.  Then every plaintext that fits is carried in both directions. -/
theorem link_comes_up {cak ckn : Bytes} (grouped : Grouped aes cak ckn start)
    (long : 4 ≤ ckn.length)
    (differ :
      Differ (start .a).mka.toParticipant (start .b).mka.toParticipant)
    (beats : (start .a).mka.keyServerPriority <
      (start .b).mka.keyServerPriority)
    (clock : Side → UInt32) (turns : List Turn)
    (close : ∀ side, Close (timeout (start side).mka.toParticipant)
      (clock side :: Turn.times turns side)) :
    let parties := (link aes).final (awoken aes start clock) turns
    let up := [Side.a, .b, .a].Sublist (turns.filterMap Turn.letter)
    (∀ side, (parties side).state = .secured ↔ up) ∧
      (up → (∃ key an, Shares parties key an) ∧
        ∀ sender receiver plain txMaxLen buffer rnd, sender ≠ receiver →
          Fits plain txMaxLen buffer →
          ((start receiver).frameCrypto.replayProtect = true →
            (start receiver).frameCrypto.replayWindow ≤
              FrameCrypto.maxReplayWindow) →
          Carries aes (parties sender) (parties receiver) plain txMaxLen buffer
            rnd) := by
  intro parties up
  have enabled := enabled_of_grouped grouped
  have named : (MkaCrypto.keysOf aes cak ckn).psk.ckn = ckn :=
    ckn_of_keyed ((underway_awoken grouped clock close).plays .a).keyed
  have underway : Underway aes (MkaCrypto.keysOf aes cak ckn) start []
      (Transition.awaited Turn.letter [.a, .b, .a] turns) parties :=
    Transition.Machine.awaits
      (fun _ _ _ _ underway => underway.step enabled differ beats
        (named.symm ▸ long))
      (underway_awoken grouped clock close)
  have upIff := @Transition.awaited_eq_nil_iff _ _ _ Turn.letter
    [Side.a, .b, .a] turns
  obtain ⟨securedA, securedB⟩ := secured_iff_of_phase underway.phase
  refine ⟨fun side => ?_, fun isUp => ?_⟩
  · cases side with
    | a => exact securedA.trans upIff
    | b => exact securedB.trans upIff
  · have phase := underway.phase
    rw [upIff.mpr isUp] at phase
    obtain ⟨key, an, equipped⟩ := equipped_of_phase grouped phase
    refine ⟨⟨key, an, shares_of_equipped equipped⟩, ?_⟩
    intro sender receiver plain txMaxLen buffer rnd _ fits window
    exact carries_of_equipped (equipped sender) (equipped receiver)
      (underway.steady sender) (underway.steady receiver) (enabled sender)
      (enabled receiver) (empty_of_grouped grouped sender an).1 window fits rnd

/-- Two stations with one pre-shared key. -/
def neighbours (aes : BlockCipher) : Side → Ctx
  | .a => stationCtx aes 2 5 12
  | .b => stationCtx aes 1 10 11

/-- Turns in which the first transmission fails and the other three succeed. -/
def firstTurns : List Turn :=
  [⟨.a, 10, Mka.sakOctets 1, false, [], Mka.sakOctets 2⟩,
    ⟨.a, 20, Mka.sakOctets 1, true, [], Mka.sakOctets 2⟩,
    ⟨.b, 30, Mka.sakOctets 2, true, [], Mka.sakOctets 1⟩,
    ⟨.a, 40, Mka.sakOctets 1, true, [], Mka.sakOctets 2⟩]

/-- The neighbours are secured after these turns. -/
theorem neighbours_come_up :
    let parties := (link BlockCipher.null).final
      (awoken BlockCipher.null (neighbours BlockCipher.null) fun _ => 0)
      firstTurns
    (parties .a).state = .secured ∧ (parties .b).state = .secured := by
  have grouped : Grouped BlockCipher.null Mka.stationCak Mka.stationCkn
      (neighbours BlockCipher.null) := by
    intro side
    cases side with
    | a => exact ⟨_, _, rfl, rfl, rfl, init_stationCtx _ 2 5 12⟩
    | b => exact ⟨_, _, rfl, rfl, rfl, init_stationCtx _ 1 10 11⟩
  have close (side : Side) :
      Close (timeout (neighbours BlockCipher.null side).mka.toParticipant)
        (0 :: Turn.times firstTurns side) := by
    cases side with
    | a => exact show Close 6000 [0, 10, 20, 40] by decide
    | b => exact show Close 6000 [0, 30] by decide
  have secured := (link_comes_up grouped
    (show 4 ≤ Mka.stationCkn.length by decide)
    (show Differ (Mka.newcomer 2 5 12) (Mka.newcomer 1 10 11) by decide)
    (show (5 : UInt8) < 10 by decide) (fun _ => 0) firstTurns close).1
  exact ⟨(secured .a).mpr (by decide), (secured .b).mpr (by decide)⟩

end System

end Macsec
