import Macsec.Api.Scripts
import Macsec.System.Reflection

/-!
# Scripts of several parties

The parties share a pre-shared key and exchange MKPDUs and protected frames over
a network that may lose, delay, reorder and duplicate them but forges nothing.
A script is played on the states of the parties and on what they put on the
wire, and under every block cipher some run of the system has the same effect.
-/

namespace Macsec

namespace FrameCrypto

variable {aes : BlockCipher} {ctx : Ctx}

/-- The associations after a frame was protected. -/
def SaTable.sending (table : SaTable) : SaTable :=
  { table with
    txSak :=
      { table.txSak with
        nextPn := followingPn table.txSak.nextPn } }.withCache true
    table.txSak.key true

/-- The associations after a frame was opened. -/
def SaTable.receiving (table : SaTable) (an : Fin 4) (pn : UInt32) : SaTable :=
  { table with
    rxSak :=
      if table.replayProtect then
        Function.update table.rxSak an (replayCommit table (table.rxSak an) pn)
      else
        table.rxSak }.withCache true (table.rxSak an).key true

/-- Setting a key leaves an initialised GCM context set up for the key. -/
theorem gcmSetKey_table (cached : ctx.Cached aes)
    (initialized : ctx.gcmInitialized = true) {key : Bytes}
    (size : keyLenValid key.length = true) :
    ∃ gcm,
      gcmSetKey aes ctx key =
          (.ok,
            { toSaTable := ctx.toSaTable.withCache true key true
              gcm := gcm }) ∧
        KeyedFor aes gcm key := by
  obtain ⟨flag, gcm, result, keyed⟩ := gcmSetKey_eq cached size
  have kept : flag = true := by
    have set : (gcmSetKey aes ctx key).2.gcmInitialized = true := by
      unfold gcmSetKey
      split
      next => exact initialized
      next =>
          dsimp only
          split
          next => rfl
          next => rfl
    rw [result] at set
    exact set
  rw [kept] at result
  exact ⟨gcm, result, keyed⟩

theorem encrypt_table (cached : ctx.Cached aes)
    (initialized : ctx.gcmInitialized = true) {plain : Bytes}
    {secureMaxLen : Nat}
    (sendable : Sendable ctx.toSaTable plain.length secureMaxLen) :
    (encrypt aes ctx plain secureMaxLen).2.1.toSaTable =
      ctx.toSaTable.sending := by
  obtain ⟨gcm, result, keyed⟩ :=
    gcmSetKey_table cached initialized (keyLenValid_of_readyTx sendable.ready)
  have payloadShort : (plain.drop 12).length ≤ maxPlainSize := by
    rw [List.length_drop]
    exact (Nat.sub_le _ _).trans sendable.short
  obtain ⟨ok, -, -⟩ :=
    @sealed_ok aes gcm ctx.localSci ctx.txSak.nextPn
      (plain.slice 0 12) ctx.txSak.an _ payloadShort
  unfold encrypt
  rw [encryptCheck_iff.mpr sendable]
  dsimp only
  rw [result]
  dsimp only [SaTable.withCache] at ok ⊢
  rw [if_neg (not_not_intro ok)]
  rfl

/-- Recording a packet number changes one association at most. -/
theorem recordPn_table (ctx : Ctx) (an : Fin 4) (pn : UInt32) :
    (recordPn ctx an pn).toSaTable =
      { ctx.toSaTable with
        rxSak :=
          if ctx.replayProtect then
            Function.update ctx.rxSak an
              (replayCommit ctx.toSaTable (ctx.rxSak an) pn)
          else
            ctx.rxSak } := by
  unfold recordPn
  split
  next => rfl
  next => rfl

theorem decrypt_table (cached : ctx.Cached aes)
    (initialized : ctx.gcmInitialized = true) {secure plain payload : Bytes}
    (checked : decryptCheck ctx.toSaTable secure plain.length = .ok)
    (opens : Opens aes (ctx.rxSak (frameAn secure)).key secure payload) :
    (decrypt aes ctx secure plain).2.1.toSaTable =
      ctx.toSaTable.receiving (frameAn secure) (framePn secure) := by
  obtain ⟨gcm, result, keyed⟩ :=
    gcmSetKey_table cached initialized
      (keyLenValid_of_readyRx (decryptCheck_ok checked).1)
  unfold decrypt
  rw [checked]
  dsimp only
  rw [result]
  dsimp only
  rw [keyed.authDecrypt, if_neg (not_not_intro opens.1)]
  exact recordPn_table _ _ _

instance (table : SaTable) (plainLen secureMaxLen : Nat) :
    Decidable (Sendable table plainLen secureMaxLen) :=
  decidable_of_iff
    (readyTx table = true ∧ table.encrypt = true ∧ ethHdrLen ≤ plainLen ∧
      plainLen ≤ maxPlainSize ∧
      ethHdrLen + secTagLen + (plainLen - 12) + icvLen ≤ secureMaxLen)
    ⟨fun ⟨ready, enabled, long, short, room⟩ =>
        ⟨ready, enabled, long, short, room⟩,
      fun sendable => ⟨sendable.ready, sendable.enabled, sendable.long,
        sendable.short, sendable.room⟩⟩

instance (table : SaTable) (an : Fin 4) (pn : UInt32)
    (plainLen plainMaxLen : Nat) :
    Decidable (Receivable table an pn plainLen plainMaxLen) :=
  decidable_of_iff
    (readyRx table an = true ∧ pn ≠ 0 ∧
      replayCheck table (table.rxSak an) pn = .ok ∧ ethHdrLen ≤ plainLen ∧
      plainLen ≤ maxPlainSize ∧ plainLen ≤ plainMaxLen)
    ⟨fun ⟨ready, nonzero, fresh, long, short, room⟩ =>
        ⟨ready, nonzero, fresh, long, short, room⟩,
      fun receivable => ⟨receivable.ready, receivable.nonzero,
        receivable.fresh, receivable.long, receivable.short,
        receivable.room⟩⟩

end FrameCrypto

variable {aes : BlockCipher} {ctx : Ctx}

/-- A secured context that can send a frame protects it under its transmit
association. -/
theorem output_of_sendable (cached : ctx.frameCrypto.Cached aes)
    (mode : ctx.cfg.mode ≠ .disabled) (secured : ctx.state = .secured)
    (initialized : ctx.frameCrypto.gcmInitialized = true) {plain : Bytes}
    {txMaxLen : Nat}
    (sendable :
      FrameCrypto.Sendable ctx.frameCrypto.toSaTable plain.length txMaxLen) :
    (output aes ctx plain txMaxLen).1.control =
        { ctx.control with table := ctx.frameCrypto.toSaTable.sending } ∧
      (output aes ctx plain txMaxLen).2 =
        { ret := .ok
          frame :=
            FrameCrypto.sealFrame aes ctx.frameCrypto.txSak.key
              ctx.frameCrypto.txSak.an ctx.frameCrypto.txSak.nextPn
              ctx.frameCrypto.localSci plain
          passToStack := false } := by
  have valid : ctx.frameCrypto.txSak.valid = true := by
    have ready := sendable.ready
    simp only [FrameCrypto.readyTx, Bool.and_eq_true] at ready
    exact ready.1.1
  obtain ⟨ok, form⟩ := FrameCrypto.encrypt_eq cached sendable
  unfold output
  rw [if_neg mode, if_neg (not_not_intro secured), valid,
    if_neg (by decide)]
  dsimp only
  rw [ok, form]
  refine ⟨?_, rfl⟩
  rw [← FrameCrypto.encrypt_table cached initialized sendable]
  rfl

/-- A secured context that can receive a frame records its packet number. -/
theorem input_of_receivable (cached : ctx.frameCrypto.Cached aes)
    (mode : ctx.cfg.mode ≠ .disabled) (secured : ctx.state = .secured)
    (initialized : ctx.frameCrypto.gcmInitialized = true) {an : Fin 4}
    {pn : UInt32} {plain buffer : Bytes} (sci : Octets 8)
    (receivable :
      FrameCrypto.Receivable ctx.frameCrypto.toSaTable an pn plain.length
        buffer.length)
    (rnd : Octets 16) :
    let frame :=
      FrameCrypto.sealFrame aes (ctx.frameCrypto.rxSak an).key an pn sci plain
    (input aes ctx frame buffer rnd).1.control =
      { ctx.control with
        table := ctx.frameCrypto.toSaTable.receiving an pn } := by
  intro frame
  have checked :
      FrameCrypto.decryptCheck ctx.frameCrypto.toSaTable frame
        buffer.length = .ok :=
    FrameCrypto.decryptCheck_sealFrame receivable
  have isFrame := FrameCrypto.isMacsec_of_decryptCheck_ok checked
  obtain ⟨-, samePn, sameAn, -⟩ :=
    @FrameCrypto.sealFrame_fields aes (ctx.frameCrypto.rxSak an).key an pn sci
      plain
  have opens :
      FrameCrypto.Opens aes
        (ctx.frameCrypto.rxSak (FrameCrypto.frameAn frame)).key frame
        (plain.drop 12) := by
    rw [sameAn]
    exact (FrameCrypto.opens_sealFrame _ an pn sci receivable.short _).mpr rfl
  have table := FrameCrypto.decrypt_table cached initialized checked opens
  rw [sameAn, samePn] at table
  rw [← table, input, if_neg mode,
    System.not_isEapolMka_of_isMacsec isFrame, if_neg Bool.false_ne_true,
    if_pos isFrame, (inputSecure_cases secured frame buffer).1]
  rfl

namespace System

variable {ι : Type} [DecidableEq ι]

/-! ## The network -/

/-- A step returns a control frame that a party built. -/
def Builds (event : Event ι) (sender : ι) (frame : Bytes) : Prop :=
  ∃ txMaxLen rnd,
    event.input = (sender, .buildControlFrame txMaxLen rnd) ∧
      event.output.ret = .ok ∧ event.output.frame = frame

/-- Two participants have different addresses, channel identifiers and member
identifiers. -/
def Differ (first second : Mka.Participant) : Prop :=
  first.localMac ≠ second.localMac ∧ first.localSci ≠ second.localSci ∧
    first.localMi ≠ second.localMi

instance (first second : Mka.Participant) : Decidable (Differ first second) :=
  inferInstanceAs (Decidable (_ ∧ _ ∧ _))

/-- The network forges no MKPDUs: what a party receives was built by another
party before. -/
def Relayed (past : List (Event ι)) (event : Event ι) : Prop :=
  ∀ receiver frame plain rnd,
    event.input = (receiver, .input frame plain rnd) →
      Mka.isEapolMka frame = true →
        ∃ earlier ∈ past, ∃ sender, Builds earlier sender frame ∧
          Differ (event.before sender).mka.toParticipant
            (event.before receiver).mka.toParticipant

/-! ## Scenes -/

/-- A protected frame, as what it is sealed from. -/
structure ProtectedFrame where
  key : Bytes
  an : Fin 4
  pn : UInt32
  sci : Octets 8
  plain : Bytes
  deriving DecidableEq

/-- The octets of a protected frame. -/
def ProtectedFrame.octets (aes : BlockCipher) (frame : ProtectedFrame) :
    Bytes :=
  FrameCrypto.sealFrame aes frame.key frame.an frame.pn frame.sci frame.plain

/-- The states of the parties, the participants as they were when they built
the MKPDUs so far, and the protected frames so far. -/
structure Scene (ι : Type) where
  parties : ι → Control
  flight : List (ι × Mka.Participant)
  wire : List ProtectedFrame

/-- One entry of a script: a party acts on its own, receives an MKPDU that was
built before, protects a frame, or receives a protected frame. -/
inductive Cue (ι : Type)
  | act (party : ι) (cue : Macsec.Cue)
  | relay (party : ι) (index : Nat) (rnd : Octets 16)
  | send (party : ι) (plain : Bytes)
  | deliver (party : ι) (index : Nat) (rnd : Octets 16)

namespace Scene

/-- The state of one party is replaced. -/
def move (scene : Scene ι) (party : ι) (control : Control) : Scene ι :=
  { scene with parties := Function.update scene.parties party control }

/-- What a party does puts an MKPDU on the wire if it builds one. -/
def launch (scene : Scene ι) (party : ι) :
    Macsec.Cue → List (ι × Mka.Participant)
  | .build rnd =>
      scene.flight ++ [(party, ((scene.parties party).mka.ensureForTx rnd).2)]
  | _ => scene.flight

/-- The protected frame that a party sends next. -/
def sealing (scene : Scene ι) (party : ι) (plain : Bytes) :
    ProtectedFrame where
  key := (scene.parties party).table.txSak.key
  an := (scene.parties party).table.txSak.an
  pn := (scene.parties party).table.txSak.nextPn
  sci := (scene.parties party).table.localSci
  plain := plain

/-- The call that an entry of a script stands for. -/
def call (aes : BlockCipher) (crypto : MkaCrypto.Ctx) (scene : Scene ι) :
    Cue ι → ι × Call
  | .act party cue => (party, cue.call aes crypto)
  | .relay party index rnd =>
      (party,
        .input
          (match scene.flight[index]? with
          | some entry => Mka.frameOf aes crypto entry.2
          | none => []) [] rnd)
  | .send party plain => (party, .output plain FrameCrypto.maxSecureSize)
  | .deliver party index rnd =>
      (party,
        .input
          (match scene.wire[index]? with
          | some frame => frame.octets aes
          | none => []) (List.replicate FrameCrypto.maxPlainSize 0) rnd)

/-- The entries that can be played in a scene. -/
def Playable (scene : Scene ι) : Cue ι → Prop
  | .act party cue =>
      match cue with
      | .hear _ _ => False
      | cue => cue.Playable (scene.parties party)
  | .relay party index _ =>
      match scene.flight[index]? with
      | some entry =>
          (scene.parties party).mka.Other entry.2 ∧
            Differ (scene.parties entry.1).mka (scene.parties party).mka
      | none => False
  | .send party plain =>
      (scene.parties party).state = .secured ∧
        (scene.parties party).table.gcmInitialized = true ∧
          FrameCrypto.Sendable (scene.parties party).table plain.length
            FrameCrypto.maxSecureSize
  | .deliver party index _ =>
      match scene.wire[index]? with
      | some frame =>
          (scene.parties party).state = .secured ∧
            (scene.parties party).table.gcmInitialized = true ∧
              ((scene.parties party).table.rxSak frame.an).key = frame.key ∧
                FrameCrypto.Receivable (scene.parties party).table frame.an
                  frame.pn frame.plain.length FrameCrypto.maxPlainSize
      | none => False

instance (scene : Scene ι) (cue : Cue ι) : Decidable (scene.Playable cue) := by
  unfold Playable
  cases cue with
  | act party cue =>
      cases cue with
      | hear sender rnd => exact inferInstanceAs (Decidable False)
      | build rnd =>
          exact inferInstanceAs
            (Decidable ((Macsec.Cue.build rnd).Playable _))
      | tick nowMs =>
          exact inferInstanceAs
            (Decidable ((Macsec.Cue.tick nowMs).Playable _))
      | notifySuccess nowMs =>
          exact inferInstanceAs
            (Decidable ((Macsec.Cue.notifySuccess nowMs).Playable _))
      | notifyFailure =>
          exact inferInstanceAs
            (Decidable (Macsec.Cue.notifyFailure.Playable _))
  | relay party index rnd =>
      dsimp only
      cases scene.flight[index]? with
      | some entry => exact inferInstanceAs (Decidable (_ ∧ _))
      | none => exact inferInstanceAs (Decidable False)
  | send party plain => exact inferInstanceAs (Decidable (_ ∧ _))
  | deliver party index rnd =>
      dsimp only
      cases scene.wire[index]? with
      | some frame => exact inferInstanceAs (Decidable (_ ∧ _))
      | none => exact inferInstanceAs (Decidable False)

end Scene

/-- A script is played on a scene. -/
def stage (ckn : Bytes) : Transition.Machine (Scene ι) (Cue ι) Unit where
  step scene
    | .act party cue =>
        ({ scene.move party
            ((Macsec.stage ckn).step (scene.parties party) cue).1 with
          flight := scene.launch party cue }, ())
    | .relay party index rnd =>
        match scene.flight[index]? with
        | some entry =>
            (scene.move party
              ((Macsec.stage ckn).step (scene.parties party)
                (.hear entry.2 rnd)).1, ())
        | none => (scene, ())
    | .send party plain =>
        ({ scene.move party
            { scene.parties party with
              table := (scene.parties party).table.sending } with
          wire := scene.wire ++ [scene.sealing party plain] }, ())
    | .deliver party index _ =>
        match scene.wire[index]? with
        | some frame =>
            (scene.move party
              { scene.parties party with
                table :=
                  (scene.parties party).table.receiving frame.an frame.pn },
              ())
        | none => (scene, ())

namespace Scene

variable {scene : Scene ι} {party : ι} {index : Nat} {rnd : Octets 16}

omit [DecidableEq ι] in
/-- An MKPDU that can be relayed was built before. -/
theorem playable_relay (playable : scene.Playable (.relay party index rnd)) :
    ∃ entry, scene.flight[index]? = some entry ∧
      (scene.parties party).mka.Other entry.2 ∧
        Differ (scene.parties entry.1).mka (scene.parties party).mka := by
  dsimp only [Playable] at playable
  split at playable
  next entry found => exact ⟨entry, found, playable⟩
  next => exact playable.elim

omit [DecidableEq ι] in
/-- A protected frame that can be delivered was sent before. -/
theorem playable_deliver
    (playable : scene.Playable (.deliver party index rnd)) :
    ∃ frame, scene.wire[index]? = some frame ∧
      (scene.parties party).state = .secured ∧
        (scene.parties party).table.gcmInitialized = true ∧
          ((scene.parties party).table.rxSak frame.an).key = frame.key ∧
            FrameCrypto.Receivable (scene.parties party).table frame.an
              frame.pn frame.plain.length FrameCrypto.maxPlainSize := by
  dsimp only [Playable] at playable
  split at playable
  next frame found => exact ⟨frame, found, playable⟩
  next => exact playable.elim

omit [DecidableEq ι] in
theorem call_relay {crypto : MkaCrypto.Ctx} {entry : ι × Mka.Participant}
    (found : scene.flight[index]? = some entry) :
    scene.call aes crypto (.relay party index rnd) =
      (party, .input (Mka.frameOf aes crypto entry.2) [] rnd) := by
  rw [call, found]

omit [DecidableEq ι] in
theorem call_deliver {crypto : MkaCrypto.Ctx} {frame : ProtectedFrame}
    (found : scene.wire[index]? = some frame) :
    scene.call aes crypto (.deliver party index rnd) =
      (party,
        .input (frame.octets aes)
          (List.replicate FrameCrypto.maxPlainSize 0) rnd) := by
  rw [call, found]

theorem step_relay (ckn : Bytes) {entry : ι × Mka.Participant}
    (found : scene.flight[index]? = some entry) :
    ((stage ckn).step scene (.relay party index rnd)).1 =
      scene.move party
        ((Macsec.stage ckn).step (scene.parties party)
          (.hear entry.2 rnd)).1 := by
  simp only [stage, found]

theorem step_deliver (ckn : Bytes) {frame : ProtectedFrame}
    (found : scene.wire[index]? = some frame) :
    ((stage ckn).step scene (.deliver party index rnd)).1 =
      scene.move party
        { scene.parties party with
          table := (scene.parties party).table.receiving frame.an frame.pn } := by
  simp only [stage, found]

end Scene

/-! ## Playing a script -/

/-- The network forges neither MKPDUs nor protected frames. -/
def Faithful (aes : BlockCipher) (past : List (Event ι)) (event : Event ι) :
    Prop :=
  Relayed past event ∧ Unforged aes past event

/-- The protected frame that an entry of a script sends, with its sender. -/
def dispatched (played : Transition.Event (Scene ι) (Cue ι) Unit) :
    Option (ι × ProtectedFrame) :=
  match played.input with
  | .send party plain => some (party, played.before.sealing party plain)
  | _ => none

/-- The protected frame that an entry of a script delivers, with the party that
receives it and the octets that are drawn for it. -/
def delivered (played : Transition.Event (Scene ι) (Cue ι) Unit) :
    Option (ι × ProtectedFrame × Octets 16) :=
  match played.input with
  | .deliver party index rnd =>
      played.before.wire[index]?.map fun frame => (party, frame, rnd)
  | _ => none

/-- A step makes the call that an entry of a script stands for and leads where
the entry leads.  It sends the protected frame that the entry sends, and passes
on the one that the entry delivers. -/
structure Mirrors (aes : BlockCipher) (crypto : MkaCrypto.Ctx)
    (event : Event ι) (played : Transition.Event (Scene ι) (Cue ι) Unit) :
    Prop where
  before : ∀ party, (event.before party).control = played.before.parties party
  after : ∀ party, (event.after party).control = played.after.parties party
  input : event.input = played.before.call aes crypto played.input
  sends : ∀ party frame, dispatched played = some (party, frame) →
    Emits event party frame.key frame.plain (frame.octets aes)
  passes : ∀ party frame rnd, delivered played = some (party, frame, rnd) →
    (∃ plain, event.input = (party, .input (frame.octets aes) plain rnd)) ∧
      event.output.ret = .ok ∧ event.output.passToStack = true ∧
      ((event.before party).frameCrypto.rxSak frame.an).key = frame.key

/-- Parties with given keys whose states and frames are those of a scene, and
whose history is that of the script. -/
structure Stages (aes : BlockCipher) (crypto : MkaCrypto.Ctx)
    (past : List (Event ι))
    (played : List (Transition.Event (Scene ι) (Cue ι) Unit))
    (parties : ι → Ctx) (scene : Scene ι) : Prop where
  plays : ∀ party, Macsec.Plays crypto (parties party) (scene.parties party)
  cached : ∀ party, (parties party).frameCrypto.Cached aes
  matched : List.Forall₂ (Mirrors aes crypto) past played
  built : ∀ entry ∈ scene.flight, ∃ event ∈ past,
    Builds event entry.1 (Mka.frameOf aes crypto entry.2)
  emitted : ∀ frame ∈ scene.wire, ∃ event ∈ past, ∃ sender,
    Emits event sender frame.key frame.plain (frame.octets aes)

/-- The party an entry of a script is about. -/
def Cue.party : Cue ι → ι
  | .act party _ => party
  | .relay party _ _ => party
  | .send party _ => party
  | .deliver party _ _ => party

omit [DecidableEq ι] in
theorem call_party (crypto : MkaCrypto.Ctx) (scene : Scene ι) (cue : Cue ι) :
    (scene.call aes crypto cue).1 = cue.party := by
  cases cue <;> rfl

namespace Stages

variable {crypto : MkaCrypto.Ctx} {past : List (Event ι)}
  {played : List (Transition.Event (Scene ι) (Cue ι) Unit)}
  {parties : ι → Ctx} {scene : Scene ι}

omit [DecidableEq ι] in
theorem enabled (stages : Stages aes crypto past played parties scene)
    (party : ι) : (parties party).cfg.mode ≠ .disabled := by
  have plays := stages.plays party
  exact notDisabled_of_resting (plays.same ▸ plays.resting)

omit [DecidableEq ι] in
theorem state_eq (stages : Stages aes crypto past played parties scene)
    (party : ι) : (parties party).state = (scene.parties party).state :=
  congrArg Control.state (stages.plays party).same

omit [DecidableEq ι] in
theorem table_eq (stages : Stages aes crypto past played parties scene)
    (party : ι) :
    (parties party).frameCrypto.toSaTable = (scene.parties party).table :=
  congrArg Control.table (stages.plays party).same

omit [DecidableEq ι] in
/-- A call that changes the associations alone keeps a party in its part. -/
theorem plays_withTable (stages : Stages aes crypto past played parties scene)
    {party : ι} {call : Call} {table : FrameCrypto.SaTable}
    (moved : (perform aes (parties party) call).1.control =
      { (parties party).control with table := table }) :
    Macsec.Plays crypto (perform aes (parties party) call).1
      { scene.parties party with table := table } := by
  have plays := stages.plays party
  have keys := @perform_keys aes (parties party) (stages.enabled party) call
  rw [plays.same] at moved
  have resting := plays.resting
  exact ⟨plays.keyed, keys.1.trans plays.sameKeys,
    keys.2.trans plays.verifying,
    ⟨resting.mode, resting.mka, resting.waiting⟩, moved⟩

/-- The party of an entry plays on, and the scene moves with it. -/
theorem advance (stages : Stages aes crypto past played parties scene)
    {cue : Cue ι} (playable : scene.Playable cue) :
    ∃ control,
      ((stage crypto.psk.ckn).step scene cue).1.parties =
          Function.update scene.parties cue.party control ∧
        Macsec.Plays crypto
          (perform aes (parties cue.party)
            (scene.call aes crypto cue).2).1 control := by
  cases cue with
  | act party cue =>
      have allowed : cue.Playable (scene.parties party) := by
        cases cue with
        | hear sender rnd => exact playable.elim
        | build | tick | notifySuccess | notifyFailure => exact playable
      exact ⟨_, rfl, (stages.plays party).perform allowed⟩
  | relay party index rnd =>
      obtain ⟨entry, found, other, -⟩ := Scene.playable_relay playable
      have heard :
          (Macsec.Cue.hear entry.2 rnd).Playable (scene.parties party) := other
      rw [Scene.step_relay _ found, Scene.call_relay found]
      exact ⟨_, rfl, (stages.plays party).perform heard⟩
  | send party plain =>
      obtain ⟨secured, initialized, sendable⟩ := playable
      rw [← stages.table_eq] at initialized sendable
      rw [← stages.state_eq] at secured
      refine ⟨_, rfl, ?_⟩
      apply stages.plays_withTable
      rw [← stages.table_eq]
      exact (output_of_sendable (stages.cached party) (stages.enabled party)
        secured initialized sendable).1
  | deliver party index rnd =>
      obtain ⟨frame, found, secured, initialized, key, receivable⟩ :=
        Scene.playable_deliver playable
      rw [← stages.table_eq] at initialized key receivable
      rw [← stages.state_eq] at secured
      rw [← show (List.replicate FrameCrypto.maxPlainSize
        (0 : UInt8)).length = FrameCrypto.maxPlainSize from
          List.length_replicate] at receivable
      have moved :=
        input_of_receivable (stages.cached party) (stages.enabled party)
          secured initialized frame.sci receivable rnd
      rw [Scene.step_deliver _ found, Scene.call_deliver found]
      refine ⟨_, rfl, stages.plays_withTable ?_⟩
      rw [← stages.table_eq]
      rw [key] at moved
      exact moved

/-- An MKPDU on the wire was there before or is built in the step. -/
theorem launches (stages : Stages aes crypto past played parties scene)
    {cue : Cue ι} (playable : scene.Playable cue)
    {entry : ι × Mka.Participant}
    (member :
      entry ∈ ((stage crypto.psk.ckn).step scene cue).1.flight) :
    entry ∈ scene.flight ∨
      Builds ((machine aes).event parties (scene.call aes crypto cue))
        entry.1 (Mka.frameOf aes crypto entry.2) := by
  cases cue with
  | act party cue =>
      cases cue with
      | hear sender rnd => exact playable.elim
      | build rnd =>
          change entry ∈ scene.flight ++ [_] at member
          rcases List.mem_append.mp member with earlier | last
          · exact Or.inl earlier
          · rw [List.mem_singleton] at last
            subst last
            have allowed :
                (Macsec.Cue.build rnd).Playable (scene.parties party) :=
              playable
            have built :=
              (@Plays.build aes _ _ _ (stages.plays party) _ allowed).2
            refine Or.inr ⟨_, rnd, rfl, ?_, ?_⟩
            · exact congrArg Reply.ret built
            · exact congrArg Reply.frame built
      | tick | notifySuccess | notifyFailure => exact Or.inl member
  | relay party index rnd =>
      obtain ⟨other, found, -, -⟩ := Scene.playable_relay playable
      rw [Scene.step_relay _ found] at member
      exact Or.inl member
  | send party plain => exact Or.inl member
  | deliver party index rnd =>
      obtain ⟨frame, found, -⟩ := Scene.playable_deliver playable
      rw [Scene.step_deliver _ found] at member
      exact Or.inl member

/-- A frame that can be sent is protected. -/
theorem sends (stages : Stages aes crypto past played parties scene)
    {party : ι} {plain : Bytes}
    (playable : scene.Playable (.send party plain)) :
    Emits
      ((machine aes).event parties
        (scene.call aes crypto (.send party plain)))
      party (scene.sealing party plain).key plain
      ((scene.sealing party plain).octets aes) := by
  obtain ⟨secured, initialized, sendable⟩ := playable
  have same := stages.table_eq party
  rw [← same] at initialized sendable
  rw [← stages.state_eq] at secured
  have sent :=
    (output_of_sendable (stages.cached party) (stages.enabled party) secured
      initialized sendable).2
  unfold Scene.sealing ProtectedFrame.octets
  rw [← same]
  exact ⟨_, rfl, congrArg Reply.ret sent, congrArg Reply.frame sent, rfl⟩

/-- A protected frame on the wire was there before or is sent in the step. -/
theorem seals (stages : Stages aes crypto past played parties scene)
    {cue : Cue ι} (playable : scene.Playable cue) {frame : ProtectedFrame}
    (member : frame ∈ ((stage crypto.psk.ckn).step scene cue).1.wire) :
    frame ∈ scene.wire ∨ ∃ sender,
      Emits ((machine aes).event parties (scene.call aes crypto cue)) sender
        frame.key frame.plain (frame.octets aes) := by
  cases cue with
  | act party cue => exact Or.inl member
  | relay party index rnd =>
      obtain ⟨entry, found, -, -⟩ := Scene.playable_relay playable
      rw [Scene.step_relay _ found] at member
      exact Or.inl member
  | send party plain =>
      change frame ∈ scene.wire ++ [scene.sealing party plain] at member
      rcases List.mem_append.mp member with earlier | last
      · exact Or.inl earlier
      · rw [List.mem_singleton] at last
        subst last
        exact Or.inr ⟨party, stages.sends playable⟩
  | deliver party index rnd =>
      obtain ⟨frame, found, -⟩ := Scene.playable_deliver playable
      rw [Scene.step_deliver _ found] at member
      exact Or.inl member

/-- A frame that an entry sends is protected. -/
theorem dispatches (stages : Stages aes crypto past played parties scene)
    {cue : Cue ι} (playable : scene.Playable cue) {party : ι}
    {frame : ProtectedFrame}
    (sends : dispatched ((stage crypto.psk.ckn).event scene cue) =
      some (party, frame)) :
    Emits ((machine aes).event parties (scene.call aes crypto cue)) party
      frame.key frame.plain (frame.octets aes) := by
  cases cue with
  | act | relay | deliver => cases sends
  | send sender plain =>
      obtain ⟨rfl, rfl⟩ := Prod.mk.inj (Option.some.inj sends)
      exact stages.sends playable

/-- A frame that an entry delivers is passed on. -/
theorem passes (stages : Stages aes crypto past played parties scene)
    {cue : Cue ι} (playable : scene.Playable cue) {party : ι}
    {frame : ProtectedFrame} {rnd : Octets 16}
    (delivers : delivered ((stage crypto.psk.ckn).event scene cue) =
      some (party, frame, rnd)) :
    let event := (machine aes).event parties (scene.call aes crypto cue)
    (∃ plain, event.input = (party, .input (frame.octets aes) plain rnd)) ∧
      event.output.ret = .ok ∧ event.output.passToStack = true ∧
      ((event.before party).frameCrypto.rxSak frame.an).key = frame.key := by
  intro event
  cases cue with
  | act | relay | send => cases delivers
  | deliver receiver index drawn =>
      obtain ⟨sent, found, secured, -, key, receivable⟩ :=
        Scene.playable_deliver playable
      change scene.wire[index]?.map _ = _ at delivers
      rw [found] at delivers
      obtain ⟨rfl, rfl, rfl⟩ :
          receiver = party ∧ sent = frame ∧ drawn = rnd := by
        simpa using delivers
      rw [← stages.table_eq] at key receivable
      rw [← stages.state_eq] at secured
      rw [← show (List.replicate FrameCrypto.maxPlainSize
        (0 : UInt8)).length = FrameCrypto.maxPlainSize from
          List.length_replicate] at receivable
      have passed :=
        delivers_sealFrame (stages.cached receiver) (stages.enabled receiver)
          secured sent.sci receivable drawn
      rw [key] at passed
      have call :
          scene.call aes crypto (.deliver receiver index drawn) =
            (receiver,
              .input (sent.octets aes)
                (List.replicate FrameCrypto.maxPlainSize 0) drawn) :=
        Scene.call_deliver found
      have step : event = (machine aes).event parties _ :=
        congrArg ((machine aes).event parties) call
      rw [step]
      exact ⟨⟨_, rfl⟩, passed.1, passed.2, key⟩

/-- No entry of a script makes the network forge anything. -/
theorem faithful (stages : Stages aes crypto past played parties scene)
    {cue : Cue ι} (playable : scene.Playable cue) :
    Faithful aes past
      ((machine aes).event parties (scene.call aes crypto cue)) := by
  cases cue with
  | act party cue =>
      cases cue with
      | hear sender rnd => exact playable.elim
      | build | tick | notifySuccess | notifyFailure =>
          constructor
          · intro receiver frame plain rnd same
            cases same
          · intro receiver frame plain rnd payload same
            cases same
  | relay party index rnd =>
      obtain ⟨entry, found, other, differ⟩ := Scene.playable_relay playable
      rw [Scene.call_relay found]
      obtain ⟨event, member, builds⟩ :=
        stages.built entry (List.mem_of_getElem? found)
      obtain ⟨⟨icv, accepted⟩, -⟩ :=
        @Mka.Plays.hear aes _ _ _ (stages.plays party).participant _ other
          rnd 0
      have isMka := Mka.isEapolMka_of_accepted accepted
      constructor
      · intro receiver frame plain drawn same _
        cases same
        refine ⟨event, member, entry.1, builds, ?_⟩
        have senders := congrArg Control.mka (stages.plays entry.1).same
        have receivers := congrArg Control.mka (stages.plays party).same
        change Differ (parties entry.1).mka.toParticipant
          (parties party).mka.toParticipant
        rw [show (parties entry.1).mka.toParticipant = _ from senders,
          show (parties party).mka.toParticipant = _ from receivers]
        exact differ
      · intro receiver frame plain drawn payload same isFrame
        cases same
        rw [not_isEapolMka_of_isMacsec isFrame] at isMka
        exact Bool.noConfusion isMka
  | send party plain =>
      constructor
      · intro receiver frame plain rnd same
        cases same
      · intro receiver frame plain rnd payload same
        cases same
  | deliver party index rnd =>
      obtain ⟨frame, found, -, -, key, receivable⟩ :=
        Scene.playable_deliver playable
      rw [Scene.call_deliver found]
      obtain ⟨event, member, sender, emits⟩ :=
        stages.emitted frame (List.mem_of_getElem? found)
      obtain ⟨-, -, sameAn, -⟩ :=
        @FrameCrypto.sealFrame_fields aes frame.key frame.an frame.pn
          frame.sci frame.plain
      have isFrame : FrameCrypto.isMacsec (frame.octets aes) = true :=
        FrameCrypto.isMacsec_of_decryptCheck_ok
          (FrameCrypto.decryptCheck_sealFrame receivable)
      constructor
      · intro receiver octets plain drawn same isMka
        cases same
        rw [not_isEapolMka_of_isMacsec isFrame] at isMka
        exact Bool.noConfusion isMka
      · intro receiver octets plain drawn payload same _ sak _ _
        cases same
        have held : sak.key = frame.key := by
          change ((parties party).frameCrypto.rxSak
            (FrameCrypto.frameAn (frame.octets aes))).key = _
          rw [show FrameCrypto.frameAn (frame.octets aes) = frame.an from
            sameAn, ← key, ← stages.table_eq]
        rw [held]
        exact ⟨event, member, sender, frame.plain, emits⟩

/-- An entry that can be played keeps the parties in the scene. -/
theorem step (stages : Stages aes crypto past played parties scene)
    {cue : Cue ι} (playable : scene.Playable cue) :
    Stages aes crypto
      (past ++ [(machine aes).event parties (scene.call aes crypto cue)])
      (played ++ [(stage crypto.psk.ckn).event scene cue])
      ((machine aes).step parties (scene.call aes crypto cue)).1
      ((stage crypto.psk.ckn).step scene cue).1 := by
  have about := @call_party aes ι crypto scene cue
  obtain ⟨control, moved, plays⟩ := stages.advance playable
  have all : ∀ party,
      Macsec.Plays crypto
        (((machine aes).step parties (scene.call aes crypto cue)).1 party)
        (((stage crypto.psk.ckn).step scene cue).1.parties party) := by
    rw [moved]
    change ∀ party, Macsec.Plays crypto
      (Function.update parties (scene.call aes crypto cue).1 _ party) _
    rw [about]
    intro party
    by_cases same : party = cue.party
    · subst same
      rw [Function.update_self, Function.update_self]
      exact plays
    · rw [Function.update_of_ne same, Function.update_of_ne same]
      exact stages.plays party
  refine ⟨all, ?_, ?_, ?_, ?_⟩
  · intro party
    refine forall_step (fun _ ctx => ctx.frameCrypto.Cached aes) stages.cached
      ?_ party
    have steady : Steady aes (parties (scene.call aes crypto cue).1)
        (parties (scene.call aes crypto cue).1) :=
      ⟨rfl, rfl, stages.cached _⟩
    exact (steady.perform (stages.enabled _) _).cached
  · exact List.rel_append stages.matched
      (.cons
        ⟨fun party => (stages.plays party).same, fun party => (all party).same,
          rfl, fun _ _ => stages.dispatches playable,
          fun _ _ _ => stages.passes playable⟩
        .nil)
  · intro entry member
    rcases stages.launches playable member with earlier | builds
    · obtain ⟨event, inPast, builds⟩ := stages.built entry earlier
      exact ⟨event, List.mem_append_left _ inPast, builds⟩
    · exact ⟨_, List.mem_append_right _ List.mem_cons_self, builds⟩
  · intro frame member
    rcases stages.seals playable member with earlier | ⟨sender, emits⟩
    · obtain ⟨event, inPast, sender, emits⟩ := stages.emitted frame earlier
      exact ⟨event, List.mem_append_left _ inPast, sender, emits⟩
    · exact ⟨_, List.mem_append_right _ List.mem_cons_self, sender, emits⟩

end Stages

end System

end Macsec
