import Macsec.Api.Rejection
import Macsec.Mka.Scripts

/-!
# Scripts of a context

A script of the public interface: the context hears what another participant
builds in a given state, builds a control frame itself, or one of its other
functions without key material is called.
-/

namespace Macsec

/-- One entry of a script. -/
inductive Cue
  | hear (sender : Mka.Participant) (rnd : Octets 16)
  | build (rnd : Octets 16)
  | tick (nowMs : UInt32)
  | notifySuccess (nowMs : UInt32)
  | notifyFailure

/-- The context after a control frame was built. -/
def Control.built (ctx : Control) (rnd : Octets 16) : Control :=
  let mka := (ctx.mka.ensureForTx rnd).2
  { ctx with
    mka := mka
    pendingMkaTxMeta := mka.txMeta
    pendingMkaTxValid := true }

/-- A script is played on the part of a context that the key agreement acts
on. -/
def stage (ckn : Bytes) : Transition.Machine Control Cue Err where
  step ctx
    | .hear sender rnd =>
        (ctx.receiveMka (.accepted (ctx.mka.heard ckn sender)) rnd).swap
    | .build rnd => (ctx.built rnd, .ok)
    | .tick nowMs => (ctx.tick nowMs).swap
    | .notifySuccess nowMs => (ctx.notifyControlTxSuccess nowMs).swap
    | .notifyFailure => ctx.notifyControlTxFailure.swap

/-- The call that an entry of a script stands for. -/
def Cue.call (aes : BlockCipher) (crypto : MkaCrypto.Ctx) : Cue → Call
  | .hear sender rnd => .input (Mka.frameOf aes crypto sender) [] rnd
  | .build rnd => .buildControlFrame Mka.maxFrameLen rnd
  | .tick nowMs => .tick nowMs
  | .notifySuccess nowMs => .notifyControlTxSuccess nowMs
  | .notifyFailure => .notifyControlTxFailure

/-- The entries that can be played in a state. -/
def Cue.Playable (ctx : Control) : Cue → Prop
  | .hear sender _ => ctx.mka.Other sender
  | .build _ =>
      ctx.pendingMkaTxValid = false ∧ ctx.mka.txReasons ≠ 0 ∧
        ¬ctx.mka.ServesForeignSak
  | .tick _ => True
  | .notifySuccess _ => True
  | .notifyFailure => True

instance (ctx : Control) (cue : Cue) : Decidable (cue.Playable ctx) :=
  match cue with
  | .hear sender _ => inferInstanceAs (Decidable (ctx.mka.Other sender))
  | .build _ =>
      inferInstanceAs
        (Decidable (ctx.pendingMkaTxValid = false ∧ ctx.mka.txReasons ≠ 0 ∧
          ¬ctx.mka.ServesForeignSak))
  | .tick _ => inferInstanceAs (Decidable True)
  | .notifySuccess _ => inferInstanceAs (Decidable True)
  | .notifyFailure => inferInstanceAs (Decidable True)

/-- A context with given keys in the state of the script. -/
structure Plays (crypto : MkaCrypto.Ctx) (ctx : Ctx) (state : Control) :
    Prop where
  keyed : crypto.Keyed
  sameKeys : ctx.mka.crypto = crypto
  verifying : ctx.mka.verifyIcv = true
  resting : state.Resting
  same : ctx.control = state

variable {aes : BlockCipher} {crypto : MkaCrypto.Ctx} {ctx : Ctx}
  {state : Control}

/-- The participant of a context plays along. -/
theorem Plays.participant (plays : Plays crypto ctx state) :
    Mka.Plays crypto ctx.mka state.mka where
  keyed := plays.keyed
  sameKeys := plays.sameKeys
  verifying := plays.verifying
  inv := plays.resting.mka.inv
  same := congrArg Control.mka plays.same

/-- An accepted frame is an EAPOL-MKA frame. -/
theorem Mka.isEapolMka_of_accepted {ctx : Mka.Ctx} {frame : Bytes}
    {pdu : Mka.Mkpdu}
    (accepted : Mka.classify aes ctx frame = .accepted pdu) :
    Mka.isEapolMka frame = true := by
  cases isMka : Mka.isEapolMka frame with
  | true => rfl
  | false =>
      rw [Mka.classify, isMka] at accepted
      exact Mka.Received.noConfusion accepted

/-- An accepted frame is processed by the key agreement. -/
theorem input_of_accepted (resting : ctx.control.Resting) {frame : Bytes}
    {pdu : Mka.Mkpdu}
    (accepted : Mka.classify aes ctx.mka frame = .accepted pdu)
    (plain : Bytes) (rnd : Octets 16) :
    (input aes ctx frame plain rnd).1.control =
        (ctx.control.receiveMka (.accepted pdu) rnd).2 ∧
      (input aes ctx frame plain rnd).2.ret =
        (ctx.control.receiveMka (.accepted pdu) rnd).1 := by
  have received := @inputMka_receive aes ctx frame rnd
  rw [accepted, Prod.ext_iff] at received
  rw [input_of_isEapolMka (notDisabled_of_resting resting)
    (Mka.isEapolMka_of_accepted accepted)]
  exact ⟨received.2, received.1⟩

/-- What another participant builds is received. -/
theorem Plays.hear (plays : Plays crypto ctx state)
    {sender : Mka.Participant} (other : state.mka.Other sender)
    (plain : Bytes) (rnd : Octets 16) :
    (input aes ctx (Mka.frameOf aes crypto sender) plain rnd).1.control =
        (state.receiveMka
          (.accepted (state.mka.heard crypto.psk.ckn sender)) rnd).2 ∧
      (input aes ctx (Mka.frameOf aes crypto sender) plain rnd).2.ret =
        (state.receiveMka
          (.accepted (state.mka.heard crypto.psk.ckn sender)) rnd).1 := by
  obtain ⟨⟨icv, accepted⟩, -⟩ :=
    @Mka.Plays.hear aes _ _ _ plays.participant _ other rnd 0
  have received :=
    input_of_accepted (plays.same ▸ plays.resting) accepted plain rnd
  rw [plays.same] at received
  exact received

/-- A control frame that can be built is. -/
theorem Plays.build (plays : Plays crypto ctx state) {rnd : Octets 16}
    (playable : (Cue.build rnd).Playable state) :
    (buildControlFrame aes ctx Mka.maxFrameLen rnd).1.control =
        state.built rnd ∧
      (buildControlFrame aes ctx Mka.maxFrameLen rnd).2 =
        { ret := .ok
          frame := Mka.frameOf aes crypto (state.mka.ensureForTx rnd).2
          passToStack := false } := by
  obtain ⟨settled, due, own⟩ := playable
  obtain ⟨frame, built, result⟩ :=
    @Mka.Plays.build aes _ _ _ plays.participant rnd ⟨due, own⟩
  obtain ⟨keyed, rfl, verifying, resting, rfl⟩ := plays
  have mode : ctx.cfg.mode = .mkaPsk := resting.mode
  have idle : ctx.pendingMkaTxValid = false := settled
  unfold buildControlFrame
  rw [if_neg (not_not.mpr mode), idle, if_neg Bool.false_ne_true, result]
  refine ⟨rfl, ?_⟩
  change Reply.mk _ frame _ = _
  rw [Mka.frameOf, built]

/-- Every entry that can be played is matched by its call. -/
theorem Plays.perform (plays : Plays crypto ctx state) {cue : Cue}
    (playable : cue.Playable state) :
    Plays crypto (Macsec.perform aes ctx (cue.call aes crypto)).1
      ((stage crypto.psk.ckn).step state cue).1 := by
  have resting : ctx.control.Resting := plays.same ▸ plays.resting
  have keys :=
    @perform_keys aes ctx (notDisabled_of_resting resting)
      (cue.call aes crypto)
  have same :
      (Macsec.perform aes ctx (cue.call aes crypto)).1.control =
        ((stage crypto.psk.ckn).step state cue).1 := by
    cases cue with
    | hear sender rnd => exact (plays.hear playable [] rnd).1
    | build rnd => exact (plays.build playable).1
    | tick nowMs =>
        rw [← plays.same]
        rfl
    | notifySuccess nowMs =>
        rw [← plays.same]
        rfl
    | notifyFailure =>
        rw [← plays.same]
        rfl
  exact ⟨plays.keyed, keys.1.trans plays.sameKeys,
    keys.2.trans plays.verifying, same ▸ perform_resting resting _, same⟩

/-- A script that can be played to its end leads to the same state as its
calls. -/
theorem Plays.final (plays : Plays crypto ctx state) (cues : List Cue)
    (playable : ∀ event ∈ (stage crypto.psk.ckn).events state cues,
      event.input.Playable event.before) :
    Plays crypto
      ((machine aes).final ctx (cues.map (Cue.call aes crypto)))
      ((stage crypto.psk.ckn).final state cues) :=
  Transition.Machine.simulation
    (fun _ _ _ plays playable => plays.perform playable) plays cues playable

/-- A call answers as the script does. -/
theorem Plays.ret (plays : Plays crypto ctx state) {cue : Cue}
    (playable : cue.Playable state) :
    (Macsec.perform aes ctx (cue.call aes crypto)).2.ret =
      ((stage crypto.psk.ckn).step state cue).2 := by
  cases cue with
  | hear sender rnd => exact (plays.hear playable [] rnd).2
  | build rnd => exact congrArg Reply.ret (plays.build playable).2
  | tick nowMs =>
      rw [← plays.same]
      rfl
  | notifySuccess nowMs =>
      rw [← plays.same]
      rfl
  | notifyFailure =>
      rw [← plays.same]
      rfl

/-- So do all calls of a script that can be played to its end. -/
theorem Plays.rets (plays : Plays crypto ctx state) (cues : List Cue)
    (playable : ∀ event ∈ (stage crypto.psk.ckn).events state cues,
      event.input.Playable event.before) :
    ((machine aes).events ctx (cues.map (Cue.call aes crypto))).map
        (·.output.ret) =
      ((stage crypto.psk.ckn).events state cues).map (·.output) := by
  induction cues generalizing ctx state with
  | nil => rfl
  | cons cue cues inductionHypothesis =>
      obtain ⟨first, others⟩ := List.forall_mem_cons.mp playable
      change cue.Playable state at first
      have later :=
        inductionHypothesis (@Plays.perform aes _ _ _ plays cue first) others
      rw [List.map_cons, Transition.Machine.events, Transition.Machine.events,
        List.map_cons, List.map_cons]
      exact congrArg₂ List.cons (plays.ret first) later

/-! ## Stations -/

/-- The configuration of a station. -/
def stationConfig (station priority : UInt8) : Config where
  mode := .mkaPsk
  localMac := Mka.stationMac station
  portId := 1
  cak := Mka.stationCak
  ckn := Mka.stationCkn
  staticSak := []
  staticAn := 0
  replayProtect := true
  replayWindow := 64
  keyServerPriority := priority
  mkaTxIntervalMs := 2000

/-- The context of a station that was just initialised. -/
def stationCtx (aes : BlockCipher) (station priority incarnation : UInt8) :
    Ctx :=
  initialCtx aes (stationConfig station priority) (Mka.memberId incarnation)

/-- The part of it that the key agreement acts on. -/
def stationControl (station priority incarnation : UInt8) : Control :=
  { (startCtx (stationConfig station priority)).control with
    mka := Mka.newcomer station priority incarnation
    state := .waitMka }

theorem init_stationCtx (aes : BlockCipher)
    (station priority incarnation : UInt8) :
    init aes (stationConfig station priority) (Mka.memberId incarnation) =
      (.ok, stationCtx aes station priority incarnation) :=
  init_eq rfl rfl (show Mka.stationCkn.length ≠ 0 by decide)
    (show Mka.stationCkn.length ≤ MkaCrypto.cknMaxLen by decide) _

theorem reachable_stationCtx (aes : BlockCipher)
    (station priority incarnation : UInt8) :
    Reachable aes .mkaPsk (stationCtx aes station priority incarnation) :=
  ⟨stationConfig station priority, Mka.memberId incarnation, _, rfl,
    init_stationCtx aes station priority incarnation,
    Transition.Machine.Reachable.refl _ _⟩

theorem plays_stationCtx (aes : BlockCipher)
    (station priority incarnation : UInt8) :
    Plays (MkaCrypto.keysOf aes Mka.stationCak Mka.stationCkn)
      (stationCtx aes station priority incarnation)
      (stationControl station priority incarnation) where
  keyed := (Mka.plays_stationCtx aes station priority incarnation).keyed
  sameKeys := rfl
  verifying := rfl
  resting := @initialCtx_resting aes (stationConfig station priority) rfl _
  same := rfl

/-- The call with which a station hears from its Key Server for the first time.
-/
def hearSupplier (aes : BlockCipher) : Call :=
  Cue.call aes (MkaCrypto.keysOf aes Mka.stationCak Mka.stationCkn)
    (.hear Mka.supplier (Mka.sakOctets 1))

/-- It leads where the script leads. -/
theorem perform_hearSupplier (aes : BlockCipher) :
    (perform aes (stationCtx aes 1 10 11) (hearSupplier aes)).1.control =
        ((stage Mka.stationCkn).step (stationControl 1 10 11)
          (.hear Mka.supplier (Mka.sakOctets 1))).1 ∧
      (perform aes (stationCtx aes 1 10 11) (hearSupplier aes)).2.ret =
        .ok := by
  have plays := plays_stationCtx aes 1 10 11
  have other : (Cue.hear Mka.supplier (Mka.sakOctets 1)).Playable
      (stationControl 1 10 11) := by
    decide
  have after := @Plays.perform aes _ _ _ plays _ other
  have ret := @Plays.ret aes _ _ _ plays _ other
  rw [Mka.ckn_stations] at after ret
  refine ⟨after.same, ret.trans ?_⟩
  decide

/-- It is a call with an EAPOL-MKA frame. -/
theorem isEapolMka_hearSupplier (aes : BlockCipher) :
    Mka.isEapolMka
      (Mka.frameOf aes (MkaCrypto.keysOf aes Mka.stationCak Mka.stationCkn)
        Mka.supplier) = true := by
  have plays := (plays_stationCtx aes 1 10 11).participant
  obtain ⟨⟨icv, accepted⟩, -⟩ :=
    @Mka.Plays.hear aes _ _ _ plays Mka.supplier (by decide) (Mka.sakOctets 1) 0
  exact Mka.isEapolMka_of_accepted accepted

/-- Where a script leads a station, some calls lead its context. -/
theorem exists_final (aes : BlockCipher) {station priority incarnation : UInt8}
    (cues : List Cue)
    (playable : ∀ event ∈ (stage Mka.stationCkn).events
        (stationControl station priority incarnation) cues,
      event.input.Playable event.before) :
    ∃ ctx, Reachable aes .mkaPsk ctx ∧
      Plays (MkaCrypto.keysOf aes Mka.stationCak Mka.stationCkn) ctx
        ((stage Mka.stationCkn).final
          (stationControl station priority incarnation) cues) := by
  have played :=
    @Plays.final aes _ _ _ (plays_stationCtx aes station priority incarnation)
      cues (by rw [Mka.ckn_stations]; exact playable)
  rw [Mka.ckn_stations] at played
  exact ⟨_, (reachable_stationCtx aes station priority incarnation).final _,
    played⟩

end Macsec
