import Macsec.Api.Numbers
import Macsec.Api.StaticMode

/-!
# Closed static contexts

An EAPOL-MKA frame closes a static context.  Its participant then goes on with
the frames that follow, but without a key encrypting key it never gets a SAK, so
nothing secures the context again and it uses no further packet number.
-/

namespace Macsec

open Mka (Direction)

variable {aes : BlockCipher}

namespace Mka

/-! ## Participants without a SAK -/

namespace Participant

variable {ctx : Participant}

/-- The events that follow the installation of a SAK. -/
def sakEvents : UInt32 :=
  EventFlag.sakActive ||| EventFlag.sakRetireRequired

/-- A participant without a SAK that has raised no event about one. -/
structure Keyless (ctx : Participant) : Prop where
  latest : ctx.latestSak.lifecycleState = .none
  events : hasFlag ctx.pendingEvents sakEvents = false

theorem Keyless.withPeer (keyless : ctx.Keyless) (peer : Peer) :
    { ctx with peer := peer }.Keyless :=
  ⟨keyless.latest, keyless.events⟩

theorem Keyless.setState (keyless : ctx.Keyless) (newState : State) :
    (ctx.setState newState).Keyless := by
  unfold Participant.setState
  split
  next => exact keyless
  next =>
      split
      next =>
          refine ⟨keyless.latest, ?_⟩
          change hasFlag (ctx.pendingEvents ||| EventFlag.error) sakEvents = _
          rw [hasFlag_or, keyless.events]
          decide
      next => exact ⟨keyless.latest, keyless.events⟩

theorem Keyless.updateLiveness (keyless : ctx.Keyless)
    (localSeen identityChanged previousPeerLive : Bool) :
    (ctx.updateLiveness localSeen identityChanged
      previousPeerLive).Keyless := by
  unfold Participant.updateLiveness
  split
  next => exact (keyless.withPeer _).setState _
  next =>
      split
      next => exact (keyless.withPeer _).setState _
      next => exact keyless.withPeer _

theorem Keyless.announceIf (keyless : ctx.Keyless) (condition : Bool)
    {events : UInt32} (quiet : hasFlag events sakEvents = false)
    (reasons : UInt32) :
    (ctx.announceIf condition events reasons).Keyless := by
  cases condition with
  | false => exact keyless
  | true =>
      refine ⟨keyless.latest, ?_⟩
      change hasFlag (ctx.pendingEvents ||| events) sakEvents = false
      rw [hasFlag_or, keyless.events, quiet]
      rfl

/-- Without a SAK, an MKPDU that distributes none leaves it so. -/
theorem Keyless.processMkpdu (keyless : ctx.Keyless) {pdu : Mkpdu} {ret : Err}
    (noSak : pdu.distributedSak = .error ret) (rnd : Octets 16)
    (nowMs : UInt32) : (ctx.processMkpdu pdu rnd nowMs).2.Keyless := by
  unfold Participant.processMkpdu
  rw [noSak]
  dsimp only [Participant.parseDistributedSak]
  split
  next => exact keyless
  next =>
      have known : (ctx.updatePeer pdu.basic nowMs).Keyless :=
        keyless.withPeer _
      have heard := known.updateLiveness pdu.localSeen
        (ctx.peerIdentityChanged pdu.basic) ctx.peer.live
      generalize (ctx.updatePeer pdu.basic nowMs).updateLiveness pdu.localSeen
        (ctx.peerIdentityChanged pdu.basic) ctx.peer.live = next at heard ⊢
      have elected :
          { next with
            localKeyServer := next.localWinsKeyServer }.Keyless :=
        ⟨heard.latest, heard.events⟩
      rw [rekeyForPeer_of_none elected.latest]
      dsimp only
      rw [if_neg (by decide)]
      have reported := parseSakUse_of_none elected.latest pdu.sakUse
      split
      next =>
          rw [reported]
          exact elected
      next =>
          rw [reported]
          exact (((elected.announceIf _ (by decide) _).announceIf _ (by decide)
            _).announceIf _ (by decide) _).announceIf _ (by decide) _

end Participant

/-- Without a key encrypting key a participant gets no SAK. -/
theorem keyless_input {ctx : Ctx} (keyless : ctx.Keyless)
    (notReady : MkaCrypto.kekReady ctx.crypto = false) (frame : Bytes)
    (rnd : Octets 16) (nowMs : UInt32) :
    (input aes ctx frame rnd nowMs).2.Keyless := by
  obtain ⟨-, state⟩ := Prod.mk.inj (input_receive aes ctx frame rnd nowMs)
  rw [state]
  cases classified : classify aes ctx frame with
  | accepted pdu =>
      obtain ⟨basic, -, -, -, -, rfl⟩ := checks_of_accepted classified
      obtain ⟨ret, noSak⟩ :=
        @scanDistributedSak_of_not_kekReady aes _ notReady frame
      exact keyless.processMkpdu noSak rnd nowMs
  | _ => exact keyless

end Mka

/-! ## Servicing -/

namespace Control

variable {ctx : Control}

/-- Servicing secures nothing and leaves the participant without a SAK. -/
structure Idles (ctx after : Control) : Prop where
  cfg : after.cfg = ctx.cfg
  keyless : after.mka.Keyless
  insecure : after.state = .secured → ctx.state = .secured

theorem Idles.trans {first second third : Control}
    (before : first.Idles second) (after : second.Idles third) :
    first.Idles third :=
  ⟨after.cfg.trans before.cfg, after.keyless,
    fun secured => before.insecure (after.insecure secured)⟩

theorem idles_processMkaEvents (keyless : ctx.mka.Keyless) :
    ctx.Idles ctx.processMkaEvents.2 := by
  have quiet := keyless.events
  rw [Mka.Participant.sakEvents, hasFlag_or_mask, Bool.or_eq_false_iff] at quiet
  have drained :
      Mka.Participant.Keyless { ctx.mka with pendingEvents := 0 } :=
    ⟨keyless.latest, hasFlag_zero _⟩
  unfold processMkaEvents
  rw [Mka.Participant.takeEvents]
  dsimp only
  split
  next => exact ⟨rfl, drained, id⟩
  next =>
      split
      next => exact ⟨rfl, drained, fun secured => State.noConfusion secured⟩
      next =>
          rw [quiet.2, if_neg Bool.false_ne_true, followEvents, quiet.1,
            if_neg Bool.false_ne_true]
          split
          next => exact ⟨rfl, drained, fun secured => State.noConfusion secured⟩
          next => exact ⟨rfl, drained, id⟩

/-- Without a SAK there is none to install. -/
theorem processMkaSakInstall_of_keyless (keyless : ctx.mka.Keyless) :
    ctx.processMkaSakInstall = (.ok, ctx) := by
  rw [processMkaSakInstall, Mka.Participant.takeSakForInstall,
    if_pos keyless.latest]
  rfl

theorem idles_serviceMkaOrFail (keyless : ctx.mka.Keyless) :
    ctx.Idles ctx.serviceMkaOrFail.2 := by
  have first := idles_processMkaEvents keyless
  unfold serviceMkaOrFail serviceMka
  revert first
  rcases ctx.processMkaEvents with ⟨ret, drained⟩
  intro first
  dsimp only at first
  by_cases ok : ret = .ok
  · subst ok
    have again := first.trans (idles_processMkaEvents first.keyless)
    dsimp only
    rw [processMkaSakInstall_of_keyless first.keyless]
    dsimp only
    revert again
    rcases drained.processMkaEvents with ⟨ret, settled⟩
    intro again
    cases ret with
    | ok => exact again
    | _ =>
        exact ⟨again.cfg, again.keyless,
          fun secured => State.noConfusion secured⟩
  · cases ret with
    | ok => exact absurd rfl ok
    | _ =>
        exact ⟨first.cfg, first.keyless,
          fun secured => State.noConfusion secured⟩

end Control

/-! ## Closed contexts -/

variable {start ctx : Ctx} {direction : Direction}

/-- Receiving an EAPOL-MKA frame without a key encrypting key secures nothing
and leaves the participant without a SAK. -/
theorem idles_inputMka (keyless : ctx.mka.Keyless)
    (notReady : MkaCrypto.kekReady ctx.mka.crypto = false) (frame : Bytes)
    (rnd : Octets 16) :
    ctx.control.Idles (inputMka aes ctx frame rnd).2.control := by
  have next := @Mka.keyless_input aes _ keyless notReady frame rnd
    ctx.lastTickMs
  unfold inputMka
  revert next
  rcases Mka.input aes ctx.mka frame rnd ctx.lastTickMs with ⟨ret, mka⟩
  intro next
  cases ret with
  | ok =>
      have served :=
        @Control.idles_serviceMkaOrFail { ctx with mka := mka }.control next
      exact ⟨served.cfg, served.keyless, served.insecure⟩
  | _ => exact ⟨rfl, next, fun secured => State.noConfusion secured⟩

/-- A static context that is not secured and never will be. -/
structure Closed (ctx : Ctx) : Prop where
  mode : ctx.cfg.mode = .staticSak
  insecure : ctx.state ≠ .secured
  keyless : ctx.mka.Keyless
  notReady : MkaCrypto.kekReady ctx.mka.crypto = false

/-- A frame that closes an undisturbed context leaves it closed. -/
theorem Undisturbed.closed (undisturbed : Undisturbed start ctx) {call : Call}
    (harmful : ¬Harmless call) : Closed (Macsec.perform aes ctx call).1 := by
  have error := @Undisturbed.perform_closes aes _ _ undisturbed _ harmful
  have unkeyed : MkaCrypto.kekReady ctx.mka.crypto = false := by
    rw [undisturbed.mka]
    rfl
  have keyless : ctx.mka.Keyless := by
    rw [undisturbed.mka]
    exact ⟨rfl, rfl⟩
  cases call with
  | input frame plain rnd =>
      obtain ⟨isMka, -⟩ := Classical.not_imp.mp harmful
      have idles := @idles_inputMka aes _ keyless unkeyed frame rnd
      have keys := @perform_keys aes _ undisturbed.notDisabled
        (.input frame plain rnd)
      have result :
          Macsec.perform aes ctx (.input frame plain rnd) =
            ((inputMka aes ctx frame rnd).2,
              Reply.of (inputMka aes ctx frame rnd).1) :=
        input_of_isEapolMka undisturbed.notDisabled isMka plain rnd
      rw [result] at error keys ⊢
      refine ⟨?_, ?_, idles.keyless, ?_⟩
      · exact (congrArg Config.mode idles.cfg).trans undisturbed.mode
      · rw [error]
        exact State.noConfusion
      · rw [keys.1]
        exact unkeyed
  | output | tick | buildControlFrame | notifyControlTxSuccess
  | notifyControlTxFailure => exact absurd trivial harmful

theorem Closed.enabled (closed : Closed ctx) : ctx.cfg.mode ≠ .disabled := by
  rw [closed.mode]
  exact Mode.noConfusion

/-- A context that is not secured only lets EAPOL-MKA frames in. -/
theorem input_of_insecure (mode : ctx.cfg.mode ≠ .disabled)
    (insecure : ctx.state ≠ .secured) (frame plain : Bytes)
    (rnd : Octets 16) :
    (input aes ctx frame plain rnd).2.passToStack = false ∧
      (Mka.isEapolMka frame = true ∨
        (input aes ctx frame plain rnd).1 = ctx) := by
  rcases @input_cases aes _ mode frame plain rnd with
    ⟨isMka, result⟩ | ⟨-, secured, -⟩ | ⟨-, ret, -, result⟩
  · rw [result]
    exact ⟨rfl, .inl isMka⟩
  · exact absurd secured insecure
  · rw [result]
    exact ⟨rfl, .inr rfl⟩

/-- A context that is not secured sends nothing. -/
theorem output_of_insecure (mode : ctx.cfg.mode ≠ .disabled)
    (insecure : ctx.state ≠ .secured) (plain : Bytes) (txMaxLen : Nat) :
    (output aes ctx plain txMaxLen).2.ret ≠ .ok ∧
      (output aes ctx plain txMaxLen).1 = ctx := by
  rcases @output_cases aes _ mode plain txMaxLen with
    ⟨ret, refused, result⟩ | ⟨secured, -⟩
  · rw [result]
    exact ⟨refused, rfl⟩
  · exact absurd secured insecure

/-- A context that is not secured uses no packet number. -/
theorem usedPn_of_insecure (mode : ctx.cfg.mode ≠ .disabled)
    (insecure : ctx.state ≠ .secured) (direction : Direction) (call : Call) :
    usedPn direction ((machine aes).event ctx call) = none := by
  rw [usedPn.eq_def]
  cases direction with
  | tx =>
      cases call with
      | output plain txMaxLen =>
          have refused :=
            (@output_of_insecure aes _ mode insecure plain txMaxLen).1
          exact congrArg (Option.map _) (if_neg refused)
      | _ => rfl
  | rx =>
      cases call with
      | input frame plain rnd =>
          have silent :=
            (@input_of_insecure aes _ mode insecure frame plain rnd).1
          exact congrArg (Option.map _)
            (if_neg (Bool.eq_false_iff.mp silent))
      | _ => rfl

/-- An EAPOL-MKA frame uses no packet number. -/
theorem usedPn_of_harmful (mode : ctx.cfg.mode ≠ .disabled) {call : Call}
    (harmful : ¬Harmless call) (direction : Direction) :
    usedPn direction ((machine aes).event ctx call) = none := by
  cases call with
  | input frame plain rnd =>
      obtain ⟨isMka, -⟩ := Classical.not_imp.mp harmful
      have silent : (input aes ctx frame plain rnd).2.passToStack = false := by
        rw [input_of_isEapolMka mode isMka]
        rfl
      cases direction with
      | tx => rfl
      | rx =>
          exact congrArg (Option.map _)
            (if_neg (Bool.eq_false_iff.mp silent))
  | output | tick | buildControlFrame | notifyControlTxSuccess
  | notifyControlTxFailure => exact absurd trivial harmful

/-- A closed context stays closed. -/
theorem Closed.perform (closed : Closed ctx) (call : Call) :
    Closed (Macsec.perform aes ctx call).1 := by
  have notPsk : ctx.cfg.mode ≠ .mkaPsk := by
    rw [closed.mode]
    exact Mode.noConfusion
  cases call with
  | input frame plain rnd =>
      change Closed (input aes ctx frame plain rnd).1
      rcases (@input_of_insecure aes _ closed.enabled closed.insecure frame
        plain rnd).2 with isMka | same
      · have idles := @idles_inputMka aes _ closed.keyless closed.notReady frame
          rnd
        have keys := (@inputMka_keys aes ctx frame rnd).2.1
        rw [input_of_isEapolMka closed.enabled isMka]
        exact ⟨(congrArg Config.mode idles.cfg).trans closed.mode,
          fun secured => closed.insecure (idles.insecure secured),
          idles.keyless, keys ▸ closed.notReady⟩
      · rw [same]
        exact closed
  | output plain txMaxLen =>
      change Closed (output aes ctx plain txMaxLen).1
      rw [(@output_of_insecure aes _ closed.enabled closed.insecure plain
        txMaxLen).2]
      exact closed
  | tick nowMs =>
      change Closed (ctx.withControl (ctx.control.tick nowMs).2)
      rw [Control.tick, if_neg (by exact notPsk)]
      exact ⟨closed.mode, closed.insecure, closed.keyless, closed.notReady⟩
  | buildControlFrame txMaxLen rnd =>
      change Closed (buildControlFrame aes ctx txMaxLen rnd).1
      rw [buildControlFrame, if_pos notPsk]
      exact closed
  | notifyControlTxSuccess nowMs =>
      change Closed (ctx.withControl
        (ctx.control.notifyControlTxSuccess nowMs).2)
      rw [Control.notifyControlTxSuccess, if_pos (by exact notPsk)]
      exact closed
  | notifyControlTxFailure =>
      change Closed (ctx.withControl ctx.control.notifyControlTxFailure.2)
      rw [Control.notifyControlTxFailure, if_pos (by exact notPsk)]
      exact closed

/-! ## Runs -/

/-- A closed context uses no packet number in any run. -/
theorem Closed.usedPns_eq_nil (closed : Closed ctx) (direction : Direction)
    (calls : List Call) :
    ((machine aes).events ctx calls).filterMap (usedPn direction) = [] := by
  induction calls generalizing ctx with
  | nil => rfl
  | cons call calls inductionHypothesis =>
      rw [Transition.Machine.events, List.filterMap_cons,
        usedPn_of_insecure closed.enabled closed.insecure]
      exact inductionHypothesis (closed.perform call)

/-- What a static context uses of its packet numbers in a run, it uses in one
with harmless calls only. -/
theorem Undisturbed.exists_harmless (undisturbed : Undisturbed start ctx)
    (direction : Direction) (calls : List Call) :
    ∃ harmless : List Call, (∀ call ∈ harmless, Harmless call) ∧
      ((machine aes).events ctx calls).filterMap (usedPn direction) =
        ((machine aes).events ctx harmless).filterMap (usedPn direction) := by
  induction calls generalizing ctx with
  | nil => exact ⟨[], by simp, rfl⟩
  | cons call calls inductionHypothesis =>
      by_cases survives : Harmless call
      · obtain ⟨next, -⟩ :=
          @Undisturbed.perform aes _ _ undisturbed _ survives
        obtain ⟨harmless, survive, same⟩ :
            ∃ harmless : List Call, (∀ call ∈ harmless, Harmless call) ∧
              ((machine aes).events ((machine aes).step ctx call).1
                  calls).filterMap (usedPn direction) =
                ((machine aes).events ((machine aes).step ctx call).1
                  harmless).filterMap (usedPn direction) :=
          inductionHypothesis next
        refine ⟨call :: harmless,
          List.forall_mem_cons.mpr ⟨survives, survive⟩, ?_⟩
        rw [Transition.Machine.events, Transition.Machine.events,
          List.filterMap_cons, List.filterMap_cons, same]
      · refine ⟨[], by simp, ?_⟩
        rw [Transition.Machine.events_nil, Transition.Machine.events,
          List.filterMap_cons,
          usedPn_of_harmful undisturbed.notDisabled survives]
        exact (undisturbed.closed survives).usedPns_eq_nil direction calls

end Macsec
