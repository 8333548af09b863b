import Macsec.Api.Refinement
import Macsec.Mka.Malformed

/-!
# Frames that are not authentic

What an EAPOL-MKA frame does to a context when it is malformed or its integrity
check value does not verify.  A frame that carries the identity of its receiver
is ignored before anything is verified; every other such frame puts the context
into the error state.
-/

namespace Macsec

namespace Mka

variable {aes : BlockCipher}

/-- Whether the integrity check value of a frame verifies. -/
def icvVerifies (aes : BlockCipher) (ctx : Ctx) (frame : Bytes) : Bool :=
  match parseBasic frame with
  | .error _ => false
  | .ok basic => (verifyIcv aes ctx frame basic).1 == .ok

/-- Whether a frame carries the address, the channel identifier or the member
identifier of its receiver. -/
def carriesOwnIdentity (ctx : Participant) (frame : Bytes) : Bool :=
  match parseBasic frame with
  | .error _ => false
  | .ok basic => isOwnFrame ctx basic

/-- A frame that carries the identity of its receiver is ignored. -/
theorem input_own {ctx : Ctx} {frame : Bytes}
    (isMka : isEapolMka frame = true)
    (own : carriesOwnIdentity ctx.toParticipant frame = true)
    (rnd : Octets 16) (nowMs : UInt32) :
    input aes ctx frame rnd nowMs = (.ok, ctx) := by
  rw [carriesOwnIdentity] at own
  rw [input, isMka, if_neg (by decide)]
  cases parsed : parseBasic frame with
  | error ret =>
      rw [parsed] at own
      exact absurd own Bool.false_ne_true
  | ok basic =>
      rw [parsed] at own
      exact if_pos own

/-- An MKPDU with a set that a scan cannot read is refused. -/
theorem processMkpdu_of_scanFails (ctx : Participant) {pdu : Mkpdu}
    (fails : scanFails pdu.distributedSak = true ∨
      scanFails pdu.sakUse = true)
    (rnd : Octets 16) (nowMs : UInt32) :
    (ctx.processMkpdu pdu rnd nowMs).1 ≠ .ok := by
  rw [scanFails_iff, scanFails_iff] at fails
  unfold Participant.processMkpdu
  dsimp only
  split
  next refused => exact refused.1
  next taken =>
      rcases fails with ⟨ret, failed, refused⟩ | ⟨ret, failed, refused⟩
      · rw [failed] at taken
        exact absurd refused taken
      · split
        next refused => exact refused.1
        next =>
            rw [failed]
            split
            next => exact refused.1
            next taken => exact absurd refused taken

/-- A frame of another participant that is malformed or does not verify is
refused; unless it is authentic, the protocol state does not change. -/
theorem input_refuses {ctx : Ctx} (verifying : ctx.verifyIcv = true)
    {frame : Bytes} (isMka : isEapolMka frame = true)
    (bad : Malformed aes ctx.crypto frame ∨
      icvVerifies aes ctx frame = false)
    (foreign : carriesOwnIdentity ctx.toParticipant frame = false)
    (rnd : Octets 16) (nowMs : UInt32) :
    (input aes ctx frame rnd nowMs).1 ≠ .ok ∧
      (icvVerifies aes ctx frame = false →
        (input aes ctx frame rnd nowMs).2.toParticipant =
          ctx.toParticipant) := by
  obtain ⟨returned, state⟩ :=
    Prod.mk.inj (input_receive aes ctx frame rnd nowMs)
  rw [returned, state]
  have neverOk := classify_ne_rejected_ok aes ctx frame
  rw [malformed_iff isMka] at bad
  revert bad neverOk
  unfold carriesOwnIdentity at foreign
  unfold icvVerifies classify
  rw [isMka, if_neg (by decide)]
  rcases parsed : parseBasic frame with ret | basic
  · intro _ neverOk
    exact ⟨fun refused => neverOk (congrArg Received.rejected refused),
      fun _ => rfl⟩
  · rw [parsed] at foreign
    dsimp only at foreign ⊢
    rw [foreign, if_neg Bool.false_ne_true,
      authenticate_fst verifying frame basic]
    rcases (verifyIcv aes ctx frame basic).1 with _ | _
    case ok =>
        intro bad _
        refine ⟨processMkpdu_of_scanFails _ ?_ rnd nowMs,
          fun fails => absurd fails (by decide)⟩
        obtain ⟨ret, fails⟩ | fails := bad.resolve_right (by decide)
        · cases fails
        · exact fails
    all_goals exact fun _ _ => ⟨Err.noConfusion, fun _ => rfl⟩

end Mka

variable {aes : BlockCipher} {ctx : Ctx}

/-- Servicing a context at rest only drains its events. -/
theorem Control.Resting.serviced_eq {ctx : Control} (resting : ctx.Resting)
    (working : ctx.state ≠ .error) :
    ctx.serviced =
      { ctx with mka := { ctx.mka with pendingEvents := 0 } } := by
  obtain ⟨-, noRetire, noLoss⟩ :=
    Mka.Participant.hasFlag_servicedEvents_eq_false.mp resting.mka.quiet
  have notDue : Mka.Participant.sakAvailable ctx.mka.latestSak = false := by
    rw [← Bool.not_eq_true]
    intro available
    rcases Mka.Participant.lifecycle_of_available available with
      lifecycle | lifecycle | lifecycle
    · exact working (resting.waiting lifecycle)
    · exact resting.mka.settled.1 lifecycle
    · exact resting.mka.settled.2 lifecycle
  have drained :
      ctx.drained =
        { ctx with mka := { ctx.mka with pendingEvents := 0 } } := by
    unfold Control.drained
    dsimp only
    rw [noRetire, noLoss, if_neg (fun retire => by cases retire.1),
      if_neg Bool.false_ne_true]
  rw [Control.serviced, notDue, if_neg Bool.false_ne_true, drained]

theorem input_of_isEapolMka (mode : ctx.cfg.mode ≠ .disabled)
    {frame : Bytes} (isMka : Mka.isEapolMka frame = true) (plain : Bytes)
    (rnd : Octets 16) :
    input aes ctx frame plain rnd =
      ((inputMka aes ctx frame rnd).2,
        Reply.of (inputMka aes ctx frame rnd).1) := by
  rw [input, if_neg mode, if_pos isMka]

/-- A frame that carries the identity of the context only drains the events of
a context that is not in the error state. -/
theorem inputMka_own (resting : ctx.control.Resting) {frame : Bytes}
    (isMka : Mka.isEapolMka frame = true)
    (own : Mka.carriesOwnIdentity ctx.mka.toParticipant frame = true)
    (rnd : Octets 16) :
    (inputMka aes ctx frame rnd).1 = .ok ∧
      (ctx.state ≠ .error →
        (inputMka aes ctx frame rnd).2 =
          { ctx with mka := { ctx.mka with pendingEvents := 0 } }) := by
  rw [inputMka, Mka.input_own isMka own]
  dsimp only
  rw [Ctx.lift, Control.serviceMkaOrFail_eq (by exact resting.mka.serviceable)]
  refine ⟨rfl, fun working => ?_⟩
  change ctx.withControl ctx.control.serviced = _
  rw [resting.serviced_eq working]
  rfl

/-- A frame that MKA refuses puts the context into the error state and leaves
the associations alone. -/
theorem inputMka_refused {frame : Bytes} {rnd : Octets 16}
    (refused : (Mka.input aes ctx.mka frame rnd ctx.lastTickMs).1 ≠ .ok) :
    inputMka aes ctx frame rnd =
      ((Mka.input aes ctx.mka frame rnd ctx.lastTickMs).1,
        { ctx with
          mka := (Mka.input aes ctx.mka frame rnd ctx.lastTickMs).2
          state := .error }) := by
  unfold inputMka
  revert refused
  rcases Mka.input aes ctx.mka frame rnd ctx.lastTickMs with ⟨ret, mka⟩
  intro refused
  cases ret with
  | ok => exact absurd rfl refused
  | param | buffer | crypto | state | replay | unsupported | auth | timeout
  | notReady | busy => rfl

/-- A malformed EAPOL-MKA frame, or one whose integrity check value does not
verify, is ignored if it carries the identity of its receiver; otherwise it is
answered by an error and ends in the error state, with the associations as they
were.  Unless it verifies it does not touch the protocol state either. -/
theorem unauthentic_frame_ends_in_error (reachable : Reachable aes .mkaPsk ctx)
    {frame : Bytes} (isMka : Mka.isEapolMka frame = true)
    (bad : Mka.Malformed aes ctx.mka.crypto frame ∨
      Mka.icvVerifies aes ctx.mka frame = false)
    (plain : Bytes) (rnd : Octets 16) :
    let after := (input aes ctx frame plain rnd).1
    let reply := (input aes ctx frame plain rnd).2
    (Mka.carriesOwnIdentity ctx.mka.toParticipant frame = true →
      reply = Reply.of .ok ∧
        (ctx.state ≠ .error →
          after = { ctx with mka := { ctx.mka with pendingEvents := 0 } })) ∧
    (Mka.carriesOwnIdentity ctx.mka.toParticipant frame = false →
      reply.ret ≠ .ok ∧ after.state = .error ∧
        after.frameCrypto = ctx.frameCrypto ∧
        (Mka.icvVerifies aes ctx.mka frame = false →
          after.mka.toParticipant = ctx.mka.toParticipant)) := by
  have resting := reachable.resting
  have verifying := reachable.keyed.2
  dsimp only
  rw [input_of_isEapolMka (notDisabled_of_resting resting) isMka]
  constructor
  · intro own
    obtain ⟨ok, unchanged⟩ := @inputMka_own aes _ resting _ isMka own rnd
    exact ⟨congrArg Reply.of ok, unchanged⟩
  · intro foreign
    obtain ⟨refused, protocol⟩ :=
      Mka.input_refuses verifying isMka bad foreign rnd ctx.lastTickMs
    rw [inputMka_refused refused]
    exact ⟨refused, rfl, rfl, protocol⟩

/-! ## A truncated frame -/

/-- A bare header puts a waiting context into the error state. -/
theorem headerFrame_ends_in_error :
    let ctx :=
      initialCtx BlockCipher.null (pskConfig (Octets.zero 6) 0)
        (Octets.zero 12)
    ctx.state = .waitMka ∧
      (input BlockCipher.null ctx headerFrame [] (Octets.zero 16)).1.state =
        .error := by
  refine ⟨rfl, ?_⟩
  exact ((unauthentic_frame_ends_in_error
    (reachable_initialCtx BlockCipher.null (Octets.zero 6) 0 (Octets.zero 12))
    (by decide) (.inl (.basic (.inl (by decide)))) [] (Octets.zero 16)).2
      (by decide)).2.1

/-- Under no cipher do all unauthentic frames leave the state alone. -/
theorem not_forall_unauthentic_frame_keeps_state :
    ¬ ∃ aes, ∀ (ctx : Ctx) (frame plain : Bytes) (rnd : Octets 16),
      Reachable aes .mkaPsk ctx → Mka.isEapolMka frame = true →
        (Mka.Malformed aes ctx.mka.crypto frame ∨
          Mka.icvVerifies aes ctx.mka frame = false) →
        (input aes ctx frame plain rnd).1.state = ctx.state := by
  rintro ⟨aes, keeps⟩
  have state :=
    keeps (initialCtx aes (pskConfig (Octets.zero 6) 0) (Octets.zero 12))
      headerFrame [] (Octets.zero 16)
      (reachable_initialCtx aes (Octets.zero 6) 0 (Octets.zero 12))
      (by decide) (.inl (.basic (.inl (by decide))))
  have refused :
      (Mka.input aes
        (initialCtx aes (pskConfig (Octets.zero 6) 0) (Octets.zero 12)).mka
        headerFrame (Octets.zero 16) 0).1 ≠ .ok := by
    rw [show Mka.input aes _ headerFrame _ _ = (.buffer, _) from rfl]
    exact Err.noConfusion
  rw [input_of_isEapolMka (by exact Mode.noConfusion) (by decide),
    inputMka_refused refused] at state
  exact State.noConfusion state

end Macsec
