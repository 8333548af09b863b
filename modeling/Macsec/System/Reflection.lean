import Macsec.Api.FailClosed
import Macsec.System.Defs

/-!
# Where delivered frames come from

Parties exchange protected frames over a network that may do anything but forge:
a frame that opens under the key of a valid association was emitted under that
key before.  Then every frame that is passed to a stack was given to the party
whose channel identifier it carries.  As a receiver does not compare that
identifier with its own, this party may be the receiver itself.
-/

namespace Macsec

namespace System

variable {ι : Type} [DecidableEq ι] {aes : BlockCipher} {start : ι → Ctx}

/-- A step emits a frame that protects a plaintext under a key. -/
def Emits (event : Event ι) (sender : ι) (key plain frame : Bytes) : Prop :=
  ∃ txMaxLen, event.input = (sender, .output plain txMaxLen) ∧
    event.output.ret = .ok ∧ event.output.frame = frame ∧
    (event.before sender).frameCrypto.txSak.key = key

/-- A step passes a frame to the stack of a party. -/
def Delivers (event : Event ι) (receiver : ι) (frame : Bytes) : Prop :=
  ∃ plain rnd, event.input = (receiver, .input frame plain rnd) ∧
    event.output.ret = .ok ∧ event.output.passToStack = true

/-- The network forges nothing: a protected frame that opens under the key of
the association it selects was emitted under this key before. -/
def Unforged (aes : BlockCipher) (past : List (Event ι)) (event : Event ι) :
    Prop :=
  ∀ receiver frame plain rnd payload,
    event.input = (receiver, .input frame plain rnd) →
    FrameCrypto.isMacsec frame = true →
    let sak :=
      (event.before receiver).frameCrypto.rxSak (FrameCrypto.frameAn frame)
    sak.valid = true → FrameCrypto.Opens aes sak.key frame payload →
      ∃ earlier ∈ past, ∃ sender sent, Emits earlier sender sak.key sent frame

/-- A delivered frame was emitted before, for the very plaintext that is
delivered, by the only party whose channel identifier it carries. -/
def GivenToSender (start : ι → Ctx) (past : List (Event ι))
    (event : Event ι) : Prop :=
  ∀ receiver frame, Delivers event receiver frame →
    ∃ sender,
      (∀ other, (start other).frameCrypto.localSci =
          FrameCrypto.frameSci frame ↔ other = sender) ∧
        ∃ earlier ∈ past, ∃ key,
          Emits earlier sender key event.output.frame frame

/-- What the frames emitted in a step are made of. -/
def Sealed (aes : BlockCipher) (start : ι → Ctx) (event : Event ι) : Prop :=
  ∀ sender key plain frame, Emits event sender key plain frame →
    FrameCrypto.ethHdrLen ≤ plain.length ∧
      plain.length ≤ FrameCrypto.maxPlainSize ∧
      ∃ an pn,
        frame =
          FrameCrypto.sealFrame aes key an pn
            (start sender).frameCrypto.localSci plain

/-- What holds of the parties and of the steps already made. -/
structure History (aes : BlockCipher) (start : ι → Ctx)
    (past : List (Event ι)) (parties : ι → Ctx) : Prop where
  steady : ∀ party, Steady aes (start party) (parties party)
  emitted : ∀ event ∈ past, Sealed aes start event

theorem sealed_event {parties : ι → Ctx}
    (steady : ∀ party, Steady aes (start party) (parties party))
    (enabled : ∀ party, (start party).cfg.mode ≠ .disabled)
    (input : ι × Call) :
    Sealed aes start ((machine aes).event parties input) := by
  rintro sender key plain frame ⟨txMaxLen, same, ok, result, held⟩
  change input = _ at same
  subst same
  have party := steady sender
  have mode : (parties sender).cfg.mode ≠ .disabled := by
    rw [party.cfg]
    exact enabled sender
  change (output aes (parties sender) plain txMaxLen).2.ret = .ok at ok
  change (output aes (parties sender) plain txMaxLen).2.frame = frame at result
  change (parties sender).frameCrypto.txSak.key = key at held
  rcases output_cases mode plain txMaxLen with
    ⟨ret, refused, outcome⟩ | ⟨-, outcome⟩
  · rw [outcome] at ok
    exact absurd ok refused
  · rw [outcome] at ok result
    obtain ⟨long, short, form⟩ := FrameCrypto.encrypt_ok party.cached ok
    refine ⟨long, short, (parties sender).frameCrypto.txSak.an,
      (parties sender).frameCrypto.txSak.nextPn, ?_⟩
    rw [← result, ← held, ← party.localSci]
    exact form

/-- Every frame that is passed to a stack was given, octet for octet, to the
one party whose channel identifier it carries. -/
theorem delivered_given_to_sender
    (initialised : ∀ party, ∃ cfg mi, cfg.mode ≠ .disabled ∧
      init aes cfg mi = (.ok, start party))
    (differ : Function.Injective fun party =>
      (start party).frameCrypto.localSci)
    (inputs : List (ι × Call))
    (unforged :
      Transition.Guarded (Unforged aes) ((machine aes).events start inputs)) :
    Transition.Guarded (GivenToSender start)
      ((machine aes).events start inputs) := by
  have enabled : ∀ party, (start party).cfg.mode ≠ .disabled := by
    intro party
    obtain ⟨cfg, mi, mode, result⟩ := initialised party
    rw [init_mode result]
    exact mode
  have initial : History aes start [] start := by
    refine ⟨fun party => ?_, fun event member => absurd member (by simp)⟩
    obtain ⟨cfg, mi, -, result⟩ := initialised party
    exact steady_of_init result
  refine Transition.Machine.guarded_events initial ?_ ?_ inputs unforged
  · rintro past parties ⟨party, call⟩ history -
    refine ⟨?_, ?_⟩
    · exact forall_step (fun party ctx => Steady aes (start party) ctx)
        history.steady ((history.steady party).perform (enabled party) call)
    · intro event member
      rcases List.mem_append.mp member with earlier | last
      · exact history.emitted event earlier
      · rw [List.mem_singleton.mp last]
        exact sealed_event history.steady enabled (party, call)
  · rintro past parties input history unforged receiver frame
      ⟨plain, rnd, same, ok, passed⟩
    change input = _ at same
    subst same
    have steady := history.steady receiver
    have mode : (parties receiver).cfg.mode ≠ .disabled := by
      rw [steady.cfg]
      exact enabled receiver
    have opened := opened_of_passed steady.cached mode passed
    obtain ⟨payload, opens, delivered⟩ := opened.opens
    obtain ⟨earlier, member, sender, sent, emits⟩ :=
      unforged receiver frame plain rnd payload rfl opened.isMacsec
        opened.valid opens
    obtain ⟨long, short, an, pn, form⟩ :=
      history.emitted earlier member sender _ sent frame emits
    obtain ⟨sci, -, -, addresses⟩ :=
      @FrameCrypto.sealFrame_fields aes _ an pn
        (start sender).frameCrypto.localSci sent
    have content := FrameCrypto.payload_of_opens form short opens
    have same : ((machine aes).event parties
        (receiver, .input frame plain rnd)).output.frame = sent := by
      refine delivered.trans ?_
      rw [content, form, addresses]
      exact FrameCrypto.take_append_drop_addresses long
    refine ⟨sender, fun other => ?_, earlier, member, _, same ▸ emits⟩
    rw [form, sci]
    exact ⟨fun equal => differ equal, fun equal => equal ▸ rfl⟩

/-! ## A reflected frame -/

theorem not_isEapolMka_of_isMacsec {frame : Bytes}
    (isFrame : FrameCrypto.isMacsec frame = true) :
    Mka.isEapolMka frame = false := by
  unfold FrameCrypto.isMacsec at isFrame
  split at isFrame
  next => exact Bool.noConfusion isFrame
  next =>
      have typed := beq_iff_eq.mp isFrame
      unfold Mka.isEapolMka
      split
      next => rfl
      next => rw [typed, if_pos (by decide)]

/-- A secured context that finds the packet number of a frame acceptable and
holds its key passes it on, whoever sent it. -/
theorem delivers_sealFrame {ctx : Ctx} (cached : ctx.frameCrypto.Cached aes)
    (mode : ctx.cfg.mode ≠ .disabled) (secured : ctx.state = .secured)
    {an : Fin 4} {pn : UInt32} {plain buffer : Bytes} (sci : Octets 8)
    (receivable :
      FrameCrypto.Receivable ctx.frameCrypto.toSaTable an pn plain.length
        buffer.length)
    (rnd : Octets 16) :
    let frame :=
      FrameCrypto.sealFrame aes (ctx.frameCrypto.rxSak an).key an pn sci plain
    (input aes ctx frame buffer rnd).2.ret = .ok ∧
      (input aes ctx frame buffer rnd).2.passToStack = true := by
  intro frame
  have checked :
      FrameCrypto.decryptCheck ctx.frameCrypto.toSaTable frame
        buffer.length = .ok :=
    FrameCrypto.decryptCheck_sealFrame receivable
  have isFrame := FrameCrypto.isMacsec_of_decryptCheck_ok checked
  have selected :=
    (@FrameCrypto.sealFrame_fields aes (ctx.frameCrypto.rxSak an).key an pn sci
      plain).2.2.1
  have opens :
      FrameCrypto.Opens aes
        (ctx.frameCrypto.rxSak (FrameCrypto.frameAn frame)).key frame
        (plain.drop 12) := by
    rw [selected]
    exact (FrameCrypto.opens_sealFrame _ an pn sci receivable.short _).mpr rfl
  have accepted := FrameCrypto.decrypt_of_opens cached checked opens
  have result :
      input aes ctx frame buffer rnd = inputSecure aes ctx frame buffer := by
    rw [input, if_neg mode, not_isEapolMka_of_isMacsec isFrame,
      if_neg Bool.false_ne_true, if_pos isFrame]
  obtain ⟨-, returned, passed, -⟩ :=
    @inputSecure_cases aes ctx secured frame buffer
  rw [result]
  exact ⟨returned.trans accepted, passed.mpr accepted⟩

/-- Two static contexts that share a SAK. -/
def staticParties (aes : BlockCipher) : Side → Ctx
  | .a => (init aes (staticConfig (Octets.ofNat 6 1)) (Octets.zero 12)).2
  | .b => (init aes (staticConfig (Octets.ofNat 6 2)) (Octets.zero 12)).2

/-- Two contexts protect and open frames under one key and one AN. -/
def Shares (parties : Side → Ctx) (key : Bytes) (an : Fin 4) : Prop :=
  ∀ side,
    FrameCrypto.readyTx (parties side).frameCrypto.toSaTable = true ∧
      (parties side).frameCrypto.txSak.key = key ∧
      (parties side).frameCrypto.txSak.an = an ∧
      FrameCrypto.readyRx (parties side).frameCrypto.toSaTable an = true ∧
      ((parties side).frameCrypto.rxSak an).key = key

/-- A plaintext. -/
def greeting : Bytes := List.replicate 60 7

/-- The frame that protects it as the first frame of one of the contexts. -/
def greetingFrame (aes : BlockCipher) : Bytes :=
  FrameCrypto.sealFrame aes (List.replicate 16 1) 0 1
    (Mka.buildSci (Octets.ofNat 6 1) 1) greeting

/-- One context protects the plaintext, and the frame is received. -/
def exchange (aes : BlockCipher) (receiver : Side) : List (Side × Call) :=
  [(.a, .output greeting 1700),
    (receiver,
      .input (greetingFrame aes) (List.replicate 1600 0) (Octets.zero 16))]

theorem initialised_staticParties (aes : BlockCipher) (side : Side) :
    ∃ cfg mi, cfg.mode ≠ .disabled ∧
      init aes cfg mi = (.ok, staticParties aes side) := by
  cases side with
  | a => exact ⟨_, _, Mode.noConfusion, init_staticConfig aes _ _⟩
  | b => exact ⟨_, _, Mode.noConfusion, init_staticConfig aes _ _⟩

theorem differ_staticParties (aes : BlockCipher) :
    Function.Injective fun side =>
      (staticParties aes side).frameCrypto.localSci := by
  have differ :
      (staticParties aes .a).frameCrypto.localSci ≠
        (staticParties aes .b).frameCrypto.localSci := by
    change Mka.buildSci _ 1 ≠ Mka.buildSci _ 1
    decide
  intro side other same
  cases side <;> cases other
  · rfl
  · exact absurd same differ
  · exact absurd same.symm differ
  · rfl

theorem shares_staticParties (aes : BlockCipher) :
    Shares (staticParties aes) (List.replicate 16 1) 0 := by
  intro side
  cases side with
  | a => exact ⟨rfl, rfl, rfl, rfl, rfl⟩
  | b => exact ⟨rfl, rfl, rfl, rfl, rfl⟩

theorem cached_staticParties (aes : BlockCipher) (side : Side) :
    (staticParties aes side).frameCrypto.Cached aes := by
  obtain ⟨cfg, mi, -, result⟩ := initialised_staticParties aes side
  exact (steady_of_init result).cached

theorem sendable_greeting (aes : BlockCipher) :
    FrameCrypto.Sendable (staticParties aes .a).frameCrypto.toSaTable
      greeting.length 1700 :=
  ⟨rfl, rfl, by decide, by decide, by decide⟩

/-- The step that protects the plaintext. -/
def sending (aes : BlockCipher) : Event Side :=
  (machine aes).event (staticParties aes) (.a, .output greeting 1700)

theorem output_greeting (aes : BlockCipher) :
    output aes (staticParties aes .a) greeting 1700 =
      ({ staticParties aes .a with
          frameCrypto :=
            (FrameCrypto.encrypt aes (staticParties aes .a).frameCrypto
              greeting 1700).2.1 },
        { ret := .ok, frame := greetingFrame aes, passToStack := false }) := by
  obtain ⟨ok, form⟩ :=
    FrameCrypto.encrypt_eq (cached_staticParties aes .a)
      (sendable_greeting aes)
  rw [output, if_neg (by exact Mode.noConfusion),
    if_neg (by exact not_not_intro rfl), if_neg (by exact Bool.false_ne_true)]
  dsimp only
  rw [ok, form]
  rfl

theorem emits_greeting (aes : BlockCipher) :
    Emits (sending aes) .a (List.replicate 16 1) greeting
      (greetingFrame aes) := by
  refine ⟨1700, rfl, ?_, ?_, rfl⟩
  · exact congrArg (fun result => result.2.ret) (output_greeting aes)
  · exact congrArg (fun result => result.2.frame) (output_greeting aes)

/-- The parties after the plaintext was protected can open the frame. -/
theorem receivable_greeting (aes : BlockCipher) (receiver : Side) :
    let ctx := (sending aes).after receiver
    ctx.frameCrypto.Cached aes ∧ ctx.cfg.mode ≠ .disabled ∧
      ctx.state = .secured ∧
      (ctx.frameCrypto.rxSak 0).key = List.replicate 16 1 ∧
      FrameCrypto.Receivable ctx.frameCrypto.toSaTable 0 1 greeting.length
        1600 := by
  cases receiver with
  | a =>
      have moved :
          (sending aes).after .a = (output aes (staticParties aes .a) greeting
            1700).1 := rfl
      dsimp only
      rw [moved, output_greeting]
      refine ⟨FrameCrypto.encrypt_cached (cached_staticParties aes .a) _ _,
        Mode.noConfusion, rfl, ?_⟩
      rcases FrameCrypto.encrypt_cases aes (staticParties aes .a).frameCrypto
          greeting 1700 with
        ⟨failed, -⟩ | ⟨-, -, -, ⟨initialized, cached, valid, table⟩, -⟩
      · exact absurd (FrameCrypto.encrypt_eq (cached_staticParties aes .a)
          (sendable_greeting aes)).1 failed
      · dsimp only
        rw [table]
        exact ⟨rfl, rfl, by decide, rfl, by decide, by decide, by decide⟩
  | b =>
      have kept : (sending aes).after .b = staticParties aes .b := rfl
      dsimp only
      rw [kept]
      exact ⟨cached_staticParties aes .b, Mode.noConfusion, rfl, rfl, rfl,
        by decide, rfl, by decide, by decide, by decide⟩

/-- The frame is delivered wherever it arrives. -/
theorem delivers_greeting (aes : BlockCipher) (receiver : Side) :
    Delivers
      ((machine aes).event (sending aes).after
        (receiver,
          .input (greetingFrame aes) (List.replicate 1600 0)
            (Octets.zero 16)))
      receiver (greetingFrame aes) := by
  obtain ⟨cached, mode, secured, key, receivable⟩ :=
    receivable_greeting aes receiver
  rw [← show (List.replicate 1600 (0 : UInt8)).length = 1600 from
    List.length_replicate] at receivable
  obtain ⟨ok, passed⟩ :=
    delivers_sealFrame cached mode secured (Mka.buildSci (Octets.ofNat 6 1) 1)
      receivable (Octets.zero 16)
  rw [key] at ok passed
  exact ⟨_, _, rfl, ok, passed⟩

/-- Nothing is forged in the exchange. -/
theorem unforged_exchange (aes : BlockCipher) (receiver : Side) :
    Transition.Guarded (Unforged aes)
      ((machine aes).events (staticParties aes) (exchange aes receiver)) := by
  change Transition.Guarded (Unforged aes)
    (([] ++ [sending aes]) ++
      [(machine aes).event (sending aes).after
        (receiver,
          .input (greetingFrame aes) (List.replicate 1600 0)
            (Octets.zero 16))])
  refine (Transition.Guarded.nil.concat ?_).concat ?_
  · rintro receiver frame plain rnd payload same
    cases same
  · rintro other frame plain rnd payload same _ sak _ _
    cases same
    have selected :=
      (@FrameCrypto.sealFrame_fields aes (List.replicate 16 1) 0 1
        (Mka.buildSci (Octets.ofNat 6 1) 1) greeting).2.2.1
    have key : sak.key = List.replicate 16 1 := by
      change (((sending aes).after receiver).frameCrypto.rxSak
        (FrameCrypto.frameAn (greetingFrame aes))).key = _
      rw [show FrameCrypto.frameAn (greetingFrame aes) = 0 from selected]
      exact (receivable_greeting aes receiver).2.2.2.1
    rw [key]
    exact ⟨sending aes, List.mem_singleton.mpr rfl, .a, greeting,
      emits_greeting aes⟩

/-- What one of two static contexts sends to the other was given to it. -/
theorem exchange_given_to_sender :
    Transition.Guarded (GivenToSender (staticParties BlockCipher.null))
      ((machine BlockCipher.null).events (staticParties BlockCipher.null)
        (exchange BlockCipher.null .b)) :=
  delivered_given_to_sender (initialised_staticParties BlockCipher.null)
    (differ_staticParties BlockCipher.null) (exchange BlockCipher.null .b)
    (unforged_exchange BlockCipher.null .b)

/-- Under no cipher is everything that is delivered to one side given to the
other: a frame reflected to its sender is delivered. -/
theorem not_forall_delivered_given_to_peer :
    ¬∃ aes, ∀ (start : Side → Ctx) (key : Bytes) (an : Fin 4)
      (inputs : List (Side × Call)),
      (∀ side, ∃ cfg mi, cfg.mode ≠ .disabled ∧
        init aes cfg mi = (.ok, start side)) →
      (Function.Injective fun side => (start side).frameCrypto.localSci) →
      Shares start key an →
      Transition.Guarded (Unforged aes) ((machine aes).events start inputs) →
        Transition.Guarded
          (fun past event => ∀ frame, Delivers event .a frame →
            ∃ earlier ∈ past, ∃ key,
              Emits earlier .b key event.output.frame frame)
          ((machine aes).events start inputs) := by
  rintro ⟨aes, given⟩
  obtain ⟨earlier, member, key, txMaxLen, sent, -⟩ :=
    given (staticParties aes) (List.replicate 16 1) 0 (exchange aes .a)
      (initialised_staticParties aes) (differ_staticParties aes)
      (shares_staticParties aes) (unforged_exchange aes .a)
      [sending aes] _ [] rfl (greetingFrame aes) (delivers_greeting aes .a)
  rw [List.mem_singleton.mp member] at sent
  cases sent

end System

end Macsec
