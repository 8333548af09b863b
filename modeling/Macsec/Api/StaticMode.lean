import Macsec.Api.Rejection

/-!
# Static mode

A context with a static SAK never initialises its MKA participant, and yet
passes every EAPOL-MKA frame to it.  The all-zero participant ignores a frame
that carries one of its all-zero identities.  Any other EAPOL-MKA frame raises
the error event and closes the context.
-/

namespace Macsec

namespace FrameCrypto

theorem encryptCheck_ne_notReady (table : SaTable)
    (plainLen secureMaxLen : Nat) :
    encryptCheck table plainLen secureMaxLen ≠ .error .notReady := by
  unfold encryptCheck
  dsimp only
  refine ite_ne nofun ?_
  refine ite_ne nofun ?_
  refine ite_ne nofun ?_
  refine ite_ne nofun ?_
  refine ite_ne nofun ?_
  refine ite_ne nofun ?_
  refine ite_ne nofun ?_
  exact nofun

theorem encrypt_ne_notReady (aes : BlockCipher) (ctx : Ctx) (plain : Bytes)
    (secureMaxLen : Nat) :
    (encrypt aes ctx plain secureMaxLen).1 ≠ .notReady := by
  unfold encrypt
  cases checked : encryptCheck ctx.toSaTable plain.length secureMaxLen with
  | error ret =>
      rintro rfl
      exact encryptCheck_ne_notReady _ _ _ checked
  | ok pn =>
      obtain ⟨keyed, result | result, -⟩ :=
        gcmSetKey_cases aes ctx ctx.txSak.key
      · dsimp only
        rw [result]
        dsimp only
        split
        next => exact Err.noConfusion
        next => exact Err.noConfusion
      · dsimp only
        rw [result]
        exact Err.noConfusion

theorem replayCheck_ne_notReady (table : SaTable) (sak : Sak) (pn : UInt32) :
    replayCheck table sak pn ≠ .notReady := by
  unfold replayCheck
  dsimp only
  refine ite_ne Err.noConfusion ?_
  refine ite_ne Err.noConfusion ?_
  refine ite_ne Err.noConfusion ?_
  refine ite_ne Err.noConfusion ?_
  refine ite_ne Err.noConfusion ?_
  refine ite_ne Err.noConfusion ?_
  refine ite_ne Err.noConfusion ?_
  exact ite_ne Err.noConfusion Err.noConfusion

theorem decrypt_ne_notReady (aes : BlockCipher) (ctx : Ctx)
    (secure plain : Bytes) :
    (decrypt aes ctx secure plain).1 ≠ .notReady := by
  have checks :
      decryptCheck ctx.toSaTable secure plain.length ≠ .notReady := by
    unfold decryptCheck
    dsimp only
    refine ite_ne Err.noConfusion ?_
    refine ite_ne Err.noConfusion ?_
    refine ite_ne Err.noConfusion ?_
    refine ite_ne Err.noConfusion ?_
    refine ite_ne Err.noConfusion ?_
    refine ite_ne Err.noConfusion ?_
    refine ite_ne (replayCheck_ne_notReady _ _ _) ?_
    refine ite_ne Err.noConfusion ?_
    refine ite_ne Err.noConfusion ?_
    exact ite_ne Err.noConfusion Err.noConfusion
  unfold decrypt
  cases checked : decryptCheck ctx.toSaTable secure plain.length with
  | ok =>
      obtain ⟨keyed, result | result, -⟩ :=
        gcmSetKey_cases aes ctx (ctx.rxSak (frameAn secure)).key
      · dsimp only
        rw [result]
        dsimp only
        split
        next => exact Err.noConfusion
        next => exact Err.noConfusion
      · dsimp only
        rw [result]
        exact Err.noConfusion
  | notReady => exact absurd checked checks
  | param | buffer | crypto | state | replay | unsupported | auth | timeout
  | busy => exact Err.noConfusion

end FrameCrypto

/-! ## The participant of a static context -/

namespace Mka

variable {aes : BlockCipher}

/-- What holds of the outcome of every visit, and of both other outcomes, holds
of a walk. -/
theorem walk_invariant {ρ : Type} (outcome : ρ → Prop) {frame : Bytes}
    {finish : Nat} {overflow done : ρ}
    {visit : UInt8 → UInt8 → Nat → Nat → Option ρ}
    (onOverflow : outcome overflow) (onDone : outcome done)
    (onVisit : ∀ type flags bodyPos bodyLen result,
      visit type flags bodyPos bodyLen = some result → outcome result)
    (pos : Nat) : outcome (walk frame finish overflow done visit pos) := by
  induction pos using walk.induct frame finish visit with
  | case1 pos fits bodyLen bodyEnd overflows =>
      rw [walk, if_pos fits, if_pos overflows]
      exact onOverflow
  | case2 fits bodyLen bodyEnd inside inductionHypothesis =>
      rw [walk, if_pos fits, if_neg inside, if_pos rfl]
      exact inductionHypothesis
  | case3 pos fits bodyLen bodyEnd inside behind result visited =>
      rw [walk, if_pos fits, if_neg inside, if_neg behind, visited]
      exact onVisit _ _ _ _ result visited
  | case4 pos fits bodyLen bodyEnd inside behind skipped
      inductionHypothesis =>
      rw [walk, if_pos fits, if_neg inside, if_neg behind, skipped]
      exact inductionHypothesis
  | case5 pos ends =>
      rw [walk, if_neg ends]
      exact onDone

/-- Without a key encrypting key no Distributed SAK is found. -/
theorem scanDistributedSak_of_not_kekReady {crypto : MkaCrypto.Ctx}
    (notReady : MkaCrypto.kekReady crypto = false) (frame : Bytes) :
    ∃ ret, scanDistributedSak aes crypto frame = .error ret := by
  unfold scanDistributedSak
  split
  next => exact ⟨_, rfl⟩
  next =>
      split
      next => exact ⟨_, rfl⟩
      next =>
          apply walk_invariant fun result => ∃ ret, result = Except.error ret
          · exact ⟨_, rfl⟩
          · exact ⟨_, rfl⟩
          · intro type flags bodyPos bodyLen result visited
            split at visited
            next =>
                cases visited
                unfold readDistributedSak
                dsimp only
                split_ifs
                all_goals
                  first
                    | exact ⟨_, rfl⟩
                    | rw [MkaCrypto.unwrapSak, notReady]
                      exact ⟨_, rfl⟩
            next => cases visited

/-- Without a SAK there is no rekey for a new peer. -/
theorem rekeyForPeer_of_none {ctx : Participant}
    (absent : ctx.latestSak.lifecycleState = .none) (identityChanged : Bool)
    (rnd : Octets 16) : ctx.rekeyForPeer identityChanged rnd = (.ok, ctx) := by
  rw [Participant.rekeyForPeer, absent]
  simp

/-- Without a SAK no SAK Use applies. -/
theorem parseSakUse_of_none {ctx : Participant}
    (absent : ctx.latestSak.lifecycleState = .none)
    (found : Except Err SakUse) : (ctx.parseSakUse found).2 = ctx := by
  cases found with
  | error ret => rfl
  | ok report =>
      rw [Participant.parseSakUse, Participant.sakUseApplies, absent]
      rfl

/-- A participant that was never initialised raises the error event when it
learns of a peer. -/
theorem updateLiveness_of_init {ctx : Participant}
    (initial : ctx.state = .init) (localSeen : Bool) :
    (ctx.updateLiveness localSeen true false).latestSak = ctx.latestSak ∧
      hasFlag (ctx.updateLiveness localSeen true false).pendingEvents
        EventFlag.error = true := by
  cases localSeen
  all_goals
    simp only [Participant.updateLiveness, Participant.setState, initial,
      Bool.false_eq_true, if_false, if_true, Bool.true_or]
    refine ⟨rfl, ?_⟩
    change hasFlag (_ ||| _) _ = true
    rw [hasFlag_or, Bool.or_eq_true]
    exact Or.inr (by decide)

/-- The all-zero participant refuses an MKPDU or raises the error event. -/
theorem processMkpdu_cleared {pdu : Mkpdu} {ret : Err}
    (noSak : pdu.distributedSak = .error ret) (rnd : Octets 16)
    (nowMs : UInt32)
    (ok : (Participant.cleared.processMkpdu pdu rnd nowMs).1 = .ok) :
    hasFlag
      (Participant.cleared.processMkpdu pdu rnd nowMs).2.pendingEvents
      EventFlag.error = true := by
  obtain ⟨empty, flagged⟩ :=
    @updateLiveness_of_init (Participant.cleared.updatePeer pdu.basic nowMs)
      rfl pdu.localSeen
  unfold Participant.processMkpdu at ok ⊢
  rw [noSak] at ok ⊢
  dsimp only [Participant.parseDistributedSak] at ok ⊢
  rw [show Participant.cleared.peerIdentityChanged pdu.basic = true from rfl,
    show Participant.cleared.peer.live = false from rfl] at ok ⊢
  generalize (Participant.cleared.updatePeer pdu.basic nowMs).updateLiveness
    pdu.localSeen true false = known at ok empty flagged ⊢
  have absent :
      { known with
        localKeyServer := known.localWinsKeyServer }.latestSak.lifecycleState =
          .none := by
    rw [show _ = Sak.cleared from empty]
    rfl
  rw [rekeyForPeer_of_none absent true rnd] at ok ⊢
  dsimp only at ok ⊢
  split at ok
  next refused => exact absurd ok refused.1
  next accepted =>
      rw [if_neg accepted]
      rw [if_neg (by simp)] at ok ⊢
      split at ok
      next refused => exact absurd ok refused.1
      next reported =>
          rw [if_neg reported, parseSakUse_of_none absent]
          dsimp only
          obtain ⟨events, reasons, -, announced⟩ :=
            @Participant.announceInput_eq
              { known with localKeyServer := known.localWinsKeyServer } true
              (!false && known.peer.live)
              (Participant.cleared.localKeyServer != known.localWinsKeyServer)
          rw [show (!true && false && !known.peer.live) = false from rfl,
            announced]
          change hasFlag (known.pendingEvents ||| events) _ = true
          rw [hasFlag_or, flagged, Bool.true_or]

end Mka

/-! ## Runs of a static context -/

variable {aes : BlockCipher} {start ctx : Ctx}

/-- A frame that claims one of the all-zero identities. -/
def ClaimsZeroIdentity (frame : Bytes) : Prop :=
  ∃ basic, Mka.parseBasic frame = .ok basic ∧
    (basic.srcMac = Octets.zero 6 ∨ basic.sci = Octets.zero 8 ∨
      basic.actorMi = Octets.zero 12)

/-- A call that a static context survives: it receives no EAPOL-MKA frame but
one that claims an all-zero identity. -/
def Harmless : Call → Prop
  | .input frame _ _ =>
      Mka.isEapolMka frame = true → ClaimsZeroIdentity frame
  | _ => True

/-- A static context before it is disturbed. -/
structure Undisturbed (start ctx : Ctx) : Prop where
  mode : ctx.cfg.mode = .staticSak
  state : ctx.state = .secured
  mka : ctx.mka = Mka.Ctx.cleared
  tx : ctx.frameCrypto.txSak.valid = true
  keys : start.frameCrypto.toSaTable.SameKeys ctx.frameCrypto.toSaTable

/-- What a static context is expected to keep. -/
def StaysUp (start : Ctx) (event : Transition.Event Ctx Call Reply) : Prop :=
  event.after.state = .secured ∧
    start.frameCrypto.toSaTable.SameKeys event.after.frameCrypto.toSaTable ∧
    event.output.ret ≠ .notReady

theorem carriesOwnIdentity_cleared (frame : Bytes) :
    Mka.carriesOwnIdentity Mka.Participant.cleared frame = true ↔
      ClaimsZeroIdentity frame := by
  unfold Mka.carriesOwnIdentity ClaimsZeroIdentity
  cases Mka.parseBasic frame with
  | error ret => simp
  | ok basic =>
      simp only [Mka.isOwnFrame, Bool.or_eq_true, beq_iff_eq,
        compare_octets_eq_zero, Except.ok.injEq, exists_eq_left', or_assoc]
      rfl

theorem serviceMkaOrFail_cleared {ctx : Control}
    (cleared : ctx.mka = Mka.Participant.cleared) :
    ctx.serviceMkaOrFail = (.ok, ctx) := by
  obtain ⟨cfg, state, table, mka, lastTickMs, txMeta, txValid⟩ := ctx
  dsimp only at cleared
  subst cleared
  rfl

/-- The error event closes a context. -/
theorem serviceMkaOrFail_of_error {ctx : Control}
    (raised :
      hasFlag ctx.mka.pendingEvents Mka.EventFlag.error = true) :
    ctx.serviceMkaOrFail.2.state = .error := by
  have present : ctx.mka.pendingEvents ≠ 0 := by
    intro none
    rw [none, hasFlag_zero] at raised
    exact Bool.noConfusion raised
  have processed :
      ctx.processMkaEvents =
        (.state,
          { ctx with
            mka := { ctx.mka with pendingEvents := 0 }
            state := .error }) := by
    rw [Control.processMkaEvents, Mka.Participant.takeEvents]
    dsimp only
    rw [if_neg present, if_pos raised]
  rw [Control.serviceMkaOrFail, Control.serviceMka, processed]

/-- A zero identity is ignored. -/
theorem Undisturbed.inputMka_zero (undisturbed : Undisturbed start ctx)
    {frame : Bytes} (isMka : Mka.isEapolMka frame = true)
    (zero : ClaimsZeroIdentity frame) (rnd : Octets 16) :
    inputMka aes ctx frame rnd = (.ok, ctx) := by
  have own :
      Mka.carriesOwnIdentity ctx.mka.toParticipant frame = true := by
    rw [undisturbed.mka]
    exact (carriesOwnIdentity_cleared frame).mpr zero
  rw [inputMka, Mka.input_own isMka own]
  dsimp only
  rw [Ctx.lift, serviceMkaOrFail_cleared (by
    change ctx.mka.toParticipant = _
    rw [undisturbed.mka]
    rfl)]
  rfl

/-- Every other EAPOL-MKA frame closes the context. -/
theorem Undisturbed.inputMka_closes (undisturbed : Undisturbed start ctx)
    {frame : Bytes} (isMka : Mka.isEapolMka frame = true)
    (foreign : ¬ClaimsZeroIdentity frame) (rnd : Octets 16) :
    (inputMka aes ctx frame rnd).2.state = .error := by
  have closes :
      (Mka.input aes ctx.mka frame rnd ctx.lastTickMs).1 = .ok →
        hasFlag (Mka.input aes ctx.mka frame rnd
          ctx.lastTickMs).2.pendingEvents Mka.EventFlag.error = true := by
    rw [undisturbed.mka]
    obtain ⟨returned, state⟩ :=
      Prod.mk.inj (Mka.input_receive aes Mka.Ctx.cleared frame rnd
        ctx.lastTickMs)
    rw [returned, state]
    rw [← carriesOwnIdentity_cleared] at foreign
    have neverOk := Mka.classify_ne_rejected_ok aes Mka.Ctx.cleared frame
    revert neverOk
    unfold Mka.carriesOwnIdentity at foreign
    unfold Mka.classify
    rw [isMka, if_neg (by decide)]
    rcases parsed : Mka.parseBasic frame with ret | basic
    · exact fun neverOk ok =>
        absurd (congrArg Mka.Received.rejected ok) neverOk
    · rw [parsed] at foreign
      dsimp only at foreign ⊢
      rw [if_neg (by exact foreign)]
      intro _ ok
      obtain ⟨ret, noSak⟩ :=
        @Mka.scanDistributedSak_of_not_kekReady aes MkaCrypto.init rfl frame
      exact Mka.processMkpdu_cleared noSak rnd ctx.lastTickMs ok
  by_cases ok : (Mka.input aes ctx.mka frame rnd ctx.lastTickMs).1 = .ok
  · have raised := closes ok
    unfold inputMka
    revert ok raised
    rcases Mka.input aes ctx.mka frame rnd ctx.lastTickMs with ⟨ret, mka⟩
    intro ok raised
    dsimp only at ok raised
    subst ok
    exact serviceMkaOrFail_of_error raised
  · rw [inputMka_refused ok]

/-! ### Initialisation -/

theorem installRxSak_records (ctx : Control) (key : Bytes) (an : Fin 4)
    (lowestPn : UInt32) :
    ∃ table,
      (ctx.installRxSak key an lowestPn).2 = { ctx with table := table } := by
  cases length : Mka.sakLenValid key.length with
  | true => exact ⟨_, congrArg Prod.snd (Control.installRxSak_eq length an _)⟩
  | false =>
      rw [Control.installRxSak, length]
      exact ⟨ctx.table, rfl⟩

/-- A successful installation leaves a valid transmit association. -/
theorem installTxSak_records (ctx : Control) (key : Bytes) (an : Fin 4) :
    ∃ table,
      (ctx.installTxSak key an).2 = { ctx with table := table } ∧
        ((ctx.installTxSak key an).1 = .ok → table.txSak.valid = true) := by
  cases length : Mka.sakLenValid key.length with
  | true =>
      rw [Control.installTxSak_eq length]
      refine ⟨_, rfl, fun _ => ?_⟩
      unfold txTable
      split
      next held =>
          rw [sakEqual, Bool.and_eq_true, Bool.and_eq_true,
            Bool.and_eq_true] at held
          exact held.1.1.1
      next => rfl
  | false =>
      rw [Control.installTxSak, length]
      exact ⟨ctx.table, rfl, fun ok => Err.noConfusion ok⟩

/-- Installing the static SAK secures a context. -/
theorem installStaticSak_ok {ctx : Control}
    (ok : ctx.installStaticSak.1 = .ok) :
    ∃ table, table.txSak.valid = true ∧
      ctx.installStaticSak.2 =
        { ctx with table := table, state := .secured } := by
  unfold Control.installStaticSak at ok ⊢
  split at ok
  next inRange =>
      rw [dif_pos inRange]
      obtain ⟨received, records⟩ :=
        installRxSak_records ctx ctx.cfg.staticSak
          ⟨ctx.cfg.staticAn.toNat, inRange⟩ 1
      dsimp only at ok ⊢
      split at ok
      next rxCtx result =>
          rw [result] at records
          dsimp only at records
          subst records
          obtain ⟨sent, records, valid⟩ :=
            installTxSak_records { ctx with table := received }
              ctx.cfg.staticSak ⟨ctx.cfg.staticAn.toNat, inRange⟩
          split at ok
          next txCtx result =>
              rw [result] at records valid
              dsimp only at records
              subst records
              exact ⟨sent, valid rfl, rfl⟩
          next failed _ => exact absurd ok failed
      next failed _ => exact absurd ok failed
  next => exact Err.noConfusion ok

/-- A static context starts undisturbed. -/
theorem undisturbed_of_init {cfg : Config} {mi : Octets 12}
    (mode : cfg.mode = .staticSak)
    (initialised : init aes cfg mi = (.ok, start)) :
    Undisturbed start start := by
  unfold init at initialised
  dsimp only at initialised
  rw [show (startCtx cfg).cfg.mode = cfg.mode from rfl, mode] at initialised
  dsimp only at initialised
  split at initialised
  next installed result =>
      cases initialised
      obtain ⟨ok, state⟩ := Prod.mk.inj result
      obtain ⟨table, tx, installed⟩ := installStaticSak_ok ok
      rw [← state, installed]
      exact ⟨mode, rfl, rfl, tx, .refl _⟩
  next failed result =>
      cases initialised
      exact absurd rfl failed

/-! ### Steps -/

/-- A frame that does not belong to the key agreement is never answered by
"not ready" while the context is secured. -/
theorem input_ne_notReady (mode : ctx.cfg.mode ≠ .disabled)
    (secured : ctx.state = .secured) {frame : Bytes}
    (notMka : Mka.isEapolMka frame = false) (plain : Bytes)
    (rnd : Octets 16) :
    (input aes ctx frame plain rnd).2.ret ≠ .notReady := by
  unfold input
  rw [if_neg mode, notMka, if_neg Bool.false_ne_true]
  split
  next =>
      rw [(inputSecure_cases secured frame plain).2.1]
      exact FrameCrypto.decrypt_ne_notReady _ _ _ _
  next =>
      split
      next => exact Err.noConfusion
      next => exact Err.noConfusion

theorem Undisturbed.notDisabled (undisturbed : Undisturbed start ctx) :
    ctx.cfg.mode ≠ .disabled := by
  rw [undisturbed.mode]
  exact Mode.noConfusion

/-- Frame protection keeps a context undisturbed as long as it keeps the
keys. -/
theorem Undisturbed.withFrameCrypto (undisturbed : Undisturbed start ctx)
    {frameCrypto : FrameCrypto.Ctx}
    (keys : ctx.frameCrypto.toSaTable.SameKeys frameCrypto.toSaTable) :
    Undisturbed start { ctx with frameCrypto := frameCrypto } :=
  ⟨undisturbed.mode, undisturbed.state, undisturbed.mka,
    keys.tx.2.2.trans undisturbed.tx, undisturbed.keys.trans keys⟩

/-- A harmless call keeps a static context up. -/
theorem Undisturbed.perform (undisturbed : Undisturbed start ctx) {call : Call}
    (harmless : Harmless call) :
    Undisturbed start (Macsec.perform aes ctx call).1 ∧
      (Macsec.perform aes ctx call).2.ret ≠ .notReady := by
  have mode := undisturbed.notDisabled
  cases call with
  | input frame plain rnd =>
      change Undisturbed start (input aes ctx frame plain rnd).1 ∧
        (input aes ctx frame plain rnd).2.ret ≠ .notReady
      rcases input_cases mode frame plain rnd with
        ⟨isMka, result⟩ | ⟨notMka, secured, result⟩ |
        ⟨notMka, ret, -, result⟩
      · rw [result, undisturbed.inputMka_zero isMka (harmless isMka) rnd]
        exact ⟨undisturbed, Err.noConfusion⟩
      · refine ⟨?_, input_ne_notReady mode secured notMka plain rnd⟩
        rw [result, (inputSecure_cases secured frame plain).1]
        exact undisturbed.withFrameCrypto
          (FrameCrypto.sameKeys_decrypt aes ctx.frameCrypto frame plain)
      · refine ⟨?_, input_ne_notReady mode undisturbed.state notMka plain rnd⟩
        rw [result]
        exact undisturbed
  | output plain txMaxLen =>
      change Undisturbed start (output aes ctx plain txMaxLen).1 ∧
        (output aes ctx plain txMaxLen).2.ret ≠ .notReady
      have result :
          output aes ctx plain txMaxLen =
            ({ ctx with
                frameCrypto :=
                  (FrameCrypto.encrypt aes ctx.frameCrypto plain
                    txMaxLen).2.1 },
              { ret :=
                  (FrameCrypto.encrypt aes ctx.frameCrypto plain txMaxLen).1
                frame :=
                  (FrameCrypto.encrypt aes ctx.frameCrypto plain
                    txMaxLen).2.2
                passToStack := false }) := by
        rw [output, if_neg mode, if_neg (not_not_intro undisturbed.state),
          if_neg (by simp [undisturbed.tx])]
      rw [result]
      exact ⟨undisturbed.withFrameCrypto
          (FrameCrypto.sameKeys_encrypt aes ctx.frameCrypto plain txMaxLen),
        FrameCrypto.encrypt_ne_notReady aes ctx.frameCrypto plain txMaxLen⟩
  | tick nowMs =>
      have idle :
          ctx.control.tick nowMs =
            (.ok, { ctx.control with lastTickMs := nowMs }) := by
        rw [Control.tick, if_neg (by
          change ¬ctx.cfg.mode = .mkaPsk
          rw [undisturbed.mode]
          exact Mode.noConfusion)]
      change Undisturbed start (ctx.withControl (ctx.control.tick nowMs).2) ∧
        (ctx.control.tick nowMs).1 ≠ .notReady
      rw [idle]
      exact ⟨⟨undisturbed.mode, undisturbed.state, undisturbed.mka,
        undisturbed.tx, undisturbed.keys⟩, Err.noConfusion⟩
  | buildControlFrame txMaxLen rnd =>
      have refused :
          Macsec.buildControlFrame aes ctx txMaxLen rnd =
            (ctx, Reply.of .state) := by
        rw [Macsec.buildControlFrame, if_pos (by
          rw [undisturbed.mode]
          exact Mode.noConfusion)]
      change Undisturbed start (buildControlFrame aes ctx txMaxLen rnd).1 ∧
        (buildControlFrame aes ctx txMaxLen rnd).2.ret ≠ .notReady
      rw [refused]
      exact ⟨undisturbed, Err.noConfusion⟩
  | notifyControlTxSuccess nowMs =>
      have refused :
          ctx.control.notifyControlTxSuccess nowMs = (.state, ctx.control) := by
        rw [Control.notifyControlTxSuccess, if_pos (by
          change ctx.cfg.mode ≠ .mkaPsk
          rw [undisturbed.mode]
          exact Mode.noConfusion)]
      change Undisturbed start
          (ctx.withControl (ctx.control.notifyControlTxSuccess nowMs).2) ∧
        (ctx.control.notifyControlTxSuccess nowMs).1 ≠ .notReady
      rw [refused]
      exact ⟨undisturbed, Err.noConfusion⟩
  | notifyControlTxFailure =>
      have refused :
          ctx.control.notifyControlTxFailure = (.state, ctx.control) := by
        rw [Control.notifyControlTxFailure, if_pos (by
          change ctx.cfg.mode ≠ .mkaPsk
          rw [undisturbed.mode]
          exact Mode.noConfusion)]
      change Undisturbed start
          (ctx.withControl ctx.control.notifyControlTxFailure.2) ∧
        ctx.control.notifyControlTxFailure.1 ≠ .notReady
      rw [refused]
      exact ⟨undisturbed, Err.noConfusion⟩

/-- Any other call closes it. -/
theorem Undisturbed.perform_closes (undisturbed : Undisturbed start ctx)
    {call : Call} (harmful : ¬Harmless call) :
    (Macsec.perform aes ctx call).1.state = .error := by
  cases call with
  | input frame plain rnd =>
      obtain ⟨isMka, foreign⟩ := Classical.not_imp.mp harmful
      change (input aes ctx frame plain rnd).1.state = .error
      rw [input_of_isEapolMka undisturbed.notDisabled isMka]
      exact undisturbed.inputMka_closes isMka foreign rnd
  | output | tick | buildControlFrame | notifyControlTxSuccess
  | notifyControlTxFailure => exact absurd trivial harmful

/-! ### Runs -/

/-- An undisturbed context stays up over a run exactly if all calls are
harmless. -/
theorem Undisturbed.staysUp_iff (undisturbed : Undisturbed start ctx)
    (calls : List Call) :
    (∀ event ∈ (machine aes).events ctx calls, StaysUp start event) ↔
      ∀ call ∈ calls, Harmless call := by
  induction calls generalizing ctx with
  | nil => simp
  | cons call calls inductionHypothesis =>
      rw [Transition.Machine.events, List.forall_mem_cons,
        List.forall_mem_cons]
      by_cases harmless : Harmless call
      · obtain ⟨next, ready⟩ :=
          @Undisturbed.perform aes _ _ undisturbed _ harmless
        have up : StaysUp start ((machine aes).event ctx call) :=
          ⟨next.state, next.keys, ready⟩
        have rest := inductionHypothesis next
        constructor
        · exact fun stays => ⟨harmless, rest.mp stays.2⟩
        · exact fun survives => ⟨up, rest.mpr survives.2⟩
      · have closed :=
          @Undisturbed.perform_closes aes _ _ undisturbed _ harmless
        constructor
        · intro stays
          have up : (Macsec.perform aes ctx call).1.state = .secured :=
            stays.1.1
          rw [closed] at up
          exact State.noConfusion up
        · exact fun survives => absurd survives.1 harmless

/-- A static context stays secured with its keys, and never answers "not
ready", exactly if every EAPOL-MKA frame it receives claims an all-zero
identity. -/
theorem static_staysUp_iff {cfg : Config} {mi : Octets 12}
    (mode : cfg.mode = .staticSak)
    (initialised : init aes cfg mi = (.ok, start)) (calls : List Call) :
    (∀ event ∈ (machine aes).events start calls, StaysUp start event) ↔
      ∀ call ∈ calls, Harmless call :=
  (undisturbed_of_init mode initialised).staysUp_iff calls

/-- A configuration with a static SAK. -/
def staticConfig (localMac : Octets 6) : Config where
  mode := .staticSak
  localMac := localMac
  portId := 1
  cak := []
  ckn := []
  staticSak := List.replicate 16 1
  staticAn := 0
  replayProtect := true
  replayWindow := 64
  keyServerPriority := 0
  mkaTxIntervalMs := 0

theorem init_staticConfig (aes : BlockCipher) (localMac : Octets 6)
    (mi : Octets 12) :
    init aes (staticConfig localMac) mi =
      (.ok, (init aes (staticConfig localMac) mi).2) := rfl

theorem not_harmless_headerFrame (plain : Bytes) (rnd : Octets 16) :
    ¬Harmless (.input headerFrame plain rnd) := by
  intro harmless
  rw [Harmless, ← carriesOwnIdentity_cleared] at harmless
  exact absurd (harmless (by decide)) (by decide)

/-- A bare header closes a static context. -/
theorem not_staysUp_headerFrame :
    ¬∀ event ∈
        (machine BlockCipher.null).events
          (init BlockCipher.null (staticConfig (Octets.zero 6))
            (Octets.zero 12)).2
          [.input headerFrame [] (Octets.zero 16)],
      StaysUp
        (init BlockCipher.null (staticConfig (Octets.zero 6))
          (Octets.zero 12)).2
        event :=
  fun stays =>
    not_harmless_headerFrame [] (Octets.zero 16)
      ((static_staysUp_iff rfl (init_staticConfig BlockCipher.null _ _) _).mp
        stays _ (List.mem_singleton.mpr rfl))

/-- Under no cipher do all static contexts stay up. -/
theorem not_forall_static_staysUp :
    ¬∃ aes, ∀ (cfg : Config) (mi : Octets 12) (start : Ctx)
      (calls : List Call), cfg.mode = .staticSak →
        init aes cfg mi = (.ok, start) →
          ∀ event ∈ (machine aes).events start calls, StaysUp start event := by
  rintro ⟨aes, stays⟩
  have initialised := init_staticConfig aes (Octets.zero 6) (Octets.zero 12)
  have undisturbed := undisturbed_of_init rfl initialised
  exact not_harmless_headerFrame [] (Octets.zero 16)
    ((undisturbed.staysUp_iff [.input headerFrame [] (Octets.zero 16)]).mp
      (stays (staticConfig _) _ _ _ rfl initialised) _
        (List.mem_singleton.mpr rfl))

end Macsec
