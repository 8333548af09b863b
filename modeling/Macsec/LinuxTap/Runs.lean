import Macsec.Api.FailClosed
import Macsec.Api.Identities
import Macsec.Api.Reporting
import Macsec.LinuxTap.Defs

/-!
# Runs of the Linux TAP program

The program reports on every control frame right after it was built, so no
report fails and no frame is pending between two rounds.  What it hands over to
the physical interface is protected or belongs to the key agreement, what it
hands over to the TAP was opened, and it leaves its loop on a signal, on an
error of the operating system, or when a foreign SAK stands in the way of its
control frames.
-/

namespace Macsec

variable {aes : BlockCipher} {ctx : Ctx}

/-! ## A control frame and its report -/

theorem pending_input (resting : ctx.control.Resting) (frame plain : Bytes)
    (rnd : Octets 16) :
    (input aes ctx frame plain rnd).1.pendingMkaTxValid =
      ctx.pendingMkaTxValid := by
  rcases @input_cases aes ctx (notDisabled_of_resting resting) frame plain
      rnd with
    ⟨-, result⟩ | ⟨-, secured, result⟩ | ⟨-, ret, -, result⟩
  · rw [result]
    have received := congrArg Prod.snd (@inputMka_receive aes ctx frame rnd)
    change (inputMka aes ctx frame rnd).2.control.pendingMkaTxValid = _
    rw [show (inputMka aes ctx frame rnd).2.control = _ from received]
    rcases Control.receiveMka_cases resting _
        (Mka.classify_ne_rejected_ok aes ctx.mka frame) rnd with
      ⟨-, -, outcome⟩ | ⟨-, -, outcome⟩
    · rw [outcome]
      rfl
    · rw [outcome]
      exact Control.serviced_rest.2.2.2
  · rw [result, (inputSecure_cases secured frame plain).1]
  · rw [result]

theorem pending_tick (resting : ctx.control.Resting) (nowMs : UInt32) :
    (ctx.control.tick nowMs).1 = .ok ∧
      (ctx.control.tick nowMs).2.pendingMkaTxValid =
        ctx.pendingMkaTxValid := by
  rw [Control.tick_eq resting nowMs]
  exact ⟨rfl, Control.serviced_rest.2.2.2⟩

/-- A control frame that can not be built was not due, or a foreign SAK stands
in its way; then none is pending either. -/
theorem buildControlFrame_failed (resting : ctx.control.Resting)
    (keyed : ctx.mka.crypto.Keyed) (idle : ctx.pendingMkaTxValid = false)
    {rnd : Octets 16}
    (failed : (buildControlFrame aes ctx Mka.maxFrameLen rnd).2.ret ≠ .ok) :
    (buildControlFrame aes ctx Mka.maxFrameLen rnd).1.pendingMkaTxValid =
        false ∧
      ((buildControlFrame aes ctx Mka.maxFrameLen rnd).2.ret = .notReady ∨
        (ctx.mka.txReasons ≠ 0 ∧ ctx.mka.ServesForeignSak)) := by
  have mode : ctx.cfg.mode = .mkaPsk := resting.mode
  have valid : ctx.mka.crypto.keys.valid = true := by
    have ready := keyed.ick
    simp only [MkaCrypto.ickReady, Bool.and_eq_true] at ready
    exact ready.1
  constructor
  · rw [buildControlFrame, if_neg (not_not_intro mode), idle,
      if_neg Bool.false_ne_true] at failed ⊢
    revert failed
    rcases Mka.buildTxFrame aes ctx.mka rnd Mka.maxFrameLen with
      ⟨ret, mka, frame, txMeta⟩
    intro failed
    cases ret with
    | ok => exact absurd rfl failed
    | param | buffer | crypto | state | replay | unsupported | auth
    | timeout | notReady | busy => rfl
  · by_cases due : ctx.mka.txReasons = 0
    · refine Or.inl ?_
      rw [buildControlFrame, if_neg (not_not_intro mode), idle,
        if_neg Bool.false_ne_true, Mka.buildTxFrame, valid,
        if_neg (by decide), if_pos due]
      rfl
    · refine Or.inr ⟨due, ?_⟩
      by_contra own
      exact failed (buildControlFrame_of_own resting keyed due idle
        (Nat.le_refl 512) own rnd).1

/-- The report on a control frame that was just built succeeds. -/
theorem report_after_build (reachable : Reachable aes .mkaPsk ctx)
    {txMaxLen : Nat} {rnd : Octets 16}
    (built : (buildControlFrame aes ctx txMaxLen rnd).2.ret = .ok)
    (nowMs : UInt32) :
    ReportSucceeds aes (buildControlFrame aes ctx txMaxLen rnd).1 nowMs := by
  have resting := reachable.resting
  have accounted := reachable.accounted.ensureForTx rnd
  have result := (buildControlFrame_ok resting reachable.keyed.1 built).2
  have due : ctx.mka.txReasons ≠ 0 := by
    rcases @buildControlFrame_cases aes ctx resting reachable.keyed.1 txMaxLen
        rnd with
      ⟨failed, -⟩ | ⟨due, -⟩
    · exact absurd built failed
    · exact due
  have rests :=
    @perform_resting aes ctx resting (.buildControlFrame txMaxLen rnd)
  change (buildControlFrame aes ctx txMaxLen rnd).1.control.Resting at rests
  generalize (buildControlFrame aes ctx txMaxLen rnd).1 = start
    at result rests ⊢
  have mka : start.mka.toParticipant =
      (ctx.mka.toParticipant.ensureForTx rnd).2 :=
    congrArg Control.mka result
  have pendingMeta :
      start.pendingMkaTxMeta = start.mka.toParticipant.txMeta := by
    rw [mka]
    exact congrArg Control.pendingMkaTxMeta result
  have awaits :
      Awaits start.mka.toParticipant.txMeta start.mka.counters
        start.control :=
    ⟨rests, congrArg Control.pendingMkaTxValid result, pendingMeta, rfl, rfl⟩
  refine (awaits.reportSucceeds_iff ?_ ?_ nowMs).mpr ?_
  · rw [mka]
    exact (Mka.Participant.schedules_ensureForTx rnd).due due
  · rw [mka]
    exact accounted.reasons
  · exact Mka.Participant.offers_txMeta

/-- A control frame that was built belongs to the key agreement. -/
theorem isEapolMka_buildControlFrame (resting : ctx.control.Resting)
    (keyed : ctx.mka.crypto.Keyed) {txMaxLen : Nat} {rnd : Octets 16}
    (built : (buildControlFrame aes ctx txMaxLen rnd).2.ret = .ok) :
    Mka.isEapolMka (buildControlFrame aes ctx txMaxLen rnd).2.frame = true := by
  have layout := (buildControlFrame_ok resting keyed built).1
  have shape :=
    (Mka.Participant.ensureForTx_keeps resting.mka.inv rnd).inv.latest
  obtain ⟨wrapped, icv, result, writes, -⟩ :=
    Mka.Participant.exists_buildFrame aes keyed shape
      (Mka.Participant.txMicLen_fits shape keyed.ckn)
  have same := Except.ok.inj (layout.symm.trans result)
  rw [same, Mka.Participant.frameWith_eq_layFrame writes]
  exact (Mka.Participant.parse_layFrame writes.laid icv).1

theorem long_of_isEapolMka {frame : Bytes}
    (isMka : Mka.isEapolMka frame = true) : 18 ≤ frame.length := by
  unfold Mka.isEapolMka at isMka
  split at isMka
  next => exact Bool.noConfusion isMka
  next long => exact Nat.not_lt.mp long

theorem FrameCrypto.long_sealFrame (aes : BlockCipher) (key : Bytes)
    (an : Fin 4) (pn : UInt32) (sci : Octets 8) (plain : Bytes) :
    aadLen ≤ (sealFrame aes key an pn sci plain).length := by
  rw [sealFrame, List.append_assoc, List.length_append, length_aad]
  exact Nat.le_add_right _ _

namespace LinuxTap

variable {mode : Mode} {daemon : Daemon} {round : Round}

/-! ## Steps -/

/-- The mode of the context that the program works with. -/
def Mode.context : Mode → Macsec.Mode
  | .mkaPsk => .mkaPsk
  | .staticSak => .staticSak

/-- What holds between the steps of the loop.  Every frame that was read from
the TAP is accounted for. -/
structure Settled (aes : BlockCipher) (mode : Mode) (daemon : Daemon) :
    Prop where
  reachable : Reachable aes mode.context daemon.macsec
  idle : mode = .mkaPsk → daemon.macsec.pendingMkaTxValid = false
  counted : daemon.stats.tapRx =
    daemon.stats.rawTx + daemon.stats.rawTxDropped +
      daemon.stats.encryptErrors

/-- Where a frame that is handed over comes from: the key agreement built it, or
a context sealed what was read from the TAP, or it opened what arrived from
elsewhere. -/
inductive Justified (aes : BlockCipher) (mode : Mode) (round : Round) :
    Action → Prop
  | control {ctx : Ctx} {frame : Bytes} (keyed : mode = .mkaPsk)
      (reachable : Reachable aes .mkaPsk ctx)
      (built :
        (buildControlFrame aes ctx Mka.maxFrameLen round.controlRnd).2.ret =
          .ok)
      (same : frame =
        (buildControlFrame aes ctx Mka.maxFrameLen round.controlRnd).2.frame)
      (isMka : Mka.isEapolMka frame = true) :
      Justified aes mode round (.control frame)
  | secure {ctx : Ctx} {octets : Bytes} {reply : Reply}
      (reachable : Reachable aes mode.context ctx)
      (read : round.tap = .done octets)
      (sent : Sent aes ctx (octets.take frameMax) reply) :
      Justified aes mode round (.secure reply.frame)
  | write {ctx : Ctx} {octets : Bytes} {reply : Reply}
      (reachable : Reachable aes mode.context ctx)
      (received : .frame octets false ∈ round.arrivals)
      (opened : Opened aes ctx (octets.take frameMax) reply) :
      Justified aes mode round (.write reply.frame)

/-- The call that takes a frame fails or does not take all of it. -/
def Answer.Faults (answer : Answer Nat) (frame : Bytes) : Prop :=
  answer = .failed ∨ ∃ count, answer = .done count ∧ count ≠ frame.length

/-- The operating system reports an error in the course of a round. -/
inductive Round.Faulty (round : Round) (actions : List Action) : Prop
  | poll (failed : round.polled = .failed)
  | hangup {tap physical : Revents}
      (ready : round.polled = .ready tap physical)
      (error : tap.error = true ∨ physical.error = true)
  | read (failed : round.tap = .failed)
  | receive (failed : .failed ∈ round.arrivals)
  | control {frame : Bytes} (acts : .control frame ∈ actions)
      (faults : round.controlSent.Faults frame)
  | secure {frame : Bytes} (acts : .secure frame ∈ actions)
      (faults : round.plainSent.Faults frame)
  | write {frame : Bytes} (acts : .write frame ∈ actions)
      (faults : round.written.Faults frame)

/-- A foreign SAK stands in the way of the control frame that is due. -/
def Blocked (mode : Mode) (daemon : Daemon) (nowMs : UInt32) : Prop :=
  let ticked := (daemon.macsec.control.tick nowMs).2
  mode = .mkaPsk ∧ ticked.mka.txReasons ≠ 0 ∧ ticked.mka.ServesForeignSak

/-- A step keeps what holds between steps, hands over justified frames only, and
fails for a reason. -/
structure Outcome.Fine (aes : BlockCipher) (mode : Mode) (round : Round)
    (blocked : Prop) (outcome : Outcome) : Prop where
  settled : outcome.ok = true → Settled aes mode outcome.daemon
  justified : ∀ action ∈ outcome.actions, Justified aes mode round action
  fails : outcome.ok = false → round.Faulty outcome.actions ∨ blocked

theorem Round.Faulty.mono {actions more : List Action}
    (faulty : round.Faulty actions) (subset : actions ⊆ more) :
    round.Faulty more := by
  cases faulty with
  | poll failed => exact .poll failed
  | hangup ready error => exact .hangup ready error
  | read failed => exact .read failed
  | receive failed => exact .receive failed
  | control acts faults => exact .control (subset acts) faults
  | secure acts faults => exact .secure (subset acts) faults
  | write acts faults => exact .write (subset acts) faults

theorem Outcome.Fine.andThen {blocked : Prop} {outcome : Outcome}
    (first : outcome.Fine aes mode round blocked) {next : Daemon → Outcome}
    (second : ∀ daemon, Settled aes mode daemon →
      (next daemon).Fine aes mode round blocked) :
    (outcome.andThen next).Fine aes mode round blocked := by
  unfold Outcome.andThen
  split
  next ok =>
      obtain ⟨settled, justified, fails⟩ := second _ (first.settled ok)
      refine ⟨settled, fun action member => ?_, fun failed => ?_⟩
      · exact (List.mem_append.mp member).elim (first.justified action)
          (justified action)
      · exact (fails failed).imp_left fun faulty =>
          faulty.mono (List.subset_append_right _ _)
  next => exact first

/-- A step that only returns is fine. -/
theorem Settled.returns (settled : Settled aes mode daemon) {ok : Bool}
    {blocked : Prop} (fails : ok = false → round.Faulty [] ∨ blocked) :
    (daemon.returns ok).Fine aes mode round blocked :=
  ⟨fun _ => settled, fun _ none => absurd none List.not_mem_nil, fails⟩

/-- A frame that is long enough is refused only by the operating system. -/
theorem faults_of_transfer {least : Nat} {frame : Bytes}
    {answer : Answer Nat} (long : least ≤ frame.length)
    (failed : transfer least frame answer = .failed) :
    answer.Faults frame := by
  unfold transfer at failed
  rw [if_neg (Nat.not_lt.mpr long)] at failed
  cases answer with
  | failed => exact Or.inl rfl
  | again => cases failed
  | done count =>
      refine Or.inr ⟨count, rfl, fun same => ?_⟩
      dsimp only at failed
      rw [if_neg (not_not_intro same)] at failed
      cases failed

theorem enabled (mode : Mode) : mode.context ≠ .disabled := by
  cases mode <;> exact Macsec.Mode.noConfusion

theorem Settled.steady (settled : Settled aes mode daemon) :
    daemon.macsec.frameCrypto.Cached aes ∧
      daemon.macsec.cfg.mode ≠ .disabled := by
  obtain ⟨start, same, steady⟩ := settled.reachable.steady (enabled mode)
  refine ⟨steady.cached, ?_⟩
  rw [steady.cfg, same]
  exact enabled mode

/-- Handing over a protected frame is fine. -/
theorem fine_sendSecure {macsec : Ctx} {stats : Stats} {frame : Bytes}
    {blocked : Prop} (reachable : Reachable aes mode.context macsec)
    (idle : mode = .mkaPsk → macsec.pendingMkaTxValid = false)
    (counted :
      stats.tapRx =
        stats.rawTx + stats.rawTxDropped + stats.encryptErrors + 1)
    (justified : Justified aes mode round (.secure frame))
    (long : ethHlen ≤ frame.length) :
    (sendSecure ⟨macsec, stats⟩ frame round.plainSent).Fine aes mode round
      blocked := by
  have all : ∀ action ∈ [Action.secure frame],
      Justified aes mode round action :=
    List.forall_mem_singleton.mpr justified
  unfold sendSecure
  cases sent : rawSend frame round.plainSent with
  | failed =>
      exact ⟨Bool.noConfusion, all, fun _ =>
        Or.inl (.secure List.mem_cons_self (faults_of_transfer long sent))⟩
  | again =>
      refine ⟨fun _ => ⟨reachable, idle, ?_⟩, all, Bool.noConfusion⟩
      dsimp only [Daemon.withStats]
      rw [counted]
      ac_rfl
  | done count =>
      refine ⟨fun _ => ⟨reachable, idle, ?_⟩, all, Bool.noConfusion⟩
      dsimp only [Daemon.withStats]
      rw [counted]
      ac_rfl

/-- What a context yields with success was sealed. -/
theorem sent_of_ok (cached : ctx.frameCrypto.Cached aes)
    (enabled : ctx.cfg.mode ≠ .disabled) {plain : Bytes} {txMaxLen : Nat}
    (ok : (output aes ctx plain txMaxLen).2.ret = .ok) :
    Sent aes ctx plain (output aes ctx plain txMaxLen).2 := by
  rcases @output_cases aes ctx enabled plain txMaxLen with
    ⟨ret, failed, result⟩ | ⟨secured, result⟩
  · rw [result] at ok
    exact absurd ok failed
  · rw [result] at ok ⊢
    rcases FrameCrypto.encrypt_cases aes ctx.frameCrypto plain txMaxLen with
      ⟨failed, -⟩ | ⟨-, valid, -⟩
    · exact absurd ok failed
    · exact ⟨ok, secured, valid, (FrameCrypto.encrypt_ok cached ok).2.2⟩

theorem pending_output (ctx : Ctx) (plain : Bytes) (txMaxLen : Nat) :
    (output aes ctx plain txMaxLen).1.pendingMkaTxValid =
      ctx.pendingMkaTxValid := by
  unfold output
  split_ifs
  all_goals rfl

/-- Sending a frame of the TAP is fine. -/
theorem Settled.processPlain (settled : Settled aes mode daemon)
    {blocked : Prop} :
    (LinuxTap.processPlain aes daemon round.tap round.plainSent).Fine aes mode
      round blocked := by
  obtain ⟨cached, enabled⟩ := settled.steady
  unfold LinuxTap.processPlain tapRead
  cases read : round.tap with
  | failed => exact settled.returns fun _ => Or.inl (.read read)
  | again => exact settled.returns Bool.noConfusion
  | done octets =>
      dsimp only
      split
      next => exact settled.returns Bool.noConfusion
      next =>
          have moved := settled.reachable.final
            [.output (octets.take frameMax) frameMax]
          have idle : mode = .mkaPsk →
              (output aes daemon.macsec (octets.take frameMax)
                frameMax).1.pendingMkaTxValid = false := by
            rw [pending_output]
            exact settled.idle
          split
          next =>
              refine Settled.returns ⟨moved, idle, ?_⟩ Bool.noConfusion
              dsimp only [Daemon.withStats]
              rw [settled.counted]
              ac_rfl
          next ok =>
              have sent := sent_of_ok cached enabled (not_not.mp ok)
              refine fine_sendSecure moved idle ?_
                (.secure settled.reachable read sent) ?_
              · dsimp only
                rw [settled.counted]
              · have long := FrameCrypto.long_sealFrame aes
                  daemon.macsec.frameCrypto.txSak.key
                  daemon.macsec.frameCrypto.txSak.an
                  daemon.macsec.frameCrypto.txSak.nextPn
                  daemon.macsec.frameCrypto.localSci (octets.take frameMax)
                rw [← sent.isSealed] at long
                exact Nat.le_trans (by decide) long

/-- Handing over a frame that was opened is fine. -/
theorem fine_writePlain (settled : Settled aes mode daemon) {frame : Bytes}
    {blocked : Prop} (justified : Justified aes mode round (.write frame))
    (long : 1 ≤ frame.length) :
    (writePlain daemon frame round.written).Fine aes mode round blocked := by
  have all : ∀ action ∈ [Action.write frame],
      Justified aes mode round action :=
    List.forall_mem_singleton.mpr justified
  obtain ⟨reachable, idle, counted⟩ := settled
  unfold writePlain
  cases written : tapWrite frame round.written with
  | failed =>
      exact ⟨Bool.noConfusion, all, fun _ =>
        Or.inl (.write List.mem_cons_self (faults_of_transfer long written))⟩
  | again =>
      exact ⟨fun _ => ⟨reachable, idle, counted⟩, all, Bool.noConfusion⟩
  | done count =>
      exact ⟨fun _ => ⟨reachable, idle, counted⟩, all, Bool.noConfusion⟩

/-- What is received arrived from elsewhere, and was truncated. -/
theorem arrived_of_rawReceive {frameCapacity : Nat}
    {arrivals : List Arrival} {frame : Bytes}
    (received : rawReceive frameCapacity arrivals = .done frame) :
    ∃ octets, .frame octets false ∈ arrivals ∧
      frame = octets.take frameCapacity := by
  induction arrivals with
  | nil => cases received
  | cons arrival arrivals inductionHypothesis =>
      have skipped
          (later : rawReceive frameCapacity arrivals = .done frame) :
          ∃ octets, Arrival.frame octets false ∈ arrival :: arrivals ∧
            frame = octets.take frameCapacity := by
        obtain ⟨octets, member, same⟩ := inductionHypothesis later
        exact ⟨octets, List.mem_cons_of_mem _ member, same⟩
      cases arrival with
      | failed => cases received
      | again => cases received
      | frame octets outgoing =>
          rw [rawReceive] at received
          split_ifs at received with sent other
          · exact skipped received
          · exact skipped received
          · cases received
            rw [Bool.not_eq_true] at sent
            exact ⟨octets, sent ▸ List.mem_cons_self, rfl⟩

theorem failed_of_rawReceive {frameCapacity : Nat} {arrivals : List Arrival}
    (failed : rawReceive frameCapacity arrivals = .failed) :
    .failed ∈ arrivals := by
  induction arrivals with
  | nil => cases failed
  | cons arrival arrivals inductionHypothesis =>
      cases arrival with
      | failed => exact List.mem_cons_self
      | again => cases failed
      | frame octets outgoing =>
          rw [rawReceive] at failed
          split_ifs at failed
          · exact List.mem_cons_of_mem _ (inductionHypothesis failed)
          · exact List.mem_cons_of_mem _ (inductionHypothesis failed)

theorem Stats.received_counts (stats : Stats) (etherType : UInt16) :
    (stats.received etherType).tapRx = stats.tapRx ∧
      (stats.received etherType).rawTx = stats.rawTx ∧
      (stats.received etherType).rawTxDropped = stats.rawTxDropped ∧
      (stats.received etherType).encryptErrors = stats.encryptErrors := by
  unfold Stats.received
  split_ifs
  all_goals exact ⟨rfl, rfl, rfl, rfl⟩

/-- Receiving a frame of the physical interface is fine. -/
theorem Settled.processPhysical (settled : Settled aes mode daemon)
    {blocked : Prop} :
    (LinuxTap.processPhysical aes daemon round.arrivals round.buffer
      round.inputRnd round.written).Fine aes mode round blocked := by
  obtain ⟨cached, enabled⟩ := settled.steady
  unfold LinuxTap.processPhysical
  cases received : rawReceive frameMax round.arrivals with
  | failed =>
      exact settled.returns fun _ =>
        Or.inl (.receive (failed_of_rawReceive received))
  | again => exact settled.returns Bool.noConfusion
  | done frame =>
      obtain ⟨octets, arrived, same⟩ := arrived_of_rawReceive received
      subst same
      dsimp only
      split
      next => exact settled.returns Bool.noConfusion
      next =>
          have moved := settled.reachable.final
            [.input (octets.take frameMax) round.buffer.1 round.inputRnd]
          have idle : mode = .mkaPsk →
              (input aes daemon.macsec (octets.take frameMax) round.buffer.1
                round.inputRnd).1.pendingMkaTxValid = false := by
            rintro rfl
            exact (pending_input settled.reachable.resting _ _ _).trans
              (settled.idle rfl)
          have after : Settled aes mode
              ⟨(input aes daemon.macsec (octets.take frameMax) round.buffer.1
                  round.inputRnd).1,
                daemon.stats.received (rdBe16 (octets.take frameMax) 12)⟩ := by
            refine ⟨moved, idle, ?_⟩
            obtain ⟨tapRx, rawTx, dropped, errors⟩ :=
              daemon.stats.received_counts (rdBe16 (octets.take frameMax) 12)
            dsimp only
            rw [tapRx, rawTx, dropped, errors]
            exact settled.counted
          split
          next =>
              refine Settled.returns ?_ Bool.noConfusion
              exact ⟨after.reachable, after.idle, after.counted⟩
          next =>
              split
              next => exact after.returns Bool.noConfusion
              next passed =>
                  have opened := opened_of_passed cached enabled
                    (by simpa using passed)
                  refine fine_writePlain after
                    (.write settled.reachable arrived opened) ?_
                  obtain ⟨payload, -, content⟩ := opened.opens
                  rw [content, List.length_append, (Bytes.slice _ 0 12).2]
                  omega

/-- Handing over a control frame that was just built is fine. -/
theorem fine_sendControl {macsec : Ctx} {stats : Stats} {blocked : Prop}
    (reachable : Reachable aes .mkaPsk macsec)
    (built :
      (buildControlFrame aes macsec Mka.maxFrameLen round.controlRnd).2.ret =
        .ok)
    (counted :
      stats.tapRx = stats.rawTx + stats.rawTxDropped + stats.encryptErrors) :
    let build :=
      buildControlFrame aes macsec Mka.maxFrameLen round.controlRnd
    (sendControl ⟨build.1, stats⟩ build.2.frame round.nowMs
      round.controlSent).Fine aes .mkaPsk round blocked := by
  intro build
  have resting := reachable.resting
  have keyed := reachable.keyed.1
  have isMka := isEapolMka_buildControlFrame resting keyed built
  have all : ∀ action ∈ [Action.control build.2.frame],
      Justified aes .mkaPsk round action :=
    List.forall_mem_singleton.mpr (.control rfl reachable built rfl isMka)
  have after : Reachable aes .mkaPsk build.1 :=
    reachable.final [.buildControlFrame Mka.maxFrameLen round.controlRnd]
  have state := (buildControlFrame_ok resting keyed built).2
  have pending : build.1.pendingMkaTxValid = true :=
    congrArg Control.pendingMkaTxValid state
  have returned : build.1.control.notifyControlTxFailure =
      (.ok,
        { build.1.control with
          mka := build.1.mka.notifyTxFailure
            build.1.pendingMkaTxMeta }.clearPending) := by
    rw [Control.notifyControlTxFailure,
      if_neg (not_not_intro after.resting.mode)]
    change (if !build.1.pendingMkaTxValid then _ else _) = _
    rw [pending]
    rfl
  unfold sendControl
  cases sent : rawSend build.2.frame round.controlSent with
  | failed =>
      have long := long_of_isEapolMka isMka
      refine ⟨Bool.noConfusion, all, fun _ =>
        Or.inl (.control List.mem_cons_self (faults_of_transfer ?_ sent))⟩
      exact Nat.le_trans (by decide) long
  | again =>
      have settled : Settled aes .mkaPsk
          ⟨(build.1.lift Control.notifyControlTxFailure).2, stats⟩ := by
        refine ⟨after.final [.notifyControlTxFailure], fun _ => ?_, counted⟩
        exact congrArg (fun result => result.2.pendingMkaTxValid) returned
      refine ⟨fun _ => settled, all, fun failed => ?_⟩
      exact absurd (congrArg Prod.fst returned) (of_decide_eq_false failed)
  | done count =>
      obtain ⟨ok, idle, -⟩ := report_after_build reachable built round.nowMs
      have settled : Settled aes .mkaPsk
          ⟨(build.1.lift (·.notifyControlTxSuccess round.nowMs)).2, stats⟩ :=
        ⟨after.final [.notifyControlTxSuccess round.nowMs], fun _ => idle,
          counted⟩
      refine ⟨fun _ => settled, all, fun failed => ?_⟩
      exact absurd ok (of_decide_eq_false failed)

/-- Servicing the key agreement is fine, or a foreign SAK blocks it. -/
theorem Settled.macsecControlService (settled : Settled aes .mkaPsk daemon) :
    (LinuxTap.macsecControlService aes daemon round.nowMs round.controlRnd
      round.controlSent).Fine aes .mkaPsk round
        (Blocked .mkaPsk daemon round.nowMs) := by
  obtain ⟨ok, pending⟩ :=
    pending_tick settled.reachable.resting round.nowMs
  have ticked : Reachable aes .mkaPsk
      (daemon.macsec.lift (·.tick round.nowMs)).2 :=
    settled.reachable.final [.tick round.nowMs]
  have idle :
      (daemon.macsec.lift (·.tick round.nowMs)).2.pendingMkaTxValid = false :=
    pending.trans (settled.idle rfl)
  unfold LinuxTap.macsecControlService
  dsimp only
  rw [if_neg (not_not_intro (by exact ok))]
  have failed :
      (buildControlFrame aes (daemon.macsec.lift (·.tick round.nowMs)).2
        Mka.maxFrameLen round.controlRnd).2.ret ≠ .ok → _ :=
    buildControlFrame_failed ticked.resting ticked.keyed.1 idle
  split
  next waits =>
      have refused := failed (by rw [waits]; exact Err.noConfusion)
      refine Settled.returns ?_ Bool.noConfusion
      exact ⟨ticked.final [.buildControlFrame Mka.maxFrameLen
        round.controlRnd], fun _ => refused.1, settled.counted⟩
  next due =>
      split
      next refused =>
          obtain ⟨still, foreign⟩ := failed refused
          refine Settled.returns ?_ fun _ => Or.inr ?_
          · exact ⟨ticked.final [.buildControlFrame Mka.maxFrameLen
              round.controlRnd], fun _ => still, settled.counted⟩
          · exact ⟨rfl, foreign.resolve_left due⟩
      next built =>
          exact fine_sendControl ticked (not_not.mp built) settled.counted

/-! ## Rounds -/

/-- What is done between two calls of `poll` is fine, or a foreign SAK blocks
it. -/
theorem Settled.steps (settled : Settled aes mode daemon) :
    (round.steps aes mode daemon).Fine aes mode round
      (Blocked mode daemon round.nowMs) := by
  have serviced :
      (if mode = .mkaPsk then
        LinuxTap.macsecControlService aes daemon round.nowMs round.controlRnd
          round.controlSent
      else
        daemon.returns true).Fine aes mode round
          (Blocked mode daemon round.nowMs) := by
    split
    next keyed =>
        subst keyed
        exact settled.macsecControlService
    next => exact settled.returns Bool.noConfusion
  unfold Round.steps
  cases polled : round.polled with
  | interrupted | failed | timeout => exact serviced
  | ready tap physical =>
      refine serviced.andThen fun daemon settled => ?_
      refine Outcome.Fine.andThen (settled.returns fun failed => ?_) ?_
      · refine Or.inl (.hangup polled ?_)
        simpa [imp_iff_not_or] using failed
      · intro daemon settled
        refine Outcome.Fine.andThen ?_ ?_
        · split
          next => exact settled.processPlain
          next => exact settled.returns Bool.noConfusion
        · intro daemon settled
          split
          next => exact settled.processPhysical
          next => exact settled.returns Bool.noConfusion

/-- A signal asks the program to stop. -/
def Round.Stopped (round : Round) : Prop :=
  round.running = false ∨ round.polled = .interrupted false

/-- A round stops the program, ends with an error of `poll`, does nothing, or
takes the steps of the loop. -/
theorem turn_cases (aes : BlockCipher) (mode : Mode) (daemon : Daemon)
    (round : Round) :
    (round.Stopped ∧
      turn aes mode daemon round = (.leaves daemon .success, [])) ∨
    ¬round.Stopped ∧
      ((round.polled = .failed ∧
        turn aes mode daemon round = (.leaves daemon .failure, [])) ∨
      turn aes mode daemon round = (⟨daemon, none⟩, []) ∨
      turn aes mode daemon round =
        (⟨(round.steps aes mode daemon).daemon,
          if (round.steps aes mode daemon).ok then none
          else some .failure⟩, (round.steps aes mode daemon).actions)) := by
  unfold turn Round.Stopped
  cases round.running with
  | false => exact Or.inl ⟨Or.inl rfl, rfl⟩
  | true =>
      rw [if_neg (by decide)]
      cases round.polled with
      | interrupted running =>
          cases running with
          | false => exact Or.inl ⟨Or.inr rfl, rfl⟩
          | true => exact Or.inr ⟨by simp, Or.inr (Or.inl rfl)⟩
      | failed => exact Or.inr ⟨by simp, Or.inl ⟨rfl, rfl⟩⟩
      | timeout | ready => exact Or.inr ⟨by simp, Or.inr (Or.inr rfl)⟩

/-- What a round does to a program that is in its loop. -/
structure Regular (aes : BlockCipher) (mode : Mode) (daemon : Daemon)
    (round : Round) (after : Process × List Action) : Prop where
  settled : after.1.exit = none → Settled aes mode after.1.daemon
  justified : ∀ action ∈ after.2, Justified aes mode round action
  stops : after.1.exit = some .success ↔ round.Stopped
  fails : after.1.exit = some .failure →
    round.Faulty after.2 ∨ Blocked mode daemon round.nowMs

theorem Settled.turn (settled : Settled aes mode daemon) (round : Round) :
    Regular aes mode daemon round (turn aes mode daemon round) := by
  have silent : ∀ action ∈ ([] : List Action),
      Justified aes mode round action :=
    fun _ none => absurd none List.not_mem_nil
  rcases turn_cases aes mode daemon round with
    ⟨stopped, result⟩ | ⟨goes, ⟨failed, result⟩ | result | result⟩
  · rw [result]
    exact ⟨fun _ => settled, silent, iff_of_true rfl stopped,
      by simp [Process.leaves]⟩
  · rw [result]
    exact ⟨fun _ => settled, silent,
      iff_of_false (by simp [Process.leaves]) goes,
      fun _ => Or.inl (.poll failed)⟩
  · rw [result]
    exact ⟨fun _ => settled, silent, iff_of_false (by simp) goes, by simp⟩
  · obtain ⟨kept, justified, fails⟩ :=
      @Settled.steps aes mode daemon round settled
    rw [result]
    cases outcome : (round.steps aes mode daemon).ok with
    | true =>
        exact ⟨fun _ => kept outcome, justified, iff_of_false (by simp) goes,
          by simp⟩
    | false =>
        exact ⟨by simp, justified, iff_of_false (by simp) goes,
          fun _ => fails outcome⟩

/-! ## Runs -/

theorem settled_of_init {localMac : Octets 6} {config : Config}
    {mi : Octets 12} {start : Ctx}
    (initialised : initMacsec aes localMac config mi = (.ok, start)) :
    Settled aes config.mode (Process.start start).daemon := by
  have mode : (macsecConfig localMac config).mode = config.mode.context := by
    unfold macsecConfig
    cases config.mode <;> rfl
  refine ⟨⟨_, mi, start, mode, initialised, .refl _ _⟩, fun keyed => ?_, rfl⟩
  rw [keyed] at mode
  change start.pendingMkaTxValid = false
  rw [(init_mkaPsk mode initialised).1]
  rfl

/-- Every round that begins in the loop is regular. -/
theorem regular_of_run {localMac : Octets 6} {config : Config}
    {mi : Octets 12} {start : Ctx}
    (initialised : initMacsec aes localMac config mi = (.ok, start))
    (rounds : List Round) :
    ∀ event ∈
        (machine aes config.mode).events (Process.start start) rounds,
      match event.before.exit with
      | none =>
          Regular aes config.mode event.before.daemon event.input
            (event.after, event.output)
      | some _ => event.output = [] ∧ event.after = event.before := by
  refine @Transition.Machine.forall_guarded _ _ _ (machine aes config.mode)
    (fun process => process.exit = none →
      Settled aes config.mode process.daemon)
    (fun _ => True) _ ?_ ?_ _ (fun _ => settled_of_init initialised) rounds
    fun _ _ => trivial
  · rintro ⟨daemon, exit⟩ round inside -
    cases exit with
    | none => exact ((inside rfl).turn round).settled
    | some code => exact fun same => absurd same (by simp [machine])
  · rintro ⟨daemon, exit⟩ round inside -
    cases exit with
    | none => exact (inside rfl).turn round
    | some code => exact ⟨rfl, rfl⟩

/-- The program leaves its loop with success exactly if a signal asks it to, and
with failure only if the operating system reports an error or a foreign SAK
blocks a control frame that is due.  As long as it stays, it accounts for every
frame of the TAP. -/
theorem loop_left_for_reason {localMac : Octets 6} {config : Config}
    {mi : Octets 12} {start : Ctx}
    (initialised : initMacsec aes localMac config mi = (.ok, start))
    (rounds : List Round) :
    ∀ event ∈
        (machine aes config.mode).events (Process.start start) rounds,
      event.before.exit = none →
        (event.after.exit = some .success ↔ event.input.Stopped) ∧
        (event.after.exit = some .failure →
          event.input.Faulty event.output ∨
            Blocked config.mode event.before.daemon event.input.nowMs) ∧
        (event.after.exit = none →
          let stats := event.after.daemon.stats
          stats.tapRx =
            stats.rawTx + stats.rawTxDropped + stats.encryptErrors) := by
  intro event member inside
  have regular := regular_of_run initialised rounds event member
  rw [inside] at regular
  exact ⟨regular.stops, regular.fails,
    fun stays => (regular.settled stays).counted⟩

/-! ## A round -/

/-- A configuration of the key agreement. -/
def pskConfig : Config where
  mode := .mkaPsk
  cak := List.replicate 16 1
  ckn := [2]
  mkaPriority := 10
  staticSak := []
  cakSet := true
  cknSet := true
  prioritySet := true

/-- A configuration with a static SAK. -/
def sakConfig : Config where
  mode := .staticSak
  cak := []
  ckn := []
  mkaPriority := 0
  staticSak := List.replicate 16 1
  cakSet := false
  cknSet := false
  prioritySet := false

/-- The context that the program starts with under a configuration. -/
def startOf (config : Config) : Ctx :=
  (initMacsec BlockCipher.null (Octets.zero 6) config (Octets.zero 12)).2

theorem initMacsec_sakConfig :
    initMacsec BlockCipher.null (Octets.zero 6) sakConfig (Octets.zero 12) =
      (.ok, startOf sakConfig) := rfl

/-- The first frame that a station with the static SAK protects. -/
def peerFrame : Bytes :=
  FrameCrypto.sealFrame BlockCipher.null (List.replicate 16 1) 0 1
    (Mka.buildSci (Octets.ofNat 6 1) 1) (List.replicate 60 8)

/-- A round in which both interfaces are ready and take what they are given.  A
plain frame and one that this host sent arrive before one of the peer. -/
def busyRound : Round where
  running := true
  polled := .ready ⟨false, true⟩ ⟨false, true⟩
  nowMs := 100
  controlRnd := Octets.zero 16
  controlSent := .done 67
  tap := .done (List.replicate 60 7)
  plainSent := .done 92
  arrivals :=
    [.frame (List.replicate 60 7) false, .frame peerFrame true,
      .frame peerFrame false]
  buffer := Octets.zero frameMax
  inputRnd := Octets.zero 16
  written := .done 60

/-- The program stays in its loop and accounts for the frame of the TAP. -/
theorem busyRound_left_for_reason :
    let daemon : Daemon := ⟨startOf sakConfig, .zero⟩
    let next := turn BlockCipher.null .staticSak daemon busyRound
    (next.1.exit = none ∧ next.1.daemon.stats.tapRx = 1) ∧
      (next.1.exit = some .success ↔ busyRound.Stopped) ∧
      (next.1.exit = some .failure →
        busyRound.Faulty next.2 ∨
          Blocked .staticSak daemon busyRound.nowMs) ∧
      (next.1.exit = none →
        let stats := next.1.daemon.stats
        stats.tapRx =
          stats.rawTx + stats.rawTxDropped + stats.encryptErrors) :=
  ⟨by decide +kernel,
    loop_left_for_reason initMacsec_sakConfig [busyRound] _
      (List.mem_singleton_self _) rfl⟩

end LinuxTap

end Macsec
