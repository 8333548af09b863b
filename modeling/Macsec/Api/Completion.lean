import Macsec.Api.Scripts
import Macsec.Api.Steps

/-!
# Servicing completes what is due

A SAK that the peer confirmed leaves no old one behind: the confirmation asks
for the retirement, and the first round of events carries it out.  So a call
that services the key agreement with success leaves no event pending, no SAK
halfway to the data plane and no old SAK behind a confirmed one, whatever
happened before.
-/

namespace Macsec

namespace Mka

namespace Participant

variable {ctx : Participant}

/-- A confirmed SAK has no old SAK behind it. -/
def Freed (ctx : Participant) : Prop :=
  ctx.latestSak.lifecycleState = .confirmed →
    ctx.oldSak.lifecycleState = .none

/-- A confirmed SAK has no old SAK behind it, or the retirement is requested. -/
def Freeing (ctx : Participant) : Prop :=
  ctx.latestSak.lifecycleState = .confirmed →
    ctx.oldSak.lifecycleState = .none ∨
      hasFlag ctx.pendingEvents EventFlag.sakRetireRequired = true

theorem Freed.freeing (freed : ctx.Freed) : ctx.Freeing :=
  fun confirmed => Or.inl (freed confirmed)

/-- A SAK that enters the latest slot is not confirmed. -/
theorem freed_prepared (inv : ctx.Inv) (freed : ctx.Freed) {pdu : Mkpdu}
    (takes : ctx.Takes pdu) (rnd : Octets 16) (nowMs : UInt32) :
    (ctx.prepared pdu rnd nowMs).Freed := by
  have entered {sak old : Sak}
      (slots : (ctx.prepared pdu rnd nowMs).slots = ⟨sak, old⟩)
      (waiting : sak.lifecycleState ≠ .confirmed) :
      (ctx.prepared pdu rnd nowMs).Freed := by
    intro confirmed
    rw [show (ctx.prepared pdu rnd nowMs).latestSak = sak from
      congrArg Slots.latest slots] at confirmed
    exact absurd confirmed waiting
  rcases ctx.prepared_cases inv takes rnd nowMs with
    ⟨-, slots⟩ | ⟨found, -, -, -, -, slots⟩ | ⟨-, slots⟩
  · intro confirmed
    rw [show (ctx.prepared pdu rnd nowMs).latestSak = ctx.latestSak from
      congrArg Slots.latest slots] at confirmed
    rw [show (ctx.prepared pdu rnd nowMs).oldSak = ctx.oldSak from
      congrArg Slots.old slots]
    exact freed confirmed
  · exact entered slots SakState.noConfusion
  · refine entered slots ?_
    split
    next => exact SakState.noConfusion
    next => exact SakState.noConfusion

/-- The report that confirms a SAK requests the retirement of the old one. -/
theorem freeing_parseSakUse (inv : ctx.Inv) (freed : ctx.Freed)
    (found : Except Err SakUse) : (ctx.parseSakUse found).2.Freeing := by
  rcases ctx.parseSakUse_cases found with
    ⟨same, -⟩ | ⟨report, -, -, result⟩
  · rw [same]
    exact freed.freeing
  · rw [result]
    intro confirmed
    change reportedLifecycle ctx.latestSak.lifecycleState
      (report.latestRx && report.latestTx) = .confirmed at confirmed
    change ctx.oldSak.lifecycleState = .none ∨
      hasFlag (ctx.pendingEvents ||| ctx.reportEvents report) _ = true
    by_cases already : ctx.latestSak.lifecycleState = .confirmed
    · exact Or.inl (freed already)
    · have confirms : ctx.confirms report = true := by
        unfold reportedLifecycle at confirmed
        split_ifs at confirmed with both active
        · simp [Participant.confirms, both, active]
        · exact absurd confirmed already
        · exact absurd confirmed already
      by_cases absent : ctx.oldSak.lifecycleState = .none
      · exact Or.inl absent
      · have retiring := inv.old.retiring absent
        refine Or.inr ?_
        rw [hasFlag_or, reportEvents, if_pos confirms, if_pos retiring,
          Bool.or_eq_true]
        exact Or.inr (by decide)

/-- An MKPDU leaves the retirement requested if one is due. -/
theorem freeing_processMkpdu (inv : ctx.Inv) (freed : ctx.Freed)
    (pdu : Mkpdu) (rnd : Octets 16) (nowMs : UInt32) :
    ((ctx.processMkpdu pdu rnd nowMs).1 ≠ .ok →
      (ctx.processMkpdu pdu rnd nowMs).2.Freed) ∧
    (ctx.processMkpdu pdu rnd nowMs).2.Freeing := by
  rcases ctx.processMkpdu_outcome inv pdu rnd nowMs with
    ⟨-, -, same⟩ | ⟨takes, -, -, same⟩ | ⟨takes, -, result⟩
  · rw [same]
    exact ⟨fun _ => freed, freed.freeing⟩
  · rw [same]
    have prepared := freed_prepared inv freed takes rnd nowMs
    exact ⟨fun _ => prepared, prepared.freeing⟩
  · have prepared := freed_prepared inv freed takes rnd nowMs
    have reported :=
      freeing_parseSakUse (ctx.prepared_keeps inv pdu rnd nowMs).inv prepared
        pdu.sakUse
    obtain ⟨events, reasons, -, announced⟩ :=
      ((ctx.prepared pdu rnd nowMs).parseSakUse pdu.sakUse).2.announceInput_eq
        (ctx.peerIdentityChanged pdu.basic) (ctx.cameToLife pdu nowMs)
        (ctx.electionFlipped pdu nowMs)
    rw [result, announced]
    refine ⟨fun failed => absurd rfl failed, fun confirmed => ?_⟩
    refine (reported confirmed).imp id fun requested => ?_
    rw [hasFlag_or, requested]
    rfl

theorem freed_tick (inv : ctx.Inv) (freed : ctx.Freed) (nowMs : UInt32) :
    (ctx.tick nowMs).2.Freed := by
  obtain ⟨expired, events, reasons, ⟨-, same⟩ | ⟨-, lost⟩, -, result⟩ :=
    tick_cases inv nowMs
  · rw [result, same]
    exact freed
  · rw [result, lost]
    exact freed

theorem freed_notifyTxSuccess (freed : ctx.Freed) (txMeta : TxMeta)
    (nowMs : UInt32) : (ctx.notifyTxSuccess txMeta nowMs).2.Freed := by
  rcases ctx.notifyTxSuccess_cases txMeta nowMs with
    ⟨-, same⟩ | ⟨-, -, result⟩
  · rw [same]
    exact freed
  · rw [result]
    rcases ctx.notifyDistributed_cases txMeta with
      same | ⟨-, -, -, -, -, distributed⟩
    · rw [same]
      exact freed
    · rw [distributed]
      exact fun confirmed => SakState.noConfusion confirmed

theorem freed_ensureForTx (freed : ctx.Freed) (rnd : Octets 16) :
    (ctx.ensureForTx rnd).2.Freed := by
  rcases ctx.ensureForTx_cases rnd with same | ⟨-, -, -, result⟩
  · rw [same]
    exact freed
  · rw [result]
    exact fun confirmed => SakState.noConfusion confirmed

end Participant

end Mka

namespace Control

variable {ctx : Control}

/-- The first round of events retires the old SAK behind a confirmed one. -/
theorem freed_drained (inv : ctx.mka.Inv) (freeing : ctx.mka.Freeing) :
    ctx.drained.mka.Freed := by
  intro confirmed
  rw [drained_latest] at confirmed
  unfold drained
  dsimp only
  split
  next => rfl
  next kept =>
      rw [not_and_or] at kept
      by_cases absent : ctx.mka.oldSak.lifecycleState = .none
      · exact absent
      · rcases freeing confirmed with none | requested
        · exact none
        · rcases kept with unrequested | unretiring
          · exact absurd requested unrequested
          · exact absurd (inv.old.retiring absent) unretiring

/-- So does the whole service, which leaves no event pending. -/
theorem serviced_complete (serviceable : ctx.mka.Serviceable)
    (freeing : ctx.mka.Freeing) :
    ctx.serviced.mka.Freed ∧ ctx.serviced.mka.pendingEvents = 0 := by
  unfold serviced
  split
  next => exact ⟨fun confirmed => Mka.SakState.noConfusion confirmed, rfl⟩
  next => exact ⟨freed_drained serviceable.inv freeing, rfl⟩

end Control

variable {aes : BlockCipher} {ctx : Ctx}

/-- Whatever a participant reacts to leaves the retirement requested if one is
due. -/
theorem freeing_of_prompts {call : Call} {before : Control}
    (resting : ctx.control.Resting) (freed : ctx.control.mka.Freed)
    (prompts : Prompts aes ctx call before) : before.mka.Freeing := by
  cases prompts with
  | own isMka own => exact freed.freeing
  | heard isMka accepted processed =>
      exact (Mka.Participant.freeing_processMkpdu resting.mka.inv freed _ _
        _).2
  | ticked nowMs =>
      exact (Mka.Participant.freed_tick resting.mka.inv freed nowMs).freeing
  | reported pending accepted =>
      exact (Mka.Participant.freed_notifyTxSuccess freed _ _).freeing

/-- No call leaves an old SAK behind a confirmed one. -/
theorem freed_of_step {call : Call} {ret : Err} {after : Control}
    (resting : ctx.control.Resting) (freed : ctx.control.mka.Freed)
    (step : Step aes ctx call ret after) : after.mka.Freed := by
  cases step with
  | passive silent same => exact freed
  | built generated =>
      rcases generated with rfl | rfl
      · exact freed
      · exact Mka.Participant.freed_ensureForTx freed _
  | returned => exact freed
  | refused failed => exact freed
  | failed isMka accepted failed =>
      exact (Mka.Participant.freeing_processMkpdu resting.mka.inv freed _ _
        _).1 failed.1
  | serviced serves prompts serviceable =>
      exact (Control.serviced_complete serviceable
        (freeing_of_prompts resting freed prompts)).1

theorem Reachable.freed (reachable : Reachable aes .mkaPsk ctx) :
    ctx.control.mka.Freed := by
  obtain ⟨cfg, mi, start, mode, initialised, run⟩ := reachable
  refine (run.invariant
    (fun ctx => ctx.control.Resting ∧ ctx.control.mka.Freed) ?_ ?_).2
  · refine ⟨init_resting mode initialised, fun confirmed => ?_⟩
    rw [(init_mkaPsk mode initialised).1] at confirmed ⊢
    change
      (Mka.Participant.start _ _ _ _ mi).completeInit.latestSak.lifecycleState
      = .confirmed at confirmed
    rw [Mka.completeInit_eq] at confirmed
    exact Mka.SakState.noConfusion confirmed
  · intro ctx call ⟨resting, freed⟩
    exact ⟨perform_resting resting call,
      freed_of_step resting freed (perform_step resting call)⟩

/-- Every call that services the key agreement with success leaves no SAK
between its distribution and the end of its installation, no old SAK behind a
confirmed one, and no event pending. -/
theorem service_completes (reachable : Reachable aes .mkaPsk ctx) {call : Call}
    (serves : call.Serves) (succeeded : (perform aes ctx call).2.ret = .ok) :
    let mka := (perform aes ctx call).1.mka.toParticipant
    (mka.latestSak.lifecycleState = .none ∨
        mka.latestSak.lifecycleState = .distributionPending ∨
        mka.latestSak.lifecycleState = .active ∨
        mka.latestSak.lifecycleState = .confirmed) ∧
      (mka.latestSak.lifecycleState = .confirmed →
        mka.oldSak.lifecycleState = .none) ∧
      mka.pendingEvents = 0 := by
  dsimp only
  have resting := reachable.resting
  obtain ⟨before, prompts, serviceable, result⟩ :=
    serviced_of_ok (perform_step resting call) succeeded serves
  have complete :=
    Control.serviced_complete serviceable
      (freeing_of_prompts resting reachable.freed prompts)
  have settled := (Control.serviced_resting serviceable).settled
  have adopted := Control.serviced_not_candidate serviceable
  have shape := (Control.serviced_resting serviceable).inv.latest.not_retiring
  have same :
      (perform aes ctx call).1.mka.toParticipant = before.serviced.mka :=
    congrArg Control.mka result
  rw [same]
  refine ⟨?_, complete⟩
  cases lifecycle : before.serviced.mka.latestSak.lifecycleState with
  | none => exact Or.inl rfl
  | distributionPending => exact Or.inr (Or.inl rfl)
  | active => exact Or.inr (Or.inr (Or.inl rfl))
  | confirmed => exact Or.inr (Or.inr (Or.inr rfl))
  | candidate => exact absurd lifecycle adopted
  | distributed => exact absurd lifecycle settled.1
  | installPending => exact absurd lifecycle settled.2
  | retiring => exact absurd lifecycle shape

/-- Station 1 once it installed the SAK of its Key Server and that of the
restarted one. -/
def succeededCtx : Ctx :=
  (machine BlockCipher.null).final (stationCtx BlockCipher.null 1 10 11)
    (([.hear Mka.supplier (Mka.sakOctets 1),
        .hear Mka.successor (Mka.sakOctets 2)] : List Cue).map
      (Cue.call BlockCipher.null
        (MkaCrypto.keysOf BlockCipher.null Mka.stationCak Mka.stationCkn)))

theorem reachable_succeededCtx :
    Reachable BlockCipher.null .mkaPsk succeededCtx :=
  (reachable_stationCtx BlockCipher.null 1 10 11).final _

/-- The call with which it hears that the Key Server installed the latest SAK.
-/
def hearIncumbent : Call :=
  Cue.call BlockCipher.null
    (MkaCrypto.keysOf BlockCipher.null Mka.stationCak Mka.stationCkn)
    (.hear Mka.incumbent (Mka.sakOctets 3))

/-- The call confirms the latest SAK and retires the old one. -/
theorem incumbent_completes :
    (succeededCtx.mka.latestSak.lifecycleState = .active ∧
        succeededCtx.mka.oldSak.lifecycleState = .retiring) ∧
      ((perform BlockCipher.null succeededCtx
            hearIncumbent).1.mka.latestSak.lifecycleState = .confirmed ∧
        (perform BlockCipher.null succeededCtx
            hearIncumbent).1.mka.oldSak.lifecycleState = .none ∧
        (perform BlockCipher.null succeededCtx
            hearIncumbent).1.mka.pendingEvents = 0) := by
  have serves : hearIncumbent.Serves := by
    change Mka.isEapolMka _ = true
    decide +kernel
  have confirmed :
      (perform BlockCipher.null succeededCtx
        hearIncumbent).1.mka.latestSak.lifecycleState = .confirmed := by
    decide +kernel
  obtain ⟨-, freed, drained⟩ :=
    service_completes reachable_succeededCtx serves (by decide +kernel)
  exact ⟨by decide +kernel, confirmed, freed confirmed, drained⟩

end Macsec
