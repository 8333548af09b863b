import Macsec.Api.Orphans
import Macsec.Api.Rediscovery

/-!
# How keys arrive in the associations

A SAK arrives in the latest slot first: it is drawn at random, or an MKPDU
distributes it.  It waits there until it is installed, and nothing else puts a
key in an association.
-/

namespace Macsec

/-- The latest SAK has a key and an association number and is not in use
yet. -/
def Control.Awaits (ctx : Control) (key : Bytes) (an : Fin 4) : Prop :=
  (ctx.mka.latestSak.lifecycleState ≠ .none ∧ ¬ctx.mka.InUse) ∧
    ctx.mka.latestSak.Is key an

/-- The octets that a call may draw for a SAK. -/
def Call.Draws (key : Bytes) : Call → Prop
  | .input frame _ rnd => Mka.isEapolMka frame = true ∧ rnd.1 = key
  | .buildControlFrame _ rnd => rnd.1 = key
  | _ => False

/-- The call makes the participant adopt a SAK from an MKPDU. -/
def Call.Adopts (aes : BlockCipher) (ctx : Ctx) (key : Bytes) (an : Fin 4) :
    Call → Prop
  | .input frame _ _ =>
      ∃ pdu found, Mka.classify aes ctx.mka frame = .accepted pdu ∧
        (ctx.mka.Takes pdu ∧ pdu.distributedSak = .ok found ∧
          ctx.mka.sameSak found = false ∧
          ¬(ctx.mka.ServesNewPeer pdu ∧
            ctx.mka.slots.superseded.lifecycleState = .none)) ∧
        found.sak = key ∧ found.an = an
  | _ => False

/-- A SAK comes to wait with a call that draws or adopts it. -/
def Call.Brings (aes : BlockCipher) (ctx : Ctx) (key : Bytes) (an : Fin 4)
    (call : Call) : Prop :=
  call.Draws key ∨ call.Adopts aes ctx key an

variable {aes : BlockCipher} {ctx : Ctx} {key : Bytes} {an : Fin 4}

/-! ## The latest slot -/

/-- A waiting SAK depends on the latest slot alone. -/
theorem Control.Awaits.of_latest {before after : Control}
    (awaits : after.Awaits key an)
    (same : after.mka.latestSak = before.mka.latestSak) :
    before.Awaits key an := by
  unfold Awaits Mka.Participant.InUse at awaits ⊢
  rwa [same] at awaits

/-- What an MKPDU leaves waiting was waiting before, or is drawn or adopted. -/
theorem awaits_of_processMkpdu {after : Control} {frame plain : Bytes}
    {rnd : Octets 16} {pdu : Mka.Mkpdu} (resting : ctx.control.Resting)
    (accepted : Mka.classify aes ctx.mka frame = .accepted pdu)
    (processed :
      after.mka = (ctx.mka.processMkpdu pdu rnd ctx.lastTickMs).2)
    (awaits : after.Awaits key an) :
    ctx.control.Awaits key an ∨
      (Call.input frame plain rnd).Brings aes ctx key an := by
  obtain ⟨⟨present, waits⟩, same⟩ := awaits
  rw [processed] at present waits same
  rcases Mka.Participant.processMkpdu_slots resting.mka.inv pdu rnd
      ctx.lastTickMs with
    ⟨kept, ⟨slots, -⟩ | ⟨report, -, reported, slots⟩⟩ |
    ⟨displaces, sak, enters, slots⟩
  · have latest :
        (ctx.mka.processMkpdu pdu rnd ctx.lastTickMs).2.latestSak =
          ctx.mka.latestSak := congrArg Mka.Slots.latest slots
    exact Or.inl (@Control.Awaits.of_latest _ _ _ after
      ⟨⟨processed ▸ present, processed ▸ waits⟩, processed ▸ same⟩
      (processed ▸ latest))
  · have latest :
        (ctx.mka.processMkpdu pdu rnd ctx.lastTickMs).2.latestSak =
          Mka.Participant.reportedSak ctx.mka.latestSak report :=
      congrArg Mka.Slots.latest slots
    have inUse :=
      (Mka.Participant.processMkpdu_kept resting.mka.inv kept rnd
        ctx.lastTickMs).1
    rw [latest] at same
    refine Or.inl ⟨⟨fun absent => ?_, fun used => waits (inUse.mpr used)⟩,
      same⟩
    rcases reported.1 with lifecycle | lifecycle | lifecycle | lifecycle
    all_goals exact Mka.SakState.noConfusion (absent.symm.trans lifecycle)
  · have latest :
        (ctx.mka.processMkpdu pdu rnd ctx.lastTickMs).2.latestSak = sak :=
      congrArg Mka.Slots.latest slots
    rw [latest] at present same
    cases enters with
    | adopted distributes different stays =>
        exact Or.inr (Or.inr ⟨pdu, _, accepted,
          ⟨displaces.1, distributes, different, stays⟩, same⟩)
    | generated regenerates =>
        exact Or.inr (Or.inl ⟨Mka.isEapolMka_of_accepted accepted, same.1⟩)
    | dropped serves unlisted => exact absurd rfl present

/-- What the participant reacts to leaves its table alone. -/
theorem table_of_prompts {call : Call} {before : Control}
    (prompts : Prompts aes ctx call before) :
    before.table = ctx.frameCrypto.toSaTable := by
  cases prompts with
  | own | heard | ticked | reported => rfl

theorem awaits_of_prompts {call : Call} {before : Control}
    (resting : ctx.control.Resting) (prompts : Prompts aes ctx call before)
    (awaits : before.Awaits key an) :
    ctx.control.Awaits key an ∨ call.Brings aes ctx key an := by
  cases prompts with
  | own isMka own => exact Or.inl awaits
  | heard isMka accepted processed =>
      exact awaits_of_processMkpdu resting accepted rfl awaits
  | ticked nowMs =>
      exact Or.inl (awaits.of_latest
        (Mka.Participant.tick_follows resting.mka.inv nowMs).1)
  | @reported nowMs pending accepted =>
      obtain ⟨-, -, -, later⟩ :=
        Mka.Participant.notifyTxSuccess_follows accepted
      by_cases distributing :
          ctx.control.mka.Distributing ctx.pendingMkaTxMeta
      · -- The first distribution changes the lifecycle of a waiting SAK only.
        have waiting : ctx.control.mka.latestSak.lifecycleState =
            .distributionPending := distributing.2
        obtain ⟨-, same⟩ := awaits
        rcases ctx.control.mka.notifyTxSuccess_cases ctx.pendingMkaTxMeta
            nowMs with
          ⟨refused, -⟩ | ⟨-, -, result⟩
        · exact absurd accepted refused
        · have kept :
              ({ ctx.control with
                mka := (ctx.control.mka.notifyTxSuccess ctx.pendingMkaTxMeta
                  nowMs).2 }.clearPending).mka.latestSak.sak =
                  ctx.control.mka.latestSak.sak ∧
                ({ ctx.control with
                  mka := (ctx.control.mka.notifyTxSuccess
                    ctx.pendingMkaTxMeta nowMs).2
                  }.clearPending).mka.latestSak.an =
                  ctx.control.mka.latestSak.an := by
            rw [result]
            rcases ctx.control.mka.notifyDistributed_cases
                ctx.pendingMkaTxMeta with
              unchanged | ⟨-, -, -, -, -, distributed⟩
            · rw [unchanged]
              exact ⟨rfl, rfl⟩
            · rw [distributed]
              exact ⟨rfl, rfl⟩
          refine Or.inl ⟨⟨?_, ?_⟩, kept.1.symm.trans same.1,
            kept.2.symm.trans same.2⟩
          · rw [waiting]
            exact Mka.SakState.noConfusion
          · rintro (active | confirmed)
            · exact Mka.SakState.noConfusion (waiting.symm.trans active)
            · exact Mka.SakState.noConfusion (waiting.symm.trans confirmed)
      · exact Or.inl (awaits.of_latest (later distributing))

namespace Control

variable {ctx : Control}

/-- A SAK that is due waits. -/
theorem awaits_of_available (serviceable : ctx.mka.Serviceable)
    (available : Mka.Participant.sakAvailable ctx.mka.latestSak = true) :
    ctx.Awaits ctx.mka.latestSak.sak ctx.mka.latestSak.an :=
  ⟨⟨(unused_of_available serviceable available).2,
    fun used => used.notDue available⟩, rfl, rfl⟩

/-- The first round of events leaves the associations alone where a SAK
waits. -/
theorem table_drained (serviceable : ctx.mka.Serviceable)
    (waits : ¬ctx.mka.InUse) : ctx.drained.table = ctx.table := by
  unfold drained
  dsimp only
  split
  next retire =>
      exact absurd (Or.inr (serviceable.confirmed retire.1)) waits
  next => rfl

/-- A SAK that waits after the service waited before, and the associations are
as they were. -/
theorem awaits_of_serviced (serviceable : ctx.mka.Serviceable)
    (awaits : ctx.serviced.Awaits key an) :
    ctx.Awaits key an ∧ ctx.serviced.table = ctx.table := by
  unfold serviced at awaits ⊢
  split at awaits
  next available =>
      exact absurd (Or.inl rfl) awaits.1.2
  next notDue =>
      have before : ctx.Awaits key an :=
        awaits.of_latest ctx.drained_latest
      rw [if_neg notDue]
      exact ⟨before, table_drained serviceable before.1.2⟩

/-- Servicing keeps the transmit association, clears it, or installs the SAK
that waits. -/
theorem txSak_serviced (serviceable : ctx.mka.Serviceable) :
    ctx.serviced.table.txSak = ctx.table.txSak ∨
      ctx.serviced.table.txSak.valid = false ∨
      ∃ key an, ctx.Awaits key an ∧
        ¬(ctx.table.txSak.valid = true ∧ ctx.table.txSak.key = key ∧
          ctx.table.txSak.an = an) ∧
        ctx.serviced.table.txSak = freshSak key an 1 := by
  unfold serviced
  split
  next available =>
      have awaits := awaits_of_available serviceable available
      have table := table_drained serviceable awaits.1.2
      change (txTable (rxTable ctx.drained.table _ _ _) _ _).txSak = _ ∨
        (txTable (rxTable ctx.drained.table _ _ _) _ _).txSak.valid = _ ∨
        ∃ key an, _ ∧ _ ∧
          (txTable (rxTable ctx.drained.table _ _ _) _ _).txSak = _
      rw [ctx.drained_latest, table]
      have untouched :
          (rxTable ctx.table ctx.mka.latestSak.sak ctx.mka.latestSak.an
            ctx.mka.latestSak.lowestPn).txSak = ctx.table.txSak := by
        unfold rxTable
        split
        next => rfl
        next => rfl
      unfold txTable
      rw [untouched]
      split
      next => exact Or.inl untouched
      next other =>
          refine Or.inr (Or.inr ⟨_, _, awaits, ?_, rfl⟩)
          rintro ⟨valid, sameKey, sameAn⟩
          apply other
          rw [sakEqual_iff.mpr ⟨valid, sameKey⟩, sameAn, beq_self_eq_true]
          rfl
  next =>
      unfold drained
      dsimp only
      split
      next =>
          change (removedTable ctx.table ctx.mka.oldSak).txSak = _ ∨
            (removedTable ctx.table ctx.mka.oldSak).txSak.valid = _ ∨ _
          rw [txSak_removedTable]
          split
          next => exact Or.inr (Or.inl rfl)
          next => exact Or.inl rfl
      next => exact Or.inl rfl

/-- The same holds of every receive association. -/
theorem rxSak_serviced (serviceable : ctx.mka.Serviceable)
    (receives : ctx.mka.slots.OldReceives) (index : Fin 4) :
    ctx.serviced.table.rxSak index = ctx.table.rxSak index ∨
      (ctx.serviced.table.rxSak index).valid = false ∨
      ∃ key, ctx.Awaits key index ∧
        ¬((ctx.table.rxSak index).valid = true ∧
          (ctx.table.rxSak index).key = key) ∧
        (ctx.serviced.table.rxSak index).key = key := by
  unfold serviced
  split
  next available =>
      have awaits := awaits_of_available serviceable available
      have table := table_drained serviceable awaits.1.2
      have received (table : FrameCrypto.SaTable) (key : Bytes) (an : Fin 4) :
          (txTable table key an).rxSak = table.rxSak := by
        unfold txTable
        split_ifs
        · rfl
        · rfl
      change (txTable (rxTable ctx.drained.table _ _ _) _ _).rxSak index = _ ∨
        ((txTable (rxTable ctx.drained.table _ _ _) _ _).rxSak index).valid =
          _ ∨
        ∃ key, _ ∧ _ ∧
          ((txTable (rxTable ctx.drained.table _ _ _) _ _).rxSak index).key = _
      rw [received, ctx.drained_latest, table]
      obtain ⟨others, placed⟩ :=
        @rxSak_rxTable ctx.table ctx.mka.latestSak.sak ctx.mka.latestSak.an
          ctx.mka.latestSak.lowestPn index
      by_cases here : index = ctx.mka.latestSak.an
      · by_cases held : sakEqual (ctx.table.rxSak index)
            ctx.mka.latestSak.sak = true
        · refine Or.inl ?_
          rw [rxTable, ← here, if_pos held]
        · refine Or.inr (Or.inr ⟨_, here ▸ awaits, ?_, (placed here).1⟩)
          exact fun both => held (sakEqual_iff.mpr both)
      · exact Or.inl (others here)
  next =>
      unfold drained
      dsimp only
      split
      next retire =>
          have installed : ctx.mka.oldSak.rxInstalled = true := by
            refine receives fun absent => ?_
            exact Mka.SakState.noConfusion (retire.2.symm.trans absent)
          change (removedTable ctx.table ctx.mka.oldSak).rxSak index = _ ∨
            ((removedTable ctx.table ctx.mka.oldSak).rxSak index).valid = _ ∨ _
          rw [rxSak_removedTable installed]
          split
          next => exact Or.inr (Or.inl rfl)
          next => exact Or.inl rfl
      next => exact Or.inl rfl

end Control

/-- What waits after a call waited before or was drawn or adopted. -/
theorem awaits_of_step {call : Call} {ret : Err} {after : Control}
    (resting : ctx.control.Resting) (step : Step aes ctx call ret after)
    (awaits : after.Awaits key an) :
    (ctx.control.Awaits key an ∨ call.Brings aes ctx key an) ∧
      ctx.control.table.SameKeys after.table := by
  cases step with
  | passive silent same => exact ⟨Or.inl awaits, same⟩
  | @built txMaxLen rnd ret mka txMeta pending generated =>
      refine ⟨?_, .refl _⟩
      rcases generated with rfl | rfl
      · exact Or.inl awaits
      · rcases ctx.mka.toParticipant.ensureForTx_cases rnd with
          same | ⟨-, -, -, result⟩
        · exact Or.inl (awaits.of_latest
            (congrArg Mka.Participant.latestSak same))
        · obtain ⟨-, same, -⟩ := awaits
          dsimp only at same
          rw [result] at same
          exact Or.inr (Or.inl same)
  | returned => exact ⟨Or.inl awaits, .refl _⟩
  | refused failed => exact ⟨Or.inl awaits, .refl _⟩
  | failed isMka accepted failed =>
      exact ⟨awaits_of_processMkpdu resting accepted rfl awaits, .refl _⟩
  | serviced serves prompts serviceable =>
      obtain ⟨before, same⟩ :=
        Control.awaits_of_serviced serviceable awaits
      refine ⟨awaits_of_prompts resting prompts before, ?_⟩
      rw [same, table_of_prompts prompts]
      exact .refl _

end Macsec
