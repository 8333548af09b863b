import Macsec.Api.Scripts
import Macsec.Api.Steps

/-!
# No orphan keys

Every key in the data plane is that of a SAK that one of the two slots of the
participant still holds: the latest one once it is installed, the old one until
it is retired.  The slots change while MKPDUs are received, the associations
only when the key agreement is serviced, and in between the slots keep what is
installed.
-/

namespace Macsec

namespace Mka

/-- The directions of an association. -/
inductive Direction
  | rx
  | tx
  deriving DecidableEq, Repr

/-- Whether a SAK is installed in a direction. -/
def Sak.installed (sak : Sak) : Direction → Bool
  | .rx => sak.rxInstalled
  | .tx => sak.txInstalled

/-- A SAK has the given key and association number. -/
def Sak.Is (sak : Sak) (key : Bytes) (an : Fin 4) : Prop :=
  sak.sak = key ∧ sak.an = an

namespace Slots

/-- One of the slots holds a key. -/
def Holds (slots : Slots) (key : Bytes) (an : Fin 4) : Prop :=
  (slots.latest.lifecycleState ≠ .none ∧ slots.latest.Is key an) ∨
    (slots.old.lifecycleState ≠ .none ∧ slots.old.Is key an)

/-- One of the slots holds a key that is installed in a direction. -/
def Carries (slots : Slots) (direction : Direction) (key : Bytes)
    (an : Fin 4) : Prop :=
  (slots.latest.installed direction = true ∧ slots.latest.Is key an) ∨
    ((slots.old.lifecycleState ≠ .none ∧
      slots.old.installed direction = true) ∧ slots.old.Is key an)

/-- The old SAK can still be received under. -/
def OldReceives (slots : Slots) : Prop :=
  slots.old.lifecycleState ≠ .none → slots.old.rxInstalled = true

variable {slots after : Slots} {fresh : Sak → Prop}
  {direction : Direction} {key : Bytes} {an : Fin 4}

/-- What is installed is held. -/
theorem Carries.holds (shape : slots.Shape)
    (carries : slots.Carries direction key an) : slots.Holds key an := by
  rcases carries with ⟨installed, same⟩ | ⟨⟨present, -⟩, same⟩
  · refine Or.inl ⟨fun absent => ?_, same⟩
    rw [shape.latest.eq_cleared absent] at installed
    cases direction with
    | rx | tx => exact Bool.noConfusion installed
  · exact Or.inr ⟨present, same⟩

/-- A SAK that makes room stays installed as the old one. -/
theorem Carries.superseded (shape : slots.Shape)
    (room : slots.latest.lifecycleState = .none ∨
      slots.old.lifecycleState = .none)
    (carries : slots.Carries direction key an) (sak : Sak) :
    (⟨sak, slots.superseded⟩ : Slots).Carries direction key an := by
  refine Or.inr ?_
  rcases carries with ⟨installed, same⟩ | ⟨⟨present, installed⟩, same⟩
  · have either :
        (slots.latest.rxInstalled || slots.latest.txInstalled) = true := by
      cases direction with
      | rx => exact Bool.or_eq_true_iff.mpr (Or.inl installed)
      | tx => exact Bool.or_eq_true_iff.mpr (Or.inr installed)
    dsimp only
    rw [Slots.superseded, if_pos either]
    refine ⟨⟨SakState.noConfusion, ?_⟩, same⟩
    cases direction with
    | rx => exact installed
    | tx => exact installed
  · have absent := room.resolve_right present
    rw [superseded_of_unused (by rw [shape.latest.eq_cleared absent]; rfl)
      (by rw [shape.latest.eq_cleared absent]; rfl)]
    exact ⟨⟨present, installed⟩, same⟩

/-- A change of the slots keeps what is installed. -/
theorem Step.carries (step : Step fresh slots after) (shape : slots.Shape)
    (carries : slots.Carries direction key an) :
    after.Carries direction key an := by
  cases step with
  | replace room _ _ _ _ => exact carries.superseded shape room _
  | clear free => exact carries.superseded shape (Or.inr free) _
  | report _ _ _ =>
      cases direction with
      | rx => exact carries
      | tx => exact carries

/-- A SAK at rest is installed in both directions or in none. -/
theorem installed_iff (shape : slots.Shape) (settled : slots.Settled) :
    slots.latest.rxInstalled = slots.latest.txInstalled := by
  cases either : slots.latest.rxInstalled || slots.latest.txInstalled with
  | false =>
      rw [Bool.or_eq_false_iff] at either
      rw [either.1, either.2]
  | true =>
      rcases shape.latest.of_installed either with
        pending | active | confirmed
      · exact absurd pending settled.2
      · have both := shape.latest.installed (Or.inl active)
        rw [both.1, both.2]
      · have both := shape.latest.installed (Or.inr confirmed)
        rw [both.1, both.2]

theorem OldReceives.superseded (shape : slots.Shape) (settled : slots.Settled)
    (receives : slots.OldReceives) (sak : Sak) :
    (⟨sak, slots.superseded⟩ : Slots).OldReceives := by
  have even := installed_iff shape settled
  unfold OldReceives Slots.superseded
  dsimp only
  split
  next installed =>
      rw [← even, Bool.or_self] at installed
      exact fun _ => installed
  next => exact receives

/-- A change of the slots keeps the old SAK installed for reception. -/
theorem Step.oldReceives (step : Step fresh slots after) (shape : slots.Shape)
    (settled : slots.Settled) (receives : slots.OldReceives) :
    after.OldReceives := by
  cases step with
  | replace room _ _ _ _ => exact receives.superseded shape settled _
  | clear free => exact receives.superseded shape settled _
  | report _ _ _ => exact receives

/-- Any number of changes keep what is installed. -/
theorem Steps.carries (steps : Steps fresh slots after) (shape : slots.Shape)
    (settled : slots.Settled) (receives : slots.OldReceives) :
    after.OldReceives ∧ ∀ direction key an,
      slots.Carries direction key an → after.Carries direction key an := by
  refine (@Steps.invariant slots fresh
    (fun reached => (reached.Shape ∧ reached.Settled) ∧
      reached.OldReceives ∧ ∀ direction key an,
        slots.Carries direction key an → reached.Carries direction key an)
    after steps ⟨⟨shape, settled⟩, receives, fun _ _ _ => id⟩ ?_).2
  intro before next step ⟨⟨shape, settled⟩, receives, carries⟩
  exact ⟨⟨step.shape shape, step.settled settled⟩,
    step.oldReceives shape settled receives, fun direction key an carried =>
      step.carries shape (carries direction key an carried)⟩

/-- The old SAK once the latest one makes room was held before. -/
theorem holds_of_superseded (shape : slots.Shape)
    (present : slots.superseded.lifecycleState ≠ .none)
    (same : slots.superseded.Is key an) : slots.Holds key an := by
  unfold Slots.superseded at present same
  split at present
  next installed =>
      rw [if_pos installed] at same
      refine Or.inl ⟨fun absent => ?_, same⟩
      rw [shape.latest.eq_cleared absent] at installed
      exact Bool.noConfusion installed
  next unused =>
      rw [if_neg unused] at same
      exact Or.inr ⟨present, same⟩

/-- A key that the slots hold after a change was held before or has entered. -/
theorem Step.holds (step : Step fresh slots after) (shape : slots.Shape)
    (holds : after.Holds key an) :
    slots.Holds key an ∨ ∃ sak, fresh sak ∧ sak.sak = key := by
  cases step with
  | @replace sak room _ _ _ isFresh =>
      rcases holds with ⟨-, same⟩ | ⟨present, same⟩
      · exact Or.inr ⟨sak, isFresh, same.1⟩
      · exact Or.inl (holds_of_superseded shape present same)
  | clear free =>
      rcases holds with ⟨present, -⟩ | ⟨present, same⟩
      · exact absurd rfl present
      · exact Or.inl (holds_of_superseded shape present same)
  | report known _ _ =>
      exact Or.inl (holds.imp (fun ⟨_, same⟩ => ⟨known, same⟩) id)

theorem Steps.holds (steps : Steps fresh slots after) (shape : slots.Shape)
    (holds : after.Holds key an) :
    slots.Holds key an ∨ ∃ sak, fresh sak ∧ sak.sak = key := by
  have kept :=
    @Steps.invariant slots fresh
      (fun reached => reached.Shape ∧
        (reached.Holds key an →
          slots.Holds key an ∨ ∃ sak, fresh sak ∧ sak.sak = key))
      after steps ⟨shape, Or.inl⟩ ?_
  · exact kept.2 holds
  · intro before next step ⟨shape, known⟩
    exact ⟨step.shape shape, fun holds =>
      (step.holds shape holds).elim known Or.inr⟩

end Slots

end Mka

namespace Control

variable {ctx : Control}

/-- Every association has the key of a slot that is installed in its
direction. -/
structure Backed (ctx : Control) : Prop where
  receives : ctx.mka.slots.OldReceives
  rx : ∀ an, (ctx.table.rxSak an).valid = true →
    (ctx.table.rxSak an).an = an ∧
      ctx.mka.slots.Carries .rx (ctx.table.rxSak an).key an
  tx : ctx.table.txSak.valid = true →
    ctx.mka.slots.Carries .tx ctx.table.txSak.key ctx.table.txSak.an

/-- The slots may change while the associations stay. -/
theorem Backed.steps {after : Control} {fresh : Mka.Sak → Prop}
    (backed : ctx.Backed) (resting : ctx.mka.Resting)
    (steps : Mka.Slots.Steps fresh ctx.mka.slots after.mka.slots)
    (same : after.table = ctx.table) : after.Backed := by
  obtain ⟨receives, carries⟩ :=
    steps.carries resting.inv.slots resting.settled backed.receives
  refine ⟨receives, ?_, ?_⟩
  · rw [same]
    exact fun an valid =>
      ⟨(backed.rx an valid).1, carries _ _ _ (backed.rx an valid).2⟩
  · rw [same]
    exact fun valid => carries _ _ _ (backed.tx valid)

/-- The keys of the associations are all that counts. -/
theorem Backed.sameKeys {table : FrameCrypto.SaTable} (backed : ctx.Backed)
    (same : ctx.table.SameKeys table) : { ctx with table := table }.Backed := by
  refine ⟨backed.receives, fun an valid => ?_, fun valid => ?_⟩
  · obtain ⟨sameKey, sameAn, sameValid⟩ := same.rx an
    change (table.rxSak an).valid = true at valid
    change (table.rxSak an).an = an ∧ ctx.mka.slots.Carries _
      (table.rxSak an).key an
    rw [sameKey, sameAn]
    exact backed.rx an (sameValid ▸ valid)
  · obtain ⟨sameKey, sameAn, sameValid⟩ := same.tx
    change table.txSak.valid = true at valid
    change ctx.mka.slots.Carries _ table.txSak.key table.txSak.an
    rw [sameKey, sameAn]
    exact backed.tx (sameValid ▸ valid)

/-- Only the old SAK is gone from the receive associations once it is
retired. -/
theorem rxSak_removedTable {table : FrameCrypto.SaTable} {old : Mka.Sak}
    (installed : old.rxInstalled = true) (an : Fin 4) :
    (removedTable table old).rxSak an =
      if an = old.an then FrameCrypto.Sak.cleared else table.rxSak an := by
  have rx :
      (removedTable table old).rxSak =
        Function.update table.rxSak old.an FrameCrypto.Sak.cleared := by
    unfold removedTable
    rw [installed]
    dsimp only
    rw [if_pos rfl]
    split
    next => rfl
    next => rfl
  rw [rx, Function.update_apply]

/-- The transmit association is gone if it has the key of the old SAK and that
is still installed. -/
theorem txSak_removedTable {table : FrameCrypto.SaTable} {old : Mka.Sak} :
    (removedTable table old).txSak =
      if old.txInstalled && (sakEqual table.txSak old.sak &&
          table.txSak.an == old.an) then
        FrameCrypto.Sak.cleared
      else table.txSak := by
  have same :
      (if old.rxInstalled then (FrameCrypto.removeRxSak table old.an).2
        else table).txSak = table.txSak := by
    split_ifs
    · rfl
    · rfl
  unfold removedTable
  dsimp only
  rw [same]
  split
  next => rfl
  next => exact same

/-- Retiring the old SAK removes its associations. -/
theorem backed_retired (backed : ctx.Backed)
    (retiring : ctx.mka.oldSak.lifecycleState = .retiring) :
    ctx.retired.Backed := by
  have present : ctx.mka.oldSak.lifecycleState ≠ .none := by
    rw [retiring]
    exact Mka.SakState.noConfusion
  have installed : ctx.mka.oldSak.rxInstalled = true :=
    backed.receives present
  refine ⟨fun absent => absurd rfl absent, fun an valid => ?_,
    fun valid => ?_⟩
  · change ((removedTable ctx.table ctx.mka.oldSak).rxSak an).valid = true
      at valid
    change ((removedTable ctx.table ctx.mka.oldSak).rxSak an).an = an ∧
      ctx.retired.mka.slots.Carries .rx
        ((removedTable ctx.table ctx.mka.oldSak).rxSak an).key an
    rw [rxSak_removedTable installed] at valid ⊢
    split_ifs at valid with removed
    · exact Bool.noConfusion valid
    · rw [if_neg removed]
      obtain ⟨own, latest | ⟨-, same⟩⟩ := backed.rx an valid
      · exact ⟨own, Or.inl latest⟩
      · exact absurd same.2.symm removed
  · change (removedTable ctx.table ctx.mka.oldSak).txSak.valid = true at valid
    change ctx.retired.mka.slots.Carries .tx
      (removedTable ctx.table ctx.mka.oldSak).txSak.key
      (removedTable ctx.table ctx.mka.oldSak).txSak.an
    rw [txSak_removedTable] at valid ⊢
    split_ifs at valid with removed
    · exact Bool.noConfusion valid
    · rw [if_neg removed]
      rcases backed.tx valid with latest | ⟨⟨-, transmits⟩, key, an⟩
      · exact Or.inl latest
      · refine absurd ?_ removed
        have held : sakEqual ctx.table.txSak ctx.mka.oldSak.sak = true :=
          sakEqual_iff.mpr ⟨valid, key.symm⟩
        have sameAn : (ctx.table.txSak.an == ctx.mka.oldSak.an) = true :=
          beq_iff_eq.mpr an.symm
        rw [held, sameAn, Bool.and_true, Bool.and_true]
        exact transmits

theorem backed_drained (backed : ctx.Backed) : ctx.drained.Backed := by
  unfold drained
  dsimp only
  split
  next retire =>
      exact backed_retired ⟨backed.receives, backed.rx, backed.tx⟩ retire.2
  next => exact ⟨backed.receives, backed.rx, backed.tx⟩

/-- Installing a key puts it into its receive association. -/
theorem rxSak_rxTable {table : FrameCrypto.SaTable} {key : Bytes}
    {installed : Fin 4} {lowestPn : UInt32} (an : Fin 4) :
    (an ≠ installed →
      (rxTable table key installed lowestPn).rxSak an = table.rxSak an) ∧
    (an = installed →
      ((rxTable table key installed lowestPn).rxSak an).key = key ∧
        (((table.rxSak an).valid = true → (table.rxSak an).an = an) →
          ((rxTable table key installed lowestPn).rxSak an).an = an)) := by
  unfold rxTable
  split
  next same =>
      obtain ⟨valid, key⟩ := sakEqual_iff.mp same
      refine ⟨fun _ => rfl, ?_⟩
      rintro rfl
      exact ⟨key, fun own => own valid⟩
  next =>
      refine ⟨fun other => Function.update_of_ne other _ _, ?_⟩
      rintro rfl
      dsimp only
      rw [Function.update_self]
      unfold FrameCrypto.normalizeRx
      dsimp only
      split_ifs
      all_goals exact ⟨rfl, fun _ => rfl⟩

/-- Installing a key puts it into the transmit association. -/
theorem txSak_txTable {table : FrameCrypto.SaTable} {key : Bytes}
    {an : Fin 4} :
    (txTable table key an).txSak.key = key ∧
      (txTable table key an).txSak.an = an := by
  unfold txTable
  split
  next same =>
      rw [Bool.and_eq_true, beq_iff_eq, sakEqual_iff] at same
      exact ⟨same.1.2, same.2⟩
  next => exact ⟨rfl, rfl⟩

/-- Installing the latest SAK puts its key in place. -/
theorem backed_activated (backed : ctx.Backed)
    (unused : ctx.mka.latestSak.Unused) : ctx.activated.Backed := by
  have silenced :
      (Mka.Participant.silencedSak ctx.mka.oldSak).lifecycleState =
          ctx.mka.oldSak.lifecycleState ∧
        (Mka.Participant.silencedSak ctx.mka.oldSak).rxInstalled =
          ctx.mka.oldSak.rxInstalled ∧
        (Mka.Participant.silencedSak ctx.mka.oldSak).sak =
          ctx.mka.oldSak.sak ∧
        (Mka.Participant.silencedSak ctx.mka.oldSak).an =
          ctx.mka.oldSak.an := by
    unfold Mka.Participant.silencedSak
    split_ifs
    all_goals exact ⟨rfl, rfl, rfl, rfl⟩
  have rxSame :
      (rxTable ctx.table ctx.mka.latestSak.sak ctx.mka.latestSak.an
        ctx.mka.latestSak.lowestPn).rxSak = ctx.activated.table.rxSak := by
    change _ = (txTable _ _ _).rxSak
    unfold txTable
    split_ifs
    · rfl
    · rfl
  obtain ⟨lifecycle, rx, key, an⟩ := silenced
  refine ⟨fun present => ?_, fun index valid => ?_, fun valid => ?_⟩
  · change (Mka.Participant.silencedSak ctx.mka.oldSak).rxInstalled = true
    rw [rx]
    exact backed.receives (lifecycle ▸ present)
  · rw [← rxSame] at valid ⊢
    obtain ⟨others, placed⟩ :=
      @rxSak_rxTable ctx.table ctx.mka.latestSak.sak ctx.mka.latestSak.an
        ctx.mka.latestSak.lowestPn index
    by_cases here : index = ctx.mka.latestSak.an
    · obtain ⟨sameKey, own⟩ := placed here
      refine ⟨own fun before => (backed.rx index before).1, Or.inl ⟨rfl, ?_⟩⟩
      exact ⟨sameKey.symm, here.symm⟩
    · rw [others here] at valid ⊢
      obtain ⟨own, ⟨installed, -⟩ | ⟨⟨present, receives⟩, same⟩⟩ :=
        backed.rx index valid
      · exact absurd (unused.rx.symm.trans installed) Bool.false_ne_true
      · refine ⟨own, Or.inr ⟨⟨?_, ?_⟩, ?_⟩⟩
        · change (Mka.Participant.silencedSak _).lifecycleState ≠ .none
          rw [lifecycle]
          exact present
        · change (Mka.Participant.silencedSak _).rxInstalled = true
          rw [rx]
          exact receives
        · exact ⟨key.trans same.1, an.trans same.2⟩
  · refine Or.inl ⟨rfl, ?_⟩
    exact ⟨txSak_txTable.1.symm, txSak_txTable.2.symm⟩

/-- Servicing keeps every association backed. -/
theorem backed_serviced (backed : ctx.Backed)
    (serviceable : ctx.mka.Serviceable) : ctx.serviced.Backed := by
  have drained := backed_drained backed
  unfold serviced
  split
  next available =>
      rw [← ctx.drained_latest] at available
      have activated := backed_activated drained
        (unused_of_available (drained_serviceable serviceable) available).1
      exact ⟨activated.receives, activated.rx, activated.tx⟩
  next => exact ⟨drained.receives, drained.rx, drained.tx⟩

end Control

variable {aes : BlockCipher} {ctx : Ctx}

/-! ## Calls -/

/-- What a participant reacts to changes its slots step by step. -/
theorem backed_of_prompts {call : Call} {before : Control}
    (resting : ctx.control.Resting) (backed : ctx.control.Backed)
    (prompts : Prompts aes ctx call before) : before.Backed := by
  cases prompts with
  | own isMka own => exact backed
  | heard isMka accepted processed =>
      exact backed.steps resting.mka
        (Mka.Participant.processMkpdu_steps resting.mka.inv _ _ _) rfl
  | ticked nowMs =>
      have slots : (ctx.mka.tick nowMs).2.slots = ctx.control.mka.slots :=
        (Mka.Participant.tick_serviceable resting.mka nowMs).2.2
      refine ⟨?_, ?_, ?_⟩
      · exact slots ▸ backed.receives
      · exact slots ▸ backed.rx
      · exact slots ▸ backed.tx
  | reported pending accepted =>
      rcases ctx.control.mka.notifyTxSuccess_cases ctx.pendingMkaTxMeta _ with
        ⟨failed, -⟩ | ⟨-, -, result⟩
      · exact absurd accepted failed
      · change ({ ctx.control with
          mka := (ctx.control.mka.notifyTxSuccess _ _).2 }.clearPending).Backed
        rw [result]
        rcases ctx.control.mka.notifyDistributed_cases
            ctx.pendingMkaTxMeta with
          same | ⟨-, -, -, -, -, distributed⟩
        · rw [same]
          exact ⟨backed.receives, backed.rx, backed.tx⟩
        · rw [distributed]
          exact ⟨backed.receives, backed.rx, backed.tx⟩

/-- No call leaves an association without its slot. -/
theorem backed_of_step {call : Call} {ret : Err} {after : Control}
    (resting : ctx.control.Resting) (backed : ctx.control.Backed)
    (step : Step aes ctx call ret after) : after.Backed := by
  cases step with
  | passive silent same => exact backed.sameKeys same
  | built generated =>
      rcases generated with rfl | rfl
      · exact ⟨backed.receives, backed.rx, backed.tx⟩
      · exact backed.steps resting.mka
          (Mka.Participant.ensureForTx_keeps resting.mka.inv _).slots rfl
  | returned => exact ⟨backed.receives, backed.rx, backed.tx⟩
  | refused failed => exact ⟨backed.receives, backed.rx, backed.tx⟩
  | failed isMka accepted failed =>
      exact backed.steps resting.mka
        (Mka.Participant.processMkpdu_steps resting.mka.inv _ _ _) rfl
  | serviced serves prompts serviceable =>
      exact Control.backed_serviced (backed_of_prompts resting backed prompts)
        serviceable

theorem Reachable.backed (reachable : Reachable aes .mkaPsk ctx) :
    ctx.control.Backed := by
  obtain ⟨cfg, mi, start, mode, initialised, run⟩ := reachable
  refine (run.invariant
    (fun ctx => ctx.control.Resting ∧ ctx.control.Backed) ?_ ?_).2
  · refine ⟨init_resting mode initialised, ?_⟩
    rw [(init_mkaPsk mode initialised).1]
    refine ⟨?_, fun an valid => Bool.noConfusion valid,
      fun valid => Bool.noConfusion valid⟩
    change (Mka.Participant.start _ _ _ _ mi).completeInit.slots.OldReceives
    rw [Mka.completeInit_eq]
    exact fun present => absurd rfl present
  · intro ctx call ⟨resting, backed⟩
    exact ⟨perform_resting resting call,
      backed_of_step resting backed (perform_step resting call)⟩

/-! ## Keys that are gone -/

/-- A call brings a key to the participant: an MKPDU distributes it, or the key
is drawn at random where a SAK may be generated. -/
def Introduces (aes : BlockCipher) (ctx : Ctx) (key : Bytes) : Call → Prop
  | .input frame _ rnd =>
      (∃ pdu found, Mka.classify aes ctx.mka frame = .accepted pdu ∧
        pdu.distributedSak = .ok found ∧ found.sak = key) ∨ rnd.1 = key
  | .buildControlFrame _ rnd => rnd.1 = key
  | _ => False

/-- The participant has a SAK with the key. -/
def Knows (ctx : Control) (key : Bytes) : Prop :=
  ∃ an, ctx.mka.slots.Holds key an

/-- Whatever a participant reacts to, it only knows keys that it knew or was
brought. -/
theorem knows_of_processMkpdu {frame plain : Bytes} {rnd : Octets 16}
    {pdu : Mka.Mkpdu} {key : Bytes} {an : Fin 4}
    (resting : ctx.control.Resting)
    (accepted : Mka.classify aes ctx.mka frame = .accepted pdu)
    (holds : (ctx.mka.processMkpdu pdu rnd ctx.lastTickMs).2.slots.Holds key
      an) :
    Knows ctx.control key ∨
      Introduces aes ctx key (.input frame plain rnd) := by
  have steps :=
    Mka.Participant.processMkpdu_steps resting.mka.inv pdu rnd ctx.lastTickMs
  rcases steps.holds resting.mka.inv.slots holds with
    before | ⟨sak, ⟨found, scan, -, rfl⟩ | rfl, same⟩
  · exact Or.inl ⟨an, before⟩
  · exact Or.inr (Or.inl ⟨pdu, found, accepted, scan, same⟩)
  · exact Or.inr (Or.inr same)

theorem knows_of_prompts {call : Call} {before : Control} {key : Bytes}
    {an : Fin 4} (resting : ctx.control.Resting)
    (prompts : Prompts aes ctx call before)
    (holds : before.mka.slots.Holds key an) :
    Knows ctx.control key ∨ Introduces aes ctx key call := by
  cases prompts with
  | own isMka own => exact Or.inl ⟨an, holds⟩
  | heard isMka accepted processed =>
      exact knows_of_processMkpdu resting accepted holds
  | ticked nowMs =>
      change (ctx.control.mka.tick nowMs).2.slots.Holds key an at holds
      rw [(Mka.Participant.tick_serviceable resting.mka nowMs).2.2] at holds
      exact Or.inl ⟨an, holds⟩
  | @reported nowMs pending accepted =>
      rcases ctx.control.mka.notifyTxSuccess_cases ctx.pendingMkaTxMeta
          nowMs with
        ⟨failed, -⟩ | ⟨-, -, result⟩
      · exact absurd accepted failed
      · change (ctx.control.mka.notifyTxSuccess ctx.pendingMkaTxMeta
          nowMs).2.slots.Holds key an at holds
        rw [result] at holds
        rcases ctx.control.mka.notifyDistributed_cases
            ctx.pendingMkaTxMeta with
          same | ⟨-, pending, -, -, -, distributed⟩
        · rw [same] at holds
          exact Or.inl ⟨an, holds⟩
        · rw [distributed] at holds
          refine Or.inl ⟨an, holds.imp (fun ⟨_, same⟩ => ⟨?_, same⟩) id⟩
          rw [show ctx.control.mka.slots.latest.lifecycleState = _ from pending]
          exact Mka.SakState.noConfusion

/-- Servicing brings no key. -/
theorem Control.holds_of_serviced {ctx : Control} {key : Bytes} {an : Fin 4}
    (serviceable : ctx.mka.Serviceable)
    (holds : ctx.serviced.mka.slots.Holds key an) :
    ctx.mka.slots.Holds key an := by
  have drained (holds : ctx.drained.mka.slots.Holds key an) :
      ctx.mka.slots.Holds key an := by
    unfold Control.drained at holds
    dsimp only at holds
    split at holds
    next =>
        rcases holds with latest | ⟨present, -⟩
        · exact Or.inl latest
        · exact absurd rfl present
    next => exact holds
  unfold serviced at holds
  split at holds
  next available =>
      rw [← ctx.drained_latest] at available
      apply drained
      obtain ⟨-, present⟩ :=
        unused_of_available (drained_serviceable serviceable) available
      rcases holds with ⟨-, same⟩ | ⟨kept, same⟩
      · exact Or.inl ⟨present, same⟩
      · refine Or.inr ?_
        change (Mka.Participant.silencedSak
          ctx.drained.mka.oldSak).lifecycleState ≠ .none at kept
        change (Mka.Participant.silencedSak
          ctx.drained.mka.oldSak).Is key an at same
        unfold Mka.Participant.silencedSak at kept same
        split_ifs at kept same
        all_goals exact ⟨kept, same⟩
  next => exact drained holds

/-- A call leaves the participant with the keys it knew or was brought. -/
theorem knows_of_step {call : Call} {ret : Err} {after : Control}
    {key : Bytes} (resting : ctx.control.Resting)
    (step : Step aes ctx call ret after) (knows : Knows after key) :
    Knows ctx.control key ∨ Introduces aes ctx key call := by
  obtain ⟨an, holds⟩ := knows
  cases step with
  | passive silent same => exact Or.inl ⟨an, holds⟩
  | @built txMaxLen rnd ret mka txMeta pending generated =>
      rcases generated with rfl | rfl
      · exact Or.inl ⟨an, holds⟩
      · have steps :=
          (Mka.Participant.ensureForTx_keeps resting.mka.inv rnd).slots
        rcases steps.holds resting.mka.inv.slots holds with
          before | ⟨sak, rfl, same⟩
        · exact Or.inl ⟨an, before⟩
        · exact Or.inr same
  | returned => exact Or.inl ⟨an, holds⟩
  | refused failed => exact Or.inl ⟨an, holds⟩
  | failed isMka accepted failed =>
      exact knows_of_processMkpdu resting accepted holds
  | serviced serves prompts serviceable =>
      exact knows_of_prompts resting prompts
        (Control.holds_of_serviced serviceable holds)

/-- Every association has the key of a SAK that a slot holds.  A key that is
gone from the slots protects and opens no frame until it is brought again. -/
theorem no_orphan_keys (reachable : Reachable aes .mkaPsk ctx) :
    ((∀ an, (ctx.frameCrypto.rxSak an).valid = true →
        (ctx.frameCrypto.rxSak an).an = an ∧
          ctx.mka.slots.Holds (ctx.frameCrypto.rxSak an).key an) ∧
      (ctx.frameCrypto.txSak.valid = true →
        ctx.mka.slots.Holds ctx.frameCrypto.txSak.key
          ctx.frameCrypto.txSak.an)) ∧
    ∀ (key : Bytes) (calls : List Call),
      ¬Knows ctx.control key →
      (∀ event ∈ (machine aes).events ctx calls,
        ¬Introduces aes event.before key event.input) →
      let after := (machine aes).final ctx calls
      (∀ plain txMaxLen, (output aes after plain txMaxLen).2.ret = .ok →
        after.frameCrypto.txSak.key ≠ key) ∧
      ∀ frame plain rnd,
        (input aes after frame plain rnd).2.passToStack = true →
          (after.frameCrypto.rxSak (FrameCrypto.frameAn frame)).key ≠ key := by
  have shape := reachable.resting.mka.inv.slots
  refine ⟨⟨fun an valid => ?_, fun valid => ?_⟩, ?_⟩
  · obtain ⟨own, carries⟩ := reachable.backed.rx an valid
    exact ⟨own, carries.holds shape⟩
  · exact (reachable.backed.tx valid).holds shape
  · intro key calls unknown silent after
    obtain ⟨reached, gone⟩ :
        Reachable aes .mkaPsk after ∧ ¬Knows after.control key := by
      refine @Transition.Machine.guardedInvariant _ _ _ (machine aes)
        (fun ctx => Reachable aes .mkaPsk ctx ∧ ¬Knows ctx.control key)
        (fun event => ¬Introduces aes event.before key event.input) ?_ _
        ⟨reachable, unknown⟩ calls silent
      intro ctx call ⟨reachable, unknown⟩ brings
      refine ⟨reachable.final [call], fun knows => ?_⟩
      exact (knows_of_step reachable.resting
        (perform_step reachable.resting call) knows).elim unknown brings
    have mode := notDisabled_of_resting reached.resting
    have shape := reached.resting.mka.inv.slots
    refine ⟨fun plain txMaxLen sent same => ?_,
      fun frame plain rnd passed same => ?_⟩
    · rcases @output_cases aes after mode plain txMaxLen with
        ⟨ret, failed, result⟩ | ⟨-, result⟩
      · rw [result] at sent
        exact failed sent
      · rw [result] at sent
        rcases FrameCrypto.encrypt_cases aes after.frameCrypto plain
            txMaxLen with
          ⟨failed, -⟩ | ⟨-, valid, -⟩
        · exact failed sent
        · exact gone ⟨_, same ▸ (reached.backed.tx valid).holds shape⟩
    · rcases @input_cases aes after mode frame plain rnd with
        ⟨-, result⟩ | ⟨-, secured, result⟩ | ⟨-, ret, -, result⟩
      · rw [result] at passed
        exact Bool.false_ne_true passed
      · rw [result, (inputSecure_cases secured frame plain).2.2.1] at passed
        rcases FrameCrypto.decrypt_cases aes after.frameCrypto frame plain with
          ⟨failed, -⟩ | ⟨-, ready, -⟩
        · exact failed passed
        · simp only [FrameCrypto.readyRx, Bool.and_eq_true] at ready
          have carries := (reached.backed.rx _ ready.1.1).2
          exact gone ⟨_, same ▸ carries.holds shape⟩
      · rw [result] at passed
        exact Bool.false_ne_true passed

/-- A station sends under the SAK that it distributed to a live peer. -/
theorem station_key_held :
    ∃ ctx, Reachable BlockCipher.null .mkaPsk ctx ∧
      ctx.frameCrypto.txSak.valid = true ∧
        ctx.mka.slots.Holds ctx.frameCrypto.txSak.key
          ctx.frameCrypto.txSak.an := by
  obtain ⟨ctx, reachable, plays⟩ :=
    @exists_final BlockCipher.null 1 10 11
      [.hear Mka.admirer (Mka.sakOctets 1), Cue.build (Mka.sakOctets 2),
        .notifySuccess 5] (by decide)
  have valid : ctx.control.table.txSak.valid = true := by
    rw [plays.same]
    decide
  exact ⟨ctx, reachable, valid, (no_orphan_keys reachable).1.2 valid⟩

end Macsec
