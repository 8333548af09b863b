import Macsec.Api.Completion
import Macsec.Api.Orphans
import Macsec.Api.Rediscovery

/-!
# The latest SAK in the data plane

Once the latest SAK is in use, its receive and its transmit association hold its
key.  Installation puts the key there, and later calls leave it there with one
exception: when the old SAK is retired, its receive association is cleared
whatever key it has by then.  If the latest SAK got the same association number,
its own association is gone.
-/

namespace Macsec

namespace Control

variable {ctx : Control}

/-- Both associations of a SAK in use have its key. -/
def Placed (ctx : Control) : Prop :=
  ctx.mka.InUse →
    ((ctx.table.rxSak ctx.mka.latestSak.an).valid = true ∧
        (ctx.table.rxSak ctx.mka.latestSak.an).key = ctx.mka.latestSak.sak) ∧
      ctx.table.txSak.valid = true ∧
        ctx.table.txSak.key = ctx.mka.latestSak.sak ∧
        ctx.table.txSak.an = ctx.mka.latestSak.an

/-- The latest SAK is confirmed, and an old one with its association number is
about to be retired. -/
def Contended (ctx : Control) : Prop :=
  ctx.mka.latestSak.lifecycleState = .confirmed ∧
    ctx.mka.oldSak.lifecycleState = .retiring ∧
    ctx.mka.oldSak.an = ctx.mka.latestSak.an

/-- A confirmed SAK without an old one is not contended. -/
theorem not_contended_of_freed (freed : ctx.mka.Freed) : ¬ctx.Contended := by
  rintro ⟨confirmed, retiring, -⟩
  rw [freed confirmed] at retiring
  exact Mka.SakState.noConfusion retiring

/-- A SAK stays in place as long as its key, its association number and the keys
of the associations stay. -/
theorem Placed.keep {after : Control} (placed : ctx.Placed)
    (same : ctx.table.SameKeys after.table)
    (kept : after.mka.InUse →
      ctx.mka.InUse ∧
        after.mka.latestSak.sak = ctx.mka.latestSak.sak ∧
        after.mka.latestSak.an = ctx.mka.latestSak.an) :
    after.Placed := by
  intro used
  obtain ⟨before, key, an⟩ := kept used
  obtain ⟨⟨rxValid, rxKey⟩, txValid, txKey, txAn⟩ := placed before
  obtain ⟨sameRxKey, -, sameRxValid⟩ := same.rx ctx.mka.latestSak.an
  obtain ⟨sameTxKey, sameTxAn, sameTxValid⟩ := same.tx
  rw [key, an]
  exact ⟨⟨sameRxValid.trans rxValid, sameRxKey.trans rxKey⟩,
    sameTxValid.trans txValid, sameTxKey.trans txKey, sameTxAn.trans txAn⟩

theorem Placed.of_latest {after : Control} (placed : ctx.Placed)
    (same : ctx.table.SameKeys after.table)
    (latest : after.mka.latestSak = ctx.mka.latestSak) : after.Placed := by
  refine placed.keep same fun used => ?_
  unfold Mka.Participant.InUse at used
  rw [latest] at used ⊢
  exact ⟨used, rfl, rfl⟩

/-- Retirement leaves the latest SAK in place unless it shares its association
number with the old one. -/
theorem placed_retired_iff (placed : ctx.Placed) (used : ctx.mka.InUse)
    (installed : ctx.mka.oldSak.rxInstalled = true) :
    ctx.retired.Placed ↔ ctx.mka.oldSak.an ≠ ctx.mka.latestSak.an := by
  obtain ⟨rx, txValid, txKey, txAn⟩ := placed used
  constructor
  · intro kept same
    obtain ⟨⟨valid, -⟩, -⟩ := kept used
    change ((removedTable ctx.table ctx.mka.oldSak).rxSak
      ctx.mka.latestSak.an).valid = true at valid
    rw [rxSak_removedTable installed, if_pos same.symm] at valid
    exact Bool.noConfusion valid
  · intro other _
    have tx :
        (removedTable ctx.table ctx.mka.oldSak).txSak = ctx.table.txSak := by
      rw [txSak_removedTable, if_neg]
      rw [Bool.and_eq_true, Bool.and_eq_true, beq_iff_eq, txAn]
      exact fun removed => other removed.2.2.symm
    change (((removedTable ctx.table ctx.mka.oldSak).rxSak
          ctx.mka.latestSak.an).valid = true ∧
        ((removedTable ctx.table ctx.mka.oldSak).rxSak
          ctx.mka.latestSak.an).key = ctx.mka.latestSak.sak) ∧
      (removedTable ctx.table ctx.mka.oldSak).txSak.valid = true ∧
        (removedTable ctx.table ctx.mka.oldSak).txSak.key =
          ctx.mka.latestSak.sak ∧
        (removedTable ctx.table ctx.mka.oldSak).txSak.an =
          ctx.mka.latestSak.an
    rw [rxSak_removedTable installed, if_neg (Ne.symm other), tx]
    exact ⟨rx, txValid, txKey, txAn⟩

/-- The first round of events retires the old SAK precisely behind a confirmed
one. -/
theorem placed_drained_iff (placed : ctx.Placed)
    (serviceable : ctx.mka.Serviceable) (freeing : ctx.mka.Freeing)
    (receives : ctx.mka.slots.OldReceives) :
    ctx.drained.Placed ↔ ¬ctx.Contended := by
  unfold drained
  dsimp only
  split
  next retire =>
      have confirmed := serviceable.confirmed retire.1
      have installed : ctx.mka.oldSak.rxInstalled = true := by
        refine receives fun absent => ?_
        exact Mka.SakState.noConfusion (retire.2.symm.trans absent)
      have iff :=
        @placed_retired_iff
          { ctx with
            state := if hasFlag ctx.mka.pendingEvents Mka.EventFlag.peerLost
              then .waitMka else ctx.state
            mka := { ctx.mka with pendingEvents := 0 } }
          placed (Or.inr confirmed) installed
      rw [iff]
      exact ⟨fun other contended => other contended.2.2,
        fun free same => free ⟨confirmed, retire.2, same⟩⟩
  next kept =>
      refine iff_of_true placed ?_
      rintro ⟨confirmed, retiring, -⟩
      rcases freeing confirmed with absent | requested
      · exact Mka.SakState.noConfusion (retiring.symm.trans absent)
      · exact kept ⟨requested, retiring⟩

/-- Installation puts the latest SAK in place. -/
theorem placed_activated (ctx : Control) : ctx.activated.Placed := by
  intro _
  have rxSame :
      (txTable (rxTable ctx.table ctx.mka.latestSak.sak ctx.mka.latestSak.an
          ctx.mka.latestSak.lowestPn) ctx.mka.latestSak.sak
          ctx.mka.latestSak.an).rxSak =
        (rxTable ctx.table ctx.mka.latestSak.sak ctx.mka.latestSak.an
          ctx.mka.latestSak.lowestPn).rxSak := by
    unfold txTable
    split_ifs
    · rfl
    · rfl
  have valid :
      ((rxTable ctx.table ctx.mka.latestSak.sak ctx.mka.latestSak.an
        ctx.mka.latestSak.lowestPn).rxSak ctx.mka.latestSak.an).valid = true ∧
      (txTable (rxTable ctx.table ctx.mka.latestSak.sak ctx.mka.latestSak.an
          ctx.mka.latestSak.lowestPn) ctx.mka.latestSak.sak
          ctx.mka.latestSak.an).txSak.valid = true := by
    constructor
    · unfold rxTable
      split
      next same => exact (sakEqual_iff.mp same).1
      next =>
          dsimp only
          rw [Function.update_self]
          unfold FrameCrypto.normalizeRx
          dsimp only
          split_ifs
          all_goals rfl
    · unfold txTable
      split
      next same =>
          rw [Bool.and_eq_true, sakEqual_iff] at same
          exact same.1.1
      next => rfl
  change (((txTable _ _ _).rxSak ctx.mka.latestSak.an).valid = true ∧
      ((txTable _ _ _).rxSak ctx.mka.latestSak.an).key =
        ctx.mka.latestSak.sak) ∧
    (txTable _ _ _).txSak.valid = true ∧
      (txTable _ _ _).txSak.key = ctx.mka.latestSak.sak ∧
      (txTable _ _ _).txSak.an = ctx.mka.latestSak.an
  rw [rxSame]
  exact ⟨⟨valid.1, ((rxSak_rxTable _).2 rfl).1⟩, valid.2, txSak_txTable.1,
    txSak_txTable.2⟩

/-- So servicing leaves the latest SAK in place unless it is contended. -/
theorem placed_serviced_iff (placed : ctx.Placed)
    (serviceable : ctx.mka.Serviceable) (freeing : ctx.mka.Freeing)
    (receives : ctx.mka.slots.OldReceives) :
    ctx.serviced.Placed ↔ ¬ctx.Contended := by
  unfold serviced
  split
  next available =>
      refine iff_of_true (placed_activated ctx.drained) ?_
      rintro ⟨confirmed, -⟩
      exact Mka.Participant.InUse.notDue (Or.inr confirmed) available
  next => exact placed_drained_iff placed serviceable freeing receives

end Control

variable {aes : BlockCipher} {ctx : Ctx}

/-- An MKPDU confirms the latest SAK and so has an old one with the same
association number retired. -/
def Call.Unseats (aes : BlockCipher) (ctx : Ctx) : Call → Prop
  | .input frame _ _ =>
      ∃ pdu report, Mka.classify aes ctx.mka frame = .accepted pdu ∧
        (ctx.mka.Takes pdu ∧ ¬ctx.mka.Displaces pdu) ∧
        (pdu.sakUse = .ok report ∧ ctx.mka.ReportedBy pdu report ∧
          report.latestRx = true ∧ report.latestTx = true) ∧
        ctx.mka.latestSak.lifecycleState = .active ∧
        ctx.mka.oldSak.lifecycleState = .retiring ∧
        ctx.mka.oldSak.an = ctx.mka.latestSak.an
  | _ => False

/-- Such a call services the key agreement with success. -/
theorem serves_of_unseats (resting : ctx.control.Resting) {call : Call}
    (unseats : call.Unseats aes ctx) :
    (perform aes ctx call).2.ret = .ok ∧ call.Serves := by
  cases call with
  | input frame plain rnd =>
      obtain ⟨pdu, report, accepted, ⟨takes, -⟩, ⟨scan, -⟩, -⟩ := unseats
      have processed :
          (ctx.control.mka.processMkpdu pdu rnd ctx.lastTickMs).1 = .ok :=
        (Mka.Participant.processMkpdu_ok_iff resting.mka.inv pdu rnd _).mpr
          ⟨takes, by rw [scan]; rfl⟩
      have outcome :=
        Control.receiveMka_cases resting (.accepted pdu)
          (fun same => Mka.Received.noConfusion same) rnd
      dsimp only at outcome
      refine ⟨?_, Mka.isEapolMka_of_accepted accepted⟩
      change (input aes ctx frame plain rnd).2.ret = .ok
      rw [(input_of_accepted resting accepted plain rnd).2]
      rcases outcome with ⟨failed, -, -⟩ | ⟨-, -, result⟩
      · exact absurd processed failed
      · rw [result]
  | output | tick | buildControlFrame | notifyControlTxSuccess
  | notifyControlTxFailure => exact unseats.elim

/-- An MKPDU leaves a SAK in use where it is. -/
theorem placed_processed {ctx : Control} (inv : ctx.mka.Inv)
    (placed : ctx.Placed) (pdu : Mka.Mkpdu) (rnd : Octets 16) :
    { ctx with
      mka := (ctx.mka.processMkpdu pdu rnd ctx.lastTickMs).2 }.Placed := by
  refine placed.keep (.refl _) fun used => ?_
  by_cases displaces : ctx.mka.Displaces pdu
  · exact absurd used
      (Mka.Participant.processMkpdu_displaced inv displaces rnd _)
  · obtain ⟨key, -, an, -⟩ :=
      Mka.Participant.processMkpdu_keeps_number inv displaces rnd
        ctx.lastTickMs
    exact ⟨(Mka.Participant.processMkpdu_kept inv displaces rnd _).1.mp used,
      key, an⟩

/-- What the participant reacts to makes the latest SAK contended precisely if
the call unseats it. -/
theorem contended_of_prompts {call : Call} {before : Control}
    (resting : ctx.control.Resting) (freed : ctx.control.mka.Freed)
    (prompts : Prompts aes ctx call before) :
    before.Contended ↔ call.Unseats aes ctx := by
  have inv := resting.mka.inv
  cases prompts with
  | own isMka own =>
      refine iff_of_false (Control.not_contended_of_freed freed) ?_
      rintro ⟨pdu, report, accepted, -⟩
      exact Mka.Received.noConfusion (own.symm.trans accepted)
  | @heard frame plain rnd pdu isMka accepted processed =>
      have takes :=
        ((Mka.Participant.processMkpdu_ok_iff inv pdu rnd _).mp processed).1
      have only {other : Mka.Mkpdu}
          (same : Mka.classify aes ctx.mka frame = .accepted other) :
          pdu = other := by
        rw [accepted] at same
        exact Mka.Received.accepted.inj same
      rcases Mka.Participant.processMkpdu_slots inv pdu rnd
          ctx.lastTickMs with
        ⟨kept, ⟨slots, silent⟩ | ⟨report, scan, reported, slots⟩⟩ |
        ⟨displaces, sak, enters, slots⟩
      · refine iff_of_false ?_ ?_
        · unfold Control.Contended
          change ¬((ctx.control.mka.processMkpdu pdu rnd
              ctx.lastTickMs).2.slots.latest.lifecycleState = _ ∧
            (ctx.control.mka.processMkpdu pdu rnd
              ctx.lastTickMs).2.slots.old.lifecycleState = _ ∧ _)
          rw [slots]
          rintro ⟨confirmed, retiring, -⟩
          exact Mka.SakState.noConfusion
            (retiring.symm.trans (freed confirmed))
        · rintro ⟨other, report, same, -, ⟨scan, reported, -⟩, -⟩
          cases only same
          exact silent takes report scan reported
      · unfold Control.Contended
        change (ctx.control.mka.processMkpdu pdu rnd
            ctx.lastTickMs).2.slots.latest.lifecycleState = _ ∧
          (ctx.control.mka.processMkpdu pdu rnd
            ctx.lastTickMs).2.slots.old.lifecycleState = _ ∧
          (ctx.control.mka.processMkpdu pdu rnd
            ctx.lastTickMs).2.slots.old.an =
            (ctx.control.mka.processMkpdu pdu rnd
              ctx.lastTickMs).2.slots.latest.an ↔ _
        rw [slots]
        change Mka.Participant.reportedLifecycle
            ctx.mka.latestSak.lifecycleState
            (report.latestRx && report.latestTx) = .confirmed ∧
          ctx.mka.oldSak.lifecycleState = .retiring ∧
          ctx.mka.oldSak.an = ctx.mka.latestSak.an ↔ _
        constructor
        · rintro ⟨confirmed, retiring, same⟩
          unfold Mka.Participant.reportedLifecycle at confirmed
          split_ifs at confirmed with both active
          · rw [Bool.and_eq_true] at both
            exact ⟨pdu, report, accepted, ⟨takes, kept⟩,
              ⟨scan, reported, both⟩, active, retiring, same⟩
          · exact absurd (freed confirmed)
              (fun absent => Mka.SakState.noConfusion
                (retiring.symm.trans absent))
          · exact absurd (freed confirmed)
              (fun absent => Mka.SakState.noConfusion
                (retiring.symm.trans absent))
        · rintro ⟨other, report', same, -, ⟨scan', -, rx, tx⟩, active,
            retiring, sameAn⟩
          cases only same
          cases scan.symm.trans scan'
          rw [rx, tx, active]
          exact ⟨rfl, retiring, sameAn⟩
      · refine iff_of_false ?_ ?_
        · rintro ⟨confirmed, -⟩
          have used :
              (ctx.control.mka.processMkpdu pdu rnd ctx.lastTickMs).2.InUse :=
            Or.inr confirmed
          exact Mka.Participant.processMkpdu_displaced inv displaces rnd
            ctx.lastTickMs used
        · rintro ⟨other, report, same, ⟨-, kept⟩, -⟩
          cases only same
          exact kept displaces
  | ticked nowMs =>
      refine iff_of_false (Control.not_contended_of_freed ?_) id
      exact Mka.Participant.freed_tick inv freed nowMs
  | reported pending accepted =>
      refine iff_of_false (Control.not_contended_of_freed ?_) id
      exact Mka.Participant.freed_notifyTxSuccess freed _ _

/-- Whatever the participant reacts to, a SAK in use stays where it is. -/
theorem placed_of_prompts {call : Call} {before : Control}
    (resting : ctx.control.Resting) (placed : ctx.control.Placed)
    (prompts : Prompts aes ctx call before) : before.Placed := by
  have inv := resting.mka.inv
  cases prompts with
  | own isMka own => exact placed
  | @heard frame plain rnd pdu isMka accepted processed =>
      exact placed_processed inv placed pdu rnd
  | ticked nowMs =>
      exact placed.of_latest (.refl _)
        (Mka.Participant.tick_follows inv nowMs).1
  | @reported nowMs pending accepted =>
      obtain ⟨-, -, first, later⟩ :=
        Mka.Participant.notifyTxSuccess_follows accepted
      by_cases distributing : ctx.control.mka.Distributing ctx.pendingMkaTxMeta
      · refine placed.keep (.refl _) fun used => ?_
        have distributed := first distributing
        rcases used with active | confirmed
        · exact Mka.SakState.noConfusion (distributed.symm.trans active)
        · exact Mka.SakState.noConfusion (distributed.symm.trans confirmed)
      · refine placed.of_latest (.refl _) ?_
        exact later distributing

/-- No call moves a SAK in use out of place, unless it unseats it. -/
theorem placed_perform_iff (reachable : Reachable aes .mkaPsk ctx)
    (placed : ctx.control.Placed) (call : Call) :
    (perform aes ctx call).1.control.Placed ↔ ¬call.Unseats aes ctx := by
  have resting := reachable.resting
  have step := @perform_step aes ctx resting call
  have served := @serves_of_unseats aes ctx resting call
  generalize (perform aes ctx call).2.ret = ret at step served
  generalize (perform aes ctx call).1.control = after at step
  cases step with
  | passive silent same =>
      refine iff_of_true (placed.of_latest same rfl) fun unseats => ?_
      exact silent (served unseats).1 (served unseats).2
  | @built txMaxLen rnd ret mka txMeta pending generated =>
      refine iff_of_true ?_ id
      rcases generated with rfl | rfl
      · exact placed.of_latest (.refl _) rfl
      · refine placed.keep (.refl _) fun used => ?_
        have same := Mka.Participant.ensureForTx_inUse used
        have kept : (ctx.mka.toParticipant.ensureForTx rnd).2.InUse := used
        change _ ∧ (ctx.mka.toParticipant.ensureForTx rnd).2.latestSak.sak = _ ∧
          (ctx.mka.toParticipant.ensureForTx rnd).2.latestSak.an = _
        rw [same] at kept ⊢
        exact ⟨kept, rfl, rfl⟩
  | returned => exact iff_of_true (placed.of_latest (.refl _) rfl) id
  | refused failed =>
      exact iff_of_true (placed.of_latest (.refl _) rfl)
        fun unseats => failed.1 (served unseats).1
  | @failed frame plain rnd pdu isMka accepted failed =>
      refine iff_of_true ?_ fun unseats => failed.1 (served unseats).1
      exact (placed_processed resting.mka.inv placed pdu rnd).of_latest
        (.refl _) rfl
  | @serviced call before serves prompts serviceable =>
      rw [Control.placed_serviced_iff (placed_of_prompts resting placed prompts)
        serviceable (freeing_of_prompts resting reachable.freed prompts)
        (backed_of_prompts resting reachable.backed prompts).receives,
        contended_of_prompts resting reachable.freed prompts]

/-- In every run, the SAK in use is in place after every call that serviced the
key agreement with success, precisely if no call unseats it. -/
theorem latest_sak_placed_iff {cfg : Config} {mi : Octets 12}
    (mode : cfg.mode = .mkaPsk)
    (initialised : init aes cfg mi = (.ok, ctx)) (calls : List Call) :
    (∀ event ∈ (machine aes).events ctx calls, event.input.Serves →
        event.output.ret = .ok →
        let latest := event.after.mka.latestSak
        let table := event.after.frameCrypto.toSaTable
        latest.lifecycleState = .active ∨ latest.lifecycleState = .confirmed →
          ((table.rxSak latest.an).valid = true ∧
              (table.rxSak latest.an).key = latest.sak) ∧
            table.txSak.valid = true ∧ table.txSak.key = latest.sak ∧
              table.txSak.an = latest.an) ↔
      ∀ event ∈ (machine aes).events ctx calls,
        ¬event.input.Unseats aes event.before := by
  have start : Reachable aes .mkaPsk ctx :=
    ⟨cfg, mi, ctx, mode, initialised, Transition.Machine.Reachable.refl _ _⟩
  have initial : ctx.control.Placed := by
    obtain ⟨-, -, absent, -⟩ := init_waits mode initialised
    rintro (active | confirmed)
    · exact Mka.SakState.noConfusion (absent.symm.trans active)
    · exact Mka.SakState.noConfusion (absent.symm.trans confirmed)
  have keep (ctx : Ctx) (call : Call) (reachable : Reachable aes .mkaPsk ctx) :
      Reachable aes .mkaPsk ((machine aes).step ctx call).1 :=
    reachable.final [call]
  have serving : ∀ event ∈ (machine aes).events ctx calls,
      event.input.Unseats aes event.before →
        event.output.ret = .ok ∧ event.input.Serves :=
    @Transition.Machine.forall_guarded _ _ _ (machine aes)
      (fun ctx => Reachable aes .mkaPsk ctx) (fun _ => True)
      (fun event => event.input.Unseats aes event.before →
        event.output.ret = .ok ∧ event.input.Serves)
      (fun ctx call reachable _ => keep ctx call reachable)
      (fun ctx call reachable _ => serves_of_unseats reachable.resting)
      ctx start calls fun _ _ => trivial
  have placed :=
    @Transition.Machine.good_iff_guarded _ _ _ (machine aes)
      (fun ctx => Reachable aes .mkaPsk ctx) (fun ctx => ctx.control.Placed)
      (fun _ => True)
      (fun event => event.input.Serves ∧ event.output.ret = .ok)
      (fun event => event.input.Serves ∧ event.output.ret = .ok →
        ¬event.input.Unseats aes event.before)
      (fun event unwatched watched => absurd watched unwatched)
      (fun ctx call reachable _ => keep ctx call reachable)
      (fun ctx call reachable placed _ => ?_)
      ctx start initial calls fun _ _ => trivial
  · constructor
    · intro everyPlaced event member unseats
      obtain ⟨succeeded, serves⟩ := serving event member unseats
      exact placed.mp (fun event member watched =>
        everyPlaced event member watched.1 watched.2) event member
        ⟨serves, succeeded⟩ unseats
    · intro kept event member serves succeeded
      exact placed.mpr (fun event member _ => kept event member) event member
        ⟨serves, succeeded⟩
  · refine (placed_perform_iff reachable placed call).trans ?_
    refine ⟨fun kept _ => kept, fun kept unseats => ?_⟩
    obtain ⟨succeeded, serves⟩ := serves_of_unseats reachable.resting unseats
    exact kept ⟨serves, succeeded⟩ unseats

/-- A station that adopted a SAK transmits under it. -/
theorem supplied_placed :
    let after := (perform BlockCipher.null (stationCtx BlockCipher.null 1 10 11)
      (hearSupplier BlockCipher.null)).1
    after.frameCrypto.txSak.valid = true ∧
      after.frameCrypto.txSak.key = after.mka.latestSak.sak := by
  obtain ⟨after, ret⟩ := perform_hearSupplier BlockCipher.null
  have used :
      (perform BlockCipher.null (stationCtx BlockCipher.null 1 10 11)
        (hearSupplier BlockCipher.null)).1.control.mka.InUse := by
    rw [after]
    unfold Mka.Participant.InUse
    decide
  have serves : (hearSupplier BlockCipher.null).Serves :=
    isEapolMka_hearSupplier BlockCipher.null
  have seated : ∀ event ∈ (machine BlockCipher.null).events
      (stationCtx BlockCipher.null 1 10 11) [hearSupplier BlockCipher.null],
      ¬event.input.Unseats BlockCipher.null event.before := by
    rintro event member unseats
    rw [List.mem_singleton.mp member] at unseats
    obtain ⟨pdu, report, -, -, -, active, -⟩ := unseats
    exact Mka.SakState.noConfusion active
  obtain ⟨-, valid, key, -⟩ :=
    (latest_sak_placed_iff rfl (init_stationCtx BlockCipher.null 1 10 11)
      [hearSupplier BlockCipher.null]).mpr seated _ List.mem_cons_self serves
      ret used
  exact ⟨valid, key⟩

/-- A station installs the SAK of its Key Server and that of the restarted one,
which then confirms it. -/
def succession : List Cue :=
  [.hear Mka.supplier (Mka.sakOctets 1),
    .hear Mka.successor (Mka.sakOctets 2),
    .hear Mka.incumbent (Mka.sakOctets 3), .tick 5]

/-- Under every cipher the retirement of an old SAK removes the association of
the latest one. -/
theorem not_forall_latest_sak_placed :
    ¬∃ aes, ∀ (cfg : Config) (mi : Octets 12) (start : Ctx)
        (calls : List Call),
      cfg.mode = .mkaPsk → init aes cfg mi = (.ok, start) →
      ∀ event ∈ (machine aes).events start calls, event.input.Serves →
        event.output.ret = .ok →
        let latest := event.after.mka.latestSak
        let table := event.after.frameCrypto.toSaTable
        latest.lifecycleState = .active ∨ latest.lifecycleState = .confirmed →
          ((table.rxSak latest.an).valid = true ∧
              (table.rxSak latest.an).key = latest.sak) ∧
            table.txSak.valid = true ∧ table.txSak.key = latest.sak ∧
              table.txSak.an = latest.an := by
  rintro ⟨aes, alwaysPlaced⟩
  have playable : ∀ event ∈ (stage Mka.stationCkn).events
      (stationControl 1 10 11) succession,
      event.input.Playable event.before := by
    decide
  rw [← Mka.ckn_stations aes] at playable
  have played :=
    @Plays.final aes _ _ _ (plays_stationCtx aes 1 10 11) succession playable
  rw [Mka.ckn_stations] at played
  have placed :=
    alwaysPlaced _ _ _ (succession.map (Cue.call aes
      (MkaCrypto.keysOf aes Mka.stationCak Mka.stationCkn))) rfl
      (init_stationCtx aes 1 10 11)
  generalize calls : succession.map (Cue.call aes
    (MkaCrypto.keysOf aes Mka.stationCak Mka.stationCkn)) = run
    at placed played
  have last : run = run.dropLast ++ [.tick 5] := by
    rw [← calls]
    rfl
  have inPlace :
      ((machine aes).final (stationCtx aes 1 10 11) run).control.Placed := by
    have resting :=
      ((reachable_stationCtx aes 1 10 11).final run.dropLast).resting
    rw [last] at placed ⊢
    rw [Transition.Machine.events_concat] at placed
    rw [Transition.Machine.final_concat]
    exact placed _ (List.mem_append_right _ List.mem_cons_self) trivial
      (congrArg Prod.fst (Control.tick_eq resting 5))
  rw [played.same] at inPlace
  unfold Control.Placed Mka.Participant.InUse at inPlace
  revert inPlace
  decide

end Macsec
