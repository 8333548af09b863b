import Macsec.Mka.Adoption
import Macsec.Mka.Moves

/-!
# What an MKPDU does to the latest SAK

An authenticated MKPDU is refused, or its sender is recorded.  In the latter
case the latest SAK stays, or it makes room for the SAK that the MKPDU
distributes, or a Key Server drops it for a new peer.  Only a SAK that stays may
be reported on by the SAK Use of the same MKPDU.
-/

namespace Macsec

namespace Mka

/-- The peer identity changes with an MKPDU unless the recorded peer sent it. -/
theorem not_peerIdentityChanged_iff {ctx : Participant} {basic : Basic} :
    ctx.peerIdentityChanged basic = false ↔
      ctx.peer.valid = true ∧ basic.actorMi = ctx.peer.mi ∧
        basic.sci = ctx.peer.sci ∧ basic.srcMac = ctx.peer.mac := by
  have known :
      ctx.peerIdentityChanged basic = false ↔
        ctx.peer.valid = true ∧ ctx.peer.mi = basic.actorMi ∧
          ctx.peer.sci = basic.sci ∧ ctx.peer.mac = basic.srcMac := by
    simp [Participant.peerIdentityChanged, and_assoc, compare_octets_eq_zero]
  rw [known]
  exact ⟨fun ⟨valid, mi, sci, mac⟩ => ⟨valid, mi.symm, sci.symm, mac.symm⟩,
    fun ⟨valid, mi, sci, mac⟩ => ⟨valid, mi.symm, sci.symm, mac.symm⟩⟩

namespace Participant

variable {ctx : Participant} {pdu : Mkpdu}

/-- Neither the scan for a Distributed SAK fails, nor is a slot missing for the
SAK it finds. -/
def Takes (ctx : Participant) (pdu : Mkpdu) : Prop :=
  scanFails pdu.distributedSak = false ∧
    (ctx.Distributes pdu →
      ctx.latestSak.lifecycleState = .none ∨
        ctx.oldSak.lifecycleState = .none)

/-- The sender of an MKPDU is new and loses the election. -/
def ServesNewPeer (ctx : Participant) (pdu : Mkpdu) : Prop :=
  ctx.peerIdentityChanged pdu.basic = true ∧
    ctx.keyServerPriority < pdu.basic.keyServerPriority

/-- A Key Server generates a SAK for a new peer that lists it, unless the SAK
that the MKPDU distributes takes the latest slot. -/
def Regenerates (ctx : Participant) (pdu : Mkpdu) : Prop :=
  ctx.ServesNewPeer pdu ∧ pdu.localSeen = true ∧
    (ctx.Distributes pdu → ctx.slots.superseded.lifecycleState = .none)

/-- The latest SAK leaves its slot with an MKPDU: for the SAK that is
distributed, or because a Key Server rekeys for a new peer. -/
def Displaces (ctx : Participant) (pdu : Mkpdu) : Prop :=
  ctx.Takes pdu ∧
    (ctx.Distributes pdu ∨
      (ctx.ServesNewPeer pdu ∧ ctx.latestSak.lifecycleState ≠ .none ∧
        ctx.oldSak.lifecycleState = .none))

/-- An MKPDU is processed beyond adoption precisely if it is taken. -/
theorem takes_iff (inv : ctx.Inv) :
    ctx.Takes pdu ↔
      (ctx.parseDistributedSak pdu.distributedSak).1 = .ok ∨
        (ctx.parseDistributedSak pdu.distributedSak).1 = .notReady := by
  unfold Takes Distributes
  cases scan : pdu.distributedSak with
  | error ret =>
      simp only [parseDistributedSak, scanFails, reduceCtorEq, false_and,
        exists_false, false_implies, and_true, Bool.and_eq_false_iff,
        bne_eq_false_iff_eq]
  | ok found =>
      simp only [parseDistributedSak, scanFails, true_and, Except.ok.injEq,
        exists_eq_left']
      rcases ctx.adoptDistributedSak_cases inv.latest found with
        ⟨same, result⟩ | ⟨different, present, occupied, result⟩ |
        ⟨different, room, result⟩
      · rw [result]
        simp [same]
      · rw [result]
        simp [different, present, occupied]
      · rw [result]
        simp [room]

/-- Only a malformed SAK Use is an error. -/
theorem parseSakUse_fails_iff (found : Except Err SakUse) :
    ((ctx.parseSakUse found).1 ≠ .ok ∧
        (ctx.parseSakUse found).1 ≠ .notReady) ↔ scanFails found = true := by
  cases found with
  | error ret => simp [parseSakUse, scanFails]
  | ok report =>
      simp only [parseSakUse, scanFails, Bool.false_eq_true, iff_false]
      split
      next => rw [confirmSak_eq]; exact fun failed => failed.1 rfl
      next => exact fun failed => failed.2 rfl

/-- An MKPDU is refused and leaves no trace, fails on its SAK Use after its
sender was recorded, or is processed to the end. -/
theorem processMkpdu_outcome (inv : ctx.Inv) (pdu : Mkpdu) (rnd : Octets 16)
    (nowMs : UInt32) :
    (¬ctx.Takes pdu ∧ (ctx.processMkpdu pdu rnd nowMs).1 ≠ .ok ∧
      (ctx.processMkpdu pdu rnd nowMs).2 = ctx) ∨
    (ctx.Takes pdu ∧ scanFails pdu.sakUse = true ∧
      (ctx.processMkpdu pdu rnd nowMs).1 ≠ .ok ∧
      (ctx.processMkpdu pdu rnd nowMs).2 = ctx.prepared pdu rnd nowMs) ∨
    (ctx.Takes pdu ∧ scanFails pdu.sakUse = false ∧
      ctx.processMkpdu pdu rnd nowMs =
        (.ok,
          ((ctx.prepared pdu rnd nowMs).parseSakUse
              pdu.sakUse).2.announceInput
            (ctx.peerIdentityChanged pdu.basic) (ctx.cameToLife pdu nowMs)
            false (ctx.electionFlipped pdu nowMs))) := by
  rw [takes_iff inv, ctx.processMkpdu_eq inv pdu rnd nowMs]
  dsimp only
  have fails := @parseSakUse_fails_iff (ctx.prepared pdu rnd nowMs) pdu.sakUse
  split
  next refused =>
      exact Or.inl ⟨not_or.mpr refused, refused.1, rfl⟩
  next taken =>
      rw [not_and_or, not_not, not_not] at taken
      refine Or.inr ?_
      split
      next failed =>
          refine Or.inl ⟨taken, fails.mp failed, failed.1, ?_⟩
          rcases (ctx.prepared pdu rnd nowMs).parseSakUse_cases pdu.sakUse with
            ⟨same, -⟩ | ⟨report, -, -, result⟩
          · exact same
          · rw [result] at failed
            exact absurd rfl failed.1
      next processed =>
          rw [fails, Bool.not_eq_true] at processed
          exact Or.inr ⟨taken, processed, rfl⟩

/-- Processing succeeds precisely if the MKPDU is taken and its SAK Use is well
formed. -/
theorem processMkpdu_ok_iff (inv : ctx.Inv) (pdu : Mkpdu) (rnd : Octets 16)
    (nowMs : UInt32) :
    (ctx.processMkpdu pdu rnd nowMs).1 = .ok ↔
      ctx.Takes pdu ∧ scanFails pdu.sakUse = false := by
  rcases ctx.processMkpdu_outcome inv pdu rnd nowMs with
    ⟨refused, failed, -⟩ | ⟨-, fails, failed, -⟩ | ⟨takes, succeeds, result⟩
  · exact iff_of_false failed fun both => refused both.1
  · refine iff_of_false failed fun both => ?_
    rw [fails] at both
    exact Bool.noConfusion both.2
  · rw [result]
    exact iff_of_true rfl ⟨takes, succeeds⟩

/-- A rekey for a new peer that is due and finds the old slot free replaces the
latest SAK, and nothing else happens. -/
theorem rekeyForPeer_slots (inv : ctx.Inv) (identityChanged : Bool)
    (rnd : Octets 16) :
    (¬(identityChanged = true ∧ ctx.localKeyServer = true ∧
          ctx.latestSak.lifecycleState ≠ .none ∧
          ctx.oldSak.lifecycleState = .none) ∧
      (ctx.rekeyForPeer identityChanged rnd).2 = ctx) ∨
    ((identityChanged = true ∧ ctx.localKeyServer = true ∧
          ctx.latestSak.lifecycleState ≠ .none ∧
          ctx.oldSak.lifecycleState = .none) ∧
      (ctx.rekeyForPeer identityChanged rnd).2.slots =
        ⟨ctx.rekeyedLatest rnd, ctx.slots.superseded⟩) := by
  rcases ctx.rekeyForPeer_cases inv identityChanged rnd with
    ⟨notDue, result⟩ | ⟨-, occupied, result⟩ |
    ⟨due, free, events, -, result⟩
  · rw [result]
    refine Or.inl ⟨fun conditions => ?_, rfl⟩
    simp [conditions] at notDue
  · rw [result]
    exact Or.inl ⟨fun conditions => occupied conditions.2.2.2, rfl⟩
  · rw [result]
    simp only [Bool.and_eq_true, bne_iff_ne] at due
    exact Or.inr ⟨⟨due.1.1, due.1.2, due.2, free⟩, rfl⟩

/-- An MKPDU that distributes no SAK leaves the slots alone. -/
theorem parseDistributedSak_of_silent (inv : ctx.Inv)
    (silent : ¬ctx.Distributes pdu) :
    (ctx.parseDistributedSak pdu.distributedSak).2 = ctx := by
  unfold Distributes at silent
  cases scan : pdu.distributedSak with
  | error ret => rfl
  | ok found =>
      rw [parseDistributedSak]
      rcases ctx.adoptDistributedSak_cases inv.latest found with
        ⟨-, result⟩ | ⟨-, -, -, result⟩ | ⟨different, -⟩
      · rw [result]
      · rw [result]
      · exact absurd ⟨found, scan, different⟩ silent

/-- The slots after adoption. -/
theorem introduced_slots (inv : ctx.Inv) (takes : ctx.Takes pdu)
    (nowMs : UInt32) :
    (¬ctx.Distributes pdu ∧ (ctx.introduced pdu nowMs).slots = ctx.slots) ∨
    (∃ found, pdu.distributedSak = .ok found ∧ ctx.sameSak found = false ∧
      (ctx.latestSak.lifecycleState = .none ∨
        ctx.oldSak.lifecycleState = .none) ∧
      (ctx.introduced pdu nowMs).slots =
        ⟨found.candidate, ctx.slots.superseded⟩) := by
  rw [takes_iff inv] at takes
  unfold introduced Distributes
  cases scan : pdu.distributedSak with
  | error ret =>
      refine Or.inl ⟨?_, rfl⟩
      rintro ⟨found, distributes, -⟩
      cases distributes
  | ok found =>
      rw [scan, parseDistributedSak] at takes
      rw [parseDistributedSak]
      rcases ctx.adoptDistributedSak_cases inv.latest found with
        ⟨same, result⟩ | ⟨-, -, -, result⟩ | ⟨different, room, result⟩
      · rw [result]
        refine Or.inl ⟨?_, rfl⟩
        rintro ⟨other, distributes, different⟩
        cases distributes
        rw [same] at different
        exact Bool.noConfusion different
      · rw [result] at takes
        rcases takes with failed | failed
        all_goals exact Err.noConfusion failed
      · rw [result]
        exact Or.inr ⟨found, rfl, different, room, rfl⟩

/-- The old slot stays free only if the SAK in the latest slot was never
installed. -/
theorem free_of_superseded
    (free : ctx.slots.superseded.lifecycleState = .none) :
    ctx.slots.superseded = ctx.oldSak := by
  unfold Slots.superseded at free ⊢
  split
  next installed =>
      rw [if_pos installed] at free
      exact SakState.noConfusion free
  next => rfl

/-- The latest slot after a rekey for a new peer: a fresh SAK if the MKPDU lists
the participant. -/
theorem rekeyedLatest_introduced (inv : ctx.Inv)
    (new : ctx.peerIdentityChanged pdu.basic = true) (rnd : Octets 16)
    (nowMs : UInt32) :
    (ctx.introduced pdu nowMs).rekeyedLatest rnd =
      if pdu.localSeen then ctx.pendingSak rnd else Sak.cleared := by
  rw [ctx.introduced_sameRest inv pdu nowMs]
  unfold rekeyedLatest
  change (if (true && (pdu.localSeen ||
    (!ctx.peerIdentityChanged pdu.basic && ctx.peer.live))) = true
      then _ else _) = _
  rw [new, Bool.not_true, Bool.false_and, Bool.or_false, Bool.true_and]
  rfl

/-- Before the SAK Use of an MKPDU is processed, the latest SAK stays, or makes
room for the distributed SAK, or was replaced for a new peer. -/
theorem prepared_cases (inv : ctx.Inv) (takes : ctx.Takes pdu)
    (rnd : Octets 16) (nowMs : UInt32) :
    ((¬ctx.Distributes pdu ∧
        ¬(ctx.ServesNewPeer pdu ∧ ctx.latestSak.lifecycleState ≠ .none ∧
          ctx.oldSak.lifecycleState = .none)) ∧
      (ctx.prepared pdu rnd nowMs).slots = ctx.slots) ∨
    (∃ found, pdu.distributedSak = .ok found ∧ ctx.sameSak found = false ∧
      (ctx.latestSak.lifecycleState = .none ∨
        ctx.oldSak.lifecycleState = .none) ∧
      ¬(ctx.ServesNewPeer pdu ∧
        ctx.slots.superseded.lifecycleState = .none) ∧
      (ctx.prepared pdu rnd nowMs).slots =
        ⟨found.candidate, ctx.slots.superseded⟩) ∨
    ((ctx.ServesNewPeer pdu ∧
        (ctx.Distributes pdu → ctx.slots.superseded.lifecycleState = .none) ∧
        ctx.oldSak.lifecycleState = .none ∧
        (ctx.Distributes pdu ∨ ctx.latestSak.lifecycleState ≠ .none)) ∧
      (ctx.prepared pdu rnd nowMs).slots =
        ⟨if pdu.localSeen then ctx.pendingSak rnd else Sak.cleared,
          ctx.slots.superseded⟩) := by
  have met := (ctx.introduced_keeps inv pdu nowMs).inv
  have wins : (ctx.introduced pdu nowMs).localKeyServer = true ↔
      ctx.keyServerPriority < pdu.basic.keyServerPriority := by
    rw [ctx.introduced_sameRest inv pdu nowMs]
    exact decide_eq_true_iff
  have rekey :=
    rekeyForPeer_slots met (ctx.peerIdentityChanged pdu.basic) rnd
  rw [wins] at rekey
  have introduced := ctx.introduced_slots inv takes nowMs
  have latest : (ctx.introduced pdu nowMs).latestSak =
      (ctx.introduced pdu nowMs).slots.latest := rfl
  have old : (ctx.introduced pdu nowMs).oldSak =
      (ctx.introduced pdu nowMs).slots.old := rfl
  rcases introduced with
    ⟨silent, slots⟩ | ⟨found, scan, different, room, slots⟩
  · rw [latest, old, slots] at rekey
    rcases rekey with ⟨notDue, same⟩ | ⟨⟨new, server, present, free⟩, result⟩
    · refine Or.inl ⟨⟨silent, fun due => notDue ?_⟩, ?_⟩
      · exact ⟨due.1.1, due.1.2, due.2⟩
      · rw [prepared, same, slots]
    · refine Or.inr (Or.inr ⟨⟨⟨new, server⟩, fun due => absurd due silent,
        free, Or.inr present⟩, ?_⟩)
      rw [prepared, result, rekeyedLatest_introduced inv new]
  · rw [latest, old, slots] at rekey
    rcases rekey with ⟨notDue, same⟩ | ⟨⟨new, server, present, free⟩, result⟩
    · refine Or.inr (Or.inl ⟨found, scan, different, room, ?_, ?_⟩)
      · exact fun due =>
          notDue ⟨due.1.1, due.1.2, SakState.noConfusion, due.2⟩
      · rw [prepared, same, slots]
    · have same := free_of_superseded free
      change ctx.slots.superseded.lifecycleState = .none at free
      have empty := free
      rw [same] at empty
      refine Or.inr (Or.inr ⟨⟨⟨new, server⟩, fun _ => free, empty,
        Or.inl ⟨found, scan, different⟩⟩, ?_⟩)
      rw [prepared, result, rekeyedLatest_introduced inv new]
      rfl

/-- An MKPDU is refused, or its sender is recorded and its SAK Use may report on
the latest SAK. -/
theorem processMkpdu_cases (inv : ctx.Inv) (pdu : Mkpdu) (rnd : Octets 16)
    (nowMs : UInt32) :
    (¬ctx.Takes pdu ∧ (ctx.processMkpdu pdu rnd nowMs).2 = ctx) ∨
    (ctx.Takes pdu ∧
      (ctx.met pdu.basic pdu.localSeen nowMs).SameRest
        (ctx.processMkpdu pdu rnd nowMs).2 ∧
      ((ctx.processMkpdu pdu rnd nowMs).2.slots =
          (ctx.prepared pdu rnd nowMs).slots ∧
        (∀ report, pdu.sakUse = .ok report →
          (ctx.prepared pdu rnd nowMs).sakUseApplies report = false) ∨
      ∃ report, pdu.sakUse = .ok report ∧
        (ctx.prepared pdu rnd nowMs).sakUseApplies report = true ∧
        (ctx.processMkpdu pdu rnd nowMs).2.slots =
          { (ctx.prepared pdu rnd nowMs).slots with
            latest :=
              reportedSak (ctx.prepared pdu rnd nowMs).latestSak report })) := by
  have rest := ctx.prepared_sameRest inv pdu rnd nowMs
  rw [ctx.processMkpdu_eq inv pdu rnd nowMs]
  dsimp only
  split
  next refused =>
      refine Or.inl ⟨fun takes => ?_, rfl⟩
      rcases (takes_iff inv).mp takes with ok | idle
      · exact refused.1 ok
      · exact refused.2 idle
  next taken =>
      rw [not_and_or, not_not, not_not] at taken
      refine Or.inr ⟨(takes_iff inv).mpr taken, ?_⟩
      rcases (ctx.prepared pdu rnd nowMs).parseSakUse_cases pdu.sakUse with
        ⟨same, silent⟩ | ⟨report, scan, applies, result⟩
      · rw [same]
        split
        next =>
            rw [same]
            exact ⟨rest, Or.inl ⟨rfl, silent⟩⟩
        next =>
            obtain ⟨events, reasons, -, announced⟩ :=
              (ctx.prepared pdu rnd nowMs).announceInput_eq
                (ctx.peerIdentityChanged pdu.basic) (ctx.cameToLife pdu nowMs)
                (ctx.electionFlipped pdu nowMs)
            rw [announced]
            exact ⟨rest.trans rfl, Or.inl ⟨rfl, silent⟩⟩
      · rw [result, if_neg (fun failed => failed.1 rfl)]
        obtain ⟨events, reasons, -, announced⟩ :=
          ({ ctx.prepared pdu rnd nowMs with
              latestSak :=
                reportedSak (ctx.prepared pdu rnd nowMs).latestSak report
              pendingEvents :=
                (ctx.prepared pdu rnd nowMs).pendingEvents |||
                  (ctx.prepared pdu rnd nowMs).reportEvents report
              } : Participant).announceInput_eq
            (ctx.peerIdentityChanged pdu.basic) (ctx.cameToLife pdu nowMs)
            (ctx.electionFlipped pdu nowMs)
        rw [announced]
        exact ⟨rest.trans rfl, Or.inr ⟨report, scan, applies, rfl⟩⟩

/-- An MKPDU changes the slots by adoption, a rekey and a report. -/
theorem processMkpdu_steps (inv : ctx.Inv) (pdu : Mkpdu) (rnd : Octets 16)
    (nowMs : UInt32) :
    Slots.Steps (ctx.Joins pdu rnd) ctx.slots
      (ctx.processMkpdu pdu rnd nowMs).2.slots := by
  have prepared := ctx.prepared_keeps inv pdu rnd nowMs
  rcases ctx.processMkpdu_cases inv pdu rnd nowMs with
    ⟨-, same⟩ | ⟨-, -, ⟨same, -⟩ | ⟨report, -, applies, reported⟩⟩
  · rw [same]
    exact .refl
  · rw [same]
    exact prepared.slots
  · rw [reported]
    exact prepared.slots.tail
      (step_reportedSak _ prepared.inv.latest applies)

/-- Received MKPDUs leave the counters of the Key Server alone. -/
theorem processMkpdu_counters (inv : ctx.Inv) (pdu : Mkpdu)
    (rnd : Octets 16) (nowMs : UInt32) :
    (ctx.processMkpdu pdu rnd nowMs).2.counters = ctx.counters := by
  rcases ctx.processMkpdu_cases inv pdu rnd nowMs with
    ⟨-, same⟩ | ⟨-, rest, -⟩
  · rw [same]
  · rw [rest]
    rfl

/-- A report is about the latest SAK: it names the key number, the association
number and the Key Server, and the SAK was distributed or installed. -/
def ReportedBy (ctx : Participant) (pdu : Mkpdu) (report : SakUse) : Prop :=
  (ctx.latestSak.lifecycleState = .distributed ∨
      ctx.latestSak.lifecycleState = .installPending ∨
      ctx.latestSak.lifecycleState = .active ∨
      ctx.latestSak.lifecycleState = .confirmed) ∧
    (if ctx.keyServerPriority < pdu.basic.keyServerPriority then
      ctx.latestSak.origin = .localKeyServer ∧
        report.keyServerMi = ctx.localMi
    else
      ctx.latestSak.origin = .remoteKeyServer ∧
        report.keyServerMi = pdu.basic.actorMi) ∧
    report.keyNumber = ctx.latestSak.keyNumber ∧ report.an = ctx.latestSak.an

/-- If the latest SAK stays, the reports about it are those that apply. -/
theorem sakUseApplies_prepared (inv : ctx.Inv) {rnd : Octets 16}
    {nowMs : UInt32} (kept : (ctx.prepared pdu rnd nowMs).slots = ctx.slots)
    (report : SakUse) :
    (ctx.prepared pdu rnd nowMs).sakUseApplies report = true ↔
      ctx.ReportedBy pdu report := by
  have rest := ctx.prepared_sameRest inv pdu rnd nowMs
  rw [Participant.SameRest, kept] at rest
  rw [rest]
  simp only [sakUseApplies, withSlots, slots, met, metPeer, ReportedBy,
    Bool.and_eq_true, Bool.or_eq_true, beq_iff_eq, bne_iff_ne, ne_eq,
    decide_eq_true_iff, or_assoc, and_assoc]
  by_cases wins : ctx.keyServerPriority < pdu.basic.keyServerPriority
  · simp only [if_pos wins, Bool.and_eq_true, beq_iff_eq,
      compare_octets_eq_zero]
    constructor
    · rintro ⟨states, -, owned, rest⟩
      exact ⟨states, owned, rest⟩
    · rintro ⟨states, owned, rest⟩
      refine ⟨states, ?_, owned, rest⟩
      rw [owned.1]
      exact SakOrigin.noConfusion
  · simp only [if_neg wins, Bool.and_eq_true, beq_iff_eq,
      compare_octets_eq_zero, and_true]
    constructor
    · rintro ⟨states, -, owned, rest⟩
      exact ⟨states, owned, rest⟩
    · rintro ⟨states, owned, rest⟩
      refine ⟨states, ?_, owned, rest⟩
      rw [owned.1]
      exact SakOrigin.noConfusion

/-- A SAK that takes the place of the latest one. -/
inductive Enters (ctx : Participant) (pdu : Mkpdu) (rnd : Octets 16) :
    Sak → Prop
  | adopted {found : DistributedSak}
      (distributes : pdu.distributedSak = .ok found)
      (different : ctx.sameSak found = false)
      (stays : ¬(ctx.ServesNewPeer pdu ∧
        ctx.slots.superseded.lifecycleState = .none)) :
      Enters ctx pdu rnd found.candidate
  | generated (regenerates : ctx.Regenerates pdu) :
      Enters ctx pdu rnd (ctx.pendingSak rnd)
  | dropped (serves : ctx.ServesNewPeer pdu)
      (unlisted : pdu.localSeen = false) :
      Enters ctx pdu rnd Sak.cleared

/-- The SAK that enters the latest slot is a local one exactly if it is
generated. -/
theorem Enters.regenerates_iff {rnd : Octets 16} {sak : Sak}
    (enters : ctx.Enters pdu rnd sak) :
    ctx.Regenerates pdu ↔ sak.origin = .localKeyServer := by
  cases enters with
  | adopted distributes different stays =>
      refine ⟨fun regenerates => absurd ?_ stays,
        fun own => SakOrigin.noConfusion own⟩
      exact ⟨regenerates.1, regenerates.2.2 ⟨_, distributes, different⟩⟩
  | generated regenerates => exact ⟨fun _ => rfl, fun _ => regenerates⟩
  | dropped serves unlisted =>
      refine ⟨fun regenerates => ?_, fun own => SakOrigin.noConfusion own⟩
      exact Bool.noConfusion (regenerates.2.1.symm.trans unlisted)

/-- No report is about a SAK that just entered the latest slot. -/
theorem Enters.not_applies {rnd : Octets 16} {sak : Sak}
    (enters : ctx.Enters pdu rnd sak) {after : Participant}
    (latest : after.latestSak = sak) (report : SakUse) :
    after.sakUseApplies report = false := by
  rw [← Bool.not_eq_true]
  intro applies
  have states := lifecycle_of_sakUseApplies applies
  rw [latest] at states
  cases enters with
  | adopted | generated | dropped =>
      rcases states with lifecycle | lifecycle | lifecycle | lifecycle
      all_goals exact SakState.noConfusion lifecycle

/-- Nothing was confirmed about a SAK that just entered the latest slot. -/
theorem Enters.clear {rnd : Octets 16} {sak : Sak}
    (enters : ctx.Enters pdu rnd sak) :
    sak.peerRxConfirmed = false ∧ sak.peerTxConfirmed = false := by
  cases enters with
  | adopted | generated | dropped => exact ⟨rfl, rfl⟩

/-- An MKPDU leaves the slots alone apart from a report on the latest SAK, or
displaces the latest SAK. -/
theorem processMkpdu_slots (inv : ctx.Inv) (pdu : Mkpdu) (rnd : Octets 16)
    (nowMs : UInt32) :
    (¬ctx.Displaces pdu ∧
      ((ctx.processMkpdu pdu rnd nowMs).2.slots = ctx.slots ∧
          (ctx.Takes pdu → ∀ report, pdu.sakUse = .ok report →
            ¬ctx.ReportedBy pdu report) ∨
        ∃ report, pdu.sakUse = .ok report ∧ ctx.ReportedBy pdu report ∧
          (ctx.processMkpdu pdu rnd nowMs).2.slots =
            { ctx.slots with latest := reportedSak ctx.latestSak report })) ∨
    (ctx.Displaces pdu ∧ ∃ sak, ctx.Enters pdu rnd sak ∧
      (ctx.processMkpdu pdu rnd nowMs).2.slots =
        ⟨sak, ctx.slots.superseded⟩) := by
  rcases ctx.processMkpdu_cases inv pdu rnd nowMs with
    ⟨refused, same⟩ | ⟨takes, -, outcome⟩
  · rw [same]
    exact Or.inl ⟨fun displaces => refused displaces.1,
      Or.inl ⟨rfl, fun takes => absurd takes refused⟩⟩
  · have entered {sak : Sak} (enters : ctx.Enters pdu rnd sak)
        (slots : (ctx.prepared pdu rnd nowMs).slots =
          ⟨sak, ctx.slots.superseded⟩) :
        (ctx.processMkpdu pdu rnd nowMs).2.slots =
          ⟨sak, ctx.slots.superseded⟩ := by
      rcases outcome with ⟨same, -⟩ | ⟨report, -, applies, -⟩
      · rw [same, slots]
      · rw [enters.not_applies (congrArg Slots.latest slots)] at applies
        exact Bool.noConfusion applies
    rcases ctx.prepared_cases inv takes rnd nowMs with
      ⟨⟨silent, notDue⟩, slots⟩ |
      ⟨found, scan, different, -, stays, slots⟩ |
      ⟨⟨serves, freed, free, due⟩, slots⟩
    · refine Or.inl ⟨fun displaces => displaces.2.elim silent notDue, ?_⟩
      have latest : (ctx.prepared pdu rnd nowMs).latestSak = ctx.latestSak :=
        congrArg Slots.latest slots
      simp only [← Bool.not_eq_true, sakUseApplies_prepared inv slots, slots,
        latest] at outcome
      exact outcome.imp (fun same => ⟨same.1, fun _ => same.2⟩) id
    · exact Or.inr ⟨⟨takes, Or.inl ⟨found, scan, different⟩⟩, _,
        .adopted scan different stays,
        entered (.adopted scan different stays) slots⟩
    · have displaces : ctx.Displaces pdu :=
        ⟨takes, due.imp id fun present => ⟨serves, present, free⟩⟩
      cases listed : pdu.localSeen with
      | true =>
          rw [if_pos listed] at slots
          have regenerates : ctx.Regenerates pdu := ⟨serves, listed, freed⟩
          exact Or.inr ⟨displaces, _, .generated regenerates,
            entered (.generated regenerates) slots⟩
      | false =>
          rw [listed, if_neg Bool.false_ne_true] at slots
          exact Or.inr ⟨displaces, _, .dropped serves listed,
            entered (.dropped serves listed) slots⟩

/-- A report does not end the wait for the first transmission. -/
theorem reportedSak_waits_iff {report : SakUse}
    (reported : ctx.ReportedBy pdu report) :
    (reportedSak ctx.latestSak report).lifecycleState = .distributionPending ↔
      ctx.latestSak.lifecycleState = .distributionPending := by
  change reportedLifecycle _ _ = _ ↔ _
  unfold reportedLifecycle
  rcases reported.1 with lifecycle | lifecycle | lifecycle | lifecycle
  all_goals
    rw [lifecycle]
    split_ifs
    all_goals simp

/-- An MKPDU that does not displace the latest SAK leaves its key and number
alone. -/
theorem processMkpdu_keeps_number (inv : ctx.Inv)
    (kept : ¬ctx.Displaces pdu) (rnd : Octets 16) (nowMs : UInt32) :
    let latest := (ctx.processMkpdu pdu rnd nowMs).2.latestSak
    latest.sak = ctx.latestSak.sak ∧
      latest.keyNumber = ctx.latestSak.keyNumber ∧
      latest.an = ctx.latestSak.an ∧
      latest.origin = ctx.latestSak.origin ∧
      (latest.lifecycleState = .distributionPending ↔
        ctx.latestSak.lifecycleState = .distributionPending) := by
  dsimp only
  rcases ctx.processMkpdu_slots inv pdu rnd nowMs with
    ⟨-, ⟨slots, -⟩ | ⟨report, -, reported, slots⟩⟩ | ⟨displaces, -⟩
  · have latest := congrArg Slots.latest slots
    change (ctx.processMkpdu pdu rnd nowMs).2.latestSak = ctx.latestSak
      at latest
    rw [latest]
    exact ⟨rfl, rfl, rfl, rfl, Iff.rfl⟩
  · have latest := congrArg Slots.latest slots
    change (ctx.processMkpdu pdu rnd nowMs).2.latestSak =
      reportedSak ctx.latestSak report at latest
    rw [latest]
    exact ⟨rfl, rfl, rfl, rfl, reportedSak_waits_iff reported⟩
  · exact absurd displaces kept

/-- A processed MKPDU records its sender. -/
theorem processMkpdu_follows (inv : ctx.Inv) {pdu : Mkpdu}
    (takes : ctx.Takes pdu) (rnd : Octets 16) (nowMs : UInt32) :
    let after := (ctx.processMkpdu pdu rnd nowMs).2
    after.peer = ctx.metPeer pdu.basic pdu.localSeen nowMs ∧
      after.state = ctx.metState pdu.basic pdu.localSeen := by
  dsimp only
  rcases ctx.processMkpdu_cases inv pdu rnd nowMs with
    ⟨refused, -⟩ | ⟨-, rest, -⟩
  · exact absurd takes refused
  · rw [SameRest] at rest
    rw [rest]
    exact ⟨rfl, rfl⟩

end Participant

end Mka

end Macsec
