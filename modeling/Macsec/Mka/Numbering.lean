import Macsec.Mka.Displacement
import Macsec.Mka.Schedule

/-!
# The number of an offered SAK

The report of a transmission is checked against the latest SAK: it must still be
a local one with the number that the frame offered.  A SAK that waits for its
first transmission has the number that the Key Server hands out next, every
other local one a different number.  So after a displacement the offered number
is back exactly if the SAK was still waiting and is generated again.
-/

namespace Macsec

namespace Mka

namespace Participant

variable {ctx after : Participant}

/-! ## Offers -/

/-- The latest SAK is a local one with the given number. -/
structure Offers (ctx : Participant) (keyNumber : UInt32) (an : Fin 4) :
    Prop where
  origin : ctx.latestSak.origin = .localKeyServer
  keyNumber : ctx.latestSak.keyNumber = keyNumber
  an : ctx.latestSak.an = an

/-- What is offered depends on the latest SAK alone. -/
theorem offers_congr (origin : after.latestSak.origin = ctx.latestSak.origin)
    (keyNumber : after.latestSak.keyNumber = ctx.latestSak.keyNumber)
    (an : after.latestSak.an = ctx.latestSak.an) :
    after.Offers = ctx.Offers := by
  funext number association
  apply propext
  constructor
  · intro offers
    exact ⟨origin ▸ offers.origin, keyNumber ▸ offers.keyNumber,
      an ▸ offers.an⟩
  · intro offers
    exact ⟨origin.trans offers.origin, keyNumber.trans offers.keyNumber,
      an.trans offers.an⟩

/-- A local SAK can be distributed. -/
theorem distributable_of_local (shape : LatestShape ctx.latestSak)
    (origin : ctx.latestSak.origin = .localKeyServer) :
    sakDistributable ctx.latestSak = true := by
  unfold LatestShape at shape
  unfold sakDistributable
  cases lifecycle : ctx.latestSak.lifecycleState with
  | none =>
      rw [lifecycle] at shape
      rw [shape] at origin
      exact SakOrigin.noConfusion origin
  | candidate =>
      rw [lifecycle] at shape
      rw [shape.2.1] at origin
      exact SakOrigin.noConfusion origin
  | retiring =>
      rw [lifecycle] at shape
      exact shape.elim
  | distributionPending | distributed | installPending | active | confirmed =>
      rfl

/-- The report on a Distributed SAK is accepted exactly if the SAK is still
offered. -/
theorem notifyDistributed_eq_ok_iff (shape : LatestShape ctx.latestSak)
    (txMeta : TxMeta) :
    (ctx.notifyDistributed txMeta).1 = .ok ↔
      (txMeta.containsDistributedSak = true →
        ctx.Offers txMeta.distributedKeyNumber txMeta.distributedAn) := by
  cases contains : txMeta.containsDistributedSak with
  | false =>
      rw [notifyDistributed, contains]
      exact ⟨fun _ contains => Bool.noConfusion contains, fun _ => rfl⟩
  | true =>
      constructor
      · intro ok _
        by_contra refused
        rw [notifyDistributed, contains, Bool.not_true,
          if_neg Bool.false_ne_true, if_pos] at ok
        · exact Err.noConfusion ok
        · by_contra offered
          simp only [Bool.or_eq_true, not_or, bne_iff_ne, ne_eq,
            not_not] at offered
          exact refused ⟨offered.1.1.2, offered.1.2, offered.2⟩
      · intro offers
        obtain ⟨origin, keyNumber, an⟩ := offers rfl
        rw [notifyDistributed, contains, Bool.not_true,
          if_neg Bool.false_ne_true, distributable_of_local shape origin,
          origin, keyNumber, an, if_neg (by simp)]
        split
        next pending =>
            rw [commitDistribution,
              setLatestState_of_allowed (by rw [pending]; rfl)]
            rfl
        next => rfl

/-- The report on the frame that is being sent is accepted exactly if the SAK of
the frame is still offered. -/
theorem notifyTxSuccess_eq_ok_iff (shape : LatestShape ctx.latestSak)
    {txMeta : TxMeta} (number : txMeta.messageNumber = ctx.localMn)
    (due : txMeta.reasons ≠ 0) (known : TxReason.Known txMeta.reasons)
    (nowMs : UInt32) :
    (ctx.notifyTxSuccess txMeta nowMs).1 = .ok ↔
      (txMeta.containsDistributedSak = true →
        ctx.Offers txMeta.distributedKeyNumber txMeta.distributedAn) := by
  rw [← notifyDistributed_eq_ok_iff shape]
  have noneUnknown : txMeta.reasons &&& ~~~TxReason.all = 0 := by
    simpa only [TxReason.Known, hasFlag, bne_eq_false_iff_eq] using known
  rw [notifyTxSuccess, if_neg (not_not_intro number), if_neg due,
    if_neg (not_not_intro noneUnknown)]
  rcases ctx.notifyDistributed txMeta with ⟨ret, distributed⟩
  cases ret with
  | ok => exact ⟨fun _ => rfl, fun _ => rfl⟩
  | param | buffer | crypto | state | replay | unsupported | auth | timeout
  | notReady | busy => exact Iff.rfl

/-- What the metadata of a frame say about the SAK in it. -/
theorem offers_txMeta (contains : ctx.txMeta.containsDistributedSak = true) :
    ctx.Offers ctx.txMeta.distributedKeyNumber ctx.txMeta.distributedAn := by
  have included : ctx.includeDistributedSak = true := contains
  refine ⟨?_, (if_pos included).symm, (if_pos included).symm⟩
  simp only [includeDistributedSak, Bool.and_eq_true, beq_iff_eq] at included
  exact included.1.2

/-! ## Numbers -/

/-- The SAK that waits for its first transmission has the next number, every
other local SAK has another one. -/
structure Numbered (ctx : Participant) : Prop where
  pending : ctx.latestSak.lifecycleState = .distributionPending →
    ctx.counters = (ctx.latestSak.keyNumber, ctx.latestSak.an)
  issued : ctx.latestSak.origin = .localKeyServer →
    ctx.latestSak.lifecycleState ≠ .distributionPending →
      ctx.keyServerNextKeyNumber ≠ ctx.latestSak.keyNumber

/-- An offered SAK has the next number exactly while it waits. -/
theorem Numbered.waits_iff (numbered : ctx.Numbered) {keyNumber : UInt32}
    {an : Fin 4} (offers : ctx.Offers keyNumber an) :
    ctx.latestSak.lifecycleState = .distributionPending ↔
      ctx.counters = (keyNumber, an) := by
  constructor
  · intro pending
    rw [numbered.pending pending, offers.keyNumber, offers.an]
  · intro next
    by_contra issued
    have other := numbered.issued offers.origin issued
    rw [offers.keyNumber] at other
    exact other (congrArg Prod.fst next)

/-- A SAK that only advances keeps its number. -/
theorem Numbered.keep (numbered : ctx.Numbered)
    (counters : after.counters = ctx.counters)
    (keyNumber : after.latestSak.keyNumber = ctx.latestSak.keyNumber)
    (an : after.latestSak.an = ctx.latestSak.an)
    (origin : after.latestSak.origin = ctx.latestSak.origin)
    (waits : after.latestSak.lifecycleState = .distributionPending ↔
      ctx.latestSak.lifecycleState = .distributionPending) :
    after.Numbered where
  pending := by
    rw [counters, keyNumber, an, waits]
    exact numbered.pending
  issued := by
    have next :
        after.keyServerNextKeyNumber = ctx.keyServerNextKeyNumber :=
      congrArg Prod.fst counters
    rw [origin, keyNumber, next, ne_eq, waits]
    exact numbered.issued

/-- A fresh SAK takes the next number. -/
theorem numbered_of_pendingSak {rnd : Octets 16}
    (latest : after.latestSak = ctx.pendingSak rnd)
    (counters : after.counters = ctx.counters) : after.Numbered where
  pending := by
    rw [latest, counters]
    exact fun _ => rfl
  issued := by
    rw [latest]
    exact fun _ issued => absurd rfl issued

/-- A SAK that is no local one does not count. -/
theorem numbered_of_foreign
    (issued : after.latestSak.lifecycleState ≠ .distributionPending)
    (foreign : after.latestSak.origin ≠ .localKeyServer) : after.Numbered where
  pending pending := absurd pending issued
  issued own := absurd own foreign

theorem numbered_ensureForTx (numbered : ctx.Numbered) (rnd : Octets 16) :
    (ctx.ensureForTx rnd).2.Numbered := by
  rcases ctx.ensureForTx_cases rnd with same | ⟨-, -, -, result⟩
  · rw [same]
    exact numbered
  · rw [result]
    exact @numbered_of_pendingSak ctx _ rnd rfl rfl

/-- The next number differs from the one that was just used up. -/
theorem committed_numbered
    (pending : ctx.latestSak.lifecycleState = .distributionPending)
    (numbered : ctx.Numbered) : ctx.committed.Numbered where
  pending waits := SakState.noConfusion waits
  issued _ _ := by
    change (if ctx.keyServerNextKeyNumber + 1 = 0 then 1
      else ctx.keyServerNextKeyNumber + 1) ≠ ctx.latestSak.keyNumber
    rw [← show ctx.keyServerNextKeyNumber = ctx.latestSak.keyNumber from
      congrArg Prod.fst (numbered.pending pending)]
    split
    next wrapped =>
        intro same
        rw [← same] at wrapped
        exact absurd wrapped (by decide)
    next =>
        intro same
        exact absurd (UInt32.add_eq_left.mp same) (by decide)

theorem numbered_notifyTxSuccess (numbered : ctx.Numbered) (txMeta : TxMeta)
    (nowMs : UInt32) : (ctx.notifyTxSuccess txMeta nowMs).2.Numbered := by
  rcases ctx.notifyTxSuccess_cases txMeta nowMs with
    ⟨-, same⟩ | ⟨-, -, result⟩
  · rw [same]
    exact numbered
  · rw [result]
    have distributed : (ctx.notifyDistributed txMeta).2.Numbered := by
      rcases ctx.notifyDistributed_cases txMeta with
        same | ⟨-, pending, -, -, -, distributed⟩
      · rw [same]
        exact numbered
      · rw [distributed]
        exact committed_numbered pending numbered
    exact distributed.keep rfl rfl rfl rfl Iff.rfl

/-! ## Received MKPDUs -/

variable {pdu : Mkpdu}

/-- After a displacement the offered SAK is a generated one. -/
theorem offers_of_displaces (inv : ctx.Inv) (displaces : ctx.Displaces pdu)
    (rnd : Octets 16) (nowMs : UInt32) (keyNumber : UInt32) (an : Fin 4) :
    (ctx.processMkpdu pdu rnd nowMs).2.Offers keyNumber an ↔
      ctx.counters = (keyNumber, an) ∧ ctx.Regenerates pdu := by
  rcases ctx.processMkpdu_slots inv pdu rnd nowMs with
    ⟨kept, -⟩ | ⟨-, sak, enters, slots⟩
  · exact absurd displaces kept
  · have latest := congrArg Slots.latest slots
    change (ctx.processMkpdu pdu rnd nowMs).2.latestSak = sak at latest
    rw [enters.regenerates_iff]
    constructor
    · rintro ⟨origin, number, association⟩
      rw [latest] at origin number association
      refine ⟨?_, origin⟩
      cases enters with
      | adopted => exact SakOrigin.noConfusion origin
      | generated => rw [← number, ← association]; rfl
      | dropped => exact SakOrigin.noConfusion origin
    · rintro ⟨next, origin⟩
      refine ⟨latest ▸ origin, ?_, ?_⟩
      all_goals
        rw [latest]
        cases enters with
        | adopted => exact SakOrigin.noConfusion origin
        | generated =>
            first
              | exact congrArg Prod.fst next
              | exact congrArg Prod.snd next
        | dropped => exact SakOrigin.noConfusion origin

theorem numbered_processMkpdu (inv : ctx.Inv) (numbered : ctx.Numbered)
    (pdu : Mkpdu) (rnd : Octets 16) (nowMs : UInt32) :
    (ctx.processMkpdu pdu rnd nowMs).2.Numbered := by
  have counters := ctx.processMkpdu_counters inv pdu rnd nowMs
  rcases ctx.processMkpdu_slots inv pdu rnd nowMs with
    ⟨kept, -⟩ | ⟨-, sak, enters, slots⟩
  · obtain ⟨-, keyNumber, an, origin, waits⟩ :=
      processMkpdu_keeps_number inv kept rnd nowMs
    exact numbered.keep counters keyNumber an origin waits
  · have latest := congrArg Slots.latest slots
    change (ctx.processMkpdu pdu rnd nowMs).2.latestSak = sak at latest
    cases enters with
    | generated => exact numbered_of_pendingSak latest counters
    | adopted | dropped =>
        apply numbered_of_foreign
        all_goals
          rw [latest]
          first
            | exact SakState.noConfusion
            | exact SakOrigin.noConfusion

/-- A received frame leaves the numbers of the participant alone. -/
theorem receive_counters (inv : ctx.Inv) (received : Received)
    (rnd : Octets 16) (nowMs : UInt32) :
    (ctx.receive received rnd nowMs).2.counters = ctx.counters ∧
      (ctx.receive received rnd nowMs).2.localMn = ctx.localMn := by
  cases received with
  | rejected ret => exact ⟨rfl, rfl⟩
  | own => exact ⟨rfl, rfl⟩
  | accepted pdu =>
      refine ⟨ctx.processMkpdu_counters inv pdu rnd nowMs, ?_⟩
      change (ctx.processMkpdu pdu rnd nowMs).2.localMn = ctx.localMn
      rcases ctx.processMkpdu_cases inv pdu rnd nowMs with
        ⟨-, same⟩ | ⟨-, rest, -⟩
      · rw [same]
      · rw [rest]
        rfl

theorem numbered_receive (inv : ctx.Inv) (numbered : ctx.Numbered)
    (received : Received) (rnd : Octets 16) (nowMs : UInt32) :
    (ctx.receive received rnd nowMs).2.Numbered := by
  cases received with
  | rejected ret => exact numbered
  | own => exact numbered
  | accepted pdu => exact numbered_processMkpdu inv numbered pdu rnd nowMs

end Participant

end Mka

end Macsec
