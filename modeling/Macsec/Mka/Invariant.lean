import Mathlib.Logic.Relation
import Macsec.Mka.Participant

/-!
# The invariant of the participant state machine

What each state of the lifecycle says about a SAK slot, how the participant
state follows the peer record, and how the protocol may change the two slots.
-/

namespace Macsec

namespace Mka

/-! ## Shapes -/

/-- A SAK nobody uses yet. -/
structure Sak.Unused (sak : Sak) : Prop where
  rx : sak.rxInstalled = false
  tx : sak.txInstalled = false
  peerRx : sak.peerRxConfirmed = false
  peerTx : sak.peerTxConfirmed = false

/-- A slot that holds a SAK. -/
structure Sak.Held (sak : Sak) : Prop where
  length : sakLenValid sak.sak.length = true
  keyNumber : sak.keyNumber ≠ 0
  origin : sak.origin ≠ .none

/-- What the lifecycle says about the latest slot. -/
def LatestShape (sak : Sak) : Prop :=
  match sak.lifecycleState with
  | .none => sak = Sak.cleared
  | .candidate => sak.Held ∧ sak.origin = .remoteKeyServer ∧ sak.Unused
  | .distributionPending =>
      sak.Held ∧ sak.origin = .localKeyServer ∧ sak.Unused
  | .distributed =>
      sak.Held ∧ sak.origin = .localKeyServer ∧
        sak.rxInstalled = false ∧ sak.txInstalled = false
  | .installPending =>
      sak.Held ∧ ¬(sak.rxInstalled = true ∧ sak.txInstalled = true)
  | .active =>
      sak.Held ∧ sak.rxInstalled = true ∧ sak.txInstalled = true
  | .confirmed =>
      sak.Held ∧ sak.rxInstalled = true ∧ sak.txInstalled = true ∧
        sak.peerRxConfirmed = true ∧ sak.peerTxConfirmed = true
  | .retiring => False

/-- The old slot is empty or holds a retiring SAK. -/
def OldShape (sak : Sak) : Prop :=
  match sak.lifecycleState with
  | .none => sak = Sak.cleared
  | .retiring => sak.Held
  | _ => False

/-- How the participant state follows the peer record. -/
def PeerShape (state : State) (peer : Peer) : Prop :=
  match state with
  | .waitPeer => peer.valid = false ∧ peer.live = false
  | .peerDiscovered => peer.valid = true ∧ peer.live = false
  | .peerLive => peer.valid = true ∧ peer.live = true
  | .operational => peer.valid = true ∧ peer.live = true
  | .init => False
  | .error => False

instance (sak : Sak) : Decidable sak.Unused :=
  decidable_of_iff
    (sak.rxInstalled = false ∧ sak.txInstalled = false ∧
      sak.peerRxConfirmed = false ∧ sak.peerTxConfirmed = false)
    ⟨fun ⟨rx, tx, peerRx, peerTx⟩ => ⟨rx, tx, peerRx, peerTx⟩,
      fun unused => ⟨unused.rx, unused.tx, unused.peerRx, unused.peerTx⟩⟩

instance (sak : Sak) : Decidable sak.Held :=
  decidable_of_iff
    (sakLenValid sak.sak.length = true ∧ sak.keyNumber ≠ 0 ∧
      sak.origin ≠ .none)
    ⟨fun ⟨length, keyNumber, origin⟩ => ⟨length, keyNumber, origin⟩,
      fun held => ⟨held.length, held.keyNumber, held.origin⟩⟩

instance (sak : Sak) : Decidable (LatestShape sak) := by
  unfold LatestShape
  exact
    match sak.lifecycleState with
    | .none => inferInstance
    | .candidate => inferInstance
    | .distributionPending => inferInstance
    | .distributed => inferInstance
    | .installPending => inferInstance
    | .active => inferInstance
    | .confirmed => inferInstance
    | .retiring => inferInstance

namespace LatestShape

variable {sak : Sak}

theorem eq_cleared (shape : LatestShape sak)
    (empty : sak.lifecycleState = .none) : sak = Sak.cleared := by
  simpa only [LatestShape, empty] using shape

theorem held (shape : LatestShape sak)
    (present : sak.lifecycleState ≠ .none) : sak.Held := by
  unfold LatestShape at shape
  cases lifecycle : sak.lifecycleState with
  | none => exact absurd lifecycle present
  | retiring =>
      rw [lifecycle] at shape
      exact shape.elim
  | candidate | distributionPending | distributed | installPending | active
  | confirmed =>
      rw [lifecycle] at shape
      exact shape.1

/-- A SAK with an installed direction is being installed or in use. -/
theorem of_installed (shape : LatestShape sak)
    (installed : (sak.rxInstalled || sak.txInstalled) = true) :
    sak.lifecycleState = .installPending ∨ sak.lifecycleState = .active ∨
      sak.lifecycleState = .confirmed := by
  unfold LatestShape at shape
  cases lifecycle : sak.lifecycleState with
  | none =>
      rw [lifecycle] at shape
      rw [shape] at installed
      exact absurd installed (by decide)
  | candidate | distributionPending =>
      rw [lifecycle] at shape
      have unused := shape.2.2
      simp [unused.rx, unused.tx] at installed
  | distributed =>
      rw [lifecycle] at shape
      simp [shape.2.2.1, shape.2.2.2] at installed
  | installPending => exact Or.inl rfl
  | active => exact Or.inr (Or.inl rfl)
  | confirmed => exact Or.inr (Or.inr rfl)
  | retiring =>
      rw [lifecycle] at shape
      exact shape.elim

/-- A SAK in use is installed in both directions. -/
theorem installed (shape : LatestShape sak)
    (inUse : sak.lifecycleState = .active ∨ sak.lifecycleState = .confirmed) :
    sak.rxInstalled = true ∧ sak.txInstalled = true := by
  unfold LatestShape at shape
  rcases inUse with lifecycle | lifecycle
  · rw [lifecycle] at shape
    exact shape.2
  · rw [lifecycle] at shape
    exact ⟨shape.2.1, shape.2.2.1⟩

theorem not_retiring (shape : LatestShape sak) :
    sak.lifecycleState ≠ .retiring := by
  intro lifecycle
  simp only [LatestShape, lifecycle] at shape

end LatestShape

namespace OldShape

variable {sak : Sak}

/-- An occupied old slot is retiring. -/
theorem retiring (shape : OldShape sak)
    (present : sak.lifecycleState ≠ .none) :
    sak.lifecycleState = .retiring := by
  unfold OldShape at shape
  cases lifecycle : sak.lifecycleState with
  | none => exact absurd lifecycle present
  | retiring => rfl
  | candidate | distributionPending | distributed | installPending | active
  | confirmed =>
      rw [lifecycle] at shape
      exact shape.elim

end OldShape

/-! ## Shapes of new SAKs -/

theorem latestShape_cleared : LatestShape Sak.cleared := rfl

theorem oldShape_cleared : OldShape Sak.cleared := rfl

/-- An adopted Distributed SAK, a candidate for installation. -/
def DistributedSak.candidate (found : DistributedSak) : Sak :=
  { found.toSak with lifecycleState := .candidate }

theorem latestShape_candidate (found : DistributedSak) :
    LatestShape found.candidate :=
  ⟨⟨found.sakLen, found.keyNumberNonzero, SakOrigin.noConfusion⟩, rfl,
    ⟨rfl, rfl, rfl, rfl⟩⟩

/-! ## The two slots -/

/-- The contents of the two slots of a participant. -/
structure Slots where
  latest : Sak
  old : Sak

namespace Slots

/-- The old slot once the latest SAK is superseded: the latest SAK, if it was
installed. -/
def superseded (slots : Slots) : Sak :=
  if slots.latest.rxInstalled || slots.latest.txInstalled then
    { slots.latest with
      lifecycleState := .retiring
      peerRxConfirmed := false
      peerTxConfirmed := false }
  else
    slots.old

/-- Both slots keep to the lifecycle. -/
structure Shape (slots : Slots) : Prop where
  latest : LatestShape slots.latest
  old : OldShape slots.old

/-- The changes a received MKPDU or a rekey makes to the slots.  A SAK enters
the latest slot as a candidate or for distribution, and satisfies a given
condition. -/
inductive Step (fresh : Sak → Prop) : Slots → Slots → Prop
  | replace {slots : Slots} {sak : Sak}
      (room : slots.latest.lifecycleState = .none ∨
        slots.old.lifecycleState = .none)
      (shape : LatestShape sak)
      (unused : sak.Unused)
      (waiting : sak.lifecycleState = .candidate ∨
        sak.lifecycleState = .distributionPending)
      (isFresh : fresh sak) :
      Step fresh slots ⟨sak, slots.superseded⟩
  | clear {slots : Slots}
      (free : slots.old.lifecycleState = .none) :
      Step fresh slots ⟨Sak.cleared, slots.superseded⟩
  | report {slots : Slots} {lifecycle : SakState} {peerRx peerTx : Bool}
      (known : slots.latest.lifecycleState ≠ .none)
      (kept : lifecycle = slots.latest.lifecycleState ∨
        ((slots.latest.lifecycleState = .active ∨
            slots.latest.lifecycleState = .confirmed) ∧
          (lifecycle = .active ∨ lifecycle = .confirmed)))
      (shape : LatestShape
        { slots.latest with
          lifecycleState := lifecycle
          peerRxConfirmed := peerRx
          peerTxConfirmed := peerTx }) :
      Step fresh slots
        { slots with
          latest :=
            { slots.latest with
              lifecycleState := lifecycle
              peerRxConfirmed := peerRx
              peerTxConfirmed := peerTx } }

/-- Any number of changes. -/
def Steps (fresh : Sak → Prop) : Slots → Slots → Prop :=
  Relation.ReflTransGen (Step fresh)

variable {slots : Slots} {fresh : Sak → Prop}

/-- An uninstalled SAK is dropped when it is superseded. -/
theorem superseded_of_unused (rx : slots.latest.rxInstalled = false)
    (tx : slots.latest.txInstalled = false) : slots.superseded = slots.old := by
  rw [superseded, rx, tx]
  rfl

theorem Shape.superseded (shape : slots.Shape) :
    OldShape slots.superseded := by
  unfold Slots.superseded
  split
  next installed =>
      have held : slots.latest.Held := by
        apply shape.latest.held
        rcases shape.latest.of_installed installed with
          lifecycle | lifecycle | lifecycle
        all_goals rw [lifecycle]; exact SakState.noConfusion
      exact ⟨held.length, held.keyNumber, held.origin⟩
  next => exact shape.old

/-- Every change keeps to the lifecycle. -/
theorem Step.shape {after : Slots} (step : Step fresh slots after)
    (shape : slots.Shape) : after.Shape := by
  cases step with
  | replace room sakShape unused waiting isFresh =>
      exact ⟨sakShape, shape.superseded⟩
  | clear free => exact ⟨latestShape_cleared, shape.superseded⟩
  | report known kept reported => exact ⟨reported, shape.old⟩

theorem Steps.shape {after : Slots} (steps : Steps fresh slots after)
    (shape : slots.Shape) : after.Shape := by
  induction steps with
  | refl => exact shape
  | tail steps step inductionHypothesis => exact step.shape inductionHypothesis

/-- A property of the slots that every change keeps is kept by all changes. -/
theorem Steps.invariant {inv : Slots → Prop} {after : Slots}
    (steps : Steps fresh slots after) (start : inv slots)
    (keep : ∀ before after, Step fresh before after → inv before → inv after) :
    inv after := by
  induction steps with
  | refl => exact start
  | tail steps step inductionHypothesis =>
      exact keep _ _ step inductionHypothesis

/-- A weaker condition on new SAKs admits the same changes. -/
theorem Steps.mono {weaker : Sak → Prop} {after : Slots}
    (steps : Steps fresh slots after)
    (weaken : ∀ sak, fresh sak → weaker sak) : Steps weaker slots after := by
  refine Relation.ReflTransGen.mono ?_ _ _ steps
  intro before after step
  cases step with
  | replace room shape unused waiting isFresh =>
      exact .replace room shape unused waiting (weaken _ isFresh)
  | clear free => exact .clear free
  | report known kept shape => exact .report known kept shape

/-- No SAK is between its distribution and the end of its installation. -/
def Settled (slots : Slots) : Prop :=
  slots.latest.lifecycleState ≠ .distributed ∧
    slots.latest.lifecycleState ≠ .installPending

theorem Step.settled {after : Slots} (step : Step fresh slots after)
    (settled : slots.Settled) : after.Settled := by
  cases step with
  | replace room shape unused waiting isFresh =>
      rcases waiting with lifecycle | lifecycle
      all_goals
        rw [Settled, lifecycle]
        exact ⟨SakState.noConfusion, SakState.noConfusion⟩
  | clear free => exact ⟨SakState.noConfusion, SakState.noConfusion⟩
  | report known kept shape =>
      rcases kept with same | ⟨-, lifecycle | lifecycle⟩
      · exact ⟨same ▸ settled.1, same ▸ settled.2⟩
      all_goals
        rw [Settled, lifecycle]
        exact ⟨SakState.noConfusion, SakState.noConfusion⟩

end Slots

/-- The slots of a participant. -/
def Participant.slots (ctx : Participant) : Slots where
  latest := ctx.latestSak
  old := ctx.oldSak

/-- Replace the slots, the pending events and the transmit reasons. -/
def Participant.withSlots (ctx : Participant) (slots : Slots)
    (events reasons : UInt32) : Participant :=
  { ctx with
    latestSak := slots.latest
    oldSak := slots.old
    pendingEvents := events
    txReasons := reasons }

/-- Nothing else differs between two participants. -/
def Participant.SameRest (before after : Participant) : Prop :=
  after = before.withSlots after.slots after.pendingEvents after.txReasons

theorem Participant.SameRest.refl (ctx : Participant) : ctx.SameRest ctx := rfl

theorem Participant.SameRest.trans {first second third : Participant}
    (toSecond : first.SameRest second) (toThird : second.SameRest third) :
    first.SameRest third := by
  unfold SameRest at toThird ⊢
  conv_lhs => rw [toThird, toSecond]
  rfl

/-- The invariant of an initialised participant. -/
structure Participant.Inv (ctx : Participant) : Prop where
  slots : ctx.slots.Shape
  peer : PeerShape ctx.state ctx.peer
  nextKeyNumber : ctx.keyServerNextKeyNumber ≠ 0
  noError : hasFlag ctx.pendingEvents EventFlag.error = false

namespace Participant

variable {ctx : Participant}

theorem Inv.latest (inv : ctx.Inv) : LatestShape ctx.latestSak :=
  inv.slots.latest

theorem Inv.old (inv : ctx.Inv) : OldShape ctx.oldSak :=
  inv.slots.old

/-- The events that servicing reacts to. -/
def servicedEvents : UInt32 :=
  (EventFlag.error ||| EventFlag.sakActive) |||
    (EventFlag.sakRetireRequired ||| EventFlag.peerLost)

/-- No event that servicing reacts to is pending. -/
def Quiet (ctx : Participant) : Prop :=
  hasFlag ctx.pendingEvents servicedEvents = false

/-- A participant as every public function leaves it. -/
structure Resting (ctx : Participant) : Prop where
  inv : ctx.Inv
  quiet : ctx.Quiet
  settled : ctx.slots.Settled

/-- A participant whose events can be serviced. -/
structure Serviceable (ctx : Participant) : Prop where
  inv : ctx.Inv
  inactive : hasFlag ctx.pendingEvents EventFlag.sakActive = false
  confirmed : hasFlag ctx.pendingEvents EventFlag.sakRetireRequired = true →
    ctx.latestSak.lifecycleState = .confirmed
  notInstalling : ctx.latestSak.lifecycleState ≠ .installPending
  unused : ctx.latestSak.lifecycleState = .distributed → ctx.latestSak.Unused

theorem hasFlag_servicedEvents_eq_false {events : UInt32} :
    hasFlag events servicedEvents = false ↔
      (hasFlag events EventFlag.error = false ∧
        hasFlag events EventFlag.sakActive = false) ∧
      (hasFlag events EventFlag.sakRetireRequired = false ∧
        hasFlag events EventFlag.peerLost = false) := by
  simp only [servicedEvents, hasFlag_or_mask, Bool.or_eq_false_iff]

theorem Resting.serviceable (resting : ctx.Resting) : ctx.Serviceable where
  inv := resting.inv
  inactive := (hasFlag_servicedEvents_eq_false.mp resting.quiet).1.2
  confirmed pending := by
    have quiet := (hasFlag_servicedEvents_eq_false.mp resting.quiet).2.1
    rw [quiet] at pending
    exact Bool.noConfusion pending
  notInstalling := resting.settled.2
  unused distributed := absurd distributed resting.settled.1

/-- An operation keeps the invariant, stays quiet, and changes the slots only
as a received MKPDU or a rekey may. -/
structure Keeps (fresh : Sak → Prop) (before after : Participant) : Prop where
  inv : after.Inv
  slots : Slots.Steps fresh before.slots after.slots
  quiet : before.Quiet → after.Quiet

namespace Keeps

variable {fresh : Sak → Prop} {after : Participant}

theorem refl (inv : ctx.Inv) : Keeps fresh ctx ctx where
  inv := inv
  slots := .refl
  quiet := id

theorem trans {last : Participant} (first : Keeps fresh ctx after)
    (second : Keeps fresh after last) : Keeps fresh ctx last where
  inv := second.inv
  slots := first.slots.trans second.slots
  quiet := second.quiet ∘ first.quiet

theorem mono {weaker : Sak → Prop} (keeps : Keeps fresh ctx after)
    (weaken : ∀ sak, fresh sak → weaker sak) : Keeps weaker ctx after where
  inv := keeps.inv
  slots := keeps.slots.mono weaken
  quiet := keeps.quiet

/-- Changes of the slots that raise no event servicing reacts to. -/
theorem of_steps (inv : ctx.Inv)
    (steps : Slots.Steps fresh ctx.slots after.slots)
    (peer : PeerShape after.state after.peer)
    (nextKeyNumber : after.keyServerNextKeyNumber ≠ 0)
    {events : UInt32}
    (raised : after.pendingEvents = ctx.pendingEvents ||| events)
    (harmless : hasFlag events servicedEvents = false) :
    Keeps fresh ctx after := by
  have noError : hasFlag events EventFlag.error = false :=
    (hasFlag_servicedEvents_eq_false.mp harmless).1.1
  refine ⟨⟨steps.shape inv.slots, peer, nextKeyNumber, ?_⟩, steps, ?_⟩
  · rw [raised, hasFlag_or, inv.noError, noError]
    rfl
  · intro quiet
    rw [Quiet, raised, hasFlag_or, quiet, harmless]
    rfl

/-- Such operations leave a resting participant at rest. -/
theorem resting (keeps : Keeps fresh ctx after) (resting : ctx.Resting) :
    after.Resting where
  inv := keeps.inv
  quiet := keeps.quiet resting.quiet
  settled := keeps.slots.invariant resting.settled
    fun _ _ step settled => step.settled settled

end Keeps

end Participant

end Mka

end Macsec
