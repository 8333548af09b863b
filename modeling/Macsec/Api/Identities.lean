import Macsec.Api.Orphans
import Macsec.Mka.Distribution

/-!
# The identities of SAKs

A SAK has a key, a key number and an association number.  The three stay
together for as long as a slot of the participant holds the SAK: a call brings
a SAK with all three of them, from an MKPDU or from random octets and the
counters of the Key Server, or it leaves them as they are.
-/

namespace Macsec

namespace Mka

/-- A key with its key number and its association number. -/
abbrev Identity := Bytes × UInt32 × Fin 4

/-- The identity of a SAK in a slot. -/
def Sak.identity (sak : Sak) : Identity := (sak.sak, sak.keyNumber, sak.an)

/-- The identity of a SAK that was read from an MKPDU. -/
def DistributedSak.identity (found : DistributedSak) : Identity :=
  (found.sak, found.keyNumber, found.an)

namespace Slots

/-- Every SAK in the slots has an identity with a property. -/
structure All (property : Identity → Prop) (slots : Slots) : Prop where
  latest : slots.latest.lifecycleState ≠ .none →
    property slots.latest.identity
  old : slots.old.lifecycleState ≠ .none → property slots.old.identity

/-- One of the slots holds a SAK with an identity. -/
def Lists (slots : Slots) (identity : Identity) : Prop :=
  (slots.latest.lifecycleState ≠ .none ∧ slots.latest.identity = identity) ∨
    (slots.old.lifecycleState ≠ .none ∧ slots.old.identity = identity)

variable {slots after : Slots} {fresh : Sak → Prop}
  {property : Identity → Prop}

theorem all_lists (slots : Slots) : slots.All slots.Lists :=
  ⟨fun present => Or.inl ⟨present, rfl⟩, fun present => Or.inr ⟨present, rfl⟩⟩

theorem All.of_lists (all : slots.All property) {identity : Identity}
    (lists : slots.Lists identity) : property identity := by
  rcases lists with ⟨present, rfl⟩ | ⟨present, rfl⟩
  · exact all.latest present
  · exact all.old present

/-- A slot that holds a key holds a SAK with that key. -/
theorem Holds.lists {key : Bytes} {an : Fin 4} (holds : slots.Holds key an) :
    ∃ keyNumber, slots.Lists (key, keyNumber, an) := by
  rcases holds with ⟨present, rfl, rfl⟩ | ⟨present, rfl, rfl⟩
  · exact ⟨_, Or.inl ⟨present, rfl⟩⟩
  · exact ⟨_, Or.inr ⟨present, rfl⟩⟩

/-- The latest SAK keeps its identity when it makes room. -/
theorem All.superseded (all : slots.All property) (shape : slots.Shape)
    (present : slots.superseded.lifecycleState ≠ .none) :
    property slots.superseded.identity := by
  unfold Slots.superseded at present ⊢
  split at present
  next installed =>
      rw [if_pos installed]
      refine all.latest fun absent => ?_
      rw [shape.latest.eq_cleared absent] at installed
      exact Bool.noConfusion installed
  next unused =>
      rw [if_neg unused]
      exact all.old present

theorem Step.all (step : Step fresh slots after) (shape : slots.Shape)
    (all : slots.All property)
    (news : ∀ sak, fresh sak → property sak.identity) : after.All property := by
  cases step with
  | replace room _ _ _ isFresh =>
      exact ⟨fun _ => news _ isFresh, all.superseded shape⟩
  | clear free =>
      exact ⟨fun present => absurd rfl present, all.superseded shape⟩
  | report known _ _ => exact ⟨fun _ => all.latest known, all.old⟩

/-- Changes keep the identities of the SAKs, but for those that enter. -/
theorem Steps.all (steps : Steps fresh slots after) (shape : slots.Shape)
    (all : slots.All property)
    (news : ∀ sak, fresh sak → property sak.identity) :
    after.All property := by
  refine (@Steps.invariant slots fresh
    (fun reached => reached.Shape ∧ reached.All property) after steps
    ⟨shape, all⟩ ?_).2
  rintro before next step ⟨shape, all⟩
  exact ⟨step.shape shape, step.all shape all news⟩

end Slots

end Mka

/-- A call brings a SAK: an MKPDU distributes it, or it is made of random octets
and the counters of the Key Server. -/
def Call.Supplies (aes : BlockCipher) (ctx : Ctx) (identity : Mka.Identity) :
    Call → Prop
  | .input frame _ rnd =>
      (∃ pdu found, Mka.classify aes ctx.mka frame = .accepted pdu ∧
        pdu.distributedSak = .ok found ∧ found.identity = identity) ∨
      (Mka.isEapolMka frame = true ∧
        (ctx.mka.pendingSak rnd).identity = identity)
  | .buildControlFrame _ rnd => (ctx.mka.pendingSak rnd).identity = identity
  | _ => False

variable {aes : BlockCipher} {ctx : Ctx} {property : Mka.Identity → Prop}

/-- An MKPDU brings the SAK that it distributes, or one is generated. -/
theorem all_of_processMkpdu {frame plain : Bytes} {rnd : Octets 16}
    {pdu : Mka.Mkpdu} (resting : ctx.control.Resting)
    (all : ctx.mka.slots.All property)
    (accepted : Mka.classify aes ctx.mka frame = .accepted pdu)
    (news : ∀ identity, Call.Supplies aes ctx identity
      (.input frame plain rnd) → property identity) :
    (ctx.mka.processMkpdu pdu rnd ctx.lastTickMs).2.slots.All property := by
  refine (Mka.Participant.processMkpdu_steps resting.mka.inv pdu rnd
    ctx.lastTickMs).all resting.mka.inv.slots all ?_
  rintro sak (⟨found, scan, -, rfl⟩ | rfl)
  · exact news _ (Or.inl ⟨pdu, found, accepted, scan, rfl⟩)
  · exact news _ (Or.inr ⟨Mka.isEapolMka_of_accepted accepted, rfl⟩)

theorem all_of_prompts {call : Call} {before : Control}
    (resting : ctx.control.Resting) (all : ctx.mka.slots.All property)
    (prompts : Prompts aes ctx call before)
    (news : ∀ identity, call.Supplies aes ctx identity → property identity) :
    before.mka.slots.All property := by
  cases prompts with
  | own isMka own => exact all
  | heard isMka accepted processed =>
      exact all_of_processMkpdu resting all accepted news
  | ticked nowMs =>
      change (ctx.control.mka.tick nowMs).2.slots.All property
      rw [(Mka.Participant.tick_serviceable resting.mka nowMs).2.2]
      exact all
  | @reported nowMs pending accepted =>
      change (ctx.control.mka.notifyTxSuccess ctx.pendingMkaTxMeta
        nowMs).2.slots.All property
      rcases ctx.control.mka.notifyTxSuccess_cases ctx.pendingMkaTxMeta
          nowMs with
        ⟨failed, -⟩ | ⟨-, -, result⟩
      · exact absurd accepted failed
      · rw [result]
        rcases ctx.control.mka.notifyDistributed_cases
            ctx.pendingMkaTxMeta with
          same | ⟨-, pending, -, -, -, distributed⟩
        · rw [same]
          exact ⟨all.latest, all.old⟩
        · rw [distributed]
          refine ⟨fun _ => all.latest ?_, all.old⟩
          have waiting : ctx.mka.slots.latest.lifecycleState =
              .distributionPending := pending
          rw [waiting]
          exact Mka.SakState.noConfusion

namespace Control

variable {ctx : Control}

/-- Servicing keeps the identities of the SAKs. -/
theorem all_serviced (serviceable : ctx.mka.Serviceable)
    (all : ctx.mka.slots.All property) :
    ctx.serviced.mka.slots.All property := by
  have drained : ctx.drained.mka.slots.All property := by
    unfold Control.drained
    dsimp only
    split
    next => exact ⟨all.latest, fun present => absurd rfl present⟩
    next => exact ⟨all.latest, all.old⟩
  unfold serviced
  split
  next available =>
      rw [← ctx.drained_latest] at available
      obtain ⟨-, present⟩ :=
        unused_of_available (drained_serviceable serviceable) available
      refine ⟨fun _ => drained.latest present, fun kept => ?_⟩
      change (Mka.Participant.silencedSak
        ctx.drained.mka.oldSak).lifecycleState ≠ .none at kept
      change property (Mka.Participant.silencedSak
        ctx.drained.mka.oldSak).identity
      unfold Mka.Participant.silencedSak at kept ⊢
      split_ifs at kept ⊢
      all_goals exact drained.old kept
  next => exact drained

end Control

/-- A property of the identities of the SAKs is kept by a call if what the call
brings has it. -/
theorem all_of_step {call : Call} {ret : Err} {after : Control}
    (resting : ctx.control.Resting) (all : ctx.mka.slots.All property)
    (step : Step aes ctx call ret after)
    (news : ∀ identity, call.Supplies aes ctx identity → property identity) :
    after.mka.slots.All property := by
  cases step with
  | passive silent same => exact all
  | @built txMaxLen rnd ret mka txMeta pending generated =>
      rcases generated with rfl | rfl
      · exact all
      · refine (Mka.Participant.ensureForTx_keeps resting.mka.inv
          rnd).slots.all resting.mka.inv.slots all ?_
        rintro sak rfl
        exact news _ rfl
  | returned => exact ⟨all.latest, all.old⟩
  | refused failed => exact all
  | failed isMka accepted failed =>
      exact all_of_processMkpdu resting all accepted news
  | serviced serves prompts serviceable =>
      exact Control.all_serviced serviceable
        (all_of_prompts resting all prompts news)

/-- After a call the slots hold SAKs that they held before or that the call
brings. -/
theorem lists_of_step {call : Call} {ret : Err} {after : Control}
    {identity : Mka.Identity} (resting : ctx.control.Resting)
    (step : Step aes ctx call ret after)
    (lists : after.mka.slots.Lists identity) :
    ctx.mka.slots.Lists identity ∨ call.Supplies aes ctx identity := by
  have all : ctx.mka.slots.All fun identity =>
      ctx.mka.slots.Lists identity ∨ call.Supplies aes ctx identity :=
    ⟨fun present => Or.inl (ctx.mka.slots.all_lists.latest present),
      fun present => Or.inl (ctx.mka.slots.all_lists.old present)⟩
  exact (all_of_step resting all step fun _ => Or.inr).of_lists lists

/-- A control frame that is returned is the one of the participant that may have
generated a SAK for it. -/
theorem buildControlFrame_ok (resting : ctx.control.Resting)
    (keyed : ctx.mka.crypto.Keyed) {txMaxLen : Nat} {rnd : Octets 16}
    (ok : (buildControlFrame aes ctx txMaxLen rnd).2.ret = .ok) :
    Mka.buildFrame aes ctx.mka.crypto (ctx.mka.ensureForTx rnd).2 =
        .ok (buildControlFrame aes ctx txMaxLen rnd).2.frame ∧
      (buildControlFrame aes ctx txMaxLen rnd).1.control =
        ctx.control.built rnd := by
  have mode : ctx.cfg.mode = .mkaPsk := resting.mode
  unfold buildControlFrame at ok ⊢
  rw [if_neg (not_not_intro mode)] at ok ⊢
  split at ok
  next => exact Err.noConfusion ok
  next idle =>
      rw [if_neg idle]
      rcases @Mka.buildTxFrame_cases aes ctx.mka resting.mka.inv keyed rnd
          txMaxLen with
        ⟨failed, -⟩ | ⟨-, -, -, frame, built, result⟩
      · revert failed ok
        rcases Mka.buildTxFrame aes ctx.mka rnd txMaxLen with
          ⟨ret, mka, frame, txMeta⟩
        intro ok failed
        cases ret with
        | ok => exact absurd rfl failed
        | param | buffer | crypto | state | replay | unsupported | auth
        | timeout | notReady | busy => exact Err.noConfusion ok
      · rw [result]
        exact ⟨built, rfl⟩

/-- The MKPDU that is built distributes a SAK of its sender. -/
theorem lists_of_built (resting : ctx.control.Resting)
    (keyed : ctx.mka.crypto.Keyed) {txMaxLen : Nat} {rnd : Octets 16}
    (ok : (buildControlFrame aes ctx txMaxLen rnd).2.ret = .ok)
    {found : Mka.DistributedSak}
    (scan : Mka.scanDistributedSak aes ctx.mka.crypto
      (buildControlFrame aes ctx txMaxLen rnd).2.frame = .ok found) :
    (buildControlFrame aes ctx txMaxLen rnd).1.mka.slots.Lists
      found.identity := by
  obtain ⟨built, after⟩ := buildControlFrame_ok resting keyed ok
  have shape :=
    (Mka.Participant.ensureForTx_keeps resting.mka.inv rnd).inv.latest
  rw [Mka.scanDistributedSak_buildFrame keyed shape built] at scan
  obtain ⟨⟨sak, keyNumber, an⟩, included⟩ := Mka.describes_of_offeredSak scan
  obtain ⟨-, distributable, -⟩ :=
    Mka.Participant.held_of_includeDistributedSak shape included
  change (buildControlFrame aes ctx txMaxLen rnd).1.control.mka.slots.Lists _
  rw [after]
  refine Or.inl ⟨fun absent => ?_, ?_⟩
  · have none :
        (ctx.control.mka.ensureForTx rnd).2.latestSak.lifecycleState = .none :=
      absent
    rw [Mka.sakDistributable, none] at distributable
    exact Bool.noConfusion distributable
  · unfold Mka.DistributedSak.identity
    rw [sak, keyNumber, an]
    rfl

end Macsec
