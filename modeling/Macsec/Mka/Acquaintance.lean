import Macsec.Mka.Numbering
import Macsec.Mka.Reasons
import Macsec.Mka.Recognition
import Macsec.Mka.Replacement
import Macsec.Mka.Settings

/-!
# How two participants get acquainted

A participant that hears another one discovers it, and a participant that hears
that it was heard takes its peer to be live.  Both have a transmission due when
that changes.  What a participant thinks of another one depends on the settings
of the latter only.
-/

namespace Macsec

namespace Mka

/-- What a participant thinks of another one. -/
inductive Regard
  | unknown
  | discovered
  | live
  deriving DecidableEq

/-- What a participant thinks of another one once it heard it. -/
def Regard.onHearing (own others : Regard) : Regard :=
  if others = .unknown ∧ own ≠ .live then .discovered else .live

namespace Regard

variable {own others : Regard}

theorem onHearing_ne_unknown : own.onHearing others ≠ .unknown := by
  unfold onHearing
  split
  next => exact Regard.noConfusion
  next => exact Regard.noConfusion

theorem onHearing_of_known (known : others ≠ .unknown) :
    own.onHearing others = .live :=
  if_neg fun both => known both.1

theorem onHearing_unknown (dead : own ≠ .live) :
    own.onHearing .unknown = .discovered :=
  if_pos ⟨rfl, dead⟩

theorem live_onHearing : Regard.live.onHearing others = .live :=
  if_neg fun both => both.2 rfl

end Regard

namespace Participant

variable {ctx other sender : Participant} {ckn : Bytes}

/-- The peer of a participant is the given one, and the election between the two
is settled. -/
structure Records (ctx other : Participant) : Prop where
  valid : ctx.peer.valid = true
  mi : ctx.peer.mi = other.localMi
  sci : ctx.peer.sci = other.localSci
  mac : ctx.peer.mac = other.localMac
  elected : ctx.localKeyServer =
    decide (ctx.keyServerPriority < other.keyServerPriority)

/-- What a participant thinks of another one, by its peer record. -/
def Regards (ctx other : Participant) : Regard → Prop
  | .unknown => ctx.peer.valid = false ∧ ctx.peer.live = false
  | .discovered => ctx.Records other ∧ ctx.peer.live = false
  | .live => ctx.Records other ∧ ctx.peer.live = true

theorem Regards.records {regard : Regard} (regards : ctx.Regards other regard)
    (known : regard ≠ .unknown) : ctx.Records other := by
  cases regard with
  | unknown => exact absurd rfl known
  | discovered | live => exact regards.1

theorem Regards.live_iff {regard : Regard}
    (regards : ctx.Regards other regard) :
    ctx.peer.live = true ↔ regard = .live := by
  cases regard with
  | unknown | discovered => simp [regards.2]
  | live => simp [regards.2]

/-- Another state of the other participant makes no difference as long as it
keeps its settings. -/
theorem Regards.of_settings {regard : Regard} {after : Participant}
    (regards : ctx.Regards other regard)
    (same : after.settings = other.settings) : ctx.Regards after regard := by
  obtain ⟨mac, sci, mi, priority, -⟩ := Settings.mk.inj same
  have keeps (records : ctx.Records other) : ctx.Records after :=
    ⟨records.valid, records.mi.trans mi.symm, records.sci.trans sci.symm,
      records.mac.trans mac.symm, by rw [records.elected, priority]⟩
  cases regard with
  | unknown => exact regards
  | discovered | live => exact ⟨keeps regards.1, regards.2⟩

/-- A participant stays what it is, and so do its peer record and the result of
the election. -/
structure SameStanding (before after : Participant) : Prop where
  settings : after.settings = before.settings
  peer : after.peer = before.peer
  server : after.localKeyServer = before.localKeyServer

theorem SameStanding.refl (ctx : Participant) : ctx.SameStanding ctx :=
  ⟨rfl, rfl, rfl⟩

theorem SameStanding.trans {first second third : Participant}
    (toSecond : first.SameStanding second)
    (toThird : second.SameStanding third) : first.SameStanding third :=
  ⟨toThird.settings.trans toSecond.settings, toThird.peer.trans toSecond.peer,
    toThird.server.trans toSecond.server⟩

/-- A participant of the same standing thinks the same of the other one. -/
theorem Regards.of_standing {regard : Regard} {after : Participant}
    (regards : ctx.Regards other regard) (same : ctx.SameStanding after) :
    after.Regards other regard := by
  obtain ⟨settings, peer, server⟩ := same
  obtain ⟨-, -, -, priority, -⟩ := Settings.mk.inj settings
  have keeps (records : ctx.Records other) : after.Records other :=
    ⟨by rw [peer, records.valid], by rw [peer, records.mi],
      by rw [peer, records.sci], by rw [peer, records.mac],
      by rw [server, records.elected, priority]⟩
  cases regard with
  | unknown => exact ⟨by rw [peer, regards.1], by rw [peer, regards.2]⟩
  | discovered | live => exact ⟨keeps regards.1, by rw [peer, regards.2]⟩

/-! ## Hearing the other one -/

/-- A participant with a name of four octets or more hears whether it was
heard. -/
theorem localSeen_heard {regard : Regard}
    (regards : sender.Regards ctx regard) (long : 4 ≤ ckn.length) :
    (ctx.heard ckn sender).localSeen = decide (regard ≠ .unknown) := by
  change (sender.includePeerList && sender.peer.mi == ctx.localMi &&
    decide (90 ≤ sender.txMicLen ckn.length + icvLen)) = _
  cases regard with
  | unknown => simp [includePeerList, regards.1]
  | discovered | live =>
      have listed : sender.includePeerList = true := regards.1.valid
      have scanned := (sender.long_iff listed ckn.length).mpr (Or.inl long)
      simp [listed, regards.1.mi, scanned]

/-- A participant recognises the one that it recorded. -/
theorem peerIdentityChanged_heard {regard : Regard}
    (regards : ctx.Regards sender regard) :
    ctx.peerIdentityChanged (ctx.heard ckn sender).basic =
      decide (regard = .unknown) := by
  cases regard with
  | unknown => simp [peerIdentityChanged, regards.1]
  | discovered | live =>
      exact not_peerIdentityChanged_iff.mpr
        ⟨regards.1.valid, regards.1.mi.symm, regards.1.sci.symm,
          regards.1.mac.symm⟩

/-- A participant that meets the other one discovers it, or finds it live. -/
theorem regards_met {own others : Regard} (regards : ctx.Regards sender own)
    (returns : sender.Regards ctx others) (long : 4 ≤ ckn.length)
    (nowMs : UInt32) :
    (ctx.met (ctx.heard ckn sender).basic (ctx.heard ckn sender).localSeen
      nowMs).Regards sender (own.onHearing others) := by
  let after := ctx.met (ctx.heard ckn sender).basic
    (ctx.heard ckn sender).localSeen nowMs
  have records : after.Records sender := ⟨rfl, rfl, rfl, rfl, rfl⟩
  have live : after.peer.live = decide (own.onHearing others = .live) := by
    change ((ctx.heard ckn sender).localSeen ||
      (!ctx.peerIdentityChanged (ctx.heard ckn sender).basic &&
        ctx.peer.live)) = _
    rw [localSeen_heard returns long, peerIdentityChanged_heard regards,
      show ctx.peer.live = decide (own = .live) from
        Bool.eq_iff_iff.mpr (regards.live_iff.trans decide_eq_true_iff.symm)]
    cases own <;> cases others <;> rfl
  cases regard : own.onHearing others with
  | unknown =>
      unfold Regard.onHearing at regard
      split_ifs at regard
  | discovered => exact ⟨records, by rw [live, regard]; rfl⟩
  | live => exact ⟨records, by rw [live, regard]; rfl⟩

/-- So does a participant that processes what it heard. -/
theorem regards_processMkpdu (inv : ctx.Inv) {own others : Regard}
    (regards : ctx.Regards sender own) (returns : sender.Regards ctx others)
    (long : 4 ≤ ckn.length) (takes : ctx.Takes (ctx.heard ckn sender))
    (rnd : Octets 16) (nowMs : UInt32) :
    let after := (ctx.processMkpdu (ctx.heard ckn sender) rnd nowMs).2
    after.Regards sender (own.onHearing others) ∧
      after.peer.lastSeenMs = nowMs := by
  have met := regards_met regards returns long nowMs
  dsimp only
  rcases ctx.processMkpdu_cases inv (ctx.heard ckn sender) rnd nowMs with
    ⟨refused, -⟩ | ⟨-, rest, -⟩
  · exact absurd takes refused
  · rw [SameRest] at rest
    rw [rest]
    exact ⟨met.of_standing ⟨rfl, rfl, rfl⟩, rfl⟩

/-- The announcement of a new or a live peer is due. -/
theorem due_announceInput {identityChanged becameLive : Bool}
    (changed : identityChanged = true ∨ becameLive = true)
    (becameNotLive keyServerChanged : Bool) :
    (ctx.announceInput identityChanged becameLive becameNotLive
      keyServerChanged).txReasons ≠ 0 := by
  rw [announceInput]
  simp only [announceIf_eq]
  intro none
  simp only [UInt32.or_eq_zero_iff] at none
  rcases changed with rfl | rfl
  · exact absurd none.1.1.1.2 (by decide)
  · exact absurd none.1.1.2 (by decide)

/-- A participant that thinks otherwise of the other one after it heard it has a
transmission due. -/
theorem due_processMkpdu (inv : ctx.Inv) {own others : Regard}
    (regards : ctx.Regards sender own) (returns : sender.Regards ctx others)
    (long : 4 ≤ ckn.length) (rnd : Octets 16) (nowMs : UInt32)
    (processed : (ctx.processMkpdu (ctx.heard ckn sender) rnd nowMs).1 = .ok)
    (differs : own.onHearing others ≠ own) :
    (ctx.processMkpdu (ctx.heard ckn sender) rnd nowMs).2.txReasons ≠ 0 := by
  rcases ctx.processMkpdu_outcome inv (ctx.heard ckn sender) rnd nowMs with
    ⟨-, refused, -⟩ | ⟨-, -, failed, -⟩ | ⟨-, -, result⟩
  · exact absurd processed refused
  · exact absurd processed failed
  rw [result]
  apply due_announceInput
  rw [peerIdentityChanged_heard regards, decide_eq_true_iff]
  by_cases unknown : own = .unknown
  · exact Or.inl unknown
  · have met := regards_met regards returns long nowMs
    have same := ctx.introduced_sameRest inv (ctx.heard ckn sender) nowMs
    rw [SameRest] at same
    have dead : ctx.peer.live = false := by
      rw [← Bool.not_eq_true, regards.live_iff]
      rintro rfl
      exact differs Regard.live_onHearing
    have alive : own.onHearing others = .live := by
      unfold Regard.onHearing at differs ⊢
      split
      next quiet =>
          rw [if_pos quiet] at differs
          cases own with
          | unknown => exact absurd rfl unknown
          | discovered => exact absurd rfl differs
          | live => exact absurd rfl quiet.2
      next => rfl
    refine Or.inr ?_
    rw [cameToLife, dead, same]
    exact met.live_iff.mpr alive

/-! ## The first transmission of a SAK -/

/-- A Key Server with a live peer commits its SAK when the first MKPDU with it
is transmitted. -/
theorem notifyDistributed_first (shape : LatestShape ctx.latestSak)
    (server : ctx.localKeyServer = true)
    (live : (ctx.peer.valid && ctx.peer.live) = true)
    (pending : ctx.latestSak.lifecycleState = .distributionPending) :
    ctx.includeDistributedSak = true ∧
      ctx.notifyDistributed ctx.txMeta = (.ok, ctx.committed) := by
  rw [LatestShape, pending] at shape
  have distributable : sakDistributable ctx.latestSak = true := by
    rw [sakDistributable, pending]
    rfl
  rw [Bool.and_eq_true] at live
  have included : ctx.includeDistributedSak = true :=
    includeDistributedSak_iff.mpr
      ⟨server, live.1, live.2, distributable, shape.2.1, Or.inl pending⟩
  refine ⟨included, ?_⟩
  have offers := offers_txMeta (by exact included)
  have contains : ctx.txMeta.containsDistributedSak = true := included
  rw [notifyDistributed, contains, Bool.not_true, if_neg Bool.false_ne_true,
    distributable, ← offers.keyNumber, ← offers.an, offers.origin,
    if_neg (by simp), if_pos pending, commitDistribution,
    setLatestState_of_allowed (by rw [pending]; rfl)]
  rfl

end Participant

end Mka

end Macsec
