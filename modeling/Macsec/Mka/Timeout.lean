import Macsec.Mka.Scripts
import Macsec.Mka.Settings

/-!
# The timeout of the peer

A tick compares the time since the peer was last seen with three transmission
intervals.  The difference of two clock values is meant to wrap around, but so
does the product: for long intervals the timeout is too short.
-/

namespace Macsec

namespace Mka

/-- The interval that a participant is initialised with: zero stands for the
default. -/
def keptInterval (txIntervalMs : UInt32) : UInt32 :=
  if txIntervalMs ≠ 0 then txIntervalMs else defaultTxIntervalMs

namespace Participant

variable {ctx : Participant}

/-- The participant with its peer last seen at a given time. -/
def seenAt (ctx : Participant) (lastSeenMs : UInt32) : Participant :=
  { ctx with peer := { ctx.peer with lastSeenMs := lastSeenMs } }

/-- A tick drops the peer if and only if a timeout has elapsed since it was last
seen, and otherwise leaves the peer record and the state alone. -/
def TimesOutAfter (ctx : Participant) (nowMs : UInt32) (timeout : Nat) :
    Prop :=
  let after := (ctx.tick nowMs).2
  let elapsed := (nowMs - ctx.peer.lastSeenMs).toNat
  (after.peer.valid = false ↔ timeout ≤ elapsed) ∧
    (elapsed < timeout → after.peer = ctx.peer ∧ after.state = ctx.state)

instance (ctx : Participant) (nowMs : UInt32) (timeout : Nat) :
    Decidable (ctx.TimesOutAfter nowMs timeout) := by
  unfold TimesOutAfter
  infer_instance

/-- The timeout that a tick applies: the product of two 32-bit numbers. -/
theorem timesOutAfter_product (inv : ctx.Inv) (valid : ctx.peer.valid = true)
    (nowMs : UInt32) :
    ctx.TimesOutAfter nowMs
      (ctx.txIntervalMs * peerTimeoutMultiplier).toNat := by
  have expires :
      ctx.Expires nowMs ↔
        (ctx.txIntervalMs * peerTimeoutMultiplier).toNat ≤
          (nowMs - ctx.peer.lastSeenMs).toNat := by
    rw [Expires, valid, ge_iff_le, UInt32.le_iff_toNat_le]
    exact and_iff_right rfl
  unfold TimesOutAfter
  dsimp only
  rw [← Nat.not_le, ← expires]
  obtain ⟨expired, events, reasons, ⟨stays, rfl⟩ | ⟨silent, rfl⟩, -, result⟩ :=
    tick_cases inv nowMs
  · rw [result]
    refine ⟨iff_of_false ?_ stays, fun _ => ⟨rfl, rfl⟩⟩
    rw [valid]
    exact Bool.noConfusion
  · rw [result]
    exact ⟨iff_of_true rfl silent, fun stays => absurd silent stays⟩

/-- No timeout is longer than another one that is exact at all times, too. -/
theorem timeout_le {first second : Nat} (small : second < 2 ^ 32)
    (exact : ∀ lastSeenMs nowMs,
      (ctx.seenAt lastSeenMs).TimesOutAfter nowMs first)
    (other : ∀ lastSeenMs nowMs,
      (ctx.seenAt lastSeenMs).TimesOutAfter nowMs second) : first ≤ second := by
  have reached := (other 0 (UInt32.ofNat second)).1
  have same := (exact 0 (UInt32.ofNat second)).1
  have elapsed : (UInt32.ofNat second - 0).toNat = second := by
    rw [UInt32.sub_zero, UInt32.toNat_ofNat', Nat.mod_eq_of_lt small]
  rw [show (ctx.seenAt 0).peer.lastSeenMs = 0 from rfl, elapsed] at reached same
  exact same.mp (reached.mpr (Nat.le_refl second))

theorem Inv.seenAt (inv : ctx.Inv) (lastSeenMs : UInt32) :
    (ctx.seenAt lastSeenMs).Inv :=
  ⟨inv.slots, inv.peer, inv.nextKeyNumber, inv.noError⟩

/-- Three intervals are an exact timeout if and only if they are a 32-bit
number. -/
theorem timesOutAfter_intervals_iff (inv : ctx.Inv)
    (valid : ctx.peer.valid = true) :
    (∀ lastSeenMs nowMs,
      (ctx.seenAt lastSeenMs).TimesOutAfter nowMs
        (3 * ctx.txIntervalMs.toNat)) ↔
      3 * ctx.txIntervalMs.toNat < 2 ^ 32 := by
  have product (lastSeenMs nowMs : UInt32) :=
    @timesOutAfter_product (ctx.seenAt lastSeenMs) (inv.seenAt lastSeenMs)
      valid nowMs
  constructor
  · intro exact
    have bound : (ctx.txIntervalMs * peerTimeoutMultiplier).toNat < 2 ^ 32 :=
      UInt32.toNat_lt _
    exact Nat.lt_of_le_of_lt (timeout_le bound exact product) bound
  · intro small lastSeenMs nowMs
    have same :
        (ctx.txIntervalMs * peerTimeoutMultiplier).toNat =
          3 * ctx.txIntervalMs.toNat := by
      rw [UInt32.toNat_mul, Nat.mul_comm]
      exact Nat.mod_eq_of_lt small
    rw [← same]
    exact product lastSeenMs nowMs

end Participant

variable {aes : BlockCipher} {ctx : Ctx}

/-! ## The interval -/

/-- Every participant keeps the interval that it was initialised with. -/
theorem interval_kept {cak ckn : Bytes} {localMac : Octets 6}
    {portId : UInt16} {priority : UInt8} {interval : UInt32} {mi : Octets 12}
    {start : Ctx}
    (initialised :
      init aes cak ckn localMac portId priority interval mi = (.ok, start))
    (run : (machine aes).Reachable start ctx) :
    ctx.toParticipant.Inv ∧ ctx.txIntervalMs = keptInterval interval := by
  refine run.invariant
    (fun ctx => ctx.toParticipant.Inv ∧
      ctx.txIntervalMs = keptInterval interval) ?_ ?_
  · rw [(init_ok initialised).1]
    refine ⟨(resting_completeInit localMac portId priority interval mi).inv, ?_⟩
    rw [initialCtx, completeInit_eq]
    rfl
  · rintro ctx call ⟨inv, kept⟩
    have same :=
      congrArg Settings.txIntervalMs (@perform_settings aes _ inv call)
    exact ⟨perform_inv inv call, same.trans kept⟩

/-- A participant with a valid peer, whatever led to it, drops the peer exactly
after three of the intervals that it was initialised with, at all times at
which the peer may have been seen, if and only if three intervals are a 32-bit
number of milliseconds. -/
theorem peer_timeout_exact_iff {cak ckn : Bytes} {localMac : Octets 6}
    {portId : UInt16} {priority : UInt8} {interval : UInt32} {mi : Octets 12}
    {start : Ctx}
    (initialised :
      init aes cak ckn localMac portId priority interval mi = (.ok, start))
    (run : (machine aes).Reachable start ctx)
    (valid : ctx.peer.valid = true) :
    (∀ lastSeenMs nowMs,
      (ctx.toParticipant.seenAt lastSeenMs).TimesOutAfter nowMs
        (3 * (keptInterval interval).toNat)) ↔
      3 * (keptInterval interval).toNat < 2 ^ 32 := by
  obtain ⟨inv, kept⟩ := interval_kept initialised run
  rw [← kept]
  exact Participant.timesOutAfter_intervals_iff inv valid

/-! ## Long intervals -/

/-- With any interval a station meets another one. -/
theorem exists_acquainted (aes : BlockCipher) (interval : UInt32) :
    let start :=
      initialCtx aes stationCak stationCkn (stationMac 1) 1 10 interval
        (memberId 11)
    init aes stationCak stationCkn (stationMac 1) 1 10 interval (memberId 11) =
        (.ok, start) ∧
      ∃ ctx, (machine aes).Reachable start ctx ∧ ctx.peer.valid = true := by
  intro start
  refine ⟨(init_eq aes rfl (by decide) (by decide) _ _ _ _ _).1, ?_⟩
  have plays :=
    @plays_initialCtx aes stationCak stationCkn rfl (by decide) (by decide)
      (stationMac 1) 1 10 interval (memberId 11)
  have playable :
      (Cue.hear (newcomer 2 20 12) (Octets.zero 16) 1000).Playable
        (Participant.start (stationMac 1) 1 10 interval
          (memberId 11)).completeInit := by
    rw [completeInit_eq]
    change LatestShape (newcomer 2 20 12).latestSak ∧
      stationMac 2 ≠ stationMac 1 ∧
      buildSci (stationMac 2) 1 ≠ buildSci (stationMac 1) 1 ∧
      memberId 12 ≠ memberId 11
    decide
  have met := @Plays.perform aes _ _ _ plays _ playable
  have run :=
    (Transition.Machine.Reachable.refl (machine aes) start).step
      (Cue.call aes (MkaCrypto.keysOf aes stationCak stationCkn)
        (.hear (newcomer 2 20 12) (Octets.zero 16) 1000))
  exact ⟨_, run, congrArg (·.peer.valid) met.same⟩

/-- With the default interval a peer is dropped after six seconds of silence,
also when the clock wraps around in the meantime. -/
theorem default_timeout_exact :
    ∃ ctx, Reachable BlockCipher.null ctx ∧ ctx.peer.valid = true ∧
      ∀ lastSeenMs nowMs,
        (ctx.toParticipant.seenAt lastSeenMs).TimesOutAfter nowMs 6000 := by
  obtain ⟨initialised, ctx, run, valid⟩ := exists_acquainted BlockCipher.null 0
  exact ⟨ctx, ⟨_, _, _, _, _, _, _, _, initialised, run⟩, valid,
    (peer_timeout_exact_iff initialised run valid).mpr (by decide)⟩

/-- With an interval of 0x55555556 ms a peer is dropped after two milliseconds.
-/
theorem not_forall_peer_timeout_exact :
    ¬∃ aes, ∀ (cak ckn : Bytes) (localMac : Octets 6) (portId : UInt16)
      (priority : UInt8) (interval : UInt32) (mi : Octets 12)
      (start ctx : Ctx) (lastSeenMs nowMs : UInt32),
      init aes cak ckn localMac portId priority interval mi = (.ok, start) →
        (machine aes).Reachable start ctx → ctx.peer.valid = true →
          (ctx.toParticipant.seenAt lastSeenMs).TimesOutAfter nowMs
            (3 * (keptInterval interval).toNat) := by
  rintro ⟨aes, alwaysExact⟩
  obtain ⟨initialised, ctx, run, valid⟩ := exists_acquainted aes 0x55555556
  have inv := (interval_kept initialised run).1
  have interval := (interval_kept initialised run).2
  have early := alwaysExact _ _ _ _ _ _ _ _ _ 1000 1002 initialised run valid
  have dropped :=
    @Participant.timesOutAfter_product (ctx.toParticipant.seenAt 1000)
      (inv.seenAt 1000) valid 1002
  have timeout :
      (ctx.toParticipant.seenAt 1000).txIntervalMs * peerTimeoutMultiplier =
        2 := by
    rw [show (ctx.toParticipant.seenAt 1000).txIntervalMs = 0x55555556 from
      interval]
    decide
  have elapsed :
      1002 - (ctx.toParticipant.seenAt 1000).peer.lastSeenMs = 2 := by
    rw [show (ctx.toParticipant.seenAt 1000).peer.lastSeenMs = 1000 from rfl]
    decide
  have reached := dropped.1
  have due := early.1
  rw [timeout, elapsed] at reached
  rw [elapsed, reached] at due
  exact absurd due (by decide)

end Mka

end Macsec
