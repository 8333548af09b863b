import Macsec.Api.Scripts
import Macsec.Mka.Adoption

/-!
# Building control frames

A scheduled control frame is built unless the participant won the election with
a live peer while its latest SAK still comes from another Key Server.
-/

namespace Macsec

variable {aes : BlockCipher} {ctx : Ctx}

/-- Without a foreign SAK in the way a scheduled control frame is built. -/
theorem buildControlFrame_of_own (resting : ctx.control.Resting)
    (keyed : ctx.mka.crypto.Keyed) (scheduled : ctx.mka.txReasons ≠ 0)
    (settled : ctx.pendingMkaTxValid = false) {txMaxLen : Nat}
    (room : 512 ≤ txMaxLen) (own : ¬ctx.mka.ServesForeignSak)
    (rnd : Octets 16) :
    (buildControlFrame aes ctx txMaxLen rnd).2.ret = .ok ∧
      (buildControlFrame aes ctx txMaxLen rnd).2.frame ≠ [] := by
  have mode : ctx.cfg.mode = .mkaPsk := resting.mode
  have inv : ctx.mka.Inv := resting.mka.inv
  have shape := (Mka.Participant.ensureForTx_keeps inv rnd).inv.latest
  unfold buildControlFrame
  rw [if_neg (not_not.mpr mode), settled, if_neg Bool.false_ne_true]
  rcases @Mka.buildTxFrame_cases aes ctx.mka inv keyed rnd txMaxLen with
    ⟨-, idle | foreign | tight⟩ | ⟨-, -, -, frame, built, result⟩
  · exact absurd idle scheduled
  · exact absurd foreign own
  · have fits := Mka.Participant.txMicLen_fits shape keyed.ckn
    have bound : Mka.maxFrameLen = 512 := rfl
    omega
  · rw [result]
    exact ⟨rfl, Mka.ne_nil_of_buildFrame keyed shape built⟩

/-- A foreign SAK prevents every control frame. -/
theorem buildControlFrame_of_foreign (resting : ctx.control.Resting)
    (keyed : ctx.mka.crypto.Keyed) (foreign : ctx.mka.ServesForeignSak)
    (txMaxLen : Nat) (rnd : Octets 16) :
    (buildControlFrame aes ctx txMaxLen rnd).2.ret ≠ .ok := by
  have mode : ctx.cfg.mode = .mkaPsk := resting.mode
  have inv : ctx.mka.Inv := resting.mka.inv
  unfold buildControlFrame
  rw [if_neg (not_not.mpr mode)]
  split
  next => exact Err.noConfusion
  next =>
      rcases @Mka.buildTxFrame_cases aes ctx.mka inv keyed rnd txMaxLen with
        ⟨failed, -⟩ | ⟨-, own, -⟩
      · revert failed
        rcases Mka.buildTxFrame aes ctx.mka rnd txMaxLen with
          ⟨ret, mka, frame, txMeta⟩
        intro failed
        cases ret with
        | ok => exact absurd rfl failed
        | param | buffer | crypto | state | replay | unsupported | auth
        | timeout | notReady | busy => exact Err.noConfusion
      · exact absurd foreign own

/-- A scheduled control frame is built exactly if no foreign SAK is in the
way. -/
theorem scheduled_frame_built_iff (reachable : Reachable aes .mkaPsk ctx)
    (scheduled : ctx.mka.txReasons ≠ 0)
    (settled : ctx.pendingMkaTxValid = false) {txMaxLen : Nat}
    (room : 512 ≤ txMaxLen) (rnd : Octets 16) :
    ((buildControlFrame aes ctx txMaxLen rnd).2.ret = .ok ∧
      (buildControlFrame aes ctx txMaxLen rnd).2.frame ≠ []) ↔
      ¬ctx.mka.ServesForeignSak := by
  have keyed := reachable.keyed.1
  constructor
  · intro built foreign
    exact buildControlFrame_of_foreign reachable.resting keyed foreign txMaxLen
      rnd built.1
  · intro own
    exact buildControlFrame_of_own reachable.resting keyed scheduled settled
      room own rnd

/-- An initialised context builds its first frame. -/
theorem stationCtx_builds :
    (buildControlFrame BlockCipher.null (stationCtx BlockCipher.null 1 10 11)
        512 (Mka.sakOctets 1)).2.ret = .ok ∧
      (buildControlFrame BlockCipher.null
        (stationCtx BlockCipher.null 1 10 11) 512 (Mka.sakOctets 1)).2.frame ≠
        [] :=
  (scheduled_frame_built_iff (reachable_stationCtx BlockCipher.null 1 10 11)
    (by decide) rfl (Nat.le_refl 512) (Mka.sakOctets 1)).mpr (by decide)

/-! ## A station that adopts from a loser -/

/-- The Key Server of another station, once it has heard of station 1. -/
def resigned : Mka.Participant :=
  { Mka.distributor.listing (Mka.newcomer 1 10 11) with
    localKeyServer := false }

/-- Station 1 hears a Key Server that distributes a SAK to another station, and
that then recognises station 1 as the Key Server. -/
def usurpation : List Cue :=
  [.hear (Mka.newcomer 2 20 12) (Mka.sakOctets 1),
    .hear Mka.distributor (Mka.sakOctets 2),
    .hear resigned (Mka.sakOctets 3)]

/-- Afterwards frames are scheduled, none is pending, and none can be built. -/
theorem usurper_builds_nothing (aes : BlockCipher) :
    ∃ ctx, Reachable aes .mkaPsk ctx ∧ ctx.mka.txReasons ≠ 0 ∧
      ctx.pendingMkaTxValid = false ∧
      ∀ rnd, (buildControlFrame aes ctx 512 rnd).2.ret ≠ .ok := by
  obtain ⟨ctx, reachable, plays⟩ :=
    @exists_final aes 1 10 11 usurpation (by decide)
  have scheduled :
      ((stage Mka.stationCkn).final (stationControl 1 10 11)
        usurpation).mka.txReasons ≠ 0 := by decide
  have settled :
      ((stage Mka.stationCkn).final (stationControl 1 10 11)
        usurpation).pendingMkaTxValid = false := by decide
  have foreign :
      ((stage Mka.stationCkn).final (stationControl 1 10 11)
        usurpation).mka.ServesForeignSak := by decide
  rw [← plays.same] at scheduled settled foreign
  exact ⟨ctx, reachable, scheduled, settled,
    buildControlFrame_of_foreign reachable.resting reachable.keyed.1 foreign
      512⟩

/-- Under no cipher are all scheduled control frames built. -/
theorem not_forall_scheduled_frame_built :
    ¬∃ aes, ∀ (ctx : Ctx) (txMaxLen : Nat) (rnd : Octets 16),
      Reachable aes .mkaPsk ctx → ctx.mka.txReasons ≠ 0 →
        ctx.pendingMkaTxValid = false → 512 ≤ txMaxLen →
          (buildControlFrame aes ctx txMaxLen rnd).2.ret = .ok ∧
            (buildControlFrame aes ctx txMaxLen rnd).2.frame ≠ [] := by
  rintro ⟨aes, alwaysBuilt⟩
  obtain ⟨ctx, reachable, scheduled, settled, refused⟩ :=
    usurper_builds_nothing aes
  exact refused _
    (alwaysBuilt ctx 512 (Octets.zero 16) reachable scheduled settled
      (Nat.le_refl 512)).1

end Macsec
