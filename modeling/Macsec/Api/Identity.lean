import Macsec.Api.Runs
import Macsec.Api.Steps
import Macsec.Mka.Settings

/-!
# The identity of a context

No call changes the address, the channel identifier, the member identifier or
the Key Server priority of a context, nor the keys of its connectivity
association.
-/

namespace Macsec

namespace Mka

namespace Participant

/-- Two states of a participant agree in what the participant was initialised
with. -/
def SameIdentity (before after : Participant) : Prop :=
  after.localMac = before.localMac ∧ after.localSci = before.localSci ∧
    after.localMi = before.localMi ∧
    after.keyServerPriority = before.keyServerPriority

theorem SameIdentity.refl (ctx : Participant) : ctx.SameIdentity ctx :=
  ⟨rfl, rfl, rfl, rfl⟩

theorem SameIdentity.trans {first second third : Participant}
    (toSecond : first.SameIdentity second)
    (toThird : second.SameIdentity third) : first.SameIdentity third := by
  obtain ⟨mac, sci, mi, priority⟩ := toSecond
  obtain ⟨mac', sci', mi', priority'⟩ := toThird
  exact ⟨mac'.trans mac, sci'.trans sci, mi'.trans mi,
    priority'.trans priority⟩

variable {ctx : Participant}

/-- What keeps the settings keeps the identity. -/
theorem SameIdentity.of_settings {after : Participant}
    (same : after.settings = ctx.settings) : ctx.SameIdentity after := by
  obtain ⟨mac, sci, mi, priority, -⟩ := Settings.mk.inj same
  exact ⟨mac, sci, mi, priority⟩

end Participant

end Mka

theorem Control.sameIdentity_serviced (ctx : Control) :
    ctx.mka.SameIdentity ctx.serviced.mka := by
  have drained : ctx.mka.SameIdentity ctx.drained.mka := by
    unfold Control.drained
    dsimp only
    split
    next => exact .refl ctx.mka
    next => exact .refl ctx.mka
  unfold serviced
  split
  next => exact drained.trans (.refl ctx.drained.mka)
  next => exact drained.trans (.refl ctx.drained.mka)

variable {aes : BlockCipher} {ctx : Ctx}

theorem sameIdentity_of_prompts {call : Call} {before : Control}
    (resting : ctx.control.Resting) (prompts : Prompts aes ctx call before) :
    ctx.mka.toParticipant.SameIdentity before.mka := by
  have inv := resting.mka.inv
  cases prompts with
  | own isMka own => exact .refl _
  | heard isMka accepted processed =>
      exact .of_settings (Mka.Participant.settings_processMkpdu inv _ _ _)
  | ticked nowMs => exact .of_settings (Mka.Participant.settings_tick inv nowMs)
  | reported pending accepted =>
      exact .of_settings (Mka.Participant.settings_notifyTxSuccess _ _)

theorem sameIdentity_of_step {call : Call} {ret : Err} {after : Control}
    (resting : ctx.control.Resting) (step : Step aes ctx call ret after) :
    ctx.mka.toParticipant.SameIdentity after.mka := by
  cases step with
  | passive silent same => exact .refl _
  | built generated =>
      rcases generated with rfl | rfl
      · exact .refl _
      · exact .of_settings (Mka.Participant.settings_ensureForTx _)
  | returned => exact .refl _
  | refused failed => exact .refl _
  | failed isMka accepted failed =>
      exact .of_settings
        (Mka.Participant.settings_processMkpdu resting.mka.inv _ _ _)
  | @serviced call before serves prompts serviceable =>
      exact (sameIdentity_of_prompts resting prompts).trans
        before.sameIdentity_serviced

/-- A context at rest that has the identity of another one and the keys of a
connectivity association. -/
structure Member (aes : BlockCipher) (cak ckn : Bytes) (start ctx : Ctx) :
    Prop where
  resting : ctx.control.Resting
  keyed : ctx.mka.crypto.Keyed
  verifying : ctx.mka.verifyIcv = true
  keys : ctx.mka.crypto = MkaCrypto.keysOf aes cak ckn
  identity : start.mka.toParticipant.SameIdentity ctx.mka.toParticipant

theorem member_of_init {cfg : Config} {mi : Octets 12}
    (mode : cfg.mode = .mkaPsk)
    (initialised : init aes cfg mi = (.ok, ctx)) :
    Member aes cfg.cak cfg.ckn ctx ctx := by
  obtain ⟨result, keyed⟩ := init_mkaPsk mode initialised
  refine ⟨init_resting mode initialised, keyed, ?_, ?_, .refl _⟩
  · rw [result]
    rfl
  · rw [result]
    rfl

/-- Every call leaves a member of its association what it is. -/
theorem Member.perform {cak ckn : Bytes} {start : Ctx}
    (member : Member aes cak ckn start ctx) (call : Call) :
    Member aes cak ckn start (perform aes ctx call).1 := by
  obtain ⟨crypto, verifyIcv⟩ :=
    @perform_keys aes ctx (notDisabled_of_resting member.resting) call
  exact ⟨perform_resting member.resting call, crypto ▸ member.keyed,
    verifyIcv.trans member.verifying, crypto.trans member.keys,
    member.identity.trans
      (sameIdentity_of_step member.resting (perform_step member.resting call))⟩

end Macsec
