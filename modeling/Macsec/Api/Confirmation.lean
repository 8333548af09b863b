import Macsec.Api.Identities
import Macsec.Api.Identity

/-!
# What a call does to the latest SAK

A call leaves the latest SAK the one it is, together with what the peer
confirmed of it, or it has the Key Server generate a SAK, or an MKPDU is heard
that may put a SAK in its place or confirm it.
-/

namespace Macsec

namespace Mka

namespace Participant

variable {ctx before after : Participant}

/-- The latest SAK is the one it was and confirmed as it was, and the peer is
the one it was or is lost. -/
structure Retains (before after : Participant) : Prop where
  identity : after.latestSak.identity = before.latestSak.identity
  origin : after.latestSak.origin = before.latestSak.origin
  confirmed :
    after.latestSak.peerRxConfirmed = before.latestSak.peerRxConfirmed
  peer : after.peer.valid = true →
    after.peer = before.peer ∧ after.localKeyServer = before.localKeyServer

namespace Retains

theorem refl (ctx : Participant) : ctx.Retains ctx :=
  ⟨rfl, rfl, rfl, fun _ => ⟨rfl, rfl⟩⟩

theorem trans {first second third : Participant}
    (toSecond : first.Retains second) (toThird : second.Retains third) :
    first.Retains third := by
  refine ⟨toThird.identity.trans toSecond.identity,
    toThird.origin.trans toSecond.origin,
    toThird.confirmed.trans toSecond.confirmed, fun valid => ?_⟩
  obtain ⟨peer, server⟩ := toThird.peer valid
  obtain ⟨peerBefore, serverBefore⟩ := toSecond.peer (peer ▸ valid)
  exact ⟨peer.trans peerBefore, server.trans serverBefore⟩

end Retains

theorem retains_tick (inv : ctx.Inv) (nowMs : UInt32) :
    ctx.Retains (ctx.tick nowMs).2 := by
  obtain ⟨expired, events, reasons, ⟨-, rfl⟩ | ⟨-, rfl⟩, -, result⟩ :=
    tick_cases inv nowMs
  · rw [result]
    exact ⟨rfl, rfl, rfl, fun _ => ⟨rfl, rfl⟩⟩
  · rw [result]
    exact ⟨rfl, rfl, rfl, fun valid => Bool.noConfusion valid⟩

theorem retains_notifyTxSuccess (txMeta : TxMeta) (nowMs : UInt32) :
    ctx.Retains (ctx.notifyTxSuccess txMeta nowMs).2 := by
  rcases ctx.notifyTxSuccess_cases txMeta nowMs with
    ⟨-, same⟩ | ⟨-, -, result⟩
  · rw [same]
    exact .refl ctx
  · rw [result]
    rcases ctx.notifyDistributed_cases txMeta with
      same | ⟨-, -, -, -, -, distributed⟩
    · rw [same]
      exact ⟨rfl, rfl, rfl, fun _ => ⟨rfl, rfl⟩⟩
    · rw [distributed]
      exact ⟨rfl, rfl, rfl, fun _ => ⟨rfl, rfl⟩⟩

end Participant

end Mka

theorem Control.retains_serviced (ctx : Control) :
    ctx.mka.Retains ctx.serviced.mka := by
  have drained : ctx.mka.Retains ctx.drained.mka := by
    unfold Control.drained
    dsimp only
    split
    next => exact ⟨rfl, rfl, rfl, fun _ => ⟨rfl, rfl⟩⟩
    next => exact ⟨rfl, rfl, rfl, fun _ => ⟨rfl, rfl⟩⟩
  unfold serviced
  split
  next => exact drained.trans ⟨rfl, rfl, rfl, fun _ => ⟨rfl, rfl⟩⟩
  next => exact drained.trans ⟨rfl, rfl, rfl, fun _ => ⟨rfl, rfl⟩⟩

/-- A Key Server with a live peer and no SAK generates one for a frame. -/
structure Mka.Participant.Lacks (ctx : Mka.Participant) : Prop where
  server : ctx.localKeyServer = true
  peer : ctx.peer.valid = true
  live : ctx.peer.live = true
  absent : ctx.latestSak.lifecycleState = .none

/-- What a call makes of a participant, as far as its latest SAK and its peer
are concerned. -/
inductive Effect (aes : BlockCipher) (ctx : Ctx) :
    Call → Mka.Participant → Prop
  | retains {call : Call} {after : Mka.Participant}
      (retains : ctx.mka.toParticipant.Retains after) :
      Effect aes ctx call after
  | generates {txMaxLen : Nat} {rnd : Octets 16} {after : Mka.Participant}
      (lacks : ctx.mka.toParticipant.Lacks)
      (latest : after.latestSak = ctx.mka.pendingSak rnd)
      (peer : after.peer = ctx.mka.peer)
      (server : after.localKeyServer = ctx.mka.localKeyServer) :
      Effect aes ctx (.buildControlFrame txMaxLen rnd) after
  | hears {frame plain : Bytes} {rnd : Octets 16} {pdu : Mka.Mkpdu}
      {after : Mka.Participant}
      (accepted : Mka.classify aes ctx.mka frame = .accepted pdu)
      (retains :
        (ctx.mka.processMkpdu pdu rnd ctx.lastTickMs).2.Retains after) :
      Effect aes ctx (.input frame plain rnd) after

variable {aes : BlockCipher} {ctx : Ctx}

theorem effect_of_prompts {call : Call} {before : Control}
    (resting : ctx.control.Resting) (prompts : Prompts aes ctx call before) :
    Effect aes ctx call before.serviced.mka := by
  have serviced := before.retains_serviced
  cases prompts with
  | own isMka own => exact .retains serviced
  | heard isMka accepted processed => exact .hears accepted serviced
  | ticked nowMs =>
      exact .retains
        ((Mka.Participant.retains_tick resting.mka.inv nowMs).trans serviced)
  | reported pending accepted =>
      exact .retains
        ((Mka.Participant.retains_notifyTxSuccess _ _).trans serviced)

/-- Every step has one of these effects. -/
theorem effect_of_step {call : Call} {ret : Err} {after : Control}
    (resting : ctx.control.Resting) (step : Step aes ctx call ret after) :
    Effect aes ctx call after.mka := by
  cases step with
  | passive silent same => exact .retains (.refl _)
  | @built txMaxLen rnd ret mka txMeta pending generated =>
      rcases generated with rfl | rfl
      · exact .retains (.refl _)
      · rcases ctx.mka.toParticipant.ensureForTx_cases rnd with
          same | ⟨server, live, absent, result⟩
        · rw [same]
          exact .retains (.refl _)
        · rw [Bool.and_eq_true] at live
          rw [result]
          exact .generates ⟨server, live.1, live.2, absent⟩ rfl rfl rfl
  | returned => exact .retains ⟨rfl, rfl, rfl, fun _ => ⟨rfl, rfl⟩⟩
  | refused failed => exact .retains (.refl _)
  | failed isMka accepted failed => exact .hears accepted (.refl _)
  | serviced serves prompts serviceable =>
      exact effect_of_prompts resting prompts

end Macsec
