import Macsec.Mka.Authentication
import Macsec.Mka.Scripts

/-!
# Frames that are not transmitted

Building a frame generates the SAK that is due and leaves everything else to
the report of its transmission.  The report of a failure gives back the reasons
that the frame was built for, so that the next attempt builds the same frame.
-/

namespace Macsec

namespace Mka

namespace Participant

variable {ctx : Participant}

/-- What is scheduled stays pending when more is. -/
theorem reasons_and_or (pending reasons : UInt32) :
    pending &&& (pending ||| reasons) = pending := by
  apply UInt32.toBitVec_inj.mp
  ext bit inside
  simp
  intro scheduled
  exact Or.inl scheduled

/-- What has to be generated before a frame is built has been generated
afterwards. -/
theorem ensureForTx_again {rnd : Octets 16}
    (ensured : (ctx.ensureForTx rnd).1 = .ok) (again : Octets 16) :
    (ctx.ensureForTx rnd).2.ensureForTx again =
      (.ok, (ctx.ensureForTx rnd).2) := by
  rcases ctx.ensureForTx_cases rnd with same | ⟨server, live, absent, result⟩
  · have settled : ctx.ensureForTx rnd = (.ok, ctx) := Prod.ext ensured same
    rw [same]
    unfold ensureForTx at settled ⊢
    split at settled
    next due =>
        rw [if_pos due]
        by_cases absent : ctx.latestSak.lifecycleState = .none
        · rw [Bool.and_assoc, Bool.and_eq_true] at due
          rw [keyServerEnsureSak_of_none due.1 due.2 absent] at settled
          have held := congrArg (fun ensured => ensured.2.latestSak) settled
          dsimp only at held
          rw [← held] at absent
          exact SakState.noConfusion absent
        · rw [← settled]
          unfold keyServerEnsureSak
          rw [if_pos absent, if_pos absent]
    next notDue => rw [if_neg notDue]
  · rw [result]
    have due : (ctx.localKeyServer && ctx.peer.valid && ctx.peer.live) =
        true := by
      rw [Bool.and_assoc, server, live]
      rfl
    unfold ensureForTx
    rw [if_pos due]
    unfold keyServerEnsureSak
    dsimp only
    rw [server, live]
    rfl

/-- What a failed transmission must leave alone. -/
structure RolledBack (before after : Participant) : Prop where
  localMn : after.localMn = before.localMn
  lastTxMs : after.lastTxMs = before.lastTxMs
  nextKeyNumber :
    after.keyServerNextKeyNumber = before.keyServerNextKeyNumber
  nextAn : after.keyServerNextAn = before.keyServerNextAn
  oldSak : after.oldSak = before.oldSak
  peer : after.peer = before.peer
  state : after.state = before.state
  latestSak : before.latestSak.lifecycleState ≠ .none →
    after.latestSak = before.latestSak
  txReasons : before.txReasons &&& after.txReasons = before.txReasons

/-- Building a frame leaves it all alone. -/
theorem rolledBack_ensureForTx (rnd : Octets 16) :
    ctx.RolledBack (ctx.ensureForTx rnd).2 := by
  rcases ctx.ensureForTx_cases rnd with same | ⟨-, -, absent, result⟩
  · rw [same]
    exact ⟨rfl, rfl, rfl, rfl, rfl, rfl, rfl, fun _ => rfl,
      UInt32.and_self⟩
  · rw [result]
    refine ⟨rfl, rfl, rfl, rfl, rfl, rfl, rfl, ?_, ?_⟩
    · intro present
      exact absurd absent present
    · exact reasons_and_or ctx.txReasons TxReason.distributeSak

end Participant

/-- A call that builds a frame or reports that the frame with the given metadata
was not transmitted. -/
def Call.Retries (txMeta : TxMeta) : Call → Prop
  | .buildTxFrame _ _ => True
  | .notifyTxFailure failed => failed = txMeta
  | _ => False

variable {aes : BlockCipher} {ctx built : Ctx} {rnd : Octets 16}
  {frameMaxLen : Nat} {frame : Bytes} {txMeta : TxMeta}

/-- Neither building a frame again nor the report of a failure changes anything
once the frame has been built. -/
theorem perform_retries (reachable : Reachable aes ctx)
    (builds :
      buildTxFrame aes ctx rnd frameMaxLen = (.ok, built, frame, txMeta))
    {call : Call} (retries : call.Retries txMeta) :
    (perform aes built call).1 = built := by
  obtain ⟨⟨-, own⟩, same, sameMeta, -, -⟩ :=
    buildTxFrame_ok reachable.inv reachable.keyed.1 builds
  have ensured :=
    (Participant.ensureForTx_eq_ok_iff reachable.inv rnd).mpr own
  cases call with
  | buildTxFrame again room =>
      change (buildTxFrame aes built again room).2.1 = built
      rcases buildTxFrame_participant aes built again room with
        unchanged | generated
      · exact unchanged
      · rw [generated, same, Participant.ensureForTx_again ensured]
  | notifyTxFailure failed =>
      have snapshot : failed.reasons = built.txReasons := by
        rw [show failed = txMeta from retries, sameMeta, same]
        rfl
      change
        { built with
          toParticipant := built.toParticipant.notifyTxFailure failed } =
        built
      rw [Participant.notifyTxFailure, snapshot, UInt32.or_self]
  | input | tick | takeEvents | notifyTxSuccess | takeSakForInstall
  | notifySakInstalled | notifySakRetired => exact retries.elim

/-- Nor does any number of them. -/
theorem final_retries (reachable : Reachable aes ctx)
    (builds :
      buildTxFrame aes ctx rnd frameMaxLen = (.ok, built, frame, txMeta))
    (calls : List Call) (retries : ∀ call ∈ calls, call.Retries txMeta) :
    (machine aes).final built calls = built := by
  induction calls with
  | nil => rfl
  | cons call calls ih =>
      have first :=
        perform_retries reachable builds (retries call List.mem_cons_self)
      change (machine aes).final (perform aes built call).1 calls = built
      rw [first]
      exact ih fun later member =>
        retries later (List.mem_cons_of_mem call member)

/-- A frame that could not be transmitted is built again, octet for octet and
with the same metadata, whatever number of times it was built and reported as
not transmitted in between, and nothing that a transmission commits has been
touched. -/
theorem failed_transmission_rolls_back (reachable : Reachable aes ctx)
    (builds :
      buildTxFrame aes ctx rnd frameMaxLen = (.ok, built, frame, txMeta))
    (calls : List Call) (retries : ∀ call ∈ calls, call.Retries txMeta) :
    let after := (machine aes).final built calls
    frame.length ≤ frameMaxLen ∧
      (∀ again room, frame.length ≤ room →
        buildTxFrame aes after again room = (.ok, after, frame, txMeta)) ∧
      ctx.toParticipant.RolledBack after.toParticipant := by
  dsimp only
  rw [final_retries reachable builds calls retries]
  have builtReachable : Reachable aes built := by
    have stepped := reachable.perform (.buildTxFrame rnd frameMaxLen)
    change Reachable aes (buildTxFrame aes ctx rnd frameMaxLen).2.1 at stepped
    rw [builds] at stepped
    exact stepped
  obtain ⟨⟨due, own⟩, same, sameMeta, layout, fits⟩ :=
    buildTxFrame_ok reachable.inv reachable.keyed.1 builds
  have ensured :=
    (Participant.ensureForTx_eq_ok_iff reachable.inv rnd).mpr own
  have sameParticipant :
      built.toParticipant = (ctx.toParticipant.ensureForTx rnd).2 := by
    rw [same]
  have rolledBack :
      ctx.toParticipant.RolledBack built.toParticipant := by
    rw [sameParticipant]
    exact Participant.rolledBack_ensureForTx rnd
  refine ⟨fits, fun again room enough => ?_, rolledBack⟩
  have settled :
      built.toParticipant.ensureForTx again = (.ok, built.toParticipant) := by
    rw [sameParticipant]
    exact Participant.ensureForTx_again ensured again
  have sameLayout : buildFrame aes built.crypto built.toParticipant =
      .ok frame := by
    rw [sameParticipant, same]
    exact layout
  rcases buildTxFrame_cases builtReachable.inv builtReachable.keyed.1 again
      room with
    ⟨-, idle | foreign | tight⟩ | ⟨-, -, -, written, sameWritten, result⟩
  · have scheduled := rolledBack.txReasons
    rw [idle, UInt32.and_zero] at scheduled
    exact absurd scheduled.symm due
  · have served :=
      (Participant.ensureForTx_eq_ok_iff builtReachable.inv again).mp
        (congrArg Prod.fst settled)
    exact absurd foreign served
  · rw [settled, ← length_of_buildFrame builtReachable.keyed.1
      builtReachable.inv.latest sameLayout] at tight
    exact absurd enough (Nat.not_le.mpr tight)
  · rw [settled] at sameWritten result
    rw [sameLayout, Except.ok.injEq] at sameWritten
    rw [result, sameMeta, sameWritten, ← sameParticipant]

/-- A Key Server that meets its peer generates a SAK, fails to transmit it and
distributes the same one in its second attempt. -/
theorem supplier_rolls_back :
    ∃ ctx built frame txMeta,
      Reachable BlockCipher.null ctx ∧
        ctx.latestSak.lifecycleState = .none ∧
        txMeta.containsDistributedSak = true ∧
        buildTxFrame BlockCipher.null ctx (sakOctets 1) maxFrameLen =
          (.ok, built, frame, txMeta) ∧
        let calls :=
          [.notifyTxFailure txMeta, .buildTxFrame (sakOctets 2) maxFrameLen,
            .notifyTxFailure txMeta]
        let after := (machine BlockCipher.null).final built calls
        frame.length ≤ maxFrameLen ∧
          (∀ again room, frame.length ≤ room →
            buildTxFrame BlockCipher.null after again room =
              (.ok, after, frame, txMeta)) ∧
          ctx.toParticipant.RolledBack after.toParticipant := by
  obtain ⟨ctx, reachable, plays⟩ :=
    @exists_final BlockCipher.null 1 10 11 [.hear admirer (Octets.zero 16) 1]
      (by decide)
  have absent :
      ((stage stationCkn).final (newcomer 1 10 11)
        [.hear admirer (Octets.zero 16) 1]).latestSak.lifecycleState =
        .none := by decide
  obtain ⟨frame, built, result, -⟩ :=
    @StationPlays.build _ _ _ plays (sakOctets 1) (by decide)
  rw [← plays.same] at absent
  refine ⟨ctx, built, frame, _, reachable, absent, by decide, result, ?_⟩
  apply failed_transmission_rolls_back reachable result
  intro call member
  simp only [List.mem_cons, List.not_mem_nil, or_false] at member
  rcases member with rfl | rfl | rfl
  · rfl
  · trivial
  · rfl

end Mka

end Macsec
