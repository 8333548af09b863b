import Macsec.Mka.RoundTrip

/-!
# When an MKPDU is built

A participant with keys builds the frame that is due, unless it won the
election with a live peer while its latest SAK still comes from another Key
Server.  Every frame fits the buffers of the source.
-/

namespace Macsec

namespace Mka

namespace Participant

variable {ctx : Participant}

/-- A Key Server with a live peer whose latest SAK comes from another Key
Server. -/
def ServesForeignSak (ctx : Participant) : Prop :=
  ctx.localKeyServer = true ∧ (ctx.peer.valid && ctx.peer.live) = true ∧
    ctx.latestSak.origin = .remoteKeyServer

instance (ctx : Participant) : Decidable ctx.ServesForeignSak := by
  unfold ServesForeignSak
  infer_instance

/-- Before a frame is built, only a foreign SAK is an obstacle. -/
theorem ensureForTx_eq_ok_iff (inv : ctx.Inv) (rnd : Octets 16) :
    (ctx.ensureForTx rnd).1 = .ok ↔ ¬ctx.ServesForeignSak := by
  unfold ensureForTx ServesForeignSak
  rw [Bool.and_assoc]
  cases server : ctx.localKeyServer with
  | false => simp
  | true =>
      cases live : ctx.peer.valid && ctx.peer.live with
      | false => simp
      | true =>
          rw [if_pos (by rfl)]
          by_cases absent : ctx.latestSak.lifecycleState = .none
          · rw [keyServerEnsureSak_of_none server live absent,
              inv.latest.eq_cleared absent]
            simp [Sak.cleared]
          · have held := inv.latest.held absent
            rw [keyServerEnsureSak, server, live, if_neg (by decide),
              if_neg (by decide), if_pos absent]
            cases origin : ctx.latestSak.origin with
            | none => exact absurd origin held.origin
            | localKeyServer => simp
            | remoteKeyServer => simp

/-- Every frame fits the work buffer. -/
theorem txMicLen_fits (shape : LatestShape ctx.latestSak) {cknLen : Nat}
    (cknFits : cknLen ≤ caNameMaxLen) :
    ctx.txMicLen cknLen + icvLen ≤ maxFrameLen := by
  have cknBound : caNameMaxLen = 32 := rfl
  have frameBound : maxFrameLen = 512 := rfl
  have icvBound : icvLen = 16 := rfl
  have distributed :
      (if ctx.includeDistributedSak = true then
          4 + 4 + (ctx.latestSak.sak.length + 8) else 0) ≤ 48 := by
    split
    next included =>
        have size := (held_of_includeDistributedSak shape included).1.length
        have keySize :
            ctx.latestSak.sak.length = 16 ∨
              ctx.latestSak.sak.length = 32 := by
          simpa [sakLenValid] using size
        omega
    next => omega
  have peerList :
      (if ctx.includePeerList = true then 4 + 16 else 0) ≤ 20 := by
    split_ifs
    all_goals omega
  have sakUse :
      (if ctx.includeSakUse = true then 4 + 40 else 0) ≤ 44 := by
    split_ifs
    all_goals omega
  rw [txMicLen]
  omega

/-- The only check that can fail is that of the output buffer. -/
theorem txCheck_eq_ok_iff (shape : LatestShape ctx.latestSak) {cknLen : Nat}
    (cknFits : cknLen ≤ caNameMaxLen) (frameMaxLen : Nat) :
    ctx.txCheck cknLen frameMaxLen = .ok ↔
      ctx.txMicLen cknLen + icvLen ≤ frameMaxLen := by
  have fits := txMicLen_fits shape cknFits
  have sized :
      (ctx.includeDistributedSak &&
        !sakLenValid ctx.latestSak.sak.length) = false := by
    cases included : ctx.includeDistributedSak with
    | false => rfl
    | true =>
        rw [(held_of_includeDistributedSak shape included).1.length]
        rfl
  rw [txCheck, sized, if_neg Bool.false_ne_true]
  split
  next tight =>
      refine ⟨fun refused => Err.noConfusion refused, fun room => ?_⟩
      omega
  next room =>
      rw [if_neg (by omega)]
      exact ⟨fun _ => by omega, fun _ => rfl⟩

end Participant

variable {aes : BlockCipher} {ctx : Ctx}

/-- A built frame ends with its integrity check value. -/
theorem ne_nil_of_buildFrame {crypto : MkaCrypto.Ctx} {sender : Participant}
    {frame : Bytes} (keyed : crypto.Keyed)
    (shape : LatestShape sender.latestSak)
    (built : buildFrame aes crypto sender = .ok frame) : frame ≠ [] := by
  obtain ⟨wrapped, icv, result, -⟩ :=
    Participant.exists_buildFrame aes keyed shape
      (Participant.txMicLen_fits shape keyed.ckn)
  rw [built, Except.ok.injEq] at result
  intro empty
  rw [empty, Participant.frameWith, eq_comm, List.append_eq_nil_iff] at result
  have size := icv.2
  rw [result.2] at size
  exact absurd size (by decide)

/-- A frame is built exactly if one is due, no foreign SAK is in the way and the
buffer has room; it is the frame of the participant with the SAK that was
due. -/
theorem buildTxFrame_cases (inv : ctx.toParticipant.Inv)
    (keyed : ctx.crypto.Keyed) (rnd : Octets 16) (frameMaxLen : Nat) :
    let participant := (ctx.toParticipant.ensureForTx rnd).2
    ((buildTxFrame aes ctx rnd frameMaxLen).1 ≠ .ok ∧
      (ctx.txReasons = 0 ∨ ctx.ServesForeignSak ∨
        frameMaxLen <
          participant.txMicLen ctx.crypto.psk.ckn.length + icvLen)) ∨
    (ctx.txReasons ≠ 0 ∧ ¬ctx.ServesForeignSak ∧
      participant.txMicLen ctx.crypto.psk.ckn.length + icvLen ≤
        frameMaxLen ∧
      ∃ frame,
        buildFrame aes ctx.crypto participant = .ok frame ∧
        buildTxFrame aes ctx rnd frameMaxLen =
          (.ok, { ctx with toParticipant := participant }, frame,
            participant.txMeta)) := by
  dsimp only
  have valid : ctx.crypto.keys.valid = true := by
    have ready := keyed.ick
    simp only [MkaCrypto.ickReady, Bool.and_eq_true] at ready
    exact ready.1
  have cknFits : ctx.crypto.psk.ckn.length ≤ caNameMaxLen := keyed.ckn
  have shape := (Participant.ensureForTx_keeps inv rnd).inv.latest
  have ensured := Participant.ensureForTx_eq_ok_iff inv rnd
  unfold buildTxFrame
  rw [valid, if_neg (by decide)]
  by_cases idle : ctx.txReasons = 0
  · rw [if_pos idle]
    exact Or.inl ⟨Err.noConfusion, Or.inl idle⟩
  · rw [if_neg idle, if_neg (Nat.not_lt.mpr cknFits)]
    revert shape ensured
    rcases ctx.toParticipant.ensureForTx rnd with ⟨ret, participant⟩
    intro shape ensured
    dsimp only at shape ensured ⊢
    by_cases foreign : ctx.ServesForeignSak
    · refine Or.inl ⟨?_, Or.inr (Or.inl foreign)⟩
      have failed : ret ≠ .ok := mt ensured.mp (not_not_intro foreign)
      cases ret with
      | ok => exact absurd rfl failed
      | param | buffer | crypto | state | replay | unsupported | auth | timeout
      | notReady | busy => exact Err.noConfusion
    · rw [ensured.mpr foreign]
      dsimp only
      have checked := Participant.txCheck_eq_ok_iff shape cknFits frameMaxLen
      by_cases room :
          participant.txMicLen ctx.crypto.psk.ckn.length + icvLen ≤ frameMaxLen
      · obtain ⟨wrapped, icv, built, -⟩ :=
          Participant.exists_buildFrame aes keyed shape
            (Participant.txMicLen_fits shape cknFits)
        refine Or.inr ⟨idle, foreign, room, _, built, ?_⟩
        rw [checked.mpr room]
        dsimp only
        rw [built]
      · refine Or.inl ⟨?_, Or.inr (Or.inr (Nat.not_le.mp room))⟩
        have failed := mt checked.mp room
        revert failed
        cases participant.txCheck ctx.crypto.psk.ckn.length frameMaxLen with
        | ok => exact fun failed => absurd rfl failed
        | param | buffer | crypto | state | replay | unsupported | auth
        | timeout | notReady | busy => exact fun _ => Err.noConfusion

/-- A built frame has the length that was checked before it was written. -/
theorem length_of_buildFrame {crypto : MkaCrypto.Ctx} {sender : Participant}
    {frame : Bytes} (keyed : crypto.Keyed)
    (shape : LatestShape sender.latestSak)
    (built : buildFrame aes crypto sender = .ok frame) :
    frame.length = sender.txMicLen crypto.psk.ckn.length + icvLen := by
  obtain ⟨wrapped, icv, result, writes, -⟩ :=
    Participant.exists_buildFrame aes keyed shape
      (Participant.txMicLen_fits shape keyed.ckn)
  rw [built, Except.ok.injEq] at result
  rw [result]
  exact Participant.length_frameWith writes icv

/-- What was due, what is left and what fits when a frame was built. -/
theorem buildTxFrame_ok {rnd : Octets 16} {frameMaxLen : Nat} {built : Ctx}
    {frame : Bytes} {txMeta : TxMeta} (inv : ctx.toParticipant.Inv)
    (keyed : ctx.crypto.Keyed)
    (builds :
      buildTxFrame aes ctx rnd frameMaxLen = (.ok, built, frame, txMeta)) :
    let participant := (ctx.toParticipant.ensureForTx rnd).2
    (ctx.txReasons ≠ 0 ∧ ¬ctx.ServesForeignSak) ∧
      built = { ctx with toParticipant := participant } ∧
      txMeta = participant.txMeta ∧
      buildFrame aes ctx.crypto participant = .ok frame ∧
      frame.length ≤ frameMaxLen := by
  dsimp only
  have shape := (Participant.ensureForTx_keeps inv rnd).inv.latest
  rcases buildTxFrame_cases inv keyed rnd frameMaxLen with
    ⟨failed, -⟩ | ⟨due, own, room, written, layout, result⟩
  · rw [builds] at failed
    exact absurd rfl failed
  · rw [builds] at result
    simp only [Prod.mk.injEq, true_and] at result
    obtain ⟨same, sameFrame, sameMeta⟩ := result
    rw [← sameFrame] at layout
    rw [← length_of_buildFrame keyed shape layout] at room
    exact ⟨⟨due, own⟩, same, sameMeta, layout, room⟩

end Mka

end Macsec
